import MarketStreamGateway.Feeds.RawNumber
import MarketStreamGateway.Lib.Result
import MarketStreamGateway.Lib.Utf8

/-!
# Market Stream Gateway — the lexeme of a number, byte by byte

`raw_number_field` as the source has it: a cursor into the bytes of the text,
indexed where the loop has checked the bound, with `str::get` for the slices.
An index out of bounds is a fault here, and so is a loop that does not end
within its rounds.

Neither happens, on any text: the scan is the one over characters of
`Feeds.RawNumber` (`scanBytes_text`). A backslash skips two bytes, which may end
within a character, but what is left of it is no quote and no backslash.

`raw_number_field_lexeme` is what the function is for: the digits of the first
number of that name in the document.
-/

namespace MarketStreamGateway

open Lib

/-! ## The scan -/

/-- What stops the scan without a result. -/
inductive ScanFault where
  | outOfBounds
  | outOfRounds
  deriving DecidableEq, Repr

/-- `bytes[cursor]`. -/
def byteAt (bytes : List UInt8) (cursor : Nat) : Except ScanFault UInt8 :=
  match bytes[cursor]? with
  | some byte => .ok byte
  | none => .error .outOfBounds

/-- The inner loop: where the string ends, and whether it has an escape. -/
def keyEnd (bytes : List UInt8) : Nat → Nat → Bool → Except ScanFault (Nat × Bool)
  | 0, _, _ => .error .outOfRounds
  | rounds + 1, cursor, escaped =>
    if cursor < bytes.length then do
      let byte ← byteAt bytes cursor
      if byte = asciiByte '\\' then keyEnd bytes rounds (cursor + 2) true
      else if byte = asciiByte '"' then .ok (cursor, escaped)
      else keyEnd bytes rounds (cursor + 1) escaped
    else .ok (cursor, escaped)

/-- `while bytes.get(cursor).is_some_and(..)`, for a test of ASCII characters. -/
def advanceWhile (bytes : List UInt8) (test : Char → Bool) : Nat → Nat → Except ScanFault Nat
  | 0, _ => .error .outOfRounds
  | rounds + 1, cursor =>
    if bytes[cursor]?.any fun byte => test (Char.ofUInt8 byte) then
      advanceWhile bytes test rounds (cursor + 1)
    else .ok cursor

/-- The skip before and after the colon. -/
def skipAsciiWhitespace (bytes : List UInt8) (cursor : Nat) : Except ScanFault Nat :=
  advanceWhile bytes isAsciiWhitespace (bytes.length + 1) cursor

/-- The outer loop. -/
def scanBytes (bytes field : List UInt8) : Nat → Nat → Except ScanFault (Option (List UInt8))
  | 0, _ => .error .outOfRounds
  | rounds + 1, cursor =>
    if cursor < bytes.length then do
      let byte ← byteAt bytes cursor
      if byte ≠ asciiByte '"' then scanBytes bytes field rounds (cursor + 1)
      else
        let keyStart := cursor + 1
        let (cursor, escaped) ← keyEnd bytes (bytes.length + 1) keyStart false
        if bytes.length ≤ cursor then .ok none
        else if escaped || getSlice bytes keyStart cursor ≠ some field then
          scanBytes bytes field rounds (cursor + 1)
        else
          let cursor ← skipAsciiWhitespace bytes (cursor + 1)
          if bytes[cursor]? ≠ some (asciiByte ':') then scanBytes bytes field rounds cursor
          else
            let numberStart ← skipAsciiWhitespace bytes (cursor + 1)
            let cursor ← advanceWhile bytes isNumberCharacter (bytes.length + 1) numberStart
            if numberStart < cursor then .ok (getSlice bytes numberStart cursor)
            else scanBytes bytes field rounds cursor
    else .ok none

/-- `raw_number_field` on the bytes of the two texts. Every round moves the
cursor, so the length bounds the rounds. -/
def rawNumberFieldBytes (text field : Text) : Except ScanFault (Option (List UInt8)) :=
  scanBytes (utf8 text) (utf8 field) ((utf8 text).length + 1) 0

/-! ## Reading at a cursor -/

section Cursor

variable {bytes : List UInt8} {cursor : Nat}

/-- A cursor is where the bytes that are left begin. -/
theorem getElem?_of_drop {byte : UInt8} {rest : List UInt8} (h : bytes.drop cursor = byte :: rest) :
    bytes[cursor]? = some byte := by
  have hGet : (bytes.drop cursor)[0]? = some byte := by rw [h]; rfl
  rwa [List.getElem?_drop, Nat.add_zero] at hGet

/-- Reading at a cursor finds the first byte that is left, and never faults. -/
theorem byteAt_of_drop {byte : UInt8} {rest : List UInt8} (h : bytes.drop cursor = byte :: rest) :
    byteAt bytes cursor = .ok byte := by
  rw [byteAt, getElem?_of_drop h]

/-- While a byte is left the cursor is inside the text. -/
theorem lt_of_drop {byte : UInt8} {rest : List UInt8} (h : bytes.drop cursor = byte :: rest) :
    cursor < bytes.length := by
  by_contra hNot
  rw [List.drop_of_length_le (Nat.le_of_not_lt hNot)] at h
  cases h

/-- One byte further, one byte less is left. -/
theorem drop_succ_of_drop {byte : UInt8} {rest : List UInt8}
    (h : bytes.drop cursor = byte :: rest) :
    bytes.drop (cursor + 1) = rest :=
  @drop_add_of_drop bytes cursor [byte] rest h

theorem le_of_drop_nil (h : bytes.drop cursor = []) : bytes.length ≤ cursor :=
  List.drop_eq_nil_iff.mp h

end Cursor

/-! ## The loops on a text -/

section Loops

variable {bytes : List UInt8} {cursor : Nat}

/-- Bytes that are neither quote nor backslash are passed over. -/
theorem keyEnd_skip {skipped rest : List UInt8}
    (hPlain : ∀ byte ∈ skipped, byte ≠ asciiByte '"' ∧ byte ≠ asciiByte '\\')
    (h : bytes.drop cursor = skipped ++ rest) (rounds : Nat) (escaped : Bool) :
    keyEnd bytes (skipped.length + rounds) cursor escaped =
      keyEnd bytes rounds (cursor + skipped.length) escaped := by
  induction skipped generalizing cursor with
  | nil => rw [List.length_nil, Nat.zero_add, Nat.add_zero]
  | cons byte skipped ih =>
    rw [List.cons_append] at h
    obtain ⟨hQuote, hEscape⟩ := hPlain byte List.mem_cons_self
    have hRest := ih (fun more hMore => hPlain more (List.mem_cons_of_mem _ hMore))
      (drop_succ_of_drop h)
    rw [List.length_cons, Nat.add_right_comm, keyEnd, if_pos (lt_of_drop h), byteAt_of_drop h,
      ok_bind, if_neg hEscape, if_neg hQuote, hRest, Nat.add_assoc, Nat.add_comm 1]

/-- Bytes that are no quote are passed over. -/
theorem scanBytes_skip {field skipped rest : List UInt8}
    (hPlain : ∀ byte ∈ skipped, byte ≠ asciiByte '"') (h : bytes.drop cursor = skipped ++ rest)
    (rounds : Nat) :
    scanBytes bytes field (skipped.length + rounds) cursor =
      scanBytes bytes field rounds (cursor + skipped.length) := by
  induction skipped generalizing cursor with
  | nil => rw [List.length_nil, Nat.zero_add, Nat.add_zero]
  | cons byte skipped ih =>
    rw [List.cons_append] at h
    have hRest := ih (fun more hMore => hPlain more (List.mem_cons_of_mem _ hMore))
      (drop_succ_of_drop h)
    rw [List.length_cons, Nat.add_right_comm, scanBytes, if_pos (lt_of_drop h), byteAt_of_drop h,
      ok_bind, if_pos (hPlain byte List.mem_cons_self), hRest, Nat.add_assoc, Nat.add_comm 1]

/-- The bytes of a character hold an ASCII byte only if they are its byte. -/
theorem ne_of_mem_encodeChar {c d : Char} (hd : d.toNat < 128) (hNe : c ≠ d) {byte : UInt8}
    (h : byte ∈ String.utf8EncodeChar c) : byte ≠ asciiByte d := by
  rintro rfl
  exact hNe (mem_utf8EncodeChar hd h)

/-- A scanned string, its quote and the rest make up the text. -/
theorem scanString_split {text key rest : Text} {escaped : Bool}
    (h : scanString text = some (key, escaped, rest)) : text = key ++ '"' :: rest := by
  induction text using scanString.induct generalizing key escaped with
  | case1 => cases h
  -- the closing quote
  | case2 rest' =>
    rw [scanString] at h
    cases h
    rfl
  -- an escaped character is skipped with its backslash
  | case3 c text ih =>
    rw [scanString] at h
    obtain ⟨⟨key', escaped', rest'⟩, hRest, hEq⟩ := Option.map_eq_some_iff.mp h
    cases hEq
    rw [ih hRest]
    rfl
  | case4 => cases h
  | case5 c text hQuote hEscape hEnd ih =>
    rw [scanString] at h
    · obtain ⟨⟨key', escaped', rest'⟩, hRest, hEq⟩ := Option.map_eq_some_iff.mp h
      cases hEq
      rw [ih hRest]
      rfl
    all_goals assumption

/-- What the inner loop finds, if the string has an end and if not. -/
def KeyFound (bytes : List UInt8) (cursor : Nat) (escaped : Bool) (found : Nat × Bool) :
    Option (Text × Bool × Text) → Prop
  | none => bytes.length ≤ found.1
  | some (key, escapes, _) => found = (cursor + (utf8 key).length, escaped || escapes)

/-- **The inner loop.** It ends, within the text or behind it, where the string
does. -/
theorem keyEnd_text {rest : Text} (h : bytes.drop cursor = utf8 rest) {rounds : Nat}
    (hRounds : (utf8 rest).length < rounds) (escaped : Bool) :
    ∃ found, keyEnd bytes rounds cursor escaped = .ok found ∧
      KeyFound bytes cursor escaped found (scanString rest) := by
  induction rest using scanString.induct generalizing cursor rounds escaped with
  | case1 =>
    obtain ⟨rounds, rfl⟩ := Nat.exists_eq_succ_of_ne_zero (Nat.ne_zero_of_lt hRounds)
    have hEnd := le_of_drop_nil h
    exact ⟨(cursor, escaped), by rw [keyEnd, if_neg (Nat.not_lt.mpr hEnd)], hEnd⟩
  | case2 rest =>
    obtain ⟨rounds, rfl⟩ := Nat.exists_eq_succ_of_ne_zero (Nat.ne_zero_of_lt hRounds)
    rw [utf8_cons_ascii (by decide)] at h
    refine ⟨(cursor, escaped), ?_, ?_⟩
    · rw [keyEnd, if_pos (lt_of_drop h), byteAt_of_drop h, ok_bind, if_neg (by decide),
        if_pos rfl]
    · rw [scanString, KeyFound, utf8_nil, List.length_nil, Nat.add_zero, Bool.or_false]
  | case3 c rest ih =>
    obtain ⟨rounds, rfl⟩ := Nat.exists_eq_succ_of_ne_zero (Nat.ne_zero_of_lt hRounds)
    obtain ⟨byte, more, hBytes, -, hMore⟩ := utf8EncodeChar_head c
    rw [utf8_cons_ascii (by decide), utf8_cons, hBytes,
      List.cons_append] at h
    rw [utf8_cons_ascii (by decide), utf8_cons, hBytes,
      List.length_cons, List.length_append, List.length_cons] at hRounds
    -- what is left of the escaped character behind the two bytes
    have hLeft : bytes.drop (cursor + 2) = more ++ utf8 rest :=
      drop_succ_of_drop (drop_succ_of_drop h)
    have hPlain : ∀ byte ∈ more, byte ≠ asciiByte '"' ∧ byte ≠ asciiByte '\\' :=
      fun byte hByte => ⟨ne_asciiByte_of_high (by decide) (hMore byte hByte),
        ne_asciiByte_of_high (by decide) (hMore byte hByte)⟩
    obtain ⟨left, rfl⟩ := Nat.exists_eq_add_of_le (by omega : more.length ≤ rounds)
    obtain ⟨found, hFound, hKey⟩ := ih (drop_add_of_drop hLeft) (by omega : _ < left) true
    refine ⟨found, ?_, ?_⟩
    · rw [keyEnd, if_pos (lt_of_drop h), byteAt_of_drop h, ok_bind, if_pos rfl,
        keyEnd_skip hPlain hLeft, hFound]
    · rw [scanString]
      cases hScan : scanString rest with
      | none =>
        rw [hScan] at hKey
        exact hKey
      | some scanned =>
        obtain ⟨key, escapes, rest'⟩ := scanned
        rw [hScan] at hKey
        rw [Option.map_some, KeyFound]
        rw [KeyFound] at hKey
        rw [hKey, utf8_cons_ascii (by decide), utf8_cons, hBytes]
        simp only [List.length_append, List.length_cons, Bool.true_or,
          Bool.or_true, Prod.mk.injEq, and_true]
        omega
  | case4 =>
    obtain ⟨rounds, rfl⟩ := Nat.exists_eq_succ_of_ne_zero (Nat.ne_zero_of_lt hRounds)
    rw [utf8_cons_ascii (by decide)] at h hRounds
    obtain ⟨rounds, rfl⟩ := Nat.exists_eq_succ_of_ne_zero (by simp at hRounds; omega : rounds ≠ 0)
    have hEnd : bytes.length ≤ cursor + 2 :=
      Nat.le_succ_of_le (le_of_drop_nil (drop_succ_of_drop h))
    refine ⟨(cursor + 2, true), ?_, hEnd⟩
    rw [keyEnd, if_pos (lt_of_drop h), byteAt_of_drop h, ok_bind, if_pos rfl, keyEnd,
      if_neg (Nat.not_lt.mpr hEnd)]
  | case5 c rest hQuote hEscape hEnd ih =>
    have hPlain : c ≠ '\\' := by
      intro hc
      cases rest with
      | nil => exact hEnd hc rfl
      | cons d rest => exact hEscape d rest hc rfl
    rw [utf8_cons] at h
    rw [utf8_cons, List.length_append] at hRounds
    have hBytes : ∀ byte ∈ String.utf8EncodeChar c,
        byte ≠ asciiByte '"' ∧ byte ≠ asciiByte '\\' :=
      fun byte hByte => ⟨ne_of_mem_encodeChar (by decide) hQuote hByte,
        ne_of_mem_encodeChar (by decide) hPlain hByte⟩
    obtain ⟨left, rfl⟩ := Nat.exists_eq_add_of_le
      (by omega : (String.utf8EncodeChar c).length ≤ rounds)
    obtain ⟨found, hFound, hKey⟩ := ih (drop_add_of_drop h) (by omega : _ < left) escaped
    refine ⟨found, by rw [keyEnd_skip hBytes h, hFound], ?_⟩
    rw [scanString_cons hQuote hPlain]
    cases hScan : scanString rest with
    | none =>
      rw [hScan] at hKey
      exact hKey
    | some scanned =>
      obtain ⟨key, escapes, rest'⟩ := scanned
      rw [hScan] at hKey
      rw [Option.map_some, KeyFound]
      rw [KeyFound] at hKey
      rw [hKey, utf8_cons, List.length_append, Nat.add_assoc]

/-- **The loops that pass over characters.** A test that only ASCII characters
meet is met by the same bytes. -/
theorem advanceWhile_text {test : Char → Bool} (hAscii : ∀ c, test c = true → c.toNat < 128)
    {rest : Text} (h : bytes.drop cursor = utf8 rest) {rounds : Nat}
    (hRounds : (utf8 rest).length < rounds) :
    advanceWhile bytes test rounds cursor =
      .ok (cursor + (utf8 (rest.takeWhile test)).length) := by
  induction rest generalizing cursor rounds with
  | nil =>
    obtain ⟨rounds, rfl⟩ := Nat.exists_eq_succ_of_ne_zero (Nat.ne_zero_of_lt hRounds)
    have hNone : bytes[cursor]? = none := List.getElem?_eq_none (le_of_drop_nil h)
    rw [advanceWhile, hNone]
    rfl
  | cons c rest ih =>
    obtain ⟨rounds, rfl⟩ := Nat.exists_eq_succ_of_ne_zero (Nat.ne_zero_of_lt hRounds)
    by_cases hTest : test c = true
    · rw [utf8_cons_ascii (hAscii c hTest)] at h
      rw [utf8_cons_ascii (hAscii c hTest), List.length_cons] at hRounds
      -- an ASCII character is one byte, and its test is the byte's
      have hMet : bytes[cursor]?.any (fun byte => test (Char.ofUInt8 byte)) = true := by
        rw [getElem?_of_drop h]
        exact (congrArg test (ofUInt8_asciiByte (hAscii c hTest))).trans hTest
      rw [advanceWhile, if_pos hMet, ih (drop_succ_of_drop h) (Nat.lt_of_succ_lt_succ hRounds),
        List.takeWhile_cons_of_pos hTest, utf8_cons_ascii (hAscii c hTest), List.length_cons,
        Nat.add_assoc, Nat.add_comm 1]
    · obtain ⟨byte, more, hBytes, -, -⟩ := utf8EncodeChar_head c
      rw [utf8_cons, hBytes, List.cons_append] at h
      -- the first byte of any character that fails the test fails it too
      have hMissed : ¬ bytes[cursor]?.any (fun byte => test (Char.ofUInt8 byte)) = true := by
        rw [getElem?_of_drop h]
        exact fun hMet => hTest ((test_head hAscii hBytes).symm.trans hMet)
      rw [advanceWhile, if_neg hMissed, List.takeWhile_cons_of_neg hTest, utf8_nil,
        List.length_nil, Nat.add_zero]

/-- What is left is no longer than the text. -/
theorem length_le_of_drop {rest : List UInt8} (h : bytes.drop cursor = rest) :
    rest.length ≤ bytes.length := by
  rw [← h, List.length_drop]
  exact Nat.sub_le _ _

/-- White space is one byte wide, so skipping it stays on a boundary. -/
theorem isAsciiWhitespace_ascii (c : Char) (h : isAsciiWhitespace c = true) : c.toNat < 128 := by
  simp only [isAsciiWhitespace, Bool.or_eq_true, decide_eq_true_eq] at h
  rcases h with (((rfl | rfl) | rfl) | rfl) | hFeed
  · decide
  · decide
  · decide
  · decide
  · rw [Char.toNat, hFeed]
    decide

/-- The characters of a number are one byte wide too. -/
theorem isNumberCharacter_ascii (c : Char) (h : isNumberCharacter c = true) : c.toNat < 128 := by
  simp only [isNumberCharacter, Bool.or_eq_true, decide_eq_true_eq] at h
  rcases h with ((((hDigit | rfl) | rfl) | rfl) | rfl) | rfl
  · simp only [Char.isDigit, Bool.and_eq_true, decide_eq_true_eq] at hDigit
    have hNine : c.val.toNat ≤ 57 := hDigit.2
    exact Nat.lt_of_le_of_lt hNine (by decide)
  · decide
  · decide
  · decide
  · decide
  · decide

/-- `skip_ascii_whitespace` on a text. -/
theorem skipAsciiWhitespace_text {rest : Text} (hIn : cursor ≤ bytes.length)
    (h : bytes.drop cursor = utf8 rest) :
    ∃ next, skipAsciiWhitespace bytes cursor = .ok next ∧ next ≤ bytes.length ∧
      bytes.drop next = utf8 (rest.dropWhile isAsciiWhitespace) := by
  have hSplit : bytes.drop cursor = utf8 (rest.takeWhile isAsciiWhitespace) ++
      utf8 (rest.dropWhile isAsciiWhitespace) := by
    rw [h, ← utf8_append, List.takeWhile_append_dropWhile]
  refine ⟨_, advanceWhile_text isAsciiWhitespace_ascii h ?_, add_le_of_drop hIn hSplit,
    drop_add_of_drop hSplit⟩
  exact Nat.lt_succ_of_le (length_le_of_drop h)

end Loops

/-! ## The scan of a text -/

/-- What is left of a text is shorter, in characters and in bytes. -/
theorem dropWhile_le (test : Char → Bool) (text : Text) :
    (text.dropWhile test).length ≤ text.length ∧
      (utf8 (text.dropWhile test)).length ≤ (utf8 text).length := by
  refine ⟨(List.dropWhile_suffix test).length_le, ?_⟩
  calc (utf8 (text.dropWhile test)).length
      ≤ (utf8 (text.takeWhile test)).length + (utf8 (text.dropWhile test)).length :=
        Nat.le_add_left _ _
    _ = (utf8 text).length := by
        rw [← List.length_append, ← utf8_append, List.takeWhile_append_dropWhile]

/-- A text starts with a colon exactly if its bytes do. -/
theorem getElem?_colon {bytes : List UInt8} {cursor : Nat} {rest : Text}
    (h : bytes.drop cursor = utf8 rest) :
    bytes[cursor]? = some (asciiByte ':') ↔ rest.head? = some ':' := by
  have hGet : bytes[cursor]? = (utf8 rest)[0]? := by
    rw [← h, List.getElem?_drop, Nat.add_zero]
  rw [hGet]
  cases rest with
  | nil => simp
  | cons c rest =>
    obtain ⟨byte, more, hBytes, -, -⟩ := utf8EncodeChar_head c
    rw [utf8_cons, hBytes]
    simp only [List.cons_append, List.getElem?_cons_zero, Option.some.injEq, List.head?_cons]
    constructor
    · -- the byte of a colon occurs in no other character
      rintro rfl
      exact mem_utf8EncodeChar (by decide) (hBytes ▸ List.mem_cons_self)
    · rintro rfl
      rw [utf8EncodeChar_ascii (by decide)] at hBytes
      exact (List.cons.inj hBytes).1.symm

section Name

variable {bytes : List UInt8} {field : Text} {steps rounds : Nat}
  (hScan : ∀ {rest : Text} {cursor : Nat}, rest.length ≤ steps → cursor ≤ bytes.length →
    bytes.drop cursor = utf8 rest → (utf8 rest).length < rounds →
    scanBytes bytes (utf8 field) rounds cursor = .ok ((scanNumber field steps rest).map utf8))

include hScan

/-- The part of a round behind the colon. -/
theorem scanBytes_number {rest : Text} {cursor : Nat} (hSteps : rest.length ≤ steps)
    (hIn : cursor ≤ bytes.length) (h : bytes.drop cursor = utf8 rest)
    (hRounds : (utf8 rest).length < rounds) :
    (advanceWhile bytes isNumberCharacter (bytes.length + 1) cursor >>= fun stop =>
      if cursor < stop then .ok (getSlice bytes cursor stop)
      else scanBytes bytes (utf8 field) rounds stop) =
      .ok ((if (rest.takeWhile isNumberCharacter).isEmpty then scanNumber field steps rest
        else some (rest.takeWhile isNumberCharacter)).map utf8) := by
  rw [advanceWhile_text isNumberCharacter_ascii h (Nat.lt_succ_of_le (length_le_of_drop h)),
    ok_bind]
  cases hNumber : rest.takeWhile isNumberCharacter with
  | nil =>
    rw [utf8_nil, List.length_nil, Nat.add_zero, if_neg (Nat.lt_irrefl cursor),
      if_pos List.isEmpty_nil]
    exact hScan hSteps hIn h hRounds
  | cons c number =>
    have hSplit : bytes.drop cursor =
        utf8 (c :: number) ++ utf8 (rest.dropWhile isNumberCharacter) := by
      rw [h, ← utf8_append, ← hNumber, List.takeWhile_append_dropWhile]
    -- the number is not empty, so the cursor moves
    have hSome : 0 < (utf8 (c :: number)).length := by
      obtain ⟨byte, more, hBytes, -, -⟩ := utf8EncodeChar_head c
      rw [utf8_cons, hBytes]
      exact Nat.succ_pos _
    rw [if_pos (Nat.lt_add_of_pos_right hSome), getSlice_text hIn hSplit, if_neg (by simp)]
    rfl

/-- The part of a round behind a string that is the name. -/
theorem scanBytes_name {rest : Text} {cursor : Nat} (hSteps : rest.length ≤ steps)
    (hIn : cursor ≤ bytes.length) (h : bytes.drop cursor = utf8 rest)
    (hRounds : (utf8 rest).length < rounds) :
    (skipAsciiWhitespace bytes cursor >>= fun cursor =>
      if bytes[cursor]? ≠ some (asciiByte ':') then scanBytes bytes (utf8 field) rounds cursor
      else
        skipAsciiWhitespace bytes (cursor + 1) >>= fun numberStart =>
          advanceWhile bytes isNumberCharacter (bytes.length + 1) numberStart >>= fun stop =>
            if numberStart < stop then .ok (getSlice bytes numberStart stop)
            else scanBytes bytes (utf8 field) rounds stop) =
      .ok (Option.map utf8 (match rest.dropWhile isAsciiWhitespace with
        | ':' :: rest =>
          let rest := rest.dropWhile isAsciiWhitespace
          let number := rest.takeWhile isNumberCharacter
          if number.isEmpty then scanNumber field steps rest else some number
        | rest => scanNumber field steps rest)) := by
  obtain ⟨colon, hColon, hColonIn, hColonDrop⟩ := skipAsciiWhitespace_text hIn h
  obtain ⟨hShort, hBytes⟩ := dropWhile_le isAsciiWhitespace rest
  rw [hColon, ok_bind]
  -- the name must be followed by a colon, or it was no name
  split
  · next hMissing =>
    rw [ne_eq, getElem?_colon hColonDrop] at hMissing
    split
    · next rest' hRest =>
      rw [hRest] at hMissing
      exact absurd rfl hMissing
    · exact hScan (Nat.le_trans hShort hSteps) hColonIn hColonDrop
        (Nat.lt_of_le_of_lt hBytes hRounds)
  · next hFound =>
    rw [ne_eq, not_not, getElem?_colon hColonDrop] at hFound
    obtain ⟨rest', hRest⟩ := List.head?_eq_some_iff.mp hFound
    rw [hRest] at hColonDrop hShort hBytes ⊢
    rw [utf8_cons_ascii (by decide)] at hColonDrop hBytes
    obtain ⟨start, hStart, hStartIn, hStartDrop⟩ :=
      skipAsciiWhitespace_text (lt_of_drop hColonDrop) (drop_succ_of_drop hColonDrop)
    obtain ⟨hShorter, hLess⟩ := dropWhile_le isAsciiWhitespace rest'
    rw [List.length_cons] at hShort hBytes
    rw [hStart, ok_bind]
    exact scanBytes_number hScan (by omega) hStartIn hStartDrop (by omega)

/-- A round that starts at a quote. -/
theorem scanBytes_quote {rest : Text} {cursor : Nat} (hSteps : rest.length ≤ steps)
    (h : bytes.drop cursor = asciiByte '"' :: utf8 rest) (hRounds : (utf8 rest).length < rounds) :
    scanBytes bytes (utf8 field) (rounds + 1) cursor =
      .ok ((scanNumber field (steps + 1) ('"' :: rest)).map utf8) := by
  have hKey : bytes.drop (cursor + 1) = utf8 rest := drop_succ_of_drop h
  have hEnough : (utf8 rest).length < bytes.length + 1 :=
    Nat.lt_succ_of_le (length_le_of_drop hKey)
  obtain ⟨⟨stop, escaped⟩, hStop, hFound⟩ := keyEnd_text hKey hEnough false
  rw [scanBytes, if_pos (lt_of_drop h), byteAt_of_drop h, ok_bind, if_neg (not_not_intro rfl)]
  dsimp only
  rw [hStop, ok_bind, scanNumber, if_neg (not_not_intro rfl)]
  dsimp only
  cases hString : scanString rest with
  | none =>
    have hEnd : bytes.length ≤ stop := by rwa [hString] at hFound
    rw [if_pos hEnd]
    rfl
  | some scanned =>
    obtain ⟨key, escapes, rest'⟩ := scanned
    rw [hString, KeyFound, Bool.false_or] at hFound
    obtain ⟨rfl, rfl⟩ := Prod.mk.inj hFound
    obtain rfl := scanString_split hString
    rw [utf8_append, utf8_cons_ascii (by decide)] at hKey hRounds
    rw [List.length_append, List.length_cons] at hRounds hSteps
    have hQuote := drop_add_of_drop hKey
    -- the slice between the quotes is the key, byte for byte
    have hSlice : getSlice bytes (cursor + 1) (cursor + 1 + (utf8 key).length) =
        some (utf8 key) := by
      refine @getSlice_text _ _ key ('"' :: rest') (lt_of_drop h) ?_
      rw [hKey, utf8_cons_ascii (by decide)]
    have hSame : decide (some (utf8 key) ≠ some (utf8 field)) = decide (key ≠ field) := by
      simp only [ne_eq, Option.some.injEq, utf8_injective.eq_iff]
    rw [if_neg (Nat.not_le.mpr (lt_of_drop hQuote)), hSlice, hSame]
    dsimp only
    split
    · exact hScan (by omega) (lt_of_drop hQuote) (drop_succ_of_drop hQuote) (by omega)
    · exact scanBytes_name hScan (by omega) (lt_of_drop hQuote) (drop_succ_of_drop hQuote)
        (by omega)

end Name

/-- **The scan.** On the bytes of a text it finds what the scan over its characters
finds, with no fault. -/
theorem scanBytes_text {bytes : List UInt8} {field : Text} {steps : Nat} {rest : Text}
    (hSteps : rest.length ≤ steps) {cursor : Nat} (hIn : cursor ≤ bytes.length)
    (h : bytes.drop cursor = utf8 rest) {rounds : Nat} (hRounds : (utf8 rest).length < rounds) :
    scanBytes bytes (utf8 field) rounds cursor = .ok ((scanNumber field steps rest).map utf8) := by
  induction steps generalizing rest cursor rounds with
  | zero =>
    obtain rfl := List.length_eq_zero_iff.mp (Nat.le_zero.mp hSteps)
    obtain ⟨rounds, rfl⟩ := Nat.exists_eq_succ_of_ne_zero (Nat.ne_zero_of_lt hRounds)
    rw [scanBytes, if_neg (Nat.not_lt.mpr (le_of_drop_nil h))]
    rfl
  | succ steps ih =>
    cases rest with
    | nil =>
      obtain ⟨rounds, rfl⟩ := Nat.exists_eq_succ_of_ne_zero (Nat.ne_zero_of_lt hRounds)
      rw [scanBytes, if_neg (Nat.not_lt.mpr (le_of_drop_nil h))]
      rfl
    | cons c rest =>
      rw [List.length_cons] at hSteps
      by_cases hQuote : c = '"'
      · -- a quote opens a name, which the scanner takes in one go
        subst hQuote
        rw [utf8_cons_ascii (by decide)] at h hRounds
        obtain ⟨rounds, rfl⟩ := Nat.exists_eq_succ_of_ne_zero (Nat.ne_zero_of_lt hRounds)
        rw [List.length_cons] at hRounds
        exact scanBytes_quote (fun hShort hIn h hLess => ih hShort hIn h hLess)
          (Nat.le_of_succ_le_succ hSteps) h (Nat.lt_of_succ_lt_succ hRounds)
      · -- the scanner skips byte by byte, and no byte of another character is a quote
        rw [utf8_cons] at h
        rw [utf8_cons, List.length_append] at hRounds
        obtain ⟨left, rfl⟩ := Nat.exists_eq_add_of_le
          (by omega : (String.utf8EncodeChar c).length ≤ rounds)
        rw [scanBytes_skip (fun byte hByte => ne_of_mem_encodeChar (by decide) hQuote hByte) h,
          scanNumber, if_pos hQuote]
        exact ih (by omega) (add_le_of_drop hIn h) (drop_add_of_drop h) (by omega)

/-- Bytes and characters agree on every text. -/
theorem rawNumberFieldBytes_eq (text field : Text) :
    rawNumberFieldBytes text field = .ok ((rawNumberField text field).map utf8) :=
  scanBytes_text (Nat.le_refl _) (Nat.zero_le _) rfl (Nat.lt_succ_self _)

/-- **The lexeme of a number.** On every text the scan ends without a fault; on a
JSON text it returns the digits of the first number, in the order of the text and
at any depth, whose key is written as the field, and nothing if there is none. -/
theorem raw_number_field_lexeme (text field : Text) :
    (∃ found, rawNumberFieldBytes text field = .ok found) ∧
    ∀ v : Lexical, Spells v.tokens text →
      rawNumberFieldBytes text field =
        .ok ((v.numbers.find? fun member => member.1.1 = field ∧ '\\' ∉ member.1.1).map
          fun member => utf8 member.2.text) := by
  refine ⟨⟨_, rawNumberFieldBytes_eq text field⟩, fun v hSpells => ?_⟩
  have hEnd : ([] : List Token).head? ≠ some .colon := nofun
  have hFirst := v.firstNumber_tokens field hEnd
  rw [List.append_nil, firstNumber, Option.or_none] at hFirst
  rw [rawNumberFieldBytes_eq, rawNumberField_spells hSpells, hFirst, Lexical.firstNamed,
    Option.map_map, Option.map_map]
  rfl

/-- A number with a fraction, for closed documents. -/
def fractionToken : NumberToken where
  negative := false
  whole := ['2']
  fraction := some ['5', '0']
  exponent := none
  nonempty := by decide
  canonical := by decide
  isDigits := isDigits_of_all rfl
  fractionDigits := by
    rintro _ ⟨⟩
    exact ⟨by decide, isDigits_of_all rfl⟩

/-- The number 7. -/
def plainToken : NumberToken where
  negative := false
  whole := ['7']
  fraction := none
  exponent := none
  nonempty := by decide
  canonical := by decide
  isDigits := isDigits_of_all rfl
  fractionDigits := no_fractionDigits

/-- A document in which an escaped key, a string value and a member that is no
number stand before the number of the name `p`, which is nested. -/
def decoyDocument : Lexical :=
  .object [
    (Raw.of "p\\\"".toList, .number plainToken),
    (Raw.of "é".toList, .string (Raw.of "p".toList)),
    (Raw.of "p".toList, .string (Raw.of "x".toList)),
    (Raw.of "q".toList, .object [(Raw.of "p".toList, .number fractionToken)]),
    (Raw.of "p".toList, .number plainToken)]

theorem raw_number_field_lexeme_decoys :
    Spells decoyDocument.tokens (decoyDocument.tokens.flatMap Token.text) ∧
      rawNumberFieldBytes (decoyDocument.tokens.flatMap Token.text) "p".toList =
        .ok (some (utf8 "2.50".toList)) := by
  have hSpells : Spells decoyDocument.tokens (decoyDocument.tokens.flatMap Token.text) :=
    spells_compact rfl
  refine ⟨hSpells, ?_⟩
  exact ((raw_number_field_lexeme _ _).2 decoyDocument hSpells).trans rfl

end MarketStreamGateway
