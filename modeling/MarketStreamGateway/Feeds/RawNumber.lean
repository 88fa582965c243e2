import MarketStreamGateway.Lib.Lexeme

/-!
# Market Stream Gateway — the lexeme of a number

`raw_number_field`, which two venues use to publish the digits of a JSON number
as they were sent: the document keeps only the number. The function scans the
text of a frame for a key and returns the number token after it.

The source scans bytes. The characters it looks for are ASCII and the text is a
JSON document, where a backslash is followed by an ASCII character, so scanning
characters is the same.

`rawNumberField_spells` says which number that is: the first one of that name in
the text, at whatever depth.
-/

namespace MarketStreamGateway

open Lib

/-- `u8::is_ascii_whitespace`. -/
def isAsciiWhitespace (c : Char) : Bool :=
  c = ' ' || c = '\t' || c = '\n' || c = '\r' || c.val = 12

/-- The characters of a number token. -/
def isNumberCharacter (c : Char) : Bool :=
  c.isDigit || c = '-' || c = '+' || c = '.' || c = 'e' || c = 'E'

/-- The content of a string, from behind its opening quote, whether it has an
escape, and the text behind its closing quote. -/
def scanString : Text → Option (Text × Bool × Text)
  | [] => none
  | '"' :: rest => some ([], false, rest)
  | '\\' :: c :: rest => (scanString rest).map fun s => ('\\' :: c :: s.1, true, s.2.2)
  | ['\\'] => none
  | c :: rest => (scanString rest).map fun s => (c :: s.1, s.2.1, s.2.2)

/-- The rounds of the scanning loop; each takes at least one character. -/
def scanNumber (field : Text) : Nat → Text → Option Text
  | 0, _ => none
  | _ + 1, [] => none
  | fuel + 1, c :: rest =>
    if c ≠ '"' then scanNumber field fuel rest
    else match scanString rest with
      | none => none
      | some (key, escaped, rest) =>
        if escaped || key ≠ field then scanNumber field fuel rest
        else match rest.dropWhile isAsciiWhitespace with
          | ':' :: rest =>
            let rest := rest.dropWhile isAsciiWhitespace
            let number := rest.takeWhile isNumberCharacter
            if number.isEmpty then scanNumber field fuel rest else some number
          | rest => scanNumber field fuel rest

/-- `raw_number_field`, on characters: the number after the first unescaped
string that equals the name and is followed by a colon and a number. -/
def rawNumberField (text field : Text) : Option Text := scanNumber field text.length text

example : rawNumberField "\x7b\"a\":\"p\",\"p\" : 6.50,\"p\":7\x7d".toList "p".toList =
    some "6.50".toList := by decide

/-! ## Scanning tokens -/

/-- There is nothing to find in an empty text. -/
theorem scanNumber_nil (field : Text) (fuel : Nat) : scanNumber field fuel [] = none := by
  cases fuel <;> rfl

/-- Characters outside of strings are passed over. -/
theorem scanNumber_skip {field x : Text} (h : '"' ∉ x) (fuel : Nat) (rest : Text) :
    scanNumber field (x.length + fuel) (x ++ rest) = scanNumber field fuel rest := by
  induction x with
  | nil => rw [List.length_nil, Nat.zero_add, List.nil_append]
  | cons c x ih =>
    rw [List.mem_cons, not_or] at h
    rw [List.length_cons, Nat.add_right_comm, List.cons_append, scanNumber, if_pos (Ne.symm h.1),
      ih h.2]

/-- A character that ends nothing is part of the string. -/
theorem scanString_cons {c : Char} (hQuote : c ≠ '"') (hEscape : c ≠ '\\') (rest : Text) :
    scanString (c :: rest) = (scanString rest).map fun s => (c :: s.1, s.2.1, s.2.2) := by
  rw [scanString]
  · exact hQuote
  · exact fun _ _ hc _ => hEscape hc
  · exact fun hc _ => hEscape hc

/-- A string is scanned to its closing quote, with whether it has an escape. -/
theorem scanString_raw {raw : Text} (h : isRaw raw = true) (rest : Text) :
    scanString (raw ++ '"' :: rest) = some (raw, decide ('\\' ∈ raw), rest) := by
  induction raw using isRaw.induct with
  | case1 => rfl
  | case2 => cases h
  | case3 => cases h
  | case4 c raw ih =>
    -- an escape takes two characters
    have hRest : isRaw raw = true := by rwa [isRaw] at h
    rw [List.cons_append, List.cons_append, scanString, ih hRest]
    simp
  | case5 c raw hQuote hEnd hEscape ih =>
    -- a backslash would open an escape, so this is a plain character
    have hPlain : c ≠ '\\' := by
      intro hc
      cases raw with
      | nil => exact hEnd hc rfl
      | cons d raw => exact hEscape d raw hc rfl
    have hRest : isRaw raw = true := by rwa [isRaw] at h <;> assumption
    rw [List.cons_append, scanString_cons hQuote hPlain, ih hRest]
    simp [hPlain.symm]

/-- Tokens, as the scan tells them apart by their first character. -/
theorem token_cases (token : Token) :
    (∃ raw, token = .string raw) ∨ (∃ number, token = .number number) ∨ token = .colon ∨
    ('"' ∉ token.text ∧ ∃ c rest, token.text = c :: rest ∧ isAsciiWhitespace c = false ∧
      c ≠ ':' ∧ isNumberCharacter c = false) := by
  cases token with
  | string raw => exact .inl ⟨raw, rfl⟩
  | number number => exact .inr (.inl ⟨number, rfl⟩)
  | colon => exact .inr (.inr (.inl rfl))
  -- the other tokens start with a letter or a bracket
  | bool b =>
    refine .inr (.inr (.inr ?_))
    cases b
    · exact ⟨by decide, 'f', "alse".toList, by decide, by decide, by decide, by decide⟩
    · exact ⟨by decide, 't', "rue".toList, by decide, by decide, by decide, by decide⟩
  | null =>
    exact .inr (.inr (.inr ⟨by decide, 'n', "ull".toList, by decide, by decide, by decide,
      by decide⟩))
  | openBrace | closeBrace | openBracket | closeBracket | comma =>
    exact .inr (.inr (.inr ⟨by decide, _, [], rfl, by decide, by decide, by decide⟩))

/-- A number token never opens a string. -/
theorem number_no_quote (number : NumberToken) : '"' ∉ number.text :=
  fun h => absurd (NumberToken.character_of_mem h) (by decide)

/-- Characters of numbers are no white space. -/
theorem number_not_blank {c : Char} (h : isNumberCharacter c = true) :
    isAsciiWhitespace c = false := by
  rw [Bool.eq_false_iff]
  intro hBlank
  simp only [isAsciiWhitespace, Bool.or_eq_true, decide_eq_true_eq] at hBlank
  rcases hBlank with (((rfl | rfl) | rfl) | rfl) | hFeed
  · exact absurd h (by decide)
  · exact absurd h (by decide)
  · exact absurd h (by decide)
  · exact absurd h (by decide)
  · obtain rfl : c = '\x0c' := Char.ext hFeed
    exact absurd h (by decide)

theorem blank_whitespace {blank : Text} (h : Blank blank) :
    ∀ c ∈ blank, isAsciiWhitespace c = true := by
  intro c hc
  have hMem := h c hc
  simp only [List.mem_cons, List.not_mem_nil, or_false] at hMem
  rcases hMem with rfl | rfl | rfl | rfl <;> decide

/-- The blank between tokens never opens a string. -/
theorem blank_no_quote {blank : Text} (h : Blank blank) : '"' ∉ blank :=
  fun hc => absurd (blank_whitespace h _ hc) (by decide)

/-- White space before a token is dropped. -/
theorem dropWhile_blank {blank rest : Text} {c : Char} (h : Blank blank)
    (hc : isAsciiWhitespace c = false) :
    (blank ++ c :: rest).dropWhile isAsciiWhitespace = c :: rest := by
  rw [List.dropWhile_append_of_pos (blank_whitespace h), List.dropWhile_cons_of_neg (by simp [hc])]

/-- A number is taken whole. -/
theorem takeWhile_number {number : NumberToken} {rest : Text} (h : Apart (.number number) rest) :
    (number.text ++ rest).takeWhile isNumberCharacter = number.text := by
  have hAll : ∀ c ∈ number.text, isNumberCharacter c = true :=
    fun c hc => NumberToken.character_of_mem hc
  rw [List.takeWhile_append_of_pos hAll]
  cases rest with
  | nil => rw [List.takeWhile_nil, List.append_nil]
  | cons c rest =>
    have hc : isNumberCharacter c = false := by
      have hMem := h c rfl
      simp only [List.mem_cons, List.not_mem_nil, or_false] at hMem
      rcases hMem with rfl | rfl | rfl | rfl | rfl | rfl | rfl <;> decide
    rw [List.takeWhile_cons_of_neg (by simp [hc]), List.append_nil]

/-- How the text of a token starts. -/
theorem token_head (token : Token) : ∃ c rest, token.text = c :: rest ∧
    isAsciiWhitespace c = false ∧ (c = ':' → token = .colon) ∧
    (isNumberCharacter c = true → ∃ number, token = .number number) := by
  rcases token_cases token with ⟨raw, rfl⟩ | ⟨number, rfl⟩ | rfl |
    ⟨-, c, rest, hText, hBlank, hc, hn⟩
  · exact ⟨'"', raw.1 ++ ['"'], rfl, by decide, fun hc => absurd hc (by decide),
      fun hc => absurd hc (by decide)⟩
  · cases hText : number.text with
    | nil => exact absurd hText number.text_ne_nil
    | cons c rest =>
      have hc : isNumberCharacter c = true :=
        NumberToken.character_of_mem (hText ▸ List.mem_cons_self)
      refine ⟨c, rest, hText, number_not_blank hc, ?_, fun _ => ⟨number, rfl⟩⟩
      rintro rfl
      exact absurd hc (by decide)
  · exact ⟨':', [], rfl, by decide, fun _ => rfl, fun hc => absurd hc (by decide)⟩
  · exact ⟨c, rest, hText, hBlank, fun h => absurd h hc, fun h => absurd h (by simp [hn])⟩

/-- What the scan does behind a string. -/
theorem scanNumber_string (field : Text) (fuel : Nat) (raw : Raw) (rest : Text) :
    scanNumber field (fuel + 1) ('"' :: raw.1 ++ ['"'] ++ rest) =
      if raw.1 = field ∧ '\\' ∉ raw.1 then
        match rest.dropWhile isAsciiWhitespace with
        | ':' :: rest =>
          let rest := rest.dropWhile isAsciiWhitespace
          let number := rest.takeWhile isNumberCharacter
          if number.isEmpty then scanNumber field fuel rest else some number
        | rest => scanNumber field fuel rest
      else scanNumber field fuel rest := by
  have hText : '"' :: raw.1 ++ ['"'] ++ rest = '"' :: (raw.1 ++ '"' :: rest) := by simp
  rw [hText, scanNumber, if_neg (not_not_intro rfl), scanString_raw raw.2]
  dsimp only
  by_cases h : raw.1 = field ∧ '\\' ∉ raw.1
  · -- the name of the field, spelled without escapes
    have hTaken : (decide ('\\' ∈ raw.1) || decide (raw.1 ≠ field)) = false := by
      simp only [Bool.or_eq_false_iff, decide_eq_false_iff_not]
      exact ⟨h.2, not_not_intro h.1⟩
    rw [if_pos h, hTaken]
    rfl
  · -- another name, or this one with an escape
    have hPassed : (decide ('\\' ∈ raw.1) || decide (raw.1 ≠ field)) = true := by
      simp only [Bool.or_eq_true, decide_eq_true_eq]
      by_cases hName : raw.1 = field
      · exact .inl (not_not.mp fun hEscape => h ⟨hName, hEscape⟩)
      · exact .inr hName
    rw [if_neg h, hPassed, if_pos rfl]

/-- Skipping white space skips a blank to its end. -/
theorem dropWhile_blank_nil {blank : Text} (h : Blank blank) :
    blank.dropWhile isAsciiWhitespace = [] := by
  rw [List.dropWhile_eq_nil_iff]
  exact blank_whitespace h

/-- The scan behind a string that is the name, if it is right about what follows. -/
theorem scanNumber_name {field : Text} {raw : Raw} (hName : raw.1 = field ∧ '\\' ∉ raw.1)
    {tokens : List Token} {rest : Text} (hRest : Spells tokens rest) {fuel : Nat}
    (hFuel : rest.length ≤ fuel)
    (ih : ∀ {tokens : List Token} {text : Text}, Spells tokens text → text.length ≤ fuel →
      scanNumber field fuel text = (firstNumber field tokens).map NumberToken.text) :
    scanNumber field (fuel + 1) ('"' :: raw.1 ++ ['"'] ++ rest) =
      (firstNumber field (.string raw :: tokens)).map NumberToken.text := by
  rw [scanNumber_string, if_pos hName]
  cases hRest with
  | nil hBlank =>
    rw [dropWhile_blank_nil hBlank]
    exact scanNumber_nil field fuel
  | @cons blank token tokens rest hBlank hApart hRest =>
    obtain ⟨c, more, hText, hSpace, hColon, -⟩ := token_head token
    rw [hText, List.cons_append, dropWhile_blank hBlank hSpace]
    rw [hText, List.cons_append, List.length_append, List.length_cons] at hFuel
    -- a string is a name exactly if a colon comes next
    by_cases hToken : token = .colon
    · subst hToken
      obtain ⟨rfl, rfl⟩ : ':' = c ∧ [] = more := List.cons.inj hText
      rw [List.nil_append] at hFuel ⊢
      change (if ((rest.dropWhile isAsciiWhitespace).takeWhile isNumberCharacter).isEmpty then
        scanNumber field fuel (rest.dropWhile isAsciiWhitespace)
        else some ((rest.dropWhile isAsciiWhitespace).takeWhile isNumberCharacter)) = _
      cases hRest with
      | nil hBlank =>
        rw [dropWhile_blank_nil hBlank]
        exact scanNumber_nil field fuel
      | @cons blank token tokens rest hBlank hEnd hRest =>
        obtain ⟨c, more, hText, hSpace, -, hDigit⟩ := token_head token
        rw [hText, List.cons_append, dropWhile_blank hBlank hSpace]
        -- after the colon, a number is taken and anything else is passed over
        by_cases hNumber : ∃ number, token = .number number
        · obtain ⟨number, rfl⟩ := hNumber
          have hTaken : (c :: (more ++ rest)).takeWhile isNumberCharacter = number.text := by
            rw [← List.cons_append, ← hText]
            exact takeWhile_number hEnd
          rw [hTaken, if_neg (by simpa using number.text_ne_nil), firstNumber, if_pos hName]
          rfl
        · rw [List.takeWhile_cons_of_neg fun hc => hNumber (hDigit hc), if_pos List.isEmpty_nil,
            firstNumber_of_not_number raw fun number h => hNumber ⟨number, h⟩]
          have hSpells : Spells (token :: tokens) (c :: (more ++ rest)) := by
            rw [← List.cons_append, ← hText]
            exact hRest.token hEnd
          refine ih hSpells ?_
          simp only [hText, List.length_append, List.length_cons] at hFuel ⊢
          omega
    · have hSpells : Spells (token :: tokens) (c :: (more ++ rest)) := by
        rw [← List.cons_append, ← hText]
        exact hRest.token hApart
      rw [firstNumber_of_not_colon raw hToken]
      split
      · next h =>
        exact absurd (hColon (List.cons.inj h).1) hToken
      · refine ih hSpells ?_
        simp only [List.length_append, List.length_cons] at hFuel ⊢
        omega

/-- **The scan.** It finds the first number of the name in the text. -/
theorem scanNumber_spells {field : Text} {tokens : List Token} {text : Text}
    (h : Spells tokens text) {fuel : Nat} (hFuel : text.length ≤ fuel) :
    scanNumber field fuel text = (firstNumber field tokens).map NumberToken.text := by
  induction fuel using Nat.strong_induction_on generalizing tokens text with
  | _ fuel ih =>
  cases h with
  | nil hBlank =>
    obtain ⟨more, rfl⟩ := Nat.exists_eq_add_of_le hFuel
    have hSkip : scanNumber field (text.length + more) (text ++ []) = scanNumber field more [] :=
      scanNumber_skip (blank_no_quote hBlank) more []
    rw [List.append_nil, scanNumber_nil] at hSkip
    exact hSkip
  | @cons blank token tokens rest hBlank hApart hRest =>
    obtain ⟨more, rfl⟩ := Nat.exists_eq_add_of_le
      (Nat.le_trans (by simp) hFuel : blank.length ≤ fuel)
    rw [scanNumber_skip (blank_no_quote hBlank)]
    have hMore : (token.text ++ rest).length ≤ more := by
      rw [List.length_append] at hFuel
      omega
    -- what is left of the text after a token is scanned with less fuel
    have hAfter : '"' ∉ token.text → token.text ≠ [] →
        scanNumber field more (token.text ++ rest) =
          (firstNumber field tokens).map NumberToken.text := by
      intro hQuote hSome
      rw [List.length_append] at hMore
      obtain ⟨less, rfl⟩ := Nat.exists_eq_add_of_le (Nat.le_of_add_right_le hMore)
      rw [scanNumber_skip hQuote]
      have hLength := List.length_pos_iff.mpr hSome
      exact ih less (by omega) hRest (by omega)
    rcases token_cases token with ⟨raw, rfl⟩ | ⟨number, rfl⟩ | rfl | ⟨hQuote, c, more', hText, -⟩
    · cases more with
      | zero => cases hMore
      | succ less =>
        have hLess : rest.length ≤ less := by
          simp only [Token.text, List.length_append, List.length_cons] at hMore
          omega
        have hScan : ∀ {tokens : List Token} {text : Text}, Spells tokens text →
            text.length ≤ less →
            scanNumber field less text = (firstNumber field tokens).map NumberToken.text :=
          fun hText hLength => ih less (by omega) hText hLength
        by_cases hName : raw.1 = field ∧ '\\' ∉ raw.1
        · exact scanNumber_name hName hRest hLess hScan
        · rw [firstNumber_of_other hName, Token.text, scanNumber_string, if_neg hName]
          exact hScan hRest hLess
    · rw [firstNumber_of_not_string (fun _ h => by cases h)]
      exact hAfter (number_no_quote number) number.text_ne_nil
    · rw [firstNumber_of_not_string (fun _ h => by cases h)]
      exact hAfter (by decide) (by decide)
    · rw [firstNumber_of_not_string]
      · exact hAfter hQuote (by rw [hText]; exact List.cons_ne_nil _ _)
      · rintro raw rfl
        exact hQuote List.mem_cons_self

/-- **The lexeme of a field.** The scan returns the first number of the name in the
text, wherever in the document it stands. -/
theorem rawNumberField_spells {tokens : List Token} {text : Text} (h : Spells tokens text)
    (field : Text) :
    rawNumberField text field = (firstNumber field tokens).map NumberToken.text :=
  scanNumber_spells h (Nat.le_refl _)

end MarketStreamGateway
