import MarketStreamGateway.Lib.Text
import Mathlib.Data.List.Basic

/-!
# Texts as bytes

The UTF-8 bytes of a text, and the slices of them that are texts again. An ASCII
character is one byte, and the bytes of any other character are outside of
ASCII, so that a scan for ASCII bytes never stops within a character.

* `utf8_injective` — comparing bytes is comparing texts.
* `getSlice_text` — a slice between two characters is the bytes between them.
-/

namespace MarketStreamGateway.Lib

/-! ## Characters -/

/-- A byte that goes on with a character. -/
def isContinuation (byte : UInt8) : Bool := 128 ≤ byte.toNat && byte.toNat < 192

/-- The byte of an ASCII character. -/
def asciiByte (c : Char) : UInt8 := UInt8.ofNat c.toNat

/-- The byte of an ASCII character has its number. -/
theorem asciiByte_toNat {c : Char} (h : c.toNat < 128) : (asciiByte c).toNat = c.toNat := by
  rw [asciiByte, UInt8.toNat_ofNat']
  omega

/-- An ASCII character is encoded as its byte. -/
theorem utf8EncodeChar_ascii {c : Char} (h : c.toNat < 128) :
    String.utf8EncodeChar c = [asciiByte c] := by
  have hLe : c.val.toNat ≤ 127 := Nat.le_of_lt_succ h
  rw [String.utf8EncodeChar, if_pos hLe]
  rfl

/-- The bytes of a character that is not ASCII: none of them is, and the first
one goes on with nothing. -/
theorem utf8EncodeChar_high {c : Char} (h : 128 ≤ c.toNat) :
    ∃ byte bytes, String.utf8EncodeChar c = byte :: bytes ∧ 192 ≤ byte.toNat ∧
      ∀ more ∈ bytes, 128 ≤ more.toNat := by
  have hNot : ¬ c.val.toNat ≤ 127 := Nat.not_le_of_lt h
  rw [String.utf8EncodeChar, if_neg hNot]
  -- two, three or four bytes
  split
  · refine ⟨_, _, rfl, ?_, ?_⟩
    · rw [UInt8.toNat_ofNat']
      omega
    · intro more hMore
      rw [List.mem_singleton.mp hMore, UInt8.toNat_ofNat']
      omega
  · split
    · refine ⟨_, _, rfl, ?_, ?_⟩
      · rw [UInt8.toNat_ofNat']
        omega
      · intro more hMore
        simp only [List.mem_cons, List.not_mem_nil, or_false] at hMore
        rcases hMore with rfl | rfl <;> rw [UInt8.toNat_ofNat'] <;> omega
    · refine ⟨_, _, rfl, ?_, ?_⟩
      · rw [UInt8.toNat_ofNat']
        omega
      · intro more hMore
        simp only [List.mem_cons, List.not_mem_nil, or_false] at hMore
        rcases hMore with rfl | rfl | rfl <;> rw [UInt8.toNat_ofNat'] <;> omega

/-- No character starts with a byte that goes on with one. -/
theorem utf8EncodeChar_head (c : Char) :
    ∃ byte bytes, String.utf8EncodeChar c = byte :: bytes ∧ isContinuation byte = false ∧
      ∀ more ∈ bytes, 128 ≤ more.toNat := by
  by_cases h : c.toNat < 128
  · refine ⟨_, [], utf8EncodeChar_ascii h, ?_, nofun⟩
    simp only [isContinuation, asciiByte_toNat h, Bool.and_eq_false_iff, decide_eq_false_iff_not]
    omega
  · obtain ⟨byte, bytes, hBytes, hFirst, hMore⟩ := utf8EncodeChar_high (Nat.le_of_not_lt h)
    refine ⟨byte, bytes, hBytes, ?_, hMore⟩
    simp only [isContinuation, Bool.and_eq_false_iff, decide_eq_false_iff_not]
    omega

/-! ## Texts -/

/-- The bytes of a text. -/
def utf8 (text : Text) : List UInt8 := text.flatMap String.utf8EncodeChar

@[simp] theorem utf8_nil : utf8 [] = [] := rfl

theorem utf8_cons (c : Char) (text : Text) :
    utf8 (c :: text) = String.utf8EncodeChar c ++ utf8 text := List.flatMap_cons

theorem utf8_cons_ascii {c : Char} (h : c.toNat < 128) (text : Text) :
    utf8 (c :: text) = asciiByte c :: utf8 text := by
  rw [utf8_cons, utf8EncodeChar_ascii h, List.singleton_append]

/-- Encoding goes character by character. -/
theorem utf8_append (first second : Text) : utf8 (first ++ second) = utf8 first ++ utf8 second :=
  List.flatMap_append

/-- Different texts have different bytes. -/
theorem utf8_injective : Function.Injective utf8 := by
  intro first second h
  have hEncode : first.utf8Encode = second.utf8Encode := congrArg List.toByteArray h
  have hDecode := congrArg ByteArray.utf8Decode? hEncode
  rw [List.utf8Decode?_utf8Encode, List.utf8Decode?_utf8Encode] at hDecode
  exact congrArg Array.toList (Option.some.inj hDecode)

/-- A byte outside of ASCII is none of ASCII. -/
theorem ne_asciiByte_of_high {c : Char} (hc : c.toNat < 128) {byte : UInt8}
    (h : 128 ≤ byte.toNat) : byte ≠ asciiByte c := by
  rintro rfl
  rw [asciiByte_toNat hc] at h
  omega

/-- The bytes of a character hold an ASCII byte only if it is their own. -/
theorem mem_utf8EncodeChar {c d : Char} (hd : d.toNat < 128)
    (h : asciiByte d ∈ String.utf8EncodeChar c) : c = d := by
  by_cases hc : c.toNat < 128
  · rw [utf8EncodeChar_ascii hc, List.mem_singleton] at h
    have hNat := congrArg UInt8.toNat h
    rw [asciiByte_toNat hd, asciiByte_toNat hc] at hNat
    exact (Char.toNat_inj.mp hNat).symm
  · obtain ⟨byte, bytes, hBytes, hFirst, hMore⟩ := utf8EncodeChar_high (Nat.le_of_not_lt hc)
    rw [hBytes, List.mem_cons] at h
    rcases h with hEq | hMem
    · exact absurd hEq.symm (ne_asciiByte_of_high hd (by omega))
    · exact absurd rfl (ne_asciiByte_of_high hd (hMore _ hMem))

theorem ofUInt8_toNat (byte : UInt8) : (Char.ofUInt8 byte).toNat = byte.toNat :=
  UInt8.toNat_toUInt32 byte

/-- The character of the byte of an ASCII character is that character. -/
theorem ofUInt8_asciiByte {c : Char} (h : c.toNat < 128) : Char.ofUInt8 (asciiByte c) = c := by
  refine Char.toNat_inj.mp ?_
  rw [ofUInt8_toNat, asciiByte_toNat h]

/-- A test that only ASCII characters meet is met by the first byte of a character
exactly if the character meets it. -/
theorem test_head {test : Char → Bool} (hAscii : ∀ c, test c = true → c.toNat < 128) {c : Char}
    {byte : UInt8} {bytes : List UInt8} (h : String.utf8EncodeChar c = byte :: bytes) :
    test (Char.ofUInt8 byte) = test c := by
  by_cases hc : c.toNat < 128
  · rw [utf8EncodeChar_ascii hc] at h
    rw [← (List.cons.inj h).1, ofUInt8_asciiByte hc]
  · obtain ⟨first, more, hBytes, hFirst, -⟩ := utf8EncodeChar_high (Nat.le_of_not_lt hc)
    obtain ⟨rfl, -⟩ := List.cons.inj (hBytes.symm.trans h)
    have hMissed : test (Char.ofUInt8 first) = false := by
      rw [Bool.eq_false_iff]
      intro hMet
      have hLow := hAscii _ hMet
      rw [ofUInt8_toNat] at hLow
      omega
    rw [hMissed, eq_comm, Bool.eq_false_iff]
    exact fun hMet => hc (hAscii c hMet)

/-! ## Slices -/

/-- `str::is_char_boundary`. -/
def isCharBoundary (bytes : List UInt8) (index : Nat) : Bool :=
  index = 0 || match bytes[index]? with
    | some byte => !isContinuation byte
    | none => index = bytes.length

/-- `str::get` of a range: the bytes between two characters, or nothing. -/
def getSlice (bytes : List UInt8) (start stop : Nat) : Option (List UInt8) :=
  if start ≤ stop && isCharBoundary bytes start && isCharBoundary bytes stop then
    some ((bytes.drop start).take (stop - start))
  else none

section Slices

variable {bytes : List UInt8} {start : Nat}

/-- Where a text starts within the bytes, there is a boundary. -/
theorem isCharBoundary_of_drop {rest : Text} (hIn : start ≤ bytes.length)
    (h : bytes.drop start = utf8 rest) : isCharBoundary bytes start = true := by
  have hGet : bytes[start]? = (utf8 rest)[0]? := by
    rw [← h, List.getElem?_drop, Nat.add_zero]
  rw [isCharBoundary, hGet]
  cases rest with
  | nil =>
    have hLength := congrArg List.length h
    rw [List.length_drop, utf8_nil, List.length_nil] at hLength
    have hEnd : start = bytes.length := by omega
    simp [hEnd]
  | cons c rest =>
    obtain ⟨byte, more, hBytes, hFirst, -⟩ := utf8EncodeChar_head c
    rw [utf8_cons, hBytes]
    simp [hFirst]

/-- Behind a text that starts within the bytes, the rest of them starts. -/
theorem drop_add_of_drop {first second : List UInt8} (h : bytes.drop start = first ++ second) :
    bytes.drop (start + first.length) = second := by
  rw [← List.drop_drop, h, List.drop_left]

/-- A part of what is left lies inside the bytes. -/
theorem add_le_of_drop {first second : List UInt8} (hIn : start ≤ bytes.length)
    (h : bytes.drop start = first ++ second) : start + first.length ≤ bytes.length := by
  have hLength := congrArg List.length h
  rw [List.length_drop, List.length_append] at hLength
  omega

/-- A slice between two boundaries is the text between them. -/
theorem getSlice_text {inner rest : Text} (hIn : start ≤ bytes.length)
    (h : bytes.drop start = utf8 inner ++ utf8 rest) :
    getSlice bytes start (start + (utf8 inner).length) = some (utf8 inner) := by
  have hStart : isCharBoundary bytes start = true :=
    isCharBoundary_of_drop hIn (h.trans (utf8_append inner rest).symm)
  have hStop : isCharBoundary bytes (start + (utf8 inner).length) = true :=
    isCharBoundary_of_drop (add_le_of_drop hIn h) (drop_add_of_drop h)
  rw [getSlice, hStart, hStop, if_pos (by simp), h, Nat.add_sub_cancel_left, List.take_left]

end Slices

end MarketStreamGateway.Lib
