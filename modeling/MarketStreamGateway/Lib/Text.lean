import Mathlib.Data.List.Basic
import Mathlib.Data.List.Infix
import Mathlib.Data.List.DropRight
import Mathlib.Algebra.Ring.Nat

/-!
# Text

A text is the list of its Unicode scalar values. The operations are the ones
of the Rust string library, by their documented behaviour: lengths are UTF-8
byte lengths, case mapping is ASCII-only, `trim` removes Unicode white space.

`Unicode` holds the two tables that are not spelled out: which scalar values are
alphanumeric, and how one prints in a debug string. On the ASCII range the
first agrees with Lean's own test; nothing else about the tables is used.
`Unicode.ascii` is the smallest instance.
-/

namespace MarketStreamGateway.Lib

/-- A text, as the list of its Unicode scalar values. -/
abbrev Text := List Char

/-- The classification of Unicode scalar values by `char::is_alphanumeric`, and
their printed form in `{:?}`. -/
class Unicode where
  isAlphanumeric : Char → Bool
  onAscii : ∀ c : Char, c.val < 128 → isAlphanumeric c = c.isAlphanum
  escapeDebug : Char → Text

/-- The table cut down to the ASCII range, for evaluating closed instances. -/
@[reducible] def Unicode.ascii : Unicode := ⟨Char.isAlphanum, fun _ _ => rfl, fun c => [c]⟩

namespace Text

/-- `str::len`: the number of UTF-8 bytes. -/
def byteLen (t : Text) : Nat := (t.map Char.utf8Size).sum

/-- `str::to_ascii_uppercase`. -/
def toAsciiUppercase (t : Text) : Text := t.map Char.toUpper

/-- `str::to_ascii_lowercase`. -/
def toAsciiLowercase (t : Text) : Text := t.map Char.toLower

/-- `char::is_whitespace`: the Unicode property `White_Space`. -/
def isWhitespace (c : Char) : Bool :=
  (9 ≤ c.val && c.val ≤ 13) || c.val == 0x20 || c.val == 0x85 || c.val == 0xA0 ||
    c.val == 0x1680 || (0x2000 ≤ c.val && c.val ≤ 0x200A) || c.val == 0x2028 ||
    c.val == 0x2029 || c.val == 0x202F || c.val == 0x205F || c.val == 0x3000

/-- `char::is_control`: the general category `Cc`. -/
def isControl (c : Char) : Bool := c.val ≤ 0x1F || (0x7F ≤ c.val && c.val ≤ 0x9F)

/-- `str::trim`. -/
def trim (t : Text) : Text := (((t.dropWhile isWhitespace).reverse).dropWhile isWhitespace).reverse

/-- `{:?}` of a string. -/
def debug [Unicode] (t : Text) : Text := '"' :: t.flatMap Unicode.escapeDebug ++ ['"']

/-- `str::strip_prefix`. -/
def stripPrefix (p t : Text) : Option Text :=
  if p.isPrefixOf t then some (t.drop p.length) else none

/-- `str::strip_suffix`. -/
def stripSuffix (p t : Text) : Option Text :=
  if p.isSuffixOf t then some (t.take (t.length - p.length)) else none

/-- `str::split_once` at a character: the texts before and after its first
occurrence. -/
def splitOnce (c : Char) : Text → Option (Text × Text)
  | [] => none
  | a :: rest =>
    if a = c then some ([], rest)
    else (splitOnce c rest).map fun p => (a :: p.1, p.2)

/-- `str::split` at a character. -/
def split (c : Char) : Text → List Text
  | [] => [[]]
  | a :: rest =>
    if a = c then [] :: split c rest
    else match split c rest with
      | [] => [[a]]
      | piece :: pieces => (a :: piece) :: pieces

/-- `[String]::join` with a one-character separator. -/
def join (c : Char) : List Text → Text
  | [] => []
  | [t] => t
  | t :: u :: rest => t ++ c :: join c (u :: rest)

/-- `String::truncate`; `none` where it panics, because the cut would fall
inside a character. -/
def truncate (bytes : Nat) (t : Text) : Option Text :=
  if byteLen t ≤ bytes then some t else cut bytes t
where
  cut : Nat → Text → Option Text
    | 0, _ => some []
    | _, [] => some []
    | n + 1, c :: rest =>
      if c.utf8Size ≤ n + 1 then (cut (n + 1 - c.utf8Size) rest).map (c :: ·) else none

/-- `u64::to_string`. -/
def ofNat (n : Nat) : Text := Nat.toDigits 10 n

/-- `i64::to_string`. -/
def ofInt (n : Int) : Text := if n < 0 then '-' :: ofNat n.natAbs else ofNat n.natAbs

/-- `str::parse::<u64>` on a text of ASCII digits; `none` when it is empty, has
another character (a leading `+` excepted) or does not fit in 64 bits. -/
def parseU64 (t : Text) : Option Nat :=
  let digits := match t with
    | '+' :: rest => rest
    | _ => t
  if digits.isEmpty || !digits.all Char.isDigit then none
  else
    let value := digits.foldl (fun n c => 10 * n + (c.toNat - '0'.toNat)) 0
    if value < 2 ^ 64 then some value else none

/-- The message of a `str::parse::<u64>` that failed. -/
def parseU64Error (t : Text) : Text :=
  match t with
  | [] => "cannot parse integer from empty string".toList
  | '+' :: c :: rest => go 0 (c :: rest)
  | t => go 0 t
where
  go : Nat → Text → Text
    | _, [] => "number too large to fit in target type".toList
    | n, c :: rest =>
      if !c.isDigit then "invalid digit found in string".toList
      else if 2 ^ 64 ≤ 10 * n + (c.toNat - '0'.toNat) then
        "number too large to fit in target type".toList
      else go (10 * n + (c.toNat - '0'.toNat)) rest

/-! ## Lengths -/

/-- Lengths in bytes add up. -/
theorem byteLen_append (t u : Text) : byteLen (t ++ u) = byteLen t + byteLen u := by
  simp [byteLen]

/-- A number is printed in digits only. -/
theorem isDigit_of_mem_ofNat {n : Nat} {c : Char} (h : c ∈ ofNat n) : c.isDigit = true :=
  Nat.isDigit_of_mem_toDigits (by decide) (by decide) h

/-- Digits are one byte each. -/
theorem byteLen_ofNat (n : Nat) : byteLen (ofNat n) = (ofNat n).length := by
  have hOne : ∀ c ∈ ofNat n, c.utf8Size = 1 := by
    intro c hc
    have hDigit := isDigit_of_mem_ofNat hc
    have hSmall : c.val ≤ 57 := by
      simp only [Char.isDigit, Bool.and_eq_true, decide_eq_true_eq] at hDigit
      exact hDigit.2
    rw [Char.utf8Size, if_pos (UInt32.le_trans hSmall (by decide))]
  rw [byteLen, List.map_congr_left hOne, List.map_const', List.sum_replicate_nat, Nat.mul_one]

/-- A 64-bit number has at most twenty digits. -/
theorem byteLen_ofNat_le {n : Nat} (h : n < 2 ^ 64) : byteLen (ofNat n) ≤ 20 := by
  rw [byteLen_ofNat]
  exact (Nat.length_toDigits_le_iff (by decide) (by decide)).mpr (by omega)

/-- A number is never printed as nothing. -/
theorem ofNat_ne_nil (n : Nat) : ofNat n ≠ [] := Nat.toDigits_ne_nil

/-- What is printed is read back. -/
theorem parseU64_ofNat {n : Nat} (h : n < 2 ^ 64) : parseU64 (ofNat n) = some n := by
  have hAll : (ofNat n).all Char.isDigit = true :=
    List.all_eq_true.mpr fun _ hc => isDigit_of_mem_ofNat hc
  have hValue : (ofNat n).foldl (fun n c => 10 * n + (c.toNat - '0'.toNat)) 0 = n := by
    rw [← Nat.ofDigitChars_eq_foldl]
    exact Nat.ofDigitChars_ten_toDigits
  unfold parseU64
  split
  · next rest hPlus =>
    -- no number starts with a sign
    have hMem : '+' ∈ ofNat n := hPlus ▸ List.mem_cons_self
    exact absurd (isDigit_of_mem_ofNat hMem) (by decide)
  · dsimp only
    rw [hAll, hValue, List.isEmpty_eq_false_iff.mpr (ofNat_ne_nil n), if_neg (by decide), if_pos h]

/-- Different numbers are printed differently. -/
theorem ofNat_injective : Function.Injective ofNat := by
  intro m n h
  rw [← Nat.ofDigitChars_ten_toDigits (n := m), ← Nat.ofDigitChars_ten_toDigits (n := n)]
  exact congrArg (Nat.ofDigitChars 10 · 0) h

/-! ## Cutting -/

/-- The text can be cut to `n` bytes: it is no longer than that, or a character
ends there. -/
def CutsAt (n : Nat) (t : Text) : Prop := byteLen t ≤ n ∨ ∃ p, p <+: t ∧ byteLen p = n

theorem byteLen_cons (c : Char) (t : Text) : byteLen (c :: t) = c.utf8Size + byteLen t := by
  simp [byteLen]

/-- Only the empty text has no bytes. -/
theorem byteLen_eq_zero {t : Text} : byteLen t = 0 ↔ t = [] := by
  cases t with
  | nil => simp [byteLen]
  | cons c rest =>
    have hPos := c.utf8Size_pos
    rw [byteLen_cons]
    simp only [reduceCtorEq, iff_false]
    omega

/-- A text that is long enough is cut to the prefix with as many bytes. -/
theorem cut_eq_some {n : Nat} {t p : Text} (h : n ≤ byteLen t) :
    truncate.cut n t = some p ↔ p <+: t ∧ byteLen p = n := by
  induction t generalizing n p with
  | nil =>
    obtain rfl : n = 0 := Nat.le_zero.mp h
    rw [truncate.cut, Option.some.injEq, List.prefix_nil, byteLen_eq_zero, and_self, eq_comm]
  | cons c rest ih =>
    cases n with
    | zero =>
      rw [truncate.cut, Option.some.injEq, byteLen_eq_zero, eq_comm]
      exact ⟨fun hNil => ⟨hNil ▸ List.nil_prefix, hNil⟩, And.right⟩
    | succ n =>
      rw [byteLen_cons] at h
      rw [truncate.cut]
      split
      · next hFits =>
        rw [Option.map_eq_some_iff]
        constructor
        · rintro ⟨q, hCut, rfl⟩
          obtain ⟨hPrefix, hLen⟩ := (ih (by omega)).mp hCut
          refine ⟨List.cons_prefix_cons.mpr ⟨rfl, hPrefix⟩, ?_⟩
          rw [byteLen_cons, hLen]
          omega
        · rintro ⟨hPrefix, hLen⟩
          obtain rfl | ⟨q, rfl, hRest⟩ := List.prefix_cons_iff.mp hPrefix
          · cases hLen
          · rw [byteLen_cons] at hLen
            exact ⟨q, (ih (by omega)).mpr ⟨hRest, by omega⟩, rfl⟩
      · next hOver =>
        -- the first character alone is longer than the cut
        refine ⟨nofun, fun ⟨hPrefix, hLen⟩ => ?_⟩
        obtain rfl | ⟨q, rfl, -⟩ := List.prefix_cons_iff.mp hPrefix
        · cases hLen
        · rw [byteLen_cons] at hLen
          omega

/-- Truncating leaves a short text alone, and cuts a long one exactly at the
bound when a character ends there. -/
theorem truncate_eq_some {n : Nat} {t p : Text} :
    truncate n t = some p ↔
      byteLen t ≤ n ∧ p = t ∨ n < byteLen t ∧ p <+: t ∧ byteLen p = n := by
  unfold truncate
  split
  · next hShort =>
    rw [Option.some.injEq, eq_comm]
    exact ⟨fun hEq => .inl ⟨hShort, hEq⟩, fun hCases => hCases.elim And.right fun hLong => by omega⟩
  · next hLong =>
    rw [cut_eq_some (by omega)]
    exact ⟨fun hCut => .inr ⟨by omega, hCut⟩, fun hCases => hCases.elim (fun hShort => by omega)
      And.right⟩

/-- **Truncation.** `String::truncate` returns exactly on the texts that can be
cut there. -/
theorem truncate_isSome {n : Nat} {t : Text} : (truncate n t).isSome ↔ CutsAt n t := by
  rw [Option.isSome_iff_exists]
  constructor
  · rintro ⟨p, hCut⟩
    rcases truncate_eq_some.mp hCut with ⟨hShort, -⟩ | ⟨-, hPrefix⟩
    · exact .inl hShort
    · exact .inr ⟨p, hPrefix⟩
  · intro h
    by_cases hShort : byteLen t ≤ n
    · exact ⟨t, truncate_eq_some.mpr (.inl ⟨hShort, rfl⟩)⟩
    · obtain ⟨p, hPrefix⟩ := h.resolve_left hShort
      exact ⟨p, truncate_eq_some.mpr (.inr ⟨by omega, hPrefix⟩)⟩

instance (n : Nat) (t : Text) : Decidable (CutsAt n t) := decidable_of_iff _ truncate_isSome

/-! ## Splitting and joining -/

/-- Splitting at the first separator undoes joining by it. -/
theorem splitOnce_append {c : Char} {t : Text} (h : c ∉ t) (u : Text) :
    splitOnce c (t ++ c :: u) = some (t, u) := by
  induction t with
  | nil => simp [splitOnce]
  | cons a t ih =>
    obtain ⟨hHead, hRest⟩ := not_or.mp (mt List.mem_cons.mpr h)
    rw [List.cons_append, splitOnce, if_neg (Ne.symm hHead), ih hRest]
    rfl

/-- `splitOnce` splits at the first occurrence. -/
theorem splitOnce_eq_some {c : Char} {t base rest : Text} :
    splitOnce c t = some (base, rest) ↔ t = base ++ c :: rest ∧ c ∉ base := by
  constructor
  · intro h
    induction t generalizing base with
    | nil => simp [splitOnce] at h
    | cons a t ih =>
      rw [splitOnce] at h
      split at h
      · next ha =>
        obtain ⟨rfl, rfl⟩ := Prod.mk.inj (Option.some.inj h)
        exact ⟨by rw [ha, List.nil_append], List.not_mem_nil⟩
      · -- the first separator is further back
        next ha =>
        obtain ⟨⟨base', rest'⟩, hSplit, hPair⟩ := Option.map_eq_some_iff.mp h
        obtain ⟨rfl, rfl⟩ := Prod.mk.inj hPair
        obtain ⟨rfl, hBase⟩ := ih hSplit
        exact ⟨rfl, fun hMem => (List.mem_cons.mp hMem).elim (fun hEq => ha hEq.symm) hBase⟩
  · rintro ⟨rfl, hBase⟩
    exact splitOnce_append hBase rest

/-- A prefix that was put in front can be stripped. -/
theorem stripPrefix_append (p t : Text) : stripPrefix p (p ++ t) = some t := by
  rw [stripPrefix, if_pos (List.isPrefixOf_iff_prefix.mpr (List.prefix_append p t)),
    List.drop_left]

/-- Stripping a prefix succeeds exactly where the text starts with it. -/
theorem stripPrefix_eq_some {p t rest : Text} :
    stripPrefix p t = some rest ↔ t = p ++ rest := by
  constructor
  · intro h
    unfold stripPrefix at h
    split at h
    · next hFront =>
      obtain ⟨u, rfl⟩ := List.isPrefixOf_iff_prefix.mp hFront
      rw [List.drop_left] at h
      rw [Option.some.inj h]
    · cases h
  · rintro rfl
    exact stripPrefix_append p rest

/-- Stripping a suffix succeeds exactly where the text ends in it. -/
theorem stripSuffix_eq_some {p t base : Text} :
    stripSuffix p t = some base ↔ t = base ++ p := by
  unfold stripSuffix
  constructor
  · intro h
    split at h
    · next hSuffix =>
      obtain ⟨u, rfl⟩ := List.isSuffixOf_iff_suffix.mp hSuffix
      have hTake : u = base := by simpa using Option.some.inj h
      rw [hTake]
    · cases h
  · rintro rfl
    rw [if_pos (List.isSuffixOf_iff_suffix.mpr ⟨base, rfl⟩)]
    simp

/-- A text that trimming does not shorten has nothing to trim. -/
theorem trim_eq_of_length {t : Text} (h : (trim t).length = t.length) : trim t = t := by
  have hFirst : (t.dropWhile isWhitespace).Sublist t := List.dropWhile_sublist _
  have hLast : (trim t).Sublist (t.dropWhile isWhitespace) := by
    unfold trim
    have hDrop := (List.dropWhile_sublist (l := (t.dropWhile isWhitespace).reverse)
      isWhitespace).reverse
    rwa [List.reverse_reverse] at hDrop
  exact (hLast.trans hFirst).eq_of_length h

/-- Trimming twice is trimming once. -/
theorem trim_idem (t : Text) : trim (trim t) = trim t := by
  have hFront : (trim t).dropWhile isWhitespace = trim t := by
    rw [List.dropWhile_eq_self_iff]
    intro hSome
    have hPrefix : trim t <+: t.dropWhile isWhitespace := List.rdropWhile_prefix _ _
    obtain ⟨rest, hRest⟩ := hPrefix
    have hHead := List.dropWhile_get_zero_not isWhitespace t
      (by rw [← hRest, List.length_append]; omega)
    simpa [← hRest, List.getElem_append_left hSome] using hHead
  rw [show trim (trim t) = ((trim t).dropWhile isWhitespace).rdropWhile isWhitespace from rfl,
    hFront]
  exact List.rdropWhile_idempotent _ _

/-- The piece before the first separator, and the pieces after it. -/
theorem split_append {c : Char} {t : Text} (h : c ∉ t) (u : Text) :
    split c (t ++ c :: u) = t :: split c u := by
  induction t with
  | nil => simp [split]
  | cons a t ih =>
    obtain ⟨hHead, hRest⟩ := not_or.mp (mt List.mem_cons.mpr h)
    rw [List.cons_append, split, if_neg (Ne.symm hHead), ih hRest]

/-- A text without the separator is one part. -/
theorem split_of_not_mem {c : Char} {t : Text} (h : c ∉ t) : split c t = [t] := by
  induction t with
  | nil => rfl
  | cons a t ih =>
    obtain ⟨hHead, hRest⟩ := not_or.mp (mt List.mem_cons.mpr h)
    rw [split, if_neg (Ne.symm hHead), ih hRest]

/-- Splitting undoes joining, if no piece has the separator. -/
theorem split_join {c : Char} {pieces : List Text} (hSome : pieces ≠ [])
    (h : ∀ piece ∈ pieces, c ∉ piece) : split c (join c pieces) = pieces := by
  induction pieces with
  | nil => exact absurd rfl hSome
  | cons t rest ih =>
    have ht : c ∉ t := h t List.mem_cons_self
    cases rest with
    | nil => exact split_of_not_mem ht
    | cons u rest =>
      rw [join, split_append ht, ih (by simp) fun piece hPiece =>
        h piece (List.mem_cons_of_mem _ hPiece)]

/-! ## ASCII case mapping -/

/-- A property of the 128 ASCII characters holds of every character below 128. -/
theorem forall_ascii {P : Char → Prop} (h : ∀ n : Fin 128, P (Char.ofNat n)) {c : Char}
    (hc : c.toNat < 128) : P c := by
  have hAt := h ⟨c.toNat, hc⟩
  rwa [show Char.ofNat (⟨c.toNat, hc⟩ : Fin 128) = c from Char.ofNat_toNat c] at hAt

/-- Case mapping leaves other characters alone. -/
theorem toLower_of_not_ascii {c : Char} (hc : ¬ c.toNat < 128) : c.toLower = c := by
  unfold Char.toLower
  rw [dif_neg]
  rintro ⟨-, hZ⟩
  have : c.toNat ≤ 90 := hZ
  omega

theorem toUpper_of_not_ascii {c : Char} (hc : ¬ c.toNat < 128) : c.toUpper = c := by
  unfold Char.toUpper
  rw [dif_neg]
  rintro ⟨-, hz⟩
  have : c.toNat ≤ 122 := hz
  omega

/-- Upper case stays upper case. -/
theorem toUpper_idem (c : Char) : c.toUpper.toUpper = c.toUpper := by
  by_cases hc : c.toNat < 128
  · exact forall_ascii (P := fun c => c.toUpper.toUpper = c.toUpper) (by decide) hc
  · rw [toUpper_of_not_ascii hc, toUpper_of_not_ascii hc]

theorem toAsciiUppercase_idem (t : Text) :
    toAsciiUppercase (toAsciiUppercase t) = toAsciiUppercase t := by
  rw [toAsciiUppercase, toAsciiUppercase, List.map_map]
  exact List.map_congr_left fun c _ => toUpper_idem c

/-- Case mapping keeps white space and makes none. -/
theorem isWhitespace_toUpper (c : Char) : isWhitespace c.toUpper = isWhitespace c := by
  by_cases hc : c.toNat < 128
  · exact forall_ascii (P := fun c => isWhitespace c.toUpper = isWhitespace c) (by decide) hc
  · rw [toUpper_of_not_ascii hc]

/-- Trimming and upper-casing commute. -/
theorem trim_toAsciiUppercase (t : Text) :
    trim (toAsciiUppercase t) = toAsciiUppercase (trim t) := by
  have hDrop : ∀ u : Text, (u.map Char.toUpper).dropWhile isWhitespace =
      (u.dropWhile isWhitespace).map Char.toUpper := by
    intro u
    rw [List.dropWhile_map]
    exact congrArg (fun p => (u.dropWhile p).map Char.toUpper) (funext isWhitespace_toUpper)
  unfold trim toAsciiUppercase
  rw [hDrop, ← List.map_reverse, hDrop, ← List.map_reverse]

/-- Case mapping keeps the width of a character. -/
theorem utf8Size_toUpper (c : Char) : c.toUpper.utf8Size = c.utf8Size := by
  by_cases hc : c.toNat < 128
  · exact forall_ascii (P := fun c => c.toUpper.utf8Size = c.utf8Size) (by decide) hc
  · rw [toUpper_of_not_ascii hc]

/-- Upper-casing keeps the length in bytes. -/
theorem byteLen_toAsciiUppercase (t : Text) : byteLen (toAsciiUppercase t) = byteLen t := by
  rw [byteLen, toAsciiUppercase, List.map_map, byteLen]
  exact congrArg List.sum (List.map_congr_left fun c _ => utf8Size_toUpper c)

/-- Upper-casing does not see whether a text was lower-cased before. -/
theorem toUpper_toLower (c : Char) : c.toLower.toUpper = c.toUpper := by
  by_cases hc : c.toNat < 128
  · exact forall_ascii (P := fun c => c.toLower.toUpper = c.toUpper) (by decide) hc
  · rw [toLower_of_not_ascii hc]

/-- Of two case mappings the last one decides. -/
theorem toAsciiUppercase_toAsciiLowercase (t : Text) :
    toAsciiUppercase (toAsciiLowercase t) = toAsciiUppercase t := by
  rw [toAsciiUppercase, toAsciiLowercase, List.map_map]
  exact List.map_congr_left fun c _ => toUpper_toLower c

theorem toLower_toUpper (c : Char) : c.toUpper.toLower = c.toLower := by
  by_cases hc : c.toNat < 128
  · exact forall_ascii (P := fun c => c.toUpper.toLower = c.toLower) (by decide) hc
  · rw [toUpper_of_not_ascii hc]

theorem toAsciiLowercase_toAsciiUppercase (t : Text) :
    toAsciiLowercase (toAsciiUppercase t) = toAsciiLowercase t := by
  rw [toAsciiLowercase, toAsciiUppercase, List.map_map]
  exact List.map_congr_left fun c _ => toLower_toUpper c

theorem toLower_idem (c : Char) : c.toLower.toLower = c.toLower := by
  by_cases hc : c.toNat < 128
  · exact forall_ascii (P := fun c => c.toLower.toLower = c.toLower) (by decide) hc
  · rw [toLower_of_not_ascii hc, toLower_of_not_ascii hc]

theorem toAsciiLowercase_idem (t : Text) :
    toAsciiLowercase (toAsciiLowercase t) = toAsciiLowercase t := by
  rw [toAsciiLowercase, toAsciiLowercase, List.map_map]
  exact List.map_congr_left fun c _ => toLower_idem c

/-- Lower-casing is injective on texts without lower-case letters. -/
theorem toAsciiLowercase_injOn {t u : Text} (ht : toAsciiUppercase t = t)
    (hu : toAsciiUppercase u = u) (h : toAsciiLowercase t = toAsciiLowercase u) : t = u := by
  have hUpper := congrArg toAsciiUppercase h
  rwa [toAsciiUppercase_toAsciiLowercase, toAsciiUppercase_toAsciiLowercase, ht, hu] at hUpper

end Text

end MarketStreamGateway.Lib
