import MarketStreamGateway.Lib.Json

/-!
# Reading compact JSON

A strict reader for what the compact printer of `Lib.Json` prints. It accepts
no blanks, no surrogate escapes and no numbers but unsigned integers, so it is
not the reader of `serde_json`; it shows that nothing is lost in a printed text.

* `readChars_quote` — the escapes of a string can be undone.
* `reads_back` — a document is read back from its text, whatever follows it.
* `read_display` — so documents with the same text are the same.
-/

namespace MarketStreamGateway.Lib

namespace Value

/-- A document whose numbers are unsigned integers. -/
inductive Plain : Value → Prop
  | null : Plain .null
  | bool (b : Bool) : Plain (.bool b)
  | posInt (n : Nat) : Plain (.number (.posInt n))
  | string (t : Text) : Plain (.string t)
  | array {items : List Value} (h : ∀ item ∈ items, Plain item) : Plain (.array items)
  | object {members : List (Text × Value)} (h : ∀ entry ∈ members, Plain entry.2) :
      Plain (.object members)

/-! ## The reader -/

/-- The value of a lower-case hexadecimal digit. -/
def hexValue (c : Char) : Nat :=
  if c.isDigit then c.toNat - '0'.toNat else c.toNat - 'a'.toNat + 10

/-- What a backslash and one character stand for. -/
def unescape : Char → Char
  | 'n' => '\n'
  | 'r' => '\r'
  | 't' => '\t'
  | 'b' => Char.ofNat 8
  | 'f' => Char.ofNat 12
  | c => c

/-- A string behind its opening quote, and what follows it. -/
def readChars : Text → Option (Text × Text)
  | [] => none
  | '"' :: rest => some ([], rest)
  | '\\' :: 'u' :: '0' :: '0' :: high :: low :: rest =>
    (readChars rest).map fun read =>
      (Char.ofNat (16 * hexValue high + hexValue low) :: read.1, read.2)
  | '\\' :: c :: rest => (readChars rest).map fun read => (unescape c :: read.1, read.2)
  | c :: rest => (readChars rest).map fun read => (c :: read.1, read.2)

/-- The digits a text starts with, as a number. -/
def readNumber (t : Text) : Value × Text :=
  (.number (.posInt (Nat.ofDigitChars 10 (t.takeWhile Char.isDigit) 0)), t.dropWhile Char.isDigit)

mutual

/-- The document a text starts with, and what follows it. -/
def readValue : Nat → Text → Option (Value × Text)
  | 0, _ => none
  | _, [] => none
  | fuel + 1, c :: t =>
    if c.isDigit then some (readNumber (c :: t))
    else match c with
      | '"' => (readChars t).map fun read => (.string read.1, read.2)
      | '[' =>
        if t.head? = some ']' then some (.array [], t.tail)
        else (readItems fuel t).map fun read => (.array read.1, read.2)
      | '\x7b' =>
        if t.head? = some '\x7d' then some (.object [], t.tail)
        else (readMembers fuel t).map fun read => (.object read.1, read.2)
      | 'n' => (Text.stripPrefix "ull".toList t).map fun rest => (.null, rest)
      | 't' => (Text.stripPrefix "rue".toList t).map fun rest => (.bool true, rest)
      | 'f' => (Text.stripPrefix "alse".toList t).map fun rest => (.bool false, rest)
      | _ => none

/-- At least one item, up to the closing bracket. -/
def readItems : Nat → Text → Option (List Value × Text)
  | 0, _ => none
  | fuel + 1, t => (readValue fuel t).bind fun first =>
    match first.2 with
    | ']' :: rest => some ([first.1], rest)
    | ',' :: rest => (readItems fuel rest).map fun read => (first.1 :: read.1, read.2)
    | _ => none

/-- At least one member, up to the closing brace. -/
def readMembers : Nat → Text → Option (List (Text × Value) × Text)
  | 0, _ => none
  | fuel + 1, t => (Text.stripPrefix ['"'] t).bind fun t => (readChars t).bind fun key =>
    (Text.stripPrefix [':'] key.2).bind fun t => (readValue fuel t).bind fun first =>
      match first.2 with
      | '\x7d' :: rest => some ([(key.1, first.1)], rest)
      | ',' :: rest =>
        (readMembers fuel rest).map fun read => ((key.1, first.1) :: read.1, read.2)
      | _ => none

end

/-- A text that is one document and nothing else. -/
def read (t : Text) : Option Value :=
  match readValue t.length t with
  | some (v, []) => some v
  | _ => none

/-! ## Strings -/

/-- A digit of an escape is read as what it was written for. -/
theorem hexValue_digitChar : ∀ n < 16, hexValue (Nat.digitChar n) = n := by decide

/-- One character, printed and read. -/
theorem readChars_escape (c : Char) (t : Text) :
    readChars (escape c ++ t) = (readChars t).map fun read => (c :: read.1, read.2) := by
  unfold escape
  split
  · simp [readChars, unescape]
  · simp [readChars, unescape]
  · simp [readChars, unescape]
  · simp [readChars, unescape]
  · simp [readChars, unescape]
  · next hQuote hBackslash _ _ _ =>
    split
    · next h8 =>
      obtain rfl : c = Char.ofNat 8 := Char.ext h8
      simp [readChars, unescape]
    · split
      · next h12 =>
        obtain rfl : c = Char.ofNat 12 := Char.ext h12
        simp [readChars, unescape]
      · split
        · next hControl =>
          have hSmall : c.toNat < 32 := hControl
          -- the four hexadecimal digits begin with two zeros
          have hValue : 16 * hexValue (Nat.digitChar (c.toNat / 16)) +
              hexValue (Nat.digitChar (c.toNat % 16)) = c.toNat := by
            rw [hexValue_digitChar _ (by omega), hexValue_digitChar _ (by omega)]
            omega
          simp [readChars, hValue, Char.ofNat_toNat]
        · -- any other character stands for itself
          rw [List.singleton_append, readChars]
          · exact fun h => hQuote h
          · exact fun _ _ _ h => (hBackslash h).elim
          · exact fun _ _ h => (hBackslash h).elim

/-- A quoted string is read back up to its closing quote. -/
theorem readChars_quote (t rest : Text) :
    readChars (t.flatMap escape ++ '"' :: rest) = some (t, rest) := by
  induction t with
  | nil => rw [List.flatMap_nil, List.nil_append, readChars]
  | cons c t ih =>
    rw [List.flatMap_cons, List.append_assoc, readChars_escape, ih, Option.map_some]

/-! ## Numbers -/

/-- A number ends here. -/
def Delimited (rest : Text) : Prop := ∀ c ∈ rest.head?, c.isDigit = false

/-- Anything that is no digit ends a number. -/
theorem Delimited.cons {c : Char} (h : c.isDigit = false) (rest : Text) :
    Delimited (c :: rest) := by
  intro d hd
  obtain rfl := Option.some.inj hd
  exact h

/-- An unsigned integer is read back where it ends. -/
theorem readNumber_ofNat (n : Nat) {rest : Text} (hRest : Delimited rest) :
    readNumber (Text.ofNat n ++ rest) = (.number (.posInt n), rest) := by
  have hDigits : ∀ c ∈ Text.ofNat n, c.isDigit = true := fun _ hc => Text.isDigit_of_mem_ofNat hc
  have hTake : rest.takeWhile Char.isDigit = [] ∧ rest.dropWhile Char.isDigit = rest := by
    cases rest with
    | nil => exact ⟨rfl, rfl⟩
    | cons c rest =>
      have hc : c.isDigit = false := hRest c rfl
      simp [hc]
  rw [readNumber, List.takeWhile_append_of_pos hDigits, List.dropWhile_append_of_pos hDigits,
    hTake.1, hTake.2, List.append_nil, Text.ofNat, Nat.ofDigitChars_ten_toDigits]

/-! ## Documents -/

/-- A document never starts with the bracket that ends a list. -/
theorem display_head {v : Value} (hPlain : v.Plain) (t : Text) :
    (display v ++ t).head? ≠ some ']' := by
  cases hPlain with
  | posInt n =>
    obtain ⟨c, digits, hDigits⟩ := List.exists_cons_of_ne_nil (Text.ofNat_ne_nil n)
    have hc : c.isDigit = true :=
      Text.isDigit_of_mem_ofNat (n := n) (by rw [hDigits]; exact List.mem_cons_self)
    rw [display, Number.display, hDigits]
    rintro h
    obtain rfl : c = ']' := Option.some.inj h
    cases hc
  | bool b => cases b <;> simp [display]
  | _ => simp [display, quote]

/-- What the reader does with enough fuel. -/
structure ReadsBack (fuel : Nat) : Prop where
  value : ∀ v rest, v.Plain → Delimited rest → (display v).length ≤ fuel →
    readValue fuel (display v ++ rest) = some (v, rest)
  items : ∀ items rest, items ≠ [] → (∀ item ∈ items, item.Plain) →
    (displayItems items).length < fuel →
    readItems fuel (displayItems items ++ ']' :: rest) = some (items, rest)
  members : ∀ members rest, members ≠ [] → (∀ entry ∈ members, entry.2.Plain) →
    (displayMembers members).length < fuel →
    readMembers fuel (displayMembers members ++ '\x7d' :: rest) = some (members, rest)

/-- No document is written as nothing. -/
theorem display_ne_nil {v : Value} (hPlain : v.Plain) : display v ≠ [] := by
  cases hPlain with
  | posInt n => exact Text.ofNat_ne_nil n
  | bool b => cases b <;> simp [display]
  | _ => simp [display, quote]

/-- A comma stands between two items. -/
theorem displayItems_cons_cons (item next : Value) (items : List Value) :
    displayItems (item :: next :: items) = display item ++ ',' :: displayItems (next :: items) := by
  rw [displayItems]
  exact List.cons_ne_nil _ _

/-- A comma stands between two members. -/
theorem displayMembers_cons_cons (key : Text) (member : Value) (next : Text × Value)
    (members : List (Text × Value)) :
    displayMembers ((key, member) :: next :: members) =
      quote key ++ ':' :: (display member ++ ',' :: displayMembers (next :: members)) := by
  rw [displayMembers]
  · simp
  · exact List.cons_ne_nil _ _

/-- Items start with the first one. -/
theorem displayItems_cons (item : Value) (items : List Value) :
    ∃ t, displayItems (item :: items) = display item ++ t := by
  cases items with
  | nil => exact ⟨[], by rw [displayItems, List.append_nil]⟩
  | cons next items => exact ⟨_, displayItems_cons_cons item next items⟩

namespace ReadsBack

variable {fuel : Nat}

/-- One more round reads one more level: a document of lists and objects that
are read back is read back. -/
theorem value_succ (ih : ReadsBack fuel) {v : Value} (hPlain : v.Plain) {rest : Text}
    (hRest : Delimited rest) (hFuel : (display v).length ≤ fuel + 1) :
    readValue (fuel + 1) (display v ++ rest) = some (v, rest) := by
  cases hPlain with
  | null =>
    rw [show display .null ++ rest = 'n' :: ("ull".toList ++ rest) from rfl, readValue,
      if_neg (by decide), Text.stripPrefix_append, Option.map_some]
  | bool b =>
    cases b with
    | true =>
      rw [show display (.bool true) ++ rest = 't' :: ("rue".toList ++ rest) from rfl, readValue,
        if_neg (by decide), Text.stripPrefix_append, Option.map_some]
    | false =>
      rw [show display (.bool false) ++ rest = 'f' :: ("alse".toList ++ rest) from rfl, readValue,
        if_neg (by decide), Text.stripPrefix_append, Option.map_some]
  | posInt n =>
    have hNumber := readNumber_ofNat n hRest
    rw [show display (.number (.posInt n)) = Text.ofNat n from rfl]
    obtain ⟨c, digits, hDigits⟩ := List.exists_cons_of_ne_nil (Text.ofNat_ne_nil n)
    have hc : c.isDigit = true :=
      Text.isDigit_of_mem_ofNat (n := n) (by rw [hDigits]; exact List.mem_cons_self)
    rw [hDigits, List.cons_append] at hNumber ⊢
    rw [readValue, if_pos hc, hNumber]
    -- no digit is one of the characters the other documents start with
    all_goals
      rintro rfl
      cases hc
  | string t =>
    rw [show display (.string t) = '"' :: (t.flatMap escape ++ ['"']) from rfl, List.cons_append,
      List.append_assoc, readValue, if_neg (by decide)]
    simp [readChars_quote]
  | array hItems =>
    rename_i items
    rw [show display (.array items) = '[' :: (displayItems items ++ [']']) from rfl] at hFuel ⊢
    rw [List.cons_append, List.append_assoc, List.singleton_append, readValue,
      if_neg (by decide)]
    cases items with
    | nil => simp [displayItems]
    | cons item items =>
      have hHead : (displayItems (item :: items) ++ ']' :: rest).head? ≠ some ']' := by
        obtain ⟨t, hText⟩ := displayItems_cons item items
        rw [hText, List.append_assoc]
        exact display_head (hItems item List.mem_cons_self) _
      have hRead := ih.items (item :: items) rest (List.cons_ne_nil _ _) hItems
        (by simp only [List.length_cons, List.length_append] at hFuel; omega)
      rw [if_neg hHead, hRead, Option.map_some]
  | object hMembers =>
    rename_i members
    rw [show display (.object members) = '\x7b' :: (displayMembers members ++ ['\x7d']) from rfl]
      at hFuel ⊢
    rw [List.cons_append, List.append_assoc, List.singleton_append, readValue,
      if_neg (by decide)]
    cases members with
    | nil => simp [displayMembers]
    | cons entry members =>
      have hHead : (displayMembers (entry :: members) ++ '\x7d' :: rest).head? ≠ some '\x7d' := by
        cases members <;> simp [displayMembers, quote]
      have hRead := ih.members (entry :: members) rest (List.cons_ne_nil _ _) hMembers
        (by simp only [List.length_cons, List.length_append] at hFuel; omega)
      rw [if_neg hHead, hRead, Option.map_some]

/-- The same of the items of an array. -/
theorem items_succ (ih : ReadsBack fuel) {items : List Value} (hSome : items ≠ [])
    (hPlain : ∀ item ∈ items, item.Plain) (rest : Text)
    (hFuel : (displayItems items).length < fuel + 1) :
    readItems (fuel + 1) (displayItems items ++ ']' :: rest) = some (items, rest) := by
  cases items with
  | nil => exact absurd rfl hSome
  | cons item items =>
    have hItem : item.Plain := hPlain item List.mem_cons_self
    cases items with
    -- the last item is followed by the bracket, the others by a comma
    | nil =>
      rw [displayItems] at hFuel ⊢
      have hRead := ih.value item (']' :: rest) hItem (.cons rfl _) (by omega)
      rw [readItems, hRead]
      rfl
    | cons next items =>
      rw [displayItems_cons_cons, List.length_append, List.length_cons] at hFuel
      rw [displayItems_cons_cons, List.append_assoc, List.cons_append, readItems,
        ih.value item _ hItem (.cons rfl _) (by omega)]
      have hRead := ih.items (next :: items) rest (List.cons_ne_nil _ _)
        (fun other hOther => hPlain other (List.mem_cons_of_mem _ hOther)) (by omega)
      simp [hRead]

/-- The same of the members of an object. -/
theorem members_succ (ih : ReadsBack fuel) {members : List (Text × Value)} (hSome : members ≠ [])
    (hPlain : ∀ entry ∈ members, entry.2.Plain) (rest : Text)
    (hFuel : (displayMembers members).length < fuel + 1) :
    readMembers (fuel + 1) (displayMembers members ++ '\x7d' :: rest) = some (members, rest) := by
  cases members with
  | nil => exact absurd rfl hSome
  | cons entry members =>
    obtain ⟨key, member⟩ := entry
    have hMember : member.Plain := hPlain (key, member) List.mem_cons_self
    -- the key and the colon
    have hKey : ∀ t, readMembers (fuel + 1) (quote key ++ ':' :: t) =
        (readValue fuel t).bind fun first =>
          match first.2 with
          | '\x7d' :: rest => some ([(key, first.1)], rest)
          | ',' :: rest =>
            (readMembers fuel rest).map fun read => ((key, first.1) :: read.1, read.2)
          | _ => none := by
      intro t
      rw [show quote key ++ ':' :: t = ['"'] ++ (key.flatMap escape ++ ['"'] ++ ':' :: t) from rfl,
        readMembers, Text.stripPrefix_append, List.append_assoc, Option.bind_some,
        List.singleton_append, readChars_quote, Option.bind_some,
        show ':' :: t = [':'] ++ t from rfl, Text.stripPrefix_append, Option.bind_some]
    cases members with
    | nil =>
      rw [displayMembers, List.length_append, List.length_cons] at hFuel
      rw [displayMembers, List.append_assoc, List.cons_append, hKey,
        ih.value member _ hMember (.cons rfl _) (by omega)]
      rfl
    | cons next members =>
      rw [displayMembers_cons_cons] at hFuel ⊢
      simp only [List.length_append, List.length_cons] at hFuel
      simp only [List.append_assoc, List.cons_append]
      rw [hKey, ih.value member _ hMember (.cons rfl _) (by omega)]
      have hRead := ih.members (next :: members) rest (List.cons_ne_nil _ _)
        (fun other hOther => hPlain other (List.mem_cons_of_mem _ hOther)) (by omega)
      simp [hRead]

end ReadsBack

/-- **Reading back.** The induction is on the fuel, which is never more than the
length of the text. -/
theorem reads_back (fuel : Nat) : ReadsBack fuel := by
  induction fuel with
  | zero =>
    refine ⟨fun v rest hPlain _ hFuel => ?_, fun _ _ _ _ hFuel => ?_, fun _ _ _ _ hFuel => ?_⟩
    · exact absurd (List.length_eq_zero_iff.mp (Nat.le_zero.mp hFuel)) (display_ne_nil hPlain)
    · exact absurd hFuel (Nat.not_lt_zero _)
    · exact absurd hFuel (Nat.not_lt_zero _)
  | succ fuel ih =>
    exact ⟨fun _ _ hPlain hRest hFuel => ih.value_succ hPlain hRest hFuel,
      fun _ rest hSome hPlain hFuel => ih.items_succ hSome hPlain rest hFuel,
      fun _ rest hSome hPlain hFuel => ih.members_succ hSome hPlain rest hFuel⟩

/-- A printed document is read back. -/
theorem read_display {v : Value} (hPlain : v.Plain) : read (display v) = some v := by
  have hRead := (reads_back (display v).length).value v [] hPlain (by simp [Delimited]) le_rfl
  rw [List.append_nil] at hRead
  rw [read, hRead]

end Value

end MarketStreamGateway.Lib
