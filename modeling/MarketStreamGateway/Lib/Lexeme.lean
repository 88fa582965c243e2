import MarketStreamGateway.Lib.Json
import Mathlib.Data.Rat.Defs
import Mathlib.Algebra.Order.Field.Rat
import Mathlib.Data.List.Lex

/-!
# JSON texts

A JSON text as it is written: a tree whose strings and numbers are the pieces of
text that stand for them, the tokens of the tree in order, and the texts that
spell the tokens, with any white space between them. The document a text stands
for forgets how its numbers and strings are written.

* `Lexical.get_value` — a member of a document is the last one of its name in
  the text.
* `firstNumber` — the first number of a name, in the order of the text.
-/

namespace MarketStreamGateway.Lib

/-! ## Numbers -/

/-- The exponent of a number: its marker, its sign and its digits. -/
structure Exponent where
  upper : Bool
  sign : Option Bool
  digits : Text
  nonempty : digits ≠ []
  isDigits : ∀ c ∈ digits, c.isDigit = true

/-- A JSON number as it is written. -/
structure NumberToken where
  negative : Bool
  whole : Text
  fraction : Option Text
  exponent : Option Exponent
  nonempty : whole ≠ []
  canonical : whole = ['0'] ∨ whole.head? ≠ some '0'
  isDigits : ∀ c ∈ whole, c.isDigit = true
  fractionDigits : ∀ f ∈ fraction, f ≠ [] ∧ ∀ c ∈ f, c.isDigit = true

/-- A number without a fraction has no digits to check. -/
theorem no_fractionDigits : ∀ f ∈ (none : Option Text), f ≠ [] ∧ ∀ c ∈ f, c.isDigit = true :=
  nofun

/-- How closed digits are checked. -/
theorem isDigits_of_all {digits : Text} (h : digits.all Char.isDigit = true) :
    ∀ c ∈ digits, c.isDigit = true := List.all_eq_true.mp h

/-- The marker, a sign if there is one, and the digits. -/
def Exponent.text (e : Exponent) : Text :=
  (if e.upper then 'E' else 'e') :: ((e.sign.map fun minus => if minus then '-' else '+').toList ++
    e.digits)

/-- Only a minus changes the value of the digits. -/
def Exponent.value (e : Exponent) : Int :=
  let n : Int := Nat.ofDigitChars 10 e.digits 0
  if e.sign = some true then -n else n

namespace NumberToken

/-- Sign, whole part, fraction and exponent, as they stand in the document. -/
def text (t : NumberToken) : Text :=
  (if t.negative then ['-'] else []) ++ t.whole ++
    ((t.fraction.map fun f => '.' :: f).getD [] ++ (t.exponent.map Exponent.text).getD [])

/-- The number a token denotes. -/
def value (t : NumberToken) : ℚ :=
  let fraction := t.fraction.getD []
  let digits : ℚ := Nat.ofDigitChars 10 (t.whole ++ fraction) 0
  let shift : Int := (t.exponent.map Exponent.value).getD 0 - fraction.length
  (if t.negative then -digits else digits) * (10 : ℚ) ^ shift

/-- The number is written without an exponent. -/
def Plain (t : NumberToken) : Prop := t.exponent = none

instance (t : NumberToken) : Decidable t.Plain :=
  inferInstanceAs (Decidable (t.exponent = none))

/-- The characters of numbers. -/
def character (c : Char) : Bool :=
  c.isDigit || c = '-' || c = '+' || c = '.' || c = 'e' || c = 'E'

/-- A digit may stand in a number token. -/
theorem character_of_isDigit {c : Char} (h : c.isDigit = true) : character c = true := by
  simp [character, h]

/-- Every character of a number token is one the scanner takes. -/
theorem character_of_mem {t : NumberToken} {c : Char} (h : c ∈ t.text) : character c = true := by
  unfold text at h
  simp only [List.mem_append] at h
  -- sign, digits, fraction and exponent, one after the other
  rcases h with (h | h) | h | h
  · split at h
    · obtain rfl := List.mem_singleton.mp h
      decide
    · cases h
  · exact character_of_isDigit (t.isDigits c h)
  · cases hFraction : t.fraction with
    | none =>
      rw [hFraction] at h
      cases h
    | some f =>
      rw [hFraction, Option.map_some, Option.getD_some, List.mem_cons] at h
      rcases h with rfl | h
      · decide
      · exact character_of_isDigit ((t.fractionDigits f hFraction).2 c h)
  · cases hExponent : t.exponent with
    | none =>
      rw [hExponent] at h
      cases h
    | some e =>
      rw [hExponent, Option.map_some, Option.getD_some, Exponent.text, List.mem_cons,
        List.mem_append] at h
      rcases h with rfl | h | h
      · split <;> decide
      · obtain ⟨minus, -, rfl⟩ := Option.mem_map.mp (Option.mem_toList.mp h)
        split <;> decide
      · exact character_of_isDigit (e.isDigits c h)

/-- A number token is never empty. -/
theorem text_ne_nil (t : NumberToken) : t.text ≠ [] := by
  unfold text
  simp [t.nonempty]

end NumberToken

/-! ## Tokens -/

/-- What may stand between the quotes of a string: no quote but behind a
backslash. -/
def isRaw : Text → Bool
  | [] => true
  | '"' :: _ => false
  | ['\\'] => false
  | '\\' :: _ :: rest => isRaw rest
  | _ :: rest => isRaw rest

/-- The text of a string between its quotes. -/
abbrev Raw := { raw : Text // isRaw raw = true }

/-- The text as a string, if it is one as it stands. -/
def Raw.of (text : Text) : Raw := if h : isRaw text = true then ⟨text, h⟩ else ⟨[], rfl⟩

/-- The tokens of JSON. A string is kept as it is written. -/
inductive Token where
  | openBrace | closeBrace | openBracket | closeBracket | colon | comma
  | null
  | bool (b : Bool)
  | number (token : NumberToken)
  | string (raw : Raw)

/-- The text of a token; a string between its quotes. -/
def Token.text : Token → Text
  | openBrace => ['\x7b']
  | closeBrace => ['\x7d']
  | openBracket => ['[']
  | closeBracket => [']']
  | colon => [':']
  | comma => [',']
  | null => "null".toList
  | bool true => "true".toList
  | bool false => "false".toList
  | number token => token.text
  | string raw => '"' :: raw.1 ++ ['"']

/-- White space between tokens. -/
def Blank (t : Text) : Prop := ∀ c ∈ t, c ∈ [' ', '\t', '\n', '\r']

/-- A number ends where its token ends. -/
def Apart (token : Token) (rest : Text) : Prop :=
  match token with
  | .number _ => ∀ c ∈ rest.head?, c ∈ [' ', '\t', '\n', '\r', ',', ']', '\x7d']
  | _ => True

/-- The texts that spell a list of tokens. -/
inductive Spells : List Token → Text → Prop where
  | nil {blank : Text} (hBlank : Blank blank) : Spells [] blank
  | cons {blank : Text} {token : Token} {tokens : List Token} {rest : Text} (hBlank : Blank blank)
      (hApart : Apart token rest) (hRest : Spells tokens rest) :
      Spells (token :: tokens) (blank ++ (token.text ++ rest))

/-- A token may stand without a blank before it. -/
theorem Spells.token {token : Token} {tokens : List Token} {rest : Text}
    (h : Spells tokens rest) (hApart : Apart token rest) :
    Spells (token :: tokens) (token.text ++ rest) := by
  have hBlank : Blank [] := fun _ hc => by cases hc
  exact Spells.cons hBlank hApart h

/-- Every number is followed by a token that ends it. -/
def separated : List Token → Bool
  | .number _ :: rest => (match rest with
    | [] | .comma :: _ | .closeBracket :: _ | .closeBrace :: _ => true
    | _ => false) && separated rest
  | _ :: rest => separated rest
  | [] => true

/-- The text without any white space. -/
theorem spells_compact {tokens : List Token} (h : separated tokens = true) :
    Spells tokens (tokens.flatMap Token.text) := by
  induction tokens with
  | nil => exact .nil fun _ hc => by cases hc
  | cons token tokens ih =>
    have hRest : separated tokens = true := by
      cases token with
      | number t => exact (Bool.and_eq_true_iff.mp h).2
      | _ => exact h
    refine (ih hRest).token ?_
    cases token with
    | number t =>
      -- a number ends at the next token, which has no character of numbers
      have hNext := (Bool.and_eq_true_iff.mp h).1
      intro c hc
      split at hNext
      · cases hc
      · obtain rfl := Option.some.inj hc
        decide
      · obtain rfl := Option.some.inj hc
        decide
      · obtain rfl := Option.some.inj hc
        decide
      · cases hNext
    | _ => trivial

/-- The first number of a name, in the order of the tokens. A name that is
spelled with an escape does not count. -/
def firstNumber (field : Text) : List Token → Option NumberToken
  | .string raw :: .colon :: .number token :: rest =>
    if raw.1 = field ∧ '\\' ∉ raw.1 then some token else firstNumber field rest
  | _ :: rest => firstNumber field rest
  | [] => none

/-- A token that is no string starts no member. -/
theorem firstNumber_of_not_string {field : Text} {token : Token}
    (h : ∀ raw, token ≠ .string raw) (tokens : List Token) :
    firstNumber field (token :: tokens) = firstNumber field tokens := by
  cases token with
  | string raw => exact absurd rfl (h raw)
  | _ => rfl

/-- A string that is not the name is passed over. -/
theorem firstNumber_of_other {field : Text} {raw : Raw}
    (h : ¬ (raw.1 = field ∧ '\\' ∉ raw.1)) (tokens : List Token) :
    firstNumber field (.string raw :: tokens) = firstNumber field tokens := by
  cases tokens with
  | nil => rfl
  | cons second tokens =>
    cases tokens with
    | nil => cases second <;> rfl
    | cons third tokens =>
      cases second with
      | colon =>
        cases third with
        | number number =>
          rw [firstNumber, if_neg h]
          rfl
        | _ => rfl
      | _ => rfl

/-- A name without a number is passed over. -/
theorem firstNumber_of_not_colon {field : Text} (raw : Raw) {token : Token}
    (h : token ≠ .colon) (tokens : List Token) :
    firstNumber field (.string raw :: token :: tokens) = firstNumber field (token :: tokens) := by
  cases token with
  | colon => exact absurd rfl h
  | _ => rfl

/-- A member that is no number is passed over. -/
theorem firstNumber_of_not_number {field : Text} (raw : Raw) {token : Token}
    (h : ∀ number, token ≠ .number number) (tokens : List Token) :
    firstNumber field (.string raw :: .colon :: token :: tokens) =
      firstNumber field (token :: tokens) := by
  cases token with
  | number number => exact absurd rfl (h number)
  | _ => rfl

/-! ## Trees -/

/-- A JSON text, but for its white space. -/
inductive Lexical where
  | null
  | bool (b : Bool)
  | number (token : NumberToken)
  | string (raw : Raw)
  | array (items : List Lexical)
  | object (members : List (Raw × Lexical))

/-- How a parser reads strings and numbers. -/
class Lexemes where
  unquote : Text → Text
  number : NumberToken → Number
  unquote_plain : ∀ raw : Text, '\\' ∉ raw → unquote raw = raw

/-- Strings without escapes, and integers, for evaluating closed instances. -/
@[reducible] def Lexemes.plain : Lexemes where
  unquote raw := raw
  number t :=
    if t.fraction.isNone && t.exponent.isNone then
      if t.negative then .negInt (Nat.ofDigitChars 10 t.whole 0)
      else .posInt (Nat.ofDigitChars 10 t.whole 0)
    else .float t.text
  unquote_plain _ _ := rfl

namespace Lexical

mutual

/-- The tokens of a tree, in order. -/
def tokens : Lexical → List Token
  | null => [.null]
  | bool b => [.bool b]
  | number token => [.number token]
  | string raw => [.string raw]
  | array items => .openBracket :: itemTokens items ++ [.closeBracket]
  | object members => .openBrace :: memberTokens members ++ [.closeBrace]

/-- The tokens of the items, with the commas. -/
def itemTokens : List Lexical → List Token
  | [] => []
  | [item] => item.tokens
  | item :: rest => item.tokens ++ .comma :: itemTokens rest

/-- The tokens of the members, each a name, a colon and a value. -/
def memberTokens : List (Raw × Lexical) → List Token
  | [] => []
  | [(key, member)] => .string key :: .colon :: member.tokens
  | (key, member) :: rest =>
    .string key :: .colon :: member.tokens ++ .comma :: memberTokens rest

end

mutual

/-- The numbers of a document that are members of an object, with their keys as
they are written, in the order of the text and at any depth. -/
def numbers : Lexical → List (Raw × NumberToken)
  | array items => itemNumbers items
  | object members => memberNumbers members
  | null | bool _ | number _ | string _ => []

/-- The named numbers below a list of items. -/
def itemNumbers : List Lexical → List (Raw × NumberToken)
  | [] => []
  | item :: rest => item.numbers ++ itemNumbers rest

/-- The named numbers of an object and below it, in order. -/
def memberNumbers : List (Raw × Lexical) → List (Raw × NumberToken)
  | [] => []
  | (key, .number token) :: rest => (key, token) :: memberNumbers rest
  | (_, member) :: rest => member.numbers ++ memberNumbers rest

end

/-- The first number of a name that is written without an escape. -/
def firstNamed (field : Text) (numbers : List (Raw × NumberToken)) : Option NumberToken :=
  (numbers.find? fun member => member.1.1 = field ∧ '\\' ∉ member.1.1).map Prod.snd

/-- The first of two lists has precedence. -/
theorem firstNamed_append (field : Text) (first second : List (Raw × NumberToken)) :
    firstNamed field (first ++ second) = (firstNamed field first).or (firstNamed field second) := by
  rw [firstNamed, List.find?_append, firstNamed, firstNamed]
  cases first.find? fun member => member.1.1 = field ∧ '\\' ∉ member.1.1 with
  | none => rfl
  | some member => rfl

/-- A tree starts with a token, never a colon, and with a number only if it is one. -/
theorem tokens_head (v : Lexical) : ∃ token rest, v.tokens = token :: rest ∧ token ≠ .colon ∧
    ∀ number, token = .number number → v = .number number := by
  cases v with
  | number t =>
    refine ⟨.number t, [], by rw [tokens], nofun, fun number hToken => ?_⟩
    rw [Token.number.inj hToken]
  | null => exact ⟨.null, [], by rw [tokens], nofun, nofun⟩
  | bool b => exact ⟨.bool b, [], by rw [tokens], nofun, nofun⟩
  | string raw => exact ⟨.string raw, [], by rw [tokens], nofun, nofun⟩
  | array items => exact ⟨.openBracket, _, by rw [tokens]; rfl, nofun, nofun⟩
  | object members => exact ⟨.openBrace, _, by rw [tokens]; rfl, nofun, nofun⟩

/-- The numbers of the first member come first. -/
theorem memberNumbers_cons (key : Raw) (member : Lexical) (rest : List (Raw × Lexical)) :
    memberNumbers ((key, member) :: rest) =
      memberNumbers [(key, member)] ++ memberNumbers rest := by
  cases member with
  | number token =>
    rw [memberNumbers, memberNumbers, memberNumbers]
    rfl
  | null | bool _ | string _ | array _ | object _ =>
    rw [memberNumbers, memberNumbers, memberNumbers, List.append_nil] <;> exact fun _ => nofun

/-- A member is passed over to its content, unless it is a number itself. -/
theorem firstNumber_member {field : Text} (key : Raw) {member : Lexical} {rest : List Token}
    (hMember : firstNumber field (member.tokens ++ rest) =
      (firstNamed field member.numbers).or (firstNumber field rest)) :
    firstNumber field (.string key :: .colon :: (member.tokens ++ rest)) =
      (firstNamed field (memberNumbers [(key, member)])).or (firstNumber field rest) := by
  -- only a number after the colon can be found under the key
  by_cases hNumber : ∃ token, member = .number token
  · obtain ⟨token, rfl⟩ := hNumber
    rw [tokens, List.singleton_append, firstNumber, memberNumbers, memberNumbers, firstNamed]
    by_cases hName : key.1 = field ∧ '\\' ∉ key.1
    · rw [if_pos hName, List.find?_cons_of_pos (by simpa using hName)]
      rfl
    · rw [if_neg hName, List.find?_cons_of_neg (by simpa using hName)]
      rfl
  · have hOther : memberNumbers [(key, member)] = member.numbers := by
      rw [memberNumbers, memberNumbers, List.append_nil]
      exact fun token hEq => hNumber ⟨token, hEq⟩
    obtain ⟨token, more, hTokens, -, hToken⟩ := member.tokens_head
    rw [hOther, ← hMember, hTokens, List.cons_append]
    exact firstNumber_of_not_number key (fun number h => hNumber ⟨number, hToken number h⟩) _

mutual

/-- **Document order.** The first number of a name among the tokens of a document
is the first one among its members. -/
theorem firstNumber_tokens (field : Text) (v : Lexical) {rest : List Token}
    (hRest : rest.head? ≠ some .colon) :
    firstNumber field (v.tokens ++ rest) =
      (firstNamed field v.numbers).or (firstNumber field rest) := by
  match v with
  | .null => rw [tokens, numbers]; rfl
  | .bool b => rw [tokens, numbers]; rfl
  | .number token => rw [tokens, numbers]; rfl
  -- a string that is no key is passed
  | .string raw =>
    rw [tokens, numbers, List.singleton_append]
    cases rest with
    | nil => rfl
    | cons token rest =>
      exact firstNumber_of_not_colon raw (fun hToken => hRest (congrArg some hToken)) rest
  | .array items =>
    have hClose : (Token.closeBracket :: rest).head? ≠ some .colon := by simp
    rw [tokens, numbers, List.append_assoc]
    exact firstNumber_items field items hClose
  | .object members =>
    have hClose : (Token.closeBrace :: rest).head? ≠ some .colon := by simp
    rw [tokens, numbers, List.append_assoc]
    exact firstNumber_members field members hClose

/-- Scanning the tokens of an array finds the first named number in it, or goes
on behind it. -/
theorem firstNumber_items (field : Text) (items : List Lexical) {rest : List Token}
    (hRest : rest.head? ≠ some .colon) :
    firstNumber field (itemTokens items ++ rest) =
      (firstNamed field (itemNumbers items)).or (firstNumber field rest) := by
  match items with
  | [] => rw [itemTokens, itemNumbers]; rfl
  | [item] =>
    rw [itemTokens, itemNumbers, itemNumbers, List.append_nil]
    exact firstNumber_tokens field item hRest
  | item :: next :: more =>
    -- after an item comes a comma or the bracket, never a colon
    have hComma : (Token.comma :: (itemTokens (next :: more) ++ rest)).head? ≠ some .colon := by
      simp
    have hMore : firstNumber field (.comma :: (itemTokens (next :: more) ++ rest)) =
        firstNumber field (itemTokens (next :: more) ++ rest) := rfl
    rw [itemTokens, itemNumbers, List.append_assoc, List.cons_append,
      firstNumber_tokens field item hComma, hMore, firstNumber_items field (next :: more) hRest,
      firstNamed_append, Option.or_assoc]
    nofun

/-- The same of an object. -/
theorem firstNumber_members (field : Text) (members : List (Raw × Lexical)) {rest : List Token}
    (hRest : rest.head? ≠ some .colon) :
    firstNumber field (memberTokens members ++ rest) =
      (firstNamed field (memberNumbers members)).or (firstNumber field rest) := by
  match members with
  | [] => rw [memberTokens, memberNumbers]; rfl
  | [(key, member)] =>
    rw [memberTokens]
    exact firstNumber_member key (firstNumber_tokens field member hRest)
  | (key, member) :: next :: more =>
    have hComma : (Token.comma :: (memberTokens (next :: more) ++ rest)).head? ≠ some .colon := by
      simp
    -- the numbers of a member stand before those of the next
    have hMember := firstNumber_member key (firstNumber_tokens field member hComma)
    have hMore : firstNumber field (.comma :: (memberTokens (next :: more) ++ rest)) =
        firstNumber field (memberTokens (next :: more) ++ rest) := rfl
    rw [hMore, firstNumber_members field (next :: more) hRest] at hMember
    rw [memberNumbers_cons, firstNamed_append, Option.or_assoc, ← hMember, memberTokens]
    · simp only [List.cons_append, List.append_assoc]
    · nofun

end

variable [Lexemes]

/-- Puts a member into an object, whose members are in the order of their keys. -/
def insertMember (key : Text) (member : Value) : List (Text × Value) → List (Text × Value)
  | [] => [(key, member)]
  | (key', member') :: rest =>
    if key = key' then (key, member) :: rest
    else if key < key' then (key, member) :: (key', member') :: rest
    else (key', member') :: insertMember key member rest

mutual

/-- The document a text stands for: of several members of a name the last one
counts. -/
def value : Lexical → Value
  | null => .null
  | bool b => .bool b
  | number token => .number (Lexemes.number token)
  | string raw => .string (Lexemes.unquote raw.1)
  | array items => .array (itemValues items)
  | object members => .object (memberValues [] members)

/-- The documents of the items. -/
def itemValues : List Lexical → List Value
  | [] => []
  | item :: rest => item.value :: itemValues rest

/-- The members read so far, and those still to come put in by name. -/
def memberValues (read : List (Text × Value)) : List (Raw × Lexical) → List (Text × Value)
  | [] => read
  | (key, member) :: rest =>
    memberValues (insertMember (Lexemes.unquote key.1) member.value read) rest

end

/-- Items are read one by one. -/
theorem itemValues_eq (items : List Lexical) : itemValues items = items.map value := by
  induction items with
  | nil => rw [itemValues, List.map_nil]
  | cons item items ih => rw [itemValues, ih, List.map_cons]

/-- The last member of a name. -/
def get (key : Text) : Lexical → Option Lexical
  | object members => ((members.filter fun m => Lexemes.unquote m.1.1 = key).getLast?).map Prod.snd
  | _ => none

omit [Lexemes] in
/-- Looking up a name in a list with one more member in front. -/
theorem lookup_cons_if (key other : Text) (member : Value) (rest : List (Text × Value)) :
    List.lookup other ((key, member) :: rest) =
      if other = key then some member else rest.lookup other := by
  by_cases h : other = key
  · rw [if_pos h, h, List.lookup_cons_self]
  · rw [if_neg h, List.lookup_cons, beq_eq_false_iff_ne.mpr h]

omit [Lexemes] in
/-- A member put into an object is found under its name, and the others are
found as before. -/
theorem lookup_insertMember (key other : Text) (member : Value) (read : List (Text × Value)) :
    (insertMember key member read).lookup other =
      if other = key then some member else read.lookup other := by
  induction read with
  | nil => rw [insertMember, lookup_cons_if]
  | cons m read ih =>
    obtain ⟨key', member'⟩ := m
    unfold insertMember
    split
    · next hSame =>
      rw [lookup_cons_if, lookup_cons_if, ← hSame]
      split <;> rfl
    · -- the members stay sorted; the key goes before the first larger one
      next hOther =>
      split
      · rw [lookup_cons_if]
      · rw [lookup_cons_if, lookup_cons_if, ih]
        by_cases h : other = key'
        · rw [if_pos h, if_pos h, if_neg fun hKey => hOther (hKey.symm.trans h)]
        · rw [if_neg h, if_neg h]

/-- Of several members of a name the last one is found. -/
theorem lookup_memberValues (key : Text) (read : List (Text × Value))
    (members : List (Raw × Lexical)) :
    (memberValues read members).lookup key =
      ((((members.filter fun m => Lexemes.unquote m.1.1 = key).getLast?).map Prod.snd).map
        value).or (read.lookup key) := by
  induction members generalizing read with
  | nil =>
    rw [memberValues]
    rfl
  | cons m members ih =>
    obtain ⟨name, member⟩ := m
    rw [memberValues, ih, lookup_insertMember]
    by_cases h : Lexemes.unquote name.1 = key
    · rw [List.filter_cons_of_pos (by simpa using h), if_pos h.symm, List.getLast?_cons]
      cases (members.filter fun m => Lexemes.unquote m.1.1 = key).getLast? <;> rfl
    · rw [List.filter_cons_of_neg (by simpa using h), if_neg (Ne.symm h)]

/-- A member of the document is the last member of its name. -/
theorem get_value (key : Text) (v : Lexical) : v.value.get key = (v.get key).map value := by
  cases v with
  | object members =>
    rw [value, Value.get, lookup_memberValues, List.lookup_nil, Option.or_none]
    rfl
  | null | bool _ | number _ | string _ | array _ =>
    rw [value]
    rfl

end Lexical

end MarketStreamGateway.Lib
