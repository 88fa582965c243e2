import MarketStreamGateway.Lib.Text

/-!
# JSON documents

The documents of `serde_json` with its default features, and the accessors the
code uses. An object is the list of its members; parsing leaves one member per
key, so the first match of `get` is the only one.
-/

namespace MarketStreamGateway.Lib

/-- A JSON number as `serde_json` keeps it: an unsigned or a negative integer of
64 bits, or a floating-point number, given by the text it prints as. -/
inductive Number where
  | posInt (n : Nat)
  | negInt (magnitude : Nat)
  | float (shown : Text)
  deriving DecidableEq, Repr

namespace Number

/-- An unsigned integer; a value with a sign or a fraction is none. -/
def asU64 : Number → Option Nat
  | posInt n => some n
  | negInt _ | float _ => none

/-- Negative integers, and the others below two to the 63. -/
def asI64 : Number → Option Int
  | posInt n => if n < 2 ^ 63 then some n else none
  | negInt magnitude => some (-magnitude)
  | float _ => none

/-- `Number::to_string`. -/
def display : Number → Text
  | posInt n => Text.ofNat n
  | negInt magnitude => '-' :: Text.ofNat magnitude
  | float shown => shown

end Number

/-- A JSON value; an object is the list of its members. -/
inductive Value where
  | null
  | bool (b : Bool)
  | number (n : Number)
  | string (t : Text)
  | array (items : List Value)
  | object (members : List (Text × Value))
  deriving Repr

namespace Value

/-- The members of an object. -/
def asObject : Value → Option (List (Text × Value))
  | object members => some members
  | _ => none

def asArray : Value → Option (List Value)
  | array items => some items
  | _ => none

def asStr : Value → Option Text
  | string t => some t
  | _ => none

def asBool : Value → Option Bool
  | bool b => some b
  | _ => none

def asI64 : Value → Option Int
  | number n => n.asI64
  | _ => none

/-- The string escapes of the compact printer. -/
def escape (c : Char) : Text :=
  match c with
  | '"' => "\\\"".toList
  | '\\' => "\\\\".toList
  | '\n' => "\\n".toList
  | '\r' => "\\r".toList
  | '\t' => "\\t".toList
  | c =>
    if c.val = 8 then "\\b".toList
    else if c.val = 12 then "\\f".toList
    else if c.val < 32 then
      "\\u00".toList ++ [Nat.digitChar (c.toNat / 16), Nat.digitChar (c.toNat % 16)]
    else [c]

/-- A string, quoted and escaped. -/
def quote (t : Text) : Text := '"' :: t.flatMap escape ++ ['"']

/-- Digits are printed as they are. -/
theorem escape_digits {t : Text} (h : ∀ c ∈ t, c.isDigit = true) : t.flatMap escape = t := by
  have hOne : ∀ c ∈ t, escape c = [c] := by
    intro c hc
    have hAscii : c.toNat < 128 := by
      have hDigit := h c hc
      simp only [Char.isDigit, Bool.and_eq_true, decide_eq_true_eq] at hDigit
      have hLe : c.toNat ≤ 57 := hDigit.2
      omega
    exact Text.forall_ascii (P := fun c => c.isDigit = true → escape c = [c]) (by decide)
      hAscii (h c hc)
  rw [List.flatMap_congr hOne, List.flatMap_singleton']

mutual

/-- `Value::to_string`: compact JSON. -/
def display : Value → Text
  | null => "null".toList
  | bool true => "true".toList
  | bool false => "false".toList
  | number n => n.display
  | string t => quote t
  | array items => '[' :: displayItems items ++ [']']
  | object members => '\x7b' :: displayMembers members ++ ['\x7d']

/-- The items of an array, separated by commas. -/
def displayItems : List Value → Text
  | [] => []
  | [item] => display item
  | item :: rest => display item ++ ',' :: displayItems rest

/-- The members of an object, separated by commas and in the order they are listed. -/
def displayMembers : List (Text × Value) → Text
  | [] => []
  | [(key, member)] => quote key ++ ':' :: display member
  | (key, member) :: rest => quote key ++ ':' :: display member ++ ',' :: displayMembers rest

end

/-- The member of an object under a key. -/
def get (key : Text) : Value → Option Value
  | object members => members.lookup key
  | _ => none

def isObject (v : Value) : Bool := v.asObject.isSome

/-- Whether a member is there but says nothing. -/
def isNull : Value → Bool
  | null => true
  | _ => false

end Value

/-- The parser `serde_json::from_str`, with the message of its error. -/
class JsonText where
  fromStr : Text → Except Text Value

/-- A parser for finitely many texts, for evaluating closed instances. -/
@[reducible] def JsonText.table (known : List (Text × Value)) : JsonText where
  fromStr text := match known.lookup text with
    | some value => .ok value
    | none => .error "expected value at line 1 column 1".toList

/-- A text outside the table is refused. -/
theorem JsonText.table_of_none {known : List (Text × Value)} {text : Text}
    (h : known.lookup text = none) :
    (JsonText.table known).fromStr text = .error "expected value at line 1 column 1".toList := by
  unfold JsonText.table
  dsimp only
  rw [h]

end MarketStreamGateway.Lib
