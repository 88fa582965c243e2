import MarketStreamGateway.Lib.Json

/-!
# Typed decoding of JSON documents

What the `Deserialize` implementations derived by `serde` accept when they read
a `Value`. A struct is read from an object, by the names of its members, or
from an array, by position: then a missing element needs an explicit default,
and there may be no element too many. An optional member that is missing or
null is `none`.

`Serde` holds the texts of the errors, which are the library's own.
-/

namespace MarketStreamGateway.Lib

/-- The message of a failed `serde_json::from_value`, by the type that was asked
for and the document that was given. -/
class Serde where
  error : Text → Value → Text

/-- Says nothing, for evaluating closed instances. -/
@[reducible] def Serde.mute : Serde := ⟨fun _ _ => []⟩

/-- The fields of a struct in declaration order, each with whether it has a
`#[serde(default)]`. -/
abbrev Layout := List (Text × Bool)

namespace Value

def asU64 : Value → Option Nat
  | number n => n.asU64
  | _ => none

/-- Small integers are read as large ones that fit a byte. -/
def asU8 (v : Value) : Option Nat := v.asU64.filter (· < 256)

/-- The members a derived struct is read from, by field name. -/
def members (layout : Layout) : Value → Option (Text → Option Value)
  | object members => some fun name => members.lookup name
  | array items =>
    if items.length ≤ layout.length ∧ (layout.drop items.length).all (·.2) then
      some fun name => ((layout.map (·.1)).zip items).lookup name
    else none
  | _ => none

/-- A member that has to be there. -/
def required {α : Type} (decode : Value → Option α) (member : Option Value) : Option α :=
  member.bind decode

/-- A member of an `Option` type. -/
def optional {α : Type} (decode : Value → Option α) : Option Value → Option (Option α)
  | none | some null => some none
  | some v => (decode v).map some

/-- `serde_json::from_value`, for the type of the given name. -/
def fromValue {α : Type} [Serde] (target : Text) (decode : Value → Option α) (v : Value) :
    Except Text α :=
  match decode v with
  | some a => .ok a
  | none => .error (Serde.error target v)

/-- Whether deserializing succeeds does not depend on the wording of its errors. -/
theorem fromValue_eq_ok {α : Type} [Serde] {target : Text} {decode : Value → Option α} {v : Value}
    {a : α} : v.fromValue target decode = .ok a ↔ decode v = some a := by
  unfold fromValue
  cases decode v with
  | none => simp
  | some b => simp

theorem members_object (layout : Layout) (entries : List (Text × Value)) :
    (object entries).members layout = some fun name => entries.lookup name := rfl

/-- The members of an object do not depend on the layout. -/
theorem members_of_isObject {layout : Layout} {v : Value} {member : Text → Option Value}
    (hObject : v.isObject = true) (h : v.members layout = some member) (name : Text) :
    member name = v.get name := by
  cases v with
  | object entries =>
    rw [members_object] at h
    rw [← Option.some.inj h]
    rfl
  | _ => cases hObject

/-- An optional member that was read is what its document decodes to. -/
theorem optional_eq_some {α : Type} {decode : Value → Option α} {member : Option Value} {a : α}
    (h : optional decode member = some (some a)) : ∃ v, member = some v ∧ decode v = some a := by
  unfold optional at h
  split at h
  · cases Option.some.inj h
  · cases Option.some.inj h
  · next v _ =>
    obtain ⟨b, hDecode, hSome⟩ := Option.map_eq_some_iff.mp h
    exact ⟨v, rfl, hDecode.trans (congrArg some (Option.some.inj hSome))⟩

/-- A required member that was read is there. -/
theorem required_eq_some {α : Type} {decode : Value → Option α} {member : Option Value} {a : α}
    (h : required decode member = some a) : ∃ v, member = some v ∧ decode v = some a :=
  Option.bind_eq_some_iff.mp h

theorem asArray_eq_some {v : Value} {items : List Value} (h : v.asArray = some items) :
    v = .array items := by
  cases v with
  | array other => exact congrArg array (Option.some.inj h)
  | _ => cases h

theorem asStr_eq_some {v : Value} {t : Text} (h : v.asStr = some t) : v = .string t := by
  cases v with
  | string u => exact congrArg string (Option.some.inj h)
  | _ => cases h

/-- A required string is the member itself. -/
theorem required_asStr {member : Option Value} {t : Text} (h : required asStr member = some t) :
    member = some (.string t) := by
  obtain ⟨v, hMember, hText⟩ := required_eq_some h
  rw [hMember, asStr_eq_some hText]

theorem optional_asStr {member : Option Value} {t : Text}
    (h : optional asStr member = some (some t)) : member = some (.string t) := by
  obtain ⟨v, hMember, hText⟩ := optional_eq_some h
  rw [hMember, asStr_eq_some hText]

/-- Only objects have named members. -/
theorem isObject_of_get {v member : Value} {name : Text} (h : v.get name = some member) :
    v.isObject = true := by
  cases v with
  | object entries => rfl
  | _ => cases h

end Value

end MarketStreamGateway.Lib
