import MarketStreamGateway.Lib.Run

/-!
# Tables built from partial writes

A table holds records under keys, and a record may lack any of its fields. A
change writes some of the fields of one record: a field it writes gets a value
or is cleared, the others keep what they had. Everything here is generic in the
keys, the fields and the values.

* `applyAll_eq_some` — a value in a table was put there by the last change that
  touched its field, or was there from the start.
* `run_eq_some` — the same for the runs of a system whose steps change a table:
  which step wrote the value, and that no later step touched the field.
-/

namespace MarketStreamGateway.Lib

variable {K F V : Type*} [DecidableEq K]

/-- The fields of the records, by key. -/
abbrev Table (K F V : Type*) := K → F → Option V

/-- What a change writes to each field: nothing, or a value, or that the field
is empty. -/
structure Change (K F V : Type*) where
  key : K
  write : F → Option (Option V)

namespace Change

/-- The table after a change: the changed row is overlaid, the others stay. -/
def apply (t : Table K F V) (c : Change K F V) : Table K F V :=
  fun k f => if k = c.key then (c.write f).getD (t k f) else t k f

/-- The table after a list of changes, in their order. -/
def applyAll (t : Table K F V) (changes : List (Change K F V)) : Table K F V :=
  changes.foldl apply t

/-- Removes the record of a key. -/
def erase (k : K) : Change K F V := ⟨k, fun _ => some none⟩

/-- A change touches a field when it writes there, a value or nothing. -/
def Touches (c : Change K F V) (k : K) (f : F) : Prop := c.key = k ∧ c.write f ≠ none

/-- No change of the list touches the field. -/
def Untouched (k : K) (f : F) (changes : List (Change K F V)) : Prop :=
  ∀ c ∈ changes, ¬ c.Touches k f

/-- The last of the changes that touches a field gives it the value. -/
def LastWrite (k : K) (f : F) (v : V) (changes : List (Change K F V)) : Prop :=
  ∃ before c after, changes = before ++ c :: after ∧ c.key = k ∧ c.write f = some (some v) ∧
    Untouched k f after

/-- What is not touched stays. -/
theorem apply_of_not_touches {t : Table K F V} {c : Change K F V} {k : K} {f : F}
    (h : ¬ c.Touches k f) : apply t c k f = t k f := by
  unfold apply
  split
  · next hKey =>
    have hNone : c.write f = none := by
      by_contra hWrite
      exact h ⟨hKey.symm, hWrite⟩
    rw [hNone, Option.getD_none]
  · rfl

/-- What is touched shows what was written. -/
theorem apply_of_touches {t : Table K F V} {c : Change K F V} {k : K} {f : F}
    (h : c.Touches k f) : some (apply t c k f) = c.write f := by
  obtain ⟨rfl, hWrite⟩ := h
  obtain ⟨w, hw⟩ := Option.ne_none_iff_exists'.mp hWrite
  rw [apply, if_pos rfl, hw, Option.getD_some]

/-- A value that is there was either written last by one of the changes, or was
there before and nothing touched it. -/
theorem applyAll_eq_some {t : Table K F V} {changes : List (Change K F V)} {k : K} {f : F} {v : V}
    (h : applyAll t changes k f = some v) :
    LastWrite k f v changes ∨ Untouched k f changes ∧ t k f = some v := by
  induction changes generalizing t with
  | nil => exact .inr ⟨fun _ hMem => absurd hMem List.not_mem_nil, h⟩
  | cons c changes ih =>
    rcases ih h with ⟨before, d, after, rfl, hLast⟩ | ⟨hRest, hHead⟩
    · exact .inl ⟨c :: before, d, after, rfl, hLast⟩
    · by_cases hTouch : c.Touches k f
      · have hWrite := apply_of_touches (t := t) hTouch
        rw [hHead] at hWrite
        exact .inl ⟨[], c, changes, rfl, hTouch.1, hWrite.symm, hRest⟩
      · rw [apply_of_not_touches hTouch] at hHead
        refine .inr ⟨fun d hd => ?_, hHead⟩
        rcases List.mem_cons.mp hd with rfl | hd
        · exact hTouch
        · exact hRest d hd

omit [DecidableEq K] in
/-- A last write is one of the changes. -/
theorem LastWrite.mem {k : K} {f : F} {v : V} {changes : List (Change K F V)}
    (h : LastWrite k f v changes) : ∃ c ∈ changes, c.key = k ∧ c.write f = some (some v) := by
  obtain ⟨before, c, after, rfl, hKey, hWrite, -⟩ := h
  exact ⟨c, List.mem_append_right _ List.mem_cons_self, hKey, hWrite⟩

/-! ## Runs -/

section Runs

variable {σ α : Type*} {step : σ → α → σ} {table : σ → Table K F V}
  {changes : σ → α → List (Change K F V)}

/-- No step of the run touches the field. -/
def Quiet (step : σ → α → σ) (changes : σ → α → List (Change K F V)) (k : K) (f : F) :
    σ → List α → Prop :=
  AllSteps step fun s a => Untouched k f (changes s a)

/-- Over a run: a value that is there goes back to the call that wrote it last,
and nothing touched it since; or it was there from the start. -/
theorem run_eq_some (hStep : ∀ s a, table (step s a) = applyAll (table s) (changes s a))
    {s : σ} {ops : List α} {k : K} {f : F} {v : V} (h : table (run step s ops) k f = some v) :
    (∃ earlier a later, ops = earlier ++ a :: later ∧
      LastWrite k f v (changes (run step s earlier) a) ∧
      Quiet step changes k f (step (run step s earlier) a) later) ∨
    Quiet step changes k f s ops ∧ table s k f = some v := by
  induction ops generalizing s with
  | nil => exact .inr ⟨trivial, h⟩
  | cons a ops ih =>
    rcases ih h with ⟨earlier, b, later, rfl, hWrite, hQuiet⟩ | ⟨hQuiet, hValue⟩
    · exact .inl ⟨a :: earlier, b, later, rfl, hWrite, hQuiet⟩
    · rw [hStep] at hValue
      rcases applyAll_eq_some hValue with hWrite | ⟨hUntouched, hValue⟩
      · exact .inl ⟨[], a, ops, rfl, hWrite, hQuiet⟩
      · exact .inr ⟨⟨hUntouched, hQuiet⟩, hValue⟩

end Runs

end Change

end MarketStreamGateway.Lib
