import Mathlib.Logic.Basic

/-!
# Computations that may fail

How a computation in `Except` ends: with a result exactly when its parts do.
-/

namespace MarketStreamGateway.Lib

variable {ε α β : Type}

/-- Success goes on. -/
theorem ok_bind {a : α} {f : α → Except ε β} : ((.ok a : Except ε α) >>= f) = f a := rfl

/-- Failure stops. -/
theorem error_bind {e : ε} {f : α → Except ε β} :
    ((.error e : Except ε α) >>= f) = .error e := rfl

/-- Peels the first part off a computation that succeeded. -/
theorem bind_eq_ok {x : Except ε α} {f : α → Except ε β} {b : β} :
    (x >>= f) = .ok b ↔ ∃ a, x = .ok a ∧ f a = .ok b := by
  cases x with
  | error e => simp [bind, Except.bind]
  | ok a => simp [bind, Except.bind]

/-- The same for a check, which has no result. -/
theorem unit_bind_eq_ok {x : Except ε Unit} {y : Except ε β} {b : β} :
    (do x; y) = .ok b ↔ x = .ok () ∧ y = .ok b := by
  rw [bind_eq_ok]
  exact ⟨fun ⟨⟨⟩, hx, hy⟩ => ⟨hx, hy⟩, fun ⟨hx, hy⟩ => ⟨(), hx, hy⟩⟩

/-- A mapped result succeeds when the result does. -/
theorem map_eq_ok {x : Except ε α} {f : α → β} {b : β} :
    x.map f = .ok b ↔ ∃ a, x = .ok a ∧ f a = b := by
  cases x with
  | error e => simp [Except.map]
  | ok a => simp [Except.map]

/-- Changing the error changes no success. -/
theorem mapError_eq_ok {δ : Type} {x : Except ε α} {f : ε → δ} {a : α} :
    x.mapError f = .ok a ↔ x = .ok a := by
  cases x with
  | error e =>
    constructor
    · intro h
      cases h
    · intro h
      cases h
  | ok b =>
    constructor
    · intro h
      rw [Except.ok.inj h]
    · intro h
      rw [Except.ok.inj h]
      rfl

/-- A computation that starts with an error does not succeed. -/
theorem throw_bind_ne_ok {e : ε} {f : α → Except ε β} {b : β} :
    ((throw e : Except ε α) >>= f) ≠ .ok b := nofun

/-- A loop that collects results succeeds when every round does. -/
theorem mapM_eq_ok {f : α → Except ε β} {items : List α} {results : List β}
    (h : items.map f = results.map .ok) : items.mapM f = .ok results := by
  induction items generalizing results with
  | nil =>
    rw [List.map_nil, eq_comm, List.map_eq_nil_iff] at h
    rw [h]
    rfl
  | cons item items ih =>
    cases results with
    | nil => simp at h
    | cons result results =>
      rw [List.map_cons, List.map_cons, List.cons.injEq] at h
      rw [List.mapM_cons, h.1, ih h.2]
      rfl

/-- A loop that succeeded has the result of every round. -/
theorem map_of_mapM_eq_ok {f : α → Except ε β} {items : List α} {results : List β}
    (h : items.mapM f = .ok results) : items.map f = results.map .ok := by
  induction items generalizing results with
  | nil =>
    rw [List.mapM_nil] at h
    obtain rfl := Except.ok.inj h
    rfl
  | cons item items ih =>
    rw [List.mapM_cons] at h
    obtain ⟨result, hResult, h⟩ := bind_eq_ok.mp h
    obtain ⟨rest, hRest, h⟩ := bind_eq_ok.mp h
    obtain rfl := Except.ok.inj h
    rw [List.map_cons, List.map_cons, hResult, ih hRest]

/-- A loop succeeds if every round does, whatever their results. -/
theorem exists_mapM_eq_ok {f : α → Except ε β} {items : List α}
    (h : ∀ item ∈ items, ∃ result, f item = .ok result) :
    ∃ results, items.mapM f = .ok results := by
  induction items with
  | nil => exact ⟨[], rfl⟩
  | cons item items ih =>
    obtain ⟨result, hResult⟩ := h item List.mem_cons_self
    obtain ⟨results, hResults⟩ := ih fun other hOther => h other (List.mem_cons_of_mem _ hOther)
    exact ⟨result :: results, by rw [List.mapM_cons, hResult, hResults]; rfl⟩

/-- Every result of a list comes from one of its items. -/
theorem mem_of_mapM_eq_ok {f : α → Except ε β} {items : List α} {results : List β}
    (h : items.mapM f = .ok results) {result : β} (hMem : result ∈ results) :
    ∃ item ∈ items, f item = .ok result := by
  have hOk : Except.ok result ∈ items.map f := by
    rw [map_of_mapM_eq_ok h]
    exact List.mem_map_of_mem hMem
  exact List.mem_map.mp hOk

/-- Every item has a result. -/
theorem result_of_mapM_eq_ok {f : α → Except ε β} {items : List α} {results : List β}
    (h : items.mapM f = .ok results) {item : α} (hItem : item ∈ items) :
    ∃ result ∈ results, f item = .ok result := by
  have hOk : f item ∈ results.map .ok := by
    rw [← map_of_mapM_eq_ok h]
    exact List.mem_map_of_mem hItem
  obtain ⟨result, hMem, hResult⟩ := List.mem_map.mp hOk
  exact ⟨result, hMem, hResult.symm⟩

/-- What `mem_of_mapM_eq_ok` says, for a loop that may end without a result. -/
theorem mem_of_mapM_eq_some {f : α → Option β} {items : List α} {results : List β}
    (h : items.mapM f = some results) {result : β} (hMem : result ∈ results) :
    ∃ item ∈ items, f item = some result := by
  induction items generalizing results with
  | nil =>
    rw [← Option.some.inj h] at hMem
    cases hMem
  | cons item items ih =>
    rw [List.mapM_cons] at h
    obtain ⟨first, hFirst, h⟩ := Option.bind_eq_some_iff.mp h
    obtain ⟨rest, hRest, h⟩ := Option.bind_eq_some_iff.mp h
    rw [← Option.some.inj h] at hMem
    rcases List.mem_cons.mp hMem with rfl | hMem
    · exact ⟨item, List.mem_cons_self, hFirst⟩
    · obtain ⟨other, hOther, hResult⟩ := ih hRest hMem
      exact ⟨other, List.mem_cons_of_mem _ hOther, hResult⟩

end MarketStreamGateway.Lib
