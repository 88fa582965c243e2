import Mathlib.Data.List.Basic

/-!
# Runs of a transition function

A system is a total step function `step : σ → α → σ` over a state type and a
type of operations; a run is a list of operations folded from an initial
state. Everything here is generic in both types.

* `run_invariant` — what one step preserves, every run preserves;
  `run_related` is the rule for two runs side by side.
* `AllSteps` — every step of a run meets a condition on the operation and on
  the state *before* it; `run_invariant_of_allSteps` is the conditional form of
  the invariant rule.
* `EveryState` — a property holds in every state a run visits.
* `trace` — what a run lets an observer see; `run_trace_invariant` relates the
  state to what was seen, `run_project` a run to the run of one of
  its components.
-/

namespace MarketStreamGateway.Lib

variable {σ α β γ : Type*}

/-- The state after the operations `ops`, applied in order. -/
def run (step : σ → α → σ) (s : σ) (ops : List α) : σ := ops.foldl step s

@[simp] theorem run_nil (step : σ → α → σ) (s : σ) : run step s [] = s := rfl

@[simp] theorem run_cons (step : σ → α → σ) (s : σ) (a : α) (ops : List α) :
    run step s (a :: ops) = run step (step s a) ops := rfl

/-- A run can be cut anywhere. -/
theorem run_append (step : σ → α → σ) (s : σ) (ops ops' : List α) :
    run step s (ops ++ ops') = run step (run step s ops) ops' := by
  simp [run, List.foldl_append]

/-- **Invariant rule.** A property preserved by every step is preserved by
every run. -/
theorem run_invariant {step : σ → α → σ} {P : σ → Prop}
    (hStep : ∀ s a, P s → P (step s a)) {s : σ} (h : P s) (ops : List α) :
    P (run step s ops) := by
  induction ops generalizing s with
  | nil => exact h
  | cons a ops ih => exact ih (hStep s a h)

/-- **Two-run rule.** A relation kept by every step is kept between the runs of
the same operations. -/
theorem run_related {step : σ → α → σ} {R : σ → σ → Prop}
    (hStep : ∀ s t a, R s t → R (step s a) (step t a)) {s t : σ} (h : R s t) (ops : List α) :
    R (run step s ops) (run step t ops) := by
  induction ops generalizing s t with
  | nil => exact h
  | cons a ops ih => exact ih (hStep s t a h)

/-! ## Runs whose steps meet a condition -/

/-- Every step of the run meets `C`, a condition on the state before the step
and on the operation. -/
def AllSteps (step : σ → α → σ) (C : σ → α → Prop) : σ → List α → Prop
  | _, [] => True
  | s, a :: ops => C s a ∧ AllSteps step C (step s a) ops

instance AllSteps.decidable {step : σ → α → σ} {C : σ → α → Prop} [∀ s a, Decidable (C s a)] :
    ∀ (s : σ) (ops : List α), Decidable (AllSteps step C s ops)
  | _, [] => isTrue trivial
  | s, a :: ops => @instDecidableAnd _ _ inferInstance (AllSteps.decidable (step s a) ops)

/-- **Conditional invariant rule.** A property preserved by the steps that meet
`C` is preserved by the runs all of whose steps do. -/
theorem run_invariant_of_allSteps {step : σ → α → σ} {C : σ → α → Prop} {P : σ → Prop}
    (hStep : ∀ s a, C s a → P s → P (step s a)) {s : σ} (h : P s) {ops : List α}
    (hAll : AllSteps step C s ops) : P (run step s ops) := by
  induction ops generalizing s with
  | nil => exact h
  | cons a ops ih => exact ih (hStep s a hAll.1 h) hAll.2

/-- A condition every step meets is met along every run. -/
theorem allSteps_of_forall {step : σ → α → σ} {C : σ → α → Prop} (h : ∀ s a, C s a) (s : σ)
    (ops : List α) : AllSteps step C s ops := by
  induction ops generalizing s with
  | nil => trivial
  | cons a ops ih => exact ⟨h s a, ih _⟩

/-- A condition on the operations alone. -/
theorem allSteps_of_mem {step : σ → α → σ} {D : α → Prop} {ops : List α} (h : ∀ a ∈ ops, D a)
    (s : σ) : AllSteps step (fun _ a => D a) s ops := by
  induction ops generalizing s with
  | nil => trivial
  | cons a ops ih =>
    exact ⟨h a List.mem_cons_self, ih (fun b hb => h b (List.mem_cons_of_mem _ hb)) _⟩

/-- Two conditions that are met are met together. -/
theorem AllSteps.and {step : σ → α → σ} {C D : σ → α → Prop} {s : σ} {ops : List α}
    (hC : AllSteps step C s ops) (hD : AllSteps step D s ops) :
    AllSteps step (fun s a => C s a ∧ D s a) s ops := by
  induction ops generalizing s with
  | nil => trivial
  | cons a ops ih => exact ⟨⟨hC.1, hD.1⟩, ih hC.2 hD.2⟩

/-- A run meets a condition when both of its parts do, the second from where
the first ends. -/
theorem allSteps_append {step : σ → α → σ} {C : σ → α → Prop} {s : σ} {ops ops' : List α} :
    AllSteps step C s (ops ++ ops') ↔
      AllSteps step C s ops ∧ AllSteps step C (run step s ops) ops' := by
  induction ops generalizing s with
  | nil => simp [AllSteps]
  | cons a ops ih => simp [AllSteps, ih, and_assoc]

/-- The property holds in every state the run visits. -/
def EveryState (step : σ → α → σ) (P : σ → Prop) : σ → List α → Prop
  | s, [] => P s
  | s, a :: ops => P s ∧ EveryState step P (step s a) ops

/-- What every step that meets the condition preserves holds in every state of
such a run. -/
theorem everyState_of_allSteps {step : σ → α → σ} {C : σ → α → Prop} {P : σ → Prop}
    (hStep : ∀ s a, C s a → P s → P (step s a)) {s : σ} (h : P s) {ops : List α}
    (hAll : AllSteps step C s ops) : EveryState step P s ops := by
  induction ops generalizing s with
  | nil => exact h
  | cons a ops ih => exact ⟨h, ih (hStep s a hAll.1 h) hAll.2⟩

/-- A weaker property holds in every state too. -/
theorem everyState_mono {step : σ → α → σ} {P Q : σ → Prop} (h : ∀ s, P s → Q s) {s : σ}
    {ops : List α} (hAll : EveryState step P s ops) : EveryState step Q s ops := by
  induction ops generalizing s with
  | nil => exact h s hAll
  | cons a ops ih => exact ⟨h s hAll.1, ih hAll.2⟩

/-- The last state is one of the states. -/
theorem everyState_run {step : σ → α → σ} {P : σ → Prop} {s : σ} {ops : List α}
    (h : EveryState step P s ops) : P (run step s ops) := by
  induction ops generalizing s with
  | nil => exact h
  | cons a ops ih => exact ih h.2

/-- What every state of the run allows, every step of it meets. -/
theorem EveryState.allSteps {step : σ → α → σ} {C : σ → α → Prop} {P : σ → Prop} {s : σ}
    {ops : List α} (h : EveryState step P s ops) (hStep : ∀ s a, P s → C s a) :
    AllSteps step C s ops := by
  induction ops generalizing s with
  | nil => trivial
  | cons a ops ih => exact ⟨hStep s a h.1, ih h.2⟩

/-- If a step that breaks `C` leads to a state without `P`, a run that keeps
`P` has kept `C`. -/
theorem allSteps_of_everyState {step : σ → α → σ} {C : σ → α → Prop} {P : σ → Prop}
    (hStep : ∀ s a, P (step s a) → C s a) {s : σ} {ops : List α}
    (hAll : EveryState step P s ops) : AllSteps step C s ops := by
  induction ops generalizing s with
  | nil => trivial
  | cons a ops ih =>
    refine ⟨hStep s a ?_, ih hAll.2⟩
    cases ops with
    | nil => exact hAll.2
    | cons b ops => exact hAll.2.1

/-- An invariant may be assumed at every step. -/
theorem AllSteps.and_invariant {step : σ → α → σ} {C : σ → α → Prop} {P : σ → Prop}
    (hStep : ∀ s a, P s → P (step s a)) {s : σ} (h : P s) {ops : List α}
    (hAll : AllSteps step C s ops) : AllSteps step (fun s a => P s ∧ C s a) s ops := by
  induction ops generalizing s with
  | nil => trivial
  | cons a ops ih => exact ⟨⟨h, hAll.1⟩, ih (hStep s a h) hAll.2⟩

/-! ## Components -/

/-- **Component rule.** If an operation changes only the component of its owner,
and that as a function of the component alone, then a component after a run is
the run of its owner's operations: the interleaving does not matter to it. -/
theorem run_component {ι : Type*} [DecidableEq ι] {step : σ → α → σ} {C : σ → α → Prop}
    {owner : α → ι} {π : σ → ι → γ} {stepOf : γ → α → γ}
    (hStep : ∀ s a i, C s a → π (step s a) i = if owner a = i then stepOf (π s i) a else π s i)
    {s : σ} {ops : List α} (hAll : AllSteps step C s ops) (i : ι) :
    π (run step s ops) i = run stepOf (π s i) (ops.filter fun a => owner a = i) := by
  induction ops generalizing s with
  | nil => rfl
  | cons a ops ih =>
    rw [run_cons, ih hAll.2, hStep s a i hAll.1]
    by_cases hOwner : owner a = i
    · rw [if_pos hOwner, List.filter_cons_of_pos (by simpa using hOwner), run_cons]
    · rw [if_neg hOwner, List.filter_cons_of_neg (by simpa using hOwner)]

/-! ## Observations -/

/-- Everything a run emits, where `emit` says what one operation emits in the
state it starts from. -/
def trace (step : σ → α → σ) (emit : σ → α → List β) : σ → List α → List β
  | _, [] => []
  | s, a :: ops => emit s a ++ trace step emit (step s a) ops

/-- The observations of a run cut in two. -/
theorem trace_append (step : σ → α → σ) (emit : σ → α → List β) (s : σ) (ops ops' : List α) :
    trace step emit s (ops ++ ops') =
      trace step emit s ops ++ trace step emit (run step s ops) ops' := by
  induction ops generalizing s with
  | nil => rfl
  | cons a ops ih => simp [trace, ih]

/-- **Observer rule.** A relation between the state and the emissions so far,
kept by the steps that meet `C`, is kept by the runs all of whose steps do. -/
theorem run_trace_invariant_of_allSteps {step : σ → α → σ} {emit : σ → α → List β}
    {C : σ → α → Prop} {R : σ → List β → Prop}
    (hStep : ∀ s a seen, C s a → R s seen → R (step s a) (seen ++ emit s a))
    {s : σ} {seen : List β} (h : R s seen) {ops : List α} (hAll : AllSteps step C s ops) :
    R (run step s ops) (seen ++ trace step emit s ops) := by
  induction ops generalizing s seen with
  | nil => rwa [trace, List.append_nil]
  | cons a ops ih =>
    rw [run_cons, trace, ← List.append_assoc]
    exact ih (hStep s a seen hAll.1 h) hAll.2

/-- The observer rule for runs without a condition. -/
theorem run_trace_invariant {step : σ → α → σ} {emit : σ → α → List β} {R : σ → List β → Prop}
    (hStep : ∀ s a seen, R s seen → R (step s a) (seen ++ emit s a))
    {s : σ} {seen : List β} (h : R s seen) (ops : List α) :
    R (run step s ops) (seen ++ trace step emit s ops) :=
  run_trace_invariant_of_allSteps (C := fun _ _ => True) (fun s a seen _ => hStep s a seen) h
    (allSteps_of_forall (fun _ _ => trivial) s ops)

/-- **Projection rule.** If every step acts on a component as a run of that
component, so does every run. -/
theorem run_project {step : σ → α → σ} {step' : γ → β → γ} {emit : σ → α → List β} {π : σ → γ}
    (hStep : ∀ s a, π (step s a) = run step' (π s) (emit s a)) (s : σ) (ops : List α) :
    π (run step s ops) = run step' (π s) (trace step emit s ops) := by
  induction ops generalizing s with
  | nil => rfl
  | cons a ops ih => rw [run_cons, ih, hStep, trace, run_append]

/-- The conditions met by the steps of a run carry over to its component. -/
theorem allSteps_project {step : σ → α → σ} {step' : γ → β → γ} {emit : σ → α → List β}
    {π : σ → γ} {C : σ → α → Prop} {D : γ → β → Prop}
    (hStep : ∀ s a, π (step s a) = run step' (π s) (emit s a))
    (hCond : ∀ s a, C s a → AllSteps step' D (π s) (emit s a)) {s : σ} {ops : List α}
    (hAll : AllSteps step C s ops) : AllSteps step' D (π s) (trace step emit s ops) := by
  induction ops generalizing s with
  | nil => trivial
  | cons a ops ih =>
    rw [trace, allSteps_append, ← hStep]
    exact ⟨hCond s a hAll.1, ih hAll.2⟩

end MarketStreamGateway.Lib
