import MarketStreamGateway.Lib.Run

/-!
# What flows through a run

Rules for the traces of a run (`Lib.Run.trace`), generic in the step function
and in what is observed.

* `mem_trace` — an observation was made at one step of the run.
* `run_traces_invariant` — the observer rule for two observers of one run.
* `trace_conserved` — what goes into a buffer has come out of it or is still in
  it, in the same order.
* `filterMap_trace` — selecting from a trace is observing selectively.
-/

namespace MarketStreamGateway.Lib

variable {σ α β γ : Type*} {step : σ → α → σ}

/-- What is observed over a run is emitted by one of its steps. -/
theorem mem_trace {emit : σ → α → List β} {s : σ} {ops : List α} {b : β} :
    b ∈ trace step emit s ops ↔
      ∃ earlier a later, ops = earlier ++ a :: later ∧ b ∈ emit (run step s earlier) a := by
  induction ops generalizing s with
  | nil => simp [trace]
  | cons a ops ih =>
    rw [trace, List.mem_append, ih]
    constructor
    · -- emitted by the first operation, or by a later one
      rintro (hNow | ⟨earlier, a', later, rfl, hLater⟩)
      · exact ⟨[], a, ops, rfl, hNow⟩
      · exact ⟨a :: earlier, a', later, rfl, hLater⟩
    · rintro ⟨earlier, a', later, hOps, hb⟩
      cases earlier with
      | nil =>
        obtain ⟨rfl, -⟩ := List.cons.inj hOps
        exact Or.inl hb
      | cons a'' earlier =>
        obtain ⟨rfl, rfl⟩ := List.cons.inj hOps
        exact Or.inr ⟨earlier, a', later, rfl, hb⟩

/-- **Two-observer rule.** -/
theorem run_traces_invariant {emit : σ → α → List β} {emit' : σ → α → List γ}
    {R : σ → List β → List γ → Prop}
    (hStep : ∀ s a seen seen', R s seen seen' →
      R (step s a) (seen ++ emit s a) (seen' ++ emit' s a))
    {s : σ} {seen : List β} {seen' : List γ} (h : R s seen seen') (ops : List α) :
    R (run step s ops) (seen ++ trace step emit s ops) (seen' ++ trace step emit' s ops) := by
  induction ops generalizing s seen seen' with
  | nil =>
    rw [trace, trace, List.append_nil, List.append_nil]
    exact h
  | cons a ops ih =>
    rw [run_cons, trace, trace, ← List.append_assoc, ← List.append_assoc]
    exact ih (hStep s a seen seen' h)

/-- **Conservation rule.** If every step takes from the front of the buffer
`H` what it puts out (`O`) and adds to its end what it puts in (`I`), so does
every run. -/
theorem trace_conserved {H : σ → List β} {I O : σ → α → List β}
    (hStep : ∀ s a, H s ++ I s a = O s a ++ H (step s a)) (s : σ) (ops : List α) :
    H s ++ trace step I s ops = trace step O s ops ++ H (run step s ops) := by
  induction ops generalizing s with
  | nil => simp [trace]
  | cons a ops ih =>
    rw [trace, trace, ← List.append_assoc, hStep, List.append_assoc, ih, run_cons,
      List.append_assoc]

/-- Selecting from a trace is observing selectively. -/
theorem filterMap_trace (f : β → Option γ) (emit : σ → α → List β) (s : σ) (ops : List α) :
    (trace step emit s ops).filterMap f = trace step (fun s a => (emit s a).filterMap f) s ops := by
  induction ops generalizing s with
  | nil => rfl
  | cons a ops ih => rw [trace, trace, List.filterMap_append, ih]

end MarketStreamGateway.Lib
