import MarketStreamGateway.Runtime.Health
import MarketStreamGateway.Config
import Mathlib.Tactic.Ring
import Mathlib.Tactic.Positivity

/-!
# Market Stream Gateway — the pace of reconnection

What `supervise_endpoint` keeps for itself — the backoff and the instant of the
attempt — and the metrics it sets on the way. No step of a supervisor reads the
metrics, and the backoff only decides how long a supervisor sleeps, so the runs
are those of the runtime (`PacedRuntime.run_runtime`).

Durations are in milliseconds. The backoff never exceeds the configured
maximum, so the doubling of the source does not saturate.

Main result: `backoff_law` — in every run the n-th failure in a row waits for at
most `min · 2ⁿ⁻¹`, capped at the maximum, where a row ends with an idle exit or
with a connection that was stable; every failure is counted, and the gauge of
open connections tells whether there is one.
-/

namespace MarketStreamGateway

open Lib

/-! ## Settings -/

namespace Settings

/-- The first wait after a failure, in milliseconds. -/
def backoffMin (s : Settings) : Nat := s.upstreamBackoffMinMs

/-- The longest wait after a failure, in milliseconds. -/
def backoffMax (s : Settings) : Nat := s.upstreamBackoffMaxMs

/-- How long a connection must last to count as stable, in milliseconds. -/
def stableConnectionDuration (s : Settings) : Nat := s.stableConnectionSeconds * 1000

/-- The backoff after a row of failures. -/
def backoffAfter (s : Settings) (failures : Nat) : Nat :=
  min (s.backoffMin * 2 ^ failures) s.backoffMax

/-- One doubling. -/
theorem backoffAfter_succ (s : Settings) (failures : Nat) :
    min (2 * s.backoffAfter failures) s.backoffMax = s.backoffAfter (failures + 1) := by
  have hPower : s.backoffMin * 2 ^ (failures + 1) = 2 * (s.backoffMin * 2 ^ failures) := by ring
  rw [backoffAfter, backoffAfter, hPower]
  omega

/-- The wait after no failure is the first one. -/
theorem backoffAfter_zero {s : Settings} (h : s.backoffMin ≤ s.backoffMax) :
    s.backoffAfter 0 = s.backoffMin := by
  simpa [backoffAfter] using h

/-- Every wait lies between the first and the longest. -/
theorem backoffAfter_bounds {s : Settings} (h : s.backoffMin ≤ s.backoffMax) (failures : Nat) :
    s.backoffMin ≤ s.backoffAfter failures ∧ s.backoffAfter failures ≤ s.backoffMax :=
  ⟨le_min (Nat.le_mul_of_pos_right _ (by positivity)) h, min_le_right _ _⟩

end Settings

/-! ## Pacing -/

/-- The local state of a supervisor and the metrics of its endpoint. -/
structure Pacing where
  backoff : Nat
  /-- The instant of the last attempt. -/
  started : Nat
  /-- The wait drawn for the current sleep. -/
  jitter : Nat
  upstreamConnections : Nat
  upstreamReconnects : Nat
  deriving DecidableEq, Repr

/-- A step with the clock of the supervisor and the draw of the random source. -/
structure PacedOp where
  op : RuntimeOp
  clock : Nat
  draw : Nat

namespace Pacing

/-- The connection was up for long enough. -/
def stable (settings : Settings) (p : Pacing) (clock : Nat) : Bool :=
  settings.stableConnectionDuration ≤ clock - p.started

/-- What a step of a supervisor in this phase does to its pacing. -/
def step {a : ProviderAdapter} (settings : Settings) (clock draw : Nat) (phase : Phase a)
    (op : TaskOp) (p : Pacing) : Pacing :=
  match phase, op with
  | .starting _, .advance _ _ => { p with started := clock }
  | .opened _, .advance _ _ => { p with upstreamConnections := 1 }
  | .exited .idle, .advance cancelled _ =>
    { p with
      upstreamConnections := 0, backoff := if cancelled then p.backoff else settings.backoffMin }
  | .exited .rotate, .advance _ _ => { p with upstreamConnections := 0 }
  | .failing _, .advance true _ => { p with upstreamConnections := 0 }
  | .failing _, .advance false _ =>
    let backoff := if p.stable settings clock then settings.backoffMin else p.backoff
    { p with
      upstreamConnections := 0, backoff, upstreamReconnects := p.upstreamReconnects + 1
      -- uniform in 0..=backoff
      jitter := min draw backoff }
  | .sleeping, .slept => { p with backoff := min (2 * p.backoff) settings.backoffMax }
  | .stopping, .advance _ _ => { p with upstreamConnections := 0 }
  | _, _ => p

end Pacing

/-- The runtime with the pacing of each of its endpoints. -/
structure PacedRuntime (adapter : Provider → ProviderAdapter) where
  runtime : Runtime adapter
  pacing : EndpointKey → Pacing

/-- How a row of failures goes on. -/
inductive Ending where
  /-- The connection was not needed any more. -/
  | idle
  | failed (stable : Bool)
  deriving DecidableEq, Repr

namespace PacedRuntime

variable [RustDecimal] {adapter : Provider → ProviderAdapter}

/-- Before anything has failed the next wait of every endpoint is the first one. -/
def start (settings : Settings) (registry : SubscriptionRegistry) : PacedRuntime adapter :=
  ⟨.spawn registry, fun _ => ⟨settings.backoffMin, 0, 0, 0, 0⟩⟩

/-- A step of the runtime, which paces the endpoint whose task it steps. -/
def step (settings : Settings) (s : PacedRuntime adapter) (op : PacedOp) : PacedRuntime adapter :=
  { runtime := s.runtime.step op.op
    pacing := match op.op with
      | .registry _ => s.pacing
      | .task k taskOp => Function.update s.pacing k
          ((s.pacing k).step settings op.clock op.draw (s.runtime.tasks k).phase taskOp) }

/-- The pacing does not interfere. -/
theorem run_runtime (settings : Settings) (s : PacedRuntime adapter) (ops : List PacedOp) :
    (run (step settings) s ops).runtime = run Runtime.step s.runtime (ops.map PacedOp.op) := by
  induction ops generalizing s with
  | nil => rfl
  | cons op ops ih => exact ih _

end PacedRuntime

/-! ## Rows of failures -/

/-- The connection of a supervisor, or its attempt, ends in this step. -/
def Pacing.ended {a : ProviderAdapter} (settings : Settings) (clock : Nat) (phase : Phase a)
    (op : TaskOp) (p : Pacing) : List Ending :=
  match phase, op with
  | .exited .idle, .advance false _ => [.idle]
  | .failing _, .advance false _ => [.failed (p.stable settings clock)]
  | _, _ => []

/-- The length of the current row. A failure after a stable connection is the
first of a new one. -/
def failuresInARow (ended : List Ending) : Nat :=
  ended.foldl (fun failures ending =>
    match ending with
    | .idle => 0
    | .failed true => 1
    | .failed false => failures + 1) 0

/-- The failures of a run. -/
def failures (ended : List Ending) : Nat := ended.countP (· ≠ .idle)

/-- An idle ending ends the row, a failure after a stable connection starts it
anew, and any other failure makes it longer. -/
theorem failuresInARow_concat (ended : List Ending) (ending : Ending) :
    failuresInARow (ended ++ [ending]) =
      match ending with
      | .idle => 0
      | .failed true => 1
      | .failed false => failuresInARow ended + 1 := by
  rw [failuresInARow, List.foldl_append]
  rfl

/-! ## The law -/

section Law

variable {a : ProviderAdapter}

/-- The backoff after this many failures in a row. While a supervisor sleeps it
is the one of the failure it sleeps for; a supervisor that stops needs none. -/
def Phase.Backs (settings : Settings) (inARow backoff : Nat) : Phase a → Prop
  | .sleeping | .panicked => 0 < inARow ∧ backoff = settings.backoffAfter (inARow - 1)
  | .stopping | .stopped => True
  | .observing | .counting _ | .idling | .waiting | .starting _ | .connecting _ | .opened _
  | .checking _ | .looping _ | .goingLive _ _ | .woken _ | .comparing _ _ | .diffing _ _
  | .demoting _ _ | .exited _ | .failing _ => backoff = settings.backoffAfter inARow

/-- A supervisor that waits for its backoff to end. -/
def Phase.asleep : Phase a → Bool
  | .sleeping => true
  | _ => false

/-- The gauge of open connections. It falls with the first step after the end of
a connection. -/
def Phase.Gauges (connections : Nat) : Phase a → Prop
  | .checking _ | .looping _ | .goingLive _ _ | .woken _ | .comparing _ _ | .diffing _ _
  | .demoting _ _ => connections = 1
  | .exited _ | .failing _ => connections ≤ 1
  | .observing | .counting _ | .idling | .waiting | .starting _ | .connecting _ | .opened _
  | .sleeping | .panicked | .stopping | .stopped => connections = 0

/-- What the pacing of a supervisor has to do with the endings so far. -/
structure Paced (settings : Settings) (h : EndpointHealth) (phase : Phase a) (p : Pacing)
    (ended : List Ending) : Prop where
  backoff : phase.Backs settings (failuresInARow ended) p.backoff
  bounds : settings.backoffMin ≤ p.backoff ∧ p.backoff ≤ settings.backoffMax
  wait : phase = .sleeping → p.jitter ≤ p.backoff
  counted : p.upstreamReconnects = failures ended
  reconnects : h.reconnects = min (failures ended) u64Max
  gauge : phase.Gauges p.upstreamConnections

namespace Paced

variable {settings : Settings} {h h' : EndpointHealth} {phase phase' : Phase a} {p : Pacing}
  {ended : List Ending}

/-- A step that ends no row and leaves the supervisor awake. -/
theorem moved (hPaced : Paced settings h phase p ended) {p' : Pacing}
    (hReconnects : h'.reconnects = h.reconnects) (hAwake : phase'.asleep = false)
    (hSame : p'.backoff = p.backoff ∧ p'.upstreamReconnects = p.upstreamReconnects)
    (hBacks : phase'.Backs settings (failuresInARow ended) p.backoff)
    (hGauges : phase'.Gauges p'.upstreamConnections) : Paced settings h' phase' p' ended := by
  obtain ⟨hBackoff, hCounter⟩ := hSame
  refine ⟨by rwa [hBackoff], by rw [hBackoff]; exact hPaced.bounds, fun hSleeping => ?_,
    hCounter.trans hPaced.counted, hReconnects.trans hPaced.reconnects, hGauges⟩
  rw [hSleeping] at hAwake
  cases hAwake

/-- A step that does not end a connection. -/
theorem going (hPaced : Paced settings h phase p ended) (hReconnects : h'.reconnects = h.reconnects)
    (hAwake : phase'.asleep = false)
    (hBacks : phase.Backs settings (failuresInARow ended) p.backoff →
      phase'.Backs settings (failuresInARow ended) p.backoff)
    (hGauges : phase.Gauges p.upstreamConnections → phase'.Gauges p.upstreamConnections) :
    Paced settings h' phase' p ended :=
  hPaced.moved hReconnects hAwake ⟨rfl, rfl⟩ (hBacks hPaced.backoff) (hGauges hPaced.gauge)

/-- A step that ends no connection keeps the law. -/
theorem unended (hPaced : Paced settings h phase p ended) {endings : List Ending}
    (hNone : endings = []) : Paced settings h phase p (ended ++ endings) := by
  rwa [hNone, List.append_nil]

/-- A step that does nothing to the pacing. -/
theorem quiet (hPaced : Paced settings h phase p ended) {p' : Pacing} (hSame : p' = p)
    {endings : List Ending} (hNone : endings = []) :
    Paced settings h phase p' (ended ++ endings) := by
  rw [hSame]
  exact hPaced.unended hNone

/-- Where a branch of the loop ends. -/
theorem branch {c : Connection a} (hPaced : Paced settings h (.looping c) p ended)
    (hReconnects : h'.reconnects = h.reconnects) (branch : Branch a) :
    Paced settings h' branch.phase p ended := by
  refine hPaced.going hReconnects ?_ ?_ ?_ <;> cases branch
  case refine_3.exit | refine_3.fail => exact fun hOne => hOne.le
  case refine_1.stay | refine_1.markLive | refine_1.exit | refine_1.fail => rfl
  all_goals exact id

end Paced

/-! ## Steps -/

variable {settings : Settings} {h : EndpointHealth} {p : Pacing} {ended : List Ending}

/-- A backoff counts one more reconnect, as far as 64 bits go. -/
theorem reportBackoff_reconnects (h : EndpointHealth) (error : Text) :
    (h.reportBackoff error).1.reconnects = min (h.reconnects + 1) u64Max := by
  unfold EndpointHealth.reportBackoff EndpointHealth.update
  dsimp only
  split <;> rfl

/-- A failure: the row goes on, or a new one starts. -/
theorem failed_paced (hRange : settings.backoffMin ≤ settings.backoffMax) {error : Text}
    (hPaced : Paced settings h (.failing error : Phase a) p ended) (clock draw now : Nat)
    {phase' : Phase a} (hAsleep : phase' = .sleeping ∨ phase' = .panicked) :
    Paced settings (h.reportBackoff error).1 phase'
      (p.step settings clock draw (.failing error : Phase a) (.advance false now))
      (ended ++ [.failed (p.stable settings clock)]) := by
  obtain ⟨hBackoff, hBounds, -, hCounted, hReconnects, -⟩ := hPaced
  have hFailures :
      failures (ended ++ [.failed (p.stable settings clock)]) = failures ended + 1 := by
    simp [failures]
  -- a connection that was stable starts the count again
  have hNext : 0 < failuresInARow (ended ++ [.failed (p.stable settings clock)]) ∧
      (p.step settings clock draw (.failing error : Phase a) (.advance false now)).backoff =
        settings.backoffAfter
          (failuresInARow (ended ++ [.failed (p.stable settings clock)]) - 1) := by
    rw [failuresInARow_concat]
    simp only [Pacing.step]
    cases p.stable settings clock with
    | true => exact ⟨Nat.one_pos, (Settings.backoffAfter_zero hRange).symm⟩
    | false => exact ⟨Nat.succ_pos _, hBackoff⟩
  refine ⟨?_, ?_, fun _ => Nat.min_le_right _ _, ?_, ?_, ?_⟩
  · rcases hAsleep with rfl | rfl <;> exact hNext
  · rw [hNext.2]
    exact Settings.backoffAfter_bounds hRange _
  · rw [hFailures, ← hCounted]
    rfl
  · rw [reportBackoff_reconnects, hReconnects, hFailures]
    generalize u64Max = most
    omega
  · rcases hAsleep with rfl | rfl <;> rfl

/-- The row ends. -/
theorem idle_paced (hRange : settings.backoffMin ≤ settings.backoffMax)
    (hPaced : Paced settings h (.exited .idle : Phase a) p ended) (clock draw now : Nat) :
    Paced settings h (.observing : Phase a)
      (p.step settings clock draw (.exited .idle : Phase a) (.advance false now))
      (ended ++ [.idle]) := by
  have hFailures : failures (ended ++ [.idle]) = failures ended := by simp [failures]
  refine ⟨?_, ⟨le_rfl, hRange⟩, nofun, ?_, ?_, rfl⟩
  · show settings.backoffMin = settings.backoffAfter (failuresInARow (ended ++ [.idle]))
    rw [failuresInARow_concat, Settings.backoffAfter_zero hRange]
  · rw [hFailures]
    exact hPaced.counted
  · rw [hFailures]
    exact hPaced.reconnects

/-- Between frames the law is kept. -/
theorem advance_paced (hRange : settings.backoffMin ≤ settings.backoffMax) {phase : Phase a}
    (hPaced : Paced settings h phase p ended) (provider : Provider) (endpoint : EndpointKind)
    (snapshot : Finset SubscriptionKey) (cancelled : Bool) (clock draw now : Nat) :
    Paced settings (Task.advance provider endpoint snapshot cancelled now h phase).1
      (Task.advance provider endpoint snapshot cancelled now h phase).2
      (p.step settings clock draw phase (.advance cancelled now))
      (ended ++ p.ended settings clock phase (.advance cancelled now)) := by
  cases phase with
  | observing | idling | woken c | comparing c next =>
    refine Paced.quiet ?_ rfl rfl
    exact hPaced.going rfl rfl id id
  | counting desired =>
    refine Paced.quiet ?_ rfl rfl
    simp only [Task.advance]
    split <;> exact hPaced.going rfl rfl id id
  | checking c =>
    refine Paced.quiet ?_ rfl rfl
    simp only [Task.advance]
    split <;> exact hPaced.going rfl rfl id id
  | goingLive c leaving =>
    refine Paced.quiet ?_ rfl rfl
    simp only [Task.advance]
    split
    · exact hPaced.going rfl rfl id fun hOne => hOne.le
    · exact hPaced.going rfl rfl id id
  | diffing c next =>
    have hLooping : Paced settings h (.looping c) p ended := hPaced.going rfl rfl id id
    refine Paced.quiet ?_ rfl rfl
    simp only [Task.advance]
    split
    · exact hPaced.going rfl rfl id fun hOne => hOne.le
    · exact hPaced.going rfl rfl id id
    · exact hLooping.branch rfl _
  | demoting c next =>
    have hLooping : Paced settings h (.looping c) p ended := hPaced.going rfl rfl id id
    have hReconnects : h.reportChanging.reconnects = h.reconnects := rfl
    exact (hLooping.branch hReconnects (c.settle next)).quiet rfl rfl
  | starting desired =>
    refine Paced.unended ?_ rfl
    exact hPaced.moved rfl rfl ⟨rfl, rfl⟩ hPaced.backoff hPaced.gauge
  | opened c =>
    refine Paced.unended ?_ rfl
    exact hPaced.moved rfl rfl ⟨rfl, rfl⟩ hPaced.backoff rfl
  -- an idle ending ends the row of failures, a rotation leaves it
  | exited reason =>
    cases reason with
    | idle =>
      cases cancelled with
      | true =>
        refine Paced.unended ?_ rfl
        exact hPaced.moved rfl rfl ⟨rfl, rfl⟩ trivial rfl
      | false => exact idle_paced hRange hPaced clock draw now
    | rotate =>
      refine Paced.unended ?_ rfl
      simp only [Task.advance]
      split
      · exact hPaced.moved rfl rfl ⟨rfl, rfl⟩ trivial rfl
      · exact hPaced.moved rfl rfl ⟨rfl, rfl⟩ hPaced.backoff (Nat.zero_le 1)
  | failing error =>
    cases cancelled with
    | true =>
      refine Paced.unended ?_ rfl
      exact hPaced.moved rfl rfl ⟨rfl, rfl⟩ trivial rfl
    | false =>
      -- a failure is counted whether or not its text can be recorded
      have hSleeping := failed_paced hRange hPaced clock draw now (Or.inl rfl)
      have hPanicked := failed_paced hRange hPaced clock draw now (Or.inr rfl)
      simp only [Task.advance, Bool.false_eq_true, if_false]
      split
      · next hReport =>
        rw [hReport] at hSleeping
        exact hSleeping
      · next hReport =>
        rw [hReport] at hPanicked
        exact hPanicked
  | stopping =>
    refine Paced.unended ?_ rfl
    exact hPaced.moved rfl rfl ⟨rfl, rfl⟩ trivial rfl
  | waiting | connecting _ | looping _ | sleeping | stopped | panicked =>
    exact hPaced.quiet rfl rfl

/-- Only internal steps and the end of a sleep touch the pacing. -/
theorem pacing_quiet {phase : Phase a} {op : TaskOp}
    (hOp : (∀ cancelled now, op ≠ .advance cancelled now) ∧ op ≠ .slept) (clock draw : Nat) :
    p.step settings clock draw phase op = p ∧ p.ended settings clock phase op = [] := by
  cases op with
  | advance cancelled now => exact absurd rfl (hOp.1 cancelled now)
  | slept => exact absurd rfl hOp.2
  | connected | connectFailed | changed | sendCommand | acknowledgementTimeout | heartbeat | frame
  | rotate | shutdown =>
    cases phase with
    | exited reason => cases reason <;> exact ⟨rfl, rfl⟩
    | observing | counting | idling | waiting | starting | connecting | opened | checking
    | looping | goingLive | woken | comparing | diffing | demoting | failing | sleeping | stopping
    | stopped | panicked => exact ⟨rfl, rfl⟩

/-- The end of a sleep. -/
theorem slept_paced (hRange : settings.backoffMin ≤ settings.backoffMax)
    (hPaced : Paced settings h (.sleeping : Phase a) p ended) (clock draw : Nat) :
    Paced settings h (.observing : Phase a)
      (p.step settings clock draw (.sleeping : Phase a) .slept) ended := by
  obtain ⟨⟨hRow, hBackoff⟩, hBounds, -, hCounted, hReconnects, hGauge⟩ := hPaced
  have hNext : min (2 * p.backoff) settings.backoffMax =
      settings.backoffAfter (failuresInARow ended) := by
    rw [hBackoff, Settings.backoffAfter_succ, Nat.sub_add_cancel hRow]
  refine ⟨hNext, ?_, nofun, hCounted, hReconnects, hGauge⟩
  have hRow := Settings.backoffAfter_bounds hRange (failuresInARow ended)
  rw [← hNext] at hRow
  exact hRow

/-- The branches of a supervisor that waits or runs its loop. -/
theorem branch_paced [RustDecimal] {t : Task a} (hPaced : Paced settings h t.phase p ended)
    {provider : Provider} {endpoint : EndpointKind} {snapshot : Finset SubscriptionKey}
    {version : Nat} {op : TaskOp}
    (hOp : (∀ cancelled now, op ≠ .advance cancelled now) ∧ op ≠ .slept) :
    Paced settings (t.step provider endpoint snapshot version h op).1
      (t.step provider endpoint snapshot version h op).2.phase p ended := by
  have hStep := t.step_stepped provider endpoint snapshot version h op
  generalize t.step provider endpoint snapshot version h op = after at hStep
  -- a branch of the loop starts from the loop's own pacing
  have hLooping : ∀ {c}, t.phase = .looping c → Paced settings h (.looping c) p ended := by
    intro c hPhase
    rwa [hPhase] at hPaced
  cases hStep with
  | kept => exact hPaced
  | advanced cancelled now => exact absurd rfl (hOp.1 cancelled now)
  | slept hAt => exact absurd rfl hOp.2
  | opened hAt hEstablish =>
    rw [hAt] at hPaced
    exact hPaced.going rfl rfl id id
  | observed hAt hSeen =>
    rw [hAt] at hPaced
    exact hPaced.going rfl rfl id id
  | failed error hAt =>
    rcases hAt with ⟨desired, hAt⟩ | ⟨c, hAt⟩
    · rw [hAt] at hPaced
      exact hPaced.going rfl rfl id fun hNone => hNone.le.trans (Nat.zero_le 1)
    · exact (hLooping hAt).going rfl rfl id fun hOne => hOne.le
  | woken hAt hSeen => exact (hLooping hAt).going rfl rfl id id
  | sent now written hAt => exact (hLooping hAt).branch rfl _
  | beat stale written hAt => exact (hLooping hAt).branch rfl _
  | received now receivedAtMs written message hAt =>
    refine (hLooping hAt).branch ?_ _
    dsimp only
    split <;> rfl
  | left reason hAt => exact (hLooping hAt).going rfl rfl id fun hOne => hOne.le
  | stopping hAt =>
    rcases hAt with hAt | hAt <;>
    · rw [hAt] at hPaced
      exact hPaced.going rfl rfl (fun _ => trivial) id

theorem task_paced [RustDecimal] (hRange : settings.backoffMin ≤ settings.backoffMax) {t : Task a}
    (hPaced : Paced settings h t.phase p ended) (provider : Provider) (endpoint : EndpointKind)
    (snapshot : Finset SubscriptionKey) (version clock draw : Nat) (op : TaskOp) :
    Paced settings (t.step provider endpoint snapshot version h op).1
      (t.step provider endpoint snapshot version h op).2.phase
      (p.step settings clock draw t.phase op) (ended ++ p.ended settings clock t.phase op) := by
  by_cases hAdvance : ∃ cancelled now, op = .advance cancelled now
  · obtain ⟨cancelled, now, rfl⟩ := hAdvance
    exact advance_paced hRange hPaced provider endpoint snapshot cancelled clock draw now
  · have hOp : ∀ cancelled now, op ≠ .advance cancelled now :=
      fun cancelled now hEq => hAdvance ⟨cancelled, now, hEq⟩
    -- only the end of a sleep doubles the backoff
    by_cases hSlept : op = .slept
    · subst hSlept
      obtain ⟨phase, seen⟩ := t
      cases phase with
      | sleeping => exact (slept_paced hRange hPaced clock draw).unended rfl
      | exited reason => cases reason <;> exact hPaced.quiet rfl rfl
      | observing | counting | idling | waiting | starting | connecting | opened | checking
      | looping | goingLive | woken | comparing | diffing | demoting | failing | stopping | stopped
      | panicked => exact hPaced.quiet rfl rfl
    · obtain ⟨hSame, hNone⟩ := pacing_quiet ⟨hOp, hSlept⟩ clock draw
      exact (branch_paced hPaced ⟨hOp, hSlept⟩).quiet hSame hNone

end Law

/-! ## Runs -/

namespace PacedRuntime

variable [RustDecimal] {adapter : Provider → ProviderAdapter}

/-- The endings an observer of an endpoint sees. -/
def ended (settings : Settings) (k : EndpointKey) (s : PacedRuntime adapter) (op : PacedOp) :
    List Ending :=
  match op.op with
  | .registry _ => []
  | .task k' taskOp =>
    if k' = k then (s.pacing k).ended settings op.clock (s.runtime.tasks k).phase taskOp else []

/-- A supervisor and its pacing. -/
def Lawful (settings : Settings) (k : EndpointKey) (s : PacedRuntime adapter)
    (ended : List Ending) : Prop :=
  Paced settings (s.runtime.health k) (s.runtime.tasks k).phase (s.pacing k) ended

theorem lawful_step {settings : Settings} (hRange : settings.backoffMin ≤ settings.backoffMax)
    {k : EndpointKey} {s : PacedRuntime adapter} {endings : List Ending}
    (h : s.Lawful settings k endings) (op : PacedOp) :
    (s.step settings op).Lawful settings k (endings ++ s.ended settings k op) := by
  obtain ⟨op, clock, draw⟩ := op
  cases op with
  | registry op => exact h.unended rfl
  | task k' op =>
    -- a step of another endpoint leaves this pacing alone
    by_cases hKey : k' = k
    · subst hKey
      have hNext := task_paced hRange h k'.1 k'.2 s.runtime.registry.desired
        s.runtime.registry.desiredVersion clock draw op
      simpa [Lawful, step, ended, Runtime.step] using hNext
    · have hOther : k ≠ k' := fun hEq => hKey hEq.symm
      have hSame : Paced settings ((s.runtime.step (.task k' op)).health k)
          ((s.runtime.step (.task k' op)).tasks k).phase (s.pacing k) endings := by
        simpa [Lawful, Runtime.step, hOther] using h
      exact hSame.quiet (Function.update_of_ne hOther _ _) (if_neg hKey)

end PacedRuntime

/-- **The pace of reconnection.** In every run of the supervisors, with whatever
clock and random source, what a supervisor waits for after a failure, the
failures it counts and the gauge of its connections follow from how its
connections ended; and the supervisors run as they do without any of it. -/
theorem backoff_law [RustDecimal] (adapter : Provider → ProviderAdapter) (settings : Settings)
    (hValid : settings.validate = .ok ()) (registry : SubscriptionRegistry) (ops : List PacedOp)
    (k : EndpointKey) :
    let start : PacedRuntime adapter := .start settings registry
    let s := run (PacedRuntime.step settings) start ops
    Paced settings (s.runtime.health k) (s.runtime.tasks k).phase (s.pacing k)
      (trace (PacedRuntime.step settings) (PacedRuntime.ended settings k) start ops) ∧
    s.runtime = run Runtime.step (.spawn registry) (ops.map PacedOp.op) := by
  intro start s
  have hRange : settings.backoffMin ≤ settings.backoffMax :=
    ((accepts_iff settings).mp hValid).backoff.2
  refine ⟨?_, PacedRuntime.run_runtime settings start ops⟩
  have hStart : start.Lawful settings k [] :=
    ⟨(Settings.backoffAfter_zero hRange).symm, ⟨le_rfl, hRange⟩, nofun, rfl, rfl, rfl⟩
  exact run_trace_invariant (R := PacedRuntime.Lawful settings k)
    (fun s op endings h => PacedRuntime.lawful_step hRange h op) hStart ops

section Sample

local instance pacedUnicode : Unicode := .ascii
local instance pacedJson : JsonText := .table []
local instance pacedDecimal : RustDecimal := .digits
local instance pacedSerde : Serde := .mute

/-- A client subscribes, and two attempts in a row are refused. -/
def refusedTwice : List PacedOp :=
  let attempt : List TaskOp := [.advance false 0, .advance false 0, .advance false 0,
    .connectFailed .closed, .advance false 0]
  (.registry (.add .declared 1 [bybitTicker]) ::
    (attempt ++ .slept :: attempt).map (.task bybitEndpoint)).map fun op => ⟨op, 0, 4000⟩

/-- The second failure waits for at most twice the minimum. -/
theorem backoff_law_refusedTwice :
    let s := run (PacedRuntime.step defaultSettings)
      (.start defaultSettings (.withProviderLimits 10 (.uniform 1000)) :
        PacedRuntime configuredAdapter) refusedTwice
    (s.runtime.tasks bybitEndpoint).phase = .sleeping ∧
      (s.pacing bybitEndpoint).backoff = 1000 ∧ (s.pacing bybitEndpoint).jitter ≤ 1000 := by
  intro s
  have hAsleep : (s.runtime.tasks bybitEndpoint).phase = .sleeping := by rfl
  have hBackoff : (s.pacing bybitEndpoint).backoff = 1000 := by decide
  refine ⟨hAsleep, hBackoff, ?_⟩
  have hLaw := (backoff_law configuredAdapter defaultSettings defaultSettings_valid
    (.withProviderLimits 10 (.uniform 1000)) refusedTwice bybitEndpoint).1
  rw [← hBackoff]
  exact hLaw.wait hAsleep

end Sample

end MarketStreamGateway
