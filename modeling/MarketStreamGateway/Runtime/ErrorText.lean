import MarketStreamGateway.Runtime.Supervisor
import MarketStreamGateway.Providers.Venue
import MarketStreamGateway.Lib.Run

/-!
# Market Stream Gateway — the recorded error

A supervisor records the text of the error that ended its connection.
`HealthRegistry::update` cuts the recorded text to 500 bytes, and the cut
panics inside a character. A panic ends the supervisor, and the end of a
supervisor makes `monitor_background_tasks` cancel the shutdown token.

Main results:
* `update_recorded_iff` — the update completes exactly if the text can be cut.
* `step_update` — an entry that a step leaves has nothing left to cut, so the
  reports that record no error may be written without the cut.
* `recording_completes` — no supervisor panics in exactly the runs in which
  every error to be recorded can be cut; in such a run nothing but a signal
  shuts the gateway down.
* `rejection_shuts_down` — a run in which a rejected command does.
-/

namespace MarketStreamGateway

open Lib

/-! ## The update -/

namespace EndpointHealth

/-- The recorded error is within the bound. -/
def Bounded (h : EndpointHealth) : Prop :=
  ∀ error, h.lastError = some error → Text.byteLen error ≤ errorBytes

/-- An update that records nothing new does what its closure does. -/
theorem update_of_bounded {change : EndpointHealth → EndpointHealth} {h : EndpointHealth}
    (hBounded : (change h).Bounded) : h.update change = (change h, true) := by
  unfold update
  split
  · rfl
  · next error hError =>
    have hCut : Text.truncate errorBytes error = some error :=
      Text.truncate_eq_some.mpr (.inl ⟨hBounded error hError, rfl⟩)
    rw [hCut]
    show (({ change h with lastError := some error } : EndpointHealth), true) = _
    rw [← hError]

/-- **Update.** For every error that the closure stores, the update returns with
a prefix of at most 500 bytes in its place exactly if the text can be cut. -/
theorem update_recorded_iff {change : EndpointHealth → EndpointHealth} {h : EndpointHealth}
    {error : Text} (hError : (change h).lastError = some error) :
    (∃ cut, h.update change = ({ change h with lastError := some cut }, true) ∧ cut <+: error ∧
      Text.byteLen cut ≤ errorBytes) ↔ Text.CutsAt errorBytes error := by
  unfold update
  rw [hError, ← Text.truncate_isSome]
  dsimp only
  cases hCut : Text.truncate errorBytes error with
  | none => simp
  | some cut =>
    refine ⟨fun _ => rfl, fun _ => ⟨cut, rfl, ?_⟩⟩
    rcases Text.truncate_eq_some.mp hCut with ⟨hShort, rfl⟩ | ⟨-, hPrefix, hLen⟩
    · exact ⟨List.prefix_rfl, hShort⟩
    · exact ⟨hPrefix, hLen.le⟩

end EndpointHealth

/-! ## The monitored supervisors -/

/-- The supervisors under `monitor_background_tasks`, and whether the shutdown
token is cancelled. -/
structure Monitored (adapter : Provider → ProviderAdapter) where
  runtime : Runtime adapter
  shutdown : Bool

/-- What can happen next to the supervisors. -/
inductive MonitoredOp where
  | registry (op : RegistryOp)
  | task (k : EndpointKey) (op : TaskOp)
  /-- The monitor looks whether a supervisor has finished. -/
  | poll (k : EndpointKey)
  /-- A signal, or the end of the server. -/
  | signal

/-- What a step of a supervisor takes the token for is what the token says. -/
def TaskOp.observes (shutdown : Bool) : TaskOp → Bool
  | .advance cancelled _ => cancelled == shutdown
  | .shutdown => shutdown
  | _ => true

/-- A supervisor has returned or panicked. -/
def Phase.finished {a : ProviderAdapter} : Phase a → Bool
  | .stopped | .panicked => true
  | _ => false

/-- The supervisor has panicked. -/
def Phase.hasPanicked {a : ProviderAdapter} : Phase a → Bool
  | .panicked => true
  | _ => false

/-- A supervisor has finished, or is about to return. -/
def Phase.ends {a : ProviderAdapter} : Phase a → Bool
  | .stopping | .stopped | .panicked => true
  | _ => false

namespace Monitored

variable {adapter : Provider → ProviderAdapter}

/-- Freshly spawned supervisors, with nothing that asks them to shut down. -/
def start (registry : SubscriptionRegistry) : Monitored adapter := ⟨.spawn registry, false⟩

/-- A step of the supervisors and their monitor: a finished supervisor starts
the shutdown. -/
def step [RustDecimal] (s : Monitored adapter) : MonitoredOp → Monitored adapter
  | .registry op => { s with runtime := s.runtime.step (.registry op) }
  | .task k op =>
    if op.observes s.shutdown then { s with runtime := s.runtime.step (.task k op) } else s
  | .poll k => if (s.runtime.tasks k).phase.finished then { s with shutdown := true } else s
  | .signal => { s with shutdown := true }

end Monitored

/-- The error that the step of a task records, if it records one, can be cut. -/
def Phase.Recordable {a : ProviderAdapter} (phase : Phase a) (op : TaskOp) : Prop :=
  ∀ now error, op = .advance false now → phase = .failing error → Text.CutsAt errorBytes error

section Tasks

variable {a : ProviderAdapter}

/-- No branch of the loop ends the supervisor. -/
theorem Branch.phase_ends (b : Branch a) : b.phase.ends = false := by
  cases b <;> rfl

/-- What does not end has not panicked. -/
theorem Phase.hasPanicked_of_ends {phase : Phase a} (h : phase.ends = false) :
    phase.hasPanicked = false := by
  cases phase <;> first | rfl | cases h

/-- Settling on a snapshot does not end the supervisor. -/
theorem settle_ends (c : Connection a) (next : Finset SubscriptionKey) :
    (c.settle next).phase.ends = false := Branch.phase_ends _

/-- Recording an error: the supervisor goes on to sleep exactly if the text can
be cut. -/
theorem advance_failing (provider : Provider) (endpoint : EndpointKind)
    (snapshot : Finset SubscriptionKey) (now : Nat) (h : EndpointHealth) (error : Text) :
    (Text.CutsAt errorBytes error ∧
      (Task.advance (a := a) provider endpoint snapshot false now h (.failing error)).2 =
        .sleeping ∧
      (Task.advance (a := a) provider endpoint snapshot false now h (.failing error)).1.Bounded) ∨
    (¬ Text.CutsAt errorBytes error ∧
      (Task.advance (a := a) provider endpoint snapshot false now h (.failing error)).2 =
        .panicked) := by
  rw [← Text.truncate_isSome]
  simp only [Task.advance, EndpointHealth.reportBackoff, EndpointHealth.update]
  cases hCut : Text.truncate errorBytes error with
  | none => exact .inr ⟨by simp, by simp⟩
  | some cut =>
    refine .inl ⟨by simp, by simp, ?_⟩
    rintro stored hStored
    obtain rfl : cut = stored := Option.some.inj hStored
    -- a short error is kept, a long one cut to the bound
    rcases Text.truncate_eq_some.mp hCut with ⟨hShort, rfl⟩ | ⟨-, -, hLen⟩
    · exact hShort
    · exact hLen.le

/-- The errors of the other updates: none, or the one recorded before. -/
theorem EndpointHealth.Bounded.congr {h h' : EndpointHealth} (hBounded : h.Bounded)
    (hError : h'.lastError = none ∨ h'.lastError = h.lastError) : h'.Bounded := by
  intro error hStored
  rcases hError with hNone | hSame
  · rw [hNone] at hStored
    cases hStored
  · exact hBounded error (hSame ▸ hStored)

variable {provider : Provider} {endpoint : EndpointKind} {snapshot : Finset SubscriptionKey}
  {version : Nat} {h : EndpointHealth}

/-- Between frames an entry stays bounded as long as its errors can be recorded. -/
theorem advance_bounded {cancelled : Bool} {now : Nat} {phase : Phase a} (hBounded : h.Bounded)
    (hRecord : phase.Recordable (.advance cancelled now)) :
    (Task.advance provider endpoint snapshot cancelled now h phase).1.Bounded := by
  cases phase with
  | observing | connecting _ | waiting | looping _ | woken _ | sleeping | stopped | panicked =>
    exact hBounded
  | counting _ | comparing _ _ => exact hBounded.congr (.inr rfl)
  | stopping => exact hBounded.congr (.inr rfl)
  | idling | starting _ | opened _ | demoting _ _ | goingLive _ _ => exact hBounded.congr (.inl rfl)
  -- only a failure records an error
  | checking c =>
    simp only [Task.advance]
    split
    · exact hBounded.congr (.inl rfl)
    · exact hBounded
  | diffing c next =>
    simp only [Task.advance]
    split <;> exact hBounded
  | exited reason => cases reason <;> exact hBounded
  | failing error =>
    cases cancelled with
    | true => exact hBounded
    | false =>
      rcases advance_failing (a := a) provider endpoint snapshot now h error with
        ⟨-, -, hAfter⟩ | ⟨hCut, -⟩
      · exact hAfter
      · exact absurd (hRecord now error rfl rfl) hCut

/-- Only recording an error panics, and only cancellation stops a supervisor. -/
theorem advance_ends {cancelled : Bool} {now : Nat} {phase : Phase a}
    (hRecord : phase.Recordable (.advance cancelled now)) :
    (phase.hasPanicked = false →
      (Task.advance provider endpoint snapshot cancelled now h phase).2.hasPanicked = false) ∧
    (phase.ends = false → cancelled = false →
      (Task.advance provider endpoint snapshot cancelled now h phase).2.ends = false) := by
  -- most phases go on to one that neither ends nor has panicked
  have hSome : ∀ {after : Phase a}, after.ends = false → (phase.hasPanicked = false →
      after.hasPanicked = false) ∧ (phase.ends = false → cancelled = false → after.ends = false) :=
    fun hEnds => ⟨fun _ => Phase.hasPanicked_of_ends hEnds, fun _ _ => hEnds⟩
  cases phase with
  | observing | idling | starting _ | opened _ | woken _ | comparing _ _ => exact hSome rfl
  | connecting _ | waiting | looping _ | sleeping => exact hSome rfl
  | stopping | stopped | panicked => exact ⟨fun hPanic => hPanic, nofun⟩
  | counting desired =>
    simp only [Task.advance]
    split <;> exact hSome rfl
  | checking c =>
    simp only [Task.advance]
    split <;> exact hSome rfl
  | goingLive c leaving =>
    simp only [Task.advance]
    split <;> exact hSome rfl
  | diffing c next =>
    simp only [Task.advance]
    split
    · exact hSome rfl
    · exact hSome rfl
    · exact hSome (settle_ends _ _)
  | demoting c next => exact hSome (settle_ends _ _)
  | exited reason =>
    cases reason <;> cases cancelled <;> exact ⟨fun _ => rfl, by simp [Task.advance, Phase.ends]⟩
  | failing error =>
    cases cancelled with
    | true => exact ⟨fun _ => rfl, nofun⟩
    | false =>
      rcases advance_failing (a := a) provider endpoint snapshot now h error with
        ⟨-, hAfter, -⟩ | ⟨hCut, -⟩
      · rw [hAfter]
        exact hSome rfl
      · -- the cut is the one that cannot be recorded
        exact absurd (hRecord now error rfl rfl) hCut

variable [RustDecimal]

/-- A step of a task keeps the entry bounded as long as its error can be recorded. -/
theorem step_bounded {t : Task a} {op : TaskOp} (hBounded : h.Bounded)
    (hRecord : t.phase.Recordable op) :
    (t.step provider endpoint snapshot version h op).1.Bounded := by
  have hStep := t.step_stepped provider endpoint snapshot version h op
  generalize t.step provider endpoint snapshot version h op = after at hStep
  cases hStep with
  | advanced cancelled now => exact advance_bounded hBounded hRecord
  | received now receivedAtMs written message _ =>
    split
    · exact hBounded.congr (.inr rfl)
    · exact hBounded
  | _ => exact hBounded

/-- After a step there is nothing left to cut, so an entry that is written without
the cut is the entry that `update` writes. -/
theorem step_update {t : Task a} {op : TaskOp} (hBounded : h.Bounded)
    (hRecord : t.phase.Recordable op) :
    h.update (fun _ => (t.step provider endpoint snapshot version h op).1) =
      ((t.step provider endpoint snapshot version h op).1, true) :=
  EndpointHealth.update_of_bounded (step_bounded hBounded hRecord)

/-- A step of a task panics on nothing but an error that cannot be recorded,
and ends only if it is told to. -/
theorem step_ends {t : Task a} {op : TaskOp} (hRecord : t.phase.Recordable op) :
    (t.phase.hasPanicked = false →
      (t.step provider endpoint snapshot version h op).2.phase.hasPanicked = false) ∧
    (t.phase.ends = false → op.observes false = true →
      (t.step provider endpoint snapshot version h op).2.phase.ends = false) := by
  have hStep := t.step_stepped provider endpoint snapshot version h op
  generalize t.step provider endpoint snapshot version h op = after at hStep
  -- a branch of the loop goes on, whatever it takes
  have hBranch : ∀ (b : Branch a) (version : Nat),
      (t.phase.hasPanicked = false → (⟨b.phase, version⟩ : Task a).phase.hasPanicked = false) ∧
      (t.phase.ends = false → op.observes false = true →
        (⟨b.phase, version⟩ : Task a).phase.ends = false) := fun b _ =>
    ⟨fun _ => Phase.hasPanicked_of_ends b.phase_ends, fun _ _ => b.phase_ends⟩
  cases hStep with
  | kept => exact ⟨fun hPanic => hPanic, fun hEnds _ => hEnds⟩
  | advanced cancelled now =>
    obtain ⟨hPanic, hEnds⟩ := advance_ends hRecord
    exact ⟨hPanic, fun hBefore hToken => hEnds hBefore (by simpa [TaskOp.observes] using hToken)⟩
  | opened | failed | observed | woken | left | slept => exact ⟨fun _ => rfl, fun _ _ => rfl⟩
  | sent | beat | received => exact hBranch _ _
  | stopping => exact ⟨fun _ => rfl, nofun⟩

/-- A step after which the supervisor has not panicked recorded nothing that
cannot be cut. -/
theorem recordable_of_step {t : Task a} {op : TaskOp}
    (hAfter : (t.step provider endpoint snapshot version h op).2.phase.hasPanicked = false) :
    t.phase.Recordable op := by
  rintro now error rfl hPhase
  have hStep : (t.step provider endpoint snapshot version h (.advance false now)).2.phase =
      (Task.advance provider endpoint snapshot false now h (.failing error)).2 := by
    rw [← hPhase]
    rfl
  rcases advance_failing (a := a) provider endpoint snapshot now h error with
    ⟨hCut, -⟩ | ⟨-, hPanics⟩
  · exact hCut
  · rw [hStep, hPanics] at hAfter
    cases hAfter

end Tasks

/-! ## Runs -/

namespace Monitored

variable {adapter : Provider → ProviderAdapter}

/-- The error that a step records, if it records one, can be cut. -/
def Recordable (s : Monitored adapter) : MonitoredOp → Prop
  | .task k op => op.observes s.shutdown = true → (s.runtime.tasks k).phase.Recordable op
  | _ => True

/-- No supervisor has panicked. -/
def Alive (s : Monitored adapter) : Prop := ∀ k, (s.runtime.tasks k).phase.hasPanicked = false

/-- Every recorded error is within the bound. -/
def Bounded (s : Monitored adapter) : Prop := ∀ k, (s.runtime.health k).Bounded

/-- The gateway is up, and no supervisor is about to finish. -/
def Up (s : Monitored adapter) : Prop :=
  s.shutdown = false ∧ ∀ k, (s.runtime.tasks k).phase.ends = false

/-- Nothing has panicked at the start and no entry has a text at all. -/
theorem start_alive (registry : SubscriptionRegistry) :
    (start registry : Monitored adapter).Alive ∧ (start registry : Monitored adapter).Bounded :=
  ⟨fun _ => rfl, fun _ => nofun⟩

/-- Every supervisor is up at the start. -/
theorem start_up (registry : SubscriptionRegistry) : (start registry : Monitored adapter).Up :=
  ⟨rfl, fun _ => rfl⟩

variable [RustDecimal]

/-- A step of one supervisor, seen at another one. -/
theorem step_task {s : Monitored adapter} {k : EndpointKey} {op : TaskOp}
    (hToken : op.observes s.shutdown = true) {P : (k : EndpointKey) → EndpointHealth →
      Task (adapter k.1) → Prop} (hOthers : ∀ k', P k' (s.runtime.health k') (s.runtime.tasks k'))
    (hStep : P k ((s.runtime.tasks k).step k.1 k.2 s.runtime.registry.desired
        s.runtime.registry.desiredVersion (s.runtime.health k) op).1
      ((s.runtime.tasks k).step k.1 k.2 s.runtime.registry.desired
        s.runtime.registry.desiredVersion (s.runtime.health k) op).2) (k' : EndpointKey) :
    P k' ((s.step (.task k op)).runtime.health k') ((s.step (.task k op)).runtime.tasks k') := by
  simp only [step, hToken, if_true, Runtime.step]
  by_cases hKey : k' = k
  · subst hKey
    simpa using hStep
  · simpa [hKey] using hOthers k'

/-- A step whose error can be recorded panics nobody. -/
theorem alive_step {s : Monitored adapter} {op : MonitoredOp} (hRecord : s.Recordable op)
    (h : s.Alive ∧ s.Bounded) : (s.step op).Alive ∧ (s.step op).Bounded := by
  cases op with
  | registry op => exact h
  | signal => exact h
  | poll k =>
    simp only [step]
    split <;> exact h
  | task k op =>
    by_cases hToken : op.observes s.shutdown = true
    · have hTask := hRecord hToken
      refine forall_and.mp (step_task (P := fun _ health task =>
        task.phase.hasPanicked = false ∧ health.Bounded) hToken (forall_and.mpr h) ?_)
      exact ⟨(step_ends hTask).1 (h.1 k), step_bounded (h.2 k) hTask⟩
    · simpa [step, hToken] using h

/-- A step whose error can be recorded, and that is no signal, keeps every
supervisor up. -/
theorem up_step {s : Monitored adapter} {op : MonitoredOp} (hRecord : s.Recordable op)
    (hSignal : op ≠ .signal) (h : s.Up) : (s.step op).Up := by
  cases op with
  | registry op => exact h
  | signal => exact absurd rfl hSignal
  | poll k =>
    -- a task that has not ended is not found finished
    have hRunning : (s.runtime.tasks k).phase.finished = false := by
      have hEnds := h.2 k
      revert hEnds
      cases (s.runtime.tasks k).phase <;> first | exact fun _ => rfl | exact nofun
    simpa [step, hRunning] using h
  | task k op =>
    by_cases hToken : op.observes s.shutdown = true
    · have hTask := hRecord hToken
      refine ⟨by simpa [step, hToken] using h.1, step_task (P := fun _ _ task =>
        task.phase.ends = false) hToken h.2 ?_⟩
      exact (step_ends hTask).2 (h.2 k) (h.1 ▸ hToken)
    · simpa [step, hToken] using h

/-- A step that nobody panics in records its error. -/
theorem recordable_of_alive {s : Monitored adapter} {op : MonitoredOp} (h : (s.step op).Alive) :
    s.Recordable op := by
  cases op with
  | registry op => trivial
  | poll k => trivial
  | signal => trivial
  | task k op =>
    intro hToken
    have hAfter := h k
    simp only [step, hToken, if_true, Runtime.step, Function.update_self] at hAfter
    exact recordable_of_step hAfter

end Monitored

/-- **Recorded errors.** Whatever error a closure stores, the update returns with
a prefix of at most 500 bytes in its place exactly if the text can be cut there.
In a run, no supervisor ever panics exactly if every error it comes to record
can be cut; then every recorded error is within the bound, and without a signal
the gateway stays up. -/
theorem recording_completes [RustDecimal] (adapter : Provider → ProviderAdapter)
    (registry : SubscriptionRegistry) :
    (∀ (change : EndpointHealth → EndpointHealth) (h : EndpointHealth) (error : Text),
      (change h).lastError = some error →
      ((∃ cut, h.update change = ({ change h with lastError := some cut }, true) ∧
          cut <+: error ∧ Text.byteLen cut ≤ errorBytes) ↔
        Text.CutsAt errorBytes error)) ∧
    ∀ ops : List MonitoredOp,
      (EveryState Monitored.step Monitored.Alive (.start registry : Monitored adapter) ops ↔
        AllSteps Monitored.step Monitored.Recordable (.start registry : Monitored adapter) ops) ∧
      (AllSteps Monitored.step Monitored.Recordable (.start registry : Monitored adapter) ops →
        (run Monitored.step (.start registry : Monitored adapter) ops).Bounded ∧
        (.signal ∉ ops →
          (run Monitored.step (.start registry : Monitored adapter) ops).shutdown = false)) := by
  refine ⟨fun change h error hError => EndpointHealth.update_recorded_iff hError, fun ops => ?_⟩
  -- a step that records what can be cut keeps every task alive
  have hAlive : ∀ (s : Monitored adapter) (op : MonitoredOp), s.Recordable op →
      s.Alive ∧ s.Bounded → (s.step op).Alive ∧ (s.step op).Bounded :=
    fun s op => Monitored.alive_step
  refine ⟨⟨allSteps_of_everyState fun s op => Monitored.recordable_of_alive, fun hAll => ?_⟩,
    fun hAll => ⟨?_, fun hSignal => ?_⟩⟩
  · have hEvery := everyState_of_allSteps hAlive (Monitored.start_alive registry) hAll
    exact everyState_mono (fun s h => h.1) hEvery
  · exact (run_invariant_of_allSteps hAlive (Monitored.start_alive registry) hAll).2
  · have hQuiet : ∀ op ∈ ops, op ≠ .signal := fun op hOp hEq => hSignal (hEq ▸ hOp)
    exact (run_invariant_of_allSteps (P := Monitored.Up)
      (fun s op hOp => Monitored.up_step hOp.1 hOp.2) (Monitored.start_up registry)
      (hAll.and (allSteps_of_mem hQuiet _))).1

section Sample

/-- A message of a venue in an alphabet with two bytes to a letter. -/
def rejectionMessage : Text := 'x' :: List.replicate 250 'é'

/-- The text of the error for that message. -/
def rejectionError : Text := AdapterError.display (.commandRejected .bybit rejectionMessage)

/-- Bybit's answer to a subscription it refuses. -/
def rejection : Text :=
  "\x7b\"op\":\"subscribe\",\"success\":false,\"ret_msg\":\"".toList ++ rejectionMessage ++
    "\"\x7d".toList

/-- Documents that are read as the rejection. -/
@[reducible] def rejectionJson : JsonText :=
  .table [(rejection, .object [("op".toList, .string "subscribe".toList),
    ("success".toList, .bool false), ("ret_msg".toList, .string rejectionMessage)])]

local instance rejectionUnicode : Unicode := .ascii
local instance rejectionReader : JsonText := rejectionJson
local instance rejectionMarket : MarketData := .silent
local instance rejectionDecimal : RustDecimal := .digits

/-- A client subscribes, the supervisor connects and sends the command, the
venue rejects it, the supervisor records the error, the monitor looks. -/
def rejectedOps : List MonitoredOp :=
  .registry (.add .declared 1 [⟨.bybit, .linearPerpetual, "BTCUSDT".toList, .ticker⟩]) ::
    ([.advance false 0, .advance false 0, .advance false 0,
      .connected 7 ⟨⟨10000, "10s".toList⟩, ⟨60000, "60s".toList⟩⟩,
      .advance false 100, .advance false 100, .sendCommand 200 (.ok ()),
      .frame 300 300 (.ok ()) (.text (.ok rejection)), .advance false 300].map
        (.task (.bybit, .primary))) ++ [.poll (.bybit, .primary)]

/-- The cut falls inside a letter: the supervisor panics, and the gateway shuts
down without a signal. -/
theorem rejection_shuts_down :
    let s : Monitored configuredAdapter :=
      run Monitored.step (.start (.withProviderLimits 10 (.uniform 1000))) rejectedOps
    (s.runtime.tasks (.bybit, .primary)).phase.hasPanicked = true ∧ s.shutdown = true ∧
    (EndpointHealth.new.update fun h => { h with lastError := some rejectionError }).2 = false := by
  decide +kernel

end Sample

end MarketStreamGateway
