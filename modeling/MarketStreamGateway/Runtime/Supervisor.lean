import MarketStreamGateway.Runtime.Connection
import MarketStreamGateway.Registry

/-!
# Market Stream Gateway — endpoint supervisors

`supervise_endpoint` of `runtime.rs` with `wait_for_desired` and the loop of
`run_connection`, the health registry of `health.rs`, and the registry whose
watch channel wakes the supervisors.

Each supervised endpoint is a task. Between two accesses to shared state — a
read of the watch channel, a health update — a task may be overtaken by client
operations, by other tasks and by readers of the readiness. `Phase` is the
point a task has reached, so that every access is a step of its own.

A watch receiver remembers the version it has seen; `changed` is ready when the
channel has another one. Reading the value does not mark it as seen.
-/

namespace MarketStreamGateway

open Lib

/-! ## Health -/

/-- What an endpoint is doing, as the health endpoint shows it. -/
inductive ConnectionState where
  | idle | connecting | live | backoff | stopped
  deriving DecidableEq, Repr

/-- The bound on a recorded error, in bytes. -/
def errorBytes : Nat := 500

/-- The health entry of an endpoint. -/
structure EndpointHealth where
  state : ConnectionState
  desiredSubscriptions : Nat
  reconnects : Nat
  connectionEpoch : Option Uuid
  connectedAtMs : Option Nat
  lastEventAtMs : Option Nat
  lastError : Option Text
  deriving DecidableEq, Repr

namespace EndpointHealth

/-- The entry of an endpoint that has not been asked for anything. -/
def new : EndpointHealth := ⟨.idle, 0, 0, none, none, none, none⟩

/-- The entry when a new number of subscriptions is desired. -/
def reportDesired (h : EndpointHealth) (desired : Nat) : EndpointHealth :=
  { h with desiredSubscriptions := desired }

/-- The entry when nothing is desired any more. -/
def reportIdle (h : EndpointHealth) : EndpointHealth :=
  { h with state := .idle, connectionEpoch := none, connectedAtMs := none, lastEventAtMs := none
           lastError := none }

/-- Before a connection attempt. -/
def reportStarting (h : EndpointHealth) : EndpointHealth :=
  { h with state := .connecting, connectionEpoch := none, connectedAtMs := none
           lastEventAtMs := none, lastError := none }

/-- The websocket is open. -/
def reportOpened (h : EndpointHealth) (epoch : Uuid) (now : Nat) : EndpointHealth :=
  { h with state := .connecting, connectionEpoch := some epoch, connectedAtMs := some now
           lastEventAtMs := none, lastError := none }

/-- The desired set of an open connection changed. -/
def reportChanging (h : EndpointHealth) : EndpointHealth :=
  { h with state := .connecting, lastError := none }

/-- The entry when everything is acknowledged. -/
def markLive (h : EndpointHealth) : EndpointHealth := { h with state := .live, lastError := none }

/-- The entry when an event has come in. -/
def reportEvent (h : EndpointHealth) (receivedAtMs : Nat) : EndpointHealth :=
  { h with lastEventAtMs := some receivedAtMs }

/-- `HealthRegistry::update` on the entry of an endpoint; the flag says whether
it returns. The error is cut after it is stored. -/
def update (change : EndpointHealth → EndpointHealth) (h : EndpointHealth) :
    EndpointHealth × Bool :=
  match (change h).lastError with
  | none => (change h, true)
  | some error =>
    match Text.truncate errorBytes error with
    | some cut => ({ change h with lastError := some cut }, true)
    | none => (change h, false)

/-- The one report that stores a new error. The others leave nothing to cut. -/
def reportBackoff (h : EndpointHealth) (error : Text) : EndpointHealth × Bool :=
  h.update fun h => { h with
    state := .backoff, reconnects := min (h.reconnects + 1) u64Max, connectionEpoch := none
    connectedAtMs := none, lastEventAtMs := none, lastError := some error }

/-- The entry when the supervisor has stopped. -/
def reportStopped (h : EndpointHealth) : EndpointHealth :=
  { h with state := .stopped, connectionEpoch := none, connectedAtMs := none
           lastEventAtMs := none }

/-- An endpoint does not stand in the way of readiness. -/
def ready (h : EndpointHealth) : Bool := h.desiredSubscriptions = 0 || h.state = .live

end EndpointHealth

/-! ## Tasks -/

/-- The point a supervisor has reached. -/
inductive Phase (a : ProviderAdapter) where
  /-- `wait_for_desired` is about to read the snapshot. -/
  | observing
  /-- … to report the size of its share, … -/
  | counting (desired : Finset SubscriptionKey)
  /-- … to report that it is idle. -/
  | idling
  /-- Waiting for the snapshot to change. -/
  | waiting
  /-- About to report the connection attempt. -/
  | starting (desired : Finset SubscriptionKey)
  /-- Waiting for the websocket. -/
  | connecting (desired : Finset SubscriptionKey)
  /-- The websocket is open, the initial commands are queued. -/
  | opened (c : Connection a)
  /-- The check for readiness before the loop. -/
  | checking (c : Connection a)
  /-- Between two iterations of the loop. -/
  | looping (c : Connection a)
  /-- `mark_live` is next. -/
  | goingLive (c : Connection a) (leaving : Bool)
  /-- The snapshot changed: about to read it, … -/
  | woken (c : Connection a)
  /-- … to report the size of its share, … -/
  | comparing (c : Connection a) (next : Finset SubscriptionKey)
  /-- … to queue the difference, … -/
  | diffing (c : Connection a) (next : Finset SubscriptionKey)
  /-- … to report that there was one. -/
  | demoting (c : Connection a) (next : Finset SubscriptionKey)
  /-- The connection ended. -/
  | exited (exit : ConnectionExit)
  | failing (error : Text)
  | sleeping
  | stopping
  | stopped
  /-- A panic ended the task. -/
  | panicked

/-- The open connection of a task. -/
def Phase.connection {a : ProviderAdapter} : Phase a → Option (Connection a)
  | .opened c | .checking c | .looping c | .goingLive c _ | .woken c | .comparing c _
  | .diffing c _ | .demoting c _ => some c
  | _ => none

/-- A supervisor between two of its steps. -/
structure Task (a : ProviderAdapter) where
  phase : Phase a
  /-- The version of the watch channel last marked as seen. -/
  seen : Nat

/-- A step of a task, with what the outside contributes to it. -/
inductive TaskOp where
  /-- The next internal step; `cancelled` is what the shutdown token says. -/
  | advance (cancelled : Bool) (now : Nat)
  | connected (epoch : Uuid) (target : ConnectionTarget)
  | connectFailed (error : RuntimeError)
  | changed
  | sendCommand (now : Nat) (written : Except RuntimeError Unit)
  | acknowledgementTimeout
  | heartbeat (stale : Bool) (written : Except RuntimeError Unit)
  | frame (now receivedAtMs : Nat) (written : Except RuntimeError Unit) (message : UpstreamMessage)
  | rotate
  | slept
  | shutdown

/-- Where a branch of the select loop leaves the task. -/
def Branch.phase {a : ProviderAdapter} : Branch a → Phase a
  | .stay c => .looping c
  | .markLive c leaving => .goingLive c leaving
  | .exit reason => .exited reason
  | .fail error => .failing error.display

namespace Task

variable [RustDecimal] {a : ProviderAdapter}

/-- A supervisor starts by looking at the watch channel. -/
def start (version : Nat) : Task a := ⟨.observing, version⟩

/-- The internal steps. -/
def advance (provider : Provider) (endpoint : EndpointKind) (snapshot : Finset SubscriptionKey)
    (cancelled : Bool) (now : Nat) (h : EndpointHealth) : Phase a → EndpointHealth × Phase a
  | .observing => (h, .counting (filterDesired provider a endpoint snapshot))
  | .counting desired =>
    (h.reportDesired desired.card, if desired = ∅ then .idling else .starting desired)
  | .idling => (h.reportIdle, .waiting)
  | .starting desired => (h.reportStarting, .connecting desired)
  | .opened c => (h.reportOpened c.epoch now, .checking c)
  | .checking c =>
    if c.commands.readinessComplete then (h.markLive, .looping { c with live := true })
    else (h, .looping c)
  | .goingLive c leaving =>
    (h.markLive, if leaving then .exited .idle else .looping { c with live := true })
  | .woken c => (h, .comparing c (filterDesired provider a endpoint snapshot))
  | .comparing c next => (h.reportDesired next.card, .diffing c next)
  | .diffing c next =>
    match c.queueChanges next with
    | (.error error, _) => (h, .failing error.display)
    | (.ok true, c) => (h, .demoting c next)
    | (.ok false, c) => (h, (c.settle next).phase)
  | .demoting c next => (h.reportChanging, (c.settle next).phase)
  | .exited .idle => (h, if cancelled then .stopping else .observing)
  | .exited .rotate =>
    (h, if cancelled then .stopping else .failing "planned connection rotation".toList)
  | .failing error =>
    if cancelled then (h, .stopping)
    else match h.reportBackoff error with
      | (h, true) => (h, .sleeping)
      | (h, false) => (h, .panicked)
  | .stopping => (h.reportStopped, .stopped)
  | phase => (h, phase)

/-- One step of a task. A step the phase has no branch for does nothing. -/
def step (provider : Provider) (endpoint : EndpointKind) (snapshot : Finset SubscriptionKey)
    (version : Nat) (h : EndpointHealth) (t : Task a) (op : TaskOp) : EndpointHealth × Task a :=
  match op, t.phase with
  | .advance cancelled now, phase =>
    let (h, phase) := advance provider endpoint snapshot cancelled now h phase
    (h, { t with phase })
  | .connected epoch target, .connecting desired =>
    match Connection.establish a endpoint epoch target desired with
    | (.error error, _) => (h, { t with phase := .failing error.display })
    | (.ok (), c) => (h, { t with phase := .opened c })
  | .connectFailed error, .connecting _ => (h, { t with phase := .failing error.display })
  | .changed, .waiting =>
    if t.seen = version then (h, t) else (h, ⟨.observing, version⟩)
  | .changed, .looping c =>
    if t.seen = version then (h, t) else (h, ⟨.woken c, version⟩)
  | .sendCommand now written, .looping c =>
    (h, { t with phase := (c.sendCommand now written).phase })
  | .acknowledgementTimeout, .looping c =>
    match c.acknowledgementDeadline with
    | some _ => (h, { t with phase := .failing (RuntimeError.display
        (.subscriptionAcknowledgementTimeout c.target.subscriptionAckTimeout)) })
    | none => (h, t)
  | .heartbeat stale written, .looping c =>
    (h, { t with phase := (c.sendHeartbeat stale written).phase })
  | .frame now receivedAtMs written message, .looping c =>
    let (branch, demanded) := c.receiveFrame now receivedAtMs written message
    (if demanded then h.reportEvent receivedAtMs else h, { t with phase := branch.phase })
  | .rotate, .looping _ => (h, { t with phase := .exited .rotate })
  | .slept, .sleeping => (h, { t with phase := .observing })
  | .shutdown, .waiting | .shutdown, .sleeping => (h, { t with phase := .stopping })
  | .shutdown, .looping _ => (h, { t with phase := .exited .idle })
  | _, _ => (h, t)

/-- What a step of a task can do. The branches of the select loop that keep the
connection are given as the `Branch` they end in. -/
inductive Stepped (provider : Provider) (endpoint : EndpointKind)
    (snapshot : Finset SubscriptionKey) (version : Nat) (h : EndpointHealth) (t : Task a) :
    TaskOp → EndpointHealth × Task a → Prop
  | kept {op : TaskOp} : Stepped provider endpoint snapshot version h t op (h, t)
  | advanced (cancelled : Bool) (now : Nat) :
    Stepped provider endpoint snapshot version h t (.advance cancelled now)
      ((advance provider endpoint snapshot cancelled now h t.phase).1,
        { t with phase := (advance provider endpoint snapshot cancelled now h t.phase).2 })
  | opened {desired : Finset SubscriptionKey} {epoch : Uuid} {target : ConnectionTarget}
    {c : Connection a} (hPhase : t.phase = .connecting desired)
    (hEstablish : Connection.establish a endpoint epoch target desired = (.ok (), c)) :
    Stepped provider endpoint snapshot version h t (.connected epoch target)
      (h, { t with phase := .opened c })
  | failed {op : TaskOp} (error : Text)
    (hPhase : (∃ desired, t.phase = .connecting desired) ∨ ∃ c, t.phase = .looping c) :
    Stepped provider endpoint snapshot version h t op (h, { t with phase := .failing error })
  | observed (hPhase : t.phase = .waiting) (hSeen : t.seen ≠ version) :
    Stepped provider endpoint snapshot version h t .changed (h, ⟨.observing, version⟩)
  | woken {c : Connection a} (hPhase : t.phase = .looping c) (hSeen : t.seen ≠ version) :
    Stepped provider endpoint snapshot version h t .changed (h, ⟨.woken c, version⟩)
  | sent {c : Connection a} (now : Nat) (written : Except RuntimeError Unit)
    (hPhase : t.phase = .looping c) :
    Stepped provider endpoint snapshot version h t (.sendCommand now written)
      (h, { t with phase := (c.sendCommand now written).phase })
  | beat {c : Connection a} (stale : Bool) (written : Except RuntimeError Unit)
    (hPhase : t.phase = .looping c) :
    Stepped provider endpoint snapshot version h t (.heartbeat stale written)
      (h, { t with phase := (c.sendHeartbeat stale written).phase })
  | received {c : Connection a} (now receivedAtMs : Nat) (written : Except RuntimeError Unit)
    (message : UpstreamMessage) (hPhase : t.phase = .looping c) :
    Stepped provider endpoint snapshot version h t (.frame now receivedAtMs written message)
      (if (c.receiveFrame now receivedAtMs written message).2 then h.reportEvent receivedAtMs
        else h,
        { t with phase := (c.receiveFrame now receivedAtMs written message).1.phase })
  | left {op : TaskOp} {c : Connection a} (reason : ConnectionExit)
    (hPhase : t.phase = .looping c) :
    Stepped provider endpoint snapshot version h t op (h, { t with phase := .exited reason })
  | slept (hPhase : t.phase = .sleeping) :
    Stepped provider endpoint snapshot version h t .slept (h, { t with phase := .observing })
  | stopping (hPhase : t.phase = .waiting ∨ t.phase = .sleeping) :
    Stepped provider endpoint snapshot version h t .shutdown (h, { t with phase := .stopping })

/-- `Stepped` leaves nothing out. -/
theorem step_stepped (provider : Provider) (endpoint : EndpointKind)
    (snapshot : Finset SubscriptionKey) (version : Nat) (h : EndpointHealth) (t : Task a)
    (op : TaskOp) :
    Stepped provider endpoint snapshot version h t op
      (t.step provider endpoint snapshot version h op) := by
  -- one arm of the step after the other
  unfold Task.step
  split
  · exact .advanced _ _
  · next hPhase =>
    split
    · exact .failed _ (Or.inl ⟨_, hPhase⟩)
    · next hEstablish => exact .opened hPhase hEstablish
  · next hPhase => exact .failed _ (Or.inl ⟨_, hPhase⟩)
  · next hPhase =>
    split
    · exact .kept
    · next hSeen => exact .observed hPhase hSeen
  · next hPhase =>
    split
    · exact .kept
    · next hSeen => exact .woken hPhase hSeen
  · next hPhase => exact .sent _ _ hPhase
  · next hPhase =>
    split
    · exact .failed _ (Or.inr ⟨_, hPhase⟩)
    · exact .kept
  · next hPhase => exact .beat _ _ hPhase
  · next hPhase => exact .received _ _ _ _ hPhase
  · next hPhase => exact .left _ hPhase
  · next hPhase => exact .slept hPhase
  · next hPhase => exact .stopping (Or.inl hPhase)
  · next hPhase => exact .stopping (Or.inr hPhase)
  · next hPhase => exact .left _ hPhase
  · exact .kept

end Task

/-! ## The runtime -/

/-- A supervised endpoint. -/
abbrev EndpointKey := Provider × EndpointKind

/-- The registry, the health registry and the tasks. -/
structure Runtime (adapter : Provider → ProviderAdapter) where
  registry : SubscriptionRegistry
  health : EndpointKey → EndpointHealth
  tasks : (k : EndpointKey) → Task (adapter k.1)

/-- What can happen next: to the registry, or to the supervisor of an endpoint. -/
inductive RuntimeOp where
  | registry (op : RegistryOp)
  | task (k : EndpointKey) (op : TaskOp)

namespace Runtime

variable {adapter : Provider → ProviderAdapter}

/-- `spawn_provider_supervisors`: every endpoint registered, every task at its
first read. -/
def spawn (registry : SubscriptionRegistry) : Runtime adapter :=
  ⟨registry, fun _ => .new, fun _ => .start registry.desiredVersion⟩

/-- A supervisor steps with the snapshot that the registry has published. -/
def step [RustDecimal] (s : Runtime adapter) : RuntimeOp → Runtime adapter
  | .registry op => { s with registry := s.registry.step op }
  | .task k op =>
    let (h, t) := (s.tasks k).step k.1 k.2 s.registry.desired s.registry.desiredVersion
      (s.health k) op
    { s with health := Function.update s.health k h, tasks := Function.update s.tasks k t }

/-- `HealthRegistry::readiness` over the supervised endpoints. -/
def readiness (s : Runtime adapter) (supervised : List EndpointKey) : Bool :=
  supervised.all fun k => (s.health k).ready

end Runtime

end MarketStreamGateway
