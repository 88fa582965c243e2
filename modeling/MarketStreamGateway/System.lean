import MarketStreamGateway.CommandOutcome
import MarketStreamGateway.Runtime.LiveState
import MarketStreamGateway.Feeds.Session
import MarketStreamGateway.Lib.Flow

/-!
# Market Stream Gateway — the whole gateway

The client sessions and the endpoint supervisors of one process. They meet
twice: sessions change the registry whose snapshot the supervisors watch, and
supervisors publish to the hub that feeds the sessions.

A supervisor that takes a text frame parses it, publishes its valid events one
after the other and handles the rest of the frame last (`process_text`). Every
publication waits for `publish_order`, so sessions and other supervisors run in
between: `processing` is the frame a supervisor is in the middle of, `publisher`
the one that holds the lock.

Main results:
* `gateway_after`, `runtime_after` — a run of the system is a run of the
  sessions and the hub on one side, and on the other a run of the registry and
  the supervisors in which only canonical keys are added.
* `agreement_after`, `supervisors_after` — so the invariants of the two sides
  hold in every run of the whole.
-/

namespace MarketStreamGateway

open Lib

/-! ## The registry operations of a session -/

section Commands

variable [Unicode]

/-- The registry operation a client command comes to, if any. -/
def commandOps (config : ApiConfig) (catalog : CatalogVerdict) (order : ProviderOrder)
    (client : ClientId) (command : ClientCommand) : List RegistryOp :=
  if command.requestId.isEmpty || Text.byteLen command.requestId > maxRequestIdBytes then []
  else match command with
    | .ping _ => []
    | .subscribe requestId requested =>
      match validatedSubscriptionKeys config catalog requestId requested with
      | .ok keys => [.add order client keys]
      | .error _ => []
    | .unsubscribe _ requested =>
      match expandSubscriptions requested with
      | .ok keys => [.remove client keys]
      | .error _ => []

/-- What a message of a client asks of the registry: a command that is too long
asks nothing. -/
def messageOps (config : ApiConfig) (catalog : CatalogVerdict) (order : ProviderOrder)
    (client : ClientId) : Option ClientMessage → List RegistryOp
  | some (.text bytes (.ok command)) =>
    if bytes > config.maxCommandBytes then []
    else commandOps config catalog order client command
  | _ => []

/-- The registry operations of a step. -/
def Gateway.registryOps (s : Gateway) : GatewayOp → List RegistryOp
  | .incoming client catalog order message =>
    match s.sessions client with
    | some x =>
      if x.phase = .selecting then messageOps s.config catalog order client message else []
    | none => []
  | .cleanupClient client =>
    match s.sessions client with
    | some ⟨.unrouted, _, _, _⟩ => [.cleanupClient client]
    | _ => []
  | _ => []

/-- Applying a command runs its registry operations. -/
theorem applyCommand_registry (config : ApiConfig) (catalog : CatalogVerdict)
    (order : ProviderOrder) (registry : SubscriptionRegistry) (client : ClientId)
    (command : ClientCommand) :
    (applyCommand config catalog order registry client command).2 =
      run SubscriptionRegistry.step registry (commandOps config catalog order client command) := by
  unfold applyCommand commandOps
  split
  · rfl
  · cases command with
    | ping requestId => rfl
    | subscribe requestId requested =>
      show (subscribe config catalog order registry client requestId requested).2 = _
      unfold subscribe
      dsimp only
      -- the registry is called only with keys that were accepted
      cases hKeys : validatedSubscriptionKeys config catalog requestId requested with
      | error reply => rfl
      | ok keys =>
        dsimp only [run_cons, run_nil, SubscriptionRegistry.step]
        rcases registry.add order client keys with ⟨error | change, after⟩ <;> rfl
    | unsubscribe requestId requested =>
      show (unsubscribe registry client requestId requested).2 = _
      unfold unsubscribe
      dsimp only
      cases hKeys : expandSubscriptions requested with
      | error message => rfl
      | ok keys => rfl

/-- Handling a message runs its registry operations. -/
theorem handleClientMessage_ops (s : Gateway) (client : ClientId) (x : Session)
    (catalog : CatalogVerdict) (order : ProviderOrder) (message : Option ClientMessage) :
    (s.handleClientMessage client x catalog order message).2 =
      run SubscriptionRegistry.step s.subscriptions
        (messageOps s.config catalog order client message) := by
  cases message with
  | none => rfl
  | some message =>
    cases message with
    | ping answered => cases answered <;> rfl
    | pong => rfl
    | binary => rfl
    | close => rfl
    | text bytes parsed =>
      -- what the reply is does not matter here
      have hRegistry : (handleTextMessage s.config catalog order s.subscriptions client bytes
          parsed).2 = run SubscriptionRegistry.step s.subscriptions
            (messageOps s.config catalog order client (some (.text bytes parsed))) := by
        unfold handleTextMessage
        cases parsed with
        | error code => split <;> rfl
        | ok command =>
          unfold messageOps
          dsimp only
          by_cases hLong : bytes > s.config.maxCommandBytes
          · rw [if_pos hLong, if_pos hLong]
            rfl
          · rw [if_neg hLong, if_neg hLong]
            exact applyCommand_registry s.config catalog order s.subscriptions client command
      rw [← hRegistry]
      unfold Gateway.handleClientMessage
      dsimp only
      rcases handleTextMessage s.config catalog order s.subscriptions client bytes parsed with
        ⟨reply | route, registry⟩ <;> rfl

/-- A step changes the registry by its registry operations. -/
theorem subscriptions_step (s : Gateway) (op : GatewayOp) :
    (s.step op).subscriptions =
      run SubscriptionRegistry.step s.subscriptions (s.registryOps op) := by
  show (s.localStep op).subscriptions = _
  cases op with
  | incoming client catalog order message =>
    cases hx : s.sessions client with
    | none => simp [Gateway.localStep, Gateway.registryOps, hx]
    | some x =>
      -- a message is handled only while the session selects
      by_cases hPhase : x.phase = .selecting
      · simp only [Gateway.localStep, Gateway.registryOps, hx]
        rw [if_pos hPhase, if_pos hPhase]
        exact handleClientMessage_ops s client x catalog order message
      · simp [Gateway.localStep, Gateway.registryOps, hx, hPhase]
  | cleanupClient client =>
    cases hx : s.sessions client with
    | none => simp [Gateway.localStep, Gateway.registryOps, hx]
    | some x =>
      obtain ⟨phase, feed, subscriptions, sent⟩ := x
      cases phase <;>
        simp [Gateway.localStep, Gateway.registryOps, hx, SubscriptionRegistry.step]
  | connect client helloSent | updateRoutes client | reply client sent | removeClient client
  | dropFeed client =>
    simp only [Gateway.localStep, Gateway.registryOps]
    split <;> rfl
  | deliver client sent | lag client sent | shutdown client =>
    simp only [Gateway.localStep, Gateway.registryOps]
    split
    · split <;> rfl
    · rfl
  | number event => rfl
  | route => rfl

/-- Validated keys are canonical and of enabled providers. -/
theorem validatedSubscriptionKeys_spec {config : ApiConfig} {catalog : CatalogVerdict}
    {requestId : Text} {requested : List Subscription} {keys : List SubscriptionKey}
    (h : validatedSubscriptionKeys config catalog requestId requested = .ok keys) :
    ∀ key ∈ keys, key.Canonical ∧ key.provider ∈ config.enabledProviders := by
  intro key hKey
  unfold validatedSubscriptionKeys at h
  cases hExpand : expandSubscriptions requested with
  | error message =>
    rw [hExpand] at h
    cases h
  | ok expanded =>
    rw [hExpand] at h
    dsimp only at h
    split at h
    · cases h
    · next hFind =>
      split at h
      · cases h
      · obtain rfl := Except.ok.inj h
        constructor
        · rw [(wellFormed_of_expand hExpand).2, mem_iter] at hKey
          exact requestedKeys_canonical hKey
        · -- no key was found with a provider that is off
          have hEnabled := List.find?_eq_none.mp hFind key hKey
          simpa using hEnabled

/-- A key that a command adds has been validated. -/
theorem commandOps_add {config : ApiConfig} {catalog : CatalogVerdict}
    {order order' : ProviderOrder}
    {client client' : ClientId} {command : ClientCommand} {keys : List SubscriptionKey}
    (h : RegistryOp.add order' client' keys ∈ commandOps config catalog order client command) :
    ∃ requestId requested,
      validatedSubscriptionKeys config catalog requestId requested = .ok keys := by
  unfold commandOps at h
  split at h
  · cases h
  · cases command with
    | ping requestId => cases h
    | subscribe requestId requested =>
      dsimp only at h
      cases hKeys : validatedSubscriptionKeys config catalog requestId requested with
      | error reply =>
        rw [hKeys] at h
        cases h
      | ok expanded =>
        rw [hKeys] at h
        obtain ⟨-, -, rfl⟩ := RegistryOp.add.inj (List.mem_singleton.mp h)
        exact ⟨requestId, requested, hKeys⟩
    -- an unsubscribe adds nothing
    | unsubscribe requestId requested =>
      dsimp only at h
      cases hKeys : expandSubscriptions requested with
      | error message =>
        rw [hKeys] at h
        cases h
      | ok expanded =>
        rw [hKeys] at h
        cases List.mem_singleton.mp h

/-- Sessions add validated keys only. -/
theorem registryOps_add {s : Gateway} {op : GatewayOp} {order : ProviderOrder} {client : ClientId}
    {keys : List SubscriptionKey} (h : RegistryOp.add order client keys ∈ s.registryOps op) :
    ∀ key ∈ keys, key.Canonical ∧ key.provider ∈ s.config.enabledProviders := by
  cases op with
  | incoming client' catalog order' message =>
    simp only [Gateway.registryOps] at h
    split at h
    · split at h
      · unfold messageOps at h
        split at h
        · split at h
          · cases h
          · -- keys are added by a subscribe command only
            obtain ⟨requestId, requested, hKeys⟩ := commandOps_add h
            exact validatedSubscriptionKeys_spec hKeys
        · cases h
      · cases h
    · cases h
  | cleanupClient client' =>
    simp only [Gateway.registryOps] at h
    split at h
    · cases List.mem_singleton.mp h
    · cases h
  | connect | updateRoutes | reply | deliver | lag | shutdown | removeClient | dropFeed | number
  | route =>
    cases h

/-- Sessions ask the registry for canonical keys only. -/
theorem registryOps_canonical (s : Gateway) (op : GatewayOp) :
    ∀ o ∈ s.registryOps op, o.Canonical := by
  intro o ho
  cases o with
  | add order client keys => exact fun key hKey => (registryOps_add ho key hKey).1
  | remove client keys => trivial
  | cleanupClient client => trivial

end Commands

/-! ## The system -/

section

variable [Unicode] [JsonText] [RustDecimal] [Serde]

/-- The events of a message that `process_text` publishes. -/
def Connection.extract {a : ProviderAdapter} (c : Connection a) (receivedAtMs : Nat) :
    UpstreamMessage → List ProviderEvent
  | .text (.ok text) =>
    match (a.parse c.session text receivedAtMs).1 with
    | .ok (.events events) => events.filter Connection.accepted
    | _ => []
  | _ => []

/-- A frame whose events are being published. -/
structure Processing where
  receivedAtMs : Nat
  message : UpstreamMessage
  /-- The events still to be published. -/
  events : List ProviderEvent

/-- The gateway and the supervisors of all endpoints, with the frames they have
in hand. -/
structure System where
  gateway : Gateway
  health : EndpointKey → EndpointHealth
  tasks : (k : EndpointKey) → Task (configuredAdapter k.1)
  processing : EndpointKey → Option Processing
  publisher : Option EndpointKey

/-- The steps of the system, with the frame branch of a supervisor taken apart. -/
inductive SystemOp where
  /-- A step of a client session. -/
  | client (op : GatewayOp)
  /-- A step of a supervisor, the frame branch apart. -/
  | task (k : EndpointKey) (op : TaskOp)
  /-- The frame branch: a message is taken and parsed, … -/
  | receive (k : EndpointKey) (receivedAtMs : Nat) (message : UpstreamMessage)
  /-- … its next event takes `publish_order` and is numbered, … -/
  | number (k : EndpointKey)
  /-- … routed, and the lock is let go, … -/
  | route
  /-- … and after the last event the rest of the branch. -/
  | finish (k : EndpointKey) (now : Nat) (written : Except RuntimeError Unit)

/-- The step is the frame branch. -/
def TaskOp.isFrame : TaskOp → Bool
  | .frame _ _ _ _ => true
  | _ => false

namespace System

/-- The registry with the supervisors. -/
def runtime (s : System) : Runtime configuredAdapter :=
  ⟨s.gateway.subscriptions, s.health, s.tasks⟩

/-- The connection of a supervisor at its select loop. -/
def selecting (s : System) (k : EndpointKey) : Option (Connection (configuredAdapter k.1)) :=
  match s.processing k, (s.tasks k).phase with
  | none, .looping c => some c
  | _, _ => none

/-- The event a supervisor publishes next, if it can take the lock, and what it
has left then. -/
def publishing (s : System) (k : EndpointKey) : Option (ProviderEvent × Processing) :=
  match s.publisher, s.processing k with
  | none, some ⟨receivedAtMs, message, event :: events⟩ =>
    some (event, ⟨receivedAtMs, message, events⟩)
  | _, _ => none

/-- What a step does to sessions and hub. -/
def gatewayOps (s : System) : SystemOp → List GatewayOp
  | .client op => if op.actor.isSome then [op] else []
  | .number k =>
    match s.publishing k with
    | some (event, _) => [.number event]
    | none => []
  | .route => [.route]
  | .task _ _ | .receive _ _ _ | .finish _ _ _ => []

/-- The frame a supervisor can bring to its end. -/
def finishing (s : System) (k : EndpointKey) : Option Processing :=
  match s.processing k with
  | some p => if p.events.isEmpty && s.publisher ≠ some k then some p else none
  | none => none

/-- What a step does to a supervisor. -/
def taskOps (s : System) : SystemOp → List RuntimeOp
  | .task k op => if (s.processing k).isNone && !op.isFrame then [.task k op] else []
  | .finish k now written =>
    match s.finishing k with
    | some p => [.task k (.frame now p.receivedAtMs written p.message)]
    | none => []
  | .client _ | .receive _ _ _ | .number _ | .route => []

/-- What a step does to the registry and the supervisors. -/
def runtimeOps (s : System) : SystemOp → List RuntimeOp
  | .client op => if op.actor.isSome then (s.gateway.registryOps op).map .registry else []
  | op => s.taskOps op

/-- The frames in hand after a step. -/
def nextProcessing (s : System) : SystemOp → EndpointKey → Option Processing
  | .receive k receivedAtMs message =>
    match s.selecting k with
    | some c => Function.update s.processing k
        (some ⟨receivedAtMs, message, c.extract receivedAtMs message⟩)
    | none => s.processing
  | .number k =>
    match s.publishing k with
    | some (_, p) => Function.update s.processing k (some p)
    | none => s.processing
  | .finish k _ _ =>
    match s.finishing k with
    | some _ => Function.update s.processing k none
    | none => s.processing
  | .client _ | .task _ _ | .route => s.processing

/-- The holder of `publish_order` after a step. A publisher whose event gets no
number lets go at once. -/
def nextPublisher (s : System) (gateway : Gateway) : SystemOp → Option EndpointKey
  | .number k =>
    match s.publishing k with
    | some _ => if gateway.hub.inFlight.isSome then some k else none
    | none => s.publisher
  | .route => none
  | .client _ | .task _ _ | .receive _ _ _ | .finish _ _ _ => s.publisher

/-- A step of the system is some steps of the gateway and some of the runtime. -/
def step (s : System) (op : SystemOp) : System :=
  let gateway := run Gateway.step s.gateway (s.gatewayOps op)
  let runtime := run Runtime.step s.runtime (s.taskOps op)
  { gateway
    health := runtime.health
    tasks := runtime.tasks
    processing := s.nextProcessing op
    publisher := s.nextPublisher gateway op }

/-- The system when it starts: no clients, and an idle supervisor for every endpoint. -/
def start (config : ApiConfig) (epoch : Uuid) (capacity maxClients maxPerClient : Nat)
    (limits : ProviderLimits) : System where
  gateway := .start config epoch capacity maxClients maxPerClient limits
  health := fun _ => .new
  tasks := (Runtime.spawn (.withProviderLimits maxPerClient limits)).tasks
  processing := fun _ => none
  publisher := none

/-! ### The two sides -/

/-- What a step of the system does to the gateway. -/
theorem gateway_step (s : System) (op : SystemOp) :
    (s.step op).gateway = run Gateway.step s.gateway (s.gatewayOps op) := rfl

/-- **The downstream side.** -/
theorem gateway_after (s : System) (ops : List SystemOp) :
    (run step s ops).gateway = run Gateway.step s.gateway (trace step gatewayOps s ops) :=
  run_project (π := gateway) gateway_step s ops

omit [JsonText] [RustDecimal] [Serde] in
/-- Publishing leaves the registry alone. -/
theorem subscriptions_of_actorless {op : GatewayOp} (h : op.actor = none) (g : Gateway) :
    (g.step op).subscriptions = g.subscriptions := by
  cases op with
  | number event => rfl
  | route => rfl
  | connect | incoming | updateRoutes | reply | deliver | lag | shutdown | removeClient
  | cleanupClient | dropFeed => cases h

/-- The runtime sees a step of a supervisor as steps of its task. -/
theorem taskOps_task (s : System) (op : SystemOp) :
    ∀ o ∈ s.taskOps op, ∃ k t, o = RuntimeOp.task k t := by
  intro o ho
  cases op with
  | task k op =>
    simp only [taskOps] at ho
    split at ho
    · exact ⟨k, op, List.mem_singleton.mp ho⟩
    · cases ho
  | finish k now written =>
    simp only [taskOps] at ho
    split at ho
    · exact ⟨k, _, List.mem_singleton.mp ho⟩
    · cases ho
  | client op | receive k receivedAtMs message | number k | route => cases ho

/-- Registry operations only change the registry, … -/
theorem run_registry (r : Runtime configuredAdapter) (ops : List RegistryOp) :
    run Runtime.step r (ops.map .registry) =
      { r with registry := run SubscriptionRegistry.step r.registry ops } := by
  induction ops generalizing r with
  | nil => rfl
  | cons op ops ih =>
    rw [List.map_cons, run_cons, ih]
    rfl

/-- … and supervisors only read it. -/
theorem run_tasks_registry (r : Runtime configuredAdapter) {ops : List RuntimeOp}
    (hOps : ∀ o ∈ ops, ∃ k t, o = RuntimeOp.task k t) :
    (run Runtime.step r ops).registry = r.registry := by
  refine run_invariant_of_allSteps (C := fun _ o => ∃ k t, o = RuntimeOp.task k t)
    (P := fun r' : Runtime configuredAdapter => r'.registry = r.registry) ?_ rfl
    (allSteps_of_mem hOps _)
  rintro r' _ ⟨k, t, rfl⟩ hr
  exact hr

/-- What a step of the system does to the runtime. -/
theorem runtime_step (s : System) (op : SystemOp) :
    (s.step op).runtime = run Runtime.step s.runtime (s.runtimeOps op) := by
  -- a step that leaves the registry alone is a step of the supervisors
  have hSide : (s.step op).gateway.subscriptions = s.gateway.subscriptions →
      (s.step op).runtime = run Runtime.step s.runtime (s.taskOps op) := by
    intro hKept
    have hSame : (run Runtime.step s.runtime (s.taskOps op)).registry =
        s.gateway.subscriptions := run_tasks_registry _ (s.taskOps_task op)
    show Runtime.mk _ _ _ = _
    rw [hKept, ← hSame]
    rfl
  cases op with
  | client op =>
    show Runtime.mk (run Gateway.step s.gateway (s.gatewayOps (.client op))).subscriptions
      s.health s.tasks = _
    simp only [runtimeOps, gatewayOps]
    split
    · rw [run_registry, run_cons, run_nil, subscriptions_step]
      rfl
    · rfl
  | task k op => exact hSide rfl
  | finish k now written => exact hSide rfl
  | receive k receivedAtMs message => exact hSide rfl
  | number k =>
    refine hSide ?_
    rw [gateway_step, gatewayOps]
    cases s.publishing k with
    | none => rfl
    | some next => exact subscriptions_of_actorless rfl _
  | route => exact hSide (subscriptions_of_actorless rfl _)

/-- **The upstream side.** -/
theorem runtime_after (s : System) (ops : List SystemOp) :
    (run step s ops).runtime = run Runtime.step s.runtime (trace step runtimeOps s ops) :=
  run_project (π := runtime) runtime_step s ops

/-- The runtime only ever sees canonical keys. -/
theorem runtimeOps_canonical (s : System) (op : SystemOp) :
    ∀ o ∈ s.runtimeOps op, o.Canonical := by
  -- a supervisor reads the registry and never asks it for keys
  have hSide : ∀ o ∈ s.taskOps op, o.Canonical := by
    intro o ho
    obtain ⟨k, t, rfl⟩ := s.taskOps_task op o ho
    trivial
  cases op with
  | client op =>
    intro o ho
    simp only [runtimeOps] at ho
    split at ho
    · obtain ⟨r, hr, rfl⟩ := List.mem_map.mp ho
      exact registryOps_canonical s.gateway op r hr
    · cases ho
  | task k op => exact hSide
  | finish k now written => exact hSide
  | receive k receivedAtMs message => exact hSide
  | number k => exact hSide
  | route => exact hSide

/-! ### What carries over -/

section Invariants

variable (config : ApiConfig) (epoch : Uuid) (capacity maxClients maxPerClient : Nat)
  (limits : ProviderLimits) (ops : List SystemOp)

/-- Sessions, registry and hub agree in every run of the system. -/
theorem agreement_after :
    Agreement
      (run step (start config epoch capacity maxClients maxPerClient limits) ops).gateway := by
  rw [gateway_after]
  exact run_invariant (P := Agreement) (fun _ op hAgree => agreement_step hAgree op)
    (agreement_start config epoch capacity maxClients maxPerClient limits) _

/-- The runtime operations of a run of the system. -/
def runtimeRun : List RuntimeOp :=
  trace step runtimeOps (start config epoch capacity maxClients maxPerClient limits) ops

/-- The steps of the runtime in a run of the system are canonical. -/
theorem runtimeRun_canonical :
    ∀ o ∈ runtimeRun config epoch capacity maxClients maxPerClient limits ops, o.Canonical := by
  intro o ho
  obtain ⟨earlier, op, later, -, hOp⟩ := mem_trace.mp ho
  exact runtimeOps_canonical _ op o hOp

/-- Every supervisor is in step with its share and reports truly, in every run
of the system. -/
theorem supervisors_after :
    let s := run step (start config epoch capacity maxClients maxPerClient limits) ops
    s.runtime.Invariant ∧
    s.runtime.LiveAligned (snapshots (Runtime.spawn (.withProviderLimits maxPerClient limits))
      (runtimeRun config epoch capacity maxClients maxPerClient limits ops)) := by
  intro s
  have hRun : s.runtime = run Runtime.step (Runtime.spawn (.withProviderLimits maxPerClient limits))
      (runtimeRun config epoch capacity maxClients maxPerClient limits ops) := runtime_after _ ops
  rw [hRun]
  refine ⟨run_invariant (fun s op => Runtime.invariant_step op) (Runtime.invariant_spawn _) _, ?_⟩
  exact run_trace_invariant_of_allSteps (C := fun _ (op : RuntimeOp) => op.Canonical)
    (R := Runtime.LiveAligned) (fun s op seen hOp h => runtime_step_live h hOp)
    ⟨aligned_spawn maxPerClient limits, fun _ => trivial⟩
    (allSteps_of_mem (runtimeRun_canonical config epoch capacity maxClients maxPerClient limits
      ops) _)

end Invariants

end System

end

end MarketStreamGateway
