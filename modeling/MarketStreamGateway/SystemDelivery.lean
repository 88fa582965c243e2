import MarketStreamGateway.System
import MarketStreamGateway.Runtime.Calls

/-!
# Market Stream Gateway — from a frame to a client

What happens to an event between the frame a supervisor reads it from and the
socket of a client, with every other supervisor and session running in between.

`taken` are the valid events of the frames read, `handed` the ones numbered by
the hub, both with the endpoint they come from; `seen` is what an observer of
the hub sees.

Main results:
* `published_exactly_once` — the published events are the events read, merged in
  the order in which `publish_order` was taken and numbered from one: none is
  lost, doubled or overtaken by a later one of its endpoint.
* `delivered_is_read` — every event a client is sent was read from a frame of an
  open connection, parsed, validated and stamped there, and was wanted by the
  client when it was published; a client whose feed never overran has every one.
-/

namespace MarketStreamGateway

open Lib

/-! ## Numbering -/

/-- Events numbered consecutively. -/
def stamped (epoch : Uuid) (first : Nat) (events : List ProviderEvent) : List MarketEvent :=
  (events.zipIdx first).map fun numbered => numbered.1.intoMarketEvent epoch numbered.2

/-- The last of some stamped events takes the next number. -/
theorem stamped_concat (epoch : Uuid) (first : Nat) (events : List ProviderEvent)
    (event : ProviderEvent) :
    stamped epoch first (events ++ [event]) =
      stamped epoch first events ++ [event.intoMarketEvent epoch (first + events.length)] := by
  simp [stamped, List.zipIdx_append]

/-- A stamped event is one of the events with some number. -/
theorem mem_stamped {epoch : Uuid} {first : Nat} {events : List ProviderEvent} {e : MarketEvent}
    (h : e ∈ stamped epoch first events) :
    ∃ event ∈ events, ∃ sequence, e = event.intoMarketEvent epoch sequence := by
  obtain ⟨⟨event, sequence⟩, hMem, rfl⟩ := List.mem_map.mp h
  exact ⟨event, List.fst_mem_of_mem_zipIdx hMem, sequence, rfl⟩

/-- The events of one endpoint. -/
def eventsOf (k : EndpointKey) (events : List (EndpointKey × ProviderEvent)) :
    List ProviderEvent :=
  events.filterMap fun e => if e.1 = k then some e.2 else none

/-- The events of an endpoint, out of those that all came from one endpoint. -/
theorem eventsOf_map (k k' : EndpointKey) (events : List ProviderEvent) :
    eventsOf k (events.map (k', ·)) = if k' = k then events else [] := by
  unfold eventsOf
  rw [List.filterMap_map]
  split
  · next hKey => simp [hKey]
  · next hKey => simp [hKey]

/-- The events of an endpoint are those handed over under its name. -/
theorem mem_eventsOf {k : EndpointKey} {events : List (EndpointKey × ProviderEvent)}
    {event : ProviderEvent} : event ∈ eventsOf k events ↔ (k, event) ∈ events := by
  unfold eventsOf
  rw [List.mem_filterMap]
  constructor
  · rintro ⟨⟨k', event'⟩, hMem, hSome⟩
    split at hSome
    · next hKey =>
      obtain rfl := Option.some.inj hSome
      obtain rfl : k' = k := hKey
      exact hMem
    · cases hSome
  · intro hMem
    exact ⟨(k, event), hMem, if_pos rfl⟩

/-! ## Steps that publish nothing -/

/-- A hub operation of a session does not touch the publication. -/
theorem quiet_step {op : HubOp} (h : GatewayHub) (hQuiet : ¬ op.Publishes) :
    (h.step op).inFlight = h.inFlight ∧
    (h.step op).nextDeliverySequence = h.nextDeliverySequence ∧
    (h.step op).streamEpoch = h.streamEpoch ∧ published (h.observe op) = [] := by
  cases op with
  | register client =>
    simp only [GatewayHub.step, GatewayHub.observe, GatewayHub.tryRegisterClient]
    split <;> exact ⟨rfl, rfl, rfl, rfl⟩
  | update client subscriptions =>
    obtain ⟨-, -, hFlight, hNext⟩ := updateClientSubscriptions_frame h client subscriptions
    exact ⟨hFlight, hNext, streamEpoch_step h (.update client subscriptions), rfl⟩
  | remove client => exact ⟨rfl, rfl, rfl, rfl⟩
  | receive feed => exact ⟨rfl, rfl, rfl, rfl⟩
  | dropReceiver feed => exact ⟨rfl, rfl, rfl, rfl⟩
  | number event => exact absurd trivial hQuiet
  | route => exact absurd trivial hQuiet

/-- Hub steps that publish nothing leave the numbering and what is in flight alone. -/
theorem quiet_run {ops : List HubOp} (h : GatewayHub) (hQuiet : ∀ op ∈ ops, ¬ op.Publishes) :
    (run GatewayHub.step h ops).inFlight = h.inFlight ∧
    (run GatewayHub.step h ops).nextDeliverySequence = h.nextDeliverySequence ∧
    (run GatewayHub.step h ops).streamEpoch = h.streamEpoch ∧
    published (trace GatewayHub.step GatewayHub.observe h ops) = [] := by
  induction ops generalizing h with
  | nil => exact ⟨rfl, rfl, rfl, rfl⟩
  | cons op ops ih =>
    obtain ⟨hFlight, hNext, hEpoch, hSeen⟩ := quiet_step h (hQuiet op List.mem_cons_self)
    obtain ⟨hFlight', hNext', hEpoch', hSeen'⟩ :=
      ih (h.step op) fun o ho => hQuiet o (List.mem_cons_of_mem _ ho)
    rw [run_cons, trace, published_append, hSeen, hSeen']
    exact ⟨hFlight'.trans hFlight, hNext'.trans hNext, hEpoch'.trans hEpoch, rfl⟩

/-- Sessions do not publish. -/
theorem hubOps_quiet {s : Gateway} {op : GatewayOp} (hActor : op.actor.isSome) :
    ∀ o ∈ s.hubOps op, ¬ o.Publishes := by
  intro o ho
  -- only numbering and routing publish, and no client does either
  cases op with
  | number event => cases hActor
  | route => cases hActor
  | connect client helloSent =>
    simp only [Gateway.hubOps] at ho
    split at ho
    · cases ho
    · rw [List.mem_singleton.mp ho]
      exact id
  | deliver client sent =>
    simp only [Gateway.hubOps] at ho
    split at ho
    · split at ho
      · unfold Gateway.deliverEvent at ho
        split at ho
        · rw [List.mem_singleton.mp ho]
          exact id
        · cases ho
      · cases ho
    · cases ho
  | updateRoutes client | removeClient client | dropFeed client =>
    simp only [Gateway.hubOps] at ho
    split at ho
    · rw [List.mem_singleton.mp ho]
      exact id
    · cases ho
  | incoming | reply | lag | shutdown | cleanupClient => cases ho

/-! ## The events in hand -/

namespace System

variable [Unicode] [JsonText] [RustDecimal] [Serde]

/-- The events a step reads from a frame. -/
def taken (s : System) : SystemOp → List (EndpointKey × ProviderEvent)
  | .receive k receivedAtMs message =>
    match s.selecting k with
    | some c => (c.extract receivedAtMs message).map (k, ·)
    | none => []
  | .client _ | .task _ _ | .number _ | .route | .finish _ _ _ => []

/-- The event a step hands to the hub. -/
def handed (s : System) : SystemOp → List (EndpointKey × ProviderEvent)
  | .number k =>
    match s.publishing k with
    | some (event, _) => [(k, event)]
    | none => []
  | .client _ | .task _ _ | .receive _ _ _ | .route | .finish _ _ _ => []

/-- The events of the frame a supervisor is in the middle of. -/
def pending (s : System) (k : EndpointKey) : List ProviderEvent :=
  match s.processing k with
  | some p => p.events
  | none => []

/-- What an observer of the hub sees of a step. -/
def seen (s : System) (op : SystemOp) : List HubObservation :=
  gatewaySeen s.gateway (s.gatewayOps op)

/-- A supervisor that selects is in its loop with nothing in hand. -/
theorem processing_of_selecting {s : System} {k : EndpointKey}
    {c : Connection (configuredAdapter k.1)} (h : s.selecting k = some c) :
    s.processing k = none ∧ (s.tasks k).phase = .looping c := by
  unfold selecting at h
  split at h
  · next hNone hPhase =>
    obtain rfl := Option.some.inj h
    exact ⟨hNone, hPhase⟩
  · cases h

/-- An event that is next to be published is the first in hand, and nobody else
is publishing. -/
theorem processing_of_publishing {s : System} {k : EndpointKey} {event : ProviderEvent}
    {p : Processing} (h : s.publishing k = some (event, p)) :
    s.publisher = none ∧
      s.processing k = some ⟨p.receivedAtMs, p.message, event :: p.events⟩ := by
  unfold publishing at h
  split at h
  · next hFree hSome =>
    obtain ⟨rfl, rfl⟩ := Prod.mk.inj (Option.some.inj h)
    exact ⟨hFree, hSome⟩
  · cases h

/-- A frame is finished with no events left and the order given back. -/
theorem processing_of_finishing {s : System} {k : EndpointKey} {p : Processing}
    (h : s.finishing k = some p) :
    s.processing k = some p ∧ p.events = [] ∧ s.publisher ≠ some k := by
  unfold finishing at h
  split at h
  · next p' hSome =>
    split at h
    · next hDone =>
      obtain rfl := Option.some.inj h
      simp only [Bool.and_eq_true, List.isEmpty_iff, decide_eq_true_eq] at hDone
      exact ⟨hSome, hDone⟩
    · cases h
  · cases h

/-- What the endpoints have in hand after a step. -/
theorem step_processing (s : System) (op : SystemOp) :
    (s.step op).processing = s.nextProcessing op := rfl

/-- What a step reads is held until it is handed on, in order. -/
theorem pending_step (s : System) (op : SystemOp) (k : EndpointKey) :
    s.pending k ++ eventsOf k (s.taken op) =
      eventsOf k (s.handed op) ++ (s.step op).pending k := by
  -- a step that neither takes a frame nor hands an event on
  have hIdle : s.nextProcessing op = s.processing → s.taken op = [] → s.handed op = [] →
      s.pending k ++ eventsOf k (s.taken op) =
        eventsOf k (s.handed op) ++ (s.step op).pending k := by
    intro hSame hTaken hHanded
    unfold pending
    rw [hTaken, hHanded, step_processing, hSame]
    exact List.append_nil _
  cases op with
  | client op => exact hIdle rfl rfl rfl
  | task k' op => exact hIdle rfl rfl rfl
  | route => exact hIdle rfl rfl rfl
  | receive k' receivedAtMs message =>
    cases hSelect : s.selecting k' with
    | none => exact hIdle (by simp [nextProcessing, hSelect]) (by simp [taken, hSelect]) rfl
    | some c =>
      -- the endpoint had nothing in hand and now has what the message holds
      have hNone := (processing_of_selecting hSelect).1
      have hNext : (s.step (.receive k' receivedAtMs message)).processing =
          Function.update s.processing k'
            (some ⟨receivedAtMs, message, c.extract receivedAtMs message⟩) := by
        simp [step_processing, nextProcessing, hSelect]
      have hTaken : s.taken (.receive k' receivedAtMs message) =
          (c.extract receivedAtMs message).map (k', ·) := by
        simp [taken, hSelect]
      have hHanded : s.handed (.receive k' receivedAtMs message) = [] := rfl
      unfold pending
      rw [hNext, hTaken, hHanded, eventsOf_map]
      by_cases hKey : k = k'
      · subst hKey
        rw [hNone, Function.update_self, if_pos rfl]
        rfl
      · rw [Function.update_of_ne hKey, if_neg fun hEq => hKey hEq.symm]
        exact List.append_nil _
  | number k' =>
    cases hPublish : s.publishing k' with
    | none => exact hIdle (by simp [nextProcessing, hPublish]) rfl (by simp [handed, hPublish])
    | some next =>
      obtain ⟨event, p⟩ := next
      -- the first event goes from the hand to the hub
      have hSome := (processing_of_publishing hPublish).2
      have hNext : (s.step (.number k')).processing =
          Function.update s.processing k' (some p) := by
        simp [step_processing, nextProcessing, hPublish]
      have hHanded : s.handed (.number k') = [event].map (k', ·) := by simp [handed, hPublish]
      have hTaken : s.taken (.number k') = [] := rfl
      unfold pending
      rw [hNext, hTaken, hHanded, eventsOf_map]
      by_cases hKey : k = k'
      · subst hKey
        rw [hSome, Function.update_self, if_pos rfl]
        exact List.append_nil _
      · rw [Function.update_of_ne hKey, if_neg fun hEq => hKey hEq.symm]
        exact List.append_nil _
  | finish k' now written =>
    cases hFinish : s.finishing k' with
    | none => exact hIdle (by simp [nextProcessing, hFinish]) rfl rfl
    | some p =>
      obtain ⟨hSome, hDone, -⟩ := processing_of_finishing hFinish
      have hNext : (s.step (.finish k' now written)).processing =
          Function.update s.processing k' none := by
        simp [step_processing, nextProcessing, hFinish]
      have hTaken : s.taken (.finish k' now written) = [] := rfl
      have hHanded : s.handed (.finish k' now written) = [] := rfl
      unfold pending
      rw [hNext, hTaken, hHanded]
      by_cases hKey : k = k'
      · subst hKey
        rw [hSome, Function.update_self]
        exact (List.append_nil _).trans hDone
      · rw [Function.update_of_ne hKey]
        exact List.append_nil _

/-! ## Publication -/

/-- The published events and the one in flight are the first of the events
handed over, as many as there are numbers for. -/
structure Publication (epoch : Uuid) (s : System) (handed : List (EndpointKey × ProviderEvent))
    (seen : List HubObservation) : Prop where
  stream : published seen ++ s.gateway.hub.inFlight.toList =
    stamped epoch 1 ((handed.map Prod.snd).take (u64Max - 1))
  next : s.gateway.hub.nextDeliverySequence = min handed.length (u64Max - 1) + 1
  epoch : s.gateway.hub.streamEpoch = epoch
  lock : s.publisher.isSome = s.gateway.hub.inFlight.isSome

/-- A step that the gateway sees as one operation shows the hub what that
operation shows it. -/
theorem hub_of_gatewayOps (s : System) (op : SystemOp) {o : GatewayOp}
    (h : s.gatewayOps op = [o]) :
    (s.step op).gateway.hub = run GatewayHub.step s.gateway.hub (s.gateway.hubOps o) ∧
    s.seen op = trace GatewayHub.step GatewayHub.observe s.gateway.hub (s.gateway.hubOps o) := by
  rw [gateway_step, seen, h]
  refine ⟨rfl, ?_⟩
  rw [gatewaySeen, trace, trace, List.append_nil]

variable {epoch : Uuid} {s : System} {handed : List (EndpointKey × ProviderEvent)}
  {seen : List HubObservation}

/-- A step that neither hands an event over nor routes one. -/
theorem Publication.quiet (h : Publication epoch s handed seen) {op : SystemOp}
    (hHanded : s.handed op = []) (hPublisher : (s.step op).publisher = s.publisher)
    (hOps : s.gatewayOps op = [] ∨
      ∃ o, s.gatewayOps op = [o] ∧ ∀ q ∈ s.gateway.hubOps o, ¬ q.Publishes) :
    Publication epoch (s.step op) (handed ++ s.handed op) (seen ++ s.seen op) := by
  obtain ⟨hFlight, hNext, hEpoch, hSeen⟩ :
      (s.step op).gateway.hub.inFlight = s.gateway.hub.inFlight ∧
      (s.step op).gateway.hub.nextDeliverySequence = s.gateway.hub.nextDeliverySequence ∧
      (s.step op).gateway.hub.streamEpoch = s.gateway.hub.streamEpoch ∧
      published (s.seen op) = [] := by
    -- the hub does nothing, or nothing that publishes
    rcases hOps with hNone | ⟨o, hOne, hQuiet⟩
    · rw [gateway_step, System.seen, hNone]
      exact ⟨rfl, rfl, rfl, rfl⟩
    · obtain ⟨hHub, hSeen⟩ := hub_of_gatewayOps s op hOne
      rw [hHub, hSeen]
      exact quiet_run _ hQuiet
  constructor
  · rw [published_append, hSeen, List.append_nil, hFlight, hHanded, List.append_nil]
    exact h.stream
  · rw [hNext, hHanded, List.append_nil]
    exact h.next
  · rw [hEpoch]
    exact h.epoch
  · rw [hPublisher, hFlight]
    exact h.lock

/-- The holder of `publish_order` routes its event. -/
theorem Publication.route (h : Publication epoch s handed seen) :
    Publication epoch (s.step .route) (handed ++ s.handed .route) (seen ++ s.seen .route) := by
  obtain ⟨hHub, hSeen⟩ := hub_of_gatewayOps s .route rfl
  have hHub : (s.step .route).gateway.hub = s.gateway.hub.step .route := hHub
  have hSeen : s.seen .route = s.gateway.hub.observe .route := by
    rw [hSeen]
    exact List.append_nil _
  have hHanded : s.handed .route = [] := rfl
  have hPublisher : (s.step .route).publisher = none := rfl
  rw [hHanded, List.append_nil]
  cases hFlight : s.gateway.hub.inFlight with
  | none =>
    have hSame : s.gateway.hub.step .route = s.gateway.hub := by simp [GatewayHub.step, hFlight]
    have hNothing : s.seen .route = [] := by simp [hSeen, GatewayHub.observe, hFlight]
    constructor
    · rw [hHub, hSame, hNothing, List.append_nil]
      exact h.stream
    · rw [hHub, hSame]
      exact h.next
    · rw [hHub, hSame]
      exact h.epoch
    · rw [hPublisher, hHub, hSame, hFlight]
      rfl
  | some event =>
    have hStep : s.gateway.hub.step .route =
        { s.gateway.hub.routeEvent event with inFlight := none } := by
      simp only [GatewayHub.step, hFlight]
    have hEvent : published (s.seen .route) = [event] := by
      simp [hSeen, GatewayHub.observe, hFlight, published]
    constructor
    · have hStream := h.stream
      rw [hFlight] at hStream
      rw [published_append, hEvent, hHub, hStep]
      exact (List.append_nil _).trans hStream
    · rw [hHub, hStep]
      exact h.next
    · rw [hHub, hStep]
      exact h.epoch
    · rw [hPublisher, hHub, hStep]
      rfl

/-- A supervisor hands an event over: it gets the next number, or is dropped if
there is none left. -/
theorem Publication.number (h : Publication epoch s handed seen) {k : EndpointKey}
    {event : ProviderEvent} {p : Processing} (hPublish : s.publishing k = some (event, p)) :
    Publication epoch (s.step (.number k)) (handed ++ s.handed (.number k))
      (seen ++ s.seen (.number k)) := by
  have hOps : s.gatewayOps (.number k) = [.number event] := by simp [gatewayOps, hPublish]
  obtain ⟨hHub, hSeen⟩ := hub_of_gatewayOps s (.number k) hOps
  have hHub : (s.step (.number k)).gateway.hub = s.gateway.hub.step (.number event) := hHub
  have hSeen : s.seen (.number k) = [] := hSeen
  have hHanded : s.handed (.number k) = [(k, event)] := by simp [System.handed, hPublish]
  have hPublisher : (s.step (.number k)).publisher =
      if (s.step (.number k)).gateway.hub.inFlight.isSome then some k else none := by
    show s.nextPublisher (s.step (.number k)).gateway (.number k) = _
    simp only [nextPublisher, hPublish]
  -- the publisher has the lock, so nothing is in flight
  have hFree : s.gateway.hub.inFlight = none := by
    have hLock := h.lock
    rw [(processing_of_publishing hPublish).1] at hLock
    exact Option.isNone_iff_eq_none.mp (by simpa using hLock.symm)
  have hLock : (s.step (.number k)).publisher.isSome =
      (s.step (.number k)).gateway.hub.inFlight.isSome := by
    rw [hPublisher]
    split
    · next hSome => exact hSome.symm
    · next hNone => exact (Bool.eq_false_iff.mpr hNone).symm
  have hStream := h.stream
  rw [hFree, Option.toList_none, List.append_nil] at hStream
  rw [hHanded, hSeen, List.append_nil]
  by_cases hFull : s.gateway.hub.nextDeliverySequence ≥ u64Max
  · -- no number is left: the event is dropped
    have hSame : s.gateway.hub.step (.number event) = s.gateway.hub := by
      simp [GatewayHub.step, GatewayHub.numberEvent, hFree, hFull]
    have hLong : u64Max - 1 ≤ handed.length := by
      have hNext := h.next
      omega
    refine ⟨?_, ?_, ?_, hLock⟩
    · rw [hHub, hSame, hFree, Option.toList_none, List.append_nil, hStream, List.map_append,
        List.take_append_of_le_length (by simpa using hLong)]
    · rw [hHub, hSame, h.next, List.length_append]
      omega
    · rw [hHub, hSame]
      exact h.epoch
  · have hStep : s.gateway.hub.step (.number event) =
        { s.gateway.hub with
          nextDeliverySequence := s.gateway.hub.nextDeliverySequence + 1
          inFlight := some (event.intoMarketEvent epoch s.gateway.hub.nextDeliverySequence) } := by
      simp [GatewayHub.step, GatewayHub.numberEvent, hFree, hFull, h.epoch]
    have hNext := h.next
    -- numbers are left, so every event handed over so far has one
    have hShort : handed.length < u64Max - 1 := by omega
    refine ⟨?_, ?_, ?_, hLock⟩
    · rw [hHub, hStep]
      dsimp only
      rw [hStream, List.take_of_length_le (by simpa using hShort.le),
        List.take_of_length_le (by rw [List.length_map, List.length_append]; exact hShort),
        List.map_append, List.map_singleton,
        stamped_concat, List.length_map, hNext, Nat.min_eq_left hShort.le, Nat.add_comm]
      rfl
    · rw [hHub, hStep]
      dsimp only
      rw [hNext, List.length_append, List.length_singleton]
      omega
    · rw [hHub, hStep]
      exact h.epoch

/-- A step of the system keeps the account of what has been published. -/
theorem publication_step (h : Publication epoch s handed seen) (op : SystemOp) :
    Publication epoch (s.step op) (handed ++ s.handed op) (seen ++ s.seen op) := by
  cases op with
  | client op =>
    refine h.quiet rfl rfl ?_
    by_cases hActor : op.actor.isSome
    · exact Or.inr ⟨op, if_pos hActor, hubOps_quiet hActor⟩
    · exact Or.inl (if_neg hActor)
  | task k op => exact h.quiet rfl rfl (Or.inl rfl)
  | receive k receivedAtMs message => exact h.quiet rfl rfl (Or.inl rfl)
  | finish k now written => exact h.quiet rfl rfl (Or.inl rfl)
  | route => exact h.route
  -- without an event to publish the lock is not asked for
  | number k =>
    cases hPublish : s.publishing k with
    | none =>
      refine h.quiet ?_ ?_ (Or.inl ?_)
      · simp [System.handed, hPublish]
      · show s.nextPublisher _ (.number k) = _
        simp [nextPublisher, hPublish]
      · simp [gatewayOps, hPublish]
    | some next => exact h.number hPublish

/-- What an observer of the hub sees of a run of the system. -/
theorem seen_after (s : System) (ops : List SystemOp) :
    trace step System.seen s ops = gatewaySeen s.gateway (trace step gatewayOps s ops) := by
  induction ops generalizing s with
  | nil => rfl
  | cons op ops ih =>
    rw [trace, trace, ih, System.seen, gateway_step, gatewaySeen, gatewaySeen, gatewaySeen,
      trace_append, trace_append, hub_after]

end System

/-! ## What a client is sent -/

/-- Short of a new registration, a feed is owed published events only. -/
theorem owed_sublist (feed : FeedId) (seen : List HubObservation) :
    (registration feed seen).owed.Sublist (published seen) := by
  induction seen using List.reverseRecOn with
  | nil => exact List.Sublist.refl _
  | append_singleton seen o ih =>
    rw [registration_append, published_append, List.foldl_cons, List.foldl_nil]
    have hKept := ih.trans (List.sublist_append_left _ (published [o]))
    cases o with
    | registered client f =>
      simp only [Registration.observe]
      split
      · exact List.nil_sublist _
      · split <;> exact hKept
    | updated client subscriptions =>
      simp only [Registration.observe]
      split <;> exact hKept
    | removed client =>
      simp only [Registration.observe]
      split <;> exact hKept
    -- an event may be owed; a new registration forgets what was
    | published event =>
      simp only [Registration.observe]
      split
      · exact ih.append (List.Sublist.refl [event])
      · exact hKept

/-- The hub and every queue of it: nothing but wanted events, in order. -/
structure InOrder (h : GatewayHub) (seen : List HubObservation) : Prop where
  consistent : Consistent h seen
  sound : ∀ feed, (h.feeds feed).Sound
  ordered : ∀ feed, (h.feeds feed).enqueued.Sublist (registration feed seen).owed

/-- A new hub has everything in order. -/
theorem inOrder_init (epoch : Uuid) (capacity maxClients : Nat) :
    InOrder (.withClientLimit epoch capacity maxClients) [] :=
  ⟨consistent_init epoch capacity maxClients, fun _ => Feed.sound_channel capacity,
    fun _ => List.nil_sublist _⟩

/-- A hub step keeps the order. -/
theorem inOrder_step {h : GatewayHub} {seen : List HubObservation} (hOrder : InOrder h seen)
    (op : HubOp) : InOrder (h.step op) (seen ++ h.observe op) := by
  have hCon := hOrder.consistent
  refine ⟨consistent_step hCon op, sound_step hCon.invariant hOrder.sound op, fun feed => ?_⟩
  rw [registration_append]
  rcases enqueued_step_cases hCon.invariant feed op with
    ⟨hSame, hOther⟩ | ⟨-, hNew⟩ | ⟨event, c, hSeen, hc, hKey, hAppended⟩
  · rw [hSame]
    exact (hOrder.ordered feed).trans (owed_foldl_isPrefix hOther _).sublist
  · rw [hNew]
    exact List.nil_sublist _
  · have hHolder := (hCon.delivery feed).holder c hc
    have hMatch : (registration feed seen).holder.isSome ∧
        event.subscriptionKey ∈ (registration feed seen).wanted :=
      ⟨by rw [hHolder]; rfl, (hCon.delivery feed).wanted c hc hKey⟩
    rw [hAppended, hSeen, List.foldl_cons, List.foldl_nil, Registration.observe, if_pos hMatch]
    exact (hOrder.ordered feed).append (List.Sublist.refl [event])

/-- A session's frames against its registration: what it was sent was wanted
and is in order, and without an overrun nothing is missing. -/
theorem sentEvents_owed [Unicode] {s : Gateway} {seen : List HubObservation} (h : Agreement s)
    (hOrder : InOrder s.hub seen) {client : ClientId} {x : Session}
    (hx : s.sessions client = some x) :
    x.sentEvents.Sublist (registration x.feed seen).owed ∧
    (x.phase.InLoop → (s.hub.feeds x.feed).lagged = 0 →
      x.sentEvents ++ (s.hub.feeds x.feed).buffer = (registration x.feed seen).owed) := by
  have hSound := hOrder.sound x.feed
  refine ⟨?_, fun hLoop hLag => ?_⟩
  · have hTaken := (h.session.sent client x hx).trans hSound.received
    exact hTaken.sublist.trans (hOrder.ordered x.feed)
  · have hClient := h.clients client
    rw [hx] at hClient
    have hRouted : x.phase.Routed := by
      cases hPhase : x.phase <;> rw [hPhase] at hLoop <;> trivial
    obtain ⟨hHandle, hAlive⟩ := hClient.routed hRouted
    rw [h.session.inLoop client x hx hLoop, ← hSound.opened hAlive]
    exact ((hOrder.consistent.delivery x.feed).owed client hHandle hLag).2

/-! ## Where the events come from -/

section Origin

variable [Unicode] [JsonText] [RustDecimal] [Serde]

/-- The envelope of every event a session emits. -/
theorem parse_envelope {provider : Provider} {s : (configuredAdapter provider).Session}
    {text : Text} {receivedAtMs : Nat} {events : List ProviderEvent}
    (h : ((configuredAdapter provider).parse s text receivedAtMs).1 = .ok (.events events))
    {event : ProviderEvent} (hEvent : event ∈ events) :
    event.provider = provider ∧ event.connectionEpoch = sessionEpoch provider s ∧
      event.gatewayReceivedTimeMs = receivedAtMs := by
  rcases Reading.handle_events provider _ _ (parse_events h) with ⟨items, -, rfl⟩ | hAll
  · obtain ⟨item, -, rfl⟩ := List.mem_map.mp hEvent
    exact ⟨rfl, rfl, rfl⟩
  · obtain ⟨i, hi⟩ := List.mem_iff_getElem?.mp hEvent
    obtain ⟨u, -, hEpoch, hProvider, -, -, hReceived, -⟩ := hAll i event hi
    exact ⟨hProvider, hEpoch, hReceived⟩

/-- The run read the event from a text frame of a connection open at the time:
its session parsed it, it is valid, and it carries the provider, the epoch and
the receive time of the frame. -/
def System.Reads (start : System) (ops : List SystemOp) (k : EndpointKey)
    (event : ProviderEvent) : Prop :=
  ∃ earlier receivedAtMs text later c events,
    ops = earlier ++ .receive k receivedAtMs (.text (.ok text)) :: later ∧
    ((run System.step start earlier).tasks k).phase = .looping c ∧ c.Called k.2 ∧
    ((configuredAdapter k.1).parse c.session text receivedAtMs).1 = .ok (.events events) ∧
    event ∈ events ∧ event.validate = .ok () ∧ event.provider = k.1 ∧
    event.connectionEpoch = c.epoch ∧ event.gatewayReceivedTimeMs = receivedAtMs

omit [Unicode] [JsonText] [Serde] in
/-- An event that is extracted stands in the text of the message, and validates. -/
theorem mem_extract {a : ProviderAdapter} {c : Connection a} {receivedAtMs : Nat}
    {message : UpstreamMessage} {event : ProviderEvent}
    (h : event ∈ c.extract receivedAtMs message) :
    ∃ text events, message = .text (.ok text) ∧
      (a.parse c.session text receivedAtMs).1 = .ok (.events events) ∧ event ∈ events ∧
      event.validate = .ok () := by
  unfold Connection.extract at h
  split at h
  · next text =>
    split at h
    · next events hParse =>
      -- only what validation accepts is taken
      obtain ⟨hMem, hAccepted⟩ := List.mem_filter.mp h
      refine ⟨text, events, rfl, hParse, hMem, ?_⟩
      unfold Connection.accepted at hAccepted
      split at hAccepted
      · next hValid => exact hValid
      · cases hAccepted
    · cases h
  · cases h

/-- Whatever is taken was read so. -/
theorem System.reads_of_taken (registry : SubscriptionRegistry) {start : System}
    (hStart : start.runtime = Runtime.spawn registry) {ops : List SystemOp} {k : EndpointKey}
    {event : ProviderEvent} (h : (k, event) ∈ trace System.step System.taken start ops) :
    start.Reads ops k event := by
  obtain ⟨earlier, op, later, rfl, hTaken⟩ := mem_trace.mp h
  cases op with
  | receive k' receivedAtMs message =>
    simp only [System.taken] at hTaken
    split at hTaken
    · next c hSelect =>
      obtain ⟨event', hExtract, hEq⟩ := List.mem_map.mp hTaken
      obtain ⟨rfl, rfl⟩ := Prod.mk.inj hEq
      obtain ⟨text, events, rfl, hParse, hMem, hValid⟩ := mem_extract hExtract
      have hPhase := (processing_of_selecting hSelect).2
      -- the session of the loop is one that its own calls have led to
      have hCalled : c.Called k'.2 := by
        refine session_calls registry (trace System.step System.runtimeOps start earlier) k' c ?_
        rw [← hStart, ← System.runtime_after]
        exact congrArg Phase.connection hPhase
      obtain ⟨hProvider, hEpoch, hReceived⟩ := parse_envelope hParse hMem
      exact ⟨earlier, receivedAtMs, text, later, c, events, rfl, hPhase, hCalled, hParse, hMem,
        hValid, hProvider, hEpoch.trans hCalled.sessionEpoch, hReceived⟩
    · cases hTaken
  | client op | task k' op | number k' | route | finish k' now written => cases hTaken

end Origin

/-! ## Runs -/

section Runs

variable [Unicode] [JsonText] [RustDecimal] [Serde] (config : ApiConfig) (epoch : Uuid)
  (capacity maxClients maxPerClient : Nat) (limits : ProviderLimits) (ops : List SystemOp)

/-- Whatever is run, what was handed over and what was published agree. -/
theorem publication_after :
    let start := System.start config epoch capacity maxClients maxPerClient limits
    System.Publication epoch (run System.step start ops)
      (trace System.step System.handed start ops) (trace System.step System.seen start ops) := by
  intro start
  have hStart : System.Publication epoch start [] [] := ⟨rfl, rfl, rfl, rfl⟩
  have hRun := run_traces_invariant (R := System.Publication epoch)
    (fun _ op _ _ h => System.publication_step h op) hStart ops
  rwa [List.nil_append, List.nil_append] at hRun

/-- Whatever is run, every client is sent the events in order. -/
theorem inOrder_after :
    let start := System.start config epoch capacity maxClients maxPerClient limits
    InOrder (run System.step start ops).gateway.hub (trace System.step System.seen start ops) := by
  intro start
  rw [System.seen_after, System.gateway_after, hub_after]
  have hRun := run_trace_invariant (R := InOrder) (fun _ op _ h => inOrder_step h op)
    (inOrder_init epoch capacity maxClients) (trace Gateway.step Gateway.hubOps start.gateway
      (trace System.step System.gatewayOps start ops))
  rwa [List.nil_append] at hRun

/-- What was read from the frames of an endpoint was handed over or is held. -/
theorem taken_flow (start : System) (hStart : ∀ k, start.processing k = none) (k : EndpointKey) :
    eventsOf k (trace System.step System.taken start ops) =
      eventsOf k (trace System.step System.handed start ops) ++
        (run System.step start ops).pending k := by
  have hFlow := trace_conserved (H := fun s : System => s.pending k)
    (I := fun s op => eventsOf k (s.taken op))
    (O := fun s op => eventsOf k (s.handed op))
    (fun s op => s.pending_step op k) start ops
  have hNothing : start.pending k = [] := by rw [System.pending, hStart]
  rw [hNothing, List.nil_append] at hFlow
  rw [eventsOf, eventsOf, filterMap_trace, filterMap_trace]
  exact hFlow

/-- **Exactly once, in order.** In every run of the gateway the events read from
the frames of an endpoint are the events it handed to the hub followed by those
of the frame it is in the middle of; and the published events, with the one in
flight, are the events handed over by all endpoints, numbered consecutively from
one, until the numbers run out. Every one of them was read from a frame. -/
theorem published_exactly_once :
    let start := System.start config epoch capacity maxClients maxPerClient limits
    let s := run System.step start ops
    let taken := trace System.step System.taken start ops
    let handed := trace System.step System.handed start ops
    (∀ k, eventsOf k taken = eventsOf k handed ++ s.pending k) ∧
    published (trace System.step System.seen start ops) ++ s.gateway.hub.inFlight.toList =
      stamped epoch 1 ((handed.map Prod.snd).take (u64Max - 1)) ∧
    ∀ k, ∀ event ∈ eventsOf k taken, start.Reads ops k event := by
  intro start s taken handed
  refine ⟨taken_flow ops start fun _ => rfl,
    (publication_after config epoch capacity maxClients maxPerClient limits ops).stream,
    fun k event hEvent => ?_⟩
  exact System.reads_of_taken (.withProviderLimits maxPerClient limits) rfl
    (mem_eventsOf.mp hEvent)

/-- **From the frame to the client.** In every run of the gateway, what a client
was sent is part, in order, of what its registration is owed, the events
published while it wanted their keys; a session in its loop whose feed never
overran was sent all of it or has it in its queue. The delivery sequence of what
a client is sent increases. And every event any client is sent was read from a
frame of a connection open at the time, by the session of that connection, was
valid, and reaches the client unchanged but for its numbering. -/
theorem delivered_is_read :
    let start := System.start config epoch capacity maxClients maxPerClient limits
    let s := run System.step start ops
    let seen := trace System.step System.seen start ops
    (∀ client x, s.gateway.sessions client = some x →
      x.sentEvents.Sublist (registration x.feed seen).owed ∧
      (registration x.feed seen).owed.Sublist (published seen) ∧
      (x.sentEvents.map MarketEvent.deliverySequence).Pairwise (· < ·) ∧
      (x.phase.InLoop → (s.gateway.hub.feeds x.feed).lagged = 0 →
        x.sentEvents ++ (s.gateway.hub.feeds x.feed).buffer = (registration x.feed seen).owed)) ∧
    ∀ client x, s.gateway.sessions client = some x → ∀ e ∈ x.sentEvents,
      ∃ k event, start.Reads ops k event ∧ e = event.intoMarketEvent epoch e.deliverySequence := by
  intro start s seen
  have hAgree : Agreement s.gateway :=
    System.agreement_after config epoch capacity maxClients maxPerClient limits ops
  have hOrder : InOrder s.gateway.hub seen :=
    inOrder_after config epoch capacity maxClients maxPerClient limits ops
  have hStream := (publication_after config epoch capacity maxClients maxPerClient limits
    ops).stream
  refine ⟨fun client x hx => ?_, fun client x hx e he => ?_⟩
  · obtain ⟨hSent, hAll⟩ := sentEvents_owed hAgree hOrder hx
    have hOwed := owed_sublist x.feed seen
    refine ⟨hSent, hOwed, ?_, hAll⟩
    refine List.Pairwise.sublist ((hSent.trans hOwed).map MarketEvent.deliverySequence) ?_
    rw [hOrder.consistent.numbered.sequence]
    exact List.pairwise_lt_range'
  · have hPublished : e ∈ published seen :=
      ((sentEvents_owed hAgree hOrder hx).1.trans (owed_sublist x.feed seen)).subset he
    -- a published event is the stamp of one that a supervisor handed over
    have hStamped : e ∈ stamped epoch 1 (((trace System.step System.handed start ops).map
        Prod.snd).take (u64Max - 1)) := by
      rw [← hStream]
      exact List.mem_append_left _ hPublished
    obtain ⟨event, hEvent, sequence, rfl⟩ := mem_stamped hStamped
    obtain ⟨⟨k, event'⟩, hHanded, rfl⟩ := List.mem_map.mp (List.mem_of_mem_take hEvent)
    refine ⟨k, event', System.reads_of_taken (.withProviderLimits maxPerClient limits) rfl
      (mem_eventsOf.mp ?_), rfl⟩
    rw [taken_flow ops start fun _ => rfl]
    exact List.mem_append_left _ (mem_eventsOf.mpr hHanded)

end Runs

end MarketStreamGateway
