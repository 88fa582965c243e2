import MarketStreamGateway.Overrun
import MarketStreamGateway.RegistryConfluence

/-!
# Market Stream Gateway — agreement of session, registry and hub

Three places remember what a client is subscribed to: its session, the
registry and its route in the hub. A command changes them one after the other,
and other sessions and publishers run in between.

`Agrees` says, for each point a session can be at, which of the three hold its
set. A step of the gateway has at most one acting client. For every other
client the registry keeps the set and the hub at most takes keys away, and
only together with a lag (`Continues`); for the acting client the step is one
line of `client_session`.

Main results:
* `agreement_step` — every step of the gateway keeps `Agreement`.
* `sessions_agree` — the three sets after every run, and nothing is left of a
  client once its session is over.
-/

namespace MarketStreamGateway

open Lib

-- ---------------------------------------------------------------------------
-- Phases
-- ---------------------------------------------------------------------------

namespace SessionPhase

/-- `cleanup_client` is still to come. -/
def Held : SessionPhase → Prop
  | .selecting | .routing _ | .replying _ | .closing | .unrouted => True
  | .released | .ended => False

/-- `remove_client` is still to come. -/
def Routed : SessionPhase → Prop
  | .selecting | .routing _ | .replying _ | .closing => True
  | .unrouted | .released | .ended => False

/-- No routing update is pending. -/
def Settled : SessionPhase → Prop
  | .selecting | .replying _ => True
  | .routing _ | .closing | .unrouted | .released | .ended => False

end SessionPhase

/-- The keys the registry holds for a client. -/
def Gateway.registered (s : Gateway) (client : ClientId) : Finset SubscriptionKey :=
  s.subscriptions.state.clientSet client

/-- What registry and hub hold for the client of a session. -/
structure Agrees (s : Gateway) (client : ClientId) (x : Session) : Prop where
  held : x.phase.Held → s.registered client = x.subscriptions
  released : ¬ x.phase.Held → s.registered client = ∅
  routed : x.phase.Routed →
    s.hub.routes.handle client = some x.feed ∧ (s.hub.feeds x.feed).receiverAlive
  unrouted : ¬ x.phase.Routed → s.hub.routes.handle client = none
  settled : x.phase.Settled → (s.hub.feeds x.feed).lagged = 0 →
    s.hub.routes.subscribed client = x.subscriptions

/-- What registry and hub hold for a client with or without a session. -/
def AgreesAt (s : Gateway) (client : ClientId) : Option Session → Prop
  | none => s.registered client = ∅ ∧ s.hub.routes.handle client = none
  | some x => Agrees s client x

/-- The two stores agree with every session, and both are consistent. -/
structure Agreement (s : Gateway) : Prop where
  session : SessionInvariant s
  registry : RegistryInvariant s.subscriptions
  clients : ∀ c, AgreesAt s c (s.sessions c)

/-- A settled session is still routed. -/
theorem SessionPhase.Settled.routed {phase : SessionPhase} (h : phase.Settled) :
    phase.Routed := by
  cases phase <;> trivial

/-- A session that moves on without a store having to take notice. -/
structure Session.Follows (x x' : Session) : Prop where
  feed : x'.feed = x.feed
  subscriptions : x'.subscriptions = x.subscriptions
  held : x'.phase.Held ↔ x.phase.Held
  routed : x'.phase.Routed ↔ x.phase.Routed
  settled : x'.phase.Settled → x.phase.Settled

/-- A session that does not move follows itself. -/
theorem Session.Follows.refl (x : Session) : x.Follows x := ⟨rfl, rfl, Iff.rfl, Iff.rfl, id⟩

/-- The select loop may be left at any time. -/
theorem Session.follows_closing {x x' : Session} (hPhase : x.phase = .selecting)
    (hFeed : x'.feed = x.feed) (hSubscriptions : x'.subscriptions = x.subscriptions)
    (hClosing : x'.phase = .closing) : x.Follows x' := by
  refine ⟨hFeed, hSubscriptions, ?_, ?_, ?_⟩
  · rw [hPhase, hClosing]
    exact Iff.rfl
  · rw [hPhase, hClosing]
    exact Iff.rfl
  · rw [hClosing]
    exact False.elim

/-- Such a move keeps the agreement. -/
theorem Agrees.follows {s : Gateway} {client : ClientId} {x x' : Session}
    (h : Agrees s client x) (hNext : x.Follows x') : Agrees s client x' := by
  constructor
  · intro hPhase
    rw [hNext.subscriptions]
    exact h.held (hNext.held.mp hPhase)
  · intro hPhase
    exact h.released fun hOld => hPhase (hNext.held.mpr hOld)
  · intro hPhase
    rw [hNext.feed]
    exact h.routed (hNext.routed.mp hPhase)
  · intro hPhase
    exact h.unrouted fun hOld => hPhase (hNext.routed.mpr hOld)
  · intro hPhase hLag
    rw [hNext.feed] at hLag
    rw [hNext.subscriptions]
    exact h.settled (hNext.settled hPhase) hLag

-- ---------------------------------------------------------------------------
-- The hub, for a client that does not act
-- ---------------------------------------------------------------------------

/-- What the hub keeps for a client while others act: its route, and the key
set of the route as long as the feed does not overrun. -/
structure Continues (h h' : GatewayHub) (client : ClientId) (feed : FeedId) : Prop where
  handle : h'.routes.handle client = some feed
  alive : (h'.feeds feed).receiverAlive
  subscribed : (h'.feeds feed).lagged = 0 →
    (h.feeds feed).lagged = 0 ∧ h'.routes.subscribed client = h.routes.subscribed client

/-- The operation is not one on this client's registration. -/
def HubOp.Spares (client : ClientId) (feed : FeedId) : HubOp → Prop
  | .register c | .update c _ | .remove c => c ≠ client
  | .dropReceiver f => f ≠ feed
  | .number _ | .route | .receive _ => True

/-- Nothing is lost where nothing happens. -/
theorem Continues.refl {h : GatewayHub} {client : ClientId} {feed : FeedId}
    (hHandle : h.routes.handle client = some feed) (hAlive : (h.feeds feed).receiverAlive) :
    Continues h h client feed :=
  ⟨hHandle, hAlive, fun hLag => ⟨hLag, rfl⟩⟩

/-- Routing an event: a live feed that takes it keeps its keys, and one that
does not has overrun. -/
theorem continues_routeEvent {h : GatewayHub} (hInv : HubInvariant h) {client : ClientId}
    {feed : FeedId} (hHandle : h.routes.handle client = some feed)
    (hAlive : (h.feeds feed).receiverAlive) (event : MarketEvent) :
    Continues h { h.routeEvent event with inFlight := none } client feed := by
  have hSpec := routeEvent_spec hInv.routes hInv.distinct event
  generalize h.routeEvent event = h' at hSpec
  have hOpen : (h.feeds feed).refusal event ≠ some .closed := by
    intro hClosed
    have hDead := (Feed.offer_of_closed hClosed).2
    rw [hAlive] at hDead
    exact absurd hDead (by simp)
  have hKept : h'.routes.handle client = some feed := by
    rw [hSpec.handle, if_neg, hHandle]
    rintro ⟨-, hClosed⟩
    rw [refusal_of_handle hHandle] at hClosed
    exact hOpen hClosed
  by_cases hKey : event.subscriptionKey ∈ h.routes.subscribed client
  · have hOffer := hSpec.offered client feed hKey hHandle
    refine ⟨hKept, ?_, ?_⟩
    · show (h'.feeds feed).receiverAlive = true
      rw [hOffer, Feed.offer_receiverAlive]
      exact hAlive
    · show (h'.feeds feed).lagged = 0 → _ ∧ h'.routes.subscribed client = _
      intro hLag
      rw [hOffer] at hLag
      -- a refusal would show as a lag
      have hTaken : (h.feeds feed).refusal event = none := by
        cases hWhy : (h.feeds feed).refusal event with
        | none => rfl
        | some error =>
          cases error with
          | closed => exact absurd hWhy hOpen
          | full =>
            rw [Feed.offer_of_full hWhy] at hLag
            exact absurd hLag (Feed.recordLag_pos _).ne'
      refine ⟨by rwa [(Feed.offer_of_none hTaken).2.1] at hLag, ?_⟩
      rw [hSpec.subscribed, if_neg]
      rintro ⟨-, hRefused⟩
      rw [refusal_of_handle hHandle, hTaken] at hRefused
      exact hRefused rfl
  · have hSame : h'.feeds feed = h.feeds feed := by
      refine hSpec.untouched feed fun c hListed hc => ?_
      exact hKey (hInv.distinct c client feed hc hHandle ▸ hListed)
    refine ⟨hKept, ?_, ?_⟩
    · show (h'.feeds feed).receiverAlive = true
      rw [hSame]
      exact hAlive
    · show (h'.feeds feed).lagged = 0 → _ ∧ h'.routes.subscribed client = _
      intro hLag
      rw [hSame] at hLag
      refine ⟨hLag, ?_⟩
      rw [hSpec.subscribed, if_neg]
      exact fun hBoth => hKey hBoth.1

/-- An operation of another client keeps what the hub has for this one, unless
its queue overruns. -/
theorem continues_step {h : GatewayHub} (hInv : HubInvariant h) {client : ClientId}
    {feed : FeedId} (hHandle : h.routes.handle client = some feed)
    (hAlive : (h.feeds feed).receiverAlive) {op : HubOp} (hSpares : op.Spares client feed) :
    Continues h (h.step op) client feed := by
  have hSame := Continues.refl hHandle hAlive
  cases op with
  | register c =>
    have hNe : client ≠ c := fun hEq => hSpares hEq.symm
    rw [GatewayHub.step]
    rcases tryRegisterClient_cases hInv.routes c with hFull | ⟨-, hReg⟩
    · rw [hFull]
      exact hSame
    -- the new registration owns a feed that nobody had
    have hOld : feed ≠ h.nextFeed := (hInv.allocated client feed hHandle).ne
    refine ⟨?_, ?_, fun hLag => ?_⟩
    · rw [hReg.handle, if_neg hNe]
      exact hHandle
    · rw [hReg.feeds, Function.update_of_ne hOld]
      exact hAlive
    · rw [hReg.feeds, Function.update_of_ne hOld] at hLag
      rw [hReg.subscribed, if_neg hNe]
      exact ⟨hLag, rfl⟩
  | update c subscriptions =>
    have hNe : client ≠ c := fun hEq => hSpares hEq.symm
    obtain ⟨-, hRoute, hSub⟩ := routeInvariant_update hInv.routes c subscriptions
    have hFeeds := (updateClientSubscriptions_frame h c subscriptions).1
    rw [GatewayHub.step]
    refine ⟨?_, ?_, fun hLag => ?_⟩
    · rw [hRoute]
      exact hHandle
    · rw [hFeeds]
      exact hAlive
    · rw [hFeeds] at hLag
      rw [hSub, if_neg fun hBoth => hNe hBoth.1]
      exact ⟨hLag, rfl⟩
  | remove c =>
    have hNe : client ≠ c := fun hEq => hSpares hEq.symm
    rw [GatewayHub.step, GatewayHub.removeClient]
    refine ⟨?_, hAlive, fun hLag => ⟨hLag, ?_⟩⟩
    · rw [RouteState.handle_removeRoute, if_neg fun hBoth => hNe hBoth.1]
      exact hHandle
    · rw [RouteState.subscribed_removeRoute, if_neg hNe]
  | number event =>
    simp only [GatewayHub.step, GatewayHub.numberEvent]
    split
    · exact hSame
    · split
      · exact hSame
      · exact ⟨hHandle, hAlive, fun hLag => ⟨hLag, rfl⟩⟩
  | route =>
    cases hFlight : h.inFlight with
    | none =>
      simp only [GatewayHub.step, hFlight]
      exact hSame
    | some event =>
      simp only [GatewayHub.step, hFlight]
      exact continues_routeEvent hInv hHandle hAlive event
  | receive target =>
    rw [GatewayHub.step]
    refine ⟨hHandle, ?_, fun hLag => ⟨?_, rfl⟩⟩
    · rw [mapFeed_feeds]
      split
      · rw [Feed.receive_receiverAlive]
        exact hAlive
      · exact hAlive
    · rw [mapFeed_feeds] at hLag
      split at hLag
      · rwa [Feed.receive_lagged] at hLag
      · exact hLag
  | dropReceiver target =>
    have hNe : feed ≠ target := fun hEq => hSpares hEq.symm
    rw [GatewayHub.step]
    refine ⟨hHandle, ?_, fun hLag => ⟨?_, rfl⟩⟩
    · rw [mapFeed_feeds, if_neg hNe]
      exact hAlive
    · rwa [mapFeed_feeds, if_neg hNe] at hLag

/-- A run of such operations keeps it too. -/
theorem continues_run {h : GatewayHub} (hInv : HubInvariant h) {client : ClientId}
    {feed : FeedId} (hHandle : h.routes.handle client = some feed)
    (hAlive : (h.feeds feed).receiverAlive) {ops : List HubOp}
    (hSpares : ∀ op ∈ ops, op.Spares client feed) :
    Continues h (run GatewayHub.step h ops) client feed := by
  induction ops generalizing h with
  | nil => exact Continues.refl hHandle hAlive
  | cons op ops ih =>
    have hStep := continues_step hInv hHandle hAlive (hSpares op List.mem_cons_self)
    have hRest := ih (hubInvariant_step hInv op) hStep.handle hStep.alive
      fun o ho => hSpares o (List.mem_cons_of_mem _ ho)
    refine ⟨hRest.handle, hRest.alive, fun hLag => ?_⟩
    obtain ⟨hMid, hSub⟩ := hRest.subscribed hLag
    obtain ⟨hLag', hSub'⟩ := hStep.subscribed hMid
    exact ⟨hLag', hSub.trans hSub'⟩

/-- Only its own registration gives a client a route. -/
theorem handle_none_step {h : GatewayHub} (hInv : HubInvariant h) {client : ClientId}
    (hNone : h.routes.handle client = none) {op : HubOp} (hOther : op ≠ .register client) :
    (h.step op).routes.handle client = none := by
  cases op with
  | register c =>
    have hNe : client ≠ c := fun hEq => hOther (by rw [hEq])
    rw [GatewayHub.step]
    rcases tryRegisterClient_cases hInv.routes c with hFull | ⟨-, hReg⟩
    · rw [hFull]
      exact hNone
    · rw [hReg.handle, if_neg hNe]
      exact hNone
  | update c subscriptions =>
    -- an update changes what a client wants, not what it listens on
    rw [GatewayHub.step, (routeInvariant_update hInv.routes c subscriptions).2.1]
    exact hNone
  | remove c =>
    rw [GatewayHub.step, GatewayHub.removeClient, RouteState.handle_removeRoute]
    split
    · rfl
    · exact hNone
  | number event =>
    simp only [GatewayHub.step, GatewayHub.numberEvent]
    split
    · exact hNone
    · split <;> exact hNone
  | route =>
    cases hFlight : h.inFlight with
    | none =>
      simp only [GatewayHub.step, hFlight]
      exact hNone
    | some event =>
      simp only [GatewayHub.step, hFlight]
      -- routing may drop a route whose receiver is gone, and adds none
      rw [(routeEvent_spec hInv.routes hInv.distinct event).handle]
      split
      · rfl
      · exact hNone
  | receive feed => exact hNone
  | dropReceiver feed => exact hNone

/-- A client that is not registered stays so until it registers. -/
theorem handle_none_run {h : GatewayHub} (hInv : HubInvariant h) {client : ClientId}
    (hNone : h.routes.handle client = none) {ops : List HubOp}
    (hOther : .register client ∉ ops) :
    (run GatewayHub.step h ops).routes.handle client = none := by
  induction ops generalizing h with
  | nil => exact hNone
  | cons op ops ih =>
    have hNe : op ≠ .register client := fun hEq => hOther (hEq ▸ List.mem_cons_self)
    exact ih (hubInvariant_step hInv op) (handle_none_step hInv hNone hNe)
      fun hMem => hOther (List.mem_cons_of_mem _ hMem)

/-- Registry and hub may change, as long as the client is not concerned. -/
theorem Agrees.frame {s s' : Gateway} {client : ClientId} {x : Session} (h : Agrees s client x)
    (hInv : HubInvariant s.hub) (hRegistered : s'.registered client = s.registered client)
    {ops : List HubOp} (hHub : s'.hub = run GatewayHub.step s.hub ops)
    (hSpares : ∀ op ∈ ops, op.Spares client x.feed) : Agrees s' client x := by
  have hNoRegister : .register client ∉ ops := fun hMem => hSpares _ hMem rfl
  constructor
  · intro hPhase
    rw [hRegistered]
    exact h.held hPhase
  · intro hPhase
    rw [hRegistered]
    exact h.released hPhase
  · intro hPhase
    obtain ⟨hHandle, hAlive⟩ := h.routed hPhase
    have hCont := continues_run hInv hHandle hAlive hSpares
    rw [hHub]
    exact ⟨hCont.handle, hCont.alive⟩
  · intro hPhase
    rw [hHub]
    exact handle_none_run hInv (h.unrouted hPhase) hNoRegister
  · -- a lag seen after the operations was not there before them
    intro hPhase hLag
    obtain ⟨hHandle, hAlive⟩ := h.routed hPhase.routed
    have hCont := continues_run hInv hHandle hAlive hSpares
    rw [hHub] at hLag ⊢
    obtain ⟨hLag', hSub⟩ := hCont.subscribed hLag
    rw [hSub]
    exact h.settled hPhase hLag'

-- ---------------------------------------------------------------------------
-- The registry, for the client of a command
-- ---------------------------------------------------------------------------

/-- What serving a command does to the registry: the client's new set is the
one handed on to the hub, or its set is the old one. -/
structure Served (registry : SubscriptionRegistry) (client : ClientId)
    (result : Handled × SubscriptionRegistry) : Prop where
  invariant : RegistryInvariant registry → RegistryInvariant result.2
  others : ∀ c, c ≠ client → result.2.state.clientSet c = registry.state.clientSet c
  replied : ∀ message, result.1 = .reply message →
    result.2.state.clientSet client = registry.state.clientSet client
  routed : ∀ subscriptions ack, result.1 = .route subscriptions ack →
    result.2.state.clientSet client = subscriptions

/-- An answer without a change hands nothing on. -/
theorem served_reply (registry : SubscriptionRegistry) (client : ClientId)
    (message : ControlMessage) : Served registry client (.reply message, registry) := by
  refine ⟨id, fun _ _ => rfl, fun _ _ => rfl, fun subscriptions ack hRoute => ?_⟩
  exact absurd hRoute (by simp)

/-- `add` reports the set it leaves, or leaves the registry alone. -/
theorem add_reported (r : SubscriptionRegistry) (order : ProviderOrder) (client : ClientId)
    (keys : List SubscriptionKey) :
    (∀ c, c ≠ client → (r.add order client keys).2.state.clientSet c = r.state.clientSet c) ∧
    (∀ error, (r.add order client keys).1 = .error error → (r.add order client keys).2 = r) ∧
    (∀ change, (r.add order client keys).1 = .ok change →
      (r.add order client keys).2.state.clientSet client = change.clientSubscriptions) := by
  rcases add_cases r order client keys with
    ⟨-, requested, hAdd⟩ | ⟨-, ⟨-, hAdd⟩ | ⟨provider, limit, requested, hAdd⟩ |
      ⟨s, activated, hInc, hAdd⟩⟩
  · -- over the client's limit
    rw [hAdd]
    refine ⟨fun _ _ => rfl, fun _ _ => rfl, fun change hOk => ?_⟩
    exact absurd hOk (by simp)
  · -- nothing new is asked for
    rw [hAdd]
    refine ⟨fun _ _ => rfl, fun _ _ => rfl, fun change hOk => ?_⟩
    rw [← Except.ok.inj hOk]
    rfl
  · -- over a provider's limit
    rw [hAdd]
    refine ⟨fun _ _ => rfl, fun _ _ => rfl, fun change hOk => ?_⟩
    exact absurd hOk (by simp)
  · -- the new keys are counted in
    rw [hAdd]
    refine ⟨fun c hc => ?_, fun error hError => absurd hError (by simp), fun change hOk => ?_⟩
    · show s.clientSet c = _
      rw [RegistryState.clientSet, hInc.clients, RegistryState.withClient,
        ← RegistryState.clientSet, clientSet_insert, if_neg hc]
    · rw [← Except.ok.inj hOk]
      rfl

/-- `remove` reports the set it leaves. -/
theorem remove_reported (r : SubscriptionRegistry) (client : ClientId)
    (keys : List SubscriptionKey) :
    (r.remove client keys).change.clientSubscriptions =
      (r.remove client keys).registry.state.clientSet client := by
  unfold SubscriptionRegistry.remove
  dsimp only
  split <;> rfl

section Commands

variable [Unicode]

/-- A subscription hands on the set the registry has, or changes nothing. -/
theorem served_subscribe (config : ApiConfig) (catalog : CatalogVerdict) (order : ProviderOrder)
    (registry : SubscriptionRegistry) (client : ClientId) (requestId : Text)
    (requested : List Subscription) :
    Served registry client
      (subscribe config catalog order registry client requestId requested) := by
  unfold subscribe
  split
  · exact served_reply registry client _
  next keys hKeys =>
  obtain ⟨hOthers, hError, hOk⟩ := add_reported registry order client keys
  have hInv := fun h : RegistryInvariant registry => registryInvariant_add h order client keys
  split
  · -- refused: the registry is as it was
    next error after hAdd =>
    rw [hAdd] at hError
    have hSame : after = registry := hError error rfl
    rw [hSame]
    exact served_reply registry client _
  · -- accepted: the set to route is the client's new set
    next change after hAdd =>
    rw [hAdd] at hOthers hOk hInv
    refine ⟨hInv, hOthers, fun message hReply => absurd hReply (by simp), ?_⟩
    intro subscriptions ack hRoute
    obtain ⟨hSet, -⟩ := Handled.route.inj hRoute
    rw [← hSet]
    exact hOk change rfl

/-- An unsubscription always hands on the set the registry has. -/
theorem served_unsubscribe (registry : SubscriptionRegistry) (client : ClientId)
    (requestId : Text) (requested : List Subscription) :
    Served registry client (unsubscribe registry client requestId requested) := by
  unfold unsubscribe
  split
  · exact served_reply registry client _
  next keys hKeys =>
  refine ⟨fun h => (registryInvariant_remove h client keys).2, fun c hc => ?_,
    fun message hReply => absurd hReply (by simp), fun subscriptions ack hRoute => ?_⟩
  · show (registry.remove client keys).registry.state.clientSet c = _
    rw [remove_clientSet, if_neg fun hEq => hc hEq.symm]
  · obtain ⟨hSet, -⟩ := Handled.route.inj hRoute
    rw [← hSet]
    exact (remove_reported registry client keys).symm

/-- Any text message serves its client this way. -/
theorem served_handleTextMessage (config : ApiConfig) (catalog : CatalogVerdict)
    (order : ProviderOrder) (registry : SubscriptionRegistry) (client : ClientId) (bytes : Nat)
    (parsed : Except ErrorCode ClientCommand) :
    Served registry client
      (handleTextMessage config catalog order registry client bytes parsed) := by
  unfold handleTextMessage
  split
  · -- a message that is too large or does not parse is only answered
    exact served_reply registry client _
  split
  · exact served_reply registry client _
  next command =>
  unfold applyCommand
  split
  · exact served_reply registry client _
  cases command with
  | ping requestId => exact served_reply registry client _
  | subscribe requestId requested =>
    exact served_subscribe config catalog order registry client requestId requested
  | unsubscribe requestId requested =>
    exact served_unsubscribe registry client requestId requested

end Commands

-- ---------------------------------------------------------------------------
-- The steps of the gateway
-- ---------------------------------------------------------------------------

/-- The client whose session takes the step. -/
def GatewayOp.actor : GatewayOp → Option ClientId
  | .connect client _ | .incoming client _ _ _ | .updateRoutes client | .reply client _
  | .deliver client _ | .lag client _ | .shutdown client | .removeClient client
  | .cleanupClient client | .dropFeed client => some client
  | .number _ | .route => none

section Steps

variable [Unicode] {s : Gateway}

/-- A message changes the registry only for its sender. -/
theorem handleClientMessage_registry (s : Gateway) (client : ClientId) (x : Session)
    (catalog : CatalogVerdict) (order : ProviderOrder) (message : Option ClientMessage) :
    let registry := (s.handleClientMessage client x catalog order message).2
    (RegistryInvariant s.subscriptions → RegistryInvariant registry) ∧
    ∀ c, c ≠ client → registry.state.clientSet c = s.registered c := by
  unfold Gateway.handleClientMessage
  split
  all_goals first | exact ⟨id, fun _ _ => rfl⟩ | skip
  next bytes parsed =>
  have hServed :=
    served_handleTextMessage s.config catalog order s.subscriptions client bytes parsed
  split
  · next message registry hEq =>
    rw [hEq] at hServed
    exact ⟨hServed.invariant, hServed.others⟩
  · next subscriptions ack registry hEq =>
    rw [hEq] at hServed
    exact ⟨hServed.invariant, hServed.others⟩

/-- A message leaves its sender in agreement: what the registry holds is what
the session remembers. -/
theorem handleClientMessage_agrees {client : ClientId} {x : Session} (h : Agrees s client x)
    (hPhase : x.phase = .selecting) (catalog : CatalogVerdict) (order : ProviderOrder)
    (message : Option ClientMessage) {s' : Gateway} (hHub : s'.hub = s.hub)
    (hRegistry : s'.subscriptions = (s.handleClientMessage client x catalog order message).2) :
    Agrees s' client (s.handleClientMessage client x catalog order message).1 := by
  have hHeld : s.registered client = x.subscriptions := h.held (by rw [hPhase]; trivial)
  have hRouted := h.routed (by rw [hPhase]; trivial)
  have hSettled := h.settled (by rw [hPhase]; trivial)
  -- as long as the set is the old one, any phase with a route will do
  have hStay : ∀ y : Session, y.feed = x.feed → y.subscriptions = x.subscriptions →
      y.phase.Held → y.phase.Routed → s'.registered client = s.registered client →
      Agrees s' client y := by
    intro y hFeed hSub hyHeld hyRouted hSame
    refine ⟨fun _ => ?_, fun hNot => absurd hyHeld hNot, fun _ => ?_,
      fun hNot => absurd hyRouted hNot, fun _ hLag => ?_⟩
    · rw [hSame, hSub, hHeld]
    · rw [hHub, hFeed]
      exact hRouted
    · rw [hHub, hFeed] at hLag
      rw [hHub, hSub]
      exact hSettled hLag
  unfold Gateway.handleClientMessage at hRegistry ⊢
  split
  all_goals dsimp only at hRegistry
  · exact hStay _ rfl rfl trivial trivial (by rw [Gateway.registered, hRegistry]; rfl)
  · exact hStay _ rfl rfl trivial trivial (by rw [Gateway.registered, hRegistry]; rfl)
  · exact hStay _ rfl rfl trivial trivial (by rw [Gateway.registered, hRegistry]; rfl)
  · refine hStay _ rfl rfl ?_ ?_ (by rw [Gateway.registered, hRegistry]; rfl)
    all_goals rw [hPhase]; trivial
  · refine hStay _ rfl rfl ?_ ?_ (by rw [Gateway.registered, hRegistry]; rfl)
    all_goals rw [hPhase]; trivial
  · exact hStay _ rfl rfl trivial trivial (by rw [Gateway.registered, hRegistry]; rfl)
  next bytes parsed =>
  have hServed :=
    served_handleTextMessage s.config catalog order s.subscriptions client bytes parsed
  split
  · next message registry hEq =>
    rw [hEq] at hServed hRegistry
    refine hStay _ rfl rfl trivial trivial ?_
    rw [Gateway.registered, hRegistry]
    exact hServed.replied message rfl
  · next subscriptions ack registry hEq =>
    rw [hEq] at hServed hRegistry
    refine ⟨fun _ => ?_, fun hNot => absurd trivial hNot, fun _ => ?_,
      fun hNot => absurd trivial hNot, False.elim⟩
    · rw [Gateway.registered, hRegistry]
      exact hServed.routed subscriptions ack rfl
    · rw [hHub]
      exact hRouted

/-- The registry after a step: still consistent, and unchanged for everyone
but the acting client. -/
theorem registry_step (hInv : RegistryInvariant s.subscriptions) (op : GatewayOp) :
    RegistryInvariant (s.step op).subscriptions ∧
    ∀ c, op.actor ≠ some c → (s.step op).registered c = s.registered c := by
  have hSame : RegistryInvariant s.subscriptions ∧
      ∀ c, op.actor ≠ some c → s.registered c = s.registered c := ⟨hInv, fun _ _ => rfl⟩
  rw [Gateway.step]
  unfold Gateway.registered
  cases op with
  | incoming client catalog order message =>
    simp only [Gateway.localStep]
    split
    · next x hx =>
      split
      · -- only a command reaches the registry, and only under the client's own name
        obtain ⟨hKeeps, hOthers⟩ := handleClientMessage_registry s client x catalog order message
        exact ⟨hKeeps hInv, fun c hc => hOthers c fun hEq => hc (by rw [hEq]; rfl)⟩
      · exact hSame
    · exact hSame
  | cleanupClient client =>
    simp only [Gateway.localStep]
    split
    · refine ⟨(registryInvariant_cleanupClient hInv client).2, fun c hc => ?_⟩
      dsimp only
      rw [cleanupClient_clientSet, if_neg fun hEq => hc (by rw [← hEq]; rfl)]
    · exact hSame
  -- the rest of a session is between hub and socket
  | connect client helloSent | updateRoutes client | reply client sent | removeClient client
  | dropFeed client =>
    simp only [Gateway.localStep]
    split <;> exact hSame
  | deliver client sent | lag client sent | shutdown client =>
    simp only [Gateway.localStep]
    split
    · split <;> exact hSame
    · exact hSame
  | number event => exact hSame
  | route => exact hSame

/-- A step changes no session but the acting client's. -/
theorem sessions_step {op : GatewayOp} {c : ClientId} (hOther : op.actor ≠ some c) :
    (s.step op).sessions c = s.sessions c := by
  rw [Gateway.step]
  cases op with
  | number event => rfl
  | route => rfl
  | connect client helloSent | incoming client catalog order message | updateRoutes client
  | reply client sent | deliver client sent | lag client sent | shutdown client
  | removeClient client | cleanupClient client | dropFeed client =>
    have hNe : c ≠ client := fun hEq => hOther (by rw [hEq]; rfl)
    simp only [Gateway.localStep]
    repeat' split
    all_goals first
      | rfl
      | rw [setSession_sessions, if_neg hNe]

omit [Unicode] in
/-- Where the hub operations of a step come from. -/
theorem hubOps_cases {op : GatewayOp} {o : HubOp} (ho : o ∈ s.hubOps op) :
    (∃ event, o = .number event) ∨ o = .route ∨ (∃ feed, o = .receive feed) ∨
    ∃ client, op.actor = some client ∧
      (o = .register client ∨ (∃ subscriptions, o = .update client subscriptions) ∨
        o = .remove client ∨ ∃ y, s.sessions client = some y ∧ o = .dropReceiver y.feed) := by
  cases op with
  | number event => exact Or.inl ⟨event, by simpa [Gateway.hubOps] using ho⟩
  | route => exact Or.inr (Or.inl (by simpa [Gateway.hubOps] using ho))
  | deliver client sent =>
    simp only [Gateway.hubOps] at ho
    split at ho
    · split at ho
      · unfold Gateway.deliverEvent at ho
        split at ho
        · exact Or.inr (Or.inr (Or.inl ⟨_, List.mem_singleton.mp ho⟩))
        · exact absurd ho (List.not_mem_nil)
      · exact absurd ho (List.not_mem_nil)
    · exact absurd ho (List.not_mem_nil)
  | connect client helloSent =>
    refine Or.inr (Or.inr (Or.inr ⟨client, rfl, Or.inl ?_⟩))
    simp only [Gateway.hubOps] at ho
    split at ho
    · exact absurd ho (List.not_mem_nil)
    · exact List.mem_singleton.mp ho
  | updateRoutes client =>
    refine Or.inr (Or.inr (Or.inr ⟨client, rfl, Or.inr (Or.inl ?_)⟩))
    simp only [Gateway.hubOps] at ho
    split at ho
    · exact ⟨_, List.mem_singleton.mp ho⟩
    · exact absurd ho (List.not_mem_nil)
  | removeClient client =>
    refine Or.inr (Or.inr (Or.inr ⟨client, rfl, Or.inr (Or.inr (Or.inl ?_))⟩))
    simp only [Gateway.hubOps] at ho
    split at ho
    · exact List.mem_singleton.mp ho
    · exact absurd ho (List.not_mem_nil)
  | dropFeed client =>
    refine Or.inr (Or.inr (Or.inr ⟨client, rfl, Or.inr (Or.inr (Or.inr ?_))⟩))
    simp only [Gateway.hubOps] at ho
    split at ho
    · next feed subscriptions sent hy => exact ⟨_, hy, List.mem_singleton.mp ho⟩
    · exact absurd ho (List.not_mem_nil)
  -- the other operations leave the hub alone
  | incoming | reply | lag | shutdown | cleanupClient =>
    simp [Gateway.hubOps] at ho

omit [Unicode] in
/-- A step spares the registration of every client but the acting one. -/
theorem hubOps_spares (hInv : SessionInvariant s) {op : GatewayOp} {c : ClientId} {x : Session}
    (hx : s.sessions c = some x) (hOther : op.actor ≠ some c) :
    ∀ o ∈ s.hubOps op, o.Spares c x.feed := by
  intro o ho
  rcases hubOps_cases ho with ⟨event, rfl⟩ | rfl | ⟨feed, rfl⟩ | ⟨client, hActor, hCase⟩
  · trivial
  · trivial
  · trivial
  have hNe : client ≠ c := fun hEq => hOther (by rw [hActor, hEq])
  rcases hCase with rfl | ⟨subscriptions, rfl⟩ | rfl | ⟨y, hy, rfl⟩
  · exact hNe
  · exact hNe
  · exact hNe
  · exact fun hFeed => hNe (hInv.distinct client c y x hy hx hFeed)

omit [Unicode] in
/-- Only the client itself registers. -/
theorem register_notMem_hubOps {op : GatewayOp} {c : ClientId} (hOther : op.actor ≠ some c) :
    .register c ∉ s.hubOps op := by
  intro ho
  rcases hubOps_cases ho with
    ⟨event, hEq⟩ | hEq | ⟨feed, hEq⟩ | ⟨client, hActor, hEq | ⟨subscriptions, hEq⟩ | hEq |
      ⟨y, -, hEq⟩⟩
  all_goals first
    | exact HubOp.noConfusion hEq
    | (rw [HubOp.register.inj hEq] at hOther; exact hOther hActor)

/-- **Bystanders.** A step keeps every other client in agreement. -/
theorem agreesAt_bystander (h : Agreement s) {op : GatewayOp} {c : ClientId}
    (hOther : op.actor ≠ some c) : AgreesAt (s.step op) c ((s.step op).sessions c) := by
  have hRegistered := (registry_step h.registry op).2 c hOther
  have hClient := h.clients c
  rw [sessions_step hOther]
  cases hx : s.sessions c with
  | none =>
    rw [hx] at hClient
    refine ⟨hRegistered.trans hClient.1, ?_⟩
    exact handle_none_run h.session.hub hClient.2 (register_notMem_hubOps hOther)
  | some x =>
    rw [hx] at hClient
    exact Agrees.frame hClient h.session.hub hRegistered rfl (hubOps_spares h.session hx hOther)

/-- A step that finds nothing to do. -/
theorem step_idle {op : GatewayOp} (hLocal : s.localStep op = s) (hOps : s.hubOps op = []) :
    s.step op = s := by
  rw [Gateway.step, hLocal, hOps]
  rfl

/-- A new session starts with nothing, in the registry and in the hub. -/
theorem agreesAt_connect (h : Agreement s) (client : ClientId) (helloSent : Bool) :
    AgreesAt (s.step (.connect client helloSent)) client
      ((s.step (.connect client helloSent)).sessions client) := by
  have hClient := h.clients client
  cases hx : s.sessions client with
  | some x =>
    rw [step_idle (by simp [Gateway.localStep, hx]) (by simp [Gateway.hubOps, hx])]
    exact hClient
  | none =>
    rw [hx] at hClient
    obtain ⟨hEmpty, hNone⟩ := hClient
    have hOps : s.hubOps (.connect client helloSent) = [.register client] := by
      simp [Gateway.hubOps, hx]
    have hHub : (s.step (.connect client helloSent)).hub = (s.hub.tryRegisterClient client).2 := by
      rw [Gateway.step, hOps]
      rfl
    rcases tryRegisterClient_cases h.session.hub.routes client with hFull | ⟨hNew, hReg⟩
    · -- turned away at capacity
      have hLocal : s.localStep (.connect client helloSent) = s := by
        simp [Gateway.localStep, hx, hFull]
      have hSame : s.step (.connect client helloSent) = s := by
        rw [Gateway.step, hLocal, hOps, run_cons, run_nil, GatewayHub.step, hFull]
      rw [hSame, hx]
      exact ⟨hEmpty, hNone⟩
    · have hRegistered : (s.step (.connect client helloSent)).registered client = ∅ := by
        rw [← hEmpty]
        simp only [Gateway.registered, Gateway.step, Gateway.localStep, hx, hNew]
        rfl
      have hSession : ∃ sent, (s.step (.connect client helloSent)).sessions client =
          some ⟨if helloSent then .selecting else .closing, s.hub.nextFeed, ∅, sent⟩ := by
        simp only [Gateway.step, Gateway.localStep, hx, hNew]
        rw [setSession_sessions, if_pos rfl]
        exact ⟨_, rfl⟩
      obtain ⟨sent, hSession⟩ := hSession
      rw [hSession]
      have hHeld : (if helloSent then SessionPhase.selecting else .closing).Held := by
        cases helloSent <;> trivial
      have hRouted : (if helloSent then SessionPhase.selecting else .closing).Routed := by
        cases helloSent <;> trivial
      refine ⟨fun _ => hRegistered, fun hNot => absurd hHeld hNot, fun _ => ?_,
        fun hNot => absurd hRouted hNot, fun _ _ => ?_⟩
      · rw [hHub, hReg.handle, if_pos rfl, hReg.feeds, Function.update_self]
        exact ⟨rfl, rfl⟩
      · rw [hHub, hReg.subscribed, if_pos rfl]

/-- A message may change the registry, and the session takes the new set along;
the hub follows with the next step. -/
theorem agreesAt_incoming (h : Agreement s) (client : ClientId) (catalog : CatalogVerdict)
    (order : ProviderOrder) (message : Option ClientMessage) :
    AgreesAt (s.step (.incoming client catalog order message)) client
      ((s.step (.incoming client catalog order message)).sessions client) := by
  have hClient := h.clients client
  cases hx : s.sessions client with
  | none =>
    rw [step_idle (by simp [Gateway.localStep, hx]) rfl]
    exact hClient
  | some x =>
    -- a message is handled only while the session selects
    by_cases hPhase : x.phase = .selecting
    · rw [hx] at hClient
      have hStep : s.step (.incoming client catalog order message) =
          { s.setSession client (s.handleClientMessage client x catalog order message).1 with
            subscriptions := (s.handleClientMessage client x catalog order message).2 } := by
        simp [Gateway.step, Gateway.localStep, Gateway.hubOps, Gateway.setSession, hx, hPhase]
      rw [hStep]
      dsimp only
      rw [setSession_sessions, if_pos rfl]
      exact handleClientMessage_agrees hClient hPhase catalog order message rfl rfl
    · rw [step_idle (by simp [Gateway.localStep, hx, hPhase]) rfl]
      exact hClient

/-- The hub update that ends a command brings the route back in line. -/
theorem step_updateRoutes {client : ClientId} {ack : ControlMessage} {feed : FeedId}
    {subscriptions : Finset SubscriptionKey} {sent : List Frame}
    (hx : s.sessions client = some ⟨.routing ack, feed, subscriptions, sent⟩) :
    s.step (.updateRoutes client) =
      { s.setSession client ⟨.replying ack, feed, subscriptions, sent⟩ with
        hub := (s.hub.updateClientSubscriptions client subscriptions).2 } := by
  simp [Gateway.step, Gateway.localStep, Gateway.hubOps, GatewayHub.step, hx]

/-- Here the hub catches up with the registry. -/
theorem agreesAt_updateRoutes (h : Agreement s) (client : ClientId) :
    AgreesAt (s.step (.updateRoutes client)) client
      ((s.step (.updateRoutes client)).sessions client) := by
  have hClient := h.clients client
  cases hx : s.sessions client with
  | none =>
    rw [step_idle (by simp [Gateway.localStep, hx]) (by simp [Gateway.hubOps, hx])]
    exact hClient
  | some x =>
    obtain ⟨phase, feed, subscriptions, sent⟩ := x
    cases phase with
    | routing ack =>
      rw [hx] at hClient
      obtain ⟨hHandle, hAlive⟩ := hClient.routed trivial
      obtain ⟨-, hRoute, hSub⟩ := routeInvariant_update h.session.hub.routes client subscriptions
      have hFeeds := (updateClientSubscriptions_frame s.hub client subscriptions).1
      rw [step_updateRoutes hx]
      dsimp only
      rw [setSession_sessions, if_pos rfl]
      -- the hub takes over the set that the session has stored
      refine ⟨fun _ => hClient.held trivial, fun hNot => absurd trivial hNot, fun _ => ?_,
        fun hNot => absurd trivial hNot, fun _ _ => ?_⟩
      · dsimp only at hHandle hAlive ⊢
        rw [hRoute, hFeeds]
        exact ⟨hHandle, hAlive⟩
      · dsimp only at hHandle ⊢
        rw [hSub, if_pos ⟨rfl, by rw [hHandle]; rfl⟩]
    | selecting | replying | closing | unrouted | released | ended =>
      rw [step_idle (by simp [Gateway.localStep, hx]) (by simp [Gateway.hubOps, hx])]
      exact hClient

/-- A step of the acting client that at most takes an event from its feed and
moves the session on. -/
theorem agreesAt_follows (h : Agreement s) {op : GatewayOp} {client : ClientId} {x x' : Session}
    (hx : s.sessions client = some x) (hLocal : s.localStep op = s.setSession client x')
    (hOps : ∀ o ∈ s.hubOps op, o.Spares client x.feed) (hNext : x.Follows x') :
    AgreesAt (s.step op) client ((s.step op).sessions client) := by
  have hClient := h.clients client
  rw [hx] at hClient
  have hSession : (s.step op).sessions client = some x' := by
    rw [Gateway.step, hLocal]
    dsimp only
    rw [setSession_sessions, if_pos rfl]
  have hRegistered : (s.step op).registered client = s.registered client := by
    rw [Gateway.registered, Gateway.step, hLocal]
    rfl
  have hFrame : Agrees (s.step op) client x :=
    Agrees.frame hClient h.session.hub hRegistered rfl hOps
  rw [hSession]
  exact hFrame.follows hNext

/-- Sending the answer changes neither store. -/
theorem agreesAt_reply (h : Agreement s) (client : ClientId) (sent : Bool) :
    AgreesAt (s.step (.reply client sent)) client
      ((s.step (.reply client sent)).sessions client) := by
  have hClient := h.clients client
  cases hx : s.sessions client with
  | none =>
    rw [step_idle (by simp [Gateway.localStep, hx]) rfl]
    exact hClient
  | some x =>
    obtain ⟨phase, feed, subscriptions, frames⟩ := x
    cases phase with
    | replying message =>
      have hLocal : s.localStep (.reply client sent) = s.setSession client
          (if sent then ⟨.selecting, feed, subscriptions, frames ++ [.control message]⟩
          else ⟨.closing, feed, subscriptions, frames⟩) := by
        simp [Gateway.localStep, hx]
      refine agreesAt_follows h hx hLocal (by simp [Gateway.hubOps]) ?_
      -- a reply that cannot be sent closes the session
      cases sent with
      | true => exact ⟨rfl, rfl, Iff.rfl, Iff.rfl, id⟩
      | false => exact ⟨rfl, rfl, Iff.rfl, Iff.rfl, False.elim⟩
    | selecting | routing | closing | unrouted | released | ended =>
      rw [step_idle (by simp [Gateway.localStep, hx]) rfl]
      exact hClient

omit [Unicode] in
/-- A delivery moves the session on and touches its own channel only. -/
theorem deliverEvent_follows (s : Gateway) (client : ClientId) {x : Session}
    (hPhase : x.phase = .selecting) (sent : Bool) :
    x.Follows (s.deliverEvent client x sent).session ∧
    ∀ o ∈ (s.deliverEvent client x sent).hubOps, o.Spares client x.feed := by
  unfold Gateway.deliverEvent
  split
  · refine ⟨?_, by simp [HubOp.Spares]⟩
    cases sent with
    | true => exact ⟨rfl, rfl, Iff.rfl, Iff.rfl, id⟩
    | false => exact Session.follows_closing hPhase rfl rfl rfl
  · refine ⟨?_, by simp⟩
    dsimp only
    split
    · exact Session.Follows.refl x
    · exact Session.follows_closing hPhase rfl rfl rfl

omit [Unicode] in
/-- Reporting a lag moves the session on. -/
theorem reportLag_follows (s : Gateway) (client : ClientId) {x : Session}
    (hPhase : x.phase = .selecting) (sent : Bool) :
    x.Follows (s.reportLag client x sent) := by
  simp only [Gateway.reportLag]
  split
  · exact Session.follows_closing hPhase rfl rfl rfl
  · split
    · exact Session.Follows.refl x
    · exact Session.follows_closing hPhase rfl rfl rfl

/-- The branches of the select loop that leave registry and routes alone. -/
theorem agreesAt_select (h : Agreement s) {op : GatewayOp} {client : ClientId}
    (next : Session → Session) (ops : Session → List HubOp)
    (hLocal : s.localStep op = match s.sessions client with
      | some x => if x.phase = .selecting then s.setSession client (next x) else s
      | none => s)
    (hOps : s.hubOps op = match s.sessions client with
      | some x => if x.phase = .selecting then ops x else []
      | none => [])
    (hNext : ∀ x : Session, x.phase = .selecting →
      x.Follows (next x) ∧ ∀ o ∈ ops x, o.Spares client x.feed) :
    AgreesAt (s.step op) client ((s.step op).sessions client) := by
  cases hx : s.sessions client with
  | none =>
    rw [hx] at hLocal hOps
    rw [step_idle hLocal hOps]
    exact h.clients client
  | some x =>
    simp only [hx] at hLocal hOps
    -- the branch is taken only while the session selects
    by_cases hPhase : x.phase = .selecting
    · rw [if_pos hPhase] at hLocal hOps
      obtain ⟨hFollows, hSpares⟩ := hNext x hPhase
      rw [← hOps] at hSpares
      exact agreesAt_follows h hx hLocal hSpares hFollows
    · rw [if_neg hPhase] at hLocal hOps
      rw [step_idle hLocal hOps]
      exact h.clients client

/-- The hub half of `cleanup_session`. -/
theorem agreesAt_removeClient (h : Agreement s) (client : ClientId) :
    AgreesAt (s.step (.removeClient client)) client
      ((s.step (.removeClient client)).sessions client) := by
  have hClient := h.clients client
  cases hx : s.sessions client with
  | none =>
    rw [step_idle (by simp [Gateway.localStep, hx]) (by simp [Gateway.hubOps, hx])]
    exact hClient
  | some x =>
    obtain ⟨phase, feed, subscriptions, sent⟩ := x
    cases phase with
    | closing =>
      rw [hx] at hClient
      have hStep : s.step (.removeClient client) =
          { s.setSession client ⟨.unrouted, feed, subscriptions, sent⟩ with
            hub := s.hub.removeClient client } := by
        simp [Gateway.step, Gateway.localStep, Gateway.hubOps, GatewayHub.step, hx]
      rw [hStep]
      dsimp only
      rw [setSession_sessions, if_pos rfl]
      -- only the route goes; the registry still holds the client's keys
      refine ⟨fun _ => hClient.held trivial, fun hNot => absurd trivial hNot, False.elim,
        fun _ => ?_, False.elim⟩
      show (s.hub.routes.removeRoute client true).handle client = none
      rw [RouteState.handle_removeRoute, if_pos ⟨rfl, rfl⟩]
    | selecting | routing | replying | unrouted | released | ended =>
      rw [step_idle (by simp [Gateway.localStep, hx]) (by simp [Gateway.hubOps, hx])]
      exact hClient

/-- The registry half of `cleanup_session`. -/
theorem agreesAt_cleanupClient (h : Agreement s) (client : ClientId) :
    AgreesAt (s.step (.cleanupClient client)) client
      ((s.step (.cleanupClient client)).sessions client) := by
  have hClient := h.clients client
  cases hx : s.sessions client with
  | none =>
    rw [step_idle (by simp [Gateway.localStep, hx]) rfl]
    exact hClient
  | some x =>
    obtain ⟨phase, feed, subscriptions, sent⟩ := x
    cases phase with
    | unrouted =>
      rw [hx] at hClient
      have hStep : s.step (.cleanupClient client) =
          { s.setSession client ⟨.released, feed, subscriptions, sent⟩ with
            subscriptions := (s.subscriptions.cleanupClient client).registry } := by
        simp [Gateway.step, Gateway.localStep, Gateway.hubOps, Gateway.setSession, hx]
      rw [hStep]
      dsimp only
      rw [setSession_sessions, if_pos rfl]
      -- only the registry changes; the route is gone already
      refine ⟨False.elim, fun _ => ?_, False.elim, fun _ => hClient.unrouted id, False.elim⟩
      show (s.subscriptions.cleanupClient client).registry.state.clientSet client = ∅
      rw [cleanupClient_clientSet, if_pos rfl]
    | selecting | routing | replying | closing | released | ended =>
      rw [step_idle (by simp [Gateway.localStep, hx]) rfl]
      exact hClient

/-- Dropping the feed concerns neither store. -/
theorem agreesAt_dropFeed (h : Agreement s) (client : ClientId) :
    AgreesAt (s.step (.dropFeed client)) client
      ((s.step (.dropFeed client)).sessions client) := by
  have hClient := h.clients client
  cases hx : s.sessions client with
  | none =>
    rw [step_idle (by simp [Gateway.localStep, hx]) (by simp [Gateway.hubOps, hx])]
    exact hClient
  | some x =>
    obtain ⟨phase, feed, subscriptions, sent⟩ := x
    cases phase with
    | released =>
      rw [hx] at hClient
      have hStep : s.step (.dropFeed client) =
          { s.setSession client ⟨.ended, feed, subscriptions, sent⟩ with
            hub := s.hub.mapFeed feed Feed.dropReceiver } := by
        simp [Gateway.step, Gateway.localStep, Gateway.hubOps, GatewayHub.step, hx]
      rw [hStep]
      dsimp only
      rw [setSession_sessions, if_pos rfl]
      -- the queue of a client that is in no table any more
      exact ⟨False.elim, fun _ => hClient.released id, False.elim,
        fun _ => hClient.unrouted id, False.elim⟩
    | selecting | routing | replying | closing | unrouted | ended =>
      rw [step_idle (by simp [Gateway.localStep, hx]) (by simp [Gateway.hubOps, hx])]
      exact hClient

/-- **Every step keeps the agreement**, for the acting client and for every
bystander. -/
theorem agreement_step (h : Agreement s) (op : GatewayOp) : Agreement (s.step op) := by
  refine ⟨sessionInvariant_step h.session op, (registry_step h.registry op).1, fun c => ?_⟩
  -- a step can disturb the agreement only for the client that takes it
  by_cases hActor : op.actor = some c
  swap
  · exact agreesAt_bystander h hActor
  cases op with
  | number event => exact absurd hActor (by simp [GatewayOp.actor])
  | route => exact absurd hActor (by simp [GatewayOp.actor])
  | connect client helloSent =>
    obtain rfl := Option.some.inj hActor
    exact agreesAt_connect h client helloSent
  | incoming client catalog order message =>
    obtain rfl := Option.some.inj hActor
    exact agreesAt_incoming h client catalog order message
  | updateRoutes client =>
    obtain rfl := Option.some.inj hActor
    exact agreesAt_updateRoutes h client
  | reply client sent =>
    obtain rfl := Option.some.inj hActor
    exact agreesAt_reply h client sent
  | deliver client sent =>
    obtain rfl := Option.some.inj hActor
    exact agreesAt_select h (fun x => (s.deliverEvent client x sent).session)
      (fun x => (s.deliverEvent client x sent).hubOps) rfl rfl
      fun x hPhase => deliverEvent_follows s client hPhase sent
  | lag client sent =>
    obtain rfl := Option.some.inj hActor
    refine agreesAt_select h (fun x => s.reportLag client x sent) (fun _ => []) rfl ?_
      fun x hPhase => ⟨reportLag_follows s client hPhase sent, by simp⟩
    cases s.sessions client <;> simp [Gateway.hubOps]
  | shutdown client =>
    obtain rfl := Option.some.inj hActor
    refine agreesAt_select h (fun x => { x with phase := .closing }) (fun _ => []) rfl ?_
      fun x hPhase => ⟨Session.follows_closing hPhase rfl rfl rfl, by simp⟩
    cases s.sessions client <;> simp [Gateway.hubOps]
  | removeClient client =>
    obtain rfl := Option.some.inj hActor
    exact agreesAt_removeClient h client
  | cleanupClient client =>
    obtain rfl := Option.some.inj hActor
    exact agreesAt_cleanupClient h client
  | dropFeed client =>
    obtain rfl := Option.some.inj hActor
    exact agreesAt_dropFeed h client

end Steps

-- ---------------------------------------------------------------------------
-- Every run
-- ---------------------------------------------------------------------------

/-- Without sessions there is nothing to agree on. -/
theorem agreement_start (config : ApiConfig) (epoch : Uuid)
    (capacity maxClients maxPerClient : Nat) (limits : ProviderLimits) :
    Agreement (.start config epoch capacity maxClients maxPerClient limits) := by
  refine ⟨sessionInvariant_start config epoch capacity maxClients maxPerClient limits,
    registryInvariant_init maxPerClient limits, fun c => ?_⟩
  show Gateway.registered _ c = ∅ ∧ RouteState.handle _ c = none
  exact ⟨rfl, rfl⟩

/-- The session of the client has finished `cleanup_session`, or there is none:
the client was turned away at capacity or never came. -/
def Gateway.Departed (s : Gateway) (client : ClientId) : Prop :=
  ∀ x, s.sessions client = some x → x.phase = .released ∨ x.phase = .ended

/-- Nothing is left of a client that departed. -/
theorem Agreement.departed {s : Gateway} (h : Agreement s) {c : ClientId} (hc : s.Departed c) :
    s.registered c = ∅ ∧ s.hub.routes.handle c = none := by
  have hClient := h.clients c
  cases hx : s.sessions c with
  | none =>
    rw [hx] at hClient
    exact hClient
  | some x =>
    rw [hx] at hClient
    have hOver : ¬ x.phase.Held ∧ ¬ x.phase.Routed := by
      rcases hc x hx with hPhase | hPhase
      · rw [hPhase]
        exact ⟨id, id⟩
      · rw [hPhase]
        exact ⟨id, id⟩
    exact ⟨hClient.released hOver.1, hClient.unrouted hOver.2⟩

/-- Neither store has an entry left for a client that departed. -/
theorem Agreement.lookup_departed {s : Gateway} (h : Agreement s) {c : ClientId}
    (hc : s.Departed c) :
    s.subscriptions.state.clients.lookup c = none ∧ s.hub.routes.clients.lookup c = none ∧
    ∀ key, c ∉ s.hub.routes.listed key := by
  obtain ⟨hEmpty, hNone⟩ := h.departed hc
  refine ⟨?_, Option.map_eq_none_iff.mp hNone, fun key hListed => ?_⟩
  · -- the registry keeps no empty set
    cases hLookup : s.subscriptions.state.clients.lookup c with
    | none => rfl
    | some keys =>
      rw [Gateway.registered, RegistryState.clientSet, hLookup, Option.getD_some] at hEmpty
      rw [hEmpty] at hLookup
      exact absurd hLookup (h.registry.nonempty c)
  · rw [h.session.hub.routes.index, RouteState.subscribed_of_handle_none hNone] at hListed
    exact Finset.notMem_empty _ hListed

/-- Without clients the registry wants nothing from any provider. -/
theorem Agreement.desired_eq_empty {s : Gateway} (h : Agreement s) (hAll : ∀ c, s.Departed c) :
    s.subscriptions.state.desired = ∅ := by
  rw [h.registry.desired, Finset.eq_empty_iff_forall_notMem]
  intro key hKey
  rw [Demand.mem_desired] at hKey
  obtain ⟨c, hHolds⟩ := hKey
  rw [RegistryState.mem_demand] at hHolds
  have hEmpty := (h.departed (hAll c)).1
  rw [Gateway.registered] at hEmpty
  rw [hEmpty] at hHolds
  exact Finset.notMem_empty _ hHolds

/-- **Sessions, registry and hub agree.** After every run of the gateway: a
session at its select loop remembers exactly the set the registry holds for
its client, and, unless its feed overran, the hub routes exactly that set to
its feed; nothing is held for a client that was turned away or whose session
finished its clean-up; and with all sessions over, the hub has neither clients
nor key routes and the desired snapshot is empty. -/
theorem sessions_agree [Unicode] (config : ApiConfig) (epoch : Uuid)
    (capacity maxClients maxPerClient : Nat) (limits : ProviderLimits) (ops : List GatewayOp) :
    let s := run Gateway.step (.start config epoch capacity maxClients maxPerClient limits) ops
    (∀ c x, s.sessions c = some x → x.phase = .selecting →
      s.subscriptions.state.clientSet c = x.subscriptions ∧
      ((s.hub.feeds x.feed).lagged = 0 →
        s.hub.routes.clients.lookup c = some ⟨x.feed, x.subscriptions⟩)) ∧
    (∀ c, s.Departed c →
      s.subscriptions.state.clients.lookup c = none ∧ s.hub.routes.clients.lookup c = none ∧
      ∀ key, c ∉ s.hub.routes.listed key) ∧
    ((∀ c, s.Departed c) →
      s.hub.routes.clients = ∅ ∧ s.hub.routes.clientsByKey = ∅ ∧
      s.subscriptions.state.desired = ∅ ∧ s.subscriptions.desired = ∅) := by
  intro s
  have h : Agreement s :=
    run_invariant (P := Agreement) (fun _ op hAgree => agreement_step hAgree op)
      (agreement_start config epoch capacity maxClients maxPerClient limits) ops
  refine ⟨fun c x hx hPhase => ?_, fun c hc => h.lookup_departed hc, fun hAll => ?_⟩
  · have hClient := h.clients c
    rw [hx] at hClient
    refine ⟨hClient.held (by rw [hPhase]; trivial), fun hLag => ?_⟩
    -- as long as nothing was lost, the route wants what the session says
    obtain ⟨hHandle, -⟩ := hClient.routed (by rw [hPhase]; trivial)
    have hSub := hClient.settled (by rw [hPhase]; trivial) hLag
    obtain ⟨route, hLookup, hFeed⟩ := Option.map_eq_some_iff.mp hHandle
    rw [RouteState.subscribed, hLookup] at hSub
    rw [hLookup, ← hFeed, ← hSub]
    rfl
  · have hDesired := h.desired_eq_empty hAll
    refine ⟨?_, ?_, hDesired, h.registry.snapshot.trans hDesired⟩
    · refine Finmap.ext_lookup fun c => ?_
      rw [(h.lookup_departed (hAll c)).2.1, Finmap.lookup_empty]
    · refine Finmap.ext_lookup fun key => ?_
      rw [Finmap.lookup_empty]
      cases hLookup : s.hub.routes.clientsByKey.lookup key with
      | none => rfl
      | some listed =>
        -- an entry lists at least one client, which contradicts that all have
        -- departed
        have hNonempty : listed ≠ ∅ := by
          intro hEmpty
          rw [hEmpty] at hLookup
          exact h.session.hub.routes.noEmptyKey key hLookup
        obtain ⟨c, hc⟩ := Finset.nonempty_iff_ne_empty.mpr hNonempty
        refine absurd ?_ ((h.lookup_departed (hAll c)).2.2 key)
        rw [RouteState.listed, hLookup]
        exact hc

end MarketStreamGateway
