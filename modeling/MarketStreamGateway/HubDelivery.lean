import MarketStreamGateway.Hub

/-!
# Market Stream Gateway — delivery through the hub

What a registered client finds in its queue, over every interleaving of
registrations, updates, removals, publishers and receivers.

A route state is read through two functions of the client: its feed handle
(`RouteState.handle`) and its key set (`RouteState.subscribed`). One lemma per
operation says what it does to both; `RouteInvariant` is the two-way index.
`Registration` replays the observable history for one feed and says what the
feed is owed; `Delivery` relates it to the state.

Main results:
* `delivery_after` — the relation holds after every run.
* `hub_delivery` — the queue of a live registration that never overran is
  exactly what it is owed, numbered and stamped by the hub.
-/

namespace MarketStreamGateway

open Lib

/-! ## Routes, operation by operation -/

namespace RouteState

variable (r : RouteState) (client : ClientId)

/-- The feed handle of a client's route. -/
def handle : Option FeedId := (r.clients.lookup client).map ClientRoute.events

/-- A client that is not registered wants nothing. -/
theorem subscribed_of_handle_none {r : RouteState} {client : ClientId}
    (h : r.handle client = none) : r.subscribed client = ∅ := by
  rw [subscribed, Option.map_eq_none_iff.mp h]
  rfl

@[simp] theorem removeKeyRoute_clients (key : SubscriptionKey) :
    (removeKeyRoute client r key).clients = r.clients := by
  unfold removeKeyRoute
  split
  · rfl
  · dsimp only
    split <;> rfl

/-- Taking a client off a key changes the entry of that key only. -/
theorem listed_removeKeyRoute (key k : SubscriptionKey) :
    (removeKeyRoute client r key).listed k =
      if k = key then (r.listed k).erase client else r.listed k := by
  unfold removeKeyRoute
  -- a key without clients has no entry, so there is none to leave empty
  cases hLookup : r.clientsByKey.lookup key with
  | none =>
    by_cases hk : k = key
    · subst hk
      simp [listed, hLookup]
    · simp [hk]
  | some clientIds =>
    dsimp only
    by_cases hk : k = key
    · subst hk
      split
      · next hEmpty => simp [listed, hLookup, hEmpty]
      · simp [listed, hLookup]
    · split
      · simp [listed, hk]
      · simp [listed, hk]

/-- Putting a client on a key changes the entry of that key only. -/
theorem listed_addKeyRoute (key k : SubscriptionKey) :
    (addKeyRoute client r key).listed k =
      if k = key then insert client (r.listed k) else r.listed k := by
  rw [listed, addKeyRoute, lookup_insert_ite]
  split
  · next hk => rw [hk, Option.getD_some]
  · rfl

/-- The loops over key sets leave the table of clients alone. -/
theorem foldl_removeKeyRoute_clients (keys : List SubscriptionKey) :
    (keys.foldl (removeKeyRoute client) r).clients = r.clients := by
  induction keys generalizing r with
  | nil => rfl
  | cons key keys ih => rw [List.foldl_cons, ih, removeKeyRoute_clients]

theorem foldl_addKeyRoute_clients (keys : List SubscriptionKey) :
    (keys.foldl (addKeyRoute client) r).clients = r.clients := by
  induction keys generalizing r with
  | nil => rfl
  | cons key keys ih => rw [List.foldl_cons, ih, addKeyRoute]

/-- The loop of a removal takes the client off every key of the list. -/
theorem listed_foldl_removeKeyRoute (keys : List SubscriptionKey) (k : SubscriptionKey) :
    (keys.foldl (removeKeyRoute client) r).listed k =
      if k ∈ keys then (r.listed k).erase client else r.listed k := by
  induction keys generalizing r with
  | nil => simp
  | cons key keys ih =>
    rw [List.foldl_cons, ih, listed_removeKeyRoute]
    by_cases hk : k = key
    · simp [hk]
    · simp [hk]

/-- The loop of an update puts the client on every key of the list. -/
theorem listed_foldl_addKeyRoute (keys : List SubscriptionKey) (k : SubscriptionKey) :
    (keys.foldl (addKeyRoute client) r).listed k =
      if k ∈ keys then insert client (r.listed k) else r.listed k := by
  induction keys generalizing r with
  | nil => simp
  | cons key keys ih =>
    rw [List.foldl_cons, ih, listed_addKeyRoute]
    by_cases hk : k = key
    · simp [hk]
    · simp [hk]

/-- No key is kept with an empty client set. -/
def NoEmptyKey : Prop := ∀ key, r.clientsByKey.lookup key ≠ some ∅

variable {r} in
/-- A key that loses its last client loses its entry, so none is left empty. -/
theorem noEmptyKey_foldl_removeKeyRoute (h : r.NoEmptyKey) (keys : List SubscriptionKey) :
    (keys.foldl (removeKeyRoute client) r).NoEmptyKey := by
  induction keys generalizing r with
  | nil => exact h
  | cons key keys ih =>
    refine ih fun k => ?_
    unfold removeKeyRoute
    split
    · exact h k
    · dsimp only
      split
      · rw [lookup_erase_ite]
        split
        · simp
        · exact h k
      · -- what is put back has a client left
        next hRemain =>
        rw [lookup_insert_ite]
        split
        · simpa using hRemain
        · exact h k

variable {r} in
/-- Adding a client makes no entry empty. -/
theorem noEmptyKey_foldl_addKeyRoute (h : r.NoEmptyKey) (keys : List SubscriptionKey) :
    (keys.foldl (addKeyRoute client) r).NoEmptyKey := by
  induction keys generalizing r with
  | nil => exact h
  | cons key keys ih =>
    refine ih fun k => ?_
    rw [addKeyRoute, lookup_insert_ite]
    split
    · simp
    · exact h k

/-! ### What the operations do to handles and key sets -/

@[simp] theorem setSubscriptions_clientsByKey (subscriptions : Finset SubscriptionKey) :
    (r.setSubscriptions client subscriptions).clientsByKey = r.clientsByKey := by
  unfold setSubscriptions
  split <;> rfl

/-- A new key set keeps the channel of its client. -/
theorem handle_setSubscriptions (subscriptions : Finset SubscriptionKey) (c : ClientId) :
    (r.setSubscriptions client subscriptions).handle c = r.handle c := by
  unfold setSubscriptions
  cases hLookup : r.clients.lookup client with
  | none => rfl
  | some route =>
    simp only [handle, lookup_insert_ite]
    by_cases hc : c = client
    · subst hc
      simp [hLookup]
    · simp [hc]

/-- A key set is replaced only for a client that is registered. -/
theorem subscribed_setSubscriptions (subscriptions : Finset SubscriptionKey) (c : ClientId) :
    (r.setSubscriptions client subscriptions).subscribed c =
      if c = client ∧ (r.handle client).isSome then subscriptions else r.subscribed c := by
  unfold setSubscriptions
  cases hLookup : r.clients.lookup client with
  | none => simp [handle, hLookup]
  | some route =>
    simp only [handle, subscribed, lookup_insert_ite, hLookup]
    by_cases hc : c = client
    · simp [hc]
    · simp [hc]

/-- Only a client that is dropped loses its channel. -/
theorem handle_removeRoute (dropClient : Bool) (c : ClientId) :
    (r.removeRoute client dropClient).handle c =
      if c = client ∧ dropClient then none else r.handle c := by
  have hKept : ((iter (r.subscribed client)).foldl (removeKeyRoute client)
      (r.setSubscriptions client ∅)).handle c = r.handle c := by
    rw [handle, foldl_removeKeyRoute_clients, ← handle, handle_setSubscriptions]
  cases dropClient with
  | false => simpa [removeRoute] using hKept
  | true =>
    by_cases hc : c = client
    · subst hc
      simp [removeRoute, handle]
    · rw [if_neg (fun h => hc h.1), ← hKept]
      simp [removeRoute, handle, hc]

/-- A client that is taken out wants nothing, dropped or not. -/
theorem subscribed_removeRoute (dropClient : Bool) (c : ClientId) :
    (r.removeRoute client dropClient).subscribed c =
      if c = client then ∅ else r.subscribed c := by
  -- the keys go first; the entry of the client goes with them if it is dropped
  have hKept : ((iter (r.subscribed client)).foldl (removeKeyRoute client)
      (r.setSubscriptions client ∅)).subscribed c = if c = client then ∅ else r.subscribed c := by
    rw [subscribed, foldl_removeKeyRoute_clients, ← subscribed, subscribed_setSubscriptions]
    by_cases hc : c = client
    · subst hc
      cases hHandle : r.handle c with
      | none => simp [subscribed_of_handle_none hHandle]
      | some feed => simp
    · simp [hc]
  cases dropClient with
  | false => simpa [removeRoute] using hKept
  | true =>
    by_cases hc : c = client
    · subst hc
      simp [removeRoute, subscribed]
    · rw [← hKept]
      simp [removeRoute, subscribed, hc]

/-- A client that is taken out is off every key it wanted. -/
theorem listed_removeRoute (dropClient : Bool) (k : SubscriptionKey) :
    (r.removeRoute client dropClient).listed k =
      if k ∈ r.subscribed client then (r.listed k).erase client else r.listed k := by
  have hKept : ((iter (r.subscribed client)).foldl (removeKeyRoute client)
      (r.setSubscriptions client ∅)).listed k =
      if k ∈ r.subscribed client then (r.listed k).erase client else r.listed k := by
    rw [listed_foldl_removeKeyRoute]
    simp [listed]
  unfold removeRoute
  split
  · exact hKept
  · exact hKept

end RouteState

/-! ## The two-way index -/

/-- A client is listed under exactly the keys of its subscription set. -/
structure RouteInvariant (r : RouteState) : Prop where
  index : ∀ key c, c ∈ r.listed key ↔ key ∈ r.subscribed c
  noEmptyKey : r.NoEmptyKey

/-- Taking a client out keeps the two tables in step. -/
theorem routeInvariant_removeRoute {r : RouteState} (h : RouteInvariant r) (client : ClientId)
    (dropClient : Bool) : RouteInvariant (r.removeRoute client dropClient) := by
  constructor
  · intro key c
    rw [RouteState.listed_removeRoute, RouteState.subscribed_removeRoute]
    by_cases hc : c = client
    · subst hc
      by_cases hk : key ∈ r.subscribed c
      · simp [hk]
      · simp [hk, h.index]
    · by_cases hk : key ∈ r.subscribed client
      · simp [hk, hc, h.index]
      · simp [hk, hc, h.index]
  · -- no empty entry stays, whether the client is dropped or not
    have hKept : ((iter (r.subscribed client)).foldl (RouteState.removeKeyRoute client)
        (r.setSubscriptions client ∅)).NoEmptyKey := by
      refine RouteState.noEmptyKey_foldl_removeKeyRoute client (fun key => ?_) _
      rw [RouteState.setSubscriptions_clientsByKey]
      exact h.noEmptyKey key
    unfold RouteState.removeRoute
    split
    · exact hKept
    · exact hKept

/-- Withdrawing a list of clients, one after the other. -/
theorem removeRoutes_spec {r : RouteState} (h : RouteInvariant r) (dropClient : Bool)
    (clients : List ClientId) :
    RouteInvariant (clients.foldl (·.removeRoute · dropClient) r) ∧
    (∀ c, (clients.foldl (·.removeRoute · dropClient) r).subscribed c =
      if c ∈ clients then ∅ else r.subscribed c) ∧
    (∀ c, (clients.foldl (·.removeRoute · dropClient) r).handle c =
      if c ∈ clients ∧ dropClient then none else r.handle c) := by
  induction clients generalizing r with
  | nil => simp [h]
  | cons client clients ih =>
    obtain ⟨hInv, hSub, hHandle⟩ := ih (routeInvariant_removeRoute h client dropClient)
    -- the first client goes, then the others; none comes back
    refine ⟨hInv, fun c => ?_, fun c => ?_⟩
    · rw [List.foldl_cons, hSub, RouteState.subscribed_removeRoute]
      by_cases hc : c = client
      · simp [hc]
      · simp [hc]
    · rw [List.foldl_cons, hHandle, RouteState.handle_removeRoute]
      by_cases hc : c = client
      · cases dropClient <;> simp [hc]
      · simp [hc]

/-- An update keeps the tables in step, every channel in place, and gives a
registered client the set it asked for. -/
theorem routeInvariant_update {h : GatewayHub} (hRoutes : RouteInvariant h.routes)
    (client : ClientId) (subscriptions : Finset SubscriptionKey) :
    RouteInvariant (h.updateClientSubscriptions client subscriptions).2.routes ∧
    (∀ c, (h.updateClientSubscriptions client subscriptions).2.routes.handle c =
      h.routes.handle c) ∧
    (∀ c, (h.updateClientSubscriptions client subscriptions).2.routes.subscribed c =
      if c = client ∧ (h.routes.handle client).isSome then subscriptions
      else h.routes.subscribed c) := by
  unfold GatewayHub.updateClientSubscriptions
  cases hLookup : h.routes.clients.lookup client with
  | none =>
    refine ⟨hRoutes, fun _ => rfl, fun c => ?_⟩
    simp [RouteState.handle, hLookup]
  | some route =>
    have hCurrent : h.routes.subscribed client = route.subscriptions := by
      simp [RouteState.subscribed, hLookup]
    have hRouted : (h.routes.handle client).isSome := by simp [RouteState.handle, hLookup]
    dsimp only
    -- the loops edit the index only; the client's own entry is set afterwards
    set listed := (iter (subscriptions \ route.subscriptions)).foldl
      (RouteState.addKeyRoute client) ((iter (route.subscriptions \ subscriptions)).foldl
        (RouteState.removeKeyRoute client) h.routes) with hListed
    have hClients : listed.clients = h.routes.clients := by
      rw [hListed, RouteState.foldl_addKeyRoute_clients, RouteState.foldl_removeKeyRoute_clients]
    have hHandle : ∀ c, listed.handle c = h.routes.handle c := by
      intro c
      rw [RouteState.handle, hClients, RouteState.handle]
    have hSub : ∀ c, (listed.setSubscriptions client subscriptions).subscribed c =
        if c = client ∧ (h.routes.handle client).isSome then subscriptions
        else h.routes.subscribed c := by
      intro c
      rw [RouteState.subscribed_setSubscriptions, hHandle, RouteState.subscribed, hClients,
        ← RouteState.subscribed]
    refine ⟨⟨fun key c => ?_, fun key => ?_⟩, fun c => ?_, hSub⟩
    · rw [hSub, RouteState.listed, RouteState.setSubscriptions_clientsByKey, ← RouteState.listed,
        hListed, RouteState.listed_foldl_addKeyRoute, RouteState.listed_foldl_removeKeyRoute]
      have hIndex := hRoutes.index key c
      by_cases hc : c = client
      · subst hc
        rw [hCurrent] at hIndex
        -- the index of a key changes exactly if one of the two sets has it
        by_cases hOld : key ∈ route.subscriptions <;> by_cases hNew : key ∈ subscriptions <;>
          simp [hRouted, hOld, hNew, hIndex]
      · by_cases hOld : key ∈ route.subscriptions <;> by_cases hNew : key ∈ subscriptions <;>
          simp [hc, hOld, hNew, hIndex]
    · rw [RouteState.setSubscriptions_clientsByKey]
      exact RouteState.noEmptyKey_foldl_addKeyRoute client
        (RouteState.noEmptyKey_foldl_removeKeyRoute client hRoutes.noEmptyKey _) _ key
    · rw [RouteState.handle_setSubscriptions, hHandle]

/-- A registration takes an earlier one of the same client out first. -/
theorem routeInvariant_register {h : GatewayHub} (hRoutes : RouteInvariant h.routes)
    (client : ClientId) (feed : FeedId) :
    let vacated := h.routes.removeRoute client true
    let routes : RouteState :=
      { vacated with clients := vacated.clients.insert client ⟨feed, ∅⟩ }
    RouteInvariant routes ∧
    (∀ c, routes.handle c = if c = client then some feed else h.routes.handle c) ∧
    (∀ c, routes.subscribed c = if c = client then ∅ else h.routes.subscribed c) := by
  intro vacated routes
  -- an earlier registration is cleared before the new one is made
  have hVacated := routeInvariant_removeRoute hRoutes client true
  have hSub : ∀ c, routes.subscribed c = vacated.subscribed c := by
    intro c
    by_cases hc : c = client
    · subst hc
      rw [RouteState.subscribed_removeRoute]
      simp [routes, RouteState.subscribed]
    · simp [routes, RouteState.subscribed, hc]
  refine ⟨⟨fun key c => ?_, hVacated.noEmptyKey⟩, fun c => ?_, fun c => ?_⟩
  · rw [hSub]
    exact hVacated.index key c
  · by_cases hc : c = client
    · subst hc
      simp [routes, RouteState.handle]
    · have hKept := RouteState.handle_removeRoute h.routes client true c
      rw [if_neg fun h => hc h.1] at hKept
      rw [if_neg hc, ← hKept]
      simp [routes, vacated, RouteState.handle, hc]
  · rw [hSub, RouteState.subscribed_removeRoute]

/-! ## Fan-out -/

/-- Why a feed does not take an event, if it does not. -/
def Feed.refusal (f : Feed) (event : MarketEvent) : Option TrySendError :=
  match f.trySend event with
  | .ok _ => none
  | .error error => some error

/-- Why the feed of a client's route does not take an event. -/
def refusal (routes : RouteState) (feeds : FeedId → Feed) (event : MarketEvent)
    (client : ClientId) : Option TrySendError :=
  (routes.handle client).bind fun feed => (feeds feed).refusal event

/-- No two clients share a feed. -/
def RouteState.Distinct (r : RouteState) : Prop :=
  ∀ c c' feed, r.handle c = some feed → r.handle c' = some feed → c = c'

/-- One round of the fan-out, by what the channel of the client answers. -/
theorem Fanout.offer_eq (routes : RouteState) (event : MarketEvent) (acc : Fanout)
    (client : ClientId) :
    acc.offer routes event client =
      { feeds := match routes.handle client with
          | none => acc.feeds
          | some feed => Function.update acc.feeds feed ((acc.feeds feed).offer event)
        lagged := if refusal routes acc.feeds event client = some .full
          then acc.lagged ++ [client] else acc.lagged
        closed := if refusal routes acc.feeds event client = some .closed
          then acc.closed ++ [client] else acc.closed } := by
  unfold Fanout.offer
  cases hLookup : routes.clients.lookup client with
  | none => simp [refusal, RouteState.handle, hLookup]
  -- the sending fails for the reason that refuses the event
  | some route =>
    have hHandle : routes.handle client = some route.events := by
      simp [RouteState.handle, hLookup]
    simp only [refusal, hHandle, Option.bind_some, Feed.refusal, Feed.offer]
    split
    · next hSend => simp [hSend]
    · next hSend => simp [hSend]
    · next hSend => simp [hSend]

/-- What the fan-out loop leaves behind: every feed of a listed client has
been offered the event once, and the clients whose feed refused it are
collected by reason. -/
structure FannedOut (routes : RouteState) (feeds : FeedId → Feed) (event : MarketEvent)
    (clients lagged closed : List ClientId) (result : Fanout) : Prop where
  offered : ∀ client ∈ clients, ∀ feed, routes.handle client = some feed →
    result.feeds feed = (feeds feed).offer event
  untouched : ∀ feed, (∀ client ∈ clients, routes.handle client ≠ some feed) →
    result.feeds feed = feeds feed
  lagged : result.lagged =
    lagged ++ clients.filter fun c => refusal routes feeds event c = some .full
  closed : result.closed =
    closed ++ clients.filter fun c => refusal routes feeds event c = some .closed

/-- The fan-out offers the event once to each listed client, and collects those
that refused it by reason. The induction is over the clients still to come;
channels are distinct, so an offer changes no other. -/
theorem fanout_spec {routes : RouteState} (hDistinct : routes.Distinct) (feeds : FeedId → Feed)
    (event : MarketEvent) {clients : List ClientId} (hNodup : clients.Nodup)
    (lagged closed : List ClientId) :
    FannedOut routes feeds event clients lagged closed
      (clients.foldl (Fanout.offer routes event) ⟨feeds, lagged, closed⟩) := by
  induction clients generalizing feeds lagged closed with
  | nil => constructor <;> simp
  | cons client clients ih =>
    obtain ⟨hNotMem, hRest⟩ := List.nodup_cons.mp hNodup
    rw [List.foldl_cons, Fanout.offer_eq]
    dsimp only
    generalize hFirst : (match routes.handle client with
      | none => feeds
      | some feed => Function.update feeds feed ((feeds feed).offer event)) = feeds₁
    -- the first round leaves the feeds of the other clients alone
    have hOther : ∀ feed, routes.handle client ≠ some feed → feeds₁ feed = feeds feed := by
      intro feed hNe
      rw [← hFirst]
      cases hHandle : routes.handle client with
      | none => rfl
      | some f =>
        have hNeFeed : feed ≠ f := fun h => hNe (by rw [hHandle, h])
        simp [Function.update_of_ne hNeFeed]
    have hApart : ∀ c ∈ clients, ∀ feed, routes.handle c = some feed →
        routes.handle client ≠ some feed := by
      intro c hc feed hFeed hClient
      exact hNotMem (hDistinct c client feed hFeed hClient ▸ hc)
    have hRefusal : ∀ c ∈ clients,
        refusal routes feeds₁ event c = refusal routes feeds event c := by
      intro c hc
      unfold refusal
      cases hHandle : routes.handle c with
      | none => rfl
      | some feed => simp [hOther feed (hApart c hc feed hHandle)]
    have hFilter : ∀ error, (clients.filter fun c => refusal routes feeds₁ event c = some error) =
        clients.filter fun c => refusal routes feeds event c = some error := by
      intro error
      exact List.filter_congr fun c hc => by rw [hRefusal c hc]
    have hIh := ih feeds₁ hRest
      (if refusal routes feeds event client = some .full then lagged ++ [client] else lagged)
      (if refusal routes feeds event client = some .closed then closed ++ [client] else closed)
    refine ⟨fun c hc feed hFeed => ?_, fun feed hNone => ?_, ?_, ?_⟩
    · rcases List.mem_cons.mp hc with rfl | hc
      · rw [hIh.untouched feed fun c' hc' h => hApart c' hc' feed h hFeed, ← hFirst, hFeed]
        simp
      · rw [hIh.offered c hc feed hFeed, hOther feed (hApart c hc feed hFeed)]
    · rw [hIh.untouched feed fun c hc => hNone c (List.mem_cons_of_mem _ hc),
        hOther feed (hNone client List.mem_cons_self)]
    · rw [hIh.lagged, hFilter, List.filter_cons]
      by_cases hFull : refusal routes feeds event client = some .full
      · simp [hFull]
      · simp [hFull]
    · rw [hIh.closed, hFilter, List.filter_cons]
      by_cases hClosed : refusal routes feeds event client = some .closed
      · simp [hClosed]
      · simp [hClosed]

/-- What routing an event does, client by client and feed by feed. -/
structure Routed (h : GatewayHub) (event : MarketEvent) (result : GatewayHub) : Prop where
  invariant : RouteInvariant result.routes
  /-- Listed clients are offered the event; a refusal empties their key set. -/
  subscribed : ∀ c, result.routes.subscribed c =
    if event.subscriptionKey ∈ h.routes.subscribed c ∧
      refusal h.routes h.feeds event c ≠ none then ∅ else h.routes.subscribed c
  handle : ∀ c, result.routes.handle c =
    if event.subscriptionKey ∈ h.routes.subscribed c ∧
      refusal h.routes h.feeds event c = some .closed then none else h.routes.handle c
  offered : ∀ c feed, event.subscriptionKey ∈ h.routes.subscribed c →
    h.routes.handle c = some feed → result.feeds feed = (h.feeds feed).offer event
  untouched : ∀ feed, (∀ c, event.subscriptionKey ∈ h.routes.subscribed c →
    h.routes.handle c ≠ some feed) → result.feeds feed = h.feeds feed

/-- After the fan-out the clients that refused are taken off their keys, and
the closed ones are dropped. -/
theorem routeEvent_spec {h : GatewayHub} (hRoutes : RouteInvariant h.routes)
    (hDistinct : h.routes.Distinct) (event : MarketEvent) :
    Routed h event (h.routeEvent event) := by
  -- every client of the key is offered the event once
  have hFan := fanout_spec hDistinct h.feeds event
    (iter_nodup (h.routes.listed event.subscriptionKey)) [] []
  have hListed : ∀ c, c ∈ iter (h.routes.listed event.subscriptionKey) ↔
      event.subscriptionKey ∈ h.routes.subscribed c := by
    intro c
    rw [mem_iter, hRoutes.index]
  unfold GatewayHub.routeEvent
  dsimp only
  generalize (iter (h.routes.listed event.subscriptionKey)).foldl
    (Fanout.offer h.routes event) ⟨h.feeds, [], []⟩ = fanout at hFan ⊢
  have hLagged : ∀ c, c ∈ fanout.lagged ↔ event.subscriptionKey ∈ h.routes.subscribed c ∧
      refusal h.routes h.feeds event c = some .full := by
    intro c
    rw [hFan.lagged, List.nil_append, List.mem_filter, hListed, decide_eq_true_eq]
  have hClosed : ∀ c, c ∈ fanout.closed ↔ event.subscriptionKey ∈ h.routes.subscribed c ∧
      refusal h.routes h.feeds event c = some .closed := by
    intro c
    rw [hFan.closed, List.nil_append, List.mem_filter, hListed, decide_eq_true_eq]
  -- full queues lose their keys, closed ones their client
  obtain ⟨hStopped, hStoppedSub, hStoppedHandle⟩ := removeRoutes_spec hRoutes false fanout.lagged
  obtain ⟨hInv, hSub, hHandle⟩ := removeRoutes_spec hStopped true fanout.closed
  refine ⟨hInv, fun c => ?_, fun c => ?_, fun c feed hKey hFeed => ?_, fun feed hNone => ?_⟩
  · dsimp only
    rw [hSub, hStoppedSub]
    simp only [hLagged, hClosed]
    by_cases hKey : event.subscriptionKey ∈ h.routes.subscribed c
    · -- a client that accepted the event keeps its keys
      cases hRefusal : refusal h.routes h.feeds event c with
      | none => simp
      | some error => cases error <;> simp [hKey]
    · simp [hKey]
  · dsimp only
    rw [hHandle, hStoppedHandle]
    simp [hClosed]
  · exact hFan.offered c ((hListed c).mpr hKey) feed hFeed
  · exact hFan.untouched feed fun c hc => hNone c ((hListed c).mp hc)

/-! ## The hub invariant -/

/-- What every reachable hub satisfies: the tables are in step, no two clients
share a channel, and every channel in use was handed out. -/
structure HubInvariant (h : GatewayHub) : Prop where
  routes : RouteInvariant h.routes
  distinct : h.routes.Distinct
  allocated : ∀ c feed, h.routes.handle c = some feed → feed < h.nextFeed

/-- An empty hub is in order. -/
theorem hubInvariant_init (epoch : Uuid) (capacity maxClients : Nat) :
    HubInvariant (.withClientLimit epoch capacity maxClients) := by
  have hNone : ∀ c, (GatewayHub.withClientLimit epoch capacity maxClients).routes.handle c =
      none := fun c => rfl
  refine ⟨⟨fun key c => ?_, fun key => ?_⟩, fun c c' feed hc => ?_, fun c feed hc => ?_⟩
  · simp [GatewayHub.withClientLimit, RouteState.listed, RouteState.subscribed]
  · simp [GatewayHub.withClientLimit]
  · simp [hNone] at hc
  · simp [hNone] at hc

/-- A successful registration, client by client and feed by feed. -/
structure Registered (h : GatewayHub) (client : ClientId) (result : GatewayHub) : Prop where
  routes : RouteInvariant result.routes
  handle : ∀ c, result.routes.handle c =
    if c = client then some h.nextFeed else h.routes.handle c
  subscribed : ∀ c, result.routes.subscribed c = if c = client then ∅ else h.routes.subscribed c
  feeds : result.feeds = Function.update h.feeds h.nextFeed (.channel h.clientCapacity)
  nextFeed : result.nextFeed = h.nextFeed + 1
  inFlight : result.inFlight = h.inFlight
  nextDeliverySequence : result.nextDeliverySequence = h.nextDeliverySequence

/-- A registration is refused and changes nothing, or hands out the next channel. -/
theorem tryRegisterClient_cases {h : GatewayHub} (hRoutes : RouteInvariant h.routes)
    (client : ClientId) :
    h.tryRegisterClient client = (none, h) ∨
    ((h.tryRegisterClient client).1 = some h.nextFeed ∧
      Registered h client (h.tryRegisterClient client).2) := by
  unfold GatewayHub.tryRegisterClient
  split
  · exact Or.inl rfl
  · obtain ⟨hInv, hHandle, hSub⟩ := routeInvariant_register hRoutes client h.nextFeed
    exact Or.inr ⟨rfl, hInv, hHandle, hSub, rfl, rfl, rfl, rfl⟩

/-- An update touches routes only: no channel and no counter. -/
theorem updateClientSubscriptions_frame (h : GatewayHub) (client : ClientId)
    (subscriptions : Finset SubscriptionKey) :
    let result := (h.updateClientSubscriptions client subscriptions).2
    result.feeds = h.feeds ∧ result.nextFeed = h.nextFeed ∧ result.inFlight = h.inFlight ∧
    result.nextDeliverySequence = h.nextDeliverySequence := by
  unfold GatewayHub.updateClientSubscriptions
  split <;> exact ⟨rfl, rfl, rfl, rfl⟩

/-- Every operation keeps the hub in order. -/
theorem hubInvariant_step {h : GatewayHub} (hInv : HubInvariant h) (op : HubOp) :
    HubInvariant (h.step op) := by
  obtain ⟨hRoutes, hDistinct, hAllocated⟩ := hInv
  cases op with
  | register client =>
    rcases tryRegisterClient_cases hRoutes client with hFull | ⟨-, hReg⟩
    · rw [GatewayHub.step, hFull]
      exact ⟨hRoutes, hDistinct, hAllocated⟩
    · refine ⟨hReg.routes, fun c c' feed hc hc' => ?_, fun c feed hc => ?_⟩
      · rw [GatewayHub.step, hReg.handle] at hc hc'
        -- the new handle is above every handle in use
        split at hc <;> split at hc'
        · next h₁ h₂ => rw [h₁, h₂]
        · rw [← Option.some.inj hc] at hc'
          exact absurd (hAllocated c' _ hc') (lt_irrefl _)
        · rw [← Option.some.inj hc'] at hc
          exact absurd (hAllocated c _ hc) (lt_irrefl _)
        · exact hDistinct c c' feed hc hc'
      · rw [GatewayHub.step, hReg.handle] at hc
        rw [GatewayHub.step, hReg.nextFeed]
        split at hc
        · rw [← Option.some.inj hc]
          exact Nat.lt_succ_self _
        · exact Nat.lt_succ_of_lt (hAllocated c feed hc)
  | update client subscriptions =>
    obtain ⟨hInv, hHandle, -⟩ := routeInvariant_update hRoutes client subscriptions
    obtain ⟨-, hNext, -⟩ := updateClientSubscriptions_frame h client subscriptions
    refine ⟨hInv, fun c c' feed hc hc' => ?_, fun c feed hc => ?_⟩
    · rw [GatewayHub.step, hHandle] at hc hc'
      exact hDistinct c c' feed hc hc'
    · rw [GatewayHub.step, hHandle] at hc
      rw [GatewayHub.step, hNext]
      exact hAllocated c feed hc
  | remove client =>
    have hHandle := RouteState.handle_removeRoute h.routes client true
    refine ⟨routeInvariant_removeRoute hRoutes client true, fun c c' feed hc hc' => ?_,
      fun c feed hc => ?_⟩
    · rw [GatewayHub.step, GatewayHub.removeClient, hHandle] at hc hc'
      split at hc <;> split at hc'
      all_goals simp_all
      exact hDistinct c c' feed hc hc'
    · rw [GatewayHub.step, GatewayHub.removeClient, hHandle] at hc
      split at hc
      · simp at hc
      · exact hAllocated c feed hc
  | number event =>
    simp only [GatewayHub.step, GatewayHub.numberEvent]
    split
    · exact ⟨hRoutes, hDistinct, hAllocated⟩
    · split <;> exact ⟨hRoutes, hDistinct, hAllocated⟩
  | route =>
    cases hFlight : h.inFlight with
    | none =>
      simp only [GatewayHub.step, hFlight]
      exact ⟨hRoutes, hDistinct, hAllocated⟩
    | some event =>
      have hRouted := routeEvent_spec hRoutes hDistinct event
      simp only [GatewayHub.step, hFlight]
      have hKept : ∀ c feed, (h.routeEvent event).routes.handle c = some feed →
          h.routes.handle c = some feed := by
        intro c feed hc
        rw [hRouted.handle] at hc
        split at hc
        · simp at hc
        · exact hc
      exact ⟨hRouted.invariant,
        fun c c' feed hc hc' => hDistinct c c' feed (hKept c feed hc) (hKept c' feed hc'),
        fun c feed hc => hAllocated c feed (hKept c feed hc)⟩
  | receive feed => exact ⟨hRoutes, hDistinct, hAllocated⟩
  | dropReceiver feed => exact ⟨hRoutes, hDistinct, hAllocated⟩

/-! ## What a feed is owed -/

/-- One feed as an observer of the operations sees it. -/
structure Registration where
  /-- The client whose current registration the feed belongs to. -/
  holder : Option ClientId
  /-- The set passed in the latest update, empty before the first. -/
  wanted : Finset SubscriptionKey
  /-- The events published while their key was wanted. -/
  owed : List MarketEvent

/-- The record of one channel after an observation: who holds it, what its
holder asked for, and what was published to that. -/
def Registration.observe (feed : FeedId) (g : Registration) : HubObservation → Registration
  | .registered client f =>
    if f = feed then ⟨some client, ∅, []⟩
    else if g.holder = some client then { g with holder := none } else g
  | .updated client subscriptions =>
    if g.holder = some client then { g with wanted := subscriptions } else g
  | .removed client => if g.holder = some client then { g with holder := none } else g
  | .published event =>
    if g.holder.isSome ∧ event.subscriptionKey ∈ g.wanted then
      { g with owed := g.owed ++ [event] }
    else g

/-- The history of one feed, from everything seen so far. -/
def registration (feed : FeedId) (seen : List HubObservation) : Registration :=
  seen.foldl (Registration.observe feed) ⟨none, ∅, []⟩

/-- The record of a longer observation goes on where the shorter one ended. -/
theorem registration_append (feed : FeedId) (seen later : List HubObservation) :
    registration feed (seen ++ later) =
      later.foldl (Registration.observe feed) (registration feed seen) :=
  List.foldl_append

/-- The state agrees with the history of a feed. -/
structure Delivery (feed : FeedId) (h : GatewayHub) (g : Registration) : Prop where
  holder : ∀ c, h.routes.handle c = some feed → g.holder = some c
  wanted : ∀ c, h.routes.handle c = some feed → h.routes.subscribed c ⊆ g.wanted
  owed : ∀ c, h.routes.handle c = some feed → (h.feeds feed).lagged = 0 →
    h.routes.subscribed c = g.wanted ∧ (h.feeds feed).enqueued = g.owed
  routed : ∀ c, g.holder = some c → (h.feeds feed).receiverAlive → h.routes.handle c = some feed
  fresh : h.nextFeed ≤ feed → g.holder = none

/-! ### Offering an event to one feed -/

/-- An event that is not refused is enqueued last. -/
theorem Feed.offer_of_none {f : Feed} {event : MarketEvent} (h : f.refusal event = none) :
    (f.offer event).enqueued = f.enqueued ++ [event] ∧ (f.offer event).lagged = f.lagged ∧
    f.receiverAlive := by
  unfold Feed.refusal at h
  unfold Feed.offer
  cases hSend : f.trySend event with
  | error error => rw [hSend] at h; simp at h
  | ok sent =>
    unfold Feed.trySend at hSend
    split at hSend
    · simp at hSend
    · next hAlive =>
      split at hSend
      · simp at hSend
      · simp only [Except.ok.injEq] at hSend
        rw [← hSend]
        exact ⟨rfl, rfl, by simpa using hAlive⟩

/-- A full queue counts the event as missed. -/
theorem Feed.offer_of_full {f : Feed} {event : MarketEvent}
    (h : f.refusal event = some .full) : f.offer event = f.recordLag := by
  unfold Feed.refusal at h
  unfold Feed.offer
  split at h
  · simp at h
  · next error hSend =>
    simp only [Option.some.injEq] at h
    rw [hSend, h]

/-- A closed queue is left as it is. -/
theorem Feed.offer_of_closed {f : Feed} {event : MarketEvent}
    (h : f.refusal event = some .closed) : f.offer event = f ∧ f.receiverAlive = false := by
  unfold Feed.refusal at h
  unfold Feed.offer
  split at h
  · simp at h
  · next error hSend =>
    simp only [Option.some.injEq] at h
    rw [hSend, h]
    refine ⟨rfl, ?_⟩
    unfold Feed.trySend at hSend
    split at hSend
    · next hAlive => simpa using hAlive
    · subst h
      split at hSend <;> simp at hSend

/-- A counted miss shows. -/
theorem Feed.recordLag_pos (f : Feed) : 0 < f.recordLag.lagged := by
  simp [Feed.recordLag, u64Max]

/-- No offer closes a channel. -/
theorem Feed.offer_receiverAlive (f : Feed) (event : MarketEvent) :
    (f.offer event).receiverAlive = f.receiverAlive := by
  unfold Feed.offer Feed.trySend
  split
  · next hSend =>
    split at hSend
    · simp at hSend
    · split at hSend
      · simp at hSend
      · simp only [Except.ok.injEq] at hSend
        rw [← hSend]
  · rfl
  · rfl

/-- The refusal of a client is that of its channel. -/
theorem refusal_of_handle {routes : RouteState} {feeds : FeedId → Feed} {c : ClientId}
    {feed : FeedId} (h : routes.handle c = some feed) (event : MarketEvent) :
    refusal routes feeds event c = (feeds feed).refusal event := by
  simp [refusal, h]

/-! ### Steps -/

section Steps

variable {h : GatewayHub} {feed : FeedId} {g : Registration}

/-- Registering: the new channel starts with an empty record; another channel
at most loses its holder to the client's new one. -/
theorem delivery_register (hInv : HubInvariant h) (hDel : Delivery feed h g) (client : ClientId) :
    Delivery feed (h.step (.register client))
      ((h.observe (.register client)).foldl (Registration.observe feed) g) := by
  rw [GatewayHub.step, GatewayHub.observe]
  rcases tryRegisterClient_cases hInv.routes client with hFull | ⟨hFeed, hReg⟩
  · rw [hFull]
    exact hDel
  rw [hFeed]
  generalize (h.tryRegisterClient client).2 = h' at hReg
  simp only [Option.map_some, Option.toList_some, List.foldl_cons, List.foldl_nil,
    Registration.observe]
  by_cases hThis : h.nextFeed = feed
  · -- the registration this feed belongs to
    rw [if_pos hThis]
    subst hThis
    have hOnly : ∀ c, h'.routes.handle c = some h.nextFeed → c = client := by
      intro c hc
      by_contra hNe
      rw [hReg.handle, if_neg hNe] at hc
      exact absurd (hInv.allocated c _ hc) (lt_irrefl _)
    have hSub : ∀ c, h'.routes.handle c = some h.nextFeed → h'.routes.subscribed c = ∅ := by
      intro c hc
      rw [hReg.subscribed, if_pos (hOnly c hc)]
    refine ⟨fun c hc => by rw [hOnly c hc], fun c hc => by rw [hSub c hc], fun c hc _ => ?_,
      fun c hc _ => ?_, fun hNext => ?_⟩
    · rw [hSub c hc, hReg.feeds]
      simp [Feed.channel]
    · rw [hReg.handle, if_pos (Option.some.inj hc).symm]
    · rw [hReg.nextFeed] at hNext
      exact absurd hNext (Nat.not_succ_le_self _)
  · -- some other feed: at most its holder is replaced
    rw [if_neg hThis]
    have hFeeds : h'.feeds feed = h.feeds feed := by
      rw [hReg.feeds, Function.update_of_ne fun hEq => hThis hEq.symm]
    have hKept : ∀ c, h'.routes.handle c = some feed →
        c ≠ client ∧ h.routes.handle c = some feed := by
      intro c hc
      rw [hReg.handle] at hc
      split at hc
      · exact absurd (Option.some.inj hc) hThis
      · next hNe => exact ⟨hNe, hc⟩
    have hSame : ∀ c, h'.routes.handle c = some feed →
        h'.routes.subscribed c = h.routes.subscribed c := by
      intro c hc
      rw [hReg.subscribed, if_neg (hKept c hc).1]
    have hFresh : h'.nextFeed ≤ feed → g.holder = none := by
      rw [hReg.nextFeed]
      exact fun hNext => hDel.fresh (Nat.le_of_succ_le hNext)
    by_cases hHolder : g.holder = some client
    · rw [if_pos hHolder]
      have hNone : ∀ c, h'.routes.handle c ≠ some feed := by
        intro c hc
        have hOther := hDel.holder c (hKept c hc).2
        rw [hHolder] at hOther
        exact (hKept c hc).1 (Option.some.inj hOther).symm
      exact ⟨fun c hc => absurd hc (hNone c), fun c hc => absurd hc (hNone c),
        fun c hc => absurd hc (hNone c), fun c hc => by simp at hc, fun _ => rfl⟩
    · rw [if_neg hHolder]
      refine ⟨fun c hc => hDel.holder c (hKept c hc).2, fun c hc => ?_, fun c hc => ?_,
        fun c hc => ?_, hFresh⟩
      · rw [hSame c hc]
        exact hDel.wanted c (hKept c hc).2
      · rw [hFeeds, hSame c hc]
        exact hDel.owed c (hKept c hc).2
      · have hNe : c ≠ client := fun hEq => hHolder (hEq ▸ hc)
        rw [hFeeds, hReg.handle, if_neg hNe]
        exact hDel.routed c hc

/-- Updating: the holder's record takes the new set, in the tables and in the record. -/
theorem delivery_update (hInv : HubInvariant h) (hDel : Delivery feed h g) (client : ClientId)
    (subscriptions : Finset SubscriptionKey) :
    Delivery feed (h.step (.update client subscriptions))
      (g.observe feed (.updated client subscriptions)) := by
  obtain ⟨-, hHandle, hSub⟩ := routeInvariant_update hInv.routes client subscriptions
  obtain ⟨hFeeds, hNext, -⟩ := updateClientSubscriptions_frame h client subscriptions
  rw [GatewayHub.step]
  generalize (h.updateClientSubscriptions client subscriptions).2 = h' at hHandle hSub hFeeds hNext
  rw [Registration.observe]
  -- what the holder of this channel wants afterwards
  have hSubHeld : ∀ c, h.routes.handle c = some feed →
      h'.routes.subscribed c = if c = client then subscriptions else h.routes.subscribed c := by
    intro c hc
    rw [hSub]
    by_cases hEq : c = client
    · subst hEq
      simp [hc]
    · simp [hEq]
  by_cases hHolder : g.holder = some client
  · rw [if_pos hHolder]
    -- the channel is the client's: its record takes the new set as well
    have hOnly : ∀ c, h.routes.handle c = some feed → c = client := by
      intro c hc
      have hEq := hDel.holder c hc
      rw [hHolder] at hEq
      exact (Option.some.inj hEq).symm
    refine ⟨fun c hc => hDel.holder c (hHandle c ▸ hc), fun c hc => ?_, fun c hc hLag => ?_,
      fun c hc hAlive => ?_, fun hLe => hDel.fresh (hNext ▸ hLe)⟩
    · rw [hHandle] at hc
      rw [hSubHeld c hc, if_pos (hOnly c hc)]
    · rw [hHandle] at hc
      rw [hFeeds] at hLag ⊢
      rw [hSubHeld c hc, if_pos (hOnly c hc)]
      exact ⟨rfl, (hDel.owed c hc hLag).2⟩
    · rw [hFeeds] at hAlive
      rw [hHandle]
      exact hDel.routed c hc hAlive
  · rw [if_neg hHolder]
    -- the channel is somebody else's, whose set stays
    have hNe : ∀ c, h.routes.handle c = some feed → c ≠ client :=
      fun c hc hEq => hHolder (hEq ▸ hDel.holder c hc)
    refine ⟨fun c hc => hDel.holder c (hHandle c ▸ hc), fun c hc => ?_, fun c hc hLag => ?_,
      fun c hc hAlive => ?_, fun hLe => hDel.fresh (hNext ▸ hLe)⟩
    · rw [hHandle] at hc
      rw [hSubHeld c hc, if_neg (hNe c hc)]
      exact hDel.wanted c hc
    · rw [hHandle] at hc
      rw [hFeeds] at hLag ⊢
      rw [hSubHeld c hc, if_neg (hNe c hc)]
      exact hDel.owed c hc hLag
    · rw [hFeeds] at hAlive
      rw [hHandle]
      exact hDel.routed c hc hAlive

/-- Removing: the channel keeps its queue and loses its holder. -/
theorem delivery_remove (hDel : Delivery feed h g) (client : ClientId) :
    Delivery feed (h.step (.remove client)) (g.observe feed (.removed client)) := by
  have hHandle := RouteState.handle_removeRoute h.routes client true
  have hSub := RouteState.subscribed_removeRoute h.routes client true
  rw [GatewayHub.step, GatewayHub.removeClient, Registration.observe]
  -- whoever still has the channel is another client, and had it before
  have hKept : ∀ c, (h.routes.removeRoute client true).handle c = some feed →
      c ≠ client ∧ h.routes.handle c = some feed := by
    intro c hc
    rw [hHandle] at hc
    split at hc
    · simp at hc
    · next hNe => exact ⟨fun hEq => hNe ⟨hEq, rfl⟩, hc⟩
  by_cases hHolder : g.holder = some client
  · rw [if_pos hHolder]
    -- the holder is gone, so nothing is left to show
    have hNone : ∀ c, (h.routes.removeRoute client true).handle c ≠ some feed := by
      intro c hc
      have hOther := hDel.holder c (hKept c hc).2
      rw [hHolder] at hOther
      exact (hKept c hc).1 (Option.some.inj hOther).symm
    exact ⟨fun c hc => absurd hc (hNone c), fun c hc => absurd hc (hNone c),
      fun c hc => absurd hc (hNone c), fun c hc => by simp at hc, fun _ => rfl⟩
  · rw [if_neg hHolder]
    refine ⟨fun c hc => hDel.holder c (hKept c hc).2, fun c hc => ?_, fun c hc => ?_,
      fun c hc => ?_, hDel.fresh⟩
    · dsimp only
      rw [hSub, if_neg (hKept c hc).1]
      exact hDel.wanted c (hKept c hc).2
    · dsimp only
      rw [hSub, if_neg (hKept c hc).1]
      exact hDel.owed c (hKept c hc).2
    · have hNe : c ≠ client := fun hEq => hHolder (hEq ▸ hc)
      dsimp only
      rw [hHandle, if_neg fun h => hNe h.1]
      exact hDel.routed c hc

/-- Routing: a holder that wants the event is owed it, and gets it or is marked. -/
theorem delivery_route (hInv : HubInvariant h) (hDel : Delivery feed h g) (event : MarketEvent) :
    Delivery feed { h.routeEvent event with inFlight := none }
      (g.observe feed (.published event)) := by
  have hRouted := routeEvent_spec hInv.routes hInv.distinct event
  have hNext : (h.routeEvent event).nextFeed = h.nextFeed := rfl
  generalize h.routeEvent event = h' at hRouted hNext
  have hHolder : (g.observe feed (.published event)).holder = g.holder := by
    rw [Registration.observe]
    split <;> rfl
  have hWanted : (g.observe feed (.published event)).wanted = g.wanted := by
    rw [Registration.observe]
    split <;> rfl
  -- routing takes routes away at most
  have hKept : ∀ c, h'.routes.handle c = some feed → h.routes.handle c = some feed := by
    intro c hc
    rw [hRouted.handle] at hc
    split at hc
    · simp at hc
    · exact hc
  refine ⟨fun c hc => ?_, fun c hc => ?_, fun c hc hLag => ?_, fun c hc hAlive => ?_,
    fun hLe => ?_⟩
  · rw [hHolder]
    exact hDel.holder c (hKept c hc)
  · rw [hWanted]
    dsimp only
    rw [hRouted.subscribed]
    split
    · exact Finset.empty_subset _
    · exact hDel.wanted c (hKept c hc)
  · have hOld := hKept c hc
    have hHeld := hDel.holder c hOld
    rw [hWanted]
    dsimp only at hLag ⊢
    by_cases hKey : event.subscriptionKey ∈ h.routes.subscribed c
    · -- offered: a full queue leaves a positive lag, a closed one loses the handle
      rw [hRouted.offered c feed hKey hOld] at hLag ⊢
      have hRefusal : refusal h.routes h.feeds event c = (h.feeds feed).refusal event :=
        refusal_of_handle hOld event
      cases hWhy : (h.feeds feed).refusal event with
      | some error =>
        exfalso
        cases error with
        | full =>
          rw [Feed.offer_of_full hWhy] at hLag
          exact absurd hLag (Feed.recordLag_pos _).ne'
        | closed =>
          rw [hRouted.handle, if_pos ⟨hKey, hRefusal.trans hWhy⟩] at hc
          simp at hc
      | none =>
        obtain ⟨hEnqueued, hSame, -⟩ := Feed.offer_of_none hWhy
        rw [hSame] at hLag
        obtain ⟨hSub, hOwed⟩ := hDel.owed c hOld hLag
        rw [hRouted.subscribed, if_neg fun hBoth => hBoth.2 (hRefusal.trans hWhy), hEnqueued, hOwed,
          Registration.observe, if_pos ⟨by rw [hHeld]; rfl, hSub ▸ hKey⟩]
        exact ⟨hSub, rfl⟩
    · -- not wanted by the holder, and a channel has one holder: it is not touched
      have hFeed : h'.feeds feed = h.feeds feed := by
        refine hRouted.untouched feed fun c' hKey' hc' => ?_
        exact hKey (hInv.distinct c' c feed hc' hOld ▸ hKey')
      rw [hFeed] at hLag ⊢
      obtain ⟨hSub, hOwed⟩ := hDel.owed c hOld hLag
      rw [hRouted.subscribed, if_neg fun hBoth => hKey hBoth.1, Registration.observe,
        if_neg fun hBoth => hKey (hSub ▸ hBoth.2)]
      exact ⟨hSub, hOwed⟩
  · rw [hHolder] at hc
    dsimp only at hAlive ⊢
    -- a receiver that is alive now was alive when the event was offered, so the route
    -- was not dropped as closed
    have hAliveOld : (h.feeds feed).receiverAlive := by
      by_cases hOffered : ∃ c', event.subscriptionKey ∈ h.routes.subscribed c' ∧
          h.routes.handle c' = some feed
      · obtain ⟨c', hKey, hc'⟩ := hOffered
        rwa [hRouted.offered c' feed hKey hc', Feed.offer_receiverAlive] at hAlive
      · rwa [hRouted.untouched feed fun c' hKey hc' => hOffered ⟨c', hKey, hc'⟩] at hAlive
    have hOld := hDel.routed c hc hAliveOld
    rw [hRouted.handle, if_neg]
    · exact hOld
    · rintro ⟨-, hClosed⟩
      rw [refusal_of_handle hOld] at hClosed
      rw [(Feed.offer_of_closed hClosed).2] at hAliveOld
      simp at hAliveOld
  · rw [hHolder]
    exact hDel.fresh (hNext ▸ hLe)

/-- Changing one channel changes no other. -/
theorem mapFeed_feeds (h : GatewayHub) (target : FeedId) (f : Feed → Feed) (feed : FeedId) :
    (h.mapFeed target f).feeds feed = if feed = target then f (h.feeds feed) else h.feeds feed := by
  by_cases hEq : feed = target
  · subst hEq
    simp [GatewayHub.mapFeed]
  · simp [GatewayHub.mapFeed, hEq]

/-- Steps that change a feed without routing anything to it. -/
theorem delivery_mapFeed (hDel : Delivery feed h g) (target : FeedId) {f : Feed → Feed}
    (hLagged : ∀ x, (f x).lagged = x.lagged) (hEnqueued : ∀ x, (f x).enqueued = x.enqueued)
    (hAlive : ∀ x, (f x).receiverAlive → x.receiverAlive) :
    Delivery feed (h.mapFeed target f) g := by
  have hSame : ((h.mapFeed target f).feeds feed).lagged = (h.feeds feed).lagged ∧
      ((h.mapFeed target f).feeds feed).enqueued = (h.feeds feed).enqueued ∧
      (((h.mapFeed target f).feeds feed).receiverAlive → (h.feeds feed).receiverAlive) := by
    rw [mapFeed_feeds]
    split
    · exact ⟨hLagged _, hEnqueued _, hAlive _⟩
    · exact ⟨rfl, rfl, id⟩
  obtain ⟨hLag, hEnq, hAl⟩ := hSame
  refine ⟨hDel.holder, hDel.wanted, fun c hc hZero => ?_, fun c hc hA => hDel.routed c hc (hAl hA),
    hDel.fresh⟩
  rw [hEnq]
  exact hDel.owed c hc (hLag ▸ hZero)

/-- Taking an event out changes neither the lag nor what was enqueued so far. -/
theorem Feed.receive_lagged (f : Feed) : f.receive.lagged = f.lagged := by
  unfold Feed.receive
  split <;> rfl

theorem Feed.receive_enqueued (f : Feed) : f.receive.enqueued = f.enqueued := by
  unfold Feed.receive
  split <;> rfl

theorem Feed.receive_receiverAlive (f : Feed) : f.receive.receiverAlive = f.receiverAlive := by
  unfold Feed.receive
  split <;> rfl

/-- Every operation keeps a channel's record true. -/
theorem delivery_step (hInv : HubInvariant h) (hDel : Delivery feed h g) (op : HubOp) :
    Delivery feed (h.step op) ((h.observe op).foldl (Registration.observe feed) g) := by
  cases op with
  | register client => exact delivery_register hInv hDel client
  | update client subscriptions => exact delivery_update hInv hDel client subscriptions
  | remove client => exact delivery_remove hDel client
  -- numbering touches no queue
  | number event =>
    simp only [GatewayHub.step, GatewayHub.numberEvent, GatewayHub.observe, List.foldl_nil]
    split
    · exact hDel
    · split <;> exact ⟨hDel.holder, hDel.wanted, hDel.owed, hDel.routed, hDel.fresh⟩
  | route =>
    cases hFlight : h.inFlight with
    | none =>
      simp only [GatewayHub.step, GatewayHub.observe, hFlight]
      exact hDel
    | some event =>
      simp only [GatewayHub.step, GatewayHub.observe, hFlight]
      exact delivery_route hInv hDel event
  | receive target =>
    exact delivery_mapFeed hDel target Feed.receive_lagged Feed.receive_enqueued
      fun x hx => Feed.receive_receiverAlive x ▸ hx
  | dropReceiver target =>
    exact delivery_mapFeed hDel target (fun _ => rfl) (fun _ => rfl)
      fun x hx => by simp [Feed.dropReceiver] at hx

end Steps

/-! ## Numbering -/

/-- What is published over a longer observation. -/
theorem published_append (seen later : List HubObservation) :
    published (seen ++ later) = published seen ++ published later :=
  List.filterMap_append

/-- The published events are numbered from one in the order of publication,
and every queue only ever took events from that sequence, in its order. -/
structure Numbered (h : GatewayHub) (events : List MarketEvent) : Prop where
  sequence : events.map MarketEvent.deliverySequence = List.range' 1 events.length
  epoch : ∀ event ∈ events, event.streamEpoch = h.streamEpoch
  idle : h.inFlight = none → h.nextDeliverySequence = events.length + 1
  flying : ∀ event, h.inFlight = some event → event.deliverySequence = events.length + 1 ∧
    event.streamEpoch = h.streamEpoch ∧ h.nextDeliverySequence = events.length + 2
  sublist : ∀ feed, (h.feeds feed).enqueued.Sublist events

/-- Nothing is numbered at the start. -/
theorem numbered_init (epoch : Uuid) (capacity maxClients : Nat) :
    Numbered (.withClientLimit epoch capacity maxClients) [] := by
  constructor <;> simp [GatewayHub.withClientLimit, Feed.channel]

/-- A step that neither numbers nor routes, and only empties queues. -/
theorem numbered_of_frame {h h' : GatewayHub} {events : List MarketEvent}
    (hNum : Numbered h events) (hEpoch : h'.streamEpoch = h.streamEpoch)
    (hFlight : h'.inFlight = h.inFlight)
    (hNext : h'.nextDeliverySequence = h.nextDeliverySequence)
    (hFeeds : ∀ feed, (h'.feeds feed).enqueued.Sublist (h.feeds feed).enqueued) :
    Numbered h' events := by
  refine ⟨hNum.sequence, ?_, ?_, ?_, fun feed => (hFeeds feed).trans (hNum.sublist feed)⟩
  · rw [hEpoch]
    exact hNum.epoch
  · rw [hFlight, hNext]
    exact hNum.idle
  · rw [hFlight, hEpoch, hNext]
    exact hNum.flying

/-- A change that enqueues nothing enqueues nothing anywhere. -/
theorem mapFeed_enqueued {h : GatewayHub} {target : FeedId} {f : Feed → Feed}
    (hEnqueued : ∀ x, (f x).enqueued = x.enqueued) (feed : FeedId) :
    ((h.mapFeed target f).feeds feed).enqueued = (h.feeds feed).enqueued := by
  rw [mapFeed_feeds]
  split
  · exact hEnqueued _
  · rfl

/-- The epoch of a hub is fixed. -/
theorem streamEpoch_step (h : GatewayHub) (op : HubOp) :
    (h.step op).streamEpoch = h.streamEpoch := by
  cases op with
  | register client =>
    simp only [GatewayHub.step, GatewayHub.tryRegisterClient]
    split <;> rfl
  | update client subscriptions =>
    simp only [GatewayHub.step, GatewayHub.updateClientSubscriptions]
    split <;> rfl
  | remove client => rfl
  | number event =>
    simp only [GatewayHub.step, GatewayHub.numberEvent]
    split
    · rfl
    · split <;> rfl
  | route =>
    simp only [GatewayHub.step]
    split <;> rfl
  | receive feed => rfl
  | dropReceiver feed => rfl

/-- A routed event is appended to some queues and to no other place. -/
theorem routeEvent_enqueued {h : GatewayHub} {event : MarketEvent} {h' : GatewayHub}
    (hRouted : Routed h event h') (feed : FeedId) :
    (h'.feeds feed).enqueued = (h.feeds feed).enqueued ∨
    (h'.feeds feed).enqueued = (h.feeds feed).enqueued ++ [event] := by
  by_cases hOffered : ∃ c, event.subscriptionKey ∈ h.routes.subscribed c ∧
      h.routes.handle c = some feed
  · obtain ⟨c, hKey, hc⟩ := hOffered
    rw [hRouted.offered c feed hKey hc]
    cases hWhy : (h.feeds feed).refusal event with
    | none => exact Or.inr (Feed.offer_of_none hWhy).1
    | some error =>
      left
      cases error with
      | full => rw [Feed.offer_of_full hWhy, Feed.recordLag]
      | closed => rw [(Feed.offer_of_closed hWhy).1]
  · rw [hRouted.untouched feed fun c hKey hc => hOffered ⟨c, hKey, hc⟩]
    exact Or.inl rfl

/-- Numbering takes the next number, and routing appends the event that has it. -/
theorem numbered_step {h : GatewayHub} {events : List MarketEvent} (hInv : HubInvariant h)
    (hNum : Numbered h events) (op : HubOp) :
    Numbered (h.step op) (events ++ published (h.observe op)) := by
  cases op with
  | register client =>
    have hQuiet : published (h.observe (.register client)) = [] := by
      rw [GatewayHub.observe]
      cases (h.tryRegisterClient client).1 <;> rfl
    rw [hQuiet, List.append_nil, GatewayHub.step]
    rcases tryRegisterClient_cases hInv.routes client with hFull | ⟨-, hReg⟩
    · rw [hFull]
      exact hNum
    · refine numbered_of_frame hNum (streamEpoch_step h (.register client)) hReg.inFlight
        hReg.nextDeliverySequence fun feed => ?_
      rw [hReg.feeds]
      by_cases hEq : feed = h.nextFeed
      · subst hEq
        simp [Feed.channel]
      · rw [Function.update_of_ne hEq]
  | update client subscriptions =>
    obtain ⟨hFeeds, -, hFlight, hNext⟩ := updateClientSubscriptions_frame h client subscriptions
    rw [show published (h.observe (.update client subscriptions)) = [] from rfl, List.append_nil]
    refine numbered_of_frame hNum (streamEpoch_step h (.update client subscriptions)) hFlight hNext
      fun feed => ?_
    rw [GatewayHub.step, hFeeds]
  | remove client =>
    rw [show published (h.observe (.remove client)) = [] from rfl, List.append_nil]
    exact numbered_of_frame hNum rfl rfl rfl fun feed => List.Sublist.refl _
  | number event =>
    rw [show published (h.observe (.number event)) = [] from rfl, List.append_nil]
    simp only [GatewayHub.step, GatewayHub.numberEvent]
    split
    · exact hNum
    · -- with nothing in flight the counter continues the range
      next hIdle =>
      split
      · exact hNum
      · have hNext := hNum.idle (by simpa using hIdle)
        refine ⟨hNum.sequence, hNum.epoch, fun hNone => by simp at hNone, fun flying hFlying => ?_,
          hNum.sublist⟩
        simp only [Option.some.injEq] at hFlying
        subst hFlying
        exact ⟨hNext, rfl, by rw [hNext]⟩
  | route =>
    cases hFlight : h.inFlight with
    | none =>
      simp only [GatewayHub.step, GatewayHub.observe, hFlight]
      rw [show published (Option.map HubObservation.published none).toList = [] from rfl,
        List.append_nil]
      exact hNum
    | some event =>
      simp only [GatewayHub.step, GatewayHub.observe, hFlight]
      rw [show published (Option.map HubObservation.published (some event)).toList = [event]
        from rfl]
      obtain ⟨hSeq, hEpoch, hNext⟩ := hNum.flying event hFlight
      have hRouted := routeEvent_spec hInv.routes hInv.distinct event
      refine ⟨?_, fun e he => ?_, fun _ => ?_, fun e he => by simp at he, fun feed => ?_⟩
      · -- the event in flight has the number that continues the range
        rw [List.map_append, hNum.sequence, List.length_append, List.length_singleton,
          List.range'_concat]
        simp [hSeq, Nat.add_comm]
      · rcases List.mem_append.mp he with hOld | hNew
        · exact hNum.epoch e hOld
        · rw [List.mem_singleton.mp hNew]
          exact hEpoch
      · rw [List.length_append]
        exact hNext
      · -- every channel gets the event at its end or not at all
        rcases routeEvent_enqueued hRouted feed with hSame | hAppended
        · dsimp only
          rw [hSame]
          exact (hNum.sublist feed).trans (List.sublist_append_left _ _)
        · dsimp only
          rw [hAppended]
          exact (hNum.sublist feed).append (List.Sublist.refl _)
  | receive target =>
    rw [show published (h.observe (.receive target)) = [] from rfl, List.append_nil]
    refine numbered_of_frame hNum rfl rfl rfl fun feed => ?_
    rw [GatewayHub.step, mapFeed_enqueued Feed.receive_enqueued]
  | dropReceiver target =>
    rw [show published (h.observe (.dropReceiver target)) = [] from rfl, List.append_nil]
    refine numbered_of_frame hNum rfl rfl rfl fun feed => ?_
    have hKept : ∀ x : Feed, x.dropReceiver.enqueued = x.enqueued := fun _ => rfl
    rw [GatewayHub.step, mapFeed_enqueued hKept]

/-! ## Every run -/

/-- The hub after a run of operations from its construction. -/
def hubAfter (epoch : Uuid) (capacity maxClients : Nat) (ops : List HubOp) : GatewayHub :=
  run GatewayHub.step (.withClientLimit epoch capacity maxClients) ops

/-- What the run let an observer see. -/
def hubSeen (epoch : Uuid) (capacity maxClients : Nat) (ops : List HubOp) :
    List HubObservation :=
  trace GatewayHub.step GatewayHub.observe (.withClientLimit epoch capacity maxClients) ops

/-- The state of the hub and everything seen of it so far. -/
structure Consistent (h : GatewayHub) (seen : List HubObservation) : Prop where
  invariant : HubInvariant h
  delivery : ∀ feed, Delivery feed h (registration feed seen)
  numbered : Numbered h (published seen)

/-- The invariants hold together, step by step. -/
theorem consistent_step {h : GatewayHub} {seen : List HubObservation} (hCon : Consistent h seen)
    (op : HubOp) : Consistent (h.step op) (seen ++ h.observe op) := by
  refine ⟨hubInvariant_step hCon.invariant op, fun feed => ?_, ?_⟩
  · rw [registration_append]
    exact delivery_step hCon.invariant (hCon.delivery feed) op
  · rw [published_append]
    exact numbered_step hCon.invariant hCon.numbered op

/-- They hold of a new hub. -/
theorem consistent_init (epoch : Uuid) (capacity maxClients : Nat) :
    Consistent (.withClientLimit epoch capacity maxClients) [] := by
  refine ⟨hubInvariant_init epoch capacity maxClients, fun feed => ?_,
    numbered_init epoch capacity maxClients⟩
  have hNone : ∀ c, (GatewayHub.withClientLimit epoch capacity maxClients).routes.handle c =
      none := fun c => rfl
  constructor <;> simp [hNone, registration]

/-- They hold after every run. -/
theorem consistent_after (epoch : Uuid) (capacity maxClients : Nat) (ops : List HubOp) :
    Consistent (hubAfter epoch capacity maxClients ops)
      (hubSeen epoch capacity maxClients ops) := by
  have h := run_trace_invariant (R := Consistent)
    (fun _ op _ hCon => consistent_step hCon op) (consistent_init epoch capacity maxClients) ops
  rwa [List.nil_append] at h

theorem streamEpoch_after (epoch : Uuid) (capacity maxClients : Nat) (ops : List HubOp) :
    (hubAfter epoch capacity maxClients ops).streamEpoch = epoch :=
  run_invariant (P := fun h : GatewayHub => h.streamEpoch = epoch)
    (fun h op hEq => (streamEpoch_step h op).trans hEq) rfl ops

/-- The two halves of `publish`. -/
def HubOp.Publishes : HubOp → Prop
  | .number _ | .route => True
  | _ => False

/-- Publishing other keys leaves a feed alone, queue and lag counter alike. -/
theorem feeds_of_other_keys {h : GatewayHub} {seen : List HubObservation}
    (hCon : Consistent h seen) (feed : FeedId) {later : List HubOp}
    (hPublish : ∀ op ∈ later, op.Publishes)
    (hOther : ∀ event ∈ published (trace GatewayHub.step GatewayHub.observe h later),
      event.subscriptionKey ∉ (registration feed seen).wanted) :
    (run GatewayHub.step h later).feeds feed = h.feeds feed := by
  induction later generalizing h seen with
  | nil => rfl
  | cons op later ih =>
    rw [trace, published_append] at hOther
    have hRest := fun event he => hOther event (List.mem_append_right _ he)
    have hNow := fun event he => hOther event (List.mem_append_left _ he)
    -- one half of a publish keeps the feed and what it wants
    have hHalf : (h.step op).feeds feed = h.feeds feed ∧
        (registration feed (seen ++ h.observe op)).wanted = (registration feed seen).wanted := by
      rw [registration_append]
      have hOp := hPublish op List.mem_cons_self
      cases op with
      | register _ | update _ _ | remove _ | receive _ | dropReceiver _ => exact hOp.elim
      | number event =>
        refine ⟨?_, rfl⟩
        simp only [GatewayHub.step, GatewayHub.numberEvent]
        split
        · rfl
        · split <;> rfl
      | route =>
        cases hFlight : h.inFlight with
        | none => simp [GatewayHub.step, GatewayHub.observe, hFlight]
        | some event =>
          have hKey := hNow event (by simp [GatewayHub.observe, hFlight, published])
          have hRouted := routeEvent_spec hCon.invariant.routes hCon.invariant.distinct event
          simp only [GatewayHub.step, GatewayHub.observe, hFlight]
          refine ⟨hRouted.untouched feed fun c hSub hc => ?_, ?_⟩
          · exact hKey ((hCon.delivery feed).wanted c hc hSub)
          · simp [Registration.observe, hKey]
    rw [run_cons, ih (consistent_step hCon op)
      (fun o ho => hPublish o (List.mem_cons_of_mem _ ho))
      (fun event he => by rw [hHalf.2]; exact hRest event he), hHalf.1]

/-- **Delivery.** After every run and for every feed: as long as the feed's
registration stands, its receiver lives and its lag counter is zero, the
events put into its queue are exactly those published while their key was in
the set of the latest update. Publishing other keys never touches a feed.
Whatever a queue took is in strictly increasing delivery order and carries the
hub's epoch; published events are numbered 1, 2, 3, …; a publish that finds the
sequence exhausted leaves the hub as it was. -/
theorem hub_delivery (epoch : Uuid) (capacity maxClients : Nat) (ops : List HubOp)
    (feed : FeedId) :
    let h := hubAfter epoch capacity maxClients ops
    let seen := hubSeen epoch capacity maxClients ops
    (∀ client, (registration feed seen).holder = some client → (h.feeds feed).receiverAlive →
      (h.feeds feed).lagged = 0 → (h.feeds feed).enqueued = (registration feed seen).owed) ∧
    (∀ later : List HubOp, (∀ op ∈ later, op.Publishes) →
      (∀ event ∈ published (trace GatewayHub.step GatewayHub.observe h later),
        event.subscriptionKey ∉ (registration feed seen).wanted) →
      (run GatewayHub.step h later).feeds feed = h.feeds feed) ∧
    ((h.feeds feed).enqueued.map MarketEvent.deliverySequence).Pairwise (· < ·) ∧
    (∀ event ∈ (h.feeds feed).enqueued, event.streamEpoch = epoch) ∧
    (published seen).map MarketEvent.deliverySequence = List.range' 1 (published seen).length ∧
    (∀ event, (h.numberEvent event).1 = .error .sequenceExhausted →
      (h.numberEvent event).2 = h) := by
  intro h seen
  have hCon : Consistent h seen := consistent_after epoch capacity maxClients ops
  have hNum := hCon.numbered
  have hEpoch : h.streamEpoch = epoch := streamEpoch_after epoch capacity maxClients ops
  refine ⟨fun client hHolder hAlive hLag => ?_,
    fun later hPublish hOther => feeds_of_other_keys hCon feed hPublish hOther, ?_,
    fun event he => ?_, hNum.sequence, fun event hFull => ?_⟩
  · -- the first holder is still routed, as its receiver is alive, and is owed all it was
    -- queued
    have hRouted := (hCon.delivery feed).routed client hHolder hAlive
    exact ((hCon.delivery feed).owed client hRouted hLag).2
  · -- the queue is a sublist of what was published, whose numbers are a range
    refine List.Pairwise.sublist ((hNum.sublist feed).map MarketEvent.deliverySequence) ?_
    rw [hNum.sequence]
    exact List.pairwise_lt_range'
  · rw [← hEpoch]
    exact hNum.epoch event ((hNum.sublist feed).subset he)
  · unfold GatewayHub.numberEvent at hFull ⊢
    split
    · rfl
    · next hRoom =>
      rw [if_neg hRoom] at hFull
      simp at hFull

/-- A ticker event of one Bybit symbol, for the runs shown below. -/
def sampleEvent (symbol : Text) (time : Nat) : ProviderEvent where
  connectionEpoch := 0
  provider := .bybit
  market := .linearPerpetual
  symbol := symbol
  exchangeTimeMs := some time
  gatewayReceivedTimeMs := time
  sourceSequence := none
  payload := .ticker { last := some ⟨⟨"1.0".toList⟩, time⟩ }

/-- One client that wants one of two published symbols. -/
def sampleRun : List HubOp :=
  [.register 1, .update 1 {(sampleEvent "BTCUSDT".toList 1).subscriptionKey},
    .number (sampleEvent "ETHUSDT".toList 1), .route,
    .number (sampleEvent "BTCUSDT".toList 2), .route]

theorem hub_delivery_sampleRun :
    let h := hubAfter 7 1 10 sampleRun
    let seen := hubSeen 7 1 10 sampleRun
    ((h.feeds 0).enqueued = (registration 0 seen).owed ∧
      (registration 0 seen).owed = [(sampleEvent "BTCUSDT".toList 2).intoMarketEvent 7 2]) ∧
    (run GatewayHub.step h [.number (sampleEvent "ETHUSDT".toList 3), .route]).feeds 0 =
      h.feeds 0 := by
  obtain ⟨hQueue, hOther, -⟩ := hub_delivery 7 1 10 sampleRun 0
  refine ⟨⟨hQueue 1 (by decide) (by decide) (by decide), by decide⟩, hOther _ ?_ (by decide)⟩
  intro op hOp
  rcases List.mem_pair.mp hOp with rfl | rfl <;> trivial

end MarketStreamGateway
