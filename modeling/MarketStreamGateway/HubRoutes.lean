import MarketStreamGateway.HubDelivery

/-!
# Market Stream Gateway — the hub's route index

The hub keeps the subscriptions of its clients twice, by client and by key. This
module reads the two tables entry by entry, over every run of the hub, and adds
the bound on the number of clients.

* `hub_routes_consistent` — the two tables agree, no key is kept without a
  client, and the client limit holds; a refused registration changes nothing,
  and a client that is present can always register again.
-/

namespace MarketStreamGateway

open Lib

/-! ## The number of clients -/

namespace RouteState

/-- A client has an entry when it has a channel. -/
theorem mem_clients_iff (r : RouteState) (client : ClientId) :
    client ∈ r.clients.keys ↔ r.handle client ≠ none := by
  rw [Finmap.mem_keys, ← Finmap.lookup_isSome, handle]
  cases r.clients.lookup client <;> simp

/-- An operation that adds no handle adds no client. -/
theorem card_le_of_handle {r r' : RouteState}
    (h : ∀ c, r'.handle c ≠ none → r.handle c ≠ none) :
    r'.clients.keys.card ≤ r.clients.keys.card := by
  refine Finset.card_le_card fun c hc => ?_
  exact (r.mem_clients_iff c).mpr (h c ((r'.mem_clients_iff c).mp hc))

end RouteState

/-- The hub holds no more clients than it may, and never changes how many it
may hold. -/
structure Limited (maxClients : Nat) (h : GatewayHub) : Prop where
  invariant : HubInvariant h
  limit : h.maxClients = maxClients
  bounded : h.routes.clients.keys.card ≤ maxClients

/-- A registration is refused exactly if it would exceed the limit. -/
theorem tryRegisterClient_eq_none {h : GatewayHub} {client : ClientId} :
    (h.tryRegisterClient client).1 = none ↔
      client ∉ h.routes.clients ∧ h.maxClients ≤ h.routes.clients.keys.card := by
  unfold GatewayHub.tryRegisterClient
  split
  · next hFull => exact iff_of_true rfl hFull
  · next hRoom => exact iff_of_false (Option.some_ne_none _) hRoom

/-- A registration is refused at the limit; one that replaces its own earlier
one adds nobody. -/
theorem bounded_register {maxClients : Nat} {h : GatewayHub} (hLimited : Limited maxClients h)
    (client : ClientId) :
    (h.tryRegisterClient client).2.routes.clients.keys.card ≤ maxClients := by
  rcases tryRegisterClient_cases hLimited.invariant.routes client with hFull | ⟨hFeed, hReg⟩
  · rw [hFull]
    exact hLimited.bounded
  · have hSub : (h.tryRegisterClient client).2.routes.clients.keys ⊆
        insert client h.routes.clients.keys := by
      intro c hc
      rw [RouteState.mem_clients_iff, hReg.handle] at hc
      rw [Finset.mem_insert, RouteState.mem_clients_iff]
      split at hc
      · next hSame => exact .inl hSame
      · exact .inr hc
    -- a client that registers again takes no further place
    by_cases hMem : client ∈ h.routes.clients.keys
    · rw [Finset.insert_eq_of_mem hMem] at hSub
      exact le_trans (Finset.card_le_card hSub) hLimited.bounded
    · -- there was room, or the registration had been refused
      have hRoom : h.routes.clients.keys.card < maxClients := by
        rw [← hLimited.limit]
        by_contra hFull
        have hNone := tryRegisterClient_eq_none.mpr
          ⟨fun hPresent => hMem (Finmap.mem_keys.mpr hPresent), not_lt.mp hFull⟩
        rw [hFeed] at hNone
        cases hNone
      calc (h.tryRegisterClient client).2.routes.clients.keys.card
          ≤ (insert client h.routes.clients.keys).card := Finset.card_le_card hSub
        _ = h.routes.clients.keys.card + 1 := Finset.card_insert_of_notMem hMem
        _ ≤ maxClients := hRoom

/-- The limit of a hub is fixed. -/
theorem maxClients_step (h : GatewayHub) (op : HubOp) : (h.step op).maxClients = h.maxClients := by
  cases op with
  | register client =>
    simp only [GatewayHub.step, GatewayHub.tryRegisterClient]
    split <;> rfl
  | update client subscriptions =>
    simp only [GatewayHub.step, GatewayHub.updateClientSubscriptions]
    split <;> rfl
  | number event =>
    simp only [GatewayHub.step, GatewayHub.numberEvent]
    split
    · rfl
    · split <;> rfl
  | route =>
    simp only [GatewayHub.step]
    split <;> rfl
  | remove client | receive feed | dropReceiver feed => rfl

/-- No operation exceeds the limit. -/
theorem limited_step {maxClients : Nat} {h : GatewayHub} (hLimited : Limited maxClients h)
    (op : HubOp) : Limited maxClients (h.step op) := by
  refine ⟨hubInvariant_step hLimited.invariant op, (maxClients_step h op).trans hLimited.limit, ?_⟩
  have hRoutes := hLimited.invariant.routes
  have hBounded := hLimited.bounded
  cases op with
  -- only a registration adds a route, and it looks at the limit first
  | register client => exact bounded_register hLimited client
  | update client subscriptions =>
    obtain ⟨-, hHandle, -⟩ := routeInvariant_update hRoutes client subscriptions
    refine le_trans (RouteState.card_le_of_handle fun c hc => ?_) hBounded
    rwa [GatewayHub.step, hHandle] at hc
  | remove client =>
    refine le_trans (RouteState.card_le_of_handle fun c hc => ?_) hBounded
    rw [GatewayHub.step, GatewayHub.removeClient, RouteState.handle_removeRoute] at hc
    split at hc
    · exact absurd rfl hc
    · exact hc
  | number event =>
    simp only [GatewayHub.step, GatewayHub.numberEvent]
    split
    · exact hBounded
    · split <;> exact hBounded
  | route =>
    cases hFlight : h.inFlight with
    | none =>
      simp only [GatewayHub.step, hFlight]
      exact hBounded
    | some event =>
      have hRouted := routeEvent_spec hRoutes hLimited.invariant.distinct event
      simp only [GatewayHub.step, hFlight]
      refine le_trans (RouteState.card_le_of_handle fun c hc => ?_) hBounded
      rw [hRouted.handle] at hc
      split at hc
      · exact absurd rfl hc
      · exact hc
  | receive feed | dropReceiver feed => exact hBounded

/-- No run exceeds the limit. -/
theorem limited_after (epoch : Uuid) (capacity maxClients : Nat) (ops : List HubOp) :
    Limited maxClients (hubAfter epoch capacity maxClients ops) := by
  refine run_invariant (P := Limited maxClients)
    (fun h op hLimited => limited_step hLimited op) ?_ ops
  exact ⟨hubInvariant_init epoch capacity maxClients, rfl, Nat.zero_le _⟩

/-! ## The two tables -/

/-- Being listed, spelled out on the table by key. -/
theorem mem_listed_iff (r : RouteState) (key : SubscriptionKey) (client : ClientId) :
    client ∈ r.listed key ↔ ∃ clients, r.clientsByKey.lookup key = some clients ∧
      client ∈ clients := by
  rw [RouteState.listed]
  cases r.clientsByKey.lookup key <;> simp

/-- Wanting a key, spelled out on the table by client. -/
theorem mem_subscribed_iff (r : RouteState) (key : SubscriptionKey) (client : ClientId) :
    key ∈ r.subscribed client ↔ ∃ route, r.clients.lookup client = some route ∧
      key ∈ route.subscriptions := by
  rw [RouteState.subscribed]
  cases r.clients.lookup client <;> simp

/-- **The route index.** After every run of registrations, updates, removals,
publications and receivers, the two tables of the hub agree, and the client
limit holds. -/
theorem hub_routes_consistent (epoch : Uuid) (capacity maxClients : Nat) (ops : List HubOp) :
    let h := hubAfter epoch capacity maxClients ops
    (∀ key client,
      (∃ clients, h.routes.clientsByKey.lookup key = some clients ∧ client ∈ clients) ↔
        ∃ route, h.routes.clients.lookup client = some route ∧ key ∈ route.subscriptions) ∧
    (∀ key, h.routes.clientsByKey.lookup key ≠ some ∅) ∧
    h.routes.clients.keys.card ≤ maxClients ∧
    ∀ client,
      ((h.tryRegisterClient client).1 = none → (h.tryRegisterClient client).2 = h) ∧
      (client ∈ h.routes.clients → ∃ feed, (h.tryRegisterClient client).1 = some feed ∧
        (h.tryRegisterClient client).2.routes.clients.lookup client = some ⟨feed, ∅⟩) := by
  intro h
  have hLimited : Limited maxClients h := limited_after epoch capacity maxClients ops
  refine ⟨fun key client => ?_, hLimited.invariant.routes.noEmptyKey, hLimited.bounded,
    fun client => ⟨fun hNone => ?_, fun hMem => ?_⟩⟩
  · rw [← mem_listed_iff, ← mem_subscribed_iff]
    exact hLimited.invariant.routes.index key client
  · rcases tryRegisterClient_cases hLimited.invariant.routes client with hFull | ⟨hFeed, -⟩
    · rw [hFull]
    · rw [hFeed] at hNone
      cases hNone
  · -- the limit is for new clients only
    have hRoom : ¬ (client ∉ h.routes.clients ∧ h.maxClients ≤ h.routes.clients.keys.card) :=
      fun hFull => hFull.1 hMem
    refine ⟨h.nextFeed, ?_, ?_⟩
    · rw [GatewayHub.tryRegisterClient, if_neg hRoom]
    · rw [GatewayHub.tryRegisterClient, if_neg hRoom]
      exact Finmap.lookup_insert _

end MarketStreamGateway
