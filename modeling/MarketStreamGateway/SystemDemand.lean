import MarketStreamGateway.System

/-!
# Market Stream Gateway — from a client to a venue

What a client subscribes to reaches the venue through four copies: the set of
its session, the registry, the desired snapshot and the desired set of a
connection, from which commands are built. Each is changed by a step of its own.

Main results:
* `desired_iff_wanted` — the snapshot is what the sessions that are not cleaned
  up yet remember, all of it and nothing else.
* `demand_reaches_venue` — a supervisor that has seen the current snapshot asks
  its venue for the topics of exactly these keys; what a client is subscribed to
  is routed to it and, by a live endpoint, served.
-/

namespace MarketStreamGateway

open Lib

/-- A session that is not cleaned up yet is subscribed to the key. -/
def Gateway.Wanted (s : Gateway) (key : SubscriptionKey) : Prop :=
  ∃ client x, s.sessions client = some x ∧ x.phase.Held ∧ key ∈ x.subscriptions

/-- What the registry holds for a client is what its session remembers. -/
theorem Agreement.mem_registered {s : Gateway} (h : Agreement s) {client : ClientId}
    {key : SubscriptionKey} :
    key ∈ s.registered client ↔
      ∃ x, s.sessions client = some x ∧ x.phase.Held ∧ key ∈ x.subscriptions := by
  have hClient := h.clients client
  cases hx : s.sessions client with
  | none =>
    rw [hx] at hClient
    rw [hClient.1]
    simp
  | some x =>
    rw [hx] at hClient
    -- the registry has the set of a session until its client is released
    by_cases hHeld : x.phase.Held
    · rw [hClient.held hHeld]
      constructor
      · intro hKey
        exact ⟨x, rfl, hHeld, hKey⟩
      · rintro ⟨y, hy, -, hKey⟩
        obtain rfl := Option.some.inj hy
        exact hKey
    · rw [hClient.released hHeld]
      constructor
      · intro hKey
        exact absurd hKey (Finset.notMem_empty key)
      · rintro ⟨y, hy, hHeld', -⟩
        obtain rfl := Option.some.inj hy
        exact absurd hHeld' hHeld

/-- **The snapshot is the demand of the sessions.** -/
theorem desired_iff_wanted {s : Gateway} (h : Agreement s) (key : SubscriptionKey) :
    key ∈ s.subscriptions.desired ↔ s.Wanted key := by
  rw [h.registry.snapshot, h.registry.desired, Demand.mem_desired]
  refine exists_congr fun client => ?_
  rw [RegistryState.mem_demand]
  exact h.mem_registered

section Runs

variable [Unicode] [JsonText] [RustDecimal] [Serde]

/-- The endpoint that serves a key. -/
def servingEndpoint (key : SubscriptionKey) : EndpointKey :=
  (key.provider, (configuredAdapter key.provider).endpointFor key.channel)

/-- The share of a snapshot, key by key. -/
theorem mem_filterDesired {k : EndpointKey} {snapshot : Finset SubscriptionKey}
    {key : SubscriptionKey} :
    key ∈ filterDesired k.1 (configuredAdapter k.1) k.2 snapshot ↔
      key ∈ snapshot ∧ servingEndpoint key = k := by
  obtain ⟨provider, endpoint⟩ := k
  rw [filterDesired, Finset.mem_filter, servingEndpoint, Prod.mk.injEq]
  refine and_congr_right fun _ => ?_
  constructor
  · rintro ⟨rfl, hEndpoint⟩
    exact ⟨rfl, hEndpoint⟩
  · rintro ⟨rfl, hEndpoint⟩
    exact ⟨rfl, hEndpoint⟩

variable (config : ApiConfig) (epoch : Uuid) (capacity maxClients maxPerClient : Nat)
  (limits : ProviderLimits) (ops : List SystemOp)

/-- A supervisor that has seen the current snapshot has its share of it. -/
theorem connection_desired {s : System} (hAgree : Agreement s.gateway)
    (hInv : s.runtime.Invariant) {k : EndpointKey} {c : Connection (configuredAdapter k.1)}
    (hLoop : (s.tasks k).phase = .looping c)
    (hSeen : (s.tasks k).seen = s.gateway.subscriptions.desiredVersion) (key : SubscriptionKey) :
    key ∈ c.desired ↔ s.gateway.Wanted key ∧ servingEndpoint key = k := by
  have hPhase : PhaseInvariant _ (s.health k) (s.tasks k).phase := (hInv k).phase
  rw [hLoop] at hPhase
  rw [hPhase.2.1 hSeen, mem_filterDesired]
  exact and_congr_left fun _ => desired_iff_wanted hAgree key

/-- **Demand reaches the venue.** In every run of the gateway: the desired
snapshot is exactly what the sessions not cleaned up yet are subscribed to. A
supervisor between two iterations of its loop that has seen the current snapshot
has asked its venue for exactly the topics of the keys in it that it serves. And
if a client at its select loop is subscribed to a key and its feed has not
overrun, the hub routes the key to it, and the serving endpoint, once up to
date and live, has the key subscribed and acknowledged on its connection. -/
theorem demand_reaches_venue (ops : List SystemOp) :
    let s := run System.step (System.start config epoch capacity maxClients maxPerClient limits) ops
    (∀ key, key ∈ s.gateway.subscriptions.desired ↔ s.gateway.Wanted key) ∧
    (∀ k c, (s.tasks k).phase = .looping c →
      (s.tasks k).seen = s.gateway.subscriptions.desiredVersion →
      (∀ key, key ∈ c.desired ↔ s.gateway.Wanted key ∧ servingEndpoint key = k) ∧
      c.asked = topicsOf k.1 c.desired) ∧
    ∀ client x key, s.gateway.sessions client = some x → x.phase = .selecting →
      key ∈ x.subscriptions → (s.gateway.hub.feeds x.feed).lagged = 0 →
      client ∈ s.gateway.hub.routes.listed key ∧
      ∀ c, (s.tasks (servingEndpoint key)).phase = .looping c →
        (s.tasks (servingEndpoint key)).seen = s.gateway.subscriptions.desiredVersion →
        (s.health (servingEndpoint key)).state = .live → c.Served key := by
  intro s
  have hAgree : Agreement s.gateway :=
    System.agreement_after config epoch capacity maxClients maxPerClient limits ops
  obtain ⟨hInv, hLive⟩ :=
    System.supervisors_after config epoch capacity maxClients maxPerClient limits ops
  refine ⟨desired_iff_wanted hAgree, fun k c hLoop hSeen => ⟨?_, ?_⟩,
    fun client x key hx hPhase hKey hLag => ⟨?_, fun c hLoop hSeen hState => ?_⟩⟩
  · exact connection_desired hAgree hInv hLoop hSeen
  · have hStep : PhaseAligned _ (s.tasks k).phase := hLive.aligned.tasks k
    rw [hLoop] at hStep
    exact hStep.2.asked
  · have hClient := hAgree.clients client
    rw [hx] at hClient
    have hSub := hClient.settled (by rw [hPhase]; trivial) hLag
    rw [hAgree.session.hub.routes.index, hSub]
    exact hKey
  · -- the session wants the key, so the connection of its endpoint has it
    have hWanted : s.gateway.Wanted key := ⟨client, x, hx, by rw [hPhase]; trivial, hKey⟩
    have hIn := (connection_desired hAgree hInv hLoop hSeen key).mpr ⟨hWanted, rfl⟩
    have hOpen : PhaseInvariant _ (s.health (servingEndpoint key))
      (s.tasks (servingEndpoint key)).phase := (hInv (servingEndpoint key)).phase
    rw [hLoop] at hOpen
    exact hOpen.2.2.1.served (hOpen.2.2.2 hState) hIn

end Runs

end MarketStreamGateway
