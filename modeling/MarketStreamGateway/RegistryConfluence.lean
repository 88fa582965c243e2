import Mathlib.Data.List.Chain
import MarketStreamGateway.RegistryInvariant

/-!
# Market Stream Gateway — order of the registry's operations

The registry is shared: the operations of the clients come in any order. What
a client owns in the end is a matter of its own operations, unless a provider
limit turns one of them down; and since everything else in the registry is a
function of what the clients own, the order leaves no trace.

A key is activated when its first holder comes and deactivated when its last
one goes, whichever clients these are.

Main results:
* `registryAfter_clientSet` — a client's set after a run, from its own calls.
* `step_crossed` — the reports of an operation are what it changes in the
  desired set.
* `registry_confluent` — the two together, over all interleavings and runs.
-/

namespace MarketStreamGateway

open Lib

-- ---------------------------------------------------------------------------
-- Calls
-- ---------------------------------------------------------------------------

/-- What a client asks for, without the iteration order of the hash map that
the call meets. -/
inductive RegistryCall where
  | add (keys : List SubscriptionKey)
  | remove (keys : List SubscriptionKey)
  | cleanupClient

namespace RegistryOp

/-- The client that makes an operation. -/
def client : RegistryOp → ClientId
  | .add _ client _ | .remove client _ | .cleanupClient client => client

/-- What the client asks for. -/
def call : RegistryOp → RegistryCall
  | .add _ _ keys => .add keys
  | .remove _ keys => .remove keys
  | .cleanupClient _ => .cleanupClient

end RegistryOp

/-- The calls of one client, in their order. -/
def callsOf (client : ClientId) (ops : List RegistryOp) : List RegistryCall :=
  (ops.filter fun op => op.client = client).map RegistryOp.call

/-- What a call does to the set of its client, if no provider limit is in the
way. -/
def applyCall (maxPerClient : Nat) (keys : Finset SubscriptionKey) :
    RegistryCall → Finset SubscriptionKey
  | .add requested =>
    if (keys ∪ requested.toFinset).card > maxPerClient then keys else keys ∪ requested.toFinset
  | .remove released => keys \ released.toFinset
  | .cleanupClient => ∅

namespace SubscriptionRegistry

/-- The operation is not turned down by a provider limit. -/
def Unlimited (r : SubscriptionRegistry) : RegistryOp → Prop
  | .add order client keys => ∀ provider limit requested,
      (r.add order client keys).1 ≠ .error (.providerLimitExceeded provider limit requested)
  | .remove _ _ | .cleanupClient _ => True

/-- What the operation reports; a refused one reports nothing. -/
def change (r : SubscriptionRegistry) : RegistryOp → Option SubscriptionChange
  | .add order client keys => (r.add order client keys).1.toOption
  | .remove client keys => some (r.remove client keys).change
  | .cleanupClient client => some (r.cleanupClient client).change

/-- The keys an operation reports as activated, none where it fails. -/
def activated (r : SubscriptionRegistry) (op : RegistryOp) : List SubscriptionKey :=
  ((r.change op).map (·.activated)).getD []

/-- The keys an operation reports as deactivated. -/
def deactivated (r : SubscriptionRegistry) (op : RegistryOp) : List SubscriptionKey :=
  ((r.change op).map (·.deactivated)).getD []

/-- The reports of an operation about a key: `true` for an activation, `false`
for a deactivation. -/
def crossings (key : SubscriptionKey) (r : SubscriptionRegistry) (op : RegistryOp) : List Bool :=
  (if key ∈ r.activated op then [true] else []) ++ if key ∈ r.deactivated op then [false] else []

end SubscriptionRegistry

-- ---------------------------------------------------------------------------
-- The set of a client
-- ---------------------------------------------------------------------------

/-- The state with the set of one client replaced. -/
def RegistryState.withClient (s : RegistryState) (client : ClientId)
    (keys : Finset SubscriptionKey) : RegistryState :=
  { s with clients := s.clients.insert client keys }

/-- Counting down touches no client. -/
theorem decrementReferences_clients (s : RegistryState) (removed : List SubscriptionKey) :
    (decrementReferences s removed).state.clients = s.clients := by
  have hFold : ∀ acc : Decrement,
      (removed.foldl decrementReference acc).state.clients = acc.state.clients := by
    induction removed with
    | nil => exact fun _ => rfl
    | cons key rest ih =>
      intro acc
      rw [List.foldl_cons, ih]
      unfold decrementReference
      split
      · split <;> rfl
      · rfl
  exact hFold ⟨s, [], []⟩

/-- What `add` can do. -/
theorem add_cases (r : SubscriptionRegistry) (order : ProviderOrder) (client : ClientId)
    (keys : List SubscriptionKey) :
    ((r.state.clientSet client ∪ keys.toFinset).card > r.maxSubscriptionsPerClient ∧
      ∃ requested, r.add order client keys =
        (.error (.clientLimitExceeded r.maxSubscriptionsPerClient requested), r)) ∨
    ((r.state.clientSet client ∪ keys.toFinset).card ≤ r.maxSubscriptionsPerClient ∧
      ((keys.toFinset \ r.state.clientSet client = ∅ ∧
          r.add order client keys = (.ok (.unchanged (r.state.clientSet client)), r)) ∨
        (∃ provider limit requested, r.add order client keys =
          (.error (.providerLimitExceeded provider limit requested), r)) ∨
        ∃ s activated, Incremented
            (r.state.withClient client (r.state.clientSet client ∪ keys.toFinset))
            (iter (keys.toFinset \ r.state.clientSet client)) [] (s, activated) ∧
          r.add order client keys =
            (.ok { SubscriptionChange.unchanged (s.clientSet client) with
                added := iter (keys.toFinset \ r.state.clientSet client), activated },
              r.publishSnapshotIfChanged s activated))) := by
  -- the code adds the sizes of the old set and of the new keys
  have hCard : (r.state.clientSet client ∪ keys.toFinset).card =
      (r.state.clientSet client).card +
        (iter (keys.toFinset \ r.state.clientSet client)).length := by
    rw [iter_length, Finset.card_union, ← Finset.card_sdiff_add_card_inter keys.toFinset
      (r.state.clientSet client), Finset.inter_comm]
    omega
  simp only [SubscriptionRegistry.add]
  split
  · -- the limit of the client is checked first
    next hOver =>
    exact Or.inl ⟨by omega, _, rfl⟩
  next hWithin =>
  refine Or.inr ⟨by omega, ?_⟩
  split
  · next hNone => exact Or.inl ⟨by simpa using hNone, rfl⟩
  refine Or.inr ?_
  split
  · exact Or.inl ⟨_, _, _, rfl⟩
  · refine Or.inr ⟨_, _, ?_, rfl⟩
    -- the new keys are counted one by one, each once
    have hUnion : r.state.clientSet client ∪
        (iter (keys.toFinset \ r.state.clientSet client)).toFinset =
          r.state.clientSet client ∪ keys.toFinset := by
      rw [iter_toFinset, Finset.union_sdiff_self_eq_union]
    rw [hUnion]
    exact incrementReferences_spec _ (iter_nodup _)

/-- The client map of `remove` and `cleanup_client`: the keys are gone from the
client's set. -/
theorem remove_clientSet (r : SubscriptionRegistry) (client : ClientId)
    (keys : List SubscriptionKey) (c : ClientId) :
    (r.remove client keys).registry.state.clientSet c =
      if client = c then r.state.clientSet c \ keys.toFinset else r.state.clientSet c := by
  unfold SubscriptionRegistry.remove
  dsimp only
  split
  · -- none of the keys is held, so nothing is removed
    next hNone =>
    have hDisjoint : Disjoint keys.toFinset (r.state.clientSet client) := by
      rw [Finset.disjoint_iff_inter_eq_empty]
      simpa using hNone
    split
    · next hClient =>
      subst hClient
      exact (Finset.sdiff_eq_self_of_disjoint hDisjoint.symm).symm
    · rfl
  · have hLeft :
      r.state.clientSet client \ (iter (keys.toFinset ∩ r.state.clientSet client)).toFinset
        = r.state.clientSet client \ keys.toFinset := by
      rw [iter_toFinset, Finset.inter_comm, Finset.sdiff_inter_self_left]
    rw [hLeft]
    show RegistryState.clientSet (decrementReferences _ _).state c = _
    -- counting down leaves the table of clients alone
    rw [RegistryState.clientSet, decrementReferences_clients]
    dsimp only
    by_cases hClient : client = c
    · subst hClient
      split
      · next hEmpty => simp [hEmpty]
      · simp
    · have hOther : c ≠ client := fun h => hClient h.symm
      rw [if_neg hClient]
      split
      · rw [lookup_erase_ite, if_neg hOther, lookup_insert_ite, if_neg hOther,
          RegistryState.clientSet]
      · rw [lookup_insert_ite, if_neg hOther, RegistryState.clientSet]

/-- A cleanup empties one client and no other. -/
theorem cleanupClient_clientSet (r : SubscriptionRegistry) (client c : ClientId) :
    (r.cleanupClient client).registry.state.clientSet c =
      if client = c then ∅ else r.state.clientSet c := by
  unfold SubscriptionRegistry.cleanupClient
  split
  · next hAbsent =>
    split
    · next hClient =>
      subst hClient
      exact RegistryState.clientSet_eq_empty (Finmap.lookup_eq_none.mp hAbsent)
    · rfl
  · show RegistryState.clientSet (decrementReferences _ _).state c = _
    rw [RegistryState.clientSet, decrementReferences_clients, lookup_erase_ite]
    by_cases hClient : client = c
    · subst hClient
      simp
    · rw [if_neg fun h => hClient h.symm, if_neg hClient, RegistryState.clientSet]

/-- An addition within the provider limits does to its client what the call
says, and nothing to the others. -/
theorem add_clientSet {r : SubscriptionRegistry} {order : ProviderOrder} {client : ClientId}
    {keys : List SubscriptionKey} (h : r.Unlimited (.add order client keys)) (c : ClientId) :
    (r.add order client keys).2.state.clientSet c =
      if client = c then applyCall r.maxSubscriptionsPerClient (r.state.clientSet c) (.add keys)
      else r.state.clientSet c := by
  rcases add_cases r order client keys with ⟨hOver, _, hAdd⟩ | ⟨hWithin, hCases⟩
  · rw [hAdd]
    split
    · next hClient =>
      subst hClient
      rw [applyCall, if_pos hOver]
    · rfl
  · have hUnion : applyCall r.maxSubscriptionsPerClient (r.state.clientSet client) (.add keys) =
        r.state.clientSet client ∪ keys.toFinset := by
      rw [applyCall, if_neg (Nat.not_lt.mpr hWithin)]
    rcases hCases with ⟨hNone, hAdd⟩ | ⟨provider, limit, requested, hAdd⟩ |
      ⟨s, activated, hInc, hAdd⟩
    · rw [hAdd]
      split
      · next hClient =>
        subst hClient
        rw [hUnion, Finset.union_eq_left.mpr (Finset.sdiff_eq_empty_iff_subset.mp hNone)]
      · rfl
    · -- refusals by a provider are excluded
      exact absurd (congrArg Prod.fst hAdd) (h provider limit requested)
    · rw [hAdd]
      show s.clientSet c = _
      rw [RegistryState.clientSet, hInc.clients, RegistryState.withClient,
        ← RegistryState.clientSet,
        clientSet_insert]
      by_cases hClient : client = c
      · subst hClient
        rw [if_pos rfl, if_pos rfl, hUnion]
      · rw [if_neg hClient, if_neg fun h => hClient h.symm]

/-- One operation, and the set of one client. -/
theorem step_clientSet {r : SubscriptionRegistry} {op : RegistryOp} (h : r.Unlimited op)
    (c : ClientId) :
    (r.step op).state.clientSet c =
      if op.client = c then applyCall r.maxSubscriptionsPerClient (r.state.clientSet c) op.call
      else r.state.clientSet c := by
  cases op with
  | add order client keys => exact add_clientSet h c
  | remove client keys => exact remove_clientSet r client keys c
  | cleanupClient client => exact cleanupClient_clientSet r client c

/-- **A client's own calls.** Without refusals by a provider limit, the set of a
client after a run is what its own calls make of it. -/
theorem registryAfter_clientSet {maxPerClient : Nat} {limits : ProviderLimits}
    {ops : List RegistryOp}
    (h : AllSteps SubscriptionRegistry.step SubscriptionRegistry.Unlimited
      (.withProviderLimits maxPerClient limits) ops) (c : ClientId) :
    (registryAfter maxPerClient limits ops).state.clientSet c =
      run (applyCall maxPerClient) ∅ (callsOf c ops) := by
  -- the limit of a client is the same in every state of the run
  have hAll := h.and_invariant (P := fun r => r.maxSubscriptionsPerClient = maxPerClient)
    (fun r op hMax => (step_limits r op).1.trans hMax) rfl
  have hStep : ∀ (r : SubscriptionRegistry) (op : RegistryOp) (c : ClientId),
      (r.maxSubscriptionsPerClient = maxPerClient ∧ r.Unlimited op) →
      (r.step op).state.clientSet c =
        if op.client = c then applyCall maxPerClient (r.state.clientSet c) op.call
        else r.state.clientSet c := by
    rintro r op c ⟨rfl, hOp⟩
    exact step_clientSet hOp c
  -- a client's set depends on its own calls only
  have hOwn := @run_component _ _ _ _ _ _ _ RegistryOp.client
    (fun r c => RegistryState.clientSet r.state c)
    (fun keys op => applyCall maxPerClient keys op.call)
    hStep _ _ hAll c
  rw [registryAfter, hOwn, callsOf, run, run, List.foldl_map]
  rfl

-- ---------------------------------------------------------------------------
-- The state as a function of the sets
-- ---------------------------------------------------------------------------

/-- In a consistent registry everything follows from the sets of the clients. -/
theorem RegistryInvariant.state_eq {r r' : SubscriptionRegistry} (h : RegistryInvariant r)
    (h' : RegistryInvariant r') (hSets : ∀ c, r.state.clientSet c = r'.state.clientSet c) :
    r.state = r'.state := by
  have hDemand : r.state.demand = r'.state.demand := demand_congr hSets
  have hClients : r.state.clients = r'.state.clients := by
    refine Finmap.ext_lookup fun c => ?_
    have hSet := hSets c
    rw [RegistryState.clientSet, RegistryState.clientSet] at hSet
    have hSome := h.nonempty c
    have hSome' := h'.nonempty c
    -- no entry and an empty entry are told apart by the invariant
    cases hLookup : r.state.clients.lookup c <;> cases hLookup' : r'.state.clients.lookup c <;>
      simp_all
  have hCounts : r.state.referenceCounts = r'.state.referenceCounts := by
    refine Finmap.ext_lookup fun key => ?_
    rw [h.counts, h'.counts, hDemand]
  have hDesired : r.state.desired = r'.state.desired := by
    rw [h.desired, h'.desired, hDemand]
  cases hState : r.state with
  | mk clients counts desired =>
    cases hState' : r'.state with
    | mk clients' counts' desired' => simp_all

-- ---------------------------------------------------------------------------
-- Reports
-- ---------------------------------------------------------------------------

/-- The reports are the two differences of the desired set. -/
structure Crossed (before after : Finset SubscriptionKey)
    (activated deactivated : List SubscriptionKey) : Prop where
  activated : ∀ key, key ∈ activated ↔ key ∉ before ∧ key ∈ after
  deactivated : ∀ key, key ∈ deactivated ↔ key ∈ before ∧ key ∉ after

/-- Nothing crosses while nothing changes. -/
theorem crossed_refl (desired : Finset SubscriptionKey) : Crossed desired desired [] [] :=
  ⟨by simp, by simp⟩

/-- A key is desired as long as it has a reference. -/
theorem RegistryInvariant.references_eq_zero {r : SubscriptionRegistry} (h : RegistryInvariant r)
    {key : SubscriptionKey} : r.state.references key = 0 ↔ key ∉ r.state.desired := by
  rw [h.references, h.desired, ← Demand.count_pos]
  omega

/-- An addition reports the keys that become desired. -/
theorem add_crossed {r : SubscriptionRegistry} (h : RegistryInvariant r) (order : ProviderOrder)
    (client : ClientId) (keys : List SubscriptionKey) :
    Crossed r.state.desired (r.step (.add order client keys)).state.desired
      (r.activated (.add order client keys)) (r.deactivated (.add order client keys)) := by
  show Crossed r.state.desired (r.add order client keys).2.state.desired
    (((r.add order client keys).1.toOption.map (·.activated)).getD [])
    (((r.add order client keys).1.toOption.map (·.deactivated)).getD [])
  rcases add_cases r order client keys with ⟨-, _, hAdd⟩ | ⟨-, ⟨-, hAdd⟩ | ⟨_, _, _, hAdd⟩ |
    ⟨s, activated, hInc, hAdd⟩⟩
  · rw [hAdd]
    exact crossed_refl _
  · rw [hAdd]
    exact crossed_refl _
  · rw [hAdd]
    exact crossed_refl _
  · rw [hAdd]
    -- the keys reported are those without a reference, which are not desired
    have hReported : ∀ key, key ∈ activated ↔
        key ∈ keys.toFinset \ r.state.clientSet client ∧ key ∉ r.state.desired := by
      intro key
      rw [show activated = _ from hInc.reported, List.nil_append, List.mem_filter, mem_iter,
        decide_eq_true_eq]
      exact and_congr_right fun _ => h.references_eq_zero
    have hDesired : ∀ key, key ∈ s.desired ↔ key ∈ r.state.desired ∨ key ∈ activated := by
      intro key
      rw [show s.desired = _ from hInc.desired, Finset.mem_union, List.mem_toFinset,
        show activated = _ from hInc.reported, List.nil_append]
      rfl
    refine ⟨fun key => ?_, fun key => ?_⟩
    · show key ∈ activated ↔ key ∉ r.state.desired ∧ key ∈ s.desired
      rw [hDesired]
      constructor
      · exact fun hKey => ⟨((hReported key).mp hKey).2, Or.inr hKey⟩
      · rintro ⟨hOld, hKey | hKey⟩
        · exact absurd hKey hOld
        · exact hKey
    · show key ∈ [] ↔ key ∈ r.state.desired ∧ key ∉ s.desired
      rw [hDesired]
      simp only [List.not_mem_nil, false_iff, not_and, not_not]
      exact Or.inl

/-- Releasing keys that all have a reference reports those that had one. -/
theorem release_crossed {r : SubscriptionRegistry} (h : RegistryInvariant r) {client : ClientId}
    {R : Finset SubscriptionKey} (hOwned : R ⊆ r.state.clientSet client) {owned : RegistryState}
    (hCounts : owned.referenceCounts = r.state.referenceCounts)
    (hDesired : owned.desired = r.state.desired) :
    Crossed r.state.desired (decrementReferences owned (iter R)).state.desired []
      (decrementReferences owned (iter R)).deactivated := by
  have hReferences : ∀ key, owned.references key = r.state.references key := by
    intro key
    rw [RegistryState.references, hCounts, RegistryState.references]
  -- the client owns the keys, so they are desired and counted
  have hHeld : ∀ key ∈ R, key ∈ r.state.desired := by
    intro key hKey
    rw [h.desired, Demand.mem_desired]
    exact ⟨client, RegistryState.mem_demand.mpr (hOwned hKey)⟩
  have hPos : ∀ key ∈ iter R, 0 < owned.references key := by
    intro key hKey
    rw [hReferences, Nat.pos_iff_ne_zero, ne_eq, h.references_eq_zero, not_not]
    exact hHeld key (mem_iter.mp hKey)
  have hDec := decrementReferences_spec owned (iter_nodup R) hPos
  have hReported : ∀ key, key ∈ (decrementReferences owned (iter R)).deactivated →
      key ∈ r.state.desired := by
    intro key hKey
    rw [hDec.deactivated, List.nil_append] at hKey
    exact hHeld key (mem_iter.mp (List.mem_of_mem_filter hKey))
  -- what is left is what was not reported
  have hLeft : ∀ key, key ∈ (decrementReferences owned (iter R)).state.desired ↔
      key ∈ r.state.desired ∧ key ∉ (decrementReferences owned (iter R)).deactivated := by
    intro key
    rw [hDec.desired, hDec.deactivated, hDesired, Finset.mem_sdiff, List.mem_toFinset,
      List.nil_append]
  refine ⟨fun key => ?_, fun key => ?_⟩
  · rw [hLeft]
    simp only [List.not_mem_nil, false_iff, not_and]
    exact fun hOld hNew => absurd hNew hOld
  · rw [hLeft]
    constructor
    · exact fun hKey => ⟨hReported key hKey, fun hStill => hStill.2 hKey⟩
    · rintro ⟨hOld, hGone⟩
      by_contra hKey
      exact hGone ⟨hOld, hKey⟩

/-- A removal reports the keys that stop being desired. -/
theorem remove_crossed {r : SubscriptionRegistry} (h : RegistryInvariant r) (client : ClientId)
    (keys : List SubscriptionKey) :
    Crossed r.state.desired (r.step (.remove client keys)).state.desired
      (r.activated (.remove client keys)) (r.deactivated (.remove client keys)) := by
  show Crossed _ (r.remove client keys).registry.state.desired
    (r.remove client keys).change.activated
    (r.remove client keys).change.deactivated
  simp only [SubscriptionRegistry.remove]
  split
  · exact crossed_refl _
  · exact release_crossed h Finset.inter_subset_right rfl rfl

/-- A cleanup reports the keys that stop being desired. -/
theorem cleanupClient_crossed {r : SubscriptionRegistry} (h : RegistryInvariant r)
    (client : ClientId) :
    Crossed r.state.desired (r.step (.cleanupClient client)).state.desired
      (r.activated (.cleanupClient client)) (r.deactivated (.cleanupClient client)) := by
  show Crossed _ (r.cleanupClient client).registry.state.desired
    (r.cleanupClient client).change.activated (r.cleanupClient client).change.deactivated
  unfold SubscriptionRegistry.cleanupClient
  split
  · exact crossed_refl _
  · next clientKeys hLookup =>
    have hKeys : clientKeys ⊆ r.state.clientSet client := by
      rw [RegistryState.clientSet, hLookup, Option.getD_some]
    exact release_crossed h hKeys rfl rfl

/-- **Reports.** An operation reports as activated and as deactivated exactly
the keys it brings into the desired set and takes out of it. -/
theorem step_crossed {r : SubscriptionRegistry} (h : RegistryInvariant r) (op : RegistryOp) :
    Crossed r.state.desired (r.step op).state.desired (r.activated op) (r.deactivated op) := by
  cases op with
  | add order client keys => exact add_crossed h order client keys
  | remove client keys => exact remove_crossed h client keys
  | cleanupClient client => exact cleanupClient_crossed h client

/-- The reports about a key so far: they alternate, the first is an activation,
and the key is desired exactly when the last one is. -/
structure Alternates (key : SubscriptionKey) (r : SubscriptionRegistry) (reports : List Bool) :
    Prop where
  consistent : RegistryInvariant r
  alternating : reports.IsChain (· ≠ ·)
  first : reports.head? ≠ some false
  last : key ∈ r.state.desired ↔ reports.getLast? = some true

/-- An operation adds at most one report about a key, and not one like the last. -/
theorem Alternates.step {key : SubscriptionKey} {r : SubscriptionRegistry} {reports : List Bool}
    (h : Alternates key r reports) (op : RegistryOp) :
    Alternates key (r.step op) (reports ++ r.crossings key op) := by
  have hCrossed := step_crossed h.consistent op
  have hNext := registryInvariant_step h.consistent op
  have hLast := h.last
  unfold SubscriptionRegistry.crossings
  by_cases hOld : key ∈ r.state.desired
  · have hActivated : key ∉ r.activated op := fun hKey => ((hCrossed.activated key).mp hKey).1 hOld
    have hTrue : reports.getLast? = some true := hLast.mp hOld
    rw [if_neg hActivated, List.nil_append]
    by_cases hNew : key ∈ (r.step op).state.desired
    · have hDeactivated : key ∉ r.deactivated op :=
        fun hKey => ((hCrossed.deactivated key).mp hKey).2 hNew
      rw [if_neg hDeactivated, List.append_nil]
      exact ⟨hNext, h.alternating, h.first, iff_of_true hNew hTrue⟩
    · -- the last holder went: a deactivation follows an activation
      rw [if_pos ((hCrossed.deactivated key).mpr ⟨hOld, hNew⟩)]
      refine ⟨hNext, ?_, ?_, ?_⟩
      · refine List.isChain_append.mpr ⟨h.alternating, List.isChain_singleton _, ?_⟩
        simp [hTrue]
      · cases reports with
        | nil => simp at hTrue
        | cons first rest => exact h.first
      · simp [hNew]
  · have hDeactivated : key ∉ r.deactivated op :=
      fun hKey => hOld ((hCrossed.deactivated key).mp hKey).1
    have hNotTrue : reports.getLast? ≠ some true := fun hTrue => hOld (hLast.mpr hTrue)
    rw [if_neg hDeactivated, List.append_nil]
    by_cases hNew : key ∈ (r.step op).state.desired
    · -- the first holder came
      rw [if_pos ((hCrossed.activated key).mpr ⟨hOld, hNew⟩)]
      refine ⟨hNext, ?_, ?_, ?_⟩
      · refine List.isChain_append.mpr ⟨h.alternating, List.isChain_singleton _, ?_⟩
        intro x hx y hy hxy
        rw [List.head?_singleton, Option.mem_some_iff] at hy
        subst hy hxy
        exact hNotTrue hx
      · cases reports with
        | nil => simp
        | cons first rest => exact h.first
      · simp [hNew]
    · have hActivated : key ∉ r.activated op :=
        fun hKey => hNew ((hCrossed.activated key).mp hKey).2
      rw [if_neg hActivated, List.append_nil]
      exact ⟨hNext, h.alternating, h.first, iff_of_false hNew hNotTrue⟩

/-- **Order does not matter.** Two runs with the same calls of every client, in
neither of which an `add` exceeds a provider limit, end in the same state with
the same published snapshot. And in every run the reports about a key are
activations and deactivations in turn, an activation first, and the key is
desired in the end exactly when the last report is an activation. -/
theorem registry_confluent (maxPerClient : Nat) (limits : ProviderLimits) :
    (∀ ops ops' : List RegistryOp, (∀ client, callsOf client ops = callsOf client ops') →
      AllSteps SubscriptionRegistry.step SubscriptionRegistry.Unlimited
        (.withProviderLimits maxPerClient limits) ops →
      AllSteps SubscriptionRegistry.step SubscriptionRegistry.Unlimited
        (.withProviderLimits maxPerClient limits) ops' →
      (registryAfter maxPerClient limits ops).state =
          (registryAfter maxPerClient limits ops').state ∧
        (registryAfter maxPerClient limits ops).desired =
          (registryAfter maxPerClient limits ops').desired) ∧
    ∀ (ops : List RegistryOp) (key : SubscriptionKey),
      let reports := trace SubscriptionRegistry.step (SubscriptionRegistry.crossings key)
        (.withProviderLimits maxPerClient limits) ops
      reports.IsChain (· ≠ ·) ∧ reports.head? ≠ some false ∧
        (key ∈ (registryAfter maxPerClient limits ops).state.desired ↔
          reports.getLast? = some true) := by
  refine ⟨fun ops ops' hCalls hOps hOps' => ?_, fun ops key => ?_⟩
  · -- the sets of the clients determine the rest of the state
    have hInv := registryInvariant_after maxPerClient limits ops
    have hInv' := registryInvariant_after maxPerClient limits ops'
    have hState := hInv.state_eq hInv' fun c => by
      rw [registryAfter_clientSet hOps, registryAfter_clientSet hOps', hCalls]
    exact ⟨hState, by rw [hInv.snapshot, hInv'.snapshot, hState]⟩
  · -- the reports so far alternate and end with what the key's state is
    have hStart : Alternates key (.withProviderLimits maxPerClient limits) [] :=
      ⟨registryInvariant_init maxPerClient limits, List.isChain_nil, by simp,
        by simp [SubscriptionRegistry.withProviderLimits]⟩
    have hRun := run_trace_invariant (R := Alternates key) (fun r op reports h => h.step op)
      hStart ops
    rw [List.nil_append] at hRun
    exact ⟨hRun.alternating, hRun.first, hRun.last⟩

section Sample

/-- A key for the samples. -/
def btcTicker : SubscriptionKey := ⟨.bybit, .linearPerpetual, "BTCUSDT".toList, .ticker⟩

/-- Two clients take up the same key; the first gives it up. -/
def sharedOps : List RegistryOp :=
  [.add .declared 1 [btcTicker], .add .declared 2 [btcTicker], .remove 1 [btcTicker]]

/-- The second client comes last. -/
def sharedOps' : List RegistryOp :=
  [.add .declared 1 [btcTicker], .remove 1 [btcTicker], .add .declared 2 [btcTicker]]

/-- An addition that succeeds ran into no provider limit. -/
theorem unlimited_of_isOk {r : SubscriptionRegistry} {order : ProviderOrder} {client : ClientId}
    {keys : List SubscriptionKey} (h : (r.add order client keys).1.toOption.isSome = true) :
    r.Unlimited (.add order client keys) := by
  intro provider limit requested hError
  rw [hError] at h
  cases h

theorem registry_confluent_sharedOps :
    (registryAfter 10 (.uniform 10) sharedOps).state =
      (registryAfter 10 (.uniform 10) sharedOps').state ∧
    (registryAfter 10 (.uniform 10) sharedOps).desired =
      (registryAfter 10 (.uniform 10) sharedOps').desired := by
  refine (registry_confluent 10 (.uniform 10)).1 sharedOps sharedOps' ?_ ?_ ?_
  · intro client
    by_cases h1 : 1 = client
    · subst h1
      rfl
    · by_cases h2 : 2 = client
      · subst h2
        rfl
      · simp [callsOf, sharedOps, sharedOps', RegistryOp.client, h1, h2]
  · exact ⟨unlimited_of_isOk (by decide +kernel), unlimited_of_isOk (by decide +kernel), trivial,
      trivial⟩
  · exact ⟨unlimited_of_isOk (by decide +kernel), trivial, unlimited_of_isOk (by decide +kernel),
      trivial⟩

end Sample

end MarketStreamGateway
