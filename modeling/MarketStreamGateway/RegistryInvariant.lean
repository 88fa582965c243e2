import MarketStreamGateway.Registry
import MarketStreamGateway.Lib.Demand

/-!
# Market Stream Gateway — registry invariant

The registry keeps the same demand four times: per client, as reference
counts, as the desired set and as the published snapshot. This module shows
that they never drift apart.

`RegistryState.demand` reads the client map as the abstract relation of
`Lib.Demand`; `RegistryInvariant` says that every other structure is the
function of that relation it is meant to be, and that both limits hold. One
spec lemma per loop (`incrementReferences_spec`, `decrementReferences_spec`)
says what the loop does to every lookup; the step lemmas combine them with
`Demand.count_add` and `Demand.count_drop`.

Main result: `registry_reachable` — the invariant, spelled out, in every
state reached by any interleaving of operations.
-/

namespace MarketStreamGateway

open Lib

/-! ## The demand relation of a state -/

/-- Which client demands which key, read off the client map. -/
def RegistryState.demand (s : RegistryState) : Demand ClientId SubscriptionKey :=
  s.clients.keys.biUnion fun client => (s.clientSet client).image fun key => (client, key)

/-- A client without an entry holds nothing. -/
theorem RegistryState.clientSet_eq_empty {s : RegistryState} {client : ClientId}
    (h : client ∉ s.clients) : s.clientSet client = ∅ := by
  rw [RegistryState.clientSet, Finmap.lookup_eq_none.mpr h]
  rfl

/-- A client demands what it holds. -/
@[simp] theorem RegistryState.mem_demand {s : RegistryState} {client : ClientId}
    {key : SubscriptionKey} : (client, key) ∈ s.demand ↔ key ∈ s.clientSet client := by
  simp only [RegistryState.demand, Finset.mem_biUnion, Finset.mem_image, Finmap.mem_keys]
  constructor
  · rintro ⟨c, -, k, hk, hEq⟩
    obtain ⟨rfl, rfl⟩ := Prod.mk.inj hEq
    exact hk
  · intro hk
    refine ⟨client, ?_, key, hk, rfl⟩
    by_contra hAbsent
    rw [RegistryState.clientSet_eq_empty hAbsent] at hk
    exact Finset.notMem_empty _ hk

@[simp] theorem RegistryState.keysOf_demand (s : RegistryState) (client : ClientId) :
    s.demand.keysOf client = s.clientSet client := by
  ext key
  simp

/-- The number of clients that demand a key. -/
theorem RegistryState.count_demand (s : RegistryState) (key : SubscriptionKey) :
    s.demand.count key = (s.clients.keys.filter fun c => key ∈ s.clientSet c).card := by
  rw [Demand.count]
  congr 1
  ext client
  simp only [Demand.mem_holders, RegistryState.mem_demand, Finset.mem_filter, Finmap.mem_keys]
  constructor
  · intro hk
    refine ⟨?_, hk⟩
    by_contra hAbsent
    rw [RegistryState.clientSet_eq_empty hAbsent] at hk
    exact Finset.notMem_empty _ hk
  · exact fun h => h.2

/-! ## The invariant -/

/-- Every cached structure is the function of the demand it is meant to be,
and both limits hold. -/
structure RegistryInvariant (r : SubscriptionRegistry) : Prop where
  counts : ∀ key, r.state.referenceCounts.lookup key =
    if r.state.demand.count key = 0 then none else some (r.state.demand.count key)
  desired : r.state.desired = r.state.demand.desired
  snapshot : r.desired = r.state.desired
  nonempty : ∀ client, r.state.clients.lookup client ≠ some ∅
  clientLimit : ∀ client, (r.state.clientSet client).card ≤ r.maxSubscriptionsPerClient
  providerLimit : ∀ p,
    (r.state.desired.filter fun key => key.provider = p).card ≤ r.providerLimits.limitFor p

/-- A reference count is stored exactly for the keys someone demands. -/
theorem RegistryInvariant.mem_counts {r : SubscriptionRegistry} (h : RegistryInvariant r)
    {key : SubscriptionKey} : key ∈ r.state.referenceCounts ↔ key ∈ r.state.demand.desired := by
  rw [← Finmap.lookup_isSome, h.counts, ← Demand.count_pos]
  split
  · next hz => simp [hz]
  · next hz => simpa using Nat.pos_of_ne_zero hz

/-- An empty registry is consistent. -/
theorem registryInvariant_init (maxPerClient : Nat) (limits : ProviderLimits) :
    RegistryInvariant (.withProviderLimits maxPerClient limits) := by
  have hDemand :
      (SubscriptionRegistry.withProviderLimits maxPerClient limits).state.demand = ∅ := by
    rfl
  constructor
  · intro key
    rw [hDemand]
    rfl
  · rw [hDemand]
    rfl
  · rfl
  · intro client
    simp [SubscriptionRegistry.withProviderLimits]
  · intro client
    simp [SubscriptionRegistry.withProviderLimits, RegistryState.clientSet]
  · intro p
    simp [SubscriptionRegistry.withProviderLimits]

/-! ## What the loops do -/

section Loops

variable (s : RegistryState)

/-- The references a key has, none stored counting as zero. -/
def RegistryState.references (key : SubscriptionKey) : Nat :=
  (s.referenceCounts.lookup key).getD 0

/-- Counting a key touches no client. -/
theorem incrementReference_clients (reported : List SubscriptionKey) (key : SubscriptionKey) :
    (incrementReference (s, reported) key).1.clients = s.clients := by
  simp only [incrementReference]
  split <;> rfl

/-- Counting a key raises its own count only. -/
theorem incrementReference_lookup (reported : List SubscriptionKey) (key k : SubscriptionKey) :
    (incrementReference (s, reported) key).1.referenceCounts.lookup k =
      if k = key then some (s.references key + 1) else s.referenceCounts.lookup k := by
  have hInsert := lookup_insert_ite s.referenceCounts key k (s.references key + 1)
  simp only [incrementReference]
  split <;> exact hInsert

/-- A key is desired from its first reference on. -/
theorem incrementReference_desired (reported : List SubscriptionKey) (key : SubscriptionKey) :
    (incrementReference (s, reported) key).1.desired =
      if s.references key = 0 then insert key s.desired else s.desired := by
  simp only [incrementReference, RegistryState.references]
  split <;> simp_all

/-- A key is reported at its first reference. -/
theorem incrementReference_reported (reported : List SubscriptionKey) (key : SubscriptionKey) :
    (incrementReference (s, reported) key).2 =
      if s.references key = 0 then reported ++ [key] else reported := by
  simp only [incrementReference, RegistryState.references]
  split <;> simp_all

/-- What the counting loop of `add` leaves behind: every added key has gained
one reference; the keys that had none are desired and reported. -/
structure Incremented (added reported : List SubscriptionKey)
    (result : RegistryState × List SubscriptionKey) : Prop where
  clients : result.1.clients = s.clients
  lookup : ∀ key, result.1.referenceCounts.lookup key =
    if key ∈ added then some (s.references key + 1) else s.referenceCounts.lookup key
  desired : result.1.desired =
    s.desired ∪ (added.filter fun key => s.references key = 0).toFinset
  reported : result.2 = reported ++ added.filter fun key => s.references key = 0

/-- The loop counts every key once; the induction is over the keys still to
come, which differ from those counted. -/
theorem incrementReferences_fold {added : List SubscriptionKey} (hNodup : added.Nodup)
    (reported : List SubscriptionKey) :
    Incremented s added reported (added.foldl incrementReference (s, reported)) := by
  induction added generalizing s reported with
  | nil => constructor <;> simp
  | cons key rest ih =>
    obtain ⟨hNotMem, hRest⟩ := List.nodup_cons.mp hNodup
    -- the first round leaves the references of the other keys alone
    have hOther : ∀ k ∈ rest,
        (incrementReference (s, reported) key).1.references k = s.references k := by
      intro k hk
      have hNe : k ≠ key := fun h => hNotMem (h ▸ hk)
      rw [RegistryState.references, incrementReference_lookup, if_neg hNe, RegistryState.references]
    have hFresh : (rest.filter fun k =>
        (incrementReference (s, reported) key).1.references k = 0) =
        rest.filter fun k => s.references k = 0 :=
      List.filter_congr fun k hk => by rw [hOther k hk]
    have hIh := ih (incrementReference (s, reported) key).1 hRest
      (incrementReference (s, reported) key).2
    refine ⟨hIh.clients.trans (incrementReference_clients s reported key), ?_, ?_, ?_⟩
    · intro k
      rw [List.foldl_cons, hIh.lookup, incrementReference_lookup]
      by_cases hk : k ∈ rest
      · rw [if_pos hk, if_pos (List.mem_cons_of_mem _ hk), hOther k hk]
      · rw [if_neg hk]
        by_cases hKey : k = key
        · subst hKey
          simp
        · simp [hKey, hk]
    · rw [List.foldl_cons, hIh.desired, hFresh, incrementReference_desired, List.filter_cons]
      by_cases hZero : s.references key = 0
      · simp [hZero, Finset.insert_union, Finset.union_insert]
      · simp [hZero]
    · rw [List.foldl_cons, hIh.reported, hFresh, incrementReference_reported, List.filter_cons]
      by_cases hZero : s.references key = 0
      · simp [hZero]
      · simp [hZero]

/-- What the loop of `add` does, all told. -/
theorem incrementReferences_spec {added : List SubscriptionKey} (hNodup : added.Nodup) :
    Incremented s added [] (incrementReferences s added) :=
  incrementReferences_fold s hNodup []

/-- What the loop of `decrement_references` leaves behind when every key has a
reference: each removed key has lost one; the keys that had a single one are
no longer desired and are reported. -/
structure Decremented (removed deactivated unreferenced : List SubscriptionKey)
    (result : Decrement) : Prop where
  clients : result.state.clients = s.clients
  lookup : ∀ key, result.state.referenceCounts.lookup key =
    if key ∈ removed then
      (if s.references key = 1 then none else some (s.references key - 1))
    else s.referenceCounts.lookup key
  desired : result.state.desired =
    s.desired \ (removed.filter fun key => s.references key = 1).toFinset
  deactivated : result.deactivated =
    deactivated ++ removed.filter fun key => s.references key = 1
  unreferenced : result.unreferenced = unreferenced

/-- A key that is counted is counted down, or dropped with its last reference;
the assertion stays silent. -/
theorem decrementReference_of_pos (deactivated unreferenced : List SubscriptionKey)
    {key : SubscriptionKey} (hPos : 0 < s.references key) :
    Decremented s [key] deactivated unreferenced
      (decrementReference ⟨s, deactivated, unreferenced⟩ key) := by
  unfold decrementReference
  cases hLookup : s.referenceCounts.lookup key with
  | none => simp [RegistryState.references, hLookup] at hPos
  | some count =>
    have hCount : s.references key = count := by simp [RegistryState.references, hLookup]
    rw [hCount] at hPos
    -- the last reference takes the entry out of the map, any other one counts down
    by_cases hOne : count > 1
    · have hNe : ¬ s.references key = 1 := by omega
      simp only [if_pos hOne]
      refine ⟨rfl, ?_, ?_, ?_, rfl⟩
      · intro k
        rw [lookup_insert_ite]
        by_cases hk : k = key
        · subst hk
          simp [hCount, hOne.ne']
        · simp [hk]
      · simp [hNe]
      · simp [hNe]
    · have hEq : s.references key = 1 := by omega
      simp only [if_neg hOne]
      refine ⟨rfl, ?_, ?_, ?_, rfl⟩
      · intro k
        rw [lookup_erase_ite]
        by_cases hk : k = key
        · subst hk
          simp [hEq]
        · simp [hk]
      · simp [hEq, Finset.sdiff_singleton_eq_erase]
      · simp [hEq]

/-- The loop drops one reference of every key. -/
theorem decrementReferences_fold {removed : List SubscriptionKey} (hNodup : removed.Nodup)
    (hPos : ∀ key ∈ removed, 0 < s.references key)
    (deactivated unreferenced : List SubscriptionKey) :
    Decremented s removed deactivated unreferenced
      (removed.foldl decrementReference ⟨s, deactivated, unreferenced⟩) := by
  induction removed generalizing s deactivated unreferenced with
  | nil => constructor <;> simp
  | cons key rest ih =>
    obtain ⟨hNotMem, hRest⟩ := List.nodup_cons.mp hNodup
    have hFirst := decrementReference_of_pos s deactivated unreferenced
      (hPos key List.mem_cons_self)
    rw [List.foldl_cons]
    generalize decrementReference ⟨s, deactivated, unreferenced⟩ key = first at hFirst ⊢
    obtain ⟨s₁, deactivated₁, unreferenced₁⟩ := first
    -- the keys are distinct, so the first one does not touch the count of another
    have hOther : ∀ k ∈ rest, s₁.references k = s.references k := by
      intro k hk
      have hNe : k ≠ key := fun h => hNotMem (h ▸ hk)
      rw [RegistryState.references, hFirst.lookup, RegistryState.references]
      simp [hNe]
    have hLast : (rest.filter fun k => s₁.references k = 1) =
        rest.filter fun k => s.references k = 1 :=
      List.filter_congr fun k hk => by rw [hOther k hk]
    have hIh := ih s₁ hRest
      (fun k hk => by rw [hOther k hk]; exact hPos k (List.mem_cons_of_mem _ hk))
      deactivated₁ unreferenced₁
    refine ⟨hIh.clients.trans hFirst.clients, ?_, ?_, ?_,
      hIh.unreferenced.trans hFirst.unreferenced⟩
    · intro k
      rw [hIh.lookup]
      by_cases hk : k ∈ rest
      · rw [if_pos hk, if_pos (List.mem_cons_of_mem _ hk), hOther k hk]
      · rw [if_neg hk, hFirst.lookup]
        simp [hk]
    · rw [hIh.desired, hLast, hFirst.desired, List.filter_cons, sdiff_sdiff_left]
      by_cases hOne : s.references key = 1
      · simp [hOne]
      · simp [hOne]
    · rw [hIh.deactivated, hLast, show deactivated₁ = _ from hFirst.deactivated, List.filter_cons]
      by_cases hOne : s.references key = 1
      · simp [hOne]
      · simp [hOne]

/-- What the loop of a release does, all told. -/
theorem decrementReferences_spec {removed : List SubscriptionKey} (hNodup : removed.Nodup)
    (hPos : ∀ key ∈ removed, 0 < s.references key) :
    Decremented s removed [] [] (decrementReferences s removed) :=
  decrementReferences_fold s hNodup hPos [] []

end Loops

/-! ## Steps -/

/-- In a consistent registry the count of a key is the number of its holders. -/
theorem RegistryInvariant.references {r : SubscriptionRegistry} (h : RegistryInvariant r)
    (key : SubscriptionKey) : r.state.references key = r.state.demand.count key := by
  rw [RegistryState.references, h.counts]
  split
  · next hZero => simp [hZero]
  · simp

/-- The demand after the client map entry of `client` is set to `keys`. -/
theorem clientSet_insert (s : RegistryState) (client c : ClientId)
    (keys : Finset SubscriptionKey) :
    RegistryState.clientSet { s with clients := s.clients.insert client keys } c =
      if c = client then keys else s.clientSet c := by
  simp only [RegistryState.clientSet, lookup_insert_ite]
  split <;> rfl

/-- Two states with the same client map have the same demand. -/
theorem demand_congr {s t : RegistryState} (h : ∀ c, s.clientSet c = t.clientSet c) :
    s.demand = t.demand := by
  ext ⟨c, k⟩
  rw [RegistryState.mem_demand, RegistryState.mem_demand, h]

/-- Publishing a state whose caches agree with its demand restores the
invariant, provided the snapshot is skipped only when the set is unchanged. -/
theorem registryInvariant_publish {r : SubscriptionRegistry} (h : RegistryInvariant r)
    {s : RegistryState} {crossed : List SubscriptionKey}
    (hCounts : ∀ key, s.references key = s.demand.count key)
    (hStored : ∀ key, s.referenceCounts.lookup key ≠ some 0)
    (hDesired : s.desired = s.demand.desired)
    (hSkipped : crossed = [] → s.desired = r.state.desired)
    (hNonempty : ∀ client, s.clients.lookup client ≠ some ∅)
    (hClient : ∀ client, (s.clientSet client).card ≤ r.maxSubscriptionsPerClient)
    (hProvider : ∀ p,
      (s.desired.filter fun key => key.provider = p).card ≤ r.providerLimits.limitFor p) :
    RegistryInvariant (r.publishSnapshotIfChanged s crossed) := by
  refine ⟨?_, hDesired, ?_, hNonempty, hClient, hProvider⟩
  · intro key
    show s.referenceCounts.lookup key = _
    have hKey := hCounts key
    have hSome := hStored key
    rw [RegistryState.references] at hKey
    show _ = if s.demand.count key = 0 then none else some (s.demand.count key)
    -- a stored count is never zero, so it is there exactly if there is a holder
    cases hLookup : s.referenceCounts.lookup key with
    | none =>
      rw [hLookup, Option.getD_none] at hKey
      rw [if_pos hKey.symm]
    | some n =>
      rw [hLookup] at hKey hSome
      simp only [Option.getD_some] at hKey
      subst hKey
      rw [if_neg fun hZero => hSome (by rw [hZero])]
  · show (if crossed.isEmpty then r.desired else s.desired) = s.desired
    split
    · next hEmpty => rw [h.snapshot, hSkipped (List.isEmpty_iff.mp hEmpty)]
    · rfl

/-- `add` either leaves the registry as it is or grows the client's set by the
new keys, within both limits. -/
theorem registryInvariant_add {r : SubscriptionRegistry} (h : RegistryInvariant r)
    (order : ProviderOrder) (client : ClientId) (keys : List SubscriptionKey) :
    RegistryInvariant (r.add order client keys).2 := by
  simp only [SubscriptionRegistry.add]
  set existing := r.state.clientSet client with hExisting
  set A := keys.toFinset \ existing with hA
  split
  · exact h
  next hWithin =>
  split
  · exact h
  next hNew =>
  split
  · exact h
  next hFind =>
  set owned : RegistryState :=
    { r.state with clients := r.state.clients.insert client (existing ∪ (iter A).toFinset) }
    with hOwned
  have hInc := incrementReferences_spec owned (iter_nodup A)
  generalize incrementReferences owned (iter A) = result at hInc ⊢
  obtain ⟨s, activated⟩ := result
  -- the demand after the call
  have hSet : ∀ c, s.clientSet c = if c = client then existing ∪ A else r.state.clientSet c := by
    intro c
    rw [RegistryState.clientSet, hInc.clients, hOwned, ← RegistryState.clientSet, clientSet_insert,
      iter_toFinset]
  have hDemand : s.demand = r.state.demand.add client A := by
    ext ⟨c, k⟩
    rw [RegistryState.mem_demand, hSet, Demand.mem_add, RegistryState.mem_demand]
    by_cases hc : c = client
    · subst hc
      simp [hExisting]
    · simp [hc]
  have hOld : ∀ key, owned.references key = r.state.demand.count key := h.references
  have hNewKeys : A \ r.state.demand.keysOf client = A := by
    rw [RegistryState.keysOf_demand, ← hExisting, hA, sdiff_sdiff_left, sup_idem]
  have hANonempty : A ≠ ∅ := by simpa using hNew
  have hDesired : s.desired = s.demand.desired := by
    rw [hInc.desired, hDemand, Demand.desired_add, show owned.desired = _ from h.desired]
    ext k
    simp only [List.toFinset_filter, iter_toFinset, Finset.mem_union, Finset.mem_filter,
      decide_eq_true_eq, hOld]
    rw [← Demand.count_pos]
    by_cases hZero : r.state.demand.count k = 0
    · simp [hZero]
    · simp [hZero, Nat.pos_of_ne_zero hZero]
  refine registryInvariant_publish h ?_ ?_ hDesired ?_ ?_ ?_ ?_
  · intro key
    rw [RegistryState.references, hInc.lookup, hDemand, Demand.count_add, hNewKeys, ← hOld]
    by_cases hKey : key ∈ A
    · simp [hKey]
    · simp [hKey, RegistryState.references]
  · intro key
    rw [hInc.lookup]
    split
    · simp
    · rw [show owned.referenceCounts.lookup key = _ from h.counts key]
      split <;> simp_all
  · intro hActivated
    have hFresh : (iter A).filter (fun key => owned.references key = 0) = [] := by
      rw [← List.nil_append (List.filter _ _), ← hInc.reported]
      exact hActivated
    rw [hInc.desired, hFresh]
    simp [hOwned]
  · intro c
    rw [hInc.clients, hOwned, lookup_insert_ite]
    split
    · simp only [iter_toFinset, ne_eq, Option.some.injEq, Finset.union_eq_empty]
      exact fun hEmpty => hANonempty hEmpty.2
    · exact h.nonempty c
  · intro c
    rw [hSet]
    split
    · refine (Finset.card_union_le _ _).trans ?_
      simpa using hWithin
    · exact h.clientLimit c
  · intro p
    have hTotal : providerTotal r.state (iter A) p ≤ r.providerLimits.limitFor p := by
      have hNone := List.find?_eq_none.mp hFind p (order.complete p)
      simpa using hNone
    refine le_trans ?_ hTotal
    rw [providerTotal, countP_iter, countP_iter, hDesired, hDemand, Demand.desired_add, ← h.desired]
    refine le_trans (Finset.card_le_card ?_) (Finset.card_union_le _ _)
    intro k hk
    simp only [Finset.mem_filter, Finset.mem_union] at hk ⊢
    obtain ⟨hDes | hAdded, hp⟩ := hk
    · exact Or.inl ⟨hDes, hp⟩
    · by_cases hCounted : k ∈ r.state.referenceCounts
      · rw [h.mem_counts, ← h.desired] at hCounted
        exact Or.inl ⟨hCounted, hp⟩
      · exact Or.inr ⟨hAdded, hCounted, hp⟩

/-- Giving up the keys `R` of one client: whatever way the client map is
rewritten, the loop over the counts finds a reference for every key and
restores the invariant. -/
theorem registryInvariant_release {r : SubscriptionRegistry} (h : RegistryInvariant r)
    {client : ClientId} {R : Finset SubscriptionKey} (hOwned : R ⊆ r.state.clientSet client)
    {owned : RegistryState}
    (hCountsEq : owned.referenceCounts = r.state.referenceCounts)
    (hDesiredEq : owned.desired = r.state.desired)
    (hSet : ∀ c, owned.clientSet c =
      if c = client then r.state.clientSet client \ R else r.state.clientSet c)
    (hNonempty : ∀ c, owned.clients.lookup c ≠ some ∅) :
    (decrementReferences owned (iter R)).unreferenced = [] ∧
    RegistryInvariant (r.publishSnapshotIfChanged (decrementReferences owned (iter R)).state
      (decrementReferences owned (iter R)).deactivated) := by
  have hOld : ∀ key, owned.references key = r.state.demand.count key := by
    intro key
    rw [RegistryState.references, hCountsEq]
    exact h.references key
  have hPos : ∀ key ∈ iter R, 0 < owned.references key := by
    intro key hKey
    rw [hOld, Demand.count_pos, Demand.mem_desired]
    exact ⟨client, RegistryState.mem_demand.mpr (hOwned (mem_iter.mp hKey))⟩
  have hDec := decrementReferences_spec owned (iter_nodup R) hPos
  generalize decrementReferences owned (iter R) = result at hDec ⊢
  obtain ⟨s, deactivated, unreferenced⟩ := result
  refine ⟨hDec.unreferenced, ?_⟩
  have hSetS : ∀ c, s.clientSet c = owned.clientSet c := by
    intro c
    rw [RegistryState.clientSet, hDec.clients, RegistryState.clientSet]
  -- as a demand: the client's keys are dropped
  have hDemand : s.demand = r.state.demand.drop client R := by
    ext ⟨c, k⟩
    rw [RegistryState.mem_demand, hSetS, hSet, Demand.mem_drop, RegistryState.mem_demand]
    by_cases hc : c = client
    · subst hc
      simp
    · simp [hc]
  have hHeld : R ∩ r.state.demand.keysOf client = R := by
    rw [RegistryState.keysOf_demand]
    exact Finset.inter_eq_left.mpr hOwned
  -- each dropped key loses exactly one holder
  have hCount : ∀ key, s.demand.count key + (if key ∈ R then 1 else 0) =
      r.state.demand.count key := by
    intro key
    have hDrop := Demand.count_drop r.state.demand client R key
    rwa [hHeld, ← hDemand] at hDrop
  have hRefs : ∀ key, s.references key = s.demand.count key := by
    intro key
    have hKeyCount := hCount key
    rw [RegistryState.references, hDec.lookup, hOld]
    by_cases hKey : key ∈ R
    · have := hPos key (mem_iter.mpr hKey)
      rw [hOld] at this
      simp only [mem_iter, hKey, if_true] at hKeyCount ⊢
      split
      · simp only [Option.getD_none]; omega
      · simp only [Option.getD_some]; omega
    · simp only [mem_iter, hKey, if_false, Nat.add_zero] at hKeyCount ⊢
      rw [← RegistryState.references, hOld, hKeyCount]
  -- a key stops being desired if the client was its only holder
  have hDesired : s.desired = s.demand.desired := by
    rw [hDec.desired, hDesiredEq, h.desired]
    ext k
    have hKeyCount := hCount k
    simp only [List.toFinset_filter, iter_toFinset, Finset.mem_sdiff, Finset.mem_filter,
      decide_eq_true_eq, hOld]
    rw [← Demand.count_pos, ← Demand.count_pos]
    by_cases hKey : k ∈ R
    · simp only [hKey, if_true, true_and] at hKeyCount ⊢
      omega
    · simp only [hKey, if_false, false_and, not_false_eq_true, and_true] at hKeyCount ⊢
      omega
  refine registryInvariant_publish h hRefs ?_ hDesired ?_ ?_ ?_ ?_
  · intro key
    rw [hDec.lookup]
    split
    · next hKey =>
      have := hPos key hKey
      split
      · simp
      · simp only [ne_eq, Option.some.injEq]; omega
    · rw [hCountsEq, h.counts]
      split <;> simp_all
  · intro hNone
    have hLast : (iter R).filter (fun key => owned.references key = 1) = [] := by
      rw [← List.nil_append (List.filter _ _), ← hDec.deactivated]
      exact hNone
    rw [hDec.desired, hLast, hDesiredEq]
    simp
  · intro c
    rw [hDec.clients]
    exact hNonempty c
  · intro c
    rw [hSetS, hSet]
    split
    · exact (Finset.card_le_card Finset.sdiff_subset).trans (h.clientLimit client)
    · exact h.clientLimit c
  · intro p
    refine (Finset.card_le_card (Finset.filter_subset_filter _ ?_)).trans (h.providerLimit p)
    rw [hDec.desired, hDesiredEq]
    exact Finset.sdiff_subset

/-- Removing keeps the registry consistent, and the assertion never fires. -/
theorem registryInvariant_remove {r : SubscriptionRegistry} (h : RegistryInvariant r)
    (client : ClientId) (keys : List SubscriptionKey) :
    (r.remove client keys).unreferenced = [] ∧
    RegistryInvariant (r.remove client keys).registry := by
  simp only [SubscriptionRegistry.remove, iter_toFinset]
  split
  · exact ⟨rfl, h⟩
  have hSub : keys.toFinset ∩ r.state.clientSet client ⊆ r.state.clientSet client :=
    Finset.inter_subset_right
  -- a client that keeps nothing loses its entry, any other one has it replaced
  generalize keys.toFinset ∩ r.state.clientSet client = R at hSub ⊢
  refine registryInvariant_release h hSub rfl rfl ?_ ?_
  · intro c
    rw [RegistryState.clientSet]
    split
    · next hEmpty =>
      rw [lookup_erase_ite, lookup_insert_ite]
      by_cases hc : c = client
      · simp [hc, hEmpty]
      · simp [hc, RegistryState.clientSet]
    · rw [lookup_insert_ite]
      by_cases hc : c = client
      · simp [hc]
      · simp [hc, RegistryState.clientSet]
  · intro c
    split
    · next hEmpty =>
      rw [lookup_erase_ite, lookup_insert_ite]
      by_cases hc : c = client
      · simp [hc]
      · simpa [hc] using h.nonempty c
    · next hRemains =>
      rw [lookup_insert_ite]
      by_cases hc : c = client
      · simpa [hc] using hRemains
      · simpa [hc] using h.nonempty c

/-- The same of a cleanup. -/
theorem registryInvariant_cleanupClient {r : SubscriptionRegistry} (h : RegistryInvariant r)
    (client : ClientId) :
    (r.cleanupClient client).unreferenced = [] ∧
    RegistryInvariant (r.cleanupClient client).registry := by
  unfold SubscriptionRegistry.cleanupClient
  cases hLookup : r.state.clients.lookup client with
  | none => exact ⟨rfl, h⟩
  | some clientKeys =>
    have hKeys : r.state.clientSet client = clientKeys := by
      rw [RegistryState.clientSet, hLookup, Option.getD_some]
    have hSub : clientKeys ⊆ r.state.clientSet client := hKeys.ge
    -- a release of all keys, after which the client is in the table no more
    refine registryInvariant_release h hSub rfl rfl ?_ ?_
    · intro c
      rw [RegistryState.clientSet, lookup_erase_ite]
      by_cases hc : c = client
      · simp [hc, hKeys]
      · simp [hc, RegistryState.clientSet]
    · intro c
      rw [lookup_erase_ite]
      split
      · simp
      · exact h.nonempty c

/-- Every operation keeps the registry consistent. -/
theorem registryInvariant_step {r : SubscriptionRegistry} (h : RegistryInvariant r)
    (op : RegistryOp) : RegistryInvariant (r.step op) := by
  cases op with
  | add order client keys => exact registryInvariant_add h order client keys
  | remove client keys => exact (registryInvariant_remove h client keys).2
  | cleanupClient client => exact (registryInvariant_cleanupClient h client).2

/-- No operation trips the assertion of `decrement_references`. -/
theorem unreferenced_eq_nil {r : SubscriptionRegistry} (h : RegistryInvariant r)
    (op : RegistryOp) : r.unreferenced op = [] := by
  cases op with
  | add order client keys => rfl
  | remove client keys => exact (registryInvariant_remove h client keys).1
  | cleanupClient client => exact (registryInvariant_cleanupClient h client).1

/-! ## Every reachable state -/

/-- The registry after a run of operations from its construction. -/
def registryAfter (maxPerClient : Nat) (limits : ProviderLimits) (ops : List RegistryOp) :
    SubscriptionRegistry :=
  run SubscriptionRegistry.step (.withProviderLimits maxPerClient limits) ops

/-- Every reachable registry is consistent. -/
theorem registryInvariant_after (maxPerClient : Nat) (limits : ProviderLimits)
    (ops : List RegistryOp) : RegistryInvariant (registryAfter maxPerClient limits ops) :=
  run_invariant (P := RegistryInvariant) (fun _ op h => registryInvariant_step h op)
    (registryInvariant_init maxPerClient limits) ops

/-- The limits of a registry are fixed. -/
theorem step_limits (r : SubscriptionRegistry) (op : RegistryOp) :
    (r.step op).maxSubscriptionsPerClient = r.maxSubscriptionsPerClient ∧
    (r.step op).providerLimits = r.providerLimits := by
  cases op with
  | add order client keys =>
    simp only [SubscriptionRegistry.step, SubscriptionRegistry.add]
    split
    · exact ⟨rfl, rfl⟩
    · split
      · exact ⟨rfl, rfl⟩
      · split <;> exact ⟨rfl, rfl⟩
  | remove client keys =>
    simp only [SubscriptionRegistry.step, SubscriptionRegistry.remove]
    split <;> exact ⟨rfl, rfl⟩
  | cleanupClient client =>
    simp only [SubscriptionRegistry.step, SubscriptionRegistry.cleanupClient]
    split <;> exact ⟨rfl, rfl⟩

/-- The two limits are the ones the registry was built with. -/
theorem registryAfter_limits (maxPerClient : Nat) (limits : ProviderLimits)
    (ops : List RegistryOp) :
    (registryAfter maxPerClient limits ops).maxSubscriptionsPerClient = maxPerClient ∧
    (registryAfter maxPerClient limits ops).providerLimits = limits :=
  run_invariant (P := fun r : SubscriptionRegistry =>
      r.maxSubscriptionsPerClient = maxPerClient ∧ r.providerLimits = limits)
    (fun r op h => by rw [(step_limits r op).1, (step_limits r op).2]; exact h)
    ⟨rfl, rfl⟩ ops

/-- **Registry consistency.** After any interleaving of `add`, `remove` and
`cleanup_client`, the reference counts, the desired set and the published
snapshot are exactly the demand of the clients, no client is mapped to an
empty set, both limits hold, and the next operation meets a reference count
for every key it releases. -/
theorem registry_reachable (maxPerClient : Nat) (limits : ProviderLimits)
    (ops : List RegistryOp) :
    let r := registryAfter maxPerClient limits ops
    let holding := fun key => (r.state.clients.keys.filter fun c => key ∈ r.state.clientSet c).card
    (∀ key, r.state.referenceCounts.lookup key =
      if holding key = 0 then none else some (holding key)) ∧
    r.state.desired = r.state.referenceCounts.keys ∧
    r.desired = r.state.desired ∧
    (∀ client, r.state.clients.lookup client ≠ some ∅) ∧
    (∀ client, (r.state.clientSet client).card ≤ maxPerClient) ∧
    (∀ p, (r.state.desired.filter fun key => key.provider = p).card ≤ limits.limitFor p) ∧
    (∀ op, r.unreferenced op = []) := by
  intro r holding
  have h := registryInvariant_after maxPerClient limits ops
  obtain ⟨hMax, hLimits⟩ := registryAfter_limits maxPerClient limits ops
  refine ⟨?_, ?_, h.snapshot, h.nonempty, ?_, ?_, unreferenced_eq_nil h⟩
  · intro key
    -- the counter of a key is the number of clients that hold it
    have hKey := h.counts key
    rwa [RegistryState.count_demand] at hKey
  · ext key
    rw [Finmap.mem_keys, h.mem_counts, h.desired]
  · intro client
    rw [← hMax]
    exact h.clientLimit client
  · intro p
    rw [← hLimits]
    exact h.providerLimit p

end MarketStreamGateway
