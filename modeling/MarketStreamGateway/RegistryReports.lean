import MarketStreamGateway.RegistryConfluence

/-!
# Market Stream Gateway — what registry operations report

The limits and the reports of the registry are computed from its caches, key by
key. In a consistent registry they come to the differences of sets.

* `add_refused_iff` — `add` is refused exactly for the limits.
* `add_reports`, `remove_reports`, `cleanupClient_reports` — what an operation
  reports, and when it writes the watch.
* `registry_reports` — both, in every state that operations lead to.
-/

namespace MarketStreamGateway

open Lib

/-! ## Limits -/

/-- The keys of a provider that would be desired with some more keys. -/
def demandOf (r : SubscriptionRegistry) (keys : List SubscriptionKey) (p : Provider) :
    Finset SubscriptionKey :=
  (r.state.desired ∪ keys.toFinset).filter fun key => key.provider = p

/-- The total that `add` compares with the ceiling of a provider. -/
theorem providerTotal_eq {r : SubscriptionRegistry} (h : RegistryInvariant r) (client : ClientId)
    (keys : List SubscriptionKey) (p : Provider) :
    providerTotal r.state (iter (keys.toFinset \ r.state.clientSet client)) p =
      (demandOf r keys p).card := by
  have hHeld : r.state.clientSet client ⊆ r.state.desired := by
    intro key hKey
    rw [h.desired, Demand.mem_desired]
    exact ⟨client, RegistryState.mem_demand.mpr hKey⟩
  -- what is desired already, and the added keys that nobody holds
  have hSplit : demandOf r keys p =
      (r.state.desired.filter fun key => key.provider = p) ∪
        ((keys.toFinset \ r.state.clientSet client).filter fun key =>
          key ∉ r.state.referenceCounts ∧ key.provider = p) := by
    ext key
    simp only [demandOf, Finset.mem_filter, Finset.mem_union, Finset.mem_sdiff, h.mem_counts,
      ← h.desired]
    constructor
    · rintro ⟨hDesired | hNew, hProvider⟩
      · exact .inl ⟨hDesired, hProvider⟩
      · by_cases hDesired : key ∈ r.state.desired
        · exact .inl ⟨hDesired, hProvider⟩
        · exact .inr ⟨⟨hNew, fun hOwned => hDesired (hHeld hOwned)⟩, hDesired, hProvider⟩
    · rintro (⟨hDesired, hProvider⟩ | ⟨⟨hNew, -⟩, -, hProvider⟩)
      · exact ⟨.inl hDesired, hProvider⟩
      · exact ⟨.inr hNew, hProvider⟩
  have hDisjoint : Disjoint (r.state.desired.filter fun key => key.provider = p)
      ((keys.toFinset \ r.state.clientSet client).filter fun key =>
        key ∉ r.state.referenceCounts ∧ key.provider = p) := by
    rw [Finset.disjoint_left]
    intro key hDesired hNew
    rw [Finset.mem_filter] at hDesired hNew
    rw [h.mem_counts, ← h.desired] at hNew
    exact hNew.2.1 hDesired.1
  rw [providerTotal, countP_iter, countP_iter, hSplit, Finset.card_union_of_disjoint hDisjoint]

/-- **Limits.** `add` is refused for the client's limit exactly if the client
would own too many keys, else for a provider's limit exactly if too many of its
keys would be desired, and a refused `add` changes nothing. -/
theorem add_refused_iff {r : SubscriptionRegistry} (h : RegistryInvariant r) (order : ProviderOrder)
    (client : ClientId) (keys : List SubscriptionKey) :
    ((∃ limit requested,
        (r.add order client keys).1 = .error (.clientLimitExceeded limit requested)) ↔
      r.maxSubscriptionsPerClient < (r.state.clientSet client ∪ keys.toFinset).card) ∧
    ((∃ p limit requested,
        (r.add order client keys).1 = .error (.providerLimitExceeded p limit requested)) ↔
      (r.state.clientSet client ∪ keys.toFinset).card ≤ r.maxSubscriptionsPerClient ∧
        ∃ p, r.providerLimits.limitFor p < (demandOf r keys p).card) ∧
    ∀ error, (r.add order client keys).1 = .error error → (r.add order client keys).2 = r := by
  have hCard : (r.state.clientSet client ∪ keys.toFinset).card =
      (r.state.clientSet client).card +
        (iter (keys.toFinset \ r.state.clientSet client)).length := by
    rw [iter_length, Finset.card_union, ← Finset.card_sdiff_add_card_inter keys.toFinset
      (r.state.clientSet client), Finset.inter_comm]
    omega
  rw [hCard]
  simp only [SubscriptionRegistry.add, providerTotal_eq h]
  split
  · next hOver =>
    refine ⟨⟨fun _ => hOver, fun _ => ⟨_, _, rfl⟩⟩, ⟨?_, fun hWithin => ?_⟩, fun _ _ => rfl⟩
    · rintro ⟨p, limit, requested, hError⟩
      cases hError
    · exact absurd hOver (Nat.not_lt.mpr hWithin.1)
  next hWithin =>
  split
  · next hNone =>
    -- nothing is new, so nothing more would be desired than is
    have hSame : ∀ p, demandOf r keys p = r.state.desired.filter fun key => key.provider = p := by
      intro p
      rw [demandOf, Finset.union_eq_left.mpr]
      intro key hKey
      have hOwned := Finset.sdiff_eq_empty_iff_subset.mp (by simpa using hNone) hKey
      rw [h.desired, Demand.mem_desired]
      exact ⟨client, RegistryState.mem_demand.mpr hOwned⟩
    refine ⟨⟨?_, fun hOver => absurd hOver hWithin⟩, ⟨?_, ?_⟩, fun _ _ => rfl⟩
    · rintro ⟨limit, requested, hError⟩
      cases hError
    · rintro ⟨p, limit, requested, hError⟩
      cases hError
    · rintro ⟨-, p, hOver⟩
      rw [hSame] at hOver
      exact absurd (h.providerLimit p) (Nat.not_le.mpr hOver)
  split
  · next p hFind =>
    have hOver : r.providerLimits.limitFor p < (demandOf r keys p).card := by
      simpa using List.find?_some hFind
    refine ⟨⟨?_, fun hOver => absurd hOver hWithin⟩,
      ⟨fun _ => ⟨Nat.not_lt.mp hWithin, p, hOver⟩, fun _ => ⟨_, _, _, rfl⟩⟩, fun _ _ => rfl⟩
    rintro ⟨limit, requested, hError⟩
    cases hError
  · next hFind =>
    refine ⟨⟨?_, fun hOver => absurd hOver hWithin⟩, ⟨?_, ?_⟩, fun error hError => ?_⟩
    · rintro ⟨limit, requested, hError⟩
      cases hError
    · rintro ⟨p, limit, requested, hError⟩
      cases hError
    · rintro ⟨-, p, hOver⟩
      exact absurd (decide_eq_true hOver) (List.find?_eq_none.mp hFind p (order.complete p))
    · cases hError

/-! ## Reports -/

/-- A report of the differences an operation makes: to the keys of its client, to
the desired keys, and to nothing else. The watch is written if the desired keys
have changed. -/
structure Reports (r r' : SubscriptionRegistry) (client : ClientId) (report : SubscriptionChange) :
    Prop where
  added : report.added = iter (r'.state.clientSet client \ r.state.clientSet client)
  removed : report.removed = iter (r.state.clientSet client \ r'.state.clientSet client)
  activated : report.activated = iter (r'.state.desired \ r.state.desired)
  deactivated : report.deactivated = iter (r.state.desired \ r'.state.desired)
  clientSubscriptions : report.clientSubscriptions = r'.state.clientSet client
  others : ∀ c, c ≠ client → r'.state.clientSet c = r.state.clientSet c
  watch : r'.desired = r'.state.desired
  written : r'.desiredVersion =
    if r'.state.desired = r.state.desired then r.desiredVersion else r.desiredVersion + 1

/-- A report about nothing. -/
theorem reports_unchanged {r : SubscriptionRegistry} (h : RegistryInvariant r) (client : ClientId) :
    Reports r r client (.unchanged (r.state.clientSet client)) := by
  have hNone : iter (∅ : Finset SubscriptionKey) = [] := iter_eq_nil.mpr rfl
  refine ⟨?_, ?_, ?_, ?_, rfl, fun _ _ => rfl, h.snapshot, (if_pos rfl).symm⟩
  all_goals rw [sdiff_self]
  all_goals exact hNone.symm

/-- Reported keys that ascend are the differences in ascending order. -/
theorem Crossed.eq_iter {before after : Finset SubscriptionKey}
    {activated deactivated : List SubscriptionKey} (h : Crossed before after activated deactivated)
    (hActivated : activated.Pairwise (· < ·)) (hDeactivated : deactivated.Pairwise (· < ·)) :
    activated = iter (after \ before) ∧ deactivated = iter (before \ after) := by
  refine ⟨eq_iter_of_strict hActivated fun key => ?_, eq_iter_of_strict hDeactivated fun key => ?_⟩
  · rw [h.activated, Finset.mem_sdiff]
    exact And.comm
  · rw [h.deactivated, Finset.mem_sdiff]

/-- The watch is written with the reported keys. -/
theorem publish_version (r : SubscriptionRegistry) (s : RegistryState)
    {crossed : List SubscriptionKey} (h : crossed = [] ↔ s.desired = r.state.desired) :
    (r.publishSnapshotIfChanged s crossed).desiredVersion =
      if s.desired = r.state.desired then r.desiredVersion else r.desiredVersion + 1 := by
  simp only [SubscriptionRegistry.publishSnapshotIfChanged, List.isEmpty_iff]
  by_cases hSame : s.desired = r.state.desired
  · rw [if_pos (h.mpr hSame), if_pos hSame]
  · rw [if_neg fun hEmpty => hSame (h.mp hEmpty), if_neg hSame]

/-- Nothing is reported exactly when the desired set stays. -/
theorem Crossed.eq_nil_iff {before after : Finset SubscriptionKey}
    {activated deactivated : List SubscriptionKey}
    (h : Crossed before after activated deactivated) :
    activated = [] ∧ deactivated = [] ↔ after = before := by
  constructor
  · rintro ⟨rfl, rfl⟩
    ext key
    have hIn := h.activated key
    have hOut := h.deactivated key
    simp only [List.not_mem_nil, false_iff, not_and, not_not] at hIn hOut
    exact ⟨fun hKey => by_contra fun hOld => hIn hOld hKey, hOut⟩
  · rintro rfl
    refine ⟨List.eq_nil_iff_forall_not_mem.mpr fun key hKey => ?_,
      List.eq_nil_iff_forall_not_mem.mpr fun key hKey => ?_⟩
    · exact ((h.activated key).mp hKey).1 ((h.activated key).mp hKey).2
    · exact ((h.deactivated key).mp hKey).2 ((h.deactivated key).mp hKey).1

/-- What a successful addition reports is what it did. -/
theorem add_reports {r : SubscriptionRegistry} (h : RegistryInvariant r) (order : ProviderOrder)
    (client : ClientId) (keys : List SubscriptionKey) {report : SubscriptionChange}
    (hReport : (r.add order client keys).1 = .ok report) :
    Reports r (r.add order client keys).2 client report ∧
      (r.add order client keys).2.state.clientSet client =
        r.state.clientSet client ∪ keys.toFinset := by
  have hCrossed := add_crossed h order client keys
  have hAfter := registryInvariant_add h order client keys
  simp only [SubscriptionRegistry.step, SubscriptionRegistry.activated,
    SubscriptionRegistry.deactivated, SubscriptionRegistry.change] at hCrossed
  rcases add_cases r order client keys with ⟨-, _, hAdd⟩ | ⟨-, ⟨hNone, hAdd⟩ | ⟨_, _, _, hAdd⟩ |
    ⟨s, activated, hInc, hAdd⟩⟩
  · rw [hAdd] at hReport
    cases hReport
  · rw [hAdd] at hReport ⊢
    obtain rfl := Except.ok.inj hReport
    refine ⟨reports_unchanged h client, ?_⟩
    rw [Finset.union_eq_left.mpr (Finset.sdiff_eq_empty_iff_subset.mp hNone)]
  · rw [hAdd] at hReport
    cases hReport
  · rw [hAdd] at hReport hCrossed hAfter ⊢
    obtain rfl := Except.ok.inj hReport
    -- only the caller's set grows
    have hSet : ∀ c, s.clientSet c = if c = client then r.state.clientSet client ∪ keys.toFinset
        else r.state.clientSet c := by
      intro c
      rw [RegistryState.clientSet, hInc.clients, RegistryState.withClient,
        ← RegistryState.clientSet, clientSet_insert]
    have hClient : s.clientSet client = r.state.clientSet client ∪ keys.toFinset :=
      (hSet client).trans (if_pos rfl)
    have hStrict : activated.Pairwise (· < ·) := by
      rw [show activated = _ from hInc.reported, List.nil_append]
      exact (iter_strict _).filter _
    obtain ⟨hActivated, hDeactivated⟩ := hCrossed.eq_iter hStrict List.Pairwise.nil
    refine ⟨⟨?_, ?_, hActivated, hDeactivated, rfl, fun c hc => ?_, hAfter.snapshot, ?_⟩, hClient⟩
    · show iter (keys.toFinset \ r.state.clientSet client) = _
      rw [show (r.publishSnapshotIfChanged s activated).state.clientSet client = _ from hClient,
        Finset.union_sdiff_left]
    · show [] = _
      rw [show (r.publishSnapshotIfChanged s activated).state.clientSet client = _ from hClient,
        eq_comm, iter_eq_nil, Finset.sdiff_eq_empty_iff_subset]
      exact Finset.subset_union_left
    · exact (hSet c).trans (if_neg hc)
    · -- nothing crossed means nothing to publish
      have hNil : activated = [] ∧ ([] : List SubscriptionKey) = [] ↔
          s.desired = r.state.desired := hCrossed.eq_nil_iff
      exact publish_version r s ⟨fun hNone => hNil.mp ⟨hNone, rfl⟩, fun hSame => (hNil.mpr hSame).1⟩

/-- Giving up keys the client owns. -/
theorem release_reports {r r' : SubscriptionRegistry} (h : RegistryInvariant r) {client : ClientId}
    {R : Finset SubscriptionKey} (hOwned : R ⊆ r.state.clientSet client) (owned : RegistryState)
    (hCounts : owned.referenceCounts = r.state.referenceCounts)
    (hDesired : owned.desired = r.state.desired)
    (hPublish : r' = r.publishSnapshotIfChanged (decrementReferences owned (iter R)).state
      (decrementReferences owned (iter R)).deactivated)
    (hSets : ∀ c, r'.state.clientSet c =
      if client = c then r.state.clientSet c \ R else r.state.clientSet c)
    (hWatch : r'.desired = r'.state.desired) :
    Reports r r' client ⟨[], iter R, [], (decrementReferences owned (iter R)).deactivated,
      r'.state.clientSet client⟩ := by
  have hClient : r'.state.clientSet client = r.state.clientSet client \ R :=
    (hSets client).trans (if_pos rfl)
  have hCrossed := release_crossed h hOwned hCounts hDesired
  have hPos : ∀ key ∈ iter R, 0 < owned.references key := by
    intro key hKey
    rw [RegistryState.references, hCounts, ← RegistryState.references, h.references,
      Demand.count_pos, Demand.mem_desired]
    exact ⟨client, RegistryState.mem_demand.mpr (hOwned (mem_iter.mp hKey))⟩
  -- the reported keys keep the order of the given ones
  have hStrict : (decrementReferences owned (iter R)).deactivated.Pairwise (· < ·) := by
    rw [(decrementReferences_spec owned (iter_nodup R) hPos).deactivated, List.nil_append]
    exact (iter_strict _).filter _
  obtain ⟨hActivated, hDeactivated⟩ := hCrossed.eq_iter List.Pairwise.nil hStrict
  have hState : r'.state = (decrementReferences owned (iter R)).state := by
    rw [hPublish]
    rfl
  refine ⟨?_, ?_, ?_, ?_, rfl, fun c hOther => ?_, hWatch, ?_⟩
  · rw [hClient, eq_comm, iter_eq_nil, Finset.sdiff_eq_empty_iff_subset]
    exact Finset.sdiff_subset
  · rw [hClient, Finset.sdiff_sdiff_eq_self hOwned]
  · rw [hState]
    exact hActivated
  · rw [hState]
    exact hDeactivated
  · rw [hSets, if_neg fun hSame => hOther hSame.symm]
  · rw [hState, hPublish]
    refine publish_version r _ ⟨fun hNone => ?_, fun hSame => ?_⟩
    · exact hCrossed.eq_nil_iff.mp ⟨rfl, hNone⟩
    · exact (hCrossed.eq_nil_iff.mpr hSame).2

/-- The same of a removal. -/
theorem remove_reports {r : SubscriptionRegistry} (h : RegistryInvariant r) (client : ClientId)
    (keys : List SubscriptionKey) :
    Reports r (r.remove client keys).registry client (r.remove client keys).change := by
  have hSets := remove_clientSet r client keys
  have hAfter := (registryInvariant_remove h client keys).2
  unfold SubscriptionRegistry.remove at hSets hAfter ⊢
  dsimp only at hSets hAfter ⊢
  split
  · exact reports_unchanged h client
  · next hSome =>
    rw [if_neg hSome] at hSets hAfter
    refine release_reports h Finset.inter_subset_right _ rfl rfl rfl (fun c => ?_) hAfter.snapshot
    rw [hSets]
    by_cases hClient : client = c
    · subst hClient
      rw [if_pos rfl, if_pos rfl, Finset.inter_comm, Finset.sdiff_inter_self_left]
    · rw [if_neg hClient, if_neg hClient]

/-- The same of a cleanup. -/
theorem cleanupClient_reports {r : SubscriptionRegistry} (h : RegistryInvariant r)
    (client : ClientId) :
    Reports r (r.cleanupClient client).registry client (r.cleanupClient client).change := by
  have hSets := cleanupClient_clientSet r client
  have hAfter := (registryInvariant_cleanupClient h client).2
  unfold SubscriptionRegistry.cleanupClient at hSets hAfter ⊢
  cases hLookup : r.state.clients.lookup client with
  | none =>
    have hNone : r.state.clientSet client = ∅ :=
      RegistryState.clientSet_eq_empty (Finmap.lookup_eq_none.mp hLookup)
    simpa only [hNone] using reports_unchanged h client
  | some clientKeys =>
    rw [hLookup] at hSets hAfter
    have hKeys : r.state.clientSet client = clientKeys := by
      rw [RegistryState.clientSet, hLookup, Option.getD_some]
    -- the report is that of releasing everything the client holds
    have hReports := release_reports h hKeys.ge
      { r.state with clients := r.state.clients.erase client } rfl rfl rfl (fun c => ?_)
      hAfter.snapshot
    · have hGone := hSets client
      rw [if_pos rfl] at hGone
      dsimp only at hGone
      rw [hGone] at hReports
      exact hReports
    · refine (hSets c).trans ?_
      by_cases hClient : client = c
      · subst hClient
        rw [if_pos rfl, if_pos rfl, hKeys, sdiff_self]
        rfl
      · rw [if_neg hClient, if_neg hClient]

/-- **Limits and reports.** In every state that operations lead to, for every
client and every list of keys: `add` is refused for the limits exactly if the
sets after it would exceed them, and then changes nothing; an operation that
succeeds reports the differences it makes, and writes the watch exactly if the
desired keys change. -/
theorem registry_reports (maxPerClient : Nat) (limits : ProviderLimits) (ops : List RegistryOp)
    (order : ProviderOrder) (client : ClientId) (keys : List SubscriptionKey) :
    let r := registryAfter maxPerClient limits ops
    ((∃ limit requested,
        (r.add order client keys).1 = .error (.clientLimitExceeded limit requested)) ↔
      maxPerClient < (r.state.clientSet client ∪ keys.toFinset).card) ∧
    ((∃ p limit requested,
        (r.add order client keys).1 = .error (.providerLimitExceeded p limit requested)) ↔
      (r.state.clientSet client ∪ keys.toFinset).card ≤ maxPerClient ∧
        ∃ p, limits.limitFor p <
          ((r.state.desired ∪ keys.toFinset).filter fun key => key.provider = p).card) ∧
    (∀ error, (r.add order client keys).1 = .error error → (r.add order client keys).2 = r) ∧
    (∀ report, (r.add order client keys).1 = .ok report →
      Reports r (r.add order client keys).2 client report ∧
      (r.add order client keys).2.state.clientSet client =
        r.state.clientSet client ∪ keys.toFinset) ∧
    (Reports r (r.remove client keys).registry client (r.remove client keys).change ∧
      (r.remove client keys).registry.state.clientSet client =
        r.state.clientSet client \ keys.toFinset) ∧
    Reports r (r.cleanupClient client).registry client (r.cleanupClient client).change ∧
      (r.cleanupClient client).registry.state.clientSet client = ∅ := by
  intro r
  have h : RegistryInvariant r := registryInvariant_after maxPerClient limits ops
  obtain ⟨hMax, hLimits⟩ : r.maxSubscriptionsPerClient = maxPerClient ∧ r.providerLimits = limits :=
    registryAfter_limits maxPerClient limits ops
  -- the limits are those the registry was started with
  obtain ⟨hClient, hProvider, hUnchanged⟩ := add_refused_iff h order client keys
  rw [hMax] at hClient hProvider
  rw [hLimits] at hProvider
  refine ⟨hClient, hProvider, hUnchanged, fun report hReport =>
    add_reports h order client keys hReport,
    ⟨remove_reports h client keys, ?_⟩, cleanupClient_reports h client, ?_⟩
  · rw [remove_clientSet, if_pos rfl]
  · rw [cleanupClient_clientSet, if_pos rfl]

end MarketStreamGateway
