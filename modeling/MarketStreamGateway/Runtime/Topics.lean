import MarketStreamGateway.Runtime.Readiness
import MarketStreamGateway.RegistryInvariant
import MarketStreamGateway.Providers.Venue

/-!
# Market Stream Gateway — the topics of a connection

The registry knows keys, a venue knows native topics. A connection turns every
change of its share of the desired set into commands: the keys that went are
unsubscribed, then the keys that came are subscribed. `InStep` says that the
commands queued so far, taken in order, leave the venue with the topics of a
set of keys, and that the session remembers them if it remembers any.

Main result: `connection_topics` — in every run, every connection between two
iterations of its loop has asked for exactly the topics of its share.
-/

namespace MarketStreamGateway

open Lib Venue

/-! ## One connection -/

section Connections

variable [Unicode] [JsonText] [MarketData] {provider : Provider}

/-- The topics a venue serves once it has applied every command queued so far. -/
def Connection.asked (c : Connection (configuredAdapter provider)) : Finset Topic :=
  receiveAll provider ∅ ((c.log.map (·.content)).map Prod.fst)

/-- The venue is asked for `served`, and the session remembers it. -/
structure Connection.InStep (c : Connection (configuredAdapter provider))
    (served : Finset Topic) : Prop where
  asked : c.asked = served
  remembers : Remembers provider c.session served

/-- The keys one endpoint of a provider serves. -/
def Share (provider : Provider) (keys : Finset SubscriptionKey) : Prop :=
  ∀ key ∈ keys, key.provider = provider ∧ key.Canonical

omit [JsonText] [MarketData] in
/-- A part of a share is a share. -/
theorem Share.subset {keys keys' : Finset SubscriptionKey} (h : Share provider keys)
    (hSub : keys' ⊆ keys) : Share provider keys' := fun key hKey => h key (hSub hKey)

variable {c c' : Connection (configuredAdapter provider)} {served : Finset Topic}

/-- Queueing the keys of a share asks for their topics. -/
theorem queueSubscriptionDiff_inStep {action : SubscriptionAction} {keys : Finset SubscriptionKey}
    (hShare : Share provider keys) (hStep : c.InStep served)
    (h : c.queueSubscriptionDiff action (iter keys) = (.ok (), c')) :
    c'.InStep (change action served ((iter keys).flatMap (nativeTopics provider))) := by
  rw [Connection.queueSubscriptionDiff] at h
  split at h
  · next hEmpty =>
    obtain ⟨-, rfl⟩ := Prod.mk.inj h
    rw [List.isEmpty_iff] at hEmpty
    -- without keys nothing is asked of the venue
    have hSame : change action served [] = served := by cases action <;> simp [change]
    rw [hEmpty, List.flatMap_nil, hSame]
    exact hStep
  · split at h
    · simp at h
    · next messages session hMessages =>
      obtain ⟨-, rfl⟩ := Prod.mk.inj h
      obtain ⟨hVenue, hRemembers⟩ := subscriptionMessages_venue
        (fun key hKey => (hShare key (mem_iter.mp hKey)).2) hStep.remembers hMessages
      refine ⟨?_, hRemembers⟩
      have hBefore : receiveAll provider ∅ ((c.log.map (·.content)).map Prod.fst) = served :=
        hStep.asked
      change receiveAll provider ∅ (List.map Prod.fst (List.map _ (postAll c.log _ messages))) = _
      rw [postAll_contents, List.map_append, receiveAll_append, hBefore, List.map_map, ← hVenue]
      rfl

/-- A new connection asks for the topics of its share. -/
theorem establish_inStep {endpoint : EndpointKind} {epoch : Uuid} {target : ConnectionTarget}
    {desired : Finset SubscriptionKey} (hShare : Share provider desired)
    (h : Connection.establish (configuredAdapter provider) endpoint epoch target desired =
      (.ok (), c)) : c.InStep (topicsOf provider desired) := by
  have hQueue := queueSubscriptionDiff_inStep hShare
    (⟨rfl, remembers_session provider endpoint epoch⟩ : Connection.InStep _ ∅) h
  rwa [change_subscribe_iter, Finset.empty_union] at hQueue

/-- **A change of the share.** Whatever the two shares are, the removals and the
additions lead from the topics of one to the topics of the other. -/
theorem queueChanges_inStep {next : Finset SubscriptionKey} {changed : Bool}
    (hPrev : Share provider c.desired) (hNext : Share provider next)
    (hStep : c.InStep (topicsOf provider c.desired))
    (h : c.queueChanges next = (.ok changed, c')) : c'.InStep (topicsOf provider next) := by
  have hRemoved : Share provider (c.desired \ next) := hPrev.subset Finset.sdiff_subset
  have hAdded : Share provider (next \ c.desired) := hNext.subset Finset.sdiff_subset
  simp only [Connection.queueChanges] at h
  split at h
  · simp at h
  · next c₁ hRemove =>
    split at h
    · simp at h
    · next c₂ hAdd =>
      -- first the topics that go, then those that come
      have hDone := queueSubscriptionDiff_inStep hAdded
        (queueSubscriptionDiff_inStep hRemoved hStep hRemove) hAdd
      rw [change_unsubscribe_iter, change_subscribe_iter, topicsOf, topicsOf, topicsOf,
        expand_change (nativeTopics_separates provider) hPrev] at hDone
      split at h
      · obtain ⟨-, rfl⟩ := Prod.mk.inj h
        exact ⟨hDone.asked, hDone.remembers⟩
      · obtain ⟨-, rfl⟩ := Prod.mk.inj h
        exact hDone

/-- Sending, acknowledging, parsing and beating ask for nothing. -/
theorem Connection.InStep.congr (h : c.InStep served)
    (hLog : c'.log.map (·.content) = c.log.map (·.content))
    (hSession : c'.session = c.session) : c'.InStep served := by
  refine ⟨?_, hSession ▸ h.remembers⟩
  rw [Connection.asked, hLog]
  exact h.asked

/-- Sending a command does not change what was asked for. -/
theorem afterSend_inStep (h : c.InStep served) (commands : CommandState)
    (deadline : Option Nat) : (c.afterSend commands deadline).InStep served :=
  h.congr (Ledger.send_contents c.log) rfl

theorem afterAck_inStep (h : c.InStep served) (requestId : Text) (commands : CommandState)
    (deadline : Option Nat) : (c.afterAck requestId commands deadline).InStep served :=
  h.congr (Ledger.acknowledge_contents c.log requestId) rfl

end Connections

/-! ## One task -/

section Tasks

variable [Unicode] [JsonText] [MarketData] {provider : Provider}

/-- The connection is for a share that was taken, and in step with it. -/
def Connection.Aligned (taken : Finset SubscriptionKey → Prop)
    (c : Connection (configuredAdapter provider)) : Prop :=
  taken c.desired ∧ c.InStep (topicsOf provider c.desired)

/-- What holds in a phase. `taken` is what is known of the shares read so far. -/
def PhaseAligned (taken : Finset SubscriptionKey → Prop) :
    Phase (configuredAdapter provider) → Prop
  | .counting desired | .starting desired | .connecting desired => taken desired
  | .opened c | .checking c | .looping c | .goingLive c _ | .woken c => c.Aligned taken
  | .comparing c next | .diffing c next => c.Aligned taken ∧ taken next
  | .demoting c next => taken next ∧ c.InStep (topicsOf provider next)
  | _ => True

/-- A phase that is aligned with some snapshots is aligned with more. -/
theorem PhaseAligned.mono {taken taken' : Finset SubscriptionKey → Prop}
    {phase : Phase (configuredAdapter provider)} (h : PhaseAligned taken phase)
    (hTaken : ∀ share, taken share → taken' share) : PhaseAligned taken' phase := by
  cases phase with
  | counting desired | starting desired | connecting desired => exact hTaken _ h
  | opened c | checking c | looping c | goingLive c _ | woken c => exact ⟨hTaken _ h.1, h.2⟩
  | comparing c next | diffing c next => exact ⟨⟨hTaken _ h.1.1, h.1.2⟩, hTaken _ h.2⟩
  | demoting c next => exact ⟨hTaken _ h.1, h.2⟩
  | _ => trivial

variable {c : Connection (configuredAdapter provider)} {taken : Finset SubscriptionKey → Prop}

/-- Settling on a snapshot whose topics were asked for keeps the phase aligned. -/
theorem settle_aligned {next : Finset SubscriptionKey} (hNext : taken next)
    (hStep : c.InStep (topicsOf provider next)) : PhaseAligned taken (c.settle next).phase := by
  simp only [Connection.settle]
  split
  · trivial
  · exact ⟨hNext, hStep.congr rfl rfl⟩

/-- Between frames the phase stays aligned. -/
theorem advance_aligned (hTaken : ∀ share, taken share → Share provider share)
    {endpoint : EndpointKind} {snapshot : Finset SubscriptionKey}
    (hRead : taken (filterDesired provider (configuredAdapter provider) endpoint snapshot))
    (cancelled : Bool) (now : Nat) (h : EndpointHealth)
    {phase : Phase (configuredAdapter provider)} (hPhase : PhaseAligned taken phase) :
    PhaseAligned taken (Task.advance provider endpoint snapshot cancelled now h phase).2 := by
  cases phase with
  | observing => exact hRead
  | counting desired =>
    simp only [Task.advance]
    split
    · trivial
    · exact hPhase
  | woken c => exact ⟨hPhase, hRead⟩
  | checking c =>
    simp only [Task.advance]
    split
    · exact ⟨hPhase.1, hPhase.2.congr rfl rfl⟩
    · exact hPhase
  | goingLive c leaving =>
    simp only [Task.advance]
    split
    · trivial
    · exact ⟨hPhase.1, hPhase.2.congr rfl rfl⟩
  | diffing c next =>
    -- what was asked for follows the share, from the old one to the new one
    obtain ⟨⟨hPrev, hStep⟩, hNext⟩ := hPhase
    simp only [Task.advance]
    split
    · trivial
    · next hChanges =>
      exact ⟨hNext, queueChanges_inStep (hTaken _ hPrev) (hTaken _ hNext) hStep hChanges⟩
    · next hChanges =>
      exact settle_aligned hNext
        (queueChanges_inStep (hTaken _ hPrev) (hTaken _ hNext) hStep hChanges)
  | demoting c next => exact settle_aligned hPhase.1 hPhase.2
  | exited reason => cases reason <;> (simp only [Task.advance]; split <;> trivial)
  | failing error =>
    simp only [Task.advance]
    split
    · trivial
    · split <;> trivial
  | starting desired | connecting desired | opened c | looping c | comparing c next => exact hPhase
  | idling | waiting | sleeping | stopping | stopped | panicked => trivial

theorem sendCommand_aligned (now : Nat) (written : Except RuntimeError Unit)
    (hAligned : c.Aligned taken) :
    PhaseAligned taken (c.sendCommand now written).phase := by
  rcases c.sendCommand_cases now written with
    hStay | ⟨error, hFail⟩ | ⟨command, rest, commands, -, -, hEnd⟩
  · rw [hStay]
    exact hAligned
  · rw [hFail]
    trivial
  · rcases hEnd with ⟨-, leaving, hBranch⟩ | hBranch | ⟨-, hBranch⟩
    · rw [hBranch]
      exact ⟨hAligned.1, afterSend_inStep hAligned.2 _ _⟩
    · rw [hBranch]
      trivial
    · rw [hBranch]
      exact ⟨hAligned.1, afterSend_inStep hAligned.2 _ _⟩

theorem sendHeartbeat_aligned (stale : Bool) (written : Except RuntimeError Unit)
    (hAligned : c.Aligned taken) : PhaseAligned taken (c.sendHeartbeat stale written).phase := by
  simp only [Connection.sendHeartbeat]
  split
  · trivial
  · split
    · exact ⟨hAligned.1, hAligned.2.asked, remembers_heartbeat hAligned.2.remembers⟩
    · trivial

theorem acknowledgement_aligned (now : Nat) (requestId : Text) (hAligned : c.Aligned taken) :
    PhaseAligned taken (c.handleProcessedFrame now (.acknowledgement requestId)).phase := by
  rcases c.handleProcessedFrame_cases now (.acknowledgement requestId) with
    ⟨hStay, -⟩ | ⟨id, -, ⟨error, hFail⟩ | ⟨commands, -, hEnd⟩⟩
  · rw [hStay]
    exact hAligned
  · rw [hFail]
    trivial
  · rcases hEnd with ⟨-, -, hBranch⟩ | ⟨-, hBranch⟩ | ⟨-, hBranch⟩ <;> rw [hBranch] <;>
      exact ⟨hAligned.1, afterAck_inStep hAligned.2 _ _ _⟩

/-- Parsing keeps the connection aligned. -/
theorem parsed_aligned {c' : Connection (configuredAdapter provider)} (hParsed : c.Parsed c')
    (hAligned : c.Aligned taken) : c'.Aligned taken := by
  obtain ⟨session, published, rfl | ⟨text, receivedAtMs, rfl⟩, rfl⟩ := hParsed
  · exact ⟨hAligned.1, hAligned.2.congr rfl rfl⟩
  · exact ⟨hAligned.1, hAligned.2.asked, remembers_parse hAligned.2.remembers text receivedAtMs⟩

theorem receiveFrame_aligned [RustDecimal] (now receivedAtMs : Nat)
    (written : Except RuntimeError Unit) (message : UpstreamMessage) (hAligned : c.Aligned taken) :
    PhaseAligned taken (c.receiveFrame now receivedAtMs written message).1.phase := by
  rcases c.receiveFrame_cases now receivedAtMs written message with
    ⟨error, hFail⟩ | ⟨c', hParsed, hStay⟩ | ⟨text, requestId, c', -, -, hParsed, hHandle⟩
  · rw [hFail]
    trivial
  · rw [hStay]
    exact parsed_aligned hParsed hAligned
  · rw [hHandle]
    exact acknowledgement_aligned now requestId (parsed_aligned hParsed hAligned)

/-- A step of a task keeps its phase aligned. -/
theorem task_aligned [RustDecimal] (hTaken : ∀ share, taken share → Share provider share)
    {endpoint : EndpointKind} {snapshot : Finset SubscriptionKey}
    (hRead : taken (filterDesired provider (configuredAdapter provider) endpoint snapshot))
    (version : Nat) (h : EndpointHealth) {t : Task (configuredAdapter provider)}
    (hPhase : PhaseAligned taken t.phase) (op : TaskOp) :
    PhaseAligned taken (t.step provider endpoint snapshot version h op).2.phase := by
  have hStep := t.step_stepped provider endpoint snapshot version h op
  generalize t.step provider endpoint snapshot version h op = after at hStep
  cases hStep with
  | kept => exact hPhase
  | advanced cancelled now => exact advance_aligned hTaken hRead cancelled now h hPhase
  | opened hAt hEstablish =>
    rw [hAt] at hPhase
    -- a new connection asks for the share it was opened for
    have hDesired := (Connection.establish_covers hEstablish).1
    have hStep := establish_inStep (hTaken _ hPhase) hEstablish
    exact ⟨hDesired ▸ hPhase, hDesired ▸ hStep⟩
  | woken hAt hSeen =>
    rw [hAt] at hPhase
    exact hPhase
  | sent now written hAt =>
    rw [hAt] at hPhase
    exact sendCommand_aligned now written hPhase
  | beat stale written hAt =>
    rw [hAt] at hPhase
    exact sendHeartbeat_aligned stale written hPhase
  | received now receivedAtMs written message hAt =>
    rw [hAt] at hPhase
    exact receiveFrame_aligned now receivedAtMs written message hPhase
  | failed | observed | left | slept | stopping => trivial

end Tasks

/-! ## The keys of the registry -/

/-- Only added keys become desired. -/
theorem incrementReferences_desired (s : RegistryState) (added : List SubscriptionKey) :
    (incrementReferences s added).1.desired ⊆ s.desired ∪ added.toFinset := by
  have hFold : ∀ acc : RegistryState × List SubscriptionKey,
      (added.foldl incrementReference acc).1.desired ⊆ acc.1.desired ∪ added.toFinset := by
    induction added with
    | nil => simp
    | cons key added ih =>
      intro acc k hk
      -- counting a key makes it desired, and no other
      have hOne : (incrementReference acc key).1.desired ⊆ insert key acc.1.desired := by
        simp only [incrementReference]
        split
        · exact Finset.Subset.refl _
        · exact Finset.subset_insert _ _
      rcases Finset.mem_union.mp (ih _ hk) with hOld | hNew
      · rcases Finset.mem_insert.mp (hOne hOld) with rfl | hOld
        · simp
        · exact Finset.mem_union_left _ hOld
      · exact Finset.mem_union_right _ (by simpa using Or.inr (List.mem_toFinset.mp hNew))
  exact hFold (s, [])

/-- Nothing becomes desired by removing keys. -/
theorem decrementReferences_desired (s : RegistryState) (removed : List SubscriptionKey) :
    (decrementReferences s removed).state.desired ⊆ s.desired := by
  have hFold : ∀ acc : Decrement,
      (removed.foldl decrementReference acc).state.desired ⊆ acc.state.desired := by
    induction removed with
    | nil => exact fun acc => Finset.Subset.refl _
    | cons key removed ih =>
      intro acc
      refine (ih _).trans ?_
      simp only [decrementReference]
      split
      · split
        · exact Finset.Subset.refl _
        · exact Finset.erase_subset _ _
      · exact Finset.Subset.refl _
  exact hFold ⟨s, [], []⟩

section Runs

variable [Unicode]

/-- The operation adds canonical keys, as the keys of client requests are. -/
def RegistryOp.Canonical : RegistryOp → Prop
  | .add _ _ keys => ∀ key ∈ keys, key.Canonical
  | .remove _ _ | .cleanupClient _ => True

/-- The keys that an operation adds are canonical. -/
def RuntimeOp.Canonical : RuntimeOp → Prop
  | .registry op => op.Canonical
  | .task _ _ => True

/-- Every key of the registry is canonical. -/
structure SubscriptionRegistry.Canonical (r : SubscriptionRegistry) : Prop where
  state : ∀ key ∈ r.state.desired, key.Canonical
  snapshot : ∀ key ∈ r.desired, key.Canonical

/-- Publishing keeps the keys of the registry canonical. -/
theorem publishSnapshotIfChanged_canonical {r : SubscriptionRegistry} (h : r.Canonical)
    {state : RegistryState} (hState : ∀ key ∈ state.desired, key.Canonical)
    (crossed : List SubscriptionKey) : (r.publishSnapshotIfChanged state crossed).Canonical := by
  refine ⟨hState, ?_⟩
  simp only [SubscriptionRegistry.publishSnapshotIfChanged]
  split
  · exact h.snapshot
  · exact hState

theorem registry_step_canonical {r : SubscriptionRegistry} (h : r.Canonical) {op : RegistryOp}
    (hOp : op.Canonical) : (r.step op).Canonical := by
  cases op with
  | add order client keys =>
    simp only [SubscriptionRegistry.step, SubscriptionRegistry.add]
    split
    · exact h
    · split
      · exact h
      · split
        · exact h
        · refine publishSnapshotIfChanged_canonical h (fun key hKey => ?_) _
          -- a desired key was there, or is among the added ones
          rcases Finset.mem_union.mp (incrementReferences_desired _ _ hKey) with hOld | hNew
          · exact h.state key hOld
          · refine hOp key ?_
            simp only [List.mem_toFinset, mem_iter, Finset.mem_sdiff] at hNew
            exact hNew.1
  | remove client keys =>
    simp only [SubscriptionRegistry.step, SubscriptionRegistry.remove]
    split
    · exact h
    · refine publishSnapshotIfChanged_canonical h (fun key hKey => ?_) _
      have hOld := decrementReferences_desired _ _ hKey
      exact h.state key hOld
  | cleanupClient client =>
    simp only [SubscriptionRegistry.step, SubscriptionRegistry.cleanupClient]
    split
    · exact h
    · refine publishSnapshotIfChanged_canonical h (fun key hKey => ?_) _
      have hOld := decrementReferences_desired _ _ hKey
      exact h.state key hOld

/-! ## Runs -/

variable [JsonText] [MarketData]

/-- The share of an endpoint in one of the snapshots. -/
def Observed (k : EndpointKey) (snapshots : List (Finset SubscriptionKey))
    (share : Finset SubscriptionKey) : Prop :=
  ∃ snapshot ∈ snapshots, share = filterDesired k.1 (configuredAdapter k.1) k.2 snapshot

/-- The snapshots a run goes through, one before every operation. -/
def snapshots [RustDecimal] (s : Runtime configuredAdapter) (ops : List RuntimeOp) :
    List (Finset SubscriptionKey) :=
  trace Runtime.step (fun s _ => [s.registry.desired]) s ops

/-- The registry has canonical keys, and every connection is in step with a
share of a snapshot that has been. -/
structure Runtime.Aligned (s : Runtime configuredAdapter) (seen : List (Finset SubscriptionKey)) :
    Prop where
  registry : s.registry.Canonical
  canonical : ∀ snapshot ∈ seen, ∀ key ∈ snapshot, key.Canonical
  tasks : ∀ k, PhaseAligned (Observed k seen) (s.tasks k).phase

/-- What an endpoint has observed is a share of a snapshot. -/
theorem Observed.share {k : EndpointKey} {snapshots : List (Finset SubscriptionKey)}
    (hSeen : ∀ snapshot ∈ snapshots, ∀ key ∈ snapshot, key.Canonical)
    {share : Finset SubscriptionKey} (h : Observed k snapshots share) : Share k.1 share := by
  obtain ⟨snapshot, hIn, rfl⟩ := h
  intro key hKey
  obtain ⟨hKey, hProvider, -⟩ := Finset.mem_filter.mp hKey
  exact ⟨hProvider, hSeen snapshot hIn key hKey⟩

/-- A step of the runtime keeps every phase aligned. -/
theorem runtime_step_aligned [RustDecimal] {s : Runtime configuredAdapter}
    {seen : List (Finset SubscriptionKey)} (h : s.Aligned seen) {op : RuntimeOp}
    (hOp : op.Canonical) : (s.step op).Aligned (seen ++ [s.registry.desired]) := by
  have hSeen : ∀ snapshot ∈ seen ++ [s.registry.desired], ∀ key ∈ snapshot, key.Canonical := by
    intro snapshot hIn
    rcases List.mem_append.mp hIn with hOld | hNew
    · exact h.canonical snapshot hOld
    · rw [List.mem_singleton.mp hNew]
      exact h.registry.snapshot
  -- what was observed once stays among the snapshots seen
  have hMore : ∀ k, PhaseAligned (Observed k (seen ++ [s.registry.desired])) (s.tasks k).phase :=
    fun k => (h.tasks k).mono fun share ⟨snapshot, hIn, hShare⟩ =>
      ⟨snapshot, List.mem_append_left _ hIn, hShare⟩
  cases op with
  | registry op => exact ⟨registry_step_canonical h.registry hOp, hSeen, hMore⟩
  | task k' op =>
    refine ⟨h.registry, hSeen, fun k => ?_⟩
    by_cases hKey : k = k'
    · subst hKey
      have hRead : Observed k (seen ++ [s.registry.desired])
          (filterDesired k.1 (configuredAdapter k.1) k.2 s.registry.desired) :=
        ⟨_, List.mem_append_right _ (List.mem_singleton_self _), rfl⟩
      simpa [Runtime.step] using
        task_aligned (fun _ => Observed.share hSeen) hRead _ (s.health k) (hMore k) op
    · simpa [Runtime.step, hKey] using hMore k

/-- Nothing has been asked for when the supervisors are spawned. -/
theorem aligned_spawn (maxPerClient : Nat) (limits : ProviderLimits) :
    (Runtime.spawn (.withProviderLimits maxPerClient limits) :
      Runtime configuredAdapter).Aligned [] :=
  ⟨⟨by simp [Runtime.spawn, SubscriptionRegistry.withProviderLimits],
    by simp [Runtime.spawn, SubscriptionRegistry.withProviderLimits]⟩, by simp, fun _ => trivial⟩

/-- **Topics.** In every run, whatever the snapshots are and however the
connections see them: once the venue has applied every command queued so far, a
connection between two iterations of its loop is served exactly the topics of
its share of a snapshot, which is the current one if no newer one waits to be
seen. A key outside the share has no topic there, and every desired key is in
the share of exactly one endpoint of its provider. -/
theorem connection_topics [RustDecimal] (maxPerClient : Nat) (limits : ProviderLimits)
    (ops : List RuntimeOp) (hCanonical : ∀ op ∈ ops, op.Canonical) (s : Runtime configuredAdapter)
    (hRun : s = run Runtime.step (Runtime.spawn (.withProviderLimits maxPerClient limits)) ops) :
    (∀ k c, (s.tasks k).phase = .looping c →
      c.asked = topicsOf k.1 c.desired ∧
      Observed k (snapshots (Runtime.spawn (.withProviderLimits maxPerClient limits)) ops)
        c.desired ∧
      ((s.tasks k).seen = s.registry.desiredVersion →
        c.desired = filterDesired k.1 (configuredAdapter k.1) k.2 s.registry.desired) ∧
      ∀ key, key.provider = k.1 → key.Canonical → key ∉ c.desired →
        Disjoint (nativeTopics k.1 key).toFinset c.asked) ∧
    ∀ key ∈ s.registry.desired, ∃! endpoint,
      endpoint ∈ (configuredAdapter key.provider).endpoints ∧
      key ∈ filterDesired key.provider (configuredAdapter key.provider) endpoint
        s.registry.desired := by
  constructor
  · intro k c hLoop
    have hAligned : s.Aligned
        (snapshots (Runtime.spawn (.withProviderLimits maxPerClient limits)) ops) := by
      rw [hRun]
      exact run_trace_invariant_of_allSteps (C := fun _ (op : RuntimeOp) => op.Canonical)
        (R := Runtime.Aligned)
        (fun s op seen hOp h => runtime_step_aligned h hOp) (aligned_spawn maxPerClient limits)
        (allSteps_of_mem hCanonical _)
    have hInvariant : s.Invariant := by
      rw [hRun]
      exact run_invariant (fun s op => Runtime.invariant_step op) (Runtime.invariant_spawn _) ops
    have hPhase := hAligned.tasks k
    have hFresh := (hInvariant k).phase
    rw [hLoop] at hPhase hFresh
    obtain ⟨hObserved, hStep⟩ := hPhase
    refine ⟨hStep.asked, hObserved, hFresh.2.1, fun key hProvider hKey hOut => ?_⟩
    rw [hStep.asked, Finset.disjoint_left]
    intro t ht hServed
    -- a topic stands for one key only, so no other key's topic was asked for
    obtain ⟨key', hIn, ht'⟩ := mem_expand.mp hServed
    have hSame := (nativeTopics_separates k.1).unique ⟨hProvider, hKey⟩
      (hObserved.share hAligned.canonical key' hIn) ht ht'
    exact hOut (hSame ▸ hIn)
  · intro key hKey
    -- the endpoint of the key's channel takes it, and no other one
    refine ⟨(configuredAdapter key.provider).endpointFor key.channel,
      ⟨endpointFor_mem_endpoints _ _, ?_⟩, ?_⟩
    · exact Finset.mem_filter.mpr ⟨hKey, rfl, rfl⟩
    · rintro endpoint ⟨-, hShare⟩
      exact (Finset.mem_filter.mp hShare).2.2.symm

end Runs

section Sample

/-- The candles of Bitcoin on Bybit. -/
def bybitCandle : SubscriptionKey := ⟨.bybit, .linearPerpetual, "BTCUSDT".toList, .candle1m⟩

/-- After `servedOps` another client asks for the candles and the first one
leaves; the supervisor sees both changes at once. -/
def movedOps : List RuntimeOp :=
  servedOps ++ [.registry (.add .declared 2 [bybitCandle]), .registry (.remove 1 [bybitTicker])] ++
    ([.changed, .advance false 400, .advance false 400, .advance false 400, .advance false 400].map
      (.task bybitEndpoint))

/-- The phase is the loop, with these keys. -/
def Phase.looped {a : ProviderAdapter} (desired : Finset SubscriptionKey) : Phase a → Bool
  | .looping c => c.desired = desired
  | _ => false

/-- A looped phase is the loop. -/
theorem Phase.looped_spec {a : ProviderAdapter} {desired : Finset SubscriptionKey}
    {phase : Phase a} (h : phase.looped desired) :
    ∃ c, phase = .looping c ∧ c.desired = desired := by
  cases phase with
  | looping c => exact ⟨c, rfl, by simpa [Phase.looped] using h⟩
  | _ => simp [Phase.looped] at h

local instance movedUnicode : Unicode := .ascii
local instance movedJson : JsonText := bybitAckJson
local instance movedMarket : MarketData := .silent
local instance movedDecimal : RustDecimal := .digits

/-- The keys of the run are canonical. -/
theorem movedOps_canonical : ∀ op ∈ movedOps, op.Canonical := by
  have hTicker : bybitTicker.Canonical := by
    unfold SubscriptionKey.Canonical
    decide
  have hCandle : bybitCandle.Canonical := by
    unfold SubscriptionKey.Canonical
    decide
  simp [movedOps, servedOps, staleOps, RuntimeOp.Canonical, RegistryOp.Canonical, hTicker, hCandle]

/-- The connection moves from the ticker to the candles. -/
theorem connection_topics_movedOps :
    ∃ c, ((run Runtime.step unclaimed movedOps).tasks bybitEndpoint).phase = .looping c ∧
      c.desired = {bybitCandle} ∧ c.asked = topicsOf .bybit {bybitCandle} := by
  have hLooped : ((run Runtime.step unclaimed movedOps).tasks bybitEndpoint).phase.looped
      {bybitCandle} := by
    decide +kernel
  obtain ⟨c, hLoop, hDesired⟩ := Phase.looped_spec hLooped
  have hTopics := ((connection_topics 10 (.uniform 1000) movedOps movedOps_canonical _ rfl).1
    bybitEndpoint c hLoop).1
  exact ⟨c, hLoop, hDesired, by rw [hTopics, hDesired]; rfl⟩

end Sample

end MarketStreamGateway
