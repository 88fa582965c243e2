import MarketStreamGateway.Runtime.Supervisor
import MarketStreamGateway.Providers.Venue
import MarketStreamGateway.Lib.Run

/-!
# Market Stream Gateway — readiness

`HealthRegistry::readiness` reads two fields of every endpoint, the size of its
share of the desired set and the state of its connection. Both are written by
the endpoint's supervisor, after it has noticed a change of the desired set.

A supervisor is `settled` when it is not between noticing something and
reporting it. `TaskInvariant` says, phase by phase, what the health entry and
the open connection have to do with the share of the snapshot the supervisor
last read, and that this is the share of the current snapshot unless a newer
one waits to be noticed.

Main results:
* `readiness_serves` — when the gateway is ready, a settled supervisor serves
  what its connection was opened and changed for; if it has seen the current
  snapshot, that is its whole share of the desired set.
* `readiness_stale` — a run in which the gateway is ready and a desired key is
  not served.
-/

namespace MarketStreamGateway

open Lib

/-! ## What a connection serves -/

namespace Connection

variable {a : ProviderAdapter}

/-- What was queued last for a key on this connection. -/
def lastAction (c : Connection a) (key : SubscriptionKey) : Option SubscriptionAction :=
  (c.diffs.reverse.find? fun diff => key ∈ diff.2).map Prod.fst

/-- A key is served: it was subscribed, not unsubscribed since, and every
command built for it on this connection was sent and fully acknowledged. -/
def Served (c : Connection a) (key : SubscriptionKey) : Prop :=
  c.lastAction key = some .subscribe ∧ ∀ e ∈ c.log, key ∈ e.content.2.2 → e.Done

/-- The command state implements the log, and the keys were subscribed. -/
structure Covers (c : Connection a) (keys : Finset SubscriptionKey) : Prop where
  tracks : Tracks c.commands c.log
  subscribed : ∀ key ∈ keys, c.lastAction key = some .subscribe

/-- A ready connection serves the keys it covers. -/
theorem Covers.served {c : Connection a} {keys : Finset SubscriptionKey} (h : c.Covers keys)
    (hReady : c.commands.readinessComplete) {key : SubscriptionKey} (hKey : key ∈ keys) :
    c.Served key :=
  ⟨h.subscribed key hKey, fun e he _ => h.tracks.readinessComplete_iff.mp hReady e he⟩

/-- A connection with the same commands, log and diffs covers the same keys. -/
theorem Covers.congr {c c' : Connection a} {keys : Finset SubscriptionKey} (h : c.Covers keys)
    (hCommands : c'.commands = c.commands) (hLog : c'.log = c.log)
    (hDiffs : c'.diffs = c.diffs) : c'.Covers keys := by
  refine ⟨by rw [hCommands, hLog]; exact h.tracks, fun key hKey => ?_⟩
  rw [lastAction, hDiffs]
  exact h.subscribed key hKey

/-- Queueing a diff makes its action the last one for its keys, and for no others. -/
theorem queueSubscriptionDiff_spec {c c' : Connection a} {action : SubscriptionAction}
    {keys : List SubscriptionKey} (h : c.queueSubscriptionDiff action keys = (.ok (), c'))
    (hTracks : Tracks c.commands c.log) :
    Tracks c'.commands c'.log ∧ c'.desired = c.desired ∧
    ∀ key, c'.lastAction key = if key ∈ keys then some action else c.lastAction key := by
  rw [queueSubscriptionDiff] at h
  split at h
  · next hEmpty =>
    obtain ⟨-, rfl⟩ := Prod.mk.inj h
    rw [List.isEmpty_iff] at hEmpty
    exact ⟨hTracks, rfl, fun key => by simp [hEmpty]⟩
  · split at h
    · simp at h
    · next messages session _ =>
      obtain ⟨hOk, rfl⟩ := Prod.mk.inj h
      refine ⟨hTracks.enqueue _ (Prod.ext hOk rfl), rfl, fun key => ?_⟩
      simp only [lastAction, List.reverse_append, List.reverse_singleton, List.singleton_append,
        List.find?_cons]
      -- the call just made is the last one about its keys
      by_cases hKey : key ∈ keys <;> simp [hKey]

/-- A new connection covers the set it was opened for. -/
theorem establish_covers {endpoint : EndpointKind} {epoch : Uuid} {target : ConnectionTarget}
    {desired : Finset SubscriptionKey} {c : Connection a}
    (h : establish a endpoint epoch target desired = (.ok (), c)) :
    c.desired = desired ∧ c.Covers desired := by
  obtain ⟨hTracks, hDesired, hLast⟩ := queueSubscriptionDiff_spec h tracks_empty
  refine ⟨hDesired, hTracks, fun key hKey => ?_⟩
  rw [hLast, if_pos (mem_iter.mpr hKey)]

/-- Without a difference the connection and its set are what they were. -/
theorem queueChanges_unchanged {c c' : Connection a} {next : Finset SubscriptionKey}
    (h : c.queueChanges next = (.ok false, c')) : c' = c ∧ next = c.desired := by
  simp only [queueChanges] at h
  split at h
  · simp at h
  · next c₁ hRemove =>
    split at h
    · simp at h
    · next c₂ hAdd =>
      split at h
      · simp at h
      · next hNone =>
        obtain ⟨-, rfl⟩ := Prod.mk.inj h
        simp only [Bool.or_eq_true, Bool.not_eq_true', List.isEmpty_eq_false_iff, not_or, not_not]
          at hNone
        obtain ⟨hRemoved, hAdded⟩ := hNone
        rw [hRemoved] at hRemove
        rw [hAdded] at hAdd
        obtain ⟨-, rfl⟩ := Prod.mk.inj hRemove
        obtain ⟨-, rfl⟩ := Prod.mk.inj hAdd
        -- nothing to remove and nothing to add
        refine ⟨rfl, Finset.Subset.antisymm ?_ ?_⟩
        · rwa [iter_eq_nil, Finset.sdiff_eq_empty_iff_subset] at hAdded
        · rwa [iter_eq_nil, Finset.sdiff_eq_empty_iff_subset] at hRemoved

/-- Queueing the difference covers the next set. If there was none, the
connection and its set are what they were. -/
theorem queueChanges_covers {c c' : Connection a} {next : Finset SubscriptionKey} {changed : Bool}
    (h : c.queueChanges next = (.ok changed, c')) (hCovers : c.Covers c.desired) :
    c'.Covers next ∧ (changed = false → c' = c ∧ next = c.desired) := by
  refine ⟨?_, fun hFalse => queueChanges_unchanged (hFalse ▸ h)⟩
  simp only [queueChanges] at h
  split at h
  · simp at h
  · next c₁ hRemove =>
    split at h
    · simp at h
    · next c₂ hAdd =>
      obtain ⟨hTracks₁, -, hLast₁⟩ := queueSubscriptionDiff_spec hRemove hCovers.tracks
      obtain ⟨hTracks₂, -, hLast₂⟩ := queueSubscriptionDiff_spec hAdd hTracks₁
      have hNext : c₂.Covers next := by
        refine ⟨hTracks₂, fun key hKey => ?_⟩
        rw [hLast₂]
        by_cases hOld : key ∈ c.desired
        · -- a key of both sets is in neither list
          rw [if_neg (by simp [hOld]), hLast₁, if_neg (by simp [hKey])]
          exact hCovers.subscribed key hOld
        · rw [if_pos (by simp [hKey, hOld])]
      split at h
      · obtain ⟨-, rfl⟩ := Prod.mk.inj h
        exact hNext.congr rfl rfl rfl
      · obtain ⟨-, rfl⟩ := Prod.mk.inj h
        exact hNext

end Connection

/-! ## The phases -/

section Phases

variable {a : ProviderAdapter}

/-- The supervisor is not between noticing a change of the desired set, or the
end of its connection, and reporting it. -/
def Phase.settled : Phase a → Bool
  | .idling | .waiting | .connecting _ | .opened _ | .checking _ | .looping _ | .goingLive _ _
  | .sleeping | .stopped | .panicked => true
  | .observing | .counting _ | .starting _ | .woken _ | .comparing _ _ | .diffing _ _
  | .demoting _ _ | .exited _ | .failing _ | .stopping => false

/-- An endpoint that reports itself live has nothing left to send or to wait
for. -/
def LiveDone (h : EndpointHealth) (c : Connection a) : Prop :=
  h.state = .live → c.commands.readinessComplete

/-- The health entry counts the keys of a share. -/
def Counts (h : EndpointHealth) (taken : Finset SubscriptionKey) : Prop :=
  h.desiredSubscriptions = taken.card

/-- What holds in a phase. `fresh` is what is known of the share last read. -/
def PhaseInvariant (fresh : Finset SubscriptionKey → Prop) (h : EndpointHealth) : Phase a → Prop
  | .observing => True
  | .counting desired => fresh desired
  | .idling | .waiting => Counts h ∅ ∧ fresh ∅
  | .starting desired => desired ≠ ∅ ∧ Counts h desired ∧ fresh desired
  | .connecting desired => desired ≠ ∅ ∧ Counts h desired ∧ fresh desired ∧ h.state = .connecting
  | .opened c | .checking c =>
    c.desired ≠ ∅ ∧ Counts h c.desired ∧ fresh c.desired ∧ h.state = .connecting ∧
      c.Covers c.desired
  | .looping c => Counts h c.desired ∧ fresh c.desired ∧ c.Covers c.desired ∧ LiveDone h c
  | .goingLive c _ =>
    Counts h c.desired ∧ fresh c.desired ∧ c.Covers c.desired ∧ c.commands.readinessComplete
  | .woken c => c.Covers c.desired ∧ LiveDone h c
  | .comparing c next => c.Covers c.desired ∧ LiveDone h c ∧ fresh next
  | .diffing c next => c.Covers c.desired ∧ LiveDone h c ∧ Counts h next ∧ fresh next
  | .demoting c next => c.Covers next ∧ Counts h next ∧ fresh next
  | .exited _ | .failing _ | .stopping => ∃ taken, Counts h taken ∧ fresh taken
  | .sleeping | .panicked => h.state = .backoff ∧ ∃ taken, Counts h taken ∧ fresh taken
  | .stopped => h.state = .stopped ∧ ∃ taken, Counts h taken ∧ fresh taken

/-- The invariant of a phase holds for more snapshots as well. -/
theorem PhaseInvariant.mono {fresh fresh' : Finset SubscriptionKey → Prop} {h : EndpointHealth}
    {phase : Phase a} (hInv : PhaseInvariant fresh h phase)
    (hFresh : ∀ taken, fresh taken → fresh' taken) : PhaseInvariant fresh' h phase := by
  have hTaken : (∃ taken, Counts h taken ∧ fresh taken) → ∃ taken, Counts h taken ∧ fresh' taken :=
    fun ⟨taken, hCount, hTaken⟩ => ⟨taken, hCount, hFresh taken hTaken⟩
  -- only the freshness of the share changes
  cases phase with
  | observing => trivial
  | counting desired => exact hFresh _ hInv
  | idling | waiting => exact ⟨hInv.1, hFresh _ hInv.2⟩
  | starting desired => exact ⟨hInv.1, hInv.2.1, hFresh _ hInv.2.2⟩
  | connecting desired | opened c | checking c =>
    exact ⟨hInv.1, hInv.2.1, hFresh _ hInv.2.2.1, hInv.2.2.2⟩
  | looping c | goingLive c leaving => exact ⟨hInv.1, hFresh _ hInv.2.1, hInv.2.2⟩
  | woken c => exact hInv
  | comparing c next => exact ⟨hInv.1, hInv.2.1, hFresh _ hInv.2.2⟩
  | diffing c next => exact ⟨hInv.1, hInv.2.1, hInv.2.2.1, hFresh _ hInv.2.2.2⟩
  | demoting c next => exact ⟨hInv.1, hInv.2.1, hFresh _ hInv.2.2⟩
  | exited reason | failing error | stopping => exact hTaken hInv
  | sleeping | panicked | stopped => exact ⟨hInv.1, hTaken hInv.2⟩

variable {fresh : Finset SubscriptionKey → Prop} {h : EndpointHealth} {c : Connection a}

/-- A backoff changes the state, and leaves the number of desired subscriptions alone. -/
theorem EndpointHealth.reportBackoff_spec (h : EndpointHealth) (error : Text) :
    (h.reportBackoff error).1.state = .backoff ∧
      (h.reportBackoff error).1.desiredSubscriptions = h.desiredSubscriptions := by
  simp only [EndpointHealth.reportBackoff, EndpointHealth.update]
  split <;> exact ⟨rfl, rfl⟩

/-- Settling on a snapshot that is covered and counted keeps the invariant. -/
theorem settle_phase {next : Finset SubscriptionKey} (hCovers : c.Covers next)
    (hCount : Counts h next) (hFresh : fresh next) (hLive : LiveDone h c) :
    PhaseInvariant fresh h (c.settle next).phase := by
  simp only [Connection.settle]
  split
  · exact ⟨next, hCount, hFresh⟩
  · exact ⟨hCount, hFresh, hCovers.congr rfl rfl rfl, hLive⟩

/-- The internal steps keep the invariant. -/
theorem advance_phase {provider : Provider} {endpoint : EndpointKind}
    {snapshot : Finset SubscriptionKey} (cancelled : Bool) (now : Nat) {phase : Phase a}
    (hShare : fresh (filterDesired provider a endpoint snapshot))
    (hInv : PhaseInvariant fresh h phase) :
    PhaseInvariant fresh (Task.advance provider endpoint snapshot cancelled now h phase).1
      (Task.advance provider endpoint snapshot cancelled now h phase).2 := by
  cases phase with
  | observing => exact hShare
  | counting desired =>
    simp only [Task.advance]
    split
    · next hEmpty =>
      subst hEmpty
      exact ⟨rfl, hInv⟩
    · next hSome => exact ⟨hSome, rfl, hInv⟩
  | idling => exact hInv
  | starting desired =>
    obtain ⟨hSome, hCount, hFresh⟩ := hInv
    exact ⟨hSome, hCount, hFresh, rfl⟩
  | opened c =>
    obtain ⟨hSome, hCount, hFresh, -, hCovers⟩ := hInv
    exact ⟨hSome, hCount, hFresh, rfl, hCovers⟩
  | checking c =>
    obtain ⟨-, hCount, hFresh, hState, hCovers⟩ := hInv
    simp only [Task.advance]
    split
    · next hReady => exact ⟨hCount, hFresh, hCovers.congr rfl rfl rfl, fun _ => hReady⟩
    · refine ⟨hCount, hFresh, hCovers, fun hLive => ?_⟩
      rw [hState] at hLive
      simp at hLive
  | goingLive c leaving =>
    obtain ⟨hCount, hFresh, hCovers, hReady⟩ := hInv
    simp only [Task.advance]
    split
    · exact ⟨c.desired, hCount, hFresh⟩
    · exact ⟨hCount, hFresh, hCovers.congr rfl rfl rfl, fun _ => hReady⟩
  | woken c => exact ⟨hInv.1, hInv.2, hShare⟩
  | comparing c next =>
    obtain ⟨hCovers, hLive, hFresh⟩ := hInv
    exact ⟨hCovers, hLive, rfl, hFresh⟩
  | diffing c next =>
    -- the queued commands bring the coverage to the new share
    obtain ⟨hCovers, hLive, hCount, hFresh⟩ := hInv
    simp only [Task.advance]
    split
    · exact ⟨next, hCount, hFresh⟩
    · next hChanges =>
      exact ⟨(Connection.queueChanges_covers hChanges hCovers).1, hCount, hFresh⟩
    · next c' hChanges =>
      obtain ⟨hNext, hSame⟩ := Connection.queueChanges_covers hChanges hCovers
      obtain ⟨rfl, -⟩ := hSame rfl
      exact settle_phase hNext hCount hFresh hLive
  | demoting c next =>
    obtain ⟨hCovers, hCount, hFresh⟩ := hInv
    refine settle_phase hCovers hCount hFresh fun hLive => ?_
    simp [Task.advance, EndpointHealth.reportChanging] at hLive
  | exited reason =>
    cases reason <;> (simp only [Task.advance]; split)
    · exact hInv
    · trivial
    · exact hInv
    · exact hInv
  | failing error =>
    simp only [Task.advance]
    split
    · exact hInv
    · -- a backoff keeps the count, so the entry still counts a share that was read
      have hBackoff := h.reportBackoff_spec error
      split
      · next hReport =>
        rw [hReport] at hBackoff
        exact ⟨hBackoff.1, hInv.imp fun taken hTaken => ⟨hBackoff.2.trans hTaken.1, hTaken.2⟩⟩
      · next hReport =>
        rw [hReport] at hBackoff
        exact ⟨hBackoff.1, hInv.imp fun taken hTaken => ⟨hBackoff.2.trans hTaken.1, hTaken.2⟩⟩
  | stopping => exact ⟨rfl, hInv⟩
  | waiting | connecting _ | looping _ | sleeping | stopped | panicked => exact hInv

theorem sendCommand_phase (now : Nat) (written : Except RuntimeError Unit)
    (hInv : PhaseInvariant fresh h (.looping c)) :
    PhaseInvariant fresh h (c.sendCommand now written).phase := by
  obtain ⟨hCount, hFresh, hCovers, hLive⟩ := hInv
  rcases c.sendCommand_cases now written with
    hStay | ⟨error, hFail⟩ | ⟨command, rest, commands, hQueued, hMark, hEnd⟩
  · rw [hStay]
    exact ⟨hCount, hFresh, hCovers, hLive⟩
  · rw [hFail]
    exact ⟨c.desired, hCount, hFresh⟩
  · obtain ⟨-, hTracks⟩ := hCovers.tracks.send hQueued hMark
    have hAfter : ∀ deadline, (c.afterSend commands deadline).Covers c.desired :=
      fun deadline => ⟨hTracks, hCovers.subscribed⟩
    -- with a command queued the endpoint was not live
    have hNotLive : h.state ≠ .live := fun hState => by
      have := hLive hState
      simp [CommandState.readinessComplete, hQueued] at this
    rcases hEnd with ⟨hReady, leaving, hBranch⟩ | hBranch | ⟨-, hBranch⟩
    · rw [hBranch]
      exact ⟨hCount, hFresh, hAfter none, hReady⟩
    · rw [hBranch]
      exact ⟨c.desired, hCount, hFresh⟩
    · rw [hBranch]
      exact ⟨hCount, hFresh, hAfter _, fun hState => absurd hState hNotLive⟩

theorem sendHeartbeat_phase (stale : Bool) (written : Except RuntimeError Unit)
    (hInv : PhaseInvariant fresh h (.looping c)) :
    PhaseInvariant fresh h (c.sendHeartbeat stale written).phase := by
  obtain ⟨hCount, hFresh, hCovers, hLive⟩ := hInv
  simp only [Connection.sendHeartbeat]
  split
  · exact ⟨c.desired, hCount, hFresh⟩
  · split
    · exact ⟨hCount, hFresh, hCovers.congr rfl rfl rfl, hLive⟩
    · exact ⟨c.desired, hCount, hFresh⟩

theorem acknowledgement_phase (now : Nat) (requestId : Text)
    (hInv : PhaseInvariant fresh h (.looping c)) :
    PhaseInvariant fresh h (c.handleProcessedFrame now (.acknowledgement requestId)).phase := by
  obtain ⟨hCount, hFresh, hCovers, hLive⟩ := hInv
  rcases c.handleProcessedFrame_cases now (.acknowledgement requestId) with
    ⟨hStay, -⟩ | ⟨id, hId, ⟨error, hFail⟩ | ⟨commands, hAck, hEnd⟩⟩
  · rw [hStay]
    exact ⟨hCount, hFresh, hCovers, hLive⟩
  · rw [hFail]
    exact ⟨c.desired, hCount, hFresh⟩
  · have hTracks := hCovers.tracks.acknowledge hAck
    have hAfter : ∀ deadline, (c.afterAck id commands deadline).Covers c.desired :=
      fun deadline => ⟨hTracks, hCovers.subscribed⟩
    -- a live endpoint awaits no acknowledgement
    have hNotLive : h.state ≠ .live := fun hState => by
      have hPending : c.commands.pending = ∅ := by
        simpa using (Bool.and_eq_true_iff.mp (hLive hState)).2
      simp [CommandState.acknowledge, hPending] at hAck
    rcases hEnd with ⟨hReady, -, hBranch⟩ | ⟨hReady, hBranch⟩ | ⟨-, hBranch⟩
    · rw [hBranch]
      exact ⟨hCount, hFresh, hAfter none, fun _ => hReady⟩
    · rw [hBranch]
      exact ⟨hCount, hFresh, hAfter none, hReady⟩
    · rw [hBranch]
      exact ⟨hCount, hFresh, hAfter _, fun hState => absurd hState hNotLive⟩

theorem receiveFrame_phase [RustDecimal] (now receivedAtMs : Nat)
    (written : Except RuntimeError Unit) (message : UpstreamMessage)
    (hInv : PhaseInvariant fresh h (.looping c)) :
    PhaseInvariant fresh h (c.receiveFrame now receivedAtMs written message).1.phase := by
  have hParsed : ∀ c', c.Parsed c' → PhaseInvariant fresh h (.looping c') := by
    rintro c' ⟨session, published, -, rfl⟩
    obtain ⟨hCount, hFresh, hCovers, hLive⟩ := hInv
    exact ⟨hCount, hFresh, hCovers.congr rfl rfl rfl, hLive⟩
  rcases c.receiveFrame_cases now receivedAtMs written message with
    ⟨error, hFail⟩ | ⟨c', hPar, hStay⟩ | ⟨text, requestId, c', -, -, hPar, hHandle⟩
  · rw [hFail]
    exact ⟨c.desired, hInv.1, hInv.2.1⟩
  · rw [hStay]
    exact hParsed c' hPar
  · rw [hHandle]
    exact acknowledgement_phase now requestId (hParsed c' hPar)

end Phases

/-! ## One step of a task -/

section Tasks

variable [RustDecimal] {a : ProviderAdapter}

/-- The invariant of a task and its health entry under a snapshot. A share the
task has read is its share of this snapshot, unless a newer version waits. -/
structure TaskInvariant (provider : Provider) (endpoint : EndpointKind)
    (snapshot : Finset SubscriptionKey) (version : Nat) (h : EndpointHealth) (t : Task a) :
    Prop where
  seen_le : t.seen ≤ version
  phase : PhaseInvariant
    (fun taken => t.seen = version → taken = filterDesired provider a endpoint snapshot) h t.phase

theorem taskInvariant_step {provider : Provider} {endpoint : EndpointKind}
    {snapshot : Finset SubscriptionKey} {version : Nat} {h : EndpointHealth} {t : Task a}
    (hInv : TaskInvariant provider endpoint snapshot version h t) (op : TaskOp) :
    TaskInvariant provider endpoint snapshot version
      (t.step provider endpoint snapshot version h op).1
      (t.step provider endpoint snapshot version h op).2 := by
  obtain ⟨hSeen, hPhaseInv⟩ := hInv
  have hStep := t.step_stepped provider endpoint snapshot version h op
  generalize t.step provider endpoint snapshot version h op = after at hStep
  cases hStep with
  | kept => exact ⟨hSeen, hPhaseInv⟩
  | advanced cancelled now => exact ⟨hSeen, advance_phase cancelled now (fun _ => rfl) hPhaseInv⟩
  | opened hPhase hEstablish =>
    rw [hPhase] at hPhaseInv
    obtain ⟨hSome, hCount, hFresh, hState⟩ := hPhaseInv
    obtain ⟨rfl, hCovers⟩ := Connection.establish_covers hEstablish
    exact ⟨hSeen, hSome, hCount, hFresh, hState, hCovers⟩
  | failed error hPhase =>
    rcases hPhase with ⟨desired, hPhase⟩ | ⟨c, hPhase⟩
    · rw [hPhase] at hPhaseInv
      exact ⟨hSeen, desired, hPhaseInv.2.1, hPhaseInv.2.2.1⟩
    · rw [hPhase] at hPhaseInv
      exact ⟨hSeen, c.desired, hPhaseInv.1, hPhaseInv.2.1⟩
  | observed hPhase hOld => exact ⟨le_rfl, trivial⟩
  | woken hPhase hOld =>
    rw [hPhase] at hPhaseInv
    exact ⟨le_rfl, hPhaseInv.2.2⟩
  | sent now written hPhase =>
    rw [hPhase] at hPhaseInv
    exact ⟨hSeen, sendCommand_phase now written hPhaseInv⟩
  | beat stale written hPhase =>
    rw [hPhase] at hPhaseInv
    exact ⟨hSeen, sendHeartbeat_phase stale written hPhaseInv⟩
  | received now receivedAtMs written message hPhase =>
    rw [hPhase] at hPhaseInv
    refine ⟨hSeen, ?_⟩
    -- the time of the last event is no part of the invariant
    split
    · exact receiveFrame_phase (h := h.reportEvent receivedAtMs) now receivedAtMs written message
        hPhaseInv
    · exact receiveFrame_phase now receivedAtMs written message hPhaseInv
  | left reason hPhase =>
    rw [hPhase] at hPhaseInv
    exact ⟨hSeen, _, hPhaseInv.1, hPhaseInv.2.1⟩
  | slept hPhase => exact ⟨hSeen, trivial⟩
  | stopping hPhase =>
    refine ⟨hSeen, ?_⟩
    rcases hPhase with hPhase | hPhase
    · rw [hPhase] at hPhaseInv
      exact ⟨∅, hPhaseInv⟩
    · rw [hPhase] at hPhaseInv
      exact hPhaseInv.2

end Tasks

/-! ## Runs -/

/-- Publishing leaves the snapshot alone or gives it a new version. -/
theorem publishSnapshotIfChanged_version (r : SubscriptionRegistry) (state : RegistryState)
    (crossed : List SubscriptionKey) :
    ((r.publishSnapshotIfChanged state crossed).desired = r.desired ∧
      (r.publishSnapshotIfChanged state crossed).desiredVersion = r.desiredVersion) ∨
    (r.publishSnapshotIfChanged state crossed).desiredVersion = r.desiredVersion + 1 := by
  unfold SubscriptionRegistry.publishSnapshotIfChanged
  cases crossed <;> simp

/-- The watch channel keeps its value, or gets a new version. -/
theorem registry_step_version (r : SubscriptionRegistry) (op : RegistryOp) :
    ((r.step op).desired = r.desired ∧ (r.step op).desiredVersion = r.desiredVersion) ∨
    (r.step op).desiredVersion = r.desiredVersion + 1 := by
  -- a call that changes nothing publishes nothing
  have hKept : (r.desired = r.desired ∧ r.desiredVersion = r.desiredVersion) ∨
      r.desiredVersion = r.desiredVersion + 1 := Or.inl ⟨rfl, rfl⟩
  cases op with
  | add order client keys =>
    simp only [SubscriptionRegistry.step, SubscriptionRegistry.add]
    split
    · exact hKept
    · split
      · exact hKept
      · split
        · exact hKept
        · exact publishSnapshotIfChanged_version r _ _
  | remove client keys =>
    simp only [SubscriptionRegistry.step, SubscriptionRegistry.remove]
    split
    · exact hKept
    · exact publishSnapshotIfChanged_version r _ _
  | cleanupClient client =>
    simp only [SubscriptionRegistry.step, SubscriptionRegistry.cleanupClient]
    split
    · exact hKept
    · exact publishSnapshotIfChanged_version r _ _

namespace Runtime

variable {adapter : Provider → ProviderAdapter}

/-- Every task of the runtime meets its invariant. -/
def Invariant (s : Runtime adapter) : Prop :=
  ∀ k, TaskInvariant k.1 k.2 s.registry.desired s.registry.desiredVersion (s.health k) (s.tasks k)

/-- The invariant holds once the supervisors are spawned. -/
theorem invariant_spawn (registry : SubscriptionRegistry) :
    (Runtime.spawn registry : Runtime adapter).Invariant :=
  fun _ => ⟨le_rfl, trivial⟩

theorem invariant_step [RustDecimal] {s : Runtime adapter} (op : RuntimeOp) (h : s.Invariant) :
    (s.step op).Invariant := by
  intro k
  cases op with
  | registry op =>
    obtain ⟨hSeen, hPhase⟩ := h k
    rcases registry_step_version s.registry op with ⟨hDesired, hVersion⟩ | hVersion
    · refine ⟨by simpa [step, hVersion] using hSeen, hPhase.mono fun taken hFresh => ?_⟩
      simpa [step, hDesired, hVersion] using hFresh
    · -- a new version waits: nothing is known of shares read before
      refine ⟨by simp only [step, hVersion]; omega, hPhase.mono fun taken _ hNow => ?_⟩
      simp only [step, hVersion] at hNow
      omega
  | task k' op =>
    by_cases hKey : k = k'
    · subst hKey
      simpa [step] using taskInvariant_step (h k) op
    · simpa [step, hKey] using h k

end Runtime

/-- A ready endpoint in a settled phase serves the set of its connection. -/
theorem PhaseInvariant.served {a : ProviderAdapter} {fresh : Finset SubscriptionKey → Prop}
    {h : EndpointHealth} {phase : Phase a} (hInv : PhaseInvariant fresh h phase)
    (hSettled : phase.settled) (hReady : h.ready) {c : Connection a}
    (hOpen : phase.connection = some c) {key : SubscriptionKey} (hKey : key ∈ c.desired) :
    c.Served key := by
  have hSome : c.desired.card ≠ 0 := Finset.card_ne_zero_of_mem hKey
  rw [EndpointHealth.ready, Bool.or_eq_true, decide_eq_true_eq, decide_eq_true_eq] at hReady
  cases phase with
  | opened c' | checking c' =>
    obtain rfl := Option.some.inj hOpen
    obtain ⟨-, hCount, -, hState, -⟩ := hInv
    rw [hCount, hState] at hReady
    -- a connection that is not live yet is ready only with an empty share
    simp [hSome] at hReady
  | looping c' =>
    obtain rfl := Option.some.inj hOpen
    obtain ⟨hCount, -, hCovers, hLive⟩ := hInv
    rcases hReady with hNone | hState
    · exact absurd (hCount.symm.trans hNone) hSome
    · exact hCovers.served (hLive hState) hKey
  | goingLive c' leaving =>
    obtain rfl := Option.some.inj hOpen
    exact hInv.2.2.1.served hInv.2.2.2 hKey
  | woken | comparing | diffing | demoting => simp [Phase.settled] at hSettled
  | _ => simp [Phase.connection] at hOpen

/-- A ready endpoint in a settled phase has a connection for what it last read. -/
theorem PhaseInvariant.connected {a : ProviderAdapter} {share : Finset SubscriptionKey}
    {h : EndpointHealth} {phase : Phase a} (hInv : PhaseInvariant (· = share) h phase)
    (hSettled : phase.settled) (hReady : h.ready) (hSome : share ≠ ∅) :
    ∃ c, phase.connection = some c ∧ c.desired = share := by
  have hCard : share.card ≠ 0 := fun hZero => hSome (Finset.card_eq_zero.mp hZero)
  rw [EndpointHealth.ready, Bool.or_eq_true, decide_eq_true_eq, decide_eq_true_eq] at hReady
  cases phase with
  -- these phases have no share to serve
  | idling | waiting => exact absurd hInv.2.symm hSome
  | connecting desired =>
    obtain ⟨-, hCount, rfl, hState⟩ := hInv
    rw [hCount, hState] at hReady
    simp [hCard] at hReady
  | opened c | checking c => exact ⟨c, rfl, hInv.2.2.1⟩
  | looping c | goingLive c leaving => exact ⟨c, rfl, hInv.2.1⟩
  | sleeping | panicked | stopped =>
    obtain ⟨hState, taken, hCount, rfl⟩ := hInv
    rw [hCount, hState] at hReady
    simp [hCard] at hReady
  | _ => simp [Phase.settled] at hSettled

section Sample

/-- The ticker of Bitcoin on Bybit. -/
def bybitTicker : SubscriptionKey := ⟨.bybit, .linearPerpetual, "BTCUSDT".toList, .ticker⟩

/-- The text of Bybit's acknowledgement of its first command. -/
def bybitAck : Text :=
  "\x7b\"success\":true,\"req_id\":\"gateway-1\",\"op\":\"subscribe\"\x7d".toList

/-- Documents that are read as that acknowledgement. -/
@[reducible] def bybitAckJson : JsonText :=
  .table [(bybitAck, .object [("success".toList, .bool true),
    ("req_id".toList, .string "gateway-1".toList), ("op".toList, .string "subscribe".toList)])]

local instance readyUnicode : Unicode := .ascii
local instance readyJson : JsonText := bybitAckJson
local instance readyMarket : MarketData := .silent
local instance readyDecimal : RustDecimal := .digits

/-- The endpoint that serves the ticker. -/
def bybitEndpoint : EndpointKey := (.bybit, .primary)

/-- The gateway without any demand. -/
def unclaimed : Runtime configuredAdapter :=
  Runtime.spawn (.withProviderLimits 10 (.uniform 1000))

/-- The supervisor finds no demand and goes to sleep; then a client subscribes. -/
def staleOps : List RuntimeOp :=
  [.advance false 0, .advance false 0, .advance false 0].map (.task bybitEndpoint) ++
    [.registry (.add .declared 1 [bybitTicker])]

/-- The supervisor wakes up, subscribes the key and is acknowledged. -/
def servedOps : List RuntimeOp :=
  staleOps ++
    ([.changed, .advance false 0, .advance false 0, .advance false 0,
      .connected 7 ⟨⟨10000, "10s".toList⟩, ⟨60000, "60s".toList⟩⟩,
      .advance false 100, .advance false 100, .sendCommand 200 (.ok ()),
      .frame 300 300 (.ok ()) (.text (.ok bybitAck)), .advance false 300].map
        (.task bybitEndpoint))

end Sample

end MarketStreamGateway
