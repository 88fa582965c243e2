import MarketStreamGateway.Runtime.Calls
import MarketStreamGateway.Lib.Flow

/-!
# Market Stream Gateway — the health entries

The entry of an endpoint is written field by field from five places of its
supervisor, and readers see it between any two of them. Here is what a reader
can rely on.

* The fields of an entry fit together (`EndpointHealth.Coherent`): an epoch is
  shown with the time of the connection, only while the state is connecting or
  live, and no event is shown without it; an error is shown in backoff only, or
  after it.
* Once the supervisor has reported a connection and until the connection ends,
  the entry is about that connection (`EndpointHealth.Shows`), and it says
  "live" exactly when the loop of the connection does. The one exception is the
  moment after a change of the demand was queued: the loop has cleared its flag
  and is about to report that (`demoting`), and the entry may still say "live".
* Where no connection is open, or it is not reported yet, the state is the one of
  the point the supervisor has reached — up to the next report after the end of a
  connection, where the entry is still about that one.

Main result: `health_coherent`, over every run and every interleaving.
-/

namespace MarketStreamGateway

open Lib

/-! ## Entries -/

/-- The fields of an entry fit together. -/
structure EndpointHealth.Coherent (h : EndpointHealth) : Prop where
  paired : h.connectionEpoch.isSome = h.connectedAtMs.isSome
  connected : h.connectionEpoch.isSome → h.state = .connecting ∨ h.state = .live
  live : h.state = .live → h.connectionEpoch.isSome
  event : h.lastEventAtMs.isSome → h.connectionEpoch.isSome
  error : h.lastError.isSome → h.state = .backoff ∨ h.state = .stopped
  backoff : h.state = .backoff → h.lastError.isSome ∧ 0 < h.reconnects

/-- The entry is about a connection: it shows the epoch, and an event only if
the connection has handed one on. -/
structure EndpointHealth.Shows {a : ProviderAdapter} (h : EndpointHealth) (c : Connection a) :
    Prop where
  epoch : h.connectionEpoch = some c.epoch
  event : h.lastEventAtMs.isSome → c.published ≠ []

namespace EndpointHealth

variable {a : ProviderAdapter} {h : EndpointHealth}

/-- A new entry, an idle one and one before an attempt show no connection. -/
theorem coherent_blank {state : ConnectionState} (hState : state ≠ .live ∧ state ≠ .backoff)
    (desired reconnects : Nat) :
    Coherent ⟨state, desired, reconnects, none, none, none, none⟩ :=
  ⟨rfl, nofun, fun hLive => absurd hLive hState.1, nofun, nofun,
    fun hBackoff => absurd hBackoff hState.2⟩

/-- The number of desired subscriptions does not matter for coherence. -/
theorem Coherent.reportDesired (hCoherent : h.Coherent) (desired : Nat) :
    (h.reportDesired desired).Coherent :=
  ⟨hCoherent.paired, hCoherent.connected, hCoherent.live, hCoherent.event, hCoherent.error,
    hCoherent.backoff⟩

/-- An idle entry is coherent. -/
theorem Coherent.reportIdle : h.reportIdle.Coherent := coherent_blank (by decide) _ _

theorem Coherent.reportStarting : h.reportStarting.Coherent := coherent_blank (by decide) _ _

theorem Coherent.reportOpened (epoch : Uuid) (now : Nat) : (h.reportOpened epoch now).Coherent :=
  ⟨rfl, fun _ => Or.inl rfl, nofun, nofun, nofun, nofun⟩

/-- The two reports in the middle of a connection. -/
theorem Coherent.reportChanging (hCoherent : h.Coherent) : h.reportChanging.Coherent :=
  ⟨hCoherent.paired, fun _ => Or.inl rfl, nofun, hCoherent.event, nofun, nofun⟩

theorem Coherent.markLive (hCoherent : h.Coherent) (hEpoch : h.connectionEpoch.isSome) :
    h.markLive.Coherent :=
  ⟨hCoherent.paired, fun _ => Or.inr rfl, fun _ => hEpoch, hCoherent.event, nofun, nofun⟩

theorem Coherent.reportEvent (hCoherent : h.Coherent) (hEpoch : h.connectionEpoch.isSome)
    (receivedAtMs : Nat) : (h.reportEvent receivedAtMs).Coherent :=
  ⟨hCoherent.paired, hCoherent.connected, hCoherent.live, fun _ => hEpoch, hCoherent.error,
    hCoherent.backoff⟩

/-- Also where the cut of the error text panics. -/
theorem Coherent.reportBackoff (error : Text) :
    (h.reportBackoff error).1.Coherent ∧ (h.reportBackoff error).1.state = .backoff := by
  have hReconnects : 0 < min (h.reconnects + 1) u64Max := by
    rw [u64Max]
    omega
  unfold EndpointHealth.reportBackoff EndpointHealth.update
  dsimp only
  split <;>
    exact ⟨⟨rfl, nofun, nofun, nofun, fun _ => Or.inl rfl, fun _ => ⟨rfl, hReconnects⟩⟩, rfl⟩

/-- A backoff leaves no epoch. -/
theorem reportBackoff_epoch (h : EndpointHealth) (error : Text) :
    (h.reportBackoff error).1.connectionEpoch = none := by
  unfold EndpointHealth.reportBackoff EndpointHealth.update
  dsimp only
  split <;> rfl

theorem Coherent.reportStopped : h.reportStopped.Coherent :=
  ⟨rfl, nofun, nofun, nofun, fun _ => Or.inr rfl, nofun⟩

/-- An entry that shows a connection has an epoch. -/
theorem Shows.isSome {c : Connection a} (hShows : h.Shows c) : h.connectionEpoch.isSome := by
  rw [hShows.epoch]
  rfl

/-- The entry is about a connection also later, when it has handed more on. -/
theorem Shows.later {c c' : Connection a} (hShows : h.Shows c) (hEpoch : c'.epoch = c.epoch)
    (hPublished : c.published <+: c'.published) : h.Shows c' := by
  refine ⟨by rw [hEpoch]; exact hShows.epoch, fun hEvent hEmpty => hShows.event hEvent ?_⟩
  rwa [hEmpty, List.prefix_nil] at hPublished

end EndpointHealth

/-! ## Phases -/

section Phases

variable {a : ProviderAdapter} {h : EndpointHealth}

/-- What the entry says at a point of the supervisor. At `demoting` the loop has
taken its flag back and the report of that is next, so the entry may lag behind. -/
def EndpointHealth.Reports (h : EndpointHealth) : Phase a → Prop
  | .connecting _ => h.state = .connecting ∧ h.connectionEpoch = none
  | .opened c => h.state = .connecting ∧ h.connectionEpoch = none ∧ c.live = false
  | .checking c => h.Shows c ∧ h.state = .connecting ∧ c.live = false
  | .looping c | .goingLive c _ | .woken c | .comparing c _ | .diffing c _ =>
    h.Shows c ∧ (h.state = .live ↔ c.live)
  | .demoting c _ => h.Shows c ∧ c.live = false
  | .waiting => h.state = .idle
  | .sleeping | .panicked => h.state = .backoff
  | .stopped => h.state = .stopped
  | .observing | .counting _ | .idling | .starting _ | .exited _ | .failing _ | .stopping => True

/-- The entry of a task in a phase. -/
structure EndpointHealth.Accurate (h : EndpointHealth) (phase : Phase a) : Prop where
  coherent : h.Coherent
  reports : h.Reports phase

/-- A connection that continues another one: the epoch and the flag of the loop
stay, events are only added. -/
structure Connection.Keeps (c c' : Connection a) : Prop where
  epoch : c'.epoch = c.epoch
  live : c'.live = c.live
  published : c.published <+: c'.published

namespace Connection

variable {c c' : Connection a}

/-- Any connection keeps its own epoch and flag. -/
theorem Keeps.refl (c : Connection a) : c.Keeps c := ⟨rfl, rfl, List.prefix_rfl⟩

/-- An entry that shows a connection shows what it becomes. -/
theorem Keeps.shows (hKeeps : c.Keeps c') (hShows : h.Shows c) : h.Shows c' :=
  hShows.later hKeeps.epoch hKeeps.published

/-- An entry that reports a connection reports what it becomes. -/
theorem Keeps.reports (hKeeps : c.Keeps c') (hReports : h.Shows c ∧ (h.state = .live ↔ c.live)) :
    h.Shows c' ∧ (h.state = .live ↔ c'.live) := by
  rw [hKeeps.live]
  exact ⟨hKeeps.shows hReports.1, hReports.2⟩

/-- Queueing a diff keeps epoch and flag. -/
theorem queueSubscriptionDiff_keeps (c : Connection a) (action : SubscriptionAction)
    (subscriptions : List SubscriptionKey) :
    c.Keeps (c.queueSubscriptionDiff action subscriptions).2 := by
  unfold queueSubscriptionDiff
  split
  · exact .refl c
  · split <;> exact ⟨rfl, rfl, List.prefix_rfl⟩

/-- A new connection is not live. -/
theorem establish_live {endpoint : EndpointKind} {epoch : Uuid} {target : ConnectionTarget}
    {desired : Finset SubscriptionKey} {result : Except RuntimeError Unit}
    (h : establish a endpoint epoch target desired = (result, c)) : c.live = false := by
  have hKeeps := queueSubscriptionDiff_keeps
    { epoch, target, session := a.session endpoint epoch
      commands := .empty, desired, acknowledgementDeadline := none, live := false
      idleAfterCommands := false, log := [], diffs := [], published := [] }
    .subscribe (iter desired)
  rw [show queueSubscriptionDiff _ _ _ = (result, c) from h] at hKeeps
  exact hKeeps.live

/-- Queueing a difference clears the flag. -/
theorem queueChanges_keeps (c : Connection a) (next : Finset SubscriptionKey) :
    (∀ c', c.queueChanges next = (.ok false, c') → c.Keeps c') ∧
    ∀ c', c.queueChanges next = (.ok true, c') →
      c'.epoch = c.epoch ∧ c.published <+: c'.published ∧ c'.live = false := by
  have hRemove := c.queueSubscriptionDiff_keeps .unsubscribe (iter (c.desired \ next))
  unfold queueChanges
  dsimp only
  generalize c.queueSubscriptionDiff .unsubscribe (iter (c.desired \ next)) = removed at hRemove
  obtain ⟨error | _, c₁⟩ := removed
  · exact ⟨nofun, nofun⟩
  · have hAdd := c₁.queueSubscriptionDiff_keeps .subscribe (iter (next \ c.desired))
    dsimp only
    generalize c₁.queueSubscriptionDiff .subscribe (iter (next \ c.desired)) = added at hAdd
    obtain ⟨error | _, c₂⟩ := added
    · exact ⟨nofun, nofun⟩
    · -- queueing alone leaves the epoch, the flag and what was published
      have hBoth : c.Keeps c₂ :=
        ⟨hAdd.epoch.trans hRemove.epoch, hAdd.live.trans hRemove.live,
          hRemove.published.trans hAdd.published⟩
      dsimp only
      split
      · refine ⟨nofun, fun c' hEq => ?_⟩
        obtain rfl := (Prod.mk.inj hEq).2
        exact ⟨hBoth.epoch, hBoth.published, rfl⟩
      · refine ⟨fun c' hEq => ?_, nofun⟩
        obtain rfl := (Prod.mk.inj hEq).2
        exact hBoth

end Connection

variable {c : Connection a}

/-- A branch that goes on with a connection as it was. -/
theorem Branch.reports {branch : Branch a} (hReports : h.Shows c ∧ (h.state = .live ↔ c.live))
    (hKeeps : ∀ c', branch.phase.connection = some c' → c.Keeps c') : h.Reports branch.phase := by
  cases branch with
  | stay c' | markLive c' leaving => exact (hKeeps c' rfl).reports hReports
  | exit reason => trivial
  | fail error => trivial

/-- A branch that has only to do with commands. -/
theorem Branch.SameStream.keeps {branch : Branch a} (h : branch.SameStream c) :
    ∀ c', branch.phase.connection = some c' → c.Keeps c' := by
  intro c' hc
  obtain ⟨hEpoch, -, hLive, hPublished⟩ := h c' hc
  exact ⟨hEpoch, hLive, hPublished ▸ List.prefix_rfl⟩

theorem sendHeartbeat_keeps (stale : Bool) (written : Except RuntimeError Unit) :
    ∀ c', (c.sendHeartbeat stale written).phase.connection = some c' → c.Keeps c' := by
  intro c' hc
  unfold Connection.sendHeartbeat at hc
  split at hc
  · cases hc
  · dsimp only at hc
    split at hc
    · obtain rfl := Option.some.inj hc
      exact ⟨rfl, rfl, List.prefix_rfl⟩
    · cases hc

section Frames

variable [RustDecimal]

/-- A text is only parsed; it counts as a demanded event only with an event. -/
theorem processText_keeps (text : Text) (receivedAtMs : Nat) :
    c.Keeps (c.processText text receivedAtMs).2 ∧
    ((c.processText text receivedAtMs).1 = .ok .demandedMarketEvent →
      (c.processText text receivedAtMs).2.published ≠ []) := by
  unfold Connection.processText
  rcases a.parse c.session text receivedAtMs with ⟨result, session⟩
  -- only events are published; all else changes the session alone
  have hParsed : ∀ processed : Except RuntimeError ProcessedFrame,
      processed ≠ .ok .demandedMarketEvent → c.Keeps { c with session } ∧
        (processed = .ok .demandedMarketEvent → c.published ≠ []) :=
    fun processed hOther => ⟨⟨rfl, rfl, List.prefix_rfl⟩, fun hEq => absurd hEq hOther⟩
  cases result with
  | ok frame =>
    cases frame with
    | events events =>
      refine ⟨⟨rfl, rfl, List.prefix_append _ _⟩, fun hDemanded hEmpty => ?_⟩
      dsimp only at hDemanded hEmpty
      split at hDemanded
      · next hAny =>
        rw [(List.append_eq_nil_iff.mp hEmpty).2] at hAny
        cases hAny
      · cases hDemanded
    | acknowledgement requestId => exact hParsed _ nofun
    | reply heartbeat => exact hParsed _ nofun
    | pong => exact hParsed _ nofun
    | ignored => exact hParsed _ nofun
  | error error => cases error <;> exact hParsed _ nofun

/-- What a frame comes to: the branch and whether it reports a demanded event. -/
structure Connection.Received (c : Connection a) (result : Branch a × Bool) : Prop where
  keeps : ∀ c', result.1.phase.connection = some c' → c.Keeps c'
  demanded : result.2 → ∃ c', result.1 = .stay c' ∧ c'.published ≠ []

omit [RustDecimal] in
/-- A failed frame branch receives nothing. -/
theorem received_fail (error : RuntimeError) : c.Received (.fail error, false) :=
  ⟨fun c' hc => (by cases hc), fun hDemanded => (by cases hDemanded)⟩

omit [RustDecimal] in
theorem received_stay {c₁ : Connection a} (hKeeps : c.Keeps c₁) : c.Received (.stay c₁, false) := by
  refine ⟨fun c' hc => ?_, fun hDemanded => by cases hDemanded⟩
  obtain rfl := Option.some.inj hc
  exact hKeeps

/-- A frame, with the report of a demanded event. -/
theorem receiveFrame_keeps (now receivedAtMs : Nat) (written : Except RuntimeError Unit)
    (message : UpstreamMessage) :
    c.Received (c.receiveFrame now receivedAtMs written message) := by
  cases message with
  | text decoded =>
    cases decoded with
    | error error => exact received_fail error
    | ok text =>
      obtain ⟨hKeeps, hPublished⟩ := processText_keeps (c := c) text receivedAtMs
      simp only [Connection.receiveFrame]
      generalize c.processText text receivedAtMs = result at hKeeps hPublished
      obtain ⟨error | processed, c₁⟩ := result
      · exact received_fail error
      · cases processed with
        | reply heartbeat =>
          cases written with
          | ok _ => exact received_stay hKeeps
          | error error => exact received_fail error
        | acknowledgement requestId =>
          refine ⟨fun c' hc => ?_, fun hDemanded => by cases hDemanded⟩
          -- an acknowledgement has to do with commands only, after the text was parsed
          have hNext := (handleProcessedFrame_sameStream (c := c₁) now
            (.acknowledgement requestId)).keeps c' hc
          exact ⟨hNext.epoch.trans hKeeps.epoch, hNext.live.trans hKeeps.live,
            hKeeps.published.trans hNext.published⟩
        | demandedMarketEvent =>
          exact ⟨(received_stay hKeeps).keeps, fun _ => ⟨c₁, rfl, hPublished rfl⟩⟩
        | other => exact received_stay hKeeps
  | ping =>
    cases written with
    | ok _ => exact received_stay (.refl c)
    | error error => exact received_fail error
  | pong => exact received_stay (.refl c)
  | close frame => exact received_fail _
  | ended error => exact received_fail error

end Frames

/-! ## Tasks -/

variable {provider : Provider} {endpoint : EndpointKind} {snapshot : Finset SubscriptionKey}

/-- Between frames the entry stays accurate. -/
theorem advance_accurate (cancelled : Bool) (now : Nat) {phase : Phase a}
    (hAccurate : h.Accurate phase) :
    (Task.advance provider endpoint snapshot cancelled now h phase).1.Accurate
      (Task.advance provider endpoint snapshot cancelled now h phase).2 := by
  obtain ⟨hCoherent, hReports⟩ := hAccurate
  cases phase with
  | observing => exact ⟨hCoherent, trivial⟩
  | counting desired =>
    refine ⟨hCoherent.reportDesired _, ?_⟩
    simp only [Task.advance]
    split <;> trivial
  | idling => exact ⟨.reportIdle, rfl⟩
  | starting desired => exact ⟨.reportStarting, rfl, rfl⟩
  | opened c => exact ⟨.reportOpened _ _, ⟨rfl, fun h => by cases h⟩, rfl, hReports.2.2⟩
  | checking c =>
    obtain ⟨hShows, hState, hLive⟩ := hReports
    simp only [Task.advance]
    split
    · exact ⟨hCoherent.markLive hShows.isSome, ⟨hShows.epoch, hShows.event⟩,
        fun _ => rfl, fun _ => rfl⟩
    · refine ⟨hCoherent, hShows, ?_⟩
      rw [hState, hLive]
      decide
  | goingLive c leaving =>
    obtain ⟨hShows, hState⟩ := hReports
    refine ⟨hCoherent.markLive hShows.isSome, ?_⟩
    simp only [Task.advance]
    split
    · trivial
    · exact ⟨⟨hShows.epoch, hShows.event⟩, fun _ => rfl, fun _ => rfl⟩
  | woken c => exact ⟨hCoherent, hReports⟩
  | comparing c next =>
    exact ⟨hCoherent.reportDesired _, ⟨hReports.1.epoch, hReports.1.event⟩, hReports.2⟩
  | diffing c next =>
    -- a difference clears the flag before the entry is told, so only the phase knows
    obtain ⟨hSame, hChanged⟩ := c.queueChanges_keeps next
    simp only [Task.advance]
    split
    · exact ⟨hCoherent, trivial⟩
    · next c' hQueue =>
      obtain ⟨hEpoch, hPublished, hLive⟩ := hChanged c' hQueue
      exact ⟨hCoherent, hReports.1.later hEpoch hPublished, hLive⟩
    · next c' hQueue =>
      exact ⟨hCoherent, Branch.reports ((hSame c' hQueue).reports hReports)
        (settle_sameStream next).keeps⟩
  | demoting c next =>
    obtain ⟨hShows, hLive⟩ := hReports
    -- now the entry is told that it is connecting
    refine ⟨hCoherent.reportChanging, Branch.reports ⟨⟨hShows.epoch, hShows.event⟩, ?_⟩
      (settle_sameStream next).keeps⟩
    rw [hLive]
    constructor
    · intro hAfter
      cases hAfter
    · intro hAfter
      cases hAfter
  | exited reason =>
    cases reason <;> (simp only [Task.advance]; split) <;> exact ⟨hCoherent, trivial⟩
  | failing error =>
    simp only [Task.advance]
    split
    · exact ⟨hCoherent, trivial⟩
    · have hBackoff := EndpointHealth.Coherent.reportBackoff (h := h) error
      split
      · next hReport =>
        rw [hReport] at hBackoff
        exact ⟨hBackoff.1, hBackoff.2⟩
      · next hReport =>
        rw [hReport] at hBackoff
        exact ⟨hBackoff.1, hBackoff.2⟩
  | stopping => exact ⟨.reportStopped, rfl⟩
  | waiting | connecting _ | looping _ | sleeping | stopped | panicked =>
    exact ⟨hCoherent, hReports⟩

/-- A step of a task keeps the entry accurate. -/
theorem task_accurate [RustDecimal] (version : Nat) {t : Task a} (hAccurate : h.Accurate t.phase)
    (op : TaskOp) :
    (t.step provider endpoint snapshot version h op).1.Accurate
      (t.step provider endpoint snapshot version h op).2.phase := by
  have hStep := t.step_stepped provider endpoint snapshot version h op
  generalize t.step provider endpoint snapshot version h op = after at hStep
  have hLooping : ∀ c, t.phase = .looping c → h.Shows c ∧ (h.state = .live ↔ c.live) := by
    intro c hPhase
    have hReports := hAccurate.reports
    rwa [hPhase] at hReports
  cases hStep with
  | kept => exact hAccurate
  | advanced cancelled now => exact advance_accurate cancelled now hAccurate
  | opened hAt hEstablish =>
    have hReports := hAccurate.reports
    rw [hAt] at hReports
    exact ⟨hAccurate.coherent, hReports.1, hReports.2, Connection.establish_live hEstablish⟩
  | woken hAt hSeen => exact ⟨hAccurate.coherent, hLooping _ hAt⟩
  | sent now written hAt =>
    exact ⟨hAccurate.coherent, Branch.reports (hLooping _ hAt)
      (sendCommand_sameStream now written).keeps⟩
  | beat stale written hAt =>
    exact ⟨hAccurate.coherent, Branch.reports (hLooping _ hAt) (sendHeartbeat_keeps stale written)⟩
  | received now receivedAtMs written message hAt =>
    obtain ⟨hShows, hState⟩ := hLooping _ hAt
    obtain ⟨hKeeps, hPublished⟩ := receiveFrame_keeps now receivedAtMs written message
    dsimp only
    split
    · next hDemanded =>
      -- an event is reported only by a frame after which the loop goes on
      obtain ⟨c', hStay, hSome⟩ := hPublished hDemanded
      refine ⟨hAccurate.coherent.reportEvent hShows.isSome _, ?_⟩
      have hNext := hKeeps c' (by rw [hStay]; rfl)
      rw [hStay]
      exact ⟨⟨(hNext.shows hShows).epoch, fun _ => hSome⟩, (hNext.reports ⟨hShows, hState⟩).2⟩
    · exact ⟨hAccurate.coherent, Branch.reports ⟨hShows, hState⟩ hKeeps⟩
  | failed | observed | left | slept | stopping => exact ⟨hAccurate.coherent, trivial⟩

/-! ## The latest connection -/

/-- The epoch a supervisor opens a connection with, going from one phase to the next. -/
def Phase.opening : Phase a → Phase a → List Uuid
  | .connecting _, .opened c => [c.epoch]
  | _, _ => []

/-- The entry and the task have to do with the last of the epochs only. -/
structure EndpointHealth.Latest (h : EndpointHealth) (phase : Phase a) (opened : List Uuid) :
    Prop where
  shown : ∀ epoch, h.connectionEpoch = some epoch → opened.getLast? = some epoch
  current : ∀ c, phase.connection = some c → opened.getLast? = some c.epoch

variable {opened : List Uuid}

/-- A step that goes on with the connection there is, if any. -/
theorem EndpointHealth.Latest.going {h' : EndpointHealth} {phase phase' : Phase a}
    (hLatest : h.Latest phase opened)
    (hShown : ∀ epoch, h'.connectionEpoch = some epoch →
      h.connectionEpoch = some epoch ∨ ∃ c, phase.connection = some c ∧ c.epoch = epoch)
    (hGoing : ∀ c', phase'.connection = some c' →
      ∃ c, phase.connection = some c ∧ c'.epoch = c.epoch) :
    h'.Latest phase' opened := by
  constructor
  · intro epoch hEpoch
    rcases hShown epoch hEpoch with hBefore | ⟨c, hc, rfl⟩
    · exact hLatest.shown epoch hBefore
    · exact hLatest.current c hc
  · intro c' hc'
    obtain ⟨c, hc, hEpoch⟩ := hGoing c' hc'
    rw [hEpoch]
    exact hLatest.current c hc

/-- An internal step shows the epoch of the open connection or none it did not
show before, and opens nothing. -/
theorem advance_latest (cancelled : Bool) (now : Nat) {phase : Phase a}
    (hLatest : h.Latest phase opened) :
    (Task.advance provider endpoint snapshot cancelled now h phase).1.Latest
      (Task.advance provider endpoint snapshot cancelled now h phase).2 opened := by
  refine hLatest.going (fun epoch hEpoch => ?_) (fun c' hc => ?_)
  · -- the epoch of the entry: only opening a connection sets it
    cases phase with
    | opened c => exact Or.inr ⟨c, rfl, Option.some.inj hEpoch⟩
    | checking c =>
      simp only [Task.advance] at hEpoch
      split at hEpoch <;> exact Or.inl hEpoch
    | diffing c next =>
      simp only [Task.advance] at hEpoch
      split at hEpoch <;> exact Or.inl hEpoch
    | exited reason =>
      cases reason <;> exact Or.inl hEpoch
    | failing error =>
      simp only [Task.advance] at hEpoch
      split at hEpoch
      · exact Or.inl hEpoch
      · have hNone := h.reportBackoff_epoch error
        split at hEpoch <;> (next hReport => rw [hReport] at hNone; cases hNone.symm.trans hEpoch)
    | idling | starting _ | stopping => cases hEpoch
    | observing | counting _ | goingLive _ _ | woken _ | comparing _ _ | demoting _ _ | waiting
    | connecting _ | looping _ | sleeping | stopped | panicked => exact Or.inl hEpoch
  · -- the connection of the phase: none is opened between frames
    cases phase with
    | opened c | woken c | comparing c next | looping c =>
      obtain rfl := Option.some.inj hc
      exact ⟨_, rfl, rfl⟩
    | checking c =>
      simp only [Task.advance] at hc
      split at hc <;>
      · obtain rfl := Option.some.inj hc
        exact ⟨_, rfl, rfl⟩
    | goingLive c leaving =>
      simp only [Task.advance] at hc
      split at hc
      · cases hc
      · obtain rfl := Option.some.inj hc
        exact ⟨_, rfl, rfl⟩
    | diffing c next =>
      obtain ⟨hSame, hChanged⟩ := c.queueChanges_keeps next
      simp only [Task.advance] at hc
      split at hc
      · cases hc
      · next c₁ hQueue =>
        obtain rfl := Option.some.inj hc
        exact ⟨c, rfl, (hChanged c₁ hQueue).1⟩
      · next c₁ hQueue =>
        exact ⟨c, rfl, (settle_sameStream next c' hc).epoch.trans (hSame c₁ hQueue).epoch⟩
    | demoting c next => exact ⟨c, rfl, (settle_sameStream next c' hc).epoch⟩
    | counting desired =>
      simp only [Task.advance] at hc
      split at hc <;> cases hc
    | exited reason =>
      cases reason <;> (simp only [Task.advance] at hc; split at hc <;> cases hc)
    | failing error =>
      simp only [Task.advance] at hc
      split at hc
      · cases hc
      · split at hc <;> cases hc
    | observing | starting _ | connecting _ | idling | waiting | sleeping | stopping | stopped
    | panicked => cases hc

/-- A branch of the loop goes on with the same connection. -/
theorem EndpointHealth.Latest.branch {h' : EndpointHealth} {branch : Branch a}
    (hLatest : h.Latest (.looping c) opened) (hShown : h'.connectionEpoch = h.connectionEpoch)
    (hKeeps : ∀ c', branch.phase.connection = some c' → c.Keeps c') :
    h'.Latest branch.phase opened :=
  hLatest.going (fun _ hEpoch => Or.inl (hShown ▸ hEpoch))
    fun c' hc => ⟨c, rfl, (hKeeps c' hc).epoch⟩

/-- Only the end of an attempt opens a connection. -/
theorem opening_eq_nil {phase phase' : Phase a} (h : ∀ desired, phase ≠ .connecting desired) :
    phase.opening phase' = [] := by
  unfold Phase.opening
  split
  · next desired _ => exact absurd rfl (h desired)
  · rfl

/-- No connection is opened by staying in a phase. -/
@[simp] theorem opening_self (phase : Phase a) : phase.opening phase = [] := by
  cases phase <;> rfl

/-- A step of a task keeps the entry at the latest connection. -/
theorem task_latest [RustDecimal] (version : Nat) {t : Task a} (hAccurate : h.Accurate t.phase)
    (hLatest : h.Latest t.phase opened) (op : TaskOp) :
    (t.step provider endpoint snapshot version h op).1.Latest
      (t.step provider endpoint snapshot version h op).2.phase
      (opened ++ t.phase.opening (t.step provider endpoint snapshot version h op).2.phase) := by
  have hStep := t.step_stepped provider endpoint snapshot version h op
  generalize t.step provider endpoint snapshot version h op = after at hStep
  have hQuiet : ∀ phase', (∀ desired, t.phase ≠ .connecting desired) →
      opened ++ t.phase.opening phase' = opened := by
    intro phase' hPhase
    rw [opening_eq_nil hPhase, List.append_nil]
  have hClosed : ∀ phase' : Phase a, phase'.connection = none →
      h.Latest phase' (opened ++ t.phase.opening phase') := by
    intro phase' hNone
    have hNothing : t.phase.opening phase' = [] := by
      unfold Phase.opening
      split
      · cases hNone
      · rfl
    rw [hNothing, List.append_nil]
    exact hLatest.going (fun _ hEpoch => Or.inl hEpoch) (fun c' hc => by rw [hNone] at hc; cases hc)
  cases hStep with
  | kept =>
    rwa [opening_self, List.append_nil]
  | advanced cancelled now =>
    have hNothing : t.phase.opening
        (Task.advance provider endpoint snapshot cancelled now h t.phase).2 = [] := by
      unfold Phase.opening
      split
      · next hAt hOpened =>
        rw [hAt] at hOpened
        cases hOpened
      · rfl
    rw [hNothing, List.append_nil]
    exact advance_latest cancelled now hLatest
  | opened hAt hEstablish =>
    -- nothing was shown while the websocket was opened
    have hReports := hAccurate.reports
    rw [hAt] at hReports
    rw [hAt]
    refine ⟨fun _ hEpoch => ?_, fun c' hc => ?_⟩
    · cases hReports.2.symm.trans hEpoch
    · obtain rfl := Option.some.inj hc
      exact List.getLast?_concat
  | woken hAt hSeen =>
    rw [hQuiet _ (by rw [hAt]; exact nofun)]
    rw [hAt] at hLatest
    exact ⟨hLatest.shown, hLatest.current⟩
  | sent now written hAt =>
    rw [hQuiet _ (by rw [hAt]; exact nofun)]
    rw [hAt] at hLatest
    exact hLatest.branch rfl (sendCommand_sameStream now written).keeps
  | beat stale written hAt =>
    rw [hQuiet _ (by rw [hAt]; exact nofun)]
    rw [hAt] at hLatest
    exact hLatest.branch rfl (sendHeartbeat_keeps stale written)
  | received now receivedAtMs written message hAt =>
    rw [hQuiet _ (by rw [hAt]; exact nofun)]
    rw [hAt] at hLatest
    refine hLatest.branch ?_ (receiveFrame_keeps now receivedAtMs written message).keeps
    split <;> rfl
  | failed | observed | left | slept | stopping => exact hClosed _ rfl

end Phases

/-! ## Runs -/

/-- What an observer of an endpoint sees: the epochs its connections are opened
with. -/
def Runtime.opened [RustDecimal] {adapter : Provider → ProviderAdapter} (k : EndpointKey)
    (s : Runtime adapter) (op : RuntimeOp) : List Uuid :=
  (s.tasks k).phase.opening ((s.step op).tasks k).phase

/-- A step of the runtime keeps every entry accurate and at the latest connection. -/
theorem Runtime.shown_step [RustDecimal] {adapter : Provider → ProviderAdapter} {k : EndpointKey}
    (s : Runtime adapter) (op : RuntimeOp) (opened : List Uuid)
    (h : (s.health k).Accurate (s.tasks k).phase ∧ (s.health k).Latest (s.tasks k).phase opened) :
    ((s.step op).health k).Accurate ((s.step op).tasks k).phase ∧
      ((s.step op).health k).Latest ((s.step op).tasks k).phase (opened ++ s.opened k op) := by
  obtain ⟨hAccurate, hLatest⟩ := h
  cases op with
  | registry op =>
    have hNothing : s.opened k (.registry op) = [] := opening_self _
    rw [hNothing, List.append_nil]
    exact ⟨hAccurate, hLatest⟩
  | task k' op =>
    by_cases hKey : k = k'
    · subst hKey
      simpa [Runtime.opened, Runtime.step] using
        And.intro (task_accurate _ hAccurate op) (task_latest _ hAccurate hLatest op)
    · simpa [Runtime.opened, Runtime.step, hKey] using And.intro hAccurate hLatest

/-- **The health entries.** In every run, whatever the interleaving, the entry of
an endpoint is coherent and says what the point its supervisor has reached is
about; and an epoch it shows is the one of the last connection opened. -/
theorem health_coherent [RustDecimal] (adapter : Provider → ProviderAdapter)
    (registry : SubscriptionRegistry) (ops : List RuntimeOp) (k : EndpointKey) :
    let start : Runtime adapter := .spawn registry
    let s := run Runtime.step start ops
    (s.health k).Accurate (s.tasks k).phase ∧
    (s.health k).Latest (s.tasks k).phase (trace Runtime.step (Runtime.opened k) start ops) := by
  intro start s
  have hStart : (start.health k).Accurate (start.tasks k).phase ∧
      (start.health k).Latest (start.tasks k).phase [] :=
    ⟨⟨EndpointHealth.coherent_blank (by decide) _ _, trivial⟩, nofun, nofun⟩
  exact run_trace_invariant Runtime.shown_step hStart ops

end MarketStreamGateway
