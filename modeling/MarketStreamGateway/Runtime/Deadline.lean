import MarketStreamGateway.Runtime.Supervisor
import MarketStreamGateway.Providers.Venue
import MarketStreamGateway.Lib.Run

/-!
# Market Stream Gateway — the acknowledgement deadline

`run_connection` keeps a deadline for the acknowledgements it waits for. It is
armed when a command that expects some is sent, cleared when nothing is queued
or pending, and re-armed by an acknowledgement that leaves something to do. The
last rule looks at the queue as well: an acknowledgement that empties the
pending map while commands are still queued arms a deadline that nothing sent
is waiting for.

`AckSafe` excludes that acknowledgement. `Connection.Moved` says what any other
step does to the pending map and the deadline.

Main results:
* `deadline_exact_iff` — the deadline is set exactly while something is pending
  in every state of a run, if and only if every step of the run is safe.
* `deadline_spurious` — a run with a deadline and nothing pending.
-/

namespace MarketStreamGateway

open Lib

/-! ## One step of a connection -/

namespace Connection

variable {a : ProviderAdapter}

/-- The deadline is set exactly while something sent awaits an acknowledgement. -/
def DeadlineExact (c : Connection a) : Prop :=
  c.acknowledgementDeadline.isSome ↔ c.commands.pending ≠ ∅

/-- The pending map and the deadline stay, or they agree afterwards. -/
def Moved (c c' : Connection a) : Prop :=
  (c'.commands.pending = c.commands.pending ∧
    c'.acknowledgementDeadline = c.acknowledgementDeadline) ∨
  c'.DeadlineExact

/-- A move keeps the deadline exact. -/
theorem Moved.exact {c c' : Connection a} (h : c.Moved c') (hExact : c.DeadlineExact) :
    c'.DeadlineExact := by
  rcases h with ⟨hPending, hDeadline⟩ | h
  · rw [DeadlineExact, hPending, hDeadline]
    exact hExact
  · exact h

/-- To stay is to move. -/
theorem Moved.refl (c : Connection a) : c.Moved c := Or.inl ⟨rfl, rfl⟩

/-- `requestId` is the only pending request, and one acknowledgement ends it. -/
def LastAcknowledgement (c : Connection a) (requestId : Text) : Prop :=
  (∃ remaining ≤ 1, c.commands.pending.lookup requestId = some remaining) ∧
  c.commands.pending.erase requestId = ∅

/-- The acknowledgement does not empty the pending map with commands queued. -/
def AckSafe (c : Connection a) (requestId : Text) : Prop :=
  c.commands.queued = [] ∨ ¬ c.LastAcknowledgement requestId

end Connection

/-- The connection a branch hands back, if it keeps one. -/
def Branch.connection {a : ProviderAdapter} : Branch a → Option (Connection a)
  | .stay c | .markLive c _ => some c
  | .exit _ | .fail _ => none

section Steps

variable {a : ProviderAdapter} {c : Connection a}

/-- Enqueueing leaves what is pending alone. -/
theorem enqueue_pending (s : CommandState) (commands : List OutboundCommand) :
    (s.enqueue commands).2.pending = s.pending := by
  induction commands generalizing s with
  | nil => rfl
  | cons command commands ih =>
    rw [CommandState.enqueue]
    split
    · rfl
    · split
      · rfl
      · rw [ih]

/-- Queueing a diff touches neither the pending map nor the deadline. -/
theorem queueSubscriptionDiff_moved (action : SubscriptionAction) (keys : List SubscriptionKey) :
    (c.queueSubscriptionDiff action keys).2.commands.pending = c.commands.pending ∧
    (c.queueSubscriptionDiff action keys).2.acknowledgementDeadline =
      c.acknowledgementDeadline := by
  unfold Connection.queueSubscriptionDiff
  split
  · exact ⟨rfl, rfl⟩
  · split
    · exact ⟨rfl, rfl⟩
    · exact ⟨enqueue_pending _ _, rfl⟩

/-- Queueing the changes of a snapshot touches neither the pending map nor the
deadline. -/
theorem queueChanges_moved (next : Finset SubscriptionKey) :
    (c.queueChanges next).2.commands.pending = c.commands.pending ∧
    (c.queueChanges next).2.acknowledgementDeadline = c.acknowledgementDeadline := by
  simp only [Connection.queueChanges]
  have hFirst := queueSubscriptionDiff_moved (c := c) .unsubscribe (iter (c.desired \ next))
  split
  · next hQueue => rwa [hQueue] at hFirst
  · next c₁ hQueue =>
    rw [hQueue] at hFirst
    have hSecond := queueSubscriptionDiff_moved (c := c₁) .subscribe (iter (next \ c.desired))
    split
    · next hQueue' =>
      rw [hQueue'] at hSecond
      exact ⟨hSecond.1.trans hFirst.1, hSecond.2.trans hFirst.2⟩
    · next c₂ hQueue' =>
      rw [hQueue'] at hSecond
      split <;> exact ⟨hSecond.1.trans hFirst.1, hSecond.2.trans hFirst.2⟩

/-- Once everything is ready nothing is pending. -/
theorem readinessComplete_pending {s : CommandState} (h : s.readinessComplete) :
    s.pending = ∅ := by
  simpa [CommandState.readinessComplete] using (Bool.and_eq_true_iff.mp h).2

/-- A map that something was inserted into is not empty. -/
theorem insert_ne_empty (m : Finmap fun _ : Text => Nat) (id : Text) (n : Nat) :
    m.insert id n ≠ ∅ := by
  intro h
  have hLookup : (m.insert id n).lookup id = some n := Finmap.lookup_insert m
  rw [h] at hLookup
  simp at hLookup

/-- Marking a command as sent makes it pending if it expects an acknowledgement. -/
theorem markSent_pending {s s' : CommandState} {id : Text} {expected : Nat}
    (h : s.markSent id expected = (.ok (), s')) :
    s'.pending = if expected = 0 then s.pending else s.pending.insert id expected := by
  rw [CommandState.markSent] at h
  split at h
  · next hZero =>
    obtain ⟨-, rfl⟩ := Prod.mk.inj h
    rw [if_pos hZero]
  · next hSome =>
    simp only at h
    split at h
    · simp at h
    · obtain ⟨-, rfl⟩ := Prod.mk.inj h
      rw [if_neg hSome]

/-- No deadline is exact with nothing pending. -/
theorem deadlineExact_none {c : Connection a} (hDeadline : c.acknowledgementDeadline = none)
    (hPending : c.commands.pending = ∅) : c.DeadlineExact := by
  simp [Connection.DeadlineExact, hDeadline, hPending]

/-- A deadline is exact with something pending. -/
theorem deadlineExact_some {c : Connection a} (hDeadline : c.acknowledgementDeadline.isSome)
    (hPending : c.commands.pending ≠ ∅) : c.DeadlineExact := by
  simp [Connection.DeadlineExact, hDeadline, hPending]

/-- The send branch moves the connection: a command that is now pending sets
the deadline. -/
theorem sendCommand_moved (now : Nat) (written : Except RuntimeError Unit) {c' : Connection a}
    (h : (c.sendCommand now written).connection = some c') : c.Moved c' := by
  rcases c.sendCommand_cases now written with
    hStay | ⟨error, hFail⟩ | ⟨command, rest, commands, -, hMark, hEnd⟩
  · rw [hStay] at h
    obtain rfl := Option.some.inj h
    exact Connection.Moved.refl c
  · rw [hFail] at h
    simp [Branch.connection] at h
  · rcases hEnd with ⟨hReady, leaving, hLive⟩ | hExit | ⟨hMore, hStay⟩
    · rw [hLive] at h
      obtain rfl := Option.some.inj h
      exact Or.inr (deadlineExact_none rfl (readinessComplete_pending hReady))
    · rw [hExit] at h
      simp [Branch.connection] at h
    · rw [hStay] at h
      obtain rfl := Option.some.inj h
      have hPending := markSent_pending hMark
      by_cases hZero : command.expectedAcknowledgements = 0
      · -- nothing awaited: both stay as they are
        left
        rw [if_pos hZero] at hPending
        exact ⟨hPending, by simp [Connection.afterSend, hZero]⟩
      · right
        rw [if_neg hZero] at hPending
        refine deadlineExact_some ?_ ?_
        · simp [Connection.afterSend, Nat.pos_of_ne_zero hZero]
        · exact hPending ▸ insert_ne_empty _ _ _

/-- An accepted acknowledgement counts one down, and the last one takes the
command out. -/
theorem acknowledge_pending {s s' : CommandState} {id : Text}
    (h : s.acknowledge id = (.ok (), s')) :
    ∃ remaining, s.pending.lookup id = some remaining ∧ s'.queued = s.queued ∧
      s'.pending = if remaining - 1 = 0 then s.pending.erase id
        else s.pending.insert id (remaining - 1) := by
  rw [CommandState.acknowledge] at h
  split at h
  · simp at h
  · next remaining hLookup =>
    refine ⟨remaining, hLookup, ?_⟩
    split at h
    · next hLast =>
      obtain ⟨-, rfl⟩ := Prod.mk.inj h
      rw [if_pos hLast]
      exact ⟨rfl, rfl⟩
    · -- an answer is left to wait for
      next hMore =>
      obtain ⟨-, rfl⟩ := Prod.mk.inj h
      rw [if_neg hMore]
      exact ⟨rfl, rfl⟩

/-- An acknowledgement empties the pending map exactly when it is the last one. -/
theorem acknowledge_pending_eq_empty {id : Text} {s' : CommandState}
    (h : c.commands.acknowledge id = (.ok (), s')) :
    s'.pending = ∅ ↔ c.LastAcknowledgement id := by
  obtain ⟨remaining, hLookup, -, hPending⟩ := acknowledge_pending h
  rw [hPending]
  constructor
  · intro hEmpty
    by_cases hLast : remaining - 1 = 0
    · rw [if_pos hLast] at hEmpty
      exact ⟨⟨remaining, by omega, hLookup⟩, hEmpty⟩
    · rw [if_neg hLast] at hEmpty
      exact absurd hEmpty (insert_ne_empty _ _ _)
  · rintro ⟨⟨r, hLe, hR⟩, hErase⟩
    obtain rfl := Option.some.inj (hLookup.symm.trans hR)
    rw [if_pos (by omega), hErase]

theorem acknowledgement_moved (now : Nat) {requestId : Text} (hSafe : c.AckSafe requestId)
    {c' : Connection a}
    (h : (c.handleProcessedFrame now (.acknowledgement requestId)).connection = some c') :
    c.Moved c' := by
  rcases c.handleProcessedFrame_cases now (.acknowledgement requestId) with
    ⟨-, hNot⟩ | ⟨id, hId, ⟨error, hFail⟩ | ⟨commands, hAck, hEnd⟩⟩
  · exact absurd rfl (hNot requestId)
  · rw [hFail] at h
    simp [Branch.connection] at h
  · obtain rfl := ProcessedFrame.acknowledgement.inj hId
    rcases hEnd with ⟨hReady, -, hStay⟩ | ⟨hReady, hLive⟩ | ⟨hMore, hStay⟩
    · rw [hStay] at h
      obtain rfl := Option.some.inj h
      exact Or.inr (deadlineExact_none rfl (readinessComplete_pending hReady))
    · rw [hLive] at h
      obtain rfl := Option.some.inj h
      exact Or.inr (deadlineExact_none rfl (readinessComplete_pending hReady))
    · rw [hStay] at h
      obtain rfl := Option.some.inj h
      refine Or.inr (deadlineExact_some rfl ?_)
      intro hEmpty
      have hEmpty : commands.pending = ∅ := hEmpty
      obtain ⟨-, -, hQueued, -⟩ := acknowledge_pending hAck
      -- no command was queued, or another answer is awaited
      rcases hSafe with hNone | hNotLast
      · exact hMore (by simp [CommandState.readinessComplete, hQueued, hNone, hEmpty])
      · exact hNotLast ((acknowledge_pending_eq_empty hAck).mp hEmpty)

/-- The acknowledgement that is not safe leaves a deadline and nothing pending. -/
theorem acknowledgement_spurious (now : Nat) {requestId : Text} (hUnsafe : ¬ c.AckSafe requestId) :
    ∃ c', c.handleProcessedFrame now (.acknowledgement requestId) = .stay c' ∧
      ¬ c'.DeadlineExact := by
  rw [Connection.AckSafe, not_or, not_not] at hUnsafe
  obtain ⟨hQueued, hLast⟩ := hUnsafe
  obtain ⟨remaining, hLe, hLookup⟩ := hLast.1
  rcases hAck : c.commands.acknowledge requestId with ⟨error | _, commands⟩
  · rw [CommandState.acknowledge, hLookup] at hAck
    simp only at hAck
    split at hAck <;> simp at hAck
  · obtain ⟨-, -, hKept, -⟩ := acknowledge_pending hAck
    have hEmpty := (acknowledge_pending_eq_empty hAck).mpr hLast
    -- the last answer has come, and a command is queued still
    have hMore : ¬ commands.readinessComplete := by
      simp [CommandState.readinessComplete, hKept, hQueued]
    refine ⟨c.afterAck requestId commands (some (now + c.target.subscriptionAckTimeout.millis)),
      ?_, ?_⟩
    · simp [Connection.handleProcessedFrame, hAck, hMore, Connection.afterAck]
    · simp [Connection.DeadlineExact, Connection.afterAck, hEmpty]

theorem Connection.Parsed.moved {c' : Connection a} (h : c.Parsed c') : c.Moved c' := by
  obtain ⟨session, published, -, rfl⟩ := h
  exact Or.inl ⟨rfl, rfl⟩

/-- A move after parsing is a move. -/
theorem Connection.Parsed.trans_moved {c' c'' : Connection a} (h : c.Parsed c')
    (hMoved : c'.Moved c'') : c.Moved c'' := by
  obtain ⟨session, published, -, rfl⟩ := h
  exact hMoved

/-- Parsing changes neither queue nor pending map, so it does not matter for
what is safe. -/
theorem Connection.Parsed.ackSafe {c' : Connection a} (h : c.Parsed c') {requestId : Text} :
    c'.AckSafe requestId ↔ c.AckSafe requestId := by
  obtain ⟨session, published, -, rfl⟩ := h
  rfl

/-- The frame, if it is an acknowledgement, is a safe one. -/
def Connection.FrameSafe (c : Connection a) (receivedAtMs : Nat) (message : UpstreamMessage) :
    Prop :=
  ∀ text requestId, message = .text (.ok text) →
    (a.parse c.session text receivedAtMs).1 = .ok (.acknowledgement requestId) →
    c.AckSafe requestId

theorem receiveFrame_moved [RustDecimal] (now receivedAtMs : Nat)
    (written : Except RuntimeError Unit) {message : UpstreamMessage}
    (hSafe : c.FrameSafe receivedAtMs message) {c' : Connection a}
    (h : (c.receiveFrame now receivedAtMs written message).1.connection = some c') :
    c.Moved c' := by
  rcases c.receiveFrame_cases now receivedAtMs written message with
    ⟨error, hFail⟩ | ⟨c₁, hParsed, hStay⟩ | ⟨text, requestId, c₁, hText, hAck, hParsed, hHandle⟩
  · rw [hFail] at h
    simp [Branch.connection] at h
  · rw [hStay] at h
    obtain rfl := Option.some.inj h
    exact hParsed.moved
  · rw [hHandle] at h
    have hAckSafe := hParsed.ackSafe.mpr (hSafe text requestId hText hAck)
    exact hParsed.trans_moved (acknowledgement_moved now hAckSafe h)

/-- A frame that is not safe sets the deadline with nothing pending. -/
theorem receiveFrame_spurious [RustDecimal] (now receivedAtMs : Nat)
    (written : Except RuntimeError Unit) {message : UpstreamMessage}
    (hUnsafe : ¬ c.FrameSafe receivedAtMs message) :
    ∃ c', (c.receiveFrame now receivedAtMs written message).1 = .stay c' ∧
      ¬ c'.DeadlineExact := by
  simp only [Connection.FrameSafe, not_forall] at hUnsafe
  obtain ⟨text, requestId, rfl, hAck, hUnsafe⟩ := hUnsafe
  obtain ⟨hParsed, hIff⟩ := c.processText_cases text receivedAtMs
  rcases hText : c.processText text receivedAtMs with ⟨result, c₁⟩
  have hResult : result = .ok (.acknowledgement requestId) := by
    have := (hIff requestId).mpr hAck
    rwa [hText] at this
  subst hResult
  rw [hText] at hParsed
  obtain ⟨c', hStay, hSpurious⟩ :=
    acknowledgement_spurious now (fun h => hUnsafe (hParsed.ackSafe.mp h))
  exact ⟨c', by simp [Connection.receiveFrame, hText, hStay], hSpurious⟩

theorem settle_moved (next : Finset SubscriptionKey) {c' : Connection a}
    (h : (c.settle next).connection = some c') : c.Moved c' := by
  simp only [Connection.settle] at h
  split at h
  · simp [Branch.connection] at h
  · obtain rfl := Option.some.inj h
    exact Or.inl ⟨rfl, rfl⟩

theorem sendHeartbeat_moved (stale : Bool) (written : Except RuntimeError Unit)
    {c' : Connection a} (h : (c.sendHeartbeat stale written).connection = some c') :
    c.Moved c' := by
  simp only [Connection.sendHeartbeat] at h
  split at h
  · simp [Branch.connection] at h
  · split at h
    · obtain rfl := Option.some.inj h
      exact Or.inl ⟨rfl, rfl⟩
    · simp [Branch.connection] at h

/-- A new connection has nothing pending and no deadline. -/
theorem establish_exact {endpoint : EndpointKind} {epoch : Uuid} {target : ConnectionTarget}
    {desired : Finset SubscriptionKey} {result : Except RuntimeError Unit}
    (h : Connection.establish a endpoint epoch target desired = (result, c)) :
    c.DeadlineExact := by
  have hMoved := queueSubscriptionDiff_moved
    (c := ⟨epoch, target, a.session endpoint epoch, .empty, desired, none, false, false, [],
      [], []⟩)
    .subscribe (iter desired)
  rw [Connection.establish] at h
  rw [h] at hMoved
  exact deadlineExact_none hMoved.2 hMoved.1

end Steps

/-! ## One step of a task -/

section Tasks

variable {a : ProviderAdapter}

/-- The connection of a branch is the one in the phase it leads to. -/
theorem Branch.phase_connection (branch : Branch a) :
    branch.phase.connection = branch.connection := by
  cases branch <;> rfl

/-- Nothing that a task does between frames moves its connection otherwise. -/
theorem advance_moved (provider : Provider) (endpoint : EndpointKind)
    (snapshot : Finset SubscriptionKey) (cancelled : Bool) (now : Nat) (h : EndpointHealth)
    {phase : Phase a} {c' : Connection a}
    (hAfter : (Task.advance provider endpoint snapshot cancelled now h phase).2.connection =
      some c') :
    ∃ c, phase.connection = some c ∧ c.Moved c' := by
  cases phase with
  | opened c | looping c | woken c | comparing c next =>
    obtain rfl := Option.some.inj hAfter
    exact ⟨c, rfl, .refl c⟩
  | checking c =>
    refine ⟨c, rfl, ?_⟩
    simp only [Task.advance] at hAfter
    split at hAfter <;> (obtain rfl := Option.some.inj hAfter; exact Or.inl ⟨rfl, rfl⟩)
  | goingLive c leaving =>
    refine ⟨c, rfl, ?_⟩
    simp only [Task.advance] at hAfter
    split at hAfter
    · simp [Phase.connection] at hAfter
    · obtain rfl := Option.some.inj hAfter
      exact Or.inl ⟨rfl, rfl⟩
  | diffing c next =>
    refine ⟨c, rfl, ?_⟩
    -- a diff is queued and not sent yet, so nothing becomes pending
    have hQueue := queueChanges_moved (c := c) next
    simp only [Task.advance] at hAfter
    split at hAfter
    · simp [Phase.connection] at hAfter
    · next c₁ hChanges =>
      rw [hChanges] at hQueue
      obtain rfl := Option.some.inj hAfter
      exact Or.inl hQueue
    · next c₁ hChanges =>
      rw [hChanges] at hQueue
      rw [Branch.phase_connection] at hAfter
      rcases settle_moved next hAfter with ⟨hPending, hDeadline⟩ | hExact
      · exact Or.inl ⟨hPending.trans hQueue.1, hDeadline.trans hQueue.2⟩
      · exact Or.inr hExact
  | demoting c next =>
    refine ⟨c, rfl, ?_⟩
    simp only [Task.advance, Branch.phase_connection] at hAfter
    exact settle_moved next hAfter
  -- the remaining phases have no connection to move
  | counting desired =>
    simp only [Task.advance] at hAfter
    split at hAfter <;> simp [Phase.connection] at hAfter
  | exited reason =>
    cases reason <;> (simp only [Task.advance] at hAfter; split at hAfter <;>
      simp [Phase.connection] at hAfter)
  | failing error =>
    simp only [Task.advance] at hAfter
    split at hAfter
    · simp [Phase.connection] at hAfter
    · split at hAfter <;> simp [Phase.connection] at hAfter
  | observing | idling | waiting | starting | connecting | sleeping | stopping | stopped
  | panicked => simp [Task.advance, Phase.connection] at hAfter

/-- A step of a task moves its connection, unless it handles a frame that is not safe. -/
theorem task_moved [RustDecimal] (provider : Provider) (endpoint : EndpointKind)
    (snapshot : Finset SubscriptionKey) (version : Nat) (h : EndpointHealth) {t : Task a}
    {op : TaskOp}
    (hSafe : ∀ now receivedAtMs written message c, op = .frame now receivedAtMs written message →
      t.phase = .looping c → c.FrameSafe receivedAtMs message)
    {c' : Connection a}
    (hAfter : (t.step provider endpoint snapshot version h op).2.phase.connection = some c') :
    (∃ c, t.phase.connection = some c ∧ c.Moved c') ∨ c'.DeadlineExact := by
  have hStep := t.step_stepped provider endpoint snapshot version h op
  generalize t.step provider endpoint snapshot version h op = after at hStep hAfter
  cases hStep with
  | kept => exact Or.inl ⟨c', hAfter, .refl c'⟩
  | advanced cancelled now => exact Or.inl (advance_moved _ _ _ _ _ _ hAfter)
  -- a connection that was not there before starts exact
  | opened hPhase hEstablish =>
    obtain rfl := Option.some.inj hAfter
    exact Or.inr (establish_exact hEstablish)
  | woken hPhase hSeen =>
    obtain rfl := Option.some.inj hAfter
    exact Or.inl ⟨_, by rw [hPhase]; rfl, .refl _⟩
  | sent now written hPhase =>
    rw [Branch.phase_connection] at hAfter
    exact Or.inl ⟨_, by rw [hPhase]; rfl, sendCommand_moved now written hAfter⟩
  | beat stale written hPhase =>
    rw [Branch.phase_connection] at hAfter
    exact Or.inl ⟨_, by rw [hPhase]; rfl, sendHeartbeat_moved stale written hAfter⟩
  | received now receivedAtMs written message hPhase =>
    rw [Branch.phase_connection] at hAfter
    -- only a frame can set the deadline with nothing pending
    have hFrame := hSafe now receivedAtMs written message _ rfl hPhase
    exact Or.inl ⟨_, by rw [hPhase]; rfl, receiveFrame_moved now receivedAtMs written hFrame hAfter⟩
  | failed | observed | left | slept | stopping => simp [Phase.connection] at hAfter

end Tasks

/-! ## Runs -/

namespace Runtime

variable {adapter : Provider → ProviderAdapter}

/-- Between two iterations of its loop, no connection has a deadline without
something to wait for, or something to wait for without a deadline. -/
def DeadlinesExact (s : Runtime adapter) : Prop :=
  ∀ k c, (s.tasks k).phase = .looping c → c.DeadlineExact

/-- No acknowledgement that ends the only pending request arrives while
commands are queued. -/
def AckSafe (s : Runtime adapter) : RuntimeOp → Prop
  | .task k (.frame _ receivedAtMs _ message) =>
    ∀ c, (s.tasks k).phase = .looping c → c.FrameSafe receivedAtMs message
  | _ => True

variable [RustDecimal]

/-- A task step steps the task of its endpoint. -/
theorem step_task_tasks (s : Runtime adapter) (k : EndpointKey) (op : TaskOp) :
    (s.step (.task k op)).tasks k =
      ((s.tasks k).step k.1 k.2 s.registry.desired s.registry.desiredVersion (s.health k)
        op).2 := by
  simp [step]

/-- A task step leaves the tasks of other endpoints alone. -/
theorem step_task_other (s : Runtime adapter) {k k' : EndpointKey} (hOther : k' ≠ k) (op : TaskOp) :
    (s.step (.task k op)).tasks k' = s.tasks k' := by
  simp [step, hOther]

/-- Every open connection, also in the middle of an iteration. -/
def AllExact (s : Runtime adapter) : Prop :=
  ∀ k c, (s.tasks k).phase.connection = some c → c.DeadlineExact

omit [RustDecimal] in
/-- What holds of every open connection holds of those between two iterations. -/
theorem AllExact.deadlinesExact {s : Runtime adapter} (h : s.AllExact) : s.DeadlinesExact := by
  intro k c hPhase
  exact h k c (by rw [hPhase]; rfl)

/-- A safe step keeps every task exact. -/
theorem step_allExact (s : Runtime adapter) (op : RuntimeOp) (hSafe : s.AckSafe op)
    (h : s.AllExact) : (s.step op).AllExact := by
  cases op with
  | registry op => exact h
  | task k op =>
    intro k' c' hAfter
    by_cases hKey : k' = k
    · subst hKey
      rw [step_task_tasks] at hAfter
      -- only a frame of this connection can break it
      have hFrame : ∀ now receivedAtMs written message c,
          op = .frame now receivedAtMs written message → (s.tasks k').phase = .looping c →
          c.FrameSafe receivedAtMs message := by
        rintro now receivedAtMs written message c rfl hPhase
        exact hSafe c hPhase
      rcases task_moved _ _ _ _ _ hFrame hAfter with ⟨c, hBefore, hMoved⟩ | hExact
      · exact hMoved.exact (h k' c hBefore)
      · exact hExact
    · rw [step_task_other s hKey] at hAfter
      exact h k' c' hAfter

/-- A step after which every deadline is exact was safe. -/
theorem ackSafe_of_deadlinesExact (s : Runtime adapter) (op : RuntimeOp)
    (h : (s.step op).DeadlinesExact) : s.AckSafe op := by
  unfold AckSafe
  split
  · next k now receivedAtMs written message =>
    intro c hPhase
    by_contra hUnsafe
    obtain ⟨c', hStay, hSpurious⟩ := receiveFrame_spurious now receivedAtMs written hUnsafe
    refine hSpurious (h k c' ?_)
    rw [step_task_tasks]
    simp [Task.step, hPhase, hStay, Branch.phase]
  · trivial

end Runtime

/-- **The deadline.** In a run of the runtime, every connection has in every
state between two iterations a deadline exactly while something is pending, if
and only if no acknowledgement of the run ends the only pending request while
commands are still queued. -/
theorem deadline_exact_iff [RustDecimal] (adapter : Provider → ProviderAdapter)
    (registry : SubscriptionRegistry) (ops : List RuntimeOp) :
    EveryState Runtime.step Runtime.DeadlinesExact (Runtime.spawn registry : Runtime adapter) ops ↔
      AllSteps Runtime.step Runtime.AckSafe (Runtime.spawn registry : Runtime adapter) ops := by
  constructor
  · exact allSteps_of_everyState Runtime.ackSafe_of_deadlinesExact
  · intro hSafe
    have hStart : (Runtime.spawn registry : Runtime adapter).AllExact := by
      intro k c hPhase
      simp [Runtime.spawn, Task.start, Phase.connection] at hPhase
    exact everyState_mono (fun _ => Runtime.AllExact.deadlinesExact)
      (everyState_of_allSteps Runtime.step_allExact hStart hSafe)

/-! ## A deadline nothing waits for -/

section Spurious

/-- A MEXC ticker takes two commands. -/
def mexcTicker : SubscriptionKey := ⟨.mexc, .linearPerpetual, "BTC_USDT".toList, .ticker⟩

/-- The text of MEXC's acknowledgement of tickers. -/
def mexcTickerAck : Text := "\x7b\"channel\":\"rs.sub.ticker\",\"data\":\"success\"\x7d".toList

/-- Adapters that read this text and no other. -/
def mexcTickerAdapters : Provider → ProviderAdapter :=
  @configuredAdapter Unicode.ascii
    (.table [(mexcTickerAck, .object [("channel".toList, .string "rs.sub.ticker".toList),
      ("data".toList, .string "success".toList)])]) .silent

/-- Timeouts of ten seconds and of a minute. -/
def mexcTarget : ConnectionTarget := ⟨⟨10000, "10s".toList⟩, ⟨60000, "60s".toList⟩⟩

/-- The first command of the ticker is sent and acknowledged before the second
is sent. -/
def spuriousOps : List RuntimeOp :=
  .registry (.add .declared 1 [mexcTicker]) ::
    ([.advance false 0, .advance false 0, .advance false 0, .connected 7 mexcTarget,
      .advance false 100, .advance false 100, .sendCommand 200 (.ok ()),
      .frame 300 300 (.ok ()) (.text (.ok mexcTickerAck))].map (.task (.mexc, .primary)))

/-- The loop is at a deadline, and nothing is pending. -/
def Phase.spurious {a : ProviderAdapter} : Phase a → Bool
  | .looping c => c.acknowledgementDeadline.isSome && decide (c.commands.pending = ∅)
  | _ => false

/-- A spurious phase is a loop with an inexact deadline. -/
theorem Phase.spurious_spec {a : ProviderAdapter} {phase : Phase a} (h : phase.spurious) :
    ∃ c, phase = .looping c ∧ ¬ c.DeadlineExact := by
  cases phase with
  | looping c =>
    refine ⟨c, rfl, ?_⟩
    rw [Phase.spurious, Bool.and_eq_true, decide_eq_true_eq] at h
    simp [Connection.DeadlineExact, h.1, h.2]
  | _ => simp [Phase.spurious] at h

local instance spuriousDecimal : RustDecimal := .digits

/-- The run does not keep its deadlines exact. -/
theorem deadline_spurious :
    ¬ EveryState Runtime.step Runtime.DeadlinesExact
      (Runtime.spawn (.withProviderLimits 10 (.uniform 1000)) : Runtime mexcTickerAdapters)
      spuriousOps := by
  intro hEvery
  have hLast : ((run Runtime.step
      (Runtime.spawn (.withProviderLimits 10 (.uniform 1000)) : Runtime mexcTickerAdapters)
      spuriousOps).tasks (.mexc, .primary)).phase.spurious := by
    decide +kernel
  obtain ⟨c, hPhase, hSpurious⟩ := Phase.spurious_spec hLast
  exact hSpurious (everyState_run hEvery _ c hPhase)

end Spurious

end MarketStreamGateway
