import MarketStreamGateway.Runtime.Supervisor
import MarketStreamGateway.Feeds.Session

/-!
# Market Stream Gateway — the session of a connection

`run_connection` makes one session when the websocket opens and from then on
only calls it: to parse frames, to build subscription commands, for heartbeats.
So whatever a supervisor does, the session of its connection is the one of that
epoch after some calls, which is what the results about sessions are about.

Main result: `session_calls` — in every run the session of an open connection is
`sessionAfter` its epoch and the calls made so far.
-/

namespace MarketStreamGateway

open Lib

/-! ## Branches -/

section Branches

variable {a : ProviderAdapter} {c c' : Connection a}

/-- What the commands of a connection have nothing to do with. -/
structure Connection.SameStream (c c' : Connection a) : Prop where
  epoch : c'.epoch = c.epoch
  session : c'.session = c.session
  live : c'.live = c.live
  published : c'.published = c.published

/-- The connection a branch goes on with is the same but for its commands. -/
def Branch.SameStream (c : Connection a) (branch : Branch a) : Prop :=
  ∀ c', branch.phase.connection = some c' → c.SameStream c'

/-- Staying on the same stream is on the same stream. -/
theorem Branch.SameStream.stay (h : c.SameStream c') : (Branch.stay c').SameStream c := by
  intro c'' hc
  obtain rfl := Option.some.inj hc
  exact h

/-- Going live leaves the stream the same. -/
theorem Branch.SameStream.markLive (h : c.SameStream c') (leaving : Bool) :
    (Branch.markLive c' leaving).SameStream c := by
  intro c'' hc
  obtain rfl := Option.some.inj hc
  exact h

theorem Connection.afterSend_sameStream (c : Connection a) (commands : CommandState)
    (deadline : Option Nat) : c.SameStream (c.afterSend commands deadline) := ⟨rfl, rfl, rfl, rfl⟩

theorem Connection.afterAck_sameStream (c : Connection a) (requestId : Text)
    (commands : CommandState) (deadline : Option Nat) :
    c.SameStream (c.afterAck requestId commands deadline) := ⟨rfl, rfl, rfl, rfl⟩

theorem settle_sameStream (next : Finset SubscriptionKey) : (c.settle next).SameStream c := by
  unfold Connection.settle
  dsimp only
  split
  · exact nofun
  · exact .stay ⟨rfl, rfl, rfl, rfl⟩

theorem sendCommand_sameStream (now : Nat) (written : Except RuntimeError Unit) :
    (c.sendCommand now written).SameStream c := by
  rcases c.sendCommand_cases now written with
    hStay | ⟨error, hFail⟩ | ⟨command, rest, commands, -, -, hEnd⟩
  · rw [hStay]
    exact .stay ⟨rfl, rfl, rfl, rfl⟩
  · rw [hFail]
    exact nofun
  · rcases hEnd with ⟨-, leaving, hLive⟩ | hExit | ⟨-, hStay⟩
    · rw [hLive]
      exact .markLive (c.afterSend_sameStream commands none) leaving
    · rw [hExit]
      exact nofun
    · rw [hStay]
      exact .stay (c.afterSend_sameStream commands _)

theorem handleProcessedFrame_sameStream (now : Nat) (processed : ProcessedFrame) :
    (c.handleProcessedFrame now processed).SameStream c := by
  rcases c.handleProcessedFrame_cases now processed with
    ⟨hStay, -⟩ | ⟨id, -, ⟨error, hFail⟩ | ⟨commands, -, hEnd⟩⟩
  · rw [hStay]
    exact .stay ⟨rfl, rfl, rfl, rfl⟩
  · rw [hFail]
    exact nofun
  · rcases hEnd with ⟨-, -, hStay⟩ | ⟨-, hLive⟩ | ⟨-, hStay⟩
    · rw [hStay]
      exact .stay (c.afterAck_sameStream id commands _)
    · rw [hLive]
      exact .markLive (c.afterAck_sameStream id commands none) false
    · rw [hStay]
      exact .stay (c.afterAck_sameStream id commands _)

end Branches

/-! ## Calls -/

section Connections

variable [Unicode] [JsonText] [RustDecimal] [Serde] {provider : Provider}

/-- The same connection, some calls of its session later. -/
def Connection.Continues (c c' : Connection (configuredAdapter provider)) : Prop :=
  c'.epoch = c.epoch ∧ ∃ calls, c'.session = run (SessionCall.step provider) c.session calls

namespace Connection

variable {c c' c'' : Connection (configuredAdapter provider)}

/-- A connection with the same epoch and session continues the other one
without a call. -/
theorem Continues.of_session (hEpoch : c'.epoch = c.epoch) (hSession : c'.session = c.session) :
    c.Continues c' := ⟨hEpoch, [], hSession⟩

/-- Any connection continues itself. -/
theorem Continues.refl (c : Connection (configuredAdapter provider)) : c.Continues c :=
  .of_session rfl rfl

/-- A continuation can be continued. -/
theorem Continues.trans (h : c.Continues c') (h' : c'.Continues c'') : c.Continues c'' := by
  obtain ⟨hEpoch, calls, hSession⟩ := h
  obtain ⟨hEpoch', calls', hSession'⟩ := h'
  refine ⟨hEpoch'.trans hEpoch, calls ++ calls', ?_⟩
  rw [hSession', hSession, run_append]

/-- A call of the session. -/
theorem Continues.call (call : SessionCall) (hEpoch : c'.epoch = c.epoch)
    (hSession : c'.session = call.step provider c.session) : c.Continues c' :=
  ⟨hEpoch, [call], hSession⟩

/-- Queueing a diff calls the session at most once. -/
theorem queueSubscriptionDiff_continues (c : Connection (configuredAdapter provider))
    (action : SubscriptionAction) (subscriptions : List SubscriptionKey) :
    c.Continues (c.queueSubscriptionDiff action subscriptions).2 := by
  unfold queueSubscriptionDiff
  split
  · exact .refl c
  · have hCall : ((configuredAdapter provider).subscriptionMessages c.session action
        subscriptions).2 =
        (SessionCall.subscriptionMessages action subscriptions).step provider c.session := rfl
    rcases hMessages : (configuredAdapter provider).subscriptionMessages c.session action
      subscriptions with ⟨error | messages, session⟩
    · rw [hMessages] at hCall
      exact .call _ rfl hCall
    · rw [hMessages] at hCall
      exact .call _ rfl hCall

/-- Queueing the changes of a snapshot calls the session at most twice. -/
theorem queueChanges_continues (c : Connection (configuredAdapter provider))
    (next : Finset SubscriptionKey) : c.Continues (c.queueChanges next).2 := by
  unfold queueChanges
  dsimp only
  have hRemove := queueSubscriptionDiff_continues c .unsubscribe (iter (c.desired \ next))
  rcases hRemoved : c.queueSubscriptionDiff .unsubscribe (iter (c.desired \ next)) with
    ⟨error | done, c₁⟩
  · rw [hRemoved] at hRemove
    exact hRemove
  · -- the removals are queued; then the additions
    rw [hRemoved] at hRemove
    have hAdd := queueSubscriptionDiff_continues c₁ .subscribe (iter (next \ c.desired))
    dsimp only
    rcases hAdded : c₁.queueSubscriptionDiff .subscribe (iter (next \ c.desired)) with
      ⟨error | done, c₂⟩
    · rw [hAdded] at hAdd
      exact hRemove.trans hAdd
    · rw [hAdded] at hAdd
      dsimp only
      split
      · exact (hRemove.trans hAdd).trans (.of_session rfl rfl)
      · exact hRemove.trans hAdd

/-- A connection starts with the session of its epoch. -/
theorem establish_session {endpoint : EndpointKind} {epoch : Uuid} {target : ConnectionTarget}
    {desired : Finset SubscriptionKey} {result : Except RuntimeError Unit}
    (h : establish (configuredAdapter provider) endpoint epoch target desired = (result, c)) :
    ∃ calls, c.session = sessionAfter provider endpoint c.epoch calls := by
  obtain ⟨hEpoch, calls, hSession⟩ := @queueSubscriptionDiff_continues _ _ _ _ provider
    { epoch, target, session := (configuredAdapter provider).session endpoint epoch
      commands := .empty, desired, acknowledgementDeadline := none, live := false
      idleAfterCommands := false, log := [], diffs := [], published := [] }
    .subscribe (iter desired)
  unfold establish at h
  rw [h] at hEpoch hSession
  refine ⟨calls, ?_⟩
  rw [hSession, hEpoch]
  rfl

/-- Parsing a frame is a call of the session. -/
theorem parsed_continues (h : c.Parsed c') : c.Continues c' := by
  obtain ⟨session, published, hSession, rfl⟩ := h
  rcases hSession with rfl | ⟨text, receivedAtMs, rfl⟩
  · exact .of_session rfl rfl
  · exact .call (.parse text receivedAtMs) rfl rfl

end Connection

/-- The connection a branch goes on with. -/
def Branch.Continues (c : Connection (configuredAdapter provider))
    (branch : Branch (configuredAdapter provider)) : Prop :=
  ∀ c', branch.phase.connection = some c' → c.Continues c'

variable (c : Connection (configuredAdapter provider))

omit c in
/-- A branch on the same stream continues it without a call. -/
theorem Branch.SameStream.continues {c : Connection (configuredAdapter provider)}
    {branch : Branch (configuredAdapter provider)} (h : branch.SameStream c) :
    branch.Continues c :=
  fun c' hc => .of_session (h c' hc).epoch (h c' hc).session

/-- The heartbeat branch continues the connection. -/
theorem sendHeartbeat_continues (stale : Bool) (written : Except RuntimeError Unit) :
    (c.sendHeartbeat stale written).Continues c := by
  intro c' hc
  unfold Connection.sendHeartbeat at hc
  split at hc
  · cases hc
  · dsimp only at hc
    split at hc
    · obtain rfl := Option.some.inj hc
      exact .call .heartbeat rfl rfl
    · cases hc

theorem receiveFrame_continues (now receivedAtMs : Nat) (written : Except RuntimeError Unit)
    (message : UpstreamMessage) :
    (c.receiveFrame now receivedAtMs written message).1.Continues c := by
  intro c' hc
  rcases c.receiveFrame_cases now receivedAtMs written message with
    ⟨error, hFail⟩ | ⟨c₁, hParsed, hStay⟩ | ⟨text, requestId, c₁, -, -, hParsed, hHandle⟩
  · rw [hFail] at hc
    cases hc
  · rw [hStay] at hc
    obtain rfl := Option.some.inj hc
    exact Connection.parsed_continues hParsed
  · rw [hHandle] at hc
    exact (Connection.parsed_continues hParsed).trans
      ((handleProcessedFrame_sameStream now _).continues c' hc)

end Connections

/-! ## Tasks -/

section Tasks

variable [Unicode] [JsonText] [RustDecimal] [Serde] {provider : Provider}
  {endpoint : EndpointKind}

/-- The session of a connection is that of its epoch after some calls. -/
def Connection.Called (endpoint : EndpointKind) (c : Connection (configuredAdapter provider)) :
    Prop :=
  ∃ calls, c.session = sessionAfter provider endpoint c.epoch calls

/-- The connection of a phase, if there is one, has the session of some calls. -/
def Phase.Called (endpoint : EndpointKind) (phase : Phase (configuredAdapter provider)) : Prop :=
  ∀ c, phase.connection = some c → c.Called endpoint

/-- A continuation of a called connection is called. -/
theorem Connection.Called.continues {c c' : Connection (configuredAdapter provider)}
    (h : c.Called endpoint) (hNext : c.Continues c') : c'.Called endpoint := by
  obtain ⟨calls, hSession⟩ := h
  obtain ⟨hEpoch, more, hMore⟩ := hNext
  refine ⟨calls ++ more, ?_⟩
  rw [hMore, hSession, hEpoch, sessionAfter, sessionAfter, run_append]

/-- A branch that continues a called connection leads to a called phase. -/
theorem Branch.Continues.called {c : Connection (configuredAdapter provider)}
    {branch : Branch (configuredAdapter provider)} (h : branch.Continues c)
    (hCalled : c.Called endpoint) : branch.phase.Called endpoint :=
  fun c' hc => hCalled.continues (h c' hc)

/-- The internal steps. -/
theorem advance_called {snapshot : Finset SubscriptionKey} (cancelled : Bool) (now : Nat)
    {h : EndpointHealth} {phase : Phase (configuredAdapter provider)}
    (hCalled : phase.Called endpoint) :
    (Task.advance provider endpoint snapshot cancelled now h phase).2.Called endpoint := by
  intro c' hc
  cases phase with
  | opened c =>
    obtain rfl := Option.some.inj hc
    exact hCalled c rfl
  | checking c =>
    simp only [Task.advance] at hc
    split at hc
    · obtain rfl := Option.some.inj hc
      exact (hCalled c rfl).continues (.of_session rfl rfl)
    · obtain rfl := Option.some.inj hc
      exact hCalled c rfl
  | goingLive c leaving =>
    simp only [Task.advance] at hc
    split at hc
    · cases hc
    · obtain rfl := Option.some.inj hc
      exact (hCalled c rfl).continues (.of_session rfl rfl)
  | woken c =>
    obtain rfl := Option.some.inj hc
    exact hCalled c rfl
  | comparing c next =>
    obtain rfl := Option.some.inj hc
    exact hCalled c rfl
  | diffing c next =>
    -- the diffs are the only calls between frames
    have hChanges := c.queueChanges_continues next
    simp only [Task.advance] at hc
    split at hc
    · cases hc
    · next c₁ hQueue =>
      rw [hQueue] at hChanges
      obtain rfl := Option.some.inj hc
      exact (hCalled c rfl).continues hChanges
    · next c₁ hQueue =>
      rw [hQueue] at hChanges
      exact (settle_sameStream next).continues.called ((hCalled c rfl).continues hChanges) c' hc
  | demoting c next => exact (settle_sameStream next).continues.called (hCalled c rfl) c' hc
  | looping c =>
    obtain rfl := Option.some.inj hc
    exact hCalled c rfl
  | counting desired =>
    simp only [Task.advance] at hc
    split at hc <;> cases hc
  | exited reason =>
    cases reason <;> (simp only [Task.advance] at hc; split at hc <;> cases hc)
  | failing error =>
    simp only [Task.advance] at hc
    split at hc
    · cases hc
    · split at hc <;> cases hc
  | observing | starting _ | connecting _ | idling | waiting | sleeping | stopping | stopped
  | panicked => cases hc

/-- A step of a task keeps its connection called. -/
theorem task_called {snapshot : Finset SubscriptionKey} (version : Nat) (h : EndpointHealth)
    {t : Task (configuredAdapter provider)} (hCalled : t.phase.Called endpoint) (op : TaskOp) :
    (t.step provider endpoint snapshot version h op).2.phase.Called endpoint := by
  have hStep := t.step_stepped provider endpoint snapshot version h op
  generalize t.step provider endpoint snapshot version h op = after at hStep
  -- the connection of the loop has been called on already
  have hLooping : ∀ c, t.phase = .looping c → c.Called endpoint := by
    intro c hPhase
    exact hCalled c (by rw [hPhase]; rfl)
  cases hStep with
  | kept => exact hCalled
  | advanced cancelled now => exact advance_called cancelled now hCalled
  | opened hAt hEstablish =>
    intro c hc
    obtain rfl := Option.some.inj hc
    exact Connection.establish_session hEstablish
  | woken hAt hSeen =>
    intro c hc
    obtain rfl := Option.some.inj hc
    exact hLooping _ hAt
  | sent now written hAt =>
    exact (sendCommand_sameStream now written).continues.called (hLooping _ hAt)
  | beat stale written hAt =>
    exact (sendHeartbeat_continues _ stale written).called (hLooping _ hAt)
  | received now receivedAtMs written message hAt =>
    exact (receiveFrame_continues _ now receivedAtMs written message).called (hLooping _ hAt)
  | failed | observed | left | slept | stopping =>
    intro c hc
    cases hc

end Tasks

/-! ## Runs -/

variable [Unicode] [JsonText] [RustDecimal] [Serde]

/-- Every session of the runtime has been open for some calls. -/
def Runtime.Called (s : Runtime configuredAdapter) : Prop :=
  ∀ k, (s.tasks k).phase.Called k.2

/-- A step of the runtime keeps every connection called. -/
theorem runtime_step_called {s : Runtime configuredAdapter} (h : s.Called) (op : RuntimeOp) :
    (s.step op).Called := by
  intro k
  cases op with
  | registry op => exact h k
  | task k' op =>
    by_cases hKey : k = k'
    · subst hKey
      simpa [Runtime.step] using task_called _ (s.health k) (h k) op
    · simpa [Runtime.step, hKey] using h k

/-- **The session of a connection**, in every run. -/
theorem session_calls (registry : SubscriptionRegistry) (ops : List RuntimeOp) (k : EndpointKey)
    (c : Connection (configuredAdapter k.1))
    (hOpen : ((run Runtime.step (Runtime.spawn registry) ops).tasks k).phase.connection = some c) :
    c.Called k.2 := by
  have hRun : (run Runtime.step (Runtime.spawn registry) ops : Runtime configuredAdapter).Called :=
    run_invariant (P := Runtime.Called) (fun _ op h => runtime_step_called h op)
      (by intro k c hc; cases hc) ops
  exact hRun k c hOpen

/-- The session stamps the epoch of its connection. -/
theorem Connection.Called.sessionEpoch {provider : Provider} {endpoint : EndpointKind}
    {c : Connection (configuredAdapter provider)} (h : c.Called endpoint) :
    sessionEpoch provider c.session = c.epoch := by
  obtain ⟨calls, hSession⟩ := h
  rw [hSession, sessionEpoch_after]

end MarketStreamGateway
