import MarketStreamGateway.Runtime.Commands
import MarketStreamGateway.Lib.Iter

/-!
# Market Stream Gateway — one upstream connection

The state of `run_connection` and the branches of its select loop, up to the
points where a branch touches shared state: the health registry, the desired
watch. Those are the steps of the supervisor task; here is what happens in
between, branch by branch.

`Branch` says how a branch ends: back to the loop, through `mark_live`, out of
the connection, or with an error. Times, decoded frames and the outcome of
socket writes come from outside.

A connection also remembers the diffs it turned into commands and the ledger of
those commands; no branch reads either.
-/

namespace MarketStreamGateway

open Lib

/-- The timings of `ConnectionTarget` the loop compares with. -/
structure ConnectionTarget where
  subscriptionAckTimeout : Duration
  staleAfter : Duration

/-- One call of `queue_subscription_diff`. -/
abbrev Diff := SubscriptionAction × List SubscriptionKey

/-- How a connection can end without an error. -/
inductive ConnectionExit where
  | idle | rotate
  deriving DecidableEq, Repr

/-- What a frame turned out to be. -/
inductive ProcessedFrame where
  | acknowledgement (requestId : Text)
  | demandedMarketEvent
  | reply (heartbeat : Heartbeat)
  | other
  deriving DecidableEq, Repr

/-- A message read from the venue; binary frames come decoded. -/
inductive UpstreamMessage where
  | text (decoded : Except RuntimeError Text)
  | ping
  | pong
  | close (frame : Text)
  | ended (error : RuntimeError)

/-- The state of a connection at its select loop. -/
structure Connection (a : ProviderAdapter) where
  epoch : Uuid
  target : ConnectionTarget
  session : a.Session
  commands : CommandState
  desired : Finset SubscriptionKey
  acknowledgementDeadline : Option Nat
  live : Bool
  idleAfterCommands : Bool
  /-- Every command queued so far, with the diff it comes from. -/
  log : CommandLedger Diff
  diffs : List Diff
  /-- The events handed to the hub. -/
  published : List ProviderEvent

/-- How a branch of the select loop ends. -/
inductive Branch (a : ProviderAdapter) where
  | stay (c : Connection a)
  /-- `mark_live` is next; `leaving` says that the loop ends after it. -/
  | markLive (c : Connection a) (leaving : Bool)
  | exit (exit : ConnectionExit)
  | fail (error : RuntimeError)

/-- The part of a snapshot that one endpoint of a provider serves. -/
def filterDesired (provider : Provider) (a : ProviderAdapter) (endpoint : EndpointKind)
    (snapshot : Finset SubscriptionKey) : Finset SubscriptionKey :=
  snapshot.filter fun subscription =>
    subscription.provider = provider ∧ a.endpointFor subscription.channel = endpoint

namespace Connection

variable {a : ProviderAdapter}

/-- Builds the commands for some subscriptions and queues them; nothing is
built for none. -/
def queueSubscriptionDiff (c : Connection a) (action : SubscriptionAction)
    (subscriptions : List SubscriptionKey) : Except RuntimeError Unit × Connection a :=
  if subscriptions.isEmpty then (.ok (), c)
  else
    match a.subscriptionMessages c.session action subscriptions with
    | (.error error, session) => (.error (.adapter error), { c with session })
    | (.ok messages, session) =>
      let (result, commands) := c.commands.enqueue messages
      (result, { c with
        session, commands
        log := postAll c.log (action, subscriptions) messages
        diffs := c.diffs ++ [(action, subscriptions)] })

/-- `run_connection` up to its first report: a fresh session with the whole
desired set queued. -/
def establish (a : ProviderAdapter) (endpoint : EndpointKind) (epoch : Uuid)
    (target : ConnectionTarget) (desired : Finset SubscriptionKey) :
    Except RuntimeError Unit × Connection a :=
  queueSubscriptionDiff
    { epoch, target, session := a.session endpoint epoch, commands := .empty, desired
      acknowledgementDeadline := none, live := false, idleAfterCommands := false
      log := [], diffs := [], published := [] }
    .subscribe (iter desired)

/-- The command branch: pop, write, mark as sent. `written` is the outcome of
the write. -/
def sendCommand (c : Connection a) (now : Nat) (written : Except RuntimeError Unit) : Branch a :=
  match c.commands.popFront with
  | (none, _) => .stay c
  | (some command, commands) =>
    match written with
    | .error error => .fail error
    | .ok () =>
      match commands.markSent command.requestId command.expectedAcknowledgements with
      | (.error error, _) => .fail error
      | (.ok (), commands) =>
        let deadline := if 0 < command.expectedAcknowledgements
          then some (now + c.target.subscriptionAckTimeout.millis) else c.acknowledgementDeadline
        let leaving := c.idleAfterCommands && !commands.hasQueued
        let sent := { c with commands, log := c.log.send }
        if commands.readinessComplete then
          .markLive { sent with acknowledgementDeadline := none } leaving
        else if leaving then .exit .idle
        else .stay { sent with acknowledgementDeadline := deadline }

/-- The desired-change branch between its two reports: queue the removals, then
the additions. The flag says whether there were any. -/
def queueChanges (c : Connection a) (next : Finset SubscriptionKey) :
    Except RuntimeError Bool × Connection a :=
  let removed := iter (c.desired \ next)
  let added := iter (next \ c.desired)
  match c.queueSubscriptionDiff .unsubscribe removed with
  | (.error error, c) => (.error error, c)
  | (.ok (), c) =>
    match c.queueSubscriptionDiff .subscribe added with
    | (.error error, c) => (.error error, c)
    | (.ok (), c) =>
      if !removed.isEmpty || !added.isEmpty then (.ok true, { c with live := false })
      else (.ok false, c)

/-- The end of the desired-change branch. -/
def settle (c : Connection a) (next : Finset SubscriptionKey) : Branch a :=
  let settled := { c with desired := next, idleAfterCommands := decide (next = ∅) }
  if settled.idleAfterCommands && !settled.commands.hasQueued then .exit .idle else .stay settled

/-- `handle_processed_frame`; a reply is handled where it is written. -/
def handleProcessedFrame (c : Connection a) (now : Nat) : ProcessedFrame → Branch a
  | .acknowledgement requestId =>
    match c.commands.acknowledge requestId with
    | (.error error, _) => .fail error
    | (.ok (), commands) =>
      let answered := { c with commands, log := c.log.acknowledge requestId }
      if commands.readinessComplete then
        let complete := { answered with acknowledgementDeadline := none }
        if c.live then .stay complete else .markLive complete false
      else
        .stay { answered with
          acknowledgementDeadline := some (now + c.target.subscriptionAckTimeout.millis) }
  | .demandedMarketEvent | .reply _ | .other => .stay c

section Frames

variable [RustDecimal]

/-- The event passes `ProviderEvent::validate`. -/
def accepted (event : ProviderEvent) : Bool :=
  match event.validate with
  | .ok () => true
  | .error _ => false

/-- `process_text`: parse a frame, hand the valid events on. -/
def processText (c : Connection a) (text : Text) (receivedAtMs : Nat) :
    Except RuntimeError ProcessedFrame × Connection a :=
  match a.parse c.session text receivedAtMs with
  | (.ok (.events events), session) =>
    let valid := events.filter accepted
    (.ok (if valid.any fun event => event.subscriptionKey ∈ c.desired
        then .demandedMarketEvent else .other),
      { c with session, published := c.published ++ valid })
  | (.ok (.acknowledgement requestId), session) =>
    (.ok (.acknowledgement requestId), { c with session })
  | (.ok (.reply heartbeat), session) => (.ok (.reply heartbeat), { c with session })
  | (.ok .pong, session) | (.ok .ignored, session) => (.ok .other, { c with session })
  | (.error (.commandRejected provider message), session) =>
    (.error (.adapter (.commandRejected provider message)), { c with session })
  | (.error _, session) => (.ok .other, { c with session })

/-- What the frame branch makes of a message, and whether it carried an event
that was asked for. `written` is the outcome of the write it may need. -/
def receiveFrame (c : Connection a) (now receivedAtMs : Nat) (written : Except RuntimeError Unit) :
    UpstreamMessage → Branch a × Bool
  | .text (.error error) => (.fail error, false)
  | .text (.ok text) =>
    match c.processText text receivedAtMs with
    | (.error error, _) => (.fail error, false)
    | (.ok (.reply _), c) =>
      (match written with
        | .ok () => .stay c
        | .error error => .fail error, false)
    | (.ok processed, c) =>
      (c.handleProcessedFrame now processed, processed = .demandedMarketEvent)
  | .ping =>
    (match written with
      | .ok () => .stay c
      | .error error => .fail error, false)
  | .pong => (.stay c, false)
  | .close frame => (.fail (.providerClosed frame), false)
  | .ended error => (.fail error, false)

end Frames

/-- The heartbeat branch. -/
def sendHeartbeat (c : Connection a) (stale : Bool) (written : Except RuntimeError Unit) :
    Branch a :=
  if stale then .fail (.stale c.target.staleAfter)
  else
    let (_, session) := a.heartbeat c.session
    match written with
    | .ok () => .stay { c with session }
    | .error error => .fail error

/-! ## What the branches can do -/

/-- The connection after a command was written and marked. -/
def afterSend (c : Connection a) (commands : CommandState) (deadline : Option Nat) :
    Connection a :=
  { c with commands, log := c.log.send, acknowledgementDeadline := deadline }

/-- The connection after an acknowledgement was taken. -/
def afterAck (c : Connection a) (requestId : Text) (commands : CommandState)
    (deadline : Option Nat) : Connection a :=
  { c with commands, log := c.log.acknowledge requestId, acknowledgementDeadline := deadline }

/-- The send branch stays, fails or books the first command. -/
theorem sendCommand_cases (c : Connection a) (now : Nat) (written : Except RuntimeError Unit) :
    c.sendCommand now written = .stay c ∨ (∃ error, c.sendCommand now written = .fail error) ∨
    ∃ command rest commands, c.commands.queued = command :: rest ∧
      CommandState.markSent { c.commands with queued := rest } command.requestId
        command.expectedAcknowledgements = (.ok (), commands) ∧
      ((commands.readinessComplete ∧ ∃ leaving,
          c.sendCommand now written = .markLive (c.afterSend commands none) leaving) ∨
        c.sendCommand now written = .exit .idle ∨
        (¬ commands.readinessComplete ∧ c.sendCommand now written =
          .stay (c.afterSend commands (if 0 < command.expectedAcknowledgements
            then some (now + c.target.subscriptionAckTimeout.millis)
            else c.acknowledgementDeadline)))) := by
  cases hQueued : c.commands.queued with
  | nil =>
    left
    simp [sendCommand, CommandState.popFront, hQueued]
  | cons command rest =>
    right
    have hPop : c.commands.popFront = (some command, { c.commands with queued := rest }) := by
      simp [CommandState.popFront, hQueued]
    cases written with
    | error error => exact Or.inl ⟨error, by simp [sendCommand, hPop]⟩
    | ok _ =>
      rcases hMark : CommandState.markSent { c.commands with queued := rest } command.requestId
        command.expectedAcknowledgements with ⟨error | _, commands⟩
      · exact Or.inl ⟨error, by simp [sendCommand, hPop, hMark]⟩
      · right
        refine ⟨command, rest, commands, rfl, hMark, ?_⟩
        by_cases hReady : commands.readinessComplete
        · refine Or.inl ⟨hReady, c.idleAfterCommands && !commands.hasQueued, ?_⟩
          simp [sendCommand, hPop, hMark, hReady, afterSend]
        · -- an idle connection leaves after its last command, acknowledged or not
          by_cases hLeaving : c.idleAfterCommands && !commands.hasQueued
          · refine Or.inr (Or.inl ?_)
            simp only [sendCommand, hPop, hMark]
            rw [if_neg hReady, if_pos hLeaving]
          · refine Or.inr (Or.inr ⟨hReady, ?_⟩)
            simp only [sendCommand, hPop, hMark]
            rw [if_neg hReady, if_neg hLeaving]
            rfl

/-- A parsed frame acknowledges a command, or the loop goes on without a change. -/
theorem handleProcessedFrame_cases (c : Connection a) (now : Nat) (processed : ProcessedFrame) :
    (c.handleProcessedFrame now processed = .stay c ∧
      ∀ requestId, processed ≠ .acknowledgement requestId) ∨
    ∃ requestId, processed = .acknowledgement requestId ∧
      ((∃ error, c.handleProcessedFrame now processed = .fail error) ∨
      ∃ commands, c.commands.acknowledge requestId = (.ok (), commands) ∧
        ((commands.readinessComplete ∧ c.live ∧
            c.handleProcessedFrame now processed = .stay (c.afterAck requestId commands none)) ∨
          (commands.readinessComplete ∧ c.handleProcessedFrame now processed =
            .markLive (c.afterAck requestId commands none) false) ∨
          (¬ commands.readinessComplete ∧ c.handleProcessedFrame now processed =
            .stay (c.afterAck requestId commands
              (some (now + c.target.subscriptionAckTimeout.millis)))))) := by
  cases processed with
  | acknowledgement requestId =>
    refine Or.inr ⟨requestId, rfl, ?_⟩
    rcases hAck : c.commands.acknowledge requestId with ⟨error | _, commands⟩
    · exact Or.inl ⟨error, by simp [handleProcessedFrame, hAck]⟩
    · refine Or.inr ⟨commands, rfl, ?_⟩
      -- the last acknowledgement marks the connection live, unless it is already
      by_cases hReady : commands.readinessComplete
      · by_cases hLive : c.live
        · exact Or.inl ⟨hReady, hLive,
            by simp [handleProcessedFrame, hAck, hReady, hLive, afterAck]⟩
        · refine Or.inr (Or.inl ⟨hReady, ?_⟩)
          simp [handleProcessedFrame, hAck, hReady, hLive, afterAck]
      · refine Or.inr (Or.inr ⟨hReady, ?_⟩)
        simp [handleProcessedFrame, hAck, hReady, afterAck]
  | demandedMarketEvent => exact Or.inl ⟨rfl, by simp⟩
  | reply heartbeat => exact Or.inl ⟨rfl, by simp⟩
  | other => exact Or.inl ⟨rfl, by simp⟩

/-- A connection that differs from another only in what it has parsed: by the
session after a frame and by the events. -/
def Parsed (c c' : Connection a) : Prop :=
  ∃ session published,
    (session = c.session ∨
      ∃ text receivedAtMs, session = (a.parse c.session text receivedAtMs).2) ∧
    c' = { c with session, published }

/-- Parsing a text is parsing it in the session, and so are its acknowledgements. -/
theorem processText_cases [RustDecimal] (c : Connection a) (text : Text) (receivedAtMs : Nat) :
    c.Parsed (c.processText text receivedAtMs).2 ∧
    ∀ requestId, (c.processText text receivedAtMs).1 = .ok (.acknowledgement requestId) ↔
      (a.parse c.session text receivedAtMs).1 = .ok (.acknowledgement requestId) := by
  unfold processText
  rcases hParse : a.parse c.session text receivedAtMs with ⟨result, session⟩
  -- whatever comes of it, the session has parsed the text
  have hSession : session = c.session ∨
      ∃ text receivedAtMs, session = (a.parse c.session text receivedAtMs).2 :=
    Or.inr ⟨text, receivedAtMs, by rw [hParse]⟩
  match result with
  | .ok (.events events) =>
    refine ⟨⟨session, _, hSession, rfl⟩, fun requestId => ?_⟩
    dsimp only
    split <;> simp
  | .ok (.acknowledgement id) => exact ⟨⟨session, _, hSession, rfl⟩, fun requestId => by simp⟩
  | .ok (.reply heartbeat) => exact ⟨⟨session, _, hSession, rfl⟩, fun requestId => by simp⟩
  | .ok .pong => exact ⟨⟨session, _, hSession, rfl⟩, fun requestId => by simp⟩
  | .ok .ignored => exact ⟨⟨session, _, hSession, rfl⟩, fun requestId => by simp⟩
  | .error (.commandRejected provider message) =>
    exact ⟨⟨session, _, hSession, rfl⟩, fun requestId => by simp⟩
  | .error (.unsupportedEndpoint _ _) =>
    exact ⟨⟨session, _, hSession, rfl⟩, fun requestId => by simp⟩
  | .error (.invalidSubscription _ _) =>
    exact ⟨⟨session, _, hSession, rfl⟩, fun requestId => by simp⟩
  | .error (.invalidPayload _ _) => exact ⟨⟨session, _, hSession, rfl⟩, fun requestId => by simp⟩
  | .error (.discovery _ _) => exact ⟨⟨session, _, hSession, rfl⟩, fun requestId => by simp⟩

/-- A frame is handled after parsing: it fails, changes only what is parsed, or
is an acknowledgement. -/
theorem receiveFrame_cases [RustDecimal] (c : Connection a) (now receivedAtMs : Nat)
    (written : Except RuntimeError Unit) (message : UpstreamMessage) :
    (∃ error, (c.receiveFrame now receivedAtMs written message).1 = .fail error) ∨
    (∃ c', c.Parsed c' ∧ (c.receiveFrame now receivedAtMs written message).1 = .stay c') ∨
    ∃ text requestId c', message = .text (.ok text) ∧
      (a.parse c.session text receivedAtMs).1 = .ok (.acknowledgement requestId) ∧ c.Parsed c' ∧
      (c.receiveFrame now receivedAtMs written message).1 =
        c'.handleProcessedFrame now (.acknowledgement requestId) := by
  have hSelf : c.Parsed c := ⟨c.session, c.published, Or.inl rfl, rfl⟩
  match message with
  | .text (.error error) => exact Or.inl ⟨error, rfl⟩
  | .ping =>
    cases written with
    | ok _ => exact Or.inr (Or.inl ⟨c, hSelf, rfl⟩)
    | error error => exact Or.inl ⟨error, rfl⟩
  | .pong => exact Or.inr (Or.inl ⟨c, hSelf, rfl⟩)
  | .close frame => exact Or.inl ⟨_, rfl⟩
  | .ended error => exact Or.inl ⟨error, rfl⟩
  | .text (.ok text) =>
    -- a text that was parsed is the only message with something to handle
    obtain ⟨hParsed, hAck⟩ := processText_cases c text receivedAtMs
    simp only [receiveFrame]
    rcases hText : c.processText text receivedAtMs with ⟨error | processed, c'⟩
    · exact Or.inl ⟨error, rfl⟩
    · rw [hText] at hParsed hAck
      cases processed with
      | reply heartbeat =>
        cases written with
        | ok _ => exact Or.inr (Or.inl ⟨c', hParsed, rfl⟩)
        | error error => exact Or.inl ⟨error, rfl⟩
      | acknowledgement requestId =>
        exact Or.inr (Or.inr ⟨text, requestId, c', rfl, (hAck requestId).mp rfl, hParsed, rfl⟩)
      | demandedMarketEvent => exact Or.inr (Or.inl ⟨c', hParsed, rfl⟩)
      | other => exact Or.inr (Or.inl ⟨c', hParsed, rfl⟩)

end Connection

end MarketStreamGateway
