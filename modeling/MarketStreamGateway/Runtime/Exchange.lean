import MarketStreamGateway.Providers.Venue
import MarketStreamGateway.Runtime.Commands
import MarketStreamGateway.Lib.Run

/-!
# Market Stream Gateway — commands and their acknowledgements

A request id is drawn by a session, travels in a command in the venue's own
format, comes back in an acknowledgement, is recovered by the session's parser
and is matched by the command state. `Exchange` is the session and the command
state with the ledger of everything enqueued; its operations are the diffs, the
sends, the heartbeats and the acknowledgement frames of one connection.

`NativeAck` is a venue's answer to a command, field by field. MEXC answers
carry no id: they come in the order of the subscribe commands, which the
session keeps in a queue of its own, filled when the commands are built.

Main results:
* `parse_nativeAck` — a native answer is parsed into the id of its command.
* `exchange_acknowledges` — in every run in which the venue answers natively,
  every answer is taken, and the exchange is ready exactly when every command
  was sent and fully answered.
-/

namespace MarketStreamGateway

open Lib

-- ---------------------------------------------------------------------------
-- The answers of the venues
-- ---------------------------------------------------------------------------

/-- The value is the venue's acknowledgement of the command. Bybit has two
formats. -/
def NativeAck : Provider → OutboundCommand → Value → Prop
  | .bybit, command, value =>
    value.get "req_id".toList = command.document.get "req_id".toList ∧
    ((value.get "type".toList = none ∧
        value.get "op".toList = command.document.get "op".toList ∧
        value.get "success".toList = some (.bool true)) ∨
      (value.get "type".toList = some (.string "COMMAND_RESP".toList) ∧
        (value.get "data".toList).bind (Value.get "failTopics".toList) = some (.array [])))
  | .binance, command, value =>
    value.get "id".toList = command.document.get "id".toList ∧
    value.get "result".toList = some .null ∧
    value.get "code".toList = none ∧ value.get "error".toList = none
  | .okx, command, value =>
    value.get "id".toList = command.document.get "id".toList ∧
    value.get "event".toList = command.document.get "op".toList
  | .kucoin, command, value =>
    value.get "id".toList = command.document.get "id".toList ∧
    value.get "type".toList = some (.string "ack".toList)
  | .mexc, command, value =>
    value.get "channel".toList =
      (command.document.get "method".toList).map (fun method =>
        .string ("rs.".toList ++ method.asStr.getD [])) ∧
    value.get "data".toList = some (.string "success".toList)
  | .bingx, command, value =>
    value.get "id".toList = command.document.get "id".toList ∧
    value.get "code".toList = some (.number (.posInt 0))

/-- What is used of `serde_json`: a text that is an object starts with a brace,
after white space. -/
def JsonText.ObjectsAreBraced [JsonText] : Prop :=
  ∀ text value, JsonText.fromStr text = .ok value → value.isObject = true →
    (Text.trim text).head? = some '\x7b'

-- ---------------------------------------------------------------------------
-- The commands of the sessions
-- ---------------------------------------------------------------------------

/-- The command was built by a session of the provider whose counter fits in 64
bits. -/
def Built : Provider → OutboundCommand → Prop
  | .bybit, command => ∃ action s topics, BybitSession.nextRequestId s ≤ u64Max ∧
      command = (BybitSession.command action s topics).1
  | .binance, command => ∃ action s batch, BinanceSession.nextRequestId s ≤ u64Max ∧
      command = (BinanceSession.command action s batch).1
  | .okx, command => ∃ action s chunk, OkxSession.nextCommandId s ≤ u64Max ∧
      command = (OkxSession.command action s chunk).1
  | .kucoin, command => ∃ action s topic, KucoinSession.nextRequestId s ≤ u64Max ∧
      command = (KucoinSession.command action s topic).1
  | .mexc, command => ∃ action s native, MexcSession.nextRequestId s ≤ u64Max ∧
      command = (MexcSession.command action s native).1
  | .bingx, command => ∃ action s topic, BingxSession.nextRequestId s ≤ u64Max ∧
      command = (BingxSession.command action s topic).1

/-- A value with a member is an object. -/
theorem isObject_of_get {value member : Value} {key : Text} (h : value.get key = some member) :
    value.isObject = true := by
  cases value with
  | object members => rfl
  | _ => simp [Value.get] at h

/-- An id made of a short word and a 64-bit number is short. -/
theorem id_short {word : Text} {n limit : Nat} (hn : n ≤ u64Max)
    (hWord : Text.byteLen word + 20 ≤ limit) :
    (word ++ Text.ofNat n).isEmpty = false ∧ Text.byteLen (word ++ Text.ofNat n) ≤ limit := by
  have hDigits : Text.byteLen (Text.ofNat n) ≤ 20 := by
    apply Text.byteLen_ofNat_le
    unfold u64Max at hn
    omega
  refine ⟨by simp [Text.ofNat_ne_nil], ?_⟩
  rw [Text.byteLen_append]
  omega

section Parsing

variable {command : OutboundCommand} {value : Value}

/-- An id of at most 36 bytes is Bybit's acknowledgement of the command with that id. -/
theorem bybit_controlAcknowledgement {id : Text}
    (hId : value.get "req_id".toList = some (.string id)) (hSome : id.isEmpty = false)
    (hShort : Text.byteLen id ≤ 36) :
    BybitSession.controlAcknowledgement value = .ok (.acknowledgement id) := by
  unfold BybitSession.controlAcknowledgement
  rw [hId]
  dsimp only [Option.orElse_some, Option.bind_some, Value.asStr]
  rw [hSome, if_pos (by simp [hShort])]

/-- Bybit takes its acknowledgement for that of the command. -/
theorem bybit_parseControl (hBuilt : Built .bybit command) (hAck : NativeAck .bybit command value) :
    BybitSession.parseControl value = some (.ok (.acknowledgement command.requestId)) := by
  obtain ⟨action, s, topics, hCounter, rfl⟩ := hBuilt
  obtain ⟨hId, hForm⟩ := hAck
  have hId : value.get "req_id".toList =
      some (.string ("gateway-".toList ++ Text.ofNat s.nextRequestId)) := hId
  have hShort := @id_short "gateway-".toList s.nextRequestId 36 hCounter (by decide)
  have hControl := bybit_controlAcknowledgement hId hShort.1 hShort.2
  unfold BybitSession.parseControl
  rw [isObject_of_get hId, if_neg (by decide)]
  -- the answer names its operation, or is a command response
  rcases hForm with ⟨hType, hOp, hSuccess⟩ | ⟨hType, hData⟩
  · have hOp : value.get "op".toList = some (.string (BybitSession.operation action)) := hOp
    have hPlain : ¬ ((none : Option Value).bind Value.asStr = some "COMMAND_RESP".toList) := nofun
    have hAccepted : ¬ ((some (Value.bool true)).bind Value.asBool = some false) := by decide
    have hOther : ¬ (BybitSession.operation action = "ping".toList ∨
        BybitSession.operation action = "pong".toList) := by cases action <;> decide
    have hCommand : BybitSession.operation action = "subscribe".toList ∨
        BybitSession.operation action = "unsubscribe".toList := by cases action <;> decide
    rw [hType, hSuccess, hOp, if_neg hPlain]
    simp only [if_neg hAccepted, if_neg hOther, if_pos hCommand]
    exact congrArg some hControl
  · have hResponse : (some (Value.string "COMMAND_RESP".toList)).bind Value.asStr =
        some "COMMAND_RESP".toList := rfl
    rw [hType, hData, if_pos hResponse]
    exact congrArg some hControl

theorem binance_parseControl (hBuilt : Built .binance command)
    (hAck : NativeAck .binance command value) :
    BinanceSession.parseControl value = some (.ok (.acknowledgement command.requestId)) := by
  obtain ⟨action, s, batch, hCounter, rfl⟩ := hBuilt
  obtain ⟨hId, hResult, hCode, hError⟩ := hAck
  have hId : value.get "id".toList = some (.number (.posInt s.nextRequestId)) := hId
  have hResponse : BinanceSession.responseId value = .ok (Text.ofNat s.nextRequestId) := by
    unfold BinanceSession.responseId
    rw [hId]
    rfl
  unfold BinanceSession.parseControl
  rw [hCode, hError, hResult, hResponse]
  rfl

theorem okx_parseCommandResponse (hBuilt : Built .okx command)
    (hAck : NativeAck .okx command value) :
    ∃ event, value.get "event".toList = some event ∧
      OkxSession.parseCommandResponse event value = .ok (.acknowledgement command.requestId) := by
  obtain ⟨action, s, chunk, hCounter, rfl⟩ := hBuilt
  obtain ⟨hId, hEvent⟩ := hAck
  have hId : value.get "id".toList = some (.string (Text.ofNat s.nextCommandId)) := hId
  have hEvent : value.get "event".toList = some (.string (OkxSession.operation action)) := hEvent
  have hShort := @id_short [] s.nextCommandId 32 hCounter (by decide)
  refine ⟨_, hEvent, ?_⟩
  unfold OkxSession.parseCommandResponse
  rw [hId]
  dsimp only [Option.bind_some, Value.asStr]
  rw [if_pos (by cases action <;> decide)]
  rw [List.nil_append] at hShort
  rw [hShort.1, if_pos (by simp [hShort.2])]
  rfl

theorem kucoin_parseControl (hBuilt : Built .kucoin command)
    (hAck : NativeAck .kucoin command value) :
    KucoinSession.parseControl value = some (.ok (.acknowledgement command.requestId)) := by
  obtain ⟨action, s, topic, hCounter, rfl⟩ := hBuilt
  obtain ⟨hId, hType⟩ := hAck
  have hId : value.get "id".toList = some (.string (Text.ofNat s.nextRequestId)) := hId
  have hShort := @id_short [] s.nextRequestId 64 hCounter (by decide)
  rw [List.nil_append] at hShort
  -- the identifier is the number of the request, which is short enough
  have hAcknowledgement : KucoinSession.parseAcknowledgement value =
      .ok (.acknowledgement (Text.ofNat s.nextRequestId)) := by
    unfold KucoinSession.parseAcknowledgement
    rw [hId]
    dsimp only [Option.bind_some, Value.asStr]
    rw [hShort.1, if_pos (by simp [hShort.2])]
  unfold KucoinSession.parseControl
  rw [hType]
  dsimp only
  rw [if_pos rfl]
  exact congrArg some hAcknowledgement

/-- An id of at most 64 bytes with code zero is BingX's acknowledgement of the
command with that id. -/
theorem bingx_parseControl_of {id : Text} (hId : value.get "id".toList = some (.string id))
    (hCode : value.get "code".toList = some (.number (.posInt 0))) (hSome : id.isEmpty = false)
    (hShort : Text.byteLen id ≤ 64) :
    BingxSession.parseControl value = some (.ok (.acknowledgement id)) := by
  unfold BingxSession.parseControl
  rw [hId, hCode]
  dsimp only
  rw [hSome, if_neg (by simp [hShort])]
  rfl

theorem bingx_parseControl (hBuilt : Built .bingx command)
    (hAck : NativeAck .bingx command value) :
    BingxSession.parseControl value = some (.ok (.acknowledgement command.requestId)) := by
  obtain ⟨action, s, topic, hCounter, rfl⟩ := hBuilt
  have hShort := @id_short "gateway-".toList s.nextRequestId 64 hCounter (by decide)
  exact bingx_parseControl_of hAck.1 hAck.2 hShort.1 hShort.2

/-- The channel MEXC answers a command on. -/
def mexcResponse (command : OutboundCommand) : Text :=
  "rs.".toList ++ ((command.document.get "method".toList).bind Value.asStr).getD []

/-- The response to a subscribe command is told from the other frames. -/
theorem mexc_response_sub (method : Text) :
    "rs.".toList ++ ("sub".toList ++ '.' :: method) ≠ "pong".toList ∧
    "rs.".toList ++ ("sub".toList ++ '.' :: method) ≠ "rs.error".toList ∧
    "rs.sub.".toList.isPrefixOf ("rs.".toList ++ ("sub".toList ++ '.' :: method)) = true := by
  refine ⟨fun h => ?_, fun h => ?_, rfl⟩
  · have hFirst : some 'r' = "pong".toList[0]? := congrArg (fun text : Text => text[0]?) h
    exact absurd hFirst (by decide)
  · have hFourth : some 's' = "rs.error".toList[3]? := congrArg (fun text : Text => text[3]?) h
    exact absurd hFourth (by decide)

/-- A text that is not empty is the string that is required. -/
theorem MexcSession.requiredString_of {field text : Text}
    (h : value.get field = some (.string text)) (hSome : text.isEmpty = false) :
    requiredString value field = .ok text := by
  unfold requiredString
  rw [h]
  dsimp only [Option.bind_some, Value.asStr]
  rw [hSome, if_neg (by decide)]

/-- MEXC takes its acknowledgement for that of the oldest pending command of
its channel. -/
theorem mexc_parse [JsonText] [MarketData] {s : MexcSession} {text : Text} (receivedAtMs : Nat)
    (hText : JsonText.fromStr text = .ok value) (hBuilt : Built .mexc command)
    (hExpected : 0 < command.expectedAcknowledgements) (hAck : NativeAck .mexc command value)
    {rest : List PendingAcknowledgement}
    (hPending : s.pendingAcknowledgements = ⟨mexcResponse command, command.requestId⟩ :: rest) :
    s.parse text receivedAtMs =
      (.ok (.acknowledgement command.requestId), { s with pendingAcknowledgements := rest }) := by
  obtain ⟨action, built, native, -, rfl⟩ := hBuilt
  obtain ⟨hChannel, hData⟩ := hAck
  cases action with
  | unsubscribe => exact absurd hExpected (Nat.lt_irrefl 0)
  | subscribe =>
    obtain ⟨hPong, hError, hSub⟩ := mexc_response_sub native.method
    have hChannel : value.get "channel".toList =
        some (.string ("rs.".toList ++ ("sub".toList ++ '.' :: native.method))) := hChannel
    have hPending : s.pendingAcknowledgements =
        ⟨"rs.".toList ++ ("sub".toList ++ '.' :: native.method),
          "mexc-".toList ++ Text.ofNat built.nextRequestId⟩ :: rest := hPending
    show s.parse text receivedAtMs =
      (.ok (.acknowledgement ("mexc-".toList ++ Text.ofNat built.nextRequestId)), _)
    have hNonempty :
        List.isEmpty ("rs.".toList ++ ("sub".toList ++ '.' :: native.method)) = false :=
      rfl
    -- the texts of the frame play no further part
    generalize "rs.".toList ++ ("sub".toList ++ '.' :: native.method) = channel at *
    generalize "mexc-".toList ++ Text.ofNat built.nextRequestId = id at *
    have hAnswered : s.parseAcknowledgement channel value =
        (.ok (.acknowledgement id), { s with pendingAcknowledgements := rest }) := by
      unfold MexcSession.parseAcknowledgement
      rw [MexcSession.requiredString_of hData (by decide)]
      simp [hPending]
    unfold MexcSession.parse
    rw [hText]
    dsimp only
    rw [isObject_of_get hChannel, if_neg (by decide),
      MexcSession.requiredString_of hChannel hNonempty]
    dsimp only
    rw [if_neg hPong, if_neg hError, if_pos hSub, hAnswered]

/-- An answer is an object. -/
theorem nativeAck_isObject {provider : Provider} (hBuilt : Built provider command)
    (hAck : NativeAck provider command value) : value.isObject = true := by
  cases provider with
  | bybit =>
    obtain ⟨action, s, topics, -, rfl⟩ := hBuilt
    have hId : value.get "req_id".toList =
        some (.string ("gateway-".toList ++ Text.ofNat s.nextRequestId)) := hAck.1
    exact isObject_of_get hId
  | binance => exact isObject_of_get hAck.2.1
  | okx =>
    obtain ⟨action, s, chunk, -, rfl⟩ := hBuilt
    have hId : value.get "id".toList = some (.string (Text.ofNat s.nextCommandId)) := hAck.1
    exact isObject_of_get hId
  | kucoin => exact isObject_of_get hAck.2
  | mexc => exact isObject_of_get hAck.2
  | bingx => exact isObject_of_get hAck.2

section Frames

variable [JsonText] [MarketData] {text : Text} (receivedAtMs : Nat)
  (hText : JsonText.fromStr text = .ok value)

include hText

/-- A Bybit session answers its acknowledgement with the id of the command. -/
theorem bybit_parse (s : BybitSession) (hBuilt : Built .bybit command)
    (hAck : NativeAck .bybit command value) :
    s.parse text receivedAtMs = (.ok (.acknowledgement command.requestId), s) := by
  unfold BybitSession.parse
  rw [hText]
  dsimp only
  rw [nativeAck_isObject hBuilt hAck, if_neg (by decide), bybit_parseControl hBuilt hAck]

theorem binance_parse (s : BinanceSession) (hBuilt : Built .binance command)
    (hAck : NativeAck .binance command value) :
    s.parse text receivedAtMs = (.ok (.acknowledgement command.requestId), s) := by
  unfold BinanceSession.parse
  rw [hText]
  dsimp only
  rw [nativeAck_isObject hBuilt hAck, if_neg (by decide), binance_parseControl hBuilt hAck]

theorem okx_parse (hJson : JsonText.ObjectsAreBraced) (s : OkxSession) (hBuilt : Built .okx command)
    (hAck : NativeAck .okx command value) :
    s.parse text receivedAtMs = (.ok (.acknowledgement command.requestId), s) := by
  have hObject := nativeAck_isObject hBuilt hAck
  obtain ⟨event, hEvent, hResponse⟩ := okx_parseCommandResponse hBuilt hAck
  -- an object is not the word of a heartbeat
  have hPong : ¬ Text.trim text = "pong".toList := by
    intro hWord
    have hBrace := hJson text value hText hObject
    rw [hWord] at hBrace
    exact absurd hBrace (by decide)
  unfold OkxSession.parse
  rw [if_neg hPong, hText]
  dsimp only
  rw [hObject, if_neg (by decide), hEvent]
  dsimp only
  rw [hResponse]

theorem kucoin_parse (s : KucoinSession) (hBuilt : Built .kucoin command)
    (hAck : NativeAck .kucoin command value) :
    s.parse text receivedAtMs = (.ok (.acknowledgement command.requestId), s) := by
  unfold KucoinSession.parse
  rw [hText]
  dsimp only
  rw [nativeAck_isObject hBuilt hAck, if_neg (by decide), kucoin_parseControl hBuilt hAck]

theorem bingx_parse (hJson : JsonText.ObjectsAreBraced) (s : BingxSession)
    (hBuilt : Built .bingx command) (hAck : NativeAck .bingx command value) :
    s.parse text receivedAtMs = (.ok (.acknowledgement command.requestId), s) := by
  have hObject := nativeAck_isObject hBuilt hAck
  have hBrace := hJson text value hText hObject
  have hPing : ¬ text = "Ping".toList := by
    rintro rfl
    exact absurd hBrace (by decide)
  have hPong : ¬ text = "Pong".toList := by
    rintro rfl
    exact absurd hBrace (by decide)
  unfold BingxSession.parse
  rw [if_neg hPing, if_neg hPong, hText]
  dsimp only
  rw [hObject, if_neg (by decide), bingx_parseControl hBuilt hAck]

end Frames

end Parsing

-- ---------------------------------------------------------------------------
-- What a session knows
-- ---------------------------------------------------------------------------

/-- The next id is an integer of 64 bits. -/
theorem checkedNext_le (id : Nat) : checkedNext id ≤ u64Max := by
  unfold checkedNext u64Max
  split <;> omega

theorem wrappingNext_le (id : Nat) : wrappingNext id ≤ u64Max := by
  unfold wrappingNext u64Max
  omega

section Building

variable {action : SubscriptionAction} {keys : List SubscriptionKey}
  {messages : List OutboundCommand}

/-- Bybit builds its commands and keeps its counter within 64 bits. -/
theorem bybit_built {s s' : BybitSession} (hCounter : s.nextRequestId ≤ u64Max)
    (h : s.subscriptionMessages action keys = (.ok messages, s')) :
    (∀ command ∈ messages, Built .bybit command) ∧ s'.nextRequestId ≤ u64Max := by
  obtain ⟨rfl, rfl⟩ := Prod.mk.inj (BybitSession.subscriptionMessages_ok h)
  refine issue_all (P := fun s : BybitSession => s.nextRequestId ≤ u64Max) ?_ ?_ _
  · exact fun s topics hs => ⟨⟨action, s, topics, hs, rfl⟩, checkedNext_le _⟩
  · exact hCounter

theorem binance_built {s s' : BinanceSession} (hCounter : s.nextRequestId ≤ u64Max)
    (h : s.subscriptionMessages action keys = (.ok messages, s')) :
    (∀ command ∈ messages, Built .binance command) ∧ s'.nextRequestId ≤ u64Max := by
  obtain ⟨rfl, rfl⟩ := Prod.mk.inj (BinanceSession.subscriptionMessages_ok h)
  refine issue_all (P := fun s : BinanceSession => s.nextRequestId ≤ u64Max) ?_ ?_ _
  · exact fun s batch hs => ⟨⟨action, s, batch, hs, rfl⟩, checkedNext_le _⟩
  · exact hCounter

theorem okx_built {s s' : OkxSession} (hCounter : s.nextCommandId ≤ u64Max)
    (h : s.subscriptionMessages action keys = (.ok messages, s')) :
    (∀ command ∈ messages, Built .okx command) ∧ s'.nextCommandId ≤ u64Max := by
  obtain ⟨_, _, hIssue⟩ := OkxSession.subscriptionMessages_ok h
  obtain ⟨rfl, rfl⟩ := Prod.mk.inj hIssue
  refine issue_all (P := fun s : OkxSession => s.nextCommandId ≤ u64Max) ?_ ?_ _
  · exact fun s chunk hs => ⟨⟨action, s, chunk, hs, rfl⟩, wrappingNext_le _⟩
  · exact hCounter

theorem kucoin_built {s s' : KucoinSession} (hCounter : s.nextRequestId ≤ u64Max)
    (h : s.subscriptionMessages action keys = (.ok messages, s')) :
    (∀ command ∈ messages, Built .kucoin command) ∧ s'.nextRequestId ≤ u64Max := by
  obtain ⟨_, _, hIssue⟩ := KucoinSession.subscriptionMessages_ok h
  obtain ⟨rfl, rfl⟩ := Prod.mk.inj hIssue
  refine issue_all (P := fun s : KucoinSession => s.nextRequestId ≤ u64Max) ?_ ?_ _
  · exact fun s topic hs => ⟨⟨action, s, topic, hs, rfl⟩, wrappingNext_le _⟩
  · exact hCounter

theorem bingx_built [Unicode] {s s' : BingxSession} (hCounter : s.nextRequestId ≤ u64Max)
    (h : s.subscriptionMessages action keys = (.ok messages, s')) :
    (∀ command ∈ messages, Built .bingx command) ∧ s'.nextRequestId ≤ u64Max := by
  obtain ⟨_, _, _, _, _, _, hIssue⟩ := BingxSession.subscriptionMessages_ok h
  obtain ⟨rfl, rfl⟩ := Prod.mk.inj hIssue
  refine issue_all (P := fun s : BingxSession => s.nextRequestId ≤ u64Max) ?_ ?_ _
  · exact fun s topic hs => ⟨⟨action, s, topic, hs, rfl⟩, checkedNext_le _⟩
  · exact hCounter

/-- The commands that expect an answer. -/
def answerable (commands : List OutboundCommand) : List OutboundCommand :=
  commands.filter fun command => decide (0 < command.expectedAcknowledgements)

/-- The queue entry of a command. -/
def mexcPending (command : OutboundCommand) : PendingAcknowledgement :=
  ⟨mexcResponse command, command.requestId⟩

/-- Issuing queues the commands that expect an answer, in their order. -/
theorem mexc_issue_pending (s : MexcSession) (natives : List NativeSubscription) :
    (issue (MexcSession.command action) s natives).2.pendingAcknowledgements =
      s.pendingAcknowledgements ++
        (answerable (issue (MexcSession.command action) s natives).1).map mexcPending := by
  induction natives generalizing s with
  | nil => simp [answerable]
  | cons native natives ih =>
    rw [issue_cons]
    dsimp only
    rw [ih]
    cases action with
    -- only a subscription is answered
    | subscribe =>
      have hFirst : (MexcSession.command .subscribe s native).2.pendingAcknowledgements =
          s.pendingAcknowledgements ++
            [mexcPending (MexcSession.command .subscribe s native).1] := rfl
      have hExpected : 0 < (MexcSession.command .subscribe s native).1.expectedAcknowledgements :=
        Nat.one_pos
      rw [hFirst, List.append_assoc, answerable, answerable,
        List.filter_cons_of_pos (by simpa using hExpected), List.map_cons, List.singleton_append]
    | unsubscribe =>
      have hFirst : (MexcSession.command .unsubscribe s native).2.pendingAcknowledgements =
          s.pendingAcknowledgements := List.append_nil _
      have hExpected : (MexcSession.command .unsubscribe s native).1.expectedAcknowledgements = 0 :=
        rfl
      rw [hFirst, answerable, answerable, List.filter_cons_of_neg (by simp [hExpected])]

/-- MEXC builds its commands, and expects an answer to each that has one. -/
theorem mexc_built {s s' : MexcSession} (hCounter : s.nextRequestId ≤ u64Max)
    (h : s.subscriptionMessages action keys = (.ok messages, s')) :
    (∀ command ∈ messages, Built .mexc command) ∧ s'.nextRequestId ≤ u64Max ∧
      s'.pendingAcknowledgements =
        s.pendingAcknowledgements ++ (answerable messages).map mexcPending := by
  obtain ⟨collected, tickers, -, hIssue⟩ := MexcSession.subscriptionMessages_ok h
  obtain ⟨rfl, rfl⟩ := Prod.mk.inj hIssue
  have hAll : (∀ command ∈ (issue (MexcSession.command action) { s with tickers }
      collected).1, Built .mexc command) ∧
      (issue (MexcSession.command action) { s with tickers } collected).2.nextRequestId ≤
        u64Max := by
    refine issue_all (P := fun s : MexcSession => s.nextRequestId ≤ u64Max) ?_ ?_ _
    · exact fun s native hs => ⟨⟨action, s, native, hs, rfl⟩, wrappingNext_le _⟩
    · exact hCounter
  exact ⟨hAll.1, hAll.2, mexc_issue_pending _ _⟩

/-- A MEXC command expects one answer or none. -/
theorem mexc_expected_le {command : OutboundCommand} (h : Built .mexc command) :
    command.expectedAcknowledgements ≤ 1 := by
  obtain ⟨action, s, native, -, rfl⟩ := h
  cases action with
  | subscribe => exact le_rfl
  | unsubscribe => exact Nat.zero_le 1

end Building

section Sessions

variable [Unicode] [JsonText] [MarketData] {provider : Provider}

/-- What a session knows of the commands without an answer: MEXC keeps their
response channels and ids, in order. -/
def Queues : (provider : Provider) → (configuredAdapter provider).Session →
    List OutboundCommand → Prop
  | .mexc, s, commands => MexcSession.pendingAcknowledgements s = commands.map mexcPending
  | .bybit, _, _ | .binance, _, _ | .okx, _, _ | .kucoin, _, _ | .bingx, _, _ => True

/-- The counter of request ids fits in 64 bits. -/
def Counts64 : (provider : Provider) → (configuredAdapter provider).Session → Prop
  | .bybit, s => BybitSession.nextRequestId s ≤ u64Max
  | .binance, s => BinanceSession.nextRequestId s ≤ u64Max
  | .okx, s => OkxSession.nextCommandId s ≤ u64Max
  | .kucoin, s => KucoinSession.nextRequestId s ≤ u64Max
  | .mexc, s => MexcSession.nextRequestId s ≤ u64Max
  | .bingx, s => BingxSession.nextRequestId s ≤ u64Max

/-- **An answer is understood.** The answer to a command, which for MEXC is the
one the session expects next, is parsed into the id of the command. -/
theorem parse_nativeAck (hJson : JsonText.ObjectsAreBraced)
    {s : (configuredAdapter provider).Session} {command : OutboundCommand}
    {rest : List OutboundCommand} (hBuilt : Built provider command)
    (hExpected : 0 < command.expectedAcknowledgements)
    (hQueues : Queues provider s (command :: rest))
    (hCounts : Counts64 provider s) {text : Text} {value : Value}
    (hText : JsonText.fromStr text = .ok value) (hAck : NativeAck provider command value)
    (receivedAtMs : Nat) :
    ((configuredAdapter provider).parse s text receivedAtMs).1 =
      .ok (.acknowledgement command.requestId) ∧
    Queues provider ((configuredAdapter provider).parse s text receivedAtMs).2 rest ∧
    Counts64 provider ((configuredAdapter provider).parse s text receivedAtMs).2 := by
  cases provider with
  | bybit =>
    have hParse := bybit_parse receivedAtMs hText s hBuilt hAck
    exact ⟨congrArg Prod.fst hParse, trivial, (congrArg Prod.snd hParse) ▸ hCounts⟩
  | binance =>
    have hParse := binance_parse receivedAtMs hText s hBuilt hAck
    exact ⟨congrArg Prod.fst hParse, trivial, (congrArg Prod.snd hParse) ▸ hCounts⟩
  | okx =>
    have hParse := okx_parse receivedAtMs hText hJson s hBuilt hAck
    exact ⟨congrArg Prod.fst hParse, trivial, (congrArg Prod.snd hParse) ▸ hCounts⟩
  | kucoin =>
    have hParse := kucoin_parse receivedAtMs hText s hBuilt hAck
    exact ⟨congrArg Prod.fst hParse, trivial, (congrArg Prod.snd hParse) ▸ hCounts⟩
  | mexc =>
    have hParse := mexc_parse receivedAtMs hText hBuilt hExpected hAck hQueues
    -- MEXC alone takes the answered command off a queue
    refine ⟨congrArg Prod.fst hParse, ?_, ?_⟩
    · exact congrArg (fun result => MexcSession.pendingAcknowledgements (Prod.snd result)) hParse
    · exact Eq.trans_le
        (congrArg (fun result => MexcSession.nextRequestId (Prod.snd result)) hParse) hCounts
  | bingx =>
    have hParse := bingx_parse receivedAtMs hText hJson s hBuilt hAck
    exact ⟨congrArg Prod.fst hParse, trivial, (congrArg Prod.snd hParse) ▸ hCounts⟩

/-- Building appends the commands that expect an answer. -/
theorem subscriptionMessages_built {s s' : (configuredAdapter provider).Session}
    {action : SubscriptionAction} {keys : List SubscriptionKey} {messages : List OutboundCommand}
    {commands : List OutboundCommand} (hCounts : Counts64 provider s)
    (hQueues : Queues provider s commands)
    (h : (configuredAdapter provider).subscriptionMessages s action keys = (.ok messages, s')) :
    (∀ command ∈ messages, Built provider command) ∧ Counts64 provider s' ∧
      Queues provider s' (commands ++ answerable messages) := by
  cases provider with
  | bybit => exact ⟨(bybit_built hCounts h).1, (bybit_built hCounts h).2, trivial⟩
  | binance => exact ⟨(binance_built hCounts h).1, (binance_built hCounts h).2, trivial⟩
  | okx => exact ⟨(okx_built hCounts h).1, (okx_built hCounts h).2, trivial⟩
  | kucoin => exact ⟨(kucoin_built hCounts h).1, (kucoin_built hCounts h).2, trivial⟩
  | bingx => exact ⟨(bingx_built hCounts h).1, (bingx_built hCounts h).2, trivial⟩
  -- only MEXC remembers what it awaits, in the order of its commands
  | mexc =>
    obtain ⟨hBuilt, hCounts', hPending⟩ := mexc_built hCounts h
    refine ⟨hBuilt, hCounts', hPending.trans ?_⟩
    rw [List.map_append]
    exact congrArg (· ++ _) hQueues

/-- A new session has a counter of 64 bits and waits for nothing. -/
theorem session_fresh (provider : Provider) (endpoint : EndpointKind) (epoch : Uuid) :
    Counts64 provider ((configuredAdapter provider).session endpoint epoch) ∧
      Queues provider ((configuredAdapter provider).session endpoint epoch) [] := by
  have hOne : 1 ≤ u64Max := by decide
  cases provider <;> first | exact ⟨hOne, trivial⟩ | exact ⟨hOne, rfl⟩

/-- A heartbeat may draw an id. -/
theorem heartbeat_kept {s : (configuredAdapter provider).Session} {commands : List OutboundCommand}
    (hCounts : Counts64 provider s) (hQueues : Queues provider s commands) :
    Counts64 provider ((configuredAdapter provider).heartbeat s).2 ∧
      Queues provider ((configuredAdapter provider).heartbeat s).2 commands := by
  cases provider with
  | kucoin => exact ⟨wrappingNext_le _, trivial⟩
  | mexc => exact ⟨hCounts, hQueues⟩
  | bybit | binance | okx | bingx => exact ⟨hCounts, trivial⟩

end Sessions

-- ---------------------------------------------------------------------------
-- The commands of a ledger
-- ---------------------------------------------------------------------------

/-- Posting appends an entry for each command. -/
theorem postAll_commands (l : CommandLedger SubscriptionAction) (action : SubscriptionAction)
    (commands : List OutboundCommand) :
    (postAll l action commands).map entryCommand = l.map entryCommand ++ commands := by
  induction commands generalizing l with
  | nil => simp [postAll]
  | cons command commands ih =>
    rw [postAll, List.foldl_cons, ← postAll, ih]
    simp [Ledger.post, entryCommand]

/-- Posted commands wait behind those that have been sent. -/
theorem postAll_inOrder {l : CommandLedger SubscriptionAction} (h : l.SentInOrder)
    (action : SubscriptionAction) (commands : List OutboundCommand) :
    (postAll l action commands).SentInOrder := by
  induction commands generalizing l with
  | nil => exact h
  | cons command commands ih =>
    rw [postAll, List.foldl_cons, ← postAll]
    exact ih (h.post _ _ _)

/-- Posted commands that have an answer are unanswered. -/
theorem postAll_unanswered (l : CommandLedger SubscriptionAction) (action : SubscriptionAction)
    (commands : List OutboundCommand) :
    (postAll l action commands).unanswered.map entryCommand =
      l.unanswered.map entryCommand ++ answerable commands := by
  induction commands generalizing l with
  | nil => simp [postAll, answerable]
  | cons command commands ih =>
    rw [postAll, List.foldl_cons, ← postAll, ih]
    unfold Ledger.post Ledger.unanswered answerable
    rw [List.filter_append, List.map_append, List.append_assoc]
    congr 1
    -- a command that expects no answer is not awaited
    by_cases hExpected : 0 < command.expectedAcknowledgements
    · rw [List.filter_cons_of_pos (by simpa using hExpected),
        List.filter_cons_of_pos (by simpa using hExpected)]
      rfl
    · rw [List.filter_cons_of_neg (by simpa using hExpected),
        List.filter_cons_of_neg (by simpa using hExpected)]
      rfl

/-- Sending changes no command of the ledger. -/
theorem send_commands (l : CommandLedger SubscriptionAction) :
    l.send.map entryCommand = l.map entryCommand := by
  refine updateFirst_map ?_ l
  exact fun _ => rfl

theorem acknowledge_commands (l : CommandLedger SubscriptionAction) (id : Text) :
    (l.acknowledge id).map entryCommand = l.map entryCommand := by
  refine updateFirst_map ?_ l
  exact fun _ => rfl

/-- What was built stays built while the commands are the same. -/
theorem built_of_commands {provider : Provider} {l l' : CommandLedger SubscriptionAction}
    (h : ∀ e ∈ l, Built provider (entryCommand e))
    (hSame : l'.map entryCommand = l.map entryCommand) :
    ∀ e ∈ l', Built provider (entryCommand e) := by
  intro e he
  have hOld : entryCommand e ∈ l.map entryCommand := hSame ▸ List.mem_map_of_mem he
  obtain ⟨e', he', hEq⟩ := List.mem_map.mp hOld
  exact hEq ▸ h e' he'

-- ---------------------------------------------------------------------------
-- The exchange
-- ---------------------------------------------------------------------------

section Exchange

variable [Unicode] [JsonText] [MarketData] {provider : Provider}

/-- One connection: the session, the command state, and the ledger of all that
was enqueued, with its answers. -/
structure Exchange (provider : Provider) where
  session : (configuredAdapter provider).Session
  commands : CommandState
  log : CommandLedger SubscriptionAction

/-- What can happen on a connection with its exchange. -/
inductive ExchangeOp where
  /-- The commands of a diff are built and enqueued. -/
  | diff (action : SubscriptionAction) (keys : List SubscriptionKey)
  /-- The next command is popped, written and marked as sent. -/
  | send
  | beat
  /-- A text frame arrives. -/
  | frame (text : Text) (receivedAtMs : Nat)

namespace Exchange

/-- An exchange that has just been opened. -/
def opened (provider : Provider) (endpoint : EndpointKind) (epoch : Uuid) : Exchange provider :=
  ⟨(configuredAdapter provider).session endpoint epoch, .empty, []⟩

/-- A step of the exchange: the session and the commands together. -/
def step (x : Exchange provider) : ExchangeOp → Exchange provider
  | .diff action keys =>
    match (configuredAdapter provider).subscriptionMessages x.session action keys with
    | (.error _, session) => { x with session }
    | (.ok messages, session) =>
      match x.commands.enqueue messages with
      | (.error _, commands) => ⟨session, commands, x.log⟩
      | (.ok (), commands) => ⟨session, commands, postAll x.log action messages⟩
  | .send =>
    match x.commands.popFront with
    | (none, commands) => { x with commands }
    | (some command, commands) =>
      let (_, commands) :=
        commands.markSent command.requestId command.expectedAcknowledgements
      { x with commands, log := x.log.send }
  | .beat => { x with session := ((configuredAdapter provider).heartbeat x.session).2 }
  | .frame text receivedAtMs =>
    match (configuredAdapter provider).parse x.session text receivedAtMs with
    | (.ok (.acknowledgement requestId), session) =>
      match x.commands.acknowledge requestId with
      | (.error _, commands) => ⟨session, commands, x.log⟩
      | (.ok (), commands) => ⟨session, commands, x.log.acknowledge requestId⟩
    | (_, session) => { x with session }

/-- The command of the entry may be answered now: it was sent and has answers to
come. MEXC answers in the order of the commands. -/
def Answerable (x : Exchange provider) (e : Entry Text (Value × SubscriptionAction)) : Prop :=
  match provider with
  | .mexc => x.log.IsNext e
  | .bybit | .binance | .okx | .kucoin | .bingx => e ∈ x.log ∧ e.awaiting

/-- The text is the venue's answer to the command of the entry. -/
def AnswersWith (x : Exchange provider) (text : Text)
    (e : Entry Text (Value × SubscriptionAction)) :
    Prop :=
  x.Answerable e ∧ ∃ value, JsonText.fromStr text = .ok value ∧
    NativeAck provider (entryCommand e) value

/-- The step is one of a venue that answers natively: diffs are enqueued, and
every frame answers a command. -/
def Native (x : Exchange provider) : ExchangeOp → Prop
  | .diff action keys => ∃ messages session commands,
      (configuredAdapter provider).subscriptionMessages x.session action keys =
        (.ok messages, session) ∧ x.commands.enqueue messages = (.ok (), commands)
  | .frame text _ => ∃ e, x.AnswersWith text e
  | .send | .beat => True

/-- A frame is parsed into the id of the command it answers, and the id is
accepted. -/
def Taken (x : Exchange provider) : ExchangeOp → Prop
  | .frame text receivedAtMs => ∀ e, x.AnswersWith text e →
      ((configuredAdapter provider).parse x.session text receivedAtMs).1 =
        .ok (.acknowledgement e.id) ∧ (x.commands.acknowledge e.id).1 = .ok ()
  | .diff _ _ | .send | .beat => True

/-- The session and the command state agree with the ledger. -/
structure Valid (x : Exchange provider) : Prop where
  tracks : Tracks x.commands x.log
  inOrder : x.log.SentInOrder
  built : ∀ e ∈ x.log, Built provider (entryCommand e)
  counts : Counts64 provider x.session
  queues : Queues provider x.session (x.log.unanswered.map entryCommand)

/-- An exchange starts valid. -/
theorem valid_opened (endpoint : EndpointKind) (epoch : Uuid) :
    (opened provider endpoint epoch).Valid := by
  obtain ⟨hCounts, hQueues⟩ := session_fresh provider endpoint epoch
  exact ⟨tracks_empty, Ledger.sentInOrder_nil, fun e he => absurd he List.not_mem_nil,
    hCounts, hQueues⟩

-- answering

/-- A command that can be answered is in the ledger and awaits acknowledgements. -/
theorem Answerable.mem {x : Exchange provider} {e : Entry Text (Value × SubscriptionAction)}
    (h : x.Answerable e) : e ∈ x.log ∧ e.awaiting := by
  cases provider with
  | mexc => exact ⟨Ledger.IsNext.mem h, Ledger.IsNext.awaiting h⟩
  | _ => exact h

/-- What the session knows of the answers to come stays right when an answer is
parsed. -/
theorem Valid.parse {x : Exchange provider} (h : x.Valid) (hJson : JsonText.ObjectsAreBraced)
    {text : Text} {e : Entry Text (Value × SubscriptionAction)} (hAnswer : x.AnswersWith text e)
    (receivedAtMs : Nat) :
    ∃ session, (configuredAdapter provider).parse x.session text receivedAtMs =
        (.ok (.acknowledgement e.id), session) ∧
      Counts64 provider session ∧
      Queues provider session ((x.log.acknowledge e.id).unanswered.map entryCommand) := by
  obtain ⟨hNext, value, hText, hAck⟩ := hAnswer
  obtain ⟨hMem, hAwait⟩ := hNext.mem
  have hBuilt := h.built e hMem
  have hExpected : 0 < (entryCommand e).expectedAcknowledgements := by
    have hLt : e.sent = true ∧ e.acknowledged < e.expected := by simpa [Entry.awaiting] using hAwait
    show 0 < e.expected
    omega
  -- the session's queue starts with the command, and parsing drops it
  have hQueues : ∃ rest, Queues provider x.session (entryCommand e :: rest) ∧
      ∀ session, Queues provider session rest →
        Queues provider session ((x.log.acknowledge e.id).unanswered.map entryCommand) := by
    cases provider with
    | mexc =>
      obtain ⟨before, after, hLog, -, hBefore⟩ : x.log.IsNext e := hNext
      have hOrder := hLog ▸ h.inOrder
      refine ⟨(Ledger.unanswered after).map entryCommand, ?_, fun session hRest => ?_⟩
      · have hAll := h.queues
        rw [hLog, (hOrder.unanswered_eq hAwait hBefore).1] at hAll
        exact hAll
      · rw [hLog, hOrder.unanswered_acknowledge hAwait hBefore (mexc_expected_le hBuilt)]
        exact hRest
    | bybit | binance | okx | kucoin | bingx => exact ⟨[], trivial, fun _ _ => trivial⟩
  obtain ⟨rest, hFirst, hRest⟩ := hQueues
  obtain ⟨hParsed, hQueued, hCounts⟩ :=
    parse_nativeAck hJson hBuilt hExpected hFirst h.counts hText hAck receivedAtMs
  exact ⟨_, Prod.ext hParsed rfl, hCounts, hRest _ hQueued⟩

/-- An entry that awaits an answer is known to the command state. -/
theorem Valid.acknowledge {x : Exchange provider} (h : x.Valid)
    {e : Entry Text (Value × SubscriptionAction)} (hMem : e ∈ x.log) (hAwait : e.awaiting) :
    ∃ commands, x.commands.acknowledge e.id = (.ok (), commands) := by
  have hPending := (h.tracks.pending e.id _).mpr ⟨e, hMem, hAwait, rfl, rfl⟩
  unfold CommandState.acknowledge
  rw [hPending]
  dsimp only
  split
  · exact ⟨_, rfl⟩
  · exact ⟨_, rfl⟩

/-- A valid exchange takes the answer to a command for what it is. -/
theorem Valid.taken {x : Exchange provider} (h : x.Valid) (hJson : JsonText.ObjectsAreBraced)
    (op : ExchangeOp) : x.Taken op := by
  cases op with
  | frame text receivedAtMs =>
    intro e hAnswer
    obtain ⟨session, hParse, -, -⟩ := h.parse hJson hAnswer receivedAtMs
    obtain ⟨commands, hAck⟩ := h.acknowledge hAnswer.1.mem.1 hAnswer.1.mem.2
    exact ⟨congrArg Prod.fst hParse, congrArg Prod.fst hAck⟩
  | _ => trivial

-- steps

/-- Queueing a diff keeps the exchange valid. -/
theorem Valid.diff {x : Exchange provider} (h : x.Valid) {action : SubscriptionAction}
    {keys : List SubscriptionKey} (hNative : x.Native (.diff action keys)) :
    (x.step (.diff action keys)).Valid := by
  obtain ⟨messages, session, commands, hMessages, hEnqueue⟩ := hNative
  obtain ⟨hBuilt, hCounts, hQueues⟩ := subscriptionMessages_built h.counts h.queues hMessages
  have hStep : x.step (.diff action keys) = ⟨session, commands, postAll x.log action messages⟩ := by
    simp only [step, hMessages, hEnqueue]
  rw [hStep]
  refine ⟨h.tracks.enqueue action hEnqueue, postAll_inOrder h.inOrder _ _, fun e he => ?_, hCounts,
    ?_⟩
  · have hCommand : entryCommand e ∈ x.log.map entryCommand ++ messages := by
      rw [← postAll_commands]
      exact List.mem_map_of_mem he
    -- an earlier command, or one that was built just now
    rcases List.mem_append.mp hCommand with hOld | hNew
    · obtain ⟨e', he', hEq⟩ := List.mem_map.mp hOld
      exact hEq ▸ h.built e' he'
    · exact hBuilt _ hNew
  · show Queues provider session ((postAll x.log action messages).unanswered.map entryCommand)
    rw [postAll_unanswered]
    exact hQueues

theorem Valid.send {x : Exchange provider} (h : x.Valid) : (x.step .send).Valid := by
  unfold step CommandState.popFront
  cases hQueued : x.commands.queued with
  | nil => exact ⟨h.tracks, h.inOrder, h.built, h.counts, h.queues⟩
  | cons command rest =>
    obtain ⟨-, hTracks⟩ := h.tracks.send hQueued rfl
    refine ⟨hTracks, h.inOrder.send, built_of_commands h.built (send_commands _), h.counts, ?_⟩
    show Queues provider x.session (x.log.send.unanswered.map entryCommand)
    rw [Ledger.unanswered_send fun _ => rfl]
    exact h.queues

theorem Valid.frame {x : Exchange provider} (h : x.Valid) (hJson : JsonText.ObjectsAreBraced)
    {text : Text} {receivedAtMs : Nat} (hNative : x.Native (.frame text receivedAtMs)) :
    (x.step (.frame text receivedAtMs)).Valid := by
  obtain ⟨e, hAnswer⟩ := hNative
  obtain ⟨session, hParse, hCounts, hQueues⟩ := h.parse hJson hAnswer receivedAtMs
  obtain ⟨commands, hAck⟩ := h.acknowledge hAnswer.1.mem.1 hAnswer.1.mem.2
  have hStep : x.step (.frame text receivedAtMs) =
      ⟨session, commands, x.log.acknowledge e.id⟩ := by
    simp only [step, hParse, hAck]
  rw [hStep]
  exact ⟨h.tracks.acknowledge hAck, h.inOrder.acknowledge _,
    built_of_commands h.built (acknowledge_commands _ _), hCounts, hQueues⟩

theorem Valid.step {x : Exchange provider} (h : x.Valid) (hJson : JsonText.ObjectsAreBraced)
    {op : ExchangeOp} (hNative : x.Native op) : (x.step op).Valid := by
  cases op with
  | diff action keys => exact h.diff hNative
  | send => exact h.send
  | beat =>
    obtain ⟨hCounts, hQueues⟩ := heartbeat_kept h.counts h.queues
    exact ⟨h.tracks, h.inOrder, h.built, hCounts, hQueues⟩
  | frame text receivedAtMs => exact h.frame hJson hNative

end Exchange

/-- **Commands and acknowledgements.** On every connection and in every run in
which the venue answers natively, every answer is parsed into the id of the
command it answers and accepted, and in every state of the run the exchange is
ready exactly when everything enqueued was sent and has all its answers. -/
theorem exchange_acknowledges (hJson : JsonText.ObjectsAreBraced) (provider : Provider)
    (endpoint : EndpointKind) (epoch : Uuid) (ops : List ExchangeOp)
    (hNative : AllSteps Exchange.step Exchange.Native (Exchange.opened provider endpoint epoch)
      ops) :
    AllSteps Exchange.step Exchange.Taken (Exchange.opened provider endpoint epoch) ops ∧
    EveryState Exchange.step (fun x => x.commands.readinessComplete ↔ ∀ e ∈ x.log, e.Done)
      (Exchange.opened provider endpoint epoch) ops := by
  have hValid : EveryState Exchange.step Exchange.Valid
      (Exchange.opened provider endpoint epoch) ops :=
    everyState_of_allSteps (fun x op hOp h => h.step hJson hOp)
      (Exchange.valid_opened endpoint epoch) hNative
  refine ⟨hValid.allSteps fun x op h => h.taken hJson op, ?_⟩
  exact everyState_mono (fun x h => h.tracks.readinessComplete_iff) hValid

end Exchange

section Sample

/-- The ticker of Bitcoin on MEXC. -/
def mexcKey : SubscriptionKey := ⟨.mexc, .linearPerpetual, "BTC_USDT".toList, .ticker⟩

/-- The text of MEXC's acknowledgement of tickers. -/
def mexcSubTicker : Text := "\x7b\"channel\":\"rs.sub.ticker\",\"data\":\"success\"\x7d".toList

/-- The text of MEXC's acknowledgement of funding rates. -/
def mexcSubFunding : Text :=
  "\x7b\"channel\":\"rs.sub.funding.rate\",\"data\":\"success\"\x7d".toList

/-- The document of an acknowledgement of MEXC. -/
def mexcSuccess (channel : Text) : Value :=
  .object [("channel".toList, .string channel), ("data".toList, .string "success".toList)]

/-- Documents that are read as the two acknowledgements. -/
@[reducible] def mexcAcksJson : JsonText :=
  .table [(mexcSubTicker, mexcSuccess "rs.sub.ticker".toList),
    (mexcSubFunding, mexcSuccess "rs.sub.funding.rate".toList)]

local instance exchangeUnicode : Unicode := .ascii
local instance exchangeJson : JsonText := mexcAcksJson
local instance exchangeMarket : MarketData := .silent

/-- The two commands of a ticker are sent, then answered. -/
def mexcExchangeOps : List ExchangeOp :=
  [.diff .subscribe [mexcKey], .send, .send, .frame mexcSubTicker 100, .beat,
    .frame mexcSubFunding 200]

/-- Both of these texts begin with a brace. -/
theorem mexcAcksJson_braced : JsonText.ObjectsAreBraced := by
  intro text value hText _
  have hKnown : text = mexcSubTicker ∨ text = mexcSubFunding := by
    by_contra hOther
    have hUnknown : [(mexcSubTicker, mexcSuccess "rs.sub.ticker".toList),
        (mexcSubFunding, mexcSuccess "rs.sub.funding.rate".toList)].lookup text = none := by
      push Not at hOther
      rw [List.lookup_eq_none_iff]
      simp [hOther.1, hOther.2]
    have hFail : JsonText.fromStr text = .error "expected value at line 1 column 1".toList :=
      JsonText.table_of_none hUnknown
    rw [hFail] at hText
    cases hText
  rcases hKnown with rfl | rfl
  · decide
  · decide

/-- Bring the oldest entry that awaits an answer to the front of a proof. -/
theorem isNext_of_find? {l : CommandLedger SubscriptionAction}
    {e : Entry Text (Value × SubscriptionAction)} (h : l.find? (·.awaiting) = some e) :
    l.IsNext e := by
  obtain ⟨hAwait, before, after, hSplit, hBefore⟩ := List.find?_eq_some_iff_append.mp h
  exact ⟨before, after, hSplit, hAwait, fun x hx => by simpa using hBefore x hx⟩

/-- The two acknowledgements come in the order of the commands. -/
theorem exchange_acknowledges_mexcExchangeOps :
    AllSteps Exchange.step Exchange.Native (Exchange.opened .mexc .primary 7) mexcExchangeOps ∧
    AllSteps Exchange.step Exchange.Taken (Exchange.opened .mexc .primary 7) mexcExchangeOps := by
  have hNative : AllSteps Exchange.step Exchange.Native (Exchange.opened .mexc .primary 7)
      mexcExchangeOps := by
    refine ⟨⟨_, _, _, rfl, rfl⟩, trivial, trivial, ⟨_, isNext_of_find? rfl, _, rfl, rfl, rfl⟩,
      trivial, ⟨_, isNext_of_find? rfl, _, rfl, rfl, rfl⟩, trivial⟩
  exact ⟨hNative,
    (exchange_acknowledges mexcAcksJson_braced .mexc .primary 7 mexcExchangeOps hNative).1⟩

end Sample

end MarketStreamGateway
