import MarketStreamGateway.Providers.Adapter
import MarketStreamGateway.Lib.Batch

/-!
# Market Stream Gateway — Bybit

The session of `providers/bybit.rs`: one topic per key, batched by count and by
characters, acknowledged under `req_id`.
-/

namespace MarketStreamGateway

open Lib

/-- Bybit caps the characters of the arguments; the gateway stays below the cap. -/
def bybitMaxTopicCharsPerCommand : Nat := 20000
def bybitMaxTopicsPerCommand : Nat := 100

/-- Bybit keeps one connection, and ids of its own. -/
structure BybitSession where
  connectionEpoch : Uuid
  nextRequestId : Nat
  tickers : Tickers

namespace BybitSession

/-- Ids start from one on every connection. -/
def new (connectionEpoch : Uuid) : BybitSession := ⟨connectionEpoch, 1, ∅⟩

/-- The venue's name of a key. -/
def topic (subscription : SubscriptionKey) : Text :=
  match subscription.channel with
  | .ticker => "tickers.".toList ++ subscription.symbol
  | .candle1m => "kline.1.".toList ++ subscription.symbol

/-- The verb of a command. -/
def operation : SubscriptionAction → Text
  | .subscribe => "subscribe".toList
  | .unsubscribe => "unsubscribe".toList

/-- The batches done so far, the open one and its number of characters. -/
structure Batches where
  done : List (List Text)
  batch : List Text
  batchChars : Nat

/-- One round of the batching loop. -/
def Batches.push (b : Batches) (topic : Text) : Batches :=
  let extraChars := Text.byteLen topic
  if !b.batch.isEmpty && (b.batch.length = bybitMaxTopicsPerCommand ||
      b.batchChars + extraChars > bybitMaxTopicCharsPerCommand) then
    ⟨b.done ++ [b.batch], [topic], extraChars⟩
  else ⟨b.done, b.batch ++ [topic], b.batchChars + extraChars⟩

/-- The batches of `command_messages`, in the order their commands are built. -/
def batches (topics : List Text) : List (List Text) :=
  let b := topics.foldl Batches.push ⟨[], [], 0⟩
  if b.batch.isEmpty then b.done else b.done ++ [b.batch]

/-- One id for each command, echoed in its acknowledgement. -/
def command (action : SubscriptionAction) (s : BybitSession) (topics : List Text) :
    OutboundCommand × BybitSession :=
  let requestId := "gateway-".toList ++ Text.ofNat s.nextRequestId
  (⟨requestId, .object [("args".toList, .array (topics.map .string)),
      ("op".toList, .string (operation action)), ("req_id".toList, .string requestId)], 1⟩,
    { s with nextRequestId := checkedNext s.nextRequestId })

/-- The tickers are forgotten only after the whole diff was validated. -/
def subscriptionMessages (s : BybitSession) (action : SubscriptionAction)
    (subscriptions : List SubscriptionKey) :
    Except AdapterError (List OutboundCommand) × BybitSession :=
  match validateSubscriptions .bybit subscriptions with
  | .error error => (.error error, s)
  | .ok () =>
    let topics := subscriptions.foldl (fun topics key => pushAll topics [topic key]) []
    let s := { s with tickers := forgetTickers action subscriptions s.tickers }
    let (messages, s) := issue (command action) s (batches topics)
    (.ok messages, s)

/-- The commands of a diff that is accepted. -/
theorem subscriptionMessages_ok {s s' : BybitSession} {action : SubscriptionAction}
    {keys : List SubscriptionKey} {messages : List OutboundCommand}
    (h : s.subscriptionMessages action keys = (.ok messages, s')) :
    issue (command action) { s with tickers := forgetTickers action keys s.tickers }
      (batches (pushAll [] (keys.flatMap fun key => [topic key]))) = (messages, s') := by
  unfold subscriptionMessages at h
  split at h
  · simp at h
  · obtain ⟨hMessages, rfl⟩ := Prod.mk.inj h
    obtain rfl := Except.ok.inj hMessages
    rw [foldl_pushAll]

/-- Bybit pings are documents, without an id. -/
def heartbeat (s : BybitSession) : Heartbeat × BybitSession :=
  (.text (Value.object [("op".toList, .string "ping".toList)]).display, s)

/-- The two refusals of a frame: what it says makes no sense, or it says no. -/
def invalidPayload (message : Text) : AdapterError := .invalidPayload .bybit message
def commandRejected (message : Text) : AdapterError := .commandRejected .bybit message

/-- The message and the code of a refusal, under any of the names Bybit has used. -/
def controlErrorMessage (value : Value) : Text :=
  let message := (((value.get "ret_msg".toList).orElse fun _ => (value.get "retMsg".toList).orElse
    fun _ => value.get "message".toList).bind Value.asStr).getD "unknown command error".toList
  match ((value.get "ret_code".toList).orElse fun _ => value.get "retCode".toList).bind
      Value.asI64 with
  | none => message
  | some code => "code ".toList ++ Text.ofInt code ++ ": ".toList ++ message

/-- An acknowledgement without a usable id cannot be matched to a command. -/
def controlAcknowledgement (value : Value) : Except AdapterError ParsedFrame :=
  match ((value.get "req_id".toList).orElse fun _ => value.get "reqId".toList).bind Value.asStr with
  | some requestId =>
    if !requestId.isEmpty && Text.byteLen requestId ≤ 36 then .ok (.acknowledgement requestId)
    else .error (invalidPayload "command response is missing a valid request id".toList)
  | none => .error (invalidPayload "command response is missing a valid request id".toList)

/-- What a control frame says, or `none` for a frame that is not one. -/
def parseControl (value : Value) : Option (Except AdapterError ParsedFrame) :=
  if !value.isObject then none
  else if (value.get "type".toList).bind Value.asStr = some "COMMAND_RESP".toList then
    match ((value.get "data".toList).bind (Value.get "failTopics".toList)).bind Value.asArray with
    | some (topic :: topics) => some (.error (commandRejected
        ("topics rejected: ".toList ++ (Value.array (topic :: topics)).display)))
    -- no failed topic: the response is an acknowledgement
    | some [] => some (controlAcknowledgement value)
    | none => some (.error (invalidPayload "COMMAND_RESP is missing data.failTopics".toList))
  else
    let refused := (value.get "success".toList).bind Value.asBool = some false
    match value.get "op".toList with
    | some (.string operation) =>
      if refused then some (.error (commandRejected (controlErrorMessage value)))
      else if operation = "ping".toList ∨ operation = "pong".toList then some (.ok .pong)
      else if operation = "subscribe".toList ∨ operation = "unsubscribe".toList then
        some (match value.get "success".toList with
          | some (.bool true) => controlAcknowledgement value
          | some _ => .error (invalidPayload "control field success must be a boolean".toList)
          | none => .error (invalidPayload (operation ++ " response is missing success".toList)))
      else some (.ok .ignored)
    | some _ => some (.error (invalidPayload "control field op must be a string".toList))
    | none =>
      if refused then some (.error (commandRejected (controlErrorMessage value))) else none

/-- A frame is a control message or market data; only market data touches the cache. -/
def parse [JsonText] [MarketData] (s : BybitSession) (text : Text) (receivedAtMs : Nat) :
    Except AdapterError ParsedFrame × BybitSession :=
  match JsonText.fromStr text with
  | .error error => (.error (invalidPayload ("invalid JSON: ".toList ++ error)), s)
  | .ok value =>
    if !value.isObject then
      (.error (invalidPayload "top-level payload must be an object".toList), s)
    else match parseControl value with
      | some result => (result, s)
      | none =>
        let (result, tickers) :=
          MarketData.parse .bybit s.connectionEpoch s.tickers value text receivedAtMs
        (result.map .ofMarket, { s with tickers })

end BybitSession

/-- The Bybit row of `configured_adapters`. -/
def bybitAdapter [JsonText] [MarketData] : ProviderAdapter where
  Session := BybitSession
  endpoints := [.primary]
  endpointFor _ := .primary
  maxSubscriptions := defaultMaxProviderSubscriptions
  session _ connectionEpoch := .new connectionEpoch
  subscriptionMessages := BybitSession.subscriptionMessages
  heartbeat := BybitSession.heartbeat
  parse := BybitSession.parse

end MarketStreamGateway
