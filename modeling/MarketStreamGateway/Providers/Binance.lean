import MarketStreamGateway.Providers.Adapter
import MarketStreamGateway.Lib.Batch

/-!
# Market Stream Gateway — Binance

The session of `providers/binance.rs`: lower-case stream names, batched by
count, acknowledged under a numeric `id`.
-/

namespace MarketStreamGateway

open Lib

/-- The batch bound of Binance, which its adapter reuses as the ceiling of the
provider. -/
def binanceMaxStreamsPerCommand : Nat := 200

/-- Binance keeps one connection, and numeric ids. -/
structure BinanceSession where
  connectionEpoch : Uuid
  nextRequestId : Nat
  tickers : Tickers

namespace BinanceSession

/-- Ids start from one on every connection. -/
def new (connectionEpoch : Uuid) : BinanceSession := ⟨connectionEpoch, 1, ∅⟩

/-- The venue's streams of a key. -/
def channelStreams (subscription : SubscriptionKey) : List Text :=
  let symbol := Text.toAsciiLowercase subscription.symbol
  match subscription.channel with
  | .ticker => [symbol ++ "@ticker".toList, symbol ++ "@markPrice@1s".toList]
  | .candle1m => [symbol ++ "@kline_1m".toList]

/-- The verb of a command, in capitals. -/
def method : SubscriptionAction → Text
  | .subscribe => "SUBSCRIBE".toList
  | .unsubscribe => "UNSUBSCRIBE".toList

/-- One id for each batch of streams. -/
def command (action : SubscriptionAction) (s : BinanceSession) (batch : List Text) :
    OutboundCommand × BinanceSession :=
  (⟨Text.ofNat s.nextRequestId, .object [("id".toList, .number (.posInt s.nextRequestId)),
      ("method".toList, .string (method action)),
      ("params".toList, .array (batch.map .string))], 1⟩,
    { s with nextRequestId := checkedNext s.nextRequestId })

/-- The tickers are forgotten only after the whole diff was validated. -/
def subscriptionMessages (s : BinanceSession) (action : SubscriptionAction)
    (subscriptions : List SubscriptionKey) :
    Except AdapterError (List OutboundCommand) × BinanceSession :=
  match validateSubscriptions .binance subscriptions with
  | .error error => (.error error, s)
  | .ok () =>
    let streams := subscriptions.foldl (fun streams key => pushAll streams (channelStreams key)) []
    let s := { s with tickers := forgetTickers action subscriptions s.tickers }
    let (messages, s) := issue (command action) s (chunks binanceMaxStreamsPerCommand streams)
    (.ok messages, s)

/-- The commands of a diff that is accepted. -/
theorem subscriptionMessages_ok {s s' : BinanceSession} {action : SubscriptionAction}
    {keys : List SubscriptionKey} {messages : List OutboundCommand}
    (h : s.subscriptionMessages action keys = (.ok messages, s')) :
    issue (command action) { s with tickers := forgetTickers action keys s.tickers }
      (chunks binanceMaxStreamsPerCommand (pushAll [] (keys.flatMap channelStreams))) =
        (messages, s') := by
  unfold subscriptionMessages at h
  split at h
  · simp at h
  · obtain ⟨hMessages, rfl⟩ := Prod.mk.inj h
    obtain rfl := Except.ok.inj hMessages
    rw [foldl_pushAll]

/-- Binance answers protocol-level pings. -/
def heartbeat (s : BinanceSession) : Heartbeat × BinanceSession := (.webSocketPing [], s)

/-- The two refusals of a frame. -/
def invalidPayload (message : Text) : AdapterError := .invalidPayload .binance message
def commandRejected (message : Text) : AdapterError := .commandRejected .binance message

/-- The message and the code of a refusal. -/
def binanceErrorMessage (value : Value) : Text :=
  let message := (((value.get "msg".toList).orElse fun _ => value.get "message".toList).bind
    Value.asStr).getD "unknown command error".toList
  match (value.get "code".toList).bind Value.asI64 with
  | none => message
  | some code => "code ".toList ++ Text.ofInt code ++ ": ".toList ++ message

/-- The request id of a command response. -/
def responseId (value : Value) : Except AdapterError Text :=
  match value.get "id".toList with
  | some (.number id) =>
    if id.asU64.isSome then .ok id.display
    else .error (invalidPayload
      "command response id must be an unsigned integer or short string".toList)
  | some (.string id) =>
    if !id.isEmpty && Text.byteLen id ≤ 36 then .ok id
    else .error (invalidPayload
      "command response id must be an unsigned integer or short string".toList)
  | some _ => .error (invalidPayload
      "command response id must be an unsigned integer or short string".toList)
  | none => .error (invalidPayload "command response is missing id".toList)

/-- What a control frame says, or `none` for a frame that is not one. -/
def parseControl (value : Value) : Option (Except AdapterError ParsedFrame) :=
  if (value.get "code".toList).isSome then
    some (.error (commandRejected (binanceErrorMessage value)))
  else match value.get "error".toList with
    | some error =>
      let message := (((error.get "msg".toList).orElse fun _ => error.get "message".toList).bind
        Value.asStr).getD "unknown command error".toList
      some (.error (commandRejected message))
    | none => match value.get "result".toList with
      | some result => some (match responseId value with
          | .error error => .error error
          | .ok requestId =>
            if result.isNull then .ok (.acknowledgement requestId) else .ok .ignored)
      | none => none

/-- Market data may come in a combined-stream envelope, which the market-data
half opens. -/
def parse [JsonText] [MarketData] (s : BinanceSession) (text : Text) (receivedAtMs : Nat) :
    Except AdapterError ParsedFrame × BinanceSession :=
  match JsonText.fromStr text with
  | .error error => (.error (invalidPayload ("invalid JSON: ".toList ++ error)), s)
  | .ok value =>
    if !value.isObject then
      (.error (invalidPayload "top-level payload must be an object".toList), s)
    else match parseControl value with
      | some result => (result, s)
      | none =>
        let (result, tickers) :=
          MarketData.parse .binance s.connectionEpoch s.tickers value text receivedAtMs
        (result.map .ofMarket, { s with tickers })

end BinanceSession

/-- The Binance row of `configured_adapters`. -/
def binanceAdapter [JsonText] [MarketData] : ProviderAdapter where
  Session := BinanceSession
  endpoints := [.primary]
  endpointFor _ := .primary
  maxSubscriptions := binanceMaxStreamsPerCommand
  session _ connectionEpoch := .new connectionEpoch
  subscriptionMessages := BinanceSession.subscriptionMessages
  heartbeat := BinanceSession.heartbeat
  parse := BinanceSession.parse

end MarketStreamGateway
