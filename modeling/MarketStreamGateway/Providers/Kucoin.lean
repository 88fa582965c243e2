import MarketStreamGateway.Providers.Adapter
import MarketStreamGateway.Lib.Batch

/-!
# Market Stream Gateway — KuCoin

The session of `providers/kucoin.rs`: three topics for a ticker, candle symbols
joined by commas into topics of bounded size, acknowledged under `id`. A
heartbeat takes a request id too.
-/

namespace MarketStreamGateway

open Lib

/-- Candle symbols in one topic, and the ceiling of the provider. -/
def kucoinTopicsPerCommand : Nat := 100

/-- KuCoin has one endpoint, but a session checks that it is on it. -/
structure KucoinSession where
  endpoint : EndpointKind
  connectionEpoch : Uuid
  nextRequestId : Nat
  tickers : Tickers

namespace KucoinSession

/-- Ids start from one on every connection. -/
def new (endpoint : EndpointKind) (connectionEpoch : Uuid) : KucoinSession :=
  ⟨endpoint, connectionEpoch, 1, ∅⟩

/-- The refusal of a frame. -/
def invalid (message : Text) : AdapterError := .invalidPayload .kucoin message

/-- The symbol is a USDT or USDC linear perpetual. -/
def validSymbol (symbol : Text) : Bool :=
  "USDTM".toList.isSuffixOf symbol || "USDCM".toList.isSuffixOf symbol

/-- The check of a symbol, of a key or a payload. -/
def validateKucoinSymbol (symbol : Text) : Except Text Unit :=
  if validSymbol symbol then .ok ()
  else .error (symbol ++ " is not a KuCoin USDT/USDC linear perpetual symbol".toList)

/-- The ticker symbols and the candle symbols, each once. -/
structure Symbols where
  ticker : List Text
  candle : List Text

/-- A symbol is collected once for each of the two channels. -/
def Symbols.push (symbols : Symbols) (subscription : SubscriptionKey) : Symbols :=
  match subscription.channel with
  | .ticker => { symbols with ticker := pushNew symbols.ticker subscription.symbol }
  | .candle1m => { symbols with candle := pushNew symbols.candle subscription.symbol }

/-- The symbols of a diff, in the order of its keys; one bad symbol refuses it. -/
def collectSymbols (symbols : Symbols) : List SubscriptionKey → Except AdapterError Symbols
  | [] => .ok symbols
  | subscription :: rest =>
    match validateKucoinSymbol subscription.symbol with
    | .error message => .error (.invalidSubscription .kucoin message)
    | .ok () => collectSymbols (symbols.push subscription) rest

/-- A ticker needs three topics, each with a command of its own. -/
def tickerTopics (symbol : Text) : List Text :=
  ["/contractMarket/tickerV2:".toList ++ symbol, "/contractMarket/execution:".toList ++ symbol,
    "/contract/instrument:".toList ++ symbol]

/-- Candle symbols share a topic, up to a hundred of them. -/
def candleTopic (symbols : List Text) : Text :=
  "/contractMarket/limitCandle:".toList ++
    Text.join ',' (symbols.map fun symbol => symbol ++ "_1min".toList)

/-- Ticker topics come first, then the candles. -/
def buildTopics (symbols : Symbols) : List Text :=
  symbols.ticker.flatMap tickerTopics ++
    (chunks kucoinTopicsPerCommand symbols.candle).map candleTopic

/-- The verb of a command. -/
def commandType : SubscriptionAction → Text
  | .subscribe => "subscribe".toList
  | .unsubscribe => "unsubscribe".toList

/-- One topic for each command; `response` asks for an acknowledgement. -/
def command (action : SubscriptionAction) (s : KucoinSession) (topic : Text) :
    OutboundCommand × KucoinSession :=
  let requestId := Text.ofNat s.nextRequestId
  (⟨requestId, .object [("id".toList, .string requestId),
      ("type".toList, .string (commandType action)), ("topic".toList, .string topic),
      ("privateChannel".toList, .bool false), ("response".toList, .bool true)], 1⟩,
    { s with nextRequestId := wrappingNext s.nextRequestId })

/-- Nothing is forgotten before every symbol was found valid. -/
def subscriptionMessages (s : KucoinSession) (action : SubscriptionAction)
    (subscriptions : List SubscriptionKey) :
    Except AdapterError (List OutboundCommand) × KucoinSession :=
  match validateSubscriptions .kucoin subscriptions with
  | .error error => (.error error, s)
  | .ok () =>
    if s.endpoint ≠ .primary then
      (.error (.invalidSubscription .kucoin ("subscriptions do not belong on the ".toList ++
        s.endpoint.display ++ " endpoint".toList)), s)
    else match collectSymbols ⟨[], []⟩ subscriptions with
      | .error error => (.error error, s)
      | .ok symbols =>
        let s := { s with tickers := forgetTickers action subscriptions s.tickers }
        let (messages, s) := issue (command action) s (buildTopics symbols)
        (.ok messages, s)

/-- The commands of a diff that is accepted. -/
theorem subscriptionMessages_ok {s s' : KucoinSession} {action : SubscriptionAction}
    {keys : List SubscriptionKey} {messages : List OutboundCommand}
    (h : s.subscriptionMessages action keys = (.ok messages, s')) :
    ∃ symbols, collectSymbols ⟨[], []⟩ keys = .ok symbols ∧
      issue (command action) { s with tickers := forgetTickers action keys s.tickers }
        (buildTopics symbols) = (messages, s') := by
  unfold subscriptionMessages at h
  split at h
  · simp at h
  · split at h
    · simp at h
    · split at h
      · simp at h
      · next symbols hSymbols =>
        obtain ⟨hMessages, rfl⟩ := Prod.mk.inj h
        obtain rfl := Except.ok.inj hMessages
        exact ⟨symbols, hSymbols, rfl⟩

/-- A ping draws an id, though no command waits under it. -/
def heartbeat (s : KucoinSession) : Heartbeat × KucoinSession :=
  (.text (Value.object [("id".toList, .string (Text.ofNat s.nextRequestId)),
      ("type".toList, .string "ping".toList)]).display,
    { s with nextRequestId := wrappingNext s.nextRequestId })

/-- The code and the message of a refusal, whatever type the code has. -/
def commandError (value : Value) : AdapterError :=
  let code := ((value.get "code".toList).map Value.display).getD "unknown".toList
  let message := (((value.get "msg".toList).orElse fun _ => value.get "data".toList).bind
    Value.asStr).getD "unknown error".toList
  .commandRejected .kucoin ("code ".toList ++ code ++ ": ".toList ++ message)

/-- An acknowledgement without a usable id cannot be matched to a command. -/
def parseAcknowledgement (value : Value) : Except AdapterError ParsedFrame :=
  match (value.get "id".toList).bind Value.asStr with
  | some requestId =>
    if !requestId.isEmpty && Text.byteLen requestId ≤ 64 then .ok (.acknowledgement requestId)
    else .error (invalid "ack is missing a valid request id".toList)
  | none => .error (invalid "ack is missing a valid request id".toList)

/-- What a frame says, or `none` for a market message. -/
def parseControl (value : Value) : Option (Except AdapterError ParsedFrame) :=
  match value.get "type".toList with
  | some (.string messageType) =>
    if messageType = "ack".toList then some (parseAcknowledgement value)
    else if messageType = "pong".toList then some (.ok .pong)
    else if messageType = "error".toList then some (.error (commandError value))
    else if messageType = "message".toList then none
    else some (.ok .ignored)
  | some _ => some (.error (invalid "type must be a string".toList))
  -- without a type: market data has a topic, the rest is ignored
  | none => if (value.get "topic".toList).isSome then none else some (.ok .ignored)

/-- The type of a message decides what it is; only market data touches the cache. -/
def parse [JsonText] [MarketData] (s : KucoinSession) (text : Text) (receivedAtMs : Nat) :
    Except AdapterError ParsedFrame × KucoinSession :=
  match JsonText.fromStr text with
  | .error error => (.error (invalid ("invalid JSON: ".toList ++ error)), s)
  | .ok value =>
    if !value.isObject then (.error (invalid "message must be a JSON object".toList), s)
    else match parseControl value with
      | some result => (result, s)
      | none =>
        let (result, tickers) :=
          MarketData.parse .kucoin s.connectionEpoch s.tickers value text receivedAtMs
        (result.map .ofMarket, { s with tickers })

end KucoinSession

/-- The KuCoin row of `configured_adapters`. -/
def kucoinAdapter [JsonText] [MarketData] : ProviderAdapter where
  Session := KucoinSession
  endpoints := [.primary]
  endpointFor _ := .primary
  maxSubscriptions := kucoinTopicsPerCommand
  session := KucoinSession.new
  subscriptionMessages := KucoinSession.subscriptionMessages
  heartbeat := KucoinSession.heartbeat
  parse := KucoinSession.parse

end MarketStreamGateway
