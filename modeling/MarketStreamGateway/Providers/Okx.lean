import MarketStreamGateway.Providers.Adapter
import MarketStreamGateway.Lib.Batch

/-!
# Market Stream Gateway — OKX

The session of `providers/okx.rs`: tickers on the public endpoint, candles on
the business endpoint, arguments batched by count and acknowledged one by one
under `id`.
-/

namespace MarketStreamGateway

open Lib

/-- Arguments in one command. -/
def okxCommandArgsLimit : Nat := 100

/-- A topic of OKX: a channel and an instrument. -/
structure OkxSubscriptionArg where
  channel : Text
  instId : Text
  deriving DecidableEq, Repr

/-- OKX serves tickers and candles on different endpoints, so a session knows its own. -/
structure OkxSession where
  endpoint : EndpointKind
  connectionEpoch : Uuid
  nextCommandId : Nat
  tickers : Tickers

namespace OkxSession

/-- Ids start from one on every connection. -/
def new (endpoint : EndpointKind) (connectionEpoch : Uuid) : OkxSession :=
  ⟨endpoint, connectionEpoch, 1, ∅⟩

/-- The refusal of a frame. -/
def invalid (message : Text) : AdapterError := .invalidPayload .okx message

/-- The symbol is a USDT or USDC linear perpetual. -/
def validSymbol (symbol : Text) : Bool :=
  "-USDT-SWAP".toList.isSuffixOf symbol || "-USDC-SWAP".toList.isSuffixOf symbol

/-- The check of a symbol that a frame names. -/
def validateOkxSymbol (symbol : Text) : Except Text Unit :=
  if validSymbol symbol then .ok ()
  else .error (symbol ++ " is not an OKX USDT/USDC linear perpetual symbol".toList)

/-- The channels an endpoint serves a key with. -/
def channels : EndpointKind → Channel → Option (List Text)
  | .pub, .ticker => some ["tickers".toList, "mark-price".toList, "funding-rate".toList]
  | .business, .candle1m => some ["candle1m".toList]
  | _, _ => none

/-- The arguments of one key. -/
def keyArgs (endpoint : EndpointKind) (subscription : SubscriptionKey) :
    Except AdapterError (List OkxSubscriptionArg) :=
  match validateOkxSymbol subscription.symbol with
  | .error message => .error (.invalidSubscription .okx message)
  | .ok () => match channels endpoint subscription.channel with
    | none => .error (.invalidSubscription .okx (subscription.channel.display ++
        " does not belong on the ".toList ++ endpoint.display ++ " endpoint".toList))
    | some channels => .ok (channels.map fun channel => ⟨channel, subscription.symbol⟩)

/-- The arguments of a diff, each of them once. A key of the other endpoint
refuses the diff. -/
def subscriptionArgs (endpoint : EndpointKind) (args : List OkxSubscriptionArg) :
    List SubscriptionKey → Except AdapterError (List OkxSubscriptionArg)
  | [] => .ok args
  | subscription :: rest =>
    match keyArgs endpoint subscription with
    | .error error => .error error
    | .ok new => subscriptionArgs endpoint (pushAll args new) rest

/-- The verb of a command. -/
def operation : SubscriptionAction → Text
  | .subscribe => "subscribe".toList
  | .unsubscribe => "unsubscribe".toList

/-- An argument, as it is printed. -/
def argDocument (arg : OkxSubscriptionArg) : Value :=
  .object [("channel".toList, .string arg.channel), ("instId".toList, .string arg.instId)]

/-- OKX emits one event for each argument of a command. -/
def command (action : SubscriptionAction) (s : OkxSession) (chunk : List OkxSubscriptionArg) :
    OutboundCommand × OkxSession :=
  let requestId := Text.ofNat s.nextCommandId
  (⟨requestId, .object [("id".toList, .string requestId),
      ("op".toList, .string (operation action)),
      ("args".toList, .array (chunk.map argDocument))], chunk.length⟩,
    { s with nextCommandId := wrappingNext s.nextCommandId })

/-- The tickers are forgotten only after every key was found to belong here. -/
def subscriptionMessages (s : OkxSession) (action : SubscriptionAction)
    (subscriptions : List SubscriptionKey) :
    Except AdapterError (List OutboundCommand) × OkxSession :=
  match validateSubscriptions .okx subscriptions with
  | .error error => (.error error, s)
  | .ok () => match subscriptionArgs s.endpoint [] subscriptions with
    | .error error => (.error error, s)
    | .ok args =>
      let s := { s with tickers := forgetTickers action subscriptions s.tickers }
      let (messages, s) := issue (command action) s (chunks okxCommandArgsLimit args)
      (.ok messages, s)

/-- The commands of a diff that is accepted. -/
theorem subscriptionMessages_ok {s s' : OkxSession} {action : SubscriptionAction}
    {keys : List SubscriptionKey} {messages : List OutboundCommand}
    (h : s.subscriptionMessages action keys = (.ok messages, s')) :
    ∃ args, subscriptionArgs s.endpoint [] keys = .ok args ∧
      issue (command action) { s with tickers := forgetTickers action keys s.tickers }
        (chunks okxCommandArgsLimit args) = (messages, s') := by
  unfold subscriptionMessages at h
  split at h
  · simp at h
  · split at h
    · simp at h
    · next args hArgs =>
      obtain ⟨hMessages, rfl⟩ := Prod.mk.inj h
      obtain rfl := Except.ok.inj hMessages
      exact ⟨args, hArgs, rfl⟩

/-- OKX pings are plain text. -/
def heartbeat (s : OkxSession) : Heartbeat × OkxSession := (.text "ping".toList, s)

/-- A subscription response acknowledges a command, an error event refuses it,
other events are ignored. -/
def parseCommandResponse (event value : Value) : Except AdapterError ParsedFrame :=
  match event.asStr with
  | none => .error (invalid "event must be a string".toList)
  | some event =>
    if event = "subscribe".toList ∨ event = "unsubscribe".toList then
      match (value.get "id".toList).bind Value.asStr with
      | some requestId =>
        if !requestId.isEmpty && Text.byteLen requestId ≤ 32 then .ok (.acknowledgement requestId)
        else .error (invalid "command response is missing a valid id".toList)
      | none => .error (invalid "command response is missing a valid id".toList)
    else if event = "error".toList then
      let code := ((value.get "code".toList).bind Value.asStr).getD "unknown".toList
      let message := ((value.get "msg".toList).bind Value.asStr).getD "unknown error".toList
      .error (.commandRejected .okx ("code ".toList ++ code ++ ": ".toList ++ message))
    else .ok .ignored

/-- The literal pong comes first, since it is no JSON. -/
def parse [JsonText] [MarketData] (s : OkxSession) (text : Text) (receivedAtMs : Nat) :
    Except AdapterError ParsedFrame × OkxSession :=
  if Text.trim text = "pong".toList then (.ok .pong, s)
  else match JsonText.fromStr text with
  | .error error => (.error (invalid ("invalid JSON: ".toList ++ error)), s)
  | .ok value =>
    if !value.isObject then (.error (invalid "message must be a JSON object".toList), s)
    else match value.get "event".toList with
      | some event => (parseCommandResponse event value, s)
      | none =>
        let (result, tickers) :=
          MarketData.parse .okx s.connectionEpoch s.tickers value text receivedAtMs
        (result.map .ofMarket, { s with tickers })

end OkxSession

/-- The OKX row of `configured_adapters`: tickers on the public endpoint,
candles on the business one. -/
def okxAdapter [JsonText] [MarketData] : ProviderAdapter where
  Session := OkxSession
  endpoints := [.pub, .business]
  endpointFor
    | .ticker => .pub
    | .candle1m => .business
  maxSubscriptions := defaultMaxProviderSubscriptions
  session := OkxSession.new
  subscriptionMessages := OkxSession.subscriptionMessages
  heartbeat := OkxSession.heartbeat
  parse := OkxSession.parse

end MarketStreamGateway
