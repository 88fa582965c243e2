import MarketStreamGateway.Providers.Adapter
import MarketStreamGateway.Lib.Batch

/-!
# Market Stream Gateway — MEXC

The session of `providers/mexc.rs`: one command per native subscription. The
venue's acknowledgements carry no request id, so the session queues the id of
each subscribe command, with the channel of its response, when it builds the
command; an unsubscribe command expects no acknowledgement.
-/

namespace MarketStreamGateway

open Lib

/-- MEXC echoes no id: a command waits under the channel its response will come on. -/
structure PendingAcknowledgement where
  responseChannel : Text
  requestId : Text
  deriving DecidableEq, Repr

/-- A topic of MEXC: a method, a symbol and, for candles, an interval. -/
structure NativeSubscription where
  method : Text
  symbol : Text
  interval : Option Text
  deriving DecidableEq, Repr

/-- The list of pending acknowledgements is a queue, oldest first. -/
structure MexcSession where
  endpoint : EndpointKind
  connectionEpoch : Uuid
  nextRequestId : Nat
  pendingAcknowledgements : List PendingAcknowledgement
  tickers : Tickers

namespace MexcSession

/-- Ids start from one on every connection, with nothing pending. -/
def new (endpoint : EndpointKind) (connectionEpoch : Uuid) : MexcSession :=
  ⟨endpoint, connectionEpoch, 1, [], ∅⟩

/-- The refusal of a frame. -/
def invalid (message : Text) : AdapterError := .invalidPayload .mexc message

/-- The symbol grammar of MEXC: an ASCII base quoted in USDT. -/
def validateMexcSymbol (symbol : Text) : Except Text Unit :=
  match Text.stripSuffix "_USDT".toList symbol with
  | none => .error (symbol ++ " is not a MEXC USDT-margined perpetual symbol".toList)
  | some base =>
    if base.isEmpty || !base.all fun c => c.isAlphanum then
      .error (symbol ++ " has invalid MEXC symbol syntax".toList)
    else .ok ()

/-- The native subscriptions of a key; the funding stream is the only one that
carries the next settlement time. -/
def natives (subscription : SubscriptionKey) : List NativeSubscription :=
  match subscription.channel with
  | .ticker => [⟨"ticker".toList, subscription.symbol, none⟩,
      ⟨"funding.rate".toList, subscription.symbol, none⟩]
  | .candle1m => [⟨"kline".toList, subscription.symbol, some "Min1".toList⟩]

/-- The collecting loop. Tickers dropped before a symbol is refused stay
dropped. -/
def collect (action : SubscriptionAction) :
    List NativeSubscription → Tickers → List SubscriptionKey →
      Except AdapterError (List NativeSubscription) × Tickers
  | collected, tickers, [] => (.ok collected, tickers)
  | collected, tickers, subscription :: rest =>
    match validateMexcSymbol subscription.symbol with
    | .error message => (.error (.invalidSubscription .mexc message), tickers)
    | .ok () => collect action (pushAll collected (natives subscription))
        (forgetTickers action [subscription] tickers) rest

/-- The verb of a command. -/
def operation : SubscriptionAction → Text
  | .subscribe => "sub".toList
  | .unsubscribe => "unsub".toList

/-- Verb and method make the method of a command. -/
def method (action : SubscriptionAction) (subscription : NativeSubscription) : Text :=
  operation action ++ '.' :: subscription.method

/-- The interval is a parameter of subscribe commands only. -/
def parameter (action : SubscriptionAction) (subscription : NativeSubscription) :
    List (Text × Value) :=
  (match action, subscription.interval with
    | .subscribe, some interval => [("interval".toList, .string interval)]
    | _, _ => []) ++ [("symbol".toList, .string subscription.symbol)]

/-- MEXC does not answer unsubscriptions. -/
def expected : SubscriptionAction → Nat
  | .subscribe => 1
  | .unsubscribe => 0

/-- A subscribe command enters the queue of pending acknowledgements. -/
def command (action : SubscriptionAction) (s : MexcSession) (subscription : NativeSubscription) :
    OutboundCommand × MexcSession :=
  let requestId := "mexc-".toList ++ Text.ofNat s.nextRequestId
  let pending : List PendingAcknowledgement := match action with
    | .subscribe => [⟨"rs.".toList ++ method action subscription, requestId⟩]
    | .unsubscribe => []
  (⟨requestId, .object [("gzip".toList, .bool false),
      ("method".toList, .string (method action subscription)),
      ("param".toList, .object (parameter action subscription))], expected action⟩,
    { s with
      nextRequestId := wrappingNext s.nextRequestId
      pendingAcknowledgements := s.pendingAcknowledgements ++ pending })

/-- The tickers are forgotten while the keys are checked, so a refused diff may
have dropped some. -/
def subscriptionMessages (s : MexcSession) (action : SubscriptionAction)
    (subscriptions : List SubscriptionKey) :
    Except AdapterError (List OutboundCommand) × MexcSession :=
  match validateSubscriptions .mexc subscriptions with
  | .error error => (.error error, s)
  | .ok () =>
    if s.endpoint ≠ .primary then
      (.error (.invalidSubscription .mexc ("subscriptions do not belong on the ".toList ++
        s.endpoint.display ++ " endpoint".toList)), s)
    else match collect action [] s.tickers subscriptions with
      | (.error error, tickers) => (.error error, { s with tickers })
      | (.ok collected, tickers) =>
        let (messages, s) := issue (command action) { s with tickers } collected
        (.ok messages, s)

/-- The commands of a diff that is accepted. -/
theorem subscriptionMessages_ok {s s' : MexcSession} {action : SubscriptionAction}
    {keys : List SubscriptionKey} {messages : List OutboundCommand}
    (h : s.subscriptionMessages action keys = (.ok messages, s')) :
    ∃ collected tickers, collect action [] s.tickers keys = (.ok collected, tickers) ∧
      issue (command action) { s with tickers } collected = (messages, s') := by
  unfold subscriptionMessages at h
  split at h
  · simp at h
  · split at h
    · simp at h
    · split at h
      · simp at h
      · next collected tickers hCollect =>
        obtain ⟨hMessages, rfl⟩ := Prod.mk.inj h
        obtain rfl := Except.ok.inj hMessages
        exact ⟨collected, tickers, hCollect, rfl⟩

/-- MEXC pings are documents, without an id. -/
def heartbeat (s : MexcSession) : Heartbeat × MexcSession :=
  (.text (Value.object [("method".toList, .string "ping".toList)]).display, s)

/-- A member that must be a non-empty string. -/
def requiredString (value : Value) (field : Text) : Except AdapterError Text :=
  match (value.get field).bind Value.asStr with
  | some text =>
    if text.isEmpty then .error (invalid (field ++ " must be a non-empty string".toList))
    else .ok text
  | none => .error (invalid (field ++ " must be a non-empty string".toList))

/-- A string without its quotes, anything else as JSON. -/
def displayValue (value : Value) : Text := value.asStr.getD value.display

/-- The first queued acknowledgement is the one a frame answers. -/
def parseAcknowledgement (s : MexcSession) (channel : Text) (value : Value) :
    Except AdapterError ParsedFrame × MexcSession :=
  match requiredString value "data".toList with
  | .error error => (.error error, s)
  | .ok result =>
    let popped := { s with pendingAcknowledgements := s.pendingAcknowledgements.tail }
    if result ≠ "success".toList then
      (.error (.commandRejected .mexc (channel ++ ": ".toList ++ result)), popped)
    else match s.pendingAcknowledgements with
      | [] => (.error (invalid ("unexpected acknowledgement ".toList ++ channel)), s)
      | pending :: _ =>
        if pending.responseChannel ≠ channel then
          (.error (invalid ("expected acknowledgement ".toList ++ pending.responseChannel ++
            ", got ".toList ++ channel)), popped)
        else (.ok (.acknowledgement pending.requestId), popped)

/-- The channel decides: pong, response, error or market data. -/
def parse [JsonText] [MarketData] (s : MexcSession) (text : Text) (receivedAtMs : Nat) :
    Except AdapterError ParsedFrame × MexcSession :=
  match JsonText.fromStr text with
  | .error error => (.error (invalid ("invalid JSON: ".toList ++ error)), s)
  | .ok value =>
    if !value.isObject then (.error (invalid "message must be a JSON object".toList), s)
    else match requiredString value "channel".toList with
      | .error error => (.error error, s)
      | .ok channel =>
        if channel = "pong".toList then (.ok .pong, s)
        else if channel = "rs.error".toList then
          (.error (.commandRejected .mexc
              (((value.get "data".toList).map displayValue).getD "unknown command error".toList)),
            -- an error names no channel: it is taken for the oldest request
            { s with pendingAcknowledgements := s.pendingAcknowledgements.tail })
        else if "rs.sub.".toList.isPrefixOf channel then parseAcknowledgement s channel value
        else if "rs.unsub.".toList.isPrefixOf channel then (.ok .ignored, s)
        else
          let (result, tickers) :=
            MarketData.parse .mexc s.connectionEpoch s.tickers value text receivedAtMs
          (result.map .ofMarket, { s with tickers })

end MexcSession

/-- The MEXC row of `configured_adapters`. -/
def mexcAdapter [JsonText] [MarketData] : ProviderAdapter where
  Session := MexcSession
  endpoints := [.primary]
  endpointFor _ := .primary
  maxSubscriptions := defaultMaxProviderSubscriptions
  session := MexcSession.new
  subscriptionMessages := MexcSession.subscriptionMessages
  heartbeat := MexcSession.heartbeat
  parse := MexcSession.parse

end MarketStreamGateway
