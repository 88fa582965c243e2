import MarketStreamGateway.Providers.Adapter
import MarketStreamGateway.Lib.Batch

/-!
# Market Stream Gateway — BingX

The session of `providers/bingx.rs`: one command per topic. The session keeps
the topics it has asked for, filters every diff by them and refuses to go over
the venue's topic limit.
-/

namespace MarketStreamGateway

open Lib

/-- BingX limits the topics of a connection. A ticker key takes three of them. -/
def bingxMaxTopicsPerConnection : Nat := 200

/-- BingX counts its topics, so a session remembers which are active. -/
structure BingxSession where
  connectionEpoch : Uuid
  nextRequestId : Nat
  activeTopics : Finset Text
  tickers : Tickers

namespace BingxSession

/-- Ids start from one on every connection, with no topic active. -/
def new (connectionEpoch : Uuid) : BingxSession := ⟨connectionEpoch, 1, ∅, ∅⟩

/-- The two refusals of a frame. -/
def invalidPayload (message : Text) : AdapterError := .invalidPayload .bingx message
def commandRejected (message : Text) : AdapterError := .commandRejected .bingx message

section Symbols

variable [Unicode]

/-- The common normalization, under a message of its own. -/
def normalizedSymbol (symbol : Text) : Except AdapterError Text :=
  match normalizeSymbol symbol with
  | .ok normalized => .ok normalized
  | .error error => .error (invalidPayload ("invalid symbol ".toList ++ Text.debug symbol ++
      ": ".toList ++ error.display))

/-- The three refusals of the symbol grammar differ in one word. -/
def invalidGrammar (symbol grammar : Text) : AdapterError :=
  .invalidSubscription .bingx ("symbol ".toList ++ Text.debug symbol ++ " must use ".toList ++
    grammar ++ " grammar".toList)

/-- ASCII letters and digits. -/
def asciiAlphanumeric (value : Text) : Bool := value.all fun c => c.isAlphanum

/-- The symbol grammar of BingX: normalized already, with one separator between
two non-empty parts. -/
def validateBingxSymbol (symbol : Text) : Except AdapterError Unit :=
  match normalizedSymbol symbol with
  | .error error => .error error
  | .ok normalized =>
    if normalized ≠ symbol ∨ normalized.count '-' ≠ 1 then
      .error (invalidGrammar symbol "uppercase BASE-QUOTE".toList)
    else match Text.splitOnce '-' normalized with
      | none => .error (invalidGrammar symbol "BASE-QUOTE".toList)
      | some (base, quote) =>
        if base.isEmpty || quote.isEmpty || !asciiAlphanumeric base || !asciiAlphanumeric quote then
          .error (invalidGrammar symbol "ASCII BASE-QUOTE".toList)
        else .ok ()

/-- The venue's topics of a key. -/
def keyTopics (subscription : SubscriptionKey) : List Text :=
  match subscription.channel with
  | .ticker => [subscription.symbol ++ "@ticker".toList, subscription.symbol ++ "@markPrice".toList,
      subscription.symbol ++ "@bookTicker".toList]
  | .candle1m => [subscription.symbol ++ "@kline_1m".toList]

/-- The collecting loop. Tickers dropped before a symbol is refused stay
dropped. -/
def collect (action : SubscriptionAction) :
    List Text → Tickers → List SubscriptionKey → Except AdapterError (List Text) × Tickers
  | requested, tickers, [] => (.ok requested, tickers)
  | requested, tickers, subscription :: rest =>
    match validateBingxSymbol subscription.symbol with
    | .error error => (.error error, tickers)
    | .ok () => collect action (pushAll requested (keyTopics subscription))
        (forgetTickers action [subscription] tickers) rest

end Symbols

/-- The verb of a command. -/
def requestType : SubscriptionAction → Text
  | .subscribe => "sub".toList
  | .unsubscribe => "unsub".toList

/-- One id for each topic. -/
def command (action : SubscriptionAction) (s : BingxSession) (topic : Text) :
    OutboundCommand × BingxSession :=
  let requestId := "gateway-".toList ++ Text.ofNat s.nextRequestId
  (⟨requestId, .object [("dataType".toList, .string topic), ("id".toList, .string requestId),
      ("reqType".toList, .string (requestType action))], 1⟩,
    { s with nextRequestId := checkedNext s.nextRequestId })

/-- The refusal of a diff that needs too many topics. -/
def limitExceeded : AdapterError :=
  .invalidSubscription .bingx ("subscription would exceed BingX's ".toList ++
    Text.ofNat bingxMaxTopicsPerConnection ++ "-topic connection limit".toList)

/-- The topics of a diff that change the active set, and the set after it. The
requested topics are distinct, so removing them one by one is filtering. -/
def changeTopics (activeTopics : Finset Text) (requested : List Text) :
    SubscriptionAction → Except AdapterError (List Text × Finset Text)
  | .subscribe =>
    let newTopics := requested.filter (· ∉ activeTopics)
    if activeTopics.card + newTopics.length > bingxMaxTopicsPerConnection then
      .error limitExceeded
    else .ok (newTopics, activeTopics ∪ newTopics.toFinset)
  | .unsubscribe =>
    .ok (requested.filter (· ∈ activeTopics), activeTopics \ requested.toFinset)

/-- The active topics change only when the whole diff fits the limit. -/
def subscriptionMessages [Unicode] (s : BingxSession) (action : SubscriptionAction)
    (subscriptions : List SubscriptionKey) :
    Except AdapterError (List OutboundCommand) × BingxSession :=
  match validateSubscriptions .bingx subscriptions with
  | .error error => (.error error, s)
  | .ok () => match collect action [] s.tickers subscriptions with
    | (.error error, tickers) => (.error error, { s with tickers })
    | (.ok requested, tickers) => match changeTopics s.activeTopics requested action with
      | .error error => (.error error, { s with tickers })
      | .ok (topics, activeTopics) =>
        let (messages, s) := issue (command action) { s with tickers, activeTopics } topics
        (.ok messages, s)

/-- The commands of a diff that is accepted. -/
theorem subscriptionMessages_ok [Unicode] {s s' : BingxSession} {action : SubscriptionAction}
    {keys : List SubscriptionKey} {messages : List OutboundCommand}
    (h : s.subscriptionMessages action keys = (.ok messages, s')) :
    ∃ requested tickers topics activeTopics,
      collect action [] s.tickers keys = (.ok requested, tickers) ∧
      changeTopics s.activeTopics requested action = .ok (topics, activeTopics) ∧
      issue (command action) { s with tickers, activeTopics } topics = (messages, s') := by
  unfold subscriptionMessages at h
  split at h
  · simp at h
  · split at h
    · simp at h
    · next requested tickers hCollect =>
      split at h
      · simp at h
      · -- the keys are collected and the topics fit the connection
        next topics activeTopics hChange =>
        obtain ⟨hMessages, rfl⟩ := Prod.mk.inj h
        obtain rfl := Except.ok.inj hMessages
        exact ⟨requested, tickers, topics, activeTopics, hCollect, hChange, rfl⟩

/-- BingX is kept alive by answering; the heartbeat repeats the answer. -/
def heartbeat (s : BingxSession) : Heartbeat × BingxSession := (.text "Pong".toList, s)

/-- The code and the message of a refusal. -/
def controlErrorMessage (value : Value) (code : Int) : Text :=
  let message := ((value.get "msg".toList).bind Value.asStr).getD "unknown command error".toList
  "code ".toList ++ Text.ofInt code ++ ": ".toList ++ message

/-- What a control frame says, or `none` for a frame that is not one. -/
def parseControl (value : Value) : Option (Except AdapterError ParsedFrame) :=
  match value.get "id".toList with
  -- only command responses carry an id
  | none => none
  | some (.string requestId) =>
    if requestId.isEmpty || 64 < Text.byteLen requestId then
      some (.error (invalidPayload "invalid command response id".toList))
    else match value.get "code".toList with
      | some (.number code) => match code.asI64 with
        | some code =>
          if code ≠ 0 then some (.error (commandRejected (controlErrorMessage value code)))
          else some (.ok (.acknowledgement requestId))
        | none => some (.error (invalidPayload "control code must be an integer".toList))
      | some _ => some (.error (invalidPayload "control code must be an integer".toList))
      | none => some (.error (invalidPayload "command response is missing code".toList))
  | some _ => some (.error (invalidPayload "invalid command response id".toList))

/-- The literals come first, since they are no JSON; a ping is answered at once. -/
def parse [JsonText] [MarketData] (s : BingxSession) (text : Text) (receivedAtMs : Nat) :
    Except AdapterError ParsedFrame × BingxSession :=
  if text = "Ping".toList then (.ok (.reply (.text "Pong".toList)), s)
  else if text = "Pong".toList then (.ok .pong, s)
  else match JsonText.fromStr text with
  | .error error => (.error (invalidPayload ("invalid JSON: ".toList ++ error)), s)
  | .ok value =>
    if !value.isObject then
      (.error (invalidPayload "top-level payload must be an object".toList), s)
    else match parseControl value with
      | some result => (result, s)
      | none =>
        let (result, tickers) :=
          MarketData.parse .bingx s.connectionEpoch s.tickers value text receivedAtMs
        (result.map .ofMarket, { s with tickers })

end BingxSession

/-- The BingX row of `configured_adapters`. -/
def bingxAdapter [Unicode] [JsonText] [MarketData] : ProviderAdapter where
  Session := BingxSession
  endpoints := [.primary]
  endpointFor _ := .primary
  maxSubscriptions := bingxMaxTopicsPerConnection
  session _ connectionEpoch := .new connectionEpoch
  subscriptionMessages := BingxSession.subscriptionMessages
  heartbeat := BingxSession.heartbeat
  parse := BingxSession.parse

end MarketStreamGateway
