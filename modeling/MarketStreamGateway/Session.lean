import MarketStreamGateway.Hub

/-!
# Market Stream Gateway — client sessions

`client_session` of `api.rs` and what it calls: the select loop, the handling
of a client command, and the clean-up. Sessions share the hub and the
registry; each owns the receiving end of its feed.

A session is a task that other tasks may overtake wherever it touches shared
state, so one command is several steps: the registry mutation, the hub update
and the reply. `SessionPhase` is the point between two steps. `tokio::select!`
may pick any ready branch, so every branch is a step of its own.

What the outside decides is an argument of the step: the decoded message, the
catalog's verdicts, the order in which a hash map is iterated, whether a send
succeeds in time.
-/

namespace MarketStreamGateway

open Lib

/-! ## Wire messages -/

/-- What a client may send, each with an id that the answer repeats. -/
inductive ClientCommand where
  | subscribe (requestId : Text) (subscriptions : List Subscription)
  | unsubscribe (requestId : Text) (subscriptions : List Subscription)
  | ping (requestId : Text)

/-- The id of a command. -/
def ClientCommand.requestId : ClientCommand → Text
  | .subscribe requestId _ | .unsubscribe requestId _ | .ping requestId => requestId

/-- The kinds of error frames. -/
inductive ErrorCode where
  | invalidJson | invalidCommand | limitExceeded | unsupportedSubscription | lagged | internal
  deriving DecidableEq, Repr

/-- The frames that are no market data. -/
inductive ControlMessage where
  | hello (streamEpoch : Uuid) (maxSubscriptions maxProviderSubscriptions : Nat)
  | ack (requestId operation : Text) (subscriptions : List SubscriptionKey)
  | error (requestId : Option Text) (code : ErrorCode) (message : Text)
  | pong (requestId : Text)
  | gap (droppedMessages : Nat) (message : Text)
  deriving DecidableEq

/-- One message on a client's socket. -/
inductive Frame where
  | event (event : MarketEvent)
  | control (message : ControlMessage)
  deriving DecidableEq

/-- A message from a client. A text carries its size in bytes and what
`serde_json` makes of it, a ping whether the pong could be sent. -/
inductive ClientMessage where
  | text (bytes : Nat) (parsed : Except ErrorCode ClientCommand)
  | ping (answered : Bool)
  | pong
  | binary
  | close

/-! ## Commands -/

/-- What a session asks of the catalog: the text of its error, if it refuses. -/
abbrev CatalogVerdict := SubscriptionKey → Except Text Unit

/-- The configuration all sessions share. -/
structure ApiConfig where
  enabledProviders : Finset Provider
  maxCommandBytes : Nat

/-- The longest request id that is accepted, in bytes. -/
def maxRequestIdBytes : Nat := 128

/-- The ceiling that is safe for a client to apply to any provider. -/
def ProviderLimits.minimum (l : ProviderLimits) : Nat :=
  ((Provider.all.filterMap l.limits).min?).getD l.fallback

/-- The first half of a command: a reply, or a routing update that an
acknowledgement follows. -/
inductive Handled where
  | reply (message : ControlMessage)
  | route (subscriptions : Finset SubscriptionKey) (ack : ControlMessage)

section Commands

variable [Unicode]

/-- The keys of a request, in ascending order and each of them once; one bad
entry refuses the request. -/
def expandSubscriptions (requested : List Subscription) : Except Text (List SubscriptionKey) :=
  if requested.isEmpty then .error "subscriptions must not be empty".toList
  else do
    let expanded ← requested.mapM fun subscription =>
      match subscription.intoKeys with
      | .ok keys => .ok keys
      | .error error => .error error.display
    .ok (iter expanded.flatten.toFinset)

/-- The checks of a subscribe command before the registry is asked: every
provider is enabled, and every key is in the catalog. -/
def validatedSubscriptionKeys (config : ApiConfig) (catalog : CatalogVerdict) (requestId : Text)
    (requested : List Subscription) : Except ControlMessage (List SubscriptionKey) :=
  match expandSubscriptions requested with
  | .error message => .error (.error (some requestId) .invalidCommand message)
  | .ok keys =>
    match keys.find? fun key => key.provider ∉ config.enabledProviders with
    | some key =>
      .error (.error (some requestId) .unsupportedSubscription
        (key.provider.display ++ " is disabled".toList))
    | none =>
      match keys.findSome? fun key => (match catalog key with
        | .error message => some message
        | .ok () => none) with
      | some message => .error (.error (some requestId) .unsupportedSubscription message)
      | none => .ok keys

/-- A limit of the registry, as an error frame. -/
def registryErrorReply (requestId : Text) : RegistryError → ControlMessage
  | .clientLimitExceeded limit requested =>
    .error (some requestId) .limitExceeded
      ("subscription limit exceeded: requested ".toList ++ Text.ofNat requested ++
        ", maximum ".toList ++ Text.ofNat limit)
  | .providerLimitExceeded provider limit requested =>
    .error (some requestId) .limitExceeded
      (provider.display ++ " subscription limit exceeded: requested ".toList ++
        Text.ofNat requested ++ ", maximum ".toList ++ Text.ofNat limit)

/-- `subscribe`, up to the hub update. -/
def subscribe (config : ApiConfig) (catalog : CatalogVerdict) (order : ProviderOrder)
    (registry : SubscriptionRegistry) (client : ClientId) (requestId : Text)
    (requested : List Subscription) : Handled × SubscriptionRegistry :=
  match validatedSubscriptionKeys config catalog requestId requested with
  | .error reply => (.reply reply, registry)
  | .ok keys =>
    match registry.add order client keys with
    | (.error error, registry) => (.reply (registryErrorReply requestId error), registry)
    | (.ok change, registry) =>
      (.route change.clientSubscriptions (.ack requestId "subscribe".toList keys), registry)

/-- `unsubscribe`, up to the hub update. -/
def unsubscribe (registry : SubscriptionRegistry) (client : ClientId) (requestId : Text)
    (requested : List Subscription) : Handled × SubscriptionRegistry :=
  match expandSubscriptions requested with
  | .error message => (.reply (.error (some requestId) .invalidCommand message), registry)
  | .ok keys =>
    let removal := registry.remove client keys
    (.route removal.change.clientSubscriptions (.ack requestId "unsubscribe".toList keys),
      removal.registry)

/-- `apply_command`: the id is checked before anything else. -/
def applyCommand (config : ApiConfig) (catalog : CatalogVerdict) (order : ProviderOrder)
    (registry : SubscriptionRegistry) (client : ClientId) (command : ClientCommand) :
    Handled × SubscriptionRegistry :=
  if command.requestId.isEmpty || Text.byteLen command.requestId > maxRequestIdBytes then
    (.reply (.error (some command.requestId) .invalidCommand
      "request_id must contain between 1 and 128 bytes".toList), registry)
  else match command with
    | .ping requestId => (.reply (.pong requestId), registry)
    | .subscribe requestId requested =>
      subscribe config catalog order registry client requestId requested
    | .unsubscribe requestId requested => unsubscribe registry client requestId requested

/-- `handle_text_message`, up to the hub update. -/
def handleTextMessage (config : ApiConfig) (catalog : CatalogVerdict) (order : ProviderOrder)
    (registry : SubscriptionRegistry) (client : ClientId) (bytes : Nat)
    (parsed : Except ErrorCode ClientCommand) : Handled × SubscriptionRegistry :=
  if bytes > config.maxCommandBytes then
    (.reply (.error none .limitExceeded "command exceeds maximum size".toList), registry)
  else match parsed with
    | .error code => (.reply (.error none code "invalid client command".toList), registry)
    | .ok command => applyCommand config catalog order registry client command

end Commands

/-! ## Sessions -/

/-- Where a session stands between two steps. -/
inductive SessionPhase where
  /-- At the select loop. -/
  | selecting
  /-- The registry has answered; the hub update is next. -/
  | routing (ack : ControlMessage)
  | replying (message : ControlMessage)
  /-- Out of the loop; `remove_client` is next, then `cleanup_client`, then the
  feed is dropped. -/
  | closing
  | unrouted
  | released
  | ended
  deriving DecidableEq

/-- A client session: where its loop stands, its receiver, and the set it hands
to the hub. -/
structure Session where
  phase : SessionPhase
  feed : FeedId
  subscriptions : Finset SubscriptionKey
  /-- Everything sent to the client. -/
  sent : List Frame

/-- The events among the frames sent to a client. -/
def Session.sentEvents (x : Session) : List MarketEvent :=
  x.sent.filterMap fun
    | .event event => some event
    | .control _ => none

/-- The shared state and the sessions; a client without a session has not
connected or was turned away. -/
structure Gateway where
  config : ApiConfig
  hub : GatewayHub
  subscriptions : SubscriptionRegistry
  sessions : ClientId → Option Session

/-- The steps of the gateway. A session takes several of them for one command,
and other sessions take theirs in between. -/
inductive GatewayOp where
  /-- A client connects under a fresh identity; `helloSent` is the fate of the
  hello frame. -/
  | connect (client : ClientId) (helloSent : Bool)
  /-- The select loop takes the next message of the socket, or its end. -/
  | incoming (client : ClientId) (catalog : CatalogVerdict) (order : ProviderOrder)
      (message : Option ClientMessage)
  | updateRoutes (client : ClientId)
  | reply (client : ClientId) (sent : Bool)
  /-- The select loop takes the next event of the feed. -/
  | deliver (client : ClientId) (sent : Bool)
  /-- The select loop takes the lag notification. -/
  | lag (client : ClientId) (sent : Bool)
  | shutdown (client : ClientId)
  | removeClient (client : ClientId)
  | cleanupClient (client : ClientId)
  | dropFeed (client : ClientId)
  | number (event : ProviderEvent)
  | route

namespace Gateway

/-- A gateway without sessions. -/
def new (config : ApiConfig) (hub : GatewayHub) (registry : SubscriptionRegistry) : Gateway :=
  ⟨config, hub, registry, fun _ => none⟩

/-- The gateway with one session replaced. -/
def setSession (s : Gateway) (client : ClientId) (x : Session) : Gateway :=
  { s with sessions := Function.update s.sessions client (some x) }

/-- One select branch of a session, with the hub operation it performs. -/
structure Turn where
  session : Session
  hubOps : List HubOp

variable [Unicode]

/-- `handle_client_message`. -/
def handleClientMessage (s : Gateway) (client : ClientId) (x : Session)
    (catalog : CatalogVerdict) (order : ProviderOrder) : Option ClientMessage →
    Session × SubscriptionRegistry
  | none | some .close | some (.ping false) => ({ x with phase := .closing }, s.subscriptions)
  | some (.ping true) | some .pong => (x, s.subscriptions)
  | some .binary =>
    let error := ControlMessage.error none .invalidCommand
      "commands must be UTF-8 JSON text".toList
    ({ x with phase := .replying error }, s.subscriptions)
  | some (.text bytes parsed) =>
    match handleTextMessage s.config catalog order s.subscriptions client bytes parsed with
    | (.reply message, registry) => ({ x with phase := .replying message }, registry)
    | (.route subscriptions ack, registry) =>
      ({ x with phase := .routing ack, subscriptions }, registry)

/-- The feed's senders are gone once the client's route no longer holds them. -/
def senderAlive (s : Gateway) (client : ClientId) (feed : FeedId) : Bool :=
  match s.hub.routes.clients.lookup client with
  | some route => route.events = feed
  | none => false

/-- Taking an event from the feed: `recv` and the send that follows. -/
def deliverEvent (s : Gateway) (client : ClientId) (x : Session) (sent : Bool) : Turn :=
  match (s.hub.feeds x.feed).buffer with
  | event :: _ =>
    { session := if sent then { x with sent := x.sent ++ [.event event] }
        else { x with phase := .closing }
      hubOps := [.receive x.feed] }
  | [] => { session := if s.senderAlive client x.feed then x else { x with phase := .closing }
            hubOps := [] }

/-- The lag branch: report the gap, then leave the loop. -/
def reportLag (s : Gateway) (client : ClientId) (x : Session) (sent : Bool) : Session :=
  let dropped := (s.hub.feeds x.feed).lagged
  if 0 < dropped then
    let gap := Frame.control
      (.gap dropped "downstream buffer overrun; reconnect and repair gaps".toList)
    { x with phase := .closing, sent := if sent then x.sent ++ [gap] else x.sent }
  else if s.senderAlive client x.feed then x
  else { x with phase := .closing }

/-- The hub operations of a step. -/
def hubOps (s : Gateway) : GatewayOp → List HubOp
  | .connect client _ => if (s.sessions client).isSome then [] else [.register client]
  | .updateRoutes client =>
    match s.sessions client with
    | some ⟨.routing _, _, subscriptions, _⟩ => [.update client subscriptions]
    | _ => []
  | .deliver client sent =>
    match s.sessions client with
    | some x => if x.phase = .selecting then (s.deliverEvent client x sent).hubOps else []
    | none => []
  | .removeClient client =>
    match s.sessions client with
    | some ⟨.closing, _, _, _⟩ => [.remove client]
    | _ => []
  | .dropFeed client =>
    match s.sessions client with
    | some ⟨.released, feed, _, _⟩ => [.dropReceiver feed]
    | _ => []
  | .number event => [.number event]
  | .route => [.route]
  | _ => []

/-- What a step does outside the hub. -/
def localStep (s : Gateway) : GatewayOp → Gateway
  | .connect client helloSent =>
    match s.sessions client, (s.hub.tryRegisterClient client).1 with
    | none, some feed =>
      let hello := Frame.control (.hello s.hub.streamEpoch
        s.subscriptions.maxSubscriptionsPerClient s.subscriptions.providerLimits.minimum)
      s.setSession client
        { phase := if helloSent then .selecting else .closing
          feed, subscriptions := ∅, sent := if helloSent then [hello] else [] }
    | _, _ => s
  | .incoming client catalog order message =>
    match s.sessions client with
    | some x =>
      if x.phase = .selecting then
        let (session, registry) := s.handleClientMessage client x catalog order message
        { s.setSession client session with subscriptions := registry }
      else s
    | none => s
  | .updateRoutes client =>
    match s.sessions client with
    | some ⟨.routing ack, feed, subscriptions, sent⟩ =>
      s.setSession client ⟨.replying ack, feed, subscriptions, sent⟩
    | _ => s
  | .reply client sent =>
    match s.sessions client with
    | some ⟨.replying message, feed, subscriptions, frames⟩ =>
      s.setSession client
        (if sent then ⟨.selecting, feed, subscriptions, frames ++ [.control message]⟩
        else ⟨.closing, feed, subscriptions, frames⟩)
    | _ => s
  | .deliver client sent =>
    match s.sessions client with
    | some x =>
      if x.phase = .selecting then s.setSession client (s.deliverEvent client x sent).session
      else s
    | none => s
  | .lag client sent =>
    match s.sessions client with
    | some x => if x.phase = .selecting then s.setSession client (s.reportLag client x sent) else s
    | none => s
  | .shutdown client =>
    match s.sessions client with
    | some x =>
      if x.phase = .selecting then s.setSession client { x with phase := .closing } else s
    | none => s
  | .removeClient client =>
    match s.sessions client with
    | some ⟨.closing, feed, subscriptions, sent⟩ =>
      s.setSession client ⟨.unrouted, feed, subscriptions, sent⟩
    | _ => s
  | .cleanupClient client =>
    match s.sessions client with
    | some ⟨.unrouted, feed, subscriptions, sent⟩ =>
      { s.setSession client ⟨.released, feed, subscriptions, sent⟩ with
        subscriptions := (s.subscriptions.cleanupClient client).registry }
    | _ => s
  | .dropFeed client =>
    match s.sessions client with
    | some ⟨.released, feed, subscriptions, sent⟩ =>
      s.setSession client ⟨.ended, feed, subscriptions, sent⟩
    | _ => s
  | .number _ | .route => s

/-- A step changes the sessions and the registry first, then the hub, as the
calls it makes say. -/
def step (s : Gateway) (op : GatewayOp) : Gateway :=
  { s.localStep op with hub := run GatewayHub.step s.hub (s.hubOps op) }

end Gateway

end MarketStreamGateway
