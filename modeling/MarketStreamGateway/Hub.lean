import MarketStreamGateway.Registry

/-!
# Market Stream Gateway — downstream hub

`GatewayHub` of `gateway.rs`: the two-way index between clients and keys, one
bounded queue and one lag counter per registration, and the numbering of the
published events.

A registration's channels are shared by the hub (sender) and the client's
session (receiver), so they live in a heap of feeds (`GatewayHub.feeds`) and a
route holds the handle. A feed also remembers what was ever put into it and
taken from it (`enqueued`, `received`); no operation reads these two.

`publish` takes two locks one after the other: numbering under
`publish_order`, routing under `routes`. Other operations may run between the
two, other publishers may not. It is therefore two steps, with the numbered
event `inFlight` in between.
-/

namespace MarketStreamGateway

open Lib

/-! ## Feeds -/

/-- Handle of the channels created for one registration. -/
abbrev FeedId := Nat

/-- The bounded event channel and the lag watch of one registration. -/
structure Feed where
  capacity : Nat
  buffer : List MarketEvent
  receiverAlive : Bool
  lagged : Nat
  enqueued : List MarketEvent
  received : List MarketEvent
  deriving DecidableEq, Repr

/-- The two ways a bounded channel refuses an event. -/
inductive TrySendError where
  | full
  | closed
  deriving DecidableEq, Repr

namespace Feed

/-- A fresh pair of channels. -/
def channel (capacity : Nat) : Feed := ⟨capacity, [], true, 0, [], []⟩

/-- `mpsc::Sender::try_send`. -/
def trySend (f : Feed) (event : MarketEvent) : Except TrySendError Feed :=
  if !f.receiverAlive then .error .closed
  else if f.capacity ≤ f.buffer.length then .error .full
  else .ok { f with buffer := f.buffer ++ [event], enqueued := f.enqueued ++ [event] }

/-- A refused event is counted, up to the end of the counter. -/
def recordLag (f : Feed) : Feed := { f with lagged := min (f.lagged + 1) u64Max }

/-- `mpsc::Receiver::recv` on a queue that is not empty. -/
def receive (f : Feed) : Feed :=
  match f.buffer with
  | [] => f
  | event :: rest => { f with buffer := rest, received := f.received ++ [event] }

/-- Dropping the receiver closes the channel and discards what is queued. -/
def dropReceiver (f : Feed) : Feed := { f with buffer := [], receiverAlive := false }

/-- What one round of the fan-out loop leaves of the feed it offers to. -/
def offer (f : Feed) (event : MarketEvent) : Feed :=
  match f.trySend event with
  | .ok sent => sent
  | .error .full => f.recordLag
  | .error .closed => f

end Feed

/-! ## Routes -/

/-- Where a client's events go, and which keys it wants. -/
structure ClientRoute where
  events : FeedId
  subscriptions : Finset SubscriptionKey

/-- The two tables of the hub, by client and by key. -/
structure RouteState where
  clients : Finmap fun _ : ClientId => ClientRoute
  clientsByKey : Finmap fun _ : SubscriptionKey => Finset ClientId

namespace RouteState

/-- The clients listed under a key; a key without an entry lists none. -/
def listed (r : RouteState) (key : SubscriptionKey) : Finset ClientId :=
  (r.clientsByKey.lookup key).getD ∅

/-- The keys routed to a client; a client without a route has none. -/
def subscribed (r : RouteState) (client : ClientId) : Finset SubscriptionKey :=
  ((r.clients.lookup client).map ClientRoute.subscriptions).getD ∅

/-- Take a client off a key. A key nobody is left on loses its entry. -/
def removeKeyRoute (client : ClientId) (r : RouteState) (key : SubscriptionKey) : RouteState :=
  match r.clientsByKey.lookup key with
  | none => r
  | some clientIds =>
    let remaining := clientIds.erase client
    if remaining = ∅ then { r with clientsByKey := r.clientsByKey.erase key }
    else { r with clientsByKey := r.clientsByKey.insert key remaining }

/-- The counterpart for a key that becomes routed. -/
def addKeyRoute (client : ClientId) (r : RouteState) (key : SubscriptionKey) : RouteState :=
  { r with clientsByKey := r.clientsByKey.insert key (insert client (r.listed key)) }

/-- Overwrite the subscription set of a client that has a route. -/
def setSubscriptions (r : RouteState) (client : ClientId)
    (subscriptions : Finset SubscriptionKey) : RouteState :=
  match r.clients.lookup client with
  | none => r
  | some route => { r with clients := r.clients.insert client { route with subscriptions } }

/-- Empty a client's subscription set and take it out of the index; with
`dropClient`, forget the client and drop its senders too. -/
def removeRoute (r : RouteState) (client : ClientId) (dropClient : Bool) : RouteState :=
  let subscriptions := r.subscribed client
  let unlisted := (iter subscriptions).foldl (removeKeyRoute client) (r.setSubscriptions client ∅)
  if dropClient then { unlisted with clients := unlisted.clients.erase client } else unlisted

end RouteState

/-! ## The hub -/

/-- The only failure of a publication. -/
inductive PublishError where
  | sequenceExhausted
  deriving DecidableEq, Repr

/-- The hub, with the channels behind its handles. -/
structure GatewayHub where
  streamEpoch : Uuid
  nextDeliverySequence : Nat
  clientCapacity : Nat
  maxClients : Nat
  routes : RouteState
  /-- The event numbered by the publisher that holds `publish_order`. -/
  inFlight : Option MarketEvent
  feeds : FeedId → Feed
  nextFeed : FeedId

/-- The accumulators of the fan-out loop of `route_event`. -/
structure Fanout where
  feeds : FeedId → Feed
  lagged : List ClientId
  closed : List ClientId

/-- One round of the fan-out loop. -/
def Fanout.offer (routes : RouteState) (event : MarketEvent) (acc : Fanout) (client : ClientId) :
    Fanout :=
  match routes.clients.lookup client with
  | none => acc
  | some route =>
    let feed := acc.feeds route.events
    match feed.trySend event with
    | .ok sent => { acc with feeds := Function.update acc.feeds route.events sent }
    | .error .full =>
      { acc with
        feeds := Function.update acc.feeds route.events feed.recordLag
        lagged := acc.lagged ++ [client] }
    | .error .closed => { acc with closed := acc.closed ++ [client] }

namespace GatewayHub

/-- A hub without clients; the first event is number one. -/
def withClientLimit (streamEpoch : Uuid) (capacity maxClients : Nat) : GatewayHub where
  streamEpoch := streamEpoch
  nextDeliverySequence := 1
  clientCapacity := capacity
  maxClients := maxClients
  routes := ⟨∅, ∅⟩
  inFlight := none
  feeds := fun _ => .channel capacity
  nextFeed := 0

/-- Register a client unless the global limit is reached; a client that is
already registered is replaced. -/
def tryRegisterClient (h : GatewayHub) (client : ClientId) : Option FeedId × GatewayHub :=
  if client ∉ h.routes.clients ∧ h.maxClients ≤ h.routes.clients.keys.card then (none, h)
  else
    let vacated := h.routes.removeRoute client true
    (some h.nextFeed,
      { h with
        routes := { vacated with clients := vacated.clients.insert client ⟨h.nextFeed, ∅⟩ }
        feeds := Function.update h.feeds h.nextFeed (.channel h.clientCapacity)
        nextFeed := h.nextFeed + 1 })

/-- Replace the keys routed to one registered client; `false` when the client
has no route. -/
def updateClientSubscriptions (h : GatewayHub) (client : ClientId)
    (subscriptions : Finset SubscriptionKey) : Bool × GatewayHub :=
  match h.routes.clients.lookup client with
  | none => (false, h)
  | some route =>
    let current := route.subscriptions
    let unlisted := (iter (current \ subscriptions)).foldl (RouteState.removeKeyRoute client)
      h.routes
    let listed := (iter (subscriptions \ current)).foldl (RouteState.addKeyRoute client) unlisted
    (true, { h with routes := listed.setSubscriptions client subscriptions })

/-- What the source calls when a session ends. -/
def removeClient (h : GatewayHub) (client : ClientId) : GatewayHub :=
  { h with routes := h.routes.removeRoute client true }

/-- The first half of `publish`, up to the numbered event. -/
def numberEvent (h : GatewayHub) (event : ProviderEvent) :
    Except PublishError MarketEvent × GatewayHub :=
  if h.nextDeliverySequence ≥ u64Max then (.error .sequenceExhausted, h)
  else
    let numbered := event.intoMarketEvent h.streamEpoch h.nextDeliverySequence
    (.ok numbered,
      { h with nextDeliverySequence := h.nextDeliverySequence + 1, inFlight := some numbered })

/-- Offer an event to every client listed under its key, then stop routing to
the lagged ones and forget the closed ones. -/
def routeEvent (h : GatewayHub) (event : MarketEvent) : GatewayHub :=
  let clientIds := h.routes.listed event.subscriptionKey
  let fanout := (iter clientIds).foldl (Fanout.offer h.routes event) ⟨h.feeds, [], []⟩
  let stopped := fanout.lagged.foldl (·.removeRoute · false) h.routes
  let routes := fanout.closed.foldl (·.removeRoute · true) stopped
  { h with routes, feeds := fanout.feeds }

end GatewayHub

/-! ## Runs -/

/-- One atomic step of the hub or of the holder of a receiver. -/
inductive HubOp where
  | register (client : ClientId)
  | update (client : ClientId) (subscriptions : Finset SubscriptionKey)
  | remove (client : ClientId)
  /-- A publisher takes `publish_order` and numbers its event. -/
  | number (event : ProviderEvent)
  /-- The publisher holding `publish_order` routes its event and lets go. -/
  | route
  | receive (feed : FeedId)
  | dropReceiver (feed : FeedId)

/-- What an observer sees of a step. -/
inductive HubObservation where
  | registered (client : ClientId) (feed : FeedId)
  | updated (client : ClientId) (subscriptions : Finset SubscriptionKey)
  | removed (client : ClientId)
  | published (event : MarketEvent)

namespace GatewayHub

/-- Change one channel and leave the others. -/
def mapFeed (h : GatewayHub) (feed : FeedId) (f : Feed → Feed) : GatewayHub :=
  { h with feeds := Function.update h.feeds feed (f (h.feeds feed)) }

/-- The hub after an operation. Numbering and routing are two operations, since
the lock is held across an await. -/
def step (h : GatewayHub) : HubOp → GatewayHub
  | .register client => (h.tryRegisterClient client).2
  | .update client subscriptions => (h.updateClientSubscriptions client subscriptions).2
  | .remove client => h.removeClient client
  -- a second publisher waits for `publish_order`
  | .number event => if h.inFlight.isSome then h else (h.numberEvent event).2
  | .route =>
    match h.inFlight with
    | none => h
    | some event => { h.routeEvent event with inFlight := none }
  | .receive feed => h.mapFeed feed Feed.receive
  | .dropReceiver feed => h.mapFeed feed Feed.dropReceiver

/-- What an operation shows to the outside. -/
def observe (h : GatewayHub) : HubOp → List HubObservation
  | .register client => ((h.tryRegisterClient client).1.map (.registered client)).toList
  | .update client subscriptions => [.updated client subscriptions]
  | .remove client => [.removed client]
  | .route => (h.inFlight.map .published).toList
  | .number _ | .receive _ | .dropReceiver _ => []

end GatewayHub

/-- The events published successfully, in the order of their publication. -/
def published (seen : List HubObservation) : List MarketEvent :=
  seen.filterMap fun
    | .published event => some event
    | _ => none

end MarketStreamGateway
