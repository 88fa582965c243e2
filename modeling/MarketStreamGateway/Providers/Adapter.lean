import MarketStreamGateway.Domain
import MarketStreamGateway.Lib.Json

/-!
# Market Stream Gateway — provider adapters

The interface of `providers/mod.rs` between the connection runtime and the six
venues. `ProviderAdapter` collects the methods of the two traits that compute;
the network part of `connection_target` is left to the runtime's environment.
A session is state passed from call to call: a call that fails still returns
the session, because an adapter may have changed it before failing.

The text of an outbound command is kept as the JSON document it prints, with
its members in the order they are printed in: sorted for a `json!` object, as
declared for a struct.
-/

namespace MarketStreamGateway

open Lib

/-- `DEFAULT_MAX_PROVIDER_SUBSCRIPTIONS`. -/
def defaultMaxProviderSubscriptions : Nat := 1000

/-- The websocket endpoints of a venue: primary, public (`pub`) and business. -/
inductive EndpointKind where
  | primary | pub | business
  deriving DecidableEq, Repr

/-- The name an endpoint has in messages. -/
def EndpointKind.display : EndpointKind → Text
  | .primary => "primary".toList
  | .pub => "public".toList
  | .business => "business".toList

/-- The two directions of a subscription diff. -/
inductive SubscriptionAction where
  | subscribe | unsubscribe
  deriving DecidableEq, Repr

/-- What a session sends to keep its connection alive. -/
inductive Heartbeat where
  | text (text : Text)
  | webSocketPing (payload : List UInt8)
  deriving DecidableEq, Repr

/-- A command, the id it is acknowledged under, and how many acknowledgements it takes. -/
structure OutboundCommand where
  requestId : Text
  document : Value
  expectedAcknowledgements : Nat
  deriving Repr

/-- What a session makes of a text frame. -/
inductive ParsedFrame where
  | events (events : List ProviderEvent)
  | acknowledgement (requestId : Text)
  | reply (heartbeat : Heartbeat)
  | pong
  | ignored
  deriving DecidableEq, Repr

/-- Why a session refused a diff or a frame. -/
inductive AdapterError where
  | unsupportedEndpoint (provider : Provider) (endpoint : EndpointKind)
  | invalidSubscription (provider : Provider) (message : Text)
  | invalidPayload (provider : Provider) (message : Text)
  | commandRejected (provider : Provider) (message : Text)
  | discovery (provider : Provider) (message : Text)
  deriving DecidableEq, Repr

/-- The message of a refusal, which health reports and logs show. -/
def AdapterError.display : AdapterError → Text
  | .unsupportedEndpoint provider endpoint =>
    "unsupported ".toList ++ provider.display ++ " endpoint ".toList ++ endpoint.display
  | .invalidSubscription provider message =>
    "invalid subscription for ".toList ++ provider.display ++ ": ".toList ++ message
  | .invalidPayload provider message =>
    provider.display ++ " returned invalid data: ".toList ++ message
  | .commandRejected provider message =>
    provider.display ++ " rejected a command: ".toList ++ message
  | .discovery provider message =>
    "could not discover ".toList ++ provider.display ++ " websocket endpoint: ".toList ++ message

/-- The computing methods of `ProviderAdapter` and of the `AdapterSession` it
opens. The provider itself is the index of the family of adapters. -/
structure ProviderAdapter where
  Session : Type
  endpoints : List EndpointKind
  endpointFor : Channel → EndpointKind
  maxSubscriptions : Nat
  session : EndpointKind → Uuid → Session
  subscriptionMessages : Session → SubscriptionAction → List SubscriptionKey →
    Except AdapterError (List OutboundCommand) × Session
  heartbeat : Session → Heartbeat × Session
  parse : Session → Text → Nat → Except AdapterError ParsedFrame × Session

/-- The cached ticker state of a session, by symbol. -/
abbrev Tickers := Finmap fun _ : Text => Ticker

/-- The market-data half of a session's `parse`: what it makes of a frame that
is not a control frame, and of the ticker cache. `none` is an ignored frame. -/
class MarketData where
  parse : Provider → Uuid → Tickers → Value → Text → Nat →
    Except AdapterError (Option (List ProviderEvent)) × Tickers

/-- Ignores market data, for closed runs without any. -/
@[reducible] def MarketData.silent : MarketData := ⟨fun _ _ tickers _ _ _ => (.ok none, tickers)⟩

/-- A market-data frame as a parsed frame. -/
def ParsedFrame.ofMarket : Option (List ProviderEvent) → ParsedFrame
  | some market => .events market
  | none => .ignored

/-- Unsubscribing a ticker drops its cached state. -/
def forgetTickers (action : SubscriptionAction) (subscriptions : List SubscriptionKey)
    (tickers : Tickers) : Tickers :=
  match action with
  | .subscribe => tickers
  | .unsubscribe => subscriptions.foldl (fun tickers subscription =>
      match subscription.channel with
      | .ticker => tickers.erase subscription.symbol
      | .candle1m => tickers) tickers

/-- `checked_add(1).unwrap_or(1)`. -/
def checkedNext (id : Nat) : Nat := if id + 1 ≤ u64Max then id + 1 else 1

/-- `wrapping_add(1).max(1)`. -/
def wrappingNext (id : Nat) : Nat := max ((id + 1) % 2 ^ 64) 1

/-- Every key handed to a session belongs to its provider. -/
def validateSubscriptions (provider : Provider) (subscriptions : List SubscriptionKey) :
    Except AdapterError Unit :=
  match subscriptions.find? fun subscription => subscription.provider ≠ provider with
  | some subscription =>
    .error (.invalidSubscription provider
      ("received ".toList ++ subscription.provider.display ++ " subscription for ".toList ++
        subscription.symbol))
  | none => .ok ()

end MarketStreamGateway
