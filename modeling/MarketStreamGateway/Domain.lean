import Mathlib.Data.List.Lex
import Mathlib.Data.Prod.Lex
import Mathlib.Data.Char
import MarketStreamGateway.Lib.Iter
import MarketStreamGateway.Lib.Text

/-!
# Market Stream Gateway — domain model

The provider-neutral vocabulary of `domain.rs`: venues, channels, canonical
subscription keys, timestamped decimals, tickers, candles and the events that
carry them, with the validation each of them has.

Symbols and decimals keep their exact text. `u64` times and counts are `Nat`;
where the source checks for overflow the check is written out. Identifiers
drawn at random (`Uuid`) are compared for equality and order only and are
`Nat` as well.

`RustDecimal` is the one dependency: the decimal type of the `rust_decimal`
crate, of which the code uses the two parsers, the printer and the order.
-/

namespace MarketStreamGateway

open Lib

/-- A UUID, as the number it is. -/
abbrev Uuid := Nat

/-- `u64::MAX`. -/
def u64Max : Nat := 2 ^ 64 - 1

/-! ## Venues, markets and channels -/

/-- The six venues, in the order they are declared. -/
inductive Provider where
  | bybit | binance | okx | kucoin | mexc | bingx
  deriving Repr

/-- The gateway serves one kind of market. -/
inductive MarketKind where
  | linearPerpetual
  deriving DecidableEq, Repr

/-- What a client can subscribe to. -/
inductive Channel where
  | ticker | candle1m
  deriving Repr

namespace Provider

/-- Position in the declaration, which is the derived order of the source. -/
def rank : Provider → Nat
  | bybit => 0 | binance => 1 | okx => 2 | kucoin => 3 | mexc => 4 | bingx => 5

/-- Providers are ordered by declaration, as the derived `Ord` orders them. -/
theorem rank_injective : Function.Injective rank := by
  intro p q h
  cases p <;> cases q <;> first | rfl | (simp [rank] at h)

instance : LinearOrder Provider := LinearOrder.lift' rank rank_injective

/-- The six venues, in order (`ALL_PROVIDERS`). -/
def all : List Provider := [bybit, binance, okx, kucoin, mexc, bingx]

/-- No provider is missing from the list. -/
theorem mem_all (p : Provider) : p ∈ all := by
  cases p <;> simp [all]

def display : Provider → Text
  | bybit => "bybit".toList
  | binance => "binance".toList
  | okx => "okx".toList
  | kucoin => "kucoin".toList
  | mexc => "mexc".toList
  | bingx => "bingx".toList

end Provider

/-- The name serde and `Display` give the market. -/
def MarketKind.display : MarketKind → Text
  | .linearPerpetual => "linear_perpetual".toList

namespace Channel

/-- Channels are ordered by declaration too. -/
def rank : Channel → Nat
  | ticker => 0 | candle1m => 1

theorem rank_injective : Function.Injective rank := by
  intro c d h
  cases c <;> cases d <;> first | rfl | (simp [rank] at h)

instance : LinearOrder Channel := LinearOrder.lift' rank rank_injective

def display : Channel → Text
  | ticker => "ticker".toList
  | candle1m => "candle_1m".toList

end Channel

/-! ## Errors -/

/-- Why a value is no part of the domain. -/
inductive DomainError where
  | invalidSymbol (symbol : Text)
  | noChannels
  | invalidDecimal (value : Text)
  | invalidMarketData (message : Text)
  deriving DecidableEq, Repr

/-- The message of a refusal. -/
def DomainError.display : DomainError → Text
  | .invalidSymbol symbol => "invalid venue symbol: ".toList ++ symbol
  | .noChannels => "subscription must contain at least one channel".toList
  | .invalidDecimal value => "invalid decimal value: ".toList ++ value
  | .invalidMarketData message => "invalid normalized market data: ".toList ++ message

/-! ## Symbols -/

section Symbols

variable [Unicode]

/-- A character of the venue-symbol alphabet. -/
def symbolCharacter (c : Char) : Bool :=
  Unicode.isAlphanumeric c || c = '-' || c = '_' || c = '.'

/-- Normalize a venue symbol for identity and subscription matching. -/
def normalizeSymbol (symbol : Text) : Except DomainError Text :=
  let symbol := Text.trim symbol
  if symbol.isEmpty || Text.byteLen symbol > 64 then .error (.invalidSymbol symbol)
  else if !symbol.all symbolCharacter then .error (.invalidSymbol symbol)
  else .ok (Text.toAsciiUppercase symbol)

/-- A normalized symbol is the symbol without blanks around it, in upper case. -/
theorem normalizeSymbol_ok {symbol normalized : Text}
    (h : normalizeSymbol symbol = .ok normalized) :
    normalized = Text.toAsciiUppercase (Text.trim symbol) ∧
      (Text.trim symbol).all symbolCharacter = true := by
  unfold normalizeSymbol at h
  dsimp only at h
  split at h
  · cases h
  · split at h
    · cases h
    · next hAll =>
      rw [Bool.not_eq_true', Bool.not_eq_false] at hAll
      exact ⟨(Except.ok.inj h).symm, hAll⟩

/-- Normalizing twice is normalizing once, as far as the letters go. -/
theorem normalizeSymbol_upper {symbol normalized : Text}
    (h : normalizeSymbol symbol = .ok normalized) :
    Text.toAsciiUppercase normalized = normalized := by
  rw [(normalizeSymbol_ok h).1, Text.toAsciiUppercase_idem]

end Symbols

/-! ## Subscription keys -/

/-- What can be subscribed to: one channel of one instrument. -/
structure SubscriptionKey where
  provider : Provider
  market : MarketKind
  symbol : Text
  channel : Channel
  deriving Repr

namespace SubscriptionKey

/-- The fields in declaration order; the source derives its order from them.
There is one market kind, so it does not take part. -/
def toFields (k : SubscriptionKey) : Provider ×ₗ Text ×ₗ Channel :=
  toLex (k.provider, toLex (k.symbol, k.channel))

/-- Keys are ordered by their fields, from the provider to the channel. -/
theorem toFields_injective : Function.Injective toFields := by
  rintro ⟨p, ⟨⟩, s, c⟩ ⟨p', ⟨⟩, s', c'⟩ h
  simp only [toFields, EmbeddingLike.apply_eq_iff_eq, Prod.mk.injEq] at h
  obtain ⟨rfl, rfl, rfl⟩ := h
  rfl

instance : LinearOrder SubscriptionKey := LinearOrder.lift' toFields toFields_injective

/-- Keys are equal as the order tells them apart. -/
instance lawfulBEq : LawfulBEq SubscriptionKey := instLawfulBEq

/-- Build a key after normalizing and validating the venue symbol. -/
def new [Unicode] (provider : Provider) (market : MarketKind) (symbol : Text)
    (channel : Channel) : Except DomainError SubscriptionKey :=
  (normalizeSymbol symbol).map fun symbol => ⟨provider, market, symbol, channel⟩

/-- The keys the gateway hands around: their symbol is in canonical form. -/
def Canonical [Unicode] (k : SubscriptionKey) : Prop := normalizeSymbol k.symbol = .ok k.symbol

/-- A canonical symbol has no lower-case letter. -/
theorem Canonical.upper [Unicode] {k : SubscriptionKey} (h : k.Canonical) :
    Text.toAsciiUppercase k.symbol = k.symbol := normalizeSymbol_upper h

/-- Normalizing what is normalized does not trim. -/
theorem Canonical.trim [Unicode] {k : SubscriptionKey} (h : k.Canonical) :
    Text.trim k.symbol = k.symbol := by
  apply Text.trim_eq_of_length
  calc (Text.trim k.symbol).length
      = (Text.toAsciiUppercase (Text.trim k.symbol)).length := (List.length_map _).symm
    _ = k.symbol.length := by rw [← (normalizeSymbol_ok h).1]

/-- A canonical symbol has at most 64 bytes. -/
theorem Canonical.byteLen_le [Unicode] {k : SubscriptionKey} (h : k.Canonical) :
    Text.byteLen k.symbol ≤ 64 := by
  have hTrim := h.trim
  unfold Canonical normalizeSymbol at h
  dsimp only at h
  rw [hTrim] at h
  split at h
  · cases h
  · next hShort =>
    rw [Bool.or_eq_true, not_or, decide_eq_true_eq] at hShort
    exact not_lt.mp hShort.2

/-- A character that is no letter occurs in a canonical symbol only if the
alphabet has it. -/
theorem Canonical.not_mem [Unicode] {k : SubscriptionKey} (h : k.Canonical) {c : Char}
    (hAlone : ∀ d : Char, d.toUpper = c → d = c) (hOut : symbolCharacter c = false) :
    c ∉ k.symbol := by
  intro hMem
  obtain ⟨hUpper, hAll⟩ := normalizeSymbol_ok h
  rw [hUpper] at hMem
  obtain ⟨d, hd, hd'⟩ := List.mem_map.mp hMem
  obtain rfl := hAlone d hd'
  exact absurd (List.all_eq_true.mp hAll d hd) (by simp [hOut])

end SubscriptionKey

/-- A client's subscription request for one instrument. -/
structure Subscription where
  provider : Provider
  market : MarketKind
  symbol : Text
  channels : List Channel
  deriving Repr

/-- Expand a client subscription into normalized, unique channel keys. Sorting
the channels and dropping adjacent repetitions lists their set in order. -/
def Subscription.intoKeys [Unicode] (s : Subscription) :
    Except DomainError (List SubscriptionKey) :=
  if s.channels.isEmpty then .error .noChannels
  else (normalizeSymbol s.symbol).map fun symbol =>
    (iter s.channels.toFinset).map fun channel => ⟨s.provider, s.market, symbol, channel⟩

/-! ## Decimals -/

/-- A decimal of the `rust_decimal` crate: an integer scaled by a power of ten. -/
structure Decimal where
  mantissa : Int
  scale : Nat
  deriving DecidableEq, Repr

namespace Decimal

/-- Zero, as a decimal. -/
def zero : Decimal := ⟨0, 0⟩

/-- Numeric comparison, whatever the two scales. -/
def le (a b : Decimal) : Bool := a.mantissa * 10 ^ b.scale ≤ b.mantissa * 10 ^ a.scale

/-- The order of the values, whatever their scales. -/
def lt (a b : Decimal) : Bool := !le b a

end Decimal

/-- The parsers and the printer of the `rust_decimal` crate. -/
class RustDecimal where
  fromStr : Text → Option Decimal
  fromScientific : Text → Option Decimal
  toText : Decimal → Text

/-- The part of the crate that reads unsigned integers of at most 28 digits, for
evaluating closed instances. -/
@[reducible] def RustDecimal.digits : RustDecimal where
  fromStr text := if text.length ≤ 28 then (Text.parseU64 text).map fun n => ⟨n, 0⟩ else none
  fromScientific _ := none
  toText d := Text.ofNat d.mantissa.natAbs

/-- A validated decimal in its original, lossless text form. -/
structure DecimalValue where
  text : Text
  deriving DecidableEq, Repr

/-- A decimal with the time it was observed at, in milliseconds. -/
structure ObservedDecimal where
  value : DecimalValue
  observedAtMs : Nat
  deriving DecidableEq, Repr

section Decimals

variable [RustDecimal]

/-- Validate a decimal and retain its text. -/
def DecimalValue.new (value : Text) : Except DomainError DecimalValue :=
  match RustDecimal.fromStr value with
  | some _ => .ok ⟨value⟩
  | none => .error (.invalidDecimal value)

/-- An observation is refused when its decimal is. -/
def ObservedDecimal.new (value : Text) (observedAtMs : Nat) : Except DomainError ObservedDecimal :=
  (DecimalValue.new value).map fun value => ⟨value, observedAtMs⟩

/-- `domain::decimal`: the number a validated decimal denotes. -/
def decimal (value : DecimalValue) : Except DomainError Decimal :=
  match RustDecimal.fromStr value.text with
  | some d => .ok d
  | none => .error (.invalidDecimal value.text)

end Decimals

/-! ## Tickers and candles -/

/-- The latest known values of an instrument; what was never observed is absent. -/
structure Ticker where
  last : Option ObservedDecimal := none
  mark : Option ObservedDecimal := none
  index : Option ObservedDecimal := none
  bid : Option ObservedDecimal := none
  ask : Option ObservedDecimal := none
  fundingRate : Option ObservedDecimal := none
  nextFundingTimeMs : Option Nat := none
  deriving DecidableEq, Repr

/-- Whether there is any price; a funding rate is none. -/
def Ticker.hasPrice (t : Ticker) : Bool :=
  t.last.isSome || t.mark.isSome || t.index.isSome || t.bid.isSome || t.ask.isSome

/-- Whether a candle may still change, as far as its venue says. -/
inductive CandleFinality where
  | open | closed | unknown
  deriving DecidableEq, Repr

/-- What a client should know about a candle. -/
inductive DataQuality where
  | providerVolumeUntrusted
  deriving DecidableEq, Repr

/-- A one-minute candle over `[startTimeMs, endTimeMs)`. The volumes a venue
does not report are absent. -/
structure Candle where
  interval : Text
  startTimeMs : Nat
  endTimeMs : Nat
  openPrice : DecimalValue
  high : DecimalValue
  low : DecimalValue
  close : DecimalValue
  baseVolume : Option DecimalValue
  quoteVolume : Option DecimalValue
  contractVolume : Option DecimalValue
  finality : CandleFinality
  dataQuality : List DataQuality
  deriving DecidableEq, Repr

section Validation

variable [RustDecimal]

/-- The checks `Ticker::validate` makes of one price field. -/
def validatePrice (name : Text) : Option ObservedDecimal → Except DomainError Unit
  | none => .ok ()
  | some observation =>
    if observation.observedAtMs = 0 then
      .error (.invalidMarketData (name ++ " observation timestamp must be positive".toList))
    else do
      let value ← decimal observation.value
      if value.le .zero then
        .error (.invalidMarketData (name ++ " price must be positive".toList))

/-- Validate portable price invariants after provider normalization. -/
def Ticker.validate (t : Ticker) : Except DomainError Unit := do
  validatePrice "last".toList t.last
  validatePrice "mark".toList t.mark
  validatePrice "index".toList t.index
  validatePrice "bid".toList t.bid
  validatePrice "ask".toList t.ask
  match t.fundingRate with
  | some funding =>
    if funding.observedAtMs = 0 then
      .error (.invalidMarketData "funding observation timestamp must be positive".toList)
  | none => .ok ()
  match t.bid, t.ask with
  | some bid, some ask =>
    if (← decimal ask.value).lt (← decimal bid.value) then
      .error (.invalidMarketData "best bid must not exceed best ask".toList)
  | _, _ => .ok ()
  if !t.hasPrice then
    .error (.invalidMarketData "ticker must contain at least one price".toList)

/-- The non-negativity check `Candle::validate` makes of one volume. -/
def validateVolume : Option DecimalValue → Except DomainError Unit
  | none => .ok ()
  | some volume => do
    if (← decimal volume).lt .zero then
      .error (.invalidMarketData "candle volume must not be negative".toList)

/-- Validate one-minute candle price, duration, and quantity invariants. -/
def Candle.validate (c : Candle) : Except DomainError Unit := do
  if c.interval ≠ "1m".toList ∨ c.endTimeMs < c.startTimeMs ∨
      c.endTimeMs - c.startTimeMs ≠ 60000 then
    throw (.invalidMarketData "candle must cover exactly one minute".toList)
  let openPrice ← decimal c.openPrice
  let high ← decimal c.high
  let low ← decimal c.low
  let close ← decimal c.close
  if [openPrice, high, low, close].any (·.le .zero) then
    throw (.invalidMarketData "candle prices must be positive".toList)
  if high.lt openPrice || high.lt close || high.lt low || openPrice.lt low || close.lt low then
    throw (.invalidMarketData "candle OHLC bounds are inconsistent".toList)
  validateVolume c.baseVolume
  validateVolume c.quoteVolume
  validateVolume c.contractVolume

end Validation

/-! ## Events -/

/-- The venue's own numbering of a message. -/
structure SourceSequence where
  first : Option Text
  last : Option Text
  previous : Option Text
  deriving DecidableEq, Repr

/-- What an event carries. -/
inductive MarketPayload where
  | ticker (ticker : Ticker)
  | candle (candle : Candle)
  deriving DecidableEq, Repr

/-- The channel that an event of this payload is delivered on. -/
def MarketPayload.channel : MarketPayload → Channel
  | .ticker _ => .ticker
  | .candle _ => .candle1m

/-- An event as it is delivered: numbered, and under the epoch of the stream. -/
structure MarketEvent where
  schemaVersion : Nat
  streamEpoch : Uuid
  deliverySequence : Nat
  connectionEpoch : Uuid
  instrumentId : Text
  provider : Provider
  market : MarketKind
  symbol : Text
  exchangeTimeMs : Option Nat
  gatewayReceivedTimeMs : Nat
  sourceSequence : Option SourceSequence
  payload : MarketPayload
  deriving DecidableEq, Repr

/-- The version of the wire format. -/
def schemaVersion : Nat := 1

/-- The key an event is routed by. -/
def MarketEvent.subscriptionKey (e : MarketEvent) : SubscriptionKey :=
  ⟨e.provider, e.market, e.symbol, e.payload.channel⟩

/-- A normalized event as an adapter session produces it. -/
structure ProviderEvent where
  connectionEpoch : Uuid
  provider : Provider
  market : MarketKind
  symbol : Text
  exchangeTimeMs : Option Nat
  gatewayReceivedTimeMs : Nat
  sourceSequence : Option SourceSequence
  payload : MarketPayload
  deriving DecidableEq, Repr

namespace ProviderEvent

/-- Stamp an event with the hub's epoch and its delivery sequence. -/
def intoMarketEvent (e : ProviderEvent) (streamEpoch : Uuid) (deliverySequence : Nat) :
    MarketEvent where
  schemaVersion := schemaVersion
  streamEpoch := streamEpoch
  deliverySequence := deliverySequence
  connectionEpoch := e.connectionEpoch
  instrumentId := e.provider.display ++ ":".toList ++ e.market.display ++ ":".toList ++ e.symbol
  provider := e.provider
  market := e.market
  symbol := e.symbol
  exchangeTimeMs := e.exchangeTimeMs
  gatewayReceivedTimeMs := e.gatewayReceivedTimeMs
  sourceSequence := e.sourceSequence
  payload := e.payload

/-- The key an event is routed by. -/
def subscriptionKey (e : ProviderEvent) : SubscriptionKey :=
  ⟨e.provider, e.market, e.symbol, e.payload.channel⟩

/-- Validate normalized payload and timestamp invariants before fan-out. -/
def validate [RustDecimal] (e : ProviderEvent) : Except DomainError Unit :=
  if e.gatewayReceivedTimeMs = 0 then
    .error (.invalidMarketData "gateway receive timestamp must be positive".toList)
  else match e.payload with
    | .ticker ticker => ticker.validate
    | .candle candle => candle.validate

end ProviderEvent

end MarketStreamGateway
