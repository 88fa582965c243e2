import MarketStreamGateway.Providers.Adapter
import MarketStreamGateway.Lib.Serde
import MarketStreamGateway.Lib.Result

/-!
# Market Stream Gateway — market data and the ticker cache

What the six sessions make of a frame that is not a control frame. Decoding a
frame does not look at the cache, so each handler is given in two halves: the
`Reading` of the frame, which the venue modules compute, and what a session does
with a reading. A ticker handler takes the cached ticker of a symbol (or an
empty one), overwrites some of its fields, stores the result and emits it;
`Update` is the list of those fields with the values they get.

The constructors of `Reading` are the ways the handlers interleave decoding and
storing. They differ in what a failure leaves behind.
-/

namespace MarketStreamGateway

open Lib

/-! ## Updates -/

/-- The decimal fields of a ticker. -/
inductive Field where
  | last | mark | index | bid | ask | fundingRate
  deriving DecidableEq, Repr

namespace Ticker

def get (t : Ticker) : Field → Option ObservedDecimal
  | .last => t.last
  | .mark => t.mark
  | .index => t.index
  | .bid => t.bid
  | .ask => t.ask
  | .fundingRate => t.fundingRate

/-- Overwrite one field, or clear it. -/
def set (t : Ticker) (field : Field) (value : Option ObservedDecimal) : Ticker :=
  match field with
  | .last => { t with last := value }
  | .mark => { t with mark := value }
  | .index => { t with index := value }
  | .bid => { t with bid := value }
  | .ask => { t with ask := value }
  | .fundingRate => { t with fundingRate := value }

@[simp] theorem get_set_self (t : Ticker) (field : Field) (value : Option ObservedDecimal) :
    (t.set field value).get field = value := by
  cases field <;> rfl

theorem get_set_of_ne (t : Ticker) {field other : Field} (h : other ≠ field)
    (value : Option ObservedDecimal) : (t.set field value).get other = t.get other := by
  cases field <;> cases other <;> first | rfl | exact absurd rfl h

end Ticker

/-- One change of a cached ticker, and the event that comes of it. A reset
starts from an empty ticker instead of the cached one. -/
structure Update where
  symbol : Text
  observedAtMs : Nat
  writes : List (Field × Option ObservedDecimal)
  nextFundingTimeMs : Option (Option Nat) := none
  sourceSequence : Option SourceSequence := none
  reset : Bool := false
  deriving DecidableEq, Repr

namespace Update

/-- The fields are written in order. -/
def write (t : Ticker) (writes : List (Field × Option ObservedDecimal)) : Ticker :=
  writes.foldl (fun t w => t.set w.1 w.2) t

/-- The ticker after an update: a snapshot starts from the empty one, and the
next funding time is kept where the update says nothing. -/
def apply (u : Update) (base : Ticker) : Ticker :=
  let t := write (if u.reset then {} else base) u.writes
  { t with nextFundingTimeMs := u.nextFundingTimeMs.getD t.nextFundingTimeMs }

/-- The event of an update, for the ticker it leads to. -/
def event (provider : Provider) (connectionEpoch : Uuid) (receivedAtMs : Nat) (u : Update)
    (ticker : Ticker) : ProviderEvent where
  connectionEpoch := connectionEpoch
  provider := provider
  market := .linearPerpetual
  symbol := u.symbol
  exchangeTimeMs := some u.observedAtMs
  gatewayReceivedTimeMs := receivedAtMs
  sourceSequence := u.sourceSequence
  payload := .ticker ticker

end Update

/-- A candle with the envelope of its event. -/
structure CandleUpdate where
  symbol : Text
  exchangeTimeMs : Option Nat
  sourceSequence : Option SourceSequence := none
  candle : Candle
  deriving DecidableEq, Repr

/-- The event of a candle; candles touch no cache. -/
def CandleUpdate.event (provider : Provider) (connectionEpoch : Uuid) (receivedAtMs : Nat)
    (c : CandleUpdate) : ProviderEvent where
  connectionEpoch := connectionEpoch
  provider := provider
  market := .linearPerpetual
  symbol := c.symbol
  exchangeTimeMs := c.exchangeTimeMs
  gatewayReceivedTimeMs := receivedAtMs
  sourceSequence := c.sourceSequence
  payload := .candle c.candle

/-- The decimals of a candle. -/
inductive CandlePart where
  | openPrice | high | low | close | baseVolume | quoteVolume | contractVolume
  deriving DecidableEq, Repr

/-- The decimal in each part of a candle; the prices are always there. -/
def Candle.get (c : Candle) : CandlePart → Option DecimalValue
  | .openPrice => some c.openPrice
  | .high => some c.high
  | .low => some c.low
  | .close => some c.close
  | .baseVolume => c.baseVolume
  | .quoteVolume => c.quoteVolume
  | .contractVolume => c.contractVolume

/-- The finality a venue's closing flag says. -/
def CandleFinality.ofFlag (closed : Bool) : CandleFinality := if closed then .closed else .open

/-- `self.tickers.get(&symbol).cloned().unwrap_or_default()`. -/
def cached (tickers : Tickers) (symbol : Text) : Ticker := (tickers.lookup symbol).getD {}

/-- The cached ticker of a symbol after an update. -/
def updated (tickers : Tickers) (u : Update) : Ticker := u.apply (cached tickers u.symbol)

/-- The cache after an update. -/
def store (tickers : Tickers) (u : Update) : Tickers := tickers.insert u.symbol (updated tickers u)

/-- Updates reach the cache in the order their items stand in the frame. -/
def storeAll (tickers : Tickers) (updates : List Update) : Tickers := updates.foldl store tickers

/-! ## Readings -/

/-- What a market-data frame says. -/
inductive Reading where
  | ignored
  /-- Refused before anything is stored. -/
  | refused (error : AdapterError)
  /-- Candles are not cached. -/
  | candles (items : List CandleUpdate)
  /-- One ticker, decoded before it is stored. -/
  | single (update : Update)
  /-- Items stored one by one, each before the next one is decoded: the items
  before a refused one stay stored. -/
  | each (items : List (Except AdapterError Update))
  /-- Items collected in a map of their own, which is merged into the cache when
  all of them are decoded. -/
  | batch (updates : List Update)
  /-- A ticker that is stored before its sequence number is decoded. -/
  | sequenced (update : Update) (sequence : Except AdapterError (Option SourceSequence))
  /-- A ticker that is refused if it leaves the symbol without a price. -/
  | priced (update : Update) (error : AdapterError)
  /-- A ticker whose event is held back while the symbol has no price. -/
  | held (update : Update)

namespace Reading

section Handling

variable (provider : Provider) (connectionEpoch : Uuid) (receivedAtMs : Nat)

/-- The storing loop, with the events it emits. It ends at the first item that
was refused. -/
def storeEach (tickers : Tickers) : List (Except AdapterError Update) →
    Except AdapterError (List ProviderEvent) × Tickers
  | [] => (.ok [], tickers)
  | .error error :: _ => (.error error, tickers)
  | .ok u :: rest =>
    let event := u.event provider connectionEpoch receivedAtMs (updated tickers u)
    let (events, tickers) := storeEach (store tickers u) rest
    (events.map (event :: ·), tickers)

/-- The loop over pending tickers: an update starts from the pending ticker of
its symbol, or else from the cached one. -/
def pend (tickers : Tickers) (pending : Tickers) : List Update → List ProviderEvent × Tickers
  | [] => ([], pending)
  | u :: rest =>
    let base := ((pending.lookup u.symbol).orElse fun _ => tickers.lookup u.symbol).getD {}
    let ticker := u.apply base
    let event := u.event provider connectionEpoch receivedAtMs ticker
    let (events, pending) := pend tickers (pending.insert u.symbol ticker) rest
    (event :: events, pending)

/-- What a session does with a reading: its answer and its cache. The answer
`none` is an ignored frame. -/
def handle (tickers : Tickers) :
    Reading → Except AdapterError (Option (List ProviderEvent)) × Tickers
  | ignored => (.ok none, tickers)
  | refused error => (.error error, tickers)
  | candles items =>
    (.ok (some (items.map (·.event provider connectionEpoch receivedAtMs))), tickers)
  | single u =>
    (.ok (some [u.event provider connectionEpoch receivedAtMs (updated tickers u)]),
      store tickers u)
  | each items =>
    let (events, tickers) := storeEach provider connectionEpoch receivedAtMs tickers items
    (events.map some, tickers)
  | batch updates =>
    let (events, pending) := pend provider connectionEpoch receivedAtMs tickers ∅ updates
    (.ok (some events), pending ∪ tickers)
  | sequenced u sequence =>
    let ticker := updated tickers u
    let tickers := store tickers u
    match sequence with
    | .error error => (.error error, tickers)
    | .ok sequence =>
      (.ok (some [{ u with sourceSequence := sequence }.event provider connectionEpoch
        receivedAtMs ticker]), tickers)
  | priced u error =>
    if (updated tickers u).hasPrice then
      (.ok (some [u.event provider connectionEpoch receivedAtMs (updated tickers u)]),
        store tickers u)
    else (.error error, tickers)
  | held u =>
    if (updated tickers u).hasPrice then
      (.ok (some [u.event provider connectionEpoch receivedAtMs (updated tickers u)]),
        store tickers u)
    else (.ok (some []), store tickers u)

end Handling

/-- A reading that may fail. -/
def ofExcept (reading : Except AdapterError Reading) : Reading :=
  match reading with
  | .ok reading => reading
  | .error error => .refused error

/-- A frame that carries updates was read without an error. -/
theorem ofExcept_cases (reading : Except AdapterError Reading) :
    (∃ error, ofExcept reading = .refused error) ∨ ∃ r, reading = .ok r ∧ ofExcept reading = r := by
  cases reading with
  | error error => exact .inl ⟨error, rfl⟩
  | ok r => exact .inr ⟨r, rfl, rfl⟩

end Reading

/-! ## Decoding

Texts and errors three of the venues share. -/

section Decoding

variable [Unicode] [RustDecimal] (invalid : Text → AdapterError)

/-- The common refusal of a field: its name, the value as Rust's `Debug` prints
it, and the reason. -/
def invalidField (field value : Text) (error : DomainError) : AdapterError :=
  invalid ("invalid ".toList ++ field ++ ' ' :: Text.debug value ++ ": ".toList ++ error.display)

/-- A symbol that a payload names, normalized or refused. -/
def normalizedSymbol (symbol : Text) : Except AdapterError Text :=
  (normalizeSymbol symbol).mapError (invalidField invalid "symbol".toList symbol)

/-- A ticker value under the time of its frame. -/
def observation (value : Text) (observedAtMs : Nat) (field : Text) :
    Except AdapterError ObservedDecimal :=
  (ObservedDecimal.new value observedAtMs).mapError (invalidField invalid field value)

/-- A candle value. -/
def decimalField (value field : Text) : Except AdapterError DecimalValue :=
  (DecimalValue.new value).mapError (invalidField invalid field value)

omit [RustDecimal] in
/-- Only the wording of a refusal depends on the venue. -/
theorem normalizedSymbol_eq_ok {symbol normalized : Text} :
    normalizedSymbol invalid symbol = .ok normalized ↔ normalizeSymbol symbol = .ok normalized :=
  mapError_eq_ok

omit [Unicode] in
/-- A decimal is the text it was made from. -/
theorem decimal_eq {value : Text} {decimal : DecimalValue}
    (h : DecimalValue.new value = .ok decimal) :
    decimal = ⟨value⟩ := by
  unfold DecimalValue.new at h
  split at h
  · rw [← Except.ok.inj h]
  · cases h

omit [Unicode] in
/-- An observation holds the text it was made from, unchanged, and the time. -/
theorem observed_eq {value : Text} {observedAtMs : Nat} {observed : ObservedDecimal}
    (h : ObservedDecimal.new value observedAtMs = .ok observed) :
    observed = ⟨⟨value⟩, observedAtMs⟩ := by
  obtain ⟨decimal, hDecimal, rfl⟩ := map_eq_ok.mp h
  rw [decimal_eq hDecimal]

/-- The same of a field of a payload. -/
theorem observation_eq {value : Text} {observedAtMs : Nat} {field : Text}
    {observed : ObservedDecimal}
    (h : observation invalid value observedAtMs field = .ok observed) :
    observed = ⟨⟨value⟩, observedAtMs⟩ := observed_eq (mapError_eq_ok.mp h)

end Decoding

end MarketStreamGateway
