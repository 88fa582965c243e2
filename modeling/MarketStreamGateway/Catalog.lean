import Mathlib.Data.List.ReduceOption
import MarketStreamGateway.Domain
import MarketStreamGateway.Lib.Json
import MarketStreamGateway.Lib.Result
import MarketStreamGateway.Lib.Run

/-!
# Market Stream Gateway — the instrument catalog

`catalog.rs`: the listings of the six venues, the filters that admission an item of
a listing as an instrument, the snapshots of the providers and the validation
of subscriptions against them.

HTTP and the JSON deserializer are outside: a body is what the deserializer
makes of it, a record of the declared fields or its error text. Bybit pages its
listing; its server is a function of the cursors it was asked for, the latest
first.

A refresh replaces the snapshot of one provider as a whole, or leaves it as it
was. `Listed` says what an instrument of a snapshot has been checked for;
`refreshed_listed` is that every instrument of every reachable catalog has.
-/

namespace MarketStreamGateway

open Lib

/-- Pages a walk through Bybit's listing may take. -/
def bybitMaxPages : Nat := 10000

/-- `Decimal::MAX_SCALE`. -/
def decimalMaxScale : Nat := 28

-- ---------------------------------------------------------------------------
-- Instruments
-- ---------------------------------------------------------------------------

/-- Snapshots contain live instruments only. -/
inductive InstrumentStatus where
  | live
  deriving DecidableEq, Repr

/-- Whether a venue says which candles are final. -/
inductive CandleFinalitySupport where
  | authoritative | unknown
  deriving DecidableEq, Repr

/-- Which of the volumes of a candle a venue reports. -/
inductive CandleVolumeSupport where
  | available | partially | unavailable
  deriving DecidableEq, Repr

/-- What the gateway offers for an instrument. -/
structure InstrumentCapabilities where
  ticker : Bool
  candle1m : Bool
  candle1mFinality : CandleFinalitySupport
  candle1mVolume : CandleVolumeSupport
  history1m : Bool
  history1mFinality : CandleFinalitySupport
  history1mVolume : CandleVolumeSupport
  deriving DecidableEq, Repr

/-- Whether a channel can be subscribed to. -/
def InstrumentCapabilities.supports (c : InstrumentCapabilities) : Channel → Bool
  | .ticker => c.ticker
  | .candle1m => c.candle1m

/-- Provider-neutral metadata for one exact venue instrument. -/
structure Instrument where
  instrumentId : Text
  symbol : Text
  provider : Provider
  market : MarketKind
  baseAsset : Text
  quoteAsset : Text
  settleAsset : Text
  status : InstrumentStatus
  venueStatus : Text
  tickSize : DecimalValue
  quantityStep : DecimalValue
  minOrderQuantity : Option DecimalValue
  minNotional : Option DecimalValue
  contractSize : Option DecimalValue
  contractSizeAsset : Option Text
  maxLeverage : Option DecimalValue
  listingTimeMs : Option Nat
  expiryTimeMs : Option Nat
  capabilities : InstrumentCapabilities
  deriving Repr

/-- The instruments of one provider, by symbol. -/
abbrev Instruments := Finmap fun _ : Text => Instrument

/-- Why a refresh failed, or a subscription is not in the catalog. -/
inductive CatalogError where
  | providerDisabled (provider : Provider)
  | request (provider : Provider) (message : Text)
  | httpStatus (provider : Provider) (status : Nat)
  | invalidPayload (provider : Provider) (message : Text)
  | duplicateInstrument (provider : Provider) (symbol : Text)
  | repeatedCursor (provider : Provider) (cursor : Text)
  | paginationLimit (provider : Provider) (limit : Nat)
  | emptySnapshot (provider : Provider)
  | instrumentUnavailable (provider : Provider) (market : MarketKind) (symbol : Text)
  | unsupportedChannel (provider : Provider) (market : MarketKind) (symbol : Text)
      (channel : Channel)
  deriving DecidableEq, Repr

/-- The message of a failure, which the status of the provider shows. -/
def CatalogError.display : CatalogError → Text
  | .providerDisabled provider => provider.display ++ " instrument catalog is disabled".toList
  | .request provider message =>
    provider.display ++ " catalog request failed: ".toList ++ message
  | .httpStatus provider status =>
    provider.display ++ " catalog endpoint returned HTTP ".toList ++ Text.ofNat status
  | .invalidPayload provider message =>
    provider.display ++ " catalog payload is invalid: ".toList ++ message
  | .duplicateInstrument provider symbol =>
    provider.display ++ " catalog returned duplicate instrument ".toList ++ symbol
  | .repeatedCursor provider cursor =>
    provider.display ++ " catalog pagination repeated cursor ".toList ++ cursor
  | .paginationLimit provider limit =>
    provider.display ++ " catalog exceeded the ".toList ++ Text.ofNat limit ++
      "-page pagination safety limit".toList
  | .emptySnapshot provider =>
    provider.display ++ " catalog returned no live linear perpetual instruments".toList
  | .instrumentUnavailable provider market symbol =>
    "instrument is not available: ".toList ++ provider.display ++ ":".toList ++ market.display ++
      ":".toList ++ symbol
  | .unsupportedChannel provider market symbol channel =>
    channel.display ++ " is not available for ".toList ++ provider.display ++ ":".toList ++
      market.display ++ ":".toList ++ symbol

/-- The capabilities are those of the venue, the same for all its instruments. -/
def capabilities (provider : Provider) : InstrumentCapabilities :=
  let candle : CandleFinalitySupport × CandleVolumeSupport := match provider with
    | .kucoin => (.unknown, .unavailable)
    | .mexc | .bingx => (.unknown, .partially)
    | .bybit | .binance | .okx => (.authoritative, .available)
  let history : CandleFinalitySupport × CandleVolumeSupport := match provider with
    | .kucoin => (.unknown, .unavailable)
    | .bingx => (.authoritative, .partially)
    | .bybit | .binance | .okx | .mexc => (.authoritative, .available)
  { ticker := true
    candle1m := true
    candle1mFinality := candle.1
    candle1mVolume := candle.2
    history1m := true
    history1mFinality := history.1
    history1mVolume := history.2 }

/-- The identifier of an instrument: provider, market and symbol, separated by colons. -/
def instrumentId (provider : Provider) (symbol : Text) : Text :=
  provider.display ++ ":".toList ++ MarketKind.linearPerpetual.display ++ ":".toList ++ symbol

-- ---------------------------------------------------------------------------
-- Fields of a listing
-- ---------------------------------------------------------------------------

/-- A decimal or a time as a venue writes it. -/
inductive WireScalar where
  | string (value : Text)
  | number (value : Number)
  deriving DecidableEq, Repr

/-- The text of a scalar, whether it came as a string or as a number. -/
def WireScalar.text : WireScalar → Text
  | .string value => value
  | .number value => value.display

/-- `Result::map_err` and `Option::ok_or_else` towards a catalog error. -/
def invalidIfNone {α : Type} (provider : Provider) (message : Text) :
    Option α → Except CatalogError α
  | some a => .ok a
  | none => .error (.invalidPayload provider message)

section Fields

variable [RustDecimal]

/-- A size or a step: a decimal in either notation, greater than zero. -/
def positiveDecimal (provider : Provider) (field : Text) (scalar : WireScalar) :
    Except CatalogError DecimalValue := do
  let raw := scalar.text
  let parsed ← invalidIfNone provider (field ++ " is not a decimal: ".toList ++ raw)
    ((RustDecimal.fromStr raw).orElse fun _ => RustDecimal.fromScientific raw)
  if parsed.le .zero then
    throw (.invalidPayload provider (field ++ " must be greater than zero".toList))
  match DecimalValue.new raw with
  | .ok value => .ok value
  | .error _ => match DecimalValue.new (RustDecimal.toText parsed) with
    | .ok value => .ok value
    | .error _ => .error (.invalidPayload provider (field ++ " is not a decimal: ".toList ++ raw))

/-- An empty string is an absent value. -/
def optionalPositiveDecimal (provider : Provider) (field : Text) :
    Option WireScalar → Except CatalogError (Option DecimalValue)
  | none => .ok none
  | some (.string value) =>
    if value.isEmpty then .ok none
    else (positiveDecimal provider field (.string value)).map some
  | some scalar => (positiveDecimal provider field scalar).map some

/-- The step that a number of decimal places stands for. -/
def precisionStep (provider : Provider) (field : Text) (precision : Nat) :
    Except CatalogError DecimalValue :=
  if precision > decimalMaxScale then
    .error (.invalidPayload provider (field ++ " exceeds decimal scale ".toList ++
      Text.ofNat decimalMaxScale))
  else match DecimalValue.new (RustDecimal.toText ⟨1, precision⟩) with
    | .ok value => .ok value
    | .error error => .error (.invalidPayload provider ("invalid ".toList ++ field ++ ": ".toList ++
        error.display))

end Fields

/-- An empty time and zero are none. -/
def optionalTimestampMs (provider : Provider) (field : Text) :
    Option WireScalar → Except CatalogError (Option Nat)
  | none => .ok none
  | some scalar =>
    if scalar.text.isEmpty || scalar.text = "0".toList then .ok none
    else (invalidIfNone provider (field ++ " must be an unsigned millisecond timestamp".toList)
      (Text.parseU64 scalar.text)).map some

/-- A listing must name its symbols in canonical form; they are looked up by it. -/
def exactSymbol [Unicode] (provider : Provider) (value : Text) : Except CatalogError Text :=
  match normalizeSymbol value with
  | .error error => .error (.invalidPayload provider ("invalid symbol: ".toList ++ error.display))
  | .ok normalized =>
    if normalized ≠ value then
      .error (.invalidPayload provider
        ("symbol is not in its exact canonical form: ".toList ++ value))
    else .ok value

/-- An asset is checked for its form only. -/
def exactAsset (provider : Provider) (field value : Text) : Except CatalogError Text :=
  if value.isEmpty || Text.byteLen value > 64 || value.any Text.isWhitespace ||
      value.any Text.isControl then
    .error (.invalidPayload provider
      (field ++ " must be a non-empty venue asset identifier".toList))
  else .ok value

/-- A listing that names a symbol twice is refused. -/
def insertUnique (instruments : Instruments) (instrument : Instrument) :
    Except CatalogError Instruments :=
  if instrument.symbol ∈ instruments then
    .error (.duplicateInstrument instrument.provider instrument.symbol)
  else .ok (instruments.insert instrument.symbol instrument)

/-- Insert the instruments of the items that are admitted, one by one. -/
def insertItems {ι : Type} (admission : ι → Except CatalogError (Option Instrument)) :
    Instruments → List ι → Except CatalogError Instruments
  | instruments, [] => .ok instruments
  | instruments, item :: items => do
    match ← admission item with
    | none => insertItems admission instruments items
    | some instrument => insertItems admission (← insertUnique instruments instrument) items

/-- `#[serde(untagged)]`: one item or a list of them. -/
inductive OneOrMany (ι : Type) where
  | one (item : ι)
  | many (items : List ι)

/-- One item is a list of one. -/
def OneOrMany.intoVec {ι : Type} : OneOrMany ι → List ι
  | .one item => [item]
  | .many items => items

/-- What the deserializer makes of a body. -/
def decoded {α : Type} (provider : Provider) : Except Text α → Except CatalogError α
  | .ok envelope => .ok envelope
  | .error error => .error (.invalidPayload provider ("invalid JSON: ".toList ++ error))

-- ---------------------------------------------------------------------------
-- Bybit
-- ---------------------------------------------------------------------------

/-- The quantity filter of an item. -/
structure BybitLotSizeFilter where
  qtyStep : WireScalar
  minOrderQty : Option WireScalar
  minNotionalValue : Option WireScalar

/-- An item of Bybit's listing. -/
structure BybitInstrument where
  symbol : Text
  contractType : Text
  status : Text
  baseCoin : Text
  quoteCoin : Text
  settleCoin : Text
  launchTime : Option WireScalar
  deliveryTime : Option WireScalar
  /-- `priceFilter.tickSize`. -/
  tickSize : WireScalar
  lotSizeFilter : BybitLotSizeFilter
  /-- `leverageFilter.maxLeverage`, if there is a leverage filter. -/
  maxLeverage : Option WireScalar

/-- A page of the listing, with the cursor of the next one. -/
structure BybitResult where
  category : Text
  nextPageCursor : Text
  list : List BybitInstrument

/-- The envelope of a page. -/
structure BybitEnvelope where
  retCode : Int
  retMsg : Text
  result : Option BybitResult

/-- What is kept of a page. -/
structure BybitPage where
  instruments : List Instrument
  nextPageCursor : Text

section Listings

variable [Unicode] [RustDecimal]

/-- Absent is allowed here, an empty string is not. -/
def bybitMaxLeverage : Option WireScalar → Except CatalogError (Option DecimalValue)
  | none => .ok none
  | some scalar => (positiveDecimal .bybit "leverageFilter.maxLeverage".toList scalar).map some

/-- Only linear perpetuals that trade are admitted; an admitted item must be
sound in every field. -/
def bybitInstrument (item : BybitInstrument) : Except CatalogError (Option Instrument) :=
  if item.contractType ≠ "LinearPerpetual".toList ∨ item.status ≠ "Trading".toList then .ok none
  else do
    let symbol ← exactSymbol .bybit item.symbol
    let maxLeverage ← bybitMaxLeverage item.maxLeverage
    let baseAsset ← exactAsset .bybit "baseCoin".toList item.baseCoin
    let quoteAsset ← exactAsset .bybit "quoteCoin".toList item.quoteCoin
    let settleAsset ← exactAsset .bybit "settleCoin".toList item.settleCoin
    let tickSize ← positiveDecimal .bybit "priceFilter.tickSize".toList item.tickSize
    let quantityStep ←
      positiveDecimal .bybit "lotSizeFilter.qtyStep".toList item.lotSizeFilter.qtyStep
    let minOrderQuantity ← optionalPositiveDecimal .bybit "lotSizeFilter.minOrderQty".toList
      item.lotSizeFilter.minOrderQty
    let minNotional ← optionalPositiveDecimal .bybit "lotSizeFilter.minNotionalValue".toList
      item.lotSizeFilter.minNotionalValue
    let listingTimeMs ← optionalTimestampMs .bybit "launchTime".toList item.launchTime
    let expiryTimeMs ← optionalTimestampMs .bybit "deliveryTime".toList item.deliveryTime
    .ok (some {
      instrumentId := instrumentId .bybit symbol, symbol, provider := .bybit
      market := .linearPerpetual, baseAsset, quoteAsset, settleAsset, status := .live
      venueStatus := item.status, tickSize, quantityStep, minOrderQuantity, minNotional
      contractSize := none, contractSizeAsset := none, maxLeverage, listingTimeMs, expiryTimeMs
      capabilities := capabilities .bybit })

/-- A refusal is read from the envelope, and the page must be of the linear category. -/
def parseBybitPage (body : Except Text BybitEnvelope) : Except CatalogError BybitPage := do
  let envelope ← decoded .bybit body
  if envelope.retCode ≠ 0 then
    throw (.invalidPayload .bybit ("endpoint returned code ".toList ++
      Text.ofInt envelope.retCode ++ ": ".toList ++ envelope.retMsg))
  let result ← invalidIfNone .bybit "missing result".toList envelope.result
  if result.category ≠ "linear".toList then
    throw (.invalidPayload .bybit ("expected linear category, got ".toList ++ result.category))
  let instruments ← result.list.mapM bybitInstrument
  .ok ⟨instruments.reduceOption, result.nextPageCursor⟩

/-- What the server answers to a request for a cursor, given the earlier ones:
the body of the page, or the error of the request. -/
abbrev BybitServer := List (Option Text) → Except CatalogError (Except Text BybitEnvelope)

/-- Insert the instruments of a page. -/
def insertPage : Instruments → List Instrument → Except CatalogError Instruments :=
  insertItems fun instrument => .ok (some instrument)

/-- The check at the head of a round: a cursor is asked for once. -/
def noteCursor (requestedCursors : Finset Text) : Option Text → Except CatalogError (Finset Text)
  | none => .ok requestedCursors
  | some current =>
    if current ∈ requestedCursors then .error (.repeatedCursor .bybit current)
    else .ok (insert current requestedCursors)

/-- The rounds of `fetch_bybit`: what was collected, the cursor to ask for, the
cursors asked for, and the requests so far. -/
def fetchBybitPages (server : BybitServer) :
    Nat → Instruments → Option Text → Finset Text → List (Option Text) →
      Except CatalogError Instruments
  | 0, _, _, _, _ => .error (.paginationLimit .bybit bybitMaxPages)
  | rounds + 1, instruments, cursor, requestedCursors, requests => do
    let requestedCursors ← noteCursor requestedCursors cursor
    let body ← server (cursor :: requests)
    let page ← parseBybitPage body
    let instruments ← insertPage instruments page.instruments
    let next := page.nextPageCursor
    if next.isEmpty then
      .ok instruments
    else if cursor = some next ∨ next ∈ requestedCursors then
      .error (.repeatedCursor .bybit next)
    else
      fetchBybitPages server rounds instruments (some next) requestedCursors (cursor :: requests)

/-- The walk from the first page. -/
def fetchBybit (server : BybitServer) : Except CatalogError Instruments :=
  fetchBybitPages server bybitMaxPages ∅ none ∅ []

-- ---------------------------------------------------------------------------
-- Binance
-- ---------------------------------------------------------------------------

/-- A filter of an item; which of its values it has depends on its type. -/
structure BinanceFilter where
  filterType : Text
  tickSize : Option WireScalar
  stepSize : Option WireScalar
  minQty : Option WireScalar
  notional : Option WireScalar

/-- An item of Binance's listing. -/
structure BinanceInstrument where
  symbol : Text
  contractType : Text
  status : Text
  baseAsset : Text
  quoteAsset : Text
  marginAsset : Text
  onboardDate : Option Nat
  filters : List BinanceFilter

/-- The listing, on one page. -/
structure BinanceEnvelope where
  symbols : List BinanceInstrument

/-- A value of the one filter of a type; none and several are refused. -/
def uniqueFilterDecimal (provider : Provider) (filters : List BinanceFilter)
    (filterType field : Text) (value : BinanceFilter → Option WireScalar) :
    Except CatalogError DecimalValue :=
  match filters.filter fun filter => filter.filterType = filterType with
  | [filter] => do
    let scalar ← invalidIfNone provider (filterType ++ " is missing ".toList ++ field)
      (value filter)
    positiveDecimal provider (filterType ++ '.' :: field) scalar
  | matching => .error (.invalidPayload provider ("expected exactly one ".toList ++ filterType ++
      ", got ".toList ++ Text.ofNat matching.length))

/-- The same where the filter, or its value, may be missing. -/
def optionalUniqueFilterDecimal (provider : Provider) (filters : List BinanceFilter)
    (filterType field : Text) (value : BinanceFilter → Option WireScalar) :
    Except CatalogError (Option DecimalValue) :=
  match filters.filter fun filter => filter.filterType = filterType with
  | [] => .ok none
  | [filter] => match value filter with
    | none => .ok none
    | some scalar => (positiveDecimal provider (filterType ++ '.' :: field) scalar).map some
  | matching => .error (.invalidPayload provider ("expected at most one ".toList ++ filterType ++
      ", got ".toList ++ Text.ofNat matching.length))

/-- Only perpetuals that trade are admitted; the filters are checked first. -/
def binanceInstrument (item : BinanceInstrument) : Except CatalogError (Option Instrument) :=
  if item.contractType ≠ "PERPETUAL".toList ∨ item.status ≠ "TRADING".toList then .ok none
  else do
    let tickSize ← uniqueFilterDecimal .binance item.filters "PRICE_FILTER".toList
      "tickSize".toList (·.tickSize)
    let quantityStep ← uniqueFilterDecimal .binance item.filters "LOT_SIZE".toList
      "stepSize".toList (·.stepSize)
    let minOrderQuantity ← optionalUniqueFilterDecimal .binance item.filters "LOT_SIZE".toList
      "minQty".toList (·.minQty)
    let minNotional ← optionalUniqueFilterDecimal .binance item.filters "MIN_NOTIONAL".toList
      "notional".toList (·.notional)
    let symbol ← exactSymbol .binance item.symbol
    let baseAsset ← exactAsset .binance "baseAsset".toList item.baseAsset
    let quoteAsset ← exactAsset .binance "quoteAsset".toList item.quoteAsset
    let settleAsset ← exactAsset .binance "marginAsset".toList item.marginAsset
    .ok (some {
      instrumentId := instrumentId .binance symbol, symbol, provider := .binance
      market := .linearPerpetual, baseAsset, quoteAsset, settleAsset, status := .live
      venueStatus := item.status, tickSize, quantityStep, minOrderQuantity, minNotional
      contractSize := none, contractSizeAsset := none, maxLeverage := none
      listingTimeMs := item.onboardDate.filter (· ≠ 0)
      -- the delivery date of a perpetual is a distant sentinel
      expiryTimeMs := none
      capabilities := capabilities .binance })

/-- One bad item refuses the listing. -/
def parseBinanceCatalog (body : Except Text BinanceEnvelope) : Except CatalogError Instruments := do
  let envelope ← decoded .binance body
  insertItems binanceInstrument ∅ envelope.symbols

-- ---------------------------------------------------------------------------
-- OKX
-- ---------------------------------------------------------------------------

/-- An item of OKX's listing. -/
structure OkxInstrument where
  instId : Text
  instType : Text
  state : Text
  baseCcy : Text
  quoteCcy : Text
  settleCcy : Text
  ctType : Text
  ctVal : WireScalar
  ctValCcy : Text
  tickSz : WireScalar
  lotSz : WireScalar
  minSz : Option WireScalar
  lever : Option WireScalar
  listTime : Option WireScalar
  expTime : Option WireScalar
  uly : Text
  instFamily : Text

/-- The listing, with a code of its own. -/
structure OkxEnvelope where
  code : Text
  msg : Text
  data : List OkxInstrument

/-- The assets an underlying is made of; the family stands in for one that is missing. -/
def okxUnderlyingAssets (item : OkxInstrument) : Except CatalogError (Text × Text) := do
  let underlying := if item.uly.isEmpty then item.instFamily else item.uly
  let (base, quote) ← invalidIfNone .okx
    ("could not derive assets from underlying ".toList ++ underlying)
    (Text.splitOnce '-' underlying)
  if quote.contains '-' then
    throw (.invalidPayload .okx
      ("underlying must contain exactly two assets: ".toList ++ underlying))
  let base ← exactAsset .okx "underlying base".toList base
  let quote ← exactAsset .okx "underlying quote".toList quote
  .ok (base, quote)

/-- An asset of the item, or the given one if the field is empty. -/
def okxAsset (field value fallback : Text) : Except CatalogError Text :=
  if value.isEmpty then .ok fallback else exactAsset .okx field value

/-- Only live linear swaps are admitted. What the item leaves open is taken
from its underlying. -/
def okxInstrument (item : OkxInstrument) : Except CatalogError (Option Instrument) :=
  if item.instType ≠ "SWAP".toList ∨ item.ctType ≠ "linear".toList ∨
      item.state ≠ "live".toList then .ok none
  else do
    let (derivedBase, derivedQuote) ← okxUnderlyingAssets item
    let baseAsset ← okxAsset "baseCcy".toList item.baseCcy derivedBase
    let quoteAsset ← okxAsset "quoteCcy".toList item.quoteCcy derivedQuote
    let contractSizeAsset ← okxAsset "ctValCcy".toList item.ctValCcy baseAsset
    let symbol ← exactSymbol .okx item.instId
    let settleAsset ← exactAsset .okx "settleCcy".toList item.settleCcy
    let tickSize ← positiveDecimal .okx "tickSz".toList item.tickSz
    let quantityStep ← positiveDecimal .okx "lotSz".toList item.lotSz
    let minOrderQuantity ← optionalPositiveDecimal .okx "minSz".toList item.minSz
    let contractSize ← positiveDecimal .okx "ctVal".toList item.ctVal
    let maxLeverage ← optionalPositiveDecimal .okx "lever".toList item.lever
    let listingTimeMs ← optionalTimestampMs .okx "listTime".toList item.listTime
    let expiryTimeMs ← optionalTimestampMs .okx "expTime".toList item.expTime
    .ok (some {
      instrumentId := instrumentId .okx symbol, symbol, provider := .okx
      market := .linearPerpetual, baseAsset, quoteAsset, settleAsset, status := .live
      venueStatus := item.state, tickSize, quantityStep, minOrderQuantity, minNotional := none
      contractSize := some contractSize, contractSizeAsset := some contractSizeAsset
      maxLeverage, listingTimeMs, expiryTimeMs, capabilities := capabilities .okx })

/-- A refusal is read from the envelope. -/
def parseOkxCatalog (body : Except Text OkxEnvelope) : Except CatalogError Instruments := do
  let envelope ← decoded .okx body
  if envelope.code ≠ "0".toList then
    throw (.invalidPayload .okx ("endpoint returned code ".toList ++ envelope.code ++
      ": ".toList ++ envelope.msg))
  insertItems okxInstrument ∅ envelope.data

-- ---------------------------------------------------------------------------
-- KuCoin
-- ---------------------------------------------------------------------------

/-- An item of KuCoin's listing. -/
structure KucoinInstrument where
  symbol : Text
  contractType : Text
  status : Text
  baseCurrency : Text
  quoteCurrency : Text
  settleCurrency : Text
  firstOpenDate : Option WireScalar
  expireDate : Option WireScalar
  tickSize : WireScalar
  lotSize : WireScalar
  multiplier : WireScalar
  maxLeverage : Option WireScalar
  isInverse : Bool

/-- The listing: one item, or several. -/
structure KucoinEnvelope where
  code : Text
  data : Option (OneOrMany KucoinInstrument)

/-- Only open perpetuals that are not inverse are admitted, and of these only
the ones whose symbol ends in a quote. -/
def kucoinInstrument (item : KucoinInstrument) : Except CatalogError (Option Instrument) :=
  if item.contractType ≠ "FFWCSX".toList ∨ item.status ≠ "Open".toList ∨ item.isInverse then
    .ok none
  else do
    let expiry ← optionalTimestampMs .kucoin "expireDate".toList item.expireDate
    if expiry.isSome then
      .ok none
    else if !("USDTM".toList.isSuffixOf item.symbol || "USDCM".toList.isSuffixOf item.symbol) then
      .ok none
    else
      let symbol ← exactSymbol .kucoin item.symbol
      let baseAsset ← exactAsset .kucoin "baseCurrency".toList item.baseCurrency
      let quantityStep ← positiveDecimal .kucoin "lotSize".toList item.lotSize
      let quoteAsset ← exactAsset .kucoin "quoteCurrency".toList item.quoteCurrency
      let settleAsset ← exactAsset .kucoin "settleCurrency".toList item.settleCurrency
      let tickSize ← positiveDecimal .kucoin "tickSize".toList item.tickSize
      let contractSize ← positiveDecimal .kucoin "multiplier".toList item.multiplier
      let maxLeverage ← optionalPositiveDecimal .kucoin "maxLeverage".toList item.maxLeverage
      let listingTimeMs ← optionalTimestampMs .kucoin "firstOpenDate".toList item.firstOpenDate
      .ok (some {
        instrumentId := instrumentId .kucoin symbol, symbol, provider := .kucoin
        market := .linearPerpetual, baseAsset, quoteAsset, settleAsset, status := .live
        venueStatus := item.status, tickSize, quantityStep
        minOrderQuantity := some quantityStep, minNotional := none
        contractSize := some contractSize, contractSizeAsset := some baseAsset
        maxLeverage, listingTimeMs, expiryTimeMs := none, capabilities := capabilities .kucoin })

/-- A refusal is read from the envelope. -/
def parseKucoinCatalog (body : Except Text KucoinEnvelope) : Except CatalogError Instruments := do
  let envelope ← decoded .kucoin body
  if envelope.code ≠ "200000".toList then
    throw (.invalidPayload .kucoin ("endpoint returned code ".toList ++ envelope.code))
  let data ← invalidIfNone .kucoin "missing data".toList envelope.data
  insertItems kucoinInstrument ∅ data.intoVec

-- ---------------------------------------------------------------------------
-- MEXC
-- ---------------------------------------------------------------------------

/-- An item of MEXC's listing. -/
structure MexcInstrument where
  symbol : Text
  baseCoin : Text
  quoteCoin : Text
  settleCoin : Text
  futureType : Int
  state : Int
  contractState : Int
  preMarket : Bool
  contractSize : WireScalar
  priceUnit : WireScalar
  volUnit : WireScalar
  minVol : Option WireScalar
  maxLeverage : Option WireScalar
  createTime : Option WireScalar
  openingTime : Option WireScalar

/-- The listing: one item, or several. -/
structure MexcEnvelope where
  success : Bool
  code : Int
  data : Option (OneOrMany MexcInstrument)

/-- Only perpetuals that are open, past their pre-market, and quoted and
settled in USDT are admitted. -/
def mexcInstrument (item : MexcInstrument) : Except CatalogError (Option Instrument) :=
  if item.futureType ≠ 1 ∨ item.state ≠ 0 ∨ item.contractState ≠ 1 ∨ item.preMarket ∨
      item.quoteCoin ≠ "USDT".toList ∨ item.settleCoin ≠ "USDT".toList then .ok none
  else do
    let openingTimeMs ← optionalTimestampMs .mexc "openingTime".toList item.openingTime
    let createTimeMs ← optionalTimestampMs .mexc "createTime".toList item.createTime
    let symbol ← exactSymbol .mexc item.symbol
    let baseAsset ← exactAsset .mexc "baseCoin".toList item.baseCoin
    let quoteAsset ← exactAsset .mexc "quoteCoin".toList item.quoteCoin
    let settleAsset ← exactAsset .mexc "settleCoin".toList item.settleCoin
    let tickSize ← positiveDecimal .mexc "priceUnit".toList item.priceUnit
    let quantityStep ← positiveDecimal .mexc "volUnit".toList item.volUnit
    let minOrderQuantity ← optionalPositiveDecimal .mexc "minVol".toList item.minVol
    let contractSize ← positiveDecimal .mexc "contractSize".toList item.contractSize
    let maxLeverage ← optionalPositiveDecimal .mexc "maxLeverage".toList item.maxLeverage
    .ok (some {
      instrumentId := instrumentId .mexc symbol, symbol, provider := .mexc
      market := .linearPerpetual, baseAsset, quoteAsset, settleAsset, status := .live
      venueStatus := "state=".toList ++ Text.ofInt item.state ++ ",type=".toList ++
        Text.ofInt item.contractState
      tickSize, quantityStep, minOrderQuantity, minNotional := none
      contractSize := some contractSize, contractSizeAsset := some baseAsset, maxLeverage
      listingTimeMs := openingTimeMs.or createTimeMs, expiryTimeMs := none
      capabilities := capabilities .mexc })

/-- A refusal shows in either of two members. -/
def parseMexcCatalog (body : Except Text MexcEnvelope) : Except CatalogError Instruments := do
  let envelope ← decoded .mexc body
  if !envelope.success ∨ envelope.code ≠ 0 then
    throw (.invalidPayload .mexc ("endpoint returned success=".toList ++
      (Value.bool envelope.success).display ++ " code=".toList ++ Text.ofInt envelope.code))
  let data ← invalidIfNone .mexc "missing data".toList envelope.data
  insertItems mexcInstrument ∅ data.intoVec

-- ---------------------------------------------------------------------------
-- BingX
-- ---------------------------------------------------------------------------

/-- An item of BingX's listing. -/
structure BingxInstrument where
  symbol : Text
  asset : Text
  currency : Text
  status : Int
  apiStateOpen : Text
  size : WireScalar
  pricePrecision : Nat
  quantityPrecision : Nat
  tradeMinQuantity : Option WireScalar
  tradeMinUsdt : Option WireScalar
  maxLongLeverage : Option WireScalar
  maxShortLeverage : Option WireScalar
  launchTime : Nat
  offTime : Nat

/-- The listing, with a code of its own. -/
structure BingxEnvelope where
  code : Int
  msg : Text
  data : List BingxInstrument

/-- The smaller of the two ceilings that are given. -/
def bingxMaxLeverage : Option DecimalValue → Option DecimalValue →
    Except CatalogError (Option DecimalValue)
  | some long, some short => do
    let longValue ← invalidIfNone .bingx "maxLongLeverage is not a decimal".toList
      (RustDecimal.fromStr long.text)
    let shortValue ← invalidIfNone .bingx "maxShortLeverage is not a decimal".toList
      (RustDecimal.fromStr short.text)
    .ok (some (if longValue.le shortValue then long else short))
  | some value, none | none, some value => .ok (some value)
  | none, none => .ok none

/-- Only contracts that are open to the API, in one of the two currencies, are
admitted. -/
def bingxInstrument (item : BingxInstrument) : Except CatalogError (Option Instrument) :=
  if item.status ≠ 1 ∨ item.apiStateOpen ≠ "true".toList ∨
      ¬ (item.currency = "USDT".toList ∨ item.currency = "USDC".toList) then .ok none
  else do
    let symbol ← exactSymbol .bingx item.symbol
    let baseAsset ← exactAsset .bingx "asset".toList item.asset
    let quoteAsset ← exactAsset .bingx "currency".toList item.currency
    let maxLong ← optionalPositiveDecimal .bingx "maxLongLeverage".toList item.maxLongLeverage
    let maxShort ← optionalPositiveDecimal .bingx "maxShortLeverage".toList item.maxShortLeverage
    let maxLeverage ← bingxMaxLeverage maxLong maxShort
    let tickSize ← precisionStep .bingx "pricePrecision".toList item.pricePrecision
    let quantityStep ← precisionStep .bingx "quantityPrecision".toList item.quantityPrecision
    let minOrderQuantity ←
      optionalPositiveDecimal .bingx "tradeMinQuantity".toList item.tradeMinQuantity
    let minNotional ← optionalPositiveDecimal .bingx "tradeMinUSDT".toList item.tradeMinUsdt
    let contractSize ← positiveDecimal .bingx "size".toList item.size
    .ok (some {
      instrumentId := instrumentId .bingx symbol, symbol, provider := .bingx
      market := .linearPerpetual, baseAsset, quoteAsset, settleAsset := quoteAsset
      status := .live, venueStatus := Text.ofInt item.status, tickSize, quantityStep
      minOrderQuantity, minNotional, contractSize := some contractSize
      contractSizeAsset := some baseAsset, maxLeverage
      listingTimeMs := if item.launchTime ≠ 0 then some item.launchTime else none
      expiryTimeMs := if item.offTime ≠ 0 then some item.offTime else none
      capabilities := capabilities .bingx })

/-- A refusal is read from the envelope. -/
def parseBingxCatalog (body : Except Text BingxEnvelope) : Except CatalogError Instruments := do
  let envelope ← decoded .bingx body
  if envelope.code ≠ 0 then
    throw (.invalidPayload .bingx ("endpoint returned code ".toList ++
      Text.ofInt envelope.code ++ ": ".toList ++ envelope.msg))
  insertItems bingxInstrument ∅ envelope.data

-- ---------------------------------------------------------------------------
-- The catalog
-- ---------------------------------------------------------------------------

/-- What the venues answer during a refresh: the body of the listing, or the
error of the request. -/
structure CatalogServers where
  bybit : BybitServer
  binance : Except CatalogError (Except Text BinanceEnvelope)
  okx : Except CatalogError (Except Text OkxEnvelope)
  kucoin : Except CatalogError (Except Text KucoinEnvelope)
  mexc : Except CatalogError (Except Text MexcEnvelope)
  bingx : Except CatalogError (Except Text BingxEnvelope)

/-- The listing of a venue. -/
def fetchProvider (servers : CatalogServers) : Provider → Except CatalogError Instruments
  | .bybit => fetchBybit servers.bybit
  | .binance => servers.binance >>= parseBinanceCatalog
  | .okx => servers.okx >>= parseOkxCatalog
  | .kucoin => servers.kucoin >>= parseKucoinCatalog
  | .mexc => servers.mexc >>= parseMexcCatalog
  | .bingx => servers.bingx >>= parseBingxCatalog

end Listings

/-- What the status endpoint shows of a provider. -/
structure ProviderCatalogStatus where
  provider : Provider
  enabled : Bool
  instrumentCount : Nat
  lastAttemptAtMs : Option Nat
  lastSuccessAtMs : Option Nat
  lastError : Option Text

/-- What a refresh that succeeded reports. -/
structure RefreshOutcome where
  provider : Provider
  instrumentCount : Nat
  refreshedAtMs : Nat

/-- What the catalog holds of a provider. -/
structure ProviderSnapshot where
  instruments : Instruments
  status : ProviderCatalogStatus

/-- The catalog: one snapshot for each provider, those of the disabled ones empty. -/
structure Catalog where
  enabledProviders : Finset Provider
  providers : Provider → ProviderSnapshot

/-- One refresh: what the venues answer, and the two readings of the clock. -/
structure Refresh where
  provider : Provider
  servers : CatalogServers
  attemptedAtMs : Nat
  refreshedAtMs : Nat

namespace Catalog

/-- `Catalog::new`: a snapshot without instruments for every provider. -/
def new (enabledProviders : Finset Provider) : Catalog where
  enabledProviders := enabledProviders
  providers provider :=
    { instruments := ∅
      status := ⟨provider, provider ∈ enabledProviders, 0, none, none, none⟩ }

/-- Put the snapshot of one provider. -/
def put (c : Catalog) (provider : Provider) (snapshot : ProviderSnapshot) : Catalog :=
  { c with providers := Function.update c.providers provider snapshot }

section Refreshing

variable [Unicode] [RustDecimal]

/-- The listing of a refresh; an empty one is an error. -/
def refreshed (refresh : Refresh) : Except CatalogError Instruments := do
  let instruments ← fetchProvider refresh.servers refresh.provider
  if instruments.keys = ∅ then .error (.emptySnapshot refresh.provider) else .ok instruments

/-- `refresh_provider`. An error keeps the instruments. -/
def refreshProvider (c : Catalog) (refresh : Refresh) :
    Except CatalogError RefreshOutcome × Catalog :=
  if refresh.provider ∉ c.enabledProviders then (.error (.providerDisabled refresh.provider), c)
  else
    let snapshot := c.providers refresh.provider
    match refreshed refresh with
    | .error error =>
      let status := { snapshot.status with
        lastAttemptAtMs := some refresh.attemptedAtMs
        lastError := some error.display }
      (.error error, c.put refresh.provider ⟨snapshot.instruments, status⟩)
    | .ok instruments =>
      let count := instruments.keys.card
      let status := { snapshot.status with
        instrumentCount := count
        lastAttemptAtMs := some refresh.attemptedAtMs
        lastSuccessAtMs := some refresh.refreshedAtMs
        lastError := none }
      (.ok ⟨refresh.provider, count, refresh.refreshedAtMs⟩,
        c.put refresh.provider ⟨instruments, status⟩)

/-- A refresh as a step. -/
def step (c : Catalog) (refresh : Refresh) : Catalog := (c.refreshProvider refresh).2

end Refreshing

section Lookup

variable [Unicode]

/-- There is one market, so it does not take part. -/
def get (c : Catalog) (provider : Provider) (_market : MarketKind) (symbol : Text) :
    Option Instrument :=
  let symbol := Text.trim symbol
  let instruments := (c.providers provider).instruments
  match instruments.lookup symbol with
  | some instrument => some instrument
  | none => match normalizeSymbol symbol with
    | .ok normalized => instruments.lookup normalized
    | .error _ => none

/-- Validate that a subscription resolves to a live linear perpetual and a
supported channel. -/
def validateSubscription (c : Catalog) (subscription : SubscriptionKey) :
    Except CatalogError Instrument :=
  if subscription.provider ∉ c.enabledProviders then
    .error (.providerDisabled subscription.provider)
  else match c.get subscription.provider subscription.market subscription.symbol with
    | none => .error (.instrumentUnavailable subscription.provider subscription.market
        subscription.symbol)
    | some instrument =>
      if !instrument.capabilities.supports subscription.channel then
        .error (.unsupportedChannel subscription.provider subscription.market subscription.symbol
          subscription.channel)
      else .ok instrument

/-- An instrument is found under the canonical symbol of a key. -/
theorem get_canonical (c : Catalog) {key : SubscriptionKey} (h : key.Canonical) :
    c.get key.provider key.market key.symbol =
      (c.providers key.provider).instruments.lookup key.symbol := by
  unfold get
  rw [h.trim]
  dsimp only
  split
  · next hExact => exact hExact.symm
  · -- normalizing once more finds the same symbol
    rw [show normalizeSymbol key.symbol = .ok key.symbol from h]

end Lookup

end Catalog

-- ---------------------------------------------------------------------------
-- What an instrument was checked for
-- ---------------------------------------------------------------------------

section Listed

variable [Unicode]

/-- The checks every instrument of a provider's listing has passed. -/
structure Listed (provider : Provider) (instrument : Instrument) : Prop where
  provider_eq : instrument.provider = provider
  canonical : normalizeSymbol instrument.symbol = .ok instrument.symbol
  id_eq : instrument.instrumentId = instrumentId provider instrument.symbol
  capable : instrument.capabilities = capabilities provider
  /-- KuCoin is the one listing that looks at the symbol itself. -/
  kucoinSuffix : provider = .kucoin →
    "USDTM".toList.isSuffixOf instrument.symbol || "USDCM".toList.isSuffixOf instrument.symbol

/-- A symbol that is accepted is the one of the listing, and canonical. -/
theorem exactSymbol_eq_ok {provider : Provider} {value symbol : Text}
    (h : exactSymbol provider value = .ok symbol) :
    symbol = value ∧ normalizeSymbol symbol = .ok symbol := by
  unfold exactSymbol at h
  split at h
  · cases h
  · next normalized hNormalized =>
    split at h
    · cases h
    · next hExact =>
      rw [not_not] at hExact
      obtain rfl := Except.ok.inj h
      exact ⟨rfl, hNormalized.trans (congrArg Except.ok hExact)⟩

section Admission

variable [RustDecimal] {instrument : Instrument}

/-- What the items of a venue are admitted as is fit for its listing. -/
theorem bybitInstrument_listed {item : BybitInstrument}
    (h : bybitInstrument item = .ok (some instrument)) : Listed .bybit instrument := by
  unfold bybitInstrument at h
  split at h
  · cases h
  · obtain ⟨symbol, hSymbol, h⟩ := bind_eq_ok.mp h
    iterate 10 obtain ⟨_, -, h⟩ := bind_eq_ok.mp h
    obtain rfl := Option.some.inj (Except.ok.inj h)
    exact ⟨rfl, (exactSymbol_eq_ok hSymbol).2, rfl, rfl, nofun⟩

theorem binanceInstrument_listed {item : BinanceInstrument}
    (h : binanceInstrument item = .ok (some instrument)) : Listed .binance instrument := by
  unfold binanceInstrument at h
  split at h
  · cases h
  · iterate 4 obtain ⟨_, -, h⟩ := bind_eq_ok.mp h
    obtain ⟨symbol, hSymbol, h⟩ := bind_eq_ok.mp h
    iterate 3 obtain ⟨_, -, h⟩ := bind_eq_ok.mp h
    obtain rfl := Option.some.inj (Except.ok.inj h)
    exact ⟨rfl, (exactSymbol_eq_ok hSymbol).2, rfl, rfl, nofun⟩

theorem okxInstrument_listed {item : OkxInstrument}
    (h : okxInstrument item = .ok (some instrument)) : Listed .okx instrument := by
  unfold okxInstrument at h
  split at h
  · cases h
  · iterate 4 obtain ⟨_, -, h⟩ := bind_eq_ok.mp h
    obtain ⟨symbol, hSymbol, h⟩ := bind_eq_ok.mp h
    iterate 8 obtain ⟨_, -, h⟩ := bind_eq_ok.mp h
    obtain rfl := Option.some.inj (Except.ok.inj h)
    exact ⟨rfl, (exactSymbol_eq_ok hSymbol).2, rfl, rfl, nofun⟩

/-- KuCoin checks the end of the symbol too. -/
theorem kucoinInstrument_listed {item : KucoinInstrument}
    (h : kucoinInstrument item = .ok (some instrument)) : Listed .kucoin instrument := by
  unfold kucoinInstrument at h
  split at h
  · cases h
  · obtain ⟨expiry, -, h⟩ := bind_eq_ok.mp h
    split at h
    · cases h
    · split at h
      · cases h
      · next hSuffix =>
        obtain ⟨symbol, hSymbol, h⟩ := bind_eq_ok.mp h
        iterate 8 obtain ⟨_, -, h⟩ := bind_eq_ok.mp h
        obtain rfl := Option.some.inj (Except.ok.inj h)
        obtain ⟨rfl, hCanonical⟩ := exactSymbol_eq_ok hSymbol
        rw [Bool.not_eq_true', Bool.not_eq_false] at hSuffix
        exact ⟨rfl, hCanonical, rfl, rfl, fun _ => hSuffix⟩

theorem mexcInstrument_listed {item : MexcInstrument}
    (h : mexcInstrument item = .ok (some instrument)) : Listed .mexc instrument := by
  unfold mexcInstrument at h
  split at h
  · cases h
  · iterate 2 obtain ⟨_, -, h⟩ := bind_eq_ok.mp h
    obtain ⟨symbol, hSymbol, h⟩ := bind_eq_ok.mp h
    iterate 8 obtain ⟨_, -, h⟩ := bind_eq_ok.mp h
    obtain rfl := Option.some.inj (Except.ok.inj h)
    exact ⟨rfl, (exactSymbol_eq_ok hSymbol).2, rfl, rfl, nofun⟩

theorem bingxInstrument_listed {item : BingxInstrument}
    (h : bingxInstrument item = .ok (some instrument)) : Listed .bingx instrument := by
  unfold bingxInstrument at h
  split at h
  · cases h
  · obtain ⟨symbol, hSymbol, h⟩ := bind_eq_ok.mp h
    iterate 10 obtain ⟨_, -, h⟩ := bind_eq_ok.mp h
    obtain rfl := Option.some.inj (Except.ok.inj h)
    exact ⟨rfl, (exactSymbol_eq_ok hSymbol).2, rfl, rfl, nofun⟩

end Admission

-- snapshots

/-- Every instrument is under its symbol, and was checked. -/
def AllListed (provider : Provider) (instruments : Instruments) : Prop :=
  ∀ symbol instrument, instruments.lookup symbol = some instrument →
    instrument.symbol = symbol ∧ Listed provider instrument

/-- An empty listing holds nothing that is unfit. -/
theorem allListed_empty (provider : Provider) : AllListed provider ∅ := by
  intro symbol instrument h
  rw [Finmap.lookup_empty] at h
  cases h

/-- Inserting a fit instrument keeps a listing fit. -/
theorem insertUnique_allListed {provider : Provider} {instruments instruments' : Instruments}
    {instrument : Instrument} (hAll : AllListed provider instruments)
    (hNew : Listed provider instrument)
    (h : insertUnique instruments instrument = .ok instruments') :
    AllListed provider instruments' := by
  unfold insertUnique at h
  split at h
  · cases h
  · obtain rfl := Except.ok.inj h
    intro symbol found hFound
    rw [lookup_insert_ite] at hFound
    split at hFound
    · next hSymbol =>
      obtain rfl := Option.some.inj hFound
      exact ⟨hSymbol.symm, hNew⟩
    · exact hAll symbol found hFound

/-- Inserting what is admitted of a list of items keeps a listing fit. -/
theorem insertItems_allListed {ι : Type} {provider : Provider}
    {admission : ι → Except CatalogError (Option Instrument)} {items : List ι}
    (hAdmit : ∀ item ∈ items, ∀ instrument, admission item = .ok (some instrument) →
      Listed provider instrument)
    {instruments instruments' : Instruments} (hAll : AllListed provider instruments)
    (h : insertItems admission instruments items = .ok instruments') :
    AllListed provider instruments' := by
  induction items generalizing instruments with
  | nil =>
    obtain rfl := Except.ok.inj h
    exact hAll
  | cons item items ih =>
    have hRest : ∀ item ∈ items, ∀ instrument, admission item = .ok (some instrument) →
        Listed provider instrument := fun item hItem => hAdmit item (List.mem_cons_of_mem _ hItem)
    rw [insertItems] at h
    obtain ⟨admitted, hItem, h⟩ := bind_eq_ok.mp h
    cases admitted with
    -- an item that is not admitted leaves the map as it is
    | none => exact ih hRest hAll h
    | some instrument =>
      obtain ⟨inserted, hInsert, h⟩ := bind_eq_ok.mp h
      have hListed := hAdmit item List.mem_cons_self instrument hItem
      exact ih hRest (insertUnique_allListed hAll hListed hInsert) h

/-- A listing that is inserted item by item. -/
theorem insertItems_listed {ι : Type} {provider : Provider}
    {admission : ι → Except CatalogError (Option Instrument)} {items : List ι}
    {instruments : Instruments}
    (hAdmit : ∀ {item instrument}, admission item = .ok (some instrument) →
      Listed provider instrument)
    (h : insertItems admission ∅ items = .ok instruments) : AllListed provider instruments :=
  insertItems_allListed (fun _ _ _ hItem => hAdmit hItem) (allListed_empty provider) h

section Fetching

variable [RustDecimal]

/-- Every instrument of a page is fit. -/
theorem parseBybitPage_listed {body : Except Text BybitEnvelope} {page : BybitPage}
    (h : parseBybitPage body = .ok page) :
    ∀ instrument ∈ page.instruments, Listed .bybit instrument := by
  unfold parseBybitPage at h
  obtain ⟨envelope, -, h⟩ := bind_eq_ok.mp h
  split at h
  · cases h
  · obtain ⟨result, -, h⟩ := bind_eq_ok.mp h
    split at h
    · cases h
    · obtain ⟨instruments, hItems, h⟩ := bind_eq_ok.mp h
      obtain rfl := Except.ok.inj h
      intro instrument hMem
      -- the instruments of a page are those its items were decoded to
      have hSome : some instrument ∈ instruments := List.reduceOption_mem_iff.mp hMem
      have hAdmitted : (.ok (some instrument) : Except CatalogError (Option Instrument)) ∈
          result.list.map bybitInstrument := by
        rw [map_of_mapM_eq_ok hItems]
        exact List.mem_map_of_mem hSome
      obtain ⟨item, -, hItem⟩ := List.mem_map.mp hAdmitted
      exact bybitInstrument_listed hItem

/-- The walk collects fit instruments only, page by page. -/
theorem fetchBybitPages_listed {server : BybitServer} {rounds : Nat}
    {instruments instruments' : Instruments} {cursor : Option Text} {requestedCursors : Finset Text}
    {requests : List (Option Text)} (hAll : AllListed .bybit instruments)
    (h : fetchBybitPages server rounds instruments cursor requestedCursors requests =
      .ok instruments') : AllListed .bybit instruments' := by
  induction rounds generalizing instruments cursor requestedCursors requests with
  | zero => cases h
  | succ rounds ih =>
    rw [fetchBybitPages] at h
    obtain ⟨requestedCursors, -, h⟩ := bind_eq_ok.mp h
    obtain ⟨body, -, h⟩ := bind_eq_ok.mp h
    obtain ⟨page, hPage, h⟩ := bind_eq_ok.mp h
    obtain ⟨inserted, hInsert, h⟩ := bind_eq_ok.mp h
    -- the map so far and the page are both listed
    have hInserted : AllListed .bybit inserted := by
      refine insertItems_allListed (fun instrument hMem found hFound => ?_) hAll hInsert
      obtain rfl := Option.some.inj (Except.ok.inj hFound)
      exact parseBybitPage_listed hPage instrument hMem
    dsimp only at h
    split at h
    · obtain rfl := Except.ok.inj h
      exact hInserted
    · split at h
      · cases h
      · exact ih hInserted h

/-- The listing of every venue is fit. -/
theorem fetchProvider_listed {servers : CatalogServers} {provider : Provider}
    {instruments : Instruments} (h : fetchProvider servers provider = .ok instruments) :
    AllListed provider instruments := by
  cases provider with
  -- Bybit alone answers in pages
  | bybit => exact fetchBybitPages_listed (allListed_empty _) h
  | binance =>
    obtain ⟨body, -, h⟩ := bind_eq_ok.mp h
    obtain ⟨envelope, -, h⟩ := bind_eq_ok.mp h
    exact insertItems_listed binanceInstrument_listed h
  | okx =>
    obtain ⟨body, -, h⟩ := bind_eq_ok.mp h
    obtain ⟨envelope, -, h⟩ := bind_eq_ok.mp h
    split at h
    · cases h
    · exact insertItems_listed okxInstrument_listed h
  | kucoin =>
    obtain ⟨body, -, h⟩ := bind_eq_ok.mp h
    obtain ⟨envelope, -, h⟩ := bind_eq_ok.mp h
    split at h
    · cases h
    · obtain ⟨data, -, h⟩ := bind_eq_ok.mp h
      exact insertItems_listed kucoinInstrument_listed h
  | mexc =>
    obtain ⟨body, -, h⟩ := bind_eq_ok.mp h
    obtain ⟨envelope, -, h⟩ := bind_eq_ok.mp h
    split at h
    · cases h
    · obtain ⟨data, -, h⟩ := bind_eq_ok.mp h
      exact insertItems_listed mexcInstrument_listed h
  | bingx =>
    obtain ⟨body, -, h⟩ := bind_eq_ok.mp h
    obtain ⟨envelope, -, h⟩ := bind_eq_ok.mp h
    split at h
    · cases h
    · exact insertItems_listed bingxInstrument_listed h

end Fetching

-- reachable catalogs

namespace Catalog

/-- The catalog lists checked instruments only. -/
def Listing (c : Catalog) : Prop :=
  ∀ provider, AllListed provider (c.providers provider).instruments

/-- Replacing a snapshot by a fit one keeps the catalog fit. -/
theorem Listing.put {c : Catalog} (h : c.Listing) {provider : Provider}
    {snapshot : ProviderSnapshot} (hSnapshot : AllListed provider snapshot.instruments) :
    (c.put provider snapshot).Listing := by
  intro other
  unfold Catalog.put
  by_cases hOther : other = provider
  · subst hOther
    simpa using hSnapshot
  · simpa [hOther] using h other

variable [RustDecimal]

/-- Every refresh keeps the catalog fit. -/
theorem Listing.step {c : Catalog} (h : c.Listing) (refresh : Refresh) :
    (c.step refresh).Listing := by
  unfold Catalog.step refreshProvider
  split
  · exact h
  · dsimp only
    split
    · exact h.put (h refresh.provider)
    · next instruments hRefreshed =>
      obtain ⟨fetched, hFetched, hSome⟩ := bind_eq_ok.mp hRefreshed
      split at hSome
      · cases hSome
      · obtain rfl := Except.ok.inj hSome
        exact h.put (fetchProvider_listed hFetched)

/-- **Listings.** Every instrument of every reachable catalog is under its
symbol and has passed the checks of its provider's listing. -/
theorem refreshed_listed (enabledProviders : Finset Provider) (refreshes : List Refresh) :
    (run Catalog.step (Catalog.new enabledProviders) refreshes).Listing :=
  run_invariant (fun _ refresh h => h.step refresh) (fun _ => allListed_empty _) refreshes

end Catalog

end Listed

end MarketStreamGateway
