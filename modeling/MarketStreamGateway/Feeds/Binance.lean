import MarketStreamGateway.Providers.Binance
import MarketStreamGateway.Feeds.Reading

/-!
# Market Stream Gateway — Binance market data

The market-data handlers of `providers/binance.rs`. A frame is the payload
itself, or an envelope that names the stream and has the payload as `data`; the
payload's event type picks the handler.
-/

namespace MarketStreamGateway

open Lib

/-- A `24hrTicker` payload: the last price is always there, the best prices may
be missing. -/
structure BinanceTicker where
  eventTime : Nat
  symbol : Text
  last : Text
  bid : Option Text
  ask : Option Text
  firstTradeId : Option Int
  lastTradeId : Option Int
  symbolType : Option Nat

def BinanceTicker.decode (value : Value) : Option BinanceTicker := do
  let get ← value.members [("E".toList, false), ("s".toList, false), ("c".toList, false),
    ("b".toList, false), ("a".toList, false), ("F".toList, false), ("L".toList, false),
    ("st".toList, false)]
  let eventTime ← Value.required Value.asU64 (get "E".toList)
  let symbol ← Value.required Value.asStr (get "s".toList)
  let last ← Value.required Value.asStr (get "c".toList)
  let bid ← Value.optional Value.asStr (get "b".toList)
  let ask ← Value.optional Value.asStr (get "a".toList)
  let firstTradeId ← Value.optional Value.asI64 (get "F".toList)
  let lastTradeId ← Value.optional Value.asI64 (get "L".toList)
  let symbolType ← Value.optional Value.asU8 (get "st".toList)
  return ⟨eventTime, symbol, last, bid, ask, firstTradeId, lastTradeId, symbolType⟩

/-- A `markPriceUpdate` payload. -/
structure BinanceMarkPrice where
  eventTime : Nat
  symbol : Text
  markPrice : Text
  indexPrice : Text
  fundingRate : Text
  nextFundingTime : Nat
  symbolType : Option Nat

def BinanceMarkPrice.decode (value : Value) : Option BinanceMarkPrice := do
  let get ← value.members [("E".toList, false), ("s".toList, false), ("p".toList, false),
    ("i".toList, false), ("r".toList, false), ("T".toList, false), ("st".toList, false)]
  let eventTime ← Value.required Value.asU64 (get "E".toList)
  let symbol ← Value.required Value.asStr (get "s".toList)
  let markPrice ← Value.required Value.asStr (get "p".toList)
  let indexPrice ← Value.required Value.asStr (get "i".toList)
  let fundingRate ← Value.required Value.asStr (get "r".toList)
  let nextFundingTime ← Value.required Value.asU64 (get "T".toList)
  let symbolType ← Value.optional Value.asU8 (get "st".toList)
  return ⟨eventTime, symbol, markPrice, indexPrice, fundingRate, nextFundingTime, symbolType⟩

/-- The candle in a `kline` payload. -/
structure BinanceKline where
  startTime : Nat
  closeTime : Nat
  symbol : Text
  interval : Text
  firstTradeId : Int
  lastTradeId : Int
  openPrice : Text
  close : Text
  high : Text
  low : Text
  baseVolume : Text
  quoteVolume : Text
  closed : Bool

def BinanceKline.decode (value : Value) : Option BinanceKline := do
  let get ← value.members [("t".toList, false), ("T".toList, false), ("s".toList, false),
    ("i".toList, false), ("f".toList, false), ("L".toList, false), ("o".toList, false),
    ("c".toList, false), ("h".toList, false), ("l".toList, false), ("v".toList, false),
    ("q".toList, false), ("x".toList, false)]
  let startTime ← Value.required Value.asU64 (get "t".toList)
  let closeTime ← Value.required Value.asU64 (get "T".toList)
  let symbol ← Value.required Value.asStr (get "s".toList)
  let interval ← Value.required Value.asStr (get "i".toList)
  let firstTradeId ← Value.required Value.asI64 (get "f".toList)
  let lastTradeId ← Value.required Value.asI64 (get "L".toList)
  let openPrice ← Value.required Value.asStr (get "o".toList)
  let close ← Value.required Value.asStr (get "c".toList)
  let high ← Value.required Value.asStr (get "h".toList)
  let low ← Value.required Value.asStr (get "l".toList)
  let baseVolume ← Value.required Value.asStr (get "v".toList)
  let quoteVolume ← Value.required Value.asStr (get "q".toList)
  let closed ← Value.required Value.asBool (get "x".toList)
  return ⟨startTime, closeTime, symbol, interval, firstTradeId, lastTradeId, openPrice, close,
    high, low, baseVolume, quoteVolume, closed⟩

/-- A `kline` payload names its symbol twice, outside and inside. -/
structure BinanceKlineEnvelope where
  eventTime : Nat
  symbol : Text
  kline : BinanceKline
  symbolType : Option Nat

def BinanceKlineEnvelope.decode (value : Value) : Option BinanceKlineEnvelope := do
  let get ← value.members [("E".toList, false), ("s".toList, false), ("k".toList, false),
    ("st".toList, false)]
  let eventTime ← Value.required Value.asU64 (get "E".toList)
  let symbol ← Value.required Value.asStr (get "s".toList)
  let kline ← Value.required BinanceKline.decode (get "k".toList)
  let symbolType ← Value.optional Value.asU8 (get "st".toList)
  return ⟨eventTime, symbol, kline, symbolType⟩

namespace BinanceSession

variable [Unicode] [RustDecimal]

/-- A missing or empty value is no observation. -/
def optionalObservation (value : Option Text) (observedAtMs : Nat) (field : Text) :
    Except AdapterError (Option ObservedDecimal) :=
  match value.filter (!·.isEmpty) with
  | none => .ok none
  | some value => (observation invalidPayload value observedAtMs field).map some

/-- USD-M payloads have type 1 or none; COIN-M ones are told apart from unknown ones. -/
def ensureUsdm : Option Nat → Except AdapterError Unit
  | none => .ok ()
  | some symbolType =>
    if symbolType = 2 then
      .error (invalidPayload "received a COIN-M payload on the USD-M adapter".toList)
    else if symbolType ≠ 1 then
      .error (invalidPayload ("unsupported Binance symbol type ".toList ++ Text.ofNat symbolType))
    else .ok ()

/-- The stream, if the frame names one, is the one of the symbol. -/
def validateStreamSymbol (streamName : Option Text) (symbol expectedSuffix : Text) :
    Except AdapterError Unit :=
  match streamName with
  | none => .ok ()
  | some streamName =>
    let streamNameLower := Text.toAsciiLowercase streamName
    let expected := Text.toAsciiLowercase symbol ++ Text.toAsciiLowercase expectedSuffix
    let matched :=
      if expectedSuffix = "@markPrice".toList then
        streamNameLower = expected ∨ streamNameLower = expected ++ "@1s".toList
      else streamNameLower = expected
    if matched then .ok ()
    else .error (invalidPayload ("combined stream ".toList ++ Text.debug streamName ++
      " does not match ".toList ++ symbol ++ ' ' :: expectedSuffix))

/-- The range of trades a ticker covers, in the form of a source sequence. -/
def tickerSequence (update : BinanceTicker) : Option SourceSequence :=
  match update.firstTradeId, update.lastTradeId with
  | none, none => none
  | first, last => some ⟨first.map Text.ofInt, last.map Text.ofInt, none⟩

/-- The bid and the ask are overwritten even if the frame has none. -/
def parseTicker [Serde] (value : Value) (streamName : Option Text) :
    Except AdapterError Reading := do
  let update ← (value.fromValue "BinanceTicker".toList BinanceTicker.decode).mapError
    fun error => invalidPayload ("invalid ticker message: ".toList ++ error)
  ensureUsdm update.symbolType
  let symbol ← normalizedSymbol invalidPayload update.symbol
  validateStreamSymbol streamName symbol "@ticker".toList
  let last ← observation invalidPayload update.last update.eventTime "last price".toList
  let bid ← optionalObservation update.bid update.eventTime "bid price".toList
  let ask ← optionalObservation update.ask update.eventTime "ask price".toList
  return .single {
    symbol := symbol
    observedAtMs := update.eventTime
    writes := [(.last, some last), (.bid, bid), (.ask, ask)]
    sourceSequence := tickerSequence update }

/-- Mark price, index price and funding rate come together and all of them must parse. -/
def parseMarkPrice [Serde] (value : Value) (streamName : Option Text) :
    Except AdapterError Reading := do
  let update ← (value.fromValue "BinanceMarkPrice".toList BinanceMarkPrice.decode).mapError
    fun error => invalidPayload ("invalid mark-price message: ".toList ++ error)
  ensureUsdm update.symbolType
  let symbol ← normalizedSymbol invalidPayload update.symbol
  validateStreamSymbol streamName symbol "@markPrice".toList
  let mark ← observation invalidPayload update.markPrice update.eventTime "mark price".toList
  let index ← observation invalidPayload update.indexPrice update.eventTime "index price".toList
  let funding ← observation invalidPayload update.fundingRate update.eventTime
    "funding rate".toList
  return .single {
    symbol := symbol
    observedAtMs := update.eventTime
    writes := [(.mark, some mark), (.index, some index), (.fundingRate, some funding)]
    nextFundingTimeMs := some (some update.nextFundingTime) }

/-- The two symbols of a payload must agree, and agree with its stream. -/
def parseKline [Serde] (value : Value) (streamName : Option Text) :
    Except AdapterError Reading := do
  let update ← (value.fromValue "BinanceKlineEnvelope".toList
    BinanceKlineEnvelope.decode).mapError
    fun error => invalidPayload ("invalid kline message: ".toList ++ error)
  ensureUsdm update.symbolType
  let outerSymbol ← normalizedSymbol invalidPayload update.symbol
  let symbol ← normalizedSymbol invalidPayload update.kline.symbol
  if outerSymbol ≠ symbol then
    throw (invalidPayload ("outer kline symbol ".toList ++ outerSymbol ++
      " does not match inner symbol ".toList ++ symbol))
  validateStreamSymbol streamName symbol "@kline_1m".toList
  if update.kline.interval ≠ "1m".toList then
    throw (invalidPayload ("expected 1m kline interval, got ".toList ++ update.kline.interval))
  if u64Max < update.kline.closeTime + 1 then
    throw (invalidPayload "kline close time cannot be normalized to exclusive".toList)
  let openPrice ← decimalField invalidPayload update.kline.openPrice "open".toList
  let high ← decimalField invalidPayload update.kline.high "high".toList
  let low ← decimalField invalidPayload update.kline.low "low".toList
  let close ← decimalField invalidPayload update.kline.close "close".toList
  let baseVolume ← decimalField invalidPayload update.kline.baseVolume "base volume".toList
  let quoteVolume ← decimalField invalidPayload update.kline.quoteVolume "quote volume".toList
  return .candles [{
    symbol := symbol
    exchangeTimeMs := some update.eventTime
    sourceSequence := some ⟨some (Text.ofInt update.kline.firstTradeId),
      some (Text.ofInt update.kline.lastTradeId), none⟩
    candle := {
      interval := "1m".toList
      startTimeMs := update.kline.startTime
      endTimeMs := update.kline.closeTime + 1
      openPrice, high, low, close
      baseVolume := some baseVolume
      quoteVolume := some quoteVolume
      contractVolume := none
      finality := .ofFlag update.kline.closed
      dataQuality := [] } }]

/-- The payload of a frame, and the stream it was sent on if the frame says so. -/
def payload (value : Value) : Except AdapterError (Value × Option Text) :=
  match value.get "stream".toList with
  | none => .ok (value, none)
  | some stream => match stream.asStr with
    | none => .error (invalidPayload "combined stream name must be a string".toList)
    | some streamName => match value.get "data".toList with
      | none => .error (invalidPayload "combined stream payload is missing data".toList)
      | some data => .ok (data, some streamName)

/-- The event type decides; a payload without one is nothing of ours. -/
def parsePayload [Serde] (value : Value) (streamName : Option Text) :
    Except AdapterError Reading :=
  match value.get "e".toList with
  | some (.string eventType) =>
    if eventType = "24hrTicker".toList then parseTicker value streamName
    else if eventType = "markPriceUpdate".toList then parseMarkPrice value streamName
    else if eventType = "kline".toList then parseKline value streamName
    else .ok .ignored
  | some _ => .error (invalidPayload "event field e must be a string".toList)
  | none => .ok .ignored

/-- The market-data half of `parse`. -/
def reading [Serde] (value : Value) : Reading :=
  .ofExcept do
    let (data, streamName) ← payload value
    parsePayload data streamName

/-! ## Accepted frames -/

/-- An optional value that is there is observed as it is written. -/
theorem optionalObservation_eq {value : Option Text} {observedAtMs : Nat} {name : Text}
    {observed : ObservedDecimal}
    (h : optionalObservation value observedAtMs name = .ok (some observed)) :
    value = some observed.value.text ∧ observed.observedAtMs = observedAtMs := by
  unfold optionalObservation at h
  split at h
  · cases Except.ok.inj h
  · next text hText =>
    obtain ⟨made, hMade, hSome⟩ := map_eq_ok.mp h
    rw [← Option.some.inj hSome, observation_eq _ hMade]
    exact ⟨Option.eq_some_of_filter_eq_some hText, rfl⟩

omit [Unicode] [RustDecimal] in
/-- A decoded ticker holds the members of its document. -/
theorem ticker_members {value : Value} {data : BinanceTicker} (hObject : value.isObject = true)
    (h : BinanceTicker.decode value = some data) :
    value.get "s".toList = some (.string data.symbol) ∧
    (value.get "E".toList).bind Value.asU64 = some data.eventTime ∧
    value.get "c".toList = some (.string data.last) ∧
    (∀ text, data.bid = some text → value.get "b".toList = some (.string text)) ∧
    ∀ text, data.ask = some text → value.get "a".toList = some (.string text) := by
  unfold BinanceTicker.decode at h
  obtain ⟨member, hMember, h⟩ := Option.bind_eq_some_iff.mp h
  obtain ⟨eventTime, hTime, h⟩ := Option.bind_eq_some_iff.mp h
  obtain ⟨symbol, hSymbol, h⟩ := Option.bind_eq_some_iff.mp h
  obtain ⟨last, hLast, h⟩ := Option.bind_eq_some_iff.mp h
  obtain ⟨bid, hBid, h⟩ := Option.bind_eq_some_iff.mp h
  obtain ⟨ask, hAsk, h⟩ := Option.bind_eq_some_iff.mp h
  obtain ⟨firstTradeId, -, h⟩ := Option.bind_eq_some_iff.mp h
  obtain ⟨lastTradeId, -, h⟩ := Option.bind_eq_some_iff.mp h
  obtain ⟨symbolType, -, h⟩ := Option.bind_eq_some_iff.mp h
  obtain rfl := Option.some.inj h
  -- a member is looked up the way the decoded object has it
  have hAt := Value.members_of_isObject hObject hMember
  rw [← hAt, ← hAt, ← hAt, ← hAt, ← hAt]
  refine ⟨Value.required_asStr hSymbol, hTime, Value.required_asStr hLast, ?_, ?_⟩
  · rintro text rfl
    exact Value.optional_asStr hBid
  · rintro text rfl
    exact Value.optional_asStr hAsk

omit [Unicode] [RustDecimal] in
/-- A decoded mark price holds the members of its document. -/
theorem markPrice_members {value : Value} {data : BinanceMarkPrice}
    (hObject : value.isObject = true) (h : BinanceMarkPrice.decode value = some data) :
    value.get "s".toList = some (.string data.symbol) ∧
    (value.get "E".toList).bind Value.asU64 = some data.eventTime ∧
    value.get "p".toList = some (.string data.markPrice) ∧
    value.get "i".toList = some (.string data.indexPrice) ∧
    value.get "r".toList = some (.string data.fundingRate) := by
  unfold BinanceMarkPrice.decode at h
  obtain ⟨member, hMember, h⟩ := Option.bind_eq_some_iff.mp h
  obtain ⟨eventTime, hTime, h⟩ := Option.bind_eq_some_iff.mp h
  obtain ⟨symbol, hSymbol, h⟩ := Option.bind_eq_some_iff.mp h
  obtain ⟨mark, hMark, h⟩ := Option.bind_eq_some_iff.mp h
  obtain ⟨index, hIndex, h⟩ := Option.bind_eq_some_iff.mp h
  obtain ⟨funding, hFunding, h⟩ := Option.bind_eq_some_iff.mp h
  obtain ⟨nextFundingTime, -, h⟩ := Option.bind_eq_some_iff.mp h
  obtain ⟨symbolType, -, h⟩ := Option.bind_eq_some_iff.mp h
  obtain rfl := Option.some.inj h
  -- a member is looked up the way the decoded object has it
  have hAt := Value.members_of_isObject hObject hMember
  rw [← hAt, ← hAt, ← hAt, ← hAt, ← hAt]
  exact ⟨Value.required_asStr hSymbol, hTime, Value.required_asStr hMark,
    Value.required_asStr hIndex, Value.required_asStr hFunding⟩

omit [Unicode] [RustDecimal] in
theorem kline_symbol {value : Value} {data : BinanceKlineEnvelope}
    (hObject : value.isObject = true) (h : BinanceKlineEnvelope.decode value = some data) :
    value.get "s".toList = some (.string data.symbol) := by
  unfold BinanceKlineEnvelope.decode at h
  obtain ⟨member, hMember, h⟩ := Option.bind_eq_some_iff.mp h
  obtain ⟨eventTime, -, h⟩ := Option.bind_eq_some_iff.mp h
  obtain ⟨symbol, hSymbol, h⟩ := Option.bind_eq_some_iff.mp h
  obtain ⟨kline, -, h⟩ := Option.bind_eq_some_iff.mp h
  obtain ⟨symbolType, -, h⟩ := Option.bind_eq_some_iff.mp h
  rw [← Option.some.inj h, ← Value.members_of_isObject hObject hMember]
  exact Value.required_asStr hSymbol

/-- Inversion of `parseTicker`: one update, of the symbol of the payload and
its stream. -/
theorem parseTicker_ok [Serde] {value : Value} {streamName : Option Text} {r : Reading}
    (h : parseTicker value streamName = .ok r) :
    ∃ data u last bid ask, r = .single u ∧ BinanceTicker.decode value = some data ∧
      normalizeSymbol data.symbol = .ok u.symbol ∧
      validateStreamSymbol streamName u.symbol "@ticker".toList = .ok () ∧
      observation invalidPayload data.last data.eventTime "last price".toList = .ok last ∧
      optionalObservation data.bid data.eventTime "bid price".toList = .ok bid ∧
      optionalObservation data.ask data.eventTime "ask price".toList = .ok ask ∧
      u.writes = [(.last, some last), (.bid, bid), (.ask, ask)] := by
  unfold parseTicker at h
  obtain ⟨data, hData, h⟩ := bind_eq_ok.mp h
  obtain ⟨_, -, h⟩ := bind_eq_ok.mp h
  obtain ⟨symbol, hSymbol, h⟩ := bind_eq_ok.mp h
  obtain ⟨_, hStream, h⟩ := bind_eq_ok.mp h
  -- the bid and the ask may be missing
  obtain ⟨last, hLast, h⟩ := bind_eq_ok.mp h
  obtain ⟨bid, hBid, h⟩ := bind_eq_ok.mp h
  obtain ⟨ask, hAsk, h⟩ := bind_eq_ok.mp h
  obtain rfl := Except.ok.inj h
  exact ⟨data, _, last, bid, ask, rfl, Value.fromValue_eq_ok.mp (mapError_eq_ok.mp hData),
    (normalizedSymbol_eq_ok _).mp hSymbol, hStream, hLast, hBid, hAsk, rfl⟩

/-- Inversion of `parseMarkPrice`. -/
theorem parseMarkPrice_ok [Serde] {value : Value} {streamName : Option Text} {r : Reading}
    (h : parseMarkPrice value streamName = .ok r) :
    ∃ data u mark index funding, r = .single u ∧ BinanceMarkPrice.decode value = some data ∧
      normalizeSymbol data.symbol = .ok u.symbol ∧
      validateStreamSymbol streamName u.symbol "@markPrice".toList = .ok () ∧
      observation invalidPayload data.markPrice data.eventTime "mark price".toList = .ok mark ∧
      observation invalidPayload data.indexPrice data.eventTime "index price".toList = .ok index ∧
      observation invalidPayload data.fundingRate data.eventTime "funding rate".toList =
        .ok funding ∧
      u.writes = [(.mark, some mark), (.index, some index), (.fundingRate, some funding)] := by
  unfold parseMarkPrice at h
  obtain ⟨data, hData, h⟩ := bind_eq_ok.mp h
  obtain ⟨_, -, h⟩ := bind_eq_ok.mp h
  obtain ⟨symbol, hSymbol, h⟩ := bind_eq_ok.mp h
  obtain ⟨_, hStream, h⟩ := bind_eq_ok.mp h
  obtain ⟨mark, hMark, h⟩ := bind_eq_ok.mp h
  obtain ⟨index, hIndex, h⟩ := bind_eq_ok.mp h
  obtain ⟨funding, hFunding, h⟩ := bind_eq_ok.mp h
  obtain rfl := Except.ok.inj h
  exact ⟨data, _, mark, index, funding, rfl, Value.fromValue_eq_ok.mp (mapError_eq_ok.mp hData),
    (normalizedSymbol_eq_ok _).mp hSymbol, hStream, hMark, hIndex, hFunding, rfl⟩

/-- Inversion of `parseKline`: one candle, of the symbol of the payload. -/
theorem parseKline_ok [Serde] {value : Value} {streamName : Option Text} {r : Reading}
    (h : parseKline value streamName = .ok r) :
    ∃ data c, r = .candles [c] ∧ BinanceKlineEnvelope.decode value = some data ∧
      normalizeSymbol data.symbol = .ok c.symbol ∧
      validateStreamSymbol streamName c.symbol "@kline_1m".toList = .ok () := by
  unfold parseKline at h
  obtain ⟨data, hData, h⟩ := bind_eq_ok.mp h
  obtain ⟨_, -, h⟩ := bind_eq_ok.mp h
  obtain ⟨outerSymbol, hOuter, h⟩ := bind_eq_ok.mp h
  obtain ⟨symbol, -, h⟩ := bind_eq_ok.mp h
  dsimp only at h
  split at h
  · cases h
  · -- the outer symbol and the kline's own are the same
    next hSame =>
    obtain rfl := not_not.mp hSame
    obtain ⟨_, hStream, h⟩ := bind_eq_ok.mp h
    split at h
    · cases h
    · split at h
      · cases h
      · -- a kline of one minute whose end can be shown; then its decimals
        obtain ⟨openPrice, -, h⟩ := bind_eq_ok.mp h
        obtain ⟨high, -, h⟩ := bind_eq_ok.mp h
        obtain ⟨low, -, h⟩ := bind_eq_ok.mp h
        obtain ⟨close, -, h⟩ := bind_eq_ok.mp h
        obtain ⟨baseVolume, -, h⟩ := bind_eq_ok.mp h
        obtain ⟨quoteVolume, -, h⟩ := bind_eq_ok.mp h
        obtain rfl := Except.ok.inj h
        exact ⟨data, _, rfl, Value.fromValue_eq_ok.mp (mapError_eq_ok.mp hData),
          (normalizedSymbol_eq_ok _).mp hOuter, hStream⟩

/-- The event type of a payload, with the handler it picks. -/
inductive Handles [Serde] (value : Value) (streamName : Option Text) (r : Reading) : Prop where
  | ticker (type : value.get "e".toList = some (.string "24hrTicker".toList))
      (parsed : parseTicker value streamName = .ok r)
  | markPrice (type : value.get "e".toList = some (.string "markPriceUpdate".toList))
      (parsed : parseMarkPrice value streamName = .ok r)
  | kline (type : value.get "e".toList = some (.string "kline".toList))
      (parsed : parseKline value streamName = .ok r)

/-- How the market-data half of `parse` reads a frame. -/
theorem reading_cases [Serde] (value : Value) :
    reading value = .ignored ∨ (∃ error, reading value = .refused error) ∨
    ∃ data streamName, payload value = .ok (data, streamName) ∧
      Handles data streamName (reading value) := by
  unfold reading
  rcases Reading.ofExcept_cases (do
      let (data, streamName) ← payload value
      parsePayload data streamName) with hRefused | ⟨r, hOk, hr⟩
  · exact .inr (.inl hRefused)
  · rw [hr]
    -- the event type names the handler
    obtain ⟨⟨data, streamName⟩, hPayload, hParse⟩ := bind_eq_ok.mp hOk
    unfold parsePayload at hParse
    dsimp only at hParse
    split at hParse
    · next eventType hType =>
      split at hParse
      · next hEvent =>
        exact .inr (.inr ⟨data, streamName, hPayload, .ticker (hEvent ▸ hType) hParse⟩)
      · split at hParse
        · next hEvent =>
          exact .inr (.inr ⟨data, streamName, hPayload, .markPrice (hEvent ▸ hType) hParse⟩)
        · split at hParse
          · next hEvent =>
            exact .inr (.inr ⟨data, streamName, hPayload, .kline (hEvent ▸ hType) hParse⟩)
          · exact .inl (Except.ok.inj hParse).symm
    · cases hParse
    · exact .inl (Except.ok.inj hParse).symm

end BinanceSession

end MarketStreamGateway
