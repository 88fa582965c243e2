import MarketStreamGateway.Providers.Bybit
import MarketStreamGateway.Feeds.Reading

/-!
# Market Stream Gateway — Bybit market data

The market-data handlers of `providers/bybit.rs`. Tickers come as a snapshot,
which starts from an empty ticker, or as a delta, which starts from the cached
one; all items of a frame belong to the symbol of its topic.
-/

namespace MarketStreamGateway

open Lib

/-- The envelope of a ticker frame. The data is deserialized later, as one item
or several. -/
structure BybitTickerEnvelope where
  topic : Text
  messageType : Text
  ts : Nat
  cs : Nat
  data : Value

/-- A member that is missing or of another type is refused. -/
def BybitTickerEnvelope.decode (value : Value) : Option BybitTickerEnvelope := do
  let get ← value.members [("topic".toList, false), ("type".toList, false), ("ts".toList, false),
    ("cs".toList, false), ("data".toList, false)]
  let topic ← Value.required Value.asStr (get "topic".toList)
  let messageType ← Value.required Value.asStr (get "type".toList)
  let ts ← Value.required Value.asU64 (get "ts".toList)
  let cs ← Value.required Value.asU64 (get "cs".toList)
  let data ← get "data".toList
  return ⟨topic, messageType, ts, cs, data⟩

/-- The values of a ticker item, each of them optional: a delta carries what changed. -/
structure BybitTickerData where
  symbol : Text
  lastPrice : Option Text
  markPrice : Option Text
  indexPrice : Option Text
  bid1Price : Option Text
  ask1Price : Option Text
  fundingRate : Option Text
  nextFundingTime : Option Text

/-- The fields in declaration order, under the names serde reads them by. -/
def BybitTickerData.layout : Layout :=
  [("symbol".toList, false), ("lastPrice".toList, false), ("markPrice".toList, false),
    ("indexPrice".toList, false), ("bid1Price".toList, false), ("ask1Price".toList, false),
    ("fundingRate".toList, false), ("nextFundingTime".toList, false)]

/-- The member each cached field comes from. -/
def BybitTickerData.get (d : BybitTickerData) : Field → Option Text
  | .last => d.lastPrice
  | .mark => d.markPrice
  | .index => d.indexPrice
  | .bid => d.bid1Price
  | .ask => d.ask1Price
  | .fundingRate => d.fundingRate

def BybitTickerData.decode (value : Value) : Option BybitTickerData := do
  let get ← value.members layout
  let symbol ← Value.required Value.asStr (get "symbol".toList)
  let lastPrice ← Value.optional Value.asStr (get "lastPrice".toList)
  let markPrice ← Value.optional Value.asStr (get "markPrice".toList)
  let indexPrice ← Value.optional Value.asStr (get "indexPrice".toList)
  let bid1Price ← Value.optional Value.asStr (get "bid1Price".toList)
  let ask1Price ← Value.optional Value.asStr (get "ask1Price".toList)
  let fundingRate ← Value.optional Value.asStr (get "fundingRate".toList)
  let nextFundingTime ← Value.optional Value.asStr (get "nextFundingTime".toList)
  return ⟨symbol, lastPrice, markPrice, indexPrice, bid1Price, ask1Price, fundingRate,
    nextFundingTime⟩

/-- A candle item. -/
structure BybitKlineData where
  start : Nat
  «end» : Nat
  interval : Text
  openPrice : Text
  high : Text
  low : Text
  close : Text
  volume : Text
  turnover : Text
  confirm : Bool

/-- The time stamp is decoded and dropped. -/
def BybitKlineData.decode (value : Value) : Option BybitKlineData := do
  let get ← value.members [("start".toList, false), ("end".toList, false),
    ("interval".toList, false), ("open".toList, false), ("high".toList, false),
    ("low".toList, false), ("close".toList, false), ("volume".toList, false),
    ("turnover".toList, false), ("confirm".toList, false), ("timestamp".toList, false)]
  let start ← Value.required Value.asU64 (get "start".toList)
  let endTime ← Value.required Value.asU64 (get "end".toList)
  let interval ← Value.required Value.asStr (get "interval".toList)
  let openPrice ← Value.required Value.asStr (get "open".toList)
  let high ← Value.required Value.asStr (get "high".toList)
  let low ← Value.required Value.asStr (get "low".toList)
  let close ← Value.required Value.asStr (get "close".toList)
  let volume ← Value.required Value.asStr (get "volume".toList)
  let turnover ← Value.required Value.asStr (get "turnover".toList)
  let confirm ← Value.required Value.asBool (get "confirm".toList)
  let _ ← Value.required Value.asU64 (get "timestamp".toList)
  return ⟨start, endTime, interval, openPrice, high, low, close, volume, turnover, confirm⟩

/-- The envelope of a candle frame, with its items deserialized. -/
structure BybitKlineEnvelope where
  topic : Text
  messageType : Text
  ts : Nat
  data : List BybitKlineData

def BybitKlineEnvelope.decode (value : Value) : Option BybitKlineEnvelope := do
  let get ← value.members [("topic".toList, false), ("type".toList, false), ("ts".toList, false),
    ("data".toList, false)]
  let topic ← Value.required Value.asStr (get "topic".toList)
  let messageType ← Value.required Value.asStr (get "type".toList)
  let ts ← Value.required Value.asU64 (get "ts".toList)
  let data ← Value.required Value.asArray (get "data".toList)
  let data ← data.mapM BybitKlineData.decode
  return ⟨topic, messageType, ts, data⟩

namespace BybitSession

variable [Unicode] [RustDecimal]

/-- Data that is one item or an array of them; the target of the deserializer
shows in its errors. -/
def oneOrMany {α : Type} [Serde] (target : Text) (decode : Value → Option α) (value : Value)
    (name : Text) : Except AdapterError (List α) :=
  let failed (error : Text) : AdapterError :=
    invalidPayload ("invalid ".toList ++ name ++ ": ".toList ++ error)
  match value with
  | .object _ => ((value.fromValue target decode).map ([·])).mapError failed
  | .array items =>
    (value.fromValue ("Vec<".toList ++ target ++ ">".toList) fun _ => items.mapM decode).mapError
      failed
  | _ => .error (invalidPayload (name ++ " must be an object or array".toList))

/-- The symbol of a ticker topic. -/
def tickerTopicSymbol (topic : Text) : Except AdapterError Text :=
  match Text.stripPrefix "tickers.".toList topic with
  | some symbol => normalizedSymbol invalidPayload symbol
  | none => .error (invalidPayload ("invalid ticker topic ".toList ++ Text.debug topic))

/-- The symbol of a one-minute candle topic. -/
def klineTopicSymbol (topic : Text) : Except AdapterError Text :=
  match Text.stripPrefix "kline.1.".toList topic with
  | some symbol => normalizedSymbol invalidPayload symbol
  | none => .error (invalidPayload ("invalid 1m kline topic ".toList ++ Text.debug topic))

/-- A missing or empty value leaves the field as it is. -/
def setObservation (target : Field) (value : Option Text) (observedAtMs : Nat) (field : Text) :
    Except AdapterError (List (Field × Option ObservedDecimal)) :=
  match value.filter (!·.isEmpty) with
  | none => .ok []
  | some value => (observation invalidPayload value observedAtMs field).map fun observed =>
      [(target, some observed)]

/-- An absent or empty time is no news; a time that does not parse refuses the frame. -/
def nextFundingTime (value : Option Text) : Except AdapterError (Option (Option Nat)) :=
  match value.filter (!·.isEmpty) with
  | none => .ok none
  | some value => match Text.parseU64 value with
    | some time => .ok (some (some time))
    | none => .error (invalidPayload ("invalid nextFundingTime ".toList ++ Text.debug value ++
        ": ".toList ++ Text.parseU64Error value))

/-- `apply_ticker_update`, as the update it applies. -/
def tickerUpdate (envelope : BybitTickerEnvelope) (isSnapshot : Bool) (symbol : Text)
    (update : BybitTickerData) : Except AdapterError Update := do
  let last ← setObservation .last update.lastPrice envelope.ts "lastPrice".toList
  let mark ← setObservation .mark update.markPrice envelope.ts "markPrice".toList
  let index ← setObservation .index update.indexPrice envelope.ts "indexPrice".toList
  let bid ← setObservation .bid update.bid1Price envelope.ts "bid1Price".toList
  let ask ← setObservation .ask update.ask1Price envelope.ts "ask1Price".toList
  let funding ← setObservation .fundingRate update.fundingRate envelope.ts "fundingRate".toList
  let nextFunding ← nextFundingTime update.nextFundingTime
  return {
    symbol := symbol
    observedAtMs := envelope.ts
    writes := last ++ mark ++ index ++ bid ++ ask ++ funding
    nextFundingTimeMs := nextFunding
    sourceSequence := some ⟨none, some (Text.ofNat envelope.cs), none⟩
    reset := isSnapshot }

/-- One round of the loop over the items of a frame. -/
def tickerItem (envelope : BybitTickerEnvelope) (topicSymbol : Text) (isSnapshot : Bool)
    (update : BybitTickerData) : Except AdapterError Update := do
  let symbol ← normalizedSymbol invalidPayload update.symbol
  if symbol ≠ topicSymbol then
    throw (invalidPayload ("ticker topic symbol ".toList ++ topicSymbol ++
      " does not match payload symbol ".toList ++ symbol))
  tickerUpdate envelope isSnapshot symbol update

/-- A snapshot replaces the cached ticker, a delta overlays it. -/
def isSnapshot (messageType : Text) : Except AdapterError Bool :=
  if messageType = "snapshot".toList then .ok true
  else if messageType = "delta".toList then .ok false
  else .error (invalidPayload ("unsupported ticker message type ".toList ++ messageType))

/-- Every item must be of the symbol the topic names; one bad item refuses the frame. -/
def parseTickers [Serde] (value : Value) : Except AdapterError Reading := do
  let envelope ← (value.fromValue "BybitTickerEnvelope".toList BybitTickerEnvelope.decode).mapError
    fun error => invalidPayload ("invalid ticker message: ".toList ++ error)
  let topicSymbol ← tickerTopicSymbol envelope.topic
  let isSnapshot ← isSnapshot envelope.messageType
  let updates ← oneOrMany "BybitTickerData".toList BybitTickerData.decode envelope.data
    "ticker data".toList
  if updates.isEmpty then
    throw (invalidPayload "ticker data must not be empty".toList)
  let updates ← updates.mapM (tickerItem envelope topicSymbol isSnapshot)
  return .batch updates

/-- Bybit ends a candle on its last millisecond; the gateway ends it on the next. -/
def normalizeKline (item : BybitKlineData) : Except AdapterError Candle := do
  if item.interval ≠ "1".toList then
    throw (invalidPayload ("expected 1m kline interval, got ".toList ++ item.interval))
  if u64Max < item.end + 1 then
    throw (invalidPayload "kline end time cannot be normalized to exclusive".toList)
  let openPrice ← decimalField invalidPayload item.openPrice "open".toList
  let high ← decimalField invalidPayload item.high "high".toList
  let low ← decimalField invalidPayload item.low "low".toList
  let close ← decimalField invalidPayload item.close "close".toList
  let baseVolume ← decimalField invalidPayload item.volume "volume".toList
  let quoteVolume ← decimalField invalidPayload item.turnover "turnover".toList
  return {
    interval := "1m".toList
    startTimeMs := item.start
    endTimeMs := item.end + 1
    openPrice, high, low, close
    baseVolume := some baseVolume
    quoteVolume := some quoteVolume
    contractVolume := none
    finality := .ofFlag item.confirm
    dataQuality := [] }

/-- Candle frames are snapshots only, under the symbol of their topic. -/
def parseKlines [Serde] (value : Value) : Except AdapterError Reading := do
  let envelope ← (value.fromValue "BybitKlineEnvelope".toList BybitKlineEnvelope.decode).mapError
    fun error => invalidPayload ("invalid kline message: ".toList ++ error)
  if envelope.messageType ≠ "snapshot".toList then
    throw (invalidPayload ("unsupported kline message type ".toList ++ envelope.messageType))
  let symbol ← klineTopicSymbol envelope.topic
  let candles ← envelope.data.mapM fun item => do
    let candle ← normalizeKline item
    return { symbol, exchangeTimeMs := some envelope.ts, candle : CandleUpdate }
  return .candles candles

/-- The market-data half of `parse`. -/
def reading [Serde] (value : Value) : Reading :=
  match value.get "topic".toList with
  | some (.string topic) =>
    if "tickers.".toList.isPrefixOf topic then .ofExcept (parseTickers value)
    else if "kline.".toList.isPrefixOf topic then .ofExcept (parseKlines value)
    else .ignored
  | some _ => .refused (invalidPayload "event field topic must be a string".toList)
  | none => .ignored

/-! ## Accepted frames -/

/-- What an optional value writes is its text under the time of the frame, and
an empty or absent one writes nothing. -/
theorem setObservation_mem {target : Field} {value : Option Text} {observedAtMs : Nat} {name : Text}
    {writes : List (Field × Option ObservedDecimal)}
    (h : setObservation target value observedAtMs name = .ok writes)
    {w : Field × Option ObservedDecimal} (hw : w ∈ writes) :
    ∃ text, value = some text ∧ w = (target, some ⟨⟨text⟩, observedAtMs⟩) := by
  unfold setObservation at h
  split at h
  · rw [← Except.ok.inj h] at hw
    cases hw
  · next text hText =>
    obtain ⟨observed, hObserved, rfl⟩ := map_eq_ok.mp h
    rw [List.mem_singleton.mp hw, observation_eq _ hObserved]
    exact ⟨text, Option.eq_some_of_filter_eq_some hText, rfl⟩

/-- A ticker update writes what its item carries under the venue's name of the
field, with the time of the frame. -/
theorem tickerUpdate_mem {envelope : BybitTickerEnvelope} {snapshot : Bool} {symbol : Text}
    {data : BybitTickerData} {u : Update}
    (h : tickerUpdate envelope snapshot symbol data = .ok u) :
    u.symbol = symbol ∧ ∀ w ∈ u.writes, ∃ text, data.get w.1 = some text ∧
      w.2 = some ⟨⟨text⟩, envelope.ts⟩ := by
  unfold tickerUpdate at h
  obtain ⟨last, hLast, h⟩ := bind_eq_ok.mp h
  obtain ⟨mark, hMark, h⟩ := bind_eq_ok.mp h
  obtain ⟨index, hIndex, h⟩ := bind_eq_ok.mp h
  obtain ⟨bid, hBid, h⟩ := bind_eq_ok.mp h
  obtain ⟨ask, hAsk, h⟩ := bind_eq_ok.mp h
  obtain ⟨funding, hFunding, h⟩ := bind_eq_ok.mp h
  obtain ⟨nextFunding, -, h⟩ := bind_eq_ok.mp h
  obtain rfl := Except.ok.inj h
  refine ⟨rfl, fun w hw => ?_⟩
  -- each of the six fields is written under its own name
  have hOne : ∀ {target : Field} {name : Text} {writes : List (Field × Option ObservedDecimal)},
      setObservation target (data.get target) envelope.ts name = .ok writes → w ∈ writes →
      ∃ text, data.get w.1 = some text ∧ w.2 = some ⟨⟨text⟩, envelope.ts⟩ := by
    intro target name writes hSet hMem
    obtain ⟨text, hText, rfl⟩ := setObservation_mem hSet hMem
    exact ⟨text, hText, rfl⟩
  simp only [List.mem_append] at hw
  rcases hw with ((((hw | hw) | hw) | hw) | hw) | hw
  · exact hOne hLast hw
  · exact hOne hMark hw
  · exact hOne hIndex hw
  · exact hOne hBid hw
  · exact hOne hAsk hw
  · exact hOne hFunding hw

omit [Unicode] [RustDecimal] in
/-- An envelope that is accepted holds the members of its document. -/
theorem envelope_members {value : Value} {envelope : BybitTickerEnvelope}
    (hObject : value.isObject = true) (h : BybitTickerEnvelope.decode value = some envelope) :
    value.get "topic".toList = some (.string envelope.topic) ∧
    (value.get "ts".toList).bind Value.asU64 = some envelope.ts ∧
    value.get "data".toList = some envelope.data := by
  unfold BybitTickerEnvelope.decode at h
  obtain ⟨member, hMember, h⟩ := Option.bind_eq_some_iff.mp h
  obtain ⟨topic, hTopic, h⟩ := Option.bind_eq_some_iff.mp h
  obtain ⟨messageType, -, h⟩ := Option.bind_eq_some_iff.mp h
  obtain ⟨ts, hTs, h⟩ := Option.bind_eq_some_iff.mp h
  obtain ⟨cs, -, h⟩ := Option.bind_eq_some_iff.mp h
  obtain ⟨data, hData, h⟩ := Option.bind_eq_some_iff.mp h
  obtain rfl := Option.some.inj h
  have hAt := Value.members_of_isObject hObject hMember
  rw [← hAt, ← hAt, ← hAt]
  exact ⟨Value.required_asStr hTopic, hTs, hData⟩

omit [Unicode] [RustDecimal] in
/-- The topic of a candle frame is the one in the document. -/
theorem klineEnvelope_topic {value : Value} {envelope : BybitKlineEnvelope}
    (hObject : value.isObject = true) (h : BybitKlineEnvelope.decode value = some envelope) :
    value.get "topic".toList = some (.string envelope.topic) := by
  unfold BybitKlineEnvelope.decode at h
  obtain ⟨member, hMember, h⟩ := Option.bind_eq_some_iff.mp h
  obtain ⟨topic, hTopic, h⟩ := Option.bind_eq_some_iff.mp h
  obtain ⟨messageType, -, h⟩ := Option.bind_eq_some_iff.mp h
  obtain ⟨ts, -, h⟩ := Option.bind_eq_some_iff.mp h
  obtain ⟨data, -, h⟩ := Option.bind_eq_some_iff.mp h
  obtain ⟨items, -, h⟩ := Option.bind_eq_some_iff.mp h
  rw [← Option.some.inj h, ← Value.members_of_isObject hObject hMember]
  exact Value.required_asStr hTopic

/-- The documents of the items of a frame. -/
def itemsOf : Value → List Value
  | .object members => [.object members]
  | .array items => items
  | _ => []

omit [Unicode] [RustDecimal] in
/-- Every item that is decoded stands in the data. -/
theorem oneOrMany_mem {α : Type} [Serde] {target name : Text} {decode : Value → Option α}
    {value : Value} {items : List α} (h : oneOrMany target decode value name = .ok items)
    {item : α} (hItem : item ∈ items) : ∃ raw ∈ itemsOf value, decode raw = some item := by
  unfold oneOrMany at h
  cases value with
  | object members =>
    obtain ⟨one, hOne, rfl⟩ := map_eq_ok.mp (mapError_eq_ok.mp h)
    rw [List.mem_singleton.mp hItem]
    exact ⟨_, List.mem_cons_self, Value.fromValue_eq_ok.mp hOne⟩
  | array raws =>
    exact mem_of_mapM_eq_some (Value.fromValue_eq_ok.mp (mapError_eq_ok.mp h)) hItem
  | null | bool _ | number _ | string _ => cases h

/-- An accepted item is of the topic's symbol. -/
theorem tickerItem_ok {envelope : BybitTickerEnvelope} {topicSymbol : Text} {snapshot : Bool}
    {data : BybitTickerData} {u : Update}
    (h : tickerItem envelope topicSymbol snapshot data = .ok u) :
    normalizeSymbol data.symbol = .ok u.symbol ∧ u.symbol = topicSymbol ∧
      tickerUpdate envelope snapshot u.symbol data = .ok u := by
  unfold tickerItem at h
  obtain ⟨symbol, hSymbol, h⟩ := bind_eq_ok.mp h
  split at h
  · cases h
  · next hSame =>
    have hUpdate := (tickerUpdate_mem h).1
    rw [hUpdate]
    exact ⟨(normalizedSymbol_eq_ok _).mp hSymbol, not_not.mp hSame, h⟩

/-- Inversion of `parseTickers`: the envelope, the symbol and the items of an
accepted frame. -/
theorem parseTickers_ok [Serde] {value : Value} {r : Reading} (h : parseTickers value = .ok r) :
    ∃ envelope topicSymbol snapshot items updates,
      BybitTickerEnvelope.decode value = some envelope ∧
      tickerTopicSymbol envelope.topic = .ok topicSymbol ∧
      isSnapshot envelope.messageType = .ok snapshot ∧
      oneOrMany "BybitTickerData".toList BybitTickerData.decode envelope.data
        "ticker data".toList = .ok items ∧
      items.mapM (tickerItem envelope topicSymbol snapshot) = .ok updates ∧
      r = .batch updates := by
  unfold parseTickers at h
  obtain ⟨envelope, hEnvelope, h⟩ := bind_eq_ok.mp h
  obtain ⟨topicSymbol, hTopic, h⟩ := bind_eq_ok.mp h
  obtain ⟨snapshot, hSnapshot, h⟩ := bind_eq_ok.mp h
  obtain ⟨items, hItems, h⟩ := bind_eq_ok.mp h
  split at h
  · cases h
  · -- there is an item at least
    obtain ⟨updates, hUpdates, h⟩ := bind_eq_ok.mp h
    obtain rfl := Except.ok.inj h
    exact ⟨envelope, topicSymbol, snapshot, items, updates,
      Value.fromValue_eq_ok.mp (mapError_eq_ok.mp hEnvelope), hTopic, hSnapshot, hItems, hUpdates,
      rfl⟩

/-- Inversion of `parseKlines`. -/
theorem parseKlines_ok [Serde] {value : Value} {r : Reading} (h : parseKlines value = .ok r) :
    ∃ envelope symbol candles, BybitKlineEnvelope.decode value = some envelope ∧
      klineTopicSymbol envelope.topic = .ok symbol ∧ r = .candles candles ∧
      ∀ c ∈ candles, c.symbol = symbol := by
  unfold parseKlines at h
  obtain ⟨envelope, hEnvelope, h⟩ := bind_eq_ok.mp h
  split at h
  · cases h
  · obtain ⟨symbol, hSymbol, h⟩ := bind_eq_ok.mp h
    obtain ⟨candles, hCandles, h⟩ := bind_eq_ok.mp h
    obtain rfl := Except.ok.inj h
    refine ⟨envelope, symbol, candles, Value.fromValue_eq_ok.mp (mapError_eq_ok.mp hEnvelope),
      hSymbol, rfl, fun c hc => ?_⟩
    obtain ⟨item, -, hItem⟩ := mem_of_mapM_eq_ok hCandles hc
    obtain ⟨candle, -, hItem⟩ := bind_eq_ok.mp hItem
    rw [← Except.ok.inj hItem]

/-- How the market-data half of `parse` reads a frame. -/
theorem reading_cases [Serde] (value : Value) :
    reading value = .ignored ∨ (∃ error, reading value = .refused error) ∨
    parseTickers value = .ok (reading value) ∨ parseKlines value = .ok (reading value) := by
  unfold reading
  split
  · next topic hTopic =>
    split
    · rcases Reading.ofExcept_cases (parseTickers value) with hRefused | ⟨r, hOk, hr⟩
      · exact .inr (.inl hRefused)
      · exact .inr (.inr (.inl (by rw [hr, hOk])))
    · split
      · rcases Reading.ofExcept_cases (parseKlines value) with hRefused | ⟨r, hOk, hr⟩
        · exact .inr (.inl hRefused)
        · exact .inr (.inr (.inr (by rw [hr, hOk])))
      · exact .inl rfl
  · exact .inr (.inl ⟨_, rfl⟩)
  · exact .inl rfl

end BybitSession

end MarketStreamGateway
