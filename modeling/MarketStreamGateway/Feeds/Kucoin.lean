import MarketStreamGateway.Providers.Kucoin
import MarketStreamGateway.Feeds.Reading
import MarketStreamGateway.Feeds.RawNumber

/-!
# Market Stream Gateway — KuCoin market data

The market-data handlers of `providers/kucoin.rs`. The subject of a frame, or
else its topic, picks the handler. Order-book and execution frames are stored
before their sequence numbers are compared.
-/

namespace MarketStreamGateway

open Lib

namespace KucoinSession

/-- A missing member and one that is no object are refused in the same words. -/
def requiredObject (value : Value) (field : Text) : Except AdapterError Value :=
  match value.get field with
  | some object =>
    if object.isObject then .ok object
    else .error (invalid (field ++ " must be an object".toList))
  | none => .error (invalid (field ++ " must be an object".toList))

/-- A name or an identifier; an empty one is refused. -/
def requiredString (value : Value) (field : Text) : Except AdapterError Text :=
  match ((value.get field).bind Value.asStr).filter (!·.isEmpty) with
  | some text => .ok text
  | none => .error (invalid (field ++ " must be a non-empty string".toList))

def requiredValue (value : Value) (field : Text) : Except AdapterError Value :=
  match value.get field with
  | some value => .ok value
  | none => .error (invalid ("missing ".toList ++ field))

/-- The symbol of a payload, in KuCoin's own grammar. -/
def requiredLinearSymbol (value : Value) (field : Text) : Except AdapterError Text := do
  let symbol ← requiredString value field
  (validateKucoinSymbol symbol).mapError invalid
  return symbol

/-- The digits of an integer, sent as a string or as a number. -/
def integerString (value : Value) (field : Text) : Except AdapterError Text := do
  let text ← match value with
    | .string text => .ok text
    | .number n => .ok n.display
    | _ => .error (invalid (field ++ " must be an integer".toList))
  if text.isEmpty || !text.all Char.isDigit then
    throw (invalid (field ++ " must be an unsigned integer".toList))
  return text

/-- An unsigned integer, sent as a number or as a string. -/
def parseU64 (value : Value) (field : Text) : Except AdapterError Nat := do
  let text ← integerString value field
  match Text.parseU64 text with
  | some n => .ok n
  | none => .error (invalid (field ++ " must be an unsigned integer".toList))

/-- KuCoin stamps tickers and executions in nanoseconds; the fraction of a
millisecond is cut off. -/
def nanosecondsToMilliseconds (value : Value) (field : Text) : Except AdapterError Nat :=
  (parseU64 value field).map (· / 1000000)

/-- A decimal sent as a string or as a number. A number is published as the text
of the frame has it, if the text is given. -/
def decimalString (value : Value) (field : Text) (originalJson : Option Text) :
    Except AdapterError Text :=
  match value with
  | .string (c :: text) => .ok (c :: text)
  | .number n => .ok ((originalJson.bind (rawNumberField · field)).getD n.display)
  | _ => .error (invalid (field ++ " must be a decimal string or number".toList))

/-- A topic names several symbols; the payload must be of one of them. -/
def validateTopicSymbol (topic front symbol suffix : Text) : Except AdapterError Unit :=
  match Text.stripPrefix front topic with
  | none => .error (invalid ("topic must start with ".toList ++ front))
  | some symbols =>
    if (Text.split ',' symbols).any (· = symbol ++ suffix) then .ok ()
    else .error (invalid ("payload symbol ".toList ++ symbol ++
      " does not match topic ".toList ++ topic))

/-- Payloads of an instrument topic name no symbol, so the topic must name exactly one. -/
def instrumentTopicSymbol (topic : Text) : Except AdapterError Text :=
  match (Text.stripPrefix "/contract/instrument:".toList topic).filter
      fun symbol => !symbol.isEmpty && !symbol.contains ',' with
  | none => .error (invalid "invalid instrument topic".toList)
  | some symbol => do
    (validateKucoinSymbol symbol).mapError invalid
    return symbol

/-- The envelope and the data agree on the sequence number. -/
def parseSequence (value data : Value) : Except AdapterError (Option SourceSequence) := do
  let envelopeSequence ← integerString (← requiredValue value "sn".toList) "sn".toList
  let dataSequence ← integerString (← requiredValue data "sequence".toList) "sequence".toList
  if envelopeSequence ≠ dataSequence then
    throw (invalid ("envelope sequence ".toList ++ envelopeSequence ++
      " does not match data sequence ".toList ++ dataSequence))
  return some ⟨none, some dataSequence, none⟩

section Handlers

variable [RustDecimal]

/-- A ticker value; with the text of the frame, a number is taken from it as it
is written. -/
def observationFromField (value : Value) (field : Text) (observedAtMs : Nat)
    (originalJson : Option Text) : Except AdapterError ObservedDecimal := do
  let value ← requiredValue value field
  let text ← decimalString value field originalJson
  (ObservedDecimal.new text observedAtMs).mapError fun error => invalid error.display

/-- A candle value. -/
def decimalValue (value : Value) (field : Text) : Except AdapterError DecimalValue := do
  let text ← decimalString value field none
  (DecimalValue.new text).mapError fun error => invalid error.display

/-- What order-book and execution frames have in common: the symbol of the data
is the topic's, and its time is in nanoseconds. -/
def tickerIdentity (value : Value) (front : Text) : Except AdapterError (Value × Text × Nat) := do
  let topic ← requiredString value "topic".toList
  let data ← requiredObject value "data".toList
  let symbol ← requiredLinearSymbol data "symbol".toList
  validateTopicSymbol topic front symbol []
  let observedAtMs ← nanosecondsToMilliseconds (← requiredValue data "ts".toList) "ts".toList
  return (data, symbol, observedAtMs)

/-- Best prices. The values come without the text of the frame: a number is
shown as serde_json prints it. -/
def parseTickerV2 (value : Value) : Except AdapterError Reading := do
  let (data, symbol, observedAtMs) ← tickerIdentity value "/contractMarket/tickerV2:".toList
  let bid ← observationFromField data "bestBidPrice".toList observedAtMs none
  let ask ← observationFromField data "bestAskPrice".toList observedAtMs none
  return .sequenced
    { symbol := symbol, observedAtMs := observedAtMs,
      writes := [(.bid, some bid), (.ask, some ask)] }
    (parseSequence value data)

/-- The last price, likewise. -/
def parseExecution (value : Value) : Except AdapterError Reading := do
  let (data, symbol, observedAtMs) ← tickerIdentity value "/contractMarket/execution:".toList
  let last ← observationFromField data "price".toList observedAtMs none
  return .sequenced
    { symbol := symbol, observedAtMs := observedAtMs, writes := [(.last, some last)] }
    (parseSequence value data)

/-- Mark and index price; here the text of the frame is at hand. -/
def parseMarkIndex (value : Value) (topic text : Text) : Except AdapterError Reading := do
  let symbol ← instrumentTopicSymbol topic
  let data ← requiredObject value "data".toList
  let observedAtMs ← parseU64 (← requiredValue data "timestamp".toList) "timestamp".toList
  let mark ← observationFromField data "markPrice".toList observedAtMs (some text)
  let index ← observationFromField data "indexPrice".toList observedAtMs (some text)
  return .single {
    symbol := symbol
    observedAtMs := observedAtMs
    writes := [(.mark, some mark), (.index, some index)] }

/-- The funding rate, with the text of the frame. -/
def parseFunding (value : Value) (topic text : Text) : Except AdapterError Reading := do
  let symbol ← instrumentTopicSymbol topic
  let data ← requiredObject value "data".toList
  let observedAtMs ← parseU64 (← requiredValue data "timestamp".toList) "timestamp".toList
  let funding ← observationFromField data "fundingRate".toList observedAtMs (some text)
  return .single {
    symbol := symbol
    observedAtMs := observedAtMs
    writes := [(.fundingRate, some funding)] }

/-- The volumes are not published: the venue documents them as incorrect. -/
def parseCandle (value : Value) : Except AdapterError Reading := do
  let topic ← requiredString value "topic".toList
  let data ← requiredObject value "data".toList
  let symbol ← requiredLinearSymbol data "symbol".toList
  validateTopicSymbol topic "/contractMarket/limitCandle:".toList symbol "_1min".toList
  match (data.get "candles".toList).bind Value.asArray with
  | none => .error (invalid "candles must be an array".toList)
  | some [start, openPrice, close, high, low, _, _] => do
    let start ← parseU64 start "candle start time".toList
    if u64Max < start * 1000 then
      throw (invalid "candle start time overflow".toList)
    let startTimeMs := start * 1000
    if u64Max < startTimeMs + 60000 then
      throw (invalid "candle end time overflow".toList)
    let exchangeTimeMs ← parseU64 (← requiredValue data "time".toList) "time".toList
    let openPrice ← decimalValue openPrice "candle open".toList
    let close ← decimalValue close "candle close".toList
    let high ← decimalValue high "candle high".toList
    let low ← decimalValue low "candle low".toList
    return .candles [{
      symbol := symbol
      exchangeTimeMs := some exchangeTimeMs
      candle := {
        interval := "1m".toList
        startTimeMs := startTimeMs
        endTimeMs := startTimeMs + 60000
        openPrice, high, low, close
        baseVolume := none
        quoteVolume := none
        contractVolume := none
        finality := .unknown
        dataQuality := [.providerVolumeUntrusted] } }]
  | some values => .error (invalid ("candles must contain 7 fields, got ".toList ++
      Text.ofNat values.length))

/-- The subject decides before the topic does; what neither knows is ignored. -/
def parseMarketMessage (value : Value) (text : Text) : Except AdapterError Reading := do
  let topic ← requiredString value "topic".toList
  let subject := (value.get "subject".toList).bind Value.asStr
  if subject = some "tickerV2".toList ∨ "/contractMarket/tickerV2:".toList.isPrefixOf topic then
    parseTickerV2 value
  else if subject = some "match".toList ∨
      "/contractMarket/execution:".toList.isPrefixOf topic then
    parseExecution value
  else if subject = some "mark.index.price".toList then parseMarkIndex value topic text
  else if subject = some "funding.rate".toList then parseFunding value topic text
  else if subject = some "candle.stick".toList ∨
      "/contractMarket/limitCandle:".toList.isPrefixOf topic then
    parseCandle value
  else return .ignored

/-- The market-data half of `parse`. -/
def reading (value : Value) (text : Text) : Reading := .ofExcept (parseMarketMessage value text)

/-! ## Accepted frames -/

omit [RustDecimal] in
/-- What the readers of a member return is what stands in the document. -/
theorem requiredString_eq {value : Value} {field text : Text}
    (h : requiredString value field = .ok text) : value.get field = some (.string text) := by
  unfold requiredString at h
  split at h
  · next found hFound =>
    obtain rfl := Except.ok.inj h
    obtain ⟨member, hMember, hText⟩ :=
      Option.bind_eq_some_iff.mp (Option.eq_some_of_filter_eq_some hFound)
    rw [hMember, Value.asStr_eq_some hText]
  · cases h

omit [RustDecimal] in
theorem requiredObject_eq {value object : Value} {field : Text}
    (h : requiredObject value field = .ok object) : value.get field = some object := by
  unfold requiredObject at h
  split at h
  · next found hFound =>
    split at h
    · rw [hFound, Except.ok.inj h]
    · cases h
  · cases h

omit [RustDecimal] in
theorem requiredValue_eq {value member : Value} {field : Text}
    (h : requiredValue value field = .ok member) : value.get field = some member := by
  unfold requiredValue at h
  split at h
  · next found hFound => rw [hFound, Except.ok.inj h]
  · cases h

omit [RustDecimal] in
/-- An accepted symbol is the one of the payload and fits the grammar. -/
theorem requiredLinearSymbol_ok {value : Value} {field symbol : Text}
    (h : requiredLinearSymbol value field = .ok symbol) :
    value.get field = some (.string symbol) ∧ validateKucoinSymbol symbol = .ok () := by
  unfold requiredLinearSymbol at h
  obtain ⟨found, hFound, h⟩ := bind_eq_ok.mp h
  obtain ⟨⟨⟩, hValid, h⟩ := bind_eq_ok.mp h
  obtain rfl := Except.ok.inj h
  exact ⟨requiredString_eq hFound, mapError_eq_ok.mp hValid⟩

omit [RustDecimal] in
/-- The topic is a comma list in which the symbol stands. -/
theorem validateTopicSymbol_ok {topic front symbol suffix : Text}
    (h : validateTopicSymbol topic front symbol suffix = .ok ()) :
    ∃ symbols, Text.stripPrefix front topic = some symbols ∧
      symbol ++ suffix ∈ Text.split ',' symbols := by
  unfold validateTopicSymbol at h
  split at h
  · cases h
  · next symbols hSymbols =>
    split at h
    · next hAny =>
      obtain ⟨part, hPart, hSame⟩ := List.any_eq_true.mp hAny
      exact ⟨symbols, hSymbols, of_decide_eq_true hSame ▸ hPart⟩
    · cases h

omit [RustDecimal] in
/-- The symbol of an instrument topic is the rest of the topic. -/
theorem instrumentTopicSymbol_ok {topic symbol : Text}
    (h : instrumentTopicSymbol topic = .ok symbol) :
    Text.stripPrefix "/contract/instrument:".toList topic = some symbol ∧
      validateKucoinSymbol symbol = .ok () := by
  unfold instrumentTopicSymbol at h
  split at h
  · cases h
  · next found hFound =>
    obtain ⟨⟨⟩, hValid, h⟩ := bind_eq_ok.mp h
    obtain rfl := Except.ok.inj h
    exact ⟨Option.eq_some_of_filter_eq_some hFound, mapError_eq_ok.mp hValid⟩

/-- An accepted value is the decimal text of its member. -/
theorem observationFromField_ok {value : Value} {field : Text} {observedAtMs : Nat}
    {originalJson : Option Text} {observed : ObservedDecimal}
    (h : observationFromField value field observedAtMs originalJson = .ok observed) :
    ∃ member, value.get field = some member ∧
      decimalString member field originalJson = .ok observed.value.text ∧
      observed.observedAtMs = observedAtMs := by
  unfold observationFromField at h
  obtain ⟨member, hMember, h⟩ := bind_eq_ok.mp h
  obtain ⟨text, hText, h⟩ := bind_eq_ok.mp h
  rw [observed_eq (mapError_eq_ok.mp h)]
  exact ⟨member, requiredValue_eq hMember, hText, rfl⟩

omit [RustDecimal] in
/-- The data, the symbol and the time of an accepted ticker frame, each with
the member it comes from. -/
theorem tickerIdentity_ok {value data : Value} {front symbol : Text} {observedAtMs : Nat}
    (h : tickerIdentity value front = .ok (data, symbol, observedAtMs)) :
    ∃ topic time, value.get "topic".toList = some (.string topic) ∧
      value.get "data".toList = some data ∧ data.get "symbol".toList = some (.string symbol) ∧
      validateKucoinSymbol symbol = .ok () ∧ validateTopicSymbol topic front symbol [] = .ok () ∧
      data.get "ts".toList = some time ∧
      nanosecondsToMilliseconds time "ts".toList = .ok observedAtMs := by
  unfold tickerIdentity at h
  obtain ⟨topic, hTopic, h⟩ := bind_eq_ok.mp h
  obtain ⟨found, hData, h⟩ := bind_eq_ok.mp h
  obtain ⟨foundSymbol, hSymbol, h⟩ := bind_eq_ok.mp h
  obtain ⟨⟨⟩, hValid, h⟩ := bind_eq_ok.mp h
  obtain ⟨time, hTime, h⟩ := bind_eq_ok.mp h
  obtain ⟨millis, hMillis, h⟩ := bind_eq_ok.mp h
  -- the data, its symbol and its time are what is returned
  obtain ⟨rfl, hRest⟩ := Prod.mk.inj (Except.ok.inj h)
  obtain ⟨rfl, rfl⟩ := Prod.mk.inj hRest
  exact ⟨topic, time, requiredString_eq hTopic, requiredObject_eq hData,
    (requiredLinearSymbol_ok hSymbol).1, (requiredLinearSymbol_ok hSymbol).2, hValid,
    requiredValue_eq hTime, hMillis⟩

/-- The member each field is read from, subject by subject. -/
def tickerV2Names : List (Field × Text) :=
  [(.bid, "bestBidPrice".toList), (.ask, "bestAskPrice".toList)]

def executionNames : List (Field × Text) := [(.last, "price".toList)]

def markIndexNames : List (Field × Text) :=
  [(.mark, "markPrice".toList), (.index, "indexPrice".toList)]

def fundingNames : List (Field × Text) := [(.fundingRate, "fundingRate".toList)]

/-- Every write of an update is a member of the frame's data, decoded. -/
def DataCarries (names : List (Field × Text)) (data : Value) (observedAtMs : Nat)
    (originalJson : Option Text) (u : Update) : Prop :=
  u.reset = false ∧ ∀ w ∈ u.writes, ∃ name member observed, (w.1, name) ∈ names ∧
    w.2 = some observed ∧ data.get name = some member ∧
    decimalString member name originalJson = .ok observed.value.text ∧
    observed.observedAtMs = observedAtMs

/-- One value that was read is a write that the data carries. -/
theorem dataCarries_one {names : List (Field × Text)} {data : Value} {observedAtMs : Nat}
    {originalJson : Option Text} {field : Field} {name : Text} {observed : ObservedDecimal}
    (hName : (field, name) ∈ names)
    (h : observationFromField data name observedAtMs originalJson = .ok observed) :
    ∃ name member seen, (field, name) ∈ names ∧ some observed = some seen ∧
      data.get name = some member ∧
      decimalString member name originalJson = .ok seen.value.text ∧
      seen.observedAtMs = observedAtMs := by
  obtain ⟨member, hMember, hText, hAt⟩ := observationFromField_ok h
  exact ⟨name, member, observed, hName, rfl, hMember, hText, hAt⟩

/-- Inversion of `parseTickerV2`: the writes carry what the data says. -/
theorem parseTickerV2_ok {value : Value} {r : Reading} (h : parseTickerV2 value = .ok r) :
    ∃ u sequence data observedAtMs, r = .sequenced u sequence ∧
      tickerIdentity value "/contractMarket/tickerV2:".toList = .ok (data, u.symbol, observedAtMs) ∧
      DataCarries tickerV2Names data observedAtMs none u := by
  unfold parseTickerV2 at h
  obtain ⟨⟨data, symbol, observedAtMs⟩, hIdentity, h⟩ := bind_eq_ok.mp h
  obtain ⟨bid, hBid, h⟩ := bind_eq_ok.mp h
  obtain ⟨ask, hAsk, h⟩ := bind_eq_ok.mp h
  obtain rfl := Except.ok.inj h
  refine ⟨_, _, data, observedAtMs, rfl, hIdentity, rfl, fun w hw => ?_⟩
  rcases List.mem_cons.mp hw with rfl | hw
  · exact dataCarries_one (.head _) hBid
  · obtain rfl := List.mem_singleton.mp hw
    exact dataCarries_one (.tail _ (.head _)) hAsk

/-- Inversion of `parseExecution`. -/
theorem parseExecution_ok {value : Value} {r : Reading} (h : parseExecution value = .ok r) :
    ∃ u sequence data observedAtMs, r = .sequenced u sequence ∧
      tickerIdentity value "/contractMarket/execution:".toList =
        .ok (data, u.symbol, observedAtMs) ∧
      DataCarries executionNames data observedAtMs none u := by
  unfold parseExecution at h
  obtain ⟨⟨data, symbol, observedAtMs⟩, hIdentity, h⟩ := bind_eq_ok.mp h
  obtain ⟨last, hLast, h⟩ := bind_eq_ok.mp h
  obtain rfl := Except.ok.inj h
  refine ⟨_, _, data, observedAtMs, rfl, hIdentity, rfl, fun w hw => ?_⟩
  obtain rfl := List.mem_singleton.mp hw
  exact dataCarries_one (.head _) hLast

/-- What the two instrument handlers have in common: the topic names the symbol,
the data the time in milliseconds. -/
def InstrumentFrame (value : Value) (topic symbol : Text) (data : Value) (observedAtMs : Nat) :
    Prop :=
  instrumentTopicSymbol topic = .ok symbol ∧ value.get "data".toList = some data ∧
    ∃ time, data.get "timestamp".toList = some time ∧
      parseU64 time "timestamp".toList = .ok observedAtMs

/-- Inversion of `parseMarkIndex`. -/
theorem parseMarkIndex_ok {value : Value} {topic text : Text} {r : Reading}
    (h : parseMarkIndex value topic text = .ok r) :
    ∃ u data observedAtMs, r = .single u ∧
      InstrumentFrame value topic u.symbol data observedAtMs ∧
      DataCarries markIndexNames data observedAtMs (some text) u := by
  unfold parseMarkIndex at h
  obtain ⟨symbol, hSymbol, h⟩ := bind_eq_ok.mp h
  obtain ⟨data, hData, h⟩ := bind_eq_ok.mp h
  obtain ⟨time, hTime, h⟩ := bind_eq_ok.mp h
  obtain ⟨observedAtMs, hMillis, h⟩ := bind_eq_ok.mp h
  obtain ⟨mark, hMark, h⟩ := bind_eq_ok.mp h
  obtain ⟨index, hIndex, h⟩ := bind_eq_ok.mp h
  obtain rfl := Except.ok.inj h
  refine ⟨_, data, observedAtMs, rfl,
    ⟨hSymbol, requiredObject_eq hData, time, requiredValue_eq hTime, hMillis⟩, rfl,
    fun w hw => ?_⟩
  -- the mark price and the index price, from their own members
  rcases List.mem_cons.mp hw with rfl | hw
  · exact dataCarries_one (.head _) hMark
  · obtain rfl := List.mem_singleton.mp hw
    exact dataCarries_one (.tail _ (.head _)) hIndex

/-- Inversion of `parseFunding`. -/
theorem parseFunding_ok {value : Value} {topic text : Text} {r : Reading}
    (h : parseFunding value topic text = .ok r) :
    ∃ u data observedAtMs, r = .single u ∧
      InstrumentFrame value topic u.symbol data observedAtMs ∧
      DataCarries fundingNames data observedAtMs (some text) u := by
  unfold parseFunding at h
  obtain ⟨symbol, hSymbol, h⟩ := bind_eq_ok.mp h
  obtain ⟨data, hData, h⟩ := bind_eq_ok.mp h
  obtain ⟨time, hTime, h⟩ := bind_eq_ok.mp h
  obtain ⟨observedAtMs, hMillis, h⟩ := bind_eq_ok.mp h
  obtain ⟨funding, hFunding, h⟩ := bind_eq_ok.mp h
  obtain rfl := Except.ok.inj h
  refine ⟨_, data, observedAtMs, rfl,
    ⟨hSymbol, requiredObject_eq hData, time, requiredValue_eq hTime, hMillis⟩, rfl,
    fun w hw => ?_⟩
  obtain rfl := List.mem_singleton.mp hw
  exact dataCarries_one (.head _) hFunding

/-- Where the decimals of a candle stand in its array. -/
def candlePositions : List (CandlePart × Nat) :=
  [(.openPrice, 1), (.close, 2), (.high, 3), (.low, 4)]

theorem decimalValue_number {n : Number} {field : Text} {decimal : DecimalValue}
    (h : decimalValue (.number n) field = .ok decimal) : decimal = ⟨n.display⟩ := by
  unfold decimalValue at h
  obtain ⟨text, hText, h⟩ := bind_eq_ok.mp h
  rw [decimal_eq (mapError_eq_ok.mp h)]
  exact congrArg DecimalValue.mk (Except.ok.inj hText).symm

/-- The numbers in the array of a candle are its decimals. -/
def CandleCarries (data : Value) (c : Candle) : Prop :=
  ∃ items, data.get "candles".toList = some (.array items) ∧
    ∀ part i n, (part, i) ∈ candlePositions → items[i]? = some (.number n) →
      c.get part = some ⟨n.display⟩

theorem parseCandle_ok {value : Value} {r : Reading} (h : parseCandle value = .ok r) :
    ∃ c topic data, r = .candles [c] ∧ value.get "topic".toList = some (.string topic) ∧
      value.get "data".toList = some data ∧
        requiredLinearSymbol data "symbol".toList = .ok c.symbol ∧
      validateTopicSymbol topic "/contractMarket/limitCandle:".toList c.symbol "_1min".toList =
        .ok () ∧
      CandleCarries data c.candle := by
  unfold parseCandle at h
  obtain ⟨topic, hTopic, h⟩ := bind_eq_ok.mp h
  obtain ⟨data, hData, h⟩ := bind_eq_ok.mp h
  obtain ⟨symbol, hSymbol, h⟩ := bind_eq_ok.mp h
  obtain ⟨⟨⟩, hValid, h⟩ := bind_eq_ok.mp h
  split at h
  · cases h
  · -- exactly seven fields
    next start openValue closeValue highValue lowValue volume turnover hItems =>
    obtain ⟨start, -, h⟩ := bind_eq_ok.mp h
    dsimp only at h
    split at h
    · cases h
    · split at h
      · cases h
      · obtain ⟨time, -, h⟩ := bind_eq_ok.mp h
        obtain ⟨exchangeTimeMs, -, h⟩ := bind_eq_ok.mp h
        obtain ⟨openPrice, hOpen, h⟩ := bind_eq_ok.mp h
        obtain ⟨close, hClose, h⟩ := bind_eq_ok.mp h
        obtain ⟨high, hHigh, h⟩ := bind_eq_ok.mp h
        obtain ⟨low, hLow, h⟩ := bind_eq_ok.mp h
        obtain rfl := Except.ok.inj h
        obtain ⟨array, hArray, hSome⟩ := Option.bind_eq_some_iff.mp hItems
        refine ⟨_, topic, data, rfl, requiredString_eq hTopic, requiredObject_eq hData, hSymbol,
          hValid, _, hArray.trans (congrArg some (Value.asArray_eq_some hSome)), ?_⟩
        -- the prices stand in the order open, close, high, low
        intro part i n hPart hItem
        simp only [candlePositions, List.mem_cons, Prod.mk.injEq, List.not_mem_nil, or_false]
          at hPart
        rcases hPart with ⟨rfl, rfl⟩ | ⟨rfl, rfl⟩ | ⟨rfl, rfl⟩ | ⟨rfl, rfl⟩
        · obtain rfl := Option.some.inj hItem
          rw [decimalValue_number hOpen]
          rfl
        · obtain rfl := Option.some.inj hItem
          rw [decimalValue_number hClose]
          rfl
        · obtain rfl := Option.some.inj hItem
          rw [decimalValue_number hHigh]
          rfl
        · obtain rfl := Option.some.inj hItem
          rw [decimalValue_number hLow]
          rfl
  · cases h

/-- The handlers of a frame, with the topic the instrument handlers go by. -/
inductive Handles (value : Value) (text topic : Text) (r : Reading) : Prop where
  | tickerV2 (parsed : parseTickerV2 value = .ok r)
  | execution (parsed : parseExecution value = .ok r)
  | markIndex (parsed : parseMarkIndex value topic text = .ok r)
  | funding (parsed : parseFunding value topic text = .ok r)
  | candle (parsed : parseCandle value = .ok r)

/-- How the market-data half of `parse` reads a frame. -/
theorem reading_cases (value : Value) (text : Text) :
    reading value text = .ignored ∨ (∃ error, reading value text = .refused error) ∨
    ∃ topic, value.get "topic".toList = some (.string topic) ∧
      Handles value text topic (reading value text) := by
  unfold reading
  rcases Reading.ofExcept_cases (parseMarketMessage value text) with hRefused | ⟨r, hOk, hr⟩
  · exact .inr (.inl hRefused)
  · rw [hr]
    unfold parseMarketMessage at hOk
    obtain ⟨topic, hTopic, hParse⟩ := bind_eq_ok.mp hOk
    -- the subject and the topic name the handler
    have hMember := requiredString_eq hTopic
    dsimp only at hParse
    split at hParse
    · exact .inr (.inr ⟨topic, hMember, .tickerV2 hParse⟩)
    · split at hParse
      · exact .inr (.inr ⟨topic, hMember, .execution hParse⟩)
      · split at hParse
        · exact .inr (.inr ⟨topic, hMember, .markIndex hParse⟩)
        · split at hParse
          · exact .inr (.inr ⟨topic, hMember, .funding hParse⟩)
          · split at hParse
            · exact .inr (.inr ⟨topic, hMember, .candle hParse⟩)
            · exact .inl (Except.ok.inj hParse).symm

end Handlers

end KucoinSession

end MarketStreamGateway
