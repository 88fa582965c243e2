import MarketStreamGateway.Providers.Bingx
import MarketStreamGateway.Feeds.Reading

/-!
# Market Stream Gateway — BingX market data

The market-data handlers of `providers/bingx.rs`. The suffix of a frame's data
type picks the handler. Best bid and ask come from the dedicated book stream.
Klines come in two shapes, a list of candles and a single one.
-/

namespace MarketStreamGateway

open Lib

/-- The envelope of a frame: status code, message and data. -/
structure BingxStreamEnvelope (α : Type) where
  code : Int
  message : Option Text
  data : α

/-- The three ticker envelopes differ in their data only. -/
def BingxStreamEnvelope.decode {α : Type} (decodeData : Value → Option α) (value : Value) :
    Option (BingxStreamEnvelope α) := do
  let get ← value.members [("code".toList, false), ("msg".toList, true), ("data".toList, false)]
  let code ← Value.required Value.asI64 (get "code".toList)
  let message ← Value.optional Value.asStr (get "msg".toList)
  let data ← Value.required decodeData (get "data".toList)
  return ⟨code, message, data⟩

/-- A ticker carries the last price, under one of two time stamps or none. -/
structure BingxTickerData where
  eventTime : Option Nat
  timestamp : Option Nat
  symbol : Text
  last : Text

/-- Both time stamps have a default. -/
def BingxTickerData.layout : Layout :=
  [("E".toList, true), ("T".toList, true), ("s".toList, false), ("c".toList, false)]

def BingxTickerData.decode (value : Value) : Option BingxTickerData := do
  let get ← value.members layout
  let eventTime ← Value.optional Value.asU64 (get "E".toList)
  let timestamp ← Value.optional Value.asU64 (get "T".toList)
  let symbol ← Value.required Value.asStr (get "s".toList)
  let last ← Value.required Value.asStr (get "c".toList)
  return ⟨eventTime, timestamp, symbol, last⟩

/-- A mark price, under one of two time stamps. -/
structure BingxMarkPriceData where
  eventTime : Option Nat
  timestamp : Option Nat
  symbol : Text
  markPrice : Text

def BingxMarkPriceData.layout : Layout :=
  [("E".toList, true), ("T".toList, true), ("s".toList, false), ("p".toList, false)]

def BingxMarkPriceData.decode (value : Value) : Option BingxMarkPriceData := do
  let get ← value.members layout
  let eventTime ← Value.optional Value.asU64 (get "E".toList)
  let timestamp ← Value.optional Value.asU64 (get "T".toList)
  let symbol ← Value.required Value.asStr (get "s".toList)
  let markPrice ← Value.required Value.asStr (get "p".toList)
  return ⟨eventTime, timestamp, symbol, markPrice⟩

/-- The best prices, under the time of the match. -/
structure BingxBookTickerData where
  updateId : Option Nat
  matchTime : Nat
  symbol : Text
  bid : Text
  ask : Text

def BingxBookTickerData.layout : Layout :=
  [("u".toList, true), ("T".toList, false), ("s".toList, false), ("b".toList, false),
    ("a".toList, false)]

def BingxBookTickerData.decode (value : Value) : Option BingxBookTickerData := do
  let get ← value.members layout
  let updateId ← Value.optional Value.asU64 (get "u".toList)
  let matchTime ← Value.required Value.asU64 (get "T".toList)
  let symbol ← Value.required Value.asStr (get "s".toList)
  let bid ← Value.required Value.asStr (get "b".toList)
  let ask ← Value.required Value.asStr (get "a".toList)
  return ⟨updateId, matchTime, symbol, bid, ask⟩

/-- `BingxKline`, from either of the two shapes. -/
structure BingxKline where
  startTime : Nat
  closeTime : Option Nat
  openPrice : Text
  high : Text
  low : Text
  close : Text
  volume : Text

/-- A candle of the undocumented form has its start time only. -/
def BingxLegacyKline.decode (value : Value) : Option BingxKline := do
  let get ← value.members [("T".toList, false), ("o".toList, false), ("h".toList, false),
    ("l".toList, false), ("c".toList, false), ("v".toList, false)]
  let startTime ← Value.required Value.asU64 (get "T".toList)
  let openPrice ← Value.required Value.asStr (get "o".toList)
  let high ← Value.required Value.asStr (get "h".toList)
  let low ← Value.required Value.asStr (get "l".toList)
  let close ← Value.required Value.asStr (get "c".toList)
  let volume ← Value.required Value.asStr (get "v".toList)
  return ⟨startTime, none, openPrice, high, low, close, volume⟩

/-- A candle of the documented form has a close time to be checked. -/
def BingxDocumentedKline.decode (value : Value) : Option BingxKline := do
  let get ← value.members [("t".toList, false), ("T".toList, false), ("o".toList, false),
    ("h".toList, false), ("l".toList, false), ("c".toList, false), ("v".toList, false)]
  let startTime ← Value.required Value.asU64 (get "t".toList)
  let closeTime ← Value.required Value.asU64 (get "T".toList)
  let openPrice ← Value.required Value.asStr (get "o".toList)
  let high ← Value.required Value.asStr (get "h".toList)
  let low ← Value.required Value.asStr (get "l".toList)
  let close ← Value.required Value.asStr (get "c".toList)
  let volume ← Value.required Value.asStr (get "v".toList)
  return ⟨startTime, some closeTime, openPrice, high, low, close, volume⟩

/-- The two forms of the data of a candle frame. -/
inductive BingxKlineData where
  | legacy (items : List BingxKline)
  | documented (symbol : Text) (kline : BingxKline)

/-- Several candles, without a symbol. -/
def BingxKlineData.decodeLegacy (value : Value) : Option BingxKlineData := do
  let items ← value.asArray
  let items ← items.mapM BingxLegacyKline.decode
  return .legacy items

/-- One candle, with its symbol. -/
def BingxKlineData.decodeDocumented (value : Value) : Option BingxKlineData := do
  let get ← value.members [("s".toList, false), ("K".toList, false)]
  let symbol ← Value.required Value.asStr (get "s".toList)
  let kline ← Value.required BingxDocumentedKline.decode (get "K".toList)
  return .documented symbol kline

/-- The shapes are tried in order. -/
def BingxKlineData.decode (value : Value) : Option BingxKlineData :=
  (decodeLegacy value).orElse fun _ => decodeDocumented value

/-- The envelope of a candle frame carries the symbol of the legacy form. -/
structure BingxKlineEnvelope where
  code : Int
  message : Option Text
  symbol : Option Text
  data : BingxKlineData

def BingxKlineEnvelope.decode (value : Value) : Option BingxKlineEnvelope := do
  let get ← value.members [("code".toList, false), ("msg".toList, true), ("s".toList, true),
    ("data".toList, false)]
  let code ← Value.required Value.asI64 (get "code".toList)
  let message ← Value.optional Value.asStr (get "msg".toList)
  let symbol ← Value.optional Value.asStr (get "s".toList)
  let data ← Value.required BingxKlineData.decode (get "data".toList)
  return ⟨code, message, symbol, data⟩

namespace BingxSession

variable [Unicode]

omit [Unicode] in
/-- Any code but zero is a refusal by the venue. -/
def ensureSuccess (code : Int) (message : Option Text) : Except AdapterError Unit :=
  if code = 0 then .ok ()
  else .error (commandRejected ("code ".toList ++ Text.ofInt code ++ ": ".toList ++
    message.getD "unknown provider error".toList))

/-- The symbol that a topic is named after. -/
def topicSymbol (topic suffix : Text) : Except AdapterError Text :=
  match Text.stripSuffix suffix topic with
  | some symbol => normalizedSymbol symbol
  | none => .error (invalidPayload ("invalid BingX topic ".toList ++ Text.debug topic))

omit [Unicode] in
/-- The payload must be of the symbol of the topic. -/
def ensureTopicSymbol (topicSymbol payloadSymbol : Text) : Except AdapterError Unit :=
  if topicSymbol = payloadSymbol then .ok ()
  else .error (invalidPayload ("topic symbol ".toList ++ topicSymbol ++
    " does not match payload symbol ".toList ++ payloadSymbol))

/-- The checks of a ticker envelope, up to the symbol of its data. -/
def checkedSymbol (code : Int) (message : Option Text) (topic suffix symbol : Text) :
    Except AdapterError Text := do
  ensureSuccess code message
  let topicSymbol ← topicSymbol topic suffix
  let symbol ← normalizedSymbol symbol
  ensureTopicSymbol topicSymbol symbol
  return symbol

omit [Unicode] in
/-- The candles of either form, with the symbol they are of. -/
def intoItems (data : BingxKlineData) (legacySymbol : Option Text) :
    Except AdapterError (Text × List BingxKline) :=
  match data with
  | .legacy items => match legacySymbol with
    | some symbol => .ok (symbol, items)
    | none => .error (invalidPayload "legacy kline message is missing symbol".toList)
  | .documented symbol kline => .ok (symbol, [kline])

variable [RustDecimal]

/-- A ticker without any time stamp counts as observed when it arrived. -/
def parseTicker [Serde] (value : Value) (receivedAtMs : Nat) (topic : Text) :
    Except AdapterError Reading := do
  let envelope ← (value.fromValue "BingxTickerEnvelope".toList
    (BingxStreamEnvelope.decode BingxTickerData.decode)).mapError
    fun error => invalidPayload ("invalid ticker message: ".toList ++ error)
  let symbol ← checkedSymbol envelope.code envelope.message topic "@ticker".toList
    envelope.data.symbol
  let observedAtMs := (envelope.data.eventTime.orElse fun _ => envelope.data.timestamp).getD
    receivedAtMs
  let last ← observation invalidPayload envelope.data.last observedAtMs "last price".toList
  return .single { symbol := symbol, observedAtMs := observedAtMs, writes := [(.last, some last)] }

/-- Both best prices must be there, under the time of the match. -/
def parseBookTicker [Serde] (value : Value) (topic : Text) : Except AdapterError Reading := do
  let envelope ← (value.fromValue "BingxBookTickerEnvelope".toList
    (BingxStreamEnvelope.decode BingxBookTickerData.decode)).mapError
    fun error => invalidPayload ("invalid book-ticker message: ".toList ++ error)
  let symbol ← checkedSymbol envelope.code envelope.message topic "@bookTicker".toList
    envelope.data.symbol
  let observedAtMs := envelope.data.matchTime
  let bid ← observation invalidPayload envelope.data.bid observedAtMs "best bid".toList
  let ask ← observation invalidPayload envelope.data.ask observedAtMs "best ask".toList
  return .single {
    symbol := symbol
    observedAtMs := observedAtMs
    writes := [(.bid, some bid), (.ask, some ask)]
    sourceSequence := envelope.data.updateId.map fun updateId =>
      ⟨none, some (Text.ofNat updateId), none⟩ }

/-- Unlike a ticker, a mark price must say when it was observed. -/
def parseMarkPrice [Serde] (value : Value) (topic : Text) : Except AdapterError Reading := do
  let envelope ← (value.fromValue "BingxMarkPriceEnvelope".toList
    (BingxStreamEnvelope.decode BingxMarkPriceData.decode)).mapError
    fun error => invalidPayload ("invalid mark-price message: ".toList ++ error)
  let symbol ← checkedSymbol envelope.code envelope.message topic "@markPrice".toList
    envelope.data.symbol
  match envelope.data.eventTime.orElse fun _ => envelope.data.timestamp with
  | none => .error (invalidPayload "mark-price message is missing event time".toList)
  | some observedAtMs => do
    let mark ← observation invalidPayload envelope.data.markPrice observedAtMs "mark price".toList
    return .single {
      symbol := symbol
      observedAtMs := observedAtMs
      writes := [(.mark, some mark)] }

/-- The candle of one kline item. -/
def klineItem (symbol : Text) (item : BingxKline) : Except AdapterError CandleUpdate := do
  if item.startTime % 60000 ≠ 0 then
    throw (invalidPayload ("1m kline start time ".toList ++ Text.ofNat item.startTime ++
      " is not minute aligned".toList))
  let endTimeMs := item.startTime + 60000
  if u64Max < endTimeMs then
    throw (invalidPayload "kline end time overflow".toList)
  match item.closeTime with
  | some closeTime =>
    if closeTime ≠ endTimeMs ∧ closeTime ≠ endTimeMs - 1 then
      throw (invalidPayload ("1m kline close time ".toList ++ Text.ofNat closeTime ++
        " does not match start time ".toList ++ Text.ofNat item.startTime))
  | none => pure ()
  let openPrice ← decimalField invalidPayload item.openPrice "open".toList
  let high ← decimalField invalidPayload item.high "high".toList
  let low ← decimalField invalidPayload item.low "low".toList
  let close ← decimalField invalidPayload item.close "close".toList
  let baseVolume ← decimalField invalidPayload item.volume "base volume".toList
  return {
    symbol := symbol
    exchangeTimeMs := none
    candle := {
      interval := "1m".toList
      startTimeMs := item.startTime
      endTimeMs := endTimeMs
      openPrice, high, low, close
      baseVolume := some baseVolume
      quoteVolume := none
      contractVolume := none
      finality := .unknown
      dataQuality := [] } }

/-- An empty array is refused; one bad candle refuses the frame. -/
def parseKline [Serde] (value : Value) (topic : Text) : Except AdapterError Reading := do
  let envelope ← (value.fromValue "BingxKlineEnvelope".toList BingxKlineEnvelope.decode).mapError
    fun error => invalidPayload ("invalid kline message: ".toList ++ error)
  ensureSuccess envelope.code envelope.message
  let topicSymbol ← topicSymbol topic "@kline_1m".toList
  let (payloadSymbol, items) ← intoItems envelope.data envelope.symbol
  let symbol ← normalizedSymbol payloadSymbol
  ensureTopicSymbol topicSymbol symbol
  if items.isEmpty then
    throw (invalidPayload "kline data must not be empty".toList)
  let candles ← items.mapM (klineItem symbol)
  return .candles candles

/-- The market-data half of `parse`. -/
def reading [Serde] (value : Value) (receivedAtMs : Nat) : Reading :=
  match value.get "dataType".toList with
  | some (.string []) | none => .ignored
  | some (.string topic) =>
    if "@ticker".toList.isSuffixOf topic then .ofExcept (parseTicker value receivedAtMs topic)
    else if "@markPrice".toList.isSuffixOf topic then .ofExcept (parseMarkPrice value topic)
    else if "@bookTicker".toList.isSuffixOf topic then .ofExcept (parseBookTicker value topic)
    else if "@kline_1m".toList.isSuffixOf topic then .ofExcept (parseKline value topic)
    else .ignored
  | some _ => .refused (invalidPayload "event field dataType must be a string".toList)

/-! ## Accepted frames -/

omit [RustDecimal] in
/-- The refusal has words of its own; what is accepted is the common normalization. -/
theorem normalizedSymbol_ok {symbol normalized : Text}
    (h : normalizedSymbol symbol = .ok normalized) : normalizeSymbol symbol = .ok normalized := by
  unfold normalizedSymbol at h
  split at h
  · next hEq => rw [hEq, Except.ok.inj h]
  · cases h

omit [RustDecimal] in
/-- The topic of an accepted envelope is its symbol, up to case and blanks, with
the suffix of its feed. -/
theorem checkedSymbol_ok {code : Int} {message : Option Text}
    {topic suffix payloadSymbol symbol : Text}
    (h : checkedSymbol code message topic suffix payloadSymbol = .ok symbol) :
    normalizeSymbol payloadSymbol = .ok symbol ∧ topicSymbol topic suffix = .ok symbol := by
  unfold checkedSymbol at h
  obtain ⟨⟨⟩, -, h⟩ := bind_eq_ok.mp h
  obtain ⟨fromTopic, hTopic, h⟩ := bind_eq_ok.mp h
  obtain ⟨fromPayload, hPayload, h⟩ := bind_eq_ok.mp h
  obtain ⟨⟨⟩, hSame, h⟩ := bind_eq_ok.mp h
  obtain rfl := Except.ok.inj h
  unfold ensureTopicSymbol at hSame
  split at hSame
  · next hEq => exact ⟨normalizedSymbol_ok hPayload, hEq ▸ hTopic⟩
  · cases hSame

/-- Inversion of `parseTicker`: one update, with the last price of the payload. -/
theorem parseTicker_ok [Serde] {value : Value} {receivedAtMs : Nat} {topic : Text} {r : Reading}
    (h : parseTicker value receivedAtMs topic = .ok r) :
    ∃ envelope u last, r = .single u ∧
      BingxStreamEnvelope.decode BingxTickerData.decode value = some envelope ∧
      checkedSymbol envelope.code envelope.message topic "@ticker".toList envelope.data.symbol =
        .ok u.symbol ∧
      u.writes = [(.last, some last)] ∧ last.value.text = envelope.data.last ∧
      last.observedAtMs = (envelope.data.eventTime.orElse fun _ => envelope.data.timestamp).getD
        receivedAtMs := by
  unfold parseTicker at h
  obtain ⟨envelope, hEnvelope, h⟩ := bind_eq_ok.mp h
  obtain ⟨symbol, hSymbol, h⟩ := bind_eq_ok.mp h
  -- the time of receipt stands in for a missing event time
  dsimp only at h
  obtain ⟨last, hLast, h⟩ := bind_eq_ok.mp h
  obtain rfl := Except.ok.inj h
  rw [observation_eq _ hLast]
  exact ⟨envelope, _, _, rfl, Value.fromValue_eq_ok.mp (mapError_eq_ok.mp hEnvelope), hSymbol, rfl,
    rfl, rfl⟩

/-- Inversion of `parseBookTicker`. -/
theorem parseBookTicker_ok [Serde] {value : Value} {topic : Text} {r : Reading}
    (h : parseBookTicker value topic = .ok r) :
    ∃ envelope u, r = .single u ∧
      BingxStreamEnvelope.decode BingxBookTickerData.decode value = some envelope ∧
      checkedSymbol envelope.code envelope.message topic "@bookTicker".toList
        envelope.data.symbol = .ok u.symbol ∧
      u.writes = [(.bid, some ⟨⟨envelope.data.bid⟩, envelope.data.matchTime⟩),
        (.ask, some ⟨⟨envelope.data.ask⟩, envelope.data.matchTime⟩)] := by
  unfold parseBookTicker at h
  obtain ⟨envelope, hEnvelope, h⟩ := bind_eq_ok.mp h
  obtain ⟨symbol, hSymbol, h⟩ := bind_eq_ok.mp h
  dsimp only at h
  obtain ⟨bid, hBid, h⟩ := bind_eq_ok.mp h
  obtain ⟨ask, hAsk, h⟩ := bind_eq_ok.mp h
  obtain rfl := Except.ok.inj h
  rw [observation_eq _ hBid, observation_eq _ hAsk]
  exact ⟨envelope, _, rfl, Value.fromValue_eq_ok.mp (mapError_eq_ok.mp hEnvelope), hSymbol, rfl⟩

/-- Inversion of `parseMarkPrice`. -/
theorem parseMarkPrice_ok [Serde] {value : Value} {topic : Text} {r : Reading}
    (h : parseMarkPrice value topic = .ok r) :
    ∃ envelope u time, r = .single u ∧
      BingxStreamEnvelope.decode BingxMarkPriceData.decode value = some envelope ∧
      checkedSymbol envelope.code envelope.message topic "@markPrice".toList envelope.data.symbol =
        .ok u.symbol ∧
      (envelope.data.eventTime.orElse fun _ => envelope.data.timestamp) = some time ∧
      u.writes = [(.mark, some ⟨⟨envelope.data.markPrice⟩, time⟩)] := by
  unfold parseMarkPrice at h
  obtain ⟨envelope, hEnvelope, h⟩ := bind_eq_ok.mp h
  obtain ⟨symbol, hSymbol, h⟩ := bind_eq_ok.mp h
  split at h
  · cases h
  · -- here a frame without a time is refused
    next time hTime =>
    obtain ⟨mark, hMark, h⟩ := bind_eq_ok.mp h
    obtain rfl := Except.ok.inj h
    rw [observation_eq _ hMark]
    exact ⟨envelope, _, time, rfl, Value.fromValue_eq_ok.mp (mapError_eq_ok.mp hEnvelope), hSymbol,
      hTime, rfl⟩

/-- A candle is filed under the symbol of its frame. -/
theorem klineItem_symbol {symbol : Text} {item : BingxKline} {c : CandleUpdate}
    (h : klineItem symbol item = .ok c) : c.symbol = symbol := by
  -- a close time is checked if it is there; what follows is the same either way
  have hTail : ∀ {rest : Except AdapterError CandleUpdate},
      (∃ make : DecimalValue → DecimalValue → DecimalValue → DecimalValue → DecimalValue → Candle,
        rest = (do
          let openPrice ← decimalField invalidPayload item.openPrice "open".toList
          let high ← decimalField invalidPayload item.high "high".toList
          let low ← decimalField invalidPayload item.low "low".toList
          let close ← decimalField invalidPayload item.close "close".toList
          let baseVolume ← decimalField invalidPayload item.volume "base volume".toList
          return { symbol := symbol, exchangeTimeMs := none,
                   candle := make openPrice high low close baseVolume })) →
      rest = .ok c → c.symbol = symbol := by
    rintro rest ⟨make, hRest⟩ hOk
    rw [hRest] at hOk
    obtain ⟨openPrice, -, hOk⟩ := bind_eq_ok.mp hOk
    obtain ⟨high, -, hOk⟩ := bind_eq_ok.mp hOk
    obtain ⟨low, -, hOk⟩ := bind_eq_ok.mp hOk
    obtain ⟨close, -, hOk⟩ := bind_eq_ok.mp hOk
    obtain ⟨baseVolume, -, hOk⟩ := bind_eq_ok.mp hOk
    rw [← Except.ok.inj hOk]
  unfold klineItem at h
  dsimp only at h
  split at h
  · cases h
  · split at h
    · cases h
    · split at h
      · split at h
        · cases h
        · exact hTail ⟨_, rfl⟩ h
      · exact hTail ⟨_, rfl⟩ h

/-- Inversion of `parseKline`: every candle is of the topic's symbol. -/
theorem parseKline_ok [Serde] {value : Value} {topic : Text} {r : Reading}
    (h : parseKline value topic = .ok r) :
    ∃ candles symbol, r = .candles candles ∧ topicSymbol topic "@kline_1m".toList = .ok symbol ∧
      ∀ c ∈ candles, c.symbol = symbol := by
  unfold parseKline at h
  obtain ⟨envelope, -, h⟩ := bind_eq_ok.mp h
  obtain ⟨⟨⟩, -, h⟩ := bind_eq_ok.mp h
  obtain ⟨fromTopic, hTopic, h⟩ := bind_eq_ok.mp h
  obtain ⟨⟨payloadSymbol, items⟩, -, h⟩ := bind_eq_ok.mp h
  obtain ⟨symbol, -, h⟩ := bind_eq_ok.mp h
  obtain ⟨⟨⟩, hSame, h⟩ := bind_eq_ok.mp h
  dsimp only at h
  split at h
  · cases h
  · -- there is a kline at least
    obtain ⟨candles, hCandles, h⟩ := bind_eq_ok.mp h
    obtain rfl := Except.ok.inj h
    refine ⟨candles, symbol, rfl, ?_, fun c hc => ?_⟩
    · unfold ensureTopicSymbol at hSame
      split at hSame
      · next hEq => exact hEq ▸ hTopic
      · cases hSame
    · obtain ⟨item, -, hItem⟩ := mem_of_mapM_eq_ok hCandles hc
      exact klineItem_symbol hItem

/-- The suffix of a frame's data type, with the handler it picks. -/
inductive Handles [Serde] (value : Value) (receivedAtMs : Nat) (topic : Text) (r : Reading) :
    Prop where
  | ticker (parsed : parseTicker value receivedAtMs topic = .ok r)
  | markPrice (parsed : parseMarkPrice value topic = .ok r)
  | bookTicker (parsed : parseBookTicker value topic = .ok r)
  | kline (parsed : parseKline value topic = .ok r)

/-- How the market-data half of `parse` reads a frame. -/
theorem reading_cases [Serde] (value : Value) (receivedAtMs : Nat) :
    reading value receivedAtMs = .ignored ∨ (∃ error, reading value receivedAtMs = .refused error) ∨
    ∃ topic, value.get "dataType".toList = some (.string topic) ∧
      Handles value receivedAtMs topic (reading value receivedAtMs) := by
  -- a handler refuses the frame or is one of the four
  have hOne : ∀ {topic : Text} {parsed : Except AdapterError Reading},
      value.get "dataType".toList = some (.string topic) →
      (∀ r, parsed = .ok r → Handles value receivedAtMs topic r) →
      Reading.ofExcept parsed = .ignored ∨ (∃ error, Reading.ofExcept parsed = .refused error) ∨
      ∃ topic, value.get "dataType".toList = some (.string topic) ∧
        Handles value receivedAtMs topic (Reading.ofExcept parsed) := by
    intro topic parsed hTopic hHandles
    rcases Reading.ofExcept_cases parsed with hRefused | ⟨r, hOk, hr⟩
    · exact .inr (.inl hRefused)
    · exact .inr (.inr ⟨topic, hTopic, hr ▸ hHandles r hOk⟩)
  unfold reading
  split
  · exact .inl rfl
  · exact .inl rfl
  · -- the suffix of the topic names the handler
    next topic _ hTopic =>
    split
    · exact hOne hTopic fun r => .ticker
    · split
      · exact hOne hTopic fun r => .markPrice
      · split
        · exact hOne hTopic fun r => .bookTicker
        · split
          · exact hOne hTopic fun r => .kline
          · exact .inl rfl
  · exact .inr (.inl ⟨_, rfl⟩)

end BingxSession

end MarketStreamGateway
