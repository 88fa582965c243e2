import MarketStreamGateway.Providers.Mexc
import MarketStreamGateway.Feeds.Reading
import MarketStreamGateway.Feeds.RawNumber

/-!
# Market Stream Gateway — MEXC market data

The market-data handlers of `providers/mexc.rs`. A ticker frame is refused if it
leaves its symbol without a price; a funding frame is cached, but emitted only
once its symbol has one.
-/

namespace MarketStreamGateway

open Lib

namespace MexcSession

/-- A missing member and one that is no object are refused in the same words. -/
def requiredObject (value : Value) (field : Text) : Except AdapterError Value :=
  match value.get field with
  | some object =>
    if object.isObject then .ok object
    else .error (invalid (field ++ " must be an object".toList))
  | none => .error (invalid (field ++ " must be an object".toList))

def requiredValue (value : Value) (field : Text) : Except AdapterError Value :=
  match value.get field with
  | some value => .ok value
  | none => .error (invalid ("missing ".toList ++ field))

/-- An unsigned integer, sent as a number or as a string of digits. -/
def requiredU64 (value : Value) (field : Text) : Except AdapterError Nat := do
  let failed := invalid (field ++ " must be an unsigned integer".toList)
  match ← requiredValue value field with
  | .number n => match n.asU64 with
    | some n => .ok n
    | none => .error failed
  | .string text =>
    -- digits only: `parse::<u64>` alone would take a leading plus
    if !text.isEmpty && text.all Char.isDigit then
      match Text.parseU64 text with
      | some n => .ok n
      | none => .error failed
    else .error failed
  | _ => .error failed

/-- Absent and null are one; anything else must be an integer. -/
def optionalU64 (value : Value) (field : Text) : Except AdapterError (Option Nat) :=
  match value.get field with
  | none | some .null => .ok none
  | some _ => (requiredU64 value field).map some

/-- A decimal sent as a string or as a number, which is published as the text of
the frame has it. -/
def decimalString (value : Value) (field originalJson : Text) : Except AdapterError Text :=
  match value with
  | .string (c :: text) => .ok (c :: text)
  | .number n => .ok ((rawNumberField originalJson field).getD n.display)
  | _ => .error (invalid (field ++ " must be a decimal string or number".toList))

section Handlers

variable [Unicode] [RustDecimal]

/-- Envelope and payload must name the same symbol, in MEXC's own grammar. -/
def checkedPayloadSymbol (data : Value) (expectedSymbol : Text) : Except AdapterError Text := do
  (validateMexcSymbol expectedSymbol).mapError invalid
  let symbol ← requiredString data "symbol".toList
  if symbol ≠ expectedSymbol then
    throw (invalid ("payload symbol ".toList ++ symbol ++
      " does not match envelope symbol ".toList ++ expectedSymbol))
  (normalizeSymbol symbol).mapError fun error => invalid error.display

omit [Unicode] in
/-- A ticker value under the time of its frame. -/
def observation (value : Value) (field : Text) (observedAtMs : Nat) (originalJson : Text) :
    Except AdapterError ObservedDecimal := do
  let text ← decimalString value field originalJson
  (ObservedDecimal.new text observedAtMs).mapError fun error => invalid error.display

omit [Unicode] in
/-- A missing, null or empty value leaves the field as it is. -/
def updateObservation (target : Field) (data : Value) (field : Text) (observedAtMs : Nat)
    (originalJson : Text) : Except AdapterError (List (Field × Option ObservedDecimal)) :=
  match data.get field with
  | none => .ok []
  | some value =>
    if value.isNull ∨ value.asStr = some [] then .ok []
    else (observation value field observedAtMs originalJson).map fun observed =>
      [(target, some observed)]

omit [Unicode] in
/-- A candle's decimal; an exponent is worked out. -/
def decimal (value : Value) (field originalJson : Text) : Except AdapterError DecimalValue := do
  let raw ← decimalString value field originalJson
  let normalized ←
    if raw.any fun c => c = 'e' || c = 'E' then
      match RustDecimal.fromScientific raw with
      | some parsed => .ok (RustDecimal.toText parsed)
      | none => .error (invalid (field ++ " is not a decimal".toList))
    else .ok raw
  (DecimalValue.new normalized).mapError fun error => invalid error.display

omit [Unicode] in
/-- A volume that may be absent, null or empty. -/
def optionalDecimal (data : Value) (field originalJson : Text) :
    Except AdapterError (Option DecimalValue) :=
  match data.get field with
  | none | some .null | some (.string []) => .ok none
  | some value => (decimal value field originalJson).map some

/-- Any of the six values may be missing. A ticker that leaves the symbol
without a price is refused. -/
def parseTicker (value : Value) (originalJson : Text) : Except AdapterError Reading := do
  let outerSymbol ← requiredString value "symbol".toList
  let data ← requiredObject value "data".toList
  let symbol ← checkedPayloadSymbol data outerSymbol
  let observedAtMs ← requiredU64 data "timestamp".toList
  let last ← updateObservation .last data "lastPrice".toList observedAtMs originalJson
  let mark ← updateObservation .mark data "fairPrice".toList observedAtMs originalJson
  let index ← updateObservation .index data "indexPrice".toList observedAtMs originalJson
  let bid ← updateObservation .bid data "bid1".toList observedAtMs originalJson
  let ask ← updateObservation .ask data "ask1".toList observedAtMs originalJson
  let funding ← updateObservation .fundingRate data "fundingRate".toList observedAtMs originalJson
  return .priced
    { symbol := symbol, observedAtMs := observedAtMs,
      writes := last ++ mark ++ index ++ bid ++ ask ++ funding }
    (invalid "ticker contains no usable price".toList)

/-- The funding rate under the name it has on the wire, or else under the name
it has in the venue's documentation. -/
def rateField (data : Value) : Except AdapterError (Text × Value) :=
  match data.get "rate".toList with
  | some rate => .ok ("rate".toList, rate)
  | none => match data.get "fundingRate".toList with
    | some rate => .ok ("fundingRate".toList, rate)
    | none => .error (invalid "missing rate or fundingRate".toList)

/-- A funding rate is stored at once, and shown when the symbol has a price. -/
def parseFunding (value : Value) (originalJson : Text) : Except AdapterError Reading := do
  let outerSymbol ← requiredString value "symbol".toList
  let data ← requiredObject value "data".toList
  let symbol ← checkedPayloadSymbol data outerSymbol
  -- the time is in the envelope here, in the data of a ticker
  let observedAtMs ← requiredU64 value "ts".toList
  let (field, rate) ← rateField data
  let funding ← observation rate field observedAtMs originalJson
  let nextFundingTime ← requiredU64 data "nextSettleTime".toList
  return .held {
    symbol := symbol
    observedAtMs := observedAtMs
    writes := [(.fundingRate, some funding)]
    nextFundingTimeMs := some (some nextFundingTime) }

/-- MEXC stamps candles in seconds and never says whether one is final. -/
def parseCandle (value : Value) (originalJson : Text) : Except AdapterError Reading := do
  let outerSymbol ← requiredString value "symbol".toList
  let data ← requiredObject value "data".toList
  let symbol ← checkedPayloadSymbol data outerSymbol
  if (← requiredString data "interval".toList) ≠ "Min1".toList then
    throw (invalid "expected Min1 candle interval".toList)
  let start ← requiredU64 data "t".toList
  -- `checked_mul` and `checked_add`
  if u64Max < start * 1000 then
    throw (invalid "candle start time overflow".toList)
  let startTimeMs := start * 1000
  if u64Max < startTimeMs + 60000 then
    throw (invalid "candle end time overflow".toList)
  let exchangeTimeMs ← optionalU64 value "ts".toList
  let openPrice ← decimal (← requiredValue data "o".toList) "o".toList originalJson
  let high ← decimal (← requiredValue data "h".toList) "h".toList originalJson
  let low ← decimal (← requiredValue data "l".toList) "l".toList originalJson
  let close ← decimal (← requiredValue data "c".toList) "c".toList originalJson
  let quoteVolume ← optionalDecimal data "a".toList originalJson
  let contractVolume ← optionalDecimal data "q".toList originalJson
  return .candles [{
    symbol := symbol
    exchangeTimeMs := exchangeTimeMs
    candle := {
      interval := "1m".toList
      startTimeMs := startTimeMs
      endTimeMs := startTimeMs + 60000
      openPrice, high, low, close
      baseVolume := none
      quoteVolume, contractVolume
      finality := .unknown
      dataQuality := [] } }]

/-- The channel decides; other pushes are ignored. -/
def parseChannel (channel : Text) (value : Value) (originalJson : Text) :
    Except AdapterError Reading :=
  if channel = "push.ticker".toList then parseTicker value originalJson
  else if channel = "push.funding.rate".toList then parseFunding value originalJson
  else if channel = "push.kline".toList then parseCandle value originalJson
  else .ok .ignored

/-- The market-data half of `parse`. -/
def reading (value : Value) (text : Text) : Reading :=
  .ofExcept do parseChannel (← requiredString value "channel".toList) value text

/-! ## Accepted frames -/

omit [Unicode] [RustDecimal] in
/-- What the readers of a member return is what stands in the document. -/
theorem requiredString_eq {value : Value} {field text : Text}
    (h : requiredString value field = .ok text) : value.get field = some (.string text) := by
  unfold requiredString at h
  split at h
  · next found hFound =>
    split at h
    · cases h
    · obtain rfl := Except.ok.inj h
      obtain ⟨member, hMember, hText⟩ := Option.bind_eq_some_iff.mp hFound
      rw [hMember, Value.asStr_eq_some hText]
  · cases h

omit [Unicode] [RustDecimal] in
theorem requiredObject_eq {value data : Value} {field : Text}
    (h : requiredObject value field = .ok data) : value.get field = some data := by
  unfold requiredObject at h
  split at h
  · next object hObject =>
    split at h
    · rw [hObject, Except.ok.inj h]
    · cases h
  · cases h

omit [RustDecimal] in
/-- The symbol of the data is that of the envelope. -/
theorem checkedPayloadSymbol_ok {data : Value} {expectedSymbol symbol : Text}
    (h : checkedPayloadSymbol data expectedSymbol = .ok symbol) :
    validateMexcSymbol expectedSymbol = .ok () ∧
      data.get "symbol".toList = some (.string expectedSymbol) ∧
      normalizeSymbol expectedSymbol = .ok symbol := by
  unfold checkedPayloadSymbol at h
  obtain ⟨⟨⟩, hValid, h⟩ := bind_eq_ok.mp h
  obtain ⟨found, hFound, h⟩ := bind_eq_ok.mp h
  dsimp only at h
  split at h
  · cases h
  · next hSame =>
    rw [← not_not.mp hSame] at hValid ⊢
    exact ⟨mapError_eq_ok.mp hValid, requiredString_eq hFound, mapError_eq_ok.mp h⟩

omit [Unicode] in
/-- A value is observed as the decimal text of its member. -/
theorem observation_ok {value : Value} {field : Text} {observedAtMs : Nat} {originalJson : Text}
    {observed : ObservedDecimal}
    (h : observation value field observedAtMs originalJson = .ok observed) :
    decimalString value field originalJson = .ok observed.value.text ∧
      observed.observedAtMs = observedAtMs := by
  unfold observation at h
  obtain ⟨text, hText, h⟩ := bind_eq_ok.mp h
  rw [observed_eq (mapError_eq_ok.mp h)]
  exact ⟨hText, rfl⟩

omit [Unicode] in
/-- What a ticker writes was observed under the name of its field. -/
theorem updateObservation_mem {target : Field} {data : Value} {field : Text} {observedAtMs : Nat}
    {originalJson : Text} {writes : List (Field × Option ObservedDecimal)}
    (h : updateObservation target data field observedAtMs originalJson = .ok writes)
    {w : Field × Option ObservedDecimal} (hw : w ∈ writes) :
    ∃ member observed, data.get field = some member ∧ w = (target, some observed) ∧
      decimalString member field originalJson = .ok observed.value.text ∧
      observed.observedAtMs = observedAtMs := by
  unfold updateObservation at h
  split at h
  · rw [← Except.ok.inj h] at hw
    cases hw
  · -- a member that is null or empty writes nothing
    next member hMember =>
    split at h
    · rw [← Except.ok.inj h] at hw
      cases hw
    · obtain ⟨observed, hObserved, hWrites⟩ := map_eq_ok.mp h
      rw [← hWrites] at hw
      exact ⟨member, observed, hMember, List.mem_singleton.mp hw, observation_ok hObserved⟩

/-- The member each field of a ticker is read from. -/
def tickerNames : List (Field × Text) :=
  [(.last, "lastPrice".toList), (.mark, "fairPrice".toList), (.index, "indexPrice".toList),
    (.bid, "bid1".toList), (.ask, "ask1".toList), (.fundingRate, "fundingRate".toList)]

/-- A funding rate has two names. -/
def fundingNames : List (Field × Text) :=
  [(.fundingRate, "rate".toList), (.fundingRate, "fundingRate".toList)]

/-- Every write of an update is a member of the frame's data, decoded. -/
def DataCarries (names : List (Field × Text)) (data : Value) (observedAtMs : Nat)
    (originalJson : Text) (u : Update) : Prop :=
  u.reset = false ∧ ∀ w ∈ u.writes, ∃ name member observed, (w.1, name) ∈ names ∧
    w.2 = some observed ∧ data.get name = some member ∧
    decimalString member name originalJson = .ok observed.value.text ∧
    observed.observedAtMs = observedAtMs

/-- Inversion of `parseTicker`: the symbol, the time and the writes of an
accepted ticker. -/
theorem parseTicker_ok {value : Value} {originalJson : Text} {r : Reading}
    (h : parseTicker value originalJson = .ok r) :
    ∃ u error outerSymbol data observedAtMs, r = .priced u error ∧
      value.get "symbol".toList = some (.string outerSymbol) ∧
      value.get "data".toList = some data ∧ checkedPayloadSymbol data outerSymbol = .ok u.symbol ∧
      requiredU64 data "timestamp".toList = .ok observedAtMs ∧
      DataCarries tickerNames data observedAtMs originalJson u ∧
      ∀ target name, (target, name) ∈ tickerNames → ∃ part, part ⊆ u.writes ∧
        updateObservation target data name observedAtMs originalJson = .ok part := by
  unfold parseTicker at h
  obtain ⟨outerSymbol, hOuter, h⟩ := bind_eq_ok.mp h
  obtain ⟨data, hData, h⟩ := bind_eq_ok.mp h
  obtain ⟨symbol, hSymbol, h⟩ := bind_eq_ok.mp h
  obtain ⟨observedAtMs, hTime, h⟩ := bind_eq_ok.mp h
  obtain ⟨last, hLast, h⟩ := bind_eq_ok.mp h
  obtain ⟨mark, hMark, h⟩ := bind_eq_ok.mp h
  obtain ⟨index, hIndex, h⟩ := bind_eq_ok.mp h
  obtain ⟨bid, hBid, h⟩ := bind_eq_ok.mp h
  obtain ⟨ask, hAsk, h⟩ := bind_eq_ok.mp h
  obtain ⟨funding, hFunding, h⟩ := bind_eq_ok.mp h
  obtain rfl := Except.ok.inj h
  refine ⟨_, _, outerSymbol, data, observedAtMs, rfl, requiredString_eq hOuter,
    requiredObject_eq hData, hSymbol, hTime, ⟨rfl, fun w hw => ?_⟩, fun target name hName => ?_⟩
  · -- what one of the six members writes is read from it
    have hOne : ∀ {target : Field} {name : Text} {writes : List (Field × Option ObservedDecimal)},
        (target, name) ∈ tickerNames →
        updateObservation target data name observedAtMs originalJson = .ok writes → w ∈ writes →
        ∃ name member observed, (w.1, name) ∈ tickerNames ∧ w.2 = some observed ∧
          data.get name = some member ∧
          decimalString member name originalJson = .ok observed.value.text ∧
          observed.observedAtMs = observedAtMs := by
      intro target name writes hName hWrites hMem
      obtain ⟨member, observed, hMember, rfl, hText, hAt⟩ := updateObservation_mem hWrites hMem
      exact ⟨name, member, observed, hName, rfl, hMember, hText, hAt⟩
    simp only [List.mem_append] at hw
    rcases hw with ((((hw | hw) | hw) | hw) | hw) | hw
    · exact hOne (by simp [tickerNames]) hLast hw
    · exact hOne (by simp [tickerNames]) hMark hw
    · exact hOne (by simp [tickerNames]) hIndex hw
    · exact hOne (by simp [tickerNames]) hBid hw
    · exact hOne (by simp [tickerNames]) hAsk hw
    · exact hOne (by simp [tickerNames]) hFunding hw
  · -- each name has a part of the writes
    simp only [tickerNames, List.mem_cons, Prod.mk.injEq, List.not_mem_nil, or_false] at hName
    rcases hName with ⟨rfl, rfl⟩ | ⟨rfl, rfl⟩ | ⟨rfl, rfl⟩ | ⟨rfl, rfl⟩ | ⟨rfl, rfl⟩ | ⟨rfl, rfl⟩
    · exact ⟨last, fun w hw => by simp [hw], hLast⟩
    · exact ⟨mark, fun w hw => by simp [hw], hMark⟩
    · exact ⟨index, fun w hw => by simp [hw], hIndex⟩
    · exact ⟨bid, fun w hw => by simp [hw], hBid⟩
    · exact ⟨ask, fun w hw => by simp [hw], hAsk⟩
    · exact ⟨funding, fun w hw => by simp [hw], hFunding⟩

omit [Unicode] [RustDecimal] in
/-- The rate is taken from one of its two names. -/
theorem rateField_ok {data member : Value} {name : Text}
    (h : rateField data = .ok (name, member)) :
    (Field.fundingRate, name) ∈ fundingNames ∧ data.get name = some member := by
  unfold rateField at h
  split at h
  · next rate hRate =>
    obtain ⟨rfl, rfl⟩ := Prod.mk.inj (Except.ok.inj h)
    exact ⟨.head _, hRate⟩
  · split at h
    · next rate hRate =>
      obtain ⟨rfl, rfl⟩ := Prod.mk.inj (Except.ok.inj h)
      exact ⟨.tail _ (.head _), hRate⟩
    · cases h

/-- Inversion of `parseFunding`. -/
theorem parseFunding_ok {value : Value} {originalJson : Text} {r : Reading}
    (h : parseFunding value originalJson = .ok r) :
    ∃ u outerSymbol data observedAtMs, r = .held u ∧
      value.get "symbol".toList = some (.string outerSymbol) ∧
      value.get "data".toList = some data ∧ checkedPayloadSymbol data outerSymbol = .ok u.symbol ∧
      requiredU64 value "ts".toList = .ok observedAtMs ∧
      DataCarries fundingNames data observedAtMs originalJson u := by
  unfold parseFunding at h
  obtain ⟨outerSymbol, hOuter, h⟩ := bind_eq_ok.mp h
  obtain ⟨data, hData, h⟩ := bind_eq_ok.mp h
  obtain ⟨symbol, hSymbol, h⟩ := bind_eq_ok.mp h
  obtain ⟨observedAtMs, hTime, h⟩ := bind_eq_ok.mp h
  obtain ⟨⟨name, member⟩, hRate, h⟩ := bind_eq_ok.mp h
  obtain ⟨funding, hFunding, h⟩ := bind_eq_ok.mp h
  obtain ⟨nextFundingTime, -, h⟩ := bind_eq_ok.mp h
  obtain rfl := Except.ok.inj h
  refine ⟨_, outerSymbol, data, observedAtMs, rfl, requiredString_eq hOuter,
    requiredObject_eq hData, hSymbol, hTime, rfl, fun w hw => ?_⟩
  obtain rfl := List.mem_singleton.mp hw
  -- the one write is the rate, under the name it has in this frame
  obtain ⟨hName, hMember⟩ := rateField_ok hRate
  obtain ⟨hText, hAt⟩ := observation_ok hFunding
  exact ⟨name, member, funding, hName, rfl, hMember, hText, hAt⟩

/-- The member each part of a candle is read from. -/
def candleNames : List (CandlePart × Text) :=
  [(.openPrice, "o".toList), (.high, "h".toList), (.low, "l".toList), (.close, "c".toList),
    (.quoteVolume, "a".toList), (.contractVolume, "q".toList)]

omit [Unicode] [RustDecimal] in
theorem required_number {data : Value} {name : Text} {member : Value} {n : Number}
    (hMember : requiredValue data name = .ok member) (hNumber : data.get name = some (.number n)) :
    member = .number n := by
  unfold requiredValue at hMember
  rw [hNumber] at hMember
  exact (Except.ok.inj hMember).symm

omit [Unicode] in
/-- A volume that is a number is there. -/
theorem optionalDecimal_number {data : Value} {name originalJson : Text} {n : Number}
    {volume : Option DecimalValue} (h : optionalDecimal data name originalJson = .ok volume)
    (hNumber : data.get name = some (.number n)) :
    ∃ decimal, MexcSession.decimal (.number n) name originalJson = .ok decimal ∧
      volume = some decimal := by
  unfold optionalDecimal at h
  rw [hNumber] at h
  obtain ⟨decimal, hDecimal, hVolume⟩ := map_eq_ok.mp h
  exact ⟨decimal, hDecimal, hVolume.symm⟩

/-- The numbers in the data of a candle are its decimals. -/
def CandleCarries (data : Value) (originalJson : Text) (c : Candle) : Prop :=
  ∀ part name n, (part, name) ∈ candleNames → data.get name = some (.number n) →
    ∃ decimal, MexcSession.decimal (.number n) name originalJson = .ok decimal ∧
      c.get part = some decimal

/-- Inversion of `parseCandle`: the symbol and the values of an accepted candle. -/
theorem parseCandle_ok {value : Value} {originalJson : Text} {r : Reading}
    (h : parseCandle value originalJson = .ok r) :
    ∃ c outerSymbol data, r = .candles [c] ∧
      value.get "symbol".toList = some (.string outerSymbol) ∧
      value.get "data".toList = some data ∧
      checkedPayloadSymbol data outerSymbol = .ok c.symbol ∧
      CandleCarries data originalJson c.candle := by
  unfold parseCandle at h
  obtain ⟨outerSymbol, hOuter, h⟩ := bind_eq_ok.mp h
  obtain ⟨data, hData, h⟩ := bind_eq_ok.mp h
  obtain ⟨symbol, hSymbol, h⟩ := bind_eq_ok.mp h
  obtain ⟨interval, -, h⟩ := bind_eq_ok.mp h
  dsimp only at h
  split at h
  · cases h
  · obtain ⟨start, -, h⟩ := bind_eq_ok.mp h
    split at h
    · cases h
    · split at h
      · cases h
      · -- the start and the end can be shown; then the decimals
        obtain ⟨exchangeTimeMs, -, h⟩ := bind_eq_ok.mp h
        obtain ⟨openValue, hOpenValue, h⟩ := bind_eq_ok.mp h
        obtain ⟨openPrice, hOpen, h⟩ := bind_eq_ok.mp h
        obtain ⟨highValue, hHighValue, h⟩ := bind_eq_ok.mp h
        obtain ⟨high, hHigh, h⟩ := bind_eq_ok.mp h
        obtain ⟨lowValue, hLowValue, h⟩ := bind_eq_ok.mp h
        obtain ⟨low, hLow, h⟩ := bind_eq_ok.mp h
        obtain ⟨closeValue, hCloseValue, h⟩ := bind_eq_ok.mp h
        obtain ⟨close, hClose, h⟩ := bind_eq_ok.mp h
        obtain ⟨quoteVolume, hQuote, h⟩ := bind_eq_ok.mp h
        obtain ⟨contractVolume, hContract, h⟩ := bind_eq_ok.mp h
        obtain rfl := Except.ok.inj h
        refine ⟨_, outerSymbol, data, rfl, requiredString_eq hOuter, requiredObject_eq hData,
          hSymbol, ?_⟩
        -- the volumes may be missing, the prices may not
        intro part name n hName hNumber
        simp only [candleNames, List.mem_cons, Prod.mk.injEq, List.not_mem_nil, or_false] at hName
        rcases hName with ⟨rfl, rfl⟩ | ⟨rfl, rfl⟩ | ⟨rfl, rfl⟩ | ⟨rfl, rfl⟩ | ⟨rfl, rfl⟩ |
          ⟨rfl, rfl⟩
        · exact ⟨openPrice, required_number hOpenValue hNumber ▸ hOpen, rfl⟩
        · exact ⟨high, required_number hHighValue hNumber ▸ hHigh, rfl⟩
        · exact ⟨low, required_number hLowValue hNumber ▸ hLow, rfl⟩
        · exact ⟨close, required_number hCloseValue hNumber ▸ hClose, rfl⟩
        · exact optionalDecimal_number hQuote hNumber
        · exact optionalDecimal_number hContract hNumber

/-- The channel of a frame, with the handler it picks. -/
inductive Handles (value : Value) (originalJson : Text) (r : Reading) : Prop where
  | ticker (channel : value.get "channel".toList = some (.string "push.ticker".toList))
      (parsed : parseTicker value originalJson = .ok r)
  | funding (channel : value.get "channel".toList = some (.string "push.funding.rate".toList))
      (parsed : parseFunding value originalJson = .ok r)
  | candle (channel : value.get "channel".toList = some (.string "push.kline".toList))
      (parsed : parseCandle value originalJson = .ok r)

/-- How the market-data half of `parse` reads a frame. -/
theorem reading_cases (value : Value) (text : Text) :
    reading value text = .ignored ∨ (∃ error, reading value text = .refused error) ∨
    Handles value text (reading value text) := by
  unfold reading
  rcases Reading.ofExcept_cases
      (do parseChannel (← requiredString value "channel".toList) value text)
    with hRefused | ⟨r, hOk, hr⟩
  · exact .inr (.inl hRefused)
  · rw [hr]
    obtain ⟨channel, hChannel, hParse⟩ := bind_eq_ok.mp hOk
    -- the channel names the handler
    have hMember := requiredString_eq hChannel
    unfold parseChannel at hParse
    split at hParse
    · next hTicker => exact .inr (.inr (.ticker (hTicker ▸ hMember) hParse))
    · split at hParse
      · next hFunding => exact .inr (.inr (.funding (hFunding ▸ hMember) hParse))
      · split at hParse
        · next hCandle => exact .inr (.inr (.candle (hCandle ▸ hMember) hParse))
        · exact .inl (Except.ok.inj hParse).symm

end Handlers

end MexcSession

end MarketStreamGateway
