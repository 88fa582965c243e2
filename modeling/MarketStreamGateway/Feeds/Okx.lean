import MarketStreamGateway.Providers.Okx
import MarketStreamGateway.Feeds.Reading

/-!
# Market Stream Gateway — OKX market data

The market-data handlers of `providers/okx.rs`. A frame names a channel and an
instrument and carries a list of items; each handler stores an item before it
looks at the next.
-/

namespace MarketStreamGateway

open Lib

namespace OkxSession

/-- A missing member and one that is no object are refused in the same words. -/
def requiredObject (value : Value) (field : Text) : Except AdapterError Value :=
  match value.get field with
  | some object =>
    if object.isObject then .ok object
    else .error (invalid (field ++ " must be an object".toList))
  | none => .error (invalid (field ++ " must be an object".toList))

/-- OKX sends numbers as strings; an empty one is refused. -/
def requiredScalar (value : Value) (field : Text) : Except AdapterError Text :=
  match value.asStr.filter (!·.isEmpty) with
  | some text => .ok text
  | none => .error (invalid (field ++ " must be a non-empty string".toList))

def requiredString (value : Value) (field : Text) : Except AdapterError Text :=
  match ((value.get field).bind Value.asStr).filter (!·.isEmpty) with
  | some text => .ok text
  | none => .error (invalid (field ++ " must be a non-empty string".toList))

/-- A time in milliseconds, sent as a string. -/
def parseTimestamp (value : Value) (field : Text) : Except AdapterError Nat := do
  let text ← requiredScalar value field
  match Text.parseU64 text with
  | some time => .ok time
  | none => .error (invalid (field ++ " must be an unsigned integer".toList))

def requiredTimestamp (value : Value) (field : Text) : Except AdapterError Nat :=
  match value.get field with
  | some value => parseTimestamp value field
  | none => .error (invalid ("missing ".toList ++ field))

/-- Absent, null and empty are one; a time that is there must parse. -/
def optionalTimestamp (value : Value) (field : Text) : Except AdapterError (Option Nat) :=
  match value.get field with
  | none | some .null | some (.string []) => .ok none
  | some value => (parseTimestamp value field).map some

section Decimals

variable [RustDecimal]

/-- Only the decimal can be at fault here, and its error is shown without a field. -/
def newObservation (value : Text) (observedAtMs : Nat) : Except AdapterError ObservedDecimal :=
  (ObservedDecimal.new value observedAtMs).mapError fun error => invalid error.display

/-- A value that must be there, under the time of its item. -/
def requiredObservation (value : Value) (field : Text) (observedAtMs : Nat) :
    Except AdapterError ObservedDecimal :=
  match value.get field with
  | none => .error (invalid ("missing ".toList ++ field))
  | some value => do
    let text ← requiredScalar value field
    newObservation text observedAtMs

/-- Absent, null and empty are one. -/
def optionalObservation (value : Value) (field : Text) (observedAtMs : Nat) :
    Except AdapterError (Option ObservedDecimal) :=
  match value.get field with
  | none | some .null | some (.string []) => .ok none
  | some value => do
    let text ← requiredScalar value field
    (newObservation text observedAtMs).map some

/-- A candle value, of a cell of the row. -/
def decimal (value : Value) (field : Text) : Except AdapterError DecimalValue := do
  let text ← requiredScalar value field
  (DecimalValue.new text).mapError fun error => invalid error.display

/-- The volumes of a candle may be null or empty. -/
def optionalDecimalValue (value : Value) (field : Text) :
    Except AdapterError (Option DecimalValue) :=
  if value.isNull ∨ value.asStr = some [] then .ok none
  else (decimal value field).map some

/-- The symbol and the time of an item. -/
def parseItemIdentity (item : Value) (expectedSymbol : Text) :
    Except AdapterError (Text × Nat) := do
  let symbol ← requiredString item "instId".toList
  if symbol ≠ expectedSymbol then
    throw (invalid ("payload symbol ".toList ++ symbol ++
      " does not match topic symbol ".toList ++ expectedSymbol))
  -- the instrument type may be left out, but not be another
  match (item.get "instType".toList).bind Value.asStr with
  | some instrumentType =>
    if instrumentType ≠ "SWAP".toList then
      throw (invalid ("expected SWAP instrument, got ".toList ++ instrumentType))
  | none => pure ()
  let observedAtMs ← requiredTimestamp item "ts".toList
  return (symbol, observedAtMs)

/-! ## Items -/

/-- Only what is there is written: OKX updates never clear a field. -/
def present (target : Field) (value : Option ObservedDecimal) :
    List (Field × Option ObservedDecimal) :=
  match value with
  | some observed => [(target, some observed)]
  | none => []

/-- One round of `parse_tickers`. -/
def tickerItem (expectedSymbol : Text) (item : Value) : Except AdapterError Update := do
  if !item.isObject then
    throw (invalid "ticker item must be an object".toList)
  let (symbol, observedAtMs) ← parseItemIdentity item expectedSymbol
  let last ← optionalObservation item "last".toList observedAtMs
  let bid ← optionalObservation item "bidPx".toList observedAtMs
  let ask ← optionalObservation item "askPx".toList observedAtMs
  -- an item with no price at all is refused
  if last.isNone ∧ bid.isNone ∧ ask.isNone then
    throw (invalid "ticker item contains no usable price".toList)
  return {
    symbol := symbol
    observedAtMs := observedAtMs
    writes := present .last last ++ present .bid bid ++ present .ask ask }

/-- One round of `parse_mark_prices`. -/
def markPriceItem (expectedSymbol : Text) (item : Value) : Except AdapterError Update := do
  if !item.isObject then
    throw (invalid "mark-price item must be an object".toList)
  let (symbol, observedAtMs) ← parseItemIdentity item expectedSymbol
  let mark ← requiredObservation item "markPx".toList observedAtMs
  return { symbol := symbol, observedAtMs := observedAtMs, writes := [(.mark, some mark)] }

/-- One round of `parse_funding_rates`. Both time stamps have to be readable,
whichever is used. -/
def fundingRateItem (expectedSymbol : Text) (item : Value) : Except AdapterError Update := do
  if !item.isObject then
    throw (invalid "funding-rate item must be an object".toList)
  let (symbol, observedAtMs) ← parseItemIdentity item expectedSymbol
  let fundingRate ← requiredObservation item "fundingRate".toList observedAtMs
  let fundingTime ← optionalTimestamp item "fundingTime".toList
  let nextFundingTime ← optionalTimestamp item "nextFundingTime".toList
  return {
    symbol := symbol
    observedAtMs := observedAtMs
    writes := [(.fundingRate, some fundingRate)]
    nextFundingTimeMs := some (fundingTime.orElse fun _ => nextFundingTime) }

/-- OKX says itself which candles are final. -/
def candleFinality (value : Text) : Except AdapterError CandleFinality :=
  if value = "0".toList then .ok .open
  else if value = "1".toList then .ok .closed
  else .error (invalid ("invalid candle confirmation: ".toList ++ value))

/-- One round of `parse_candles`. -/
def candleItem (symbol : Text) (item : Value) : Except AdapterError CandleUpdate :=
  match item.asArray with
  | none => .error (invalid "candle item must be an array".toList)
  | some [start, openPrice, high, low, close, contracts, base, quote, confirm] => do
    let startTimeMs ← parseTimestamp start "candle start time".toList
    if u64Max < startTimeMs + 60000 then
      throw (invalid "candle end time overflow".toList)
    let finality ← candleFinality (← requiredScalar confirm "candle confirmation".toList)
    let openPrice ← decimal openPrice "candle open".toList
    let high ← decimal high "candle high".toList
    let low ← decimal low "candle low".toList
    let close ← decimal close "candle close".toList
    let contractVolume ← optionalDecimalValue contracts "contract volume".toList
    let baseVolume ← optionalDecimalValue base "base volume".toList
    let quoteVolume ← optionalDecimalValue quote "quote volume".toList
    return {
      symbol := symbol
      exchangeTimeMs := some startTimeMs
      candle := {
        interval := "1m".toList
        startTimeMs := startTimeMs
        endTimeMs := startTimeMs + 60000
        openPrice, high, low, close, baseVolume, quoteVolume, contractVolume, finality
        dataQuality := [] } }
  | some values => .error (invalid ("candle item must contain 9 fields, got ".toList ++
      Text.ofNat values.length))

/-- `parse_data_message`: the channel picks the handler. -/
def parseDataMessage (value : Value) : Except AdapterError Reading := do
  let argument ← requiredObject value "arg".toList
  let channel ← requiredString argument "channel".toList
  let symbol ← requiredString argument "instId".toList
  (validateOkxSymbol symbol).mapError invalid
  match (value.get "data".toList).bind Value.asArray with
  | none => .error (invalid "data must be an array".toList)
  -- an empty array is accepted on every channel, the unknown ones included
  | some [] => .ok (.each [])
  | some data =>
    if channel = "tickers".toList then .ok (.each (data.map (tickerItem symbol)))
    else if channel = "mark-price".toList then .ok (.each (data.map (markPriceItem symbol)))
    else if channel = "funding-rate".toList then .ok (.each (data.map (fundingRateItem symbol)))
    else if channel = "candle1m".toList then
      (data.mapM (candleItem symbol)).map .candles
    else .ok .ignored

/-- The market-data half of `parse`. -/
def reading (value : Value) : Reading := .ofExcept (parseDataMessage value)

/-! ## Accepted frames -/

omit [RustDecimal] in
/-- What the readers of a member return is what stands in the document. -/
theorem requiredString_eq {value : Value} {field text : Text}
    (h : requiredString value field = .ok text) : value.get field = some (.string text) := by
  unfold requiredString at h
  split at h
  · next found hFound =>
    obtain rfl := Except.ok.inj h
    obtain ⟨member, hMember, hText⟩ :=
      Option.bind_eq_some_iff.mp (Option.eq_some_of_filter_eq_some hFound)
    rw [hMember, Value.asStr_eq_some hText]
  · cases h

omit [RustDecimal] in
theorem requiredScalar_eq {value : Value} {field text : Text}
    (h : requiredScalar value field = .ok text) : value = .string text := by
  unfold requiredScalar at h
  split at h
  · next found hFound =>
    obtain rfl := Except.ok.inj h
    exact Value.asStr_eq_some (Option.eq_some_of_filter_eq_some hFound)
  · cases h

omit [RustDecimal] in
/-- A time is read from a string, digit by digit. -/
theorem parseTimestamp_eq {value : Value} {field : Text} {time : Nat}
    (h : parseTimestamp value field = .ok time) :
    ∃ text, value = .string text ∧ Text.parseU64 text = some time := by
  unfold parseTimestamp at h
  obtain ⟨text, hText, h⟩ := bind_eq_ok.mp h
  split at h
  · next found hFound =>
    obtain rfl := Except.ok.inj h
    exact ⟨text, requiredScalar_eq hText, hFound⟩
  · cases h

theorem newObservation_eq {value : Text} {observedAtMs : Nat} {observed : ObservedDecimal}
    (h : newObservation value observedAtMs = .ok observed) :
    observed = ⟨⟨value⟩, observedAtMs⟩ := observed_eq (mapError_eq_ok.mp h)

/-- A value is observed as it is written. -/
theorem requiredObservation_eq {value : Value} {field : Text} {observedAtMs : Nat}
    {observed : ObservedDecimal} (h : requiredObservation value field observedAtMs = .ok observed) :
    value.get field = some (.string observed.value.text) ∧
      observed.observedAtMs = observedAtMs := by
  unfold requiredObservation at h
  split at h
  · cases h
  · next member hMember =>
    obtain ⟨text, hText, h⟩ := bind_eq_ok.mp h
    rw [hMember, requiredScalar_eq hText, newObservation_eq h]
    exact ⟨rfl, rfl⟩

/-- The same of a value that may be missing. -/
theorem optionalObservation_eq {value : Value} {field : Text} {observedAtMs : Nat}
    {observed : ObservedDecimal}
    (h : optionalObservation value field observedAtMs = .ok (some observed)) :
    value.get field = some (.string observed.value.text) ∧
      observed.observedAtMs = observedAtMs := by
  unfold optionalObservation at h
  split at h
  · cases Except.ok.inj h
  · cases Except.ok.inj h
  · cases Except.ok.inj h
  · next member _ _ hMember =>
    obtain ⟨text, hText, h⟩ := bind_eq_ok.mp h
    obtain ⟨made, hMade, hSome⟩ := map_eq_ok.mp h
    rw [hMember, requiredScalar_eq hText, ← Option.some.inj hSome, newObservation_eq hMade]
    exact ⟨rfl, rfl⟩

omit [RustDecimal] in
/-- An item of a frame belongs to the instrument of the frame. -/
theorem parseItemIdentity_ok {item : Value} {expectedSymbol symbol : Text} {observedAtMs : Nat}
    (h : parseItemIdentity item expectedSymbol = .ok (symbol, observedAtMs)) :
    symbol = expectedSymbol ∧ item.get "instId".toList = some (.string symbol) ∧
      ∃ text, item.get "ts".toList = some (.string text) ∧
        Text.parseU64 text = some observedAtMs := by
  unfold parseItemIdentity at h
  obtain ⟨found, hFound, h⟩ := bind_eq_ok.mp h
  dsimp only at h
  split at h
  · cases h
  · next hSame =>
    -- an instrument type is checked if it is there; the time is read either way
    have hTail : ∀ {rest : Except AdapterError (Text × Nat)},
        rest = (do
          let observedAtMs ← requiredTimestamp item "ts".toList
          return (found, observedAtMs)) → rest = .ok (symbol, observedAtMs) →
        symbol = expectedSymbol ∧ item.get "instId".toList = some (.string symbol) ∧
          ∃ text, item.get "ts".toList = some (.string text) ∧
            Text.parseU64 text = some observedAtMs := by
      intro rest hRest hOk
      rw [hRest] at hOk
      obtain ⟨time, hTime, hOk⟩ := bind_eq_ok.mp hOk
      obtain ⟨rfl, rfl⟩ := Prod.mk.inj (Except.ok.inj hOk)
      refine ⟨not_not.mp hSame, requiredString_eq hFound, ?_⟩
      unfold requiredTimestamp at hTime
      split at hTime
      · next member hMember =>
        obtain ⟨text, rfl, hText⟩ := parseTimestamp_eq hTime
        exact ⟨text, hMember, hText⟩
      · cases hTime
    split at h
    · split at h
      · cases h
      · exact hTail rfl h
    · exact hTail rfl h

/-- What an item of a ticker channel has to carry for its update: the symbol, the
time, and each decimal under the channel's name of it. -/
structure ItemCarries (names : List (Field × Text)) (expectedSymbol : Text) (item : Value)
    (u : Update) : Prop where
  symbol : u.symbol = expectedSymbol
  instId : item.get "instId".toList = some (.string u.symbol)
  writes : ∀ w ∈ u.writes, ∃ name text observed, (w.1, name) ∈ names ∧ w.2 = some observed ∧
    item.get name = some (.string observed.value.text) ∧
    item.get "ts".toList = some (.string text) ∧ Text.parseU64 text = some observed.observedAtMs

/-- The member each field is read from, channel by channel. -/
def tickerNames : List (Field × Text) :=
  [(.last, "last".toList), (.bid, "bidPx".toList), (.ask, "askPx".toList)]

def markPriceNames : List (Field × Text) := [(.mark, "markPx".toList)]

def fundingRateNames : List (Field × Text) := [(.fundingRate, "fundingRate".toList)]

omit [RustDecimal] in
/-- What is written was observed. -/
theorem present_mem {target : Field} {value : Option ObservedDecimal}
    {w : Field × Option ObservedDecimal} (h : w ∈ present target value) :
    ∃ observed, value = some observed ∧ w = (target, some observed) := by
  unfold present at h
  split at h
  · next observed => exact ⟨observed, rfl, List.mem_singleton.mp h⟩
  · cases h

/-- An accepted item of the ticker channel writes only what its members say. -/
theorem tickerItem_ok {expectedSymbol : Text} {item : Value} {u : Update}
    (h : tickerItem expectedSymbol item = .ok u) :
    ItemCarries tickerNames expectedSymbol item u := by
  unfold tickerItem at h
  split at h
  · cases h
  · obtain ⟨⟨symbol, observedAtMs⟩, hIdentity, h⟩ := bind_eq_ok.mp h
    obtain ⟨last, hLast, h⟩ := bind_eq_ok.mp h
    obtain ⟨bid, hBid, h⟩ := bind_eq_ok.mp h
    obtain ⟨ask, hAsk, h⟩ := bind_eq_ok.mp h
    split at h
    · cases h
    · obtain rfl := Except.ok.inj h
      obtain ⟨hSymbol, hInst, time, hTs, hTime⟩ := parseItemIdentity_ok hIdentity
      refine ⟨hSymbol, hInst, fun w hw => ?_⟩
      -- a field writes what its own member says, if that is there
      have hOne : ∀ {target : Field} {name : Text} {value : Option ObservedDecimal},
          (target, name) ∈ tickerNames → optionalObservation item name observedAtMs = .ok value →
          w ∈ present target value → ∃ name text observed, (w.1, name) ∈ tickerNames ∧
            w.2 = some observed ∧ item.get name = some (.string observed.value.text) ∧
            item.get "ts".toList = some (.string text) ∧
            Text.parseU64 text = some observed.observedAtMs := by
        intro target name value hName hValue hMem
        obtain ⟨observed, rfl, rfl⟩ := present_mem hMem
        obtain ⟨hText, hAt⟩ := optionalObservation_eq hValue
        exact ⟨name, time, observed, hName, rfl, hText, hTs, hAt ▸ hTime⟩
      simp only [List.mem_append] at hw
      rcases hw with (hw | hw) | hw
      · exact hOne (.head _) hLast hw
      · exact hOne (.tail _ (.head _)) hBid hw
      · exact hOne (.tail _ (.tail _ (.head _))) hAsk hw

/-- The same of the mark-price channel. -/
theorem markPriceItem_ok {expectedSymbol : Text} {item : Value} {u : Update}
    (h : markPriceItem expectedSymbol item = .ok u) :
    ItemCarries markPriceNames expectedSymbol item u := by
  unfold markPriceItem at h
  split at h
  · cases h
  · obtain ⟨⟨symbol, observedAtMs⟩, hIdentity, h⟩ := bind_eq_ok.mp h
    obtain ⟨mark, hMark, h⟩ := bind_eq_ok.mp h
    obtain rfl := Except.ok.inj h
    obtain ⟨hSymbol, hInst, time, hTs, hTime⟩ := parseItemIdentity_ok hIdentity
    obtain ⟨hText, hAt⟩ := requiredObservation_eq hMark
    refine ⟨hSymbol, hInst, fun w hw => ?_⟩
    obtain rfl := List.mem_singleton.mp hw
    exact ⟨_, time, mark, .head _, rfl, hText, hTs, hAt ▸ hTime⟩

/-- The same of the funding-rate channel; the funding times are not among the writes. -/
theorem fundingRateItem_ok {expectedSymbol : Text} {item : Value} {u : Update}
    (h : fundingRateItem expectedSymbol item = .ok u) :
    ItemCarries fundingRateNames expectedSymbol item u := by
  unfold fundingRateItem at h
  split at h
  · cases h
  · obtain ⟨⟨symbol, observedAtMs⟩, hIdentity, h⟩ := bind_eq_ok.mp h
    obtain ⟨funding, hFunding, h⟩ := bind_eq_ok.mp h
    obtain ⟨fundingTime, -, h⟩ := bind_eq_ok.mp h
    obtain ⟨nextFundingTime, -, h⟩ := bind_eq_ok.mp h
    obtain rfl := Except.ok.inj h
    obtain ⟨hSymbol, hInst, time, hTs, hTime⟩ := parseItemIdentity_ok hIdentity
    obtain ⟨hText, hAt⟩ := requiredObservation_eq hFunding
    refine ⟨hSymbol, hInst, fun w hw => ?_⟩
    obtain rfl := List.mem_singleton.mp hw
    exact ⟨_, time, funding, .head _, rfl, hText, hTs, hAt ▸ hTime⟩

/-- Candle rows name no symbol; they are filed under the one of the topic. -/
theorem candleItem_symbol {symbol : Text} {item : Value} {c : CandleUpdate}
    (h : candleItem symbol item = .ok c) : c.symbol = symbol := by
  unfold candleItem at h
  split at h
  · cases h
  · -- the fields are checked one by one; none changes the symbol
    obtain ⟨startTimeMs, -, h⟩ := bind_eq_ok.mp h
    split at h
    · cases h
    · obtain ⟨confirm, -, h⟩ := bind_eq_ok.mp h
      obtain ⟨finality, -, h⟩ := bind_eq_ok.mp h
      obtain ⟨openPrice, -, h⟩ := bind_eq_ok.mp h
      obtain ⟨high, -, h⟩ := bind_eq_ok.mp h
      obtain ⟨low, -, h⟩ := bind_eq_ok.mp h
      obtain ⟨close, -, h⟩ := bind_eq_ok.mp h
      obtain ⟨contractVolume, -, h⟩ := bind_eq_ok.mp h
      obtain ⟨baseVolume, -, h⟩ := bind_eq_ok.mp h
      obtain ⟨quoteVolume, -, h⟩ := bind_eq_ok.mp h
      rw [← Except.ok.inj h]
  · cases h

omit [RustDecimal] in
/-- An object that is required is a member of the document. -/
theorem requiredObject_eq {value object : Value} {field : Text}
    (h : requiredObject value field = .ok object) : value.get field = some object := by
  unfold requiredObject at h
  split at h
  · next found hFound =>
    split at h
    · rw [hFound, Except.ok.inj h]
    · cases h
  · cases h

/-- The channel of a frame, with what its handler makes of the items. -/
inductive Handles (channel symbol : Text) (data : List Value) (r : Reading) : Prop where
  | empty (read : r = .each [])
  | tickers (name : channel = "tickers".toList) (read : r = .each (data.map (tickerItem symbol)))
  | markPrices (name : channel = "mark-price".toList)
      (read : r = .each (data.map (markPriceItem symbol)))
  | fundingRates (name : channel = "funding-rate".toList)
      (read : r = .each (data.map (fundingRateItem symbol)))
  | candles (items : List CandleUpdate) (name : channel = "candle1m".toList)
      (parsed : data.mapM (candleItem symbol) = .ok items) (read : r = .candles items)
  | ignored (read : r = .ignored)

/-- Inversion of `parseDataMessage`: the topic of an accepted frame, and the
channel that handles its items. -/
theorem parseDataMessage_ok {value : Value} {r : Reading} (h : parseDataMessage value = .ok r) :
    ∃ argument channel symbol data, value.get "arg".toList = some argument ∧
      argument.get "channel".toList = some (.string channel) ∧
      argument.get "instId".toList = some (.string symbol) ∧
      validateOkxSymbol symbol = .ok () ∧ (value.get "data".toList).bind Value.asArray = some data ∧
      Handles channel symbol data r := by
  unfold parseDataMessage at h
  obtain ⟨argument, hArgument, h⟩ := bind_eq_ok.mp h
  obtain ⟨channel, hChannel, h⟩ := bind_eq_ok.mp h
  obtain ⟨symbol, hSymbol, h⟩ := bind_eq_ok.mp h
  obtain ⟨⟨⟩, hValid, h⟩ := bind_eq_ok.mp h
  -- what the branches share: the argument, the symbol and the data
  have hHandles : ∀ {data : List Value}, (value.get "data".toList).bind Value.asArray = some data →
      Handles channel symbol data r → ∃ argument channel symbol data,
        value.get "arg".toList = some argument ∧
        argument.get "channel".toList = some (.string channel) ∧
        argument.get "instId".toList = some (.string symbol) ∧ validateOkxSymbol symbol = .ok () ∧
        (value.get "data".toList).bind Value.asArray = some data ∧ Handles channel symbol data r :=
    fun hData hHandles => ⟨argument, channel, symbol, _, requiredObject_eq hArgument,
      requiredString_eq hChannel, requiredString_eq hSymbol, mapError_eq_ok.mp hValid, hData,
      hHandles⟩
  split at h
  · cases h
  · next hData => exact hHandles hData (.empty (Except.ok.inj h).symm)
  · next data _ hData =>
    refine hHandles hData ?_
    split at h
    · next hName => exact .tickers hName (Except.ok.inj h).symm
    · split at h
      · next hName => exact .markPrices hName (Except.ok.inj h).symm
      · split at h
        · next hName => exact .fundingRates hName (Except.ok.inj h).symm
        · split at h
          · next hName =>
            obtain ⟨items, hItems, hRead⟩ := map_eq_ok.mp h
            exact .candles items hName hItems hRead.symm
          · exact .ignored (Except.ok.inj h).symm

/-- How the market-data half of `parse` reads a frame. -/
theorem reading_cases (value : Value) :
    (∃ error, reading value = .refused error) ∨ parseDataMessage value = .ok (reading value) := by
  unfold reading
  rcases Reading.ofExcept_cases (parseDataMessage value) with hRefused | ⟨r, hOk, hr⟩
  · exact .inl hRefused
  · exact .inr (by rw [hr, hOk])

end Decimals

end OkxSession

end MarketStreamGateway
