import MarketStreamGateway.Feeds.Session

/-!
# Market Stream Gateway — where the fields of a ticker come from

A ticker event shows what several frames have told of a symbol. `TickerFeed`
lists the feeds of the six venues that carry decimals of a ticker, with the name
each gives to each field, and with where it puts the symbol and the time;
`Carries` says that a frame carries a value of a field. Main results:

* `update_carried` — an update writes what its own frame carries.
* `ticker_provenance` — every field of a ticker event was carried by one frame of
  its connection, for its symbol, and was not touched since.
* `ticker_provenance_fails` — the event of one item can show a field that a later
  item of the same frame is yet to write.
-/

namespace MarketStreamGateway

open Lib

/-! ## Feeds -/

/-- The member of a document, if it is a string. -/
def textMember (name : Text) (document : Value) : Option Text :=
  (document.get name).bind Value.asStr

/-- The feeds that carry decimals of a ticker. -/
inductive TickerFeed where
  | bybitTickers
  | binanceTicker | binanceMarkPrice
  | okxTickers | okxMarkPrice | okxFundingRate
  | kucoinTickerV2 | kucoinExecution | kucoinMarkIndex | kucoinFunding
  | mexcTicker | mexcFunding
  | bingxTicker | bingxMarkPrice | bingxBookTicker
  deriving DecidableEq, Repr

namespace TickerFeed

/-- The venue that sends a kind of frame. -/
def provider : TickerFeed → Provider
  | bybitTickers => .bybit
  | binanceTicker | binanceMarkPrice => .binance
  | okxTickers | okxMarkPrice | okxFundingRate => .okx
  | kucoinTickerV2 | kucoinExecution | kucoinMarkIndex | kucoinFunding => .kucoin
  | mexcTicker | mexcFunding => .mexc
  | bingxTicker | bingxMarkPrice | bingxBookTicker => .bingx

/-- What a venue calls the fields of a ticker. -/
def names : TickerFeed → List (Field × Text)
  | bybitTickers => [(.last, "lastPrice".toList), (.mark, "markPrice".toList),
      (.index, "indexPrice".toList), (.bid, "bid1Price".toList), (.ask, "ask1Price".toList),
      (.fundingRate, "fundingRate".toList)]
  | binanceTicker => [(.last, "c".toList), (.bid, "b".toList), (.ask, "a".toList)]
  | binanceMarkPrice => [(.mark, "p".toList), (.index, "i".toList), (.fundingRate, "r".toList)]
  | okxTickers => [(.last, "last".toList), (.bid, "bidPx".toList), (.ask, "askPx".toList)]
  | okxMarkPrice => [(.mark, "markPx".toList)]
  | okxFundingRate => [(.fundingRate, "fundingRate".toList)]
  | kucoinTickerV2 => [(.bid, "bestBidPrice".toList), (.ask, "bestAskPrice".toList)]
  | kucoinExecution => [(.last, "price".toList)]
  | kucoinMarkIndex => [(.mark, "markPrice".toList), (.index, "indexPrice".toList)]
  | kucoinFunding => [(.fundingRate, "fundingRate".toList)]
  | mexcTicker => [(.last, "lastPrice".toList), (.mark, "fairPrice".toList),
      (.index, "indexPrice".toList), (.bid, "bid1".toList), (.ask, "ask1".toList),
      (.fundingRate, "fundingRate".toList)]
  | mexcFunding => [(.fundingRate, "rate".toList), (.fundingRate, "fundingRate".toList)]
  | bingxTicker => [(.last, "c".toList)]
  | bingxMarkPrice => [(.mark, "p".toList)]
  | bingxBookTicker => [(.bid, "b".toList), (.ask, "a".toList)]

/-- The payload of a Binance frame, which may come in a stream envelope. -/
def binancePayload (frame : Value) : Option Value :=
  match frame.get "stream".toList with
  | none => some frame
  | some _ => frame.get "data".toList

/-- A frame belongs to the feed, by its topic, its channel or its event type. -/
def sends (frame : Value) : TickerFeed → Bool
  | bybitTickers => (textMember "topic".toList frame).any ("tickers.".toList.isPrefixOf ·)
  | binanceTicker =>
    (binancePayload frame).bind (textMember "e".toList) = some "24hrTicker".toList
  | binanceMarkPrice =>
    (binancePayload frame).bind (textMember "e".toList) = some "markPriceUpdate".toList
  | okxTickers =>
    (frame.get "arg".toList).bind (textMember "channel".toList) = some "tickers".toList
  | okxMarkPrice =>
    (frame.get "arg".toList).bind (textMember "channel".toList) = some "mark-price".toList
  | okxFundingRate =>
    (frame.get "arg".toList).bind (textMember "channel".toList) = some "funding-rate".toList
  | kucoinTickerV2 =>
    (textMember "topic".toList frame).any ("/contractMarket/tickerV2:".toList.isPrefixOf ·)
  | kucoinExecution =>
    (textMember "topic".toList frame).any ("/contractMarket/execution:".toList.isPrefixOf ·)
  | kucoinMarkIndex => textMember "subject".toList frame = some "mark.index.price".toList
  | kucoinFunding => textMember "subject".toList frame = some "funding.rate".toList
  | mexcTicker => textMember "channel".toList frame = some "push.ticker".toList
  | mexcFunding => textMember "channel".toList frame = some "push.funding.rate".toList
  | bingxTicker => (textMember "dataType".toList frame).any ("@ticker".toList.isSuffixOf ·)
  | bingxMarkPrice => (textMember "dataType".toList frame).any ("@markPrice".toList.isSuffixOf ·)
  | bingxBookTicker =>
    (textMember "dataType".toList frame).any ("@bookTicker".toList.isSuffixOf ·)

/-- The documents of a frame that hold the decimals. -/
def items (frame : Value) : TickerFeed → List Value
  | bybitTickers => ((frame.get "data".toList).map BybitSession.itemsOf).getD []
  | binanceTicker | binanceMarkPrice => (binancePayload frame).toList
  | okxTickers | okxMarkPrice | okxFundingRate =>
    ((frame.get "data".toList).bind Value.asArray).getD []
  | _ => (frame.get "data".toList).toList

/-- The member of an item. Two venues' items are read by a derived decoder, which
takes an array for a struct too. -/
def member (item : Value) (name : Text) : TickerFeed → Option Value
  | bybitTickers => (item.members BybitTickerData.layout).bind (· name)
  | bingxTicker => (item.members BingxTickerData.layout).bind (· name)
  | bingxMarkPrice => (item.members BingxMarkPriceData.layout).bind (· name)
  | bingxBookTicker => (item.members BingxBookTickerData.layout).bind (· name)
  | _ => item.get name

/-- The symbol an item is for, as the venue spells it. -/
def spelling (frame item : Value) (feed : TickerFeed) : Option Text :=
  match feed with
  | bybitTickers | kucoinTickerV2 | kucoinExecution | mexcTicker | mexcFunding =>
    (feed.member item "symbol".toList).bind Value.asStr
  | okxTickers | okxMarkPrice | okxFundingRate =>
    (feed.member item "instId".toList).bind Value.asStr
  | kucoinMarkIndex | kucoinFunding =>
    (textMember "topic".toList frame).bind (Text.stripPrefix "/contract/instrument:".toList)
  | binanceTicker | binanceMarkPrice | bingxTicker | bingxMarkPrice | bingxBookTicker =>
    (feed.member item "s".toList).bind Value.asStr

/-- The symbol an item is for. Two venues' symbols are taken as they come. -/
def symbolOf [Unicode] (frame item : Value) (feed : TickerFeed) : Option Text :=
  match feed.provider with
  | .okx | .kucoin => feed.spelling frame item
  | _ => (feed.spelling frame item).bind fun symbol => (normalizeSymbol symbol).toOption

/-- The time BingX gives an item: that of the event, or else the transaction's. -/
def bingxTime (feed : TickerFeed) (item : Value) : Option Nat :=
  ((feed.member item "E".toList).bind Value.asU64).orElse fun _ =>
    (feed.member item "T".toList).bind Value.asU64

/-- The time of an item, in milliseconds. -/
def time (frame item : Value) (receivedAtMs : Nat) (feed : TickerFeed) : Option Nat :=
  match feed with
  | bybitTickers => (frame.get "ts".toList).bind Value.asU64
  | binanceTicker | binanceMarkPrice => (feed.member item "E".toList).bind Value.asU64
  | okxTickers | okxMarkPrice | okxFundingRate =>
    ((feed.member item "ts".toList).bind Value.asStr).bind Text.parseU64
  | kucoinTickerV2 | kucoinExecution => (feed.member item "ts".toList).bind fun time =>
      (KucoinSession.parseU64 time "ts".toList).toOption.map (· / 1000000)
  | kucoinMarkIndex | kucoinFunding => (feed.member item "timestamp".toList).bind fun time =>
      (KucoinSession.parseU64 time "timestamp".toList).toOption
  | mexcTicker => (MexcSession.requiredU64 item "timestamp".toList).toOption
  | mexcFunding => (MexcSession.requiredU64 frame "ts".toList).toOption
  | bingxTicker => some ((feed.bingxTime item).getD receivedAtMs)
  | bingxMarkPrice => feed.bingxTime item
  | bingxBookTicker => (feed.member item "T".toList).bind Value.asU64

/-- An item of a frame of the feed has the text of a decimal under its name of the
field, for the symbol and at the time. -/
structure ItemCarries [Unicode] (feed : TickerFeed) (frame item : Value) (receivedAtMs : Nat)
    (symbol : Text) (field : Field) (observed : ObservedDecimal) : Prop where
  sent : feed.sends frame = true
  mem : item ∈ feed.items frame
  symbol : feed.symbolOf frame item = some symbol
  value : ∃ name, (field, name) ∈ feed.names ∧
    feed.member item name = some (.string observed.value.text)
  time : feed.time frame item receivedAtMs = some observed.observedAtMs

end TickerFeed

/-- A frame carries an observation of a field of a symbol. -/
def Carries [Unicode] (provider : Provider) (frame : Value) (receivedAtMs : Nat) (symbol : Text)
    (field : Field) (observed : ObservedDecimal) : Prop :=
  ∃ feed item, TickerFeed.provider feed = provider ∧
    feed.ItemCarries frame item receivedAtMs symbol field observed

/-- The member is a JSON number. -/
def isNumber : Value → Bool
  | .number _ => true
  | _ => false

/-- No decimal of a ticker is sent as a number. -/
def StringDecimals (provider : Provider) (frame : Value) : Prop :=
  ∀ feed : TickerFeed, feed.provider = provider → feed.sends frame = true →
    ∀ item ∈ feed.items frame, ∀ w ∈ feed.names, (feed.member item w.2).any isNumber = false

/-! ## What the updates of a frame write -/

/-- The values an update writes are carried by the frame, for its symbol. -/
def Update.CarriedBy [Unicode] (u : Update) (provider : Provider) (frame : Value)
    (receivedAtMs : Nat) : Prop :=
  ∀ field observed, (field, some observed) ∈ u.writes →
    Carries provider frame receivedAtMs u.symbol field observed

/-- What succeeds is there as an option. -/
theorem toOption_eq_some {ε α : Type} {x : Except ε α} {a : α} (h : x = .ok a) :
    x.toOption = some a := by
  rw [h]
  rfl

theorem textMember_eq_some {name text : Text} {document : Value} :
    textMember name document = some text ↔ document.get name = some (.string text) := by
  constructor
  · intro h
    obtain ⟨member, hMember, hText⟩ := Option.bind_eq_some_iff.mp h
    rw [hMember, Value.asStr_eq_some hText]
  · intro h
    rw [textMember, h]
    rfl

/-- Three venues send the decimals of a frame in one document. -/
theorem TickerFeed.mem_items {feed : TickerFeed} {frame data : Value}
    (hFeed : feed.provider = .kucoin ∨ feed.provider = .mexc ∨ feed.provider = .bingx)
    (hData : frame.get "data".toList = some data) : data ∈ feed.items frame := by
  have hItems : feed.items frame = (frame.get "data".toList).toList := by
    cases feed <;> first | rfl | (rcases hFeed with h | h | h <;> cases h)
  rw [hItems, hData]
  exact List.mem_singleton_self _

section Venues

variable [Unicode] [RustDecimal]

/-! ### Bybit -/

namespace BybitSession

omit [Unicode] [RustDecimal] in
/-- The members of an item, by the venue's names. -/
theorem item_members {raw : Value} {data : BybitTickerData}
    (h : BybitTickerData.decode raw = some data) :
    (TickerFeed.bybitTickers.member raw "symbol".toList) = some (.string data.symbol) ∧
    ∀ field text, data.get field = some text →
      ∃ name, (field, name) ∈ TickerFeed.bybitTickers.names ∧
        TickerFeed.bybitTickers.member raw name = some (.string text) := by
  unfold BybitTickerData.decode at h
  obtain ⟨member, hMember, h⟩ := Option.bind_eq_some_iff.mp h
  obtain ⟨symbol, hSymbol, h⟩ := Option.bind_eq_some_iff.mp h
  obtain ⟨last, hLast, h⟩ := Option.bind_eq_some_iff.mp h
  obtain ⟨mark, hMark, h⟩ := Option.bind_eq_some_iff.mp h
  obtain ⟨index, hIndex, h⟩ := Option.bind_eq_some_iff.mp h
  obtain ⟨bid, hBid, h⟩ := Option.bind_eq_some_iff.mp h
  obtain ⟨ask, hAsk, h⟩ := Option.bind_eq_some_iff.mp h
  obtain ⟨funding, hFunding, h⟩ := Option.bind_eq_some_iff.mp h
  obtain ⟨nextFundingTime, -, h⟩ := Option.bind_eq_some_iff.mp h
  obtain rfl := Option.some.inj h
  have hAt : ∀ name, TickerFeed.bybitTickers.member raw name = member name := by
    intro name
    rw [TickerFeed.member, hMember, Option.bind_some]
  -- a field that has a text has it from its member
  have hOne : ∀ {name text : Text}, Value.optional Value.asStr (member name) = some (some text) →
      TickerFeed.bybitTickers.member raw name = some (.string text) := by
    intro name text hText
    rw [hAt, Value.optional_asStr hText]
  refine ⟨(hAt _).trans (Value.required_asStr hSymbol), fun field text hText => ?_⟩
  cases field with
  | last => exact ⟨_, .head _, hOne (hText ▸ hLast)⟩
  | mark => exact ⟨_, .tail _ (.head _), hOne (hText ▸ hMark)⟩
  | index => exact ⟨_, .tail _ (.tail _ (.head _)), hOne (hText ▸ hIndex)⟩
  | bid => exact ⟨_, .tail _ (.tail _ (.tail _ (.head _))), hOne (hText ▸ hBid)⟩
  | ask => exact ⟨_, .tail _ (.tail _ (.tail _ (.tail _ (.head _)))), hOne (hText ▸ hAsk)⟩
  | fundingRate =>
    exact ⟨_, .tail _ (.tail _ (.tail _ (.tail _ (.tail _ (.head _))))), hOne (hText ▸ hFunding)⟩

/-- What an update of a Bybit frame writes stands in the frame. -/
theorem update_carried [Serde] {value : Value} (hObject : value.isObject = true) {u : Update}
    (hu : u ∈ (reading value).updates) (receivedAtMs : Nat) :
    u.CarriedBy .bybit value receivedAtMs := by
  rcases reading_cases value with h | ⟨error, h⟩ | h | h
  · rw [h] at hu
    cases hu
  · rw [h] at hu
    cases hu
  · obtain ⟨envelope, topicSymbol, snapshot, items, updates, hEnvelope, hTopic, -, hItems, hUpdates,
      hr⟩ := parseTickers_ok h
    rw [hr] at hu
    obtain ⟨data, hData, hItem⟩ := mem_of_mapM_eq_ok hUpdates hu
    -- the update comes from one of the items
    obtain ⟨raw, hRaw, hDecode⟩ := oneOrMany_mem hItems hData
    obtain ⟨hNormal, -, hUpdate⟩ := tickerItem_ok hItem
    obtain ⟨hTopicMember, hTs, hDataMember⟩ := envelope_members hObject hEnvelope
    obtain ⟨hSymbol, hNames⟩ := item_members hDecode
    intro field observed hw
    obtain ⟨text, hText, hObserved⟩ := (tickerUpdate_mem hUpdate).2 _ hw
    obtain rfl := Option.some.inj hObserved
    refine ⟨.bybitTickers, raw, rfl, ?_, ?_, ?_, hNames field text hText, hTs⟩
    · rw [TickerFeed.sends, textMember_eq_some.mpr hTopicMember, Option.any_some]
      unfold tickerTopicSymbol at hTopic
      split at hTopic
      · next symbol hPrefix =>
        rw [Text.stripPrefix_eq_some.mp hPrefix]
        exact List.isPrefixOf_iff_prefix.mpr (List.prefix_append _ _)
      · cases hTopic
    · rw [TickerFeed.items, hDataMember]
      exact hRaw
    · rw [TickerFeed.symbolOf, TickerFeed.spelling, hSymbol]
      exact toOption_eq_some hNormal
  · -- klines leave no update
    obtain ⟨envelope, symbol, candles, -, -, hr, -⟩ := parseKlines_ok h
    rw [hr] at hu
    cases hu

end BybitSession

/-! ### Binance -/

namespace BinanceSession

omit [Unicode] [RustDecimal] in
/-- The payload that a Binance frame unwraps to is the one the feeds look at. -/
theorem binancePayload_ok {frame data : Value} {streamName : Option Text}
    (h : payload frame = .ok (data, streamName)) :
    TickerFeed.binancePayload frame = some data := by
  unfold payload at h
  cases hStream : frame.get "stream".toList with
  | none =>
    rw [hStream] at h
    obtain ⟨rfl, -⟩ := Prod.mk.inj (Except.ok.inj h)
    rw [TickerFeed.binancePayload, hStream]
  | some stream =>
    rw [hStream] at h
    rw [TickerFeed.binancePayload, hStream]
    dsimp only at h ⊢
    -- a frame with a stream has its payload under the data
    cases hMember : frame.get "data".toList with
    | none =>
      rw [hMember] at h
      split at h <;> cases h
    | some member =>
      rw [hMember] at h
      split at h
      · cases h
      · rw [(Prod.mk.inj (Except.ok.inj h)).1]

omit [RustDecimal] in
/-- What the decimals of a payload have in common. -/
theorem carries_of_payload {frame data : Value} {streamName : Option Text} {feed : TickerFeed}
    {symbol spelling name : Text} {eventTime receivedAtMs : Nat} {field : Field}
    {observed : ObservedDecimal} (hFeed : feed = .binanceTicker ∨ feed = .binanceMarkPrice)
    (hPayload : payload frame = .ok (data, streamName)) (hSent : feed.sends frame = true)
    (hSpelling : data.get "s".toList = some (.string spelling))
    (hNormal : normalizeSymbol spelling = .ok symbol)
    (hTime : (data.get "E".toList).bind Value.asU64 = some eventTime)
    (hName : (field, name) ∈ feed.names)
    (hText : data.get name = some (.string observed.value.text))
    (hAt : observed.observedAtMs = eventTime) :
    Carries .binance frame receivedAtMs symbol field observed := by
  have hItem := binancePayload_ok hPayload
  subst hAt
  -- the two feeds read the same members
  rcases hFeed with rfl | rfl
  all_goals
    refine ⟨_, data, rfl, hSent, ?_, ?_, ⟨name, hName, hText⟩, hTime⟩
    · rw [TickerFeed.items, hItem]
      exact List.mem_singleton_self _
    · simp only [TickerFeed.symbolOf, TickerFeed.provider, TickerFeed.spelling, TickerFeed.member,
        hSpelling, Option.bind_some, Value.asStr]
      exact toOption_eq_some hNormal

theorem update_carried [Serde] {value : Value} {u : Update} (hu : u ∈ (reading value).updates)
    (receivedAtMs : Nat) : u.CarriedBy .binance value receivedAtMs := by
  rcases reading_cases value with h | ⟨error, h⟩ | ⟨data, streamName, hPayload, hHandles⟩
  · rw [h] at hu
    cases hu
  · rw [h] at hu
    cases hu
  · -- the event type that chose the handler is the feed's
    have hType : ∀ {eventType : Text}, data.get "e".toList = some (.string eventType) →
        (TickerFeed.binancePayload value).bind (textMember "e".toList) = some eventType := by
      intro eventType hMember
      rw [binancePayload_ok hPayload, Option.bind_some, textMember_eq_some.mpr hMember]
    cases hHandles with
    | ticker hEvent hParsed =>
      obtain ⟨ticker, v, last, bid, ask, hr, hDecode, hNormal, -, hLast, hBid, hAsk, hWrites⟩ :=
        parseTicker_ok hParsed
      rw [hr] at hu
      obtain rfl := List.mem_singleton.mp hu
      obtain ⟨hSymbol, hTime, hLastText, hBidText, hAskText⟩ :=
        ticker_members (Value.isObject_of_get hEvent) hDecode
      have hSent : TickerFeed.binanceTicker.sends value = true := decide_eq_true (hType hEvent)
      intro field observed hw
      rw [hWrites] at hw
      simp only [List.mem_cons, Prod.mk.injEq, List.not_mem_nil, or_false] at hw
      -- the last price, and the bid and the ask if they are there
      rcases hw with ⟨rfl, hValue⟩ | ⟨rfl, hValue⟩ | ⟨rfl, hValue⟩
      · obtain rfl := Option.some.inj hValue
        obtain rfl := observation_eq _ hLast
        exact carries_of_payload (.inl rfl) hPayload hSent hSymbol hNormal hTime (.head _)
          hLastText rfl
      · obtain ⟨hText, hAt⟩ := optionalObservation_eq (hValue ▸ hBid)
        exact carries_of_payload (.inl rfl) hPayload hSent hSymbol hNormal hTime
          (.tail _ (.head _)) (hBidText _ hText) hAt
      · obtain ⟨hText, hAt⟩ := optionalObservation_eq (hValue ▸ hAsk)
        exact carries_of_payload (.inl rfl) hPayload hSent hSymbol hNormal hTime
          (.tail _ (.tail _ (.head _))) (hAskText _ hText) hAt
    | markPrice hEvent hParsed =>
      obtain ⟨price, v, mark, index, funding, hr, hDecode, hNormal, -, hMark, hIndex, hFunding,
        hWrites⟩ := parseMarkPrice_ok hParsed
      rw [hr] at hu
      obtain rfl := List.mem_singleton.mp hu
      obtain ⟨hSymbol, hTime, hMarkText, hIndexText, hFundingText⟩ :=
        markPrice_members (Value.isObject_of_get hEvent) hDecode
      have hSent : TickerFeed.binanceMarkPrice.sends value = true := decide_eq_true (hType hEvent)
      intro field observed hw
      rw [hWrites] at hw
      simp only [List.mem_cons, Prod.mk.injEq, List.not_mem_nil, or_false, Option.some.injEq] at hw
      -- the mark price, the index price and the funding rate
      rcases hw with ⟨rfl, rfl⟩ | ⟨rfl, rfl⟩ | ⟨rfl, rfl⟩
      · obtain rfl := observation_eq _ hMark
        exact carries_of_payload (.inr rfl) hPayload hSent hSymbol hNormal hTime (.head _)
          hMarkText rfl
      · obtain rfl := observation_eq _ hIndex
        exact carries_of_payload (.inr rfl) hPayload hSent hSymbol hNormal hTime
          (.tail _ (.head _)) hIndexText rfl
      · obtain rfl := observation_eq _ hFunding
        exact carries_of_payload (.inr rfl) hPayload hSent hSymbol hNormal hTime
          (.tail _ (.tail _ (.head _))) hFundingText rfl
    | kline hEvent hParsed =>
      obtain ⟨envelope, c, hr, -⟩ := parseKline_ok hParsed
      rw [hr] at hu
      cases hu

end BinanceSession

/-! ### OKX -/

namespace OkxSession

omit [Unicode] [RustDecimal] in
/-- An OKX frame sends what its channel is called. -/
theorem sends_of_channel {value argument : Value} {channel name : Text}
    (hArgument : value.get "arg".toList = some argument)
    (hChannel : argument.get "channel".toList = some (.string channel)) (hName : channel = name) :
    (value.get "arg".toList).bind (textMember "channel".toList) = some name := by
  rw [hArgument, Option.bind_some, textMember_eq_some.mpr hChannel, hName]

omit [RustDecimal] in
/-- What an item of a feed writes. -/
theorem carries_of_item {value raw : Value} {symbol : Text} {data : List Value} {u : Update}
    {receivedAtMs : Nat} (feed : TickerFeed) (hProvider : feed.provider = .okx)
    (hSends : feed.sends value = true)
    (hData : (value.get "data".toList).bind Value.asArray = some data) (hRaw : raw ∈ data)
    (hItem : ItemCarries feed.names symbol raw u) : u.CarriedBy .okx value receivedAtMs := by
  intro field observed hw
  -- the field, its text and its time stand in one item
  obtain ⟨name, text, made, hName, hMade, hText, hTs, hTime⟩ := hItem.writes _ hw
  obtain rfl := Option.some.inj hMade
  cases feed with
  | okxTickers | okxMarkPrice | okxFundingRate =>
    refine ⟨_, raw, rfl, hSends, ?_, ?_, ⟨name, hName, hText⟩, ?_⟩
    · rw [TickerFeed.items, hData]
      exact hRaw
    · simp only [TickerFeed.symbolOf, TickerFeed.provider, TickerFeed.spelling, TickerFeed.member,
        hItem.instId, Option.bind_some, Value.asStr]
    · simp only [TickerFeed.time, TickerFeed.member, hTs, Option.bind_some, Value.asStr]
      exact hTime
  | _ => cases hProvider

theorem update_carried {value : Value} {u : Update} (hu : u ∈ (reading value).updates)
    (receivedAtMs : Nat) : u.CarriedBy .okx value receivedAtMs := by
  rcases reading_cases value with ⟨error, h⟩ | h
  · rw [h] at hu
    cases hu
  · obtain ⟨argument, channel, symbol, data, hArgument, hChannel, -, -, hData, hHandles⟩ :=
      parseDataMessage_ok h
    cases hHandles with
    | empty hr | ignored hr | candles items hName hItems hr =>
      rw [hr] at hu
      cases hu
    | tickers hName hr =>
      rw [hr] at hu
      obtain ⟨raw, hRaw, hOk⟩ := List.mem_map.mp (Reading.mem_accepted hu)
      exact carries_of_item .okxTickers rfl
        (decide_eq_true (sends_of_channel hArgument hChannel hName)) hData hRaw (tickerItem_ok hOk)
    | markPrices hName hr =>
      rw [hr] at hu
      obtain ⟨raw, hRaw, hOk⟩ := List.mem_map.mp (Reading.mem_accepted hu)
      exact carries_of_item .okxMarkPrice rfl
        (decide_eq_true (sends_of_channel hArgument hChannel hName)) hData hRaw
        (markPriceItem_ok hOk)
    | fundingRates hName hr =>
      rw [hr] at hu
      obtain ⟨raw, hRaw, hOk⟩ := List.mem_map.mp (Reading.mem_accepted hu)
      exact carries_of_item .okxFundingRate rfl
        (decide_eq_true (sends_of_channel hArgument hChannel hName)) hData hRaw
        (fundingRateItem_ok hOk)

end OkxSession

/-! ### KuCoin -/

namespace KucoinSession

omit [Unicode] [RustDecimal] in
/-- A decimal of KuCoin that is not a number is the string itself. -/
theorem decimalString_string {member : Value} {field text : Text} {originalJson : Option Text}
    (hString : isNumber member = false) (h : decimalString member field originalJson = .ok text) :
    member = .string text := by
  unfold decimalString at h
  split at h
  · rw [Except.ok.inj h]
  · cases hString
  · cases h

omit [RustDecimal] in
/-- What a frame of a feed writes. -/
theorem carries_of_data {value data : Value} {names : List (Field × Text)} {observedAtMs : Nat}
    {originalJson : Option Text} {u : Update} {receivedAtMs : Nat} (feed : TickerFeed)
    (hProvider : feed.provider = .kucoin) (hStrings : StringDecimals .kucoin value)
    (hSent : feed.sends value = true) (hData : value.get "data".toList = some data)
    (hSymbol : feed.symbolOf value data = some u.symbol)
    (hTime : feed.time value data receivedAtMs = some observedAtMs) (hNames : names = feed.names)
    (hCarries : DataCarries names data observedAtMs originalJson u) :
    u.CarriedBy .kucoin value receivedAtMs := by
  intro field observed hw
  obtain ⟨name, member, made, hName, hMade, hMember, hText, hAt⟩ := hCarries.2 _ hw
  obtain rfl := Option.some.inj hMade
  subst hAt
  have hItem : data ∈ feed.items value := TickerFeed.mem_items (.inl hProvider) hData
  have hAt : feed.member data name = some member := by
    cases feed with
    | kucoinTickerV2 | kucoinExecution | kucoinMarkIndex | kucoinFunding => exact hMember
    | _ => cases hProvider
  rw [hNames] at hName
  -- the member is a string, so its text is not searched for
  have hString := hStrings feed hProvider hSent data hItem _ hName
  rw [hAt, Option.any_some] at hString
  refine ⟨feed, data, hProvider, hSent, hItem, hSymbol, ⟨name, hName, ?_⟩, hTime⟩
  rw [hAt, decimalString_string hString hText]

omit [RustDecimal] in
/-- An order-book or execution frame. -/
theorem carried_of_identity {value data : Value} {front : Text} {names : List (Field × Text)}
    {observedAtMs : Nat} {originalJson : Option Text} {u : Update} {receivedAtMs : Nat}
    (feed : TickerFeed) (hFeed : feed = .kucoinTickerV2 ∨ feed = .kucoinExecution)
    (hStrings : StringDecimals .kucoin value)
    (hIdentity : tickerIdentity value front = .ok (data, u.symbol, observedAtMs))
    (hSent : ∀ topic, value.get "topic".toList = some (.string topic) →
      front.isPrefixOf topic = true → feed.sends value = true) (hNames : names = feed.names)
    (hCarries : DataCarries names data observedAtMs originalJson u) :
    u.CarriedBy .kucoin value receivedAtMs := by
  obtain ⟨topic, time, hTopic, hData, hSymbol, -, hValid, hTs, hTime⟩ := tickerIdentity_ok hIdentity
  obtain ⟨symbols, hSymbols, -⟩ := validateTopicSymbol_ok hValid
  obtain ⟨nanoseconds, hNanoseconds, rfl⟩ := map_eq_ok.mp hTime
  -- the topic starts the way the feed's topics do
  have hSends : feed.sends value = true := by
    refine hSent topic hTopic ?_
    rw [Text.stripPrefix_eq_some.mp hSymbols]
    exact List.isPrefixOf_iff_prefix.mpr (List.prefix_append _ _)
  rcases hFeed with rfl | rfl
  all_goals
    refine carries_of_data _ rfl hStrings hSends hData ?_ ?_ hNames hCarries
    · simp only [TickerFeed.symbolOf, TickerFeed.provider, TickerFeed.spelling, TickerFeed.member,
        hSymbol, Option.bind_some, Value.asStr]
    · simp only [TickerFeed.time, TickerFeed.member, hTs, Option.bind_some]
      rw [toOption_eq_some hNanoseconds, Option.map_some]

omit [RustDecimal] in
/-- A frame of an instrument. -/
theorem carried_of_instrument {value data : Value} {topic : Text} {names : List (Field × Text)}
    {observedAtMs : Nat} {originalJson : Option Text} {u : Update} {receivedAtMs : Nat}
    (feed : TickerFeed) (hFeed : feed = .kucoinMarkIndex ∨ feed = .kucoinFunding)
    (hStrings : StringDecimals .kucoin value)
    (hTopic : value.get "topic".toList = some (.string topic))
    (hFrame : InstrumentFrame value topic u.symbol data observedAtMs)
    (hSent : feed.sends value = true) (hNames : names = feed.names)
    (hCarries : DataCarries names data observedAtMs originalJson u) :
    u.CarriedBy .kucoin value receivedAtMs := by
  obtain ⟨hSymbol, hData, time, hTimestamp, hTime⟩ := hFrame
  -- the symbol comes from the topic, the time from the data
  rcases hFeed with rfl | rfl
  all_goals
    refine carries_of_data _ rfl hStrings hSent hData ?_ ?_ hNames hCarries
    · simp only [TickerFeed.symbolOf, TickerFeed.provider, TickerFeed.spelling]
      rw [textMember_eq_some.mpr hTopic]
      exact (instrumentTopicSymbol_ok hSymbol).1
    · simp only [TickerFeed.time, TickerFeed.member, hTimestamp, Option.bind_some]
      exact toOption_eq_some hTime

theorem update_carried {value : Value} {text : Text} {u : Update}
    (hStrings : StringDecimals .kucoin value) (hu : u ∈ (reading value text).updates)
    (receivedAtMs : Nat) : u.CarriedBy .kucoin value receivedAtMs := by
  unfold reading at hu
  rcases Reading.ofExcept_cases (parseMarketMessage value text) with ⟨error, h⟩ | ⟨r, hOk, hr⟩
  · rw [h] at hu
    cases hu
  · rw [hr] at hu
    unfold parseMarketMessage at hOk
    obtain ⟨topic, hTopic, hParse⟩ := bind_eq_ok.mp hOk
    have hMember := requiredString_eq hTopic
    -- a topic with the front of a feed makes the frame one of the feed
    have hPrefixed : ∀ {front : Text}, ∀ found, value.get "topic".toList = some (.string found) →
        front.isPrefixOf found = true →
        (textMember "topic".toList value).any (front.isPrefixOf ·) = true := by
      intro front found hFound hFront
      rw [textMember_eq_some.mpr hFound, Option.any_some]
      exact hFront
    dsimp only at hParse
    split at hParse
    · obtain ⟨v, sequence, data, observedAtMs, rfl, hIdentity, hCarries⟩ := parseTickerV2_ok hParse
      obtain rfl := List.mem_singleton.mp hu
      exact carried_of_identity .kucoinTickerV2 (.inl rfl) hStrings hIdentity hPrefixed rfl hCarries
    · split at hParse
      · obtain ⟨v, sequence, data, observedAtMs, rfl, hIdentity, hCarries⟩ :=
          parseExecution_ok hParse
        obtain rfl := List.mem_singleton.mp hu
        exact carried_of_identity .kucoinExecution (.inr rfl) hStrings hIdentity hPrefixed rfl
          hCarries
      · split at hParse
        · next hSubject =>
          obtain ⟨v, data, observedAtMs, rfl, hFrame, hCarries⟩ := parseMarkIndex_ok hParse
          obtain rfl := List.mem_singleton.mp hu
          exact carried_of_instrument .kucoinMarkIndex (.inl rfl) hStrings hMember hFrame
            (decide_eq_true hSubject) rfl hCarries
        · split at hParse
          · next hSubject =>
            obtain ⟨v, data, observedAtMs, rfl, hFrame, hCarries⟩ := parseFunding_ok hParse
            obtain rfl := List.mem_singleton.mp hu
            exact carried_of_instrument .kucoinFunding (.inr rfl) hStrings hMember hFrame
              (decide_eq_true hSubject) rfl hCarries
          · split at hParse
            · obtain ⟨c, candleTopic, data, rfl, -⟩ := parseCandle_ok hParse
              cases hu
            · obtain rfl := Except.ok.inj hParse
              cases hu

end KucoinSession

/-! ### MEXC -/

namespace MexcSession

omit [Unicode] [RustDecimal] in
theorem decimalString_string {member : Value} {field originalJson text : Text}
    (hString : isNumber member = false) (h : decimalString member field originalJson = .ok text) :
    member = .string text := by
  unfold decimalString at h
  split at h
  · rw [Except.ok.inj h]
  · cases hString
  · cases h

omit [RustDecimal] in
/-- What a frame of a feed writes. -/
theorem carries_of_data {value data : Value} {outerSymbol originalJson : Text}
    {names : List (Field × Text)} {observedAtMs receivedAtMs : Nat} {u : Update} (feed : TickerFeed)
    (hFeed : feed = .mexcTicker ∨ feed = .mexcFunding) (hStrings : StringDecimals .mexc value)
    (hSent : feed.sends value = true) (hData : value.get "data".toList = some data)
    (hSymbol : checkedPayloadSymbol data outerSymbol = .ok u.symbol)
    (hTime : feed.time value data receivedAtMs = some observedAtMs) (hNames : names = feed.names)
    (hCarries : DataCarries names data observedAtMs originalJson u) :
    u.CarriedBy .mexc value receivedAtMs := by
  obtain ⟨-, hMember, hNormal⟩ := checkedPayloadSymbol_ok hSymbol
  intro field observed hw
  obtain ⟨name, member, made, hName, hMade, hAt, hText, hObserved⟩ := hCarries.2 _ hw
  obtain rfl := Option.some.inj hMade
  rw [hNames] at hName
  subst hObserved
  have hProvider : feed.provider = .mexc := by
    rcases hFeed with rfl | rfl <;> rfl
  have hNamed : feed.member data name = some member := by
    rcases hFeed with rfl | rfl <;> exact hAt
  have hItem : data ∈ feed.items value := TickerFeed.mem_items (.inr (.inl hProvider)) hData
  -- the member is a string, so its text is not searched for
  have hString := hStrings feed hProvider hSent data hItem _ hName
  rw [hNamed, Option.any_some] at hString
  refine ⟨feed, data, hProvider, hSent, hItem, ?_, ⟨name, hName, ?_⟩, hTime⟩
  · rcases hFeed with rfl | rfl
    all_goals
      simp only [TickerFeed.symbolOf, TickerFeed.provider, TickerFeed.spelling, TickerFeed.member,
        hMember, Option.bind_some, Value.asStr]
      exact toOption_eq_some hNormal
  · rw [hNamed, decimalString_string hString hText]

theorem update_carried {value : Value} {text : Text} {u : Update}
    (hStrings : StringDecimals .mexc value) (hu : u ∈ (reading value text).updates)
    (receivedAtMs : Nat) : u.CarriedBy .mexc value receivedAtMs := by
  rcases reading_cases value text with h | ⟨error, h⟩ | hHandles
  · rw [h] at hu
    cases hu
  · rw [h] at hu
    cases hu
  · -- a candle leaves no update
    cases hHandles with
    | ticker hChannel hParsed =>
      obtain ⟨v, error, outerSymbol, data, observedAtMs, hr, -, hData, hSymbol, hTime,
        hCarries, -⟩ :=
        parseTicker_ok hParsed
      rw [hr] at hu
      obtain rfl := List.mem_singleton.mp hu
      exact carries_of_data .mexcTicker (.inl rfl) hStrings
        (decide_eq_true (textMember_eq_some.mpr hChannel)) hData hSymbol
        (toOption_eq_some hTime) rfl
        hCarries
    | funding hChannel hParsed =>
      obtain ⟨v, outerSymbol, data, observedAtMs, hr, -, hData, hSymbol, hTime, hCarries⟩ :=
        parseFunding_ok hParsed
      rw [hr] at hu
      obtain rfl := List.mem_singleton.mp hu
      exact carries_of_data .mexcFunding (.inr rfl) hStrings
        (decide_eq_true (textMember_eq_some.mpr hChannel)) hData hSymbol
        (toOption_eq_some hTime) rfl
        hCarries
    | candle hChannel hParsed =>
      obtain ⟨c, outerSymbol, data, hr, -⟩ := parseCandle_ok hParsed
      rw [hr] at hu
      cases hu

end MexcSession

/-! ### BingX -/

namespace BingxSession

omit [Unicode] [RustDecimal] in
/-- The data that an envelope of BingX decodes is the frame's member of that name. -/
theorem envelope_data {α : Type} {decodeData : Value → Option α} {value : Value}
    {envelope : BingxStreamEnvelope α} (hObject : value.isObject = true)
    (h : BingxStreamEnvelope.decode decodeData value = some envelope) :
    ∃ data, value.get "data".toList = some data ∧ decodeData data = some envelope.data := by
  unfold BingxStreamEnvelope.decode at h
  obtain ⟨member, hMember, h⟩ := Option.bind_eq_some_iff.mp h
  obtain ⟨code, -, h⟩ := Option.bind_eq_some_iff.mp h
  obtain ⟨message, -, h⟩ := Option.bind_eq_some_iff.mp h
  obtain ⟨data, hData, h⟩ := Option.bind_eq_some_iff.mp h
  rw [← Option.some.inj h, ← Value.members_of_isObject hObject hMember]
  exact Value.required_eq_some hData

omit [Unicode] [RustDecimal] in
/-- An optional time is the member's number, if it has one. -/
theorem optional_asU64 {member : Option Value} {time : Option Nat}
    (h : Value.optional Value.asU64 member = some time) : member.bind Value.asU64 = time := by
  unfold Value.optional at h
  split at h
  · exact Option.some.inj h
  · exact Option.some.inj h
  · next v _ =>
    obtain ⟨n, hNumber, rfl⟩ := Option.map_eq_some_iff.mp h
    exact hNumber

omit [Unicode] [RustDecimal] in
/-- A ticker of BingX decodes the members that the feed looks at. -/
theorem ticker_members {raw : Value} {data : BingxTickerData}
    (h : BingxTickerData.decode raw = some data) :
    TickerFeed.bingxTicker.member raw "s".toList = some (.string data.symbol) ∧
    TickerFeed.bingxTicker.member raw "c".toList = some (.string data.last) ∧
    TickerFeed.bingxTicker.bingxTime raw = data.eventTime.orElse fun _ => data.timestamp := by
  unfold BingxTickerData.decode at h
  obtain ⟨member, hMember, h⟩ := Option.bind_eq_some_iff.mp h
  obtain ⟨eventTime, hEvent, h⟩ := Option.bind_eq_some_iff.mp h
  obtain ⟨timestamp, hTimestamp, h⟩ := Option.bind_eq_some_iff.mp h
  obtain ⟨symbol, hSymbol, h⟩ := Option.bind_eq_some_iff.mp h
  obtain ⟨last, hLast, h⟩ := Option.bind_eq_some_iff.mp h
  obtain rfl := Option.some.inj h
  have hAt : ∀ name, TickerFeed.bingxTicker.member raw name = member name := by
    intro name
    rw [TickerFeed.member, hMember, Option.bind_some]
  rw [TickerFeed.bingxTime, hAt, hAt, hAt, hAt, optional_asU64 hEvent, optional_asU64 hTimestamp]
  exact ⟨Value.required_asStr hSymbol, Value.required_asStr hLast, rfl⟩

omit [Unicode] [RustDecimal] in
theorem markPrice_members {raw : Value} {data : BingxMarkPriceData}
    (h : BingxMarkPriceData.decode raw = some data) :
    TickerFeed.bingxMarkPrice.member raw "s".toList = some (.string data.symbol) ∧
    TickerFeed.bingxMarkPrice.member raw "p".toList = some (.string data.markPrice) ∧
    TickerFeed.bingxMarkPrice.bingxTime raw = data.eventTime.orElse fun _ => data.timestamp := by
  unfold BingxMarkPriceData.decode at h
  obtain ⟨member, hMember, h⟩ := Option.bind_eq_some_iff.mp h
  obtain ⟨eventTime, hEvent, h⟩ := Option.bind_eq_some_iff.mp h
  obtain ⟨timestamp, hTimestamp, h⟩ := Option.bind_eq_some_iff.mp h
  obtain ⟨symbol, hSymbol, h⟩ := Option.bind_eq_some_iff.mp h
  obtain ⟨mark, hMark, h⟩ := Option.bind_eq_some_iff.mp h
  obtain rfl := Option.some.inj h
  have hAt : ∀ name, TickerFeed.bingxMarkPrice.member raw name = member name := by
    intro name
    rw [TickerFeed.member, hMember, Option.bind_some]
  rw [TickerFeed.bingxTime, hAt, hAt, hAt, hAt, optional_asU64 hEvent, optional_asU64 hTimestamp]
  exact ⟨Value.required_asStr hSymbol, Value.required_asStr hMark, rfl⟩

omit [Unicode] [RustDecimal] in
theorem bookTicker_members {raw : Value} {data : BingxBookTickerData}
    (h : BingxBookTickerData.decode raw = some data) :
    TickerFeed.bingxBookTicker.member raw "s".toList = some (.string data.symbol) ∧
    TickerFeed.bingxBookTicker.member raw "b".toList = some (.string data.bid) ∧
    TickerFeed.bingxBookTicker.member raw "a".toList = some (.string data.ask) ∧
    (TickerFeed.bingxBookTicker.member raw "T".toList).bind Value.asU64 = some data.matchTime := by
  unfold BingxBookTickerData.decode at h
  obtain ⟨member, hMember, h⟩ := Option.bind_eq_some_iff.mp h
  obtain ⟨updateId, -, h⟩ := Option.bind_eq_some_iff.mp h
  obtain ⟨matchTime, hTime, h⟩ := Option.bind_eq_some_iff.mp h
  obtain ⟨symbol, hSymbol, h⟩ := Option.bind_eq_some_iff.mp h
  obtain ⟨bid, hBid, h⟩ := Option.bind_eq_some_iff.mp h
  obtain ⟨ask, hAsk, h⟩ := Option.bind_eq_some_iff.mp h
  obtain rfl := Option.some.inj h
  -- a member is looked up the way the decoded object has it
  have hAt : ∀ name, TickerFeed.bingxBookTicker.member raw name = member name := by
    intro name
    rw [TickerFeed.member, hMember, Option.bind_some]
  rw [hAt, hAt, hAt, hAt]
  exact ⟨Value.required_asStr hSymbol, Value.required_asStr hBid, Value.required_asStr hAsk, hTime⟩

omit [RustDecimal] in
/-- A checked envelope belongs to the feed of its data type's suffix. -/
theorem sends_of_checked {value : Value} {topic suffix payloadSymbol symbol : Text} {code : Int}
    {message : Option Text} (hTopic : value.get "dataType".toList = some (.string topic))
    (h : checkedSymbol code message topic suffix payloadSymbol = .ok symbol) :
    (textMember "dataType".toList value).any (suffix.isSuffixOf ·) = true := by
  have hSuffix := (checkedSymbol_ok h).2
  rw [textMember_eq_some.mpr hTopic, Option.any_some]
  unfold topicSymbol at hSuffix
  split at hSuffix
  · next spelling hSpelling =>
    rw [Text.stripSuffix_eq_some.mp hSpelling]
    exact List.isSuffixOf_iff_suffix.mpr (List.suffix_append _ _)
  · cases hSuffix

omit [RustDecimal] in
/-- The symbol of the data, in normal form. -/
theorem symbolOf_bingx {frame item : Value} {feed : TickerFeed} {payloadSymbol symbol : Text}
    (hProvider : feed.provider = .bingx)
    (hMember : feed.member item "s".toList = some (.string payloadSymbol))
    (hNormal : normalizeSymbol payloadSymbol = .ok symbol) :
    feed.symbolOf frame item = some symbol := by
  have hSpelling : feed.spelling frame item = some payloadSymbol := by
    cases feed with
    | bingxTicker | bingxMarkPrice | bingxBookTicker =>
      rw [TickerFeed.spelling, hMember, Option.bind_some, Value.asStr]
    | _ => cases hProvider
  rw [TickerFeed.symbolOf, hProvider]
  change (feed.spelling frame item).bind _ = _
  rw [hSpelling, Option.bind_some, toOption_eq_some hNormal]

theorem update_carried [Serde] {value : Value} {receivedAtMs : Nat} {u : Update}
    (hu : u ∈ (reading value receivedAtMs).updates) : u.CarriedBy .bingx value receivedAtMs := by
  rcases reading_cases value receivedAtMs with h | ⟨error, h⟩ | ⟨topic, hTopic, hHandles⟩
  · rw [h] at hu
    cases hu
  · rw [h] at hu
    cases hu
  · have hObject := Value.isObject_of_get hTopic
    cases hHandles with
    | ticker hParsed =>
      obtain ⟨envelope, v, last, hr, hDecode, hChecked, hWrites, hText, hAt⟩ :=
        parseTicker_ok hParsed
      rw [hr] at hu
      obtain rfl := List.mem_singleton.mp hu
      obtain ⟨raw, hData, hRaw⟩ := envelope_data hObject hDecode
      obtain ⟨hSymbol, hLast, hTime⟩ := ticker_members hRaw
      intro field observed hw
      rw [hWrites] at hw
      simp only [List.mem_cons, Prod.mk.injEq, List.not_mem_nil, or_false, Option.some.injEq] at hw
      obtain ⟨rfl, rfl⟩ := hw
      refine ⟨.bingxTicker, raw, rfl, sends_of_checked hTopic hChecked,
        TickerFeed.mem_items (.inr (.inr rfl)) hData,
        symbolOf_bingx rfl hSymbol (checkedSymbol_ok hChecked).1, ⟨_, .head _, hText ▸ hLast⟩, ?_⟩
      rw [TickerFeed.time, hTime, hAt]
    | markPrice hParsed =>
      obtain ⟨envelope, v, time, hr, hDecode, hChecked, hAt, hWrites⟩ := parseMarkPrice_ok hParsed
      rw [hr] at hu
      obtain rfl := List.mem_singleton.mp hu
      obtain ⟨raw, hData, hRaw⟩ := envelope_data hObject hDecode
      obtain ⟨hSymbol, hMark, hTime⟩ := markPrice_members hRaw
      intro field observed hw
      rw [hWrites] at hw
      simp only [List.mem_cons, Prod.mk.injEq, List.not_mem_nil, or_false, Option.some.injEq] at hw
      obtain ⟨rfl, rfl⟩ := hw
      exact ⟨.bingxMarkPrice, raw, rfl, sends_of_checked hTopic hChecked,
        TickerFeed.mem_items (.inr (.inr rfl)) hData,
        symbolOf_bingx rfl hSymbol (checkedSymbol_ok hChecked).1, ⟨_, .head _, hMark⟩,
        hTime.trans hAt⟩
    | bookTicker hParsed =>
      obtain ⟨envelope, v, hr, hDecode, hChecked, hWrites⟩ := parseBookTicker_ok hParsed
      rw [hr] at hu
      obtain rfl := List.mem_singleton.mp hu
      obtain ⟨raw, hData, hRaw⟩ := envelope_data hObject hDecode
      obtain ⟨hSymbol, hBid, hAsk, hTime⟩ := bookTicker_members hRaw
      -- the bid and the ask are read alike
      have hOne : ∀ {field : Field} {name text : Text},
          (field, name) ∈ TickerFeed.bingxBookTicker.names →
          TickerFeed.bingxBookTicker.member raw name = some (.string text) →
          Carries .bingx value receivedAtMs u.symbol field ⟨⟨text⟩, envelope.data.matchTime⟩ :=
        fun hName hText => ⟨.bingxBookTicker, raw, rfl, sends_of_checked hTopic hChecked,
          TickerFeed.mem_items (.inr (.inr rfl)) hData,
          symbolOf_bingx rfl hSymbol (checkedSymbol_ok hChecked).1, ⟨_, hName, hText⟩, hTime⟩
      intro field observed hw
      rw [hWrites] at hw
      simp only [List.mem_cons, Prod.mk.injEq, List.not_mem_nil, or_false, Option.some.injEq] at hw
      rcases hw with ⟨rfl, rfl⟩ | ⟨rfl, rfl⟩
      · exact hOne (.head _) hBid
      · exact hOne (.tail _ (.head _)) hAsk
    | kline hParsed =>
      obtain ⟨candles, symbol, hr, -⟩ := parseKline_ok hParsed
      rw [hr] at hu
      cases hu

end BingxSession

end Venues

/-! ## What the calls of a session write -/

section Sessions

variable [Unicode] [JsonText] [RustDecimal] [Serde]

/-- A text received at some time carries an observation. -/
def Received (provider : Provider) (text : Text) (receivedAtMs : Nat) (symbol : Text)
    (field : Field) (observed : ObservedDecimal) : Prop :=
  ∃ frame, JsonText.fromStr text = .ok frame ∧
    Carries provider frame receivedAtMs symbol field observed

/-- Of the calls of a session, one received a frame that carries the observation,
and none after it touched the field. -/
def LastCarried (provider : Provider) (endpoint : EndpointKind) (epoch : Uuid)
    (calls : List SessionCall) (symbol : Text) (field : Field) (observed : ObservedDecimal) :
    Prop :=
  ∃ earlier text receivedAtMs later, calls = earlier ++ .parse text receivedAtMs :: later ∧
    Received provider text receivedAtMs symbol field observed ∧
    Change.Quiet (SessionCall.step provider) (SessionCall.changes provider) symbol field
      (sessionAfter provider endpoint epoch (earlier ++ [.parse text receivedAtMs])) later

/-- A call that receives no frame with a decimal of a ticker sent as a number. -/
def SessionCall.StringDecimals (provider : Provider) : SessionCall → Prop
  | parse text _ => ∀ frame, JsonText.fromStr text = .ok frame →
      MarketStreamGateway.StringDecimals provider frame
  | subscriptionMessages _ _ | heartbeat => True

/-- The values an update of a frame writes are the frame's. -/
theorem update_carried {provider : Provider} {text : Text} {frame : Value} {receivedAtMs : Nat}
    (hJson : JsonText.fromStr text = .ok frame) (hStrings : StringDecimals provider frame)
    {u : Update} (hu : u ∈ (frameReading provider text receivedAtMs).updates) :
    u.CarriedBy provider frame receivedAtMs := by
  unfold frameReading at hu
  cases hValue : marketValue provider text with
  | none =>
    rw [hValue] at hu
    cases hu
  | some found =>
    obtain ⟨hFound, hObject, -⟩ := marketValue_eq_some.mp hValue
    obtain rfl := Except.ok.inj (hFound.symm.trans hJson)
    rw [hValue] at hu
    cases provider with
    | bybit => exact BybitSession.update_carried hObject hu receivedAtMs
    | binance => exact BinanceSession.update_carried hu receivedAtMs
    | okx => exact OkxSession.update_carried hu receivedAtMs
    | kucoin => exact KucoinSession.update_carried hStrings hu receivedAtMs
    | mexc => exact MexcSession.update_carried hStrings hu receivedAtMs
    | bingx => exact BingxSession.update_carried hu

/-- A value that a call writes is one of a frame it received. -/
theorem received_of_change {provider : Provider} {s : (configuredAdapter provider).Session}
    {call : SessionCall} (hStrings : call.StringDecimals provider)
    {c : Change Text Field ObservedDecimal} (hc : c ∈ call.changes provider s) {field : Field}
    {observed : ObservedDecimal} (hWrite : c.write field = some (some observed)) :
    ∃ text receivedAtMs, call = .parse text receivedAtMs ∧
      Received provider text receivedAtMs c.key field observed := by
  cases call with
  | parse text receivedAtMs =>
    refine ⟨text, receivedAtMs, rfl, ?_⟩
    obtain ⟨u, hu, rfl⟩ := List.mem_map.mp hc
    have hUpdate := Reading.applied_subset _ _ hu
    cases hJson : JsonText.fromStr text with
    | error error =>
      -- a text that is no JSON has no updates
      have hNone : marketValue provider text = none := by
        rw [marketValue, hJson]
      rw [frameReading, hNone] at hUpdate
      cases hUpdate
    | ok frame =>
      exact ⟨frame, hJson, update_carried hJson (hStrings frame hJson) hUpdate field observed
        (Update.mem_writes hWrite)⟩
  | subscriptionMessages action subscriptions =>
    cases action with
    | subscribe => cases hc
    | unsubscribe =>
      -- dropping an entry writes nothing
      obtain ⟨key, -, rfl⟩ := List.mem_map.mp hc
      cases hWrite
  | heartbeat => cases hc

/-- The last write of a field is one of a frame. -/
theorem received_of_lastWrite {provider : Provider} {s : (configuredAdapter provider).Session}
    {call : SessionCall} (hStrings : call.StringDecimals provider) {symbol : Text} {field : Field}
    {observed : ObservedDecimal} {changes : List (Change Text Field ObservedDecimal)}
    (hChanges : changes ⊆ call.changes provider s)
    (h : Change.LastWrite symbol field observed changes) :
    ∃ text receivedAtMs, call = .parse text receivedAtMs ∧
      Received provider text receivedAtMs symbol field observed := by
  obtain ⟨c, hc, rfl, hWrite⟩ := h.mem
  exact received_of_change hStrings (hChanges hc) hWrite

/-- **Provenance.** Every field of a ticker event was carried by one frame of the
connection, for the symbol of the event and under the venue's name of the field,
with its time. That frame is the event's own, or an earlier one after which no
call and no item of the event's own frame, up to the event's, touched the field. -/
theorem ticker_provenance (provider : Provider) (endpoint : EndpointKind) (epoch : Uuid)
    (calls : List SessionCall) (text : Text) (receivedAtMs : Nat)
    (hStrings : ∀ call ∈ calls ++ [.parse text receivedAtMs], call.StringDecimals provider)
    {events : List ProviderEvent}
    (hParse : ((configuredAdapter provider).parse (sessionAfter provider endpoint epoch calls) text
      receivedAtMs).1 = .ok (.events events))
    {i : Nat} {event : ProviderEvent} (hEvent : events[i]? = some event) {ticker : Ticker}
    (hTicker : event.payload = .ticker ticker) {field : Field} {observed : ObservedDecimal}
    (hField : ticker.get field = some observed) :
    event.connectionEpoch = epoch ∧
    (Received provider text receivedAtMs event.symbol field observed ∨
      LastCarried provider endpoint epoch calls event.symbol field observed ∧
        Change.Untouched event.symbol field
          (((SessionCall.parse text receivedAtMs).changes provider
            (sessionAfter provider endpoint epoch calls)).take (i + 1))) := by
  refine ⟨(event_cached hParse hEvent hTicker).1.trans (sessionEpoch_after _ _ _ _), ?_⟩
  have hOwn : (SessionCall.parse text receivedAtMs).StringDecimals provider :=
    hStrings _ (List.mem_append_right _ (List.mem_singleton_self _))
  rw [event_ticker hParse hEvent hTicker] at hField
  -- written by the frame itself, or cached before it
  rcases Change.applyAll_eq_some hField with hWrite | ⟨hUntouched, hCached⟩
  · obtain ⟨source, sourceAtMs, hCall, hReceived⟩ :=
      received_of_lastWrite hOwn (List.take_subset _ _) hWrite
    obtain ⟨rfl, rfl⟩ := SessionCall.parse.inj hCall
    exact .inl hReceived
  · let table := fun s => view (sessionTickers provider s)
    have hStep : ∀ s call, table (SessionCall.step provider s call) =
        Change.applyAll (table s) (call.changes provider s) := view_step provider
    -- what is cached was written by an earlier call, the last one to touch it
    rcases Change.run_eq_some hStep hCached with
      ⟨earlier, call, later, rfl, hWrite, hQuiet⟩ | ⟨-, hStart⟩
    · have hCall : call.StringDecimals provider := hStrings call (by simp)
      obtain ⟨source, sourceAtMs, rfl, hReceived⟩ :=
        received_of_lastWrite hCall (List.Subset.refl _) hWrite
      refine .inr ⟨⟨earlier, source, sourceAtMs, later, rfl, hReceived, ?_⟩, hUntouched⟩
      rw [sessionAfter, run_append]
      exact hQuiet
    · have hEmpty : view (sessionTickers provider
          ((configuredAdapter provider).session endpoint epoch)) event.symbol field = none := by
        rw [sessionTickers_session, view_empty]
      cases hEmpty.symm.trans hStart

end Sessions

section Items

/-! A snapshot with a last price, and a frame of two items, of which only the
second has one. -/

/-- An item of the Bybit frame. -/
def splitItem (fields : List (Text × Value)) : Value :=
  .object (("symbol".toList, .string "BTCUSDT".toList) :: fields)

/-- A Bybit frame of tickers. -/
def splitFrame (messageType : Text) (ts : Nat) (data : Value) : Value :=
  .object [("topic".toList, .string "tickers.BTCUSDT".toList),
    ("type".toList, .string messageType), ("ts".toList, .number (.posInt ts)),
    ("cs".toList, .number (.posInt 7)), ("data".toList, data)]

/-- The snapshot, with a last price of 10. -/
def splitSnapshot : Value := splitFrame "snapshot".toList 100
  (splitItem [("lastPrice".toList, .string "10".toList)])

/-- The frame of two items, of which the second has a last price of 12. -/
def splitDelta : Value := splitFrame "delta".toList 200 (.array [
  splitItem [("markPrice".toList, .string "11".toList)],
  splitItem [("lastPrice".toList, .string "12".toList)]])

/-- The calls before the frame of two items. -/
def splitCalls : List SessionCall := [.parse splitSnapshot.display 5]

local instance splitUnicode : Unicode := .ascii
local instance splitJson : JsonText :=
  .table [(splitSnapshot.display, splitSnapshot), (splitDelta.display, splitDelta)]
local instance splitDecimal : RustDecimal := .digits
local instance splitSerde : Serde := .mute

/-- What the session answers to the frame of two items. -/
def splitResult : Except AdapterError ParsedFrame :=
  ((configuredAdapter .bybit).parse (sessionAfter .bybit .primary 0 splitCalls) splitDelta.display
    6).1

/-- The events of the frame of two items. -/
def splitEvents : List ProviderEvent :=
  match splitResult with
  | .ok (.events events) => events
  | _ => []

/-- The text of the snapshot is read as the snapshot. -/
theorem splitSnapshot_json : JsonText.fromStr splitSnapshot.display = .ok splitSnapshot := by
  rfl

/-- The text of the second frame is read as that frame. -/
theorem splitDelta_json : JsonText.fromStr splitDelta.display = .ok splitDelta := by
  rfl

/-- All the decimals of both frames are strings. -/
theorem splitStrings : ∀ call ∈ splitCalls ++ [.parse splitDelta.display 6],
    call.StringDecimals .bybit := by
  have hSnapshot : MarketStreamGateway.StringDecimals .bybit splitSnapshot := by
    intro feed
    cases feed <;> decide
  have hDelta : MarketStreamGateway.StringDecimals .bybit splitDelta := by
    intro feed
    cases feed <;> decide
  intro call hCall
  rcases List.mem_cons.mp hCall with rfl | hCall
  · intro frame hFrame
    exact Except.ok.inj (splitSnapshot_json.symm.trans hFrame) ▸ hSnapshot
  · obtain rfl := List.mem_singleton.mp hCall
    intro frame hFrame
    exact Except.ok.inj (splitDelta_json.symm.trans hFrame) ▸ hDelta

/-- The event of the first item shows the last price of the snapshot. -/
theorem splitEvents_first : ∃ event ticker, splitResult = .ok (.events splitEvents) ∧
    splitEvents[0]? = some event ∧ event.symbol = "BTCUSDT".toList ∧
    event.payload = .ticker ticker ∧ ticker.get .last = some ⟨⟨"10".toList⟩, 100⟩ := by
  refine ⟨_, _, rfl, rfl, rfl, rfl, rfl⟩

/-- The second item writes the last price. -/
theorem splitDelta_touches : ¬ Change.Untouched "BTCUSDT".toList Field.last
    ((SessionCall.parse splitDelta.display 6).changes .bybit
      (sessionAfter .bybit .primary 0 splitCalls)) := by
  have hAny : ((SessionCall.parse splitDelta.display 6).changes .bybit
      (sessionAfter .bybit .primary 0 splitCalls)).any
        (fun c => c.key = "BTCUSDT".toList && (c.write .last).isSome) = true := by decide
  obtain ⟨c, hc, hTouch⟩ := List.any_eq_true.mp hAny
  rw [Bool.and_eq_true, decide_eq_true_eq] at hTouch
  exact fun hUntouched => hUntouched c hc
    ⟨hTouch.1, Option.ne_none_iff_isSome.mpr hTouch.2⟩

/-- Counted by frames, a later frame has written the last price that the event of
the first item shows. -/
theorem ticker_provenance_fails : ¬ ∀ (calls : List SessionCall) (text : Text)
    (receivedAtMs : Nat) (events : List ProviderEvent) (i : Nat) (event : ProviderEvent)
    (ticker : Ticker) (field : Field) (observed : ObservedDecimal),
    (∀ call ∈ calls ++ [.parse text receivedAtMs], call.StringDecimals .bybit) →
    ((configuredAdapter .bybit).parse (sessionAfter .bybit .primary 0 calls) text
      receivedAtMs).1 = .ok (.events events) →
    events[i]? = some event → event.payload = .ticker ticker → ticker.get field = some observed →
    LastCarried .bybit .primary 0 (calls ++ [.parse text receivedAtMs]) event.symbol field
      observed := by
  intro hAll
  obtain ⟨event, ticker, hParse, hEvent, hSymbol, hTicker, hLast⟩ := splitEvents_first
  obtain ⟨earlier, source, sourceAtMs, later, hCalls, hReceived, hQuiet⟩ :=
    hAll splitCalls splitDelta.display 6 splitEvents 0 event ticker .last _ splitStrings hParse
      hEvent hTicker hLast
  rw [hSymbol] at hQuiet
  cases earlier with
  | nil =>
    -- the snapshot, but the frame of two items came after it
    obtain ⟨-, rfl⟩ := List.cons.inj hCalls
    obtain ⟨rfl, rfl⟩ := SessionCall.parse.inj (List.head_eq_of_cons_eq hCalls)
    exact splitDelta_touches hQuiet.1
  | cons first earlier =>
    -- the frame of two items, but it has another time
    have hRest : [SessionCall.parse splitDelta.display 6] =
        earlier ++ .parse source sourceAtMs :: later := List.tail_eq_of_cons_eq hCalls
    have hOwn : SessionCall.parse source sourceAtMs = .parse splitDelta.display 6 :=
      List.mem_singleton.mp (hRest ▸ by simp)
    obtain ⟨rfl, rfl⟩ := SessionCall.parse.inj hOwn
    obtain ⟨frame, hJson, feed, item, hProvider, hCarried⟩ := hReceived
    obtain rfl := Except.ok.inj (splitDelta_json.symm.trans hJson)
    cases feed with
    | bybitTickers =>
      have hTime : TickerFeed.bybitTickers.time splitDelta item 6 = some 200 := rfl
      exact absurd (Option.some.inj (hTime.symm.trans hCarried.time)) (by decide)
    | _ => cases hProvider

/-- The first event of the frame of two items shows the snapshot's last price. -/
theorem ticker_provenance_splitEvents : ∃ event, splitEvents[0]? = some event ∧
    event.connectionEpoch = 0 ∧
    (Received .bybit splitDelta.display 6 event.symbol .last ⟨⟨"10".toList⟩, 100⟩ ∨
      LastCarried .bybit .primary 0 splitCalls event.symbol .last ⟨⟨"10".toList⟩, 100⟩ ∧
        Change.Untouched event.symbol .last
          (((SessionCall.parse splitDelta.display 6).changes .bybit
            (sessionAfter .bybit .primary 0 splitCalls)).take 1)) := by
  obtain ⟨event, ticker, hParse, hEvent, -, hTicker, hLast⟩ := splitEvents_first
  exact ⟨event, hEvent, ticker_provenance .bybit .primary 0 splitCalls splitDelta.display 6
    splitStrings hParse hEvent hTicker hLast⟩

end Items

end MarketStreamGateway
