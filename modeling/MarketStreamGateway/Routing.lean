import MarketStreamGateway.Batching

/-!
# Market Stream Gateway — from topics back to keys

A key is subscribed as native topics, and the events of a frame are routed by a
key that is read off the frame. Each venue encodes and decodes on its own: with
upper or lower case, with prefixes and suffixes, with lists of symbols.
`frameTopics` says which topics a frame is delivered on. Main results:

* `event_named` — the events of a frame have a symbol and a channel its reading
  names.
* `reading_named` — what a reading names is the symbol and the channel of every
  canonical key that has a certain topic of the frame.
* `routed_back` — so data goes back to the key it was subscribed for.
-/

namespace MarketStreamGateway

open Lib

/-! ## The topics of a frame -/

/-- What stands after the symbol in the stream of an event type. -/
def binanceEventSuffix (eventType : Text) : Option Text :=
  if eventType = "24hrTicker".toList then some "@ticker".toList
  else if eventType = "markPriceUpdate".toList then some "@markPrice@1s".toList
  else if eventType = "kline".toList then some "@kline_1m".toList
  else none

/-- The stream of a frame. A bare payload has none of its own: it belongs to the
stream of its event type and its symbol. -/
def binanceStream (frame : Value) : Option Text :=
  match frame.get "stream".toList with
  | some stream => stream.asStr
  | none => do
    let suffix ← binanceEventSuffix (← (← frame.get "e".toList).asStr)
    let symbol ← (← frame.get "s".toList).asStr
    some (Text.toAsciiLowercase symbol ++ suffix)

/-- The channel and the symbol of a frame. -/
def mexcTopic (frame : Value) : Option Topic := do
  let channel ← Text.stripPrefix "push.".toList (← (← frame.get "channel".toList).asStr)
  let symbol ← (← frame.get "symbol".toList).asStr
  some [channel, symbol]

/-- The native topics a frame is delivered on. A KuCoin frame can name several
at once, as a command can. -/
def frameTopics : Provider → Value → List Topic
  | .bybit, frame => ((frame.get "topic".toList).bind Value.asStr).toList.map ([·])
  | .binance, frame => (binanceStream frame).toList.map ([·])
  | .okx, frame => ((frame.get "arg".toList).bind Venue.okxTopic).toList
  | .kucoin, frame =>
    (((frame.get "topic".toList).bind Value.asStr).map Venue.kucoinTopics).getD []
  | .mexc, frame => (mexcTopic frame).toList
  | .bingx, frame => ((frame.get "dataType".toList).bind Value.asStr).toList.map ([·])

/-- The symbol and the channel are those of every canonical key that has a
certain topic of the frame. -/
def Names [Unicode] (provider : Provider) (frame : Value) (n : Text × Channel) : Prop :=
  ∃ t ∈ frameTopics provider frame, ∀ key : SubscriptionKey, key.Canonical →
    t ∈ nativeTopics provider key → key.symbol = n.1 ∧ key.channel = n.2

/-- A key of a provider by its symbol and its channel. -/
def spelled (provider : Provider) (symbol : Text) (channel : Channel) : SubscriptionKey :=
  ⟨provider, .linearPerpetual, symbol, channel⟩

section Names

variable [Unicode] {provider : Provider} {frame : Value} {symbol spelling : Text}
  {channel : Channel} {t : Topic}

/-- A symbol that is the same up to case is normalized to the key's. -/
theorem SubscriptionKey.Canonical.symbol_eq {key : SubscriptionKey} (h : key.Canonical)
    (hLower : Text.toAsciiLowercase key.symbol = Text.toAsciiLowercase spelling)
    (hNormal : normalizeSymbol spelling = .ok symbol) : key.symbol = symbol := by
  have hUpper : Text.toAsciiUppercase spelling = key.symbol := by
    rw [← Text.toAsciiUppercase_toAsciiLowercase, ← hLower,
      Text.toAsciiUppercase_toAsciiLowercase, h.upper]
  calc key.symbol
      = Text.trim key.symbol := h.trim.symm
    _ = Text.trim (Text.toAsciiUppercase spelling) := by rw [hUpper]
    _ = Text.toAsciiUppercase (Text.trim spelling) := Text.trim_toAsciiUppercase spelling
    _ = symbol := (normalizeSymbol_ok hNormal).1.symm

/-- A topic that is spelled with a symbol, of which the event has the normal
form. -/
theorem names_of_normalized (ht : t ∈ frameTopics provider frame)
    (hSpelled : t ∈ nativeTopics provider (spelled provider spelling channel))
    (hNormal : normalizeSymbol spelling = .ok symbol) :
    Names provider frame (symbol, channel) := by
  refine ⟨t, ht, fun key hKey hNative => ?_⟩
  obtain ⟨hChannel, hLower, -⟩ := nativeTopics_spelled provider hNative hSpelled
  exact ⟨hKey.symbol_eq hLower hNormal, hChannel⟩

/-- A topic that is spelled with the symbol of the event. -/
theorem names_of_spelled (hBinance : provider ≠ .binance) (ht : t ∈ frameTopics provider frame)
    (hSpelled : t ∈ nativeTopics provider (spelled provider symbol channel)) :
    Names provider frame (symbol, channel) := by
  refine ⟨t, ht, fun key hKey hNative => ?_⟩
  obtain ⟨hChannel, -, hSymbol⟩ := nativeTopics_spelled provider hNative hSpelled
  exact ⟨hSymbol hBinance, hChannel⟩

end Names

/-! ## What a reading names -/

namespace Reading

/-- The symbols and the channels of the events a reading can lead to. -/
def named : Reading → List (Text × Channel)
  | candles items => items.map fun item => (item.symbol, .candle1m)
  | r => r.updates.map fun u => (u.symbol, .ticker)

/-- A frame names the symbols of its updates, on the ticker channel. -/
theorem named_of_update {r : Reading} {u : Update} (h : u ∈ r.updates) :
    (u.symbol, Channel.ticker) ∈ r.named := by
  cases r with
  | candles items => cases h
  | _ => exact List.mem_map_of_mem h

end Reading

section Venues

variable [Unicode] [RustDecimal]

/-! ### Bybit -/

namespace BybitSession

omit [Unicode] [RustDecimal] in
/-- The topic of a Bybit frame is among its topics. -/
theorem mem_frameTopics {frame : Value} {topic : Text}
    (h : frame.get "topic".toList = some (.string topic)) :
    [topic] ∈ frameTopics .bybit frame := by
  rw [frameTopics, h]
  exact List.mem_singleton_self _

omit [RustDecimal] in
/-- A ticker topic of Bybit holds a spelling of the symbol. -/
theorem tickerTopicSymbol_ok {topic symbol : Text} (h : tickerTopicSymbol topic = .ok symbol) :
    ∃ spelling, topic = "tickers.".toList ++ spelling ∧ normalizeSymbol spelling = .ok symbol := by
  unfold tickerTopicSymbol at h
  split at h
  · next spelling hSpelling =>
    exact ⟨spelling, Text.stripPrefix_eq_some.mp hSpelling, (normalizedSymbol_eq_ok _).mp h⟩
  · cases h

omit [RustDecimal] in
/-- A kline topic of Bybit holds a spelling of the symbol. -/
theorem klineTopicSymbol_ok {topic symbol : Text} (h : klineTopicSymbol topic = .ok symbol) :
    ∃ spelling, topic = "kline.1.".toList ++ spelling ∧ normalizeSymbol spelling = .ok symbol := by
  unfold klineTopicSymbol at h
  split at h
  · next spelling hSpelling =>
    exact ⟨spelling, Text.stripPrefix_eq_some.mp hSpelling, (normalizedSymbol_eq_ok _).mp h⟩
  · cases h

/-- A Bybit frame names what its topic names. -/
theorem reading_named [Serde] {value : Value} (hObject : value.isObject = true)
    {n : Text × Channel} (hn : n ∈ (reading value).named) : Names .bybit value n := by
  rcases reading_cases value with h | ⟨error, h⟩ | h | h
  · rw [h] at hn
    cases hn
  · rw [h] at hn
    cases hn
  · obtain ⟨envelope, topicSymbol, snapshot, items, updates, hEnvelope, hTopic, -, -, hUpdates,
      hr⟩ :=
      parseTickers_ok h
    rw [hr] at hn
    obtain ⟨u, hu, rfl⟩ := List.mem_map.mp hn
    obtain ⟨item, -, hItem⟩ := mem_of_mapM_eq_ok hUpdates hu
    -- the symbol of the items is the topic's
    obtain ⟨spelling, hSpelling, hNormal⟩ := tickerTopicSymbol_ok hTopic
    refine names_of_normalized (mem_frameTopics (envelope_members hObject hEnvelope).1) ?_
      ((tickerItem_ok hItem).2.1 ▸ hNormal)
    rw [hSpelling]
    exact List.mem_singleton_self _
  · obtain ⟨envelope, symbol, candles, hEnvelope, hTopic, hr, hSymbol⟩ := parseKlines_ok h
    rw [hr] at hn
    obtain ⟨c, hc, rfl⟩ := List.mem_map.mp hn
    obtain ⟨spelling, hSpelling, hNormal⟩ := klineTopicSymbol_ok hTopic
    refine names_of_normalized (mem_frameTopics (klineEnvelope_topic hObject hEnvelope)) ?_
      (hSymbol c hc ▸ hNormal)
    rw [hSpelling]
    exact List.mem_singleton_self _

end BybitSession

/-! ### Binance -/

namespace BinanceSession

/-- The ends of the streams a frame of a channel may have been sent on, in lower
case. -/
def streamSuffixes : Channel → List Text
  | .ticker => ["@ticker".toList, "@markprice".toList, "@markprice@1s".toList]
  | .candle1m => ["@kline_1m".toList]

omit [Unicode] [RustDecimal] in
/-- No stream suffix of Binance ends in another one. -/
theorem streamSuffixes_apart (c c' : Channel) :
    ∀ x ∈ streamSuffixes c, ∀ y ∈ streamSuffixes c', x <:+ y → x = y ∧ c = c' := by
  cases c <;> cases c' <;> decide

omit [Unicode] [RustDecimal] in
/-- A suffix of Binance's topics is a stream suffix once in lower case. -/
theorem lower_binanceSuffixes (c : Channel) :
    ∀ x ∈ binanceSuffixes c, Text.toAsciiLowercase x ∈ streamSuffixes c := by
  cases c <;> decide

/-- The suffixes the handlers of a channel expect. -/
def expectedSuffixes : Channel → List Text
  | .ticker => ["@ticker".toList, "@markPrice".toList]
  | .candle1m => ["@kline_1m".toList]

omit [Unicode] [RustDecimal] in
/-- An expected suffix of Binance is a stream suffix once in lower case. -/
theorem lower_expectedSuffixes (c : Channel) :
    ∀ x ∈ expectedSuffixes c, Text.toAsciiLowercase x ∈ streamSuffixes c := by
  cases c <;> decide

omit [RustDecimal] in
/-- A stream that passes for a symbol is the symbol, up to case, with a suffix of
the channel. -/
theorem validateStreamSymbol_ok {streamName symbol suffix : Text} {channel : Channel}
    (hSuffix : suffix ∈ expectedSuffixes channel)
    (h : validateStreamSymbol (some streamName) symbol suffix = .ok ()) :
    ∃ x ∈ streamSuffixes channel,
      Text.toAsciiLowercase streamName = Text.toAsciiLowercase symbol ++ x := by
  have hPlain : Text.toAsciiLowercase suffix ∈ streamSuffixes channel :=
    lower_expectedSuffixes channel suffix hSuffix
  unfold validateStreamSymbol at h
  dsimp only at h
  split at h
  · next hMark =>
    split at h
    · next hMatched =>
      rcases hMatched with hExact | hSecond
      · exact ⟨_, hPlain, hExact⟩
      · -- the mark price may come every second, on a stream of its own name
        subst hMark
        refine ⟨"@markprice@1s".toList, ?_, ?_⟩
        · cases channel with
          | ticker => simp [streamSuffixes]
          | candle1m => exact absurd hSuffix (by simp [expectedSuffixes])
        · have hJoined : Text.toAsciiLowercase "@markPrice".toList ++ "@1s".toList =
              "@markprice@1s".toList := by decide
          rw [hSecond, List.append_assoc, hJoined]
    · cases h
  · split at h
    · next hMatched => exact ⟨_, hPlain, hMatched⟩
    · cases h

omit [RustDecimal] in
/-- A frame of a combined stream. -/
theorem names_of_stream {frame : Value} {streamName symbol suffix : Text} {channel : Channel}
    (hStream : frame.get "stream".toList = some (.string streamName))
    (hSuffix : suffix ∈ expectedSuffixes channel)
    (hValid : validateStreamSymbol (some streamName) symbol suffix = .ok ())
    (hUpper : Text.toAsciiUppercase symbol = symbol) : Names .binance frame (symbol, channel) := by
  refine ⟨[streamName], ?_, fun key hKey hNative => ?_⟩
  · rw [frameTopics, binanceStream, hStream]
    exact List.mem_singleton_self _
  · obtain ⟨x, hx, hEq⟩ := validateStreamSymbol_ok hSuffix hValid
    rw [binance_nativeTopics] at hNative
    obtain ⟨y, hy, hTopic⟩ := List.mem_map.mp hNative
    obtain rfl := List.head_eq_of_cons_eq hTopic
    -- streams are compared in lower case, so the names are as well
    have hLower : Text.toAsciiLowercase (Text.toAsciiLowercase key.symbol ++ y) =
        Text.toAsciiLowercase key.symbol ++ Text.toAsciiLowercase y := by
      rw [Text.toAsciiLowercase, List.map_append, ← Text.toAsciiLowercase,
        Text.toAsciiLowercase_idem]
      rfl
    rw [hLower] at hEq
    obtain ⟨hSymbol, hChannel⟩ := suffix_topics_unique streamSuffixes_apart
      (List.mem_map_of_mem (f := fun x => [Text.toAsciiLowercase key.symbol ++ x])
        (lower_binanceSuffixes key.channel y hy))
      (List.mem_map.mpr ⟨x, hx, congrArg (fun text => [text]) hEq.symm⟩)
    exact ⟨Text.toAsciiLowercase_injOn hKey.upper hUpper hSymbol, hChannel⟩

omit [RustDecimal] in
/-- A bare payload. -/
theorem names_of_payload {frame : Value} {eventType symbol spelling suffix : Text}
    {channel : Channel} (hStream : frame.get "stream".toList = none)
    (hType : frame.get "e".toList = some (.string eventType))
    (hEvent : binanceEventSuffix eventType = some suffix)
    (hSuffix : suffix ∈ binanceSuffixes channel)
    (hSymbol : frame.get "s".toList = some (.string spelling))
    (hNormal : normalizeSymbol spelling = .ok symbol) : Names .binance frame (symbol, channel) := by
  -- without a stream the event type tells it
  have hTopic : binanceStream frame = some (Text.toAsciiLowercase spelling ++ suffix) := by
    unfold binanceStream
    rw [hStream, hType, hSymbol]
    change (binanceEventSuffix eventType).bind _ = _
    rw [hEvent]
    rfl
  refine names_of_normalized (t := [Text.toAsciiLowercase spelling ++ suffix]) ?_ ?_ hNormal
  · rw [frameTopics, hTopic]
    exact List.mem_singleton_self _
  · rw [binance_nativeTopics]
    exact List.mem_map_of_mem (f := fun x => [Text.toAsciiLowercase spelling ++ x]) hSuffix

omit [Unicode] [RustDecimal] in
/-- A Binance frame is its own payload or has a stream name. -/
theorem payload_ok {value data : Value} {streamName : Option Text}
    (h : payload value = .ok (data, streamName)) :
    (value.get "stream".toList = none ∧ data = value ∧ streamName = none) ∨
    ∃ name, value.get "stream".toList = some (.string name) ∧ streamName = some name := by
  unfold payload at h
  split at h
  · next hNone =>
    obtain ⟨rfl, rfl⟩ := Prod.mk.inj (Except.ok.inj h)
    exact .inl ⟨hNone, rfl, rfl⟩
  · next stream hStream =>
    split at h
    · cases h
    · next name hName =>
      split at h
      · cases h
      · obtain ⟨rfl, rfl⟩ := Prod.mk.inj (Except.ok.inj h)
        exact .inr ⟨name, by rw [hStream, Value.asStr_eq_some hName], rfl⟩

omit [RustDecimal] in
/-- What an accepted payload has in common, whatever its event type. -/
theorem names_of_accepted {frame data : Value} {streamName : Option Text}
    {eventType symbol spelling expected suffix : Text} {channel : Channel}
    (hPayload : payload frame = .ok (data, streamName))
    (hType : data.get "e".toList = some (.string eventType))
    (hEvent : binanceEventSuffix eventType = some suffix)
    (hSuffix : suffix ∈ binanceSuffixes channel) (hExpected : expected ∈ expectedSuffixes channel)
    (hValid : validateStreamSymbol streamName symbol expected = .ok ())
    (hSymbol : data.get "s".toList = some (.string spelling))
    (hNormal : normalizeSymbol spelling = .ok symbol) : Names .binance frame (symbol, channel) := by
  rcases payload_ok hPayload with ⟨hStream, rfl, -⟩ | ⟨name, hStream, rfl⟩
  · exact names_of_payload hStream hType hEvent hSuffix hSymbol hNormal
  · exact names_of_stream hStream hExpected hValid (normalizeSymbol_upper hNormal)

theorem reading_named [Serde] {value : Value} {n : Text × Channel}
    (hn : n ∈ (reading value).named) :
    Names .binance value n := by
  rcases reading_cases value with h | ⟨error, h⟩ | ⟨data, streamName, hPayload, hHandles⟩
  · rw [h] at hn
    cases hn
  · rw [h] at hn
    cases hn
  · -- each event type has a suffix of its own
    cases hHandles with
    | ticker hType hParsed =>
      obtain ⟨ticker, u, last, bid, ask, hr, hDecode, hNormal, hValid, -⟩ := parseTicker_ok hParsed
      rw [hr] at hn
      obtain rfl := List.mem_singleton.mp hn
      exact names_of_accepted hPayload hType rfl (.head _) (.head _) hValid
        (ticker_members (Value.isObject_of_get hType) hDecode).1 hNormal
    | markPrice hType hParsed =>
      obtain ⟨price, u, mark, index, funding, hr, hDecode, hNormal, hValid, -⟩ :=
        parseMarkPrice_ok hParsed
      rw [hr] at hn
      obtain rfl := List.mem_singleton.mp hn
      exact names_of_accepted hPayload hType rfl (.tail _ (.head _)) (.tail _ (.head _)) hValid
        (markPrice_members (Value.isObject_of_get hType) hDecode).1 hNormal
    | kline hType hParsed =>
      obtain ⟨envelope, c, hr, hDecode, hNormal, hValid⟩ := parseKline_ok hParsed
      rw [hr] at hn
      obtain rfl := List.mem_singleton.mp hn
      exact names_of_accepted hPayload hType rfl (.head _) (.head _) hValid
        (kline_symbol (Value.isObject_of_get hType) hDecode) hNormal

end BinanceSession

/-! ### OKX -/

namespace OkxSession

omit [RustDecimal] in
/-- The items of a channel belong to its instrument. -/
theorem names_of_items {value argument : Value} {channel symbol : Text} {c : Channel}
    (hArgument : value.get "arg".toList = some argument)
    (hChannel : argument.get "channel".toList = some (.string channel))
    (hSymbol : argument.get "instId".toList = some (.string symbol))
    (hNative : [channel, symbol] ∈ nativeTopics .okx (spelled .okx symbol c)) :
    Names .okx value (symbol, c) := by
  refine names_of_spelled nofun (t := [channel, symbol]) ?_ hNative
  have hTopic : Venue.okxTopic argument = some [channel, symbol] := by
    unfold Venue.okxTopic
    rw [hChannel, hSymbol]
    rfl
  rw [frameTopics, hArgument, Option.bind_some, hTopic]
  exact List.mem_singleton_self _

omit [Unicode] [RustDecimal] in
/-- The items of an OKX frame are all of the frame's symbol. -/
theorem symbol_of_each {item : Text → Value → Except AdapterError Update} {symbol : Text}
    {names : List (Field × Text)} {data : List Value}
    (hItem : ∀ value u, item symbol value = .ok u → ItemCarries names symbol value u)
    {n : Text × Channel} (hn : n ∈ (Reading.each (data.map (item symbol))).named) :
    n = (symbol, .ticker) := by
  obtain ⟨u, hu, rfl⟩ := List.mem_map.mp hn
  obtain ⟨value, -, hOk⟩ := List.mem_map.mp (Reading.mem_accepted hu)
  rw [(hItem value u hOk).symbol]

theorem reading_named {value : Value} {n : Text × Channel} (hn : n ∈ (reading value).named) :
    Names .okx value n := by
  rcases reading_cases value with ⟨error, h⟩ | h
  · rw [h] at hn
    cases hn
  · obtain ⟨argument, channel, symbol, data, hArgument, hChannel, hSymbol, -, -, hHandles⟩ :=
      parseDataMessage_ok h
    cases hHandles with
    | empty hr | ignored hr =>
      rw [hr] at hn
      cases hn
    | tickers hName hr =>
      rw [hr] at hn
      rw [symbol_of_each (fun _ _ => tickerItem_ok) hn]
      exact names_of_items hArgument hChannel hSymbol (hName ▸ .head _)
    | markPrices hName hr =>
      rw [hr] at hn
      rw [symbol_of_each (fun _ _ => markPriceItem_ok) hn]
      exact names_of_items hArgument hChannel hSymbol (hName ▸ .tail _ (.head _))
    | fundingRates hName hr =>
      rw [hr] at hn
      rw [symbol_of_each (fun _ _ => fundingRateItem_ok) hn]
      exact names_of_items hArgument hChannel hSymbol (hName ▸ .tail _ (.tail _ (.head _)))
    -- the items of a candle frame carry no symbol, so it is the argument's
    | candles items hName hItems hr =>
      rw [hr] at hn
      obtain ⟨c, hc, rfl⟩ := List.mem_map.mp hn
      obtain ⟨item, -, hItem⟩ := mem_of_mapM_eq_ok hItems hc
      rw [candleItem_symbol hItem]
      exact names_of_items hArgument hChannel hSymbol (hName ▸ .head _)

end OkxSession

/-! ### KuCoin -/

namespace KucoinSession

omit [Unicode] [RustDecimal] in
/-- An instrument topic names one symbol. -/
theorem instrumentTopicSymbol_comma {topic symbol : Text}
    (h : instrumentTopicSymbol topic = .ok symbol) : ',' ∉ symbol := by
  unfold instrumentTopicSymbol at h
  split at h
  · cases h
  · next found hFound =>
    obtain ⟨⟨⟩, -, h⟩ := bind_eq_ok.mp h
    obtain rfl := Except.ok.inj h
    have hPlain := (Option.filter_eq_some_iff.mp hFound).2
    rw [Bool.and_eq_true, Bool.not_eq_true'] at hPlain
    simpa using hPlain.2

omit [RustDecimal] in
/-- A symbol of the list of a topic. -/
theorem names_of_topic {value : Value} {topic front channel symbol piece symbols : Text}
    {c : Channel} (hTopic : value.get "topic".toList = some (.string topic))
    (hSymbols : Text.stripPrefix front topic = some symbols) (hFront : front = channel ++ [':'])
    (hColon : ':' ∉ channel) (hPiece : piece ∈ Text.split ',' symbols)
    (hNative : [channel, piece] ∈ nativeTopics .kucoin (spelled .kucoin symbol c)) :
    Names .kucoin value (symbol, c) := by
  refine names_of_spelled nofun (t := [channel, piece]) ?_ hNative
  have hList : Venue.kucoinTopics topic =
      (Text.split ',' symbols).map fun piece => [channel, piece] := by
    rw [Text.stripPrefix_eq_some.mp hSymbols, hFront, List.append_assoc, List.singleton_append,
      Venue.kucoinTopics, Text.splitOnce_append hColon]
  rw [frameTopics, hTopic, Option.bind_some, Value.asStr, Option.map_some, Option.getD_some, hList]
  exact List.mem_map_of_mem (f := fun piece => [channel, piece]) hPiece

omit [RustDecimal] in
/-- An order-book or execution frame. -/
theorem names_of_identity {value data : Value} {front channel symbol : Text} {observedAtMs : Nat}
    (h : tickerIdentity value front = .ok (data, symbol, observedAtMs))
    (hFront : front = channel ++ [':']) (hColon : ':' ∉ channel)
    (hNative : [channel, symbol] ∈ nativeTopics .kucoin (spelled .kucoin symbol .ticker)) :
    Names .kucoin value (symbol, .ticker) := by
  obtain ⟨topic, time, hTopic, -, -, -, hValid, -, -⟩ := tickerIdentity_ok h
  obtain ⟨symbols, hSymbols, hPiece⟩ := validateTopicSymbol_ok hValid
  rw [List.append_nil] at hPiece
  exact names_of_topic hTopic hSymbols hFront hColon hPiece hNative

omit [RustDecimal] in
/-- A frame of an instrument. -/
theorem names_of_instrument {value : Value} {topic symbol : Text}
    (hTopic : value.get "topic".toList = some (.string topic))
    (h : instrumentTopicSymbol topic = .ok symbol) : Names .kucoin value (symbol, .ticker) := by
  have hFront : "/contract/instrument:".toList = "/contract/instrument".toList ++ [':'] := by simp
  refine names_of_topic hTopic (instrumentTopicSymbol_ok h).1 hFront (by simp) ?_
    (.tail _ (.tail _ (.head _)))
  rw [Text.split_of_not_mem (instrumentTopicSymbol_comma h)]
  exact List.mem_singleton_self _

theorem reading_named {value : Value} {text : Text} {n : Text × Channel}
    (hn : n ∈ (reading value text).named) : Names .kucoin value n := by
  rcases reading_cases value text with h | ⟨error, h⟩ | ⟨topic, hTopic, hHandles⟩
  · rw [h] at hn
    cases hn
  · rw [h] at hn
    cases hn
  · cases hHandles with
    | tickerV2 hParsed =>
      obtain ⟨u, sequence, data, observedAtMs, hr, hIdentity, -⟩ := parseTickerV2_ok hParsed
      rw [hr] at hn
      obtain rfl := List.mem_singleton.mp hn
      -- the topic of the feed, its colon apart
      have hFront : "/contractMarket/tickerV2:".toList =
          "/contractMarket/tickerV2".toList ++ [':'] := by simp
      exact names_of_identity hIdentity hFront (by simp) (.head _)
    | execution hParsed =>
      obtain ⟨u, sequence, data, observedAtMs, hr, hIdentity, -⟩ := parseExecution_ok hParsed
      rw [hr] at hn
      obtain rfl := List.mem_singleton.mp hn
      have hFront : "/contractMarket/execution:".toList =
          "/contractMarket/execution".toList ++ [':'] := by simp
      exact names_of_identity hIdentity hFront (by simp) (.tail _ (.head _))
    | markIndex hParsed =>
      obtain ⟨u, data, observedAtMs, hr, hFrame, -⟩ := parseMarkIndex_ok hParsed
      rw [hr] at hn
      obtain rfl := List.mem_singleton.mp hn
      exact names_of_instrument hTopic hFrame.1
    | funding hParsed =>
      obtain ⟨u, data, observedAtMs, hr, hFrame, -⟩ := parseFunding_ok hParsed
      rw [hr] at hn
      obtain rfl := List.mem_singleton.mp hn
      exact names_of_instrument hTopic hFrame.1
    | candle hParsed =>
      obtain ⟨c, candleTopic, data, hr, hCandleTopic, -, -, hValid, -⟩ := parseCandle_ok hParsed
      rw [hr] at hn
      obtain rfl := List.mem_singleton.mp hn
      obtain ⟨symbols, hSymbols, hPiece⟩ := validateTopicSymbol_ok hValid
      have hFront : "/contractMarket/limitCandle:".toList =
          "/contractMarket/limitCandle".toList ++ [':'] := by simp
      exact names_of_topic hCandleTopic hSymbols hFront (by simp) hPiece (.head _)

end KucoinSession

/-! ### MEXC -/

namespace MexcSession

omit [RustDecimal] in
/-- A channel with the symbol of the envelope, which the data repeats. -/
theorem names_of_envelope {value data : Value} {channel method outerSymbol symbol : Text}
    {c : Channel} (hChannel : value.get "channel".toList = some (.string channel))
    (hMethod : channel = "push.".toList ++ method)
    (hOuter : value.get "symbol".toList = some (.string outerSymbol))
    (hSymbol : checkedPayloadSymbol data outerSymbol = .ok symbol)
    (hNative : [method, outerSymbol] ∈ nativeTopics .mexc (spelled .mexc outerSymbol c)) :
    Names .mexc value (symbol, c) := by
  have hTopic : mexcTopic value = some [method, outerSymbol] := by
    unfold mexcTopic
    rw [hChannel, hOuter]
    change (Text.stripPrefix "push.".toList channel).bind _ = _
    rw [Text.stripPrefix_eq_some.mpr hMethod]
    rfl
  refine names_of_normalized (t := [method, outerSymbol]) ?_ hNative
    (checkedPayloadSymbol_ok hSymbol).2.2
  rw [frameTopics, hTopic]
  exact List.mem_singleton_self _

theorem reading_named {value : Value} {text : Text} {n : Text × Channel}
    (hn : n ∈ (reading value text).named) : Names .mexc value n := by
  rcases reading_cases value text with h | ⟨error, h⟩ | hHandles
  · rw [h] at hn
    cases hn
  · rw [h] at hn
    cases hn
  · cases hHandles with
    | ticker hChannel hParsed =>
      obtain ⟨u, error, outerSymbol, data, observedAtMs, hr, hOuter, -, hSymbol, -⟩ :=
        parseTicker_ok hParsed
      rw [hr] at hn
      obtain rfl := List.mem_singleton.mp hn
      -- the channel of the feed, its front apart
      have hMethod : "push.ticker".toList = "push.".toList ++ "ticker".toList := by simp
      exact names_of_envelope hChannel hMethod hOuter hSymbol (.head _)
    | funding hChannel hParsed =>
      obtain ⟨u, outerSymbol, data, observedAtMs, hr, hOuter, -, hSymbol, -⟩ :=
        parseFunding_ok hParsed
      rw [hr] at hn
      obtain rfl := List.mem_singleton.mp hn
      have hMethod : "push.funding.rate".toList = "push.".toList ++ "funding.rate".toList := by simp
      exact names_of_envelope hChannel hMethod hOuter hSymbol (.tail _ (.head _))
    | candle hChannel hParsed =>
      obtain ⟨c, outerSymbol, data, hr, hOuter, -, hSymbol, -⟩ := parseCandle_ok hParsed
      rw [hr] at hn
      obtain rfl := List.mem_singleton.mp hn
      have hMethod : "push.kline".toList = "push.".toList ++ "kline".toList := by simp
      exact names_of_envelope hChannel hMethod hOuter hSymbol (.head _)

end MexcSession

/-! ### BingX -/

namespace BingxSession

omit [RustDecimal] in
/-- A data type that ends in the suffix of a feed. -/
theorem names_of_dataType {value : Value} {topic suffix symbol : Text} {c : Channel}
    (hTopic : value.get "dataType".toList = some (.string topic))
    (hSuffix : suffix ∈ bingxSuffixes c) (h : topicSymbol topic suffix = .ok symbol) :
    Names .bingx value (symbol, c) := by
  unfold topicSymbol at h
  split at h
  · next spelling hSpelling =>
    refine names_of_normalized (t := [topic]) ?_ ?_ (normalizedSymbol_ok h)
    · rw [frameTopics, hTopic]
      exact List.mem_singleton_self _
    · rw [bingx_nativeTopics, Text.stripSuffix_eq_some.mp hSpelling]
      exact List.mem_map_of_mem (f := fun x => [spelling ++ x]) hSuffix
  · cases h

theorem reading_named [Serde] {value : Value} {receivedAtMs : Nat} {n : Text × Channel}
    (hn : n ∈ (reading value receivedAtMs).named) : Names .bingx value n := by
  rcases reading_cases value receivedAtMs with h | ⟨error, h⟩ | ⟨topic, hTopic, hHandles⟩
  · rw [h] at hn
    cases hn
  · rw [h] at hn
    cases hn
  · -- the data type names the symbol for every feed
    cases hHandles with
    | ticker hParsed =>
      obtain ⟨envelope, u, last, hr, -, hSymbol, -⟩ := parseTicker_ok hParsed
      rw [hr] at hn
      obtain rfl := List.mem_singleton.mp hn
      exact names_of_dataType hTopic (.head _) (checkedSymbol_ok hSymbol).2
    | markPrice hParsed =>
      obtain ⟨envelope, u, time, hr, -, hSymbol, -⟩ := parseMarkPrice_ok hParsed
      rw [hr] at hn
      obtain rfl := List.mem_singleton.mp hn
      exact names_of_dataType hTopic (.tail _ (.head _)) (checkedSymbol_ok hSymbol).2
    | bookTicker hParsed =>
      obtain ⟨envelope, u, hr, -, hSymbol, -⟩ := parseBookTicker_ok hParsed
      rw [hr] at hn
      obtain rfl := List.mem_singleton.mp hn
      exact names_of_dataType hTopic (.tail _ (.tail _ (.head _))) (checkedSymbol_ok hSymbol).2
    | kline hParsed =>
      obtain ⟨candles, symbol, hr, hSymbol, hAll⟩ := parseKline_ok hParsed
      rw [hr] at hn
      obtain ⟨c, hc, rfl⟩ := List.mem_map.mp hn
      rw [hAll c hc]
      exact names_of_dataType hTopic (.head _) hSymbol

end BingxSession

end Venues

/-! ## Frames and commands -/

section Frames

variable [Unicode] [JsonText] [RustDecimal] [Serde]

/-- What a frame names, its topics are for. -/
theorem reading_named {provider : Provider} {text : Text} {value : Value} {receivedAtMs : Nat}
    (hJson : JsonText.fromStr text = .ok value) {n : Text × Channel}
    (hn : n ∈ (frameReading provider text receivedAtMs).named) : Names provider value n := by
  unfold frameReading at hn
  cases hValue : marketValue provider text with
  | none =>
    rw [hValue] at hn
    cases hn
  | some found =>
    obtain ⟨hFound, hObject, -⟩ := marketValue_eq_some.mp hValue
    obtain rfl := Except.ok.inj (hFound.symm.trans hJson)
    rw [hValue] at hn
    cases provider with
    | bybit => exact BybitSession.reading_named hObject hn
    | binance => exact BinanceSession.reading_named hn
    | okx => exact OkxSession.reading_named hn
    | kucoin => exact KucoinSession.reading_named hn
    | mexc => exact MexcSession.reading_named hn
    | bingx => exact BingxSession.reading_named hn

/-- The events of a frame have what its reading names. -/
theorem event_named {provider : Provider} {s : (configuredAdapter provider).Session} {text : Text}
    {receivedAtMs : Nat} {events : List ProviderEvent}
    (h : ((configuredAdapter provider).parse s text receivedAtMs).1 = .ok (.events events))
    {event : ProviderEvent} (hEvent : event ∈ events) :
    event.subscriptionKey = spelled provider event.symbol event.payload.channel ∧
      (event.symbol, event.payload.channel) ∈ (frameReading provider text receivedAtMs).named := by
  rcases Reading.handle_events provider _ _ (parse_events h) with ⟨items, hItems, rfl⟩ | hAll
  · obtain ⟨item, hItem, rfl⟩ := List.mem_map.mp hEvent
    rw [hItems]
    exact ⟨rfl,
      List.mem_map_of_mem (f := fun c : CandleUpdate => (c.symbol, Channel.candle1m)) hItem⟩
  · -- a ticker event has the symbol of the update it was made from
    obtain ⟨i, hi⟩ := List.mem_iff_getElem?.mp hEvent
    obtain ⟨u, hUpdate, -, hProvider, hMarket, hSymbol, -, hPayload⟩ := hAll i event hi
    have hMem : u ∈ (frameReading provider text receivedAtMs).updates :=
      Reading.applied_subset _ _ (List.mem_of_getElem? hUpdate)
    rw [hSymbol, hPayload]
    refine ⟨?_, Reading.named_of_update hMem⟩
    rw [ProviderEvent.subscriptionKey, hProvider, hMarket, hSymbol, hPayload]
    rfl

omit [Unicode] [JsonText] [RustDecimal] [Serde] in
/-- Keys that validate are keys of the provider. -/
theorem provider_of_validated {provider : Provider} {keys : List SubscriptionKey}
    (h : validateSubscriptions provider keys = .ok ()) {key : SubscriptionKey} (hKey : key ∈ keys) :
    key.provider = provider := by
  unfold validateSubscriptions at h
  split at h
  · cases h
  · next hNone =>
    by_contra hOther
    exact List.find?_eq_none.mp hNone key hKey (decide_eq_true hOther)

omit [RustDecimal] [Serde] in
/-- A session builds commands for keys of its provider only. -/
theorem provider_of_commands [MarketData] {provider : Provider}
    {s s' : (configuredAdapter provider).Session} {action : SubscriptionAction}
    {keys : List SubscriptionKey} {commands : List OutboundCommand}
    (h : (configuredAdapter provider).subscriptionMessages s action keys = (.ok commands, s'))
    {key : SubscriptionKey} (hKey : key ∈ keys) : key.provider = provider := by
  cases hValid : validateSubscriptions provider keys with
  | ok u => exact provider_of_validated hValid hKey
  | error error =>
    -- every adapter looks at the providers of the keys first
    have hRefused : ((configuredAdapter provider).subscriptionMessages s action keys).1 =
        .error error := by
      cases provider <;>
        simp only [configuredAdapter, bybitAdapter, binanceAdapter, okxAdapter, kucoinAdapter,
          mexcAdapter, bingxAdapter, BybitSession.subscriptionMessages,
          BinanceSession.subscriptionMessages, OkxSession.subscriptionMessages,
          KucoinSession.subscriptionMessages, MexcSession.subscriptionMessages,
          BingxSession.subscriptionMessages, hValid]
    rw [h] at hRefused
    cases hRefused

omit [RustDecimal] [Serde] in
/-- Every topic of a diff belongs to one of its keys. -/
theorem key_of_topic [MarketData] {provider : Provider}
    {s : (configuredAdapter provider).Session} {action : SubscriptionAction}
    {keys : List SubscriptionKey} {t : Topic} (h : t ∈ expansion provider s action keys) :
    ∃ key ∈ keys, t ∈ nativeTopics provider key := by
  have hPushed : ∀ {topics : List Topic}, t ∈ pushAll [] topics → t ∈ topics := fun hMem =>
    (mem_pushAll.mp hMem).resolve_left List.not_mem_nil
  rw [← List.mem_flatMap]
  cases provider with
  | kucoin => exact mem_flatMap_grouped.mp (hPushed h)
  | bingx => exact hPushed (List.mem_filter.mp h).1
  | bybit | binance | okx | mexc => exact hPushed h

/-- **Routing.** A frame is delivered on topics that the commands for a list of
canonical keys subscribed to. Whatever session accepts it, each of its events has
the subscription key of one of the keys, which has a topic of the frame; if all
topics of the frame belong to one key, that is the key of the event. -/
theorem routed_back {provider : Provider} {s s' : (configuredAdapter provider).Session}
    {keys : List SubscriptionKey} {commands : List OutboundCommand}
    (hCanonical : ∀ key ∈ keys, key.Canonical)
    (hCommands : (configuredAdapter provider).subscriptionMessages s .subscribe keys =
      (.ok commands, s'))
    (session : (configuredAdapter provider).Session) {text : Text} {value : Value}
    {receivedAtMs : Nat} {events : List ProviderEvent}
    (hJson : JsonText.fromStr text = .ok value)
    (hDelivered : ∀ t ∈ frameTopics provider value,
      t ∈ commands.flatMap (Venue.commandTopics provider))
    (hParse : ((configuredAdapter provider).parse session text receivedAtMs).1 =
      .ok (.events events)) :
    ∀ event ∈ events,
      (∃ key ∈ keys, event.subscriptionKey = key ∧
        ∃ t ∈ frameTopics provider value, t ∈ nativeTopics provider key) ∧
      ∀ key ∈ keys, (∀ t ∈ frameTopics provider value, t ∈ nativeTopics provider key) →
        event.subscriptionKey = key := by
  intro event hEvent
  obtain ⟨hRouted, hNamed⟩ := event_named hParse hEvent
  obtain ⟨t, ht, hNames⟩ := reading_named hJson hNamed
  -- a subscribed key that the frame's topic belongs to is the event's
  have hKey : ∀ key ∈ keys, t ∈ nativeTopics provider key → event.subscriptionKey = key := by
    intro key hMem hNative
    obtain ⟨hSymbol, hChannel⟩ := hNames key (hCanonical key hMem) hNative
    have hProvider := provider_of_commands hCommands hMem
    rw [hRouted]
    obtain ⟨p, ⟨⟩, symbol, channel⟩ := key
    exact (SubscriptionKey.mk.injEq ..).mpr ⟨hProvider.symm, rfl, hSymbol.symm, hChannel.symm⟩
  constructor
  · have hTopics := (subscriptionMessages_expansion hCanonical hCommands).1
    obtain ⟨key, hMem, hNative⟩ := key_of_topic (hTopics ▸ hDelivered t ht)
    exact ⟨key, hMem, hKey key hMem hNative, t, ht, hNative⟩
  · exact fun key hMem hAll => hKey key hMem (hAll t ht)

end Frames

section Folding

/-! A symbol whose letters have no case, on a venue that writes its streams in
lower case. -/

/-- A symbol whose letters have no case. -/
def coinKey : SubscriptionKey := ⟨.binance, .linearPerpetual, "龙USDT".toList, .ticker⟩

/-- The payload comes without its stream. -/
def coinFrame : Value :=
  .object [("e".toList, .string "24hrTicker".toList), ("E".toList, .number (.posInt 5)),
    ("s".toList, .string "龙USDT".toList), ("c".toList, .string "10".toList)]

local instance routingUnicode : Unicode where
  isAlphanumeric c := c.isAlphanum || 128 ≤ c.toNat
  onAscii c hAscii := by rw [decide_eq_false (not_le.mpr hAscii), Bool.or_false]
  escapeDebug c := [c]

local instance routingJson : JsonText := .table [(coinFrame.display, coinFrame)]
local instance routingDecimal : RustDecimal := .digits
local instance routingSerde : Serde := .mute

/-- The frame comes back on the key it was subscribed with. -/
theorem routed_back_coinFrame :
    frameTopics .binance coinFrame = [["龙usdt@ticker".toList]] ∧
    ∃ events, ((configuredAdapter .binance).parse ((configuredAdapter .binance).session .primary 0)
        coinFrame.display 6).1 = .ok (.events events) ∧ events.length = 1 ∧
      ∀ event ∈ events, event.subscriptionKey = coinKey := by
  have hCanonical : ∀ key ∈ [coinKey], normalizeSymbol key.symbol = .ok key.symbol := by
    decide +kernel
  have hAccepted : ∃ events, ((configuredAdapter .binance).parse
      ((configuredAdapter .binance).session .primary 0) coinFrame.display 6).1 =
        .ok (.events events) ∧ events.length = 1 := ⟨_, rfl, rfl⟩
  obtain ⟨events, hParse, hLength⟩ := hAccepted
  refine ⟨by decide +kernel, events, hParse, hLength, fun event hEvent => ?_⟩
  refine (routed_back (s := (configuredAdapter .binance).session .primary 0) hCanonical rfl _
    (show JsonText.fromStr coinFrame.display = .ok coinFrame by rfl) ?_ hParse event hEvent).2
    coinKey (List.mem_singleton_self _) ?_
  · decide +kernel
  · decide +kernel

end Folding

end MarketStreamGateway
