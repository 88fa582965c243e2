import MarketStreamGateway.Exponents

/-!
# Market Stream Gateway — decimals sent as numbers

MEXC and KuCoin send some decimals as JSON numbers. What an event records of
such a number is not the member of the document but the lexeme its handler goes
by: a search of the text for the name, or the document's own rendering.

* `recorded_lexeme` — every decimal of an accepted frame is recorded as that
  lexeme.
* `number_recorded_iff` — so it is recorded faithfully exactly if the lexeme is
  faithful.
-/

namespace MarketStreamGateway

open Lib

/-! ## What an event records -/

/-- The decimals of an event. -/
inductive Recorded where
  | ticker (field : Field)
  | candle (part : CandlePart)
  deriving DecidableEq, Repr

/-- The text that an event shows for a decimal. -/
def ProviderEvent.recorded (event : ProviderEvent) : Recorded → Option Text
  | .ticker field => match event.payload with
    | .ticker ticker => (ticker.get field).map (·.value.text)
    | .candle _ => none
  | .candle part => match event.payload with
    | .candle candle => (candle.get part).map (·.text)
    | .ticker _ => none

/-- The text denotes the number, with the digits of the number if that has no
exponent. -/
def Faithful (text : Text) (t : NumberToken) : Prop :=
  Denotes text t.value ∧ (t.Plain → text = t.text)

/-- A lexeme as the candle path has it: an exponent is worked out. -/
def workedOut [RustDecimal] (text : Text) : Text :=
  if text.any fun c => c = 'e' || c = 'E' then
    ((RustDecimal.fromScientific text).map RustDecimal.toText).getD text
  else text

/-! ## What a frame sends -/

/-- The feeds of KuCoin. -/
inductive KucoinFeed where
  | tickerV2 | execution | markIndex | funding | candle
  deriving DecidableEq, Repr

/-- The feed a frame belongs to, by its topic and its subject. -/
def KucoinFeed.of (topic : Text) (subject : Option Text) : Option KucoinFeed :=
  if subject = some "tickerV2".toList ∨ "/contractMarket/tickerV2:".toList.isPrefixOf topic then
    some .tickerV2
  else if subject = some "match".toList ∨
      "/contractMarket/execution:".toList.isPrefixOf topic then
    some .execution
  else if subject = some "mark.index.price".toList then some .markIndex
  else if subject = some "funding.rate".toList then some .funding
  else if subject = some "candle.stick".toList ∨
      "/contractMarket/limitCandle:".toList.isPrefixOf topic then
    some .candle
  else none

/-- The feed of a document. -/
def kucoinFeed (value : Value) : Option KucoinFeed :=
  match value.get "topic".toList with
  | some (.string topic) => KucoinFeed.of topic ((value.get "subject".toList).bind Value.asStr)
  | _ => none

namespace KucoinFeed

/-- The decimal fields of a feed, with their names in the data. -/
def names : KucoinFeed → List (Field × Text)
  | tickerV2 => KucoinSession.tickerV2Names
  | execution => KucoinSession.executionNames
  | markIndex => KucoinSession.markIndexNames
  | funding => KucoinSession.fundingNames
  | candle => []

/-- The handler looks a number up in the text of the frame. -/
def scans : KucoinFeed → Bool
  | markIndex | funding => true
  | tickerV2 | execution | candle => false

end KucoinFeed

section Frames

variable [RustDecimal] [Lexemes]

/-- The number a frame has in its own data for a decimal of its event, and the
lexeme the handler of the frame goes by. -/
inductive Sent (v : Lexical) : Provider → Recorded → NumberToken → Text → Prop where
  | mexcTicker {field : Field} {name : Text} {t : NumberToken}
      (hChannel : v.value.get "channel".toList = some (.string "push.ticker".toList))
      (hName : (field, name) ∈ MexcSession.tickerNames)
      (hNumber : (v.get "data".toList).bind (Lexical.get name) = some (.number t)) :
      Sent v .mexc (.ticker field) t (lexeme v.tokens name t)
  /-- The rate stands under one of two names. -/
  | mexcFunding {data member : Value} {name : Text} {t : NumberToken}
      (hChannel : v.value.get "channel".toList = some (.string "push.funding.rate".toList))
      (hData : v.value.get "data".toList = some data)
      (hName : MexcSession.rateField data = .ok (name, member))
      (hNumber : (v.get "data".toList).bind (Lexical.get name) = some (.number t)) :
      Sent v .mexc (.ticker .fundingRate) t (lexeme v.tokens name t)
  | mexcCandle {part : CandlePart} {name : Text} {t : NumberToken}
      (hChannel : v.value.get "channel".toList = some (.string "push.kline".toList))
      (hName : (part, name) ∈ MexcSession.candleNames)
      (hNumber : (v.get "data".toList).bind (Lexical.get name) = some (.number t)) :
      Sent v .mexc (.candle part) t (workedOut (lexeme v.tokens name t))
  | kucoinTicker {feed : KucoinFeed} {field : Field} {name : Text} {t : NumberToken}
      (hFeed : kucoinFeed v.value = some feed) (hName : (field, name) ∈ feed.names)
      (hNumber : (v.get "data".toList).bind (Lexical.get name) = some (.number t)) :
      Sent v .kucoin (.ticker field) t
        (if feed.scans then lexeme v.tokens name t else (Lexemes.number t).display)
  | kucoinCandle {part : CandlePart} {i : Nat} {items : List Lexical} {t : NumberToken}
      (hFeed : kucoinFeed v.value = some .candle)
      (hItems : (v.get "data".toList).bind (Lexical.get "candles".toList) = some (.array items))
      (hPosition : (part, i) ∈ KucoinSession.candlePositions)
      (hNumber : items[i]? = some (.number t)) :
      Sent v .kucoin (.candle part) t (Lexemes.number t).display

omit [RustDecimal] in
/-- A number of the data, as the document has it. -/
theorem number_of_tree {v : Lexical} {name : Text} {t : NumberToken}
    (h : (v.get "data".toList).bind (Lexical.get name) = some (.number t)) {data : Value}
    (hData : v.value.get "data".toList = some data) :
    data.get name = some (.number (Lexemes.number t)) := by
  obtain ⟨tree, hTree, hNumber⟩ := Option.bind_eq_some_iff.mp h
  rw [Lexical.get_value, hTree] at hData
  obtain rfl := Option.some.inj hData
  rw [Lexical.get_value, hNumber, Option.map_some, Lexical.value]

end Frames

/-! ## Handlers that read tickers -/

section Tickers

variable [RustDecimal]

/-- The update writes what the handler shows of a number. -/
def WritesNumbers (names : List (Field × Text)) (data : Value) (shown : Text → Number → Text)
    (u : Update) : Prop :=
  ∀ field name n, (field, name) ∈ names → data.get name = some (.number n) →
    ∃ observedAtMs, u.written field = some (some ⟨⟨shown name n⟩, observedAtMs⟩)

/-- What the search of the text finds, or else the document's rendering. -/
def searched (text name : Text) (n : Number) : Text := (rawNumberField text name).getD n.display

/-- A ticker field of MEXC that is sent as a number is written with the lexeme
that the search finds. -/
theorem MexcSession.updateObservation_number {target : Field} {data : Value} {name text : Text}
    {observedAtMs : Nat} {n : Number} {writes : List (Field × Option ObservedDecimal)}
    (hNumber : data.get name = some (.number n))
    (h : updateObservation target data name observedAtMs text = .ok writes) :
    writes = [(target, some ⟨⟨searched text name n⟩, observedAtMs⟩)] := by
  unfold updateObservation at h
  rw [hNumber] at h
  dsimp only at h
  rw [if_neg (by simp [Value.isNull, Value.asStr])] at h
  obtain ⟨observed, hObserved, rfl⟩ := map_eq_ok.mp h
  obtain ⟨hText, hAt⟩ := observation_ok hObserved
  have hShown : searched text name n = observed.value.text := Except.ok.inj hText
  rw [hShown, ← hAt]

omit [RustDecimal] in
/-- A number that some write shows, and that no write of the field shows
otherwise. -/
theorem written_of_writes {u : Update} {field : Field} {observed : ObservedDecimal}
    (hMem : (field, some observed) ∈ u.writes)
    (hOnly : ∀ w ∈ u.writes, w.1 = field → w.2 = some observed) :
    u.written field = some (some observed) := by
  rw [Update.written, Update.lastWritten_of_mem hMem hOnly, Option.orElse_some]

namespace MexcSession

theorem parseTicker_numbers [Unicode] {value data : Value} {text : Text} {r : Reading}
    (h : parseTicker value text = .ok r) (hData : value.get "data".toList = some data) :
    ∃ u error, r = .priced u error ∧ WritesNumbers tickerNames data (searched text) u := by
  obtain ⟨u, error, outerSymbol, found, observedAtMs, hr, -, hFound, -, -, ⟨-, hWrites⟩, hParts⟩ :=
    parseTicker_ok h
  obtain rfl := Option.some.inj (hFound.symm.trans hData)
  refine ⟨u, error, hr, fun field name n hName hNumber => ⟨observedAtMs, ?_⟩⟩
  refine written_of_writes ?_ fun w hw hField => ?_
  · obtain ⟨part, hPart, hRead⟩ := hParts field name hName
    rw [updateObservation_number hNumber hRead] at hPart
    exact hPart (List.mem_singleton_self _)
  · obtain ⟨other, member, observed, hOther, hValue, hMember, hText, hAt⟩ := hWrites w hw
    rw [hField] at hOther
    -- each field has one name
    have hSame : other = name := by
      have hNodup : (tickerNames.map Prod.fst).Nodup := by decide
      exact congrArg Prod.snd (List.inj_on_of_nodup_map hNodup hOther hName rfl)
    rw [hSame, hNumber] at hMember
    rw [hSame, ← Option.some.inj hMember] at hText
    have hShown : searched text name n = observed.value.text := Except.ok.inj hText
    rw [hValue, hShown, ← hAt]

theorem parseFunding_numbers [Unicode] {value data member : Value} {text name : Text} {r : Reading}
    (h : parseFunding value text = .ok r) (hData : value.get "data".toList = some data)
    (hRate : rateField data = .ok (name, member)) :
    ∃ u, r = .held u ∧ WritesNumbers [(.fundingRate, name)] data (searched text) u := by
  unfold parseFunding at h
  obtain ⟨outerSymbol, -, h⟩ := bind_eq_ok.mp h
  obtain ⟨found, hFound, h⟩ := bind_eq_ok.mp h
  obtain rfl := Option.some.inj ((requiredObject_eq hFound).symm.trans hData)
  obtain ⟨symbol, -, h⟩ := bind_eq_ok.mp h
  obtain ⟨observedAtMs, -, h⟩ := bind_eq_ok.mp h
  rw [hRate, ok_bind] at h
  obtain ⟨funding, hFunding, h⟩ := bind_eq_ok.mp h
  obtain ⟨nextFundingTime, -, h⟩ := bind_eq_ok.mp h
  obtain rfl := Except.ok.inj h
  refine ⟨_, rfl, fun field other n hName hNumber => ⟨observedAtMs, ?_⟩⟩
  obtain ⟨rfl, rfl⟩ := Prod.mk.inj (List.mem_singleton.mp hName)
  obtain rfl := Option.some.inj ((rateField_ok hRate).2.symm.trans hNumber)
  obtain ⟨hText, hAt⟩ := observation_ok hFunding
  have hShown : searched text other n = funding.value.text := Except.ok.inj hText
  rw [hShown, ← hAt]
  rfl

end MexcSession

namespace KucoinSession

/-- What a handler of KuCoin shows of a number, which it is given the text for
or not. -/
def shownNumber (text : Option Text) (name : Text) (n : Number) : Text :=
  (text.bind (rawNumberField · name)).getD n.display

/-- A member of KuCoin that is sent as a number is observed with its lexeme. -/
theorem observationFromField_number {data : Value} {name : Text} {observedAtMs : Nat}
    {text : Option Text} {observed : ObservedDecimal} {n : Number}
    (h : observationFromField data name observedAtMs text = .ok observed)
    (hNumber : data.get name = some (.number n)) :
    observed = ⟨⟨shownNumber text name n⟩, observedAtMs⟩ := by
  obtain ⟨member, hMember, hText, hAt⟩ := observationFromField_ok h
  rw [hNumber] at hMember
  obtain rfl := Option.some.inj hMember
  have hShown : shownNumber text name n = observed.value.text := Except.ok.inj hText
  rw [hShown, ← hAt]

/-- A tickerV2 frame writes its numbers as the document prints them. -/
theorem parseTickerV2_numbers {value data : Value} {r : Reading} (h : parseTickerV2 value = .ok r)
    (hData : value.get "data".toList = some data) :
    ∃ u sequence, r = .sequenced u sequence ∧
      WritesNumbers tickerV2Names data (shownNumber none) u := by
  unfold parseTickerV2 at h
  obtain ⟨⟨found, symbol, observedAtMs⟩, hIdentity, h⟩ := bind_eq_ok.mp h
  obtain ⟨topic, time, -, hFound, -⟩ := tickerIdentity_ok hIdentity
  obtain rfl := Option.some.inj (hFound.symm.trans hData)
  obtain ⟨bid, hBid, h⟩ := bind_eq_ok.mp h
  obtain ⟨ask, hAsk, h⟩ := bind_eq_ok.mp h
  obtain rfl := Except.ok.inj h
  refine ⟨_, _, rfl, fun field name n hName hNumber => ⟨observedAtMs, ?_⟩⟩
  simp only [tickerV2Names, List.mem_cons, Prod.mk.injEq, List.not_mem_nil, or_false] at hName
  -- the bid and the ask
  rcases hName with ⟨rfl, rfl⟩ | ⟨rfl, rfl⟩
  · rw [← observationFromField_number hBid hNumber]
    rfl
  · rw [← observationFromField_number hAsk hNumber]
    rfl

theorem parseExecution_numbers {value data : Value} {r : Reading} (h : parseExecution value = .ok r)
    (hData : value.get "data".toList = some data) :
    ∃ u sequence, r = .sequenced u sequence ∧
      WritesNumbers executionNames data (shownNumber none) u := by
  unfold parseExecution at h
  obtain ⟨⟨found, symbol, observedAtMs⟩, hIdentity, h⟩ := bind_eq_ok.mp h
  obtain ⟨topic, time, -, hFound, -⟩ := tickerIdentity_ok hIdentity
  obtain rfl := Option.some.inj (hFound.symm.trans hData)
  obtain ⟨last, hLast, h⟩ := bind_eq_ok.mp h
  obtain rfl := Except.ok.inj h
  refine ⟨_, _, rfl, fun field name n hName hNumber => ⟨observedAtMs, ?_⟩⟩
  obtain ⟨rfl, rfl⟩ := Prod.mk.inj (List.mem_singleton.mp hName)
  rw [← observationFromField_number hLast hNumber]
  rfl

theorem parseMarkIndex_numbers {value data : Value} {topic text : Text} {r : Reading}
    (h : parseMarkIndex value topic text = .ok r) (hData : value.get "data".toList = some data) :
    ∃ u, r = .single u ∧ WritesNumbers markIndexNames data (shownNumber (some text)) u := by
  unfold parseMarkIndex at h
  obtain ⟨symbol, -, h⟩ := bind_eq_ok.mp h
  obtain ⟨found, hFound, h⟩ := bind_eq_ok.mp h
  obtain rfl := Option.some.inj ((requiredObject_eq hFound).symm.trans hData)
  obtain ⟨time, -, h⟩ := bind_eq_ok.mp h
  obtain ⟨observedAtMs, -, h⟩ := bind_eq_ok.mp h
  obtain ⟨mark, hMark, h⟩ := bind_eq_ok.mp h
  obtain ⟨index, hIndex, h⟩ := bind_eq_ok.mp h
  obtain rfl := Except.ok.inj h
  refine ⟨_, rfl, fun field name n hName hNumber => ⟨observedAtMs, ?_⟩⟩
  simp only [markIndexNames, List.mem_cons, Prod.mk.injEq, List.not_mem_nil, or_false] at hName
  -- the mark price and the index price
  rcases hName with ⟨rfl, rfl⟩ | ⟨rfl, rfl⟩
  · rw [← observationFromField_number hMark hNumber]
    rfl
  · rw [← observationFromField_number hIndex hNumber]
    rfl

theorem parseFunding_numbers {value data : Value} {topic text : Text} {r : Reading}
    (h : parseFunding value topic text = .ok r) (hData : value.get "data".toList = some data) :
    ∃ u, r = .single u ∧ WritesNumbers fundingNames data (shownNumber (some text)) u := by
  unfold parseFunding at h
  obtain ⟨symbol, -, h⟩ := bind_eq_ok.mp h
  obtain ⟨found, hFound, h⟩ := bind_eq_ok.mp h
  obtain rfl := Option.some.inj ((requiredObject_eq hFound).symm.trans hData)
  obtain ⟨time, -, h⟩ := bind_eq_ok.mp h
  obtain ⟨observedAtMs, -, h⟩ := bind_eq_ok.mp h
  obtain ⟨funding, hFunding, h⟩ := bind_eq_ok.mp h
  obtain rfl := Except.ok.inj h
  refine ⟨_, rfl, fun field name n hName hNumber => ⟨observedAtMs, ?_⟩⟩
  obtain ⟨rfl, rfl⟩ := Prod.mk.inj (List.mem_singleton.mp hName)
  rw [← observationFromField_number hFunding hNumber]
  rfl

end KucoinSession

/-- The handler of a feed. -/
def KucoinFeed.parse (value : Value) (topic text : Text) : KucoinFeed → Except AdapterError Reading
  | tickerV2 => KucoinSession.parseTickerV2 value
  | execution => KucoinSession.parseExecution value
  | markIndex => KucoinSession.parseMarkIndex value topic text
  | funding => KucoinSession.parseFunding value topic text
  | candle => KucoinSession.parseCandle value

/-- The topic and the subject of a KuCoin frame pick its feed. -/
theorem KucoinFeed.parseMarketMessage_eq (value : Value) (text : Text) :
    KucoinSession.parseMarketMessage value text =
      KucoinSession.requiredString value "topic".toList >>= fun topic =>
        match KucoinFeed.of topic ((value.get "subject".toList).bind Value.asStr) with
        | some feed => feed.parse value topic text
        | none => .ok .ignored := by
  unfold KucoinSession.parseMarketMessage KucoinFeed.of
  congr
  funext topic
  dsimp only
  split_ifs <;> rfl

/-- A frame that is read is read by the handler of its feed. -/
theorem KucoinFeed.reading_eq {feed : KucoinFeed} {value : Value}
    (hFeed : kucoinFeed value = some feed) (text : Text)
    (hRead : ∀ error, KucoinSession.reading value text ≠ .refused error) :
    ∃ topic, feed.parse value topic text = .ok (KucoinSession.reading value text) := by
  unfold KucoinSession.reading at hRead ⊢
  rcases Reading.ofExcept_cases (KucoinSession.parseMarketMessage value text)
    with ⟨error, hError⟩ | ⟨r, hOk, hr⟩
  · exact absurd hError (hRead error)
  · rw [hr]
    rw [parseMarketMessage_eq] at hOk
    obtain ⟨topic, hTopic, hOk⟩ := bind_eq_ok.mp hOk
    rw [kucoinFeed, KucoinSession.requiredString_eq hTopic] at hFeed
    rw [show KucoinFeed.of topic _ = some feed from hFeed] at hOk
    exact ⟨topic, hOk⟩

/-- The ticker handlers of KuCoin write the numbers of a frame as they show
them. -/
theorem KucoinFeed.numbers {feed : KucoinFeed} {value data : Value} {topic text : Text}
    {r : Reading} (h : feed.parse value topic text = .ok r)
    (hData : value.get "data".toList = some data) (hTicker : feed ≠ .candle) :
    ∃ u, r.updates = [u] ∧ WritesNumbers feed.names data
      (KucoinSession.shownNumber (if feed.scans then some text else none)) u := by
  cases feed with
  | tickerV2 =>
    obtain ⟨u, sequence, rfl, hWrites⟩ := KucoinSession.parseTickerV2_numbers h hData
    exact ⟨u, rfl, hWrites⟩
  | execution =>
    obtain ⟨u, sequence, rfl, hWrites⟩ := KucoinSession.parseExecution_numbers h hData
    exact ⟨u, rfl, hWrites⟩
  | markIndex =>
    obtain ⟨u, rfl, hWrites⟩ := KucoinSession.parseMarkIndex_numbers h hData
    exact ⟨u, rfl, hWrites⟩
  | funding =>
    obtain ⟨u, rfl, hWrites⟩ := KucoinSession.parseFunding_numbers h hData
    exact ⟨u, rfl, hWrites⟩
  | candle => exact absurd rfl hTicker

end Tickers

/-! ## Accepted frames -/

section Sessions

variable [Unicode] [JsonText] [RustDecimal] [Serde]

/-- The reading of a frame that gives events. -/
theorem accepted_reading {provider : Provider} {s : (configuredAdapter provider).Session}
    {text : Text} {value : Value} {receivedAtMs : Nat} {events : List ProviderEvent}
    (hJson : JsonText.fromStr text = .ok value)
    (hParse : ((configuredAdapter provider).parse s text receivedAtMs).1 = .ok (.events events)) :
    ((reading provider value text receivedAtMs).handle provider (sessionEpoch provider s)
      receivedAtMs (sessionTickers provider s)).1 = .ok (some events) := by
  have hHandle := parse_events hParse
  unfold frameReading at hHandle
  -- a frame that leaves events is market data
  cases hMarket : marketValue provider text with
  | none =>
    rw [hMarket] at hHandle
    cases hHandle
  | some found =>
    rw [hMarket] at hHandle
    have hSame := (marketValue_eq_some.mp hMarket).1
    rw [hJson] at hSame
    rw [Except.ok.inj hSame]
    exact hHandle

variable {provider : Provider} {connectionEpoch : Uuid} {receivedAtMs : Nat} {tickers : Tickers}
  {r : Reading} {events : List ProviderEvent} {event : ProviderEvent}

omit [Unicode] [JsonText] [RustDecimal] [Serde] in
/-- An event of a frame with one update shows the field it writes. -/
theorem recorded_written {u : Update} (hUpdates : r.updates = [u]) {field : Field}
    {observed : ObservedDecimal} (hWritten : u.written field = some (some observed))
    (hHandle : (r.handle provider connectionEpoch receivedAtMs tickers).1 = .ok (some events))
    (hEvent : event ∈ events) : event.recorded (.ticker field) = some observed.value.text := by
  rcases Reading.handle_events provider connectionEpoch receivedAtMs hHandle
    with ⟨items, rfl, -⟩ | hAll
  · cases hUpdates
  · obtain ⟨i, hi⟩ := List.mem_iff_getElem?.mp hEvent
    obtain ⟨v, hv, -, -, -, -, -, hPayload⟩ := hAll i event hi
    have hMem := Reading.applied_subset tickers r (List.mem_of_getElem? hv)
    rw [hUpdates] at hMem
    obtain rfl := List.mem_singleton.mp hMem
    rw [ProviderEvent.recorded, hPayload]
    dsimp only
    rw [updated, Update.get_apply, hWritten]
    rfl

omit [Unicode] [JsonText] [RustDecimal] [Serde] in
/-- A candle event shows the decimals of its candle. -/
theorem recorded_candle {c : CandleUpdate}
    (hHandle : ((Reading.candles [c]).handle provider connectionEpoch receivedAtMs tickers).1 =
      .ok (some events)) (hEvent : event ∈ events) (part : CandlePart) :
    event.recorded (.candle part) = (c.candle.get part).map (·.text) := by
  obtain rfl := Option.some.inj (Except.ok.inj hHandle)
  obtain rfl := List.mem_singleton.mp hEvent
  rfl

omit [JsonText] [Serde] in
/-- The handler of a frame of MEXC that gives events. -/
theorem mexc_handled {value : Value} {text : Text}
    (hHandle : ((MexcSession.reading value text).handle provider connectionEpoch receivedAtMs
      tickers).1 = .ok (some events)) :
    MexcSession.Handles value text (MexcSession.reading value text) := by
  rcases MexcSession.reading_cases value text with hIgnored | ⟨error, hRefused⟩ | hHandles
  · rw [hIgnored] at hHandle
    cases hHandle
  · rw [hRefused] at hHandle
    cases hHandle
  · exact hHandles

omit [Unicode] [JsonText] [Serde] in
/-- A decimal of a candle is the lexeme, with its exponent worked out. -/
theorem mexc_decimal_number {n : Number} {name text : Text} {decimal : DecimalValue}
    (h : MexcSession.decimal (.number n) name text = .ok decimal) :
    decimal.text = workedOut (searched text name n) := by
  unfold MexcSession.decimal at h
  obtain ⟨raw, hRaw, h⟩ := bind_eq_ok.mp h
  obtain rfl : searched text name n = raw := Except.ok.inj hRaw
  unfold workedOut
  dsimp only at h
  split at h
  · -- a number with an exponent is worked out first
    next hMarker =>
    rw [if_pos hMarker]
    cases hParsed : RustDecimal.fromScientific (searched text name n) with
    | none =>
      rw [hParsed] at h
      cases h
    | some parsed =>
      rw [hParsed] at h
      rw [decimal_eq (mapError_eq_ok.mp h)]
      rfl
  · next hPlain =>
    rw [if_neg hPlain, decimal_eq (mapError_eq_ok.mp h)]

omit [JsonText] [Serde] in
/-- Frames of MEXC. -/
theorem mexc_recorded [Lexemes] {v : Lexical} {text : Text} (hText : Spells v.tokens text)
    {d : Recorded} {t : NumberToken} {shown : Text} (hSent : Sent v .mexc d t shown)
    (hHandle : ((MexcSession.reading v.value text).handle provider connectionEpoch receivedAtMs
      tickers).1 = .ok (some events)) (hEvent : event ∈ events) :
    event.recorded d = some shown := by
  have hLexeme : ∀ name, searched text name (Lexemes.number t) = lexeme v.tokens name t := by
    intro name
    rw [searched, rawNumberField_spells hText, lexeme]
  -- the channel decides the handler, so the other two do not apply
  have hChannels : ∀ {channel other : Text},
      v.value.get "channel".toList = some (.string channel) →
      v.value.get "channel".toList = some (.string other) → channel = other := by
    intro channel other hChannel hOther
    rw [hChannel] at hOther
    exact Value.string.inj (Option.some.inj hOther)
  cases hSent with
  | @mexcTicker field name _ hChannel hName hNumber =>
    cases mexc_handled hHandle with
    | ticker channel parsed =>
      obtain ⟨_, _, _, data, _, _, -, hData, -⟩ := MexcSession.parseTicker_ok parsed
      obtain ⟨u, error, hr, hWrites⟩ := MexcSession.parseTicker_numbers parsed hData
      obtain ⟨observedAtMs, hWritten⟩ := hWrites field name _ hName (number_of_tree hNumber hData)
      have hUpdates : (MexcSession.reading v.value text).updates = [u] := by
        rw [hr]
        rfl
      rw [← hLexeme name]
      exact recorded_written hUpdates hWritten hHandle hEvent
    | funding channel parsed => exact absurd (hChannels hChannel channel) (by decide)
    | candle channel parsed => exact absurd (hChannels hChannel channel) (by decide)
  | @mexcFunding data member name _ hChannel hData hName hNumber =>
    cases mexc_handled hHandle with
    | funding channel parsed =>
      obtain ⟨u, hr, hWrites⟩ := MexcSession.parseFunding_numbers parsed hData hName
      obtain ⟨observedAtMs, hWritten⟩ :=
        hWrites .fundingRate name _ (List.mem_singleton_self _) (number_of_tree hNumber hData)
      have hUpdates : (MexcSession.reading v.value text).updates = [u] := by
        rw [hr]
        rfl
      rw [← hLexeme name]
      exact recorded_written hUpdates hWritten hHandle hEvent
    | ticker channel parsed => exact absurd (hChannels hChannel channel) (by decide)
    | candle channel parsed => exact absurd (hChannels hChannel channel) (by decide)
  | @mexcCandle part name _ hChannel hName hNumber =>
    cases mexc_handled hHandle with
    | candle channel parsed =>
      obtain ⟨c, outerSymbol, data, hr, -, hData, -, hCarries⟩ := MexcSession.parseCandle_ok parsed
      obtain ⟨decimal, hDecimal, hPart⟩ :=
        hCarries part name _ hName (number_of_tree hNumber hData)
      rw [hr] at hHandle
      rw [recorded_candle hHandle hEvent part, hPart, Option.map_some,
        mexc_decimal_number hDecimal, hLexeme name]
    | ticker channel parsed => exact absurd (hChannels hChannel channel) (by decide)
    | funding channel parsed => exact absurd (hChannels hChannel channel) (by decide)

omit [Unicode] [JsonText] [Serde] in
/-- Frames of KuCoin. -/
theorem kucoin_recorded [Lexemes] {v : Lexical} {text : Text} (hText : Spells v.tokens text)
    {d : Recorded} {t : NumberToken} {shown : Text} (hSent : Sent v .kucoin d t shown)
    (hHandle : ((KucoinSession.reading v.value text).handle provider connectionEpoch receivedAtMs
      tickers).1 = .ok (some events)) (hEvent : event ∈ events) :
    event.recorded d = some shown := by
  have hRead : ∀ error, KucoinSession.reading v.value text ≠ .refused error := by
    intro error hRefused
    rw [hRefused] at hHandle
    cases hHandle
  cases hSent with
  | @kucoinTicker feed field name _ hFeed hName hNumber =>
    obtain ⟨topic, hParse⟩ := KucoinFeed.reading_eq hFeed text hRead
    -- no ticker field is read from a candle
    have hTicker : feed ≠ .candle := by
      rintro rfl
      cases hName
    obtain ⟨tree, hTree, -⟩ := Option.bind_eq_some_iff.mp hNumber
    have hData : v.value.get "data".toList = some tree.value := by
      rw [Lexical.get_value, hTree, Option.map_some]
    obtain ⟨u, hUpdates, hWrites⟩ := KucoinFeed.numbers hParse hData hTicker
    obtain ⟨observedAtMs, hWritten⟩ := hWrites field name _ hName (number_of_tree hNumber hData)
    rw [recorded_written hUpdates hWritten hHandle hEvent]
    -- a feed either looks the number up in the text or prints the one it has parsed
    cases feed.scans with
    | true =>
      rw [if_pos rfl, if_pos rfl, KucoinSession.shownNumber, Option.bind_some,
        rawNumberField_spells hText, lexeme]
    | false => rfl
  | @kucoinCandle part i items _ hFeed hItems hPosition hNumber =>
    obtain ⟨topic, hParse⟩ := KucoinFeed.reading_eq hFeed text hRead
    obtain ⟨c, _, data, hr, -, hData, -, -, values, hValues, hCarries⟩ :=
      KucoinSession.parseCandle_ok hParse
    rw [hr] at hHandle
    obtain ⟨tree, hTree, hArray⟩ := Option.bind_eq_some_iff.mp hItems
    rw [Lexical.get_value, hTree] at hData
    obtain rfl := Option.some.inj hData
    rw [Lexical.get_value, hArray, Option.map_some, Lexical.value] at hValues
    have hSame := Value.array.inj (Option.some.inj hValues)
    -- candles are read by position, and the position holds the token
    have hItem : values[i]? = some (.number (Lexemes.number t)) := by
      rw [← hSame, Lexical.itemValues_eq, List.getElem?_map, hNumber, Option.map_some,
        Lexical.value]
    rw [recorded_candle hHandle hEvent part, hCarries part i _ hPosition hItem, Option.map_some]

/-- **The recorded decimal.** Every decimal of an accepted frame is recorded as the
lexeme its handler goes by. -/
theorem recorded_lexeme [Lexemes] {v : Lexical} {text : Text} (hText : Spells v.tokens text)
    (hJson : JsonText.fromStr text = .ok v.value) {d : Recorded} {t : NumberToken} {shown : Text}
    (hSent : Sent v provider d t shown) {s : (configuredAdapter provider).Session}
    (hParse : ((configuredAdapter provider).parse s text receivedAtMs).1 = .ok (.events events))
    (hEvent : event ∈ events) : event.recorded d = some shown := by
  have hHandle := accepted_reading hJson hParse
  cases provider with
  | mexc => exact mexc_recorded hText hSent hHandle hEvent
  | kucoin => exact kucoin_recorded hText hSent hHandle hEvent
  | bybit | binance | okx | bingx => cases hSent

/-- **Numbers.** The decimal an accepted frame's event records for a number of the
frame's data is faithful to the number exactly if the lexeme that the handler
goes by is. -/
theorem number_recorded_iff [Lexemes] {v : Lexical} {text : Text} (hText : Spells v.tokens text)
    (hJson : JsonText.fromStr text = .ok v.value) {d : Recorded} {t : NumberToken} {shown : Text}
    (hSent : Sent v provider d t shown) (s : (configuredAdapter provider).Session)
    (hParse : ((configuredAdapter provider).parse s text receivedAtMs).1 = .ok (.events events))
    (hEvent : event ∈ events) :
    (∃ recorded, event.recorded d = some recorded ∧ Faithful recorded t) ↔ Faithful shown t := by
  have hRecorded := recorded_lexeme hText hJson hSent hParse hEvent
  constructor
  · rintro ⟨recorded, hSome, hFaithful⟩
    rw [hRecorded] at hSome
    rw [Option.some.inj hSome]
    exact hFaithful
  · intro hFaithful
    exact ⟨shown, hRecorded, hFaithful⟩

end Sessions

section Stray

/-! A ticker frame of MEXC with a last price of two, and one with another number
of that name before its data. -/

/-- A ticker frame of MEXC with a last price of two, and other members before its data. -/
def priceFrame (stray : List (Raw × Lexical)) : Lexical :=
  .object ([
    (Raw.of "channel".toList, .string (Raw.of "push.ticker".toList)),
    (Raw.of "symbol".toList, .string (Raw.of "BTC_USDT".toList))] ++ stray ++ [
    (Raw.of "data".toList, .object [
      (Raw.of "symbol".toList, .string (Raw.of "BTC_USDT".toList)),
      (Raw.of "timestamp".toList, .number (integerToken '5' isDigit_five)),
      (Raw.of "lastPrice".toList, .number (integerToken '2' rfl))])])

/-- The frame with nothing before its data. -/
def ownFrame : Lexical := priceFrame []

/-- The frame with another number of that name before its data. -/
def strayFrame : Lexical :=
  priceFrame [(Raw.of "lastPrice".toList, .number (integerToken '1' isDigit_one))]

local instance strayUnicode : Unicode := .ascii
local instance strayLexemes : Lexemes := .plain
local instance strayJson : JsonText := .table
  [(compactText ownFrame, ownFrame.value), (compactText strayFrame, strayFrame.value)]
local instance strayDecimal : RustDecimal := .grammar
local instance straySerde : Serde := .mute

/-- The event of such a frame, with some last price. -/
def priceEvent (price : Text) : ProviderEvent where
  connectionEpoch := 0
  provider := .mexc
  market := .linearPerpetual
  symbol := "BTC_USDT".toList
  exchangeTimeMs := some 5
  gatewayReceivedTimeMs := 6
  sourceSequence := none
  payload := .ticker { last := some ⟨⟨price⟩, 5⟩ }

/-- The event of the plain frame records its number. -/
theorem number_recorded_iff_ownFrame :
    ∃ recorded, (priceEvent "2".toList).recorded (.ticker .last) = some recorded ∧
      Faithful recorded (integerToken '2' rfl) := by
  refine (number_recorded_iff (v := ownFrame) (d := .ticker .last) (t := integerToken '2' rfl)
    (spells_compact (by decide +kernel)) rfl (.mexcTicker rfl (.head _) rfl)
    (MexcSession.new .primary 0) (show _ = _ from rfl) (List.mem_singleton_self _)).mpr ?_
  exact ⟨⟨integerToken '2' rfl, rfl, rfl⟩, fun _ => rfl⟩

/-- The other number is recorded. -/
theorem stray_number_recorded :
    Spells strayFrame.tokens (compactText strayFrame) ∧
    JsonText.fromStr (compactText strayFrame) = .ok strayFrame.value ∧
    Sent strayFrame .mexc (.ticker .last) (integerToken '2' rfl) "1".toList ∧
    ((configuredAdapter .mexc).parse (MexcSession.new .primary 0) (compactText strayFrame) 6).1 =
      .ok (.events [priceEvent "1".toList]) ∧
    ¬ ∃ recorded, (priceEvent "1".toList).recorded (.ticker .last) = some recorded ∧
      Faithful recorded (integerToken '2' rfl) := by
  refine ⟨spells_compact (by decide +kernel), rfl, .mexcTicker rfl (.head _) rfl,
    by decide +kernel, ?_⟩
  rintro ⟨recorded, hRecorded, -, hDigits⟩
  rw [← Option.some.inj hRecorded] at hDigits
  exact absurd (hDigits rfl) (by decide)

end Stray

end MarketStreamGateway
