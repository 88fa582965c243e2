import MarketStreamGateway.Feeds.Session

/-!
# Market Stream Gateway — Bybit tickers as a fold

Bybit sends sparse updates of a ticker: a snapshot starts over, a delta changes
what it names, and an empty text names nothing. `folded` says what the ticker of
a symbol is after such a history, without a cache: every field has its most
recent value since the last snapshot or unsubscription. Main results:

* `folded_concat` — the fold, one entry at a time.
* `parse_accepted` — an accepted frame applies its updates one by one.
* `bybit_cache_folds` — the cache and the events of a session are the fold of
  what the session accepted.
-/

namespace MarketStreamGateway

open Lib

/-! ## The fold -/

/-- A ticker by its fields. -/
def Ticker.ofFields (fields : Field → Option ObservedDecimal) (nextFundingTimeMs : Option Nat) :
    Ticker where
  last := fields .last
  mark := fields .mark
  index := fields .index
  bid := fields .bid
  ask := fields .ask
  fundingRate := fields .fundingRate
  nextFundingTimeMs := nextFundingTimeMs

/-- A ticker made of fields has these fields. -/
@[simp] theorem Ticker.get_ofFields (fields : Field → Option ObservedDecimal) (time : Option Nat)
    (field : Field) : (Ticker.ofFields fields time).get field = fields field := by
  cases field <;> rfl

/-- Two tickers with the same fields and the same funding time are the same. -/
theorem Ticker.ext_get {t t' : Ticker} (h : ∀ field, t.get field = t'.get field)
    (hTime : t.nextFundingTimeMs = t'.nextFundingTimeMs) : t = t' := by
  cases t
  cases t'
  simp only [Ticker.mk.injEq]
  exact ⟨h .last, h .mark, h .index, h .bid, h .ask, h .fundingRate, hTime⟩

namespace BybitSession

/-- What an update says of a field: nothing, if the field is missing or empty. -/
def observed (ts : Nat) (data : BybitTickerData) (field : Field) : Option ObservedDecimal :=
  ((data.get field).filter (!·.isEmpty)).map fun text => ⟨⟨text⟩, ts⟩

/-- The next funding time that an item has, if it is a number. -/
def fundingTime (data : BybitTickerData) : Option Nat :=
  (data.nextFundingTime.filter (!·.isEmpty)).bind Text.parseU64

/-- What a session learns of a ticker. -/
inductive TickerEntry where
  | update (snapshot : Bool) (ts : Nat) (data : BybitTickerData)
  | dropped (symbol : Text)

/-- Of a history with the newest entry first, the updates since the last
snapshot, which is one of them, or the last unsubscription. -/
def sinceReset : List TickerEntry → List (Nat × BybitTickerData)
  | [] => []
  | .dropped _ :: _ => []
  | .update true ts data :: _ => [(ts, data)]
  | .update false ts data :: older => (ts, data) :: sinceReset older

/-- The most recent value of every field, if there is one. -/
def latest (updates : List (Nat × BybitTickerData)) : Ticker :=
  .ofFields (fun field => updates.findSome? fun u => observed u.1 u.2 field)
    (updates.findSome? fun u => fundingTime u.2)

/-- The last-writer-wins fold of a history. -/
def foldedTicker (log : List TickerEntry) : Ticker := latest (sinceReset log.reverse)

/-- The ticker after a history, if there is one. -/
def folded (log : List TickerEntry) : Option Ticker :=
  if (sinceReset log.reverse).isEmpty then none else some (foldedTicker log)

/-- An update over the ticker it starts from. -/
def overlay (snapshot : Bool) (ts : Nat) (data : BybitTickerData) (base : Ticker) : Ticker :=
  let start : Ticker := if snapshot then {} else base
  .ofFields (fun field => (observed ts data field).orElse fun _ => start.get field)
    ((fundingTime data).orElse fun _ => start.nextFundingTimeMs)

/-- What an entry does to the cached ticker of its symbol. -/
def TickerEntry.apply (ticker : Option Ticker) : TickerEntry → Option Ticker
  | update snapshot ts data => some (overlay snapshot ts data (ticker.getD {}))
  | dropped _ => none

/-- The cached ticker of a log, empty if there is none, is the folded one. -/
theorem folded_getD (log : List TickerEntry) : (folded log).getD {} = foldedTicker log := by
  unfold folded foldedTicker
  split
  · next hEmpty =>
    rw [List.isEmpty_iff.mp hEmpty]
    rfl
  · rfl

/-- An item on top of older ones overlays what these leave. -/
theorem latest_cons (ts : Nat) (data : BybitTickerData) (updates : List (Nat × BybitTickerData)) :
    latest ((ts, data) :: updates) = overlay false ts data (latest updates) := by
  refine Ticker.ext_get (fun field => ?_) ?_
  · rw [overlay, latest, Ticker.get_ofFields, Ticker.get_ofFields, List.findSome?_cons]
    cases observed ts data field with
    | none => rw [if_neg Bool.false_ne_true, Option.orElse_none, latest, Ticker.get_ofFields]
    | some value => rfl
  · change List.findSome? _ _ = (fundingTime data).orElse _
    rw [List.findSome?_cons]
    cases fundingTime data <;> rfl

/-- One more entry. -/
theorem folded_concat (log : List TickerEntry) (entry : TickerEntry) :
    folded (log ++ [entry]) = entry.apply (folded log) := by
  have hReverse : (log ++ [entry]).reverse = entry :: log.reverse := List.reverse_concat
  cases entry with
  | dropped symbol =>
    rw [folded, hReverse]
    rfl
  | update snapshot ts data =>
    rw [folded, foldedTicker, hReverse, TickerEntry.apply, folded_getD]
    cases snapshot with
    | true => exact congrArg some (latest_cons ts data [])
    | false => exact congrArg some (latest_cons ts data _)

/-- Applying the entries of a second log to the first one's fold folds both. -/
theorem foldl_apply (log log' : List TickerEntry) :
    log'.foldl TickerEntry.apply (folded log) = folded (log ++ log') := by
  induction log' generalizing log with
  | nil => rw [List.append_nil, List.foldl_nil]
  | cons entry log' ih =>
    rw [List.foldl_cons, ← folded_concat, ih, List.append_assoc, List.singleton_append]

/-! ## What an update does -/

section Updates

variable [Unicode] [RustDecimal]

omit [Unicode] [RustDecimal] in
/-- An optional write writes one field or none. -/
theorem lastWritten_toList (value : Option ObservedDecimal) (target field : Field) :
    Update.lastWritten (value.map fun v => (target, some v)).toList field =
      if target = field then value.map some else none := by
  cases value with
  | none => simp [Update.lastWritten]
  | some v => simp [Update.lastWritten]

/-- A field of an item is written unless it is left out or empty. -/
theorem setObservation_eq {target : Field} {value : Option Text} {observedAtMs : Nat} {name : Text}
    {writes : List (Field × Option ObservedDecimal)}
    (h : setObservation target value observedAtMs name = .ok writes) :
    writes = (((value.filter (!·.isEmpty)).map fun text => ⟨⟨text⟩, observedAtMs⟩).map
      fun v => (target, some v)).toList := by
  unfold setObservation at h
  split at h
  · next hNone =>
    rw [hNone, ← Except.ok.inj h]
    rfl
  · next text hText =>
    obtain ⟨observed, hObserved, rfl⟩ := map_eq_ok.mp h
    rw [hText, observation_eq _ hObserved]
    rfl

omit [RustDecimal] in
/-- The funding time of an item is the one the fold takes. -/
theorem nextFundingTime_eq {value : Option Text} {time : Option (Option Nat)}
    (h : nextFundingTime value = .ok time) :
    time = ((value.filter (!·.isEmpty)).bind Text.parseU64).map some := by
  unfold nextFundingTime at h
  split at h
  · next hNone =>
    rw [hNone, ← Except.ok.inj h]
    rfl
  · next text hText =>
    split at h
    · next hTime =>
      rw [hText, Option.bind_some, hTime, ← Except.ok.inj h]
      rfl
    · cases h

/-- What an update writes to each field. -/
theorem tickerUpdate_spec {envelope : BybitTickerEnvelope} {snapshot : Bool} {symbol : Text}
    {data : BybitTickerData} {u : Update}
    (h : tickerUpdate envelope snapshot symbol data = .ok u) :
    u.symbol = symbol ∧ u.reset = snapshot ∧
      u.nextFundingTimeMs = (fundingTime data).map some ∧
      ∀ field, Update.lastWritten u.writes field = (observed envelope.ts data field).map some := by
  unfold tickerUpdate at h
  obtain ⟨last, hLast, h⟩ := bind_eq_ok.mp h
  obtain ⟨mark, hMark, h⟩ := bind_eq_ok.mp h
  obtain ⟨index, hIndex, h⟩ := bind_eq_ok.mp h
  obtain ⟨bid, hBid, h⟩ := bind_eq_ok.mp h
  obtain ⟨ask, hAsk, h⟩ := bind_eq_ok.mp h
  obtain ⟨funding, hFunding, h⟩ := bind_eq_ok.mp h
  obtain ⟨nextFunding, hNext, h⟩ := bind_eq_ok.mp h
  obtain rfl := Except.ok.inj h
  -- each field is written by its own part of the update
  refine ⟨rfl, rfl, nextFundingTime_eq hNext, fun field => ?_⟩
  simp only [setObservation_eq hLast, setObservation_eq hMark, setObservation_eq hIndex,
    setObservation_eq hBid, setObservation_eq hAsk, setObservation_eq hFunding,
    Update.lastWritten_append, lastWritten_toList]
  cases field <;> simp [observed, BybitTickerData.get]

/-- The ticker an update leads to. -/
theorem tickerUpdate_apply {envelope : BybitTickerEnvelope} {snapshot : Bool} {symbol : Text}
    {data : BybitTickerData} {u : Update}
    (h : tickerUpdate envelope snapshot symbol data = .ok u) (base : Ticker) :
    u.apply base = overlay snapshot envelope.ts data base := by
  obtain ⟨-, hReset, hTime, hWrites⟩ := tickerUpdate_spec h
  refine Ticker.ext_get (fun field => ?_) ?_
  · rw [Update.get_apply, Update.written, hWrites, hReset, overlay, Ticker.get_ofFields]
    cases observed envelope.ts data field with
    | some value => rfl
    | none =>
      cases snapshot with
      | false => rfl
      | true => cases field <;> rfl
  · rw [Update.apply_nextFundingTimeMs, hTime, hReset]
    change _ = (fundingTime data).orElse _
    cases fundingTime data <;> cases snapshot <;> rfl

/-- The symbol an item is filed under. -/
def symbolOf (data : BybitTickerData) : Text :=
  (normalizeSymbol data.symbol).toOption.getD data.symbol

/-- The cache after an item. -/
def storeItem (snapshot : Bool) (ts : Nat) (tickers : Tickers) (data : BybitTickerData) : Tickers :=
  tickers.insert (symbolOf data) (overlay snapshot ts data (cached tickers (symbolOf data)))

/-- The tickers the items of a frame lead to, one by one. -/
def itemTickers (snapshot : Bool) (ts : Nat) : Tickers → List BybitTickerData → List Ticker
  | _, [] => []
  | tickers, data :: rest =>
    overlay snapshot ts data (cached tickers (symbolOf data)) ::
      itemTickers snapshot ts (storeItem snapshot ts tickers data) rest

/-- Storing an item overlays the cached ticker of its symbol. -/
theorem tickerItem_store {envelope : BybitTickerEnvelope} {topicSymbol : Text} {snapshot : Bool}
    {data : BybitTickerData} {u : Update}
    (h : tickerItem envelope topicSymbol snapshot data = .ok u) :
    u.symbol = symbolOf data ∧ (∀ tickers, updated tickers u =
        overlay snapshot envelope.ts data (cached tickers (symbolOf data))) ∧
      ∀ tickers, store tickers u = storeItem snapshot envelope.ts tickers data := by
  obtain ⟨hSymbol, -, hUpdate⟩ := tickerItem_ok h
  have hFiled : u.symbol = symbolOf data := by
    rw [symbolOf, hSymbol]
    rfl
  have hUpdated : ∀ tickers, updated tickers u =
      overlay snapshot envelope.ts data (cached tickers (symbolOf data)) := by
    intro tickers
    rw [updated, tickerUpdate_apply hUpdate, hFiled]
  refine ⟨hFiled, hUpdated, fun tickers => ?_⟩
  rw [store, hUpdated, hFiled, storeItem]

/-- Storing the updates of a frame is storing its items. -/
theorem storeAll_items {envelope : BybitTickerEnvelope} {topicSymbol : Text} {snapshot : Bool}
    {items : List BybitTickerData} {updates : List Update}
    (h : items.map (tickerItem envelope topicSymbol snapshot) = updates.map .ok)
    (tickers : Tickers) :
    storeAll tickers updates = items.foldl (storeItem snapshot envelope.ts) tickers := by
  induction items generalizing updates tickers with
  | nil =>
    rw [List.map_nil, eq_comm, List.map_eq_nil_iff] at h
    rw [h]
    rfl
  | cons data items ih =>
    cases updates with
    | nil => simp at h
    | cons u updates =>
      rw [List.map_cons, List.map_cons, List.cons.injEq] at h
      rw [storeAll, List.foldl_cons, List.foldl_cons, (tickerItem_store h.1).2.2, ← storeAll,
        ih h.2]

end Updates

/-! ## Frames -/

/-- The ticker of an event, if it has one. -/
def tickerOf (event : ProviderEvent) : Option Ticker :=
  match event.payload with
  | .ticker ticker => some ticker
  | .candle _ => none

/-- The tickers a frame shows. -/
def shownTickers : Except AdapterError ParsedFrame → List Ticker
  | .ok (.events events) => events.filterMap tickerOf
  | _ => []

section Frames

variable [Unicode] [JsonText] [RustDecimal] [Serde]

omit [Unicode] [RustDecimal] [Serde] in
/-- The envelope and the items of a ticker frame. -/
def carried (text : Text) : Option (BybitTickerEnvelope × List BybitTickerData) := do
  let value ← marketValue .bybit text
  let topic ← (value.get "topic".toList).bind Value.asStr
  if "tickers.".toList.isPrefixOf topic then
    let envelope ← BybitTickerEnvelope.decode value
    let items ← (itemsOf envelope.data).mapM BybitTickerData.decode
    return (envelope, items)
  else none

omit [Unicode] [JsonText] [RustDecimal] in
/-- One item or many decode to the items of the frame. -/
theorem oneOrMany_items {α : Type} {target name : Text} {decode : Value → Option α} {value : Value}
    {items : List α} (h : oneOrMany target decode value name = .ok items) :
    (itemsOf value).mapM decode = some items := by
  unfold oneOrMany at h
  cases value with
  | object members =>
    obtain ⟨one, hOne, rfl⟩ := map_eq_ok.mp (mapError_eq_ok.mp h)
    rw [itemsOf, List.mapM_cons, Value.fromValue_eq_ok.mp hOne]
    rfl
  | array raws => exact Value.fromValue_eq_ok.mp (mapError_eq_ok.mp h)
  | null | bool _ | number _ | string _ => cases h

omit [Unicode] [JsonText] [RustDecimal] [Serde] in
/-- The type of a frame says whether it is a snapshot. -/
theorem isSnapshot_eq {messageType : Text} {snapshot : Bool}
    (h : isSnapshot messageType = .ok snapshot) :
    snapshot = decide (messageType = "snapshot".toList) := by
  unfold isSnapshot at h
  split at h
  · next hType => rw [decide_eq_true hType, ← Except.ok.inj h]
  · next hType =>
    split at h
    · rw [decide_eq_false hType, ← Except.ok.inj h]
    · cases h

/-- How a frame is read: as the updates of the items it carries, or as nothing
that touches the cache. -/
theorem frameReading_bybit (text : Text) (receivedAtMs : Nat) :
    (∃ envelope items topicSymbol updates, carried text = some (envelope, items) ∧
      items.map (tickerItem envelope topicSymbol
        (decide (envelope.messageType = "snapshot".toList))) = updates.map .ok ∧
      frameReading .bybit text receivedAtMs = .batch updates) ∨
    (∃ error, frameReading .bybit text receivedAtMs = .refused error) ∨
    carried text = none ∧ ((∃ items, frameReading .bybit text receivedAtMs = .candles items) ∨
      frameReading .bybit text receivedAtMs = .ignored) := by
  unfold carried frameReading
  cases hValue : marketValue .bybit text with
  | none => exact .inr (.inr ⟨rfl, .inr rfl⟩)
  | some value =>
    simp only [Option.bind_eq_bind, Option.bind_some, MarketStreamGateway.reading]
    unfold reading
    split
    · next topic hTopic =>
      rw [hTopic, Option.bind_some, Value.asStr, Option.bind_some]
      split
      · -- a ticker frame is refused as a whole or read item by item
        rcases Reading.ofExcept_cases (parseTickers value) with hRefused | ⟨r, hOk, hr⟩
        · exact .inr (.inl hRefused)
        · obtain ⟨envelope, topicSymbol, snapshot, items, updates, hEnvelope, -, hSnapshot, hItems,
            hUpdates, rfl⟩ := parseTickers_ok hOk
          refine .inl ⟨envelope, items, topicSymbol, updates, ?_, ?_, hr⟩
          · rw [hEnvelope, Option.bind_some, oneOrMany_items hItems, Option.bind_some]
            rfl
          · rw [← isSnapshot_eq hSnapshot]
            exact map_of_mapM_eq_ok hUpdates
      · split
        · rcases Reading.ofExcept_cases (parseKlines value) with hRefused | ⟨r, hOk, hr⟩
          · exact .inr (.inl hRefused)
          · obtain ⟨_, _, candles, -, -, rfl, -⟩ := parseKlines_ok hOk
            exact .inr (.inr ⟨rfl, .inl ⟨candles, hr⟩⟩)
        · exact .inr (.inr ⟨rfl, .inr rfl⟩)
    · exact .inr (.inl ⟨_, rfl⟩)
    · next hTopic =>
      rw [hTopic]
      exact .inr (.inr ⟨rfl, .inr rfl⟩)

/-- The items of a ticker frame, as entries. -/
def frameEntries (text : Text) : List TickerEntry :=
  match carried text with
  | some (envelope, items) =>
    items.map (.update (decide (envelope.messageType = "snapshot".toList)) envelope.ts)
  | none => []

omit [JsonText] [Serde] in
/-- The events of a frame show the tickers its items lead to. -/
theorem storeEach_shown {envelope : BybitTickerEnvelope} {topicSymbol : Text} {snapshot : Bool}
    {items : List BybitTickerData} {updates : List Update}
    (h : items.map (tickerItem envelope topicSymbol snapshot) = updates.map .ok)
    (epoch : Uuid) (receivedAtMs : Nat) (tickers : Tickers) :
    ∃ events, (Reading.storeEach .bybit epoch receivedAtMs tickers (updates.map .ok)).1 =
        .ok events ∧
      events.filterMap tickerOf = itemTickers snapshot envelope.ts tickers items := by
  induction items generalizing updates tickers with
  | nil =>
    rw [List.map_nil, eq_comm, List.map_eq_nil_iff] at h
    rw [h]
    exact ⟨[], rfl, rfl⟩
  | cons data items ih =>
    cases updates with
    | nil => simp at h
    | cons u updates =>
      rw [List.map_cons, List.map_cons, List.cons.injEq] at h
      -- the event of an item shows the ticker the item leaves
      obtain ⟨-, hUpdated, hStore⟩ := tickerItem_store h.1
      obtain ⟨events, hEvents, hShown⟩ := ih h.2 (storeItem snapshot envelope.ts tickers data)
      refine ⟨u.event .bybit epoch receivedAtMs (updated tickers u) :: events, ?_, ?_⟩
      · rw [List.map_cons, Reading.storeEach]
        dsimp only
        rw [hStore, hEvents]
        rfl
      · rw [itemTickers, ← hShown, ← hUpdated]
        rfl

/-- A frame that says something as market data is answered by its reading. -/
theorem parse_of_reading {text : Text} {receivedAtMs : Nat} {r : Reading}
    (h : frameReading .bybit text receivedAtMs = r) (hr : r ≠ .ignored) (s : BybitSession) :
    (s.parse text receivedAtMs).1 =
      (r.handle .bybit s.connectionEpoch receivedAtMs s.tickers).1.map .ofMarket := by
  unfold frameReading at h
  cases hValue : marketValue .bybit text with
  | none =>
    rw [hValue] at h
    exact absurd h.symm hr
  | some value =>
    rw [hValue] at h
    rw [← h]
    exact (MarketStreamGateway.parse_market hValue s receivedAtMs).1

/-- **Accepted frames.** A frame that is accepted applies the items it carries,
one by one, and shows every ticker on the way. -/
theorem parse_accepted {s : BybitSession} {text : Text} {receivedAtMs : Nat}
    {envelope : BybitTickerEnvelope} {items : List BybitTickerData}
    (hCarried : carried text = some (envelope, items))
    (hOk : (s.parse text receivedAtMs).1.isOk = true) :
    (s.parse text receivedAtMs).2.tickers =
      items.foldl (storeItem (decide (envelope.messageType = "snapshot".toList)) envelope.ts)
        s.tickers ∧
    shownTickers (s.parse text receivedAtMs).1 =
      itemTickers (decide (envelope.messageType = "snapshot".toList)) envelope.ts s.tickers
        items := by
  have hTickers := parse_tickers .bybit s text receivedAtMs
  rcases frameReading_bybit text receivedAtMs with
    ⟨envelope', items', topicSymbol, updates, hCarried', hItems, hReading⟩ | ⟨error, hReading⟩ |
      ⟨hNone, -⟩
  · rw [hCarried] at hCarried'
    obtain ⟨rfl, rfl⟩ := Prod.mk.inj (Option.some.inj hCarried')
    rw [hReading] at hTickers
    refine ⟨hTickers.trans (storeAll_items hItems s.tickers), ?_⟩
    -- the batch shows what its items would show one after the other
    have hPend := congrArg Prod.fst
      (Reading.pend_eq .bybit s.connectionEpoch receivedAtMs s.tickers ∅ updates)
    rw [Finmap.empty_union] at hPend
    obtain ⟨events, hEvents, hShown⟩ :=
      storeEach_shown hItems s.connectionEpoch receivedAtMs s.tickers
    rw [hEvents] at hPend
    rw [parse_of_reading hReading nofun s, ← hShown, ← Except.ok.inj hPend]
    rfl
  · rw [parse_of_reading hReading nofun s] at hOk
    cases hOk
  · rw [hNone] at hCarried
    cases hCarried

/-- Other frames leave the cache alone. -/
theorem parse_untouched {s : BybitSession} {text : Text} {receivedAtMs : Nat}
    (h : (s.parse text receivedAtMs).1.isOk = false ∨ carried text = none) :
    (s.parse text receivedAtMs).2.tickers = s.tickers := by
  have hTickers := parse_tickers .bybit s text receivedAtMs
  rcases frameReading_bybit text receivedAtMs with
    ⟨_, _, _, updates, hCarried, -, hReading⟩ | ⟨error, hReading⟩ |
      ⟨-, ⟨candles, hReading⟩ | hReading⟩
  · -- a frame whose items are read is accepted, so neither case applies
    rcases h with hError | hNone
    · rw [parse_of_reading hReading nofun s] at hError
      cases hError
    · rw [hNone] at hCarried
      cases hCarried
  · rw [hReading] at hTickers
    exact hTickers
  · rw [hReading] at hTickers
    exact hTickers
  · rw [hReading] at hTickers
    exact hTickers

/-! ## Histories -/

omit [JsonText] [RustDecimal] [Serde] in
/-- The symbol an entry is about. -/
def TickerEntry.symbol : TickerEntry → Text
  | update _ _ data => symbolOf data
  | dropped symbol => symbol

/-- The entries a call adds: the items of a ticker frame that is accepted, and
the tickers a diff unsubscribes. -/
def entries (s : BybitSession) : SessionCall → List TickerEntry
  | .parse text receivedAtMs =>
    if (s.parse text receivedAtMs).1.isOk then frameEntries text else []
  | .subscriptionMessages .unsubscribe subscriptions =>
    if (s.subscriptionMessages .unsubscribe subscriptions).1.isOk then
      (subscriptions.filter (·.channel = .ticker)).map fun key => .dropped key.symbol
    else []
  | .subscriptionMessages .subscribe _ | .heartbeat => []

/-- What a session has learnt of the ticker of a symbol. -/
def history (endpoint : EndpointKind) (epoch : Uuid) (calls : List SessionCall) (symbol : Text) :
    List TickerEntry :=
  (trace (SessionCall.step .bybit) entries ((configuredAdapter .bybit).session endpoint epoch)
    calls).filter (·.symbol = symbol)

section Entries

omit [JsonText] [RustDecimal] [Serde]

/-- An entry of the symbol stays in the filtered log. -/
theorem filter_symbol_pos (entry : TickerEntry) {symbol : Text} (h : entry.symbol = symbol)
    (log : List TickerEntry) : (entry :: log).filter (·.symbol = symbol) =
      entry :: log.filter (·.symbol = symbol) :=
  List.filter_cons_of_pos (decide_eq_true h)

/-- An entry of another symbol is filtered out. -/
theorem filter_symbol_neg (entry : TickerEntry) {symbol : Text} (h : entry.symbol ≠ symbol)
    (log : List TickerEntry) : (entry :: log).filter (·.symbol = symbol) =
      log.filter (·.symbol = symbol) :=
  List.filter_cons_of_neg (Bool.eq_false_iff.mp (decide_eq_false h))

/-- Storing items one after the other applies their entries to the cached ticker. -/
theorem lookup_items (snapshot : Bool) (ts : Nat) (tickers : Tickers)
    (items : List BybitTickerData) (symbol : Text) :
    (items.foldl (storeItem snapshot ts) tickers).lookup symbol =
      ((items.map (TickerEntry.update snapshot ts)).filter (·.symbol = symbol)).foldl
        TickerEntry.apply (tickers.lookup symbol) := by
  induction items generalizing tickers with
  | nil => rfl
  | cons data items ih =>
    rw [List.foldl_cons, ih, List.map_cons]
    by_cases hSymbol : symbolOf data = symbol
    · rw [filter_symbol_pos (.update snapshot ts data) hSymbol, List.foldl_cons]
      subst hSymbol
      rw [storeItem, Finmap.lookup_insert]
      rfl
    · rw [filter_symbol_neg (.update snapshot ts data) hSymbol, storeItem,
        Finmap.lookup_insert_of_ne _ (Ne.symm hSymbol)]

/-- Forgetting tickers applies the entries that drop them. -/
theorem lookup_forgetTickers (tickers : Tickers) (keys : List SubscriptionKey) (symbol : Text) :
    (forgetTickers .unsubscribe keys tickers).lookup symbol =
      ((((keys.filter (·.channel = .ticker)).map fun key => TickerEntry.dropped key.symbol).filter
        (·.symbol = symbol)).foldl TickerEntry.apply (tickers.lookup symbol)) := by
  unfold forgetTickers
  induction keys generalizing tickers with
  | nil => rfl
  | cons key keys ih =>
    rw [List.foldl_cons, ih]
    cases hChannel : key.channel with
    -- a candle key drops nothing
    | candle1m => rw [List.filter_cons_of_neg (by simp [hChannel])]
    | ticker =>
      rw [List.filter_cons_of_pos (by simp [hChannel]), List.map_cons]
      by_cases hSymbol : key.symbol = symbol
      · rw [filter_symbol_pos (.dropped key.symbol) hSymbol, List.foldl_cons]
        subst hSymbol
        rw [Finmap.lookup_erase]
        rfl
      · rw [filter_symbol_neg (.dropped key.symbol) hSymbol,
          Finmap.lookup_erase_ne (Ne.symm hSymbol)]

end Entries

/-- A call applies the entries it adds. -/
theorem lookup_step (s : BybitSession) (call : SessionCall) (symbol : Text) :
    (sessionTickers .bybit (call.step .bybit s)).lookup symbol =
      ((entries s call).filter (·.symbol = symbol)).foldl TickerEntry.apply
        (s.tickers.lookup symbol) := by
  cases call with
  | parse text receivedAtMs =>
    change (s.parse text receivedAtMs).2.tickers.lookup symbol = _
    rw [entries]
    split
    · next hOk =>
      unfold frameEntries
      split
      · next envelope items hCarried => rw [(parse_accepted hCarried hOk).1, lookup_items]
      · next hNone =>
        rw [parse_untouched (.inr hNone)]
        rfl
    · -- a refused frame leaves the cache alone
      next hError =>
      rw [parse_untouched (.inl (Bool.eq_false_iff.mpr hError))]
      rfl
  | subscriptionMessages action subscriptions =>
    have hTickers := (BybitSession.subscriptionMessages_tickers s action subscriptions).1
    change (s.subscriptionMessages action subscriptions).2.tickers.lookup symbol = _
    rw [hTickers]
    cases action with
    | subscribe => rfl
    | unsubscribe =>
      rw [entries]
      split
      · exact lookup_forgetTickers s.tickers subscriptions symbol
      · rfl
  | heartbeat => rfl

/-- The cache is the fold of the history. -/
theorem lookup_after (endpoint : EndpointKind) (epoch : Uuid) (calls : List SessionCall)
    (symbol : Text) :
    (sessionTickers .bybit (sessionAfter .bybit endpoint epoch calls)).lookup symbol =
      folded (history endpoint epoch calls symbol) := by
  have hRun : (sessionTickers .bybit (sessionAfter .bybit endpoint epoch calls)).lookup symbol =
      folded (([] ++ trace (SessionCall.step .bybit) entries
        ((configuredAdapter .bybit).session endpoint epoch) calls).filter
          (·.symbol = symbol)) := by
    refine run_trace_invariant (R := fun s log => (sessionTickers .bybit s).lookup symbol =
      folded (log.filter (·.symbol = symbol))) ?_ rfl calls
    intro s call log hLog
    rw [List.filter_append, ← foldl_apply, ← hLog]
    exact lookup_step s call symbol
  exact hRun

/-- The ticker of an event is the fold up to its item. -/
theorem event_folded {s : BybitSession} {log : List TickerEntry} {text : Text}
    {receivedAtMs : Nat} {events : List ProviderEvent}
    (h : (s.parse text receivedAtMs).1 = .ok (.events events)) {i : Nat} {event : ProviderEvent}
    (hEvent : events[i]? = some event) {ticker : Ticker} (hTicker : event.payload = .ticker ticker)
    (hLog : s.tickers.lookup event.symbol = folded log) :
    ticker = foldedTicker (log ++
      ((frameEntries text).take (i + 1)).filter (·.symbol = event.symbol)) := by
  have hAnswer : ((configuredAdapter .bybit).parse s text receivedAtMs).1 =
      .ok (.events events) := h
  have hCached := (event_cached hAnswer hEvent hTicker).2
  have hHandled := parse_events hAnswer
  rcases frameReading_bybit text receivedAtMs with
    ⟨envelope, items, topicSymbol, updates, hCarried, hItems, hReading⟩ | ⟨error, hReading⟩ |
      ⟨-, ⟨candles, hReading⟩ | hReading⟩
  · -- the event shows the ticker after as many items as come before it
    have hTake : (items.take (i + 1)).map (tickerItem envelope topicSymbol
        (decide (envelope.messageType = "snapshot".toList))) = (updates.take (i + 1)).map .ok := by
      rw [List.map_take, hItems, List.map_take]
    rw [hReading] at hCached
    rw [hCached, frameEntries, hCarried]
    dsimp only
    rw [← folded_getD, ← List.map_take, ← foldl_apply, ← hLog, ← lookup_items,
      ← storeAll_items hTake]
    rfl
  · rw [hReading] at hHandled
    cases hHandled
  · rw [hReading] at hHandled
    obtain rfl := Option.some.inj (Except.ok.inj hHandled)
    rw [List.getElem?_map] at hEvent
    obtain ⟨candle, -, rfl⟩ := Option.map_eq_some_iff.mp hEvent
    cases hTicker
  · rw [hReading] at hHandled
    cases Except.ok.inj hHandled

/-! ## One frame or many -/

/-- The tickers a call shows. -/
def shown (s : BybitSession) : SessionCall → List Ticker
  | .parse text receivedAtMs => shownTickers (s.parse text receivedAtMs).1
  | .subscriptionMessages _ _ | .heartbeat => []

/-- The call is answered without an error. -/
def Accepts (s : BybitSession) : SessionCall → Prop
  | .parse text receivedAtMs => (s.parse text receivedAtMs).1.isOk = true
  | .subscriptionMessages action subscriptions =>
    (s.subscriptionMessages action subscriptions).1.isOk = true
  | .heartbeat => True

/-- A frame with one update, of a given type and time. -/
def CarriesOne (messageType : Text) (ts : Nat) (frame : Text × Nat) (data : BybitTickerData) :
    Prop :=
  ∃ envelope, carried frame.1 = some (envelope, [data]) ∧ envelope.messageType = messageType ∧
    envelope.ts = ts

/-- Frames with one update each, one after the other. -/
theorem run_singles {messageType : Text} {ts : Nat} {frames : List (Text × Nat)}
    {items : List BybitTickerData} (hFrames : List.Forall₂ (CarriesOne messageType ts) frames items)
    {s : BybitSession}
    (hAll : AllSteps (SessionCall.step .bybit) Accepts s
      (frames.map fun frame => .parse frame.1 frame.2)) :
    sessionTickers .bybit (run (SessionCall.step .bybit) s
        (frames.map fun frame => .parse frame.1 frame.2)) =
      items.foldl (storeItem (decide (messageType = "snapshot".toList)) ts) s.tickers ∧
    trace (SessionCall.step .bybit) shown s (frames.map fun frame => .parse frame.1 frame.2) =
      itemTickers (decide (messageType = "snapshot".toList)) ts s.tickers items := by
  induction hFrames generalizing s with
  | nil => exact ⟨rfl, rfl⟩
  | cons hFrame hRest ih =>
    obtain ⟨envelope, hCarried, rfl, rfl⟩ := hFrame
    obtain ⟨hOk, hLater⟩ := hAll
    -- the first frame does what the first item does
    obtain ⟨hTickers, hShown⟩ := parse_accepted hCarried hOk
    obtain ⟨hRunTickers, hRunShown⟩ := ih hLater
    constructor
    · exact hRunTickers.trans (congrArg (List.foldl _ · _) hTickers)
    · refine congrArg₂ (· ++ ·) hShown (hRunShown.trans ?_)
      exact congrArg (itemTickers _ _ · _) hTickers

end Frames

end BybitSession

section Sessions

open BybitSession

variable [Unicode] [JsonText] [RustDecimal] [Serde]

/-- **Bybit tickers.** After any calls the cached ticker of a symbol is the fold
of the updates accepted for it since its last snapshot or unsubscription, and an
event shows the fold up to its own update. A frame with several updates does and
shows what accepted frames with one update each do; frames that are refused and
frames for other symbols do nothing to a ticker. -/
theorem bybit_cache_folds (endpoint : EndpointKind) (epoch : Uuid) (calls : List SessionCall) :
    (∀ symbol, (sessionTickers .bybit (sessionAfter .bybit endpoint epoch calls)).lookup symbol =
      folded (history endpoint epoch calls symbol)) ∧
    (∀ (text : Text) (receivedAtMs : Nat) (events : List ProviderEvent) (i : Nat)
      (event : ProviderEvent) (ticker : Ticker),
      ((configuredAdapter .bybit).parse (sessionAfter .bybit endpoint epoch calls) text
        receivedAtMs).1 = .ok (.events events) →
      events[i]? = some event → event.payload = .ticker ticker →
      ticker = foldedTicker (history endpoint epoch calls event.symbol ++
        ((frameEntries text).take (i + 1)).filter (·.symbol = event.symbol))) ∧
    (∀ (s : BybitSession) (text : Text) (receivedAtMs : Nat) (envelope : BybitTickerEnvelope)
      (items : List BybitTickerData) (frames : List (Text × Nat)),
      carried text = some (envelope, items) → (s.parse text receivedAtMs).1.isOk = true →
      List.Forall₂ (CarriesOne envelope.messageType envelope.ts) frames items →
      AllSteps (SessionCall.step .bybit) Accepts s
        (frames.map fun frame => .parse frame.1 frame.2) →
      sessionTickers .bybit (run (SessionCall.step .bybit) s
          (frames.map fun frame => .parse frame.1 frame.2)) =
        (s.parse text receivedAtMs).2.tickers ∧
      trace (SessionCall.step .bybit) shown s (frames.map fun frame => .parse frame.1 frame.2) =
        shownTickers (s.parse text receivedAtMs).1) ∧
    ∀ (s : BybitSession) (text : Text) (receivedAtMs : Nat) (symbol : Text),
      (s.parse text receivedAtMs).1.isOk = false ∨
        (∀ entry ∈ frameEntries text, entry.symbol ≠ symbol) →
      (s.parse text receivedAtMs).2.tickers.lookup symbol = s.tickers.lookup symbol := by
  refine ⟨lookup_after endpoint epoch calls, ?_, ?_, ?_⟩
  · intro text receivedAtMs events i event ticker h hEvent hTicker
    exact event_folded h hEvent hTicker (lookup_after endpoint epoch calls event.symbol)
  · intro s text receivedAtMs envelope items frames hCarried hOk hFrames hAll
    obtain ⟨hTickers, hShown⟩ := parse_accepted hCarried hOk
    obtain ⟨hRunTickers, hRunShown⟩ := run_singles hFrames hAll
    exact ⟨hRunTickers.trans hTickers.symm, hRunShown.trans hShown.symm⟩
  · intro s text receivedAtMs symbol h
    rcases h with hError | hOther
    · rw [parse_untouched (.inl hError)]
    · -- no entry is for the symbol, so the fold stays where it was
      have hNone : (entries s (.parse text receivedAtMs)).filter (·.symbol = symbol) = [] := by
        rw [entries, List.filter_eq_nil_iff]
        intro entry hEntry
        split at hEntry
        · simpa using hOther entry hEntry
        · cases hEntry
      have hStep := lookup_step s (.parse text receivedAtMs) symbol
      rw [hNone] at hStep
      exact hStep

end Sessions

section Sparse

open BybitSession

/-! A snapshot, and two deltas that come in one frame or in two. The first of
them names no price. -/

/-- An item of a Bybit frame. -/
def sparseItem (fields : List (Text × Value)) : Value :=
  .object (("symbol".toList, .string "BTCUSDT".toList) :: fields)

/-- A Bybit frame of tickers. -/
def sparseFrame (messageType : Text) (ts : Nat) (data : Value) : Value :=
  .object [("topic".toList, .string "tickers.BTCUSDT".toList),
    ("type".toList, .string messageType), ("ts".toList, .number (.posInt ts)),
    ("cs".toList, .number (.posInt 7)), ("data".toList, data)]

/-- A snapshot with a last price and a mark price. -/
def sparseSnapshot : Value := sparseFrame "snapshot".toList 100 (sparseItem
  [("lastPrice".toList, .string "10".toList), ("markPrice".toList, .string "11".toList)])

/-- A delta whose last price is empty. -/
def sparseEmpty : Value := sparseItem [("lastPrice".toList, .string [])]

/-- A delta with a last price. -/
def sparseLast : Value := sparseItem [("lastPrice".toList, .string "12".toList)]

/-- The snapshot, then both deltas in one frame and in two. -/
def sparseFrames : List Value := [sparseSnapshot,
  sparseFrame "delta".toList 200 (.array [sparseEmpty, sparseLast]),
  sparseFrame "delta".toList 200 sparseEmpty, sparseFrame "delta".toList 200 sparseLast]

local instance sparseUnicode : Unicode := .ascii
local instance sparseJson : JsonText :=
  .table (sparseFrames.map fun frame => (frame.display, frame))
local instance sparseDecimal : RustDecimal := .digits
local instance sparseSerde : Serde := .mute

/-- Both ways the mark price is the snapshot's and the last price that of the
second delta. -/
theorem bybit_cache_folds_sparseFrames :
    shownTickers (BybitSession.parse
        (sessionAfter .bybit .primary 0 [.parse sparseSnapshot.display 5])
        (sparseFrame "delta".toList 200 (.array [sparseEmpty, sparseLast])).display 6).1 =
      [{ last := some ⟨⟨"10".toList⟩, 100⟩, mark := some ⟨⟨"11".toList⟩, 100⟩ },
        { last := some ⟨⟨"12".toList⟩, 200⟩, mark := some ⟨⟨"11".toList⟩, 100⟩ }] ∧
    trace (SessionCall.step .bybit) shown
        (sessionAfter .bybit .primary 0 [.parse sparseSnapshot.display 5])
        ([((sparseFrame "delta".toList 200 sparseEmpty).display, 6),
          ((sparseFrame "delta".toList 200 sparseLast).display, 7)].map
            fun frame => .parse frame.1 frame.2) =
      shownTickers (BybitSession.parse
        (sessionAfter .bybit .primary 0 [.parse sparseSnapshot.display 5])
        (sparseFrame "delta".toList 200 (.array [sparseEmpty, sparseLast])).display 6).1 := by
  refine ⟨by decide +kernel, ?_⟩
  refine ((bybit_cache_folds .primary 0 []).2.2.1 _ _ 6 _ _ _ rfl (by decide +kernel) ?_ ?_).2
  · exact .cons ⟨_, rfl, rfl, rfl⟩ (.cons ⟨_, rfl, rfl, rfl⟩ .nil)
  · exact ⟨rfl, rfl, trivial⟩

end Sparse

end MarketStreamGateway
