import MarketStreamGateway.Runtime.Connection
import MarketStreamGateway.Feeds.Session

/-!
# Market Stream Gateway — what a rejected event does to later ones

An adapter stores a ticker before the runtime validates the event made from it,
and every later event of the symbol shows what is stored. So an event that is
rejected can take later ones with it. This compares the run that received a
rejected frame with the run that never did.

* `validate_eq_ok` — what a valid ticker is, field by field.
* `handle_covers` — a cache that covers another publishes whenever that one does,
  and covers it afterwards.
* `rejected_frame_suppresses_nothing` — a rejected frame is harmless if the
  values it stores are valid by themselves and leave the order book as it was.
-/

namespace MarketStreamGateway

open Lib

/-! ## Valid tickers -/

section Validity

variable [RustDecimal]

/-- What `Ticker::validate` asks of a field by itself. -/
def Passes (field : Field) (observed : ObservedDecimal) : Prop :=
  observed.observedAtMs ≠ 0 ∧ (field ≠ .fundingRate →
    ∃ value, RustDecimal.fromStr observed.value.text = some value ∧ value.le .zero = false)

/-- The best bid does not exceed the best ask, if both are there. -/
def Uncrossed (bid ask : Option ObservedDecimal) : Prop :=
  ∀ b a, bid = some b → ask = some a → ∃ x y, RustDecimal.fromStr b.value.text = some x ∧
    RustDecimal.fromStr a.value.text = some y ∧ y.lt x = false

/-- A value reads as a decimal exactly if the crate reads its text. -/
theorem decimal_eq_ok {value : DecimalValue} {d : Decimal} :
    decimal value = .ok d ↔ RustDecimal.fromStr value.text = some d := by
  unfold decimal
  split <;> simp_all

/-- The check of a price passes exactly if the price that is there is one a
ticker may show. -/
theorem validatePrice_eq_ok (field : Field) (hPrice : field ≠ .fundingRate) {name : Text}
    {value : Option ObservedDecimal} :
    validatePrice name value = .ok () ↔ ∀ observed, value = some observed →
      Passes field observed := by
  cases value with
  | none => simp [validatePrice]
  | some observed =>
    simp only [Option.some.injEq, forall_eq', Passes, hPrice, ne_eq, not_false_eq_true,
      forall_const, validatePrice]
    -- the time is checked before the price is read
    by_cases hTime : observed.observedAtMs = 0
    · simp [hTime]
    · rw [if_neg hTime, bind_eq_ok]
      constructor
      · rintro ⟨d, hDecimal, h⟩
        refine ⟨hTime, d, decimal_eq_ok.mp hDecimal, ?_⟩
        split at h
        · cases h
        · next hZero => exact Bool.eq_false_iff.mpr hZero
      · rintro ⟨-, d, hDecimal, hZero⟩
        exact ⟨d, decimal_eq_ok.mpr hDecimal, by rw [hZero]; rfl⟩

/-- The check of the funding rate. -/
def fundingCheck (value : Option ObservedDecimal) : Except DomainError Unit :=
  match value with
  | some funding =>
    if funding.observedAtMs = 0 then
      .error (.invalidMarketData "funding observation timestamp must be positive".toList)
    else .ok ()
  | none => .ok ()

/-- The check of the order book. -/
def quoteCheck (bid ask : Option ObservedDecimal) : Except DomainError Unit :=
  match bid, ask with
  | some bid, some ask => do
    if (← decimal ask.value).lt (← decimal bid.value) then
      .error (.invalidMarketData "best bid must not exceed best ask".toList)
  | _, _ => .ok ()

/-- `Ticker::validate` as a sequence of checks. -/
theorem validate_eq (t : Ticker) : t.validate = (do
    validatePrice "last".toList t.last
    validatePrice "mark".toList t.mark
    validatePrice "index".toList t.index
    validatePrice "bid".toList t.bid
    validatePrice "ask".toList t.ask
    fundingCheck t.fundingRate
    quoteCheck t.bid t.ask
    if !t.hasPrice then
      .error (.invalidMarketData "ticker must contain at least one price".toList)
    else .ok ()) := by
  unfold Ticker.validate
  refine bind_congr fun _ => bind_congr fun _ => bind_congr fun _ => bind_congr fun _ =>
    bind_congr fun _ => ?_
  -- the comparison of the quote is written in two branches that go on alike
  have hQuotes : ∀ rest : Except DomainError Unit,
      (match t.bid, t.ask with
        | some bid, some ask => do
          let a ← decimal ask.value
          let b ← decimal bid.value
          if a.lt b = true then do
            .error (.invalidMarketData "best bid must not exceed best ask".toList)
            rest
          else rest
        | _, _ => do
          Except.ok ()
          rest) = (do
        quoteCheck t.bid t.ask
        rest) := by
    intro rest
    unfold quoteCheck
    cases t.bid with
    | none => rfl
    | some bid =>
      cases t.ask with
      | none => rfl
      | some ask =>
        simp only [bind_assoc]
        refine bind_congr fun a => bind_congr fun b => ?_
        split <;> rfl
  unfold fundingCheck
  cases t.fundingRate with
  | none => exact hQuotes _
  | some funding =>
    dsimp only
    split
    · rfl
    · exact hQuotes _

/-- The check of the funding rate passes exactly if the rate that is there has
a time and is a decimal. -/
theorem fundingCheck_eq_ok {value : Option ObservedDecimal} :
    fundingCheck value = .ok () ↔
      ∀ observed, value = some observed → Passes .fundingRate observed := by
  cases value with
  | none => simp [fundingCheck]
  | some observed =>
    simp only [fundingCheck, Passes, Option.some.injEq, forall_eq', ne_eq, not_true_eq_false,
      false_implies, and_true]
    split
    · next hTime => exact ⟨nofun, fun h => absurd hTime h⟩
    · next hTime => exact ⟨fun _ => hTime, fun _ => rfl⟩

/-- The check of the quote passes exactly if bid and ask do not cross. -/
theorem quoteCheck_eq_ok {bid ask : Option ObservedDecimal} :
    quoteCheck bid ask = .ok () ↔ Uncrossed bid ask := by
  unfold quoteCheck Uncrossed
  split
  · next b a =>
    simp only [bind_eq_ok]
    constructor
    · rintro ⟨y, hAsk, x, hBid, h⟩ _ _ ⟨⟩ ⟨⟩
      refine ⟨x, y, decimal_eq_ok.mp hBid, decimal_eq_ok.mp hAsk, ?_⟩
      split at h
      · cases h
      · next hLt => exact Bool.eq_false_iff.mpr hLt
    · intro h
      obtain ⟨x, y, hBid, hAsk, hLt⟩ := h b a rfl rfl
      exact ⟨y, decimal_eq_ok.mpr hAsk, x, decimal_eq_ok.mpr hBid, by rw [hLt]; rfl⟩
  · next hNot =>
    exact ⟨fun _ b a hBid hAsk => absurd hAsk (hNot b a hBid), fun _ => rfl⟩

/-- A ticker is valid if its fields are, its book is not crossed and it has a
price. -/
theorem validate_eq_ok (t : Ticker) :
    t.validate = .ok () ↔ (∀ field observed, t.get field = some observed → Passes field observed) ∧
      Uncrossed t.bid t.ask ∧ t.hasPrice = true := by
  have hPrice : (if (!t.hasPrice) = true then
      (.error (.invalidMarketData "ticker must contain at least one price".toList) :
        Except DomainError Unit) else .ok ()) = .ok () ↔ t.hasPrice = true := by
    cases t.hasPrice <;> simp
  rw [validate_eq, unit_bind_eq_ok, unit_bind_eq_ok, unit_bind_eq_ok, unit_bind_eq_ok,
    unit_bind_eq_ok, unit_bind_eq_ok, unit_bind_eq_ok, hPrice, fundingCheck_eq_ok,
    quoteCheck_eq_ok, validatePrice_eq_ok .last (by decide),
    validatePrice_eq_ok .mark (by decide),
    validatePrice_eq_ok .index (by decide),
    validatePrice_eq_ok .bid (by decide), validatePrice_eq_ok .ask (by decide)]
  constructor
  · rintro ⟨hLast, hMark, hIndex, hBid, hAsk, hFunding, hQuotes, hHas⟩
    refine ⟨fun field => ?_, hQuotes, hHas⟩
    -- each field is checked once, the funding rate apart from the prices
    cases field with
    | last => exact hLast
    | mark => exact hMark
    | index => exact hIndex
    | bid => exact hBid
    | ask => exact hAsk
    | fundingRate => exact hFunding
  · rintro ⟨hFields, hQuotes, hHas⟩
    exact ⟨hFields .last, hFields .mark, hFields .index, hFields .bid, hFields .ask,
      hFields .fundingRate, hQuotes, hHas⟩

/-! ## Tickers that cover others -/

/-- A field whose value is valid whatever the other fields are: not a quote. -/
def Independent (field : Field) (value : Option ObservedDecimal) : Prop :=
  field ≠ .bid ∧ field ≠ .ask ∧ ∃ observed, value = some observed ∧ Passes field observed

/-- A ticker that is valid where another one is: it differs from that one in
independent fields only. MEXC refuses tickers that leave a symbol without a
price, so there the two also have to agree on having one. -/
structure Covers (provider : Provider) (t' t : Ticker) : Prop where
  fields : ∀ field, t'.get field = t.get field ∨ Independent field (t'.get field)
  price : provider = .mexc → t'.hasPrice = true → t.hasPrice = true

/-- Any ticker covers itself. -/
theorem Covers.refl (provider : Provider) (t : Ticker) : Covers provider t t :=
  ⟨fun _ => .inl rfl, fun _ h => h⟩

/-- A ticker that covers one with a price has a price. -/
theorem Covers.hasPrice {provider : Provider} {t' t : Ticker} (h : Covers provider t' t)
    (hPrice : t.hasPrice = true) : t'.hasPrice = true := by
  obtain ⟨field, observed, hField, hValue⟩ := hasPrice_iff.mp hPrice
  rcases h.fields field with hEq | ⟨-, -, other, hOther, -⟩
  · exact hasPrice_iff.mpr ⟨field, observed, hField, hEq.trans hValue⟩
  · exact hasPrice_iff.mpr ⟨field, other, hField, hOther⟩

/-- A ticker that covers a valid one is valid. -/
theorem Covers.validate {provider : Provider} {t' t : Ticker} (h : Covers provider t' t)
    (hValid : t.validate = .ok ()) : t'.validate = .ok () := by
  obtain ⟨hFields, hQuotes, hPrice⟩ := (validate_eq_ok t).mp hValid
  refine (validate_eq_ok t').mpr ⟨fun field observed hValue => ?_, ?_, h.hasPrice hPrice⟩
  · rcases h.fields field with hEq | ⟨-, -, other, hOther, hPasses⟩
    · exact hFields field observed (hEq ▸ hValue)
    · obtain rfl := Option.some.inj (hValue.symm.trans hOther)
      exact hPasses
  · have hBid : t'.bid = t.bid := (h.fields .bid).resolve_right fun hIndep => hIndep.1 rfl
    have hAsk : t'.ask = t.ask := (h.fields .ask).resolve_right fun hIndep => hIndep.2.1 rfl
    rwa [hBid, hAsk]

/-- The same update keeps one ticker covering the other. -/
theorem Covers.apply {provider : Provider} {t' t : Ticker} (h : Covers provider t' t) {u : Update}
    (hSteady : provider = .mexc → u.Steady) : Covers provider (u.apply t') (u.apply t) := by
  refine ⟨fun field => ?_, fun hMexc hPrice => ?_⟩
  · rw [Update.get_apply, Update.get_apply]
    cases u.written field with
    | none => exact h.fields field
    | some value => exact .inl rfl
  · obtain ⟨field, observed, hField, hValue⟩ := hasPrice_iff.mp hPrice
    rw [Update.get_apply] at hValue
    -- a price that the update writes is the same in both; any other was there before
    cases hWritten : u.written field with
    | some value =>
      refine hasPrice_iff.mpr ⟨field, observed, hField, ?_⟩
      rw [Update.get_apply, hWritten]
      rwa [hWritten] at hValue
    | none =>
      rw [hWritten] at hValue
      exact (hSteady hMexc).hasPrice
        (h.price hMexc (hasPrice_iff.mpr ⟨field, observed, hField, hValue⟩))

/-- A cache covers another symbol by symbol. -/
def CoversAll (provider : Provider) (tickers' tickers : Tickers) : Prop :=
  ∀ symbol, Covers provider (cached tickers' symbol) (cached tickers symbol)

/-- A cache that covers another still does after the same update, which on MEXC
clears nothing. -/
theorem CoversAll.store {provider : Provider} {tickers' tickers : Tickers}
    (h : CoversAll provider tickers' tickers) {u : Update} (hSteady : provider = .mexc → u.Steady) :
    CoversAll provider (store tickers' u) (store tickers u) := by
  intro symbol
  by_cases hSymbol : symbol = u.symbol
  · subst hSymbol
    rw [cached_store_self, cached_store_self]
    exact (h u.symbol).apply hSteady
  · rw [cached_store_of_ne hSymbol, cached_store_of_ne hSymbol]
    exact h symbol

/-! ## Handling a frame -/

/-- The connection accepts an event with a ticker if it has a time and the
ticker is valid. -/
theorem accepted_ticker (event : ProviderEvent) {ticker : Ticker}
    (h : event.payload = .ticker ticker) : Connection.accepted event = true ↔
      event.gatewayReceivedTimeMs ≠ 0 ∧ ticker.validate = .ok () := by
  unfold Connection.accepted ProviderEvent.validate
  rw [h]
  by_cases hTime : event.gatewayReceivedTimeMs = 0
  · simp [hTime]
  · rw [if_neg hTime]
    cases hValid : ticker.validate with
    | error error => simp [hValid]
    | ok u => simp [hTime, hValid]

/-- What the two runs need of a frame: MEXC's updates only add values, and no
other venue refuses tickers for their want of a price. -/
structure Reading.Tame (provider : Provider) (r : Reading) : Prop where
  steady : provider = .mexc → ∀ u ∈ r.updates, u.Steady
  priced : ∀ u error, r = .priced u error → provider = .mexc

/-- One of the events would be published. -/
def SomeAccepted (events : List ProviderEvent) : Prop :=
  ∃ event ∈ events, Connection.accepted event = true

section Handling

variable {provider : Provider} {receivedAtMs : Nat} {tickers' tickers : Tickers}

/-- An event with a covering ticker is accepted where the other one is. -/
theorem accepted_covers {u v : Update} {epoch epoch' : Uuid} {t' t : Ticker}
    (h : Covers provider t' t)
    (hAccepted : Connection.accepted (u.event provider epoch receivedAtMs t) = true) :
    Connection.accepted (v.event provider epoch' receivedAtMs t') = true := by
  obtain ⟨hTime, hValid⟩ :=
    (accepted_ticker (u.event provider epoch receivedAtMs t) rfl).mp hAccepted
  exact (accepted_ticker (v.event provider epoch' receivedAtMs t') rfl).mpr
    ⟨hTime, h.validate hValid⟩

/-- An update gives covering tickers in covering caches. -/
theorem CoversAll.updated (h : CoversAll provider tickers' tickers) {u : Update}
    (hSteady : provider = .mexc → u.Steady) :
    Covers provider (updated tickers' u) (updated tickers u) := (h u.symbol).apply hSteady

/-- Storing one item after the other keeps the caches covering, and the events
of the covering one are accepted wherever the others are. -/
theorem storeEach_covers (receivedAtMs : Nat) (epoch epoch' : Uuid)
    {items : List (Except AdapterError Update)}
    (h : CoversAll provider tickers' tickers)
    (hSteady : provider = .mexc → ∀ u ∈ Reading.accepted items, u.Steady) :
    CoversAll provider (Reading.storeEach provider epoch' receivedAtMs tickers' items).2
      (Reading.storeEach provider epoch receivedAtMs tickers items).2 ∧
    ∀ events, (Reading.storeEach provider epoch receivedAtMs tickers items).1 = .ok events →
      ∃ events', (Reading.storeEach provider epoch' receivedAtMs tickers' items).1 = .ok events' ∧
        (SomeAccepted events → SomeAccepted events') := by
  induction items generalizing tickers' tickers with
  | nil =>
    refine ⟨h, fun events hEvents => ⟨[], rfl, fun hSome => ?_⟩⟩
    obtain rfl := Except.ok.inj hEvents
    exact hSome
  | cons item items ih =>
    cases item with
    | error error => exact ⟨h, fun events hEvents => by cases hEvents⟩
    | ok u =>
      have hHead : provider = .mexc → u.Steady := fun hMexc =>
        hSteady hMexc u List.mem_cons_self
      obtain ⟨hTickers, hRest⟩ := ih (h.store hHead) fun hMexc v hv =>
        hSteady hMexc v (List.mem_cons_of_mem _ hv)
      refine ⟨hTickers, fun events hEvents => ?_⟩
      rw [Reading.storeEach] at hEvents
      obtain ⟨rest, hStored, rfl⟩ := map_eq_ok.mp hEvents
      -- the items are the same in both caches, so both answer or neither does
      obtain ⟨rest', hStored', hSome⟩ := hRest rest hStored
      refine ⟨u.event provider epoch' receivedAtMs (MarketStreamGateway.updated tickers' u) ::
        rest',
        ?_, ?_⟩
      · rw [Reading.storeEach]
        simp only [hStored']
        rfl
      · rintro ⟨event, hEvent, hAccepted⟩
        rcases List.mem_cons.mp hEvent with rfl | hEvent
        · exact ⟨_, List.mem_cons_self, accepted_covers (h.updated hHead) hAccepted⟩
        · obtain ⟨other, hOther, hAccepted'⟩ := hSome ⟨event, hEvent, hAccepted⟩
          exact ⟨other, List.mem_cons_of_mem _ hOther, hAccepted'⟩

/-- A cache that covers another still does so after a frame, and publishes if the
other does. -/
theorem handle_covers (receivedAtMs : Nat) (epoch epoch' : Uuid) {r : Reading}
    (hTame : r.Tame provider)
    (h : CoversAll provider tickers' tickers) :
    CoversAll provider (r.handle provider epoch' receivedAtMs tickers').2
      (r.handle provider epoch receivedAtMs tickers).2 ∧
    ∀ events, (r.handle provider epoch receivedAtMs tickers).1 = .ok (some events) →
      SomeAccepted events →
      ∃ events', (r.handle provider epoch' receivedAtMs tickers').1 = .ok (some events') ∧
        SomeAccepted events' := by
  have hOne : ∀ {u : Update}, (provider = .mexc → u.Steady) →
      ∀ {v w : Update} {events : List ProviderEvent},
      events = [v.event provider epoch receivedAtMs (MarketStreamGateway.updated tickers u)] →
      SomeAccepted events →
      SomeAccepted
        [w.event provider epoch' receivedAtMs (MarketStreamGateway.updated tickers' u)] := by
    rintro u hSteady v w events rfl ⟨event, hEvent, hAccepted⟩
    obtain rfl := List.mem_singleton.mp hEvent
    exact ⟨_, List.mem_cons_self, accepted_covers (h.updated hSteady) hAccepted⟩
  have hSteady : ∀ u ∈ r.updates, provider = .mexc → u.Steady :=
    fun u hu hMexc => hTame.steady hMexc u hu
  cases r with
  | ignored => exact ⟨h, fun events hEvents => by cases Except.ok.inj hEvents⟩
  | refused error => exact ⟨h, fun events hEvents => by cases hEvents⟩
  | candles items =>
    refine ⟨h, fun events hEvents hSome => ⟨_, rfl, ?_⟩⟩
    obtain rfl := Option.some.inj (Except.ok.inj hEvents)
    obtain ⟨event, hEvent, hAccepted⟩ := hSome
    obtain ⟨item, hItem, rfl⟩ := List.mem_map.mp hEvent
    exact ⟨_, List.mem_map_of_mem hItem, hAccepted⟩
  | single u =>
    have hu := hSteady u List.mem_cons_self
    exact ⟨h.store hu, fun events hEvents hSome =>
      ⟨_, rfl, hOne hu (Option.some.inj (Except.ok.inj hEvents)).symm hSome⟩⟩
  | each items =>
    obtain ⟨hTickers, hStored⟩ :=
      storeEach_covers receivedAtMs epoch epoch' h hTame.steady
    refine ⟨hTickers, fun events hEvents hSome => ?_⟩
    obtain ⟨stored, hOk, hEq⟩ := map_eq_ok.mp hEvents
    obtain rfl := Option.some.inj hEq
    obtain ⟨stored', hOk', hAccepted⟩ := hStored stored hOk
    exact ⟨stored', map_eq_ok.mpr ⟨stored', hOk', rfl⟩, hAccepted hSome⟩
  | batch updates =>
    -- collecting the tickers first comes to storing them one by one
    have hEach := Reading.pend_eq provider epoch receivedAtMs tickers ∅ updates
    have hEach' := Reading.pend_eq provider epoch' receivedAtMs tickers' ∅ updates
    rw [Finmap.empty_union] at hEach hEach'
    have hSteadyAll : provider = .mexc → ∀ u ∈ Reading.accepted (updates.map .ok), u.Steady := by
      rw [Reading.accepted_map_ok]
      exact hTame.steady
    obtain ⟨hTickers, hStored⟩ := storeEach_covers receivedAtMs epoch epoch' h hSteadyAll
    rw [← hEach, ← hEach'] at hTickers hStored
    refine ⟨hTickers, fun events hEvents hSome => ?_⟩
    obtain rfl := Option.some.inj (Except.ok.inj hEvents)
    obtain ⟨stored', hOk', hAccepted⟩ := hStored _ rfl
    obtain rfl := Except.ok.inj hOk'
    exact ⟨_, rfl, hAccepted hSome⟩
  | sequenced u sequence =>
    have hu := hSteady u List.mem_cons_self
    cases sequence with
    | error error => exact ⟨h.store hu, fun events hEvents => by cases hEvents⟩
    | ok sequence =>
      exact ⟨h.store hu, fun events hEvents hSome =>
        ⟨_, rfl, hOne hu (Option.some.inj (Except.ok.inj hEvents)).symm hSome⟩⟩
  | priced u error =>
    have hu := hSteady u List.mem_cons_self
    have hMexc := hTame.priced u error rfl
    have hCovers := h.updated hu
    simp only [Reading.handle]
    by_cases hPrice : (MarketStreamGateway.updated tickers u).hasPrice = true
    · rw [if_pos hPrice, if_pos (hCovers.hasPrice hPrice)]
      exact ⟨h.store hu, fun events hEvents hSome =>
        ⟨_, rfl, hOne hu (Option.some.inj (Except.ok.inj hEvents)).symm hSome⟩⟩
    · rw [if_neg hPrice, if_neg fun hPrice' => hPrice (hCovers.price hMexc hPrice')]
      exact ⟨h, fun events hEvents => by cases hEvents⟩
  | held u =>
    have hu := hSteady u List.mem_cons_self
    simp only [Reading.handle]
    by_cases hPrice : (MarketStreamGateway.updated tickers u).hasPrice = true
    · rw [if_pos hPrice, if_pos ((h.updated hu).hasPrice hPrice)]
      exact ⟨h.store hu, fun events hEvents hSome =>
        ⟨_, rfl, hOne hu (Option.some.inj (Except.ok.inj hEvents)).symm hSome⟩⟩
    · rw [if_neg hPrice]
      refine ⟨?_, fun events hEvents hSome => ?_⟩
      · split <;> exact h.store hu
      · obtain rfl := Option.some.inj (Except.ok.inj hEvents)
        obtain ⟨event, hEvent, -⟩ := hSome
        cases hEvent

end Handling

/-! ## Harmless frames -/

/-- What an update may write so that the ticker it leads to covers the one before:
what is there already, and values valid by themselves. A MEXC symbol does not
get its first price this way, so there an update that writes more than a funding
rate needs a price that is there before. -/
structure Harmless (provider : Provider) (tickers : Tickers) (u : Update) : Prop where
  fields : ∀ field value, u.written field = some value →
    value = view tickers u.symbol field ∨ Independent field value
  price : provider = .mexc → ∀ field value, u.written field = some value →
    field ≠ .fundingRate → (cached tickers u.symbol).hasPrice = true

/-- What a harmless update leaves covers the ticker there was before. -/
theorem Harmless.covers {provider : Provider} {tickers : Tickers} {u : Update}
    (h : Harmless provider tickers u) {t' : Ticker}
    (hCovers : Covers provider t' (cached tickers u.symbol)) :
    Covers provider (u.apply t') (cached tickers u.symbol) := by
  refine ⟨fun field => ?_, fun hMexc hPrice => ?_⟩
  · rw [Update.get_apply]
    cases hWritten : u.written field with
    | none => exact hCovers.fields field
    | some value => exact h.fields field value hWritten
  · -- the price is written, or it was there before
    obtain ⟨field, observed, hField, hValue⟩ := hasPrice_iff.mp hPrice
    rw [Update.get_apply] at hValue
    cases hWritten : u.written field with
    | none =>
      rw [hWritten] at hValue
      exact hCovers.price hMexc (hasPrice_iff.mpr ⟨field, observed, hField, hValue⟩)
    | some value => exact h.price hMexc field value hWritten hField

/-- Harmless updates leave a cache that covers the one before. -/
theorem coversAll_storeAll {provider : Provider} {tickers : Tickers} {updates : List Update}
    (h : ∀ u ∈ updates, Harmless provider tickers u) :
    CoversAll provider (storeAll tickers updates) tickers := by
  have hStep : ∀ (updates : List Update) (tickers' : Tickers),
      (∀ u ∈ updates, Harmless provider tickers u) → CoversAll provider tickers' tickers →
      CoversAll provider (storeAll tickers' updates) tickers := by
    intro updates
    induction updates with
    | nil => exact fun _ _ hCovers => hCovers
    | cons u updates ih =>
      intro tickers' hAll hCovers
      refine ih (store tickers' u) (fun v hv => hAll v (List.mem_cons_of_mem _ hv)) fun symbol => ?_
      -- an update touches its own symbol only
      by_cases hSymbol : symbol = u.symbol
      · subst hSymbol
        rw [cached_store_self, updated]
        exact (hAll u List.mem_cons_self).covers (hCovers u.symbol)
      · rw [cached_store_of_ne hSymbol]
        exact hCovers symbol
  exact hStep updates tickers h fun symbol => .refl provider _

end Validity

section Runs

variable [Unicode] [JsonText] [RustDecimal] [Serde]

omit [JsonText] in
/-- No frame of MEXC clears what is cached. -/
theorem reading_tame (provider : Provider) (value : Value) (text : Text) (receivedAtMs : Nat) :
    (reading provider value text receivedAtMs).Tame provider := by
  -- only MEXC refuses updates for want of a price
  have hNot : ∀ {provider : Provider} {r : Reading}, provider ≠ .mexc →
      (∀ u error, r ≠ .priced u error) → r.Tame provider :=
    fun hProvider hPriced => ⟨fun hMexc => absurd hMexc hProvider,
      fun u error hr => absurd hr (hPriced u error)⟩
  cases provider with
  | bybit =>
    refine hNot (by decide) fun u error hr => ?_
    simp only [reading] at hr
    rcases BybitSession.reading_cases value with h | ⟨e, h⟩ | h | h
    · rw [h] at hr; cases hr
    · rw [h] at hr; cases hr
    · obtain ⟨_, _, _, _, _, -, -, -, -, -, h⟩ := BybitSession.parseTickers_ok h
      rw [h] at hr; cases hr
    · obtain ⟨_, _, _, -, -, h, -⟩ := BybitSession.parseKlines_ok h
      rw [h] at hr; cases hr
  | binance =>
    refine hNot (by decide) fun u error hr => ?_
    simp only [reading] at hr
    rcases BinanceSession.reading_cases value with h | ⟨e, h⟩ | ⟨_, _, -, ⟨-, h⟩ | ⟨-, h⟩ | ⟨-, h⟩⟩
    · rw [h] at hr; cases hr
    · rw [h] at hr; cases hr
    · obtain ⟨_, _, _, _, _, h, -⟩ := BinanceSession.parseTicker_ok h
      rw [h] at hr; cases hr
    · obtain ⟨_, _, _, _, _, h, -⟩ := BinanceSession.parseMarkPrice_ok h
      rw [h] at hr; cases hr
    · obtain ⟨_, _, h, -⟩ := BinanceSession.parseKline_ok h
      rw [h] at hr; cases hr
  | okx =>
    refine hNot (by decide) fun u error hr => ?_
    simp only [reading] at hr
    rcases OkxSession.reading_cases value with ⟨e, h⟩ | h
    · rw [h] at hr; cases hr
    · obtain ⟨_, _, _, _, -, -, -, -, -, h⟩ := OkxSession.parseDataMessage_ok h
      rcases h with h | ⟨-, h⟩ | ⟨-, h⟩ | ⟨-, h⟩ | ⟨_, -, -, h⟩ | h <;> rw [h] at hr <;> cases hr
  | kucoin =>
    refine hNot (by decide) fun u error hr => ?_
    simp only [reading] at hr
    rcases KucoinSession.reading_cases value text with h | ⟨e, h⟩ | ⟨_, -, h | h | h | h | h⟩
    · rw [h] at hr; cases hr
    · rw [h] at hr; cases hr
    · obtain ⟨_, _, _, _, h, -⟩ := KucoinSession.parseTickerV2_ok h
      rw [h] at hr; cases hr
    · obtain ⟨_, _, _, _, h, -⟩ := KucoinSession.parseExecution_ok h
      rw [h] at hr; cases hr
    · obtain ⟨_, _, _, h, -⟩ := KucoinSession.parseMarkIndex_ok h
      rw [h] at hr; cases hr
    · obtain ⟨_, _, _, h, -⟩ := KucoinSession.parseFunding_ok h
      rw [h] at hr; cases hr
    · obtain ⟨_, _, _, h, -⟩ := KucoinSession.parseCandle_ok h
      rw [h] at hr; cases hr
  | bingx =>
    refine hNot (by decide) fun u error hr => ?_
    simp only [reading] at hr
    rcases BingxSession.reading_cases value receivedAtMs with h | ⟨e, h⟩ | ⟨_, -, h | h | h | h⟩
    · rw [h] at hr; cases hr
    · rw [h] at hr; cases hr
    · obtain ⟨_, _, _, h, -⟩ := BingxSession.parseTicker_ok h
      rw [h] at hr; cases hr
    · obtain ⟨_, _, _, h, -⟩ := BingxSession.parseMarkPrice_ok h
      rw [h] at hr; cases hr
    · obtain ⟨_, _, h, -⟩ := BingxSession.parseBookTicker_ok h
      rw [h] at hr; cases hr
    · obtain ⟨_, _, h, -⟩ := BingxSession.parseKline_ok h
      rw [h] at hr; cases hr
  | mexc =>
    refine ⟨fun _ u hu => ?_, fun _ _ _ => rfl⟩
    -- what a frame of MEXC writes is a value each time, and nothing is reset
    have hSteady : ∀ {names : List (Field × Text)} {data : Value} {observedAtMs : Nat},
        MexcSession.DataCarries names data observedAtMs text u → u.Steady := by
      rintro names data observedAtMs ⟨hReset, hWrites⟩
      refine ⟨hReset, fun w hw => ?_⟩
      obtain ⟨_, _, observed, -, hSome, -⟩ := hWrites w hw
      exact ⟨observed, hSome⟩
    simp only [reading] at hu
    rcases MexcSession.reading_cases value text with h | ⟨e, h⟩ | ⟨-, h⟩ | ⟨-, h⟩ | ⟨-, h⟩
    · rw [h] at hu; cases hu
    · rw [h] at hu; cases hu
    · obtain ⟨v, _, _, _, _, h, -, -, -, -, hCarries, -⟩ := MexcSession.parseTicker_ok h
      rw [h] at hu
      obtain rfl := List.mem_singleton.mp hu
      exact hSteady hCarries
    · obtain ⟨v, _, _, _, h, -, -, -, -, hCarries⟩ := MexcSession.parseFunding_ok h
      rw [h] at hu
      obtain rfl := List.mem_singleton.mp hu
      exact hSteady hCarries
    · obtain ⟨_, _, _, h, -⟩ := MexcSession.parseCandle_ok h
      rw [h] at hu; cases hu

/-! ## Two runs -/

/-- A frame as `process_text` gets it, with the time it arrived. -/
abbrev Arrival := Text × Nat

namespace Connection

/-- The connection after a frame. -/
def frameStep {a : ProviderAdapter} (c : Connection a) (frame : Arrival) : Connection a :=
  (c.processText frame.1 frame.2).2

/-- The frame leads to a published event. -/
def Publishes {a : ProviderAdapter} (c : Connection a) (frame : Arrival) : Prop :=
  (c.frameStep frame).published ≠ c.published

/-- Every event of the frame is rejected. -/
def Rejects {a : ProviderAdapter} (c : Connection a) (frame : Arrival) : Prop :=
  ∃ events, (a.parse c.session frame.1 frame.2).1 = .ok (.events events) ∧
    ∀ event ∈ events, accepted event = false

omit [Unicode] [JsonText] [Serde] in
/-- A frame leaves the session that parsing leaves. -/
theorem frameStep_session {a : ProviderAdapter} (c : Connection a) (frame : Arrival) :
    (c.frameStep frame).session = (a.parse c.session frame.1 frame.2).2 := by
  unfold frameStep processText
  split <;> next hParse => rw [hParse]

omit [Unicode] [JsonText] [Serde] in
/-- A frame is published exactly if one of its events is accepted. -/
theorem publishes_iff {a : ProviderAdapter} {c : Connection a} {frame : Arrival} :
    c.Publishes frame ↔ ∃ events, (a.parse c.session frame.1 frame.2).1 = .ok (.events events) ∧
      SomeAccepted events := by
  unfold Publishes frameStep processText
  split
  · next events session hParse =>
    rw [hParse]
    constructor
    · intro h
      refine ⟨events, rfl, ?_⟩
      by_contra hNone
      refine h ?_
      -- nothing accepted, so nothing is published
      have hEmpty : events.filter accepted = [] := List.filter_eq_nil_iff.mpr
        fun event hEvent hAccepted => hNone ⟨event, hEvent, hAccepted⟩
      rw [hEmpty]
      exact List.append_nil _
    · rintro ⟨others, hOthers, event, hEvent, hAccepted⟩ hSame
      obtain rfl := ParsedFrame.events.inj (Except.ok.inj hOthers)
      have hEmpty := List.append_right_eq_self.mp hSame
      exact List.not_mem_nil (hEmpty ▸ List.mem_filter.mpr ⟨hEvent, hAccepted⟩)
  all_goals
    next hParse =>
    rw [hParse]
    exact ⟨fun h => absurd rfl h, fun ⟨_, hEvents, _⟩ => by cases hEvents⟩

end Connection

variable {provider : Provider}

/-- A frame may be rejected only if it is harmless. -/
def SafeFrame (c : Connection (configuredAdapter provider)) (frame : Arrival) : Prop :=
  c.Rejects frame → ∀ u ∈ (frameReading provider frame.1 frame.2).updates,
    Harmless provider (sessionTickers provider c.session) u

/-- The caches of two connections, one covering the other. -/
def ConnectionCovers (c' c : Connection (configuredAdapter provider)) : Prop :=
  CoversAll provider (sessionTickers provider c'.session) (sessionTickers provider c.session)

/-- The reading of any text is as tame as the reading of a document. -/
theorem frameReading_tame (text : Text) (receivedAtMs : Nat) :
    (frameReading provider text receivedAtMs).Tame provider := by
  unfold frameReading
  split
  · exact reading_tame provider _ text receivedAtMs
  · exact ⟨fun _ u hu => absurd hu List.not_mem_nil, fun _ _ h => by cases h⟩

/-- A frame stores what its reading applies. -/
theorem frameStep_tickers (c : Connection (configuredAdapter provider)) (frame : Arrival) :
    sessionTickers provider (c.frameStep frame).session =
      storeAll (sessionTickers provider c.session)
        ((frameReading provider frame.1 frame.2).applied (sessionTickers provider c.session)) := by
  rw [Connection.frameStep_session, parse_tickers]

/-- A frame keeps one connection covering the other. -/
theorem ConnectionCovers.step {c' c : Connection (configuredAdapter provider)}
    (h : ConnectionCovers c' c) (frame : Arrival) :
    ConnectionCovers (c'.frameStep frame) (c.frameStep frame) := by
  have hHandle := (handle_covers frame.2 0 0
    (frameReading_tame frame.1 frame.2) h).1
  rw [Reading.handle_tickers, Reading.handle_tickers] at hHandle
  unfold ConnectionCovers
  rw [frameStep_tickers, frameStep_tickers]
  exact hHandle

/-- The covering connection publishes what the other one publishes. -/
theorem ConnectionCovers.publishes {c' c : Connection (configuredAdapter provider)}
    (h : ConnectionCovers c' c) {frame : Arrival} (hPublishes : c.Publishes frame) :
    c'.Publishes frame := by
  obtain ⟨events, hEvents, hSome⟩ := Connection.publishes_iff.mp hPublishes
  obtain ⟨events', hHandle', hSome'⟩ :=
    (handle_covers _ _ (sessionEpoch provider c'.session) (frameReading_tame frame.1 frame.2) h).2
      events (parse_events hEvents) hSome
  refine Connection.publishes_iff.mpr ⟨events', ?_, hSome'⟩
  unfold frameReading at hHandle'
  cases hValue : marketValue provider frame.1 with
  | none =>
    rw [hValue] at hHandle'
    cases Except.ok.inj hHandle'
  | some value =>
    rw [hValue] at hHandle'
    rw [(parse_market hValue c'.session frame.2).1, hHandle']
    rfl

/-- Receiving a harmless frame leaves a cache that covers the one before. -/
theorem SafeFrame.covers {c : Connection (configuredAdapter provider)} {frame : Arrival}
    (h : SafeFrame c frame) (hRejects : c.Rejects frame) :
    ConnectionCovers (c.frameStep frame) c := by
  unfold ConnectionCovers
  rw [frameStep_tickers]
  exact coversAll_storeAll fun u hu => h hRejects u (Reading.applied_subset _ _ hu)

/-- In a run whose rejected frames are harmless, every later frame that leads to
a published event without the rejected frame leads to one with it. -/
theorem rejected_frame_suppresses_nothing (c : Connection (configuredAdapter provider))
    (before later : List Arrival) (bad frame : Arrival)
    (hSafe : AllSteps Connection.frameStep SafeFrame c (before ++ bad :: later))
    (hRejects : (run Connection.frameStep c before).Rejects bad)
    (hPublishes : (run Connection.frameStep c (before ++ later)).Publishes frame) :
    (run Connection.frameStep c (before ++ bad :: later)).Publishes frame := by
  rw [run_append] at hPublishes
  rw [run_append, run_cons]
  have hCovers := (allSteps_append.mp hSafe).2.1.covers hRejects
  exact (run_related (R := ConnectionCovers) (fun _ _ frame h => h.step frame) hCovers
    later).publishes hPublishes

end Runs

/-! ## A mark price of zero, and a funding rate without a price -/

section Instance

/-- A Binance mark price of zero, which no event may show. -/
def zeroMark : Value :=
  .object [("e".toList, .string "markPriceUpdate".toList), ("E".toList, .number (.posInt 1)),
    ("s".toList, .string "BTCUSDT".toList), ("p".toList, .string "0".toList),
    ("i".toList, .string "42".toList), ("r".toList, .string "1".toList),
    ("T".toList, .number (.posInt 9))]

/-- A last price that a ticker may show. -/
def soundLast : Value :=
  .object [("e".toList, .string "24hrTicker".toList), ("E".toList, .number (.posInt 2)),
    ("s".toList, .string "BTCUSDT".toList), ("c".toList, .string "43".toList)]

/-- An OKX funding rate, which no event shows before there is a price. -/
def fundingFirst : Value :=
  .object [("arg".toList, .object [("channel".toList, .string "funding-rate".toList),
      ("instId".toList, .string "BTC-USDT-SWAP".toList)]),
    ("data".toList, .array [.object [("instId".toList, .string "BTC-USDT-SWAP".toList),
      ("fundingRate".toList, .string "1".toList), ("ts".toList, .string "1".toList)]])]

/-- A mark price of the same symbol, which a ticker may show. -/
def markSecond : Value :=
  .object [("arg".toList, .object [("channel".toList, .string "mark-price".toList),
      ("instId".toList, .string "BTC-USDT-SWAP".toList)]),
    ("data".toList, .array [.object [("instId".toList, .string "BTC-USDT-SWAP".toList),
      ("markPx".toList, .string "42".toList), ("ts".toList, .string "2".toList)]])]

local instance zeroUnicode : Unicode := .ascii
local instance zeroJson : JsonText := .table [(zeroMark.display, zeroMark),
  (soundLast.display, soundLast), (fundingFirst.display, fundingFirst),
  (markSecond.display, markSecond)]
local instance zeroDecimal : RustDecimal := .digits
local instance zeroSerde : Serde := .mute

/-- A connection that has just been opened, without anything to subscribe. -/
def opened (provider : Provider) (endpoint : EndpointKind) :
    Connection (configuredAdapter provider) :=
  (Connection.establish (configuredAdapter provider) endpoint 0
    ⟨⟨1000, "1s".toList⟩, ⟨1000, "1s".toList⟩⟩ ∅).2

/-- The ticker after a mark price of zero is rejected for the mark price; without
it, the ticker is published. -/
theorem zero_mark_suppresses_last :
    (opened .binance .pub).Rejects (zeroMark.display, 5) ∧
    (run Connection.frameStep (opened .binance .pub) ([] ++ [])).Publishes (soundLast.display, 6) ∧
    ¬ (run Connection.frameStep (opened .binance .pub)
      ([] ++ (zeroMark.display, 5) :: [])).Publishes
      (soundLast.display, 6) := by
  refine ⟨⟨[{
      connectionEpoch := 0, provider := .binance, market := .linearPerpetual
      symbol := "BTCUSDT".toList, exchangeTimeMs := some 1, gatewayReceivedTimeMs := 5
      sourceSequence := none
      payload := .ticker { mark := some ⟨⟨"0".toList⟩, 1⟩, index := some ⟨⟨"42".toList⟩, 1⟩,
                           fundingRate := some ⟨⟨"1".toList⟩, 1⟩, nextFundingTimeMs := some 9 } }],
    ?_, ?_⟩, ?_, ?_⟩
  · decide +kernel
  · decide +kernel
  · unfold Connection.Publishes
    decide +kernel
  · unfold Connection.Publishes
    decide +kernel

/-- A funding rate that comes before the first price is rejected, and the price
after it is published all the same. -/
theorem funding_before_price_is_harmless :
    (run Connection.frameStep (opened .okx .pub) ([] ++ (fundingFirst.display, 5) :: [])).Publishes
      (markSecond.display, 6) := by
  -- the frame writes the funding rate alone
  have hUpdates : (frameReading .okx fundingFirst.display 5).updates =
      [{ symbol := "BTC-USDT-SWAP".toList, observedAtMs := 1,
         writes := [(.fundingRate, some ⟨⟨"1".toList⟩, 1⟩)], nextFundingTimeMs := some none }] := by
    decide +kernel
  refine rejected_frame_suppresses_nothing (opened .okx .pub) [] [] (fundingFirst.display, 5)
    (markSecond.display, 6) ⟨fun _ u hu => ?_, trivial⟩ ⟨[{
      connectionEpoch := 0, provider := .okx, market := .linearPerpetual
      symbol := "BTC-USDT-SWAP".toList, exchangeTimeMs := some 1, gatewayReceivedTimeMs := 5
      sourceSequence := none
      payload := .ticker { fundingRate := some ⟨⟨"1".toList⟩, 1⟩ } }], ?_, ?_⟩ ?_
  · rw [hUpdates] at hu
    obtain rfl := List.mem_singleton.mp hu
    refine ⟨fun field value hWritten => ?_, fun hMexc => by cases hMexc⟩
    cases field with
    | fundingRate =>
      obtain rfl := Option.some.inj hWritten
      exact .inr ⟨by decide, by decide, _, rfl, by decide, fun h => absurd rfl h⟩
    | last | mark | index | bid | ask => cases hWritten
  · decide +kernel
  · decide +kernel
  · unfold Connection.Publishes
    decide +kernel

end Instance

end MarketStreamGateway
