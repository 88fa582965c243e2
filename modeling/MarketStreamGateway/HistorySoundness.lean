import MarketStreamGateway.HistoryResult

/-!
# Market Stream Gateway — history against any venue

What `HistoryClient::fetch` guarantees when nothing is known of the venue: the
bodies may hold any rows in any number and any order, and every page may be
answered differently.

Every path from a body to the result ends in `build_candle`, which checks what
it builds (`Candle.Sound`); each row decoder adds where the finality comes
from. The loops only collect (`fetchBackwards_origin` and its two siblings),
and `finish_result` orders, drops repetitions and cuts. How often a venue is
asked is counted down, so the answers to more than 40 queries cannot matter.

Main result:
* `fetch_sound` — bounded requests, and the guarantees of every result.
-/

namespace MarketStreamGateway

open Lib

-- ---------------------------------------------------------------------------
-- Candles that passed their check
-- ---------------------------------------------------------------------------

section Validation

variable [RustDecimal]

/-- A volume that is reported is a decimal and not negative. -/
def VolumeSound (volume : Option DecimalValue) : Prop :=
  ∀ value, volume = some value → ∃ d, decimal value = .ok d ∧ Decimal.zero.le d

/-- The prices are positive and between low and high. -/
structure PricesSound (openPrice high low close : Decimal) : Prop where
  positive : ∀ price ∈ [openPrice, high, low, close], Decimal.zero.lt price
  low_open : low.le openPrice
  low_close : low.le close
  open_high : openPrice.le high
  close_high : close.le high

/-- A candle that is sound: a minute long, with prices in range of each other
and volumes that are not negative. -/
structure Candle.Sound (c : Candle) : Prop where
  minute : c.endTimeMs = c.startTimeMs + History.candleIntervalMs
  prices : ∃ openPrice high low close, decimal c.openPrice = .ok openPrice ∧
    decimal c.high = .ok high ∧ decimal c.low = .ok low ∧ decimal c.close = .ok close ∧
    PricesSound openPrice high low close
  volumes : ∀ volume ∈ [c.baseVolume, c.quoteVolume, c.contractVolume], VolumeSound volume

/-- A volume that validates is absent or not negative. -/
theorem validateVolume_sound {volume : Option DecimalValue} (h : validateVolume volume = .ok ()) :
    VolumeSound volume := by
  rintro value rfl
  rw [validateVolume] at h
  obtain ⟨d, hDecimal, h⟩ := bind_eq_ok.mp h
  refine ⟨d, hDecimal, ?_⟩
  by_contra hNegative
  rw [Decimal.lt, Bool.eq_false_of_not_eq_true hNegative] at h
  cases h

/-- What `Candle::validate` accepts. -/
theorem Candle.sound_of_validate {c : Candle} (h : c.validate = .ok ()) : c.Sound := by
  have hMinute := History.validate_minute h
  unfold Candle.validate at h
  split at h
  · exact absurd h throw_bind_ne_ok
  -- the prices are read before they are compared
  obtain ⟨openPrice, hOpen, h⟩ := bind_eq_ok.mp h
  obtain ⟨high, hHigh, h⟩ := bind_eq_ok.mp h
  obtain ⟨low, hLow, h⟩ := bind_eq_ok.mp h
  obtain ⟨close, hClose, h⟩ := bind_eq_ok.mp h
  dsimp only at h
  split at h
  · exact absurd h throw_bind_ne_ok
  next hPositive =>
  split at h
  · exact absurd h throw_bind_ne_ok
  next hBounds =>
  obtain ⟨_, hBase, h⟩ := bind_eq_ok.mp h
  obtain ⟨_, hQuote, hContract⟩ := bind_eq_ok.mp h
  refine ⟨hMinute, ⟨openPrice, high, low, close, hOpen, hHigh, hLow, hClose, ?_⟩, ?_⟩
  · simp only [Decimal.lt, Bool.or_eq_true, Bool.not_eq_true', not_or, Bool.not_eq_false]
      at hBounds
    obtain ⟨⟨⟨⟨hOpenHigh, hCloseHigh⟩, -⟩, hLowOpen⟩, hLowClose⟩ := hBounds
    refine ⟨fun price hPrice => ?_, hLowOpen, hLowClose, hOpenHigh, hCloseHigh⟩
    rw [List.any_eq_true, not_exists] at hPositive
    rw [Decimal.lt, Bool.not_eq_true']
    exact Bool.eq_false_of_not_eq_true fun hLe => hPositive price ⟨hPrice, hLe⟩
  · intro volume hVolume
    simp only [List.mem_cons, List.not_mem_nil, or_false] at hVolume
    rcases hVolume with rfl | rfl | rfl
    · exact validateVolume_sound hBase
    · exact validateVolume_sound hQuote
    · exact validateVolume_sound hContract

end Validation

namespace History

-- ---------------------------------------------------------------------------
-- Rows
-- ---------------------------------------------------------------------------

section Rows

variable [RustDecimal]

/-- What `build_candle` makes of its fields. -/
structure Built (fields : CandleFields) (c : Candle) : Prop where
  sound : c.Sound
  start : c.startTimeMs = fields.startTimeMs
  aligned : candleIntervalMs ∣ c.startTimeMs
  finality : c.finality = fields.finality
  baseVolume : fields.baseVolume = none → c.baseVolume = none
  quoteVolume : fields.quoteVolume = none → c.quoteVolume = none
  contractVolume : fields.contractVolume = none → c.contractVolume = none

/-- An optional decimal that is not there is not read. -/
theorem optionalDecimal_none {provider : Provider} {value : Option Text} {field : Text}
    {parsed : Option DecimalValue} (h : optionalDecimal provider value field = .ok parsed)
    (hNone : value = none) : parsed = none := by
  rw [hNone, optionalDecimal] at h
  exact (Except.ok.inj h).symm

/-- The shared end of the decoders builds from the fields and changes none of them. -/
theorem buildCandle_built {provider : Provider} {fields : CandleFields} {c : Candle}
    (h : buildCandle provider fields = .ok c) : Built fields c := by
  unfold buildCandle at h
  split at h
  · exact absurd h throw_bind_ne_ok
  next hAligned =>
  obtain ⟨endTimeMs, hEnd, h⟩ := bind_eq_ok.mp h
  -- the four prices
  iterate 4 obtain ⟨_, -, h⟩ := bind_eq_ok.mp h
  obtain ⟨baseVolume, hBase, h⟩ := bind_eq_ok.mp h
  obtain ⟨quoteVolume, hQuote, h⟩ := bind_eq_ok.mp h
  obtain ⟨contractVolume, hContract, h⟩ := bind_eq_ok.mp h
  dsimp only at h
  split at h
  · next hValid =>
    obtain rfl := Except.ok.inj h
    exact ⟨Candle.sound_of_validate hValid, rfl, not_not.mp hAligned, rfl,
      optionalDecimal_none hBase, optionalDecimal_none hQuote, optionalDecimal_none hContract⟩
  · cases h

/-- A candle of a venue without a finality field: it is closed only if it ended
by the venue's own clock. -/
theorem buildCandle_elapsed {provider : Provider} {fields : CandleFields} {c : Candle}
    {message : Text} {endTimeMs serverTimeMs : Nat} (h : buildCandle provider fields = .ok c)
    (hEnd : addInterval provider fields.startTimeMs message = .ok endTimeMs)
    (hFinality : fields.finality = elapsedFinality endTimeMs serverTimeMs) :
    Built fields c ∧ (c.finality = .closed → c.endTimeMs ≤ serverTimeMs) := by
  have hBuilt := buildCandle_built h
  refine ⟨hBuilt, fun hClosed => ?_⟩
  rw [hBuilt.finality, hFinality, elapsedFinality] at hClosed
  -- the finality was settled by the end of the same minute
  have hSum : endTimeMs = fields.startTimeMs + candleIntervalMs := by
    rw [addInterval] at hEnd
    split at hEnd
    · exact (Except.ok.inj hEnd).symm
    · cases hEnd
  split at hClosed
  · next hElapsed =>
    rw [hBuilt.sound.minute, hBuilt.start, ← hSum]
    exact hElapsed
  · cases hClosed

/-- A row of Bybit is built from its fields, and is closed only once the server
is past it. -/
theorem parseBybitRow_built {row : List Text} {serverTimeMs : Nat} {c : Candle}
    (h : parseBybitRow row serverTimeMs = .ok c) :
    ∃ fields, Built fields c ∧ (c.finality = .closed → c.endTimeMs ≤ serverTimeMs) := by
  unfold parseBybitRow at h
  obtain ⟨⟨hLen⟩, -, h⟩ := bind_eq_ok.mp h
  obtain ⟨startTimeMs, -, h⟩ := bind_eq_ok.mp h
  obtain ⟨endTimeMs, hEnd, h⟩ := bind_eq_ok.mp h
  exact ⟨_, buildCandle_elapsed h hEnd rfl⟩

theorem parseBinanceRow_built {row : List RawValue} {serverTimeMs : Nat} {c : Candle}
    (h : parseBinanceRow row serverTimeMs = .ok c) :
    ∃ fields, Built fields c ∧ (c.finality = .closed → c.endTimeMs ≤ serverTimeMs) := by
  unfold parseBinanceRow at h
  obtain ⟨⟨hLen⟩, -, h⟩ := bind_eq_ok.mp h
  obtain ⟨startTimeMs, -, h⟩ := bind_eq_ok.mp h
  obtain ⟨closeTimeMs, -, h⟩ := bind_eq_ok.mp h
  obtain ⟨endTimeMs, hEnd, h⟩ := bind_eq_ok.mp h
  -- the close time, four prices and two volumes
  iterate 7 obtain ⟨_, -, h⟩ := bind_eq_ok.mp h
  exact ⟨_, buildCandle_elapsed h hEnd rfl⟩

/-- OKX says of every candle whether it is confirmed. -/
theorem parseOkxRow_built {row : List Text} {c : Candle} (h : parseOkxRow row = .ok c) :
    ∃ fields, Built fields c ∧ (c.finality = .closed → row[8]? = some "1".toList) := by
  unfold parseOkxRow at h
  obtain ⟨⟨hLen⟩, -, h⟩ := bind_eq_ok.mp h
  dsimp only at h
  split at h
  · rw [ok_bind] at h
    obtain ⟨startTimeMs, -, h⟩ := bind_eq_ok.mp h
    have hBuilt := buildCandle_built h
    refine ⟨_, hBuilt, fun hClosed => ?_⟩
    rw [hBuilt.finality] at hClosed
    cases hClosed
  split at h
  · -- the ninth field says that the candle is closed
    next hConfirm =>
    rw [ok_bind] at h
    obtain ⟨startTimeMs, -, h⟩ := bind_eq_ok.mp h
    refine ⟨_, buildCandle_built h, fun _ => ?_⟩
    rw [← hConfirm]
    exact List.getElem?_eq_getElem (hLen ▸ by decide)
  · cases h

/-- KuCoin candles carry neither finality nor volume. -/
theorem parseKucoinRow_built {row : List RawValue} {c : Candle} (h : parseKucoinRow row = .ok c) :
    ∃ fields, Built fields c ∧ c.finality = .unknown ∧ c.baseVolume = none ∧
      c.quoteVolume = none ∧ c.contractVolume = none := by
  unfold parseKucoinRow at h
  obtain ⟨⟨hLen⟩, -, h⟩ := bind_eq_ok.mp h
  iterate 5 obtain ⟨_, -, h⟩ := bind_eq_ok.mp h
  have hBuilt := buildCandle_built h
  exact ⟨_, hBuilt, hBuilt.finality, hBuilt.baseVolume rfl, hBuilt.quoteVolume rfl,
    hBuilt.contractVolume rfl⟩

theorem parseMexcRow_built {data : MexcHistoryData} {hParallel : data.Parallel}
    {serverTimeMs : Nat} {index : Fin data.time.length} {c : Candle}
    (h : parseMexcRow data hParallel serverTimeMs index = .ok c) :
    ∃ fields, Built fields c ∧ (c.finality = .closed → c.endTimeMs ≤ serverTimeMs) := by
  unfold parseMexcRow at h
  obtain ⟨seconds, -, h⟩ := bind_eq_ok.mp h
  dsimp only at h
  split at h
  · exact absurd h throw_bind_ne_ok
  obtain ⟨endTimeMs, hEnd, h⟩ := bind_eq_ok.mp h
  iterate 6 obtain ⟨_, -, h⟩ := bind_eq_ok.mp h
  exact ⟨_, buildCandle_elapsed h hEnd rfl⟩

theorem parseBingxRow_built {row : BingxRow} {serverTimeMs : Nat} {c : Candle}
    (h : parseBingxRow row serverTimeMs = .ok c) :
    ∃ fields, Built fields c ∧ (c.finality = .closed → c.endTimeMs ≤ serverTimeMs) := by
  unfold parseBingxRow at h
  split at h
  · cases h
  · obtain ⟨startTimeMs, -, h⟩ := bind_eq_ok.mp h
    obtain ⟨endTimeMs, hEnd, h⟩ := bind_eq_ok.mp h
    iterate 5 obtain ⟨_, -, h⟩ := bind_eq_ok.mp h
    exact ⟨_, buildCandle_elapsed h hEnd rfl⟩
  · cases h
  · obtain ⟨⟨hLen⟩, -, h⟩ := bind_eq_ok.mp h
    obtain ⟨startTimeMs, -, h⟩ := bind_eq_ok.mp h
    obtain ⟨endTimeMs, hEnd, h⟩ := bind_eq_ok.mp h
    -- both checks of the close time, four prices and two volumes
    iterate 8 obtain ⟨_, -, h⟩ := bind_eq_ok.mp h
    exact ⟨_, buildCandle_elapsed h hEnd rfl⟩
  · cases h

end Rows

-- ---------------------------------------------------------------------------
-- Loops
-- ---------------------------------------------------------------------------

section Loops

variable {Query : Type} {provider : Provider} {pageLimit : Nat}
  {page page' : List Query → Except HistoryError (List Candle)}

/-- A candle that a page holds. -/
def Paged (page : List Query → Except HistoryError (List Candle)) (c : Candle) : Prop :=
  ∃ asked found, page asked = .ok found ∧ c ∈ found

/-- What a loop adds to its candles came in a page. -/
theorem paged_append {candles found all : List Candle} {asked : List Query}
    (hFound : page asked = .ok found)
    (hAll : ∀ c ∈ all, c ∈ candles ++ found ∨ Paged page c) :
    ∀ c ∈ all, c ∈ candles ∨ Paged page c := by
  intro c hc
  rcases hAll c hc with hMem | hPaged
  · rcases List.mem_append.mp hMem with hOld | hNew
    · exact Or.inl hOld
    · exact Or.inr ⟨asked, found, hFound, hNew⟩
  · exact Or.inr hPaged

/-- What the backward loop returns was there before or came on a page. -/
theorem fetchBackwards_origin {startTimeMs : Nat} {query : Nat → Except HistoryError Query}
    {pages : Nat} {asked : List Query} {cursor : Nat} {candles all : List Candle}
    (h : fetchBackwards provider pageLimit startTimeMs query page pages asked cursor candles =
      .ok all) : ∀ c ∈ all, c ∈ candles ∨ Paged page c := by
  induction pages generalizing asked cursor candles with
  | zero => cases h
  | succ pages ih =>
    rw [fetchBackwards] at h
    obtain ⟨q, -, h⟩ := bind_eq_ok.mp h
    obtain ⟨found, hFound, h⟩ := bind_eq_ok.mp h
    split at h
    · obtain rfl := Except.ok.inj h
      exact fun c hc => Or.inl hc
    · -- a page that brings no progress is refused
      split at h
      · cases h
      refine paged_append hFound ?_
      dsimp only at h
      split at h
      · obtain rfl := Except.ok.inj h
        exact fun c hc => Or.inl hc
      · exact ih h

/-- What the forward loop returns was there before or came on a page. -/
theorem fetchForwards_origin {endTimeMs : Nat} {query : Nat → Except HistoryError Query}
    {pages : Nat} {asked : List Query} {cursor : Nat} {candles all : List Candle}
    (h : fetchForwards provider pageLimit endTimeMs query page pages asked cursor candles =
      .ok all) : ∀ c ∈ all, c ∈ candles ∨ Paged page c := by
  induction pages generalizing asked cursor candles with
  | zero =>
    rw [fetchForwards] at h
    split at h
    · cases h
    · obtain rfl := Except.ok.inj h
      exact fun c hc => Or.inl hc
  | succ pages ih =>
    rw [fetchForwards] at h
    split at h
    · obtain ⟨q, -, h⟩ := bind_eq_ok.mp h
      obtain ⟨found, hFound, h⟩ := bind_eq_ok.mp h
      split at h
      · obtain rfl := Except.ok.inj h
        exact fun c hc => Or.inl hc
      · -- the page was not empty
        obtain ⟨next, -, h⟩ := bind_eq_ok.mp h
        split at h
        · cases h
        refine paged_append hFound ?_
        dsimp only at h
        split at h
        · obtain rfl := Except.ok.inj h
          exact fun c hc => Or.inl hc
        · exact ih h
    · obtain rfl := Except.ok.inj h
      exact fun c hc => Or.inl hc

/-- What the window loop returns was there before or came on a page. -/
theorem fetchWindows_origin {pageSpan endTimeMs : Nat}
    {query : Nat → Nat → Except HistoryError Query} {pages : Nat} {asked : List Query}
    {cursor : Nat} {candles all : List Candle}
    (h : fetchWindows provider pageSpan endTimeMs query page pages asked cursor candles =
      .ok all) : ∀ c ∈ all, c ∈ candles ∨ Paged page c := by
  induction pages generalizing asked cursor candles with
  | zero =>
    rw [fetchWindows] at h
    split at h
    · cases h
    · obtain rfl := Except.ok.inj h
      exact fun c hc => Or.inl hc
  | succ pages ih =>
    rw [fetchWindows] at h
    split at h
    · obtain ⟨q, -, h⟩ := bind_eq_ok.mp h
      obtain ⟨found, hFound, h⟩ := bind_eq_ok.mp h
      refine paged_append hFound ?_
      dsimp only at h
      split at h
      · cases h
      · exact ih h
    · obtain rfl := Except.ok.inj h
      exact fun c hc => Or.inl hc

/-- A loop with `pages` left asks at most that many pages more. -/
theorem fetchBackwards_congr {startTimeMs : Nat} {query : Nat → Except HistoryError Query}
    {pages : Nat} {asked : List Query} {cursor : Nat} {candles : List Candle}
    (h : ∀ a, a.length ≤ asked.length + pages → page' a = page a) :
    fetchBackwards provider pageLimit startTimeMs query page' pages asked cursor candles =
      fetchBackwards provider pageLimit startTimeMs query page pages asked cursor candles := by
  induction pages generalizing asked cursor candles with
  | zero => rfl
  | succ pages ih =>
    rw [fetchBackwards, fetchBackwards]
    cases query cursor with
    | error e => simp only [error_bind]
    | ok q =>
      have hLater : ∀ a, a.length ≤ (q :: asked).length + pages → page' a = page a :=
        fun a ha => h a (by rw [List.length_cons] at ha; omega)
      have hNow : page' (q :: asked) = page (q :: asked) := hLater _ (Nat.le_add_right _ _)
      simp only [ok_bind, hNow, ih hLater]

/-- The forward loop looks at no more pages than its budget. -/
theorem fetchForwards_congr {endTimeMs : Nat} {query : Nat → Except HistoryError Query}
    {pages : Nat} {asked : List Query} {cursor : Nat} {candles : List Candle}
    (h : ∀ a, a.length ≤ asked.length + pages → page' a = page a) :
    fetchForwards provider pageLimit endTimeMs query page' pages asked cursor candles =
      fetchForwards provider pageLimit endTimeMs query page pages asked cursor candles := by
  induction pages generalizing asked cursor candles with
  | zero => rfl
  | succ pages ih =>
    rw [fetchForwards, fetchForwards]
    cases query cursor with
    | error e => simp only [error_bind]
    | ok q =>
      have hLater : ∀ a, a.length ≤ (q :: asked).length + pages → page' a = page a :=
        fun a ha => h a (by rw [List.length_cons] at ha; omega)
      have hNow : page' (q :: asked) = page (q :: asked) := hLater _ (Nat.le_add_right _ _)
      simp only [ok_bind, hNow, ih hLater]

theorem fetchWindows_congr {pageSpan endTimeMs : Nat}
    {query : Nat → Nat → Except HistoryError Query} {pages : Nat} {asked : List Query}
    {cursor : Nat} {candles : List Candle}
    (h : ∀ a, a.length ≤ asked.length + pages → page' a = page a) :
    fetchWindows provider pageSpan endTimeMs query page' pages asked cursor candles =
      fetchWindows provider pageSpan endTimeMs query page pages asked cursor candles := by
  induction pages generalizing asked cursor candles with
  | zero => rfl
  | succ pages ih =>
    rw [fetchWindows, fetchWindows]
    dsimp only
    cases query cursor (min (min (cursor + pageSpan) u64Max) endTimeMs) with
    | error e => simp only [error_bind]
    | ok q =>
      -- the rounds to come ask for no more pages than there are rounds
      have hLater : ∀ a, a.length ≤ (q :: asked).length + pages → page' a = page a :=
        fun a ha => h a (by rw [List.length_cons] at ha; omega)
      have hNow : page' (q :: asked) = page (q :: asked) := hLater _ (Nat.le_add_right _ _)
      simp only [ok_bind, hNow, ih hLater]

end Loops

-- ---------------------------------------------------------------------------
-- Pages
-- ---------------------------------------------------------------------------

section Pages

variable [RustDecimal]

/-- A candle of a Bybit page was decoded from a row of it. -/
theorem parseBybit_rows {body : BybitBody} {symbol : Text} {found : List Candle}
    (h : parseBybit body symbol = .ok found) {c : Candle} (hc : c ∈ found) :
    ∃ response, body.response = .ok response ∧
      ∃ row ∈ response.list, parseBybitRow row response.time = .ok c := by
  unfold parseBybit at h
  obtain ⟨header, -, h⟩ := bind_eq_ok.mp h
  dsimp only at h
  split at h
  · exact absurd h throw_bind_ne_ok
  obtain ⟨response, hResponse, h⟩ := bind_eq_ok.mp h
  split at h
  · exact absurd h throw_bind_ne_ok
  split at h
  · exact absurd h throw_bind_ne_ok
  exact ⟨response, hResponse, mem_of_mapM_eq_ok h hc⟩

theorem parseOkx_rows {body : OkxBody} {found : List Candle} (h : parseOkx body = .ok found)
    {c : Candle} (hc : c ∈ found) :
    ∃ response, body.response = .ok response ∧ ∃ row ∈ response.data, parseOkxRow row = .ok c := by
  unfold parseOkx at h
  obtain ⟨header, -, h⟩ := bind_eq_ok.mp h
  dsimp only at h
  split at h
  · exact absurd h throw_bind_ne_ok
  obtain ⟨response, hResponse, h⟩ := bind_eq_ok.mp h
  split at h
  · exact absurd h throw_bind_ne_ok
  exact ⟨response, hResponse, mem_of_mapM_eq_ok h hc⟩

theorem parseKucoin_rows {body : KucoinBody} {found : List Candle}
    (h : parseKucoin body = .ok found) {c : Candle} (hc : c ∈ found) :
    ∃ row, parseKucoinRow row = .ok c := by
  unfold parseKucoin at h
  obtain ⟨header, -, h⟩ := bind_eq_ok.mp h
  dsimp only at h
  split at h
  · exact absurd h throw_bind_ne_ok
  obtain ⟨response, -, h⟩ := bind_eq_ok.mp h
  split at h
  · exact absurd h throw_bind_ne_ok
  obtain ⟨row, -, hRow⟩ := mem_of_mapM_eq_ok h hc
  exact ⟨row, hRow⟩

theorem parseMexc_rows {response : MexcHistoryEnvelope} {serverTimeMs : Nat}
    {found : List Candle} (h : parseMexc response serverTimeMs = .ok found) {c : Candle}
    (hc : c ∈ found) :
    ∃ hParallel index, parseMexcRow response.data hParallel serverTimeMs index = .ok c := by
  unfold parseMexc at h
  split at h
  · exact absurd h throw_bind_ne_ok
  obtain ⟨⟨hParallel⟩, -, h⟩ := bind_eq_ok.mp h
  obtain ⟨index, -, hRow⟩ := mem_of_mapM_eq_ok h hc
  exact ⟨hParallel, index, hRow⟩

theorem parseBingx_rows {response : BingxHistoryEnvelope} {serverTimeMs : Nat}
    {found : List Candle} (h : parseBingx response serverTimeMs = .ok found) {c : Candle}
    (hc : c ∈ found) : ∃ row, parseBingxRow row serverTimeMs = .ok c := by
  unfold parseBingx at h
  split at h
  · exact absurd h throw_bind_ne_ok
  obtain ⟨row, -, hRow⟩ := mem_of_mapM_eq_ok h hc
  exact ⟨row, hRow⟩

/-- Where the finality of a candle comes from: a clock the venue reported, the
confirm cell of its own row, or nowhere. -/
def Warranted (client : HistoryClient) (c : Candle) : Provider → Prop
  | .bybit => ∃ asked body response, client.bybit asked = .ok body ∧
      body.response = .ok response ∧
      (∃ row ∈ response.list, parseBybitRow row response.time = .ok c) ∧
      (c.finality = .closed → c.endTimeMs ≤ response.time)
  | .binance => ∃ time, client.binanceTime = .ok time ∧
      (c.finality = .closed → c.endTimeMs ≤ time.serverTime)
  | .okx => ∃ asked body response, client.okx asked = .ok body ∧
      body.response = .ok response ∧ ∃ row ∈ response.data, parseOkxRow row = .ok c ∧
      (c.finality = .closed → row[8]? = some "1".toList)
  | .kucoin => c.finality = .unknown ∧ c.baseVolume = none ∧ c.quoteVolume = none ∧
      c.contractVolume = none
  | .mexc => ∃ time, client.mexcTime = .ok time ∧
      (c.finality = .closed → c.endTimeMs ≤ time.data)
  | .bingx => ∃ time, client.bingxTime = .ok time ∧
      (c.finality = .closed → c.endTimeMs ≤ time.serverTime)

/-- What every candle a loop collects has, whatever the venue sent. -/
structure Collected (client : HistoryClient) (provider : Provider) (c : Candle) : Prop where
  aligned : candleIntervalMs ∣ c.startTimeMs
  sound : c.Sound
  warranted : Warranted client c provider

variable [Unicode] {client : HistoryClient} {request : HistoryRequest} {all : List Candle}

/-- All that Bybit's loop returns came on a page of Bybit. -/
theorem fetchBybit_collected (h : client.fetchBybit request = .ok all) :
    ∀ c ∈ all, Collected client .bybit c := by
  intro c hc
  rcases fetchBackwards_origin h c hc with hNone | ⟨asked, found, hPage, hFound⟩
  · exact absurd hNone List.not_mem_nil
  obtain ⟨body, hBody, hParse⟩ := bind_eq_ok.mp hPage
  obtain ⟨response, hResponse, row, hRow, hDecode⟩ := parseBybit_rows hParse hFound
  obtain ⟨fields, hBuilt, hClosed⟩ := parseBybitRow_built hDecode
  exact ⟨hBuilt.aligned, hBuilt.sound, asked, body, response, hBody, hResponse,
    ⟨row, hRow, hDecode⟩, hClosed⟩

theorem fetchBinance_collected (h : client.fetchBinance request = .ok all) :
    ∀ c ∈ all, Collected client .binance c := by
  unfold HistoryClient.fetchBinance at h
  obtain ⟨time, hTime, h⟩ := bind_eq_ok.mp h
  obtain ⟨serverTimeMs, hServer, h⟩ := bind_eq_ok.mp h
  -- the time that closes candles is the server's own
  have hSame : serverTimeMs = time.serverTime := by
    unfold parseBinanceServerTime at hServer
    split at hServer
    · exact absurd hServer nofun
    · exact (Except.ok.inj hServer).symm
  intro c hc
  rcases fetchForwards_origin h c hc with hNone | ⟨asked, found, hPage, hFound⟩
  · exact absurd hNone List.not_mem_nil
  obtain ⟨rows, -, hParse⟩ := bind_eq_ok.mp hPage
  obtain ⟨row, -, hDecode⟩ := mem_of_mapM_eq_ok hParse hFound
  obtain ⟨fields, hBuilt, hClosed⟩ := parseBinanceRow_built hDecode
  rw [hSame] at hClosed
  exact ⟨hBuilt.aligned, hBuilt.sound, time, hTime, hClosed⟩

theorem fetchOkx_collected (h : client.fetchOkx request = .ok all) :
    ∀ c ∈ all, Collected client .okx c := by
  intro c hc
  rcases fetchBackwards_origin h c hc with hNone | ⟨asked, found, hPage, hFound⟩
  · exact absurd hNone List.not_mem_nil
  obtain ⟨body, hBody, hParse⟩ := bind_eq_ok.mp hPage
  obtain ⟨response, hResponse, row, hRow, hDecode⟩ := parseOkx_rows hParse hFound
  obtain ⟨fields, hBuilt, hClosed⟩ := parseOkxRow_built hDecode
  exact ⟨hBuilt.aligned, hBuilt.sound, asked, body, response, hBody, hResponse, row, hRow,
    hDecode, hClosed⟩

theorem fetchKucoin_collected (h : client.fetchKucoin request = .ok all) :
    ∀ c ∈ all, Collected client .kucoin c := by
  intro c hc
  rcases fetchWindows_origin h c hc with hNone | ⟨asked, found, hPage, hFound⟩
  · exact absurd hNone List.not_mem_nil
  obtain ⟨body, -, hParse⟩ := bind_eq_ok.mp hPage
  obtain ⟨row, hDecode⟩ := parseKucoin_rows hParse hFound
  obtain ⟨fields, hBuilt, hUnknown⟩ := parseKucoinRow_built hDecode
  exact ⟨hBuilt.aligned, hBuilt.sound, hUnknown⟩

theorem fetchMexc_collected (h : client.fetchMexc request = .ok all) :
    ∀ c ∈ all, Collected client .mexc c := by
  unfold HistoryClient.fetchMexc at h
  obtain ⟨time, hTime, h⟩ := bind_eq_ok.mp h
  obtain ⟨serverTimeMs, hServer, h⟩ := bind_eq_ok.mp h
  -- the time that closes candles is the server's own
  have hSame : serverTimeMs = time.data := by
    unfold parseMexcServerTime at hServer
    split at hServer
    · exact absurd hServer nofun
    split at hServer
    · exact absurd hServer nofun
    · exact (Except.ok.inj hServer).symm
  intro c hc
  rcases fetchWindows_origin h c hc with hNone | ⟨asked, found, hPage, hFound⟩
  · exact absurd hNone List.not_mem_nil
  obtain ⟨response, -, hParse⟩ := bind_eq_ok.mp hPage
  obtain ⟨hParallel, index, hDecode⟩ := parseMexc_rows hParse hFound
  obtain ⟨fields, hBuilt, hClosed⟩ := parseMexcRow_built hDecode
  rw [hSame] at hClosed
  exact ⟨hBuilt.aligned, hBuilt.sound, time, hTime, hClosed⟩

theorem fetchBingx_collected (h : client.fetchBingx request = .ok all) :
    ∀ c ∈ all, Collected client .bingx c := by
  unfold HistoryClient.fetchBingx at h
  obtain ⟨time, hTime, h⟩ := bind_eq_ok.mp h
  obtain ⟨serverTimeMs, hServer, h⟩ := bind_eq_ok.mp h
  -- the time that closes candles is the server's own
  have hSame : serverTimeMs = time.serverTime := by
    unfold parseBingxServerTime at hServer
    split at hServer
    · exact absurd hServer nofun
    split at hServer
    · exact absurd hServer nofun
    · exact (Except.ok.inj hServer).symm
  intro c hc
  rcases fetchWindows_origin h c hc with hNone | ⟨asked, found, hPage, hFound⟩
  · exact absurd hNone List.not_mem_nil
  obtain ⟨response, -, hParse⟩ := bind_eq_ok.mp hPage
  obtain ⟨row, hDecode⟩ := parseBingx_rows hParse hFound
  obtain ⟨fields, hBuilt, hClosed⟩ := parseBingxRow_built hDecode
  rw [hSame] at hClosed
  exact ⟨hBuilt.aligned, hBuilt.sound, time, hTime, hClosed⟩

end Pages

-- ---------------------------------------------------------------------------
-- The result
-- ---------------------------------------------------------------------------

/-- Starts that ascend by minutes within a range are not more than its minutes. -/
theorem length_le_minutes {candles : List Candle} {lower upper : Nat}
    (hStrict : candles.Pairwise fun a b => a.startTimeMs < b.startTimeMs)
    (hAligned : ∀ c ∈ candles, candleIntervalMs ∣ c.startTimeMs)
    (hLower : candleIntervalMs ∣ lower) (hUpper : candleIntervalMs ∣ upper)
    (hRange : ∀ c ∈ candles, lower ≤ c.startTimeMs ∧ c.startTimeMs < upper) :
    candles.length ≤ (upper - lower) / candleIntervalMs := by
  have hDistinct : (candles.map Candle.startTimeMs).Nodup := by
    rw [List.Nodup, List.pairwise_map]
    exact hStrict.imp fun hLt => hLt.ne
  have hAll : window candles lower upper = candles :=
    List.filter_eq_self.mpr fun c hc => decide_eq_true (hRange c hc)
  have hLength := window_length_le hDistinct hAligned hLower hUpper
  rwa [hAll] at hLength

section Result

variable [RustDecimal] [Unicode]

/-- What `finish_result` makes of whatever was collected. -/
theorem finishResult_sound {unstable : UnstableSort} {request : HistoryRequest}
    {all : List Candle} {result : HistoryResult}
    (hAligned : ∀ c ∈ all, candleIntervalMs ∣ c.startTimeMs) (hSound : ∀ c ∈ all, c.Sound)
    (h : finishResult unstable request all = .ok result) :
    ∃ candles : List Candle,
      result = ⟨request.provider, .linearPerpetual, request.symbol, request.startTimeMs,
        request.endTimeMs, candles.map fun candle =>
          ⟨request.provider, .linearPerpetual, request.symbol, candle⟩⟩ ∧
      (candles.Pairwise fun a b => a.startTimeMs < b.startTimeMs) ∧
      candles.length ≤ min request.limit
        ((request.endTimeMs - request.startTimeMs) / candleIntervalMs) ∧
      ∀ c ∈ candles, c ∈ all ∧ request.startTimeMs ≤ c.startTimeMs ∧
        c.endTimeMs ≤ request.endTimeMs := by
  rcases finishResult_cases unstable request all with ⟨unique, hOk, hUnique⟩ | ⟨start, hErr, -⟩
  swap
  · rw [hErr] at h
    cases h
  obtain rfl := Except.ok.inj (h.symm.trans hOk)
  have hStrict := hUnique.strict
  have hFrom : ∀ c ∈ unique, c ∈ all ∧ request.startTimeMs ≤ c.startTimeMs ∧
      c.endTimeMs ≤ request.endTimeMs := by
    intro c hc
    have hRetained := (hUnique.mem c).mp hc
    rw [retained, List.mem_filter, Bool.and_eq_true, decide_eq_true_eq, decide_eq_true_eq]
      at hRetained
    exact hRetained
  have hTake : unique.take request.limit ⊆ unique := List.take_subset _ _
  refine ⟨unique.take request.limit, rfl, hStrict.sublist (List.take_sublist _ _), ?_,
    fun c hc => hFrom c (hTake hc)⟩
  -- aligned candles of different starts are no more than the minutes of the range
  have hMinutes : unique.length ≤
      (request.endTimeMs - request.startTimeMs) / candleIntervalMs := by
    refine length_le_minutes hStrict (fun c hc => hAligned c (hFrom c hc).1)
      request.start_aligned request.end_aligned fun c hc => ?_
    obtain ⟨hMem, hLower, hUpper⟩ := hFrom c hc
    have hEnd := (hSound c hMem).minute
    refine ⟨hLower, ?_⟩
    simp only [candleIntervalMs] at hEnd
    omega
  rw [List.length_take]
  omega

/-- Two venues that answer the first `n` queries alike. -/
structure SameAnswers (n : Nat) (client client' : HistoryClient) : Prop where
  bybit : ∀ asked, asked.length ≤ n → client'.bybit asked = client.bybit asked
  binanceTime : client'.binanceTime = client.binanceTime
  binance : ∀ asked, asked.length ≤ n → client'.binance asked = client.binance asked
  okx : ∀ asked, asked.length ≤ n → client'.okx asked = client.okx asked
  kucoin : ∀ asked, asked.length ≤ n → client'.kucoin asked = client.kucoin asked
  mexcTime : client'.mexcTime = client.mexcTime
  mexc : ∀ asked, asked.length ≤ n → client'.mexc asked = client.mexc asked
  bingxTime : client'.bingxTime = client.bingxTime
  bingx : ∀ asked, asked.length ≤ n → client'.bingx asked = client.bingx asked

/-- The loops end within their page budget: what a venue would answer beyond it
is never asked for. -/
theorem fetch_congr {client client' : HistoryClient}
    (h : SameAnswers maxUpstreamPages client client') (unstable : UnstableSort)
    (request : HistoryRequest) :
    client'.fetch unstable request = client.fetch unstable request := by
  -- the loops start with nothing asked
  have hBudget : ∀ {Query : Type} {asked : List Query}, asked.length ≤
      ([] : List Query).length + maxUpstreamPages → asked.length ≤ maxUpstreamPages := by
    intro Query asked hLength
    rwa [List.length_nil, Nat.zero_add] at hLength
  unfold HistoryClient.fetch
  cases request.provider with
  | bybit =>
    have hSame : client'.fetchBybit request = client.fetchBybit request :=
      fetchBackwards_congr fun asked hLength => by rw [h.bybit asked (hBudget hLength)]
    simp only [hSame]
  | binance =>
    have hSame : client'.fetchBinance request = client.fetchBinance request := by
      unfold HistoryClient.fetchBinance
      rw [h.binanceTime]
      refine bind_congr fun time => bind_congr fun serverTimeMs => ?_
      exact fetchForwards_congr fun asked hLength => by rw [h.binance asked (hBudget hLength)]
    simp only [hSame]
  | okx =>
    have hSame : client'.fetchOkx request = client.fetchOkx request :=
      fetchBackwards_congr fun asked hLength => by rw [h.okx asked (hBudget hLength)]
    simp only [hSame]
  | kucoin =>
    have hSame : client'.fetchKucoin request = client.fetchKucoin request :=
      fetchWindows_congr fun asked hLength => by rw [h.kucoin asked (hBudget hLength)]
    simp only [hSame]
  | mexc =>
    have hSame : client'.fetchMexc request = client.fetchMexc request := by
      unfold HistoryClient.fetchMexc
      rw [h.mexcTime]
      refine bind_congr fun time => bind_congr fun serverTimeMs => ?_
      exact fetchWindows_congr fun asked hLength => by rw [h.mexc asked (hBudget hLength)]
    simp only [hSame]
  | bingx =>
    have hSame : client'.fetchBingx request = client.fetchBingx request := by
      unfold HistoryClient.fetchBingx
      rw [h.bingxTime]
      refine bind_congr fun time => bind_congr fun serverTimeMs => ?_
      exact fetchWindows_congr fun asked hLength => by rw [h.bingx asked (hBudget hLength)]
    simp only [hSame]

/-- A result is finished from candles that came on pages of the request's provider. -/
theorem fetch_collected {client : HistoryClient} {unstable : UnstableSort}
    {request : HistoryRequest} {result : HistoryResult}
    (h : client.fetch unstable request = .ok result) :
    ∃ all, finishResult unstable request all = .ok result ∧
      ∀ c ∈ all, Collected client request.provider c := by
  unfold HistoryClient.fetch at h
  dsimp only at h
  split at h
  · next hProvider =>
    obtain ⟨all, hAll, hFinish⟩ := bind_eq_ok.mp h
    rw [hProvider]
    exact ⟨all, hFinish, fetchBybit_collected hAll⟩
  · next hProvider =>
    obtain ⟨all, hAll, hFinish⟩ := bind_eq_ok.mp h
    rw [hProvider]
    exact ⟨all, hFinish, fetchBinance_collected hAll⟩
  · next hProvider =>
    obtain ⟨all, hAll, hFinish⟩ := bind_eq_ok.mp h
    rw [hProvider]
    exact ⟨all, hFinish, fetchOkx_collected hAll⟩
  · next hProvider =>
    obtain ⟨all, hAll, hFinish⟩ := bind_eq_ok.mp h
    rw [hProvider]
    exact ⟨all, hFinish, fetchKucoin_collected hAll⟩
  · next hProvider =>
    obtain ⟨all, hAll, hFinish⟩ := bind_eq_ok.mp h
    rw [hProvider]
    exact ⟨all, hFinish, fetchMexc_collected hAll⟩
  · next hProvider =>
    obtain ⟨all, hAll, hFinish⟩ := bind_eq_ok.mp h
    rw [hProvider]
    exact ⟨all, hFinish, fetchBingx_collected hAll⟩

/-- **History against any venue.** Whatever the bodies hold, a fetch asks at
most 40 pages, and every result it returns has strictly ascending, aligned
one-minute candles within the request, at most as many as the limit and the
minutes of the range, with consistent positive prices and no negative volume,
under the request's provider and symbol; a candle is marked closed only on the
word of the venue. -/
theorem fetch_sound (client : HistoryClient) (unstable : UnstableSort)
    (request : HistoryRequest) :
    (∀ client', SameAnswers maxUpstreamPages client client' →
      client'.fetch unstable request = client.fetch unstable request) ∧
    ∀ result, client.fetch unstable request = .ok result →
      result.provider = request.provider ∧ result.symbol = request.symbol ∧
      ((result.candles.map fun c => c.candle.startTimeMs).Pairwise (· < ·)) ∧
      result.candles.length ≤ min request.limit
        ((request.endTimeMs - request.startTimeMs) / candleIntervalMs) ∧
      ∀ c ∈ result.candles, c.provider = request.provider ∧ c.symbol = request.symbol ∧
        candleIntervalMs ∣ c.candle.startTimeMs ∧
        request.startTimeMs ≤ c.candle.startTimeMs ∧
        c.candle.endTimeMs = c.candle.startTimeMs + candleIntervalMs ∧
        c.candle.endTimeMs ≤ request.endTimeMs ∧
        (∃ openPrice high low close,
          MarketStreamGateway.decimal c.candle.openPrice = .ok openPrice ∧
          MarketStreamGateway.decimal c.candle.high = .ok high ∧
          MarketStreamGateway.decimal c.candle.low = .ok low ∧
          MarketStreamGateway.decimal c.candle.close = .ok close ∧
          PricesSound openPrice high low close) ∧
        (∀ volume ∈ [c.candle.baseVolume, c.candle.quoteVolume, c.candle.contractVolume],
          VolumeSound volume) ∧
        Warranted client c.candle request.provider := by
  refine ⟨fun client' hSame => fetch_congr hSame unstable request, fun result hResult => ?_⟩
  obtain ⟨all, hFinish, hAll⟩ := fetch_collected hResult
  -- sorted, within the range, and each a candle that was collected
  obtain ⟨candles, rfl, hStrict, hLength, hMem⟩ :=
    finishResult_sound (fun c hc => (hAll c hc).aligned) (fun c hc => (hAll c hc).sound) hFinish
  refine ⟨rfl, rfl, ?_, ?_, fun c hc => ?_⟩
  · rw [List.map_map, List.pairwise_map]
    exact hStrict
  · rw [List.length_map]
    exact hLength
  · obtain ⟨candle, hCandle, rfl⟩ := List.mem_map.mp hc
    obtain ⟨hCollected, hLower, hUpper⟩ := hMem candle hCandle
    obtain ⟨hAligned, hSound, hWarranted⟩ := hAll candle hCollected
    exact ⟨rfl, rfl, hAligned, hLower, hSound.minute, hUpper, hSound.prices, hSound.volumes,
      hWarranted⟩

end Result

end History

end MarketStreamGateway
