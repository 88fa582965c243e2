import Mathlib.Order.Interval.Finset.Nat
import MarketStreamGateway.History
import MarketStreamGateway.Lib.Paging
import MarketStreamGateway.Lib.Result

/-!
# Market Stream Gateway — pagination of candle history

The loops that follow a cursor, against a venue that answers faithfully from a
set of candles with distinct starts. A page leaves behind what lies beyond its
last start (`firstOf_split`), so the candles collected and those before the
cursor always make up the range. The range holds at most as many candles as it
has minutes, which the page limit divides into fewer pages than the cap.

Main results:
* `fetchBackwards_spec`, `fetchForwards_spec` — the loops collect the range.
* `finishResult_spec` — what is collected is returned in order, up to the limit.
* `fetch_paginates` — Bybit, Binance and OKX history is exactly the earliest
  candles of the range.
-/

namespace MarketStreamGateway.History

open Lib

/-! ## Venues -/

/-- The first `n` candles from the newest on. -/
abbrev newestOf (n : Nat) (candles : List Candle) : List Candle :=
  firstOf (fun c => OrderDual.toDual c.startTimeMs) n candles

/-- The first `n` candles from the oldest on. -/
abbrev oldestOf (n : Nat) (candles : List Candle) : List Candle :=
  firstOf Candle.startTimeMs n candles

/-- The candles that start in `[lower, upper)`. -/
def window (held : List Candle) (lower upper : Nat) : List Candle :=
  held.filter fun c => lower ≤ c.startTimeMs ∧ c.startTimeMs < upper

section Venues

variable [RustDecimal]

/-- Bybit answers from `held`: the newest at most 1000 candles with a start in
`[start, end]`, in any order. -/
def BybitFaithful (client : HistoryClient) (symbol : Text) (held : List Candle) : Prop :=
  ∀ query asked, query.category = "linear".toList → query.symbol = symbol →
    query.interval = "1".toList →
    ∃ body message rows time, ∃ page : List Candle, client.bybit (query :: asked) = .ok body ∧
      body.header = .ok ⟨0, message⟩ ∧
      body.response = .ok ⟨0, "linear".toList, symbol, rows, time⟩ ∧
      (rows.map fun row => parseBybitRow row time) = page.map .ok ∧
      page.Perm (newestOf (min query.limit 1000)
        (held.filter fun c => query.start ≤ c.startTimeMs ∧ c.startTimeMs ≤ query.stop))

/-- OKX answers from `held`: the newest at most 300 candles with a start between
`before` and `after`, both exclusive. -/
def OkxFaithful (client : HistoryClient) (symbol : Text) (held : List Candle) : Prop :=
  ∀ query asked, query.instId = symbol → query.bar = "1m".toList →
    ∃ body message rows, ∃ page : List Candle, client.okx (query :: asked) = .ok body ∧
      body.header = .ok ⟨"0".toList, message⟩ ∧ body.response = .ok ⟨"0".toList, rows⟩ ∧
      rows.map parseOkxRow = page.map .ok ∧
      page.Perm (newestOf (min query.limit 300)
        (held.filter fun c => query.before < c.startTimeMs ∧ c.startTimeMs < query.after))

/-- Binance answers from `held`: the oldest at most 1500 candles with a start in
`[startTime, endTime]`, and a positive server time. -/
def BinanceFaithful (client : HistoryClient) (symbol : Text) (held : List Candle) : Prop :=
  ∃ serverTime, client.binanceTime = .ok ⟨serverTime⟩ ∧ serverTime ≠ 0 ∧
    ∀ query asked, query.symbol = symbol → query.interval = "1m".toList →
      ∃ rows, ∃ page : List Candle, client.binance (query :: asked) = .ok rows ∧
        (rows.map fun row => parseBinanceRow row serverTime) = page.map .ok ∧
        page.Perm (oldestOf (min query.limit 1500)
          (held.filter fun c => query.startTime ≤ c.startTimeMs ∧ c.startTimeMs ≤ query.endTime))

end Venues

/-! ## The loops -/

section Loops

variable {Query : Type} {held : List Candle}

/-- A window of distinct candles has distinct candles. -/
theorem window_nodup (hDistinct : (held.map Candle.startTimeMs).Nodup) (lower upper : Nat) :
    ((window held lower upper).map Candle.startTimeMs).Nodup :=
  hDistinct.sublist (List.filter_sublist.map _)

/-- The candles of a window are the held ones that start in it. -/
theorem mem_window {lower upper : Nat} {c : Candle} :
    c ∈ window held lower upper ↔ c ∈ held ∧ lower ≤ c.startTimeMs ∧ c.startTimeMs < upper := by
  simp [window]

/-- **Newest first.** If every page holds the newest candles before the cursor,
the loop ends with everything before the cursor, as long as the pages left can
hold more than that. -/
theorem fetchBackwards_spec (hDistinct : (held.map Candle.startTimeMs).Nodup)
    {provider : Provider} {pageLimit startTimeMs : Nat} (hLimit : 0 < pageLimit)
    {query : Nat → Except HistoryError Query}
    {page : List Query → Except HistoryError (List Candle)}
    (hPage : ∀ cursor asked, cursor ≠ 0 → ∃ q found, query cursor = .ok q ∧
      page (q :: asked) = .ok found ∧
      found.Perm (newestOf pageLimit (window held startTimeMs cursor)))
    {pages : Nat} {asked : List Query} {cursor : Nat} {candles : List Candle} (hCursor : cursor ≠ 0)
    (hRoom : (window held startTimeMs cursor).length < pages * pageLimit) :
    ∃ all, fetchBackwards provider pageLimit startTimeMs query page pages asked cursor candles =
        .ok all ∧ all.Perm (candles ++ window held startTimeMs cursor) := by
  induction pages generalizing asked cursor candles with
  | zero => simp at hRoom
  | succ pages ih =>
    obtain ⟨q, found, hQuery, hFound, hPerm⟩ := hPage cursor asked hCursor
    have hNodup : ((window held startTimeMs cursor).map
        fun c => OrderDual.toDual c.startTimeMs).Nodup := window_nodup hDistinct startTimeMs cursor
    have hLength := page_length hPerm
    have hSubset := page_subset hPerm
    simp only [fetchBackwards, hQuery, hFound, ok_bind]
    cases hMin : (found.map Candle.startTimeMs).min? with
    | none =>
      rw [List.min?_eq_none_iff, List.map_eq_nil_iff] at hMin
      rw [hMin, List.length_nil] at hLength
      -- an empty page means that nothing is left in the window
      have hNone : window held startTimeMs cursor = [] := List.length_eq_zero_iff.mp (by omega)
      exact ⟨candles, rfl, by rw [hNone, List.append_nil]⟩
    | some oldest =>
      obtain ⟨hMem, hLeast⟩ := List.min?_eq_some_iff.mp hMin
      obtain ⟨first, hFirst, rfl⟩ := List.mem_map.mp hMem
      obtain ⟨-, hLower, hUpper⟩ := mem_window.mp (hSubset hFirst)
      have hRest : ((window held startTimeMs cursor).filter fun c =>
          OrderDual.toDual first.startTimeMs < OrderDual.toDual c.startTimeMs) =
            window held startTimeMs first.startTimeMs := by
        rw [window, window, List.filter_filter]
        refine List.filter_congr fun c _ => ?_
        simp only [OrderDual.toDual_lt_toDual]
        rw [Bool.eq_iff_iff]
        simp only [Bool.and_eq_true, decide_eq_true_eq]
        omega
      -- the window is this page and what starts before its oldest candle
      have hSplit := firstOf_split hPerm hNodup ⟨first, hFirst, rfl⟩ fun c hc =>
        OrderDual.toDual_le_toDual.mpr (hLeast _ (List.mem_map_of_mem hc))
      rw [hRest] at hSplit
      simp only [ge_iff_le, not_le.mpr hUpper, if_false]
      split
      · next hStop =>
        refine ⟨candles ++ found, rfl, List.Perm.append_left candles ?_⟩
        rcases hStop with hLow | hShort
        · -- nothing starts before the lower bound
          have hNone : window held startTimeMs first.startTimeMs = [] := by
            refine List.filter_eq_nil_iff.mpr fun c _ => ?_
            simp only [decide_eq_true_eq]
            omega
          rw [hNone, List.append_nil] at hSplit
          exact hSplit.symm
        · exact page_perm_of_short hPerm hShort
      · next hMore =>
        rw [not_or, not_le, not_lt] at hMore
        -- the page was full, so the pages that are left have room for the rest
        have hCount := hSplit.length_eq
        rw [List.length_append] at hCount
        obtain ⟨all, hAll, hAllPerm⟩ := @ih (q :: asked) first.startTimeMs
          (candles ++ found) (by omega) (by rw [Nat.succ_mul] at hRoom; omega)
        refine ⟨all, hAll, hAllPerm.trans ?_⟩
        rw [List.append_assoc]
        exact List.Perm.append_left candles hSplit.symm

/-- Two minute boundaries are a minute apart. -/
theorem next_minute {m n : Nat} (hm : candleIntervalMs ∣ m) (hn : candleIntervalMs ∣ n) :
    m < n ↔ m + candleIntervalMs ≤ n := by
  simp only [candleIntervalMs] at *
  omega

/-- A minute is added to any time that leaves room for it. -/
theorem addInterval_eq_ok {provider : Provider} {timeMs : Nat} {message : Text}
    (h : timeMs + candleIntervalMs ≤ u64Max) :
    addInterval provider timeMs message = .ok (timeMs + candleIntervalMs) := if_pos h

/-- **Oldest first.** The same from the other end: the cursor moves to the
minute after the newest candle of a page. -/
theorem fetchForwards_spec (hDistinct : (held.map Candle.startTimeMs).Nodup)
    (hAligned : ∀ c ∈ held, candleIntervalMs ∣ c.startTimeMs)
    {provider : Provider} {pageLimit endTimeMs : Nat} (hLimit : 0 < pageLimit)
    {query : Nat → Except HistoryError Query}
    {page : List Query → Except HistoryError (List Candle)}
    (hPage : ∀ cursor asked, ∃ q found, query cursor = .ok q ∧ page (q :: asked) = .ok found ∧
      found.Perm (oldestOf pageLimit (window held cursor endTimeMs)) ∧
      ∀ c ∈ found, c.startTimeMs + candleIntervalMs ≤ u64Max)
    {pages : Nat} {asked : List Query} {cursor : Nat} {candles : List Candle}
    (hRoom : (window held cursor endTimeMs).length < pages * pageLimit) :
    ∃ all, fetchForwards provider pageLimit endTimeMs query page pages asked cursor candles =
        .ok all ∧ all.Perm (candles ++ window held cursor endTimeMs) := by
  induction pages generalizing asked cursor candles with
  | zero => simp at hRoom
  | succ pages ih =>
    obtain ⟨q, found, hQuery, hFound, hPerm, hFits⟩ := hPage cursor asked
    have hNodup := window_nodup hDistinct cursor endTimeMs
    have hLength := page_length hPerm
    have hSubset := page_subset hPerm
    have hEmpty : ∀ lower, endTimeMs ≤ lower → window held lower endTimeMs = [] := by
      intro lower hLower
      refine List.filter_eq_nil_iff.mpr fun c _ => ?_
      simp only [decide_eq_true_eq]
      omega
    rw [fetchForwards]
    split
    · simp only [hQuery, hFound, ok_bind]
      cases hMax : (found.map Candle.startTimeMs).max? with
      | none =>
        rw [List.max?_eq_none_iff, List.map_eq_nil_iff] at hMax
        rw [hMax, List.length_nil] at hLength
        have hNone : window held cursor endTimeMs = [] := List.length_eq_zero_iff.mp (by omega)
        exact ⟨candles, rfl, by rw [hNone, List.append_nil]⟩
      | some newest =>
        obtain ⟨hMem, hMost⟩ := List.max?_eq_some_iff.mp hMax
        obtain ⟨last, hLast, rfl⟩ := List.mem_map.mp hMem
        obtain ⟨hHeld, hLower, -⟩ := mem_window.mp (hSubset hLast)
        -- starts are a minute apart
        have hNext : ∀ c ∈ held, last.startTimeMs < c.startTimeMs ↔
            last.startTimeMs + candleIntervalMs ≤ c.startTimeMs :=
          fun c hc => next_minute (hAligned last hHeld) (hAligned c hc)
        have hRest : ((window held cursor endTimeMs).filter fun c =>
            last.startTimeMs < c.startTimeMs) =
              window held (last.startTimeMs + candleIntervalMs) endTimeMs := by
          rw [window, window, List.filter_filter]
          refine List.filter_congr fun c hc => ?_
          rw [Bool.eq_iff_iff]
          simp only [Bool.and_eq_true, decide_eq_true_eq, hNext c hc]
          omega
        have hSplit := firstOf_split hPerm hNodup ⟨last, hLast, rfl⟩ fun c hc =>
          hMost _ (List.mem_map_of_mem hc)
        rw [hRest] at hSplit
        have hMoves : ¬ last.startTimeMs + candleIntervalMs ≤ cursor :=
          not_le.mpr (hLower.trans_lt (Nat.lt_add_of_pos_right (by decide)))
        simp only [addInterval_eq_ok (hFits last hLast), ok_bind, if_neg hMoves]
        split
        · next hStop =>
          refine ⟨candles ++ found, rfl, List.Perm.append_left candles ?_⟩
          rcases hStop with hHigh | hShort
          · rw [hEmpty _ hHigh, List.append_nil] at hSplit
            exact hSplit.symm
          · exact page_perm_of_short hPerm hShort
        · next hMore =>
          rw [not_or, not_lt] at hMore
          have hCount := hSplit.length_eq
          rw [List.length_append] at hCount
          obtain ⟨all, hAll, hAllPerm⟩ := @ih (q :: asked) (last.startTimeMs + candleIntervalMs)
            (candles ++ found) (by rw [Nat.succ_mul] at hRoom; omega)
          refine ⟨all, hAll, hAllPerm.trans ?_⟩
          rw [List.append_assoc]
          exact List.Perm.append_left candles hSplit.symm
    · next hDone =>
      exact ⟨candles, rfl, by rw [hEmpty cursor (not_lt.mp hDone), List.append_nil]⟩

/-- A range holds at most one candle a minute. -/
theorem window_length_le (hDistinct : (held.map Candle.startTimeMs).Nodup)
    (hAligned : ∀ c ∈ held, candleIntervalMs ∣ c.startTimeMs) {lower upper : Nat}
    (hLower : candleIntervalMs ∣ lower) (hUpper : candleIntervalMs ∣ upper) :
    (window held lower upper).length ≤ (upper - lower) / candleIntervalMs := by
  -- distinct aligned starts are distinct minutes
  have hMinutes : ((window held lower upper).map
      fun c => c.startTimeMs / candleIntervalMs).Nodup := by
    have hNodup : (window held lower upper).Nodup :=
      List.Nodup.of_map _ (window_nodup hDistinct lower upper)
    rw [List.nodup_map_iff_inj_on hNodup]
    intro c hc d hd hEq
    have hcHeld := (mem_window.mp hc).1
    have hdHeld := (mem_window.mp hd).1
    refine List.inj_on_of_nodup_map hDistinct hcHeld hdHeld ?_
    rw [← Nat.div_mul_cancel (hAligned c hcHeld), hEq, Nat.div_mul_cancel (hAligned d hdHeld)]
  -- and the minutes of the window are those of its bounds
  have hSubset : ((window held lower upper).map
      fun c => c.startTimeMs / candleIntervalMs).toFinset ⊆
        Finset.Ico (lower / candleIntervalMs) (upper / candleIntervalMs) := by
    intro minute hMinute
    rw [List.mem_toFinset, List.mem_map] at hMinute
    obtain ⟨c, hc, rfl⟩ := hMinute
    obtain ⟨hHeld, hLo, hHi⟩ := mem_window.mp hc
    have hMultiple := hAligned c hHeld
    simp only [candleIntervalMs, Finset.mem_Ico] at *
    omega
  have hCard := Finset.card_le_card hSubset
  rw [List.toFinset_card_of_nodup hMinutes, List.length_map, Nat.card_Ico] at hCard
  simp only [candleIntervalMs] at *
  omega

end Loops

/-! ## The result -/

/-- Candles in strictly ascending order hold no duplicates, so all of them are kept. -/
theorem dropDuplicates_eq (provider : Provider) {unique rest : List Candle}
    (hStrict : (unique ++ rest).Pairwise fun a b => a.startTimeMs < b.startTimeMs) :
    dropDuplicates provider unique rest = .ok (unique ++ rest) := by
  induction rest generalizing unique with
  | nil => rw [dropDuplicates, List.append_nil]
  | cons candle rest ih =>
    have hNext := @ih (unique ++ [candle]) (by simpa using hStrict)
    rw [List.append_assoc, List.singleton_append] at hNext
    rw [dropDuplicates]
    split
    · next previous hPrevious =>
      have hLess : previous.startTimeMs < candle.startTimeMs :=
        (List.pairwise_append.mp hStrict).2.2 previous (List.mem_of_getLast? hPrevious) candle
          List.mem_cons_self
      rw [if_neg (Nat.ne_of_lt hLess)]
      exact hNext
    · exact hNext

section Result

variable [Unicode]

/-- The earliest candles of the range, up to the limit, as a result. -/
def earliest (request : HistoryRequest) (held : List Candle) : HistoryResult :=
  ⟨request.provider, .linearPerpetual, request.symbol, request.startTimeMs, request.endTimeMs,
    ((arrange Candle.startTimeMs (window held request.startTimeMs request.endTimeMs)).take
      request.limit).map fun candle =>
        ⟨request.provider, .linearPerpetual, request.symbol, candle⟩⟩

/-- If the candles collected are those of the range, the result is the earliest
of them. -/
theorem finishResult_spec (unstable : UnstableSort) (request : HistoryRequest) {held : List Candle}
    (hDistinct : (held.map Candle.startTimeMs).Nodup)
    (hAligned : ∀ c ∈ held, candleIntervalMs ∣ c.startTimeMs)
    (hMinute : ∀ c ∈ held, c.endTimeMs = c.startTimeMs + candleIntervalMs) {all : List Candle}
    (hAll : all.Perm (window held request.startTimeMs request.endTimeMs)) :
    finishResult unstable request all = .ok (earliest request held) := by
  -- nothing was collected that lies outside the range
  have hKept : (all.filter fun candle => request.startTimeMs ≤ candle.startTimeMs &&
      candle.endTimeMs ≤ request.endTimeMs) = all := by
    refine List.filter_eq_self.mpr fun c hc => ?_
    obtain ⟨hHeld, hLower, hUpper⟩ := mem_window.mp (hAll.subset hc)
    have h₁ := hAligned c hHeld
    have h₂ := request.end_aligned
    rw [hMinute c hHeld, Bool.and_eq_true, decide_eq_true_eq, decide_eq_true_eq]
    simp only [candleIntervalMs] at *
    omega
  have hNodup := window_nodup hDistinct request.startTimeMs request.endTimeMs
  have hSort : unstable.sort all =
      arrange Candle.startTimeMs (window held request.startTimeMs request.endTimeMs) :=
    eq_arrange_of_perm hNodup ((unstable.perm all).trans hAll) (unstable.sorted all)
  -- no two candles have one start, so none is dropped
  have hUnique : dropDuplicates request.provider []
      (arrange Candle.startTimeMs (window held request.startTimeMs request.endTimeMs)) =
        .ok (arrange Candle.startTimeMs (window held request.startTimeMs request.endTimeMs)) :=
    dropDuplicates_eq request.provider (arrange_strict hNodup)
  simp only [finishResult, hKept, hSort, hUnique, ok_bind, pure, Except.pure, earliest]

end Result

/-! ## The venues -/

section Fetch

variable [RustDecimal]

/-- A candle that was built covers a minute that ends within 64 bits. -/
theorem buildCandle_fits {provider : Provider} {fields : CandleFields} {c : Candle}
    (h : buildCandle provider fields = .ok c) : c.startTimeMs + candleIntervalMs ≤ u64Max := by
  unfold buildCandle at h
  split at h
  · exact absurd h throw_bind_ne_ok
  · obtain ⟨endTimeMs, hEnd, h⟩ := bind_eq_ok.mp h
    -- four prices and three volumes
    iterate 7 obtain ⟨_, -, h⟩ := bind_eq_ok.mp h
    have hFits : fields.startTimeMs + candleIntervalMs ≤ u64Max := by
      rw [addInterval] at hEnd
      split at hEnd
      · assumption
      · simp at hEnd
    dsimp only at h
    split at h
    · obtain rfl := Except.ok.inj h
      exact hFits
    · simp at h

/-- A row that Binance's decoder accepts ends at a representable time. -/
theorem parseBinanceRow_fits {row : List RawValue} {serverTimeMs : Nat} {c : Candle}
    (h : parseBinanceRow row serverTimeMs = .ok c) :
    c.startTimeMs + candleIntervalMs ≤ u64Max := by
  unfold parseBinanceRow at h
  -- eleven checks and reads before the candle is built
  iterate 11 obtain ⟨_, -, h⟩ := bind_eq_ok.mp h
  exact buildCandle_fits h

/-- A candle that validates is one minute long. -/
theorem validate_minute {c : Candle} (h : c.validate = .ok ()) :
    c.endTimeMs = c.startTimeMs + candleIntervalMs := by
  unfold Candle.validate at h
  split at h
  · exact absurd h throw_bind_ne_ok
  · next hMinute =>
    rw [not_or, not_or, not_lt, not_not] at hMinute
    simp only [candleIntervalMs]
    omega

variable [Unicode] {client : HistoryClient} {held : List Candle} (request : HistoryRequest)
  (hDistinct : (held.map Candle.startTimeMs).Nodup)
  (hAligned : ∀ c ∈ held, candleIntervalMs ∣ c.startTimeMs)

include hDistinct hAligned

omit [RustDecimal] in
/-- The range has less than 40 pages of any of the three page limits. -/
theorem range_room {pageLimit : Nat} (hLimit : okxPageLimit ≤ pageLimit) :
    (window held request.startTimeMs request.endTimeMs).length < maxUpstreamPages * pageLimit := by
  have hLength := window_length_le hDistinct hAligned request.start_aligned request.end_aligned
  have hRange := request.range_le
  have hMinutes : (request.endTimeMs - request.startTimeMs) / candleIntervalMs ≤
      maxHistoryRangeMs / candleIntervalMs := Nat.div_le_div_right hRange
  simp only [maxHistoryRangeMs, candleIntervalMs, okxPageLimit, maxUpstreamPages] at *
  omega

/-- Bybit's loop collects the window, in whatever order. -/
theorem fetchBybit_collects (hFaithful : BybitFaithful client request.symbol held) :
    ∃ all, client.fetchBybit request = .ok all ∧
      all.Perm (window held request.startTimeMs request.endTimeMs) := by
  refine fetchBackwards_spec hDistinct (by decide) ?_ (Nat.ne_zero_of_lt request.start_lt_end)
    (range_room request hDistinct hAligned (by decide))
  -- a page asks for the latest candles before the cursor
  intro cursor asked hCursor
  obtain ⟨body, message, rows, time, page, hGet, hHeader, hResponse, hRows, hPerm⟩ :=
    hFaithful ⟨"linear".toList, request.symbol, "1".toList, request.startTimeMs, cursor - 1,
      bybitPageLimit⟩ asked rfl rfl rfl
  refine ⟨⟨"linear".toList, request.symbol, "1".toList, request.startTimeMs, cursor - 1,
    bybitPageLimit⟩, page, ?_, ?_, ?_⟩
  · simp only [exclusiveQueryEnd, hCursor, if_false]
    rfl
  · have hParse := mapM_eq_ok hRows
    unfold parseBybit
    simpa only [hGet, hHeader, hResponse, ok_bind, ne_eq, not_true, or_self, if_false] using hParse
  · refine hPerm.trans (List.Perm.of_eq ?_)
    -- an inclusive end of one millisecond less asks for the same candles
    congr 1
    refine List.filter_congr fun c _ => ?_
    rw [decide_eq_decide]
    simp only
    omega

theorem fetchOkx_collects (hFaithful : OkxFaithful client request.symbol held) :
    ∃ all, client.fetchOkx request = .ok all ∧
      all.Perm (window held request.startTimeMs request.endTimeMs) := by
  refine fetchBackwards_spec hDistinct (by decide) ?_ (Nat.ne_zero_of_lt request.start_lt_end)
    (range_room request hDistinct hAligned le_rfl)
  intro cursor asked _
  obtain ⟨body, message, rows, page, hGet, hHeader, hResponse, hRows, hPerm⟩ :=
    hFaithful ⟨request.symbol, "1m".toList, cursor, request.startTimeMs - 1, okxPageLimit⟩ asked
      rfl rfl
  refine ⟨_, page, rfl, ?_, ?_⟩
  · have hParse := mapM_eq_ok hRows
    unfold parseOkx
    simpa only [hGet, hHeader, hResponse, ok_bind, ne_eq, not_true, if_false] using hParse
  · have hPos := request.start_pos
    refine hPerm.trans (List.Perm.of_eq ?_)
    -- OKX excludes both bounds, so the lower one is asked for less one
    congr 1
    refine List.filter_congr fun c _ => ?_
    rw [decide_eq_decide]
    simp only
    omega

theorem fetchBinance_collects (hFaithful : BinanceFaithful client request.symbol held) :
    ∃ all, client.fetchBinance request = .ok all ∧
      all.Perm (window held request.startTimeMs request.endTimeMs) := by
  obtain ⟨serverTime, hTime, hPos, hKlines⟩ := hFaithful
  simp only [HistoryClient.fetchBinance, hTime, parseBinanceServerTime, hPos, if_false,
    ok_bind]
  refine fetchForwards_spec hDistinct hAligned (by decide) ?_
    (range_room request hDistinct hAligned (by decide))
  -- a page asks for the earliest candles from the cursor on
  intro cursor asked
  obtain ⟨rows, page, hGet, hRows, hPerm⟩ :=
    hKlines ⟨request.symbol, "1m".toList, cursor, request.endTimeMs - 1, binancePageLimit⟩ asked
      rfl rfl
  have hEnd := request.start_lt_end
  refine ⟨⟨request.symbol, "1m".toList, cursor, request.endTimeMs - 1, binancePageLimit⟩, page, ?_,
    ?_, ?_, ?_⟩
  · simp only [exclusiveQueryEnd, Nat.ne_zero_of_lt hEnd, if_false]
    rfl
  · simp only [hGet, ok_bind, parseBinance]
    exact mapM_eq_ok hRows
  · -- an inclusive end of one millisecond less asks for the same candles
    refine hPerm.trans (List.Perm.of_eq ?_)
    congr 1
    refine List.filter_congr fun c _ => ?_
    rw [decide_eq_decide]
    simp only
    omega
  · intro c hc
    have hOk : Except.ok c ∈ rows.map fun row => parseBinanceRow row serverTime := by
      rw [hRows]
      exact List.mem_map_of_mem hc
    obtain ⟨row, -, hRow⟩ := List.mem_map.mp hOk
    exact parseBinanceRow_fits hRow

end Fetch

/-- **Pagination.** Against a venue that answers faithfully from valid,
minute-aligned candles with distinct starts, Bybit, Binance and OKX history is
the earliest candles of the requested range, in order, up to the limit. -/
theorem fetch_paginates [RustDecimal] [Unicode] (client : HistoryClient) (unstable : UnstableSort)
    (request : HistoryRequest) (held : List Candle) (hValid : ∀ c ∈ held, c.validate = .ok ())
    (hAligned : ∀ c ∈ held, candleIntervalMs ∣ c.startTimeMs)
    (hDistinct : (held.map Candle.startTimeMs).Nodup) :
    (request.provider = .bybit → BybitFaithful client request.symbol held →
      client.fetch unstable request = .ok (earliest request held)) ∧
    (request.provider = .binance → BinanceFaithful client request.symbol held →
      client.fetch unstable request = .ok (earliest request held)) ∧
    (request.provider = .okx → OkxFaithful client request.symbol held →
      client.fetch unstable request = .ok (earliest request held)) := by
  -- a valid candle lasts a minute
  have hMinute : ∀ c ∈ held, c.endTimeMs = c.startTimeMs + candleIntervalMs :=
    fun c hc => validate_minute (hValid c hc)
  refine ⟨fun hProvider hFaithful => ?_, fun hProvider hFaithful => ?_,
    fun hProvider hFaithful => ?_⟩
  · obtain ⟨all, hAll, hPerm⟩ := fetchBybit_collects request hDistinct hAligned hFaithful
    simp only [HistoryClient.fetch, hProvider, hAll, ok_bind]
    exact finishResult_spec unstable request hDistinct hAligned hMinute hPerm
  · obtain ⟨all, hAll, hPerm⟩ := fetchBinance_collects request hDistinct hAligned hFaithful
    simp only [HistoryClient.fetch, hProvider, hAll, ok_bind]
    exact finishResult_spec unstable request hDistinct hAligned hMinute hPerm
  · obtain ⟨all, hAll, hPerm⟩ := fetchOkx_collects request hDistinct hAligned hFaithful
    simp only [HistoryClient.fetch, hProvider, hAll, ok_bind]
    exact finishResult_spec unstable request hDistinct hAligned hMinute hPerm

section Sample

/-- A printed number is read back. -/
theorem parseU64Text_ofNat (provider : Provider) {n : Nat} (h : n ≤ u64Max) (field : Text) :
    parseU64Text provider (Text.ofNat n) field = .ok n := by
  have hAll : (Text.ofNat n).all Char.isDigit = true :=
    List.all_eq_true.mpr fun _ hc => Text.isDigit_of_mem_ofNat hc
  unfold parseU64Text
  rw [hAll, List.isEmpty_eq_false_iff.mpr (Text.ofNat_ne_nil n), if_neg (by decide),
    Text.parseU64_ofNat (Nat.lt_succ_of_le h)]

local instance : RustDecimal := RustDecimal.digits
local instance : Unicode := Unicode.ascii

/-- More minutes of a symbol than any venue answers at once, with a limit above
what OKX and Bybit answer. -/
def sampleRequest (provider : Provider) (symbol : Text)
    (normalized : normalizeSymbol symbol = .ok symbol)
    (venueSymbol : validProviderSymbol provider symbol = true) : HistoryRequest where
  provider
  symbol
  startTimeMs := 60000
  endTimeMs := 126060000
  limit := 1200
  normalized
  venueSymbol
  start_pos := by decide
  start_aligned := by decide
  end_aligned := by decide
  start_lt_end := by decide
  range_le := by decide
  limit_mem := by decide

/-- The range asked of Bybit. -/
def bybitSample : HistoryRequest := sampleRequest .bybit "BTCUSDT".toList rfl rfl
/-- The same range asked of Binance. -/
def binanceSample : HistoryRequest := sampleRequest .binance "BTCUSDT".toList rfl rfl
/-- The same range asked of OKX. -/
def okxSample : HistoryRequest := sampleRequest .okx "BTC-USDT-SWAP".toList rfl rfl

/-- A minute without trades. -/
def sampleCandle (contractVolume : Option DecimalValue) (startTimeMs : Nat) : Candle :=
  ⟨"1m".toList, startTimeMs, startTimeMs + 60000, ⟨"5".toList⟩, ⟨"5".toList⟩, ⟨"5".toList⟩,
    ⟨"5".toList⟩, some ⟨"0".toList⟩, some ⟨"0".toList⟩, contractVolume, .closed, []⟩

/-- A candle at each minute but the last; only OKX prints contract volumes. -/
def sampleHeld (contractVolume : Option DecimalValue) : List Candle :=
  (List.range 1600).map fun i => sampleCandle contractVolume ((i + 1) * candleIntervalMs)

/-- A row of Bybit's answer for the candle of that start. -/
def bybitRow (startTimeMs : Nat) : List Text :=
  Text.ofNat startTimeMs :: ["5", "5", "5", "5", "0", "0"].map String.toList

/-- A row of OKX's answer for the candle of that start. -/
def okxRow (startTimeMs : Nat) : List Text :=
  Text.ofNat startTimeMs :: ["5", "5", "5", "5", "0", "0", "0", "1"].map String.toList

/-- A row of Binance's answer for the candle of that start. -/
def binanceRow (startTimeMs : Nat) : List RawValue :=
  let printed (text : String) : RawValue := .string (.ok text.toList)
  [.bare (Text.ofNat startTimeMs), printed "5", printed "5", printed "5", printed "5", printed "0",
    .bare (Text.ofNat (startTimeMs + 59999)), printed "0", .bare "0".toList, printed "0",
    printed "0", printed "0"]

/-- Three venues that answer every query from the held candles, and no others. -/
def sampleClient : HistoryClient where
  bybit asked := match asked with
    | [] => .error (.transport .bybit [])
    | query :: _ =>
      let page := newestOf (min query.limit 1000) ((sampleHeld none).filter fun c =>
        query.start ≤ c.startTimeMs ∧ c.startTimeMs ≤ query.stop)
      .ok ⟨.ok ⟨0, "OK".toList⟩, .ok ⟨0, "linear".toList, query.symbol,
        page.map fun c => bybitRow c.startTimeMs, 300000000⟩⟩
  binanceTime := .ok ⟨300000000⟩
  binance asked := match asked with
    | [] => .error (.transport .binance [])
    | query :: _ =>
      let page := oldestOf (min query.limit 1500) ((sampleHeld none).filter fun c =>
        query.startTime ≤ c.startTimeMs ∧ c.startTimeMs ≤ query.endTime)
      .ok (page.map fun c => binanceRow c.startTimeMs)
  okx asked := match asked with
    | [] => .error (.transport .okx [])
    | query :: _ =>
      let page := newestOf (min query.limit 300) ((sampleHeld (some ⟨"0".toList⟩)).filter fun c =>
        query.before < c.startTimeMs ∧ c.startTimeMs < query.after)
      .ok ⟨.ok ⟨"0".toList, []⟩, .ok ⟨"0".toList, page.map fun c => okxRow c.startTimeMs⟩⟩
  kucoin _ := .error (.transport .kucoin [])
  mexcTime := .error (.transport .mexc [])
  mexc _ := .error (.transport .mexc [])
  bingxTime := .error (.transport .bingx [])
  bingx _ := .error (.transport .bingx [])

/-- Every held candle is a sample candle of some aligned minute before the server time. -/
theorem sampleHeld_mem {contractVolume : Option DecimalValue} {c : Candle}
    (hc : c ∈ sampleHeld contractVolume) : candleIntervalMs ∣ c.startTimeMs ∧
      c.startTimeMs + candleIntervalMs ≤ 300000000 ∧
      c = sampleCandle contractVolume c.startTimeMs := by
  obtain ⟨i, hi, rfl⟩ := List.mem_map.mp hc
  have hRange := List.mem_range.mp hi
  refine ⟨Dvd.intro_left _ rfl, ?_, rfl⟩
  simp only [sampleCandle, candleIntervalMs]
  omega

/-- No two held candles have the same start. -/
theorem sampleHeld_distinct (contractVolume : Option DecimalValue) :
    ((sampleHeld contractVolume).map Candle.startTimeMs).Nodup := by
  unfold sampleHeld
  rw [List.map_map]
  refine List.nodup_range.map fun i j h => ?_
  simpa [sampleCandle, candleIntervalMs] using h

/-- Validity does not depend on the minute. -/
theorem sampleCandle_validate {contractVolume : Option DecimalValue}
    (hVolume : contractVolume = none ∨ contractVolume = some ⟨"0".toList⟩) (startTimeMs : Nat) :
    (sampleCandle contractVolume startTimeMs).validate = .ok () := by
  have hSame : (sampleCandle contractVolume startTimeMs).validate =
      (sampleCandle contractVolume 60000).validate := by
    have hMinute : ∀ startTimeMs,
      ¬ ((sampleCandle contractVolume startTimeMs).interval ≠ "1m".toList ∨
        (sampleCandle contractVolume startTimeMs).endTimeMs <
          (sampleCandle contractVolume startTimeMs).startTimeMs ∨
        (sampleCandle contractVolume startTimeMs).endTimeMs -
          (sampleCandle contractVolume startTimeMs).startTimeMs ≠ 60000) := by
      simp [sampleCandle]
    unfold Candle.validate
    rw [if_neg (hMinute _), if_neg (hMinute _)]
    rfl
  rw [hSame]
  rcases hVolume with rfl | rfl <;> decide +kernel

/-- The shared end of the decoders builds the sample candle. -/
theorem buildCandle_sample (provider : Provider) {startTimeMs : Nat}
    (hAligned : candleIntervalMs ∣ startTimeMs) (hTime : startTimeMs + candleIntervalMs ≤ u64Max)
    (contractVolume : Option DecimalValue)
    (hVolume : contractVolume = none ∨ contractVolume = some ⟨"0".toList⟩) :
    buildCandle provider ⟨startTimeMs, "5".toList, "5".toList, "5".toList, "5".toList,
      some "0".toList, some "0".toList, contractVolume.map (·.text), .closed, []⟩ =
      .ok (sampleCandle contractVolume startTimeMs) := by
  -- the texts of the sample are their own decimals
  have hFive : ∀ field, decimal provider "5".toList field = .ok ⟨"5".toList⟩ := fun _ => rfl
  have hZero : ∀ field, optionalDecimal provider (some "0".toList) field =
      .ok (some ⟨"0".toList⟩) := fun _ => rfl
  have hContract : optionalDecimal provider (contractVolume.map (·.text)) "contract volume".toList =
      .ok contractVolume := by
    rcases hVolume with rfl | rfl <;> rfl
  have hValid := sampleCandle_validate hVolume startTimeMs
  unfold buildCandle
  dsimp only
  rw [if_neg (not_not_intro hAligned), addInterval, if_pos hTime, ok_bind, hFive, ok_bind, hFive,
    ok_bind, hFive, ok_bind, hFive, ok_bind, hZero, ok_bind, hZero, ok_bind, hContract, ok_bind]
  unfold sampleCandle at hValid ⊢
  unfold candleIntervalMs
  rw [hValid]

section Rows

/-! A row that is printed from a candle decodes to the candle. -/

variable {startTimeMs serverTimeMs : Nat} (hAligned : candleIntervalMs ∣ startTimeMs)
  (hEnd : startTimeMs + candleIntervalMs ≤ serverTimeMs) (hTime : serverTimeMs ≤ u64Max)

include hAligned hEnd hTime

/-- A row of Bybit decodes to the candle it was printed from. -/
theorem parseBybitRow_sample :
    parseBybitRow (bybitRow startTimeMs) serverTimeMs = .ok (sampleCandle none startTimeMs) := by
  have hInterval : startTimeMs + candleIntervalMs ≤ u64Max := hEnd.trans hTime
  have hStart := parseU64Text_ofNat .bybit (Nat.le_of_add_right_le hInterval)
  change (do
    let startTimeMs ← parseU64Text .bybit (Text.ofNat startTimeMs) "start time".toList
    let endTimeMs ← addInterval .bybit startTimeMs "candle end timestamp overflow".toList
    buildCandle .bybit ⟨startTimeMs, "5".toList, "5".toList, "5".toList, "5".toList,
      some "0".toList, some "0".toList, none, elapsedFinality endTimeMs serverTimeMs, []⟩) = _
  rw [hStart, ok_bind, addInterval, if_pos hInterval, ok_bind, elapsedFinality, if_pos hEnd]
  exact buildCandle_sample .bybit hAligned hInterval none (.inl rfl)

theorem parseBinanceRow_sample :
    parseBinanceRow (binanceRow startTimeMs) serverTimeMs =
      .ok (sampleCandle none startTimeMs) := by
  have hInterval : startTimeMs + candleIntervalMs ≤ u64Max := hEnd.trans hTime
  have hCloseEnd : startTimeMs + 59999 + 1 = startTimeMs + candleIntervalMs := by
    unfold candleIntervalMs
    omega
  have hCloseMax : startTimeMs + 59999 + 1 ≤ u64Max := hCloseEnd ▸ hInterval
  have hStart := parseU64Text_ofNat .binance (Nat.le_of_add_right_le hInterval)
  have hClose := parseU64Text_ofNat .binance (Nat.le_of_add_right_le hCloseMax)
  -- the times are numbers in the row, the prices are strings
  have hBare : ∀ token field, rawU64 .binance (.bare token) field =
      parseU64Text .binance token field := fun token field => by
    rw [rawU64, rawDecimal, ok_bind]
  have hText : ∀ text field, rawDecimal .binance (.string (.ok text)) field = .ok text :=
    fun _ _ => rfl
  change (do
    let startTimeMs ← rawU64 .binance (.bare (Text.ofNat startTimeMs)) "open time".toList
    let closeTimeMs ← rawU64 .binance (.bare (Text.ofNat (_ + 59999))) "close time".toList
    let endTimeMs ← addInterval .binance startTimeMs "candle end timestamp overflow".toList
    requireCloseTime .binance closeTimeMs endTimeMs
      "one-minute close time is not open time plus 59,999 milliseconds".toList
    let openPrice ← rawDecimal .binance (.string (.ok "5".toList)) "open".toList
    let high ← rawDecimal .binance (.string (.ok "5".toList)) "high".toList
    let low ← rawDecimal .binance (.string (.ok "5".toList)) "low".toList
    let close ← rawDecimal .binance (.string (.ok "5".toList)) "close".toList
    let baseVolume ← rawDecimal .binance (.string (.ok "0".toList)) "base volume".toList
    let quoteVolume ← rawDecimal .binance (.string (.ok "0".toList)) "quote volume".toList
    buildCandle .binance ⟨startTimeMs, openPrice, high, low, close, some baseVolume,
      some quoteVolume, none, elapsedFinality endTimeMs serverTimeMs, []⟩) = _
  rw [hBare, hStart, ok_bind, hBare, hClose, ok_bind, addInterval, if_pos hInterval, ok_bind,
    requireCloseTime, if_pos ⟨hCloseMax, hCloseEnd⟩, ok_bind, elapsedFinality, if_pos hEnd]
  simp only [hText, ok_bind]
  exact buildCandle_sample .binance hAligned hInterval none (.inl rfl)

theorem parseOkxRow_sample :
    parseOkxRow (okxRow startTimeMs) = .ok (sampleCandle (some ⟨"0".toList⟩) startTimeMs) := by
  have hInterval : startTimeMs + candleIntervalMs ≤ u64Max := hEnd.trans hTime
  have hStart := parseU64Text_ofNat .okx (Nat.le_of_add_right_le hInterval)
  change (do
    let startTimeMs ← parseU64Text .okx (Text.ofNat startTimeMs) "start time".toList
    buildCandle .okx ⟨startTimeMs, "5".toList, "5".toList, "5".toList, "5".toList,
      some "0".toList, some "0".toList, some "0".toList, .closed, []⟩) = _
  rw [hStart, ok_bind]
  exact buildCandle_sample .okx hAligned hInterval (some ⟨"0".toList⟩) (.inr rfl)

end Rows

/-- A page of rows decodes to the candles it is printed from. -/
theorem sample_rows {ι ε : Type} {contractVolume : Option DecimalValue} {page : List Candle}
    {print : Nat → ι} {parse : ι → Except ε Candle} (hSubset : page ⊆ sampleHeld contractVolume)
    (hParse : ∀ {startTimeMs}, candleIntervalMs ∣ startTimeMs →
      startTimeMs + candleIntervalMs ≤ 300000000 →
      parse (print startTimeMs) = .ok (sampleCandle contractVolume startTimeMs)) :
    (page.map fun c => print c.startTimeMs).map parse = page.map .ok := by
  rw [List.map_map]
  refine List.map_congr_left fun c hc => ?_
  obtain ⟨hAligned, hEnd, hCandle⟩ := sampleHeld_mem (hSubset hc)
  exact (hParse hAligned hEnd).trans (congrArg Except.ok hCandle.symm)

/-- A page has no candles but held ones. -/
theorem firstOf_filter_subset {κ : Type} [LinearOrder κ] {key : Candle → κ} {n : Nat}
    {held : List Candle} {p : Candle → Bool} : firstOf key n (held.filter p) ⊆ held :=
  fun _ hc => List.mem_of_mem_filter (page_subset (List.Perm.refl _) hc)

/-- The sample client answers as Bybit does. -/
theorem sampleClient_bybit : BybitFaithful sampleClient bybitSample.symbol (sampleHeld none) := by
  rintro ⟨category, symbol, interval, start, stop, limit⟩ asked - rfl -
  exact ⟨_, _, _, _, _, rfl, rfl, rfl, sample_rows firstOf_filter_subset fun hAligned hEnd =>
    parseBybitRow_sample hAligned hEnd (by decide), List.Perm.refl _⟩

theorem sampleClient_binance :
    BinanceFaithful sampleClient binanceSample.symbol (sampleHeld none) := by
  refine ⟨300000000, rfl, by decide, ?_⟩
  rintro ⟨symbol, interval, start, stop, limit⟩ asked rfl -
  exact ⟨_, _, rfl, sample_rows firstOf_filter_subset fun hAligned hEnd =>
    parseBinanceRow_sample hAligned hEnd (by decide), List.Perm.refl _⟩

theorem sampleClient_okx :
    OkxFaithful sampleClient okxSample.symbol (sampleHeld (some ⟨"0".toList⟩)) := by
  rintro ⟨instId, bar, after, before, limit⟩ asked rfl -
  exact ⟨_, _, _, _, rfl, rfl, rfl, sample_rows firstOf_filter_subset fun hAligned hEnd =>
    parseOkxRow_sample hAligned hEnd (by decide), List.Perm.refl _⟩

/-- One of the sorts. -/
def insertionByStart : UnstableSort :=
  ⟨arrange Candle.startTimeMs, arrange_perm _, arrange_pairwise _⟩

/-- Ranges of several pages, two at Bybit and Binance and six at OKX. -/
theorem fetch_paginates_sampleClient :
    sampleClient.fetch insertionByStart bybitSample = .ok (earliest bybitSample (sampleHeld none)) ∧
    sampleClient.fetch insertionByStart binanceSample =
      .ok (earliest binanceSample (sampleHeld none)) ∧
    sampleClient.fetch insertionByStart okxSample =
      .ok (earliest okxSample (sampleHeld (some ⟨"0".toList⟩))) := by
  have hValid : ∀ {contractVolume : Option DecimalValue},
      contractVolume = none ∨ contractVolume = some ⟨"0".toList⟩ →
      ∀ c ∈ sampleHeld contractVolume, c.validate = .ok () := by
    intro contractVolume hVolume c hc
    rw [(sampleHeld_mem hc).2.2]
    exact sampleCandle_validate hVolume _
  -- the candles held start at full minutes
  have hAligned : ∀ {contractVolume : Option DecimalValue},
      ∀ c ∈ sampleHeld contractVolume, candleIntervalMs ∣ c.startTimeMs :=
    fun c hc => (sampleHeld_mem hc).1
  exact ⟨(fetch_paginates sampleClient insertionByStart bybitSample (sampleHeld none)
      (hValid (.inl rfl)) hAligned (sampleHeld_distinct _)).1 rfl sampleClient_bybit,
    (fetch_paginates sampleClient insertionByStart binanceSample (sampleHeld none)
      (hValid (.inl rfl)) hAligned (sampleHeld_distinct _)).2.1 rfl sampleClient_binance,
    (fetch_paginates sampleClient insertionByStart okxSample (sampleHeld (some ⟨"0".toList⟩))
      (hValid (.inr rfl)) hAligned (sampleHeld_distinct _)).2.2 rfl sampleClient_okx⟩

end Sample

end MarketStreamGateway.History
