import Mathlib.Data.List.Sublists
import MarketStreamGateway.HistoryResult

/-!
# Market Stream Gateway — history in windows

KuCoin, MEXC and BingX are asked for consecutive windows of a fixed span. Their
queries have inclusive bounds, in milliseconds or in whole seconds.

* `fetchWindows_eq` — the loop asks for the windows `windows` lists, and for
  nothing else.
* `windows_countP` — the windows cut the range without gaps or overlaps.
* `fetch_windows` — the queries of the three venues partition the minutes of the
  range, and so the result is the earliest candles of the range.
-/

namespace MarketStreamGateway.History

open Lib

/-! ## Windows -/

/-- The windows from a cursor on, each up to the exclusive bound. -/
def windows (pageSpan endTimeMs : Nat) : Nat → Nat → List (Nat × Nat)
  | 0, _ => []
  | pages + 1, cursor =>
    if cursor < endTimeMs then
      let pageEnd := min (cursor + pageSpan) endTimeMs
      (cursor, pageEnd) :: windows pageSpan endTimeMs pages pageEnd
    else []

/-- There are no more windows than the budget. -/
theorem windows_length_le (pageSpan endTimeMs pages cursor : Nat) :
    (windows pageSpan endTimeMs pages cursor).length ≤ pages := by
  induction pages generalizing cursor with
  | zero => exact Nat.zero_le _
  | succ pages ih =>
    rw [windows]
    split
    · exact Nat.succ_le_succ (ih _)
    · exact Nat.zero_le _

/-- A window of the range on minute boundaries. -/
structure Windowed (pageSpan lower upper : Nat) (w : Nat × Nat) : Prop where
  lower_le : lower ≤ w.1
  lt : w.1 < w.2
  le_upper : w.2 ≤ upper
  span : w.2 - w.1 ≤ pageSpan
  start_aligned : candleIntervalMs ∣ w.1
  end_aligned : candleIntervalMs ∣ w.2

/-- Every window is aligned, not empty and no longer than a page. -/
theorem windows_mem {pageSpan endTimeMs pages cursor : Nat} (hSpan : 0 < pageSpan)
    (hPage : candleIntervalMs ∣ pageSpan) (hEnd : candleIntervalMs ∣ endTimeMs)
    (hCursor : candleIntervalMs ∣ cursor) :
    ∀ w ∈ windows pageSpan endTimeMs pages cursor, Windowed pageSpan cursor endTimeMs w := by
  induction pages generalizing cursor with
  | zero => exact fun w hw => absurd hw List.not_mem_nil
  | succ pages ih =>
    intro w hw
    rw [windows] at hw
    split at hw
    · next hLess =>
      -- the next window starts at a full minute as well
      have hNext : candleIntervalMs ∣ min (cursor + pageSpan) endTimeMs := by
        rcases min_choice (cursor + pageSpan) endTimeMs with hMin | hMin
        · rw [hMin]
          exact Nat.dvd_add hCursor hPage
        · rwa [hMin]
      rcases List.mem_cons.mp hw with rfl | hw
      · refine ⟨le_rfl, ?_, Nat.min_le_right _ _, ?_, hCursor, hNext⟩
        · dsimp only
          omega
        · dsimp only
          omega
      · -- the later windows start later
        have hRest := ih hNext w hw
        refine ⟨?_, hRest.lt, hRest.le_upper, hRest.span, hRest.start_aligned, hRest.end_aligned⟩
        have := hRest.lower_le
        omega
    · exact absurd hw List.not_mem_nil

/-- A time is in one window if it is in the range, and in none if not. -/
theorem windows_countP {pageSpan endTimeMs pages cursor : Nat} (hSpan : 0 < pageSpan)
    (hRoom : endTimeMs ≤ cursor + pages * pageSpan) (m : Nat) :
    (windows pageSpan endTimeMs pages cursor).countP (fun w => w.1 ≤ m ∧ m < w.2) =
      if cursor ≤ m ∧ m < endTimeMs then 1 else 0 := by
  induction pages generalizing cursor with
  | zero =>
    rw [windows, List.countP_nil, if_neg]
    rintro ⟨hLower, hUpper⟩
    omega
  | succ pages ih =>
    rw [windows]
    split
    · next hLess =>
      dsimp only
      -- the windows that are left reach the end of the range
      have hNext : endTimeMs ≤ min (cursor + pageSpan) endTimeMs + pages * pageSpan := by
        rw [Nat.succ_mul] at hRoom
        omega
      rw [List.countP_cons, ih hNext]
      simp only [decide_eq_true_eq]
      -- the first window has the moment, or the rest of the range does
      split <;> split <;> split <;> omega
    · next hDone =>
      rw [List.countP_nil, if_neg]
      rintro ⟨hLower, hUpper⟩
      omega

/-! ## The loop -/

section Loop

variable {Query : Type}

/-- Asks one query after the other and collects the pages. -/
def askAll (page : List Query → Except HistoryError (List Candle)) :
    List Query → List Candle → List Query → Except HistoryError (List Candle)
  | _, candles, [] => .ok candles
  | asked, candles, query :: queries => do
    let found ← page (query :: asked)
    askAll page (query :: asked) (candles ++ found) queries

/-- The loop asks for the windows of the range, one after the other. -/
theorem fetchWindows_eq (provider : Provider) {pageSpan endTimeMs pages cursor : Nat}
    (hSpan : 0 < pageSpan) (hEnd : endTimeMs ≤ u64Max)
    (hRoom : endTimeMs ≤ cursor + pages * pageSpan)
    {query : Nat → Nat → Except HistoryError Query} {build : Nat × Nat → Query}
    (hQuery : ∀ w ∈ windows pageSpan endTimeMs pages cursor, query w.1 w.2 = .ok (build w))
    (page : List Query → Except HistoryError (List Candle)) (asked : List Query)
    (candles : List Candle) :
    fetchWindows provider pageSpan endTimeMs query page pages asked cursor candles =
      askAll page asked candles ((windows pageSpan endTimeMs pages cursor).map build) := by
  induction pages generalizing cursor asked candles with
  | zero =>
    rw [fetchWindows, if_neg (by omega)]
    rfl
  | succ pages ih =>
    rw [fetchWindows, windows] at *
    by_cases hLess : cursor < endTimeMs
    · rw [if_pos hLess] at hQuery ⊢
      rw [if_pos hLess]
      -- the range ends below the largest time, so nothing saturates
      have hSaturated : min (min (cursor + pageSpan) u64Max) endTimeMs =
          min (cursor + pageSpan) endTimeMs := by omega
      have hNext : endTimeMs ≤ min (cursor + pageSpan) endTimeMs + pages * pageSpan := by
        rw [Nat.succ_mul] at hRoom
        omega
      dsimp only at hQuery ⊢
      rw [hSaturated, hQuery _ List.mem_cons_self, ok_bind, List.map_cons, askAll]
      refine bind_congr fun found => ?_
      rw [if_neg (by omega), ih hNext fun w hw => hQuery w (List.mem_cons_of_mem _ hw)]
    · rw [if_neg hLess, if_neg hLess]
      rfl

/-- Against a venue that answers each query with the candles it covers, all of
them are collected. -/
theorem askAll_collects {held : List Candle} {covers : Query → Candle → Bool}
    {page : List Query → Except HistoryError (List Candle)} {queries : List Query}
    (hPage : ∀ query ∈ queries, ∀ asked, ∃ found, page (query :: asked) = .ok found ∧
      found.Perm (held.filter (covers query))) (asked : List Query) (candles : List Candle) :
    ∃ all, askAll page asked candles queries = .ok all ∧
      all.Perm (candles ++ queries.flatMap fun query => held.filter (covers query)) := by
  induction queries generalizing asked candles with
  | nil => exact ⟨candles, rfl, by rw [List.flatMap_nil, List.append_nil]⟩
  | cons query queries ih =>
    obtain ⟨found, hFound, hPerm⟩ := hPage query List.mem_cons_self asked
    obtain ⟨all, hAll, hRest⟩ := ih (fun q hq => hPage q (List.mem_cons_of_mem _ hq))
      (query :: asked) (candles ++ found)
    refine ⟨all, ?_, hRest.trans ?_⟩
    · rw [askAll, hFound, ok_bind, hAll]
    · rw [List.flatMap_cons, List.append_assoc]
      exact List.Perm.append_left _ (hPerm.append_right _)

/-- If every candle is covered once or not at all, nothing is collected twice. -/
theorem flatMap_perm {held : List Candle} {covers : Query → Candle → Bool} {queries : List Query}
    {p : Candle → Bool}
    (hOnce : ∀ c ∈ held, queries.countP (covers · c) = if p c then 1 else 0) :
    (queries.flatMap fun query => held.filter (covers query)).Perm (held.filter p) := by
  refine List.perm_iff_count.mpr fun c => ?_
  -- a candle is collected as often as queries cover it
  have hCount : (queries.flatMap fun query => held.filter (covers query)).count c =
      queries.countP (covers · c) * held.count c := by
    clear hOnce
    induction queries with
    | nil => simp
    | cons query queries ih =>
      rw [List.flatMap_cons, List.count_append, ih, List.countP_cons, Nat.add_mul, Nat.add_comm]
      congr 1
      by_cases hCovers : covers query c = true
      · rw [List.count_filter hCovers, if_pos hCovers, Nat.one_mul]
      · rw [if_neg hCovers, Nat.zero_mul, List.count_eq_zero]
        exact fun hMem => hCovers (List.mem_filter.mp hMem).2
  rw [hCount]
  by_cases hHeld : c ∈ held
  · rw [hOnce c hHeld]
    by_cases hp : p c = true
    · rw [if_pos hp, List.count_filter hp, Nat.one_mul]
    · rw [if_neg hp, Nat.zero_mul, eq_comm, List.count_eq_zero]
      exact fun hMem => hp (List.mem_filter.mp hMem).2
  · rw [List.count_eq_zero.mpr hHeld, Nat.mul_zero, eq_comm, List.count_eq_zero]
    exact fun hMem => hHeld (List.mem_filter.mp hMem).1

end Loop

/-! ## The queries of the three venues -/

section Queries

variable [Unicode] (request : HistoryRequest)

/-- The windows of a request. -/
def windowsOf (pageLimit : Nat) : List (Nat × Nat) :=
  windows (pageLimit * candleIntervalMs) request.endTimeMs maxUpstreamPages request.startTimeMs

/-- The queries KuCoin is asked for a request. -/
def kucoinQueries : List KucoinQuery :=
  (windowsOf request kucoinPageLimit).map fun w => ⟨request.symbol, "60".toList, w.1, w.2 - 1⟩

/-- The queries MEXC is asked for a request, in seconds. -/
def mexcQueries : List MexcQuery :=
  (windowsOf request mexcPageLimit).map fun w =>
    ⟨request.symbol, "Min1".toList, w.1 / 1000, (w.2 - candleIntervalMs) / 1000⟩

/-- The queries BingX is asked for a request, each with its number of candles. -/
def bingxQueries : List BingxQuery :=
  (windowsOf request bingxPageLimit).map fun w =>
    ⟨request.symbol, "1m".toList, w.1, w.2 - 1, (w.2 - w.1) / candleIntervalMs⟩

/-- Both bounds are inclusive, in milliseconds. -/
def KucoinQuery.covers (query : KucoinQuery) (timeMs : Nat) : Bool :=
  query.start ≤ timeMs && timeMs ≤ query.stop

/-- Both bounds are inclusive, in whole seconds. -/
def MexcQuery.covers (query : MexcQuery) (timeMs : Nat) : Bool :=
  query.start ≤ timeMs / 1000 && timeMs / 1000 ≤ query.stop

/-- The minutes that a query of BingX asks for. -/
def BingxQuery.covers (query : BingxQuery) (timeMs : Nat) : Bool :=
  query.startTime ≤ timeMs && timeMs ≤ query.endTime

/-- A list of at most 40 queries that partitions the minutes of a request, each
query being for a run of at most `pageLimit` minutes. -/
structure Partitions {Query : Type} (pageLimit : Nat) (covers : Query → Nat → Bool)
    (queries : List Query) : Prop where
  pages : queries.length ≤ maxUpstreamPages
  once : ∀ m, candleIntervalMs ∣ m → queries.countP (covers · m) =
    if request.startTimeMs ≤ m ∧ m < request.endTimeMs then 1 else 0
  size : ∀ query ∈ queries, ∃ first minutes, minutes ≤ pageLimit ∧ ∀ m, candleIntervalMs ∣ m →
    (covers query m = true ↔ first ≤ m ∧ m < first + minutes * candleIntervalMs)

/-- The windows of a request are made of whole minutes within its range. -/
theorem windowsOf_mem {pageLimit : Nat} (hLimit : 0 < pageLimit) {w : Nat × Nat}
    (hw : w ∈ windowsOf request pageLimit) :
    Windowed (pageLimit * candleIntervalMs) request.startTimeMs request.endTimeMs w :=
  windows_mem (Nat.mul_pos hLimit (by decide)) (Nat.dvd_mul_left _ _) request.end_aligned
    request.start_aligned w hw

/-- Any range fits into 40 pages. -/
theorem windowsOf_room {pageLimit : Nat} (hLimit : kucoinPageLimit ≤ pageLimit) :
    request.endTimeMs ≤
      request.startTimeMs + maxUpstreamPages * (pageLimit * candleIntervalMs) := by
  have hRange := request.range_le
  simp only [maxHistoryRangeMs, maxUpstreamPages, candleIntervalMs, kucoinPageLimit] at *
  omega

/-- The queries partition the minutes if each covers those of its window. -/
theorem partitions_map {Query : Type} {pageLimit : Nat} (hLimit : kucoinPageLimit ≤ pageLimit)
    {covers : Query → Nat → Bool} {build : Nat × Nat → Query}
    (hCovers : ∀ w,
      Windowed (pageLimit * candleIntervalMs) request.startTimeMs request.endTimeMs w →
      ∀ m, candleIntervalMs ∣ m → (covers (build w) m = true ↔ w.1 ≤ m ∧ m < w.2)) :
    Partitions request pageLimit covers ((windowsOf request pageLimit).map build) := by
  have hPos : 0 < pageLimit := Nat.lt_of_lt_of_le (by decide) hLimit
  refine ⟨?_, fun m hm => ?_, fun query hQuery => ?_⟩
  · rw [List.length_map]
    exact windows_length_le _ _ _ _
  · rw [List.countP_map, ← windows_countP (Nat.mul_pos hPos (by decide))
      (windowsOf_room request hLimit) m]
    refine List.countP_congr fun w hw => ?_
    rw [decide_eq_true_eq]
    exact hCovers w (windowsOf_mem request hPos hw) m hm
  · obtain ⟨w, hw, rfl⟩ := List.mem_map.mp hQuery
    have hWindow := windowsOf_mem request hPos hw
    -- the window is a whole number of minutes, at most a page
    obtain ⟨minutes, hMinutes⟩ := Nat.dvd_sub hWindow.end_aligned hWindow.start_aligned
    have hLt := hWindow.lt
    have hSpan := hWindow.span
    refine ⟨w.1, minutes, ?_, fun m hm => (hCovers w hWindow m hm).trans ?_⟩
    · rw [hMinutes, Nat.mul_comm candleIntervalMs] at hSpan
      exact Nat.le_of_mul_le_mul_right hSpan (by decide)
    · rw [Nat.mul_comm minutes, ← hMinutes]
      omega

/-- The queries of KuCoin split the range of the request. -/
theorem kucoinQueries_partition :
    Partitions request kucoinPageLimit KucoinQuery.covers (kucoinQueries request) := by
  refine partitions_map request le_rfl fun w hWindow m _ => ?_
  have hLt := hWindow.lt
  simp only [KucoinQuery.covers, Bool.and_eq_true, decide_eq_true_eq]
  omega

theorem bingxQueries_partition :
    Partitions request bingxPageLimit BingxQuery.covers (bingxQueries request) := by
  refine partitions_map request (by decide) fun w hWindow m _ => ?_
  have hLt := hWindow.lt
  simp only [BingxQuery.covers, Bool.and_eq_true, decide_eq_true_eq]
  omega

/-- Whole seconds tell minutes apart. -/
theorem mexcQueries_partition :
    Partitions request mexcPageLimit MexcQuery.covers (mexcQueries request) := by
  refine partitions_map request (by decide) fun w hWindow m hMinute => ?_
  have hLt := hWindow.lt
  have hStart := hWindow.start_aligned
  have hEnd := hWindow.end_aligned
  simp only [MexcQuery.covers, Bool.and_eq_true, decide_eq_true_eq]
  simp only [candleIntervalMs] at *
  omega

/-- A BingX query says how many minutes it covers. -/
theorem bingxQueries_limit : ∀ query ∈ bingxQueries request, query.limit ≤ bingxPageLimit ∧
    query.endTime + 1 = query.startTime + query.limit * candleIntervalMs := by
  intro query hQuery
  obtain ⟨w, hw, rfl⟩ := List.mem_map.mp hQuery
  have hWindow := windowsOf_mem request (by decide) hw
  have hLt := hWindow.lt
  have hSpan := hWindow.span
  have hStart := hWindow.start_aligned
  have hEnd := hWindow.end_aligned
  simp only [candleIntervalMs, bingxPageLimit] at *
  omega

variable [RustDecimal] (hEnd : request.endTimeMs ≤ u64Max)

include hEnd

/-- KuCoin is asked the windows of the request, one after the other. -/
theorem fetchKucoin_eq (client : HistoryClient) : client.fetchKucoin request =
    askAll (fun asked => do parseKucoin (← client.kucoin asked)) [] [] (kucoinQueries request) := by
  refine fetchWindows_eq .kucoin (by decide) hEnd (windowsOf_room request le_rfl) (fun w hw => ?_)
    _ _ _
  have hLt := (windowsOf_mem request (by decide) hw).lt
  rw [exclusiveQueryEnd, if_neg (by omega)]
  rfl

theorem fetchMexc_eq (client : HistoryClient) : client.fetchMexc request = (do
    let serverTimeMs ← parseMexcServerTime (← client.mexcTime)
    askAll (fun asked => do parseMexc (← client.mexc asked) serverTimeMs) [] []
      (mexcQueries request)) := by
  unfold HistoryClient.fetchMexc
  refine bind_congr fun time => bind_congr fun serverTimeMs => ?_
  refine fetchWindows_eq .mexc (by decide) hEnd (windowsOf_room request (by decide))
    (fun w hw => ?_)
    _ _ _
  have hWindow := windowsOf_mem request (by decide) hw
  have hLt := hWindow.lt
  have hAligned := hWindow.end_aligned
  rw [if_neg (by simp only [candleIntervalMs] at *; omega)]

theorem fetchBingx_eq (client : HistoryClient) : client.fetchBingx request = (do
    let serverTimeMs ← parseBingxServerTime (← client.bingxTime)
    askAll (fun asked => do parseBingx (← client.bingx asked) serverTimeMs) [] []
      (bingxQueries request)) := by
  unfold HistoryClient.fetchBingx
  refine bind_congr fun time => bind_congr fun serverTimeMs => ?_
  refine fetchWindows_eq .bingx (by decide) hEnd (windowsOf_room request (by decide))
    (fun w hw => ?_)
    _ _ _
  have hLt := (windowsOf_mem request (by decide) hw).lt
  rw [exclusiveQueryEnd, if_neg (by omega)]
  rfl

end Queries

/-! ## Venues -/

/-- Data whose columns are equally long passes the check. -/
theorem parallel_eq_ok {data : MexcHistoryData} (h : data.Parallel) :
    data.parallel = .ok ⟨h⟩ := by
  have hOne : ∀ {field : Text} {actual expected : Nat} (hEq : actual = expected),
      requireParallel field actual expected = .ok ⟨hEq⟩ := fun hEq => dif_pos hEq
  unfold MexcHistoryData.parallel
  simp only [hOne h.openPrice, hOne h.close, hOne h.high, hOne h.low, hOne h.vol, hOne h.amount,
    ok_bind]
  rfl

section Venues

variable [RustDecimal]

/-- KuCoin answers from `held`: the candles that start in the window. -/
def KucoinFaithful (client : HistoryClient) (symbol : Text) (held : List Candle) : Prop :=
  ∀ query asked, query.symbol = symbol → query.granularity = "60".toList →
    ∃ body message rows, ∃ page : List Candle, client.kucoin (query :: asked) = .ok body ∧
      body.header = .ok ⟨"200000".toList, message⟩ ∧
      body.response = .ok ⟨"200000".toList, rows⟩ ∧ rows.map parseKucoinRow = page.map .ok ∧
      page.Perm (held.filter fun c => query.covers c.startTimeMs)

/-- MEXC answers from `held`, and with a positive server time. -/
def MexcFaithful (client : HistoryClient) (symbol : Text) (held : List Candle) : Prop :=
  ∃ serverTime, client.mexcTime = .ok ⟨true, 0, serverTime⟩ ∧ serverTime ≠ 0 ∧
    ∀ query asked, query.symbol = symbol → query.interval = "Min1".toList →
      ∃ data, ∃ hParallel : data.Parallel, ∃ page : List Candle,
        client.mexc (query :: asked) = .ok ⟨true, 0, data⟩ ∧
        (List.finRange data.time.length).map (parseMexcRow data hParallel serverTime) =
          page.map .ok ∧
        page.Perm (held.filter fun c => query.covers c.startTimeMs)

/-- BingX answers from `held`, and with a positive server time. -/
def BingxFaithful (client : HistoryClient) (symbol : Text) (held : List Candle) : Prop :=
  ∃ serverTime message, client.bingxTime = .ok ⟨0, message, serverTime⟩ ∧ serverTime ≠ 0 ∧
    ∀ query asked, query.symbol = symbol → query.interval = "1m".toList →
      ∃ rows message, ∃ page : List Candle,
        client.bingx (query :: asked) = .ok ⟨0, message, rows⟩ ∧
        (rows.map fun row => parseBingxRow row serverTime) = page.map .ok ∧
        page.Perm (held.filter fun c => query.covers c.startTimeMs)

variable [Unicode] {client : HistoryClient} {held : List Candle} (request : HistoryRequest)
  (hAligned : ∀ c ∈ held, candleIntervalMs ∣ c.startTimeMs)

include hAligned

omit [RustDecimal] in
/-- Queries that partition the minutes collect the candles of the range. -/
theorem Partitions.collects {Query : Type} {pageLimit : Nat} {covers : Query → Nat → Bool}
    {queries : List Query} (h : Partitions request pageLimit covers queries)
    {page : List Query → Except HistoryError (List Candle)}
    (hPage : ∀ query ∈ queries, ∀ asked, ∃ found, page (query :: asked) = .ok found ∧
      found.Perm (held.filter fun c => covers query c.startTimeMs)) :
    ∃ all, askAll page [] [] queries = .ok all ∧
      all.Perm (window held request.startTimeMs request.endTimeMs) := by
  obtain ⟨all, hAll, hPerm⟩ := askAll_collects hPage [] []
  refine ⟨all, hAll, hPerm.trans ?_⟩
  rw [List.nil_append]
  refine flatMap_perm fun c hc => ?_
  rw [h.once c.startTimeMs (hAligned c hc)]
  simp only [decide_eq_true_eq]

variable (hEnd : request.endTimeMs ≤ u64Max)

include hEnd

/-- KuCoin's windows collect the candles of the range, in whatever order. -/
theorem fetchKucoin_collects (hFaithful : KucoinFaithful client request.symbol held) :
    ∃ all, client.fetchKucoin request = .ok all ∧
      all.Perm (window held request.startTimeMs request.endTimeMs) := by
  rw [fetchKucoin_eq request hEnd]
  refine (kucoinQueries_partition request).collects request hAligned fun query hQuery asked => ?_
  obtain ⟨w, -, rfl⟩ := List.mem_map.mp hQuery
  obtain ⟨body, message, rows, page, hGet, hHeader, hResponse, hRows, hPerm⟩ :=
    hFaithful ⟨request.symbol, "60".toList, w.1, w.2 - 1⟩ asked rfl rfl
  refine ⟨page, ?_, hPerm⟩
  have hParse := mapM_eq_ok hRows
  unfold parseKucoin
  simpa only [hGet, hHeader, hResponse, ok_bind, ne_eq, not_true, if_false] using hParse

theorem fetchMexc_collects (hFaithful : MexcFaithful client request.symbol held) :
    ∃ all, client.fetchMexc request = .ok all ∧
      all.Perm (window held request.startTimeMs request.endTimeMs) := by
  obtain ⟨serverTime, hTime, hPos, hKlines⟩ := hFaithful
  rw [fetchMexc_eq request hEnd, hTime, ok_bind]
  simp only [parseMexcServerTime, hPos, Bool.not_true, Bool.false_or, ne_eq, not_true, decide_false,
    Bool.false_eq_true, if_false, ok_bind]
  refine (mexcQueries_partition request).collects request hAligned fun query hQuery asked => ?_
  obtain ⟨w, -, rfl⟩ := List.mem_map.mp hQuery
  obtain ⟨data, hParallel, page, hGet, hRows, hPerm⟩ :=
    hKlines ⟨request.symbol, "Min1".toList, w.1 / 1000, (w.2 - candleIntervalMs) / 1000⟩ asked
      rfl rfl
  refine ⟨page, ?_, hPerm⟩
  rw [hGet, ok_bind, parseMexc, if_neg (by simp), parallel_eq_ok hParallel]
  exact mapM_eq_ok hRows

theorem fetchBingx_collects (hFaithful : BingxFaithful client request.symbol held) :
    ∃ all, client.fetchBingx request = .ok all ∧
      all.Perm (window held request.startTimeMs request.endTimeMs) := by
  obtain ⟨serverTime, message, hTime, hPos, hKlines⟩ := hFaithful
  rw [fetchBingx_eq request hEnd, hTime, ok_bind]
  simp only [parseBingxServerTime, hPos, ne_eq, not_true, if_false, ok_bind]
  refine (bingxQueries_partition request).collects request hAligned fun query hQuery asked => ?_
  obtain ⟨w, -, rfl⟩ := List.mem_map.mp hQuery
  obtain ⟨rows, message, page, hGet, hRows, hPerm⟩ :=
    hKlines ⟨request.symbol, "1m".toList, w.1, w.2 - 1, (w.2 - w.1) / candleIntervalMs⟩ asked
      rfl rfl
  refine ⟨page, ?_, hPerm⟩
  rw [hGet, ok_bind, parseBingx, if_neg (not_not_intro rfl)]
  exact mapM_eq_ok hRows

end Venues

/-- **Windows.** The queries for KuCoin, MEXC and BingX history partition the
minutes of the range, within the page limits and the cap on pages; a venue that
answers them from valid, minute-aligned candles with distinct starts gives the
earliest candles of the range, in order, up to the limit. -/
theorem fetch_windows [RustDecimal] [Unicode] (request : HistoryRequest)
    (hEnd : request.endTimeMs ≤ u64Max) :
    (Partitions request kucoinPageLimit KucoinQuery.covers (kucoinQueries request) ∧
      Partitions request mexcPageLimit MexcQuery.covers (mexcQueries request) ∧
      Partitions request bingxPageLimit BingxQuery.covers (bingxQueries request) ∧
      ∀ query ∈ bingxQueries request, query.limit ≤ bingxPageLimit ∧
        query.endTime + 1 = query.startTime + query.limit * candleIntervalMs) ∧
    (∀ client : HistoryClient,
      client.fetchKucoin request =
        askAll (fun asked => do parseKucoin (← client.kucoin asked)) [] [] (kucoinQueries request) ∧
      client.fetchMexc request = (do
        let serverTimeMs ← parseMexcServerTime (← client.mexcTime)
        askAll (fun asked => do parseMexc (← client.mexc asked) serverTimeMs) [] []
          (mexcQueries request)) ∧
      client.fetchBingx request = (do
        let serverTimeMs ← parseBingxServerTime (← client.bingxTime)
        askAll (fun asked => do parseBingx (← client.bingx asked) serverTimeMs) [] []
          (bingxQueries request))) ∧
    ∀ (client : HistoryClient) (unstable : UnstableSort) (held : List Candle),
      (∀ c ∈ held, c.validate = .ok ()) → (∀ c ∈ held, candleIntervalMs ∣ c.startTimeMs) →
      (held.map Candle.startTimeMs).Nodup →
      (request.provider = .kucoin → KucoinFaithful client request.symbol held →
        client.fetch unstable request = .ok (earliest request held)) ∧
      (request.provider = .mexc → MexcFaithful client request.symbol held →
        client.fetch unstable request = .ok (earliest request held)) ∧
      (request.provider = .bingx → BingxFaithful client request.symbol held →
        client.fetch unstable request = .ok (earliest request held)) := by
  refine ⟨⟨kucoinQueries_partition request, mexcQueries_partition request,
    bingxQueries_partition request, bingxQueries_limit request⟩,
    fun client => ⟨fetchKucoin_eq request hEnd client, fetchMexc_eq request hEnd client,
      fetchBingx_eq request hEnd client⟩, ?_⟩
  intro client unstable held hValid hAligned hDistinct
  -- a valid candle lasts a minute
  have hMinute : ∀ c ∈ held, c.endTimeMs = c.startTimeMs + candleIntervalMs :=
    fun c hc => validate_minute (hValid c hc)
  refine ⟨fun hProvider hFaithful => ?_, fun hProvider hFaithful => ?_,
    fun hProvider hFaithful => ?_⟩
  · obtain ⟨all, hAll, hPerm⟩ := fetchKucoin_collects request hAligned hEnd hFaithful
    simp only [HistoryClient.fetch, hProvider, hAll, ok_bind]
    exact finishResult_spec unstable request hDistinct hAligned hMinute hPerm
  · obtain ⟨all, hAll, hPerm⟩ := fetchMexc_collects request hAligned hEnd hFaithful
    simp only [HistoryClient.fetch, hProvider, hAll, ok_bind]
    exact finishResult_spec unstable request hDistinct hAligned hMinute hPerm
  · obtain ⟨all, hAll, hPerm⟩ := fetchBingx_collects request hAligned hEnd hFaithful
    simp only [HistoryClient.fetch, hProvider, hAll, ok_bind]
    exact finishResult_spec unstable request hDistinct hAligned hMinute hPerm

section Sample

local instance windowDecimal : RustDecimal := RustDecimal.digits
local instance windowUnicode : Unicode := Unicode.ascii

/-- The range asked of KuCoin. -/
def kucoinSample : HistoryRequest := sampleRequest .kucoin "XBTUSDTM".toList rfl rfl
/-- The same range asked of MEXC. -/
def mexcSample : HistoryRequest := sampleRequest .mexc "BTC_USDT".toList rfl rfl
/-- The same range asked of BingX. -/
def bingxSample : HistoryRequest := sampleRequest .bingx "BTC-USDT".toList rfl rfl

/-- Candles at the first minute and two thousand minutes later, which no venue has
in one window, with what a venue says of them. -/
def windowHeld (baseVolume quoteVolume contractVolume : Option DecimalValue)
    (finality : CandleFinality) (dataQuality : List DataQuality) : List Candle :=
  [60000, 120060000].map fun startTimeMs =>
    ⟨"1m".toList, startTimeMs, startTimeMs + 60000, ⟨"5".toList⟩, ⟨"5".toList⟩, ⟨"5".toList⟩,
      ⟨"5".toList⟩, baseVolume, quoteVolume, contractVolume, finality, dataQuality⟩

/-- The candles KuCoin holds: it leaves the finality open and its volumes are
not trusted. -/
def kucoinHeld : List Candle := windowHeld none none none .unknown [.providerVolumeUntrusted]

/-- The candles MEXC holds, with quote and contract volumes. -/
def mexcHeld : List Candle :=
  windowHeld none (some ⟨"0".toList⟩) (some ⟨"0".toList⟩) .closed []

/-- The candles BingX holds, with base volumes. -/
def bingxHeld : List Candle := windowHeld (some ⟨"0".toList⟩) none none .closed []

/-- A number in the text of an answer. -/
def bareCell (text : String) : RawValue := .bare text.toList

/-- The parallel arrays of a page. -/
def mexcData (page : List Candle) : MexcHistoryData where
  time := page.map fun c => .bare (Text.ofNat (c.startTimeMs / 1000))
  openPrice := page.map fun _ => bareCell "5"
  close := page.map fun _ => bareCell "5"
  high := page.map fun _ => bareCell "5"
  low := page.map fun _ => bareCell "5"
  vol := page.map fun _ => bareCell "0"
  amount := page.map fun _ => bareCell "0"

/-- The columns of a page are equally long. -/
theorem mexcData_parallel (page : List Candle) : (mexcData page).Parallel := by
  constructor <;> simp [mexcData]

/-- Three venues that answer every query from the held candles, and no others. -/
def windowClient : HistoryClient where
  bybit _ := .error (.transport .bybit [])
  binanceTime := .error (.transport .binance [])
  binance _ := .error (.transport .binance [])
  okx _ := .error (.transport .okx [])
  kucoin asked := match asked with
    | [] => .error (.transport .kucoin [])
    | query :: _ =>
      let page := kucoinHeld.filter fun c => query.covers c.startTimeMs
      .ok ⟨.ok ⟨"200000".toList, []⟩, .ok ⟨"200000".toList, page.map fun c =>
        .bare (Text.ofNat c.startTimeMs) :: ["5", "5", "5", "5", "0", "0"].map bareCell⟩⟩
  mexcTime := .ok ⟨true, 0, 300000000⟩
  mexc asked := match asked with
    | [] => .error (.transport .mexc [])
    | query :: _ =>
      let page := mexcHeld.filter fun c => query.covers c.startTimeMs
      .ok ⟨true, 0, mexcData page⟩
  bingxTime := .ok ⟨0, [], 300000000⟩
  bingx asked := match asked with
    | [] => .error (.transport .bingx [])
    | query :: _ =>
      let page := bingxHeld.filter fun c => query.covers c.startTimeMs
      .ok ⟨0, [], page.map fun c => .object (.ok ⟨bareCell "5", bareCell "5", bareCell "5",
        bareCell "5", bareCell "0", .bare (Text.ofNat c.startTimeMs)⟩)⟩

/-- The sample client answers as KuCoin does. -/
theorem windowClient_kucoin : KucoinFaithful windowClient kucoinSample.symbol kucoinHeld := by
  rintro query asked - -
  refine ⟨_, _, _, _, rfl, rfl, rfl, ?_, List.Perm.refl _⟩
  rw [List.map_map]
  have hAll : ∀ c ∈ kucoinHeld, parseKucoinRow (.bare (Text.ofNat c.startTimeMs) ::
      ["5", "5", "5", "5", "0", "0"].map bareCell) = .ok c := by decide
  exact List.map_congr_left fun c hc => hAll c (List.mem_of_mem_filter hc)

theorem windowClient_bingx : BingxFaithful windowClient bingxSample.symbol bingxHeld := by
  refine ⟨300000000, [], rfl, by decide, ?_⟩
  rintro query asked - -
  refine ⟨_, _, _, rfl, ?_, List.Perm.refl _⟩
  rw [List.map_map]
  have hAll : ∀ c ∈ bingxHeld, parseBingxRow (.object (.ok ⟨bareCell "5", bareCell "5",
      bareCell "5", bareCell "5", bareCell "0", .bare (Text.ofNat c.startTimeMs)⟩)) 300000000 =
      .ok c := by decide +kernel
  exact List.map_congr_left fun c hc => hAll c (List.mem_of_mem_filter hc)

theorem windowClient_mexc : MexcFaithful windowClient mexcSample.symbol mexcHeld := by
  refine ⟨300000000, rfl, by decide, ?_⟩
  rintro query asked - -
  refine ⟨_, mexcData_parallel _, mexcHeld.filter fun c => query.covers c.startTimeMs, rfl, ?_,
    List.Perm.refl _⟩
  have hPage : ∀ page ∈ mexcHeld.sublists, (List.finRange (mexcData page).time.length).map
      (parseMexcRow (mexcData page) (mexcData_parallel page) 300000000) = page.map .ok := by
    decide +kernel
  exact hPage _ (List.mem_sublists.mpr List.filter_sublist)

/-- Ranges of several windows: five at KuCoin, two at MEXC and at BingX. -/
theorem fetch_windows_windowClient :
    windowClient.fetch insertionByStart kucoinSample = .ok (earliest kucoinSample kucoinHeld) ∧
    windowClient.fetch insertionByStart mexcSample = .ok (earliest mexcSample mexcHeld) ∧
    windowClient.fetch insertionByStart bingxSample = .ok (earliest bingxSample bingxHeld) :=
  ⟨((fetch_windows kucoinSample (by decide)).2.2 windowClient insertionByStart kucoinHeld
      (by decide +kernel) (by decide +kernel) (by decide +kernel)).1 rfl windowClient_kucoin,
    ((fetch_windows mexcSample (by decide)).2.2 windowClient insertionByStart mexcHeld
      (by decide +kernel) (by decide +kernel) (by decide +kernel)).2.1 rfl windowClient_mexc,
    ((fetch_windows bingxSample (by decide)).2.2 windowClient insertionByStart bingxHeld
      (by decide +kernel) (by decide +kernel) (by decide +kernel)).2.2 rfl windowClient_bingx⟩

end Sample

end MarketStreamGateway.History
