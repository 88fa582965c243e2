import MarketStreamGateway.HistoryPagination

/-!
# Market Stream Gateway — the result of a history request

`finish_result` sorts what was collected with an unstable sort and compares each
candle with the last one it kept. The candles of one start are neighbours then,
so a conflict is found whichever of them comes first.

* `dropDuplicates_spec` — the loop ends with one candle of each start, or at the
  lowest start with two different candles.
* `finishResult_exact` — the outcome as a function of the set of candles in the
  range, whatever their order.
-/

namespace MarketStreamGateway.History

open Lib

/-! ## Dropping duplicates -/

/-- Two different candles of one start. -/
def Conflicting (candles : List Candle) : Prop :=
  ∃ a ∈ candles, ∃ b ∈ candles, a.startTimeMs = b.startTimeMs ∧ a ≠ b

/-- The list has the candles of another one in strictly ascending order. -/
structure Ascending (candles kept : List Candle) : Prop where
  strict : kept.Pairwise fun a b => a.startTimeMs < b.startTimeMs
  mem : ∀ c, c ∈ kept ↔ c ∈ candles

/-- The lowest start with two different candles. -/
structure FirstConflict (candles : List Candle) (start : Nat) : Prop where
  conflict : ∃ a ∈ candles, ∃ b ∈ candles, a.startTimeMs = start ∧ b.startTimeMs = start ∧ a ≠ b
  lowest : ∀ a ∈ candles, ∀ b ∈ candles, a.startTimeMs = b.startTimeMs → a.startTimeMs < start →
    a = b

/-- The error of a conflict. -/
def conflictAt (provider : Provider) (start : Nat) : HistoryError :=
  .invalidPayload provider ("conflicting duplicate candle at ".toList ++ Text.ofNat start)

/-- Within an ascending outcome two candles of one start are the same candle. -/
theorem Ascending.eq_of_start {candles kept : List Candle} (h : Ascending candles kept)
    {a b : Candle} (ha : a ∈ candles) (hb : b ∈ candles) (hStart : a.startTimeMs = b.startTimeMs) :
    a = b := by
  have hNodup : (kept.map Candle.startTimeMs).Nodup := by
    rw [List.Nodup, List.pairwise_map]
    exact h.strict.imp fun hLt => hLt.ne
  exact List.inj_on_of_nodup_map hNodup ((h.mem a).mpr ha) ((h.mem b).mpr hb) hStart

/-- Candles that have an ascending outcome do not conflict. -/
theorem Ascending.not_conflicting {candles kept : List Candle} (h : Ascending candles kept) :
    ¬ Conflicting candles := by
  rintro ⟨a, ha, b, hb, hStart, hNe⟩
  exact hNe (h.eq_of_start ha hb hStart)

/-- There is one such arrangement. -/
theorem Ascending.unique {candles candles' kept kept' : List Candle} (h : Ascending candles kept)
    (h' : Ascending candles' kept') (hSame : ∀ c, c ∈ candles ↔ c ∈ candles') : kept = kept' := by
  have hNodup : kept.Nodup := h.strict.imp fun hLt hEq => absurd (congrArg _ hEq) hLt.ne
  have hNodup' : kept'.Nodup := h'.strict.imp fun hLt hEq => absurd (congrArg _ hEq) hLt.ne
  have hPerm : kept.Perm kept' := (List.perm_ext_iff_of_nodup hNodup hNodup').mpr fun c => by
    rw [h.mem, h'.mem, hSame]
  exact hPerm.eq_of_pairwise (fun a b _ _ hab hba => absurd (hab.trans hba) (lt_irrefl _))
    h.strict h'.strict

/-- The first conflict depends on the candles only, not on their order. -/
theorem FirstConflict.unique {candles candles' : List Candle} {start start' : Nat}
    (h : FirstConflict candles start) (h' : FirstConflict candles' start')
    (hSame : ∀ c, c ∈ candles ↔ c ∈ candles') : start = start' := by
  obtain ⟨a, ha, b, hb, hStart, hStart', hNe⟩ := h.conflict
  obtain ⟨a', ha', b', hb', hStarts, hStarts', hNe'⟩ := h'.conflict
  rcases lt_trichotomy start start' with hLt | hEq | hLt
  · exact absurd (h'.lowest a ((hSame a).mp ha) b ((hSame b).mp hb) (hStart.trans hStart'.symm)
      (hStart ▸ hLt)) hNe
  · exact hEq
  · exact absurd (h.lowest a' ((hSame a').mpr ha') b' ((hSame b').mpr hb')
      (hStarts.trans hStarts'.symm) (hStarts ▸ hLt)) hNe'

/-- What the loop has seen, and what it has kept of that. -/
theorem dropDuplicates_spec (provider : Provider) (seen unique rest : List Candle)
    (hUnique : Ascending seen unique)
    (hSorted : (seen ++ rest).Pairwise fun a b => a.startTimeMs ≤ b.startTimeMs) :
    (∃ kept, dropDuplicates provider unique rest = .ok kept ∧ Ascending (seen ++ rest) kept) ∨
    ∃ start, dropDuplicates provider unique rest = .error (conflictAt provider start) ∧
      FirstConflict (seen ++ rest) start := by
  induction rest generalizing seen unique with
  | nil =>
    rw [dropDuplicates, List.append_nil]
    exact .inl ⟨unique, rfl, hUnique⟩
  | cons candle rest ih =>
    have hNext : seen ++ candle :: rest = (seen ++ [candle]) ++ rest := by simp
    have hBelow : ∀ a ∈ unique, a.startTimeMs ≤ candle.startTimeMs := fun a ha =>
      (List.pairwise_append.mp hSorted).2.2 a ((hUnique.mem a).mp ha) candle List.mem_cons_self
    -- a candle above everything kept is kept
    have hAppend : (∀ a ∈ unique, a.startTimeMs < candle.startTimeMs) →
        Ascending (seen ++ [candle]) (unique ++ [candle]) := by
      intro hAbove
      refine ⟨?_, fun c => ?_⟩
      · rw [List.pairwise_append]
        refine ⟨hUnique.strict, List.pairwise_singleton _ _, fun a ha b hb => ?_⟩
        rw [List.mem_singleton.mp hb]
        exact hAbove a ha
      · rw [List.mem_append, List.mem_append, hUnique.mem]
    rw [hNext] at hSorted ⊢
    rw [dropDuplicates]
    split
    · next previous hPrevious =>
      have hKept : previous ∈ unique := List.mem_of_getLast? hPrevious
      split
      · next hSame =>
        split
        · next hNe =>
          refine .inr ⟨candle.startTimeMs, rfl, ⟨previous, ?_, candle, ?_, hSame, rfl, hNe⟩, ?_⟩
          · exact List.mem_append_left _ (List.mem_append_left _ ((hUnique.mem _).mp hKept))
          · exact List.mem_append_left _ (List.mem_append_right _ (List.mem_singleton_self _))
          · -- whatever starts below this candle was seen before it
            have hSeen : ∀ c ∈ seen ++ [candle] ++ rest, c.startTimeMs < candle.startTimeMs →
                c ∈ seen := by
              intro c hc hLt
              rcases List.mem_append.mp hc with hc | hc
              · rcases List.mem_append.mp hc with hc | hc
                · exact hc
                · rw [List.mem_singleton.mp hc] at hLt
                  exact absurd hLt (lt_irrefl _)
              · exact absurd hLt (not_lt.mpr ((List.pairwise_append.mp hSorted).2.2 candle
                  (List.mem_append_right _ (List.mem_singleton_self _)) c hc))
            intro a ha b hb hStart hLt
            exact hUnique.eq_of_start (hSeen a ha hLt) (hSeen b hb (hStart ▸ hLt)) hStart
        · next hEq =>
          obtain rfl := not_not.mp hEq
          refine ih _ _ ⟨hUnique.strict, fun c => ?_⟩ hSorted
          rw [List.mem_append, hUnique.mem, List.mem_singleton]
          exact ⟨.inl, fun h => h.elim id fun hc => hc ▸ (hUnique.mem _).mp hKept⟩
      · next hNe =>
        refine ih _ _ (hAppend fun a ha => ?_) hSorted
        -- the last one kept is the highest
        have hLast : a.startTimeMs ≤ previous.startTimeMs := by
          obtain ⟨before, rfl⟩ := List.getLast?_eq_some_iff.mp hPrevious
          rcases List.mem_append.mp ha with hBefore | hEq
          · exact ((List.pairwise_append.mp hUnique.strict).2.2 a hBefore previous
              (List.mem_singleton_self _)).le
          · rw [List.mem_singleton.mp hEq]
        exact lt_of_le_of_lt hLast (lt_of_le_of_ne (hBelow previous hKept) hNe)
    · next hNone =>
      refine ih _ _ (hAppend fun a ha => ?_) hSorted
      rw [List.getLast?_eq_none_iff.mp hNone] at ha
      exact absurd ha List.not_mem_nil

/-- A first conflict is a conflict. -/
theorem FirstConflict.conflicting {candles : List Candle} {start : Nat}
    (h : FirstConflict candles start) : Conflicting candles := by
  obtain ⟨a, ha, b, hb, hStart, hStart', hNe⟩ := h.conflict
  exact ⟨a, ha, b, hb, hStart.trans hStart'.symm, hNe⟩

/-- As many candles are kept as there are different starts. -/
theorem Ascending.length {candles kept : List Candle} (h : Ascending candles kept) :
    kept.length = (candles.map Candle.startTimeMs).toFinset.card := by
  have hNodup : (kept.map Candle.startTimeMs).Nodup := by
    rw [List.Nodup, List.pairwise_map]
    exact h.strict.imp fun hLt => hLt.ne
  have hSame : (candles.map Candle.startTimeMs).toFinset =
      (kept.map Candle.startTimeMs).toFinset := by
    ext start
    simp [h.mem]
  rw [hSame, List.toFinset_card_of_nodup hNodup, List.length_map]

/-! ## The result -/

section Result

variable [Unicode]

/-- The candles of the range. -/
def retained (request : HistoryRequest) (candles : List Candle) : List Candle :=
  candles.filter fun candle =>
    request.startTimeMs ≤ candle.startTimeMs && candle.endTimeMs ≤ request.endTimeMs

/-- The result that shows the first candles of a list, up to the limit. -/
def resultOf (request : HistoryRequest) (kept : List Candle) : HistoryResult :=
  ⟨request.provider, .linearPerpetual, request.symbol, request.startTimeMs, request.endTimeMs,
    (kept.take request.limit).map fun candle =>
      ⟨request.provider, .linearPerpetual, request.symbol, candle⟩⟩

/-- The result shows the kept candles up to the limit, in their order. -/
theorem resultOf_candles (request : HistoryRequest) (kept : List Candle) :
    (resultOf request kept).candles.map HistoryCandle.candle = kept.take request.limit := by
  rw [resultOf, List.map_map]
  exact List.map_id _

/-- The result is made of ascending candles or names the first conflict. -/
theorem finishResult_cases (unstable : UnstableSort) (request : HistoryRequest)
    (candles : List Candle) :
    (∃ kept, finishResult unstable request candles = .ok (resultOf request kept) ∧
      Ascending (retained request candles) kept) ∨
    ∃ start, finishResult unstable request candles = .error (conflictAt request.provider start) ∧
      FirstConflict (retained request candles) start := by
  -- sorting neither adds candles nor drops any
  have hMem : ∀ c, c ∈ unstable.sort (retained request candles) ↔ c ∈ retained request candles :=
    fun c => (unstable.perm _).mem_iff
  rcases dropDuplicates_spec request.provider [] []
    (unstable.sort (retained request candles)) ⟨List.Pairwise.nil, fun _ => Iff.rfl⟩
    (unstable.sorted _) with ⟨kept, hKept, hAscending⟩ | ⟨start, hError, hFirst⟩
  · refine .inl ⟨kept, ?_, hAscending.strict, fun c => (hAscending.mem c).trans (hMem c)⟩
    simp only [finishResult]
    rw [show (candles.filter fun candle => request.startTimeMs ≤ candle.startTimeMs &&
      candle.endTimeMs ≤ request.endTimeMs) = retained request candles from rfl, hKept]
    rfl
  · refine .inr ⟨start, ?_, ?_, fun a ha b hb => hFirst.lowest a ((hMem a).mpr ha) b
      ((hMem b).mpr hb)⟩
    · simp only [finishResult]
      rw [show (candles.filter fun candle => request.startTimeMs ≤ candle.startTimeMs &&
        candle.endTimeMs ≤ request.endTimeMs) = retained request candles from rfl, hError]
      rfl
    · obtain ⟨a, ha, b, hb, hStarts⟩ := hFirst.conflict
      exact ⟨a, (hMem a).mp ha, b, (hMem b).mp hb, hStarts⟩

/-- Candles of the same set have the same outcome. -/
theorem finishResult_congr (unstable unstable' : UnstableSort) (request : HistoryRequest)
    {candles candles' : List Candle} (hPerm : candles'.Perm candles) :
    finishResult unstable' request candles' = finishResult unstable request candles := by
  have hSame : ∀ c, c ∈ retained request candles' ↔ c ∈ retained request candles :=
    fun c => (hPerm.filter _).mem_iff
  rcases finishResult_cases unstable request candles with ⟨kept, hOk, hKept⟩ | ⟨start, hErr, hFirst⟩
  · rcases finishResult_cases unstable' request candles' with
      ⟨kept', hOk', hKept'⟩ | ⟨start', -, hFirst'⟩
    · rw [hOk, hOk', hKept'.unique hKept hSame]
    · obtain ⟨a, ha, b, hb, hStart, hNe⟩ := hFirst'.conflicting
      exact absurd ⟨a, (hSame a).mp ha, b, (hSame b).mp hb, hStart, hNe⟩ hKept.not_conflicting
  · rcases finishResult_cases unstable' request candles' with
      ⟨kept', -, hKept'⟩ | ⟨start', hErr', hFirst'⟩
    · obtain ⟨a, ha, b, hb, hStart, hNe⟩ := hFirst.conflicting
      exact absurd ⟨a, (hSame a).mpr ha, b, (hSame b).mpr hb, hStart, hNe⟩ hKept'.not_conflicting
    · rw [hErr, hErr', hFirst'.unique hFirst hSame]

/-- A result that is fed back comes out again. -/
theorem finishResult_idem (unstable unstable' : UnstableSort) (request : HistoryRequest)
    {candles : List Candle} {result : HistoryResult}
    (h : finishResult unstable request candles = .ok result) :
    finishResult unstable' request (result.candles.map HistoryCandle.candle) = .ok result := by
  rcases finishResult_cases unstable request candles with ⟨kept, hOk, hKept⟩ | ⟨start, hErr, -⟩
  · obtain rfl := Except.ok.inj (h.symm.trans hOk)
    rw [resultOf_candles]
    have hRetained : retained request (kept.take request.limit) = kept.take request.limit := by
      refine List.filter_eq_self.mpr fun c hc => ?_
      exact (List.mem_filter.mp ((hKept.mem c).mp (List.take_subset _ _ hc))).2
    -- a part of an ascending list is ascending, so it has no conflict
    have hTake : Ascending (kept.take request.limit) (kept.take request.limit) :=
      ⟨hKept.strict.sublist (List.take_sublist _ _), fun _ => Iff.rfl⟩
    rcases finishResult_cases unstable' request (kept.take request.limit) with
      ⟨kept', hOk', hKept'⟩ | ⟨start, -, hFirst⟩
    · rw [hRetained] at hKept'
      rw [hOk', hKept'.unique hTake fun _ => Iff.rfl]
      simp only [resultOf, List.take_take, min_self]
    · rw [hRetained] at hFirst
      exact absurd hFirst.conflicting hTake.not_conflicting
  · rw [hErr] at h
    cases h

/-- The outcome of `finish_result`: an error exactly for a conflict in the range,
else the earliest candles of distinct start; it depends on the candles only, not
on their order or the order the sort leaves, and is a fixed point. -/
theorem finishResult_exact (request : HistoryRequest) (candles : List Candle)
    (unstable unstable' : UnstableSort) :
    ((∃ error, finishResult unstable request candles = .error error) ↔
      Conflicting (retained request candles)) ∧
    (¬ Conflicting (retained request candles) → ∃ kept,
      finishResult unstable request candles = .ok (resultOf request kept) ∧
      Ascending (retained request candles) kept ∧
      (resultOf request kept).candles.length =
        min request.limit ((retained request candles).map Candle.startTimeMs).toFinset.card) ∧
    (∀ candles', candles'.Perm candles →
      finishResult unstable' request candles' = finishResult unstable request candles) ∧
    (∀ result, finishResult unstable request candles = .ok result →
      finishResult unstable' request (result.candles.map HistoryCandle.candle) = .ok result) := by
  refine ⟨?_, ?_, fun candles' => finishResult_congr unstable unstable' request,
    fun result => finishResult_idem unstable unstable' request⟩
  · rcases finishResult_cases unstable request candles with ⟨kept, hOk, hKept⟩ |
      ⟨start, hErr, hFirst⟩
    · refine ⟨fun ⟨error, hError⟩ => ?_, fun hConflict => absurd hConflict hKept.not_conflicting⟩
      rw [hOk] at hError
      cases hError
    · exact ⟨fun _ => hFirst.conflicting, fun _ => ⟨_, hErr⟩⟩
  · -- without a conflict as many starts are kept as there are, up to the limit
    intro hNone
    rcases finishResult_cases unstable request candles with ⟨kept, hOk, hKept⟩ | ⟨start, -, hFirst⟩
    · refine ⟨kept, hOk, hKept, ?_⟩
      rw [resultOf, List.length_map, List.length_take, hKept.length]
    · exact absurd hFirst.conflicting hNone

end Result

end MarketStreamGateway.History
