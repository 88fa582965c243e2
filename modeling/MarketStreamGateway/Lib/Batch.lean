import Mathlib.Data.Finset.Basic
import Mathlib.Data.Finset.Dedup

/-!
# Batches

Three loops that turn a list of items into a list of requests: collecting the
items once each (`pushAll`), cutting them into runs of bounded length
(`chunks`), and issuing a request for each run from a state that is passed
along (`issue`), which may number them (`issue_numbered`).
-/

namespace MarketStreamGateway.Lib

variable {α β γ σ : Type*}

/-! ## Collecting items once -/

section Push

variable [DecidableEq α]

/-- Append an item that was not seen yet. -/
def pushNew (items : List α) (a : α) : List α := if a ∈ items then items else items ++ [a]

/-- Add several items, each of them once. -/
def pushAll (items : List α) (new : List α) : List α := new.foldl pushNew items

@[simp] theorem mem_pushNew {items : List α} {a b : α} :
    b ∈ pushNew items a ↔ b ∈ items ∨ b = a := by
  unfold pushNew
  split
  · next h =>
    constructor
    · exact Or.inl
    · rintro (hb | rfl)
      · exact hb
      · exact h
  · simp

/-- Collecting loses nothing and makes up nothing. -/
@[simp] theorem mem_pushAll {items new : List α} {b : α} :
    b ∈ pushAll items new ↔ b ∈ items ∨ b ∈ new := by
  induction new generalizing items with
  | nil => simp [pushAll]
  | cons a new ih =>
    rw [pushAll, List.foldl_cons, ← pushAll, ih]
    simp [or_assoc]

/-- Nothing is collected twice. -/
theorem pushAll_nodup {items : List α} (h : items.Nodup) (new : List α) :
    (pushAll items new).Nodup := by
  induction new generalizing items with
  | nil => exact h
  | cons a new ih =>
    refine ih ?_
    unfold pushNew
    split
    · exact h
    · next hNew =>
      refine List.nodup_append.mpr ⟨h, List.nodup_singleton a, fun b hb c hc hEq => hNew ?_⟩
      rwa [← List.mem_singleton.mp hc, ← hEq]

/-- Collecting round by round is collecting everything. -/
theorem foldl_pushAll (f : β → List α) (items : List α) (l : List β) :
    l.foldl (fun items b => pushAll items (f b)) items = pushAll items (l.flatMap f) := by
  induction l generalizing items with
  | nil => rfl
  | cons b l ih => rw [List.foldl_cons, ih, List.flatMap_cons, pushAll, pushAll, pushAll,
      List.foldl_append]

/-- Rendering what was collected is rendering it item by item. -/
theorem mem_map_collected {f : β → List α} {g : α → γ} {l : List β} {c : γ} :
    c ∈ (pushAll [] (l.flatMap f)).map g ↔ c ∈ l.flatMap fun b => (f b).map g := by
  simp only [List.mem_map, mem_pushAll, List.not_mem_nil, false_or, List.mem_flatMap]
  constructor
  · rintro ⟨a, ⟨b, hb, ha⟩, rfl⟩
    exact ⟨b, hb, a, ha, rfl⟩
  · rintro ⟨b, hb, a, ha, rfl⟩
    exact ⟨a, ⟨b, hb, ha⟩, rfl⟩

/-- Two rounds of collecting are one. -/
theorem pushAll_append (items new new' : List α) :
    pushAll items (new ++ new') = pushAll (pushAll items new) new' := List.foldl_append

/-- Nothing changes when everything is there already. -/
theorem pushAll_of_subset {items new : List α} (h : new ⊆ items) : pushAll items new = items := by
  induction new with
  | nil => rfl
  | cons a new ih =>
    obtain ⟨ha, hNew⟩ := List.cons_subset.mp h
    rw [pushAll, List.foldl_cons, pushNew, if_pos ha]
    exact ih hNew

/-- Items that are not among the first ones are collected apart from them. -/
theorem append_pushAll {first new : List α} (h : ∀ a ∈ new, a ∉ first) (items : List α) :
    pushAll (first ++ items) new = first ++ pushAll items new := by
  induction new generalizing items with
  | nil => rfl
  | cons a new ih =>
    have hNew : pushNew (first ++ items) a = first ++ pushNew items a := by
      unfold pushNew
      by_cases ha : a ∈ items
      · rw [if_pos ha, if_pos (List.mem_append_right _ ha)]
      · have hNot : a ∉ first ++ items := by
          rw [List.mem_append, not_or]
          exact ⟨h a List.mem_cons_self, ha⟩
        rw [if_neg ha, if_neg hNot, List.append_assoc]
    rw [pushAll, List.foldl_cons, hNew]
    exact ih (fun b hb => h b (List.mem_cons_of_mem a hb)) _

/-- Items that are new and distinct are appended. -/
theorem pushAll_of_nodup {items new : List α} (hNodup : new.Nodup) (h : ∀ a ∈ new, a ∉ items) :
    pushAll items new = items ++ new := by
  induction new generalizing items with
  | nil => exact (List.append_nil _).symm
  | cons a new ih =>
    obtain ⟨ha, hRest⟩ := List.nodup_cons.mp hNodup
    have hFresh : ∀ b ∈ new, b ∉ items ++ [a] := by
      intro b hb hOld
      rcases List.mem_append.mp hOld with hOld | hOld
      · exact h b (List.mem_cons_of_mem a hb) hOld
      · exact ha (List.mem_singleton.mp hOld ▸ hb)
    rw [pushAll, List.foldl_cons, pushNew, if_neg (h a List.mem_cons_self), ← pushAll,
      ih hRest hFresh, List.append_assoc, List.singleton_append]

/-- Renderings that share nothing render what was collected. -/
theorem flatMap_pushAll [DecidableEq γ] {g : α → List γ} (hNodup : ∀ a, (g a).Nodup)
    {items new : List α}
    (hApart : ∀ a ∈ items ++ new, ∀ b ∈ items ++ new, ∀ c ∈ g a, c ∈ g b → a = b) :
    (pushAll items new).flatMap g = pushAll (items.flatMap g) (new.flatMap g) := by
  induction new generalizing items with
  | nil => rfl
  | cons a new ih =>
    have hNew : (pushNew items a).flatMap g = pushAll (items.flatMap g) (g a) := by
      unfold pushNew
      by_cases ha : a ∈ items
      · rw [if_pos ha, pushAll_of_subset fun c hc => List.mem_flatMap.mpr ⟨a, ha, hc⟩]
      · -- what the item is expanded to belongs to no item before it
        have hFresh : ∀ c ∈ g a, c ∉ items.flatMap g := by
          intro c hc hOld
          obtain ⟨b, hb, hcb⟩ := List.mem_flatMap.mp hOld
          exact ha (hApart b (List.mem_append_left _ hb) a (by simp) c hcb hc ▸ hb)
        rw [if_neg ha, List.flatMap_append, List.flatMap_singleton,
          pushAll_of_nodup (hNodup a) hFresh]
    have hSub : ∀ b ∈ pushNew items a ++ new, b ∈ items ++ a :: new := by
      intro b hb
      simp only [List.mem_append, mem_pushNew, List.mem_cons] at hb ⊢
      rwa [or_assoc] at hb
    rw [List.flatMap_cons, pushAll_append, ← hNew]
    exact ih fun b hb c hc => hApart b (hSub b hb) c (hSub c hc)

/-- A rendering that tells the items apart renders what was collected. -/
theorem map_pushAll [DecidableEq γ] {g : α → γ} {items new : List α}
    (hApart : ∀ a ∈ items ++ new, ∀ b ∈ items ++ new, g a = g b → a = b) :
    (pushAll items new).map g = pushAll (items.map g) (new.map g) := by
  simp only [List.map_eq_flatMap]
  refine flatMap_pushAll (fun a => List.nodup_singleton _) fun a ha b hb c hca hcb => ?_
  exact hApart a ha b hb ((List.mem_singleton.mp hca).symm.trans (List.mem_singleton.mp hcb))

end Push

/-! ## Runs of bounded length -/

/-- `slice::chunks`; `fuel` bounds the number of runs. -/
def chunksWith (n : Nat) : Nat → List α → List (List α)
  | 0, _ => []
  | _, [] => []
  | fuel + 1, a :: l => (a :: l).take n :: chunksWith n fuel ((a :: l).drop n)

/-- Cut a list into runs of `n`, the last one shorter. -/
def chunks (n : Nat) (l : List α) : List (List α) := chunksWith n l.length l

/-- The runs, put together, are the list. -/
theorem chunksWith_flatten {n fuel : Nat} (hn : 0 < n) {l : List α} (hFuel : l.length ≤ fuel) :
    (chunksWith n fuel l).flatten = l := by
  induction fuel generalizing l with
  | zero =>
    rw [List.length_eq_zero_iff.mp (Nat.le_zero.mp hFuel)]
    rfl
  | succ fuel ih =>
    cases l with
    | nil => rfl
    | cons a l =>
      rw [chunksWith, List.flatten_cons, ih, List.take_append_drop]
      rw [List.length_drop]
      rw [List.length_cons] at hFuel ⊢
      omega

/-- The runs make up the list. -/
theorem chunks_flatten {n : Nat} (hn : 0 < n) (l : List α) : (chunks n l).flatten = l :=
  chunksWith_flatten hn le_rfl

/-- A run is a non-empty part of the list. -/
theorem mem_chunksWith {n fuel : Nat} (hn : 0 < n) {l run : List α}
    (h : run ∈ chunksWith n fuel l) : run ≠ [] ∧ run ⊆ l := by
  induction fuel generalizing l with
  | zero => simp [chunksWith] at h
  | succ fuel ih =>
    cases l with
    | nil => simp [chunksWith] at h
    | cons a l =>
      rw [chunksWith, List.mem_cons] at h
      rcases h with rfl | h
      · refine ⟨?_, List.take_subset _ _⟩
        rw [ne_eq, List.take_eq_nil_iff]
        simp [Nat.pos_iff_ne_zero.mp hn]
      · obtain ⟨hSome, hSubset⟩ := ih h
        exact ⟨hSome, fun b hb => List.drop_subset _ _ (hSubset hb)⟩

/-- No run is empty. -/
theorem mem_chunks {n : Nat} (hn : 0 < n) {l run : List α} (h : run ∈ chunks n l) :
    run ≠ [] ∧ run ⊆ l :=
  mem_chunksWith hn h

/-- No run is longer than the bound. -/
theorem length_of_mem_chunks {n : Nat} {l run : List α} (h : run ∈ chunks n l) :
    run.length ≤ n := by
  have hWith : ∀ fuel (l : List α), run ∈ chunksWith n fuel l → run.length ≤ n := by
    intro fuel
    induction fuel with
    | zero => simp [chunksWith]
    | succ fuel ih =>
      intro l h
      cases l with
      | nil => simp [chunksWith] at h
      | cons a l =>
        rw [chunksWith, List.mem_cons] at h
        rcases h with rfl | h
        · exact List.length_take_le _ _
        · exact ih _ h
  exact hWith _ _ h

/-! ## Issuing requests -/

/-- Issue a request for every item, passing the state along. -/
def issue (request : σ → β → γ × σ) : σ → List β → List γ × σ
  | s, [] => ([], s)
  | s, b :: l =>
    let (r, s) := request s b
    let (rs, s) := issue request s l
    (r :: rs, s)

@[simp] theorem issue_nil (request : σ → β → γ × σ) (s : σ) : issue request s [] = ([], s) := rfl

/-- The first request is made first, the others from the state it left. -/
theorem issue_cons (request : σ → β → γ × σ) (s : σ) (b : β) (l : List β) :
    issue request s (b :: l) = ((request s b).1 :: (issue request (request s b).2 l).1,
      (issue request (request s b).2 l).2) := rfl

/-- What every request keeps of the state, issuing keeps. -/
theorem issue_field {δ : Type*} {request : σ → β → γ × σ} {f : σ → δ}
    (h : ∀ s b, f (request s b).2 = f s) (s : σ) (l : List β) : f (issue request s l).2 = f s := by
  induction l generalizing s with
  | nil => rfl
  | cons b l ih => exact (ih _).trans (h s b)

/-- What holds of every request made from a good state holds of all that are
issued, and the state stays good. -/
theorem issue_all {request : σ → β → γ × σ} {P : σ → Prop} {Q : γ → Prop}
    (h : ∀ s b, P s → Q (request s b).1 ∧ P (request s b).2) {s : σ} (hs : P s) (l : List β) :
    (∀ r ∈ (issue request s l).1, Q r) ∧ P (issue request s l).2 := by
  induction l generalizing s with
  | nil => exact ⟨by simp, hs⟩
  | cons b l ih =>
    obtain ⟨hFirst, hNext⟩ := h s b hs
    obtain ⟨hRest, hLast⟩ := ih hNext
    refine ⟨fun r hr => ?_, hLast⟩
    rcases List.mem_cons.mp hr with rfl | hr
    · exact hFirst
    · exact hRest r hr

/-- Every request that is issued is made for an item. -/
theorem mem_issue {request : σ → β → γ × σ} {s : σ} {l : List β} {r : γ}
    (h : r ∈ (issue request s l).1) : ∃ b ∈ l, ∃ s, (request s b).1 = r := by
  induction l generalizing s with
  | nil => simp at h
  | cons b l ih =>
    rw [issue_cons, List.mem_cons] at h
    rcases h with rfl | h
    · exact ⟨b, List.mem_cons_self, s, rfl⟩
    · obtain ⟨c, hc, hMade⟩ := ih h
      exact ⟨c, List.mem_cons_of_mem b hc, hMade⟩

/-- What a request holds is what its item holds, whatever the state. -/
theorem flatMap_issue {δ : Type*} {request : σ → β → γ × σ} {f : γ → List δ} {g : β → List δ}
    {l : List β} (h : ∀ s b, b ∈ l → f (request s b).1 = g b) (s : σ) :
    (issue request s l).1.flatMap f = l.flatMap g := by
  induction l generalizing s with
  | nil => rfl
  | cons b l ih =>
    rw [issue_cons, List.flatMap_cons, List.flatMap_cons, h s b List.mem_cons_self,
      ih fun s c hc => h s c (List.mem_cons_of_mem b hc)]

/-- Requests that take a number each take consecutive numbers. -/
theorem issue_numbered {δ : Type*} {request : σ → β → γ × σ} {C : Nat → σ → Prop}
    {id : γ → δ} {name : Nat → δ}
    (h : ∀ k s b, C k s → id (request s b).1 = name k ∧ C (k + 1) (request s b).2)
    {k : Nat} {s : σ} (hs : C k s) (l : List β) :
    (issue request s l).1.map id = (List.range' k l.length).map name ∧
      C (k + l.length) (issue request s l).2 := by
  induction l generalizing k s with
  | nil => exact ⟨rfl, hs⟩
  | cons b l ih =>
    obtain ⟨hId, hNext⟩ := h k s b hs
    obtain ⟨hIds, hLast⟩ := ih hNext
    rw [issue_cons, List.map_cons, hIds, hId, List.length_cons, List.range'_succ, List.map_cons]
    refine ⟨rfl, ?_⟩
    rwa [Nat.add_right_comm, Nat.add_assoc] at hLast

end MarketStreamGateway.Lib
