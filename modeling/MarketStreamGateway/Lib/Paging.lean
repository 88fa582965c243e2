import Mathlib.Data.List.Sort
import Mathlib.Order.OrderDual

/-!
# Pages of a keyed collection

A server holds a list of items with distinct keys and answers with the first
`n` of them in the order of their keys, in whatever order it lists a page.
`arrange` puts a list in the order of the keys, `firstOf` cuts it. To page from
the other end, take the keys in the dual order.

The rule for a client that follows a cursor is `firstOf_split`: what a page
leaves behind is what lies beyond its last key.
-/

namespace MarketStreamGateway.Lib

variable {α κ : Type*} [LinearOrder κ] (key : α → κ)

/-- The list in ascending order of the keys. -/
def arrange (l : List α) : List α := l.insertionSort fun a b => key a ≤ key b

/-- The first `n` items in the order of the keys. -/
def firstOf (n : Nat) (l : List α) : List α := (arrange key l).take n

/-- Arranging a list loses nothing. -/
theorem arrange_perm (l : List α) : (arrange key l).Perm l := List.perm_insertionSort _ _

/-- The keys of an arranged list ascend. -/
theorem arrange_pairwise (l : List α) : (arrange key l).Pairwise fun a b => key a ≤ key b :=
  have : Std.Total (fun a b => key a ≤ key b) := ⟨fun _ _ => le_total _ _⟩
  have : IsTrans α (fun a b => key a ≤ key b) := ⟨fun _ _ _ => le_trans⟩
  List.pairwise_insertionSort _ _

variable {key}

/-- Distinct keys are in strictly ascending order. -/
theorem arrange_strict {l : List α} (hNodup : (l.map key).Nodup) :
    (arrange key l).Pairwise fun a b => key a < key b := by
  have hKeys : ((arrange key l).map key).Nodup :=
    ((arrange_perm key l).map key).nodup_iff.mpr hNodup
  rw [List.Nodup, List.pairwise_map] at hKeys
  refine ((arrange_pairwise key l).and hKeys).imp ?_
  rintro a b ⟨hLe, hNe⟩
  exact lt_of_le_of_ne hLe hNe

/-- With distinct keys there is one ascending arrangement. -/
theorem eq_arrange_of_perm {l l' : List α} (hNodup : (l.map key).Nodup) (hPerm : l'.Perm l)
    (hSorted : l'.Pairwise fun a b => key a ≤ key b) : l' = arrange key l := by
  refine List.Perm.eq_of_pairwise ?_ hSorted (arrange_pairwise key l)
    (hPerm.trans (arrange_perm key l).symm)
  intro a b ha hb hab hba
  exact List.inj_on_of_nodup_map hNodup (hPerm.subset ha) ((arrange_perm key l).subset hb)
    (le_antisymm hab hba)

section Page

variable {n : Nat} {l page : List α} (hPage : page.Perm (firstOf key n l))

include hPage

/-- A page is as long as asked for, or as long as the list. -/
theorem page_length : page.length = min n l.length := by
  rw [hPage.length_eq, firstOf, List.length_take, (arrange_perm key l).length_eq]

/-- A page holds items of the list. -/
theorem page_subset : page ⊆ l := fun _ ha =>
  (arrange_perm key l).subset (List.take_subset _ _ (hPage.subset ha))

/-- A short page is everything there is. -/
theorem page_perm_of_short (hShort : page.length < n) : page.Perm l := by
  have hLength := page_length hPage
  have hTake : firstOf key n l = arrange key l := by
    rw [firstOf, List.take_of_length_le]
    rw [(arrange_perm key l).length_eq]
    omega
  rw [hTake] at hPage
  exact hPage.trans (arrange_perm key l)

/-- What a page leaves behind is what lies beyond its last key. -/
theorem firstOf_split (hNodup : (l.map key).Nodup) {m : κ} (hMem : ∃ a ∈ page, key a = m)
    (hLast : ∀ a ∈ page, key a ≤ m) : l.Perm (page ++ l.filter fun a => m < key a) := by
  have hSplit := List.take_append_drop n (arrange key l)
  have hStrict := arrange_strict hNodup
  rw [← hSplit, List.pairwise_append] at hStrict
  obtain ⟨-, -, hCross⟩ := hStrict
  -- the page ends at its largest key, and the rest begins behind it
  have hTake : ((arrange key l).take n).filter (fun a => m < key a) = [] := by
    refine List.filter_eq_nil_iff.mpr fun a ha => ?_
    simpa using hLast a (hPage.symm.subset ha)
  have hDrop : ((arrange key l).drop n).filter (fun a => m < key a) = (arrange key l).drop n := by
    refine List.filter_eq_self.mpr fun b hb => ?_
    obtain ⟨a, ha, rfl⟩ := hMem
    exact decide_eq_true (hCross a (hPage.subset ha) b hb)
  have hRest : (l.filter fun a => m < key a).Perm ((arrange key l).drop n) := by
    refine ((arrange_perm key l).symm.filter _).trans ?_
    rw [← hSplit, List.filter_append, hTake, hDrop, List.nil_append, hSplit]
  calc l.Perm (arrange key l) := (arrange_perm key l).symm
    _ = firstOf key n l ++ (arrange key l).drop n := hSplit.symm
    List.Perm _ (page ++ l.filter fun a => m < key a) := hPage.symm.append hRest.symm

end Page

end MarketStreamGateway.Lib
