import Mathlib.Data.Finset.Sort
import Mathlib.Data.Finmap

/-!
# Ordered iteration over finite sets, and lookups in finite maps

`iter s` lists a finite set in ascending order, each member once. It is
`Finset.sort`, computed by insertion so that closed instances reduce in the
kernel. The second half adds to `Finmap` the lookup equations in `if` form
that the proofs about stores rewrite with.
-/

namespace MarketStreamGateway.Lib

/-! ## Ascending iteration -/

section Iter

variable {α : Type*} [LinearOrder α]

/-- The members of `s` in ascending order. -/
def iter (s : Finset α) : List α :=
  Quot.liftOn s.val (fun l => l.insertionSort (· ≤ ·)) fun _ _ h =>
    List.Perm.eq_of_pairwise' (List.pairwise_insertionSort _ _)
      (List.pairwise_insertionSort _ _)
      (((List.perm_insertionSort _ _).trans h).trans (List.perm_insertionSort _ _).symm)

/-- The iteration is the sorted list of the elements. -/
theorem iter_eq_sort (s : Finset α) : iter s = s.sort (· ≤ ·) := by
  obtain ⟨⟨l⟩, hl⟩ := s
  refine List.Perm.eq_of_pairwise' (r := (· ≤ ·)) (List.pairwise_insertionSort _ _)
    (Finset.pairwise_sort _ _) ?_
  refine (List.perm_insertionSort _ _).trans ?_
  exact Multiset.coe_eq_coe.mp (Finset.sort_eq ⟨Quot.mk _ l, hl⟩ (· ≤ ·)).symm

/-- It meets every element. -/
@[simp] theorem mem_iter {s : Finset α} {a : α} : a ∈ iter s ↔ a ∈ s := by
  rw [iter_eq_sort, Finset.mem_sort]

/-- It meets none of them twice. -/
theorem iter_nodup (s : Finset α) : (iter s).Nodup := by
  rw [iter_eq_sort]
  exact Finset.sort_nodup _ _

@[simp] theorem iter_toFinset (s : Finset α) : (iter s).toFinset = s := by
  rw [iter_eq_sort, Finset.sort_toFinset]

@[simp] theorem iter_length (s : Finset α) : (iter s).length = s.card := by
  rw [iter_eq_sort, Finset.length_sort]

@[simp] theorem iter_eq_nil {s : Finset α} : iter s = [] ↔ s = ∅ := by
  rw [← List.length_eq_zero_iff, iter_length, Finset.card_eq_zero]

/-- It ascends strictly. -/
theorem iter_strict (s : Finset α) : (iter s).Pairwise (· < ·) := by
  have hSorted : (iter s).Pairwise (· ≤ ·) := by
    rw [iter_eq_sort]
    exact Finset.pairwise_sort _ _
  exact (hSorted.and (iter_nodup s)).imp fun h => lt_of_le_of_ne h.1 h.2

/-- A strictly ascending list is the iteration over its members. -/
theorem eq_iter_of_strict {l : List α} {s : Finset α} (hStrict : l.Pairwise (· < ·))
    (hMem : ∀ a, a ∈ l ↔ a ∈ s) : l = iter s := by
  have hNodup : l.Nodup := hStrict.imp fun h => h.ne
  have hPerm : l.Perm (iter s) := (List.perm_ext_iff_of_nodup hNodup (iter_nodup s)).mpr fun a => by
    rw [hMem, mem_iter]
  exact hPerm.eq_of_pairwise (fun a b _ _ hab hba => absurd (hab.trans hba) (lt_irrefl _)) hStrict
    (iter_strict s)

/-- Counting along the iteration is counting in the set. -/
theorem countP_iter (s : Finset α) (p : α → Prop) [DecidablePred p] :
    (iter s).countP (fun a => p a) = (s.filter p).card := by
  have hNodup : ((iter s).filter fun a => p a).Nodup := (iter_nodup s).filter _
  rw [List.countP_eq_length_filter, ← List.toFinset_card_of_nodup hNodup,
    List.toFinset_filter, iter_toFinset]
  simp

end Iter

/-! ## Finite-map lookups -/

section Lookup

variable {κ : Type*} {β : Type*} [DecidableEq κ]

/-- What a map answers after an insertion. -/
theorem lookup_insert_ite (m : Finmap fun _ : κ => β) (a k : κ) (b : β) :
    (m.insert a b).lookup k = if k = a then some b else m.lookup k := by
  split
  · next h => subst h; exact Finmap.lookup_insert m
  · next h => exact Finmap.lookup_insert_of_ne m h

/-- What a map answers after an erasure. -/
theorem lookup_erase_ite (m : Finmap fun _ : κ => β) (a k : κ) :
    (m.erase a).lookup k = if k = a then none else m.lookup k := by
  split
  · next h => subst h; exact Finmap.lookup_erase k m
  · next h => exact Finmap.lookup_erase_ne h

end Lookup

end MarketStreamGateway.Lib
