import Mathlib.Data.Finset.Prod
import Mathlib.Data.Finset.Card

/-!
# Demand

The abstract content of a reference-counted subscription store: a finite
relation between holders and the keys they hold. The keys one holder has,
the number of holders of a key and the set of keys held at all are functions
of the relation; nothing is stored twice. A concrete store that caches these
functions is correct when its caches agree with them (see `count_add` and
`count_drop` for what one operation does to a count).
-/

namespace MarketStreamGateway.Lib

variable {ι κ : Type*} [DecidableEq ι] [DecidableEq κ]

/-- Which holder holds which key. -/
abbrev Demand (ι κ : Type*) := Finset (ι × κ)

namespace Demand

/-- The keys held by `c`. -/
def keysOf (D : Demand ι κ) (c : ι) : Finset κ :=
  (D.filter fun p => p.1 = c).image Prod.snd

/-- The holders of `k`. -/
def holders (D : Demand ι κ) (k : κ) : Finset ι :=
  (D.filter fun p => p.2 = k).image Prod.fst

/-- How many holders hold `k`. -/
def count (D : Demand ι κ) (k : κ) : Nat := (D.holders k).card

/-- The keys held by anyone. -/
def desired (D : Demand ι κ) : Finset κ := D.image Prod.snd

/-- `c` comes to hold the keys `K` as well. -/
def add (D : Demand ι κ) (c : ι) (K : Finset κ) : Demand ι κ := D ∪ ({c} : Finset ι) ×ˢ K

/-- `c` gives up the keys `K`. -/
def drop (D : Demand ι κ) (c : ι) (K : Finset κ) : Demand ι κ := D \ ({c} : Finset ι) ×ˢ K

/-! ## Membership -/

/-- The three views of a demand, by its pairs. -/
@[simp] theorem mem_keysOf {D : Demand ι κ} {c : ι} {k : κ} :
    k ∈ D.keysOf c ↔ (c, k) ∈ D := by
  simp [keysOf]

@[simp] theorem mem_holders {D : Demand ι κ} {c : ι} {k : κ} :
    c ∈ D.holders k ↔ (c, k) ∈ D := by
  simp [holders]

omit [DecidableEq ι] in
@[simp] theorem mem_desired {D : Demand ι κ} {k : κ} :
    k ∈ D.desired ↔ ∃ c, (c, k) ∈ D := by
  simp [desired]

/-- What an addition leaves. -/
@[simp] theorem mem_add {D : Demand ι κ} {c : ι} {K : Finset κ} {p : ι × κ} :
    p ∈ D.add c K ↔ p ∈ D ∨ p.1 = c ∧ p.2 ∈ K := by
  rw [add, Finset.mem_union, Finset.mem_product, Finset.mem_singleton]

/-- What a removal leaves. -/
@[simp] theorem mem_drop {D : Demand ι κ} {c : ι} {K : Finset κ} {p : ι × κ} :
    p ∈ D.drop c K ↔ p ∈ D ∧ ¬ (p.1 = c ∧ p.2 ∈ K) := by
  rw [drop, Finset.mem_sdiff, Finset.mem_product, Finset.mem_singleton]

/-- A key is held by someone exactly when its count is positive. -/
theorem count_pos {D : Demand ι κ} {k : κ} : 0 < D.count k ↔ k ∈ D.desired := by
  rw [count, Finset.card_pos, mem_desired]
  constructor
  · rintro ⟨c, hc⟩
    exact ⟨c, mem_holders.mp hc⟩
  · rintro ⟨c, hc⟩
    exact ⟨c, mem_holders.mpr hc⟩

/-! ## What one operation changes -/

/-- Adding keys raises the count of exactly those the holder did not hold. -/
theorem count_add (D : Demand ι κ) (c : ι) (K : Finset κ) (k : κ) :
    (D.add c K).count k = D.count k + if k ∈ K \ D.keysOf c then 1 else 0 := by
  by_cases hk : k ∈ K
  · -- the client joins the holders, unless it is one
    have hHolders : (D.add c K).holders k = insert c (D.holders k) := by
      ext c'
      simp only [mem_holders, mem_add, Finset.mem_insert, hk, and_true]
      tauto
    rw [count, count, hHolders]
    by_cases hc : (c, k) ∈ D
    · rw [Finset.insert_eq_of_mem (mem_holders.mpr hc)]
      simp [hc]
    · rw [Finset.card_insert_of_notMem (by simpa using hc)]
      simp [hk, hc]
  · have hHolders : (D.add c K).holders k = D.holders k := by
      ext c'
      simp [hk]
    rw [count, count, hHolders]
    simp [hk]

/-- Giving up keys lowers the count of exactly those the holder held. -/
theorem count_drop (D : Demand ι κ) (c : ι) (K : Finset κ) (k : κ) :
    (D.drop c K).count k + (if k ∈ K ∩ D.keysOf c then 1 else 0) = D.count k := by
  by_cases hk : k ∈ K
  · -- the client leaves the holders, if it is one
    have hHolders : (D.drop c K).holders k = (D.holders k).erase c := by
      ext c'
      simp only [mem_holders, mem_drop, Finset.mem_erase, hk, and_true]
      tauto
    rw [count, count, hHolders]
    by_cases hc : (c, k) ∈ D
    · have hPos : 0 < (D.holders k).card :=
        Finset.card_pos.mpr ⟨c, mem_holders.mpr hc⟩
      rw [Finset.card_erase_of_mem (mem_holders.mpr hc)]
      simp only [Finset.mem_inter, mem_keysOf, hk, hc, and_self, if_true]
      omega
    · rw [Finset.erase_eq_of_notMem (by simpa using hc)]
      simp [hc]
  · have hHolders : (D.drop c K).holders k = D.holders k := by
      ext c'
      simp [hk]
    rw [count, count, hHolders]
    simp [hk]

/-- Adding wants the old keys and the new ones. -/
theorem desired_add (D : Demand ι κ) (c : ι) (K : Finset κ) :
    (D.add c K).desired = D.desired ∪ K := by
  ext k
  simp only [mem_desired, mem_add, Finset.mem_union]
  constructor
  · rintro ⟨c', h | ⟨-, h⟩⟩
    · exact Or.inl ⟨c', h⟩
    · exact Or.inr h
  · rintro (⟨c', h⟩ | h)
    · exact ⟨c', Or.inl h⟩
    · exact ⟨c, Or.inr ⟨rfl, h⟩⟩

end Demand

end MarketStreamGateway.Lib
