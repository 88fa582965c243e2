import Mathlib.Data.Finset.Union
import Mathlib.Algebra.BigOperators.Group.Finset.Basic

/-!
# Expanding keys into topics

A key stands for a finite set of topics. Where the keys in question have
disjoint topics, removing and adding keys is removing and adding their topics:
`expand_change` is the step of a set of topics that follows a changing set of
keys, `card_expand` counts it.
-/

namespace MarketStreamGateway.Lib

variable {κ τ : Type*} [DecidableEq κ] [DecidableEq τ]

/-- The topics of a set of keys. -/
def expand (f : κ → Finset τ) (keys : Finset κ) : Finset τ := keys.biUnion f

/-- Distinct keys that satisfy `P` share no topic. -/
def Separates (f : κ → Finset τ) (P : κ → Prop) : Prop :=
  ∀ k k', P k → P k' → k ≠ k' → Disjoint (f k) (f k')

variable {f : κ → Finset τ} {P : κ → Prop} {prev next : Finset κ}

omit [DecidableEq κ] in
/-- An expansion has what one of its keys expands to. -/
@[simp] theorem mem_expand {keys : Finset κ} {t : τ} : t ∈ expand f keys ↔ ∃ k ∈ keys, t ∈ f k :=
  Finset.mem_biUnion

omit [DecidableEq κ] in
@[simp] theorem expand_empty : expand f ∅ = ∅ := Finset.biUnion_empty

omit [DecidableEq τ] [DecidableEq κ] in
/-- Where expansions are disjoint, an element tells its key. -/
theorem Separates.unique (h : Separates f P) {k k' : κ} (hk : P k) (hk' : P k') {t : τ}
    (ht : t ∈ f k) (ht' : t ∈ f k') : k = k' := by
  by_contra hNe
  exact Finset.disjoint_left.mp (h k k' hk hk' hNe) ht ht'

/-- Removing keys leaves the topics of the rest. -/
theorem expand_sdiff (h : Separates f P) (hPrev : ∀ k ∈ prev, P k) :
    expand f prev \ expand f (prev \ next) = expand f (prev ∩ next) := by
  ext t
  simp only [Finset.mem_sdiff, mem_expand, Finset.mem_inter]
  constructor
  · rintro ⟨⟨k, hk, ht⟩, hNot⟩
    refine ⟨k, ⟨hk, ?_⟩, ht⟩
    by_contra hNext
    exact hNot ⟨k, ⟨hk, hNext⟩, ht⟩
  · rintro ⟨k, ⟨hk, hNext⟩, ht⟩
    refine ⟨⟨k, hk, ht⟩, ?_⟩
    rintro ⟨k', ⟨hk', hGone⟩, ht'⟩
    rw [h.unique (hPrev k hk) (hPrev k' hk') ht ht'] at hNext
    exact hGone hNext

/-- Removing the keys that went and adding the keys that came leads from the
topics of one set to the topics of the next. -/
theorem expand_change (h : Separates f P) (hPrev : ∀ k ∈ prev, P k) :
    expand f prev \ expand f (prev \ next) ∪ expand f (next \ prev) = expand f next := by
  rw [expand_sdiff h hPrev]
  ext t
  simp only [Finset.mem_union, mem_expand, Finset.mem_inter, Finset.mem_sdiff]
  constructor
  · rintro (⟨k, ⟨-, hk⟩, ht⟩ | ⟨k, ⟨hk, -⟩, ht⟩) <;> exact ⟨k, hk, ht⟩
  · rintro ⟨k, hk, ht⟩
    by_cases hOld : k ∈ prev
    · exact Or.inl ⟨k, ⟨hOld, hk⟩, ht⟩
    · exact Or.inr ⟨k, ⟨hk, hOld⟩, ht⟩

omit [DecidableEq κ] in
/-- Where expansions are disjoint, their sizes add up. -/
theorem card_expand (h : Separates f P) {keys : Finset κ} (hKeys : ∀ k ∈ keys, P k) :
    (expand f keys).card = ∑ k ∈ keys, (f k).card :=
  Finset.card_biUnion fun k hk k' hk' hNe => h k k' (hKeys k hk) (hKeys k' hk') hNe

end MarketStreamGateway.Lib
