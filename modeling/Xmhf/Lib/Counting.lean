import Mathlib.Algebra.BigOperators.Group.Finset.Piecewise
import Mathlib.Data.Fintype.Card

/-!
# Counting the members of a family with a property

A family of processes changes one member at a time; these lemmas say how many members have a
property afterwards.
-/

namespace Xmhf

open Finset (card_univ mem_erase mem_filter mem_univ univ)

variable {ι α : Type} [Fintype ι] [DecidableEq ι]

def countOf (p : α → Bool) (f : ι → α) : Nat :=
  (Finset.univ.filter fun j => p (f j) = true).card

variable {p : α → Bool} {f : ι → α} {i : ι}

theorem countOf_update (p : α → Bool) (f : ι → α) (i : ι) (v : α) :
    countOf p (Function.update f i v) + (p (f i)).toNat = countOf p f + (p v).toNat := by
  have split (g : ι → α) : countOf p g = (if p (g i) = true then 1 else 0) +
        ∑ j ∈ univ.erase i, if p (g j) = true then 1 else 0 := by
    rw [countOf, Finset.card_filter]
    exact (Finset.add_sum_erase _ _ (mem_univ i)).symm
  have others : (∑ j ∈ univ.erase i,
      if p (Function.update f i v j) = true then 1 else 0) =
        ∑ j ∈ univ.erase i, if p (f j) = true then 1 else 0 :=
    Finset.sum_congr rfl fun j mem => by
      rw [Function.update_of_ne (Finset.ne_of_mem_erase mem)]
  rw [split (Function.update f i v), split f, others, Function.update_self]
  cases p (f i) <;> cases p v <;> simp <;> omega

omit [DecidableEq ι] in
theorem countOf_eq_zero : countOf p f = 0 ↔ ∀ j, p (f j) = false := by
  simp [countOf, Finset.filter_eq_empty_iff]

theorem filter_subset_erase (out : p (f i) = false) :
    (univ.filter fun j => p (f j) = true) ⊆ univ.erase i := by
  intro j mem
  refine mem_erase.mpr ⟨?_, mem_univ j⟩
  rintro rfl
  simp [out] at mem

theorem countOf_le (out : p (f i) = false) : countOf p f ≤ Fintype.card ι - 1 := by
  rw [← card_univ, ← Finset.card_erase_of_mem (mem_univ i)]
  exact Finset.card_le_card (filter_subset_erase out)

theorem countOf_eq_iff (out : p (f i) = false) :
    countOf p f = Fintype.card ι - 1 ↔ ∀ j, j ≠ i → p (f j) = true := by
  have card : (univ.erase i).card = Fintype.card ι - 1 := by
    rw [Finset.card_erase_of_mem (mem_univ i), card_univ]
  constructor
  · intro count j ne
    have full := Finset.eq_of_subset_of_card_le (filter_subset_erase out)
      (by rw [card, ← count, countOf])
    have mem : j ∈ univ.filter fun j => p (f j) = true :=
      full ▸ mem_erase.mpr ⟨ne, mem_univ j⟩
    exact (mem_filter.mp mem).2
  · intro all
    rw [countOf, ← card]
    refine congrArg Finset.card (Finset.Subset.antisymm (filter_subset_erase out) fun j mem => ?_)
    exact mem_filter.mpr ⟨mem_univ j, all j (Finset.ne_of_mem_erase mem)⟩

end Xmhf
