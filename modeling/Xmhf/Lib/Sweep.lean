import Mathlib.Data.List.Range

/-!
# Loops over a table

`sweep f lo hi t` is the loop that replaces entry `i` of the table `t` by
`f i (t i)`, for `i` from `lo` up to `hi`, and stops without a result as soon as
one entry has no replacement. `sweep_eq_some` says what a finished loop has done
to every entry.
-/

namespace Sweep

open Function (update update_of_ne update_self)

variable {α : Type*}

def visit (f : Nat → α → Option α) (t : Nat → α) (i : Nat) : Option (Nat → α) :=
  (f i (t i)).map (Function.update t i)

def sweep (f : Nat → α → Option α) (lo hi : Nat) (t : Nat → α) : Option (Nat → α) :=
  (List.range' lo (hi - lo)).foldlM (visit f) t

theorem visit_eq_some {f : Nat → α → Option α} {t t' : Nat → α} {i : Nat} :
    visit f t i = some t' ↔ f i (t i) = some (t' i) ∧ ∀ j, j ≠ i → t' j = t j := by
  constructor
  · intro visited
    obtain ⟨x, found, rfl⟩ := Option.map_eq_some_iff.mp visited
    refine ⟨by rw [found, update_self], ?_⟩
    intro j other
    exact update_of_ne other _ _
  · rintro ⟨found, rest⟩
    refine Option.map_eq_some_iff.mpr ⟨t' i, found, ?_⟩
    funext j
    by_cases at_i : j = i
    · rw [at_i, update_self]
    · rw [update_of_ne at_i, rest j at_i]

private theorem foldlM_visit {f : Nat → α → Option α} (n lo : Nat) (t t' : Nat → α) :
    (List.range' lo n).foldlM (visit f) t = some t' ↔
      (∀ i, lo ≤ i → i < lo + n → f i (t i) = some (t' i)) ∧
        ∀ i, (i < lo ∨ lo + n ≤ i) → t' i = t i := by
  induction n generalizing lo t with
  | zero =>
    simp only [List.range'_zero, List.foldlM_nil, pure, Option.some.injEq]
    constructor
    · rintro rfl
      exact ⟨fun i low high => absurd high (by omega), fun _ _ => rfl⟩
    · rintro ⟨-, same⟩
      funext i
      exact (same i (by omega)).symm
  | succ n ih =>
    -- The first round fixes entry `lo`; the rest of the loop starts above it.
    rw [List.range'_succ, List.foldlM_cons]
    constructor
    · intro run
      obtain ⟨mid, first, rest⟩ := Option.bind_eq_some_iff.mp run
      obtain ⟨found, others⟩ := visit_eq_some.mp first
      obtain ⟨inside, outside⟩ := (ih (lo + 1) mid).mp rest
      refine ⟨fun i low high => ?_, fun i out => ?_⟩
      · rcases Nat.eq_or_lt_of_le low with rfl | above
        · rw [outside lo (by omega)]
          exact found
        · rw [← others i (by omega)]
          exact inside i above (by omega)
      · rw [outside i (by omega), others i (by omega)]
    · rintro ⟨inside, outside⟩
      refine Option.bind_eq_some_iff.mpr ⟨update t lo (t' lo), ?_, ?_⟩
      · refine visit_eq_some.mpr ⟨?_, fun j other => update_of_ne other _ _⟩
        rw [update_self]
        exact inside lo le_rfl (by omega)
      · refine (ih (lo + 1) _).mpr ⟨fun i low high => ?_, fun i out => ?_⟩
        · rw [update_of_ne (by omega)]
          exact inside i (by omega) (by omega)
        · by_cases at_lo : i = lo
          · rw [at_lo, update_self]
          · rw [update_of_ne at_lo]
            exact outside i (by omega)

theorem sweep_eq_some {f : Nat → α → Option α} {lo hi : Nat} {t t' : Nat → α} :
    sweep f lo hi t = some t' ↔ (∀ i, lo ≤ i → i < hi → f i (t i) = some (t' i)) ∧
        ∀ i, (i < lo ∨ hi ≤ i) → t' i = t i := by
  rw [sweep, foldlM_visit]
  constructor
  iterate 2
    · rintro ⟨inside, outside⟩
      exact ⟨fun i low high => inside i low (by omega), fun i out => outside i (by omega)⟩

theorem sweep_exists {f : Nat → α → Option α} (total : ∀ i x, ∃ y, f i x = some y) (lo hi : Nat)
    (t : Nat → α) : ∃ t', sweep f lo hi t = some t' := by
  choose g found using total
  refine ⟨fun i => if lo ≤ i ∧ i < hi then g i (t i) else t i,
    sweep_eq_some.mpr ⟨fun i low high => ?_, fun i out => ?_⟩⟩
  · rw [if_pos ⟨low, high⟩, found]
  · rw [if_neg (by omega)]

end Sweep
