import Mathlib.Data.List.Basic
import Mathlib.Data.List.Induction
import Mathlib.Data.Set.Function

/-!
# Hash chains

A register that is extended with one measurement after the other: each extension replaces its
value by a hash of the value and the measurement. The chain commits to the whole list of
measurements, as long as the hash has no collision among the inputs that occur and never gives
back the start value.
-/

namespace HashChain

variable {δ α : Type*} (H : δ → α → δ)

/-- The register after all measurements, from a start value. -/
def extend (start : δ) (measurements : List α) : δ := measurements.foldl H start

def inputs (start : δ) : List α → List (δ × α)
  | [] => []
  | x :: xs => (start, x) :: inputs (H start x) xs

variable {H} {start : δ} {xs ys : List α}

theorem extend_concat {x : α} : extend H start (xs ++ [x]) = H (extend H start xs) x :=
  List.foldl_append

theorem inputs_concat {x : α} :
    inputs H start (xs ++ [x]) = inputs H start xs ++ [(extend H start xs, x)] := by
  induction xs generalizing start with
  | nil => rfl
  | cons y ys ih =>
    change (start, y) :: inputs H (H start y) (ys ++ [x]) = _
    rw [ih]
    rfl

/-- No two inputs of the chains of the lists have one hash, and none has the start value. -/
structure Ideal (H : δ → α → δ) (start : δ) (xs ys : List α) : Prop where
  injOn : Set.InjOn (fun input : δ × α => H input.1 input.2)
    {input | input ∈ inputs H start xs ++ inputs H start ys}
  fresh : ∀ input ∈ inputs H start xs ++ inputs H start ys, H input.1 input.2 ≠ start

theorem extend_ne {x : α}
    (fresh : ∀ input ∈ inputs H start (xs ++ [x]), H input.1 input.2 ≠ start) :
    extend H start (xs ++ [x]) ≠ start := by
  rw [extend_concat]
  refine fresh (extend H start xs, x) ?_
  rw [inputs_concat]
  exact List.mem_append_right _ List.mem_cons_self

theorem Ideal.extend_inj (ideal : Ideal H start xs ys)
    (same : extend H start xs = extend H start ys) : xs = ys := by
  -- from the last measurement on: equal registers come from equal inputs
  induction xs using List.reverseRecOn generalizing ys with
  | nil =>
    rcases ys.eq_nil_or_concat' with rfl | ⟨ys, y, rfl⟩
    · rfl
    · have left := extend_ne fun input mem => ideal.fresh input (List.mem_append_right _ mem)
      exact absurd same.symm left
  | append_singleton xs x ih =>
    rcases ys.eq_nil_or_concat' with rfl | ⟨ys, y, rfl⟩
    · have left := extend_ne fun input mem => ideal.fresh input (List.mem_append_left _ mem)
      exact absurd same left
    · have fewer : ∀ input ∈ inputs H start xs ++ inputs H start ys,
          input ∈ inputs H start (xs ++ [x]) ++ inputs H start (ys ++ [y]) := by
        intro input mem
        rw [inputs_concat, inputs_concat]
        rcases List.mem_append.mp mem with left | right
        · exact List.mem_append_left _ (List.mem_append_left _ left)
        · exact List.mem_append_right _ (List.mem_append_left _ right)
      have last : (extend H start xs, x) = (extend H start ys, y) := by
        rw [extend_concat, extend_concat] at same
        refine ideal.injOn (List.mem_append_left _ ?_) (List.mem_append_right _ ?_) same
        iterate 2
          · rw [inputs_concat]
            exact List.mem_append_right _ List.mem_cons_self
      obtain ⟨before, rfl⟩ := Prod.mk.inj last
      have smaller : Ideal H start xs ys :=
        ⟨ideal.injOn.mono fewer, fun input mem => ideal.fresh input (fewer input mem)⟩
      rw [ih smaller before]

end HashChain
