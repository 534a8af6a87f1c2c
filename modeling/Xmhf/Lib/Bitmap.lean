import Mathlib.Data.BitVec

/-!
# Bitmaps in bytes

A bitmap is an array of bytes; bit `n` is bit `n % 8` of byte `n / 8`.
-/

namespace Bitmap

abbrev Bytes := Nat → BitVec 8

def bit (bytes : Bytes) (n : Nat) : Bool := (bytes (n / 8)).getLsbD (n % 8)

def set (bytes : Bytes) (n : Nat) : Bytes :=
  Function.update bytes (n / 8) (bytes (n / 8) ||| 1#8 <<< (n % 8))

def clear (bytes : Bytes) (n : Nat) : Bytes :=
  Function.update bytes (n / 8) (bytes (n / 8) &&& ~~~(1#8 <<< (n % 8)))

theorem getLsbD_one_shift {i j : Nat} (small : i < 8) :
    (1#8 <<< j).getLsbD i = decide (i = j) := by
  rw [BitVec.getLsbD_shiftLeft, BitVec.getLsbD_one]
  grind

theorem same_position {m n : Nat} (byte : m / 8 = n / 8) : m % 8 = n % 8 ↔ m = n := by
  omega

@[simp]
theorem bit_set (bytes : Bytes) (m n : Nat) :
    bit (set bytes m) n = (decide (n = m) || bit bytes n) := by
  unfold bit set
  by_cases byte : n / 8 = m / 8
  · have small : n % 8 < 8 := Nat.mod_lt _ (by decide)
    rw [byte, Function.update_self, BitVec.getLsbD_or, getLsbD_one_shift small]
    simp only [same_position byte]
    exact Bool.or_comm _ _
  · have other : n ≠ m := fun same => byte (congrArg (· / 8) same)
    rw [Function.update_of_ne byte]
    simp [other]

@[simp]
theorem bit_clear (bytes : Bytes) (m n : Nat) :
    bit (clear bytes m) n = (!decide (n = m) && bit bytes n) := by
  unfold bit clear
  by_cases byte : n / 8 = m / 8
  · have small : n % 8 < 8 := Nat.mod_lt _ (by decide)
    rw [byte, Function.update_self, BitVec.getLsbD_and, BitVec.getLsbD_not, getLsbD_one_shift small]
    simp only [same_position byte, small, decide_true, Bool.true_and]
    exact Bool.and_comm _ _
  · have other : n ≠ m := fun same => byte (congrArg (· / 8) same)
    rw [Function.update_of_ne byte]
    simp [other]

end Bitmap
