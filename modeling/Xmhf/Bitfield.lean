import Mathlib.Data.BitVec

/-!
# Bit ranges of 64-bit words

The helpers of `bitfield.h`, on which every page-table accessor is built. The
C functions shift by `int` amounts, so the positions are integers here; an
amount outside `0 … 63` is undefined in C and shifts by its low six bits on
x86, which is what `shiftAmount` computes.

The lemmas describe each helper bit by bit (`getLsbD_*`) and, for the reading
helper, as a number (`toNat_br64GetHl`).
-/

namespace Xmhf

open BitVec (eq_of_getLsbD_eq getLsbD_and getLsbD_not getLsbD_or getLsbD_shiftLeft
    getLsbD_ushiftRight)

abbrev U8 := BitVec 8
abbrev U16 := BitVec 16
abbrev U32 := BitVec 32
abbrev U64 := BitVec 64

/-- The amount by which x86 shifts a 64-bit word when asked for `n`. -/
def shiftAmount (n : Int) : Nat := (n % 64).toNat

def zeroHi64 (x : U64) (bits : Int) : U64 := (x <<< shiftAmount bits) >>> shiftAmount bits

def zeroLo64 (x : U64) (bits : Int) : U64 := (x >>> shiftAmount bits) <<< shiftAmount bits

def maskRange64 (hi lo : Int) : U64 :=
  zeroLo64 (zeroHi64 0xffffffffffffffff#64 (64 - hi - 1)) lo

def maskBit64 (bit : Int) : U64 := 1#64 <<< shiftAmount bit

def br64GetHl (x : U64) (hi lo : Int) : U64 := zeroHi64 x (63 - hi) >>> shiftAmount lo

/-- The source asserts that `val` fits into the range, see `br64SetHlAsserts`. -/
def br64SetHl (x : U64) (hi lo : Int) (val : U64) : U64 :=
  (x &&& ~~~maskRange64 hi lo) ||| (val <<< shiftAmount lo)

/-- The assertion at the head of `BR64_SET_HL`. -/
def br64SetHlAsserts (hi lo : Int) (val : U64) : Bool := zeroHi64 val (63 - (hi - lo)) == val

def br64GetBit (x : U64) (pos : Int) : Bool :=
  (x &&& maskRange64 pos pos) >>> shiftAmount pos != 0#64

def br64SetBit (x : U64) (pos : Int) (val : Bool) : U64 :=
  (x &&& ~~~(1#64 <<< shiftAmount pos)) ||| ((if val then 1#64 else 0#64) <<< shiftAmount pos)

/-- `x & MASKBIT64(bit)` used as a truth value. -/
def testMaskBit64 (x : U64) (bit : Int) : Bool := x &&& maskBit64 bit != 0#64

/-- `offset` is the distance from the source range to the destination range. -/
def br64CopyBitsHl (dst src : U64) (srcHi srcLo offset : Int) : U64 :=
  br64SetHl dst (srcHi + offset) (srcLo + offset) (br64GetHl src srcHi srcLo)

/-! ## The helpers bit by bit -/

theorem shiftAmount_natCast {n : Nat} (small : n < 64) : shiftAmount n = n := by
  unfold shiftAmount
  omega

theorem getLsbD_zeroHi64 (x : U64) {bits : Nat} (small : bits < 64) (i : Nat) :
    (zeroHi64 x bits).getLsbD i = (decide (i + bits < 64) && x.getLsbD i) := by
  simp only [zeroHi64, shiftAmount_natCast small, getLsbD_ushiftRight,
    getLsbD_shiftLeft]
  by_cases inside : i + bits < 64
  · simp [Nat.add_comm bits i, inside]
  · simp [Nat.add_comm bits i, inside]

theorem getLsbD_maskRange64 {hi lo : Nat} (le : lo ≤ hi) (small : hi < 64) (i : Nat) :
    (maskRange64 hi lo).getLsbD i = (decide (lo ≤ i) && decide (i ≤ hi)) := by
  have top : (64 - (hi : Int) - 1) = ((63 - hi : Nat) : Int) := by omega
  have ones : (0xffffffffffffffff#64) = BitVec.allOnes 64 := by decide
  rw [maskRange64, zeroLo64, top, shiftAmount_natCast (Nat.lt_of_le_of_lt le small), ones,
    getLsbD_shiftLeft, getLsbD_ushiftRight, getLsbD_zeroHi64 _ (by omega),
    BitVec.getLsbD_allOnes]
  by_cases low : lo ≤ i
  · by_cases high : i ≤ hi
    · have sum : lo + (i - lo) = i := by omega
      have inside : i + (63 - hi) < 64 := by omega
      have width : i < 64 := by omega
      simp [low, high, sum, inside, width]
    · have outside : ¬ i + (63 - hi) < 64 := by omega
      have sum : lo + (i - lo) = i := by omega
      simp [low, high, sum, outside]
  · simp [low, Nat.lt_of_not_le low]

theorem getLsbD_br64GetHl (x : U64) {hi lo : Nat} (le : lo ≤ hi) (small : hi < 64) (i : Nat) :
    (br64GetHl x hi lo).getLsbD i = (decide (lo + i ≤ hi) && x.getLsbD (lo + i)) := by
  have top : (63 - (hi : Int)) = ((63 - hi : Nat) : Int) := by omega
  rw [br64GetHl, top, shiftAmount_natCast (Nat.lt_of_le_of_lt le small),
    getLsbD_ushiftRight, getLsbD_zeroHi64 _ (by omega)]
  congr 2
  exact propext ⟨fun h => by omega, fun h => by omega⟩

theorem toNat_br64GetHl (x : U64) {hi lo : Nat} (le : lo ≤ hi) (small : hi < 64) :
    (br64GetHl x hi lo).toNat = x.toNat % 2 ^ (hi + 1) / 2 ^ lo := by
  have top : (63 - (hi : Int)) = ((63 - hi : Nat) : Int) := by omega
  have split : 2 ^ 64 = 2 ^ (hi + 1) * 2 ^ (63 - hi) := by
    rw [← Nat.pow_add]
    congr 1
    omega
  rw [br64GetHl, zeroHi64, top, shiftAmount_natCast (by omega),
    shiftAmount_natCast (Nat.lt_of_le_of_lt le small), BitVec.toNat_ushiftRight,
    BitVec.toNat_ushiftRight, BitVec.toNat_shiftLeft, Nat.shiftLeft_eq, split,
    Nat.mul_mod_mul_right, Nat.shiftRight_eq_div_pow, Nat.shiftRight_eq_div_pow,
    Nat.mul_div_cancel _ (Nat.two_pow_pos _)]

theorem getLsbD_br64SetHl (x val : U64) {hi lo : Nat} (le : lo ≤ hi) (small : hi < 64)
    (fits : ∀ i, hi - lo < i → val.getLsbD i = false) (i : Nat) :
    (br64SetHl x hi lo val).getLsbD i =
      if lo ≤ i ∧ i ≤ hi then val.getLsbD (i - lo) else x.getLsbD i := by
  rw [br64SetHl, shiftAmount_natCast (Nat.lt_of_le_of_lt le small), getLsbD_or,
    getLsbD_and, getLsbD_not, getLsbD_maskRange64 le small,
    getLsbD_shiftLeft]
  by_cases width : i < 64
  · by_cases low : lo ≤ i
    · by_cases high : i ≤ hi
      · simp [width, low, high, Nat.not_lt.mpr low]
      · have out : val.getLsbD (i - lo) = false := fits _ (by omega)
        simp [width, low, high, out]
    · simp [width, low, Nat.lt_of_not_le low]
  · have high : ¬ i ≤ hi := by omega
    simp [width, high, BitVec.getLsbD_of_ge x i (Nat.le_of_not_lt width)]

theorem getLsbD_br64GetHl_high (x : U64) {hi lo : Nat} (le : lo ≤ hi) (small : hi < 64) {i : Nat}
    (above : hi - lo < i) : (br64GetHl x hi lo).getLsbD i = false := by
  rw [getLsbD_br64GetHl x le small]
  have : ¬ lo + i ≤ hi := by omega
  simp [this]

theorem and_maskRange64_zero (x : U64) {hi : Nat} (small : hi < 64) :
    x &&& maskRange64 hi 0 = br64GetHl x hi 0 := by
  apply eq_of_getLsbD_eq
  intro i width
  have mask := @getLsbD_maskRange64 hi 0 (Nat.zero_le hi) small i
  have range := @getLsbD_br64GetHl x hi 0 (Nat.zero_le hi) small i
  simp only [Nat.zero_le, decide_true, Bool.true_and, Nat.zero_add] at mask range
  rw [getLsbD_and]
  refine Eq.trans ?_ range.symm
  rw [Bool.and_comm]
  exact congrArg (· && x.getLsbD i) mask

theorem getLsbD_br64CopyBitsHl (dst src : U64) {hi lo : Nat} (le : lo ≤ hi) (small : hi < 64)
    (i : Nat) :
    (br64CopyBitsHl dst src hi lo 0).getLsbD i =
      if lo ≤ i ∧ i ≤ hi then src.getLsbD i else dst.getLsbD i := by
  have bits := getLsbD_br64SetHl dst (br64GetHl src hi lo) le small
    (fun j above => getLsbD_br64GetHl_high src le small above) i
  rw [br64CopyBitsHl, Int.add_zero, Int.add_zero, bits]
  split
  · next range =>
    have sum : lo + (i - lo) = i := by omega
    rw [getLsbD_br64GetHl src le small, sum]
    simp [range.2]
  · rfl

theorem getLsbD_br64SetBit (x : U64) {pos : Nat} (small : pos < 64) (val : Bool) (i : Nat) :
    (br64SetBit x pos val).getLsbD i = if i = pos then val else x.getLsbD i := by
  rw [br64SetBit, shiftAmount_natCast small, getLsbD_or, getLsbD_and,
    getLsbD_not, getLsbD_shiftLeft, getLsbD_shiftLeft]
  by_cases width : i < 64
  · by_cases same : i = pos
    · subst same
      cases val <;> simp [width]
    · by_cases below : i < pos
      · simp [width, same, below]
      · have nonzero : i - pos ≠ 0 := by omega
        cases val <;> simp [width, same, below, nonzero]
  · have other : i ≠ pos := by omega
    simp [width, other, BitVec.getLsbD_of_ge x i (Nat.le_of_not_lt width)]

theorem testMaskBit64_eq (x : U64) {bit : Nat} (small : bit < 64) :
    testMaskBit64 x bit = x.getLsbD bit := by
  have single : x &&& (1#64 <<< bit) = if x.getLsbD bit then 1#64 <<< bit else 0#64 := by
    apply eq_of_getLsbD_eq
    intro i width
    by_cases same : i = bit
    · subst same
      rw [getLsbD_and]
      cases x.getLsbD i <;> simp [width]
    · rw [getLsbD_and]
      by_cases below : i < bit
      · cases x.getLsbD bit <;> simp [below]
      · have nonzero : i - bit ≠ 0 := by omega
        cases x.getLsbD bit <;> simp [nonzero]
  have nonzero : (1#64 <<< bit) ≠ 0#64 := by
    intro zero
    have := congrArg (fun y => y.getLsbD bit) zero
    simp [small] at this
  rw [testMaskBit64, maskBit64, shiftAmount_natCast small, single]
  cases x.getLsbD bit <;> simp [nonzero]

theorem br64GetBit_eq (x : U64) {pos : Nat} (small : pos < 64) :
    br64GetBit x pos = x.getLsbD pos := by
  have single : maskRange64 pos pos = 1#64 <<< pos := by
    apply eq_of_getLsbD_eq
    intro i width
    rw [getLsbD_maskRange64 (Nat.le_refl pos) small]
    simp only [getLsbD_shiftLeft, width, decide_true, Bool.true_and]
    by_cases same : i = pos
    · simp [same]
    · by_cases below : i < pos
      · simp [below]
      · have nonzero : i - pos ≠ 0 := by omega
        have above : ¬ i ≤ pos := by omega
        simp [above, nonzero]
  have shifted : (x &&& maskRange64 pos pos) >>> pos = if x.getLsbD pos then 1#64 else 0#64 := by
    rw [single]
    apply eq_of_getLsbD_eq
    intro i width
    by_cases first : i = 0
    · subst first
      rw [getLsbD_ushiftRight, getLsbD_and, Nat.add_zero]
      cases x.getLsbD pos <;> simp [small]
    · cases x.getLsbD pos <;> simp [first]
  rw [br64GetBit, shiftAmount_natCast small, shifted]
  cases x.getLsbD pos <;> simp

end Xmhf
