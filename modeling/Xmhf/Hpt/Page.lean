import Mathlib.Tactic.IntervalCases
import Xmhf.Hpt.Walk

/-!
# Addresses of one page

The addresses of one virtual page, of whatever size its leaf gives it, share the leaf, and
the leaf maps them one after the other. `hpt_remaining_on_page` is what is left of the page
when it is asked about a virtual address; the access functions of `hptw.c` pass it the
physical address instead, which makes no difference for a leaf whose frame is aligned to its
size (`Pmeo.Aligned`).
-/

namespace Xmhf

open BitVec (ofNat toNat_add toNat_ofNat)

variable {t : HptType} {lvl off : Nat}

theorem hptVaIdxHi_lt (low : 1 ≤ lvl) (high : lvl ≤ hptTypeMaxLvl t) :
    hptVaIdxHi t (lvl - 1) < hptVaIdxHi t lvl ∧ hptVaIdxHi t lvl < 64 := by
  cases t <;> simp only [hptTypeMaxLvl] at high <;> interval_cases lvl <;> decide

theorem hptVaIdxHi_mono {k : Nat} (le : k ≤ lvl) (high : lvl ≤ hptTypeMaxLvl t) :
    hptVaIdxHi t k ≤ hptVaIdxHi t lvl := by
  cases t <;> simp only [hptTypeMaxLvl] at high <;> interval_cases lvl <;> interval_cases k <;>
    decide

theorem hptGetPmIdx_eq (low : 1 ≤ lvl) (high : lvl ≤ hptTypeMaxLvl t) (va : Va) :
    hptGetPmIdx t lvl va = va.toNat % 2 ^ (hptVaIdxHi t lvl + 1) / 2 ^ (hptVaIdxHi t (lvl - 1) + 1) :=
  have bounds := hptVaIdxHi_lt low high
  toNat_br64GetHl va (Nat.succ_le_of_lt bounds.1) bounds.2

theorem hptGetPmIdx_congr {k : Nat} (bottom : 1 ≤ k) (le : k ≤ lvl) (high : lvl ≤ hptTypeMaxLvl t)
    {va va' : Va}
    (same : va'.toNat / 2 ^ (hptVaIdxHi t (k - 1) + 1) = va.toNat / 2 ^ (hptVaIdxHi t (k - 1) + 1)) :
    hptGetPmIdx t lvl va' = hptGetPmIdx t lvl va := by
  have mono : hptVaIdxHi t (k - 1) ≤ hptVaIdxHi t (lvl - 1) :=
    hptVaIdxHi_mono (by omega) (by omega)
  have bounds := hptVaIdxHi_lt (Nat.le_trans bottom le) high
  obtain ⟨above, size⟩ := Nat.exists_eq_add_of_le (Nat.succ_le_succ mono)
  obtain ⟨width, top⟩ := Nat.exists_eq_add_of_le (Nat.succ_le_succ (Nat.le_of_lt bounds.1))
  rw [hptGetPmIdx_eq (Nat.le_trans bottom le) high, hptGetPmIdx_eq (Nat.le_trans bottom le) high]
  simp only [Nat.succ_eq_add_one] at size top
  rw [top, Nat.pow_add, Nat.mod_mul_right_div_self, Nat.mod_mul_right_div_self, size, Nat.pow_add,
    ← Nat.div_div_eq_div_mul, ← Nat.div_div_eq_div_mul, same]

section

variable {ctx : HptwCtx} {mem : Mem} {access : Prot} {cpl : Nat} {va : Va} {leaf : Pmeo}

structure Pmeo.IsPageLeaf (leaf : Pmeo) : Prop where
  page : leaf.isPage = true
  low : 1 ≤ leaf.lvl
  high : leaf.lvl ≤ hptTypeMaxLvl leaf.t

theorem isLeaf_of_found (found : hptwCheckedGetPmeo ctx mem access cpl va = some leaf) :
    leaf.IsPageLeaf := by
  obtain ⟨-, page, type, low, high⟩ := hptwCheckedGetPmeo_leaf found
  exact ⟨page, low, type ▸ high⟩

section

variable (isLeaf : leaf.IsPageLeaf)

include isLeaf

theorem Pmeo.IsPageLeaf.small : leaf.pageSizeLog2 ≤ 64 := by
  have lower : leaf.lvl - 1 ≤ leaf.lvl := Nat.sub_le _ _
  have mono := hptVaIdxHi_mono lower isLeaf.high
  have bound := (hptVaIdxHi_lt isLeaf.low isLeaf.high).2
  unfold Pmeo.pageSizeLog2
  omega

theorem toNat_offset (va : Va) :
    (va &&& maskRange64 (hptVaIdxHi leaf.t (leaf.lvl - 1)) 0).toNat =
      va.toNat % 2 ^ leaf.pageSizeLog2 := by
  have small : hptVaIdxHi leaf.t (leaf.lvl - 1) < 64 := isLeaf.small
  have range := @toNat_br64GetHl va (hptVaIdxHi leaf.t (leaf.lvl - 1)) 0 (Nat.zero_le _) small
  rw [Nat.pow_zero, Nat.div_one] at range
  rw [and_maskRange64_zero va small]
  exact range

theorem remainingOnPage_eq_sub (address : U64) :
    leaf.remainingOnPage address =
      2 ^ leaf.pageSizeLog2 - address.toNat % 2 ^ leaf.pageSizeLog2 := by
  have top : (leaf.pageSizeLog2 : Int) - 1 = (hptVaIdxHi leaf.t (leaf.lvl - 1) : Nat) := by
    unfold Pmeo.pageSizeLog2
    omega
  rw [Pmeo.remainingOnPage, top, toNat_offset isLeaf]

theorem remainingOnPage_pos (address : U64) : 0 < leaf.remainingOnPage address := by
  rw [remainingOnPage_eq_sub isLeaf]
  exact Nat.sub_pos_of_lt (Nat.mod_lt _ (Nat.two_pow_pos _))

theorem toNat_add_in_page
    (inside : va.toNat % 2 ^ leaf.pageSizeLog2 + off < 2 ^ leaf.pageSizeLog2) :
    (va + ofNat 64 off).toNat = va.toNat + off := by
  obtain ⟨rest, size⟩ := Nat.exists_eq_add_of_le isLeaf.small
  have whole : va.toNat + off < 2 ^ 64 := by
    have bound : va.toNat / 2 ^ leaf.pageSizeLog2 < 2 ^ rest := by
      apply Nat.div_lt_of_lt_mul
      rw [← Nat.pow_add, ← size]
      exact va.isLt
    calc va.toNat + off
        = 2 ^ leaf.pageSizeLog2 * (va.toNat / 2 ^ leaf.pageSizeLog2) +
            (va.toNat % 2 ^ leaf.pageSizeLog2 + off) := by
          rw [← Nat.add_assoc, Nat.div_add_mod]
      _ < 2 ^ leaf.pageSizeLog2 * (va.toNat / 2 ^ leaf.pageSizeLog2) + 2 ^ leaf.pageSizeLog2 :=
          Nat.add_lt_add_left inside _
      _ = 2 ^ leaf.pageSizeLog2 * (va.toNat / 2 ^ leaf.pageSizeLog2 + 1) := (Nat.mul_succ _ _).symm
      _ ≤ 2 ^ leaf.pageSizeLog2 * 2 ^ rest := Nat.mul_le_mul_left _ bound
      _ = 2 ^ 64 := by rw [← Nat.pow_add, ← size]
  rw [toNat_add, toNat_ofNat, Nat.mod_eq_of_lt (by omega : off < 2 ^ 64),
    Nat.mod_eq_of_lt whole]

omit isLeaf in
theorem found_in_page (found : hptwCheckedGetPmeo ctx mem access cpl va = some leaf)
    (inside : va.toNat % 2 ^ leaf.pageSizeLog2 + off < 2 ^ leaf.pageSizeLog2) :
    hptwCheckedGetPmeo ctx mem access cpl (va + ofNat 64 off) = some leaf := by
  have isLeaf := isLeaf_of_found found
  obtain ⟨-, -, type, low, -⟩ := hptwCheckedGetPmeo_leaf found
  have small : off < 2 ^ leaf.pageSizeLog2 := Nat.lt_of_le_of_lt (Nat.le_add_left _ _) inside
  have same : (va + ofNat 64 off).toNat / 2 ^ leaf.pageSizeLog2 =
      va.toNat / 2 ^ leaf.pageSizeLog2 := by
    rw [toNat_add_in_page isLeaf inside, Nat.add_div_eq_of_add_mod_lt
      (by rw [Nat.mod_eq_of_lt small]; exact inside), Nat.div_eq_of_lt small, Nat.add_zero]
  apply hptwCheckedGetPmeo_congr found
  intro lvl above upto
  exact hptGetPmIdx_congr low above upto (type ▸ same)

theorem vaToPa_in_page (inside : va.toNat % 2 ^ leaf.pageSizeLog2 + off < 2 ^ leaf.pageSizeLog2) :
    leaf.vaToPa (va + ofNat 64 off) = leaf.vaToPa va + ofNat 64 off := by
  have small : off < 2 ^ leaf.pageSizeLog2 := Nat.lt_of_le_of_lt (Nat.le_add_left _ _) inside
  have offset : va + ofNat 64 off &&& maskRange64 (hptVaIdxHi leaf.t (leaf.lvl - 1)) 0 =
      (va &&& maskRange64 (hptVaIdxHi leaf.t (leaf.lvl - 1)) 0) + ofNat 64 off := by
    apply BitVec.eq_of_toNat_eq
    have bound := (va + ofNat 64 off).isLt
    have sum := toNat_add_in_page isLeaf inside
    have part := Nat.mod_le va.toNat (2 ^ leaf.pageSizeLog2)
    rw [toNat_offset isLeaf, sum, toNat_add, toNat_offset isLeaf, toNat_ofNat,
      Nat.add_mod_of_add_mod_lt (by rw [Nat.mod_eq_of_lt small]; exact inside),
      Nat.mod_eq_of_lt small, Nat.mod_eq_of_lt (show off < 2 ^ 64 by omega),
      Nat.mod_eq_of_lt (show va.toNat % 2 ^ leaf.pageSizeLog2 + off < 2 ^ 64 by omega)]
  rw [Pmeo.vaToPa, Pmeo.vaToPa, offset, BitVec.add_assoc]

end

/-- The frame of the leaf starts at a multiple of its size. -/
def Pmeo.Aligned (leaf : Pmeo) : Prop := leaf.getAddress.toNat % 2 ^ leaf.pageSizeLog2 = 0

theorem toNat_vaToPa_offset (isLeaf : leaf.IsPageLeaf) (aligned : leaf.Aligned) (va : Va) :
    (leaf.vaToPa va).toNat % 2 ^ leaf.pageSizeLog2 = va.toNat % 2 ^ leaf.pageSizeLog2 := by
  have whole : 2 ^ leaf.pageSizeLog2 ∣ 2 ^ 64 := Nat.pow_dvd_pow 2 isLeaf.small
  rw [Pmeo.vaToPa, toNat_add, toNat_offset isLeaf, Nat.mod_mod_of_dvd _ whole, Nat.add_mod,
    aligned, Nat.zero_add, Nat.mod_mod, Nat.mod_mod]

end

end Xmhf
