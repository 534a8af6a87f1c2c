import Mathlib.Tactic.IntervalCases
import Xmhf.Hpt.Insert

/-!
# EPT entries

The accessors of `Xmhf.Hpt.Entry` at the EPT type: bit by bit for the setters,
as numbers for addresses and indices. EPT entries keep the address in bits
51:12 at every level, also where the page is larger than 4 KiB, so a walk adds
the page offset to an address that may have bits below the page size.
-/

namespace Xmhf

/-! ## Bits -/

section

variable (lvl : Nat) (entry : Pme)

include lvl entry

theorem getLsbD_ept_setAddress (addr : Pa) (i : Nat) :
    (hptPmeSetAddress .ept lvl entry addr).getLsbD i =
      if 12 ≤ i ∧ i ≤ 51 then addr.getLsbD i else entry.getLsbD i :=
  @getLsbD_br64CopyBitsHl entry addr 51 12 (by decide) (by decide) i

theorem getLsbD_ept_getAddress (i : Nat) :
    (hptPmeGetAddress .ept lvl entry).getLsbD i =
      if 12 ≤ i ∧ i ≤ 51 then entry.getLsbD i else false := by
  have bits := @getLsbD_br64CopyBitsHl 0#64 entry 51 12 (by decide) (by decide) i
  rw [BitVec.getLsbD_zero] at bits
  exact bits

theorem getLsbD_ept_setprot {perms : Prot} (fits : ∀ i, 2 < i → perms.getLsbD i = false) (i : Nat) :
    (hptPmeSetprot .ept lvl entry perms).getLsbD i =
      if i ≤ 2 then perms.getLsbD i else entry.getLsbD i := by
  have bits := @getLsbD_br64SetHl entry perms 2 0 (by decide) (by decide) fits i
  simp only [Nat.zero_le, true_and, Nat.sub_zero] at bits
  exact bits

theorem getLsbD_ept_setPmt {pmt : U64} (fits : ∀ i, 2 < i → pmt.getLsbD i = false) (i : Nat) :
    (hptPmeSetPmt .ept lvl entry pmt).getLsbD i =
      if 3 ≤ i ∧ i ≤ 5 then pmt.getLsbD (i - 3) else entry.getLsbD i :=
  @getLsbD_br64SetHl entry pmt 5 3 (by decide) (by decide) fits i

omit lvl entry in
theorem getLsbD_ept_getPmt_high (entry : Pme) {i : Nat} (above : 2 < i) :
    (hptPmeGetPmt .ept entry).getLsbD i = false :=
  @getLsbD_br64GetHl_high entry 5 3 (by decide) (by decide) i above

theorem ept_isPage : hptPmeIsPage .ept lvl entry =
      (lvl == 1 || ((lvl == 2 || lvl == 3) && entry.getLsbD 7)) := by
  have bit : br64GetBit entry 7 = entry.getLsbD 7 := @br64GetBit_eq entry 7 (by decide)
  rw [hptPmeIsPage, bit]

theorem ept_getprot : hptPmeGetprot .ept lvl entry =
      hptProtOf (entry.getLsbD 0) (entry.getLsbD 1) (entry.getLsbD 2) := by
  have read : testMaskBit64 entry 0 = entry.getLsbD 0 := @testMaskBit64_eq entry 0 (by decide)
  have write : testMaskBit64 entry 1 = entry.getLsbD 1 := @testMaskBit64_eq entry 1 (by decide)
  have exec : testMaskBit64 entry 2 = entry.getLsbD 2 := @testMaskBit64_eq entry 2 (by decide)
  rw [hptPmeGetprot, read, write, exec]

omit lvl entry in
theorem getLsbD_hptProtOf (r w x : Bool) (i : Nat) : (hptProtOf r w x).getLsbD i =
      if i = 0 then r else if i = 1 then w else if i = 2 then x else false := by
  match i with
  | 0 => cases r <;> cases w <;> cases x <;> decide
  | 1 => cases r <;> cases w <;> cases x <;> decide
  | 2 => cases r <;> cases w <;> cases x <;> decide
  | i + 3 =>
    have small : (hptProtOf r w x).toNat < 2 ^ (i + 3) := by
      have eight : (hptProtOf r w x).toNat < 8 := by
        cases r <;> cases w <;> cases x <;> decide
      calc (hptProtOf r w x).toNat < 2 ^ 3 := eight
        _ ≤ 2 ^ (i + 3) := Nat.pow_le_pow_right (by decide) (by omega)
    have zero : (hptProtOf r w x).getLsbD (i + 3) = false := by
      rw [BitVec.getLsbD]
      exact Nat.testBit_lt_two_pow small
    simp [zero]

theorem getLsbD_ept_getprot (i : Nat) :
    (hptPmeGetprot .ept lvl entry).getLsbD i = if i ≤ 2 then entry.getLsbD i else false := by
  rw [ept_getprot, getLsbD_hptProtOf]
  match i with
  | 0 => rfl
  | 1 => rfl
  | 2 => rfl
  | i + 3 => simp

theorem ept_isPresent : hptPmeIsPresent .ept lvl entry =
      (entry.getLsbD 0 || entry.getLsbD 1 || entry.getLsbD 2) := by
  rw [hptPmeIsPresent, ept_getprot]
  cases entry.getLsbD 0 <;> cases entry.getLsbD 1 <;> cases entry.getLsbD 2 <;> decide

/-! ## Addresses and indices as numbers -/

theorem toNat_ept_getAddress :
    (hptPmeGetAddress .ept lvl entry).toNat = entry.toNat % 2 ^ 52 / 2 ^ 12 * 2 ^ 12 := by
  have range : (br64GetHl entry 51 12).toNat = entry.toNat % 2 ^ 52 / 2 ^ 12 :=
    @toNat_br64GetHl entry 51 12 (by decide) (by decide)
  have shifted : hptPmeGetAddress .ept lvl entry = br64GetHl entry 51 12 <<< 12 := by
    rw [hptPmeGetAddress, br64CopyBitsHl, br64SetHl, BitVec.zero_and, BitVec.zero_or]
    rfl
  rw [shifted, BitVec.toNat_shiftLeft, range, Nat.shiftLeft_eq]
  omega

theorem ept_getAddress_lt : (hptPmeGetAddress .ept lvl entry).toNat < 2 ^ 52 := by
  rw [toNat_ept_getAddress]
  omega

end

/-- Number of address bits below the index of level `lvl`. -/
def eptShift (lvl : Nat) : Nat := hptVaIdxHi .ept (lvl - 1) + 1

theorem hptGetPmIdx_ept_one (va : Va) :
    hptGetPmIdx .ept 1 va = va.toNat % 2 ^ 21 / 2 ^ 12 :=
  @toNat_br64GetHl va 20 12 (by decide) (by decide)

theorem hptGetPmIdx_ept_two (va : Va) :
    hptGetPmIdx .ept 2 va = va.toNat % 2 ^ 30 / 2 ^ 21 :=
  @toNat_br64GetHl va 29 21 (by decide) (by decide)

theorem hptGetPmIdx_ept_three (va : Va) :
    hptGetPmIdx .ept 3 va = va.toNat % 2 ^ 39 / 2 ^ 30 :=
  @toNat_br64GetHl va 38 30 (by decide) (by decide)

theorem hptGetPmIdx_ept_four (va : Va) :
    hptGetPmIdx .ept 4 va = va.toNat % 2 ^ 48 / 2 ^ 39 :=
  @toNat_br64GetHl va 47 39 (by decide) (by decide)

variable {k l : Nat} {leaf : Pmeo} {va va' : Va}

theorem toNat_ept_vaToPa (type : leaf.t = .ept) (low : 1 ≤ leaf.lvl) (high : leaf.lvl ≤ 3)
    (va : Va) :
    (leaf.vaToPa va).toNat = leaf.getAddress.toNat + va.toNat % 2 ^ eptShift leaf.lvl := by
  obtain ⟨pme, t, lvl⟩ := leaf
  dsimp only at type low high
  subst type
  have bound := ept_getAddress_lt lvl pme
  have small : hptVaIdxHi .ept (lvl - 1) < 30 := by
    interval_cases lvl <;> decide
  have offset : (va &&& maskRange64 (hptVaIdxHi .ept (lvl - 1)) 0).toNat =
      va.toNat % 2 ^ eptShift lvl := by
    have range := @toNat_br64GetHl va (hptVaIdxHi .ept (lvl - 1)) 0 (Nat.zero_le _) (by omega)
    rw [Nat.pow_zero, Nat.div_one] at range
    rw [and_maskRange64_zero va (by omega)]
    exact range
  have page : va.toNat % 2 ^ eptShift lvl < 2 ^ 30 :=
    calc va.toNat % 2 ^ eptShift lvl < 2 ^ eptShift lvl := Nat.mod_lt _ (Nat.two_pow_pos _)
      _ ≤ 2 ^ 30 := Nat.pow_le_pow_right (by decide) small
  unfold Pmeo.vaToPa Pmeo.getAddress
  dsimp only
  rw [BitVec.toNat_add, offset]
  omega

theorem ept_leaf {ctx : HptwCtx} {mem : Mem} {access : Prot} {cpl : Nat} (type : ctx.t = .ept)
    (found : hptwCheckedGetPmeo ctx mem access cpl va = some leaf) :
    leaf.t = .ept ∧ 1 ≤ leaf.lvl ∧ leaf.lvl ≤ 3 := by
  obtain ⟨-, page, leafType, low, high⟩ := hptwCheckedGetPmeo_leaf found
  rw [type] at leafType high
  refine ⟨leafType, low, ?_⟩
  -- A level 4 entry is never a page
  by_contra above
  have four : leaf.lvl = 4 := Nat.le_antisymm high (Nat.lt_of_not_le above)
  rw [Pmeo.isPage, leafType, four, ept_isPage] at page
  cases page

/-! ## Addresses that share a path -/

/-- Two addresses select the same entries at level `lvl` and above. -/
def SamePath (lvl : Nat) (va va' : Va) : Prop :=
  ∀ l, lvl ≤ l → l ≤ 4 → hptGetPmIdx .ept l va' = hptGetPmIdx .ept l va

theorem SamePath.mono (same : SamePath k va va') (le : k ≤ l) : SamePath l va va' :=
  fun m low high => same m (Nat.le_trans le low) high

theorem SamePath.of_div {lvl : Nat} (low : 1 ≤ lvl) (high : lvl ≤ 3)
    (same : va'.toNat / 2 ^ eptShift lvl = va.toNat / 2 ^ eptShift lvl) : SamePath lvl va va' := by
  intro l above upto
  have level : l = 1 ∨ l = 2 ∨ l = 3 ∨ l = 4 := by omega
  interval_cases lvl <;> rcases level with rfl | rfl | rfl | rfl <;>
    simp only [eptShift, hptVaIdxHi, hptGetPmIdx_ept_one, hptGetPmIdx_ept_two,
      hptGetPmIdx_ept_three, hptGetPmIdx_ept_four] at same above ⊢ <;>
    omega

theorem SamePath.offset (same : SamePath k va va') (low : 1 ≤ k) (le : k ≤ l) (high : l ≤ 3) :
    va'.toNat % 2 ^ eptShift l / 2 ^ eptShift k = va.toNat % 2 ^ eptShift l / 2 ^ eptShift k := by
  have one : k ≤ 1 → va'.toNat % 2 ^ 21 / 2 ^ 12 = va.toNat % 2 ^ 21 / 2 ^ 12 := fun h => by
    rw [← hptGetPmIdx_ept_one, ← hptGetPmIdx_ept_one]
    exact same 1 h (by decide)
  have two : k ≤ 2 → va'.toNat % 2 ^ 30 / 2 ^ 21 = va.toNat % 2 ^ 30 / 2 ^ 21 := fun h => by
    rw [← hptGetPmIdx_ept_two, ← hptGetPmIdx_ept_two]
    exact same 2 h (by decide)
  have levels : (k = 1 ∨ k = 2 ∨ k = 3) ∧ (l = 1 ∨ l = 2 ∨ l = 3) := by omega
  obtain ⟨rfl | rfl | rfl, rfl | rfl | rfl⟩ := levels <;>
    simp only [eptShift, hptVaIdxHi] at le ⊢ <;> omega

end Xmhf
