import Mathlib.Tactic.IntervalCases
import Xmhf.Memprot.Mtrr

/-!
# The architectural memory type

What the MTRRs say about a page, in the processor manual's terms: the byte of a fixed-range
register, the combination of the variable ranges that cover the page, or the default type.
`_vmx_getmemorytypeforphysicalpage` is compared with it for every page and every shadow that
passes the validity checks.

The two differ in two places. For a fixed range the source subtracts the page from the start of
the range and so counts the bytes backwards. Among variable ranges an uncacheable one decides,
but the source halts on two that conflict before it comes to the uncacheable one.
-/

namespace Xmhf

/-- Every register passes its check, and the enable bits and the default type are those of
`IA32_MTRR_DEF_TYPE`. -/
structure GuestMtrrMsrs.Accepted (m : GuestMtrrMsrs) : Prop where
  defType : vmxMtrrCheckdeftype m.defType = some (m.mtrrEnable, m.fixmtrrEnable, m.defaulttype)
  fixed : ∀ i, i < NUM_FIXED_MTRRS → vmxMtrrCheckfixed (m.fixMtrrs i) = true
  variableRange : ∀ i, i < m.varCount →
    vmxMtrrCheckvariable m.paddrmask (m.varMtrrs i).base (m.varMtrrs i).mask = true

/-! ## The architecture -/

/-- The fixed-range register for an address below 1 MB. -/
def archFixedRegister (paddr : Nat) : Nat :=
  if paddr < 0x80000 then 0
  else if paddr < 0xc0000 then 1 + (paddr - 0x80000) / 0x20000
  else 3 + (paddr - 0xc0000) / 0x8000

/-- How much memory one byte of that register describes. -/
def archFixedStep (paddr : Nat) : Nat :=
  if paddr < 0x80000 then 0x10000 else if paddr < 0xc0000 then 0x4000 else 0x1000

def archFixedByte (paddr : Nat) : Nat := paddr / archFixedStep paddr % 8

/-- The range is valid, and the address agrees with its base wherever the mask has a bit. -/
def GuestVarMtrrMsrPair.Matches (pair : GuestVarMtrrMsrPair) (paddr : U64) : Prop :=
  pair.mask.getLsbD 11 = true ∧
    ∀ k, 12 ≤ k → pair.mask.getLsbD k = true → paddr.getLsbD k = pair.base.getLsbD k

def GuestVarMtrrMsrPair.type (pair : GuestVarMtrrMsrPair) : U32 := (pair.base &&& 0xff).setWidth 32

/-- The types of the variable ranges that an address is in. -/
def GuestMtrrMsrs.matchingTypes (m : GuestMtrrMsrs) (paddr : U64) : Set U32 :=
  {type | ∃ i, i < m.varCount ∧ (m.varMtrrs i).Matches paddr ∧ (m.varMtrrs i).type = type}

/-- The precedence of overlapping variable ranges. Other overlaps are undefined. -/
inductive ArchPrecedence (types : Set U32) : U32 → Prop where
  | uncacheable : MTRR_TYPE_UC ∈ types → ArchPrecedence types MTRR_TYPE_UC
  | same {type : U32} : types = {type} → ArchPrecedence types type
  | writeThrough : types = {MTRR_TYPE_WT, MTRR_TYPE_WB} → ArchPrecedence types MTRR_TYPE_WT

/-- The memory type that the registers give to an address. -/
def ArchMemoryType (m : GuestMtrrMsrs) (paddr : U64) (type : U32) : Prop :=
  if m.defType.getLsbD 11 = false then type = MTRR_TYPE_UC
  else if paddr.toNat < 0x100000 ∧ m.defType.getLsbD 10 = true then
    type = fixedMtrrByte (m.fixMtrrs (archFixedRegister paddr.toNat)) (archFixedByte paddr.toNat)
  else if m.matchingTypes paddr = ∅ then type = (m.defType.setWidth 8).setWidth 32
  else ArchPrecedence (m.matchingTypes paddr) type

/-! ## Fixed ranges -/

/-- The byte that the source takes: the pieces between the start of the register's range and
the address are counted back from the end of the register. -/
def backwardByte (paddr : Nat) : Nat :=
  let step := archFixedStep paddr
  (8 - (paddr % (8 * step) + step - 1) / step) % 8

theorem backwardByte_lt (paddr : Nat) : backwardByte paddr < 8 := Nat.mod_lt _ (by decide)

theorem archFixedStep_cases (paddr : Nat) : archFixedStep paddr = 0x10000 ∨
    archFixedStep paddr = 0x4000 ∨ archFixedStep paddr = 0x1000 := by
  unfold archFixedStep
  split_ifs
  · exact .inl rfl
  · exact .inr (.inl rfl)
  · exact .inr (.inr rfl)

theorem archFixedRegister_lt {paddr : Nat} (low : paddr < 0x100000) :
    archFixedRegister paddr < fixedMtrrProp.length := by
  change archFixedRegister paddr < 11
  unfold archFixedRegister
  split_ifs <;> omega

theorem fixedMtrrProp_range {paddr : Nat} (low : paddr < 0x100000) {prop : FixedMtrrProp}
    (at_ : fixedMtrrProp[archFixedRegister paddr]? = some prop) :
    prop.step.toNat = archFixedStep paddr ∧ prop.start.toNat ≤ paddr ∧
      paddr < prop.start.toNat + 8 * archFixedStep paddr ∧
      prop.start.toNat % (8 * archFixedStep paddr) = 0 := by
  have reg : archFixedRegister paddr < 11 := archFixedRegister_lt low
  generalize isReg : archFixedRegister paddr = r at reg at_
  unfold archFixedRegister at isReg
  unfold archFixedStep
  interval_cases r
  all_goals
    cases at_
    simp only [BitVec.reduceToNat]
    split_ifs at isReg ⊢ <;> omega

theorem fixedMtrrProp_ordered : ∀ i j : Fin 11, j < i →
    (fixedMtrrProp.get j).stop.toNat ≤ (fixedMtrrProp.get i).start.toNat := by
  decide

theorem fixedMtrrProp_stop : ∀ prop ∈ fixedMtrrProp,
    prop.stop.toNat = prop.start.toNat + 8 * prop.step.toNat := by
  decide

theorem lt_stop (paddr : U64) (stop : U32) :
    paddr < stop.setWidth 64 ↔ paddr.toNat < stop.toNat := by
  have bound := stop.isLt
  rw [BitVec.lt_def, BitVec.toNat_setWidth, Nat.mod_eq_of_lt (by omega)]

variable {m : GuestMtrrMsrs} {types : Set U32} {type a b prevType curType : U32} {paddr : U64}

theorem fixedMtrrProp_find (low : paddr.toNat < 0x100000) :
    (fixedMtrrProp.findIdx? fun prop => paddr < prop.stop.setWidth 64) =
      some (archFixedRegister paddr.toNat) := by
  have inside := archFixedRegister_lt low
  obtain ⟨size, above, below, -⟩ := fixedMtrrProp_range low (List.getElem?_eq_getElem inside)
  refine List.findIdx?_eq_some_iff_getElem.mpr ⟨inside, ?_, fun j before => ?_⟩
  · rw [decide_eq_true_eq, lt_stop, fixedMtrrProp_stop _ (List.getElem_mem inside), size]
    exact below
  · have ends := fixedMtrrProp_ordered ⟨_, inside⟩ ⟨j, before.trans inside⟩ before
    rw [decide_eq_true_eq, lt_stop]
    exact Nat.not_lt.mpr (ends.trans above)

theorem backward_index {start offset step : Nat}
    (sizes : step = 0x10000 ∨ step = 0x4000 ∨ step = 0x1000) (inside : offset < 8 * step)
    (bound : start < 2 ^ 32) :
    (2 ^ 64 - (start + offset) + start) % 2 ^ 64 / step % 8 =
      (8 - (offset + step - 1) / step) % 8 := by
  rcases Nat.eq_zero_or_pos offset with rfl | pos
  · rw [show 2 ^ 64 - (start + 0) + start = 2 ^ 64 by omega, Nat.mod_self]
    rcases sizes with rfl | rfl | rfl <;> rfl
  · have wraps : (2 ^ 64 - (start + offset) + start) % 2 ^ 64 = 2 ^ 64 - offset := by omega
    rw [wraps]
    generalize pieces : (offset + step - 1) / step = q
    have index : (2 ^ 64 - offset) / step = 2 ^ 64 / step - q := by
      rcases sizes with rfl | rfl | rfl <;> omega
    have small : 1 ≤ q ∧ q ≤ 8 := by
      rcases sizes with rfl | rfl | rfl <;> omega
    rw [index]
    rcases sizes with rfl | rfl | rfl <;> omega

theorem backward_shift {start step : U32} (size : step.toNat = archFixedStep paddr.toNat)
    (above : start.toNat ≤ paddr.toNat)
    (below : paddr.toNat < start.toNat + 8 * archFixedStep paddr.toNat)
    (aligned : start.toNat % (8 * archFixedStep paddr.toNat) = 0) :
    shiftAmount ((((start.setWidth 64 - paddr) / step.setWidth 64).setWidth 32 * 8 : U32).toNat) =
      8 * backwardByte paddr.toNat := by
  have startBound := start.isLt
  have stepBound := step.isLt
  have eight : (8 : U32).toNat = 8 := rfl
  have sizes := archFixedStep_cases paddr.toNat
  rw [backwardByte, ← size]
  rw [← size] at below aligned sizes
  obtain ⟨offset, address⟩ := Nat.exists_eq_add_of_le above
  have offsetBound : offset < 8 * step.toNat := by omega
  have rest : paddr.toNat % (8 * step.toNat) = offset := by
    rw [address, Nat.add_mod, aligned, Nat.zero_add, Nat.mod_mod, Nat.mod_eq_of_lt offsetBound]
  rw [rest, ← backward_index sizes offsetBound startBound, ← address]
  simp only [shiftAmount, BitVec.toNat_mul, BitVec.toNat_setWidth, BitVec.toNat_udiv,
    BitVec.toNat_sub, eight, Nat.mod_eq_of_lt (show start.toNat < 2 ^ 64 by omega),
    Nat.mod_eq_of_lt (show step.toNat < 2 ^ 64 by omega)]
  -- only the number of pieces modulo eight reaches the shift
  generalize (2 ^ 64 - paddr.toNat + start.toNat) % 2 ^ 64 / step.toNat = index
  omega

theorem fixedMemoryType_eq (m : GuestMtrrMsrs) (low : paddr.toNat < 0x100000) :
    fixedMemoryType m paddr = some
      (fixedMtrrByte (m.fixMtrrs (archFixedRegister paddr.toNat)) (backwardByte paddr.toNat)) := by
  have inside := archFixedRegister_lt low
  have at_ := List.getElem?_eq_getElem inside
  obtain ⟨size, above, below, aligned⟩ := fixedMtrrProp_range low at_
  have shift := backward_shift size above below aligned
  have byte : shiftAmount (8 * backwardByte paddr.toNat : Nat) = 8 * backwardByte paddr.toNat :=
    shiftAmount_natCast (by have := backwardByte_lt paddr.toNat; omega)
  simp only [fixedMemoryType, fixedMtrrProp_find low, Option.bind_eq_bind, Option.bind_some, at_,
    shift, Option.pure_def, fixedMtrrByte]
  rw [← byte]
  rfl

/-! ## Variable ranges -/

theorem getLsbD_frameMask (k : Nat) :
    (~~~(0xfff : U64)).getLsbD k = (decide (k < 64) && decide (12 ≤ k)) := by
  have low : (0xfff : U64).getLsbD k = decide (k < 12) := by
    change Nat.testBit (2 ^ 12 - 1) k = _
    rw [Nat.testBit_two_pow_sub_one]
  simp only [BitVec.getLsbD_not, low, ← Nat.not_lt, decide_not]

theorem masked_bit_iff (base mask paddr : U64) (k : Nat) :
    (paddr &&& (mask &&& ~~~0xfff)).getLsbD k =
        ((base &&& ~~~0xfff) &&& (mask &&& ~~~0xfff)).getLsbD k ↔
      (12 ≤ k → mask.getLsbD k = true → paddr.getLsbD k = base.getLsbD k) := by
  simp only [BitVec.getLsbD_and, getLsbD_frameMask]
  cases masked : mask.getLsbD k with
  | false => simp
  | true =>
    have inside : k < 64 := BitVec.lt_of_getLsbD masked
    by_cases high : 12 ≤ k
    · simp only [inside, high, decide_true, Bool.and_true, forall_const]
    · simp only [high, decide_false, Bool.and_false, false_implies]

theorem covers_iff (pair : GuestVarMtrrMsrPair) (paddr : U64) :
    pair.covers paddr = true ↔ pair.Matches paddr := by
  rw [GuestVarMtrrMsrPair.covers, Bool.and_eq_true, GuestVarMtrrMsrPair.Matches]
  refine and_congr ?_ ?_
  · have valid := testMaskBit64_eq pair.mask (show 11 < 64 by decide)
    exact iff_of_eq (congrArg (· = true) valid)
  · rw [beq_iff_eq]
    constructor
    · intro equal k
      exact (masked_bit_iff _ _ _ k).mp (congrArg (·.getLsbD k) equal)
    · intro agree
      exact BitVec.eq_of_getLsbD_eq fun k _ => (masked_bit_iff _ _ _ k).mpr (agree k)

/-- The types of the ranges that cover a page, in the order of the pairs. -/
def GuestMtrrMsrs.coveringTypes (m : GuestMtrrMsrs) (paddr : U64) : List U32 :=
  ((List.range m.varCount).filter fun i => (m.varMtrrs i).covers paddr).map fun i =>
    (m.varMtrrs i).type

theorem mem_coveringTypes : type ∈ m.coveringTypes paddr ↔ type ∈ m.matchingTypes paddr := by
  simp only [GuestMtrrMsrs.coveringTypes, List.mem_map, List.mem_filter, List.mem_range,
    covers_iff, and_assoc]
  rfl

theorem foldlM_variableMemoryType (m : GuestMtrrMsrs) (paddr : U64) (indices : List Nat)
    (prevType : U32) :
    indices.foldlM (variableMemoryType m paddr) prevType =
      ((indices.filter fun i => (m.varMtrrs i).covers paddr).map fun i =>
        (m.varMtrrs i).type).foldlM combineMemoryType prevType := by
  induction indices generalizing prevType with
  | nil => rfl
  | cons i rest ih =>
    rw [List.foldlM_cons, List.filter_cons, variableMemoryType]
    split
    · rw [List.map_cons, List.foldlM_cons]
      exact bind_congr ih
    · exact ih prevType

/-- Two types that can overlap without an uncacheable range. -/
def Compatible (a b : U32) : Prop :=
  a = b ∨ (a = MTRR_TYPE_WT ∨ a = MTRR_TYPE_WB) ∧ (b = MTRR_TYPE_WT ∨ b = MTRR_TYPE_WB)

theorem Compatible.symm (ab : Compatible a b) : Compatible b a := by
  rcases ab with rfl | ⟨left, right⟩
  · exact .inl rfl
  · exact .inr ⟨right, left⟩

theorem Compatible.trans {c : U32} (ab : Compatible a b) (bc : Compatible b c) :
    Compatible a c := by
  rcases ab with rfl | ⟨left, middle⟩
  · exact bc
  · rcases bc with rfl | ⟨-, right⟩
    · exact .inr ⟨left, middle⟩
    · exact .inr ⟨left, right⟩

theorem combine_uncacheable (began : prevType ≠ MTRR_TYPE_RESV)
    (either : prevType = MTRR_TYPE_UC ∨ curType = MTRR_TYPE_UC) :
    combineMemoryType prevType curType = some MTRR_TYPE_UC := by
  simp only [combineMemoryType, Bool.or_eq_true, beq_iff_eq, began, false_or, if_pos either]
  split
  next same =>
    rcases either with isUc | isUc
    · rw [← same, isUc]
    · rw [isUc]
  · rfl

theorem combine_cacheable (began : prevType ≠ MTRR_TYPE_RESV) (prev : prevType ≠ MTRR_TYPE_UC)
    (cur : curType ≠ MTRR_TYPE_UC) :
    (¬ Compatible prevType curType ∧ combineMemoryType prevType curType = none) ∨
      (prevType = curType ∧ combineMemoryType prevType curType = some curType) ∨
      (prevType = MTRR_TYPE_WB ∧ curType = MTRR_TYPE_WT ∨
          prevType = MTRR_TYPE_WT ∧ curType = MTRR_TYPE_WB) ∧
        combineMemoryType prevType curType = some MTRR_TYPE_WT := by
  simp only [combineMemoryType, Bool.or_eq_true, Bool.and_eq_true, beq_iff_eq, began, prev, cur,
    false_or, if_false, or_self, Compatible]
  split_ifs with same mixed mixed
  · exact .inr (.inl ⟨same, rfl⟩)
  · exact .inr (.inr ⟨.inl mixed, rfl⟩)
  · exact .inr (.inr ⟨.inr mixed, rfl⟩)
  · refine .inl ⟨?_, rfl⟩
    rintro (equal | ⟨rfl | rfl, rfl | rfl⟩)
    · exact same equal
    all_goals simp_all

theorem precedence_insert_writeThrough :
    ArchPrecedence (insert MTRR_TYPE_WT types) type ↔ MTRR_TYPE_UC ∈ types ∧ type = MTRR_TYPE_UC ∨
        types ⊆ {MTRR_TYPE_WT, MTRR_TYPE_WB} ∧ type = MTRR_TYPE_WT := by
  constructor
  · intro decided
    cases decided with
    | uncacheable uc =>
      rcases uc with isWt | uc
      · cases isWt
      · exact .inl ⟨uc, rfl⟩
    | same single =>
      have wt : MTRR_TYPE_WT = type := single.subset (Set.mem_insert _ _)
      subst wt
      refine .inr ⟨fun x mem => .inl ?_, rfl⟩
      exact single.subset (Set.mem_insert_of_mem _ mem)
    | writeThrough both => exact .inr ⟨(Set.subset_insert _ _).trans both.subset, rfl⟩
  · rintro (⟨uc, rfl⟩ | ⟨few, rfl⟩)
    · exact .uncacheable (Set.mem_insert_of_mem _ uc)
    · by_cases wb : MTRR_TYPE_WB ∈ types
      · refine .writeThrough (Set.Subset.antisymm ?_ ?_)
        · exact Set.insert_subset (.inl rfl) few
        · exact Set.insert_subset_insert (Set.singleton_subset_iff.mpr wb)
      · refine .same (Set.Subset.antisymm (Set.insert_subset rfl fun x mem => ?_) ?_)
        · rcases few mem with rfl | rfl
          · rfl
          · exact absurd mem wb
        · exact Set.singleton_subset_iff.mpr (Set.mem_insert _ _)

theorem precedence_mixed :
    ArchPrecedence (insert MTRR_TYPE_WT (insert MTRR_TYPE_WB types)) type ↔
      ArchPrecedence (insert MTRR_TYPE_WT types) type := by
  rw [precedence_insert_writeThrough, precedence_insert_writeThrough, Set.insert_subset_iff]
  have notWb : MTRR_TYPE_UC ∈ insert MTRR_TYPE_WB types ↔ MTRR_TYPE_UC ∈ types := by
    rw [Set.mem_insert_iff]
    exact or_iff_right (by decide)
  have wb : MTRR_TYPE_WB ∈ ({MTRR_TYPE_WT, MTRR_TYPE_WB} : Set U32) := .inr rfl
  simp only [notWb, wb, true_and]

theorem precedence_uncacheable (uc : MTRR_TYPE_UC ∈ types) :
    ArchPrecedence types type ↔ type = MTRR_TYPE_UC := by
  constructor
  · intro decided
    cases decided with
    | uncacheable => rfl
    | same single =>
      subst single
      exact uc.symm
    | writeThrough both =>
      subst both
      rcases uc with isWt | isWb
      · cases isWt
      · cases isWb
  · rintro rfl
    exact .uncacheable uc

theorem foldlM_combine_uncacheable (types : List U32) :
    types.foldlM combineMemoryType MTRR_TYPE_UC = some MTRR_TYPE_UC := by
  induction types with
  | nil => rfl
  | cons first rest ih =>
    rw [List.foldlM_cons, combine_uncacheable (by decide) (.inl rfl)]
    exact ih

theorem foldlM_combine_iff {types : List U32} (began : prevType ≠ MTRR_TYPE_RESV)
    (cacheable : prevType ≠ MTRR_TYPE_UC) (noResv : MTRR_TYPE_RESV ∉ types) (type : U32) :
    types.foldlM combineMemoryType prevType = some type ↔
      (∀ b ∈ types.takeWhile (· ≠ MTRR_TYPE_UC), Compatible prevType b) ∧
        ArchPrecedence (insert prevType {x | x ∈ types}) type := by
  induction types generalizing prevType with
  | nil =>
    have alone : insert prevType {x | x ∈ ([] : List U32)} = {prevType} := by simp
    rw [List.foldlM_nil, alone]
    constructor
    · rintro ⟨⟩
      exact ⟨nofun, .same rfl⟩
    · rintro ⟨-, decided⟩
      cases decided with
      | uncacheable uc => exact absurd uc.symm cacheable
      | same single => rw [Set.singleton_eq_singleton_iff.mp single]; rfl
      | writeThrough both =>
        have wt : MTRR_TYPE_WT = prevType := both.superset (.inl rfl)
        have wb : MTRR_TYPE_WB = prevType := both.superset (.inr rfl)
        exact absurd (wt.trans wb.symm) (by decide)
  | cons first rest ih =>
    rw [List.mem_cons, not_or] at noResv
    obtain ⟨firstValid, restValid⟩ := noResv
    have members : {x | x ∈ first :: rest} = insert first {x | x ∈ rest} := by
      ext x
      exact List.mem_cons
    rw [List.foldlM_cons, members]
    by_cases uc : first = MTRR_TYPE_UC
    · -- an uncacheable range decides, whatever follows
      rw [combine_uncacheable began (.inr uc), List.takeWhile_cons_of_neg (by simpa using uc),
        precedence_uncacheable (.inr (.inl uc.symm))]
      change List.foldlM combineMemoryType MTRR_TYPE_UC rest = some type ↔ _
      rw [foldlM_combine_uncacheable, Option.some.injEq, eq_comm]
      simp
    · rw [List.takeWhile_cons_of_pos (by simpa using uc), List.forall_mem_cons]
      rcases combine_cacheable began cacheable uc with
        ⟨conflict, halts⟩ | ⟨rfl, same⟩ | ⟨mixed, joined⟩
      · rw [halts]
        simp [conflict]
      · rw [same]
        change List.foldlM combineMemoryType prevType rest = some type ↔ _
        rw [ih began cacheable restValid, Set.insert_idem]
        simp [Compatible]
      · rw [joined]
        change List.foldlM combineMemoryType MTRR_TYPE_WT rest = some type ↔ _
        rw [ih (by decide) (by decide) restValid]
        have union : insert prevType (insert first {x | x ∈ rest}) =
            insert MTRR_TYPE_WT (insert MTRR_TYPE_WB {x | x ∈ rest}) := by
          rcases mixed with ⟨rfl, rfl⟩ | ⟨rfl, rfl⟩
          · exact Set.insert_comm _ _ _
          · rfl
        have near : Compatible prevType MTRR_TYPE_WT := by
          rcases mixed with ⟨rfl, -⟩ | ⟨rfl, -⟩
          · exact .inr ⟨.inr rfl, .inl rfl⟩
          · exact .inl rfl
        have nearFirst : Compatible prevType first := by
          rcases mixed with ⟨rfl, rfl⟩ | ⟨rfl, rfl⟩
          · exact .inr ⟨.inr rfl, .inl rfl⟩
          · exact .inr ⟨.inl rfl, .inr rfl⟩
        rw [union, precedence_mixed]
        refine and_congr ⟨fun all => ⟨nearFirst, fun b mem => near.trans (all b mem)⟩,
          fun all b mem => near.symm.trans (all.2 b mem)⟩ Iff.rfl

/-! ## The source against the architecture -/

/-- The types before the first uncacheable one do not conflict. -/
def Agree (types : List U32) : Prop :=
  ∀ a ∈ types.takeWhile (· ≠ MTRR_TYPE_UC), ∀ b ∈ types.takeWhile (· ≠ MTRR_TYPE_UC), Compatible a b

/-- Below 1 MB, the byte counted backwards holds the same type as the byte of the page. -/
def GuestMtrrMsrs.FixedBytesAgree (m : GuestMtrrMsrs) (paddr : U64) : Prop :=
  m.mtrrEnable = true → paddr.toNat < 0x100000 ∧ m.fixmtrrEnable = true →
    fixedMtrrByte (m.fixMtrrs (archFixedRegister paddr.toNat)) (backwardByte paddr.toNat) =
      fixedMtrrByte (m.fixMtrrs (archFixedRegister paddr.toNat)) (archFixedByte paddr.toNat)

/-- Where an uncacheable range covers the page, the ranges before it that cover the page do not
conflict with each other. -/
def GuestMtrrMsrs.NoConflictBeforeUncacheable (m : GuestMtrrMsrs) (paddr : U64) : Prop :=
  m.mtrrEnable = true → ¬ (paddr.toNat < 0x100000 ∧ m.fixmtrrEnable = true) →
    MTRR_TYPE_UC ∈ m.coveringTypes paddr → Agree (m.coveringTypes paddr)

theorem GuestMtrrMsrs.Accepted.bits (accepted : m.Accepted) :
    m.mtrrEnable = m.defType.getLsbD 11 ∧ m.fixmtrrEnable = m.defType.getLsbD 10 ∧
      m.defaulttype = (m.defType.setWidth 8).setWidth 32 := by
  have checked := accepted.defType
  have enable := testMaskBit64_eq m.defType (show 11 < 64 by decide)
  have fixed := testMaskBit64_eq m.defType (show 10 < 64 by decide)
  have byte : (m.defType &&& 0xff).setWidth 32 = (m.defType.setWidth 8).setWidth 32 := by
    apply BitVec.eq_of_toNat_eq
    rw [BitVec.toNat_setWidth, BitVec.toNat_and, BitVec.toNat_setWidth, BitVec.toNat_setWidth]
    exact congrArg (· % 2 ^ 32) (Nat.and_two_pow_sub_one_eq_mod m.defType.toNat 8)
  simp only [vmxMtrrCheckdeftype, Option.ite_none_left_eq_some, Option.some.injEq,
    Prod.mk.injEq] at checked
  obtain ⟨-, -, e, fe, type⟩ := checked
  exact ⟨e.symm.trans enable, fe.symm.trans fixed, type.symm.trans byte⟩

theorem GuestMtrrMsrs.Accepted.resv_notMem (accepted : m.Accepted) (paddr : U64) :
    MTRR_TYPE_RESV ∉ m.coveringTypes paddr := by
  intro resv
  obtain ⟨i, inside, covers, type⟩ := mem_coveringTypes.mp resv
  have checked := accepted.variableRange i inside
  have valid : (m.varMtrrs i).mask &&& 0x800 != 0 := by
    have bit := testMaskBit64_eq (m.varMtrrs i).mask (show 11 < 64 by decide)
    exact bit.trans covers.1
  simp only [vmxMtrrCheckvariable] at checked
  rw [GuestVarMtrrMsrPair.type] at type
  rw [valid, type] at checked
  simp [show vmxMtrrChecktype MTRR_TYPE_RESV = false from rfl] at checked

/-- The architecture's answer of the variable ranges and the default type. -/
def ArchVariableType (types : Set U32) (defaulttype type : U32) : Prop :=
  if types = ∅ then type = defaulttype else ArchPrecedence types type

theorem ArchPrecedence.ne_resv (decided : ArchPrecedence types type)
    (noResv : MTRR_TYPE_RESV ∉ types) : type ≠ MTRR_TYPE_RESV := by
  cases decided with
  | uncacheable | writeThrough => decide
  | same single =>
    rintro rfl
    exact noResv (single ▸ rfl)

theorem agree_cons {first : U32} {rest : List U32} (cacheable : first ≠ MTRR_TYPE_UC) :
    Agree (first :: rest) ↔
      ∀ b ∈ rest.takeWhile (· ≠ MTRR_TYPE_UC), Compatible first b := by
  rw [Agree, List.takeWhile_cons_of_pos (by simpa using cacheable)]
  constructor
  · intro all b mem
    exact all first (List.mem_cons_self ..) b (List.mem_cons_of_mem _ mem)
  · intro near
    have nearAll : ∀ b ∈ first :: rest.takeWhile (· ≠ MTRR_TYPE_UC), Compatible first b :=
      List.forall_mem_cons.mpr ⟨.inl rfl, near⟩
    intro a memA b memB
    exact (nearAll a memA).symm.trans (nearAll b memB)

theorem foldlM_combine_resv {types : List U32} (noResv : MTRR_TYPE_RESV ∉ types)
    (defaulttype type : U32) :
    (types.foldlM combineMemoryType MTRR_TYPE_RESV).map
        (fun type => if type == MTRR_TYPE_RESV then defaulttype else type) = some type ↔
      Agree types ∧ ArchVariableType {x | x ∈ types} defaulttype type := by
  cases types with
  | nil =>
    have empty : {x | x ∈ ([] : List U32)} = ∅ := by simp
    rw [ArchVariableType, if_pos empty]
    change some defaulttype = some type ↔ _
    rw [Option.some.injEq, eq_comm]
    exact (and_iff_right nofun).symm
  | cons first rest =>
    have members : {x | x ∈ first :: rest} = insert first {x | x ∈ rest} := by
      ext x
      exact List.mem_cons
    have some_ : ({x | x ∈ first :: rest} : Set U32) ≠ ∅ := members ▸ (Set.insert_nonempty _ _).ne_empty
    have start : List.foldlM combineMemoryType MTRR_TYPE_RESV (first :: rest) =
        List.foldlM combineMemoryType first rest := rfl
    rw [ArchVariableType, if_neg some_, start]
    by_cases uc : first = MTRR_TYPE_UC
    · subst uc
      rw [foldlM_combine_uncacheable, precedence_uncacheable (List.mem_cons_self ..)]
      change some MTRR_TYPE_UC = some type ↔ _
      rw [Option.some.injEq, eq_comm]
      exact (and_iff_right nofun).symm
    · have firstValid : first ≠ MTRR_TYPE_RESV := fun resv => noResv (resv ▸ List.mem_cons_self ..)
      have restValid : MTRR_TYPE_RESV ∉ rest := fun mem => noResv (List.mem_cons_of_mem _ mem)
      have found := foldlM_combine_iff firstValid uc restValid
      simp only [← members] at found
      rw [Option.map_eq_some_iff, agree_cons uc]
      constructor
      · rintro ⟨type, combined, rfl⟩
        obtain ⟨compatible, decided⟩ := (found type).mp combined
        rw [if_neg (by simpa using decided.ne_resv noResv)]
        exact ⟨compatible, decided⟩
      · rintro ⟨compatible, decided⟩
        refine ⟨type, (found type).mpr ⟨compatible, decided⟩, ?_⟩
        exact if_neg (by simpa using decided.ne_resv noResv)

theorem agree_of_precedence {types : List U32} (cacheable : MTRR_TYPE_UC ∉ types)
    (decided : ArchPrecedence {x | x ∈ types} type) : Agree types := by
  have all : ∀ a ∈ types, ∀ b ∈ types, Compatible a b := by
    intro a memA b memB
    cases decided with
    | uncacheable uc => exact absurd uc cacheable
    | same single => exact .inl ((single.subset memA).trans (single.subset memB).symm)
    | writeThrough both => exact .inr ⟨both.subset memA, both.subset memB⟩
  intro a memA b memB
  exact all a (List.takeWhile_sublist _ |>.subset memA) b (List.takeWhile_sublist _ |>.subset memB)

theorem memorytype_fixed (enabled : m.mtrrEnable = true)
    (low : paddr.toNat < 0x100000 ∧ m.fixmtrrEnable = true) :
    vmxGetmemorytypeforphysicalpage m paddr = fixedMemoryType m paddr := by
  have below : paddr < 0x100000 := low.1
  simp only [vmxGetmemorytypeforphysicalpage, enabled, below, low.2, Bool.not_true, decide_true,
    Bool.and_self, Bool.false_eq_true, if_false, if_true]

theorem memorytype_variable (enabled : m.mtrrEnable = true)
    (high : ¬ (paddr.toNat < 0x100000 ∧ m.fixmtrrEnable = true)) :
    vmxGetmemorytypeforphysicalpage m paddr =
      ((m.coveringTypes paddr).foldlM combineMemoryType MTRR_TYPE_RESV).map
        fun type => if type == MTRR_TYPE_RESV then m.defaulttype else type := by
  have notFixed : ¬ (decide (paddr < 0x100000) && m.fixmtrrEnable) = true := by
    rw [Bool.and_eq_true, decide_eq_true_eq]
    exact high
  rw [vmxGetmemorytypeforphysicalpage, if_neg (by simp [enabled]), if_neg notFixed,
    foldlM_variableMemoryType, Option.bind_eq_bind]
  exact Option.map_eq_bind.symm

/-- The type computed is the architectural one, and the source halts where the architecture
gives none, exactly if the fixed bytes agree and no conflict hides an uncacheable range. -/
theorem memory_type_architectural_iff {m : GuestMtrrMsrs} (accepted : m.Accepted) (paddr : U64) :
    (∀ type, vmxGetmemorytypeforphysicalpage m paddr = some type ↔ ArchMemoryType m paddr type) ↔
      m.FixedBytesAgree paddr ∧ m.NoConflictBeforeUncacheable paddr := by
  obtain ⟨enable, fixed, default_⟩ := accepted.bits
  simp only [GuestMtrrMsrs.FixedBytesAgree, GuestMtrrMsrs.NoConflictBeforeUncacheable,
    ArchMemoryType, ← enable, ← fixed, ← default_]
  cases enabled : m.mtrrEnable with
  | false =>
    refine iff_of_true (fun type => ?_) ⟨nofun, nofun⟩
    rw [if_pos rfl, vmxGetmemorytypeforphysicalpage, enabled, Bool.not_false, if_pos rfl,
      Option.some.injEq, eq_comm]
  | true =>
    simp only [Bool.true_eq_false, if_false, forall_const]
    by_cases low : paddr.toNat < 0x100000 ∧ m.fixmtrrEnable = true
    · simp only [memorytype_fixed enabled low, fixedMemoryType_eq m low.1, low, not_true,
        false_implies, and_true, Option.some.injEq, and_self, forall_const]
      exact ⟨fun all => (all _).mp rfl, fun agree type => agree ▸ eq_comm⟩
    · have members : {x | x ∈ m.coveringTypes paddr} = m.matchingTypes paddr := by
        ext type
        exact mem_coveringTypes
      have source := foldlM_combine_resv (accepted.resv_notMem paddr) m.defaulttype
      simp only [memorytype_variable enabled low, source, low, not_false_eq_true, false_implies,
        true_and, forall_const, ← members]
      constructor
      · intro all uc
        have decided : ArchVariableType {x | x ∈ m.coveringTypes paddr} m.defaulttype
            MTRR_TYPE_UC := by
          have some_ : {x | x ∈ m.coveringTypes paddr} ≠ ∅ := Set.Nonempty.ne_empty ⟨_, uc⟩
          rw [ArchVariableType, if_neg some_]
          exact .uncacheable uc
        exact ((all _).mpr decided).1
      · intro agree type
        refine and_iff_right_of_imp fun decided => ?_
        by_cases uc : MTRR_TYPE_UC ∈ m.coveringTypes paddr
        · exact agree uc
        · rw [ArchVariableType] at decided
          split at decided
          next empty =>
            have none_ : m.coveringTypes paddr = [] := List.eq_nil_iff_forall_not_mem.mpr
              (Set.eq_empty_iff_forall_notMem.mp empty)
            rw [none_]
            exact nofun
          · exact agree_of_precedence uc decided

def sampleMtrrMsrs : GuestMtrrMsrs where
  defType := 0xc06
  fixMtrrs i := if i = 0 then 0x0606060606060006 else 0x0606060606060606
  varCount := 2
  varMtrrs i := if i = 0 then ⟨6, 0x800⟩ else ⟨0, 0x800⟩
  mtrrEnable := true
  fixmtrrEnable := true
  defaulttype := 6
  paddrmask := 0xffffff000

theorem sampleMtrrMsrs_accepted : sampleMtrrMsrs.Accepted where
  defType := by decide
  fixed := by decide
  variableRange := by decide

theorem memory_type_architectural_sample :
    ∃ type, vmxGetmemorytypeforphysicalpage sampleMtrrMsrs 0x100000 = some type ∧
      ArchMemoryType sampleMtrrMsrs 0x100000 type := by
  have condition : sampleMtrrMsrs.FixedBytesAgree 0x100000 ∧
      sampleMtrrMsrs.NoConflictBeforeUncacheable 0x100000 := by
    refine ⟨fun _ low => absurd low.1 (by decide), fun _ _ _ => ?_⟩
    have types : (sampleMtrrMsrs.coveringTypes 0x100000).takeWhile (· ≠ MTRR_TYPE_UC) =
        [MTRR_TYPE_WB] := by decide
    rw [Agree, types]
    intro a memA b memB
    exact .inl ((List.mem_singleton.mp memA).trans (List.mem_singleton.mp memB).symm)
  have computed : vmxGetmemorytypeforphysicalpage sampleMtrrMsrs 0x100000 = some MTRR_TYPE_UC := by
    decide
  exact ⟨_, computed, ((memory_type_architectural_iff sampleMtrrMsrs_accepted _).mpr condition _).mp
    computed⟩

/-- The uncacheable 64 KB are taken for write-back. -/
theorem fixed_range_memory_type_wrong : ∃ m : GuestMtrrMsrs, m.Accepted ∧
      vmxGetmemorytypeforphysicalpage m 0x10000 = some MTRR_TYPE_WB ∧
      ArchMemoryType m 0x10000 MTRR_TYPE_UC ∧ ¬ ArchMemoryType m 0x10000 MTRR_TYPE_WB := by
  refine ⟨sampleMtrrMsrs, sampleMtrrMsrs_accepted, by decide, ?_, ?_⟩
  iterate 2
    · rw [ArchMemoryType, if_neg (by decide), if_pos (by decide)]
      decide

end Xmhf
