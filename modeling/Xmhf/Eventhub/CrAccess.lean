import Xmhf.Memprot.GuestVirtual

/-!
# Writes to CR0 and CR4

XMHF keeps the bits of CR0 and CR4 that VMX operation fixes, and CD and NW of CR0, from the
guest: the guest/host masks make a MOV that would change what the guest sees of them exit,
and `vmx_handle_intercept_cr0access_ug` and `vmx_handle_intercept_cr4access_ug`
(`peh-x86vmx-main.c`) put the value in the read shadow. A write that changes paging as well
is not emulated: its other bits are written, and the guest executes the instruction again,
which then does not exit.

The processor is stated as far as these two registers matter: when a MOV exits or faults, what
it does otherwise, and what VM entry checks. `none` is a halted CPU.
-/

namespace Xmhf

open BitVec (eq_of_getLsbD_eq getLsbD_and getLsbD_not getLsbD_of_ge getLsbD_or getLsbD_xor)

def CR0_NW : U64 := 0x20000000

def CR0_CD : U64 := 0x40000000

/-! ## The handlers -/

/-- `VMX_CRX_ACCESS_TO` -/
def VMX_CRX_ACCESS_TO : Nat := 0

inductive CrExit where
  | skip (vmcs : Vmcs)
  | retry (vmcs : Vmcs)

section

variable (mem01 : Mem) (ram : Pa → U8) (r : Regs) (efer : U64)

/-- The registers that PAE paging keeps its four directory pointers in. -/
def Vmcs.loadPdptes (vmcs : Vmcs) : Option Vmcs :=
  (guestmemCopyGp2h (guestmemHostCtx (vmcs .controlEPTPointer)) mem01 ram 0
    (vmcs .guestCR3 &&& ~~~0x1f) 32).map fun bytes =>
      (((vmcs.vmwrite .guestPDPTE0 (leWord (bytes.take 8))).vmwrite .guestPDPTE1
        (leWord ((bytes.drop 8).take 8))).vmwrite .guestPDPTE2
          (leWord ((bytes.drop 16).take 8))).vmwrite .guestPDPTE3 (leWord ((bytes.drop 24).take 8))

def Vmcs.setLong (vmcs : Vmcs) (lma : Bool) : Vmcs :=
  vmcs.vmwrite .controlVMEntryControls
    (vmcs .controlVMEntryControls &&& ~~~0x200#32 ||| if lma then 0x200#32 else 0)

/-- The branch that emulates a change of paging: the entry control for 64-bit mode, and the
directory pointers. -/
def emulatePaging (vmcs : Vmcs) (value : U64) : Option Vmcs :=
  let paging : Bool := value &&& CR0_PG ≠ 0
  let lme := paging && efer.getLsbD EFER_LME
  let vmcs := vmcs.setLong lme
  if paging && !lme && vmcs .guestCR4 &&& CR4_PAE ≠ 0 then vmcs.loadPdptes mem01 ram else some vmcs

/-- `vmx_handle_intercept_cr0access_ug`. `efer` is what `_vmx_get_guest_efer` finds in the MSR
area of the guest. -/
def vmxHandleInterceptCr0accessUg (vmcs : Vmcs) (gpr : BitVec 4) (tofrom : Nat) : Option CrExit :=
  if tofrom ≠ VMX_CRX_ACCESS_TO then none
  else
    let value := vmcs.readReg r (vmxDecodeReg gpr)
    let oldCr0 := vmcs .guestCR0
    let oldShadow := vmcs .controlCR0Shadow
    let mask := vmcs .controlCR0Mask
    let pgPe := CR0_PG ||| CR0_PE
    let cr0 := (value ||| mask) &&& ~~~(CR0_CD ||| CR0_NW)
    let vmcs := (vmcs.vmwrite .controlCR0Shadow value).vmwrite .guestCR0 cr0
    if (oldCr0 ^^^ value) &&& CR0_PG ≠ 0 then
      if pgPe &&& mask = 0 then
        let cr0 := (cr0 &&& ~~~pgPe) ||| (oldCr0 &&& pgPe)
        -- the three assertions
        if (oldShadow ^^^ value) &&& mask = 0 then none
        else if (value ^^^ vmcs .controlCR0Shadow) &&& mask ≠ 0 then none
        else if (cr0 ^^^ value) &&& ~~~mask &&& ~~~pgPe ≠ 0 then none
        else some (.retry (vmcs.vmwrite .guestCR0 cr0))
      else (emulatePaging mem01 ram efer vmcs value).map fun vmcs => .skip vmcs.advance
    else some (.skip vmcs.advance)

def vmxHandleInterceptCr4accessUg (vmcs : Vmcs) (gpr : BitVec 4) (tofrom : Nat) : Option CrExit :=
  if tofrom ≠ VMX_CRX_ACCESS_TO then none
  else
    let value := vmcs.readReg r (vmxDecodeReg gpr)
    some (.skip ((vmcs.vmwrite .controlCR4Shadow value).vmwrite .guestCR4
      (value ||| vmcs .controlCR4Mask)).advance)

end

/-! ## The processor -/

abbrev bitPE : Nat := 0
abbrev bitWP : Nat := 16
abbrev bitNW : Nat := 29
abbrev bitCD : Nat := 30
abbrev bitPG : Nat := 31
abbrev bitPAE : Nat := 5
abbrev bitPCIDE : Nat := 17
abbrev bitCET : Nat := 23

/-- The MSRs that say which bits VMX operation fixes. An unrestricted guest is free in PE and PG,
and CD and NW are never fixed. -/
structure CrFixed where
  cr0Fixed0 : U64
  cr0Fixed1 : U64
  cr4Fixed0 : U64
  cr4Fixed1 : U64
  cr0_le : ∀ i, cr0Fixed0.getLsbD i = true → cr0Fixed1.getLsbD i = true
  cr4_le : ∀ i, cr4Fixed0.getLsbD i = true → cr4Fixed1.getLsbD i = true
  cache_free : cr0Fixed0.getLsbD bitNW = false ∧ cr0Fixed0.getLsbD bitCD = false
  paging_free : cr0Fixed1.getLsbD bitPE = true ∧ cr0Fixed1.getLsbD bitPG = true

/-- The masks that `xmhf_partition_arch_x86vmx_guestVMCS_INIT` sets; nothing changes them. -/
def CrFixed.cr0Mask (m : CrFixed) : U64 :=
  m.cr0Fixed0 &&& ~~~CR0_PE &&& ~~~CR0_PG ||| CR0_CD ||| CR0_NW

structure CrEntryOk (m : CrFixed) (v : Vmcs) : Prop where
  cr0Ones : ∀ i, i ≠ bitPE → i ≠ bitPG → m.cr0Fixed0.getLsbD i = true →
    (v .guestCR0).getLsbD i = true
  cr0Zeros : ∀ i, i ≠ bitNW → i ≠ bitCD → (v .guestCR0).getLsbD i = true →
    m.cr0Fixed1.getLsbD i = true
  protection : (v .guestCR0).getLsbD bitPG = true → (v .guestCR0).getLsbD bitPE = true
  cr4Ones : ∀ i, m.cr4Fixed0.getLsbD i = true → (v .guestCR4).getLsbD i = true
  cr4Zeros : ∀ i, (v .guestCR4).getLsbD i = true → m.cr4Fixed1.getLsbD i = true
  long : v.glm = true → (v .guestCR0).getLsbD bitPG = true ∧ (v .guestCR4).getLsbD bitPAE = true
  pcid : (v .guestCR4).getLsbD bitPCIDE = true → v.glm = true
  cet : (v .guestCR4).getLsbD bitCET = true → (v .guestCR0).getLsbD bitWP = true

/-- The entry control for 64-bit mode and EFER.LMA agree with paging and EFER.LME. -/
def LongAgrees (v : Vmcs) (efer : U64) : Prop :=
  v.glm = efer.getLsbD EFER_LMA ∧
    efer.getLsbD EFER_LMA = ((v .guestCR0).getLsbD bitPG && efer.getLsbD EFER_LME)

/-- MOV to CR0 exits if it would change what the guest sees of a masked bit. -/
def movCr0Exits (v : Vmcs) (value : U64) : Prop :=
  (value ^^^ v .controlCR0Shadow) &&& v .controlCR0Mask ≠ 0

/-- MOV to CR0 faults: reserved bits, paging without protection, NW without CD, CET without WP,
and the changes of paging that 64-bit mode and process-context identifiers do not allow. -/
def movCr0Faults (v : Vmcs) (efer value : U64) : Prop :=
  (∃ i, 32 ≤ i ∧ value.getLsbD i = true) ∨
  value.getLsbD bitPG = true ∧ value.getLsbD bitPE = false ∨
  value.getLsbD bitNW = true ∧ value.getLsbD bitCD = false ∨
  (v .guestCR4).getLsbD bitCET = true ∧ value.getLsbD bitWP = false ∨
  value.getLsbD bitPG = true ∧ (v .guestCR0).getLsbD bitPG = false ∧
    efer.getLsbD EFER_LME = true ∧ ((v .guestCR4).getLsbD bitPAE = false ∨ v.g64 = true) ∨
  value.getLsbD bitPG = false ∧ (v .guestCR0).getLsbD bitPG = true ∧
    ((v .guestCR4).getLsbD bitPCIDE = true ∨ efer.getLsbD EFER_LMA = true ∧ v.g64 = true)

/-- MOV to CR0 otherwise: the masked bits stay, and LMA follows paging. The next exit leaves LMA in
the entry control. -/
def movCr0 (v : Vmcs) (efer value : U64) : Vmcs × U64 :=
  let lma := value.getLsbD bitPG && efer.getLsbD EFER_LME
  ((v.vmwrite .guestCR0 (value &&& ~~~v .controlCR0Mask ||| v .guestCR0 &&& v .controlCR0Mask)).setLong
    lma,
   efer &&& ~~~0x400#64 ||| if lma then 0x400#64 else 0)

/-- A guest under XMHF before it writes one of the registers. -/
structure CrState (m : CrFixed) (v : Vmcs) (efer : U64) : Prop where
  cr0Mask : v .controlCR0Mask = m.cr0Mask
  cr4Mask : v .controlCR4Mask = m.cr4Fixed0
  entry : CrEntryOk m v
  long : LongAgrees v efer

/-- The state that a write of `value` should lead to. -/
structure Cr0Written (m : CrFixed) (value : U64) (v : Vmcs) (efer : U64) : Prop where
  reads : v.guestCr0 = value
  entry : CrEntryOk m v
  long : LongAgrees v efer

structure Cr4Written (m : CrFixed) (value : U64) (v : Vmcs) (efer : U64) : Prop where
  reads : v.guestCr4 = value
  entry : CrEntryOk m v
  long : LongAgrees v efer

/-- An intercepted write to CR0 comes to what it should: at once, or when the guest executes the
instruction again, which VM entry lets it and which neither exits nor faults. -/
def Cr0WriteRight (m : CrFixed) (mem01 : Mem) (ram : Pa → U8) (r : Regs) (efer : U64) (v : Vmcs)
    (gpr : BitVec 4) : Prop :=
  let value := v.readReg r (vmxDecodeReg gpr)
  match vmxHandleInterceptCr0accessUg mem01 ram r efer v gpr VMX_CRX_ACCESS_TO with
  | none => False
  | some (.skip v') => Cr0Written m value v' efer
  | some (.retry v') => CrEntryOk m v' ∧ ¬ movCr0Exits v' value ∧ ¬ movCr0Faults v' efer value ∧
      Cr0Written m value (movCr0 v' efer value).1 (movCr0 v' efer value).2

def Cr4WriteRight (m : CrFixed) (r : Regs) (efer : U64) (v : Vmcs) (gpr : BitVec 4) : Prop :=
  match vmxHandleInterceptCr4accessUg r v gpr VMX_CRX_ACCESS_TO with
  | some (.skip v') => Cr4Written m (v.readReg r (vmxDecodeReg gpr)) v' efer
  | _ => False

/-- The values of CR0 that are accepted: no bit that VMX operation fixes to 0, no paging without
protection, no CET without WP; and for a change of paging the checks of the instruction. -/
structure Cr0Acceptable (m : CrFixed) (v : Vmcs) (efer value : U64) : Prop where
  zeros : ∀ i, i ≠ bitNW → i ≠ bitCD → value.getLsbD i = true → m.cr0Fixed1.getLsbD i = true
  protection : value.getLsbD bitPG = true → value.getLsbD bitPE = true
  cet : (v .guestCR4).getLsbD bitCET = true → (value ||| m.cr0Fixed0).getLsbD bitWP = true
  paging : value.getLsbD bitPG ≠ (v .guestCR0).getLsbD bitPG → ¬ movCr0Faults v efer value

/-- Likewise for CR4, with the bits that VMX operation fixes to 1 added. -/
structure Cr4Acceptable (m : CrFixed) (v : Vmcs) (value : U64) : Prop where
  zeros : ∀ i, value.getLsbD i = true → m.cr4Fixed1.getLsbD i = true
  long : v.glm = true → (value ||| m.cr4Fixed0).getLsbD bitPAE = true
  pcid : (value ||| m.cr4Fixed0).getLsbD bitPCIDE = true → v.glm = true
  cet : (value ||| m.cr4Fixed0).getLsbD bitCET = true → (v .guestCR0).getLsbD bitWP = true

/-! ## Bits -/

theorem getLsbD_const {c : U64} {bits : Nat → Bool} (table : ∀ i : Fin 64, c.getLsbD i = bits i)
    (rest : ∀ i, 64 ≤ i → bits i = false) (i : Nat) : c.getLsbD i = bits i := by
  rcases Nat.lt_or_ge i 64 with small | large
  · exact table ⟨i, small⟩
  · rw [getLsbD_of_ge _ _ large, rest i large]

theorem getLsbD_subset {c d : U64} (table : ∀ i : Fin 64, c.getLsbD i = true → d.getLsbD i = true)
    (i : Nat) (set : c.getLsbD i = true) : d.getLsbD i = true := by
  rcases Nat.lt_or_ge i 64 with small | large
  · exact table ⟨i, small⟩ set
  · rw [getLsbD_of_ge _ _ large] at set
    cases set

theorem getLsbD_cacheBits (i : Nat) :
    (CR0_CD ||| CR0_NW).getLsbD i = (i == bitNW || i == bitCD) :=
  @getLsbD_const (CR0_CD ||| CR0_NW) (fun i => i == bitNW || i == bitCD) (by decide)
    (fun i large => by simp [bitNW, bitCD]; omega) i

theorem getLsbD_pagingBits (i : Nat) :
    (CR0_PG ||| CR0_PE).getLsbD i = (i == bitPE || i == bitPG) :=
  @getLsbD_const (CR0_PG ||| CR0_PE) (fun i => i == bitPE || i == bitPG) (by decide)
    (fun i large => by simp [bitPE, bitPG]; omega) i

theorem CrFixed.getLsbD_cr0Mask (m : CrFixed) (i : Nat) : m.cr0Mask.getLsbD i =
      (m.cr0Fixed0.getLsbD i && i != bitPE && i != bitPG || i == bitNW || i == bitCD) := by
  have split : m.cr0Mask =
      m.cr0Fixed0 &&& ~~~(CR0_PG ||| CR0_PE) ||| (CR0_CD ||| CR0_NW) := by
    unfold cr0Mask
    ext i
    simp only [BitVec.getElem_or, BitVec.getElem_and, BitVec.getElem_not]
    grind
  rw [split, getLsbD_or, getLsbD_and, getLsbD_not, getLsbD_cacheBits,
    getLsbD_pagingBits]
  rcases Nat.lt_or_ge i 64 with small | large
  · simp only [small, decide_true, Bool.true_and, bne]
    grind
  · rw [getLsbD_of_ge _ _ large]
    grind

theorem and_PG_ne_zero_iff (x : U64) : x &&& CR0_PG ≠ 0 ↔ x.getLsbD bitPG = true := by
  have mask := testMaskBit64_eq x (show bitPG < 64 by decide)
  rw [← mask, testMaskBit64, bne_iff_ne]
  exact Iff.rfl

def handledCr0 (m : CrFixed) (value : U64) : U64 :=
  (value ||| m.cr0Mask) &&& ~~~(CR0_CD ||| CR0_NW)

section

variable (m : CrFixed) (value : U64)

include m value

theorem getLsbD_handledCr0 (i : Nat) : (handledCr0 m value).getLsbD i =
      ((value.getLsbD i || m.cr0Fixed0.getLsbD i && i != bitPE && i != bitPG) &&
        !(i == bitNW || i == bitCD)) := by
  unfold handledCr0
  rw [getLsbD_and, getLsbD_or, getLsbD_not, getLsbD_cacheBits,
    m.getLsbD_cr0Mask]
  rcases Nat.lt_or_ge i 64 with small | large
  · simp only [small, decide_true, Bool.true_and]
    grind
  · rw [getLsbD_of_ge _ _ large, getLsbD_of_ge _ _ large]
    simp only [bitNW, bitCD]
    grind

omit m value in
theorem masked_read (mask value cr0 : U64)
    (bits : ∀ i, mask.getLsbD i = false → cr0.getLsbD i = value.getLsbD i) :
    cr0 &&& ~~~mask ||| value &&& mask = value := by
  apply eq_of_getLsbD_eq
  intro i small
  have bit := bits i
  simp only [getLsbD_or, getLsbD_and, getLsbD_not, small, decide_true,
    Bool.true_and]
  grind

theorem handledCr0_unmasked (i : Nat) (unmasked : m.cr0Mask.getLsbD i = false) :
    (handledCr0 m value).getLsbD i = value.getLsbD i := by
  rw [m.getLsbD_cr0Mask] at unmasked
  rw [getLsbD_handledCr0]
  grind

theorem handledCr0_ones {i : Nat} (notPe : i ≠ bitPE) (notPg : i ≠ bitPG)
    (fixed : m.cr0Fixed0.getLsbD i = true) : (handledCr0 m value).getLsbD i = true := by
  have notNw : i ≠ bitNW := fun nw => by simp [nw, m.cache_free.1] at fixed
  have notCd : i ≠ bitCD := fun cd => by simp [cd, m.cache_free.2] at fixed
  rw [getLsbD_handledCr0, fixed]
  grind

omit m value in
theorem handledCr0_zeros {m : CrFixed} {value : U64}
    (zeros : ∀ i, i ≠ bitNW → i ≠ bitCD → value.getLsbD i = true → m.cr0Fixed1.getLsbD i = true)
    {i : Nat} (notNw : i ≠ bitNW) (notCd : i ≠ bitCD)
    (set : (handledCr0 m value).getLsbD i = true) : m.cr0Fixed1.getLsbD i = true := by
  rw [getLsbD_handledCr0] at set
  rcases Bool.or_eq_true_iff.mp (Bool.and_eq_true_iff.mp set).1 with written | fixed
  · exact zeros i notNw notCd written
  · exact m.cr0_le i (Bool.and_eq_true_iff.mp (Bool.and_eq_true_iff.mp fixed).1).1

theorem handledCr0_paging {i : Nat} (free : i = bitPE ∨ i = bitPG) :
    (handledCr0 m value).getLsbD i = value.getLsbD i := by
  rw [getLsbD_handledCr0]
  rcases free with rfl | rfl <;> simp [bitPE, bitPG, bitNW, bitCD]

theorem handledCr0_wp :
    (handledCr0 m value).getLsbD bitWP = (value ||| m.cr0Fixed0).getLsbD bitWP := by
  rw [getLsbD_handledCr0, getLsbD_or]
  simp [bitWP, bitPE, bitPG, bitNW, bitCD]

end

section

variable {m : CrFixed} {mem01 : Mem} {ram : Pa → U8} {r : Regs} {efer : U64} {v : Vmcs}

/-- The VMCS with a value in the shadow of CR0 and another in CR0. -/
def Vmcs.withCr0 (v : Vmcs) (shadow cr0 : U64) : Vmcs :=
  (v.vmwrite .controlCR0Shadow shadow).vmwrite .guestCR0 cr0

@[simp]
theorem Vmcs.withCr0_cr0 (v : Vmcs) (shadow cr0 : U64) : v.withCr0 shadow cr0 .guestCR0 = cr0 :=
  Vmcs.vmwrite_self ..

@[simp]
theorem Vmcs.withCr0_shadow (v : Vmcs) (shadow cr0 : U64) :
    v.withCr0 shadow cr0 .controlCR0Shadow = shadow := by
  rw [withCr0, Vmcs.vmwrite_other (by decide), Vmcs.vmwrite_self]

theorem Vmcs.withCr0_other (v : Vmcs) (shadow cr0 : U64) {f : VmcsField} (notCr0 : f ≠ .guestCR0)
    (notShadow : f ≠ .controlCR0Shadow) : v.withCr0 shadow cr0 f = v f := by
  rw [withCr0, Vmcs.vmwrite_other notCr0, Vmcs.vmwrite_other notShadow]

theorem Vmcs.advance_other (v : Vmcs) {f : VmcsField} (notRip : f ≠ .guestRIP) : v.advance f = v f :=
  Vmcs.vmwrite_other notRip ..

/-- CR0 as the handler leaves it for the second attempt: with the old PG and PE. -/
def retryCr0 (m : CrFixed) (old value : U64) : U64 :=
  handledCr0 m value &&& ~~~(CR0_PG ||| CR0_PE) ||| old &&& (CR0_PG ||| CR0_PE)

theorem getLsbD_retryCr0 (m : CrFixed) (old value : U64) (i : Nat) :
    (retryCr0 m old value).getLsbD i =
      if i = bitPE ∨ i = bitPG then old.getLsbD i else (handledCr0 m value).getLsbD i := by
  unfold retryCr0
  rw [getLsbD_or, getLsbD_and, getLsbD_and, getLsbD_not,
    getLsbD_pagingBits]
  rcases Nat.lt_or_ge i 64 with small | large
  · simp only [small, decide_true, Bool.true_and]
    grind
  · rw [getLsbD_of_ge _ _ large, getLsbD_of_ge _ _ large]
    simp

theorem cr0_handler_eq (st : CrState m v efer) {gpr : BitVec 4} {value : U64}
    (given : v.readReg r (vmxDecodeReg gpr) = value) (exits : movCr0Exits v value) :
    vmxHandleInterceptCr0accessUg mem01 ram r efer v gpr VMX_CRX_ACCESS_TO =
      if value.getLsbD bitPG ≠ (v .guestCR0).getLsbD bitPG then
        some (.retry (v.withCr0 value (retryCr0 m (v .guestCR0) value)))
      else some (.skip (v.withCr0 value (handledCr0 m value)).advance) := by
  unfold vmxHandleInterceptCr0accessUg
  rw [given]
  have differs : (v .guestCR0 ^^^ value) &&& CR0_PG ≠ 0 ↔
      value.getLsbD bitPG ≠ (v .guestCR0).getLsbD bitPG := by
    rw [and_PG_ne_zero_iff, getLsbD_xor]
    cases value.getLsbD bitPG <;> cases (v .guestCR0).getLsbD bitPG <;> decide
  have free : (CR0_PG ||| CR0_PE) &&& m.cr0Mask = 0 := by
    apply eq_of_getLsbD_eq
    intro i small
    rw [getLsbD_and, getLsbD_pagingBits, m.getLsbD_cr0Mask]
    simp only [bitPE, bitPG, bitNW, bitCD]
    grind
  have others : (retryCr0 m (v .guestCR0) value ^^^ value) &&& ~~~m.cr0Mask &&&
      ~~~(CR0_PG ||| CR0_PE) = 0 := by
    apply eq_of_getLsbD_eq
    intro i small
    have unmasked := handledCr0_unmasked m value i
    simp only [getLsbD_and, getLsbD_xor, getLsbD_not, getLsbD_pagingBits,
      getLsbD_retryCr0, small, decide_true, Bool.true_and]
    grind
  have changed : (v .controlCR0Shadow ^^^ value) &&& m.cr0Mask ≠ 0 := by
    rw [BitVec.xor_comm, ← st.cr0Mask]
    exact exits
  have shadow : ((v.vmwrite .controlCR0Shadow value).vmwrite .guestCR0
      ((value ||| m.cr0Mask) &&& ~~~(CR0_CD ||| CR0_NW))) .controlCR0Shadow = value :=
    v.withCr0_shadow value _
  rw [if_neg (by simp)]
  dsimp only
  rw [st.cr0Mask, shadow, BitVec.xor_self, BitVec.zero_and]
  by_cases paging : value.getLsbD bitPG ≠ (v .guestCR0).getLsbD bitPG
  · rw [if_pos (differs.mpr paging), if_pos paging, if_pos free, if_neg changed,
      if_neg (fun nonzero => nonzero rfl)]
    refine (if_neg (fun nonzero => nonzero others)).trans ?_
    unfold Vmcs.withCr0 Vmcs.vmwrite
    rw [Function.update_idem]
    rfl
  · rw [if_neg (fun change => paging (differs.mp change)), if_neg paging]
    rfl

theorem CrFixed.paging_settable (m : CrFixed) {i : Nat} (paging : i = bitPE ∨ i = bitPG) :
    m.cr0Fixed1.getLsbD i = true := by
  rcases paging with rfl | rfl
  · exact m.paging_free.1
  · exact m.paging_free.2

theorem entry_iff_of_cr0 (st : CrState m v efer) {w : Vmcs} {value : U64}
    (cr4 : w .guestCR4 = v .guestCR4) (glm : w.glm = v.glm)
    (bits : ∀ i, i ≠ bitPE → i ≠ bitPG → (w .guestCR0).getLsbD i = (handledCr0 m value).getLsbD i)
    (same : (w .guestCR0).getLsbD bitPG = (v .guestCR0).getLsbD bitPG) :
    CrEntryOk m w ↔
      (∀ i, i ≠ bitNW → i ≠ bitCD → value.getLsbD i = true → m.cr0Fixed1.getLsbD i = true) ∧
      ((w .guestCR0).getLsbD bitPG = true → (w .guestCR0).getLsbD bitPE = true) ∧
      ((v .guestCR4).getLsbD bitCET = true → (value ||| m.cr0Fixed0).getLsbD bitWP = true) := by
  have wp : (w .guestCR0).getLsbD bitWP = (value ||| m.cr0Fixed0).getLsbD bitWP := by
    rw [bits bitWP (by decide) (by decide), handledCr0_wp]
  constructor
  · intro entry
    refine ⟨fun i notNw notCd set => ?_, entry.protection, fun cet => ?_⟩
    · by_cases paging : i = bitPE ∨ i = bitPG
      · exact m.paging_settable paging
      · apply entry.cr0Zeros i notNw notCd
        rw [bits i (fun pe => paging (.inl pe)) (fun pg => paging (.inr pg)), getLsbD_handledCr0, set]
        grind
    · rw [← wp]
      exact entry.cet (by rw [cr4]; exact cet)
  · rintro ⟨zeros, prot, cet⟩
    refine ⟨fun i notPe notPg fixed => ?_, fun i notNw notCd set => ?_, prot, ?_, ?_, ?_, ?_, ?_⟩
    · rw [bits i notPe notPg]
      exact handledCr0_ones m value notPe notPg fixed
    · by_cases paging : i = bitPE ∨ i = bitPG
      · exact m.paging_settable paging
      · rw [bits i (fun pe => paging (.inl pe)) (fun pg => paging (.inr pg))] at set
        exact handledCr0_zeros zeros notNw notCd set
    · rw [cr4]
      exact st.entry.cr4Ones
    · rw [cr4]
      exact st.entry.cr4Zeros
    · rw [cr4, glm, same]
      exact st.entry.long
    · rw [cr4, glm]
      exact st.entry.pcid
    · rw [cr4, wp]
      exact cet

theorem withCr0_glm (v : Vmcs) (shadow cr0 : U64) : (v.withCr0 shadow cr0).glm = v.glm := by
  unfold Vmcs.glm
  rw [v.withCr0_other shadow cr0 (by decide) (by decide)]

theorem cr0_skip_iff (st : CrState m v efer) {value : U64}
    (same : value.getLsbD bitPG = (v .guestCR0).getLsbD bitPG) :
    Cr0Written m value (v.withCr0 value (handledCr0 m value)).advance efer ↔
      Cr0Acceptable m v efer value := by
  generalize result : (v.withCr0 value (handledCr0 m value)).advance = w
  have cr0 : w .guestCR0 = handledCr0 m value := by
    rw [← result, Vmcs.advance_other _ (by decide), Vmcs.withCr0_cr0]
  have shadow : w .controlCR0Shadow = value := by
    rw [← result, Vmcs.advance_other _ (by decide), Vmcs.withCr0_shadow]
  have other {f : VmcsField} (notRip : f ≠ .guestRIP) (notCr0 : f ≠ .guestCR0)
      (notShadow : f ≠ .controlCR0Shadow) : w f = v f := by
    rw [← result, Vmcs.advance_other _ notRip, Vmcs.withCr0_other _ _ _ notCr0 notShadow]
  have mask : w .controlCR0Mask = m.cr0Mask :=
    (other (by decide) (by decide) (by decide)).trans st.cr0Mask
  have paging : (w .guestCR0).getLsbD bitPG = (v .guestCR0).getLsbD bitPG := by
    rw [cr0, handledCr0_paging m value (.inr rfl), same]
  have glm : w.glm = v.glm := by
    unfold Vmcs.glm
    rw [other (by decide) (by decide) (by decide)]
  have reads : w.guestCr0 = value := by
    rw [Vmcs.guestCr0, mask, shadow, cr0]
    exact masked_read _ _ _ fun i => handledCr0_unmasked m value i
  have long : LongAgrees w efer := by
    unfold LongAgrees
    rw [glm, paging]
    exact st.long
  have entry := @entry_iff_of_cr0 m efer v st w value (other (by decide) (by decide) (by decide)) glm
    (fun i _ _ => by rw [cr0]) paging
  rw [cr0, handledCr0_paging m value (.inl rfl), handledCr0_paging m value (.inr rfl)] at entry
  constructor
  · intro written
    obtain ⟨zeros, prot, cet⟩ := entry.mp written.entry
    exact ⟨zeros, prot, cet, fun change => absurd same change⟩
  · intro ok
    exact ⟨reads, entry.mpr ⟨ok.zeros, ok.protection, ok.cet⟩, long⟩

/-! ## The second attempt -/

theorem Vmcs.setLong_glm (v : Vmcs) (lma : Bool) : (v.setLong lma).glm = lma := by
  have field : v.setLong lma .controlVMEntryControls =
      v .controlVMEntryControls &&& ~~~0x200#32 ||| if lma then 0x200#32 else 0 := Vmcs.vmwrite_self ..
  unfold Vmcs.glm
  rw [field, show VmxCtl.vmentryIa32eModeGuest.bit = 9 from rfl, getLsbD_or, getLsbD_and]
  cases lma <;> simp

theorem getLsbD_setLma (efer : U64) (lma : Bool) (i : Nat) :
    (efer &&& ~~~0x400#64 ||| if lma then 0x400#64 else 0).getLsbD i =
      if i = EFER_LMA then lma else efer.getLsbD i := by
  have one (i : Nat) : (0x400#64).getLsbD i = (i == EFER_LMA) :=
    @getLsbD_const 0x400#64 (fun i => i == EFER_LMA) (by decide)
      (fun i large => by simp [EFER_LMA]; omega) i
  rcases Nat.lt_or_ge i 64 with small | large
  · have flag : (if lma then 0x400#64 else 0).getLsbD i = (lma && i == EFER_LMA) := by
      cases lma with
      | false => exact BitVec.getLsbD_zero
      | true => exact one i
    rw [getLsbD_or, getLsbD_and, getLsbD_not, one, flag]
    simp only [small, decide_true, Bool.true_and]
    grind
  · rw [getLsbD_of_ge _ _ large, getLsbD_of_ge _ _ large, if_neg]
    unfold EFER_LMA
    omega

theorem movCr0Faults_withCr0 (v : Vmcs) (shadow cr0 efer value : U64)
    (same : cr0.getLsbD bitPG = (v .guestCR0).getLsbD bitPG) :
    movCr0Faults (v.withCr0 shadow cr0) efer value ↔ movCr0Faults v efer value := by
  have long : (v.withCr0 shadow cr0).g64 = v.g64 := by
    unfold Vmcs.g64
    rw [v.withCr0_other shadow cr0 (by decide) (by decide)]
  unfold movCr0Faults
  rw [v.withCr0_other shadow cr0 (by decide) (by decide), Vmcs.withCr0_cr0, same, long]

theorem getLsbD_movCr0_retry (m : CrFixed) (old value : U64) (i : Nat) :
    (value &&& ~~~m.cr0Mask ||| retryCr0 m old value &&& m.cr0Mask).getLsbD i =
      (handledCr0 m value).getLsbD i := by
  rcases Nat.lt_or_ge i 64 with small | large
  · have mask := m.getLsbD_cr0Mask i
    have unmasked := handledCr0_unmasked m value i
    simp only [getLsbD_or, getLsbD_and, getLsbD_not, getLsbD_retryCr0, small,
      decide_true, Bool.true_and]
    simp only [bitPE, bitPG, bitNW, bitCD] at mask ⊢
    grind
  · rw [getLsbD_of_ge _ _ large, getLsbD_of_ge _ _ large]

theorem movCr0_written (st : CrState m v efer) {w : Vmcs} {value : U64}
    (cr0 : w .guestCR0 = retryCr0 m (v .guestCR0) value) (shadow : w .controlCR0Shadow = value)
    (mask : w .controlCR0Mask = m.cr0Mask) (cr4 : w .guestCR4 = v .guestCR4)
    (change : value.getLsbD bitPG ≠ (v .guestCR0).getLsbD bitPG)
    (ok : Cr0Acceptable m v efer value) :
    Cr0Written m value (movCr0 w efer value).1 (movCr0 w efer value).2 := by
  have allowed := ok.paging change
  generalize after : movCr0 w efer value = result
  have field {f : VmcsField} (notControls : f ≠ .controlVMEntryControls) (notCr0 : f ≠ .guestCR0) :
      result.1 f = w f := by
    rw [← after]
    exact (Vmcs.vmwrite_other notControls _ _).trans (Vmcs.vmwrite_other notCr0 _ _)
  have bits (i : Nat) : (result.1 .guestCR0).getLsbD i = (handledCr0 m value).getLsbD i := by
    have written : result.1 .guestCR0 = value &&& ~~~w .controlCR0Mask |||
        w .guestCR0 &&& w .controlCR0Mask := by
      have other : VmcsField.guestCR0 ≠ .controlVMEntryControls := by decide
      rw [← after, movCr0]
      dsimp only
      rw [Vmcs.setLong, Vmcs.vmwrite_other other, Vmcs.vmwrite_self]
    rw [written, cr0, mask, getLsbD_movCr0_retry]
  have glm : result.1.glm = (value.getLsbD bitPG && efer.getLsbD EFER_LME) := by
    rw [← after]
    exact Vmcs.setLong_glm _ _
  have efer' (i : Nat) : result.2.getLsbD i =
      if i = EFER_LMA then value.getLsbD bitPG && efer.getLsbD EFER_LME else efer.getLsbD i := by
    rw [← after]
    exact getLsbD_setLma efer _ i
  have cr4' : result.1 .guestCR4 = v .guestCR4 := (field (by decide) (by decide)).trans cr4
  refine ⟨?_, ⟨?_, ?_, ?_, ?_, ?_, ?_, ?_, ?_⟩, ?_⟩
  · have shadow' : result.1 .controlCR0Shadow = value := (field (by decide) (by decide)).trans shadow
    have mask' : result.1 .controlCR0Mask = m.cr0Mask := (field (by decide) (by decide)).trans mask
    rw [Vmcs.guestCr0, shadow', mask']
    exact masked_read _ _ _ fun i free => by rw [bits, handledCr0_unmasked m value i free]
  · intro i notPe notPg fixed
    rw [bits]
    exact handledCr0_ones m value notPe notPg fixed
  · intro i notNw notCd set
    rw [bits] at set
    exact handledCr0_zeros ok.zeros notNw notCd set
  · rw [bits, bits, handledCr0_paging m value (.inl rfl), handledCr0_paging m value (.inr rfl)]
    exact ok.protection
  · rw [cr4']
    exact st.entry.cr4Ones
  · rw [cr4']
    exact st.entry.cr4Zeros
  · intro long
    rw [glm, Bool.and_eq_true] at long
    rw [bits, handledCr0_paging m value (.inr rfl), cr4']
    refine ⟨long.1, ?_⟩
    by_contra noPae
    have off : (v .guestCR0).getLsbD bitPG = false :=
      Bool.eq_false_iff.mpr fun on => change (long.1.trans on.symm)
    exact allowed (.inr (.inr (.inr (.inr (.inl
      ⟨long.1, off, long.2, .inl (Bool.eq_false_iff.mpr noPae)⟩)))))
  · intro pcid
    rw [cr4'] at pcid
    -- the identifiers are in use only in 64-bit mode, where turning paging off faults
    have on : (v .guestCR0).getLsbD bitPG = true := (st.entry.long (st.entry.pcid pcid)).1
    have turnedOff : value.getLsbD bitPG = false :=
      Bool.eq_false_iff.mpr fun still => change (still.trans on.symm)
    exact absurd (.inr (.inr (.inr (.inr (.inr ⟨turnedOff, on, .inl pcid⟩))))) allowed
  · rw [cr4', bits, handledCr0_wp]
    exact ok.cet
  · refine ⟨?_, ?_⟩
    · rw [glm, efer', if_pos rfl]
    · rw [efer', efer', if_pos rfl, if_neg (by decide), bits, handledCr0_paging m value (.inr rfl)]

theorem cr0_retry_iff (st : CrState m v efer) {value : U64}
    (change : value.getLsbD bitPG ≠ (v .guestCR0).getLsbD bitPG) :
    (CrEntryOk m (v.withCr0 value (retryCr0 m (v .guestCR0) value)) ∧
      ¬ movCr0Exits (v.withCr0 value (retryCr0 m (v .guestCR0) value)) value ∧
      ¬ movCr0Faults (v.withCr0 value (retryCr0 m (v .guestCR0) value)) efer value ∧
      Cr0Written m value (movCr0 (v.withCr0 value (retryCr0 m (v .guestCR0) value)) efer value).1
        (movCr0 (v.withCr0 value (retryCr0 m (v .guestCR0) value)) efer value).2) ↔
      Cr0Acceptable m v efer value := by
  generalize between : v.withCr0 value (retryCr0 m (v .guestCR0) value) = w
  have cr0 : w .guestCR0 = retryCr0 m (v .guestCR0) value := by rw [← between, Vmcs.withCr0_cr0]
  have shadow : w .controlCR0Shadow = value := by rw [← between, Vmcs.withCr0_shadow]
  have other {f : VmcsField} (notCr0 : f ≠ .guestCR0) (notShadow : f ≠ .controlCR0Shadow) :
      w f = v f := by rw [← between, Vmcs.withCr0_other _ _ _ notCr0 notShadow]
  have cr4 : w .guestCR4 = v .guestCR4 := other (by decide) (by decide)
  have mask : w .controlCR0Mask = m.cr0Mask := (other (by decide) (by decide)).trans st.cr0Mask
  have glm : w.glm = v.glm := by rw [← between, withCr0_glm]
  have paging : (w .guestCR0).getLsbD bitPG = (v .guestCR0).getLsbD bitPG := by
    rw [cr0, getLsbD_retryCr0, if_pos (.inr rfl)]
  have protection : (w .guestCR0).getLsbD bitPE = (v .guestCR0).getLsbD bitPE := by
    rw [cr0, getLsbD_retryCr0, if_pos (.inl rfl)]
  have faults : movCr0Faults w efer value ↔ movCr0Faults v efer value := by
    rw [← between]
    exact movCr0Faults_withCr0 v _ _ _ _ (by rw [← cr0, paging])
  have stays : ¬ movCr0Exits w value := by
    unfold movCr0Exits
    rw [shadow, BitVec.xor_self, BitVec.zero_and]
    exact fun nonzero => nonzero rfl
  have entry := @entry_iff_of_cr0 m efer v st w value cr4 glm
    (fun i notPe notPg => by rw [cr0, getLsbD_retryCr0, if_neg (by simp [notPe, notPg])]) paging
  constructor
  · rintro ⟨entered, -, accepted, written⟩
    obtain ⟨zeros, -, cet⟩ := entry.mp entered
    have allowed : ¬ movCr0Faults v efer value := fun fault => accepted (faults.mpr fault)
    refine ⟨zeros, fun pg => ?_, cet, fun _ => allowed⟩
    by_contra unprotected
    exact allowed (.inr (.inl ⟨pg, Bool.eq_false_iff.mpr unprotected⟩))
  · intro ok
    have allowed := ok.paging change
    have entered := entry.mpr ⟨ok.zeros, by rw [paging, protection]; exact st.entry.protection, ok.cet⟩
    refine ⟨entered, stays, fun fault => allowed (faults.mp fault), ?_⟩
    exact movCr0_written st cr0 shadow mask cr4 change ok

end

/-! ## Both registers -/

theorem cr4_write_iff {m : CrFixed} {r : Regs} {efer : U64} {v : Vmcs} (st : CrState m v efer)
    (gpr : BitVec 4) :
    Cr4WriteRight m r efer v gpr ↔ Cr4Acceptable m v (v.readReg r (vmxDecodeReg gpr)) := by
  unfold Cr4WriteRight vmxHandleInterceptCr4accessUg
  generalize v.readReg r (vmxDecodeReg gpr) = value
  rw [if_neg (by simp), st.cr4Mask]
  dsimp only
  generalize result : ((v.vmwrite .controlCR4Shadow value).vmwrite .guestCR4
    (value ||| m.cr4Fixed0)).advance = w
  have cr4 : w .guestCR4 = value ||| m.cr4Fixed0 := by
    rw [← result, Vmcs.advance_other _ (by decide), Vmcs.vmwrite_self]
  have shadow : w .controlCR4Shadow = value := by
    rw [← result, Vmcs.advance_other _ (by decide), Vmcs.vmwrite_other (by decide), Vmcs.vmwrite_self]
  have other {f : VmcsField} (notRip : f ≠ .guestRIP) (notCr4 : f ≠ .guestCR4)
      (notShadow : f ≠ .controlCR4Shadow) : w f = v f := by
    rw [← result, Vmcs.advance_other _ notRip, Vmcs.vmwrite_other notCr4, Vmcs.vmwrite_other notShadow]
  have cr0 : w .guestCR0 = v .guestCR0 := other (by decide) (by decide) (by decide)
  have mask : w .controlCR4Mask = m.cr4Fixed0 :=
    (other (by decide) (by decide) (by decide)).trans st.cr4Mask
  have glm : w.glm = v.glm := by
    unfold Vmcs.glm
    rw [other (by decide) (by decide) (by decide)]
  constructor
  · intro written
    obtain ⟨-, -, -, -, zeros, long, pcid, cet⟩ := written.entry
    rw [cr4] at zeros long pcid cet
    rw [glm] at long pcid
    rw [cr0] at cet
    refine ⟨fun i set => zeros i ?_, fun active => (long active).2, pcid, cet⟩
    rw [getLsbD_or, set, Bool.true_or]
  · intro ok
    refine ⟨?_, ⟨?_, ?_, ?_, ?_, ?_, ?_, ?_, ?_⟩, ?_⟩
    · rw [Vmcs.guestCr4, mask, shadow, cr4, BitVec.or_comm]
      refine masked_read _ _ _ fun i free => ?_
      rw [getLsbD_or, free, Bool.or_false]
    · rw [cr0]
      exact st.entry.cr0Ones
    · rw [cr0]
      exact st.entry.cr0Zeros
    · rw [cr0]
      exact st.entry.protection
    · intro i fixed
      rw [cr4, getLsbD_or, fixed, Bool.or_true]
    · intro i set
      rw [cr4, getLsbD_or, Bool.or_eq_true] at set
      rcases set with written | fixed
      · exact ok.zeros i written
      · exact m.cr4_le i fixed
    · intro active
      rw [glm] at active
      rw [cr0, cr4]
      exact ⟨(st.entry.long active).1, ok.long active⟩
    · rw [cr4, glm]
      exact ok.pcid
    · rw [cr4, cr0]
      exact ok.cet
    · unfold LongAgrees
      rw [glm, cr0]
      exact st.long

theorem cr0_write_iff {m : CrFixed} {mem01 : Mem} {ram : Pa → U8} {r : Regs} {efer : U64} {v : Vmcs}
    (st : CrState m v efer) (gpr : BitVec 4)
    (exits : movCr0Exits v (v.readReg r (vmxDecodeReg gpr))) :
    Cr0WriteRight m mem01 ram r efer v gpr ↔
      Cr0Acceptable m v efer (v.readReg r (vmxDecodeReg gpr)) := by
  unfold Cr0WriteRight
  rw [cr0_handler_eq st rfl exits]
  by_cases change : (v.readReg r (vmxDecodeReg gpr)).getLsbD bitPG ≠ (v .guestCR0).getLsbD bitPG
  · rw [if_pos change]
    exact cr0_retry_iff st change
  · rw [if_neg change]
    exact cr0_skip_iff st (not_ne_iff.mp change)

/-- An intercepted write comes to what it should exactly for the values that the registers
accept; a second attempt never exits again. -/
theorem cr_write_right_iff (m : CrFixed) (mem01 : Mem) (ram : Pa → U8) (r : Regs) (efer : U64)
    (v : Vmcs) (gpr : BitVec 4) (st : CrState m v efer) :
    (movCr0Exits v (v.readReg r (vmxDecodeReg gpr)) → (Cr0WriteRight m mem01 ram r efer v gpr ↔
        Cr0Acceptable m v efer (v.readReg r (vmxDecodeReg gpr)))) ∧
    (Cr4WriteRight m r efer v gpr ↔ Cr4Acceptable m v (v.readReg r (vmxDecodeReg gpr))) :=
  ⟨cr0_write_iff st gpr, cr4_write_iff st gpr⟩

def sampleFixed : CrFixed where
  cr0Fixed0 := 0x80000021
  cr0Fixed1 := 0xffffffff
  cr4Fixed0 := 0x2000
  cr4Fixed1 := 0x3767ff
  cr0_le := getLsbD_subset (by decide)
  cr4_le := getLsbD_subset (by decide)
  cache_free := by decide
  paging_free := by decide

def sampleCrVmcs : Vmcs :=
  let vmcs : Vmcs := fun _ => 0#_
  (((vmcs.vmwrite .controlCR0Mask sampleFixed.cr0Mask).vmwrite .controlCR4Mask 0x2000).vmwrite .guestCR0
    0x31).vmwrite .guestCR4 0x2000

theorem sampleCrState : CrState sampleFixed sampleCrVmcs 0 := by
  have cr0 : sampleCrVmcs .guestCR0 = 0x31 := by decide +kernel
  have cr4 : sampleCrVmcs .guestCR4 = 0x2000 := by decide +kernel
  have glm : sampleCrVmcs.glm = false := by decide +kernel
  refine ⟨by decide +kernel, by decide +kernel, ⟨?_, ?_, ?_, ?_, ?_, ?_, ?_, ?_⟩, ?_⟩
  · rw [cr0]
    intro i notPe notPg fixed
    have bits : (0x80000031#64).getLsbD i = true := @getLsbD_subset 0x80000021 0x80000031 (by decide) i fixed
    have same : (0x80000031#64) = 0x31#64 ||| 0x80000000#64 := by decide
    have top := @getLsbD_const 0x80000000#64 (fun i => i == bitPG) (by decide)
      (fun i large => by simp [bitPG]; omega) i
    rw [same, getLsbD_or, top] at bits
    simpa [notPg] using bits
  · rw [cr0]
    intro i _ _ set
    exact getLsbD_subset (by decide) i set
  · rw [cr0]
    decide
  · rw [cr4]
    exact getLsbD_subset (by decide)
  · rw [cr4]
    exact getLsbD_subset (by decide)
  · rw [glm]
    intro wrong
    cases wrong
  · rw [cr4]
    decide
  · rw [cr4]
    decide
  · unfold LongAgrees
    rw [glm, cr0]
    decide

theorem cr_write_right_cache_disable :
    Cr0WriteRight sampleFixed (fun _ _ => 0) (fun _ => 0) (fun _ => 0x40000031) 0 sampleCrVmcs 0 := by
  have value : sampleCrVmcs.readReg (fun _ => 0x40000031) (vmxDecodeReg 0) = 0x40000031 := rfl
  have exits : movCr0Exits sampleCrVmcs 0x40000031 := by
    unfold movCr0Exits
    decide +kernel
  refine ((cr_write_right_iff sampleFixed (fun _ _ => 0) (fun _ => 0) (fun _ => 0x40000031) 0
    sampleCrVmcs 0 sampleCrState).1 exits).mpr ?_
  rw [value]
  have cr0 : sampleCrVmcs .guestCR0 = 0x31 := by decide +kernel
  have cr4 : sampleCrVmcs .guestCR4 = 0x2000 := by decide +kernel
  refine ⟨fun i _ _ set => @getLsbD_subset 0x40000031 0xffffffff (by decide) i set, by decide, ?_, ?_⟩
  · rw [cr4]
    decide
  · rw [cr0]
    intro change
    exact absurd rfl change

/-- Setting bit 32 of CR0 together with CD: the processor would raise #GP, the handler puts the bit
in the VMCS, and VM entry fails. -/
theorem cr0_write_keeps_reserved_bit :
    ¬ Cr0WriteRight sampleFixed (fun _ _ => 0) (fun _ => 0) (fun _ => 0x140000031) 0 sampleCrVmcs 0 := by
  have exits : movCr0Exits sampleCrVmcs
      (sampleCrVmcs.readReg (fun _ => 0x140000031) (vmxDecodeReg 0)) := by
    unfold movCr0Exits
    decide +kernel
  intro right
  have zeros := ((cr0_write_iff sampleCrState 0 exits).mp right).zeros 32 (by decide) (by decide) rfl
  revert zeros
  decide

end Xmhf
