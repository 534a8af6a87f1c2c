import Xmhf.Memprot.Isolation
import Xmhf.Nested.VcpuInit
import Xmhf.Partition.Bitmaps
import Xmhf.Smpguest.Sipi
import Xmhf.Vmx.Msr
import Xmhf.Vmx.Vmcs

/-!
# `RDMSR` and `WRMSR`

The intercept handlers for MSR accesses of the guest (`peh-x86vmx-main.c`), and the
MSR bitmap with which the processor decides whether an access exits to them
(`vmx_prepare_msr_bitmap`). An access that does not exit acts on the register itself:
on the physical one, or for an MSR that VM entries and exits switch on the copy in the
VMCS or in the MSR area. `SameEffect` says that the bitmap makes no difference.

The model is the build without `__UPDATE_INTEL_UCODE__`; `none` is a halted CPU.
-/

namespace Xmhf

variable {m : GuestMtrrMsrs} {msr : U32}

variable {η : Type}

/-- The physical MSRs, as instructions of the host see them; an access that faults gives
`none`. `accepts` tells which values the guest can write to a switched MSR. -/
structure MsrHardware (η : Type) where
  wrmsr : η → U32 → U64 → Option η
  rdmsr : η → U32 → Option U64
  accepts : U32 → U64 → Bool

structure MsrEnv (η : Type) where
  hardware : MsrHardware η
  pf : Platform
  /-- `__NESTED_VIRTUALIZATION__` -/
  nested : Bool
  /-- `vcpu->id` and `vcpu->vmx_nested_msrs` -/
  vcpuId : U32
  nestedMsrs : VmxMsr → U64
  /-- `xmhf_app_handlemtrr` succeeds. -/
  handlemtrr : U32 → U64 → Bool

/-- What an MSR access can change, apart from `vcpu->vmcs`. -/
structure MsrCpu (η : Type) where
  phys : η
  /-- `vmx_vaddr_msr_area_guest` -/
  msrAreaGuest : Nat → MsrEntry
  ept01 : Ept01
  midtable : List SmpVcpu
  /-- `vmx_msr_bitmaps[vcpu->idx]` -/
  msrBitmap : Bitmap.Bytes

/-! ## Handlers -/

/-- `xmhf_smpguest_arch_x86vmx_eventhandler_x2apic_icrwrite`. An INIT IPI is skipped and a
startup IPI noted; every other IPI is not handled. -/
def icrwrite (env : MsrEnv η) (cpu : MsrCpu η) (value : U64) : Option (Bool × MsrCpu η) :=
  let eax : U32 := value.setWidth 32
  let edx : U32 := (value >>> 32).setWidth 32
  if value &&& 0xf00 = 0x500 then
    (x2apicIcrwrite env.pf cpu.ept01 value false).map fun ept01 => (true, { cpu with ept01 })
  else if value &&& 0xf00 = 0x600 then
    if edx ≤ 0xff then
      (processSIPI cpu.midtable env.vcpuId eax edx).bind fun (allSipi, midtable) =>
        (x2apicIcrwrite env.pf cpu.ept01 value allSipi).map fun ept01 =>
          -- `delink_lapic` also clears the bits of the ICR in the MSR bitmap
          let msrBitmap :=
            if allSipi then clearMsrbitmap cpu.msrBitmap IA32_X2APIC_ICR else cpu.msrBitmap
          (true, { cpu with ept01, midtable, msrBitmap })
    else none
  else some (false, cpu)

/-- The MSRs that VM entries and exits switch through the VMCS or the MSR area. -/
def switchedMsrs : List U32 :=
  [MSR_EFER, MSR_IA32_PAT, IA32_SYSENTER_CS_MSR, IA32_SYSENTER_EIP_MSR, IA32_SYSENTER_ESP_MSR,
    IA32_MSR_FS_BASE, IA32_MSR_GS_BASE]

/-- `xmhf_parteventhub_arch_x86vmx_handle_wrmsr`, which answers whether to inject #GP. -/
def handleWrmsr (env : MsrEnv η) (cpu : MsrCpu η) (index : U32) (value : U64) :
    Option (Bool × MsrCpu η) :=
  -- "Illegal behavior"
  if index ∈ switchedMsrs then none
  else if index = IA32_MTRRCAP ∨ index ∈ mtrrMsrs then
    (mtrrWrite env.pf cpu.ept01 index value (env.handlemtrr index value)).bind
      fun (stored, ept01) => if stored then some (false, { cpu with ept01 }) else none
  -- "OS tries to write microcode, ignore"
  else if index = IA32_BIOS_UPDT_TRIG then some (false, cpu)
  else if index = IA32_X2APIC_ICR then
    (icrwrite env cpu value).bind fun (handled, cpu) =>
      if handled then some (false, cpu)
      -- "Forward to physical APIC"
      else (env.hardware.wrmsr cpu.phys index value).map fun phys => (false, { cpu with phys })
  -- "Writing Intel PT disabled"
  else if index ∈ rtitMsrs then none
  -- "Writing to VMX MSRs (read-only)"
  else if env.nested ∧ index ∈ vmxCapMsrs then none
  else
    match env.hardware.wrmsr cpu.phys index value with
    | none => some (true, cpu)
    | some phys => some (false, { cpu with phys })

/-- `vcpu->vmx_nested_msrs[i]` -/
def VmxMsr.ofIndex : Nat → Option VmxMsr
  | 0 => some .basic
  | 1 => some .pinbasedCtls
  | 2 => some .procbasedCtls
  | 3 => some .exitCtls
  | 4 => some .entryCtls
  | 5 => some .misc
  | 6 => some .cr0Fixed0
  | 7 => some .cr0Fixed1
  | 8 => some .cr4Fixed0
  | 9 => some .cr4Fixed1
  | 10 => some .vmcsEnum
  | 11 => some .procbasedCtls2
  | 12 => some .eptVpidCap
  | 13 => some .truePinbasedCtls
  | 14 => some .trueProcbasedCtls
  | 15 => some .trueExitCtls
  | 16 => some .trueEntryCtls
  | 17 => some .vmfunc
  | _ => none

/-- `xmhf_parteventhub_arch_x86vmx_handle_rdmsr`: a value, or #GP to inject. -/
def handleRdmsr (env : MsrEnv η) (cpu : MsrCpu η) (index : U32) : Option (Option U64) :=
  -- "Illegal behavior"
  if index ∈ switchedMsrs then none
  else if index ∈ mtrrMsrs then (mtrrRead cpu.ept01.mtrr index).map some
  -- "TODO: x2APIC ICR read not implemented"
  else if index = IA32_X2APIC_ICR then none
  else if env.nested ∧ index ∈ vmxCapMsrs then
    (VmxMsr.ofIndex (index - IA32_VMX_BASIC_MSR).toNat).map fun msr => some (env.nestedMsrs msr)
  else some (env.hardware.rdmsr cpu.phys index)

/-- The field of the VMCS that holds an MSR of the guest. -/
def vmcsOfMsr (vmcs : Vmcs) (index : U32) (value : U64) : Option Vmcs :=
  if index = IA32_SYSENTER_CS_MSR then some (vmcs.vmwrite .guestSYSENTERCS (value.setWidth 32))
  else if index = IA32_SYSENTER_EIP_MSR then some (vmcs.vmwrite .guestSYSENTEREIP value)
  else if index = IA32_SYSENTER_ESP_MSR then some (vmcs.vmwrite .guestSYSENTERESP value)
  else if index = IA32_MSR_FS_BASE then some (vmcs.vmwrite .guestFSBase value)
  else if index = IA32_MSR_GS_BASE then some (vmcs.vmwrite .guestGSBase value)
  else none

def msrOfVmcs (vmcs : Vmcs) (index : U32) : Option U64 :=
  if index = IA32_SYSENTER_CS_MSR then some ((vmcs .guestSYSENTERCS).setWidth 64)
  else if index = IA32_SYSENTER_EIP_MSR then some (vmcs .guestSYSENTEREIP)
  else if index = IA32_SYSENTER_ESP_MSR then some (vmcs .guestSYSENTERESP)
  else if index = IA32_MSR_FS_BASE then some (vmcs .guestFSBase)
  else if index = IA32_MSR_GS_BASE then some (vmcs .guestGSBase)
  else none

def MsrCpu.setMsrArea (cpu : MsrCpu η) (i : Nat) (value : U64) : MsrCpu η :=
  { cpu with
    msrAreaGuest := Function.update cpu.msrAreaGuest i { cpu.msrAreaGuest i with data := value } }

inductive MsrAccess where
  | read (index : U32)
  | write (index : U32) (value : U64)
  deriving DecidableEq, Repr

def MsrAccess.index : MsrAccess → U32
  | .read index => index
  | .write index _ => index

def MsrAccess.isWrite : MsrAccess → Bool
  | .read _ => false
  | .write _ _ => true

inductive MsrOutcome (η : Type) where
  | gp
  | value (read : U64)
  | stored (vmcs : Vmcs) (cpu : MsrCpu η)

/-- `_vmx_handle_intercept_wrmsr` and `_vmx_handle_intercept_rdmsr`, up to the guest's
registers. -/
def interceptMsr (env : MsrEnv η) (vmcs : Vmcs) (cpu : MsrCpu η) : MsrAccess → Option (MsrOutcome η)
  | .write index value =>
    match vmcsOfMsr vmcs index value, getXmhfMsr index with
    | some vmcs, _ => some (.stored vmcs cpu)
    | none, some i =>
      if (cpu.msrAreaGuest i).index = index then some (.stored vmcs (cpu.setMsrArea i value))
      else none
    | none, none =>
      (handleWrmsr env cpu index value).map fun (fails, cpu) =>
        if fails then .gp else .stored vmcs cpu
  | .read index =>
    match msrOfVmcs vmcs index, getXmhfMsr index with
    | some value, _ => some (.value value)
    | none, some i =>
      if (cpu.msrAreaGuest i).index = index then some (.value (cpu.msrAreaGuest i).data)
      else none
    | none, none =>
      (handleRdmsr env cpu index).map fun read =>
        match read with
        | some value => .value value
        | none => .gp

/-! ## Accesses that do not exit -/

/-- The access of the guest to the register itself. What it writes to a switched MSR is what
the next VM exit stores. -/
def guestMsr (env : MsrEnv η) (vmcs : Vmcs) (cpu : MsrCpu η) : MsrAccess → MsrOutcome η
  | .write index value =>
    match vmcsOfMsr vmcs index value, getXmhfMsr index with
    | some vmcs, _ => if env.hardware.accepts index value then .stored vmcs cpu else .gp
    | none, some i =>
      if env.hardware.accepts index value then .stored vmcs (cpu.setMsrArea i value) else .gp
    | none, none =>
      match env.hardware.wrmsr cpu.phys index value with
      | some phys => .stored vmcs { cpu with phys }
      | none => .gp
  | .read index =>
    match msrOfVmcs vmcs index, getXmhfMsr index with
    | some value, _ => .value value
    | none, some i => .value (cpu.msrAreaGuest i).data
    | none, none =>
      match env.hardware.rdmsr cpu.phys index with
      | some value => .value value
      | none => .gp

/-! ## The bitmap -/

/-- The calls of `vmx_prepare_msr_bitmap`. -/
def preparedMsrs (nested : Bool) : List U32 :=
  mtrrMsrs ++ [IA32_BIOS_UPDT_TRIG, IA32_X2APIC_ICR] ++
    if nested then vmxCapMsrs ++ [IA32_VMX_VMFUNC_MSR] else []

def vmxPrepareMsrBitmap (nested : Bool) (bitmap : Bitmap.Bytes) : Bitmap.Bytes :=
  (preparedMsrs nested).foldl setMsrbitmap bitmap

def accessMsr (env : MsrEnv η) (vmcs : Vmcs) (cpu : MsrCpu η) (access : MsrAccess) :
    Option (MsrOutcome η) :=
  if msrBitmapExits cpu.msrBitmap access.index access.isWrite then interceptMsr env vmcs cpu access
  else some (guestMsr env vmcs cpu access)

/-- The access has the effect that it would have if every access exited. -/
def SameEffect (env : MsrEnv η) (vmcs : Vmcs) (cpu : MsrCpu η) (access : MsrAccess) : Prop :=
  accessMsr env vmcs cpu access = interceptMsr env vmcs cpu access

/-- The condition on an access: no write to Intel PT or to `IA32_MTRRCAP`, and a switched
MSR is given a value that the processor accepts. -/
def MsrAccess.Fits (env : MsrEnv η) : MsrAccess → Prop
  | .read _ => True
  | .write index value =>
    index ∉ rtitMsrs ∧ index ≠ IA32_MTRRCAP ∧
      (index ∈ switchedMsrs → env.hardware.accepts index value = true)

theorem bit_setMsrbitmap (low : msr < 0x2000#32) (bitmap : Bitmap.Bytes) (n : Nat) :
    Bitmap.bit (setMsrbitmap bitmap msr) n =
      (decide (n = msr.toNat) || decide (n = msr.toNat + 8 * 2048) || Bitmap.bit bitmap n) := by
  unfold setMsrbitmap msrBitNum
  rw [if_pos low]
  simp only [Bitmap.bit_set]
  cases decide (n = msr.toNat) <;> cases decide (n = msr.toNat + 8 * 2048) <;> simp

theorem bit_foldl_setMsrbitmap {msrs : List U32} (low : ∀ msr ∈ msrs, msr < 0x2000#32)
    (bitmap : Bitmap.Bytes) (n : Nat) :
    Bitmap.bit (msrs.foldl setMsrbitmap bitmap) n =
      (msrs.any (fun msr => decide (n = msr.toNat) || decide (n = msr.toNat + 8 * 2048)) ||
        Bitmap.bit bitmap n) := by
  induction msrs generalizing bitmap with
  | nil => rfl
  | cons msr msrs later =>
    rw [List.foldl_cons, later fun m member => low m (List.mem_cons_of_mem _ member),
      bit_setMsrbitmap (low msr List.mem_cons_self), List.any_cons]
    simp only [Bool.or_left_comm, Bool.or_assoc]

theorem preparedMsrs_low (nested : Bool) : ∀ msr ∈ preparedMsrs nested, msr < 0x2000#32 := by
  have all : (preparedMsrs nested).all (fun msr => decide (msr < 0x2000#32)) = true := by
    cases nested <;> rfl
  intro msr member
  exact of_decide_eq_true (List.all_eq_true.mp all msr member)

def inBitmapRange (msr : U32) : Bool :=
  decide (msr < 0x2000#32) || decide (0xc0000000#32 ≤ msr ∧ msr < 0xc0002000#32)

theorem preparedBit_low (nested : Bool) (inLow : msr.toNat < 0x2000) (write : Bool) :
    (preparedMsrs nested).any (fun m =>
        decide ((if write then 8 * 2048 else 0) + msr.toNat = m.toNat) ||
          decide ((if write then 8 * 2048 else 0) + msr.toNat = m.toNat + 8 * 2048)) =
      decide (msr ∈ preparedMsrs nested) := by
  rw [Bool.eq_iff_iff, List.any_eq_true, decide_eq_true_eq]
  constructor
  · intro found
    rcases found with ⟨m, member, place⟩
    have small : m.toNat < 0x2000 := preparedMsrs_low nested m member
    have same : msr.toNat = m.toNat := by
      rw [Bool.or_eq_true, decide_eq_true_eq, decide_eq_true_eq] at place
      cases write <;> simp only [if_true, if_false, Bool.false_eq_true] at place <;> omega
    rw [BitVec.eq_of_toNat_eq same]
    exact member
  · intro member
    refine ⟨msr, member, ?_⟩
    rw [Bool.or_eq_true, decide_eq_true_eq, decide_eq_true_eq]
    cases write <;> simp only [if_true, if_false, Bool.false_eq_true] <;> omega

theorem preparedBit_high (nested : Bool) {n : Nat} (inHigh : n < 0x2000) (write : Bool) :
    (preparedMsrs nested).any (fun m =>
        decide ((if write then 8 * 2048 else 0) + 8 * 1024 + n = m.toNat) ||
          decide ((if write then 8 * 2048 else 0) + 8 * 1024 + n = m.toNat + 8 * 2048)) =
      false := by
  rw [List.any_eq_false]
  intro m member
  have small : m.toNat < 0x2000 := preparedMsrs_low nested m member
  rw [Bool.or_eq_true, decide_eq_true_eq, decide_eq_true_eq]
  cases write <;> simp only [if_true, if_false, Bool.false_eq_true] <;> omega

theorem msrBitmapExits_prepared (nested : Bool) (msr : U32) (write : Bool) :
    msrBitmapExits (vmxPrepareMsrBitmap nested fun _ => 0) msr write =
      (decide (msr ∈ preparedMsrs nested) || !inBitmapRange msr) := by
  have bits := bit_foldl_setMsrbitmap (preparedMsrs_low nested) (fun _ => 0)
  have empty : ∀ n, Bitmap.bit (fun _ => 0) n = false := fun n => by simp [Bitmap.bit]
  unfold msrBitmapExits vmxPrepareMsrBitmap inBitmapRange
  by_cases inLow : msr < 0x2000#32
  · simp only [inLow, if_true, bits, empty, Bool.or_false, decide_true, Bool.true_or, Bool.not_true]
    exact preparedBit_low nested inLow write
  · have notPrepared : msr ∉ preparedMsrs nested :=
      fun member => inLow (preparedMsrs_low nested msr member)
    by_cases inHigh : 0xc0000000#32 ≤ msr ∧ msr < 0xc0002000#32
    · simp only [inLow, inHigh, and_self, if_true, if_false, bits, empty, Bool.or_false,
        decide_true, Bool.or_true, Bool.not_true, notPrepared, decide_false]
      apply preparedBit_high
      have from_below : 0xc0000000 ≤ msr.toNat := inHigh.1
      have above : msr.toNat < 0xc0002000 := inHigh.2
      rw [BitVec.toNat_sub_of_le inHigh.1]
      change msr.toNat - 0xc0000000 < 0x2000
      omega
    · simp [inLow, inHigh, notPrepared]

/-! ## Handler and register -/

section

variable {env : MsrEnv η} {vmcs : Vmcs} {cpu : MsrCpu η} {index : U32}

def MsrAreaSetUp (cpu : MsrCpu η) : Prop :=
  (cpu.msrAreaGuest 0).index = MSR_EFER ∧ (cpu.msrAreaGuest 1).index = MSR_IA32_PAT

theorem not_intercepted (nested : Bool)
    (member : index ∈ rtitMsrs ++ IA32_MTRRCAP :: switchedMsrs) (write : Bool) :
    msrBitmapExits (vmxPrepareMsrBitmap nested fun _ => 0) index write = false := by
  have all : (rtitMsrs ++ IA32_MTRRCAP :: switchedMsrs).all (fun msr =>
      decide (msr ∉ preparedMsrs nested) && inBitmapRange msr) = true := by
    cases nested <;> rfl
  have both := Bool.and_eq_true_iff.mp (List.all_eq_true.mp all index member)
  rw [msrBitmapExits_prepared, both.2, decide_eq_false (of_decide_eq_true both.1)]
  rfl

theorem switched_write (area : MsrAreaSetUp cpu) (member : index ∈ switchedMsrs) (value : U64) :
    ∃ vmcs' cpu', interceptMsr env vmcs cpu (.write index value) = some (.stored vmcs' cpu') ∧
      guestMsr env vmcs cpu (.write index value) =
        if env.hardware.accepts index value then .stored vmcs' cpu' else .gp := by
  rcases area with ⟨efer, pat⟩
  simp only [switchedMsrs, List.mem_cons, List.not_mem_nil, or_false] at member
  rcases member with rfl | rfl | rfl | rfl | rfl | rfl | rfl
  · exact ⟨_, _, if_pos efer, rfl⟩
  · exact ⟨_, _, if_pos pat, rfl⟩
  iterate 5 exact ⟨_, _, rfl, rfl⟩

theorem switched_read (area : MsrAreaSetUp cpu) (member : index ∈ switchedMsrs) :
    interceptMsr env vmcs cpu (.read index) = some (guestMsr env vmcs cpu (.read index)) := by
  rcases area with ⟨efer, pat⟩
  simp only [switchedMsrs, List.mem_cons, List.not_mem_nil, or_false] at member
  rcases member with rfl | rfl | rfl | rfl | rfl | rfl | rfl
  · exact if_pos efer
  · exact if_pos pat
  iterate 5 rfl

theorem not_switched (other : index ∉ switchedMsrs) :
    (∀ value, vmcsOfMsr vmcs index value = none) ∧ msrOfVmcs vmcs index = none ∧
      getXmhfMsr index = none := by
  simp only [switchedMsrs, List.mem_cons, List.not_mem_nil, or_false, not_or] at other
  simp [vmcsOfMsr, msrOfVmcs, getXmhfMsr, other]

theorem not_prepared {nested : Bool} (notPrepared : index ∉ preparedMsrs nested) :
    index ∉ mtrrMsrs ∧ index ≠ IA32_BIOS_UPDT_TRIG ∧ index ≠ IA32_X2APIC_ICR ∧
      ¬ (nested = true ∧ index ∈ vmxCapMsrs) := by
  simp only [preparedMsrs, List.mem_append, List.mem_cons, List.not_mem_nil, or_false,
    not_or] at notPrepared
  rcases notPrepared with ⟨⟨notMtrr, notTrig, notIcr⟩, notVmx⟩
  refine ⟨notMtrr, notTrig, notIcr, fun caps => ?_⟩
  rw [if_pos caps.1] at notVmx
  exact notVmx (List.mem_append_left _ caps.2)

section

variable (other : index ∉ switchedMsrs) (notPrepared : index ∉ preparedMsrs env.nested)

include other notPrepared

theorem passed_write (notRtit : index ∉ rtitMsrs) (notCap : index ≠ IA32_MTRRCAP) (value : U64) :
    interceptMsr env vmcs cpu (.write index value) =
      some (guestMsr env vmcs cpu (.write index value)) := by
  have apart : (∀ value, vmcsOfMsr vmcs index value = none) ∧ _ ∧ _ := not_switched other
  rcases apart with ⟨noField, -, noEntry⟩
  obtain ⟨notMtrr, notTrig, notIcr, notCaps⟩ := not_prepared notPrepared
  simp only [interceptMsr, guestMsr, noField, noEntry, handleWrmsr, if_neg other,
    if_neg (not_or.mpr ⟨notCap, notMtrr⟩), if_neg notTrig, if_neg notIcr, if_neg notRtit,
    if_neg notCaps]
  cases env.hardware.wrmsr cpu.phys index value <;> rfl

theorem passed_read :
    interceptMsr env vmcs cpu (.read index) = some (guestMsr env vmcs cpu (.read index)) := by
  have apart : _ ∧ msrOfVmcs vmcs index = none ∧ _ := not_switched other
  rcases apart with ⟨-, noField, noEntry⟩
  obtain ⟨notMtrr, notTrig, notIcr, notCaps⟩ := not_prepared notPrepared
  simp only [interceptMsr, guestMsr, noField, noEntry, handleRdmsr, if_neg other, if_neg notMtrr,
    if_neg notIcr, if_neg notCaps]
  cases env.hardware.rdmsr cpu.phys index <;> rfl

end

theorem refused_write (refused : index ∈ rtitMsrs ∨ index = IA32_MTRRCAP) (value : U64) :
    interceptMsr env vmcs cpu (.write index value) = none := by
  rcases refused with rtit | rfl
  · simp only [rtitMsrs, List.mem_cons, List.not_mem_nil, or_false] at rtit
    rcases rtit with rfl | rfl | rfl | rfl | rfl | rfl | rfl | rfl | rfl | rfl | rfl | rfl | rfl <;>
      rfl
  · -- no shadow register has this number
    rfl

end

def sampleMsrEnv : MsrEnv (U32 → U64) where
  hardware := ⟨fun phys index value => some (Function.update phys index value),
    fun phys index => some (phys index), fun _ _ => true⟩
  pf := samplePlatform
  nested := true
  vcpuId := 0
  nestedMsrs _ := 0
  handlemtrr _ _ := true

def sampleMsrCpu : MsrCpu (U32 → U64) where
  phys _ := 0
  msrAreaGuest i := if i = 0 then ⟨MSR_EFER, 0⟩ else ⟨MSR_IA32_PAT, 0⟩
  ept01 := ⟨fun _ => 0, ⟨0, fun _ => 0, 0, fun _ => ⟨0, 0⟩, false, false, 0, 0⟩, .rsvd, 0, false, false⟩
  midtable := []
  msrBitmap := vmxPrepareMsrBitmap true fun _ => 0

/-- The register is one that the machine reports: a register of a variable range is of one
of the pairs counted in `IA32_MTRRCAP`. -/
def MtrrReg.Reported (m : GuestMtrrMsrs) : MtrrReg → Prop
  | .defType => True
  | .varBase i => i < m.varCount
  | .varMask i => i < m.varCount
  | .fixed _ => True

/-- The two handlers find only reported registers under the index, and answer an index of
an intercepted MTRR under which they find none with #GP. -/
structure MtrrIndexAnswered (env : MsrEnv η) (cpu : MsrCpu η) (msr : U32) (value : U64) : Prop where
  reported : ∀ reg, mtrrReg cpu.ept01.mtrr msr = some reg → reg.Reported cpu.ept01.mtrr
  read : msr ∈ mtrrMsrs → mtrrReg cpu.ept01.mtrr msr = none → handleRdmsr env cpu msr = some none
  write : msr ∈ mtrrMsrs → mtrrReg cpu.ept01.mtrr msr = none →
    ∃ cpu', handleWrmsr env cpu msr value = some (true, cpu')

/-- The number of the pair that an index from `IA32_MTRR_PHYSBASE0` on belongs to. -/
def mtrrPair (msr : U32) : Nat :=
  (msr.toNat - IA32_MTRR_PHYSBASE0.toNat) / 2

def IsVariableMtrr (msr : U32) : Prop :=
  IA32_MTRR_PHYSBASE0.toNat ≤ msr.toNat ∧ mtrrPair msr < MAX_VARIABLE_MTRR_PAIRS

theorem mtrrMsrs_eq : mtrrMsrs = IA32_MTRR_DEF_TYPE :: (fixedMtrrProp.map FixedMtrrProp.msr ++
      (List.range 20).map fun i => BitVec.ofNat 32 (0x200 + i)) :=
  rfl

theorem mem_mtrrMsrs : msr ∈ mtrrMsrs ↔
    msr = IA32_MTRR_DEF_TYPE ∨ (∃ prop ∈ fixedMtrrProp, prop.msr = msr) ∨ IsVariableMtrr msr := by
  have variableRange : (∃ i ∈ List.range 20, BitVec.ofNat 32 (0x200 + i) = msr) ↔
      IsVariableMtrr msr := by
    unfold IsVariableMtrr mtrrPair
    have first : IA32_MTRR_PHYSBASE0.toNat = 0x200 := rfl
    have pairs : MAX_VARIABLE_MTRR_PAIRS = 10 := rfl
    rw [first, pairs]
    constructor
    · rintro ⟨i, small, rfl⟩
      have below := List.mem_range.mp small
      have wrapped : (BitVec.ofNat 32 (0x200 + i)).toNat = 0x200 + i := by
        rw [BitVec.toNat_ofNat]
        omega
      omega
    · rintro ⟨above, below⟩
      refine ⟨msr.toNat - 0x200, List.mem_range.mpr (by omega), BitVec.eq_of_toNat_eq ?_⟩
      have := msr.isLt
      rw [BitVec.toNat_ofNat]
      omega
  rw [mtrrMsrs_eq, List.mem_cons, List.mem_append, List.mem_map, List.mem_map, variableRange]

theorem mtrrReg_variable (notDef : msr ≠ IA32_MTRR_DEF_TYPE)
    (above : IA32_MTRR_PHYSBASE0.toNat ≤ msr.toNat) (inside : mtrrPair msr ≤ m.varCount) :
    mtrrReg m msr = some (.varBase (mtrrPair msr)) ∨
      mtrrReg m msr = some (.varMask (mtrrPair msr)) := by
  have first : IA32_MTRR_PHYSBASE0.toNat = 0x200 := rfl
  have firstMask : IA32_MTRR_PHYSMASK0.toNat = 0x201 := rfl
  have small := msr.isLt
  unfold mtrrPair at inside ⊢
  have range : msr.toNat ≤ IA32_MTRR_PHYSMASK0.toNat + 2 * m.varCount := by omega
  have fromBase : (msr - IA32_MTRR_PHYSBASE0).toNat = msr.toNat - 0x200 :=
    BitVec.toNat_sub_of_le above
  unfold mtrrReg
  rw [if_neg notDef, if_pos ⟨above, range⟩, fromBase, first]
  by_cases even : (msr.toNat - 0x200) % 2 = 0
  · exact Or.inl (if_pos even)
  · have aboveMask : IA32_MTRR_PHYSMASK0.toNat ≤ msr.toNat := by omega
    have fromMask : (msr - IA32_MTRR_PHYSMASK0).toNat = msr.toNat - 0x201 :=
      BitVec.toNat_sub_of_le aboveMask
    have pair : (msr.toNat - 0x201) / 2 = (msr.toNat - 0x200) / 2 := by omega
    right
    rw [if_neg even, fromMask, pair]

theorem mtrrReg_beyond (variableRange : IsVariableMtrr msr) (beyond : m.varCount < mtrrPair msr) :
    mtrrReg m msr = none := by
  have first : IA32_MTRR_PHYSBASE0.toNat = 0x200 := rfl
  have firstMask : IA32_MTRR_PHYSMASK0.toNat = 0x201 := rfl
  have pairs : MAX_VARIABLE_MTRR_PAIRS = 10 := rfl
  rcases variableRange with ⟨above, below⟩
  unfold mtrrPair at below beyond
  have notDef : msr ≠ IA32_MTRR_DEF_TYPE := by
    rintro rfl
    exact absurd below (by decide)
  have outside : ¬ (IA32_MTRR_PHYSBASE0.toNat ≤ msr.toNat ∧
      msr.toNat ≤ IA32_MTRR_PHYSMASK0.toNat + 2 * m.varCount) := by omega
  have fixedAbove : ∀ prop ∈ fixedMtrrProp, 0x250 ≤ prop.msr.toNat := by decide
  unfold mtrrReg
  rw [if_neg notDef, if_neg outside, Option.map_eq_none_iff, List.findIdx?_eq_none_iff]
  intro prop member
  refine beq_eq_false_iff_ne.mpr ?_
  rintro rfl
  have := fixedAbove prop member
  omega

theorem mtrrReg_reported (other : IA32_MTRR_PHYSBASE0.toNat ≤ msr.toNat → mtrrPair msr ≠ m.varCount)
    {reg : MtrrReg} (found : mtrrReg m msr = some reg) : reg.Reported m := by
  have first : IA32_MTRR_PHYSBASE0.toNat = 0x200 := rfl
  have firstMask : IA32_MTRR_PHYSMASK0.toNat = 0x201 := rfl
  by_cases isDef : msr = IA32_MTRR_DEF_TYPE
  · rw [mtrrReg, if_pos isDef] at found
    cases found
    trivial
  · by_cases inside : IA32_MTRR_PHYSBASE0.toNat ≤ msr.toNat ∧ mtrrPair msr ≤ m.varCount
    · have pair : mtrrPair msr < m.varCount := lt_of_le_of_ne inside.2 (other inside.1)
      rcases mtrrReg_variable isDef inside.1 inside.2 with base | mask
      · cases found.symm.trans base
        exact pair
      · cases found.symm.trans mask
        exact pair
    · have outside : ¬ (IA32_MTRR_PHYSBASE0.toNat ≤ msr.toNat ∧
          msr.toNat ≤ IA32_MTRR_PHYSMASK0.toNat + 2 * m.varCount) := by
        unfold mtrrPair at inside
        omega
      rw [mtrrReg, if_neg isDef, if_neg outside] at found
      rcases Option.map_eq_some_iff.mp found with ⟨i, -, rfl⟩
      trivial

theorem mtrrReg_found (member : msr ∈ mtrrMsrs)
    (reported : IsVariableMtrr msr → mtrrPair msr < m.varCount) : mtrrReg m msr ≠ none := by
  by_cases isDef : msr = IA32_MTRR_DEF_TYPE
  · rw [mtrrReg, if_pos isDef]
    exact Option.some_ne_none _
  · rcases mem_mtrrMsrs.mp member with def_ | ⟨prop, listed, at_⟩ | variableRange
    · exact absurd def_ isDef
    · rw [mtrrReg, if_neg isDef]
      split
      · split <;> exact Option.some_ne_none _
      · intro missing
        have none_ := List.findIdx?_eq_none_iff.mp (Option.map_eq_none_iff.mp missing) prop listed
        exact beq_eq_false_iff_ne.mp none_ at_
    · rcases mtrrReg_variable isDef variableRange.1 (reported variableRange).le with base | mask
      · rw [base]
        exact Option.some_ne_none _
      · rw [mask]
        exact Option.some_ne_none _

theorem mtrrMsrs_not_switched (member : msr ∈ mtrrMsrs) : msr ∉ switchedMsrs := by
  have all : mtrrMsrs.all (fun msr => !switchedMsrs.contains msr) = true := by rfl
  intro switched
  have apart := List.all_eq_true.mp all msr member
  rw [List.contains_iff_mem.mpr switched] at apart
  cases apart

/-- The range check of the handlers ends one pair late, and an index past it halts the CPU:
an index is answered as the guest may expect when it is not of the first unreported pair
and, among the intercepted variable ranges, of a reported pair. -/
theorem mtrr_index_answered_iff {env : MsrEnv η} {cpu : MsrCpu η}
    (fits : cpu.ept01.mtrr.varCount ≤ MAX_VARIABLE_MTRR_PAIRS) (msr : U32) (value : U64) :
    MtrrIndexAnswered env cpu msr value ↔
      (IA32_MTRR_PHYSBASE0.toNat ≤ msr.toNat → mtrrPair msr ≠ cpu.ept01.mtrr.varCount) ∧
        (IsVariableMtrr msr → mtrrPair msr < cpu.ept01.mtrr.varCount) := by
  constructor
  · intro answered
    have other : IA32_MTRR_PHYSBASE0.toNat ≤ msr.toNat →
        mtrrPair msr ≠ cpu.ept01.mtrr.varCount := by
      intro above same
      have notDef : msr ≠ IA32_MTRR_DEF_TYPE := by
        rintro rfl
        exact absurd (same.trans_le fits) (by decide)
      rcases mtrrReg_variable notDef above same.le with base | mask
      · exact (answered.reported _ base).ne same
      · exact (answered.reported _ mask).ne same
    refine ⟨other, fun variableRange => ?_⟩
    by_contra unreported
    have beyond : cpu.ept01.mtrr.varCount < mtrrPair msr :=
      lt_of_le_of_ne (not_lt.mp unreported) (other variableRange.1).symm
    have missing := mtrrReg_beyond variableRange beyond
    have member := mem_mtrrMsrs.mpr (Or.inr (Or.inr variableRange))
    have halted : handleRdmsr env cpu msr = none := by
      rw [handleRdmsr, if_neg (mtrrMsrs_not_switched member), if_pos member, mtrrRead, missing]
      rfl
    exact Option.some_ne_none _ ((answered.read member missing).symm.trans halted)
  · rintro ⟨other, reported⟩
    exact {
      reported := fun reg found => mtrrReg_reported other found
      read := fun member missing => absurd missing (mtrrReg_found member reported)
      write := fun member missing => absurd missing (mtrrReg_found member reported) }

def eightPairs : MsrCpu (U32 → U64) :=
  { sampleMsrCpu with
    ept01 := { sampleMsrCpu.ept01 with mtrr := { sampleMsrCpu.ept01.mtrr with varCount := 8 } } }

theorem mtrr_index_answered_last : eightPairs.ept01.mtrr.varCount ≤ MAX_VARIABLE_MTRR_PAIRS ∧
      MtrrIndexAnswered sampleMsrEnv eightPairs 0x20f 0 :=
  ⟨by decide, (mtrr_index_answered_iff (by decide) 0x20f 0).mpr
    ⟨fun _ => by decide, fun _ => by decide⟩⟩

/-- With eight pairs, the read of the base of a ninth is answered from the unreported entry of
the array, and the read and the write of the base of a tenth halt. -/
theorem mtrr_index_unreported : mtrrReg eightPairs.ept01.mtrr 0x210 = some (.varBase 8) ∧
      ¬ MtrrReg.Reported eightPairs.ept01.mtrr (.varBase 8) ∧
      handleRdmsr sampleMsrEnv eightPairs 0x210 = some (some 0) ∧
      handleRdmsr sampleMsrEnv eightPairs 0x212 = none ∧
      handleWrmsr sampleMsrEnv eightPairs 0x212 0 = none ∧
      ¬ MtrrIndexAnswered sampleMsrEnv eightPairs 0x210 0 ∧
      ¬ MtrrIndexAnswered sampleMsrEnv eightPairs 0x212 0 := by
  have ninth : mtrrReg eightPairs.ept01.mtrr 0x210 = some (.varBase 8) := rfl
  have tenth : mtrrReg eightPairs.ept01.mtrr 0x212 = none := by decide
  have halted : handleRdmsr sampleMsrEnv eightPairs 0x212 = none := by decide
  have unreported : ¬ MtrrReg.Reported eightPairs.ept01.mtrr (.varBase 8) := Nat.lt_irrefl 8
  refine ⟨ninth, unreported, by decide, halted, ?_, ?_, ?_⟩
  · rfl
  · exact fun answered => unreported (answered.reported _ ninth)
  · intro answered
    have member : (0x212 : U32) ∈ mtrrMsrs := by decide
    exact Option.some_ne_none _ ((answered.read member tenth).symm.trans halted)

end Xmhf
