import Xmhf.Nested.VcpuInit
import Xmhf.Nested.Vmrw

/-!
# The VMX instructions of L1 that choose a VMCS12

`VMXON`, `VMXOFF`, `VMCLEAR`, `VMPTRLD` and `VMPTRST` as `nested-x86vmx-handler1.c` handles
them. XMHF keeps the VMCS12s that are active in an array with a fixed number of slots; a
slot that is free holds the pointer `CUR_VMCS_PTR_INVALID`. `index` of a slot is its
position once `VMXON` has set the array up, and before that nothing reads it.
-/

namespace Xmhf

/-- What the instructions ask for besides the VMCS of L1. -/
structure VmxInstEnv extends NestedEnv where
  /-- `vcpu->vmx_msrs` and `vcpu->vmx_caps` -/
  vmxMsrs : VmxMsr → U64
  vmxCaps : VmxCtls
  /-- EAX of CPUID leaves 0x80000000 and 0x80000008. -/
  cpuidMaxExtended : U32
  cpuidAddrSizes : U32
  /-- Address and content of the shadow VMCS of a slot. -/
  shadowPtr : Nat → U64
  shadow : Nat → Vmcs
  /-- `hva2spa(blank_page)` -/
  blankPage : U64

/-! ## The array of active VMCS12s -/

/-- `find_active_vmcs12`, as an index. -/
def findActiveVmcs12 (n : Nested) (vmcsPtr : U64) : Option Nat :=
  (List.range VMX_NESTED_MAX_ACTIVE_VMCS).find? fun i => (n.active i).vmcs12Ptr == vmcsPtr

def activeVmcs12ArrayInit (n : Nested) : Nested :=
  { n with active := fun i => { n.active i with vmcs12Ptr := CUR_VMCS_PTR_INVALID } }

/-- `new_active_vmcs12`; the value is loaded by the caller. -/
def newActiveVmcs12 (n : Nested) (vmcsPtr : U64) : Option (Nat × Nested) :=
  if vmcsPtr = CUR_VMCS_PTR_INVALID then none
  else
    -- none: "Too many active VMCS's"
    (findActiveVmcs12 n CUR_VMCS_PTR_INVALID).map fun i =>
      (i, n.modify i fun slot => { slot with vmcs12Ptr := vmcsPtr, launched := false })

/-- `xmhf_nested_arch_x86vmx_vmcs_read_all`, from the VMCS `shadow`. -/
def vmcsReadAll (vmxCaps : VmxCtls) (shadow vmcs12 : Vmcs) : Vmcs := fun f =>
  if f.decl.exist vmxCaps then shadow f else vmcs12 f

/-- Reads VMCS12 from its shadow VMCS where the hardware has VMCS shadowing. -/
def readShadow (env : VmxInstEnv) (n : Nested) (i : Nat) : Nested :=
  if env.vmcsShadowing then n.modify i fun slot =>
    { slot with vmcs12Value := vmcsReadAll env.vmxCaps (env.shadow i) slot.vmcs12Value }
  else n

/-! ## VMCS12 in guest memory -/

/-- The offsets of fields in `struct _vmx_vmcsfields`: each is aligned to its size. -/
def vmcsOffsets : List VmcsField → Nat → List (VmcsField × Nat)
  | [], _ => []
  | f :: fs, offset =>
    let size := f.bits / 8
    let start := (offset + size - 1) / size * size
    (f, start) :: vmcsOffsets fs (start + size)

def vmcsLayout : List (VmcsField × Nat) := vmcsOffsets VmcsField.all 0

/-- `sizeof(struct _vmx_vmcsfields)` -/
def vmcsSize : Nat :=
  (vmcsLayout.foldl (fun size (f, start) => max size (start + f.bits / 8)) 0 + 7) / 8 * 8

/-- The bytes of a VMCS12; what lies between the fields is zero. -/
def vmcsBytes (vmcs12 : Vmcs) : List U8 :=
  vmcsLayout.foldl (fun bytes (f, start) =>
    bytes.take start ++ leBytes (f.bits / 8) ((vmcs12 f).setWidth 64) ++
      bytes.drop (start + f.bits / 8)) (List.replicate vmcsSize 0)

def vmcsOfBytes (bytes : List U8) : Vmcs := fun f =>
  let start := (vmcsLayout.find? fun entry => entry.1 = f).elim 0 Prod.snd
  (leWord ((bytes.drop start).take (f.bits / 8))).setWidth f.bits

/-- The loop of `hptw_checked_copy_to_va` in the host context. -/
def copyToGpa (ctx : HptwCtx) (mem : Mem) (cpl : Nat) (dstBase : U64) (src : List U8) :
    Nat → Nat → (Pa → U8) → Option (Pa → U8)
  | 0, _, ram => some ram
  | fuel + 1, copied, ram =>
    if copied < src.length then
      let (dst, toCopy) := hptwCheckedAccessVa ctx mem hptProtWriteMask cpl
        (dstBase + BitVec.ofNat 64 copied) (src.length - copied)
      if dst = nullPtr then none
      else copyToGpa ctx mem cpl dstBase src fuel (copied + toCopy)
        (memcpy ram dst ((src.drop copied).take toCopy))
    else some ram

def guestmemCopyH2gp (ctx : HptwCtx) (mem : Mem) (ram : Pa → U8) (cpl : Nat) (dst : U64)
    (src : List U8) : Option (Pa → U8) :=
  copyToGpa ctx mem cpl dst src src.length 0 ram

/-! ## Checks and endings -/

def VM_INST_ERRNO_VMCLEAR_INVALID_PHY_ADDR : U32 := 2

def VM_INST_ERRNO_VMCLEAR_VMXON_PTR : U32 := 3

def VM_INST_ERRNO_VMPTRLD_INVALID_PHY_ADDR : U32 := 9

def VM_INST_ERRNO_VMPTRLD_VMXON_PTR : U32 := 10

def VM_INST_ERRNO_VMPTRLD_WITH_INCORRECT_VMCS_REV_ID : U32 := 11

def VM_INST_ERRNO_VMXON_IN_VMXROOT : U32 := 15

section

variable (env : VmxInstEnv) (vmcs : Vmcs) (s : VmxGuest)

/-- `_vmx_nested_vm_fail_valid` -/
def vmxFailValid (errorNumber : U32) : Option (Vmcs × VmxGuest) :=
  (s.nested.setVminstrError errorNumber).map fun nested => (vmcs.vmFailValid, { s with nested })

/-- `_vmx_nested_vm_fail` -/
def vmxFail (errorNumber : U32) : Option (Vmcs × VmxGuest) :=
  if s.nested.hasCurrent then vmxFailValid vmcs s errorNumber
  else some (vmcs.vmFailInvalid, s)

def vmxCheckPhysicalAddrWidth (addr : U64) : Option Bool :=
  let width := (env.cpuidAddrSizes &&& 0xff).toNat
  if 0x80000008#32 ≤ env.cpuidMaxExtended ∧ 32 ≤ width ∧ width < 64 then
    let paddrmask : U64 := (1 <<< width) - 1
    let paddrmask := if (env.vmxMsrs .basic).getLsbD 48 then paddrmask &&& 0xffffffff
      else paddrmask
    some (addr &&& ~~~paddrmask == 0)
  else none

/-- The check of a VMXON or VMCS pointer: page aligned and within the physical-address
width. -/
def vmxCheckPointer (ptr : U64) : Option Bool :=
  if paPageAligned4K ptr then vmxCheckPhysicalAddrWidth env ptr else some false

/-- The pointer in the memory operand of an instruction. -/
def vmxPointerOperand : Option U64 :=
  (vmxDecodeM64 vmcs s.regs hptProtReadMask).bind fun addr =>
    (guestmemCopyGv2h (vmcs .guestCR4) vmcs env.mem01 s.ram 0 addr 8).map leWord

/-- EPT01 as `guestmem_init` finds it. -/
def vmxHostCtx : HptwCtx := guestmemHostCtx (vmcs .controlEPTPointer)

/-- Whether the region at `ptr` has the revision identifier of the processor. -/
def vmxCheckRevision (ptr : U64) : Option Bool :=
  (guestmemCopyGp2h (vmxHostCtx vmcs) env.mem01 s.ram 0 ptr 4).map fun bytes =>
    let rev : U32 := (leWord bytes).setWidth 32
    !rev.getLsbD 31 && rev == (env.vmxMsrs .basic).setWidth 32 &&& 0x7fffffff

/-- The checks that the handlers other than that of `VMXON` begin with. -/
def vmxChecked (body : Option (Vmcs × VmxGuest)) : Option (Vmcs × VmxGuest) :=
  (nestedCheckUd env.toNestedEnv vmcs s.nested).bind fun ud =>
    if ud then some (vmcs.injectException CPU_EXCEPTION_UD false 0, s)
    -- "Nested vmexit should be handled elsewhere"
    else if s.nested.mode ≠ .root then none
    else if 0 < vmcs.guestCpl then some (vmcs.injectException CPU_EXCEPTION_GP true 0, s)
    else body

def vmxRetire (result : Option (Vmcs × VmxGuest)) : Option (Vmcs × VmxGuest) :=
  result.map fun (vmcs, s) => (vmcs.advance, s)

/-- Where the hardware has VMCS shadowing, the VMCS link pointer names the shadow VMCS. -/
def setLinkPointer (ptr : U64) : Vmcs :=
  if env.vmcsShadowing then vmcs.vmwrite .guestVMCSLinkPointer ptr else vmcs

/-! ## The instructions -/

/-- `VMCLEAR` of the VMCS12 in slot `i`. -/
def vmclearActive (vmcsPtr : U64) (i : Nat) : Option (Vmcs × VmxGuest) :=
  let nested := readShadow env s.nested i
  (guestmemCopyH2gp (vmxHostCtx vmcs) env.mem01 s.ram 0 (vmcsPtr + 8)
      (vmcsBytes (nested.active i).vmcs12Value)).map fun ram =>
    let nested := nested.modify i fun slot => { slot with vmcs12Ptr := CUR_VMCS_PTR_INVALID }
    if nested.curVmcs12 = BitVec.ofNat 32 i then
      ((setLinkPointer env vmcs CUR_VMCS_PTR_INVALID).vmSucceed,
        { s with ram, nested := { nested with curVmcs12 := INVALID_VMCS12_INDEX } })
    else (vmcs.vmSucceed, { s with ram, nested })

/-- `xmhf_nested_arch_x86vmx_handle_vmclear` -/
def handleVmclear : Option (Vmcs × VmxGuest) :=
  vmxChecked env vmcs s <| vmxRetire <| (vmxPointerOperand env vmcs s).bind fun vmcsPtr =>
    (vmxCheckPointer env vmcsPtr).bind fun valid =>
      if !valid then vmxFail vmcs s VM_INST_ERRNO_VMCLEAR_INVALID_PHY_ADDR
      else if vmcsPtr = s.nested.vmxonPointer then
        vmxFail vmcs s VM_INST_ERRNO_VMCLEAR_VMXON_PTR
      else
        match findActiveVmcs12 s.nested vmcsPtr with
        | some i => vmclearActive env vmcs s vmcsPtr i
        | none => some (vmcs.vmSucceed, s)

/-- The slot of a VMCS12 that becomes current: its own, or a new one whose value is loaded
from guest memory. -/
def vmptrldSlot (vmcsPtr : U64) : Option (Nat × Nested) :=
  match findActiveVmcs12 s.nested vmcsPtr with
  | some i => some (i, s.nested)
  | none =>
    (newActiveVmcs12 s.nested vmcsPtr).bind fun (i, nested) =>
      (guestmemCopyGp2h (vmxHostCtx vmcs) env.mem01 s.ram 0 (vmcsPtr + 8) vmcsSize).map
        fun bytes =>
          (i, nested.modify i fun slot => { slot with vmcs12Value := vmcsOfBytes bytes })

/-- `xmhf_nested_arch_x86vmx_handle_vmptrld` -/
def handleVmptrld : Option (Vmcs × VmxGuest) :=
  vmxChecked env vmcs s <| vmxRetire <| (vmxPointerOperand env vmcs s).bind fun vmcsPtr =>
    (vmxCheckPointer env vmcsPtr).bind fun valid =>
      if !valid then vmxFail vmcs s VM_INST_ERRNO_VMPTRLD_INVALID_PHY_ADDR
      else if vmcsPtr = s.nested.vmxonPointer then
        vmxFail vmcs s VM_INST_ERRNO_VMPTRLD_VMXON_PTR
      else
        (vmxCheckRevision env vmcs s vmcsPtr).bind fun matching =>
          if !matching then vmxFail vmcs s VM_INST_ERRNO_VMPTRLD_WITH_INCORRECT_VMCS_REV_ID
          else
            (vmptrldSlot env vmcs s vmcsPtr).map fun (i, nested) =>
              ((setLinkPointer env vmcs (env.shadowPtr i)).vmSucceed,
                { s with nested := { nested with curVmcs12 := BitVec.ofNat 32 i } })

/-- The pointer that `VMPTRST` stores. -/
def vmptrstPointer : Option U64 :=
  if s.nested.hasCurrent then
    s.nested.findCurrent.map fun i => (s.nested.active i).vmcs12Ptr
  else some CUR_VMCS_PTR_INVALID

/-- `xmhf_nested_arch_x86vmx_handle_vmptrst` -/
def handleVmptrst : Option (Vmcs × VmxGuest) :=
  vmxChecked env vmcs s <| vmxRetire <| (vmxDecodeM64 vmcs s.regs hptProtWriteMask).bind fun addr =>
      (vmptrstPointer s).bind fun vmcsPtr =>
        (guestmemCopyH2gv (vmcs .guestCR4) vmcs env.mem01 s.ram 0 addr (leBytes 8 vmcsPtr)).map
          fun ram => (vmcs.vmSucceed, { s with ram })

/-- Sets or clears "VMCS shadowing" in VMCS01, where the hardware has it. -/
def setVmcsShadowing (value : Bool) : Vmcs :=
  if env.vmcsShadowing then
    let bit : U32 := 1 <<< VmxCtl.vmcsShadowing.bit
    vmcs.vmwrite .controlVMXSeccpuBased (if value then vmcs .controlVMXSeccpuBased ||| bit
        else vmcs .controlVMXSeccpuBased &&& ~~~bit)
  else vmcs

/-- `xmhf_nested_arch_x86vmx_handle_vmxoff` -/
def handleVmxoff : Option (Vmcs × VmxGuest) :=
  vmxChecked env vmcs s <| vmxRetire <|
    some ((setVmcsShadowing env (setLinkPointer env vmcs CUR_VMCS_PTR_INVALID) false).vmSucceed,
      { s with nested := { s.nested with
        mode := .disabled
        vmxonPointer := 0
        curVmcs12 := INVALID_VMCS12_INDEX } })

def CR4_VMXE : Nat := 13

/-- The bits of a control register that VMX operation fixes have the values it needs. -/
def fixedBitsOk (value fixed0 fixed1 : U64) : Bool :=
  ~~~value &&& fixed0 == 0 && value &&& ~~~fixed1 == 0

/-- The conditions for #GP of `VMXON` outside VMX operation. -/
def vmxonAllowed : Bool :=
  vmcs.guestCpl == 0 &&
    fixedBitsOk vmcs.guestCr0 (env.vmxMsrs .cr0Fixed0) (env.vmxMsrs .cr0Fixed1) &&
    fixedBitsOk vmcs.guestCr4 (env.vmxMsrs .cr4Fixed0) (env.vmxMsrs .cr4Fixed1)

def vmxonEnter (vmxonPtr : U64) : Vmcs × VmxGuest :=
  let vmcs := setVmcsShadowing env (setLinkPointer env vmcs CUR_VMCS_PTR_INVALID) true
  let vmcs := if env.vmcsShadowing then
      (vmcs.vmwrite .controlVMREADBitmapAddress env.blankPage).vmwrite
        .controlVMWRITEBitmapAddress env.blankPage
    else vmcs
  (vmcs.vmSucceed, { s with nested := activeVmcs12ArrayInit { s.nested with
    mode := .root
    vmxonPointer := vmxonPtr
    curVmcs12 := INVALID_VMCS12_INDEX } })

/-- `VMXON` outside VMX operation, once the control registers are checked. -/
def vmxonDisabled : Option (Vmcs × VmxGuest) :=
  (vmxPointerOperand env vmcs s).bind fun vmxonPtr =>
    (vmxCheckPointer env vmxonPtr).bind fun valid =>
      if !valid then some (vmcs.vmFailInvalid, s)
      else
        (vmxCheckRevision env vmcs s vmxonPtr).map fun matching =>
          if !matching then (vmcs.vmFailInvalid, s) else vmxonEnter env vmcs s vmxonPtr

/-- `xmhf_nested_arch_x86vmx_handle_vmxon` -/
def handleVmxon : Option (Vmcs × VmxGuest) :=
  (nestedCheckMode env.toNestedEnv vmcs).bind fun ud =>
    if ud || !vmcs.guestCr4.getLsbD CR4_VMXE then
      some (vmcs.injectException CPU_EXCEPTION_UD false 0, s)
    else
      match s.nested.mode with
      | .disabled =>
        if vmxonAllowed env vmcs then vmxRetire (vmxonDisabled env vmcs s)
        else some (vmcs.injectException CPU_EXCEPTION_GP true 0, s)
      | .nonroot => none
      | .root =>
        if 0 < vmcs.guestCpl then some (vmcs.injectException CPU_EXCEPTION_GP true 0, s)
        else vmxRetire (vmxFail vmcs s VM_INST_ERRNO_VMXON_IN_VMXROOT)

end

end Xmhf
