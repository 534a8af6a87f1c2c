import Xmhf.Nested.State

/-!
# `VMREAD` and `VMWRITE` of L1

`xmhf_nested_arch_x86vmx_handle_vmread` and `_vmwrite`. What an instruction will do is
planned first, from the VMCS of L1 and the registers: the exception it raises, the error it
fails with, or the transfer it makes between a field of the current VMCS12 and its operand.
-/

namespace Xmhf

/-! ## Fields by encoding -/

namespace VmcsField

/-- The fields of `DECLARE_FIELD_64`, which can be accessed in halves: their encodings have
width 1. Natural-width fields have width 3. -/
def is64 (f : VmcsField) : Bool := f.decl.encoding / 0x2000 == 1

end VmcsField

/-- What an encoding stands for: a field, or the high half of a 64-bit field. -/
structure VmcsComp where
  field : VmcsField
  high : Bool
  deriving DecidableEq

/-- The cases of the `switch` over encodings. -/
def vmcsComp (encoding : U64) : Option VmcsComp :=
  match VmcsField.all.find? fun f => f.decl.encoding = encoding.toNat with
  | some f => some ⟨f, false⟩
  | none =>
    (VmcsField.all.find? fun f => f.is64 ∧ f.decl.encoding + 1 = encoding.toNat).map fun f =>
      ⟨f, true⟩

/-- `xmhf_nested_arch_x86vmx_vmcs_readable` -/
def vmcsReadable (encoding : U64) : Bool := (vmcsComp encoding).isSome

/-- `xmhf_nested_arch_x86vmx_vmcs_writable` -/
def vmcsWritable (encoding : U64) : Bool :=
  (vmcsComp encoding).any fun comp => comp.field.decl.writable

/-- `xmhf_nested_arch_x86vmx_vmcs_read` -/
def vmcsRead (vmcs12 : Vmcs) (encoding : U64) (size : Nat) : Option U64 :=
  (vmcsComp encoding).bind fun ⟨f, high⟩ =>
    let value : U64 := (vmcs12 f).setWidth 64
    if high then (if size = 4 then some (value >>> 32) else none)
    else if f.is64 ∧ size ≠ 8 then
      (if size = 4 then some ((value.setWidth 32).setWidth 64) else none)
    else some value

/-- `xmhf_nested_arch_x86vmx_vmcs_write` -/
def vmcsWrite (vmcs12 : Vmcs) (encoding value : U64) (size : Nat) : Option Vmcs :=
  (vmcsComp encoding).bind fun ⟨f, high⟩ =>
    let old : U64 := (vmcs12 f).setWidth 64
    if !f.decl.writable then none
    else if high then
      if size = 4 then
        some (vmcs12.vmwrite f ((value <<< 32 ||| old &&& 0xffffffff).setWidth f.bits))
      else none
    else if f.is64 ∧ size ≠ 8 then
      if size = 4 then
        some (vmcs12.vmwrite f
          ((old &&& 0xffffffff00000000 ||| value &&& 0xffffffff).setWidth f.bits))
      else none
    else some (vmcs12.vmwrite f (value.setWidth f.bits))

/-! ## Operands -/

/-- `union _vmx_decode_vm_inst_info` -/
structure VmInstInfo where
  scaling : Nat
  reg1 : BitVec 4
  addressSize : Nat
  memReg : Bool
  segmentRegister : Nat
  indexReg : Option (BitVec 4)
  baseReg : Option (BitVec 4)
  reg2 : BitVec 4

def vmInstInfo (raw : U32) : VmInstInfo where
  scaling := (raw &&& 3).toNat
  reg1 := (raw >>> 3).setWidth 4
  addressSize := ((raw >>> 7) &&& 7).toNat
  memReg := raw.getLsbD 10
  segmentRegister := ((raw >>> 15) &&& 7).toNat
  indexReg := if raw.getLsbD 22 then none else some ((raw >>> 18).setWidth 4)
  baseReg := if raw.getLsbD 27 then none else some ((raw >>> 23).setWidth 4)
  reg2 := (raw >>> 28).setWidth 4

/-- `_vmx_decode_mem_operand`: the linear address of the operand. -/
def vmxDecodeMemOperand (vmcs : Vmcs) (r : Regs) (size : Nat) (mode : Prot) (cpl : Nat) :
    Option U64 :=
  let info := vmInstInfo (vmcs .infoVmxInstructionInformation)
  let base := info.baseReg.elim 0#64 fun reg => vmcs.readReg r (vmxDecodeReg reg)
  let index := info.indexReg.elim 0#64 fun reg =>
    vmcs.readReg r (vmxDecodeReg reg) <<< info.scaling
  let addr : U64 := vmcs .infoExitQualification + base + index
  let desegment (addr : U64) := guestmemDesegment vmcs info.segmentRegister addr size mode cpl
  match info.addressSize with
  | 0 => desegment (addr &&& 0xffff)
  | 1 => desegment (addr &&& 0xffffffff)
  | 2 => desegment addr
  | _ => none

def vmxDecodeM64 (vmcs : Vmcs) (r : Regs) (mode : Prot) : Option U64 :=
  if (vmInstInfo (vmcs .infoVmxInstructionInformation)).memReg then none
  else vmxDecodeMemOperand vmcs r 8 mode 0

inductive VmrwOperand where
  | reg (sel : RegSel)
  | mem (gva : U64)
  deriving DecidableEq

/-- The low bytes of a word, as `memcpy` of 4 or 8 bytes leaves them in a zero word. -/
def lowBytes (size : Nat) (value : U64) : U64 := if size = 8 then value else value &&& 0xffffffff

/-- `_vmx_decode_vmread_vmwrite`: size, encoding and operand. Both instructions pass
`is_vmwrite`, since both have the encoding in `reg2`. -/
def vmxDecodeVmreadVmwrite (vmcs : Vmcs) (r : Regs) (mode : Prot) :
    Option (Nat × U64 × VmrwOperand) :=
  let info := vmInstInfo (vmcs .infoVmxInstructionInformation)
  let size := if vmcs.g64 then 8 else 4
  if vmcs.g64 = vmcs.glm then
    let encoding := lowBytes size (vmcs.readReg r (vmxDecodeReg info.reg2))
    if info.memReg then some (size, encoding, .reg (vmxDecodeReg info.reg1))
    else (vmxDecodeMemOperand vmcs r size mode 0).map fun gva => (size, encoding, .mem gva)
  else none

/-! ## The instructions -/

def VM_INST_ERRNO_VMRDWR_UNSUPP_VMCS_COMP : U32 := 12

def VM_INST_ERRNO_VMWRITE_RO_VMCS_COMP : U32 := 13

inductive VmrwPlan where
  | exception (vector : U32) (hasEc : Bool)
  | failInvalid
  | failValid (errorNumber : U32)
  | transfer (size : Nat) (encoding : U64) (operand : VmrwOperand)
  deriving DecidableEq

/-- The checks up to the transfer; `refuse` is the error for an encoding, if it has one. -/
def vmrwPlan (env : NestedEnv) (vmcs : Vmcs) (s : VmxGuest) (mode : Prot)
    (refuse : U64 → Option U32) : Option VmrwPlan :=
  (nestedCheckUd env vmcs s.nested).bind fun ud =>
    if ud then some (.exception CPU_EXCEPTION_UD false)
    -- "Nested vmexit should be handled elsewhere"
    else if s.nested.mode ≠ .root then none
    else if 0 < vmcs.guestCpl then some (.exception CPU_EXCEPTION_GP true)
    else if !s.nested.hasCurrent then some .failInvalid
    else
      (vmxDecodeVmreadVmwrite vmcs s.regs mode).bind fun (size, encoding, operand) =>
        -- "If using shadow VMCS, there should be no VMREAD exits"
        if env.vmcsShadowing then none
        else
          match refuse encoding with
          | some errorNumber => some (.failValid errorNumber)
          | none => some (.transfer size encoding operand)

def vmreadRefuse (encoding : U64) : Option U32 :=
  if vmcsReadable encoding then none else some VM_INST_ERRNO_VMRDWR_UNSUPP_VMCS_COMP

def vmwriteRefuse (encoding : U64) : Option U32 :=
  if vmcsWritable encoding then none
  else if vmcsReadable encoding then some VM_INST_ERRNO_VMWRITE_RO_VMCS_COMP
  else some VM_INST_ERRNO_VMRDWR_UNSUPP_VMCS_COMP

/-- Stores the value that `VMREAD` has read. `cr4` is the CR4 by which the guest's page
tables are found. -/
def storeOperand (env : NestedEnv) (cr4 : U64) (vmcs : Vmcs) (s : VmxGuest) (size : Nat)
    (value : U64) : VmrwOperand → Option (Vmcs × VmxGuest)
  | .reg (.gpr g) =>
    let regs := if size = 8 then Function.update s.regs g value
      else s.regs.setLow g (value.setWidth 32)
    some (vmcs, { s with regs })
  | .reg .rsp =>
    let rsp := if size = 8 then value
      else vmcs .guestRSP &&& 0xffffffff00000000 ||| value &&& 0xffffffff
    some (vmcs.vmwrite .guestRSP rsp, s)
  | .mem gva =>
    (guestmemCopyH2gv cr4 vmcs env.mem01 s.ram 0 gva (leBytes size value)).map fun ram =>
      (vmcs, { s with ram })

/-- Loads the value that `VMWRITE` will write. -/
def loadOperand (env : NestedEnv) (cr4 : U64) (vmcs : Vmcs) (s : VmxGuest) (size : Nat) :
    VmrwOperand → Option U64
  | .reg sel => some (lowBytes size (vmcs.readReg s.regs sel))
  | .mem gva => (guestmemCopyGv2h cr4 vmcs env.mem01 s.ram 0 gva size).map leWord

/-- The transfer of `VMREAD`. -/
def vmreadTransfer (env : NestedEnv) (cr4 : U64) (vmcs : Vmcs) (s : VmxGuest) (size : Nat)
    (encoding : U64) (operand : VmrwOperand) : Option (Vmcs × VmxGuest) :=
  s.nested.findCurrent.bind fun i =>
    (vmcsRead (s.nested.active i).vmcs12Value encoding size).bind fun value =>
      storeOperand env cr4 vmcs s size value operand

/-- The transfer of `VMWRITE`. -/
def vmwriteTransfer (env : NestedEnv) (cr4 : U64) (vmcs : Vmcs) (s : VmxGuest) (size : Nat)
    (encoding : U64) (operand : VmrwOperand) : Option (Vmcs × VmxGuest) :=
  s.nested.findCurrent.bind fun i =>
    (loadOperand env cr4 vmcs s size operand).bind fun value =>
      (vmcsWrite (s.nested.active i).vmcs12Value encoding value size).map fun vmcs12 =>
        (vmcs, { s with nested := s.nested.modify i fun slot =>
          { slot with vmcs12Value := vmcs12 } })

abbrev VmrwTransfer := NestedEnv → U64 → Vmcs → VmxGuest → Nat → U64 → VmrwOperand →
  Option (Vmcs × VmxGuest)

def vmrwRun (transfer : VmrwTransfer) (env : NestedEnv) (vmcs : Vmcs) (s : VmxGuest) :
    VmrwPlan → Option (Vmcs × VmxGuest)
  | .exception vector hasEc => some (vmcs.injectException vector hasEc 0, s)
  | .failInvalid => some (vmcs.vmFailInvalid.advance, s)
  | .failValid errorNumber =>
    (s.nested.setVminstrError errorNumber).map fun nested =>
      (vmcs.vmFailValid.advance, { s with nested })
  | .transfer size encoding operand =>
    (transfer env (vmcs .guestCR4) vmcs s size encoding operand).map fun (vmcs, s) =>
      (vmcs.vmSucceed.advance, s)

/-- `xmhf_nested_arch_x86vmx_handle_vmread` -/
def handleVmread (env : NestedEnv) (vmcs : Vmcs) (s : VmxGuest) :
    Option (Vmcs × VmxGuest) :=
  (vmrwPlan env vmcs s hptProtWriteMask vmreadRefuse).bind (vmrwRun vmreadTransfer env vmcs s)

/-- `xmhf_nested_arch_x86vmx_handle_vmwrite` -/
def handleVmwrite (env : NestedEnv) (vmcs : Vmcs) (s : VmxGuest) :
    Option (Vmcs × VmxGuest) :=
  (vmrwPlan env vmcs s hptProtReadMask vmwriteRefuse).bind (vmrwRun vmwriteTransfer env vmcs s)

end Xmhf
