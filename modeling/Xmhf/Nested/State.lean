import Xmhf.Memprot.GuestVirtual

/-!
# The nested-VMX state

What XMHF keeps for an L1 that uses VMX (`nested-x86vmx-handler1.c`): the mode of
operation, the VMXON pointer, the VMCS12s that are active and the current one. The checks
and the ways to end are the same for all VMX instructions and are defined here. `none` is
a halt of the hypervisor.

The VMCS02s and, on hardware with VMCS shadowing, the shadow VMCSs that belong to the
slots are not part of the state.
-/

namespace Xmhf

/-- `NESTED_VMX_MODE_*` -/
inductive NestedMode where
  | disabled
  | root
  | nonroot
  deriving DecidableEq, Repr

/-- The part of `vmcs12_info_t` by which a VMCS12 is tracked. -/
structure Vmcs12Slot where
  vmcs12Ptr : U64
  vmcs12Value : Vmcs
  launched : Bool

def CUR_VMCS_PTR_INVALID : U64 := 0xffffffffffffffff

def INVALID_VMCS12_INDEX : U32 := 0xffffffff

def VMX_NESTED_MAX_ACTIVE_VMCS : Nat := 8

structure Nested where
  /-- `vmx_nested_operation_mode`, `vmx_nested_vmxon_pointer` and `vmx_nested_cur_vmcs12` -/
  mode : NestedMode
  vmxonPointer : U64
  curVmcs12 : U32
  /-- `cpu_active_vmcs12[vcpu->idx]` -/
  active : Nat → Vmcs12Slot

/-- What a VMX instruction can change, apart from `vcpu->vmcs`. -/
structure VmxGuest where
  regs : Regs
  ram : Pa → U8
  nested : Nested

structure NestedEnv where
  /-- The tables of EPT01. -/
  mem01 : Mem
  /-- `_vmx_get_guest_efer`, which halts if EFER is missing in the MSR area. -/
  efer : Option U64
  /-- The hardware has VMCS shadowing. -/
  vmcsShadowing : Bool

namespace Nested

/-- `cpu_has_current_vmcs12` -/
def hasCurrent (n : Nested) : Bool := n.curVmcs12 != INVALID_VMCS12_INDEX

/-- `xmhf_nested_arch_x86vmx_find_current_vmcs12`, as an index. -/
def findCurrent (n : Nested) : Option Nat :=
  if n.hasCurrent ∧ n.curVmcs12.toNat < VMX_NESTED_MAX_ACTIVE_VMCS then some n.curVmcs12.toNat
  else none

def modify (n : Nested) (i : Nat) (f : Vmcs12Slot → Vmcs12Slot) : Nested :=
  { n with active := Function.update n.active i (f (n.active i)) }

end Nested

namespace Vmcs

def EFLAGS_CF : U64 := 0x1

def EFLAGS_ZF : U64 := 0x40

def EFLAGS_VM : Nat := 17

/-- `VMX_INST_RFLAGS_MASK`: CF, PF, AF, ZF, SF and OF. -/
def VMX_INST_RFLAGS_MASK : U64 := 0x8d5

/-- `_vmx_nested_vm_succeed` -/
def vmSucceed (vmcs : Vmcs) : Vmcs :=
  vmcs.vmwrite .guestRFLAGS (vmcs .guestRFLAGS &&& ~~~VMX_INST_RFLAGS_MASK)

/-- `_vmx_nested_vm_fail_invalid` -/
def vmFailInvalid (vmcs : Vmcs) : Vmcs :=
  vmcs.vmwrite .guestRFLAGS (vmcs .guestRFLAGS &&& ~~~VMX_INST_RFLAGS_MASK ||| EFLAGS_CF)

/-- The flags after `_vmx_nested_vm_fail_valid`. -/
def vmFailValid (vmcs : Vmcs) : Vmcs :=
  vmcs.vmwrite .guestRFLAGS (vmcs .guestRFLAGS &&& ~~~VMX_INST_RFLAGS_MASK ||| EFLAGS_ZF)

/-- `_vmx_guest_get_cpl` -/
def guestCpl (vmcs : Vmcs) : Nat := (vmcs .guestCSSelector &&& 3).toNat

end Vmcs

/-- The error number that `_vmx_nested_vm_fail_valid` stores in the current VMCS12. -/
def Nested.setVminstrError (n : Nested) (errorNumber : U32) : Option Nested :=
  n.findCurrent.map fun i => n.modify i fun slot =>
    { slot with vmcs12Value := slot.vmcs12Value.vmwrite .infoVminstrError errorNumber }

/-- The conditions for #UD that all VMX instructions share. -/
def nestedCheckMode (env : NestedEnv) (vmcs : Vmcs) : Option Bool :=
  if vmcs.guestCr0 &&& CR0_PE = 0 ∨ (vmcs .guestRFLAGS).getLsbD Vmcs.EFLAGS_VM then some true
  else env.efer.map fun efer => efer.getLsbD EFER_LMA && !vmcs.g64

/-- `_vmx_nested_check_ud` for an instruction other than `VMXON`. -/
def nestedCheckUd (env : NestedEnv) (vmcs : Vmcs) (n : Nested) : Option Bool :=
  (nestedCheckMode env vmcs).map fun ud => ud || n.mode == .disabled

end Xmhf
