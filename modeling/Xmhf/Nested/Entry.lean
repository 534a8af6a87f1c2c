import Xmhf.Nested.Instructions
import Xmhf.Nested.Vmcs12

/-!
# Nested VM entries and exits

`VMLAUNCH` and `VMRESUME` of L1 (`nested-x86vmx-handler1.c`), the VM entry that they lead to
and the return to L1 at an exit of L2 (`nested-x86vmx-handler2.c`). An entry that succeeds
does not return to L1. The argument of the NMI handler, which changes together with the mode
of operation, is not part of the state.
-/

namespace Xmhf

/-- What a nested entry asks for besides the VMCS of L1 and the state of L1's instructions. -/
structure VmentryEnv (ω : Type) where
  /-- What the translation reads; the VMCSs, the memory and the capabilities in it are
  replaced by those at hand. -/
  arg : VmentryArg ω
  /-- What the translation writes, before it. -/
  start : Vmentry ω
  /-- `xmhf_app_handle_nest_entry` returns `APP_SUCCESS`. -/
  nestEntry : Bool
  /-- The processor enters L2 with this VMCS02. -/
  enters : Vmcs → Bool

variable {ω : Type}

/-- What the translation of the VMCS12 in slot `i` reads. -/
def VmentryEnv.argAt (entry : VmentryEnv ω) (env : VmxInstEnv) (vmcs : Vmcs) (s : VmxGuest)
    (i : Nat) : VmentryArg ω :=
  { entry.arg with
    vmcs12 := (s.nested.active i).vmcs12Value
    vmcs01 := vmcs
    vmxMsrs := env.vmxMsrs
    vmxCaps := env.vmxCaps
    mem := env.mem01
    ram := s.ram }

def enterL2 (s : VmxGuest) (i : Nat) : VmxGuest :=
  { s with nested := { s.nested.modify i fun slot => { slot with launched := true } with
    mode := .nonroot } }

/-- `xmhf_nested_arch_x86vmx_handle_vmentry` for the VMCS12 in slot `i`. A VM entry that the
processor refuses ends in `xmhf_nested_arch_x86vmx_handle_vmentry_fail`, which halts. -/
def handleVmentry (env : VmxInstEnv) (entry : VmentryEnv ω) (vmcs : Vmcs) (s : VmxGuest)
    (i : Nat) : Option (VmInst × VmxGuest) :=
  if entry.nestEntry then
    let s := { s with nested := readShadow env s.nested i }
    (vmcs12ToVmcs02 (entry.argAt env vmcs s i) entry.start).bind fun (status, result) =>
      if status = .success then
        if s.nested.mode = .root ∧ entry.enters result.vmcs02 then
          some (.success, enterL2 s i)
        else none
      else some (status, s)
  else none

def VM_INST_ERRNO_VMLAUNCH_NONCLEAR_VMCS : U32 := 4

def VM_INST_ERRNO_VMRESUME_NONLAUNCH_VMCS : U32 := 5

def VM_INST_ERRNO_VMENTRY_INVALID_CTRL : U32 := 7

def VM_INST_ERRNO_VMENTRY_EVENT_BLOCK_MOVSS : U32 := 26

/-- `VMLAUNCH` or `VMRESUME` with the current VMCS12 in slot `i`. -/
def vmlaunchVmresumeSlot (env : VmxInstEnv) (entry : VmentryEnv ω) (vmcs : Vmcs) (s : VmxGuest)
    (isVmresume : Bool) (i : Nat) : Option (Vmcs × VmxGuest) :=
  if !isVmresume && (s.nested.active i).launched then
    vmxRetire (vmxFailValid vmcs s VM_INST_ERRNO_VMLAUNCH_NONCLEAR_VMCS)
  else if isVmresume && !(s.nested.active i).launched then
    vmxRetire (vmxFailValid vmcs s VM_INST_ERRNO_VMRESUME_NONLAUNCH_VMCS)
  else
    (handleVmentry env entry vmcs s i).bind fun (status, s) =>
      match status with
      | .success => some (vmcs, s)
      | .errnoVmentryInvalidCtrl =>
        vmxRetire (vmxFailValid vmcs s VM_INST_ERRNO_VMENTRY_INVALID_CTRL)

/-- `xmhf_nested_arch_x86vmx_handle_vmlaunch_vmresume` -/
def handleVmlaunchVmresume (env : VmxInstEnv) (entry : VmentryEnv ω) (vmcs : Vmcs)
    (s : VmxGuest) (isVmresume : Bool) : Option (Vmcs × VmxGuest) :=
  vmxChecked env vmcs s <|
    if !s.nested.hasCurrent then vmxRetire (some (vmcs.vmFailInvalid, s))
    -- blocking by MOV SS
    else if (vmcs .guestInterruptibility).getLsbD 1 then
      vmxRetire (vmxFailValid vmcs s VM_INST_ERRNO_VMENTRY_EVENT_BLOCK_MOVSS)
    else s.nested.findCurrent.bind (vmlaunchVmresumeSlot env entry vmcs s isVmresume)

/-- How `xmhf_nested_arch_x86vmx_handle_vmexit` ends: L2 runs on, or the exit is forwarded to
L1 with what the translation of VMCS02 leaves in VMCS12. -/
inductive NestedVmexit where
  | handled
  | forwarded (vmcs12 : Vmcs)

/-- `xmhf_nested_arch_x86vmx_handle_vmexit` -/
def handleVmexit (n : Nested) : NestedVmexit → Option Nested
  | .handled => n.findCurrent.map fun _ => n
  | .forwarded vmcs12 =>
    n.findCurrent.bind fun i =>
      if n.mode = .nonroot then
        some { n.modify i fun slot => { slot with vmcs12Value := vmcs12 } with mode := .root }
      else none

end Xmhf
