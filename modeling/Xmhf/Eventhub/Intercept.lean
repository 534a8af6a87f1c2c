import Xmhf.Eventhub.Cpuid
import Xmhf.Lib.Writeback
import Xmhf.Nested.Vmrw
import Xmhf.Smpguest.Lapic

/-!
# VM exits of the guest

`xmhf_parteventhub_arch_x86vmx_intercept_handler` reads the VMCS into `vcpu->vmcs`, runs the
handler for the exit reason on that copy and writes the VMCS back. For some frequent exits
`_optimize_x86vmx_intercept_handler` runs the same handlers but reads and writes only a few
fields, so the handler finds in the others what earlier exits have left there.

`none` is a halted CPU. What the exits do that are never optimized is a parameter.
-/

namespace Xmhf

variable {η ψ : Type}

structure GuestCpu (η ψ : Type) where
  vmx : VmxGuest
  msr : MsrCpu η
  lapic : LapicState
  /-- The hypapp's state. -/
  app : ψ

structure InterceptEnv (η ψ : Type) where
  msr : MsrEnv η
  cpuid : CpuidEnv ψ
  /-- `vcpu->isbsp` and `vcpu->vmx_caps` -/
  isbsp : Bool
  vmxCaps : VmxCtls
  /-- The tables of EPT01, given its leaves. -/
  mem01 : Ept01 → Mem
  /-- `xmhf_app_handleintercept_hwpgtblviolation` with GPA, GVA and access type; XMHF halts
  if it fails. -/
  appViolation : Vmcs → GuestCpu η ψ → U64 → U64 → U64 → Option (Vmcs × GuestCpu η ψ)
  /-- The exits that the optimized handler leaves alone. -/
  otherExit : Vmcs → GuestCpu η ψ → Option (Vmcs × GuestCpu η ψ)

def VMX_VMEXIT_EXCEPTION : U32 := 0

def VMX_VMEXIT_CPUID : U32 := 10

def VMX_VMEXIT_VMREAD : U32 := 23

def VMX_VMEXIT_VMWRITE : U32 := 25

def VMX_VMEXIT_WRMSR : U32 := 32

def VMX_VMEXIT_EPT_VIOLATION : U32 := 48

/-! ## Handlers -/

section

variable (env : InterceptEnv η ψ) (vmcs : Vmcs) (g : GuestCpu η ψ)

/-- `edx:eax` -/
def wrmsrValue (r : Regs) : U64 :=
  (r.low .rdx).setWidth 64 <<< 32 ||| (r.low .rax).setWidth 64

/-- `_vmx_handle_intercept_wrmsr` -/
def interceptWrmsr : Option (Vmcs × GuestCpu η ψ) :=
  let r := g.vmx.regs
  (interceptMsr env.msr vmcs g.msr (.write (r.low .rcx) (wrmsrValue r))).map fun outcome =>
    match outcome with
    | .gp => (vmcs.injectException CPU_EXCEPTION_GP true 0, g)
    | .stored vmcs msr => (vmcs.advance, { g with msr })
    -- only `RDMSR` gives a value
    | .value _ => (vmcs, g)

/-- `_vmx_handle_intercept_cpuid` -/
def interceptCpuid : Option (Vmcs × GuestCpu η ψ) :=
  (handleCpuid env.cpuid env.msr.nested vmcs.guestCr4 g.vmx.regs g.app).map fun (regs, app) =>
    (vmcs.advance, { g with vmx := { g.vmx with regs }, app })

def inLapicPage (pf : Platform) (gpa : U64) : Bool :=
  pf.lapicBase.toNat ≤ gpa.toNat ∧ gpa.toNat < pf.lapicBase.toNat + 4096

/-- `_vmx_handle_intercept_eptviolation` -/
def interceptEptviolation : Option (Vmcs × GuestCpu η ψ) :=
  let gpa : U64 := vmcs .guestPaddr
  let errorcode : U64 := vmcs .infoExitQualification
  if env.isbsp ∧ !g.msr.ept01.allCoresBootedUp ∧ inLapicPage env.msr.pf gpa then
    let (vmcs, msr, lapic) := hwpgtblviolation env.msr.pf vmcs g.msr g.lapic gpa errorcode
    some (vmcs, { g with msr, lapic })
  else env.appViolation vmcs g gpa (vmcs .infoGuestLinearAddress) (errorcode &&& 7)

/-- A debug exception as the LAPIC interception handles it. It must be a hardware exception. -/
def interceptDebug : Option (Vmcs × GuestCpu η ψ) :=
  if vmcs .infoVmexitInterruptInformation &&& 0x700 = 0x300 then
    (dbexception env.msr.pf env.msr.vcpuId g.vmx.ram vmcs g.msr g.lapic).map
      fun (vmcs, msr, lapic) => (vmcs, { g with msr, lapic })
  else none

/-- `_vmx_get_guest_efer` -/
def guestEfer (cpu : MsrCpu η) : Option U64 :=
  (getXmhfMsr MSR_EFER).bind fun i =>
    if (cpu.msrAreaGuest i).index = MSR_EFER then some (cpu.msrAreaGuest i).data else none

def InterceptEnv.nestedEnv : NestedEnv where
  mem01 := env.mem01 g.msr.ept01
  efer := guestEfer g.msr
  vmcsShadowing := env.vmxCaps.has .vmcsShadowing

def interceptVmread : Option (Vmcs × GuestCpu η ψ) :=
  (handleVmread (env.nestedEnv g) vmcs g.vmx).map fun (vmcs, vmx) => (vmcs, { g with vmx })

def interceptVmwrite : Option (Vmcs × GuestCpu η ψ) :=
  (handleVmwrite (env.nestedEnv g) vmcs g.vmx).map fun (vmcs, vmx) => (vmcs, { g with vmx })

def isDebugException : Bool := vmcs .infoVmexitInterruptInformation &&& 0xff == 1

/-- The `switch` of the general handler. -/
def handleExit : Option (Vmcs × GuestCpu η ψ) :=
  let reason : U32 := vmcs .infoVmexitReason
  if reason = VMX_VMEXIT_WRMSR then interceptWrmsr env vmcs g
  else if reason = VMX_VMEXIT_CPUID then interceptCpuid env vmcs g
  else if reason = VMX_VMEXIT_EPT_VIOLATION then interceptEptviolation env vmcs g
  else if reason = VMX_VMEXIT_EXCEPTION ∧ isDebugException vmcs then
    if g.msr.ept01.allCoresBootedUp then
      if vmcs .infoVmexitInterruptInformation &&& 0x700 = 0x300 then some (vmcs, g) else none
    else interceptDebug env vmcs g
  else if env.msr.nested ∧ reason = VMX_VMEXIT_VMREAD then interceptVmread env vmcs g
  else if env.msr.nested ∧ reason = VMX_VMEXIT_VMWRITE then interceptVmwrite env vmcs g
  else env.otherExit vmcs g

end

/-! ## The general path -/

/-- `xmhf_baseplatform_arch_x86vmx_getVMCS` reads the fields that exist into the copy. -/
def getVMCS (vmxCaps : VmxCtls) (hw copy : Vmcs) : Vmcs :=
  Writeback.refresh (fun f => f.decl.exist vmxCaps) hw copy

/-- `xmhf_baseplatform_arch_x86vmx_putVMCS` writes those back that are writable. -/
def putVMCS (vmxCaps : VmxCtls) (hw copy : Vmcs) : Vmcs :=
  Writeback.putBack (fun f => f.decl.exist vmxCaps && f.decl.writable) hw copy

/-- An event was being delivered when the exit happened. -/
def Vmcs.idtVectoring (vmcs : Vmcs) : Bool := (vmcs .infoIDTVectoringInformation).getLsbD 31

/-- `xmhf_parteventhub_arch_x86vmx_intercept_handler` without the optimization. `hw` is the
VMCS and `copy` what `vcpu->vmcs` holds before the exit. -/
def interceptGeneral (env : InterceptEnv η ψ) (hw copy : Vmcs) (g : GuestCpu η ψ) :
    Option (Vmcs × GuestCpu η ψ) :=
  let vmcs := getVMCS env.vmxCaps hw copy
  -- "sanity check for VM-entry errors"
  if (vmcs .infoVmexitReason).getLsbD 31 then none
  else
    (handleExit env vmcs g).bind fun (vmcs, g) =>
      -- "make sure we have no nested events"
      if vmcs.idtVectoring then none else some (putVMCS env.vmxCaps hw vmcs, g)

end Xmhf
