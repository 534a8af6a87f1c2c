import Xmhf.Vmx.Vmcs

/-!
# The guest state of a VCPU

What an intercept handler reads and writes: `vcpu->vmcs`, XMHF's copy of the VMCS, and
`struct regs`, the general-purpose registers without RSP.
-/

namespace Xmhf

def EFER_LME : Nat := 8

def EFER_LMA : Nat := 10

def CR0_PG : U64 := 0x80000000

def CR4_PAE : U64 := 0x20

def CR0_PE : U64 := 1

def CR4_LA57 : U64 := 0x1000

inductive Gpr where
  | rax
  | rcx
  | rdx
  | rbx
  | rbp
  | rsi
  | rdi
  | r8
  | r9
  | r10
  | r11
  | r12
  | r13
  | r14
  | r15
  deriving DecidableEq, Repr

abbrev Regs := Gpr → U64

/-- The low half of a register, as `r->eax`. -/
def Regs.low (r : Regs) (g : Gpr) : U32 := (r g).setWidth 32

def Regs.setLow (r : Regs) (g : Gpr) (value : U32) : Regs :=
  Function.update r g (r g &&& 0xffffffff00000000 ||| value.setWidth 64)

theorem Regs.low_setLow (r : Regs) (g : Gpr) (value : U32) : (r.setLow g value).low g = value := by
  unfold low setLow
  rw [Function.update_self]
  simp [BitVec.setWidth_or, BitVec.setWidth_and]

/-- A register that an instruction names: RSP stands in the VMCS. -/
inductive RegSel where
  | gpr (g : Gpr)
  | rsp
  deriving DecidableEq, Repr

def vmxDecodeReg (gpr : BitVec 4) : RegSel :=
  match gpr.toNat with
  | 0 => .gpr .rax
  | 1 => .gpr .rcx
  | 2 => .gpr .rdx
  | 3 => .gpr .rbx
  | 4 => .rsp
  | 5 => .gpr .rbp
  | 6 => .gpr .rsi
  | 7 => .gpr .rdi
  | 8 => .gpr .r8
  | 9 => .gpr .r9
  | 10 => .gpr .r10
  | 11 => .gpr .r11
  | 12 => .gpr .r12
  | 13 => .gpr .r13
  | 14 => .gpr .r14
  | _ => .gpr .r15

namespace Vmcs

def readReg (vmcs : Vmcs) (r : Regs) : RegSel → U64
  | .gpr g => r g
  | .rsp => vmcs .guestRSP

/-- `VCPU_g64`: the guest runs 64-bit code. -/
def g64 (vmcs : Vmcs) : Bool := (vmcs .guestCSAccessRights).getLsbD 13

/-- `VCPU_glm`: the guest is in long mode. -/
def glm (vmcs : Vmcs) : Bool :=
  (vmcs .controlVMEntryControls).getLsbD VmxCtl.vmentryIa32eModeGuest.bit

/-- `get_guest_cr4`: the CR4 that the guest sees. -/
def guestCr4 (vmcs : Vmcs) : U64 :=
  vmcs .controlCR4Shadow &&& vmcs .controlCR4Mask ||| vmcs .guestCR4 &&& ~~~vmcs .controlCR4Mask

/-- `_vmx_guest_get_guest_cr0` -/
def guestCr0 (vmcs : Vmcs) : U64 :=
  vmcs .guestCR0 &&& ~~~vmcs .controlCR0Mask ||| vmcs .controlCR0Shadow &&& vmcs .controlCR0Mask

def advance (vmcs : Vmcs) : Vmcs :=
  vmcs.vmwrite .guestRIP (vmcs .guestRIP + (vmcs .infoVmexitInstructionLength).setWidth 64)

/-- `_vmx_inject_exception` -/
def injectException (vmcs : Vmcs) (vector : U32) (hasEc : Bool) (errcode : U32) : Vmcs :=
  (vmcs.vmwrite .controlVMEntryInterruptionInformation
    (vector ||| 0x300 ||| (if hasEc then 0x800 else 0) ||| 0x80000000)).vmwrite
      .controlVMEntryExceptionErrorcode errcode

end Vmcs

def CPU_EXCEPTION_UD : U32 := 6

def CPU_EXCEPTION_GP : U32 := 13

end Xmhf
