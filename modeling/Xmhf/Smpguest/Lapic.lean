import Xmhf.Eventhub.Msr
import Xmhf.Memprot.GuestVirtual

/-!
# Interception of the LAPIC

Until all cores run, the page of the LAPIC is not mapped for the boot CPU. An access to it
is single-stepped (`smpg-x86vmx.c`): the EPT violation maps the LAPIC, or for the interrupt
command register a page of XMHF in its place, and lets one instruction run with everything
else blocked; the debug exception after it takes the IPI, if one was written, and undoes
the rest. `none` is a halted CPU.
-/

namespace Xmhf

variable {η : Type}

/-- What the violation handler saves for the debug exception, and what was written to the
physical LAPIC, as offset and value. -/
structure LapicState where
  /-- `g_vmx_lapic_guest_eflags_tfifmask`, `g_vmx_lapic_guest_intr_nmimask` and
  `g_vmx_lapic_exception_bitmap` -/
  guestEflagsTfifmask : U32
  guestIntrNmimask : U32
  exceptionBitmap : U32
  sent : List (Nat × U32)
  deriving DecidableEq

def EFLAGS_TF : U64 := 0x100

def EFLAGS_IF : U64 := 0x200

def VMX_GUEST_INTR_BLOCK_NMI : U32 := 0x8

/-- The fields that the violation handler sets: one step, no interrupts, no NMIs, and every
exception exits. -/
def Vmcs.singleStep (vmcs : Vmcs) : Vmcs :=
  ((vmcs.vmwrite .guestRFLAGS ((vmcs .guestRFLAGS ||| EFLAGS_TF) &&& ~~~EFLAGS_IF)).vmwrite
    .guestInterruptibility (vmcs .guestInterruptibility ||| VMX_GUEST_INTR_BLOCK_NMI)).vmwrite
      .controlExceptionBitmap 0xffffffff

/-- The fields as the debug exception handler restores them. -/
def Vmcs.endSingleStep (vmcs : Vmcs) (l : LapicState) : Vmcs :=
  ((vmcs.vmwrite .guestRFLAGS ((vmcs .guestRFLAGS &&& ~~~EFLAGS_IF &&& ~~~EFLAGS_TF) |||
    l.guestEflagsTfifmask.setWidth 64)).vmwrite .guestInterruptibility
      ((vmcs .guestInterruptibility &&& ~~~VMX_GUEST_INTR_BLOCK_NMI) ||| l.guestIntrNmimask)).vmwrite
        .controlExceptionBitmap l.exceptionBitmap

/-- `xmhf_smpguest_arch_x86vmx_eventhandler_hwpgtblviolation` -/
def hwpgtblviolation (pf : Platform) (vmcs : Vmcs) (cpu : MsrCpu η) (l : LapicState) (paddr : U64)
    (errorcode : U64) : Vmcs × MsrCpu η × LapicState :=
  let saved : LapicState :=
    { l with
      guestEflagsTfifmask :=
        (vmcs .guestRFLAGS).setWidth 32 &&& (EFLAGS_IF ||| EFLAGS_TF).setWidth 32
      guestIntrNmimask := vmcs .guestInterruptibility &&& VMX_GUEST_INTR_BLOCK_NMI
      exceptionBitmap := vmcs .controlExceptionBitmap }
  (vmcs.singleStep,
    { cpu with ept01 := lapicViolation pf cpu.ept01 paddr (errorcode.getLsbD 1) }, saved)

def virtualLapic (pf : Platform) (ram : Pa → U8) (reg : Nat) : U32 :=
  let base : Pa := pf.virtualLapicBase.setWidth 64 + BitVec.ofNat 64 reg
  (leWord ((List.range 4).map fun i => ram (base + BitVec.ofNat 64 i))).setWidth 32

/-- The IPI that the guest has written; the flag says that it was the last one missing to
start all cores. An INIT IPI is skipped (without `__EXTRA_AP_INIT_COUNT__`) and a startup IPI
noted; others go to the physical LAPIC. -/
def takeIpi (pf : Platform) (vcpuId : U32) (ram : Pa → U8) (cpu : MsrCpu η) (l : LapicState) :
    Option (Bool × MsrCpu η × LapicState) :=
  let reg := cpu.ept01.lapicReg
  let value := virtualLapic pf ram reg
  let icr : Bool := reg = LAPIC_ICR_LOW ∨ reg = LAPIC_ICR_HIGH
  match cpu.ept01.lapicOp with
  | .rsvd => some (false, cpu, l)
  | .read => if icr then some (false, cpu, l) else none
  | .write =>
    if !icr then none
    else if reg = LAPIC_ICR_LOW ∧ value &&& 0xf00 = 0x500 then some (false, cpu, l)
    else if reg = LAPIC_ICR_LOW ∧ value &&& 0xf00 = 0x600 then
      (processSIPI cpu.midtable vcpuId value (virtualLapic pf ram LAPIC_ICR_HIGH >>> 24)).map
        fun (allSipi, midtable) => (allSipi, { cpu with midtable }, l)
    else some (false, cpu, { l with sent := l.sent ++ [(reg, value)] })

/-- `xmhf_smpguest_arch_x86vmx_eventhandler_dbexception` -/
def dbexception (pf : Platform) (vcpuId : U32) (ram : Pa → U8) (vmcs : Vmcs) (cpu : MsrCpu η)
    (l : LapicState) : Option (Vmcs × MsrCpu η × LapicState) :=
  (takeIpi pf vcpuId ram cpu l).bind fun (delink, cpu, l) =>
    (lapicDbexception pf cpu.ept01 (virtualLapic pf ram cpu.ept01.lapicReg) delink).map fun ept01 =>
      let msrBitmap :=
        if delink then clearMsrbitmap cpu.msrBitmap IA32_X2APIC_ICR else cpu.msrBitmap
      (vmcs.endSingleStep l, { cpu with ept01, msrBitmap }, l)

end Xmhf
