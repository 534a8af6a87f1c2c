import Xmhf.Lib.Pass
import Xmhf.Memprot.Guestmem
import Xmhf.Nested.Ept02Cache
import Xmhf.Nested.VcpuInit
import Xmhf.Nested.Vpid
import Xmhf.Vmx.Msr
import Xmhf.Vmx.Vcpu

/-!
# From VMCS12 to VMCS02

A nested VM entry turns the VMCS that L1 has written (VMCS12) into the one on which
the hardware runs L2 (VMCS02): `xmhf_nested_arch_x86vmx_vmcs12_to_vmcs02` of
`nested-x86vmx-vmcs12.c`. It computes the control words of VMCS02, translates the
writable fields in the order of their declarations and performs L1's VM-entry MSR
load. A field is translated by its properties, or by a function of its own.

`none` is a halt of the hypervisor; a status other than `success` is the error that
L1 gets. The model is the 64-bit hypervisor without the workaround for QEMU.
-/

namespace Xmhf

/-- Results of VMX instructions that the handlers report (`nested-x86vmx-vminsterr.h`). -/
inductive VmInst where
  | success
  | errnoVmentryInvalidCtrl
  deriving DecidableEq, Repr

/-- The part of `vmcs12_info_t` that a nested entry writes. `guestEptCacheLine` is the
index of the line. -/
structure Vmcs12Info where
  ctls12 : VmxCtls
  guestEptRoot : U64
  guestEptCacheLine : Nat
  guestNmiExiting : Bool
  guestVirtualNmis : Bool
  guestNmiWindowExiting : Bool
  guestBlockNmi : Bool
  guestVmcsBlockNmiOverridden : Bool
  vmentryMsrLoadArea : Nat → MsrEntry

structure VmentryArg (ω : Type) where
  vmcs12 : Vmcs
  /-- `vcpu->vmcs`, the VMCS of L1. -/
  vmcs01 : Vmcs
  /-- The hardware's capability MSRs. -/
  vmxMsrs : VmxMsr → U64
  vmxCaps : VmxCtls
  /-- `__VMX_NESTED_MSR_BITMAP__` -/
  msrBitmap : Bool
  /-- The tables of EPT01, and memory byte by byte. -/
  mem : Mem
  ram : Pa → U8
  linAddrBits : Nat
  ept02 : Ept02CacheCfg
  /-- `vmx_vaddr_msr_area_guest` -/
  msr01 : Nat → MsrEntry
  /-- Addresses of the MSR areas in `vmcs12_info_t`. -/
  vmexitMsrStoreArea : Pa
  vmexitMsrLoadArea : Pa
  vmentryMsrLoadArea : Pa
  /-- `IA32_PERF_GLOBAL_CTRL`, if CPUID reports performance monitoring. -/
  perfGlobalCtrl : Option U64
  /-- `IA32_PKRS` -/
  pkrs : U64
  /-- `xmhf_parteventhub_arch_x86vmx_handle_wrmsr`, which answers whether it fails. -/
  handleWrmsr : ω → U32 → U64 → Option (Bool × ω)

/-- What a nested entry writes; `cpu` is the state that `handleWrmsr` changes. -/
structure Vmentry (ω : Type) where
  vmcs02 : Vmcs
  vpid : VpidCpu
  ept02 : Ept02Cpu
  info : Vmcs12Info
  /-- `arg->guest_ia32_pat` and `arg->guest_ia32_efer` -/
  guestIa32Pat : U64
  guestIa32Efer : U64
  cpu : ω

variable {ω : Type}

namespace VmentryArg

def ctx01 (arg : VmentryArg ω) : HptwCtx := guestmemHostCtx (arg.vmcs01 .controlEPTPointer)

/-- `VCPU_g64` of L1. -/
def vcpuG64 (arg : VmentryArg ω) : Bool := (arg.vmcs01 .guestCSAccessRights).getLsbD 13

end VmentryArg

namespace Vmentry

def vmwrite (s : Vmentry ω) (f : VmcsField) (value : BitVec f.bits) : Vmentry ω :=
  { s with vmcs02 := s.vmcs02.vmwrite f value }

end Vmentry

/-! ## Control words -/

def vmcs12Ctls (vmcs12 : Vmcs) : VmxCtls
  | .pinbased => vmcs12 .controlVMXPinBased
  | .procbased => vmcs12 .controlVMXCpuBased
  | .exit => vmcs12 .controlVMExitControls
  | .entry => vmcs12 .controlVMEntryControls
  | .procbased2 =>
    let procbased : U32 := vmcs12 .controlVMXCpuBased
    if procbased.getLsbD VmxCtl.activateSecondaryControls.bit then vmcs12 .controlVMXSeccpuBased
    else 0#32

/-- `_vmcs12_get_ctls12`. On failure the source has stored the words checked so far, which
nothing reads. -/
def vmcs12GetCtls12 (arg : VmentryArg ω) : Option VmxCtls :=
  let ctls := vmcs12Ctls arg.vmcs12
  let caps := nestedCtlCaps arg.msrBitmap arg.vmxMsrs
  if [.pinbased, .procbased, .exit, .entry, .procbased2].all fun word =>
      ctlsAllowed (caps word) (ctls word) then some ctls
  else none

def vmcs12GetCtls02 (vmcs02 : Vmcs) : VmxCtls := vmcs12Ctls vmcs02

def vmcs12ToVmcs02FlipBits (msrBitmap : Bool) (ctls : VmxCtls) : VmxCtls :=
  let ctls := ctls.setctl .nmiExiting
  let ctls := ctls.setctl .virtualNmis
  let ctls := ctls.setctl .activateSecondaryControls
  let ctls := if msrBitmap then ctls.clearctl .useMsrBitmaps else ctls
  let ctls := ctls.setctl .vmexitHostAddressSpaceSize
  let ctls := ctls.clearctl .vmexitSaveIa32Pat
  let ctls := ctls.clearctl .vmexitLoadIa32Pat
  let ctls := ctls.clearctl .vmexitSaveIa32Efer
  let ctls := ctls.clearctl .vmexitLoadIa32Efer
  let ctls := ctls.clearctl .vmentryLoadIa32Pat
  let ctls := ctls.clearctl .vmentryLoadIa32Efer
  ctls.setctl .enableEpt

/-- `xmhf_nested_arch_x86vmx_is_interruption_nmi`: a valid NMI must have the NMI's vector. -/
def isInterruptionNmi (interruption : U32) : Option Bool :=
  if interruption.getLsbD 31 ∧ (interruption >>> 8) &&& 7 = 2 then
    if interruption &&& 0xff = 2 then some true else none
  else some false

/-- "Virtual NMIs" needs "NMI exiting", and "NMI-window exiting" needs "virtual NMIs". -/
def nmiCtlsValid (ctls12 : VmxCtls) : Bool :=
  (ctls12.has .nmiExiting || !ctls12.has .virtualNmis) &&
    (ctls12.has .virtualNmis || !ctls12.has .nmiWindowExiting)

/-- What `_vmcs12_to_vmcs02_ctls` requires without giving L1 an error. -/
def ctlsSupported (arg : VmentryArg ω) (ctls12 : VmxCtls) : Bool :=
  let ctls01 := vmcs12Ctls arg.vmcs01
  -- interrupt virtualization by a hypapp is not implemented
  !ctls01.has .externalInterruptExiting && !ctls01.has .interruptWindowExiting &&
    -- "Not supported (XMHF limitation)"
    (ctls12.has .nmiExiting ||
      isInterruptionNmi (arg.vmcs12 .controlVMEntryInterruptionInformation) == some false) &&
    ctls12.has .vmexitHostAddressSpaceSize == arg.vcpuG64

/-- `_vmcs12_to_vmcs02_ctls`, which gives the control words of VMCS02. -/
def vmcs12ToVmcs02Ctls (arg : VmentryArg ω) (ctls12 : VmxCtls) (s : Vmentry ω) :
    Option (VmInst × VmxCtls × Vmentry ω) :=
  let ctls02 := vmcs12ToVmcs02FlipBits arg.msrBitmap ctls12
  let s := { s with info := { s.info with
    ctls12 := ctls12
    guestNmiExiting := ctls12.has .nmiExiting
    guestVirtualNmis := ctls12.has .virtualNmis
    guestNmiWindowExiting := ctls12.has .nmiWindowExiting } }
  if nmiCtlsValid ctls12 then
    if ctlsSupported arg ctls12 then some (.success, ctls02, s) else none
  else some (.errnoVmentryInvalidCtrl, ctls02, s)

/-! ## Fields -/

def wrote (s : Vmentry ω) (f : VmcsField) (value : BitVec f.bits) : Option (VmInst × Vmentry ω) :=
  some (.success, s.vmwrite f value)

def kept (s : Vmentry ω) : Option (VmInst × Vmentry ω) := some (.success, s)

/-- The function that `DECLARE_FIELD_*_RW` defines: what the properties say. Only 64-bit
fields have the property `gpaddr`. -/
def translateByProp (arg : VmentryArg ω) (ctls : VmxCtls) (s : Vmentry ω) (f : VmcsField) :
    Option (VmInst × Vmentry ω) :=
  if .idGuest ∈ f.decl.prop then
    if f.decl.exist ctls then wrote s f (arg.vmcs12 f) else kept s
  else if .gpaddr ∈ f.decl.prop then
    if f.decl.exist ctls then
      (guestmemGpa2spaPage arg.ctx01 arg.mem ((arg.vmcs12 f).setWidth 64)).bind fun spa =>
        wrote s f (spa.setWidth f.bits)
    else kept s
  else if .ignore ∈ f.decl.prop ∨ .idHost ∈ f.decl.prop then kept s
  else if .unsupp ∈ f.decl.prop then
    if f.decl.exist ctls then none else kept s
  else none

def checkIa32Pat (ia32Pat : U64) : Bool :=
  (List.range 8).all fun i => (ia32Pat >>> (8 * i)).setWidth 8 ∈ [0#8, 1#8, 4#8, 5#8, 6#8, 7#8]

def eferModeMask (cr0Pg : Bool) : U64 :=
  1#64 <<< EFER_LMA ||| (if cr0Pg then 1#64 <<< EFER_LME else 0#64)

def checkIa32Efer (ia32Efer : U64) (lma cr0Pg : Bool) : Bool :=
  let mask := eferModeMask cr0Pg
  ia32Efer &&& mask == (if lma then mask else 0#64) && ia32Efer &&& ~~~0xd01#64 == 0#64

/-- `_update_pae_pdpte`: L2 uses PAE paging on EPT01. -/
def updatePaePdpte (arg : VmentryArg ω) (ctls12 : VmxCtls) (s : Vmentry ω) (guestCR3 : U64) :
    Option (Vmentry ω) :=
  let guestCR0 : U64 := arg.vmcs12 .guestCR0
  let guestCR4 : U64 := arg.vmcs12 .guestCR4
  if guestCR0 &&& CR0_PG ≠ 0 ∧ guestCR4 &&& CR4_PAE ≠ 0 ∧
      ctls12.has .vmentryIa32eModeGuest = false then
    (guestmemCopyGp2h arg.ctx01 arg.mem arg.ram 0 (guestCR3 &&& ~~~0x1f#64) 32).map fun bytes =>
      let pdpte (i : Nat) : U64 := leWord ((bytes.drop (8 * i)).take 8)
      (((s.vmwrite .guestPDPTE0 (pdpte 0)).vmwrite .guestPDPTE1 (pdpte 1)).vmwrite
        .guestPDPTE2 (pdpte 2)).vmwrite .guestPDPTE3 (pdpte 3)
  else some s

def GUEST_EPT_ROOT_INVALID : U64 := 0xffffffffffffffff

def vmcs12ToVmcs02ControlEPTPointer (arg : VmentryArg ω) (ctls12 : VmxCtls) (s : Vmentry ω) :
    Option (VmInst × Vmentry ω) :=
  if arg.vmxCaps.has .enableEpt then
    if ctls12.has .enableEpt then
      match checkEptLowerBits (arg.vmcs12 .controlEPTPointer) with
      | none => some (.errnoVmentryInvalidCtrl, s)
      | some ept12 =>
        let found := getEpt02 arg.ept02 s.ept02 ept12
        let s := { s with
          ept02 := lookupThen arg.ept02 s.ept02 ept12 fun _ => s.ept02.running
          info := { s.info with
            guestEptRoot := ept12
            guestEptCacheLine := found.cacheLine } }
        wrote s .controlEPTPointer found.eptp02
    else
      let s := { s with info := { s.info with guestEptRoot := GUEST_EPT_ROOT_INVALID } }
      (updatePaePdpte arg ctls12 s (arg.vmcs12 .guestCR3)).bind fun s =>
        wrote s .controlEPTPointer (arg.vmcs01 .controlEPTPointer)
  else none

def vmcs12ToVmcs02GuestInterruptibility (arg : VmentryArg ω) (s : Vmentry ω) :
    Option (VmInst × Vmentry ω) :=
  let val : U32 := arg.vmcs12 .guestInterruptibility
  let blockNmi :=
    if s.info.guestNmiExiting then
      if s.info.guestVirtualNmis then false else val.getLsbD 3
    else s.info.guestBlockNmi
  let s := { s with info := { s.info with guestBlockNmi := blockNmi } }
  if s.info.guestVmcsBlockNmiOverridden then none
  else wrote s .guestInterruptibility val

/-- `arg->guest_ia32_efer` without "load IA32_EFER": the mode bits of L1's value change. -/
def eferWithoutLoad (arg : VmentryArg ω) (ctls12 : VmxCtls) : U64 :=
  let guestCR0 : U64 := arg.vmcs12 .guestCR0
  let mask := eferModeMask (guestCR0 &&& CR0_PG != 0)
  if ctls12.has .vmentryIa32eModeGuest then (arg.msr01 0).data ||| mask
  else (arg.msr01 0).data &&& ~~~mask

/-- `_vmcs12_to_vmcs02_*` of a field. `ctls` are the control words of VMCS02. -/
def vmcs12ToVmcs02Field (arg : VmentryArg ω) (ctls12 ctls : VmxCtls) (s : Vmentry ω)
    (f : VmcsField) : Option (VmInst × Vmentry ω) :=
  match f with
  | .controlVpid =>
    (vmcs12ToVmcs02ControlVpid arg.linAddrBits s.vpid (ctls.has .enableVpid)
      (arg.vmcs12 .controlVpid)).bind fun (valid, vpid02, vpid) =>
        let s := { s with vpid := vpid }
        if valid then wrote s .controlVpid vpid02 else some (.errnoVmentryInvalidCtrl, s)
  | .controlMSRBitmapsAddress =>
    -- "ideally should return VMENTRY error"
    if ctls12.has .useMsrBitmaps && !paPageAligned4K (arg.vmcs12 .controlMSRBitmapsAddress)
    then none
    else wrote s .controlMSRBitmapsAddress 0xffffffffffffffff#64
  | .controlVMExitMSRStoreAddress =>
    wrote s .controlVMExitMSRStoreAddress arg.vmexitMsrStoreArea
  | .controlVMExitMSRLoadAddress => wrote s .controlVMExitMSRLoadAddress arg.vmexitMsrLoadArea
  | .controlVMEntryMSRLoadAddress =>
    wrote s .controlVMEntryMSRLoadAddress arg.vmentryMsrLoadArea
  | .controlPostedInterruptDescAddress =>
    if ctls.has .processPostedInterrupts then
      let addr : U64 := arg.vmcs12 .controlPostedInterruptDescAddress
      if addr &&& 63 ≠ 0 then some (.errnoVmentryInvalidCtrl, s)
      else
        (guestmemGpa2spaSize arg.ctx01 arg.mem addr 64).bind fun spa =>
          wrote s .controlPostedInterruptDescAddress spa
    else kept s
  | .controlEPTPointer => vmcs12ToVmcs02ControlEPTPointer arg ctls12 s
  | .guestIA32PAT =>
    if ctls12.has .vmentryLoadIa32Pat then
      if checkIa32Pat (arg.vmcs12 .guestIA32PAT) then
        kept { s with guestIa32Pat := arg.vmcs12 .guestIA32PAT }
      else none
    else kept { s with guestIa32Pat := (arg.msr01 1).data }
  | .guestIA32EFER =>
    if ctls12.has .vmentryLoadIa32Efer then
      let guestCR0 : U64 := arg.vmcs12 .guestCR0
      if checkIa32Efer (arg.vmcs12 .guestIA32EFER) (ctls12.has .vmentryIa32eModeGuest)
          (guestCR0 &&& CR0_PG != 0) then
        kept { s with guestIa32Efer := arg.vmcs12 .guestIA32EFER }
      else none
    else kept { s with guestIa32Efer := eferWithoutLoad arg ctls12 }
  | .guestPDPTE0 =>
    if ctls12.has .enableEpt then wrote s .guestPDPTE0 (arg.vmcs12 .guestPDPTE0) else kept s
  | .guestPDPTE1 =>
    if ctls12.has .enableEpt then wrote s .guestPDPTE1 (arg.vmcs12 .guestPDPTE1) else kept s
  | .guestPDPTE2 =>
    if ctls12.has .enableEpt then wrote s .guestPDPTE2 (arg.vmcs12 .guestPDPTE2) else kept s
  | .guestPDPTE3 =>
    if ctls12.has .enableEpt then wrote s .guestPDPTE3 (arg.vmcs12 .guestPDPTE3) else kept s
  | .hostIA32PAT =>
    if ctls12.has .vmexitLoadIa32Pat && !checkIa32Pat (arg.vmcs12 .hostIA32PAT) then none
    else kept s
  | .hostIA32EFER =>
    if ctls12.has .vmexitLoadIa32Efer && !checkIa32Efer (arg.vmcs12 .hostIA32EFER)
        (ctls12.has .vmexitHostAddressSpaceSize) true then none
    else kept s
  | .hostIA32PERFGLOBALCTRL =>
    match arg.perfGlobalCtrl with
    | some value =>
      if ctls.has .vmexitLoadIa32PerfGlobalCtrl then wrote s .hostIA32PERFGLOBALCTRL value
      else kept s
    | none => kept s
  | .hostIA32PKRS =>
    if ctls.has .vmexitLoadPkrs then wrote s .hostIA32PKRS arg.pkrs else kept s
  | .controlVMXPinBased => wrote s .controlVMXPinBased (ctls .pinbased)
  | .controlVMXCpuBased => wrote s .controlVMXCpuBased (ctls .procbased)
  | .controlVMExitControls => wrote s .controlVMExitControls (ctls .exit)
  | .controlVMEntryControls => wrote s .controlVMEntryControls (ctls .entry)
  | .controlVMXSeccpuBased => wrote s .controlVMXSeccpuBased (ctls .procbased2)
  | .controlVMExitMSRStoreCount =>
    wrote s .controlVMExitMSRStoreCount (arg.vmcs01 .controlVMExitMSRStoreCount)
  | .controlVMExitMSRLoadCount =>
    wrote s .controlVMExitMSRLoadCount (arg.vmcs01 .controlVMExitMSRLoadCount)
  | .controlVMEntryMSRLoadCount =>
    wrote s .controlVMEntryMSRLoadCount (arg.vmcs01 .controlVMEntryMSRLoadCount)
  | .controlVMEntryInterruptionInformation =>
    wrote s .controlVMEntryInterruptionInformation
      (arg.vmcs12 .controlVMEntryInterruptionInformation)
  | .controlVMEntryExceptionErrorcode =>
    wrote s .controlVMEntryExceptionErrorcode (arg.vmcs12 .controlVMEntryExceptionErrorcode)
  | .controlVMEntryInstructionLength =>
    wrote s .controlVMEntryInstructionLength (arg.vmcs12 .controlVMEntryInstructionLength)
  | .guestInterruptibility => vmcs12ToVmcs02GuestInterruptibility arg s
  | f =>
    -- `nested-x86vmx-vmcs12-guesthost.h` gives the host fields of VMCS01 to the fields
    -- with the property `idHost`
    if .idHost ∈ f.decl.prop then wrote s f (arg.vmcs01 f) else translateByProp arg ctls s f

def vmcs12ToVmcs02Fields : List VmcsField := VmcsField.all.filter fun f => f.decl.writable

/-! ## VM-entry MSR load -/

/-- What the source does with an entry of L1's VM-entry MSR-load area. -/
def loadMsr12 (arg : VmentryArg ω) (s : Vmentry ω) (msr12 : MsrEntry) : Option (Vmentry ω) :=
  if msr12.index = IA32_SYSENTER_CS_MSR then
    some (s.vmwrite .guestSYSENTERCS (msr12.data.setWidth 32))
  else if msr12.index = IA32_SYSENTER_EIP_MSR then some (s.vmwrite .guestSYSENTEREIP msr12.data)
  else if msr12.index = IA32_SYSENTER_ESP_MSR then some (s.vmwrite .guestSYSENTERESP msr12.data)
  -- "Not allowed, what should I do?": FS and GS base, and the x2APIC MSRs
  else if msr12.index = IA32_MSR_FS_BASE ∨ msr12.index = IA32_MSR_GS_BASE then none
  else if msr12.index &&& 0xffffff00#32 = 0x800#32 then none
  else
    match getXmhfMsr msr12.index with
    | some i =>
      if (s.info.vmentryMsrLoadArea i).index = msr12.index then
        some { s with info := { s.info with
          vmentryMsrLoadArea := Function.update s.info.vmentryMsrLoadArea i
            { s.info.vmentryMsrLoadArea i with data := msr12.data } } }
      else none
    | none =>
      (arg.handleWrmsr s.cpu msr12.index msr12.data).bind fun (fails, cpu) =>
        if fails then none else some { s with cpu := cpu }

/-- `msr_entry_t` in memory. -/
def msrEntryOfBytes (bytes : List U8) : MsrEntry :=
  ⟨(leWord (bytes.take 4)).setWidth 32, leWord ((bytes.drop 8).take 8)⟩

def vmentryMsrLoadStep (arg : VmentryArg ω) (s : Vmentry ω) (i : Nat) : Option (Vmentry ω) :=
  let guestAddr : U64 := arg.vmcs12 .controlVMEntryMSRLoadAddress
  (guestmemCopyGp2h arg.ctx01 arg.mem arg.ram 0 (guestAddr + BitVec.ofNat 64 (16 * i)) 16).bind
    fun bytes => loadMsr12 arg s (msrEntryOfBytes bytes)

def vmentryMsrLoads (arg : VmentryArg ω) : Machine (Vmentry ω) Nat where
  init _ := True
  step := vmentryMsrLoadStep arg

/-- `IA32_PAT` and `IA32_EFER` of L2. -/
def setPatEfer (s : Vmentry ω) : Vmentry ω :=
  let area := s.info.vmentryMsrLoadArea
  let area := Function.update area 1 { area 1 with data := s.guestIa32Pat }
  let area := Function.update area 0 { area 0 with data := s.guestIa32Efer }
  { s with info := { s.info with vmentryMsrLoadArea := area } }

def vmentryMsrLoad (arg : VmentryArg ω) (s : Vmentry ω) : Option (Vmentry ω) :=
  let count : U32 := arg.vmcs12 .controlVMEntryMSRLoadCount
  (vmentryMsrLoads arg).run (setPatEfer s) (List.range count.toNat)

/-- `xmhf_nested_arch_x86vmx_vmcs12_to_vmcs02` -/
def vmcs12ToVmcs02 (arg : VmentryArg ω) (s : Vmentry ω) : Option (VmInst × Vmentry ω) :=
  match vmcs12GetCtls12 arg with
  | none => some (.errnoVmentryInvalidCtrl, s)
  | some ctls12 =>
    (vmcs12ToVmcs02Ctls arg ctls12 s).bind fun (status, ctls, s) =>
      if status = .success then
        (Pass.pass .success (fun f s => vmcs12ToVmcs02Field arg ctls12 ctls s f)
          vmcs12ToVmcs02Fields s).bind fun (status, s) =>
            if status = .success then (vmentryMsrLoad arg s).map fun s => (.success, s)
            else some (status, s)
      else some (status, s)

end Xmhf
