import Xmhf.Nested.ExitLookups
import Xmhf.Nested.Pointers

/-!
# From VMCS02 back to VMCS12

When L2 exits to L1, XMHF brings VMCS12 up to date from the VMCS on which the hardware
has run L2, in `xmhf_nested_arch_x86vmx_vmcs02_to_vmcs12` of `nested-x86vmx-vmcs12.c`.
It checks that the control words are those of the entry and then takes the fields in
the order of their declarations, by their properties or by a function of their own.
Checks halt the hypervisor: `none`.

The MSR store and load of L1 and the values that a VM exit forces into VMCS01, which
follow in the source, do not touch VMCS12.
-/

namespace Xmhf

structure VmexitArg where
  /-- VMCS02 as the hardware leaves it. -/
  vmcs02 : Vmcs
  vmxCaps : VmxCtls
  /-- `__VMX_NESTED_MSR_BITMAP__` -/
  msrBitmap : Bool
  linAddrBits : Nat
  ept02 : Ept02CacheCfg
  /-- Addresses of the MSR areas in `vmcs12_info_t`. -/
  vmexitMsrStoreArea : Pa
  vmexitMsrLoadArea : Pa
  vmentryMsrLoadArea : Pa
  /-- `IA32_PERF_GLOBAL_CTRL`, if CPUID reports performance monitoring. -/
  perfGlobalCtrl : Option U64
  /-- `IA32_PKRS` -/
  pkrs : U64

structure Vmexit where
  vmcs12 : Vmcs
  /-- `vcpu->vmcs` -/
  vmcs01 : Vmcs
  vpid : VpidCpu
  ept02 : Ept02Cpu
  info : Vmcs12Info
  /-- `guest_vmcs_block_nmi` -/
  guestVmcsBlockNmi : Bool
  /-- `arg->host_ia32_pat` and `arg->host_ia32_efer` -/
  hostIa32Pat : U64
  hostIa32Efer : U64

/-- `arg->ctls` -/
def VmexitArg.ctls (arg : VmexitArg) : VmxCtls := vmcs12GetCtls02 arg.vmcs02

/-- The controls that may change while L2 runs are left out of the comparison. -/
def fixedCtls (ctls : VmxCtls) : VmxCtls :=
  (ctls.clearctl .nmiWindowExiting).clearctl .vmentryIa32eModeGuest

def vmcs02ToVmcs12Ctls (arg : VmexitArg) (ctls12 : VmxCtls) : Bool :=
  [.pinbased, .procbased, .exit, .entry, .procbased2].all fun word =>
    fixedCtls arg.ctls word == fixedCtls (vmcs12ToVmcs02FlipBits arg.msrBitmap ctls12) word

/-! ## Fields -/

def Vmexit.update (s : Vmexit) (f : VmcsField) (value : BitVec f.bits) : Vmexit :=
  { s with vmcs12 := s.vmcs12.vmwrite f value }

/-- `HALT_ON_ERRORCOND` -/
def asserted (p : Prop) [Decidable p] (s : Vmexit) : Option Vmexit := if p then some s else none

/-- The function that `DECLARE_FIELD_*_RO` defines. Only 64-bit fields have the property
`gpaddr`, and for them it takes host and guest addresses for the same. -/
def translateBackByProp (arg : VmexitArg) (s : Vmexit) (f : VmcsField) : Option Vmexit :=
  if .idGuest ∈ f.decl.prop ∨ .gpaddr ∈ f.decl.prop then
    if f.decl.exist arg.ctls then
      if .swwronly ∈ f.decl.prop then asserted (s.vmcs12 f = arg.vmcs02 f) s
      else some (s.update f (arg.vmcs02 f))
    else some s
  else if .unsupp ∈ f.decl.prop then
    if f.decl.exist arg.ctls then none else some s
  else if .ignore ∈ f.decl.prop ∨ .idHost ∈ f.decl.prop then some s
  else none

/-- `arg->vcpu->vmcs.guest_* = arg->vmcs12->host_*`, for the pairs of
`nested-x86vmx-vmcs12-guesthost.h`. -/
def loadHostField (vmcs12 vmcs01 : Vmcs) : VmcsField → Vmcs
  | .hostESSelector => vmcs01.vmwrite .guestESSelector (vmcs12 .hostESSelector)
  | .hostCSSelector => vmcs01.vmwrite .guestCSSelector (vmcs12 .hostCSSelector)
  | .hostSSSelector => vmcs01.vmwrite .guestSSSelector (vmcs12 .hostSSSelector)
  | .hostDSSelector => vmcs01.vmwrite .guestDSSelector (vmcs12 .hostDSSelector)
  | .hostFSSelector => vmcs01.vmwrite .guestFSSelector (vmcs12 .hostFSSelector)
  | .hostGSSelector => vmcs01.vmwrite .guestGSSelector (vmcs12 .hostGSSelector)
  | .hostTRSelector => vmcs01.vmwrite .guestTRSelector (vmcs12 .hostTRSelector)
  | .hostSYSENTERCS => vmcs01.vmwrite .guestSYSENTERCS (vmcs12 .hostSYSENTERCS)
  | .hostCR0 => vmcs01.vmwrite .guestCR0 (vmcs12 .hostCR0)
  | .hostCR3 => vmcs01.vmwrite .guestCR3 (vmcs12 .hostCR3)
  | .hostCR4 => vmcs01.vmwrite .guestCR4 (vmcs12 .hostCR4)
  | .hostFSBase => vmcs01.vmwrite .guestFSBase (vmcs12 .hostFSBase)
  | .hostGSBase => vmcs01.vmwrite .guestGSBase (vmcs12 .hostGSBase)
  | .hostTRBase => vmcs01.vmwrite .guestTRBase (vmcs12 .hostTRBase)
  | .hostGDTRBase => vmcs01.vmwrite .guestGDTRBase (vmcs12 .hostGDTRBase)
  | .hostIDTRBase => vmcs01.vmwrite .guestIDTRBase (vmcs12 .hostIDTRBase)
  | .hostSYSENTERESP => vmcs01.vmwrite .guestSYSENTERESP (vmcs12 .hostSYSENTERESP)
  | .hostSYSENTEREIP => vmcs01.vmwrite .guestSYSENTEREIP (vmcs12 .hostSYSENTEREIP)
  | .hostRSP => vmcs01.vmwrite .guestRSP (vmcs12 .hostRSP)
  | .hostRIP => vmcs01.vmwrite .guestRIP (vmcs12 .hostRIP)
  | _ => vmcs01

def vmcs02ToVmcs12ControlEPTPointer (arg : VmexitArg) (s : Vmexit) : Option Vmexit :=
  if arg.vmxCaps.has .enableEpt then
    if s.info.ctls12.has .enableEpt then
      let found := getEpt02 arg.ept02 s.ept02 s.info.guestEptRoot
      asserted (found.cacheHit = true ∧ arg.vmcs02 .controlEPTPointer = found.eptp02)
        { s with
          ept02 := lookupThen arg.ept02 s.ept02 s.info.guestEptRoot fun _ => s.ept02.running }
    else asserted (arg.vmcs02 .controlEPTPointer = s.vmcs01 .controlEPTPointer) s
  else none

def setBlockNmi (val : U32) (block : Bool) : U32 :=
  if block then val ||| 8#32 else val &&& ~~~8#32

theorem setBlockNmi_bit (val : U32) (block : Bool) : (setBlockNmi val block).getLsbD 3 = block := by
  unfold setBlockNmi
  cases block with
  | true | false => simp

def vmcs02ToVmcs12GuestInterruptibility (arg : VmexitArg) (s : Vmexit) : Option Vmexit :=
  let val : U32 := arg.vmcs02 .guestInterruptibility
  let val :=
    if s.info.guestVmcsBlockNmiOverridden then setBlockNmi val s.guestVmcsBlockNmi else val
  let val01 : U32 := s.vmcs01 .guestInterruptibility
  let val01 :=
    setBlockNmi val01 (if s.info.guestNmiExiting then s.info.guestBlockNmi else val.getLsbD 3)
  let val :=
    if s.info.guestNmiExiting && !s.info.guestVirtualNmis then setBlockNmi val s.info.guestBlockNmi
    else val
  some { s with
    info := { s.info with guestVmcsBlockNmiOverridden := false }
    vmcs12 := s.vmcs12.vmwrite .guestInterruptibility val
    -- "There is no blocking by STI or by MOV SS after a VM exit"
    vmcs01 := s.vmcs01.vmwrite .guestInterruptibility (val01 &&& ~~~3#32) }

/-- `arg->host_ia32_efer` without "load IA32_EFER". -/
def hostEferWithoutLoad (s : Vmexit) : U64 :=
  let mask := eferModeMask true
  if s.info.ctls12.has .vmexitHostAddressSpaceSize then (s.info.vmentryMsrLoadArea 0).data ||| mask
  else (s.info.vmentryMsrLoadArea 0).data &&& mask

def entryControlsBack (arg : VmexitArg) (s : Vmexit) : U32 :=
  let controls : U32 := s.vmcs12 .controlVMEntryControls
  if arg.ctls.has .vmentryIa32eModeGuest then controls ||| 0x200#32
  else controls &&& ~~~0x200#32

/-- `_vmcs02_to_vmcs12_*` of a field. `IA32_EFER` and `IA32_PAT` are the entries 0 and 1 of the
MSR areas. -/
def vmcs02ToVmcs12Field (arg : VmexitArg) (s : Vmexit) (f : VmcsField) : Option Vmexit :=
  match f with
  | .controlVpid =>
    (vmcs02ToVmcs12ControlVpid arg.linAddrBits s.vpid ⟨arg.ctls.has .enableVpid,
      s.vmcs12 .controlVpid, arg.vmcs02 .controlVpid⟩).map fun vpid => { s with vpid := vpid }
  | .controlMSRBitmapsAddress =>
    asserted (arg.vmcs02 .controlMSRBitmapsAddress = 0xffffffffffffffff#64) s
  | .controlVMExitMSRStoreAddress =>
    asserted (arg.vmexitMsrStoreArea = arg.vmcs02 .controlVMExitMSRStoreAddress) s
  | .controlVMExitMSRLoadAddress =>
    asserted (arg.vmexitMsrLoadArea = arg.vmcs02 .controlVMExitMSRLoadAddress) s
  | .controlVMEntryMSRLoadAddress =>
    asserted (arg.vmentryMsrLoadArea = arg.vmcs02 .controlVMEntryMSRLoadAddress) s
  | .controlPostedInterruptDescAddress =>
    if arg.ctls.has .processPostedInterrupts then
      asserted (s.vmcs12 .controlPostedInterruptDescAddress =
        arg.vmcs02 .controlPostedInterruptDescAddress) s
    else some s
  | .controlEPTPointer => vmcs02ToVmcs12ControlEPTPointer arg s
  | .guestIA32PAT =>
    if s.info.ctls12.has .vmexitSaveIa32Pat then
      some (s.update .guestIA32PAT (s.info.vmentryMsrLoadArea 1).data)
    else some s
  | .guestIA32EFER =>
    if s.info.ctls12.has .vmexitSaveIa32Efer then
      some (s.update .guestIA32EFER (s.info.vmentryMsrLoadArea 0).data)
    else some s
  | .guestPDPTE0 =>
    if s.info.ctls12.has .enableEpt then some (s.update .guestPDPTE0 (arg.vmcs02 .guestPDPTE0))
    else some s
  | .guestPDPTE1 =>
    if s.info.ctls12.has .enableEpt then some (s.update .guestPDPTE1 (arg.vmcs02 .guestPDPTE1))
    else some s
  | .guestPDPTE2 =>
    if s.info.ctls12.has .enableEpt then some (s.update .guestPDPTE2 (arg.vmcs02 .guestPDPTE2))
    else some s
  | .guestPDPTE3 =>
    if s.info.ctls12.has .enableEpt then some (s.update .guestPDPTE3 (arg.vmcs02 .guestPDPTE3))
    else some s
  | .hostIA32PAT =>
    some { s with hostIa32Pat :=
      if s.info.ctls12.has .vmexitLoadIa32Pat then s.vmcs12 .hostIA32PAT
      else (s.info.vmentryMsrLoadArea 1).data }
  | .hostIA32EFER =>
    some { s with hostIa32Efer :=
      if s.info.ctls12.has .vmexitLoadIa32Efer then s.vmcs12 .hostIA32EFER
      else hostEferWithoutLoad s }
  | .hostIA32PERFGLOBALCTRL =>
    match arg.perfGlobalCtrl with
    | some value =>
      if arg.ctls.has .vmexitLoadIa32PerfGlobalCtrl then
        asserted (arg.vmcs02 .hostIA32PERFGLOBALCTRL = value) s
      else some s
    | none => some s
  | .hostIA32PKRS =>
    if arg.ctls.has .vmexitLoadPkrs then asserted (arg.vmcs02 .hostIA32PKRS = arg.pkrs) s
    else some s
  -- `_vmcs02_to_vmcs12_ctls` has checked the control words
  | .controlVMXPinBased | .controlVMXCpuBased | .controlVMExitControls
  | .controlVMXSeccpuBased => some s
  | .controlVMExitMSRStoreCount =>
    asserted (s.vmcs01 .controlVMExitMSRStoreCount = arg.vmcs02 .controlVMExitMSRStoreCount) s
  | .controlVMExitMSRLoadCount =>
    asserted (s.vmcs01 .controlVMExitMSRLoadCount = arg.vmcs02 .controlVMExitMSRLoadCount) s
  | .controlVMEntryControls => some (s.update .controlVMEntryControls (entryControlsBack arg s))
  | .controlVMEntryMSRLoadCount =>
    asserted (s.vmcs01 .controlVMEntryMSRLoadCount = arg.vmcs02 .controlVMEntryMSRLoadCount) s
  | .controlVMEntryInterruptionInformation =>
    let information : U32 := s.vmcs12 .controlVMEntryInterruptionInformation
    some (s.update .controlVMEntryInterruptionInformation (information &&& ~~~0x80000000#32))
  -- VMCS02 may have been changed by L0
  | .controlVMEntryExceptionErrorcode | .controlVMEntryInstructionLength => some s
  | .guestInterruptibility => vmcs02ToVmcs12GuestInterruptibility arg s
  | f =>
    if .idHost ∈ f.decl.prop then
      asserted (arg.vmcs02 f = s.vmcs01 f)
        { s with vmcs01 := loadHostField s.vmcs12 s.vmcs01 f }
    else translateBackByProp arg s f

/-- The fields of `xmhf_nested_arch_x86vmx_vmcs02_to_vmcs12`. -/
def vmcs02ToVmcs12 (arg : VmexitArg) (s : Vmexit) : Option Vmexit :=
  if vmcs02ToVmcs12Ctls arg s.info.ctls12 then
    VmcsField.all.foldlM (vmcs02ToVmcs12Field arg) s
  else none


/-! ## What a field's translation leaves alone -/

def ownFields : List VmcsField :=
  [.controlVpid, .controlMSRBitmapsAddress, .controlVMExitMSRStoreAddress,
    .controlVMExitMSRLoadAddress, .controlVMEntryMSRLoadAddress,
    .controlPostedInterruptDescAddress, .controlEPTPointer, .guestIA32PAT, .guestIA32EFER,
    .guestPDPTE0, .guestPDPTE1, .guestPDPTE2, .guestPDPTE3, .hostIA32PAT, .hostIA32EFER,
    .hostIA32PERFGLOBALCTRL, .hostIA32PKRS, .controlVMXPinBased, .controlVMXCpuBased,
    .controlVMExitControls, .controlVMXSeccpuBased, .controlVMExitMSRStoreCount,
    .controlVMExitMSRLoadCount, .controlVMEntryControls, .controlVMEntryMSRLoadCount,
    .controlVMEntryInterruptionInformation, .controlVMEntryExceptionErrorcode,
    .controlVMEntryInstructionLength, .guestInterruptibility]

variable {p : Prop}

section

variable {ω : Type} {entry : VmentryArg ω} {ctls12 ctls : VmxCtls} {before : Vmentry ω}
  {arg : VmexitArg} {s t : Vmexit} {f g : VmcsField}

theorem vmcs12ToVmcs02Field_default (plain : f ∉ ownFields) :
    vmcs12ToVmcs02Field entry ctls12 ctls before f =
      if .idHost ∈ f.decl.prop then wrote before f (entry.vmcs01 f)
      else translateByProp entry ctls before f := by
  cases f <;> first | rfl | exact absurd (by decide) plain

theorem vmcs02ToVmcs12Field_default (plain : f ∉ ownFields) : vmcs02ToVmcs12Field arg s f =
      if .idHost ∈ f.decl.prop then
        asserted (arg.vmcs02 f = s.vmcs01 f)
          { s with vmcs01 := loadHostField s.vmcs12 s.vmcs01 f }
      else translateBackByProp arg s f := by
  cases f <;> first | rfl | exact absurd (by decide) plain

theorem loadHostField_other (vmcs12 vmcs01 : Vmcs) (state : .guest ∉ g.decl.prop) :
    loadHostField vmcs12 vmcs01 f g = vmcs01 g := by
  have other : ∀ {h : VmcsField}, .guest ∈ h.decl.prop → g ≠ h := by
    rintro h guest rfl
    exact state guest
  cases f <;> first | rfl | exact Vmcs.vmwrite_other (other (by decide)) _ _

/-- The step of `f` leaves what the other fields' steps read. -/
structure Vmexit.Frame (f : VmcsField) (s t : Vmexit) : Prop where
  vmcs12 : ∀ g, g ≠ f → t.vmcs12 g = s.vmcs12 g
  vmcs01 : ∀ g, .guest ∉ g.decl.prop → t.vmcs01 g = s.vmcs01 g
  vpid : f ≠ .controlVpid → t.vpid = s.vpid
  ept02 : f ≠ .controlEPTPointer → t.ept02 = s.ept02
  info : f ≠ .guestInterruptibility → t.info = s.info
  nmi : t.info = { s.info with guestVmcsBlockNmiOverridden := t.info.guestVmcsBlockNmiOverridden }

theorem Vmexit.Frame.refl : Vmexit.Frame f s s :=
  ⟨fun _ _ => rfl, fun _ _ => rfl, fun _ => rfl, fun _ => rfl, fun _ => rfl, rfl⟩

theorem Vmexit.Frame.update (value : BitVec f.bits) : Vmexit.Frame f s (s.update f value) :=
  ⟨fun _ other => Vmcs.vmwrite_other other _ _, fun _ _ => rfl, fun _ => rfl, fun _ => rfl,
    fun _ => rfl, rfl⟩

theorem asserted_some [Decidable p] (passed : asserted p s = some t) : t = s := by
  unfold asserted at passed
  split at passed
  · exact (Option.some.inj passed).symm
  · cases passed

theorem translateBackByProp_frame (step : translateBackByProp arg s f = some t) :
    Vmexit.Frame f s t := by
  unfold translateBackByProp at step
  split at step
  · split at step
    · split at step
      · rw [asserted_some step]
        exact .refl
      · cases step
        exact .update _
    · cases step
      exact .refl
  · split at step
    · split at step
      · cases step
      · cases step
        exact .refl
    · split at step
      · cases step
        exact .refl
      · cases step

theorem asserted_frame [Decidable p] (passed : asserted p s = some t) : Vmexit.Frame f s t := by
  rw [asserted_some passed]
  exact .refl

theorem ite_frame {c : Prop} [Decidable c] {yes no : Option Vmexit}
    (ifYes : yes = some t → Vmexit.Frame f s t) (ifNo : no = some t → Vmexit.Frame f s t)
    (step : (if c then yes else no) = some t) : Vmexit.Frame f s t := by
  split at step
  · exact ifYes step
  · exact ifNo step

theorem kept_frame (step : some s = some t) : Vmexit.Frame f s t := by
  cases step
  exact .refl

theorem update_frame {value : BitVec f.bits} (step : some (s.update f value) = some t) :
    Vmexit.Frame f s t := by
  cases step
  exact .update value

theorem controlEPTPointer_frame (step : vmcs02ToVmcs12ControlEPTPointer arg s = some t) :
    Vmexit.Frame .controlEPTPointer s t := by
  unfold vmcs02ToVmcs12ControlEPTPointer at step
  split at step
  · refine ite_frame (fun step => ?_) asserted_frame step
    rw [asserted_some step]
    exact ⟨fun _ _ => rfl, fun _ _ => rfl, fun _ => rfl, fun other => absurd rfl other,
      fun _ => rfl, rfl⟩
  · cases step

theorem guestInterruptibility_frame (step : vmcs02ToVmcs12GuestInterruptibility arg s = some t) :
    Vmexit.Frame .guestInterruptibility s t := by
  cases step
  refine ⟨fun _ other => Vmcs.vmwrite_other other _ _, fun g state => ?_, fun _ => rfl,
    fun _ => rfl, fun other => absurd rfl other, rfl⟩
  refine Vmcs.vmwrite_other ?_ _ _
  rintro rfl
  exact state (by decide)

theorem vmcs02ToVmcs12Field_frame (step : vmcs02ToVmcs12Field arg s f = some t) :
    Vmexit.Frame f s t := by
  unfold vmcs02ToVmcs12Field at step
  split at step
  · -- VPID
    obtain ⟨vpid, -, rfl⟩ := Option.map_eq_some_iff.mp step
    exact ⟨fun _ _ => rfl, fun _ _ => rfl, fun other => absurd rfl other, fun _ => rfl,
      fun _ => rfl, rfl⟩
  iterate 4 exact asserted_frame step
  · exact ite_frame asserted_frame kept_frame step
  · exact controlEPTPointer_frame step
  iterate 6 exact ite_frame update_frame kept_frame step
  iterate 2
    cases step
    exact ⟨fun _ _ => rfl, fun _ _ => rfl, fun _ => rfl, fun _ => rfl, fun _ => rfl, rfl⟩
  · split at step
    · exact ite_frame asserted_frame kept_frame step
    · exact kept_frame step
  · exact ite_frame asserted_frame kept_frame step
  iterate 4 exact kept_frame step
  iterate 2 exact asserted_frame step
  · exact update_frame step
  · exact asserted_frame step
  · exact update_frame step
  iterate 2 exact kept_frame step
  · exact guestInterruptibility_frame step
  · refine ite_frame (fun step => ?_) translateBackByProp_frame step
    rw [asserted_some step]
    exact ⟨fun _ _ => rfl, fun _ => loadHostField_other _ _, fun _ => rfl, fun _ => rfl,
      fun _ => rfl, rfl⟩

end

/-! ## What the hardware may change -/

/-- While L2 runs and exits, the hardware changes guest state and read-only data, the control
"IA-32e mode guest" and the valid bit of the interruption information. -/
structure HardwareChanges (before after : Vmcs) : Prop where
  control : ∀ f, .ctrl ∈ f.decl.prop → f ≠ .controlVMEntryControls →
    f ≠ .controlVMEntryInterruptionInformation → after f = before f
  host : ∀ f, .host ∈ f.decl.prop → after f = before f
  entryControls : ∀ i, i ≠ 9 → BitVec.getLsbD (after .controlVMEntryControls) i =
    BitVec.getLsbD (before .controlVMEntryControls) i
  information : ∀ i, i ≠ 31 → BitVec.getLsbD (after .controlVMEntryInterruptionInformation) i =
      BitVec.getLsbD (before .controlVMEntryInterruptionInformation) i

section

variable {vmcs02 vmcs02' : Vmcs}

section

variable (changes : HardwareChanges vmcs02 vmcs02')

include changes

theorem HardwareChanges.word {word : CtlWord} (other : word ≠ .entry)
    : vmcs12GetCtls02 vmcs02' word = vmcs12GetCtls02 vmcs02 word := by
  have cpu := changes.control .controlVMXCpuBased (by decide) nofun nofun
  cases word with
  | pinbased => exact changes.control .controlVMXPinBased (by decide) nofun nofun
  | procbased => exact cpu
  | exit => exact changes.control .controlVMExitControls (by decide) nofun nofun
  | entry => exact absurd rfl other
  | procbased2 =>
    have secondary := changes.control .controlVMXSeccpuBased (by decide) nofun nofun
    unfold vmcs12GetCtls02 vmcs12Ctls
    dsimp only
    rw [cpu, secondary]

theorem HardwareChanges.has {c : VmxCtl} (other : c ≠ .vmentryIa32eModeGuest) :
    (vmcs12GetCtls02 vmcs02').has c = (vmcs12GetCtls02 vmcs02).has c := by
  unfold VmxCtls.has
  by_cases word : c.word = .entry
  · have bit : c.bit ≠ 9 := by cases c <;> first | exact absurd rfl other | decide | cases word
    rw [word]
    exact changes.entryControls c.bit bit
  · rw [changes.word word]

theorem HardwareChanges.exist (f : VmcsField) :
    f.decl.exist (vmcs12GetCtls02 vmcs02') = f.decl.exist (vmcs12GetCtls02 vmcs02) := by
  have any : ∀ cs : List VmxCtl, .vmentryIa32eModeGuest ∉ cs →
      hasAny cs (vmcs12GetCtls02 vmcs02') = hasAny cs (vmcs12GetCtls02 vmcs02) := by
    intro cs
    induction cs with
    | nil => exact fun _ => rfl
    | cons c cs ih =>
      intro absent
      rw [List.mem_cons, not_or] at absent
      obtain ⟨other, rest⟩ := absent
      change (VmxCtls.has _ c || hasAny cs _) = (VmxCtls.has _ c || hasAny cs _)
      rw [changes.has (Ne.symm other), ih rest]
  cases f <;> first | rfl | exact any _ (by decide)

omit changes in
theorem fixedCtls_word (ctls : VmxCtls) (word : CtlWord) : fixedCtls ctls word =
      if word = .procbased then ctls .procbased &&& ~~~(1#32 <<< 22)
      else if word = .entry then ctls .entry &&& ~~~(1#32 <<< 9)
      else ctls word := by
  cases word <;> rfl

theorem HardwareChanges.fixed (word : CtlWord) :
    fixedCtls (vmcs12GetCtls02 vmcs02') word = fixedCtls (vmcs12GetCtls02 vmcs02) word := by
  rw [fixedCtls_word, fixedCtls_word, changes.word (show CtlWord.procbased ≠ .entry from nofun)]
  split
  · rfl
  split
  · apply BitVec.eq_of_getLsbD_eq
    intro i small
    rw [BitVec.getLsbD_and, BitVec.getLsbD_and, BitVec.getLsbD_not,
      VmxCtls.getLsbD_one_shiftLeft (by decide)]
    by_cases mode : i = 9
    · simp [mode]
    · exact congrArg (· && _) (changes.entryControls i mode)
  · next other => exact changes.word other

end

end

/-! ## What the entry leaves for the exit -/

section

variable {ω : Type} {arg : VmentryArg ω} {ctls12 ctls : VmxCtls} {s s' t : Vmentry ω}
  {f : VmcsField}

/-- The parts of the entry's state that the exit reads and that only one step, or none, of the
fields' translation writes. -/
structure Vmentry.Frame (f : VmcsField) (s t : Vmentry ω) : Prop where
  ctls12 : t.info.ctls12 = s.info.ctls12
  nmiExiting : t.info.guestNmiExiting = s.info.guestNmiExiting
  virtualNmis : t.info.guestVirtualNmis = s.info.guestVirtualNmis
  overridden : t.info.guestVmcsBlockNmiOverridden = s.info.guestVmcsBlockNmiOverridden
  root : f ≠ .controlEPTPointer → t.info.guestEptRoot = s.info.guestEptRoot
  vpid : f ≠ .controlVpid → t.vpid = s.vpid

/-- A step that starts in `s` keeps these parts. -/
def Keeps (f : VmcsField) (s : Vmentry ω) (result : Option (VmInst × Vmentry ω)) : Prop :=
  ∀ status t, result = some (status, t) → Vmentry.Frame f s t

namespace Keeps

variable {mid : Vmentry ω} {result other : Option (VmInst × Vmentry ω)}

theorem halt : Keeps f s none := by
  intro status t step
  cases step

theorem same (status : VmInst) (info : mid.info = s.info) (vpid : mid.vpid = s.vpid) :
    Keeps f s (some (status, mid)) := by
  intro status' t step
  cases step
  exact ⟨by rw [info], by rw [info], by rw [info], by rw [info], fun _ => by rw [info],
    fun _ => vpid⟩

theorem wrote (value : BitVec f.bits) : Keeps f s (Xmhf.wrote s f value) := by
  refine same .success ?_ ?_
  · rfl
  · rfl

theorem keptFrom (info : mid.info = s.info) (vpid : mid.vpid = s.vpid) :
    Keeps f s (Xmhf.kept mid) := same .success info vpid

theorem kept : Keeps f s (Xmhf.kept s) := keptFrom rfl rfl

theorem ite [Decidable p] (yes : Keeps f s result) (no : Keeps f s other) :
    Keeps f s (if p then result else other) := by
  split
  · exact yes
  · exact no

theorem bind {α : Type} {x : Option α} {k : α → Option (VmInst × Vmentry ω)}
    (each : ∀ a, x = some a → Keeps f s (k a)) : Keeps f s (x.bind k) := by
  cases x with
  | none => exact halt
  | some a => exact each a rfl

end Keeps

theorem controlEPTPointer_keeps :
    Keeps .controlEPTPointer s (vmcs12ToVmcs02ControlEPTPointer arg ctls12 s) := by
  unfold vmcs12ToVmcs02ControlEPTPointer
  refine .ite (.ite ?_ (.bind fun mid updated => ?_)) .halt
  · split
    · exact .same _ rfl rfl
    · intro status t step
      cases step
      exact ⟨rfl, rfl, rfl, rfl, fun other => absurd rfl other, fun _ => rfl⟩
  · intro status t step
    cases step
    obtain ⟨_, rfl, -⟩ := updatePaePdpte_writes updated
    exact ⟨rfl, rfl, rfl, rfl, fun other => absurd rfl other, fun _ => rfl⟩

theorem translateByProp_keeps : Keeps f s (translateByProp arg ctls s f) := by
  unfold translateByProp
  refine .ite (.ite (.wrote _) .kept) (.ite (.ite (.bind fun _ _ => .wrote _) .kept) ?_)
  exact .ite .kept (.ite (.ite .halt .kept) .halt)

theorem vmcs12ToVmcs02Field_keeps : Keeps f s (vmcs12ToVmcs02Field arg ctls12 ctls s f) := by
  unfold vmcs12ToVmcs02Field
  split
  · -- VPID
    refine .bind fun lookup _ => ?_
    have found : ∀ (status : VmInst) (mid : Vmentry ω), mid.info = s.info →
        Keeps .controlVpid s (some (status, mid)) := by
      intro status mid info status' t step
      cases step
      exact ⟨by rw [info], by rw [info], by rw [info], by rw [info], fun _ => by rw [info],
        fun other => absurd rfl other⟩
    exact .ite (found _ _ rfl) (found _ _ rfl)
  · exact .ite .halt (.wrote _)
  iterate 3 exact .wrote _
  · exact .ite (.ite (.same _ rfl rfl) (.bind fun _ _ => .wrote _)) .kept
  · exact controlEPTPointer_keeps
  iterate 2 exact .ite (.ite (.keptFrom rfl rfl) .halt) (.keptFrom rfl rfl)
  iterate 4 exact .ite (.wrote _) .kept
  iterate 2 exact .ite .halt .kept
  · split
    · exact .ite (.wrote _) .kept
    · exact .kept
  · exact .ite (.wrote _) .kept
  iterate 11 exact .wrote _
  · refine .ite .halt ?_
    intro status t step
    cases step
    exact ⟨rfl, rfl, rfl, rfl, fun _ => rfl, fun _ => rfl⟩
  · exact .ite (.wrote _) translateByProp_keeps

theorem Vmentry.vmwrite_self (s : Vmentry ω) (f : VmcsField) (value : BitVec f.bits) :
    (s.vmwrite f value).vmcs02 f = value := Vmcs.vmwrite_self s.vmcs02 f value

/-- The state in which an entry that succeeds translates the fields. -/
def Vmentry.withCtls (s : Vmentry ω) (ctls12 : VmxCtls) : Vmentry ω :=
  { s with info := { s.info with
    ctls12 := ctls12
    guestNmiExiting := ctls12.has .nmiExiting
    guestVirtualNmis := ctls12.has .virtualNmis
    guestNmiWindowExiting := ctls12.has .nmiWindowExiting } }

theorem vmcs12ToVmcs02_pass (entered : vmcs12ToVmcs02 arg s = some (.success, s')) :
    ∃ mid, Pass.pass .success (fun f s => vmcs12ToVmcs02Field arg (vmcs12Ctls arg.vmcs12)
        (vmcs12ToVmcs02FlipBits arg.msrBitmap (vmcs12Ctls arg.vmcs12)) s f)
        vmcs12ToVmcs02Fields (s.withCtls (vmcs12Ctls arg.vmcs12)) = some (.success, mid) ∧
      vmentryMsrLoad arg mid = some s' := by
  have checked := (vmcs12ToVmcs02_success entered).1
  unfold vmcs12ToVmcs02 at entered
  rw [checked] at entered
  dsimp only at entered
  obtain ⟨⟨status, ctls, start⟩, computed, rest⟩ := Option.bind_eq_some_iff.mp entered
  dsimp only at rest
  split at rest
  · next success =>
    subst success
    obtain ⟨⟨status, mid⟩, pass, last⟩ := Option.bind_eq_some_iff.mp rest
    dsimp only at last
    split at last
    · next success =>
      subst success
      obtain ⟨loadedState, loaded, result⟩ := Option.map_eq_some_iff.mp last
      cases result
      refine ⟨mid, ?_, loaded⟩
      unfold vmcs12ToVmcs02Ctls at computed
      dsimp only at computed
      split at computed
      · split at computed
        · cases computed
          exact pass
        · cases computed
      · cases computed
    · next failure =>
      cases last
      exact absurd rfl failure
  · next failure =>
    cases rest
    exact absurd rfl failure

theorem loadMsr12_frame {msr12 : MsrEntry} (loaded : loadMsr12 arg s msr12 = some t)
    (f : VmcsField) : Vmentry.Frame f s t := by
  have refl : ∀ {u : Vmentry ω}, u.info = s.info → u.vpid = s.vpid → Vmentry.Frame f s u :=
    fun info vpid => Keeps.same .success info vpid _ _ rfl
  unfold loadMsr12 at loaded
  split at loaded
  · cases loaded
    exact refl rfl rfl
  split at loaded
  · cases loaded
    exact refl rfl rfl
  split at loaded
  · cases loaded
    exact refl rfl rfl
  split at loaded
  · cases loaded
  split at loaded
  · cases loaded
  split at loaded
  · split at loaded
    · cases loaded
      exact ⟨rfl, rfl, rfl, rfl, fun _ => rfl, fun _ => rfl⟩
    · cases loaded
  · obtain ⟨⟨fails, cpu⟩, -, result⟩ := Option.bind_eq_some_iff.mp loaded
    dsimp only at result
    split at result
    · cases result
    · cases result
      exact refl rfl rfl

theorem Vmentry.Frame.trans {u : Vmentry ω} (first : Vmentry.Frame f s t)
    (second : Vmentry.Frame f t u) : Vmentry.Frame f s u :=
  ⟨second.ctls12.trans first.ctls12, second.nmiExiting.trans first.nmiExiting,
    second.virtualNmis.trans first.virtualNmis, second.overridden.trans first.overridden,
    fun other => (second.root other).trans (first.root other),
    fun other => (second.vpid other).trans (first.vpid other)⟩

theorem vmentryMsrLoad_frame (loaded : vmentryMsrLoad arg s = some t) (f : VmcsField) :
    Vmentry.Frame f s t := by
  refine Machine.run_invariant
    ?_ (fun _ _ => trivial) ?_ loaded
  · intro mid i next kept _ step
    obtain ⟨bytes, -, loaded⟩ := Option.bind_eq_some_iff.mp step
    exact kept.trans (loadMsr12_frame loaded f)
  · exact ⟨rfl, rfl, rfl, rfl, fun _ => rfl, fun _ => rfl⟩

/-- What the entry leaves in `vmcs12_info_t`. -/
structure InfoLeft (arg : VmentryArg ω) (info : Vmcs12Info) : Prop where
  ctls12 : info.ctls12 = vmcs12Ctls arg.vmcs12
  nmiExiting : info.guestNmiExiting = (vmcs12Ctls arg.vmcs12).has .nmiExiting
  virtualNmis : info.guestVirtualNmis = (vmcs12Ctls arg.vmcs12).has .virtualNmis

theorem InfoLeft.frame (left : InfoLeft arg s.info) (frame : Vmentry.Frame f s t) :
    InfoLeft arg t.info :=
  ⟨frame.ctls12.trans left.ctls12, frame.nmiExiting.trans left.nmiExiting,
    frame.virtualNmis.trans left.virtualNmis⟩

theorem vmcs12ToVmcs02_info (entered : vmcs12ToVmcs02 arg s = some (.success, s')) :
    InfoLeft arg s'.info := by
  obtain ⟨mid, pass, loaded⟩ := vmcs12ToVmcs02_pass entered
  refine InfoLeft.frame ?_ (vmentryMsrLoad_frame loaded .controlVpid)
  refine Pass.pass_invariant (I := fun t => InfoLeft arg t.info) ?_ ⟨rfl, rfl, rfl⟩ pass
  intro g _ t t' left step
  exact left.frame (vmcs12ToVmcs02Field_keeps _ _ step)

theorem vmcs12ToVmcs02_overridden (entered : vmcs12ToVmcs02 arg s = some (.success, s')) :
    s'.info.guestVmcsBlockNmiOverridden = false := by
  obtain ⟨mid, pass, loaded⟩ := vmcs12ToVmcs02_pass entered
  rw [(vmentryMsrLoad_frame loaded .controlVpid).overridden]
  refine Pass.pass_establishes
    (Q := fun t => t.info.guestVmcsBlockNmiOverridden = false)
    (show VmcsField.guestInterruptibility ∈ _ by decide) (fun _ _ _ _ _ _ => trivial) ?_ ?_
    trivial pass
  · intro t t' _ step
    change vmcs12ToVmcs02GuestInterruptibility arg t = _ at step
    unfold vmcs12ToVmcs02GuestInterruptibility at step
    dsimp only at step
    split at step
    · cases step
    · next clear =>
      cases step
      exact Bool.eq_false_iff.mpr clear
  · intro g _ _ t t' clear step
    rw [(vmcs12ToVmcs02Field_keeps _ _ step).overridden]
    exact clear

theorem vmcs12ToVmcs02_vpid (single : LruSingle VMX_NESTED_MAX_ACTIVE_VPID s.vpid.cache)
    (entered : vmcs12ToVmcs02 arg s = some (.success, s')) :
    LruSingle VMX_NESTED_MAX_ACTIVE_VPID s'.vpid.cache ∧
      NestedVpid.Held s'.vpid.cache ⟨(vmcs12GetCtls02 s'.vmcs02).has .enableVpid,
        arg.vmcs12 .controlVpid, s'.vmcs02 .controlVpid⟩ := by
  rw [vmcs12ToVmcs02_ctls entered]
  obtain ⟨mid, pass, loaded⟩ := vmcs12ToVmcs02_pass entered
  rw [(vmentryMsrLoad_frame loaded .controlEPTPointer).vpid nofun,
    (vmentryMsrLoad_other loaded).1 .controlVpid (by decide)]
  have lookup : ∀ {t t'}, LruSingle VMX_NESTED_MAX_ACTIVE_VPID t.vpid.cache →
      vmcs12ToVmcs02Field arg (vmcs12Ctls arg.vmcs12) (vmcs12ToVmcs02FlipBits arg.msrBitmap
        (vmcs12Ctls arg.vmcs12)) t .controlVpid = some (.success, t') →
      LruSingle VMX_NESTED_MAX_ACTIVE_VPID t'.vpid.cache ∧
        NestedVpid.Held t'.vpid.cache ⟨(vmcs12ToVmcs02FlipBits arg.msrBitmap
          (vmcs12Ctls arg.vmcs12)).has .enableVpid, arg.vmcs12 .controlVpid,
          t'.vmcs02 .controlVpid⟩ := by
    intro t t' single step
    obtain ⟨⟨valid, vpid02, vpid⟩, found, rest⟩ := Option.bind_eq_some_iff.mp step
    dsimp only at rest
    split at rest
    · next accepted =>
      subst accepted
      cases rest
      refine ⟨(controlVpid_single single found).1, ?_⟩
      have field : (Vmentry.vmwrite { t with vpid := vpid } .controlVpid vpid02).vmcs02
          .controlVpid = vpid02 := Vmentry.vmwrite_self _ .controlVpid vpid02
      rw [field]
      exact controlVpid_held single found
    · cases rest
  refine Pass.pass_establishes
    (I := fun t => LruSingle VMX_NESTED_MAX_ACTIVE_VPID t.vpid.cache)
    (Q := fun t => LruSingle VMX_NESTED_MAX_ACTIVE_VPID t.vpid.cache ∧
      NestedVpid.Held t.vpid.cache ⟨(vmcs12ToVmcs02FlipBits arg.msrBitmap
        (vmcs12Ctls arg.vmcs12)).has .enableVpid, arg.vmcs12 .controlVpid,
        t.vmcs02 .controlVpid⟩)
    (show VmcsField.controlVpid ∈ _ by decide) ?_ (fun t t' single => lookup single) ?_ single pass
  · intro g _ t t' single step
    by_cases here : g = .controlVpid
    · subst here
      exact (lookup single step).1
    · rw [(vmcs12ToVmcs02Field_keeps _ _ step).vpid here]
      exact single
  · intro g _ other t t' left step
    rw [(vmcs12ToVmcs02Field_keeps _ _ step).vpid other,
      (vmcs12ToVmcs02Field_writes g _ _ step).1 .controlVpid other.symm (by decide)]
    exact left

/-- The EPT pointer in VMCS02 is the one of the line used last, or that of EPT01. -/
def Ept02Left (arg : VmentryArg ω) (t : Vmentry ω) : Prop :=
  LruSingle arg.ept02.nlines t.ept02.cache ∧ arg.vmxCaps.has .enableEpt = true ∧
    if (vmcs12Ctls arg.vmcs12).has .enableEpt then
      ∃ i < arg.ept02.nlines, (t.ept02.cache i).valid = 1 ∧
        LiveLine t.ept02.cache i t.info.guestEptRoot (t.vmcs02 .controlEPTPointer)
    else t.vmcs02 .controlEPTPointer = arg.vmcs01 .controlEPTPointer

theorem controlEPTPointer_left (single : LruSingle arg.ept02.nlines s.ept02.cache)
    (step : vmcs12ToVmcs02ControlEPTPointer arg (vmcs12Ctls arg.vmcs12) s =
      some (.success, t)) : Ept02Left arg t := by
  unfold Ept02Left
  unfold vmcs12ToVmcs02ControlEPTPointer at step
  split at step
  · next capable =>
    split at step
    · next enabled =>
      rw [if_pos enabled]
      split at step
      · cases step
      · next ept12 _ =>
        cases step
        have inside : (getEpt02 arg.ept02 s.ept02 ept12).cacheLine < arg.ept02.nlines :=
          (getEpt02_ordered single.ordered).1
        have last : ((getEpt02 arg.ept02 s.ept02 ept12).cache
            (getEpt02 arg.ept02 s.ept02 ept12).cacheLine).valid = 1 := getEpt02_valid
        refine ⟨getEpt02_single single ept12, capable, _, inside, last, ?_, ?_, ?_⟩
        · change ((getEpt02 arg.ept02 s.ept02 ept12).cache _).valid ≠ 0
          rw [last]
          decide
        · change ((getEpt02 arg.ept02 s.ept02 ept12).cache _).key = ept12
          rw [getEpt02_cache]
          exact lruSetFindEvict_used.2
        · exact Vmentry.vmwrite_self _ .controlEPTPointer _
    · next disabled =>
      rw [if_neg disabled]
      obtain ⟨mid, updated, result⟩ := Option.bind_eq_some_iff.mp step
      cases result
      obtain ⟨_, rfl, -⟩ := updatePaePdpte_writes updated
      exact ⟨single, capable, Vmentry.vmwrite_self _ .controlEPTPointer _⟩
  · cases step

theorem vmcs12ToVmcs02_ept02 (single : LruSingle arg.ept02.nlines s.ept02.cache)
    (entered : vmcs12ToVmcs02 arg s = some (.success, s')) : Ept02Left arg s' := by
  obtain ⟨mid, pass, loaded⟩ := vmcs12ToVmcs02_pass entered
  have frame := vmentryMsrLoad_frame loaded .controlVpid
  have kept : ∀ {t t' : Vmentry ω}, t'.ept02 = t.ept02 →
      t'.info.guestEptRoot = t.info.guestEptRoot →
      t'.vmcs02 .controlEPTPointer = t.vmcs02 .controlEPTPointer → Ept02Left arg t →
      Ept02Left arg t' := by
    intro t t' cache root pointer left
    unfold Ept02Left
    rw [cache, root, pointer]
    exact left
  refine kept (vmentryMsrLoad_other loaded).2 (frame.root nofun)
    ((vmentryMsrLoad_other loaded).1 .controlEPTPointer (by decide)) ?_
  refine Pass.pass_establishes
    (I := fun t => LruSingle arg.ept02.nlines t.ept02.cache)
    (show VmcsField.controlEPTPointer ∈ _ by decide) ?_
    (fun t t' single step => controlEPTPointer_left single step) ?_ single pass
  · intro g _ t t' single step
    by_cases here : g = .controlEPTPointer
    · subst here
      exact (controlEPTPointer_left single step).1
    · rw [(vmcs12ToVmcs02Field_writes g _ _ step).2 here]
      exact single
  · intro g _ other t t' left step
    obtain ⟨fields, cache⟩ := vmcs12ToVmcs02Field_writes g _ _ step
    exact kept (cache other) ((vmcs12ToVmcs02Field_keeps _ _ step).root other)
      (fields .controlEPTPointer other.symm (by decide)) left

end

/-! ## The exit -/

theorem fields_index : VmcsField.all.map VmcsField.ctorIdx = List.range 167 := by
  decide +kernel

theorem fields_nodup : VmcsField.all.Nodup := by
  refine List.Nodup.of_map VmcsField.ctorIdx ?_
  rw [fields_index]
  exact List.nodup_range

theorem VmcsField.mem_all (f : VmcsField) : f ∈ VmcsField.all := by
  have below : f.ctorIdx < 167 := by cases f <;> decide
  have listed : f.ctorIdx ∈ VmcsField.all.map VmcsField.ctorIdx := by
    rw [fields_index]
    exact List.mem_range.mpr below
  obtain ⟨g, member, same⟩ := List.mem_map.mp listed
  rw [← f.ofNat_ctorIdx, ← same, g.ofNat_ctorIdx]
  exact member

/-- The kinds of fields without a function of their own. -/
def PlainKind (d : FieldDecl) : Prop :=
  (.idHost ∈ d.prop → .host ∈ d.prop ∧ .guest ∉ d.prop ∧ d.writable = true) ∧
  (.ctrl ∈ d.prop ∨ .unsupp ∈ d.prop → .guest ∉ d.prop ∧ d.writable = true) ∧
  (.host ∈ d.prop → .idGuest ∉ d.prop ∧ .gpaddr ∉ d.prop)

def PlainTranslation (d : FieldDecl) : Prop :=
  (.swwronly ∈ d.prop → .ctrl ∈ d.prop) ∧ (.guest ∈ d.prop → .idGuest ∈ d.prop) ∧
  (.idHost ∈ d.prop ∨ (.idGuest ∈ d.prop ∨ .gpaddr ∈ d.prop) ∨ .unsupp ∈ d.prop ∨
    .ignore ∈ d.prop) ∧
  (.unsupp ∈ d.prop → .ignore ∉ d.prop) ∧ d.bits ≤ 64

instance (d : FieldDecl) : Decidable (PlainKind d) := by
  unfold PlainKind
  infer_instance

instance (d : FieldDecl) : Decidable (PlainTranslation d) := by
  unfold PlainTranslation
  infer_instance

theorem plain_decl {f : VmcsField} (plain : f ∉ ownFields) :
    PlainKind f.decl ∧ PlainTranslation f.decl := by
  have table : ∀ f ∈ VmcsField.all,
      f ∈ ownFields ∨ (PlainKind f.decl ∧ PlainTranslation f.decl) := by
    decide +kernel
  exact (table f f.mem_all).resolve_left plain

theorem not_shared {f : VmcsField} (state : .guest ∉ f.decl.prop) : f ∉ sharedFields := by
  have table : ∀ f ∈ sharedFields, .guest ∈ f.decl.prop := by decide
  exact fun shared => state (table f shared)

variable {start : Vmexit}

section

variable {ω : Type} {arg : VmentryArg ω} {s s' : Vmentry ω} {vmcs02 : Vmcs} {f : VmcsField}

/-- EPT01 maps the addresses in VMCS12 to themselves: "currently assuming spa=gpa". -/
structure Identity (arg : VmentryArg ω) : Prop where
  page : ∀ f, .gpaddr ∈ f.decl.prop → ∀ spa,
    guestmemGpa2spaPage arg.ctx01 arg.mem ((arg.vmcs12 f).setWidth 64) = some spa →
      spa = (arg.vmcs12 f).setWidth 64
  descriptor : ∀ spa, guestmemGpa2spaSize arg.ctx01 arg.mem
    (arg.vmcs12 .controlPostedInterruptDescAddress) 64 = some spa →
      spa = arg.vmcs12 .controlPostedInterruptDescAddress

theorem mem_translated (writable : f.decl.writable = true) : f ∈ vmcs12ToVmcs02Fields :=
  List.mem_filter.mpr ⟨f.mem_all, writable⟩

section

variable (entered : vmcs12ToVmcs02 arg s = some (.success, s'))

include entered

theorem entry_value (same : Identity arg) (plain : f ∉ ownFields) (control : .ctrl ∈ f.decl.prop)
    (guest : .idHost ∉ f.decl.prop) (copied : .idGuest ∈ f.decl.prop ∨ .gpaddr ∈ f.decl.prop)
    (exist : f.decl.exist (vmcs12GetCtls02 s'.vmcs02) = true) : s'.vmcs02 f = arg.vmcs12 f := by
  obtain ⟨⟨-, fixed, -⟩, -, -, -, -, narrow⟩ := plain_decl plain
  obtain ⟨state, writable⟩ := fixed (.inl control)
  obtain ⟨before, after, step, field, -⟩ :=
    vmcs12ToVmcs02_field entered (mem_translated writable) (not_shared state)
  rw [field]
  rw [vmcs12ToVmcs02_ctls entered] at exist
  rw [vmcs12ToVmcs02Field_default plain, if_neg guest, translateByProp, if_pos exist] at step
  split at step
  · cases step
    exact Vmentry.vmwrite_self _ f _
  · next notGuest =>
    rw [if_pos (copied.resolve_left notGuest)] at step
    obtain ⟨spa, found, wrote⟩ := Option.bind_eq_some_iff.mp step
    cases wrote
    have address := same.page f (copied.resolve_left notGuest) _ found
    subst address
    rw [Vmentry.vmwrite_self _ f, BitVec.setWidth_setWidth_of_le _ narrow, BitVec.setWidth_eq]

theorem entry_unsupp (plain : f ∉ ownFields) (guest : .idHost ∉ f.decl.prop)
    (notCopied : ¬ (.idGuest ∈ f.decl.prop ∨ .gpaddr ∈ f.decl.prop))
    (unsupp : .unsupp ∈ f.decl.prop) : f.decl.exist (vmcs12GetCtls02 s'.vmcs02) = false := by
  obtain ⟨⟨-, fixed, -⟩, -, -, -, listed, -⟩ := plain_decl plain
  obtain ⟨state, writable⟩ := fixed (.inr unsupp)
  obtain ⟨before, after, step, -⟩ :=
    vmcs12ToVmcs02_field entered (mem_translated writable) (not_shared state)
  rw [not_or] at notCopied
  have ignored : ¬ (.ignore ∈ f.decl.prop ∨ .idHost ∈ f.decl.prop) :=
    not_or.mpr ⟨listed unsupp, guest⟩
  rw [vmcs12ToVmcs02_ctls entered]
  rw [vmcs12ToVmcs02Field_default plain, if_neg guest, translateByProp, if_neg notCopied.1,
    if_neg notCopied.2, if_neg ignored, if_pos unsupp] at step
  split at step
  · cases step
  · next absent => exact Bool.eq_false_iff.mpr absent

theorem entry_host (plain : f ∉ ownFields) (host : .idHost ∈ f.decl.prop)
    : s'.vmcs02 f = arg.vmcs01 f := by
  obtain ⟨-, state, writable⟩ := (plain_decl plain).1.1 host
  refine vmcs12ToVmcs02_wrote entered (mem_translated writable) (not_shared state) fun before => ?_
  rw [vmcs12ToVmcs02Field_default plain, if_pos host]

end

/-- The exit that follows an entry. The hardware has loaded the host's MSRs from VMCS02. -/
def VmentryArg.exit (arg : VmentryArg ω) (vmcs02 : Vmcs) : VmexitArg where
  vmcs02 := vmcs02
  vmxCaps := arg.vmxCaps
  msrBitmap := arg.msrBitmap
  linAddrBits := arg.linAddrBits
  ept02 := arg.ept02
  vmexitMsrStoreArea := arg.vmexitMsrStoreArea
  vmexitMsrLoadArea := arg.vmexitMsrLoadArea
  vmentryMsrLoadArea := arg.vmentryMsrLoadArea
  perfGlobalCtrl := arg.perfGlobalCtrl.map fun _ => vmcs02 .hostIA32PERFGLOBALCTRL
  pkrs := vmcs02 .hostIA32PKRS

def Vmentry.exit (s : Vmentry ω) (arg : VmentryArg ω) : Vmexit where
  vmcs12 := arg.vmcs12
  vmcs01 := arg.vmcs01
  vpid := s.vpid
  ept02 := s.ept02
  info := s.info
  guestVmcsBlockNmi := false
  hostIa32Pat := 0
  hostIa32Efer := 0

/-- What the step of `f` reads is as at the start of the exit. -/
structure ExitReads (start : Vmexit) (f : VmcsField) (s : Vmexit) : Prop where
  vmcs12 : s.vmcs12 f = start.vmcs12 f
  vmcs01 : ∀ g, .guest ∉ g.decl.prop → s.vmcs01 g = start.vmcs01 g
  vpid : f = .controlVpid → s.vpid = start.vpid
  ept02 : f = .controlEPTPointer → s.ept02 = start.ept02
  overridden : f = .guestInterruptibility →
    s.info.guestVmcsBlockNmiOverridden = start.info.guestVmcsBlockNmiOverridden
  info : s.info = { start.info with
    guestVmcsBlockNmiOverridden := s.info.guestVmcsBlockNmiOverridden }

theorem ExitReads.refl (start : Vmexit) (f : VmcsField) : ExitReads start f start :=
  ⟨rfl, fun _ _ => rfl, fun _ => rfl, fun _ => rfl, fun _ => rfl, rfl⟩

theorem ExitReads.frame {u v : Vmexit} {g : VmcsField} (reads : ExitReads start g u)
    (frame : Vmexit.Frame f u v) (other : g ≠ f) : ExitReads start g v where
  vmcs12 := (frame.vmcs12 g other).trans reads.vmcs12
  vmcs01 h state := (frame.vmcs01 h state).trans (reads.vmcs01 h state)
  vpid here := (frame.vpid (here ▸ other.symm)).trans (reads.vpid here)
  ept02 here := (frame.ept02 (here ▸ other.symm)).trans (reads.ept02 here)
  overridden here := by
    rw [frame.info (here ▸ other.symm)]
    exact reads.overridden here
  info := by
    rw [frame.nmi, reads.info]

/-- The interruptibility state that L1 sees: without virtual NMIs, the blocking of NMIs is the
one that XMHF keeps for L2. -/
def interruptibilityBack (exit : VmexitArg) (start : Vmexit) : U32 :=
  if start.info.guestNmiExiting && !start.info.guestVirtualNmis then
    setBlockNmi (exit.vmcs02 .guestInterruptibility) start.info.guestBlockNmi
  else exit.vmcs02 .guestInterruptibility

structure Restored (exit : VmexitArg) (start : Vmexit) (f : VmcsField) (vmcs12 : Vmcs) : Prop where
  kept : .ctrl ∈ f.decl.prop ∨ .host ∈ f.decl.prop → f ≠ .controlVMEntryControls →
    f ≠ .controlVMEntryInterruptionInformation → vmcs12 f = start.vmcs12 f
  entryControls : f = .controlVMEntryControls →
    vmcs12 .controlVMEntryControls = entryControlsBack exit start
  information : f = .controlVMEntryInterruptionInformation →
    vmcs12 .controlVMEntryInterruptionInformation =
      BitVec.and (start.vmcs12 .controlVMEntryInterruptionInformation) (~~~0x80000000#32)
  copied : .guest ∈ f.decl.prop → f ≠ .guestIA32PAT → f ≠ .guestIA32EFER →
    f ≠ .guestInterruptibility →
    vmcs12 f = if f.decl.exist start.info.ctls12 then exit.vmcs02 f else start.vmcs12 f
  interruptibility : f = .guestInterruptibility →
    vmcs12 .guestInterruptibility = interruptibilityBack exit start

theorem Restored.frame {exit : VmexitArg} {u v : Vmexit} {g : VmcsField}
    (restored : Restored exit start g u.vmcs12) (frame : Vmexit.Frame f u v) (other : g ≠ f) :
    Restored exit start g v.vmcs12 := by
  have same := frame.vmcs12 g other
  refine ⟨fun kind h1 h2 => same.trans (restored.kept kind h1 h2), ?_, ?_,
    fun guest h1 h2 h3 => same.trans (restored.copied guest h1 h2 h3), ?_⟩
  · rintro rfl
    exact same.trans (restored.entryControls rfl)
  · rintro rfl
    exact same.trans (restored.information rfl)
  · rintro rfl
    exact same.trans (restored.interruptibility rfl)

theorem Restored.of_kept {exit : VmexitArg} {vmcs12 : Vmcs} (same : vmcs12 f = start.vmcs12 f)
    (state : .guest ∉ f.decl.prop) (controls : f ≠ .controlVMEntryControls)
    (information : f ≠ .controlVMEntryInterruptionInformation) : Restored exit start f vmcs12 := by
  refine ⟨fun _ _ _ => same, fun here => absurd here controls,
    fun here => absurd here information, fun guest => absurd guest state, ?_⟩
  rintro rfl
  exact absurd (by decide) state

theorem Restored.of_copied {exit : VmexitArg} {vmcs12 : Vmcs}
    (copied : vmcs12 f = if f.decl.exist start.info.ctls12 then exit.vmcs02 f else start.vmcs12 f)
    (guest : .guest ∈ f.decl.prop) (controls : .ctrl ∉ f.decl.prop) (host : .host ∉ f.decl.prop)
    (other : f ≠ .guestInterruptibility) : Restored exit start f vmcs12 := by
  refine ⟨fun kind => absurd kind (not_or.mpr ⟨controls, host⟩), ?_, ?_, fun _ _ _ _ => copied,
    fun here => absurd here other⟩
  · rintro rfl
    exact absurd (by decide) controls
  · rintro rfl
    exact absurd (by decide) controls

theorem asserted_pos [Decidable p] {u : Vmexit} (holds : p) : asserted p u = some u :=
  if_pos holds

theorem exist_flip (plain : f ∉ ownFields) (guest : .guest ∈ f.decl.prop) (msrBitmap : Bool)
    (ctls : VmxCtls) :
    f.decl.exist (vmcs12ToVmcs02FlipBits msrBitmap ctls) = f.decl.exist ctls := by
  have any : ∀ cs : List VmxCtl, (∀ c ∈ cs, ∀ d ∈ flippedCtls, c.position ≠ d.position) →
      hasAny cs (vmcs12ToVmcs02FlipBits msrBitmap ctls) = hasAny cs ctls := by
    intro cs
    induction cs with
    | nil => exact fun _ => rfl
    | cons c cs ih =>
      intro same
      obtain ⟨first, rest⟩ := List.forall_mem_cons.mp same
      change (VmxCtls.has _ c || hasAny cs _) = (VmxCtls.has _ c || hasAny cs _)
      rw [flipBits_has first, ih rest]
  cases f <;> first
    | rfl
    | exact absurd guest (by decide)
    | exact absurd (by decide) plain
    | exact any _ (by decide)

theorem plain_step (entered : vmcs12ToVmcs02 arg s = some (.success, s')) (same : Identity arg)
    (changes : HardwareChanges s'.vmcs02 vmcs02) (plain : f ∉ ownFields) {u : Vmexit}
    (reads : ExitReads (s'.exit arg) f u) :
    ∃ v, vmcs02ToVmcs12Field (arg.exit vmcs02) u f = some v ∧
      Restored (arg.exit vmcs02) (s'.exit arg) f v.vmcs12 := by
  obtain ⟨⟨hostKind, fixed, hostOnly⟩, checked, guestCopied, kinds, -, -⟩ := plain_decl plain
  have controls : f ≠ .controlVMEntryControls := by
    rintro rfl
    exact plain (by decide)
  have information : f ≠ .controlVMEntryInterruptionInformation := by
    rintro rfl
    exact plain (by decide)
  have other : f ≠ .guestInterruptibility := by
    rintro rfl
    exact plain (by decide)
  have exist : f.decl.exist (arg.exit vmcs02).ctls =
      f.decl.exist (vmcs12GetCtls02 s'.vmcs02) := changes.exist f
  have unchanged : .guest ∉ f.decl.prop → Restored (arg.exit vmcs02) (s'.exit arg) f u.vmcs12 :=
    fun state => .of_kept reads.vmcs12 state controls information
  have value : .ctrl ∈ f.decl.prop → .idHost ∉ f.decl.prop →
      (.idGuest ∈ f.decl.prop ∨ .gpaddr ∈ f.decl.prop) →
      f.decl.exist (arg.exit vmcs02).ctls = true → vmcs02 f = arg.vmcs12 f := by
    intro control guest copied exists_
    rw [changes.control f control controls information]
    exact entry_value entered same plain control guest copied (exist ▸ exists_)
  rw [vmcs02ToVmcs12Field_default plain]
  by_cases host : .idHost ∈ f.decl.prop
  · obtain ⟨hostState, state, -⟩ := hostKind host
    have loaded : vmcs02 f = u.vmcs01 f := by
      rw [changes.host f hostState, entry_host entered plain host, reads.vmcs01 f state]
      rfl
    rw [if_pos host, asserted_pos (show (arg.exit vmcs02).vmcs02 f = u.vmcs01 f from loaded)]
    exact ⟨_, rfl, unchanged state⟩
  rw [if_neg host, translateBackByProp]
  by_cases copied : .idGuest ∈ f.decl.prop ∨ .gpaddr ∈ f.decl.prop
  · have notHost : .host ∉ f.decl.prop := by
      intro hostState
      obtain ⟨notGuest, notAddress⟩ := hostOnly hostState
      exact copied.elim notGuest notAddress
    have exist12 : .guest ∈ f.decl.prop →
        f.decl.exist (s'.exit arg).info.ctls12 = f.decl.exist (arg.exit vmcs02).ctls := by
      intro guest
      rw [exist, vmcs12ToVmcs02_ctls entered, exist_flip plain guest]
      exact congrArg f.decl.exist (vmcs12ToVmcs02_info entered).ctls12
    have notControl : .guest ∈ f.decl.prop → .ctrl ∉ f.decl.prop :=
      fun guest control => (fixed (.inl control)).1 guest
    rw [if_pos copied]
    by_cases exists_ : f.decl.exist (arg.exit vmcs02).ctls = true
    · rw [if_pos exists_]
      by_cases swwronly : .swwronly ∈ f.decl.prop
      · -- the assertion that L1's value is the one in VMCS02
        have control := checked swwronly
        have equal : u.vmcs12 f = (arg.exit vmcs02).vmcs02 f :=
          reads.vmcs12.trans (value control host copied exists_).symm
        rw [if_pos swwronly, asserted_pos equal]
        exact ⟨_, rfl, unchanged (fixed (.inl control)).1⟩
      · rw [if_neg swwronly]
        refine ⟨_, rfl, ?_⟩
        have wrote : (u.update f ((arg.exit vmcs02).vmcs02 f)).vmcs12 f = vmcs02 f :=
          Vmcs.vmwrite_self _ f _
        by_cases guest : .guest ∈ f.decl.prop
        · refine .of_copied ?_ guest (notControl guest) notHost other
          rw [exist12 guest, if_pos exists_]
          exact wrote
        · by_cases control : .ctrl ∈ f.decl.prop
          · exact .of_kept (wrote.trans (value control host copied exists_)) guest controls
              information
          · exact ⟨fun kind => absurd kind (not_or.mpr ⟨control, notHost⟩),
              fun here => absurd here controls, fun here => absurd here information,
              fun state => absurd state guest, fun here => absurd here other⟩
    · rw [if_neg exists_]
      refine ⟨u, rfl, ?_⟩
      by_cases guest : .guest ∈ f.decl.prop
      · refine .of_copied ?_ guest (notControl guest) notHost other
        rw [exist12 guest, if_neg exists_]
        exact reads.vmcs12
      · exact unchanged guest
  · have state : .guest ∉ f.decl.prop := fun guest => copied (.inl (guestCopied guest))
    rw [if_neg copied]
    by_cases unsupp : .unsupp ∈ f.decl.prop
    · have absent : f.decl.exist (arg.exit vmcs02).ctls = false :=
        exist.trans (entry_unsupp entered plain host copied unsupp)
      rw [if_pos unsupp, absent, if_neg Bool.false_ne_true]
      exact ⟨u, rfl, unchanged state⟩
    · have ignored : .ignore ∈ f.decl.prop :=
        ((kinds.resolve_left host).resolve_left copied).resolve_left unsupp
      rw [if_neg unsupp, if_pos (.inl ignored)]
      exact ⟨u, rfl, unchanged state⟩

section

variable {u v : Vmexit}

theorem step_kept {exit : VmexitArg} (reads : ExitReads start f u)
    (step : vmcs02ToVmcs12Field exit u f = some v) (vmcs12 : v.vmcs12 = u.vmcs12)
    (plain : .guest ∉ f.decl.prop ∧ f ≠ .controlVMEntryControls ∧
      f ≠ .controlVMEntryInterruptionInformation) :
    ∃ v, vmcs02ToVmcs12Field exit u f = some v ∧ Restored exit start f v.vmcs12 :=
  ⟨v, step, .of_kept ((congrFun vmcs12 f).trans reads.vmcs12) plain.1 plain.2.1 plain.2.2⟩

section

variable (entered : vmcs12ToVmcs02 arg s = some (.success, s'))
  (changes : HardwareChanges s'.vmcs02 vmcs02)

include entered changes

theorem exit_control (translated : f ∈ vmcs12ToVmcs02Fields) (notShared : f ∉ sharedFields)
    (control : .ctrl ∈ f.decl.prop) (controls : f ≠ .controlVMEntryControls)
    (information : f ≠ .controlVMEntryInterruptionInformation) {value : BitVec f.bits}
    (writes : ∀ before, vmcs12ToVmcs02Field arg (vmcs12Ctls arg.vmcs12)
      (vmcs12ToVmcs02FlipBits arg.msrBitmap (vmcs12Ctls arg.vmcs12)) before f = wrote before f
      value)
    : vmcs02 f = value :=
  (changes.control f control controls information).trans
    (vmcs12ToVmcs02_wrote entered translated notShared writes)

theorem exit_msrBitmaps :
    vmcs02 .controlMSRBitmapsAddress = 0xffffffffffffffff#64 := by
  rw [changes.control .controlMSRBitmapsAddress (by decide) nofun nofun]
  obtain ⟨before, after, step, field, -⟩ := vmcs12ToVmcs02_field entered
    (show VmcsField.controlMSRBitmapsAddress ∈ _ by decide) (by decide)
  rw [field]
  change (if _ then none else wrote before .controlMSRBitmapsAddress _) = _ at step
  split at step
  · cases step
  · cases step
    exact Vmentry.vmwrite_self _ .controlMSRBitmapsAddress _

theorem exit_postedInterrupts (same : Identity arg)
    (enabled : (arg.exit vmcs02).ctls.has .processPostedInterrupts = true) :
    arg.vmcs12 .controlPostedInterruptDescAddress =
      vmcs02 .controlPostedInterruptDescAddress := by
  have ctl : (vmcs12GetCtls02 vmcs02).has .processPostedInterrupts = true := enabled
  rw [changes.has (show VmxCtl.processPostedInterrupts ≠ _ from nofun),
    vmcs12ToVmcs02_ctls entered] at ctl
  rw [changes.control .controlPostedInterruptDescAddress (by decide) nofun nofun]
  obtain ⟨before, after, step, field, -⟩ := vmcs12ToVmcs02_field entered
    (show VmcsField.controlPostedInterruptDescAddress ∈ _ by decide) (by decide)
  rw [field]
  unfold vmcs12ToVmcs02Field at step
  dsimp only at step
  rw [if_pos ctl] at step
  split at step
  · cases step
  · obtain ⟨spa, found, wrote⟩ := Option.bind_eq_some_iff.mp step
    cases wrote
    rw [same.descriptor _ found]
    exact (Vmentry.vmwrite_self _ .controlPostedInterruptDescAddress _).symm

theorem exit_vpid (single : LruSingle VMX_NESTED_MAX_ACTIVE_VPID s.vpid.cache)
    (reads : ExitReads (s'.exit arg) .controlVpid u) :
    ∃ v, vmcs02ToVmcs12Field (arg.exit vmcs02) u .controlVpid = some v ∧
      v.vmcs12 = u.vmcs12 := by
  obtain ⟨ok, held⟩ := vmcs12ToVmcs02_vpid single entered
  obtain ⟨vpid, found, -⟩ := (held.finds ok).2
  have enabled : (arg.exit vmcs02).ctls.has .enableVpid =
      (vmcs12GetCtls02 s'.vmcs02).has .enableVpid := changes.has nofun
  have field : (arg.exit vmcs02).vmcs02 .controlVpid = s'.vmcs02 .controlVpid :=
    changes.control .controlVpid (by decide) nofun nofun
  have vpid12 : u.vmcs12 .controlVpid = arg.vmcs12 .controlVpid := reads.vmcs12
  have lookup : vmcs02ToVmcs12ControlVpid (arg.exit vmcs02).linAddrBits u.vpid
      ⟨(arg.exit vmcs02).ctls.has .enableVpid, u.vmcs12 .controlVpid,
        (arg.exit vmcs02).vmcs02 .controlVpid⟩ = some vpid := by
    rw [enabled, vpid12, reads.vpid rfl, field]
    exact found
  exact ⟨{ u with vpid := vpid }, Option.map_eq_some_iff.mpr ⟨vpid, lookup, rfl⟩, rfl⟩

theorem exit_ept02 (lines : 2 ≤ arg.ept02.nlines)
    (single : LruSingle arg.ept02.nlines s.ept02.cache)
    (reads : ExitReads (s'.exit arg) .controlEPTPointer u) :
    ∃ v, vmcs02ToVmcs12Field (arg.exit vmcs02) u .controlEPTPointer = some v ∧
      v.vmcs12 = u.vmcs12 := by
  obtain ⟨ok, capable, pointer⟩ := vmcs12ToVmcs02_ept02 single entered
  have field : vmcs02 .controlEPTPointer = s'.vmcs02 .controlEPTPointer :=
    changes.control .controlEPTPointer (by decide) nofun nofun
  have root : u.info.guestEptRoot = s'.info.guestEptRoot := by
    rw [reads.info]
    rfl
  have ctls12 : u.info.ctls12 = vmcs12Ctls arg.vmcs12 := by
    rw [reads.info]
    exact (vmcs12ToVmcs02_info entered).ctls12
  change ∃ v, vmcs02ToVmcs12ControlEPTPointer (arg.exit vmcs02) u = some v ∧ _
  unfold vmcs02ToVmcs12ControlEPTPointer
  rw [if_pos (show (arg.exit vmcs02).vmxCaps.has .enableEpt = true from capable), ctls12, root,
    reads.ept02 rfl]
  split
  · next enabled =>
    rw [if_pos enabled] at pointer
    obtain ⟨i, inside, last, live⟩ := pointer
    obtain ⟨hit, -, eptp⟩ := L2Cpu.getEpt02_latest lines ok live inside last
    exact ⟨_, asserted_pos ⟨hit, field.trans eptp.symm⟩, rfl⟩
  · next disabled =>
    rw [if_neg disabled] at pointer
    refine ⟨u, asserted_pos ?_, rfl⟩
    rw [reads.vmcs01 .controlEPTPointer (by decide)]
    exact field.trans pointer

omit entered changes in
theorem Vmexit.update_self (s : Vmexit) (f : VmcsField) (value : BitVec f.bits) :
    (s.update f value).vmcs12 f = value := Vmcs.vmwrite_self s.vmcs12 f value

section

variable (same : Identity arg) (lines : 2 ≤ arg.ept02.nlines)
  (single : LruSingle arg.ept02.nlines s.ept02.cache)
  (singleVpid : LruSingle VMX_NESTED_MAX_ACTIVE_VPID s.vpid.cache)

include same lines single singleVpid

theorem own_step (own : f ∈ ownFields) (reads : ExitReads (s'.exit arg) f u) :
    ∃ v, vmcs02ToVmcs12Field (arg.exit vmcs02) u f = some v ∧
      Restored (arg.exit vmcs02) (s'.exit arg) f v.vmcs12 := by
  have ctls12 : u.info.ctls12 = (s'.exit arg).info.ctls12 := by rw [reads.info]
  have count : ∀ g ∈ [VmcsField.controlVMExitMSRStoreCount, .controlVMExitMSRLoadCount,
      .controlVMEntryMSRLoadCount], u.vmcs01 g = vmcs02 g := by
    simp only [List.forall_mem_cons]
    refine ⟨?_, ?_, ?_, List.forall_mem_nil _⟩
    all_goals
      refine (reads.vmcs01 _ (by decide)).trans (Eq.symm ?_)
      refine exit_control entered changes ?_ ?_ ?_ ?_ ?_ fun _ => rfl
      all_goals decide
  -- a guest field that L1's EPT control makes exist
  have pdpte : ∀ {v : Vmexit}, f.decl.exist = hasAny [.enableEpt] → .guest ∈ f.decl.prop →
      .ctrl ∉ f.decl.prop → .host ∉ f.decl.prop → f ≠ .guestInterruptibility →
      v = (if u.info.ctls12.has .enableEpt then u.update f (vmcs02 f) else u) →
      Restored (arg.exit vmcs02) (s'.exit arg) f v.vmcs12 := by
    intro v exist guest control host other result
    refine .of_copied ?_ guest control host other
    have has : f.decl.exist (s'.exit arg).info.ctls12 = u.info.ctls12.has .enableEpt := by
      rw [exist, ctls12]
      exact Bool.or_false _
    rw [has, result]
    split
    · exact Vmcs.vmwrite_self _ f _
    · exact reads.vmcs12
  simp only [ownFields, List.mem_cons, List.not_mem_nil, or_false] at own
  rcases own with rfl | rfl | rfl | rfl | rfl | rfl | rfl | rfl | rfl | rfl | rfl | rfl | rfl |
    rfl | rfl | rfl | rfl | rfl | rfl | rfl | rfl | rfl | rfl | rfl | rfl | rfl | rfl | rfl | rfl
  · obtain ⟨v, step, kept⟩ := exit_vpid entered changes singleVpid reads
    exact step_kept reads step kept (by decide)
  · exact step_kept reads (asserted_pos (exit_msrBitmaps entered changes)) rfl (by decide)
  iterate 3
    · refine step_kept reads (asserted_pos (Eq.symm ?_)) rfl (by decide)
      refine exit_control entered changes ?_ ?_ ?_ ?_ ?_ fun _ => rfl
      all_goals decide
  · by_cases enabled : (arg.exit vmcs02).ctls.has .processPostedInterrupts = true
    · refine step_kept reads ((if_pos enabled).trans (asserted_pos ?_)) rfl (by decide)
      exact reads.vmcs12.trans (exit_postedInterrupts entered changes same enabled)
    · exact step_kept reads (if_neg enabled) rfl (by decide)
  · obtain ⟨v, step, kept⟩ := exit_ept02 entered changes lines single reads
    exact step_kept reads step kept (by decide)
  -- guest PAT and EFER, of which nothing is said
  · exact ⟨_, (apply_ite some _ _ _).symm, fun kind => absurd kind (by decide), nofun, nofun,
      fun _ other => absurd rfl other, nofun⟩
  · exact ⟨_, (apply_ite some _ _ _).symm, fun kind => absurd kind (by decide), nofun, nofun,
      fun _ _ other => absurd rfl other, nofun⟩
  iterate 4
    exact ⟨_, (apply_ite some _ _ _).symm, pdpte rfl (by decide) (by decide) (by decide) nofun rfl⟩
  iterate 2 exact step_kept reads rfl rfl (by decide)
  · have step : vmcs02ToVmcs12Field (arg.exit vmcs02) u .hostIA32PERFGLOBALCTRL = some u := by
      have value : (arg.exit vmcs02).perfGlobalCtrl = none ∨
          (arg.exit vmcs02).perfGlobalCtrl = some (vmcs02 .hostIA32PERFGLOBALCTRL) := by
        unfold VmentryArg.exit
        cases arg.perfGlobalCtrl with
        | none => exact .inl rfl
        | some _ => exact .inr rfl
      unfold vmcs02ToVmcs12Field
      dsimp only
      rcases value with value | value
      · rw [value]
      · rw [value]
        dsimp only
        split
        · exact asserted_pos rfl
        · rfl
    exact step_kept reads step rfl (by decide)
  · have step : vmcs02ToVmcs12Field (arg.exit vmcs02) u .hostIA32PKRS = some u := by
      unfold vmcs02ToVmcs12Field
      dsimp only
      split
      · exact asserted_pos rfl
      · rfl
    exact step_kept reads step rfl (by decide)
  iterate 4 exact step_kept reads rfl rfl (by decide)
  iterate 2
    exact step_kept reads (asserted_pos (count _ (by decide))) rfl (by decide)
  · refine ⟨_, rfl, fun _ other => absurd rfl other, fun _ => ?_, nofun,
      fun guest => absurd guest (by decide), nofun⟩
    have field : entryControlsBack (arg.exit vmcs02) u =
        entryControlsBack (arg.exit vmcs02) (s'.exit arg) := by
      unfold entryControlsBack
      rw [reads.vmcs12]
    exact (Vmexit.update_self u .controlVMEntryControls _).trans field
  · exact step_kept reads (asserted_pos (count _ (by decide))) rfl (by decide)
  · refine ⟨_, rfl, fun _ _ other => absurd rfl other, nofun, fun _ => ?_,
      fun guest => absurd guest (by decide), nofun⟩
    rw [← reads.vmcs12]
    exact Vmexit.update_self u .controlVMEntryInterruptionInformation _
  iterate 2 exact step_kept reads rfl rfl (by decide)
  · refine ⟨_, rfl, fun kind => absurd kind (by decide), nofun, nofun,
      fun _ _ _ other => absurd rfl other, fun _ => ?_⟩
    have clear : u.info.guestVmcsBlockNmiOverridden = false :=
      (reads.overridden rfl).trans (vmcs12ToVmcs02_overridden entered)
    have exiting : u.info.guestNmiExiting = s'.info.guestNmiExiting := by
      rw [reads.info]
      rfl
    have virtual : u.info.guestVirtualNmis = s'.info.guestVirtualNmis := by
      rw [reads.info]
      rfl
    have block : u.info.guestBlockNmi = s'.info.guestBlockNmi := by
      rw [reads.info]
      rfl
    refine (Vmcs.vmwrite_self u.vmcs12 .guestInterruptibility _).trans ?_
    rw [clear, exiting, virtual, block, if_neg Bool.false_ne_true]
    rfl

theorem exit_restored :
    ∃ t, vmcs02ToVmcs12 (arg.exit vmcs02) (s'.exit arg) = some t ∧
      ∀ f, Restored (arg.exit vmcs02) (s'.exit arg) f t.vmcs12 := by
  have words : vmcs02ToVmcs12Ctls (arg.exit vmcs02) (s'.exit arg).info.ctls12 = true := by
    have flipped : vmcs12ToVmcs02FlipBits arg.msrBitmap (s'.exit arg).info.ctls12 =
        vmcs12GetCtls02 s'.vmcs02 := by
      rw [vmcs12ToVmcs02_ctls entered]
      exact congrArg _ (vmcs12ToVmcs02_info entered).ctls12
    refine List.all_eq_true.mpr fun word _ => beq_iff_eq.mpr ?_
    refine (changes.fixed word).trans ?_
    rw [← flipped]
    rfl
  obtain ⟨t, run, restored⟩ := Pass.foldlM_each
    (Q := fun f u => Restored (arg.exit vmcs02) (s'.exit arg) f u.vmcs12) fields_nodup
    (fun f _ u reads => by
      by_cases own : f ∈ ownFields
      · exact own_step entered changes same lines single singleVpid own reads
      · exact plain_step entered same changes own reads)
    (fun f g u v other step reads => reads.frame (vmcs02ToVmcs12Field_frame step) other)
    (fun f g u v other step restored => restored.frame (vmcs02ToVmcs12Field_frame step) other)
    (fun f _ => ExitReads.refl (s'.exit arg) f)
  refine ⟨t, ?_, fun f => restored f f.mem_all⟩
  unfold vmcs02ToVmcs12
  rw [if_pos words]
  exact run

end

end

theorem getLsbD_modeBit (i : Nat) : (0x200#32).getLsbD i = decide (i = 9) := by
  have shifted : 0x200#32 = 1#32 <<< 9 := by decide
  rw [shifted]
  exact VmxCtls.getLsbD_one_shiftLeft (by decide) i

theorem getLsbD_entryControlsBack (exit : VmexitArg) (start : Vmexit) {i : Nat} (small : i < 32) :
    (entryControlsBack exit start).getLsbD i =
      if i = 9 then BitVec.getLsbD (exit.vmcs02 .controlVMEntryControls) 9
      else BitVec.getLsbD (start.vmcs12 .controlVMEntryControls) i := by
  have mask : (0x200#32).getLsbD i = decide (i = 9) := getLsbD_modeBit i
  have mode : exit.ctls.has .vmentryIa32eModeGuest =
      BitVec.getLsbD (exit.vmcs02 .controlVMEntryControls) 9 := rfl
  unfold entryControlsBack
  dsimp only
  rw [mode]
  split
  · next set =>
    rw [BitVec.getLsbD_or, mask, set]
    by_cases here : i = 9 <;> simp [here]
  · next clear =>
    rw [BitVec.getLsbD_and, BitVec.getLsbD_not, mask, Bool.eq_false_iff.mpr clear]
    by_cases here : i = 9
    · simp [here]
    · simp [here, small]

end

/-- After an entry that L1 gets through and a run in which the hardware changes what it may, the
exit passes its checks. L1's control and host fields stay, except that "IA-32e mode guest" is that
of L2 and the interruption information is no longer valid. The guest fields that L1's controls
make exist are the hardware's, except `IA32_PAT` and `IA32_EFER`, which the source takes from the
MSR area that is loaded at entries; without virtual NMIs the blocking of NMIs is the one that XMHF
keeps. -/
theorem exit_restores_vmcs12 (entered : vmcs12ToVmcs02 arg s = some (.success, s'))
    (same : Identity arg) (lines : 2 ≤ arg.ept02.nlines)
    (single : LruSingle arg.ept02.nlines s.ept02.cache)
    (singleVpid : LruSingle VMX_NESTED_MAX_ACTIVE_VPID s.vpid.cache)
    (changes : HardwareChanges s'.vmcs02 vmcs02) :
    ∃ t, vmcs02ToVmcs12 (arg.exit vmcs02) (s'.exit arg) = some t ∧
      (∀ f, .ctrl ∈ f.decl.prop ∨ .host ∈ f.decl.prop → f ≠ .controlVMEntryControls →
        f ≠ .controlVMEntryInterruptionInformation → t.vmcs12 f = arg.vmcs12 f) ∧
      (∀ i < 32, BitVec.getLsbD (t.vmcs12 .controlVMEntryControls) i =
        if i = 9 then BitVec.getLsbD (vmcs02 .controlVMEntryControls) 9
        else BitVec.getLsbD (arg.vmcs12 .controlVMEntryControls) i) ∧
      t.vmcs12 .controlVMEntryInterruptionInformation =
        BitVec.and (arg.vmcs12 .controlVMEntryInterruptionInformation) (~~~0x80000000#32) ∧
      (∀ f, .guest ∈ f.decl.prop → f ≠ .guestIA32PAT → f ≠ .guestIA32EFER →
        f ≠ .guestInterruptibility → t.vmcs12 f =
          if f.decl.exist (vmcs12Ctls arg.vmcs12) then vmcs02 f else arg.vmcs12 f) ∧
      t.vmcs12 .guestInterruptibility =
        if (vmcs12Ctls arg.vmcs12).has .nmiExiting && !(vmcs12Ctls arg.vmcs12).has .virtualNmis
        then setBlockNmi (vmcs02 .guestInterruptibility) s'.info.guestBlockNmi
        else vmcs02 .guestInterruptibility := by
  obtain ⟨t, run, restored⟩ := exit_restored entered changes same lines single singleVpid
  have left := vmcs12ToVmcs02_info entered
  refine ⟨t, run, fun f => (restored f).kept, fun i small => ?_,
    (restored .controlVMEntryInterruptionInformation).information rfl,
    fun f guest pat efer other => ?_, ?_⟩
  · rw [(restored .controlVMEntryControls).entryControls rfl]
    exact getLsbD_entryControlsBack (arg.exit vmcs02) (s'.exit arg) small
  · rw [← left.ctls12]
    exact (restored f).copied guest pat efer other
  · rw [← left.nmiExiting, ← left.virtualNmis]
    exact (restored .guestInterruptibility).interruptibility rfl

end

/-! ### An entry and its exit -/

theorem sampleVmentry_identity : Identity (sampleVmentryArg sampleVmcs12 7#64) := by
  have table : ∀ f ∈ VmcsField.all, .gpaddr ∈ f.decl.prop →
      (guestmemGpa2spaPage (sampleVmentryArg sampleVmcs12 7#64).ctx01
        (sampleVmentryArg sampleVmcs12 7#64).mem ((sampleVmcs12 f).setWidth 64)).all
          (fun spa => spa == (sampleVmcs12 f).setWidth 64) = true := by
    decide +kernel
  have descriptor : (guestmemGpa2spaSize (sampleVmentryArg sampleVmcs12 7#64).ctx01
      (sampleVmentryArg sampleVmcs12 7#64).mem
      (sampleVmcs12 .controlPostedInterruptDescAddress) 64).all
        (fun spa => spa == sampleVmcs12 .controlPostedInterruptDescAddress) = true := by
    decide +kernel
  refine ⟨fun f address spa found => ?_, fun spa found => ?_⟩
  · have checked := table f f.mem_all address
    change guestmemGpa2spaPage _ _ ((sampleVmcs12 f).setWidth 64) = some spa at found
    rw [found] at checked
    exact beq_iff_eq.mp checked
  · change guestmemGpa2spaSize _ _ (sampleVmcs12 .controlPostedInterruptDescAddress) 64 =
      some spa at found
    rw [found] at descriptor
    exact beq_iff_eq.mp descriptor

theorem sampleVmentry_single :
    LruSingle (sampleVmentryArg sampleVmcs12 7#64).ept02.nlines sampleVmentry.ept02.cache :=
  .invalidateAll _ _

theorem sampleVmentry_singleVpid :
    LruSingle VMX_NESTED_MAX_ACTIVE_VPID sampleVmentry.vpid.cache :=
  ⟨⟨fun _ _ => Nat.zero_le _, fun _ _ _ _ live => absurd rfl live⟩,
    fun _ _ _ _ _ hits => absurd rfl hits.1⟩

theorem exit_restores_vmcs12_sample :
    ∃ s' t, vmcs12ToVmcs02 (sampleVmentryArg sampleVmcs12 7#64) sampleVmentry =
        some (.success, s') ∧
      vmcs02ToVmcs12 ((sampleVmentryArg sampleVmcs12 7#64).exit
        (s'.vmcs02.vmwrite .guestRIP 0x1234#64)) (s'.exit (sampleVmentryArg sampleVmcs12 7#64)) =
          some t ∧ t.vmcs12 .guestRIP = 0x1234#64 := by
  obtain ⟨s', entered⟩ := sampleVmentry_enters (.inl rfl)
  have kept : ∀ f, .guest ∉ f.decl.prop →
      s'.vmcs02.vmwrite .guestRIP 0x1234#64 f = s'.vmcs02 f := by
    intro f state
    refine Vmcs.vmwrite_other ?_ _ _
    rintro rfl
    exact state (by decide)
  have changes : HardwareChanges s'.vmcs02 (s'.vmcs02.vmwrite .guestRIP 0x1234#64) := by
    refine ⟨fun f control _ _ => ?_, fun f host => ?_, fun i _ => ?_, fun i _ => ?_⟩
    · refine Vmcs.vmwrite_other ?_ _ _
      rintro rfl
      exact absurd control (by decide)
    · refine Vmcs.vmwrite_other ?_ _ _
      rintro rfl
      exact absurd host (by decide)
    · rw [kept .controlVMEntryControls (by decide)]
    · rw [kept .controlVMEntryInterruptionInformation (by decide)]
  obtain ⟨t, run, -, -, -, copied, -⟩ := exit_restores_vmcs12 entered sampleVmentry_identity
    (by decide) sampleVmentry_single sampleVmentry_singleVpid changes
  refine ⟨s', t, entered, run, ?_⟩
  have rip := copied .guestRIP (by decide) nofun nofun nofun
  exact rip.trans (Vmcs.vmwrite_self s'.vmcs02 .guestRIP 0x1234#64)

/-- L2 enters IA-32e mode, and the VM-entry controls are no longer those that L1 wrote. -/
theorem exit_changes_entry_controls :
    ∃ s' vmcs02 t, vmcs12ToVmcs02 (sampleVmentryArg sampleVmcs12 7#64) sampleVmentry =
        some (.success, s') ∧ HardwareChanges s'.vmcs02 vmcs02 ∧
      vmcs02ToVmcs12 ((sampleVmentryArg sampleVmcs12 7#64).exit vmcs02)
        (s'.exit (sampleVmentryArg sampleVmcs12 7#64)) = some t ∧
      t.vmcs12 .controlVMEntryControls ≠ sampleVmcs12 .controlVMEntryControls := by
  obtain ⟨s', entered⟩ := sampleVmentry_enters (.inl rfl)
  let controls : U32 := BitVec.or (s'.vmcs02 .controlVMEntryControls) 0x200#32
  have bits : ∀ i, controls.getLsbD i =
      (BitVec.getLsbD (s'.vmcs02 .controlVMEntryControls) i || decide (i = 9)) := by
    intro i
    rw [← getLsbD_modeBit i]
    exact BitVec.getLsbD_or
  have written : s'.vmcs02.vmwrite .controlVMEntryControls controls .controlVMEntryControls =
      controls := Vmcs.vmwrite_self s'.vmcs02 .controlVMEntryControls controls
  have changes : HardwareChanges s'.vmcs02
      (s'.vmcs02.vmwrite .controlVMEntryControls controls) := by
    refine ⟨fun f _ other _ => Vmcs.vmwrite_other other _ _, fun f host => ?_, fun i other => ?_,
      fun i _ => ?_⟩
    · refine Vmcs.vmwrite_other ?_ _ _
      rintro rfl
      exact absurd host (by decide)
    · rw [written, bits, decide_eq_false other, Bool.or_false]
    · rw [Vmcs.vmwrite_other (show VmcsField.controlVMEntryInterruptionInformation ≠
        .controlVMEntryControls from nofun)]
  obtain ⟨t, run, restored⟩ := exit_restored entered changes sampleVmentry_identity
    (by decide) sampleVmentry_single sampleVmentry_singleVpid
  refine ⟨s', _, t, entered, changes, run, fun unchanged => ?_⟩
  have back := (restored .controlVMEntryControls).entryControls rfl
  have mode := getLsbD_entryControlsBack ((sampleVmentryArg sampleVmcs12 7#64).exit
    (s'.vmcs02.vmwrite .controlVMEntryControls controls))
    (s'.exit (sampleVmentryArg sampleVmcs12 7#64)) (show 9 < 32 by decide)
  rw [← back, unchanged, if_pos rfl] at mode
  have set : BitVec.getLsbD (sampleVmcs12 .controlVMEntryControls) 9 = true := by
    refine mode.trans ?_
    change BitVec.getLsbD (s'.vmcs02.vmwrite .controlVMEntryControls controls
      .controlVMEntryControls) 9 = true
    rw [written, bits, decide_eq_true rfl, Bool.or_true]
  exact absurd set (by decide)

end Xmhf
