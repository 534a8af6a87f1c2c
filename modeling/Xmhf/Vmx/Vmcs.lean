import Xmhf.Vmx.Ctls

/-!
# VMCS fields

The fields of a VMCS as `nested-x86vmx-vmcs12-fields.h` declares them: encoding,
width, whether `VMWRITE` may write the field, the properties that say how it is
translated between VMCS12 and VMCS02, and the controls under which it exists. A
VMCS gives each field a value of its width. Natural width is 64 bits, and the
fields that depend on the debugging build for QEMU exist.
-/

namespace Xmhf

/-- The `FIELD_PROP_*` flags. -/
inductive FieldProp where
  | guest
  | host
  | ctrl
  | ro
  | idGuest
  | gpaddr
  | idHost
  | ignore
  | unsupp
  | swwronly
  deriving DecidableEq, Repr

/-- The arguments of `DECLARE_FIELD_*` and the parts of its name. -/
structure FieldDecl where
  bits : Nat
  writable : Bool
  encoding : Nat
  prop : List FieldProp
  exist : VmxCtls → Bool

def always (_ : VmxCtls) : Bool := true

namespace FieldDecl

variable (encoding : Nat) (prop : List FieldProp) (exist : VmxCtls → Bool := always)

abbrev rw16 : FieldDecl := ⟨16, true, encoding, prop, exist⟩

abbrev rw64 : FieldDecl := ⟨64, true, encoding, prop, exist⟩

abbrev ro64 : FieldDecl := ⟨64, false, encoding, prop, exist⟩

abbrev rw32 : FieldDecl := ⟨32, true, encoding, prop, exist⟩

abbrev ro32 : FieldDecl := ⟨32, false, encoding, prop, exist⟩

abbrev rwNw : FieldDecl := ⟨64, true, encoding, prop, exist⟩

abbrev roNw : FieldDecl := ⟨64, false, encoding, prop, exist⟩

end FieldDecl

def never (_ : VmxCtls) : Bool := false

def hasAny (cs : List VmxCtl) (ctls : VmxCtls) : Bool := cs.any fun c => ctls.has c

inductive VmcsField where
  | controlVpid
  | controlPostInterruptNotificationVec
  | controlEptpIndex
  | guestESSelector
  | guestCSSelector
  | guestSSSelector
  | guestDSSelector
  | guestFSSelector
  | guestGSSelector
  | guestLDTRSelector
  | guestTRSelector
  | guestInterruptStatus
  | guestPMLIndex
  | hostESSelector
  | hostCSSelector
  | hostSSSelector
  | hostDSSelector
  | hostFSSelector
  | hostGSSelector
  | hostTRSelector
  | controlIOBitmapAAddress
  | controlIOBitmapBAddress
  | controlMSRBitmapsAddress
  | controlVMExitMSRStoreAddress
  | controlVMExitMSRLoadAddress
  | controlVMEntryMSRLoadAddress
  | controlExecutiveVMCSPointer
  | controlPMLAddress
  | controlTSCOffset
  | controlVirtualAPICAddress
  | controlAPICAccessAddress
  | controlPostedInterruptDescAddress
  | controlVMFunctionControls
  | controlEPTPointer
  | controlEOIExitBitmap0
  | controlEOIExitBitmap1
  | controlEOIExitBitmap2
  | controlEOIExitBitmap3
  | controlEPTPListAddress
  | controlVMREADBitmapAddress
  | controlVMWRITEBitmapAddress
  | controlVirtExceptionInfoAddress
  | controlXSSExitingBitmap
  | controlENCLSExitingBitmap
  | controlSubpagePermissionTablePointer
  | controlTSCMultiplier
  | controlTertiaryProcBasedVMexecCtls
  | controlENCLVExitingBitmap
  | guestPaddr
  | guestVMCSLinkPointer
  | guestIA32DEBUGCTL
  | guestIA32PAT
  | guestIA32EFER
  | guestIA32PERFGLOBALCTRL
  | guestPDPTE0
  | guestPDPTE1
  | guestPDPTE2
  | guestPDPTE3
  | guestIA32BNDCFGS
  | guestIA32RTITCTL
  | guestIA32PKRS
  | hostIA32PAT
  | hostIA32EFER
  | hostIA32PERFGLOBALCTRL
  | hostIA32PKRS
  | controlVMXPinBased
  | controlVMXCpuBased
  | controlExceptionBitmap
  | controlPagefaultErrorcodeMask
  | controlPagefaultErrorcodeMatch
  | controlCR3TargetCount
  | controlVMExitControls
  | controlVMExitMSRStoreCount
  | controlVMExitMSRLoadCount
  | controlVMEntryControls
  | controlVMEntryMSRLoadCount
  | controlVMEntryInterruptionInformation
  | controlVMEntryExceptionErrorcode
  | controlVMEntryInstructionLength
  | controlTaskPRivilegeThreshold
  | controlVMXSeccpuBased
  | controlPLEGap
  | controlPLEWindow
  | infoVminstrError
  | infoVmexitReason
  | infoVmexitInterruptInformation
  | infoVmexitInterruptErrorCode
  | infoIDTVectoringInformation
  | infoIDTVectoringErrorCode
  | infoVmexitInstructionLength
  | infoVmxInstructionInformation
  | guestESLimit
  | guestCSLimit
  | guestSSLimit
  | guestDSLimit
  | guestFSLimit
  | guestGSLimit
  | guestLDTRLimit
  | guestTRLimit
  | guestGDTRLimit
  | guestIDTRLimit
  | guestESAccessRights
  | guestCSAccessRights
  | guestSSAccessRights
  | guestDSAccessRights
  | guestFSAccessRights
  | guestGSAccessRights
  | guestLDTRAccessRights
  | guestTRAccessRights
  | guestInterruptibility
  | guestActivityState
  | guestSMBASE
  | guestSYSENTERCS
  | guestVMXPreemptionTimerValue
  | hostSYSENTERCS
  | controlCR0Mask
  | controlCR4Mask
  | controlCR0Shadow
  | controlCR4Shadow
  | controlCR3Target0
  | controlCR3Target1
  | controlCR3Target2
  | controlCR3Target3
  | infoExitQualification
  | infoIORCX
  | infoIORSI
  | infoIORDI
  | infoIORIP
  | infoGuestLinearAddress
  | guestCR0
  | guestCR3
  | guestCR4
  | guestESBase
  | guestCSBase
  | guestSSBase
  | guestDSBase
  | guestFSBase
  | guestGSBase
  | guestLDTRBase
  | guestTRBase
  | guestGDTRBase
  | guestIDTRBase
  | guestDR7
  | guestRSP
  | guestRIP
  | guestRFLAGS
  | guestPendingDebugX
  | guestSYSENTERESP
  | guestSYSENTEREIP
  | guestIA32SCET
  | guestSSP
  | guestIA32INTERRUPTSSPTABLEADDR
  | hostCR0
  | hostCR3
  | hostCR4
  | hostFSBase
  | hostGSBase
  | hostTRBase
  | hostGDTRBase
  | hostIDTRBase
  | hostSYSENTERESP
  | hostSYSENTEREIP
  | hostRSP
  | hostRIP
  | hostIA32SCET
  | hostSSP
  | hostIA32INTERRUPTSSPTABLEADDR
  deriving DecidableEq, Repr

namespace VmcsField

abbrev decl : VmcsField → FieldDecl
  | .controlVpid => .rw16 0x0000 [.ctrl] (hasAny [.enableVpid])
  | .controlPostInterruptNotificationVec =>
    .rw16 0x0002 [.ctrl, .idGuest, .swwronly] (hasAny [.processPostedInterrupts])
  | .controlEptpIndex => .rw16 0x0004 [.ctrl, .idGuest] (hasAny [.eptViolationVe])
  | .guestESSelector => .rw16 0x0800 [.guest, .idGuest]
  | .guestCSSelector => .rw16 0x0802 [.guest, .idGuest]
  | .guestSSSelector => .rw16 0x0804 [.guest, .idGuest]
  | .guestDSSelector => .rw16 0x0806 [.guest, .idGuest]
  | .guestFSSelector => .rw16 0x0808 [.guest, .idGuest]
  | .guestGSSelector => .rw16 0x080a [.guest, .idGuest]
  | .guestLDTRSelector => .rw16 0x080c [.guest, .idGuest]
  | .guestTRSelector => .rw16 0x080e [.guest, .idGuest]
  | .guestInterruptStatus => .rw16 0x0810 [.guest, .idGuest] (hasAny [.virtualInterruptDelivery])
  | .guestPMLIndex => .rw16 0x0812 [.guest, .idGuest] (hasAny [.enablePml])
  | .hostESSelector => .rw16 0x0c00 [.host, .idHost]
  | .hostCSSelector => .rw16 0x0c02 [.host, .idHost]
  | .hostSSSelector => .rw16 0x0c04 [.host, .idHost]
  | .hostDSSelector => .rw16 0x0c06 [.host, .idHost]
  | .hostFSSelector => .rw16 0x0c08 [.host, .idHost]
  | .hostGSSelector => .rw16 0x0c0a [.host, .idHost]
  | .hostTRSelector => .rw16 0x0c0c [.host, .idHost]
  | .controlIOBitmapAAddress => .rw64 0x2000 [.ctrl, .gpaddr, .swwronly] (hasAny [.useIoBitmaps])
  | .controlIOBitmapBAddress => .rw64 0x2002 [.ctrl, .gpaddr, .swwronly] (hasAny [.useIoBitmaps])
  | .controlMSRBitmapsAddress => .rw64 0x2004 [.ctrl] (hasAny [.useMsrBitmaps])
  | .controlVMExitMSRStoreAddress => .rw64 0x2006 [.ctrl]
  | .controlVMExitMSRLoadAddress => .rw64 0x2008 [.ctrl]
  | .controlVMEntryMSRLoadAddress => .rw64 0x200a [.ctrl]
  | .controlExecutiveVMCSPointer => .rw64 0x200c [.ctrl, .ignore]
  | .controlPMLAddress => .rw64 0x200e [.ctrl, .gpaddr, .swwronly] (hasAny [.enablePml])
  | .controlTSCOffset => .rw64 0x2010 [.ctrl, .idGuest, .swwronly]
  | .controlVirtualAPICAddress => .rw64 0x2012 [.ctrl, .gpaddr, .swwronly] (hasAny [.useTprShadow])
  | .controlAPICAccessAddress =>
    .rw64 0x2014 [.ctrl, .gpaddr, .swwronly] (hasAny [.virtualizeApicAccess])
  | .controlPostedInterruptDescAddress => .rw64 0x2016 [.ctrl] (hasAny [.processPostedInterrupts])
  | .controlVMFunctionControls =>
    .rw64 0x2018 [.ctrl, .gpaddr, .swwronly] (hasAny [.enableVmFunctions])
  | .controlEPTPointer => .rw64 0x201a [.ctrl] (hasAny [.enableEpt])
  | .controlEOIExitBitmap0 =>
    .rw64 0x201c [.ctrl, .idGuest, .swwronly] (hasAny [.virtualInterruptDelivery])
  | .controlEOIExitBitmap1 =>
    .rw64 0x201e [.ctrl, .idGuest, .swwronly] (hasAny [.virtualInterruptDelivery])
  | .controlEOIExitBitmap2 =>
    .rw64 0x2020 [.ctrl, .idGuest, .swwronly] (hasAny [.virtualInterruptDelivery])
  | .controlEOIExitBitmap3 =>
    .rw64 0x2022 [.ctrl, .idGuest, .swwronly] (hasAny [.virtualInterruptDelivery])
  | .controlEPTPListAddress => .rw64 0x2024 [.ctrl, .unsupp] never
  | .controlVMREADBitmapAddress =>
    .rw64 0x2026 [.ctrl, .gpaddr, .swwronly] (hasAny [.vmcsShadowing])
  | .controlVMWRITEBitmapAddress =>
    .rw64 0x2028 [.ctrl, .gpaddr, .swwronly] (hasAny [.vmcsShadowing])
  | .controlVirtExceptionInfoAddress =>
    .rw64 0x202a [.ctrl, .gpaddr, .swwronly] (hasAny [.eptViolationVe])
  | .controlXSSExitingBitmap =>
    .rw64 0x202c [.ctrl, .idGuest, .swwronly] (hasAny [.enableXsavesXrstors])
  | .controlENCLSExitingBitmap =>
    .rw64 0x202e [.ctrl, .idGuest, .swwronly] (hasAny [.enableEnclsExiting])
  | .controlSubpagePermissionTablePointer =>
    .rw64 0x2030 [.ctrl, .unsupp] (hasAny [.subPageWritePermissionsForEpt])
  | .controlTSCMultiplier => .rw64 0x2032 [.ctrl, .idGuest, .swwronly] (hasAny [.useTscScaling])
  | .controlTertiaryProcBasedVMexecCtls =>
    .rw64 0x2034 [.ctrl, .unsupp] (hasAny [.activateTertiaryControls])
  | .controlENCLVExitingBitmap =>
    .rw64 0x2036 [.ctrl, .idGuest, .swwronly] (hasAny [.enableEnclvExiting])
  | .guestPaddr => .ro64 0x2400 [.ro, .idGuest] (hasAny [.enableEpt])
  | .guestVMCSLinkPointer => .rw64 0x2800 [.guest, .idGuest]
  | .guestIA32DEBUGCTL => .rw64 0x2802 [.guest, .idGuest]
  | .guestIA32PAT => .rw64 0x2804 [.guest] (hasAny [.vmexitSaveIa32Pat, .vmentryLoadIa32Pat])
  | .guestIA32EFER => .rw64 0x2806 [.guest] (hasAny [.vmexitSaveIa32Efer, .vmentryLoadIa32Efer])
  | .guestIA32PERFGLOBALCTRL =>
    .rw64 0x2808 [.guest, .idGuest] (hasAny [.vmentryLoadIa32PerfGlobalCtrl])
  | .guestPDPTE0 => .rw64 0x280a [.guest] (hasAny [.enableEpt])
  | .guestPDPTE1 => .rw64 0x280c [.guest] (hasAny [.enableEpt])
  | .guestPDPTE2 => .rw64 0x280e [.guest] (hasAny [.enableEpt])
  | .guestPDPTE3 => .rw64 0x2810 [.guest] (hasAny [.enableEpt])
  | .guestIA32BNDCFGS =>
    .rw64 0x2812 [.guest, .idGuest] (hasAny [.vmexitClearIa32Bndcfgs, .vmentryLoadIa32Bndcfgs])
  | .guestIA32RTITCTL =>
    .rw64 0x2814 [.guest, .idGuest] (hasAny [.vmexitClearIa32RtitCtl, .vmentryLoadIa32RtitCtl])
  | .guestIA32PKRS => .rw64 0x2818 [.guest, .idGuest] (hasAny [.vmentryLoadPkrs])
  | .hostIA32PAT => .rw64 0x2c00 [.host] (hasAny [.vmexitLoadIa32Pat])
  | .hostIA32EFER => .rw64 0x2c02 [.host] (hasAny [.vmexitLoadIa32Efer])
  | .hostIA32PERFGLOBALCTRL => .rw64 0x2c04 [.host] (hasAny [.vmexitLoadIa32PerfGlobalCtrl])
  | .hostIA32PKRS => .rw64 0x2c06 [.host] (hasAny [.vmexitLoadPkrs])
  | .controlVMXPinBased => .rw32 0x4000 [.ctrl]
  | .controlVMXCpuBased => .rw32 0x4002 [.ctrl]
  | .controlExceptionBitmap => .rw32 0x4004 [.ctrl, .idGuest, .swwronly]
  | .controlPagefaultErrorcodeMask => .rw32 0x4006 [.ctrl, .idGuest, .swwronly]
  | .controlPagefaultErrorcodeMatch => .rw32 0x4008 [.ctrl, .idGuest, .swwronly]
  | .controlCR3TargetCount => .rw32 0x400a [.ctrl, .idGuest, .swwronly]
  | .controlVMExitControls => .rw32 0x400c [.ctrl]
  | .controlVMExitMSRStoreCount => .rw32 0x400e [.ctrl]
  | .controlVMExitMSRLoadCount => .rw32 0x4010 [.ctrl]
  | .controlVMEntryControls => .rw32 0x4012 [.ctrl]
  | .controlVMEntryMSRLoadCount => .rw32 0x4014 [.ctrl]
  | .controlVMEntryInterruptionInformation => .rw32 0x4016 [.ctrl]
  | .controlVMEntryExceptionErrorcode => .rw32 0x4018 [.ctrl, .ignore]
  | .controlVMEntryInstructionLength => .rw32 0x401a [.ctrl, .ignore]
  | .controlTaskPRivilegeThreshold =>
    .rw32 0x401c [.ctrl, .idGuest, .swwronly] (hasAny [.useTprShadow])
  | .controlVMXSeccpuBased => .rw32 0x401e [.ctrl] (hasAny [.activateSecondaryControls])
  | .controlPLEGap => .rw32 0x4020 [.ctrl, .idGuest, .swwronly] (hasAny [.pauseLoopExiting])
  | .controlPLEWindow => .rw32 0x4022 [.ctrl, .idGuest, .swwronly] (hasAny [.pauseLoopExiting])
  | .infoVminstrError => .ro32 0x4400 [.ro, .idGuest]
  | .infoVmexitReason => .ro32 0x4402 [.ro, .idGuest]
  | .infoVmexitInterruptInformation => .ro32 0x4404 [.ro, .idGuest]
  | .infoVmexitInterruptErrorCode => .ro32 0x4406 [.ro, .idGuest]
  | .infoIDTVectoringInformation => .ro32 0x4408 [.ro, .idGuest]
  | .infoIDTVectoringErrorCode => .ro32 0x440a [.ro, .idGuest]
  | .infoVmexitInstructionLength => .ro32 0x440c [.ro, .idGuest]
  | .infoVmxInstructionInformation => .ro32 0x440e [.ro, .idGuest]
  | .guestESLimit => .rw32 0x4800 [.guest, .idGuest]
  | .guestCSLimit => .rw32 0x4802 [.guest, .idGuest]
  | .guestSSLimit => .rw32 0x4804 [.guest, .idGuest]
  | .guestDSLimit => .rw32 0x4806 [.guest, .idGuest]
  | .guestFSLimit => .rw32 0x4808 [.guest, .idGuest]
  | .guestGSLimit => .rw32 0x480a [.guest, .idGuest]
  | .guestLDTRLimit => .rw32 0x480c [.guest, .idGuest]
  | .guestTRLimit => .rw32 0x480e [.guest, .idGuest]
  | .guestGDTRLimit => .rw32 0x4810 [.guest, .idGuest]
  | .guestIDTRLimit => .rw32 0x4812 [.guest, .idGuest]
  | .guestESAccessRights => .rw32 0x4814 [.guest, .idGuest]
  | .guestCSAccessRights => .rw32 0x4816 [.guest, .idGuest]
  | .guestSSAccessRights => .rw32 0x4818 [.guest, .idGuest]
  | .guestDSAccessRights => .rw32 0x481a [.guest, .idGuest]
  | .guestFSAccessRights => .rw32 0x481c [.guest, .idGuest]
  | .guestGSAccessRights => .rw32 0x481e [.guest, .idGuest]
  | .guestLDTRAccessRights => .rw32 0x4820 [.guest, .idGuest]
  | .guestTRAccessRights => .rw32 0x4822 [.guest, .idGuest]
  | .guestInterruptibility => .rw32 0x4824 [.guest]
  | .guestActivityState => .rw32 0x4826 [.guest, .idGuest]
  | .guestSMBASE => .rw32 0x4828 [.guest, .idGuest]
  | .guestSYSENTERCS => .rw32 0x482a [.guest, .idGuest]
  | .guestVMXPreemptionTimerValue =>
    .rw32 0x482e [.guest, .idGuest] (hasAny [.activateVmxPreemptionTimer])
  | .hostSYSENTERCS => .rw32 0x4c00 [.host, .idHost]
  | .controlCR0Mask => .rwNw 0x6000 [.ctrl, .idGuest, .swwronly]
  | .controlCR4Mask => .rwNw 0x6002 [.ctrl, .idGuest, .swwronly]
  | .controlCR0Shadow => .rwNw 0x6004 [.ctrl, .idGuest, .swwronly]
  | .controlCR4Shadow => .rwNw 0x6006 [.ctrl, .idGuest, .swwronly]
  | .controlCR3Target0 => .rwNw 0x6008 [.ctrl, .idGuest, .swwronly]
  | .controlCR3Target1 => .rwNw 0x600a [.ctrl, .idGuest, .swwronly]
  | .controlCR3Target2 => .rwNw 0x600c [.ctrl, .idGuest, .swwronly]
  | .controlCR3Target3 => .rwNw 0x600e [.ctrl, .idGuest, .swwronly]
  | .infoExitQualification => .roNw 0x6400 [.ro, .idGuest]
  | .infoIORCX => .roNw 0x6402 [.ro, .idGuest]
  | .infoIORSI => .roNw 0x6404 [.ro, .idGuest]
  | .infoIORDI => .roNw 0x6406 [.ro, .idGuest]
  | .infoIORIP => .roNw 0x6408 [.ro, .idGuest]
  | .infoGuestLinearAddress => .roNw 0x640a [.ro, .idGuest]
  | .guestCR0 => .rwNw 0x6800 [.guest, .idGuest]
  | .guestCR3 => .rwNw 0x6802 [.guest, .idGuest]
  | .guestCR4 => .rwNw 0x6804 [.guest, .idGuest]
  | .guestESBase => .rwNw 0x6806 [.guest, .idGuest]
  | .guestCSBase => .rwNw 0x6808 [.guest, .idGuest]
  | .guestSSBase => .rwNw 0x680a [.guest, .idGuest]
  | .guestDSBase => .rwNw 0x680c [.guest, .idGuest]
  | .guestFSBase => .rwNw 0x680e [.guest, .idGuest]
  | .guestGSBase => .rwNw 0x6810 [.guest, .idGuest]
  | .guestLDTRBase => .rwNw 0x6812 [.guest, .idGuest]
  | .guestTRBase => .rwNw 0x6814 [.guest, .idGuest]
  | .guestGDTRBase => .rwNw 0x6816 [.guest, .idGuest]
  | .guestIDTRBase => .rwNw 0x6818 [.guest, .idGuest]
  | .guestDR7 => .rwNw 0x681a [.guest, .idGuest]
  | .guestRSP => .rwNw 0x681c [.guest, .idGuest]
  | .guestRIP => .rwNw 0x681e [.guest, .idGuest]
  | .guestRFLAGS => .rwNw 0x6820 [.guest, .idGuest]
  | .guestPendingDebugX => .rwNw 0x6822 [.guest, .idGuest]
  | .guestSYSENTERESP => .rwNw 0x6824 [.guest, .idGuest]
  | .guestSYSENTEREIP => .rwNw 0x6826 [.guest, .idGuest]
  | .guestIA32SCET => .rwNw 0x6828 [.guest, .idGuest] (hasAny [.vmentryLoadCetState])
  | .guestSSP => .rwNw 0x682a [.guest, .idGuest] (hasAny [.vmentryLoadCetState])
  | .guestIA32INTERRUPTSSPTABLEADDR =>
    .rwNw 0x682c [.guest, .idGuest] (hasAny [.vmentryLoadCetState])
  | .hostCR0 => .rwNw 0x6c00 [.host, .idHost]
  | .hostCR3 => .rwNw 0x6c02 [.host, .idHost]
  | .hostCR4 => .rwNw 0x6c04 [.host, .idHost]
  | .hostFSBase => .rwNw 0x6c06 [.host, .idHost]
  | .hostGSBase => .rwNw 0x6c08 [.host, .idHost]
  | .hostTRBase => .rwNw 0x6c0a [.host, .idHost]
  | .hostGDTRBase => .rwNw 0x6c0c [.host, .idHost]
  | .hostIDTRBase => .rwNw 0x6c0e [.host, .idHost]
  | .hostSYSENTERESP => .rwNw 0x6c10 [.host, .idHost]
  | .hostSYSENTEREIP => .rwNw 0x6c12 [.host, .idHost]
  | .hostRSP => .rwNw 0x6c14 [.host, .idHost]
  | .hostRIP => .rwNw 0x6c16 [.host, .idHost]
  | .hostIA32SCET => .rwNw 0x6c18 [.host, .unsupp] (hasAny [.vmexitLoadCetState])
  | .hostSSP => .rwNw 0x6c1a [.host, .unsupp] (hasAny [.vmexitLoadCetState])
  | .hostIA32INTERRUPTSSPTABLEADDR => .rwNw 0x6c1c [.host, .unsupp] (hasAny [.vmexitLoadCetState])

def all : List VmcsField := (List.range 167).map VmcsField.ofNat

abbrev bits (f : VmcsField) : Nat := f.decl.bits

end VmcsField

abbrev Vmcs := (f : VmcsField) → BitVec f.bits

/-- `__vmx_vmwrite*` -/
def Vmcs.vmwrite (v : Vmcs) (f : VmcsField) (value : BitVec f.bits) : Vmcs :=
  Function.update v f value

@[simp]
theorem Vmcs.vmwrite_self (v : Vmcs) (f : VmcsField) (value : BitVec f.bits) :
    v.vmwrite f value f = value := by
  rw [vmwrite, Function.update_self]

theorem Vmcs.vmwrite_other {f g : VmcsField} (other : g ≠ f) (v : Vmcs) (value : BitVec f.bits) :
    v.vmwrite f value g = v g := by
  rw [vmwrite, Function.update_of_ne other]

end Xmhf
