import Xmhf.Bitfield

/-!
# VMX controls

The control words of a VMCS and their bits (`_vmx_ctls.h`). The source has a test,
a setter and a clearer for each control; here a control is a value, and the three
are one definition each.
-/

namespace Xmhf

/-- The fields of `vmx_ctls_t`. -/
inductive CtlWord where
  | pinbased
  | procbased
  | procbased2
  | exit
  | entry
  deriving DecidableEq, Repr

inductive VmxCtl where
  | externalInterruptExiting
  | nmiExiting
  | virtualNmis
  | activateVmxPreemptionTimer
  | processPostedInterrupts
  | interruptWindowExiting
  | activateTertiaryControls
  | useTprShadow
  | nmiWindowExiting
  | unconditionalIoExiting
  | useIoBitmaps
  | useMsrBitmaps
  | activateSecondaryControls
  | virtualizeApicAccess
  | enableEpt
  | enableVpid
  | virtualInterruptDelivery
  | pauseLoopExiting
  | enableVmFunctions
  | vmcsShadowing
  | enableEnclsExiting
  | enablePml
  | eptViolationVe
  | enableXsavesXrstors
  | subPageWritePermissionsForEpt
  | useTscScaling
  | enableEnclvExiting
  | vmexitHostAddressSpaceSize
  | vmexitLoadIa32PerfGlobalCtrl
  | vmexitSaveIa32Pat
  | vmexitLoadIa32Pat
  | vmexitSaveIa32Efer
  | vmexitLoadIa32Efer
  | vmexitClearIa32Bndcfgs
  | vmexitClearIa32RtitCtl
  | vmexitLoadCetState
  | vmexitLoadPkrs
  | vmentryIa32eModeGuest
  | vmentryLoadIa32PerfGlobalCtrl
  | vmentryLoadIa32Pat
  | vmentryLoadIa32Efer
  | vmentryLoadIa32Bndcfgs
  | vmentryLoadIa32RtitCtl
  | vmentryLoadCetState
  | vmentryLoadPkrs
  deriving DecidableEq, Repr

def VmxCtl.position : VmxCtl → CtlWord × Nat
  | .externalInterruptExiting => (.pinbased, 0)
  | .nmiExiting => (.pinbased, 3)
  | .virtualNmis => (.pinbased, 5)
  | .activateVmxPreemptionTimer => (.pinbased, 6)
  | .processPostedInterrupts => (.pinbased, 7)
  | .interruptWindowExiting => (.procbased, 2)
  | .activateTertiaryControls => (.procbased, 17)
  | .useTprShadow => (.procbased, 21)
  | .nmiWindowExiting => (.procbased, 22)
  | .unconditionalIoExiting => (.procbased, 24)
  | .useIoBitmaps => (.procbased, 25)
  | .useMsrBitmaps => (.procbased, 28)
  | .activateSecondaryControls => (.procbased, 31)
  | .virtualizeApicAccess => (.procbased2, 0)
  | .enableEpt => (.procbased2, 1)
  | .enableVpid => (.procbased2, 5)
  | .virtualInterruptDelivery => (.procbased2, 9)
  | .pauseLoopExiting => (.procbased2, 10)
  | .enableVmFunctions => (.procbased2, 13)
  | .vmcsShadowing => (.procbased2, 14)
  | .enableEnclsExiting => (.procbased2, 15)
  | .enablePml => (.procbased2, 17)
  | .eptViolationVe => (.procbased2, 18)
  | .enableXsavesXrstors => (.procbased2, 20)
  | .subPageWritePermissionsForEpt => (.procbased2, 23)
  | .useTscScaling => (.procbased2, 25)
  | .enableEnclvExiting => (.procbased2, 28)
  | .vmexitHostAddressSpaceSize => (.exit, 9)
  | .vmexitLoadIa32PerfGlobalCtrl => (.exit, 12)
  | .vmexitSaveIa32Pat => (.exit, 18)
  | .vmexitLoadIa32Pat => (.exit, 19)
  | .vmexitSaveIa32Efer => (.exit, 20)
  | .vmexitLoadIa32Efer => (.exit, 21)
  | .vmexitClearIa32Bndcfgs => (.exit, 23)
  | .vmexitClearIa32RtitCtl => (.exit, 25)
  | .vmexitLoadCetState => (.exit, 28)
  | .vmexitLoadPkrs => (.exit, 29)
  | .vmentryIa32eModeGuest => (.entry, 9)
  | .vmentryLoadIa32PerfGlobalCtrl => (.entry, 13)
  | .vmentryLoadIa32Pat => (.entry, 14)
  | .vmentryLoadIa32Efer => (.entry, 15)
  | .vmentryLoadIa32Bndcfgs => (.entry, 16)
  | .vmentryLoadIa32RtitCtl => (.entry, 18)
  | .vmentryLoadCetState => (.entry, 20)
  | .vmentryLoadPkrs => (.entry, 22)

namespace VmxCtl

def word (c : VmxCtl) : CtlWord := c.position.1

def bit (c : VmxCtl) : Nat := c.position.2

theorem bit_lt (c : VmxCtl) : c.bit < 32 := by
  cases c <;> decide

end VmxCtl

/-- `vmx_ctls_t`. -/
abbrev VmxCtls := CtlWord → U32

namespace VmxCtls

/-- `_vmx_hasctl_*` -/
def has (ctls : VmxCtls) (c : VmxCtl) : Bool := (ctls c.word).getLsbD c.bit

/-- `_vmx_setctl_*` -/
def setctl (ctls : VmxCtls) (c : VmxCtl) : VmxCtls :=
  Function.update ctls c.word (ctls c.word ||| 1#32 <<< c.bit)

/-- `_vmx_clearctl_*` -/
def clearctl (ctls : VmxCtls) (c : VmxCtl) : VmxCtls :=
  Function.update ctls c.word (ctls c.word &&& ~~~(1#32 <<< c.bit))

theorem getLsbD_one_shiftLeft {n : Nat} (small : n < 32) (i : Nat) :
    (1#32 <<< n).getLsbD i = decide (i = n) := by
  rw [BitVec.getLsbD_shiftLeft, BitVec.getLsbD_one]
  by_cases same : i = n
  · subst same
    simp [small]
  · simp only [same, decide_false]
    grind

theorem has_setctl (ctls : VmxCtls) (c d : VmxCtl) :
    (ctls.setctl c).has d = (ctls.has d || decide (d.position = c.position)) := by
  have positions : d.position = c.position ↔ d.word = c.word ∧ d.bit = c.bit := Prod.ext_iff
  unfold has setctl
  by_cases same : d.word = c.word
  · rw [same, Function.update_self, BitVec.getLsbD_or, getLsbD_one_shiftLeft c.bit_lt]
    simp [positions, same]
  · rw [Function.update_of_ne same]
    simp [positions, same]

theorem has_clearctl (ctls : VmxCtls) (c d : VmxCtl) :
    (ctls.clearctl c).has d = (ctls.has d && !decide (d.position = c.position)) := by
  have positions : d.position = c.position ↔ d.word = c.word ∧ d.bit = c.bit := Prod.ext_iff
  have bound := d.bit_lt
  unfold has clearctl
  by_cases same : d.word = c.word
  · rw [same, Function.update_self, BitVec.getLsbD_and, BitVec.getLsbD_not,
      getLsbD_one_shiftLeft c.bit_lt]
    simp [positions, same, bound]
  · rw [Function.update_of_ne same]
    simp [positions, same]

end VmxCtls

end Xmhf
