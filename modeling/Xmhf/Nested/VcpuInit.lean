import Xmhf.Vmx.Ctls

/-!
# VMX capabilities shown to L1

`xmhf_nested_arch_x86vmx_vcpu_init` derives the VMX capability MSRs of L1 from
those of the hardware, and picks the ones against which L1's control words are
checked.
-/

namespace Xmhf

/-- The indices of `vmx_msrs` and `vmx_nested_msrs`. -/
inductive VmxMsr where
  | basic
  | pinbasedCtls
  | procbasedCtls
  | exitCtls
  | entryCtls
  | misc
  | cr0Fixed0
  | cr0Fixed1
  | cr4Fixed0
  | cr4Fixed1
  | vmcsEnum
  | procbasedCtls2
  | eptVpidCap
  | truePinbasedCtls
  | trueProcbasedCtls
  | trueExitCtls
  | trueEntryCtls
  | vmfunc
  deriving DecidableEq, Repr

/-- All ones but the bit that allows a control to be set. -/
def ctlMask (c : VmxCtl) : U64 := ~~~(1#64 <<< (32 + c.bit))

/-- The mask for the primary processor-based controls; `msrBitmap` is the build option
`__VMX_NESTED_MSR_BITMAP__`. -/
def procbasedMask (msrBitmap : Bool) : U64 :=
  if msrBitmap then ctlMask .activateTertiaryControls
  else ctlMask .activateTertiaryControls &&& ctlMask .useMsrBitmaps

/-- `vmx_nested_msrs`. The masks for CET state apply to two of the four MSRs that hold
exit and entry controls. -/
def vmxNestedMsrs (msrBitmap : Bool) (vmxMsrs : VmxMsr → U64) : VmxMsr → U64
  | .basic =>
    -- a full page of VMCS region, no dual-monitor treatment of SMIs
    (vmxMsrs .basic &&& ~~~0x00001fff00000000#64 ||| 0x0000100000000000#64) &&& ~~~(1#64 <<< 49)
  | .procbasedCtls => vmxMsrs .procbasedCtls &&& procbasedMask msrBitmap
  | .trueProcbasedCtls => vmxMsrs .trueProcbasedCtls &&& procbasedMask msrBitmap
  | .exitCtls => vmxMsrs .exitCtls &&& ctlMask .vmexitLoadCetState
  | .entryCtls => vmxMsrs .entryCtls &&& ctlMask .vmentryLoadCetState
  | .misc => vmxMsrs .misc &&& ~~~(1#64 <<< 29)
  | .procbasedCtls2 =>
    vmxMsrs .procbasedCtls2 &&& (ctlMask .vmcsShadowing &&& ctlMask .subPageWritePermissionsForEpt)
  | .eptVpidCap => vmxMsrs .eptVpidCap &&& ~~~(1#64 <<< 21)
  | msr => vmxMsrs msr

/-- The MSRs that describe the control words: `IA32_VMX_TRUE_*` where the hardware has
them. -/
def ctlMsr (vmxMsrs : VmxMsr → U64) (word : CtlWord) : VmxMsr :=
  match word, (vmxMsrs .basic).getLsbD 55 with
  | .pinbased, true => .truePinbasedCtls
  | .pinbased, false => .pinbasedCtls
  | .procbased, true => .trueProcbasedCtls
  | .procbased, false => .procbasedCtls
  | .procbased2, _ => .procbasedCtls2
  | .exit, true => .trueExitCtls
  | .exit, false => .exitCtls
  | .entry, true => .trueEntryCtls
  | .entry, false => .entryCtls

/-- `vmx_nested_pinbased_ctls`, `vmx_nested_procbased_ctls`, `vmx_nested_exit_ctls`,
`vmx_nested_entry_ctls`, and the MSR for the secondary controls. -/
def nestedCtlCaps (msrBitmap : Bool) (vmxMsrs : VmxMsr → U64) (word : CtlWord) : U64 :=
  vmxNestedMsrs msrBitmap vmxMsrs (ctlMsr vmxMsrs word)

/-- The check that `_vmcs12_get_ctls12` makes on each control word. -/
def ctlsAllowed (cap : U64) (val : U32) : Bool :=
  ~~~val &&& cap.setWidth 32 == 0 && val &&& ~~~((cap >>> 32).setWidth 32) == 0

theorem ctlsAllowed_lacks {cap : U64} {val : U32} (allowed : ctlsAllowed cap val = true) {bit : Nat}
    (small : bit < 32) (lacks : cap.getLsbD (32 + bit) = false) : val.getLsbD bit = false := by
  unfold ctlsAllowed at allowed
  rw [Bool.and_eq_true] at allowed
  have none : val &&& ~~~((cap >>> 32).setWidth 32) = 0#32 := beq_iff_eq.mp allowed.2
  have at_bit := congrArg (fun word => word.getLsbD bit) none
  simp only [BitVec.getLsbD_and, BitVec.getLsbD_not, BitVec.getLsbD_setWidth,
    BitVec.getLsbD_ushiftRight, lacks, small, decide_true, BitVec.getLsbD_zero,
    Bool.and_false, Bool.not_false, Bool.and_true] at at_bit
  exact at_bit

theorem getLsbD_ctlMask (c d : VmxCtl) :
    (ctlMask c).getLsbD (32 + d.bit) = !decide (d.bit = c.bit) := by
  have small := d.bit_lt
  rw [ctlMask, BitVec.getLsbD_not, BitVec.getLsbD_shiftLeft, BitVec.getLsbD_one]
  grind

section

variable (msrBitmap : Bool) (vmxMsrs : VmxMsr → U64)

include msrBitmap vmxMsrs

theorem nestedCtlCaps_procbased2 {c : VmxCtl}
    (hidden : c = .vmcsShadowing ∨ c = .subPageWritePermissionsForEpt) :
    (nestedCtlCaps msrBitmap vmxMsrs .procbased2).getLsbD (32 + c.bit) = false := by
  have msr : nestedCtlCaps msrBitmap vmxMsrs .procbased2 =
      vmxNestedMsrs msrBitmap vmxMsrs .procbasedCtls2 := by
    unfold nestedCtlCaps ctlMsr
    cases (vmxMsrs .basic).getLsbD 55 <;> rfl
  rw [msr, vmxNestedMsrs, BitVec.getLsbD_and, BitVec.getLsbD_and, getLsbD_ctlMask, getLsbD_ctlMask]
  rcases hidden with rfl | rfl <;> simp

theorem nestedCtlCaps_procbased :
    ∃ hardware, nestedCtlCaps msrBitmap vmxMsrs .procbased =
      hardware &&& procbasedMask msrBitmap := by
  unfold nestedCtlCaps ctlMsr
  cases (vmxMsrs .basic).getLsbD 55
  · exact ⟨_, rfl⟩
  · exact ⟨_, rfl⟩

theorem nestedCtlCaps_activateTertiaryControls :
    (nestedCtlCaps msrBitmap vmxMsrs .procbased).getLsbD
      (32 + VmxCtl.activateTertiaryControls.bit) = false := by
  rcases nestedCtlCaps_procbased msrBitmap vmxMsrs with ⟨hardware, caps⟩
  have hidden : (procbasedMask msrBitmap).getLsbD (32 + VmxCtl.activateTertiaryControls.bit) =
      false := by
    clear caps
    revert msrBitmap
    decide
  rw [caps, BitVec.getLsbD_and, hidden, Bool.and_false]

end

theorem nestedCtlCaps_useMsrBitmaps (vmxMsrs : VmxMsr → U64) :
    (nestedCtlCaps false vmxMsrs .procbased).getLsbD (32 + VmxCtl.useMsrBitmaps.bit) = false := by
  rcases nestedCtlCaps_procbased false vmxMsrs with ⟨hardware, caps⟩
  have hidden : (procbasedMask false).getLsbD (32 + VmxCtl.useMsrBitmaps.bit) = false := by decide
  rw [caps, BitVec.getLsbD_and, hidden, Bool.and_false]

end Xmhf
