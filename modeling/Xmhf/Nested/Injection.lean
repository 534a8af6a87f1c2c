import Xmhf.Nested.Vmcs12

/-!
# Injecting events into L2

The helpers of `nested-x86vmx-handler2.c` that read the event whose delivery an exit of L2
interrupted, and that write the event for the next VM entry.

`L2Event` is the event itself. `interrupted` reads it from the VM-exit fields of VMCS02, and
`injected` from the VM-entry fields, where a VM entry can also fail.
-/

namespace Xmhf

/-! ## Interruption information -/

def isInterruptionValid (interruption : U32) : Bool := interruption.getLsbD 31

def intrVector (interruption : U32) : U32 := interruption &&& 0xff

def intrType (interruption : U32) : U32 := (interruption >>> 8) &&& 7

def INTR_TYPE_BF_NMI : U32 := 2

def hasErrorcode (interruption : U32) : Bool := interruption.getLsbD 11

def hasInstLen (interruption : U32) : Bool := [4, 5, 6].contains (intrType interruption)

def nextedVmxGetIdtVecInfo (vmcs02 : Vmcs) : U32 × U32 × U32 :=
  let idtInfo : U32 := vmcs02 .infoIDTVectoringInformation
  (idtInfo,
    if hasErrorcode idtInfo then vmcs02 .infoIDTVectoringErrorCode else 0,
    if hasInstLen idtInfo then vmcs02 .infoVmexitInstructionLength else 0)

def nestedVmxInjectException (vmcs02 : Vmcs) (intrInfo errorcode instLen : U32) : Vmcs :=
  let vmcs02 := vmcs02.vmwrite .controlVMEntryInterruptionInformation intrInfo
  let vmcs02 := if hasErrorcode intrInfo then
    vmcs02.vmwrite .controlVMEntryExceptionErrorcode errorcode else vmcs02
  if hasInstLen intrInfo then vmcs02.vmwrite .controlVMEntryInstructionLength instLen else vmcs02

/-- `_nested_vmx_inject_gp`: vector 13, a hardware exception with an error code. -/
def nestedVmxInjectGp (vmcs02 : Vmcs) : Vmcs := nestedVmxInjectException vmcs02 0x80000b0d 0 0

/-! ## Events -/

structure L2Event where
  vector : BitVec 8
  type : U32
  errorcode : Option U32
  instLen : Option U32
  deriving DecidableEq, Repr

/-- The event of an interruption-information field and the fields beside it. -/
def L2Event.ofInfo (interruption errorcode instLen : U32) : Option L2Event :=
  if isInterruptionValid interruption then
    some
      { vector := interruption.setWidth 8
        type := intrType interruption
        errorcode := if hasErrorcode interruption then some errorcode else none
        instLen := if hasInstLen interruption then some instLen else none }
  else none

def interrupted (vmcs02 : Vmcs) : Option L2Event :=
  L2Event.ofInfo (vmcs02 .infoIDTVectoringInformation) (vmcs02 .infoIDTVectoringErrorCode)
    (vmcs02 .infoVmexitInstructionLength)

/-- Bits 30:12. In the IDT-vectoring information bit 12 is undefined, in the VM-entry
interruption information all of them are reserved. -/
def reservedBits (interruption : U32) : U32 := interruption &&& 0x7ffff000

def blocksVirtualNmi (vmcs02 : Vmcs) : Bool :=
  BitVec.getLsbD (vmcs02 .controlVMXPinBased) 5 && BitVec.getLsbD (vmcs02 .guestInterruptibility) 3

/-- The event that the next VM entry delivers. The entry fails on reserved bits, and on a
virtual NMI for a guest that blocks them. -/
def injected (vmcs02 : Vmcs) : Option (Option L2Event) :=
  let intrInfo : U32 := vmcs02 .controlVMEntryInterruptionInformation
  let event := L2Event.ofInfo intrInfo (vmcs02 .controlVMEntryExceptionErrorcode)
    (vmcs02 .controlVMEntryInstructionLength)
  if event.isSome ∧ (reservedBits intrInfo ≠ 0 ∨
      intrType intrInfo = INTR_TYPE_BF_NMI ∧ blocksVirtualNmi vmcs02) then none
  else some event

section

variable (vmcs02 : Vmcs) (intrInfo errorcode instLen : U32)

theorem inject_info : nestedVmxInjectException vmcs02 intrInfo errorcode instLen
    .controlVMEntryInterruptionInformation = intrInfo := by
  unfold nestedVmxInjectException
  cases hasErrorcode intrInfo <;> cases hasInstLen intrInfo <;> rfl

theorem inject_errorcode (has : hasErrorcode intrInfo = true) :
    nestedVmxInjectException vmcs02 intrInfo errorcode instLen
      .controlVMEntryExceptionErrorcode = errorcode := by
  unfold nestedVmxInjectException
  rw [has]
  cases hasInstLen intrInfo <;> rfl

theorem inject_instLen (has : hasInstLen intrInfo = true) :
    nestedVmxInjectException vmcs02 intrInfo errorcode instLen
      .controlVMEntryInstructionLength = instLen := by
  unfold nestedVmxInjectException
  rw [has]
  rfl

theorem inject_other {f : VmcsField} (info : f ≠ .controlVMEntryInterruptionInformation)
    (code : f ≠ .controlVMEntryExceptionErrorcode) (len : f ≠ .controlVMEntryInstructionLength) :
    nestedVmxInjectException vmcs02 intrInfo errorcode instLen f = vmcs02 f := by
  unfold nestedVmxInjectException
  cases hasErrorcode intrInfo <;> cases hasInstLen intrInfo <;>
    simp [Vmcs.vmwrite_other, info, code, len]

theorem ofInfo_congr {code len : U32} (sameCode : hasErrorcode intrInfo = true → code = errorcode)
    (sameLen : hasInstLen intrInfo = true → len = instLen) :
    L2Event.ofInfo intrInfo code len = L2Event.ofInfo intrInfo errorcode instLen := by
  unfold L2Event.ofInfo
  cases has : hasErrorcode intrInfo with
  | false =>
    cases hasLen : hasInstLen intrInfo with
    | false => rfl
    | true => rw [sameLen hasLen]; rfl
  | true =>
    rw [sameCode has]
    cases hasLen : hasInstLen intrInfo with
    | false => rfl
    | true => rw [sameLen hasLen]

theorem injected_eq (info : vmcs02 .controlVMEntryInterruptionInformation = intrInfo)
    (code : hasErrorcode intrInfo = true → vmcs02 .controlVMEntryExceptionErrorcode = errorcode)
    (len : hasInstLen intrInfo = true → vmcs02 .controlVMEntryInstructionLength = instLen) :
    injected vmcs02 =
      if (L2Event.ofInfo intrInfo errorcode instLen).isSome ∧ (reservedBits intrInfo ≠ 0 ∨
        intrType intrInfo = INTR_TYPE_BF_NMI ∧ blocksVirtualNmi vmcs02) then none
      else some (L2Event.ofInfo intrInfo errorcode instLen) := by
  unfold injected
  dsimp only
  rw [info, ofInfo_congr intrInfo errorcode instLen code len]

end

theorem idtVecInfo_event (vmcs02 : Vmcs) :
    L2Event.ofInfo (nextedVmxGetIdtVecInfo vmcs02).1 (nextedVmxGetIdtVecInfo vmcs02).2.1
      (nextedVmxGetIdtVecInfo vmcs02).2.2 = interrupted vmcs02 := by
  refine ofInfo_congr _ _ _ (fun has => ?_) (fun has => ?_)
  · exact if_pos has
  · exact if_pos has

end Xmhf
