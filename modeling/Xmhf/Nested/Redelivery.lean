import Xmhf.Nested.MsrExits

/-!
# Exits of L2 that interrupt the delivery of an event

`xmhf_nested_arch_x86vmx_handle_vmexit` either forwards an exit of L2 to L1 or handles it and
resumes L2. An exit during the delivery of an event leaves the event in the IDT-vectoring
information, and an XMHF that resumes L2 has to inject it again.

`Redelivered` says that it does. It fails where the handler does not inject: an access that
EPT01 denies and the hypapp lets pass, and an NMI for a VMCS12 without virtual NMIs, whose
blocking is not lifted in VMCS02.
-/

namespace Xmhf

variable {η : Type}

namespace Handler2

def nmiPending (s : Handler2 η) : Bool := !s.guestNmiBlock && 0 < s.guestNmiPending

def updateNestedNmi (s : Handler2 η) : Handler2 η :=
  let overrideNmiBlocking := s.info.guestNmiExiting && (s.nmiPending && !s.info.guestBlockNmi)
  let nmiWindowing :=
    if s.info.guestNmiExiting then overrideNmiBlocking || s.info.guestNmiWindowExiting
    else s.nmiPending
  let procctl : U32 := s.vmcs02 .controlVMXCpuBased
  let procctl := if nmiWindowing then procctl ||| 1#32 <<< 22 else procctl &&& ~~~(1#32 <<< 22)
  let guestInt : U32 := s.vmcs02 .guestInterruptibility
  let vmcs02 := s.vmcs02.vmwrite .controlVMXCpuBased procctl
  if overrideNmiBlocking then
    { s with
      vmcs02 := vmcs02.vmwrite .guestInterruptibility (setBlockNmi guestInt false)
      info := { s.info with guestVmcsBlockNmiOverridden := true }
      guestVmcsBlockNmi :=
        if s.info.guestVmcsBlockNmiOverridden then s.guestVmcsBlockNmi else guestInt.getLsbD 3 }
  else if s.info.guestVmcsBlockNmiOverridden then
    { s with
      vmcs02 := vmcs02.vmwrite .guestInterruptibility (setBlockNmi guestInt s.guestVmcsBlockNmi)
      info := { s.info with guestVmcsBlockNmiOverridden := false } }
  else { s with vmcs02 }

def nmiPendingLimit (s : Handler2 η) : Option Nat :=
  if s.info.guestNmiExiting then some (if s.info.guestBlockNmi then 1 else 2)
  else
    (isInterruptionNmi (s.vmcs02 .controlVMEntryInterruptionInformation)).map fun injects =>
      let blocked := if s.info.guestVmcsBlockNmiOverridden then s.guestVmcsBlockNmi
        else BitVec.getLsbD (s.vmcs02 .guestInterruptibility) 3
      if blocked || injects then 1 else 2

/-- `xmhf_nested_arch_x86vmx_handle_nmi` -/
def handleNmi (s : Handler2 η) : Option (Handler2 η) :=
  s.nmiPendingLimit.bind fun limit =>
    if limit < s.guestNmiPending then none
    else
      let pending := if s.guestNmiPending < limit then s.guestNmiPending + 1 else s.guestNmiPending
      some { s with guestNmiPending := pending }.updateNestedNmi

end Handler2

/-! ## The handlers -/

/-- `handle_vmexit20_nmi`. "Currently not implemented if there is" an interrupted event. -/
def handleVmexit20Nmi (s : Handler2 η) (quiesce : Bool) : Option (Handle20 × Handler2 η) :=
  (if quiesce then some s else s.handleNmi).bind fun s =>
    if isInterruptionValid (nextedVmxGetIdtVecInfo s.vmcs02).1 then none else some (.handle202, s)

def handleVmexit20NmiWindow (s : Handler2 η) : Option (Handle20 × Handler2 η) :=
  if s.info.guestNmiExiting then
    if s.info.guestNmiWindowExiting then some (.handle201, s)
    else if s.nmiPending && !s.info.guestBlockNmi then some (.handle201NmiInterrupt, s)
    else none
  else if isInterruptionValid (nextedVmxGetIdtVecInfo s.vmcs02).1 then none
  else if s.guestNmiPending = 0 then none
  else
    -- NMI_VECTOR | INTR_TYPE_NMI | INTR_INFO_VALID_MASK
    let vmcs02 := nestedVmxInjectException s.vmcs02 0x80000202 0 0
    some (.handle202,
      { s with vmcs02, guestNmiPending := s.guestNmiPending - 1 }.updateNestedNmi)

/-- `handle_vmexit20_ept_violation`, after `xmhf_nested_arch_x86vmx_handle_ept02_exit`. The hypapp
is asked about what EPT01 denies. -/
def handleVmexit20EptViolation (s : Handler2 η) (appSuccess : Bool) :
    Ept02Exit → Option (Handle20 × Handler2 η)
  | .cachemiss _ _ =>
    let (idtInfo, idtErrcode, instLen) := nextedVmxGetIdtVecInfo s.vmcs02
    let vmcs02 := nestedVmxInjectException s.vmcs02 idtInfo idtErrcode instLen
    (isInterruptionNmi idtInfo).bind fun nmi =>
      if nmi && s.info.guestVirtualNmis then
        -- "We need to remove this virtual-NMI blocking in order to retry NMI injection"
        let guestInt : U32 := vmcs02 .guestInterruptibility
        if guestInt.getLsbD 3 then
          some (.handle202,
            { s with vmcs02 := vmcs02.vmwrite .guestInterruptibility (setBlockNmi guestInt false) })
        else none
      else some (.handle202, { s with vmcs02 })
  -- "Since hypapp has returned, we can simply continue back to L2 guest."
  | .ept01Violation _ => if appSuccess then some (.handle202, s) else none
  | .ept12Violation => some (.handle201, s)
  | .ept12Misconfig => some (.handle201EptMisconfig, s)

/-- An exit of L2, with what the hypapp answers to it. -/
inductive L2Exit where
  | exception (intrInfo : U32) (quiesce : Bool)
  | nmiWindow
  | eptViolation (status : Ept02Exit) (appSuccess : Bool)
  | eptMisconfiguration
  | rdmsr
  | wrmsr
  | vmcall (hypapp appSuccess : Bool)
  | cpuid (appSkips : Bool)
  | other
  deriving DecidableEq

/-- `xmhf_nested_arch_x86vmx_handle_vmexit`, up to the forwarding. -/
def handleVmexit20 (env : MsrEnv η) (page : Bitmap12) (s : Handler2 η) :
    L2Exit → Option (Handle20 × Handler2 η)
  | .exception intrInfo quiesce =>
    if isInterruptionValid intrInfo then
      (isInterruptionNmi intrInfo).bind fun nmi =>
        if nmi then handleVmexit20Nmi s quiesce else some (.handle201, s)
    else none
  | .nmiWindow => handleVmexit20NmiWindow s
  | .eptViolation status appSuccess => handleVmexit20EptViolation s appSuccess status
  | .eptMisconfiguration => none
  | .rdmsr => handleVmexit20Rdmsr env page s
  | .wrmsr => handleVmexit20Wrmsr env page s
  | .vmcall hypapp appSuccess =>
    if hypapp then if appSuccess then some (.handle202, s.skip) else none
    else some (.handle201, s)
  | .cpuid appSkips => if appSkips then some (.handle202, s.skip) else some (.handle201, s)
  | .other => some (.handle201, s)

/-! ## Redelivery -/

/-- Exits of an instruction, which interrupt no delivery. -/
def L2Exit.isInstruction : L2Exit → Bool
  | .rdmsr | .wrmsr | .vmcall _ _ | .cpuid _ => true
  | _ => false

def L2Exit.Denied : L2Exit → Prop
  | .eptViolation (.ept01Violation _) appSuccess => appSuccess = false
  | _ => False

/-- An L2 that is resumed gets the event, and no other. -/
def Redelivered (env : MsrEnv η) (page : Bitmap12) (s : Handler2 η) (exit : L2Exit)
    (event : L2Event) : Prop :=
  match handleVmexit20 env page s exit with
  | some (.handle202, s') => injected s'.vmcs02 = some (some event)
  | some _ => True
  | none => exit.Denied

/-- The IDT-vectoring information can be injected as it is. An NMI can be if its blocking is
lifted where it is in effect. -/
structure Reinjectable (s : Handler2 η) : Prop where
  reserved : reservedBits (s.vmcs02 .infoIDTVectoringInformation) = 0
  nmi : intrType (s.vmcs02 .infoIDTVectoringInformation) = INTR_TYPE_BF_NMI →
    intrVector (s.vmcs02 .infoIDTVectoringInformation) = 2 ∧
      BitVec.getLsbD (s.vmcs02 .guestInterruptibility) 3 = s.info.guestVirtualNmis

def Redeliverable (s : Handler2 η) : L2Exit → Prop
  | .exception intrInfo _ =>
    isInterruptionValid intrInfo = true ∧ isInterruptionNmi intrInfo = some false
  | .nmiWindow => s.info.guestNmiExiting = true ∧
      (s.info.guestNmiWindowExiting = true ∨ s.nmiPending = true ∧ s.info.guestBlockNmi = false)
  | .eptViolation (.cachemiss _ _) _ => Reinjectable s
  | .eptViolation (.ept01Violation _) appSuccess => appSuccess = false
  | .eptMisconfiguration => False
  | _ => True

section

variable {env : MsrEnv η} {page : Bitmap12} {s : Handler2 η} {event : L2Event}

theorem updateNestedNmi_idtInfo (s : Handler2 η) :
    s.updateNestedNmi.vmcs02 .infoIDTVectoringInformation =
      s.vmcs02 .infoIDTVectoringInformation := by
  unfold Handler2.updateNestedNmi
  dsimp only
  split
  · rfl
  · split <;> rfl

section

variable (delivery : interrupted s.vmcs02 = some event)

include delivery

theorem interrupted_valid : isInterruptionValid (s.vmcs02 .infoIDTVectoringInformation) = true := by
  unfold interrupted L2Event.ofInfo at delivery
  by_contra invalid
  rw [if_neg invalid] at delivery
  cases delivery

theorem handleVmexit20Nmi_halts (quiesce : Bool) : handleVmexit20Nmi s quiesce = none := by
  have valid := interrupted_valid delivery
  unfold handleVmexit20Nmi
  cases quiesce with
  | true => exact if_pos valid
  | false =>
    rw [if_neg Bool.false_ne_true]
    unfold Handler2.handleNmi
    cases s.nmiPendingLimit with
    | none => rfl
    | some limit =>
      rw [Option.bind_some]
      split
      · rfl
      · refine if_pos ?_
        exact (congrArg isInterruptionValid (updateNestedNmi_idtInfo _)).trans valid

omit delivery in
theorem reinjected (delivery : interrupted s.vmcs02 = some event) {vmcs02 : Vmcs}
    (copied : ∀ f ≠ .guestInterruptibility, vmcs02 f =
      nestedVmxInjectException s.vmcs02 (nextedVmxGetIdtVecInfo s.vmcs02).1
        (nextedVmxGetIdtVecInfo s.vmcs02).2.1 (nextedVmxGetIdtVecInfo s.vmcs02).2.2 f) :
    injected vmcs02 = some (some event) ↔ reservedBits (s.vmcs02 .infoIDTVectoringInformation) = 0 ∧
        ¬ (intrType (s.vmcs02 .infoIDTVectoringInformation) = INTR_TYPE_BF_NMI ∧
          blocksVirtualNmi vmcs02 = true) := by
  have info := (copied .controlVMEntryInterruptionInformation (by decide)).trans
    (inject_info _ _ _ _)
  have event' := (idtVecInfo_event s.vmcs02).trans delivery
  rw [injected_eq vmcs02 _ _ _ info
    (fun has => (copied _ (by decide)).trans (inject_errorcode _ _ _ _ has))
    (fun has => (copied _ (by decide)).trans (inject_instLen _ _ _ _ has)), event']
  have first : (nextedVmxGetIdtVecInfo s.vmcs02).1 = s.vmcs02 .infoIDTVectoringInformation := rfl
  rw [first]
  by_cases bad : reservedBits (s.vmcs02 .infoIDTVectoringInformation) ≠ 0 ∨
      intrType (s.vmcs02 .infoIDTVectoringInformation) = INTR_TYPE_BF_NMI ∧
        blocksVirtualNmi vmcs02 = true
  · rw [if_pos ⟨rfl, bad⟩]
    refine iff_of_false nofun fun good => ?_
    rcases bad with reserved | nmi
    · exact reserved good.1
    · exact good.2 nmi
  · rw [if_neg fun both => bad both.2]
    rw [not_or, not_not] at bad
    exact iff_of_true rfl bad

theorem cachemiss_iff (virtual : BitVec.getLsbD (s.vmcs02 .controlVMXPinBased) 5 = true)
    (appSuccess : Bool) (guest1Paddr xmhfPaddr : U64) :
    Redelivered env page s (.eptViolation (.cachemiss guest1Paddr xmhfPaddr) appSuccess) event ↔
      Reinjectable s := by
  have valid := interrupted_valid delivery
  unfold Redelivered handleVmexit20 handleVmexit20EptViolation
  dsimp only
  generalize made : nestedVmxInjectException s.vmcs02 (nextedVmxGetIdtVecInfo s.vmcs02).1
    (nextedVmxGetIdtVecInfo s.vmcs02).2.1 (nextedVmxGetIdtVecInfo s.vmcs02).2.2 = v
  have keptInt : v .guestInterruptibility = s.vmcs02 .guestInterruptibility :=
    made ▸ inject_other _ _ _ _ (by decide) (by decide) (by decide)
  have keptPin : v .controlVMXPinBased = s.vmcs02 .controlVMXPinBased :=
    made ▸ inject_other _ _ _ _ (by decide) (by decide) (by decide)
  have still : blocksVirtualNmi v = BitVec.getLsbD (s.vmcs02 .guestInterruptibility) 3 := by
    unfold blocksVirtualNmi
    rw [keptPin, keptInt, virtual, Bool.true_and]
  have same (f) : v f = _ := congrFun made.symm f
  rw [show (nextedVmxGetIdtVecInfo s.vmcs02).1 = s.vmcs02 .infoIDTVectoringInformation from rfl]
  by_cases nmi : intrType (s.vmcs02 .infoIDTVectoringInformation) = INTR_TYPE_BF_NMI
  · by_cases vector : intrVector (s.vmcs02 .infoIDTVectoringInformation) = 2
    · have isNmi : isInterruptionNmi (s.vmcs02 .infoIDTVectoringInformation) = some true :=
        (if_pos ⟨valid, nmi⟩).trans (if_pos vector)
      rw [isNmi, Option.bind_some, Bool.true_and]
      cases lifts : s.info.guestVirtualNmis with
      | true =>
        rw [if_pos rfl, keptInt]
        by_cases blocked : BitVec.getLsbD (s.vmcs02 .guestInterruptibility) 3 = true
        · -- the blocking is lifted
          rw [if_pos blocked]
          refine (reinjected delivery fun f other =>
            (Vmcs.vmwrite_other other v _).trans (same f)).trans ?_
          have lifted : blocksVirtualNmi (Vmcs.vmwrite v .guestInterruptibility
              (setBlockNmi (s.vmcs02 .guestInterruptibility) false)) = false := by
            unfold blocksVirtualNmi
            rw [Vmcs.vmwrite_self, setBlockNmi_bit, Bool.and_false]
          constructor
          · rintro ⟨reserved, -⟩
            exact ⟨reserved, fun _ => ⟨vector, blocked.trans lifts.symm⟩⟩
          · intro good
            refine ⟨good.reserved, fun both => ?_⟩
            exact absurd (lifted.symm.trans both.2) Bool.false_ne_true
        · rw [if_neg blocked]
          refine iff_of_false id fun good => ?_
          have bit := (good.nmi nmi).2
          rw [lifts] at bit
          exact blocked bit
      | false =>
        rw [if_neg Bool.false_ne_true]
        refine (reinjected delivery fun f _ => same f).trans ?_
        constructor
        · rintro ⟨reserved, open_⟩
          refine ⟨reserved, fun _ => ⟨vector, ?_⟩⟩
          rw [lifts]
          exact Bool.not_eq_true _ |>.mp fun blocked => open_ ⟨nmi, still.trans blocked⟩
        · intro good
          refine ⟨good.reserved, fun both => ?_⟩
          have bit := (good.nmi nmi).2
          rw [lifts, still.symm.trans both.2] at bit
          cases bit
    · have halts : isInterruptionNmi (s.vmcs02 .infoIDTVectoringInformation) = none :=
        (if_pos ⟨valid, nmi⟩).trans (if_neg vector)
      rw [halts]
      exact iff_of_false id fun good => vector (good.nmi nmi).1
  · have plain : isInterruptionNmi (s.vmcs02 .infoIDTVectoringInformation) = some false := by
      exact if_neg fun both => nmi both.2
    rw [plain, Option.bind_some, Bool.false_and, if_neg Bool.false_ne_true]
    refine (reinjected delivery fun f _ => same f).trans ⟨fun good => ?_, fun good => ?_⟩
    · exact ⟨good.1, fun is => absurd is nmi⟩
    · exact ⟨good.reserved, fun both => nmi both.1⟩

end

/-- An event whose delivery is interrupted is delivered again by an XMHF that resumes L2. -/
theorem redelivered_iff {exit : L2Exit} (delivery : interrupted s.vmcs02 = some event)
    (cleared : s.Cleared) (virtual : BitVec.getLsbD (s.vmcs02 .controlVMXPinBased) 5 = true)
    (plain : exit.isInstruction = false) :
    Redelivered env page s exit event ↔ Redeliverable s exit := by
  have valid := interrupted_valid delivery
  cases exit with
  | rdmsr | wrmsr | vmcall | cpuid => cases plain
  | other => exact iff_of_true trivial trivial
  | eptMisconfiguration => exact Iff.rfl
  | exception intrInfo quiesce =>
    unfold Redelivered Redeliverable handleVmexit20
    dsimp only
    by_cases given : isInterruptionValid intrInfo = true
    · rw [if_pos given]
      cases isNmi : isInterruptionNmi intrInfo with
      | none => exact iff_of_false id fun both => nomatch both.2
      | some nmi =>
        cases nmi with
        | false => exact iff_of_true trivial ⟨given, rfl⟩
        | true =>
          rw [Option.bind_some, if_pos rfl, handleVmexit20Nmi_halts delivery]
          exact iff_of_false id fun both => nomatch both.2
    · rw [if_neg given]
      exact iff_of_false id fun both => given both.1
  | nmiWindow =>
    unfold Redelivered Redeliverable handleVmexit20 handleVmexit20NmiWindow
    by_cases exiting : s.info.guestNmiExiting = true
    · rw [if_pos exiting]
      by_cases window : s.info.guestNmiWindowExiting = true
      · rw [if_pos window]
        exact iff_of_true trivial ⟨exiting, .inl window⟩
      · rw [if_neg window]
        by_cases given : (s.nmiPending && !s.info.guestBlockNmi) = true
        · rw [if_pos given]
          simp only [Bool.and_eq_true, Bool.not_eq_eq_eq_not, Bool.not_true] at given
          exact iff_of_true trivial ⟨exiting, .inr given⟩
        · rw [if_neg given]
          simp only [Bool.and_eq_true, Bool.not_eq_eq_eq_not, Bool.not_true] at given
          exact iff_of_false id fun both => both.2.elim window given
    · rw [if_neg exiting, if_pos (show isInterruptionValid (nextedVmxGetIdtVecInfo s.vmcs02).1 =
        true from valid)]
      exact iff_of_false id fun both => exiting both.1
  | eptViolation status appSuccess =>
    cases status with
    | cachemiss guest1Paddr xmhfPaddr => exact cachemiss_iff delivery virtual _ _ _
    | ept12Violation | ept12Misconfig => exact iff_of_true trivial trivial
    | ept01Violation guest1Paddr =>
      cases appSuccess with
      | false => exact iff_of_true rfl rfl
      | true =>
        -- nothing is injected
        have nothing : L2Event.ofInfo (s.vmcs02 .controlVMEntryInterruptionInformation)
            (s.vmcs02 .controlVMEntryExceptionErrorcode)
            (s.vmcs02 .controlVMEntryInstructionLength) = none := by
          unfold L2Event.ofInfo
          rw [show isInterruptionValid _ = false from cleared]
          rfl
        refine iff_of_false (fun again => ?_) nofun
        change injected s.vmcs02 = some (some event) at again
        unfold injected at again
        dsimp only at again
        rw [nothing, if_neg fun both => nomatch both.1] at again
        cases again

end

/-! ## Samples -/

/-- An exit in the delivery of `intrInfo`, which L2 was running with for an L1 without virtual
NMIs. -/
def vectoringHandler2 (intrInfo : U32) : Handler2 (U32 → U64) :=
  { eferHandler2 0 with
    vmcs02 := ((Vmcs.vmwrite (fun _ => 0) .controlVMXPinBased 0x28#32).vmwrite
      .infoIDTVectoringInformation intrInfo).vmwrite .guestInterruptibility 8#32 }

theorem redelivered_iff_sample :
    interrupted (vectoringHandler2 0x80000030).vmcs02 = some ⟨0x30, 0, none, none⟩ ∧
      Redelivered sampleMsrEnv openBitmap12 (vectoringHandler2 0x80000030)
        (.eptViolation (.cachemiss 0 0) true) ⟨0x30, 0, none, none⟩ := by
  have delivery : interrupted (vectoringHandler2 0x80000030).vmcs02 =
      some ⟨0x30, 0, none, none⟩ := by decide +kernel
  refine ⟨delivery, (redelivered_iff delivery (by unfold Handler2.Cleared; decide +kernel)
    (by decide +kernel) rfl).mpr ⟨by decide +kernel, fun nmi => ?_⟩⟩
  exact absurd nmi (by decide +kernel)

/-- The delivery of an external interrupt meets an access that EPT01 denies and the hypapp lets
pass: the interrupt is dropped. The delivery of an NMI meets a missing entry of EPT02: without
virtual NMIs in VMCS12 the VM entry fails. -/
theorem resumed_without_event :
    interrupted (vectoringHandler2 0x80000030).vmcs02 = some ⟨0x30, 0, none, none⟩ ∧
    (∃ s', handleVmexit20 sampleMsrEnv openBitmap12 (vectoringHandler2 0x80000030)
      (.eptViolation (.ept01Violation 0) true) = some (.handle202, s') ∧
      injected s'.vmcs02 = some none) ∧
    interrupted (vectoringHandler2 0x80000202).vmcs02 = some ⟨2, 2, none, none⟩ ∧
    ∃ s', handleVmexit20 sampleMsrEnv openBitmap12 (vectoringHandler2 0x80000202)
      (.eptViolation (.cachemiss 0 0) true) = some (.handle202, s') ∧
      injected s'.vmcs02 = none := by
  refine ⟨by decide +kernel, ⟨_, rfl, by decide +kernel⟩, by decide +kernel, ?_⟩
  have sample : (handleVmexit20 sampleMsrEnv openBitmap12 (vectoringHandler2 0x80000202)
      (.eptViolation (.cachemiss 0 0) true)).map (fun out => (out.1, injected out.2.vmcs02)) =
      some (.handle202, none) := by
    decide +kernel
  obtain ⟨⟨handled, s'⟩, run, facts⟩ := Option.map_eq_some_iff.mp sample
  cases (Prod.mk.inj facts).1
  exact ⟨s', run, (Prod.mk.inj facts).2⟩

end Xmhf
