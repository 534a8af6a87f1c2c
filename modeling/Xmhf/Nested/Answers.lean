import Xmhf.Nested.Tracking

/-!
# When a nested VM entry answers

A nested VM entry can end the hypervisor: the source halts on what it does not emulate, and
says so. `Emulated` lists what VMCS12 must not ask for. Under it the translation of every
field, the load of every MSR and so the whole entry answer, either with L2 running or with an
error for L1.
-/

namespace Xmhf

variable {linAddrBits : Nat} {f : VmcsField} {v : VpidCpu}

variable {ω : Type}

/-- What XMHF keeps for its entries: the VPID cache is in order, L2's NMI blocking is not
overridden, and the MSR-load area holds the MSRs that VMCS01 switches. -/
structure Vmentry.Ready (s : Vmentry ω) : Prop where
  vpid : VpidInv s.vpid
  nmi : s.info.guestVmcsBlockNmiOverridden = false
  area : ∀ msr i, getXmhfMsr msr = some i → (s.info.vmentryMsrLoadArea i).index = msr

/-- XMHF performs the load of an MSR that L1 asks for, and leaves the state `cpu'`. -/
inductive Msr12Emulated (arg : VmentryArg ω) (cpu : ω) (msr12 : MsrEntry) : ω → Prop where
  | sysenter : msr12.index ∈ [IA32_SYSENTER_CS_MSR, IA32_SYSENTER_EIP_MSR, IA32_SYSENTER_ESP_MSR] →
      Msr12Emulated arg cpu msr12 cpu
  | switched (i : Nat) : getXmhfMsr msr12.index = some i → Msr12Emulated arg cpu msr12 cpu
  | wrmsr {cpu' : ω} :
      msr12.index ∉ [IA32_SYSENTER_CS_MSR, IA32_SYSENTER_EIP_MSR, IA32_SYSENTER_ESP_MSR,
        IA32_MSR_FS_BASE, IA32_MSR_GS_BASE] →
      msr12.index &&& 0xffffff00#32 ≠ 0x800#32 → getXmhfMsr msr12.index = none →
      arg.handleWrmsr cpu msr12.index msr12.data = some (false, cpu') →
      Msr12Emulated arg cpu msr12 cpu'

/-- The entries of L1's VM-entry MSR-load area can be read and are emulated, one after the
other. -/
def MsrLoadsEmulated (arg : VmentryArg ω) : ω → List Nat → Prop
  | _, [] => True
  | cpu, i :: is =>
    let guestAddr : U64 := arg.vmcs12 .controlVMEntryMSRLoadAddress
    ∃ bytes cpu', guestmemCopyGp2h arg.ctx01 arg.mem arg.ram 0
        (guestAddr + BitVec.ofNat 64 (16 * i)) 16 = some bytes ∧
      Msr12Emulated arg cpu (msrEntryOfBytes bytes) cpu' ∧ MsrLoadsEmulated arg cpu' is

namespace VmentryArg

/-- The control words of VMCS12 and those that VMCS02 gets. -/
def ctls12 (arg : VmentryArg ω) : VmxCtls := vmcs12Ctls arg.vmcs12

def ctls02 (arg : VmentryArg ω) : VmxCtls := vmcs12ToVmcs02FlipBits arg.msrBitmap arg.ctls12

/-- L2 uses PAE paging, so that XMHF loads its PDPTEs if L1 does not use EPT. -/
def loadsPdptes (arg : VmentryArg ω) : Prop :=
  arg.ctls12.has .enableEpt = false ∧ arg.vmcs12 .guestCR0 &&& CR0_PG ≠ 0 ∧
    arg.vmcs12 .guestCR4 &&& CR4_PAE ≠ 0 ∧ arg.ctls12.has .vmentryIa32eModeGuest = false

/-- VMCS12 asks for nothing on which the source halts; `cpu` is the state in which the MSR
loads start. Two of the halts are slips: the control of `cet` is hidden only in the MSRs that are not
`TRUE`, and the VM-function controls are among `pages`, since they are declared as an address. -/
structure Emulated (arg : VmentryArg ω) (cpu : ω) : Prop where
  ctls : ctlsSupported arg arg.ctls12 = true
  cet : arg.ctls12.has .vmexitLoadCetState = false
  pages : ∀ f ∈ vmcs12ToVmcs02Fields, .gpaddr ∈ f.decl.prop → f.decl.exist arg.ctls02 = true →
    ∃ spa, guestmemGpa2spaPage arg.ctx01 arg.mem ((arg.vmcs12 f).setWidth 64) = some spa
  msrBitmap : arg.ctls12.has .useMsrBitmaps = true →
    paPageAligned4K (arg.vmcs12 .controlMSRBitmapsAddress) = true
  postedInterrupts : arg.ctls02.has .processPostedInterrupts = true →
    ∃ spa, guestmemGpa2spaSize arg.ctx01 arg.mem
      (arg.vmcs12 .controlPostedInterruptDescAddress) 64 = some spa
  guestPat : arg.ctls12.has .vmentryLoadIa32Pat = true →
    checkIa32Pat (arg.vmcs12 .guestIA32PAT) = true
  guestEfer : arg.ctls12.has .vmentryLoadIa32Efer = true →
    checkIa32Efer (arg.vmcs12 .guestIA32EFER) (arg.ctls12.has .vmentryIa32eModeGuest)
      (arg.vmcs12 .guestCR0 &&& CR0_PG != 0#64) = true
  hostPat : arg.ctls12.has .vmexitLoadIa32Pat = true → checkIa32Pat (arg.vmcs12 .hostIA32PAT) = true
  hostEfer : arg.ctls12.has .vmexitLoadIa32Efer = true →
    checkIa32Efer (arg.vmcs12 .hostIA32EFER) (arg.ctls12.has .vmexitHostAddressSpaceSize)
      true = true
  pdptes : arg.loadsPdptes → ∃ bytes, guestmemCopyGp2h arg.ctx01 arg.mem arg.ram 0
    (arg.vmcs12 .guestCR3 &&& ~~~0x1f#64) 32 = some bytes
  msrLoads : MsrLoadsEmulated arg cpu (List.range (arg.vmcs12 .controlVMEntryMSRLoadCount).toNat)

end VmentryArg

/-! ## Fields -/

section

variable {arg : VmentryArg ω} {s : Vmentry ω} {cpu : ω}

/-- A step answers and keeps what the steps after it need. -/
def Answers (s : Vmentry ω) (result : Option (VmInst × Vmentry ω)) : Prop :=
  ∃ status s', result = some (status, s') ∧ s'.cpu = s.cpu ∧ s'.Ready

namespace Answers

variable {mid : Vmentry ω} {result other : Option (VmInst × Vmentry ω)}

theorem unchanged (status : VmInst) (ready : mid.Ready) (same : mid.cpu = s.cpu) :
    Answers s (some (status, mid)) := ⟨status, mid, rfl, same, ready⟩

theorem wrote (ready : mid.Ready) (same : mid.cpu = s.cpu) (value : BitVec f.bits) :
    Answers s (Xmhf.wrote mid f value) :=
  ⟨.success, mid.vmwrite f value, rfl, same, ready.vpid, ready.nmi, ready.area⟩

theorem kept (ready : s.Ready) : Answers s (Xmhf.kept s) := .unchanged .success ready rfl

theorem ite {p : Prop} [Decidable p] (yes : p → Answers s result) (no : ¬p → Answers s other) :
    Answers s (if p then result else other) := by
  split
  · next holds => exact yes holds
  · next fails => exact no fails

theorem bind {α : Type} {x : Option α} {k : α → Option (VmInst × Vmentry ω)}
    (found : ∃ a, x = some a) (each : ∀ a, x = some a → Answers s (k a)) :
    Answers s (x.bind k) := by
  obtain ⟨a, found⟩ := found
  subst found
  exact each a rfl

end Answers

theorem executeInvvpid_answers {vpid : U16} (nonzero : vpid ≠ 0) :
    ∃ v', executeInvvpid linAddrBits v .singleContext vpid 0 = some v' := by
  refine ⟨_, if_neg ?_⟩
  rintro (⟨-, zero⟩ | ⟨other, -⟩)
  · exact nonzero zero
  · cases other

theorem getVpid02_answers (inv : VpidInv v) (vpid12 : U16) :
    ∃ result, getVpid02 linAddrBits v vpid12 = some result := by
  have inside := (inv.ordered.findEvict (by decide) vpid12).1
  have value := @lruSetFindEvict_value _ _ _ VMX_NESTED_MAX_ACTIVE_VPID v.cache vpid12
  unfold getVpid02
  generalize lruSetFindEvict VMX_NESTED_MAX_ACTIVE_VPID v.cache vpid12 = lookup at *
  rcases lookup with ⟨index, hit, set⟩
  dsimp only at inside value ⊢
  split
  · exact ⟨_, rfl⟩
  · have nonzero : (set index).value ≠ 0 := by
      rw [value index, inv.values index inside]
      intro zero
      have bits := congrArg BitVec.toNat zero
      unfold VMX_NESTED_MAX_ACTIVE_VPID at inside
      simp only [BitVec.toNat_ofNat, BitVec.ofNat_eq_ofNat] at bits
      omega
    obtain ⟨v', flushed⟩ := @executeInvvpid_answers linAddrBits { v with cache := set } _ nonzero
    rw [flushed]
    exact ⟨_, rfl⟩

theorem controlVpid_answers (inv : VpidInv v) (enableVpid : Bool) (vpid12 : U16) :
    ∃ result, vmcs12ToVmcs02ControlVpid linAddrBits v enableVpid vpid12 = some result := by
  unfold vmcs12ToVmcs02ControlVpid
  split
  · split
    · exact ⟨_, rfl⟩
    · obtain ⟨result, found⟩ := @getVpid02_answers linAddrBits v inv vpid12
      rw [found]
      exact ⟨_, rfl⟩
  · obtain ⟨v', flushed⟩ := @executeInvvpid_answers linAddrBits v 1 (by decide)
    rw [flushed]
    exact ⟨_, rfl⟩

theorem updatePaePdpte_answers (emulated : arg.Emulated cpu)
    (lacks : arg.ctls12.has .enableEpt = false) :
    ∃ s', updatePaePdpte arg arg.ctls12 s (arg.vmcs12 .guestCR3) = some s' := by
  unfold updatePaePdpte
  dsimp only
  split
  · next pae =>
    obtain ⟨bytes, copied⟩ := emulated.pdptes ⟨lacks, pae⟩
    rw [copied]
    exact ⟨_, rfl⟩
  · exact ⟨s, rfl⟩

theorem controlEPTPointer_answers (emulated : arg.Emulated cpu) (ready : s.Ready)
    (ept : arg.vmxCaps.has .enableEpt = true) :
    Answers s (vmcs12ToVmcs02ControlEPTPointer arg arg.ctls12 s) := by
  refine .ite (fun _ => .ite (fun _ => ?_) fun lacks => ?_) fun lacks => absurd ept lacks
  · split
    · exact .unchanged _ ready rfl
    · apply Answers.wrote
      · exact ⟨ready.vpid, ready.nmi, ready.area⟩
      · rfl
  · apply Answers.bind (updatePaePdpte_answers emulated (Bool.eq_false_iff.mpr lacks))
    intro mid updated
    obtain ⟨_, rfl, -⟩ := updatePaePdpte_writes updated
    apply Answers.wrote
    · exact ⟨ready.vpid, ready.nmi, ready.area⟩
    · rfl

theorem guestInterruptibility_answers (ready : s.Ready) :
    Answers s (vmcs12ToVmcs02GuestInterruptibility arg s) := by
  refine .ite (fun overridden => ?_) fun _ => ?_
  · exact absurd (overridden.symm.trans ready.nmi) (by decide)
  · apply Answers.wrote
    · exact ⟨ready.vpid, ready.nmi, ready.area⟩
    · rfl

section

variable (emulated : arg.Emulated cpu) (accepted : vmcs12GetCtls12 arg = some arg.ctls12)

include emulated accepted

theorem unsupp_lacks (translated : f ∈ vmcs12ToVmcs02Fields) (unsupp : .unsupp ∈ f.decl.prop)
    : f.decl.exist arg.ctls02 = false := by
  have allowed := (vmcs12GetCtls12_some accepted).2
  have hidden : ∀ c : VmxCtl, (∀ d ∈ flippedCtls, c.position ≠ d.position) →
      (nestedCtlCaps arg.msrBitmap arg.vmxMsrs c.word).getLsbD (32 + c.bit) = false →
      arg.ctls02.has c = false := by
    intro c same lacks
    rw [VmentryArg.ctls02, flipBits_has same]
    exact ctlsAllowed_lacks (allowed c.word) c.bit_lt lacks
  have tertiary := hidden .activateTertiaryControls (by decide)
    (nestedCtlCaps_activateTertiaryControls _ _)
  have subPage := hidden .subPageWritePermissionsForEpt (by decide)
    (nestedCtlCaps_procbased2 _ _ (.inr rfl))
  have cet : arg.ctls02.has .vmexitLoadCetState = false := by
    rw [VmentryArg.ctls02, flipBits_has (by decide)]
    exact emulated.cet
  have listed : vmcs12ToVmcs02Fields.filter (fun f => .unsupp ∈ f.decl.prop) =
      [.controlEPTPListAddress, .controlSubpagePermissionTablePointer,
        .controlTertiaryProcBasedVMexecCtls, .hostIA32SCET, .hostSSP,
        .hostIA32INTERRUPTSSPTABLEADDR] := by
    rfl
  have member : f ∈ vmcs12ToVmcs02Fields.filter (fun f => .unsupp ∈ f.decl.prop) :=
    List.mem_filter.mpr ⟨translated, decide_eq_true unsupp⟩
  rw [listed] at member
  simp only [List.mem_cons, List.not_mem_nil, or_false] at member
  rcases member with rfl | rfl | rfl | rfl | rfl | rfl
  · rfl
  · exact (Bool.or_false _).trans subPage
  · exact (Bool.or_false _).trans tertiary
  iterate 3 exact (Bool.or_false _).trans cet

theorem translateByProp_answers (ready : s.Ready) (translated : f ∈ vmcs12ToVmcs02Fields)
    (declared : .idGuest ∈ f.decl.prop ∨ .gpaddr ∈ f.decl.prop ∨ .ignore ∈ f.decl.prop ∨ .idHost ∈
      f.decl.prop ∨ .unsupp ∈ f.decl.prop)
    : Answers s (translateByProp arg arg.ctls02 s f) := by
  refine .ite (fun _ => .ite (fun _ => .wrote ready rfl _) fun _ => .kept ready) fun notGuest => ?_
  refine .ite (fun gpaddr => .ite (fun exist => ?_) fun _ => .kept ready) fun notGpaddr => ?_
  · exact .bind (emulated.pages f translated gpaddr exist) fun _ _ => .wrote ready rfl _
  refine .ite (fun _ => .kept ready) fun notIgnored => .ite (fun unsupp => ?_) fun supported => ?_
  · rw [unsupp_lacks emulated accepted translated unsupp]
    exact .kept ready
  · rw [not_or] at notIgnored
    rcases declared with guest | gpaddr | ignored | host | unsupp
    · exact absurd guest notGuest
    · exact absurd gpaddr notGpaddr
    · exact absurd ignored notIgnored.1
    · exact absurd host notIgnored.2
    · exact absurd unsupp supported

end

def undeclaredFields : List VmcsField :=
  [.controlVpid, .controlMSRBitmapsAddress, .controlVMExitMSRStoreAddress,
    .controlVMExitMSRLoadAddress, .controlVMEntryMSRLoadAddress,
    .controlPostedInterruptDescAddress, .controlEPTPointer, .guestIA32PAT, .guestIA32EFER,
    .guestPDPTE0, .guestPDPTE1, .guestPDPTE2, .guestPDPTE3, .hostIA32PAT, .hostIA32EFER,
    .hostIA32PERFGLOBALCTRL, .hostIA32PKRS, .controlVMXPinBased, .controlVMXCpuBased,
    .controlVMExitControls, .controlVMEntryControls, .controlVMXSeccpuBased,
    .controlVMExitMSRStoreCount, .controlVMExitMSRLoadCount, .controlVMEntryMSRLoadCount,
    .controlVMEntryInterruptionInformation, .guestInterruptibility]

theorem declared_or_undeclared (translated : f ∈ vmcs12ToVmcs02Fields) :
    f ∈ undeclaredFields ∨ .idGuest ∈ f.decl.prop ∨ .gpaddr ∈ f.decl.prop ∨
      .ignore ∈ f.decl.prop ∨ .idHost ∈ f.decl.prop ∨ .unsupp ∈ f.decl.prop := by
  have checked : (vmcs12ToVmcs02Fields.all fun f => decide (f ∈ undeclaredFields ∨
      .idGuest ∈ f.decl.prop ∨ .gpaddr ∈ f.decl.prop ∨ .ignore ∈ f.decl.prop ∨
      .idHost ∈ f.decl.prop ∨ .unsupp ∈ f.decl.prop)) = true := by
    decide +kernel
  exact of_decide_eq_true (List.all_eq_true.mp checked f translated)

theorem vmcs12ToVmcs02Field_answers (emulated : arg.Emulated cpu)
    (accepted : vmcs12GetCtls12 arg = some arg.ctls12) (ept : arg.vmxCaps.has .enableEpt = true)
    (ready : s.Ready) (translated : f ∈ vmcs12ToVmcs02Fields) :
    Answers s (vmcs12ToVmcs02Field arg arg.ctls12 arg.ctls02 s f) := by
  have declared := declared_or_undeclared translated
  unfold vmcs12ToVmcs02Field
  split
  · -- VPID
    apply Answers.bind (controlVpid_answers ready.vpid _ _)
    rintro ⟨valid, vpid02, vpid⟩ found
    have ready' : ({ s with vpid := vpid } : Vmentry ω).Ready :=
      ⟨ready.vpid.entered found, ready.nmi, ready.area⟩
    exact .ite (fun _ => .wrote ready' rfl _) fun _ => .unchanged _ ready' rfl
  · refine .ite (fun misaligned => ?_) fun _ => .wrote ready rfl _
    rw [Bool.and_eq_true, Bool.not_eq_true'] at misaligned
    exact absurd (emulated.msrBitmap misaligned.1) (by rw [misaligned.2]; decide)
  iterate 3 exact .wrote ready rfl _
  · -- posted-interrupt descriptor
    refine .ite (fun posted => .ite (fun _ => .unchanged _ ready rfl) fun _ => ?_) fun _ => .kept ready
    exact .bind (emulated.postedInterrupts posted) fun _ _ => .wrote ready rfl _
  · exact controlEPTPointer_answers emulated ready ept
  · refine .ite (fun loads => ?_) fun _ => .unchanged _ ⟨ready.vpid, ready.nmi, ready.area⟩ rfl
    rw [if_pos (emulated.guestPat loads)]
    exact .unchanged _ ⟨ready.vpid, ready.nmi, ready.area⟩ rfl
  · refine .ite (fun loads => ?_) fun _ => .unchanged _ ⟨ready.vpid, ready.nmi, ready.area⟩ rfl
    refine .ite (fun _ => .unchanged _ ⟨ready.vpid, ready.nmi, ready.area⟩ rfl) fun refused => ?_
    exact absurd (emulated.guestEfer loads) refused
  iterate 4 exact .ite (fun _ => .wrote ready rfl _) fun _ => .kept ready
  · refine .ite (fun refused => ?_) fun _ => .kept ready
    rw [Bool.and_eq_true, Bool.not_eq_true'] at refused
    exact absurd (emulated.hostPat refused.1) (by rw [refused.2]; decide)
  · refine .ite (fun refused => ?_) fun _ => .kept ready
    rw [Bool.and_eq_true, Bool.not_eq_true'] at refused
    exact absurd (emulated.hostEfer refused.1) (by rw [refused.2]; decide)
  · split
    · exact .ite (fun _ => .wrote ready rfl _) fun _ => .kept ready
    · exact .kept ready
  · exact .ite (fun _ => .wrote ready rfl _) fun _ => .kept ready
  iterate 11 exact .wrote ready rfl _
  · exact guestInterruptibility_answers ready
  · refine .ite (fun _ => .wrote ready rfl _) fun _ => ?_
    rcases declared with undeclared | declared
    · simp only [undeclaredFields, List.mem_cons, List.not_mem_nil, or_false] at undeclared
      rcases undeclared with rfl | rfl | rfl | rfl | rfl | rfl | rfl | rfl | rfl | rfl | rfl |
        rfl | rfl | rfl | rfl | rfl | rfl | rfl | rfl | rfl | rfl | rfl | rfl | rfl | rfl | rfl |
        rfl
      all_goals exact absurd rfl (by assumption)
    · exact translateByProp_answers emulated accepted ready translated declared

/-! ## The whole entry -/

theorem loadMsr12_answers {msr12 : MsrEntry} {cpu' : ω} (ready : s.Ready)
    (emulated : Msr12Emulated arg s.cpu msr12 cpu') :
    ∃ s', loadMsr12 arg s msr12 = some s' ∧ s'.cpu = cpu' ∧ s'.Ready := by
  have ready' : ∀ vmcs02, ({ s with vmcs02 := vmcs02 } : Vmentry ω).Ready := fun _ =>
    ⟨ready.vpid, ready.nmi, ready.area⟩
  unfold loadMsr12
  cases emulated with
  | sysenter member =>
    simp only [List.mem_cons, List.not_mem_nil, or_false] at member
    rcases member with cs | eip | esp
    · rw [if_pos cs]
      exact ⟨_, rfl, rfl, ready' _⟩
    · rw [if_neg (by rw [eip]; decide), if_pos eip]
      exact ⟨_, rfl, rfl, ready' _⟩
    · rw [if_neg (by rw [esp]; decide), if_neg (by rw [esp]; decide), if_pos esp]
      exact ⟨_, rfl, rfl, ready' _⟩
  | switched i found =>
    have index : msr12.index = MSR_EFER ∨ msr12.index = MSR_IA32_PAT := by
      unfold getXmhfMsr at found
      split at found
      · next efer => exact .inl efer
      · split at found
        · next pat => exact .inr pat
        · cases found
    have skips : msr12.index ≠ IA32_SYSENTER_CS_MSR ∧ msr12.index ≠ IA32_SYSENTER_EIP_MSR ∧
        msr12.index ≠ IA32_SYSENTER_ESP_MSR ∧
        ¬(msr12.index = IA32_MSR_FS_BASE ∨ msr12.index = IA32_MSR_GS_BASE) ∧
        msr12.index &&& 0xffffff00#32 ≠ 0x800#32 := by
      rcases index with efer | pat
      · rw [efer]
        decide
      · rw [pat]
        decide
    obtain ⟨notCs, notEip, notEsp, notBase, notX2apic⟩ := skips
    rw [if_neg notCs, if_neg notEip, if_neg notEsp, if_neg notBase, if_neg notX2apic, found]
    dsimp only
    rw [if_pos (ready.area _ i found)]
    refine ⟨_, rfl, rfl, ready.vpid, ready.nmi, fun msr j listed => ?_⟩
    dsimp only
    by_cases here : j = i
    · subst here
      rw [Function.update_self]
      exact ready.area msr j listed
    · rw [Function.update_of_ne here]
      exact ready.area msr j listed
  | wrmsr notOwn notX2apic notSwitched done =>
    simp only [List.mem_cons, List.not_mem_nil, or_false, not_or] at notOwn
    obtain ⟨notCs, notEip, notEsp, notFs, notGs⟩ := notOwn
    rw [if_neg notCs, if_neg notEip, if_neg notEsp, if_neg (not_or.mpr ⟨notFs, notGs⟩),
      if_neg notX2apic, notSwitched]
    rw [done]
    exact ⟨_, rfl, rfl, ready.vpid, ready.nmi, ready.area⟩

theorem vmentryMsrLoads_answer {is : List Nat} (ready : s.Ready)
    (emulated : MsrLoadsEmulated arg s.cpu is) :
    ∃ s', (vmentryMsrLoads arg).run s is = some s' := by
  induction is generalizing s with
  | nil => exact ⟨s, rfl⟩
  | cons i is ih =>
    obtain ⟨bytes, cpu', copied, first, rest⟩ := emulated
    obtain ⟨mid, loaded, cpu, ready'⟩ := loadMsr12_answers ready first
    rw [← cpu] at rest
    obtain ⟨s', later⟩ := ih ready' rest
    have step : (vmentryMsrLoads arg).step s i = some mid :=
      Option.bind_eq_some_iff.mpr ⟨bytes, copied, loaded⟩
    refine ⟨s', ?_⟩
    rw [Machine.run, List.foldlM_cons]
    exact Option.bind_eq_some_iff.mpr ⟨mid, step, later⟩

theorem setPatEfer_ready (ready : s.Ready) : (setPatEfer s).Ready := by
  refine ⟨ready.vpid, ready.nmi, fun msr i listed => ?_⟩
  have index := ready.area msr i listed
  unfold setPatEfer
  dsimp only
  by_cases efer : i = 0
  · subst efer
    rw [Function.update_self, Function.update_of_ne (by decide)]
    exact index
  · rw [Function.update_of_ne efer]
    by_cases pat : i = 1
    · subst pat
      rw [Function.update_self]
      exact index
    · rw [Function.update_of_ne pat]
      exact index

theorem vmcs12ToVmcs02_answers (emulated : arg.Emulated s.cpu) (ready : s.Ready)
    (ept : arg.vmxCaps.has .enableEpt = true) :
    ∃ status s', vmcs12ToVmcs02 arg s = some (status, s') := by
  unfold vmcs12ToVmcs02
  cases checked : vmcs12GetCtls12 arg with
  | none => exact ⟨_, _, rfl⟩
  | some ctls12 =>
    have words : ctls12 = arg.ctls12 := (vmcs12GetCtls12_some checked).1
    subst words
    have answered : ∃ status start, vmcs12ToVmcs02Ctls arg arg.ctls12 s =
        some (status, arg.ctls02, start) ∧ start.cpu = s.cpu ∧ start.Ready := by
      unfold vmcs12ToVmcs02Ctls
      split
      · rw [if_pos emulated.ctls]
        exact ⟨_, _, rfl, rfl, ready.vpid, ready.nmi, ready.area⟩
      · exact ⟨_, _, rfl, rfl, ready.vpid, ready.nmi, ready.area⟩
    obtain ⟨status, start, computed, startCpu, startReady⟩ := answered
    dsimp only
    rw [computed, Option.bind_some]
    split
    · obtain ⟨status, mid, pass, midCpu, midReady⟩ :=
        @Pass.pass_answers _ _ _ _ .success
          (fun f s => vmcs12ToVmcs02Field arg arg.ctls12 arg.ctls02 s f)
          vmcs12ToVmcs02Fields start (fun t => t.cpu = s.cpu ∧ t.Ready)
          (fun f translated t kept => by
            obtain ⟨status, t', step, same, ready'⟩ :=
              vmcs12ToVmcs02Field_answers emulated checked ept kept.2 translated
            exact ⟨status, t', step, same.trans kept.1, ready'⟩)
          ⟨startCpu, startReady⟩
      rw [pass, Option.bind_some]
      split
      · have loads := emulated.msrLoads
        rw [← midCpu] at loads
        obtain ⟨s', loaded⟩ :=
          @vmentryMsrLoads_answer _ arg (setPatEfer mid) _ (setPatEfer_ready midReady) loads
        have load : vmentryMsrLoad arg mid = some s' := loaded
        rw [load]
        exact ⟨_, _, rfl⟩
      · exact ⟨_, _, rfl⟩
    · exact ⟨_, _, rfl⟩

end

/-- How `VMLAUNCH` or `VMRESUME` ends: with an exception, which is for L1 to avoid, with
VMfailInvalid without a current VMCS12, with VMfailValid and an error number in the current
VMCS12, or in L2. -/
inductive VmentryOutcome (env : VmxInstEnv) (vmcs : Vmcs) (s : VmxGuest) :
    Vmcs → VmxGuest → Prop where
  | undefined : nestedCheckUd env.toNestedEnv vmcs s.nested = some true →
      VmentryOutcome env vmcs s (vmcs.injectException CPU_EXCEPTION_UD false 0) s
  | unprivileged : 0 < vmcs.guestCpl →
      VmentryOutcome env vmcs s (vmcs.injectException CPU_EXCEPTION_GP true 0) s
  | failInvalid : s.nested.hasCurrent = false →
      VmentryOutcome env vmcs s vmcs.vmFailInvalid.advance s
  | failValid {s' : VmxGuest} (i : Nat) (errorNumber : U32) : s.nested.findCurrent = some i →
      s'.nested.mode = .root → errorNumber ≠ 0 →
      (s'.nested.active i).vmcs12Value .infoVminstrError = errorNumber →
      VmentryOutcome env vmcs s vmcs.vmFailValid.advance s'
  | entered {s' : VmxGuest} (i : Nat) : s.nested.findCurrent = some i →
      s'.nested.mode = .nonroot → VmentryOutcome env vmcs s vmcs s'

section

variable {env : VmxInstEnv} {entry : VmentryEnv ω} {vmcs : Vmcs} {s : VmxGuest}

/-- The state in which the VMCS12 in slot `i` is translated. -/
def VmxGuest.atVmentry (s : VmxGuest) (env : VmxInstEnv) (i : Nat) : VmxGuest :=
  { s with nested := readShadow env s.nested i }

theorem Nested.Tracked.findCurrent (tracked : s.nested.Tracked)
    (current : s.nested.hasCurrent = true) : ∃ i, s.nested.findCurrent = some i := by
  rcases tracked.current with invalid | ⟨i, cur, active⟩
  · unfold Nested.hasCurrent at current
    rw [invalid] at current
    cases current
  · refine ⟨_, if_pos ⟨current, ?_⟩⟩
    have small := active.2.1
    rw [cur, BitVec.toNat_ofNat]
    omega

theorem vmxFailValid_outcome {s' : VmxGuest} {i : Nat} {errorNumber : U32}
    (current : s.nested.findCurrent = some i) (same : s'.nested.curVmcs12 = s.nested.curVmcs12)
    (root : s'.nested.mode = .root) (nonzero : errorNumber ≠ 0) :
    ∃ vmcs'' s'', vmxRetire (vmxFailValid vmcs s' errorNumber) = some (vmcs'', s'') ∧
      VmentryOutcome env vmcs s vmcs'' s'' := by
  have current' : s'.nested.findCurrent = some i := by
    unfold Nested.findCurrent Nested.hasCurrent at current ⊢
    rw [same]
    exact current
  unfold vmxFailValid Nested.setVminstrError
  rw [current']
  refine ⟨_, _, rfl, .failValid i errorNumber current root nonzero ?_⟩
  rw [modify_self]
  exact Vmcs.vmwrite_self (s'.nested.active i).vmcs12Value .infoVminstrError errorNumber

/-- `VMLAUNCH` and `VMRESUME` of a VMCS12 that XMHF emulates enter L2 or give L1 an error. -/
theorem vmlaunch_vmresume_answers (isVmresume : Bool) (efer : env.efer.isSome)
    (tracked : s.nested.Tracked) (l1 : s.nested.mode ≠ .nonroot)
    (nestEntry : entry.nestEntry = true) (ept : env.vmxCaps.has .enableEpt = true)
    (ready : entry.start.Ready)
    (emulated : ∀ i, s.nested.findCurrent = some i →
      (entry.argAt env vmcs (s.atVmentry env i) i).Emulated entry.start.cpu)
    (enters : ∀ i result, s.nested.findCurrent = some i →
      vmcs12ToVmcs02 (entry.argAt env vmcs (s.atVmentry env i) i) entry.start =
        some (.success, result) → entry.enters result.vmcs02 = true) :
    ∃ vmcs' s', handleVmlaunchVmresume env entry vmcs s isVmresume = some (vmcs', s') ∧
      VmentryOutcome env vmcs s vmcs' s' := by
  unfold handleVmlaunchVmresume vmxChecked
  obtain ⟨ud, checked⟩ : ∃ ud, nestedCheckUd env.toNestedEnv vmcs s.nested = some ud := by
    obtain ⟨value, found⟩ := Option.isSome_iff_exists.mp efer
    unfold nestedCheckUd nestedCheckMode
    rw [found]
    split
    · exact ⟨_, rfl⟩
    · exact ⟨_, rfl⟩
  rw [checked, Option.bind_some]
  cases ud with
  | true => exact ⟨_, _, rfl, .undefined checked⟩
  | false =>
    have root : s.nested.mode = .root := by
      obtain ⟨mode, -, answer⟩ := Option.map_eq_some_iff.mp checked
      rw [Bool.or_eq_false_iff] at answer
      cases real : s.nested.mode with
      | disabled =>
        rw [real] at answer
        exact absurd answer.2 (by decide)
      | root => rfl
      | nonroot => exact absurd real l1
    rw [if_neg Bool.false_ne_true, if_neg (not_not.mpr root)]
    split
    · next unprivileged => exact ⟨_, _, rfl, .unprivileged unprivileged⟩
    split
    · next lacks =>
      rw [Bool.not_eq_true'] at lacks
      exact ⟨_, _, rfl, .failInvalid lacks⟩
    · next has =>
      have current : s.nested.hasCurrent = true := by
        rwa [Bool.not_eq_true, Bool.not_eq_false'] at has
      obtain ⟨i, found⟩ := tracked.findCurrent current
      split
      · exact vmxFailValid_outcome found rfl root (by decide)
      rw [found, Option.bind_some]
      unfold vmlaunchVmresumeSlot
      split
      · exact vmxFailValid_outcome found rfl root (by decide)
      split
      · exact vmxFailValid_outcome found rfl root (by decide)
      · obtain ⟨mode, -, cur, -⟩ := readShadow_same env s.nested i
        obtain ⟨status, result, translated⟩ :=
          vmcs12ToVmcs02_answers (emulated i found) ready ept
        have accepted := enters i result found
        unfold handleVmentry
        rw [if_pos nestEntry]
        dsimp only
        unfold VmxGuest.atVmentry at translated accepted
        rw [translated, Option.bind_some]
        cases status with
        | success =>
          rw [if_pos rfl, if_pos ⟨mode.trans root, accepted translated⟩]
          exact ⟨_, _, rfl, .entered i found rfl⟩
        | errnoVmentryInvalidCtrl =>
          exact vmxFailValid_outcome found cur (mode.trans root) (by decide)

end

def sampleRoot : VmxGuest where
  regs := (sampleL1 0).regs
  ram := (sampleL1 0).ram
  nested :=
    { mode := .root
      vmxonPointer := 0x4000
      curVmcs12 := 0
      active := fun i => ⟨if i = 0 then 0x5000 else CUR_VMCS_PTR_INVALID, fun _ => 0, false⟩ }

theorem sampleRoot_tracked : sampleRoot.nested.Tracked := by
  have only : ∀ i, sampleRoot.nested.Active i → i = 0 := by
    intro i active
    by_contra other
    exact active.2.2 (if_neg other)
  have active : sampleRoot.nested.Active 0 := ⟨by decide, by decide, by decide⟩
  refine ⟨?_, ?_, ?_, .inr ⟨0, rfl, active⟩, fun l2 => by cases l2⟩
  · intro i j activeI activeJ _
    rw [only i activeI, only j activeJ]
  · intro i active
    rw [only i active]
    decide
  · intro i active
    rw [only i active]
    decide

theorem sampleVmentryEnv_ready : sampleVmentryEnv.start.Ready := by
  refine ⟨vpidInv_of_reachable (sampleVpidCpu_starts 48), rfl, fun msr i listed => ?_⟩
  unfold getXmhfMsr at listed
  split at listed
  · next efer =>
    cases listed
    exact efer.symm
  · split at listed
    · next pat =>
      cases listed
      exact pat.symm
    · cases listed

theorem sampleRoot_emulated : (sampleVmentryEnv.argAt (sampleL1 0).env (sampleL1 0).vmcs
      (sampleRoot.atVmentry (sampleL1 0).env 0) 0).Emulated () where
  ctls := by decide +kernel
  cet := by decide +kernel
  pages := by
    have lacks : (vmcs12ToVmcs02Fields.all fun f => !(decide (.gpaddr ∈ f.decl.prop)) ||
        !f.decl.exist (sampleVmentryEnv.argAt (sampleL1 0).env (sampleL1 0).vmcs
          (sampleRoot.atVmentry (sampleL1 0).env 0) 0).ctls02) = true := by
      decide +kernel
    intro f translated gpaddr exist
    have none := List.all_eq_true.mp lacks f translated
    rw [exist, decide_eq_true gpaddr] at none
    cases none
  msrBitmap used := absurd used (by decide +kernel)
  postedInterrupts used := absurd used (by decide +kernel)
  guestPat loads := absurd loads (by decide +kernel)
  guestEfer loads := absurd loads (by decide +kernel)
  hostPat loads := absurd loads (by decide +kernel)
  hostEfer loads := absurd loads (by decide +kernel)
  pdptes loads := absurd loads.2.1 (by decide +kernel)
  msrLoads := trivial

theorem vmlaunch_answers_sample :
    ∃ vmcs' s', handleVmlaunchVmresume (sampleL1 0).env sampleVmentryEnv (sampleL1 0).vmcs
        sampleRoot false = some (vmcs', s') ∧
      VmentryOutcome (sampleL1 0).env (sampleL1 0).vmcs sampleRoot vmcs' s' := by
  have current : sampleRoot.nested.findCurrent = some 0 := by decide
  refine vmlaunch_vmresume_answers false rfl sampleRoot_tracked (by decide) rfl (by decide)
    sampleVmentryEnv_ready (fun i found => ?_) fun _ _ _ _ => rfl
  rw [current] at found
  cases found
  exact sampleRoot_emulated

def sampleInjectNmi : L1 :=
  { sampleL1 0 with
    vmcs := (sampleL1 0).vmcs.vmwrite .infoVmxInstructionInformation 0x408
    regs := fun g => if g = .rax then 0x4016 else if g = .rcx then 0x80000202 else 0 }

/-- L1 asks for an NMI to be injected without "NMI exiting", which XMHF does not support. -/
theorem vmlaunch_halts_on_nmi_injection : ((nestedMachine Unit).run sampleNested
      [.vmxon (sampleL1 0x3000), .vmptrld (sampleL1 0x3008), .vmwrite sampleInjectNmi]).isSome ∧
    (nestedMachine Unit).run sampleNested
      [.vmxon (sampleL1 0x3000), .vmptrld (sampleL1 0x3008), .vmwrite sampleInjectNmi,
        .vmlaunch (sampleL1 0) sampleVmentryEnv] = none := by
  constructor
  · decide +kernel
  · apply Option.isNone_iff_eq_none.mp
    decide +kernel

end Xmhf
