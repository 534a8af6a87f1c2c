import Xmhf.Nested.Vmcs12

/-!
# What a nested entry leaves in VMCS02

A field's translation writes that field of VMCS02 and no other, except that the
translation of the EPT pointer also writes the PDPTEs; the MSR load at the end
writes the three SYSENTER fields. Hence, after an entry that succeeds, the other
fields are as their own translation has left them (`vmcs12ToVmcs02_field`).
-/

namespace Xmhf

variable {ω : Type} {arg : VmentryArg ω} {ctls12 ctls : VmxCtls} {s s' : Vmentry ω}

/-! ## One field -/

/-- The fields that more than one step of an entry writes. -/
def sharedFields : List VmcsField :=
  [.guestPDPTE0, .guestPDPTE1, .guestPDPTE2, .guestPDPTE3, .guestSYSENTERCS, .guestSYSENTEREIP,
    .guestSYSENTERESP]

/-- A step that starts in `s` changes, of the fields that one step writes, at most `f`,
and the EPT02 cache only if `f` is the EPT pointer. -/
def WritesOnly (f : VmcsField) (s : Vmentry ω) (result : Option (VmInst × Vmentry ω)) : Prop :=
  ∀ status s', result = some (status, s') →
    (∀ g, g ≠ f → g ∉ sharedFields → s'.vmcs02 g = s.vmcs02 g) ∧
    (f ≠ .controlEPTPointer → s'.ept02 = s.ept02)

namespace WritesOnly

variable {f : VmcsField} {mid : Vmentry ω} {result : Option (VmInst × Vmentry ω)}

theorem halt : WritesOnly f s none := by
  intro status s' stopped
  cases stopped

theorem unchanged (fields : mid.vmcs02 = s.vmcs02) (cache : mid.ept02 = s.ept02)
    (status : VmInst) : WritesOnly f s (some (status, mid)) := by
  intro status' s' result
  cases result
  exact ⟨fun g _ _ => congrFun fields g, fun _ => cache⟩

theorem wrote (fields : ∀ g, g ≠ f → g ∉ sharedFields → mid.vmcs02 g = s.vmcs02 g)
    (cache : f ≠ .controlEPTPointer → mid.ept02 = s.ept02) (value : BitVec f.bits) :
    WritesOnly f s (Xmhf.wrote mid f value) := by
  intro status s' result
  cases result
  refine ⟨fun g other notShared => ?_, cache⟩
  exact (Vmcs.vmwrite_other other mid.vmcs02 value).trans (fields g other notShared)

theorem wroteSelf (value : BitVec f.bits) : WritesOnly f s (Xmhf.wrote s f value) :=
  wrote (fun _ _ _ => rfl) (fun _ => rfl) value

theorem kept : WritesOnly f s (Xmhf.kept s) := unchanged rfl rfl .success

theorem ite {p : Prop} [Decidable p] {other : Option (VmInst × Vmentry ω)}
    (yes : WritesOnly f s result) (no : WritesOnly f s other) :
    WritesOnly f s (if p then result else other) := by
  split
  · exact yes
  · exact no

theorem bind {α : Type} {x : Option α} {k : α → Option (VmInst × Vmentry ω)}
    (each : ∀ a, x = some a → WritesOnly f s (k a)) : WritesOnly f s (x.bind k) := by
  cases x with
  | none => exact halt
  | some a => exact each a rfl

end WritesOnly

theorem updatePaePdpte_writes {guestCR3 : U64}
    (updated : updatePaePdpte arg ctls12 s guestCR3 = some s') :
    ∃ vmcs02, s' = { s with vmcs02 } ∧ ∀ g, g ∉ sharedFields → vmcs02 g = s.vmcs02 g := by
  unfold updatePaePdpte at updated
  dsimp only at updated
  split at updated
  · rcases Option.map_eq_some_iff.mp updated with ⟨bytes, -, rfl⟩
    refine ⟨_, rfl, fun g notShared => ?_⟩
    simp only [sharedFields, List.mem_cons, not_or] at notShared
    rcases notShared with ⟨not0, not1, not2, not3, -⟩
    unfold Vmentry.vmwrite
    dsimp only
    rw [Vmcs.vmwrite_other not3, Vmcs.vmwrite_other not2, Vmcs.vmwrite_other not1,
      Vmcs.vmwrite_other not0]
  · cases updated
    exact ⟨_, rfl, fun _ _ => rfl⟩

theorem controlEPTPointer_writes :
    WritesOnly .controlEPTPointer s (vmcs12ToVmcs02ControlEPTPointer arg ctls12 s) := by
  apply WritesOnly.ite _ .halt
  apply WritesOnly.ite
  · split
    · exact .unchanged rfl rfl _
    · apply WritesOnly.wrote
      · intro g _ _
        rfl
      · intro other
        exact absurd rfl other
  · apply WritesOnly.bind
    intro mid updated
    obtain ⟨_, rfl, others⟩ := updatePaePdpte_writes updated
    apply WritesOnly.wrote
    · exact fun g _ => others g
    · exact fun _ => rfl

theorem translateByProp_writes (f : VmcsField) :
    WritesOnly f s (translateByProp arg ctls s f) := by
  apply WritesOnly.ite (.ite (.wroteSelf _) .kept)
  apply WritesOnly.ite (.ite (.bind fun spa _ => .wroteSelf _) .kept)
  exact .ite .kept (.ite (.ite .halt .kept) .halt)

theorem vmcs12ToVmcs02Field_writes (f : VmcsField) :
    WritesOnly f s (vmcs12ToVmcs02Field arg ctls12 ctls s f) := by
  unfold vmcs12ToVmcs02Field
  split
  · -- VPID
    apply WritesOnly.bind
    intro lookup _
    exact .ite (.wrote (fun _ _ _ => rfl) (fun _ => rfl) _) (.unchanged rfl rfl _)
  · exact .ite .halt (.wroteSelf _)
  iterate 3 exact .wroteSelf _
  · -- posted-interrupt descriptor
    exact .ite (.ite (.unchanged rfl rfl _) (.bind fun _ _ => .wroteSelf _)) .kept
  · exact controlEPTPointer_writes
  · -- guest PAT and EFER only change the arguments of the MSR load
    exact .ite (.ite (.unchanged rfl rfl _) .halt) (.unchanged rfl rfl _)
  · exact .ite (.ite (.unchanged rfl rfl _) .halt) (.unchanged rfl rfl _)
  iterate 4 exact .ite (.wroteSelf _) .kept
  · exact .ite .halt .kept
  · exact .ite .halt .kept
  · -- host IA32_PERF_GLOBAL_CTRL
    split
    · exact .ite (.wroteSelf _) .kept
    · exact .kept
  · exact .ite (.wroteSelf _) .kept
  iterate 11 exact .wroteSelf _
  · exact .ite .halt (.wrote (fun _ _ _ => rfl) (fun _ => rfl) _)
  · exact .ite (.wroteSelf _) (translateByProp_writes _)

/-! ## The whole entry -/

theorem loadMsr12_other {msr12 : MsrEntry} (loaded : loadMsr12 arg s msr12 = some s') :
    (∀ g, g ∉ sharedFields → s'.vmcs02 g = s.vmcs02 g) ∧ s'.ept02 = s.ept02 := by
  have wrote : ∀ {f : VmcsField} (value : BitVec f.bits), f ∈ sharedFields →
      (∀ g, g ∉ sharedFields → (s.vmwrite f value).vmcs02 g = s.vmcs02 g) ∧
        (s.vmwrite f value).ept02 = s.ept02 := by
    intro f value shared
    refine ⟨fun g notShared => ?_, rfl⟩
    apply Vmcs.vmwrite_other
    intro same
    subst same
    exact notShared shared
  unfold loadMsr12 at loaded
  split at loaded
  · cases loaded
    exact wrote _ (by decide)
  split at loaded
  · cases loaded
    exact wrote _ (by decide)
  split at loaded
  · cases loaded
    exact wrote _ (by decide)
  split at loaded
  · cases loaded
  split at loaded
  · cases loaded
  split at loaded
  · split at loaded
    · cases loaded
      exact ⟨fun _ _ => rfl, rfl⟩
    · cases loaded
  · rcases Option.bind_eq_some_iff.mp loaded with ⟨⟨fails, cpu⟩, -, result⟩
    dsimp only at result
    split at result
    · cases result
    · cases result
      exact ⟨fun _ _ => rfl, rfl⟩

theorem vmentryMsrLoad_other (loaded : vmentryMsrLoad arg s = some s') :
    (∀ g, g ∉ sharedFields → s'.vmcs02 g = s.vmcs02 g) ∧ s'.ept02 = s.ept02 := by
  apply Machine.run_invariant
    _ (fun _ _ => trivial) _ loaded
  · intro mid i next kept _ step
    rcases Option.bind_eq_some_iff.mp step with ⟨bytes, -, loaded⟩
    rcases loadMsr12_other loaded with ⟨fields, cache⟩
    exact ⟨fun g notShared => (fields g notShared).trans (kept.1 g notShared), cache.trans kept.2⟩
  · exact ⟨fun _ _ => rfl, rfl⟩

theorem vmcs12GetCtls12_some (checked : vmcs12GetCtls12 arg = some ctls12) :
    ctls12 = vmcs12Ctls arg.vmcs12 ∧ ∀ word,
      ctlsAllowed (nestedCtlCaps arg.msrBitmap arg.vmxMsrs word) (ctls12 word) = true := by
  unfold vmcs12GetCtls12 at checked
  dsimp only at checked
  split at checked
  · next allowed =>
    cases checked
    simp only [List.all_cons, List.all_nil, Bool.and_eq_true] at allowed
    rcases allowed with ⟨pin, proc, exit, entry, proc2, -⟩
    refine ⟨rfl, fun word => ?_⟩
    cases word with
    | pinbased => exact pin
    | procbased => exact proc
    | procbased2 => exact proc2
    | exit => exact exit
    | entry => exact entry
  · cases checked

variable {status : VmInst} {c : VmxCtl}

theorem vmcs12ToVmcs02Ctls_some
    (computed : vmcs12ToVmcs02Ctls arg ctls12 s = some (status, ctls, s')) :
    ctls = vmcs12ToVmcs02FlipBits arg.msrBitmap ctls12 ∧ s'.ept02 = s.ept02 := by
  unfold vmcs12ToVmcs02Ctls at computed
  split at computed
  · split at computed
    · cases computed
      exact ⟨rfl, rfl⟩
    · cases computed
  · cases computed
    exact ⟨rfl, rfl⟩

theorem vmcs12ToVmcs02_success (entered : vmcs12ToVmcs02 arg s = some (.success, s')) :
    vmcs12GetCtls12 arg = some (vmcs12Ctls arg.vmcs12) ∧ ∃ start mid, start.ept02 = s.ept02 ∧
      Pass.pass .success (fun f s => vmcs12ToVmcs02Field arg (vmcs12Ctls arg.vmcs12)
        (vmcs12ToVmcs02FlipBits arg.msrBitmap (vmcs12Ctls arg.vmcs12)) s f)
        vmcs12ToVmcs02Fields start = some (.success, mid) ∧
      vmentryMsrLoad arg mid = some s' := by
  unfold vmcs12ToVmcs02 at entered
  split at entered
  · cases entered
  · next ctls12 checked =>
    have words := (vmcs12GetCtls12_some checked).1
    subst words
    rcases Option.bind_eq_some_iff.mp entered with ⟨⟨status, ctls, start⟩, computed, rest⟩
    rcases vmcs12ToVmcs02Ctls_some computed with ⟨flipped, cache⟩
    subst flipped
    dsimp only at rest
    split at rest
    · rcases Option.bind_eq_some_iff.mp rest with ⟨⟨status, mid⟩, pass, last⟩
      split at last
      · next success =>
        subst success
        rcases Option.map_eq_some_iff.mp last with ⟨loadedState, loaded, result⟩
        cases result
        exact ⟨checked, start, mid, cache, pass, loaded⟩
      · next failure =>
        cases last
        exact absurd rfl failure
    · next failure =>
      cases rest
      exact absurd rfl failure

theorem vmcs12ToVmcs02Field_ordered {f : VmcsField}
    (ordered : LruOrdered arg.ept02.nlines s.ept02.cache)
    (step : vmcs12ToVmcs02Field arg ctls12 ctls s f = some (status, s')) :
    LruOrdered arg.ept02.nlines s'.ept02.cache := by
  by_cases pointer : f = .controlEPTPointer
  · subst pointer
    change vmcs12ToVmcs02ControlEPTPointer arg ctls12 s = some (status, s') at step
    unfold vmcs12ToVmcs02ControlEPTPointer at step
    split at step
    · split at step
      · split at step
        · cases step
          exact ordered
        · cases step
          exact (getEpt02_ordered ordered).2
      · rcases Option.bind_eq_some_iff.mp step with ⟨mid, updated, result⟩
        cases result
        obtain ⟨_, rfl, -⟩ := updatePaePdpte_writes updated
        exact ordered
    · cases step
  · rw [(vmcs12ToVmcs02Field_writes f _ _ step).2 pointer]
    exact ordered

section

variable {f : VmcsField} (entered : vmcs12ToVmcs02 arg s = some (.success, s'))
  (translated : f ∈ vmcs12ToVmcs02Fields) (notShared : f ∉ sharedFields)

include entered translated notShared

theorem vmcs12ToVmcs02_field :
    ∃ before after, vmcs12ToVmcs02Field arg (vmcs12Ctls arg.vmcs12)
        (vmcs12ToVmcs02FlipBits arg.msrBitmap (vmcs12Ctls arg.vmcs12)) before f =
          some (.success, after) ∧
      s'.vmcs02 f = after.vmcs02 f ∧ (f = .controlEPTPointer → s'.ept02 = after.ept02) ∧
      (LruOrdered arg.ept02.nlines s.ept02.cache →
        LruOrdered arg.ept02.nlines before.ept02.cache) := by
  rcases vmcs12ToVmcs02_success entered with ⟨-, start, mid, same, pass, loaded⟩
  rcases vmentryMsrLoad_other loaded with ⟨fields, cache⟩
  rw [fields f notShared, cache]
  apply Pass.pass_establishes (I := fun t => LruOrdered arg.ept02.nlines s.ept02.cache →
    LruOrdered arg.ept02.nlines t.ept02.cache) translated _ _ _ _ pass
  · intro g _ t t' before step ordered
    exact vmcs12ToVmcs02Field_ordered (before ordered) step
  · intro before after ordered step
    exact ⟨before, after, step, rfl, fun _ => rfl, ordered⟩
  · intro g _ other t t' reached next
    rcases reached with ⟨before, after, step, field, cache, ordered⟩
    rcases vmcs12ToVmcs02Field_writes g _ _ next with ⟨keepsFields, keepsCache⟩
    refine ⟨before, after, step, (keepsFields f other.symm notShared).trans field, ?_, ordered⟩
    intro pointer
    subst pointer
    exact (keepsCache other).trans (cache rfl)
  · intro ordered
    rw [same]
    exact ordered

theorem vmcs12ToVmcs02_wrote {value : BitVec f.bits}
    (writes : ∀ before, vmcs12ToVmcs02Field arg (vmcs12Ctls arg.vmcs12)
      (vmcs12ToVmcs02FlipBits arg.msrBitmap (vmcs12Ctls arg.vmcs12)) before f = wrote before f
      value)
    : s'.vmcs02 f = value := by
  rcases vmcs12ToVmcs02_field entered translated notShared with ⟨before, after, step, field, -⟩
  rw [writes] at step
  cases step
  exact field.trans (Vmcs.vmwrite_self _ _ _)

end

/-! ## Control words -/

/-- The controls that differ between VMCS12 and VMCS02. -/
def flippedCtls : List VmxCtl :=
  [.nmiExiting, .virtualNmis, .activateSecondaryControls, .useMsrBitmaps,
    .vmexitHostAddressSpaceSize, .vmexitSaveIa32Pat, .vmexitLoadIa32Pat, .vmexitSaveIa32Efer,
    .vmexitLoadIa32Efer, .vmentryLoadIa32Pat, .vmentryLoadIa32Efer, .enableEpt]

theorem flipBits_has (same : ∀ d ∈ flippedCtls, c.position ≠ d.position) (msrBitmap : Bool)
    (ctls : VmxCtls) : (vmcs12ToVmcs02FlipBits msrBitmap ctls).has c = ctls.has c := by
  simp only [flippedCtls, List.forall_mem_cons, List.not_mem_nil, false_implies, implies_true,
    and_true] at same
  cases msrBitmap <;>
    simp [vmcs12ToVmcs02FlipBits, VmxCtls.has_setctl, VmxCtls.has_clearctl, same]

theorem flipBits_activateSecondaryControls (msrBitmap : Bool) (ctls : VmxCtls) :
    (vmcs12ToVmcs02FlipBits msrBitmap ctls).has .activateSecondaryControls = true := by
  cases msrBitmap <;>
    simp [vmcs12ToVmcs02FlipBits, VmxCtls.has_setctl, VmxCtls.has_clearctl, VmxCtl.position]

theorem flipBits_useMsrBitmaps (ctls : VmxCtls) :
    (vmcs12ToVmcs02FlipBits true ctls).has .useMsrBitmaps = false := by
  simp [vmcs12ToVmcs02FlipBits, VmxCtls.has_setctl, VmxCtls.has_clearctl, VmxCtl.position]

section

variable (entered : vmcs12ToVmcs02 arg s = some (.success, s'))

include entered

theorem vmcs12ToVmcs02_ctls :
    vmcs12GetCtls02 s'.vmcs02 =
      vmcs12ToVmcs02FlipBits arg.msrBitmap (vmcs12Ctls arg.vmcs12) := by
  have pin := vmcs12ToVmcs02_wrote entered (f := .controlVMXPinBased) (by decide) (by decide)
    (fun _ => rfl)
  have proc := vmcs12ToVmcs02_wrote entered (f := .controlVMXCpuBased) (by decide) (by decide)
    (fun _ => rfl)
  have proc2 := vmcs12ToVmcs02_wrote entered (f := .controlVMXSeccpuBased) (by decide) (by decide)
    (fun _ => rfl)
  have exit := vmcs12ToVmcs02_wrote entered (f := .controlVMExitControls) (by decide) (by decide)
    (fun _ => rfl)
  have entry := vmcs12ToVmcs02_wrote entered (f := .controlVMEntryControls) (by decide) (by decide)
    (fun _ => rfl)
  funext word
  cases word with
  | pinbased => exact pin
  | procbased => exact proc
  | exit => exact exit
  | entry => exact entry
  | procbased2 =>
    have active : (vmcs12GetCtls02 s'.vmcs02).has .activateSecondaryControls = true :=
      (congrArg (fun word => word.getLsbD 31) proc).trans
        (flipBits_activateSecondaryControls arg.msrBitmap (vmcs12Ctls arg.vmcs12))
    exact (if_pos active).trans proc2

theorem vmcs12ToVmcs02_lacks
    (hidden : (nestedCtlCaps arg.msrBitmap arg.vmxMsrs c.word).getLsbD (32 + c.bit) = false) :
    (vmcs12Ctls arg.vmcs12).has c = false :=
  ctlsAllowed_lacks ((vmcs12GetCtls12_some (vmcs12ToVmcs02_success entered).1).2 c.word) c.bit_lt
    hidden

theorem vmcs02_has (same : ∀ d ∈ flippedCtls, c.position ≠ d.position) :
    (vmcs12GetCtls02 s'.vmcs02).has c = (vmcs12Ctls arg.vmcs12).has c := by
  rw [vmcs12ToVmcs02_ctls entered, flipBits_has same]

theorem vmcs02_lacks_procbased2 (hidden : c = .vmcsShadowing ∨ c = .subPageWritePermissionsForEpt) :
    (vmcs12GetCtls02 s'.vmcs02).has c = false := by
  have same : ∀ d ∈ flippedCtls, c.position ≠ d.position := by
    rcases hidden with rfl | rfl <;> decide
  have word : c.word = .procbased2 := by rcases hidden with rfl | rfl <;> rfl
  rw [vmcs02_has entered same]
  apply vmcs12ToVmcs02_lacks entered
  rw [word]
  exact nestedCtlCaps_procbased2 _ _ hidden

theorem vmcs02_lacks_useMsrBitmaps : (vmcs12GetCtls02 s'.vmcs02).has .useMsrBitmaps = false := by
  rw [vmcs12ToVmcs02_ctls entered]
  cases build : arg.msrBitmap with
  | true => exact flipBits_useMsrBitmaps _
  | false =>
    have lacks : (vmcs12Ctls arg.vmcs12).has .useMsrBitmaps = false := by
      apply vmcs12ToVmcs02_lacks entered
      rw [build]
      exact nestedCtlCaps_useMsrBitmaps arg.vmxMsrs
    simp [vmcs12ToVmcs02FlipBits, VmxCtls.has_setctl, VmxCtls.has_clearctl, VmxCtl.position, lacks]

end

end Xmhf
