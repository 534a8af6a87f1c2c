import Xmhf.Nested.Vmcs02Exit

/-!
# What a VM exit loads for L1

Beside VMCS12, the fields of `xmhf_nested_arch_x86vmx_vmcs02_to_vmcs12` bring about the state
in which L1 continues: the host fields of VMCS12 become guest fields of VMCS01, and
`IA32_PAT` and `IA32_EFER` of L1 are computed. Each of these is the work of one field, so it
is read off the step of that field, the other steps leaving it alone (`Pass.foldlM_at`).

For `IA32_EFER` the result is compared with the rules of the architecture, on entry and on
exit.
-/

namespace Xmhf

section

variable {arg : VmexitArg} {s t : Vmexit} {f : VmcsField}

/-- The step of `f` loads no more than `f` says. -/
structure Vmexit.Loads (f : VmcsField) (s t : Vmexit) : Prop where
  efer : f ≠ .hostIA32EFER → t.hostIa32Efer = s.hostIa32Efer
  vmcs01 : f ≠ .guestInterruptibility → t.vmcs01 = loadHostField s.vmcs12 s.vmcs01 f
  saved : t.guestVmcsBlockNmi = s.guestVmcsBlockNmi

theorem Vmexit.Loads.kept (unpaired : ∀ vmcs12 vmcs01, loadHostField vmcs12 vmcs01 f = vmcs01)
    (efer : t.hostIa32Efer = s.hostIa32Efer)
    (vmcs01 : t.vmcs01 = s.vmcs01) (saved : t.guestVmcsBlockNmi = s.guestVmcsBlockNmi) :
    Vmexit.Loads f s t :=
  ⟨fun _ => efer, fun _ => vmcs01.trans (unpaired _ _).symm, saved⟩

section

variable (unpaired : ∀ vmcs12 vmcs01, loadHostField vmcs12 vmcs01 f = vmcs01)

include unpaired

theorem Vmexit.Loads.refl : Vmexit.Loads f s s :=
  .kept unpaired rfl rfl rfl

theorem asserted_loads {p : Prop} [Decidable p] (passed : asserted p s = some t)
    : Vmexit.Loads f s t := by
  rw [asserted_some passed]
  exact .refl unpaired

theorem update_loads {value : BitVec f.bits} (step : some (s.update f value) = some t)
    : Vmexit.Loads f s t := by
  cases step
  exact .kept unpaired rfl rfl rfl

theorem kept_loads (step : some s = some t) : Vmexit.Loads f s t := by
  cases step
  exact .refl unpaired

omit unpaired in
theorem ite_loads {c : Prop} [Decidable c] {yes no : Option Vmexit}
    (ifYes : yes = some t → Vmexit.Loads f s t) (ifNo : no = some t → Vmexit.Loads f s t)
    (step : (if c then yes else no) = some t) : Vmexit.Loads f s t := by
  split at step
  · exact ifYes step
  · exact ifNo step

theorem translateBackByProp_loads (step : translateBackByProp arg s f = some t)
    : Vmexit.Loads f s t := by
  have none_loads : ∀ {u : Vmexit}, none = some u → Vmexit.Loads f s u := nofun
  refine ite_loads (fun step => ?_) (fun step => ?_) step
  · exact ite_loads (ite_loads (asserted_loads unpaired) (update_loads unpaired))
      (kept_loads unpaired) step
  · exact ite_loads (ite_loads none_loads (kept_loads unpaired))
      (ite_loads (kept_loads unpaired) none_loads) step

end

theorem loadHostField_unpaired (notHost : .idHost ∉ f.decl.prop) (vmcs12 vmcs01 : Vmcs) :
    loadHostField vmcs12 vmcs01 f = vmcs01 := by
  cases f <;> first | rfl | exact absurd (by decide) notHost

theorem controlEPTPointer_loads (step : vmcs02ToVmcs12ControlEPTPointer arg s = some t) :
    Vmexit.Loads .controlEPTPointer s t := by
  unfold vmcs02ToVmcs12ControlEPTPointer at step
  split at step
  · refine ite_loads (fun step => ?_) (asserted_loads fun _ _ => rfl) step
    rw [asserted_some step]
    exact .kept (fun _ _ => rfl) rfl rfl rfl
  · cases step

theorem vmcs02ToVmcs12Field_loads (step : vmcs02ToVmcs12Field arg s f = some t) :
    Vmexit.Loads f s t := by
  unfold vmcs02ToVmcs12Field at step
  split at step
  · -- VPID
    obtain ⟨vpid, -, rfl⟩ := Option.map_eq_some_iff.mp step
    exact .kept (fun _ _ => rfl) rfl rfl rfl
  iterate 4 exact asserted_loads (fun _ _ => rfl) step
  · exact ite_loads (asserted_loads fun _ _ => rfl) (kept_loads fun _ _ => rfl) step
  · exact controlEPTPointer_loads step
  iterate 6 exact ite_loads (update_loads fun _ _ => rfl) (kept_loads fun _ _ => rfl) step
  · cases step
    exact ⟨fun _ => rfl, fun _ => rfl, rfl⟩
  · cases step
    exact ⟨fun other => absurd rfl other, fun _ => rfl, rfl⟩
  · split at step
    · exact ite_loads (asserted_loads fun _ _ => rfl) (kept_loads fun _ _ => rfl) step
    · exact kept_loads (fun _ _ => rfl) step
  · exact ite_loads (asserted_loads fun _ _ => rfl) (kept_loads fun _ _ => rfl) step
  iterate 4 exact kept_loads (fun _ _ => rfl) step
  iterate 2 exact asserted_loads (fun _ _ => rfl) step
  · exact update_loads (fun _ _ => rfl) step
  · exact asserted_loads (fun _ _ => rfl) step
  · exact update_loads (fun _ _ => rfl) step
  iterate 2 exact kept_loads (fun _ _ => rfl) step
  · cases step
    exact ⟨fun _ => rfl, fun other => absurd rfl other, rfl⟩
  · split at step
    · rw [asserted_some step]
      exact ⟨fun _ => rfl, fun _ => rfl, rfl⟩
    · next notHost => exact translateBackByProp_loads (loadHostField_unpaired notHost) step

end

/-! ## Loads of an entry -/

section

variable {ω : Type} {arg : VmentryArg ω} {ctls12 ctls : VmxCtls} {s s' t : Vmentry ω}
  {f : VmcsField}

/-- The step of `f` computes no other MSR of L2 than `f` says. -/
structure Vmentry.Loads (f : VmcsField) (s t : Vmentry ω) : Prop where
  efer : f ≠ .guestIA32EFER → t.guestIa32Efer = s.guestIa32Efer
  pat : f ≠ .guestIA32PAT → t.guestIa32Pat = s.guestIa32Pat

def LoadsOnly (f : VmcsField) (s : Vmentry ω) (result : Option (VmInst × Vmentry ω)) : Prop :=
  ∀ status t, result = some (status, t) → Vmentry.Loads f s t

namespace LoadsOnly

variable {mid : Vmentry ω} {result other : Option (VmInst × Vmentry ω)}

theorem halt : LoadsOnly f s none := by
  intro status t step
  cases step

theorem same (status : VmInst) (efer : mid.guestIa32Efer = s.guestIa32Efer)
    (pat : mid.guestIa32Pat = s.guestIa32Pat) :
    LoadsOnly f s (some (status, mid)) := by
  intro status' t step
  cases step
  exact ⟨fun _ => efer, fun _ => pat⟩

theorem wrote (value : BitVec f.bits) : LoadsOnly f s (Xmhf.wrote s f value) := by
  refine same .success ?_ ?_
  iterate 2 rfl

theorem kept : LoadsOnly f s (Xmhf.kept s) := same .success rfl rfl

theorem ite {p : Prop} [Decidable p] (yes : LoadsOnly f s result) (no : LoadsOnly f s other) :
    LoadsOnly f s (if p then result else other) := by
  split
  · exact yes
  · exact no

theorem bind {α : Type} {x : Option α} {k : α → Option (VmInst × Vmentry ω)}
    (each : ∀ a, x = some a → LoadsOnly f s (k a)) : LoadsOnly f s (x.bind k) := by
  cases x with
  | none => exact halt
  | some a => exact each a rfl

end LoadsOnly

theorem vmcs12ToVmcs02Field_loads :
    LoadsOnly f s (vmcs12ToVmcs02Field arg ctls12 ctls s f) := by
  unfold vmcs12ToVmcs02Field
  split
  · exact .bind fun lookup _ => .ite (.same _ rfl rfl) (.same _ rfl rfl)
  · exact .ite .halt (.wrote _)
  iterate 3 exact .wrote _
  · exact .ite (.ite (.same _ rfl rfl) (.bind fun _ _ => .wrote _)) .kept
  · unfold vmcs12ToVmcs02ControlEPTPointer
    refine .ite (.ite ?_ (.bind fun mid updated => ?_)) .halt
    · split
      · exact .same _ rfl rfl
      · exact .same _ rfl rfl
    · obtain ⟨_, rfl, -⟩ := updatePaePdpte_writes updated
      exact .same _ rfl rfl
  · -- `IA32_PAT`
    have computes : ∀ value, LoadsOnly .guestIA32PAT s (kept { s with guestIa32Pat := value }) := by
      intro value status t step
      cases step
      exact ⟨fun _ => rfl, fun other => absurd rfl other⟩
    exact .ite (.ite (computes _) .halt) (computes _)
  · -- `IA32_EFER`
    have computes : ∀ value,
        LoadsOnly .guestIA32EFER s (kept { s with guestIa32Efer := value }) := by
      intro value status t step
      cases step
      exact ⟨fun other => absurd rfl other, fun _ => rfl⟩
    exact .ite (.ite (computes _) .halt) (computes _)
  iterate 4 exact .ite (.wrote _) .kept
  iterate 2 exact .ite .halt .kept
  · split
    · exact .ite (.wrote _) .kept
    · exact .kept
  · exact .ite (.wrote _) .kept
  iterate 11 exact .wrote _
  · exact .ite .halt (.same _ rfl rfl)
  · refine .ite (.wrote _) ?_
    refine .ite (.ite (.wrote _) .kept) (.ite (.ite (.bind fun _ _ => .wrote _) .kept) ?_)
    exact .ite .kept (.ite (.ite .halt .kept) .halt)

/-- `IA32_EFER` as the architecture changes its mode bits. -/
def replaceMode (previous mask : U64) (long : Bool) : U64 :=
  if long then previous ||| mask else previous &&& ~~~mask

/-- `IA32_EFER` after a VM entry; `previous` is that of L1. -/
def entryEfer (ctls12 : VmxCtls) (vmcs12 : Vmcs) (previous : U64) : U64 :=
  let guestCR0 : U64 := vmcs12 .guestCR0
  if ctls12.has .vmentryLoadIa32Efer then vmcs12 .guestIA32EFER
  else replaceMode previous (eferModeMask (guestCR0 &&& CR0_PG != 0))
    (ctls12.has .vmentryIa32eModeGuest)

/-- `IA32_EFER` after a VM exit; `previous` is that of L2. -/
def exitEfer (ctls12 : VmxCtls) (vmcs12 : Vmcs) (previous : U64) : U64 :=
  if ctls12.has .vmexitLoadIa32Efer then vmcs12 .hostIA32EFER
  else replaceMode previous (eferModeMask true) (ctls12.has .vmexitHostAddressSpaceSize)

/-- `IA32_PAT` after a VM entry and a VM exit. -/
def entryPat (ctls12 : VmxCtls) (vmcs12 : Vmcs) (previous : U64) : U64 :=
  if ctls12.has .vmentryLoadIa32Pat then vmcs12 .guestIA32PAT else previous

section

variable
  (pass : Pass.pass .success (fun f s => vmcs12ToVmcs02Field arg ctls12 ctls s f)
    vmcs12ToVmcs02Fields s = some (.success, t))

include pass

theorem pass_loads :
    t.guestIa32Efer = entryEfer ctls12 arg.vmcs12 (arg.msr01 0).data ∧
      t.guestIa32Pat = entryPat ctls12 arg.vmcs12 (arg.msr01 1).data := by
  constructor
  · refine Pass.pass_establishes
      (Q := fun u => u.guestIa32Efer = entryEfer ctls12 arg.vmcs12 (arg.msr01 0).data)
      (show VmcsField.guestIA32EFER ∈ _ by decide) (fun _ _ _ _ _ _ => trivial) ?_ ?_ trivial pass
    · intro u v _ step
      by_cases load : ctls12.has .vmentryLoadIa32Efer = true
      · rw [vmcs12ToVmcs02Field, if_pos load] at step
        dsimp only at step
        split at step
        · cases step
          exact (if_pos load).symm
        · cases step
      · rw [vmcs12ToVmcs02Field, if_neg load] at step
        cases step
        exact (if_neg load).symm
    · intro g _ other u v holds step
      exact ((vmcs12ToVmcs02Field_loads _ _ step).efer other).trans holds
  · refine Pass.pass_establishes
      (Q := fun u => u.guestIa32Pat = entryPat ctls12 arg.vmcs12 (arg.msr01 1).data)
      (show VmcsField.guestIA32PAT ∈ _ by decide) (fun _ _ _ _ _ _ => trivial) ?_ ?_ trivial pass
    · intro u v _ step
      by_cases load : ctls12.has .vmentryLoadIa32Pat = true
      · rw [vmcs12ToVmcs02Field, if_pos load] at step
        split at step
        · cases step
          exact (if_pos load).symm
        · cases step
      · rw [vmcs12ToVmcs02Field, if_neg load] at step
        cases step
        exact (if_neg load).symm
    · intro g _ other u v holds step
      exact ((vmcs12ToVmcs02Field_loads _ _ step).pat other).trans holds

end

end

/-! ## Loads of an exit -/

section

variable {arg : VmexitArg} {s t : Vmexit}

theorem vmcs02ToVmcs12_fold (run : vmcs02ToVmcs12 arg s = some t) :
    VmcsField.all.foldlM (vmcs02ToVmcs12Field arg) s = some t := by
  unfold vmcs02ToVmcs12 at run
  split at run
  · exact run
  · cases run

/-- What the steps before that of `f` leave for it. -/
structure Vmexit.Ready (f : VmcsField) (s u : Vmexit) : Prop where
  field : u.vmcs12 f = s.vmcs12 f
  ctls12 : u.info.ctls12 = s.info.ctls12
  area : u.info.vmentryMsrLoadArea = s.info.vmentryMsrLoadArea

theorem Vmexit.Ready.refl (f : VmcsField) : Vmexit.Ready f s s := ⟨rfl, rfl, rfl⟩

theorem Vmexit.Ready.step {f g : VmcsField} {u v : Vmexit} (ready : Vmexit.Ready f s u)
    (other : g ≠ f) (step : vmcs02ToVmcs12Field arg u g = some v) : Vmexit.Ready f s v := by
  have frame := vmcs02ToVmcs12Field_frame step
  refine ⟨(frame.vmcs12 f other.symm).trans ready.field, ?_, ?_⟩
  · rw [frame.nmi]
    exact ready.ctls12
  · rw [frame.nmi]
    exact ready.area

section

variable (run : vmcs02ToVmcs12 arg s = some t)

include run

/-- A value that only the step of `f` sets. -/
theorem exit_at (f : VmcsField) {α : Type} (value : Vmexit → α) {x : α}
    (own : ∀ u v, vmcs02ToVmcs12Field arg u f = some v → Vmexit.Ready f s u → value v = x)
    (others : ∀ g u v, g ≠ f → vmcs02ToVmcs12Field arg u g = some v → value v = value u) :
    value t = x :=
  Pass.foldlM_at (Q := (value · = x)) fields_nodup (VmcsField.mem_all f)
    (fun _ _ _ other step ready => ready.step other step) own
    (fun g u v other step => (others g u v other step).trans) (.refl f) (vmcs02ToVmcs12_fold run)

theorem exit_hostIa32Efer :
    t.hostIa32Efer = if s.info.ctls12.has .vmexitLoadIa32Efer then s.vmcs12 .hostIA32EFER
      else hostEferWithoutLoad s := by
  refine exit_at run .hostIA32EFER Vmexit.hostIa32Efer (fun u v step ready => ?_)
    fun g u v other step => (vmcs02ToVmcs12Field_loads step).efer other
  cases step
  unfold hostEferWithoutLoad
  rw [ready.field, ready.ctls12, ready.area]

theorem exit_guestIA32EFER (save : s.info.ctls12.has .vmexitSaveIa32Efer = true) :
    t.vmcs12 .guestIA32EFER = (s.info.vmentryMsrLoadArea 0).data := by
  refine exit_at run .guestIA32EFER (·.vmcs12 .guestIA32EFER) (fun u v step ready => ?_)
    fun g u v other step => (vmcs02ToVmcs12Field_frame step).vmcs12 _ other.symm
  rw [vmcs02ToVmcs12Field, if_pos (by rw [ready.ctls12]; exact save)] at step
  cases step
  rw [← ready.area]
  exact Vmexit.update_self _ _ _

end

end

end Xmhf
