import Xmhf.Memprot.Ept01

/-!
# EPT01 hides XMHF's runtime

Every writer of the leaf array is described by what it does to one leaf: the
frame the leaf maps and whether the guest can use it. From these the property
that the guest cannot reach XMHF's runtime is carried through every run.

Changes of protection are the exception. `setprot` cuts the guest-physical
address to 32 bits, so a request above 4 GB changes a leaf below 4 GB; the
property is kept exactly by the requests whose cut address spares the runtime.
-/

namespace Xmhf

open Option (bind_eq_bind bind_eq_some_iff guard_eq_some' pure_def)

variable {m : GuestMtrrMsrs} {k i : Nat} {leaf gpa : U64}

def eptFrame (leaf : U64) : Nat := (hptPmeGetAddress .ept 1 leaf).toNat / 4096

/-- The guest can read, write or execute through the leaf. -/
abbrev eptPresent (leaf : U64) : Bool := hptPmeIsPresent .ept 1 leaf

/-! ## Frame and presence of a leaf -/

theorem eptFrame_eq (leaf : U64) : eptFrame leaf = leaf.toNat / 2 ^ 12 % 2 ^ 40 := by
  rw [eptFrame, toNat_ept_getAddress]
  omega

variable {prottype : U32} {a b entry flag : U64}

theorem eptFrame_congr (same : ∀ k, 12 ≤ k → a.getLsbD k = b.getLsbD k) :
    eptFrame a = eptFrame b := by
  have shifted : a.toNat / 2 ^ 12 = b.toNat / 2 ^ 12 := by
    apply Nat.eq_of_testBit_eq
    intro k
    rw [Nat.testBit_div_two_pow, Nat.testBit_div_two_pow, BitVec.testBit_toNat,
      BitVec.testBit_toNat]
    exact same (k + 12) (by omega)
  rw [eptFrame_eq, eptFrame_eq, shifted]

theorem eptPresent_congr (same : ∀ k, k < 3 → a.getLsbD k = b.getLsbD k) :
    eptPresent a = eptPresent b := by
  rw [eptPresent, eptPresent, ept_isPresent, ept_isPresent, same 0 (by decide),
    same 1 (by decide), same 2 (by decide)]

theorem getLsbD_of_toNat_lt {x : U64} {j : Nat} (small : x.toNat < 2 ^ j) (le : j ≤ k) :
    x.getLsbD k = false :=
  Nat.testBit_lt_two_pow (Nat.lt_of_lt_of_le small (Nat.pow_le_pow_right (by decide) le))

theorem getLsbD_replace {field value : U64} (kept : field.getLsbD k = false)
    (clear : value.getLsbD k = false) :
    ((entry &&& ~~~field) ||| value).getLsbD k = entry.getLsbD k := by
  rw [BitVec.getLsbD_or, BitVec.getLsbD_and, BitVec.getLsbD_not, kept, clear, Bool.or_false]
  rcases Nat.lt_or_ge k 64 with inside | outside
  · simp [inside]
  · rw [BitVec.getLsbD_of_ge entry k outside, Bool.false_and]

theorem toNat_memtype_lt {type : U32} (valid : vmxMtrrChecktype type = true) :
    (type.setWidth 64 <<< 3 : U64).toNat < 2 ^ 6 := by
  simp only [vmxMtrrChecktype, Bool.or_eq_true, beq_iff_eq] at valid
  rcases valid with (((rfl | rfl) | rfl) | rfl) | rfl <;> decide

theorem getLsbD_memtype_low (type : U32) (low : k < 3) :
    (type.setWidth 64 <<< 3 : U64).getLsbD k = false := by
  rw [BitVec.getLsbD_shiftLeft]
  simp [low]

/-! ## What each writer does to a leaf -/

theorem setupLeaf_frame {pf : Platform} (found : setupLeaf pf m i = some leaf)
    (inside : i < pf.pages) : eptFrame leaf = i := by
  simp only [setupLeaf, bind_eq_bind, bind_eq_some_iff, guard_eq_some',
    pure_def, Option.some.injEq] at found
  rcases found with ⟨type, -, -, valid, rfl⟩
  have small : 4096 * i < 2 ^ 48 := by
    have le := pf.maxPhysAddr_le
    unfold Platform.pages at inside
    omega
  have own : eptFrame (BitVec.ofNat 64 (4096 * i)) = i := by
    rw [eptFrame_eq, BitVec.toNat_ofNat]
    omega
  -- The memory type and the permissions stand below the frame.
  refine Eq.trans (eptFrame_congr fun k high => ?_) own
  have lower : ∀ b : Prop, [Decidable b] →
      (if b then (0 : U64) else 7).getLsbD k = false := by
    intro b _
    refine getLsbD_of_toNat_lt ?_ (by omega)
    split <;> decide
  rw [BitVec.getLsbD_or, BitVec.getLsbD_or, lower,
    getLsbD_of_toNat_lt (toNat_memtype_lt valid) (by omega), Bool.or_false, Bool.or_false]

theorem setupLeaf_hidden {pf : Platform} (found : setupLeaf pf m i = some leaf)
    (runtime : pf.isRuntime (4096 * i)) : eptPresent leaf = false := by
  simp only [setupLeaf, bind_eq_bind, bind_eq_some_iff, guard_eq_some',
    pure_def, Option.some.injEq] at found
  rcases found with ⟨type, -, -, -, rfl⟩
  rcases runtime with ⟨above, below⟩
  rw [if_pos ⟨by omega, below⟩]
  refine Eq.trans (eptPresent_congr (b := 0) fun k low => ?_) (by decide)
  have aligned : (BitVec.ofNat 64 (4096 * i)).getLsbD k = false := by
    rw [BitVec.getLsbD_ofNat, show 4096 * i = 2 ^ 12 * i by norm_num, Nat.testBit_two_pow_mul]
    simp [show ¬ 12 ≤ k by omega]
  rw [BitVec.getLsbD_or, BitVec.getLsbD_or, aligned, getLsbD_memtype_low type low]
  simp

theorem memtypeLeaf_keeps (found : memtypeLeaf m i entry = some leaf) :
    eptFrame leaf = eptFrame entry ∧ eptPresent leaf = eptPresent entry := by
  simp only [memtypeLeaf, bind_eq_bind, bind_eq_some_iff, guard_eq_some',
    pure_def, Option.some.injEq] at found
  rcases found with ⟨type, -, -, valid, rfl⟩
  constructor
  · refine eptFrame_congr fun k high => getLsbD_replace ?_ ?_
    · exact getLsbD_of_toNat_lt (j := 6) (by decide) (by omega)
    · exact getLsbD_of_toNat_lt (toNat_memtype_lt valid) (by omega)
  · refine eptPresent_congr fun k low => getLsbD_replace ?_ (getLsbD_memtype_low type low)
    interval_cases k <;> rfl

theorem protFlags_lt (prottype : U32) : (protFlags prottype).toNat < 2 ^ 3 := by
  unfold protFlags
  repeat' split
  all_goals decide

theorem eptFrame_setprot (entry : U64) (prottype : U32) :
    eptFrame ((entry &&& ~~~7#64) ||| protFlags prottype) = eptFrame entry := by
  refine eptFrame_congr fun k high => getLsbD_replace ?_ ?_
  · exact getLsbD_of_toNat_lt (j := 3) (by decide) (by omega)
  · exact getLsbD_of_toNat_lt (protFlags_lt prottype) (by omega)

theorem eptPresent_setprot (entry : U64) (prottype : U32) :
    eptPresent ((entry &&& ~~~7#64) ||| protFlags prottype) =
      (prottype &&& MEMP_PROT_PRESENT != 0) := by
  have cleared : eptPresent ((entry &&& ~~~7#64) ||| protFlags prottype) =
      eptPresent (protFlags prottype) := by
    refine eptPresent_congr fun k low => ?_
    rw [BitVec.getLsbD_or, BitVec.getLsbD_and]
    interval_cases k <;> simp
  rw [cleared, protFlags]
  cases prottype &&& MEMP_PROT_PRESENT != 0 with
  | false =>
    rw [if_neg Bool.false_ne_true]
    decide
  | true =>
    rw [if_pos rfl]
    repeat' split
    all_goals decide

theorem eptFrame_lapic (paddr : U32) (small : flag.toNat < 2 ^ 12) :
    eptFrame (paddr.setWidth 64 ||| flag) = paddr.toNat / 4096 := by
  have own : eptFrame (paddr.setWidth 64) = paddr.toNat / 4096 := by
    have bound := paddr.isLt
    rw [eptFrame_eq, BitVec.toNat_setWidth]
    omega
  refine Eq.trans (eptFrame_congr fun k high => ?_) own
  rw [BitVec.getLsbD_or, getLsbD_of_toNat_lt small high, Bool.or_false]

/-! ## The property -/

/-- The leaf of the LAPIC page, standing for the virtual LAPIC while the guest's
access is single-stepped. -/
def VirtualLapicLeaf (pf : Platform) (s : Ept01) (i : Nat) : Prop :=
  i = pf.lapicPage ∧ s.singleStep = true ∧ eptFrame (s.pTables i) = pf.virtualLapicBase.toNat / 4096

structure RuntimeHidden (pf : Platform) (s : Ept01) : Prop where
  /-- No leaf makes a frame of the runtime accessible. -/
  hidden : ∀ i, i < pf.pages → eptPresent (s.pTables i) = true →
    pf.isRuntime (4096 * eptFrame (s.pTables i)) → VirtualLapicLeaf pf s i
  /-- Every leaf maps its own frame. -/
  own : ∀ i, i < pf.pages → eptFrame (s.pTables i) = i ∨ VirtualLapicLeaf pf s i

/-- Requests come for page-aligned addresses outside the runtime, below the
supported maximum. -/
def Platform.Requested (pf : Platform) : Ept01Op → Prop
  | .setprot gpa _ =>
    gpa.toNat % 4096 = 0 ∧ ¬ pf.isRuntime gpa.toNat ∧ gpa.toNat < pf.maxPhysAddr
  | _ => True

/-- The low 32 bits of the address lie outside the runtime, or the page is to
become inaccessible. -/
def Platform.SparesRuntime (pf : Platform) : Ept01Op → Prop
  | .setprot gpa prottype =>
    pf.isRuntime (gpa.toNat % 2 ^ 32) → prottype &&& MEMP_PROT_PRESENT = 0
  | _ => True

instance (pf : Platform) : DecidablePred pf.Requested := fun o => by
  cases o <;> unfold Platform.Requested <;> infer_instance

instance (pf : Platform) : DecidablePred pf.SparesRuntime := fun o => by
  cases o <;> unfold Platform.SparesRuntime <;> infer_instance

section

variable {pf : Platform} {s s' : Ept01}

section

variable (safe : RuntimeHidden pf s)

include safe

theorem RuntimeHidden.of_leaves (step : s'.singleStep = s.singleStep)
    (leaves : ∀ i, i < pf.pages → eptFrame (s'.pTables i) = eptFrame (s.pTables i) ∧ eptPresent
      (s'.pTables i) = eptPresent (s.pTables i))
    : RuntimeHidden pf s' := by
  have lift : ∀ i, i < pf.pages → VirtualLapicLeaf pf s i → VirtualLapicLeaf pf s' i := by
    intro i inside virtual
    rcases virtual with ⟨page, stepping, frame⟩
    exact ⟨page, step.trans stepping, (leaves i inside).1.trans frame⟩
  constructor
  · intro i inside present runtime
    rw [(leaves i inside).2] at present
    rw [(leaves i inside).1] at runtime
    exact lift i inside (safe.hidden i inside present runtime)
  · intro i inside
    rw [(leaves i inside).1]
    exact (safe.own i inside).imp_right (lift i inside)

theorem RuntimeHidden.changemapping {new : U32} (small : flag.toNat < 2 ^ 12)
    (leaves : s'.pTables = vmxLapicChangemapping pf.lapicBase new flag s.pTables)
    (target : new = pf.lapicBase ∨ new = pf.virtualLapicBase ∧ s'.singleStep = true) :
    RuntimeHidden pf s' := by
  have frame : eptFrame (s'.pTables pf.lapicPage) = new.toNat / 4096 := by
    rw [leaves, vmxLapicChangemapping, Platform.lapicPage, Function.update_self,
      eptFrame_lapic new small]
  have others : ∀ i, i ≠ pf.lapicPage → s'.pTables i = s.pTables i := by
    intro i other
    rw [leaves, vmxLapicChangemapping]
    exact Function.update_of_ne other _ _
  have lapic : 4096 * pf.lapicPage = pf.lapicBase.toNat := by
    have aligned := pf.lapic_aligned
    unfold Platform.lapicPage
    omega
  constructor
  · intro i inside present runtime
    rcases eq_or_ne i pf.lapicPage with rfl | other
    · rcases target with rfl | ⟨rfl, stepping⟩
      · -- The LAPIC's own frame is no frame of the runtime.
        rw [frame] at runtime
        rcases runtime with ⟨above, below⟩
        have outside := pf.lapic_outside
        omega
      · exact ⟨rfl, stepping, frame⟩
    · rw [others i other] at present runtime
      exact absurd (safe.hidden i inside present runtime).1 other
  · intro i inside
    rcases eq_or_ne i pf.lapicPage with rfl | other
    · rcases target with rfl | ⟨rfl, stepping⟩
      · exact Or.inl frame
      · exact Or.inr ⟨rfl, stepping, frame⟩
    · rw [others i other]
      exact Or.inl ((safe.own i inside).resolve_right fun virtual => other virtual.1)

omit safe in
theorem mul_protPfn (aligned : gpa.toNat % 4096 = 0) : 4096 * protPfn gpa = gpa.toNat % 2 ^ 32 := by
  rw [protPfn, BitVec.toNat_setWidth]
  omega

omit safe in
theorem protPfn_lt_pages (pf : Platform) (gpa : U64) : protPfn gpa < pf.pages := by
  have le := pf.four_gigabytes_le
  have aligned := pf.maxPhysAddr_aligned
  have bound := (gpa.setWidth 32).isLt
  unfold protPfn Platform.pages
  omega

theorem RuntimeHidden.setprot (aligned : gpa.toNat % 4096 = 0)
    (spares : pf.isRuntime (gpa.toNat % 2 ^ 32) → prottype &&& MEMP_PROT_PRESENT = 0) :
    RuntimeHidden pf { s with pTables := Xmhf.setprot gpa prottype s.pTables } := by
  have frames : ∀ i, eptFrame (Xmhf.setprot gpa prottype s.pTables i) = eptFrame (s.pTables i) := by
    intro i
    rcases eq_or_ne i (protPfn gpa) with rfl | other
    · rw [Xmhf.setprot, Function.update_self, eptFrame_setprot]
    · rw [Xmhf.setprot, Function.update_of_ne other]
  have lift : ∀ i, VirtualLapicLeaf pf s i →
      VirtualLapicLeaf pf { s with pTables := Xmhf.setprot gpa prottype s.pTables } i := by
    intro i virtual
    rcases virtual with ⟨page, stepping, frame⟩
    exact ⟨page, stepping, (frames i).trans frame⟩
  constructor
  · intro i inside present runtime
    dsimp only at present runtime
    rw [frames i] at runtime
    rcases eq_or_ne i (protPfn gpa) with rfl | other
    · rw [Xmhf.setprot, Function.update_self, eptPresent_setprot] at present
      rcases safe.own _ inside with own | virtual
      · -- The leaf belongs to the runtime, so it was only made inaccessible.
        rw [own, mul_protPfn aligned] at runtime
        rw [spares runtime] at present
        exact absurd present (by decide)
      · exact lift _ virtual
    · rw [Xmhf.setprot, Function.update_of_ne other] at present
      exact lift i (safe.hidden i inside present runtime)
  · intro i inside
    rw [frames i]
    exact (safe.own i inside).imp_right (lift i)

theorem RuntimeHidden.exposed (aligned : gpa.toNat % 4096 = 0)
    (runtime : pf.isRuntime (gpa.toNat % 2 ^ 32)) (present : prottype &&& MEMP_PROT_PRESENT ≠ 0) :
    ¬ RuntimeHidden pf { s with pTables := Xmhf.setprot gpa prottype s.pTables } := by
  have inside := protPfn_lt_pages pf gpa
  have address := mul_protPfn aligned
  -- The LAPIC page lies elsewhere, so the leaf maps the runtime's frame.
  have notLapic : protPfn gpa ≠ pf.lapicPage := by
    intro page
    have outside := pf.lapic_outside
    have lapicAligned := pf.lapic_aligned
    rcases runtime with ⟨above, below⟩
    unfold Platform.lapicPage at page
    omega
  have own : eptFrame (s.pTables (protPfn gpa)) = protPfn gpa :=
    (safe.own _ inside).resolve_right fun virtual => notLapic virtual.1
  intro after
  have reached := after.hidden (protPfn gpa) inside
  dsimp only at reached
  rw [Xmhf.setprot, Function.update_self, eptPresent_setprot, eptFrame_setprot, own,
    address] at reached
  exact notLapic (reached (bne_iff_ne.mpr present) runtime).1

theorem RuntimeHidden.mtrrWrite {msr : U32} {val : U64} {allows failed : Bool}
    (written : Xmhf.mtrrWrite pf s msr val allows = some (failed, s')) : RuntimeHidden pf s' := by
  simp only [Xmhf.mtrrWrite, bind_eq_bind, bind_eq_some_iff] at written
  rcases written with ⟨reg, -, -, -, rest⟩
  split at rest
  · cases rest
    exact safe
  · cases rest
    exact safe
  · cases rest
    exact safe.of_leaves rfl fun i _ => ⟨rfl, rfl⟩
  · simp only [bind_eq_some_iff, pure_def, Option.some.injEq, Prod.mk.injEq] at rest
    rcases rest with ⟨pTables, updated, -, rfl⟩
    rw [vmxUpdateEPTMemtype] at updated
    split at updated
    · rcases Sweep.sweep_eq_some.mp updated with ⟨leaves, -⟩
      refine safe.of_leaves rfl fun i inside => ?_
      exact memtypeLeaf_keeps (leaves i (Nat.zero_le i) inside)
    · cases updated

end

end

/-! ## Every run -/

theorem ept01Boot_hidden {pf : Platform} {hw : MtrrHardware} {s : Ept01}
    (booted : ept01Boot pf hw = some s) : RuntimeHidden pf s := by
  simp only [ept01Boot, bind_eq_bind, bind_eq_some_iff, pure_def, Option.some.injEq] at booted
  rcases booted with ⟨mtrr, -, pTables, setUp, rfl⟩
  rcases Sweep.sweep_eq_some.mp setUp with ⟨leaves, -⟩
  have frame : ∀ i, i < pf.pages → eptFrame (pTables i) = i := fun i inside =>
    setupLeaf_frame (leaves i (Nat.zero_le i) inside) inside
  constructor
  · intro i inside present runtime
    rw [frame i inside] at runtime
    rw [setupLeaf_hidden (leaves i (Nat.zero_le i) inside) runtime] at present
    cases present
  · intro i inside
    exact Or.inl (frame i inside)

theorem RuntimeHidden.step {pf : Platform} {s s' : Ept01} {o : Ept01Op}
    (safe : RuntimeHidden pf s) (requested : pf.Requested o) (spares : pf.SparesRuntime o)
    (next : ept01Step pf s o = some s') : RuntimeHidden pf s' := by
  have map_small : VMX_LAPIC_MAP.toNat < 2 ^ 12 := by decide
  have unmap_small : VMX_LAPIC_UNMAP.toNat < 2 ^ 12 := by decide
  have delinked : RuntimeHidden pf (delinkLapic pf s) :=
    safe.changemapping map_small rfl (Or.inl rfl)
  cases o with
  | setprot gpa prottype =>
    cases next
    exact safe.setprot requested.1 spares
  | mtrrWrite msr val allows =>
    rcases Option.map_eq_some_iff.mp next with ⟨⟨failed, t⟩, written, rfl⟩
    exact safe.mtrrWrite written
  | lapicInitialize unmaplapic =>
    cases next
    cases unmaplapic with
    | false => exact safe
    | true => exact safe.changemapping unmap_small rfl (Or.inl rfl)
  | linkLapic =>
    cases next
    exact safe.changemapping unmap_small rfl (Or.inl rfl)
  | hwpgtblviolation gpa write =>
    cases next
    unfold lapicViolation
    split
    · refine safe.changemapping map_small rfl ?_
      split
      · exact Or.inr ⟨rfl, rfl⟩
      · exact Or.inl rfl
    · exact safe
  | dbexception value allSipi =>
    change lapicDbexception pf s value allSipi = some s' at next
    unfold lapicDbexception at next
    split at next
    · cases next
    · cases next
      cases delinksAfter s value allSipi with
      | false => exact safe.changemapping unmap_small rfl (Or.inl rfl)
      | true => exact safe.changemapping map_small rfl (Or.inl rfl)
  | x2apicIcrwrite value allSipi =>
    change Xmhf.x2apicIcrwrite pf s value allSipi = some s' at next
    unfold Xmhf.x2apicIcrwrite at next
    split at next
    · split at next
      · cases next
      · split at next
        · cases next
          exact delinked
        · cases next
          exact safe
    · cases next
      exact safe

/-- In every run whose requests all spare the runtime, the runtime stays hidden
and the leaves stay in place. From any state of such a run, a request that does
not spare the runtime exposes it. -/
theorem ept01_hides_runtime_of_sparing_requests (pf : Platform) {s : Ept01}
    (reached : (ept01Machine pf).ReachableUnder
      (fun _ o => pf.Requested o ∧ pf.SparesRuntime o) s) :
    RuntimeHidden pf s ∧
      ∀ o s', pf.Requested o → ¬ pf.SparesRuntime o → ept01Step pf s o = some s' →
        ¬ RuntimeHidden pf s' := by
  have safe : RuntimeHidden pf s := by
    refine reached.invariant ?_ ?_
    · intro t start
      rcases start with ⟨hw, booted⟩
      exact ept01Boot_hidden booted
    · intro t o t' safe allowed next
      exact safe.step allowed.1 allowed.2 next
  refine ⟨safe, ?_⟩
  intro o s' requested exposes next
  cases o with
  | setprot gpa prottype =>
    cases next
    rcases Classical.not_imp.mp exposes with ⟨runtime, present⟩
    exact safe.exposed requested.1 runtime present
  | _ => exact absurd trivial exposes

/-! ## A machine with memory above 4 GB -/

theorem setupLeaf_of_disabled (pf : Platform) (off : m.mtrrEnable = false) (i : Nat) :
    ∃ leaf, setupLeaf pf m i = some leaf := by
  rw [← Option.isSome_iff_exists, setupLeaf, vmxGetmemorytypeforphysicalpage, off]
  rfl

def sampleMtrrHardware : MtrrHardware where
  rdmsr msr := if msr = IA32_MTRRCAP then 0x508 else 0
  cpuid1Edx := 0x1000
  cpuid80000000Eax := 0x80000008
  cpuid80000008Eax := 36

def samplePlatform : Platform where
  maxPhysAddr := 0x400000000
  runtimePhysBase := 0x10200000
  runtimeSize := 0xa000000
  lapicBase := 0xfee00000
  virtualLapicBase := 0x10300000
  maxPhysAddr_aligned := by decide
  maxPhysAddr_le := by decide
  four_gigabytes_le := by decide
  runtime_aligned := by decide
  lapic_aligned := by decide
  virtualLapic_aligned := by decide
  lapic_outside := by decide

theorem samplePlatform_boots :
    ∃ s, ept01Boot samplePlatform sampleMtrrHardware = some s ∧ s.allCoresBootedUp = false := by
  have gathered : ∃ m, vmxGathermemorytypes sampleMtrrHardware = some m ∧ m.mtrrEnable = false :=
    ⟨_, rfl, rfl⟩
  rcases gathered with ⟨m, shadow, off⟩
  have setUp : ∃ t, vmxSetupEPT samplePlatform m (fun _ => 0) = some t :=
    Sweep.sweep_exists (fun i _ => setupLeaf_of_disabled samplePlatform off i) _ _ _
  rcases setUp with ⟨pTables, setUp⟩
  refine ⟨⟨pTables, m, .rsvd, 0, false, false⟩, ?_, rfl⟩
  rw [ept01Boot, shadow, bind_eq_bind, Option.bind_some, setUp]
  rfl

theorem ept01_hides_runtime_while_stepping : ∃ s, (ept01Machine samplePlatform).ReachableUnder
        (fun _ o => samplePlatform.Requested o ∧ samplePlatform.SparesRuntime o) s ∧
      s.singleStep = true ∧ RuntimeHidden samplePlatform s := by
  rcases samplePlatform_boots with ⟨s, booted, watching⟩
  have start : (ept01Machine samplePlatform).ReachableUnder
      (fun _ o => samplePlatform.Requested o ∧ samplePlatform.SparesRuntime o) s :=
    .init ⟨_, booted⟩
  have changed := start.step (o := .setprot 0x200001000 7) (by decide) rfl
  have unmapped := changed.step (o := .lapicInitialize true) (by decide) rfl
  have accessed := unmapped.step (o := .hwpgtblviolation 0xfee00300 true) (by decide) rfl
  refine ⟨_, accessed, ?_, (ept01_hides_runtime_of_sparing_requests _ accessed).1⟩
  rw [lapicViolation, if_pos]
  exact ⟨by simp [unmapLapic, watching], by decide, by decide⟩

/-- The request for the page at 4 GB above the start of the runtime makes the
first page of the runtime readable. -/
theorem setprot_above_four_gigabytes_exposes_runtime :
    ∃ s, (ept01Machine samplePlatform).ReachableUnder
        (fun _ o => samplePlatform.Requested o) s ∧ ¬ RuntimeHidden samplePlatform s := by
  rcases samplePlatform_boots with ⟨s, booted, -⟩
  have start : (ept01Machine samplePlatform).ReachableUnder
      (fun _ o => samplePlatform.Requested o) s := .init ⟨_, booted⟩
  have changed := start.step (o := .setprot 0x110200000 MEMP_PROT_PRESENT) (by decide) rfl
  refine ⟨_, changed, ?_⟩
  exact (ept01Boot_hidden booted).exposed (by decide) (by decide) (by decide)

end Xmhf
