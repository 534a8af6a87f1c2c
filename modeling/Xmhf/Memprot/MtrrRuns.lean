import Xmhf.Memprot.Isolation
import Xmhf.Memprot.MemoryType

/-!
# EPT01 follows the guest's MTRRs

The guest reads and writes its MTRRs through the shadow. A write that changes the type of any
page makes `_vmx_updateEPT_memtype` rewrite the memory type of every leaf; the others leave the
leaves alone. `mtrrMachine` is a CPU between its boot and any sequence of such accesses.
-/

namespace Xmhf

open Option (bind_eq_bind bind_eq_some_iff guard_eq_some' pure_def)

variable {s : Ept01} {pf : Platform} {type msr : U32} {leaf : U64}

def eptMemtype (leaf : U64) : U32 := (leaf.extractLsb' 3 3).setWidth 32

/-- The leaf of a page has the type that the shadow MTRRs give to the page. -/
def Ept01.TypedAt (s : Ept01) (i : Nat) : Prop :=
  vmxGetmemorytypeforphysicalpage s.mtrr (BitVec.ofNat 64 (4096 * i)) =
    some (eptMemtype (s.pTables i))

/-- `RDMSR` of an MTRR, or `WRMSR` with the hypapp's answer. -/
inductive MtrrOp where
  | read (msr : U32)
  | write (msr : U32) (val : U64) (hypappAllows : Bool)
  deriving DecidableEq

def mtrrStep (pf : Platform) (s : Ept01) : MtrrOp → Option Ept01
  | .read msr => (mtrrRead s.mtrr msr).map fun _ => s
  | .write msr val hypappAllows => (mtrrWrite pf s msr val hypappAllows).map Prod.snd

def mtrrMachine (pf : Platform) : Machine Ept01 MtrrOp where
  init s := ∃ hw, ept01Boot pf hw = some s
  step := mtrrStep pf

/-! ## One leaf -/

theorem eptMemtype_eq_iff (small : type.toNat < 8) :
    eptMemtype leaf = type ↔ ∀ k, k < 3 → leaf.getLsbD (3 + k) = type.getLsbD k := by
  have bit : ∀ k, (eptMemtype leaf).getLsbD k = (decide (k < 3) && leaf.getLsbD (3 + k)) := by
    intro k
    rw [eptMemtype, BitVec.getLsbD_setWidth, BitVec.getLsbD_extractLsb']
    by_cases low : k < 3
    · simp [low, show k < 32 by omega]
    · simp [low]
  constructor
  · rintro rfl k low
    rw [bit, decide_eq_true low, Bool.true_and]
  · intro same
    apply BitVec.eq_of_getLsbD_eq
    intro k _
    rw [bit]
    by_cases low : k < 3
    · rw [decide_eq_true low, Bool.true_and, same k low]
    · have high : type.toNat < 2 ^ k :=
        Nat.lt_of_lt_of_le small (Nat.pow_le_pow_right (show 0 < 2 by decide) (show 3 ≤ k by omega))
      rw [decide_eq_false low, Bool.false_and]
      exact (Nat.testBit_lt_two_pow high).symm

theorem toNat_type_lt (valid : vmxMtrrChecktype type = true) : type.toNat < 8 := by
  simp only [vmxMtrrChecktype, Bool.or_eq_true, beq_iff_eq] at valid
  rcases valid with (((rfl | rfl) | rfl) | rfl) | rfl <;> decide

theorem eptMemtype_or {rest : U64} (valid : vmxMtrrChecktype type = true)
    (free : ∀ k, k < 3 → rest.getLsbD (3 + k) = false) :
    eptMemtype (rest ||| type.setWidth 64 <<< 3) = type := by
  refine (eptMemtype_eq_iff (toNat_type_lt valid)).mpr fun k low => ?_
  rw [BitVec.getLsbD_or, free k low, Bool.false_or, BitVec.getLsbD_shiftLeft,
    BitVec.getLsbD_setWidth]
  simp [show 3 + k < 64 by omega, show k < 64 by omega]

theorem getLsbD_memtypeField (k : Nat) :
    (0x38#64).getLsbD k = (decide (3 ≤ k) && decide (k < 6)) := by
  change Nat.testBit (7 * 2 ^ 3) k = _
  rw [Nat.testBit_mul_two_pow, show 7 = 2 ^ 3 - 1 from rfl, Nat.testBit_two_pow_sub_one]
  by_cases low : 3 ≤ k
  · simp [low, show k - 3 < 3 ↔ k < 6 by omega]
  · simp [low]

variable {skip : Bool} {s' : Ept01} {m' : GuestMtrrMsrs} {hw : MtrrHardware} {i : Nat}

theorem memtypeLeaf_typed {m : GuestMtrrMsrs} {entry : U64}
    (found : memtypeLeaf m i entry = some leaf) :
    vmxGetmemorytypeforphysicalpage m (BitVec.ofNat 64 (4096 * i)) = some (eptMemtype leaf) ∧
      leaf &&& ~~~0x38#64 = entry &&& ~~~0x38#64 := by
  simp only [memtypeLeaf, bind_eq_bind, bind_eq_some_iff, guard_eq_some',
    pure_def, Option.some.injEq] at found
  obtain ⟨type, derived, -, valid, rfl⟩ := found
  have free : ∀ k, k < 3 → (entry &&& ~~~0x38#64).getLsbD (3 + k) = false := by
    intro k low
    rw [BitVec.getLsbD_and, BitVec.getLsbD_not, getLsbD_memtypeField]
    simp [show 3 + k < 6 by omega]
  refine ⟨by rw [derived, eptMemtype_or valid free], ?_⟩
  apply BitVec.eq_of_getLsbD_eq
  intro k _
  rw [BitVec.getLsbD_and, BitVec.getLsbD_or, BitVec.getLsbD_and, Bool.and_or_distrib_right,
    Bool.and_assoc, Bool.and_self]
  -- where the field of the memory type is kept out, the shifted type has no bit
  have outside : ((type.setWidth 64 <<< 3 : U64).getLsbD k && (~~~0x38#64).getLsbD k) = false := by
    rw [BitVec.getLsbD_not, getLsbD_memtypeField]
    rcases Nat.lt_or_ge k 3 with low | above
    · rw [getLsbD_memtype_low type low, Bool.false_and]
    · rcases Nat.lt_or_ge k 6 with field | high
      · simp [above, field]
      · rw [getLsbD_of_toNat_lt (toNat_memtype_lt valid) high, Bool.false_and]
  rw [outside, Bool.or_false]

theorem setupLeaf_typed {m : GuestMtrrMsrs} (found : setupLeaf pf m i = some leaf) :
    vmxGetmemorytypeforphysicalpage m (BitVec.ofNat 64 (4096 * i)) = some (eptMemtype leaf) := by
  simp only [setupLeaf, bind_eq_bind, bind_eq_some_iff, guard_eq_some',
    pure_def, Option.some.injEq] at found
  obtain ⟨type, derived, -, valid, rfl⟩ := found
  have small : ∀ b : Prop, [Decidable b] → (if b then (0 : U64) else 7).toNat < 2 ^ 3 := by
    intro b _
    split <;> decide
  have swap : ∀ address memtype lower : U64,
      address ||| memtype ||| lower = address ||| lower ||| memtype := by
    intro address memtype lower
    rw [BitVec.or_assoc, BitVec.or_comm memtype, BitVec.or_assoc]
  rw [swap, eptMemtype_or valid, derived]
  intro k low
  rw [BitVec.getLsbD_or, getLsbD_of_toNat_lt (small _) (by omega), Bool.or_false,
    BitVec.getLsbD_ofNat, show 4096 * i = 2 ^ 12 * i by norm_num, Nat.testBit_two_pow_mul]
  simp [show ¬ 12 ≤ 3 + k by omega]

/-! ## One write -/

def MtrrStore.shadow (m : GuestMtrrMsrs) : MtrrStore → GuestMtrrMsrs
  | .stored m' _ => m'
  | _ => m

def MtrrStore.updatesEpt : MtrrStore → Bool
  | .stored _ skipEptUpdate => !skipEptUpdate
  | _ => false

section

variable {m : GuestMtrrMsrs} {val paddr : U64} {reg : MtrrReg}

theorem memorytype_disabled (disabled : m.mtrrEnable = false) :
    vmxGetmemorytypeforphysicalpage m paddr = some MTRR_TYPE_UC := by
  rw [vmxGetmemorytypeforphysicalpage, disabled, Bool.not_false, if_pos rfl]

theorem mtrrStore_stored (stored : mtrrStore m val reg = .stored m' skip) :
    (∃ e fe type, vmxMtrrCheckdeftype val = some (e, fe, type) ∧ skip = false ∧
      m' = { m with defType := val, mtrrEnable := e, fixmtrrEnable := fe, defaulttype := type }) ∨
    (∃ i pair, vmxMtrrCheckvariable m.paddrmask pair.base pair.mask = true ∧
      skip = !m.mtrrEnable ∧ m' = { m with varMtrrs := Function.update m.varMtrrs i pair }) ∨
    (∃ i, vmxMtrrCheckfixed val = true ∧ skip = (!m.mtrrEnable || !m.fixmtrrEnable) ∧
      m' = { m with fixMtrrs := Function.update m.fixMtrrs i val }) := by
  cases reg with
  | defType =>
    rw [mtrrStore] at stored
    split at stored
    · cases stored
    · split at stored
      · cases stored
      next e fe type checked =>
        cases stored
        exact .inl ⟨e, fe, type, checked, rfl, rfl⟩
  | varBase i | varMask i =>
    dsimp only [mtrrStore] at stored
    split at stored
    · cases stored
    · split at stored
      · cases stored
      next checked =>
        cases stored
        exact .inr (.inl ⟨i, _, by simpa using checked, rfl, rfl⟩)
  | fixed i =>
    rw [mtrrStore] at stored
    split at stored
    · cases stored
    next checked =>
      split at stored
      · cases stored
      · cases stored
        exact .inr (.inr ⟨i, by simpa using checked, rfl, rfl⟩)

theorem memorytype_of_skipped (skipped : (mtrrStore m val reg).updatesEpt = false) :
    vmxGetmemorytypeforphysicalpage ((mtrrStore m val reg).shadow m) paddr =
      vmxGetmemorytypeforphysicalpage m paddr := by
  cases result : mtrrStore m val reg with
  | unchanged | rejected => rfl
  | stored m' skip =>
    rw [result, MtrrStore.updatesEpt, Bool.not_eq_false_eq_eq_true] at skipped
    change vmxGetmemorytypeforphysicalpage m' paddr = _
    rcases mtrrStore_stored result with
      ⟨_, _, _, -, runs, -⟩ | ⟨i, pair, -, off, rfl⟩ | ⟨i, -, off, rfl⟩
    · cases runs.symm.trans skipped
    · have disabled : m.mtrrEnable = false := by simpa [skipped] using off
      rw [memorytype_disabled disabled]
      exact memorytype_disabled disabled
    · rcases Bool.or_eq_true_iff.mp (off.symm.trans skipped) with off | off
      · rw [Bool.not_eq_true'] at off
        rw [memorytype_disabled off]
        exact memorytype_disabled off
      · rw [Bool.not_eq_true'] at off
        simp only [vmxGetmemorytypeforphysicalpage, off, Bool.and_false]
        rfl

theorem GuestMtrrMsrs.Accepted.stored (accepted : m.Accepted)
    (stored : mtrrStore m val reg = .stored m' skip) : m'.Accepted := by
  rcases mtrrStore_stored stored with
    ⟨e, fe, type, checked, -, rfl⟩ | ⟨i, pair, checked, -, rfl⟩ | ⟨i, checked, -, rfl⟩
  · exact ⟨checked, accepted.fixed, accepted.variableRange⟩
  · refine ⟨accepted.defType, accepted.fixed, ?_⟩
    exact (Function.forall_update_iff m.varMtrrs fun j pair => j < m.varCount →
      vmxMtrrCheckvariable m.paddrmask pair.base pair.mask = true).mpr
        ⟨fun _ => checked, fun j _ => accepted.variableRange j⟩
  · refine ⟨accepted.defType, ?_, accepted.variableRange⟩
    exact (Function.forall_update_iff m.fixMtrrs fun j val => j < NUM_FIXED_MTRRS →
      vmxMtrrCheckfixed val = true).mpr ⟨fun _ => checked, fun j _ => accepted.fixed j⟩

end

theorem mtrrWrite_cases {val : U64} {allows ok : Bool}
    (written : mtrrWrite pf s msr val allows = some (ok, s')) :
    ∃ reg, s'.mtrr = (mtrrStore s.mtrr val reg).shadow s.mtrr ∧
      ((mtrrStore s.mtrr val reg).updatesEpt = false ∧ s'.pTables = s.pTables ∨
        ∀ i, i < pf.pages → memtypeLeaf s'.mtrr i (s.pTables i) = some (s'.pTables i)) := by
  simp only [Xmhf.mtrrWrite, bind_eq_bind, bind_eq_some_iff] at written
  obtain ⟨reg, -, -, -, rest⟩ := written
  refine ⟨reg, ?_⟩
  split at rest
  next result =>
    cases rest
    exact ⟨by rw [result]; rfl, .inl ⟨by rw [result]; rfl, rfl⟩⟩
  next result =>
    cases rest
    exact ⟨by rw [result]; rfl, .inl ⟨by rw [result]; rfl, rfl⟩⟩
  next m result =>
    cases rest
    exact ⟨by rw [result]; rfl, .inl ⟨by rw [result]; rfl, rfl⟩⟩
  next m result =>
    simp only [bind_eq_some_iff, pure_def, Option.some.injEq, Prod.mk.injEq] at rest
    obtain ⟨pTables, updated, -, rfl⟩ := rest
    rw [vmxUpdateEPTMemtype] at updated
    split at updated
    · obtain ⟨leaves, -⟩ := Sweep.sweep_eq_some.mp updated
      exact ⟨by rw [result]; rfl, .inr fun i inside => leaves i (Nat.zero_le i) inside⟩
    · cases updated

/-! ## Every run -/

theorem vmxGathermemorytypes_accepted {m : GuestMtrrMsrs}
    (gathered : vmxGathermemorytypes hw = some m) : m.Accepted := by
  simp only [vmxGathermemorytypes, bind_eq_bind, bind_eq_some_iff,
    guard_eq_some', pure_def, Option.some.injEq] at gathered
  obtain ⟨-, -, -, -, -, -, -, -, -, -, ⟨e, fe, type⟩, checked, -, fixed, -, ranges, rfl⟩ := gathered
  refine ⟨checked, fun i inside => ?_, fun i inside => ?_⟩
  · have mem := List.getElem?_eq_getElem (show i < fixedMtrrProp.length from inside)
    change vmxMtrrCheckfixed ((fixedMtrrProp[i]?.map fun prop => hw.rdmsr prop.msr).getD 0) = true
    rw [mem]
    exact List.all_eq_true.mp fixed _ (List.getElem_mem _)
  · exact List.all_eq_true.mp ranges i (List.mem_range.mpr inside)

/-- The leaves follow the shadow, and differ from those of `s₀` in the memory type only. -/
structure FollowsMtrrs (pf : Platform) (s₀ s : Ept01) : Prop where
  accepted : s.mtrr.Accepted
  typed : ∀ i, i < pf.pages → s.TypedAt i
  rest : ∀ i, i < pf.pages → s.pTables i &&& ~~~0x38#64 = s₀.pTables i &&& ~~~0x38#64

theorem ept01Boot_follows (booted : ept01Boot pf hw = some s) : FollowsMtrrs pf s s := by
  simp only [ept01Boot, bind_eq_bind, bind_eq_some_iff, pure_def, Option.some.injEq] at booted
  obtain ⟨mtrr, gathered, pTables, setUp, rfl⟩ := booted
  obtain ⟨leaves, -⟩ := Sweep.sweep_eq_some.mp setUp
  exact {
    accepted := vmxGathermemorytypes_accepted gathered
    typed := fun i inside => setupLeaf_typed (leaves i (Nat.zero_le i) inside)
    rest := fun _ _ => rfl }

theorem FollowsMtrrs.step {s₀ : Ept01} {op : MtrrOp} (follows : FollowsMtrrs pf s₀ s)
    (step : mtrrStep pf s op = some s') : FollowsMtrrs pf s₀ s' := by
  cases op with
  | read msr =>
    obtain ⟨-, -, rfl⟩ := Option.map_eq_some_iff.mp step
    exact follows
  | write msr val allows =>
    obtain ⟨⟨ok, s'⟩, written, rfl⟩ := Option.map_eq_some_iff.mp step
    obtain ⟨reg, shadow, leaves⟩ := mtrrWrite_cases written
    have accepted : s'.mtrr.Accepted := by
      rw [shadow]
      cases result : mtrrStore s.mtrr val reg with
      | unchanged | rejected => exact follows.accepted
      | stored m skip => exact follows.accepted.stored result
    rcases leaves with ⟨skipped, same⟩ | updated
    · refine ⟨accepted, fun i inside => ?_, fun i inside => ?_⟩
      · rw [Ept01.TypedAt, shadow, memorytype_of_skipped skipped, same]
        exact follows.typed i inside
      · rw [same]
        exact follows.rest i inside
    · refine ⟨accepted, fun i inside => (memtypeLeaf_typed (updated i inside)).1,
        fun i inside => ?_⟩
      exact (memtypeLeaf_typed (updated i inside)).2.trans (follows.rest i inside)

/-- After any accesses to the MTRRs, every leaf has the memory type that the shadow gives to its
page and is otherwise as it was set up; a write without an update changes no page's type. -/
theorem ept01_memory_types_follow_mtrrs {pf : Platform} {hw : MtrrHardware} {s₀ s : Ept01}
    {ops : List MtrrOp} (booted : ept01Boot pf hw = some s₀)
    (run : (mtrrMachine pf).run s₀ ops = some s) :
    s.mtrr.Accepted ∧
      (∀ i, i < pf.pages → vmxGetmemorytypeforphysicalpage s.mtrr (BitVec.ofNat 64 (4096 * i)) =
        some (eptMemtype (s.pTables i))) ∧
      (∀ i, i < pf.pages → s.pTables i &&& ~~~0x38#64 = s₀.pTables i &&& ~~~0x38#64) ∧
      ∀ val reg, (mtrrStore s.mtrr val reg).updatesEpt = false → ∀ paddr,
        vmxGetmemorytypeforphysicalpage ((mtrrStore s.mtrr val reg).shadow s.mtrr) paddr =
          vmxGetmemorytypeforphysicalpage s.mtrr paddr := by
  have follows : FollowsMtrrs pf s₀ s :=
    Machine.run_invariant
      (fun _ _ _ follows _ step => follows.step step) (fun _ _ => trivial)
      (ept01Boot_follows booted) run
  exact ⟨follows.accepted, follows.typed, follows.rest, fun _ _ skipped _ =>
    memorytype_of_skipped skipped⟩

theorem mtrrStep_skipped (pf : Platform) {val : U64} {reg : MtrrReg} {m : GuestMtrrMsrs}
    (isReg : mtrrReg s.mtrr msr = some reg) (stored : mtrrStore s.mtrr val reg = .stored m true) :
    mtrrStep pf s (.write msr val true) = some { s with mtrr := m } := by
  simp [mtrrStep, mtrrWrite, isReg, stored]

theorem mtrrStep_updated (pf : Platform) (s : Ept01) {val : U64} {reg : MtrrReg} {m : GuestMtrrMsrs}
    {pTables : Nat → U64} (isReg : mtrrReg s.mtrr msr = some reg)
    (stored : mtrrStore s.mtrr val reg = .stored m false)
    (updated : Sweep.sweep (memtypeLeaf m) 0 pf.pages s.pTables = some pTables) :
    mtrrStep pf s (.write msr val true) = some { s with mtrr := m, pTables := pTables } := by
  have update : vmxUpdateEPTMemtype m 0 pf.maxPhysAddr s.pTables = some pTables := by
    rw [vmxUpdateEPTMemtype, if_pos ⟨rfl, pf.maxPhysAddr_aligned⟩]
    exact updated
  simp [mtrrStep, mtrrWrite, isReg, stored, update]

theorem memorytype_default {m : GuestMtrrMsrs} (enabled : m.mtrrEnable = true)
    (fixed : m.fixmtrrEnable = false) (invalid : ∀ i, i < m.varCount → (m.varMtrrs i).mask = 0)
    (paddr : U64) : vmxGetmemorytypeforphysicalpage m paddr = some m.defaulttype := by
  have none_ : m.coveringTypes paddr = [] := by
    refine List.map_eq_nil_iff.mpr (List.filter_eq_nil_iff.mpr fun i mem => ?_)
    rw [GuestVarMtrrMsrPair.covers, invalid i (List.mem_range.mp mem)]
    simp
  rw [memorytype_variable enabled (by simp [fixed]), none_]
  rfl

def sampleMtrrOps : List MtrrOp :=
  [.write IA32_MTRR_PHYSBASE0 0x80000000 true, .write IA32_MTRR_DEF_TYPE 0x806 true,
    .read IA32_MTRR_DEF_TYPE]

theorem ept01_memory_types_follow_mtrrs_sample : ∃ s₀ s,
    ept01Boot samplePlatform sampleMtrrHardware = some s₀ ∧
      (mtrrMachine samplePlatform).run s₀ sampleMtrrOps = some s ∧
      eptMemtype (s.pTables 0) = MTRR_TYPE_WB := by
  obtain ⟨s₀, booted, -⟩ := samplePlatform_boots
  have gathered : vmxGathermemorytypes sampleMtrrHardware = some s₀.mtrr := by
    simp only [ept01Boot, Option.bind_eq_bind, Option.bind_eq_some_iff, Option.pure_def,
      Option.some.injEq] at booted
    obtain ⟨mtrr, gathered, pTables, -, rfl⟩ := booted
    exact gathered
  obtain ⟨m₁, m₂, range, enable, wb, read, invalid⟩ : ∃ m₁ m₂,
      (mtrrReg s₀.mtrr IA32_MTRR_PHYSBASE0).map (mtrrStore s₀.mtrr 0x80000000) =
        some (.stored m₁ true) ∧
      (mtrrReg m₁ IA32_MTRR_DEF_TYPE).map (mtrrStore m₁ 0x806) = some (.stored m₂ false) ∧
      (m₂.mtrrEnable, m₂.fixmtrrEnable, m₂.defaulttype) = (true, false, MTRR_TYPE_WB) ∧
      mtrrRead m₂ IA32_MTRR_DEF_TYPE = some 0x806 ∧
      ∀ i, i < m₂.varCount → (m₂.varMtrrs i).mask = 0 := by
    generalize s₀.mtrr = m at gathered ⊢
    cases gathered
    refine ⟨_, _, rfl, rfl, rfl, rfl, ?_⟩
    decide
  simp only [Prod.mk.injEq] at wb
  obtain ⟨on, fixed, wb⟩ := wb
  have types : ∀ paddr, vmxGetmemorytypeforphysicalpage m₂ paddr = some MTRR_TYPE_WB := by
    intro paddr
    rw [memorytype_default on fixed invalid, wb]
  have leaves : ∀ i entry, ∃ leaf, memtypeLeaf m₂ i entry = some leaf := by
    intro i entry
    rw [memtypeLeaf, types]
    exact ⟨_, rfl⟩
  obtain ⟨pTables, updated⟩ := Sweep.sweep_exists leaves 0 samplePlatform.pages s₀.pTables
  have run : (mtrrMachine samplePlatform).run s₀ sampleMtrrOps =
      some { s₀ with mtrr := m₂, pTables := pTables } := by
    obtain ⟨reg, isReg, stored⟩ := Option.map_eq_some_iff.mp range
    obtain ⟨reg', isReg', stored'⟩ := Option.map_eq_some_iff.mp enable
    have first := mtrrStep_skipped samplePlatform isReg stored
    have second := mtrrStep_updated samplePlatform { s₀ with mtrr := m₁ } isReg' stored' updated
    have third : mtrrStep samplePlatform { s₀ with mtrr := m₂, pTables := pTables }
        (.read IA32_MTRR_DEF_TYPE) = some { s₀ with mtrr := m₂, pTables := pTables } := by
      rw [mtrrStep, read]
      rfl
    simp only [Machine.run, mtrrMachine, sampleMtrrOps, List.foldlM_cons, List.foldlM_nil,
      Option.bind_eq_bind, first, second, third, Option.bind_some, Option.pure_def]
  refine ⟨s₀, _, booted, run, ?_⟩
  have typed := (ept01_memory_types_follow_mtrrs booted run).2.1 0 (by decide)
  rw [types] at typed
  exact (Option.some.inj typed).symm

end Xmhf
