import Xmhf.Smpguest.QuiesceFlush

/-!
# The EPT lock

A reader announces itself, then looks for a writer, and takes its announcement back if there
is one; a writer announces itself, then waits until each CPU is seen not to read
(`memp-x86vmx-eptlock.c`). The writers are the CPUs that quiesce. The code that the quiesce NMI
runs may be a reader too, over the code it has interrupted.
-/

namespace Xmhf

open Function (update update_of_ne update_self)
open Option (ite_none_left_eq_some ite_none_right_eq_some map_eq_some_iff)

variable {reads : Bool} {stage : ReadStage}

variable {n : Nat}

/-- The reader's code has set `vcpu->vmx_eptlock_reading`. -/
def ReadStage.announced : ReadStage → Bool
  | .checkPending | .retract | .reading | .release => true
  | .assertNotReading | .waitPending | .announce => false

/-- The read section: the lock is taken and not yet given back. -/
def ReadStage.inSection : ReadStage → Bool
  | .reading | .release => true
  | _ => false

/-- The announcement has been made and the lock is not taken. -/
def ReadStage.announcing : ReadStage → Bool
  | .checkPending | .retract => true
  | _ => false

variable {source target : CpuStage n} {j : Fin n} {next : Option ReadStage} {t : Smp n}
  {op : SmpOp n}

namespace CpuStage

def readStage : CpuStage n → Option ReadStage
  | .read _ stage => some stage
  | _ => none

def announced (stage : CpuStage n) : Bool := stage.readStage.elim false ReadStage.announced

def inReadSection (stage : CpuStage n) : Bool := stage.readStage.elim false ReadStage.inSection

def announcing (stage : CpuStage n) : Bool := stage.readStage.elim false ReadStage.announcing

/-- `g_eptlock_write_pending` has been set by this code. -/
def pending : CpuStage n → Bool
  | .scan _ | .setQuiesced | .resetCounter | .setQuiesce | .sendNmi | .waitCounter
  | .clearPending => true
  | _ => false

/-- The write section: the lock is taken and not yet given back. -/
def inWriteSection : CpuStage n → Bool
  | .setQuiesced | .resetCounter | .setQuiesce | .sendNmi | .waitCounter | .clearPending => true
  | _ => false

def scanned : CpuStage n → Fin n → Bool
  | .scan rest, j => j ∉ rest
  | stage, _ => stage.inWriteSection

theorem pending_of_scanned {stage : CpuStage n} (scanned : stage.scanned j = true) :
    stage.pending = true := by
  cases stage <;> first | rfl | cases scanned

theorem scanned_of_inWriteSection {stage : CpuStage n} (writes : stage.inWriteSection = true)
    (j : Fin n) : stage.scanned j = true := by
  cases stage <;> first | rfl | cases writes

theorem scanned_of_gathering {stage : CpuStage n} (gathering : stage.phase = .gathering)
    (j : Fin n) : stage.scanned j = true := by
  cases stage with
  | sendNmi | waitCounter => rfl
  | read owner _ => cases owner <;> cases gathering
  | _ => cases gathering

theorem phase_of_pending {stage : CpuStage n} (pending : stage.pending = true) :
    stage.phase ≠ .outside ∧ stage.phase ≠ .releasing := by
  cases stage <;> first | (cases pending; done) | exact ⟨nofun, nofun⟩

theorem not_inReadSection (stage : CpuStage n) (quiet : stage.announced = false) :
    stage.inReadSection = false := by
  cases stage with
  | read owner stage => cases stage <;> first | rfl | cases quiet
  | _ => rfl

theorem not_announced (stage : CpuStage n) (quiet : stage.announcing = false)
    (outside : stage.inReadSection = false) : stage.announced = false := by
  cases stage with
  | read owner stage => cases stage <;> first | rfl | (cases quiet; done) | cases outside
  | _ => rfl

end CpuStage

def nmiReadStage : Option NmiStage → Option ReadStage
  | some (.read stage) => some stage
  | _ => none

namespace Smp

/-- The CPU is in a read section, of the code it executes or of the code it has interrupted. -/
def InReadSection (s : Smp n) (j : Fin n) : Prop :=
  (s.cpu j).inReadSection = true ∨ (nmiReadStage (s.nmi j)).elim false ReadStage.inSection = true

/-- The statement that the CPU executes next is the assertion of
`memprot_x86vmx_eptlock_read_lock` that the CPU is not reading already, and it fails. -/
def FailsNotReading (s : Smp n) (j : Fin n) : Prop :=
  (s.nmi j = none ∧ (s.cpu j).readStage = some .assertNotReading ∨
    s.nmi j = some (.read .assertNotReading)) ∧ s.reading j = true

/-- The statement that the CPU executes next is the assertion of
`memprot_x86vmx_eptlock_write_lock` that no write is pending already, and it fails. -/
def FailsNotWriting (s : Smp n) (i : Fin n) : Prop :=
  s.nmi i = none ∧ s.cpu i = .setPending ∧ s.writePending = true

structure EptlockInv (s : Smp n) : Prop where
  pending : s.writePending = s.quiesceLock.any fun i => (s.cpu i).pending
  reading : ∀ j, s.reading j =
    ((s.cpu j).announced || (nmiReadStage (s.nmi j)).elim false ReadStage.announced)
  exclusive : ∀ j stage, s.nmi j = some (.read stage) → stage ≠ .assertNotReading →
    (s.cpu j).announced = false
  scanned : ∀ i j, (s.cpu i).scanned j = true → (s.cpu j).inReadSection = false
  joined : ∀ j, nmiRole (s.nmi j) ≠ .out → (s.cpu j).inReadSection = false

variable {s s' : Smp n} {i : Fin n}

theorem init_eptlockInv (init : (smpMachine n).init s) : s.EptlockInv := by
  obtain ⟨cpu, nmi, -, reading, lock, -, -, -, -, pending, -⟩ := init
  refine ⟨by rw [pending, lock]; rfl, fun j => ?_, fun j stage at_ => ?_, fun i j scanned => ?_,
    fun j role => ?_⟩
  · rw [reading j, nmi j]
    rcases cpu j with at_ | at_ <;> rw [at_] <;> rfl
  · rw [nmi j] at at_
    cases at_
  · rcases cpu i with at_ | at_ <;> rw [at_] at scanned <;> cases scanned
  · rw [nmi j] at role
    exact absurd rfl role

section

variable (lock : s.EptlockInv)

include lock

theorem EptlockInv.pending_of (inv : s.Inv) (inside : (s.cpu i).phase ≠ .outside)
    : s.writePending = (s.cpu i).pending := by
  rw [lock.pending, (inv.lock i).mpr inside]
  rfl

theorem EptlockInv.scanned_pending (inv : s.Inv) (scanned : (s.cpu i).scanned j = true)
    : s.writePending = true := by
  have pending := CpuStage.pending_of_scanned scanned
  exact (lock.pending_of inv (CpuStage.phase_of_pending pending).1).trans pending

omit lock in
theorem readStep_spec (flag : s.reading i = stage.announced)
    (step : s.readStep i stage = some (s', next)) :
    s' = { s with reading := update s.reading i (next.elim false ReadStage.announced) } ∧
    (next.elim false ReadStage.inSection = true →
      stage.inSection = true ∨ s.writePending = false) := by
  have same (h : next.elim false ReadStage.announced = stage.announced) :
      update s.reading i (next.elim false ReadStage.announced) = s.reading := by
    rw [h, ← flag, Function.update_eq_self]
  cases stage with
  | assertNotReading | waitPending =>
    simp only [readStep, ite_none_left_eq_some, Option.some.injEq, Prod.mk.injEq] at step
    obtain ⟨-, rfl, rfl⟩ := step
    exact ⟨by rw [same rfl], by rintro ⟨⟩⟩
  | announce | retract =>
    cases step
    exact ⟨rfl, by rintro ⟨⟩⟩
  | checkPending =>
    cases step
    refine ⟨by rw [same (by split <;> rfl)], fun section_ => .inr ?_⟩
    cases pending : s.writePending with
    | false => rfl
    | true => rw [pending] at section_; cases section_
  | reading =>
    cases step
    exact ⟨by rw [same rfl], fun _ => .inl rfl⟩
  | release =>
    simp only [readStep, ite_none_right_eq_some, Option.some.injEq, Prod.mk.injEq] at step
    obtain ⟨-, rfl, rfl⟩ := step
    exact ⟨rfl, by rintro ⟨⟩⟩

theorem EptlockInv.cpu_step {stage : CpuStage n} (before : (s.cpu i).readStage = none)
    (after : stage.readStage = none) (cpu : s'.cpu = update s.cpu i stage) (nmi : s'.nmi = s.nmi)
    (reading : s'.reading = s.reading)
    (pending : s'.writePending = s'.quiesceLock.any fun k => (s'.cpu k).pending)
    (scanned : ∀ j, stage.scanned j = true → (s.cpu j).inReadSection = false) : s'.EptlockInv := by
  have same (k : Fin n) : (s'.cpu k).readStage = (s.cpu k).readStage := by
    rw [cpu]
    rcases eq_or_ne k i with rfl | ne
    · rw [update_self, after, before]
    · rw [update_of_ne ne]
  refine ⟨pending, fun j => ?_, fun j stage at_ ne => ?_, fun k j seen => ?_, fun j role => ?_⟩
  · rw [reading, nmi, CpuStage.announced, same]
    exact lock.reading j
  · rw [CpuStage.announced, same]
    exact lock.exclusive j stage (nmi ▸ at_) ne
  · rw [CpuStage.inReadSection, same]
    rw [cpu] at seen
    rcases eq_or_ne k i with rfl | ne
    · rw [update_self] at seen
      exact scanned j seen
    · rw [update_of_ne ne] at seen
      exact lock.scanned k j seen
  · rw [CpuStage.inReadSection, same]
    exact lock.joined j (nmi ▸ role)

theorem EptlockInv.pending_same {stage : CpuStage n} (cpu : s'.cpu = update s.cpu i stage)
    (quiesce : s'.quiesceLock = s.quiesceLock) (pending : s'.writePending = s.writePending)
    (same : stage.pending = (s.cpu i).pending) :
    s'.writePending = s'.quiesceLock.any fun k => (s'.cpu k).pending := by
  have each (k : Fin n) : (s'.cpu k).pending = (s.cpu k).pending := by
    rw [cpu]
    rcases eq_or_ne k i with rfl | ne
    · rw [update_self, same]
    · rw [update_of_ne ne]
  rw [pending, quiesce, lock.pending]
  exact congrArg s.quiesceLock.any (funext fun k => (each k).symm)

theorem EptlockInv.read_step (inv : s.Inv) {owner : Bool} (idle : s.nmi i = none)
    (at_ : s.cpu i = .read owner stage) (step : s.readStep i stage = some (t, next)) :
    (t.goto i (next.elim (if owner then .owner else .hypervisor) (.read owner))).EptlockInv := by
  have announced : (s.cpu i).announced = stage.announced := by rw [at_]; rfl
  have flag : s.reading i = stage.announced := by
    rw [lock.reading, idle, announced]
    exact Bool.or_false _
  obtain ⟨rfl, enters⟩ := readStep_spec flag step
  have stage' : (next.elim (if owner then .owner else .hypervisor) (.read owner) :
      CpuStage n).readStage = next := by
    cases next <;> cases owner <;> rfl
  refine ⟨?_, fun j => ?_, fun j stage at_ ne => ?_, fun k j seen => ?_, fun j role => ?_⟩
  · refine lock.pending_same rfl rfl rfl ?_
    rw [at_]
    cases next <;> cases owner <;> rfl
  · change update s.reading i _ j = ((update s.cpu i _ j).announced || _)
    rcases eq_or_ne j i with rfl | ne
    · rw [update_self, update_self, CpuStage.announced, stage']
      change _ = (_ || (nmiReadStage (s.nmi j)).elim false ReadStage.announced)
      rw [idle]
      exact (Bool.or_false _).symm
    · rw [update_of_ne ne, update_of_ne ne]
      exact lock.reading j
  · change (update s.cpu i _ j).announced = false
    rcases eq_or_ne j i with rfl | other
    · rw [show s.nmi j = _ from at_] at idle
      cases idle
    · rw [update_of_ne other]
      exact lock.exclusive j stage at_ ne
  · change (update s.cpu i _ j).inReadSection = false
    have scanned : (s.cpu k).scanned j = true := by
      change (update s.cpu i _ k).scanned j = true at seen
      rcases eq_or_ne k i with rfl | other
      · rw [update_self] at seen
        cases next <;> cases owner <;> cases seen
      · rwa [update_of_ne other] at seen
    rcases eq_or_ne j i with rfl | other
    · rw [update_self, CpuStage.inReadSection, stage']
      -- a reader enters its section only where no write is pending
      by_contra section_
      rcases enters (Bool.not_eq_false _ ▸ section_) with inside | free
      · have outside := lock.scanned k j scanned
        rw [at_] at outside
        exact absurd inside (by rw [show stage.inSection = false from outside]; decide)
      · rw [lock.scanned_pending inv scanned] at free
        cases free
    · rw [update_of_ne other]
      exact lock.scanned k j scanned
  · change (update s.cpu i _ j).inReadSection = false
    rcases eq_or_ne j i with rfl | other
    · exact absurd (congrArg nmiRole idle) role
    · rw [update_of_ne other]
      exact lock.joined j role

theorem EptlockInv.advanceCpu (inv : s.Inv) (idle : s.nmi i = none)
    (step : s.advanceCpu i = some s') : s'.EptlockInv := by
  rw [Smp.advanceCpu] at step
  generalize at_ : s.cpu i = old at step
  cases old with
  | guest | hypervisor | owner => cases step
  | read owner stage =>
    obtain ⟨⟨t, next⟩, read, rfl⟩ := map_eq_some_iff.mp step
    exact lock.read_step inv idle at_ read
  | lockQuiesce =>
    obtain ⟨free, rfl⟩ := guard_some.mp step
    refine lock.cpu_step (by rw [at_]; rfl) rfl rfl rfl rfl ?_ (by rintro _ ⟨⟩)
    have none := lock.pending
    rw [free] at none
    refine none.trans ?_
    change false = (update s.cpu i _ i).pending
    rw [update_self]
    rfl
  | lockWrite =>
    obtain ⟨-, rfl⟩ := guard_some.mp step
    exact lock.cpu_step (by rw [at_]; rfl) rfl rfl rfl rfl
      (lock.pending_same rfl rfl rfl (by rw [at_]; rfl)) (by rintro _ ⟨⟩)
  | setPending =>
    obtain ⟨-, rfl⟩ := unless_some.mp step
    refine lock.cpu_step (by rw [at_]; rfl) rfl rfl rfl rfl ?_ fun j seen => ?_
    · have owns := (inv.lock i).mpr (by rw [at_]; rintro ⟨⟩)
      change true = s.quiesceLock.any fun k => (update s.cpu i _ k).pending
      rw [owns]
      change true = (update s.cpu i _ i).pending
      rw [update_self]
      rfl
    · exact absurd (List.mem_finRange j) (of_decide_eq_true seen)
  | scan rest =>
    cases rest with
    | nil =>
      cases step
      exact lock.cpu_step (by rw [at_]; rfl) rfl rfl rfl rfl
        (lock.pending_same rfl rfl rfl (by rw [at_]; rfl))
        fun j _ => lock.scanned i j (by rw [at_]; rfl)
    | cons first rest =>
      obtain ⟨free, rfl⟩ := unless_some.mp step
      refine lock.cpu_step (by rw [at_]; rfl) rfl rfl rfl rfl
        (lock.pending_same rfl rfl rfl (by rw [at_]; rfl)) fun j seen => ?_
      rcases eq_or_ne j first with rfl | ne
      · -- this CPU was just seen not reading
        have quiet := lock.reading j
        rw [Bool.eq_false_iff.mpr free] at quiet
        exact (s.cpu j).not_inReadSection (Bool.or_eq_false_iff.mp quiet.symm).1
      · refine lock.scanned i j ?_
        rw [at_]
        exact decide_eq_true (List.not_mem_cons_of_ne_of_not_mem ne (of_decide_eq_true seen))
  | setQuiesced | resetCounter | setQuiesce | sendNmi =>
    cases step
    exact lock.cpu_step (by rw [at_]; rfl) rfl rfl rfl rfl
      (lock.pending_same rfl rfl rfl (by rw [at_]; rfl))
      fun j _ => lock.scanned i j (by rw [at_]; rfl)
  | waitCounter =>
    obtain ⟨-, rfl⟩ := unless_some.mp step
    exact lock.cpu_step (by rw [at_]; rfl) rfl rfl rfl rfl
      (lock.pending_same rfl rfl rfl (by rw [at_]; rfl))
      fun j _ => lock.scanned i j (by rw [at_]; rfl)
  | clearPending =>
    obtain ⟨-, rfl⟩ := guard_some.mp step
    refine lock.cpu_step (by rw [at_]; rfl) rfl rfl rfl rfl ?_ (by rintro _ ⟨⟩)
    have owns := (inv.lock i).mpr (by rw [at_]; rintro ⟨⟩)
    change false = s.quiesceLock.any fun k => (update s.cpu i _ k).pending
    rw [owns]
    change false = (update s.cpu i _ i).pending
    rw [update_self]
    rfl
  | unlockWrite | clearQuiesce | resetResume | setSignal | clearQuiesced | clearSignal
  | clearFlush =>
    cases step
    exact lock.cpu_step (by rw [at_]; rfl) rfl rfl rfl rfl
      (lock.pending_same rfl rfl rfl (by rw [at_]; rfl)) (by rintro _ ⟨⟩)
  | waitResume =>
    obtain ⟨-, rfl⟩ := unless_some.mp step
    exact lock.cpu_step (by rw [at_]; rfl) rfl rfl rfl rfl
      (lock.pending_same rfl rfl rfl (by rw [at_]; rfl)) (by rintro _ ⟨⟩)
  | unlockQuiesce =>
    cases step
    refine lock.cpu_step (by rw [at_]; rfl) rfl rfl rfl rfl ?_ (by rintro _ ⟨⟩)
    refine (lock.pending_of inv (i := i) (by rw [at_]; rintro ⟨⟩)).trans ?_
    rw [at_]
    rfl

theorem EptlockInv.nmi_step {next : Option NmiStage} (cpu : s'.cpu = s.cpu)
    (quiesce : s'.quiesceLock = s.quiesceLock) (pending : s'.writePending = s.writePending)
    (reading : s'.reading = s.reading) (nmi : s'.nmi = update s.nmi i next)
    (before : nmiReadStage (s.nmi i) = none)
    (after : nmiReadStage next = none ∨ next = some (.read .assertNotReading))
    (joined : nmiRole next ≠ .out → (s.cpu i).inReadSection = false) : s'.EptlockInv := by
  refine ⟨by rw [pending, quiesce, cpu]; exact lock.pending, fun j => ?_, fun j stage at_ ne => ?_,
    by rw [cpu]; exact lock.scanned, fun j role => ?_⟩
  · rw [reading, cpu, nmi, lock.reading]
    rcases eq_or_ne j i with rfl | ne
    · rw [update_self, before]
      rcases after with after | rfl
      · rw [after]
      · rfl
    · rw [update_of_ne ne]
  · rw [cpu]
    rw [nmi] at at_
    rcases eq_or_ne j i with rfl | other
    · rw [update_self] at at_
      subst at_
      rcases after with after | after
      · cases after
      · cases after
        exact absurd rfl ne
    · rw [update_of_ne other] at at_
      exact lock.exclusive j stage at_ ne
  · rw [cpu]
    rw [nmi] at role
    rcases eq_or_ne j i with rfl | other
    · rw [update_self] at role
      exact joined role
    · rw [update_of_ne other] at role
      exact lock.joined j role

theorem EptlockInv.nmi_read_step (at_ : s.nmi i = some (.read stage))
    (step : s.readStep i stage = some (t, next)) :
    (t.gotoNmi i (some (next.elim .incResume .read))).EptlockInv := by
  have quiet : (s.cpu i).announced = false := by
    rcases eq_or_ne stage .assertNotReading with rfl | ne
    · have free : s.reading i = false := by
        simp only [readStep, ite_none_left_eq_some] at step
        exact Bool.eq_false_iff.mpr step.1
      exact (Bool.or_eq_false_iff.mp ((lock.reading i).symm.trans free)).1
    · exact lock.exclusive i stage at_ ne
  have flag : s.reading i = stage.announced := by
    rw [lock.reading, quiet, at_]
    rfl
  obtain ⟨rfl, -⟩ := readStep_spec flag step
  refine ⟨lock.pending, fun j => ?_, fun j stage' at' ne => ?_, lock.scanned, fun j role => ?_⟩
  · change update s.reading i _ j =
      ((s.cpu j).announced || (nmiReadStage (update s.nmi i _ j)).elim false _)
    rcases eq_or_ne j i with rfl | ne
    · rw [update_self, update_self, quiet]
      cases next <;> rfl
    · rw [update_of_ne ne, update_of_ne ne]
      exact lock.reading j
  · change update s.nmi i _ j = _ at at'
    rcases eq_or_ne j i with rfl | other
    · exact quiet
    · rw [update_of_ne other] at at'
      exact lock.exclusive j stage' at' ne
  · change nmiRole (update s.nmi i _ j) ≠ _ at role
    rcases eq_or_ne j i with rfl | other
    · exact (s.cpu j).not_inReadSection quiet
    · rw [update_of_ne other] at role
      exact lock.joined j role

theorem EptlockInv.advanceNmi (inv : s.Inv) {stage : NmiStage} (at_ : s.nmi i = some stage)
    (step : s.advanceNmi i reads stage = some s') : s'.EptlockInv := by
  have stays (role : stage.role ≠ .out) : (s.cpu i).inReadSection = false :=
    lock.joined i (by rw [at_]; exact role)
  cases stage with
  | check =>
    cases step
    refine lock.nmi_step rfl rfl rfl rfl rfl (by rw [at_]; rfl) (.inl (by split <;> rfl)) ?_
    cases joins : s.quiesce && !s.quiesced i with
    | false => exact absurd rfl
    | true =>
      -- the CPU that quiesces sends its NMIs after it has seen that this one does not read
      simp only [Bool.and_eq_true, Bool.not_eq_true'] at joins
      have gathering := (inv.joins joins.1 joins.2 at_).1
      obtain ⟨k, -, phase⟩ := phase_owner (s := s) (by rw [gathering]; decide)
      refine fun _ => lock.scanned k i ?_
      rw [gathering] at phase
      exact CpuStage.scanned_of_gathering phase i
  | setQuiesced | incCounter | incResume | clearQuiesced =>
    cases step
    exact lock.nmi_step rfl rfl rfl rfl rfl (by rw [at_]; rfl) (.inl rfl) fun _ => stays nofun
  | guestNmi =>
    cases step
    exact lock.nmi_step rfl rfl rfl rfl rfl (by rw [at_]; rfl) (.inl rfl) (absurd rfl)
  | wait =>
    obtain ⟨-, rfl⟩ := guard_some.mp step
    exact lock.nmi_step rfl rfl rfl rfl rfl (by rw [at_]; rfl) (.inl rfl) fun _ => stays nofun
  | testFlush =>
    cases step
    exact lock.nmi_step rfl rfl rfl rfl rfl (by rw [at_]; rfl) (.inl (by split <;> rfl))
      fun _ => stays nofun
  | flush flags =>
    cases step
    refine lock.nmi_step rfl rfl rfl rfl rfl (by rw [at_]; rfl) ?_ fun _ => stays nofun
    cases reads with
    | true => exact .inr rfl
    | false => exact .inl rfl
  | read stage =>
    obtain ⟨⟨t, next⟩, read, rfl⟩ := map_eq_some_iff.mp step
    exact lock.nmi_read_step at_ read
  | leave =>
    cases step
    exact lock.nmi_step rfl rfl rfl rfl rfl (by rw [at_]; rfl) (.inl (by split <;> rfl))
      (by split <;> exact absurd rfl)

theorem EptlockInv.call (call : s.call i source target = some s')
    (before : source.announced = false) (after : target.announced = false)
    (pending : target.pending = source.pending) (scanned : ∀ j, target.scanned j = false) :
    s'.EptlockInv := by
  obtain ⟨⟨idle, rfl⟩, rfl⟩ := guard_some.mp call
  refine ⟨lock.pending_same rfl rfl rfl pending, fun j => ?_, fun j stage at_ ne => ?_,
    fun k j seen => ?_, fun j role => ?_⟩
  · change s.reading j = ((update s.cpu i _ j).announced || _)
    rcases eq_or_ne j i with rfl | ne
    · rw [update_self, after, lock.reading, before]
      rfl
    · rw [update_of_ne ne]
      exact lock.reading j
  · change (update s.cpu i _ j).announced = false
    rcases eq_or_ne j i with rfl | other
    · rw [update_self, after]
    · rw [update_of_ne other]
      exact lock.exclusive j stage at_ ne
  · change (update s.cpu i _ k).scanned j = true at seen
    change (update s.cpu i _ j).inReadSection = false
    have seen : (s.cpu k).scanned j = true := by
      rcases eq_or_ne k i with rfl | other
      · rw [update_self, scanned] at seen
        cases seen
      · rwa [update_of_ne other] at seen
    rcases eq_or_ne j i with rfl | other
    · rw [update_self]
      exact target.not_inReadSection after
    · rw [update_of_ne other]
      exact lock.scanned k j seen
  · change (update s.cpu i _ j).inReadSection = false
    rcases eq_or_ne j i with rfl | other
    · rw [update_self]
      exact target.not_inReadSection after
    · rw [update_of_ne other]
      exact lock.joined j role

theorem EptlockInv.advance (inv : s.Inv) (step : s.advance i reads = some s') : s'.EptlockInv := by
  rw [Smp.advance] at step
  cases stage : s.nmi i with
  | none =>
    rw [stage] at step
    exact lock.advanceCpu inv stage step
  | some _ =>
    rw [stage] at step
    exact lock.advanceNmi inv stage step

theorem EptlockInv.deliver (step : s.deliver i = some s') : s'.EptlockInv := by
  rcases deliver_cases step with ⟨stage, rfl⟩ | rfl
  · exact lock.nmi_step rfl rfl rfl rfl rfl (by rw [stage]; rfl) (.inl rfl) (absurd rfl)
  · exact ⟨lock.pending, lock.reading, lock.exclusive, lock.scanned, lock.joined⟩

theorem EptlockInv.step (inv : s.Inv) (step : s.step op = some s') : s'.EptlockInv := by
  cases op with
  | advance i | advanceReading i => exact lock.advance inv step
  | vmexit i | vmentry i | quiesce i | endquiesce i => exact lock.call step rfl rfl rfl fun _ => rfl
  | readLock i owner => cases owner <;> exact lock.call step rfl rfl rfl fun _ => rfl
  | flushAllTlb i flags =>
    simp only [Smp.step, ite_none_right_eq_some, map_eq_some_iff] at step
    obtain ⟨-, t, call, rfl⟩ := step
    have lock := lock.call call rfl rfl rfl fun _ => rfl
    exact ⟨lock.pending, lock.reading, lock.exclusive, lock.scanned, lock.joined⟩
  | deviceNmi i =>
    cases step
    exact ⟨lock.pending, lock.reading, lock.exclusive, lock.scanned, lock.joined⟩
  | deliver i => exact lock.deliver step

theorem EptlockInv.excludes (inv : s.Inv) (writes : (s.cpu i).inWriteSection = true) (j : Fin n)
    : ¬ s.InReadSection j := by
  have scanned := CpuStage.scanned_of_inWriteSection writes j
  have phase := CpuStage.phase_of_pending (CpuStage.pending_of_scanned scanned)
  rintro (reads | reads)
  · rw [lock.scanned i j scanned] at reads
    cases reads
  · cases stage : s.nmi j with
    | none => rw [stage] at reads; cases reads
    | some stage' =>
      rw [stage] at reads
      cases stage' with
      | read r =>
        -- an NMI handler reads only once the writer releases the CPUs
        have admits := inv.round.admits j
        rw [stage, inv.phase_of phase.1] at admits
        exact phase.2 (of_decide_eq_true admits)
      | _ => cases reads

theorem EptlockInv.not_failsNotWriting (inv : s.Inv) (i : Fin n) : ¬ s.FailsNotWriting i := by
  rintro ⟨-, at_, pending⟩
  rw [lock.pending_of inv (i := i) (by rw [at_]; nofun), at_] at pending
  cases pending

end

/-- The code that the quiesce NMI runs takes the read lock only if the code it has interrupted
is not between its announcement and the check or the retraction that follows. -/
def ReadsOutsideAnnouncement (s : Smp n) : SmpOp n → Prop
  | .advanceReading i => (∃ flags, s.nmi i = some (.flush flags)) → (s.cpu i).announcing = false
  | _ => True

/-- Where an NMI handler is about to take the read lock, the interrupted code has not announced
itself. -/
def Quiet (s : Smp n) : Prop :=
  ∀ j, s.nmi j = some (.read .assertNotReading) → (s.cpu j).announced = false

section

variable (quiet : s.Quiet)

include quiet

theorem Quiet.cpu_step {stage : CpuStage n} (idle : s.nmi i = none)
    (cpu : s'.cpu = update s.cpu i stage) (nmi : s'.nmi = s.nmi) : s'.Quiet := by
  intro j at_
  rw [nmi] at at_
  have ne : j ≠ i := by
    rintro rfl
    rw [idle] at at_
    cases at_
  rw [cpu, update_of_ne ne]
  exact quiet j at_

theorem Quiet.advanceCpu (idle : s.nmi i = none) (step : s.advanceCpu i = some s') : s'.Quiet := by
  rcases advanceCpu_cases step with ⟨stage, cpu, -, nmi, -⟩ | ⟨-, rfl⟩ | ⟨-, rfl⟩
  · exact quiet.cpu_step idle cpu nmi
  · exact quiet.cpu_step idle rfl rfl
  · exact quiet.cpu_step idle rfl rfl

omit quiet in
theorem readStep_next (step : s.readStep i stage = some (s', next)) :
    next ≠ some .assertNotReading := by
  rintro rfl
  cases stage with
  | checkPending => cases pending : s.writePending <;> simp [readStep, pending] at step
  | _ => simp [readStep] at step

omit quiet in
theorem advanceNmi_assertNotReading {stage : NmiStage} (step : s.advanceNmi i reads stage = some s')
    (at_ : s'.nmi i = some (.read .assertNotReading)) :
    reads = true ∧ ∃ flags, stage = .flush flags := by
  cases stage with
  | flush flags =>
    cases step
    replace at_ := (update_self i _ s.nmi).symm.trans at_
    cases reads with
    | true => exact ⟨rfl, flags, rfl⟩
    | false => cases at_
  | read stage =>
    obtain ⟨⟨t, next⟩, read, rfl⟩ := map_eq_some_iff.mp step
    replace at_ := (update_self i _ t.nmi).symm.trans at_
    refine absurd ?_ (readStep_next read)
    cases next <;> cases at_
    rfl
  | wait =>
    obtain ⟨-, rfl⟩ := guard_some.mp step
    replace at_ := (update_self i _ s.nmi).symm.trans at_
    cases at_
  | check | testFlush | leave =>
    cases step
    replace at_ := (update_self i _ s.nmi).symm.trans at_
    split at at_ <;> cases at_
  | setQuiesced | incCounter | incResume | clearQuiesced | guestNmi =>
    cases step
    replace at_ := (update_self i _ s.nmi).symm.trans at_
    cases at_

theorem Quiet.advance (lock : s.EptlockInv)
    (allowed : reads = true → (∃ flags, s.nmi i = some (.flush flags)) → (s.cpu i).announcing =
      false)
    (step : s.advance i reads = some s') : s'.Quiet := by
  rw [Smp.advance] at step
  cases stage : s.nmi i with
  | none =>
    rw [stage] at step
    exact quiet.advanceCpu stage step
  | some _ =>
    rw [stage] at step
    obtain ⟨cpu, -, -, next, nmi, -⟩ := advanceNmi_cases stage step
    intro j at_
    rw [cpu]
    rcases eq_or_ne j i with rfl | other
    · obtain ⟨reads, flags, rfl⟩ := advanceNmi_assertNotReading step at_
      exact (s.cpu j).not_announced (allowed reads ⟨flags, stage⟩)
        (lock.joined j (by rw [stage]; rintro ⟨⟩))
    · rw [nmi, update_of_ne other] at at_
      exact quiet j at_

theorem Quiet.call (call : s.call i source target = some s') : s'.Quiet := by
  obtain ⟨⟨idle, -⟩, rfl⟩ := guard_some.mp call
  exact quiet.cpu_step idle rfl rfl

theorem Quiet.deliver (step : s.deliver i = some s') : s'.Quiet := by
  rcases deliver_cases step with ⟨stage, rfl⟩ | rfl
  · intro j at_
    change update s.nmi i _ j = _ at at_
    rcases eq_or_ne j i with rfl | other
    · rw [update_self] at at_
      cases at_
    · rw [update_of_ne other] at at_
      exact quiet j at_
  · exact quiet

theorem Quiet.step (lock : s.EptlockInv) (allowed : s.ReadsOutsideAnnouncement op)
    (step : s.step op = some s') : s'.Quiet := by
  cases op with
  | advance i => exact quiet.advance (i := i) lock (fun reads => by cases reads) step
  | advanceReading i => exact quiet.advance lock (fun _ => allowed) step
  | vmexit i | vmentry i | readLock i owner | quiesce i | endquiesce i => exact quiet.call step
  | flushAllTlb i flags =>
    simp only [Smp.step, ite_none_right_eq_some, map_eq_some_iff] at step
    obtain ⟨-, t, call, rfl⟩ := step
    have quiet : t.Quiet := quiet.call call
    exact quiet
  | deviceNmi i =>
    cases step
    exact quiet
  | deliver i => exact quiet.deliver step

end

theorem EptlockInv.not_failsNotReading (lock : s.EptlockInv) (quiet : s.Quiet) (j : Fin n) :
    ¬ s.FailsNotReading j := by
  rintro ⟨⟨idle, at_⟩ | at_, reading⟩
  · rw [lock.reading, idle, CpuStage.announced, at_] at reading
    cases reading
  · rw [lock.reading, at_, quiet j at_] at reading
    cases reading

end Smp

/-- For any number of CPUs and any interleaving in which the code run from the quiesce NMI
does not take the read lock over an announcement: no CPU is in a read section while another is
in a write section, and the assertions of the lock functions hold. -/
theorem eptlock_excludes_and_asserts {s : Smp n}
    (reached : (smpMachine n).ReachableUnder Smp.ReadsOutsideAnnouncement s) :
    (∀ i j, (s.cpu i).inWriteSection = true → ¬ s.InReadSection j) ∧
    (∀ j, ¬ s.FailsNotReading j) ∧ ∀ i, ¬ s.FailsNotWriting i := by
  obtain ⟨inv, lock, quiet⟩ : s.Inv ∧ s.EptlockInv ∧ s.Quiet := by
    refine reached.invariant (P := fun s => s.Inv ∧ s.EptlockInv ∧ s.Quiet)
      (fun s init => ?_) fun s op s' inv allowed step => ?_
    · refine ⟨Smp.init_inv init, Smp.init_eptlockInv init, fun j at_ => ?_⟩
      rw [init.2.1 j] at at_
      cases at_
    · obtain ⟨inv, lock, quiet⟩ := inv
      exact ⟨inv.step step, lock.step inv step, quiet.step lock allowed step⟩
  exact ⟨fun _ j writes => lock.excludes inv writes j, lock.not_failsNotReading quiet,
    lock.not_failsNotWriting inv⟩

theorem Smp.readsOutside_of_ne (ne : ∀ i, op ≠ .advanceReading i) (s : Smp n) :
    s.ReadsOutsideAnnouncement op := by
  cases op with
  | advanceReading i => exact absurd rfl (ne i)
  | _ => trivial

open SmpOp in
def sampleFlushTlbOps : List (SmpOp 2) :=
  [vmexit cpu0, quiesce cpu0] ++ List.replicate 10 (advance cpu0) ++ [deliver cpu1] ++
    List.replicate 3 (advance cpu1) ++ List.replicate 3 (advance cpu0) ++
    [flushAllTlb cpu0 2, endquiesce cpu0] ++ List.replicate 3 (advance cpu0) ++
    List.replicate 2 (advance cpu1)

theorem eptlock_excludes_and_asserts_sample :
    ∃ s, (smpMachine 2).run Smp.start (sampleFlushTlbOps ++ [.advanceReading 1]) = some s ∧
      s.nmi 1 = some (.read .assertNotReading) ∧ ¬ s.FailsNotReading 1 := by
  have flushes : ((smpMachine 2).run Smp.start sampleFlushTlbOps).map
      (fun s => (s.cpu 1, (s.step (.advanceReading 1)).map fun s => s.nmi 1)) =
      some (.guest, some (some (.read .assertNotReading))) := by
    decide +kernel
  obtain ⟨s, run, seen⟩ := Option.map_eq_some_iff.mp flushes
  obtain ⟨guest, next⟩ := by simpa only [Prod.mk.injEq] using seen
  obtain ⟨s', step, reads⟩ := Option.map_eq_some_iff.mp next
  have plain : ∀ op ∈ sampleFlushTlbOps, ∀ i, op ≠ .advanceReading i := by decide
  have start : (smpMachine 2).ReachableUnder Smp.ReadsOutsideAnnouncement Smp.start :=
    .init Smp.start_init
  have reached := start.run (fun op mem => Smp.readsOutside_of_ne (plain op mem)) run
  have holds := eptlock_excludes_and_asserts (.step reached (o := .advanceReading 1)
    (fun _ => by rw [guest]; rfl) step)
  refine ⟨s', ?_, reads, holds.2.1 1⟩
  rw [Machine.run, List.foldlM_append]
  rw [Machine.run] at run
  rw [run]
  exact (bind_pure _).trans step

open SmpOp in
def sampleAnnouncementOps : List (SmpOp 2) :=
  [vmexit cpu1, readLock cpu1 false, advance cpu1, advance cpu1, vmexit cpu0, quiesce cpu0] ++
    List.replicate 6 (advance cpu0) ++ [advance cpu1] ++ List.replicate 4 (advance cpu0) ++
    [deliver cpu1] ++ List.replicate 3 (advance cpu1) ++ List.replicate 3 (advance cpu0) ++
    [flushAllTlb cpu0 2, endquiesce cpu0] ++ List.replicate 3 (advance cpu0) ++
    List.replicate 2 (advance cpu1)

/-- The flush takes the read lock over the announcement, and the assertion that the CPU is not
reading already fails. -/
theorem eptlock_asserts_over_announcement :
    ∃ s : Smp 2, (smpMachine 2).Reachable s ∧ (s.cpu 1).announcing = true ∧
      s.FailsNotReading 1 := by
  have fails : ((smpMachine 2).run Smp.start (sampleAnnouncementOps ++ [.advanceReading 1])).map
      (fun s => (s.cpu 1, s.nmi 1, s.reading 1)) =
      some (.read false .checkPending, some (.read .assertNotReading), true) := by
    decide +kernel
  obtain ⟨s, run, seen⟩ := Option.map_eq_some_iff.mp fails
  obtain ⟨cpu, nmi, reading⟩ := by simpa only [Prod.mk.injEq] using seen
  have start : (smpMachine 2).Reachable Smp.start := .init Smp.start_init
  exact ⟨s, start.run run, by rw [cpu]; rfl, .inr nmi, reading⟩

end Xmhf
