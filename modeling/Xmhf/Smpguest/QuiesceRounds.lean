import Xmhf.Lib.Counting
import Xmhf.Lib.Owed
import Xmhf.Smpguest.Quiesce

/-!
# Rounds of quiescing

One quiesce after another reuses the same counters and signals. Which values they may have
depends on the place of the CPU that holds `g_vmx_lock_quiesce` alone, its phase, and so does
what the NMI handlers of the other CPUs may be doing.
-/

namespace Xmhf

open Function (update update_of_ne update_self)

/-- How far a quiesce has got, by the place of the CPU that quiesces. -/
inductive QuiescePhase where
  | outside
  | locked
  | marked
  | reset
  | gathering
  | holding
  | ending
  | signalling
  | releasing
  | released
  | closing
  | closed
  deriving DecidableEq, Repr

inductive NmiRole where
  | out
  | joining
  | waiting
  | leaving
  | returning
  deriving DecidableEq, Repr

variable {n : Nat}

def CpuStage.phase : CpuStage n → QuiescePhase
  | .guest | .hypervisor | .read false _ | .lockQuiesce => .outside
  | .lockWrite | .setPending | .scan _ | .setQuiesced => .locked
  | .resetCounter => .marked
  | .setQuiesce => .reset
  | .sendNmi | .waitCounter => .gathering
  | .clearPending | .unlockWrite | .owner | .read true _ | .clearQuiesce => .holding
  | .resetResume => .ending
  | .setSignal => .signalling
  | .waitResume => .releasing
  | .clearQuiesced | .clearSignal => .released
  | .clearFlush => .closing
  | .unlockQuiesce => .closed

def NmiStage.role : NmiStage → NmiRole
  | .check | .guestNmi | .leave => .out
  | .setQuiesced | .incCounter => .joining
  | .wait => .waiting
  | .testFlush | .flush _ | .read _ | .incResume => .leaving
  | .clearQuiesced => .returning

def nmiRole (nmi : Option NmiStage) : NmiRole := nmi.elim .out NmiStage.role

def nmiWaits (nmi : Option NmiStage) : Bool := nmiRole nmi = .waiting

/-- The handler has answered the quiesce and is not yet counted as resumed. -/
def nmiInside (nmi : Option NmiStage) : Bool := nmiRole nmi = .waiting || nmiRole nmi = .leaving

namespace QuiescePhase

/-- `g_vmx_quiesce` -/
def quiesces : QuiescePhase → Bool
  | gathering | holding => true
  | _ => false

/-- `g_vmx_quiesce_resume_signal` -/
def signals : QuiescePhase → Bool
  | releasing | released => true
  | _ => false

/-- The owner has set its own `quiesced`, so that an NMI does not make it join. -/
def marks : QuiescePhase → Bool
  | marked | reset | gathering | holding => true
  | _ => false

def allWait : QuiescePhase → Bool
  | holding | ending | signalling => true
  | _ => false

/-- What the NMI handlers of the other CPUs may be doing. -/
def admits (phase : QuiescePhase) : NmiRole → Bool
  | .out | .returning => true
  | .joining => phase = gathering
  | .waiting => phase = gathering || phase.allWait || phase = releasing
  | .leaving => phase = releasing

variable {role : NmiRole}

theorem admits_gathering (admits : reset.admits role = true) : gathering.admits role = true := by
  cases role <;> first | rfl | cases admits

theorem admits_releasing (admits : signalling.admits role = true) :
    releasing.admits role = true := by
  cases role <;> first | rfl | cases admits

theorem admits_released (admits : releasing.admits role = true)
    (outside : (role = .waiting || role = .leaving) = false) : released.admits role = true := by
  cases role <;>
    first | rfl | exact absurd admits (by decide) | exact absurd outside (by decide)

end QuiescePhase

variable {stage : Option NmiStage}

namespace Smp

def phase (s : Smp n) : QuiescePhase := s.quiesceLock.elim .outside fun i => (s.cpu i).phase

/-- The data of a round that the CPUs share. -/
def shared (s : Smp n) : Bool × Bool × Nat × Nat :=
  (s.quiesce, s.resumeSignal, s.counter, s.resumeCounter)

/-- What the phase says of the shared data and of the NMI handlers. -/
structure Round (s : Smp n) (phase : QuiescePhase) : Prop where
  quiesce : s.quiesce = phase.quiesces
  signal : s.resumeSignal = phase.signals
  admits : ∀ j, phase.admits (nmiRole (s.nmi j)) = true
  counter : phase = .reset ∨ phase = .gathering → s.counter = countOf nmiWaits s.nmi
  resumed : phase = .signalling → s.resumeCounter = 0
  resuming : phase = .releasing → s.resumeCounter + countOf nmiInside s.nmi = n - 1

structure Inv (s : Smp n) : Prop where
  lock : ∀ i, s.quiesceLock = some i ↔ (s.cpu i).phase ≠ .outside
  marked : ∀ i, (s.cpu i).phase.marks = true → s.quiesced i = true
  out : ∀ i, (s.cpu i).phase ≠ .outside → nmiRole (s.nmi i) = .out
  waits : ∀ i j, (s.cpu i).phase.allWait = true → j ≠ i → s.nmi j = some .wait
  round : s.Round s.phase

variable {s s' : Smp n} {i : Fin n}

theorem phase_of_lock (lock : s.quiesceLock = some i) : s.phase = (s.cpu i).phase := by
  rw [phase, lock]
  rfl

theorem phase_of_none (lock : s.quiesceLock = none) : s.phase = .outside := by
  rw [phase, lock]
  rfl

section

variable (inv : s.Inv)

include inv

theorem Inv.phase_of (inside : (s.cpu i).phase ≠ .outside) : s.phase = (s.cpu i).phase :=
  phase_of_lock ((inv.lock i).mpr inside)

omit inv in
theorem phase_owner (inside : s.phase ≠ .outside) :
    ∃ i, s.quiesceLock = some i ∧ (s.cpu i).phase = s.phase := by
  cases lock : s.quiesceLock with
  | none => exact absurd (phase_of_none lock) inside
  | some i => exact ⟨i, rfl, (phase_of_lock lock).symm⟩

theorem Inv.others (inside : (s.cpu i).phase ≠ .outside) {k : Fin n} (ne : k ≠ i) :
    (s.cpu k).phase = .outside := by
  by_contra other
  have lock := ((inv.lock k).mpr other).symm.trans ((inv.lock i).mpr inside)
  exact ne (Option.some.inj lock)

omit inv in
theorem init_inv {s : Smp n} (init : (smpMachine n).init s) : s.Inv := by
  obtain ⟨cpu, nmi, -, -, lock, -, quiesce, signal, -⟩ := init
  have outside (i : Fin n) : (s.cpu i).phase = .outside := by
    rcases cpu i with h | h <;> rw [h] <;> rfl
  have phase := phase_of_none lock
  refine ⟨fun i => ?_, fun i marks => ?_, fun i inside => absurd (outside i) inside,
    fun i j waits => ?_, ?_⟩
  · simp [lock, outside i]
  · simp [outside i, QuiescePhase.marks] at marks
  · simp [outside i, QuiescePhase.allWait] at waits
  · rw [phase]
    exact ⟨quiesce, signal, fun j => by rw [nmi j]; rfl, nofun, nofun, nofun⟩

theorem Inv.nmi_step (cpu : s'.cpu = s.cpu) (lock : s'.quiesceLock = s.quiesceLock)
    (nmi : s'.nmi = update s.nmi i stage)
    (marked : ∀ k, (s.cpu k).phase.marks = true → s'.quiesced k = true)
    (out : (s.cpu i).phase ≠ .outside → nmiRole stage = .out)
    (waits : s.nmi i = some .wait → s.phase.allWait = false) (round : s'.Round s.phase) :
    s'.Inv := by
  have phase : s'.phase = s.phase := by rw [Smp.phase, Smp.phase, cpu, lock]
  refine ⟨by rw [cpu, lock]; exact inv.lock, by rw [cpu]; exact marked, ?_, ?_, phase ▸ round⟩
  · intro k inside
    rw [cpu] at inside
    rw [nmi]
    rcases eq_or_ne k i with rfl | ne
    · rw [update_self]
      exact out inside
    · rw [update_of_ne ne]
      exact inv.out k inside
  · intro k j all ne
    rw [cpu] at all
    rw [nmi]
    rcases eq_or_ne j i with rfl | other
    · have inside : (s.cpu k).phase ≠ .outside := by
        intro outside
        rw [outside] at all
        cases all
      have none := waits (inv.waits k j all ne)
      rw [inv.phase_of inside, all] at none
      cases none
    · rw [update_of_ne other]
      exact inv.waits k j all ne

omit inv in
theorem Inv.of_cpu_step {stage : CpuStage n}
    (cpu : s'.cpu = update s.cpu i stage) (nmi : s'.nmi = s.nmi)
    (idle : s.nmi i = none) (others : ∀ k, k ≠ i → (s.cpu k).phase = .outside)
    (lock : s'.quiesceLock = if stage.phase = .outside then none else some i)
    (marked : stage.phase.marks = true → s'.quiesced i = true)
    (waits : stage.phase.allWait = true → ∀ j, j ≠ i → s.nmi j = some .wait)
    (round : s'.Round stage.phase) : s'.Inv := by
  have self : s'.cpu i = stage := by rw [cpu, update_self]
  have other {k : Fin n} (ne : k ≠ i) : (s'.cpu k).phase = .outside := by
    rw [cpu, update_of_ne ne]
    exact others k ne
  have phase : s'.phase = stage.phase := by
    rw [Smp.phase, lock]
    split
    · next outside => exact outside.symm
    · exact congrArg CpuStage.phase self
  refine ⟨fun k => ?_, fun k marks => ?_, fun k inside => ?_, fun k j all ne => ?_, phase ▸ round⟩
  · rcases eq_or_ne k i with rfl | ne
    · rw [lock, self]
      split <;> simp_all
    · rw [lock, other ne]
      split <;> simp [ne.symm]
  · rcases eq_or_ne k i with rfl | ne
    · exact marked (self ▸ marks)
    · rw [other ne] at marks
      cases marks
  · rcases eq_or_ne k i with rfl | ne
    · rw [nmi, idle]
      rfl
    · exact absurd (other ne) inside
  · rcases eq_or_ne k i with rfl | outside
    · rw [nmi]
      exact waits (self ▸ all) j ne
    · rw [other outside] at all
      cases all

theorem Inv.outside (role : nmiRole (s.nmi i) ≠ .out) : (s.cpu i).phase = .outside := by
  by_contra inside
  exact role (inv.out i inside)

theorem Inv.not_marked (role : nmiRole (s.nmi i) ≠ .out) {k : Fin n}
    (marks : (s.cpu k).phase.marks = true) : k ≠ i := by
  rintro rfl
  rw [inv.outside role] at marks
  cases marks

omit inv in
theorem Round.nmi_step {phase : QuiescePhase} (round : s.Round phase)
    (nmi : s'.nmi = update s.nmi i stage) (quiesce : s'.quiesce = s.quiesce)
    (signal : s'.resumeSignal = s.resumeSignal) (admits : phase.admits (nmiRole stage) = true)
    (counter : phase = .reset ∨ phase = .gathering →
      s'.counter + (nmiWaits (s.nmi i)).toNat = s.counter + (nmiWaits stage).toNat)
    (resumed : phase = .signalling → s'.resumeCounter = s.resumeCounter)
    (resuming : phase = .releasing → s'.resumeCounter + (nmiInside stage).toNat =
        s.resumeCounter + (nmiInside (s.nmi i)).toNat) : s'.Round phase := by
  refine ⟨quiesce.trans round.quiesce, signal.trans round.signal, fun j => ?_, fun at_ => ?_,
    fun at_ => (resumed at_).trans (round.resumed at_), fun at_ => ?_⟩
  · rw [nmi]
    rcases eq_or_ne j i with rfl | ne
    · rw [update_self]
      exact admits
    · rw [update_of_ne ne]
      exact round.admits j
  · have count := countOf_update nmiWaits s.nmi i stage
    have before := round.counter at_
    have change := counter at_
    rw [nmi]
    omega
  · have count := countOf_update nmiInside s.nmi i stage
    have before := round.resuming at_
    have change := resuming at_
    rw [nmi]
    omega

theorem Inv.same_role (cpu : s'.cpu = s.cpu) (lock : s'.quiesceLock = s.quiesceLock)
    (nmi : s'.nmi = update s.nmi i stage)
    (marked : ∀ k, (s.cpu k).phase.marks = true → s'.quiesced k = true)
    (role : nmiRole stage = nmiRole (s.nmi i)) (waits : s.nmi i ≠ some .wait)
    (shared : s'.shared = s.shared) : s'.Inv := by
  simp only [Smp.shared, Prod.mk.injEq] at shared
  obtain ⟨quiesce, signal, counter, resume⟩ := shared
  refine inv.nmi_step cpu lock nmi marked (fun inside => role.trans (inv.out i inside))
    (fun wait => absurd wait waits) ?_
  refine inv.round.nmi_step nmi quiesce signal ?_ (fun _ => ?_) (fun _ => resume) (fun _ => ?_)
  · rw [role]
    exact inv.round.admits i
  · rw [counter, nmiWaits, nmiWaits, role]
  · rw [resume, nmiInside, nmiInside, role]

theorem Inv.joins (quiesce : s.quiesce = true) (free : s.quiesced i = false)
    (stage : s.nmi i = some .check) : s.phase = .gathering ∧ (s.cpu i).phase = .outside := by
  have phase : s.phase.quiesces = true := inv.round.quiesce ▸ quiesce
  have inside : s.phase ≠ .outside := by
    intro outside
    rw [outside] at phase
    cases phase
  obtain ⟨k, lock, owner⟩ := phase_owner inside
  have ne : i ≠ k := by
    rintro rfl
    have marks : (s.cpu i).phase.marks = true := by
      rw [owner]
      revert phase
      cases s.phase <;> decide
    rw [inv.marked i marks] at free
    cases free
  refine ⟨?_, inv.others ((inv.lock k).mp lock) ne⟩
  revert phase
  cases at_ : s.phase <;> try decide
  -- with all the others waiting, this CPU would wait too
  have wait := inv.waits k i (by rw [owner, at_]; rfl) ne
  rw [stage] at wait
  cases wait

omit inv in
theorem readStep_eq {stage : ReadStage} {next : Option ReadStage}
    (step : s.readStep i stage = some (s', next)) :
    ∃ reading, s' = { s with reading := reading } := by
  cases stage <;> simp only [readStep, Option.ite_none_left_eq_some, Option.ite_none_right_eq_some,
    Option.some.injEq, Prod.mk.injEq] at step <;>
    first
      | exact ⟨_, step.2.1.symm⟩
      | exact ⟨_, step.1.symm⟩

theorem Inv.advanceNmi {stage : NmiStage} {reads : Bool} (at_ : s.nmi i = some stage)
    (step : s.advanceNmi i reads stage = some s') : s'.Inv := by
  have role : nmiRole (s.nmi i) = stage.role := congrArg nmiRole at_
  cases stage with
  | check =>
    cases step
    cases joins : s.quiesce && !s.quiesced i with
    | false =>
      exact inv.same_role rfl rfl rfl inv.marked (by rw [at_, if_neg (by simp)]; rfl)
        (by simp [at_]) rfl
    | true =>
      simp only [Bool.and_eq_true, Bool.not_eq_true'] at joins
      obtain ⟨gathering, outside⟩ := inv.joins joins.1 joins.2 at_
      refine inv.nmi_step rfl rfl rfl inv.marked (absurd outside) (by simp [at_]) ?_
      refine inv.round.nmi_step rfl rfl rfl ?_ (fun _ => ?_) (fun _ => rfl) (fun _ => ?_)
      · rw [gathering]
        rfl
      · rw [at_]
        rfl
      · rw [at_]
        rfl
  | setQuiesced =>
    cases step
    refine inv.same_role rfl rfl rfl (fun k marks => ?_) (by rw [at_]; rfl) (by simp [at_]) rfl
    have ne := inv.not_marked (by rw [role]; decide) marks
    exact (update_of_ne ne _ _).trans (inv.marked k marks)
  | incCounter =>
    cases step
    have gathering : s.phase = .gathering := by
      have admits := inv.round.admits i
      rw [role] at admits
      exact of_decide_eq_true admits
    have outside := inv.outside (by rw [role]; decide)
    refine inv.nmi_step rfl rfl rfl inv.marked (absurd outside) (by simp [at_]) ?_
    refine inv.round.nmi_step rfl rfl rfl ?_ (fun _ => ?_) (fun _ => rfl) (fun releasing => ?_)
    · rw [gathering]
      rfl
    · rw [at_]
      rfl
    · rw [gathering] at releasing
      cases releasing
  | wait =>
    obtain ⟨signal, rfl⟩ := guard_some.mp step
    have releasing : s.phase = .releasing := by
      have admits := inv.round.admits i
      have signals := inv.round.signal.symm.trans signal
      rw [role] at admits
      revert admits signals
      cases s.phase <;> decide
    have outside := inv.outside (by rw [role]; decide)
    refine inv.nmi_step rfl rfl rfl inv.marked (absurd outside) (fun _ => by rw [releasing]; rfl) ?_
    refine inv.round.nmi_step rfl rfl rfl ?_ (fun counting => ?_) (fun _ => rfl) (fun _ => ?_)
    · rw [releasing]
      rfl
    · rw [releasing] at counting
      simp at counting
    · rw [at_]
      rfl
  | testFlush | flush flags | leave =>
    cases step
    exact inv.same_role rfl rfl rfl inv.marked (by rw [at_]; split <;> rfl) (by simp [at_]) rfl
  | read stage =>
    simp only [Smp.advanceNmi, Option.map_eq_some_iff] at step
    obtain ⟨⟨t, next⟩, read, rfl⟩ := step
    obtain ⟨reading, rfl⟩ := readStep_eq read
    exact inv.same_role rfl rfl rfl inv.marked (by rw [at_]; cases next <;> rfl) (by simp [at_]) rfl
  | incResume =>
    cases step
    have releasing : s.phase = .releasing := by
      have admits := inv.round.admits i
      rw [role] at admits
      exact of_decide_eq_true admits
    have outside := inv.outside (by rw [role]; decide)
    refine inv.nmi_step rfl rfl rfl inv.marked (absurd outside) (by simp [at_]) ?_
    refine inv.round.nmi_step rfl rfl rfl ?_ (fun counting => ?_) (fun signalling => ?_)
      (fun _ => ?_)
    · rw [releasing]
      rfl
    · rw [releasing] at counting
      simp at counting
    · rw [releasing] at signalling
      cases signalling
    · rw [at_]
      rfl
  | clearQuiesced =>
    cases step
    have outside := inv.outside (by rw [role]; decide)
    refine inv.nmi_step rfl rfl rfl (fun k marks => ?_) (absurd outside) (by simp [at_]) ?_
    · have ne := inv.not_marked (by rw [role]; decide) marks
      exact (update_of_ne ne _ _).trans (inv.marked k marks)
    · exact inv.round.nmi_step rfl rfl rfl rfl (fun _ => by rw [at_]; rfl) (fun _ => rfl)
        (fun _ => by rw [at_]; rfl)
  | guestNmi =>
    cases step
    exact inv.same_role rfl rfl rfl inv.marked (by rw [at_]; rfl) (by simp [at_]) rfl

theorem Inv.same_phases (same : ∀ k, (s'.cpu k).phase = (s.cpu k).phase) (nmi : s'.nmi = s.nmi)
    (lock : s'.quiesceLock = s.quiesceLock)
    (marked : ∀ k, (s.cpu k).phase.marks = true → s'.quiesced k = true)
    (shared : s'.shared = s.shared) : s'.Inv := by
  simp only [Smp.shared, Prod.mk.injEq] at shared
  obtain ⟨quiesce, signal, counter, resume⟩ := shared
  have current : s'.phase = s.phase := by
    rw [Smp.phase, Smp.phase, lock]
    cases s.quiesceLock with
    | none => rfl
    | some k => exact same k
  refine ⟨fun k => by rw [lock, same]; exact inv.lock k, fun k marks => marked k (same k ▸ marks),
    fun k inside => by rw [nmi]; exact inv.out k (same k ▸ inside),
    fun k j all ne => by rw [nmi]; exact inv.waits k j (same k ▸ all) ne, ?_⟩
  rw [current]
  exact ⟨quiesce.trans inv.round.quiesce, signal.trans inv.round.signal,
    by rw [nmi]; exact inv.round.admits,
    by rw [nmi, counter]; exact inv.round.counter,
    by rw [resume]; exact inv.round.resumed,
    by rw [nmi, resume]; exact inv.round.resuming⟩

theorem Inv.same_phase {stage : CpuStage n} (phase : stage.phase = (s.cpu i).phase)
    (cpu : s'.cpu = update s.cpu i stage) (nmi : s'.nmi = s.nmi)
    (lock : s'.quiesceLock = s.quiesceLock)
    (marked : ∀ k, (s.cpu k).phase.marks = true → s'.quiesced k = true)
    (shared : s'.shared = s.shared) : s'.Inv := by
  refine inv.same_phases (fun k => ?_) nmi lock marked shared
  rw [cpu]
  rcases eq_or_ne k i with rfl | ne
  · rw [update_self, phase]
  · rw [update_of_ne ne]

theorem Inv.all_wait (at_ : s.cpu i = .waitCounter) (enough : ¬ s.counter < n - 1)
    : ∀ j, j ≠ i → s.nmi j = some .wait := by
  have phase : (s.cpu i).phase = .gathering := congrArg CpuStage.phase at_
  have current := inv.phase_of (by rw [phase]; decide)
  have out : nmiWaits (s.nmi i) = false := by
    rw [nmiWaits, inv.out i (by rw [phase]; decide)]
    rfl
  have counter := inv.round.counter (.inr (current.trans phase))
  have most := countOf_le out
  have count : countOf nmiWaits s.nmi = Fintype.card (Fin n) - 1 := by
    rw [Fintype.card_fin] at most ⊢
    omega
  intro j ne
  have waits := (countOf_eq_iff out).mp count j ne
  cases stage : s.nmi j with
  | none => rw [stage] at waits; cases waits
  | some stage' =>
    rw [stage] at waits
    cases stage' <;> first | rfl | cases waits

theorem Inv.all_inside (all : (s.cpu i).phase.allWait = true)
    (inside : (s.cpu i).phase ≠ .outside) : countOf nmiInside s.nmi = n - 1 := by
  have out : nmiInside (s.nmi i) = false := by
    rw [nmiInside, inv.out i inside]
    rfl
  have count := (countOf_eq_iff out).mpr fun j ne => by
    rw [inv.waits i j all ne]
    rfl
  rwa [Fintype.card_fin] at count

theorem Inv.none_inside (at_ : s.cpu i = .waitResume) (enough : ¬ s.resumeCounter < n - 1)
    (j : Fin n) : nmiInside (s.nmi j) = false := by
  have phase : (s.cpu i).phase = .releasing := congrArg CpuStage.phase at_
  have current := inv.phase_of (by rw [phase]; decide)
  have resuming := inv.round.resuming (current.trans phase)
  exact countOf_eq_zero.mp (by omega) j

theorem Inv.round_of {old : CpuStage n} (at_ : s.cpu i = old) (inside : old.phase ≠ .outside) :
    s.Round old.phase := by
  subst at_
  rw [← inv.phase_of inside]
  exact inv.round

theorem Inv.next_phase {old stage : CpuStage n} (at_ : s.cpu i = old)
    (inside : old.phase ≠ .outside) (idle : s.nmi i = none) (cpu : s'.cpu = update s.cpu i stage)
    (nmi : s'.nmi = s.nmi) (lock : s'.quiesceLock = s.quiesceLock) (stays : stage.phase ≠ .outside)
    (marked : stage.phase.marks = true → s'.quiesced i = true)
    (waits : stage.phase.allWait = true → ∀ j, j ≠ i → s.nmi j = some .wait)
    (round : s'.Round stage.phase) : s'.Inv := by
  subst at_
  refine .of_cpu_step cpu nmi idle (fun _ ne => inv.others inside ne) ?_ marked waits round
  rw [lock, if_neg stays]
  exact (inv.lock i).mpr inside

omit inv in
theorem Round.none_wait {phase : QuiescePhase} (round : s.Round phase)
    (never : phase.admits .waiting = false) : countOf nmiWaits s.nmi = 0 := by
  refine countOf_eq_zero.mpr fun j => decide_eq_false fun waits => ?_
  have admits := round.admits j
  rw [waits, never] at admits
  cases admits

theorem Inv.advanceCpu (idle : s.nmi i = none) (step : s.advanceCpu i = some s') : s'.Inv := by
  rw [Smp.advanceCpu] at step
  generalize at_ : s.cpu i = old at step
  cases old with
  | guest | hypervisor | owner => cases step
  | read owner stage =>
    obtain ⟨⟨t, next⟩, read, rfl⟩ := Option.map_eq_some_iff.mp step
    obtain ⟨reading, rfl⟩ := readStep_eq read
    refine inv.same_phase ?_ rfl rfl rfl inv.marked rfl
    rw [at_]
    cases owner <;> cases next <;> rfl
  | lockQuiesce =>
    obtain ⟨free, rfl⟩ := guard_some.mp step
    have outside (k : Fin n) : (s.cpu k).phase = .outside := by
      by_contra inside
      rw [(inv.lock k).mpr inside] at free
      cases free
    have round := inv.round
    rw [phase_of_none free] at round
    exact .of_cpu_step rfl rfl idle (fun k _ => outside k) rfl nofun nofun
      ⟨round.quiesce, round.signal, round.admits, nofun, nofun, nofun⟩
  | lockWrite | clearPending =>
    obtain ⟨-, rfl⟩ := guard_some.mp step
    exact inv.same_phase (by rw [at_]; rfl) rfl rfl rfl inv.marked rfl
  | setPending =>
    obtain ⟨-, rfl⟩ := unless_some.mp step
    exact inv.same_phase (by rw [at_]; rfl) rfl rfl rfl inv.marked rfl
  | scan rest =>
    cases rest with
    | nil =>
      cases step
      exact inv.same_phase (by rw [at_]; rfl) rfl rfl rfl inv.marked rfl
    | cons j rest =>
      obtain ⟨-, rfl⟩ := unless_some.mp step
      exact inv.same_phase (by rw [at_]; rfl) rfl rfl rfl inv.marked rfl
  | setQuiesced =>
    have round := inv.round_of at_ nofun
    cases step
    exact inv.next_phase at_ nofun idle rfl rfl rfl nofun (fun _ => update_self ..) nofun
      ⟨round.quiesce, round.signal, round.admits, nofun, nofun, nofun⟩
  | resetCounter =>
    have round := inv.round_of at_ nofun
    cases step
    refine inv.next_phase at_ nofun idle rfl rfl rfl nofun
      (fun _ => inv.marked i (by rw [at_]; rfl)) nofun
      ⟨round.quiesce, round.signal, round.admits, fun _ => ?_, nofun, nofun⟩
    exact (round.none_wait rfl).symm
  | setQuiesce =>
    have round := inv.round_of at_ nofun
    cases step
    refine inv.next_phase at_ nofun idle rfl rfl rfl nofun
      (fun _ => inv.marked i (by rw [at_]; rfl)) nofun
      ⟨rfl, round.signal, fun j => QuiescePhase.admits_gathering (round.admits j),
        fun _ => round.counter (.inl rfl), nofun, nofun⟩
  | sendNmi | unlockWrite =>
    cases step
    exact inv.same_phase (by rw [at_]; rfl) rfl rfl rfl inv.marked rfl
  | waitCounter =>
    have round := inv.round_of at_ nofun
    obtain ⟨enough, rfl⟩ := unless_some.mp step
    have all := inv.all_wait at_ enough
    refine inv.next_phase at_ nofun idle rfl rfl rfl nofun
      (fun _ => inv.marked i (by rw [at_]; rfl)) (fun _ => all)
      ⟨round.quiesce, round.signal, fun j => ?_, nofun, nofun, nofun⟩
    change QuiescePhase.admits _ (nmiRole (s.nmi j)) = true
    rcases eq_or_ne j i with rfl | ne
    · rw [idle]
      rfl
    · rw [all j ne]
      rfl
  | clearQuiesce =>
    have round := inv.round_of at_ nofun
    cases step
    refine inv.next_phase at_ nofun idle rfl rfl rfl nofun nofun
      (fun _ j => inv.waits i j (by rw [at_]; rfl))
      ⟨rfl, round.signal, round.admits, nofun, nofun, nofun⟩
  | resetResume =>
    have round := inv.round_of at_ nofun
    cases step
    refine inv.next_phase at_ nofun idle rfl rfl rfl nofun nofun
      (fun _ j => inv.waits i j (by rw [at_]; rfl))
      ⟨round.quiesce, round.signal, round.admits, nofun, fun _ => rfl, nofun⟩
  | setSignal =>
    have round := inv.round_of at_ nofun
    have count := inv.all_inside (by rw [at_]; rfl) (by rw [at_]; nofun)
    cases step
    refine inv.next_phase at_ nofun idle rfl rfl rfl nofun nofun nofun
      ⟨round.quiesce, rfl, fun j => QuiescePhase.admits_releasing (round.admits j), nofun, nofun,
        fun _ => ?_⟩
    change s.resumeCounter + countOf nmiInside s.nmi = n - 1
    rw [round.resumed rfl, count, Nat.zero_add]
  | waitResume =>
    have round := inv.round_of at_ nofun
    obtain ⟨enough, rfl⟩ := unless_some.mp step
    refine inv.next_phase at_ nofun idle rfl rfl rfl nofun nofun nofun
      ⟨round.quiesce, round.signal, fun j => ?_, nofun, nofun, nofun⟩
    exact QuiescePhase.admits_released (round.admits j) (inv.none_inside at_ enough j)
  | clearQuiesced =>
    cases step
    refine inv.same_phase (by rw [at_]; rfl) rfl rfl rfl (fun k marks => ?_) rfl
    rcases eq_or_ne k i with rfl | ne
    · rw [at_] at marks
      cases marks
    · exact (update_of_ne ne _ _).trans (inv.marked k marks)
  | clearSignal =>
    have round := inv.round_of at_ nofun
    cases step
    exact inv.next_phase at_ nofun idle rfl rfl rfl nofun nofun nofun
      ⟨round.quiesce, rfl, round.admits, nofun, nofun, nofun⟩
  | clearFlush =>
    have round := inv.round_of at_ nofun
    cases step
    exact inv.next_phase at_ nofun idle rfl rfl rfl nofun nofun nofun
      ⟨round.quiesce, round.signal, round.admits, nofun, nofun, nofun⟩
  | unlockQuiesce =>
    have round := inv.round_of at_ nofun
    cases step
    exact .of_cpu_step rfl rfl idle (fun _ ne => inv.others (by rw [at_]; nofun) ne) rfl
      nofun nofun ⟨round.quiesce, round.signal, round.admits, nofun, nofun, nofun⟩

theorem Inv.call {source target : CpuStage n} (call : s.call i source target = some s')
    (phase : target.phase = source.phase) : s'.Inv := by
  obtain ⟨⟨-, rfl⟩, rfl⟩ := guard_some.mp call
  exact inv.same_phase phase rfl rfl rfl inv.marked rfl

omit inv in
theorem deliver_cases (step : s.deliver i = some s') :
    s.nmi i = none ∧ s' = Smp.gotoNmi { s with sent := update s.sent i (s.sent i - 1) } i
      (some .check) ∨
    s' = { s with
      sent := update s.sent i (s.sent i - 1)
      latched := update s.latched i true } := by
  simp only [Smp.deliver, Option.ite_none_left_eq_some] at step
  obtain ⟨-, step⟩ := step
  cases stage : s.nmi i with
  | none =>
    simp only [stage, Option.some.injEq] at step
    exact .inl ⟨rfl, step.symm⟩
  | some _ =>
    simp only [stage, Option.some.injEq] at step
    exact .inr step.symm

theorem Inv.deliver (step : s.deliver i = some s') : s'.Inv := by
  rcases deliver_cases step with ⟨stage, rfl⟩ | rfl
  · exact inv.same_role rfl rfl rfl inv.marked (by rw [stage]; rfl) (by simp [stage]) rfl
  · exact inv.same_phases (fun _ => rfl) rfl rfl inv.marked rfl

theorem Inv.advance {reads : Bool} (step : s.advance i reads = some s') : s'.Inv := by
  rw [Smp.advance] at step
  generalize stage : s.nmi i = result at step
  cases result with
  | none =>
    exact inv.advanceCpu stage step
  | some _ =>
    exact inv.advanceNmi stage step

theorem Inv.step {op : SmpOp n} (step : s.step op = some s') : s'.Inv := by
  cases op with
  | advance i | advanceReading i => exact inv.advance step
  | vmexit i | vmentry i | quiesce i | endquiesce i => exact inv.call step rfl
  | readLock i owner => cases owner <;> exact inv.call step rfl
  | flushAllTlb i flags =>
    simp only [Smp.step, Option.ite_none_right_eq_some, Option.map_eq_some_iff] at step
    obtain ⟨-, t, call, rfl⟩ := step
    have called := inv.call call rfl
    exact called.same_phases (fun _ => rfl) rfl rfl called.marked rfl
  | deviceNmi i =>
    cases step
    exact inv.same_phases (fun _ => rfl) rfl rfl inv.marked rfl
  | deliver i => exact inv.deliver step

end

theorem Inv.reachable (reached : (smpMachine n).Reachable s) : s.Inv :=
  reached.invariant (fun _ => init_inv) fun _ _ _ inv _ step => inv.step step

end Smp

end Xmhf
