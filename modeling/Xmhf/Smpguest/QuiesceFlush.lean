import Xmhf.Smpguest.QuiesceRounds

/-!
# Flushes at the end of a quiesce

The owner of a quiesce requests a TLB flush of all CPUs, and the NMI handlers of the others
flush when it releases them. A section that requests twice keeps its last request:
`xmhf_memprot_flushmappings_alltlb` overwrites the signal.
-/

namespace Xmhf

open Function (update update_of_ne update_self)

open Owed

variable {n : Nat}

/-- The flags of the last request since the last release, zero if there is none. -/
def requestedFlush : List (FlushTlbEvent n) → U32
  | [] => 0
  | .request _ flags :: _ => flags
  | .release _ _ :: _ => 0
  | .flush _ _ :: log => requestedFlush log

/-- Every release is made with the flags requested before it. -/
def ReleasedAsRequested : List (FlushTlbEvent n) → Prop
  | [] => True
  | .release _ flags :: log => flags = requestedFlush log ∧ ReleasedAsRequested log
  | .request _ _ :: log | .flush _ _ :: log => ReleasedAsRequested log

variable {reads : Bool} {stage : CpuStage n} {flags : U32}

theorem ReleasedAsRequested.split {later earlier : List (FlushTlbEvent n)} {i : Fin n}
    (log : ReleasedAsRequested (later ++ .release i flags :: earlier)) :
    flags = requestedFlush earlier := by
  induction later with
  | nil => exact log.1
  | cons e later ih =>
    cases e with
    | request | flush => exact ih log
    | release => exact ih log.2

/-- The owner has released the other CPUs and not yet reset the flush signal. -/
def CpuStage.afterRelease : CpuStage n → Bool
  | .waitResume | .clearQuiesced | .clearSignal | .clearFlush => true
  | _ => false

theorem CpuStage.phase_afterRelease (after : stage.afterRelease = true) :
    stage.phase ≠ .outside := by
  intro outside
  cases stage <;> first | (cases after; done) | cases outside

/-- Between the return of `quiesce` and the statement of `endquiesce` that releases the other
CPUs. -/
def CpuStage.ownsQuiesce : CpuStage n → Bool
  | .owner | .read true _ | .clearQuiesce | .resetResume | .setSignal => true
  | _ => false

theorem CpuStage.phase_ownsQuiesce (owns : stage.ownsQuiesce = true) :
    stage.phase.allWait = true := by
  cases stage with
  | read owner stage =>
    cases owner with
    | true => rfl
    | false => cases owns
  | _ => first | rfl | cases owns

/-- The NMI handler waits, or has yet to flush with these flags. -/
def willFlush (flags : U32) : Option NmiStage → Bool
  | some .wait | some .testFlush => true
  | some (.flush flags') => flags' = flags
  | _ => false

def FlushTlbEvent.releases (i : Fin n) (flags : U32) (e : FlushTlbEvent n) : Bool :=
  e = .release i flags

def FlushTlbEvent.flushes (j : Fin n) (flags : U32) (e : FlushTlbEvent n) : Bool :=
  e = .flush j flags

namespace Smp

structure FlushInv (s : Smp n) : Prop where
  released : ReleasedAsRequested s.log
  pending : (∀ k, (s.cpu k).afterRelease = false) → s.flushSignal = requestedFlush s.log
  spent : ∀ k, (s.cpu k).afterRelease = true → requestedFlush s.log = 0
  owed : ∀ i j flags, i ≠ j → flags ≠ 0 →
    Owes (FlushTlbEvent.releases i flags) (FlushTlbEvent.flushes j flags) s.log →
    s.resumeSignal = true ∧ s.flushSignal = flags ∧ willFlush flags (s.nmi j) = true

variable {s s' : Smp n} {i : Fin n}

theorem init_flushInv (init : (smpMachine n).init s) : s.FlushInv := by
  obtain ⟨cpu, -, -, -, -, -, -, -, signal, -, log⟩ := init
  refine ⟨by rw [log]; trivial, fun _ => by rw [log, signal]; rfl, fun k after => ?_,
    fun i j flags _ _ owes => ?_⟩
  · rcases cpu k with at_ | at_ <;> rw [at_] at after <;> cases after
  · rw [log] at owes
    cases owes

theorem advanceCpu_cases (step : s.advanceCpu i = some s') :
    (∃ stage, s'.cpu = update s.cpu i stage ∧
      stage.afterRelease = (s.cpu i).afterRelease ∧ s'.nmi = s.nmi ∧ s'.log = s.log ∧
      s'.flushSignal = s.flushSignal ∧
      (s'.resumeSignal = s.resumeSignal ∨ s.cpu i = .clearSignal)) ∨
    (s.cpu i = .setSignal ∧ s' = { s.goto i .waitResume with
      resumeSignal := true, log := .release i s.flushSignal :: s.log }) ∨
    (s.cpu i = .clearFlush ∧ s' = { s.goto i .unlockQuiesce with flushSignal := 0 }) := by
  rw [advanceCpu] at step
  generalize at_ : s.cpu i = old at step
  cases old with
  | guest | hypervisor | owner => cases step
  | setSignal =>
    exact .inr (.inl ⟨rfl, (Option.some.inj step).symm⟩)
  | clearFlush =>
    exact .inr (.inr ⟨rfl, (Option.some.inj step).symm⟩)
  | clearSignal =>
    cases step
    exact .inl ⟨_, rfl, rfl, rfl, rfl, rfl, .inr rfl⟩
  | read owner stage =>
    obtain ⟨⟨t, next⟩, read, rfl⟩ := Option.map_eq_some_iff.mp step
    obtain ⟨reading, rfl⟩ := readStep_eq read
    exact .inl ⟨_, rfl, by cases owner <;> cases next <;> rfl, rfl, rfl, rfl, .inl rfl⟩
  | scan rest =>
    cases rest with
    | nil =>
      cases step
      exact .inl ⟨_, rfl, rfl, rfl, rfl, rfl, .inl rfl⟩
    | cons j rest =>
      obtain ⟨-, rfl⟩ := unless_some.mp step
      exact .inl ⟨_, rfl, rfl, rfl, rfl, rfl, .inl rfl⟩
  | lockQuiesce | lockWrite | setPending | waitCounter | clearPending | waitResume =>
    simp only [Option.ite_none_left_eq_some, Option.ite_none_right_eq_some,
      Option.some.injEq] at step
    obtain ⟨-, rfl⟩ := step
    exact .inl ⟨_, rfl, rfl, rfl, rfl, rfl, .inl rfl⟩
  | setQuiesced | resetCounter | setQuiesce | sendNmi | unlockWrite | clearQuiesce | resetResume
  | clearQuiesced | unlockQuiesce =>
    cases step
    exact .inl ⟨_, rfl, rfl, rfl, rfl, rfl, .inl rfl⟩

section

variable (flush : s.FlushInv)

include flush

theorem FlushInv.cpu_step (cpu : s'.cpu = update s.cpu i stage)
    (after : stage.afterRelease = (s.cpu i).afterRelease) (nmi : s'.nmi = s.nmi)
    (log : s'.log = s.log) (signal : s'.flushSignal = s.flushSignal)
    (resume : s'.resumeSignal = s.resumeSignal ∨ ∀ j flags, willFlush flags (s.nmi j) = false) :
    s'.FlushInv := by
  have same (k : Fin n) : (s'.cpu k).afterRelease = (s.cpu k).afterRelease := by
    rw [cpu]
    rcases eq_or_ne k i with rfl | ne
    · rw [update_self, after]
    · rw [update_of_ne ne]
  refine ⟨by rw [log]; exact flush.released, fun before => ?_, fun k at_ => ?_,
    fun i j flags ne some_ owes => ?_⟩
  · rw [log, signal]
    exact flush.pending fun k => (same k).symm.trans (before k)
  · rw [log]
    exact flush.spent k ((same k).symm.trans at_)
  · rw [log] at owes
    obtain ⟨resuming, flags', will⟩ := flush.owed i j flags ne some_ owes
    rw [nmi, signal]
    rcases resume with same | never
    · exact ⟨same.trans resuming, flags', will⟩
    · rw [never j flags] at will
      cases will

omit flush in
theorem Round.none_will {phase : QuiescePhase} (round : s.Round phase)
    (waiting : phase.admits .waiting = false) (leaving : phase.admits .leaving = false)
    (j : Fin n) (flags : U32) : willFlush flags (s.nmi j) = false := by
  have admits := round.admits j
  cases stage : s.nmi j with
  | none => rfl
  | some stage' =>
    rw [stage] at admits
    cases stage' with
    | wait => exact absurd admits (by change ¬ phase.admits .waiting = true; simp [waiting])
    | testFlush | flush =>
      exact absurd admits (by change ¬ phase.admits .leaving = true; simp [leaving])
    | check | setQuiesced | incCounter | read | incResume | clearQuiesced | guestNmi | leave => rfl

theorem FlushInv.advanceCpu (inv : s.Inv) (step : s.advanceCpu i = some s') : s'.FlushInv := by
  rcases advanceCpu_cases step with ⟨stage, cpu, after, nmi, log, signal, resume⟩ |
    ⟨at_, rfl⟩ | ⟨at_, rfl⟩
  · refine flush.cpu_step cpu after nmi log signal (resume.imp_right fun at_ => ?_)
    have round := inv.round_of at_ nofun
    exact round.none_will rfl rfl
  · have phase : (s.cpu i).phase = .signalling := congrArg CpuStage.phase at_
    have inside : (s.cpu i).phase ≠ .outside := by rw [phase]; decide
    have round := inv.round_of at_ nofun
    have before (k : Fin n) : (s.cpu k).afterRelease = false := by
      rcases eq_or_ne k i with rfl | ne
      · rw [at_]
        rfl
      · by_contra after
        exact CpuStage.phase_afterRelease (Bool.not_eq_false _ ▸ after) (inv.others inside ne)
    refine ⟨⟨flush.pending before, flush.released⟩, fun never => ?_, fun _ _ => rfl,
      fun k j flags ne some_ owes => ?_⟩
    · have never := never i
      simp [goto, CpuStage.afterRelease] at never
    · rcases owes with asked | ⟨-, owes⟩
      · cases of_decide_eq_true asked
        refine ⟨rfl, rfl, ?_⟩
        change willFlush _ (s.nmi j) = true
        rw [inv.waits i j (by rw [phase]; rfl) ne.symm]
        rfl
      · have resuming := (flush.owed k j flags ne some_ owes).1
        rw [round.signal] at resuming
        cases resuming
  · have round := inv.round_of at_ nofun
    have spent := flush.spent i (by rw [at_]; rfl)
    refine ⟨flush.released, fun _ => spent.symm, fun _ _ => spent,
      fun k j flags ne some_ owes => ?_⟩
    have resuming := (flush.owed k j flags ne some_ owes).1
    rw [round.signal] at resuming
    cases resuming

omit flush in
theorem advanceNmi_cases {stage : NmiStage} (at_ : s.nmi i = some stage)
    (step : s.advanceNmi i reads stage = some s') :
    s'.cpu = s.cpu ∧ s'.flushSignal = s.flushSignal ∧ s'.resumeSignal = s.resumeSignal ∧
    ∃ next, s'.nmi = update s.nmi i next ∧
      (s'.log = s.log ∧ (s.flushSignal ≠ 0 → willFlush s.flushSignal (s.nmi i) = true →
        willFlush s.flushSignal next = true) ∨
      ∃ flags, stage = .flush flags ∧ s'.log = .flush i flags :: s.log) := by
  rw [at_]
  cases stage with
  | check | setQuiesced | incCounter | incResume | clearQuiesced | guestNmi | leave =>
    cases step
    exact ⟨rfl, rfl, rfl, _, rfl, .inl ⟨rfl, nofun⟩⟩
  | wait =>
    obtain ⟨-, rfl⟩ := guard_some.mp step
    exact ⟨rfl, rfl, rfl, _, rfl, .inl ⟨rfl, fun _ _ => rfl⟩⟩
  | testFlush =>
    cases step
    refine ⟨rfl, rfl, rfl, _, rfl, .inl ⟨rfl, fun some_ _ => ?_⟩⟩
    rw [if_neg some_]
    exact decide_eq_true rfl
  | flush flags =>
    cases step
    exact ⟨rfl, rfl, rfl, _, rfl, .inr ⟨flags, rfl, rfl⟩⟩
  | read stage =>
    obtain ⟨⟨t, next⟩, read, rfl⟩ := Option.map_eq_some_iff.mp step
    obtain ⟨reading, rfl⟩ := readStep_eq read
    exact ⟨rfl, rfl, rfl, _, rfl, .inl ⟨rfl, nofun⟩⟩

theorem FlushInv.nmi_step {next : Option NmiStage} (cpu : s'.cpu = s.cpu)
    (signal : s'.flushSignal = s.flushSignal) (resume : s'.resumeSignal = s.resumeSignal)
    (nmi : s'.nmi = update s.nmi i next) (log : s'.log = s.log)
    (will : s.flushSignal ≠ 0 → willFlush s.flushSignal (s.nmi i) = true → willFlush s.flushSignal
      next = true)
    : s'.FlushInv := by
  refine ⟨by rw [log]; exact flush.released, by rw [cpu, log, signal]; exact flush.pending,
    by rw [cpu, log]; exact flush.spent, fun k j flags ne some_ owes => ?_⟩
  rw [log] at owes
  obtain ⟨resuming, rfl, before⟩ := flush.owed k j flags ne some_ owes
  refine ⟨resume.trans resuming, signal, ?_⟩
  rw [nmi]
  rcases eq_or_ne j i with rfl | other
  · rw [update_self]
    exact will some_ before
  · rw [update_of_ne other]
    exact before

theorem FlushInv.advanceNmi {stage : NmiStage} (at_ : s.nmi i = some stage)
    (step : s.advanceNmi i reads stage = some s') : s'.FlushInv := by
  obtain ⟨cpu, signal, resume, next, nmi, ⟨log, will⟩ | ⟨flags, rfl, log⟩⟩ :=
    advanceNmi_cases at_ step
  · exact flush.nmi_step cpu signal resume nmi log will
  · refine ⟨by rw [log]; exact flush.released, by rw [cpu, log, signal]; exact flush.pending,
      by rw [cpu, log]; exact flush.spent, fun k j flags' ne some_ owes => ?_⟩
    rw [log] at owes
    have unserved : FlushTlbEvent.flushes j flags' (.flush i flags) = false := by
      rcases owes with asked | ⟨unserved, -⟩
      · exact absurd (of_decide_eq_true asked) nofun
      · exact unserved
    obtain ⟨resuming, same, before⟩ := flush.owed k j flags' ne some_ (owes.before rfl)
    refine ⟨resume.trans resuming, signal.trans same, ?_⟩
    rw [nmi]
    rcases eq_or_ne j i with rfl | other
    · -- this CPU has just flushed, so nothing is owed
      rw [at_] at before
      cases of_decide_eq_true before
      exact absurd rfl (of_decide_eq_false unserved)
    · rw [update_of_ne other]
      exact before

theorem FlushInv.call {source target : CpuStage n} (call : s.call i source target = some s')
    (after : target.afterRelease = source.afterRelease) : s'.FlushInv := by
  obtain ⟨⟨-, rfl⟩, rfl⟩ := guard_some.mp call
  exact flush.cpu_step rfl after rfl rfl rfl (.inl rfl)

theorem FlushInv.flushAllTlb (inv : s.Inv) (call : s.call i .owner .owner = some s') :
    FlushInv { s' with flushSignal := flags, log := .request i flags :: s'.log } := by
  obtain ⟨⟨-, at_⟩, rfl⟩ := guard_some.mp call
  have phase : (s.cpu i).phase = .holding := congrArg CpuStage.phase at_
  have same : update s.cpu i .owner = s.cpu := by
    rw [← at_, Function.update_eq_self]
  refine ⟨flush.released, fun _ => rfl, fun k after => ?_, fun k j flags' ne some_ owes => ?_⟩
  · change (update s.cpu i .owner k).afterRelease = true at after
    rw [same] at after
    rcases eq_or_ne k i with rfl | other
    · rw [at_] at after
      cases after
    · exact absurd (inv.others (by rw [phase]; decide) other) (CpuStage.phase_afterRelease after)
  · have resuming := (flush.owed k j flags' ne some_ (owes.before rfl)).1
    rw [(inv.round_of at_ nofun).signal] at resuming
    cases resuming

theorem FlushInv.advance (inv : s.Inv) (step : s.advance i reads = some s') : s'.FlushInv := by
  rw [Smp.advance] at step
  generalize stage : s.nmi i = result at step
  cases result with
  | none =>
    exact flush.advanceCpu inv step
  | some _ =>
    exact flush.advanceNmi stage step

theorem FlushInv.deliver (step : s.deliver i = some s') : s'.FlushInv := by
  rcases deliver_cases step with ⟨stage, rfl⟩ | rfl
  · exact flush.nmi_step rfl rfl rfl rfl rfl (by simp [stage, willFlush])
  · exact ⟨flush.released, flush.pending, flush.spent, flush.owed⟩

theorem FlushInv.step (inv : s.Inv) {op : SmpOp n} (step : s.step op = some s') : s'.FlushInv := by
  cases op with
  | advance i | advanceReading i => exact flush.advance inv step
  | vmexit i | vmentry i | quiesce i | endquiesce i => exact flush.call step rfl
  | readLock i owner => cases owner <;> exact flush.call step rfl
  | flushAllTlb i flags =>
    simp only [Smp.step, Option.ite_none_right_eq_some, Option.map_eq_some_iff] at step
    obtain ⟨-, t, call, rfl⟩ := step
    exact flush.flushAllTlb inv call
  | deviceNmi i =>
    cases step
    exact ⟨flush.released, flush.pending, flush.spent, flush.owed⟩
  | deliver i => exact flush.deliver step

end

theorem FlushInv.reachable (reached : (smpMachine n).Reachable s) : s.FlushInv :=
  (reached.invariant (P := fun s => s.Inv ∧ s.FlushInv)
    (fun _ init => ⟨init_inv init, init_flushInv init⟩)
    fun _ _ _ inv _ step => ⟨inv.1.step step, inv.2.step inv.1 step⟩).2

def RunsGuest (s : Smp n) (j : Fin n) : Prop := s.cpu j = .guest ∧ s.nmi j = none

end Smp

def Smp.start : Smp 2 where
  cpu _ := .guest
  nmi _ := none
  latched _ := false
  sent _ := 0
  quiesced _ := false
  reading _ := false
  quiesceLock := none
  writeLock := none
  quiesce := false
  counter := 0
  resumeSignal := false
  resumeCounter := 0
  flushSignal := 0
  writePending := false
  log := []

theorem Smp.start_init : (smpMachine 2).init Smp.start :=
  ⟨fun _ => .inl rfl, fun _ => rfl, fun _ => rfl, fun _ => rfl, rfl, rfl, rfl, rfl, rfl, rfl, rfl⟩

open SmpOp in
def sampleQuiesceOps : List (SmpOp 2) :=
  [vmexit 0, quiesce 0] ++ List.replicate 10 (advance 0) ++
    [deliver 1, deviceNmi 1, deliver 1] ++ List.replicate 3 (advance 1) ++
    List.replicate 3 (advance 0) ++ [flushAllTlb 0 2, endquiesce 0]

open SmpOp in
def sampleEndquiesceOps : List (SmpOp 2) :=
  List.replicate 3 (advance 0) ++ List.replicate 9 (advance 1)

def cpu0 : Fin 2 := 0

def cpu1 : Fin 2 := 1

/-- One CPU at a time quiesces, and it waits for no other. -/
theorem quiesce_exclusive {s : Smp n} (reached : (smpMachine n).Reachable s) {i : Fin n}
    (inside : (s.cpu i).phase ≠ .outside) :
    nmiRole (s.nmi i) = .out ∧ ∀ j, (s.cpu j).phase ≠ .outside → j = i := by
  have inv := Smp.Inv.reachable reached
  refine ⟨inv.out i inside, fun j other => Option.some.inj ?_⟩
  rw [← (inv.lock j).mpr other, (inv.lock i).mpr inside]

theorem quiesce_exclusive_two : ∃ s, (smpMachine 2).run .start sampleQuiesceOps = some s ∧
    ∀ j, (s.cpu j).phase ≠ .outside → j = 0 := by
  have held : ((smpMachine 2).run .start sampleQuiesceOps).map (·.cpu 0) = some .clearQuiesce := by
    decide +kernel
  obtain ⟨s, run, at_⟩ := Option.map_eq_some_iff.mp held
  exact ⟨s, run, (quiesce_exclusive (.run (.init Smp.start_init) run) (by rw [at_]; rintro ⟨⟩)).2⟩

end Xmhf
