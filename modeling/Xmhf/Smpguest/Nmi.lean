import Xmhf.Bitfield
import Xmhf.Lib.Machine
import Xmhf.Lib.Owed

/-!
# NMIs for the guest

An NMI that is not for quiescing is handled by `xmhf_smpguest_arch_x86vmx_mhv_nmi_handle`,
which is not reentrant and must not interrupt an intercept handler. In the sections between
`mhv_nmi_disable` and `mhv_nmi_enable` the NMI handler only counts; `mhv_nmi_enable` then
makes up for the NMIs counted, in a loop that NMIs can interrupt (`smpg-x86vmx.c`).

The CPU executes one statement at a time. An NMI suspends whatever it executes, until the
NMI handler returns; meanwhile the processor holds back further NMIs, and remembers only
whether there was one. The handler cannot tell an NMI of a device from one for quiescing: it
takes the next NMI for quiescing while another CPU asks for it. So a device's NMI that is held
back together with the one for quiescing is lost.
-/

namespace Xmhf

/-- The place of the CPU in `mhv_nmi_disable` and `mhv_nmi_enable`: the statement it executes
next. `enabled` and `disabled` stand for the rest of the hypervisor and for the guest. -/
inductive MhvNmiStage where
  | enabled
  | disabling
  | disabled
  | enabling
  | testVisited
  | decVisited
  | clearEnable
  | startHandle
  | handling
  | setEnable
  | assertEnable
  deriving DecidableEq, Repr

/-- The place in `eventhandler_nmiexception`. -/
inductive NmiExceptionStage where
  | checkQuiesce
  | testEnable
  | incVisited
  | startHandle
  | handling
  | unblock
  deriving DecidableEq, Repr

inductive NmiKind where
  | device
  | quiesce
  deriving DecidableEq, Repr

/-- What an observer sees: an NMI arrives; the processor remembers one NMI for two, of which one is
for quiescing; the NMI handler takes one for the guest; and the routine begins and ends. -/
inductive NmiEvent where
  | arrive (kind : NmiKind)
  | merge
  | accept
  | start
  | finish
  deriving DecidableEq, Repr

/-- `vmx_mhv_nmi_enable` and `vmx_mhv_nmi_visited` of a CPU. -/
structure NmiCpu where
  stage : MhvNmiStage
  /-- The NMI handler, while it runs. -/
  exception : Option NmiExceptionStage
  /-- The processor holds an NMI back; it is `quiesce` if it stands for one of these. -/
  latched : Option NmiKind
  /-- `g_vmx_quiesce` is set and `quiesced` of the CPU is not. -/
  requested : Bool
  /-- The NMIs of `xmhf_smpguest_arch_x86vmx_quiesce` that have not arrived. -/
  sent : Nat
  enable : Bool
  visited : U32
  log : List NmiEvent
  deriving DecidableEq, Repr

inductive NmiOp where
  | disable
  | enable
  /-- The next statement. -/
  | advance
  /-- Another CPU calls `xmhf_smpguest_arch_x86vmx_quiesce`. -/
  | request
  | nmi (kind : NmiKind)
  deriving DecidableEq, Repr

namespace NmiCpu

def note (s : NmiCpu) (event : NmiEvent) : NmiCpu := { s with log := event :: s.log }

/-- `xmhf_smpguest_arch_x86vmx_mhv_nmi_disable`, up to its assertion. -/
def mhvNmiDisable (s : NmiCpu) : Option NmiCpu :=
  if s.enable then some { s with stage := .disabling } else none

/-- `xmhf_smpguest_arch_x86vmx_mhv_nmi_enable`, up to its first assertion. -/
def mhvNmiEnable (s : NmiCpu) : Option NmiCpu :=
  if s.enable then none else some { s with stage := .enabling }

def advanceMain (s : NmiCpu) : Option NmiCpu :=
  match s.stage with
  | .enabled | .disabled => none
  | .disabling => some { s with enable := false, stage := .disabled }
  | .enabling => some { s with enable := true, stage := .testVisited }
  | .testVisited =>
    some { s with stage := if s.visited = 0 then .assertEnable else .decVisited }
  | .decVisited => some { s with visited := s.visited - 1, stage := .clearEnable }
  | .clearEnable => some { s with enable := false, stage := .startHandle }
  | .startHandle => some { s.note .start with stage := .handling }
  | .handling => some { s.note .finish with stage := .setEnable }
  | .setEnable => some { s with enable := true, stage := .testVisited }
  | .assertEnable => if s.enable then some { s with stage := .enabled } else none

/-- The next statement of `xmhf_smpguest_arch_x86vmx_eventhandler_nmiexception`. On its
return an NMI that was held back is taken. -/
def advanceException (s : NmiCpu) : NmiExceptionStage → Option NmiCpu
  -- `nmi_check_quiesce` returns when the other CPU has ended its request
  | .checkQuiesce =>
    if s.requested then some { s with requested := false, exception := some .unblock }
    else some { s.note .accept with exception := some .testEnable }
  | .testEnable =>
    some { s with exception := some (if s.enable then .startHandle else .incVisited) }
  -- the counter must not overflow
  | .incVisited =>
    if s.visited + 1 = 0 then none
    else some { s with visited := s.visited + 1, exception := some .unblock }
  | .startHandle => some { s.note .start with exception := some .handling }
  | .handling => some { s.note .finish with exception := some .unblock }
  | .unblock =>
    some { s with exception := s.latched.map fun _ => .checkQuiesce, latched := none }

def nmi (s : NmiCpu) (kind : NmiKind) : NmiCpu :=
  let arrived := s.note (.arrive kind)
  match s.exception, s.latched, kind with
  | none, _, _ => { arrived with exception := some .checkQuiesce }
  | some _, none, _ | some _, some .device, .device => { arrived with latched := some kind }
  | some _, some _, _ => { arrived.note .merge with latched := some .quiesce }

def step (s : NmiCpu) : NmiOp → Option NmiCpu
  | .disable =>
    if s.exception = none ∧ (s.stage = .enabled ∨ s.stage = .disabled) then s.mhvNmiDisable
    else none
  | .enable =>
    if s.exception = none ∧ (s.stage = .enabled ∨ s.stage = .disabled) then s.mhvNmiEnable
    else none
  | .advance =>
    match s.exception with
    | none => s.advanceMain
    | some stage => s.advanceException stage
  | .request => if s.requested then none else some { s with requested := true, sent := s.sent + 1 }
  | .nmi .device => some (s.nmi .device)
  | .nmi .quiesce => if s.sent = 0 then none else some ({ s with sent := s.sent - 1 }.nmi .quiesce)

/-- A CPU as `vmx_initunrestrictedguestVMCS` leaves it. -/
def start : NmiCpu where
  stage := .enabled
  exception := none
  latched := none
  requested := false
  sent := 0
  enable := true
  visited := 0
  log := []

end NmiCpu

def nmiMachine : Machine NmiCpu NmiOp where
  init s := s = NmiCpu.start
  step := NmiCpu.step

/-- The places between the return of `mhv_nmi_disable` and the statement of `mhv_nmi_enable`
that ends the section. -/
def MhvNmiStage.inDisabledSection : MhvNmiStage → Bool
  | .disabled | .enabling => true
  | _ => false

/-! ## What the log says -/

/-- The log with `due` accepted NMIs for which the routine has not started, `runs` saying
whether the routine runs, and `coming` NMIs under way, held back or not yet looked at, one of
which will be taken for quiescing if that is `requested`. -/
structure NmiLog (log : List NmiEvent) (due : Nat) (runs : Bool) (coming : Nat) (requested : Bool) :
    Prop where
  count : log.count .start + due = log.count .accept
  owed : Owed.Owes (· == .accept) (· == .start) log → 0 < due
  running : Owed.Owes (· == .start) (· == .finish) log → runs = true
  answers : log.count .accept + coming ≤ log.count (.arrive .device) + requested.toNat
  waiting : Owed.Owes (· == .arrive .device) (fun e => e == .accept || e == .merge) log →
    requested.toNat < coming

namespace NmiLog

variable {log : List NmiEvent} {due coming : Nat} {runs requested : Bool}

theorem nil : NmiLog [] 0 false 0 false := ⟨rfl, nofun, nofun, Nat.le_refl 0, nofun⟩

theorem start (seen : NmiLog log (due + 1) runs coming requested) :
    NmiLog (.start :: log) due true coming requested := by
  obtain ⟨count, owed, running, answers, waiting⟩ := seen
  constructor <;> simp_all [Owed.Owes]
  omega

theorem finish (seen : NmiLog log due true coming requested) :
    NmiLog (.finish :: log) due false coming requested := by
  obtain ⟨count, owed, running, answers, waiting⟩ := seen
  constructor <;> simp_all [Owed.Owes]

theorem accept (seen : NmiLog log due runs (coming + 1) false) :
    NmiLog (.accept :: log) (due + 1) runs coming false := by
  obtain ⟨count, owed, running, answers, waiting⟩ := seen
  constructor <;> simp_all [Owed.Owes] <;> omega

/-- Another CPU asks for quiescing and sends the NMI. -/
theorem request (seen : NmiLog log due runs coming false) :
    NmiLog log due runs (coming + 1) true :=
  ⟨seen.count, seen.owed, seen.running, Nat.succ_le_succ seen.answers,
    fun owes => Nat.succ_lt_succ (seen.waiting owes)⟩

theorem taken (seen : NmiLog log due runs (coming + 1) true) : NmiLog log due runs coming false :=
  ⟨seen.count, seen.owed, seen.running, Nat.le_of_succ_le_succ seen.answers,
    fun owes => Nat.lt_of_succ_lt_succ (seen.waiting owes)⟩

theorem device (seen : NmiLog log due runs coming requested) {coming' : Nat}
    (more : coming' ≤ coming + 1) (another : requested.toNat < coming') :
    NmiLog (.arrive .device :: log) due runs coming' requested := by
  obtain ⟨count, owed, running, answers, waiting⟩ := seen
  constructor <;> simp_all [Owed.Owes]
  omega

theorem quiesce (seen : NmiLog log due runs coming requested) :
    NmiLog (.arrive .quiesce :: log) due runs coming requested := by
  obtain ⟨count, owed, running, answers, waiting⟩ := seen
  constructor <;> simp_all [Owed.Owes]

/-- From here on nothing is promised of the NMIs before. -/
theorem merge {kind : NmiKind} (seen : NmiLog log due runs coming requested) {coming' : Nat}
    (fewer : coming' ≤ coming) :
    NmiLog (.merge :: .arrive kind :: log) due runs coming' requested := by
  obtain ⟨count, owed, running, answers, waiting⟩ := seen
  constructor <;> simp_all [Owed.Owes, List.count_cons]
  omega

/-- Where nothing is owed, a complete run follows every NMI accepted. -/
theorem complete (seen : NmiLog log 0 false coming requested) {newer older : List NmiEvent}
    (split : log = newer ++ .accept :: older) :
    ∃ later between, newer = later ++ .start :: between ∧ .finish ∈ later := by
  obtain ⟨event, member, starts⟩ := Owed.served_of_not_owes
    (fun owes => Nat.lt_irrefl 0 (seen.owed owes)) split rfl
  obtain rfl : event = .start := eq_of_beq starts
  obtain ⟨later, between, rfl⟩ := List.append_of_mem member
  rw [List.append_assoc, List.cons_append] at split
  obtain ⟨event, member, finishes⟩ := Owed.served_of_not_owes
    (fun owes => Bool.false_ne_true (seen.running owes)) split rfl
  exact ⟨later, between, rfl, eq_of_beq finishes ▸ member⟩

end NmiLog

/-! ## The invariant -/

/-- The places with `vmx_mhv_nmi_enable` set. -/
def MhvNmiStage.enables : MhvNmiStage → Bool
  | .enabled | .disabling | .testVisited | .decVisited | .clearEnable | .assertEnable => true
  | _ => false

def MhvNmiStage.drained : MhvNmiStage → Bool
  | .enabled | .disabling | .assertEnable => true
  | _ => false

/-- The NMIs taken from the counter, and not yet handled. -/
def MhvNmiStage.due : MhvNmiStage → Nat
  | .clearEnable | .startHandle => 1
  | _ => 0

/-- The NMIs accepted by the NMI handler, and neither counted nor handled. -/
def NmiExceptionStage.due : NmiExceptionStage → Nat
  | .testEnable | .incVisited | .startHandle => 1
  | _ => 0

/-- The NMI handler is at a place to which this value of `vmx_mhv_nmi_enable` leads. -/
def NmiExceptionStage.agrees (enable : Bool) : NmiExceptionStage → Bool
  | .incVisited => !enable
  | .startHandle | .handling => enable
  | _ => true

def NmiExceptionStage.left : NmiExceptionStage → Nat
  | .checkQuiesce => 4
  | .testEnable => 3
  | .incVisited | .startHandle => 2
  | .handling => 1
  | .unblock => 0

def NmiExceptionStage.mayCount : NmiExceptionStage → Nat
  | .checkQuiesce | .testEnable | .incVisited => 1
  | _ => 0

theorem MhvNmiStage.enables_of_drained {stage : MhvNmiStage} (drained : stage.drained = true) :
    stage.enables = true := by
  cases stage <;> first | rfl | cases drained

variable {exception : NmiExceptionStage}

namespace NmiCpu

/-- The accepted NMIs for which the routine has not started. -/
def due (s : NmiCpu) : Nat :=
  s.visited.toNat + s.stage.due + (s.exception.map NmiExceptionStage.due).getD 0

def handles (s : NmiCpu) : Bool := s.exception == some .handling || s.stage == .handling

/-- The NMI handler is about to look at an NMI. -/
def looks (s : NmiCpu) : Nat := (s.exception == some .checkQuiesce).toNat

def coming (s : NmiCpu) : Nat := s.sent + s.latched.isSome.toNat + s.looks

structure Inv (s : NmiCpu) : Prop where
  enable : s.enable = s.stage.enables
  agrees : s.exception.all (NmiExceptionStage.agrees s.enable) = true
  drained : s.stage.drained = true → s.visited = 0
  counted : s.stage = .decVisited → s.visited ≠ 0
  latched : s.latched.isSome = true → s.exception ≠ none
  asked : s.requested = true → 0 < s.sent + (s.latched == some .quiesce).toNat + s.looks
  log : NmiLog s.log s.due s.handles s.coming s.requested

variable {s s' : NmiCpu}

theorem Inv.start : NmiCpu.start.Inv where
  enable := rfl
  agrees := rfl
  drained _ := rfl
  counted := nofun
  latched := nofun
  asked := nofun
  log := .nil

theorem Inv.advanceMain (inv : s.Inv) (idle : s.exception = none)
    (step : s.advanceMain = some s') : s'.Inv := by
  obtain ⟨stage, exception, latched, requested, sent, enable, visited, log⟩ := s
  obtain rfl : exception = none := idle
  have free := inv.latched
  have asked := inv.asked
  have seen := inv.log
  cases stage with
  | enabled | disabled => cases step
  | disabling | enabling | clearEnable | setEnable =>
    cases step
    exact ⟨rfl, rfl, nofun, nofun, free, asked, seen⟩
  | testVisited =>
    cases step
    by_cases none : visited = 0
    · rw [if_pos none]
      exact ⟨inv.enable, rfl, fun _ => none, nofun, free, asked, seen⟩
    · rw [if_neg none]
      exact ⟨inv.enable, rfl, nofun, fun _ => none, free, asked, seen⟩
  | decVisited =>
    cases step
    have counted : visited ≠ 0 := inv.counted rfl
    have taken : (visited - 1).toNat + 1 = visited.toNat := by bv_omega
    refine ⟨inv.enable, rfl, nofun, nofun, free, asked, ?_⟩
    change NmiLog log ((visited - 1).toNat + 1 + 0) false _ _
    rw [taken]
    exact seen
  | startHandle =>
    cases step
    exact ⟨inv.enable, rfl, nofun, nofun, free, asked, seen.start⟩
  | handling =>
    cases step
    exact ⟨inv.enable, rfl, nofun, nofun, free, asked, seen.finish⟩
  | assertEnable =>
    obtain ⟨-, rfl⟩ := guard_some.mp step
    exact ⟨inv.enable, rfl, inv.drained, nofun, free, asked, seen⟩

theorem Inv.advanceException (inv : s.Inv) (active : s.exception = some exception)
    (step : s.advanceException exception = some s') : s'.Inv := by
  obtain ⟨stage, active', latched, requested, sent, enable, visited, log⟩ := s
  obtain rfl : active' = some exception := active
  obtain ⟨enables, agrees, drained, counted, -, asked, seen⟩ := inv
  cases exception with
  | checkQuiesce =>
    cases requested with
    | true =>
      cases step
      exact ⟨enables, rfl, drained, counted, nofun, nofun, seen.taken⟩
    | false =>
      cases step
      exact ⟨enables, rfl, drained, counted, nofun, nofun, seen.accept⟩
  | testEnable =>
    cases step
    cases enable with
    | true | false => exact ⟨enables, rfl, drained, counted, nofun, asked, seen⟩
  | incVisited =>
    obtain ⟨fits, same⟩ := Option.ite_none_left_eq_some.mp step
    cases same
    have disabled : stage.enables = false := by
      rw [← show enable = stage.enables from enables]
      exact Bool.not_eq_true' _ ▸ agrees
    have more : (visited + 1).toNat = visited.toNat + 1 := by bv_omega
    refine ⟨enables, rfl, ?_, ?_, nofun, asked, ?_⟩
    · intro drained
      rw [MhvNmiStage.enables_of_drained drained] at disabled
      cases disabled
    · intro counted
      rw [show stage = .decVisited from counted] at disabled
      cases disabled
    · change NmiLog log ((visited + 1).toNat + stage.due) _ _ _
      rw [more, Nat.add_right_comm]
      exact seen
  | startHandle =>
    cases step
    exact ⟨enables, agrees, drained, counted, nofun, asked, seen.start⟩
  | handling =>
    cases step
    have main : (stage == .handling) = false := by
      rw [show enable = stage.enables from enables] at agrees
      cases stage <;> first | rfl | cases agrees
    refine ⟨enables, rfl, drained, counted, nofun, asked, ?_⟩
    change NmiLog _ _ (stage == .handling) _ _
    rw [main]
    exact seen.finish
  | unblock =>
    cases step
    cases latched with
    | none => exact ⟨enables, rfl, drained, counted, nofun, asked, seen⟩
    | some kind => exact ⟨enables, rfl, drained, counted, nofun, fun _ => Nat.succ_pos _, seen⟩

theorem Inv.unlatched (inv : s.Inv) (idle : s.exception = none) : s.latched = none := by
  cases held : s.latched with
  | none => rfl
  | some kind => exact absurd idle (inv.latched (by rw [held]; rfl))

theorem Inv.device (inv : s.Inv) : (s.nmi .device).Inv := by
  obtain ⟨stage, exception, latched, requested, sent, enable, visited, log⟩ := s
  have unlatched := inv.unlatched
  obtain ⟨enables, agrees, drained, counted, -, asked, seen⟩ := inv
  have least : requested.toNat ≤ sent + (latched == some .quiesce).toNat +
      (exception == some .checkQuiesce).toNat := by
    cases requested with
    | false => exact Nat.zero_le _
    | true => exact asked rfl
  have another {looks : Nat} (least : requested.toNat ≤ sent + 0 + looks) :
      requested.toNat < sent + 1 + looks := by
    omega
  cases exception with
  | none =>
    obtain rfl : latched = none := unlatched rfl
    exact ⟨enables, rfl, drained, counted, nofun, fun _ => Nat.succ_pos _,
      seen.device (Nat.le_refl _) (Nat.lt_succ_of_le least)⟩
  | some exception =>
    match latched with
    | none =>
      refine ⟨enables, agrees, drained, counted, nofun, asked, seen.device ?_ (another least)⟩
      exact Nat.le_of_eq (Nat.succ_add ..)
    | some .device =>
      exact ⟨enables, agrees, drained, counted, nofun, asked,
        seen.device (Nat.le_succ _) (another least)⟩
    | some .quiesce =>
      exact ⟨enables, agrees, drained, counted, nofun, asked, seen.merge (Nat.le_refl _)⟩

theorem Inv.quiesce {sent : Nat} (inv : s.Inv) (under : s.sent = sent + 1) :
    ({ s with sent }.nmi .quiesce).Inv := by
  obtain ⟨stage, exception, latched, requested, before, enable, visited, log⟩ := s
  obtain rfl : before = sent + 1 := under
  have unlatched := inv.unlatched
  obtain ⟨enables, agrees, drained, counted, -, -, seen⟩ := inv
  cases exception with
  | none =>
    obtain rfl : latched = none := unlatched rfl
    exact ⟨enables, rfl, drained, counted, nofun, fun _ => Nat.succ_pos _, seen.quiesce⟩
  | some exception =>
    match latched with
    | none =>
      refine ⟨enables, agrees, drained, counted, nofun, fun _ => ?_, seen.quiesce⟩
      exact Nat.lt_add_right _ (Nat.succ_pos _)
    | some .device | some .quiesce =>
      refine ⟨enables, agrees, drained, counted, nofun, fun _ => ?_, seen.merge ?_⟩
      · exact Nat.lt_add_right _ (Nat.succ_pos _)
      · exact Nat.add_le_add_right (Nat.le_succ (sent + 1)) _

theorem Inv.request (inv : s.Inv) (free : s.requested = false) :
    Inv { s with requested := true, sent := s.sent + 1 } := by
  obtain ⟨stage, exception, latched, requested, sent, enable, visited, log⟩ := s
  obtain rfl : requested = false := free
  obtain ⟨enables, agrees, drained, counted, held, -, seen⟩ := inv
  refine ⟨enables, agrees, drained, counted, held, fun _ => ?_, ?_⟩
  · exact Nat.lt_add_right _ (Nat.lt_add_right _ (Nat.succ_pos sent))
  · have more (a b : Nat) : sent + 1 + a + b = sent + a + b + 1 := by omega
    change NmiLog log _ _ (sent + 1 + _ + _) true
    rw [more]
    exact seen.request

section

variable (inv : s.Inv) (idle : s.exception = none)
  (place : s.stage = .enabled ∨ s.stage = .disabled)

include inv idle place

theorem Inv.mhvNmiDisable (step : s.mhvNmiDisable = some s') : s'.Inv := by
  obtain ⟨stage, exception, latched, requested, sent, enable, visited, log⟩ := s
  obtain rfl : exception = none := idle
  obtain ⟨enabled, rfl⟩ := guard_some.mp step
  obtain ⟨enables, -, drained, -, held, asked, seen⟩ := inv
  rcases place with rfl | rfl
  · exact ⟨enables, rfl, drained, nofun, held, asked, seen⟩
  · exact absurd (enables.symm.trans enabled) nofun

theorem Inv.mhvNmiEnable (step : s.mhvNmiEnable = some s') : s'.Inv := by
  obtain ⟨stage, exception, latched, requested, sent, enable, visited, log⟩ := s
  obtain rfl : exception = none := idle
  obtain ⟨disabled, same⟩ := Option.ite_none_left_eq_some.mp step
  cases same
  obtain ⟨enables, -, -, -, held, asked, seen⟩ := inv
  rcases place with rfl | rfl
  · exact absurd enables disabled
  · exact ⟨enables, rfl, nofun, nofun, held, asked, seen⟩

end

theorem Inv.step (inv : s.Inv) {op : NmiOp} (step : s.step op = some s') : s'.Inv := by
  cases op with
  | disable =>
    obtain ⟨⟨idle, place⟩, called⟩ := Option.ite_none_right_eq_some.mp step
    exact inv.mhvNmiDisable idle place called
  | enable =>
    obtain ⟨⟨idle, place⟩, called⟩ := Option.ite_none_right_eq_some.mp step
    exact inv.mhvNmiEnable idle place called
  | advance =>
    unfold NmiCpu.step at step
    generalize active : s.exception = result at step
    cases result with
    | none =>
      exact inv.advanceMain active step
    | some exception =>
      exact inv.advanceException active step
  | request =>
    obtain ⟨free, same⟩ := Option.ite_none_left_eq_some.mp step
    cases same
    exact inv.request (Bool.eq_false_of_not_eq_true free)
  | nmi kind =>
    cases kind with
    | device =>
      cases step
      exact inv.device
    | quiesce =>
      obtain ⟨under, same⟩ := Option.ite_none_left_eq_some.mp step
      cases same
      exact inv.quiesce (Nat.succ_pred under).symm

theorem Inv.reachable (reached : nmiMachine.Reachable s) : s.Inv :=
  reached.invariant (fun _ start => start ▸ Inv.start) fun _ _ _ inv _ step => inv.step step

/-! ## Every NMI is handled -/

theorem Inv.exclusive (inv : s.Inv) (runs : s.exception = some .handling) :
    s.stage.inDisabledSection = false ∧ s.stage ≠ .handling := by
  have enabled : s.stage.enables = true := by
    have agrees := inv.agrees
    rw [runs, inv.enable] at agrees
    exact agrees
  cases stage : s.stage <;> rw [stage] at enabled <;> first | exact ⟨rfl, by decide⟩ | cases enabled

theorem Inv.starts_le (inv : s.Inv) : s.log.count .start ≤ s.log.count (.arrive .device) := by
  obtain ⟨count, -, -, answers, -⟩ := inv.log
  have least : s.requested.toNat ≤ s.coming := by
    cases requested : s.requested with
    | false => exact Nat.zero_le _
    | true =>
      refine (Nat.succ_le_of_lt (inv.asked requested)).trans
        (Nat.add_le_add_right (Nat.add_le_add_left ?_ _) _)
      cases s.latched with
      | none => exact Nat.le_refl _
      | some kind => exact Bool.toNat_le _
  omega

/-- Neither the NMI handler nor `mhv_nmi_enable` runs, and the CPU is outside the sections in
which handling is disabled. -/
def AtRest (s : NmiCpu) : Prop :=
  s.exception = none ∧ (s.stage = .enabled ∨ s.stage = .disabling)

theorem Inv.atRest (inv : s.Inv) (rest : s.AtRest) :
    NmiLog s.log 0 false s.sent s.requested := by
  obtain ⟨stage, exception, latched, requested, sent, enable, visited, log⟩ := s
  obtain ⟨idle, place⟩ := rest
  obtain rfl : exception = none := idle
  obtain rfl : latched = none := inv.unlatched rfl
  obtain ⟨-, -, drained, -, -, -, seen⟩ := inv
  rcases place with rfl | rfl
  iterate 2
    · obtain rfl : visited = 0 := drained rfl
      exact seen

/-- The code in progress comes to its end when no more NMIs arrive. -/
def Ends (s : NmiCpu) : Prop :=
  ∃ n s', nmiMachine.run s (List.replicate n .advance) = some s' ∧
    s'.exception = none ∧ (s'.stage = .enabled ∨ s'.stage = .disabled)

theorem Ends.of_advance (step : s.step .advance = some s') (ends : s'.Ends) : s.Ends := by
  obtain ⟨n, last, run, place⟩ := ends
  refine ⟨n + 1, last, ?_, place⟩
  rw [List.replicate_succ, Machine.run, List.foldlM_cons]
  exact Option.bind_eq_some_iff.mpr ⟨s', step, run⟩

theorem ends_testVisited {n : Nat} {visited : U32} (counted : visited.toNat = n)
    (latched : Option NmiKind) (requested : Bool) (sent : Nat) (log : List NmiEvent) :
    Ends ⟨.testVisited, none, latched, requested, sent, true, visited, log⟩ := by
  induction n generalizing visited log with
  | zero =>
    obtain rfl : visited = 0 := BitVec.eq_of_toNat_eq counted
    exact .of_advance rfl (.of_advance rfl ⟨0, _, rfl, rfl, .inl rfl⟩)
  | succ n ih =>
    have nonzero : visited ≠ 0 := by
      rintro rfl
      cases counted
    have less : (visited - 1).toNat = n := by bv_omega
    have test : advanceMain ⟨.testVisited, none, latched, requested, sent, true, visited, log⟩ =
        some ⟨.decVisited, none, latched, requested, sent, true, visited, log⟩ := by
      rw [advanceMain, if_neg nonzero]
    refine .of_advance test (.of_advance rfl (.of_advance rfl (.of_advance rfl ?_)))
    exact .of_advance rfl (.of_advance rfl (ih less _))

theorem Inv.ends_main (inv : s.Inv) (idle : s.exception = none) : s.Ends := by
  obtain ⟨stage, exception, latched, requested, sent, enable, visited, log⟩ := s
  obtain rfl : exception = none := idle
  obtain rfl : enable = stage.enables := inv.enable
  have loop : ∀ visited log,
      Ends ⟨.testVisited, none, latched, requested, sent, true, visited, log⟩ :=
    fun visited log => ends_testVisited rfl latched requested sent log
  cases stage with
  | enabled => exact ⟨0, _, rfl, rfl, .inl rfl⟩
  | disabled => exact ⟨0, _, rfl, rfl, .inr rfl⟩
  | disabling => exact .of_advance rfl ⟨0, _, rfl, rfl, .inr rfl⟩
  | assertEnable => exact .of_advance rfl ⟨0, _, rfl, rfl, .inl rfl⟩
  | testVisited => exact loop _ _
  | enabling | setEnable => exact .of_advance rfl (loop _ _)
  | handling => exact .of_advance rfl (.of_advance rfl (loop _ _))
  | startHandle => exact .of_advance rfl (.of_advance rfl (.of_advance rfl (loop _ _)))
  | clearEnable =>
    refine .of_advance rfl (.of_advance rfl ?_)
    exact .of_advance rfl (.of_advance rfl (loop _ _))
  | decVisited =>
    refine .of_advance rfl (.of_advance rfl (.of_advance rfl ?_))
    exact .of_advance rfl (.of_advance rfl (loop _ _))

/-- The statements that are left to the NMI handler, counting the NMI held back. -/
def left (s : NmiCpu) : Nat :=
  5 * s.latched.isSome.toNat + (s.exception.map NmiExceptionStage.left).getD 0

/-- The counter has room for the NMIs that are not yet counted. -/
def Room (s : NmiCpu) : Prop :=
  s.visited.toNat + s.latched.isSome.toNat +
    (s.exception.map NmiExceptionStage.mayCount).getD 0 < 2 ^ 32

theorem progress_exception (active : s.exception = some exception) (room : s.Room) :
    ∃ s', s.step .advance = some s' ∧
      (s'.exception = none ∨ s'.left < s.left ∧ s'.Room) := by
  obtain ⟨stage, active', latched, requested, sent, enable, visited, log⟩ := s
  obtain rfl : active' = some exception := active
  cases exception with
  | checkQuiesce =>
    cases requested with
    | true =>
      exact ⟨_, rfl, .inr ⟨Nat.lt_add_of_pos_right (Nat.succ_pos 3), Nat.lt_of_succ_lt room⟩⟩
    | false => exact ⟨_, rfl, .inr ⟨Nat.lt_succ_self _, room⟩⟩
  | startHandle | handling => exact ⟨_, rfl, .inr ⟨Nat.lt_succ_self _, room⟩⟩
  | testEnable =>
    refine ⟨_, rfl, .inr ?_⟩
    cases enable with
    | true => exact ⟨Nat.lt_succ_self _, Nat.lt_of_succ_lt room⟩
    | false => exact ⟨Nat.lt_succ_self _, room⟩
  | incVisited =>
    change visited.toNat + latched.isSome.toNat + 1 < 2 ^ 32 at room
    have more : (visited + 1).toNat = visited.toNat + 1 := by bv_omega
    have fits : visited + 1 ≠ 0 := by bv_omega
    refine ⟨_, if_neg fits, .inr ⟨Nat.lt_of_succ_lt (Nat.lt_succ_self _), ?_⟩⟩
    change (visited + 1).toNat + latched.isSome.toNat < 2 ^ 32
    omega
  | unblock =>
    refine ⟨_, rfl, ?_⟩
    cases latched with
    | none => exact .inl rfl
    | some kind => exact .inr ⟨Nat.lt_succ_self _, room⟩

theorem Inv.ends (inv : s.Inv) (room : s.Room) : s.Ends := by
  induction left : s.left using Nat.strong_induction_on generalizing s with
  | h n ih =>
    cases active : s.exception with
    | none => exact inv.ends_main active
    | some exception =>
      obtain ⟨s', step, returned | ⟨less, room'⟩⟩ := progress_exception active room
      · exact .of_advance step ((inv.step step).ends_main returned)
      · exact .of_advance step (ih s'.left (left ▸ less) (inv.step step) room' rfl)

end NmiCpu

/-- With NMIs arriving between any two statements of a CPU: the NMI handler never runs the
routine in a section in which it is disabled or while it runs already. Whenever the CPU is at
rest and no NMI for quiescing is under way, the routine has run from start to finish after every
NMI of a device, unless at or after its arrival one NMI was remembered for two. The routine
never starts more often than NMIs of devices arrived. The code in progress comes to its end when
no more NMIs arrive and the counter has room. -/
theorem guest_nmis_handled {s : NmiCpu} (reached : nmiMachine.Reachable s) :
    (s.exception = some .handling → s.stage.inDisabledSection = false ∧ s.stage ≠ .handling) ∧
    (s.AtRest → s.sent = 0 → ∀ newer older, s.log = newer ++ .arrive .device :: older →
      (∃ later between, newer = later ++ .start :: between ∧ .finish ∈ later) ∨ .merge ∈ newer) ∧
    s.log.count .start ≤ s.log.count (.arrive .device) ∧
    (s.Room → s.Ends) := by
  have inv := NmiCpu.Inv.reachable reached
  refine ⟨inv.exclusive, ?_, inv.starts_le, inv.ends⟩
  intro rest none newer older split
  have seen := inv.atRest rest
  rw [none] at seen
  obtain ⟨event, member, answers⟩ := Owed.served_of_not_owes
    (fun owes => Nat.not_lt_zero _ (seen.waiting owes)) split rfl
  rcases Bool.or_eq_true_iff.mp answers with accept | merge
  · obtain rfl : event = .accept := eq_of_beq accept
    obtain ⟨newest, rest, rfl⟩ := List.append_of_mem member
    rw [List.append_assoc, List.cons_append] at split
    obtain ⟨later, between, rfl, finished⟩ := seen.complete split
    exact .inl ⟨later, between ++ .accept :: rest, by simp, finished⟩
  · exact .inr (eq_of_beq merge ▸ member)

open NmiOp in
/-- An NMI in a section in which handling is disabled, and another while its handler runs. -/
def sampleNmiOps : List NmiOp :=
  [disable, advance, nmi .device, advance, nmi .device] ++ List.replicate 7 advance ++
    [enable] ++ List.replicate 15 advance

theorem guest_nmis_handled_sample :
    ∃ s, nmiMachine.run NmiCpu.start sampleNmiOps = some s ∧ s.AtRest ∧
      s.log.count .start ≤ s.log.count (.arrive .device) ∧
      ∃ later between, s.log.take 7 = later ++ .start :: between ∧ .finish ∈ later := by
  have start : nmiMachine.Reachable NmiCpu.start := .init rfl
  have result : nmiMachine.run NmiCpu.start sampleNmiOps = some
      ⟨.enabled, none, none, false, 0, true, 0,
        [.finish, .start, .finish, .start, .accept, .arrive .device, .accept, .arrive .device]⟩ := by
    decide
  obtain ⟨-, handled, starts, -⟩ := guest_nmis_handled (start.run result)
  exact ⟨_, result, ⟨rfl, .inl rfl⟩, starts,
    (handled ⟨rfl, .inl rfl⟩ rfl _ [] rfl).resolve_right (by decide)⟩

open NmiOp in
/-- While the routine runs for an NMI, the NMI for quiescing and another one of a device arrive. The
processor remembers one NMI, which is taken for quiescing, and the routine does not run again. -/
theorem merged_nmi_is_lost :
    ∃ s newer older, nmiMachine.run NmiCpu.start ([nmi .device, advance, advance, advance, request,
      nmi .quiesce, nmi .device] ++ List.replicate 4 advance) = some s ∧ s.AtRest ∧ s.sent = 0 ∧
      s.log = newer ++ .arrive .device :: older ∧ .start ∉ newer :=
  ⟨_, [.finish, .merge], [.arrive .quiesce, .start, .accept, .arrive .device], rfl, ⟨rfl, .inl rfl⟩,
    rfl, rfl, by decide⟩

end Xmhf
