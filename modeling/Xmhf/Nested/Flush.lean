import Xmhf.Bitfield
import Xmhf.Lib.Machine
import Xmhf.Lib.Owed

/-!
# Blocking and unblocking EPT02 flushes

`xmhf_nested_arch_x86vmx_flush_ept02` is called from NMI handlers, so its effect has to be
delayed while the CPU works on data the effect changes. The code that blocks and unblocks
the effect is modelled statement by statement; an NMI handler runs between any two of them.
The log is what an observer of the CPU sees: each request, and each effect with the place
at which it starts.
-/

namespace Xmhf

/-- The place of a CPU in the code on flushes: the statement it executes next. `outside` and
`blocked` stand for the rest of the hypervisor, without and with the effect blocked. -/
inductive FlushStage where
  | outside
  | blocking
  | blocked
  | unblocking
  | testVisited
  | readVisited
  | clearVisited (flags : U32)
  | setDisable (flags : U32)
  | startEffect (flags : U32)
  | endEffect
  | clearDisable
  -- the CPU's own request, outside a blocked section
  | flushing
  deriving DecidableEq, Repr

inductive FlushEvent where
  | request (flags : U32)
  | effect (stage : FlushStage) (flags : U32)
  deriving DecidableEq, Repr

/-- `vmx_nested_ept02_flush_disable` and `vmx_nested_ept02_flush_visited` of a CPU. -/
structure FlushCpu where
  stage : FlushStage
  disable : Bool
  visited : U32
  log : List FlushEvent
  deriving DecidableEq, Repr

inductive FlushOp where
  | block
  | unblock
  | advance
  | flush (flags : U32)
  | nmi (flags : U32)
  deriving DecidableEq, Repr

namespace FlushCpu

/-- `xmhf_nested_arch_x86vmx_flush_ept02_effect` starts. -/
def flushEpt02Effect (s : FlushCpu) (flags : U32) : FlushCpu :=
  { s with log := .effect s.stage flags :: s.log }

/-- `xmhf_nested_arch_x86vmx_flush_ept02`, called by an NMI handler: no other NMI arrives
before it returns. -/
def flushEpt02 (s : FlushCpu) (flags : U32) : FlushCpu :=
  let s := { s with log := .request flags :: s.log }
  if s.disable then { s with visited := s.visited ||| flags } else s.flushEpt02Effect flags

/-- `xmhf_nested_arch_x86vmx_flush_ept02`, called by the CPU itself. Outside a blocked
section the effect takes time, in which an NMI can arrive. -/
def flushEpt02Own (s : FlushCpu) (flags : U32) : FlushCpu :=
  if s.disable then s.flushEpt02 flags else { s.flushEpt02 flags with stage := .flushing }

/-- The next statement of the code that blocks or unblocks. -/
def advance (s : FlushCpu) : Option FlushCpu :=
  match s.stage with
  | .outside | .blocked => none
  | .blocking => some { s with disable := true, stage := .blocked }
  | .unblocking => some { s with disable := false, stage := .testVisited }
  | .testVisited => some { s with stage := if s.visited = 0 then .outside else .readVisited }
  | .readVisited => some { s with stage := .clearVisited s.visited }
  | .clearVisited flags => some { s with visited := 0, stage := .setDisable flags }
  | .setDisable flags => some { s with disable := true, stage := .startEffect flags }
  | .startEffect flags => some { s.flushEpt02Effect flags with stage := .endEffect }
  | .endEffect => some { s with stage := .clearDisable }
  | .clearDisable => some { s with disable := false, stage := .testVisited }
  | .flushing => some { s with stage := .outside }

def call (s : FlushCpu) (enter : FlushCpu → Option FlushCpu) : Option FlushCpu :=
  match s.stage with
  | .outside | .blocked => enter s
  | _ => none

/-- `xmhf_nested_arch_x86vmx_block_ept02_flush`, up to its assertion. -/
def blockEpt02Flush (s : FlushCpu) : Option FlushCpu :=
  if s.disable then none else some { s with stage := .blocking }

/-- `xmhf_nested_arch_x86vmx_unblock_ept02_flush`, up to its assertion. -/
def unblockEpt02Flush (s : FlushCpu) : Option FlushCpu :=
  if s.disable then some { s with stage := .unblocking } else none

def step (s : FlushCpu) : FlushOp → Option FlushCpu
  | .block => s.call blockEpt02Flush
  | .unblock => s.call unblockEpt02Flush
  | .advance => s.advance
  | .flush flags => s.call fun s => some (s.flushEpt02Own flags)
  | .nmi flags => some (s.flushEpt02 flags)

/-- A CPU as `xmhf_nested_arch_x86vmx_vcpu_init` leaves it. -/
def start : FlushCpu := { stage := .outside, disable := false, visited := 0, log := [] }

end FlushCpu

def flushMachine : Machine FlushCpu FlushOp where
  init s := s = FlushCpu.start
  step := FlushCpu.step

/-- The places between the return of `block_ept02_flush` and the statement of
`unblock_ept02_flush` that ends the blocked section. -/
def FlushStage.inBlockedSection : FlushStage → Bool
  | .blocked | .unblocking => true
  | _ => false

/-- The places outside `unblock_ept02_flush` and blocked sections. -/
def FlushStage.atRest : FlushStage → Bool
  | .outside | .blocking | .flushing => true
  | _ => false

/-- The places of `unblock_ept02_flush`. -/
def FlushStage.unblocks : FlushStage → Bool
  | .outside | .blocking | .blocked | .flushing => false
  | _ => true

/-- The places with `vmx_nested_ept02_flush_disable` set. -/
def FlushStage.disabled : FlushStage → Bool
  | .blocked | .unblocking | .startEffect _ | .endEffect | .clearDisable => true
  | _ => false

/-- The flags taken from `vmx_nested_ept02_flush_visited` and not yet applied. -/
def FlushStage.taken : FlushStage → U32
  | .clearVisited flags | .setDisable flags | .startEffect flags => flags
  | _ => 0

def FlushEvent.requests (bit : Nat) : FlushEvent → Bool
  | .request flags => flags.getLsbD bit
  | .effect _ _ => false

def FlushEvent.applies (bit : Nat) : FlushEvent → Bool
  | .request _ => false
  | .effect _ flags => flags.getLsbD bit

def FlushEvent.unblocked : FlushEvent → Prop
  | .request _ => True
  | .effect stage _ => stage.inBlockedSection = false

variable {stage : FlushStage} {bit : Nat}

theorem FlushStage.inBlockedSection_of_enabled (enabled : stage.disabled = false) :
    stage.inBlockedSection = false := by
  cases stage <;> first | rfl | cases enabled

theorem FlushStage.disabled_of_atRest (rest : stage.atRest = true) : stage.disabled = false := by
  cases stage <;> first | rfl | cases rest

namespace FlushCpu

def Owes (s : FlushCpu) (bit : Nat) : Prop :=
  Owed.Owes (FlushEvent.requests bit) (FlushEvent.applies bit) s.log

structure Inv (s : FlushCpu) : Prop where
  disable : s.disable = s.stage.disabled
  rest : s.stage.atRest = true → s.visited = 0
  taken : ∀ flags, s.stage = .clearVisited flags → s.visited = flags
  owed : ∀ bit, s.Owes bit → (s.visited ||| s.stage.taken).getLsbD bit = true
  effects : ∀ event ∈ s.log, event.unblocked

variable {s s' : FlushCpu} {flags : U32}

theorem Owes.flushEpt02Effect (owes : (s.flushEpt02Effect flags).Owes bit) :
    s.Owes bit ∧ flags.getLsbD bit = false := by
  rcases owes with requested | ⟨unapplied, older⟩
  · cases requested
  · exact ⟨older, unapplied⟩

@[simp]
theorem stage_flushEpt02 : (s.flushEpt02 flags).stage = s.stage := by
  unfold flushEpt02
  dsimp only
  split <;> rfl

theorem Inv.start : FlushCpu.start.Inv where
  disable := rfl
  rest := fun _ => rfl
  taken := by
    intro flags impossible
    cases impossible
  owed := nofun
  effects := List.forall_mem_nil _

theorem Inv.flushEpt02 (inv : s.Inv) (flags : U32) : (s.flushEpt02 flags).Inv := by
  have requested : ∀ event ∈ FlushEvent.request flags :: s.log, event.unblocked :=
    List.forall_mem_cons.mpr ⟨trivial, inv.effects⟩
  unfold FlushCpu.flushEpt02
  by_cases disabled : s.disable = true
  · have active : s.stage.disabled = true := inv.disable ▸ disabled
    rw [if_pos disabled]
    refine ⟨inv.disable, ?_, ?_, ?_, requested⟩
    · intro rest
      rw [FlushStage.disabled_of_atRest rest] at active
      cases active
    · intro taken same
      rw [show s.stage = .clearVisited taken from same] at active
      cases active
    · rintro bit (now | ⟨-, older⟩)
      · rw [BitVec.getLsbD_or, BitVec.getLsbD_or, show flags.getLsbD bit = true from now]
        simp
      · have before := inv.owed bit older
        rw [BitVec.getLsbD_or] at before ⊢
        rw [BitVec.getLsbD_or, Bool.or_right_comm, before, Bool.true_or]
  · have enabled : s.stage.disabled = false := inv.disable ▸ Bool.eq_false_of_not_eq_true disabled
    rw [if_neg disabled]
    refine ⟨inv.disable, inv.rest, inv.taken, ?_, List.forall_mem_cons.mpr
      ⟨FlushStage.inBlockedSection_of_enabled enabled, requested⟩⟩
    intro bit owes
    obtain ⟨now | ⟨-, older⟩, unapplied⟩ := owes.flushEpt02Effect
    · exact absurd (unapplied.symm.trans now) Bool.false_ne_true
    · exact inv.owed bit older

theorem Inv.goto (inv : s.Inv) {disable : Bool} {visited : U32} (flag : disable = stage.disabled)
    (rest : stage.atRest = true → visited = 0)
    (taken : ∀ flags, stage = .clearVisited flags → visited = flags)
    (kept : ∀ bit, (s.visited ||| s.stage.taken).getLsbD bit = true →
      (visited ||| stage.taken).getLsbD bit = true) :
    ({ s with stage, disable, visited } : FlushCpu).Inv :=
  ⟨flag, rest, taken, fun bit owes => kept bit (inv.owed bit owes), inv.effects⟩

theorem Inv.advance (inv : s.Inv) (step : s.advance = some s') : s'.Inv := by
  obtain ⟨stage, disable, visited, log⟩ := s
  cases stage with
  | outside | blocked => cases step
  | blocking | unblocking | setDisable flags | clearDisable =>
    cases step
    exact inv.goto rfl nofun nofun (by simp [FlushStage.taken])
  | testVisited =>
    cases step
    by_cases none : visited = 0
    · rw [if_pos none]
      exact inv.goto inv.disable (fun _ => none) nofun (by simp [FlushStage.taken])
    · rw [if_neg none]
      exact inv.goto inv.disable nofun nofun (by simp [FlushStage.taken])
  | readVisited =>
    cases step
    refine inv.goto inv.disable nofun ?_ (by simp [FlushStage.taken])
    rintro flags same
    cases same
    rfl
  | clearVisited flags =>
    cases step
    have all : visited = flags := inv.taken flags rfl
    exact inv.goto inv.disable nofun nofun (by simp [FlushStage.taken, all])
  | startEffect flags =>
    cases step
    refine ⟨inv.disable, nofun, nofun, ?_, List.forall_mem_cons.mpr ⟨rfl, inv.effects⟩⟩
    intro bit owes
    obtain ⟨older, unapplied⟩ := owes.flushEpt02Effect
    have before := inv.owed bit older
    rw [BitVec.getLsbD_or, FlushStage.taken, unapplied, Bool.or_false] at before
    rw [BitVec.getLsbD_or]
    exact Bool.or_eq_true_iff.mpr (.inl before)
  | endEffect =>
    cases step
    exact inv.goto inv.disable nofun nofun (by simp [FlushStage.taken])
  | flushing =>
    cases step
    exact inv.goto inv.disable inv.rest nofun (by simp [FlushStage.taken])

theorem call_some {enter : FlushCpu → Option FlushCpu} (step : s.call enter = some s') :
    (s.stage = .outside ∨ s.stage = .blocked) ∧ enter s = some s' := by
  unfold call at step
  cases stage : s.stage <;> rw [stage] at step <;> first | cases step | exact ⟨by simp, step⟩

section

variable (inv : s.Inv) (place : s.stage = .outside ∨ s.stage = .blocked)

include inv place

theorem Inv.outside (enabled : ¬ s.disable = true) : s.stage = .outside := by
  refine place.resolve_right fun blocked => enabled ?_
  rw [inv.disable, blocked]
  rfl

theorem Inv.blocked (disabled : s.disable = true) : s.stage = .blocked := by
  refine place.resolve_left fun outside => ?_
  rw [inv.disable, outside] at disabled
  cases disabled

omit inv place in
theorem Inv.rests (inv : s.Inv) (outside : s.stage = .outside) (rest : stage.atRest = true) :
    ({ s with stage := stage } : FlushCpu).Inv := by
  have none : s.visited = 0 := inv.rest (by rw [outside]; rfl)
  have enabled : s.disable = false := by
    rw [inv.disable, outside]
    rfl
  refine inv.goto (enabled.trans (FlushStage.disabled_of_atRest rest).symm) (fun _ => none) ?_ ?_
  · rintro flags same
    rw [same] at rest
    cases rest
  · rw [none, outside]
    simp [FlushStage.taken]

theorem Inv.blockEpt02Flush (step : s.blockEpt02Flush = some s') : s'.Inv := by
  unfold FlushCpu.blockEpt02Flush at step
  split at step
  · cases step
  · next enabled =>
    cases step
    exact inv.rests (inv.outside place enabled) rfl

theorem Inv.unblockEpt02Flush (step : s.unblockEpt02Flush = some s') : s'.Inv := by
  unfold FlushCpu.unblockEpt02Flush at step
  split at step
  · next disabled =>
    cases step
    have blocked := inv.blocked place disabled
    refine inv.goto disabled nofun nofun ?_
    rw [blocked]
    exact fun _ pending => pending
  · cases step

theorem Inv.flushEpt02Own (flags : U32) : (s.flushEpt02Own flags).Inv := by
  have noted := inv.flushEpt02 flags
  unfold FlushCpu.flushEpt02Own
  split
  · exact noted
  · next enabled =>
    have outside := inv.outside place enabled
    exact noted.rests (by rw [stage_flushEpt02, outside]) rfl

end

theorem Inv.step (inv : s.Inv) {op : FlushOp} (step : s.step op = some s') : s'.Inv := by
  cases op with
  | block =>
    obtain ⟨place, entered⟩ := call_some step
    exact inv.blockEpt02Flush place entered
  | unblock =>
    obtain ⟨place, entered⟩ := call_some step
    exact inv.unblockEpt02Flush place entered
  | advance => exact inv.advance step
  | flush flags =>
    change s.call (fun s => some (s.flushEpt02Own flags)) = some s' at step
    obtain ⟨place, entered⟩ := call_some step
    cases entered
    exact inv.flushEpt02Own place flags
  | nmi flags =>
    cases step
    exact inv.flushEpt02 flags

theorem Inv.reachable (reached : flushMachine.Reachable s) : s.Inv :=
  reached.invariant (fun _ start => start ▸ Inv.start) fun _ _ _ inv _ step => inv.step step

theorem Inv.not_owes (inv : s.Inv) (rest : s.stage.atRest = true) (bit : Nat) : ¬ s.Owes bit := by
  intro owes
  have none : s.stage.taken = 0 := by
    cases stage : s.stage <;> rw [stage] at rest <;> first | rfl | cases rest
  have pending := inv.owed bit owes
  rw [inv.rest rest, none] at pending
  simp at pending

theorem Inv.served (inv : s.Inv) (rest : s.stage.atRest = true) {newer older : List FlushEvent}
    (split : s.log = newer ++ .request flags :: older) (asked : flags.getLsbD bit = true) :
    ∃ stage applied, .effect stage applied ∈ newer ∧ applied.getLsbD bit = true := by
  obtain ⟨event, member, served⟩ := Owed.served_of_not_owes (inv.not_owes rest bit) split asked
  cases event with
  | request _ => cases served
  | effect stage applied => exact ⟨stage, applied, member, served⟩

/-- Without another NMI, the code in progress comes to its end. -/
def Ends (s : FlushCpu) : Prop :=
  ∃ n s', flushMachine.run s (List.replicate n .advance) = some s' ∧ s'.stage = .outside

theorem Ends.of_advance (step : s.advance = some s') (ends : s'.Ends) : s.Ends := by
  obtain ⟨n, last, run, outside⟩ := ends
  refine ⟨n + 1, last, ?_, outside⟩
  rw [List.replicate_succ, Machine.run, List.foldlM_cons]
  exact Option.bind_eq_some_iff.mpr ⟨s', step, run⟩

theorem ends_drained (disable : Bool) (log : List FlushEvent) :
    (⟨.testVisited, disable, 0, log⟩ : FlushCpu).Ends :=
  ⟨1, _, rfl, rfl⟩

theorem ends_testVisited (disable : Bool) (visited : U32) (log : List FlushEvent) :
    (⟨.testVisited, disable, visited, log⟩ : FlushCpu).Ends := by
  by_cases none : visited = 0
  · subst none
    exact ends_drained disable log
  · have test : FlushCpu.advance ⟨.testVisited, disable, visited, log⟩ =
        some ⟨.readVisited, disable, visited, log⟩ := by
      rw [advance, if_neg none]
    refine .of_advance test (.of_advance rfl (.of_advance rfl (.of_advance rfl ?_)))
    exact .of_advance rfl (.of_advance rfl (.of_advance rfl (ends_drained _ _)))

theorem ends_unblock (unblocks : s.stage.unblocks = true) : s.Ends := by
  obtain ⟨stage, disable, visited, log⟩ := s
  have last := ends_testVisited
  cases stage with
  | outside | blocking | blocked | flushing => cases unblocks
  | testVisited => exact last _ _ _
  | unblocking | clearDisable => exact .of_advance rfl (last _ _ _)
  | endEffect => exact .of_advance rfl (.of_advance rfl (last _ _ _))
  | startEffect flags => exact .of_advance rfl (.of_advance rfl (.of_advance rfl (last _ _ _)))
  | setDisable flags =>
    refine .of_advance rfl (.of_advance rfl ?_)
    exact .of_advance rfl (.of_advance rfl (last _ _ _))
  | clearVisited flags =>
    refine .of_advance rfl (.of_advance rfl (.of_advance rfl ?_))
    exact .of_advance rfl (.of_advance rfl (last _ _ _))
  | readVisited =>
    refine .of_advance rfl (.of_advance rfl (.of_advance rfl (.of_advance rfl ?_)))
    exact .of_advance rfl (.of_advance rfl (last _ _ _))

end FlushCpu

/-- Whatever flushes NMI handlers request between any two statements of a CPU, the effect
never starts in a blocked section. Once the CPU is outside blocked sections and
`unblock_ept02_flush`, an effect later than the request has applied every flag requested; and
`unblock_ept02_flush` comes to its end when no more NMIs arrive. -/
theorem ept02_flush_requests_applied {s : FlushCpu} (reached : flushMachine.Reachable s) :
    (∀ stage flags, .effect stage flags ∈ s.log → stage.inBlockedSection = false) ∧
    (s.stage.atRest = true → ∀ newer older flags bit,
      s.log = newer ++ .request flags :: older → flags.getLsbD bit = true →
      ∃ stage applied, .effect stage applied ∈ newer ∧ applied.getLsbD bit = true) ∧
    (s.stage.unblocks = true → s.Ends) := by
  have inv := FlushCpu.Inv.reachable reached
  refine ⟨?_, ?_, FlushCpu.ends_unblock⟩
  · intro stage flags member
    exact inv.effects _ member
  · intro rest newer older flags bit split asked
    exact inv.served rest split asked

def sampleFlushOps : List FlushOp :=
  [.block, .advance, .nmi 1, .unblock, .advance, .advance, .advance, .advance, .advance,
    .advance, .nmi 2, .advance, .advance, .advance, .advance, .advance, .advance, .advance,
    .advance, .advance, .advance]

theorem ept02_flush_requests_applied_sample :
    ∃ s, flushMachine.run FlushCpu.start sampleFlushOps = some s ∧
      s.log = [.effect (.startEffect 2) 2, .request 2, .effect (.startEffect 1) 1, .request 1] ∧
      (∀ stage flags, .effect stage flags ∈ s.log → stage.inBlockedSection = false) ∧
      ∃ stage applied, .effect stage applied ∈ s.log.take 1 ∧ applied.getLsbD 1 = true := by
  have start : flushMachine.Reachable FlushCpu.start := .init rfl
  have result : flushMachine.run FlushCpu.start sampleFlushOps = some ⟨.outside, false, 0,
        [.effect (.startEffect 2) 2, .request 2, .effect (.startEffect 1) 1, .request 1]⟩ := by
    decide
  obtain ⟨effects, served, -⟩ := ept02_flush_requests_applied (start.run result)
  exact ⟨_, result, rfl, effects, served rfl [_] _ 2 1 rfl rfl⟩

end Xmhf
