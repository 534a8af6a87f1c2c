import Xmhf.Vmx.Vcpu

/-!
# Entering and leaving a PAL

`hpt_scode_switch_scode` and `hpt_scode_switch_regular` (`scode.c`): a call of the guest becomes a
run of the PAL, and the guest goes on after the call. Copies from and to guest memory are
parameters that may fail. In the second function the checks after the label `out` jump back to
that label, so the code from there on is a loop. The state of the shared pages is of any type.
-/

namespace Xmhf

def RFLAGS_IF : U64 := 0x200
def CR0_EM : U64 := 0x4

/-! ## Exits to a nested hypervisor -/

/-- The controls of VMCS02 that the switches change; `nonroot` is `NESTED_VMX_MODE_NONROOT`. -/
structure NestedCtls where
  nonroot : Bool
  pin : U32
  exit : U32
  proc : U32
  secp : U32

structure SavedNested where
  intrExit : Bool
  timer : U32
  memBitmap : U32

/-- `_MASK_PROC`: I/O bitmaps, the TPR shadow and unconditional I/O exiting. -/
def maskProc : U32 := 1#32 <<< 25 ||| 1#32 <<< 21 ||| 1#32 <<< 24

/-- `_MASK_SECP` -/
def maskSecp : U32 :=
  1#32 <<< 17 ||| 1#32 <<< 4 ||| 1#32 <<< 8 ||| 1#32 <<< 9 ||| 1#32 <<< 0 |||
    1#32 <<< 13 ||| 1#32 <<< 14 ||| 1#32 <<< 18

namespace NestedCtls

variable (c : NestedCtls)

/-- `VCPU_disable_nested_interrupt_exit` -/
def disableInterruptExit : Bool × NestedCtls :=
  if c.nonroot && c.pin.getLsbD 0 then (true, { c with pin := c.pin &&& ~~~(1#32 <<< 0) })
  else (false, c)

/-- `VCPU_disable_nested_timer_exit` -/
def disableTimerExit : U32 × NestedCtls :=
  if c.nonroot && c.pin.getLsbD 6 then
    let c := { c with pin := c.pin &&& ~~~(1#32 <<< 6) }
    if c.exit.getLsbD 22 then (3, { c with exit := c.exit &&& ~~~(1#32 <<< 22) }) else (1, c)
  else (0, c)

/-- `VCPU_disable_memory_bitmap` -/
def disableMemoryBitmap : U32 × NestedCtls :=
  if c.nonroot then (c.proc &&& maskProc ||| c.secp &&& maskSecp,
    { c with proc := c.proc &&& ~~~maskProc ||| 1#32 <<< 24, secp := c.secp &&& ~~~maskSecp })
  else (0, c)

def disable : SavedNested × NestedCtls :=
  let (intrExit, c) := c.disableInterruptExit
  let (timer, c) := c.disableTimerExit
  let (memBitmap, c) := c.disableMemoryBitmap
  (⟨intrExit, timer, memBitmap⟩, c)

/-- `VCPU_enable_memory_bitmap`. Asserted, as in the next two: what is enabled is disabled, and
nothing was saved outside of `NESTED_VMX_MODE_NONROOT`. -/
def enableMemoryBitmap (old : U32) : NestedCtls :=
  if c.nonroot then
    { c with
      proc := c.proc &&& ~~~(1#32 <<< 24) ||| old &&& maskProc
      secp := c.secp ||| old &&& maskSecp }
  else c

/-- `VCPU_enable_nested_timer_exit` -/
def enableTimerExit (old : U32) : NestedCtls :=
  if c.nonroot then
    { c with
      pin := if old.getLsbD 0 then c.pin ||| 1#32 <<< 6 else c.pin
      exit := if old.getLsbD 1 then c.exit ||| 1#32 <<< 22 else c.exit }
  else c

/-- `VCPU_enable_nested_interrupt_exit` -/
def enableInterruptExit (old : Bool) : NestedCtls :=
  if c.nonroot && old then { c with pin := c.pin ||| 1#32 <<< 0 } else c

def enable (old : SavedNested) : NestedCtls :=
  ((c.enableMemoryBitmap old.memBitmap).enableTimerExit old.timer).enableInterruptExit old.intrExit

theorem set_cleared {x : U32} {i : Nat} (set : x.getLsbD i = true) :
    x &&& ~~~(1#32 <<< i) ||| 1#32 <<< i = x := by
  refine BitVec.eq_of_getLsbD_eq fun j inside => ?_
  rw [← BitVec.twoPow_eq, BitVec.getLsbD_or, BitVec.getLsbD_and, BitVec.getLsbD_not,
    BitVec.getLsbD_twoPow]
  by_cases same : i = j
  · subst same
    simp [set, inside]
  · simp [same, inside]

theorem set_masked (x y : U32) :
    (x &&& ~~~maskProc ||| 1#32 <<< 24) &&& ~~~(1#32 <<< 24) |||
      (x &&& maskProc ||| y &&& maskSecp) &&& maskProc = x ∧
    y &&& ~~~maskSecp ||| (x &&& maskProc ||| y &&& maskSecp) &&& maskSecp = y := by
  have masks : ∀ i < 32, (maskProc.getLsbD i && maskSecp.getLsbD i) = false ∧
      ((1#32 <<< 24).getLsbD i = true → maskProc.getLsbD i = true) := by decide
  constructor <;> refine BitVec.eq_of_getLsbD_eq fun i inside => ?_
  all_goals
    obtain ⟨apart, io⟩ := masks i inside
    simp only [BitVec.getLsbD_or, BitVec.getLsbD_and, BitVec.getLsbD_not, inside, decide_true,
      Bool.true_and]
    revert apart io
    cases x.getLsbD i <;> cases y.getLsbD i <;> cases maskProc.getLsbD i <;>
      cases maskSecp.getLsbD i <;> cases (1#32 <<< 24).getLsbD i <;> simp

theorem enable_disableMemoryBitmap :
    c.disableMemoryBitmap.2.enableMemoryBitmap c.disableMemoryBitmap.1 = c := by
  obtain ⟨nonroot, pin, exit, proc, secp⟩ := c
  cases nonroot with
  | false => rfl
  | true =>
    obtain ⟨procBack, secpBack⟩ := set_masked proc secp
    exact congrArg₂ (NestedCtls.mk true pin exit) procBack secpBack

theorem enable_disableTimerExit :
    c.disableTimerExit.2.enableTimerExit c.disableTimerExit.1 = c := by
  obtain ⟨nonroot, pin, exit, proc, secp⟩ := c
  unfold disableTimerExit
  split
  · rename_i timer
    obtain ⟨rfl, timer⟩ := Bool.and_eq_true_iff.mp timer
    have saved : (3 : U32).getLsbD 0 = true ∧ (3 : U32).getLsbD 1 = true ∧
        (1 : U32).getLsbD 0 = true ∧ (1 : U32).getLsbD 1 = false := by decide
    have pinBack := set_cleared timer
    dsimp only at pinBack ⊢
    split
    · rename_i save
      simp only [enableTimerExit, saved, if_true, pinBack, set_cleared save]
    · simp only [enableTimerExit, saved, if_true, pinBack, Bool.false_eq_true, if_false]
  · simp [enableTimerExit]

theorem enable_disableInterruptExit :
    c.disableInterruptExit.2.enableInterruptExit c.disableInterruptExit.1 = c := by
  obtain ⟨nonroot, pin, exit, proc, secp⟩ := c
  unfold disableInterruptExit
  split
  · rename_i exits
    obtain ⟨rfl, exits⟩ := Bool.and_eq_true_iff.mp exits
    exact congrArg (mk true · exit proc secp) (set_cleared exits)
  · simp [enableInterruptExit]

/-- The regular world gets the settings that the entry saved and disabled. -/
theorem enable_disable : c.disable.2.enable c.disable.1 = c := by
  unfold disable enable
  dsimp only
  rw [enable_disableMemoryBitmap, enable_disableTimerExit, enable_disableInterruptExit]

end NestedCtls

/-! ## The switches -/

/-- What the switches read and write of a `VCPU`. -/
structure SwitchCpu where
  g64 : Bool
  grsp : U64
  grip : U64
  grflags : U64
  gcr0 : U64
  gcr3 : U64
  gpdptes : Fin 4 → U64
  rootPmPa : U64
  l1l2RootPmPa : U64
  exceptionBitmap : U32
  regs : Regs
  nested : NestedCtls
  nmiBlocked : Bool

/-- What they read and write of a `whitelist_entry_t`. -/
structure SwitchPal where
  g64 : Bool
  pae : Bool
  gcr3 : U64
  palGcr3 : U64
  palRoot : U64
  gssp : U64
  grsp : U64
  returnV : U64
  savedRoot : U64
  savedL1l2Root : U64
  savedCr0Em : Bool
  savedExceptionIntercepts : U32
  savedNested : SavedNested
  palRunningVcpuId : Option U32
  palRunningLock : Bool

structure SwitchState (σ : Type) where
  cpu : SwitchCpu
  pal : SwitchPal
  shared : σ

inductive Marshalled where
  | failed
  | integer
  | pointer (address : U64)

/-- The copies of an entry, which fail or not, the parameters by number, and the page directory
pointers of the PAL. -/
structure EntryEnv where
  vcpuId : U32
  returnAddress : Option U64
  gpmNum : Nat
  /-- `TV_MAX_PARAMS`, as `parse_params_info` checks -/
  gpmNum_le : gpmNum ≤ 10
  param : Nat → Marshalled
  sentinel : Bool
  hostCtx : Bool
  palPdptes : Option (Fin 4 → U64)

/-- The shared pages, the page directory pointers at the saved CR3 if they can be read, and
whether the parameters can be copied back. -/
structure SwitchEnv (σ : Type) where
  releaseAll : σ → σ
  pdptes : Option (Fin 4 → U64)
  unmarshall : Bool

variable {σ : Type}

def SwitchCpu.wordSize (cpu : SwitchCpu) : U64 := if cpu.g64 then 8 else 4

def argReg : Nat → Option Gpr
  | 0 => some .rdi
  | 1 => some .rsi
  | 2 => some .rdx
  | 3 => some .rcx
  | 4 => some .r8
  | 5 => some .r9
  | _ => none

/-- `scode_marshall64` and `scode_marshall32`, from the last parameter to the first: an address in
the PAL replaces a pointer. Only the former has parameters in registers. -/
def scodeMarshall (g64 : Bool) (param : Nat → Marshalled) : Nat → Regs → U64 → Bool × Regs × U64
  | 0, regs, rsp => (true, regs, rsp)
  | i + 1, regs, rsp =>
    let arg := if g64 then argReg i else none
    let rsp' := if arg.isSome then rsp else rsp - if g64 then 8 else 4
    match param i with
    | .failed => (false, regs, rsp)
    | .integer => scodeMarshall g64 param i regs rsp'
    | .pointer address =>
      scodeMarshall g64 param i (arg.elim regs fun r => Function.update regs r address) rsp'

def SwitchState.abort (s : SwitchState σ) (swapped pushed : Bool) : SwitchState σ :=
  let grsp := if swapped then s.pal.grsp else s.cpu.grsp
  { s with
    cpu.grsp := if pushed then grsp + s.cpu.wordSize else grsp
    pal.grsp := if swapped then -1 else s.pal.grsp
    pal.palRunningVcpuId := none
    pal.palRunningLock := false }

/-- `hpt_scode_switch_scode`; the flag says that it failed. -/
def hptScodeSwitchScode (env : EntryEnv) (s : SwitchState σ) : Bool × SwitchState σ :=
  let s := { s with pal.palRunningVcpuId := some env.vcpuId, pal.palRunningLock := true }
  match env.returnAddress with
  | none => (true, s.abort false false)
  | some returnV =>
    let s := { s with pal.returnV := returnV, pal.grsp := s.cpu.grsp, cpu.grsp := s.pal.gssp }
    let (marshalled, regs, rsp) :=
      scodeMarshall s.pal.g64 env.param env.gpmNum s.cpu.regs s.cpu.grsp
    let s := { s with cpu.regs := regs }
    if !(env.gpmNum ≠ 0 && marshalled && env.sentinel) then (true, s.abort true false)
    else
      let s := { s with
        cpu.grsp := rsp - s.cpu.wordSize
        pal.savedRoot := s.cpu.rootPmPa
        pal.savedL1l2Root := s.cpu.l1l2RootPmPa }
      if !env.hostCtx then (true, s.abort true true)
      else
        let s := { s with
          cpu.rootPmPa := s.pal.palRoot
          -- `HPTW_EMHF_EPT12_INVALID`
          cpu.l1l2RootPmPa := -1
          cpu.gcr3 := s.pal.palGcr3 }
        if s.pal.pae ∧ env.palPdptes = none then (true, s.abort true true)
        else
          let s := { s with
            cpu.gpdptes := if s.pal.pae then env.palPdptes.getD s.cpu.gpdptes else s.cpu.gpdptes }
          if s.cpu.grflags &&& RFLAGS_IF = 0 then (true, s.abort true true)
          else (false, { s with
            cpu.grflags := s.cpu.grflags &&& ~~~RFLAGS_IF
            cpu.gcr0 := s.cpu.gcr0 ||| CR0_EM
            cpu.nested := s.cpu.nested.disable.2
            cpu.nmiBlocked := true
            cpu.exceptionBitmap := 0xffffffff
            pal.savedCr0Em := decide (s.cpu.gcr0 &&& CR0_EM ≠ 0)
            pal.savedNested := s.cpu.nested.disable.1
            pal.savedExceptionIntercepts := s.cpu.exceptionBitmap })

/-- The code after `out`; the flag says that a check failed, with the state at that point. -/
def switchRegularOut (env : SwitchEnv σ) (s : SwitchState σ) : Bool × SwitchState σ :=
  let s := { s with
    shared := env.releaseAll s.shared
    cpu.exceptionBitmap := s.pal.savedExceptionIntercepts
    cpu.l1l2RootPmPa := s.pal.savedL1l2Root
    cpu.rootPmPa := s.pal.savedRoot
    cpu.gcr3 := s.pal.gcr3 }
  if s.pal.pae ∧ env.pdptes = none then (true, s)
  else
    let s := { s with
      cpu.gpdptes := if s.pal.pae then env.pdptes.getD s.cpu.gpdptes else s.cpu.gpdptes
      cpu.grsp := s.pal.grsp + s.cpu.wordSize
      pal.grsp := -1 }
    if s.cpu.grflags &&& RFLAGS_IF ≠ 0 then (true, s)
    else
      let s := { s with cpu.grflags := s.cpu.grflags ||| RFLAGS_IF }
      if s.cpu.gcr0 &&& CR0_EM = 0 then (true, s)
      else (false, { s with
        cpu.gcr0 := if s.pal.savedCr0Em then s.cpu.gcr0 else s.cpu.gcr0 &&& ~~~CR0_EM
        cpu.nested := s.cpu.nested.enable s.pal.savedNested
        cpu.nmiBlocked := false
        cpu.grip := s.pal.returnV
        pal.palRunningVcpuId := none
        pal.palRunningLock := false })

def switchRegularLoop (env : SwitchEnv σ) : Nat → SwitchState σ → Option (SwitchState σ)
  | 0, _ => none
  | n + 1, s =>
    let (again, s) := switchRegularOut env s
    if again then switchRegularLoop env n s else some s

/-- The registers that `scode_unmarshall` clears in the end. -/
def callerSaved (g64 : Bool) : List Gpr :=
  if g64 then [.rcx, .rdx, .rsi, .rdi, .r8, .r9, .r10, .r11] else [.rcx, .rdx]

def clearCallerSaved (g64 : Bool) (regs : Regs) (r : Gpr) : U64 :=
  if r ∈ callerSaved g64 then if g64 then 0 else regs.setLow r 0 r else regs r

/-- The end of `scode_unmarshall`. -/
def SwitchState.unmarshalled (env : SwitchEnv σ) (s : SwitchState σ) : SwitchState σ :=
  { s with
    cpu.regs := if env.unmarshall then clearCallerSaved s.cpu.g64 s.cpu.regs else s.cpu.regs }

/-- `hpt_scode_switch_regular`, which also answers whether the parameters were copied back. If they
were not, `hpt_scode_npf` fails and the intercept handler halts. -/
def hptScodeSwitchRegular (env : SwitchEnv σ) (rounds : Nat) (s : SwitchState σ) :
    Option (Bool × SwitchState σ) :=
  (switchRegularLoop env rounds (s.unmarshalled env)).map fun s => (env.unmarshall, s)

/-- The regular world as it was saved, and the shared pages released once. -/
structure RegularWorld (env : SwitchEnv σ) (s s' : SwitchState σ) : Prop where
  shared : s'.shared = env.releaseAll s.shared
  stack : s'.cpu.grsp = s.pal.grsp + s.cpu.wordSize
  ip : s'.cpu.grip = s.pal.returnV
  cr3 : s'.cpu.gcr3 = s.pal.gcr3
  pdptes : s.pal.pae = true → env.pdptes = some s'.cpu.gpdptes
  roots : s'.cpu.rootPmPa = s.pal.savedRoot ∧ s'.cpu.l1l2RootPmPa = s.pal.savedL1l2Root
  interrupts : s'.cpu.grflags &&& RFLAGS_IF ≠ 0
  fpu : s'.cpu.gcr0 &&& CR0_EM ≠ 0 ↔ s.pal.savedCr0Em = true
  exceptions : s'.cpu.exceptionBitmap = s.pal.savedExceptionIntercepts
  /-- The settings that were saved and disabled are enabled. -/
  nested : ∀ n : NestedCtls, n.disable = (s.pal.savedNested, s.cpu.nested) → s'.cpu.nested = n
  nmi : s'.cpu.nmiBlocked = false
  free : s'.pal.palRunningVcpuId = none ∧ s'.pal.palRunningLock = false

def MayLeave (env : SwitchEnv σ) (s : SwitchState σ) : Prop :=
  s.cpu.grflags &&& RFLAGS_IF = 0 ∧ s.cpu.gcr0 &&& CR0_EM ≠ 0 ∧
    (s.pal.pae = true → env.pdptes ≠ none)

theorem or_flag_ne_zero (flags : U64) : (flags ||| RFLAGS_IF) &&& RFLAGS_IF ≠ 0 := by
  rw [BitVec.and_comm, BitVec.and_or_distrib_left, BitVec.and_self]
  intro zero
  have bit := congrArg (BitVec.getLsbD · 9) zero
  simp [RFLAGS_IF] at bit

theorem and_not_em (cr0 : U64) : cr0 &&& ~~~CR0_EM &&& CR0_EM = 0 := by
  rw [BitVec.and_assoc, show ~~~CR0_EM &&& CR0_EM = 0#64 from rfl]
  exact BitVec.and_zero

variable {s : SwitchState σ}

theorem switchRegularOut_stuck (env : SwitchEnv σ) (stuck : ¬ MayLeave env s) :
    (switchRegularOut env s).1 = true ∧ ¬ MayLeave env (switchRegularOut env s).2 := by
  unfold switchRegularOut
  dsimp only
  split
  · next failed => exact ⟨rfl, fun leave => leave.2.2 failed.1 failed.2⟩
  · next copied =>
    split
    · next enabled => exact ⟨rfl, fun leave => enabled leave.1⟩
    · next disabled =>
      split
      · exact ⟨rfl, fun leave => or_flag_ne_zero _ leave.1⟩
      · next emulated =>
        exact absurd ⟨not_not.mp disabled, emulated, fun pae none => copied ⟨pae, none⟩⟩ stuck

theorem switchRegularLoop_stuck (env : SwitchEnv σ) (rounds : Nat) (stuck : ¬ MayLeave env s) :
    switchRegularLoop env rounds s = none := by
  induction rounds generalizing s with
  | zero => rfl
  | succ rounds ih =>
    obtain ⟨again, stuck⟩ := switchRegularOut_stuck env stuck
    rw [switchRegularLoop]
    simp only [again, if_true]
    exact ih stuck

theorem switchRegularOut_leave (env : SwitchEnv σ) (leave : MayLeave env s) :
    (switchRegularOut env s).1 = false ∧ RegularWorld env s (switchRegularOut env s).2 := by
  obtain ⟨disabled, emulated, copied⟩ := leave
  unfold switchRegularOut
  rw [if_neg fun failed => copied failed.1 failed.2, if_neg (not_not.mpr disabled), if_neg emulated]
  refine ⟨rfl, rfl, rfl, rfl, rfl, fun pae => ?_, ⟨rfl, rfl⟩, or_flag_ne_zero _, ?_, rfl, ?_, rfl,
    rfl, rfl⟩
  · obtain ⟨pdptes, found⟩ := Option.ne_none_iff_exists'.mp (copied pae)
    simp only [pae, found, if_true, Option.getD_some]
  · cases saved : s.pal.savedCr0Em with
    | true => simpa [saved] using emulated
    | false => simp [and_not_em]
  · intro n disabled
    have back := n.enable_disable
    rwa [disabled] at back

theorem hptScodeSwitchRegular_eq_some {env : SwitchEnv σ} {rounds : Nat}
    {result : Bool × SwitchState σ} : hptScodeSwitchRegular env rounds s = some result ↔
      rounds ≠ 0 ∧ MayLeave env s ∧
        result = (env.unmarshall, (switchRegularOut env (s.unmarshalled env)).2) := by
  unfold hptScodeSwitchRegular
  by_cases leave : MayLeave env s
  · have last := (switchRegularOut_leave env (s := s.unmarshalled env) leave).1
    cases rounds with
    | zero => simp [switchRegularLoop]
    | succ rounds => simp [switchRegularLoop, last, leave, eq_comm]
  · simp [switchRegularLoop_stuck env rounds (s := s.unmarshalled env) leave, leave]

/-- The switch back ends with the regular world restored exactly if no check fails. -/
theorem hptScodeSwitchRegular_iff (env : SwitchEnv σ) (s : SwitchState σ) :
    (∃ rounds result, hptScodeSwitchRegular env rounds s = some result ∧
      RegularWorld env s result.2) ↔ MayLeave env s := by
  constructor
  · rintro ⟨rounds, result, done, -⟩
    exact (hptScodeSwitchRegular_eq_some.mp done).2.1
  · intro leave
    have world := (switchRegularOut_leave env (s := s.unmarshalled env) leave).2
    exact ⟨1, _, hptScodeSwitchRegular_eq_some.mpr ⟨one_ne_zero, leave, rfl⟩, ⟨world.shared,
      world.stack, world.ip, world.cr3, world.pdptes, world.roots, world.interrupts, world.fpu,
      world.exceptions, world.nested, world.nmi, world.free⟩⟩

def returnedEnabled : SwitchState Nat where
  cpu := ⟨true, 0, 0, RFLAGS_IF, CR0_EM, 0, fun _ => 0, 0, 0, 0, fun _ => 0,
    ⟨false, 0, 0, 0, 0⟩, true⟩
  pal := ⟨true, false, 0x1000, 0, 0, 0, 0x2000, 0x3000, 0, 0, false, 0, ⟨false, 0, 0⟩, some 0, true⟩
  shared := 0

/-- A PAL that returns with interrupts enabled keeps the switch in its loop for ever. -/
theorem returnedEnabled_never_ends : ¬ ∃ rounds result,
    hptScodeSwitchRegular ⟨(· + 1), none, true⟩ rounds returnedEnabled = some result := by
  rintro ⟨rounds, result, done⟩
  exact absurd (hptScodeSwitchRegular_eq_some.mp done).2.1.1 (by decide)

/-! ## A whole call -/

def SwitchCpu.reg (cpu : SwitchCpu) (r : Gpr) : U64 :=
  if cpu.g64 then cpu.regs r else (cpu.regs.low r).setWidth 64

/-- The state after a function call, in which PAL data is in the return value only. -/
structure AsAfterCall (env : EntryEnv) (s s' : SwitchState σ) : Prop where
  cr3 : s'.cpu.gcr3 = s.cpu.gcr3
  stack : s'.cpu.grsp = s.cpu.grsp + s.cpu.wordSize
  ip : env.returnAddress = some s'.cpu.grip
  interrupts : s'.cpu.grflags &&& RFLAGS_IF = 0 ↔ s.cpu.grflags &&& RFLAGS_IF = 0
  fpu : s'.cpu.gcr0 &&& CR0_EM = 0 ↔ s.cpu.gcr0 &&& CR0_EM = 0
  exceptions : s'.cpu.exceptionBitmap = s.cpu.exceptionBitmap
  roots : s'.cpu.rootPmPa = s.cpu.rootPmPa ∧ s'.cpu.l1l2RootPmPa = s.cpu.l1l2RootPmPa
  nested : s'.cpu.nested = s.cpu.nested
  regs : ∀ r ≠ .rax, s'.cpu.reg r = 0 ∨ s'.cpu.reg r = s.cpu.reg r

structure Entered (env : EntryEnv) (s e : SwitchState σ) : Prop where
  ip : env.returnAddress = some e.pal.returnV
  stack : e.pal.grsp = s.cpu.grsp
  cr3 : e.pal.gcr3 = s.pal.gcr3
  interrupts : s.cpu.grflags &&& RFLAGS_IF ≠ 0
  fpu : e.pal.savedCr0Em = true ↔ s.cpu.gcr0 &&& CR0_EM ≠ 0
  exceptions : e.pal.savedExceptionIntercepts = s.cpu.exceptionBitmap
  roots : e.pal.savedRoot = s.cpu.rootPmPa ∧ e.pal.savedL1l2Root = s.cpu.l1l2RootPmPa
  nested : s.cpu.nested.disable = (e.pal.savedNested, e.cpu.nested)

theorem hptScodeSwitchScode_entered {env : EntryEnv} {e : SwitchState σ}
    (entered : hptScodeSwitchScode env s = (false, e)) : Entered env s e := by
  unfold hptScodeSwitchScode at entered
  cases ip : env.returnAddress with
  | none => simp [ip] at entered
  | some returnV =>
    simp only [ip] at entered
    split_ifs at entered with _ _ _ disabled <;> cases entered
    all_goals exact ⟨ip, rfl, rfl, disabled, decide_eq_true_iff, rfl, ⟨rfl, rfl⟩, rfl⟩

theorem switchRegularOut_reg (back : SwitchEnv σ) (s : SwitchState σ) (r : Gpr) :
    (switchRegularOut back s).2.cpu.reg r = s.cpu.reg r := by
  unfold switchRegularOut
  dsimp only
  split
  · rfl
  · split
    · rfl
    · split <;> rfl

theorem SwitchState.unmarshalled_reg (back : SwitchEnv σ) (s : SwitchState σ) (r : Gpr) :
    (s.unmarshalled back).cpu.reg r =
      if back.unmarshall = true ∧ r ∈ callerSaved s.cpu.g64 then 0 else s.cpu.reg r := by
  unfold SwitchState.unmarshalled SwitchCpu.reg
  cases back.unmarshall with
  | false => simp
  | true =>
    by_cases cleared : r ∈ callerSaved s.cpu.g64
    · cases g64 : s.cpu.g64 <;> rw [g64] at cleared <;>
        simp [clearCallerSaved, cleared, Regs.low, Regs.setLow, BitVec.setWidth_and]
    · simp [clearCallerSaved, cleared, Regs.low]

def callEnv : EntryEnv := ⟨0, some 0x401000, 1, by decide, fun _ => .integer, true, true, none⟩

def callState (gcr3 : U64) (grflags : U64) : SwitchState Nat where
  cpu := ⟨true, 0x7000, 0x400000, grflags, 0x11, gcr3, fun _ => 0, 0x9000, -1, 0, fun _ => 0,
    ⟨true, 0x7f, 0x436fff, 0x23b9fffe, 0x2103⟩, false⟩
  pal := ⟨true, false, 0x1000, 0x2000, 0x8000, 0x6000, -1, 0, 0, 0, false, 0, ⟨false, 0, 0⟩, none,
    false⟩
  shared := 0

def leavingCpu : SwitchCpu :=
  ⟨true, 0x6000, 4, 0x2, 0x15, 0x2000, fun _ => 0, 0x8000, -1, 0, fun _ => 0,
    ⟨true, 0x3e, 0x36fff, 0x2199fffe, 0x2⟩, true⟩

structure EntryUndone (s s' : SwitchState σ) : Prop where
  stack : s'.cpu.grsp = s.cpu.grsp
  cr3 : s'.cpu.gcr3 = s.cpu.gcr3
  pdptes : s'.cpu.gpdptes = s.cpu.gpdptes
  regs : s'.cpu.regs = s.cpu.regs
  roots : s'.cpu.rootPmPa = s.cpu.rootPmPa ∧ s'.cpu.l1l2RootPmPa = s.cpu.l1l2RootPmPa
  free : s'.pal.palRunningVcpuId = none ∧ s'.pal.palRunningLock = false

/-- No pointer in a register is replaced by another value before marshalling fails or ends. -/
def PointersKept (g64 : Bool) (param : Nat → Marshalled) (regs : Regs) : Nat → Prop
  | 0 => True
  | i + 1 =>
    match param i with
    | .failed => True
    | .integer => PointersKept g64 param regs i
    | .pointer address =>
      (∀ r, g64 = true → argReg i = some r → regs r = address) ∧ PointersKept g64 param regs i

theorem argReg_lt : ∀ {i j : Nat} {r : Gpr}, argReg i = some r → j < i → argReg j ≠ some r
  | 0, _, _, _, lt => absurd lt (Nat.not_lt_zero _)
  | 1, j, r, found, lt | 2, j, r, found, lt | 3, j, r, found, lt | 4, j, r, found, lt
  | 5, j, r, found, lt => by
    cases found
    revert j
    decide
  | _ + 6, _, _, found, _ => nomatch found

variable {g64 : Bool} {param : Nat → Marshalled}

theorem scodeMarshall_other {r : Gpr} {n : Nat} {regs : Regs} {rsp : U64}
    (other : ∀ j < n, argReg j ≠ some r) : (scodeMarshall g64 param n regs rsp).2.1 r = regs r := by
  induction n generalizing regs rsp with
  | zero => rfl
  | succ n ih =>
    have below := fun j lt => other j (Nat.lt_succ_of_lt lt)
    rw [scodeMarshall]
    cases param n with
    | failed => rfl
    | integer => exact ih below
    | pointer address =>
      refine (ih below).trans ?_
      cases g64 with
      | false => rfl
      | true =>
        cases found : argReg n with
        | none => rfl
        | some r' =>
          refine Function.update_of_ne ?_ ..
          rintro rfl
          exact other n (Nat.lt_succ_self n) found

theorem scodeMarshall_regs_iff {n : Nat} {regs : Regs} {rsp : U64} :
    (scodeMarshall g64 param n regs rsp).2.1 = regs ↔ PointersKept g64 param regs n := by
  induction n generalizing rsp with
  | zero => exact iff_of_true rfl trivial
  | succ n ih =>
    rw [scodeMarshall, PointersKept]
    cases param n with
    | failed => exact iff_of_true rfl trivial
    | integer => exact ih
    | pointer address =>
      cases g64 with
      | false => simpa using ih
      | true =>
        cases found : argReg n with
        | none => simpa using ih
        | some r =>
          simp only [if_true, Option.elim_some, Option.some.injEq, forall_const, forall_eq']
          by_cases same : regs r = address
          · rw [← same, Function.update_eq_self]
            simpa using ih
          · refine iff_of_false (fun kept => same ?_) fun kept => same kept.1
            have last := congrFun kept r
            rw [scodeMarshall_other fun j lt => argReg_lt found lt, Function.update_self] at last
            exact last.symm

theorem add_wordSize_ne (cpu : SwitchCpu) (rsp : U64) : rsp + cpu.wordSize ≠ rsp := by
  intro eq
  have zero := eq.trans (BitVec.add_zero rsp).symm
  rw [BitVec.add_right_inj, SwitchCpu.wordSize] at zero
  revert zero
  cases cpu.g64 <;> decide

/-- There are parameters, and every copy before the change of the roots succeeds. -/
def EntryEnv.Copied (env : EntryEnv) (s : SwitchState σ) : Prop :=
  env.gpmNum ≠ 0 ∧ (scodeMarshall s.pal.g64 env.param env.gpmNum s.cpu.regs s.pal.gssp).1 = true ∧
    env.sentinel = true

/-- A failed entry is undone exactly if it fails before the return address is pushed, and has not
replaced a register. -/
theorem failed_entry_undone_iff (env : EntryEnv) (s : SwitchState σ) :
    ((hptScodeSwitchScode env s).1 = true → EntryUndone s (hptScodeSwitchScode env s).2) ↔
      env.returnAddress = none ∨
      (¬ env.Copied s ∧ PointersKept s.pal.g64 env.param s.cpu.regs env.gpmNum) ∨
      (env.Copied s ∧ env.hostCtx = true ∧ ¬ (s.pal.pae = true ∧ env.palPdptes = none) ∧
        s.cpu.grflags &&& RFLAGS_IF ≠ 0) := by
  unfold hptScodeSwitchScode
  cases env.returnAddress with
  | none => exact iff_of_true (fun _ => ⟨rfl, rfl, rfl, rfl, ⟨rfl, rfl⟩, rfl, rfl⟩) (.inl rfl)
  | some returnV =>
    have late : ∀ t : SwitchState σ, t.pal.grsp = s.cpu.grsp →
        ¬ EntryUndone s (t.abort true true) := by
      intro t saved undone
      refine add_wordSize_ne t.cpu t.pal.grsp (undone.stack.trans saved.symm)
    have test : (!(env.gpmNum ≠ 0 && (scodeMarshall s.pal.g64 env.param env.gpmNum s.cpu.regs
        s.pal.gssp).1 && env.sentinel)) = true ↔ ¬ env.Copied s := by
      unfold EntryEnv.Copied
      cases (scodeMarshall s.pal.g64 env.param env.gpmNum s.cpu.regs s.pal.gssp).1 <;>
        cases env.sentinel <;> simp
    dsimp only
    by_cases copied : env.Copied s
    · rw [if_neg (fun failed => test.mp failed copied)]
      by_cases ctx : env.hostCtx = true
      swap
      · rw [if_pos (by simpa using ctx)]
        exact iff_of_false (fun undone => late _ rfl (undone rfl)) (by simp [copied, ctx])
      rw [if_neg (by simpa using ctx)]
      by_cases pdptes : s.pal.pae = true ∧ env.palPdptes = none
      · rw [if_pos pdptes]
        exact iff_of_false (fun undone => late _ rfl (undone rfl)) (by simp [copied, pdptes])
      rw [if_neg pdptes]
      by_cases disabled : s.cpu.grflags &&& RFLAGS_IF = 0
      · rw [if_pos disabled]
        exact iff_of_false (fun undone => late _ rfl (undone rfl)) (by simp [copied, disabled])
      · rw [if_neg disabled]
        exact iff_of_true nofun (.inr (.inr ⟨copied, ctx, pdptes, disabled⟩))
    · rw [if_pos (test.mpr copied),
        ← @scodeMarshall_regs_iff s.pal.g64 env.param env.gpmNum s.cpu.regs s.pal.gssp]
      refine ⟨fun undone => .inr (.inl ⟨copied, (undone rfl).regs⟩), fun kept _ => ?_⟩
      refine ⟨rfl, rfl, rfl, ?_, ⟨rfl, rfl⟩, rfl, rfl⟩
      rcases kept with none | early | late
      · cases none
      · exact early.2
      · exact absurd late.1 copied

/-- With interrupts disabled, the entry fails with the stack pointer of the guest moved. -/
theorem disabled_entry_moves_stack : (hptScodeSwitchScode callEnv (callState 0x1000 0x2)).1 = true ∧
    (hptScodeSwitchScode callEnv (callState 0x1000 0x2)).2.cpu.grsp = 0x7008 :=
  ⟨rfl, rfl⟩

end Xmhf
