import Xmhf.Bitfield
import Xmhf.Lib.Machine

/-!
# Quiescing the other CPUs

To change what all CPUs use, a CPU quiesces the others: it sends each an NMI, and their NMI
handlers wait until `endquiesce` (`smpg-x86vmx.c`). Before that it takes the EPT lock for
writing, so that no CPU is interrupted while it reads EPT entries
(`memp-x86vmx-eptlock.c`).

The CPUs execute one statement at a time, in any order. An NMI is a message: on its way, then
delivered, which suspends what the CPU executes until the NMI handler returns; a processor in
its NMI handler holds further NMIs back and remembers only whether there was one. An
increment under a spin lock that guards nothing else is one statement.
-/

namespace Xmhf

/-- The place in `memprot_x86vmx_eptlock_read_lock`, in the section after it, and in
`memprot_x86vmx_eptlock_read_unlock`: the statement executed next. -/
inductive ReadStage where
  | assertNotReading
  | waitPending
  | announce
  | checkPending
  | retract
  | reading
  | release
  deriving DecidableEq, Repr

inductive CpuStage (n : Nat) where
  | guest
  | hypervisor
  /-- A section that reads EPT entries, of a CPU that has quiesced the others or not. -/
  | read (owner : Bool) (stage : ReadStage)
  -- `xmhf_smpguest_arch_x86vmx_quiesce`, with `memprot_x86vmx_eptlock_write_lock` in it
  | lockQuiesce
  | lockWrite
  | setPending
  | scan (rest : List (Fin n))
  | setQuiesced
  | resetCounter
  | setQuiesce
  | sendNmi
  | waitCounter
  | clearPending
  | unlockWrite
  /-- Between the return of `quiesce` and the call of `endquiesce`. -/
  | owner
  -- `xmhf_smpguest_arch_x86vmx_endquiesce`
  | clearQuiesce
  | resetResume
  | setSignal
  | waitResume
  | clearQuiesced
  | clearSignal
  | clearFlush
  | unlockQuiesce
  deriving DecidableEq, Repr

/-- The place in the NMI handler: `nmi_check_quiesce`, and what follows if the NMI is not for
quiescing. -/
inductive NmiStage where
  | check
  | setQuiesced
  | incCounter
  | wait
  | testFlush
  | flush (flags : U32)
  /-- The flush takes the EPT lock for reading. -/
  | read (stage : ReadStage)
  | incResume
  | clearQuiesced
  | guestNmi
  | leave
  deriving DecidableEq, Repr

/-- What an observer sees of flushes: the owner requests one of all CPUs, releases the other
CPUs while `g_vmx_flush_all_tlb_signal` has this value, and a CPU flushes its TLB. -/
inductive FlushTlbEvent (n : Nat) where
  | request (owner : Fin n) (flags : U32)
  | release (owner : Fin n) (flags : U32)
  | flush (cpu : Fin n) (flags : U32)
  deriving DecidableEq, Repr

structure Smp (n : Nat) where
  cpu : Fin n → CpuStage n
  nmi : Fin n → Option NmiStage
  latched : Fin n → Bool
  /-- The NMIs on their way to a CPU. -/
  sent : Fin n → Nat
  /-- `vcpu->quiesced` and `vcpu->vmx_eptlock_reading` -/
  quiesced : Fin n → Bool
  reading : Fin n → Bool
  /-- The holders of `g_vmx_lock_quiesce` and `g_eptlock_write_lock`. -/
  quiesceLock : Option (Fin n)
  writeLock : Option (Fin n)
  /-- `g_vmx_quiesce`, `g_vmx_quiesce_counter`, `g_vmx_quiesce_resume_signal`,
  `g_vmx_quiesce_resume_counter`, `g_vmx_flush_all_tlb_signal`, `g_eptlock_write_pending` -/
  quiesce : Bool
  counter : Nat
  resumeSignal : Bool
  resumeCounter : Nat
  flushSignal : U32
  writePending : Bool
  log : List (FlushTlbEvent n)

inductive SmpOp (n : Nat) where
  | advance (cpu : Fin n)
  /-- The next statement, where it is a flush that takes the EPT lock. -/
  | advanceReading (cpu : Fin n)
  | vmexit (cpu : Fin n)
  | vmentry (cpu : Fin n)
  | readLock (cpu : Fin n) (owner : Bool)
  | quiesce (cpu : Fin n)
  /-- `xmhf_memprot_flushmappings_alltlb` -/
  | flushAllTlb (cpu : Fin n) (flags : U32)
  | endquiesce (cpu : Fin n)
  | deviceNmi (cpu : Fin n)
  | deliver (cpu : Fin n)
  deriving DecidableEq, Repr

namespace Smp

variable {n : Nat}

def goto (s : Smp n) (i : Fin n) (stage : CpuStage n) : Smp n :=
  { s with cpu := Function.update s.cpu i stage }

def gotoNmi (s : Smp n) (i : Fin n) (stage : Option NmiStage) : Smp n :=
  { s with nmi := Function.update s.nmi i stage }

def setReading (s : Smp n) (i : Fin n) (reading : Bool) : Smp n :=
  { s with reading := Function.update s.reading i reading }

def setQuiesced (s : Smp n) (i : Fin n) (quiesced : Bool) : Smp n :=
  { s with quiesced := Function.update s.quiesced i quiesced }

/-- A statement of the EPT lock for readers, and the place after it, none after the
last. It gives none while the CPU spins, and where an assertion fails. -/
def readStep (s : Smp n) (i : Fin n) : ReadStage → Option (Smp n × Option ReadStage)
  | .assertNotReading => if s.reading i then none else some (s, some .waitPending)
  | .waitPending => if s.writePending then none else some (s, some .announce)
  | .announce => some (s.setReading i true, some .checkPending)
  | .checkPending => some (s, some (if s.writePending then .retract else .reading))
  | .retract => some (s.setReading i false, some .waitPending)
  | .reading => some (s, some .release)
  | .release => if s.reading i then some (s.setReading i false, none) else none

/-- The next statement of a CPU outside its NMI handler. -/
def advanceCpu (s : Smp n) (i : Fin n) : Option (Smp n) :=
  match s.cpu i with
  | .guest | .hypervisor | .owner => none
  | .read owner stage => (s.readStep i stage).map fun (s, next) =>
    s.goto i (next.elim (if owner then .owner else .hypervisor) (.read owner))
  | .lockQuiesce =>
    if s.quiesceLock = none then some { s.goto i .lockWrite with quiesceLock := some i } else none
  | .lockWrite =>
    if s.writeLock = none then some { s.goto i .setPending with writeLock := some i } else none
  | .setPending =>
    if s.writePending then none
    else some { s.goto i (.scan (List.finRange n)) with writePending := true }
  | .scan [] => some (s.goto i .setQuiesced)
  | .scan (j :: rest) => if s.reading j then none else some (s.goto i (.scan rest))
  | .setQuiesced => some ((s.setQuiesced i true).goto i .resetCounter)
  | .resetCounter => some { s.goto i .setQuiesce with counter := 0 }
  | .setQuiesce => some { s.goto i .sendNmi with quiesce := true }
  | .sendNmi =>
    some { s.goto i .waitCounter with sent := fun j => if j = i then s.sent j else s.sent j + 1 }
  | .waitCounter => if s.counter < n - 1 then none else some (s.goto i .clearPending)
  | .clearPending =>
    if s.writePending then some { s.goto i .unlockWrite with writePending := false } else none
  | .unlockWrite => some { s.goto i .owner with writeLock := none }
  | .clearQuiesce => some { s.goto i .resetResume with quiesce := false }
  | .resetResume => some { s.goto i .setSignal with resumeCounter := 0 }
  | .setSignal =>
    some { s.goto i .waitResume with
      resumeSignal := true
      log := .release i s.flushSignal :: s.log }
  | .waitResume => if s.resumeCounter < n - 1 then none else some (s.goto i .clearQuiesced)
  | .clearQuiesced => some ((s.setQuiesced i false).goto i .clearSignal)
  | .clearSignal => some { s.goto i .clearFlush with resumeSignal := false }
  | .clearFlush => some { s.goto i .unlockQuiesce with flushSignal := 0 }
  | .unlockQuiesce => some { s.goto i .hypervisor with quiesceLock := none }

/-- The next statement of `xmhf_smpguest_arch_x86vmx_nmi_check_quiesce` and of the NMI handler
around it. -/
def advanceNmi (s : Smp n) (i : Fin n) (reads : Bool) : NmiStage → Option (Smp n)
  | .check =>
    some (s.gotoNmi i (some (if s.quiesce && !s.quiesced i then .setQuiesced else .guestNmi)))
  | .setQuiesced => some ((s.setQuiesced i true).gotoNmi i (some .incCounter))
  | .incCounter => some { s.gotoNmi i (some .wait) with counter := s.counter + 1 }
  | .wait => if s.resumeSignal then some (s.gotoNmi i (some .testFlush)) else none
  | .testFlush =>
    some (s.gotoNmi i (some (if s.flushSignal = 0 then .incResume else .flush s.flushSignal)))
  | .flush flags =>
    some { s.gotoNmi i (some (if reads then .read .assertNotReading else .incResume)) with
      log := .flush i flags :: s.log }
  | .read stage => (s.readStep i stage).map fun (s, next) =>
    s.gotoNmi i (some (next.elim .incResume .read))
  | .incResume =>
    some { s.gotoNmi i (some .clearQuiesced) with resumeCounter := s.resumeCounter + 1 }
  | .clearQuiesced => some ((s.setQuiesced i false).gotoNmi i (some .leave))
  | .guestNmi => some (s.gotoNmi i (some .leave))
  | .leave =>
    some { s.gotoNmi i (if s.latched i then some .check else none) with
      latched := Function.update s.latched i false }

/-- A CPU that is not in its NMI handler goes from one place to another. -/
def call (s : Smp n) (i : Fin n) (source target : CpuStage n) : Option (Smp n) :=
  if s.nmi i = none ∧ s.cpu i = source then some (s.goto i target) else none

/-- The processor takes an NMI that was on its way, or holds it back. -/
def deliver (s : Smp n) (i : Fin n) : Option (Smp n) :=
  if s.sent i = 0 then none
  else
    let s := { s with sent := Function.update s.sent i (s.sent i - 1) }
    match s.nmi i with
    | none => some (s.gotoNmi i (some .check))
    | some _ => some { s with latched := Function.update s.latched i true }

def advance (s : Smp n) (i : Fin n) (reads : Bool) : Option (Smp n) :=
  match s.nmi i with
  | none => s.advanceCpu i
  | some stage => s.advanceNmi i reads stage

def step (s : Smp n) : SmpOp n → Option (Smp n)
  | .advance i => s.advance i false
  | .advanceReading i => s.advance i true
  | .vmexit i => s.call i .guest .hypervisor
  | .vmentry i => s.call i .hypervisor .guest
  | .readLock i owner =>
    s.call i (if owner then .owner else .hypervisor) (.read owner .assertNotReading)
  | .quiesce i => s.call i .hypervisor .lockQuiesce
  | .flushAllTlb i flags =>
    -- asserts that a quiesce is in progress
    if s.quiesce then (s.call i .owner .owner).map fun s =>
      { s with flushSignal := flags, log := .request i flags :: s.log }
    else none
  | .endquiesce i => s.call i .owner .clearQuiesce
  | .deviceNmi i => some { s with sent := Function.update s.sent i (s.sent i + 1) }
  | .deliver i => s.deliver i

end Smp

/-- All CPUs run their guests or the hypervisor, and nothing is in progress. -/
def smpMachine (n : Nat) : Machine (Smp n) (SmpOp n) where
  init s := (∀ i, s.cpu i = .guest ∨ s.cpu i = .hypervisor) ∧ (∀ i, s.nmi i = none) ∧
    (∀ i, s.quiesced i = false) ∧ (∀ i, s.reading i = false) ∧ s.quiesceLock = none ∧
    s.writeLock = none ∧ s.quiesce = false ∧ s.resumeSignal = false ∧ s.flushSignal = 0 ∧
    s.writePending = false ∧ s.log = []
  step := Smp.step

end Xmhf
