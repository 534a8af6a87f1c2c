import Xmhf.Nested.Vmcs02Exit
import Xmhf.Smpguest.GuestNmi

/-!
# Blocking of L2's NMIs

To be told of an NMI window while L2 runs, XMHF clears "blocking by NMI" in VMCS02 and keeps
the old bit in `guest_vmcs_block_nmi` (`_update_nested_nmi`). Here the runs of the guest's NMIs
carry what L2's blocking would be without XMHF, and what L1 finds in VMCS12 after an exit.

The saved bit is not followed while it is kept: an IRET of L2, or the delivery of an NMI that
L1 injects, goes to the bit in VMCS02. `Undisturbed` excludes these steps.
-/

namespace Xmhf

open Option (bind_some ite_none_right_eq_some map_eq_some_iff)

variable {nmi nmi' : GuestNmi}

/-- "Blocking by NMI" as `_vmcs02_to_vmcs12_guest_interruptibility` writes it to VMCS12. -/
def blocking12 (info : NmiInfo12) (vmcs02 : NmiVmcs) : Bool :=
  if info.nmiExiting && !info.virtualNmis then info.blockNmi
  else if info.vmcsBlockNmiOverridden then info.vmcsBlockNmi
  else vmcs02.blockNmi

def Vmexit.nmiInfo (s : Vmexit) : NmiInfo12 :=
  ⟨s.info.guestNmiExiting, s.info.guestVirtualNmis, s.info.guestNmiWindowExiting,
    s.info.guestBlockNmi, s.info.guestVmcsBlockNmiOverridden, s.guestVmcsBlockNmi⟩

/-- `blocking12` is the bit that the step of the exit translation leaves in VMCS12. -/
theorem guestInterruptibility_blocking {arg : VmexitArg} {s t : Vmexit} (vmcs02 : NmiVmcs)
    (bit : vmcs02.blockNmi = BitVec.getLsbD (arg.vmcs02 .guestInterruptibility) 3)
    (step : vmcs02ToVmcs12GuestInterruptibility arg s = some t) :
    BitVec.getLsbD (t.vmcs12 .guestInterruptibility) 3 = blocking12 s.nmiInfo vmcs02 := by
  cases step
  unfold blocking12 Vmexit.nmiInfo
  rw [bit]
  refine (congrArg (BitVec.getLsbD · 3) (Vmcs.vmwrite_self _ _ _)).trans ?_
  by_cases exiting : (s.info.guestNmiExiting && !s.info.guestVirtualNmis) = true
  · rw [if_pos exiting, if_pos exiting]
    exact setBlockNmi_bit _ _
  · rw [if_neg exiting, if_neg exiting]
    by_cases overridden : s.info.guestVmcsBlockNmiOverridden = true
    · rw [if_pos overridden, if_pos overridden]
      exact setBlockNmi_bit _ _
    · rw [if_neg overridden, if_neg overridden]

/-! ## Runs -/

/-- The NMIs of the guest, beside them L2's blocking without XMHF and the bit in VMCS12. -/
structure L2Nmi where
  nmi : GuestNmi
  blocked : Bool
  vmcs12 : Bool
  deriving DecidableEq, Repr

/-- The blocking that L2 is entered with: an NMI that L1 injects is delivered at once. -/
def enteredBlocked (blocked : Bool) : GuestNmiOp → Bool
  | .nestedEntry vmcs12 => vmcs12.blockNmi || vmcs12.injectsNmi
  | _ => blocked

/-- What happens to it while L2 runs. IRET ends it unless NMIs exit and are not virtual; an NMI
that does not exit is delivered to L2 in the window that XMHF asks for. -/
def keptBlocked (info : NmiInfo12) (blocked : Bool) : GuestNmiOp → Bool
  | .iret => blocked && (info.nmiExiting && !info.virtualNmis)
  | .nmiWindow => blocked || !info.nmiExiting
  | _ => blocked

def l2NmiMachine : Machine L2Nmi GuestNmiOp where
  init s := s = ⟨guestNmiStart, false, false⟩
  step s op := (s.nmi.step op).map fun nmi =>
    match s.nmi.l2 with
    | none =>
      { s with
        nmi
        blocked := if nmi.l2.isSome then enteredBlocked s.blocked op else s.blocked }
    | some (info, vmcs02) =>
      { nmi
        blocked := keptBlocked info s.blocked op
        vmcs12 := if nmi.l2.isNone then blocking12 info vmcs02 else s.vmcs12 }

/-- No step moves L2's blocking while its bit is kept aside: L1 does not inject an NMI while
XMHF has one for it (nor, with NMIs that exit and are not virtual, into an L2 that does not
block them); no NMI arrives while an injected one is not yet delivered; and L2 does not
end a blocking that is kept aside. -/
def Undisturbed (s : L2Nmi) : GuestNmiOp → Prop
  | .nestedEntry vmcs12 => vmcs12.injectsNmi = true →
      if vmcs12.virtualNmis then s.nmi.nmiPending = false else vmcs12.blockNmi = true
  | .nmi => ∀ info vmcs02, s.nmi.l2 = some (info, vmcs02) → info.virtualNmis = true →
      vmcs02.injectsNmi = false
  | .iret => ∀ info vmcs02, s.nmi.l2 = some (info, vmcs02) →
      info.vmcsBlockNmiOverridden = true → info.virtualNmis = true → info.vmcsBlockNmi = false
  | _ => True

def NmiVmcs.delivered (vmcs02 : NmiVmcs) : NmiVmcs :=
  { vmcs02 with blockNmi := vmcs02.blockNmi || vmcs02.injectsNmi }

/-- The bits of `info` and `vmcs02` hold the blocking `blocked`. -/
structure BlockingHeld (blocked : Bool) (info : NmiInfo12) (vmcs02 : NmiVmcs) : Prop where
  right : blocking12 info vmcs02.delivered = blocked
  quiet : info.vmcsBlockNmiOverridden = true → info.nmiExiting = true ∧ vmcs02.injectsNmi = false
  injected : vmcs02.injectsNmi = true → blocked = true
  controls : info.nmiExiting = false → info.virtualNmis = false

section

variable {blocked : Bool} {info : NmiInfo12} {vmcs02 : NmiVmcs} {s s' : GuestNmi}

/-- What `_update_nested_nmi` leaves. -/
structure BlockingUpdated (s : GuestNmi) (blocked : Bool) (s' : GuestNmi) : Prop where
  l2 : ∃ info' vmcs02', s'.l2 = some (info', vmcs02') ∧ BlockingHeld blocked info' vmcs02'
  running : s'.running = s.running
  vectoring : s'.vectoring = s.vectoring

section

variable (holds : BlockingHeld blocked info vmcs02)

include holds

theorem BlockingHeld.updateNestedNmi
    (calm : info.virtualNmis = true → vmcs02.injectsNmi = true → s.nmiPending = false) :
    BlockingUpdated s blocked (s.updateNestedNmi info vmcs02) := by
  obtain ⟨right, quiet, injected, controls⟩ := holds
  unfold GuestNmi.updateNestedNmi
  by_cases override : (info.nmiExiting && (s.nmiPending && !info.blockNmi)) = true
  · rw [if_pos override]
    simp only [Bool.and_eq_true, Bool.not_eq_eq_eq_not, Bool.not_true] at override
    obtain ⟨exiting, pending, unblocked⟩ := override
    -- an NMI to be delivered would be one of L1's virtual NMIs, or one it blocks
    have none_ : vmcs02.injectsNmi = false := by
      by_contra injects
      have injects : vmcs02.injectsNmi = true := by simpa using injects
      cases virtual : info.virtualNmis with
      | true => exact absurd (calm virtual injects) (by simp [pending])
      | false =>
        have blocks : info.blockNmi = blocked := by
          rw [← right, blocking12, if_pos (by simp [exiting, virtual])]
        rw [injected injects, unblocked] at blocks
        cases blocks
    refine ⟨⟨_, _, rfl, ?_, ?_, ?_, ?_⟩, rfl, rfl⟩
    · rw [← right]
      unfold blocking12 NmiVmcs.delivered
      cases kept : info.vmcsBlockNmiOverridden <;> simp [none_, kept]
    · intro _
      refine ⟨?_, none_⟩
      cases kept : info.vmcsBlockNmiOverridden <;> simpa [kept] using exiting
    · exact fun injects => injected injects
    · intro off
      cases kept : info.vmcsBlockNmiOverridden <;> simp [kept, exiting] at off
  · rw [if_neg override]
    by_cases kept : info.vmcsBlockNmiOverridden = true
    · rw [if_pos kept]
      refine ⟨⟨_, _, rfl, ?_, nofun, injected, controls⟩, rfl, rfl⟩
      rw [← right]
      unfold blocking12 NmiVmcs.delivered
      simp [kept, (quiet kept).2]
    · rw [if_neg kept]
      exact ⟨⟨_, _, rfl, right, fun on => absurd on kept, injected, controls⟩, rfl, rfl⟩

theorem BlockingHeld.injectNmi (l2 : s.l2 = some (info, vmcs02))
    (calm : info.virtualNmis = true → vmcs02.injectsNmi = false) (step : s.injectNmi = some s')
    : BlockingUpdated s blocked s' := by
  have update : ∀ t : GuestNmi, t.l2 = s.l2 → t.running = s.running → t.vectoring = s.vectoring →
      BlockingUpdated s blocked t.updateNmi := by
    intro t sameL2 sameRunning sameVectoring
    unfold GuestNmi.updateNmi
    rw [sameL2, l2]
    obtain ⟨held, running, vectoring⟩ := @BlockingHeld.updateNestedNmi blocked info vmcs02 t holds
      (fun virtual injects => absurd injects (by simp [calm virtual]))
    exact ⟨held, running.trans sameRunning, vectoring.trans sameVectoring⟩
  unfold GuestNmi.injectNmi at step
  split at step
  · cases step
  split at step
  · cases step
    exact update _ rfl rfl rfl
  · cases step
    exact update _ rfl rfl rfl

theorem BlockingHeld.setNmiBlock (l2 : s.l2 = some (info, vmcs02))
    (none_ : vmcs02.injectsNmi = false) (block : Bool) :
    BlockingUpdated s blocked (s.setNmiBlock block) := by
  unfold GuestNmi.setNmiBlock GuestNmi.updateNmi
  rw [l2]
  obtain ⟨held, running, vectoring⟩ := @BlockingHeld.updateNestedNmi blocked info vmcs02
    { s with guestNmiBlock := block } holds (fun _ injects => absurd injects (by simp [none_]))
  exact ⟨held, running, vectoring⟩

end

end

structure L2Nmi.InL2 (s : L2Nmi) (info : NmiInfo12) (vmcs02 : NmiVmcs) : Prop where
  held : BlockingHeld s.blocked info vmcs02
  running : s.nmi.running = true → vmcs02.injectsNmi = false
  vectoring : s.nmi.vectoring = true → vmcs02.blockNmi = true ∧
    info.vmcsBlockNmiOverridden = false ∧ s.blocked = true

/-- L2's blocking is in VMCS02, or kept aside; when L1 runs, it is in VMCS12. -/
def L2Nmi.Inv (s : L2Nmi) : Prop :=
  match s.nmi.l2 with
  | none => s.vmcs12 = s.blocked
  | some (info, vmcs02) => s.InL2 info vmcs02

namespace L2Nmi

variable {s s' : L2Nmi} {info : NmiInfo12} {vmcs02 : NmiVmcs} {op : GuestNmiOp}

theorem inv_root (l2 : s.nmi.l2 = none) : s.Inv ↔ s.vmcs12 = s.blocked := by
  unfold Inv
  rw [l2]

theorem inv_l2 (l2 : s.nmi.l2 = some (info, vmcs02)) : s.Inv ↔ s.InL2 info vmcs02 := by
  unfold Inv
  rw [l2]

theorem InL2.exit12 (inL2 : s.InL2 info vmcs02) (running : s.nmi.running = true) :
    blocking12 info vmcs02 = s.blocked := by
  rw [← inL2.held.right]
  unfold blocking12 NmiVmcs.delivered
  rw [inL2.running running, Bool.or_false]

theorem inv_updated {blocked : Bool} (vmcs12 : Bool) (updated : BlockingUpdated nmi blocked nmi')
    (stopped : nmi.running = false) (still : nmi.vectoring = false) :
    Inv ⟨nmi', blocked, vmcs12⟩ ∧ nmi'.l2.isSome = true := by
  obtain ⟨⟨info', vmcs02', l2, held⟩, running, vectoring⟩ := updated
  refine ⟨(inv_l2 l2).mpr ⟨held, fun on => ?_, fun on => ?_⟩, by rw [l2]; rfl⟩
  · rw [running, stopped] at on
    cases on
  · rw [vectoring, still] at on
    cases on

theorem root_step (root : nmi.l2 = none) (step : nmi.step op = some nmi') :
    nmi'.l2 = none ∨ ∃ vmcs12, op = .nestedEntry vmcs12 := by
  cases op with
  | nestedEntry vmcs12 => exact .inr ⟨vmcs12, rfl⟩
  | nmi =>
    left
    simp only [GuestNmi.step, GuestNmi.injectNmi] at step
    split at step
    · cases step
    split at step <;>
    · cases step
      simp [GuestNmi.updateNmi, GuestNmi.exit, root, GuestNmi.updateNmiWindowExiting]
  | vmentry | instruction | iret =>
    left
    simp only [GuestNmi.step, Option.ite_none_left_eq_some, ite_none_right_eq_some,
      Option.some.injEq] at step
    obtain ⟨-, rfl⟩ := step
    simp [GuestNmi.enter, GuestNmi.setVmcs, root]
  | intercept | nmiBlock | nmiUnblock | hwpgtblviolation =>
    left
    obtain ⟨-, rfl⟩ := guard_some.mp step
    simp [GuestNmi.exit, GuestNmi.setNmiBlock, GuestNmi.updateNmi, GuestNmi.hwpgtblviolation,
      GuestNmi.updateNmiWindowExiting, root]
  | nmiWindow =>
    left
    simp only [GuestNmi.step, ite_none_right_eq_some] at step
    obtain ⟨-, step⟩ := step
    unfold GuestNmi.nmiWindow GuestNmi.exit at step
    rw [root] at step
    simp only [Option.ite_none_left_eq_some, Option.some.injEq] at step
    obtain ⟨-, rfl⟩ := step
    rfl
  | dbexception =>
    left
    simp only [GuestNmi.step, ite_none_right_eq_some, map_eq_some_iff] at step
    obtain ⟨-, nmimask, -, rfl⟩ := step
    exact root
  | nestedExit | eptMiss =>
    left
    simp only [GuestNmi.step, root, Option.bind_none, ite_self] at step
    cases step

theorem Inv.nestedEntry {vmcs12 : NmiVmcs12} (inv : s.Inv) (root : s.nmi.l2 = none)
    (calm : Undisturbed s (.nestedEntry vmcs12))
    (step : s.nmi.step (.nestedEntry vmcs12) = some nmi') :
    Inv { s with
      nmi := nmi'
      blocked := if nmi'.l2.isSome then vmcs12.blockNmi || vmcs12.injectsNmi else s.blocked } := by
  simp only [GuestNmi.step, ite_none_right_eq_some] at step
  obtain ⟨-, step⟩ := step
  unfold GuestNmi.handleVmentry at step
  split at step
  · -- the controls are refused
    cases step
    have off : s.nmi.exit.l2 = none := root
    rw [off]
    exact (inv_root (s := ⟨_, _, _⟩) off).mpr ((inv_root root).mp inv)
  next accepted =>
  split at step
  · cases step
  next injects =>
  cases step
  have held : BlockingHeld (vmcs12.blockNmi || vmcs12.injectsNmi)
      ⟨vmcs12.nmiExiting, vmcs12.virtualNmis, vmcs12.nmiWindowExiting,
        vmcs12.nmiExiting && !vmcs12.virtualNmis && vmcs12.blockNmi, false, false⟩
      ⟨vmcs12.blockNmi, vmcs12.shadow, false, vmcs12.injectsNmi⟩ := by
    refine ⟨?_, by rintro ⟨⟩, fun on => by simp [show vmcs12.injectsNmi = true from on], ?_⟩
    · unfold blocking12 NmiVmcs.delivered
      by_cases real : (vmcs12.nmiExiting && !vmcs12.virtualNmis) = true
      · rw [if_pos real]
        cases inject : vmcs12.injectsNmi with
        | false => simp [real]
        | true =>
          have blocks := calm inject
          simp only [Bool.and_eq_true, Bool.not_eq_eq_eq_not, Bool.not_true] at real
          rw [if_neg (by simp [real.2])] at blocks
          simp [real, blocks]
      · rw [if_neg real]
        rfl
    · intro off
      cases virtual : vmcs12.virtualNmis with
      | false => rfl
      | true => simp [show vmcs12.nmiExiting = false from off, virtual] at accepted
  have waits : vmcs12.virtualNmis = true → vmcs12.injectsNmi = true →
      s.nmi.exit.nmiPending = false := by
    intro virtual inject
    have quiet := calm inject
    rwa [if_pos virtual] at quiet
  obtain ⟨inv', on⟩ := inv_updated s.vmcs12 (held.updateNestedNmi waits) rfl rfl
  rw [if_pos on]
  exact inv'

section

variable (inL2 : s.InL2 info vmcs02)

include inL2

theorem InL2.enter (l2 : s.nmi.l2 = some (info, vmcs02)) : Inv { s with nmi := s.nmi.enter } := by
  have entered : s.nmi.enter.l2 = some (info, { vmcs02 with
      blockNmi := vmcs02.blockNmi || vmcs02.injectsNmi
      injectsNmi := false }) := by
    simp [GuestNmi.enter, GuestNmi.setVmcs, GuestNmi.vmcs, l2]
  refine (inv_l2 entered).mpr ⟨⟨?_, fun on => ⟨(inL2.held.quiet on).1, rfl⟩, by rintro ⟨⟩,
    inL2.held.controls⟩, fun _ => rfl, fun on => ?_⟩
  · rw [← inL2.held.right]
    unfold blocking12 NmiVmcs.delivered
    simp
  · have injects : vmcs02.injectsNmi = true := by
      simpa [GuestNmi.enter, GuestNmi.setVmcs, GuestNmi.vmcs, l2] using on
    refine ⟨by simp [injects], ?_, inL2.held.injected injects⟩
    cases kept : info.vmcsBlockNmiOverridden with
    | false => rfl
    | true => exact absurd (inL2.held.quiet kept).2 (by simp [injects])

theorem InL2.executed {blocked vmcs12 : Bool} (vmcs02' : NmiVmcs) (running : s.nmi.running = true)
    (l2' : nmi'.l2 = some (info, vmcs02')) (still : nmi'.vectoring = false)
    (same : vmcs02'.injectsNmi = vmcs02.injectsNmi) (right : blocking12 info vmcs02' = blocked)
    : Inv ⟨nmi', blocked, vmcs12⟩ := by
  have none_ := same.trans (inL2.running running)
  refine (inv_l2 l2').mpr ⟨⟨?_, fun on => ⟨(inL2.held.quiet on).1, none_⟩,
    fun on => ?_, inL2.held.controls⟩, fun _ => none_, fun on => ?_⟩
  · rw [← right]
    unfold blocking12 NmiVmcs.delivered
    rw [none_, Bool.or_false]
  · rw [none_] at on
    cases on
  · rw [show nmi'.vectoring = false from still] at on
    cases on

theorem InL2.iret {vmcs02' : NmiVmcs}
    (calm : info.vmcsBlockNmiOverridden = true → info.virtualNmis = true → info.vmcsBlockNmi =
      false)
    (ended : vmcs02'.blockNmi = false) (right : blocking12 info vmcs02 = s.blocked) :
    blocking12 info vmcs02' = keptBlocked info s.blocked .iret := by
  unfold keptBlocked
  rw [← right]
  unfold blocking12
  by_cases real : (info.nmiExiting && !info.virtualNmis) = true
  · rw [if_pos real, if_pos real, real, Bool.and_true]
  · rw [if_neg real, if_neg real, Bool.not_eq_true _ |>.mp real, Bool.and_false]
    by_cases kept : info.vmcsBlockNmiOverridden = true
    · rw [if_pos kept]
      have exiting := (inL2.held.quiet kept).1
      exact calm kept (by simpa [exiting] using real)
    · rw [if_neg kept]
      exact ended

omit inL2 in
theorem forward_root {nmiInterrupt : Bool} (step : nmi.forward info vmcs02 nmiInterrupt = some nmi') :
    nmi'.l2 = none := by
  unfold GuestNmi.forward at step
  dsimp only at step
  split at step
  · split at step
    · cases step
    · cases step
      rfl
  · cases step
    rfl

theorem InL2.forwarded (running : s.nmi.running = true) (root : nmi'.l2 = none) :
    Inv ⟨nmi', s.blocked, if nmi'.l2.isNone then blocking12 info vmcs02 else s.vmcs12⟩ := by
  rw [inv_root root, root]
  exact inL2.exit12 running

theorem InL2.step (l2 : s.nmi.l2 = some (info, vmcs02)) (calm : Undisturbed s op)
    (step : s.nmi.step op = some nmi') :
    Inv ⟨nmi', keptBlocked info s.blocked op,
      if nmi'.l2.isNone then blocking12 info vmcs02 else s.vmcs12⟩ := by
  cases op with
  | nmi =>
    exact (inv_updated _ (inL2.held.injectNmi (s := s.nmi.exit) l2 (calm info vmcs02 l2) step)
      rfl rfl).1
  | vmentry =>
    obtain ⟨-, rfl⟩ := unless_some.mp step
    have on : s.nmi.enter.l2.isNone = false := by
      simp [GuestNmi.enter, GuestNmi.setVmcs, l2]
    rw [on]
    exact inL2.enter l2
  | instruction shadow =>
    obtain ⟨executes, rfl⟩ := guard_some.mp step
    obtain ⟨running, -, -⟩ := GuestNmi.executes_iff.mp executes
    refine inL2.executed { vmcs02 with shadow := shadow } running ?_ ?_ rfl ?_
    · simp [GuestNmi.setVmcs, GuestNmi.vmcs, l2]
    · simp [GuestNmi.setVmcs, l2]
    · exact inL2.exit12 running
  | iret =>
    obtain ⟨executes, rfl⟩ := guard_some.mp step
    obtain ⟨running, -, -⟩ := GuestNmi.executes_iff.mp executes
    refine inL2.executed { vmcs02 with blockNmi := false, shadow := false } running ?_ ?_
      rfl ?_
    · simp [GuestNmi.setVmcs, GuestNmi.vmcs, l2]
    · simp [GuestNmi.setVmcs, l2]
    · exact inL2.iret (calm info vmcs02 l2) rfl (inL2.exit12 running)
  | intercept =>
    obtain ⟨executes, rfl⟩ := guard_some.mp step
    exact (inv_l2 (s := ⟨s.nmi.exit, _, _⟩) l2).mpr ⟨inL2.held, by rintro ⟨⟩, by rintro ⟨⟩⟩
  | nmiWindow =>
    simp only [GuestNmi.step, ite_none_right_eq_some, Bool.and_eq_true] at step
    obtain ⟨⟨running, -⟩, step⟩ := step
    unfold GuestNmi.nmiWindow at step
    rw [show s.nmi.exit.l2 = some (info, vmcs02) from l2] at step
    dsimp only at step
    by_cases exiting : info.nmiExiting = true
    · -- L1 is given the window, or the NMI
      have same : keptBlocked info s.blocked .nmiWindow = s.blocked := by
        simp [keptBlocked, exiting]
      rw [if_pos exiting] at step
      rw [same]
      split at step
      · exact inL2.forwarded running (forward_root step)
      split at step
      · exact inL2.forwarded running (forward_root step)
      · cases step
    · have off : info.nmiExiting = false := by simpa using exiting
      have same : keptBlocked info s.blocked .nmiWindow = true := by simp [keptBlocked, off]
      rw [if_neg exiting] at step
      rw [same]
      split at step
      · cases step
      cases step
      have plain : info.vmcsBlockNmiOverridden = false := by
        by_contra kept
        exact exiting (inL2.held.quiet (by simpa using kept)).1
      have held : BlockingHeld true info { vmcs02 with injectsNmi := true } := by
        refine ⟨?_, fun on => absurd on (by simp [plain]), fun _ => rfl, inL2.held.controls⟩
        simp [blocking12, NmiVmcs.delivered, off, plain]
      have virtual := inL2.held.controls off
      refine (inv_updated _ (held.updateNestedNmi fun on => ?_) rfl rfl).1
      exact absurd on (by simp [virtual])
  | nmiBlock | nmiUnblock =>
    obtain ⟨executes, rfl⟩ := guard_some.mp step
    obtain ⟨running, -, -⟩ := GuestNmi.executes_iff.mp executes
    exact (inv_updated _ (inL2.held.setNmiBlock (s := s.nmi.exit) l2 (inL2.running running) _)
      rfl rfl).1
  | hwpgtblviolation | nestedEntry =>
    simp [GuestNmi.step, l2] at step
  | dbexception =>
    simp only [GuestNmi.step, ite_none_right_eq_some, map_eq_some_iff] at step
    obtain ⟨-, nmimask, -, rfl⟩ := step
    exact (inv_l2 (s := ⟨s.nmi.exit.dbexception nmimask, _, _⟩) l2).mpr ⟨inL2.held, by rintro ⟨⟩, by rintro ⟨⟩⟩
  | nestedExit =>
    simp only [GuestNmi.step, ite_none_right_eq_some, l2, bind_some] at step
    obtain ⟨executes, step⟩ := step
    exact inL2.forwarded (GuestNmi.executes_iff.mp executes).1 (forward_root step)
  | eptMiss =>
    simp only [GuestNmi.step, ite_none_right_eq_some, Bool.and_eq_true, l2, bind_some] at step
    obtain ⟨⟨-, vectoring⟩, step⟩ := step
    obtain ⟨bit, plain, blocks⟩ := inL2.vectoring vectoring
    -- the injection that is made again sets the bit again
    have again : ∀ block, Inv ⟨{ s.nmi.exit with
        l2 := some (info, { vmcs02 with blockNmi := block, injectsNmi := true }) }, s.blocked,
        s.vmcs12⟩ := by
      intro block
      refine (inv_l2 (s := ⟨_, _, _⟩) rfl).mpr ⟨⟨?_, fun on => absurd on (by simp [plain]),
        fun _ => blocks, inL2.held.controls⟩, by rintro ⟨⟩, by rintro ⟨⟩⟩
      rw [← inL2.held.right]
      simp [blocking12, NmiVmcs.delivered, bit]
    unfold GuestNmi.eptMiss at step
    rw [if_pos bit] at step
    split at step
    · cases step
      exact again false
    · cases step
      exact again vmcs02.blockNmi

end

theorem Inv.step (inv : s.Inv) (calm : Undisturbed s op)
    (step : l2NmiMachine.step s op = some s') : s'.Inv := by
  obtain ⟨nmi', next, rfl⟩ := map_eq_some_iff.mp step
  cases l2 : s.nmi.l2 with
  | some pair =>
    obtain ⟨info, vmcs02⟩ := pair
    exact ((inv_l2 l2).mp inv).step l2 calm next
  | none =>
    rcases root_step l2 next with root | ⟨vmcs12, rfl⟩
    · dsimp only
      rw [root]
      exact (inv_root root).mpr ((inv_root l2).mp inv)
    · exact inv.nestedEntry l2 calm next

end L2Nmi

/-- In runs that do not disturb a blocking that is kept aside, L1 finds in VMCS12 the blocking
that L2 would have without XMHF, and so does an L2 that runs on. -/
theorem l2_nmi_blocking_kept {s : L2Nmi} (reached : l2NmiMachine.ReachableUnder Undisturbed s) :
    (s.nmi.l2 = none → s.vmcs12 = s.blocked) ∧
      ∀ info vmcs02, s.nmi.l2 = some (info, vmcs02) → s.nmi.running = true →
        blocking12 info vmcs02 = s.blocked ∧
          (info.vmcsBlockNmiOverridden = false → (info.nmiExiting && !info.virtualNmis) = false →
            vmcs02.blockNmi = s.blocked) := by
  have inv : s.Inv := by
    refine reached.invariant ?_ fun _ _ _ inv calm step => inv.step calm step
    rintro _ rfl
    exact (L2Nmi.inv_root rfl).mpr rfl
  refine ⟨fun root => (L2Nmi.inv_root root).mp inv, fun info vmcs02 l2 running => ?_⟩
  have right := ((L2Nmi.inv_l2 l2).mp inv).exit12 running
  refine ⟨right, fun plain real => ?_⟩
  rw [← right, blocking12, if_neg (by simp [real]), if_neg (by simp [plain])]

theorem l2_nmi_blocking_kept_sample : ∃ s, l2NmiMachine.ReachableUnder Undisturbed s ∧
    s.nmi.l2 = none ∧ s.vmcs12 = true ∧ s.vmcs12 = s.blocked := by
  have entered : l2NmiMachine.ReachableUnder Undisturbed
      ⟨⟨0, false, ⟨false, false, false, false⟩, some (⟨true, true, false, false, false, false⟩,
        ⟨true, true, false, false⟩), none, false, false, []⟩, true, false⟩ :=
    .step (.init rfl) (o := .nestedEntry ⟨true, true, false, true, true, false⟩) nofun rfl
  have arrived : l2NmiMachine.ReachableUnder Undisturbed
      ⟨⟨1, false, ⟨false, false, false, false⟩, some (⟨true, true, false, false, true, true⟩,
        ⟨false, true, true, false⟩), none, false, false, [.count]⟩, true, false⟩ := by
    refine .step entered (o := .nmi) ?_ rfl
    rintro _ _ ⟨⟩ _
    rfl
  obtain ⟨s, run, root, bit⟩ : ∃ s, l2NmiMachine.run
      ⟨⟨1, false, ⟨false, false, false, false⟩, some (⟨true, true, false, false, true, true⟩,
        ⟨false, true, true, false⟩), none, false, false, [.count]⟩, true, false⟩
      [.vmentry, .instruction false, .nmiWindow] = some s ∧ s.nmi.l2 = none ∧ s.vmcs12 = true :=
    ⟨_, rfl, rfl, rfl⟩
  have reached := arrived.run (by simp [Undisturbed]) run
  exact ⟨s, reached, root, bit, (l2_nmi_blocking_kept reached).1 root⟩

/-- L1 injects an NMI into L2, and one for L1 arrives before L2 runs. L2 exits from its NMI
handler, and VMCS12 tells L1 that it does not block NMIs. -/
theorem l2_nmi_blocking_lost : ∃ s, l2NmiMachine.run ⟨guestNmiStart, false, false⟩
    [.nestedEntry ⟨true, true, false, false, false, true⟩, .nmi, .vmentry, .instruction false,
      .nestedExit] = some s ∧ s.nmi.l2 = none ∧ s.blocked = true ∧ s.vmcs12 = false :=
  ⟨_, rfl, rfl, rfl, rfl⟩

end Xmhf
