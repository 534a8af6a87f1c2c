import Mathlib.Data.List.Count
import Xmhf.Lib.Machine

/-!
# Pending NMIs of the guest

XMHF counts the NMIs that wait for the guest in `guest_nmi_pending` and asks for an NMI-window
exit to deliver them. The count may be two while the guest does not block NMIs, and one while
it does (`xmhf-baseplatform-arch-x86.h`); what blocks NMIs is changed by the guest itself, by
the single-stepping of LAPIC accesses, and by nested entries and exits.

One CPU is modelled between its VM exits and VM entries. A handler is one step: the NMIs that
arrive meanwhile are counted at its end, when it has written the VMCS. Of a VMCS, only what
concerns NMIs is kept.
-/

namespace Xmhf

open Option (elim ite_none_right_eq_some)

structure NmiVmcs where
  /-- `VMX_GUEST_INTR_BLOCK_NMI` of `guest_interruptibility` -/
  blockNmi : Bool
  /-- `VMX_GUEST_INTR_BLOCK_STI` or `VMX_GUEST_INTR_BLOCK_MOVSS` -/
  shadow : Bool
  nmiWindowExiting : Bool
  /-- `control_VM_entry_interruption_information` injects an NMI. -/
  injectsNmi : Bool
  deriving DecidableEq, Repr

/-- The fields of `vmcs12_info_t` that concern NMIs. -/
structure NmiInfo12 where
  nmiExiting : Bool
  virtualNmis : Bool
  nmiWindowExiting : Bool
  blockNmi : Bool
  vmcsBlockNmiOverridden : Bool
  vmcsBlockNmi : Bool
  deriving DecidableEq, Repr

structure NmiVmcs12 where
  nmiExiting : Bool
  virtualNmis : Bool
  nmiWindowExiting : Bool
  blockNmi : Bool
  shadow : Bool
  injectsNmi : Bool
  deriving DecidableEq, Repr

/-- L2 starts with the blocking of NMIs that the limit depends on. -/
def NmiVmcs12.blocksNmi (vmcs12 : NmiVmcs12) : Bool :=
  vmcs12.blockNmi && !(vmcs12.nmiExiting && vmcs12.virtualNmis)

/-- An NMI is counted, not counted because the count is at its limit, or delivered. -/
inductive GuestNmiEvent where
  | count
  | merge (pending : Nat)
  | deliver
  deriving DecidableEq, Repr

structure GuestNmi where
  guestNmiPending : Nat
  guestNmiBlock : Bool
  vmcs01 : NmiVmcs
  /-- In L2 operation, the current VMCS12 and the VMCS02. -/
  l2 : Option (NmiInfo12 × NmiVmcs)
  /-- `g_vmx_lapic_guest_intr_nmimask`, while a LAPIC access is single-stepped -/
  lapicNmimask : Option Bool
  running : Bool
  /-- The last VM entry injects an NMI, and no instruction was executed since. -/
  vectoring : Bool
  log : List GuestNmiEvent
  deriving DecidableEq, Repr

inductive GuestNmiOp where
  /-- An NMI arrives that is not for quiescing. -/
  | nmi
  | vmentry
  | instruction (shadow : Bool)
  | iret
  /-- An exit whose handler changes nothing here. -/
  | intercept
  | nmiWindow
  | nmiBlock
  | nmiUnblock
  /-- The EPT violation of a LAPIC access, and the debug exception after it. -/
  | hwpgtblviolation
  | dbexception
  /-- VMLAUNCH or VMRESUME -/
  | nestedEntry (vmcs12 : NmiVmcs12)
  /-- An exit of L2 that L1 is given. -/
  | nestedExit
  /-- An exit of L2 in which XMHF fills the EPT02, while the event injected is delivered. -/
  | eptMiss
  deriving DecidableEq, Repr

namespace GuestNmi

def vmcs (s : GuestNmi) : NmiVmcs := s.l2.elim s.vmcs01 Prod.snd

def setVmcs (s : GuestNmi) (vmcs : NmiVmcs) : GuestNmi :=
  match s.l2 with
  | none => { s with vmcs01 := vmcs }
  | some (info, _) => { s with l2 := some (info, vmcs) }

def nmiPending (s : GuestNmi) : Bool := !s.guestNmiBlock && 0 < s.guestNmiPending

/-- `xmhf_smpguest_arch_x86vmx_update_nmi_window_exiting` -/
def updateNmiWindowExiting (s : GuestNmi) : GuestNmi :=
  { s with vmcs01 := { s.vmcs01 with nmiWindowExiting := s.nmiPending } }

def updateNestedNmi (s : GuestNmi) (info : NmiInfo12) (vmcs02 : NmiVmcs) : GuestNmi :=
  let overrideNmiBlocking := info.nmiExiting && (s.nmiPending && !info.blockNmi)
  let nmiWindowing :=
    if info.nmiExiting then overrideNmiBlocking || info.nmiWindowExiting else s.nmiPending
  let vmcs02 := { vmcs02 with nmiWindowExiting := nmiWindowing }
  if overrideNmiBlocking then
    let info := if info.vmcsBlockNmiOverridden then info else
      { info with vmcsBlockNmiOverridden := true, vmcsBlockNmi := vmcs02.blockNmi }
    { s with l2 := some (info, { vmcs02 with blockNmi := false }) }
  else if info.vmcsBlockNmiOverridden then
    { s with l2 := some ({ info with vmcsBlockNmiOverridden := false },
      { vmcs02 with blockNmi := info.vmcsBlockNmi }) }
  else { s with l2 := some (info, vmcs02) }

/-- The NMI window in the VMCS that the CPU runs its guest with. -/
def updateNmi (s : GuestNmi) : GuestNmi :=
  match s.l2 with
  | none => s.updateNmiWindowExiting
  | some (info, vmcs02) => s.updateNestedNmi info vmcs02

/-- `nmi_pending_limit` of `xmhf_smpguest_arch_x86vmx_inject_nmi` -/
def nmiPendingLimit01 (vmcs01 : NmiVmcs) : Nat :=
  if vmcs01.blockNmi || vmcs01.injectsNmi then 1 else 2

/-- `nmi_pending_limit` of `xmhf_nested_arch_x86vmx_handle_nmi` -/
def nmiPendingLimit02 (info : NmiInfo12) (vmcs02 : NmiVmcs) : Nat :=
  if info.nmiExiting then if info.blockNmi then 1 else 2
  else
    let blocked := if info.vmcsBlockNmiOverridden then info.vmcsBlockNmi else vmcs02.blockNmi
    if blocked || vmcs02.injectsNmi then 1 else 2

def nmiPendingLimit (s : GuestNmi) : Nat :=
  s.l2.elim (nmiPendingLimit01 s.vmcs01) fun l2 => nmiPendingLimit02 l2.1 l2.2

/-- `xmhf_smpguest_arch_x86vmx_inject_nmi` and `xmhf_nested_arch_x86vmx_handle_nmi` -/
def injectNmi (s : GuestNmi) : Option GuestNmi :=
  if s.nmiPendingLimit < s.guestNmiPending then none
  else if s.guestNmiPending < s.nmiPendingLimit then
    some ({ s with
      guestNmiPending := s.guestNmiPending + 1
      log := .count :: s.log }).updateNmi
  else some ({ s with log := .merge s.guestNmiPending :: s.log }).updateNmi

/-- The hardware exits before the next instruction of the guest. -/
def windowOpen (s : GuestNmi) : Bool :=
  s.vmcs.nmiWindowExiting && !s.vmcs.blockNmi && !s.vmcs.shadow

/-- The guest can execute an instruction of its own choice. -/
def executes (s : GuestNmi) : Bool := s.running && !s.windowOpen && s.lapicNmimask = none

def exit (s : GuestNmi) : GuestNmi := { s with running := false, vectoring := false }

/-- A VM entry, which delivers an NMI if it injects one. -/
def enter (s : GuestNmi) : GuestNmi :=
  let s := { s with running := true, vectoring := s.vmcs.injectsNmi }
  s.setVmcs { s.vmcs with blockNmi := s.vmcs.blockNmi || s.vmcs.injectsNmi, injectsNmi := false }

def deliverNmi (s : GuestNmi) : GuestNmi :=
  { s with guestNmiPending := s.guestNmiPending - 1, log := .deliver :: s.log }

/-- The part of `handle_vmexit20_forward` that concerns NMIs, with
`_vmcs02_to_vmcs12_guest_interruptibility` in it. -/
def forward (s : GuestNmi) (info : NmiInfo12) (vmcs02 : NmiVmcs) (nmiInterrupt : Bool) :
    Option GuestNmi :=
  let val := if info.vmcsBlockNmiOverridden then info.vmcsBlockNmi else vmcs02.blockNmi
  let blockNmi := if info.nmiExiting then info.blockNmi else val
  let s := { s with l2 := none }
  if nmiInterrupt then
    let s := { s with vmcs01 := { s.vmcs01 with blockNmi := true, shadow := false } }
    if s.guestNmiPending = 0 then none else some s.deliverNmi.updateNmiWindowExiting
  else
    some { s with vmcs01 := { s.vmcs01 with blockNmi := blockNmi, shadow := false } }
      |>.map updateNmiWindowExiting

/-- The NMI-window exit: of `xmhf_parteventhub_arch_x86vmx_intercept_handler`, and
`handle_vmexit20_nmi_window`. -/
def nmiWindow (s : GuestNmi) : Option GuestNmi :=
  match s.l2 with
  | none =>
    if s.guestNmiPending = 0 || !s.vmcs01.nmiWindowExiting then none
    else
      let s := s.deliverNmi
      some { s with vmcs01 := { s.vmcs01 with injectsNmi := true } }.updateNmiWindowExiting
  | some (info, vmcs02) =>
    if info.nmiExiting then
      if info.nmiWindowExiting then s.forward info vmcs02 false
      else if s.nmiPending && !info.blockNmi then s.forward info vmcs02 true
      else none
    else if s.guestNmiPending = 0 then none
    else some (s.deliverNmi.updateNestedNmi info { vmcs02 with injectsNmi := true })

/-- `xmhf_smpguest_arch_x86vmx_nmi_block` and `xmhf_smpguest_arch_x86vmx_nmi_unblock` -/
def setNmiBlock (s : GuestNmi) (block : Bool) : GuestNmi :=
  ({ s with guestNmiBlock := block }).updateNmi

/-- The NMI blocking of `xmhf_smpguest_arch_x86vmx_eventhandler_hwpgtblviolation` -/
def hwpgtblviolation (s : GuestNmi) : GuestNmi :=
  { s with
    lapicNmimask := some s.vmcs01.blockNmi
    vmcs01 := { s.vmcs01 with blockNmi := true } }

/-- The NMI blocking of `xmhf_smpguest_arch_x86vmx_eventhandler_dbexception` -/
def dbexception (s : GuestNmi) (nmimask : Bool) : GuestNmi :=
  { s with
    lapicNmimask := none
    vmcs01 := { s.vmcs01 with blockNmi := nmimask } }

/-- The NMI part of `xmhf_nested_arch_x86vmx_handle_vmentry`: the checks of
`_vmcs12_to_vmcs02_ctls`, which fail the entry or halt, then
`_vmcs12_to_vmcs02_guest_interruptibility` and `_update_nested_nmi`. -/
def handleVmentry (s : GuestNmi) (vmcs12 : NmiVmcs12) : Option GuestNmi :=
  if !vmcs12.nmiExiting && vmcs12.virtualNmis ||
      !vmcs12.virtualNmis && vmcs12.nmiWindowExiting then some s
  else if !vmcs12.nmiExiting && vmcs12.injectsNmi then none
  else
    some (s.updateNestedNmi
      { nmiExiting := vmcs12.nmiExiting
        virtualNmis := vmcs12.virtualNmis
        nmiWindowExiting := vmcs12.nmiWindowExiting
        blockNmi := vmcs12.nmiExiting && !vmcs12.virtualNmis && vmcs12.blockNmi
        vmcsBlockNmiOverridden := false
        vmcsBlockNmi := false }
      { blockNmi := vmcs12.blockNmi
        shadow := vmcs12.shadow
        nmiWindowExiting := false
        injectsNmi := vmcs12.injectsNmi })

/-- The NMI part of the EPT-violation handler of L2: the NMI in delivery is injected again. -/
def eptMiss (s : GuestNmi) (info : NmiInfo12) (vmcs02 : NmiVmcs) : Option GuestNmi :=
  if info.virtualNmis then
    if vmcs02.blockNmi then
      some { s with l2 := some (info, { vmcs02 with blockNmi := false, injectsNmi := true }) }
    else none
  else some { s with l2 := some (info, { vmcs02 with injectsNmi := true }) }

def step (s : GuestNmi) : GuestNmiOp → Option GuestNmi
  | .nmi => s.exit.injectNmi
  | .vmentry => if s.running then none else some s.enter
  | .instruction shadow =>
    if s.executes then some ({ s with vectoring := false }.setVmcs { s.vmcs with shadow := shadow })
    else none
  | .iret =>
    if s.executes then
      some ({ s with vectoring := false }.setVmcs { s.vmcs with blockNmi := false, shadow := false })
    else none
  | .intercept => if s.executes then some s.exit else none
  | .nmiWindow => if s.running && s.windowOpen then s.exit.nmiWindow else none
  | .nmiBlock => if s.executes then some (s.exit.setNmiBlock true) else none
  | .nmiUnblock => if s.executes then some (s.exit.setNmiBlock false) else none
  | .hwpgtblviolation =>
    if s.executes && s.l2.isNone then some s.exit.hwpgtblviolation else none
  | .dbexception =>
    if s.running then s.lapicNmimask.map fun nmimask => s.exit.dbexception nmimask else none
  | .nestedEntry vmcs12 => if s.executes && s.l2.isNone then s.exit.handleVmentry vmcs12 else none
  | .nestedExit =>
    if s.executes then s.l2.bind fun (info, vmcs02) => s.exit.forward info vmcs02 false else none
  | .eptMiss =>
    if s.running && s.vectoring then s.l2.bind fun (info, vmcs02) => s.exit.eptMiss info vmcs02
    else none

end GuestNmi

/-- A guest starts with no NMI pending and none blocked. -/
def guestNmiStart : GuestNmi :=
  ⟨0, false, ⟨false, false, false, false⟩, none, none, true, false, []⟩

def guestNmiMachine : Machine GuestNmi GuestNmiOp where
  init s := s = guestNmiStart
  step := GuestNmi.step

namespace GuestNmi

variable {s s' : GuestNmi} {info : NmiInfo12} {vmcs02 : NmiVmcs}

/-- What holds whether or not the NMI window is up to date. -/
structure Core (s : GuestNmi) : Prop where
  limit : s.guestNmiPending ≤ s.nmiPendingLimit
  injected : s.running = true → s.vmcs.injectsNmi = false
  vectoring : s.vectoring = true → s.vmcs.blockNmi = true
  lapic : s.lapicNmimask.isSome = true → s.l2 = none ∧ s.vmcs01.blockNmi = true
  l2 : ∀ info vmcs02, s.l2 = some (info, vmcs02) → s.vmcs01.injectsNmi = false ∧
    (info.nmiExiting = false → info.vmcsBlockNmiOverridden = false ∧ info.virtualNmis = false) ∧
    (info.nmiWindowExiting = true → info.blockNmi = false)
  counted : s.log.count .count = s.guestNmiPending + s.log.count .deliver
  merged : ∀ pending, .merge pending ∈ s.log → 0 < pending

def wantsWindow (s : GuestNmi) : Bool :=
  s.l2.elim s.nmiPending fun (info, _) =>
    if info.nmiExiting then s.nmiPending && !info.blockNmi || info.nmiWindowExiting
    else s.nmiPending

structure Inv (s : GuestNmi) : Prop extends s.Core where
  window : s.vmcs.nmiWindowExiting = s.wantsWindow

theorem nmiPendingLimit_bounds (s : GuestNmi) :
    0 < s.nmiPendingLimit ∧ s.nmiPendingLimit ≤ 2 := by
  rw [nmiPendingLimit]
  cases s.l2 with
  | none =>
    simp only [elim, nmiPendingLimit01]
    split <;> decide
  | some l2 =>
    simp only [elim, nmiPendingLimit02]
    repeat' split
    all_goals decide

theorem updateNestedNmi_eq (s : GuestNmi) (info : NmiInfo12) (vmcs02 : NmiVmcs)
    (plain : info.nmiExiting = false → info.vmcsBlockNmiOverridden = false) :
    ∃ overridden saved block, s.updateNestedNmi info vmcs02 = { s with
      l2 := some ({ info with vmcsBlockNmiOverridden := overridden, vmcsBlockNmi := saved },
        { vmcs02 with
          nmiWindowExiting :=
            if info.nmiExiting then s.nmiPending && !info.blockNmi || info.nmiWindowExiting
            else s.nmiPending
          blockNmi := block }) } ∧
      (info.nmiExiting = false → overridden = false ∧ block = vmcs02.blockNmi) := by
  obtain ⟨exiting, virtualNmis, window, blockNmi, overridden, saved⟩ := info
  cases exiting with
  | false =>
    obtain rfl : overridden = false := plain rfl
    exact ⟨false, saved, vmcs02.blockNmi, rfl, fun _ => ⟨rfl, rfl⟩⟩
  | true =>
    refine ⟨s.nmiPending && !blockNmi,
      if (s.nmiPending && !blockNmi) && !overridden then vmcs02.blockNmi else saved,
      if s.nmiPending && !blockNmi then false else if overridden then saved else vmcs02.blockNmi,
      ?_, nofun⟩
    cases pending : s.nmiPending <;> cases blockNmi <;> cases overridden <;>
      simp [updateNestedNmi, pending]

theorem updateNmi_pending (s : GuestNmi) : s.updateNmi.guestNmiPending = s.guestNmiPending := by
  rw [updateNmi]
  cases s.l2 with
  | none => rfl
  | some pair =>
    simp only [updateNestedNmi]
    repeat' split
    all_goals rfl

theorem Core.updateNestedNmi (core : Core { s with l2 := some (info, vmcs02) })
    (stopped : s.running = false) (still : s.vectoring = false) :
    (s.updateNestedNmi info vmcs02).Inv := by
  obtain ⟨free, plain, window⟩ := core.l2 info vmcs02 rfl
  obtain ⟨overridden, saved, block, eq, same⟩ :=
    updateNestedNmi_eq s info vmcs02 fun exiting => (plain exiting).1
  rw [eq]
  refine ⟨⟨?_, fun running => ?_, fun vectoring => ?_, fun some_ => ?_, ?_, core.counted,
    core.merged⟩, rfl⟩
  · refine Nat.le_trans core.limit (Nat.le_of_eq ?_)
    change nmiPendingLimit02 info vmcs02 = nmiPendingLimit02 _ _
    cases exiting : info.nmiExiting with
    | true => simp [nmiPendingLimit02, exiting]
    | false =>
      obtain ⟨rfl, rfl⟩ := same exiting
      simp [nmiPendingLimit02, exiting, (plain exiting).1]
  · exact absurd (running.symm.trans stopped) (by decide)
  · exact absurd (vectoring.symm.trans still) (by decide)
  · cases (core.lapic some_).1
  · intro info' vmcs' at_
    cases at_
    exact ⟨free, fun exiting => ⟨(same exiting).1, (plain exiting).2⟩, window⟩

theorem Core.updateNmiWindowExiting (core : s.Core) (root : s.l2 = none) :
    s.updateNmiWindowExiting.Inv := by
  have vmcs : s.vmcs = s.vmcs01 := by rw [GuestNmi.vmcs, root]; rfl
  have vmcs' : s.updateNmiWindowExiting.vmcs = s.updateNmiWindowExiting.vmcs01 := by
    rw [GuestNmi.vmcs, GuestNmi.updateNmiWindowExiting, root]
    rfl
  refine ⟨⟨?_, ?_, ?_, core.lapic, fun info vmcs02 at_ => ?_, core.counted, core.merged⟩, ?_⟩
  · refine Nat.le_trans core.limit (Nat.le_of_eq ?_)
    simp only [nmiPendingLimit, GuestNmi.updateNmiWindowExiting, root]
    rfl
  · intro running
    have injected := core.injected running
    rw [vmcs] at injected
    exact vmcs' ▸ injected
  · intro vectoring
    have blocked := core.vectoring vectoring
    rw [vmcs] at blocked
    exact vmcs' ▸ blocked
  · rw [show s.l2 = some (info, vmcs02) from at_] at root
    cases root
  · rw [vmcs', wantsWindow]
    simp only [GuestNmi.updateNmiWindowExiting, root]
    rfl

theorem Core.updateNmi (core : s.Core) (stopped : s.running = false) (still : s.vectoring = false) :
    s.updateNmi.Inv := by
  rw [GuestNmi.updateNmi]
  cases l2 : s.l2 with
  | none => exact core.updateNmiWindowExiting l2
  | some pair =>
    obtain ⟨info, vmcs02⟩ := pair
    refine Core.updateNestedNmi ?_ stopped still
    rw [← l2]
    exact core

theorem Core.exit (core : s.Core) : s.exit.Core :=
  ⟨core.limit, nofun, nofun, core.lapic, core.l2, core.counted, core.merged⟩

theorem Inv.exit (inv : s.Inv) : s.exit.Inv := ⟨inv.toCore.exit, inv.window⟩

theorem Core.injectNmi (core : s.Core) (stopped : s.running = false) (still : s.vectoring = false) :
    ∃ s', s.injectNmi = some s' ∧ s'.Inv := by
  rw [GuestNmi.injectNmi, if_neg (Nat.not_lt.mpr core.limit)]
  split
  · next room =>
    refine ⟨_, rfl, Core.updateNmi ⟨room, core.injected, core.vectoring, core.lapic, core.l2, ?_,
      ?_⟩ stopped still⟩
    · have counted := core.counted
      simp
      omega
    · intro pending mem
      exact core.merged pending (by simpa using mem)
  · next full =>
    refine ⟨_, rfl, Core.updateNmi ⟨core.limit, core.injected, core.vectoring, core.lapic, core.l2,
      ?_, ?_⟩ stopped still⟩
    · have counted := core.counted
      simpa [List.count_cons] using counted
    · intro pending mem
      rcases List.mem_cons.mp mem with same | mem
      · cases same
        have pos := s.nmiPendingLimit_bounds.1
        omega
      · exact core.merged pending mem

theorem nmiPendingLimit01_le {vmcs vmcs' : NmiVmcs}
    (blocked : (vmcs'.blockNmi || vmcs'.injectsNmi) = true →
      (vmcs.blockNmi || vmcs.injectsNmi) = true) :
    nmiPendingLimit01 vmcs ≤ nmiPendingLimit01 vmcs' := by
  rw [nmiPendingLimit01, nmiPendingLimit01]
  cases now : vmcs'.blockNmi || vmcs'.injectsNmi with
  | true => exact Nat.le_of_eq (by rw [blocked now])
  | false => split <;> decide

theorem nmiPendingLimit02_le {vmcs vmcs' : NmiVmcs}
    (plain : info.nmiExiting = false → info.vmcsBlockNmiOverridden = false)
    (blocked : (vmcs'.blockNmi || vmcs'.injectsNmi) = true →
      (vmcs.blockNmi || vmcs.injectsNmi) = true) :
    nmiPendingLimit02 info vmcs ≤ nmiPendingLimit02 info vmcs' := by
  cases exiting : info.nmiExiting with
  | true => simp [nmiPendingLimit02, exiting]
  | false =>
    simp only [nmiPendingLimit02, exiting, plain exiting]
    exact nmiPendingLimit01_le blocked

theorem Inv.setVmcs (inv : s.Inv) {vmcs : NmiVmcs} {running vectoring : Bool}
    (window : vmcs.nmiWindowExiting = s.vmcs.nmiWindowExiting)
    (blocked : (vmcs.blockNmi || vmcs.injectsNmi) = true →
      (s.vmcs.blockNmi || s.vmcs.injectsNmi) = true)
    (injected : running = true → vmcs.injectsNmi = false)
    (still : vectoring = true → vmcs.blockNmi = true)
    (lapic : s.lapicNmimask.isSome = true → vmcs.blockNmi = true) :
    Inv ({ s with running := running, vectoring := vectoring }.setVmcs vmcs) := by
  have limit := inv.limit
  have wants := window.trans inv.window
  rw [nmiPendingLimit] at limit
  rw [wantsWindow] at wants
  rw [GuestNmi.setVmcs]
  cases l2 : s.l2 with
  | none =>
    rw [l2] at limit wants
    rw [GuestNmi.vmcs, l2] at blocked
    exact ⟨⟨Nat.le_trans limit (nmiPendingLimit01_le blocked), injected, still,
      fun some_ => ⟨rfl, lapic some_⟩, by rintro _ _ ⟨⟩, inv.counted, inv.merged⟩, wants⟩
  | some pair =>
    obtain ⟨info, vmcs02⟩ := pair
    obtain ⟨free, plain, open_⟩ := inv.l2 info vmcs02 l2
    rw [l2] at limit wants
    rw [GuestNmi.vmcs, l2] at blocked
    refine ⟨⟨?_, injected, still, fun some_ => ?_, ?_, inv.counted, inv.merged⟩, wants⟩
    · exact Nat.le_trans limit (nmiPendingLimit02_le (fun exiting => (plain exiting).1) blocked)
    · rw [(inv.lapic some_).1] at l2
      cases l2
    · intro info' vmcs' at_
      cases at_
      exact ⟨free, plain, open_⟩

theorem Inv.enter (inv : s.Inv) : s.enter.Inv := by
  refine inv.setVmcs rfl ?_ (fun _ => rfl) ?_ ?_
  · intro blocked
    rw [Bool.or_false] at blocked
    exact blocked
  · intro injects
    exact Bool.or_eq_true_iff.mpr (.inr injects)
  · intro lapic
    obtain ⟨root, blocked⟩ := inv.lapic lapic
    refine Bool.or_eq_true_iff.mpr (.inl ?_)
    rw [GuestNmi.vmcs, root]
    exact blocked

theorem of_false {b : Bool} {p : Prop} (off : b = false) (on : b = true) : p :=
  absurd (on.symm.trans off) nofun

section

variable (inv : s.Inv) (stopped : s.running = false) (still : s.vectoring = false)

include inv stopped still

theorem Inv.forward (l2 : s.l2 = some (info, vmcs02)) (injects : vmcs02.injectsNmi = false)
    (nmiInterrupt : Bool) (pending : nmiInterrupt = true → 0 < s.guestNmiPending) :
    ∃ s', s.forward info vmcs02 nmiInterrupt = some s' ∧ s'.Inv := by
  obtain ⟨free, plain, -⟩ := inv.l2 info vmcs02 l2
  have lapic : s.lapicNmimask.isSome = false := by
    by_contra some_
    rw [(inv.lapic (Bool.not_eq_false _ ▸ some_)).1] at l2
    cases l2
  have few := Nat.le_trans inv.limit s.nmiPendingLimit_bounds.2
  have limit := inv.limit
  rw [nmiPendingLimit, l2] at limit
  have counted := inv.counted
  cases nmiInterrupt with
  | true =>
    have pos := pending rfl
    rw [GuestNmi.forward, if_pos rfl, if_neg (Nat.ne_of_gt pos)]
    refine ⟨_, rfl, Core.updateNmiWindowExiting ⟨?_, of_false stopped, of_false still,
      of_false lapic, by rintro _ _ ⟨⟩, ?_, fun pending mem => ?_⟩ rfl⟩
    · change s.guestNmiPending - 1 ≤ 1
      omega
    · simp [deliverNmi]
      omega
    · exact inv.merged pending (by simpa [deliverNmi] using mem)
  | false =>
    refine ⟨_, rfl, Core.updateNmiWindowExiting ⟨?_, of_false stopped, of_false still,
      of_false lapic, by rintro _ _ ⟨⟩, counted, inv.merged⟩ rfl⟩
    · refine Nat.le_trans limit (Nat.le_of_eq ?_)
      change nmiPendingLimit02 info vmcs02 = nmiPendingLimit01 _
      cases exiting : info.nmiExiting with
      | true => simp [nmiPendingLimit02, nmiPendingLimit01, exiting, free]
      | false => simp [nmiPendingLimit02, nmiPendingLimit01, exiting, plain exiting, injects, free]

theorem Inv.nmiWindow (open_ : s.windowOpen = true) (injects : s.vmcs.injectsNmi = false) :
    ∃ s', s.nmiWindow = some s' ∧ s'.Inv := by
  simp only [windowOpen, Bool.and_eq_true, Bool.not_eq_true'] at open_
  obtain ⟨⟨window, unblocked⟩, -⟩ := open_
  have wants := inv.window.symm.trans window
  have pos (pending : s.nmiPending = true) : 0 < s.guestNmiPending := by
    simp only [nmiPending, Bool.and_eq_true, decide_eq_true_eq] at pending
    exact pending.2
  have few := Nat.le_trans inv.limit s.nmiPendingLimit_bounds.2
  have counted := inv.counted
  rw [GuestNmi.nmiWindow]
  cases l2 : s.l2 with
  | none =>
    rw [wantsWindow, l2] at wants
    rw [GuestNmi.vmcs, l2] at window
    have pos := pos wants
    have check : (s.guestNmiPending = 0 || !s.vmcs01.nmiWindowExiting) = false := by
      change s.vmcs01.nmiWindowExiting = true at window
      simp [window, Nat.ne_of_gt pos]
    simp only [check]
    refine ⟨_, rfl, Core.updateNmiWindowExiting ⟨?_, of_false stopped, of_false still,
      fun some_ => ?_, fun info vmcs02 at_ => ?_, ?_, fun pending mem => ?_⟩ l2⟩
    · simp only [deliverNmi, nmiPendingLimit, l2, elim, nmiPendingLimit01, Bool.or_true]
      change s.guestNmiPending - 1 ≤ 1
      omega
    · exact ⟨l2, (inv.lapic some_).2⟩
    · cases at_.symm.trans l2
    · simp [deliverNmi]
      omega
    · exact inv.merged pending (by simpa [deliverNmi] using mem)
  | some pair =>
    obtain ⟨info, vmcs02⟩ := pair
    obtain ⟨free, plain, openWindow⟩ := inv.l2 info vmcs02 l2
    rw [wantsWindow, l2] at wants
    rw [GuestNmi.vmcs, l2] at injects
    cases exiting : info.nmiExiting with
    | true =>
      simp only [exiting, elim, if_true] at wants ⊢
      cases l1 : info.nmiWindowExiting with
      | true =>
        exact inv.forward stopped still l2 injects false nofun
      | false =>
        simp only [l1, Bool.or_false] at wants
        simp only [Bool.false_eq_true, if_false, wants, if_true]
        exact inv.forward stopped still l2 injects true
          fun _ => pos (Bool.and_eq_true_iff.mp wants).1
    | false =>
      simp only [exiting, elim, Bool.false_eq_true, if_false] at wants ⊢
      have pos := pos wants
      rw [if_neg (Nat.ne_of_gt pos)]
      refine ⟨_, rfl, Core.updateNestedNmi ⟨?_, of_false stopped, of_false still,
        fun some_ => ?_, ?_, ?_, fun pending mem => ?_⟩ stopped still⟩
      · simp only [deliverNmi, nmiPendingLimit, elim, nmiPendingLimit02, exiting,
          Bool.or_true]
        change s.guestNmiPending - 1 ≤ 1
        omega
      · cases (inv.lapic some_).1.symm.trans l2
      · intro info' vmcs' at_
        cases at_
        exact ⟨free, plain, openWindow⟩
      · simp [deliverNmi]
        omega
      · exact inv.merged pending (by simpa [deliverNmi] using mem)

omit inv stopped still in
theorem Inv.few (inv : s.Inv) (root : s.l2 = none) (executes : s.executes = true)
    (unblocked : s.guestNmiBlock = false) (lit : s.vmcs01.shadow = false) :
    s.guestNmiPending ≤ 1 := by
  by_contra many
  have vmcs : s.vmcs = s.vmcs01 := by rw [GuestNmi.vmcs, root]; rfl
  have limit := inv.limit
  have window := inv.window
  rw [nmiPendingLimit, root] at limit
  rw [wantsWindow, root, vmcs] at window
  have open_ : s.vmcs01.blockNmi = false := by
    by_contra blocked
    rw [Bool.not_eq_false] at blocked
    simp only [elim, nmiPendingLimit01, blocked, Bool.true_or, if_true] at limit
    omega
  have pending : s.nmiPending = true := by
    simp only [nmiPending, unblocked, Bool.not_false, Bool.true_and, decide_eq_true_eq]
    omega
  simp [GuestNmi.executes, windowOpen, vmcs, open_, lit, window, pending] at executes

theorem Inv.hwpgtblviolation (root : s.l2 = none) (few : s.guestNmiPending ≤ 1) :
    s.hwpgtblviolation.Inv := by
  have window := inv.window
  rw [wantsWindow, GuestNmi.vmcs, root] at window
  refine ⟨⟨?_, of_false stopped, of_false still, fun _ => ⟨root, rfl⟩,
    fun info vmcs02 at_ => ?_, inv.counted, inv.merged⟩, ?_⟩
  · simp only [GuestNmi.hwpgtblviolation, nmiPendingLimit, root]
    exact few
  · cases at_.symm.trans root
  · simp only [GuestNmi.hwpgtblviolation, wantsWindow, GuestNmi.vmcs, root]
    exact window

theorem Inv.dbexception (lapic : s.lapicNmimask.isSome = true) (nmimask : Bool)
    : (s.dbexception nmimask).Inv := by
  obtain ⟨root, blocked⟩ := inv.lapic lapic
  have window := inv.window
  have limit := inv.limit
  rw [wantsWindow, GuestNmi.vmcs, root] at window
  rw [nmiPendingLimit, root] at limit
  refine ⟨⟨?_, of_false stopped, of_false still, nofun, fun info vmcs02 at_ => ?_,
    inv.counted, inv.merged⟩, ?_⟩
  · simp only [GuestNmi.dbexception, nmiPendingLimit, root]
    refine Nat.le_trans limit (nmiPendingLimit01_le fun _ => ?_)
    rw [blocked]
    rfl
  · cases at_.symm.trans root
  · simp only [GuestNmi.dbexception, wantsWindow, GuestNmi.vmcs, root]
    exact window

theorem Inv.handleVmentry (injects : s.vmcs01.injectsNmi = false) (lapic : s.lapicNmimask = none)
    {vmcs12 : NmiVmcs12} (few : vmcs12.blocksNmi = true → s.guestNmiPending ≤ 1)
    (step : s.handleVmentry vmcs12 = some s') : s'.Inv := by
  rw [GuestNmi.handleVmentry] at step
  split at step
  · cases step
    exact inv
  next valid =>
    split at step
    · cases step
    next allowed =>
      cases step
      have most := Nat.le_trans inv.limit s.nmiPendingLimit_bounds.2
      refine Core.updateNestedNmi ⟨?_, of_false stopped, of_false still, ?_, ?_, inv.counted,
        inv.merged⟩ stopped still
      · simp only [nmiPendingLimit, elim, nmiPendingLimit02]
        revert few valid allowed
        rw [NmiVmcs12.blocksNmi]
        cases vmcs12.nmiExiting <;> cases vmcs12.virtualNmis <;> cases vmcs12.blockNmi <;>
          cases vmcs12.injectsNmi <;> simp <;> omega
      · simp [lapic]
      · intro info vmcs02 at_
        cases at_
        refine ⟨injects, fun exiting => ⟨rfl, ?_⟩, fun window => ?_⟩
        · revert valid exiting
          cases vmcs12.nmiExiting <;> cases vmcs12.virtualNmis <;> simp
        · revert valid window
          cases vmcs12.nmiWindowExiting <;> cases vmcs12.virtualNmis <;> simp

theorem Inv.eptMiss (l2 : s.l2 = some (info, vmcs02)) (blocked : vmcs02.blockNmi = true)
    (step : s.eptMiss info vmcs02 = some s') : s'.Inv := by
  obtain ⟨free, plain, openWindow⟩ := inv.l2 info vmcs02 l2
  have window := inv.window
  have limit := inv.limit
  rw [wantsWindow, GuestNmi.vmcs, l2] at window
  rw [nmiPendingLimit, l2] at limit
  have keeps (vmcs : NmiVmcs) (same : vmcs.nmiWindowExiting = vmcs02.nmiWindowExiting) :
      Inv { s with l2 := some (info, vmcs) } := by
    refine ⟨⟨Nat.le_trans limit (nmiPendingLimit02_le (fun exiting => (plain exiting).1) ?_),
      of_false stopped, of_false still, fun some_ => ?_, ?_, inv.counted, inv.merged⟩,
      same.trans window⟩
    · intro _
      rw [blocked]
      rfl
    · cases (inv.lapic some_).1.symm.trans l2
    · intro info' vmcs' at_
      cases at_
      exact ⟨free, plain, openWindow⟩
  rw [GuestNmi.eptMiss, blocked] at step
  split at step
  · cases step
    exact keeps _ rfl
  · cases step
    exact keeps _ rfl

end

/-- When a step begins to block the guest's NMIs, the hypapp does not block them and the guest
is not in the shadow of STI or MOV SS. -/
def BlocksWhenOpen (s : GuestNmi) : GuestNmiOp → Prop
  | .hwpgtblviolation => s.guestNmiBlock = false ∧ s.vmcs01.shadow = false
  | .nestedEntry vmcs12 =>
    vmcs12.blocksNmi = true → s.guestNmiBlock = false ∧ s.vmcs01.shadow = false
  | _ => True

theorem executes_iff : s.executes = true ↔
    s.running = true ∧ s.windowOpen = false ∧ s.lapicNmimask = none := by
  simp [executes, and_assoc]

theorem Inv.setNmiBlock (inv : s.Inv) (stopped : s.running = false) (still : s.vectoring = false)
    (block : Bool) : (s.setNmiBlock block).Inv :=
  Core.updateNmi ⟨inv.limit, inv.injected, inv.vectoring, inv.lapic, inv.l2, inv.counted,
    inv.merged⟩ stopped still

theorem Inv.step (inv : s.Inv) {op : GuestNmiOp} (allowed : s.BlocksWhenOpen op)
    (step : s.step op = some s') : s'.Inv := by
  cases op with
  | nmi =>
    obtain ⟨t, next, inv⟩ := inv.exit.toCore.injectNmi rfl rfl
    cases next.symm.trans step
    exact inv
  | vmentry =>
    simp only [GuestNmi.step, Option.ite_none_left_eq_some, Option.some.injEq] at step
    exact step.2 ▸ inv.enter
  | instruction shadow =>
    obtain ⟨executes, rfl⟩ := guard_some.mp step
    obtain ⟨running, -, lapic⟩ := executes_iff.mp executes
    exact inv.setVmcs rfl id (fun _ => inv.injected running) nofun (by simp [lapic])
  | iret =>
    obtain ⟨executes, rfl⟩ := guard_some.mp step
    obtain ⟨running, -, lapic⟩ := executes_iff.mp executes
    refine inv.setVmcs rfl (fun injects => ?_) (fun _ => inv.injected running) nofun
      (by simp [lapic])
    exact Bool.or_eq_true_iff.mpr (.inr injects)
  | intercept =>
    simp only [GuestNmi.step, ite_none_right_eq_some, Option.some.injEq] at step
    exact step.2 ▸ inv.exit
  | nmiWindow =>
    simp only [GuestNmi.step, ite_none_right_eq_some, Bool.and_eq_true] at step
    obtain ⟨⟨running, open_⟩, step⟩ := step
    obtain ⟨t, next, inv⟩ := inv.exit.nmiWindow rfl rfl open_ (inv.injected running)
    cases next.symm.trans step
    exact inv
  | nmiBlock | nmiUnblock =>
    simp only [GuestNmi.step, ite_none_right_eq_some, Option.some.injEq] at step
    exact step.2 ▸ inv.exit.setNmiBlock rfl rfl _
  | hwpgtblviolation =>
    simp only [GuestNmi.step, ite_none_right_eq_some, Option.some.injEq,
      Bool.and_eq_true, Option.isNone_iff_eq_none] at step
    obtain ⟨⟨executes, root⟩, rfl⟩ := step
    exact inv.exit.hwpgtblviolation rfl rfl root (inv.few root executes allowed.1 allowed.2)
  | dbexception =>
    simp only [GuestNmi.step, ite_none_right_eq_some, Option.map_eq_some_iff] at step
    obtain ⟨-, nmimask, lapic, rfl⟩ := step
    exact inv.exit.dbexception rfl rfl (Option.isSome_of_eq_some lapic) nmimask
  | nestedEntry vmcs12 =>
    simp only [GuestNmi.step, ite_none_right_eq_some, Bool.and_eq_true,
      Option.isNone_iff_eq_none] at step
    obtain ⟨⟨executes, root⟩, step⟩ := step
    obtain ⟨running, -, lapic⟩ := executes_iff.mp executes
    have injects := inv.injected running
    rw [GuestNmi.vmcs, root] at injects
    exact inv.exit.handleVmentry rfl rfl injects lapic
      (fun blocks => inv.few root executes (allowed blocks).1 (allowed blocks).2) step
  | nestedExit =>
    simp only [GuestNmi.step, ite_none_right_eq_some, Option.bind_eq_some_iff] at step
    obtain ⟨executes, ⟨info, vmcs02⟩, l2, step⟩ := step
    have injects := inv.injected (executes_iff.mp executes).1
    rw [GuestNmi.vmcs, l2] at injects
    obtain ⟨t, next, inv⟩ := inv.exit.forward rfl rfl l2 injects false nofun
    cases next.symm.trans step
    exact inv
  | eptMiss =>
    simp only [GuestNmi.step, ite_none_right_eq_some, Bool.and_eq_true,
      Option.bind_eq_some_iff] at step
    obtain ⟨⟨-, vectoring⟩, ⟨info, vmcs02⟩, l2, step⟩ := step
    have blocked := inv.vectoring vectoring
    rw [GuestNmi.vmcs, l2] at blocked
    exact inv.exit.eptMiss rfl rfl l2 blocked step

theorem init_inv (init : guestNmiMachine.init s) : s.Inv := by
  subst init
  exact ⟨⟨by decide, fun _ => rfl, nofun, nofun, by rintro _ _ ⟨⟩, rfl, nofun⟩, rfl⟩

theorem Inv.reachable (reached : guestNmiMachine.ReachableUnder BlocksWhenOpen s) : s.Inv :=
  reached.invariant (fun _ => init_inv) fun _ _ _ inv allowed step => inv.step allowed step

theorem Core.injectNmi_zero (core : s.Core) (none_ : s.guestNmiPending = 0)
    (step : s.injectNmi = some s') : s'.guestNmiPending = 1 := by
  have room : s.guestNmiPending < s.nmiPendingLimit := none_ ▸ s.nmiPendingLimit_bounds.1
  rw [GuestNmi.injectNmi, if_neg (Nat.not_lt.mpr core.limit), if_pos room] at step
  cases step
  rw [updateNmi_pending]
  exact congrArg (· + 1) none_

end GuestNmi

/-- If the guest's NMIs begin to be blocked only while they could have been delivered, the
pending count stays within the limit, an NMI never halts, and with none pending it is counted.
What is counted is pending until it is delivered, in an NMI window that the VMCS asks for. -/
theorem guest_nmi_pending_within_limit {s : GuestNmi}
    (reached : guestNmiMachine.ReachableUnder GuestNmi.BlocksWhenOpen s) :
    s.guestNmiPending ≤ s.nmiPendingLimit ∧
      (∃ s', s.step .nmi = some s' ∧ (s.guestNmiPending = 0 → s'.guestNmiPending = 1)) ∧
      (∀ pending, .merge pending ∈ s.log → 0 < pending) ∧
      s.log.count .count = s.guestNmiPending + s.log.count .deliver ∧
      s.vmcs.nmiWindowExiting = s.wantsWindow := by
  have inv := GuestNmi.Inv.reachable reached
  obtain ⟨t, next, -⟩ := inv.toCore.exit.injectNmi rfl rfl
  have counted : s.guestNmiPending = 0 → t.guestNmiPending = 1 := fun none_ =>
    inv.toCore.exit.injectNmi_zero none_ next
  exact ⟨inv.limit, ⟨t, next, counted⟩, inv.merged, inv.counted, inv.window⟩

def sampleLapicNmiOps : List GuestNmiOp :=
  [.nmi, .vmentry, .nmi, .nmi, .vmentry, .dbexception, .vmentry, .nmiWindow, .vmentry]

theorem guest_nmi_pending_within_limit_sample : ∃ s,
    guestNmiMachine.run guestNmiStart (.hwpgtblviolation :: sampleLapicNmiOps) = some s ∧
      s.log = [.deliver, .merge 1, .merge 1, .count] ∧ s.guestNmiPending ≤ s.nmiPendingLimit := by
  have start : guestNmiMachine.ReachableUnder GuestNmi.BlocksWhenOpen
      guestNmiStart.exit.hwpgtblviolation :=
    .step (.init rfl) (o := .hwpgtblviolation) ⟨rfl, rfl⟩ rfl
  have delivered : (guestNmiMachine.run guestNmiStart.exit.hwpgtblviolation
      sampleLapicNmiOps).map (·.log) = some [.deliver, .merge 1, .merge 1, .count] := by
    decide
  obtain ⟨s, run, log⟩ := Option.map_eq_some_iff.mp delivered
  have reached := start.run (by simp [sampleLapicNmiOps, GuestNmi.BlocksWhenOpen]) run
  exact ⟨s, run, log, (guest_nmi_pending_within_limit reached).1⟩

def sampleHypappBlockOps : List GuestNmiOp :=
  [.nmiBlock, .nmi, .nmi, .vmentry, .hwpgtblviolation]

/-- Two NMIs are counted while a hypapp blocks them; in the single step of a LAPIC access the limit is
one, and the next NMI halts. -/
theorem guest_nmi_pending_over_limit : ∃ s, guestNmiMachine.Reachable s ∧
    s.guestNmiPending = 2 ∧ s.nmiPendingLimit = 1 ∧ s.step .nmi = none := by
  have run : guestNmiMachine.run guestNmiStart sampleHypappBlockOps = some
    ⟨2, true, ⟨true, false, false, false⟩, none, some false, false, false, [.count, .count]⟩ := by
    decide
  exact ⟨_, .run (.init rfl) run, by decide⟩

end Xmhf
