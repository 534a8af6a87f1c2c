import Xmhf.Eventhub.Msr
import Xmhf.Nested.ExitLoads
import Xmhf.Nested.Instructions

/-!
# MSR lists of L1

A nested entry loads the MSRs of L1's VM-entry MSR-load list for L2, and a nested exit those of
its VM-exit MSR-load list for L1 (`nested-x86vmx-vmcs12.c`). An entry of a list goes to a field of
the VMCS, to XMHF's own MSR area, or to the handlers of the event hub.

`GuestMsrs` is where the MSRs of a guest lie. The load lists are modelled here, as far as
`IA32_EFER` depends on them.
-/

namespace Xmhf

open List (foldlM_cons forall_mem_cons mem_cons mem_range nodup_range)

variable {η : Type}

def IA32_DEBUGCTL : U32 := 0x1d9

/-- Where the MSRs of a guest lie: the VMCS it runs on, the MSR area loaded at its entries,
and everything else. -/
structure GuestMsrs (η : Type) where
  vmcs : Vmcs
  area : Nat → MsrEntry
  cpu : MsrCpu η

namespace GuestMsrs

def debugSwitched (g : GuestMsrs η) : Bool := BitVec.getLsbD (g.vmcs .controlVMEntryControls) 2

/-- The areas list `IA32_EFER` and `IA32_PAT`. -/
def AreaSet (g : GuestMsrs η) : Prop :=
  (g.area 0).index = MSR_EFER ∧ (g.area 1).index = MSR_IA32_PAT

def setArea (g : GuestMsrs η) (i : Nat) (data : U64) : GuestMsrs η :=
  { g with area := Function.update g.area i { g.area i with data := data } }

theorem setArea_self (g : GuestMsrs η) (i : Nat) (data : U64) :
    ((g.setArea i data).area i).data = data := by
  exact congrArg MsrEntry.data (Function.update_self i ({ g.area i with data := data }) g.area)

end GuestMsrs

/-! ## The loops -/

/-- What the source does with an entry of a load list; both loops have this body. -/
def loadMsr (env : MsrEnv η) (g : GuestMsrs η) (msr12 : MsrEntry) : Option (GuestMsrs η) :=
  if msr12.index = IA32_SYSENTER_CS_MSR then
    some { g with vmcs := g.vmcs.vmwrite .guestSYSENTERCS (msr12.data.setWidth 32) }
  else if msr12.index = IA32_SYSENTER_EIP_MSR then
    some { g with vmcs := g.vmcs.vmwrite .guestSYSENTEREIP msr12.data }
  else if msr12.index = IA32_SYSENTER_ESP_MSR then
    some { g with vmcs := g.vmcs.vmwrite .guestSYSENTERESP msr12.data }
  -- "Not allowed, what should I do?": FS and GS base, and the x2APIC MSRs
  else if msr12.index = IA32_MSR_FS_BASE ∨ msr12.index = IA32_MSR_GS_BASE then none
  else if msr12.index &&& 0xffffff00#32 = 0x800#32 then none
  else
    match getXmhfMsr msr12.index with
    | some i => if (g.area i).index = msr12.index then some (g.setArea i msr12.data) else none
    | none =>
      (handleWrmsr env g.cpu msr12.index msr12.data).bind fun (fails, cpu) =>
        -- "WRMSR fail, what should I do?"
        if fails then none else some { g with cpu := cpu }

/-- The entry `i` of a list of L1. -/
def readMsr12 (ctx01 : HptwCtx) (mem : Mem) (ram : Pa → U8) (addr : U64) (i : Nat) :
    Option MsrEntry :=
  (guestmemCopyGp2h ctx01 mem ram 0 (addr + BitVec.ofNat 64 (16 * i)) 16).map msrEntryOfBytes

def setPatEfer01 (t : Vmexit) (g01 : GuestMsrs η) : GuestMsrs η :=
  (g01.setArea 1 t.hostIa32Pat).setArea 0 t.hostIa32Efer

/-! ## Lists -/

def lastData : List MsrEntry → U32 → Option U64
  | [], _ => none
  | msr12 :: rest, index =>
    (lastData rest index).or (if msr12.index = index then some msr12.data else none)

variable {is : List Nat} {i : Nat} {msr : U32} {vmcs' : Vmcs}

section

variable {env : MsrEnv η} {g g' : GuestMsrs η} {msr12 : MsrEntry} {index : U32}

theorem not_switched_iff (vmcs : Vmcs) :
    index ∉ switchedMsrs ↔ msrOfVmcs vmcs index = none ∧ getXmhfMsr index = none := by
  constructor
  · intro other
    exact (not_switched other).2
  · rintro ⟨noField, noEntry⟩ member
    simp only [switchedMsrs, mem_cons, List.not_mem_nil, or_false] at member
    rcases member with rfl | rfl | rfl | rfl | rfl | rfl | rfl
    · cases noEntry
    · cases noEntry
    all_goals cases noField

theorem getXmhfMsr_inj {m : U32} (first : getXmhfMsr m = some i)
    (second : getXmhfMsr index = some i) : m = index := by
  unfold getXmhfMsr at first second
  split at first
  · split at second
    · next efer efer' => rw [efer, efer']
    · split at second
      · cases first.trans second.symm
      · cases second
  · split at first
    · split at second
      · cases first.trans second.symm
      · split at second
        · next pat _ pat' => rw [pat, pat']
        · cases second
    · cases first

theorem GuestMsrs.AreaSet.named (set : g.AreaSet) (entry : getXmhfMsr msr = some i) :
    (g.area i).index = msr := by
  unfold getXmhfMsr at entry
  split at entry
  · next efer =>
    cases entry
    rw [efer]
    exact set.1
  · split at entry
    · next pat =>
      cases entry
      rw [pat]
      exact set.2
    · cases entry

theorem foldlM_read {σ ι κ : Type} {read : ι → Option κ} {step : σ → κ → Option σ} {is : List ι}
    {list : List κ} {s : σ} (listed : is.mapM read = some list) :
    is.foldlM (fun s i => (read i).bind (step s)) s = list.foldlM step s := by
  induction is generalizing list s with
  | nil =>
    cases listed
    rfl
  | cons i is ih =>
    rw [List.mapM_cons] at listed
    obtain ⟨first, found, others⟩ := Option.bind_eq_some_iff.mp listed
    obtain ⟨rest, restFound, made⟩ := Option.bind_eq_some_iff.mp others
    cases made
    rw [foldlM_cons, foldlM_cons, found]
    apply congrArg
    funext s'
    exact ih restFound

end

/-! ## Entries -/

def Vmentry.msrs (s : Vmentry (MsrCpu η)) : GuestMsrs η :=
  ⟨s.vmcs02, s.info.vmentryMsrLoadArea, s.cpu⟩

section

variable {env : MsrEnv η} {arg : VmentryArg (MsrCpu η)} {s s' : Vmentry (MsrCpu η)}
  {list : List MsrEntry}

theorem loadMsr12_eq (hub : arg.handleWrmsr = handleWrmsr env) (msr12 : MsrEntry) :
    (loadMsr12 arg s msr12).map Vmentry.msrs = loadMsr env s.msrs msr12 := by
  unfold loadMsr12 loadMsr
  split
  · rfl
  split
  · rfl
  split
  · rfl
  split
  · rfl
  split
  · rfl
  cases getXmhfMsr msr12.index with
  | some i =>
    dsimp only
    by_cases named : (s.info.vmentryMsrLoadArea i).index = msr12.index
    · rw [if_pos named, if_pos (show (s.msrs.area i).index = msr12.index from named)]
      rfl
    · rw [if_neg named, if_neg (show ¬ (s.msrs.area i).index = msr12.index from named)]
      rfl
  | none =>
    rw [hub, show s.msrs.cpu = s.cpu from rfl]
    cases handleWrmsr env s.cpu msr12.index msr12.data with
    | none => rfl
    | some result =>
      obtain ⟨fails, cpu⟩ := result
      cases fails <;> rfl

theorem loadMsrs12_eq (hub : arg.handleWrmsr = handleWrmsr env) (list : List MsrEntry) :
    (list.foldlM (loadMsr12 arg) s).map Vmentry.msrs = list.foldlM (loadMsr env) s.msrs := by
  induction list generalizing s with
  | nil => rfl
  | cons msr12 rest ih =>
    rw [foldlM_cons, foldlM_cons, ← loadMsr12_eq hub]
    cases loadMsr12 arg s msr12 with
    | none => rfl
    | some mid => exact ih

def EntryListed (arg : VmentryArg (MsrCpu η)) (list : List MsrEntry) : Prop :=
  let count : U32 := arg.vmcs12 .controlVMEntryMSRLoadCount
  (List.range count.toNat).mapM (readMsr12 arg.ctx01 arg.mem arg.ram
    (arg.vmcs12 .controlVMEntryMSRLoadAddress)) = some list

theorem vmentryMsrLoad_eq (listed : EntryListed arg list) (s : Vmentry (MsrCpu η)) :
    vmentryMsrLoad arg s = list.foldlM (loadMsr12 arg) (setPatEfer s) := by
  have step : vmentryMsrLoadStep arg = fun s i => (readMsr12 arg.ctx01 arg.mem arg.ram
      (arg.vmcs12 .controlVMEntryMSRLoadAddress) i).bind (loadMsr12 arg s) := by
    funext s i
    unfold vmentryMsrLoadStep readMsr12
    rw [Option.bind_map]
    rfl
  unfold vmentryMsrLoad Machine.run vmentryMsrLoads
  rw [step]
  exact foldlM_read listed

end

/-! ## `IA32_EFER` -/

/-- Without "load IA32_EFER" the source starts from the value that L2 was entered with, and for
a 32-bit L1 it keeps the mode bits and clears the others. -/
def EferFollowed (x : Vmexit) (l2Efer : U64) : Prop :=
  let entered := (x.info.vmentryMsrLoadArea 0).data
  let mask := eferModeMask true
  x.info.ctls12.has .vmexitLoadIa32Efer = false →
    if x.info.ctls12.has .vmexitHostAddressSpaceSize then entered ||| mask = l2Efer ||| mask
    else entered &&& mask = 0 ∧ l2Efer &&& ~~~mask = 0

theorem and_eq_and_not_iff (a b mask : U64) :
    a &&& mask = b &&& ~~~mask ↔ a &&& mask = 0 ∧ b &&& ~~~mask = 0 := by
  constructor
  · intro same
    have zero : a &&& mask = 0 := by
      calc a &&& mask = (a &&& mask) &&& mask := by rw [BitVec.and_assoc, BitVec.and_self]
        _ = (b &&& ~~~mask) &&& mask := by rw [same]
        _ = b &&& 0 := by rw [BitVec.and_assoc, BitVec.and_comm (~~~mask), BitVec.and_not_self]
        _ = 0 := BitVec.and_zero
    exact ⟨zero, same ▸ zero⟩
  · rintro ⟨first, second⟩
    rw [first, second]

theorem hostIa32Efer_iff {arg : VmexitArg} {x t : Vmexit} (exit : vmcs02ToVmcs12 arg x = some t)
    (l2Efer : U64) :
    t.hostIa32Efer = exitEfer x.info.ctls12 x.vmcs12 l2Efer ↔ EferFollowed x l2Efer := by
  rw [exit_hostIa32Efer exit, exitEfer, EferFollowed]
  cases load : x.info.ctls12.has .vmexitLoadIa32Efer with
  | true => simp
  | false =>
    simp only [Bool.false_eq_true, if_false, forall_const, hostEferWithoutLoad, replaceMode]
    split
    · exact Iff.rfl
    · exact and_eq_and_not_iff _ _ _

section

variable {env : MsrEnv η} {g g' : GuestMsrs η}

/-- The MSR of a list entry that is written to `f`. -/
def msrOfField : VmcsField → Option U32
  | .guestSYSENTERCS => some IA32_SYSENTER_CS_MSR
  | .guestSYSENTERESP => some IA32_SYSENTER_ESP_MSR
  | .guestSYSENTEREIP => some IA32_SYSENTER_EIP_MSR
  | _ => none

theorem getXmhfMsr_of_field {f : VmcsField} {index : U32} (named : msrOfField f = some index) :
    getXmhfMsr index = none := by
  unfold msrOfField at named
  split at named
  iterate 3
    · rw [← Option.some.inj named]
      rfl
  · cases named

theorem loadMsr_cases {msr12 : MsrEntry} (loaded : loadMsr env g msr12 = some g') :
    (∃ f value, msrOfField f = some msr12.index ∧ g' = { g with vmcs := g.vmcs.vmwrite f value }) ∨
    (∃ i, getXmhfMsr msr12.index = some i ∧ g' = g.setArea i msr12.data) ∨
    (getXmhfMsr msr12.index = none ∧ ∃ cpu, g' = { g with cpu := cpu }) := by
  unfold loadMsr at loaded
  split at loaded
  · next named =>
    exact .inl ⟨.guestSYSENTERCS, _, congrArg some named.symm, (Option.some.inj loaded).symm⟩
  split at loaded
  · next named =>
    exact .inl ⟨.guestSYSENTEREIP, _, congrArg some named.symm, (Option.some.inj loaded).symm⟩
  split at loaded
  · next named =>
    exact .inl ⟨.guestSYSENTERESP, _, congrArg some named.symm, (Option.some.inj loaded).symm⟩
  split at loaded
  · cases loaded
  split at loaded
  · cases loaded
  split at loaded
  · next i entry =>
    split at loaded
    · cases loaded
      exact .inr (.inl ⟨i, entry, rfl⟩)
    · cases loaded
  · next entry =>
    obtain ⟨⟨fails, cpu⟩, -, result⟩ := Option.bind_eq_some_iff.mp loaded
    dsimp only at result
    split at result
    · cases result
    · cases result
      exact .inr (.inr ⟨entry, cpu, rfl⟩)

theorem loadMsr_efer {msr12 : MsrEntry} (loaded : loadMsr env g msr12 = some g') :
    (g'.area 0).data = if msr12.index = MSR_EFER then msr12.data else (g.area 0).data := by
  have outside (entry : getXmhfMsr msr12.index = none) : msr12.index ≠ MSR_EFER := by
    intro efer
    rw [efer] at entry
    cases entry
  obtain ⟨f, value, named, rfl⟩ | ⟨i, entry, rfl⟩ | ⟨entry, cpu, rfl⟩ := loadMsr_cases loaded
  · rw [if_neg (outside (getXmhfMsr_of_field named))]
  · by_cases efer : msr12.index = MSR_EFER
    · rw [efer] at entry
      cases entry
      rw [if_pos efer]
      exact g.setArea_self 0 _
    · have other : i ≠ 0 := by
        rintro rfl
        exact efer (getXmhfMsr_inj entry rfl)
      rw [if_neg efer]
      exact congrArg MsrEntry.data (Function.update_of_ne (Ne.symm other) _ _)
  · rw [if_neg (outside entry)]

theorem loadMsrs_efer {list : List MsrEntry} (loaded : list.foldlM (loadMsr env) g = some g') :
    (g'.area 0).data = (lastData list MSR_EFER).getD (g.area 0).data := by
  induction list generalizing g with
  | nil =>
    cases loaded
    rfl
  | cons msr12 rest ih =>
    rw [foldlM_cons] at loaded
    obtain ⟨mid, first, later⟩ := Option.bind_eq_some_iff.mp loaded
    rw [ih later, loadMsr_efer first, lastData]
    cases lastData rest MSR_EFER with
    | some value => rfl
    | none => split <;> rfl

/-- `IA32_EFER` across a nested entry and a nested exit whose lists do not name it. -/
theorem nested_efer_iff {arg : VmentryArg (MsrCpu η)} {s s' : Vmentry (MsrCpu η)}
    {entryList exitList : List MsrEntry} {xarg : VmexitArg} {x t : Vmexit}
    (hub : arg.handleWrmsr = handleWrmsr env) (listed : EntryListed arg entryList)
    (entryUnlisted : lastData entryList MSR_EFER = none)
    (entered : vmcs12ToVmcs02 arg s = some (.success, s'))
    (exit : vmcs02ToVmcs12 xarg x = some t)
    (loaded : exitList.foldlM (loadMsr env) (setPatEfer01 t g) = some g')
    (exitUnlisted : lastData exitList MSR_EFER = none) (l2Efer : U64) :
    (s'.msrs.area 0).data = entryEfer (vmcs12Ctls arg.vmcs12) arg.vmcs12 (arg.msr01 0).data ∧
    ((g'.area 0).data = exitEfer x.info.ctls12 x.vmcs12 l2Efer ∧
        (x.info.ctls12.has .vmexitSaveIa32Efer = true → t.vmcs12 .guestIA32EFER = l2Efer) ↔
      EferFollowed x l2Efer ∧ (x.info.ctls12.has .vmexitSaveIa32Efer = true →
          (x.info.vmentryMsrLoadArea 0).data = l2Efer)) := by
  constructor
  · obtain ⟨mid, pass, load⟩ := vmcs12ToVmcs02_pass entered
    rw [vmentryMsrLoad_eq listed] at load
    have run := @loadMsrs12_eq η env arg (setPatEfer mid) hub entryList
    rw [load] at run
    rw [loadMsrs_efer run.symm, entryUnlisted]
    exact (pass_loads pass).1
  · have l1Efer : (g'.area 0).data = t.hostIa32Efer := by
      rw [loadMsrs_efer loaded, exitUnlisted]
      exact GuestMsrs.setArea_self _ 0 _
    have saved : (x.info.ctls12.has .vmexitSaveIa32Efer = true → t.vmcs12 .guestIA32EFER = l2Efer) ↔
        (x.info.ctls12.has .vmexitSaveIa32Efer = true →
          (x.info.vmentryMsrLoadArea 0).data = l2Efer) :=
      imp_congr_right fun save => by rw [exit_guestIA32EFER exit save]
    rw [l1Efer, hostIa32Efer_iff exit, saved]

end

/-- A 32-bit L1 with `IA32_EFER.NXE`. Its only list loads `IA32_DEBUGCTL` at VM exits. -/
def nxeVmcs12 : Vmcs :=
  (sampleVmcs12.vmwrite .controlVMExitMSRLoadCount 1#32).vmwrite
    .controlVMExitMSRLoadAddress 0x5000#64

def nxeVmentryArg : VmentryArg (MsrCpu (U32 → U64)) :=
  { sampleVmentryArg nxeVmcs12 7#64 with
    ram := fun p => if p = 0x5000 then 0xd9 else if p = 0x5001 ∨ p = 0x5008 then 1 else 0
    msr01 := fun i => if i = 0 then ⟨MSR_EFER, 0x800⟩ else ⟨MSR_IA32_PAT, 0⟩
    handleWrmsr := handleWrmsr sampleMsrEnv }

def nxeVmentry : Vmentry (MsrCpu (U32 → U64)) :=
  { sampleVmentry with
    info := { sampleVmentry.info with
      vmentryMsrLoadArea := fun i => if i = 0 then ⟨MSR_EFER, 0⟩ else ⟨MSR_IA32_PAT, 0⟩ }
    cpu := sampleMsrCpu }

structure NxeExit (s' : Vmentry (MsrCpu (U32 → U64))) (t : Vmexit) : Prop where
  entered : vmcs12ToVmcs02 nxeVmentryArg nxeVmentry = some (.success, s')
  exit : vmcs02ToVmcs12 (nxeVmentryArg.exit s'.vmcs02) (s'.exit nxeVmentryArg) = some t
  l2Efer : (s'.msrs.area 0).data = 0x800
  expected : exitEfer (s'.exit nxeVmentryArg).info.ctls12 nxeVmcs12 0x800 = 0x800
  l1Efer : t.hostIa32Efer = 0
  storeCount : BitVec.toNat (t.vmcs12 .controlVMExitMSRStoreCount) = 0
  loadCount : BitVec.toNat (t.vmcs12 .controlVMExitMSRLoadCount) = 1
  loadAddress : t.vmcs12 .controlVMExitMSRLoadAddress = 0x5000#64

theorem nxeVmentry_exits : ∃ s' t, NxeExit s' t := by
  have sample : ((vmcs12ToVmcs02 nxeVmentryArg nxeVmentry).bind fun (status, s') =>
      (vmcs02ToVmcs12 (nxeVmentryArg.exit s'.vmcs02) (s'.exit nxeVmentryArg)).map fun t =>
        ((status, (s'.msrs.area 0).data,
          exitEfer (s'.exit nxeVmentryArg).info.ctls12 nxeVmcs12 0x800, t.hostIa32Efer),
          BitVec.toNat (t.vmcs12 .controlVMExitMSRStoreCount),
          BitVec.toNat (t.vmcs12 .controlVMExitMSRLoadCount),
          BitVec.toNat (t.vmcs12 .controlVMExitMSRLoadAddress))) =
      some ((.success, 0x800, 0x800, 0), 0, 1, 0x5000) := by
    decide +kernel
  obtain ⟨⟨status, s'⟩, entered, exited⟩ := Option.bind_eq_some_iff.mp sample
  obtain ⟨t, exit, facts⟩ := Option.map_eq_some_iff.mp exited
  simp only [Prod.mk.injEq] at facts
  obtain ⟨⟨rfl, l2Efer, expected, l1Efer⟩, storeCount, loadCount, loadAddress⟩ := facts
  exact ⟨s', t, entered, exit, l2Efer, expected, l1Efer, storeCount, loadCount,
    BitVec.eq_of_toNat_eq loadAddress⟩

theorem nested_efer_iff_sample : ∃ s' t, NxeExit s' t ∧ (s'.msrs.area 0).data =
      entryEfer (vmcs12Ctls nxeVmcs12) nxeVmcs12 (nxeVmentryArg.msr01 0).data := by
  obtain ⟨s', t, sample⟩ := nxeVmentry_exits
  have listed : EntryListed nxeVmentryArg [] := rfl
  have loaded : List.foldlM (loadMsr sampleMsrEnv) (setPatEfer01 t nxeVmentry.msrs) [] =
      some (setPatEfer01 t nxeVmentry.msrs) := rfl
  refine ⟨s', t, sample, (nested_efer_iff (g := nxeVmentry.msrs) rfl listed rfl
    sample.entered sample.exit loaded rfl 0x800).1⟩

/-- An exit that does not load `IA32_EFER` takes `IA32_EFER.NXE` from a 32-bit L1: the value
is masked with the mode bits instead of their complement. -/
theorem nested_exit_clears_nxe : ∃ s' t, NxeExit s' t ∧
    ((setPatEfer01 t nxeVmentry.msrs).area 0).data ≠
      exitEfer (s'.exit nxeVmentryArg).info.ctls12 nxeVmcs12 (s'.msrs.area 0).data := by
  obtain ⟨s', t, sample⟩ := nxeVmentry_exits
  refine ⟨s', t, sample, ?_⟩
  have found : ((setPatEfer01 t nxeVmentry.msrs).area 0).data = t.hostIa32Efer :=
    GuestMsrs.setArea_self _ 0 _
  rw [found, sample.l1Efer, sample.l2Efer, sample.expected]
  decide

end Xmhf
