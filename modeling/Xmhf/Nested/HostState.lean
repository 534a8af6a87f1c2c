import Xmhf.Nested.MsrLists

/-!
# Host state of L1 after a nested exit

A nested exit ends with L1 in the state of the host fields of VMCS12. Three parts of
`xmhf_nested_arch_x86vmx_vmcs02_to_vmcs12` bring it about: the fields paired with a guest field
of VMCS01 (`loadHostField`), the interruptibility, and at the end a list of constants and of
access rights that are masked into what VMCS01 had before (`loadHostState`).

`HostLoaded` is the architecture's host state, and `HostKept` is what VMCS01 must have had before
the nested entry for L1 to get it: the source leaves the unusable bit of the segments, the PDPTEs,
the pending debug exceptions and the activity state as they were.
-/

namespace Xmhf

open BitVec (eq_of_getLsbD_eq getLsbD getLsbD_and getLsbD_not getLsbD_or getLsbD_xor getLsbD_zero)

variable {η : Type}

/-! ## The model -/

def CR4_PCIDE : U64 := 0x20000

def loadedRights (old mask val : U32) : U32 := (old &&& ~~~mask) ||| val

def dataRights (old : U32) : U32 := loadedRights old 0xc0ff 0xc093

/-- Type=11, S=1, DPL=0, P=1, G=1, and L or D/B by "host address-space size". -/
def codeRights (is64 : Bool) (old : U32) : U32 :=
  loadedRights old 0xe0ff (if is64 then 0xa09b else 0xc09b)

def taskRights (old : U32) : U32 := loadedRights old 0xc0ff 0x8b

def loadHostLimits (v : Vmcs) : Vmcs :=
  let v := v.vmwrite .guestESLimit 0xffffffff#32
  let v := v.vmwrite .guestCSLimit 0xffffffff#32
  let v := v.vmwrite .guestSSLimit 0xffffffff#32
  let v := v.vmwrite .guestDSLimit 0xffffffff#32
  let v := v.vmwrite .guestFSLimit 0xffffffff#32
  let v := v.vmwrite .guestGSLimit 0xffffffff#32
  let v := v.vmwrite .guestLDTRLimit 0#32
  let v := v.vmwrite .guestTRLimit 0x67#32
  let v := v.vmwrite .guestGDTRLimit 0xffff#32
  v.vmwrite .guestIDTRLimit 0xffff#32

def loadHostRights (is64 : Bool) (v : Vmcs) : Vmcs :=
  let v := v.vmwrite .guestESAccessRights (dataRights (v .guestESAccessRights))
  let v := v.vmwrite .guestCSAccessRights (codeRights is64 (v .guestCSAccessRights))
  let v := v.vmwrite .guestSSAccessRights (dataRights (v .guestSSAccessRights))
  let v := v.vmwrite .guestDSAccessRights (dataRights (v .guestDSAccessRights))
  let v := v.vmwrite .guestFSAccessRights (dataRights (v .guestFSAccessRights))
  let v := v.vmwrite .guestGSAccessRights (dataRights (v .guestGSAccessRights))
  let v := v.vmwrite .guestLDTRAccessRights 0x10000#32
  v.vmwrite .guestTRAccessRights (taskRights (v .guestTRAccessRights))

/-- CR4 of L1: PAE is set for a 64-bit host, PCIDE is cleared for another. -/
def hostCR4 (is64 : Bool) (cr4 : U64) : U64 :=
  if is64 then cr4 ||| CR4_PAE else cr4 &&& ~~~CR4_PCIDE

def loadHostNW (is64 : Bool) (v : Vmcs) : Vmcs :=
  let v := v.vmwrite .guestCR4 (hostCR4 is64 (v .guestCR4))
  let v := v.vmwrite .guestESBase 0#64
  let v := v.vmwrite .guestCSBase 0#64
  let v := v.vmwrite .guestSSBase 0#64
  let v := v.vmwrite .guestDSBase 0#64
  let v := v.vmwrite .guestLDTRBase 0#64
  let v := v.vmwrite .guestDR7 0x400#64
  v.vmwrite .guestRFLAGS 2#64

/-- The fields "VMCS12 host -> VMCS01 guest", after the MSR lists. -/
def loadHostState (ctls12 : VmxCtls) (vmcs01 : Vmcs) : Vmcs :=
  let is64 := ctls12.has .vmexitHostAddressSpaceSize
  let v := vmcs01.vmwrite .guestLDTRSelector 0#16
  let v := v.vmwrite .guestIA32DEBUGCTL 0#64
  loadHostNW is64 (loadHostRights is64 (loadHostLimits v))

/-- "Update host state: NMI is blocked", which `handle_vmexit20_forward` does for the behavior
`NESTED_VMEXIT_HANDLE_201_NMI_INTERRUPT`. -/
def blockHostNmi (nmi : Bool) (vmcs01 : Vmcs) : Vmcs :=
  let old : U32 := vmcs01 .guestInterruptibility
  vmcs01.vmwrite .guestInterruptibility (if nmi then old ||| 8#32 else old)

/-! ## The architecture -/

/-- A control register that is loaded except for the bits of a mask. -/
def loadedExcept (mask loaded old : U64) : U64 := (loaded &&& ~~~mask) ||| (old &&& mask)

/-- The bits of CR0 that no VM entry loads: ET, NW, CD and reserved ones. -/
def CR0_ENTRY_KEPT : U64 := 0x7ffaffd0

/-- The bits of CR0 that no VM exit loads, beside those that are fixed in VMX operation. -/
def CR0_EXIT_KEPT : U64 := 0xffffffff7ffaffd0

/-- What L1's state has beside VMCS01: its memory, the processor's CR0, and the bits of CR0 and
CR4 that are fixed to 1 in VMX operation. -/
structure L1State where
  ctx01 : HptwCtx
  mem : Mem
  ram : Pa → U8
  cr0 : U64
  cr0Fixed : U64
  cr4Fixed : U64

namespace L1State

def readCR0 (l1 : L1State) (v : Vmcs) : U64 :=
  loadedExcept (v .controlCR0Mask) (loadedExcept CR0_ENTRY_KEPT (v .guestCR0) l1.cr0)
    (v .controlCR0Shadow)

def pdptes (l1 : L1State) (vmcs12 : Vmcs) : Option (List U8) :=
  guestmemCopyGp2h l1.ctx01 l1.mem l1.ram 0 (vmcs12 .hostCR3 &&& 0xffffffe0#64) 32

end L1State

def readCR4 (v : Vmcs) : U64 :=
  loadedExcept (v .controlCR4Mask) (v .guestCR4) (v .controlCR4Shadow)

/-- CR4 of the host field, with the bits that "host address-space size" determines. -/
def exitCR4 (is64 : Bool) (cr4 : U64) : U64 :=
  if is64 then cr4 ||| CR4_PAE else cr4 &&& ~~~CR4_PCIDE

def pagesByPae (x : Vmexit) : Prop :=
  x.info.ctls12.has .vmexitHostAddressSpaceSize = false ∧ (x.vmcs12 .hostCR4 &&& CR4_PAE : U64) ≠ 0

/-- VMCS01 has the PDPTEs that a read of memory has given. -/
structure PdptesLoaded (v : Vmcs) (bytes : List U8) : Prop where
  pdpte0 : v .guestPDPTE0 = leWord (bytes.take 8)
  pdpte1 : v .guestPDPTE1 = leWord ((bytes.drop 8).take 8)
  pdpte2 : v .guestPDPTE2 = leWord ((bytes.drop 16).take 8)
  pdpte3 : v .guestPDPTE3 = leWord ((bytes.drop 24).take 8)

structure ControlLoaded (l1 : L1State) (x : Vmexit) (v : Vmcs) : Prop where
  cr0 : l1.readCR0 v =
    loadedExcept (CR0_EXIT_KEPT ||| l1.cr0Fixed) (x.vmcs12 .hostCR0) (l1.readCR0 x.vmcs01)
  cr3 : v .guestCR3 = x.vmcs12 .hostCR3
  cr4 : readCR4 v = loadedExcept l1.cr4Fixed
    (exitCR4 (x.info.ctls12.has .vmexitHostAddressSpaceSize) (x.vmcs12 .hostCR4))
    (readCR4 x.vmcs01)
  pdptes : pagesByPae x → ∀ bytes, l1.pdptes x.vmcs12 = some bytes → PdptesLoaded v bytes

/-- ES, SS, DS, FS and GS: unusable if the selector is null, and then undefined. -/
structure SegLoaded (selector : BitVec 16) (rights limit : U32) : Prop where
  unusable : rights.getLsbD 16 = decide (selector = 0)
  rights : selector ≠ 0 → rights &&& 0xc0ff = 0xc093
  limit : selector ≠ 0 → limit = 0xffffffff

structure SegmentsLoaded (x : Vmexit) (v : Vmcs) : Prop where
  selectors : v .guestESSelector = x.vmcs12 .hostESSelector ∧
    v .guestCSSelector = x.vmcs12 .hostCSSelector ∧ v .guestSSSelector = x.vmcs12 .hostSSSelector ∧
    v .guestDSSelector = x.vmcs12 .hostDSSelector ∧ v .guestFSSelector = x.vmcs12 .hostFSSelector ∧
    v .guestGSSelector = x.vmcs12 .hostGSSelector ∧ v .guestTRSelector = x.vmcs12 .hostTRSelector ∧
    v .guestLDTRSelector = 0#16
  bases : (x.vmcs12 .hostESSelector ≠ 0#16 → v .guestESBase = 0#64) ∧ v .guestCSBase = 0#64 ∧
    (x.vmcs12 .hostSSSelector ≠ 0#16 → v .guestSSBase = 0#64) ∧
    (x.vmcs12 .hostDSSelector ≠ 0#16 → v .guestDSBase = 0#64) ∧
    v .guestFSBase = x.vmcs12 .hostFSBase ∧ v .guestGSBase = x.vmcs12 .hostGSBase ∧
    v .guestTRBase = x.vmcs12 .hostTRBase
  es : SegLoaded (x.vmcs12 .hostESSelector) (v .guestESAccessRights) (v .guestESLimit)
  ss : SegLoaded (x.vmcs12 .hostSSSelector) (v .guestSSAccessRights) (v .guestSSLimit)
  ds : SegLoaded (x.vmcs12 .hostDSSelector) (v .guestDSAccessRights) (v .guestDSLimit)
  fs : SegLoaded (x.vmcs12 .hostFSSelector) (v .guestFSAccessRights) (v .guestFSLimit)
  gs : SegLoaded (x.vmcs12 .hostGSSelector) (v .guestGSAccessRights) (v .guestGSLimit)
  cs : BitVec.getLsbD (v .guestCSAccessRights) 16 = false ∧ v .guestCSLimit = 0xffffffff#32 ∧
    (v .guestCSAccessRights &&& 0xe0ff : U32) =
      if x.info.ctls12.has .vmexitHostAddressSpaceSize then 0xa09b else 0xc09b
  -- the current privilege level is 0 also with an unusable SS
  dpl : (v .guestSSAccessRights &&& 0x60 : U32) = 0
  tr : BitVec.getLsbD (v .guestTRAccessRights) 16 = false ∧ v .guestTRLimit = 0x67#32 ∧
    (v .guestTRAccessRights &&& 0xc0ff : U32) = 0x8b
  ldtr : BitVec.getLsbD (v .guestLDTRAccessRights) 16 = true
  tables : v .guestGDTRBase = x.vmcs12 .hostGDTRBase ∧ v .guestIDTRBase = x.vmcs12 .hostIDTRBase ∧
    v .guestGDTRLimit = 0xffff#32 ∧ v .guestIDTRLimit = 0xffff#32

def blocksNmi (arg : VmexitArg) (x : Vmexit) : Bool :=
  if x.info.guestNmiExiting then x.info.guestBlockNmi
  else if x.info.guestVmcsBlockNmiOverridden then x.guestVmcsBlockNmi
  else BitVec.getLsbD (arg.vmcs02 .guestInterruptibility) 3

/-- Registers with a constant or a field of their own, and the state that is in no register. A
VM exit does not change blocking by NMI, unless an NMI has caused it. -/
structure EventsLoaded (arg : VmexitArg) (x : Vmexit) (nmi : Bool) (v : Vmcs) : Prop where
  rflags : v .guestRFLAGS = 2#64
  rsp : v .guestRSP = x.vmcs12 .hostRSP
  rip : v .guestRIP = x.vmcs12 .hostRIP
  dr7 : v .guestDR7 = 0x400#64
  pendingDebug : v .guestPendingDebugX = 0#64
  activity : v .guestActivityState = 0#32
  interruptibility : v .guestInterruptibility =
    setBlockNmi (x.vmcs01 .guestInterruptibility) (nmi || blocksNmi arg x) &&& ~~~3#32

/-- The VMCS fields of the MSRs that the MSR-load list comes after. -/
structure MsrsLoaded (x : Vmexit) (list : List MsrEntry) (v : Vmcs) : Prop where
  debugctl : lastData list IA32_DEBUGCTL = none → v .guestIA32DEBUGCTL = 0#64
  sysenterCS : lastData list IA32_SYSENTER_CS_MSR = none →
    v .guestSYSENTERCS = x.vmcs12 .hostSYSENTERCS
  sysenterESP : lastData list IA32_SYSENTER_ESP_MSR = none →
    v .guestSYSENTERESP = x.vmcs12 .hostSYSENTERESP
  sysenterEIP : lastData list IA32_SYSENTER_EIP_MSR = none →
    v .guestSYSENTEREIP = x.vmcs12 .hostSYSENTEREIP

/-- The host state of the architecture, from the state `x` before the exit. -/
structure HostLoaded (l1 : L1State) (arg : VmexitArg) (x : Vmexit) (nmi : Bool)
    (list : List MsrEntry) (v : Vmcs) : Prop where
  control : ControlLoaded l1 x v
  segments : SegmentsLoaded x v
  events : EventsLoaded arg x nmi v
  msrs : MsrsLoaded x list v

/-- A register loses what XMHF does not keep of the bits that VM exits do not load: PE and PG
are fixed in VMX operation, but not in VMCS01's mask. -/
structure ControlKept (l1 : L1State) (x : Vmexit) : Prop where
  cr0 : ((x.vmcs12 .hostCR0 ^^^ l1.readCR0 x.vmcs01) &&&
    ((x.vmcs01 .controlCR0Mask ||| CR0_ENTRY_KEPT) ^^^ (CR0_EXIT_KEPT ||| l1.cr0Fixed)) : U64) = 0
  cr4 : ((exitCR4 (x.info.ctls12.has .vmexitHostAddressSpaceSize) (x.vmcs12 .hostCR4) ^^^
    readCR4 x.vmcs01) &&& (x.vmcs01 .controlCR4Mask ^^^ l1.cr4Fixed) : U64) = 0
  pdptes : pagesByPae x → ∀ bytes, l1.pdptes x.vmcs12 = some bytes → PdptesLoaded x.vmcs01 bytes

/-- The segments were usable or not as the host's have to be. -/
structure SegmentsKept (x : Vmexit) : Prop where
  es : BitVec.getLsbD (x.vmcs01 .guestESAccessRights) 16 = decide (x.vmcs12 .hostESSelector = 0#16)
  ss : BitVec.getLsbD (x.vmcs01 .guestSSAccessRights) 16 = decide (x.vmcs12 .hostSSSelector = 0#16)
  ds : BitVec.getLsbD (x.vmcs01 .guestDSAccessRights) 16 = decide (x.vmcs12 .hostDSSelector = 0#16)
  fs : BitVec.getLsbD (x.vmcs01 .guestFSAccessRights) 16 = decide (x.vmcs12 .hostFSSelector = 0#16)
  gs : BitVec.getLsbD (x.vmcs01 .guestGSAccessRights) 16 = decide (x.vmcs12 .hostGSSelector = 0#16)
  cs : BitVec.getLsbD (x.vmcs01 .guestCSAccessRights) 16 = false
  tr : BitVec.getLsbD (x.vmcs01 .guestTRAccessRights) 16 = false

structure HostKept (l1 : L1State) (x : Vmexit) : Prop where
  control : ControlKept l1 x
  segments : SegmentsKept x
  pendingDebug : x.vmcs01 .guestPendingDebugX = 0#64
  activity : x.vmcs01 .guestActivityState = 0#32

/-! ## Masks -/

theorem loadedExcept_getLsbD (mask loaded old : U64) (i : Nat) :
    (loadedExcept mask loaded old).getLsbD i =
      if mask.getLsbD i then old.getLsbD i else loaded.getLsbD i := by
  unfold loadedExcept
  rw [getLsbD_or, getLsbD_and, getLsbD_and, getLsbD_not]
  by_cases inside : i < 64
  · rw [decide_eq_true inside]
    cases mask.getLsbD i <;> simp
  · rw [BitVec.getLsbD_of_ge loaded i (by omega), BitVec.getLsbD_of_ge mask i (by omega)]
    simp

theorem loadedExcept_view (mask kept loaded guest old shadow : U64) :
    loadedExcept mask (loadedExcept kept loaded old) shadow = loadedExcept (mask ||| kept) loaded
        (loadedExcept mask (loadedExcept kept guest old) shadow) := by
  refine eq_of_getLsbD_eq fun i _ => ?_
  simp only [loadedExcept_getLsbD, getLsbD_or]
  cases mask.getLsbD i with
  | true => rfl
  | false => cases kept.getLsbD i <;> rfl

theorem loadedExcept_self (mask loaded guest shadow : U64) : loadedExcept mask loaded shadow =
      loadedExcept mask loaded (loadedExcept mask guest shadow) := by
  refine eq_of_getLsbD_eq fun i _ => ?_
  simp only [loadedExcept_getLsbD]
  cases mask.getLsbD i <;> rfl

theorem loadedExcept_eq_iff (mask mask' loaded old : U64) :
    loadedExcept mask loaded old = loadedExcept mask' loaded old ↔
      (loaded ^^^ old) &&& (mask ^^^ mask') = 0 := by
  have bitwise : ∀ i, ((loadedExcept mask loaded old).getLsbD i =
      (loadedExcept mask' loaded old).getLsbD i ↔
        ((loaded ^^^ old) &&& (mask ^^^ mask')).getLsbD i = (0 : U64).getLsbD i) := by
    intro i
    rw [loadedExcept_getLsbD, loadedExcept_getLsbD, getLsbD_and, getLsbD_xor,
      getLsbD_xor, show (0 : U64).getLsbD i = false from getLsbD_zero]
    cases mask.getLsbD i <;> cases mask'.getLsbD i <;> cases loaded.getLsbD i <;>
      cases old.getLsbD i <;> decide
  constructor
  · intro same
    exact eq_of_getLsbD_eq fun i _ => (bitwise i).mp (by rw [same])
  · intro agree
    exact eq_of_getLsbD_eq fun i _ => (bitwise i).mpr (by rw [agree])

section

variable {old mask val : U32}

theorem loadedRights_outside {i : Nat} (inside : i < 32) (unmasked : mask.getLsbD i = false)
    (unset : val.getLsbD i = false) : (loadedRights old mask val).getLsbD i = old.getLsbD i := by
  unfold loadedRights
  rw [getLsbD_or, getLsbD_and, getLsbD_not, unmasked, unset,
    decide_eq_true inside]
  simp

theorem loadedRights_inside {part : U32} (below : mask &&& part = part) :
    loadedRights old mask val &&& part = val &&& part := by
  refine eq_of_getLsbD_eq fun i inside => ?_
  have bit : (mask.getLsbD i && part.getLsbD i) = part.getLsbD i := by
    rw [← getLsbD_and, below]
  unfold loadedRights
  rw [getLsbD_and, getLsbD_or, getLsbD_and, getLsbD_not, getLsbD_and, decide_eq_true inside]
  revert bit
  cases mask.getLsbD i <;> cases part.getLsbD i <;> simp

theorem segLoaded_iff (selector : BitVec 16) :
    SegLoaded selector (dataRights old) 0xffffffff ↔ old.getLsbD 16 = decide (selector = 0) := by
  have unusable : (dataRights old).getLsbD 16 = old.getLsbD 16 :=
    loadedRights_outside (by decide) (by decide) (by decide)
  constructor
  · intro loaded
    rw [← unusable]
    exact loaded.unusable
  · intro kept
    exact ⟨unusable.trans kept, fun _ => loadedRights_inside (by decide), fun _ => rfl⟩

theorem codeRights_usable (is64 : Bool) (old : U32) :
    (codeRights is64 old).getLsbD 16 = old.getLsbD 16 := by
  refine loadedRights_outside (by decide) (by decide) ?_
  cases is64 <;> decide

theorem codeRights_bits (is64 : Bool) (old : U32) :
    codeRights is64 old &&& 0xe0ff = if is64 then 0xa09b else 0xc09b := by
  unfold codeRights
  rw [loadedRights_inside (by decide)]
  cases is64 <;> decide

theorem taskRights_usable (old : U32) : (taskRights old).getLsbD 16 = old.getLsbD 16 :=
  loadedRights_outside (by decide) (by decide) (by decide)

theorem setBlockNmi_twice (old : U32) (block : Bool) :
    (setBlockNmi old block &&& ~~~3#32) ||| 8#32 = setBlockNmi old true &&& ~~~3#32 := by
  refine eq_of_getLsbD_eq fun i inside => ?_
  have apart : ((8#32).getLsbD i && (3#32).getLsbD i) = false := by
    rw [← getLsbD_and, show (8#32 &&& 3#32) = 0#32 by decide, getLsbD_zero]
  revert apart
  cases block with
  | true =>
    simp only [setBlockNmi, if_true, getLsbD_or, getLsbD_and, getLsbD_not,
      decide_eq_true inside]
    cases (8#32).getLsbD i <;> cases (3#32).getLsbD i <;> simp
  | false =>
    simp only [setBlockNmi, Bool.false_eq_true, if_false, if_true, getLsbD_or,
      getLsbD_and, getLsbD_not, decide_eq_true inside]
    cases (8#32).getLsbD i <;> cases (3#32).getLsbD i <;> simp

end

/-! ## Fields of VMCS01 after the exit -/

section

variable {arg : VmexitArg} {x t : Vmexit}

theorem vmwrite_congr {v v' : Vmcs} {g : VmcsField} (same : v g = v' g) (f : VmcsField)
    (value : BitVec f.bits) : v.vmwrite f value g = v'.vmwrite f value g := by
  by_cases written : g = f
  · subst written
    rw [Vmcs.vmwrite_self, Vmcs.vmwrite_self]
  · rw [Vmcs.vmwrite_other written, Vmcs.vmwrite_other written]
    exact same

theorem loadHostField_congr {a a' v v' : Vmcs} {f g : VmcsField} (same12 : a f = a' f)
    (same01 : v g = v' g) : loadHostField a v f g = loadHostField a' v' f g := by
  unfold loadHostField
  split <;> first | exact same01 | (rw [same12]; exact vmwrite_congr same01 _ _)

/-- The guest fields that are paired with a host field. -/
def pairedFields : List VmcsField :=
  [.guestESSelector, .guestCSSelector, .guestSSSelector, .guestDSSelector, .guestFSSelector,
    .guestGSSelector, .guestTRSelector, .guestSYSENTERCS, .guestCR0, .guestCR3, .guestCR4,
    .guestFSBase, .guestGSBase, .guestTRBase, .guestGDTRBase, .guestIDTRBase, .guestSYSENTERESP,
    .guestSYSENTEREIP, .guestRSP, .guestRIP]

theorem loadHostField_stale {g : VmcsField} (unpaired : g ∉ pairedFields) (vmcs12 vmcs01 : Vmcs)
    (f : VmcsField) : loadHostField vmcs12 vmcs01 f g = vmcs01 g := by
  have kept : ∀ written ∈ pairedFields, ∀ value,
      vmcs01.vmwrite written value g = vmcs01 g := by
    intro written paired value
    refine Vmcs.vmwrite_other ?_ _ _
    rintro rfl
    exact unpaired paired
  unfold loadHostField
  split <;> first | rfl | exact kept _ (by decide) _

def loadHostFields (vmcs12 vmcs01 : Vmcs) : Vmcs :=
  VmcsField.all.foldl (loadHostField vmcs12) vmcs01

theorem loadHostFields_stale {g : VmcsField} (unpaired : g ∉ pairedFields) (vmcs12 vmcs01 : Vmcs) :
    loadHostFields vmcs12 vmcs01 g = vmcs01 g := by
  unfold loadHostFields
  generalize VmcsField.all = fields
  induction fields generalizing vmcs01 with
  | nil => rfl
  | cons f rest ih => rw [List.foldl_cons, ih, loadHostField_stale unpaired]

theorem exit_vmcs01 (run : vmcs02ToVmcs12 arg x = some t) {g : VmcsField}
    (other : g ≠ .guestInterruptibility) : t.vmcs01 g = loadHostFields x.vmcs12 x.vmcs01 g := by
  -- a step reads its own field of VMCS12, which no step before it has written
  refine (Pass.foldlM_progress (I := fun done u =>
    u.vmcs01 g = done.foldl (loadHostField x.vmcs12) x.vmcs01 g ∧
      ∀ f, f ∉ done → u.vmcs12 f = x.vmcs12 f) ?_ ⟨rfl, fun _ _ => rfl⟩
    (vmcs02ToVmcs12_fold run)).1
  intro done f rest u u' split ⟨loaded, unread⟩ step
  have fresh : f ∉ done := by
    have distinct := fields_nodup
    rw [split] at distinct
    intro earlier
    exact (List.nodup_append.mp distinct).2.2 f earlier f List.mem_cons_self rfl
  refine ⟨?_, fun h later => ?_⟩
  · rw [List.foldl_append, List.foldl_cons, List.foldl_nil]
    by_cases same : f = .guestInterruptibility
    · subst same
      cases step
      exact (Vmcs.vmwrite_other other _ _).trans loaded
    · rw [(vmcs02ToVmcs12Field_loads step).vmcs01 same]
      exact loadHostField_congr (unread f fresh) loaded
  · have apart : h ≠ f := by
      rintro rfl
      exact later (List.mem_append_right _ List.mem_cons_self)
    rw [(vmcs02ToVmcs12Field_frame step).vmcs12 h apart]
    exact unread h fun earlier => later (List.mem_append_left _ earlier)

structure InterruptibilityReady (x u : Vmexit) : Prop where
  info : u.info = x.info
  saved : u.guestVmcsBlockNmi = x.guestVmcsBlockNmi
  vmcs01 : u.vmcs01 .guestInterruptibility = x.vmcs01 .guestInterruptibility

theorem loads_interruptibility {u u' : Vmexit} {f : VmcsField} (other : f ≠ .guestInterruptibility)
    (step : vmcs02ToVmcs12Field arg u f = some u') :
    u'.vmcs01 .guestInterruptibility = u.vmcs01 .guestInterruptibility := by
  rw [(vmcs02ToVmcs12Field_loads step).vmcs01 other]
  exact loadHostField_stale (by decide) _ _ _

theorem exit_interruptibility (run : vmcs02ToVmcs12 arg x = some t) :
    t.vmcs01 .guestInterruptibility =
      setBlockNmi (x.vmcs01 .guestInterruptibility) (blocksNmi arg x) &&& ~~~3#32 := by
  refine Pass.foldlM_at (R := InterruptibilityReady x)
    (Q := fun u => u.vmcs01 .guestInterruptibility = _) fields_nodup
    (show VmcsField.guestInterruptibility ∈ _ by decide) ?_ ?_ ?_ ⟨rfl, rfl, rfl⟩
    (vmcs02ToVmcs12_fold run)
  · intro f u u' other step ready
    refine ⟨?_, ?_, ?_⟩
    · rw [(vmcs02ToVmcs12Field_frame step).info other, ready.info]
    · rw [(vmcs02ToVmcs12Field_loads step).saved, ready.saved]
    · rw [loads_interruptibility other step, ready.vmcs01]
  · intro u u' step ready
    cases step
    dsimp only
    rw [Vmcs.vmwrite_self, ready.vmcs01, ready.info, ready.saved]
    have l2Blocks : getLsbD (if x.info.guestVmcsBlockNmiOverridden then
        setBlockNmi (arg.vmcs02 .guestInterruptibility) x.guestVmcsBlockNmi
        else arg.vmcs02 .guestInterruptibility) 3 =
        if x.info.guestVmcsBlockNmiOverridden then x.guestVmcsBlockNmi
        else getLsbD (arg.vmcs02 .guestInterruptibility) 3 := by
      split
      · exact setBlockNmi_bit _ _
      · rfl
    rw [l2Blocks]
    rfl
  · intro f u u' other step holds
    rw [loads_interruptibility other step]
    exact holds

theorem exit_ctls12 (run : vmcs02ToVmcs12 arg x = some t) : t.info.ctls12 = x.info.ctls12 := by
  refine Pass.foldlM_progress (I := fun _ u => u.info.ctls12 = x.info.ctls12) ?_ rfl
    (vmcs02ToVmcs12_fold run)
  intro done f rest u u' split same step
  rw [(vmcs02ToVmcs12Field_frame step).nmi]
  exact same

end

/-! ## Fields of VMCS01 after the MSR-load list -/

section

variable {env : MsrEnv η} {g g' : GuestMsrs η} {f : VmcsField}

theorem loadMsr_vmcs {msr12 : MsrEntry} (unnamed : msrOfField f ≠ some msr12.index)
    (loaded : loadMsr env g msr12 = some g') : g'.vmcs f = g.vmcs f := by
  obtain ⟨written, value, named, rfl⟩ | ⟨i, -, rfl⟩ | ⟨-, cpu, rfl⟩ := loadMsr_cases loaded
  · refine Vmcs.vmwrite_other ?_ _ _
    rintro rfl
    exact unnamed named
  · rfl
  · rfl

theorem loadMsrs_vmcs {list : List MsrEntry}
    (unnamed : ∀ index, msrOfField f = some index → lastData list index = none)
    (loaded : list.foldlM (loadMsr env) g = some g') : g'.vmcs f = g.vmcs f := by
  induction list generalizing g with
  | nil =>
    cases loaded
    rfl
  | cons msr12 rest ih =>
    rw [List.foldlM_cons] at loaded
    obtain ⟨mid, first, later⟩ := Option.bind_eq_some_iff.mp loaded
    have parts : ∀ index, msrOfField f = some index →
        lastData rest index = none ∧ msr12.index ≠ index := by
      intro index field
      have last := unnamed index field
      rw [lastData, Option.or_eq_none_iff] at last
      refine ⟨last.1, fun named => ?_⟩
      rw [if_pos named] at last
      cases last.2
    rw [ih (fun index field => (parts index field).1) later]
    exact loadMsr_vmcs (fun field => (parts _ field).2 rfl) first

end

/-! ## The host state -/

/-- VMCS01 when L1 continues; `g` is left by the MSR-load list. -/
def hostVmcs (t : Vmexit) (nmi : Bool) (g : GuestMsrs η) : Vmcs :=
  blockHostNmi nmi (loadHostState t.info.ctls12 g.vmcs)

structure BeforeHost (arg : VmexitArg) (x : Vmexit) (list : List MsrEntry) (w : Vmcs) : Prop where
  field : ∀ f, f ≠ .guestInterruptibility →
    (∀ index, msrOfField f = some index → lastData list index = none) →
      w f = loadHostFields x.vmcs12 x.vmcs01 f
  interruptibility : w .guestInterruptibility =
    setBlockNmi (x.vmcs01 .guestInterruptibility) (blocksNmi arg x) &&& ~~~3#32

theorem BeforeHost.of_loaded {env : MsrEnv η} {arg : VmexitArg} {x t : Vmexit}
    {g01 g : GuestMsrs η} {list : List MsrEntry} (exit : vmcs02ToVmcs12 arg x = some t)
    (same : g01.vmcs = t.vmcs01)
    (loaded : list.foldlM (loadMsr env) (setPatEfer01 t g01) = some g) :
    BeforeHost arg x list g.vmcs := by
  have start : (setPatEfer01 t g01).vmcs = t.vmcs01 := same
  refine ⟨fun f other unnamed => ?_, ?_⟩
  · rw [loadMsrs_vmcs unnamed loaded, start, exit_vmcs01 exit other]
  · have unnamed : ∀ index, msrOfField .guestInterruptibility = some index →
        lastData list index = none := by
      intro index named
      cases named
    rw [loadMsrs_vmcs unnamed loaded, start, exit_interruptibility exit]

section

variable {arg : VmexitArg} {x : Vmexit} {list : List MsrEntry} {w : Vmcs}

section

variable (before : BeforeHost arg x list w) (f : VmcsField) (other : f ≠ .guestInterruptibility)
  (unnamed : msrOfField f = none)

include before f other unnamed

theorem BeforeHost.plain : w f = loadHostFields x.vmcs12 x.vmcs01 f := by
  refine before.field f other fun index named => ?_
  rw [unnamed] at named
  cases named

theorem BeforeHost.stale (unpaired : f ∉ pairedFields) : w f = x.vmcs01 f :=
  (before.plain f other unnamed).trans (loadHostFields_stale unpaired _ _)

end

section

variable {nmi : Bool} {v : Vmcs}

theorem BeforeHost.cr0 (before : BeforeHost arg x list w) (l1 : L1State)
    (host : blockHostNmi nmi (loadHostState x.info.ctls12 w) = v) :
    l1.readCR0 v = loadedExcept (x.vmcs01 .controlCR0Mask ||| CR0_ENTRY_KEPT)
      (x.vmcs12 .hostCR0) (l1.readCR0 x.vmcs01) := by
  have read : l1.readCR0 v = loadedExcept (w .controlCR0Mask)
      (loadedExcept CR0_ENTRY_KEPT (w .guestCR0) l1.cr0) (w .controlCR0Shadow) := by
    rw [← host]
    rfl
  have guest : w .guestCR0 = x.vmcs12 .hostCR0 := before.plain .guestCR0 (by decide) rfl
  rw [read, before.stale .controlCR0Mask (by decide) rfl (by decide),
    before.stale .controlCR0Shadow (by decide) rfl (by decide), guest]
  exact loadedExcept_view _ _ _ _ _ _

section

variable (before : BeforeHost arg x list w)
  (host : blockHostNmi nmi (loadHostState x.info.ctls12 w) = v)

include before host

theorem BeforeHost.cr4 :
    readCR4 v = loadedExcept (x.vmcs01 .controlCR4Mask)
      (exitCR4 (x.info.ctls12.has .vmexitHostAddressSpaceSize) (x.vmcs12 .hostCR4))
      (readCR4 x.vmcs01) := by
  have read : readCR4 v = loadedExcept (w .controlCR4Mask)
      (hostCR4 (x.info.ctls12.has .vmexitHostAddressSpaceSize) (w .guestCR4))
      (w .controlCR4Shadow) := by
    rw [← host]
    rfl
  have guest : w .guestCR4 = x.vmcs12 .hostCR4 := before.plain .guestCR4 (by decide) rfl
  rw [read, before.stale .controlCR4Mask (by decide) rfl (by decide),
    before.stale .controlCR4Shadow (by decide) rfl (by decide), guest]
  exact loadedExcept_self _ _ _ _

theorem BeforeHost.pdptes_iff (bytes : List U8) :
    PdptesLoaded v bytes ↔ PdptesLoaded x.vmcs01 bytes := by
  have kept : v .guestPDPTE0 = x.vmcs01 .guestPDPTE0 ∧ v .guestPDPTE1 = x.vmcs01 .guestPDPTE1 ∧
      v .guestPDPTE2 = x.vmcs01 .guestPDPTE2 ∧ v .guestPDPTE3 = x.vmcs01 .guestPDPTE3 := by
    rw [← host]
    exact ⟨before.stale .guestPDPTE0 (by decide) rfl (by decide),
      before.stale .guestPDPTE1 (by decide) rfl (by decide),
      before.stale .guestPDPTE2 (by decide) rfl (by decide),
      before.stale .guestPDPTE3 (by decide) rfl (by decide)⟩
  obtain ⟨kept0, kept1, kept2, kept3⟩ := kept
  constructor
  · intro ⟨h0, h1, h2, h3⟩
    exact ⟨kept0.symm.trans h0, kept1.symm.trans h1, kept2.symm.trans h2, kept3.symm.trans h3⟩
  · intro ⟨h0, h1, h2, h3⟩
    exact ⟨kept0.trans h0, kept1.trans h1, kept2.trans h2, kept3.trans h3⟩

end

end

theorem controlLoaded_iff (before : BeforeHost arg x list w) (l1 : L1State) (nmi : Bool) :
    ControlLoaded l1 x (blockHostNmi nmi (loadHostState x.info.ctls12 w)) ↔
      ControlKept l1 x := by
  generalize host : blockHostNmi nmi (loadHostState x.info.ctls12 w) = v
  have cr0 := before.cr0 l1 host
  have cr4 := before.cr4 host
  have pdptes := before.pdptes_iff host
  have cr3 : v .guestCR3 = x.vmcs12 .hostCR3 := by
    rw [← host]
    exact before.plain .guestCR3 (by decide) rfl
  constructor
  · intro loaded
    refine ⟨(loadedExcept_eq_iff _ _ _ _).mp (cr0.symm.trans loaded.cr0),
      (loadedExcept_eq_iff _ _ _ _).mp (cr4.symm.trans loaded.cr4), ?_⟩
    intro pae bytes read
    exact (pdptes bytes).mp (loaded.pdptes pae bytes read)
  · intro kept
    refine ⟨cr0.trans ((loadedExcept_eq_iff _ _ _ _).mpr kept.cr0), cr3,
      cr4.trans ((loadedExcept_eq_iff _ _ _ _).mpr kept.cr4), ?_⟩
    intro pae bytes read
    exact (pdptes bytes).mpr (kept.pdptes pae bytes read)

theorem dataSegment_iff {old rights : U32} (selector : BitVec 16) (same : rights = old) :
    SegLoaded selector (dataRights rights) 0xffffffff ↔
      old.getLsbD 16 = decide (selector = 0) := by
  rw [same]
  exact segLoaded_iff selector

-- the paired fields are looked up in the list of all fields
set_option maxRecDepth 2000 in
theorem segmentsLoaded_iff (before : BeforeHost arg x list w) (nmi : Bool) :
    SegmentsLoaded x (blockHostNmi nmi (loadHostState x.info.ctls12 w)) ↔ SegmentsKept x := by
  have plain := before.plain
  have stale := before.stale
  have es := dataSegment_iff (x.vmcs12 .hostESSelector)
    (stale .guestESAccessRights (by decide) rfl (by decide))
  have ss := dataSegment_iff (x.vmcs12 .hostSSSelector)
    (stale .guestSSAccessRights (by decide) rfl (by decide))
  have ds := dataSegment_iff (x.vmcs12 .hostDSSelector)
    (stale .guestDSAccessRights (by decide) rfl (by decide))
  have fs := dataSegment_iff (x.vmcs12 .hostFSSelector)
    (stale .guestFSAccessRights (by decide) rfl (by decide))
  have gs := dataSegment_iff (x.vmcs12 .hostGSSelector)
    (stale .guestGSAccessRights (by decide) rfl (by decide))
  have cs := (codeRights_usable (x.info.ctls12.has .vmexitHostAddressSpaceSize) _).trans
    (congrArg (getLsbD · 16) (stale .guestCSAccessRights (by decide) rfl (by decide)))
  have tr := (taskRights_usable _).trans
    (congrArg (getLsbD · 16) (stale .guestTRAccessRights (by decide) rfl (by decide)))
  constructor
  · intro loaded
    exact ⟨es.mp loaded.es, ss.mp loaded.ss, ds.mp loaded.ds, fs.mp loaded.fs, gs.mp loaded.gs,
      cs.symm.trans loaded.cs.1, tr.symm.trans loaded.tr.1⟩
  · intro kept
    exact ⟨⟨plain .guestESSelector (by decide) rfl, plain .guestCSSelector (by decide) rfl,
        plain .guestSSSelector (by decide) rfl, plain .guestDSSelector (by decide) rfl,
        plain .guestFSSelector (by decide) rfl, plain .guestGSSelector (by decide) rfl,
        plain .guestTRSelector (by decide) rfl, rfl⟩,
      ⟨fun _ => rfl, rfl, fun _ => rfl, fun _ => rfl, plain .guestFSBase (by decide) rfl,
        plain .guestGSBase (by decide) rfl, plain .guestTRBase (by decide) rfl⟩,
      es.mpr kept.es, ss.mpr kept.ss, ds.mpr kept.ds, fs.mpr kept.fs, gs.mpr kept.gs,
      ⟨cs.trans kept.cs, rfl, codeRights_bits _ _⟩, loadedRights_inside (by decide),
      ⟨tr.trans kept.tr, rfl, loadedRights_inside (by decide)⟩,
      (by decide : getLsbD 0x10000#32 16 = true), plain .guestGDTRBase (by decide) rfl,
      plain .guestIDTRBase (by decide) rfl, rfl, rfl⟩

theorem eventsLoaded_iff (before : BeforeHost arg x list w) (nmi : Bool) :
    EventsLoaded arg x nmi (blockHostNmi nmi (loadHostState x.info.ctls12 w)) ↔
      x.vmcs01 .guestPendingDebugX = 0#64 ∧ x.vmcs01 .guestActivityState = 0#32 := by
  have pendingDebug := before.stale .guestPendingDebugX (by decide) rfl (by decide)
  have activity := before.stale .guestActivityState (by decide) rfl (by decide)
  constructor
  · intro loaded
    exact ⟨pendingDebug.symm.trans loaded.pendingDebug, activity.symm.trans loaded.activity⟩
  · rintro ⟨none, active⟩
    refine ⟨rfl, before.plain .guestRSP (by decide) rfl, before.plain .guestRIP (by decide) rfl,
      rfl, pendingDebug.trans none, activity.trans active, ?_⟩
    have found : blockHostNmi nmi (loadHostState x.info.ctls12 w) .guestInterruptibility =
        if nmi then (w .guestInterruptibility ||| 8#32 : U32) else w .guestInterruptibility := rfl
    rw [found, before.interruptibility]
    cases nmi with
    | true => exact setBlockNmi_twice _ _
    | false => rfl

set_option maxRecDepth 2000 in
theorem msrsLoaded (before : BeforeHost arg x list w) (nmi : Bool) :
    MsrsLoaded x list (blockHostNmi nmi (loadHostState x.info.ctls12 w)) := by
  have listed : ∀ f msr, f ≠ .guestInterruptibility → msrOfField f = some msr →
      lastData list msr = none → w f = loadHostFields x.vmcs12 x.vmcs01 f := by
    intro f msr other named unlisted
    refine before.field f other fun index field => ?_
    rw [← Option.some.inj (named.symm.trans field)]
    exact unlisted
  exact ⟨fun _ => rfl, listed .guestSYSENTERCS _ (by decide) rfl,
    listed .guestSYSENTERESP _ (by decide) rfl, listed .guestSYSENTEREIP _ (by decide) rfl⟩

end

/-- L1 continues in the host state of the architecture if and only if VMCS01 had, before the
nested entry, what the source does not load. -/
theorem host_state_iff {env : MsrEnv η} {arg : VmexitArg} {x t : Vmexit} {g01 g : GuestMsrs η}
    {list : List MsrEntry} (exit : vmcs02ToVmcs12 arg x = some t) (same : g01.vmcs = t.vmcs01)
    (loaded : list.foldlM (loadMsr env) (setPatEfer01 t g01) = some g) (l1 : L1State)
    (nmi : Bool) : HostLoaded l1 arg x nmi list (hostVmcs t nmi g) ↔ HostKept l1 x := by
  have before := BeforeHost.of_loaded exit same loaded
  have control := controlLoaded_iff before l1 nmi
  have segments := segmentsLoaded_iff before nmi
  have events := eventsLoaded_iff before nmi
  unfold hostVmcs
  rw [exit_ctls12 exit]
  constructor
  · intro host
    obtain ⟨pendingDebug, activity⟩ := events.mp host.events
    exact ⟨control.mp host.control, segments.mp host.segments, pendingDebug, activity⟩
  · intro kept
    exact ⟨control.mpr kept.control, segments.mpr kept.segments,
      events.mpr ⟨kept.pendingDebug, kept.activity⟩, msrsLoaded before nmi⟩

def flatVmcs12 : Vmcs :=
  let v := sampleVmcs12.vmwrite .hostESSelector 0x10#16
  let v := v.vmwrite .hostCSSelector 0x8#16
  let v := v.vmwrite .hostSSSelector 0x10#16
  let v := v.vmwrite .hostDSSelector 0x10#16
  let v := v.vmwrite .hostFSSelector 0x10#16
  let v := v.vmwrite .hostGSSelector 0x10#16
  let v := v.vmwrite .hostTRSelector 0x18#16
  v.vmwrite .hostCR0 0x80000031#64

/-- It runs with the access rights `es` of ES when it enters L2. -/
def flatVmentryArg (es : U32) : VmentryArg Unit :=
  let arg := sampleVmentryArg flatVmcs12 7#64
  let v := arg.vmcs01.vmwrite .guestESAccessRights es
  let v := v.vmwrite .guestCR0 0x80000031#64
  let v := v.vmwrite .controlCR0Mask 0x60000020#64
  let v := v.vmwrite .controlCR0Shadow 0x20#64
  { arg with vmcs01 := v.vmwrite .controlCR4Mask 0x2000#64 }

def flatL1 (es : U32) : L1State :=
  ⟨(flatVmentryArg es).ctx01, (flatVmentryArg es).mem, (flatVmentryArg es).ram, 0x80000031,
    0x80000021, 0x2000⟩

structure FlatExit (es : U32) (s' : Vmentry Unit) (t : Vmexit) : Prop where
  entered : vmcs12ToVmcs02 (flatVmentryArg es) sampleVmentry = some (.success, s')
  exit : vmcs02ToVmcs12 ((flatVmentryArg es).exit s'.vmcs02) (s'.exit (flatVmentryArg es)) = some t

theorem flatVmentry_exits {es : U32} (rights : es = 0xc093 ∨ es = 0x1c093) :
    ∃ s' t, FlatExit es s' t := by
  have sample : ((vmcs12ToVmcs02 (flatVmentryArg es) sampleVmentry).bind fun (status, s') =>
      (vmcs02ToVmcs12 ((flatVmentryArg es).exit s'.vmcs02) (s'.exit (flatVmentryArg es))).map
        fun _ => status) = some .success := by
    obtain rfl | rfl := rights
    · decide +kernel
    · decide +kernel
  obtain ⟨⟨status, s'⟩, entered, exited⟩ := Option.bind_eq_some_iff.mp sample
  obtain ⟨t, exit, rfl⟩ := Option.map_eq_some_iff.mp exited
  exact ⟨s', t, entered, exit⟩

/-- L1 when its MSR-load list, which is empty, has been loaded. -/
def flatMsrs (t : Vmexit) : GuestMsrs (U32 → U64) :=
  setPatEfer01 t ⟨t.vmcs01, nxeVmentry.info.vmentryMsrLoadArea, sampleMsrCpu⟩

theorem flat_loaded (t : Vmexit) : List.foldlM (loadMsr sampleMsrEnv)
    (setPatEfer01 t ⟨t.vmcs01, nxeVmentry.info.vmentryMsrLoadArea, sampleMsrCpu⟩) [] =
      some (flatMsrs t) := rfl

theorem flat_kept (s' : Vmentry Unit) :
    HostKept (flatL1 0xc093) (s'.exit (flatVmentryArg 0xc093)) := by
  have cr0 : ((flatVmcs12 .hostCR0 ^^^ (flatL1 0xc093).readCR0 (flatVmentryArg 0xc093).vmcs01) &&&
      (((flatVmentryArg 0xc093).vmcs01 .controlCR0Mask ||| CR0_ENTRY_KEPT) ^^^
        (CR0_EXIT_KEPT ||| (flatL1 0xc093).cr0Fixed)) : U64) = 0 := by
    decide
  have owned : ((flatVmentryArg 0xc093).vmcs01 .controlCR4Mask ^^^ (flatL1 0xc093).cr4Fixed : U64) =
      0#64 := by
    decide
  have usable : ∀ f ∈ [VmcsField.guestSSAccessRights, .guestDSAccessRights, .guestFSAccessRights,
      .guestGSAccessRights, .guestCSAccessRights, .guestTRAccessRights, .guestESAccessRights],
      getLsbD ((flatVmentryArg 0xc093).vmcs01 f) 16 = false := by
    decide
  refine ⟨⟨cr0, ?_, ?_⟩, ⟨usable .guestESAccessRights (by decide),
    usable .guestSSAccessRights (by decide), usable .guestDSAccessRights (by decide),
    usable .guestFSAccessRights (by decide), usable .guestGSAccessRights (by decide),
    usable .guestCSAccessRights (by decide), usable .guestTRAccessRights (by decide)⟩, rfl, rfl⟩
  · exact (congrArg _ owned).trans BitVec.and_zero
  · rintro ⟨-, pae⟩
    exact absurd (by decide : (flatVmcs12 .hostCR4 &&& CR4_PAE : U64) = 0) pae

theorem host_state_iff_sample : ∃ s' t, FlatExit 0xc093 s' t ∧
    HostLoaded (flatL1 0xc093) ((flatVmentryArg 0xc093).exit s'.vmcs02)
      (s'.exit (flatVmentryArg 0xc093)) false [] (hostVmcs t false (flatMsrs t)) := by
  obtain ⟨s', t, sample⟩ := flatVmentry_exits (.inl rfl)
  exact ⟨s', t, sample, (host_state_iff sample.exit rfl (flat_loaded t) (flatL1 0xc093) false).mpr
    (flat_kept s')⟩

/-- L1 had a null ES when it entered L2. It continues with the host's selector, but ES is still
unusable. -/
theorem host_segment_unusable : ∃ s' t, FlatExit 0x1c093 s' t ∧
    ¬HostLoaded (flatL1 0x1c093) ((flatVmentryArg 0x1c093).exit s'.vmcs02)
      (s'.exit (flatVmentryArg 0x1c093)) false [] (hostVmcs t false (flatMsrs t)) := by
  obtain ⟨s', t, sample⟩ := flatVmentry_exits (.inr rfl)
  refine ⟨s', t, sample, fun host => ?_⟩
  have before := BeforeHost.of_loaded sample.exit rfl (flat_loaded t)
  have segments := host.segments
  unfold hostVmcs at segments
  rw [exit_ctls12 sample.exit] at segments
  have es := ((segmentsLoaded_iff before false).mp segments).es
  have stale : BitVec.getLsbD ((flatVmentryArg 0x1c093).vmcs01 .guestESAccessRights) 16 ≠
      decide (flatVmcs12 .hostESSelector = 0#16) := by
    decide
  exact stale es

end Xmhf
