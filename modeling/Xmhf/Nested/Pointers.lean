import Xmhf.Nested.Vmcs02

/-!
# The pointers in VMCS02

While L2 runs, the processor follows physical addresses that stand in VMCS02. An
address there should be one of XMHF's own structures, or L1's address translated by
EPT01 with a permission that fits the processor's use of the memory. `vmcsPointers`
lists the uses, and `Vmcs02PointersGuarded` is the property; it holds exactly when
`PointersFit`, since the translation asks EPT01 only for reading and copies the VMCS
link pointer as it is.
-/

namespace Xmhf

variable {use : PointerUse}

variable {ω : Type}

/-- A field that the processor follows as a physical address, the condition under which
it does, its access to the memory there and the size of that memory. -/
structure PointerUse where
  field : VmcsField
  active : VmxCtls → Vmcs → Bool
  access : VmxCtls → Prot
  len : Nat

/-- A page that the processor reads while a control is set. -/
def readPage (field : VmcsField) (c : VmxCtl) : PointerUse :=
  ⟨field, fun ctls _ => ctls.has c, fun _ => hptProtsR, 4096⟩

/-- Memory that the processor writes while a control is set. -/
def writtenRegion (field : VmcsField) (c : VmxCtl) (access : Prot) (len : Nat) : PointerUse :=
  ⟨field, fun ctls _ => ctls.has c, fun _ => access, len⟩

def msrArea (field count : VmcsField) (access : Prot) : PointerUse :=
  ⟨field, fun _ vmcs => (vmcs count).toNat ≠ 0, fun _ => access, 16⟩

/-- A link pointer that is neither all ones nor misaligned is followed by the VM entry,
which reads the VMCS there; under VMCS shadowing L2 also writes it. -/
def linkFollowed (link : U64) : Bool := link ≠ 0xffffffffffffffff#64 ∧ paPageAligned4K link

def linkPointer : PointerUse where
  field := .guestVMCSLinkPointer
  active _ vmcs := linkFollowed (vmcs .guestVMCSLinkPointer)
  access ctls := if ctls.has .vmcsShadowing then hptProtsRw else hptProtsR
  len := 4096

/-- The page-modification log is written; the virtual APIC page, the posted-interrupt
descriptor and the virtualization-exception area are also read. -/
def writtenPointers : List PointerUse := [
  writtenRegion .controlPMLAddress .enablePml hptProtWriteMask 4096,
  writtenRegion .controlVirtualAPICAddress .useTprShadow hptProtsRw 4096,
  writtenRegion .controlPostedInterruptDescAddress .processPostedInterrupts hptProtsRw 64,
  writtenRegion .controlVirtExceptionInfoAddress .eptViolationVe hptProtsRw 4096]

/-- Pages of L1 that the processor reads, or in the case of the APIC-access page compares
addresses with. -/
def readPointers : List PointerUse := [ readPage .controlIOBitmapAAddress .useIoBitmaps,
  readPage .controlIOBitmapBAddress .useIoBitmaps,
  readPage .controlAPICAccessAddress .virtualizeApicAccess,
  readPage .controlVMREADBitmapAddress .vmcsShadowing,
  readPage .controlVMWRITEBitmapAddress .vmcsShadowing]

/-- What XMHF gives to VMCS02 itself, and what it never lets L1 use. EPTP switching is
VM function 0. -/
def ownPointers : List PointerUse := [
  msrArea .controlVMExitMSRStoreAddress .controlVMExitMSRStoreCount hptProtWriteMask,
  msrArea .controlVMExitMSRLoadAddress .controlVMExitMSRLoadCount hptProtsR,
  msrArea .controlVMEntryMSRLoadAddress .controlVMEntryMSRLoadCount hptProtsR,
  readPage .controlEPTPointer .enableEpt,
  ⟨.hostCR3, fun _ _ => true, fun _ => hptProtsR, 4096⟩,
  readPage .controlMSRBitmapsAddress .useMsrBitmaps,
  readPage .controlSubpagePermissionTablePointer .subPageWritePermissionsForEpt,
  ⟨.controlEPTPListAddress, fun ctls vmcs =>
    ctls.has .enableVmFunctions && (vmcs .controlVMFunctionControls).getLsbD 0,
    fun _ => hptProtsR, 4096⟩]

def vmcsPointers : List PointerUse :=
  linkPointer :: (writtenPointers ++ readPointers ++ ownPointers)

def Vmcs.pointer (vmcs : Vmcs) (f : VmcsField) : U64 := (vmcs f).setWidth 64

/-- The field holds the address of a structure of XMHF. -/
def XmhfChose (arg : VmentryArg ω) (s : Vmentry ω) : VmcsField → Prop
  | .controlVMExitMSRStoreAddress =>
    s.vmcs02 .controlVMExitMSRStoreAddress = arg.vmexitMsrStoreArea
  | .controlVMExitMSRLoadAddress => s.vmcs02 .controlVMExitMSRLoadAddress = arg.vmexitMsrLoadArea
  | .controlVMEntryMSRLoadAddress =>
    s.vmcs02 .controlVMEntryMSRLoadAddress = arg.vmentryMsrLoadArea
  | .controlEPTPointer =>
    -- EPT01, or an EPT02 in the cache
    s.vmcs02 .controlEPTPointer = arg.vmcs01 .controlEPTPointer ∨
      ∃ i < arg.ept02.nlines, s.vmcs02 .controlEPTPointer =
        (s.ept02.cache i).value.ept02.rootPa ||| 0x1e
  | .hostCR3 => s.vmcs02 .hostCR3 = arg.vmcs01 .hostCR3
  | _ => False

/-- Every pointer in VMCS02 that the processor follows is XMHF's own or L1's address
translated by EPT01, which grants the processor's access. -/
def Vmcs02PointersGuarded (arg : VmentryArg ω) (s : Vmentry ω) : Prop :=
  ∀ use ∈ vmcsPointers, use.active (vmcs12GetCtls02 s.vmcs02) s.vmcs02 → XmhfChose arg s use.field ∨
    MapsRegion arg.ctx01 arg.mem (use.access (vmcs12GetCtls02 s.vmcs02))
      (arg.vmcs12.pointer use.field) (s.vmcs02.pointer use.field) use.len

def RegionGrants (ctx : HptwCtx) (mem : Mem) (access : Prot) (gpa : U64) (len : Nat) : Prop :=
  ∀ off < len, (hptwCheckedGetPmeo ctx mem access 0 (gpa + BitVec.ofNat 64 off)).isSome

/-- The condition on VMCS12 and EPT01: a link pointer that is followed is mapped to itself
and readable, and the memory that L1 lets the processor write is writable in EPT01. -/
structure PointersFit (arg : VmentryArg ω) : Prop where
  link : linkFollowed (arg.vmcs12 .guestVMCSLinkPointer) →
    MapsRegion arg.ctx01 arg.mem hptProtsR (arg.vmcs12 .guestVMCSLinkPointer)
      (arg.vmcs12 .guestVMCSLinkPointer) 4096
  written : ∀ use ∈ writtenPointers, use.active (vmcs12Ctls arg.vmcs12) arg.vmcs12 →
    RegionGrants arg.ctx01 arg.mem (use.access (vmcs12Ctls arg.vmcs12))
      (arg.vmcs12.pointer use.field) use.len

section

variable {arg : VmentryArg ω} {s s' : Vmentry ω}

/-! ## Translated addresses -/

theorem ctx01_type : arg.ctx01.t = .ept := rfl

theorem ctx01_host : arg.ctx01.pa2ptr = hostPa2ptr := rfl

/-- A 64-bit field with the property `gpaddr` and no translation of its own, as one
statement to decide. -/
def GpaddrField (f : VmcsField) : Prop :=
  f ∈ vmcs12ToVmcs02Fields ∧ f ∉ sharedFields ∧ f.bits = 64 ∧ .idGuest ∉ f.decl.prop ∧
    .gpaddr ∈ f.decl.prop

instance (f : VmcsField) : Decidable (GpaddrField f) :=
  inferInstanceAs (Decidable (_ ∧ _ ∧ _ ∧ _ ∧ _))

section

variable (entered : vmcs12ToVmcs02 arg s = some (.success, s'))

include entered

theorem gpaddr_maps (f : VmcsField) (c : VmxCtl) (gpaddr : GpaddrField f)
    (byProp : ∀ ctls12 ctls before, vmcs12ToVmcs02Field arg ctls12 ctls before f = translateByProp
      arg ctls before f)
    (needs : f.decl.exist = hasAny [c]) (active : (vmcs12GetCtls02 s'.vmcs02).has c = true) :
    MapsRegion arg.ctx01 arg.mem hptProtsR (arg.vmcs12.pointer f) (s'.vmcs02.pointer f) 4096 ∧
      (s'.vmcs02.pointer f).toNat % 2 ^ 12 = 0 := by
  rcases gpaddr with ⟨translated, notShared, wide, notId, isGpaddr⟩
  rcases vmcs12ToVmcs02_field entered translated notShared with ⟨before, after, step, field, -⟩
  have exist : f.decl.exist
      (vmcs12ToVmcs02FlipBits arg.msrBitmap (vmcs12Ctls arg.vmcs12)) = true := by
    rw [needs, ← vmcs12ToVmcs02_ctls entered]
    simp [hasAny, active]
  rw [byProp, translateByProp, if_neg notId, if_pos isGpaddr, if_pos exist] at step
  rcases Option.bind_eq_some_iff.mp step with ⟨spa, page, result⟩
  cases result
  have value : s'.vmcs02.pointer f = spa := by
    unfold Vmcs.pointer
    rw [field]
    change ((before.vmcs02.vmwrite f (spa.setWidth f.bits)) f).setWidth 64 = spa
    rw [Vmcs.vmwrite_self, BitVec.setWidth_setWidth_of_le _ (by omega), BitVec.setWidth_eq]
  rw [value]
  exact (guestmemGpa2spaPage_some ctx01_type ctx01_host page).2

theorem postedInterruptDesc_maps
    (active : (vmcs12GetCtls02 s'.vmcs02).has .processPostedInterrupts = true) :
    MapsRegion arg.ctx01 arg.mem hptProtsR (arg.vmcs12.pointer .controlPostedInterruptDescAddress)
      (s'.vmcs02.pointer .controlPostedInterruptDescAddress) 64 := by
  rcases vmcs12ToVmcs02_field entered (f := .controlPostedInterruptDescAddress) (by decide)
    (by decide) with ⟨before, after, step, field, -⟩
  rw [vmcs12ToVmcs02_ctls entered] at active
  simp only [vmcs12ToVmcs02Field, active, if_true] at step
  split at step
  · cases step
  · next aligned =>
    rcases Option.bind_eq_some_iff.mp step with ⟨spa, page, result⟩
    cases result
    have value : s'.vmcs02.pointer .controlPostedInterruptDescAddress = spa := by
      unfold Vmcs.pointer
      rw [field]
      change (before.vmcs02.vmwrite .controlPostedInterruptDescAddress spa
        .controlPostedInterruptDescAddress).setWidth 64 = spa
      rw [Vmcs.vmwrite_self, BitVec.setWidth_eq]
    have start : arg.vmcs12.pointer .controlPostedInterruptDescAddress =
        arg.vmcs12 .controlPostedInterruptDescAddress := BitVec.setWidth_eq _
    rw [value, start]
    apply guestmemGpa2spaSize_some ctx01_type ctx01_host _ page
    -- the low six bits of the address are checked to be zero
    have zero := congrArg BitVec.toNat (not_not.mp aligned)
    rw [BitVec.toNat_and] at zero
    exact (Nat.and_two_pow_sub_one_eq_mod _ 6).symm.trans zero

/-! ## XMHF's own pointers -/

omit entered in
theorem eptPointer_chosen (ordered : LruOrdered arg.ept02.nlines s.ept02.cache)
    (entered : vmcs12ToVmcs02 arg s = some (.success, s')) :
    XmhfChose arg s' .controlEPTPointer := by
  rcases vmcs12ToVmcs02_field entered (f := .controlEPTPointer) (by decide)
    (by decide) with ⟨before, after, step, field, cache, keeps⟩
  change vmcs12ToVmcs02ControlEPTPointer arg _ before = some (.success, after) at step
  unfold XmhfChose
  rw [field, cache rfl]
  unfold vmcs12ToVmcs02ControlEPTPointer at step
  split at step
  · split at step
    · split at step
      · cases step
      · next ept12 _ =>
        cases step
        exact Or.inr ⟨_, (getEpt02_ordered (keeps ordered)).1,
          before.vmcs02.vmwrite_self .controlEPTPointer _⟩
    · rcases Option.bind_eq_some_iff.mp step with ⟨mid, updated, result⟩
      cases result
      exact Or.inl (mid.vmcs02.vmwrite_self .controlEPTPointer _)
  · cases step

theorem vmFunctionControls_bit0
    (active : (vmcs12GetCtls02 s'.vmcs02).has .enableVmFunctions = true) :
    (s'.vmcs02 .controlVMFunctionControls).getLsbD 0 = false := by
  have aligned := (gpaddr_maps entered .controlVMFunctionControls .enableVmFunctions (by decide)
    (fun _ _ _ => rfl) rfl active).2
  unfold Vmcs.pointer at aligned
  rw [BitVec.setWidth_eq] at aligned
  rw [BitVec.getLsbD, Nat.testBit_zero]
  simp only [decide_eq_false_iff_not]
  omega

omit entered in
theorem ownPointers_chosen (ordered : LruOrdered arg.ept02.nlines s.ept02.cache)
    (entered : vmcs12ToVmcs02 arg s = some (.success, s')) (member : use ∈ ownPointers)
    (active : use.active (vmcs12GetCtls02 s'.vmcs02) s'.vmcs02 = true) :
    XmhfChose arg s' use.field := by
  simp only [ownPointers, List.mem_cons, List.not_mem_nil, or_false] at member
  rcases member with rfl | rfl | rfl | rfl | rfl | rfl | rfl | rfl
  iterate 3
    · exact vmcs12ToVmcs02_wrote entered (by decide) (by decide)
        (fun _ => rfl)
  · exact eptPointer_chosen ordered entered
  · exact vmcs12ToVmcs02_wrote entered (by decide) (by decide) (fun _ => rfl)
  · exact absurd active (Bool.eq_false_iff.mp (vmcs02_lacks_useMsrBitmaps entered))
  · exact absurd active (Bool.eq_false_iff.mp (vmcs02_lacks_procbased2 entered (.inr rfl)))
  · rcases Bool.and_eq_true_iff.mp active with ⟨functions, switching⟩
    exact absurd switching (Bool.eq_false_iff.mp (vmFunctionControls_bit0 entered functions))

/-! ## L1's pointers -/

theorem readPointers_mapped (member : use ∈ readPointers)
    (active : use.active (vmcs12GetCtls02 s'.vmcs02) s'.vmcs02 = true) :
    MapsRegion arg.ctx01 arg.mem (use.access (vmcs12GetCtls02 s'.vmcs02))
      (arg.vmcs12.pointer use.field) (s'.vmcs02.pointer use.field) use.len := by
  simp only [readPointers, List.mem_cons, List.not_mem_nil, or_false] at member
  rcases member with rfl | rfl | rfl | rfl | rfl <;>
    exact (gpaddr_maps entered _ _ (by decide) (fun _ _ _ => rfl) rfl active).1

theorem writtenPointers_mapped (member : use ∈ writtenPointers)
    (active : use.active (vmcs12GetCtls02 s'.vmcs02) s'.vmcs02 = true) :
    MapsRegion arg.ctx01 arg.mem hptProtsR (arg.vmcs12.pointer use.field)
      (s'.vmcs02.pointer use.field) use.len := by
  simp only [writtenPointers, List.mem_cons, List.not_mem_nil, or_false] at member
  rcases member with rfl | rfl | rfl | rfl
  iterate 2 exact (gpaddr_maps entered _ _ (by decide) (fun _ _ _ => rfl) rfl active).1
  · exact postedInterruptDesc_maps entered active
  · exact (gpaddr_maps entered _ _ (by decide) (fun _ _ _ => rfl) rfl active).1

theorem writtenPointers_same (member : use ∈ writtenPointers) :
    use.active (vmcs12GetCtls02 s'.vmcs02) s'.vmcs02 =
        use.active (vmcs12Ctls arg.vmcs12) arg.vmcs12 ∧
      use.access (vmcs12GetCtls02 s'.vmcs02) = use.access (vmcs12Ctls arg.vmcs12) ∧
      ¬ XmhfChose arg s' use.field := by
  simp only [writtenPointers, List.mem_cons, List.not_mem_nil, or_false] at member
  rcases member with rfl | rfl | rfl | rfl <;>
    exact ⟨vmcs02_has entered (by decide), rfl, not_false⟩

theorem link_copied : s'.vmcs02 .guestVMCSLinkPointer = arg.vmcs12 .guestVMCSLinkPointer :=
  vmcs12ToVmcs02_wrote entered (by decide) (by decide) (fun _ => rfl)

omit entered in
theorem MapsRegion.iff_grants {ctx : HptwCtx} {mem : Mem} {access : Prot} {gpa spa : U64}
    {len : Nat} (readable : MapsRegion ctx mem hptProtsR gpa spa len) :
    MapsRegion ctx mem access gpa spa len ↔ RegionGrants ctx mem access gpa len := by
  constructor
  · intro maps off inside
    rcases maps off inside with ⟨leaf, found, -⟩
    rw [found]
    rfl
  · intro grants off inside
    rcases Option.isSome_iff_exists.mp (grants off inside) with ⟨leaf, found⟩
    rcases readable off inside with ⟨leaf', found', place⟩
    have same := (hptwCheckedGetPmeo_unchecked found).symm.trans (hptwCheckedGetPmeo_unchecked found')
    cases same
    exact ⟨leaf, found, place⟩

theorem Vmcs02PointersGuarded.link (guarded : Vmcs02PointersGuarded arg s')
    (followed : linkFollowed (arg.vmcs12 .guestVMCSLinkPointer) = true) :
    MapsRegion arg.ctx01 arg.mem hptProtsR (arg.vmcs12 .guestVMCSLinkPointer)
      (arg.vmcs12 .guestVMCSLinkPointer) 4096 := by
  have active : linkPointer.active (vmcs12GetCtls02 s'.vmcs02) s'.vmcs02 = true := by
    dsimp only [linkPointer]
    rw [link_copied entered]
    exact followed
  rcases guarded linkPointer List.mem_cons_self active with own | mapped
  · exact own.elim
  · have access : linkPointer.access (vmcs12GetCtls02 s'.vmcs02) = hptProtsR :=
      if_neg (Bool.eq_false_iff.mp (vmcs02_lacks_procbased2 entered (.inl rfl)))
    rw [access] at mapped
    dsimp only [linkPointer, Vmcs.pointer] at mapped
    rw [link_copied entered, BitVec.setWidth_eq] at mapped
    exact mapped

theorem Vmcs02PointersGuarded.written (guarded : Vmcs02PointersGuarded arg s')
    (member : use ∈ writtenPointers)
    (active : use.active (vmcs12Ctls arg.vmcs12) arg.vmcs12 = true) :
    RegionGrants arg.ctx01 arg.mem (use.access (vmcs12Ctls arg.vmcs12))
      (arg.vmcs12.pointer use.field) use.len := by
  rcases writtenPointers_same entered member with ⟨sameActive, sameAccess, notOwn⟩
  rw [← sameActive] at active
  have among : use ∈ vmcsPointers :=
    List.mem_cons_of_mem _ (List.mem_append_left _ (List.mem_append_left _ member))
  rcases guarded use among active with own | mapped
  · exact absurd own notOwn
  · rw [sameAccess] at mapped
    exact (writtenPointers_mapped entered member active).iff_grants.mp mapped

end

theorem PointersFit.guards (ordered : LruOrdered arg.ept02.nlines s.ept02.cache)
    (entered : vmcs12ToVmcs02 arg s = some (.success, s')) (fit : PointersFit arg) :
    Vmcs02PointersGuarded arg s' := by
  intro use member active
  rcases List.mem_cons.mp member with rfl | member
  · right
    have access : linkPointer.access (vmcs12GetCtls02 s'.vmcs02) = hptProtsR :=
      if_neg (Bool.eq_false_iff.mp (vmcs02_lacks_procbased2 entered (.inl rfl)))
    rw [access]
    dsimp only [linkPointer, Vmcs.pointer] at active ⊢
    rw [link_copied entered] at active ⊢
    rw [BitVec.setWidth_eq]
    exact fit.link active
  rcases List.mem_append.mp member with shared | own
  · right
    rcases List.mem_append.mp shared with written | read
    · rcases writtenPointers_same entered written with ⟨sameActive, sameAccess, -⟩
      rw [sameAccess]
      exact (writtenPointers_mapped entered written active).iff_grants.mpr
        (fit.written use written (sameActive.symm.trans active))
    · exact readPointers_mapped entered read active
  · exact Or.inl (ownPointers_chosen ordered entered own active)

end

/-- After a nested entry, the pointers in VMCS02 are guarded exactly when the VMCS link
pointer and the memory that the processor writes fit EPT01. -/
theorem vmcs02_pointers_guarded_iff {arg : VmentryArg ω} {s s' : Vmentry ω}
    (ordered : LruOrdered arg.ept02.nlines s.ept02.cache)
    (entered : vmcs12ToVmcs02 arg s = some (.success, s')) :
    Vmcs02PointersGuarded arg s' ↔ PointersFit arg := by
  constructor
  · intro guarded
    exact ⟨guarded.link entered, fun use member active => guarded.written entered member active⟩
  · intro fit
    exact fit.guards ordered entered

/-! ## Entries -/

def sampleVmcs12 : Vmcs :=
  ((Vmcs.vmwrite (fun _ => 0) .controlVMXCpuBased 0x00200000#32).vmwrite
    .controlVirtualAPICAddress 0x9000#64).vmwrite .guestVMCSLinkPointer 0xffffffffffffffff#64

def sampleVmentryArg (vmcs12 : Vmcs) (prot : Prot) : VmentryArg Unit where
  vmcs12 := vmcs12
  vmcs01 := Vmcs.vmwrite (fun _ => 0) .controlEPTPointer 0x101e#64
  vmxMsrs _ := 0xffffffff00000000#64
  vmxCaps _ := 0xffffffff#32
  msrBitmap := true
  mem p i :=
    if p = 0x1000#64 then 0x2007#64
    else if p = 0x2000#64 then 0x3007#64
    else if p = 0x3000#64 then 0x4007#64
    else if p = 0x4000#64 then BitVec.ofNat 64 (4096 * i) ||| prot
    else 0#64
  ram _ := 0
  linAddrBits := 48
  ept02 := sampleCacheCfg
  msr01 _ := ⟨0, 0⟩
  vmexitMsrStoreArea := 0x200000#64
  vmexitMsrLoadArea := 0x201000#64
  vmentryMsrLoadArea := 0x202000#64
  perfGlobalCtrl := none
  pkrs := 0
  handleWrmsr cpu _ _ := some (false, cpu)

def sampleVmentry : Vmentry Unit where
  vmcs02 _ := 0
  vpid := ⟨fun _ => ⟨0, 0, 0⟩, none, []⟩
  ept02 := sampleCpu
  info := ⟨fun _ => 0, 0, 0, false, false, false, false, false, fun _ => ⟨0, 0⟩⟩
  guestIa32Pat := 0
  guestIa32Efer := 0
  cpu := ()

theorem sampleVmentry_ordered (vmcs12 : Vmcs) (prot : Prot) :
    LruOrdered (sampleVmentryArg vmcs12 prot).ept02.nlines sampleVmentry.ept02.cache :=
  .invalidateAll _ _

theorem sampleVmentry_enters {prot : Prot} (readable : prot = 7#64 ∨ prot = 1#64) :
    ∃ s', vmcs12ToVmcs02 (sampleVmentryArg sampleVmcs12 prot) sampleVmentry =
      some (.success, s') := by
  have status : (vmcs12ToVmcs02 (sampleVmentryArg sampleVmcs12 prot) sampleVmentry).map (·.1) =
      some .success := by
    rcases readable with rfl | rfl <;> decide +kernel
  rcases Option.map_eq_some_iff.mp status with ⟨⟨_, s'⟩, entered, rfl⟩
  exact ⟨s', entered⟩

theorem sampleVmentry_fits : PointersFit (sampleVmentryArg sampleVmcs12 7#64) := by
  have found : hptwCheckedGetPmeo (sampleVmentryArg sampleVmcs12 7#64).ctx01
      (sampleVmentryArg sampleVmcs12 7#64).mem hptProtsRw 0 0x9000#64 =
        some ⟨0x9007#64, .ept, 1⟩ := by
    decide +kernel
  refine ⟨fun followed => absurd followed (by decide +kernel), fun use member active => ?_⟩
  simp only [writtenPointers, List.mem_cons, List.not_mem_nil, or_false] at member
  rcases member with rfl | rfl | rfl | rfl
  · exact absurd active (by decide +kernel)
  · intro off inside
    rcases MapsRegion.of_first rfl (n := 12) (by decide) (by decide) (by decide) found off inside
      with ⟨leaf, found, -⟩
    exact Option.isSome_iff_exists.mpr ⟨leaf, found⟩
  · exact absurd active (by decide +kernel)
  · exact absurd active (by decide +kernel)

theorem vmcs02_pointers_guarded_sample :
    ∃ s', vmcs12ToVmcs02 (sampleVmentryArg sampleVmcs12 7#64) sampleVmentry =
        some (.success, s') ∧ (vmcs12GetCtls02 s'.vmcs02).has .useTprShadow = true ∧
      Vmcs02PointersGuarded (sampleVmentryArg sampleVmcs12 7#64) s' := by
  rcases sampleVmentry_enters (.inl rfl) with ⟨s', entered⟩
  have shadow : (vmcs12GetCtls02 s'.vmcs02).has .useTprShadow = true :=
    (vmcs02_has entered (by decide)).trans (by decide +kernel)
  exact ⟨s', entered, shadow,
    (vmcs02_pointers_guarded_iff (sampleVmentry_ordered _ _) entered).mpr sampleVmentry_fits⟩

/-- EPT01 maps the virtual APIC page for reading only, and the entry lets the processor
write it. -/
theorem vmcs02_virtual_apic_page_read_only :
    ∃ s', vmcs12ToVmcs02 (sampleVmentryArg sampleVmcs12 1#64) sampleVmentry = some (.success, s') ∧
      ¬ Vmcs02PointersGuarded (sampleVmentryArg sampleVmcs12 1#64) s' := by
  rcases sampleVmentry_enters (.inr rfl) with ⟨s', entered⟩
  refine ⟨s', entered, fun guarded => ?_⟩
  have grants := guarded.written entered
    (List.mem_cons_of_mem _ List.mem_cons_self : writtenRegion .controlVirtualAPICAddress
      .useTprShadow hptProtsRw 4096 ∈ writtenPointers) (by decide +kernel)
  have denied : hptwCheckedGetPmeo (sampleVmentryArg sampleVmcs12 1#64).ctx01
      (sampleVmentryArg sampleVmcs12 1#64).mem hptProtsRw 0 0x9000#64 = none := by
    decide +kernel
  have first := grants 0 (by decide)
  change (hptwCheckedGetPmeo _ _ hptProtsRw 0 0x9000#64).isSome at first
  rw [denied] at first
  cases first

end Xmhf
