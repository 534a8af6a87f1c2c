import Xmhf.Nested.Injection
import Xmhf.Nested.MsrLists

/-!
# RDMSR and WRMSR of L2

`handle_vmexit20_rdmsr` and `handle_vmexit20_wrmsr`: an access that L1's MSR bitmap does not
ask for is made by XMHF on the values that L2 runs with. They lie in VMCS02, in the MSR areas
of VMCS02 and, for the rest, where the event hub keeps L1's.

`l2Read` and `l2Write` are the accesses of the architecture. They differ from the handlers in
the registers that L2 has of its own: what the processor does not accept, `IA32_DEBUGCTL`, and
the time-stamp counter.
-/

namespace Xmhf

variable {η : Type}

def IA32_TIME_STAMP_COUNTER : U32 := 0x10

/-- What a handler returns: the exit is forwarded to L1, as it is or as another one, or L2 is
resumed. -/
inductive Handle20 where
  | handle201
  | handle201NmiInterrupt
  | handle201EptMisconfig
  | handle202
  deriving DecidableEq, Repr

structure Handler2 (η : Type) where
  vmcs02 : Vmcs
  info : Vmcs12Info
  /-- `guest_vmcs_block_nmi` -/
  guestVmcsBlockNmi : Bool
  /-- `vcpu->vmx_guest_nmi_cfg` -/
  guestNmiBlock : Bool
  guestNmiPending : Nat
  /-- `vmcs02_vmexit_msr_store_area` -/
  vmexitMsrStoreArea : Nat → MsrEntry
  cpu : MsrCpu η
  rax : U64
  rdx : U64
  rcx : U64

namespace Handler2

def ecx (s : Handler2 η) : U32 := s.rcx.setWidth 32

/-- `r->edx` and `r->eax` -/
def writeData (s : Handler2 η) : U64 :=
  ((s.rdx.setWidth 32 : U32).setWidth 64 <<< 32) ||| (s.rax.setWidth 32 : U32).setWidth 64

def setRead (s : Handler2 η) (data : U64) : Handler2 η :=
  { s with
    rax := (data.setWidth 32 : U32).setWidth 64
    rdx := ((data >>> 32).setWidth 32 : U32).setWidth 64 }

def skip (s : Handler2 η) : Handler2 η :=
  let rip : U64 := s.vmcs02 .guestRIP
  let len : U32 := s.vmcs02 .infoVmexitInstructionLength
  { s with vmcs02 := s.vmcs02.vmwrite .guestRIP (rip + len.setWidth 64) }

def injectGp (s : Handler2 η) : Handler2 η := { s with vmcs02 := nestedVmxInjectGp s.vmcs02 }

/-- Writes an entry of `vmcs02_vmentry_msr_load_area`. -/
def setLoadArea (s : Handler2 η) (i : Nat) (data : U64) : Handler2 η :=
  { s with info := { s.info with
    vmentryMsrLoadArea := Function.update s.info.vmentryMsrLoadArea i
      { s.info.vmentryMsrLoadArea i with data := data } } }

def msrs (s : Handler2 η) : GuestMsrs η := ⟨s.vmcs02, s.vmexitMsrStoreArea, s.cpu⟩

/-- Both areas list `IA32_EFER` and `IA32_PAT`. -/
structure AreasSet (s : Handler2 η) : Prop where
  store : s.msrs.AreaSet
  load : GuestMsrs.AreaSet ⟨s.vmcs02, s.info.vmentryMsrLoadArea, s.cpu⟩

end Handler2

/-! ## L1's bitmap -/

structure Bitmap12 where
  ctx01 : HptwCtx
  mem : Mem
  ram : Pa → U8
  /-- `control_MSR_Bitmaps_address` of VMCS12 -/
  addr : U64

def bitNum12 (msrVal : U32) (isWrmsr : Bool) : Option U32 :=
  if msrVal < 0x2000#32 then some (if isWrmsr then msrVal + 2048 * 8 else msrVal)
  else if 0xc0000000#32 ≤ msrVal ∧ msrVal < 0xc0002000#32 then
    some (if isWrmsr then msrVal - 0xc0000000#32 + 3072 * 8
      else msrVal - 0xc0000000#32 + 1024 * 8)
  else none

def checkMsrBitmap (page : Bitmap12) (ctls12 : VmxCtls) (msrVal : U32) (isWrmsr : Bool) :
    Option Bool :=
  if ctls12.has .useMsrBitmaps then
    match bitNum12 msrVal isWrmsr with
    | none => some true
    | some bitNum =>
      if bitNum < 8 * 4096 then
        (guestmemCopyGp2h page.ctx01 page.mem page.ram 0
            (page.addr + ((bitNum / 8).setWidth 64 : U64)) 1).map fun bytes =>
          (1#32 <<< (bitNum % 8).toNat &&& (bytes.headD 0).setWidth 32) != 0
      else none
  else some true

/-- The page can be read, and holds `bitmap`. -/
def Bitmap12.Holds (page : Bitmap12) (bitmap : Bitmap.Bytes) : Prop :=
  ∀ i < 4096, guestmemCopyGp2h page.ctx01 page.mem page.ram 0 (page.addr + BitVec.ofNat 64 i) 1 =
    some [bitmap i]

theorem Bitmap12.holds_of_maps {page : Bitmap12} {spa : U64} (type : page.ctx01.t = .ept)
    (host : page.ctx01.pa2ptr = hostPa2ptr)
    (maps : MapsRegion page.ctx01 page.mem hptProtsR page.addr spa 4096)
    (real : ∀ i < 4096, spa + BitVec.ofNat 64 i ≠ nullPtr) :
    page.Holds fun i => page.ram (spa + BitVec.ofNat 64 i) := by
  intro i inside
  obtain ⟨leaf, found, mapped⟩ := maps i inside
  obtain ⟨leafType, low, high⟩ := ept_leaf type found
  have whole : min 1 (leaf.remainingOnPage (leaf.vaToPa (page.addr + BitVec.ofNat 64 i))) = 1 := by
    have below := Nat.mod_lt (leaf.vaToPa (page.addr + BitVec.ofNat 64 i)).toNat
      (Nat.two_pow_pos (eptShift leaf.lvl))
    rw [remainingOnPage_eq leafType low high]
    omega
  unfold guestmemCopyGp2h copyFromVa
  rw [if_pos (by decide), BitVec.add_zero, hptwCheckedAccessVa_some host found, whole, mapped]
  dsimp only
  rw [if_neg (real i inside)]
  simp [copyFromVa]

theorem and_shift_ne_zero (byte : U8) {n : Nat} (small : n < 8) :
    ((1#32 <<< n &&& byte.setWidth 32) != 0) = byte.getLsbD n := by
  have cases8 : n = 0 ∨ n = 1 ∨ n = 2 ∨ n = 3 ∨ n = 4 ∨ n = 5 ∨ n = 6 ∨ n = 7 := by omega
  revert byte
  rcases cases8 with rfl | rfl | rfl | rfl | rfl | rfl | rfl | rfl <;> decide +kernel

theorem toNat_add_area {x k : U32} (low : x.toNat < 0x2000) (area : k.toNat ≤ 3072 * 8) :
    (x + k).toNat = k.toNat + x.toNat := by
  rw [BitVec.toNat_add, Nat.mod_eq_of_lt (by omega), Nat.add_comm]

theorem bitNum12_bit {msrVal bitNum : U32} {isWrmsr : Bool}
    (bit : bitNum12 msrVal isWrmsr = some bitNum) (bitmap : Bitmap.Bytes) :
    bitNum.toNat < 8 * 4096 ∧
      msrBitmapExits bitmap msrVal isWrmsr = Bitmap.bit bitmap bitNum.toNat := by
  unfold bitNum12 at bit
  unfold msrBitmapExits
  by_cases low : msrVal < 0x2000#32
  · rw [if_pos low] at bit ⊢
    have small : msrVal.toNat < 0x2000 := low
    cases isWrmsr with
    | false =>
      rw [if_neg Bool.false_ne_true] at bit ⊢
      rw [← Option.some.inj bit, Nat.zero_add]
      exact ⟨by omega, rfl⟩
    | true =>
      have sum : (msrVal + 2048 * 8).toNat = 8 * 2048 + msrVal.toNat :=
        toNat_add_area small (by decide)
      rw [if_pos rfl] at bit ⊢
      rw [← Option.some.inj bit, sum]
      exact ⟨by omega, rfl⟩
  · rw [if_neg low] at bit ⊢
    by_cases high : 0xc0000000#32 ≤ msrVal ∧ msrVal < 0xc0002000#32
    · rw [if_pos high] at bit ⊢
      have small : (msrVal - 0xc0000000#32).toNat < 0x2000 := by bv_omega
      cases isWrmsr with
      | false =>
        have sum : (msrVal - 0xc0000000#32 + 1024 * 8).toNat =
            8 * 1024 + (msrVal - 0xc0000000#32).toNat := toNat_add_area small (by decide)
        rw [if_neg Bool.false_ne_true] at bit ⊢
        rw [← Option.some.inj bit, sum, Nat.zero_add]
        exact ⟨by omega, rfl⟩
      | true =>
        have sum : (msrVal - 0xc0000000#32 + 3072 * 8).toNat =
            8 * 2048 + 8 * 1024 + (msrVal - 0xc0000000#32).toNat :=
          toNat_add_area small (by decide)
        rw [if_pos rfl] at bit ⊢
        rw [← Option.some.inj bit, sum]
        exact ⟨by omega, rfl⟩
    · rw [if_neg high] at bit
      cases bit

theorem bitNum12_none {msrVal : U32} {isWrmsr : Bool} (bit : bitNum12 msrVal isWrmsr = none)
    (bitmap : Bitmap.Bytes) : msrBitmapExits bitmap msrVal isWrmsr = true := by
  unfold bitNum12 at bit
  unfold msrBitmapExits
  split at bit
  · cases bit
  next notLow =>
  split at bit
  · cases bit
  next notHigh =>
  rw [if_neg notLow, if_neg notHigh]

theorem checkMsrBitmap_eq {page : Bitmap12} {bitmap : Bitmap.Bytes} (holds : page.Holds bitmap)
    (ctls12 : VmxCtls) (msrVal : U32) (isWrmsr : Bool) :
    checkMsrBitmap page ctls12 msrVal isWrmsr = some (msrExits ctls12 bitmap msrVal isWrmsr) := by
  unfold checkMsrBitmap msrExits
  by_cases use : ctls12.has .useMsrBitmaps = true
  · rw [if_pos use, if_pos use]
    cases bit : bitNum12 msrVal isWrmsr with
    | none => rw [bitNum12_none bit]
    | some bitNum =>
      obtain ⟨small, exits⟩ := bitNum12_bit bit bitmap
      have below : bitNum < 8 * 4096 := small
      have offset : ((bitNum / 8).setWidth 64 : U64) = BitVec.ofNat 64 (bitNum.toNat / 8) := by
        apply BitVec.eq_of_toNat_eq
        rw [BitVec.toNat_setWidth, BitVec.toNat_udiv, BitVec.toNat_ofNat]
        rfl
      dsimp only
      rw [if_pos below, exits, offset, holds _ (by omega)]
      have shift : (bitNum % 8).toNat = bitNum.toNat % 8 := BitVec.toNat_umod
      rw [Option.map_some, shift]
      exact congrArg some (and_shift_ne_zero _ (Nat.mod_lt _ (by decide)))
  · rw [if_neg use, if_neg use]

/-! ## The handlers -/

/-- The value that `handle_vmexit20_rdmsr` reads, or #GP. -/
def rdmsr20 (env : MsrEnv η) (s : Handler2 η) (index : U32) : Option (Option U64) :=
  match msrOfVmcs s.vmcs02 index with
  | some value => some (some value)
  | none =>
    match getXmhfMsr index with
    | some i =>
      if (s.vmexitMsrStoreArea i).index = index then some (some (s.vmexitMsrStoreArea i).data)
      else none
    | none => handleRdmsr env s.cpu index

/-- What `handle_vmexit20_wrmsr` writes, or #GP. -/
def wrmsr20 (env : MsrEnv η) (s : Handler2 η) (index : U32) (value : U64) :
    Option (Option (Handler2 η)) :=
  match vmcsOfMsr s.vmcs02 index value with
  | some vmcs02 => some (some { s with vmcs02 })
  | none =>
    match getXmhfMsr index with
    | some i =>
      if (s.info.vmentryMsrLoadArea i).index = index then some (some (s.setLoadArea i value))
      else none
    | none =>
      (handleWrmsr env s.cpu index value).map fun (fails, cpu) =>
        if fails then none else some { s with cpu }

/-- How RDMSR ends for L2: with a value, or with "RDMSR fail, inject #GP(0)". -/
def Handler2.endRead (s : Handler2 η) : Option U64 → Handler2 η
  | some data => (s.setRead data).skip
  | none => s.injectGp

def Handler2.endWrite (s : Handler2 η) : Option (Handler2 η) → Handler2 η
  | some s' => s'.skip
  | none => s.injectGp

def handleVmexit20Rdmsr (env : MsrEnv η) (page : Bitmap12) (s : Handler2 η) :
    Option (Handle20 × Handler2 η) :=
  (checkMsrBitmap page s.info.ctls12 s.ecx false).bind fun forward =>
    if forward then some (.handle201, s)
    else (rdmsr20 env s s.ecx).map fun read => (.handle202, s.endRead read)

def handleVmexit20Wrmsr (env : MsrEnv η) (page : Bitmap12) (s : Handler2 η) :
    Option (Handle20 × Handler2 η) :=
  (checkMsrBitmap page s.info.ctls12 s.ecx true).bind fun forward =>
    if forward then some (.handle201, s)
    else (wrmsr20 env s s.ecx s.writeData).map fun written => (.handle202, s.endWrite written)

/-! ## The architecture -/

/-- The time-stamp counter under "use TSC offsetting" and "use TSC scaling". -/
def tscView (vmcs02 : Vmcs) (tsc : U64) : U64 :=
  if BitVec.getLsbD (vmcs02 .controlVMXCpuBased) 3 then
    let offset : U64 := vmcs02 .controlTSCOffset
    let multiplier : U64 := vmcs02 .controlTSCMultiplier
    if BitVec.getLsbD (vmcs02 .controlVMXSeccpuBased) 25 then
      BitVec.ofNat 64 (tsc.toNat * multiplier.toNat >>> 48) + offset
    else tsc + offset
  else tsc

/-- What L1 reads from an MSR that L2 shares with it. Where the event hub halts, it is what the
register holds. -/
def hubRead (env : MsrEnv η) (cpu : MsrCpu η) (index : U32) : Option U64 :=
  (handleRdmsr env cpu index).getD (env.hardware.rdmsr cpu.phys index)

/-- RDMSR of an L2 that runs on `s`; `none` is #GP. -/
def l2Read (env : MsrEnv η) (s : Handler2 η) (index : U32) : Option U64 :=
  match msrOfVmcs s.vmcs02 index with
  | some value => some value
  | none =>
    match getXmhfMsr index with
    | some i => some (s.vmexitMsrStoreArea i).data
    | none =>
      if index = IA32_DEBUGCTL ∧ s.msrs.debugSwitched then some (s.vmcs02 .guestIA32DEBUGCTL)
      else if index = IA32_TIME_STAMP_COUNTER then
        (hubRead env s.cpu index).map (tscView s.vmcs02)
      else hubRead env s.cpu index

/-- What a write of L1 does to such an MSR; `none` is #GP. -/
def hubWrite (env : MsrEnv η) (cpu : MsrCpu η) (index : U32) (value : U64) : Option (MsrCpu η) :=
  match handleWrmsr env cpu index value with
  | some (fails, cpu) => if fails then none else some cpu
  | none => (env.hardware.wrmsr cpu.phys index value).map fun phys => { cpu with phys }

def l2Write (env : MsrEnv η) (s : Handler2 η) (index : U32) (value : U64) : Option (Handler2 η) :=
  match vmcsOfMsr s.vmcs02 index value with
  | some vmcs02 => if env.hardware.accepts index value then some { s with vmcs02 } else none
  | none =>
    match getXmhfMsr index with
    | some i => if env.hardware.accepts index value then some (s.setLoadArea i value) else none
    | none =>
      if index = IA32_DEBUGCTL ∧ s.msrs.debugSwitched then
        if env.hardware.accepts index value then
          some { s with vmcs02 := s.vmcs02.vmwrite .guestIA32DEBUGCTL value }
        else none
      else (hubWrite env s.cpu index value).map fun cpu => { s with cpu }

/-- The exit as the architecture has it: to L1, or not at all. -/
def archRdmsr (env : MsrEnv η) (bitmap : Bitmap.Bytes) (s : Handler2 η) : Handle20 × Handler2 η :=
  if msrExits s.info.ctls12 bitmap s.ecx false then (.handle201, s)
  else (.handle202, s.endRead (l2Read env s s.ecx))

def archWrmsr (env : MsrEnv η) (bitmap : Bitmap.Bytes) (s : Handler2 η) : Handle20 × Handler2 η :=
  if msrExits s.info.ctls12 bitmap s.ecx true then (.handle201, s)
  else (.handle202, s.endWrite (l2Write env s s.ecx s.writeData))

/-! ## Their difference -/

section

variable {env : MsrEnv η} {s : Handler2 η} {index : U32} {value : U64}

structure ReadFits (env : MsrEnv η) (s : Handler2 η) (index : U32) : Prop where
  answered : index ∉ switchedMsrs → handleRdmsr env s.cpu index ≠ none
  debugctl : index = IA32_DEBUGCTL → s.msrs.debugSwitched = true →
    env.hardware.rdmsr s.cpu.phys index = some (s.vmcs02 .guestIA32DEBUGCTL)
  tsc : index = IA32_TIME_STAMP_COUNTER → ∀ tsc, env.hardware.rdmsr s.cpu.phys index = some tsc →
    tscView s.vmcs02 tsc = tsc

structure WriteFits (env : MsrEnv η) (s : Handler2 η) (index : U32) (value : U64) : Prop where
  accepted : index ∈ switchedMsrs → env.hardware.accepts index value = true
  answered : index ∉ switchedMsrs → handleWrmsr env s.cpu index value ≠ none
  debugctl : index = IA32_DEBUGCTL → s.msrs.debugSwitched = true →
    if env.hardware.accepts index value then
      env.hardware.wrmsr s.cpu.phys index value = some s.cpu.phys ∧
        s.vmcs02 .guestIA32DEBUGCTL = value
    else env.hardware.wrmsr s.cpu.phys index value = none

theorem handleRdmsr_passed (passed : index = IA32_DEBUGCTL ∨ index = IA32_TIME_STAMP_COUNTER) :
    handleRdmsr env s.cpu index = some (env.hardware.rdmsr s.cpu.phys index) := by
  have caps : ¬ (env.nested = true ∧ index ∈ vmxCapMsrs) := by
    rcases passed with rfl | rfl <;> exact fun both => absurd both.2 (by decide)
  unfold handleRdmsr
  rcases passed with rfl | rfl
  iterate 2 rw [if_neg (by decide), if_neg (by decide), if_neg (by decide), if_neg caps]

theorem rdmsr20_iff (areas : s.AreasSet) (index : U32) :
    rdmsr20 env s index = some (l2Read env s index) ↔ ReadFits env s index := by
  by_cases switched : index ∈ switchedMsrs
  · have same : rdmsr20 env s index = some (l2Read env s index) := by
      unfold rdmsr20 l2Read
      cases field : msrOfVmcs s.vmcs02 index with
      | some value => rfl
      | none =>
        cases entry : getXmhfMsr index with
        | some i => exact if_pos (areas.store.named entry)
        | none =>
          exact absurd ((not_switched_iff s.vmcs02).mpr ⟨field, entry⟩) (not_not.mpr switched)
    refine iff_of_true same ⟨fun other => absurd switched other, ?_, ?_⟩
    iterate 2
      · rintro rfl
        exact absurd switched (by decide)
  obtain ⟨field, entry⟩ := (not_switched_iff s.vmcs02).mp switched
  unfold rdmsr20 l2Read
  simp only [field, entry]
  by_cases debug : index = IA32_DEBUGCTL ∧ s.msrs.debugSwitched = true
  · rw [if_pos debug]
    have read := @handleRdmsr_passed η env s index (.inl debug.1)
    rw [read, Option.some.injEq]
    constructor
    · intro same
      refine ⟨fun _ => by rw [read]; nofun, fun _ _ => same, fun tsc => ?_⟩
      exact absurd (debug.1.symm.trans tsc) (by decide)
    · intro fits
      exact fits.debugctl debug.1 debug.2
  rw [if_neg debug]
  by_cases tsc : index = IA32_TIME_STAMP_COUNTER
  · have read := @handleRdmsr_passed η env s index (.inr tsc)
    rw [if_pos tsc, hubRead, read, Option.getD_some, Option.some.injEq]
    constructor
    · intro same
      refine ⟨fun _ => by rw [read]; nofun, fun named on => absurd ⟨named, on⟩ debug,
        fun _ t found => ?_⟩
      rw [found] at same
      exact (Option.some.inj same).symm
    · intro fits
      cases found : env.hardware.rdmsr s.cpu.phys index with
      | none => rfl
      | some t => rw [Option.map_some, fits.tsc tsc t found]
  · rw [if_neg tsc, hubRead]
    constructor
    · intro same
      refine ⟨fun _ halts => ?_, fun named on => absurd ⟨named, on⟩ debug,
        fun named => absurd named tsc⟩
      rw [halts] at same
      cases same
    · intro fits
      cases read : handleRdmsr env s.cpu index with
      | none => exact absurd read (fits.answered switched)
      | some result => rfl

/-- The last VM exit has cleared the valid bit of the VM-entry interruption information. -/
def Handler2.Cleared (s : Handler2 η) : Prop :=
  isInterruptionValid (s.vmcs02 .controlVMEntryInterruptionInformation) = false

theorem Handler2.Cleared.skip_ne (cleared : s.Cleared) (s' : Handler2 η)
    (same : s'.vmcs02 .controlVMEntryInterruptionInformation =
      s.vmcs02 .controlVMEntryInterruptionInformation) : s'.skip ≠ s.injectGp := by
  intro equal
  have info : s'.skip.vmcs02 .controlVMEntryInterruptionInformation =
      s.injectGp.vmcs02 .controlVMEntryInterruptionInformation := by rw [equal]
  have kept : s'.skip.vmcs02 .controlVMEntryInterruptionInformation =
      s'.vmcs02 .controlVMEntryInterruptionInformation := rfl
  have gp : s.injectGp.vmcs02 .controlVMEntryInterruptionInformation = 0x80000b0d#32 :=
    inject_info s.vmcs02 0x80000b0d#32 0 0
  unfold Handler2.Cleared at cleared
  rw [← same, ← kept, info, gp] at cleared
  exact absurd cleared (by decide)

theorem data_of_halves {a b : U64} (low : (a.setWidth 32 : U32) = b.setWidth 32)
    (high : ((a >>> 32).setWidth 32 : U32) = (b >>> 32).setWidth 32) : a = b := by
  have low' := congrArg BitVec.toNat low
  have high' := congrArg BitVec.toNat high
  simp only [BitVec.toNat_setWidth, BitVec.toNat_ushiftRight,
    Nat.shiftRight_eq_div_pow] at low' high'
  apply BitVec.eq_of_toNat_eq
  omega

theorem setWidth_inj {a b : U32} (same : (a.setWidth 64 : U64) = b.setWidth 64) : a = b := by
  have toNat := congrArg BitVec.toNat same
  simp only [BitVec.toNat_setWidth] at toNat
  apply BitVec.eq_of_toNat_eq
  omega

theorem Handler2.Cleared.endRead_inj (cleared : s.Cleared) {a b : Option U64} :
    s.endRead a = s.endRead b ↔ a = b := by
  constructor
  · intro same
    cases a with
    | none =>
      cases b with
      | none => rfl
      | some data => exact absurd same.symm (cleared.skip_ne (s.setRead data) rfl)
    | some data =>
      cases b with
      | none => exact absurd same (cleared.skip_ne (s.setRead data) rfl)
      | some data' =>
        have low := setWidth_inj (congrArg Handler2.rax same)
        have high := setWidth_inj (congrArg Handler2.rdx same)
        rw [data_of_halves low high]
  · rintro rfl
    rfl

theorem vmcsOfMsr_info {vmcs vmcs' : Vmcs} (field : vmcsOfMsr vmcs index value = some vmcs') :
    index ∈ switchedMsrs ∧ vmcs' .controlVMEntryInterruptionInformation =
      vmcs .controlVMEntryInterruptionInformation := by
  refine ⟨?_, ?_⟩
  · by_contra other
    have noField := (@not_switched vmcs index other).1 value
    rw [noField] at field
    cases field
  · unfold vmcsOfMsr at field
    split at field
    · cases field; rfl
    split at field
    · cases field; rfl
    split at field
    · cases field; rfl
    split at field
    · cases field; rfl
    split at field
    · cases field; rfl
    · cases field

theorem handleWrmsr_debugctl (env : MsrEnv η) (cpu : MsrCpu η) (value : U64) :
    handleWrmsr env cpu IA32_DEBUGCTL value =
      match env.hardware.wrmsr cpu.phys IA32_DEBUGCTL value with
      | none => some (true, cpu)
      | some phys => some (false, { cpu with phys }) := by
  have caps : ¬ (env.nested = true ∧ IA32_DEBUGCTL ∈ vmxCapMsrs) :=
    fun both => absurd both.2 (by decide)
  unfold handleWrmsr
  rw [if_neg (by decide), if_neg (by decide), if_neg (by decide), if_neg (by decide),
    if_neg (by decide)]
  exact if_neg caps

theorem skip_debugctl_iff (phys : η) :
    ({ s with cpu := { s.cpu with phys := phys } } : Handler2 η).skip =
        ({ s with vmcs02 := s.vmcs02.vmwrite .guestIA32DEBUGCTL value } : Handler2 η).skip ↔
      some phys = some s.cpu.phys ∧ s.vmcs02 .guestIA32DEBUGCTL = value := by
  constructor
  · intro same
    refine ⟨congrArg some (congrArg (fun t : Handler2 η => t.cpu.phys) same), ?_⟩
    have field := congrArg (fun t : Handler2 η => t.vmcs02 .guestIA32DEBUGCTL) same
    exact field
  · rintro ⟨unchanged, rfl⟩
    rw [Option.some.inj unchanged, Vmcs.vmwrite, Function.update_eq_self]

theorem switched_of_area {i : Nat} (entry : getXmhfMsr index = some i) : index ∈ switchedMsrs := by
  by_contra other
  have noEntry := ((not_switched_iff fun _ => 0).mp other).2
  rw [noEntry] at entry
  cases entry

theorem not_switched_of_none {vmcs : Vmcs} (field : vmcsOfMsr vmcs index value = none)
    (entry : getXmhfMsr index = none) : index ∉ switchedMsrs := by
  intro switched
  simp only [switchedMsrs, List.mem_cons, List.not_mem_nil, or_false] at switched
  rcases switched with rfl | rfl | rfl | rfl | rfl | rfl | rfl
  · cases entry
  · cases entry
  all_goals cases field

theorem Handler2.Cleared.stored_iff (cleared : s.Cleared) (s' : Handler2 η)
    (switched : index ∈ switchedMsrs)
    (same : s'.vmcs02 .controlVMEntryInterruptionInformation =
      s.vmcs02 .controlVMEntryInterruptionInformation) :
    some (s.endWrite (some s')) = some (s.endWrite
      (if env.hardware.accepts index value then some s' else none)) ↔
      WriteFits env s index value := by
  have apart : index ≠ IA32_DEBUGCTL := by
    rintro rfl
    exact absurd switched (by decide)
  rw [Option.some.injEq]
  by_cases accepts : env.hardware.accepts index value = true
  · rw [if_pos accepts]
    exact iff_of_true rfl ⟨fun _ => accepts, fun other => absurd switched other,
      fun named => absurd named apart⟩
  · rw [if_neg accepts]
    exact iff_of_false (cleared.skip_ne s' same) fun fits => accepts (fits.accepted switched)

theorem writeFits_debugctl (on : s.msrs.debugSwitched = true) :
    WriteFits env s IA32_DEBUGCTL value ↔
      if env.hardware.accepts IA32_DEBUGCTL value then
        env.hardware.wrmsr s.cpu.phys IA32_DEBUGCTL value = some s.cpu.phys ∧
          s.vmcs02 .guestIA32DEBUGCTL = value
      else env.hardware.wrmsr s.cpu.phys IA32_DEBUGCTL value = none := by
  constructor
  · intro fits
    exact fits.debugctl rfl on
  · intro kept
    refine ⟨fun switched => absurd switched (by decide), fun _ halts => ?_, fun _ _ => kept⟩
    rw [handleWrmsr_debugctl] at halts
    split at halts <;> cases halts

theorem wrmsr20_debugctl_iff (cleared : s.Cleared) (on : s.msrs.debugSwitched = true) :
    (wrmsr20 env s IA32_DEBUGCTL value).map s.endWrite =
        some (s.endWrite (l2Write env s IA32_DEBUGCTL value)) ↔
      WriteFits env s IA32_DEBUGCTL value := by
  have field : vmcsOfMsr s.vmcs02 IA32_DEBUGCTL value = none := rfl
  have entry : getXmhfMsr IA32_DEBUGCTL = none := rfl
  unfold wrmsr20 l2Write
  rw [field, entry, writeFits_debugctl on]
  rw [if_pos ⟨rfl, on⟩, handleWrmsr_debugctl]
  by_cases accepts : env.hardware.accepts IA32_DEBUGCTL value = true
  · rw [if_pos accepts, if_pos accepts]
    cases env.hardware.wrmsr s.cpu.phys IA32_DEBUGCTL value with
    | none =>
      refine iff_of_false (fun same => ?_) (fun both => nomatch both.1)
      exact cleared.skip_ne { s with vmcs02 := s.vmcs02.vmwrite .guestIA32DEBUGCTL value }
        rfl (Option.some.inj same).symm
    | some phys => exact Option.some_inj.trans (skip_debugctl_iff phys)
  · rw [if_neg accepts, if_neg accepts]
    cases env.hardware.wrmsr s.cpu.phys IA32_DEBUGCTL value with
    | none => exact iff_of_true rfl rfl
    | some phys =>
      refine iff_of_false (fun same => ?_) nofun
      exact cleared.skip_ne { s with cpu := { s.cpu with phys := phys } } rfl
        (Option.some.inj same)

theorem wrmsr20_iff (areas : s.AreasSet) (cleared : s.Cleared) (index : U32) (value : U64) :
    (wrmsr20 env s index value).map s.endWrite = some (s.endWrite (l2Write env s index value)) ↔
      WriteFits env s index value := by
  by_cases debug : index = IA32_DEBUGCTL ∧ s.msrs.debugSwitched = true
  · obtain ⟨rfl, on⟩ := debug
    exact wrmsr20_debugctl_iff cleared on
  unfold wrmsr20 l2Write
  cases field : vmcsOfMsr s.vmcs02 index value with
  | some vmcs02 =>
    obtain ⟨switched, same⟩ := vmcsOfMsr_info field
    exact cleared.stored_iff _ switched same
  | none =>
    cases entry : getXmhfMsr index with
    | some i =>
      dsimp only
      rw [if_pos (show (s.info.vmentryMsrLoadArea i).index = index from areas.load.named entry)]
      exact cleared.stored_iff _ (switched_of_area entry) rfl
    | none =>
      have other := not_switched_of_none field entry
      rw [if_neg debug, hubWrite]
      cases write : handleWrmsr env s.cpu index value with
      | none => exact iff_of_false nofun fun fits => fits.answered other write
      | some result =>
        obtain ⟨fails, cpu⟩ := result
        refine iff_of_true ?_ ⟨fun switched => absurd switched other,
          fun _ => by rw [write]; nofun, fun named on => absurd ⟨named, on⟩ debug⟩
        cases fails <;> rfl

end

/-! ## Samples -/

/-- A processor that refuses the reserved bit 63 of `IA32_EFER`. -/
def eferMsrEnv : MsrEnv (U32 → U64) :=
  { sampleMsrEnv with hardware := { sampleMsrEnv.hardware with
    accepts := fun index value => !(index == MSR_EFER && value.getLsbD 63) } }

def openBitmap12 : Bitmap12 :=
  ⟨(sampleVmentryArg sampleVmcs12 7#64).ctx01, (sampleVmentryArg sampleVmcs12 7#64).mem,
    fun _ => 0, 0x6000#64⟩

theorem openBitmap12_holds : openBitmap12.Holds fun _ => 0 := by
  have found : hptwCheckedGetPmeo openBitmap12.ctx01 openBitmap12.mem hptProtsR 0 0x6000#64 =
      some ⟨0x6007#64, .ept, 1⟩ := by
    decide +kernel
  have maps := MapsRegion.of_first rfl (n := 12) (by decide) (by decide)
    (show 4096 ≤ 2 ^ 12 by decide) found
  refine Bitmap12.holds_of_maps rfl rfl maps fun i inside null => ?_
  have spa : Pmeo.vaToPa ⟨0x6007#64, .ept, 1⟩ 0x6000#64 = 0x6000#64 := by decide +kernel
  rw [spa] at null
  have zero := congrArg BitVec.toNat null
  rw [BitVec.toNat_add, BitVec.toNat_ofNat] at zero
  change (24576 + i % 2 ^ 64) % 2 ^ 64 = 0 at zero
  omega

/-- L2 reads or writes `IA32_EFER`. -/
def eferHandler2 (rdx : U64) : Handler2 (U32 → U64) where
  vmcs02 _ := 0
  info := { nxeVmentry.info with ctls12 := fun _ => 0x10000000#32 }
  guestVmcsBlockNmi := false
  guestNmiBlock := false
  guestNmiPending := 0
  vmexitMsrStoreArea := fun i => if i = 0 then ⟨MSR_EFER, 0x500⟩ else ⟨MSR_IA32_PAT, 0⟩
  cpu := sampleMsrCpu
  rax := 0
  rdx := rdx
  rcx := 0xc0000080

theorem eferHandler2_ready (rdx : U64) :
    (eferHandler2 rdx).AreasSet ∧ (eferHandler2 rdx).Cleared :=
  ⟨⟨⟨rfl, rfl⟩, ⟨rfl, rfl⟩⟩, (by decide : isInterruptionValid 0#32 = false)⟩

end Xmhf
