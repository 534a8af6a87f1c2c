import Xmhf.Smpguest.Lapic

/-!
# A LAPIC access from end to end

The two exits of `smpg-x86vmx.c` around the instruction that accesses the LAPIC, with any
state that the instruction leaves in between. What the violation handler parks in its globals
comes back with the debug exception. INIT and startup IPIs in physical destination mode are taken
by XMHF and do not reach the LAPIC; the interrupt command register of the guest is the page that
stands in for it, so the guest reads there what it wrote.
-/

namespace Xmhf

variable {η : Type}

/-- The interrupt command register, whose two words are the only ones that XMHF looks at. -/
def isIcr (reg : Nat) : Prop := reg = LAPIC_ICR_LOW ∨ reg = LAPIC_ICR_HIGH

instance (reg : Nat) : Decidable (isIcr reg) := inferInstanceAs (Decidable (_ ∨ _))

/-- An INIT or startup IPI in physical destination mode: the mask includes the bit of this mode. -/
def isBootIpi (reg : Nat) (value : U32) : Prop :=
  reg = LAPIC_ICR_LOW ∧ (value &&& 0xf00 = 0x500 ∨ value &&& 0xf00 = 0x600)

instance (reg : Nat) (value : U32) : Decidable (isBootIpi reg value) :=
  inferInstanceAs (Decidable (_ ∧ _))

/-- A startup IPI in physical destination mode, which `processSIPI` can refuse. -/
def isStartup (reg : Nat) (value : U32) : Prop := reg = LAPIC_ICR_LOW ∧ value &&& 0xf00 = 0x600

instance (reg : Nat) (value : U32) : Decidable (isStartup reg value) :=
  inferInstanceAs (Decidable (_ ∧ _))

def forwarded (write : Bool) (reg : Nat) (value : U32) : List (Nat × U32) :=
  if write = true ∧ isIcr reg ∧ ¬ isBootIpi reg value then [(reg, value)] else []

section

variable (pf : Platform) (vcpuId : U32) (vmcs : Vmcs) (cpu : MsrCpu η) (l : LapicState)

structure Stepping (reg : Nat) (write : Bool) (cpu' : MsrCpu η) (l' : LapicState) : Prop where
  op : cpu'.ept01.lapicOp = if isIcr reg then (if write then .write else .read) else .rsvd
  offset : cpu'.ept01.lapicReg = reg
  page : cpu'.ept01.pTables pf.lapicPage =
    (if isIcr reg then pf.virtualLapicBase else pf.lapicBase).setWidth 64 ||| VMX_LAPIC_MAP
  booting : cpu'.ept01.allCoresBootedUp = false
  midtable : cpu'.midtable = cpu.midtable
  flags : l'.guestEflagsTfifmask =
    (vmcs .guestRFLAGS).setWidth 32 &&& (EFLAGS_IF ||| EFLAGS_TF).setWidth 32
  nmi : l'.guestIntrNmimask = vmcs .guestInterruptibility &&& VMX_GUEST_INTR_BLOCK_NMI
  exceptions : l'.exceptionBitmap = vmcs .controlExceptionBitmap
  sent : l'.sent = l.sent

/-- The startup IPI that the instruction has written, as XMHF passes it on. -/
def startup (ram : Pa → U8) : Option (Bool × List SmpVcpu) :=
  processSIPI cpu.midtable vcpuId (virtualLapic pf ram LAPIC_ICR_LOW)
    (virtualLapic pf ram LAPIC_ICR_HIGH >>> 24)

/-- The state after the access, given what the instruction has left in the page that stands for the
LAPIC and the VMCS `between` of the debug exception. -/
structure Stepped (reg : Nat) (write : Bool) (ram : Pa → U8) (vmcs' : Vmcs) (cpu' : MsrCpu η)
    (l' : LapicState) : Prop where
  interrupt : (vmcs' .guestRFLAGS).getLsbD 9 = (vmcs .guestRFLAGS).getLsbD 9
  trap : (vmcs' .guestRFLAGS).getLsbD 8 = (vmcs .guestRFLAGS).getLsbD 8
  nmi : (vmcs' .guestInterruptibility).getLsbD 3 = (vmcs .guestInterruptibility).getLsbD 3
  exceptions : vmcs' .controlExceptionBitmap = vmcs .controlExceptionBitmap
  booted : cpu'.ept01.allCoresBootedUp = (write && isStartup reg (virtualLapic pf ram reg) &&
      (startup pf vcpuId cpu ram).map Prod.fst == some true)
  page : cpu'.ept01.pTables pf.lapicPage = pf.lapicBase.setWidth 64 |||
    (if cpu'.ept01.allCoresBootedUp then VMX_LAPIC_MAP else VMX_LAPIC_UNMAP)
  sent : l'.sent = l.sent ++ forwarded write reg (virtualLapic pf ram reg)

end

/-! ## The first exit -/

theorem hwpgtblviolation_stepping (pf : Platform) (vmcs : Vmcs) (cpu : MsrCpu η) (l : LapicState)
    (paddr errorcode : U64) (booting : cpu.ept01.allCoresBootedUp = false)
    (low : pf.lapicBase.toNat ≤ paddr.toNat) (high : paddr.toNat < pf.lapicBase.toNat + 4096) :
    Stepping pf vmcs cpu l (paddr.toNat - pf.lapicBase.toNat) (errorcode.getLsbD 1)
      (hwpgtblviolation pf vmcs cpu l paddr errorcode).2.1
      (hwpgtblviolation pf vmcs cpu l paddr errorcode).2.2 := by
  have branch : lapicViolation pf cpu.ept01 paddr (errorcode.getLsbD 1) =
      { cpu.ept01 with
        pTables := vmxLapicChangemapping pf.lapicBase
          (if isIcr (paddr.toNat - pf.lapicBase.toNat) then pf.virtualLapicBase else pf.lapicBase)
          VMX_LAPIC_MAP cpu.ept01.pTables
        lapicOp := if isIcr (paddr.toNat - pf.lapicBase.toNat) then
          (if errorcode.getLsbD 1 then .write else .read) else .rsvd
        lapicReg := paddr.toNat - pf.lapicBase.toNat
        singleStep := true } := by
    unfold lapicViolation
    rw [if_pos ⟨by rw [booting]; rfl, low, high⟩]
    rfl
  unfold hwpgtblviolation
  rw [branch]
  exact ⟨rfl, rfl, Function.update_self .., booting, rfl, rfl, rfl, rfl, rfl⟩

/-! ## The second exit -/

section

variable {pf : Platform} {vcpuId : U32} {vmcs : Vmcs} {cpu cpu' : MsrCpu η} {l l' : LapicState}
  {reg : Nat} {write : Bool}

theorem endSingleStep_flag {between : Vmcs} {l : LapicState} {rflags : U64}
    (saved : l.guestEflagsTfifmask = rflags.setWidth 32 &&& (EFLAGS_IF ||| EFLAGS_TF).setWidth 32)
    {i : Nat} (flag : i = 8 ∨ i = 9) :
    (between.endSingleStep l .guestRFLAGS).getLsbD i = rflags.getLsbD i := by
  have field : between.endSingleStep l .guestRFLAGS =
      (between .guestRFLAGS &&& ~~~EFLAGS_IF &&& ~~~EFLAGS_TF) |||
        l.guestEflagsTfifmask.setWidth 64 := by
    unfold Vmcs.endSingleStep
    rw [Vmcs.vmwrite_other (by decide), Vmcs.vmwrite_other (by decide), Vmcs.vmwrite_self]
  have bits : EFLAGS_IF.getLsbD i = (i == 9) ∧ EFLAGS_TF.getLsbD i = (i == 8) := by
    rcases flag with rfl | rfl <;> decide
  rw [field, saved]
  simp only [BitVec.getLsbD_setWidth, BitVec.getLsbD_or, BitVec.getLsbD_and, BitVec.getLsbD_not, bits]
  rcases flag with rfl | rfl
  · simp
    exact fun _ => by decide
  · simp
    exact fun _ => by decide

theorem endSingleStep_nmi {between : Vmcs} {l : LapicState} {interruptibility : U32}
    (saved : l.guestIntrNmimask = interruptibility &&& VMX_GUEST_INTR_BLOCK_NMI) :
    (between.endSingleStep l .guestInterruptibility).getLsbD 3 = interruptibility.getLsbD 3 := by
  have field : between.endSingleStep l .guestInterruptibility =
      (between .guestInterruptibility &&& ~~~VMX_GUEST_INTR_BLOCK_NMI) ||| l.guestIntrNmimask := by
    unfold Vmcs.endSingleStep
    rw [Vmcs.vmwrite_other (by decide), Vmcs.vmwrite_self]
  rw [field, saved]
  simp [VMX_GUEST_INTR_BLOCK_NMI]
  rfl

theorem endSingleStep_exceptions (between : Vmcs) (l : LapicState) :
    between.endSingleStep l .controlExceptionBitmap = l.exceptionBitmap :=
  Vmcs.vmwrite_self ..

section

variable (step : Stepping pf vmcs cpu l reg write cpu' l')

include step

theorem takeIpi_eq (ram : Pa → U8) :
    takeIpi pf vcpuId ram cpu' l' =
      if write = true ∧ isStartup reg (virtualLapic pf ram reg) then
        (startup pf vcpuId cpu ram).map fun (allSipi, midtable) =>
          (allSipi, { cpu' with midtable }, l')
      else some (false, cpu',
        { l' with sent := l'.sent ++ forwarded write reg (virtualLapic pf ram reg) }) := by
  unfold takeIpi
  rw [step.op, step.offset, step.midtable]
  by_cases icr : isIcr reg
  · have named : reg = LAPIC_ICR_LOW ∨ reg = LAPIC_ICR_HIGH := icr
    cases write with
    | false => simp [icr, named, forwarded]
    | true =>
      by_cases low : reg = LAPIC_ICR_LOW
      · subst low
        by_cases init : virtualLapic pf ram LAPIC_ICR_LOW &&& 0xf00#32 = 0x500#32
        · simp [icr, isStartup, isBootIpi, forwarded, init]
        · by_cases sipi : virtualLapic pf ram LAPIC_ICR_LOW &&& 0xf00#32 = 0x600#32
          · simp [icr, isStartup, sipi, startup]
          · simp [icr, isStartup, isBootIpi, forwarded, init, sipi]
      · simp [icr, isStartup, isBootIpi, forwarded, low]
        exact named.resolve_left low
  · simp [icr, isStartup, forwarded, show reg ≠ LAPIC_ICR_LOW from fun low => icr (.inl low)]

theorem lapicDbexception_eq {value : U32} {delink : Bool}
    (last : delink = true → write = true ∧ isStartup reg value) :
    lapicDbexception pf cpu'.ept01 value delink =
      some { (if delink then delinkLapic pf cpu'.ept01 else unmapLapic pf cpu'.ept01) with
        singleStep := false } := by
  have register : ¬ (cpu'.ept01.lapicOp ≠ .rsvd ∧ cpu'.ept01.lapicReg ≠ LAPIC_ICR_LOW ∧
      cpu'.ept01.lapicReg ≠ LAPIC_ICR_HIGH) := by
    rw [step.op, step.offset]
    rintro ⟨used, notLow, notHigh⟩
    exact used (if_neg (by rintro (low | high); exacts [notLow low, notHigh high]))
  have same : delinksAfter cpu'.ept01 value delink = delink := by
    unfold delinksAfter
    cases delink with
    | false => simp
    | true =>
      obtain ⟨written, low, sipi⟩ := last rfl
      have icr : isIcr LAPIC_ICR_LOW := .inl rfl
      rw [step.op, step.offset, written, low, if_pos icr]
      simpa using sipi
  unfold lapicDbexception
  rw [if_neg register, same]

omit step in
theorem page_after (pf : Platform) (s : Ept01) (delink : Bool) :
    ({ (if delink then delinkLapic pf s else unmapLapic pf s) with singleStep := false } : Ept01).pTables
      pf.lapicPage =
        pf.lapicBase.setWidth 64 ||| (if delink then VMX_LAPIC_MAP else VMX_LAPIC_UNMAP) := by
  cases delink with
  | false | true => exact Function.update_self ..

omit step in
theorem booted_after (pf : Platform) {s : Ept01} (booting : s.allCoresBootedUp = false)
    (delink : Bool) :
    ({ (if delink then delinkLapic pf s else unmapLapic pf s) with singleStep := false } :
      Ept01).allCoresBootedUp = delink := by
  cases delink with
  | false => exact booting
  | true => rfl

theorem Stepping.stepped {ram : Pa → U8} (between : Vmcs) {delink : Bool} {cpu'' : MsrCpu η}
    {sent : List (Nat × U32)}
    (ept01 : cpu''.ept01 = { (if delink then delinkLapic pf cpu'.ept01 else unmapLapic pf
      cpu'.ept01) with singleStep := false })
    (last : delink = (write && isStartup reg (virtualLapic pf ram reg) &&
      (startup pf vcpuId cpu ram).map Prod.fst == some true))
    (told : sent = l'.sent ++ forwarded write reg (virtualLapic pf ram reg)) :
    Stepped pf vcpuId vmcs cpu l reg write ram (between.endSingleStep { l' with sent }) cpu''
      { l' with sent } := by
  have booted : cpu''.ept01.allCoresBootedUp = delink := by
    rw [ept01]
    exact booted_after pf step.booting delink
  refine ⟨endSingleStep_flag step.flags (.inr rfl), endSingleStep_flag step.flags (.inl rfl),
    endSingleStep_nmi step.nmi, (endSingleStep_exceptions _ _).trans step.exceptions,
    booted.trans last, ?_, ?_⟩
  · rw [booted, ept01]
    exact page_after pf cpu'.ept01 delink
  · rw [told, step.sent]

theorem dbexception_stepped (ram : Pa → U8) (between : Vmcs) :
    (dbexception pf vcpuId ram between cpu' l' = none ↔
      write = true ∧ isStartup reg (virtualLapic pf ram reg) ∧ startup pf vcpuId cpu ram = none) ∧
    ∀ vmcs' cpu'' l'', dbexception pf vcpuId ram between cpu' l' = some (vmcs', cpu'', l'') →
      Stepped pf vcpuId vmcs cpu l reg write ram vmcs' cpu'' l'' := by
  unfold dbexception
  rw [takeIpi_eq step]
  by_cases sipi : write = true ∧ isStartup reg (virtualLapic pf ram reg)
  · rw [if_pos sipi]
    have quiet : forwarded write reg (virtualLapic pf ram reg) = [] := by
      unfold forwarded
      rw [if_neg]
      rintro ⟨-, -, other⟩
      exact other ⟨sipi.2.1, .inr sipi.2.2⟩
    cases passed : startup pf vcpuId cpu ram with
    | none =>
      refine ⟨by simp [sipi.1, sipi.2], ?_⟩
      intro vmcs' cpu'' l'' done
      cases done
    | some answer =>
      obtain ⟨delink, midtable⟩ := answer
      have page := lapicDbexception_eq step (fun (_ : delink = true) => sipi)
      simp only [Option.map_some, Option.bind_some, step.offset, page]
      refine ⟨by simp, ?_⟩
      intro vmcs' cpu'' l'' done
      cases done
      refine step.stepped between rfl ?_ (by rw [quiet, List.append_nil])
      rw [sipi.1, decide_eq_true sipi.2, passed]
      cases delink <;> rfl
  · rw [if_neg sipi]
    have page := @lapicDbexception_eq η pf vmcs cpu cpu' l l' reg write step (virtualLapic pf ram reg)
      false (fun wrong => by cases wrong)
    simp only [Option.bind_some, step.offset, page, Option.map_some]
    refine ⟨?_, ?_⟩
    · simp only [reduceCtorEq, false_iff]
      rintro ⟨written, started, -⟩
      exact sipi ⟨written, started⟩
    · intro vmcs' cpu'' l'' done
      cases done
      refine @Stepping.stepped η pf vcpuId vmcs cpu cpu' l l' reg write step ram between false _ _ rfl
        ?_ rfl
      have off : (write && decide (isStartup reg (virtualLapic pf ram reg))) = false := by
        rw [Bool.eq_false_iff]
        intro on
        obtain ⟨written, started⟩ := Bool.and_eq_true_iff.mp on
        exact sipi ⟨written, of_decide_eq_true started⟩
      rw [off, Bool.false_and]

end

end

def sampleLapicCpu : MsrCpu Unit where
  phys := ()
  msrAreaGuest := fun _ => ⟨0, 0⟩
  ept01 :=
    { pTables := fun _ => 0
      mtrr := ⟨0, fun _ => 0, 0, fun _ => ⟨0, 0⟩, false, false, 0, 0⟩
      lapicOp := .rsvd
      lapicReg := 0
      allCoresBootedUp := false
      singleStep := false }
  midtable := []
  msrBitmap := fun _ => 0

/-- A stand-in page on which ICR low holds `0x4500`: an INIT IPI. -/
def initIpiRam (pa : Pa) : U8 := if pa = 0x10300301 then 0x45 else 0

/-- The write of that IPI, by a guest with an empty VMCS. -/
def initIpiStep : Option (Vmcs × MsrCpu Unit × LapicState) :=
  let first := hwpgtblviolation samplePlatform (fun _ => 0#_) sampleLapicCpu ⟨0, 0, 0, []⟩
    0xfee00300 0x182
  dbexception samplePlatform 0 initIpiRam first.1 first.2.1 first.2.2

end Xmhf
