import Xmhf.Hpt.Ept
import Xmhf.Lib.Machine
import Xmhf.Lib.Sweep
import Xmhf.Memprot.Mtrr

/-!
# The leaves of EPT01

EPT01 is the page table under which XMHF runs its guest. Its leaves stand in one
flat array, `vmx_vaddr_ept_p_tables`; the tables above are written once at boot
and lead to it. The array has three writers: the memory-protection component
(`memp-x86vmx.c`) sets it up, changes protections and follows the guest's MTRRs,
and the SMP-guest component (`smpg-x86vmx.c`) maps and unmaps the LAPIC page.

`ept01Machine` is the array of the boot CPU, the only one that handles LAPIC
accesses, under all of them. Flushing the TLB, which
the writers do last, has no effect on the array.
-/

namespace Xmhf

structure Platform where
  /-- `MAX_PHYS_ADDR` -/
  maxPhysAddr : Nat
  /-- `rpb->XtVmmRuntimePhysBase` and `rpb->XtVmmRuntimeSize` -/
  runtimePhysBase : Nat
  runtimeSize : Nat
  /-- `g_vmx_lapic_base` -/
  lapicBase : U32
  /-- Physical address of `g_vmx_virtual_LAPIC_base`, a page of the runtime. -/
  virtualLapicBase : U32
  maxPhysAddr_aligned : maxPhysAddr % 4096 = 0
  maxPhysAddr_le : maxPhysAddr ≤ 2 ^ 48
  four_gigabytes_le : 2 ^ 32 ≤ maxPhysAddr
  runtime_aligned : runtimePhysBase % 4096 = 0
  lapic_aligned : lapicBase.toNat % 4096 = 0
  virtualLapic_aligned : virtualLapicBase.toNat % 4096 = 0
  lapic_outside : lapicBase.toNat < runtimePhysBase ∨ runtimePhysBase + runtimeSize ≤ lapicBase.toNat

namespace Platform

def isRuntime (pf : Platform) (paddr : Nat) : Prop :=
  pf.runtimePhysBase ≤ paddr ∧ paddr < pf.runtimePhysBase + pf.runtimeSize

instance (pf : Platform) (paddr : Nat) : Decidable (pf.isRuntime paddr) :=
  inferInstanceAs (Decidable (_ ∧ _))

def pages (pf : Platform) : Nat := pf.maxPhysAddr / 4096

def lapicPage (pf : Platform) : Nat := pf.lapicBase.toNat / 4096

end Platform

/-! ## Set-up and MTRR changes -/

/-- The leaf of page `i` as `_vmx_setupEPT` writes it. -/
def setupLeaf (pf : Platform) (m : GuestMtrrMsrs) (i : Nat) : Option U64 := do
  let paddr := 4096 * i
  let memorytype ← vmxGetmemorytypeforphysicalpage m (BitVec.ofNat 64 paddr)
  guard (vmxMtrrChecktype memorytype)
  let lower : U64 :=
    if pf.runtimePhysBase - 0x200000 ≤ paddr ∧ paddr < pf.runtimePhysBase + pf.runtimeSize then 0
    else 7
  return BitVec.ofNat 64 paddr ||| (memorytype.setWidth 64 <<< 3) ||| lower

def vmxSetupEPT (pf : Platform) (m : GuestMtrrMsrs) (pTables : Nat → U64) : Option (Nat → U64) :=
  Sweep.sweep (fun i _ => setupLeaf pf m i) 0 pf.pages pTables

/-- The leaf of page `i` with its memory type replaced. -/
def memtypeLeaf (m : GuestMtrrMsrs) (i : Nat) (entry : U64) : Option U64 := do
  let memorytype ← vmxGetmemorytypeforphysicalpage m (BitVec.ofNat 64 (4096 * i))
  guard (vmxMtrrChecktype memorytype)
  return (entry &&& ~~~0x38#64) ||| (memorytype.setWidth 64 <<< 3)

def vmxUpdateEPTMemtype (m : GuestMtrrMsrs) (start stop : Nat) (pTables : Nat → U64) :
    Option (Nat → U64) :=
  if start % 4096 = 0 ∧ stop % 4096 = 0 then
    Sweep.sweep (memtypeLeaf m) (start / 4096) (stop / 4096) pTables
  else none

inductive MtrrStore where
  | unchanged
  | rejected
  | stored (m : GuestMtrrMsrs) (skipEptUpdate : Bool)

/-- The three branches of `mtrr_write`. The two halves of a variable pair are
checked together, whichever is written. -/
def mtrrStore (m : GuestMtrrMsrs) (val : U64) : MtrrReg → MtrrStore
  | .defType =>
    if val = m.defType then .unchanged
    else match vmxMtrrCheckdeftype val with
      | none => .rejected
      | some (e, fe, type) =>
        .stored { m with
          defType := val, mtrrEnable := e, fixmtrrEnable := fe, defaulttype := type } false
  | .varBase i =>
    let mask := (m.varMtrrs i).mask
    if val = (m.varMtrrs i).base then .unchanged
    else if !vmxMtrrCheckvariable m.paddrmask val mask then .rejected
    else .stored { m with varMtrrs := Function.update m.varMtrrs i ⟨val, mask⟩ } (!m.mtrrEnable)
  | .varMask i =>
    let base := (m.varMtrrs i).base
    if val = (m.varMtrrs i).mask then .unchanged
    else if !vmxMtrrCheckvariable m.paddrmask base val then .rejected
    else .stored { m with varMtrrs := Function.update m.varMtrrs i ⟨base, val⟩ } (!m.mtrrEnable)
  | .fixed i =>
    if !vmxMtrrCheckfixed val then .rejected
    else if val = m.fixMtrrs i then .unchanged
    else .stored { m with fixMtrrs := Function.update m.fixMtrrs i val }
      (!m.mtrrEnable || !m.fixmtrrEnable)

/-! ## Protections -/

def MEMP_PROT_PRESENT : U32 := 2

def MEMP_PROT_READWRITE : U32 := 8

def MEMP_PROT_EXECUTE : U32 := 16

def protFlags (prottype : U32) : U64 :=
  if prottype &&& MEMP_PROT_PRESENT != 0 then
    1 ||| (if prottype &&& MEMP_PROT_READWRITE != 0 then 2 else 0) |||
      (if prottype &&& MEMP_PROT_EXECUTE != 0 then 4 else 0)
  else 0

/-- The leaf that a guest-physical address selects: the cast to `u32` comes
before the division. -/
def protPfn (gpa : U64) : Nat := (gpa.setWidth 32).toNat / 4096

def setprot (gpa : U64) (prottype : U32) (pTables : Nat → U64) : Nat → U64 :=
  Function.update pTables (protPfn gpa) ((pTables (protPfn gpa) &&& ~~~7#64) ||| protFlags prottype)

/-! ## The LAPIC page -/

def VMX_LAPIC_MAP : U64 := 3

def VMX_LAPIC_UNMAP : U64 := 0

def LAPIC_ICR_LOW : Nat := 0x300

def LAPIC_ICR_HIGH : Nat := 0x310

inductive LapicOp where
  | write
  | read
  | rsvd
  deriving DecidableEq

def vmxLapicChangemapping (lapicPaddr newLapicPaddr : U32) (mapflag : U64)
    (pTables : Nat → U64) : Nat → U64 :=
  Function.update pTables (lapicPaddr.toNat / 4096) (newLapicPaddr.setWidth 64 ||| mapflag)

/-! ## The machine -/

/-- The leaves together with what their writers keep between two events. -/
structure Ept01 where
  pTables : Nat → U64
  mtrr : GuestMtrrMsrs
  /-- `g_vmx_lapic_op` and `g_vmx_lapic_reg` -/
  lapicOp : LapicOp
  lapicReg : Nat
  /-- `g_all_cores_booted_up` -/
  allCoresBootedUp : Bool
  /-- The guest executes its LAPIC access with the trap flag that the EPT
  violation handler has set. -/
  singleStep : Bool

inductive Ept01Op where
  | setprot (gpa : U64) (prottype : U32)
  /-- `WRMSR` to an MTRR, with the hypapp's answer. -/
  | mtrrWrite (msr : U32) (val : U64) (hypappAllows : Bool)
  /-- Start of the SMP guest: `unmaplapic` on a machine with several CPUs. -/
  | lapicInitialize (unmaplapic : Bool)
  | linkLapic
  /-- EPT violation at a guest-physical address. -/
  | hwpgtblviolation (gpa : U64) (write : Bool)
  /-- Debug exception after the access; `value` is the word that the guest wrote
  and `allSipi` what `processSIPI` answers. -/
  | dbexception (value : U32) (allSipi : Bool)
  /-- `WRMSR` to the x2APIC interrupt command register. -/
  | x2apicIcrwrite (value : U64) (allSipi : Bool)

def mtrrWrite (pf : Platform) (s : Ept01) (msr : U32) (val : U64) (hypappAllows : Bool) :
    Option (Bool × Ept01) := do
  let reg ← mtrrReg s.mtrr msr
  guard hypappAllows
  match mtrrStore s.mtrr val reg with
  | .unchanged => return (true, s)
  | .rejected => return (false, s)
  | .stored m true => return (true, { s with mtrr := m })
  | .stored m false =>
    let pTables ← vmxUpdateEPTMemtype m 0 pf.maxPhysAddr s.pTables
    return (true, { s with mtrr := m, pTables := pTables })

def delinkLapic (pf : Platform) (s : Ept01) : Ept01 :=
  { s with
    pTables := vmxLapicChangemapping pf.lapicBase pf.lapicBase VMX_LAPIC_MAP s.pTables
    allCoresBootedUp := true }

def unmapLapic (pf : Platform) (s : Ept01) : Ept01 :=
  { s with pTables := vmxLapicChangemapping pf.lapicBase pf.lapicBase VMX_LAPIC_UNMAP s.pTables }

/-- The violation handler of the event hub sends an access to the LAPIC page
here until all cores run; other violations are the hypapp's. -/
def lapicViolation (pf : Platform) (s : Ept01) (gpa : U64) (write : Bool) : Ept01 :=
  if !s.allCoresBootedUp ∧ pf.lapicBase.toNat ≤ gpa.toNat ∧
      gpa.toNat < pf.lapicBase.toNat + 4096 then
    let reg := gpa.toNat - pf.lapicBase.toNat
    let icr := reg = LAPIC_ICR_LOW ∨ reg = LAPIC_ICR_HIGH
    { s with
      pTables := vmxLapicChangemapping pf.lapicBase
        (if icr then pf.virtualLapicBase else pf.lapicBase) VMX_LAPIC_MAP s.pTables
      lapicOp := if icr then (if write then .write else .read) else .rsvd
      lapicReg := reg
      singleStep := true }
  else s

/-- Whether the debug exception removes the interception of the LAPIC: the guest
has written a STARTUP IPI and it was the last one missing. -/
def delinksAfter (s : Ept01) (value : U32) (allSipi : Bool) : Bool :=
  s.lapicOp = .write ∧ s.lapicReg = LAPIC_ICR_LOW ∧ value &&& 0xf00 = 0x600 ∧ allSipi

def lapicDbexception (pf : Platform) (s : Ept01) (value : U32) (allSipi : Bool) : Option Ept01 :=
  if s.lapicOp ≠ .rsvd ∧ s.lapicReg ≠ LAPIC_ICR_LOW ∧ s.lapicReg ≠ LAPIC_ICR_HIGH then none
  else
    let s' := if delinksAfter s value allSipi then delinkLapic pf s else unmapLapic pf s
    some { s' with singleStep := false }

def x2apicIcrwrite (pf : Platform) (s : Ept01) (value : U64) (allSipi : Bool) : Option Ept01 :=
  if value &&& 0xf00 = 0x500 ∨ value &&& 0xf00 = 0x600 then
    if 0xff < (value >>> 32).toNat then none
    else if value &&& 0xf00 = 0x600 ∧ allSipi then some (delinkLapic pf s)
    else some s
  else some s

def ept01Step (pf : Platform) (s : Ept01) : Ept01Op → Option Ept01
  | .setprot gpa prottype => some { s with pTables := setprot gpa prottype s.pTables }
  | .mtrrWrite msr val hypappAllows => (mtrrWrite pf s msr val hypappAllows).map Prod.snd
  | .lapicInitialize unmaplapic => some (if unmaplapic then unmapLapic pf s else s)
  | .linkLapic => some { unmapLapic pf s with allCoresBootedUp := false }
  | .hwpgtblviolation gpa write => some (lapicViolation pf s gpa write)
  | .dbexception value allSipi => lapicDbexception pf s value allSipi
  | .x2apicIcrwrite value allSipi => x2apicIcrwrite pf s value allSipi

/-- `xmhf_memprot_arch_x86vmx_initialize` on a machine just started. -/
def ept01Boot (pf : Platform) (hw : MtrrHardware) : Option Ept01 := do
  let mtrr ← vmxGathermemorytypes hw
  let pTables ← vmxSetupEPT pf mtrr fun _ => 0
  return {
    pTables := pTables
    mtrr := mtrr
    lapicOp := .rsvd
    lapicReg := 0
    allCoresBootedUp := false
    singleStep := false }

def ept01Machine (pf : Platform) : Machine Ept01 Ept01Op where
  init s := ∃ hw, ept01Boot pf hw = some s
  step := ept01Step pf

end Xmhf
