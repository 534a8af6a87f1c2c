import Xmhf.Bitfield
import Xmhf.Lib.Machine
import Xmhf.Lib.RadixTable

/-!
# IOMMU page tables

A hypapp can create page tables for DMA (`iommu-pt.c`), map pages in them and bind them to
devices. The tables are those of VT-d second-level translation, with three or four levels as the
hardware supports (`dmap-vmx-utils.c`); the context entry of a device in `vtd_cet` holds the root
of its table. A device that is not bound uses the table of the untrusted OS.

The heap from which the pages of tables come, the table of the untrusted OS, and where XMHF lies
in memory are parameters, with what is assumed of them.
-/

namespace Xmhf

/-- The bits of an entry that hold an address, for the hardware. -/
def vtdAddressMask : U64 := 0x000ffffffffff000

def VTD_READ : U64 := 1
def VTD_WRITE : U64 := 2
def VTD_EXECUTE : U64 := 4
def VTD_SUPERPAGE : U64 := 1 <<< 7

def DMA_ALLOW_ACCESS : U32 := 1
def DMA_DENY_ACCESS : U32 := 2

def ADDR64_PAGE_MASK_4K : U64 := 0xfffffffffffff000

def IOMMU_PT_INVALID : U32 := 0xffffffff
def UNTRUSTED_OS_IOMMU_PT_ID : U32 := 1
def MIN_SECOS_IOMMU_PT_ID : Nat := 2

def maxNumPts : Nat := 16

structure IommuConfig where
  /-- `g_vtd_cap_sagaw_mgaw_nd.sagaw` -/
  sagaw : U32
  /-- `rpb->XtVmmRuntimePhysBase` and `rpb->XtVmmRuntimeSize` -/
  mhvBase : U64
  mhvSize : U64
  mhv_pages : mhvBase.toNat % 4096 = 0 ∧ mhvSize.toNat % 4096 = 0
  mhv_fits : mhvBase.toNat + mhvSize.toNat < 2 ^ 64
  /-- The root of the untrusted OS's table, and its translation -/
  eapRoot : U64
  eapTranslate : U64 → Option Nat
  eap_protects : ∀ {gpa spa}, eapTranslate gpa = some spa →
    ¬ (mhvBase.toNat ≤ spa ∧ spa < mhvBase.toNat + mhvSize.toNat)
  eapRoot_page : eapRoot &&& vtdAddressMask = eapRoot
  /-- The page that an allocation returns, by the number of allocations so far and by the pages
  that are in use -/
  allocPage : Nat → (U64 → Bool) → Option U64
  alloc_page : ∀ {count used page}, allocPage count used = some page →
    used page = false ∧ page &&& vtdAddressMask = page ∧ page ≠ 0 ∧ page ≠ eapRoot

/-! ## The hardware -/

abbrev VtdStore := U64 → Nat → U64

/-- `PAE_get_ptindex` for the level 1, up to `PAE_get_pml4tindex` for the level 4 -/
def vtdIndex (lvl : Nat) (gpa : U64) : Nat := gpa.toNat / 2 ^ (9 * lvl + 3) % 512

def vtdShape : Radix.Shape U64 U64 Nat U64 where
  idx := vtdIndex
  slot lvl pte :=
    if pte &&& (VTD_READ ||| VTD_WRITE) = 0 then .absent
    else if lvl = 1 ∨ pte &&& VTD_SUPERPAGE ≠ 0 then .leaf
    else .table (pte &&& vtdAddressMask)

/-- The translation of a device address by the table of some number of levels. -/
def vtdTranslate (store : VtdStore) (levels : Nat) (root gpa : U64) : Option Nat :=
  if gpa.toNat < 2 ^ (9 * levels + 12) then
    (vtdShape.walk store gpa levels root).map fun (lvl, pte) =>
      (pte &&& vtdAddressMask).toNat / 2 ^ (9 * lvl + 3) * 2 ^ (9 * lvl + 3) +
        gpa.toNat % 2 ^ (9 * lvl + 3)
  else none

structure CetEntry where
  low : U64
  high : U64
  deriving DecidableEq

def CetEntry.root (entry : CetEntry) : U64 := entry.low &&& vtdAddressMask

/-- The number of levels that the address width of an entry stands for. -/
def CetEntry.levels (entry : CetEntry) : Option Nat :=
  if entry.high &&& 7 = 2 then some 4
  else if entry.high &&& 7 = 1 then some 3
  else none

/-! ## The tables -/

/-- `IOMMU_PT_INFO` -/
structure IommuPtInfo where
  iommuPtId : U32
  usedMem : List U64
  ptRoot : Option U64

/-- What `iommu_vmx_map` changes: the memory of tables, the heap, and the table's record. -/
structure PtMem where
  store : VtdStore
  used : U64 → Bool
  allocations : Nat
  usedMem : List U64

variable (cfg : IommuConfig)

/-- The levels of the tables: "Preferred to use 4-level PT" -/
def IommuConfig.levels : Option Nat :=
  if cfg.sagaw &&& 4 ≠ 0 then some 4
  else if cfg.sagaw &&& 2 ≠ 0 then some 3
  else none

def xmhfIsMhvMemory (spa : U64) : Bool := cfg.mhvBase ≤ spa && spa < cfg.mhvBase + cfg.mhvSize

/-- `xmhf_mm_alloc_page_with_record` for one page, which is zeroed -/
def PtMem.allocPage (m : PtMem) : PtMem × Option U64 :=
  match cfg.allocPage m.allocations m.used with
  | none => ({ m with allocations := m.allocations + 1 }, none)
  | some page => ({
      store := Function.update m.store page fun _ => 0
      used := Function.update m.used page true
      allocations := m.allocations + 1
      usedMem := page :: m.usedMem }, some page)

/-- `*p_pte = value` -/
def PtMem.write (m : PtMem) (ptBase : U64) (idx : Nat) (value : U64) : PtMem :=
  { m with store := Function.update m.store ptBase (Function.update (m.store ptBase) idx value) }

def vtdGetNextlvlPt (m : PtMem) (ptBase : U64) (ptIdx : Nat) : PtMem × Option U64 :=
  if m.store ptBase ptIdx = 0 then
    match m.allocPage cfg with
    | (m, none) => (m, none)
    | (m, some page) =>
      let m := m.write ptBase ptIdx
        ((page &&& ADDR64_PAGE_MASK_4K) ||| (VTD_READ ||| VTD_WRITE ||| VTD_EXECUTE))
      (m, some (m.store ptBase ptIdx &&& ADDR64_PAGE_MASK_4K))
  else (m, some (m.store ptBase ptIdx &&& ADDR64_PAGE_MASK_4K))

/-- The steps of `iommu_vmx_map` from a table of level `lvl + 1` down to the one of level 1. -/
def vtdGetPt (gpa : U64) : (lvl : Nat) → PtMem → U64 → PtMem × Option U64
  | 0, m, pt => (m, some pt)
  | lvl + 1, m, pt =>
    match vtdGetNextlvlPt cfg m pt (vtdIndex (lvl + 2) gpa) with
    | (m, none) => (m, none)
    | (m, some next) => vtdGetPt gpa lvl m next

/-- The last step of `iommu_vmx_map`. Any other flags change nothing. -/
def PtMem.mapSpa (m : PtMem) (pt gpa spa : U64) (flags : U32) : PtMem :=
  if flags = DMA_ALLOW_ACCESS then
    m.write pt (vtdIndex 1 gpa)
      ((spa &&& ADDR64_PAGE_MASK_4K) ||| (VTD_READ ||| VTD_WRITE ||| VTD_EXECUTE))
  else if flags = DMA_DENY_ACCESS then
    m.write pt (vtdIndex 1 gpa) ((spa &&& ADDR64_PAGE_MASK_4K) &&& 0xfffffffe)
  else m

structure Iommu where
  store : VtdStore
  used : U64 → Bool
  allocations : Nat
  /-- `iommu_pts` -/
  pts : Nat → Option IommuPtInfo
  /-- `vtd_cet`, by the offset of a device -/
  cet : Nat → CetEntry

/-- `__vtd_get_l1pt` and `iommu_vmx_map`, with the record of the table as it leaves it. -/
def iommuVmxMap (s : Iommu) (info : IommuPtInfo) (gpa spa : U64) (flags : U32) :
    Iommu × IommuPtInfo × Bool :=
  match cfg.levels with
  | none => (s, info, false)
  | some levels =>
    let m : PtMem := ⟨s.store, s.used, s.allocations, info.usedMem⟩
    let done (m : PtMem) (ptRoot : Option U64) (status : Bool) : Iommu × IommuPtInfo × Bool :=
      ({ s with store := m.store, used := m.used, allocations := m.allocations },
        { info with usedMem := m.usedMem, ptRoot }, status)
    let (m, ptRoot) := match info.ptRoot with
      | some root => (m, some root)
      | none => m.allocPage cfg
    match ptRoot with
    | none => done m none false
    | some root =>
      match vtdGetPt cfg gpa (levels - 1) m root with
      | (m, none) => done m root false
      | (m, some pt) => done (m.mapSpa pt gpa spa flags) root true

/-- `_pt_manager_get_pt` -/
def Iommu.getPt (s : Iommu) (ptHandle : U32) : Option IommuPtInfo :=
  if ptHandle = IOMMU_PT_INVALID ∨ maxNumPts ≤ ptHandle.toNat then none
  else s.pts ptHandle.toNat

def Iommu.setPt (s : Iommu) (ptHandle : Nat) (info : Option IommuPtInfo) : Iommu :=
  { s with pts := Function.update s.pts ptHandle info }

/-- `xmhf_iommu_pt_destroy`: the pages of the table go back to the heap. -/
def xmhfIommuPtDestroy (s : Iommu) (ptHandle : U32) : Iommu :=
  match s.getPt ptHandle with
  | none => s
  | some info =>
    { s.setPt ptHandle.toNat none with
      used := fun page => s.used page && !info.usedMem.contains page }

/-- `xmhf_iommu_pt_create`. Without a free handle the source goes on with memory that it has
freed, which is not modelled. -/
def xmhfIommuPtCreate (s : Iommu) : Option Iommu := do
  let handle ← (List.range maxNumPts).find? fun i =>
    MIN_SECOS_IOMMU_PT_ID ≤ i && (s.pts i).isNone
  let info : IommuPtInfo := ⟨BitVec.ofNat 32 handle, [], none⟩
  let (s, info, status) := iommuVmxMap cfg s info 0 0 DMA_DENY_ACCESS
  let s := s.setPt handle info
  return if status then s else xmhfIommuPtDestroy s info.iommuPtId

def xmhfIommuPtMap (s : Iommu) (ptHandle : U32) (gpa spa : U64) (flags : U32) : Iommu × Bool :=
  match s.getPt ptHandle with
  | none => (s, false)
  | some info =>
    if xmhfIsMhvMemory cfg spa then (s, false)
    else
      let (s, info, status) := iommuVmxMap cfg s info gpa spa flags
      (s.setPt ptHandle.toNat info, status)

structure DeviceDesc where
  bus : U32
  dev : U32
  func : U32

def DeviceDesc.cetOffset (device : DeviceDesc) : Nat :=
  device.bus.toNat * 4096 + (device.dev.toNat * 8 + device.func.toNat) * 16

def x86vmxBindCet (s : Iommu) (device : DeviceDesc) (ptId : U32) (root : U64) : Iommu :=
  let domain : U64 := (ptId.setWidth 64 &&& 0xffff) <<< 8
  match cfg.levels with
  | none => s
  | some levels =>
    let entry : CetEntry := ⟨root ||| 1, (if levels = 4 then 2 else 1) ||| domain⟩
    { s with cet := Function.update s.cet device.cetOffset entry }

/-- `xmhf_iommu_bind_device`; the root of a table that has none is address 0. -/
def xmhfIommuBindDevice (s : Iommu) (ptHandle : U32) (device : DeviceDesc) : Iommu :=
  match s.getPt ptHandle with
  | none => s
  | some info => x86vmxBindCet cfg s device info.iommuPtId (info.ptRoot.getD 0)

def xmhfIommuUnbindDevice (s : Iommu) (device : DeviceDesc) : Iommu :=
  x86vmxBindCet cfg s device UNTRUSTED_OS_IOMMU_PT_ID cfg.eapRoot

inductive IommuOp where
  | create
  | map (ptHandle : U32) (gpa spa : U64) (flags : U32)
  | bind (ptHandle : U32) (device : DeviceDesc)
  | unbind (device : DeviceDesc)
  | destroy (ptHandle : U32)

def iommuStep (s : Iommu) : IommuOp → Option Iommu
  | .create => xmhfIommuPtCreate cfg s
  | .map ptHandle gpa spa flags => some (xmhfIommuPtMap cfg s ptHandle gpa spa flags).1
  | .bind ptHandle device => some (xmhfIommuBindDevice cfg s ptHandle device)
  | .unbind device => some (xmhfIommuUnbindDevice cfg s device)
  | .destroy ptHandle => some (xmhfIommuPtDestroy s ptHandle)

/-- At first no table exists, and every device uses the table of the untrusted OS. -/
def iommuMachine : Machine Iommu IommuOp where
  init s := (∀ i, s.pts i = none) ∧ (∀ page, s.used page = false) ∧
    ∀ device, (s.cet device).root = cfg.eapRoot
  step := iommuStep cfg

def Iommu.deviceTranslate (s : Iommu) (entry : CetEntry) (gpa : U64) : Option Nat :=
  if entry.low &&& 1 = 0 then none
  else if entry.root = cfg.eapRoot then cfg.eapTranslate gpa
  else entry.levels.bind fun levels => vtdTranslate s.store levels entry.root gpa

end Xmhf
