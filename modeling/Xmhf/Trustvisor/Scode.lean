import Mathlib.Data.List.Range
import Xmhf.Lib.Machine
import Xmhf.Memprot.GuestVirtual

/-!
# TrustVisor: registered pieces of application logic

TrustVisor (`pt.c`, `scode.c`) runs pieces of application logic (PALs) of guest processes apart
from the guest. A process registers sections of its memory; TrustVisor takes them out of EPT01,
the nested page table of the guest, and puts them into a nested page table of the PAL. More
memory can be shared with the PAL for one run of it. Everything is returned when the PAL is
unregistered, shared memory already when the PAL returns.

EPT01 maps every guest-physical page to the frame of the same number, as the source assumes, and
so do the nested page tables of PALs: a nested page table is the protection of each frame.
The page tables of the guest belong to the guest, which can change them at any time, so each call
comes with the translation that it finds. `none` is a halted machine.
-/

namespace Xmhf

open Function (update)

/-- `enum tv_pal_section_type` -/
inductive TvPalSectionType where
  | code
  | data
  | param
  | stack
  | sharedCode
  | shared
  | guestPageTables
  deriving DecidableEq, Repr

/-- The number of a section type, as a guest passes it. -/
def tvPalSectionType (type : U32) : Option TvPalSectionType :=
  if type = 1 then some .code
  else if type = 2 then some .data
  else if type = 3 then some .param
  else if type = 4 then some .stack
  else if type = 5 then some .sharedCode
  else if type = 6 then some .shared
  else if type = 7 then some .guestPageTables
  else none

def palProtOfType : TvPalSectionType → Prot
  | .code | .sharedCode => hptProtsRx
  | .data | .param | .stack | .shared => hptProtsRw
  | .guestPageTables => hptProtsRwx

def regProtOfType : TvPalSectionType → Prot
  | .code | .data | .param | .stack | .shared => hptProtsNone
  | .sharedCode => hptProtsRx
  | .guestPageTables => hptProtsRwx

structure TvPalSection where
  type : U32
  pageNum : U32
  startAddr : U64

/-- `tv_pal_section_int_t` -/
structure TvPalSectionInt where
  regGva : U64
  palGva : U64
  size : Nat
  palProt : Prot
  regProt : Prot
  sectionType : TvPalSectionType

def TvPalSectionInt.ofType (gva : U64) (size : Nat) (type : TvPalSectionType) : TvPalSectionInt where
  regGva := gva
  palGva := gva
  size := size
  palProt := palProtOfType type
  regProt := regProtOfType type
  sectionType := type

def TvPalSection.int (sec : TvPalSection) : Option TvPalSectionInt :=
  (tvPalSectionType sec.type).map (TvPalSectionInt.ofType sec.startAddr (sec.pageNum.toNat * 4096))

def TV_MAX_SECTIONS : Nat := 10

/-- The number of entries that `WHITELIST_LIMIT` has room for. -/
def whitelistMax : Nat := 100

def RETURN_FROM_PAL_ADDRESS : U64 := 4

/-- An entry of a PAL's guest page table; it is present when it is readable. -/
structure PalGpme where
  gpa : Nat
  prot : Prot

/-- The page tables of a PAL, in the pages of `npl` and `gpl`: the protection of each frame, and
the entry of each guest-virtual page. -/
structure PalTables where
  npt : Nat → Prot
  gpt : Nat → PalGpme

/-- `hptw_pal_checked_guest_ctx` and `hptw_pal_host_ctx`: the type of the guest page tables, and
the page lists, by the memory that `malloc` returned for them. -/
structure PalCtx where
  t : HptType
  pageLists : Nat

/-- `whitelist_entry_t`. An entry with `gcr3 = 0` is free. -/
structure WhitelistEntry where
  gcr3 : U64
  g64 : Bool
  ept12 : U64
  entryV : U64
  entryP : U64
  sections : List TvPalSectionInt
  scodeInfo : List TvPalSection
  /-- `pal_running_lock` is taken. -/
  palRunning : Bool
  pal : PalCtx

/-- A guest at a call: its CR3 and mode, and for a guest-virtual address the guest-physical page
to which its own page tables, and EPT12 in L2, give it access with a protection. -/
structure TvGuest where
  gcr3 : U64
  t : HptType
  g64 : Bool
  ept12 : U64
  walk : Prot → U64 → Option Nat

/-- The frames of the page lists from which the guest page tables of PALs are taken. -/
structure PageLists where
  gpl : Nat → List Nat
  disjoint : ∀ {i j f}, f ∈ gpl i → f ∈ gpl j → i = j

/-- EPT01, and the page tables in the memory of each pair of page lists. -/
structure Mappings where
  ept01 : Nat → Prot
  tables : Nat → PalTables

structure Tv where
  maps : Mappings
  allocated : Nat → Bool
  whitelist : Nat → WhitelistEntry
  whitelistSize : Nat
  /-- `scode_curr`: the PAL that each CPU is running -/
  scodeCurr : Nat → Option Nat

inductive TvOp where
  /-- `TV_HC_REG`, with the page lists that `malloc` returns, whether the parameters can be
  parsed and whether the sections can be measured. -/
  | register (guest : TvGuest) (scodeInfo : List TvPalSection) (entryV entryP : U64)
      (pageLists : Option Nat) (parsed measured : Bool)
  /-- `TV_HC_UNREG` -/
  | unregister (guest : TvGuest) (gvaddr : U64)
  /-- `TV_HC_SHARE`: ranges by base and length -/
  | share (guest : TvGuest) (scodeEntry : U32) (ranges : List (U32 × U32))
  /-- EPT violation on a CPU: a PAL is entered, or returns. -/
  | npf (cpu : Nat) (guest : TvGuest) (rip gpaddr : U64) (insnFetch marshalled : Bool)

/-! ## Lending and returning sections -/

/-- The address bits that page tables of a type translate. -/
def hptVaBits (t : HptType) : Nat := hptVaIdxHi t (hptTypeMaxLvl t) + 1

def gvaPage (t : HptType) (gva : U64) : Nat := gva.toNat % 2 ^ hptVaBits t / 4096

/-- The page that an entry of a type can hold: 32-bit entries lose the high bits. -/
def entryPage (t : HptType) (page : Nat) : Nat :=
  match t with
  | .norm => page % 2 ^ 20
  | _ => page

def pageOffset (page : Nat) : U64 := BitVec.ofNat 64 (page * 4096)

/-- One page of `scode_lend_section`. The entry is made for the type of the guest's tables, and
written into those of the PAL. -/
def lendPage (guest : TvGuest) (pal : PalCtx) (sec : TvPalSectionInt) (m : Mappings)
    (page : Nat) : Option Mappings := do
  let tables := m.tables pal.pageLists
  let gva := gvaPage pal.t (sec.palGva + pageOffset page)
  let pageGpa ← guest.walk sec.palProt (sec.regGva + pageOffset page)
  guard ((tables.gpt gva).prot &&& hptProtsR = 0)
  -- `hptw_checked_get_pmeo` on EPT01
  guard (sec.palProt &&& m.ept01 pageGpa = sec.palProt)
  return {
    ept01 := update m.ept01 pageGpa sec.regProt
    tables := update m.tables pal.pageLists {
      npt := update tables.npt pageGpa sec.palProt
      gpt := update tables.gpt gva
        ⟨entryPage pal.t (entryPage guest.t pageGpa), hptProtsRwx⟩ } }

def scodeLendSection (guest : TvGuest) (pal : PalCtx) (m : Mappings) (sec : TvPalSectionInt) :
    Option Mappings := do
  guard (sec.size % 4096 = 0)
  (List.range (sec.size / 4096)).foldlM (lendPage guest pal sec) m

/-- One page of `scode_return_section`. -/
def returnPage (pageLists : Nat) (m : Mappings) (gva : Nat) : Option Mappings := do
  let tables := m.tables pageLists
  let pageGpa := (tables.gpt gva).gpa
  guard (tables.npt pageGpa &&& hptProtsR ≠ 0)
  return {
    ept01 := update m.ept01 pageGpa hptProtsRwx
    tables := update m.tables pageLists {
      npt := update tables.npt pageGpa hptProtsNone
      gpt := update tables.gpt gva ⟨pageGpa, hptProtsNone⟩ } }

def TvPalSectionInt.palPages (sec : TvPalSectionInt) (t : HptType) : List Nat :=
  (List.range (sec.size / 4096)).map fun page => gvaPage t (sec.palGva + pageOffset page)

def scodeReturnSection (pal : PalCtx) (m : Mappings) (sec : TvPalSectionInt) : Option Mappings :=
  (sec.palPages pal.t).foldlM (returnPage pal.pageLists) m

/-! ## Calls -/

/-- The comparison of a guest with the fields of an entry that name its process. -/
def WhitelistEntry.isOf (entry : WhitelistEntry) (guest : TvGuest) : Bool :=
  hptCr3GetAddress entry.pal.t guest.gcr3 = entry.gcr3 ∧ guest.g64 = entry.g64 ∧
    guest.ept12 = entry.ept12

/-- `find_scode_by_entry`, and the search at the head of `scode_unregister` -/
def findScodeByEntry (s : Tv) (guest : TvGuest) (gvEntry : U64) : Option Nat :=
  (List.range whitelistMax).find? fun i =>
    (s.whitelist i).isOf guest && (s.whitelist i).entryV = gvEntry

/-- `page_num` is shifted as a 32-bit number. -/
def TvPalSection.covers (sec : TvPalSection) (gvaddr : U64) : Bool :=
  sec.startAddr ≤ gvaddr && gvaddr < sec.startAddr + (sec.pageNum <<< 12).setWidth 64

def scodeInList (s : Tv) (guest : TvGuest) (gvaddr : U64) : Option Nat :=
  (List.range whitelistMax).find? fun i =>
    (s.whitelist i).isOf guest && (s.whitelist i).scodeInfo.any (·.covers gvaddr)

def Tv.setEntry (s : Tv) (i : Nat) (entry : WhitelistEntry) : Tv :=
  { s with whitelist := update s.whitelist i entry }

/-- The page tables of a new PAL: empty, but for access to its own guest page tables. -/
def newTables (lists : PageLists) (pageLists : Nat) : PalTables where
  npt f := if f ∈ lists.gpl pageLists then hptProtsRwx else hptProtsNone
  gpt _ := ⟨0, hptProtsNone⟩

def Mappings.setTables (m : Mappings) (pageLists : Nat) (tables : PalTables) : Mappings :=
  { m with tables := update m.tables pageLists tables }

def returnPageOf (t : HptType) : Nat := gvaPage t RETURN_FROM_PAL_ADDRESS

/-- The page of the return address is added to the guest page tables, for any guest-physical page:
it is not added to the nested page tables. -/
def mapReturnAddress (pal : PalCtx) (m : Mappings) : Mappings :=
  let tables := m.tables pal.pageLists
  m.setTables pal.pageLists { tables with
    gpt := update tables.gpt (returnPageOf pal.t)
      ⟨RETURN_FROM_PAL_ADDRESS.toNat / 4096, hptProtsRx⟩ }

/-- The checks of the arguments, whose failure is reported to the guest. -/
def registerable (s : Tv) (scodeInfo : List TvPalSection) (parsed : Bool) : Bool :=
  s.whitelistSize < whitelistMax && parsed && scodeInfo.length ≤ TV_MAX_SECTIONS &&
    scodeInfo.all fun sec => sec.startAddr &&& 0xfff = 0

/-- The sections of a new PAL are mapped, and then the return address. -/
def mapPal (lists : PageLists) (guest : TvGuest) (pal : PalCtx) (m : Mappings)
    (sections : List TvPalSectionInt) : Option Mappings := do
  let m ← sections.foldlM (scodeLendSection guest pal)
    (m.setTables pal.pageLists (newTables lists pal.pageLists))
  return mapReturnAddress pal m

/-- A registration that fails after the sections were lent leaves them so. -/
def scodeRegister (lists : PageLists) (s : Tv) (guest : TvGuest) (scodeInfo : List TvPalSection)
    (entryV entryP : U64) (pageLists : Option Nat) (parsed measured : Bool) : Option Tv :=
  match pageLists with
  | none => some s
  | some pageLists =>
    if !registerable s scodeInfo parsed then some s
    else do
      guard (!s.allocated pageLists)
      let pal : PalCtx := ⟨guest.t, pageLists⟩
      let sections ← scodeInfo.mapM TvPalSection.int
      let maps ← mapPal lists guest pal s.maps sections
      let s := { s with maps, allocated := update s.allocated pageLists true }
      if !measured then return s
      match (List.range whitelistMax).find? fun i => (s.whitelist i).gcr3 = 0 with
      | none => return s
      | some i => return { s.setEntry i {
          gcr3 := hptCr3GetAddress guest.t guest.gcr3
          g64 := guest.g64
          ept12 := guest.ept12
          entryV := entryV
          entryP := entryP
          sections := sections
          scodeInfo := scodeInfo
          palRunning := false
          pal := pal } with whitelistSize := s.whitelistSize + 1 }

/-- `hptw_checked_memset_va` on a page -/
def writable (tables : PalTables) (gva : Nat) : Bool :=
  (tables.gpt gva).prot &&& hptProtWriteMask ≠ 0 ∧
    tables.npt (tables.gpt gva).gpa &&& hptProtWriteMask ≠ 0

/-- One section of `scode_unregister`: what the PAL can write to and the guest can not read is
zeroed before it is returned. -/
def unregisterSection (pal : PalCtx) (m : Mappings) (sec : TvPalSectionInt) : Option Mappings := do
  if sec.palProt &&& hptProtWriteMask ≠ 0 ∧ sec.regProt &&& hptProtsR = 0 then
    guard ((sec.palPages pal.t).all (writable (m.tables pal.pageLists)))
  scodeReturnSection pal m sec

def scodeUnregister (s : Tv) (guest : TvGuest) (gvaddr : U64) : Option Tv :=
  if s.whitelistSize = 0 then some s
  else match findScodeByEntry s guest gvaddr with
    | none => some s
    | some i => do
        let entry := s.whitelist i
        let maps ← entry.sections.foldlM (unregisterSection entry.pal) s.maps
        return { s.setEntry i { entry with gcr3 := 0 } with
          maps
          whitelistSize := s.whitelistSize - 1
          allocated := update s.allocated entry.pal.pageLists false }

/-- The sections at the end of the array that are of type shared, last one first. -/
def trailingShared (sections : List TvPalSectionInt) : List TvPalSectionInt :=
  sections.reverse.takeWhile fun sec => sec.sectionType = .shared

def scodeReleaseAllSharedPages (s : Tv) (i : Nat) : Option Tv := do
  let entry := s.whitelist i
  let maps ← (trailingShared entry.sections).foldlM (scodeReturnSection entry.pal) s.maps
  return { s.setEntry i { entry with
    sections := (entry.sections.reverse.dropWhile fun sec => sec.sectionType = .shared).reverse }
    with maps }

/-- The section that `scode_share_range` makes of a range. -/
def sharedSection (range : U32 × U32) : TvPalSectionInt :=
  .ofType (range.1.setWidth 64) range.2.toNat .shared

/-- The loop of `scode_share_ranges` with `scode_share_range` in it. When the sections do not fit,
all that is shared is released. -/
def scodeShareRanges (guest : TvGuest) (i : Nat) : List (U32 × U32) → Tv → Option Tv
  | [], s => some s
  | range :: ranges, s =>
    let entry := s.whitelist i
    if entry.sections.length < TV_MAX_SECTIONS then do
      let maps ← scodeLendSection guest entry.pal s.maps (sharedSection range)
      scodeShareRanges guest i ranges
        { s.setEntry i { entry with sections := entry.sections ++ [sharedSection range] }
          with maps }
    else scodeReleaseAllSharedPages s i

/-- `hpt_scode_npf`, with `hpt_scode_switch_scode` and `hpt_scode_switch_regular`. An error halts;
a CPU that waits for `pal_running_lock` takes no step. -/
def hptScodeNpf (s : Tv) (cpu : Nat) (guest : TvGuest) (rip gpaddr : U64)
    (insnFetch marshalled : Bool) : Option Tv := do
  guard insnFetch
  match s.scodeCurr cpu, scodeInList s guest rip with
  | none, some i =>
    let entry := s.whitelist i
    guard (entry.entryV = rip ∧ entry.entryP = gpaddr)
    guard (!entry.palRunning && marshalled)
    return { s.setEntry i { entry with palRunning := true } with
      scodeCurr := update s.scodeCurr cpu (some i) }
  | some i, none =>
    guard (rip = RETURN_FROM_PAL_ADDRESS && marshalled)
    let s ← scodeReleaseAllSharedPages s i
    return { s.setEntry i { s.whitelist i with palRunning := false } with
      scodeCurr := update s.scodeCurr cpu none }
  | _, _ => none

def tvStep (lists : PageLists) (s : Tv) : TvOp → Option Tv
  | .register guest scodeInfo entryV entryP pageLists parsed measured =>
    scodeRegister lists s guest scodeInfo entryV entryP pageLists parsed measured
  | .unregister guest gvaddr => scodeUnregister s guest gvaddr
  | .share guest scodeEntry ranges =>
    match findScodeByEntry s guest (scodeEntry.setWidth 64) with
    | none => some s
    | some i => scodeShareRanges guest i ranges s
  | .npf cpu guest rip gpaddr insnFetch marshalled =>
    hptScodeNpf s cpu guest rip gpaddr insnFetch marshalled

/-- After `init_scode` no PAL is registered or running, and EPT01 hides the runtime, from whose
heap the page lists are taken. -/
def tvMachine (lists : PageLists) : Machine Tv TvOp where
  init s := (∀ i, (s.whitelist i).gcr3 = 0) ∧ s.whitelistSize = 0 ∧ (∀ i, s.allocated i = false) ∧
    (∀ cpu, s.scodeCurr cpu = none) ∧ ∀ i f, f ∈ lists.gpl i → s.maps.ept01 f = hptProtsNone
  step := tvStep lists

end Xmhf
