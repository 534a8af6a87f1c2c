import Xmhf.Bitfield

/-!
# Page map entries

The page-table abstraction of `hpt.c` and `hpto.c`: one set of accessors for
the entries (`pme`) of the four paging types, at every level. A page map entry
object (`Pmeo`) is an entry with its type and level, a page map (`Pm`) is the
array of entries of one table.

An `assert` of the source is a precondition of the accessor, named in its
docstring; the assertion-failing values are never used by the walks of
`Xmhf.Hpt.Walk`.
-/

namespace Xmhf

/-- `HPT_TYPE_NORM`, `HPT_TYPE_PAE`, `HPT_TYPE_LONG` and `HPT_TYPE_EPT`. -/
inductive HptType where
  | norm
  | pae
  | long
  | ept
  deriving DecidableEq, Repr

abbrev Pme := U64
abbrev Prot := U64
abbrev Va := U64
abbrev Pa := U64

/-- Pointers of the hypervisor; it runs identity mapped, so they are host
physical addresses too. -/
abbrev Ptr := U64

abbrev Pm := Nat → Pme

/-- Memory, as far as page maps are concerned: what each page map pointer
points to. -/
abbrev Mem := Ptr → Pm

structure Pmeo where
  pme : Pme
  t : HptType
  lvl : Nat
  deriving DecidableEq

structure Pmo where
  pm : Ptr
  t : HptType
  lvl : Nat
  deriving DecidableEq

def hptPmSizeBytes : Nat := 4096

def hptPmSize : HptType → Nat → Nat
  | .norm, 1 => hptPmSizeBytes
  | .norm, 2 => hptPmSizeBytes
  | .pae, 1 => hptPmSizeBytes
  | .pae, 2 => hptPmSizeBytes
  | .pae, 3 => 4 * 8
  | .long, 1 => hptPmSizeBytes
  | .long, 2 => hptPmSizeBytes
  | .long, 3 => hptPmSizeBytes
  | .long, 4 => hptPmSizeBytes
  | .ept, 1 => hptPmSizeBytes
  | .ept, 2 => hptPmSizeBytes
  | .ept, 3 => hptPmSizeBytes
  | .ept, 4 => hptPmSizeBytes
  | _, _ => 0

/-- High bit of the address bits that index the page map of a level; the low
bit is one above the entry of the level below. -/
def hptVaIdxHi : HptType → Nat → Nat
  | .norm, 0 => 11
  | .norm, 1 => 21
  | .norm, 2 => 31
  | .pae, 0 => 11
  | .pae, 1 => 20
  | .pae, 2 => 29
  | .pae, 3 => 31
  | .long, 0 => 11
  | .long, 1 => 20
  | .long, 2 => 29
  | .long, 3 => 38
  | .long, 4 => 47
  | .ept, 0 => 11
  | .ept, 1 => 20
  | .ept, 2 => 29
  | .ept, 3 => 38
  | .ept, 4 => 47
  | _, _ => 0

def hptTypeMaxLvl : HptType → Nat
  | .norm => 2
  | .pae => 3
  | .long => 4
  | .ept => 4

abbrev hptProtReadMask : Prot := 1#64
abbrev hptProtWriteMask : Prot := 2#64
abbrev hptProtExecMask : Prot := 4#64
abbrev hptProtsRwx : Prot := hptProtReadMask ||| hptProtWriteMask ||| hptProtExecMask
abbrev hptProtsRw : Prot := hptProtReadMask ||| hptProtWriteMask
abbrev hptProtsRx : Prot := hptProtReadMask ||| hptProtExecMask
abbrev hptProtsR : Prot := hptProtReadMask
abbrev hptProtsNone : Prot := 0#64

/-- Memory types; an EPT entry can hold any three-bit number in their place. -/
abbrev hptPmtUc : U64 := 0#64
abbrev hptPmtWc : U64 := 1#64
abbrev hptPmtWt : U64 := 4#64
abbrev hptPmtWb : U64 := 6#64

def hptEptpGetAddress (eptp : U64) : Pa := br64CopyBitsHl 0#64 eptp 51 12 0

/-- Assumes that `lvl` is valid for the type. -/
def hptProtIsValid (t : HptType) (lvl : Nat) (perms : Prot) : Bool :=
  match t with
  | .norm => perms == hptProtsNone || perms == hptProtsRx || perms == hptProtsRwx
  | .pae => perms == hptProtsNone || perms == hptProtsRwx ||
      ((lvl != 3 && perms == hptProtsR) || perms == hptProtsRx || perms == hptProtsRw)
  | .long => perms == hptProtsNone || perms == hptProtsR || perms == hptProtsRx ||
      perms == hptProtsRw || perms == hptProtsRwx
  | .ept => true

def hptLvlIsValid (t : HptType) (lvl : Nat) : Bool := lvl ≤ hptTypeMaxLvl t

/-- Asserted: EPT entries and PAE level 3 entries are user accessible. -/
def hptPmeSetuser (t : HptType) (lvl : Nat) (entry : Pme) (userAccessible : Bool) : Pme :=
  match t with
  | .norm => br64SetBit entry 2 userAccessible
  | .pae => if lvl = 3 then entry else br64SetBit entry 2 userAccessible
  | .long => br64SetBit entry 2 userAccessible
  | .ept => entry

def hptPmeGetuser (t : HptType) (lvl : Nat) (entry : Pme) : Bool :=
  match t with
  | .norm => br64GetBit entry 2
  | .pae => if lvl = 3 then true else br64GetBit entry 2
  | .long => br64GetBit entry 2
  | .ept => true

/-- Asserted: `hptLvlIsValid t lvl` and `hptProtIsValid t lvl perms`. -/
def hptPmeSetprot (t : HptType) (lvl : Nat) (entry : Pme) (perms : Prot) : Pme :=
  let read := perms &&& hptProtReadMask != 0#64
  let write := perms &&& hptProtWriteMask != 0#64
  let exec := perms &&& hptProtExecMask != 0#64
  match t with
  | .norm => br64SetBit (br64SetBit entry 0 read) 1 write
  | .pae =>
    if lvl = 2 ∨ lvl = 1 then
      br64SetBit (br64SetBit (br64SetBit entry 0 read) 1 write) 63 !exec
    else br64SetBit entry 0 read
  | .long => br64SetBit (br64SetBit (br64SetBit entry 0 read) 1 write) 63 !exec
  | .ept => br64SetHl entry 2 0 perms

def hptProtOf (r w x : Bool) : Prot :=
  hptProtsNone ||| (if r then hptProtReadMask else 0#64) |||
    (if w then hptProtWriteMask else 0#64) ||| (if x then hptProtExecMask else 0#64)

/-- Asserted: `hptLvlIsValid t lvl`. -/
def hptPmeGetprot (t : HptType) (lvl : Nat) (entry : Pme) : Prot :=
  match t with
  | .norm =>
    let r := testMaskBit64 entry 0
    hptProtOf r (testMaskBit64 entry 1) r
  | .pae =>
    let r := testMaskBit64 entry 0
    if lvl = 2 ∨ lvl = 1 then hptProtOf r (testMaskBit64 entry 1) (!testMaskBit64 entry 63)
    else hptProtOf r r r
  | .long =>
    hptProtOf (testMaskBit64 entry 0) (testMaskBit64 entry 1) (!testMaskBit64 entry 63)
  | .ept => hptProtOf (testMaskBit64 entry 0) (testMaskBit64 entry 1) (testMaskBit64 entry 2)

/-- An EPT entry is present when any of its permissions is; other entries when
they are readable. -/
def hptPmeIsPresent (t : HptType) (lvl : Nat) (entry : Pme) : Bool :=
  match t with
  | .ept => hptPmeGetprot t lvl entry &&& hptProtsRwx != 0#64
  | _ => hptPmeGetprot t lvl entry &&& hptProtReadMask != 0#64

/-- Asserted: `isPage` at level 1, and not `isPage` at the levels above the
largest page. -/
def hptPmeSetPage (t : HptType) (lvl : Nat) (entry : Pme) (isPage : Bool) : Pme :=
  if lvl = 1 then entry
  else
    match t with
    | .norm => br64SetBit entry 7 isPage
    | .pae => if lvl ≤ 2 then br64SetBit entry 7 isPage else entry
    | .long => if lvl ≤ 3 then br64SetBit entry 7 isPage else entry
    | .ept => if lvl ≤ 3 then br64SetBit entry 7 isPage else entry

def hptPmeIsPage (t : HptType) (lvl : Nat) (entry : Pme) : Bool :=
  match t with
  | .norm => lvl == 1 || (lvl == 2 && br64GetBit entry 7)
  | .pae => lvl == 1 || (lvl == 2 && br64GetBit entry 7)
  | .long => lvl == 1 || ((lvl == 2 || lvl == 3) && br64GetBit entry 7)
  | .ept => lvl == 1 || ((lvl == 2 || lvl == 3) && br64GetBit entry 7)

def hptPmeGetAddress (t : HptType) (lvl : Nat) (entry : Pme) : Pa :=
  match t with
  | .norm =>
    if lvl = 2 then
      if hptPmeIsPage t lvl entry then
        br64CopyBitsHl (br64CopyBitsHl 0#64 entry 39 32 (32 - 13)) entry 31 22 (22 - 22)
      else br64CopyBitsHl 0#64 entry 31 12 0
    else br64CopyBitsHl 0#64 entry 31 12 0
  | .pae =>
    if hptPmeIsPage t lvl entry then
      if lvl = 1 then br64CopyBitsHl 0#64 entry 51 12 0 else br64CopyBitsHl 0#64 entry 51 13 0
    else br64CopyBitsHl 0#64 entry 51 12 0
  | .long =>
    if hptPmeIsPage t lvl entry then
      if lvl = 1 then br64CopyBitsHl 0#64 entry 51 12 0 else br64CopyBitsHl 0#64 entry 51 13 0
    else br64CopyBitsHl 0#64 entry 51 12 0
  | .ept => br64CopyBitsHl 0#64 entry 51 12 0

def hptPmeSetAddress (t : HptType) (lvl : Nat) (entry : Pme) (addr : Pa) : Pme :=
  match t with
  | .norm =>
    if lvl = 2 then
      -- For a 4 MB page the source computes bits 20:13 first and then starts
      -- again from `entry`, so only the second copy is kept.
      if hptPmeIsPage t lvl entry then br64CopyBitsHl entry addr 31 22 (22 - 22)
      else br64CopyBitsHl entry addr 31 12 0
    else br64CopyBitsHl entry addr 31 12 0
  | .pae =>
    if hptPmeIsPage t lvl entry then
      if lvl = 1 then br64CopyBitsHl entry addr 51 12 0 else br64CopyBitsHl entry addr 51 13 0
    else br64CopyBitsHl entry addr 51 12 0
  | .long =>
    if hptPmeIsPage t lvl entry then
      if lvl = 1 then br64CopyBitsHl entry addr 51 12 0 else br64CopyBitsHl entry addr 51 13 0
    else br64CopyBitsHl entry addr 51 12 0
  | .ept => br64CopyBitsHl entry addr 51 12 0

/-- Asserted for the page attribute bit: it is only set on a page. -/
def hptPmeSetPat (t : HptType) (lvl : Nat) (pme : Pme) (pat : Bool) : Pme :=
  if hptPmeIsPage t lvl pme then
    if lvl = 1 then br64SetBit pme 7 pat else br64SetBit pme 12 pat
  else pme

/-- Asserted for EPT: the entry is a page. The other types read the default
page attribute table. -/
def hptPmeGetPmt (t : HptType) (pme : Pme) : U64 :=
  match t with
  | .ept => br64GetHl pme 5 3
  | _ =>
    match br64GetBit pme 4, br64GetBit pme 3 with
    | false, false => hptPmtWb
    | false, true => hptPmtWt
    | true, false => hptPmtWc
    | true, true => hptPmtUc

/-- Asserted for EPT: the entry is a page; for the other types: `pmt` is one of
`UC`, `WC`, `WT` and `WB`. -/
def hptPmeSetPmt (t : HptType) (lvl : Nat) (pme : Pme) (pmt : U64) : Pme :=
  match t with
  | .ept => br64SetHl pme 5 3 pmt
  | _ =>
    let pcd := pmt == hptPmtUc || pmt == hptPmtWc
    let pwt := pmt == hptPmtUc || pmt == hptPmtWt
    br64SetBit (br64SetBit (hptPmeSetPat t lvl pme false) 4 pcd) 3 pwt

def hptGetPmIdx (t : HptType) (lvl : Nat) (va : Va) : Nat :=
  (br64GetHl va (hptVaIdxHi t lvl) (hptVaIdxHi t (lvl - 1) + 1)).toNat

def hptPmGetPmeByIdx (t : HptType) (pm : Pm) (idx : Nat) : Pme :=
  match t with
  | .norm => ((pm idx).setWidth 32).setWidth 64
  | _ => pm idx

def hptPmSetPmeByIdx (t : HptType) (pm : Pm) (idx : Nat) (pme : Pme) : Pm :=
  match t with
  | .norm => Function.update pm idx ((pme.setWidth 32).setWidth 64)
  | _ => Function.update pm idx pme

def hptPmGetPmeByVa (t : HptType) (lvl : Nat) (pm : Pm) (va : Va) : Pme :=
  hptPmGetPmeByIdx t pm (hptGetPmIdx t lvl va)

def hptPmSetPmeByVa (t : HptType) (lvl : Nat) (pm : Pm) (va : Va) (pme : Pme) : Pm :=
  hptPmSetPmeByIdx t pm (hptGetPmIdx t lvl va) pme

/-! ## Page map entry objects -/

namespace Pmeo

def getAddress (pmeo : Pmeo) : Pa := hptPmeGetAddress pmeo.t pmeo.lvl pmeo.pme

def setAddress (pmeo : Pmeo) (addr : Pa) : Pmeo :=
  { pmeo with pme := hptPmeSetAddress pmeo.t pmeo.lvl pmeo.pme addr }

def isPresent (pmeo : Pmeo) : Bool := hptPmeIsPresent pmeo.t pmeo.lvl pmeo.pme

def setPage (pmeo : Pmeo) (isPage : Bool) : Pmeo :=
  { pmeo with pme := hptPmeSetPage pmeo.t pmeo.lvl pmeo.pme isPage }

def isPage (pmeo : Pmeo) : Bool := hptPmeIsPage pmeo.t pmeo.lvl pmeo.pme

def setprot (pmeo : Pmeo) (perms : Prot) : Pmeo :=
  { pmeo with pme := hptPmeSetprot pmeo.t pmeo.lvl pmeo.pme perms }

def getprot (pmeo : Pmeo) : Prot := hptPmeGetprot pmeo.t pmeo.lvl pmeo.pme

def getcache (pmeo : Pmeo) : U64 := hptPmeGetPmt pmeo.t pmeo.pme

def setcache (pmeo : Pmeo) (pmt : U64) : Pmeo :=
  { pmeo with pme := hptPmeSetPmt pmeo.t pmeo.lvl pmeo.pme pmt }

def getuser (pmeo : Pmeo) : Bool := hptPmeGetuser pmeo.t pmeo.lvl pmeo.pme

def setuser (pmeo : Pmeo) (user : Bool) : Pmeo :=
  { pmeo with pme := hptPmeSetuser pmeo.t pmeo.lvl pmeo.pme user }

def vaToPa (pmeo : Pmeo) (va : Va) : Pa :=
  pmeo.getAddress + (va &&& maskRange64 (hptVaIdxHi pmeo.t (pmeo.lvl - 1)) 0)

def pageSizeLog2 (pmeo : Pmeo) : Nat := hptVaIdxHi pmeo.t (pmeo.lvl - 1) + 1

def remainingOnPage (pmeo : Pmeo) (va : Va) : Nat :=
  2 ^ pmeo.pageSizeLog2 - (va &&& maskRange64 ((pmeo.pageSizeLog2 : Int) - 1) 0).toNat

end Pmeo

def hptPmGetPmeoByVa (mem : Mem) (pmo : Pmo) (va : Va) : Pmeo :=
  ⟨hptPmGetPmeByVa pmo.t pmo.lvl (mem pmo.pm) va, pmo.t, pmo.lvl⟩

def hptPmoSetPmeByVa (mem : Mem) (pmo : Pmo) (pmeo : Pmeo) (va : Va) : Mem :=
  Function.update mem pmo.pm (hptPmSetPmeByVa pmo.t pmo.lvl (mem pmo.pm) va pmeo.pme)

end Xmhf
