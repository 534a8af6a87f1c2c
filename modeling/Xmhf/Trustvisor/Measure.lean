import Xmhf.Lib.HashChain
import Xmhf.Trustvisor.Whitelist

/-!
# TrustVisor: the measurement of a PAL

When a PAL is registered, `scode_measure_sections` (`scode.c`) hashes each of its sections with
SHA-1 and extends PCR 0 of the PAL's micro-TPM (`utpm_extend` of `utpm.c`) by the digest. The
micro-TPM has registers and digests of 32 bytes, for SHA-256: the 12 bytes that SHA-1 leaves in
the digest hold whatever was on the stack.

The hash functions are parameters. An ideal hash function has no collision among the inputs that
occur, and never gives the value that the register starts with.
-/

namespace Xmhf

/-- `TPM_DIGEST`, with `TPM_HASH_SIZE` bytes -/
abbrev TpmDigest := Vector U8 32

structure PalHashes where
  sha1 : List U8 → Vector U8 20
  sha256 : List U8 → TpmDigest

/-! ## The bytes of numbers -/

def littleEndian : Nat → Nat → List U8
  | 0, _ => []
  | count + 1, x => BitVec.ofNat 8 x :: littleEndian count (x / 256)

@[simp] theorem littleEndian_length (count x : Nat) : (littleEndian count x).length = count := by
  induction count generalizing x with
  | zero => rfl
  | succ count ih => rw [littleEndian, List.length_cons, ih]

theorem littleEndian_inj {count x y : Nat} (small : x < 256 ^ count) (small' : y < 256 ^ count)
    (same : littleEndian count x = littleEndian count y) : x = y := by
  induction count generalizing x y with
  | zero =>
    rw [pow_zero] at small small'
    omega
  | succ count ih =>
    rw [littleEndian, littleEndian, List.cons.injEq] at same
    obtain ⟨low, high⟩ := same
    have low : x % 256 = y % 256 := by
      have := congrArg BitVec.toNat low
      rwa [BitVec.toNat_ofNat, BitVec.toNat_ofNat] at this
    have high : x / 256 = y / 256 := by
      rw [pow_succ] at small small'
      exact ih (Nat.div_lt_of_lt_mul (by omega)) (Nat.div_lt_of_lt_mul (by omega)) high
    rw [← Nat.div_add_mod x 256, ← Nat.div_add_mod y 256, low, high]

theorem littleEndian_append_inj {count x y : Nat} {rest rest' : List U8} (small : x < 256 ^ count)
    (small' : y < 256 ^ count)
    (same : littleEndian count x ++ rest = littleEndian count y ++ rest') :
    x = y ∧ rest = rest' := by
  obtain ⟨front, back⟩ := List.append_inj same (by simp)
  exact ⟨littleEndian_inj small small' front, back⟩

/-! ## The model -/

/-- The number of a section type, in `section_type`. -/
def TvPalSectionType.number : TvPalSectionType → Nat
  | .code => 1
  | .data => 2
  | .param => 3
  | .stack => 4
  | .sharedCode => 5
  | .shared => 6
  | .guestPageTables => 7

/-- `utpm_extend`: the register and the measurement are hashed, `TPM_HASH_SIZE` bytes of each. -/
def utpmExtend (h : PalHashes) (pcr measurement : TpmDigest) : TpmDigest :=
  h.sha256 (pcr.toList ++ measurement.toList)

/-- What `scode_measure_section` hashes of a section before its contents. -/
def TvPalSectionInt.header (sec : TvPalSectionInt) : List U8 :=
  littleEndian 4 sec.sectionType.number ++
    (if sec.sectionType = .stack ∨ sec.sectionType = .param then []
      else littleEndian 8 sec.palGva.toNat) ++
    littleEndian 8 sec.size

/-- A PAL's memory as `hptw_pal_checked_guest_ctx` gives access to it: the page tables of the PAL,
and the bytes of physical memory. -/
structure PalMemory where
  t : HptType
  tables : PalTables
  bytes : Nat → U8

namespace PalMemory

variable (mem : PalMemory)

def gpme (va : U64) : PalGpme := mem.tables.gpt (gvaPage mem.t va)

/-- Both page tables of the PAL allow to read the address. -/
def Readable (va : U64) : Prop :=
  hptProtsR &&& (mem.gpme va).prot = hptProtsR ∧
    hptProtsR &&& mem.tables.npt (mem.gpme va).gpa = hptProtsR

instance (va : U64) : Decidable (mem.Readable va) := inferInstanceAs (Decidable (_ ∧ _))

def physical (va : U64) : Nat := (mem.gpme va).gpa * 4096 + va.toNat % 4096

/-- `hptw_checked_access_va` for reading: the physical address, and how many bytes there are up to
the end of the page. -/
def access (va : U64) (requestedSz : Nat) : Option (Nat × Nat) :=
  if mem.Readable va then some (mem.physical va, min requestedSz (4096 - va.toNat % 4096))
  else none

end PalMemory

/-- The loop that measures the contents, with `fuel` iterations at most. -/
def measureContents (mem : PalMemory) (sec : TvPalSectionInt) :
    (fuel measured : Nat) → Option (List U8)
  | fuel, measured =>
    if measured < sec.size then
      match fuel with
      | 0 => none
      | fuel + 1 => do
        let (ptr, toMeasure) ← mem.access (sec.palGva + BitVec.ofNat 64 measured)
          (sec.size - measured)
        let rest ← measureContents mem sec fuel (measured + toMeasure)
        return (List.range toMeasure).map (fun i => mem.bytes (ptr + i)) ++ rest
    else some []

/-- `scode_measure_section`: PCR 0 is extended in a build with `__DRT__`. `leftover` is what the
digest on the stack holds past the result of SHA-1. -/
def scodeMeasureSection (h : PalHashes) (drt : Bool) (mem : PalMemory) (leftover : Vector U8 12)
    (pcr : TpmDigest) (sec : TvPalSectionInt) : Option TpmDigest := do
  let contents ← measureContents mem sec sec.size 0
  let sha1sum : TpmDigest := h.sha1 (sec.header ++ contents) ++ leftover
  return if drt then utpmExtend h pcr sha1sum else pcr

/-- `scode_measure_sections`, from section `i` on. -/
def scodeMeasureSections (h : PalHashes) (drt : Bool) (mem : PalMemory)
    (leftover : Nat → Vector U8 12) : (i : Nat) → TpmDigest → List TvPalSectionInt →
    Option TpmDigest
  | _, pcr, [] => some pcr
  | i, pcr, sec :: sections => do
    let pcr ← scodeMeasureSection h drt mem (leftover i) pcr sec
    scodeMeasureSections h drt mem leftover (i + 1) pcr sections

def zeroPcr : TpmDigest := Vector.replicate 32 0

/-! ## The contents of a section -/

def TvPalSectionInt.address (sec : TvPalSectionInt) (offset : Nat) : U64 :=
  sec.palGva + BitVec.ofNat 64 offset

/-- The bytes of a section that lie at the offsets, in the PAL's view. -/
def PalMemory.contents (mem : PalMemory) (sec : TvPalSectionInt) (offsets : List Nat) : List U8 :=
  offsets.map fun offset => mem.bytes (mem.physical (sec.address offset))

section contents

variable {mem : PalMemory} {sec : TvPalSectionInt} {va : U64} {i n : Nat}

section

variable (inside : i < 4096 - va.toNat % 4096)

include inside

theorem toNat_add_on_page : (va + BitVec.ofNat 64 i).toNat = va.toNat + i := by
  have below := va.isLt
  rw [BitVec.toNat_add, BitVec.toNat_ofNat]
  omega

theorem gvaPage_on_page {t : HptType} : gvaPage t (va + BitVec.ofNat 64 i) = gvaPage t va := by
  have wide : ∃ bits, 2 ^ hptVaBits t = 4096 * 2 ^ bits := by
    refine ⟨hptVaBits t - 12, ?_⟩
    cases t <;> rfl
  obtain ⟨bits, wide⟩ := wide
  unfold gvaPage
  rw [wide, Nat.mod_mul_right_div_self, Nat.mod_mul_right_div_self, toNat_add_on_page inside]
  congr 1
  omega

theorem PalMemory.gpme_on_page : mem.gpme (va + BitVec.ofNat 64 i) = mem.gpme va := by
  unfold PalMemory.gpme
  rw [gvaPage_on_page inside]

theorem PalMemory.readable_on_page : mem.Readable (va + BitVec.ofNat 64 i) ↔ mem.Readable va := by
  unfold PalMemory.Readable
  rw [PalMemory.gpme_on_page inside]

theorem PalMemory.physical_on_page :
    mem.physical (va + BitVec.ofNat 64 i) = mem.physical va + i := by
  unfold PalMemory.physical
  rw [PalMemory.gpme_on_page inside, toNat_add_on_page inside]
  omega

end

theorem TvPalSectionInt.address_add (sec : TvPalSectionInt) (offset i : Nat) :
    sec.address (offset + i) = sec.address offset + BitVec.ofNat 64 i := by
  unfold TvPalSectionInt.address
  rw [BitVec.ofNat_add, add_assoc]

theorem PalMemory.chunk (offset : Nat) (inside : n ≤ 4096 - (sec.address offset).toNat % 4096) :
    (List.range n).map (fun i => mem.bytes (mem.physical (sec.address offset) + i)) =
      mem.contents sec (List.range' offset n) := by
  rw [PalMemory.contents, List.range'_eq_map_range, List.map_map]
  refine List.map_congr_left fun i small => ?_
  have small : i < n := List.mem_range.mp small
  rw [Function.comp_apply, sec.address_add, PalMemory.physical_on_page (by omega)]

theorem measureContents_done {fuel measured : Nat} {bytes : List U8}
    (done : ¬ measured < sec.size) :
    measureContents mem sec fuel measured = some bytes ↔
      (∀ offset, measured ≤ offset → offset < sec.size → mem.Readable (sec.address offset)) ∧
        bytes = mem.contents sec (List.range' measured (sec.size - measured)) := by
  have nothing : sec.size - measured = 0 := by omega
  unfold measureContents
  rw [if_neg done, nothing]
  constructor
  · rintro ⟨⟩
    exact ⟨fun offset above below => absurd below (by omega), rfl⟩
  · rintro ⟨-, rfl⟩
    rfl

theorem measureContents_succ {fuel measured : Nat} (more : measured < sec.size) :
    measureContents mem sec (fuel + 1) measured =
      if mem.Readable (sec.address measured) then
        let toMeasure := min (sec.size - measured) (4096 - (sec.address measured).toNat % 4096)
        (measureContents mem sec fuel (measured + toMeasure)).map
          (mem.contents sec (List.range' measured toMeasure) ++ ·)
      else none := by
  rw [measureContents, if_pos more]
  change (mem.access (sec.address measured) (sec.size - measured)).bind _ = _
  unfold PalMemory.access
  split
  · rw [Option.bind_some]
    dsimp only
    rw [← PalMemory.chunk measured (min_le_right _ _)]
    exact (Option.map_eq_bind ..).symm
  · rfl

theorem measureContents_iff {fuel measured : Nat} {bytes : List U8}
    (enough : sec.size - measured ≤ fuel) :
    measureContents mem sec fuel measured = some bytes ↔
      (∀ offset, measured ≤ offset → offset < sec.size → mem.Readable (sec.address offset)) ∧
        bytes = mem.contents sec (List.range' measured (sec.size - measured)) := by
  induction fuel generalizing measured bytes with
  | zero =>
    have done : ¬ measured < sec.size := by omega
    exact measureContents_done done
  | succ fuel ih =>
    by_cases more : measured < sec.size
    · rw [measureContents_succ more]
      split
      · next readable =>
        generalize count : min (sec.size - measured)
          (4096 - (sec.address measured).toNat % 4096) = n
        have joined : mem.contents sec (List.range' measured n) ++
            mem.contents sec (List.range' (measured + n) (sec.size - (measured + n))) =
              mem.contents sec (List.range' measured (sec.size - measured)) := by
          have rest : sec.size - measured = n + (sec.size - (measured + n)) := by omega
          rw [rest, ← List.range'_append_1, PalMemory.contents, PalMemory.contents,
            ← List.map_append, PalMemory.contents]
        have page : ∀ offset, measured ≤ offset → offset < measured + n →
            mem.Readable (sec.address offset) := by
          intro offset above below
          obtain ⟨i, rfl⟩ := Nat.exists_eq_add_of_le above
          rw [sec.address_add, PalMemory.readable_on_page (by omega)]
          exact readable
        rw [Option.map_eq_some_iff]
        constructor
        · rintro ⟨rest, found, rfl⟩
          obtain ⟨others, rfl⟩ := (ih (by omega)).mp found
          refine ⟨fun offset above below => ?_, joined⟩
          rcases lt_or_ge offset (measured + n) with near | far
          · exact page offset above near
          · exact others offset far below
        · rintro ⟨all, rfl⟩
          refine ⟨_, (ih (by omega)).mpr ⟨fun offset above below => ?_, rfl⟩, joined⟩
          exact all offset (by omega) below
      · next unreadable =>
        refine ⟨nofun, fun ⟨all, _⟩ => ?_⟩
        exact absurd (all measured le_rfl more) unreadable
    · exact measureContents_done more

end contents

/-! ## What is measured -/

/-- What a measurement of a section is meant to cover: its type and size, the address where it is
mapped, except for stacks and parameters, and its contents. -/
structure MeasuredSection where
  type : TvPalSectionType
  address : Option U64
  size : Nat
  contents : List U8
  deriving DecidableEq

namespace MeasuredSection

/-- The type of a section whose address is not measured. -/
def Floating (type : TvPalSectionType) : Prop := type = .stack ∨ type = .param

instance (type : TvPalSectionType) : Decidable (Floating type) := inferInstanceAs (Decidable (_ ∨ _))

/-- What `scode_measure_section` hashes. -/
def encode (m : MeasuredSection) : List U8 :=
  littleEndian 4 m.type.number ++ (m.address.elim [] fun gva => littleEndian 8 gva.toNat) ++
    littleEndian 8 m.size ++ m.contents

/-- The fields fit together, and the size into a `size_t`. -/
structure WellFormed (m : MeasuredSection) : Prop where
  address : m.address = none ↔ Floating m.type
  size : m.size < 2 ^ 64

theorem number_inj {a b : TvPalSectionType} (same : a.number = b.number) : a = b := by
  cases a <;> cases b <;> first | rfl | cases same

theorem number_small (type : TvPalSectionType) : type.number < 256 ^ 4 := by
  cases type <;> decide

theorem encode_inj {m m' : MeasuredSection} (wf : m.WellFormed) (wf' : m'.WellFormed)
    (same : m.encode = m'.encode) : m = m' := by
  obtain ⟨type, address, size, contents⟩ := m
  obtain ⟨type', address', size', contents'⟩ := m'
  simp only [encode, List.append_assoc] at same
  obtain ⟨types, rest⟩ := littleEndian_append_inj (number_small _) (number_small _) same
  obtain rfl := number_inj types
  have addresses : address = none ↔ address' = none := wf.address.trans wf'.address.symm
  cases address with
  | none =>
    obtain rfl := addresses.mp rfl
    obtain ⟨sizes, contents⟩ := littleEndian_append_inj wf.size wf'.size rest
    rw [sizes, contents]
  | some gva =>
    cases address' with
    | none => exact absurd (addresses.mpr rfl) nofun
    | some gva' =>
      obtain ⟨gvas, last⟩ := littleEndian_append_inj gva.isLt gva'.isLt rest
      obtain ⟨sizes, contents⟩ := littleEndian_append_inj wf.size wf'.size last
      rw [BitVec.eq_of_toNat_eq gvas, sizes, contents]

end MeasuredSection

def PalMemory.measured (mem : PalMemory) (sec : TvPalSectionInt) : MeasuredSection where
  type := sec.sectionType
  address := if MeasuredSection.Floating sec.sectionType then none else some sec.palGva
  size := sec.size
  contents := mem.contents sec (List.range sec.size)

theorem PalMemory.measured_wellFormed {mem : PalMemory} {sec : TvPalSectionInt}
    (small : sec.size < 2 ^ 64) : (mem.measured sec).WellFormed := by
  refine ⟨?_, small⟩
  unfold PalMemory.measured
  split
  · next floating => exact iff_of_true rfl floating
  · next fixed => exact iff_of_false nofun fixed

theorem PalMemory.encode_measured {mem : PalMemory} {sec : TvPalSectionInt} :
    (mem.measured sec).encode = sec.header ++ mem.contents sec (List.range sec.size) := by
  unfold MeasuredSection.encode PalMemory.measured TvPalSectionInt.header
  congr 3
  by_cases floating : MeasuredSection.Floating sec.sectionType
  · rw [if_pos floating]
    exact (if_pos floating).symm
  · rw [if_neg floating]
    exact (if_neg floating).symm

/-- The digest by which section `i` extends PCR 0. -/
def measurement (h : PalHashes) (leftover : Nat → Vector U8 12) (i : Nat) (m : MeasuredSection) :
    TpmDigest :=
  h.sha1 m.encode ++ leftover i

/-- The digests of a list of sections, of which the first is section `i`. -/
def measurements (h : PalHashes) (leftover : Nat → Vector U8 12) :
    (i : Nat) → List MeasuredSection → List TpmDigest
  | _, [] => []
  | i, m :: ms => measurement h leftover i m :: measurements h leftover (i + 1) ms

variable {h : PalHashes}

theorem scodeMeasureSection_some {mem : PalMemory} {leftover : Nat → Vector U8 12} {i : Nat}
    {pcr pcr' : TpmDigest} {sec : TvPalSectionInt}
    (measures : scodeMeasureSection h true mem (leftover i) pcr sec = some pcr') :
    pcr' = utpmExtend h pcr (measurement h leftover i (mem.measured sec)) := by
  obtain ⟨contents, found, measures⟩ := Option.bind_eq_some_iff.mp measures
  obtain ⟨-, rfl⟩ := (measureContents_iff (by omega)).mp found
  cases measures
  rw [measurement, PalMemory.encode_measured, Nat.sub_zero, ← List.range_eq_range', if_pos rfl]

variable {sections : List TvPalSectionInt}

theorem scodeMeasureSections_some {mem : PalMemory} {leftover : Nat → Vector U8 12} {i : Nat}
    {pcr pcr' : TpmDigest}
    (measures : scodeMeasureSections h true mem leftover i pcr sections = some pcr') :
    pcr' = HashChain.extend (utpmExtend h) pcr
      (measurements h leftover i (sections.map mem.measured)) := by
  induction sections generalizing i pcr with
  | nil => exact (Option.some.inj measures).symm
  | cons sec sections ih =>
    obtain ⟨next, first, measures⟩ := Option.bind_eq_some_iff.mp measures
    rw [ih measures, scodeMeasureSection_some first]
    rfl

/-! ## Registrations -/

/-- A call of `scode_register`: what `scodeRegister` takes, and when the sections are measured the
bytes of physical memory and the rest of the digest on the stack, for each section. -/
structure PalRegistration where
  lists : PageLists
  before : Tv
  guest : TvGuest
  scodeInfo : List TvPalSection
  entryV : U64
  entryP : U64
  pageLists : Nat
  bytes : Nat → U8
  leftover : Nat → Vector U8 12

namespace PalRegistration

variable (r : PalRegistration)

/-- The sections in the new entry of the whitelist, and the PAL's memory. -/
def pal : Option (List TvPalSectionInt × PalMemory) := do
  guard (registerable r.before r.scodeInfo true)
  let i ← freeEntry r.before
  let s ← scodeRegister r.lists r.before r.guest r.scodeInfo r.entryV r.entryP (some r.pageLists)
    true true
  let entry := s.whitelist i
  return (entry.sections, ⟨entry.pal.t, s.maps.tables entry.pal.pageLists, r.bytes⟩)

/-- PCR 0 of the new PAL, in a build with or without `__DRT__`. -/
def pcr0 (h : PalHashes) (drt : Bool) : Option TpmDigest := do
  let (sections, mem) ← r.pal
  scodeMeasureSections h drt mem r.leftover 0 zeroPcr sections

/-- The ordered list of the sections with their contents. -/
def measured : List MeasuredSection :=
  match r.pal with
  | some (sections, mem) => sections.map mem.measured
  | none => []

def sha1Inputs : List (List U8) := r.measured.map MeasuredSection.encode

def sha256Inputs (h : PalHashes) : List (List U8) :=
  (HashChain.inputs (utpmExtend h) zeroPcr (measurements h r.leftover 0 r.measured)).map
    fun input => input.1.toList ++ input.2.toList

variable {r}

theorem pal_eq : r.pal = do
    guard (registerable r.before r.scodeInfo true)
    let _ ← freeEntry r.before
    guard (!r.before.allocated r.pageLists)
    let sections ← r.scodeInfo.mapM TvPalSection.int
    let maps ← mapPal r.lists r.guest ⟨r.guest.t, r.pageLists⟩ r.before.maps sections
    return (sections, ⟨r.guest.t, maps.tables r.pageLists, r.bytes⟩) := by
  unfold pal
  by_cases able : registerable r.before r.scodeInfo true
  · cases free : freeEntry r.before with
    | none => rfl
    | some i =>
      have found : (List.range whitelistMax).find? (fun i => (r.before.whitelist i).gcr3 = 0#64) =
        some i := free
      unfold scodeRegister
      rw [able]
      cases fresh : r.before.allocated r.pageLists with
      | true => simp [fresh]
      | false =>
        cases ints : r.scodeInfo.mapM TvPalSection.int with
        | none => simp [fresh]
        | some sections =>
          cases maps : mapPal r.lists r.guest ⟨r.guest.t, r.pageLists⟩ r.before.maps sections with
          | none => simp [fresh, maps]
          | some maps => simp [fresh, found, maps, Tv.setEntry]
  · rw [eq_false_of_ne_true able]
    rfl

theorem pal_entry (entryV entryP : U64) : { r with entryV, entryP }.pal = r.pal := by
  rw [pal_eq, pal_eq]

theorem pal_size {mem : PalMemory} (found : r.pal = some (sections, mem)) :
    ∀ sec ∈ sections, sec.size < 2 ^ 64 := by
  rw [pal_eq] at found
  obtain ⟨_, -, found⟩ := Option.bind_eq_some_iff.mp found
  obtain ⟨_, -, found⟩ := Option.bind_eq_some_iff.mp found
  obtain ⟨_, -, found⟩ := Option.bind_eq_some_iff.mp found
  obtain ⟨ints, mapped, found⟩ := Option.bind_eq_some_iff.mp found
  obtain ⟨maps, -, found⟩ := Option.bind_eq_some_iff.mp found
  cases found
  intro sec mem
  obtain ⟨desc, -, int⟩ := mem_of_mapM mapped mem
  obtain ⟨type, -, rfl⟩ := Option.map_eq_some_iff.mp int
  have pages := desc.pageNum.isLt
  change desc.pageNum.toNat * 4096 < 2 ^ 64
  omega

theorem measured_wellFormed : ∀ m ∈ r.measured, m.WellFormed := by
  intro m mem
  unfold measured at mem
  split at mem
  · next sections memory found =>
    obtain ⟨sec, listed, rfl⟩ := List.mem_map.mp mem
    exact PalMemory.measured_wellFormed (pal_size found sec listed)
  · exact absurd mem List.not_mem_nil

theorem pcr0_some {pcr : TpmDigest} (measures : r.pcr0 h true = some pcr) :
    pcr = HashChain.extend (utpmExtend h) zeroPcr (measurements h r.leftover 0 r.measured) := by
  obtain ⟨⟨sections, mem⟩, found, measures⟩ := Option.bind_eq_some_iff.mp measures
  have known : r.measured = sections.map mem.measured := by
    unfold measured
    rw [found]
  rw [scodeMeasureSections_some measures, known]

end PalRegistration

theorem measurements_inj {leftover leftover' : Nat → Vector U8 12} {ms ms' : List MeasuredSection}
    {i : Nat} (injOn : Set.InjOn h.sha1 {input | input ∈ (ms ++ ms').map MeasuredSection.encode})
    (wf : ∀ m ∈ ms ++ ms', m.WellFormed)
    (same : measurements h leftover i ms = measurements h leftover' i ms') : ms = ms' := by
  induction ms generalizing ms' i with
  | nil =>
    cases ms' with
    | nil => rfl
    | cons => cases same
  | cons m ms ih =>
    cases ms' with
    | nil => cases same
    | cons m' ms' =>
      obtain ⟨first, others⟩ := List.cons.inj same
      have digests : h.sha1 m.encode = h.sha1 m'.encode := by
        have lists := congrArg Vector.toList first
        unfold measurement at lists
        rw [Vector.toList_append, Vector.toList_append] at lists
        exact Vector.toList_inj.mp (List.append_inj_left lists (by simp))
      have listed : m' ∈ (m :: ms) ++ m' :: ms' := by simp
      have encodes : m.encode = m'.encode :=
        injOn (List.mem_map_of_mem List.mem_cons_self) (List.mem_map_of_mem listed) digests
      obtain rfl := MeasuredSection.encode_inj (wf m List.mem_cons_self) (wf m' listed) encodes
      have fewer : ms ++ ms' ⊆ (m :: ms) ++ m :: ms' := by
        intro n mem
        rcases List.mem_append.mp mem with left | right
        · simp [left]
        · simp [right]
      rw [ih (injOn.mono (List.map_subset _ fewer)) (fun n mem => wf n (fewer mem)) others]

/-- The hash functions have no collision among what they hash in the registrations. -/
structure CollisionFree (h : PalHashes) (a b : PalRegistration) : Prop where
  sha1 : Set.InjOn h.sha1 {input | input ∈ a.sha1Inputs ++ b.sha1Inputs}
  sha256 : Set.InjOn h.sha256 {input | input ∈ a.sha256Inputs h ++ b.sha256Inputs h}

/-- Also, the register of a new micro-TPM is no hash of what they hash. -/
structure IdealHashes (h : PalHashes) (a b : PalRegistration) : Prop
    extends CollisionFree h a b where
  fresh : ∀ input ∈ a.sha256Inputs h ++ b.sha256Inputs h, h.sha256 input ≠ zeroPcr

theorem IdealHashes.chain {a b : PalRegistration} (ideal : IdealHashes h a b) :
    HashChain.Ideal (utpmExtend h) zeroPcr (measurements h a.leftover 0 a.measured)
      (measurements h b.leftover 0 b.measured) := by
  have joined : ∀ {input : TpmDigest × TpmDigest},
      input ∈ HashChain.inputs (utpmExtend h) zeroPcr (measurements h a.leftover 0 a.measured) ++
        HashChain.inputs (utpmExtend h) zeroPcr (measurements h b.leftover 0 b.measured) →
      input.1.toList ++ input.2.toList ∈ a.sha256Inputs h ++ b.sha256Inputs h := by
    intro input mem
    rcases List.mem_append.mp mem with left | right
    · exact List.mem_append_left _ (List.mem_map_of_mem left)
    · exact List.mem_append_right _ (List.mem_map_of_mem right)
  refine ⟨?_, fun input mem => ideal.fresh _ (joined mem)⟩
  rintro ⟨pcr, digest⟩ left ⟨pcr', digest'⟩ right same
  have bytes := ideal.sha256 (joined left) (joined right) same
  obtain ⟨pcrs, digests⟩ := List.append_inj bytes (by simp)
  exact Prod.ext (Vector.toList_inj.mp pcrs) (Vector.toList_inj.mp digests)

/-- PCR 0 commits to the list of the sections, and but for the rest of the digest on the stack it
depends on nothing else; the entry point is not measured. -/
theorem pal_measurement {h : PalHashes} {a b : PalRegistration} {pcr pcr' : TpmDigest}
    (first : a.pcr0 h true = some pcr) (second : b.pcr0 h true = some pcr') :
    (a.measured = b.measured → a.leftover = b.leftover → pcr = pcr') ∧
      (IdealHashes h a b → a.measured ≠ b.measured → pcr ≠ pcr') ∧
      ∀ entryV entryP, { a with entryV, entryP }.pcr0 h true = some pcr := by
  have known := PalRegistration.pcr0_some first
  have known' := PalRegistration.pcr0_some second
  refine ⟨fun sections rest => by rw [known, known', sections, rest], fun ideal differ same => ?_, ?_⟩
  · have injOn := ideal.sha1
    unfold PalRegistration.sha1Inputs at injOn
    rw [← List.map_append] at injOn
    refine differ (measurements_inj injOn ?_
      (ideal.chain.extend_inj (known.symm.trans (same.trans known'))))
    intro m mem
    rcases List.mem_append.mp mem with left | right
    · exact PalRegistration.measured_wellFormed m left
    · exact PalRegistration.measured_wellFormed m right
  · intro entryV entryP
    unfold PalRegistration.pcr0 at first ⊢
    rw [PalRegistration.pal_entry]
    exact first

def sampleMeasuredGuest : TvGuest where
  gcr3 := 0x2000
  t := .long
  g64 := true
  ept12 := BitVec.allOnes 64
  walk _ va := some (va.toNat / 4096)

def sampleRegistration (sections : List U64) (pageNum : U32) (entryV : U64) (fill : U8) :
    PalRegistration where
  lists := samplePageLists
  before := sampleTv
  guest := sampleMeasuredGuest
  scodeInfo := sections.map fun gva => ⟨1, pageNum, gva⟩
  entryV := entryV
  entryP := entryV
  pageLists := 0
  bytes _ := fill
  leftover _ := Vector.replicate 12 0

def sampleHashes (shift : U8) : PalHashes where
  sha1 input := Vector.replicate 20 (input.getD 6 0 + input.getD 20 0)
  sha256 input := Vector.replicate 32 (input.getD 32 0 + shift)

def samplePage (fill : U8) : PalRegistration := sampleRegistration [0x10000] 1 0x10000 fill

theorem samplePage_ideal : IdealHashes (sampleHashes 1) (samplePage 1) (samplePage 2) := by
  refine ⟨⟨fun x left y right => ?_, fun x left y right => ?_⟩, by decide +kernel⟩
  iterate 2 exact List.inj_on_of_nodup_map (by decide +kernel) left right

theorem samplePage_ne : (samplePage 1).measured ≠ (samplePage 2).measured := by
  intro same
  have heads := congrArg (List.map fun m => m.contents.head?) same
  revert heads
  decide +kernel

theorem pal_measurement_sample : ∃ pcr pcr', (samplePage 1).pcr0 (sampleHashes 1) true = some pcr ∧
    (samplePage 2).pcr0 (sampleHashes 1) true = some pcr' ∧ pcr ≠ pcr' := by
  have first : (samplePage 1).pcr0 (sampleHashes 1) true = some (Vector.replicate 32 3) := by
    decide +kernel
  have second : (samplePage 2).pcr0 (sampleHashes 1) true = some (Vector.replicate 32 4) := by
    decide +kernel
  exact ⟨_, _, first, second, (pal_measurement first second).2.1 samplePage_ideal samplePage_ne⟩

theorem injOn_of_nodup {l l' : List (List U8)} {n : Nat} {hash : List U8 → Vector U8 n}
    (part : l' ⊆ l) (nodup : (l.map hash).Nodup) : Set.InjOn hash {input | input ∈ l ++ l'} := by
  have all : ∀ {input}, input ∈ l ++ l' → input ∈ l := fun mem =>
    (List.mem_append.mp mem).elim id fun right => part right
  exact fun x left y right => List.inj_on_of_nodup_map nodup (all left) (all right)

def samplePageEntry : PalRegistration := { samplePage 1 with entryV := 0x10800 }

theorem samplePageEntry_measured : samplePageEntry.measured = (samplePage 1).measured := by
  unfold PalRegistration.measured
  rw [show samplePageEntry.pal = (samplePage 1).pal from PalRegistration.pal_entry _ _]

theorem samplePageEntry_ideal : IdealHashes (sampleHashes 1) (samplePage 1) samplePageEntry := by
  have sha1 : samplePageEntry.sha1Inputs = (samplePage 1).sha1Inputs := by
    unfold PalRegistration.sha1Inputs
    rw [samplePageEntry_measured]
  have sha256 : samplePageEntry.sha256Inputs (sampleHashes 1) =
      (samplePage 1).sha256Inputs (sampleHashes 1) := by
    unfold PalRegistration.sha256Inputs
    rw [samplePageEntry_measured]
    rfl
  refine ⟨⟨injOn_of_nodup ?_ (by decide +kernel), injOn_of_nodup ?_ (by decide +kernel)⟩,
    by decide +kernel⟩
  · rw [sha1]
    exact List.Subset.refl _
  · rw [sha256]
    exact List.Subset.refl _

/-- Registrations that differ in nothing but the entry point have one PCR 0. So have all
registrations in a build without `__DRT__`. And without a collision a list of sections can have
the PCR 0 of a part of it, if the register of a new micro-TPM is a hash. -/
theorem pal_measurement_misses :
    (∃ h a b pcr, IdealHashes h a b ∧ a.measured = b.measured ∧ a.leftover = b.leftover ∧
      a.entryV ≠ b.entryV ∧ a.pcr0 h true = some pcr ∧ b.pcr0 h true = some pcr) ∧
    (∃ h a b pcr, IdealHashes h a b ∧ a.measured ≠ b.measured ∧
      a.pcr0 h false = some pcr ∧ b.pcr0 h false = some pcr) ∧
    ∃ h a b pcr, CollisionFree h a b ∧ a.measured ≠ b.measured ∧
      a.pcr0 h true = some pcr ∧ b.pcr0 h true = some pcr := by
  have part : CollisionFree (sampleHashes 0) (sampleRegistration [0x1000000, 0x10000] 0 0x10000 0)
      (sampleRegistration [0x10000] 0 0x10000 0) :=
    ⟨injOn_of_nodup (by decide +kernel) (by decide +kernel),
      injOn_of_nodup (by decide +kernel) (by decide +kernel)⟩
  refine ⟨⟨_, _, _, Vector.replicate 32 3, samplePageEntry_ideal, samplePageEntry_measured.symm,
      rfl, by decide, by decide +kernel, by decide +kernel⟩,
    ⟨_, _, _, zeroPcr, samplePage_ideal, samplePage_ne, by decide +kernel, by decide +kernel⟩,
    ⟨_, _, _, Vector.replicate 32 1, part, ?_, by decide +kernel, by decide +kernel⟩⟩
  intro same
  exact absurd (congrArg List.length same) (by decide +kernel)

end Xmhf
