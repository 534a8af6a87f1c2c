import Xmhf.Hpt.Page
import Xmhf.Lib.Chunked

/-!
# Checked copies

`hptw_checked_copy_from_va`, `_copy_to_va`, `_copy_va_to_va` and `_memset_va` (`hptw.c`)
work in chunks: `hptw_checked_access_va` translates the first address of what is left and
says how many bytes can be accessed there. `memcpy` and `memset` go byte by byte upwards.

The routines also return how far they came, and the state has the host addresses that were
touched, in order; the page maps are not among the bytes that a routine writes.
-/

namespace Xmhf

open BitVec (ofNat)

/-- A context together with the translation of single bytes behind it: where `pa2ptr` gives a
pointer, it is good for the bytes that it says, and asking for just those gives it again. -/
structure ByteMap (ctx : HptwCtx) where
  own : Pa → Prot → Nat → Option Ptr
  available : ∀ pa n access cpl, 0 < n → (ctx.pa2ptr pa n access cpl).1 ≠ nullPtr →
    0 < (ctx.pa2ptr pa n access cpl).2 ∧ (ctx.pa2ptr pa n access cpl).2 ≤ n
  contiguous : ∀ pa n access cpl, 0 < n → (ctx.pa2ptr pa n access cpl).1 ≠ nullPtr →
    ∀ i < (ctx.pa2ptr pa n access cpl).2, own (pa + BitVec.ofNat 64 i) access cpl =
        some ((ctx.pa2ptr pa n access cpl).1 + BitVec.ofNat 64 i)
  again : ∀ pa n access cpl, 0 < n → (ctx.pa2ptr pa n access cpl).1 ≠ nullPtr →
    ctx.pa2ptr pa (ctx.pa2ptr pa n access cpl).2 access cpl = ctx.pa2ptr pa n access cpl

/-- In a host context every physical address is a pointer. -/
def hostBytes {ctx : HptwCtx} (host : ctx.pa2ptr = hostPa2ptr) : ByteMap ctx where
  own pa _ _ := some pa
  available pa n access cpl positive _ := by
    rw [host]
    exact ⟨positive, Nat.le_refl n⟩
  contiguous pa n access cpl _ _ i _ := by
    rw [host]
    rfl
  again pa n access cpl _ _ := by
    rw [host]
    rfl

/-- The host address of the byte at `va`, by a walk of its own. -/
def byteAddr {ctx : HptwCtx} (bytes : ByteMap ctx) (mem : Mem) (access : Prot) (cpl : Nat)
    (va : Va) : Option Ptr :=
  (hptwCheckedGetPmeo ctx mem access cpl va).bind fun leaf => bytes.own (leaf.vaToPa va) access cpl

section

variable (ctx : HptwCtx) (mem : Mem)

/-- What an iteration of a routine finds for offset `done` of the range at `base`; a null pointer
ends the routine. -/
def locateVa (access : Prot) (cpl : Nat) (base : Va) (done n : Nat) : Option (Ptr × Nat) :=
  let (ptr, avail) := hptwCheckedAccessVa ctx mem access cpl (base + BitVec.ofNat 64 done) n
  if ptr = nullPtr then none else some (ptr, avail)

/-- Byte `i` behind a pointer. -/
def ptrAdd (ptr : Ptr) (i : Nat) : Ptr := ptr + BitVec.ofNat 64 i

structure Touched where
  ram : Pa → U8
  touched : List Ptr

def storeByte (value : Nat → U8) (dst : Ptr) (i : Nat) (s : Touched) : Touched :=
  { ram := Function.update s.ram dst (value i), touched := s.touched ++ [dst] }

/-- The bytes stored at the destination, each with the address that it was read from. -/
def loadByte (ram : Pa → U8) (src : Ptr) (_ : Nat) (out : List (Ptr × U8)) : List (Ptr × U8) :=
  out ++ [(src, ram src)]

/-- `hptw_checked_copy_from_va`; `none` would be a loop that does not end. -/
def hptwCheckedCopyFromVa (ram : Pa → U8) (cpl : Nat) (srcVaBase : Va) (len : Nat) :
    Option (Bool × Nat × List (Ptr × U8)) :=
  Chunked.run (locateVa ctx mem hptProtsR cpl srcVaBase) (Chunked.moveBytes ptrAdd (loadByte ram))
    len len 0 []

def hptwCheckedCopyToVa (ram : Pa → U8) (cpl : Nat) (dstVaBase : Va) (src : Nat → U8) (len : Nat) :
    Option (Bool × Nat × Touched) :=
  Chunked.run (locateVa ctx mem hptProtWriteMask cpl dstVaBase)
    (Chunked.moveBytes ptrAdd (storeByte src)) len len 0 ⟨ram, []⟩

def hptwCheckedMemsetVa (ram : Pa → U8) (cpl : Nat) (dstVaBase : Va) (c : U8) (len : Nat) :
    Option (Bool × Nat × Touched) :=
  Chunked.run (locateVa ctx mem hptProtWriteMask cpl dstVaBase)
    (Chunked.moveBytes ptrAdd (storeByte fun _ => c)) len len 0 ⟨ram, []⟩

end

/-- Pairs of a destination and a source. The source is asked for no more than the destination
has. -/
def locatePair (dst src : Nat → Nat → Option (Ptr × Nat)) (done n : Nat) :
    Option ((Ptr × Ptr) × Nat) :=
  (dst done n).bind fun (d, toCopy) => (src done toCopy).map fun (s, toCopy) => ((d, s), toCopy)

def pairAdd (p : Ptr × Ptr) (i : Nat) : Ptr × Ptr := (ptrAdd p.1 i, ptrAdd p.2 i)

def copyByte (p : Ptr × Ptr) (_ : Nat) (s : Touched) : Touched :=
  { ram := Function.update s.ram p.1 (s.ram p.2), touched := s.touched ++ [p.2, p.1] }

def hptwCheckedCopyVaToVa (dstCtx srcCtx : HptwCtx) (dstMem srcMem : Mem) (ram : Pa → U8)
    (dstCpl : Nat) (dstVaBase : Va) (srcCpl : Nat) (srcVaBase : Va) (len : Nat) :
    Option (Bool × Nat × Touched) :=
  Chunked.run (locatePair (locateVa dstCtx dstMem hptProtWriteMask dstCpl dstVaBase)
    (locateVa srcCtx srcMem hptProtsR srcCpl srcVaBase)) (Chunked.moveBytes pairAdd copyByte)
      len len 0 ⟨ram, []⟩

/-- What a checked routine over a range is for. It returns; with success it has moved all bytes,
each through its own translation, and otherwise the bytes of a prefix, likewise. -/
def MovesOwnBytes {P σ : Type} (own : Nat → Option P) (byte : P → Nat → σ → σ) (len : Nat) (s : σ)
    (result : Option (Bool × Nat × σ)) : Prop :=
  ∃ ok m s', result = some (ok, m, s') ∧ m ≤ len ∧ (ok = true → m = len) ∧
    Chunked.transfer own byte m s = some s'

/-! ## Chunks and pages -/

/-- A chunk that runs past its virtual page finds the following bytes where they are. The chunk
is measured from the physical address, so that happens only under a leaf that is not aligned. -/
def Continued {ctx : HptwCtx} (bytes : ByteMap ctx) (mem : Mem) (access : Prot) (cpl : Nat) : Prop :=
  ∀ va leaf, hptwCheckedGetPmeo ctx mem access cpl va = some leaf →
    ∀ n, 0 < n → n ≤ leaf.remainingOnPage (leaf.vaToPa va) →
      (ctx.pa2ptr (leaf.vaToPa va) n access cpl).1 ≠ nullPtr →
        ∀ i < (ctx.pa2ptr (leaf.vaToPa va) n access cpl).2, leaf.remainingOnPage va ≤ i →
          byteAddr bytes mem access cpl (va + BitVec.ofNat 64 i) =
            some ((ctx.pa2ptr (leaf.vaToPa va) n access cpl).1 + BitVec.ofNat 64 i)

section

variable {ctx : HptwCtx} {bytes : ByteMap ctx} {mem : Mem} {access : Prot} {cpl : Nat} {base : Va}

theorem locateVa_some {done n k : Nat} {p : Ptr}
    (found : locateVa ctx mem access cpl base done n = some (p, k)) :
    ∃ leaf, hptwCheckedGetPmeo ctx mem access cpl (base + ofNat 64 done) = some leaf ∧
      ctx.pa2ptr (leaf.vaToPa (base + ofNat 64 done))
        (min n (leaf.remainingOnPage (leaf.vaToPa (base + ofNat 64 done)))) access cpl =
          (p, k) ∧ p ≠ nullPtr := by
  unfold locateVa hptwCheckedAccessVa at found
  cases walk : hptwCheckedGetPmeo ctx mem access cpl (base + ofNat 64 done) with
  | none => simp [walk] at found
  | some leaf =>
    simp only [walk] at found
    split at found
    · cases found
    · next pointer =>
      have result := Option.some.inj found
      exact ⟨leaf, rfl, result, fun null => pointer ((congrArg Prod.fst result).trans null)⟩

theorem locateVa_advances (bytes : ByteMap ctx) :
    Chunked.Advances (locateVa ctx mem access cpl base) := by
  intro done n p k positive found
  obtain ⟨leaf, walk, access, pointer⟩ := locateVa_some found
  have left := remainingOnPage_pos (isLeaf_of_found walk)
    (leaf.vaToPa (base + ofNat 64 done))
  have chunk := bytes.available _ _ _ _ (Nat.lt_min.mpr ⟨positive, left⟩)
    (by rw [access]; exact pointer)
  rw [access] at chunk
  exact ⟨chunk.1, Nat.le_trans chunk.2 (Nat.min_le_left _ _)⟩

theorem byteAddr_in_page {va : Va} {leaf : Pmeo} {n i : Nat}
    (walk : hptwCheckedGetPmeo ctx mem access cpl va = some leaf) (positive : 0 < n)
    (pointer : (ctx.pa2ptr (leaf.vaToPa va) n access cpl).1 ≠ nullPtr)
    (below : i < (ctx.pa2ptr (leaf.vaToPa va) n access cpl).2)
    (inside : i < leaf.remainingOnPage va) :
    byteAddr bytes mem access cpl (va + ofNat 64 i) =
      some ((ctx.pa2ptr (leaf.vaToPa va) n access cpl).1 + ofNat 64 i) := by
  have isLeaf := isLeaf_of_found walk
  rw [remainingOnPage_eq_sub isLeaf] at inside
  have page : va.toNat % 2 ^ leaf.pageSizeLog2 + i < 2 ^ leaf.pageSizeLog2 := by omega
  rw [byteAddr, found_in_page walk page, Option.bind_some, vaToPa_in_page isLeaf page]
  exact bytes.contiguous _ _ _ _ positive pointer i below

theorem Continued.agrees (continued : Continued bytes mem access cpl) :
    Chunked.Agrees (locateVa ctx mem access cpl base) ptrAdd
      fun done => byteAddr bytes mem access cpl (base + ofNat 64 done) := by
  intro done n p k positive found i below
  obtain ⟨leaf, walk, chunk, pointer⟩ := locateVa_some found
  have left := remainingOnPage_pos (isLeaf_of_found walk)
    (leaf.vaToPa (base + ofNat 64 done))
  have asked := Nat.lt_min.mpr ⟨positive, left⟩
  have sum : base + ofNat 64 (done + i) =
      base + ofNat 64 done + ofNat 64 i := by
    rw [BitVec.ofNat_add, BitVec.add_assoc]
  rw [show (fun done => byteAddr bytes mem access cpl (base + ofNat 64 done)) (done + i) =
    byteAddr bytes mem access cpl (base + ofNat 64 (done + i)) from rfl, sum, ptrAdd,
    ← show (ctx.pa2ptr _ _ access cpl).1 = p from congrArg Prod.fst chunk]
  rw [← show (ctx.pa2ptr _ _ access cpl).1 = p from congrArg Prod.fst chunk] at pointer
  rw [← show (ctx.pa2ptr _ _ access cpl).2 = k from congrArg Prod.snd chunk] at below
  rcases Nat.lt_or_ge i (leaf.remainingOnPage (base + ofNat 64 done)) with inside | past
  · exact byteAddr_in_page walk asked pointer below inside
  · exact continued _ leaf walk _ asked (Nat.min_le_right _ _) pointer i below past

end

/-! ## The routines -/

theorem MovesOwnBytes.of_chunks {P σ : Type} {locate : Nat → Nat → Option (P × Nat)}
    {shift : P → Nat → P} {own : Nat → Option P} (byte : P → Nat → σ → σ)
    (advances : Chunked.Advances locate) (agrees : Chunked.Agrees locate shift own) (len : Nat)
    (s : σ) :
    MovesOwnBytes own byte len s
      (Chunked.run locate (Chunked.moveBytes shift byte) len len 0 s) := by
  obtain ⟨ok, m, s', result, -, upto, complete⟩ :=
    @Chunked.run_returns P σ locate len len 0 (Chunked.moveBytes shift byte) advances (by omega)
      (Nat.zero_le _) s
  have chunks := fun done (more : done < len) p k => agrees done _ p k (Nat.sub_pos_of_lt more)
  exact ⟨ok, m, s', result, upto, complete.mp, Chunked.run_transfer chunks rfl result⟩

theorem locatePair_some {dst src : Nat → Nat → Option (Ptr × Nat)} {done n k : Nat} {p : Ptr × Ptr}
    (found : locatePair dst src done n = some (p, k)) :
    ∃ toCopy, dst done n = some (p.1, toCopy) ∧ src done toCopy = some (p.2, k) := by
  obtain ⟨⟨d, toCopy⟩, first, rest⟩ := Option.bind_eq_some_iff.mp found
  obtain ⟨⟨s, last⟩, second, same⟩ := Option.map_eq_some_iff.mp rest
  cases same
  exact ⟨toCopy, first, second⟩

theorem locatePair_advances {dst src : Nat → Nat → Option (Ptr × Nat)}
    (dstAdvances : Chunked.Advances dst) (srcAdvances : Chunked.Advances src) :
    Chunked.Advances (locatePair dst src) := by
  intro done n p k positive found
  obtain ⟨toCopy, first, second⟩ := locatePair_some found
  obtain ⟨some, fits⟩ := dstAdvances done n p.1 toCopy positive first
  obtain ⟨more, shorter⟩ := srcAdvances done toCopy p.2 k some second
  exact ⟨more, Nat.le_trans shorter fits⟩

def ownPair (dst src : Nat → Option Ptr) (i : Nat) : Option (Ptr × Ptr) :=
  (dst i).bind fun d => (src i).map fun s => (d, s)

theorem locatePair_agrees {dst src : Nat → Nat → Option (Ptr × Nat)} {dstOwn srcOwn : Nat → Option Ptr}
    (dstAdvances : Chunked.Advances dst) (srcAdvances : Chunked.Advances src)
    (dstAgrees : Chunked.Agrees dst ptrAdd dstOwn) (srcAgrees : Chunked.Agrees src ptrAdd srcOwn) :
    Chunked.Agrees (locatePair dst src) pairAdd (ownPair dstOwn srcOwn) := by
  intro done n p k positive found i below
  obtain ⟨toCopy, first, second⟩ := locatePair_some found
  have some := (dstAdvances done n p.1 toCopy positive first).1
  have shorter := (srcAdvances done toCopy p.2 k some second).2
  have place := dstAgrees done n p.1 toCopy positive first i (Nat.lt_of_lt_of_le below shorter)
  have origin := srcAgrees done toCopy p.2 k some second i below
  simp only [ownPair, place, origin, Option.bind_some, Option.map_some]
  rfl

section

variable {ctx : HptwCtx} {bytes : ByteMap ctx} {mem : Mem} {access : Prot} {cpl : Nat}

theorem Continued.of_moves {σ τ : Type} {byte : Ptr → Nat → σ → σ} {trace : σ → List τ}
    {mark : Ptr → τ} (marks : ∀ p i s, trace (byte p i s) = trace s ++ [mark p])
    (injective : Function.Injective mark) (s : σ)
    (moves : ∀ base len, MovesOwnBytes
      (fun done => byteAddr bytes mem access cpl (base + ofNat 64 done)) byte len s
      (Chunked.run (locateVa ctx mem access cpl base) (Chunked.moveBytes ptrAdd byte) len len 0 s)) :
    Continued bytes mem access cpl := by
  intro va leaf walk n positive fits pointer i below past
  obtain ⟨some, shorter⟩ := bytes.available _ _ _ _ positive pointer
  have again := bytes.again _ _ _ _ positive pointer
  generalize chunk : ctx.pa2ptr (leaf.vaToPa va) n access cpl = found at *
  obtain ⟨p, k⟩ := found
  dsimp only at *
  have located : locateVa ctx mem access cpl va 0 k = Option.some (p, k) := by
    unfold locateVa hptwCheckedAccessVa
    simp only [BitVec.add_zero, walk, Nat.min_eq_left (Nat.le_trans shorter fits), again]
    exact if_neg pointer
  obtain ⟨ok, m, s', result, -, complete, moved⟩ := moves va k
  rw [Chunked.run_one_chunk _ some located] at result
  cases result
  have full := complete rfl
  have place := Chunked.own_of_same_trace marks injective moved rfl i below
  exact place

end

/-- The routines of `hptw.c` over all ranges, with reading through one context and writing
through another. -/
def CopiesOwnBytes {dstCtx srcCtx : HptwCtx} (dst : ByteMap dstCtx) (src : ByteMap srcCtx)
    (dstMem srcMem : Mem) (dstCpl srcCpl : Nat) : Prop :=
  ∀ (ram : Pa → U8) (buffer : Nat → U8) (c : U8) (dstVa srcVa : Va) (len : Nat),
    let dstOwn done := byteAddr dst dstMem hptProtWriteMask dstCpl (dstVa + BitVec.ofNat 64 done)
    let srcOwn done := byteAddr src srcMem hptProtsR srcCpl (srcVa + BitVec.ofNat 64 done)
    MovesOwnBytes srcOwn (loadByte ram) len []
      (hptwCheckedCopyFromVa srcCtx srcMem ram srcCpl srcVa len) ∧
    MovesOwnBytes dstOwn (storeByte buffer) len ⟨ram, []⟩
      (hptwCheckedCopyToVa dstCtx dstMem ram dstCpl dstVa buffer len) ∧
    MovesOwnBytes dstOwn (storeByte fun _ => c) len ⟨ram, []⟩
      (hptwCheckedMemsetVa dstCtx dstMem ram dstCpl dstVa c len) ∧
    MovesOwnBytes (ownPair dstOwn srcOwn) copyByte len ⟨ram, []⟩
      (hptwCheckedCopyVaToVa dstCtx srcCtx dstMem srcMem ram dstCpl dstVa srcCpl srcVa len)

/-- The checked routines are right on all ranges exactly if no chunk runs past its virtual page
into bytes that are mapped elsewhere. -/
theorem checked_copies_iff {dstCtx srcCtx : HptwCtx} (dst : ByteMap dstCtx) (src : ByteMap srcCtx)
    (dstMem srcMem : Mem) (dstCpl srcCpl : Nat) :
    CopiesOwnBytes dst src dstMem srcMem dstCpl srcCpl ↔
      Continued dst dstMem hptProtWriteMask dstCpl ∧ Continued src srcMem hptProtsR srcCpl := by
  constructor
  · intro right
    constructor
    · have marks : ∀ p i s, Touched.touched (storeByte (fun _ => 0) p i s) = s.touched ++ [id p] :=
        fun _ _ _ => rfl
      refine Continued.of_moves marks Function.injective_id ⟨fun _ => 0, []⟩ fun base len => ?_
      exact (right (fun _ => 0) (fun _ => 0) 0 base base len).2.1
    · have marks : ∀ p i out, List.map Prod.fst (loadByte (fun _ => 0) p i out) =
          List.map Prod.fst out ++ [id p] := fun _ _ _ => List.map_append
      refine Continued.of_moves marks Function.injective_id [] fun base len => ?_
      exact (right (fun _ => 0) (fun _ => 0) 0 base base len).1
  · rintro ⟨writes, reads⟩ ram buffer c dstVa srcVa len
    have dstAdvances := @locateVa_advances dstCtx dstMem hptProtWriteMask dstCpl dstVa dst
    have srcAdvances := @locateVa_advances srcCtx srcMem hptProtsR srcCpl srcVa src
    exact ⟨.of_chunks _ srcAdvances reads.agrees len [],
      .of_chunks _ dstAdvances writes.agrees len _,
      .of_chunks _ dstAdvances writes.agrees len _,
      .of_chunks _ (locatePair_advances dstAdvances srcAdvances)
        (locatePair_agrees dstAdvances srcAdvances writes.agrees reads.agrees) len _⟩

/-- Long mode paging in host memory with its tables at 0x1000, 0x2000 and 0x3000. -/
def shiftedCtx : HptwCtx where
  t := .long
  rootPa := 0x1000
  pa2ptr := hostPa2ptr

def shiftedBytes : ByteMap shiftedCtx := hostBytes rfl

/-- Two large pages, of which the first has bit 13 of the address set. -/
def shiftedMem : Mem := fun pm idx =>
  if pm = 0x1000 then 0x2007
  else if pm = 0x2000 then 0x3007
  else if idx = 0 then 0x2087
  else 0x40000087

/-- A copy of two bytes across the end of the first page reads the second one behind the first,
and not where it is mapped. -/
theorem copy_passes_end_of_shifted_page :
    hptwCheckedCopyFromVa shiftedCtx shiftedMem (fun _ => 0) 0 0x1fffff 2 =
      some (true, 2, [(0x201fff, 0), (0x202000, 0)]) ∧
    byteAddr shiftedBytes shiftedMem hptProtsR 0 0x200000 = some 0x40000000 ∧
    ¬ CopiesOwnBytes shiftedBytes shiftedBytes
      shiftedMem shiftedMem 0 0 := by
  have run : hptwCheckedCopyFromVa shiftedCtx shiftedMem (fun _ => 0) 0 0x1fffff 2 =
      some (true, 2, [(0x201fff, 0), (0x202000, 0)]) := by decide +kernel
  refine ⟨run, by decide +kernel, fun right => ?_⟩
  obtain ⟨ok, m, out, result, -, -, moved⟩ := (right (fun _ => 0) (fun _ => 0) 0 0 0x1fffff 2).1
  rw [run] at result
  cases result
  revert moved
  decide +kernel

end Xmhf
