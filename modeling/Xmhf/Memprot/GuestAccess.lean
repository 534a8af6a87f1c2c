import Xmhf.Hpt.Translate
import Xmhf.Memprot.GuestRange

/-!
# The memory accessor of the instruction emulator

`access_memory_gv` (`x86vmx-emulation.c`) copies between a buffer of the emulator and the
memory at a guest-logical address. It holds the reader lock of EPT01, translates the first
address of what is left by the guest's page tables and by EPT01, and copies up to the end of
the guest's page. With paging off the rest of the access is one piece.

Two slips show: the return for a null pointer keeps the lock, and a piece is copied at
consecutive host addresses although only its first byte was translated by EPT01. EPT01 is
walked without checks, as the emulator serves accesses that EPT01 denies.

A call waits for writers of EPT01 before the part that is modelled. The page maps are not
among the bytes written, and a segment of a 32-bit guest holds less than 4 GiB.
-/

namespace Xmhf

open BitVec (ofNat)

/-- `mem_access_env_t` without the buffer. -/
structure MemAccessEnv where
  gaddr : U64
  seg : Nat
  size : Nat
  mode : Prot
  cpl : Nat

/-- Memory, the buffer of the emulator, and the host addresses touched. -/
structure GvMemory where
  ram : Pa → U8
  hvaddr : Nat → U8
  touched : List Ptr

/-- One byte of a `memcpy`. -/
def gvByte (mode : Prot) (hva : Ptr) (i : Nat) (s : GvMemory) : GvMemory :=
  if mode &&& hptProtWriteMask ≠ 0 then
    { s with ram := Function.update s.ram hva (s.hvaddr i), touched := s.touched ++ [hva] }
  else { s with hvaddr := Function.update s.hvaddr i (s.ram hva), touched := s.touched ++ [hva] }

structure GvTables where
  vmcs : Vmcs
  guestCtx : HptwCtx
  guestMem : Mem
  hostCtx : HptwCtx
  hostMem : Mem

namespace GvTables

variable (g : GvTables)

/-- `hptw_gpa_to_spa`. Asserted: the entry found is a page. -/
def hptwGpaToSpa (gpa : U64) : Option Pa :=
  ((hptwGetPmeo g.hostCtx g.hostMem 1 gpa).filter Pmeo.isPage).map fun pmeo => pmeo.vaToPa gpa

/-- The guest-physical address of a linear address, and how many of `size` bytes the guest's page
has. -/
def linearPiece (mode : Prot) (cpl : Nat) (gva : U64) (size : Nat) : Option (U64 × Nat) :=
  if g.vmcs .guestCR0 &&& CR0_PG ≠ 0 then
    (hptwCheckedGetPmeo g.guestCtx g.guestMem mode cpl gva).map fun pmeo =>
      let gpa := pmeo.vaToPa gva
      (gpa, min size (pmeo.remainingOnPage gpa))
  else some (gva, size)

/-- The host address of one byte, by translations of its own. -/
def ownSpa (mode : Prot) (cpl : Nat) (gva : U64) : Option Pa :=
  (g.linearPiece mode cpl gva 1).bind fun piece => g.hptwGpaToSpa piece.1

/-- An iteration of the loop up to the copy; `none` where it halts or returns. -/
def locateGv (mode : Prot) (cpl : Nat) (linAddr : U64) (copied size : Nat) : Option (Ptr × Nat) :=
  (g.linearPiece mode cpl (linAddr + BitVec.ofNat 64 copied) size).bind fun (gpa, size) =>
    (g.hptwGpaToSpa gpa).bind fun hva => if hva = nullPtr then none else some (hva, size)

def findsNull (mode : Prot) (cpl : Nat) (linAddr : U64) (copied size : Nat) : Bool :=
  (g.linearPiece mode cpl (linAddr + BitVec.ofNat 64 copied) size).any fun (gpa, _) =>
    g.hptwGpaToSpa gpa == some nullPtr

end GvTables

/-- How a call ends. A return says whether it succeeded, and `vmx_eptlock_reading`. -/
inductive GvOutcome where
  | halted
  | returned (ok reading : Bool) (s : GvMemory)

/-- `access_memory_gv` for a processor whose `vmx_eptlock_reading` is `reading`; `none` would be a
loop that does not end. -/
def accessMemoryGv (g : GvTables) (env : MemAccessEnv) (reading : Bool) (s : GvMemory) :
    Option GvOutcome :=
  if reading then some .halted
  else
    match guestmemDesegment g.vmcs env.seg env.gaddr env.size env.mode env.cpl with
    | none => some .halted
    | some linAddr =>
      (Chunked.run (g.locateGv env.mode env.cpl linAddr)
        (Chunked.moveBytes ptrAdd (gvByte env.mode)) env.size env.size 0 s).map
        fun (ok, copied, s') =>
          if ok then .returned true false s'
          else if g.findsNull env.mode env.cpl linAddr copied (env.size - copied) then
            .returned false true s'
          else .halted

/-- What the accessor is for: it returns and has given the lock back, and with success each byte has
been read or written at the translation of its own linear address. -/
def GvAccessRight (g : GvTables) (env : MemAccessEnv) (s : GvMemory) : Prop :=
  ∃ ok s', accessMemoryGv g env false s = some (.returned ok false s') ∧ (ok = true → ∃ linAddr,
    guestmemDesegment g.vmcs env.seg env.gaddr env.size env.mode env.cpl = some linAddr ∧
      Chunked.transfer (fun i => g.ownSpa env.mode env.cpl (linAddr + BitVec.ofNat 64 i))
        (gvByte env.mode) env.size s = some s')

/-- `b` follows the piece of the guest's page, or with paging off of the access, that starts at
offset `a`. -/
def PieceNext (g : GvTables) (env : MemAccessEnv) (linAddr : U64) (a b : Nat) : Prop :=
  ∃ gpa k, g.linearPiece env.mode env.cpl (linAddr + BitVec.ofNat 64 a) (env.size - a) =
    some (gpa, k) ∧ b = a + k ∧ b < env.size

/-- The piece at offset `a` is mapped by the guest's tables and by EPT01, not at host address 0, and
its bytes follow each other in host memory. -/
def PieceContiguous (g : GvTables) (env : MemAccessEnv) (linAddr : U64) (a : Nat) : Prop :=
  ∃ gpa k spa, g.linearPiece env.mode env.cpl (linAddr + BitVec.ofNat 64 a) (env.size - a) =
    some (gpa, k) ∧ g.hptwGpaToSpa gpa = some spa ∧ spa ≠ nullPtr ∧
    ∀ i < k, g.ownSpa env.mode env.cpl (linAddr + BitVec.ofNat 64 (a + i)) =
      some (spa + BitVec.ofNat 64 i)

/-- The segment allows the access, and each piece of it is contiguous. -/
def GvAccessible (g : GvTables) (env : MemAccessEnv) : Prop :=
  ∃ linAddr, guestmemDesegment g.vmcs env.seg env.gaddr env.size env.mode env.cpl = some linAddr ∧
    (0 < env.size → ∀ a, Relation.ReflTransGen (PieceNext g env linAddr) 0 a →
      PieceContiguous g env linAddr a)

/-! ## Pieces -/

section

variable {g : GvTables} {mode : Prot} {cpl : Nat} {gva linAddr gpa : U64} {n k : Nat}

theorem linearPiece_spec (positive : 0 < n) (found : g.linearPiece mode cpl gva n = some (gpa, k)) :
    0 < k ∧ k ≤ n ∧ g.linearPiece mode cpl gva k = some (gpa, k) := by
  unfold GvTables.linearPiece at found ⊢
  split at found
  · rename_i paging
    obtain ⟨leaf, walk, piece⟩ := Option.map_eq_some_iff.mp found
    cases piece
    have rest := remainingOnPage_pos (isLeaf_of_found walk) (leaf.vaToPa gva)
    refine ⟨by omega, Nat.min_le_left _ _, ?_⟩
    rw [if_pos paging, walk, Option.map_some]
    dsimp only
    rw [Nat.min_assoc, Nat.min_self]
  · rename_i flat
    cases found
    exact ⟨positive, Nat.le_refl _, if_neg flat⟩

theorem locateGv_some {copied : Nat} {hva : Ptr}
    (found : g.locateGv mode cpl linAddr copied n = some (hva, k)) :
    ∃ gpa, g.linearPiece mode cpl (linAddr + ofNat 64 copied) n = some (gpa, k) ∧
      g.hptwGpaToSpa gpa = some hva ∧ hva ≠ nullPtr := by
  obtain ⟨⟨gpa, size⟩, piece, rest⟩ := Option.bind_eq_some_iff.mp found
  obtain ⟨spa, translated, pointer⟩ := Option.bind_eq_some_iff.mp rest
  split at pointer
  · cases pointer
  · rename_i nonnull
    cases pointer
    exact ⟨gpa, piece, translated, nonnull⟩

theorem locateGv_advances : Chunked.Advances (g.locateGv mode cpl linAddr) := by
  intro copied n hva k positive found
  obtain ⟨gpa, piece, -⟩ := locateGv_some found
  have spec := linearPiece_spec positive piece
  exact ⟨spec.1, spec.2.1⟩

theorem touched_gvByte (mode : Prot) (hva : Ptr) (i : Nat) (s : GvMemory) :
    (gvByte mode hva i s).touched = s.touched ++ [hva] := by
  unfold gvByte
  split <;> rfl

end

section

variable {g : GvTables} {env : MemAccessEnv} {linAddr : U64}

theorem PieceContiguous.located {a : Nat} (piece : PieceContiguous g env linAddr a)
    (more : a < env.size) : ∃ hva k,
      g.locateGv env.mode env.cpl linAddr a (env.size - a) = some (hva, k) ∧
      0 < k ∧ k ≤ env.size - a ∧ (a + k < env.size → PieceNext g env linAddr a (a + k)) ∧
      ∀ i < k, g.ownSpa env.mode env.cpl (linAddr + ofNat 64 (a + i)) = some (ptrAdd hva i) := by
  obtain ⟨gpa, k, spa, found, translated, pointer, places⟩ := piece
  have spec := linearPiece_spec (Nat.sub_pos_of_lt more) found
  refine ⟨spa, k, ?_, spec.1, spec.2.1, fun inside => ⟨gpa, k, found, rfl, inside⟩, places⟩
  unfold GvTables.locateGv
  rw [found, Option.bind_some]
  dsimp only
  rw [translated, Option.bind_some, if_neg pointer]

theorem GvAccessible.right (accessible : GvAccessible g env) (s : GvMemory) :
    GvAccessRight g env s := by
  obtain ⟨linAddr, segment, pieces⟩ := accessible
  obtain ⟨t, result, moved⟩ := @Chunked.run_complete Ptr GvMemory
    (g.locateGv env.mode env.cpl linAddr) ptrAdd (gvByte env.mode)
    (fun i => g.ownSpa env.mode env.cpl (linAddr + ofNat 64 i)) env.size env.size 0 s s
    (Relation.ReflTransGen (PieceNext g env linAddr) 0)
    (fun a more reached => by
      obtain ⟨hva, k, found, positive, fits, next, places⟩ :=
        (pieces (Nat.zero_lt_of_lt more) a reached).located more
      exact ⟨hva, k, found, positive, fits, fun inside => reached.tail (next inside), places⟩)
    (fun _ => .refl) (by omega) (Nat.zero_le _) rfl
  refine ⟨true, t, ?_, fun _ => ⟨linAddr, segment, moved⟩⟩
  unfold accessMemoryGv
  rw [if_neg Bool.false_ne_true, segment]
  dsimp only
  rw [result]
  rfl

/-- A return without the lock is one with success: the other return keeps the lock. -/
theorem accessMemoryGv_returned {ok : Bool} {s s' : GvMemory}
    (result : accessMemoryGv g env false s = some (.returned ok false s')) :
    ok = true ∧ ∃ linAddr m,
      guestmemDesegment g.vmcs env.seg env.gaddr env.size env.mode env.cpl = some linAddr ∧
      Chunked.run (g.locateGv env.mode env.cpl linAddr)
        (Chunked.moveBytes ptrAdd (gvByte env.mode)) env.size env.size 0 s = some (true, m, s') := by
  unfold accessMemoryGv at result
  rw [if_neg Bool.false_ne_true] at result
  cases segment : guestmemDesegment g.vmcs env.seg env.gaddr env.size env.mode env.cpl with
  | none =>
    rw [segment] at result
    cases result
  | some linAddr =>
    rw [segment] at result
    obtain ⟨⟨done, m, t⟩, run, ends⟩ := Option.map_eq_some_iff.mp result
    cases done with
    | true =>
      cases ends
      exact ⟨rfl, linAddr, m, rfl, run⟩
    | false =>
      dsimp only at ends
      rw [if_neg Bool.false_ne_true] at ends
      split at ends <;> cases ends

theorem GvAccessRight.accessible {s : GvMemory} (right : GvAccessRight g env s) :
    GvAccessible g env := by
  obtain ⟨ok, s', result, moved⟩ := right
  obtain ⟨rfl, linAddr, m, segment, run⟩ := accessMemoryGv_returned result
  obtain ⟨linAddr', same, moved⟩ := moved rfl
  obtain rfl : linAddr = linAddr' := Option.some.inj (segment.symm.trans same)
  refine ⟨linAddr, segment, fun positive a reached => ?_⟩
  have traced := Chunked.transfer_trace (touched_gvByte env.mode) moved
  rw [List.range_eq_range'] at traced
  have step : ∀ {a b hva k}, g.locateGv env.mode env.cpl linAddr a (env.size - a) = some (hva, k) →
      PieceNext g env linAddr a b → b = a + k ∧ b < env.size := by
    rintro a b hva k found ⟨gpa, k, piece, next, inside⟩
    obtain ⟨_, again, -, -⟩ := locateGv_some found
    cases piece.symm.trans again
    exact ⟨next, inside⟩
  obtain ⟨hva, k, found, places⟩ := Chunked.run_places (touched_gvByte env.mode) locateGv_advances
    step positive run traced reached
  obtain ⟨gpa, piece, translated, pointer⟩ := locateGv_some found
  exact ⟨gpa, k, hva, piece, translated, pointer, places⟩

end

/-- A guest without paging and with a flat data segment, whose first 2 MB are mapped to themselves. -/
def unpagedTables : GvTables where
  vmcs :=
    let vmcs : Vmcs := fun _ => 0#_
    (vmcs.vmwrite .guestDSAccessRights 0x93).vmwrite .guestDSLimit 0xffffffff
  guestCtx := firstTable.ctx
  guestMem := firstTable.mem
  hostCtx := firstTable.ctx
  hostMem := firstTable.mem

def GvOutcome.flags : GvOutcome → Option (Bool × Bool)
  | .halted => none
  | .returned ok reading _ => some (ok, reading)

end Xmhf
