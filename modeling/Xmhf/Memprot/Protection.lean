import Xmhf.Memprot.Isolation

/-!
# Setting and reading back a protection

`xmhf_memprot_arch_x86vmx_setprot` and `_getprot` (`memp-x86vmx.c`) address the flat array of
leaves by the page number of a guest-physical address. Both cast the address to 32 bits
before they divide it, so pages that lie a multiple of 4 GB apart share one leaf there.
-/

namespace Xmhf

def MEMP_PROT_NOTPRESENT : U32 := 1

def MEMP_PROT_READONLY : U32 := 4

def MEMP_PROT_NOEXECUTE : U32 := 32

/-- The protections that the assertion of `setprot` lists. -/
inductive MempProt where
  | notPresent
  | present (readwrite execute : Bool)
  deriving DecidableEq, Repr

/-- A protection as the word that the interface passes. -/
def MempProt.prottype : MempProt → U32
  | .notPresent => MEMP_PROT_NOTPRESENT
  | .present readwrite execute =>
    MEMP_PROT_PRESENT ||| (if readwrite then MEMP_PROT_READWRITE else MEMP_PROT_READONLY) |||
      (if execute then MEMP_PROT_EXECUTE else MEMP_PROT_NOEXECUTE)

def entryProt (entry : U64) : U32 :=
  if entry &&& 1 = 0 then MEMP_PROT_NOTPRESENT
  else
    MEMP_PROT_PRESENT ||| (if entry &&& 2 ≠ 0 then MEMP_PROT_READWRITE else MEMP_PROT_READONLY) |||
      (if entry &&& 4 ≠ 0 then MEMP_PROT_EXECUTE else MEMP_PROT_NOEXECUTE)

/-- `xmhf_memprot_arch_x86vmx_getprot` -/
def getprot (gpa : U64) (pTables : Nat → U64) : U32 := entryProt (pTables (protPfn gpa))

/-- The purpose of `setprot`: the protection reads back, and every other page keeps its leaf,
which is its protection, frame and memory type, and the protection that is read back for it. -/
def SetsOnePage (pf : Platform) (gpa : U64) (prot : MempProt) (pTables : Nat → U64) : Prop :=
  getprot gpa (setprot gpa prot.prottype pTables) = prot.prottype ∧
  ∀ other : U64, other.toNat % 4096 = 0 → other.toNat < pf.maxPhysAddr → other ≠ gpa →
    setprot gpa prot.prottype pTables (other.toNat / 4096) = pTables (other.toNat / 4096) ∧
    getprot other (setprot gpa prot.prottype pTables) = getprot other pTables

/-! ## One leaf -/

theorem setprot_entry_and (entry flags mask : U64) (low : ~~~7#64 &&& mask = 0) :
    (entry &&& ~~~7#64 ||| flags) &&& mask = flags &&& mask := by
  ext i
  have bit := congrArg (fun x : U64 => x.getLsbD i) low
  simp only [BitVec.getLsbD_and, BitVec.getLsbD_not] at bit
  simp only [BitVec.getElem_and, BitVec.getElem_or, BitVec.getElem_not]
  grind

theorem entryProt_set (entry : U64) (prot : MempProt) :
    entryProt (entry &&& ~~~7#64 ||| protFlags prot.prottype) = prot.prottype := by
  have flags : entryProt (entry &&& ~~~7#64 ||| protFlags prot.prottype) =
      entryProt (protFlags prot.prottype) := by
    unfold entryProt
    rw [setprot_entry_and _ _ 1 (by decide), setprot_entry_and _ _ 2 (by decide),
      setprot_entry_and _ _ 4 (by decide)]
  rw [flags]
  cases prot with
  | notPresent => decide
  | present readwrite execute =>
    cases readwrite <;> cases execute <;> decide

theorem setprot_entry_eq_iff (entry flags : U64) (small : flags &&& 7 = flags) :
    entry &&& ~~~7#64 ||| flags = entry ↔ entry &&& 7 = flags := by
  constructor
  · intro same
    have low := setprot_entry_and entry flags 7 (by decide)
    rwa [same, small] at low
  · intro low
    rw [← low, ← BitVec.and_or_distrib_left]
    have all : ~~~7#64 ||| 7 = BitVec.allOnes 64 := by decide
    rw [all, BitVec.and_allOnes]

theorem protFlags_small (prot : MempProt) :
    protFlags prot.prottype &&& 7 = protFlags prot.prottype := by
  cases prot with
  | notPresent => decide
  | present readwrite execute =>
    cases readwrite <;> cases execute <;> decide

/-! ## The array -/

theorem protPfn_eq (gpa : U64) : protPfn gpa = gpa.toNat % 2 ^ 32 / 4096 := by
  rw [protPfn, BitVec.toNat_setWidth]

variable {prot : MempProt} {i : Nat} {pf : Platform} {gpa : U64}

theorem setprot_at (gpa : U64) (prottype : U32) (pTables : Nat → U64) (here : i = protPfn gpa) :
    setprot gpa prottype pTables i = pTables i &&& ~~~7#64 ||| protFlags prottype := by
  subst here
  exact Function.update_self ..

theorem setprot_elsewhere (gpa : U64) (prottype : U32) (pTables : Nat → U64)
    (there : i ≠ protPfn gpa) : setprot gpa prottype pTables i = pTables i :=
  Function.update_of_ne there ..

theorem getprot_setprot_page (gpa : U64) (prot : MempProt) (pTables : Nat → U64) :
    getprot gpa (setprot gpa prot.prottype pTables) = prot.prottype := by
  unfold getprot
  rw [setprot_at gpa _ pTables rfl, entryProt_set]

theorem setprot_same {pTables : Nat → U64}
    (same : pTables (protPfn gpa) &&& 7 = protFlags prot.prottype) :
    setprot gpa prot.prottype pTables = pTables := by
  unfold setprot
  rw [(setprot_entry_eq_iff _ _ (protFlags_small prot)).mpr same, Function.update_eq_self]

section

variable {pTables : Nat → U64} (aligned : gpa.toNat % 4096 = 0)
  (one : SetsOnePage pf gpa prot pTables)

include aligned one

theorem below_of_setsOnePage (changes : pTables (protPfn gpa) &&& 7 ≠ protFlags prot.prottype)
    : gpa.toNat < 2 ^ 32 := by
  by_contra high
  -- The page whose leaf is overwritten.
  have value : (BitVec.ofNat 64 (gpa.toNat % 2 ^ 32)).toNat = gpa.toNat % 2 ^ 32 := by
    rw [BitVec.toNat_ofNat]
    omega
  have differs : BitVec.ofNat 64 (gpa.toNat % 2 ^ 32) ≠ gpa := by
    intro same
    have := congrArg BitVec.toNat same
    omega
  have leaf := (one.2 (BitVec.ofNat 64 (gpa.toNat % 2 ^ 32)) (by omega)
    (by have := pf.four_gigabytes_le; omega) differs).1
  rw [value, ← protPfn_eq, setprot_at gpa _ pTables rfl] at leaf
  exact changes ((setprot_entry_eq_iff _ _ (protFlags_small prot)).mp leaf)

theorem alias_of_setsOnePage (low : gpa.toNat < 2 ^ 32)
    (above : gpa.toNat + 2 ^ 32 < pf.maxPhysAddr) : getprot gpa pTables = prot.prottype := by
  have value : (gpa + BitVec.ofNat 64 (2 ^ 32)).toNat = gpa.toNat + 2 ^ 32 := by
    rw [BitVec.toNat_add, BitVec.toNat_ofNat]
    omega
  have differs : gpa + BitVec.ofNat 64 (2 ^ 32) ≠ gpa := by
    intro same
    have := congrArg BitVec.toNat same
    omega
  have shared : protPfn (gpa + BitVec.ofNat 64 (2 ^ 32)) = protPfn gpa := by
    rw [protPfn_eq, protPfn_eq, value]
    omega
  have kept := (one.2 _ (by omega) (by omega) differs).2
  have back := getprot_setprot_page gpa prot pTables
  unfold getprot at kept back ⊢
  rw [shared] at kept
  exact kept.symm.trans back

end

/-- Setting a protection is a matter of one page if nothing changes at all, or below 4 GB as long
as no supported page is read back through the same leaf. -/
theorem setprot_one_page_iff (pf : Platform) (gpa : U64) (prot : MempProt) (pTables : Nat → U64)
    (aligned : gpa.toNat % 4096 = 0) (supported : gpa.toNat < pf.maxPhysAddr) :
    SetsOnePage pf gpa prot pTables ↔ pTables (protPfn gpa) &&& 7 = protFlags prot.prottype ∨
        gpa.toNat < 2 ^ 32 ∧
          (pf.maxPhysAddr ≤ gpa.toNat + 2 ^ 32 ∨ getprot gpa pTables = prot.prottype) := by
  constructor
  · intro one
    by_cases same : pTables (protPfn gpa) &&& 7 = protFlags prot.prottype
    · exact .inl same
    · have low := below_of_setsOnePage aligned one same
      refine .inr ⟨low, ?_⟩
      rcases Nat.lt_or_ge (gpa.toNat + 2 ^ 32) pf.maxPhysAddr with above | top
      · exact .inr (alias_of_setsOnePage aligned one low above)
      · exact .inl top
  · rintro (same | ⟨low, apart⟩)
    · refine ⟨getprot_setprot_page gpa prot pTables, fun other _ _ _ => ?_⟩
      rw [setprot_same same]
      exact ⟨rfl, rfl⟩
    · refine ⟨getprot_setprot_page gpa prot pTables, fun other otherAligned otherLow differs => ?_⟩
      have numbers : other.toNat ≠ gpa.toNat := fun same => differs (BitVec.eq_of_toNat_eq same)
      have page := protPfn_eq gpa
      have otherPage := protPfn_eq other
      refine ⟨setprot_elsewhere gpa _ pTables (by omega), ?_⟩
      by_cases shared : protPfn other = protPfn gpa
      · have back := getprot_setprot_page gpa prot pTables
        unfold getprot at apart back ⊢
        rw [shared, back]
        rcases apart with top | already
        · omega
        · exact already.symm
      · unfold getprot
        rw [setprot_elsewhere gpa _ pTables shared]

/-- A machine with 4 GB of supported memory: there every page has a leaf of its own. -/
def fourGigabytes : Platform where
  maxPhysAddr := 0x100000000
  runtimePhysBase := 0x10200000
  runtimeSize := 0x10000000
  lapicBase := 0xfee00000
  virtualLapicBase := 0x10300000
  maxPhysAddr_aligned := by decide
  maxPhysAddr_le := by decide
  four_gigabytes_le := by decide
  runtime_aligned := samplePlatform.runtime_aligned
  lapic_aligned := samplePlatform.lapic_aligned
  virtualLapic_aligned := samplePlatform.virtualLapic_aligned
  lapic_outside := by decide

theorem setprot_one_page_four_gigabytes :
    SetsOnePage fourGigabytes 0x200000 (.present false true) fun _ => 7 :=
  (setprot_one_page_iff fourGigabytes 0x200000 (.present false true) (fun _ => 7) (by decide)
    (by decide)).mpr (.inr ⟨by decide, .inl (by decide)⟩)

/-- Hiding the page at 4 GB + 2 MB hides the page at 2 MB instead. -/
theorem setprot_hits_page_four_gigabytes_below :
    ¬ SetsOnePage samplePlatform 0x100200000 .notPresent fun _ => 7 := by
  intro one
  have leaf := (one.2 0x200000 (by decide) (by decide) (by decide)).1
  revert leaf
  decide

end Xmhf
