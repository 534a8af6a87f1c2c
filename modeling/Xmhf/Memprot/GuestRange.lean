import Xmhf.Hpt.Copy
import Xmhf.Memprot.GuestVirtual

/-!
# Guest-physical ranges

`guestmem_gpa2spa_size` (`memp-x86vmx-guestmem.c`) translates a range of guest-physical
memory to host memory and halts unless the range is contiguous there. It reads EPT01, which
XMHF builds of 4 KiB pages only.

The walk takes bits 47:0 of an address. Guest-physical memory ends at 2^48 under a table of
four levels, so an address above it, and a range that wraps around at 2^64, is not mapped;
`guestmem_gpa2spa_size` translates the low bits of such an address.
-/

namespace Xmhf

open BitVec (add_zero ofNat)

structure Ept01Table where
  eptp : U64
  mem : Mem
  /-- `_vmx_setupEPT` maps all memory by the page tables of the lowest level. -/
  small : ∀ access cpl gpa leaf,
    hptwCheckedGetPmeo (guestmemHostCtx eptp) mem access cpl gpa = some leaf → leaf.lvl = 1

namespace Ept01Table

abbrev ctx (e : Ept01Table) : HptwCtx := guestmemHostCtx e.eptp

variable (e : Ept01Table) {access : Prot} {cpl : Nat} {gpa : U64} {leaf : Pmeo}

theorem aligned (found : hptwCheckedGetPmeo e.ctx e.mem access cpl gpa = some leaf) :
    leaf.Aligned := by
  have level := e.small _ _ _ _ found
  have type : leaf.t = .ept := (hptwCheckedGetPmeo_leaf found).2.2.1
  have address := toNat_ept_getAddress leaf.lvl leaf.pme
  unfold Pmeo.Aligned Pmeo.getAddress Pmeo.pageSizeLog2
  rw [type, address, level]
  exact Nat.mul_mod_left _ _

end Ept01Table

/-! ## The translation of a range -/

/-- What `guestmem_gpa2spa_size` promises when it returns an address. -/
def Gpa2spaRight (e : Ept01Table) (gpa : U64) (len : Nat) : Prop :=
  ∀ spa, guestmemGpa2spaSize e.ctx e.mem gpa len = some spa →
    gpa.toNat + len ≤ 2 ^ 48 ∧ MapsRegion e.ctx e.mem hptProtsR gpa spa len

namespace Ept01Table

variable (e : Ept01Table) {gpa spa : U64} {len : Nat}

theorem accessVa_some {sz : Nat} {leaf : Pmeo}
    (found : hptwCheckedGetPmeo e.ctx e.mem hptProtsR 0 gpa = some leaf) :
    hptwCheckedAccessVa e.ctx e.mem hptProtsR 0 gpa sz =
      (leaf.vaToPa gpa, min sz (leaf.remainingOnPage gpa)) := by
  have isLeaf := isLeaf_of_found found
  have left : leaf.remainingOnPage (leaf.vaToPa gpa) = leaf.remainingOnPage gpa := by
    rw [remainingOnPage_eq_sub isLeaf, remainingOnPage_eq_sub isLeaf,
      toNat_vaToPa_offset isLeaf (e.aligned found)]
  rw [hptwCheckedAccessVa_some rfl found, left]

theorem add_add (done i : Nat) :
    gpa + ofNat 64 (done + i) = gpa + ofNat 64 done + ofNat 64 i := by
  rw [BitVec.ofNat_add, BitVec.add_assoc]

theorem mapsRegion_chunk {done k : Nat} {leaf : Pmeo}
    (region : MapsRegion e.ctx e.mem hptProtsR gpa spa done)
    (found : hptwCheckedGetPmeo e.ctx e.mem hptProtsR 0 (gpa + ofNat 64 done) = some leaf)
    (next : spa + ofNat 64 done = leaf.vaToPa (gpa + ofNat 64 done))
    (fits : k ≤ leaf.remainingOnPage (gpa + ofNat 64 done)) :
    MapsRegion e.ctx e.mem hptProtsR gpa spa (done + k) := by
  intro off below
  rcases Nat.lt_or_ge off done with before | after
  · exact region off before
  · obtain ⟨i, rfl⟩ := Nat.exists_eq_add_of_le after
    have isLeaf := isLeaf_of_found found
    rw [remainingOnPage_eq_sub isLeaf] at fits
    have page : (gpa + ofNat 64 done).toNat % 2 ^ leaf.pageSizeLog2 + i <
        2 ^ leaf.pageSizeLog2 := by omega
    refine ⟨leaf, ?_, ?_⟩
    · rw [add_add]
      exact found_in_page found page
    · rw [add_add, add_add, next]
      exact vaToPa_in_page isLeaf page

theorem scan_succ {fuel done : Nat} {start : Ptr} (more : done < len)
    (result : gpa2spaScan e.ctx e.mem gpa len (fuel + 1) done (some start) = some spa)
    (later : 0 < done) :
    ∃ leaf, hptwCheckedGetPmeo e.ctx e.mem hptProtsR 0 (gpa + ofNat 64 done) = some leaf ∧
      start + ofNat 64 done = leaf.vaToPa (gpa + ofNat 64 done) ∧
      gpa2spaScan e.ctx e.mem gpa len fuel
        (done + min (len - done) (leaf.remainingOnPage (gpa + ofNat 64 done)))
          (some start) = some spa := by
  rw [gpa2spaScan, if_pos more] at result
  cases walk : hptwCheckedGetPmeo e.ctx e.mem hptProtsR 0 (gpa + ofNat 64 done) with
  | none =>
    rw [hptwCheckedAccessVa_none walk] at result
    simp at result
  | some leaf =>
    rw [e.accessVa_some walk] at result
    simp only [if_neg (Nat.ne_of_gt later), Option.getD_some] at result
    split at result
    · next step => exact ⟨leaf, rfl, step.1, result⟩
    · cases result

theorem scan_sound {fuel done : Nat} {start : Ptr} (later : 0 < done) (enough : len ≤ done + fuel)
    (region : MapsRegion e.ctx e.mem hptProtsR gpa start done)
    (result : gpa2spaScan e.ctx e.mem gpa len fuel done (some start) = some spa) :
    MapsRegion e.ctx e.mem hptProtsR gpa spa len := by
  induction fuel generalizing done with
  | zero =>
    cases result
    exact fun off below => region off (by omega)
  | succ fuel ih =>
    by_cases more : done < len
    · obtain ⟨leaf, walk, next, rest⟩ := e.scan_succ more result later
      have left := remainingOnPage_pos (isLeaf_of_found walk) (gpa + ofNat 64 done)
      refine ih (by omega) ?_ (e.mapsRegion_chunk region walk next (Nat.min_le_right _ _)) rest
      omega
    · rw [gpa2spaScan, if_neg more] at result
      cases result
      exact fun off below => region off (by omega)

theorem size_eq (positive : 0 < len) : guestmemGpa2spaSize e.ctx e.mem gpa len =
      (hptwCheckedGetPmeo e.ctx e.mem hptProtsR 0 gpa).bind fun leaf =>
        gpa2spaScan e.ctx e.mem gpa len (len - 1) (min len (leaf.remainingOnPage gpa))
          (some (leaf.vaToPa gpa)) := by
  obtain ⟨fuel, rfl⟩ := Nat.exists_eq_succ_of_ne_zero (Nat.ne_of_gt positive)
  unfold guestmemGpa2spaSize
  rw [gpa2spaScan, if_pos positive]
  simp only [add_zero, Nat.sub_zero, if_true, true_and, Nat.zero_add]
  cases walk : hptwCheckedGetPmeo e.ctx e.mem hptProtsR 0 gpa with
  | none =>
    rw [hptwCheckedAccessVa_none walk]
    rfl
  | some leaf =>
    have left := remainingOnPage_pos (isLeaf_of_found walk) gpa
    rw [e.accessVa_some walk]
    exact if_pos (Nat.lt_min.mpr ⟨positive, left⟩)

theorem size_sound (positive : 0 < len)
    (result : guestmemGpa2spaSize e.ctx e.mem gpa len = some spa) :
    MapsRegion e.ctx e.mem hptProtsR gpa spa len := by
  rw [e.size_eq positive] at result
  obtain ⟨leaf, walk, rest⟩ := Option.bind_eq_some_iff.mp result
  have left := remainingOnPage_pos (isLeaf_of_found walk) gpa
  have none : MapsRegion e.ctx e.mem hptProtsR gpa (leaf.vaToPa gpa) 0 :=
    fun off below => absurd below (Nat.not_lt_zero off)
  have first := @mapsRegion_chunk e gpa (leaf.vaToPa gpa) 0 (min len (leaf.remainingOnPage gpa)) leaf
    none (by rwa [add_zero]) (by rw [add_zero, add_zero])
    (by rw [add_zero]; exact Nat.min_le_right _ _)
  rw [Nat.zero_add] at first
  exact e.scan_sound (by omega) (by omega) first rest

theorem scan_complete (region : MapsRegion e.ctx e.mem hptProtsR gpa spa len) {fuel done : Nat}
    (later : 0 < done) (enough : len ≤ done + fuel) :
    gpa2spaScan e.ctx e.mem gpa len fuel done (some spa) = some spa := by
  induction fuel generalizing done with
  | zero => rfl
  | succ fuel ih =>
    rw [gpa2spaScan]
    by_cases more : done < len
    · obtain ⟨leaf, walk, place⟩ := region done more
      have left := remainingOnPage_pos (isLeaf_of_found walk) (gpa + ofNat 64 done)
      rw [if_pos more, e.accessVa_some walk]
      simp only [if_neg (Nat.ne_of_gt later), Option.getD_some]
      rw [if_pos ⟨place.symm, Nat.lt_min.mpr ⟨by omega, left⟩⟩]
      exact ih (by omega) (by omega)
    · rw [if_neg more]

theorem size_complete (positive : 0 < len) (region : MapsRegion e.ctx e.mem hptProtsR gpa spa len) :
    guestmemGpa2spaSize e.ctx e.mem gpa len = some spa := by
  obtain ⟨leaf, walk, place⟩ := region 0 positive
  rw [add_zero] at walk place
  rw [add_zero] at place
  have left := remainingOnPage_pos (isLeaf_of_found walk) gpa
  rw [e.size_eq positive, walk, Option.bind_some, place]
  exact e.scan_complete region (by omega) (by omega)

end Ept01Table

/-- An address that `guestmem_gpa2spa_size` returns is right for every range within 2^48, and
beyond that only as long as the low bits of the addresses are no such range either. -/
theorem gpa2spa_size_right_iff (e : Ept01Table) (gpa : U64) (len : Nat) : Gpa2spaRight e gpa len ↔
      len = 0 ∨ gpa.toNat + len ≤ 2 ^ 48 ∨
        ¬ ∃ spa, MapsRegion e.ctx e.mem hptProtsR gpa spa len := by
  rcases Nat.eq_zero_or_pos len with rfl | positive
  · refine iff_of_true ?_ (.inl rfl)
    intro spa result
    cases result
  · constructor
    · intro right
      by_cases region : ∃ spa, MapsRegion e.ctx e.mem hptProtsR gpa spa len
      · obtain ⟨spa, region⟩ := region
        exact .inr (.inl (right spa (e.size_complete positive region)).1)
      · exact .inr (.inr region)
    · rintro (empty | inside | unmapped) spa result
      · omega
      · exact ⟨inside, e.size_sound positive result⟩
      · exact absurd ⟨spa, e.size_sound positive result⟩ unmapped

theorem checkedWalk_entry {ctx : HptwCtx} {mem : Mem} {access : Prot} {cpl : Nat} {va : Va}
    {leaf : Pmeo} {lvl : Nat} {pm : Ptr}
    (found : checkedWalk ctx mem access cpl va lvl pm = some leaf) :
    ∃ pm idx, leaf.pme = hptPmGetPmeByIdx ctx.t (mem pm) idx := by
  induction lvl generalizing pm with
  | zero => cases found
  | succ lvl ih =>
    rcases checkedWalk_succ found with ⟨-, ⟨next, -, rest⟩ | ⟨-, -, rfl⟩⟩
    · exact ih rest
    · exact ⟨pm, _, rfl⟩

/-- Tables whose entries all have bit 7 clear, as those that `_vmx_setupEPT` writes. -/
def Ept01Table.ofEntries (eptp : U64) (mem : Mem)
    (noLarge : ∀ pm idx, (mem pm idx).getLsbD 7 = false) : Ept01Table where
  eptp := eptp
  mem := mem
  small access cpl gpa leaf found := by
    obtain ⟨-, page, type, low, high⟩ := hptwCheckedGetPmeo_leaf found
    obtain ⟨pm, -, walk⟩ := hptwCheckedGetPmeo_some found
    obtain ⟨table, idx, entry⟩ := checkedWalk_entry walk
    rw [Pmeo.isPage, type, show (guestmemHostCtx eptp).t = .ept from rfl, ept_isPage, entry,
      show hptPmGetPmeByIdx (guestmemHostCtx eptp).t (mem table) idx = mem table idx from rfl,
      noLarge] at page
    simpa using page

/-- Tables at 0x1000, 0x2000, 0x3000 and 0x4000 that map the first 2 MB to themselves. -/
def firstPages : Mem := fun pm idx =>
  if pm = 0x4000 then BitVec.ofNat 52 idx ++ 7#12
  else if idx = 0 then
    if pm = 0x1000 then 0x2007 else if pm = 0x2000 then 0x3007 else 0x4007
  else 0

def firstTable : Ept01Table :=
  .ofEntries 0x101e firstPages fun pm idx => by
    unfold firstPages
    split
    · rw [BitVec.getLsbD_append]
      rfl
    · split
      · split
        · rfl
        · split <;> rfl
      · rfl

/-- The address 2^48 + 0x1000 is translated to 0x1000. -/
theorem gpa2spa_size_folds_high_address :
    guestmemGpa2spaSize firstTable.ctx firstTable.mem 0x1000000001000 16 = some 0x1000 ∧
      ¬ Gpa2spaRight firstTable 0x1000000001000 16 := by
  have result : guestmemGpa2spaSize firstTable.ctx firstTable.mem 0x1000000001000 16 =
      some 0x1000 := by decide +kernel
  refine ⟨result, fun right => ?_⟩
  have inside := (right _ result).1
  revert inside
  decide

end Xmhf
