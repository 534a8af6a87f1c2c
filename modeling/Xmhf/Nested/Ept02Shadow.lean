import Xmhf.Nested.Ept02

/-!
# EPT02 as the composition of EPT12 and EPT01

The purpose of EPT02 is to be the composition of the two source tables. A leaf
of EPT02 is *faithful* for an L2 address (`FaithfulAt`) when it translates the
address as EPT01 translates EPT12's result, and grants no permission that a
level of one of the two source walks denies.

The walk copies the permissions of the two leaf entries only, so it builds a
faithful leaf when these are already within the effective permissions of both
walks (`WalkExact`). Under that condition every walk keeps the table invariant
whose leaf property is `FaithfulAt`, and so does every sequence of walks.
-/

namespace Xmhf

open Function (update update_of_ne update_self)

/-! ## The page pool -/

namespace Ept02Pool

variable {pool : Ept02Pool}

theorem toNat_page {i : Nat} (inside : i < pool.size) :
    (pool.page i).toNat = pool.base.toNat + 4096 * i := by
  have bound := pool.bound
  rw [page, BitVec.toNat_add, BitVec.toNat_ofNat]
  omega

theorem page_injective {i j : Nat} (left : i < pool.size) (right : j < pool.size)
    (same : pool.page i = pool.page j) : i = j := by
  have numbers := congrArg BitVec.toNat same
  rw [toNat_page left, toNat_page right] at numbers
  omega

def live (pool : Ept02Pool) (pageAlloc : Nat → Bool) (p : Ptr) : Prop :=
  ∃ i, i < pool.size ∧ pageAlloc i = true ∧ p = pool.page i

end Ept02Pool

theorem ept02Gzp_some {pool : Ept02Pool} {pageAlloc pageAlloc' : Nat → Bool} {mem mem' : Mem}
    {page : Ptr} (got : ept02Gzp pool pageAlloc mem = some (page, pageAlloc', mem')) :
    ∃ i, i < pool.size ∧ pageAlloc i = false ∧ page = pool.page i ∧
      pageAlloc' = update pageAlloc i true ∧
      mem' = update mem page fun _ => 0#64 := by
  unfold ept02Gzp at got
  split at got
  · next i found =>
    cases got
    have free := List.find?_some found
    have inside := List.mem_range.mp (List.mem_of_find?_eq_some found)
    exact ⟨i, inside, by simpa using free, rfl, rfl, rfl⟩
  · cases got

theorem ept02_link_slot (pool : Ept02Pool) (rootPa : Pa) {page : Ptr} (nonnull : page ≠ nullPtr)
    (aligned : page.toNat % 4096 = 0) (bound : page.toNat < 2 ^ 52) (pme : Pme) {lvl : Nat}
    (notPage : Pmeo.isPage ⟨pme, .ept, lvl⟩ = false) :
    (walkShape (ept02HptwCtx pool rootPa).toHptwCtx).slot lvl
      (linkPmeo (ept02HptwCtx pool rootPa) ⟨pme, .ept, lvl⟩ page).pme = .table page := by
  have bits (i : Nat) : (linkPmeo (ept02HptwCtx pool rootPa) ⟨pme, .ept, lvl⟩ page).pme.getLsbD i =
      if i ≤ 2 then hptProtsRwx.getLsbD i
      else if 12 ≤ i ∧ i ≤ 51 then page.getLsbD i else pme.getLsbD i := by
    have fits : ∀ i, 2 < i → hptProtsRwx.getLsbD i = false := fun i above => by
      rw [show hptProtsRwx = hptProtOf true true true by decide, getLsbD_hptProtOf]
      have : i ≠ 0 ∧ i ≠ 1 ∧ i ≠ 2 := by omega
      simp [this]
    have prot := getLsbD_ept_setprot lvl (hptPmeSetAddress .ept lvl pme page) fits i
    rw [getLsbD_ept_setAddress] at prot
    exact prot
  generalize (linkPmeo (ept02HptwCtx pool rootPa) ⟨pme, .ept, lvl⟩ page).pme = entry at bits
  have present : Pmeo.isPresent ⟨entry, .ept, lvl⟩ = true := by
    show hptPmeIsPresent .ept lvl entry = true
    have first : hptProtsRwx.getLsbD 0 = true := by decide
    rw [ept_isPresent, bits 0, if_pos (Nat.zero_le 2), first, Bool.true_or, Bool.true_or]
  have table : Pmeo.isPage ⟨entry, .ept, lvl⟩ = false := by
    show hptPmeIsPage .ept lvl entry = false
    rw [ept_isPage, bits 7, if_neg (by omega), if_neg (by omega), ← ept_isPage]
    exact notPage
  have address : Pmeo.getAddress ⟨entry, .ept, lvl⟩ = page := by
    show hptPmeGetAddress .ept lvl entry = page
    apply BitVec.eq_of_getLsbD_eq
    intro i width
    rw [getLsbD_ept_getAddress, bits i]
    by_cases inside : 12 ≤ i ∧ i ≤ 51
    · have high : ¬ i ≤ 2 := by omega
      simp [inside, high]
    · rw [if_neg inside]
      rw [BitVec.getLsbD]
      by_cases low : i < 12
      · have split : page.toNat = 2 ^ 12 * (page.toNat / 2 ^ 12) := by omega
        rw [split, Nat.testBit_two_pow_mul]
        simp [Nat.not_le.mpr low]
      · have large : page.toNat < 2 ^ i :=
          calc page.toNat < 2 ^ 52 := bound
            _ ≤ 2 ^ i := Nat.pow_le_pow_right (by decide) (by omega)
        exact (Nat.testBit_lt_two_pow large).symm
  simp only [walkShape, ept02HptwCtx, hostPa2ptr, present, table, address, nonnull, Bool.not_true,
    Bool.false_eq_true, if_false]

theorem ept02_allocSound (pool : Ept02Pool) (rootPa : Pa) :
    AllocSound (ept02HptwCtx pool rootPa) pool.live where
  fresh := by
    intro a mem page a' mem' got
    obtain ⟨i, inside, free, rfl, -, -⟩ := ept02Gzp_some got
    rintro ⟨j, inside', used, same⟩
    rw [Ept02Pool.page_injective inside inside' same, used] at free
    cases free
  zeroed := by
    intro a mem page a' mem' got
    obtain ⟨i, -, -, -, -, zeroed⟩ := ept02Gzp_some got
    exact zeroed
  taken := by
    intro a mem page a' mem' got
    obtain ⟨i, inside, -, rfl, rfl, -⟩ := ept02Gzp_some got
    exact ⟨i, inside, update_self i true a, rfl⟩
  kept := by
    intro a mem page a' mem' got p used
    obtain ⟨i, -, -, -, rfl, -⟩ := ept02Gzp_some got
    obtain ⟨j, inside, allocated, same⟩ := used
    refine ⟨j, inside, ?_, same⟩
    by_cases new : j = i
    · rw [new, update_self]
    · rw [update_of_ne new]
      exact allocated
  linked := by
    intro a mem page a' mem' got pme lvl _ _ notPage
    obtain ⟨i, inside, -, rfl, -, -⟩ := ept02Gzp_some got
    have number := Ept02Pool.toNat_page inside
    have bound := pool.bound
    have aligned := pool.aligned
    have nonnull := pool.nonnull
    refine ept02_link_slot pool rootPa (fun null => ?_) (by omega) (by omega) pme notPage
    rw [null] at number
    simp only [BitVec.toNat_ofNat, Nat.zero_mod] at number
    omega

/-! ## The entry built by the walk -/

section Entry

variable {pmeo12 pmeo01 : Pmeo} (xmhfPaddr : U64)

theorem ept02Pmeo_lvl : (ept02Pmeo pmeo12 pmeo01 xmhfPaddr).lvl = min pmeo12.lvl pmeo01.lvl := by
  show (if pmeo12.lvl < pmeo01.lvl then pmeo12.lvl else pmeo01.lvl) = _
  split <;> omega

section

variable (type12 : pmeo12.t = .ept) (type01 : pmeo01.t = .ept) (low : 1 ≤ min pmeo12.lvl pmeo01.lvl)
  (high : min pmeo12.lvl pmeo01.lvl ≤ 3)

include type12 type01 low high

theorem getLsbD_ept02Pmeo (i : Nat) :
    (ept02Pmeo pmeo12 pmeo01 xmhfPaddr).pme.getLsbD i =
      if 3 ≤ i ∧ i ≤ 5 then pmeo12.getcache.getLsbD (i - 3)
      else if i ≤ 2 then pmeo01.getprot.getLsbD i && pmeo12.getprot.getLsbD i
      else if 12 ≤ i ∧ i ≤ 51 then xmhfPaddr.getLsbD i
      else decide (i = 7) && !decide (min pmeo12.lvl pmeo01.lvl = 1) := by
  obtain ⟨pme12, t12, lvl12⟩ := pmeo12
  obtain ⟨pme01, t01, lvl01⟩ := pmeo01
  subst type12 type01
  have level : (if lvl12 < lvl01 then lvl12 else lvl01) = min lvl12 lvl01 := by
    split <;> omega
  show (hptPmeSetPmt .ept (if lvl12 < lvl01 then lvl12 else lvl01)
    (hptPmeSetprot .ept (if lvl12 < lvl01 then lvl12 else lvl01)
      (hptPmeSetAddress .ept (if lvl12 < lvl01 then lvl12 else lvl01)
        (hptPmeSetPage .ept (if lvl12 < lvl01 then lvl12 else lvl01) 0#64 true) xmhfPaddr)
      (hptPmeGetprot .ept lvl01 pme01 &&& hptPmeGetprot .ept lvl12 pme12))
    (hptPmeGetPmt .ept pme12)).getLsbD i = _
  have prots : ∀ j, 2 < j →
      (hptPmeGetprot .ept lvl01 pme01 &&& hptPmeGetprot .ept lvl12 pme12).getLsbD j = false := by
    intro j above
    rw [BitVec.getLsbD_and, getLsbD_ept_getprot, if_neg (by omega), Bool.false_and]
  have page : (hptPmeSetPage .ept (min lvl12 lvl01) 0#64 true).getLsbD i =
      (decide (i = 7) && !decide (min lvl12 lvl01 = 1)) := by
    by_cases one : min lvl12 lvl01 = 1
    · simp [hptPmeSetPage, one]
    · have bit := @getLsbD_br64SetBit 0#64 7 (by decide) true i
      rw [hptPmeSetPage, if_neg one, if_pos high]
      refine bit.trans ?_
      by_cases seven : i = 7
      · simp [seven, one]
      · simp [seven]
  rw [level, getLsbD_ept_setPmt _ _ (fun j above => getLsbD_ept_getPmt_high pme12 above),
    getLsbD_ept_setprot _ _ prots, getLsbD_ept_setAddress, BitVec.getLsbD_and, page]
  rfl

theorem ept02Pmeo_getprot :
    (ept02Pmeo pmeo12 pmeo01 xmhfPaddr).getprot = pmeo01.getprot &&& pmeo12.getprot := by
  apply BitVec.eq_of_getLsbD_eq
  intro i _
  have bits := getLsbD_ept02Pmeo xmhfPaddr type12 type01 low high i
  have prot01 := getLsbD_ept_getprot pmeo01.lvl pmeo01.pme i
  have prot := getLsbD_ept_getprot (ept02Pmeo pmeo12 pmeo01 xmhfPaddr).lvl
    (ept02Pmeo pmeo12 pmeo01 xmhfPaddr).pme i
  rw [bits] at prot
  refine Eq.trans prot ?_
  rw [BitVec.getLsbD_and]
  by_cases permission : i ≤ 2
  · have other : ¬ 3 ≤ i := by omega
    simp [permission, other]
  · have none : pmeo01.getprot.getLsbD i = false := by
      rw [Pmeo.getprot, type01, prot01, if_neg permission]
    simp [permission, none]

theorem toNat_ept02Pmeo_getAddress :
    (ept02Pmeo pmeo12 pmeo01 xmhfPaddr).getAddress.toNat =
      xmhfPaddr.toNat % 2 ^ 52 / 2 ^ 12 * 2 ^ 12 := by
  rw [← toNat_ept_getAddress (ept02Pmeo pmeo12 pmeo01 xmhfPaddr).lvl xmhfPaddr]
  apply congrArg BitVec.toNat
  apply BitVec.eq_of_getLsbD_eq
  intro i _
  have bits := getLsbD_ept02Pmeo xmhfPaddr type12 type01 low high i
  have address := getLsbD_ept_getAddress (ept02Pmeo pmeo12 pmeo01 xmhfPaddr).lvl
    (ept02Pmeo pmeo12 pmeo01 xmhfPaddr).pme i
  refine Eq.trans address ?_
  rw [getLsbD_ept_getAddress, bits]
  by_cases inside : 12 ≤ i ∧ i ≤ 51
  · have type : ¬ (3 ≤ i ∧ i ≤ 5) := by omega
    have permission : ¬ i ≤ 2 := by omega
    simp [inside, type, permission]
  · simp [inside]

theorem ept02Pmeo_isPage : (ept02Pmeo pmeo12 pmeo01 xmhfPaddr).isPage = true := by
  have bits := getLsbD_ept02Pmeo xmhfPaddr type12 type01 low high 7
  have type : (ept02Pmeo pmeo12 pmeo01 xmhfPaddr).t = .ept := rfl
  rw [Pmeo.isPage, type, ept_isPage, bits, ept02Pmeo_lvl]
  have levels : min pmeo12.lvl pmeo01.lvl = 1 ∨ min pmeo12.lvl pmeo01.lvl = 2 ∨
      min pmeo12.lvl pmeo01.lvl = 3 := by omega
  rcases levels with level | level | level <;> simp [level]

end

end Entry

/-! ## Faithful leaves -/

/-- `leaf`, found in EPT02 for `va`, is what the two source tables give: the same
host address, and no permission that a level of one of their walks denies. -/
def FaithfulAt (src : Ept12Ctx) (leaf : Pmeo) (va : Va) : Prop :=
  ∃ leaf12 leaf01, hptwCheckedGetPmeo src.ctx src.mem 0#64 0 va = some leaf12 ∧
    hptwCheckedGetPmeo src.ctx01 src.mem 0#64 0 (leaf12.vaToPa va) = some leaf01 ∧
    leaf.vaToPa va = leaf01.vaToPa (leaf12.vaToPa va) ∧
    leaf.getprot &&& hptwGetEffectiveProts src.ctx src.mem va = leaf.getprot ∧
    leaf.getprot &&& hptwGetEffectiveProts src.ctx01 src.mem (leaf12.vaToPa va) = leaf.getprot

/-- The condition under which the leaves `leaf12` and `leaf01` of a walk for `va`
give a faithful entry. The permissions that the two leaves share are granted at
every level of both walks. If the smaller page is larger than 4 KiB, both leaf
addresses are multiples of its size and `va` lies in its first 4 KiB; the host
address is below 2^52. -/
structure LeavesFit (src : Ept12Ctx) (va : Va) (leaf12 leaf01 : Pmeo) : Prop where
  prots12 : leaf01.getprot &&& leaf12.getprot &&& hptwGetEffectiveProts src.ctx src.mem va =
    leaf01.getprot &&& leaf12.getprot
  prots01 : leaf01.getprot &&& leaf12.getprot &&&
    hptwGetEffectiveProts src.ctx01 src.mem (leaf12.vaToPa va) =
    leaf01.getprot &&& leaf12.getprot
  aligned12 : leaf12.getAddress.toNat % 2 ^ eptShift (min leaf12.lvl leaf01.lvl) = 0
  aligned01 : leaf01.getAddress.toNat % 2 ^ eptShift (min leaf12.lvl leaf01.lvl) = 0
  firstPage : va.toNat % 2 ^ eptShift (min leaf12.lvl leaf01.lvl) < 4096
  bound : (leaf01.vaToPa (leaf12.vaToPa va)).toNat < 2 ^ 52

section Frame

variable {src : Ept12Ctx} {va w : Va} {leaf12 leaf01 : Pmeo}

theorem SamePath.guest1 (type12 : leaf12.t = .ept) (low12 : 1 ≤ leaf12.lvl)
    (high12 : leaf12.lvl ≤ 3) {k : Nat} (low : 1 ≤ k) (le : k ≤ leaf12.lvl)
    (aligned : leaf12.getAddress.toNat % 2 ^ eptShift k = 0) (same : SamePath k va w) :
    (leaf12.vaToPa w).toNat / 2 ^ eptShift k = (leaf12.vaToPa va).toNat / 2 ^ eptShift k ∧
      (leaf12.vaToPa w).toNat % 2 ^ eptShift k = w.toNat % 2 ^ eptShift k := by
  have offset := same.offset low le high12
  rw [toNat_ept_vaToPa type12 low12 high12, toNat_ept_vaToPa type12 low12 high12]
  generalize leaf12.getAddress.toNat = base at aligned ⊢
  generalize leaf12.lvl = l at *
  have levels : (k = 1 ∨ k = 2 ∨ k = 3) ∧ (l = 1 ∨ l = 2 ∨ l = 3) := by omega
  obtain ⟨rfl | rfl | rfl, rfl | rfl | rfl⟩ := levels <;>
    simp only [eptShift, hptVaIdxHi] at le aligned offset ⊢ <;> omega

theorem LeavesFit.frame (fit : LeavesFit src va leaf12 leaf01) (type12 : leaf12.t = .ept)
    (low12 : 1 ≤ leaf12.lvl) (high12 : leaf12.lvl ≤ 3) (type01 : leaf01.t = .ept)
    (low01 : 1 ≤ leaf01.lvl) (high01 : leaf01.lvl ≤ 3)
    (same : SamePath (min leaf12.lvl leaf01.lvl) va w) :
    (ept02Pmeo leaf12 leaf01 (leaf01.vaToPa (leaf12.vaToPa va))).vaToPa w =
      leaf01.vaToPa (leaf12.vaToPa w) := by
  have low : 1 ≤ min leaf12.lvl leaf01.lvl := by omega
  have high : min leaf12.lvl leaf01.lvl ≤ 3 := by omega
  obtain ⟨path, offset⟩ := SamePath.guest1 type12 low12 high12 low (Nat.min_le_left _ _)
    fit.aligned12 same
  obtain ⟨-, start⟩ := SamePath.guest1 (w := va) type12 low12 high12 low (Nat.min_le_left _ _)
    fit.aligned12 (fun _ _ _ => rfl)
  have aligned := fit.aligned01
  have first := fit.firstPage
  have bound := fit.bound
  apply BitVec.eq_of_toNat_eq
  rw [toNat_ept_vaToPa rfl (ept02Pmeo_lvl _ ▸ low) (ept02Pmeo_lvl _ ▸ high),
    toNat_ept02Pmeo_getAddress _ type12 type01 low high, ept02Pmeo_lvl,
    toNat_ept_vaToPa type01 low01 high01, toNat_ept_vaToPa type01 low01 high01]
  rw [toNat_ept_vaToPa type01 low01 high01] at bound
  generalize leaf01.getAddress.toNat = base at aligned bound ⊢
  generalize (leaf12.vaToPa va).toNat = g at path start bound ⊢
  generalize (leaf12.vaToPa w).toNat = g' at path offset ⊢
  have le : min leaf12.lvl leaf01.lvl ≤ leaf01.lvl := Nat.min_le_right _ _
  generalize min leaf12.lvl leaf01.lvl = k at *
  generalize leaf01.lvl = l at *
  have levels : (k = 1 ∨ k = 2 ∨ k = 3) ∧ (l = 1 ∨ l = 2 ∨ l = 3) := by omega
  obtain ⟨rfl | rfl | rfl, rfl | rfl | rfl⟩ := levels <;>
    simp only [eptShift, hptVaIdxHi] at le aligned offset path start first bound ⊢ <;> omega

theorem LeavesFit.faithful {access : Prot} (fit : LeavesFit src va leaf12 leaf01)
    (found12 : hptwCheckedGetPmeo src.ctx src.mem access 0 va = some leaf12)
    (found01 : hptwCheckedGetPmeo src.ctx01 src.mem access 0 (leaf12.vaToPa va) = some leaf01)
    (same : SamePath (min leaf12.lvl leaf01.lvl) va w) :
    FaithfulAt src (ept02Pmeo leaf12 leaf01 (leaf01.vaToPa (leaf12.vaToPa va))) w := by
  obtain ⟨type12, low12, high12⟩ := ept_leaf rfl found12
  obtain ⟨type01, low01, high01⟩ := ept_leaf rfl found01
  have low : 1 ≤ min leaf12.lvl leaf01.lvl := by omega
  have high : min leaf12.lvl leaf01.lvl ≤ 3 := by omega
  have unchecked12 := hptwCheckedGetPmeo_unchecked found12
  have unchecked01 := hptwCheckedGetPmeo_unchecked found01
  have path12 : SamePath leaf12.lvl va w := same.mono (Nat.min_le_left _ _)
  have path01 : SamePath leaf01.lvl (leaf12.vaToPa va) (leaf12.vaToPa w) :=
    (SamePath.of_div low high (SamePath.guest1 type12 low12 high12 low (Nat.min_le_left _ _)
      fit.aligned12 same).1).mono (Nat.min_le_right _ _)
  refine ⟨leaf12, leaf01, hptwCheckedGetPmeo_congr unchecked12 path12,
    hptwCheckedGetPmeo_congr unchecked01 path01,
    fit.frame type12 low12 high12 type01 low01 high01 same, ?_, ?_⟩
  · rw [ept02Pmeo_getprot _ type12 type01 low high, hptwGetEffectiveProts_congr unchecked12 path12]
    exact fit.prots12
  · rw [ept02Pmeo_getprot _ type12 type01 low high, hptwGetEffectiveProts_congr unchecked01 path01]
    exact fit.prots01

end Frame

/-! ## The invariant of EPT02 -/

/-- EPT02 is a table from its root all of whose leaves are faithful. -/
structure Ept02Inv (pool : Ept02Pool) (src : Ept12Ctx) (s : Ept02Ctx) : Prop where
  rooted : s.rootPa ≠ nullPtr
  table : ∃ own, TableInv (ept02HptwCtx pool s.rootPa) pool.live
    (fun lvl pme va => FaithfulAt src ⟨pme, .ept, lvl⟩ va) own s.pageAlloc s.mem ∧
    own s.rootPa = some (4, Set.univ)

theorem ept02_getRoot (pool : Ept02Pool) {rootPa : Pa} (rooted : rootPa ≠ nullPtr) :
    hptwGetRoot (ept02HptwCtx pool rootPa).toHptwCtx = some rootPa := by
  simp only [hptwGetRoot, ept02HptwCtx, hostPa2ptr]
  rw [if_pos ⟨rooted, trivial⟩]

theorem ept02Gzp_free (pool : Ept02Pool) (mem : Mem) : ept02Gzp pool (fun _ => false) mem =
      some (pool.page 0, update (fun _ => false) 0 true,
        update mem (pool.page 0) fun _ => 0#64) := by
  obtain ⟨n, size⟩ := Nat.exists_eq_succ_of_ne_zero (Nat.ne_of_gt pool.nonempty)
  rw [ept02Gzp, size, List.range_succ_eq_map]
  rfl

theorem ept02CtxReset_inv (pool : Ept02Pool) (src : Ept12Ctx) (ctx : Ept02Ctx) :
    Ept02Inv pool src (ept02CtxReset pool ctx) := by
  rw [ept02CtxReset, ept02Gzp_free]
  have number := Ept02Pool.toNat_page pool.nonempty
  have nonnull := pool.nonnull
  refine ⟨fun null => ?_, update (fun _ => none) (pool.page 0) (some (4, Set.univ)),
    ⟨?_, ?_⟩, update_self _ _ _⟩
  · dsimp only at null
    rw [null] at number
    simp only [BitVec.toNat_ofNat, Nat.zero_mod] at number
    omega
  · intro n l R owned va _
    by_cases root : n = pool.page 0
    · subst root
      have zero := slot_zero (ept02HptwCtx pool (pool.page 0)).toHptwCtx (l + 1)
      rw [walkStore_update, update_self, Radix.Shape.EntryOk, zero]
      trivial
    · rw [update_of_ne root] at owned
      cases owned
  · intro p x owned
    by_cases root : p = pool.page 0
    · exact ⟨0, pool.nonempty, rfl, root⟩
    · rw [update_of_ne root] at owned
      cases owned

section Walk

variable {pool : Ept02Pool} {src : Ept12Ctx} {s s' : Ept02Ctx} {va : Va} {access : Prot}
  {leaf12 leaf01 : Pmeo}

theorem ept_slot_of_page (ctx : HptwCtx) (type : ctx.t = .ept) {pmeo : Pmeo}
    (ept : pmeo.t = .ept) (page : pmeo.isPage = true) :
    (walkShape ctx).slot pmeo.lvl pmeo.pme = .absent ∨
      (walkShape ctx).slot pmeo.lvl pmeo.pme = .leaf := by
  obtain ⟨pme, t, lvl⟩ := pmeo
  subst ept
  simp only [walkShape, type]
  cases Pmeo.isPresent ⟨pme, .ept, lvl⟩ with
  | false => exact Or.inl rfl
  | true =>
    refine Or.inr ?_
    simp only [Bool.not_true, Bool.false_eq_true, if_false, page, if_true]

section

variable (found12 : hptwCheckedGetPmeo src.ctx src.mem access 0 va = some leaf12)
  (found01 : hptwCheckedGetPmeo src.ctx01 src.mem access 0 (leaf12.vaToPa va) = some leaf01)
  (fit : LeavesFit src va leaf12 leaf01)

include found12 found01 fit

theorem Ept02Inv.insert {ok : Bool} {pageAlloc : Nat → Bool} {mem : Mem}
    (inv : Ept02Inv pool src s)
    (insert : hptwInsertPmeoAlloc (ept02HptwCtx pool s.rootPa)
      (ept02Pmeo leaf12 leaf01 (leaf01.vaToPa (leaf12.vaToPa va))) va s.pageAlloc s.mem =
      (ok, pageAlloc, mem)) :
    Ept02Inv pool src ⟨pageAlloc, mem, s.rootPa⟩ := by
  obtain ⟨type12, low12, high12⟩ := ept_leaf rfl found12
  obtain ⟨type01, low01, high01⟩ := ept_leaf rfl found01
  have low : 1 ≤ min leaf12.lvl leaf01.lvl := by omega
  have high : min leaf12.lvl leaf01.lvl ≤ 3 := by omega
  have level : (ept02Pmeo leaf12 leaf01 (leaf01.vaToPa (leaf12.vaToPa va))).lvl =
      min leaf12.lvl leaf01.lvl := ept02Pmeo_lvl _
  obtain ⟨own, table, root⟩ := inv.table
  have ends := ept_slot_of_page (ept02HptwCtx pool s.rootPa).toHptwCtx rfl rfl
    (ept02Pmeo_isPage (leaf01.vaToPa (leaf12.vaToPa va)) type12 type01 low high)
  obtain ⟨own', table', extends'⟩ := hptwInsertPmeoAlloc_covers (ept02_allocSound pool s.rootPa)
    table (ept02_getRoot pool inv.rooted) root (Set.mem_univ va) (level ▸ low)
    (level ▸ Nat.le_succ_of_le high)
    (ends.imp_right fun leaf => ⟨leaf, fun w same =>
      fit.faithful found12 found01 fun l above upto => same l (level ▸ above) upto⟩) insert
  exact ⟨inv.rooted, own', table', extends' _ _ root⟩

theorem Ept02Inv.insertEpt02 (inv : Ept02Inv pool src s)
    (insert : insertEpt02 pool s
      (ept02Pmeo leaf12 leaf01 (leaf01.vaToPa (leaf12.vaToPa va))) va = some s') :
    Ept02Inv pool src s' := by
  unfold Xmhf.insertEpt02 at insert
  split at insert
  · next pageAlloc mem first =>
    cases insert
    exact inv.insert found12 found01 fit first
  · next pageAlloc mem first =>
    dsimp only at insert
    split at insert
    · next pageAlloc' mem' second =>
      cases insert
      exact (ept02CtxReset_inv pool src _).insert found12 found01 fit second
    · cases insert

end

/-- The walk for `va` with `access` finds leaves that fit, if it finds leaves. -/
def WalkExact (src : Ept12Ctx) (va : Va) (access : Prot) : Prop :=
  ∀ leaf12 leaf01, hptwCheckedGetPmeo src.ctx src.mem access 0 va = some leaf12 →
    hptwCheckedGetPmeo src.ctx01 src.mem access 0 (leaf12.vaToPa va) = some leaf01 →
    LeavesFit src va leaf12 leaf01

theorem Ept02Inv.walkEpt02 {exit : Ept02Exit} (inv : Ept02Inv pool src s)
    (fits : WalkExact src va access)
    (walk : walkEpt02 pool src s va access = some (exit, s')) : Ept02Inv pool src s' := by
  unfold Xmhf.walkEpt02 at walk
  split at walk
  · cases walk
    exact inv
  · next leaf12 found12 =>
    dsimp only at walk
    split at walk
    · split at walk
      · cases walk
        exact inv
      · cases walk
    · split at walk
      · cases walk
        exact inv
      · next leaf01 found01 =>
        split at walk
        · next inserted insert =>
          cases walk
          exact inv.insertEpt02 found12 found01 (fits leaf12 leaf01 found12 found01) insert
        · cases walk

theorem Ept02Inv.faithful {leaf : Pmeo} (inv : Ept02Inv pool src s)
    (found : hptwCheckedGetPmeo (ept02HptwCtx pool s.rootPa).toHptwCtx s.mem 0#64 0 va =
      some leaf) : FaithfulAt src leaf va := by
  obtain ⟨own, table, root⟩ := inv.table
  obtain ⟨pm, isRoot, walk⟩ := hptwCheckedGetPmeo_some found
  rw [ept02_getRoot pool inv.rooted] at isRoot
  cases isRoot
  rw [checkedWalk_none_eq_walk] at walk
  obtain ⟨⟨lvl, pme⟩, lookup, rfl⟩ := Option.map_eq_some_iff.mp walk
  exact table.covers.walk_good root (Set.mem_univ va) lookup

end Walk

/-! ## Sequences of walks -/

/-- The machine that fills one EPT02: it starts with a reset table, and each
operation is a walk for an L2 address and an access. -/
def ept02Machine (pool : Ept02Pool) (src : Ept12Ctx) : Machine Ept02Ctx (U64 × Prot) where
  init s := ∃ ctx, s = ept02CtxReset pool ctx
  step s walk := (walkEpt02 pool src s walk.1 walk.2).map Prod.snd

/-- `access` is one of the permissions `prots`. -/
def Grants (prots access : Prot) : Prop := access &&& prots = access

instance (prots access : Prot) : Decidable (Grants prots access) :=
  inferInstanceAs (Decidable (_ = _))

/-- EPT02 is within the composition of EPT12 and EPT01: each address it maps is
mapped by both, to the same host address, and a permission it grants is granted
at every level of both walks. -/
def Ept02Composes (pool : Ept02Pool) (src : Ept12Ctx) (s : Ept02Ctx) : Prop :=
  ∀ va leaf, hptwCheckedGetPmeo (ept02HptwCtx pool s.rootPa).toHptwCtx s.mem 0#64 0 va = some leaf →
    ∃ leaf12 leaf01, hptwCheckedGetPmeo src.ctx src.mem 0#64 0 va = some leaf12 ∧
      hptwCheckedGetPmeo src.ctx01 src.mem 0#64 0 (leaf12.vaToPa va) = some leaf01 ∧
      leaf.vaToPa va = leaf01.vaToPa (leaf12.vaToPa va) ∧
      ∀ access ∈ [hptProtReadMask, hptProtWriteMask, hptProtExecMask],
        Grants (hptwGetEffectiveProts (ept02HptwCtx pool s.rootPa).toHptwCtx s.mem va) access →
        Grants (hptwGetEffectiveProts src.ctx src.mem va) access ∧
        Grants (hptwGetEffectiveProts src.ctx01 src.mem (leaf12.vaToPa va)) access

theorem Grants.mono {prots prots' access : Prot} (subset : prots &&& prots' = prots)
    (granted : Grants prots access) : Grants prots' access := by
  calc access &&& prots' = access &&& prots &&& prots' := by rw [granted]
    _ = access &&& (prots &&& prots') := BitVec.and_assoc _ _ _
    _ = access := by rw [subset, granted]

/-- In every sequence of walks whose leaves fit, EPT02 stays within the
composition of EPT12 and EPT01. -/
theorem ept02_composes_of_walks_exact (pool : Ept02Pool) (src : Ept12Ctx) (s : Ept02Ctx)
    (reached : (ept02Machine pool src).ReachableUnder
      (fun _ walk => WalkExact src walk.1 walk.2) s) :
    Ept02Composes pool src s := by
  have inv : Ept02Inv pool src s := by
    refine Machine.ReachableUnder.invariant ?_ ?_ reached
    · rintro s ⟨ctx, rfl⟩
      exact ept02CtxReset_inv pool src ctx
    · intro s walk s' inv fits step
      obtain ⟨⟨exit, next⟩, walked, rfl⟩ := Option.map_eq_some_iff.mp step
      exact inv.walkEpt02 fits walked
  intro va leaf found
  obtain ⟨leaf12, leaf01, found12, found01, frame, prots12, prots01⟩ := inv.faithful found
  refine ⟨leaf12, leaf01, found12, found01, frame, fun access _ granted => ?_⟩
  have leafGrants := granted.mono (hptwGetEffectiveProts_subset_leaf found)
  exact ⟨leafGrants.mono prots12, leafGrants.mono prots01⟩

def samplePool : Ept02Pool :=
  ⟨0x100000#64, 8, by decide, by decide, by decide, by decide⟩

def sampleTables (prot : Prot) : Ept12Ctx where
  mem p i :=
    if p = 0x1000#64 then 0x2007#64
    else if p = 0x2000#64 then 0x3007#64
    else if p = 0x3000#64 then 0x4007#64
    else if p = 0x4000#64 then BitVec.ofNat 64 (4096 * i) ||| 7#64
    else if p = 0x5000#64 then 0x6000#64 ||| prot
    else if p = 0x6000#64 then 0x7007#64
    else if p = 0x7000#64 then 0x8007#64
    else if p = 0x8000#64 then 0x9007#64
    else 0#64
  ept01 := 0x1000#64
  ept12 := 0x5000#64

def sampleStart : Ept02Ctx := ⟨fun _ => false, fun _ _ => 0#64, nullPtr⟩

theorem ept02_composes_sample : ∃ s, ((ept02Machine samplePool (sampleTables 7#64)).step
        (ept02CtxReset samplePool sampleStart) (0#64, hptProtReadMask)) = some s ∧
      (hptwCheckedGetPmeo (ept02HptwCtx samplePool s.rootPa).toHptwCtx s.mem 0#64 0 0#64).isSome ∧
      Ept02Composes samplePool (sampleTables 7#64) s := by
  have leaf : hptwCheckedGetPmeo (sampleTables 7#64).ctx (sampleTables 7#64).mem
      hptProtReadMask 0 0#64 = some ⟨0x9007#64, .ept, 1⟩ := by decide +kernel
  have host : hptwCheckedGetPmeo (sampleTables 7#64).ctx01 (sampleTables 7#64).mem
      hptProtReadMask 0 0x9000#64 = some ⟨0x9007#64, .ept, 1⟩ := by decide +kernel
  have frame : Pmeo.vaToPa ⟨0x9007#64, .ept, 1⟩ 0#64 = 0x9000#64 := by decide +kernel
  have fits : WalkExact (sampleTables 7#64) 0#64 hptProtReadMask := by
    intro leaf12 leaf01 found12 found01
    rw [leaf] at found12
    cases found12
    rw [frame, host] at found01
    cases found01
    exact ⟨by decide +kernel, by decide +kernel, by decide +kernel, by decide +kernel,
      by decide +kernel, by decide +kernel⟩
  have mapped : ((ept02Machine samplePool (sampleTables 7#64)).step
      (ept02CtxReset samplePool sampleStart) (0#64, hptProtReadMask)).map (fun s => (hptwCheckedGetPmeo
        (ept02HptwCtx samplePool s.rootPa).toHptwCtx s.mem 0#64 0 0#64).isSome) = some true := by
    decide +kernel
  obtain ⟨s, step, found⟩ := Option.map_eq_some_iff.mp mapped
  refine ⟨s, step, found, ?_⟩
  apply ept02_composes_of_walks_exact samplePool (sampleTables 7#64) s
  exact .step (o := (0#64, hptProtReadMask)) (.init ⟨sampleStart, rfl⟩) fits step

/-- EPT12's root entry grants only reads. After L2 has read page 0, EPT02 also grants
writes there, which EPT12 denies. -/
theorem ept02_grants_write_denied_by_ept12 :
    ∃ s, (ept02Machine samplePool (sampleTables 1#64)).Reachable s ∧
      ¬ Ept02Composes samplePool (sampleTables 1#64) s := by
  have walked : ((ept02Machine samplePool (sampleTables 1#64)).step
      (ept02CtxReset samplePool sampleStart) (0#64, hptProtReadMask)).map (fun s =>
        ((hptwCheckedGetPmeo (ept02HptwCtx samplePool s.rootPa).toHptwCtx s.mem 0#64 0 0#64).isSome,
          hptwGetEffectiveProts (ept02HptwCtx samplePool s.rootPa).toHptwCtx s.mem 0#64)) =
      some (true, hptProtsRwx) := by
    decide +kernel
  have denied : ¬ Grants (hptwGetEffectiveProts (sampleTables 1#64).ctx (sampleTables 1#64).mem
      0#64) hptProtWriteMask := by
    decide +kernel
  obtain ⟨s, step, outcome⟩ := Option.map_eq_some_iff.mp walked
  obtain ⟨mapped, prots⟩ := Prod.mk.inj outcome
  obtain ⟨leaf, found⟩ := Option.isSome_iff_exists.mp mapped
  refine ⟨s, .step (o := (0#64, hptProtReadMask)) (.init ⟨sampleStart, rfl⟩) trivial step,
    fun composes => denied ?_⟩
  obtain ⟨leaf12, leaf01, -, -, -, granted⟩ := composes 0#64 leaf found
  refine (granted hptProtWriteMask (by simp) ?_).1
  rw [prots]
  decide

end Xmhf
