import Xmhf.Hpt.Accessors
import Xmhf.Hpt.Page

/-!
# Translations across an insertion

`hptw_get_pmeo` looks an address up in a table. It is proved here, for every
paging type, that a successful `hptw_insert_pmeo_alloc` makes the lookup of each
address of the entry's region return the entry and leaves every other
translation as it was, and that a failed one leaves all of them, although it may
have added empty page maps.

What the insertion asks of its allocator is derived from what an allocator
does: its pages are fresh, zeroed and within reach of the entries
(`AllocFresh.sound`).
-/

namespace Xmhf

variable {t : HptType} {lvl i : Nat} {pme : Pme} {page : Ptr}

variable {α : Type}

/-! ## Lookups -/

/-- The loop of `hptw_get_pmo`; `none` when a page map cannot be accessed. -/
def getPmoFrom (ctx : HptwCtx) (mem : Mem) (endLvl : Nat) (va : Va) : Nat → Ptr → Option Pmo
  | 0, pm => some ⟨pm, ctx.t, 0⟩
  | lvl + 1, pm =>
    if endLvl < lvl + 1 then
      match hptwNextLvl ctx mem (lvl + 1) pm va with
      | .next next => getPmoFrom ctx mem endLvl va lvl next
      | .invalid => none
      | .stop => some ⟨pm, ctx.t, lvl + 1⟩
    else some ⟨pm, ctx.t, lvl + 1⟩

def hptwGetPmo (ctx : HptwCtx) (mem : Mem) (endLvl : Nat) (va : Va) : Option Pmo :=
  match hptwGetRoot ctx with
  | some pm => getPmoFrom ctx mem endLvl va (hptTypeMaxLvl ctx.t) pm
  | none => none

def hptwGetPmeo (ctx : HptwCtx) (mem : Mem) (endLvl : Nat) (va : Va) : Option Pmeo :=
  (hptwGetPmo ctx mem endLvl va).map fun pmo => hptPmGetPmeoByVa mem pmo va

def hptwTranslation (ctx : HptwCtx) (mem : Mem) (va : Va) : Option Pmeo :=
  (hptwGetPmeo ctx mem 1 va).filter Pmeo.isPresent

theorem isPage_one (t : HptType) (pme : Pme) : hptPmeIsPage t 1 pme = true := by
  cases t <;> rfl

theorem getPmoFrom_eq_walk (ctx : HptwCtx) (mem : Mem) (va : Va) :
    ∀ (lvl : Nat) (pm : Ptr), 1 ≤ lvl →
      ((getPmoFrom ctx mem 1 va lvl pm).map fun pmo => hptPmGetPmeoByVa mem pmo va).filter
          Pmeo.isPresent =
        ((walkShape ctx).walk (walkStore ctx mem) va lvl pm).map
          fun found => ⟨found.2, ctx.t, found.1⟩ := by
  intro lvl
  induction lvl with
  | zero =>
    intro pm positive
    omega
  | succ lvl ih =>
    intro pm _
    rw [getPmoFrom, Radix.Shape.walk]
    have read : (if 1 < lvl + 1 then some (⟨pm, ctx.t, lvl + 1⟩ : Pmo)
        else some ⟨pm, ctx.t, lvl + 1⟩) = some ⟨pm, ctx.t, lvl + 1⟩ := ite_self _
    have above (page : (walkPmeo ctx mem va (lvl + 1) pm).isPage = false) : 1 < lvl + 1 := by
      by_contra one
      obtain rfl : lvl = 0 := by omega
      exact absurd (isPage_one _ _) (Bool.eq_false_iff.mp page)
    cases entryCase ctx mem va (lvl + 1) pm with
    | absent present step slot =>
      unfold walkSlot at slot
      rw [step, slot]
      rw [read, Option.map_some, Option.filter_some_neg present]
      rfl
    | page present page step slot =>
      unfold walkSlot at slot
      rw [step, slot]
      rw [read, Option.map_some, Option.filter_some_pos present]
      rfl
    | invalid present page step slot =>
      unfold walkSlot at slot
      rw [if_pos (above page), step, slot]
      rfl
    | next present page next step slot =>
      unfold walkSlot at slot
      rw [if_pos (above page), step, slot]
      exact ih next (Nat.le_of_lt_succ (above page))

theorem hptwTranslation_eq_walk {ctx : HptwCtx} {mem : Mem} {va : Va} {root : Ptr}
    (isRoot : hptwGetRoot ctx = some root) :
    hptwTranslation ctx mem va =
      ((walkShape ctx).walk (walkStore ctx mem) va (hptTypeMaxLvl ctx.t) root).map
        fun found => ⟨found.2, ctx.t, found.1⟩ := by
  have positive : 1 ≤ hptTypeMaxLvl ctx.t := by cases ctx.t <;> decide
  unfold hptwTranslation hptwGetPmeo hptwGetPmo
  rw [isRoot]
  exact getPmoFrom_eq_walk ctx mem va _ root positive

theorem getPmoFrom_path {ctx : HptwCtx} {mem : Mem} {va : Va} {endLvl l k : Nat} {n p : Ptr}
    (path : (walkShape ctx).Path (walkStore ctx mem) va l n k p) (upto : endLvl ≤ k) :
    getPmoFrom ctx mem endLvl va l n = getPmoFrom ctx mem endLvl va k p := by
  induction path with
  | refl => rfl
  | @step l k n m p table rest ih =>
    have above : endLvl < l + 1 := by
      have := rest.le
      omega
    rw [getPmoFrom, if_pos above, ← ih upto]
    cases entryCase ctx mem va (l + 1) n with
    | absent present step slot | page present page step slot | invalid present page step slot =>
      cases slot.symm.trans table
    | next present page next step slot =>
      cases slot.symm.trans table
      rw [step]

/-! ## Linking a new page map -/

/-- What an allocator of page maps does: a page it hands out was not in use and is zeroed, and
the entries of the table can hold its address and lead back to it. -/
structure AllocFresh (ctx : HptwAllocCtx α) (live : α → Ptr → Prop) : Prop where
  fresh {a : α} {mem : Mem} {page : Ptr} {a' : α} {mem' : Mem} :
    ctx.gzp a mem = some (page, a', mem') → ¬ live a page
  zeroed {a : α} {mem : Mem} {page : Ptr} {a' : α} {mem' : Mem} :
    ctx.gzp a mem = some (page, a', mem') → mem' = Function.update mem page fun _ => 0#64
  taken {a : α} {mem : Mem} {page : Ptr} {a' : α} {mem' : Mem} :
    ctx.gzp a mem = some (page, a', mem') → live a' page
  kept {a : α} {mem : Mem} {page : Ptr} {a' : α} {mem' : Mem} :
    ctx.gzp a mem = some (page, a', mem') → ∀ p, live a p → live a' p
  aligned {a : α} {mem : Mem} {page : Ptr} {a' : α} {mem' : Mem} :
    ctx.gzp a mem = some (page, a', mem') → ∀ i < 12, (ctx.ptr2pa page).getLsbD i = false
  within {a : α} {mem : Mem} {page : Ptr} {a' : α} {mem' : Mem} :
    ctx.gzp a mem = some (page, a', mem') →
      (ctx.ptr2pa page).toNat < if ctx.t = .norm then 2 ^ 32 else 2 ^ 52
  mapped {a : α} {mem : Mem} {page : Ptr} {a' : α} {mem' : Mem} :
    ctx.gzp a mem = some (page, a', mem') → page ≠ nullPtr ∧
      ∀ sz, (ctx.pa2ptr (ctx.ptr2pa page) sz hptProtsR 0).1 = page

theorem hptProtOf_read (r w x : Bool) : (hptProtOf r w x &&& hptProtReadMask != 0#64) = r := by
  cases r <;> cases w <;> cases x <;> decide

theorem isPresent_of_bit_zero (set : pme.getLsbD 0 = true) : hptPmeIsPresent t lvl pme = true := by
  have test : testMaskBit64 pme 0 = true := (testMaskBit64_eq pme (by decide)).trans set
  cases t with
  | norm | long => exact (hptProtOf_read _ _ _).trans test
  | pae =>
    unfold hptPmeIsPresent hptPmeGetprot
    dsimp only
    split
    · exact (hptProtOf_read _ _ _).trans test
    · exact (hptProtOf_read _ _ _).trans test
  | ept => rw [ept_isPresent, set, Bool.true_or, Bool.true_or]

theorem getLsbD_storedPme (low : t = .norm → i < 32) :
    (storedPme t pme).getLsbD i = pme.getLsbD i := by
  cases t with
  | norm =>
    have small := low rfl
    simp only [storedPme, BitVec.getLsbD_setWidth, small, decide_true, Bool.true_and]
    rw [decide_eq_true (by omega), Bool.true_and]
  | pae | long | ept => rfl

theorem getLsbD_setuser {entry : Pme} {user : Bool} (other : i ≠ 2) :
    (hptPmeSetuser t lvl entry user).getLsbD i = entry.getLsbD i := by
  have bit : (br64SetBit entry 2 user).getLsbD i = entry.getLsbD i :=
    (@getLsbD_br64SetBit entry 2 (by decide) user i).trans (if_neg other)
  cases t with
  | norm | long => exact bit
  | pae =>
    unfold hptPmeSetuser
    dsimp only
    split
    · rfl
    · exact bit
  | ept => rfl

theorem getLsbD_setprot_rwx (t : HptType) (lvl : Nat) (entry : Pme) :
    (hptPmeSetprot t lvl entry hptProtsRwx).getLsbD 0 = true := by
  have zero : ∀ x : U64, (br64SetBit x 0 true).getLsbD 0 = true := fun x =>
    @getLsbD_br64SetBit x 0 (by decide) true 0
  have one : ∀ x : U64, (br64SetBit x 1 true).getLsbD 0 = x.getLsbD 0 := fun x =>
    @getLsbD_br64SetBit x 1 (by decide) true 0
  have top : ∀ x : U64, (br64SetBit x 63 false).getLsbD 0 = x.getLsbD 0 := fun x =>
    @getLsbD_br64SetBit x 63 (by decide) false 0
  cases t with
  | norm => exact (one _).trans (zero entry)
  | pae =>
    unfold hptPmeSetprot
    dsimp only
    split
    · exact (top _).trans ((one _).trans (zero entry))
    · exact zero entry
  | long => exact (top _).trans ((one _).trans (zero entry))
  | ept =>
    rw [getLsbD_ept_setprot lvl entry fun i above => getLsbD_high (by decide) above]
    rfl

section

variable {ctx : HptwAllocCtx α} {live : α → Ptr → Prop}

theorem getLsbD_linkPmeo (low : 2 < i) (high : i < 63) (width : ctx.t = .norm → i < 32) :
    (storedPme ctx.t (linkPmeo ctx ⟨pme, ctx.t, lvl⟩ page).pme).getLsbD i =
      (hptPmeSetAddress ctx.t lvl pme (ctx.ptr2pa page)).getLsbD i := by
  rw [getLsbD_storedPme width]
  refine (getLsbD_setuser (by omega)).trans ?_
  exact getLsbD_setprot (fun _ => by decide) low high

theorem AllocFresh.linked (alloc : AllocFresh ctx live) {a a' : α} {mem mem' : Mem}
    (got : ctx.gzp a mem = some (page, a', mem')) (table : Pmeo.isPage ⟨pme, ctx.t, lvl⟩ = false) :
    (walkShape ctx.toHptwCtx).slot lvl
      (storedPme ctx.t (linkPmeo ctx ⟨pme, ctx.t, lvl⟩ page).pme) = .table page := by
  generalize entry : storedPme ctx.t (linkPmeo ctx ⟨pme, ctx.t, lvl⟩ page).pme = linked
  have isTable : hptPmeIsPage ctx.t lvl pme = false := table
  have plain : isPse36 ctx.t lvl pme = false := by
    unfold isPse36
    rw [isTable, Bool.and_false]
  have bits : ∀ {i}, 2 < i → i < 63 → (ctx.t = .norm → i < 32) →
      linked.getLsbD i = (hptPmeSetAddress ctx.t lvl pme (ctx.ptr2pa page)).getLsbD i := by
    intro i low high width
    rw [← entry]
    exact getLsbD_linkPmeo low high width
  have stays : hptPmeIsPage ctx.t lvl linked = false := by
    rw [isPage_congr (bits (by decide) (by decide) fun _ => by decide), isPage_setAddress plain]
    exact isTable
  have linkedPlain : isPse36 ctx.t lvl linked = false := by
    unfold isPse36
    rw [stays, Bool.and_false]
  have present : hptPmeIsPresent ctx.t lvl linked = true := by
    apply isPresent_of_bit_zero
    rw [← entry, getLsbD_storedPme fun _ => by decide]
    exact (getLsbD_setuser (by decide)).trans (getLsbD_setprot_rwx _ _ _)
  have lo : ∀ x, hptPmeIsPage ctx.t lvl x = false → addressLo ctx.t lvl x = 12 := by
    intro x notPage
    unfold addressLo
    rw [notPage]
    cases ctx.t <;> rfl
  have width : ∀ x, isPse36 ctx.t lvl x = false →
      addressBits ctx.t lvl x = if ctx.t = .norm then 32 else 52 := by
    intro x notPse
    unfold addressBits
    rw [notPse]
    cases ctx.t <;> rfl
  have address : hptPmeGetAddress ctx.t lvl linked = ctx.ptr2pa page := by
    apply BitVec.eq_of_getLsbD_eq
    intro i small
    rw [getLsbD_getAddress linkedPlain, lo linked stays, width linked linkedPlain]
    by_cases inside : 12 ≤ i ∧ i < if ctx.t = .norm then 32 else 52
    · have norm : ctx.t = .norm → i < 32 := fun type => by rw [if_pos type] at inside; omega
      have wide : i < 52 := by
        have := inside.2
        split at this <;> omega
      rw [if_pos inside, bits (by omega) (by omega) norm, getLsbD_setAddress plain, lo pme isTable,
        width pme plain, if_pos inside]
    · rw [if_neg inside]
      -- the address of a page map has no bits outside those the entry holds
      by_cases low : i < 12
      · exact (alloc.aligned got i low).symm
      · have bound := alloc.within got
        have power : (if ctx.t = .norm then 2 ^ 32 else 2 ^ 52) ≤ 2 ^ i := by
          split
          · next norm =>
            rw [if_pos norm] at inside
            exact Nat.pow_le_pow_right (by decide) (by omega)
          · next other =>
            rw [if_neg other] at inside
            exact Nat.pow_le_pow_right (by decide) (by omega)
        exact (Nat.testBit_lt_two_pow (Nat.lt_of_lt_of_le bound power)).symm
  obtain ⟨notNull, maps⟩ := alloc.mapped got
  simp only [walkShape, Pmeo.isPresent, Pmeo.isPage, Pmeo.getAddress, present, stays, address,
    maps, notNull, Bool.not_true, Bool.false_eq_true, if_false]

theorem AllocFresh.sound (alloc : AllocFresh ctx live) : AllocSound ctx live where
  fresh := alloc.fresh
  zeroed := alloc.zeroed
  taken := alloc.taken
  kept := alloc.kept
  linked got _ _ _ _ table := alloc.linked got table

end

/-! ## Regions -/

/-- Two addresses lie in the same region of an entry of level `lvl`: they differ only below the
bits that select the entry. -/
def SameRegion (t : HptType) (lvl : Nat) (va w : Va) : Prop :=
  w.toNat % 2 ^ (hptVaIdxHi t (hptTypeMaxLvl t) + 1) / 2 ^ (hptVaIdxHi t (lvl - 1) + 1) =
    va.toNat % 2 ^ (hptVaIdxHi t (hptTypeMaxLvl t) + 1) / 2 ^ (hptVaIdxHi t (lvl - 1) + 1)

theorem sameRegion_top (t : HptType) (va w : Va) : SameRegion t (hptTypeMaxLvl t) va w ↔
    hptGetPmIdx t (hptTypeMaxLvl t) w = hptGetPmIdx t (hptTypeMaxLvl t) va := by
  have positive : 1 ≤ hptTypeMaxLvl t := by cases t <;> decide
  rw [hptGetPmIdx_eq positive (Nat.le_refl _), hptGetPmIdx_eq positive (Nat.le_refl _)]
  exact Iff.rfl

theorem sameRegion_step (low : 1 ≤ lvl) (high : lvl < hptTypeMaxLvl t) (va w : Va) :
    SameRegion t lvl va w ↔
      SameRegion t (lvl + 1) va w ∧ hptGetPmIdx t lvl w = hptGetPmIdx t lvl va := by
  rw [hptGetPmIdx_eq low (Nat.le_of_lt high), hptGetPmIdx_eq low (Nat.le_of_lt high)]
  unfold SameRegion
  cases t <;> simp only [hptTypeMaxLvl] at high <;> interval_cases lvl <;>
    simp only [hptTypeMaxLvl, hptVaIdxHi, Nat.reduceSub, Nat.reduceAdd] <;> omega

theorem sameRegion_iff (low : 1 ≤ lvl) (high : lvl ≤ hptTypeMaxLvl t) (va w : Va) :
    SameRegion t lvl va w ↔ ∀ l, lvl ≤ l → l ≤ hptTypeMaxLvl t →
      hptGetPmIdx t l w = hptGetPmIdx t l va := by
  induction high using Nat.decreasingInduction with
  | self =>
    rw [sameRegion_top]
    constructor
    · intro same l above upto
      obtain rfl : l = hptTypeMaxLvl t := by omega
      exact same
    · intro same
      exact same _ (Nat.le_refl _) (Nat.le_refl _)
  | of_succ lvl below ih =>
    rw [sameRegion_step low below, ih (by omega)]
    constructor
    · rintro ⟨higher, here⟩ l above upto
      by_cases level : l = lvl
      · rw [level]
        exact here
      · exact higher l (by omega) upto
    · intro same
      exact ⟨fun l above upto => same l (by omega) upto,
        same lvl (Nat.le_refl _) (Nat.le_of_lt below)⟩

/-! ## The insertion -/

/-- A page table tree: its root can be accessed, and its page maps are in use and reached by one
way each. -/
def WellFormed (ctx : HptwAllocCtx α) (live : α → Ptr → Prop) (a : α) (mem : Mem) : Prop :=
  ∃ own root, hptwGetRoot ctx.toHptwCtx = some root ∧
    own root = some (hptTypeMaxLvl ctx.t, Set.univ) ∧
    TableInv ctx live (fun _ _ _ => True) own a mem

def Pmeo.IsLeaf (pmeo : Pmeo) : Prop := pmeo.isPresent = false ∨ pmeo.isPage = true

section

variable {ctx : HptwAllocCtx α} {live : α → Ptr → Prop} {a a' : α} {mem mem' : Mem} {va w : Va}
  {pmeo : Pmeo} {ok : Bool}

theorem getPmoFrom_leaf {ctx : HptwCtx} {pm : Ptr} (positive : 1 ≤ lvl)
    (leaf : (walkPmeo ctx mem w lvl pm).IsLeaf) :
    getPmoFrom ctx mem 1 w lvl pm = some ⟨pm, ctx.t, lvl⟩ := by
  obtain ⟨l, rfl⟩ : ∃ l, lvl = l + 1 := ⟨lvl - 1, by omega⟩
  rw [getPmoFrom]
  have stop : hptwNextLvl ctx mem (l + 1) pm w = .stop := by
    rcases leaf with absent | page
    · exact if_pos (by rw [absent]; rfl)
    · exact if_pos (by rw [page, Bool.or_true])
  rw [stop]
  exact ite_self _

theorem walkPmeo_set {ctx : HptwCtx} {pm : Ptr} (type : pmeo.t = ctx.t)
    (fits : storedPme ctx.t pmeo.pme = pmeo.pme)
    (same : hptGetPmIdx ctx.t pmeo.lvl w = hptGetPmIdx ctx.t pmeo.lvl va) :
    walkPmeo ctx (hptPmoSetPmeByVa mem ⟨pm, ctx.t, pmeo.lvl⟩ pmeo va) w pmeo.lvl pm = pmeo := by
  have entry := congrFun (congrFun (walkStore_setPme ctx mem pm pmeo.lvl pmeo va) pm)
    (hptGetPmIdx ctx.t pmeo.lvl w)
  rw [Function.update_self, show (walkShape ctx).idx pmeo.lvl va = hptGetPmIdx ctx.t pmeo.lvl w
    from same.symm, Function.update_self, fits] at entry
  obtain ⟨pme, t, lvl⟩ := pmeo
  subst type
  exact congrArg (fun x => (⟨x, ctx.t, lvl⟩ : Pmeo)) entry

/-- An entry that was inserted is found for its whole region, and every other address is translated
as before, also when the insertion fails. -/
theorem hptwInsertPmeoAlloc_translates (alloc : AllocFresh ctx live)
    (tree : WellFormed ctx live a mem) (type : pmeo.t = ctx.t) (low : 1 ≤ pmeo.lvl)
    (high : pmeo.lvl ≤ hptTypeMaxLvl ctx.t) (leaf : pmeo.IsLeaf)
    (fits : ctx.t = .norm → pmeo.pme.toNat < 2 ^ 32)
    (insert : hptwInsertPmeoAlloc ctx pmeo va a mem = (ok, a', mem')) :
    (ok = true → ∀ w, SameRegion ctx.t pmeo.lvl va w →
      hptwGetPmeo ctx.toHptwCtx mem' 1 w = some pmeo) ∧
    ∀ w, (ok = true → ¬ SameRegion ctx.t pmeo.lvl va w) →
      hptwTranslation ctx.toHptwCtx mem' w = hptwTranslation ctx.toHptwCtx mem w := by
  obtain ⟨own, root, isRoot, owned, inv⟩ := tree
  have stored : storedPme ctx.t pmeo.pme = pmeo.pme := by
    unfold storedPme
    split
    · next norm =>
      rw [← BitVec.toNat_inj, BitVec.toNat_setWidth, BitVec.toNat_setWidth]
      have := fits norm
      omega
    · rfl
  have region := fun w => sameRegion_iff low high va w
  obtain ⟨own₁, mem₁, grown, outcome⟩ :=
    hptwInsertPmeoAlloc_cases alloc.sound inv isRoot owned (Set.mem_univ va) low high insert
  have ownedRoot := grown.owners _ _ owned
  have unchanged : ∀ w, hptwTranslation ctx.toHptwCtx mem₁ w =
      hptwTranslation ctx.toHptwCtx mem w := by
    intro w
    rw [hptwTranslation_eq_walk isRoot, hptwTranslation_eq_walk isRoot,
      grown.walks owned (Set.mem_univ w)]
  rcases outcome with ⟨rfl, rfl⟩ | ⟨rfl, pm, R, rfl, ownedPm, agree, path⟩
  · exact ⟨nofun, fun w _ => unchanged w⟩
  · refine ⟨fun _ w inside => ?_, fun w outside => ?_⟩
    · -- the walk of `w` takes the way of `va` to the entry written
      have same := (region w).mp inside
      have walked := @walkPmeo_set mem₁ va w pmeo ctx.toHptwCtx pm type stored
        (same pmeo.lvl (Nat.le_refl _) high)
      have way : (walkShape ctx.toHptwCtx).Path (walkStore ctx.toHptwCtx
          (hptPmoSetPmeByVa mem₁ ⟨pm, ctx.t, pmeo.lvl⟩ pmeo va)) w (hptTypeMaxLvl ctx.t) root
          pmeo.lvl pm := by
        refine (path.idx fun j above upto => same j (Nat.le_of_lt above) upto).congr
          grown.inv.covers (fun n l T ownedNode above => ?_) ownedRoot (Set.mem_univ w)
        have other : n ≠ pm := by
          rintro rfl
          cases ownedNode.symm.trans ownedPm
          omega
        rw [walkStore_setPme, Function.update_of_ne other]
      unfold hptwGetPmeo hptwGetPmo
      rw [isRoot]
      dsimp only
      rw [getPmoFrom_path way low, getPmoFrom_leaf low (by rw [walked]; exact leaf),
        Option.map_some]
      exact congrArg some walked
    · rw [← unchanged w, hptwTranslation_eq_walk isRoot, hptwTranslation_eq_walk isRoot]
      obtain ⟨l, level⟩ : ∃ l, pmeo.lvl = l + 1 := ⟨pmeo.lvl - 1, by omega⟩
      rw [level] at ownedPm
      have elsewhere : w ∉ (walkShape ctx.toHptwCtx).route R (l + 1) va := by
        rintro ⟨member, index⟩
        refine outside rfl ((region w).mpr fun k above upto => ?_)
        by_cases here : k = pmeo.lvl
        · rw [here, level]
          exact index
        · exact agree w member k (by omega) upto
      rw [level, walkStore_setPme,
        grown.inv.covers.walk_write_entry ownedPm elsewhere ownedRoot (Set.mem_univ w)]

def onePageCtx : HptwAllocCtx Bool where
  t := .norm
  rootPa := 0x1000#64
  pa2ptr := hostPa2ptr
  ptr2pa := id
  gzp given mem :=
    if given then none else some (0x2000#64, true, Function.update mem 0x2000#64 fun _ => 0#64)

def onePageLive (given : Bool) (p : Ptr) : Prop :=
  p = 0x1000#64 ∨ given = true ∧ p = 0x2000#64

theorem onePage_gzp {a a' : Bool} {mem mem' : Mem}
    (got : onePageCtx.gzp a mem = some (page, a', mem')) :
    a = false ∧ page = 0x2000#64 ∧ a' = true ∧
      mem' = Function.update mem 0x2000#64 fun _ => 0#64 := by
  cases a with
  | true => cases got
  | false =>
    cases got
    exact ⟨rfl, rfl, rfl, rfl⟩

theorem onePage_fresh : AllocFresh onePageCtx onePageLive where
  fresh got := by
    obtain ⟨rfl, rfl, _, _⟩ := onePage_gzp got
    unfold onePageLive
    decide
  zeroed got := by
    obtain ⟨_, rfl, _, same⟩ := onePage_gzp got
    exact same
  taken got := by
    obtain ⟨_, rfl, rfl, _⟩ := onePage_gzp got
    exact .inr ⟨rfl, rfl⟩
  kept got p inUse := by
    obtain ⟨rfl, _, rfl, _⟩ := onePage_gzp got
    exact inUse.imp_right fun taken => ⟨rfl, taken.2⟩
  aligned got := by
    obtain ⟨_, rfl, _, _⟩ := onePage_gzp got
    decide
  within got := by
    obtain ⟨_, rfl, _, _⟩ := onePage_gzp got
    decide
  mapped got := by
    obtain ⟨_, rfl, _, _⟩ := onePage_gzp got
    exact ⟨by decide, fun _ => rfl⟩

theorem onePage_wellFormed : WellFormed onePageCtx onePageLive false fun _ _ => 0#64 := by
  refine ⟨fun p => if p = 0x1000#64 then some (2, Set.univ) else none, 0x1000#64, rfl, rfl, ?_, ?_⟩
  · intro n l R _ v _
    have absent := slot_zero onePageCtx.toHptwCtx (l + 1) 0
    unfold Radix.Shape.EntryOk
    exact (show (walkShape onePageCtx.toHptwCtx).slot (l + 1) (walkStore onePageCtx.toHptwCtx
      (fun _ _ => 0#64) n _) = .absent from absent) ▸ trivial
  · intro p x owned
    split at owned
    · next root => exact .inl root
    · cases owned

def onePageLeaf : Pmeo := ⟨0x7007#64, .norm, 1⟩

theorem hptwInsertPmeoAlloc_translates_sample :
    (hptwInsertPmeoAlloc onePageCtx onePageLeaf 0x403000#64 false fun _ _ => 0#64).1 = true ∧
      hptwGetPmeo onePageCtx.toHptwCtx
        (hptwInsertPmeoAlloc onePageCtx onePageLeaf 0x403000#64 false fun _ _ => 0#64).2.2 1
        0x403abc#64 = some onePageLeaf := by
  have success : (hptwInsertPmeoAlloc onePageCtx onePageLeaf 0x403000#64 false
    fun _ _ => 0#64).1 = true := by decide +kernel
  have region : SameRegion .norm 1 0x403000#64 0x403abc#64 := by
    unfold SameRegion
    decide
  obtain ⟨⟨ok, a', mem'⟩, run⟩ : ∃ out, hptwInsertPmeoAlloc onePageCtx onePageLeaf 0x403000#64 false
    (fun _ _ => 0#64) = out := ⟨_, rfl⟩
  rw [run] at success ⊢
  exact ⟨success, (hptwInsertPmeoAlloc_translates onePage_fresh onePage_wellFormed rfl (by decide)
    (by decide) (.inr rfl) (fun _ => by decide) run).1 success _ region⟩

end

end Xmhf
