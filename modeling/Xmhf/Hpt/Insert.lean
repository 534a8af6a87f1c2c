import Xmhf.Hpt.Walk

/-!
# Allocating insertion

`hptw_insert_pmeo_alloc` walks down to the level of the entry it inserts,
allocates the page maps that are missing on the way, and writes the entry. It
is proved here, for any paging type and any allocator that hands out zeroed
pages not in use, that the insertion keeps the radix table invariant
`Radix.Shape.Covers`: the loop by induction on the level it has reached
(`getPmoAllocFrom_grown`), the insertion as a whole from it
(`hptwInsertPmeoAlloc_covers`).
-/

namespace Xmhf

open Function (update update_of_ne)

variable {α : Type}

/-- The entry as the page map holds it: 32-bit entries lose their high half. -/
def storedPme (t : HptType) (pme : Pme) : Pme :=
  match t with
  | .norm => (pme.setWidth 32).setWidth 64
  | _ => pme

/-- The entry that `hptw_get_pmo_alloc` writes for a new page map. -/
def linkPmeo (ctx : HptwAllocCtx α) (pmeo : Pmeo) (page : Ptr) : Pmeo :=
  ((pmeo.setAddress (ctx.ptr2pa page)).setprot hptProtsRwx).setuser true

/-- What the insertion needs of its allocator: `live a` are the pages in use in
the allocator state `a`, a page handed out was not one of them and is zeroed,
and an entry that is neither present nor a page, once linked to the page, leads
to it. -/
structure AllocSound (ctx : HptwAllocCtx α) (live : α → Ptr → Prop) : Prop where
  fresh {a : α} {mem : Mem} {page : Ptr} {a' : α} {mem' : Mem} :
    ctx.gzp a mem = some (page, a', mem') → ¬ live a page
  zeroed {a : α} {mem : Mem} {page : Ptr} {a' : α} {mem' : Mem} :
    ctx.gzp a mem = some (page, a', mem') → mem' = Function.update mem page fun _ => 0#64
  taken {a : α} {mem : Mem} {page : Ptr} {a' : α} {mem' : Mem} :
    ctx.gzp a mem = some (page, a', mem') → live a' page
  kept {a : α} {mem : Mem} {page : Ptr} {a' : α} {mem' : Mem} :
    ctx.gzp a mem = some (page, a', mem') → ∀ p, live a p → live a' p
  linked {a : α} {mem : Mem} {page : Ptr} {a' : α} {mem' : Mem} :
    ctx.gzp a mem = some (page, a', mem') → ∀ (pme : Pme) (lvl : Nat), 1 < lvl →
      lvl ≤ hptTypeMaxLvl ctx.t → Pmeo.isPage ⟨pme, ctx.t, lvl⟩ = false →
      (walkShape ctx.toHptwCtx).slot lvl
        (storedPme ctx.t (linkPmeo ctx ⟨pme, ctx.t, lvl⟩ page).pme) = .table page

/-! ## Page maps in memory -/

theorem walkStore_update (ctx : HptwCtx) (mem : Mem) (pm : Ptr) (page : Pm) :
    walkStore ctx (update mem pm page) =
      update (walkStore ctx mem) pm fun idx => hptPmGetPmeByIdx ctx.t page idx := by
  funext p idx
  by_cases same : p = pm
  · subst same
    simp [walkStore]
  · simp [walkStore, update_of_ne same]

theorem hptPmGetPmeByIdx_set (t : HptType) (page : Pm) (idx : Nat) (pme : Pme) :
    (fun i => hptPmGetPmeByIdx t (hptPmSetPmeByIdx t page idx pme) i) =
      update (fun i => hptPmGetPmeByIdx t page i) idx (storedPme t pme) := by
  funext i
  by_cases same : i = idx
  · subst same
    cases t <;> simp [hptPmGetPmeByIdx, hptPmSetPmeByIdx, storedPme]
  · cases t <;> simp [hptPmGetPmeByIdx, hptPmSetPmeByIdx, update_of_ne same]

theorem walkStore_setPme (ctx : HptwCtx) (mem : Mem) (pm : Ptr) (lvl : Nat) (pmeo : Pmeo)
    (va : Va) :
    walkStore ctx (hptPmoSetPmeByVa mem ⟨pm, ctx.t, lvl⟩ pmeo va) = update (walkStore ctx mem) pm
        (update (walkStore ctx mem pm) ((walkShape ctx).idx lvl va)
          (storedPme ctx.t pmeo.pme)) := by
  rw [hptPmoSetPmeByVa, walkStore_update]
  congr 1
  exact hptPmGetPmeByIdx_set ctx.t (mem pm) (hptGetPmIdx ctx.t lvl va) pmeo.pme

theorem testMaskBit64_zero (bit : Int) : testMaskBit64 0#64 bit = false := by
  simp [testMaskBit64]

theorem isPresent_zero (t : HptType) (lvl : Nat) : hptPmeIsPresent t lvl 0#64 = false := by
  cases t with
  | norm | ept => simp [hptPmeIsPresent, hptPmeGetprot, testMaskBit64_zero, hptProtOf]
  | pae =>
    by_cases low : lvl = 2 ∨ lvl = 1
    · simp [hptPmeIsPresent, hptPmeGetprot, testMaskBit64_zero, hptProtOf, low]
      decide
    · simp [hptPmeIsPresent, hptPmeGetprot, testMaskBit64_zero, hptProtOf, low]
  | long =>
    simp [hptPmeIsPresent, hptPmeGetprot, testMaskBit64_zero, hptProtOf]
    decide

theorem slot_zero (ctx : HptwCtx) (lvl idx : Nat) :
    (walkShape ctx).slot lvl (hptPmGetPmeByIdx ctx.t (fun _ => 0#64) idx) = .absent := by
  have zero : hptPmGetPmeByIdx ctx.t (fun _ => 0#64) idx = 0#64 := by
    cases ctx.t <;> simp [hptPmGetPmeByIdx]
  rw [zero]
  simp only [walkShape, Pmeo.isPresent, isPresent_zero, Bool.not_false, if_true]

/-! ## The insertion keeps the table invariant -/

abbrev Owners := Ptr → Option (Nat × Set Va)

/-- The table is as `own` says and owns only pages in use. -/
structure TableInv (ctx : HptwAllocCtx α) (live : α → Ptr → Prop) (good : Nat → Pme → Va → Prop)
    (own : Owners) (a : α) (mem : Mem) : Prop where
  covers : (walkShape ctx.toHptwCtx).Covers good (walkStore ctx.toHptwCtx mem) own
  live : ∀ p x, own p = some x → live a p

def Owners.Extends (own own' : Owners) : Prop := ∀ p x, own p = some x → own' p = some x

theorem Owners.Extends.trans {own own' own'' : Owners} (first : own.Extends own')
    (second : own'.Extends own'') : own.Extends own'' :=
  fun p x owned => second p x (first p x owned)

section Insert

variable {ctx : HptwAllocCtx α} {live : α → Ptr → Prop} {good : Nat → Pme → Va → Prop}
  {own : Owners} {a a' : α} {mem mem' : Mem} {va : Va} {pm : Ptr} {lvl : Nat} {R : Set Va}

/-- How a table grows: what is owned stays owned, no lookup changes, and entries that point to
a page map go on pointing to it. -/
structure Grown (ctx : HptwAllocCtx α) (live : α → Ptr → Prop) (good : Nat → Pme → Va → Prop)
    (own own' : Owners) (mem mem' : Mem) (a' : α) : Prop where
  inv : TableInv ctx live good own' a' mem'
  owners : own.Extends own'
  walks : ∀ {top : Ptr} {k : Nat} {T : Set Va} {w : Va}, own top = some (k, T) → w ∈ T →
    (walkShape ctx.toHptwCtx).walk (walkStore ctx.toHptwCtx mem') w k top =
      (walkShape ctx.toHptwCtx).walk (walkStore ctx.toHptwCtx mem) w k top
  tables : ∀ {n m : Ptr} {l : Nat} {T : Set Va} {w : Va}, own n = some (l, T) →
    walkSlot ctx.toHptwCtx mem w l n = .table m → walkSlot ctx.toHptwCtx mem' w l n = .table m

theorem Grown.refl (inv : TableInv ctx live good own a mem) :
    Grown ctx live good own own mem mem a :=
  ⟨inv, fun _ _ owned => owned, fun _ _ => rfl, fun _ points => points⟩

theorem Grown.trans {own' own'' : Owners} {mem'' : Mem} {a'' : α}
    (first : Grown ctx live good own own' mem mem' a')
    (second : Grown ctx live good own' own'' mem' mem'' a'') :
    Grown ctx live good own own'' mem mem'' a'' where
  inv := second.inv
  owners := first.owners.trans second.owners
  walks owned member :=
    (second.walks (first.owners _ _ owned) member).trans (first.walks owned member)
  tables owned points := second.tables (first.owners _ _ owned) (first.tables owned points)

section

variable (sound : AllocSound ctx live)

include sound

theorem allocEntry_grown (inv : TableInv ctx live good own a mem)
    (owned : own pm = some (lvl + 1, R)) (low : 1 < lvl + 1)
    (high : lvl + 1 ≤ hptTypeMaxLvl ctx.t)
    (page : (walkPmeo ctx.toHptwCtx mem va (lvl + 1) pm).isPage = false)
    (alloc : allocEntry ctx va (lvl + 1) pm a mem = some (a', mem')) :
    ∃ own', Grown ctx live good own own' mem mem' a' := by
  unfold allocEntry at alloc
  dsimp only at alloc
  split at alloc
  · cases alloc
    exact ⟨own, Grown.refl inv⟩
  · next missing =>
    cases got : ctx.gzp a mem with
    | none =>
      rw [got] at alloc
      cases alloc
    | some result =>
      obtain ⟨new, a₁, mem₁⟩ := result
      rw [got] at alloc
      cases alloc
      have zeroed := sound.zeroed got
      subst zeroed
      have distinct : ∀ {n : Ptr} {x}, own n = some x → n ≠ new := by
        rintro n x entry rfl
        exact sound.fresh got (inv.live n x entry)
      have unowned : own new = none := by
        cases entry : own new with
        | none => rfl
        | some x => exact absurd rfl (distinct entry)
      have absent : walkSlot ctx.toHptwCtx mem va (lvl + 1) pm = .absent := by
        cases entryCase ctx.toHptwCtx mem va (lvl + 1) pm with
        | absent _ _ slot => exact slot
        | page present _ _ _ | invalid present _ _ _ | next present _ _ _ _ =>
          exact absurd present missing
      have link := sound.linked got _ (lvl + 1) low high page
      have empty := fun k i => slot_zero ctx.toHptwCtx k i
      refine ⟨update own new (some (lvl, (walkShape ctx.toHptwCtx).route R (lvl + 1) va)),
        ⟨?_, ?_⟩, ?_, ?_, ?_⟩
      · have covers := inv.covers.write_table (v := va) owned unowned link empty
        rw [walkStore_setPme, walkStore_update, update_of_ne (distinct owned)]
        exact covers
      · intro p x entry
        by_cases same : p = new
        · rw [same]
          exact sound.taken got
        · rw [update_of_ne same] at entry
          exact sound.kept got p (inv.live p x entry)
      · intro p x entry
        rw [update_of_ne (distinct entry)]
        exact entry
      · intro top k T w ownedTop member
        have walk := inv.covers.walk_write_table (w := w) owned unowned absent link empty
          ownedTop member
        rw [walkStore_setPme, walkStore_update, update_of_ne (distinct owned)]
        exact walk
      · intro n m l T w ownedNode points
        -- the entry written was absent, so it is not the one that points to `m`
        unfold walkSlot at points absent ⊢
        rw [walkStore_setPme, walkStore_update, update_of_ne (distinct owned)]
        by_cases node : n = pm
        · subst node
          cases ownedNode.symm.trans owned
          have other : (walkShape ctx.toHptwCtx).idx (lvl + 1) w ≠
              (walkShape ctx.toHptwCtx).idx (lvl + 1) va := by
            intro index
            rw [index, absent] at points
            cases points
          rw [Function.update_self, update_of_ne other]
          exact points
        · rw [update_of_ne node, update_of_ne (distinct ownedNode)]
          exact points

theorem getPmoAllocFrom_grown {endLvl : Nat} (positive : 1 ≤ endLvl) {result : Option Ptr} :
    ∀ {lvl : Nat} {pm : Ptr} {a : α} {mem : Mem} {own : Owners} {R : Set Va},
      TableInv ctx live good own a mem → own pm = some (lvl, R) → va ∈ R → endLvl ≤ lvl →
      lvl ≤ hptTypeMaxLvl ctx.t →
      getPmoAllocFrom ctx endLvl va lvl pm a mem = (result, a', mem') →
      ∃ own', Grown ctx live good own own' mem mem' a' ∧ ∀ pm', result = some pm' →
          (walkShape ctx.toHptwCtx).Path (walkStore ctx.toHptwCtx mem') va lvl pm endLvl pm' ∧
          ∃ R', own' pm' = some (endLvl, R') ∧ va ∈ R' ∧
            ∀ w ∈ R', w ∈ R ∧ ∀ l, endLvl < l → l ≤ lvl →
              hptGetPmIdx ctx.t l w = hptGetPmIdx ctx.t l va := by
  intro lvl
  induction lvl with
  | zero =>
    intro pm a mem own R _ _ _ le
    omega
  | succ lvl ih =>
    intro pm a mem own R inv owned member le high run
    rw [getPmoAllocFrom] at run
    split at run
    · next below =>
      split at run
      · cases run
        exact ⟨own, Grown.refl inv, nofun⟩
      · next page =>
        cases alloc : allocEntry ctx va (lvl + 1) pm a mem with
        | none =>
          rw [alloc] at run
          cases run
          exact ⟨own, Grown.refl inv, nofun⟩
        | some pair =>
          obtain ⟨a₁, mem₁⟩ := pair
          rw [alloc] at run
          obtain ⟨own₁, grown₁⟩ := allocEntry_grown sound inv owned (by omega) high
            (Bool.eq_false_iff.mpr page) alloc
          have owned₁ := grown₁.owners pm _ owned
          cases entryCase ctx.toHptwCtx mem₁ va (lvl + 1) pm with
          | absent present step slot | page present page step slot
          | invalid present page step slot =>
            simp only [step] at run
            cases run
            exact ⟨own₁, grown₁, nofun⟩
          | next present page next step slot =>
            simp only [step] at run
            have entry := grown₁.inv.covers.table owned₁ member slot
            obtain ⟨own', grown', reached⟩ := ih grown₁.inv entry
              (Radix.Shape.mem_route member (lvl + 1)) (Nat.le_of_lt_succ below)
              (Nat.le_of_succ_le high) run
            refine ⟨own', grown₁.trans grown', fun pm' eq => ?_⟩
            obtain ⟨path, R', owned', member', agree⟩ := reached pm' eq
            refine ⟨.step (grown'.tables owned₁ slot) path, R', owned', member', fun w inside => ?_⟩
            obtain ⟨routed, lower⟩ := agree w inside
            refine ⟨routed.1, fun l above upto => ?_⟩
            by_cases top : l = lvl + 1
            · rw [top]
              exact routed.2
            · exact lower l above (by omega)
    · next here =>
      cases run
      obtain rfl : endLvl = lvl + 1 := by omega
      refine ⟨own, Grown.refl inv, fun pm' eq => ?_⟩
      cases eq
      exact ⟨.refl, R, owned, member, fun w inside => ⟨inside, fun l above upto => by omega⟩⟩

section

variable {pmeo : Pmeo} {ok : Bool} {root : Ptr} (inv : TableInv ctx live good own a mem)
  (isRoot : hptwGetRoot ctx.toHptwCtx = some root)
  (owned : own root = some (hptTypeMaxLvl ctx.t, R)) (member : va ∈ R) (low : 1 ≤ pmeo.lvl)
  (high : pmeo.lvl ≤ hptTypeMaxLvl ctx.t)

include inv isRoot owned member low high

theorem hptwInsertPmeoAlloc_cases
    (insert : hptwInsertPmeoAlloc ctx pmeo va a mem = (ok, a', mem')) :
    ∃ own₁ mem₁, Grown ctx live good own own₁ mem mem₁ a' ∧
      (ok = false ∧ mem' = mem₁ ∨
        ok = true ∧ ∃ pm R, mem' = hptPmoSetPmeByVa mem₁ ⟨pm, ctx.t, pmeo.lvl⟩ pmeo va ∧
          own₁ pm = some (pmeo.lvl, R) ∧
          (∀ u ∈ R, ∀ l, pmeo.lvl < l → l ≤ hptTypeMaxLvl ctx.t →
            hptGetPmIdx ctx.t l u = hptGetPmIdx ctx.t l va) ∧
          (walkShape ctx.toHptwCtx).Path (walkStore ctx.toHptwCtx mem₁) va
            (hptTypeMaxLvl ctx.t) root pmeo.lvl pm) := by
  unfold hptwInsertPmeoAlloc hptwGetPmoAlloc at insert
  rw [isRoot] at insert
  dsimp only at insert
  generalize run : getPmoAllocFrom ctx pmeo.lvl va (hptTypeMaxLvl ctx.t) root a mem = out at insert
  obtain ⟨result, a₁, mem₁⟩ := out
  obtain ⟨own₁, grown, reached⟩ :=
    getPmoAllocFrom_grown sound low inv owned member high (Nat.le_refl _) run
  cases result with
  | none =>
    cases insert
    exact ⟨own₁, mem', grown, .inl ⟨rfl, rfl⟩⟩
  | some pm =>
    cases insert
    obtain ⟨path, R, owned', _, agree⟩ := reached pm rfl
    exact ⟨own₁, mem₁, grown, .inr ⟨rfl, pm, R, rfl, owned',
      fun u inside l above upto => (agree u inside).2 l above upto, path⟩⟩

theorem hptwInsertPmeoAlloc_covers
    (ends : (walkShape ctx.toHptwCtx).slot pmeo.lvl (storedPme ctx.t pmeo.pme) = .absent ∨
      (walkShape ctx.toHptwCtx).slot pmeo.lvl (storedPme ctx.t pmeo.pme) = .leaf ∧ ∀ w,
      (∀ l, pmeo.lvl ≤ l → l ≤ hptTypeMaxLvl ctx.t → hptGetPmIdx ctx.t l w = hptGetPmIdx ctx.t l
      va) → good pmeo.lvl (storedPme ctx.t pmeo.pme) w)
    (insert : hptwInsertPmeoAlloc ctx pmeo va a mem = (ok, a', mem')) :
    ∃ own', TableInv ctx live good own' a' mem' ∧ own.Extends own' := by
  obtain ⟨own₁, mem₁, ⟨inv₁, extends₁, _, _⟩, outcome⟩ :=
    hptwInsertPmeoAlloc_cases sound inv isRoot owned member low high insert
  rcases outcome with ⟨-, rfl⟩ | ⟨-, pm, R', rfl, owned', agree, -⟩
  · exact ⟨own₁, inv₁, extends₁⟩
  · obtain ⟨l, level⟩ := Nat.exists_eq_succ_of_ne_zero (Nat.ne_of_gt low)
    rw [Nat.succ_eq_add_one] at level
    rw [level] at owned' ends agree
    refine ⟨own₁, ⟨?_, inv₁.live⟩, extends₁⟩
    rw [level, walkStore_setPme]
    refine inv₁.covers.write_entry owned' fun w routed => ?_
    unfold Radix.Shape.EntryOk
    rcases ends with absent | ⟨leaf, served⟩
    · rw [absent]
      trivial
    · rw [leaf]
      refine served w fun k above upto => ?_
      by_cases here : k = l + 1
      · rw [here]
        exact routed.2
      · exact agree w routed.1 k (by omega) upto

end

end

end Insert

end Xmhf
