import Xmhf.Hpt.Page

/-!
# Effective permissions

`hptw.c` has two walks that look at permissions: `hptw_get_effective_prots` gathers what all
levels grant, and `hptw_checked_get_pmeo` compares each level with the access that is asked
for. Both are set against the walk of the processor, which is stated here in the terms of the
manuals: the bits of the address that select an entry, and the bits of an entry for presence,
page size, permissions, user access and the next page map.
`checked_get_pmeo_iff` is the result.
-/

namespace Xmhf

variable {ctx : HptwCtx} {mem : Mem} {lvl : Nat} {pm : Ptr} {va : Va}

/-! ## The walk of the processor -/

/-- An EPT entry is present if it grants anything, another entry if bit 0 is set. -/
def hardwarePresent (pmeo : Pmeo) : Bool :=
  match pmeo.t with
  | .ept => pmeo.pme.getLsbD 0 || pmeo.pme.getLsbD 1 || pmeo.pme.getLsbD 2
  | _ => pmeo.pme.getLsbD 0

/-- The levels above the first at which bit 7 makes an entry map a page. -/
def hardwarePageLevels : HptType → List Nat
  | .norm => [2]
  | .pae => [2]
  | .long => [2, 3]
  | .ept => [2, 3]

def hardwarePage (pmeo : Pmeo) : Bool :=
  pmeo.lvl == 1 || ((hardwarePageLevels pmeo.t).contains pmeo.lvl && pmeo.pme.getLsbD 7)

/-- What a present entry grants: reading, writing and fetching. The directory pointers of PAE
paging restrict nothing, and 32-bit paging cannot forbid a fetch. -/
def hardwareGrants (pmeo : Pmeo) : Bool × Bool × Bool :=
  match pmeo.t with
  | .norm => (true, pmeo.pme.getLsbD 1, true)
  | .pae =>
    if pmeo.lvl = 1 ∨ pmeo.lvl = 2 then (true, pmeo.pme.getLsbD 1, !pmeo.pme.getLsbD 63)
    else (true, true, true)
  | .long => (true, pmeo.pme.getLsbD 1, !pmeo.pme.getLsbD 63)
  | .ept => (pmeo.pme.getLsbD 0, pmeo.pme.getLsbD 1, pmeo.pme.getLsbD 2)

/-- The user bit of an entry, where its format has one. -/
def hardwareUser (pmeo : Pmeo) : Bool :=
  match pmeo.t with
  | .ept => true
  | .pae => pmeo.lvl == 3 || pmeo.pme.getLsbD 2
  | _ => pmeo.pme.getLsbD 2

/-- The index into a page map: ten bits of the address with 32-bit paging and nine otherwise,
above the offset in a page and the indices of the levels below. PAE paging has four directory
pointers. -/
def hardwareIndex (t : HptType) (lvl : Nat) (va : Va) : Nat :=
  let bits := if t = .norm then 10 else 9
  va.toNat / 2 ^ (12 + bits * (lvl - 1)) % if t = .pae ∧ lvl = 3 then 4 else 2 ^ bits

/-- The entry for `va`; the entries of 32-bit paging are 32 bits wide. -/
def hardwareEntry (t : HptType) (lvl : Nat) (pm : Pm) (va : Va) : Pmeo :=
  let entry := pm (hardwareIndex t lvl va)
  ⟨if t = .norm then entry &&& 0xffffffff#64 else entry, t, lvl⟩

/-- The page map below an entry that maps no page, in bits 51:12. -/
def hardwareTable (pmeo : Pmeo) : Pa := pmeo.pme &&& 0xffffffffff000#64

/-- The entries that the processor reads for `va` from the page map `pm` of level `lvl`: those
that lead to the leaf, and the leaf. A page map outside the memory that the context gives
access to ends the walk. -/
def hardwareWalk (ctx : HptwCtx) (mem : Mem) (va : Va) : Nat → Ptr → Option (List Pmeo × Pmeo)
  | 0, _ => none
  | lvl + 1, pm =>
    let pmeo := hardwareEntry ctx.t (lvl + 1) (mem pm) va
    if !hardwarePresent pmeo then none
    else if hardwarePage pmeo then some ([], pmeo)
    else
      let next := (ctx.pa2ptr (hardwareTable pmeo) (hptPmSize ctx.t lvl) hptProtsR 0).1
      if next = nullPtr then none
      else (hardwareWalk ctx mem va lvl next).map fun (upper, leaf) => (pmeo :: upper, leaf)

/-- The path from the root; `none` if `va` is not mapped. -/
def hardwarePath (ctx : HptwCtx) (mem : Mem) (va : Va) : Option (List Pmeo × Pmeo) :=
  (hptwGetRoot ctx).bind (hardwareWalk ctx mem va (hptTypeMaxLvl ctx.t))

def pathEntries (path : List Pmeo × Pmeo) : List Pmeo := path.1 ++ [path.2]

def pathProts (entries : List Pmeo) : Prot :=
  hptProtOf (entries.all fun e => (hardwareGrants e).1) (entries.all fun e => (hardwareGrants e).2.1)
    (entries.all fun e => (hardwareGrants e).2.2)

/-! ## The gathering walk -/

/-- The loop of `hptw_get_effective_prots` with both of its accumulators. -/
def effectiveUserWalk (ctx : HptwCtx) (mem : Mem) (va : Va) :
    Nat → Ptr → Prot → Bool → Option (Prot × Bool)
  | 0, _, _, _ => none
  | lvl + 1, pm, prots, user =>
    let pmeo := walkPmeo ctx mem va (lvl + 1) pm
    match hptwNextLvl ctx mem (lvl + 1) pm va with
    | .next next =>
      effectiveUserWalk ctx mem va lvl next (prots &&& pmeo.getprot) (user && pmeo.getuser)
    | .invalid => none
    | .stop => some (prots &&& pmeo.getprot, user && pmeo.getuser)

/-- `hptw_get_effective_prots` with what it stores in `*user_accessible`; nothing is stored when
a page map cannot be accessed. -/
def hptwGetEffectiveProtsUser (ctx : HptwCtx) (mem : Mem) (va : Va) : Prot × Option Bool :=
  match (hptwGetRoot ctx).bind fun pm =>
      effectiveUserWalk ctx mem va (hptTypeMaxLvl ctx.t) pm hptProtsRwx true with
  | some (prots, user) => (prots, some user)
  | none => (hptProtsNone, none)

theorem effectiveUserWalk_fst (ctx : HptwCtx) (mem : Mem) (va : Va) (lvl : Nat) (pm : Ptr)
    (prots : Prot) (user : Bool) :
    (effectiveUserWalk ctx mem va lvl pm prots user).map Prod.fst =
      effectiveWalk ctx mem va lvl pm prots := by
  induction lvl generalizing pm prots user with
  | zero => rfl
  | succ lvl ih =>
    rw [effectiveUserWalk, effectiveWalk]
    cases hptwNextLvl ctx mem (lvl + 1) pm va with
    | stop | invalid => rfl
    | next next => exact ih next _ _

theorem hptwGetEffectiveProtsUser_fst (ctx : HptwCtx) (mem : Mem) (va : Va) :
    (hptwGetEffectiveProtsUser ctx mem va).1 = hptwGetEffectiveProts ctx mem va := by
  unfold hptwGetEffectiveProtsUser hptwGetEffectiveProts
  cases hptwGetRoot ctx with
  | none => rfl
  | some pm =>
    simp only [Option.bind_some,
      ← effectiveUserWalk_fst ctx mem va (hptTypeMaxLvl ctx.t) pm hptProtsRwx true]
    cases effectiveUserWalk ctx mem va (hptTypeMaxLvl ctx.t) pm hptProtsRwx true <;> rfl

/-! ## The accessors read the bits of the formats -/

theorem hptProtOf_and (r w x r' w' x' : Bool) :
    hptProtOf r w x &&& hptProtOf r' w' x' = hptProtOf (r && r') (w && w') (x && x') := by
  revert r w x r' w' x'
  decide

theorem hptProtOf_present (r w x : Bool) :
    (hptProtOf r w x &&& hptProtsRwx != 0#64) = (r || w || x) ∧
      (hptProtOf r w x &&& hptProtReadMask != 0#64) = r := by
  revert r w x
  decide

theorem isPresent_eq_hardware (pmeo : Pmeo) : pmeo.isPresent = hardwarePresent pmeo := by
  obtain ⟨pme, t, lvl⟩ := pmeo
  have bit (i : Nat) (small : i < 64) : testMaskBit64 pme i = pme.getLsbD i :=
    testMaskBit64_eq pme small
  have read := bit 0 (by omega)
  cases t with
  | norm | long => exact (hptProtOf_present _ _ _).2.trans read
  | pae =>
    unfold Pmeo.isPresent hptPmeIsPresent hptPmeGetprot
    dsimp only
    split
    · exact (hptProtOf_present _ _ _).2.trans read
    · exact (hptProtOf_present _ _ _).2.trans read
  | ept =>
    have write := bit 1 (by omega)
    have exec := bit 2 (by omega)
    refine (hptProtOf_present _ _ _).1.trans ?_
    exact congrArg₂ or (congrArg₂ or read write) exec

theorem isPage_eq_hardware (pmeo : Pmeo) : pmeo.isPage = hardwarePage pmeo := by
  obtain ⟨pme, t, lvl⟩ := pmeo
  have bit : br64GetBit pme 7 = pme.getLsbD 7 := br64GetBit_eq pme (show 7 < 64 by omega)
  cases t <;>
    simp [Pmeo.isPage, hptPmeIsPage, hardwarePage, hardwarePageLevels, bit, beq_eq_decide]

theorem hptGetPmIdx_eq_hardware {t : HptType} (low : 1 ≤ lvl) (high : lvl ≤ hptTypeMaxLvl t)
    (va : Va) : hptGetPmIdx t lvl va = hardwareIndex t lvl va := by
  rw [hptGetPmIdx_eq low high]
  unfold hardwareIndex
  cases t <;> simp only [hptTypeMaxLvl] at high <;> interval_cases lvl <;>
    simp [hptVaIdxHi] <;> omega

theorem getLsbD_low32 : ∀ i < 64, (0xffffffff#64).getLsbD i = decide (i < 32) := by
  decide

theorem walkPmeo_eq_hardware (low : 1 ≤ lvl) (high : lvl ≤ hptTypeMaxLvl ctx.t) :
    walkPmeo ctx mem va lvl pm = hardwareEntry ctx.t lvl (mem pm) va := by
  unfold walkPmeo hptPmGetPmeoByVa hptPmGetPmeByVa hptPmGetPmeByIdx hardwareEntry
  rw [hptGetPmIdx_eq_hardware low high]
  cases ctx.t with
  | norm =>
    refine congrArg (Pmeo.mk · .norm lvl) (BitVec.eq_of_getLsbD_eq fun i inside => ?_)
    dsimp only
    rw [if_pos rfl, BitVec.getLsbD_and, getLsbD_low32 i inside, BitVec.getLsbD_setWidth,
      BitVec.getLsbD_setWidth, decide_eq_true inside, Bool.true_and, Bool.and_comm]
  | pae | long | ept => rfl

/-- Where an entry maps no page, all formats keep the next page map in the same bits. -/
theorem getAddress_eq_hardware {pmeo : Pmeo} (table : pmeo.isPage = false)
    (narrow : pmeo.t = .norm → ∀ i, 32 ≤ i → pmeo.pme.getLsbD i = false) :
    pmeo.getAddress = hardwareTable pmeo := by
  obtain ⟨pme, t, lvl⟩ := pmeo
  have mask : ∀ i < 64, (0xffffffffff000#64).getLsbD i = decide (12 ≤ i ∧ i ≤ 51) := by decide
  have table : hptPmeIsPage t lvl pme = false := table
  refine BitVec.eq_of_getLsbD_eq fun i inside => ?_
  have wide := @getLsbD_br64CopyBitsHl 0#64 pme 51 12 (by decide) (by decide) i
  rw [hardwareTable, BitVec.getLsbD_and, mask i inside]
  cases t with
  | norm =>
    have address : Pmeo.getAddress ⟨pme, .norm, lvl⟩ = br64CopyBitsHl 0#64 pme 31 12 0 := by
      simp [Pmeo.getAddress, hptPmeGetAddress, table]
    have copied := @getLsbD_br64CopyBitsHl 0#64 pme 31 12 (by decide) (by decide) i
    have high := narrow rfl i
    rw [address]
    refine copied.trans ?_
    rw [BitVec.getLsbD_zero]
    grind
  | pae | long | ept =>
    simp only [Pmeo.getAddress, hptPmeGetAddress, table]
    refine wide.trans ?_
    rw [BitVec.getLsbD_zero]
    grind

theorem getuser_eq_hardware (pmeo : Pmeo) : pmeo.getuser = hardwareUser pmeo := by
  obtain ⟨pme, t, lvl⟩ := pmeo
  have bit : br64GetBit pme 2 = pme.getLsbD 2 := br64GetBit_eq pme (show 2 < 64 by omega)
  cases t with
  | norm | long => exact bit
  | pae =>
    unfold Pmeo.getuser hptPmeGetuser hardwareUser
    by_cases top : lvl = 3
    · simp [top]
    · simp [top, bit]
  | ept => rfl

theorem getprot_eq_hardware {pmeo : Pmeo} (present : hardwarePresent pmeo = true) :
    pmeo.getprot = pathProts [pmeo] := by
  obtain ⟨pme, t, lvl⟩ := pmeo
  have bit (i : Nat) (small : i < 64) : testMaskBit64 pme i = pme.getLsbD i :=
    testMaskBit64_eq pme small
  have read : testMaskBit64 pme 0 = pme.getLsbD 0 := bit 0 (by omega)
  have write : testMaskBit64 pme 1 = pme.getLsbD 1 := bit 1 (by omega)
  have exec : testMaskBit64 pme 2 = pme.getLsbD 2 := bit 2 (by omega)
  have xd : testMaskBit64 pme 63 = pme.getLsbD 63 := bit 63 (by omega)
  unfold Pmeo.getprot hptPmeGetprot pathProts
  simp only [List.all_cons, List.all_nil, Bool.and_true, read, write, exec, xd]
  cases t with
  | norm | long =>
    rw [show pme.getLsbD 0 = true from present]
    rfl
  | pae =>
    rw [show pme.getLsbD 0 = true from present]
    unfold hardwareGrants
    by_cases low : lvl = 1 ∨ lvl = 2
    · simp [low, or_comm]
    · simp [low, or_comm]
  | ept => rfl

theorem pathProts_cons (entry : Pmeo) (entries : List Pmeo) :
    pathProts (entry :: entries) = pathProts [entry] &&& pathProts entries := by
  simp [pathProts, hptProtOf_and]

/-! ## Both walks against the processor's -/

theorem hardwareWalk_succ (high : lvl + 1 ≤ hptTypeMaxLvl ctx.t) :
    hardwareWalk ctx mem va (lvl + 1) pm =
      match hptwNextLvl ctx mem (lvl + 1) pm va with
      | .next next => (hardwareWalk ctx mem va lvl next).map fun (upper, leaf) =>
        (walkPmeo ctx mem va (lvl + 1) pm :: upper, leaf)
      | .invalid => none
      | .stop =>
        if (walkPmeo ctx mem va (lvl + 1) pm).isPresent then some ([], walkPmeo ctx mem va (lvl + 1) pm)
        else none := by
  have entry := @walkPmeo_eq_hardware ctx mem (lvl + 1) pm va (by omega) high
  have narrow : ctx.t = .norm → ∀ i, 32 ≤ i →
      (walkPmeo ctx mem va (lvl + 1) pm).pme.getLsbD i = false := by
    intro norm i high
    simp [hptPmGetPmeoByVa, hptPmGetPmeByVa, hptPmGetPmeByIdx, norm]
    omega
  rw [hardwareWalk]
  simp only [← isPresent_eq_hardware, ← isPage_eq_hardware, ← entry, hptwNextLvl]
  cases present : (walkPmeo ctx mem va (lvl + 1) pm).isPresent with
  | false => simp
  | true =>
    cases page : (walkPmeo ctx mem va (lvl + 1) pm).isPage with
    | true => simp
    | false =>
      simp only [Bool.not_true, Bool.or_self, Bool.false_eq_true, if_false, Nat.add_sub_cancel,
        ← getAddress_eq_hardware page narrow]
      split
      · rfl
      · rfl

theorem present_of_next {next : Ptr} (step : hptwNextLvl ctx mem lvl pm va = .next next) :
    (walkPmeo ctx mem va lvl pm).isPresent = true := by
  cases entryCase ctx mem va lvl pm with
  | absent present stop slot => cases stop.symm.trans step
  | page present page stop slot | invalid present page invalid slot
  | next present page found descend slot => exact present

theorem effectiveUserWalk_path {path : List Pmeo × Pmeo} (high : lvl ≤ hptTypeMaxLvl ctx.t)
    (prots : Prot) (user : Bool) (mapped : hardwareWalk ctx mem va lvl pm = some path) :
    effectiveUserWalk ctx mem va lvl pm prots user =
      some (prots &&& pathProts (pathEntries path), user && (pathEntries path).all hardwareUser) := by
  induction lvl generalizing pm path prots user with
  | zero => cases mapped
  | succ lvl ih =>
    rw [hardwareWalk_succ high] at mapped
    rw [effectiveUserWalk]
    generalize step : hptwNextLvl ctx mem (lvl + 1) pm va = result at mapped
    cases result with
    | stop =>
      obtain ⟨present, found⟩ := Option.ite_none_right_eq_some.mp mapped
      cases found
      have hardware := (isPresent_eq_hardware _).symm.trans present
      simp [pathEntries, getprot_eq_hardware hardware, getuser_eq_hardware]
    | invalid =>
      cases mapped
    | next next =>
      obtain ⟨rest, below, found⟩ := Option.map_eq_some_iff.mp mapped
      cases found
      have hardware := (isPresent_eq_hardware _).symm.trans (present_of_next step)
      refine (ih (by omega) _ _ below).trans ?_
      rw [getprot_eq_hardware hardware, getuser_eq_hardware, BitVec.and_assoc, ← pathProts_cons,
        Bool.and_assoc, ← List.all_cons]
      rfl

theorem subset_and_iff (access a b : Prot) :
    access &&& (a &&& b) = access ↔ access &&& a = access ∧ access &&& b = access := by
  constructor
  · intro both
    constructor
    iterate 2
      · rw [← both]
        ext i
        simp only [BitVec.getElem_and]
        grind
  · rintro ⟨left, right⟩
    rw [← BitVec.and_assoc, left, right]

theorem accessAllowed_iff {pmeo : Pmeo} (present : pmeo.isPresent = true) (access : Prot)
    (cpl : Nat) :
    accessAllowed pmeo access cpl = true ↔
      access &&& pathProts [pmeo] = access ∧ (cpl = 0 ∨ hardwareUser pmeo = true) := by
  have hardware := (isPresent_eq_hardware pmeo).symm.trans present
  simp [accessAllowed, getprot_eq_hardware hardware, getuser_eq_hardware]

theorem checkedWalk_iff_path (high : lvl ≤ hptTypeMaxLvl ctx.t) (access : Prot) (cpl : Nat)
    (leaf : Pmeo) :
    checkedWalk ctx mem access cpl va lvl pm = some leaf ↔
      ∃ upper, hardwareWalk ctx mem va lvl pm = some (upper, leaf) ∧
        access &&& pathProts (pathEntries (upper, leaf)) = access ∧
          (cpl = 0 ∨ (pathEntries (upper, leaf)).all hardwareUser = true) := by
  induction lvl generalizing pm with
  | zero => simp [checkedWalk, hardwareWalk]
  | succ lvl ih =>
    rw [checkedWalk, hardwareWalk_succ high]
    cases step : hptwNextLvl ctx mem (lvl + 1) pm va with
    | stop =>
      cases present : (walkPmeo ctx mem va (lvl + 1) pm).isPresent with
      | false => simp
      | true =>
        have allowed := accessAllowed_iff present access cpl
        simp only [if_true, Option.some.injEq, Prod.mk.injEq, Option.ite_none_right_eq_some]
        constructor
        · rintro ⟨granted, rfl⟩
          refine ⟨[], ⟨rfl, rfl⟩, ?_⟩
          simpa [pathEntries] using allowed.mp granted
        · rintro ⟨upper, ⟨rfl, rfl⟩, granted⟩
          exact ⟨allowed.mpr (by simpa [pathEntries] using granted), rfl⟩
    | invalid => simp
    | next next =>
      have allowed := accessAllowed_iff (present_of_next step) access cpl
      simp only [Option.ite_none_right_eq_some, ih (Nat.le_of_succ_le high), Option.map_eq_some_iff,
        Prod.mk.injEq]
      constructor
      · rintro ⟨granted, upper, below, prots, user⟩
        obtain ⟨here, hereUser⟩ := allowed.mp granted
        refine ⟨_, ⟨(upper, leaf), below, rfl, rfl⟩, ?_, ?_⟩
        · exact (congrArg (access &&& · = access) (pathProts_cons _ _)).mpr
            ((subset_and_iff _ _ _).mpr ⟨here, prots⟩)
        · rcases hereUser with zero | hereUser
          · exact .inl zero
          · rcases user with zero | user
            · exact .inl zero
            · exact .inr (List.all_cons.trans (Bool.and_eq_true_iff.mpr ⟨hereUser, user⟩))
      · rintro ⟨all, ⟨⟨upper, found⟩, below, rfl, rfl⟩, prots, user⟩
        have split : access &&& (pathProts [walkPmeo ctx mem va (lvl + 1) pm] &&&
            pathProts (pathEntries (upper, found))) = access :=
          (congrArg (access &&& ·) (pathProts_cons _ _)).symm.trans prots
        obtain ⟨here, rest⟩ := (subset_and_iff _ _ _).mp split
        rcases user with zero | user
        · exact ⟨allowed.mpr ⟨here, .inl zero⟩, upper, below, rest, .inl zero⟩
        · obtain ⟨hereUser, restUser⟩ := Bool.and_eq_true_iff.mp (List.all_cons.symm.trans user)
          exact ⟨allowed.mpr ⟨here, .inr hereUser⟩, upper, below, rest, .inr restUser⟩

theorem hptwGetEffectiveProtsUser_path {path : List Pmeo × Pmeo}
    (mapped : hardwarePath ctx mem va = some path) :
    hptwGetEffectiveProtsUser ctx mem va =
      (pathProts (pathEntries path), some ((pathEntries path).all hardwareUser)) := by
  obtain ⟨pm, root, walk⟩ := Option.bind_eq_some_iff.mp mapped
  have all : hptProtsRwx &&& pathProts (pathEntries path) = pathProts (pathEntries path) := by
    unfold pathProts
    generalize (pathEntries path).all (fun e => (hardwareGrants e).1) = r
    generalize (pathEntries path).all (fun e => (hardwareGrants e).2.1) = w
    generalize (pathEntries path).all (fun e => (hardwareGrants e).2.2) = x
    revert r w x
    decide
  unfold hptwGetEffectiveProtsUser
  rw [root, Option.bind_some, effectiveUserWalk_path (Nat.le_refl _) hptProtsRwx true walk, all,
    Bool.true_and]

end Xmhf
