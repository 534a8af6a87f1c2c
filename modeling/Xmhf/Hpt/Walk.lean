import Xmhf.Hpt.Entry
import Xmhf.Lib.RadixTable

/-!
# Software page walks

The walks of `hptw.c` over a page table of any type. A context says how a
physical address found in an entry becomes a pointer (`pa2ptr`, which can fail
and can itself be a checked walk through another table); the memory in which
the page maps lie is an argument of every walk, since insertions change it.

The loops of the source go down one level per iteration, so they are recursions
on the level of the current page map. `walkShape` reads a context as a radix
table, and `hptwCheckedGetPmeo_eq_walk` identifies the walk that asks for no
permission with the lookup of that table.
-/

namespace Xmhf

/-- The null pointer, by which `pa2ptr` and the access functions say that they
failed. -/
abbrev nullPtr : Ptr := 0#64

/-- The part of `hptw_ctx_t` that reading needs. `pa2ptr` takes an address, a
size, the access and the privilege level, and returns a pointer and the number
of bytes available there. -/
structure HptwCtx where
  t : HptType
  rootPa : Pa
  pa2ptr : Pa → Nat → Prot → Nat → Ptr × Nat

/-- `spa2hva` on a 64-bit hypervisor, as the host contexts use it. -/
def hostPa2ptr (spa : Pa) (sz : Nat) (_accessType : Prot) (_cpl : Nat) : Ptr × Nat := (spa, sz)

/-- A context that can also allocate; `α` is the state of its allocator. A page
is returned together with the allocator and the memory in which it is zeroed. -/
structure HptwAllocCtx (α : Type) extends HptwCtx where
  ptr2pa : Ptr → Pa
  gzp : α → Mem → Option (Ptr × α × Mem)

/-- Outcome of `hptw_next_lvl`: the current entry is not present or is a page,
or the next page map cannot be accessed, or the walk moves to it. -/
inductive NextLvl where
  | stop
  | invalid
  | next (pm : Ptr)

variable {α : Type}

def hptwGetRoot (ctx : HptwCtx) : Option Ptr :=
  let pmSz := hptPmSize ctx.t (hptTypeMaxLvl ctx.t)
  let (pm, avail) := ctx.pa2ptr ctx.rootPa pmSz hptProtsRw 0
  if pm ≠ nullPtr ∧ avail = pmSz then some pm else none

/-- Asserted: the page map found is available as a whole. -/
def hptwNextLvl (ctx : HptwCtx) (mem : Mem) (lvl : Nat) (pm : Ptr) (va : Va) : NextLvl :=
  let pmeo := hptPmGetPmeoByVa mem ⟨pm, ctx.t, lvl⟩ va
  if !pmeo.isPresent || pmeo.isPage then .stop
  else
    let next := (ctx.pa2ptr pmeo.getAddress (hptPmSize ctx.t (lvl - 1)) hptProtsR 0).1
    if next = nullPtr then .invalid else .next next

def accessAllowed (pmeo : Pmeo) (accessType : Prot) (cpl : Nat) : Bool :=
  accessType &&& pmeo.getprot == accessType && (cpl == 0 || pmeo.getuser)

/-- The loop of `hptw_checked_get_pmeo` from the page map `pm` of level `lvl`. -/
def checkedWalk (ctx : HptwCtx) (mem : Mem) (accessType : Prot) (cpl : Nat) (va : Va) :
    Nat → Ptr → Option Pmeo
  | 0, _ => none
  | lvl + 1, pm =>
    let pmeo := hptPmGetPmeoByVa mem ⟨pm, ctx.t, lvl + 1⟩ va
    if accessAllowed pmeo accessType cpl then
      match hptwNextLvl ctx mem (lvl + 1) pm va with
      | .next next => checkedWalk ctx mem accessType cpl va lvl next
      | .invalid => none
      | .stop => if pmeo.isPresent then some pmeo else none
    else none

def hptwCheckedGetPmeo (ctx : HptwCtx) (mem : Mem) (accessType : Prot) (cpl : Nat) (va : Va) :
    Option Pmeo :=
  match hptwGetRoot ctx with
  | some pm => checkedWalk ctx mem accessType cpl va (hptTypeMaxLvl ctx.t) pm
  | none => none

def hptwCheckedAccessVa (ctx : HptwCtx) (mem : Mem) (accessType : Prot) (cpl : Nat) (va : Va)
    (requestedSz : Nat) : Ptr × Nat :=
  match hptwCheckedGetPmeo ctx mem accessType cpl va with
  | some pmeo =>
    let pa := pmeo.vaToPa va
    let availSz := min requestedSz (pmeo.remainingOnPage pa)
    ctx.pa2ptr pa availSz accessType cpl
  | none => (nullPtr, 0)

/-- The loop of `hptw_get_effective_prots`; `none` when a page map cannot be
accessed. -/
def effectiveWalk (ctx : HptwCtx) (mem : Mem) (va : Va) : Nat → Ptr → Prot → Option Prot
  | 0, _, _ => none
  | lvl + 1, pm, prots =>
    let pmeo := hptPmGetPmeoByVa mem ⟨pm, ctx.t, lvl + 1⟩ va
    match hptwNextLvl ctx mem (lvl + 1) pm va with
    | .next next => effectiveWalk ctx mem va lvl next (prots &&& pmeo.getprot)
    | .invalid => none
    | .stop => some (prots &&& pmeo.getprot)

/-- The permissions that every level of the walk grants. -/
def hptwGetEffectiveProts (ctx : HptwCtx) (mem : Mem) (va : Va) : Prot :=
  match hptwGetRoot ctx with
  | some pm =>
    match effectiveWalk ctx mem va (hptTypeMaxLvl ctx.t) pm hptProtsRwx with
    | some prots => prots
    | none => hptProtsNone
  | none => hptProtsNone

/-- One iteration of `hptw_get_pmo_alloc` before it descends: the entry for
`va`, if absent, comes to point to a newly allocated page map. -/
def allocEntry (ctx : HptwAllocCtx α) (va : Va) (lvl : Nat) (pm : Ptr) (a : α) (mem : Mem) :
    Option (α × Mem) :=
  let pmo : Pmo := ⟨pm, ctx.t, lvl⟩
  let pmeo := hptPmGetPmeoByVa mem pmo va
  if pmeo.isPresent then some (a, mem)
  else
    match ctx.gzp a mem with
    | none => none
    | some (page, a', mem') =>
      let pmeo := ((pmeo.setAddress (ctx.ptr2pa page)).setprot hptProtsRwx).setuser true
      some (a', hptPmoSetPmeByVa mem' pmo pmeo va)

/-- The loop of `hptw_get_pmo_alloc`. It returns the page map of level `endLvl`,
or `none` on failure, and the allocator and memory as it leaves them.
Asserted: the descent through a present table entry succeeds. -/
def getPmoAllocFrom (ctx : HptwAllocCtx α) (endLvl : Nat) (va : Va) :
    Nat → Ptr → α → Mem → Option Ptr × α × Mem
  | 0, pm, a, mem => (some pm, a, mem)
  | lvl + 1, pm, a, mem =>
    if endLvl < lvl + 1 then
      if (hptPmGetPmeoByVa mem ⟨pm, ctx.t, lvl + 1⟩ va).isPage then (none, a, mem)
      else
        match allocEntry ctx va (lvl + 1) pm a mem with
        | none => (none, a, mem)
        | some (a', mem') =>
          match hptwNextLvl ctx.toHptwCtx mem' (lvl + 1) pm va with
          | .next next => getPmoAllocFrom ctx endLvl va lvl next a' mem'
          | _ => (none, a', mem')
    else (some pm, a, mem)

def hptwGetPmoAlloc (ctx : HptwAllocCtx α) (endLvl : Nat) (va : Va) (a : α) (mem : Mem) :
    Option Ptr × α × Mem :=
  match hptwGetRoot ctx.toHptwCtx with
  | some pm => getPmoAllocFrom ctx endLvl va (hptTypeMaxLvl ctx.t) pm a mem
  | none => (none, a, mem)

/-- `hptw_insert_pmeo_alloc`; the flag says whether it succeeded. The walk ends at the level of
`pmeo` if the type has it, so the check of the level is left out. -/
def hptwInsertPmeoAlloc (ctx : HptwAllocCtx α) (pmeo : Pmeo) (va : Va) (a : α) (mem : Mem) :
    Bool × α × Mem :=
  match hptwGetPmoAlloc ctx pmeo.lvl va a mem with
  | (some pm, a', mem') => (true, a', hptPmoSetPmeByVa mem' ⟨pm, ctx.t, pmeo.lvl⟩ pmeo va)
  | (none, a', mem') => (false, a', mem')

/-! ## Walks as radix table lookups -/

/-- The table a context describes: an entry whose page map cannot be accessed
counts as absent, as every walk fails there. -/
def walkShape (ctx : HptwCtx) : Radix.Shape Ptr Pme Nat Va where
  idx lvl va := hptGetPmIdx ctx.t lvl va
  slot lvl pme :=
    let pmeo : Pmeo := ⟨pme, ctx.t, lvl⟩
    if !pmeo.isPresent then .absent
    else if pmeo.isPage then .leaf
    else
      let next := (ctx.pa2ptr pmeo.getAddress (hptPmSize ctx.t (lvl - 1)) hptProtsR 0).1
      if next = nullPtr then .absent else .table next

/-- The entries of the page maps in memory, as a walk reads them. -/
def walkStore (ctx : HptwCtx) (mem : Mem) : Ptr → Nat → Pme :=
  fun pm idx => hptPmGetPmeByIdx ctx.t (mem pm) idx

/-- The entry that a walk of `va` reads in the page map `pm` of level `lvl`. -/
abbrev walkPmeo (ctx : HptwCtx) (mem : Mem) (va : Va) (lvl : Nat) (pm : Ptr) : Pmeo :=
  hptPmGetPmeoByVa mem ⟨pm, ctx.t, lvl⟩ va

abbrev walkSlot (ctx : HptwCtx) (mem : Mem) (va : Va) (lvl : Nat) (pm : Ptr) : Radix.Slot Ptr :=
  (walkShape ctx).slot lvl (walkStore ctx mem pm ((walkShape ctx).idx lvl va))

/-- Everything a walk can meet in a page map: an absent entry, a page, a table
that cannot be accessed, or a table to descend to. -/
inductive EntryCase (ctx : HptwCtx) (mem : Mem) (va : Va) (lvl : Nat) (pm : Ptr) : Prop where
  | absent (present : (walkPmeo ctx mem va lvl pm).isPresent = false)
      (step : hptwNextLvl ctx mem lvl pm va = .stop)
      (slot : walkSlot ctx mem va lvl pm = .absent)
  | page (present : (walkPmeo ctx mem va lvl pm).isPresent = true)
      (page : (walkPmeo ctx mem va lvl pm).isPage = true)
      (step : hptwNextLvl ctx mem lvl pm va = .stop)
      (slot : walkSlot ctx mem va lvl pm = .leaf)
  | invalid (present : (walkPmeo ctx mem va lvl pm).isPresent = true)
      (page : (walkPmeo ctx mem va lvl pm).isPage = false)
      (step : hptwNextLvl ctx mem lvl pm va = .invalid)
      (slot : walkSlot ctx mem va lvl pm = .absent)
  | next (present : (walkPmeo ctx mem va lvl pm).isPresent = true)
      (page : (walkPmeo ctx mem va lvl pm).isPage = false) (next : Ptr)
      (step : hptwNextLvl ctx mem lvl pm va = .next next)
      (slot : walkSlot ctx mem va lvl pm = .table next)

theorem entryCase (ctx : HptwCtx) (mem : Mem) (va : Va) (lvl : Nat) (pm : Ptr) :
    EntryCase ctx mem va lvl pm := by
  let table := (ctx.pa2ptr (walkPmeo ctx mem va lvl pm).getAddress (hptPmSize ctx.t (lvl - 1))
    hptProtsR 0).1
  have slot : walkSlot ctx mem va lvl pm =
      if !(walkPmeo ctx mem va lvl pm).isPresent then .absent
      else if (walkPmeo ctx mem va lvl pm).isPage then .leaf
      else if table = nullPtr then .absent else .table table := rfl
  have step : hptwNextLvl ctx mem lvl pm va =
      if !(walkPmeo ctx mem va lvl pm).isPresent || (walkPmeo ctx mem va lvl pm).isPage then .stop
      else if table = nullPtr then .invalid else .next table := rfl
  cases present : (walkPmeo ctx mem va lvl pm).isPresent with
  | false =>
    rw [present] at slot step
    exact .absent present step slot
  | true =>
    rw [present] at slot step
    cases page : (walkPmeo ctx mem va lvl pm).isPage with
    | true =>
      rw [page] at slot step
      exact .page present page step slot
    | false =>
      rw [page] at slot step
      simp only [Bool.not_true, Bool.or_self, Bool.false_eq_true, if_false] at slot step
      by_cases null : table = nullPtr
      · rw [if_pos null] at slot step
        exact .invalid present page step slot
      · rw [if_neg null] at slot step
        exact .next present page _ step slot

theorem accessAllowed_none (pmeo : Pmeo) : accessAllowed pmeo 0#64 0 = true := by
  simp [accessAllowed]

theorem checkedWalk_none_eq_walk (ctx : HptwCtx) (mem : Mem) (va : Va) (lvl : Nat) (pm : Ptr) :
    checkedWalk ctx mem 0#64 0 va lvl pm = ((walkShape ctx).walk (walkStore ctx mem) va lvl pm).map
        fun found => ⟨found.2, ctx.t, found.1⟩ := by
  induction lvl generalizing pm with
  | zero => rfl
  | succ lvl ih =>
    rw [checkedWalk, Radix.Shape.walk]
    simp only [accessAllowed_none, if_true]
    cases entryCase ctx mem va (lvl + 1) pm with
    | absent present step slot | page present page step slot =>
      unfold walkSlot at slot
      rw [step, slot, present]
      rfl
    | invalid present page step slot =>
      unfold walkSlot at slot
      rw [step, slot]
      rfl
    | next present page next step slot =>
      unfold walkSlot at slot
      rw [step, slot]
      exact ih next

/-! ## What the checked walk guarantees -/

section Walk

variable {ctx : HptwCtx} {mem : Mem} {access : Prot} {cpl : Nat} {va va' : Va} {leaf : Pmeo}
  {lvl : Nat} {pm : Ptr}

theorem checkedWalk_succ (found : checkedWalk ctx mem access cpl va (lvl + 1) pm = some leaf) :
    accessAllowed (hptPmGetPmeoByVa mem ⟨pm, ctx.t, lvl + 1⟩ va) access cpl = true ∧
      ((∃ next, hptwNextLvl ctx mem (lvl + 1) pm va = .next next ∧
        checkedWalk ctx mem access cpl va lvl next = some leaf) ∨
      hptwNextLvl ctx mem (lvl + 1) pm va = .stop ∧ leaf.isPresent = true ∧
        hptPmGetPmeoByVa mem ⟨pm, ctx.t, lvl + 1⟩ va = leaf) := by
  rw [checkedWalk] at found
  obtain ⟨allowed, found⟩ := Option.ite_none_right_eq_some.mp found
  refine ⟨allowed, ?_⟩
  generalize step : hptwNextLvl ctx mem (lvl + 1) pm va = result at found
  cases result with
  | next next =>
    exact .inl ⟨next, rfl, found⟩
  | invalid =>
    cases found
  | stop =>
    obtain ⟨present, same⟩ := Option.ite_none_right_eq_some.mp found
    cases same
    exact .inr ⟨rfl, present, rfl⟩

section

variable (found : checkedWalk ctx mem access cpl va lvl pm = some leaf)

include found

theorem checkedWalk_unchecked : checkedWalk ctx mem 0#64 0 va lvl pm = some leaf := by
  induction lvl generalizing pm with
  | zero => cases found
  | succ lvl ih =>
    rw [checkedWalk]
    simp only [accessAllowed_none, if_true]
    rcases checkedWalk_succ found with ⟨-, ⟨next, step, rest⟩ | ⟨step, present, same⟩⟩
    · rw [step]
      exact ih rest
    · simp only [step, same, present, if_true]

theorem checkedWalk_leaf :
    leaf.isPresent = true ∧ leaf.isPage = true ∧ leaf.t = ctx.t ∧ 1 ≤ leaf.lvl ∧
      leaf.lvl ≤ lvl := by
  induction lvl generalizing pm with
  | zero => cases found
  | succ lvl ih =>
    rcases checkedWalk_succ found with ⟨-, ⟨next, step, rest⟩ | ⟨step, present, rfl⟩⟩
    · obtain ⟨leafPresent, leafPage, type, low, high⟩ := ih rest
      exact ⟨leafPresent, leafPage, type, low, Nat.le_succ_of_le high⟩
    · have page : (hptPmGetPmeoByVa mem ⟨pm, ctx.t, lvl + 1⟩ va).isPage = true := by
        cases entryCase ctx mem va (lvl + 1) pm with
        | absent absent _ _ => cases absent.symm.trans present
        | page _ page _ _ => exact page
        | invalid _ _ other _ | next _ _ _ other _ => cases other.symm.trans step
      exact ⟨present, page, rfl, Nat.succ_le_succ (Nat.zero_le lvl), Nat.le_refl _⟩

omit found in
/-- The entry of a level and what follows it depend on the index at that level. -/
theorem hptwNextLvl_congr (same : hptGetPmIdx ctx.t lvl va' = hptGetPmIdx ctx.t lvl va) :
    hptPmGetPmeoByVa mem ⟨pm, ctx.t, lvl⟩ va' = hptPmGetPmeoByVa mem ⟨pm, ctx.t, lvl⟩ va ∧
      hptwNextLvl ctx mem lvl pm va' = hptwNextLvl ctx mem lvl pm va := by
  have entry : hptPmGetPmeoByVa mem ⟨pm, ctx.t, lvl⟩ va' =
      hptPmGetPmeoByVa mem ⟨pm, ctx.t, lvl⟩ va := by
    simp only [hptPmGetPmeoByVa, hptPmGetPmeByVa, same]
  exact ⟨entry, by simp only [hptwNextLvl, entry]⟩

theorem checkedWalk_congr
    (same : ∀ l, leaf.lvl ≤ l → l ≤ lvl → hptGetPmIdx ctx.t l va' = hptGetPmIdx ctx.t l va) :
    checkedWalk ctx mem access cpl va' lvl pm = some leaf := by
  induction lvl generalizing pm with
  | zero => cases found
  | succ lvl ih =>
    have level := (checkedWalk_leaf found).2.2.2.2
    obtain ⟨entry, next⟩ := @hptwNextLvl_congr _ mem _ _ _ pm (same (lvl + 1) level (Nat.le_refl _))
    obtain ⟨allowed, below⟩ := checkedWalk_succ found
    rw [checkedWalk, entry, next]
    simp only [allowed, if_true]
    rcases below with ⟨next, step, rest⟩ | ⟨step, present, rfl⟩
    · rw [step]
      exact ih rest fun l low high => same l low (Nat.le_succ_of_le high)
    · simp only [step, present, if_true]

end

section

variable (found : checkedWalk ctx mem 0#64 0 va lvl pm = some leaf)

include found

theorem effectiveWalk_congr {prots : Prot}
    (same : ∀ l, leaf.lvl ≤ l → l ≤ lvl → hptGetPmIdx ctx.t l va' = hptGetPmIdx ctx.t l va) :
    effectiveWalk ctx mem va' lvl pm prots = effectiveWalk ctx mem va lvl pm prots := by
  induction lvl generalizing pm prots with
  | zero => cases found
  | succ lvl ih =>
    have level := (checkedWalk_leaf found).2.2.2.2
    obtain ⟨entry, next⟩ := @hptwNextLvl_congr _ mem _ _ _ pm (same (lvl + 1) level (Nat.le_refl _))
    rw [effectiveWalk, effectiveWalk, entry, next]
    rcases checkedWalk_succ found with ⟨-, ⟨next, step, rest⟩ | ⟨step, -⟩⟩
    · rw [step]
      exact ih rest fun l low high => same l low (Nat.le_succ_of_le high)
    · rw [step]

theorem effectiveWalk_subset_leaf {prots effective : Prot}
    (all : effectiveWalk ctx mem va lvl pm prots = some effective) :
    effective &&& leaf.getprot = effective := by
  induction lvl generalizing pm prots with
  | zero => cases found
  | succ lvl ih =>
    rw [effectiveWalk] at all
    rcases checkedWalk_succ found with ⟨-, ⟨next, step, rest⟩ | ⟨step, -, rfl⟩⟩
    · rw [step] at all
      exact ih rest all
    · rw [step] at all
      cases all
      rw [BitVec.and_assoc, BitVec.and_self]

end

end Walk

/-! ## The walks from the root -/

section Root

variable {ctx : HptwCtx} {mem : Mem} {access : Prot} {cpl : Nat} {va va' : Va} {leaf : Pmeo}

section

variable (found : hptwCheckedGetPmeo ctx mem access cpl va = some leaf)

include found

theorem hptwCheckedGetPmeo_some :
    ∃ pm, hptwGetRoot ctx = some pm ∧
      checkedWalk ctx mem access cpl va (hptTypeMaxLvl ctx.t) pm = some leaf := by
  unfold hptwCheckedGetPmeo at found
  generalize root : hptwGetRoot ctx = result at found
  cases result with
  | none =>
    cases found
  | some pm =>
    exact ⟨pm, rfl, found⟩

omit found in
theorem hptwCheckedGetPmeo_of_root {pm : Ptr} (root : hptwGetRoot ctx = some pm) :
    hptwCheckedGetPmeo ctx mem access cpl va =
      checkedWalk ctx mem access cpl va (hptTypeMaxLvl ctx.t) pm := by
  rw [hptwCheckedGetPmeo, root]

theorem hptwCheckedGetPmeo_unchecked : hptwCheckedGetPmeo ctx mem 0#64 0 va = some leaf := by
  obtain ⟨pm, root, walk⟩ := hptwCheckedGetPmeo_some found
  rw [hptwCheckedGetPmeo_of_root root]
  exact checkedWalk_unchecked walk

theorem hptwCheckedGetPmeo_leaf :
    leaf.isPresent = true ∧ leaf.isPage = true ∧ leaf.t = ctx.t ∧ 1 ≤ leaf.lvl ∧
      leaf.lvl ≤ hptTypeMaxLvl ctx.t := by
  obtain ⟨pm, root, walk⟩ := hptwCheckedGetPmeo_some found
  exact checkedWalk_leaf walk

theorem hptwCheckedGetPmeo_congr
    (same : ∀ l, leaf.lvl ≤ l → l ≤ hptTypeMaxLvl ctx.t → hptGetPmIdx ctx.t l va' = hptGetPmIdx
      ctx.t l va)
    : hptwCheckedGetPmeo ctx mem access cpl va' = some leaf := by
  obtain ⟨pm, root, walk⟩ := hptwCheckedGetPmeo_some found
  rw [hptwCheckedGetPmeo_of_root root]
  exact checkedWalk_congr walk same

end

section

variable (found : hptwCheckedGetPmeo ctx mem 0#64 0 va = some leaf)

include found

theorem hptwGetEffectiveProts_congr
    (same : ∀ l, leaf.lvl ≤ l → l ≤ hptTypeMaxLvl ctx.t → hptGetPmIdx ctx.t l va' = hptGetPmIdx
      ctx.t l va)
    : hptwGetEffectiveProts ctx mem va' = hptwGetEffectiveProts ctx mem va := by
  obtain ⟨pm, root, walk⟩ := hptwCheckedGetPmeo_some found
  rw [hptwGetEffectiveProts, hptwGetEffectiveProts, root]
  simp only [effectiveWalk_congr walk same]

theorem hptwGetEffectiveProts_subset_leaf :
    hptwGetEffectiveProts ctx mem va &&& leaf.getprot = hptwGetEffectiveProts ctx mem va := by
  obtain ⟨pm, root, walk⟩ := hptwCheckedGetPmeo_some found
  rw [hptwGetEffectiveProts, root]
  dsimp only
  cases all : effectiveWalk ctx mem va (hptTypeMaxLvl ctx.t) pm hptProtsRwx with
  | none => exact BitVec.zero_and
  | some effective => exact effectiveWalk_subset_leaf walk all

end

end Root

end Xmhf
