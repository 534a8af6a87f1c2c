import Xmhf.Lru
import Xmhf.Nested.Ept02Shadow

/-!
# The cache of EPT02s

A CPU keeps the EPT02s of the EPT12 pointers that its L1 guest used last in an
LRU set (`ept02_cache` in `nested-x86vmx-ept12.c`). Every nested VM entry and
every VM exit to L1 looks its pointer up; a lookup that misses takes a line and
resets the EPT02 in it. `INVEPT` by L1 invalidates lines.

`ept02CacheMachine` runs the cache through nested entries, EPT violations of L2,
exits and `INVEPT`s. `Invalidated` is what an `INVEPT` of a pointer is for, and
`invept_invalidates_iff` says when `INVEPT` achieves it.
-/

namespace Xmhf

/-- The value of a cache line, with the time of the last reset. -/
structure Ept02Value where
  ept02 : Ept02Ctx
  /-- Roots of the EPT12 and EPT01 contexts. -/
  ept12Root : Pa
  ept01Root : Pa
  resetAt : Nat

structure Ept02CacheCfg where
  /-- `VMX_NESTED_MAX_ACTIVE_EPT` -/
  nlines : Nat
  /-- The page pool of each line. -/
  pool : Nat → Ept02Pool
  /-- The EPT01 pointer of the CPU. -/
  ept01 : Pa
  nonempty : 0 < nlines

/-- A running L2: the EPT12 of its VMCS12, the cache line, and the EPT pointer in
VMCS02. -/
structure NestedGuest where
  guestEptRoot : Pa
  guestEptCacheLine : Nat
  controlEptPointer : U64

/-- The cache of one CPU; `running` is none while L1 runs. The clock counts the
events so far. -/
structure Ept02Cpu where
  cache : LruSet Pa Ept02Value
  running : Option NestedGuest
  clock : Nat

/-- `xmhf_nested_arch_x86vmx_check_ept_lower_bits`: the EPT12 of a valid EPT
pointer. -/
def checkEptLowerBits (eptp12 : U64) : Option Pa :=
  if eptp12 &&& 7 ≠ 6 then none
  else if eptp12 >>> 3 &&& 7 ≠ 3 then none
  -- accessed and dirty flags, supervisor shadow-stack control
  else if eptp12 >>> 6 &&& 1 ≠ 0 then none
  else if eptp12 >>> 7 &&& 1 ≠ 0 then none
  else if eptp12 >>> 8 &&& 0xf ≠ 0 then none
  else some (eptp12 >>> 12 <<< 12)

/-- Result of a lookup: whether it hit, the line, and the value of the EPT
pointer for VMCS02. -/
structure Ept02Lookup where
  cacheHit : Bool
  cacheLine : Nat
  eptp02 : U64
  cache : LruSet Pa Ept02Value

/-- `xmhf_nested_arch_x86vmx_get_ept02` -/
def getEpt02 (cfg : Ept02CacheCfg) (s : Ept02Cpu) (ept12 : Pa) : Ept02Lookup :=
  let found := lruSetFindEvict cfg.nlines s.cache ept12
  let line := found.set found.index
  let cache :=
    if found.cacheHit then found.set
    else Function.update found.set found.index { line with
      value := ⟨ept02CtxReset (cfg.pool found.index) line.value.ept02, ept12, cfg.ept01, s.clock⟩ }
  ⟨found.cacheHit, found.index, (cache found.index).value.ept02.rootPa ||| 0x1e, cache⟩

inductive Ept02CacheOp where
  /-- `VMLAUNCH` or `VMRESUME` of a VMCS12 with this EPT pointer. An entry may
  still fail after the lookup. -/
  | enter (eptp12 : U64) (succeeds : Bool)
  /-- EPT violation of L2, while guest and host tables are `mem`. -/
  | violation (mem : Mem) (guest2Paddr qualification : U64)
  /-- VM exit to L1. -/
  | exit
  | inveptSingle (eptp12 : U64)
  | inveptGlobal
  /-- `xmhf_nested_arch_x86vmx_flush_ept02`, after a change of EPT01. -/
  | flush

/-- `xmhf_nested_arch_x86vmx_invept_single_context` -/
def inveptSingleContext (cfg : Ept02CacheCfg) (s : Ept02Cpu) (ept12 : Pa) : Ept02Cpu :=
  { s with cache := lruSetInvalidate cfg.nlines s.cache ept12, clock := s.clock + 1 }

/-- `xmhf_nested_arch_x86vmx_invept_global` -/
def inveptGlobal (cfg : Ept02CacheCfg) (s : Ept02Cpu) : Ept02Cpu :=
  { s with cache := lruSetInvalidateAll cfg.nlines s.cache, clock := s.clock + 1 }

def setEpt02 (cache : LruSet Pa Ept02Value) (i : Nat) (ept02 : Ept02Ctx) :
    LruSet Pa Ept02Value :=
  Function.update cache i { cache i with value := { (cache i).value with ept02 := ept02 } }

/-- A lookup, after which `running` becomes as given. -/
def lookupThen (cfg : Ept02CacheCfg) (s : Ept02Cpu) (ept12 : Pa)
    (running : Ept02Lookup → Option NestedGuest) : Ept02Cpu :=
  let found := getEpt02 cfg s ept12
  ⟨found.cache, running found, s.clock + 1⟩

def nestedGuest (ept12 : Pa) (found : Ept02Lookup) : NestedGuest :=
  ⟨ept12, found.cacheLine, found.eptp02⟩

def ept02CacheStep (cfg : Ept02CacheCfg) (s : Ept02Cpu) : Ept02CacheOp → Option Ept02Cpu
  | .enter eptp12 succeeds =>
    match s.running, checkEptLowerBits eptp12 with
    | some _, _ => none
    -- VM entry fails with an invalid control field
    | none, none => some s
    | none, some ept12 =>
      some (lookupThen cfg s ept12 fun found =>
        if succeeds then some (nestedGuest ept12 found) else none)
  | .violation mem guest2Paddr qualification =>
    s.running.bind fun guest =>
      let line := s.cache guest.guestEptCacheLine
      if line.valid = 0 then none
      else
        (handleEpt02Exit (cfg.pool guest.guestEptCacheLine)
          ⟨mem, line.value.ept01Root, line.value.ept12Root⟩ line.value.ept02 guest2Paddr
          qualification).map fun (_, ept02) =>
            { s with
              cache := setEpt02 s.cache guest.guestEptCacheLine ept02
              clock := s.clock + 1 }
  | .exit =>
    s.running.bind fun guest =>
      let found := getEpt02 cfg s guest.guestEptRoot
      if found.cacheHit ∧ found.eptp02 = guest.controlEptPointer then
        some (lookupThen cfg s guest.guestEptRoot fun _ => none)
      else none
  | .inveptSingle eptp12 =>
    match s.running, checkEptLowerBits eptp12 with
    | some _, _ => none
    -- `INVEPT` fails with an invalid operand
    | none, none => some s
    | none, some ept12 => some (inveptSingleContext cfg s ept12)
  | .inveptGlobal =>
    if s.running.isSome then none else some (inveptGlobal cfg s)
  | .flush =>
    let flushed := inveptGlobal cfg s
    match s.running with
    | none => some flushed
    | some guest =>
      some (lookupThen cfg flushed guest.guestEptRoot fun found =>
        some (nestedGuest guest.guestEptRoot found))

/-- `xmhf_nested_arch_x86vmx_ept_init` leaves all lines free; their values are
what the pools held. -/
def ept02CacheMachine (cfg : Ept02CacheCfg) : Machine Ept02Cpu Ept02CacheOp where
  init s := ∃ lines : LruSet Pa Ept02Value, (∀ i, (lines i).value.resetAt = 0) ∧
    s = ⟨lruSetInvalidateAll cfg.nlines lines, none, 1⟩
  step := ept02CacheStep cfg

/-! ## What an `INVEPT` is for -/

def Emptied (pool : Ept02Pool) (ctx : Ept02Ctx) : Prop :=
  ∀ va, hptwCheckedGetPmeo (ept02HptwCtx pool ctx.rootPa).toHptwCtx ctx.mem 0#64 0 va = none

/-- The operation is a VM entry that looks the EPT12 up. -/
def Enters (ept12 : Pa) : Ept02CacheOp → Prop
  | .enter eptp12 _ => checkEptLowerBits eptp12 = some ept12
  | _ => False

def Ept02Lookup.line (found : Ept02Lookup) : LruLine Pa Ept02Value := found.cache found.cacheLine

/-- From the state on, the EPT02s built so far are not used for the EPT12. -/
structure Invalidated (cfg : Ept02CacheCfg) (s : Ept02Cpu) (ept12 : Pa) : Prop where
  /-- The next lookup misses and returns an emptied EPT02. -/
  next_misses : ∀ ops s', (∀ o ∈ ops, ¬ Enters ept12 o) →
    (ept02CacheMachine cfg).run s ops = some s' →
    (getEpt02 cfg s' ept12).cacheHit = false ∧ Emptied (cfg.pool (getEpt02 cfg s' ept12).cacheLine)
        (getEpt02 cfg s' ept12).line.value.ept02
  /-- No lookup, now or later, returns an EPT02 last reset before. -/
  never_stale : ∀ ops s', (ept02CacheMachine cfg).run s ops = some s' →
    (getEpt02 cfg s' ept12).cacheLine < cfg.nlines ∧
      s.clock ≤ (getEpt02 cfg s' ept12).line.value.resetAt

theorem ept02CtxReset_emptied (pool : Ept02Pool) (ctx : Ept02Ctx) :
    Emptied pool (ept02CtxReset pool ctx) := by
  intro va
  rcases found : hptwCheckedGetPmeo (ept02HptwCtx pool (ept02CtxReset pool ctx).rootPa).toHptwCtx
      (ept02CtxReset pool ctx).mem 0#64 0 va with _ | leaf
  · rfl
  · -- A reset EPT02 is faithful to any source tables, also to absent ones.
    rcases (ept02CtxReset_inv pool ⟨fun _ _ => 0#64, nullPtr, nullPtr⟩ ctx).faithful found with
      ⟨leaf12, -, found12, -⟩
    rcases hptwCheckedGetPmeo_some found12 with ⟨pm, root, -⟩
    cases root

/-! ## One lookup -/

section

variable {cfg : Ept02CacheCfg} {s s' : Ept02Cpu} {ept12 key : Pa}

theorem getEpt02_cache (j : Nat) : (getEpt02 cfg s key).cache j =
      ⟨((lruSetFindEvict cfg.nlines s.cache key).set j).valid,
        ((lruSetFindEvict cfg.nlines s.cache key).set j).key,
        if (getEpt02 cfg s key).cacheHit = false ∧ j = (getEpt02 cfg s key).cacheLine then
          ⟨ept02CtxReset (cfg.pool j) (s.cache j).value.ept02, key, cfg.ept01, s.clock⟩
        else (s.cache j).value⟩ := by
  have value : ∀ k, ((lruSetFindEvict cfg.nlines s.cache key).set k).value = (s.cache k).value :=
    fun k => lruSetFindEvict_value k
  unfold getEpt02
  generalize lruSetFindEvict cfg.nlines s.cache key = found at value ⊢
  rcases found with ⟨index, hit, set⟩
  dsimp only at value ⊢
  cases hit with
  | false =>
    rw [if_neg Bool.false_ne_true]
    rcases eq_or_ne j index with rfl | other
    · rw [Function.update_self, if_pos ⟨rfl, rfl⟩, value]
    · rw [Function.update_of_ne other, if_neg fun taken => other taken.2, ← value]
  | true => rw [if_pos rfl, if_neg fun taken => Bool.false_ne_true taken.1.symm, ← value]

theorem getEpt02_hits {j : Nat} :
    LruHits cfg.nlines (getEpt02 cfg s key).cache ept12 j ↔
      LruHits cfg.nlines (lruSetFindEvict cfg.nlines s.cache key).set ept12 j := by
  unfold LruHits
  rw [getEpt02_cache]

theorem getEpt02_resetAt (j : Nat) : ((getEpt02 cfg s key).cache j).value.resetAt =
      if (getEpt02 cfg s key).cacheHit = false ∧ j = (getEpt02 cfg s key).cacheLine then s.clock
      else (s.cache j).value.resetAt := by
  rw [getEpt02_cache]
  split <;> rfl

theorem getEpt02_ordered (ordered : LruOrdered cfg.nlines s.cache) :
    (getEpt02 cfg s key).cacheLine < cfg.nlines ∧
      LruOrdered cfg.nlines (getEpt02 cfg s key).cache := by
  rcases ordered.findEvict cfg.nonempty key with ⟨inside, kept⟩
  refine ⟨inside, ?_, ?_⟩
  · intro j insideJ
    rw [getEpt02_cache]
    exact kept.bounded j insideJ
  · intro i insideI j insideJ
    rw [getEpt02_cache, getEpt02_cache]
    exact kept.distinct i insideI j insideJ

theorem getEpt02_emptied (miss : (getEpt02 cfg s key).cacheHit = false) :
    Emptied (cfg.pool (getEpt02 cfg s key).cacheLine)
      (getEpt02 cfg s key).line.value.ept02 := by
  rw [Ept02Lookup.line, getEpt02_cache, if_pos ⟨miss, rfl⟩]
  exact ept02CtxReset_emptied _ _

end

section

variable (cache : LruSet Pa Ept02Value) (i j : Nat) (ept02 : Ept02Ctx)

theorem setEpt02_valid : (setEpt02 cache i ept02 j).valid = (cache j).valid := by
  rcases eq_or_ne j i with rfl | other
  · rw [setEpt02, Function.update_self]
  · rw [setEpt02, Function.update_of_ne other]

theorem setEpt02_key : (setEpt02 cache i ept02 j).key = (cache j).key := by
  rcases eq_or_ne j i with rfl | other
  · rw [setEpt02, Function.update_self]
  · rw [setEpt02, Function.update_of_ne other]

theorem setEpt02_resetAt :
    (setEpt02 cache i ept02 j).value.resetAt = (cache j).value.resetAt := by
  rcases eq_or_ne j i with rfl | other
  · rw [setEpt02, Function.update_self]
  · rw [setEpt02, Function.update_of_ne other]

end

/-! ## What a step does to the cache -/

/-- The moves of which the steps consist; lookups are of allowed keys. -/
inductive CacheMove (cfg : Ept02CacheCfg) (allowed : Pa → Prop) (s : Ept02Cpu) : Ept02Cpu → Prop
  where
  | lookup (key : Pa) (permitted : allowed key) (running : Ept02Lookup → Option NestedGuest) :
      CacheMove cfg allowed s (lookupThen cfg s key running)
  | invalidate (key : Pa) : CacheMove cfg allowed s (inveptSingleContext cfg s key)
  | invalidateAll : CacheMove cfg allowed s (inveptGlobal cfg s)
  | fill (i : Nat) (ept02 : Ept02Ctx) :
      CacheMove cfg allowed s { s with cache := setEpt02 s.cache i ept02, clock := s.clock + 1 }
  | idle : CacheMove cfg allowed s s

def RunsAllowed (allowed : Pa → Prop) (s : Ept02Cpu) : Prop :=
  ∀ guest, s.running = some guest → allowed guest.guestEptRoot

theorem ept02CacheStep_moves {cfg : Ept02CacheCfg} {allowed : Pa → Prop} {s s' : Ept02Cpu}
    {o : Ept02CacheOp} (enters : ∀ key, Enters key o → allowed key)
    (runs : RunsAllowed allowed s) (next : ept02CacheStep cfg s o = some s') :
    (∃ mid, CacheMove cfg allowed s mid ∧ CacheMove cfg allowed mid s') ∧
      RunsAllowed allowed s' := by
  cases o with
  | enter eptp12 succeeds =>
    simp only [ept02CacheStep] at next
    split at next
    · cases next
    · cases next
      exact ⟨⟨s, .idle, .idle⟩, runs⟩
    · next ept12 _ valid =>
      cases next
      have permitted := enters ept12 valid
      refine ⟨⟨_, .lookup ept12 permitted _, .idle⟩, ?_⟩
      intro guest isGuest
      dsimp only [lookupThen] at isGuest
      split at isGuest
      · cases isGuest
        exact permitted
      · cases isGuest
  | violation mem guest2Paddr qualification =>
    rcases Option.bind_eq_some_iff.mp next with ⟨guest, running, filled⟩
    dsimp only at filled
    split at filled
    · cases filled
    · rcases Option.map_eq_some_iff.mp filled with ⟨⟨exit, ept02⟩, -, rfl⟩
      exact ⟨⟨_, .fill guest.guestEptCacheLine ept02, .idle⟩, runs⟩
  | exit =>
    rcases Option.bind_eq_some_iff.mp next with ⟨guest, running, left⟩
    dsimp only at left
    split at left
    · cases left
      refine ⟨⟨_, .lookup guest.guestEptRoot (runs guest running) _, .idle⟩, ?_⟩
      intro guest' isGuest
      cases isGuest
    · cases left
  | inveptSingle eptp12 =>
    simp only [ept02CacheStep] at next
    split at next
    · cases next
    · cases next
      exact ⟨⟨s, .idle, .idle⟩, runs⟩
    · next ept12 _ _ =>
      cases next
      exact ⟨⟨_, .invalidate ept12, .idle⟩, runs⟩
  | inveptGlobal =>
    simp only [ept02CacheStep] at next
    split at next
    · cases next
    · cases next
      exact ⟨⟨_, .invalidateAll, .idle⟩, runs⟩
  | flush =>
    simp only [ept02CacheStep] at next
    split at next
    · cases next
      exact ⟨⟨_, .invalidateAll, .idle⟩, runs⟩
    · next guest running =>
      cases next
      have permitted := runs guest running
      refine ⟨⟨_, .invalidateAll, .lookup guest.guestEptRoot permitted _⟩, ?_⟩
      intro guest' isGuest
      cases isGuest
      exact permitted

/-! ## Invariants of the moves -/

/-- The counts are in order and the resets lie in the past. -/
structure CacheInv (cfg : Ept02CacheCfg) (s : Ept02Cpu) : Prop where
  ordered : LruOrdered cfg.nlines s.cache
  past : ∀ i, (s.cache i).value.resetAt < s.clock

/-- The lines that a lookup of `ept12` can hit were reset at `t` or later. -/
structure FreshSince (cfg : Ept02CacheCfg) (ept12 : Pa) (t : Nat) (s : Ept02Cpu) : Prop where
  now : t ≤ s.clock
  fresh : ∀ i < cfg.nlines, LruHits cfg.nlines s.cache ept12 i → t ≤ (s.cache i).value.resetAt

/-- A lookup of `ept12` misses. -/
def ColdFor (cfg : Ept02CacheCfg) (ept12 : Pa) (s : Ept02Cpu) : Prop :=
  ∀ i < cfg.nlines, ¬ LruHits cfg.nlines s.cache ept12 i

section

variable {cfg : Ept02CacheCfg} {allowed : Pa → Prop} {s s' : Ept02Cpu} {ept12 : Pa} {t : Nat}

theorem LruHits.of_invalidate {key : Pa} {i : Nat}
    (hits : LruHits cfg.nlines (lruSetInvalidate cfg.nlines s.cache key) ept12 i) :
    LruHits cfg.nlines s.cache ept12 i := by
  rw [LruHits, lruSetInvalidate_apply] at hits
  split at hits
  · exact absurd rfl hits.1
  · exact hits

theorem LruHits.of_fill {i j : Nat} {ept02 : Ept02Ctx}
    (hits : LruHits cfg.nlines (setEpt02 s.cache i ept02) ept12 j) :
    LruHits cfg.nlines s.cache ept12 j := by
  rw [LruHits, setEpt02_valid, setEpt02_key] at hits
  exact hits

theorem CacheInv.move (inv : CacheInv cfg s) (move : CacheMove cfg allowed s s') :
    CacheInv cfg s' := by
  cases move with
  | lookup key permitted running =>
    refine ⟨(getEpt02_ordered inv.ordered).2, fun i => ?_⟩
    have past := inv.past i
    dsimp only [lookupThen]
    rw [getEpt02_resetAt]
    split <;> omega
  | invalidate key =>
    refine ⟨inv.ordered.invalidate key, fun i => ?_⟩
    have past := inv.past i
    dsimp only [inveptSingleContext]
    rw [lruSetInvalidate_apply]
    split <;> exact Nat.lt_succ_of_lt past
  | invalidateAll =>
    refine ⟨.invalidateAll _ _, fun i => ?_⟩
    have past := inv.past i
    dsimp only [inveptGlobal, lruSetInvalidateAll]
    split <;> exact Nat.lt_succ_of_lt past
  | fill i ept02 =>
    refine ⟨⟨fun j inside => ?_, fun j insideJ k insideK => ?_⟩, fun j => ?_⟩
    · rw [setEpt02_valid]
      exact inv.ordered.bounded j inside
    · rw [setEpt02_valid, setEpt02_valid]
      exact inv.ordered.distinct j insideJ k insideK
    · dsimp only
      rw [setEpt02_resetAt]
      exact Nat.lt_succ_of_lt (inv.past j)
  | idle => exact inv

theorem FreshSince.move (inv : CacheInv cfg s) (fresh : FreshSince cfg ept12 t s)
    (move : CacheMove cfg allowed s s') : FreshSince cfg ept12 t s' := by
  have now := fresh.now
  cases move with
  | lookup key permitted running =>
    refine ⟨Nat.le_succ_of_le now, fun i inside hits => ?_⟩
    dsimp only [lookupThen] at hits ⊢
    rw [getEpt02_hits] at hits
    rw [getEpt02_resetAt]
    split
    · exact now
    · next kept =>
      rcases inv.ordered.hits_of_findEvict inside hits with ⟨rfl, rfl⟩ | ⟨-, before⟩
      · -- The line used was not reset, so it had been found.
        refine fresh.fresh _ inside (lruSetFindEvict_hit ?_)
        rw [← Bool.not_eq_false]
        exact fun miss => kept ⟨miss, rfl⟩
      · exact fresh.fresh i inside before
  | invalidate key =>
    refine ⟨Nat.le_succ_of_le now, fun i inside hits => ?_⟩
    have before := fresh.fresh i inside hits.of_invalidate
    dsimp only [inveptSingleContext]
    rw [lruSetInvalidate_apply]
    split <;> exact before
  | invalidateAll =>
    refine ⟨Nat.le_succ_of_le now, fun i inside hits => ?_⟩
    exact absurd (lruSetInvalidateAll_valid inside) hits.1
  | fill i ept02 =>
    refine ⟨Nat.le_succ_of_le now, fun j inside hits => ?_⟩
    rw [setEpt02_resetAt]
    exact fresh.fresh j inside hits.of_fill
  | idle => exact fresh

theorem ColdFor.move (inv : CacheInv cfg s) (cold : ColdFor cfg ept12 s)
    (move : CacheMove cfg (· ≠ ept12) s s') : ColdFor cfg ept12 s' := by
  intro i inside hits
  cases move with
  | lookup key permitted running =>
    dsimp only [lookupThen] at hits
    rw [getEpt02_hits] at hits
    rcases inv.ordered.hits_of_findEvict inside hits with ⟨-, same⟩ | ⟨-, before⟩
    · exact permitted same.symm
    · exact cold i inside before
  | invalidate key => exact cold i inside hits.of_invalidate
  | invalidateAll => exact hits.1 (lruSetInvalidateAll_valid inside)
  | fill j ept02 => exact cold i inside hits.of_fill
  | idle => exact cold i inside hits

end

/-! ## Runs -/

theorem runsAllowed_true (s : Ept02Cpu) : RunsAllowed (fun _ => True) s := fun _ _ => trivial

theorem CacheInv.step {cfg : Ept02CacheCfg} {s s' : Ept02Cpu} {o : Ept02CacheOp}
    (inv : CacheInv cfg s) (next : ept02CacheStep cfg s o = some s') : CacheInv cfg s' := by
  rcases ept02CacheStep_moves (fun _ _ => trivial) (runsAllowed_true s) next with
    ⟨⟨mid, first, second⟩, -⟩
  exact (inv.move first).move second

theorem cacheInv_of_reachable {cfg : Ept02CacheCfg} {s : Ept02Cpu}
    (reached : (ept02CacheMachine cfg).Reachable s) : CacheInv cfg s := by
  refine reached.invariant ?_ ?_
  · intro s start
    rcases start with ⟨lines, never, rfl⟩
    refine ⟨.invalidateAll _ _, fun i => ?_⟩
    dsimp only [lruSetInvalidateAll]
    split <;> exact (never i).trans_lt Nat.zero_lt_one
  · intro s o s' inv _ next
    exact inv.step next

theorem FreshSince.run {cfg : Ept02CacheCfg} {s s' : Ept02Cpu} {ept12 : Pa} {t : Nat}
    {ops : List Ept02CacheOp} (inv : CacheInv cfg s) (fresh : FreshSince cfg ept12 t s)
    (run : (ept02CacheMachine cfg).run s ops = some s') :
    CacheInv cfg s' ∧ FreshSince cfg ept12 t s' := by
  refine Machine.run_invariant
    (P := fun s => CacheInv cfg s ∧ FreshSince cfg ept12 t s) ?_ (fun _ _ => trivial)
    ⟨inv, fresh⟩ run
  intro s o s' both _ next
  rcases both with ⟨inv, fresh⟩
  rcases ept02CacheStep_moves (fun _ _ => trivial) (runsAllowed_true s) next with
    ⟨⟨mid, first, second⟩, -⟩
  exact ⟨inv.step next, (fresh.move inv first).move (inv.move first) second⟩

theorem ColdFor.run {cfg : Ept02CacheCfg} {s s' : Ept02Cpu} {ept12 : Pa}
    {ops : List Ept02CacheOp} (inv : CacheInv cfg s) (cold : ColdFor cfg ept12 s)
    (runs : RunsAllowed (· ≠ ept12) s) (others : ∀ o ∈ ops, ¬ Enters ept12 o)
    (run : (ept02CacheMachine cfg).run s ops = some s') : ColdFor cfg ept12 s' := by
  refine (Machine.run_invariant
    (P := fun s => CacheInv cfg s ∧ ColdFor cfg ept12 s ∧ RunsAllowed (· ≠ ept12) s) ?_ others
    ⟨inv, cold, runs⟩ run).2.1
  intro s o s' all other next
  rcases all with ⟨inv, cold, runs⟩
  have enters : ∀ key, Enters key o → key ≠ ept12 := by
    intro key enters same
    rw [same] at enters
    exact other enters
  rcases ept02CacheStep_moves enters runs next with
    ⟨⟨mid, first, second⟩, runs'⟩
  exact ⟨inv.step next, (cold.move inv first).move (inv.move first) second, runs'⟩

theorem Invalidated.of_cold {cfg : Ept02CacheCfg} {s : Ept02Cpu} {ept12 : Pa}
    (inv : CacheInv cfg s) (cold : ColdFor cfg ept12 s) (root : s.running = none) :
    Invalidated cfg s ept12 := by
  have runs : RunsAllowed (· ≠ ept12) s := by
    intro guest running
    rw [root] at running
    cases running
  constructor
  · intro ops s' others run
    have miss : (getEpt02 cfg s' ept12).cacheHit = false :=
      lruSetFindEvict_miss.mpr (cold.run inv runs others run)
    exact ⟨miss, getEpt02_emptied miss⟩
  · intro ops s' run
    have fresh : FreshSince cfg ept12 s.clock s :=
      ⟨le_rfl, fun i inside hits => absurd hits (cold i inside)⟩
    rcases fresh.run inv run with ⟨inv', fresh'⟩
    refine ⟨(getEpt02_ordered inv'.ordered).1, ?_⟩
    rw [Ept02Lookup.line, getEpt02_resetAt]
    split
    · exact fresh'.now
    · next kept =>
      refine fresh'.fresh _ (getEpt02_ordered inv'.ordered).1 (lruSetFindEvict_hit ?_)
      rw [← Bool.not_eq_false]
      exact fun miss => kept ⟨miss, rfl⟩

/-! ## The two `INVEPT`s -/

def LineOf (s : Ept02Cpu) (ept12 : Pa) (i : Nat) : Prop :=
  (s.cache i).valid ≠ 0 ∧ (s.cache i).key = ept12

/-- A line of the EPT12 that stands behind another one is the line to be evicted
next. -/
def LaterLinesOldest (cfg : Ept02CacheCfg) (s : Ept02Cpu) (ept12 : Pa) : Prop :=
  ∀ j < cfg.nlines, ∀ i < j, LineOf s ept12 i ∧ LineOf s ept12 j → (s.cache j).valid = cfg.nlines

instance (s : Ept02Cpu) (ept12 : Pa) : DecidablePred (LineOf s ept12) := fun _ =>
  inferInstanceAs (Decidable (_ ∧ _))

instance (cfg : Ept02CacheCfg) (s : Ept02Cpu) (ept12 : Pa) :
    Decidable (LaterLinesOldest cfg s ept12) :=
  inferInstanceAs (Decidable (∀ j < cfg.nlines, ∀ i < j, _ → _))

theorem coldFor_inveptSingle_iff (cfg : Ept02CacheCfg) (s : Ept02Cpu) (ept12 : Pa) :
    ColdFor cfg ept12 (inveptSingleContext cfg s ept12) ↔ LaterLinesOldest cfg s ept12 := by
  constructor
  · intro cold j inside i before lines
    rcases lines with ⟨⟨liveI, keyI⟩, liveJ, keyJ⟩
    by_contra young
    refine cold j inside ?_
    have kept : lruSetFindImmutable cfg.nlines s.cache ept12 ≠ some j := by
      intro found
      exact (lruSetFindImmutable_some found).2 i before liveI keyI
    dsimp only [LruHits, inveptSingleContext]
    rw [lruSetInvalidate_apply, if_neg kept]
    exact ⟨liveJ, young, keyJ⟩
  · intro oldest j inside hits
    dsimp only [LruHits, inveptSingleContext] at hits
    rw [lruSetInvalidate_apply] at hits
    split at hits
    · exact hits.1 rfl
    · next kept =>
      rcases found : lruSetFindImmutable cfg.nlines s.cache ept12 with _ | i
      · exact lruSetFindImmutable_none found inside hits.1 hits.2.2
      · rcases lruSetFindImmutable_some found with ⟨⟨-, liveI, keyI⟩, first⟩
        have behind : i < j := by
          rcases Nat.lt_trichotomy i j with behind | rfl | before
          · exact behind
          · exact absurd found kept
          · exact absurd hits.2.2 (first j before hits.1)
        exact hits.2.1 (oldest j inside i behind ⟨⟨liveI, keyI⟩, hits.1, hits.2.2⟩)

theorem coldFor_inveptGlobal (cfg : Ept02CacheCfg) (s : Ept02Cpu) (ept12 : Pa) :
    ColdFor cfg ept12 (inveptGlobal cfg s) := by
  intro i inside hits
  exact hits.1 (lruSetInvalidateAll_valid inside)

/-- In every reachable state, a single-context `INVEPT` invalidates the EPT02s of
its pointer exactly if every live line of the pointer behind the first is the one
to be evicted next; a global `INVEPT` always does. -/
theorem invept_invalidates_iff (cfg : Ept02CacheCfg) {s : Ept02Cpu}
    (reached : (ept02CacheMachine cfg).Reachable s) (root : s.running = none) (ept12 : Pa) :
    (Invalidated cfg (inveptSingleContext cfg s ept12) ept12 ↔ LaterLinesOldest cfg s ept12) ∧
      Invalidated cfg (inveptGlobal cfg s) ept12 := by
  have inv := cacheInv_of_reachable reached
  refine ⟨⟨?_, ?_⟩, ?_⟩
  · intro invalidated
    refine (coldFor_inveptSingle_iff cfg s ept12).mp ?_
    have miss := (invalidated.next_misses [] _ (by simp) rfl).1
    exact lruSetFindEvict_miss.mp miss
  · intro oldest
    exact .of_cold (@CacheInv.move cfg (fun _ => True) s _ inv (.invalidate ept12))
      ((coldFor_inveptSingle_iff cfg s ept12).mpr oldest) root
  · exact .of_cold (@CacheInv.move cfg (fun _ => True) s _ inv .invalidateAll)
      (coldFor_inveptGlobal cfg s ept12) root

def sampleCacheCfg : Ept02CacheCfg where
  nlines := 2
  pool _ := samplePool
  ept01 := 0x1000
  nonempty := by decide

def sampleCpu : Ept02Cpu :=
  ⟨lruSetInvalidateAll 2 fun _ => ⟨0, 0, ⟨⟨fun _ => false, fun _ _ => 0, 0⟩, 0, 0, 0⟩⟩, none, 1⟩

theorem sampleCpu_starts : (ept02CacheMachine sampleCacheCfg).Reachable sampleCpu :=
  .init ⟨_, fun _ => rfl, rfl⟩

def visits (eptps : List U64) : List Ept02CacheOp :=
  eptps.flatMap fun eptp => [.enter eptp true, .exit]

theorem invept_invalidates_two_visits :
    ∃ s, (ept02CacheMachine sampleCacheCfg).Reachable s ∧ s.running = none ∧
      Invalidated sampleCacheCfg (inveptSingleContext sampleCacheCfg s 0x1000) 0x1000 := by
  have run : ((ept02CacheMachine sampleCacheCfg).run sampleCpu (visits [0x101e, 0x201e])).map
      (fun s => (s.running.isNone, decide (LaterLinesOldest sampleCacheCfg s 0x1000))) =
      some (true, true) := by
    decide +kernel
  rcases Option.map_eq_some_iff.mp run with ⟨s, reached, outcome⟩
  rcases Prod.mk.inj outcome with ⟨root, oldest⟩
  have reachable := sampleCpu_starts.run reached
  have root := Option.isNone_iff_eq_none.mp root
  exact ⟨s, reachable, root,
    (invept_invalidates_iff sampleCacheCfg reachable root 0x1000).1.mpr (of_decide_eq_true oldest)⟩

/-- With three pointers on two lines: the third visit takes a line, its `INVEPT`
frees it, and the second pointer, whose own line is the one to be evicted next,
gets that line too. The `INVEPT` of the second pointer then finds its old line. -/
theorem invept_leaves_second_line :
    ∃ s, (ept02CacheMachine sampleCacheCfg).Reachable s ∧ s.running = none ∧
      ¬ Invalidated sampleCacheCfg (inveptSingleContext sampleCacheCfg s 0x2000) 0x2000 := by
  have run : ((ept02CacheMachine sampleCacheCfg).run sampleCpu
      (visits [0x101e, 0x201e, 0x301e] ++ .inveptSingle 0x301e :: visits [0x201e])).map
      (fun s => (s.running.isNone,
        (getEpt02 sampleCacheCfg (inveptSingleContext sampleCacheCfg s 0x2000) 0x2000).cacheHit)) =
      some (true, true) := by
    decide +kernel
  rcases Option.map_eq_some_iff.mp run with ⟨s, reached, outcome⟩
  rcases Prod.mk.inj outcome with ⟨root, hit⟩
  refine ⟨s, sampleCpu_starts.run reached, Option.isNone_iff_eq_none.mp root, ?_⟩
  intro invalidated
  have miss := (invalidated.next_misses [] _ (by simp) rfl).1
  rw [hit] at miss
  cases miss

end Xmhf
