import Xmhf.Nested.LoadedVmcs

/-!
# L2 and stale EPT02s

The places of the handlers (`NestedStmt.after`) say which VMCS is loaded where flushes are
not blocked. From them follows that a flush effect in L2 operation rewrites VMCS02, unless
the request arrives while `_update_nested_nmi` has the shadow VMCS loaded, and that L2 runs
on a live EPT02, unless a request arrives while the CPU's own effect has looked an EPT02 up
and not written its pointer yet.
-/

namespace Xmhf

open FlushCpu (flushEpt02 flushEpt02Own stage_flushEpt02)
open Option (ite_none_right_eq_some map_eq_some_iff)

variable {flush : FlushCpu}

/-! ## Live lines of the cache -/

/-- The live lines hold EPT02s rooted in the first page of their pools. -/
def Rooted (cfg : Ept02CacheCfg) (cache : LruSet Pa Ept02Value) : Prop :=
  ∀ i, (cache i).valid ≠ 0 → (cache i).value.ept02.rootPa = (cfg.pool i).page 0

/-- The line is live, belongs to the EPT12, and its EPT02 has the pointer. -/
structure LiveLine (cache : LruSet Pa Ept02Value) (i : Nat) (ept12 : Pa) (eptp : U64) : Prop where
  valid : (cache i).valid ≠ 0
  key : (cache i).key = ept12
  pointer : eptp = (cache i).value.ept02.rootPa ||| 0x1e

variable {ept02 : Ept02Ctx} {todo : List NestedStmt} {stmt : NestedStmt}
  {guest2Paddr qualification : U64}

section

variable {cfg : Ept02CacheCfg} {s : Ept02Cpu} {ept12 : Pa} {eptp : U64} {i : Nat}
  {cache : LruSet Pa Ept02Value}

theorem ept02CtxReset_rootPa (pool : Ept02Pool) (ctx : Ept02Ctx) :
    (ept02CtxReset pool ctx).rootPa = pool.page 0 := by
  have first : (List.range pool.size).find? (fun _ => true) = some 0 := by
    obtain ⟨n, size⟩ := Nat.exists_eq_succ_of_ne_zero pool.nonempty.ne'
    rw [size, List.range_succ_eq_map]
    rfl
  unfold ept02CtxReset ept02Gzp
  simp only [Bool.not_false, first]

theorem handleEpt02Exit_rootPa {pool : Ept02Pool} {src : Ept12Ctx} {ctx ctx' : Ept02Ctx}
    {exit : Ept02Exit} (root : ctx.rootPa = pool.page 0)
    (run : handleEpt02Exit pool src ctx guest2Paddr qualification = some (exit, ctx')) :
    ctx'.rootPa = pool.page 0 := by
  have insert : ∀ {pmeo02 filled}, insertEpt02 pool ctx pmeo02 guest2Paddr = some filled →
      filled.rootPa = pool.page 0 := by
    intro pmeo02 filled inserted
    unfold insertEpt02 at inserted
    split at inserted
    · cases inserted
      exact root
    · dsimp only at inserted
      split at inserted
      · cases inserted
        exact ept02CtxReset_rootPa _ _
      · cases inserted
  unfold handleEpt02Exit walkEpt02 at run
  dsimp only at run
  split at run
  · cases run
  split at run
  · cases run
    exact root
  split at run
  · split at run <;> cases run
    exact root
  split at run
  · cases run
    exact root
  split at run
  · next inserted =>
    cases run
    exact insert inserted
  · cases run

theorem Rooted.getEpt02 (rooted : Rooted cfg s.cache) :
    Rooted cfg (getEpt02 cfg s ept12).cache := by
  intro j live
  rw [getEpt02_cache] at live ⊢
  split
  · exact ept02CtxReset_rootPa _ _
  · next kept =>
    refine rooted j ?_
    rcases eq_or_ne j (lruSetFindEvict cfg.nlines s.cache ept12).index with rfl | other
    · -- The line used was not reset, so it had been found.
      refine (lruSetFindEvict_hit ?_).1
      rw [← Bool.not_eq_false]
      exact fun miss => kept ⟨miss, rfl⟩
    · exact (lruSetFindEvict_other other).1.mp live

theorem Rooted.invalidateAll (rooted : Rooted cfg cache) (n : Nat) :
    Rooted cfg (lruSetInvalidateAll n cache) := by
  intro j live
  unfold lruSetInvalidateAll at live ⊢
  split at live
  · exact absurd rfl live
  · next outside =>
    rw [if_neg outside]
    exact rooted j live

theorem Rooted.invalidate (rooted : Rooted cfg cache) (n : Nat) (key : Pa) :
    Rooted cfg (lruSetInvalidate n cache key) := by
  intro j live
  rw [lruSetInvalidate_apply] at live ⊢
  split at live
  · exact absurd rfl live
  · next other =>
    rw [if_neg other]
    exact rooted j live

theorem getEpt02_live : LiveLine (getEpt02 cfg s ept12).cache (getEpt02 cfg s ept12).cacheLine ept12
      (getEpt02 cfg s ept12).eptp02 := by
  obtain ⟨valid, key⟩ := @lruSetFindEvict_used _ _ _ cfg.nlines s.cache ept12
  refine ⟨?_, ?_, rfl⟩
  · rw [getEpt02_cache]
    exact valid ▸ Nat.one_ne_zero
  · rw [getEpt02_cache]
    exact key

theorem LiveLine.getEpt02 (live : LiveLine s.cache i ept12 eptp)
    (hit : (getEpt02 cfg s ept12).cacheHit = true) :
    LiveLine (Xmhf.getEpt02 cfg s ept12).cache i ept12 eptp := by
  have used := @lruSetFindEvict_used _ _ _ cfg.nlines s.cache ept12
  have kept : ¬ ((Xmhf.getEpt02 cfg s ept12).cacheHit = false ∧
      i = (Xmhf.getEpt02 cfg s ept12).cacheLine) := by
    rw [hit]
    exact fun miss => Bool.noConfusion miss.1
  rcases eq_or_ne i (lruSetFindEvict cfg.nlines s.cache ept12).index with same | other
  · refine ⟨?_, ?_, ?_⟩
    · rw [getEpt02_cache, same]
      exact used.1 ▸ Nat.one_ne_zero
    · rw [getEpt02_cache, same]
      exact used.2
    · rw [getEpt02_cache, if_neg kept]
      exact live.pointer
  · obtain ⟨alive, key⟩ := lruSetFindEvict_other other
    refine ⟨?_, ?_, ?_⟩
    · rw [getEpt02_cache]
      exact alive.mpr live.valid
    · rw [getEpt02_cache]
      exact key.trans live.key
    · rw [getEpt02_cache, if_neg kept]
      exact live.pointer

theorem LiveLine.fill (rooted : Rooted cfg cache) (live : LiveLine cache i ept12 eptp)
    (root : ept02.rootPa = (cfg.pool i).page 0) :
    LiveLine (setEpt02 cache i ept02) i ept12 eptp := by
  refine ⟨?_, ?_, ?_⟩
  · rw [setEpt02_valid]
    exact live.valid
  · rw [setEpt02_key]
    exact live.key
  · rw [live.pointer, rooted i live.valid, setEpt02, Function.update_self, root]

theorem Rooted.fill (rooted : Rooted cfg cache) (root : ept02.rootPa = (cfg.pool i).page 0) :
    Rooted cfg (setEpt02 cache i ept02) := by
  intro j live
  rw [setEpt02_valid] at live
  rcases eq_or_ne j i with rfl | other
  · rw [setEpt02, Function.update_self]
    exact root
  · rw [setEpt02, Function.update_of_ne other]
    exact rooted j live

end

/-! ## The invariant -/

/-- The places inside a blocked section, and on the way into it. -/
def FlushStage.blocks : FlushStage → Bool
  | .blocking | .blocked => true
  | _ => false

namespace FlushCpu

variable {s s' : FlushCpu}

theorem blocks_advance (step : s.advance = some s') : s'.stage.blocks = s.stage.blocks := by
  obtain ⟨stage, disable, visited, log⟩ := s
  cases stage with
  | outside | blocked => cases step
  | testVisited =>
    cases step
    split <;> rfl
  | _ =>
    cases step
    rfl

theorem Inv.pending_advance (inv : s.Inv) (step : s.advance = some s')
    (unapplied : ∀ flags, s.stage ≠ .startEffect flags) :
    s'.visited ||| s'.stage.taken = s.visited ||| s.stage.taken := by
  obtain ⟨stage, disable, visited, log⟩ := s
  cases stage with
  | outside | blocked => cases step
  | startEffect flags => exact absurd rfl (unapplied flags)
  | testVisited =>
    cases step
    split <;> rfl
  | readVisited =>
    cases step
    exact BitVec.or_self.trans BitVec.or_zero.symm
  | clearVisited flags =>
    cases step
    have all : visited = flags := inv.taken flags rfl
    subst all
    exact BitVec.zero_or.trans BitVec.or_self.symm
  | _ =>
    cases step
    rfl

end FlushCpu

namespace L2Cpu

/-- The pointer is that of EPT01, or of the live EPT02 of the running L2. -/
def Fits (s : L2Cpu) (eptp : U64) : Prop :=
  match s.guestEptRoot with
  | none => eptp = s.eptp01
  | some ept12 => LiveLine s.cache s.guestEptCacheLine ept12 eptp

def Fresh (s : L2Cpu) : Prop := s.Fits (s.eptp (.vmcs02 s.current))

/-- `_update_nested_nmi` has the shadow VMCS loaded. -/
def shadowLoaded (s : L2Cpu) : Bool :=
  match s.todo with
  | .nmiReadInjection :: _ | .nmiLoadVmcs02 :: _ => true
  | _ => false

def pending (s : L2Cpu) : U32 := s.flush.visited ||| s.flush.stage.taken

/-- The EPT pointer is going to be rewritten before L2 runs. -/
def Due (s : L2Cpu) : Prop :=
  flushRewalks s.pending = true ∨ s.found ≠ none ∨
    ∃ flags todo, s.todo = .flush flags :: todo ∧ flushRewalks flags = true

/-- The CPU is at the place. In L2 operation it has the VMCS02 loaded, but in blocked
sections and while `_update_nested_nmi` reads the shadow VMCS. -/
structure At (s : L2Cpu) (a : Place) : Prop where
  mode : s.mode = .nonroot ↔ a.nonroot = true
  loaded : s.loaded = a.loaded.vmcs s.current
  blocked : s.flush.stage.blocks = a.blocked
  exposed : a.settled = true ∨ s.flush.stage = .blocked ∨
    s.flush.stage = .outside ∧ s.shadowLoaded = true

structure Inv (cfg : Ept02CacheCfg) (s : L2Cpu) : Prop where
  flush : s.flush.Inv
  place : ∃ a, s.At a ∧ Follows a s.todo
  rooted : Rooted cfg s.cache
  found : ∀ eptp, s.found = some eptp → s.flush.stage = .flushing ∧ s.mode = .nonroot ∧ s.Fits eptp
  pointer : s.mode = .nonroot → s.Fresh ∨ s.Due
  rewrites : ∀ r ∈ s.rewrites, r.1 = .vmcs02 r.2

variable {cfg : Ept02CacheCfg} {s s' : L2Cpu} {a b : Place} {flags : U32}

theorem Fits.fresh {eptp : U64} (fits : s.Fits eptp) (loaded : s.loaded = .vmcs02 s.current) :
    (s.writeEptp eptp).Fresh := by
  unfold Fresh writeEptp
  dsimp only
  rw [← loaded, Function.update_self]
  exact fits

theorem getPointer_spec (rooted : Rooted cfg s.cache) : ∃ cache line clock, (s.getPointer cfg).2 =
        { s with cache := cache, guestEptCacheLine := line, clock := clock } ∧
      Rooted cfg cache ∧ (s.getPointer cfg).2.Fits (s.getPointer cfg).1 := by
  obtain ⟨flush, mode, current, loaded, eptp, root, line, eptp01, cache, clock, found, todo, log⟩ := s
  cases root with
  | none => exact ⟨cache, line, clock, rfl, rooted, rfl⟩
  | some ept12 =>
    exact ⟨_, _, _, rfl, Rooted.getEpt02 rooted, getEpt02_live⟩

theorem invalidate_spec (rooted : Rooted cfg s.cache) (flags : U32) :
    ∃ cache, s.invalidate cfg flags = { s with cache := cache } ∧ Rooted cfg cache := by
  unfold invalidate
  split
  · exact ⟨_, rfl, rooted.invalidateAll _⟩
  · exact ⟨s.cache, rfl, rooted⟩

theorem effectStart_quiet (quiet : flushRewalks flags = false) :
    s.effectStart cfg flags = { s with found := none } := by
  have none : flags &&& (MEMP_FLUSHTLB_EPTP ||| MEMP_FLUSHTLB_ENTRY) = 0 :=
    not_not.mp (of_decide_eq_false quiet)
  have entry : flags &&& MEMP_FLUSHTLB_ENTRY = 0 := by
    have part : MEMP_FLUSHTLB_ENTRY =
        (MEMP_FLUSHTLB_EPTP ||| MEMP_FLUSHTLB_ENTRY) &&& MEMP_FLUSHTLB_ENTRY := rfl
    rw [part, ← BitVec.and_assoc, none]
    exact BitVec.zero_and
  unfold effectStart invalidate
  rw [if_neg (not_not.mpr entry), if_neg]
  rw [quiet]
  exact fun rewalks => Bool.noConfusion rewalks.2

theorem effectStart_root (root : s.mode ≠ .nonroot) :
    s.effectStart cfg flags = { s.invalidate cfg flags with found := none } := by
  have mode : (s.invalidate cfg flags).mode = s.mode := by
    unfold invalidate
    split <;> rfl
  unfold effectStart
  rw [if_neg]
  rw [mode]
  exact fun rewalks => root rewalks.1

theorem effectStart_rewalks (l2 : s.mode = .nonroot) (rewalks : flushRewalks flags = true)
    (rooted : Rooted cfg s.cache) :
    ∃ cache line clock eptp, s.effectStart cfg flags =
        { s with cache := cache, guestEptCacheLine := line, clock := clock, found := some eptp } ∧
      Rooted cfg cache ∧ (s.effectStart cfg flags).Fits eptp := by
  obtain ⟨cache, same, rooted⟩ := invalidate_spec rooted flags
  have start : s.effectStart cfg flags =
      { (({ s with cache := cache } : L2Cpu).getPointer cfg).2 with
        found := some (({ s with cache := cache } : L2Cpu).getPointer cfg).1 } := by
    unfold effectStart
    rw [same, if_pos ⟨l2, rewalks⟩]
  obtain ⟨cache', line, clock, found, rooted', fits⟩ :=
    getPointer_spec (s := { s with cache := cache }) rooted
  refine ⟨cache', line, clock, (({ s with cache := cache } : L2Cpu).getPointer cfg).1, ?_,
    rooted', ?_⟩
  · rw [start, found]
  · rw [start]
    exact fits

theorem effect_rewalks (l2 : s.mode = .nonroot) (rewalks : flushRewalks flags = true)
    (loaded : s.loaded = .vmcs02 s.current) (rooted : Rooted cfg s.cache) :
    ∃ cache line clock eptps, s.effect cfg flags =
        { s with
          cache := cache, guestEptCacheLine := line, clock := clock, eptp := eptps, found := none
          rewrites := (s.loaded, s.current) :: s.rewrites } ∧
      Rooted cfg cache ∧ (s.effect cfg flags).Fresh := by
  obtain ⟨cache, line, clock, eptp, start, rooted, fits⟩ := effectStart_rewalks l2 rewalks rooted
  have result : s.effect cfg flags =
      { s with
        cache := cache, guestEptCacheLine := line, clock := clock
        eptp := Function.update s.eptp s.loaded eptp, found := none
        rewrites := (s.loaded, s.current) :: s.rewrites } := by
    unfold effect effectEnd
    rw [start]
    rfl
  rw [start] at fits
  refine ⟨cache, line, clock, _, result, rooted, ?_⟩
  rw [result]
  exact fits.fresh loaded

theorem effect_quiet (quiet : flushRewalks flags = false) :
    s.effect cfg flags = { s with found := none } := by
  unfold effect
  rw [effectStart_quiet quiet]
  rfl

theorem effect_root (root : s.mode ≠ .nonroot) :
    s.effect cfg flags = { s.invalidate cfg flags with found := none } := by
  unfold effect
  rw [effectStart_root root]
  rfl

theorem At.loaded_vmcs02 (at_ : s.At a) (settled : a.settled = true) (l2 : s.mode = .nonroot) :
    s.loaded = .vmcs02 s.current := by
  have kind : a.loaded = .vmcs02 := by
    simpa [Place.settled, at_.mode.mp l2] using settled
  rw [at_.loaded, kind]
  rfl

/-- The requests that must not arrive: while `_update_nested_nmi` has the shadow VMCS loaded,
or while the CPU's own effect has looked a pointer up and not yet written it. -/
def Undisturbed (s : L2Cpu) : L2Op → Prop
  | .nmi flags => flushRewalks flags = true → s.mode = .nonroot →
      s.shadowLoaded = false ∧ s.flush.stage ≠ .flushing
  | _ => True

theorem At.of_same (at_ : s.At a) (mode : s'.mode = s.mode) (current : s'.current = s.current)
    (loaded : s'.loaded = s.loaded) (todo : s'.todo = s.todo)
    (stage : s'.flush.stage = s.flush.stage) : s'.At a := by
  refine ⟨mode ▸ at_.mode, ?_, stage ▸ at_.blocked, ?_⟩
  · rw [loaded, current]
    exact at_.loaded
  · unfold shadowLoaded
    rw [stage, todo]
    exact at_.exposed

section

variable (inv : s.Inv cfg)

include inv

theorem Inv.noted (kept : flush.Inv) (same : flush.stage = s.flush.stage)
    (visited : flushRewalks s.flush.visited = true → flushRewalks flush.visited = true) :
    ({ s with flush := flush } : L2Cpu).Inv cfg := by
  obtain ⟨a, at_, follows⟩ := inv.place
  refine ⟨kept, ⟨a, at_.of_same rfl rfl rfl rfl same, follows⟩, inv.rooted, ?_, ?_, inv.rewrites⟩
  · intro eptp found
    obtain ⟨stage, rest⟩ := inv.found eptp found
    exact ⟨same.trans stage, rest⟩
  · intro l2
    refine (inv.pointer l2).imp id (Or.imp_left fun due => ?_)
    unfold pending at due ⊢
    rw [flushRewalks_or, Bool.or_eq_true] at due ⊢
    rw [same]
    exact due.imp_left visited

theorem Inv.found_none (stage : s.flush.stage ≠ .flushing) : s.found = none := by
  cases found : s.found with
  | none => rfl
  | some eptp => exact absurd (inv.found eptp found).1 stage

theorem Inv.nmi (calm : s.Undisturbed (.nmi flags)) : (s.nmi cfg flags).Inv cfg := by
  have kept := inv.flush.flushEpt02 flags
  unfold L2Cpu.nmi
  by_cases disabled : s.flush.disable = true
  · rw [if_pos disabled]
    refine inv.noted kept stage_flushEpt02 fun before => ?_
    rw [flushEpt02, if_pos disabled]
    rw [flushRewalks_or, before, Bool.true_or]
  rw [if_neg disabled]
  have visited : (s.flush.flushEpt02 flags).visited = s.flush.visited := by
    rw [flushEpt02, if_neg disabled]
    rfl
  cases rewalks : flushRewalks flags with
  | false =>
    rw [effect_quiet rewalks]
    exact inv.noted kept stage_flushEpt02 (visited ▸ id)
  | true =>
    obtain ⟨a, at_, follows⟩ := inv.place
    by_cases l2 : s.mode = .nonroot
    · obtain ⟨back, stage⟩ := calm rewalks l2
      have settled : a.settled = true := by
        rcases at_.exposed with settled | blocked | outside
        · exact settled
        · rw [inv.flush.disable, blocked] at disabled
          exact absurd rfl disabled
        · rw [back] at outside
          exact Bool.noConfusion outside.2
      obtain ⟨cache, line, clock, eptps, effect, rooted, fresh⟩ :=
        effect_rewalks l2 rewalks (at_.loaded_vmcs02 settled l2) inv.rooted
      rw [effect] at fresh ⊢
      refine ⟨kept, ⟨a, at_.of_same rfl rfl rfl rfl stage_flushEpt02, follows⟩, rooted, ?_,
        fun _ => .inl fresh, ?_⟩
      · intro eptp found
        rw [inv.found_none stage] at found
        cases found
      · exact List.forall_mem_cons.mpr ⟨at_.loaded_vmcs02 settled l2, inv.rewrites⟩
    · obtain ⟨cache, same, rooted⟩ := invalidate_spec inv.rooted flags
      rw [effect_root l2, same]
      refine ⟨kept, ⟨a, at_.of_same rfl rfl rfl rfl stage_flushEpt02, follows⟩, rooted, ?_,
        fun l2' => absurd l2' l2, inv.rewrites⟩
      intro eptp found
      exact absurd (inv.found eptp found).2.1 l2

omit inv in
theorem At.of_settled (at_ : s.At a) (settled : a.settled = true) (mode : s'.mode = s.mode)
    (current : s'.current = s.current) (loaded : s'.loaded = s.loaded)
    (blocks : s'.flush.stage.blocks = s.flush.stage.blocks) : s'.At a := by
  refine ⟨mode ▸ at_.mode, ?_, blocks.trans at_.blocked, .inl settled⟩
  rw [loaded, current]
  exact at_.loaded

omit inv in
theorem At.settled (at_ : s.At a) (outside : s.flush.stage ≠ .outside)
    (blocked : s.flush.stage ≠ .blocked) : a.settled = true := by
  rcases at_.exposed with settled | stage | ⟨stage, -⟩
  · exact settled
  · exact absurd stage blocked
  · exact absurd stage outside

theorem Inv.startEffect (stage : s.flush.stage = .startEffect flags)
    (step : s.flush.advance = some flush) :
    ({ s.effect cfg flags with flush := flush } : L2Cpu).Inv cfg := by
  have kept := inv.flush.advance step
  have blocks := FlushCpu.blocks_advance step
  obtain ⟨a, at_, follows⟩ := inv.place
  have settled := at_.settled (by simp [stage]) (by simp [stage])
  have none := inv.found_none (by simp [stage])
  cases rewalks : flushRewalks flags with
  | false =>
    rw [effect_quiet rewalks]
    refine ⟨kept, ⟨a, at_.of_settled settled rfl rfl rfl blocks, follows⟩, inv.rooted, by rintro _ ⟨⟩,
      fun l2 => ?_, inv.rewrites⟩
    rcases inv.pointer l2 with fresh | due | found | next
    · exact .inl fresh
    · refine .inr (.inl ?_)
      have visited : flush.visited = s.flush.visited := by
        rw [FlushCpu.advance, stage] at step
        cases step
        rfl
      rw [pending, stage, flushRewalks_or, FlushStage.taken, rewalks, Bool.or_false] at due
      rw [pending, flushRewalks_or, visited, due, Bool.true_or]
    · exact absurd none found
    · exact .inr (.inr (.inr next))
  | true =>
    by_cases l2 : s.mode = .nonroot
    · have loaded := at_.loaded_vmcs02 settled l2
      obtain ⟨cache, line, clock, eptps, effect, rooted, fresh⟩ :=
        effect_rewalks l2 rewalks loaded inv.rooted
      rw [effect] at fresh ⊢
      exact ⟨kept, ⟨a, at_.of_settled settled rfl rfl rfl blocks, follows⟩, rooted, by rintro _ ⟨⟩,
        fun _ => .inl fresh, List.forall_mem_cons.mpr ⟨loaded, inv.rewrites⟩⟩
    · obtain ⟨cache, same, rooted⟩ := invalidate_spec inv.rooted flags
      rw [effect_root l2, same]
      exact ⟨kept, ⟨a, at_.of_settled settled rfl rfl rfl blocks, follows⟩, rooted, by rintro _ ⟨⟩,
        fun l2' => absurd l2' l2, inv.rewrites⟩

theorem Inv.flushing (stage : s.flush.stage = .flushing) (step : s.flush.advance = some flush) :
    ({ s.effectEnd with flush := flush } : L2Cpu).Inv cfg := by
  have kept := inv.flush.advance step
  have blocks := FlushCpu.blocks_advance step
  have pending := inv.flush.pending_advance step (by simp [stage])
  obtain ⟨a, at_, follows⟩ := inv.place
  have settled := at_.settled (by simp [stage]) (by simp [stage])
  unfold effectEnd
  cases found : s.found with
  | none =>
    refine ⟨kept, ⟨a, at_.of_settled settled rfl rfl rfl blocks, follows⟩, inv.rooted, ?_,
      fun l2 => (inv.pointer l2).imp id (Or.imp_left (congrArg flushRewalks pending).trans), inv.rewrites⟩
    intro eptp impossible
    exact absurd (found.symm.trans impossible) nofun
  | some eptp =>
    obtain ⟨-, l2, fits⟩ := inv.found eptp found
    have loaded := at_.loaded_vmcs02 settled l2
    refine ⟨kept, ⟨a, at_.of_settled settled rfl rfl rfl blocks, follows⟩, inv.rooted, nofun,
      fun _ => .inl (fits.fresh loaded), List.forall_mem_cons.mpr ⟨loaded, inv.rewrites⟩⟩

theorem Inv.flushAdvance (outside : s.flush.stage ≠ .outside) (blocked : s.flush.stage ≠ .blocked)
    (own : s.flush.stage ≠ .flushing) (unapplied : ∀ flags, s.flush.stage ≠ .startEffect flags)
    (step : s.flush.advance = some flush) : ({ s with flush := flush } : L2Cpu).Inv cfg := by
  have kept := inv.flush.advance step
  have blocks := FlushCpu.blocks_advance step
  have pending := inv.flush.pending_advance step unapplied
  obtain ⟨a, at_, follows⟩ := inv.place
  have settled := at_.settled outside blocked
  refine ⟨kept, ⟨a, at_.of_settled settled rfl rfl rfl blocks, follows⟩, inv.rooted, ?_,
    fun l2 => (inv.pointer l2).imp id (Or.imp_left (congrArg flushRewalks pending).trans), inv.rewrites⟩
  intro eptp found
  exact absurd (inv.found eptp found).1 own

end

end L2Cpu

theorem Follows.exposed {a : Place} {s : L2Cpu} (follows : Follows a s.todo) :
    a.settled = true ∨ a.blocked = true ∨ s.shadowLoaded = true := by
  unfold L2Cpu.shadowLoaded
  generalize todo : s.todo = result at follows
  cases result with
  | nil =>
    obtain ⟨b, run, guest⟩ := follows
    cases run
    rcases guest with rfl | rfl <;> exact .inl rfl
  | cons stmt rest =>
    obtain ⟨b, after, -⟩ := follows.cons
    obtain ⟨nonroot, loaded, blocked⟩ := a
    cases blocked with
    | true => exact .inr (.inl rfl)
    | false =>
      cases nonroot with
      | false => exact .inl rfl
      | true =>
        cases loaded with
        | vmcs02 => exact .inl rfl
        | vmcs01 | shadow => cases stmt <;> first | exact .inr (.inr rfl) | cases after

namespace L2Cpu

variable {cfg : Ept02CacheCfg} {s s' : L2Cpu} {a b : Place} {flags : U32}

/-- The CPU is at a place of a handler, and not in the code that blocks and unblocks
flushes. -/
structure Ready (cfg : Ept02CacheCfg) (s : L2Cpu) (a : Place) : Prop where
  flush : s.flush.Inv
  mode : s.mode = .nonroot ↔ a.nonroot = true
  loaded : s.loaded = a.loaded.vmcs s.current
  stage : s.flush.stage = if a.blocked then .blocked else .outside
  rooted : Rooted cfg s.cache
  found : s.found = none
  pointer : s.mode = .nonroot → s.Fresh ∨ flushRewalks s.flush.visited = true
  rewrites : ∀ r ∈ s.rewrites, r.1 = .vmcs02 r.2

theorem Ready.inv (follows : Follows a s.todo) (ready : s.Ready cfg a) : s.Inv cfg := by
  have stage := ready.stage
  refine ⟨ready.flush, ⟨a, ⟨ready.mode, ready.loaded, ?_, ?_⟩, follows⟩, ready.rooted, ?_, ?_,
    ready.rewrites⟩
  · rw [stage]
    cases a.blocked <;> rfl
  · rcases follows.exposed with settled | blocked | shadow
    · exact .inl settled
    · rw [blocked, if_pos rfl] at stage
      exact .inr (.inl stage)
    · cases blocked : a.blocked with
      | true =>
        rw [blocked, if_pos rfl] at stage
        exact .inr (.inl stage)
      | false =>
        rw [blocked, if_neg Bool.false_ne_true] at stage
        exact .inr (.inr ⟨stage, shadow⟩)
  · intro eptp found
    exact absurd (ready.found.symm.trans found) nofun
  · intro l2
    refine (ready.pointer l2).imp id fun due => .inl ?_
    rw [pending, flushRewalks_or, due, Bool.true_or]

theorem Inv.ready (inv : s.Inv cfg) (between : s.flush.stage = .outside ∨ s.flush.stage = .blocked)
    (next : s.todo = stmt :: todo)
    (other : ∀ flags, stmt = .flush flags → flushRewalks flags = false) :
    ∃ a b, ({ s with todo := todo } : L2Cpu).Ready cfg a ∧ stmt.after a = some b ∧
      Follows b todo := by
  obtain ⟨a, at_, follows⟩ := inv.place
  rw [next] at follows
  obtain ⟨b, after, follows⟩ := follows.cons
  have found : s.found = none := by
    refine inv.found_none fun stage => ?_
    rcases between with h | h <;> rw [h] at stage <;> cases stage
  refine ⟨a, b, ⟨inv.flush, at_.mode, at_.loaded, ?_, inv.rooted, found, ?_, inv.rewrites⟩, after,
    follows⟩
  · have blocked := at_.blocked
    rcases between with stage | stage <;> rw [stage] at blocked <;> rw [← blocked] <;> exact stage
  · intro l2
    rcases inv.pointer l2 with fresh | due | pointer | ⟨flags, rest, request, rewalks⟩
    · exact .inl fresh
    · refine .inr ?_
      have taken : s.flush.stage.taken = 0 := by
        rcases between with stage | stage <;> rw [stage] <;> rfl
      rw [pending, taken] at due
      exact (congrArg flushRewalks BitVec.or_zero).symm.trans due
    · exact absurd found pointer
    · rw [next] at request
      cases request
      rw [other flags rfl] at rewalks
      cases rewalks

section

variable (ready : s.Ready cfg a)

include ready

theorem Ready.load (kind : VmcsKind) :
    ({ s with loaded := kind.vmcs s.current } : L2Cpu).Ready cfg { a with loaded := kind } :=
  ⟨ready.flush, ready.mode, rfl, ready.stage, ready.rooted, ready.found, ready.pointer,
    ready.rewrites⟩

omit ready in
theorem translate_spec (rooted : Rooted cfg s.cache) (loaded : s.loaded = .vmcs02 s.current)
    (ept12 : Option Pa) :
    ∃ cache line clock eptps, s.translate cfg ept12 =
        { s with
          guestEptRoot := ept12, cache := cache, guestEptCacheLine := line, clock := clock
          eptp := eptps } ∧
      Rooted cfg cache ∧ (s.translate cfg ept12).Fresh := by
  obtain ⟨cache, line, clock, found, rooted, fits⟩ :=
    getPointer_spec (s := { s with guestEptRoot := ept12 }) rooted
  have result : s.translate cfg ept12 =
      { s with
        guestEptRoot := ept12, cache := cache, guestEptCacheLine := line, clock := clock
        eptp := Function.update s.eptp s.loaded
          (({ s with guestEptRoot := ept12 } : L2Cpu).getPointer cfg).1 } := by
    unfold translate writeEptp
    dsimp only
    rw [found]
  refine ⟨cache, line, clock, _, result, rooted, ?_⟩
  rw [found] at fits
  rw [result]
  exact fits.fresh loaded

theorem Ready.translateBack (run : s.translateBack cfg = some s') :
    s'.Ready cfg a ∧ s'.todo = s.todo := by
  obtain ⟨flush, mode, current, loaded, eptp, root, line, eptp01, cache, clock, found, todo, log⟩ := s
  cases root with
  | none =>
    obtain ⟨-, rfl⟩ := guard_some.mp run
    exact ⟨ready, rfl⟩
  | some ept12 =>
    obtain ⟨⟨hit, -⟩, rfl⟩ := guard_some.mp run
    have rooted : Rooted cfg (getEpt02 cfg ⟨cache, none, clock⟩ ept12).cache :=
      Rooted.getEpt02 ready.rooted
    refine ⟨⟨ready.flush, ready.mode, ready.loaded, ready.stage, rooted, ready.found, ?_,
      ready.rewrites⟩, rfl⟩
    intro l2
    refine (ready.pointer l2).imp_left fun fresh => ?_
    exact LiveLine.getEpt02 fresh hit

theorem Ready.handleViolation {mem : Mem}
    (run : s.handleViolation cfg mem guest2Paddr qualification = some s') :
    s'.Ready cfg a ∧ s'.todo = s.todo := by
  obtain ⟨flush, mode, current, loaded, eptp, root, line, eptp01, cache, clock, found, todo, log⟩ := s
  cases root with
  | none =>
    cases run
    exact ⟨ready, rfl⟩
  | some ept12 =>
    obtain ⟨live, filled⟩ := Option.ite_none_left_eq_some.mp run
    obtain ⟨⟨exit, ept02⟩, handled, rfl⟩ := map_eq_some_iff.mp filled
    have valid : (cache line).valid ≠ 0 := fun free => live (.inl free)
    have root := handleEpt02Exit_rootPa (ready.rooted line valid) handled
    refine ⟨⟨ready.flush, ready.mode, ready.loaded, ready.stage, ready.rooted.fill root,
      ready.found, ?_, ready.rewrites⟩, rfl⟩
    intro l2
    exact (ready.pointer l2).imp_left fun fresh => LiveLine.fill ready.rooted fresh root

theorem Ready.between : s.flush.stage = .outside ∨ s.flush.stage = .blocked := by
  have stage := ready.stage
  split at stage
  · exact .inr stage
  · exact .inl stage

theorem Ready.vmcs02 (loaded : a.loaded = .vmcs02) : s.loaded = .vmcs02 s.current := by
  rw [ready.loaded, loaded]
  rfl

theorem Ready.root (l1 : a.nonroot = false) : s.mode ≠ .nonroot := by
  rw [Ne, ready.mode, l1]
  exact Bool.false_ne_true

theorem Ready.enterFlush (kept : flush.Inv) (visited : flush.visited = s.flush.visited)
    (blocks : flush.stage.blocks = b.blocked) (nonroot : b.nonroot = a.nonroot)
    (loaded : b.loaded = a.loaded) (settled : b.settled = true) (follows : Follows b s.todo)
    : ({ s with flush := flush } : L2Cpu).Inv cfg := by
  refine ⟨kept, ⟨b, ⟨nonroot ▸ ready.mode, loaded ▸ ready.loaded, blocks, .inl settled⟩, follows⟩,
    ready.rooted, ?_, ?_, ready.rewrites⟩
  · intro eptp found
    exact absurd (ready.found.symm.trans found) nofun
  · intro l2
    refine (ready.pointer l2).imp id fun due => .inl ?_
    rw [pending, flushRewalks_or, visited, due, Bool.true_or]

theorem Ready.exec (after : stmt.after a = some b) (follows : Follows b s.todo)
    (other : ∀ flags, stmt ≠ .flush flags) (run : s.exec cfg stmt = some s') : s'.Inv cfg := by
  cases stmt with
  | loadVmcs01 =>
    cases run
    obtain ⟨-, rfl⟩ := guard_some.mp after
    exact (ready.load .vmcs01).inv follows
  | loadVmcs02 | nmiLoadVmcs02 =>
    cases run
    obtain ⟨-, rfl⟩ := guard_some.mp after
    exact (ready.load .vmcs02).inv follows
  | loadShadow | nmiLoadShadow =>
    cases run
    obtain ⟨-, rfl⟩ := guard_some.mp after
    exact (ready.load .shadow).inv follows
  | nmiReadInjection =>
    cases run
    obtain ⟨-, rfl⟩ := guard_some.mp after
    exact ready.inv follows
  | block =>
    obtain ⟨flush, blocked, rfl⟩ := map_eq_some_iff.mp run
    obtain ⟨settled, rfl⟩ := guard_some.mp after
    have kept := ready.flush.blockEpt02Flush ready.between blocked
    obtain ⟨-, same⟩ := Option.ite_none_left_eq_some.mp blocked
    cases same
    exact ready.enterFlush (b := { a with blocked := true }) kept rfl rfl rfl rfl
      (Bool.and_eq_true_iff.mp settled).1 follows
  | unblock =>
    obtain ⟨flush, unblocked, rfl⟩ := map_eq_some_iff.mp run
    obtain ⟨settled, rfl⟩ := guard_some.mp after
    have kept := ready.flush.unblockEpt02Flush ready.between unblocked
    obtain ⟨-, rfl⟩ := guard_some.mp unblocked
    exact ready.enterFlush (b := { a with blocked := false }) kept rfl rfl rfl rfl
      (Bool.and_eq_true_iff.mp settled).1 follows
  | enter ept12 =>
    obtain ⟨-, rfl⟩ := guard_some.mp run
    obtain ⟨here, rfl⟩ := guard_some.mp after
    simp only [Bool.and_eq_true, decide_eq_true_eq] at here
    obtain ⟨cache, line, clock, eptps, result, rooted, fresh⟩ :=
      translate_spec ready.rooted (ready.vmcs02 here.1.2) ept12
    rw [result] at fresh ⊢
    exact Ready.inv follows ⟨ready.flush, ⟨fun _ => rfl, fun _ => rfl⟩, ready.loaded, ready.stage,
      rooted, ready.found, fun _ => .inl fresh, ready.rewrites⟩
  | enterFails ept12 =>
    cases run
    obtain ⟨here, rfl⟩ := guard_some.mp after
    simp only [Bool.and_eq_true, decide_eq_true_eq] at here
    obtain ⟨cache, line, clock, eptps, result, rooted, fresh⟩ :=
      translate_spec ready.rooted (ready.vmcs02 here.1.2) ept12
    rw [result] at fresh ⊢
    exact Ready.inv follows ⟨ready.flush, ready.mode, ready.loaded, ready.stage, rooted,
      ready.found, fun _ => .inl fresh, ready.rewrites⟩
  | translateBack =>
    obtain ⟨-, rfl⟩ := guard_some.mp after
    obtain ⟨ready', todo⟩ := ready.translateBack run
    exact ready'.inv (todo ▸ follows)
  | leave =>
    cases run
    obtain ⟨-, rfl⟩ := guard_some.mp after
    exact Ready.inv follows ⟨ready.flush, ⟨nofun, nofun⟩, ready.loaded, ready.stage, ready.rooted,
      ready.found, nofun, ready.rewrites⟩
  | vmxon | vmxoff =>
    cases run
    obtain ⟨here, rfl⟩ := guard_some.mp after
    simp only [Bool.and_eq_true, Bool.not_eq_true'] at here
    exact Ready.inv follows ⟨ready.flush, ⟨nofun, fun l2 => absurd (here.1.symm.trans l2) nofun⟩,
      ready.loaded, ready.stage, ready.rooted, ready.found, nofun, ready.rewrites⟩
  | vmptrld slot =>
    cases run
    obtain ⟨here, rfl⟩ := guard_some.mp after
    simp only [Bool.and_eq_true, Bool.not_eq_true', decide_eq_true_eq] at here
    have loaded := ready.loaded
    rw [here.1.2] at loaded
    refine Ready.inv follows ⟨ready.flush, ready.mode, ?_, ready.stage, ready.rooted, ready.found,
      fun l2 => absurd l2 (ready.root here.1.1), ready.rewrites⟩
    rw [here.1.2]
    exact loaded
  | invept ept12 =>
    obtain ⟨here, rfl⟩ := guard_some.mp after
    simp only [Bool.and_eq_true, Bool.not_eq_true'] at here
    have l1 := ready.root here.1
    cases ept12 with
    | none =>
      cases run
      exact Ready.inv follows ⟨ready.flush, ready.mode, ready.loaded, ready.stage,
        ready.rooted.invalidateAll _, ready.found, fun l2 => absurd l2 l1, ready.rewrites⟩
    | some ept12 =>
      cases run
      exact Ready.inv follows ⟨ready.flush, ready.mode, ready.loaded, ready.stage,
        ready.rooted.invalidate _ _, ready.found, fun l2 => absurd l2 l1, ready.rewrites⟩
  | violation mem guest2Paddr qualification =>
    obtain ⟨-, rfl⟩ := guard_some.mp after
    obtain ⟨ready', todo⟩ := ready.handleViolation run
    exact Ready.inv (todo ▸ follows) ready'
  | switchEpt ept12 eptp01 flags =>
    cases run
    obtain ⟨here, rfl⟩ := guard_some.mp after
    simp only [Bool.and_eq_true] at here
    have request : NestedStmt.after a (.flush flags) = some a := by
      rw [NestedStmt.after, if_pos (by simp [here.1])]
    obtain ⟨last, rest, guest⟩ := follows
    refine ⟨ready.flush, ⟨a, ⟨ready.mode, ready.loaded, ?_, .inl here.1.2⟩, last, ?_, guest⟩,
      ready.rooted, ?_, fun _ => .inr (.inr (.inr ⟨flags, s.todo, rfl, here.2⟩)), ready.rewrites⟩
    · dsimp only
      rw [ready.stage]
      cases a.blocked <;> rfl
    · dsimp only
      rw [List.foldlM_cons, request]
      exact rest
    · intro eptp found
      rw [ready.found] at found
      cases found
  | flush flags => exact absurd rfl (other flags)

end

theorem Inv.ownFlush (inv : s.Inv cfg)
    (between : s.flush.stage = .outside ∨ s.flush.stage = .blocked)
    (next : s.todo = .flush flags :: todo) :
    (({ s with todo := todo } : L2Cpu).ownFlush cfg flags).Inv cfg := by
  have kept := inv.flush.flushEpt02Own between flags
  obtain ⟨a, at_, follows⟩ := inv.place
  rw [next] at follows
  obtain ⟨b, after, follows⟩ := follows.cons
  obtain ⟨here, rfl⟩ := guard_some.mp after
  obtain ⟨nonroot, settled⟩ := Bool.and_eq_true_iff.mp here
  have l2 := at_.mode.mpr nonroot
  have quiet : flushRewalks flags = false → s.Fresh ∨ flushRewalks s.flush.visited = true := by
    intro quiet
    obtain ⟨_, _, ready, -⟩ := inv.ready between next fun flags' same => by
      cases same
      exact quiet
    exact ready.pointer l2
  unfold L2Cpu.ownFlush
  by_cases disabled : s.flush.disable = true
  · have flush : s.flush.flushEpt02Own flags = s.flush.flushEpt02 flags := by
      rw [flushEpt02Own, if_pos disabled]
    have stage : (s.flush.flushEpt02 flags).stage = s.flush.stage := stage_flushEpt02
    have visited : (s.flush.flushEpt02 flags).visited = s.flush.visited ||| flags := by
      rw [flushEpt02, if_pos disabled]
    rw [if_pos disabled]
    refine ⟨kept, ⟨a, at_.of_settled settled rfl rfl rfl ?_, follows⟩, inv.rooted, ?_, ?_,
      inv.rewrites⟩
    · dsimp only
      rw [flush, stage]
    · intro eptp found
      obtain ⟨own, -⟩ := inv.found eptp found
      rcases between with h | h <;> rw [h] at own <;> cases own
    · intro _
      rw [Due, pending, flushRewalks_or]
      rw [flush, visited, flushRewalks_or]
      cases rewalks : flushRewalks flags with
      | true => exact .inr (.inl (by simp))
      | false => exact (quiet rewalks).imp id fun due => .inl (by simp [due])
  · have stage : (s.flush.flushEpt02Own flags).stage = .flushing := by
      rw [flushEpt02Own, if_neg disabled]
    have visited : (s.flush.flushEpt02Own flags).visited = s.flush.visited := by
      rw [flushEpt02Own, if_neg disabled, flushEpt02, if_neg disabled]
      rfl
    have blocks : (s.flush.flushEpt02Own flags).stage.blocks = s.flush.stage.blocks := by
      rw [stage, inv.flush.outside between disabled]
      rfl
    rw [if_neg disabled]
    cases rewalks : flushRewalks flags with
    | false =>
      rw [effectStart_quiet rewalks]
      refine ⟨kept, ⟨a, at_.of_settled settled rfl rfl rfl blocks, follows⟩, inv.rooted, nofun,
        fun _ => (quiet rewalks).imp id fun due => .inl ?_, inv.rewrites⟩
      rw [pending, flushRewalks_or]
      rw [visited, due, Bool.true_or]
    | true =>
      obtain ⟨cache, line, clock, eptp, start, rooted, fits⟩ :=
        effectStart_rewalks (s := { s with todo := todo }) l2 rewalks inv.rooted
      rw [start] at fits ⊢
      refine ⟨kept, ⟨a, at_.of_settled settled rfl rfl rfl blocks, follows⟩, rooted, ?_,
        fun _ => .inr (.inr (.inl nofun)), inv.rewrites⟩
      intro eptp' found
      cases found
      exact ⟨stage, l2, fits⟩

/-- Outside of a flush the next statement of the handler is executed. -/
theorem advance_handler (step : s.advance cfg = some s')
    (between : s.flush.stage = .outside ∨ s.flush.stage = .blocked) :
    ∃ stmt todo, s.todo = stmt :: todo ∧ ({ s with todo } : L2Cpu).exec cfg stmt = some s' := by
  unfold L2Cpu.advance at step
  cases next : s.todo with
  | nil => rcases between with stage | stage <;> rw [stage, next] at step <;> cases step
  | cons stmt todo =>
    refine ⟨stmt, todo, rfl, ?_⟩
    rcases between with stage | stage <;> rw [stage, next] at step <;> exact step

theorem Inv.advance (inv : s.Inv cfg) (step : s.advance cfg = some s') : s'.Inv cfg := by
  have handler (between : s.flush.stage = .outside ∨ s.flush.stage = .blocked) : s'.Inv cfg := by
    obtain ⟨stmt, todo, next, run⟩ := advance_handler step between
    by_cases request : ∃ flags, stmt = .flush flags
    · obtain ⟨flags, rfl⟩ := request
      cases run
      exact inv.ownFlush between next
    · rw [not_exists] at request
      obtain ⟨a, b, ready, after, follows⟩ :=
        inv.ready between next fun flags same => absurd same (request flags)
      exact ready.exec after follows request run
  unfold L2Cpu.advance at step
  generalize stage : s.flush.stage = result at step
  cases result with
  | outside =>
    exact handler (.inl stage)
  | blocked =>
    exact handler (.inr stage)
  | startEffect flags =>
    obtain ⟨flush, advanced, rfl⟩ := map_eq_some_iff.mp step
    exact inv.startEffect stage advanced
  | flushing =>
    obtain ⟨flush, advanced, rfl⟩ := map_eq_some_iff.mp step
    exact inv.flushing stage advanced
  | _ =>
    obtain ⟨flush, advanced, rfl⟩ := map_eq_some_iff.mp step
    exact inv.flushAdvance (by simp [stage]) (by simp [stage]) (by simp [stage])
      (by simp [stage]) advanced

theorem Inv.inGuest (inv : s.Inv cfg) (guest : s.InGuest) :
    ∃ a, s.Ready cfg a ∧ (a = .inL1 ∨ a = .inL2) ∧ (s.mode = .nonroot → s.Fresh) := by
  obtain ⟨outside, idle⟩ := guest
  obtain ⟨a, at_, follows⟩ := inv.place
  rw [idle] at follows
  obtain ⟨b, run, guest⟩ := follows
  cases run
  have visited : s.flush.visited = 0 := inv.flush.rest (by rw [outside]; rfl)
  have found : s.found = none := inv.found_none (by simp [outside])
  have fresh : s.mode = .nonroot → s.Fresh := by
    intro l2
    rcases inv.pointer l2 with fresh | due | pointer | ⟨flags, todo, request, -⟩
    · exact fresh
    · rw [pending, visited, outside] at due
      exact absurd due (by decide)
    · exact absurd found pointer
    · rw [idle] at request
      cases request
  refine ⟨a, ⟨inv.flush, at_.mode, at_.loaded, ?_, inv.rooted, found, fun l2 => .inl (fresh l2),
    inv.rewrites⟩, guest, fresh⟩
  rcases guest with rfl | rfl <;> exact outside

theorem Inv.exit (inv : s.Inv cfg) (guest : s.InGuest) {path : NestedPath}
    (l2 : path.fromL2 = true ↔ s.mode = .nonroot) (shadowing : Bool) :
    ({ s with todo := path.code shadowing } : L2Cpu).Inv cfg := by
  obtain ⟨a, ready, place, -⟩ := inv.inGuest guest
  have start : path.start = a := by
    rw [ready.mode] at l2
    unfold NestedPath.start
    rcases place with rfl | rfl
    · rw [if_neg (fun l2' => Bool.false_ne_true (l2.mp l2'))]
    · rw [if_pos (l2.mpr rfl)]
  exact Ready.inv (start ▸ path.follows shadowing) ⟨ready.flush, ready.mode, ready.loaded,
    ready.stage, ready.rooted, ready.found, ready.pointer, ready.rewrites⟩

theorem Inv.step {cfg : L2Cfg} (inv : s.Inv cfg.cache) {op : L2Op} (calm : s.Undisturbed op)
    (step : s.step cfg op = some s') : s'.Inv cfg.cache := by
  cases op with
  | exit path =>
    obtain ⟨⟨guest, l2⟩, rfl⟩ := guard_some.mp step
    exact inv.exit guest l2 cfg.vmcsShadowing
  | advance => exact inv.advance step
  | nmi flags =>
    cases step
    exact inv.nmi calm

theorem Inv.init {cfg : L2Cfg} (start : (l2Machine cfg).init s) : s.Inv cfg.cache := by
  obtain ⟨flush, mode, loaded, free, todo, found, rewrites⟩ := start
  have l1 : s.mode ≠ .nonroot := by
    rw [mode]
    nofun
  refine Ready.inv (a := .inL1) (todo ▸ ⟨_, rfl, .inl rfl⟩) ⟨?_, ?_, loaded, ?_, ?_, found,
    fun l2 => absurd l2 l1, ?_⟩
  · rw [flush]
    exact FlushCpu.Inv.start
  · exact ⟨fun l2 => absurd l2 l1, nofun⟩
  · rw [flush]
    rfl
  · intro i live
    exact absurd (free i) live
  · rw [rewrites]
    exact List.forall_mem_nil _

end L2Cpu

/-- As long as no request arrives while `_update_nested_nmi` has the shadow VMCS loaded, or
while an effect of the CPU's own is between its lookup and its write: every rewrite of the EPT
pointer in L2 operation is one of the VMCS02 of the current VMCS12, and whenever L2 runs, the
EPT pointer in VMCS02 is not stale. -/
theorem flush_rewrites_vmcs02 {cfg : L2Cfg} {s : L2Cpu}
    (reached : (l2Machine cfg).ReachableUnder L2Cpu.Undisturbed s) :
    (∀ r ∈ s.rewrites, r.1 = .vmcs02 r.2) ∧ (s.InGuest → s.mode = .nonroot → s.Fresh) := by
  have inv : s.Inv cfg.cache := reached.invariant (fun _ => L2Cpu.Inv.init)
    fun _ _ _ inv calm step => inv.step calm step
  refine ⟨inv.rewrites, fun guest l2 => ?_⟩
  obtain ⟨a, -, -, fresh⟩ := inv.inGuest guest
  exact fresh l2

def sampleL2Cfg : L2Cfg where
  cache :=
    { nlines := 2
      pool := fun i => if i = 0 then samplePool else
        ⟨0x200000#64, 8, by decide, by decide, by decide, samplePool.nonempty⟩
      ept01 := 0x1000
      nonempty := sampleCacheCfg.nonempty }
  vmcsShadowing := true

def sampleL2Cpu : L2Cpu where
  flush := FlushCpu.start
  mode := .disabled
  current := 0
  loaded := .vmcs01
  eptp _ := 0
  guestEptRoot := none
  guestEptCacheLine := 0
  eptp01 := 0x101e
  cache _ := ⟨0, 0, ⟨⟨fun _ => false, fun _ _ => 0, 0⟩, 0, 0, 0⟩⟩
  clock := 1
  found := none
  todo := []
  rewrites := []

/-- The handler of an exit, from its beginning to its end. -/
def handled (path : NestedPath) (statements : Nat) : List L2Op :=
  .exit path :: List.replicate statements .advance

def sampleTwoL2s (overrides : List Bool) (statements : Nat) : List L2Op :=
  handled .vmxon 1 ++ handled (.vmentry (some 0x5000) []) 8 ++ handled (.vmexit [] true) 9 ++
    handled (.vmentry (some 0x6000) overrides) statements

namespace L2Cpu

/-- L2 runs with EPT on a pointer that is not that of its line. -/
def runsStale (s : L2Cpu) : Bool :=
  s.mode = .nonroot && s.flush.stage = .outside && s.todo.isEmpty && s.guestEptRoot.isSome &&
    s.eptp (.vmcs02 s.current) ≠ (s.cache s.guestEptCacheLine).value.ept02.rootPa ||| 0x1e

theorem stale_of_runsStale {s : L2Cpu} (stale : s.runsStale = true) :
    s.InGuest ∧ s.mode = .nonroot ∧ ¬ s.Fresh := by
  simp only [runsStale, Bool.and_eq_true, decide_eq_true_eq, List.isEmpty_iff] at stale
  obtain ⟨⟨⟨⟨l2, outside⟩, idle⟩, ept⟩, other⟩ := stale
  obtain ⟨ept12, root⟩ := Option.isSome_iff_exists.mp ept
  refine ⟨⟨outside, idle⟩, l2, fun fresh => other ?_⟩
  unfold Fresh Fits at fresh
  rw [root] at fresh
  exact fresh.pointer

end L2Cpu

theorem sampleL2Cpu_starts : (l2Machine sampleL2Cfg).init sampleL2Cpu :=
  ⟨rfl, rfl, rfl, fun _ => rfl, rfl, rfl, rfl⟩

/-- A request while `_update_nested_nmi` has the shadow VMCS loaded rewrites the shadow VMCS,
and L2 runs on the stale EPT02. A request in the middle of the hypapp's own flush is
overwritten, with the same result. -/
theorem flush_rewrites_shadow_vmcs :
    (∃ s, (l2Machine sampleL2Cfg).Reachable s ∧ s.rewrites = [(.shadow 0, 0)] ∧
      s.InGuest ∧ s.mode = .nonroot ∧ ¬ s.Fresh) ∧
    ∃ s, (l2Machine sampleL2Cfg).Reachable s ∧ s.rewrites = [(.vmcs02 0, 0), (.vmcs02 0, 0)] ∧
      s.InGuest ∧ s.mode = .nonroot ∧ ¬ s.Fresh := by
  have start : (l2Machine sampleL2Cfg).Reachable sampleL2Cpu := .init sampleL2Cpu_starts
  have shadow : ((l2Machine sampleL2Cfg).run sampleL2Cpu (sampleTwoL2s [true] 9 ++
      [.nmi MEMP_FLUSHTLB_ENTRY, .advance, .advance])).map (fun s => (s.rewrites, s.runsStale)) =
      some ([(.shadow 0, 0)], true) := by
    decide +kernel
  have own : ((l2Machine sampleL2Cfg).run sampleL2Cpu (sampleTwoL2s [] 8 ++
      [.exit (.vmexit [.hypapp (.flush MEMP_FLUSHTLB_EPTP)] false), .advance,
        .nmi MEMP_FLUSHTLB_ENTRY, .advance])).map (fun s => (s.rewrites, s.runsStale)) =
      some ([(.vmcs02 0, 0), (.vmcs02 0, 0)], true) := by
    decide +kernel
  obtain ⟨s, run, result⟩ := Option.map_eq_some_iff.mp shadow
  obtain ⟨s', run', result'⟩ := Option.map_eq_some_iff.mp own
  obtain ⟨rewrites, stale⟩ := Prod.mk.inj result
  obtain ⟨rewrites', stale'⟩ := Prod.mk.inj result'
  exact ⟨⟨s, start.run run, rewrites, L2Cpu.stale_of_runsStale stale⟩,
    s', start.run run', rewrites', L2Cpu.stale_of_runsStale stale'⟩

theorem flush_rewrites_vmcs02_sample :
    ∃ s : L2Cpu, s.rewrites = [(.vmcs02 0, 0)] ∧ (∀ r ∈ s.rewrites, r.1 = .vmcs02 r.2) ∧
      s.InGuest ∧ s.mode = .nonroot ∧ s.Fresh := by
  have before : ((l2Machine sampleL2Cfg).run sampleL2Cpu (sampleTwoL2s [] 8)).map (fun s =>
      (decide (s.flush.stage = .outside) && !s.shadowLoaded,
        decide (s.nmi sampleL2Cfg.cache MEMP_FLUSHTLB_ENTRY).InGuest,
        (s.nmi sampleL2Cfg.cache MEMP_FLUSHTLB_ENTRY).mode,
        (s.nmi sampleL2Cfg.cache MEMP_FLUSHTLB_ENTRY).rewrites)) =
      some (true, true, .nonroot, [(.vmcs02 0, 0)]) := by
    decide +kernel
  obtain ⟨s, run, result⟩ := Option.map_eq_some_iff.mp before
  simp only [Prod.mk.injEq, Bool.and_eq_true, Bool.not_eq_true', decide_eq_true_eq] at result
  obtain ⟨⟨outside, shadow⟩, guest, l2, rewrites⟩ := result
  have handlers : ∀ o ∈ sampleTwoL2s [] 8, ∀ s : L2Cpu, s.Undisturbed o := by
    intro o member s
    cases o with
    | exit path | advance => trivial
    | nmi flags => simp [sampleTwoL2s, handled] at member
  have start : (l2Machine sampleL2Cfg).ReachableUnder L2Cpu.Undisturbed sampleL2Cpu :=
    .init sampleL2Cpu_starts
  have calm : s.Undisturbed (.nmi MEMP_FLUSHTLB_ENTRY) := fun _ _ => ⟨shadow, by simp [outside]⟩
  obtain ⟨hits, fresh⟩ := flush_rewrites_vmcs02 (.step (start.run handlers run) calm rfl)
  exact ⟨_, rewrites, hits, guest, l2, fresh guest l2⟩

end Xmhf
