import Xmhf.Nested.StaleEpt02
import Xmhf.Nested.Vpid

/-!
# The lookups at a VM exit

At the exit of L2, `vmcs02_to_vmcs12` looks the EPT12 pointer and the VPID of L2 up once more
and asserts that both lookups hit and that VMCS02 holds what they return.

While L2 runs, its line of a cache is the one used last, so with two lines or more it is not
the one to be evicted next, which a lookup passes over. A flush that arrives while L2 runs
makes a line the last one used again, before L2 goes on.
-/

namespace Xmhf

open Option (ite_none_left_eq_some ite_none_right_eq_some map_eq_some_iff)

variable {stmt : NestedStmt}

/-! ## The EPT02 cache -/

theorem getEpt02_single {cfg : Ept02CacheCfg} {s : Ept02Cpu}
    (ok : LruSingle cfg.nlines s.cache) (ept12 : Pa) :
    LruSingle cfg.nlines (getEpt02 cfg s ept12).cache where
  ordered := (getEpt02_ordered ok.ordered).2
  single key i insideI j insideJ hitsI hitsJ :=
    (ok.findEvict cfg.nonempty ept12).single key i insideI j insideJ (getEpt02_hits.mp hitsI)
      (getEpt02_hits.mp hitsJ)

variable {enableVpid : Bool} {flush : FlushCpu} {todo rest : List NestedStmt} {ept12 : Pa}

theorem getEpt02_valid {cfg : Ept02CacheCfg} {s : Ept02Cpu} :
    ((getEpt02 cfg s ept12).cache (getEpt02 cfg s ept12).cacheLine).valid = 1 := by
  rw [getEpt02_cache]
  exact lruSetFindEvict_used.1

theorem setEpt02_single {n : Nat} {cache : LruSet Pa Ept02Value} (ok : LruSingle n cache) (i : Nat)
    (ept02 : Ept02Ctx) : LruSingle n (setEpt02 cache i ept02) where
  ordered := by
    refine ⟨fun j inside => ?_, fun j insideJ k insideK => ?_⟩
    · rw [setEpt02_valid]
      exact ok.ordered.bounded j inside
    · rw [setEpt02_valid, setEpt02_valid]
      exact ok.ordered.distinct j insideJ k insideK
  single key j insideJ k insideK hitsJ hitsK := by
    rw [LruHits, setEpt02_valid, setEpt02_key] at hitsJ hitsK
    exact ok.single key j insideJ k insideK hitsJ hitsK

namespace L2Cpu

def Latest (cfg : Ept02CacheCfg) (s : L2Cpu) : Prop :=
  s.guestEptRoot ≠ none → s.guestEptCacheLine < cfg.nlines ∧ (s.cache s.guestEptCacheLine).valid = 1

/-- A request is noted or comes next, after which the lookup is made again. -/
def Owed (s : L2Cpu) : Prop :=
  flushRewalks s.pending = true ∨
    ∃ flags todo, s.todo = .flush flags :: todo ∧ flushRewalks flags = true

end L2Cpu

def Bracketed (stmts : List NestedStmt) : Prop :=
  stmts.IsChain fun before stmt => stmt = .translateBack → before = .block

namespace L2Cpu

structure Recent (cfg : Ept02CacheCfg) (s : L2Cpu) : Prop where
  single : LruSingle cfg.nlines s.cache
  latest : s.mode = .nonroot → s.Latest cfg ∨ s.Owed
  bracketed : Bracketed s.todo
  /-- When the translation back is next, the pointer in VMCS02 is the one of the line. -/
  returning : s.flush.stage = .blocked → ∀ rest, s.todo = .translateBack :: rest →
    s.Fresh ∧ s.Latest cfg

variable {cfg : Ept02CacheCfg} {s s' : L2Cpu} {a b : Place} {flags : U32}

/-! ### Lookups -/

section

variable (ok : LruSingle cfg.nlines s.cache)

include ok

theorem getPointer_latest :
    LruSingle cfg.nlines (s.getPointer cfg).2.cache ∧ (s.getPointer cfg).2.Latest cfg := by
  obtain ⟨flush, mode, current, loaded, eptp, root, line, eptp01, cache, clock, found, todo, log⟩ := s
  cases root with
  | none => exact ⟨ok, fun used => absurd rfl used⟩
  | some ept12 =>
    refine ⟨getEpt02_single ok ept12, fun _ => ⟨?_, getEpt02_valid⟩⟩
    exact (getEpt02_ordered ok.ordered).1

theorem invalidate_single (flags : U32) : LruSingle cfg.nlines (s.invalidate cfg flags).cache := by
  unfold invalidate
  split
  · exact .invalidateAll _ _
  · exact ok

omit ok in
theorem invalidate_mode : (s.invalidate cfg flags).mode = s.mode := by
  unfold invalidate
  split <;> rfl

theorem effectStart_latest (flags : U32) :
    LruSingle cfg.nlines (s.effectStart cfg flags).cache ∧
      (s.mode = .nonroot → flushRewalks flags = true → (s.effectStart cfg flags).Latest cfg) := by
  have invalidated := invalidate_single ok flags
  unfold effectStart
  dsimp only
  split
  · have found := getPointer_latest invalidated
    exact ⟨found.1, fun _ _ => found.2⟩
  · next other =>
    rw [invalidate_mode] at other
    exact ⟨invalidated, fun l2 rewalks => absurd ⟨l2, rewalks⟩ other⟩

omit ok in
theorem effectEnd_cache : s.effectEnd.cache = s.cache := by
  unfold effectEnd
  split <;> rfl

omit ok in
theorem effectEnd_latest (latest : s.Latest cfg) : s.effectEnd.Latest cfg := by
  unfold effectEnd
  split <;> exact latest

theorem effect_latest (flags : U32) :
    LruSingle cfg.nlines (s.effect cfg flags).cache ∧
      (s.mode = .nonroot → flushRewalks flags = true → (s.effect cfg flags).Latest cfg) := by
  obtain ⟨single, latest⟩ := effectStart_latest ok flags
  unfold effect
  rw [effectEnd_cache]
  exact ⟨single, fun l2 rewalks => effectEnd_latest (latest l2 rewalks)⟩

end

theorem Owed.of_visited (noted : flushRewalks s.flush.visited = true) : s.Owed := by
  left
  rw [pending, flushRewalks_or, noted, Bool.true_or]

theorem Owed.visited (owed : s.Owed) (between : s.flush.stage = .outside ∨ s.flush.stage = .blocked)
    (next : s.todo = stmt :: todo)
    (other : ∀ flags, stmt = .flush flags → flushRewalks flags = false) :
    flushRewalks s.flush.visited = true := by
  rcases owed with noted | ⟨flags, rest, request, rewalks⟩
  · have taken : s.flush.stage.taken = 0 := by
      rcases between with stage | stage <;> rw [stage] <;> rfl
    rw [pending, taken] at noted
    exact (congrArg flushRewalks BitVec.or_zero).symm.trans noted
  · rw [next] at request
    cases request
    rw [other flags rfl] at rewalks
    cases rewalks

theorem Owed.noted (owed : s.Owed) (same : flush.stage = s.flush.stage)
    (visited : flushRewalks s.flush.visited = true → flushRewalks flush.visited = true) :
    ({ s with flush := flush } : L2Cpu).Owed := by
  refine owed.imp_left fun noted => ?_
  unfold pending at noted ⊢
  rw [flushRewalks_or, Bool.or_eq_true] at noted ⊢
  rw [same]
  exact noted.imp_left visited

/-! ### The translation back -/

theorem getEpt02_latest {c : Ept02Cpu} {eptp : U64} {i : Nat} (lines : 2 ≤ cfg.nlines)
    (ok : LruSingle cfg.nlines c.cache) (live : LiveLine c.cache i ept12 eptp)
    (inside : i < cfg.nlines) (last : (c.cache i).valid = 1) :
    (getEpt02 cfg c ept12).cacheHit = true ∧ (getEpt02 cfg c ept12).cacheLine = i ∧
      (getEpt02 cfg c ept12).eptp02 = eptp := by
  have hits : LruHits cfg.nlines c.cache ept12 i := ⟨live.valid, by omega, live.key⟩
  obtain ⟨hit, line⟩ := ok.findEvict_of_hits inside hits
  have found : (getEpt02 cfg c ept12).cacheLine = i := line
  have kept : LiveLine (getEpt02 cfg c ept12).cache i ept12 eptp := live.getEpt02 hit
  refine ⟨hit, found, ?_⟩
  rw [kept.pointer, ← found]
  rfl

/-- What `vmcs02_to_vmcs12` asserts of the EPT pointer. -/
structure ExitFinds (cfg : Ept02CacheCfg) (s : L2Cpu) : Prop where
  loaded : s.loaded = .vmcs02 s.current
  hit : ∀ ept12, s.guestEptRoot = some ept12 →
    (getEpt02 cfg ⟨s.cache, none, s.clock⟩ ept12).cacheHit = true ∧ s.eptp s.loaded =
        (getEpt02 cfg ⟨s.cache, none, s.clock⟩ ept12).line.value.ept02.rootPa ||| 0x1e
  passes : (s.translateBack cfg).isSome = true

section

variable (lines : 2 ≤ cfg.nlines) (ok : LruSingle cfg.nlines s.cache) (fresh : s.Fresh)
  (latest : s.Latest cfg)

include lines ok fresh latest

theorem exitFinds (loaded : s.loaded = .vmcs02 s.current) : s.ExitFinds cfg := by
  obtain ⟨flush, mode, current, vmcs, eptp, root, line, eptp01, cache, clock, found, todo, log⟩ := s
  dsimp only at loaded
  subst loaded
  cases root with
  | none =>
    have same : eptp (.vmcs02 current) = eptp01 := fresh
    refine ⟨rfl, nofun, ?_⟩
    unfold translateBack
    rw [if_pos same]
    rfl
  | some ept12 =>
    obtain ⟨inside, last⟩ := latest nofun
    obtain ⟨hit, -, pointer⟩ :=
      getEpt02_latest (c := ⟨cache, none, clock⟩) lines ok fresh inside last
    refine ⟨rfl, fun ept12' same => ?_, ?_⟩
    · cases same
      exact ⟨hit, pointer.symm⟩
    · unfold translateBack
      dsimp only
      rw [if_pos ⟨hit, pointer.symm⟩]
      rfl

theorem translateBack_latest (run : s.translateBack cfg = some s') :
    LruSingle cfg.nlines s'.cache ∧ s'.Latest cfg := by
  obtain ⟨flush, mode, current, loaded, eptp, root, line, eptp01, cache, clock, found, todo, log⟩ := s
  cases root with
  | none =>
    obtain ⟨-, rfl⟩ := guard_some.mp run
    exact ⟨ok, latest⟩
  | some ept12 =>
    obtain ⟨-, rfl⟩ := guard_some.mp run
    obtain ⟨inside, last⟩ := latest nofun
    obtain ⟨-, used, -⟩ :=
      getEpt02_latest (c := ⟨cache, none, clock⟩) lines ok fresh inside last
    refine ⟨getEpt02_single ok ept12, fun _ => ⟨inside, ?_⟩⟩
    rw [← used]
    exact getEpt02_valid

end

/-! ### Statements -/

theorem handleViolation_some {mem : Mem} {guest2Paddr qualification : U64}
    (run : s.handleViolation cfg mem guest2Paddr qualification = some s') :
    ∃ cache, s' = { s with cache := cache } ∧
      (LruSingle cfg.nlines s.cache → LruSingle cfg.nlines cache) ∧
      ∀ j, (cache j).valid = (s.cache j).valid := by
  unfold handleViolation at run
  split at run
  · cases run
    exact ⟨s.cache, rfl, id, fun _ => rfl⟩
  · obtain ⟨-, filled⟩ := ite_none_left_eq_some.mp run
    obtain ⟨⟨exit, ept02⟩, -, rfl⟩ := map_eq_some_iff.mp filled
    exact ⟨_, rfl, fun ok => setEpt02_single ok _ _, fun j => setEpt02_valid _ _ j _⟩

theorem translate_latest (ok : LruSingle cfg.nlines s.cache) (ept12 : Option Pa) :
    LruSingle cfg.nlines (s.translate cfg ept12).cache ∧ (s.translate cfg ept12).Latest cfg :=
  getPointer_latest ok

theorem exec_latest (lines : 2 ≤ cfg.nlines) (ready : s.Ready cfg a)
    (ok : LruSingle cfg.nlines s.cache)
    (latest : s.mode = .nonroot → s.Latest cfg ∨ flushRewalks s.flush.visited = true)
    (after : stmt.after a = some b) (other : ∀ flags, stmt ≠ .flush flags)
    (returning : stmt = .translateBack → s.Fresh ∧ s.Latest cfg) (run : s.exec cfg stmt = some s') :
    LruSingle cfg.nlines s'.cache ∧ (s'.mode = .nonroot → s'.Latest cfg ∨ s'.Owed) := by
  cases stmt with
  | loadVmcs01 | loadVmcs02 | nmiLoadVmcs02 | loadShadow | nmiLoadShadow | nmiReadInjection
  | vmptrld =>
    cases run
    exact ⟨ok, fun l2 => (latest l2).imp_right Owed.of_visited⟩
  | block =>
    obtain ⟨flush, blocked, rfl⟩ := map_eq_some_iff.mp run
    obtain ⟨-, same⟩ := ite_none_left_eq_some.mp blocked
    cases same
    exact ⟨ok, fun l2 => (latest l2).imp_right Owed.of_visited⟩
  | unblock =>
    obtain ⟨flush, unblocked, rfl⟩ := map_eq_some_iff.mp run
    obtain ⟨-, rfl⟩ := guard_some.mp unblocked
    exact ⟨ok, fun l2 => (latest l2).imp_right Owed.of_visited⟩
  | enter ept12 =>
    obtain ⟨-, rfl⟩ := guard_some.mp run
    obtain ⟨single, last⟩ := translate_latest ok ept12
    exact ⟨single, fun _ => .inl last⟩
  | enterFails ept12 =>
    cases run
    obtain ⟨single, last⟩ := translate_latest ok ept12
    exact ⟨single, fun _ => .inl last⟩
  | translateBack =>
    obtain ⟨fresh, last⟩ := returning rfl
    obtain ⟨single, last⟩ := translateBack_latest lines ok fresh last run
    exact ⟨single, fun _ => .inl last⟩
  | leave | vmxon | vmxoff =>
    cases run
    exact ⟨ok, nofun⟩
  | invept ept12 =>
    obtain ⟨here, -⟩ := ite_none_right_eq_some.mp after
    simp only [Bool.and_eq_true, Bool.not_eq_true'] at here
    have l1 := ready.root here.1
    cases ept12 with
    | none =>
      cases run
      exact ⟨.invalidateAll _ _, fun l2 => absurd l2 l1⟩
    | some ept12 =>
      cases run
      exact ⟨ok.invalidate ept12, fun l2 => absurd l2 l1⟩
  | violation mem guest2Paddr qualification =>
    obtain ⟨cache, same, single, valid⟩ := handleViolation_some run
    subst same
    refine ⟨single ok, fun l2 => (latest l2).imp (fun last used => ?_) Owed.of_visited⟩
    obtain ⟨inside, one⟩ := last used
    exact ⟨inside, (valid _).trans one⟩
  | switchEpt ept12 eptp01 flags =>
    cases run
    obtain ⟨here, -⟩ := ite_none_right_eq_some.mp after
    simp only [Bool.and_eq_true] at here
    exact ⟨ok, fun _ => .inr (.inr ⟨flags, s.todo, rfl, here.2⟩)⟩
  | flush flags => exact absurd rfl (other flags)

theorem getPointer_todo : (s.getPointer cfg).2.todo = s.todo := by
  unfold getPointer
  split <;> rfl

theorem translate_todo {ept12 : Option Pa} : (s.translate cfg ept12).todo = s.todo :=
  getPointer_todo

theorem translateBack_todo (run : s.translateBack cfg = some s') : s'.todo = s.todo := by
  unfold translateBack at run
  split at run
  · obtain ⟨-, rfl⟩ := guard_some.mp run
    rfl
  · obtain ⟨-, rfl⟩ := guard_some.mp run
    rfl

theorem effectStart_todo : (s.effectStart cfg flags).todo = s.todo := by
  have invalidated : (s.invalidate cfg flags).todo = s.todo := by
    unfold invalidate
    split <;> rfl
  unfold effectStart
  dsimp only
  split
  · exact getPointer_todo.trans invalidated
  · exact invalidated

theorem ownFlush_todo : (s.ownFlush cfg flags).todo = s.todo := by
  unfold ownFlush
  split
  · rfl
  · exact effectStart_todo

theorem effectEnd_todo : s.effectEnd.todo = s.todo := by
  unfold effectEnd
  split <;> rfl

theorem getPointer_mode : (s.getPointer cfg).2.mode = s.mode := by
  unfold getPointer
  split <;> rfl

theorem effectStart_mode : (s.effectStart cfg flags).mode = s.mode := by
  unfold effectStart
  dsimp only
  split
  · exact getPointer_mode.trans invalidate_mode
  · exact invalidate_mode

theorem effect_mode : (s.effect cfg flags).mode = s.mode := by
  unfold effect effectEnd
  split <;> exact effectStart_mode

theorem ownFlush_mode : (s.ownFlush cfg flags).mode = s.mode := by
  unfold ownFlush
  split
  · rfl
  · exact effectStart_mode

theorem Bracketed.not_next (bracketed : Bracketed (stmt :: todo)) (other : stmt ≠ .block) :
    todo ≠ .translateBack :: rest := by
  rintro rfl
  exact other ((List.isChain_cons_cons.mp bracketed).1 rfl)

theorem Bracketed.tail (bracketed : Bracketed (stmt :: todo)) : Bracketed todo :=
  List.IsChain.tail bracketed

theorem exec_todo (bracketed : Bracketed (stmt :: s.todo)) (run : s.exec cfg stmt = some s') :
    Bracketed s'.todo ∧ (s'.flush.stage = .blocked → ∀ rest, s'.todo ≠ .translateBack :: rest) := by
  have rest := Bracketed.tail bracketed
  cases stmt with
  | block =>
    obtain ⟨flush, blocked, rfl⟩ := map_eq_some_iff.mp run
    obtain ⟨-, same⟩ := ite_none_left_eq_some.mp blocked
    cases same
    exact ⟨rest, nofun⟩
  | unblock =>
    obtain ⟨flush, unblocked, rfl⟩ := map_eq_some_iff.mp run
    exact ⟨rest, fun _ _ => Bracketed.not_next bracketed nofun⟩
  | loadVmcs01 | loadVmcs02 | nmiLoadVmcs02 | loadShadow | nmiLoadShadow | nmiReadInjection
  | vmptrld | leave | vmxon | vmxoff =>
    cases run
    exact ⟨rest, fun _ _ => Bracketed.not_next bracketed nofun⟩
  | enter ept12 =>
    obtain ⟨-, rfl⟩ := guard_some.mp run
    have todo : (s.translate cfg ept12).todo = s.todo := translate_todo
    exact ⟨todo ▸ rest, fun _ _ => todo ▸ Bracketed.not_next bracketed nofun⟩
  | enterFails ept12 =>
    cases run
    have todo : (s.translate cfg ept12).todo = s.todo := translate_todo
    exact ⟨todo ▸ rest, fun _ _ => todo ▸ Bracketed.not_next bracketed nofun⟩
  | translateBack =>
    have todo : s'.todo = s.todo := translateBack_todo run
    exact ⟨todo ▸ rest, fun _ _ => todo ▸ Bracketed.not_next bracketed nofun⟩
  | invept ept12 =>
    cases ept12 <;> cases run <;> exact ⟨rest, fun _ _ => Bracketed.not_next bracketed nofun⟩
  | violation mem guest2Paddr qualification =>
    obtain ⟨cache, same, -⟩ := handleViolation_some run
    subst same
    exact ⟨rest, fun _ _ => Bracketed.not_next bracketed nofun⟩
  | switchEpt ept12 eptp01 flags =>
    cases run
    refine ⟨?_, nofun⟩
    cases todo : s.todo with
    | nil => exact List.isChain_singleton _
    | cons next more =>
      rw [todo] at bracketed rest
      refine List.isChain_cons_cons.mpr ⟨fun back => ?_, rest⟩
      subst back
      exact absurd rfl (Bracketed.not_next bracketed nofun)
  | flush flags =>
    cases run
    have todo : (s.ownFlush cfg flags).todo = s.todo := ownFlush_todo
    exact ⟨todo ▸ rest, fun _ _ => todo ▸ Bracketed.not_next bracketed nofun⟩

theorem ownFlush_latest (ok : LruSingle cfg.nlines s.cache)
    (latest : flushRewalks flags = false → s.mode = .nonroot →
      s.Latest cfg ∨ flushRewalks s.flush.visited = true) :
    LruSingle cfg.nlines (s.ownFlush cfg flags).cache ∧
      (s.mode = .nonroot → (s.ownFlush cfg flags).Latest cfg ∨ (s.ownFlush cfg flags).Owed) := by
  unfold ownFlush
  by_cases disabled : s.flush.disable = true
  · have visited : (s.flush.flushEpt02Own flags).visited = s.flush.visited ||| flags := by
      rw [FlushCpu.flushEpt02Own, if_pos disabled, FlushCpu.flushEpt02, if_pos disabled]
    rw [if_pos disabled]
    refine ⟨ok, fun l2 => ?_⟩
    cases rewalks : flushRewalks flags with
    | true =>
      refine .inr (Owed.of_visited ?_)
      rw [visited, flushRewalks_or, rewalks, Bool.or_true]
    | false =>
      refine (latest rewalks l2).imp id fun noted => Owed.of_visited ?_
      rw [visited, flushRewalks_or, noted, Bool.true_or]
  · have visited : (s.flush.flushEpt02Own flags).visited = s.flush.visited := by
      rw [FlushCpu.flushEpt02Own, if_neg disabled, FlushCpu.flushEpt02, if_neg disabled]
      rfl
    rw [if_neg disabled]
    obtain ⟨single, last⟩ := effectStart_latest ok flags
    refine ⟨single, fun l2 => ?_⟩
    cases rewalks : flushRewalks flags with
    | true => exact .inl (last l2 rewalks)
    | false =>
      rw [effectStart_quiet rewalks]
      refine (latest rewalks l2).imp id fun noted => Owed.of_visited ?_
      rw [visited, noted]

/-! ### Steps -/

section

variable (recent : s.Recent cfg) (inv : s.Inv cfg)

include recent inv

theorem Recent.nmi (flags : U32) : (s.nmi cfg flags).Recent cfg := by
  have stage : (s.flush.flushEpt02 flags).stage = s.flush.stage := FlushCpu.stage_flushEpt02
  unfold L2Cpu.nmi
  by_cases disabled : s.flush.disable = true
  · rw [if_pos disabled]
    refine ⟨recent.single, fun l2 => (recent.latest l2).imp id fun owed => ?_, recent.bracketed,
      fun blocked => recent.returning (stage.symm.trans blocked)⟩
    refine owed.noted stage fun noted => ?_
    rw [FlushCpu.flushEpt02, if_pos disabled]
    rw [flushRewalks_or, noted, Bool.true_or]
  · rw [if_neg disabled]
    obtain ⟨single, last⟩ := effect_latest recent.single flags
    have todo : (s.effect cfg flags).todo = s.todo := effectEnd_todo.trans effectStart_todo
    have visited : (s.flush.flushEpt02 flags).visited = s.flush.visited := by
      rw [FlushCpu.flushEpt02, if_neg disabled]
      rfl
    refine ⟨single, fun l2 => ?_, todo ▸ recent.bracketed, fun blocked => ?_⟩
    · cases rewalks : flushRewalks flags with
      | true =>
        refine .inl (last ?_ rewalks)
        exact effect_mode.symm.trans l2
      | false =>
        rw [effect_quiet rewalks] at l2 ⊢
        exact (recent.latest l2).imp id fun owed => owed.noted stage (visited ▸ id)
    · rw [inv.flush.disable, stage.symm.trans blocked] at disabled
      exact absurd rfl disabled

omit recent inv in
theorem Recent.exec (lines : 2 ≤ cfg.nlines) (recent : s.Recent cfg) (inv : s.Inv cfg)
    (between : s.flush.stage = .outside ∨ s.flush.stage = .blocked) (next : s.todo = stmt :: todo)
    (run : ({ s with todo } : L2Cpu).exec cfg stmt = some s') : s'.Recent cfg := by
  have shape := exec_todo (next ▸ recent.bracketed) run
  suffices kept : LruSingle cfg.nlines s'.cache ∧
      (s'.mode = .nonroot → s'.Latest cfg ∨ s'.Owed) from
    ⟨kept.1, kept.2, shape.1, fun blocked rest back => absurd back (shape.2 blocked rest)⟩
  have latest : (∀ flags, stmt = .flush flags → flushRewalks flags = false) →
      s.mode = .nonroot → s.Latest cfg ∨ flushRewalks s.flush.visited = true := fun other l2 =>
    (recent.latest l2).imp_right fun owed => owed.visited between next other
  by_cases request : ∃ flags, stmt = .flush flags
  · obtain ⟨flags, rfl⟩ := request
    cases run
    have mode : (({ s with todo } : L2Cpu).ownFlush cfg flags).mode = s.mode := ownFlush_mode
    obtain ⟨single, last⟩ := ownFlush_latest (s := { s with todo }) recent.single
      fun quiet => latest fun flags' same => by
        cases same
        exact quiet
    exact ⟨single, fun l2 => last (mode.symm.trans l2)⟩
  · rw [not_exists] at request
    obtain ⟨a, b, ready, after, -⟩ :=
      inv.ready between next fun flags same => absurd same (request flags)
    refine exec_latest lines ready recent.single
      (latest fun flags same => absurd same (request flags)) after request ?_ run
    rintro rfl
    obtain ⟨here, -⟩ := ite_none_right_eq_some.mp after
    have stage := ready.stage
    rw [(Bool.and_eq_true_iff.mp here).2, if_pos rfl] at stage
    exact recent.returning stage todo next

theorem Recent.blocking (stage : s.flush.stage = .blocking)
    (next : s.todo = .translateBack :: rest) : s.Fresh ∧ s.Latest cfg := by
  have nothing : flushRewalks s.pending ≠ true := by
    have visited : s.flush.visited = 0 := inv.flush.rest (by rw [stage]; rfl)
    rw [pending, visited, stage]
    decide
  have l2 : s.mode = .nonroot := by
    obtain ⟨a, at_, follows⟩ := inv.place
    rw [next] at follows
    obtain ⟨b, after, -⟩ := follows.cons
    obtain ⟨here, -⟩ := ite_none_right_eq_some.mp after
    exact at_.mode.mpr (Bool.and_eq_true_iff.mp (Bool.and_eq_true_iff.mp here).1).1
  constructor
  · rcases inv.pointer l2 with fresh | noted | found | ⟨flags, todo, request, -⟩
    · exact fresh
    · exact absurd noted nothing
    · exact absurd (inv.found_none (by simp [stage])) found
    · rw [next] at request
      cases request
  · rcases recent.latest l2 with latest | noted | ⟨flags, todo, request, -⟩
    · exact latest
    · exact absurd noted nothing
    · rw [next] at request
      cases request

theorem Recent.flushAdvance (unapplied : ∀ flags, s.flush.stage ≠ .startEffect flags)
    (step : s.flush.advance = some flush) : ({ s with flush := flush } : L2Cpu).Recent cfg := by
  have pending := inv.flush.pending_advance step unapplied
  refine ⟨recent.single, fun l2 => (recent.latest l2).imp id
    (Or.imp_left (congrArg flushRewalks pending).trans), recent.bracketed, ?_⟩
  intro blocked rest next
  refine recent.blocking inv ?_ next
  unfold FlushCpu.advance at step
  cases stage : s.flush.stage with
  | blocking => rfl
  | outside | blocked =>
    rw [stage] at step
    cases step
  | testVisited =>
    rw [stage] at step
    cases step
    split at blocked <;> cases blocked
  | _ =>
    rw [stage] at step
    cases step
    cases blocked

end

theorem Recent.advance (lines : 2 ≤ cfg.nlines) (recent : s.Recent cfg) (inv : s.Inv cfg)
    (step : s.advance cfg = some s') : s'.Recent cfg := by
  have handler (between : s.flush.stage = .outside ∨ s.flush.stage = .blocked) :
      s'.Recent cfg := by
    obtain ⟨stmt, todo, next, run⟩ := advance_handler step between
    exact recent.exec lines inv between next run
  unfold L2Cpu.advance at step
  generalize stage : s.flush.stage = result at step
  cases result with
  | outside =>
    exact handler (.inl stage)
  | blocked =>
    exact handler (.inr stage)
  | startEffect flags =>
    obtain ⟨flush, advanced, rfl⟩ := map_eq_some_iff.mp step
    obtain ⟨single, last⟩ := effect_latest recent.single flags
    have todo : (s.effect cfg flags).todo = s.todo := effectEnd_todo.trans effectStart_todo
    unfold FlushCpu.advance at advanced
    rw [stage] at advanced
    cases advanced
    refine ⟨single, fun l2 => ?_, todo ▸ recent.bracketed, by rintro ⟨⟩⟩
    cases rewalks : flushRewalks flags with
    | true => exact .inl (last (effect_mode.symm.trans l2) rewalks)
    | false =>
      rw [effect_quiet rewalks] at l2 ⊢
      refine (recent.latest l2).imp id (Or.imp_left fun noted => ?_)
      rw [pending, stage, flushRewalks_or, FlushStage.taken, rewalks, Bool.or_false] at noted
      exact (congrArg flushRewalks BitVec.or_zero).trans noted
  | flushing =>
    obtain ⟨flush, advanced, rfl⟩ := map_eq_some_iff.mp step
    have kept := recent.flushAdvance inv (by simp [stage]) advanced
    unfold FlushCpu.advance at advanced
    rw [stage] at advanced
    cases advanced
    unfold effectEnd
    cases found : s.found with
    | none => exact kept
    | some eptp => exact ⟨kept.single, kept.latest, kept.bracketed, by rintro ⟨⟩⟩
  | _ =>
    obtain ⟨flush, advanced, rfl⟩ := map_eq_some_iff.mp step
    exact recent.flushAdvance inv (by simp [stage]) advanced

end L2Cpu

/-! ### Handlers -/

theorem bracketed_of_not_mem {stmts : List NestedStmt} (none : .translateBack ∉ stmts) :
    Bracketed stmts := by
  induction stmts with
  | nil => exact List.isChain_nil
  | cons stmt rest ih =>
    obtain ⟨-, others⟩ := not_or.mp (mt List.mem_cons.mpr none)
    refine List.isChain_cons.mpr ⟨fun next head back => ?_, ih others⟩
    subst back
    exact absurd (List.mem_of_mem_head? head) others

theorem updateNestedNmi_not_translateBack (shadowing override : Bool) :
    .translateBack ∉ updateNestedNmi shadowing override := by
  unfold updateNestedNmi
  split <;> simp

theorem ExitPart.not_translateBack (shadowing : Bool) (part : ExitPart) :
    .translateBack ∉ part.code shadowing := by
  have call : ∀ c : HypappCall, c.stmt ≠ .translateBack := by
    intro c
    cases c <;> nofun
  cases part with
  | updateNmi override => exact updateNestedNmi_not_translateBack shadowing override
  | violation mem guest2Paddr qualification calls => simp [ExitPart.code, call]
  | hypapp c => simp [ExitPart.code, (call c).symm]

theorem NestedPath.bracketed (shadowing : Bool) (path : NestedPath) :
    Bracketed (path.code shadowing) := by
  cases path with
  | vmexit parts forwarded =>
    have handled : Bracketed (parts.flatMap (ExitPart.code shadowing)) := by
      refine bracketed_of_not_mem fun member => ?_
      obtain ⟨part, -, back⟩ := List.mem_flatMap.mp member
      exact part.not_translateBack shadowing back
    cases forwarded with
    | false =>
      change Bracketed (parts.flatMap (ExitPart.code shadowing) ++ [])
      rw [List.append_nil]
      exact handled
    | true =>
      refine List.isChain_append.mpr ⟨handled, ?_, ?_⟩
      · cases shadowing <;> simp [NestedPath.readShadow]
      · intro _ _ stmt head back
        cases head
        cases back
  | vmentry ept12 overrides =>
    refine bracketed_of_not_mem ?_
    have updates := updateNestedNmi_not_translateBack shadowing
    cases shadowing <;> simp [NestedPath.code, NestedPath.readShadow, updates]
  | vmentryFails ept12 =>
    refine bracketed_of_not_mem ?_
    cases shadowing <;> simp [NestedPath.code, NestedPath.readShadow]
  | _ => exact bracketed_of_not_mem (by simp [NestedPath.code])

namespace L2Cpu

variable {cfg : L2Cfg} {s s' : L2Cpu}

theorem Recent.step (lines : 2 ≤ cfg.cache.nlines) (recent : s.Recent cfg.cache)
    (inv : s.Inv cfg.cache) {op : L2Op} (step : s.step cfg op = some s') :
    s'.Recent cfg.cache := by
  cases op with
  | exit path =>
    obtain ⟨⟨⟨outside, idle⟩, -⟩, rfl⟩ := guard_some.mp step
    refine ⟨recent.single, fun l2 => (recent.latest l2).imp id fun owed => ?_,
      path.bracketed cfg.vmcsShadowing, fun blocked => ?_⟩
    · rcases owed with noted | ⟨flags, todo, request, -⟩
      · exact .inl noted
      · rw [idle] at request
        cases request
    · dsimp only at blocked
      rw [outside] at blocked
      cases blocked
  | advance => exact recent.advance lines inv step
  | nmi flags =>
    cases step
    exact recent.nmi inv flags

theorem Recent.init (start : (l2Machine cfg).init s) : s.Recent cfg.cache := by
  obtain ⟨flush, mode, -, free, todo, -⟩ := start
  refine ⟨⟨⟨fun i _ => ?_, fun i _ _ _ live => absurd (free i) live⟩,
    fun _ i _ _ _ hits => absurd (free i) hits.1⟩, fun l2 => ?_, ?_, fun blocked => ?_⟩
  · rw [free i]
    exact Nat.zero_le _
  · rw [mode] at l2
    cases l2
  · rw [todo]
    exact List.isChain_nil
  · rw [flush] at blocked
    cases blocked

end L2Cpu

/-! ## The VPID cache -/

/-- What the entry left for the exit: the guest VPID in VMCS02 and in the line used last, or
L1's VPID in VMCS02. -/
def NestedVpid.Held (cache : LruSet U16 U16) (guest : NestedVpid) : Prop :=
  if guest.enableVpid then
    guest.vpid12 ≠ 0 ∧ guest.vpid02 = guest.vpid12 ∧
      ∃ i < VMX_NESTED_MAX_ACTIVE_VPID, (cache i).valid = 1 ∧ (cache i).key = guest.vpid12
  else guest.vpid02 = controlVpid01

structure VpidRecent (s : VpidCpu) : Prop where
  single : LruSingle VMX_NESTED_MAX_ACTIVE_VPID s.cache
  held : ∀ guest, s.running = some guest → guest.Held s.cache

section

variable {linAddrBits : Nat} {s s' : VpidCpu} {vpid12 vpid02 : U16}

theorem getVpid02_cache {cacheHit : Bool}
    (found : getVpid02 linAddrBits s vpid12 = some (cacheHit, vpid02, s')) :
    s'.cache = (lruSetFindEvict VMX_NESTED_MAX_ACTIVE_VPID s.cache vpid12).set ∧
      s'.running = s.running ∧ vpid02 = vpid12 := by
  unfold getVpid02 at found
  dsimp only at found
  split at found
  · cases found
    exact ⟨rfl, rfl, rfl⟩
  · obtain ⟨flushed, executed, same⟩ := map_eq_some_iff.mp found
    cases same
    rw [executeInvvpid_some executed]
    exact ⟨rfl, rfl, rfl⟩

section

variable (ok : LruSingle VMX_NESTED_MAX_ACTIVE_VPID s.cache)

include ok

theorem controlVpid_held
    (entered : vmcs12ToVmcs02ControlVpid linAddrBits s enableVpid vpid12 = some (true, vpid02, s'))
    : NestedVpid.Held s'.cache ⟨enableVpid, vpid12, vpid02⟩ := by
  unfold NestedVpid.Held
  unfold vmcs12ToVmcs02ControlVpid at entered
  cases enableVpid with
  | false =>
    rw [if_neg Bool.false_ne_true] at entered ⊢
    obtain ⟨mid, executed, same⟩ := map_eq_some_iff.mp entered
    cases same
    rfl
  | true =>
    rw [if_pos rfl] at entered ⊢
    split at entered
    · cases entered
    · next nonzero =>
      obtain ⟨⟨hit, found, mid⟩, lookup, same⟩ := map_eq_some_iff.mp entered
      cases same
      obtain ⟨cache, -, same⟩ := getVpid02_cache lookup
      have inside := (ok.ordered.findEvict (by decide) vpid12).1
      refine ⟨nonzero, same, _, inside, ?_⟩
      rw [cache]
      exact lruSetFindEvict_used

theorem controlVpid_single {accepted : Bool}
    (entered : vmcs12ToVmcs02ControlVpid linAddrBits s enableVpid vpid12 = some
      (accepted, vpid02, s'))
    : LruSingle VMX_NESTED_MAX_ACTIVE_VPID s'.cache ∧ s'.running = s.running := by
  unfold vmcs12ToVmcs02ControlVpid at entered
  split at entered
  · split at entered
    · cases entered
      exact ⟨ok, rfl⟩
    · obtain ⟨⟨hit, found, mid⟩, lookup, same⟩ := map_eq_some_iff.mp entered
      cases same
      obtain ⟨cache, running, -⟩ := getVpid02_cache lookup
      refine ⟨?_, running⟩
      rw [cache]
      exact ok.findEvict (by decide) vpid12
  · obtain ⟨mid, executed, same⟩ := map_eq_some_iff.mp entered
    cases same
    rw [executeInvvpid_some executed]
    exact ⟨ok, rfl⟩

omit ok in
theorem NestedVpid.Held.finds {guest : NestedVpid} (held : guest.Held s.cache)
    (ok : LruSingle VMX_NESTED_MAX_ACTIVE_VPID s.cache) :
    (guest.enableVpid = true →
      (lruSetFindEvict VMX_NESTED_MAX_ACTIVE_VPID s.cache guest.vpid12).cacheHit = true) ∧
    ∃ s', vmcs02ToVmcs12ControlVpid linAddrBits s guest = some s' ∧
      LruSingle VMX_NESTED_MAX_ACTIVE_VPID s'.cache := by
  unfold NestedVpid.Held at held
  unfold vmcs02ToVmcs12ControlVpid
  cases enabled : guest.enableVpid with
  | false =>
    rw [enabled, if_neg Bool.false_ne_true] at held
    have allowed : ¬ ((InvvpidType.singleContext ≠ .allContexts ∧ (1 : U16) = 0) ∨
        (InvvpidType.singleContext = .individualAddress ∧ canonical linAddrBits 0 = false)) := by
      simp
    refine ⟨nofun, { s with log := s.log ++ [.invvpid .singleContext 1 0] }, ?_, ok⟩
    rw [if_neg Bool.false_ne_true, executeInvvpid, if_neg allowed]
    exact if_pos held
  | true =>
    rw [enabled, if_pos rfl] at held
    obtain ⟨nonzero, vpid, i, inside, last, key⟩ := held
    have live : (s.cache i).valid ≠ 0 := by
      rw [last]
      decide
    have young : (s.cache i).valid ≠ VMX_NESTED_MAX_ACTIVE_VPID := by
      rw [last]
      decide
    obtain ⟨hit, -⟩ := ok.findEvict_of_hits inside ⟨live, young, key⟩
    refine ⟨fun _ => hit, { s with
      cache := (lruSetFindEvict VMX_NESTED_MAX_ACTIVE_VPID s.cache guest.vpid12).set }, ?_,
      ok.findEvict (by decide) guest.vpid12⟩
    rw [if_pos rfl, if_neg nonzero, getVpid02, if_pos hit]
    exact if_pos ⟨rfl, vpid⟩

theorem handleInvvpid_single {type : U64} {reserved : Bool} {linearAddr : U64}
    (handled : handleInvvpid linAddrBits s type reserved vpid12 linearAddr = some s') :
    LruSingle VMX_NESTED_MAX_ACTIVE_VPID s'.cache ∧ s'.running = s.running := by
  have executed : ∀ {type vpid address}, executeInvvpid linAddrBits s type vpid address = some s' →
      LruSingle VMX_NESTED_MAX_ACTIVE_VPID s'.cache ∧ s'.running = s.running := by
    intro type vpid address executed
    rw [executeInvvpid_some executed]
    exact ⟨ok, rfl⟩
  have unchanged : some s = some s' →
      LruSingle VMX_NESTED_MAX_ACTIVE_VPID s'.cache ∧ s'.running = s.running := by
    intro same
    cases same
    exact ⟨ok, rfl⟩
  unfold handleInvvpid at handled
  split at handled
  · exact unchanged handled
  split at handled
  · -- one address
    split at handled
    · exact unchanged handled
    unfold invvpidIndivAddr at handled
    split at handled
    · cases handled
    split at handled
    · exact unchanged handled
    split at handled
    · exact executed handled
    · exact unchanged handled
  · -- one context
    split at handled
    · exact unchanged handled
    · cases handled
      exact ⟨ok.invalidate vpid12, rfl⟩
  · -- all contexts
    cases handled
    exact ⟨.invalidateAll _ _, rfl⟩
  · -- one context without global translations
    split at handled
    · exact unchanged handled
    unfold invvpidSingleCtxGlobal at handled
    split at handled
    · exact executed handled
    · exact unchanged handled
  · exact unchanged handled

end

theorem VpidRecent.step {op : VpidOp} (recent : VpidRecent s)
    (next : vpidStep linAddrBits s op = some s') : VpidRecent s' := by
  cases op with
  | enter enableVpid vpid12 succeeds =>
    obtain ⟨idle, entered⟩ := ite_none_left_eq_some.mp next
    obtain ⟨⟨accepted, vpid02, mid⟩, entry, rfl⟩ := map_eq_some_iff.mp entered
    obtain ⟨single, running⟩ := controlVpid_single recent.single entry
    dsimp only
    split
    · next accepts =>
      rw [(Bool.and_eq_true_iff.mp accepts).1] at entry
      refine ⟨single, fun guest same => ?_⟩
      cases same
      have held := controlVpid_held recent.single entry
      exact held
    · refine ⟨single, fun guest same => ?_⟩
      rw [running] at same
      exact absurd (Option.isSome_of_mem same) idle
  | exit =>
    obtain ⟨guest, running, exited⟩ := Option.bind_eq_some_iff.mp next
    obtain ⟨mid, left, rfl⟩ := map_eq_some_iff.mp exited
    obtain ⟨-, found, back, single⟩ := (recent.held guest running).finds recent.single
    cases left.symm.trans back
    exact ⟨single, nofun⟩
  | invvpid type reserved vpid12 linearAddr =>
    obtain ⟨idle, handled⟩ := ite_none_left_eq_some.mp next
    obtain ⟨single, running⟩ := handleInvvpid_single recent.single handled
    refine ⟨single, fun guest same => ?_⟩
    rw [running] at same
    exact absurd (Option.isSome_of_mem same) idle

theorem vpidRecent_of_reachable (reached : (vpidMachine linAddrBits).Reachable s) :
    VpidRecent s := by
  refine reached.invariant ?_ fun _ _ _ recent _ next => recent.step next
  rintro s ⟨lines, rfl⟩
  have free : ∀ i < VMX_NESTED_MAX_ACTIVE_VPID, (vpidInit lines i).valid = 0 := by
    intro i inside
    unfold vpidInit
    rw [if_pos inside]
    exact lruSetInvalidateAll_valid inside
  refine ⟨⟨⟨fun i inside => ?_, fun i inside _ _ live => absurd (free i inside) live⟩,
    fun _ i inside _ _ hits => absurd (free i inside) hits.1⟩, nofun⟩
  rw [free i inside]
  exact Nat.zero_le _

end

/-! ## Exits -/

namespace L2Cpu

def atTranslateBack (s : L2Cpu) : Bool :=
  match s.flush.stage, s.todo with
  | .outside, .translateBack :: _ | .blocked, .translateBack :: _ => true
  | _, _ => false

theorem atTranslateBack_iff {s : L2Cpu} : s.atTranslateBack = true ↔
    (s.flush.stage = .outside ∨ s.flush.stage = .blocked) ∧
      ∃ rest, s.todo = .translateBack :: rest := by
  unfold atTranslateBack
  split
  · next stage todo => simp [stage, todo]
  · next stage todo => simp [stage, todo]
  · next outside blocked =>
    refine ⟨nofun, ?_⟩
    rintro ⟨stage | stage, rest, todo⟩
    · exact absurd todo (outside rest stage)
    · exact absurd todo (blocked rest stage)

end L2Cpu

/-- With two lines or more, and as long as no request arrives while `_update_nested_nmi` has the
shadow VMCS loaded, or while an effect of the CPU's own is between its lookup and its write:
whenever the exit translates VMCS02 back, it has VMCS02 loaded, its lookup hits, VMCS02 holds
the root of the line found, and its assertions pass. The lookup of the guest VPID hits in any
case. -/
theorem exit_lookups_hit {cfg : L2Cfg} {linAddrBits : Nat} {s : L2Cpu} {v : VpidCpu}
    (lines : 2 ≤ cfg.cache.nlines)
    (reached : (l2Machine cfg).ReachableUnder L2Cpu.Undisturbed s)
    (vpids : (vpidMachine linAddrBits).Reachable v) :
    (s.atTranslateBack = true → s.ExitFinds cfg.cache) ∧ ∀ guest, v.running = some guest →
        (guest.enableVpid = true →
          (lruSetFindEvict VMX_NESTED_MAX_ACTIVE_VPID v.cache guest.vpid12).cacheHit = true) ∧
        (vmcs02ToVmcs12ControlVpid linAddrBits v guest).isSome = true := by
  constructor
  · intro returns
    have kept : s.Inv cfg.cache ∧ s.Recent cfg.cache :=
      reached.invariant (P := fun s => s.Inv cfg.cache ∧ s.Recent cfg.cache)
        (fun _ start => ⟨L2Cpu.Inv.init start, L2Cpu.Recent.init start⟩)
        fun _ _ _ kept calm step => ⟨kept.1.step calm step, kept.2.step lines kept.1 step⟩
    obtain ⟨inv, recent⟩ := kept
    obtain ⟨between, rest, next⟩ := L2Cpu.atTranslateBack_iff.mp returns
    obtain ⟨a, b, ready, after, -⟩ := inv.ready between next nofun
    obtain ⟨here, -⟩ := Option.ite_none_right_eq_some.mp after
    simp only [Bool.and_eq_true] at here
    have stage : s.flush.stage = .blocked := by
      have stage := ready.stage
      rw [here.2, if_pos rfl] at stage
      exact stage
    have loaded : a.loaded = .vmcs02 := by
      have settled := here.1.2
      simpa [Place.settled, here.1.1] using settled
    obtain ⟨fresh, latest⟩ := recent.returning stage rest next
    exact L2Cpu.exitFinds lines recent.single fresh latest (ready.vmcs02 loaded)
  · intro guest running
    have recent := vpidRecent_of_reachable vpids
    obtain ⟨hit, found, back, -⟩ := (recent.held guest running).finds recent.single
    rw [back]
    exact ⟨hit, rfl⟩

def sampleReturn : List L2Op := [.exit (.vmexit [] true), .advance, .advance]

theorem exit_lookups_hit_sample :
    ∃ (s : L2Cpu) (v : VpidCpu), s.guestEptRoot = some 0x6000 ∧ s.ExitFinds sampleL2Cfg.cache ∧
      v.running = some ⟨true, 5, 5⟩ ∧
      (vmcs02ToVmcs12ControlVpid 48 v ⟨true, 5, 5⟩).isSome = true := by
  have sample : ((l2Machine sampleL2Cfg).run sampleL2Cpu (sampleTwoL2s [] 8)).map (fun m =>
      (decide (m.flush.stage = .outside) && !m.shadowLoaded,
        ((l2Machine sampleL2Cfg).run (m.nmi sampleL2Cfg.cache MEMP_FLUSHTLB_ENTRY)
          sampleReturn).map fun s => (s.atTranslateBack, s.guestEptRoot))) =
      some (true, some (true, some 0x6000)) := by
    decide +kernel
  obtain ⟨m, before, result⟩ := Option.map_eq_some_iff.mp sample
  obtain ⟨calm, after⟩ := Prod.mk.inj result
  obtain ⟨s, after, result⟩ := Option.map_eq_some_iff.mp after
  obtain ⟨returns, root⟩ := Prod.mk.inj result
  simp only [Bool.and_eq_true, Bool.not_eq_true', decide_eq_true_eq] at calm
  have quiet : ∀ ops : List L2Op, (∀ flags, .nmi flags ∉ ops) →
      ∀ o ∈ ops, ∀ s : L2Cpu, s.Undisturbed o := by
    intro ops none o member s
    cases o with
    | exit path | advance => trivial
    | nmi flags => exact absurd member (none flags)
  have start : (l2Machine sampleL2Cfg).ReachableUnder L2Cpu.Undisturbed sampleL2Cpu :=
    .init sampleL2Cpu_starts
  have running := start.run (quiet _ (by simp [sampleTwoL2s, handled])) before
  have calm : m.Undisturbed (.nmi MEMP_FLUSHTLB_ENTRY) := fun _ _ => ⟨calm.2, by simp [calm.1]⟩
  have flushed : (l2Machine sampleL2Cfg).ReachableUnder L2Cpu.Undisturbed
      (m.nmi sampleL2Cfg.cache MEMP_FLUSHTLB_ENTRY) := .step running calm rfl
  have reached := flushed.run (quiet _ (by simp [sampleReturn])) after
  have vpids : (vpidMachine 48).Reachable
      (⟨vpidInit fun _ => ⟨0, 0, 0⟩, none, []⟩ : VpidCpu) := .init ⟨_, rfl⟩
  have entered : ((vpidMachine 48).run ⟨vpidInit fun _ => ⟨0, 0, 0⟩, none, []⟩
      [.enter true 5 true]).map VpidCpu.running = some (some ⟨true, 5, 5⟩) := rfl
  obtain ⟨v, entry, guest⟩ := Option.map_eq_some_iff.mp entered
  obtain ⟨finds, found⟩ := exit_lookups_hit (by decide) reached (vpids.run entry)
  exact ⟨s, v, root, finds returns, guest, (found _ guest).2⟩

/-- After a request while `_update_nested_nmi` has the shadow VMCS loaded, or in the middle of
the hypapp's own flush, the exit halts the CPU: its lookup hits, but VMCS02 holds another
pointer. -/
theorem exit_lookup_asserts : (∃ s, (l2Machine sampleL2Cfg).Reachable s ∧ s.atTranslateBack = true ∧
      ¬ s.ExitFinds sampleL2Cfg.cache) ∧
    ∃ s, (l2Machine sampleL2Cfg).Reachable s ∧ s.atTranslateBack = true ∧
      ¬ s.ExitFinds sampleL2Cfg.cache := by
  have start : (l2Machine sampleL2Cfg).Reachable sampleL2Cpu := .init sampleL2Cpu_starts
  have halts : ∀ {ops}, ((l2Machine sampleL2Cfg).run sampleL2Cpu ops).map (fun s =>
      (s.atTranslateBack, (s.translateBack sampleL2Cfg.cache).isSome)) = some (true, false) →
      ∃ s, (l2Machine sampleL2Cfg).Reachable s ∧ s.atTranslateBack = true ∧
        ¬ s.ExitFinds sampleL2Cfg.cache := by
    intro ops sample
    obtain ⟨s, run, result⟩ := Option.map_eq_some_iff.mp sample
    obtain ⟨returns, halted⟩ := Prod.mk.inj result
    exact ⟨s, start.run run, returns, fun finds => Bool.noConfusion (halted.symm.trans finds.passes)⟩
  constructor
  · exact @halts (sampleTwoL2s [true] 9 ++ [.nmi MEMP_FLUSHTLB_ENTRY, .advance, .advance] ++
      sampleReturn) (by decide +kernel)
  · exact @halts (sampleTwoL2s [] 8 ++
      [.exit (.vmexit [.hypapp (.flush MEMP_FLUSHTLB_EPTP)] false), .advance,
        .nmi MEMP_FLUSHTLB_ENTRY, .advance] ++ sampleReturn) (by decide +kernel)

end Xmhf
