import Mathlib.Data.List.Perm.Basic
import Xmhf.Lib.Machine

/-!
# Recorded allocations

`xmhf-mm.c`: blocks recorded in a list (`xmhfc-dlist.c`), so that all of them can be freed together.
Here the list is the sequence of its nodes, and `none` is a free of a block that is not in use, as
a second free is, or an access through NULL.

Two slips: it is not noticed that a node cannot be allocated, and a pointer that is not recorded
frees the block of the last record.
-/

namespace Xmhf

/-- A node of the list, the `xmhf_mm_alloc_info` it points to, and the block recorded there. -/
structure MmRecord where
  node : Nat
  record : Nat
  hva : Nat
deriving DecidableEq

/-- The blocks in use, and the list with its records. -/
structure MmHeap where
  live : List Nat
  list : Nat
  records : List MmRecord

/-- `xmhf_tlsf_memalign`: a block that is not in use, or none for any reason. -/
structure MmAllocator where
  memalign : (request : Nat) → (live : List Nat) → Option Nat
  fresh : ∀ request live p, memalign request live = some p → p ∉ live

namespace MmHeap

/-- `xmhf_mm_free`, which is not called with NULL here. -/
def free (s : MmHeap) (p : Nat) : Option MmHeap :=
  if p ∈ s.live then some { s with live := s.live.erase p } else none

/-- `xmhf_mm_alloc_align_with_record`, with the requests for the block, its record and the node. -/
def allocWithRecord (A : MmAllocator) (s : MmHeap) (block info node : Nat) :
    Option (Option Nat × MmHeap) :=
  match A.memalign block s.live with
  | none => some (none, s)
  | some p =>
    match A.memalign info (p :: s.live) with
    | none => (free { s with live := p :: s.live } p).map (none, ·)
    | some record =>
      match A.memalign node (record :: p :: s.live) with
      -- NULL is returned by `xmhfstl_list_enqueue`, and not looked at
      | none => some (some p, { s with live := record :: p :: s.live })
      | some node => some (some p, { s with
          live := node :: record :: p :: s.live, records := s.records ++ [⟨node, record, p⟩] })

/-- `xmhf_mm_free_from_record`. The loop leaves `record` at the first one with this pointer, else at
the last one. -/
def freeFromRecord (s : MmHeap) (ptr : Nat) : Option MmHeap :=
  if ptr = 0 then some s
  else match s.records.find? (·.hva = ptr) with
    | some r => [r.node, r.hva, r.record].foldlM free { s with records := s.records.erase r }
    | none => s.records.getLast?.bind fun r => [r.hva, r.record].foldlM free s

/-- The blocks of a list, in the order in which they are freed with it. -/
def blocks (list : Nat) (records : List MmRecord) : List Nat :=
  records.map MmRecord.hva ++ records.map MmRecord.record ++ records.map MmRecord.node ++ [list]

/-- `xmhf_mm_free_all_records` -/
def freeAllRecords (s : MmHeap) : Option MmHeap := (blocks s.list s.records).foldlM free s

end MmHeap

inductive MmOp where
  | alloc (block info node : Nat)
  | free (ptr : Nat)

/-- What a call returns, and the heap after it. -/
def mmCall (A : MmAllocator) (s : MmHeap) : MmOp → Option (Option Nat × MmHeap)
  | .alloc block info node => s.allocWithRecord A block info node
  | .free ptr => (s.freeFromRecord ptr).map (none, ·)

def mmMachine (A : MmAllocator) : Machine MmHeap MmOp where
  init s := ∃ list, s = ⟨[list], list, []⟩
  step s op := (mmCall A s op).map Prod.snd

/-- The blocks in use are those of the list, each once. -/
structure MmHeap.Inv (s : MmHeap) : Prop where
  owned : s.live.Perm (blocks s.list s.records)
  distinct : s.live.Nodup

/-- A block that is returned is recorded, and otherwise nothing is left; a recorded pointer frees
the blocks of its record, and another one nothing. -/
def MmRight (A : MmAllocator) (s : MmHeap) (op : MmOp) : Prop :=
  ∃ result s', mmCall A s op = some (result, s') ∧ s'.Inv ∧ match op, result with
    | .alloc .., none => s' = s
    | .alloc .., some p => ∃ r, r.hva = p ∧ s'.records = s.records ++ [r]
    | .free ptr, _ => (ptr = 0 ∨ ∀ r ∈ s.records, r.hva ≠ ptr) ∧ s' = s ∨
      ∃ r ∈ s.records, r.hva = ptr ∧ s'.records = s.records.erase r ∧
        s.live.Perm ([r.node, r.hva, r.record] ++ s'.live)

/-- A node does not fail alone, and a pointer is NULL or recorded. -/
def MmOk (A : MmAllocator) (s : MmHeap) : MmOp → Prop
  | .alloc block info node => ∀ p record, A.memalign block s.live = some p →
      A.memalign info (p :: s.live) = some record → A.memalign node (record :: p :: s.live) ≠ none
  | .free ptr => ptr = 0 ∨ ∃ r ∈ s.records, r.hva = ptr

namespace MmHeap

variable {A : MmAllocator} {s s' : MmHeap}

theorem foldlM_free {xs rest : List Nat} (live : s.live.Perm (xs ++ rest)) :
    ∃ left, left.Perm rest ∧ xs.foldlM free s = some { s with live := left } := by
  induction xs generalizing s with
  | nil => exact ⟨s.live, live, rfl⟩
  | cons x xs ih =>
    have next := live.erase x
    rw [List.cons_append, List.erase_cons_head] at next
    obtain ⟨left, kept, freed⟩ := @ih { s with live := s.live.erase x } next
    refine ⟨left, kept, ?_⟩
    rw [List.foldlM_cons, free, if_pos (live.mem_iff.mpr List.mem_cons_self)]
    exact freed

theorem blocks_perm {list : Nat} {r : MmRecord} {rs rs' : List MmRecord}
    (perm : rs.Perm (r :: rs')) :
    (blocks list rs).Perm ([r.node, r.hva, r.record] ++ blocks list rs') := by
  rw [List.perm_iff_count]
  intro x
  have hvas := (perm.map MmRecord.hva).count_eq x
  have records := (perm.map MmRecord.record).count_eq x
  have nodes := (perm.map MmRecord.node).count_eq x
  simp only [blocks, List.map_cons, List.count_append, List.count_cons, List.count_nil] at *
  omega

theorem Inv.free (inv : s.Inv) {ptr : Nat} (ok : MmOk A s (.free ptr)) :
    MmRight A s (.free ptr) := by
  rw [MmRight, mmCall, freeFromRecord]
  by_cases zero : ptr = 0
  · rw [if_pos zero]
    exact ⟨none, s, rfl, inv, .inl ⟨.inl zero, rfl⟩⟩
  cases found : s.records.find? (·.hva = ptr) with
  | none =>
    obtain ⟨r, mem, same⟩ := ok.resolve_left zero
    exact absurd (decide_eq_true same) (List.find?_eq_none.mp found r mem)
  | some r =>
    have mem := List.mem_of_find?_eq_some found
    have parts := inv.owned.trans (blocks_perm (List.perm_cons_erase mem))
    obtain ⟨left, kept, freed⟩ := @foldlM_free { s with records := s.records.erase r } _ _ parts
    have split := parts.trans (kept.symm.append_left [r.node, r.hva, r.record])
    rw [if_neg zero]
    dsimp only
    rw [freed]
    refine ⟨none, _, rfl, ⟨kept, ?_⟩, .inr ⟨r, mem, ?_, rfl, split⟩⟩
    · exact (List.nodup_append.mp (split.nodup_iff.mp inv.distinct)).2.1
    · simpa using List.find?_some found

theorem Inv.alloc (inv : s.Inv) {block info node : Nat} (ok : MmOk A s (.alloc block info node)) :
    MmRight A s (.alloc block info node) := by
  rw [MmRight, mmCall, allocWithRecord]
  cases first : A.memalign block s.live with
  | none => exact ⟨none, s, rfl, inv, rfl⟩
  | some p =>
    dsimp only
    cases second : A.memalign info (p :: s.live) with
    | none => exact ⟨none, s, by simp [MmHeap.free], inv, rfl⟩
    | some record =>
      dsimp only
      cases third : A.memalign node (record :: p :: s.live) with
      | none => exact absurd third (ok p record first second)
      | some node =>
        have added := @blocks_perm s.list _ _ _
          (List.perm_append_singleton (⟨node, record, p⟩ : MmRecord) s.records)
        refine ⟨some p, _, rfl, ⟨?_, ?_⟩, _, rfl, rfl⟩
        · refine List.Perm.trans (.cons node ?_) added.symm
          exact (List.Perm.swap p record _).trans ((inv.owned.cons record).cons p)
        · simp only [List.nodup_cons]
          exact ⟨A.fresh _ _ _ third, A.fresh _ _ _ second, A.fresh _ _ _ first, inv.distinct⟩

theorem Inv.right (inv : s.Inv) {op : MmOp} (ok : MmOk A s op) : MmRight A s op := by
  cases op with
  | alloc => exact inv.alloc ok
  | free => exact inv.free ok

theorem Inv.step (inv : s.Inv) {op : MmOp} (ok : MmOk A s op)
    (step : (mmMachine A).step s op = some s') : s'.Inv := by
  obtain ⟨result, next, call, inv', -⟩ := inv.right ok
  simp only [mmMachine, call, Option.map_some, Option.some.injEq] at step
  exact step ▸ inv'

end MmHeap

/-- As long as no call meets one of the slips, the blocks in use are those of the list, and freeing
it frees each of them, once, and leaves nothing. -/
theorem records_own_blocks {A : MmAllocator} {s : MmHeap}
    (reached : (mmMachine A).ReachableUnder (MmOk A) s) :
    s.Inv ∧ (∀ op, MmOk A s op → MmRight A s op) ∧
      ∃ s', s.freeAllRecords = some s' ∧ s'.live = [] := by
  have inv : s.Inv := by
    refine reached.invariant ?_ fun _ _ _ inv ok => inv.step ok
    rintro s ⟨list, rfl⟩
    exact ⟨.refl _, List.pairwise_singleton _ _⟩
  obtain ⟨left, none_, freed⟩ := @MmHeap.foldlM_free s _ [] (by simpa using inv.owned)
  exact ⟨inv, fun op => inv.right, _, freed, List.perm_nil.mp none_⟩

/-- Every request names the block that it gets. -/
def sampleMmAllocator : MmAllocator where
  memalign request live := if request ∈ live then none else some request
  fresh request live p got := by
    obtain ⟨free, rfl⟩ := unless_some.mp got
    exact free

theorem records_own_blocks_sample : ∃ s s' : MmHeap,
    s.records = [⟨4, 3, 2⟩] ∧ s.freeAllRecords = some s' ∧ s'.live = [] := by
  have start : (mmMachine sampleMmAllocator).ReachableUnder (MmOk sampleMmAllocator) ⟨[1], 1, []⟩ :=
    .init ⟨1, rfl⟩
  have reached := start.step (o := .alloc 2 3 4) (by rintro _ _ ⟨⟩ ⟨⟩ ⟨⟩) rfl
  obtain ⟨s', freed, none_⟩ := (records_own_blocks reached).2.2
  exact ⟨_, s', rfl, freed, none_⟩

/-- Without a node the block is returned and not recorded; a pointer that is not recorded frees the
blocks of the only record, whose node stays, or reads NULL. -/
theorem records_lose_blocks :
    (∃ s, (mmMachine sampleMmAllocator).Reachable s ∧
      ¬ MmRight sampleMmAllocator s (.alloc 2 3 1) ∧ ¬ MmRight sampleMmAllocator s (.free 9)) ∧
    ∃ s, (mmMachine sampleMmAllocator).Reachable s ∧ s.records ≠ [] ∧
      ¬ MmRight sampleMmAllocator s (.free 9) := by
  have start : (mmMachine sampleMmAllocator).Reachable ⟨[1], 1, []⟩ := .init ⟨1, rfl⟩
  refine ⟨⟨_, start, ?_, nofun⟩, _, start.step (o := .alloc 2 3 4) trivial rfl, nofun, ?_⟩
  all_goals
    rintro ⟨_, _, ⟨⟩, inv, -⟩
    exact absurd inv.owned.length_eq (by decide)

end Xmhf
