import Mathlib.Data.List.Basic

/-!
# Cached stores

A device holds a store, and a program works on a cached copy of it: it refreshes some
fields of the copy, writes to the copy and puts some fields back. Refreshing and putting
back only what the program touches is the usual shortcut for doing so with every field.
Both come down to the writes made on the device itself: the full round trip always
(`putBack_writes_refresh`), the shortcut under the condition of `putBack_writes_iff`.
-/

namespace Writeback

variable {ι : Type*} {β : ι → Type*}

/-- The copy after the fields in `fresh` have been read from the device. -/
def refresh (fresh : ι → Bool) (device copy : ∀ i, β i) : ∀ i, β i :=
  fun i => if fresh i then device i else copy i

/-- The device after the fields in `back` have been written from the copy. -/
def putBack (back : ι → Bool) (device copy : ∀ i, β i) : ∀ i, β i :=
  fun i => if back i then copy i else device i

variable {fresh back : ι → Bool} {device copy : ∀ i, β i} {i : ι}

theorem refresh_fresh (read : fresh i = true) : refresh fresh device copy i = device i := by
  rw [refresh, if_pos read]

theorem refresh_stale (stale : fresh i = false) : refresh fresh device copy i = copy i := by
  rw [refresh, stale]
  rfl

variable [DecidableEq ι] {ws : List (Sigma β)}

def writes (ws : List (Sigma β)) (copy : ∀ i, β i) : ∀ i, β i :=
  ws.foldl (fun copy w => Function.update copy w.1 w.2) copy

theorem writes_append (ws ws' : List (Sigma β)) (copy : ∀ i, β i) :
    writes (ws ++ ws') copy = writes ws' (writes ws copy) :=
  List.foldl_append

theorem writes_other (other : i ∉ ws.map Sigma.fst) : writes ws copy i = copy i := by
  induction ws generalizing copy with
  | nil => rfl
  | cons w ws ih =>
    rw [List.map_cons, List.mem_cons, not_or] at other
    exact (ih other.2).trans (Function.update_of_ne other.1 _ _)

theorem writes_mem (written : i ∈ ws.map Sigma.fst) (copy' : ∀ i, β i) :
    writes ws copy i = writes ws copy' i := by
  induction ws generalizing copy copy' with
  | nil => cases written
  | cons w ws ih =>
    by_cases later : i ∈ ws.map Sigma.fst
    · exact ih later _
    · have here : i = w.1 := by
        rw [List.map_cons, List.mem_cons] at written
        exact written.resolve_right later
      subst here
      change writes ws _ w.1 = writes ws _ w.1
      rw [writes_other later, writes_other later]
      dsimp only
      rw [Function.update_self, Function.update_self]

theorem putBack_writes_refresh (covered : ∀ i ∈ ws.map Sigma.fst, back i = true)
    (read : ∀ i, back i = true → fresh i = true) :
    putBack back device (writes ws (refresh fresh device copy)) = writes ws device := by
  funext i
  by_cases written : i ∈ ws.map Sigma.fst
  · rw [putBack, if_pos (covered i written)]
    exact writes_mem written _
  · rw [putBack, writes_other written, writes_other written]
    split
    · next put => exact refresh_fresh (read i put)
    · rfl

theorem putBack_writes_iff (covered : ∀ i ∈ ws.map Sigma.fst, back i = true) :
    putBack back device (writes ws copy) = writes ws device ↔
      ∀ i, back i = true → i ∉ ws.map Sigma.fst → copy i = device i := by
  constructor
  · intro same i put other
    have field := congrFun same i
    rw [putBack, if_pos put, writes_other other, writes_other other] at field
    exact field
  · intro current
    funext i
    by_cases written : i ∈ ws.map Sigma.fst
    · rw [putBack, if_pos (covered i written)]
      exact writes_mem written _
    · rw [putBack, writes_other written, writes_other written]
      split
      · next put => exact current i put written
      · rfl

end Writeback
