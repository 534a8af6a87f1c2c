import Mathlib.Data.Set.Basic

/-!
# Multi-level lookup tables

A radix table is a store of nodes, each an array of entries. A lookup starts at
a root node with some number of levels below it; the key selects one entry per
level, and the entry either is absent, ends the lookup as a leaf, or points to
the node of the next level.

The invariant `Covers` describes such a table by ghost ownership: every owned
node has a level and the set of keys routed to it, an entry that points
onwards points to a node owned one level down for exactly the keys it routes,
and a leaf satisfies a given property `good` of its level, its entry and every
key it serves. Ownership is a function of the node, so no separate statement
that the nodes form a tree is needed.

* `Covers.walk_good`: every leaf a lookup finds is good for the key looked up.
* `Covers.write_entry`, `Covers.write_table`: the two updates by which a table
  grows keep the invariant.
* `Covers.walk_write_entry`, `Covers.walk_write_table`: the lookups that such an
  update leaves as they are.
-/

namespace Radix

open Function (update update_of_ne update_self)

inductive Slot (N : Type*) where
  | absent
  | leaf
  | table (next : N)

/-- How keys and entries are read: the index that a key selects at a level, and
what an entry of a level says. -/
structure Shape (N E I V : Type*) where
  idx : Nat → V → I
  slot : Nat → E → Slot N

variable {N E I V : Type*}

variable {e : E} {m n top p : N} {l k : Nat} {R T : Set V} {v w : V}

namespace Shape

variable (S : Shape N E I V)

def walk (store : N → I → E) (v : V) : Nat → N → Option (Nat × E)
  | 0, _ => none
  | l + 1, n =>
    match S.slot (l + 1) (store n (S.idx (l + 1) v)) with
    | .absent => none
    | .leaf => some (l + 1, store n (S.idx (l + 1) v))
    | .table m => walk store v l m

theorem walk_idx {store : N → I → E} :
    ∀ {l : Nat} {n : N}, (∀ k, 1 ≤ k → k ≤ l → S.idx k w = S.idx k v) →
      S.walk store w l n = S.walk store v l n := by
  intro l
  induction l with
  | zero => exact fun _ => rfl
  | succ l ih =>
    intro n same
    rw [walk, walk, same (l + 1) (by omega) le_rfl]
    cases S.slot (l + 1) (store n (S.idx (l + 1) v)) with
    | absent | leaf => rfl
    | table m => exact ih fun k low high => same k low (by omega)

/-- The keys of `R` that select the same entry as `v` at level `l`. -/
def route (R : Set V) (l : Nat) (v : V) : Set V := {w | w ∈ R ∧ S.idx l w = S.idx l v}

/-- An entry met by the key `v` in a node that is owned at level `l + 1` for the
keys `R` is what the ownership `own` says. -/
def EntryOk (good : Nat → E → V → Prop) (own : N → Option (Nat × Set V)) (R : Set V) (l : Nat)
    (e : E) (v : V) : Prop :=
  match S.slot (l + 1) e with
  | .absent => True
  | .leaf => good (l + 1) e v
  | .table m => own m = some (l, S.route R (l + 1) v)

/-- The ghost ownership `own` describes the store, and its leaves are good. -/
def Covers (good : Nat → E → V → Prop) (store : N → I → E) (own : N → Option (Nat × Set V)) :
    Prop :=
  ∀ n l R, own n = some (l + 1, R) → ∀ v ∈ R, S.EntryOk good own R l (store n (S.idx (l + 1) v)) v

end Shape

variable {S : Shape N E I V} {good : Nat → E → V → Prop} {store : N → I → E}
  {own : N → Option (Nat × Set V)}

theorem Shape.mem_route (member : v ∈ R) (l : Nat) : v ∈ S.route R l v :=
  ⟨member, rfl⟩

theorem Shape.route_eq (same : S.idx l w = S.idx l v) : S.route R l w = S.route R l v := by
  ext u
  simp only [Shape.route, Set.mem_ofPred_eq, same]

theorem Shape.EntryOk.own_fresh [DecidableEq N] (ok : S.EntryOk good own R l e v)
    (unowned : own m = none) (x : Option (Nat × Set V)) :
    S.EntryOk good (update own m x) R l e v := by
  unfold Shape.EntryOk at ok ⊢
  cases slot : S.slot (l + 1) e with
  | absent => trivial
  | leaf => simpa only [slot] using ok
  | table m' =>
    simp only [slot] at ok ⊢
    have other : m' ≠ m := by
      rintro rfl
      rw [unowned] at ok
      cases ok
    rw [update_of_ne other]
    exact ok

section

variable (covers : S.Covers good store own)

include covers

section

variable (owned : own n = some (l + 1, R))

include owned

theorem Shape.Covers.table (member : v ∈ R)
    (points : S.slot (l + 1) (store n (S.idx (l + 1) v)) = .table m) :
    own m = some (l, S.route R (l + 1) v) := by
  have entry := covers n l R owned v member
  rw [Shape.EntryOk, points] at entry
  exact entry

omit owned in
theorem Shape.Covers.walk_good :
    ∀ {l : Nat} {n : N} {R : Set V} {v : V}, own n = some (l, R) → v ∈ R →
      ∀ {k : Nat} {e : E}, S.walk store v l n = some (k, e) → good k e v := by
  intro l
  induction l with
  | zero =>
    intro n R v _ _ k e found
    cases found
  | succ l ih =>
    intro n R v owned member k e found
    have entry := covers n l R owned v member
    unfold Shape.EntryOk at entry
    rw [Shape.walk] at found
    cases slot : S.slot (l + 1) (store n (S.idx (l + 1) v)) with
    | absent =>
      simp only [slot] at found
      cases found
    | leaf =>
      simp only [slot] at found entry
      cases found
      exact entry
    | table m =>
      simp only [slot] at found entry
      exact ih entry (Shape.mem_route member (l + 1)) found

theorem Shape.Covers.write_entry [DecidableEq N] [DecidableEq I]
    (fits : ∀ w ∈ S.route R (l + 1) v, S.EntryOk good own R l e w) :
    S.Covers good
      (update store n (update (store n) (S.idx (l + 1) v) e)) own := by
  intro n' l' R' owned' w member
  by_cases node : n' = n
  · subst node
    have same := owned'.symm.trans owned
    cases same
    rw [update_self]
    by_cases index : S.idx (l + 1) w = S.idx (l + 1) v
    · rw [index, update_self]
      exact fits w ⟨member, index⟩
    · rw [update_of_ne index]
      exact covers n' l R owned' w member
  · rw [update_of_ne node]
    exact covers n' l' R' owned' w member

theorem Shape.Covers.write_table [DecidableEq N] [DecidableEq I] {fresh : I → E}
    (unowned : own m = none) (table : S.slot (l + 1) e = .table m)
    (empty : ∀ k i, S.slot k (fresh i) = .absent) :
    S.Covers good (update (update store m fresh) n (update (store n) (S.idx (l + 1) v) e))
      (update own m (some (l, S.route R (l + 1) v))) := by
  have distinct : n ≠ m := by
    rintro rfl
    rw [owned] at unowned
    cases unowned
  intro n' l' R' owned' w member
  by_cases node : n' = n
  · subst node
    rw [update_of_ne distinct] at owned'
    have same := owned'.symm.trans owned
    cases same
    rw [update_self]
    by_cases index : S.idx (l + 1) w = S.idx (l + 1) v
    · rw [index, update_self, Shape.EntryOk, table]
      simp only [update_self, Shape.route_eq index]
    · rw [update_of_ne index]
      exact (covers n' l R owned' w member).own_fresh unowned _
  · rw [update_of_ne node]
    by_cases new : n' = m
    · subst new
      simp only [Shape.EntryOk, update_self, empty]
    · rw [update_of_ne new] at owned' ⊢
      exact (covers n' l' R' owned' w member).own_fresh unowned _

/-! ## Lookups after an update -/

omit owned in
theorem Shape.Covers.walk_agree {store' : N → I → E}
    (agree : ∀ n l R, own n = some (l + 1, R) → v ∈ R → store' n (S.idx (l + 1) v) =
      store n (S.idx (l + 1) v) ∨ S.slot (l + 1) (store n (S.idx (l + 1) v)) = .absent ∧
        S.walk store' v (l + 1) n = none)
    :
    ∀ {l : Nat} {n : N} {R : Set V}, own n = some (l, R) → v ∈ R →
      S.walk store' v l n = S.walk store v l n := by
  intro l
  induction l with
  | zero => exact fun _ _ => rfl
  | succ l ih =>
    intro n R owned member
    rcases agree n l R owned member with same | ⟨absent, fails⟩
    · have entry := covers n l R owned v member
      rw [Shape.walk, Shape.walk, same]
      unfold Shape.EntryOk at entry
      cases slot : S.slot (l + 1) (store n (S.idx (l + 1) v)) with
      | absent | leaf => rfl
      | table m =>
        simp only [slot] at entry
        exact ih entry (Shape.mem_route member (l + 1))
    · rw [fails, Shape.walk, absent]

omit owned in
theorem Shape.Covers.congr {store' : N → I → E} (same : ∀ n, own n ≠ none → store' n = store n)
    : S.Covers good store' own := by
  intro n l R owned v member
  rw [same n (by rw [owned]; nofun)]
  exact covers n l R owned v member

omit owned in
theorem Shape.Covers.walk_congr {store' : N → I → E}
    (same : ∀ n, own n ≠ none → store' n = store n) (owned : own n = some (l, R)) (member : v ∈ R) :
    S.walk store' v l n = S.walk store v l n := by
  refine covers.walk_agree (fun n l R owned _ => .inl ?_) owned member
  rw [same n (by rw [owned]; nofun)]

theorem Shape.Covers.walk_write_entry [DecidableEq N] [DecidableEq I]
    (elsewhere : w ∉ S.route R (l + 1) v) (ownedTop : own top = some (k, T)) (member : w ∈ T) :
    S.walk (update store n (update (store n) (S.idx (l + 1) v) e)) w k top =
      S.walk store w k top := by
  refine covers.walk_agree (fun n' l' R' owned' member' => .inl ?_) ownedTop member
  by_cases node : n' = n
  · subst node
    cases owned'.symm.trans owned
    rw [update_self, update_of_ne fun index => elsewhere ⟨member', index⟩]
  · rw [update_of_ne node]

theorem Shape.Covers.walk_write_table [DecidableEq N] [DecidableEq I] {fresh : I → E}
    (unowned : own m = none) (absent : S.slot (l + 1) (store n (S.idx (l + 1) v)) = .absent)
    (table : S.slot (l + 1) e = .table m) (empty : ∀ k i, S.slot k (fresh i) = .absent)
    (ownedTop : own top = some (k, T)) (member : w ∈ T) :
    S.walk (update (update store m fresh) n
      (update (store n) (S.idx (l + 1) v) e)) w k top = S.walk store w k top := by
  have distinct : ∀ {n' : N} {x}, own n' = some x → n' ≠ m := by
    rintro n' x owned' rfl
    rw [owned'] at unowned
    cases unowned
  refine covers.walk_agree (fun n' l' R' owned' member' => ?_) ownedTop member
  by_cases node : n' = n
  · subst node
    cases owned'.symm.trans owned
    by_cases index : S.idx (l + 1) w = S.idx (l + 1) v
    · refine .inr ⟨index ▸ absent, ?_⟩
      rw [Shape.walk, update_self, index, update_self, table]
      -- the fresh table holds nothing
      cases l with
      | zero => rfl
      | succ l =>
        dsimp only
        rw [Shape.walk, update_of_ne (distinct owned).symm, update_self, empty]
    · rw [update_self, update_of_ne index]
      exact .inl rfl
  · rw [update_of_ne node, update_of_ne (distinct owned')]
    exact .inl rfl

end

end

/-- The lookup of `v` goes from one node to another. -/
inductive Shape.Path (S : Shape N E I V) (store : N → I → E) (v : V) : Nat → N → Nat → N → Prop
  | refl {l : Nat} {n : N} : Path S store v l n l n
  | step {l k : Nat} {n m p : N} (table : S.slot (l + 1) (store n (S.idx (l + 1) v)) = .table m)
      (rest : Path S store v l m k p) : Path S store v (l + 1) n k p

section

variable (path : S.Path store v l n k p)

include path

theorem Shape.Path.walk : S.walk store v l n = S.walk store v k p := by
  induction path with
  | refl => rfl
  | step table rest ih => rw [Shape.walk, table, ← ih]

theorem Shape.Path.le : k ≤ l := by
  induction path with
  | refl => exact le_rfl
  | step _ _ ih => omega

theorem Shape.Path.idx (same : ∀ j, k < j → j ≤ l → S.idx j w = S.idx j v)
    : S.Path store w l n k p := by
  induction path with
  | refl => exact .refl
  | @step l k n m p table rest ih =>
    refine .step (m := m) ?_ (ih fun j above upto => same j above (by omega))
    rw [same (l + 1) (Nat.lt_succ_of_le rest.le) le_rfl]
    exact table

theorem Shape.Path.congr {store' : N → I → E} (covers : S.Covers good store own)
    (same : ∀ n' l' R', own n' = some (l', R') → k < l' → store' n' = store n')
    (owned : own n = some (l, R)) (member : v ∈ R) : S.Path store' v l n k p := by
  induction path generalizing R with
  | refl => exact .refl
  | @step l k n m p table rest ih =>
    have below := covers.table owned member table
    refine .step (m := m) ?_ (ih same below (Shape.mem_route member (l + 1)))
    rw [same n (l + 1) R owned (Nat.lt_succ_of_le rest.le)]
    exact table

end

end Radix
