import Mathlib.Order.Interval.Finset.Nat

/-!
# The software LRU cache

`xmhf-lru.h`: a fully associative set of cache lines. A line has an order count
`valid`, 0 for a free line, 1 for the line used last and `nlines` for the line to
be evicted next. A lookup finds the line of a key or takes a line for it.

The array `elems` is a total function. The source takes the line at index
`nlines` when its search finds neither a free line nor one to evict;
`LruOrdered.findEvict` shows that it does not come to that.
-/

namespace Xmhf

structure LruLine (κ ν : Type*) where
  valid : Nat
  key : κ
  value : ν

/-- The `elems` of a set. -/
abbrev LruSet (κ ν : Type*) := Nat → LruLine κ ν

variable {κ ν : Type*}

/-- `LRU_SET_INVALIDATE_ALL`, and `LRU_SET_INIT`, which is the same loop. -/
def lruSetInvalidateAll (nlines : Nat) (set : LruSet κ ν) : LruSet κ ν := fun i =>
  if i < nlines then { set i with valid := 0 } else set i

/-- `LRU_SET_FIND_IMMUTABLE`: the first live line of the key. -/
def lruSetFindImmutable [DecidableEq κ] (nlines : Nat) (set : LruSet κ ν) (key : κ) :
    Option Nat :=
  (List.range nlines).find? fun i => decide ((set i).valid ≠ 0 ∧ (set i).key = key)

def lruSetInvalidate [DecidableEq κ] (nlines : Nat) (set : LruSet κ ν) (key : κ) :
    LruSet κ ν :=
  match lruSetFindImmutable nlines set key with
  | some i => Function.update set i { set i with valid := 0 }
  | none => set

/-! ## Find or evict -/

structure LruSearch where
  ansIndex : Nat
  availableIndex : Nat
  evictIndex : Nat
  maxValid : Nat
  cacheHit : Bool

/-- The search loop, over the indices that remain. The line to be evicted next
is recognised before its key is looked at. -/
def lruSearch [DecidableEq κ] (nlines : Nat) (set : LruSet κ ν) (key : κ) :
    List Nat → LruSearch → LruSearch
  | [], acc => acc
  | i :: rest, acc =>
    if (set i).valid = 0 then lruSearch nlines set key rest { acc with availableIndex := i }
    else if (set i).valid = nlines then
      lruSearch nlines set key rest { acc with evictIndex := i }
    else if (set i).key = key then
      { acc with cacheHit := true, ansIndex := i, maxValid := (set i).valid }
    else lruSearch nlines set key rest acc

/-- The second loop: every line used after the one that is now used ages. -/
def lruAge (nlines maxValid : Nat) (set : LruSet κ ν) : LruSet κ ν := fun i =>
  if i < nlines ∧ (set i).valid ≠ 0 ∧ (set i).valid < maxValid then
    { set i with valid := (set i).valid + 1 }
  else set i

/-- The line `i` becomes the line of `key`, used last. -/
def lruTouch (nlines maxValid : Nat) (set : LruSet κ ν) (i : Nat) (key : κ) : LruSet κ ν :=
  Function.update (lruAge nlines maxValid set) i
    { lruAge nlines maxValid set i with valid := 1, key := key }

structure LruFound (κ ν : Type*) where
  index : Nat
  cacheHit : Bool
  set : LruSet κ ν

def lruSetFindEvict [DecidableEq κ] (nlines : Nat) (set : LruSet κ ν) (key : κ) :
    LruFound κ ν :=
  let found := lruSearch nlines set key (List.range nlines) ⟨nlines, nlines, nlines, nlines, false⟩
  let index :=
    if found.cacheHit then found.ansIndex
    else if found.availableIndex < nlines then found.availableIndex
    else found.evictIndex
  ⟨index, found.cacheHit, lruTouch nlines found.maxValid set index key⟩

/-! ## What the search finds -/

def LruHits (nlines : Nat) (set : LruSet κ ν) (key : κ) (i : Nat) : Prop :=
  (set i).valid ≠ 0 ∧ (set i).valid ≠ nlines ∧ (set i).key = key

instance [DecidableEq κ] (nlines : Nat) (set : LruSet κ ν) (key : κ) :
    DecidablePred (LruHits nlines set key) :=
  fun _ => inferInstanceAs (Decidable (_ ∧ _ ∧ _))

inductive LruFindCase (nlines : Nat) (set : LruSet κ ν) (key : κ) : LruFound κ ν → Prop where
  | hit (i : Nat) (inside : i < nlines) (hits : LruHits nlines set key i)
      (first : ∀ j < i, ¬ LruHits nlines set key j) :
      LruFindCase nlines set key ⟨i, true, lruTouch nlines (set i).valid set i key⟩
  | cold (i : Nat) (inside : i < nlines) (free : (set i).valid = 0)
      (misses : ∀ j < nlines, ¬ LruHits nlines set key j) :
      LruFindCase nlines set key ⟨i, false, lruTouch nlines nlines set i key⟩
  | capacity (i : Nat) (full : ∀ j < nlines, (set j).valid ≠ 0)
      (misses : ∀ j < nlines, ¬ LruHits nlines set key j)
      (oldest : i < nlines ∧ (set i).valid = nlines ∨
        i = nlines ∧ ∀ j < nlines, (set j).valid ≠ nlines) :
      LruFindCase nlines set key ⟨i, false, lruTouch nlines nlines set i key⟩

theorem mem_of_range_split {n i j : Nat} {before after : List Nat}
    (split : List.range n = before ++ i :: after) (lt : j < i) : j ∈ before := by
  have inside : i < n := by
    rw [← List.mem_range, split]
    simp
  have at_length : i = before.length := by
    have value := congrArg (fun l => l[before.length]?) split
    have bound : before.length < n := by
      have lengths := congrArg List.length split
      simp only [List.length_range, List.length_append, List.length_cons] at lengths
      omega
    simpa [List.getElem?_range bound] using value.symm
  have value := congrArg (fun l => l[j]?) split
  rw [List.getElem?_range (by omega), List.getElem?_append_left (by omega)] at value
  exact List.mem_of_getElem? value.symm

section

variable [DecidableEq κ] {nlines : Nat} {set : LruSet κ ν} {key : κ}

/-- A search through `l` that stops at the first line that hits. -/
def LruStops (nlines : Nat) (set : LruSet κ ν) (key : κ) (l : List Nat) (found : LruSearch) : Prop :=
  ∃ before i after, l = before ++ i :: after ∧ (∀ j ∈ before, ¬ LruHits nlines set key j) ∧
    LruHits nlines set key i ∧ found.ansIndex = i ∧ found.maxValid = (set i).valid

theorem lruSearch_hit {l : List Nat} {acc : LruSearch} (start : acc.cacheHit = false)
    (found : (lruSearch nlines set key l acc).cacheHit = true) :
    LruStops nlines set key l (lruSearch nlines set key l acc) := by
  induction l generalizing acc with
  | nil =>
    rw [lruSearch, start] at found
    cases found
  | cons i rest ih =>
    rw [lruSearch] at found ⊢
    -- A line that does not hit is passed over.
    have pass {acc' : LruSearch} (misses : ¬ LruHits nlines set key i) :
        LruStops nlines set key rest acc' → LruStops nlines set key (i :: rest) acc' := by
      rintro ⟨before, k, after, rfl, none, stop⟩
      exact ⟨i :: before, k, after, rfl, List.forall_mem_cons.mpr ⟨misses, none⟩, stop⟩
    split at found
    · next free =>
      rw [if_pos free]
      exact pass (fun hits => hits.1 free) (ih start found)
    · next live =>
      rw [if_neg live]
      split at found
      · next last =>
        rw [if_pos last]
        exact pass (fun hits => hits.2.1 last) (ih start found)
      · next young =>
        rw [if_neg young]
        split at found
        · next same =>
          rw [if_pos same]
          exact ⟨[], i, rest, rfl, by simp, ⟨live, young, same⟩, rfl, rfl⟩
        · next other =>
          rw [if_neg other]
          exact pass (fun hits => other hits.2.2) (ih start found)

structure LruMissed (nlines : Nat) (set : LruSet κ ν) (key : κ) (l : List Nat)
    (acc found : LruSearch) : Prop where
  misses : ∀ j ∈ l, ¬ LruHits nlines set key j
  maxValid : found.maxValid = acc.maxValid
  available : (found.availableIndex ∈ l ∧ (set found.availableIndex).valid = 0) ∨
    found.availableIndex = acc.availableIndex ∧ ∀ j ∈ l, (set j).valid ≠ 0
  evict : (found.evictIndex ∈ l ∧ (set found.evictIndex).valid = nlines) ∨
    found.evictIndex = acc.evictIndex ∧ ∀ j ∈ l, (set j).valid ≠ 0 → (set j).valid ≠ nlines

section

variable {i x a count : Nat} {rest : List Nat} {q : Nat → Prop}

omit [DecidableEq κ]

theorem taken_cons (here : (set i).valid = count)
    (old : x ∈ rest ∧ (set x).valid = count ∨ x = i ∧ ∀ j ∈ rest, q j) :
    x ∈ i :: rest ∧ (set x).valid = count := by
  rcases old with ⟨member, holds⟩ | ⟨rfl, -⟩
  · exact ⟨List.mem_cons_of_mem i member, holds⟩
  · exact ⟨List.mem_cons_self, here⟩

theorem kept_cons (here : q i)
    (old : x ∈ rest ∧ (set x).valid = count ∨ x = a ∧ ∀ j ∈ rest, q j) :
    x ∈ i :: rest ∧ (set x).valid = count ∨ x = a ∧ ∀ j ∈ i :: rest, q j := by
  refine old.imp (fun found => ⟨List.mem_cons_of_mem i found.1, found.2⟩) fun none => ?_
  exact ⟨none.1, List.forall_mem_cons.mpr ⟨here, none.2⟩⟩

end

theorem lruSearch_missed {l : List Nat} {acc : LruSearch}
    (missed : (lruSearch nlines set key l acc).cacheHit = false) :
    LruMissed nlines set key l acc (lruSearch nlines set key l acc) := by
  induction l generalizing acc with
  | nil =>
    refine ⟨by simp, rfl, Or.inr ⟨rfl, by simp⟩, Or.inr ⟨rfl, by simp⟩⟩
  | cons i rest ih =>
    rw [lruSearch] at missed ⊢
    split at missed
    · next free =>
      rw [if_pos free]
      obtain ⟨misses, max, available, evict⟩ := ih missed
      refine ⟨?_, max, Or.inl (taken_cons free available), kept_cons (absurd free) evict⟩
      exact List.forall_mem_cons.mpr ⟨fun hits => hits.1 free, misses⟩
    · next live =>
      rw [if_neg live]
      split at missed
      · next last =>
        rw [if_pos last]
        obtain ⟨misses, max, available, evict⟩ := ih missed
        refine ⟨?_, max, kept_cons live available, Or.inl (taken_cons last evict)⟩
        exact List.forall_mem_cons.mpr ⟨fun hits => hits.2.1 last, misses⟩
      · next young =>
        rw [if_neg young]
        split at missed
        · cases missed
        · next other =>
          rw [if_neg other]
          obtain ⟨misses, max, available, evict⟩ := ih missed
          refine ⟨?_, max, kept_cons live available, kept_cons (fun _ => young) evict⟩
          exact List.forall_mem_cons.mpr ⟨fun hits => other hits.2.2, misses⟩

theorem lruSetFindEvict_cases (nlines : Nat) (set : LruSet κ ν) (key : κ) :
    LruFindCase nlines set key (lruSetFindEvict nlines set key) := by
  rw [lruSetFindEvict]
  generalize search : lruSearch nlines set key (List.range nlines)
    ⟨nlines, nlines, nlines, nlines, false⟩ = found
  rcases found with ⟨ans, available, evict, max, hit⟩
  cases hit with
  | true =>
    rcases lruSearch_hit (l := List.range nlines) rfl (by rw [search]) with
      ⟨before, i, after, split, none, hits, isAns, isMax⟩
    rw [search] at isAns isMax
    dsimp only at isAns isMax ⊢
    subst isAns isMax
    refine .hit ans ?_ hits fun j lt => none j (mem_of_range_split split lt)
    rw [← List.mem_range, split]
    simp
  | false =>
    have missed := lruSearch_missed (l := List.range nlines) (by rw [search])
    rw [search] at missed
    rcases missed with ⟨misses, isMax, isAvailable, isEvict⟩
    simp only [List.mem_range] at misses isMax isAvailable isEvict
    subst isMax
    rw [if_neg Bool.false_ne_true]
    rcases isAvailable with ⟨inside, free⟩ | ⟨rfl, full⟩
    · rw [if_pos inside]
      exact .cold available inside free misses
    · rw [if_neg (Nat.lt_irrefl _)]
      exact .capacity evict full misses
        (isEvict.imp_right fun none => ⟨none.1, fun j lt => none.2 j lt (full j lt)⟩)

end

/-! ## What an operation does to a line -/

section

variable {nlines maxValid : Nat} {set : LruSet κ ν} {i j : Nat} {key : κ}

@[simp]
theorem lruAge_key : (lruAge nlines maxValid set j).key = (set j).key := by
  unfold lruAge
  split <;> rfl

@[simp]
theorem lruAge_value : (lruAge nlines maxValid set j).value = (set j).value := by
  unfold lruAge
  split <;> rfl

theorem lruAge_valid (maxValid : Nat) (set : LruSet κ ν) (inside : j < nlines) :
    (set j).valid ≠ 0 ∧ (set j).valid < maxValid ∧
        (lruAge nlines maxValid set j).valid = (set j).valid + 1 ∨
      ((set j).valid = 0 ∨ maxValid ≤ (set j).valid) ∧
        (lruAge nlines maxValid set j).valid = (set j).valid := by
  unfold lruAge
  split
  · next ages => exact Or.inl ⟨ages.2.1, ages.2.2, rfl⟩
  · next stays => exact Or.inr ⟨by omega, rfl⟩

theorem lruAge_live : (lruAge nlines maxValid set j).valid ≠ 0 ↔ (set j).valid ≠ 0 := by
  unfold lruAge
  split
  · next ages => exact ⟨fun _ => ages.2.1, fun _ => Nat.succ_ne_zero _⟩
  · exact Iff.rfl

theorem lruTouch_self :
    lruTouch nlines maxValid set i key i = ⟨1, key, (set i).value⟩ := by
  rw [lruTouch, Function.update_self]
  dsimp only
  rw [lruAge_value]

theorem lruTouch_of_ne (other : j ≠ i) :
    lruTouch nlines maxValid set i key j = lruAge nlines maxValid set j :=
  Function.update_of_ne other _ _

theorem lruTouch_value : (lruTouch nlines maxValid set i key j).value = (set j).value := by
  rcases eq_or_ne j i with rfl | other
  · rw [lruTouch_self]
  · rw [lruTouch_of_ne other, lruAge_value]

theorem lruSetInvalidateAll_valid (inside : j < nlines) :
    (lruSetInvalidateAll nlines set j).valid = 0 := by
  rw [lruSetInvalidateAll, if_pos inside]

variable [DecidableEq κ]

theorem lruSetInvalidate_apply (nlines : Nat) (set : LruSet κ ν) (key : κ) (j : Nat) :
    lruSetInvalidate nlines set key j =
      if lruSetFindImmutable nlines set key = some j then { set j with valid := 0 }
      else set j := by
  unfold lruSetInvalidate
  cases lruSetFindImmutable nlines set key with
  | none => simp
  | some i =>
    rcases eq_or_ne j i with rfl | other
    · simp
    · simp [Function.update_of_ne other, other.symm]

theorem lruSetFindImmutable_some (found : lruSetFindImmutable nlines set key = some i) :
    (i < nlines ∧ (set i).valid ≠ 0 ∧ (set i).key = key) ∧
      ∀ j < i, (set j).valid ≠ 0 → (set j).key ≠ key := by
  rcases List.find?_range_eq_some.mp found with ⟨live, member, first⟩
  rw [decide_eq_true_eq] at live
  refine ⟨⟨List.mem_range.mp member, live⟩, ?_⟩
  intro j before alive same
  have free := first j before
  rw [Bool.not_eq_true', decide_eq_false_iff_not] at free
  exact free ⟨alive, same⟩

theorem lruSetFindImmutable_none (none : lruSetFindImmutable nlines set key = none)
    (inside : i < nlines) (live : (set i).valid ≠ 0) : (set i).key ≠ key := by
  intro same
  have found := List.find?_eq_none.mp none i (List.mem_range.mpr inside)
  exact found (decide_eq_true ⟨live, same⟩)

end

/-! ## The order counts -/

/-- Counts do not exceed the number of lines, and those below it are distinct. -/
structure LruOrdered (nlines : Nat) (set : LruSet κ ν) : Prop where
  bounded : ∀ i < nlines, (set i).valid ≤ nlines
  distinct : ∀ i < nlines, ∀ j < nlines, (set i).valid ≠ 0 → (set i).valid ≠ nlines →
    (set i).valid = (set j).valid → i = j

namespace LruOrdered

variable {nlines : Nat} {set : LruSet κ ν}

theorem invalidateAll (nlines : Nat) (set : LruSet κ ν) :
    LruOrdered nlines (lruSetInvalidateAll nlines set) := by
  constructor
  · intro i inside
    rw [lruSetInvalidateAll_valid inside]
    exact Nat.zero_le nlines
  · intro i inside j _ live
    rw [lruSetInvalidateAll_valid inside] at live
    exact absurd rfl live

section

variable (ordered : LruOrdered nlines set)

include ordered

theorem invalidate [DecidableEq κ] (key : κ) :
    LruOrdered nlines (lruSetInvalidate nlines set key) := by
  have freed : ∀ i, (lruSetInvalidate nlines set key i).valid = (set i).valid ∨
      (lruSetInvalidate nlines set key i).valid = 0 := by
    intro i
    rw [lruSetInvalidate_apply]
    split
    · exact Or.inr rfl
    · exact Or.inl rfl
  constructor
  · intro i inside
    have bound := ordered.bounded i inside
    rcases freed i with same | zero <;> omega
  · intro i insideI j insideJ live young same
    have distinct := ordered.distinct i insideI j insideJ
    rcases freed i with sameI | zero
    · rcases freed j with sameJ | zero
      · exact distinct (by omega) (by omega) (by omega)
      · omega
    · omega

theorem touch {i maxValid : Nat} (key : κ) (inside : i < nlines)
    (max : maxValid = nlines ∨ maxValid = (set i).valid ∧ (set i).valid ≠ 0) :
    LruOrdered nlines (lruTouch nlines maxValid set i key) := by
  have le : maxValid ≤ nlines := by
    have bound := ordered.bounded i inside
    omega
  constructor
  · intro j insideJ
    rcases eq_or_ne j i with rfl | other
    · rw [lruTouch_self]
      dsimp only
      omega
    · have bound := ordered.bounded j insideJ
      have aged := lruAge_valid maxValid set insideJ
      rw [lruTouch_of_ne other]
      omega
  · intro a insideA b insideB live young same
    have agedA := lruAge_valid maxValid set insideA
    have agedB := lruAge_valid maxValid set insideB
    rcases eq_or_ne a i with rfl | otherA
    · rcases eq_or_ne b a with rfl | otherB
      · rfl
      · have ba := ordered.distinct b insideB a insideA
        rw [lruTouch_self] at young same
        rw [lruTouch_of_ne otherB] at same
        dsimp only at young same
        omega
    · rcases eq_or_ne b i with rfl | otherB
      · have ab := ordered.distinct a insideA b insideB
        rw [lruTouch_of_ne otherA] at young same
        rw [lruTouch_self] at same
        dsimp only at same
        omega
      · rw [lruTouch_of_ne otherA] at live young same
        rw [lruTouch_of_ne otherB] at same
        have ab := ordered.distinct a insideA b insideB
        -- a line that is aged to the count of another one finds there the count of `i`
        rcases agedA with ⟨liveA, belowA, grownA⟩ | ⟨keptA, sameA⟩
        · rcases agedB with ⟨liveB, belowB, grownB⟩ | ⟨keptB, sameB⟩
          · omega
          · have bi := ordered.distinct b insideB i inside
            omega
        · rcases agedB with ⟨liveB, belowB, grownB⟩ | ⟨keptB, sameB⟩
          · have ai := ordered.distinct a insideA i inside
            omega
          · omega

theorem exists_oldest (nonempty : 0 < nlines) (full : ∀ j < nlines, (set j).valid ≠ 0)
    : ∃ j < nlines, (set j).valid = nlines := by
  by_contra none
  have young : ∀ j < nlines, (set j).valid ≠ nlines := fun j inside old =>
    none ⟨j, inside, old⟩
  have fits : ∀ j ∈ Finset.range nlines, (set j).valid ∈ Finset.Ico 1 nlines := by
    intro j member
    have inside := Finset.mem_range.mp member
    have bound := ordered.bounded j inside
    have live := full j inside
    have other := young j inside
    rw [Finset.mem_Ico]
    omega
  have fewer : (Finset.Ico 1 nlines).card < (Finset.range nlines).card := by
    rw [Nat.card_Ico, Finset.card_range]
    omega
  rcases Finset.exists_ne_map_eq_of_card_lt_of_maps_to fewer fits with
    ⟨a, memberA, b, memberB, differ, same⟩
  rw [Finset.mem_range] at memberA memberB
  exact differ (ordered.distinct a memberA b memberB (full a memberA) (young a memberA) same)

theorem findEvict [DecidableEq κ] (nonempty : 0 < nlines) (key : κ) :
    (lruSetFindEvict nlines set key).index < nlines ∧
      LruOrdered nlines (lruSetFindEvict nlines set key).set := by
  have found := lruSetFindEvict_cases nlines set key
  generalize lruSetFindEvict nlines set key = result at found ⊢
  cases found with
  | hit i inside hits first =>
    exact ⟨inside, ordered.touch key inside (Or.inr ⟨rfl, hits.1⟩)⟩
  | cold i inside free misses =>
    exact ⟨inside, ordered.touch key inside (Or.inl rfl)⟩
  | capacity i full misses oldest =>
    rcases oldest with ⟨inside, -⟩ | ⟨-, none⟩
    · exact ⟨inside, ordered.touch key inside (Or.inl rfl)⟩
    · rcases ordered.exists_oldest nonempty full with ⟨j, inside, old⟩
      exact absurd old (none j inside)

theorem hits_of_findEvict [DecidableEq κ] {key key' : κ} {j : Nat} (inside : j < nlines)
    (hits : LruHits nlines (lruSetFindEvict nlines set key).set key' j) :
    j = (lruSetFindEvict nlines set key).index ∧ key' = key ∨
      j ≠ (lruSetFindEvict nlines set key).index ∧ LruHits nlines set key' j := by
  -- Ageing does not go beyond the oldest count.
  have touched : ∀ {i maxValid : Nat}, maxValid ≤ nlines →
      LruHits nlines (lruTouch nlines maxValid set i key) key' j →
      j = i ∧ key' = key ∨ j ≠ i ∧ LruHits nlines set key' j := by
    intro i maxValid le hits
    rcases eq_or_ne j i with rfl | other
    · rw [LruHits, lruTouch_self] at hits
      exact Or.inl ⟨rfl, hits.2.2.symm⟩
    · rw [LruHits, lruTouch_of_ne other, lruAge_key] at hits
      have aged := lruAge_valid maxValid set inside
      exact Or.inr ⟨other, by omega, by omega, hits.2.2⟩
  have found := lruSetFindEvict_cases nlines set key
  generalize lruSetFindEvict nlines set key = result at found hits ⊢
  cases found with
  | hit i inside hit first => exact touched (ordered.bounded i inside) hits
  | cold i inside free misses | capacity i full misses oldest => exact touched le_rfl hits

end

end LruOrdered

section

variable [DecidableEq κ] {nlines : Nat} {set : LruSet κ ν} {key : κ}

theorem lruSetFindEvict_value (j : Nat) :
    ((lruSetFindEvict nlines set key).set j).value = (set j).value :=
  lruTouch_value

theorem lruSetFindEvict_hit (hit : (lruSetFindEvict nlines set key).cacheHit = true) :
    LruHits nlines set key (lruSetFindEvict nlines set key).index := by
  have found := lruSetFindEvict_cases nlines set key
  generalize lruSetFindEvict nlines set key = result at found hit ⊢
  cases found with
  | hit i inside hits first => exact hits
  | cold | capacity => cases hit

theorem lruSetFindEvict_miss : (lruSetFindEvict nlines set key).cacheHit = false ↔
      ∀ j < nlines, ¬ LruHits nlines set key j := by
  have found := lruSetFindEvict_cases nlines set key
  generalize lruSetFindEvict nlines set key = result at found ⊢
  cases found with
  | hit i inside hits first =>
    constructor
    · intro miss
      cases miss
    · intro misses
      exact absurd hits (misses i inside)
  | cold i inside free misses | capacity i full misses oldest =>
    exact ⟨fun _ => misses, fun _ => rfl⟩

theorem lruSetFindEvict_other {j : Nat} (other : j ≠ (lruSetFindEvict nlines set key).index) :
    (((lruSetFindEvict nlines set key).set j).valid ≠ 0 ↔ (set j).valid ≠ 0) ∧
      ((lruSetFindEvict nlines set key).set j).key = (set j).key := by
  rw [lruSetFindEvict] at other ⊢
  dsimp only at other ⊢
  rw [lruTouch_of_ne other]
  exact ⟨lruAge_live, lruAge_key⟩

theorem lruSetFindEvict_used :
    ((lruSetFindEvict nlines set key).set (lruSetFindEvict nlines set key).index).valid = 1 ∧
      ((lruSetFindEvict nlines set key).set (lruSetFindEvict nlines set key).index).key = key := by
  rw [lruSetFindEvict]
  dsimp only
  rw [lruTouch_self]
  exact ⟨rfl, rfl⟩

end

/-! ## One line to a key -/

/-- The counts are in order, and a lookup has at most one line to stop at. -/
structure LruSingle (nlines : Nat) (set : LruSet κ ν) : Prop where
  ordered : LruOrdered nlines set
  single : ∀ key, ∀ i < nlines, ∀ j < nlines,
    LruHits nlines set key i → LruHits nlines set key j → i = j

namespace LruSingle

variable {nlines : Nat} {set : LruSet κ ν}

theorem invalidateAll (nlines : Nat) (set : LruSet κ ν) :
    LruSingle nlines (lruSetInvalidateAll nlines set) where
  ordered := .invalidateAll nlines set
  single _ _ inside _ _ hits _ := absurd (lruSetInvalidateAll_valid inside) hits.1

section

variable (ok : LruSingle nlines set)

include ok

theorem invalidate [DecidableEq κ] (key : κ) :
    LruSingle nlines (lruSetInvalidate nlines set key) where
  ordered := ok.ordered.invalidate key
  single := by
    have hit : ∀ {key' i}, LruHits nlines (lruSetInvalidate nlines set key) key' i →
        LruHits nlines set key' i := by
      intro key' i hits
      rw [LruHits, lruSetInvalidate_apply] at hits
      split at hits
      · exact absurd rfl hits.1
      · exact hits
    intro key' i insideI j insideJ hitsI hitsJ
    exact ok.single key' i insideI j insideJ (hit hitsI) (hit hitsJ)

theorem findEvict_of_hits [DecidableEq κ] {key : κ} {i : Nat} (inside : i < nlines)
    (hits : LruHits nlines set key i) :
    (lruSetFindEvict nlines set key).cacheHit = true ∧
      (lruSetFindEvict nlines set key).index = i := by
  have hit : (lruSetFindEvict nlines set key).cacheHit = true := by
    rw [← Bool.not_eq_false]
    exact fun miss => lruSetFindEvict_miss.mp miss i inside hits
  have used := (ok.ordered.findEvict (Nat.zero_lt_of_lt inside) key).1
  exact ⟨hit, ok.single key _ used _ inside (lruSetFindEvict_hit hit) hits⟩

theorem findEvict [DecidableEq κ] (nonempty : 0 < nlines) (key : κ) :
    LruSingle nlines (lruSetFindEvict nlines set key).set where
  ordered := (ok.ordered.findEvict nonempty key).2
  single := by
    -- An older line of the key would have been found.
    have apart : ∀ {j}, j < nlines → j ≠ (lruSetFindEvict nlines set key).index →
        ¬ LruHits nlines set key j := by
      intro j inside other hits
      exact other (ok.findEvict_of_hits inside hits).2.symm
    intro key' i insideI j insideJ hitsI hitsJ
    rcases ok.ordered.hits_of_findEvict insideI hitsI with ⟨usedI, rfl⟩ | ⟨otherI, oldI⟩
    · rcases ok.ordered.hits_of_findEvict insideJ hitsJ with ⟨usedJ, -⟩ | ⟨otherJ, oldJ⟩
      · exact usedI.trans usedJ.symm
      · exact absurd oldJ (apart insideJ otherJ)
    · rcases ok.ordered.hits_of_findEvict insideJ hitsJ with ⟨usedJ, rfl⟩ | ⟨otherJ, oldJ⟩
      · exact absurd oldI (apart insideI otherI)
      · exact ok.single key' i insideI j insideJ oldI oldJ

end

end LruSingle

end Xmhf
