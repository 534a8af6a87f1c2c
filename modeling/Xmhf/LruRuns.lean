import Xmhf.Lib.Machine
import Xmhf.Lru

/-!
# Runs of LRU operations

A set goes through lookups and invalidations from its initialisation on. Beside the set a run
keeps the time of the last use of each line, which is what the order counts stand for: a line with
a lower count was used later (`LruRecency`), in every run.

The header says more: that non-zero counts never repeat and that a key has one line. A lookup can
break both. It takes a free line without looking at the key of the line with the highest count,
and the ageing that goes with it stops at the highest count, where two lines can meet.
-/

namespace Xmhf

variable {κ ν : Type*}

/-- A set, the number of lookups so far, and the time of the last use of each line. -/
structure LruTrace (κ ν : Type*) where
  set : LruSet κ ν
  clock : Nat
  lastUse : Nat → Nat

inductive LruOp (κ : Type*) where
  | findEvict (key : κ)
  | invalidate (key : κ)
  | invalidateAll

def lruStep [DecidableEq κ] (nlines : Nat) (s : LruTrace κ ν) : LruOp κ → LruTrace κ ν
  | .findEvict key =>
    let found := lruSetFindEvict nlines s.set key
    { set := found.set
      clock := s.clock + 1
      lastUse := Function.update s.lastUse found.index s.clock }
  | .invalidate key => { s with set := lruSetInvalidate nlines s.set key }
  | .invalidateAll => { s with set := lruSetInvalidateAll nlines s.set }

/-- `LRU_SET_INIT` frees all lines. -/
def lruMachine [DecidableEq κ] (nlines : Nat) : Machine (LruTrace κ ν) (LruOp κ) where
  init s := ∀ i < nlines, (s.set i).valid = 0
  step s o := some (lruStep nlines s o)

/-- What `LRU_NEW_SET` documents of the lines of a set. -/
structure LruRepresentation (nlines : Nat) (set : LruSet κ ν) : Prop where
  bounded : ∀ i < nlines, (set i).valid ≤ nlines
  distinct : ∀ i < nlines, ∀ j < nlines, (set i).valid ≠ 0 → (set i).valid = (set j).valid → i = j
  keys : ∀ i < nlines, ∀ j < nlines, (set i).valid ≠ 0 → (set j).valid ≠ 0 →
    (set i).key = (set j).key → i = j

structure LruRecency (nlines : Nat) (s : LruTrace κ ν) : Prop where
  past : ∀ i < nlines, (s.set i).valid ≠ 0 → s.lastUse i < s.clock
  later : ∀ i < nlines, ∀ j < nlines, (s.set i).valid ≠ 0 → (s.set i).valid < (s.set j).valid →
    s.lastUse j < s.lastUse i

/-! ## Conditions on a lookup -/

section

variable (nlines : Nat) (set : LruSet κ ν) (key : κ)

/-- A live line of the key has a count below the highest one. -/
def LruHit : Prop := ∃ i < nlines, LruHits nlines set key i

def LruFull : Prop := ∀ i < nlines, (set i).valid ≠ 0

/-- The lookup hits below the highest count, or finds no free line, or not both of the two highest
counts are in use. -/
def LruKeepsOrder : Prop :=
  LruHit nlines set key ∨ LruFull nlines set ∨ ¬ ((∃ i < nlines, (set i).valid = nlines) ∧
      ∃ i < nlines, (set i).valid ≠ 0 ∧ (set i).valid + 1 = nlines)

/-- The lookup hits below the highest count, or finds no free line, or no line with the highest
count has the key. -/
def LruKeepsKey : Prop :=
  LruHit nlines set key ∨ LruFull nlines set ∨
    ∀ i < nlines, (set i).valid = nlines → (set i).key ≠ key

/-- A line with the highest count has the key only if another live line has it. -/
def LruKeyFound : Prop :=
  ∀ i < nlines, (set i).valid = nlines → (set i).key = key → LruHit nlines set key

end

instance [DecidableEq κ] (nlines : Nat) (set : LruSet κ ν) (key : κ) :
    Decidable (LruHit nlines set key) :=
  inferInstanceAs (Decidable (∃ i < nlines, _))

instance (nlines : Nat) (set : LruSet κ ν) : Decidable (LruFull nlines set) :=
  inferInstanceAs (Decidable (∀ i < nlines, _))

instance [DecidableEq κ] (nlines : Nat) (set : LruSet κ ν) (key : κ) :
    Decidable (LruKeepsOrder nlines set key) :=
  inferInstanceAs (Decidable (_ ∨ _ ∨ ¬ ((∃ i < nlines, _) ∧ ∃ i < nlines, _)))

instance [DecidableEq κ] (nlines : Nat) (set : LruSet κ ν) (key : κ) :
    Decidable (LruKeepsKey nlines set key) :=
  inferInstanceAs (Decidable (_ ∨ _ ∨ ∀ i < nlines, _))

def LruOrderOk (nlines : Nat) (s : LruTrace κ ν) : LruOp κ → Prop
  | .findEvict key => LruKeepsOrder nlines s.set key
  | _ => True

/-- Lookups keep the order counts distinct and the keys unique. -/
def LruLookupOk (nlines : Nat) (s : LruTrace κ ν) : LruOp κ → Prop
  | .findEvict key => LruKeepsOrder nlines s.set key ∧ LruKeepsKey nlines s.set key
  | _ => True

/-! ## Freeing lines -/

def LruFreed (set set' : LruSet κ ν) : Prop :=
  ∀ i, set' i = set i ∨ set' i = { set i with valid := 0 }

theorem lruSetInvalidate_freed [DecidableEq κ] (nlines : Nat) (set : LruSet κ ν) (key : κ) :
    LruFreed set (lruSetInvalidate nlines set key) := by
  intro i
  rw [lruSetInvalidate_apply]
  split
  · exact Or.inr rfl
  · exact Or.inl rfl

theorem lruSetInvalidateAll_freed (nlines : Nat) (set : LruSet κ ν) :
    LruFreed set (lruSetInvalidateAll nlines set) := by
  intro i
  rw [lruSetInvalidateAll]
  split
  · exact Or.inr rfl
  · exact Or.inl rfl

section

variable {nlines : Nat} {set set' : LruSet κ ν}

theorem LruFreed.live (freed : LruFreed set set') {i : Nat} (live : (set' i).valid ≠ 0) :
    set' i = set i := by
  rcases freed i with same | zero
  · exact same
  · rw [zero] at live
    exact absurd rfl live

theorem LruFreed.bounded (freed : LruFreed set set')
    (bounded : ∀ i < nlines, (set i).valid ≤ nlines) : ∀ i < nlines, (set' i).valid ≤ nlines := by
  intro i inside
  rcases freed i with same | zero
  · rw [same]
    exact bounded i inside
  · rw [zero]
    exact Nat.zero_le nlines

theorem LruFreed.distinct (freed : LruFreed set set')
    (distinct : ∀ i < nlines, ∀ j < nlines, (set i).valid ≠ 0 →
      (set i).valid = (set j).valid → i = j) :
    ∀ i < nlines, ∀ j < nlines, (set' i).valid ≠ 0 → (set' i).valid = (set' j).valid → i = j := by
  intro i insideI j insideJ live same
  have liveJ : (set' j).valid ≠ 0 := same ▸ live
  have keptI := freed.live live
  rw [keptI, freed.live liveJ] at same
  rw [keptI] at live
  exact distinct i insideI j insideJ live same

theorem LruRepresentation.freed (rep : LruRepresentation nlines set) (freed : LruFreed set set') :
    LruRepresentation nlines set' where
  bounded := freed.bounded rep.bounded
  distinct := freed.distinct rep.distinct
  keys := by
    intro i insideI j insideJ liveI liveJ same
    have keptI := freed.live liveI
    have keptJ := freed.live liveJ
    rw [keptI] at liveI same
    rw [keptJ] at liveJ same
    exact rep.keys i insideI j insideJ liveI liveJ same

theorem LruRecency.freed {s : LruTrace κ ν} (recency : LruRecency nlines s)
    (freed : LruFreed s.set set') : LruRecency nlines { s with set := set' } where
  past := by
    intro i inside live
    dsimp only at live
    rw [freed.live live] at live
    exact recency.past i inside live
  later := by
    intro i insideI j insideJ live lt
    have liveJ : (set' j).valid ≠ 0 := by
      dsimp only at lt
      omega
    dsimp only at live lt
    rw [freed.live liveJ, freed.live live] at lt
    rw [freed.live live] at live
    exact recency.later i insideI j insideJ live lt

end

/-! ## Using a line -/

section

variable {nlines maxValid i : Nat} {set : LruSet κ ν} {key : κ}

theorem lruTouch_distinct (distinct : ∀ a < nlines, ∀ b < nlines, (set a).valid ≠ 0 →
      (set a).valid = (set b).valid → a = b)
    (apart : ∀ a < nlines, ∀ b < nlines, a ≠ i → b ≠ i → (set a).valid ≠ 0 →
      (set a).valid + 1 = maxValid → (set b).valid ≠ maxValid)
    (young : ∀ a < nlines, a ≠ i → (set a).valid = 1 → 1 < maxValid) :
    ∀ a < nlines, ∀ b < nlines, (lruTouch nlines maxValid set i key a).valid ≠ 0 →
      (lruTouch nlines maxValid set i key a).valid =
        (lruTouch nlines maxValid set i key b).valid → a = b := by
  intro a insideA b insideB live same
  have agedA := lruAge_valid maxValid set insideA
  have agedB := lruAge_valid maxValid set insideB
  have ab := distinct a insideA b insideB
  rcases eq_or_ne a i with rfl | otherA
  · rcases eq_or_ne b a with rfl | otherB
    · rfl
    · have ages := young b insideB otherB
      rw [lruTouch_self, lruTouch_of_ne otherB] at same
      dsimp only at same
      omega
  · rcases eq_or_ne b i with rfl | otherB
    · have ages := young a insideA otherA
      rw [lruTouch_self, lruTouch_of_ne otherA] at same
      dsimp only at same
      omega
    · have up := apart a insideA b insideB otherA otherB
      have down := apart b insideB a insideA otherB otherA
      rw [lruTouch_of_ne otherA] at live same
      rw [lruTouch_of_ne otherB] at same
      rcases agedA with agedA | agedA <;> rcases agedB with agedB | agedB <;> omega

theorem lruTouch_bounded (le : maxValid ≤ nlines) (bounded : ∀ a < nlines, (set a).valid ≤ nlines) :
    ∀ a < nlines, (lruTouch nlines maxValid set i key a).valid ≤ nlines := by
  intro a inside
  have bound := bounded a inside
  rcases eq_or_ne a i with rfl | other
  · rw [lruTouch_self]
    exact Nat.lt_of_le_of_lt (Nat.zero_le a) inside
  · have aged := lruAge_valid maxValid set inside
    rw [lruTouch_of_ne other]
    omega

theorem lruTouch_keys (keys : ∀ a < nlines, ∀ b < nlines, (set a).valid ≠ 0 → (set b).valid ≠ 0 →
      (set a).key = (set b).key → a = b)
    (only : ∀ a < nlines, a ≠ i → (set a).valid ≠ 0 → (set a).key ≠ key) :
    ∀ a < nlines, ∀ b < nlines, (lruTouch nlines maxValid set i key a).valid ≠ 0 →
      (lruTouch nlines maxValid set i key b).valid ≠ 0 →
      (lruTouch nlines maxValid set i key a).key = (lruTouch nlines maxValid set i key b).key →
      a = b := by
  intro a insideA b insideB liveA liveB same
  rcases eq_or_ne a i with rfl | otherA
  · rcases eq_or_ne b a with rfl | otherB
    · rfl
    · rw [lruTouch_of_ne otherB, lruAge_live] at liveB
      rw [lruTouch_self, lruTouch_of_ne otherB, lruAge_key] at same
      exact absurd same.symm (only b insideB otherB liveB)
  · rw [lruTouch_of_ne otherA, lruAge_live] at liveA
    rcases eq_or_ne b i with rfl | otherB
    · rw [lruTouch_self, lruTouch_of_ne otherA, lruAge_key] at same
      exact absurd same (only a insideA otherA liveA)
    · rw [lruTouch_of_ne otherB, lruAge_live] at liveB
      rw [lruTouch_of_ne otherA, lruTouch_of_ne otherB, lruAge_key, lruAge_key] at same
      exact keys a insideA b insideB liveA liveB same

theorem lruTouch_outside {j : Nat} (inside : i < nlines) (outside : nlines ≤ j) :
    lruTouch nlines maxValid set i key j = set j := by
  rw [lruTouch_of_ne (by omega), lruAge, if_neg (by omega)]

theorem lruTouch_congr {set' : LruSet κ ν} {j : Nat} (same : set' j = set j) :
    lruTouch nlines maxValid set' i key j = lruTouch nlines maxValid set i key j := by
  rcases eq_or_ne j i with rfl | other
  · rw [lruTouch_self, lruTouch_self, same]
  · rw [lruTouch_of_ne other, lruTouch_of_ne other, lruAge, lruAge, same]

theorem LruRecency.touch {s : LruTrace κ ν} (recency : LruRecency nlines s) (maxValid i : Nat)
    (key : κ) : LruRecency nlines ⟨lruTouch nlines maxValid s.set i key, s.clock + 1,
      Function.update s.lastUse i s.clock⟩ where
  past := by
    intro a inside live
    dsimp only at live
    rcases eq_or_ne a i with rfl | other
    · exact (Function.update_self a s.clock s.lastUse).trans_lt (Nat.lt_succ_self _)
    · rw [lruTouch_of_ne other, lruAge_live] at live
      have past := recency.past a inside live
      exact (Function.update_of_ne other s.clock s.lastUse).trans_lt (Nat.lt_succ_of_lt past)
  later := by
    intro a insideA b insideB live lt
    dsimp only at live lt ⊢
    have agedA := lruAge_valid maxValid s.set insideA
    have agedB := lruAge_valid maxValid s.set insideB
    rcases eq_or_ne a i with rfl | otherA
    · rcases eq_or_ne b a with rfl | otherB
      · exact absurd lt (Nat.lt_irrefl _)
      · rw [lruTouch_of_ne otherB] at lt
        rw [Function.update_self, Function.update_of_ne otherB]
        exact recency.past b insideB (by omega)
    · rw [lruTouch_of_ne otherA] at live lt
      rcases eq_or_ne b i with rfl | otherB
      · rw [lruTouch_self] at lt
        dsimp only at lt
        omega
      · rw [lruTouch_of_ne otherB] at lt
        rw [Function.update_of_ne otherA, Function.update_of_ne otherB]
        exact recency.later a insideA b insideB (by omega) (by omega)

end

/-! ## Lookups -/

section

variable {nlines : Nat} {set : LruSet κ ν}

def LruDistinct (nlines : Nat) (set : LruSet κ ν) : Prop :=
  (∀ i < nlines, (set i).valid ≤ nlines) ∧
    ∀ i < nlines, ∀ j < nlines, (set i).valid ≠ 0 → (set i).valid = (set j).valid → i = j

theorem LruDistinct.ordered (counts : LruDistinct nlines set) : LruOrdered nlines set :=
  ⟨counts.1, fun i insideI j insideJ live _ => counts.2 i insideI j insideJ live⟩

theorem LruDistinct.oldest (counts : LruDistinct nlines set) {i : Nat}
    (full : ∀ j < nlines, (set j).valid ≠ 0)
    (oldest : i < nlines ∧ (set i).valid = nlines ∨
      i = nlines ∧ ∀ j < nlines, (set j).valid ≠ nlines) :
    ∀ j < nlines, i < nlines ∧ (j ≠ i → (set j).valid < (set i).valid) := by
  intro j inside
  rcases oldest with ⟨insideI, highest⟩ | ⟨-, none⟩
  · refine ⟨insideI, fun other => ?_⟩
    have bound := counts.1 j inside
    have apart : (set j).valid ≠ (set i).valid := fun same =>
      other (counts.2 j inside i insideI (full j inside) same)
    omega
  · obtain ⟨k, insideK, highest⟩ := counts.ordered.exists_oldest (by omega) full
    exact absurd highest (none k insideK)

end

section

variable [DecidableEq κ] {nlines : Nat} {set : LruSet κ ν} {s : LruTrace κ ν} {key : κ}

theorem LruRecency.findEvict (recency : LruRecency nlines s) (key : κ) :
    LruRecency nlines (lruStep nlines s (.findEvict key)) :=
  recency.touch _ _ key

theorem LruDistinct.findEvict_iff (counts : LruDistinct nlines set) (key : κ) :
    LruDistinct nlines (lruSetFindEvict nlines set key).set ↔ LruKeepsOrder nlines set key := by
  have found := lruSetFindEvict_cases nlines set key
  generalize lruSetFindEvict nlines set key = result at found ⊢
  cases found with
  | hit i inside hits first =>
    refine ⟨fun _ => Or.inl ⟨i, inside, hits⟩, fun _ => ⟨?_, ?_⟩⟩
    · exact lruTouch_bounded (counts.1 i inside) counts.1
    · refine lruTouch_distinct counts.2 ?_ ?_
      · intro a _ b insideB _ otherB _ _ same
        exact otherB (counts.2 i inside b insideB hits.1 same.symm).symm
      · intro a insideA other one
        have apart : (set i).valid ≠ (set a).valid := fun same =>
          other (counts.2 i inside a insideA hits.1 same).symm
        have live := hits.1
        omega
  | cold i inside free misses =>
    constructor
    · intro after
      refine Or.inr (Or.inr ?_)
      rintro ⟨⟨a, insideA, highest⟩, b, insideB, liveB, below⟩
      have otherA : a ≠ i := by
        rintro rfl
        omega
      have otherB : b ≠ i := by
        rintro rfl
        omega
      have agedA := lruAge_valid nlines set insideA
      have agedB := lruAge_valid nlines set insideB
      have same := after.2 b insideB a insideA
      dsimp only at same
      rw [lruTouch_of_ne otherA, lruTouch_of_ne otherB] at same
      have equal := same (by omega) (by omega)
      subst equal
      omega
    · rintro (⟨j, insideJ, hits⟩ | full | apart)
      · exact absurd hits (misses j insideJ)
      · exact absurd free (full i inside)
      · refine ⟨lruTouch_bounded le_rfl counts.1, lruTouch_distinct counts.2 ?_ ?_⟩
        · intro a insideA b insideB _ _ live below highest
          exact apart ⟨⟨b, insideB, highest⟩, a, insideA, live, below⟩
        · omega
  | capacity i full misses oldest =>
    refine ⟨fun _ => Or.inr (Or.inl full), fun _ => ⟨?_, ?_⟩⟩
    · exact lruTouch_bounded le_rfl counts.1
    · have one := counts.oldest full oldest
      refine lruTouch_distinct counts.2 ?_ ?_
      · intro a insideA b insideB _ otherB _ _ highest
        obtain ⟨insideI, lower⟩ := one b insideB
        have bound := counts.1 i insideI
        have less := lower otherB
        omega
      · intro a insideA other _
        have insideI := (one a insideA).1
        omega

theorem LruRepresentation.findEvict_iff (rep : LruRepresentation nlines set) (key : κ) :
    LruRepresentation nlines (lruSetFindEvict nlines set key).set ↔
      LruKeepsOrder nlines set key ∧ LruKeepsKey nlines set key := by
  have counts : LruDistinct nlines set := ⟨rep.bounded, rep.distinct⟩
  rw [← counts.findEvict_iff key]
  have found := lruSetFindEvict_cases nlines set key
  generalize lruSetFindEvict nlines set key = result at found ⊢
  constructor
  · intro after
    refine ⟨⟨after.bounded, after.distinct⟩, ?_⟩
    cases found with
    | hit i inside hits first => exact Or.inl ⟨i, inside, hits⟩
    | cold i inside free misses =>
      refine Or.inr (Or.inr fun a insideA highest same => ?_)
      have other : a ≠ i := by
        rintro rfl
        omega
      have keys := after.keys a insideA i inside
      dsimp only at keys
      rw [lruTouch_self, lruTouch_of_ne other, lruAge_key, lruAge_live] at keys
      exact other (keys (by omega) Nat.one_ne_zero same)
    | capacity i full misses oldest => exact Or.inr (Or.inl full)
  · rintro ⟨after, keeps⟩
    refine ⟨after.1, after.2, ?_⟩
    cases found with
    | hit i inside hits first =>
      refine lruTouch_keys rep.keys fun a insideA other live same => ?_
      exact other (rep.keys a insideA i inside live hits.1 (same.trans hits.2.2.symm))
    | cold i inside free misses =>
      refine lruTouch_keys rep.keys fun a insideA other live same => ?_
      rcases keeps with ⟨j, insideJ, hits⟩ | full | others
      · exact misses j insideJ hits
      · exact full i inside free
      · by_cases highest : (set a).valid = nlines
        · exact others a insideA highest same
        · exact misses a insideA ⟨live, highest, same⟩
    | capacity i full misses oldest =>
      refine lruTouch_keys rep.keys fun a insideA other live same => ?_
      obtain ⟨insideI, lower⟩ := counts.oldest full oldest a insideA
      have bound := rep.bounded i insideI
      have less := lower other
      exact misses a insideA ⟨live, by omega, same⟩

/-! ## Runs -/

theorem LruRepresentation.step (rep : LruRepresentation nlines s.set) {o : LruOp κ}
    (permitted : LruLookupOk nlines s o) : LruRepresentation nlines (lruStep nlines s o).set := by
  cases o with
  | findEvict key => exact (rep.findEvict_iff key).mpr permitted
  | invalidate key => exact rep.freed (lruSetInvalidate_freed nlines s.set key)
  | invalidateAll => exact rep.freed (lruSetInvalidateAll_freed nlines s.set)

theorem LruDistinct.step (counts : LruDistinct nlines s.set) {o : LruOp κ}
    (permitted : LruOrderOk nlines s o) : LruDistinct nlines (lruStep nlines s o).set := by
  cases o with
  | findEvict key => exact (counts.findEvict_iff key).mpr permitted
  | invalidate key =>
    have freed := lruSetInvalidate_freed nlines s.set key
    exact ⟨freed.bounded counts.1, freed.distinct counts.2⟩
  | invalidateAll =>
    have freed := lruSetInvalidateAll_freed nlines s.set
    exact ⟨freed.bounded counts.1, freed.distinct counts.2⟩

theorem LruRecency.step (recency : LruRecency nlines s) (o : LruOp κ) :
    LruRecency nlines (lruStep nlines s o) := by
  cases o with
  | findEvict key => exact recency.findEvict key
  | invalidate key => exact recency.freed (lruSetInvalidate_freed nlines s.set key)
  | invalidateAll => exact recency.freed (lruSetInvalidateAll_freed nlines s.set)

theorem LruOrdered.step (ordered : LruOrdered nlines s.set) (nonempty : 0 < nlines)
    (o : LruOp κ) : LruOrdered nlines (lruStep nlines s o).set := by
  cases o with
  | findEvict key => exact (ordered.findEvict nonempty key).2
  | invalidate key => exact ordered.invalidate key
  | invalidateAll => exact LruOrdered.invalidateAll nlines s.set

def lruSampleStart : LruTrace Nat Unit := ⟨fun _ => ⟨0, 0, ()⟩, 0, fun _ => 0⟩

def lruSampleFull : LruTrace Nat Unit :=
  [.findEvict 1, .findEvict 2].foldl (lruStep 2) lruSampleStart

def lruSampleRepeated : LruTrace Nat Unit :=
  [.findEvict 1, .findEvict 2, .findEvict 1, .findEvict 3, .invalidate 3, .findEvict 4].foldl
    (lruStep 3) lruSampleStart

theorem lruSampleFull_permitted :
    (lruMachine 2).ReachableUnder (LruLookupOk 2) lruSampleFull := by
  have start : (lruMachine 2).init lruSampleStart := fun _ _ => rfl
  have first : LruLookupOk 2 lruSampleStart (.findEvict 1) := ⟨by decide, by decide⟩
  have second : LruLookupOk 2 (lruStep 2 lruSampleStart (.findEvict 1)) (.findEvict 2) :=
    ⟨by decide, by decide⟩
  exact .step (.step (.init start) first rfl) second rfl

theorem lru_foldl_reached (nlines : Nat) (ops : List (LruOp Nat)) :
    (lruMachine nlines).Reachable (ops.foldl (lruStep nlines) lruSampleStart) := by
  have start : (lruMachine nlines).Reachable lruSampleStart := .init fun _ _ => rfl
  exact start.run (List.foldlM_pure ..)

/-- The representation that the header documents holds in runs whose lookups meet the condition,
and a lookup that does not meet it breaks the representation. -/
theorem lru_representation_runs
    (reached : (lruMachine nlines).ReachableUnder (LruLookupOk nlines) s) :
    LruRepresentation nlines s.set ∧ ∀ key,
      LruRepresentation nlines (lruStep nlines s (.findEvict key)).set ↔
        LruKeepsOrder nlines s.set key ∧ LruKeepsKey nlines s.set key := by
  have rep : LruRepresentation nlines s.set := by
    refine reached.invariant (P := fun s => LruRepresentation nlines s.set) ?_ ?_
    · intro s free
      refine ⟨fun i inside => ?_, fun i inside _ _ live => ?_, fun i inside _ _ live => ?_⟩
      · rw [free i inside]
        exact Nat.zero_le nlines
      · exact absurd (free i inside) live
      · exact absurd (free i inside) live
    · intro s o s' rep permitted step
      cases step
      exact rep.step permitted
  exact ⟨rep, rep.findEvict_iff⟩

theorem lru_representation_sample : (lruMachine 2).ReachableUnder (LruLookupOk 2) lruSampleFull ∧
      LruRepresentation 2 lruSampleFull.set :=
  ⟨lruSampleFull_permitted, (lru_representation_runs lruSampleFull_permitted).1⟩

/-- The key 1 is looked up while its line has the highest count and another line is free; three
lines are looked up so that two of them have the highest count. -/
theorem lru_representation_broken :
    (∃ s : LruTrace Nat Unit, (lruMachine 2).Reachable s ∧ ¬ LruRepresentation 2 s.set) ∧
      ∃ s : LruTrace Nat Unit, (lruMachine 3).Reachable s ∧ ¬ LruRepresentation 3 s.set := by
  refine ⟨⟨_, lru_foldl_reached 2
    [.findEvict 1, .findEvict 2, .invalidate 2, .findEvict 1], fun rep => ?_⟩,
    ⟨lruSampleRepeated, lru_foldl_reached 3 _, fun rep => ?_⟩⟩
  · have same := rep.keys 0 (by decide) 1 (by decide) (by decide) (by decide) (by decide)
    exact absurd same (by decide)
  · have same := rep.distinct 1 (by decide) 2 (by decide) (by decide) (by decide)
    exact absurd same (by decide)

theorem lruDistinct_runs (reached : (lruMachine nlines).ReachableUnder (LruOrderOk nlines) s) :
    LruDistinct nlines s.set ∧ LruRecency nlines s := by
  refine reached.invariant (P := fun s => LruDistinct nlines s.set ∧ LruRecency nlines s) ?_ ?_
  · intro s free
    refine ⟨⟨fun i inside => ?_, fun i inside _ _ live => ?_⟩, fun i inside live => ?_,
      fun i inside _ _ live => ?_⟩
    · rw [free i inside]
      exact Nat.zero_le nlines
    iterate 3 exact absurd (free i inside) live
  · rintro s o s' ⟨counts, recency⟩ permitted step
    cases step
    exact ⟨counts.step permitted, recency.step o⟩

theorem lruSetFindEvict_hit_iff :
    (lruSetFindEvict nlines set key).cacheHit = true ↔ LruHit nlines set key := by
  rw [← Bool.not_eq_false, lruSetFindEvict_miss]
  simp only [LruHit, not_forall, not_not, exists_prop]

/-- A lookup finds a key that is there exactly when the key is not only at the highest count. In
runs whose lookups keep the counts distinct, a miss in a full set takes the line whose last use is
the oldest. -/
theorem lru_lookup_runs (reached : (lruMachine nlines).ReachableUnder (LruOrderOk nlines) s)
    (key : κ) :
    (((lruSetFindEvict nlines s.set key).cacheHit = true ↔
        ∃ i < nlines, (s.set i).valid ≠ 0 ∧ (s.set i).key = key) ↔
      LruKeyFound nlines s.set key) ∧
    ((lruSetFindEvict nlines s.set key).cacheHit = false → LruFull nlines s.set →
      ∀ j < nlines, (lruSetFindEvict nlines s.set key).index < nlines ∧
        s.lastUse (lruSetFindEvict nlines s.set key).index ≤ s.lastUse j) := by
  obtain ⟨counts, recency⟩ := lruDistinct_runs reached
  constructor
  · rw [lruSetFindEvict_hit_iff]
    constructor
    · intro agrees i inside highest same
      exact agrees.mpr ⟨i, inside, by omega, same⟩
    · intro found
      constructor
      · rintro ⟨i, inside, live, -, same⟩
        exact ⟨i, inside, live, same⟩
      · rintro ⟨i, inside, live, same⟩
        by_cases highest : (s.set i).valid = nlines
        · exact found i inside highest same
        · exact ⟨i, inside, live, highest, same⟩
  · intro miss full j insideJ
    have cases := lruSetFindEvict_cases nlines s.set key
    generalize lruSetFindEvict nlines s.set key = result at cases miss ⊢
    cases cases with
    | hit => cases miss
    | cold i inside free misses => exact absurd free (full i inside)
    | capacity i _ misses oldest =>
      obtain ⟨insideI, lower⟩ := counts.oldest full oldest j insideJ
      refine ⟨insideI, ?_⟩
      rcases eq_or_ne j i with rfl | other
      · exact Nat.le_refl _
      · exact Nat.le_of_lt (recency.later j insideJ i insideI (full j insideJ) (lower other))

theorem lru_lookup_sample : (lruMachine 2).ReachableUnder (LruOrderOk 2) lruSampleFull ∧
      ((lruSetFindEvict 2 lruSampleFull.set 3).cacheHit = false → LruFull 2 lruSampleFull.set →
        ∀ j < 2, (lruSetFindEvict 2 lruSampleFull.set 3).index < 2 ∧
          lruSampleFull.lastUse (lruSetFindEvict 2 lruSampleFull.set 3).index ≤
            lruSampleFull.lastUse j) := by
  have start : (lruMachine 2).init lruSampleStart := fun _ _ => rfl
  have first : LruOrderOk 2 lruSampleStart (.findEvict 1) :=
    (by decide : LruKeepsOrder 2 lruSampleStart.set 1)
  have second : LruOrderOk 2 (lruStep 2 lruSampleStart (.findEvict 1)) (.findEvict 2) :=
    (by decide : LruKeepsOrder 2 (lruStep 2 lruSampleStart (.findEvict 1)).set 2)
  have reached : (lruMachine 2).ReachableUnder (LruOrderOk 2) lruSampleFull :=
    .step (.step (.init start) first rfl) second rfl
  exact ⟨reached, (lru_lookup_runs reached 3).2⟩

/-- The key 1 of two lines is not found; of three lines the one used last but one is taken, though
another one was used before it. -/
theorem lru_lookup_broken : (∃ s : LruTrace Nat Unit, (lruMachine 2).Reachable s ∧
      (∃ i < 2, (s.set i).valid ≠ 0 ∧ (s.set i).key = 1) ∧
      (lruSetFindEvict 2 s.set 1).cacheHit = false) ∧
    ∃ s : LruTrace Nat Unit, (lruMachine 3).Reachable s ∧ LruFull 3 s.set ∧
      (lruSetFindEvict 3 s.set 6).cacheHit = false ∧
      ∃ j < 3, s.lastUse j < s.lastUse (lruSetFindEvict 3 s.set 6).index :=
  ⟨⟨lruSampleFull, lru_foldl_reached 2 _, by decide, by decide⟩,
    ⟨lruSampleRepeated, lru_foldl_reached 3 _, by decide +kernel, by decide +kernel,
      by decide +kernel⟩⟩

/-! ## Accesses -/

theorem lruSearch_congr {set' : LruSet κ ν} {l : List Nat} (same : ∀ j ∈ l, set' j = set j)
    (acc : LruSearch) : lruSearch nlines set' key l acc = lruSearch nlines set key l acc := by
  induction l generalizing acc with
  | nil => rfl
  | cons i rest ih =>
    obtain ⟨first, later⟩ := List.forall_mem_cons.mp same
    simp only [lruSearch, first, ih later]

/-- A lookup reads and writes only lines of the array, which has at least one element: it takes
one of them, leaves everything outside as it is, and its result does not depend on what is
outside. -/
theorem lru_access_runs (nonempty : 0 < nlines) (reached : (lruMachine nlines).Reachable s)
    (key : κ) :
    (lruSetFindEvict nlines s.set key).index < nlines ∧
    (∀ j, nlines ≤ j → (lruSetFindEvict nlines s.set key).set j = s.set j) ∧
    ∀ set' : LruSet κ ν, (∀ j < nlines, set' j = s.set j) →
      (lruSetFindEvict nlines set' key).index = (lruSetFindEvict nlines s.set key).index ∧
      (lruSetFindEvict nlines set' key).cacheHit = (lruSetFindEvict nlines s.set key).cacheHit ∧
      ∀ j < nlines, (lruSetFindEvict nlines set' key).set j =
        (lruSetFindEvict nlines s.set key).set j := by
  have ordered : LruOrdered nlines s.set := by
    refine reached.invariant (P := fun s => LruOrdered nlines s.set) ?_ ?_
    · intro s free
      refine ⟨fun i inside => ?_, fun i inside _ _ live => ?_⟩
      · rw [free i inside]
        exact Nat.zero_le nlines
      · exact absurd (free i inside) live
    · intro s o s' ordered _ step
      cases step
      exact ordered.step nonempty o
  have index := (ordered.findEvict nonempty key).1
  refine ⟨index, fun j outside => lruTouch_outside index outside, fun set' same => ?_⟩
  have search : lruSearch nlines set' key (List.range nlines) ⟨nlines, nlines, nlines, nlines, false⟩ =
      lruSearch nlines s.set key (List.range nlines) ⟨nlines, nlines, nlines, nlines, false⟩ :=
    lruSearch_congr (fun j mem => same j (List.mem_range.mp mem)) _
  refine ⟨by simp only [lruSetFindEvict, search], by simp only [lruSetFindEvict, search], ?_⟩
  intro j inside
  simp only [lruSetFindEvict, search]
  exact lruTouch_congr (same j inside)

theorem lru_access_sample : 0 < 2 ∧ (lruMachine 2).Reachable lruSampleFull ∧
      (lruSetFindEvict 2 lruSampleFull.set 3).index < 2 :=
  have reached := lru_foldl_reached 2 [.findEvict 1, .findEvict 2]
  ⟨by decide, reached, (lru_access_runs (by decide) reached 3).1⟩

end

end Xmhf
