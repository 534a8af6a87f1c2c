import Xmhf.Bitfield

/-!
# The boot memory map

`dealwithE820` of the bootloader takes the memory of the hypervisor out of the E820 map that GRUB
passes: the free entry around it is split. `none` is HALT.

The entry is looked for with `<` at its right end. So the two branches for an entry that ends with
the hypervisor's memory, which would leave that memory free, are never taken, and such a map is
refused.
-/

namespace Xmhf

def MAX_E820_ENTRIES : Nat := 64

structure GrubE820 where
  baseaddrLow : U32
  baseaddrHigh : U32
  lengthLow : U32
  lengthHigh : U32
  type : U32
deriving DecidableEq

/-- `__TARGET_BASE_SL` and the size of the runtime, below 4 GiB. -/
structure SlRuntime where
  physicalbase : U32
  size : U32
  below : physicalbase.toNat + size.toNat < 2 ^ 32

variable (rt : SlRuntime)

/-- HALT: a free entry that starts below 4 GiB and has a 64-bit length. -/
abbrev GrubE820.Halts (e : GrubE820) : Prop := e.type = 1 ∧ e.baseaddrHigh = 0 ∧ e.lengthHigh ≠ 0

/-- The entry that is split. -/
abbrev GrubE820.Found (e : GrubE820) : Prop :=
  e.type = 1 ∧ e.baseaddrHigh = 0 ∧ e.lengthHigh = 0 ∧ e.baseaddrLow ≤ rt.physicalbase ∧
    rt.physicalbase + rt.size < e.baseaddrLow + e.lengthLow

def GrubE820.split (e : GrubE820) : List GrubE820 :=
  let left := rt.physicalbase - e.baseaddrLow
  if rt.physicalbase = e.baseaddrLow ∧ rt.physicalbase + rt.size = e.baseaddrLow + e.lengthLow then
    [⟨e.baseaddrLow, 0, e.lengthLow, 0, e.type⟩]
  else if rt.physicalbase = e.baseaddrLow ∧ rt.size < e.lengthLow then
    [⟨e.baseaddrLow, 0, rt.size, 0, 2⟩,
      ⟨e.baseaddrLow + rt.size, 0, e.lengthLow - rt.size, 0, 1⟩]
  else if rt.physicalbase + rt.size = e.baseaddrLow + e.lengthLow ∧
      e.baseaddrLow < rt.physicalbase then
    [⟨e.baseaddrLow, 0, left, 0, 1⟩, ⟨rt.physicalbase, 0, rt.size, 0, 1⟩]
  else
    [⟨e.baseaddrLow, 0, left, 0, 1⟩, ⟨rt.physicalbase, 0, rt.size, 0, 2⟩,
      ⟨rt.physicalbase + rt.size, 0, e.lengthLow - rt.size - left, 0, 1⟩]

/-- The search for the entry, and the table with the entry split. -/
def reviseE820 : List GrubE820 → Option (List GrubE820)
  | [] => none
  | e :: rest =>
    if e.Halts then none
    else if e.Found rt then some (e.split rt ++ rest)
    else (reviseE820 rest).map (e :: ·)

/-- A map that is too long for `grube820list` is copied all the same, and is refused here. -/
def dealwithE820 (list : List GrubE820) : Option (List GrubE820) :=
  (reviseE820 rt list).filter fun _ => list.length + 2 < MAX_E820_ENTRIES

/-! ## What the map says -/

def GrubE820.base (e : GrubE820) : Nat := e.baseaddrHigh.toNat * 2 ^ 32 + e.baseaddrLow.toNat

def GrubE820.length (e : GrubE820) : Nat := e.lengthHigh.toNat * 2 ^ 32 + e.lengthLow.toNat

def GrubE820.Covers (e : GrubE820) (a : Nat) : Prop := e.base ≤ a ∧ a < e.base + e.length

/-- The map gives address `a` the type `t`. -/
def TypeAt (list : List GrubE820) (a : Nat) (t : U32) : Prop := ∃ e ∈ list, e.Covers a ∧ e.type = t

def SlRuntime.Has (a : Nat) : Prop :=
  rt.physicalbase.toNat ≤ a ∧ a < rt.physicalbase.toNat + rt.size.toNat

/-- A free entry has all of the hypervisor's memory. -/
def E820Contains (list : List GrubE820) : Prop :=
  ∃ e ∈ list, e.type = 1 ∧ e.base ≤ rt.physicalbase.toNat ∧
    rt.physicalbase.toNat + rt.size.toNat ≤ e.base + e.length

/-- A revised map fits and says the same, but that the hypervisor's memory is not free; and a map
with that memory free is accepted. -/
def E820Right (list : List GrubE820) : Prop :=
  (∀ revised, dealwithE820 rt list = some revised → revised.length ≤ MAX_E820_ENTRIES ∧
    (∀ a, (∃ t, TypeAt revised a t) ↔ ∃ t, TypeAt list a t) ∧
    (∀ a t, rt.Has a → TypeAt revised a t → t ≠ 1) ∧
    ∀ a t, ¬ rt.Has a → (TypeAt revised a t ↔ TypeAt list a t)) ∧
  (E820Contains rt list → (dealwithE820 rt list).isSome = true)

variable {rt} {e : GrubE820} {list revised : List GrubE820}

theorem GrubE820.found_iff : e.Found rt ↔ e.type = 1 ∧ e.baseaddrHigh = 0 ∧ e.lengthHigh = 0 ∧
    e.base ≤ rt.physicalbase.toNat ∧
      rt.physicalbase.toNat + rt.size.toNat < e.base + e.length ∧ e.base + e.length < 2 ^ 32 := by
  have below := rt.below
  refine and_congr_right fun _ => and_congr_right fun high => and_congr_right fun long => ?_
  simp only [base, length, high, long, BitVec.le_def, BitVec.lt_def, BitVec.toNat_add,
    BitVec.ofNat_eq_ofNat, BitVec.toNat_ofNat]
  omega

theorem typeAt_append (l r : List GrubE820) (a : Nat) (t : U32) :
    TypeAt (l ++ r) a t ↔ TypeAt l a t ∨ TypeAt r a t := by
  simp only [TypeAt, List.mem_append, or_and_right, exists_or]

theorem typeAt_cons (l : List GrubE820) (a : Nat) (t : U32) :
    TypeAt (e :: l) a t ↔ e.Covers a ∧ e.type = t ∨ TypeAt l a t := by
  simp only [TypeAt, List.mem_cons, or_and_right, exists_or, exists_eq_left]

theorem typeAt_nil (a : Nat) (t : U32) : TypeAt [] a t ↔ False := by
  simp [TypeAt]

theorem GrubE820.covers_low (base length type : U32) (a : Nat) :
    (⟨base, 0, length, 0, type⟩ : GrubE820).Covers a ↔
      base.toNat ≤ a ∧ a < base.toNat + length.toNat := by
  simp [Covers, GrubE820.base, GrubE820.length]

theorem GrubE820.typeAt_split (found : e.Found rt) (a : Nat) (t : U32) :
    TypeAt (e.split rt) a t ↔ e.Covers a ∧ (rt.Has a ∧ t = 2 ∨ ¬ rt.Has a ∧ t = 1) := by
  obtain ⟨-, high, long, start, room, below⟩ := found_iff.mp found
  have strict : rt.physicalbase + rt.size ≠ e.baseaddrLow + e.lengthLow :=
    fun same => BitVec.lt_irrefl _ (same ▸ found.2.2.2.2)
  have toNat : e.base = e.baseaddrLow.toNat ∧ e.length = e.lengthLow.toNat := by
    simp [base, length, high, long]
  have covers : e.Covers a ↔ e.baseaddrLow.toNat ≤ a ∧
      a < e.baseaddrLow.toNat + e.lengthLow.toNat := by rw [Covers, toNat.1, toNat.2]
  have inside := rt.below
  rw [split, if_neg fun both => strict both.2]
  by_cases left : rt.physicalbase = e.baseaddrLow
  · have shorter : rt.size.toNat < e.lengthLow.toNat := by rw [left] at room; omega
    have rest : (e.baseaddrLow + rt.size).toNat = e.baseaddrLow.toNat + rt.size.toNat := by
      rw [← left, BitVec.toNat_add, Nat.mod_eq_of_lt inside]
    rw [if_pos ⟨left, shorter⟩]
    simp only [typeAt_cons, typeAt_nil, covers_low, covers, rest, SlRuntime.Has, left,
      BitVec.toNat_sub_of_le (Nat.le_of_lt shorter)]
    clear strict
    grind
  · have before := BitVec.toNat_sub_of_le found.2.2.2.1
    have after : (rt.physicalbase + rt.size).toNat = rt.physicalbase.toNat + rt.size.toNat := by
      rw [BitVec.toNat_add, Nat.mod_eq_of_lt inside]
    have shorter : (e.lengthLow - rt.size).toNat = e.lengthLow.toNat - rt.size.toNat := by
      refine BitVec.toNat_sub_of_le (BitVec.le_def.mpr ?_)
      omega
    have fits : rt.physicalbase - e.baseaddrLow ≤ e.lengthLow - rt.size := by
      rw [BitVec.le_def]
      omega
    have rest := BitVec.toNat_sub_of_le fits
    rw [if_neg fun both => left both.1, if_neg fun both => strict both.1]
    simp only [typeAt_cons, typeAt_nil, covers_low, covers, before, after, shorter, rest,
      SlRuntime.Has]
    clear strict
    grind

theorem reviseE820_splits (revises : reviseE820 rt list = some revised) : ∃ before e after,
    list = before ++ e :: after ∧ (∀ x ∈ before, ¬ x.Halts) ∧ e.Found rt ∧
      revised = before ++ (e.split rt ++ after) := by
  induction list generalizing revised with
  | nil => cases revises
  | cons e rest ih =>
    rw [reviseE820] at revises
    split at revises
    · cases revises
    next goes =>
      split at revises
      next found =>
        cases revises
        exact ⟨[], e, rest, rfl, List.forall_mem_nil _, found, rfl⟩
      next =>
        obtain ⟨tail, later, rfl⟩ := Option.map_eq_some_iff.mp revises
        obtain ⟨before, x, after, rfl, pass, found, rfl⟩ := ih later
        exact ⟨e :: before, x, after, rfl, List.forall_mem_cons.mpr ⟨goes, pass⟩, found, rfl⟩

theorem reviseE820_isSome {before after : List GrubE820} (pass : ∀ x ∈ before, ¬ x.Halts)
    (found : e.Found rt) : (reviseE820 rt (before ++ e :: after)).isSome = true := by
  induction before with
  | nil =>
    have goes : ¬ e.Halts := fun halts => halts.2.2 found.2.2.1
    rw [List.nil_append, reviseE820, if_neg goes, if_pos found]
    rfl
  | cons x before ih =>
    obtain ⟨goes, pass⟩ := List.forall_mem_cons.mp pass
    rw [List.cons_append, reviseE820, if_neg goes]
    split
    · rfl
    · rw [Option.isSome_map]
      exact ih pass

theorem length_split_le : (e.split rt).length ≤ 3 := by
  unfold GrubE820.split
  dsimp only
  repeat' split
  all_goals simp

/-- A boot map whose entries do not overlap. -/
structure BootMap where
  entries : List GrubE820
  disjoint : entries.Pairwise fun x y => ∀ a, ¬ (x.Covers a ∧ y.Covers a)

theorem BootMap.disjoint_of_split {map : BootMap} {before after : List GrubE820} {x : GrubE820}
    {a : Nat} (entries : map.entries = before ++ e :: after) (mem : x ∈ before ∨ x ∈ after)
    (covers : x.Covers a) : ¬ e.Covers a := by
  have apart := map.disjoint
  rw [entries, List.pairwise_append, List.pairwise_cons] at apart
  intro here
  rcases mem with mem | mem
  · exact apart.2.2 x mem e List.mem_cons_self a ⟨covers, here⟩
  · exact apart.2.1.1 x mem a ⟨here, covers⟩

/-- The free entry around the hypervisor's memory has to go on behind it. -/
theorem e820_right_iff (rt : SlRuntime) (map : BootMap) : E820Right rt map.entries ↔
    (E820Contains rt map.entries → map.entries.length + 2 < MAX_E820_ENTRIES ∧
      ∃ before e after, map.entries = before ++ e :: after ∧ (∀ x ∈ before, ¬ x.Halts) ∧
        (e.type = 1 ∧ e.baseaddrHigh = 0 ∧ e.lengthHigh = 0 ∧
          e.base ≤ rt.physicalbase.toNat ∧
          rt.physicalbase.toNat + rt.size.toNat < e.base + e.length ∧
          e.base + e.length < 2 ^ 32)) := by
  have accepted : ∀ revised, dealwithE820 rt map.entries = some revised ↔
      reviseE820 rt map.entries = some revised ∧ map.entries.length + 2 < MAX_E820_ENTRIES := by
    intro revised
    rw [dealwithE820, Option.filter_eq_some_iff, decide_eq_true_eq]
  simp only [← GrubE820.found_iff]
  constructor
  · intro right contains
    obtain ⟨revised, revises⟩ := Option.isSome_iff_exists.mp (right.2 contains)
    obtain ⟨revises, room⟩ := (accepted revised).mp revises
    obtain ⟨before, e, after, entries, pass, found, -⟩ := reviseE820_splits revises
    exact ⟨room, before, e, after, entries, pass, found⟩
  · intro design
    refine ⟨fun revised revises => ?_, fun contains => ?_⟩
    · obtain ⟨revises, room⟩ := (accepted revised).mp revises
      obtain ⟨before, e, after, entries, -, found, rfl⟩ := reviseE820_splits revises
      have three := @length_split_le rt e
      have same : ∀ a t, TypeAt map.entries a t ↔
          TypeAt before a t ∨ e.Covers a ∧ t = 1 ∨ TypeAt after a t := by
        intro a t
        rw [entries, typeAt_append, typeAt_cons, found.1, eq_comm]
      simp only [typeAt_append, e.typeAt_split found, same]
      refine ⟨?_, fun a => ?_, fun a t has typed => ?_, fun a t has => ?_⟩
      · simp only [entries, List.length_append, List.length_cons] at room ⊢
        omega
      · simp only [exists_or, exists_and_left]
        by_cases has : rt.Has a <;> simp [has]
      · obtain ⟨-, -, -, start, behind, -⟩ := GrubE820.found_iff.mp found
        have covers : e.Covers a := ⟨start.trans has.1, has.2.trans behind⟩
        rcases typed with ⟨x, mem, other, -⟩ | ⟨-, ⟨-, rfl⟩ | ⟨out, -⟩⟩ | ⟨x, mem, other, -⟩
        · exact absurd covers (map.disjoint_of_split entries (.inl mem) other)
        · decide
        · exact absurd has out
        · exact absurd covers (map.disjoint_of_split entries (.inr mem) other)
      · simp [has]
    · obtain ⟨room, before, e, after, entries, pass, found⟩ := design contains
      obtain ⟨revised, revises⟩ := Option.isSome_iff_exists.mp (reviseE820_isSome pass found)
      exact Option.isSome_iff_exists.mpr ⟨revised, (accepted revised).mpr ⟨entries ▸ revises, room⟩⟩

/-- The free entry is the hypervisor's memory. -/
theorem e820_exact_entry_refused : ¬ E820Right ⟨0x10000000, 0x200000, by decide⟩
    [⟨0x10000000, 0, 0x200000, 0, 1⟩] := by
  intro right
  have accepted := right.2 ⟨_, List.mem_singleton_self _, rfl, by decide, by decide⟩
  revert accepted
  decide

end Xmhf
