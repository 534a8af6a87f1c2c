import Mathlib.Data.Fintype.Prod
import Xmhf.Bitfield
import Xmhf.Lib.Counting
import Xmhf.Lib.Machine

/-!
# The sparse bitmap

`xmhfc-bitmap.c`: a table of pages that are allocated when a bit is set in them, and a count of the
set bits of each page. `none` is an access outside the tables, or to a page that is not
there.

Two slips: the number of pages comes from the number of bits rounded down to bytes, and
`clear_bit` frees a page by the count before the bit was cleared, that is, never.
-/

namespace Xmhf

open Function (update update_of_ne update_self)

/-- A page of `mem_table`, by byte and bit. -/
abbrev BitmapPage := Fin 4096 × Fin 8 → Bool

/-- `mem_table` and `bits_stat` have `numPages` entries. -/
structure StlBitmap where
  maxBits : Nat
  memTable : Nat → Option BitmapPage
  bitsStat : Nat → Nat

/-- `BYTES_TO_PAGE4K(BITS_TO_BYTES(max_bits))` -/
def StlBitmap.numPages (b : StlBitmap) : Nat := (b.maxBits / 8 + 4095) / 4096

/-- `xmhfstl_bitmap_create`; memory is cleared when it is allocated. `none` is NULL, which is also
what the heap gives for tables of no bytes. -/
def bitmapCreate (numBits : U32) (alloc : Bool) : Option StlBitmap :=
  let b : StlBitmap := ⟨numBits.toNat, fun _ => none, fun _ => 0⟩
  if alloc = true ∧ b.numPages ≠ 0 then some b else none

def pgOffset (bitIdx : Nat) : Nat := bitIdx / 8 / 4096

/-- `byte_offset` and `bit_offset` -/
def bitOffset (bitIdx : Nat) : Fin 4096 × Fin 8 :=
  (⟨bitIdx / 8 % 4096, Nat.mod_lt _ (by decide)⟩, ⟨bitIdx % 8, Nat.mod_lt _ (by decide)⟩)

/-- The stores to the bit's byte and to the count of its page. -/
def StlBitmap.write (b : StlBitmap) (i : Nat) (page : BitmapPage) (v : Bool) (stat : Nat) :
    StlBitmap :=
  { b with
    memTable := update b.memTable (pgOffset i) (some (update page (bitOffset i) v))
    bitsStat := update b.bitsStat (pgOffset i) stat }

/-- `xmhfstl_bitmap_set_bit`; `alloc` says whether there is memory for a page. -/
def StlBitmap.setBit (b : StlBitmap) (i : Nat) (alloc : Bool) : Option (Bool × StlBitmap) :=
  if b.maxBits ≤ i then some (false, b)
  else if b.numPages ≤ pgOffset i then none
  else
    let stat := b.bitsStat (pgOffset i)
    let page := if stat ≠ 0 then b.memTable (pgOffset i)
      else if alloc then some fun _ => false else none
    let b := { b with memTable := update b.memTable (pgOffset i) page }
    match page with
    | none => if stat = 0 then some (false, b) else none
    | some page =>
      some (true, if page (bitOffset i) then b else b.write i page true ((stat + 1) % 2 ^ 16))

/-- `xmhfstl_bitmap_clear_bit` -/
def StlBitmap.clearBit (b : StlBitmap) (i : Nat) : Option (Bool × StlBitmap) :=
  if b.maxBits ≤ i then some (false, b)
  else if b.numPages ≤ pgOffset i then none
  else
    let stat := b.bitsStat (pgOffset i)
    if stat = 0 then some (true, b)
    else
      -- the page stays: `bits_stat` is not 0 here
      (b.memTable (pgOffset i)).map fun page =>
        (true, if page (bitOffset i) then b.write i page false (stat - 1) else b)

/-- `xmhfstl_bitmap_is_bit_set`, and `xmhfstl_bitmap_is_bit_clear` with the other answer; the inner
`none` is -1. -/
def StlBitmap.isBitSet (b : StlBitmap) (i : Nat) : Option (Option Bool) :=
  if b.maxBits ≤ i then some none
  else if b.numPages ≤ pgOffset i then none
  else some (some ((b.memTable (pgOffset i)).elim false (· (bitOffset i))))

inductive BitmapOp where
  | setBit (i : Nat) (alloc : Bool)
  | clearBit (i : Nat)
  | isBitSet (i : Nat)

def bitmapMachine : Machine StlBitmap BitmapOp where
  init b := ∃ numBits, bitmapCreate numBits true = some b
  step b
    | .setBit i alloc => (b.setBit i alloc).map Prod.snd
    | .clearBit i => (b.clearBit i).map Prod.snd
    | .isBitSet i => (b.isBitSet i).map fun _ => b

/-! ## The set of indices -/

def pageBits (page : Option BitmapPage) : BitmapPage := page.getD fun _ => false

/-- The bitmap as a set. -/
def StlBitmap.bit (b : StlBitmap) (i : Nat) : Bool := pageBits (b.memTable (pgOffset i)) (bitOffset i)

/-- The pages are there that have a bit, and their bits are counted. -/
structure StlBitmap.Inv (b : StlBitmap) : Prop where
  stat : ∀ pg, b.bitsStat pg = countOf id (pageBits (b.memTable pg))
  page : ∀ pg, b.memTable pg = none ↔ b.bitsStat pg = 0
  below : ∀ i, b.bit i = true → i < b.maxBits

/-- The operation stays inside the tables, keeps the pages, and does to the set what it is for. -/
def BitmapRight (b : StlBitmap) : BitmapOp → Prop
  | .setBit i alloc => ∃ done b', b.setBit i alloc = some (done, b') ∧ b'.Inv ∧
      (done = true ↔ i < b.maxBits ∧ (alloc = true ∨ b.bitsStat (pgOffset i) ≠ 0)) ∧
      ∀ j, b'.bit j = if j = i ∧ done then true else b.bit j
  | .clearBit i => ∃ b', b.clearBit i = some (decide (i < b.maxBits), b') ∧ b'.Inv ∧
      ∀ j, b'.bit j = if j = i then false else b.bit j
  | .isBitSet i => b.isBitSet i = some (if i < b.maxBits then some (b.bit i) else none)

/-- The bit's page is in the tables, and a bit that is cleared is not the last one of its page. -/
def BitmapOk (b : StlBitmap) : BitmapOp → Prop
  | .setBit i _ | .isBitSet i => i < b.maxBits → pgOffset i < b.numPages
  | .clearBit i => (i < b.maxBits → pgOffset i < b.numPages) ∧
      (b.bit i = true → b.bitsStat (pgOffset i) ≠ 1)

variable {b b' : StlBitmap} {i : Nat} {page : BitmapPage} {v alloc : Bool} {stat : Nat}

theorem StlBitmap.bit_write (known : page = pageBits (b.memTable (pgOffset i))) (j : Nat) :
    (b.write i page v stat).bit j = if j = i then v else b.bit j := by
  simp only [bit, write]
  by_cases here : pgOffset j = pgOffset i
  · have offsets : bitOffset j = bitOffset i ↔ j = i := by
      simp only [bitOffset, Prod.ext_iff, Fin.ext_iff]
      simp only [pgOffset] at here
      omega
    rw [here, update_self, ← known, pageBits, Option.getD_some, update]
    simp only [offsets, eq_rec_constant, dite_eq_ite]
  · rw [update_of_ne here, if_neg fun eq => here (by rw [eq])]

theorem StlBitmap.Inv.write (inv : b.Inv) (below : i < b.maxBits) (old : b.bit i = !v)
    (known : page = pageBits (b.memTable (pgOffset i)))
    (count : stat + (!v).toNat = b.bitsStat (pgOffset i) + v.toNat) (left : stat ≠ 0) :
    (b.write i page v stat).Inv where
  stat pg := by
    by_cases here : pg = pgOffset i
    · subst here
      have counted := countOf_update id (pageBits (b.memTable (pgOffset i))) (bitOffset i) v
      rw [← inv.stat, id, id, ← bit, old, ← known] at counted
      simp only [StlBitmap.write, update_self, pageBits, Option.getD_some]
      omega
    · simp only [StlBitmap.write, update_of_ne here]
      exact inv.stat pg
  page pg := by
    by_cases here : pg = pgOffset i
    · simp only [StlBitmap.write, here, update_self]
      exact ⟨nofun, fun zero => absurd zero left⟩
    · simp only [StlBitmap.write, update_of_ne here]
      exact inv.page pg
  below j set := by
    rw [bit_write known] at set
    split at set
    next eq => exact eq ▸ below
    next => exact inv.below j set

theorem StlBitmap.Inv.setBit (inv : b.Inv) (ok : BitmapOk b (.setBit i alloc)) :
    BitmapRight b (.setBit i alloc) := by
  rw [BitmapRight]
  by_cases below : i < b.maxBits
  swap
  · exact ⟨false, b, if_pos (Nat.le_of_not_lt below), inv, by simp [below], by simp⟩
  rw [StlBitmap.setBit, if_neg (Nat.not_le.mpr below), if_neg (Nat.not_le.mpr (ok below))]
  have absent := inv.page (pgOffset i)
  cases taken : if b.bitsStat (pgOffset i) ≠ 0 then b.memTable (pgOffset i)
      else if alloc then some fun _ => false else none with
  | none =>
    have zero : b.bitsStat (pgOffset i) = 0 := by
      by_contra some
      exact some (absent.mp ((if_pos some).symm.trans taken))
    have failed : alloc = false := by
      cases alloc <;> simp [zero] at taken ⊢
    refine ⟨false, b, ?_, inv, by simp [zero, failed], by simp⟩
    simp only [taken]
    rw [if_pos zero, ← absent.mpr zero, Function.update_eq_self]
  | some page =>
    have room : alloc = true ∨ b.bitsStat (pgOffset i) ≠ 0 := by
      by_contra neither
      simp_all
    -- a page that was not there counts as empty, and the new one is
    have known : page = pageBits (b.memTable (pgOffset i)) := by
      split at taken
      next => rw [taken]; rfl
      next zero =>
        rw [absent.mpr (not_not.mp zero)]
        split at taken <;> cases taken
        rfl
    have old : page (bitOffset i) = b.bit i := congrFun known _
    simp only [taken, old]
    by_cases set : b.bit i = true
    · have same : b.memTable (pgOffset i) = some page := by
        cases here : b.memTable (pgOffset i) with
        | none => rw [bit, here] at set; cases set
        | some _ => rw [known, here]; rfl
      rw [if_pos set, ← same, Function.update_eq_self]
      refine ⟨true, b, rfl, inv, by simp [below, room], fun j => ?_⟩
      split
      next eq => rw [eq.1, set]
      next => rfl
    · have clear := Bool.eq_false_iff.mpr set
      have small := countOf_le (p := id) (i := bitOffset i) clear
      rw [← inv.stat, Fintype.card_prod, Fintype.card_fin, Fintype.card_fin] at small
      rw [if_neg set, Nat.mod_eq_of_lt (a := b.bitsStat (pgOffset i) + 1) (by omega)]
      refine ⟨true, b.write i page true (b.bitsStat (pgOffset i) + 1), ?_,
        inv.write below clear known rfl (by omega), by simp [below, room], fun j => ?_⟩
      · simp only [StlBitmap.write, Function.update_idem]
      · simp [bit_write known]

theorem StlBitmap.Inv.clearBit (inv : b.Inv) (ok : BitmapOk b (.clearBit i)) :
    BitmapRight b (.clearBit i) := by
  rw [BitmapRight]
  have unset (clear : b.bit i = false) (j : Nat) : b.bit j = if j = i then false else b.bit j := by
    split
    next eq => rw [eq, clear]
    next => rfl
  by_cases below : i < b.maxBits
  swap
  · refine ⟨b, ?_, inv, unset (Bool.eq_false_iff.mpr fun set => below (inv.below i set))⟩
    rw [StlBitmap.clearBit, if_pos (Nat.le_of_not_lt below), decide_eq_false below]
  rw [StlBitmap.clearBit, if_neg (Nat.not_le.mpr below), if_neg (Nat.not_le.mpr (ok.1 below)),
    decide_eq_true below]
  have absent := inv.page (pgOffset i)
  cases here : b.memTable (pgOffset i) with
  | none => exact ⟨b, if_pos (absent.mp here), inv, unset (by rw [bit, here]; rfl)⟩
  | some page =>
    have some : b.bitsStat (pgOffset i) ≠ 0 := fun zero => by simp [here] at absent; omega
    have old : page (bitOffset i) = b.bit i := by
      rw [bit, here]
      rfl
    simp only [if_neg some, Option.map_some, old]
    by_cases set : b.bit i = true
    · have others := ok.2 set
      rw [if_pos set]
      exact ⟨_, rfl, inv.write below set (by rw [here]; rfl) (by simp; omega) (by omega),
        bit_write (by rw [here]; rfl)⟩
    · rw [if_neg set]
      exact ⟨b, rfl, inv, unset (Bool.eq_false_iff.mpr set)⟩

theorem StlBitmap.Inv.right {op : BitmapOp} (inv : b.Inv) (ok : BitmapOk b op) :
    BitmapRight b op := by
  cases op with
  | setBit => exact inv.setBit ok
  | clearBit => exact inv.clearBit ok
  | isBitSet i =>
    rw [BitmapRight, isBitSet]
    by_cases below : i < b.maxBits
    · rw [if_neg (Nat.not_le.mpr below), if_neg (Nat.not_le.mpr (ok below)), if_pos below, bit]
      cases b.memTable (pgOffset i) <;> rfl
    · rw [if_pos (Nat.le_of_not_lt below), if_neg below]

theorem StlBitmap.Inv.step {op : BitmapOp} (inv : b.Inv) (ok : BitmapOk b op)
    (step : bitmapMachine.step b op = some b') : b'.Inv := by
  cases op with
  | setBit i alloc =>
    obtain ⟨done, next, ran, inv', -⟩ := inv.right ok
    simp only [bitmapMachine, ran, Option.map_some, Option.some.injEq] at step
    exact step ▸ inv'
  | clearBit i =>
    obtain ⟨next, ran, inv', -⟩ := inv.right ok
    simp only [bitmapMachine, ran, Option.map_some, Option.some.injEq] at step
    exact step ▸ inv'
  | isBitSet i =>
    obtain ⟨_, -, rfl⟩ := Option.map_eq_some_iff.mp step
    exact inv

theorem StlBitmap.Inv.create {numBits : U32} (created : bitmapCreate numBits alloc = some b) :
    b.Inv := by
  obtain ⟨-, eq⟩ := Option.ite_none_right_eq_some.mp created
  cases eq
  exact ⟨fun _ => (countOf_eq_zero.mpr fun _ => rfl).symm, fun _ => by simp, nofun⟩

/-- As long as no operation meets one of the slips, the bitmap is a set, its tables hold every page
looked up, and the pages are those that have a bit. -/
theorem bitmap_is_set (reached : bitmapMachine.ReachableUnder BitmapOk b) :
    b.Inv ∧ ∀ op, BitmapOk b op → BitmapRight b op := by
  have inv : b.Inv := reached.invariant
    (fun b ⟨_, created⟩ => .create created) (fun _ _ _ inv ok => inv.step ok)
  exact ⟨inv, fun op => inv.right⟩

theorem bitmapCreate_some {n : Nat} (small : n < 2 ^ 32) (pages : 8 ≤ n) :
    bitmapCreate (.ofNat 32 n) true = some ⟨n, fun _ => none, fun _ => 0⟩ := by
  rw [bitmapCreate, BitVec.toNat_ofNat, Nat.mod_eq_of_lt small]
  exact if_pos ⟨rfl, by simp only [StlBitmap.numPages]; omega⟩

theorem bitmap_is_set_sample : ∃ b b', bitmapCreate 64 true = some b ∧
    bitmapMachine.run b [.setBit 3 true, .setBit 5 true, .clearBit 3] = some b' ∧
    b'.bit 5 = true ∧ b'.Inv ∧ ∀ op, BitmapOk b' op → BitmapRight b' op := by
  have created : bitmapMachine.ReachableUnder BitmapOk ⟨64, fun _ => none, fun _ => 0⟩ :=
    .init ⟨64, bitmapCreate_some (by decide) (by decide)⟩
  have one := created.step (show BitmapOk _ (.setBit 3 true) from fun _ => by decide) rfl
  have two := one.step (show BitmapOk _ (.setBit 5 true) from fun _ => by decide) rfl
  have three := two.step
    (show BitmapOk _ (.clearBit 3) from ⟨fun _ => by decide, fun _ => by decide⟩) rfl
  exact ⟨_, _, bitmapCreate_some (by decide) (by decide), rfl, rfl, bitmap_is_set three⟩

/-- The last bit of 32769 has no entry in the tables, and the page of a bit that was set alone and is
cleared again stays. -/
theorem bitmap_slips :
    (∃ b, bitmapCreate 32769 true = some b ∧ ¬ BitmapRight b (.isBitSet 32768)) ∧
    ∃ b b', bitmapCreate 64 true = some b ∧ bitmapMachine.step b (.setBit 0 true) = some b' ∧
      ¬ BitmapRight b' (.clearBit 0) := by
  refine ⟨⟨_, bitmapCreate_some (by decide) (by decide), ?_⟩, _, _,
    bitmapCreate_some (by decide) (by decide), rfl, ?_⟩
  · simp [BitmapRight, StlBitmap.isBitSet, StlBitmap.numPages, pgOffset]
  · rintro ⟨b, cleared, inv, -⟩
    have view := congrArg (Option.map fun r => ((r.2.memTable 0).isNone, r.2.bitsStat 0)) cleared
    have kept := view.symm.trans (by decide +kernel : _ = some (false, 0))
    obtain ⟨page, stat⟩ := Prod.mk.inj (Option.some.inj kept)
    rw [(inv.page 0).mpr stat] at page
    cases page

end Xmhf
