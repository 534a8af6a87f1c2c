import Xmhf.Dmaprot.IommuPt

/-!
# The pages of an IOMMU page table

Ghost ownership of the pages of one table, in the sense of radix tables: what `iommu_vmx_map`
does to it on the way to an entry, and by the entry it writes. A table that grows takes pages
which are in use nowhere else, so it leaves all other tables as they are.
-/

namespace Xmhf

open Function (update update_of_ne update_self)

variable {top lvl levels : Nat} {flags : U32} {pt gpa spa : U64}

variable (cfg : IommuConfig)

/-- The levels of owned pages, and the device addresses that are translated through them. -/
abbrev VtdOwn := U64 → Option (Nat × Set U64)

def IommuConfig.Mhv (spa : Nat) : Prop :=
  cfg.mhvBase.toNat ≤ spa ∧ spa < cfg.mhvBase.toNat + cfg.mhvSize.toNat

/-- A translation ends in an entry of level 1, for a page outside the memory of XMHF. -/
def IommuConfig.GoodLeaf (lvl : Nat) (pte _gpa : U64) : Prop :=
  lvl = 1 ∧ ∀ offset < 4096, ¬ cfg.Mhv ((pte &&& vtdAddressMask).toNat / 4096 * 4096 + offset)

structure Owned (own : VtdOwn) (m : PtMem) : Prop where
  covers : vtdShape.Covers cfg.GoodLeaf m.store own
  /-- Above level 1 an entry is empty, or points to a table. -/
  clean : ∀ n l R i, own n = some (l + 2, R) → m.store n i ≠ 0 →
    vtdShape.slot (l + 2) (m.store n i) = .table (m.store n i &&& ADDR64_PAGE_MASK_4K)
  listed : ∀ n, own n ≠ none → n ∈ m.usedMem
  inUse : ∀ n ∈ m.usedMem, m.used n = true
  pages : ∀ n ∈ m.usedMem, n &&& vtdAddressMask = n ∧ n ≠ cfg.eapRoot

/-- What a table does to the memory of others: nothing, and it takes only pages that are free. -/
structure PtFrame (m m' : PtMem) : Prop where
  outside : ∀ n, m.used n = true → n ∉ m.usedMem → m'.store n = m.store n
  fresh : ∀ n ∈ m'.usedMem, n ∈ m.usedMem ∨ m.used n = false
  more : ∀ n, m.used n = true → m'.used n = true

/-- A table grows by pages of levels below `top` and by entries of levels up to it. -/
structure Grows (top : Nat) (own own' : VtdOwn) (m m' : PtMem) : Prop where
  owned : Owned cfg own' m'
  frame : PtFrame m m'
  keeps : ∀ n x, own n = some x → own' n = some x
  above : ∀ n k R, own n = some (k, R) → top < k → m'.store n = m.store n
  lookups : ∀ n k R w, own n = some (k, R) → w ∈ R →
    vtdShape.walk m'.store w k n = vtdShape.walk m.store w k n

variable {cfg} {own own' : VtdOwn} {m m' m'' : PtMem}

theorem PtFrame.refl : PtFrame m m :=
  ⟨fun _ _ _ => rfl, fun _ => .inl, fun _ => id⟩

theorem PtFrame.trans (first : PtFrame m m') (second : PtFrame m' m'') : PtFrame m m'' where
  outside n inUse unlisted := by
    have unlisted' : n ∉ m'.usedMem := by
      intro listed
      rcases first.fresh n listed with old | new
      · exact unlisted old
      · rw [inUse] at new
        cases new
    rw [second.outside n (first.more n inUse) unlisted', first.outside n inUse unlisted]
  fresh n listed := by
    rcases second.fresh n listed with old | new
    · exact first.fresh n old
    · refine .inr (Bool.eq_false_iff.mpr fun inUse => ?_)
      rw [first.more n inUse] at new
      cases new
  more n inUse := second.more n (first.more n inUse)

theorem Grows.refl (owned : Owned cfg own m) : Grows cfg top own own m m :=
  ⟨owned, .refl, fun _ _ => id, fun _ _ _ _ _ => rfl, fun _ _ _ _ _ _ => rfl⟩

theorem Grows.trans {top' : Nat} {own'' : VtdOwn} (first : Grows cfg top own own' m m')
    (second : Grows cfg top' own' own'' m' m'') (below : top' ≤ top) :
    Grows cfg top own own'' m m'' where
  owned := second.owned
  frame := first.frame.trans second.frame
  keeps n x owned := second.keeps n x (first.keeps n x owned)
  above n k R owned higher := by
    rw [second.above n k R (first.keeps n _ owned) (by omega), first.above n k R owned higher]
  lookups n k R w owned member := by
    rw [second.lookups n k R w (first.keeps n _ owned) member, first.lookups n k R w owned member]

/-! ## Entries -/

section entries

variable {page : U64}

theorem page_and (aligned : page &&& vtdAddressMask = page) (bits : U64) :
    page &&& bits = page &&& (vtdAddressMask &&& bits) := by
  rw [← BitVec.and_assoc, aligned]

theorem page_mask (aligned : page &&& vtdAddressMask = page) :
    page &&& ADDR64_PAGE_MASK_4K = page := by
  rw [page_and aligned, show vtdAddressMask &&& ADDR64_PAGE_MASK_4K = vtdAddressMask from rfl,
    aligned]

theorem page_toNat (address : U64) :
    (address &&& ADDR64_PAGE_MASK_4K).toNat = address.toNat / 4096 * 4096 := by
  have shifts : address &&& ADDR64_PAGE_MASK_4K = (address >>> 12) <<< 12 := by
    have mask : ADDR64_PAGE_MASK_4K = (BitVec.allOnes 64) <<< 12 := rfl
    apply BitVec.eq_of_getLsbD_eq
    intro i small
    rw [mask]
    simp only [BitVec.getLsbD_and, BitVec.getLsbD_shiftLeft, BitVec.getLsbD_ushiftRight,
      BitVec.getLsbD_allOnes]
    by_cases low : i < 12
    · simp [low]
    · have index : 12 + (i - 12) = i := by omega
      have inside : i - 12 < 64 := by omega
      simp [small, low, index, inside]
  have below := address.isLt
  rw [shifts, BitVec.toNat_shiftLeft, BitVec.toNat_ushiftRight, Nat.shiftLeft_eq,
    Nat.shiftRight_eq_div_pow]
  omega

theorem page_aligned {address : U64} (small : address.toNat < 2 ^ 52) :
    (address &&& ADDR64_PAGE_MASK_4K) &&& vtdAddressMask = address &&& ADDR64_PAGE_MASK_4K := by
  have mask : ADDR64_PAGE_MASK_4K &&& vtdAddressMask = vtdAddressMask := rfl
  have low : ∀ i < 52, vtdAddressMask.getLsbD i = ADDR64_PAGE_MASK_4K.getLsbD i := by decide
  rw [BitVec.and_assoc, mask]
  apply BitVec.eq_of_getLsbD_eq
  intro i _
  rw [BitVec.getLsbD_and, BitVec.getLsbD_and]
  rcases Nat.lt_or_ge i 52 with inside | high
  · rw [low i inside]
  · have zero : address.getLsbD i = false := by
      rw [← BitVec.testBit_toNat]
      exact Nat.testBit_lt_two_pow (lt_of_lt_of_le small (Nat.pow_le_pow_right (by decide) high))
    rw [zero]
    rfl

def allowEntry (page : U64) : U64 := page ||| (VTD_READ ||| VTD_WRITE ||| VTD_EXECUTE)

theorem allowEntry_and (bits : U64) : allowEntry page &&& bits =
    (page &&& bits) ||| ((VTD_READ ||| VTD_WRITE ||| VTD_EXECUTE) &&& bits) := by
  rw [allowEntry, BitVec.and_comm, BitVec.and_or_distrib_left, BitVec.and_comm bits,
    BitVec.and_comm bits]

section

variable (aligned : page &&& vtdAddressMask = page)

include aligned

theorem allowEntry_address : allowEntry page &&& vtdAddressMask = page := by
  rw [allowEntry_and, aligned]
  exact BitVec.or_zero

theorem allowEntry_page : allowEntry page &&& ADDR64_PAGE_MASK_4K = page := by
  rw [allowEntry_and, page_mask aligned]
  exact BitVec.or_zero

theorem allowEntry_present : allowEntry page &&& (VTD_READ ||| VTD_WRITE) ≠ 0 := by
  rw [allowEntry_and, page_and aligned,
    show vtdAddressMask &&& (VTD_READ ||| VTD_WRITE) = 0#64 from rfl, BitVec.and_zero,
    BitVec.zero_or]
  decide

theorem slot_allowEntry : vtdShape.slot (lvl + 2) (allowEntry page) = .table page := by
  have small : ¬ (lvl + 2 = 1 ∨ allowEntry page &&& VTD_SUPERPAGE ≠ 0) := by
    rw [allowEntry_and, page_and aligned, show vtdAddressMask &&& VTD_SUPERPAGE = 0#64 from rfl,
      BitVec.and_zero, BitVec.zero_or]
    rintro (level | super)
    · omega
    · exact super rfl
  unfold vtdShape
  dsimp only
  rw [if_neg (allowEntry_present aligned), if_neg small, allowEntry_address aligned]

end

theorem vtdSlot_zero (lvl : Nat) : vtdShape.slot lvl 0 = .absent := by
  have zero : (0 : U64) &&& (VTD_READ ||| VTD_WRITE) = 0 := rfl
  unfold vtdShape
  dsimp only
  rw [if_pos zero]

end entries

/-! ## Growth -/

/-- The memory with a new page, to which an entry of a table points. -/
def PtMem.grown (m : PtMem) (page pt : U64) (idx : Nat) : PtMem where
  store := Function.update (Function.update m.store page fun _ => 0) pt
    (Function.update (m.store pt) idx (allowEntry page))
  used := Function.update m.used page true
  allocations := m.allocations + 1
  usedMem := page :: m.usedMem

/-- What the allocator's bitmap and the list of the table's pages say once a free page is
taken. -/
structure Taken (cfg : IommuConfig) (m : PtMem) (page : U64) : Prop where
  foreign : ∀ n, m.used n = true → n ≠ page
  inUse : ∀ n ∈ page :: m.usedMem, Function.update m.used page true n = true
  pages : ∀ n ∈ page :: m.usedMem, n &&& vtdAddressMask = n ∧ n ≠ cfg.eapRoot
  fresh : ∀ n ∈ page :: m.usedMem, n ∈ m.usedMem ∨ m.used n = false
  more : ∀ n, m.used n = true → Function.update m.used page true n = true

theorem Owned.taken {page : U64} (owned : Owned cfg own m)
    (alloc : cfg.allocPage m.allocations m.used = some page) : Taken cfg m page := by
  obtain ⟨free, aligned, -, notEap⟩ := cfg.alloc_page alloc
  have foreign : ∀ n, m.used n = true → n ≠ page := by
    rintro n inUse rfl
    rw [inUse] at free
    cases free
  refine ⟨foreign, ?_, ?_, ?_, ?_⟩
  · intro n mem
    by_cases new : n = page
    · rw [new, update_self]
    · rw [update_of_ne new]
      exact owned.inUse n ((List.mem_cons.mp mem).resolve_left new)
  · intro n mem
    rcases List.mem_cons.mp mem with rfl | old
    · exact ⟨aligned, notEap⟩
    · exact owned.pages n old
  · intro n mem
    rcases List.mem_cons.mp mem with rfl | old
    · exact .inr free
    · exact .inl old
  · intro n inUse
    rw [update_of_ne (foreign n inUse)]
    exact inUse

variable {result : Option U64} {R : Set U64} {last w : U64}

section

variable (owned : Owned cfg own m)

include owned

theorem Owned.grow {page : U64} (table : own pt = some (lvl + 2, R))
    (empty : m.store pt (vtdIndex (lvl + 2) gpa) = 0)
    (alloc : cfg.allocPage m.allocations m.used = some page) :
    Grows cfg (lvl + 2) own (update own page (some (lvl + 1, vtdShape.route R (lvl + 2) gpa))) m
      (m.grown page pt (vtdIndex (lvl + 2) gpa)) := by
  unfold PtMem.grown
  have aligned := (cfg.alloc_page alloc).2.1
  have taken := owned.taken alloc
  have unlisted : page ∉ m.usedMem := fun mem => taken.foreign page (owned.inUse page mem) rfl
  have unowned : own page = none := by
    by_contra some_
    exact unlisted (owned.listed page some_)
  have other : ∀ {n x}, own n = some x → n ≠ page := by
    rintro n x owned rfl
    rw [owned] at unowned
    cases unowned
  have entry : vtdShape.slot (lvl + 2) (allowEntry page) = .table page := slot_allowEntry aligned
  have absent : vtdShape.slot (lvl + 2) (m.store pt (vtdShape.idx (lvl + 2) gpa)) = .absent := by
    change vtdShape.slot (lvl + 2) (m.store pt (vtdIndex (lvl + 2) gpa)) = .absent
    rw [empty, vtdSlot_zero]
  refine ⟨⟨?_, ?_, ?_, taken.inUse, taken.pages⟩, ⟨?_, taken.fresh, taken.more⟩, ?_, ?_, ?_⟩
  · exact owned.covers.write_table table unowned entry fun k _ => vtdSlot_zero k
  · intro n l S i owner nonzero
    dsimp only at owner nonzero ⊢
    by_cases isPt : n = pt
    · subst isPt
      rw [update_of_ne (other table)] at owner
      cases owner.symm.trans table
      rw [update_self] at nonzero ⊢
      by_cases index : i = vtdIndex (lvl + 2) gpa
      · rw [index, update_self, entry, allowEntry_page aligned]
      · rw [update_of_ne index] at nonzero ⊢
        exact owned.clean n lvl R i table nonzero
    · rw [update_of_ne isPt] at nonzero ⊢
      by_cases new : n = page
      · rw [new, update_self] at nonzero
        exact absurd rfl nonzero
      · rw [update_of_ne new] at owner nonzero ⊢
        exact owned.clean n l S i owner nonzero
  · intro n owner
    by_cases new : n = page
    · exact new ▸ List.mem_cons_self
    · rw [update_of_ne new] at owner
      exact List.mem_cons_of_mem _ (owned.listed n owner)
  · intro n inUse foreign
    have notPt : n ≠ pt := by
      rintro rfl
      exact foreign (owned.listed n (by rw [table]; nofun))
    dsimp only
    rw [update_of_ne notPt, update_of_ne (taken.foreign n inUse)]
  · intro n x owner
    rw [update_of_ne (other owner)]
    exact owner
  · intro n k S owner higher
    have notPt : n ≠ pt := by
      rintro rfl
      cases owner.symm.trans table
      exact lt_irrefl _ higher
    dsimp only
    rw [update_of_ne notPt, update_of_ne (other owner)]
  · intro n k S w owner member
    exact owned.covers.walk_write_table table unowned absent entry (fun k _ => vtdSlot_zero k) owner
      member

theorem Grows.noMemory {count : Nat} : Grows cfg top own own m { m with allocations := count } :=
  ⟨⟨owned.covers, owned.clean, owned.listed, owned.inUse, owned.pages⟩,
    ⟨fun _ _ _ => rfl, fun _ => .inl, fun _ => id⟩, fun _ _ => id, fun _ _ _ _ _ => rfl,
    fun _ _ _ _ _ _ => rfl⟩

theorem vtdGetNextlvlPt_grows (table : own pt = some (lvl + 2, R)) (member : gpa ∈ R)
    (get : vtdGetNextlvlPt cfg m pt (vtdIndex (lvl + 2) gpa) = (m', result)) :
    ∃ own', Grows cfg (lvl + 2) own own' m m' ∧ ∀ next, result = some next →
      own' next = some (lvl + 1, vtdShape.route R (lvl + 2) gpa) ∧
        vtdShape.slot (lvl + 2) (m'.store pt (vtdIndex (lvl + 2) gpa)) = .table next := by
  unfold vtdGetNextlvlPt at get
  split at get
  · next empty =>
    unfold PtMem.allocPage at get
    cases alloc : cfg.allocPage m.allocations m.used with
    | none =>
      simp only [alloc] at get
      cases get
      exact ⟨own, .noMemory owned, nofun⟩
    | some page =>
      simp only [alloc] at get
      obtain ⟨free, aligned, -, -⟩ := cfg.alloc_page alloc
      have notPage : pt ≠ page := by
        rintro rfl
        rw [owned.inUse pt (owned.listed pt (by rw [table]; nofun))] at free
        cases free
      have grown : PtMem.write ⟨update m.store page fun _ => 0,
          update m.used page true, m.allocations + 1, page :: m.usedMem⟩ pt
            (vtdIndex (lvl + 2) gpa) ((page &&& ADDR64_PAGE_MASK_4K) |||
              (VTD_READ ||| VTD_WRITE ||| VTD_EXECUTE)) =
          m.grown page pt (vtdIndex (lvl + 2) gpa) := by
        unfold PtMem.write
        dsimp only
        rw [update_of_ne notPage, page_mask aligned]
        rfl
      have entry : (m.grown page pt (vtdIndex (lvl + 2) gpa)).store pt
          (vtdIndex (lvl + 2) gpa) = allowEntry page := by
        unfold PtMem.grown
        dsimp only
        rw [update_self, update_self]
      rw [grown, entry, allowEntry_page aligned] at get
      cases get
      refine ⟨_, owned.grow table empty alloc, ?_⟩
      rintro _ ⟨⟩
      rw [entry, slot_allowEntry aligned, update_self]
      exact ⟨rfl, rfl⟩
  · next present =>
    cases get
    refine ⟨own, .refl owned, ?_⟩
    rintro _ ⟨⟩
    have slot := owned.clean pt lvl R _ table present
    exact ⟨owned.covers.table table member slot, slot⟩

theorem vtdGetPt_grows (table : own pt = some (lvl + 1, R)) (member : gpa ∈ R)
    (get : vtdGetPt cfg gpa lvl m pt = (m', result)) :
    ∃ own', Grows cfg (lvl + 1) own own' m m' ∧ ∀ last, result = some last →
      vtdShape.Path m'.store gpa (lvl + 1) pt 1 last ∧ ∃ R', own' last = some (1, R') ∧ gpa ∈ R' ∧
          ∀ w ∈ R', w ∈ R ∧ ∀ l, 2 ≤ l → l ≤ lvl + 1 → vtdIndex l w = vtdIndex l gpa := by
  induction lvl generalizing own m pt R with
  | zero =>
    cases get
    refine ⟨own, .refl owned, ?_⟩
    rintro _ ⟨⟩
    exact ⟨.refl, R, table, member, fun w inside => ⟨inside, fun l two one => by omega⟩⟩
  | succ lvl ih =>
    unfold vtdGetPt at get
    cases step : vtdGetNextlvlPt cfg m pt (vtdIndex (lvl + 2) gpa) with
    | mk m₁ result₁ =>
      obtain ⟨own₁, grows₁, found₁⟩ := vtdGetNextlvlPt_grows owned table member step
      rw [step] at get
      cases result₁ with
      | none =>
        cases get
        exact ⟨own₁, grows₁, nofun⟩
      | some next =>
        obtain ⟨table₁, slot⟩ := found₁ next rfl
        have member₁ : gpa ∈ vtdShape.route R (lvl + 2) gpa :=
          Radix.Shape.mem_route member _
        obtain ⟨own', grows, found⟩ := ih grows₁.owned table₁ member₁ get
        refine ⟨own', grows₁.trans grows (by omega), fun last ends => ?_⟩
        obtain ⟨path, R', table', member', agree⟩ := found last ends
        refine ⟨.step (m := next) ?_ path, R', table', member', ?_⟩
        · rw [grows.above pt (lvl + 2) R (grows₁.keeps pt _ table) (by omega)]
          exact slot
        · intro w inside
          obtain ⟨⟨member, index⟩, lower⟩ := agree w inside
          refine ⟨member, fun l two top => ?_⟩
          rcases Nat.lt_or_ge (lvl + 1) l with highest | low
          · cases show l = lvl + 2 by omega
            exact index
          · exact lower l two low

end

/-! ## The entry of a page -/

/-- A page that may be mapped: its number fits into an entry, and it is not of XMHF. -/
structure IommuConfig.Mappable (cfg : IommuConfig) (spa : U64) : Prop where
  small : spa.toNat < 2 ^ 52
  foreign : xmhfIsMhvMemory cfg spa = false

theorem IommuConfig.Mappable.page (mappable : cfg.Mappable spa) {offset : Nat}
    (small : offset < 4096) :
    ¬ cfg.Mhv ((spa &&& ADDR64_PAGE_MASK_4K).toNat / 4096 * 4096 + offset) := by
  have foreign := mappable.foreign
  have fits := cfg.mhv_fits
  obtain ⟨base, size⟩ := cfg.mhv_pages
  have sum : (cfg.mhvBase + cfg.mhvSize).toNat = cfg.mhvBase.toNat + cfg.mhvSize.toNat := by
    rw [BitVec.toNat_add]
    omega
  unfold xmhfIsMhvMemory at foreign
  rw [Bool.and_eq_false_iff, decide_eq_false_iff_not, decide_eq_false_iff_not, BitVec.le_def,
    BitVec.lt_def, sum] at foreign
  rintro ⟨above, below⟩
  rw [page_toNat] at above below
  omega

/-- The entry that `iommu_vmx_map` writes, if the flags are known. -/
def mappedEntry (spa : U64) (flags : U32) : U64 :=
  if flags = DMA_ALLOW_ACCESS then allowEntry (spa &&& ADDR64_PAGE_MASK_4K)
  else (spa &&& ADDR64_PAGE_MASK_4K) &&& 0xfffffffe

theorem mapSpa_eq (known : flags = DMA_ALLOW_ACCESS ∨ flags = DMA_DENY_ACCESS) :
    m.mapSpa pt gpa spa flags = m.write pt (vtdIndex 1 gpa) (mappedEntry spa flags) := by
  unfold PtMem.mapSpa mappedEntry
  rcases known with rfl | rfl
  · rw [if_pos rfl, if_pos rfl]
    rfl
  · rw [if_neg (by decide), if_pos rfl, if_neg (by decide)]

theorem slot_mappedEntry (small : spa.toNat < 2 ^ 52) : vtdShape.slot 1 (mappedEntry spa flags) =
      if flags = DMA_ALLOW_ACCESS then .leaf else .absent := by
  unfold mappedEntry vtdShape
  dsimp only
  split
  · rw [if_neg (allowEntry_present (page_aligned small)), if_pos (.inl rfl)]
  · have absent : (spa &&& ADDR64_PAGE_MASK_4K) &&& 0xfffffffe &&& (VTD_READ ||| VTD_WRITE) =
        0 := by
      rw [BitVec.and_assoc, BitVec.and_assoc,
        show ADDR64_PAGE_MASK_4K &&& (0xfffffffe &&& (VTD_READ ||| VTD_WRITE)) = 0#64 from rfl,
        BitVec.and_zero]
      rfl
    rw [if_pos absent]

theorem Owned.map (owned : Owned cfg own m) (table : own last = some (1, R))
    (fits : spa.toNat < 2 ^ 52) (mappable : flags = DMA_ALLOW_ACCESS → cfg.Mappable spa) :
    Owned cfg own (m.write last (vtdIndex 1 gpa) (mappedEntry spa flags)) := by
  refine ⟨?_, ?_, owned.listed, owned.inUse, owned.pages⟩
  · refine owned.covers.write_entry table fun w _ => ?_
    unfold Radix.Shape.EntryOk
    rw [Nat.zero_add, slot_mappedEntry fits]
    by_cases allow : flags = DMA_ALLOW_ACCESS
    · rw [if_pos allow]
      refine ⟨rfl, fun offset small => ?_⟩
      rw [mappedEntry, if_pos allow, allowEntry_address (page_aligned fits)]
      exact (mappable allow).page small
    · rw [if_neg allow]
      trivial
  · intro n l S i owner nonzero
    have other : n ≠ last := by
      rintro rfl
      cases owner.symm.trans table
    unfold PtMem.write at nonzero ⊢
    dsimp only at nonzero ⊢
    rw [update_of_ne other] at nonzero ⊢
    exact owned.clean n l S i owner nonzero

theorem PtFrame.write {value : U64} {idx : Nat} (listed : last ∈ m.usedMem) :
    PtFrame m (m.write last idx value) := by
  refine ⟨fun n _ foreign => ?_, fun _ => .inl, fun _ => id⟩
  have other : n ≠ last := by
    rintro rfl
    exact foreign listed
  exact update_of_ne other _ _

theorem IommuConfig.levels_eq (known : cfg.levels = some levels) : levels = 3 ∨ levels = 4 := by
  unfold IommuConfig.levels at known
  split at known
  · exact .inr (Option.some.inj known).symm
  · split at known
    · exact .inl (Option.some.inj known).symm
    · cases known

theorem vtdIndex_page (page : w.toNat / 4096 = gpa.toNat / 4096) {l : Nat} (positive : 1 ≤ l) :
    vtdIndex l w = vtdIndex l gpa := by
  have split : ∀ x : Nat, x / 2 ^ (9 * l + 3) = x / 4096 / 2 ^ (9 * l - 9) := by
    intro x
    rw [Nat.div_div_eq_div_mul, show 4096 = 2 ^ 12 from rfl, ← Nat.pow_add]
    congr 2
    omega
  unfold vtdIndex
  rw [split, split, page]

theorem page_of_vtdIndex (known : levels = 3 ∨ levels = 4)
    (small : gpa.toNat < 2 ^ (9 * levels + 12)) (small' : w.toNat < 2 ^ (9 * levels + 12))
    (same : ∀ l, 1 ≤ l → l ≤ levels → vtdIndex l w = vtdIndex l gpa) :
    w.toNat / 4096 = gpa.toNat / 4096 := by
  have first := same 1 (by omega) (by omega)
  have second := same 2 (by omega) (by omega)
  have third := same 3 (by omega) (by omega)
  unfold vtdIndex at first second third
  rcases known with rfl | rfl
  · simp only [Nat.reduceMul, Nat.reduceAdd, Nat.reducePow] at first second third small small'
    omega
  · have fourth := same 4 (by omega) (by omega)
    unfold vtdIndex at fourth
    simp only [Nat.reduceMul, Nat.reduceAdd, Nat.reducePow] at first second third fourth
    simp only [Nat.reduceMul, Nat.reduceAdd, Nat.reducePow] at small small'
    omega

/-- What mapping a page does to its table, from the root on. -/
structure PageMapped (cfg : IommuConfig) (levels : Nat) (root gpa spa : U64) (flags : U32) (status : Bool)
    (m m' : PtMem) : Prop where
  frame : PtFrame m m'
  owned : ∃ own, Owned cfg own m' ∧ own root = some (levels, Set.univ)
  others : ∀ w : U64, w.toNat < 2 ^ (9 * levels + 12) → w.toNat / 4096 ≠ gpa.toNat / 4096 →
    vtdShape.walk m'.store w levels root = vtdShape.walk m.store w levels root
  mapped : status = true → ∀ w : U64, w.toNat / 4096 = gpa.toNat / 4096 →
    vtdShape.walk m'.store w levels root =
      if flags = DMA_ALLOW_ACCESS then some (1, mappedEntry spa flags) else none

theorem Owned.mapPage {root : U64} (levelsKnown : levels = 3 ∨ levels = 4)
    (known : flags = DMA_ALLOW_ACCESS ∨ flags = DMA_DENY_ACCESS) (fits : spa.toNat < 2 ^ 52)
    (mappable : flags = DMA_ALLOW_ACCESS → cfg.Mappable spa)
    (small : gpa.toNat < 2 ^ (9 * levels + 12)) (owned : Owned cfg own m)
    (table : own root = some (levels, Set.univ))
    (get : vtdGetPt cfg gpa (levels - 1) m root = (m', result)) :
    PageMapped cfg levels root gpa spa flags result.isSome m
      (result.elim m' fun last => m'.mapSpa last gpa spa flags) := by
  obtain ⟨lvl, rfl⟩ : ∃ lvl, levels = lvl + 1 := ⟨levels - 1, by omega⟩
  obtain ⟨own', grows, found⟩ := vtdGetPt_grows owned table trivial get
  have table' := grows.keeps root _ table
  cases result with
  | none =>
    exact ⟨grows.frame, ⟨own', grows.owned, table'⟩,
      fun w _ _ => grows.lookups root _ _ w table trivial, nofun⟩
  | some last =>
    obtain ⟨path, R, tableLast, member, agree⟩ := found last rfl
    have listed : last ∈ m'.usedMem := grows.owned.listed last (by rw [tableLast]; nofun)
    dsimp only [Option.elim]
    rw [mapSpa_eq known]
    refine ⟨grows.frame.trans (.write listed), ⟨own', grows.owned.map tableLast fits mappable, table'⟩,
      fun w small' other => ?_, fun _ w page => ?_⟩
    · have elsewhere : w ∉ vtdShape.route R 1 gpa := by
        rintro ⟨inside, index⟩
        refine other (page_of_vtdIndex levelsKnown small small' fun l low high => ?_)
        rcases Nat.eq_or_lt_of_le low with rfl | two
        · exact index
        · exact (agree w inside).2 l two high
      rw [← grows.lookups root _ _ w table trivial]
      exact grows.owned.covers.walk_write_entry tableLast elsewhere table' trivial
    · have same : vtdShape.walk (m'.write last (vtdIndex 1 gpa) (mappedEntry spa flags)).store
          w (lvl + 1) root = vtdShape.walk
            (m'.write last (vtdIndex 1 gpa) (mappedEntry spa flags)).store gpa (lvl + 1) root :=
        Radix.Shape.walk_idx vtdShape fun l low _ => vtdIndex_page page low
      have path' : vtdShape.Path
          (m'.write last (vtdIndex 1 gpa) (mappedEntry spa flags)).store gpa (lvl + 1) root 1
            last := by
        refine path.congr grows.owned.covers (fun n l S owner above => ?_) table' trivial
        have notLast : n ≠ last := by
          rintro rfl
          cases owner.symm.trans tableLast
          exact lt_irrefl _ above
        exact update_of_ne notLast _ _
      have entry : (m'.write last (vtdIndex 1 gpa) (mappedEntry spa flags)).store last
          (vtdShape.idx 1 gpa) = mappedEntry spa flags := by
        change update m'.store last _ last (vtdIndex 1 gpa) = _
        rw [update_self, update_self]
      rw [same, path'.walk, Radix.Shape.walk, entry, slot_mappedEntry fits]
      by_cases allow : flags = DMA_ALLOW_ACCESS
      · rw [if_pos allow, if_pos allow]
      · rw [if_neg allow, if_neg allow]

theorem Owned.root {page : U64} (levels : Nat) (owned : Owned cfg own m)
    (nothing : ∀ n, own n = none) (alloc : cfg.allocPage m.allocations m.used = some page) :
    Owned cfg (update own page (some (levels, Set.univ)))
        ⟨update m.store page fun _ => 0, update m.used page true,
          m.allocations + 1, page :: m.usedMem⟩ ∧
      PtFrame m ⟨update m.store page fun _ => 0, update m.used page true,
        m.allocations + 1, page :: m.usedMem⟩ := by
  have taken := owned.taken alloc
  have only : ∀ {n x}, update own page (some (levels, Set.univ)) n = some x →
      n = page := by
    intro n x owner
    by_contra other
    rw [update_of_ne other, nothing] at owner
    cases owner
  refine ⟨⟨?_, ?_, ?_, taken.inUse, taken.pages⟩, ⟨?_, taken.fresh, taken.more⟩⟩
  · intro n l R owner v _
    cases only owner
    dsimp only
    rw [update_self, Radix.Shape.EntryOk, vtdSlot_zero]
    trivial
  · intro n l R i owner nonzero
    cases only owner
    dsimp only at nonzero
    rw [update_self] at nonzero
    exact absurd rfl nonzero
  · intro n owner
    obtain ⟨x, owner⟩ := Option.ne_none_iff_exists'.mp owner
    exact only owner ▸ List.mem_cons_self
  · intro n inUse _
    exact update_of_ne (taken.foreign n inUse) _ _

end Xmhf
