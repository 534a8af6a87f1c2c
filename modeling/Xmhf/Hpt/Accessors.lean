import Xmhf.Hpt.Ept

/-!
# Setting and reading entries

What the setters of `hpt.c` and the getters have to do with each other, for every paging
type and level. Setting the permission of an entry (`hpt_pme_setprot`) and its address
(`hpt_pme_set_address`) is followed by reading it back. Assertions and the amounts by
which the bit helpers shift are part of what is asked for, since C leaves a shift by a
negative or over-wide amount undefined.
-/

namespace Xmhf

/-! ## Bits that an accessor reads -/

theorem br64GetHl_congr {x y : U64} (hi lo : Nat) (le : lo ≤ hi) (small : hi < 64)
    (agree : ∀ i, lo ≤ i → i ≤ hi → x.getLsbD i = y.getLsbD i) :
    br64GetHl x hi lo = br64GetHl y hi lo := by
  apply BitVec.eq_of_getLsbD_eq
  intro i _
  rw [getLsbD_br64GetHl x le small, getLsbD_br64GetHl y le small]
  by_cases inside : lo + i ≤ hi
  · rw [agree (lo + i) (by omega) inside]
  · simp [inside]

section

variable {t : HptType} {lvl : Nat} {x y : Pme}

theorem getBit_congr (pos : Nat) (small : pos < 64) (agree : x.getLsbD pos = y.getLsbD pos) :
    br64GetBit x pos = br64GetBit y pos := by
  rw [br64GetBit_eq x small, br64GetBit_eq y small, agree]

theorem isPage_congr (agree : x.getLsbD 7 = y.getLsbD 7) :
    hptPmeIsPage t lvl x = hptPmeIsPage t lvl y := by
  have bit : br64GetBit x 7 = br64GetBit y 7 := getBit_congr 7 (by decide) agree
  unfold hptPmeIsPage
  rw [bit]

theorem getuser_congr (agree : x.getLsbD 2 = y.getLsbD 2) :
    hptPmeGetuser t lvl x = hptPmeGetuser t lvl y := by
  have bit : br64GetBit x 2 = br64GetBit y 2 := getBit_congr 2 (by decide) agree
  unfold hptPmeGetuser
  rw [bit]

theorem getPmt_congr (agree : ∀ i, 3 ≤ i → i ≤ 5 → x.getLsbD i = y.getLsbD i) :
    hptPmeGetPmt t x = hptPmeGetPmt t y := by
  have range : br64GetHl x 5 3 = br64GetHl y 5 3 :=
    br64GetHl_congr 5 3 (by decide) (by decide) agree
  have pcd : br64GetBit x 4 = br64GetBit y 4 :=
    getBit_congr 4 (by decide) (agree 4 (by decide) (by decide))
  have pwt : br64GetBit x 3 = br64GetBit y 3 :=
    getBit_congr 3 (by decide) (agree 3 (by decide) (by decide))
  unfold hptPmeGetPmt
  rw [range, pcd, pwt]

theorem getAddress_congr (size : x.getLsbD 7 = y.getLsbD 7)
    (agree : ∀ i, 12 ≤ i → i ≤ 51 → x.getLsbD i = y.getLsbD i) :
    hptPmeGetAddress t lvl x = hptPmeGetAddress t lvl y := by
  have copy : ∀ (dst : U64) (hi lo : Nat) (offset : Int), lo ≤ hi → hi ≤ 51 → 12 ≤ lo →
      br64CopyBitsHl dst x hi lo offset = br64CopyBitsHl dst y hi lo offset := by
    intro dst hi lo offset le high low
    unfold br64CopyBitsHl
    rw [br64GetHl_congr hi lo le (by omega) fun i above below => agree i (by omega) (by omega)]
  have wide := copy 0#64 51 12 0 (by decide) (by decide) (by decide)
  have large := copy 0#64 51 13 0 (by decide) (by decide) (by decide)
  have narrow := copy 0#64 31 12 0 (by decide) (by decide) (by decide)
  have pse := copy 0#64 39 32 (32 - 13) (by decide) (by decide) (by decide)
  have middle := fun dst => copy dst 31 22 (22 - 22) (by decide) (by decide) (by decide)
  unfold hptPmeGetAddress
  rw [isPage_congr size]
  cases t with
  | norm =>
    dsimp only
    split
    · split
      · refine Eq.trans (middle _) ?_
        exact congrArg (fun dst => br64CopyBitsHl dst y 31 22 (22 - 22)) pse
      · exact narrow
    · exact narrow
  | pae | long =>
    dsimp only
    split
    · split
      · exact wide
      · exact large
    · exact wide
  | ept => exact wide

end

/-! ## Permissions -/

/-- The assertions of `hpt_pme_setprot`; the last one is that of `BR64_SET_HL`. -/
def hptPmeSetprotAsserts (t : HptType) (lvl : Nat) (perms : Prot) : Bool :=
  hptLvlIsValid t lvl && hptProtIsValid t lvl perms && (t != .ept || br64SetHlAsserts 2 0 perms)

/-- Setting a permission has the effect that reading it back expects, and no other. -/
structure ProtRoundTrip (t : HptType) (lvl : Nat) (entry : Pme) (perms : Prot) : Prop where
  asserts : hptPmeSetprotAsserts t lvl perms = true
  getprot : hptPmeGetprot t lvl (hptPmeSetprot t lvl entry perms) = perms
  present : hptPmeIsPresent t lvl (hptPmeSetprot t lvl entry perms) = true ↔ perms ≠ hptProtsNone
  user : hptPmeGetuser t lvl (hptPmeSetprot t lvl entry perms) = hptPmeGetuser t lvl entry
  address : hptPmeGetAddress t lvl (hptPmeSetprot t lvl entry perms) = hptPmeGetAddress t lvl entry
  memoryType : hptPmeGetPmt t (hptPmeSetprot t lvl entry perms) = hptPmeGetPmt t entry
  page : hptPmeIsPage t lvl (hptPmeSetprot t lvl entry perms) = hptPmeIsPage t lvl entry

/-- The entries of level 3 of PAE have no write and no execute bit. -/
def ProtKept (t : HptType) (lvl : Nat) (perms : Prot) : Prop :=
  ¬ (t = .pae ∧ lvl = 3 ∧ (perms = hptProtsRx ∨ perms = hptProtsRw)) ∧ (t = .ept → perms.toNat < 8)

section

variable {t : HptType} {lvl : Nat} {entry : Pme} {perms : Prot}

theorem zeroHi64_eq_iff (x : U64) : zeroHi64 x (63 - (2 - 0)) = x ↔ x.toNat < 8 := by
  have number := @toNat_br64GetHl x 2 0 (by decide) (by decide)
  have shift : br64GetHl x (2 : Nat) (0 : Nat) = zeroHi64 x (63 - (2 - 0)) := by
    unfold br64GetHl
    rw [show shiftAmount ((0 : Nat) : Int) = 0 from rfl, BitVec.ushiftRight_zero]
    rfl
  rw [shift, Nat.pow_zero, Nat.div_one] at number
  rw [← BitVec.toNat_inj, number]
  omega

theorem setprotAsserts_ept : hptPmeSetprotAsserts .ept lvl perms = true ↔
    hptLvlIsValid .ept lvl = true ∧ perms.toNat < 8 := by
  unfold hptPmeSetprotAsserts br64SetHlAsserts
  rw [← zeroHi64_eq_iff]
  simp [hptProtIsValid]

theorem getLsbD_high {x : U64} (small : x.toNat < 8) {i : Nat} (high : 2 < i) :
    x.getLsbD i = false := by
  have power : 2 ^ 3 ≤ 2 ^ i := Nat.pow_le_pow_right (by decide) (by omega)
  exact Nat.testBit_lt_two_pow (by omega)

theorem getLsbD_setprot_of_ne (format : t ≠ .ept) {i : Nat} (low : 1 < i) (high : i < 63) :
    (hptPmeSetprot t lvl entry perms).getLsbD i = entry.getLsbD i := by
  have bit : ∀ (x : U64) (pos : Nat) (val : Bool), pos < 64 → i ≠ pos →
      (br64SetBit x pos val).getLsbD i = x.getLsbD i := by
    intro x pos val small other
    rw [getLsbD_br64SetBit x small, if_neg other]
  have zero := fun x val => bit x 0 val (by decide) (by omega)
  have one := fun x val => bit x 1 val (by decide) (by omega)
  have top := fun x val => bit x 63 val (by decide) (by omega)
  cases t with
  | norm => exact (one _ _).trans (zero _ _)
  | pae =>
    unfold hptPmeSetprot
    dsimp only
    split
    · exact (top _ _).trans ((one _ _).trans (zero _ _))
    · exact zero _ _
  | long => exact (top _ _).trans ((one _ _).trans (zero _ _))
  | ept => exact absurd rfl format

theorem getLsbD_setprot (fits : t = .ept → perms.toNat < 8) {i : Nat} (low : 2 < i)
    (high : i < 63) : (hptPmeSetprot t lvl entry perms).getLsbD i = entry.getLsbD i := by
  by_cases format : t = .ept
  · subst format
    rw [getLsbD_ept_setprot lvl entry (fun j above => getLsbD_high (fits rfl) above), if_neg]
    omega
  · exact getLsbD_setprot_of_ne format (by omega) high

theorem getuser_setprot : hptPmeGetuser t lvl (hptPmeSetprot t lvl entry perms) =
    hptPmeGetuser t lvl entry := by
  cases t with
  | norm | pae | long =>
    apply getuser_congr
    apply getLsbD_setprot_of_ne <;> decide
  | ept => rfl

theorem testMaskBit64_setBit (x : U64) {pos bit : Int} (val : Bool) (posLow : 0 ≤ pos)
    (posHigh : pos < 64) (bitLow : 0 ≤ bit) (bitHigh : bit < 64) :
    testMaskBit64 (br64SetBit x pos val) bit = if bit = pos then val else testMaskBit64 x bit := by
  lift pos to Nat using posLow
  lift bit to Nat using bitLow
  rw [testMaskBit64_eq _ (by omega), testMaskBit64_eq _ (by omega), getLsbD_br64SetBit x (by omega)]
  simp only [Int.natCast_inj]

theorem getprot_setprot_plain (format : t = .norm ∨ t = .long ∨ t = .pae ∧ (lvl = 2 ∨ lvl = 1)) :
    hptPmeGetprot t lvl (hptPmeSetprot t lvl entry perms) = hptProtOf
      (perms &&& hptProtReadMask != 0#64) (perms &&& hptProtWriteMask != 0#64)
      (perms &&& (if t = .norm then hptProtReadMask else hptProtExecMask) != 0#64) := by
  rcases format with rfl | rfl | ⟨rfl, below⟩
  all_goals simp_all [hptPmeGetprot, hptPmeSetprot, testMaskBit64_setBit]

theorem getprot_setprot_pae_top : hptPmeGetprot .pae 3 (hptPmeSetprot .pae 3 entry perms) =
      hptProtOf (perms &&& hptProtReadMask != 0#64) (perms &&& hptProtReadMask != 0#64)
        (perms &&& hptProtReadMask != 0#64) := by
  simp [hptPmeGetprot, hptPmeSetprot, testMaskBit64_setBit]

theorem getprot_setprot_ept (fits : perms.toNat < 8) :
    hptPmeGetprot .ept lvl (hptPmeSetprot .ept lvl entry perms) = perms := by
  have written := getLsbD_ept_setprot lvl entry (fun j above => getLsbD_high fits above)
  apply BitVec.eq_of_getLsbD_eq
  intro i small
  rw [getLsbD_ept_getprot, written]
  by_cases low : i ≤ 2
  · simp [low]
  · rw [getLsbD_high fits (by omega)]
    simp [low]

theorem getprot_setprot (level : 1 ≤ lvl) (valid : hptLvlIsValid t lvl = true)
    (declared : hptProtIsValid t lvl perms = true) (kept : ProtKept t lvl perms) :
    hptPmeGetprot t lvl (hptPmeSetprot t lvl entry perms) = perms := by
  cases t with
  | norm =>
    rw [getprot_setprot_plain (.inl rfl)]
    simp only [hptProtIsValid, Bool.or_eq_true, beq_iff_eq] at declared
    rcases declared with (rfl | rfl) | rfl <;> rfl
  | pae =>
    have top : lvl ≤ 3 := of_decide_eq_true valid
    simp only [hptProtIsValid, Bool.or_eq_true, Bool.and_eq_true, bne_iff_ne, beq_iff_eq]
      at declared
    by_cases below : lvl = 2 ∨ lvl = 1
    · rw [getprot_setprot_plain (.inr (.inr ⟨rfl, below⟩))]
      rcases declared with (rfl | rfl) | (⟨_, rfl⟩ | rfl) | rfl <;> rfl
    · obtain rfl : lvl = 3 := by omega
      rw [getprot_setprot_pae_top]
      rcases declared with (rfl | rfl) | (⟨other, _⟩ | dropped) | dropped
      · rfl
      · rfl
      · exact absurd rfl other
      · exact absurd ⟨rfl, rfl, .inl dropped⟩ kept.1
      · exact absurd ⟨rfl, rfl, .inr dropped⟩ kept.1
  | long =>
    rw [getprot_setprot_plain (.inr (.inl rfl))]
    simp only [hptProtIsValid, Bool.or_eq_true, beq_iff_eq] at declared
    rcases declared with (((rfl | rfl) | rfl) | rfl) | rfl <;> rfl
  | ept => exact getprot_setprot_ept (kept.2 rfl)

theorem present_iff_of_getprot (declared : hptProtIsValid t lvl perms = true)
    (fits : t = .ept → perms.toNat < 8) {entry : Pme}
    (read : hptPmeGetprot t lvl entry = perms) :
    hptPmeIsPresent t lvl entry = true ↔ perms ≠ hptProtsNone := by
  cases t with
  | norm =>
    simp only [hptProtIsValid, Bool.or_eq_true, beq_iff_eq] at declared
    simp only [hptPmeIsPresent, read]
    rcases declared with (rfl | rfl) | rfl <;> decide
  | pae =>
    simp only [hptProtIsValid, Bool.or_eq_true, Bool.and_eq_true, bne_iff_ne, beq_iff_eq]
      at declared
    simp only [hptPmeIsPresent, read]
    rcases declared with (rfl | rfl) | (⟨_, rfl⟩ | rfl) | rfl <;> decide
  | long =>
    simp only [hptProtIsValid, Bool.or_eq_true, beq_iff_eq] at declared
    simp only [hptPmeIsPresent, read]
    rcases declared with (((rfl | rfl) | rfl) | rfl) | rfl <;> decide
  | ept =>
    have whole : perms &&& hptProtsRwx = perms := by
      rw [← BitVec.toNat_inj, BitVec.toNat_and,
        show hptProtsRwx.toNat = 2 ^ 3 - 1 from rfl, Nat.and_two_pow_sub_one_eq_mod]
      exact Nat.mod_eq_of_lt (fits rfl)
    simp only [hptPmeIsPresent, read, whole, bne_iff_ne]

/-- Rights come back exactly if they are not read-execute or read-write at level 3 of PAE, and fit the
three bits of an EPT entry. -/
theorem setprot_getprot_iff (level : 1 ≤ lvl) (valid : hptLvlIsValid t lvl = true)
    (declared : hptProtIsValid t lvl perms = true) :
    ProtRoundTrip t lvl entry perms ↔ ProtKept t lvl perms := by
  constructor
  · intro trip
    constructor
    · rintro ⟨rfl, rfl, dropped⟩
      have read := trip.getprot
      rw [getprot_setprot_pae_top] at read
      rcases dropped with rfl | rfl <;> exact absurd read (by decide)
    · rintro rfl
      exact (setprotAsserts_ept.mp trip.asserts).2
  · intro kept
    have read := @getprot_setprot t lvl entry perms level valid declared kept
    have same := fun i low high => @getLsbD_setprot t lvl entry perms kept.2 i low high
    have page := same 7 (by decide) (by decide)
    refine ⟨?_, read, present_iff_of_getprot declared kept.2 read, getuser_setprot,
      getAddress_congr page fun i low high => same i (by omega) (by omega),
      getPmt_congr fun i low high => same i (by omega) (by omega), isPage_congr page⟩
    cases t with
    | ept => exact setprotAsserts_ept.mpr ⟨valid, kept.2 rfl⟩
    | norm | pae | long => simp [hptPmeSetprotAsserts, valid, declared]

end

theorem setprot_getprot_iff_sample :
    hptProtIsValid .long 2 hptProtsRw = true ∧ ProtRoundTrip .long 2 0xe7#64 hptProtsRw := by
  refine ⟨rfl, (setprot_getprot_iff (by decide) rfl rfl).mpr ⟨?_, nofun⟩⟩
  rintro ⟨other, _⟩
  exact absurd other (by decide)

/-- A PAE level 3 entry that is set to read and execute is read back as writable too. -/
theorem setprot_widens_pae_top :
    ¬ ∀ (t : HptType) (lvl : Nat) (entry : Pme) (perms : Prot), 1 ≤ lvl →
      hptLvlIsValid t lvl = true → hptProtIsValid t lvl perms = true →
        ProtRoundTrip t lvl entry perms := by
  intro always
  have read := (always .pae 3 0#64 hptProtsRx (by decide) rfl rfl).getprot
  rw [getprot_setprot_pae_top] at read
  exact absurd read (by decide)

/-! ## Addresses -/

/-- The shift amounts that each helper of the source evaluates. -/
def maskRange64Shifts (hi lo : Int) : List Int := [64 - hi - 1, 64 - hi - 1, lo, lo]

def br64GetHlShifts (hi lo : Int) : List Int := [63 - hi, 63 - hi, lo]

def br64SetHlShifts (hi lo : Int) : List Int :=
  [63 - (hi - lo), 63 - (hi - lo)] ++ maskRange64Shifts hi lo ++ [lo]

def br64GetBitShifts (pos : Int) : List Int := maskRange64Shifts pos pos ++ [pos]

def br64CopyBitsHlShifts (srcHi srcLo offset : Int) : List Int :=
  br64GetHlShifts srcHi srcLo ++ br64SetHlShifts (srcHi + offset) (srcLo + offset)

def hptPmeIsPageShifts (t : HptType) (lvl : Nat) : List Int :=
  match t with
  | .norm => if lvl = 2 then br64GetBitShifts 7 else []
  | .pae => if lvl = 2 then br64GetBitShifts 7 else []
  | .long => if lvl = 2 ∨ lvl = 3 then br64GetBitShifts 7 else []
  | .ept => if lvl = 2 ∨ lvl = 3 then br64GetBitShifts 7 else []

def hptPmeGetAddressShifts (t : HptType) (lvl : Nat) (entry : Pme) : List Int :=
  match t with
  | .norm =>
    if lvl = 2 then
      hptPmeIsPageShifts t lvl ++
        if hptPmeIsPage t lvl entry then
          br64CopyBitsHlShifts 39 32 (32 - 13) ++ br64CopyBitsHlShifts 31 22 (22 - 22)
        else br64CopyBitsHlShifts 31 12 0
    else br64CopyBitsHlShifts 31 12 0
  | .pae | .long =>
    hptPmeIsPageShifts t lvl ++
      if hptPmeIsPage t lvl entry then
        if lvl = 1 then br64CopyBitsHlShifts 51 12 0 else br64CopyBitsHlShifts 51 13 0
      else br64CopyBitsHlShifts 51 12 0
  | .ept => br64CopyBitsHlShifts 51 12 0

/-- The same ranges as those read, except that the two parts of the address of a 4 MB page are
named by their place in the entry. -/
def hptPmeSetAddressShifts (t : HptType) (lvl : Nat) (entry : Pme) : List Int :=
  match t with
  | .norm =>
    if lvl = 2 then
      hptPmeIsPageShifts t lvl ++
        if hptPmeIsPage t lvl entry then
          br64CopyBitsHlShifts 20 13 (13 - 32) ++ br64CopyBitsHlShifts 31 22 (22 - 22)
        else br64CopyBitsHlShifts 31 12 0
    else br64CopyBitsHlShifts 31 12 0
  | .pae | .long =>
    hptPmeIsPageShifts t lvl ++
      if hptPmeIsPage t lvl entry then
        if lvl = 1 then br64CopyBitsHlShifts 51 12 0 else br64CopyBitsHlShifts 51 13 0
      else br64CopyBitsHlShifts 51 12 0
  | .ept => br64CopyBitsHlShifts 51 12 0

/-- Number of low address bits that an entry leaves out. -/
def offsetBits (t : HptType) (lvl : Nat) (entry : Pme) : Nat :=
  if hptPmeIsPage t lvl entry then hptVaIdxHi t (lvl - 1) + 1 else 12

/-- A 4 MB page of the 32-bit format holds its address in two parts. -/
def isPse36 (t : HptType) (lvl : Nat) (entry : Pme) : Bool :=
  t == .norm && lvl == 2 && hptPmeIsPage t lvl entry

def addressBits (t : HptType) (lvl : Nat) (entry : Pme) : Nat :=
  match t with
  | .norm => if isPse36 t lvl entry then 40 else 32
  | _ => 52

def AddressField (t : HptType) (lvl : Nat) (entry : Pme) (i : Nat) : Prop :=
  if isPse36 t lvl entry then 13 ≤ i ∧ i ≤ 20 ∨ 22 ≤ i ∧ i ≤ 31
  else offsetBits t lvl entry ≤ i ∧ i < addressBits t lvl entry

/-- Setting an address has the effect that reading it back expects, and no other. -/
structure AddressRoundTrip (t : HptType) (lvl : Nat) (entry : Pme) (addr : Pa) : Prop where
  setShifts : ∀ n ∈ hptPmeSetAddressShifts t lvl entry, 0 ≤ n ∧ n < 64
  getShifts : ∀ n ∈ hptPmeGetAddressShifts t lvl (hptPmeSetAddress t lvl entry addr), 0 ≤ n ∧ n < 64
  getAddress : hptPmeGetAddress t lvl (hptPmeSetAddress t lvl entry addr) =
    (addr >>> offsetBits t lvl entry) <<< offsetBits t lvl entry
  kept : ∀ i, ¬ AddressField t lvl entry i →
    (hptPmeSetAddress t lvl entry addr).getLsbD i = entry.getLsbD i

/-- The lowest bit that the source copies as part of the address. -/
def addressLo (t : HptType) (lvl : Nat) (entry : Pme) : Nat :=
  match t with
  | .norm => 12
  | .pae | .long => if hptPmeIsPage t lvl entry ∧ lvl ≠ 1 then 13 else 12
  | .ept => 12

/-- The source takes the address of a large page to start right above its lowest bits. -/
def AddressKept (t : HptType) (lvl : Nat) (entry : Pme) (addr : Pa) : Prop :=
  isPse36 t lvl entry = false ∧ ∀ i, addressLo t lvl entry ≤ i → i < offsetBits t lvl entry →
      addr.getLsbD i = false ∧ entry.getLsbD i = false

section

variable {t : HptType} {lvl : Nat} {entry : Pme} {addr : Pa}

theorem addressLo_ge : 12 ≤ addressLo t lvl entry := by
  cases t <;> unfold addressLo <;> dsimp only <;> try split
  all_goals omega

theorem addressLo_lt : addressLo t lvl entry < 32 := by
  cases t <;> unfold addressLo <;> dsimp only <;> try split
  all_goals omega

theorem addressBits_range : 32 ≤ addressBits t lvl entry ∧ addressBits t lvl entry ≤ 52 := by
  cases t <;> unfold addressBits <;> dsimp only <;> try split
  all_goals omega

theorem not_page_of_plain (plain : isPse36 .norm lvl entry = false) (two : lvl = 2) :
    ¬ hptPmeIsPage .norm lvl entry = true := by
  intro page
  simp [isPse36, two, two ▸ page] at plain

section

variable (plain : isPse36 t lvl entry = false)

include plain

theorem address_eq_copy : hptPmeSetAddress t lvl entry addr = br64CopyBitsHl entry addr
      ((addressBits t lvl entry - 1 : Nat) : Int) (addressLo t lvl entry : Nat) 0 ∧
    hptPmeGetAddress t lvl entry = br64CopyBitsHl 0#64 entry
      ((addressBits t lvl entry - 1 : Nat) : Int) (addressLo t lvl entry : Nat) 0 := by
  cases t with
  | norm =>
    simp only [hptPmeSetAddress, hptPmeGetAddress, addressBits, addressLo, plain]
    by_cases two : lvl = 2
    · simp only [if_pos two, if_neg (not_page_of_plain plain two)]
      exact ⟨rfl, rfl⟩
    · simp only [if_neg two]
      exact ⟨rfl, rfl⟩
  | pae | long =>
    unfold hptPmeSetAddress hptPmeGetAddress addressBits addressLo
    dsimp only
    split <;> split <;> simp_all
  | ept => exact ⟨rfl, rfl⟩

theorem getLsbD_setAddress (i : Nat) :
    (hptPmeSetAddress t lvl entry addr).getLsbD i =
      if addressLo t lvl entry ≤ i ∧ i < addressBits t lvl entry then addr.getLsbD i
      else entry.getLsbD i := by
  have lo := @addressLo_lt t lvl entry
  have bits := @addressBits_range t lvl entry
  rw [(address_eq_copy plain).1, getLsbD_br64CopyBitsHl _ _ (by omega) (by omega)]
  have bound : i ≤ addressBits t lvl entry - 1 ↔ i < addressBits t lvl entry := by omega
  simp only [bound]

theorem getLsbD_getAddress (i : Nat) :
    (hptPmeGetAddress t lvl entry).getLsbD i =
      if addressLo t lvl entry ≤ i ∧ i < addressBits t lvl entry then entry.getLsbD i
      else false := by
  have lo := @addressLo_lt t lvl entry
  have bits := @addressBits_range t lvl entry
  rw [(@address_eq_copy t lvl entry 0 plain).2, getLsbD_br64CopyBitsHl _ _ (by omega) (by omega)]
  have bound : i ≤ addressBits t lvl entry - 1 ↔ i < addressBits t lvl entry := by omega
  simp only [bound, BitVec.getLsbD_zero]

theorem isPage_setAddress :
    hptPmeIsPage t lvl (hptPmeSetAddress t lvl entry addr) = hptPmeIsPage t lvl entry := by
  have lo := @addressLo_ge t lvl entry
  apply isPage_congr
  rw [getLsbD_setAddress plain, if_neg]
  omega

theorem getLsbD_getAddress_setAddress (i : Nat) :
    (hptPmeGetAddress t lvl (hptPmeSetAddress t lvl entry addr)).getLsbD i =
      if addressLo t lvl entry ≤ i ∧ i < addressBits t lvl entry then addr.getLsbD i
      else false := by
  have page := @isPage_setAddress t lvl entry addr plain
  have pse : isPse36 t lvl (hptPmeSetAddress t lvl entry addr) = false := by
    unfold isPse36 at plain ⊢
    rw [page]
    exact plain
  have lo : addressLo t lvl (hptPmeSetAddress t lvl entry addr) = addressLo t lvl entry := by
    unfold addressLo
    rw [page]
  have bits : addressBits t lvl (hptPmeSetAddress t lvl entry addr) =
      addressBits t lvl entry := by
    unfold addressBits
    rw [pse, plain]
  rw [getLsbD_getAddress pse, lo, bits]
  split
  · rename_i inside
    rw [getLsbD_setAddress plain, if_pos inside]
  · rfl

theorem offsetBits_range :
    addressLo t lvl entry ≤ offsetBits t lvl entry ∧
      offsetBits t lvl entry ≤ addressBits t lvl entry := by
  have bits := @addressBits_range t lvl entry
  by_cases page : hptPmeIsPage t lvl entry = true
  · have size : offsetBits t lvl entry = hptVaIdxHi t (lvl - 1) + 1 := if_pos page
    rw [size]
    cases t with
    | norm =>
      simp only [isPse36, page, beq_self_eq_true, Bool.true_and, Bool.and_true,
        beq_eq_false_iff_ne] at plain
      have levels : lvl = 1 ∨ lvl = 2 ∧ br64GetBit entry 7 = true := by
        simpa [hptPmeIsPage] using page
      obtain rfl : lvl = 1 := by omega
      exact ⟨Nat.le_refl 12, by simp only [hptVaIdxHi]; omega⟩
    | pae =>
      have levels : lvl = 1 ∨ lvl = 2 ∧ br64GetBit entry 7 = true := by
        simpa [hptPmeIsPage] using page
      rcases levels with rfl | ⟨rfl, _⟩ <;> simp [addressLo, page, hptVaIdxHi, addressBits]
    | long =>
      have levels : lvl = 1 ∨ (lvl = 2 ∨ lvl = 3) ∧ br64GetBit entry 7 = true := by
        simpa [hptPmeIsPage] using page
      rcases levels with rfl | ⟨rfl | rfl, _⟩ <;>
        simp [addressLo, page, hptVaIdxHi, addressBits]
    | ept =>
      have levels : lvl = 1 ∨ (lvl = 2 ∨ lvl = 3) ∧ br64GetBit entry 7 = true := by
        simpa [hptPmeIsPage] using page
      rcases levels with rfl | ⟨rfl | rfl, _⟩ <;> simp [addressLo, hptVaIdxHi, addressBits]
  · have table : offsetBits t lvl entry = 12 := if_neg page
    cases t <;> simp [addressLo, page, table] <;> omega

end

theorem isPageShifts_range : ∀ n ∈ hptPmeIsPageShifts t lvl, 0 ≤ n ∧ n < 64 := by
  have bit : ∀ n ∈ br64GetBitShifts 7, 0 ≤ n ∧ n < 64 := by decide
  cases t <;> unfold hptPmeIsPageShifts <;> dsimp only <;> split
  all_goals first | exact bit | nofun

theorem getAddressShifts_range : ∀ n ∈ hptPmeGetAddressShifts t lvl entry, 0 ≤ n ∧ n < 64 := by
  have page := @isPageShifts_range t lvl
  have wide : ∀ n ∈ br64CopyBitsHlShifts 51 12 0, 0 ≤ n ∧ n < 64 := by decide
  have large : ∀ n ∈ br64CopyBitsHlShifts 51 13 0, 0 ≤ n ∧ n < 64 := by decide
  have narrow : ∀ n ∈ br64CopyBitsHlShifts 31 12 0, 0 ≤ n ∧ n < 64 := by decide
  have pse : ∀ n ∈ br64CopyBitsHlShifts 39 32 (32 - 13) ++ br64CopyBitsHlShifts 31 22 (22 - 22),
      0 ≤ n ∧ n < 64 := by decide
  cases t with
  | norm =>
    unfold hptPmeGetAddressShifts
    dsimp only
    split
    · refine List.forall_mem_append.mpr ⟨page, ?_⟩
      split
      · exact pse
      · exact narrow
    · exact narrow
  | pae | long =>
    refine List.forall_mem_append.mpr ⟨page, ?_⟩
    split
    · split
      · exact wide
      · exact large
    · exact wide
  | ept => exact wide

theorem setAddressShifts_iff : (∀ n ∈ hptPmeSetAddressShifts t lvl entry, 0 ≤ n ∧ n < 64) ↔
      isPse36 t lvl entry = false := by
  constructor
  · intro legal
    by_contra pse
    simp only [isPse36, Bool.not_eq_false, Bool.and_eq_true, beq_iff_eq] at pse
    obtain ⟨⟨rfl, rfl⟩, page⟩ := pse
    have negative : (-6 : Int) ∈ hptPmeSetAddressShifts .norm 2 entry := by
      simp only [hptPmeSetAddressShifts, page, if_true]
      decide
    exact absurd (legal _ negative).1 (by decide)
  · intro plain
    have same : hptPmeSetAddressShifts t lvl entry = hptPmeGetAddressShifts t lvl entry := by
      cases t with
      | norm =>
        by_cases two : lvl = 2
        · have table : hptPmeIsPage .norm lvl entry = false := by simpa [isPse36, two] using plain
          simp [hptPmeSetAddressShifts, hptPmeGetAddressShifts, table]
        · simp [hptPmeSetAddressShifts, hptPmeGetAddressShifts, two]
      | pae | long | ept => rfl
    rw [same]
    exact getAddressShifts_range

theorem addressField_iff (plain : isPse36 t lvl entry = false) (i : Nat) :
    AddressField t lvl entry i ↔ offsetBits t lvl entry ≤ i ∧ i < addressBits t lvl entry := by
  unfold AddressField
  rw [plain]
  exact Iff.rfl

theorem getLsbD_clearLow (x : U64) (k i : Nat) (small : i < 64) :
    ((x >>> k) <<< k).getLsbD i = (decide (k ≤ i) && x.getLsbD i) := by
  rw [BitVec.getLsbD_shiftLeft, BitVec.getLsbD_ushiftRight]
  by_cases above : k ≤ i
  · rw [show k + (i - k) = i by omega]
    simp [small, above]
  · simp [above, Nat.lt_of_not_le above]

/-- An address comes back exactly if the entry is no page with PSE-36 and neither the entry nor the
address has a bit below the size of a large page. -/
theorem setAddress_getAddress_iff (fits : addr.toNat < 2 ^ addressBits t lvl entry) :
    AddressRoundTrip t lvl entry addr ↔ AddressKept t lvl entry addr := by
  constructor
  · intro trip
    have plain := setAddressShifts_iff.mp trip.setShifts
    have range := offsetBits_range plain
    have bits := @addressBits_range t lvl entry
    refine ⟨plain, fun i low high => ?_⟩
    have inside : addressLo t lvl entry ≤ i ∧ i < addressBits t lvl entry := by omega
    have cleared : addr.getLsbD i = false := by
      have read := congrArg (fun x => x.getLsbD i) trip.getAddress
      rw [getLsbD_getAddress_setAddress plain, if_pos inside,
        getLsbD_clearLow _ _ _ (by omega)] at read
      rw [read, decide_eq_false (Nat.not_le.mpr high), Bool.false_and]
    refine ⟨cleared, ?_⟩
    rw [← trip.kept i fun field => by rw [addressField_iff plain] at field; omega,
      getLsbD_setAddress plain, if_pos inside, cleared]
  · rintro ⟨plain, low⟩
    have range := offsetBits_range plain
    refine ⟨setAddressShifts_iff.mpr plain, getAddressShifts_range, ?_, fun i outside => ?_⟩
    · apply BitVec.eq_of_getLsbD_eq
      intro i small
      rw [getLsbD_getAddress_setAddress plain, getLsbD_clearLow _ _ _ small]
      -- above the address bits there is nothing to lose; between the copied range and the page
      -- offset, what is copied is zero
      have high : addressBits t lvl entry ≤ i → addr.getLsbD i = false := by
        intro above
        have power := Nat.pow_le_pow_right (n := 2) (by decide) above
        exact Nat.testBit_lt_two_pow (by omega)
      by_cases offset : offsetBits t lvl entry ≤ i
      · by_cases top : i < addressBits t lvl entry
        · rw [if_pos (by omega), decide_eq_true offset, Bool.true_and]
        · rw [if_neg (by omega), high (by omega), Bool.and_false]
      · rw [decide_eq_false offset, Bool.false_and]
        split
        · exact (low i (by omega) (by omega)).1
        · rfl
    · rw [addressField_iff plain] at outside
      rw [getLsbD_setAddress plain]
      split
      · obtain ⟨new, old⟩ := low i (by omega) (by omega)
        rw [new, old]
      · rfl

theorem setAddress_getAddress_iff_sample :
    (0x12345678#64).toNat < 2 ^ addressBits .long 1 0x8000000000000067#64 ∧
      AddressRoundTrip .long 1 0x8000000000000067#64 0x12345678#64 := by
  refine ⟨by decide, (setAddress_getAddress_iff (by decide)).mpr ⟨rfl, fun i low high => ?_⟩⟩
  exact absurd (Nat.lt_of_le_of_lt low high) (by decide)

end

/-- Setting the address of a 4 MB page shifts by a negative amount. -/
theorem setAddress_shifts_negative :
    ¬ ∀ (t : HptType) (lvl : Nat) (entry : Pme) (addr : Pa), 1 ≤ lvl →
      hptLvlIsValid t lvl = true → addr.toNat < 2 ^ addressBits t lvl entry →
        AddressRoundTrip t lvl entry addr := by
  intro always
  have trip := always .norm 2 0xe7#64 0x1200400000#64 (by decide) rfl (by decide)
  exact absurd (setAddressShifts_iff.mp trip.setShifts) (by decide)

end Xmhf
