import Xmhf.Memprot.GuestVirtual

/-!
# Segmentation

`guestmem_desegment` (`memp-x86vmx-guestmem.c`) turns an offset in a segment into a linear
address and halts where it does not allow the access. It leaves out, and says so, expand-down
segments, linear addresses that wrap around at 4 GB, and for a 64-bit guest every check of the
address. `archDesegment` is the architecture, where an access that faults is `none`.
-/

namespace Xmhf

/-! ## The architecture -/

def SEG_CS : Nat := 1

def EFLAGS_VM : U64 := 0x20000

/-- Real-address mode or virtual-8086 mode: no descriptors, so no types. -/
def Vmcs.realMode (vmcs : Vmcs) : Bool :=
  vmcs .guestCR0 &&& CR0_PE = 0 || vmcs .guestRFLAGS &&& EFLAGS_VM ≠ 0

def expandDown (accessRights : U32) : Bool :=
  !accessRights.getLsbD 3 && accessRights.getLsbD 2

def archModes (accessRights : U32) : Prot :=
  if accessRights.getLsbD 3 then hptProtOf (accessRights.getLsbD 1) false true
  else hptProtOf true (accessRights.getLsbD 1) false

def archFits (accessRights limit : U32) (addr size : Nat) : Bool :=
  if expandDown accessRights then
    limit.toNat < addr && addr + size ≤ (if accessRights.getLsbD 14 then 2 ^ 32 else 2 ^ 16)
  else addr + size ≤ limit.toNat + 1

def canonicalLinear (linear : U64) : Bool :=
  linear.toNat < 2 ^ 47 || 2 ^ 64 - 2 ^ 47 ≤ linear.toNat

/-- The linear address: in 64-bit mode only FS and GS have a base, elsewhere linear addresses
have 32 bits. -/
def archLinear (vmcs : Vmcs) (seg : Nat) (base addr : U64) : U64 :=
  if vmcs.g64 then (if 4 ≤ seg then base else 0) + addr
  else BitVec.ofNat 64 ((base.toNat + addr.toNat) % 2 ^ 32)

def archDesegment (vmcs : Vmcs) (seg : Nat) (addr size : U64) (mode : Prot) : Option U64 :=
  (vmcs.segment seg).bind fun (base, accessRights, limit) =>
    let linear := archLinear vmcs seg base addr
    let allowed : Bool :=
      if vmcs.g64 then canonicalLinear linear && canonicalLinear (linear + size - 1)
      else if vmcs.realMode then archFits accessRights limit addr.toNat size.toNat
      else !accessRights.getLsbD 16 && accessRights.getLsbD 7 && accessRights.getLsbD 4 &&
        archModes accessRights &&& mode == mode && archFits accessRights limit addr.toNat size.toNat
    if allowed then some linear else none

/-! ## The code -/

/-- The limit checks with the arithmetic of 64-bit words. -/
def segmentFitsWord (base : U64) (limit : U32) (addr size : U64) : Bool :=
  let uintMax : U64 := 0xffffffff
  let addrMax := addr + size
  addr ≤ uintMax && !decide (uintMax - size < addr) && !decide (limit.setWidth 64 ≤ addrMax) &&
    !decide (uintMax - addrMax < base)

/-- `guestmem_desegment` for an access of any `size_t`. -/
def guestmemDesegmentWord (vmcs : Vmcs) (seg : Nat) (addr size : U64) (mode : Prot) (cpl : Nat) :
    Option U64 :=
  (vmcs.segment seg).bind fun (base, accessRights, limit) =>
    if (vmcs.g64 || segmentFitsWord base limit addr size) &&
        (seg != 1 && vmcs.g64 || segmentAllows accessRights mode cpl) then some (addr + base)
    else none

theorem segmentFitsWord_eq (base : U64) (limit : U32) (addr size : U64) (small : size.toNat < 2 ^ 32) :
    segmentFitsWord base limit addr size = segmentFits base limit addr size.toNat := by
  have limitBound := limit.isLt
  have room : (0xffffffff#64 - size).toNat = 2 ^ 32 - 1 - size.toNat := by
    rw [BitVec.toNat_sub_of_le (by rw [BitVec.le_def]; simp only [BitVec.toNat_ofNat]; omega)]
    rfl
  unfold segmentFitsWord segmentFits
  rw [Bool.eq_iff_iff]
  simp only [Bool.and_eq_true, decide_eq_true_eq, Bool.not_eq_true',
    decide_eq_false_iff_not, BitVec.le_def, BitVec.lt_def]
  have max : (0xffffffff : U64).toNat = 2 ^ 32 - 1 := rfl
  have wide : (limit.setWidth 64).toNat = limit.toNat := by
    rw [BitVec.toNat_setWidth]
    omega
  rw [show ((0xffffffff : U64) - size).toNat = 2 ^ 32 - 1 - size.toNat from room, wide, max]
  rcases Nat.lt_or_ge (2 ^ 32 - 1 - size.toNat) addr.toNat with beyond | fits
  · constructor
    · rintro ⟨⟨⟨_, inside⟩, _⟩, _⟩
      omega
    · rintro ⟨⟨inside, _⟩, _⟩
      omega
  · have sum : (addr + size).toNat = addr.toNat + size.toNat := by
      rw [BitVec.toNat_add]
      omega
    have left : ((0xffffffff : U64) - (addr + size)).toNat =
        2 ^ 32 - 1 - (addr.toNat + size.toNat) := by
      rw [BitVec.toNat_sub_of_le (by rw [BitVec.le_def, sum, max]; omega), sum, max]
    rw [sum, left]
    constructor
    · rintro ⟨⟨⟨_, _⟩, _⟩, _⟩
      omega
    · rintro ⟨⟨_, _⟩, _⟩
      omega

/-- The checks in machine words are those in numbers, for any access below 4 GiB. -/
theorem guestmemDesegmentWord_eq (vmcs : Vmcs) (seg : Nat) (addr size : U64) (mode : Prot) (cpl : Nat)
    (small : size.toNat < 2 ^ 32) :
    guestmemDesegmentWord vmcs seg addr size mode cpl =
      guestmemDesegment vmcs seg addr size.toNat mode cpl := by
  unfold guestmemDesegmentWord guestmemDesegment
  simp only [segmentFitsWord_eq _ _ _ _ small]

def guestWithDs (accessRights limit : U32) : Vmcs :=
  let vmcs : Vmcs := fun _ => 0#_
  ((vmcs.vmwrite .guestCR0 CR0_PE).vmwrite .guestDSAccessRights accessRights).vmwrite .guestDSLimit
    limit

theorem desegmentWord_four :
    guestmemDesegmentWord (guestWithDs 0x93 0xffff) 3 8 4 hptProtsR 0 = some 8#64 :=
  (guestmemDesegmentWord_eq _ 3 8 4 _ 0 (by decide)).trans (by decide +kernel)

/-! ## What is allowed by design -/

/-- The access rights that are asked for: a type that allows the access and is not expand-down,
a present code or data segment, and a descriptor that is not more privileged than the access. -/
def SegmentRights (accessRights : U32) (mode : Prot) (cpl : Nat) : Prop :=
  expandDown accessRights = false ∧ archModes accessRights &&& mode = mode ∧
    accessRights.getLsbD 4 = true ∧ accessRights.getLsbD 7 = true ∧
      cpl ≤ ((accessRights >>> 5) &&& 3).toNat

def SegmentDesign (vmcs : Vmcs) (seg : Nat) (base : U64) (accessRights limit : U32) (addr size : U64)
    (mode : Prot) (cpl : Nat) : Prop :=
  (vmcs.g64 = false → addr.toNat + size.toNat ≤ limit.toNat + 1 ∧
    base.toNat + addr.toNat + size.toNat < 2 ^ 32) ∧
  (seg = SEG_CS ∨ vmcs.g64 = false → SegmentRights accessRights mode cpl)

/-- What the comments and the architecture leave no doubt about. For a 32-bit guest the access
does not end at the limit or one byte before it, goes through a usable register and is not larger
than memory; for a 64-bit guest the registers other than FS and GS have base 0. -/
def SegmentSettled (vmcs : Vmcs) (seg : Nat) (base : U64) (accessRights limit : U32)
    (addr size : U64) : Prop :=
  if vmcs.g64 then 4 ≤ seg ∨ base = 0
  else accessRights.getLsbD 16 = false ∧ size.toNat < 2 ^ 32 ∧
    (addr.toNat + size.toNat < limit.toNat ∨ limit.toNat + 1 < addr.toNat + size.toNat)

theorem segmentAllows_iff (accessRights : U32) (mode : Prot) (cpl : Nat) :
    segmentAllows accessRights mode cpl = true ↔ SegmentRights accessRights mode cpl := by
  unfold segmentAllows segmentModes SegmentRights archModes expandDown
  cases accessRights.getLsbD 3 with
  | true =>
    simp only [if_true, Bool.and_eq_true, beq_iff_eq, decide_eq_true_eq, Bool.not_true,
      Bool.false_and, true_and]
    tauto
  | false =>
    cases accessRights.getLsbD 2 with
    | true => simp
    | false =>
      simp only [Bool.false_eq_true, if_false, Bool.and_eq_true, beq_iff_eq, decide_eq_true_eq,
        Bool.not_false, Bool.true_and, true_and]
      tauto

section

variable {vmcs : Vmcs} {seg : Nat} {base : U64} {accessRights limit : U32} {addr size : U64}
  {mode : Prot} {cpl : Nat}

theorem segmentFitsWord_iff (narrow : vmcs.g64 = false)
    (settled : SegmentSettled vmcs seg base accessRights limit addr size) :
    segmentFitsWord base limit addr size = true ↔
      addr.toNat + size.toNat ≤ limit.toNat + 1 ∧ base.toNat + addr.toNat + size.toNat < 2 ^ 32 := by
  unfold SegmentSettled at settled
  rw [narrow] at settled
  obtain ⟨-, small, away⟩ := settled
  have limitBound := limit.isLt
  rw [segmentFitsWord_eq _ _ _ _ small, segmentFits]
  simp only [Bool.and_eq_true, decide_eq_true_eq]
  constructor
  · rintro ⟨⟨_, _⟩, _⟩
    omega
  · rintro ⟨_, _⟩
    omega

theorem add_base_eq (settled : SegmentSettled vmcs seg base accessRights limit addr size)
    (design : SegmentDesign vmcs seg base accessRights limit addr size mode cpl) :
    addr + base = archLinear vmcs seg base addr := by
  unfold archLinear
  cases wide : vmcs.g64 with
  | true =>
    unfold SegmentSettled at settled
    rw [wide] at settled
    rcases settled with own | zero
    · simp [own, BitVec.add_comm]
    · simp [zero]
  | false =>
    have inside := (design.1 wide).2
    apply BitVec.eq_of_toNat_eq
    simp only [Bool.false_eq_true, if_false]
    rw [BitVec.toNat_add, BitVec.toNat_ofNat]
    omega

section

variable (known : vmcs.segment seg = some (base, accessRights, limit))

include known

theorem desegmentWord_iff (settled : SegmentSettled vmcs seg base accessRights limit addr size)
    (linear : U64) :
    guestmemDesegmentWord vmcs seg addr size mode cpl = some linear ↔
      SegmentDesign vmcs seg base accessRights limit addr size mode cpl ∧
        linear = archLinear vmcs seg base addr := by
  have checks : ((vmcs.g64 || segmentFitsWord base limit addr size) &&
      (seg != 1 && vmcs.g64 || segmentAllows accessRights mode cpl)) = true ↔
        SegmentDesign vmcs seg base accessRights limit addr size mode cpl := by
    unfold SegmentDesign SEG_CS
    rw [Bool.and_eq_true, Bool.or_eq_true, Bool.or_eq_true, Bool.and_eq_true, segmentAllows_iff]
    cases wide : vmcs.g64 with
    | true =>
      by_cases cs : seg = 1
      · simp [cs]
      · simp [cs]
    | false => simp [segmentFitsWord_iff wide settled]
  unfold guestmemDesegmentWord
  rw [known, Option.bind_some]
  simp only [Option.ite_none_right_eq_some, checks, Option.some.injEq]
  constructor
  iterate 2
    · rintro ⟨design, rfl⟩
      exact ⟨design, add_base_eq settled design⟩

theorem SegmentDesign.arch (narrow : vmcs.g64 = false)
    (settled : SegmentSettled vmcs seg base accessRights limit addr size)
    (design : SegmentDesign vmcs seg base accessRights limit addr size mode cpl) :
    archDesegment vmcs seg addr size mode = some (archLinear vmcs seg base addr) := by
  obtain ⟨up, modes, code, present, -⟩ := design.2 (.inr narrow)
  have fits : archFits accessRights limit addr.toNat size.toNat = true := by
    simp [archFits, up, (design.1 narrow).1]
  unfold SegmentSettled at settled
  rw [narrow] at settled
  unfold archDesegment
  rw [known, Option.bind_some]
  simp only [narrow, Bool.false_eq_true, if_false]
  cases vmcs.realMode with
  | true => simp [fits]
  | false =>
    simp only [settled.1, present, code, modes, fits, Bool.not_false, Bool.and_self, beq_self_eq_true,
      Bool.false_eq_true, if_false, if_true]

end

end

/-- Apart from the cases that `SegmentSettled` leaves open, the conversion accepts exactly the
accesses of the design and returns the architectural linear address; what it accepts for a
32-bit guest the architecture accepts. -/
theorem desegment_by_design (vmcs : Vmcs) (seg : Nat) (addr size : U64) (mode : Prot) (cpl : Nat)
    (base : U64) (accessRights limit : U32)
    (known : vmcs.segment seg = some (base, accessRights, limit))
    (settled : SegmentSettled vmcs seg base accessRights limit addr size) :
    (∀ linear, guestmemDesegmentWord vmcs seg addr size mode cpl = some linear ↔
      SegmentDesign vmcs seg base accessRights limit addr size mode cpl ∧
        linear = archLinear vmcs seg base addr) ∧
    (vmcs.g64 = false → ∀ linear, guestmemDesegmentWord vmcs seg addr size mode cpl = some linear →
      archDesegment vmcs seg addr size mode = some linear) := by
  refine ⟨fun linear => desegmentWord_iff known settled linear, fun narrow linear accepted => ?_⟩
  obtain ⟨design, rfl⟩ := (desegmentWord_iff known settled linear).mp accepted
  exact design.arch known narrow settled

theorem desegment_by_design_flat :
    guestmemDesegmentWord (guestWithDs 0xc093 0xffffffff) 3 0x1000 4 hptProtsR 0 = some 0x1000 :=
  ((desegment_by_design (guestWithDs 0xc093 0xffffffff) 3 0x1000 4 hptProtsR 0 0 0xc093 0xffffffff
    (by decide +kernel) (by unfold SegmentSettled; decide +kernel)).1 0x1000).mpr
      (by unfold SegmentDesign SegmentRights; decide +kernel)

/-- An expand-down segment with limit 0xfff: the architecture allows four bytes at 0x1000. -/
theorem desegment_refuses_expand_down :
    archDesegment (guestWithDs 0xc097 0xfff) 3 0x1000 4 hptProtsR = some 0x1000 ∧
      guestmemDesegmentWord (guestWithDs 0xc097 0xfff) 3 0x1000 4 hptProtsR 0 = none := by
  decide +kernel

end Xmhf
