import Xmhf.Hpt.Ept

/-!
# Access to guest memory

The functions of `memp-x86vmx-guestmem.c` by which the hypervisor translates and
copies guest-physical memory through EPT01. Each halts (`none`) where the guest
memory cannot be accessed.

`MapsRegion` is what a translation is for: a region of guest-physical memory lies
contiguously in host memory and the table grants an access to all of it. The
translations check one permission, reading.
-/

namespace Xmhf

def paPageAligned4K (pa : Pa) : Bool := pa.toNat % 4096 = 0

/-- The host context that `guestmem_init` sets up from the EPT pointer of VMCS01. -/
def guestmemHostCtx (controlEPTPointer : U64) : HptwCtx where
  t := .ept
  rootPa := hptEptpGetAddress controlEPTPointer
  pa2ptr := hostPa2ptr

section

variable (ctx : HptwCtx) (mem : Mem)

def guestmemGpa2spaPage (guestAddr : U64) : Option Pa :=
  if paPageAligned4K guestAddr then
    let (ans, availSize) := hptwCheckedAccessVa ctx mem hptProtsR 0 guestAddr 4096
    if availSize = 4096 then some ans else none
  else none

/-- The loop of `guestmem_gpa2spa_size`. Every iteration scans at least a byte, so
`len` bounds their number. -/
def gpa2spaScan (guestAddr : U64) (len : Nat) : Nat → Nat → Option Ptr → Option Pa
  | 0, _, ans => ans
  | fuel + 1, scanned, ans =>
    if scanned < len then
      let (ptr, curScan) := hptwCheckedAccessVa ctx mem hptProtsR 0
        (guestAddr + BitVec.ofNat 64 scanned) (len - scanned)
      let start := if scanned = 0 then ptr else ans.getD nullPtr
      if start + BitVec.ofNat 64 scanned = ptr ∧ 0 < curScan then
        gpa2spaScan guestAddr len fuel (scanned + curScan) (some start)
      else none
    else ans

def guestmemGpa2spaSize (guestAddr : U64) (len : Nat) : Option Pa :=
  gpa2spaScan ctx mem guestAddr len len 0 none

/-- The loop of `hptw_checked_copy_from_va`, over host memory `ram`. -/
def copyFromVa (ram : Pa → U8) (cpl : Nat) (srcVaBase : Va) (len : Nat) :
    Nat → Nat → Option (List U8)
  | 0, _ => some []
  | fuel + 1, copied =>
    if copied < len then
      let (src, toCopy) := hptwCheckedAccessVa ctx mem hptProtsR cpl
        (srcVaBase + BitVec.ofNat 64 copied) (len - copied)
      if src = nullPtr then none
      else
        (copyFromVa ram cpl srcVaBase len fuel (copied + toCopy)).map fun bytes =>
          (List.range toCopy).map (fun i => ram (src + BitVec.ofNat 64 i)) ++ bytes
    else some []

def guestmemCopyGp2h (ram : Pa → U8) (cpl : Nat) (src : U64) (len : Nat) : Option (List U8) :=
  copyFromVa ctx mem ram cpl src len len 0

end

def leWord (bytes : List U8) : U64 :=
  bytes.foldr (fun byte word => word <<< 8 ||| byte.setWidth 64) 0#64

/-- `len` bytes of guest-physical memory from `gpa` lie in host memory from `spa`,
and every level of the table grants `access` to them. -/
def MapsRegion (ctx : HptwCtx) (mem : Mem) (access : Prot) (gpa spa : U64) (len : Nat) : Prop :=
  ∀ off < len, ∃ leaf, hptwCheckedGetPmeo ctx mem access 0 (gpa + BitVec.ofNat 64 off) = some leaf ∧
    leaf.vaToPa (gpa + BitVec.ofNat 64 off) = spa + BitVec.ofNat 64 off

section

variable {ctx : HptwCtx} {mem : Mem} {access : Prot} {gpa spa : U64} {leaf : Pmeo}

theorem hptwCheckedAccessVa_some {sz : Nat} (host : ctx.pa2ptr = hostPa2ptr)
    (found : hptwCheckedGetPmeo ctx mem access 0 gpa = some leaf) :
    hptwCheckedAccessVa ctx mem access 0 gpa sz =
      (leaf.vaToPa gpa, min sz (leaf.remainingOnPage (leaf.vaToPa gpa))) := by
  rw [hptwCheckedAccessVa, found, host]
  rfl

theorem hptwCheckedAccessVa_none {sz : Nat}
    (missing : hptwCheckedGetPmeo ctx mem access 0 gpa = none) :
    hptwCheckedAccessVa ctx mem access 0 gpa sz = (nullPtr, 0) := by
  rw [hptwCheckedAccessVa, missing]

theorem mod_add_lt_of_aligned {a n m off : Nat} (le : n ≤ m) (aligned : a % 2 ^ n = 0)
    (inside : off < 2 ^ n) : a % 2 ^ m + off < 2 ^ m := by
  rcases Nat.pow_dvd_pow 2 le with ⟨blocks, size⟩
  have multiple : a % 2 ^ m % 2 ^ n = 0 := by
    rw [Nat.mod_mod_of_dvd _ (Nat.pow_dvd_pow 2 le), aligned]
  rcases Nat.dvd_of_mod_eq_zero multiple with ⟨block, position⟩
  have below := Nat.mod_lt a (Nat.two_pow_pos m)
  rw [position, size] at below
  have next : block + 1 ≤ blocks := Nat.lt_of_mul_lt_mul_left below
  rw [position]
  calc 2 ^ n * block + off < 2 ^ n * block + 2 ^ n := Nat.add_lt_add_left inside _
    _ = 2 ^ n * (block + 1) := (Nat.mul_succ _ _).symm
    _ ≤ 2 ^ n * blocks := Nat.mul_le_mul_left _ next
    _ = 2 ^ m := size.symm

theorem le_eptShift {n lvl : Nat} (low : 1 ≤ lvl) (high : lvl ≤ 3) (small : n ≤ 12) :
    n ≤ eptShift lvl := by
  have levels : lvl = 1 ∨ lvl = 2 ∨ lvl = 3 := by omega
  rcases levels with rfl | rfl | rfl <;> simp only [eptShift, hptVaIdxHi] <;> omega

theorem MapsRegion.of_first (type : ctx.t = .ept) {n len : Nat} (small : n ≤ 12)
    (aligned : gpa.toNat % 2 ^ n = 0) (fits : len ≤ 2 ^ n)
    (found : hptwCheckedGetPmeo ctx mem access 0 gpa = some leaf) :
    MapsRegion ctx mem access gpa (leaf.vaToPa gpa) len := by
  intro off inside
  rcases ept_leaf type found with ⟨leafType, low, high⟩
  have page := mod_add_lt_of_aligned (le_eptShift low high small) aligned (Nat.lt_of_lt_of_le inside fits)
  have space := @mod_add_lt_of_aligned gpa.toNat n 64 off (by omega) aligned
    (Nat.lt_of_lt_of_le inside fits)
  have sum : (gpa + BitVec.ofNat 64 off).toNat = gpa.toNat + off := by
    rw [BitVec.toNat_add, BitVec.toNat_ofNat]
    rw [Nat.mod_eq_of_lt gpa.isLt] at space
    omega
  have mod : off % 2 ^ eptShift leaf.lvl = off :=
    Nat.mod_eq_of_lt (Nat.lt_of_le_of_lt (Nat.le_add_left _ _) page)
  have same : SamePath leaf.lvl gpa (gpa + BitVec.ofNat 64 off) := by
    apply SamePath.of_div low high
    rw [sum, Nat.add_div_eq_of_add_mod_lt (by rw [mod]; exact page),
      Nat.div_eq_of_lt (Nat.lt_of_le_of_lt (Nat.le_add_left _ _) page), Nat.add_zero]
  refine ⟨leaf, hptwCheckedGetPmeo_congr found ?_, ?_⟩
  · rw [type]
    exact same
  · apply BitVec.eq_of_toNat_eq
    have whole := toNat_ept_vaToPa leafType low high (gpa + BitVec.ofNat 64 off)
    rw [sum, Nat.add_mod_of_add_mod_lt (by rw [mod]; exact page), mod] at whole
    have bound := (leaf.vaToPa (gpa + BitVec.ofNat 64 off)).isLt
    have first := toNat_ept_vaToPa leafType low high gpa
    rw [BitVec.toNat_add, BitVec.toNat_ofNat]
    omega

section

variable (leafType : leaf.t = .ept) (low : 1 ≤ leaf.lvl) (high : leaf.lvl ≤ 3)

include leafType low high

theorem toNat_vaToPa_mod {n : Nat} (small : n ≤ 12) (aligned : gpa.toNat % 2 ^ n = 0) :
    (leaf.vaToPa gpa).toNat % 2 ^ n = 0 := by
  have offset : gpa.toNat % 2 ^ eptShift leaf.lvl % 2 ^ n = 0 := by
    rw [Nat.mod_mod_of_dvd _ (Nat.pow_dvd_pow 2 (le_eptShift low high small)), aligned]
  have address : leaf.getAddress.toNat % 2 ^ n = 0 := by
    rw [Pmeo.getAddress, leafType, toNat_ept_getAddress]
    apply Nat.mod_eq_zero_of_dvd
    exact Nat.dvd_mul_left_of_dvd (Nat.pow_dvd_pow 2 small) _
  rw [toNat_ept_vaToPa leafType low high, Nat.add_mod, address, offset]
  rfl

theorem remainingOnPage_eq (pa : Pa) : leaf.remainingOnPage pa =
      2 ^ eptShift leaf.lvl - pa.toNat % 2 ^ eptShift leaf.lvl := by
  have small : hptVaIdxHi .ept (leaf.lvl - 1) < 64 := by
    have levels : leaf.lvl = 1 ∨ leaf.lvl = 2 ∨ leaf.lvl = 3 := by omega
    rcases levels with level | level | level <;> rw [level] <;> decide
  have top : ((hptVaIdxHi .ept (leaf.lvl - 1) + 1 : Nat) : Int) - 1 =
      (hptVaIdxHi .ept (leaf.lvl - 1) : Nat) := by omega
  have range := @toNat_br64GetHl pa (hptVaIdxHi .ept (leaf.lvl - 1)) 0 (Nat.zero_le _) small
  rw [Nat.pow_zero, Nat.div_one] at range
  rw [Pmeo.remainingOnPage, Pmeo.pageSizeLog2, leafType, top, and_maskRange64_zero pa small, eptShift]
  exact congrArg _ range

end

theorem guestmemGpa2spaPage_some (type : ctx.t = .ept) (host : ctx.pa2ptr = hostPa2ptr)
    (translated : guestmemGpa2spaPage ctx mem gpa = some spa) :
    gpa.toNat % 2 ^ 12 = 0 ∧ MapsRegion ctx mem hptProtsR gpa spa 4096 ∧ spa.toNat % 2 ^ 12 = 0 := by
  unfold guestmemGpa2spaPage at translated
  split at translated
  · next aligned =>
    have page : gpa.toNat % 2 ^ 12 = 0 := of_decide_eq_true aligned
    cases walk : hptwCheckedGetPmeo ctx mem hptProtsR 0 gpa with
    | none =>
      rw [hptwCheckedAccessVa_none walk] at translated
      cases translated
    | some leaf =>
      rw [hptwCheckedAccessVa_some host walk] at translated
      dsimp only at translated
      split at translated
      · cases translated
        rcases ept_leaf type walk with ⟨leafType, low, high⟩
        refine ⟨page, MapsRegion.of_first type (by decide) page (by decide) walk, ?_⟩
        exact toNat_vaToPa_mod leafType low high (by decide) page
      · cases translated
  · cases translated

theorem guestmemGpa2spaSize_some (type : ctx.t = .ept) (host : ctx.pa2ptr = hostPa2ptr)
    (aligned : gpa.toNat % 2 ^ 6 = 0)
    (translated : guestmemGpa2spaSize ctx mem gpa 64 = some spa) :
    MapsRegion ctx mem hptProtsR gpa spa 64 := by
  unfold guestmemGpa2spaSize at translated
  rw [gpa2spaScan] at translated
  simp only [BitVec.add_zero, if_true, Nat.sub_zero, Nat.zero_lt_succ] at translated
  cases walk : hptwCheckedGetPmeo ctx mem hptProtsR 0 gpa with
  | none =>
    rw [hptwCheckedAccessVa_none walk] at translated
    simp at translated
  | some leaf =>
    rcases ept_leaf type walk with ⟨leafType, low, high⟩
    have block := mod_add_lt_of_aligned (le_eptShift low high (by decide))
      (toNat_vaToPa_mod leafType low high (by decide) aligned) (by decide : 63 < 2 ^ 6)
    have whole : min 64 (leaf.remainingOnPage (leaf.vaToPa gpa)) = 64 := by
      rw [remainingOnPage_eq leafType low high]
      omega
    rw [hptwCheckedAccessVa_some host walk, whole] at translated
    simp [gpa2spaScan] at translated
    subst translated
    exact MapsRegion.of_first type (by decide) aligned (by decide) walk

end

end Xmhf
