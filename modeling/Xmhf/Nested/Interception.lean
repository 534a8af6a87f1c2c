import Xmhf.Nested.Pointers
import Xmhf.Partition.Bitmaps

/-!
# Interceptions of L1 that bind L2

XMHF intercepts I/O ports and MSRs of L1 by the bitmaps of VMCS01. L2 runs on VMCS02,
whose I/O bitmaps are those of L1 and which uses no MSR bitmaps. So all MSRs marked in
VMCS01 stay intercepted, and a marked I/O port does if L1 intercepts it as well.
-/

namespace Xmhf

variable {ω : Type}

inductive GuestAccess where
  | io (port : U16) (size : IoSize)
  | msr (msr : U32) (write : Bool)
  deriving DecidableEq, Repr

/-- The bitmaps of VMCS01 mark the access; an access to several ports is marked by each of
them. -/
def marked01 (io01 msr01 : Bitmap.Bytes) : GuestAccess → Bool
  | .io port size => (List.range size.bytes).any fun i =>
    Bitmap.bit io01 ((port.toNat + i) % 0x10000)
  | .msr msr write => msrBitmapExits msr01 msr write

def ramPage (ram : Pa → U8) (page : Pa) : Bitmap.Bytes := fun i => ram (page + BitVec.ofNat 64 i)

def Vmcs.exits (vmcs : Vmcs) (ram : Pa → U8) : GuestAccess → Bool
  | .io port size => ioExits (vmcs12GetCtls02 vmcs)
      (ramPage ram (vmcs.pointer .controlIOBitmapAAddress))
      (ramPage ram (vmcs.pointer .controlIOBitmapBAddress)) port size
  | .msr msr write => msrExits (vmcs12GetCtls02 vmcs)
      (ramPage ram (vmcs.pointer .controlMSRBitmapsAddress)) msr write

/-- Whatever VMCS01 intercepts also exits when L2 does it. -/
def InterceptionsKept (io01 msr01 : Bitmap.Bytes) (ram : Pa → U8) (s : Vmentry ω) : Prop :=
  ∀ access, marked01 io01 msr01 access → s.vmcs02.exits ram access

/-- A byte of guest-physical memory, if EPT01 lets it be read. -/
def guestByte (arg : VmentryArg ω) (ram : Pa → U8) (gpa : U64) : Option U8 :=
  (hptwCheckedGetPmeo arg.ctx01 arg.mem hptProtsR 0 gpa).map fun leaf => ram (leaf.vaToPa gpa)

def guestBit (arg : VmentryArg ω) (ram : Pa → U8) (gpa : U64) (n : Nat) : Bool :=
  (guestByte arg ram (gpa + BitVec.ofNat 64 (n / 8))).any fun byte => byte.getLsbD (n % 8)

/-- L1 itself intercepts the port: by its I/O bitmaps, or else unconditionally. -/
def l1Intercepts (arg : VmentryArg ω) (ram : Pa → U8) (port : Nat) : Bool :=
  if (vmcs12Ctls arg.vmcs12).has .useIoBitmaps then
    if port < 0x8000 then guestBit arg ram (arg.vmcs12.pointer .controlIOBitmapAAddress) port
    else guestBit arg ram (arg.vmcs12.pointer .controlIOBitmapBAddress) (port - 0x8000)
  else (vmcs12Ctls arg.vmcs12).has .unconditionalIoExiting

section

variable {arg : VmentryArg ω} {s s' : Vmentry ω} {ram : Pa → U8}

theorem MapsRegion.guestBit {gpa spa : U64}
    (maps : MapsRegion arg.ctx01 arg.mem hptProtsR gpa spa 4096) {n : Nat}
    (inside : n < 0x8000) : guestBit arg ram gpa n = Bitmap.bit (ramPage ram spa) n := by
  rcases maps (n / 8) (by omega) with ⟨leaf, found, place⟩
  unfold Xmhf.guestBit guestByte Bitmap.bit ramPage
  rw [found, Option.map_some, place]
  rfl

section

variable (entered : vmcs12ToVmcs02 arg s = some (.success, s'))

include entered

theorem ioBitmapMarks_vmcs02 (uses : (vmcs12Ctls arg.vmcs12).has .useIoBitmaps = true)
    {port : Nat} (inside : port < 0x10000) :
    ioBitmapMarks (ramPage ram (s'.vmcs02.pointer .controlIOBitmapAAddress))
        (ramPage ram (s'.vmcs02.pointer .controlIOBitmapBAddress)) port =
      l1Intercepts arg ram port := by
  have active : (vmcs12GetCtls02 s'.vmcs02).has .useIoBitmaps = true :=
    (vmcs02_has entered (by decide)).trans uses
  have pageA := (gpaddr_maps entered .controlIOBitmapAAddress .useIoBitmaps (by decide)
    (fun _ _ _ => rfl) rfl active).1
  have pageB := (gpaddr_maps entered .controlIOBitmapBAddress .useIoBitmaps (by decide)
    (fun _ _ _ => rfl) rfl active).1
  unfold ioBitmapMarks l1Intercepts
  rw [if_pos uses]
  by_cases low : port < 0x8000
  · rw [if_pos low, if_pos low, pageA.guestBit low]
  · rw [if_neg low, if_neg low, pageB.guestBit (by omega)]

omit entered in
theorem l1Intercepts_of_no_bitmaps
    (uses : (vmcs12Ctls arg.vmcs12).has .useIoBitmaps = false) (port : Nat) :
    l1Intercepts arg ram port = (vmcs12Ctls arg.vmcs12).has .unconditionalIoExiting := by
  unfold l1Intercepts
  rw [uses]
  rfl

theorem ioExits_vmcs02 (port : U16) (size : IoSize) :
    s'.vmcs02.exits ram (.io port size) = true ↔
      ((vmcs12Ctls arg.vmcs12).has .useIoBitmaps = true ∧ 0x10000 < port.toNat + size.bytes) ∨
        ∃ i < size.bytes, port.toNat + i < 0x10000 ∧
          l1Intercepts arg ram (port.toNat + i) = true := by
  have sameUse := vmcs02_has entered (c := .useIoBitmaps) (by decide)
  have sameUnconditional := vmcs02_has entered (c := .unconditionalIoExiting) (by decide)
  have first : 0 < size.bytes := by cases size <;> decide
  have bound := port.isLt
  unfold Vmcs.exits ioExits
  rw [sameUse, sameUnconditional]
  cases uses : (vmcs12Ctls arg.vmcs12).has .useIoBitmaps with
  | true =>
    simp only [if_true, Bool.or_eq_true, decide_eq_true_eq, true_and, List.any_eq_true,
      List.mem_range]
    by_cases wraps : 0x10000 < port.toNat + size.bytes
    · simp only [wraps, true_or]
    · simp only [wraps, false_or]
      apply exists_congr
      intro i
      apply and_congr_right
      intro inside
      have low : port.toNat + i < 0x10000 := by omega
      rw [ioBitmapMarks_vmcs02 entered uses low]
      simp only [low, true_and]
  | false =>
    simp only [Bool.false_eq_true, if_false, false_and, false_or, l1Intercepts_of_no_bitmaps uses]
    constructor
    · intro unconditional
      exact ⟨0, first, bound, unconditional⟩
    · intro exits
      rcases exits with ⟨_, _, _, unconditional⟩
      exact unconditional

theorem msrExits_vmcs02 (msr : U32) (write : Bool) : s'.vmcs02.exits ram (.msr msr write) = true :=
  if_neg (Bool.eq_false_iff.mp (vmcs02_lacks_useMsrBitmaps entered))

theorem InterceptionsKept.port {io01 msr01 : Bitmap.Bytes}
    (kept : InterceptionsKept io01 msr01 ram s') {port : U16}
    (marked : Bitmap.bit io01 port.toNat = true) : l1Intercepts arg ram port.toNat = true := by
  have bound : port.toNat < 0x10000 := port.isLt
  have access : marked01 io01 msr01 (.io port .byte) = true := by
    apply List.any_eq_true.mpr
    refine ⟨0, by decide, ?_⟩
    rw [Nat.add_zero, Nat.mod_eq_of_lt bound]
    exact marked
  rcases (ioExits_vmcs02 entered port .byte).mp (kept _ access) with ⟨-, wraps⟩ | exits
  · -- a single byte does not wrap
    change 0x10000 < port.toNat + 1 at wraps
    omega
  · rcases exits with ⟨i, inside, -, intercepted⟩
    have zero : i = 0 := Nat.lt_one_iff.mp inside
    rw [zero] at intercepted
    exact intercepted

end

end

/-- L2 escapes no interception of VMCS01 exactly when L1 intercepts the I/O ports that
VMCS01 marks. -/
theorem interceptions_kept_iff {arg : VmentryArg ω} {s s' : Vmentry ω}
    (entered : vmcs12ToVmcs02 arg s = some (.success, s')) (io01 msr01 : Bitmap.Bytes)
    (ram : Pa → U8) :
    InterceptionsKept io01 msr01 ram s' ↔
      ∀ port : U16, Bitmap.bit io01 port.toNat → l1Intercepts arg ram port.toNat := by
  constructor
  · intro kept port marked
    exact kept.port entered marked
  · intro intercepted access marked
    cases access with
    | msr msr write => exact msrExits_vmcs02 entered msr write
    | io port size =>
      have bound : port.toNat < 0x10000 := port.isLt
      rcases List.any_eq_true.mp marked with ⟨i, inside, bit⟩
      have inside := List.mem_range.mp inside
      have place : (BitVec.ofNat 16 (port.toNat + i)).toNat = (port.toNat + i) % 0x10000 := by
        simp only [BitVec.toNat_ofNat, Nat.reducePow]
      rw [← place] at bit
      have own := intercepted (BitVec.ofNat 16 (port.toNat + i)) bit
      rw [place] at own
      apply (ioExits_vmcs02 entered port size).mpr
      by_cases wraps : port.toNat + i < 0x10000
      · right
        rw [Nat.mod_eq_of_lt wraps] at own
        exact ⟨i, inside, wraps, own⟩
      · -- beyond the last port: by the wrap-around, or because L1 intercepts all ports
        cases uses : (vmcs12Ctls arg.vmcs12).has .useIoBitmaps with
        | true => exact Or.inl ⟨rfl, by omega⟩
        | false =>
          right
          refine ⟨0, by omega, bound, ?_⟩
          rw [l1Intercepts_of_no_bitmaps uses] at own ⊢
          exact own

def sampleIoVmcs12 : Vmcs :=
  ((Vmcs.vmwrite (fun _ => 0) .controlVMXCpuBased 0x02000000#32).vmwrite
    .controlIOBitmapAAddress 0x9000#64).vmwrite .controlIOBitmapBAddress 0xa000#64

def sampleIo01 : Bitmap.Bytes := legacyIOSetprot (fun _ => 0) 0x3f8 1 PART_LEGACYIO_NOACCESS

theorem sampleIo01_marks {port : U16} (marked : Bitmap.bit sampleIo01 port.toNat = true) :
    port = 0x3f8#16 := by
  unfold sampleIo01 at marked
  rw [bit_legacyIOSetprot] at marked
  split at marked
  · next ports =>
    rcases List.any_eq_true.mp ports with ⟨i, inside, place⟩
    have zero : i = 0 := Nat.lt_one_iff.mp (List.mem_range.mp inside)
    rw [zero] at place
    exact BitVec.eq_of_toNat_eq (of_decide_eq_true place)
  · simp [Bitmap.bit] at marked

theorem interceptions_kept_sample :
    ∃ s', vmcs12ToVmcs02 (sampleVmentryArg sampleIoVmcs12 7#64) sampleVmentry =
        some (.success, s') ∧
      InterceptionsKept sampleIo01 (fun _ => 0)
        (Function.update (fun _ => 0#8) 0x907f#64 1#8) s' := by
  have status : (vmcs12ToVmcs02 (sampleVmentryArg sampleIoVmcs12 7#64) sampleVmentry).map
      (·.1) = some .success := by
    decide +kernel
  rcases Option.map_eq_some_iff.mp status with ⟨⟨_, s'⟩, entered, rfl⟩
  refine ⟨s', entered, (interceptions_kept_iff entered _ _ _).mpr fun port marked => ?_⟩
  rw [sampleIo01_marks marked]
  decide +kernel

/-- XMHF denies the port 0x3f8 to L1, which enters an L2 that may use all ports. -/
theorem l2_uses_port_denied_to_l1 :
    ∃ s', vmcs12ToVmcs02 (sampleVmentryArg sampleVmcs12 7#64) sampleVmentry = some (.success, s') ∧
      ¬ InterceptionsKept sampleIo01 (fun _ => 0) (fun _ => 0) s' := by
  rcases sampleVmentry_enters (.inl rfl) with ⟨s', entered⟩
  refine ⟨s', entered, fun kept => ?_⟩
  have marked : Bitmap.bit sampleIo01 (0x3f8#16).toNat = true := by
    unfold sampleIo01
    rw [bit_legacyIOSetprot]
    decide
  exact absurd (kept.port entered marked) (by decide +kernel)

end Xmhf
