import Xmhf.Lib.Bitmap
import Xmhf.Vmx.Ctls

/-!
# I/O and MSR bitmaps

The bitmaps of VMCS01 that XMHF prepares (`part-x86vmx.c`), and what the processor
does with the bitmaps of a VMCS.
-/

namespace Xmhf

/-! ## I/O ports -/

def PART_LEGACYIO_NOACCESS : U32 := 1

def PART_LEGACYIO_READWRITE : U32 := 2

/-- One iteration of `xmhf_partition_arch_x86vmx_legacyIO_setprot`. -/
def legacyIOSetprotStep (port : U32) (s : Bitmap.Bytes × U32) (i : Nat) : Bitmap.Bytes × U32 :=
  let (bitVector, prottype) := s
  let place := (port + BitVec.ofNat 32 i).toNat
  if prottype &&& PART_LEGACYIO_NOACCESS ≠ 0 then (Bitmap.set bitVector place, prottype)
  else (Bitmap.clear bitVector place, PART_LEGACYIO_READWRITE)

/-- `xmhf_partition_arch_x86vmx_legacyIO_setprot`. The bitmap is the buffer of two pages at
`vmx_vaddr_iobitmap`: I/O bitmap A of VMCS01 is the first one and I/O bitmap B the second. -/
def legacyIOSetprot (bitVector : Bitmap.Bytes) (port size prottype : U32) : Bitmap.Bytes :=
  ((List.range size.toNat).foldl (legacyIOSetprotStep port) (bitVector, prottype)).1

/-- The range of ports that a call of `legacyIO_setprot` is about. -/
def portsOf (port size : U32) (n : Nat) : Bool :=
  (List.range size.toNat).any fun i => n = (port + BitVec.ofNat 32 i).toNat

theorem bit_legacyIOSetprot (bitVector : Bitmap.Bytes) (port size prottype : U32) (n : Nat) :
    Bitmap.bit (legacyIOSetprot bitVector port size prottype) n =
      if portsOf port size n then decide (prottype &&& PART_LEGACYIO_NOACCESS ≠ 0)
      else Bitmap.bit bitVector n := by
  unfold legacyIOSetprot portsOf
  generalize List.range size.toNat = is
  induction is generalizing bitVector prottype with
  | nil => rfl
  | cons i is later =>
    rw [List.foldl_cons, List.any_cons, legacyIOSetprotStep]
    by_cases access : prottype &&& PART_LEGACYIO_NOACCESS = 0
    · -- the protection becomes read and write, and the later ports are cleared too
      have stays : PART_LEGACYIO_READWRITE &&& PART_LEGACYIO_NOACCESS = 0 := rfl
      rw [if_neg (not_not.mpr access), later, Bitmap.bit_clear]
      simp only [access, stays, ne_eq, not_true_eq_false, decide_false]
      grind
    · rw [if_pos access, later, Bitmap.bit_set]
      simp only [access, ne_eq, not_false_eq_true, decide_true]
      grind

/-- After any calls, the latest first, the latest about a port decides. -/
theorem legacyIO_latest (calls : List (U32 × U32 × U32)) (bits : Bitmap.Bytes) (n : Nat) :
    Bitmap.bit (calls.foldr (fun c b => legacyIOSetprot b c.1 c.2.1 c.2.2) bits) n =
      (calls.find? fun c => portsOf c.1 c.2.1 n).elim (Bitmap.bit bits n) fun c =>
        c.2.2 &&& PART_LEGACYIO_NOACCESS ≠ 0 := by
  induction calls with
  | nil => rfl
  | cons c calls ih =>
    rw [List.foldr_cons, bit_legacyIOSetprot, List.find?_cons, ih]
    cases portsOf c.1 c.2.1 n <;> rfl

/-- The size of an `IN` or `OUT`. -/
inductive IoSize where
  | byte
  | word
  | dword
  deriving DecidableEq, Repr

def IoSize.bytes : IoSize → Nat
  | .byte => 1
  | .word => 2
  | .dword => 4

def ioBitmapMarks (a b : Bitmap.Bytes) (port : Nat) : Bool :=
  if port < 0x8000 then Bitmap.bit a port else Bitmap.bit b (port - 0x8000)

/-- The processor exits on an I/O instruction: with I/O bitmaps if one of the ports is
marked or the access wraps around the last port, and else by "unconditional I/O
exiting". -/
def ioExits (ctls : VmxCtls) (a b : Bitmap.Bytes) (port : U16) (size : IoSize) : Bool :=
  if ctls.has .useIoBitmaps then
    decide (0x10000 < port.toNat + size.bytes) ||
      (List.range size.bytes).any fun i => ioBitmapMarks a b (port.toNat + i)
  else ctls.has .unconditionalIoExiting

/-! ## MSRs -/

/-- The bit number that `set_msrbitmap` and `clear_msrbitmap` compute. -/
def msrBitNum (msr : U32) : Option Nat :=
  if msr < 0x2000#32 then some msr.toNat
  else if 0xc0000000#32 ≤ msr ∧ msr < 0xc0002000#32 then some (msr - 0xc0000000#32).toNat
  else none

/-- `set_msrbitmap`: the read bit, and 2048 bytes above it the write bit. -/
def setMsrbitmap (bitmap : Bitmap.Bytes) (msr : U32) : Bitmap.Bytes :=
  match msrBitNum msr with
  | none => bitmap
  | some bitNum => Bitmap.set (Bitmap.set bitmap bitNum) (bitNum + 8 * 2048)

def clearMsrbitmap (bitmap : Bitmap.Bytes) (msr : U32) : Bitmap.Bytes :=
  match msrBitNum msr with
  | none => bitmap
  | some bitNum => Bitmap.clear (Bitmap.clear bitmap bitNum) (bitNum + 8 * 2048)

/-- The page of MSR bitmaps makes an access exit: four bitmaps, for reads and then for
writes of the low and of the high range of MSRs; every MSR outside the ranges exits. -/
def msrBitmapExits (bitmap : Bitmap.Bytes) (msr : U32) (write : Bool) : Bool :=
  let area := if write then 8 * 2048 else 0
  if msr < 0x2000#32 then Bitmap.bit bitmap (area + msr.toNat)
  else if 0xc0000000#32 ≤ msr ∧ msr < 0xc0002000#32 then
    Bitmap.bit bitmap (area + 8 * 1024 + (msr - 0xc0000000#32).toNat)
  else true

/-- The processor exits on `RDMSR` or `WRMSR`. -/
def msrExits (ctls : VmxCtls) (bitmap : Bitmap.Bytes) (msr : U32) (write : Bool) : Bool :=
  if ctls.has .useMsrBitmaps then msrBitmapExits bitmap msr write else true

end Xmhf
