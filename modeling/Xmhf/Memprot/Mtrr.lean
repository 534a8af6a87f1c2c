import Xmhf.Bitfield

/-!
# Guest MTRRs and memory types

The MTRR half of `memp-x86vmx.c`: the validity checks on MTRR values, the
shadow copy of the guest's MTRRs that is gathered at boot, and the memory type
that the shadow gives to a physical page. `none` is a halted CPU.
-/

namespace Xmhf

def NUM_FIXED_MTRRS : Nat := 11

def MAX_VARIABLE_MTRR_PAIRS : Nat := 10

def IA32_MTRRCAP : U32 := 0xfe

def IA32_MTRR_DEF_TYPE : U32 := 0x2ff

def IA32_MTRR_PHYSBASE0 : U32 := 0x200

def IA32_MTRR_PHYSMASK0 : U32 := 0x201

def MTRR_TYPE_UC : U32 := 0

def MTRR_TYPE_WT : U32 := 4

def MTRR_TYPE_WB : U32 := 6

def MTRR_TYPE_RESV : U32 := 7

/-- A fixed-range register and the addresses that its eight bytes describe. -/
structure FixedMtrrProp where
  msr : U32
  start : U32
  step : U32
  stop : U32

def fixedMtrrProp : List FixedMtrrProp :=
  [⟨0x250, 0x00000, 0x10000, 0x80000⟩, ⟨0x258, 0x80000, 0x4000, 0xa0000⟩,
   ⟨0x259, 0xa0000, 0x4000, 0xc0000⟩,
   ⟨0x268, 0xc0000, 0x1000, 0xc8000⟩,
   ⟨0x269, 0xc8000, 0x1000, 0xd0000⟩,
   ⟨0x26a, 0xd0000, 0x1000, 0xd8000⟩,
   ⟨0x26b, 0xd8000, 0x1000, 0xe0000⟩,
   ⟨0x26c, 0xe0000, 0x1000, 0xe8000⟩,
   ⟨0x26d, 0xe8000, 0x1000, 0xf0000⟩,
   ⟨0x26e, 0xf0000, 0x1000, 0xf8000⟩,
   ⟨0x26f, 0xf8000, 0x1000, 0x100000⟩]

structure GuestVarMtrrMsrPair where
  base : U64
  mask : U64

/-- The MTRR fields of a `VCPU`. The arrays are total functions: the source
reads pair `varCount`, one past the pairs the machine has, and what stands there
is a value like any other. -/
structure GuestMtrrMsrs where
  defType : U64
  fixMtrrs : Nat → U64
  varCount : Nat
  varMtrrs : Nat → GuestVarMtrrMsrPair
  mtrrEnable : Bool
  fixmtrrEnable : Bool
  defaulttype : U32
  paddrmask : U64

/-! ## Validity checks -/

def vmxMtrrChecktype (type : U32) : Bool :=
  type == 0 || type == 1 || type == 4 || type == 5 || type == 6

/-- The enable bit, the fixed-range enable bit and the default type of a valid
`IA32_MTRR_DEF_TYPE` value. -/
def vmxMtrrCheckdeftype (msrval : U64) : Option (Bool × Bool × U32) :=
  -- reserved bits
  if msrval &&& ~~~0xcff != 0 then none
  else
    let e := msrval &&& 0x800 != 0
    let fe := msrval &&& 0x400 != 0
    let type := (msrval &&& 0xff).setWidth 32
    if e && !vmxMtrrChecktype type then none else some (e, fe, type)

/-- Byte `i` of a fixed-range register. -/
def fixedMtrrByte (msrval : U64) (i : Nat) : U32 :=
  ((msrval >>> shiftAmount (8 * i)).setWidth 8).setWidth 32

def vmxMtrrCheckfixed (msrval : U64) : Bool :=
  (List.range 8).all fun i => vmxMtrrChecktype (fixedMtrrByte msrval i)

def vmxMtrrCheckvariable (paddrmask baseval maskval : U64) : Bool :=
  if baseval &&& ~~~(paddrmask ||| 0xff) != 0 then false
  else if maskval &&& ~~~(paddrmask ||| 0x800) != 0 then false
  else if maskval &&& 0x800 != 0 && !vmxMtrrChecktype ((baseval &&& 0xff).setWidth 32) then false
  else true

/-! ## The shadow gathered at boot -/

/-- What `_vmx_gathermemorytypes` asks of the CPU: the MSRs, and three words
returned by `CPUID`. -/
structure MtrrHardware where
  rdmsr : U32 → U64
  cpuid1Edx : U32
  cpuid80000000Eax : U32
  cpuid80000008Eax : U32

def vmxGathermemorytypes (hw : MtrrHardware) : Option GuestMtrrMsrs := do
  guard (hw.cpuid1Edx.getLsbD 12)
  let caps := hw.rdmsr IA32_MTRRCAP
  let numVmtrrs := (caps.setWidth 8).toNat
  guard (caps.getLsbD 8)
  guard (numVmtrrs ≤ MAX_VARIABLE_MTRR_PAIRS)
  guard (0x80000008 ≤ hw.cpuid80000000Eax)
  let maxphyaddr := (hw.cpuid80000008Eax &&& 0xff).toNat
  guard (32 ≤ maxphyaddr ∧ maxphyaddr < 64)
  let paddrmask := (1#64 <<< maxphyaddr) - 0x1000
  let defType := hw.rdmsr IA32_MTRR_DEF_TYPE
  let (e, fe, type) ← vmxMtrrCheckdeftype defType
  guard (fixedMtrrProp.all fun prop => vmxMtrrCheckfixed (hw.rdmsr prop.msr))
  let varMtrrs (i : Nat) : GuestVarMtrrMsrPair :=
    -- pairs that the machine does not have stay as the zeroed VCPU left them
    if i < numVmtrrs then
      ⟨hw.rdmsr (IA32_MTRR_PHYSBASE0 + 2 * BitVec.ofNat 32 i),
       hw.rdmsr (IA32_MTRR_PHYSMASK0 + 2 * BitVec.ofNat 32 i)⟩
    else ⟨0, 0⟩
  guard ((List.range numVmtrrs).all fun i =>
    vmxMtrrCheckvariable paddrmask (varMtrrs i).base (varMtrrs i).mask)
  return {
    defType := defType
    fixMtrrs := fun i => (fixedMtrrProp[i]?.map fun prop => hw.rdmsr prop.msr).getD 0
    varCount := numVmtrrs
    varMtrrs := varMtrrs
    mtrrEnable := e
    fixmtrrEnable := fe
    defaulttype := type
    paddrmask := paddrmask }

/-! ## The memory type of a page -/

/-- The type read from the first fixed-range register that ends above the page.
The subtraction is the source's: the page is taken from the start of the range
and not the other way round, in 64 bits, and only the quotient is cut to 32. -/
def fixedMemoryType (m : GuestMtrrMsrs) (pagebaseaddr : U64) : Option U32 := do
  let i ← fixedMtrrProp.findIdx? fun prop => pagebaseaddr < prop.stop.setWidth 64
  let prop ← fixedMtrrProp[i]?
  let index : U32 :=
    ((prop.start.setWidth 64 - pagebaseaddr) / prop.step.setWidth 64).setWidth 32
  return ((m.fixMtrrs i >>> shiftAmount (index * 8).toNat).setWidth 8).setWidth 32

/-- A variable range that covers the page is combined with those before it. -/
def combineMemoryType (prevType curType : U32) : Option U32 :=
  if prevType == MTRR_TYPE_RESV || prevType == curType then some curType
  else if prevType == MTRR_TYPE_UC || curType == MTRR_TYPE_UC then some MTRR_TYPE_UC
  else if prevType == MTRR_TYPE_WB && curType == MTRR_TYPE_WT then some MTRR_TYPE_WT
  else if prevType == MTRR_TYPE_WT && curType == MTRR_TYPE_WB then some MTRR_TYPE_WT
  else none

/-- Whether a variable range is valid and covers the page. -/
def GuestVarMtrrMsrPair.covers (pair : GuestVarMtrrMsrPair) (pagebaseaddr : U64) : Bool :=
  pair.mask &&& (1 <<< 11) != 0 && pagebaseaddr &&& (pair.mask &&& ~~~0xfff) ==
      (pair.base &&& ~~~0xfff) &&& (pair.mask &&& ~~~0xfff)

def variableMemoryType (m : GuestMtrrMsrs) (pagebaseaddr : U64) (prevType : U32) (i : Nat) :
    Option U32 :=
  let pair := m.varMtrrs i
  if pair.covers pagebaseaddr then combineMemoryType prevType ((pair.base &&& 0xff).setWidth 32)
  else some prevType

def vmxGetmemorytypeforphysicalpage (m : GuestMtrrMsrs) (pagebaseaddr : U64) : Option U32 :=
  if !m.mtrrEnable then some MTRR_TYPE_UC
  else if pagebaseaddr < 0x100000 && m.fixmtrrEnable then fixedMemoryType m pagebaseaddr
  else do
    let type ← (List.range m.varCount).foldlM (variableMemoryType m pagebaseaddr) MTRR_TYPE_RESV
    return if type == MTRR_TYPE_RESV then m.defaulttype else type

/-! ## Reading and writing the shadow -/

inductive MtrrReg where
  | defType
  | varBase (index : Nat)
  | varMask (index : Nat)
  | fixed (index : Nat)

/-- The case distinction at the head of the read and of the write handler. An
MSR that is no MTRR halts. -/
def mtrrReg (m : GuestMtrrMsrs) (msr : U32) : Option MtrrReg :=
  if msr = IA32_MTRR_DEF_TYPE then some .defType
  else if IA32_MTRR_PHYSBASE0.toNat ≤ msr.toNat ∧
      msr.toNat ≤ IA32_MTRR_PHYSMASK0.toNat + 2 * m.varCount then
    if (msr - IA32_MTRR_PHYSBASE0).toNat % 2 = 0 then
      some (.varBase ((msr - IA32_MTRR_PHYSBASE0).toNat / 2))
    else some (.varMask ((msr - IA32_MTRR_PHYSMASK0).toNat / 2))
  else (fixedMtrrProp.findIdx? fun prop => prop.msr == msr).map .fixed

def GuestMtrrMsrs.read (m : GuestMtrrMsrs) : MtrrReg → U64
  | .defType => m.defType
  | .varBase i => (m.varMtrrs i).base
  | .varMask i => (m.varMtrrs i).mask
  | .fixed i => m.fixMtrrs i

/-- The value goes to the guest; the source's other result, an error, is never
returned. -/
def mtrrRead (m : GuestMtrrMsrs) (msr : U32) : Option U64 :=
  (mtrrReg m msr).map m.read

end Xmhf
