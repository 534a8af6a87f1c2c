import Xmhf.Memprot.Mtrr

/-!
# Model-specific registers

The MSR numbers of `_msr.h` that XMHF treats specially, and the MSR areas from which
a VM entry loads registers and to which a VM exit stores them.
-/

namespace Xmhf

def MSR_EFER : U32 := 0xc0000080

def MSR_IA32_PAT : U32 := 0x277

def IA32_SYSENTER_CS_MSR : U32 := 0x174

def IA32_SYSENTER_ESP_MSR : U32 := 0x175

def IA32_SYSENTER_EIP_MSR : U32 := 0x176

def IA32_MSR_FS_BASE : U32 := 0xc0000100

def IA32_MSR_GS_BASE : U32 := 0xc0000101

def IA32_BIOS_UPDT_TRIG : U32 := 0x79

def IA32_X2APIC_EOI : U32 := 0x80b

def IA32_X2APIC_ICR : U32 := 0x830

def IA32_TSC_DEADLINE : U32 := 0x6e0

def IA32_VMX_BASIC_MSR : U32 := 0x480

def IA32_VMX_VMFUNC_MSR : U32 := 0x491

/-- `IA32_MTRR_DEF_TYPE`, the fixed-range MTRRs and ten pairs of variable-range MTRRs. -/
def mtrrMsrs : List U32 :=
  [IA32_MTRR_DEF_TYPE, 0x250, 0x258, 0x259, 0x268, 0x269, 0x26a, 0x26b, 0x26c, 0x26d, 0x26e, 0x26f,
    0x200, 0x201, 0x202, 0x203, 0x204, 0x205, 0x206, 0x207, 0x208, 0x209,
    0x20a, 0x20b, 0x20c, 0x20d, 0x20e, 0x20f, 0x210, 0x211, 0x212, 0x213]

/-- `IA32_RTIT_OUTPUT_BASE` to `IA32_RTIT_ADDR3_B`, the registers of Intel PT. -/
def rtitMsrs : List U32 :=
  [0x560, 0x561, 0x570, 0x571, 0x572, 0x580, 0x581, 0x582, 0x583, 0x584, 0x585, 0x586, 0x587]

/-- `IA32_VMX_BASIC_MSR` to `IA32_VMX_TRUE_ENTRY_CTLS_MSR`. -/
def vmxCapMsrs : List U32 :=
  [0x480, 0x481, 0x482, 0x483, 0x484, 0x485, 0x486, 0x487, 0x488, 0x489, 0x48a, 0x48b, 0x48c,
    0x48d, 0x48e, 0x48f, 0x490]

/-- `msr_entry_t` -/
structure MsrEntry where
  index : U32
  data : U64
  deriving DecidableEq

/-- Index of `IA32_EFER` and of `IA32_PAT` in the MSR areas
(`xmhf_partition_arch_x86vmx_get_xmhf_msr`). -/
def getXmhfMsr (msr : U32) : Option Nat :=
  if msr = MSR_EFER then some 0
  else if msr = MSR_IA32_PAT then some 1
  else none

end Xmhf
