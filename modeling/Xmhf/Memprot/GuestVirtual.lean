import Xmhf.Memprot.Guestmem
import Xmhf.Vmx.Vcpu

/-!
# Access to guest-virtual memory

The rest of `memp-x86vmx-guestmem.c`: the hypervisor reads and writes memory at a linear
address of the guest by walking the guest's page tables, which it finds by the guest's CR3
and CR4 and reads through EPT01. `guestmemDesegment` applies the segmentation before.
-/

namespace Xmhf

/-- The page maps of type `t` that memory holds. -/
def pageMaps (t : HptType) (ram : Pa → U8) : Mem := fun pm idx =>
  let size := if t = .norm then 4 else 8
  leWord ((List.range size).map fun i => ram (pm + BitVec.ofNat 64 (size * idx + i)))

def leBytes (size : Nat) (value : U64) : List U8 :=
  (List.range size).map fun i => (value >>> (8 * i)).setWidth 8

/-- `hpt_emhf_get_guest_hpt_type`, given CR4 and whether the guest is in long mode. It halts
for 5-level paging. -/
def guestHptType (cr4 : U64) (glm : Bool) : Option HptType :=
  if cr4 &&& CR4_PAE = 0 then some .norm
  else if !glm then some .pae
  else if cr4 &&& CR4_LA57 = 0 then some .long
  else none

/-- `hpt_cr3_get_address`. Asserted: the type is not EPT. -/
def hptCr3GetAddress (t : HptType) (cr3 : U64) : Pa :=
  match t with
  | .norm => br64CopyBitsHl 0#64 cr3 31 12 0
  | .pae => br64CopyBitsHl 0#64 cr3 31 5 0
  | _ => br64CopyBitsHl 0#64 cr3 51 12 0

/-- The guest context that `guestmem_init` sets up; `mem01` holds the tables of EPT01. -/
def guestmemGuestCtx (t : HptType) (vmcs : Vmcs) (mem01 : Mem) : HptwCtx where
  t := t
  rootPa := hptCr3GetAddress t (vmcs .guestCR3)
  pa2ptr gpa sz accessType cpl :=
    hptwCheckedAccessVa (guestmemHostCtx (vmcs .controlEPTPointer)) mem01 accessType cpl gpa sz

/-- `memcpy` to a pointer. -/
def memcpy (ram : Pa → U8) (dst : Ptr) (src : List U8) : Pa → U8 := fun pa =>
  src.getD (pa - dst).toNat (ram pa)

/-- The loop of `hptw_checked_copy_to_va` in the guest context. -/
def copyToVa (ctx : HptwCtx) (cpl : Nat) (dstVaBase : Va) (src : List U8) :
    Nat → Nat → (Pa → U8) → Option (Pa → U8)
  | 0, _, ram => some ram
  | fuel + 1, copied, ram =>
    if copied < src.length then
      -- the page tables may lie in the memory that the previous iteration has written
      let (dst, toCopy) := hptwCheckedAccessVa ctx (pageMaps ctx.t ram) hptProtWriteMask cpl
        (dstVaBase + BitVec.ofNat 64 copied) (src.length - copied)
      if dst = nullPtr then none
      else copyToVa ctx cpl dstVaBase src fuel (copied + toCopy)
        (memcpy ram dst ((src.drop copied).take toCopy))
    else some ram

section

variable (cr4 : U64) (vmcs : Vmcs) (mem01 : Mem) (ram : Pa → U8)

/-- `guestmem_init` and `guestmem_copy_gv2h`; the paging type is that of `cr4`. -/
def guestmemCopyGv2h (cpl : Nat) (src : U64) (len : Nat) : Option (List U8) :=
  (guestHptType cr4 vmcs.glm).bind fun t =>
    copyFromVa (guestmemGuestCtx t vmcs mem01) (pageMaps t ram) ram cpl src len len 0

/-- `guestmem_init` and `guestmem_copy_h2gv`. -/
def guestmemCopyH2gv (cpl : Nat) (dst : U64) (src : List U8) : Option (Pa → U8) :=
  (guestHptType cr4 vmcs.glm).bind fun t =>
    copyToVa (guestmemGuestCtx t vmcs mem01) cpl dst src src.length 0 ram

end

/-- Base, access rights and limit of a segment, by its number in `cpu_segment_t`. -/
def Vmcs.segment (vmcs : Vmcs) (seg : Nat) : Option (U64 × U32 × U32) :=
  match seg with
  | 0 => some (vmcs .guestESBase, vmcs .guestESAccessRights, vmcs .guestESLimit)
  | 1 => some (vmcs .guestCSBase, vmcs .guestCSAccessRights, vmcs .guestCSLimit)
  | 2 => some (vmcs .guestSSBase, vmcs .guestSSAccessRights, vmcs .guestSSLimit)
  | 3 => some (vmcs .guestDSBase, vmcs .guestDSAccessRights, vmcs .guestDSLimit)
  | 4 => some (vmcs .guestFSBase, vmcs .guestFSAccessRights, vmcs .guestFSLimit)
  | 5 => some (vmcs .guestGSBase, vmcs .guestGSAccessRights, vmcs .guestGSLimit)
  | _ => none

/-- The modes that the type of a segment supports; an expand-down segment halts. -/
def segmentModes (accessRights : U32) : Option Prot :=
  if accessRights.getLsbD 3 then
    some (hptProtOf (accessRights.getLsbD 1) false true)
  else if accessRights.getLsbD 2 then none
  else some (hptProtOf true (accessRights.getLsbD 1) false)

/-- The limit checks of `guestmem_desegment` for a 32-bit guest. -/
def segmentFits (base : U64) (limit : U32) (addr : U64) (size : Nat) : Bool :=
  let uintMax := 2 ^ 32 - 1
  addr.toNat ≤ uintMax - size && addr.toNat + size < limit.toNat &&
    base.toNat ≤ uintMax - (addr.toNat + size)

/-- The access right checks of `guestmem_desegment`. -/
def segmentAllows (accessRights : U32) (mode : Prot) (cpl : Nat) : Bool :=
  match segmentModes accessRights with
  | none => false
  | some modes =>
    modes &&& mode == mode && accessRights.getLsbD 4 &&
      cpl ≤ ((accessRights >>> 5) &&& 3).toNat && accessRights.getLsbD 7

/-- `guestmem_desegment`. A 64-bit guest has no limits, and access rights in CS only. -/
def guestmemDesegment (vmcs : Vmcs) (seg : Nat) (addr : U64) (size : Nat) (mode : Prot)
    (cpl : Nat) : Option U64 :=
  (vmcs.segment seg).bind fun (base, accessRights, limit) =>
    if (vmcs.g64 || segmentFits base limit addr size) &&
        (seg != 1 && vmcs.g64 || segmentAllows accessRights mode cpl) then some (addr + base)
    else none

end Xmhf
