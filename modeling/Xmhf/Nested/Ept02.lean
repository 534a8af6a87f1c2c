import Xmhf.Hpt.Ept
import Xmhf.Lib.Machine

/-!
# The shadow table EPT02

Under nested virtualization the guest hypervisor L1 maps L2 addresses to L1
addresses with its own table EPT12, XMHF maps L1 addresses to host addresses
with EPT01, and the hardware runs L2 on EPT02, which XMHF fills on demand
(`nested-x86vmx-ept12.c`). This module models the page pool of an EPT02, its
reset and the walk that fills it, `xmhf_nested_arch_x86vmx_walk_ept02`.

`none` as the result of a step is a halt of the hypervisor.
-/

namespace Xmhf

/-- The pages from which an EPT02 is built: `size` consecutive page-aligned
pages of hypervisor memory. -/
structure Ept02Pool where
  base : U64
  size : Nat
  aligned : base.toNat % 4096 = 0
  nonnull : 0 < base.toNat
  bound : base.toNat + 4096 * size ≤ 2 ^ 52
  nonempty : 0 < size

namespace Ept02Pool

def page (pool : Ept02Pool) (i : Nat) : Ptr := pool.base + BitVec.ofNat 64 (4096 * i)

end Ept02Pool

/-- `ept02_ctx_t`: which pages of the pool are allocated, what the pages hold,
and the root of the table. -/
structure Ept02Ctx where
  pageAlloc : Nat → Bool
  mem : Mem
  rootPa : Pa

def ept02Gzp (pool : Ept02Pool) (pageAlloc : Nat → Bool) (mem : Mem) :
    Option (Ptr × (Nat → Bool) × Mem) :=
  match (List.range pool.size).find? fun i => !pageAlloc i with
  | some i =>
    some (pool.page i, Function.update pageAlloc i true,
      Function.update mem (pool.page i) fun _ => 0#64)
  | none => none

def ept02HptwCtx (pool : Ept02Pool) (rootPa : Pa) : HptwAllocCtx (Nat → Bool) where
  t := .ept
  rootPa := rootPa
  pa2ptr := hostPa2ptr
  ptr2pa := id
  gzp := ept02Gzp pool

/-- `ept02_ctx_reset`; it also flushes the hardware's cached translations of this
EPT02. -/
def ept02CtxReset (pool : Ept02Pool) (ctx : Ept02Ctx) : Ept02Ctx :=
  match ept02Gzp pool (fun _ => false) ctx.mem with
  | some (page, pageAlloc, mem) => ⟨pageAlloc, mem, page⟩
  | none => ⟨fun _ => false, ctx.mem, nullPtr⟩

/-- `ept12_ctx_t`: the memory that holds the source tables and their roots. -/
structure Ept12Ctx where
  mem : Mem
  ept01 : Pa
  ept12 : Pa

namespace Ept12Ctx

def ctx01 (src : Ept12Ctx) : HptwCtx := ⟨.ept, src.ept01, hostPa2ptr⟩

/-- EPT12, whose page maps lie in L1's memory and are accessed through EPT01. -/
def ctx (src : Ept12Ctx) : HptwCtx where
  t := .ept
  rootPa := src.ept12
  pa2ptr spa sz accessType cpl := hptwCheckedAccessVa src.ctx01 src.mem accessType cpl spa sz

end Ept12Ctx

/-- The exit codes of `xmhf_nested_arch_x86vmx_handle_ept02_exit`, with the L1 and
host addresses that the walk writes. -/
inductive Ept02Exit where
  | cachemiss (guest1Paddr xmhfPaddr : U64)
  | ept01Violation (guest1Paddr : U64)
  | ept12Violation
  | ept12Misconfig
  deriving DecidableEq

/-- The entry that the walk builds for EPT02 from the two leaves. -/
def ept02Pmeo (pmeo12 pmeo01 : Pmeo) (xmhfPaddr : U64) : Pmeo :=
  let lvl := if pmeo12.lvl < pmeo01.lvl then pmeo12.lvl else pmeo01.lvl
  let pmeo02 : Pmeo := ⟨0#64, .ept, lvl⟩
  let pmeo02 := (pmeo02.setPage true).setAddress xmhfPaddr
  let pmeo02 := pmeo02.setprot (pmeo01.getprot &&& pmeo12.getprot)
  -- MTRRs do not affect guest memory types, so EPT01's type plays no role
  let pmeo02 := pmeo02.setcache pmeo12.getcache
  pmeo02.setuser (pmeo01.getuser && pmeo12.getuser)

/-- The insertion at the end of the walk: when the pool is full, or a larger page
is in the way, EPT02 is reset and the insertion tried once more. -/
def insertEpt02 (pool : Ept02Pool) (s : Ept02Ctx) (pmeo02 : Pmeo) (guest2Paddr : U64) :
    Option Ept02Ctx :=
  match hptwInsertPmeoAlloc (ept02HptwCtx pool s.rootPa) pmeo02 guest2Paddr s.pageAlloc s.mem with
  | (true, pageAlloc, mem) => some ⟨pageAlloc, mem, s.rootPa⟩
  | (false, pageAlloc, mem) =>
    let s := ept02CtxReset pool ⟨pageAlloc, mem, s.rootPa⟩
    match hptwInsertPmeoAlloc (ept02HptwCtx pool s.rootPa) pmeo02 guest2Paddr s.pageAlloc s.mem with
    | (true, pageAlloc, mem) => some ⟨pageAlloc, mem, s.rootPa⟩
    | (false, _, _) => none

/-- `xmhf_nested_arch_x86vmx_walk_ept02` on a valid cache line. -/
def walkEpt02 (pool : Ept02Pool) (src : Ept12Ctx) (s : Ept02Ctx) (guest2Paddr : U64)
    (accessType : Prot) : Option (Ept02Exit × Ept02Ctx) :=
  match hptwCheckedGetPmeo src.ctx src.mem accessType 0 guest2Paddr with
  | none => some (.ept12Violation, s)
  | some pmeo12 =>
    let guest1Paddr := pmeo12.vaToPa guest2Paddr
    if pmeo12.pme &&& hptProtReadMask = 0#64 then
      if pmeo12.pme &&& hptProtWriteMask ≠ 0#64 then some (.ept12Misconfig, s)
      -- "Likely unimplemented EPT misconfig"
      else none
    else
      match hptwCheckedGetPmeo src.ctx01 src.mem accessType 0 guest1Paddr with
      | none => some (.ept01Violation guest1Paddr, s)
      | some pmeo01 =>
        let xmhfPaddr := pmeo01.vaToPa guest1Paddr
        match insertEpt02 pool s (ept02Pmeo pmeo12 pmeo01 xmhfPaddr) guest2Paddr with
        | some s' => some (.cachemiss guest1Paddr xmhfPaddr, s')
        | none => none

def ept02AccessType (qualification : U64) : Prot :=
  (if qualification &&& 1#64 ≠ 0#64 then hptProtReadMask else 0#64) |||
    (if qualification &&& 2#64 ≠ 0#64 then hptProtWriteMask else 0#64) |||
    (if qualification &&& 4#64 ≠ 0#64 then hptProtExecMask else 0#64)

/-- `xmhf_nested_arch_x86vmx_handle_ept02_exit`. -/
def handleEpt02Exit (pool : Ept02Pool) (src : Ept12Ctx) (s : Ept02Ctx) (guest2Paddr : U64)
    (qualification : U64) : Option (Ept02Exit × Ept02Ctx) :=
  let accessType := ept02AccessType qualification
  if accessType = 0#64 then none else walkEpt02 pool src s guest2Paddr accessType

end Xmhf
