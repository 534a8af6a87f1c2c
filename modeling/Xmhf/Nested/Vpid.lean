import Xmhf.Bitfield
import Xmhf.Lib.Machine
import Xmhf.Lru

/-!
# VPIDs of nested guests

L1 gives its guests VPIDs of its own. XMHF keeps a cache of guest VPIDs, one
hardware VPID to a line (`vpid02_cache` in `nested-x86vmx-ept12.c`), which nested
entries and exits look up and L1's `INVVPID` searches. Without VPIDs in VMCS12, L2
runs with L1's own VPID, and XMHF flushes it at every entry and exit.

The state records what the hardware is told: `log` holds the `INVVPID`s that XMHF
executes and the VPIDs that it writes to VMCS02.
-/

namespace Xmhf

def VMX_NESTED_MAX_ACTIVE_VPID : Nat := 4

/-- The VPID with which L1 runs, set by `xmhf_memprot_arch_x86vmx_initialize`. -/
def controlVpid01 : U16 := 1

inductive InvvpidType where
  | individualAddress
  | singleContext
  | allContexts
  | singleContextGlobal
  deriving DecidableEq

inductive VpidEvent where
  | invvpid (type : InvvpidType) (vpid : U16) (address : U64)
  /-- The VPID field of VMCS02 is written. -/
  | controlVpid (vpid02 : U16)
  deriving DecidableEq

/-- A running L2: the VPID control and the VPID of its VMCS12, and the VPID field of
VMCS02. -/
structure NestedVpid where
  enableVpid : Bool
  vpid12 : U16
  vpid02 : U16

structure VpidCpu where
  cache : LruSet U16 U16
  running : Option NestedVpid
  log : List VpidEvent

/-- The address is a sign-extended one of `bits` bits. -/
def canonical (bits : Nat) (address : U64) : Bool :=
  decide (-(2 ^ (bits - 1)) ≤ address.toInt ∧ address.toInt < 2 ^ (bits - 1))

/-- `HALT_ON_ERRORCOND(__vmx_invvpid(...))`: the instruction fails for VPID 0 and for
an address that is not canonical. -/
def executeInvvpid (linAddrBits : Nat) (s : VpidCpu) (type : InvvpidType) (vpid : U16)
    (address : U64) : Option VpidCpu :=
  if (type ≠ .allContexts ∧ vpid = 0) ∨
      (type = .individualAddress ∧ canonical linAddrBits address = false) then none
  else some { s with log := s.log ++ [.invvpid type vpid address] }

/-! ## Entries and exits -/

/-- `xmhf_nested_arch_x86vmx_get_vpid02` returns its argument; a miss first flushes the
VPID of the line taken. -/
def getVpid02 (linAddrBits : Nat) (s : VpidCpu) (vpid12 : U16) :
    Option (Bool × U16 × VpidCpu) :=
  let found := lruSetFindEvict VMX_NESTED_MAX_ACTIVE_VPID s.cache vpid12
  let s := { s with cache := found.set }
  if found.cacheHit then some (true, vpid12, s)
  else
    (executeInvvpid linAddrBits s .singleContext (found.set found.index).value 0).map
      fun s => (false, vpid12, s)

/-- `_vmcs12_to_vmcs02_control_vpid`; false is the error code for an invalid control
field. -/
def vmcs12ToVmcs02ControlVpid (linAddrBits : Nat) (s : VpidCpu) (enableVpid : Bool)
    (vpid12 : U16) : Option (Bool × U16 × VpidCpu) :=
  if enableVpid then
    if vpid12 = 0 then some (false, 0, s)
    else
      (getVpid02 linAddrBits s vpid12).map fun (_, vpid02, s) =>
        (true, vpid02, { s with log := s.log ++ [.controlVpid vpid02] })
  else
    (executeInvvpid linAddrBits s .singleContext 1 0).map fun s =>
      (true, 1, { s with log := s.log ++ [.controlVpid 1] })

def vmcs02ToVmcs12ControlVpid (linAddrBits : Nat) (s : VpidCpu) (guest : NestedVpid) :
    Option VpidCpu :=
  if guest.enableVpid then
    if guest.vpid12 = 0 then none
    else
      (getVpid02 linAddrBits s guest.vpid12).bind fun (cacheHit, vpid02, s) =>
        if cacheHit ∧ guest.vpid02 = vpid02 then some s else none
  else
    (executeInvvpid linAddrBits s .singleContext 1 0).bind fun s =>
      if guest.vpid02 = 1 then some s else none

/-! ## `INVVPID` by L1 -/

/-- `xmhf_nested_arch_x86vmx_invvpid_indiv_addr` -/
def invvpidIndivAddr (linAddrBits : Nat) (s : VpidCpu) (vpid12 : U16) (address : U64) :
    Option VpidCpu :=
  if linAddrBits < 32 ∨ 64 ≤ linAddrBits then none
  -- rejected, L1 gets an error
  else if address &&& ~~~((1#64 <<< linAddrBits) - 1) ≠ 0 then some s
  else
    match lruSetFindImmutable VMX_NESTED_MAX_ACTIVE_VPID s.cache vpid12 with
    | some i => executeInvvpid linAddrBits s .individualAddress (s.cache i).value address
    | none => some s

/-- `xmhf_nested_arch_x86vmx_invvpid_single_ctx_global` -/
def invvpidSingleCtxGlobal (linAddrBits : Nat) (s : VpidCpu) (vpid12 : U16) : Option VpidCpu :=
  match lruSetFindImmutable VMX_NESTED_MAX_ACTIVE_VPID s.cache vpid12 with
  | some i => executeInvvpid linAddrBits s .singleContextGlobal (s.cache i).value 0
  | none => some s

/-- `xmhf_nested_arch_x86vmx_invvpid_single_ctx`: the flush is left to the next lookup. -/
def invvpidSingleCtx (s : VpidCpu) (vpid12 : U16) : VpidCpu :=
  { s with cache := lruSetInvalidate VMX_NESTED_MAX_ACTIVE_VPID s.cache vpid12 }

/-- `xmhf_nested_arch_x86vmx_invvpid_all_ctx` -/
def invvpidAllCtx (s : VpidCpu) : VpidCpu :=
  { s with cache := lruSetInvalidateAll VMX_NESTED_MAX_ACTIVE_VPID s.cache }

/-- The switch of `xmhf_nested_arch_x86vmx_handle_invvpid` on the type in the
descriptor. -/
def invvpidType (type : U64) : Option InvvpidType :=
  if type = 0 then some .individualAddress
  else if type = 1 then some .singleContext
  else if type = 2 then some .allContexts
  else if type = 3 then some .singleContextGlobal
  else none

def handleInvvpid (linAddrBits : Nat) (s : VpidCpu) (type : U64) (reserved : Bool)
    (vpid12 : U16) (linearAddr : U64) : Option VpidCpu :=
  if reserved then some s
  else
    match invvpidType type with
    | some .individualAddress =>
      if vpid12 = 0 then some s else invvpidIndivAddr linAddrBits s vpid12 linearAddr
    | some .singleContext => some (if vpid12 = 0 then s else invvpidSingleCtx s vpid12)
    | some .allContexts => some (invvpidAllCtx s)
    | some .singleContextGlobal =>
      if vpid12 = 0 then some s else invvpidSingleCtxGlobal linAddrBits s vpid12
    | none => some s

/-! ## The machine -/

inductive VpidOp where
  /-- A nested VM entry; it may still fail for another reason. -/
  | enter (enableVpid : Bool) (vpid12 : U16) (succeeds : Bool)
  | exit
  /-- `INVVPID` with a descriptor, `reserved` if reserved bits are set in it. -/
  | invvpid (type : U64) (reserved : Bool) (vpid12 : U16) (linearAddr : U64)

def vpidStep (linAddrBits : Nat) (s : VpidCpu) : VpidOp → Option VpidCpu
  | .enter enableVpid vpid12 succeeds =>
    if s.running.isSome then none
    else
      (vmcs12ToVmcs02ControlVpid linAddrBits s enableVpid vpid12).map fun (ok, vpid02, s) =>
        if ok && succeeds then { s with running := some ⟨enableVpid, vpid12, vpid02⟩ } else s
  | .exit =>
    s.running.bind fun guest =>
      (vmcs02ToVmcs12ControlVpid linAddrBits s guest).map fun s => { s with running := none }
  | .invvpid type reserved vpid12 linearAddr =>
    if s.running.isSome then none
    else handleInvvpid linAddrBits s type reserved vpid12 linearAddr

/-- `xmhf_nested_arch_x86vmx_vpid_init`: VPID 0 is the hypervisor's and 1 is L1's, so
line `index` gets `index + 2`. -/
def vpidInit (lines : LruSet U16 U16) : LruSet U16 U16 := fun index =>
  let line := lruSetInvalidateAll VMX_NESTED_MAX_ACTIVE_VPID lines index
  if index < VMX_NESTED_MAX_ACTIVE_VPID then { line with value := BitVec.ofNat 16 (index + 2) }
  else line

def vpidMachine (linAddrBits : Nat) : Machine VpidCpu VpidOp where
  init s := ∃ lines, s = ⟨vpidInit lines, none, []⟩
  step := vpidStep linAddrBits

/-! ## What holds in every run -/

/-- Line `i` is live and holds the guest VPID. -/
def VpidLine (s : VpidCpu) (vpid12 : U16) (i : Nat) : Prop :=
  i < VMX_NESTED_MAX_ACTIVE_VPID ∧ (s.cache i).valid ≠ 0 ∧ (s.cache i).key = vpid12

def LiveVpid (s : VpidCpu) (vpid12 : U16) : Prop := ∃ i, VpidLine s vpid12 i

structure VpidsApart (linAddrBits : Nat) (s : VpidCpu) : Prop where
  /-- L2 has never been given VPID 0. -/
  nonzero : ∀ vpid02, .controlVpid vpid02 ∈ s.log → vpid02 ≠ 0
  /-- Live guest VPIDs get different hardware VPIDs. -/
  distinct : ∀ u v hitU hitV u02 v02 su sv, LiveVpid s u → LiveVpid s v → u ≠ v →
    getVpid02 linAddrBits s u = some (hitU, u02, su) →
    getVpid02 linAddrBits s v = some (hitV, v02, sv) → u02 ≠ v02
  /-- The VPIDs of the lines are neither the hypervisor's nor L1's, and differ. -/
  lines : ∀ i < VMX_NESTED_MAX_ACTIVE_VPID, (s.cache i).value ≠ 0 ∧
    (s.cache i).value ≠ controlVpid01 ∧
    ∀ j < VMX_NESTED_MAX_ACTIVE_VPID, (s.cache i).value = (s.cache j).value → i = j
  /-- Without VPIDs, L2 gets L1's, flushed at entry and exit. -/
  disabledEntry : ∀ vpid12 succeeds s',
    vpidStep linAddrBits s (.enter false vpid12 succeeds) = some s' →
    s'.log = s.log ++ [.invvpid .singleContext controlVpid01 0, .controlVpid controlVpid01]
  disabledExit : ∀ guest s', s.running = some guest → guest.enableVpid = false →
    vpidStep linAddrBits s .exit = some s' →
    s'.log = s.log ++ [.invvpid .singleContext controlVpid01 0]
  /-- With VPIDs, L2 gets what the lookup returns, and the VPID of the line used is
  flushed unless the line held the guest VPID before. -/
  enabledEntry : ∀ vpid12 succeeds s', vpid12 ≠ 0 →
    vpidStep linAddrBits s (.enter true vpid12 succeeds) = some s' →
    ∃ i hit vpid02 found, getVpid02 linAddrBits s vpid12 = some (hit, vpid02, found) ∧
      VpidLine s' vpid12 i ∧
      (VpidLine s vpid12 i ∧ s'.log = s.log ++ [.controlVpid vpid02] ∨
        s'.log = s.log ++ [.invvpid .singleContext (s'.cache i).value 0, .controlVpid vpid02])
  /-- After `INVVPID` of all contexts no guest VPID is live, so every entry flushes. -/
  allContexts : ∀ vpid12 linearAddr s',
    vpidStep linAddrBits s (.invvpid 2 false vpid12 linearAddr) = some s' →
    s'.log = s.log ∧ ∀ v, ¬ LiveVpid s' v
  /-- `INVVPID` of a live guest VPID, for an address or for its context without global
  translations, is executed on the VPID of a line that holds it. -/
  invalidates : ∀ type vpid12 linearAddr s', vpid12 ≠ 0 → LiveVpid s vpid12 →
    (type = 0 ∧ linearAddr &&& ~~~((1#64 <<< linAddrBits) - 1) = 0 ∨ type = 3) →
    vpidStep linAddrBits s (.invvpid type false vpid12 linearAddr) = some s' →
    ∃ i type02 address, VpidLine s vpid12 i ∧ invvpidType type = some type02 ∧
      (address = if type = 0 then linearAddr else 0) ∧
      s'.log = s.log ++ [.invvpid type02 (s.cache i).value address]

structure VpidInv (s : VpidCpu) : Prop where
  ordered : LruOrdered VMX_NESTED_MAX_ACTIVE_VPID s.cache
  values : ∀ i < VMX_NESTED_MAX_ACTIVE_VPID, (s.cache i).value = BitVec.ofNat 16 (i + 2)
  nonzero : ∀ vpid02, .controlVpid vpid02 ∈ s.log → vpid02 ≠ 0

variable {type : InvvpidType} {vpid vpid02 : U16} {address linearAddr : U64}

section

variable {linAddrBits : Nat} {s s' : VpidCpu} {vpid12 : U16}

theorem vpidStep_enter {enableVpid succeeds : Bool}
    (next : vpidStep linAddrBits s (.enter enableVpid vpid12 succeeds) = some s') :
    ∃ result, vmcs12ToVmcs02ControlVpid linAddrBits s enableVpid vpid12 = some result ∧
      ∃ running, s' = { result.2.2 with running } := by
  obtain ⟨result, entered, rfl⟩ := Option.map_eq_some_iff.mp (Option.ite_none_left_eq_some.mp next).2
  refine ⟨result, entered, ?_⟩
  dsimp only
  split <;> exact ⟨_, rfl⟩

theorem executeInvvpid_some (executed : executeInvvpid linAddrBits s type vpid address = some s') :
    s' = { s with log := s.log ++ [.invvpid type vpid address] } := by
  unfold executeInvvpid at executed
  split at executed
  · cases executed
  · cases executed
    rfl

section

variable (inv : VpidInv s)

include inv

theorem VpidInv.executed (executed : executeInvvpid linAddrBits s type vpid address = some s')
    : VpidInv s' := by
  rw [executeInvvpid_some executed]
  refine ⟨inv.ordered, inv.values, fun vpid02 member => ?_⟩
  rcases List.mem_append.mp member with old | new
  · exact inv.nonzero vpid02 old
  · rw [List.mem_singleton] at new
    cases new

theorem VpidInv.wrote (nonzero : vpid02 ≠ 0) :
    VpidInv { s with log := s.log ++ [.controlVpid vpid02] } := by
  refine ⟨inv.ordered, inv.values, fun vpid member => ?_⟩
  rcases List.mem_append.mp member with old | new
  · exact inv.nonzero vpid old
  · rw [List.mem_singleton] at new
    cases new
    exact nonzero

theorem getVpid02_some {cacheHit : Bool}
    (found : getVpid02 linAddrBits s vpid12 = some (cacheHit, vpid02, s')) :
    vpid02 = vpid12 ∧ VpidInv s' ∧ s'.running = s.running ∧ ∃ i, VpidLine s' vpid12 i ∧
      (VpidLine s vpid12 i ∧ s'.log = s.log ∨
        s'.log = s.log ++ [.invvpid .singleContext (s'.cache i).value 0]) := by
  have inside := (inv.ordered.findEvict (by decide) vpid12).1
  have ordered := (inv.ordered.findEvict (by decide) vpid12).2
  have used := @lruSetFindEvict_used _ _ _ VMX_NESTED_MAX_ACTIVE_VPID s.cache vpid12
  have value := @lruSetFindEvict_value _ _ _ VMX_NESTED_MAX_ACTIVE_VPID s.cache vpid12
  have held := @lruSetFindEvict_hit _ _ _ VMX_NESTED_MAX_ACTIVE_VPID s.cache vpid12
  unfold getVpid02 at found
  generalize lruSetFindEvict VMX_NESTED_MAX_ACTIVE_VPID s.cache vpid12 = lookup at *
  rcases lookup with ⟨index, hit, set⟩
  have inv' : VpidInv { s with cache := set } := by
    refine ⟨ordered, fun i inside => ?_, inv.nonzero⟩
    exact (value i).trans (inv.values i inside)
  have live : (set index).valid ≠ 0 := by
    rw [used.1]
    decide
  cases hit with
  | true =>
    cases found
    have hits := held rfl
    exact ⟨rfl, inv', rfl, index, ⟨inside, live, used.2⟩, .inl ⟨⟨inside, hits.1, hits.2.2⟩, rfl⟩⟩
  | false =>
    rcases Option.map_eq_some_iff.mp found with ⟨flushed, executed, result⟩
    cases result
    have flush := executeInvvpid_some executed
    have inv'' := inv'.executed executed
    subst flush
    exact ⟨rfl, inv'', rfl, index, ⟨inside, live, used.2⟩, Or.inr rfl⟩

theorem VpidInv.entered {enableVpid ok : Bool}
    (entered : vmcs12ToVmcs02ControlVpid linAddrBits s enableVpid vpid12 = some (ok, vpid02, s')) :
    VpidInv s' := by
  unfold vmcs12ToVmcs02ControlVpid at entered
  split at entered
  · split at entered
    · cases entered
      exact inv
    · next nonzero =>
      rcases Option.map_eq_some_iff.mp entered with ⟨⟨hit, vpid, mid⟩, found, result⟩
      cases result
      rcases getVpid02_some inv found with ⟨rfl, inv', -⟩
      exact inv'.wrote nonzero
  · rcases Option.map_eq_some_iff.mp entered with ⟨mid, executed, result⟩
    cases result
    exact (inv.executed executed).wrote (by decide)

theorem VpidInv.left {guest : NestedVpid}
    (left : vmcs02ToVmcs12ControlVpid linAddrBits s guest = some s') : VpidInv s' := by
  unfold vmcs02ToVmcs12ControlVpid at left
  split at left
  · split at left
    · cases left
    · rcases Option.bind_eq_some_iff.mp left with ⟨⟨hit, vpid, mid⟩, found, checked⟩
      dsimp only at checked
      split at checked
      · cases checked
        exact (getVpid02_some inv found).2.1
      · cases checked
  · rcases Option.bind_eq_some_iff.mp left with ⟨mid, executed, checked⟩
    split at checked
    · cases checked
      exact inv.executed executed
    · cases checked

theorem VpidInv.handled {type : U64} {reserved : Bool}
    (handled : handleInvvpid linAddrBits s type reserved vpid12 linearAddr = some s') :
    VpidInv s' := by
  unfold handleInvvpid at handled
  split at handled
  · cases handled
    exact inv
  · split at handled
    · -- one address
      split at handled
      · cases handled
        exact inv
      · unfold invvpidIndivAddr at handled
        split at handled
        · cases handled
        · split at handled
          · cases handled
            exact inv
          · split at handled
            · exact inv.executed handled
            · cases handled
              exact inv
    · -- one context
      cases handled
      split
      · exact inv
      · refine ⟨inv.ordered.invalidate vpid12, fun i inside => ?_, inv.nonzero⟩
        dsimp only [invvpidSingleCtx]
        rw [lruSetInvalidate_apply]
        split <;> exact inv.values i inside
    · -- all contexts
      cases handled
      refine ⟨.invalidateAll _ _, fun i inside => ?_, inv.nonzero⟩
      dsimp only [invvpidAllCtx, lruSetInvalidateAll]
      rw [if_pos inside]
      exact inv.values i inside
    · -- one context without global translations
      split at handled
      · cases handled
        exact inv
      · unfold invvpidSingleCtxGlobal at handled
        split at handled
        · exact inv.executed handled
        · cases handled
          exact inv
    · cases handled
      exact inv

theorem VpidInv.step {o : VpidOp} (next : vpidStep linAddrBits s o = some s') : VpidInv s' := by
  cases o with
  | enter enableVpid vpid12 succeeds =>
    obtain ⟨⟨ok, vpid02, mid⟩, entered, running, rfl⟩ := vpidStep_enter next
    have inv' := inv.entered entered
    exact ⟨inv'.ordered, inv'.values, inv'.nonzero⟩
  | exit =>
    rcases Option.bind_eq_some_iff.mp next with ⟨guest, -, exited⟩
    rcases Option.map_eq_some_iff.mp exited with ⟨mid, left, rfl⟩
    have inv' := inv.left left
    exact ⟨inv'.ordered, inv'.values, inv'.nonzero⟩
  | invvpid type reserved vpid12 linearAddr =>
    exact inv.handled (Option.ite_none_left_eq_some.mp next).2

omit inv in
theorem vpidInv_of_reachable (reached : (vpidMachine linAddrBits).Reachable s) : VpidInv s := by
  refine reached.invariant ?_ ?_
  · intro s start
    rcases start with ⟨lines, rfl⟩
    have free : ∀ i < VMX_NESTED_MAX_ACTIVE_VPID, (vpidInit lines i).valid = 0 := by
      intro i inside
      unfold vpidInit
      rw [if_pos inside]
      exact lruSetInvalidateAll_valid inside
    refine ⟨⟨fun i inside => ?_, fun i inside j _ live => ?_⟩, fun i inside => ?_, ?_⟩
    · rw [free i inside]
      exact Nat.zero_le _
    · exact absurd (free i inside) live
    · dsimp only [vpidInit]
      rw [if_pos inside]
    · intro vpid02 member
      cases member
  · intro s o s' inv _ next
    exact inv.step next

theorem VpidInv.lines_apart {i : Nat} (inside : i < VMX_NESTED_MAX_ACTIVE_VPID) :
    (s.cache i).value ≠ 0 ∧
    (s.cache i).value ≠ controlVpid01 ∧
      ∀ j < VMX_NESTED_MAX_ACTIVE_VPID, (s.cache i).value = (s.cache j).value → i = j := by
  have number : ∀ k < VMX_NESTED_MAX_ACTIVE_VPID, (s.cache k).value.toNat = k + 2 := by
    intro k insideK
    unfold VMX_NESTED_MAX_ACTIVE_VPID at insideK
    rw [inv.values k insideK, BitVec.toNat_ofNat]
    omega
  have value := number i inside
  refine ⟨fun zero => ?_, fun one => ?_, fun j insideJ same => ?_⟩
  · rw [zero] at value
    cases value
  · rw [one] at value
    cases value
  · rw [same, number j insideJ] at value
    omega

end

theorem handleInvvpid_live {type : U64} (nonzero : vpid12 ≠ 0) (live : LiveVpid s vpid12)
    (kind : type = 0 ∧ linearAddr &&& ~~~((1#64 <<< linAddrBits) - 1) = 0 ∨ type = 3)
    (handled : handleInvvpid linAddrBits s type false vpid12 linearAddr = some s') :
    ∃ i type02 address, VpidLine s vpid12 i ∧ invvpidType type = some type02 ∧
      (address = if type = 0 then linearAddr else 0) ∧
      s'.log = s.log ++ [.invvpid type02 (s.cache i).value address] := by
  rcases live with ⟨k, insideK, liveK, keyK⟩
  rcases found : lruSetFindImmutable VMX_NESTED_MAX_ACTIVE_VPID s.cache vpid12 with _ | i
  · exact absurd keyK (lruSetFindImmutable_none found insideK liveK)
  · rcases lruSetFindImmutable_some found with ⟨line, -⟩
    rcases kind with ⟨rfl, accepted⟩ | rfl
    · simp only [handleInvvpid, invvpidType, nonzero, if_true, if_false, invvpidIndivAddr,
        accepted, found, ne_eq, not_true_eq_false, Bool.false_eq_true] at handled
      split at handled
      · cases handled
      · rw [executeInvvpid_some handled]
        exact ⟨i, .individualAddress, linearAddr, line, rfl, rfl, rfl⟩
    · have kind : invvpidType 3 = some .singleContextGlobal := by decide
      simp only [handleInvvpid, kind, nonzero, if_false, invvpidSingleCtxGlobal, found,
        Bool.false_eq_true] at handled
      rw [executeInvvpid_some handled]
      exact ⟨i, .singleContextGlobal, 0, line, kind, rfl, rfl⟩

end

def sampleVpidCpu : VpidCpu := ⟨vpidInit fun _ => ⟨0, 0, 0⟩, none, []⟩

theorem sampleVpidCpu_starts (linAddrBits : Nat) :
    (vpidMachine linAddrBits).Reachable sampleVpidCpu :=
  .init ⟨_, rfl⟩

end Xmhf
