import Xmhf.Nested.Ept02Cache
import Xmhf.Nested.Flush
import Xmhf.Nested.State

/-!
# The VMCS that a flush rewrites

The flush effect looks the EPT02 of the running L2 up again and writes its pointer to the
VMCS that the processor has loaded, without loading one. Whether that is VMCS02 depends on
the place of the code at which the request arrives.

The code of nested virtualization is followed here by the statements that matter: those
that load a VMCS, change the operation mode, look an EPT02 up, or block and unblock flushes.
An exit handler is the list of its statements, and a request from another CPU arrives, as an
NMI, between any two of them.
-/

namespace Xmhf

def MEMP_FLUSHTLB_EPTP : U32 := 1
def MEMP_FLUSHTLB_ENTRY : U32 := 2

/-- The VMCSs of a CPU: the one of L1, and for each VMCS12 its VMCS02 and the shadow VMCS
that holds its fields. -/
inductive LoadedVmcs where
  | vmcs01
  | vmcs02 (slot : Nat)
  | shadow (slot : Nat)
  deriving DecidableEq, Repr

/-- The statements of the nested-VMX code that matter to flushes. -/
inductive NestedStmt where
  /-- `VMPTRLD` of a VMCS of the current VMCS12, or of VMCS01. -/
  | loadVmcs01
  | loadVmcs02
  | loadShadow
  /-- `_update_nested_nmi` loads the shadow VMCS, reads the injection from it and loads the
  VMCS02 again. -/
  | nmiLoadShadow
  | nmiReadInjection
  | nmiLoadVmcs02
  | block
  | unblock
  /-- `vmcs12_to_vmcs02` of a VMCS12 with this EPT12, none without EPT. After a success the
  CPU is in L2 operation; flushes are blocked, so nothing comes between. -/
  | enter (ept12 : Option Pa)
  | enterFails (ept12 : Option Pa)
  /-- `vmcs02_to_vmcs12` -/
  | translateBack
  | leave
  | vmxon
  | vmxoff
  | vmptrld (slot : Nat)
  | violation (mem : Mem) (guest2Paddr qualification : U64)
  | invept (ept12 : Option Pa)
  /-- The hypapp gives L2 another EPT12 or EPT01 (`set_ept12`, `set_EPTP`), and then
  requests a flush. -/
  | switchEpt (ept12 : Option Pa) (eptp01 : U64) (flags : U32)
  | flush (flags : U32)

structure L2Cpu where
  flush : FlushCpu
  mode : NestedMode
  /-- `vmx_nested_cur_vmcs12` -/
  current : Nat
  loaded : LoadedVmcs
  /-- The EPT pointer field of each VMCS. -/
  eptp : LoadedVmcs → U64
  /-- `guest_ept_root` of the current VMCS12, none for `GUEST_EPT_ROOT_INVALID`. -/
  guestEptRoot : Option Pa
  guestEptCacheLine : Nat
  /-- `vcpu->vmcs.control_EPT_pointer` -/
  eptp01 : U64
  cache : LruSet Pa Ept02Value
  clock : Nat
  /-- The pointer that an effect run by the CPU itself has looked up and not yet written. -/
  found : Option U64
  todo : List NestedStmt
  /-- The VMCS loaded and the current VMCS12 at each rewrite of the EPT pointer. -/
  rewrites : List (LoadedVmcs × Nat)

/-- The flags with which the effect computes the EPT pointer again. -/
def flushRewalks (flags : U32) : Bool :=
  flags &&& (MEMP_FLUSHTLB_EPTP ||| MEMP_FLUSHTLB_ENTRY) ≠ 0

namespace L2Cpu

/-- The pointer that VMCS02 should hold: EPT01's, or the one that
`xmhf_nested_arch_x86vmx_get_ept02` returns. -/
def getPointer (cfg : Ept02CacheCfg) (s : L2Cpu) : U64 × L2Cpu :=
  match s.guestEptRoot with
  | none => (s.eptp01, s)
  | some ept12 =>
    let found := getEpt02 cfg ⟨s.cache, none, s.clock⟩ ept12
    (found.eptp02,
      { s with
        cache := found.cache
        guestEptCacheLine := found.cacheLine
        clock := s.clock + 1 })

/-- `__vmx_vmwrite64(VMCSENC_control_EPT_pointer, eptp)` -/
def writeEptp (s : L2Cpu) (eptp : U64) : L2Cpu :=
  { s with eptp := Function.update s.eptp s.loaded eptp }

/-- `LRU_SET_INVALIDATE_ALL` of the effect. -/
def invalidate (cfg : Ept02CacheCfg) (s : L2Cpu) (flags : U32) : L2Cpu :=
  if flags &&& MEMP_FLUSHTLB_ENTRY ≠ 0 then
    { s with cache := lruSetInvalidateAll cfg.nlines s.cache }
  else s

/-- `xmhf_nested_arch_x86vmx_flush_ept02_effect`, up to the lookup. -/
def effectStart (cfg : Ept02CacheCfg) (s : L2Cpu) (flags : U32) : L2Cpu :=
  let s := s.invalidate cfg flags
  if s.mode = .nonroot ∧ flushRewalks flags = true then
    let (eptp, s) := s.getPointer cfg
    { s with found := some eptp }
  else { s with found := none }

def effectEnd (s : L2Cpu) : L2Cpu :=
  match s.found with
  | none => s
  | some eptp =>
    { s.writeEptp eptp with found := none, rewrites := (s.loaded, s.current) :: s.rewrites }

def effect (cfg : Ept02CacheCfg) (s : L2Cpu) (flags : U32) : L2Cpu :=
  (s.effectStart cfg flags).effectEnd

def nmi (cfg : Ept02CacheCfg) (s : L2Cpu) (flags : U32) : L2Cpu :=
  let flush := s.flush.flushEpt02 flags
  if s.flush.disable then { s with flush } else { s.effect cfg flags with flush, found := s.found }

def ownFlush (cfg : Ept02CacheCfg) (s : L2Cpu) (flags : U32) : L2Cpu :=
  let flush := s.flush.flushEpt02Own flags
  if s.flush.disable then { s with flush } else { s.effectStart cfg flags with flush }

/-- `vmcs12_to_vmcs02`, as far as it concerns the EPT pointer. -/
def translate (cfg : Ept02CacheCfg) (s : L2Cpu) (ept12 : Option Pa) : L2Cpu :=
  let (eptp, s) := ({ s with guestEptRoot := ept12 } : L2Cpu).getPointer cfg
  s.writeEptp eptp

/-- `_vmcs02_to_vmcs12_control_EPT_pointer`, which asserts that the lookup hits and returns
the pointer in VMCS02. It does not note the line. -/
def translateBack (cfg : Ept02CacheCfg) (s : L2Cpu) : Option L2Cpu :=
  match s.guestEptRoot with
  | none => if s.eptp s.loaded = s.eptp01 then some s else none
  | some ept12 =>
    let found := getEpt02 cfg ⟨s.cache, none, s.clock⟩ ept12
    if found.cacheHit = true ∧ s.eptp s.loaded = found.eptp02 then
      some { s with cache := found.cache, clock := s.clock + 1 }
    else none

/-- `xmhf_nested_arch_x86vmx_handle_ept02_exit` on the line of the running L2. -/
def handleViolation (cfg : Ept02CacheCfg) (s : L2Cpu) (mem : Mem)
    (guest2Paddr qualification : U64) : Option L2Cpu :=
  match s.guestEptRoot with
  | none => some s
  | some ept12 =>
    let line := s.cache s.guestEptCacheLine
    if line.valid = 0 ∨ line.key ≠ ept12 then none
    else
      (handleEpt02Exit (cfg.pool s.guestEptCacheLine)
        ⟨mem, line.value.ept01Root, line.value.ept12Root⟩ line.value.ept02 guest2Paddr
        qualification).map fun (_, ept02) =>
          { s with cache := setEpt02 s.cache s.guestEptCacheLine ept02 }

/-- One statement; `s.todo` is what follows it. -/
def exec (cfg : Ept02CacheCfg) (s : L2Cpu) : NestedStmt → Option L2Cpu
  | .loadVmcs01 => some { s with loaded := .vmcs01 }
  | .loadVmcs02 | .nmiLoadVmcs02 => some { s with loaded := .vmcs02 s.current }
  | .loadShadow | .nmiLoadShadow => some { s with loaded := .shadow s.current }
  | .nmiReadInjection => some s
  | .block => s.flush.blockEpt02Flush.map fun flush => { s with flush }
  | .unblock => s.flush.unblockEpt02Flush.map fun flush => { s with flush }
  | .enter ept12 =>
    if s.mode = .root then some { s.translate cfg ept12 with mode := .nonroot } else none
  | .enterFails ept12 => some (s.translate cfg ept12)
  | .translateBack => s.translateBack cfg
  | .leave | .vmxon => some { s with mode := .root }
  | .vmxoff => some { s with mode := .disabled }
  | .vmptrld slot => some { s with current := slot }
  | .violation mem guest2Paddr qualification => s.handleViolation cfg mem guest2Paddr qualification
  | .invept none => some { s with cache := lruSetInvalidateAll cfg.nlines s.cache }
  | .invept (some ept12) => some { s with cache := lruSetInvalidate cfg.nlines s.cache ept12 }
  | .switchEpt ept12 eptp01 flags =>
    some { s with guestEptRoot := ept12, eptp01, todo := .flush flags :: s.todo }
  | .flush flags => some (s.ownFlush cfg flags)

/-- The next statement: of the code that blocks and unblocks flushes where the CPU is in it,
else of the handler. -/
def advance (cfg : Ept02CacheCfg) (s : L2Cpu) : Option L2Cpu :=
  match s.flush.stage with
  | .outside | .blocked =>
    match s.todo with
    | [] => none
    | stmt :: todo => ({ s with todo } : L2Cpu).exec cfg stmt
  | .startEffect flags => s.flush.advance.map fun flush => { s.effect cfg flags with flush }
  | .flushing => s.flush.advance.map fun flush => { s.effectEnd with flush }
  | _ => s.flush.advance.map fun flush => { s with flush }

end L2Cpu

/-! ## The handlers -/

/-- `_update_nested_nmi`; `override` is `override_nmi_blocking`. -/
def updateNestedNmi (shadowing override : Bool) : List NestedStmt :=
  if shadowing && override then [.nmiLoadShadow, .nmiReadInjection, .nmiLoadVmcs02] else []

inductive HypappCall where
  | flush (flags : U32)
  | switchEpt (ept12 : Option Pa) (eptp01 : U64) (flags : U32)

def HypappCall.stmt : HypappCall → NestedStmt
  | .flush flags => .flush flags
  | .switchEpt ept12 eptp01 flags => .switchEpt ept12 eptp01 (MEMP_FLUSHTLB_EPTP ||| flags)

/-- The parts of which the handling of an exit of L2 consists. -/
inductive ExitPart where
  /-- A guest NMI is handled, or the hypapp blocks or unblocks guest NMIs. -/
  | updateNmi (override : Bool)
  | violation (mem : Mem) (guest2Paddr qualification : U64) (calls : List HypappCall)
  | hypapp (call : HypappCall)

def ExitPart.code (shadowing : Bool) : ExitPart → List NestedStmt
  | .updateNmi override => updateNestedNmi shadowing override
  | .violation mem guest2Paddr qualification calls =>
    .block :: .violation mem guest2Paddr qualification :: calls.map HypappCall.stmt ++ [.unblock]
  | .hypapp call => [call.stmt]

inductive NestedPath where
  | vmxon
  | vmxoff
  | vmptrld (slot : Nat)
  /-- `VMCLEAR`, `VMPTRLD` and others access the shadow VMCS. -/
  | accessShadow
  | invept (ept12 : Option Pa)
  /-- `handle_vmentry`, with the calls of `_update_nested_nmi` at its end. -/
  | vmentry (ept12 : Option Pa) (overrides : List Bool)
  /-- A VM entry that fails, before or after the translation of the EPT pointer. -/
  | vmentryFails (ept12 : Option (Option Pa))
  | vmexit (parts : List ExitPart) (forwarded : Bool)

namespace NestedPath

def fromL2 : NestedPath → Bool
  | .vmexit _ _ => true
  | _ => false

def readShadow (shadowing : Bool) : List NestedStmt := if shadowing then [.loadShadow] else []

def code (shadowing : Bool) : NestedPath → List NestedStmt
  | .vmxon => [.vmxon]
  | .vmxoff => [.vmxoff]
  | .vmptrld slot => [.vmptrld slot]
  | .accessShadow => [.loadShadow, .loadVmcs01]
  | .invept ept12 => [.invept ept12]
  | .vmentry ept12 overrides =>
    readShadow shadowing ++ .block :: .loadVmcs02 :: .enter ept12 :: .unblock ::
      overrides.flatMap (updateNestedNmi shadowing)
  | .vmentryFails ept12 =>
    readShadow shadowing ++ .block :: .loadVmcs02 ::
      ept12.toList.map NestedStmt.enterFails ++ [.loadVmcs01, .unblock]
  | .vmexit parts forwarded =>
    parts.flatMap (ExitPart.code shadowing) ++
      if forwarded then
        .block :: .translateBack :: readShadow shadowing ++ [.loadVmcs01, .leave, .unblock]
      else []

end NestedPath

inductive L2Op where
  /-- L1 or L2 causes an exit, and its handler begins. -/
  | exit (path : NestedPath)
  | advance
  | nmi (flags : U32)

structure L2Cfg where
  cache : Ept02CacheCfg
  /-- The hardware has VMCS shadowing. -/
  vmcsShadowing : Bool

namespace L2Cpu

/-- No handler runs: the CPU runs L2 in L2 operation, and else L1. -/
def InGuest (s : L2Cpu) : Prop := s.flush.stage = .outside ∧ s.todo = []

instance (s : L2Cpu) : Decidable s.InGuest := inferInstanceAs (Decidable (_ ∧ _))

def step (cfg : L2Cfg) (s : L2Cpu) : L2Op → Option L2Cpu
  | .exit path =>
    if s.InGuest ∧ (path.fromL2 = true ↔ s.mode = .nonroot) then
      some { s with todo := path.code cfg.vmcsShadowing }
    else none
  | .advance => s.advance cfg.cache
  | .nmi flags => some (s.nmi cfg.cache flags)

end L2Cpu

def l2Machine (cfg : L2Cfg) : Machine L2Cpu L2Op where
  init s := s.flush = FlushCpu.start ∧ s.mode = .disabled ∧ s.loaded = .vmcs01 ∧
    (∀ i, (s.cache i).valid = 0) ∧ s.todo = [] ∧ s.found = none ∧ s.rewrites = []
  step := L2Cpu.step cfg

/-! ## Where the handlers stand -/

inductive VmcsKind where
  | vmcs01
  | vmcs02
  | shadow
  deriving DecidableEq

def VmcsKind.vmcs (current : Nat) : VmcsKind → LoadedVmcs
  | .vmcs01 => .vmcs01
  | .vmcs02 => .vmcs02 current
  | .shadow => .shadow current

structure Place where
  nonroot : Bool
  loaded : VmcsKind
  blocked : Bool
  deriving DecidableEq

namespace Place

def settled (a : Place) : Bool := !a.nonroot || a.loaded = .vmcs02

def inL1 : Place := ⟨false, .vmcs01, false⟩
def inL2 : Place := ⟨true, .vmcs02, false⟩

end Place

/-- The place after a statement, none where the statement does not belong. -/
def NestedStmt.after (a : Place) : NestedStmt → Option Place
  | .loadVmcs01 => if a.blocked || !a.nonroot then some { a with loaded := .vmcs01 } else none
  | .loadShadow => if a.blocked || !a.nonroot then some { a with loaded := .shadow } else none
  | .loadVmcs02 => if a.blocked then some { a with loaded := .vmcs02 } else none
  | .nmiLoadShadow =>
    if a.nonroot && a.settled && !a.blocked then some { a with loaded := .shadow } else none
  | .nmiReadInjection =>
    if a.nonroot && a.loaded = .shadow && !a.blocked then some a else none
  | .nmiLoadVmcs02 =>
    if a.nonroot && a.loaded = .shadow && !a.blocked then some { a with loaded := .vmcs02 }
    else none
  | .block => if a.settled && !a.blocked then some { a with blocked := true } else none
  | .unblock => if a.settled && a.blocked then some { a with blocked := false } else none
  | .enter _ =>
    if !a.nonroot && a.loaded = .vmcs02 && a.blocked then some { a with nonroot := true }
    else none
  | .enterFails _ => if !a.nonroot && a.loaded = .vmcs02 && a.blocked then some a else none
  | .translateBack => if a.nonroot && a.settled && a.blocked then some a else none
  | .leave => if a.nonroot && a.blocked then some { a with nonroot := false } else none
  | .vmxon | .vmxoff | .invept _ => if !a.nonroot && !a.blocked then some a else none
  | .vmptrld _ =>
    if !a.nonroot && a.loaded = .vmcs01 && !a.blocked then some a else none
  | .violation _ _ _ => if a.nonroot && a.settled && a.blocked then some a else none
  | .switchEpt _ _ flags =>
    if a.nonroot && a.settled && flushRewalks flags then some a else none
  | .flush _ => if a.nonroot && a.settled then some a else none

/-- The statements belong where they stand, and a guest runs at their end. -/
def Follows (a : Place) (stmts : List NestedStmt) : Prop :=
  ∃ b, stmts.foldlM NestedStmt.after a = some b ∧ (b = .inL1 ∨ b = .inL2)

theorem Follows.cons {a : Place} {stmt : NestedStmt} {stmts : List NestedStmt}
    (follows : Follows a (stmt :: stmts)) : ∃ b, stmt.after a = some b ∧ Follows b stmts := by
  obtain ⟨last, run, guest⟩ := follows
  rw [List.foldlM_cons] at run
  obtain ⟨b, after, rest⟩ := Option.bind_eq_some_iff.mp run
  exact ⟨b, after, last, rest, guest⟩

theorem foldlM_after_flatMap {α : Type} {a : Place} {code : α → List NestedStmt}
    (returns : ∀ x, (code x).foldlM NestedStmt.after a = some a) (l : List α) :
    (l.flatMap code).foldlM NestedStmt.after a = some a := by
  induction l with
  | nil => rfl
  | cons x l ih =>
    rw [List.flatMap_cons, List.foldlM_append, returns x]
    exact ih

theorem updateNestedNmi_returns (shadowing override : Bool) :
    (updateNestedNmi shadowing override).foldlM NestedStmt.after .inL2 = some .inL2 := by
  cases shadowing <;> cases override <;> rfl

theorem flushRewalks_or (a b : U32) :
    flushRewalks (a ||| b) = (flushRewalks a || flushRewalks b) := by
  unfold flushRewalks
  generalize MEMP_FLUSHTLB_EPTP ||| MEMP_FLUSHTLB_ENTRY = mask
  have split : (a ||| b) &&& mask = 0 ↔ a &&& mask = 0 ∧ b &&& mask = 0 := by
    rw [BitVec.and_comm, BitVec.and_or_distrib_left, BitVec.and_comm mask a, BitVec.and_comm mask b]
    exact BitVec.or_eq_zero_iff
  rw [Bool.eq_iff_iff, Bool.or_eq_true, decide_eq_true_iff, decide_eq_true_iff,
    decide_eq_true_iff, Ne, split]
  tauto

theorem HypappCall.after_stmt (call : HypappCall) {a : Place} (l2 : a.nonroot = true)
    (settled : a.settled = true) : call.stmt.after a = some a := by
  cases call with
  | flush flags => simp [HypappCall.stmt, NestedStmt.after, l2, settled]
  | switchEpt ept12 eptp01 flags =>
    have rewalks : flushRewalks (MEMP_FLUSHTLB_EPTP ||| flags) = true := by
      rw [flushRewalks_or]
      rfl
    simp [HypappCall.stmt, NestedStmt.after, l2, settled, rewalks]

theorem ExitPart.returns (shadowing : Bool) (part : ExitPart) :
    (part.code shadowing).foldlM NestedStmt.after .inL2 = some .inL2 := by
  cases part with
  | updateNmi override => exact updateNestedNmi_returns shadowing override
  | violation mem guest2Paddr qualification calls =>
    have inside : (calls.map HypappCall.stmt).foldlM NestedStmt.after ⟨true, .vmcs02, true⟩ =
        some ⟨true, .vmcs02, true⟩ := by
      induction calls with
      | nil => rfl
      | cons call calls ih =>
        rw [List.map_cons, List.foldlM_cons, call.after_stmt rfl rfl]
        exact ih
    change (calls.map HypappCall.stmt ++ [NestedStmt.unblock]).foldlM NestedStmt.after
      ⟨true, .vmcs02, true⟩ = _
    rw [List.foldlM_append, inside]
    rfl
  | hypapp call =>
    rw [ExitPart.code, List.foldlM_cons, call.after_stmt rfl rfl]
    rfl

def NestedPath.start (path : NestedPath) : Place := if path.fromL2 then .inL2 else .inL1

theorem NestedPath.follows (shadowing : Bool) (path : NestedPath) :
    Follows path.start (path.code shadowing) := by
  cases path with
  | vmxon | vmxoff | vmptrld slot | accessShadow | invept ept12 => exact ⟨_, rfl, .inl rfl⟩
  | vmentry ept12 overrides =>
    have updates := foldlM_after_flatMap (updateNestedNmi_returns shadowing) overrides
    refine ⟨.inL2, ?_, .inr rfl⟩
    cases shadowing <;> exact updates
  | vmentryFails ept12 =>
    refine ⟨.inL1, ?_, .inl rfl⟩
    cases shadowing <;> cases ept12 <;> rfl
  | vmexit parts forwarded =>
    have handled := foldlM_after_flatMap (ExitPart.returns shadowing) parts
    rw [Follows, NestedPath.code]
    simp only [List.foldlM_append]
    change ∃ b, (List.foldlM NestedStmt.after .inL2 _ >>= _) = some b ∧ _
    rw [handled]
    cases forwarded with
    | false => exact ⟨.inL2, rfl, .inr rfl⟩
    | true =>
      refine ⟨.inL1, ?_, .inl rfl⟩
      cases shadowing <;> rfl

end Xmhf
