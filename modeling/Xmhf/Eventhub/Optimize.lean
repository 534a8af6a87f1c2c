import Xmhf.Eventhub.Intercept

/-!
# The optimized intercept handler

`_optimize_x86vmx_intercept_handler` against the general path. For every exit that it
handles, `optimized_exit_same_iff` gives the exact condition under which both end in the same
VMCS, registers and memory. The condition is about the fields that the handler uses but
does not read (CR4 and the error code of an injected exception), about those that it does not
write back (an injected exception), and about two checks of the general path that it leaves out
(whether all cores run, and whether an event was being delivered).
-/

namespace Xmhf

open Option (bind_eq_some_iff bind_some map_some)

open Writeback

variable {η ψ : Type}

/-! ## The fast paths -/

/-- The exits that are optimized. -/
inductive FastExit where
  | wrmsr
  | cpuid
  | lapicViolation
  | debug
  | vmread
  | vmwrite
  deriving DecidableEq, Repr

/-- The `switch` of the optimized handler. -/
def fastExit (env : InterceptEnv η ψ) (hw : Vmcs) (g : GuestCpu η ψ) : Option FastExit :=
  let reason : U32 := hw .infoVmexitReason
  if reason = VMX_VMEXIT_WRMSR then
    -- "Only optimize WRMSR for some MSRs"
    if g.vmx.regs.low .rcx = IA32_TSC_DEADLINE ∨ g.vmx.regs.low .rcx = IA32_X2APIC_EOI then
      some .wrmsr
    else none
  else if reason = VMX_VMEXIT_CPUID then some .cpuid
  else if reason = VMX_VMEXIT_EPT_VIOLATION then
    if env.isbsp ∧ inLapicPage env.msr.pf (hw .guestPaddr) then some .lapicViolation else none
  else if reason = VMX_VMEXIT_EXCEPTION then
    if isDebugException hw then some .debug else none
  else if env.msr.nested ∧ reason = VMX_VMEXIT_VMREAD then some .vmread
  else if env.msr.nested ∧ reason = VMX_VMEXIT_VMWRITE then some .vmwrite
  else none

/-- What `VMREAD` and `VMWRITE` read with `_OPT_VMREAD`. -/
def vmrwReads : List VmcsField :=
  [.infoVmexitReason, .guestCSSelector, .controlEPTPointer, .controlVMEntryControls,
    .infoVmexitInstructionLength, .infoVmxInstructionInformation, .controlCR0Mask,
    .controlCR0Shadow, .infoExitQualification, .guestCR0, .guestCR3, .guestESBase, .guestCSBase,
    .guestSSBase, .guestDSBase, .guestFSBase, .guestGSBase, .guestESLimit, .guestCSLimit,
    .guestSSLimit, .guestDSLimit, .guestFSLimit, .guestGSLimit, .guestESAccessRights,
    .guestCSAccessRights, .guestSSAccessRights, .guestDSAccessRights, .guestFSAccessRights,
    .guestGSAccessRights, .guestRSP, .guestRIP, .guestRFLAGS,
    .controlVMEntryInterruptionInformation]

namespace FastExit

/-- The fields read with `_OPT_VMREAD`. -/
def reads : FastExit → List VmcsField
  | .wrmsr | .cpuid => [.infoVmexitReason, .guestRIP, .infoVmexitInstructionLength]
  | .lapicViolation =>
    [.infoVmexitReason, .guestPaddr, .infoExitQualification, .controlExceptionBitmap,
      .guestInterruptibility, .guestRFLAGS, .controlEPTPointer]
  | .debug =>
    [.infoVmexitReason, .infoVmexitInterruptInformation, .guestCSSelector, .guestRIP,
      .controlExceptionBitmap, .guestInterruptibility, .guestRFLAGS, .controlEPTPointer]
  | .vmread | .vmwrite => vmrwReads

/-- The fields written with `_OPT_VMWRITE`. -/
def writesBack : FastExit → List VmcsField
  | .wrmsr | .cpuid => [.guestRIP]
  | .lapicViolation | .debug =>
    [.controlExceptionBitmap, .guestInterruptibility, .guestRFLAGS]
  | .vmread | .vmwrite =>
    [.controlVMEntryInterruptionInformation, .controlVMEntryExceptionErrorcode, .guestRSP,
      .guestRIP, .guestRFLAGS]

def handler (env : InterceptEnv η ψ) (vmcs : Vmcs) (g : GuestCpu η ψ) :
    FastExit → Option (Vmcs × GuestCpu η ψ)
  | .wrmsr => interceptWrmsr env vmcs g
  | .cpuid => interceptCpuid env vmcs g
  | .lapicViolation => interceptEptviolation env vmcs g
  | .debug => interceptDebug env vmcs g
  | .vmread => interceptVmread env vmcs g
  | .vmwrite => interceptVmwrite env vmcs g

/-- `vcpu->vmcs` when the handler starts. -/
def cached (exit : FastExit) (hw copy : Vmcs) : Vmcs :=
  refresh (fun f => decide (f ∈ exit.reads)) hw copy

def written (exit : FastExit) (hw vmcs : Vmcs) : Vmcs :=
  putBack (fun f => decide (f ∈ exit.writesBack)) hw vmcs

end FastExit

/-- `_optimize_x86vmx_intercept_handler`; `some none` says that the exit is not optimized. -/
def interceptOptimized (env : InterceptEnv η ψ) (hw copy : Vmcs) (g : GuestCpu η ψ) :
    Option (Option (Vmcs × GuestCpu η ψ)) :=
  match fastExit env hw g with
  | none => some none
  | some exit =>
    (exit.handler env (exit.cached hw copy) g).map fun (vmcs, g) =>
      some (exit.written hw vmcs, g)

/-! ## The condition -/

/-- A transfer to or from memory has the same effect whether the guest's paging is told from
the CR4 that an earlier exit has left in the copy or from its CR4. -/
def SameTransfer (transfer : VmrwTransfer) (env : NestedEnv) (hw copy : Vmcs) (s : VmxGuest)
    (size : Nat) (encoding gva : U64) : Prop :=
  ∀ r, transfer env (copy .guestCR4) hw s size encoding (.mem gva) = some r →
    transfer env (hw .guestCR4) hw s size encoding (.mem gva) = some r

/-- For `VMREAD` and `VMWRITE`: unless an exception is injected, the error code that is
written back must be the one in the VMCS. -/
def VmrwFits (transfer : VmrwTransfer) (env : NestedEnv) (hw copy : Vmcs) (s : VmxGuest) :
    VmrwPlan → Prop
  | .exception _ _ => True
  | .failInvalid | .failValid _ =>
    copy .controlVMEntryExceptionErrorcode = hw .controlVMEntryExceptionErrorcode
  | .transfer size encoding operand =>
    copy .controlVMEntryExceptionErrorcode = hw .controlVMEntryExceptionErrorcode ∧
      ∀ gva, operand = .mem gva → SameTransfer transfer env hw copy s size encoding gva

/-- The hypapp handles a violation alike with the copy that the optimized handler gives it
and with the VMCS, and changes no field that the optimized handler does not write back. -/
def AppAlike (env : InterceptEnv η ψ) (hw copy : Vmcs) (g : GuestCpu η ψ) : Prop :=
  let exit := FastExit.lapicViolation
  let app (vmcs : Vmcs) := env.appViolation vmcs g (hw .guestPaddr)
    (vmcs .infoGuestLinearAddress) (hw .infoExitQualification &&& 7)
  ∀ v₁ g₁, app (exit.cached hw copy) = some (v₁, g₁) →
    ∃ v₂, app (getVMCS env.vmxCaps hw copy) = some (v₂, g₁) ∧ v₂.idtVectoring = false ∧
      ∀ f, f.decl.exist env.vmxCaps = true → f.decl.writable = true →
        v₂ f = if f ∈ exit.writesBack then v₁ f else hw f

/-- With all CPUs started, the handler of the debug exception finds nothing to do. -/
def DebugIdle (env : InterceptEnv η ψ) (hw : Vmcs) (g : GuestCpu η ψ) : Prop :=
  interceptDebug env hw g = some (hw, g)

/-- When the optimized handler does the same as the general path. -/
def FastExit.Fits (env : InterceptEnv η ψ) (hw copy : Vmcs) (g : GuestCpu η ψ) : FastExit → Prop
  | .wrmsr =>
    hw.idtVectoring = false ∧
      -- the write succeeds, or the #GP that is lost is in the VMCS already
      ((env.msr.hardware.wrmsr g.msr.phys (g.vmx.regs.low .rcx)
          (wrmsrValue g.vmx.regs)).isSome = true ∨
        hw.injectException CPU_EXCEPTION_GP true 0 = hw)
  | .cpuid =>
    hw.idtVectoring = false ∧ ((env.cpuid.app g.vmx.regs g.app).1 = .chain →
        (cpuidEnabled env.cpuid copy.guestCr4).AgreeOn (g.vmx.regs.low .rax)
          (g.vmx.regs.low .rcx) (cpuidEnabled env.cpuid hw.guestCr4))
  | .lapicViolation =>
    if g.msr.ept01.allCoresBootedUp then AppAlike env hw copy g else hw.idtVectoring = false
  | .debug =>
    hw.idtVectoring = false ∧ (g.msr.ept01.allCoresBootedUp = true → DebugIdle env hw g)
  | .vmread =>
    hw.idtVectoring = false ∧
      ∀ plan, vmrwPlan (env.nestedEnv g) hw g.vmx hptProtWriteMask vmreadRefuse = some plan →
        VmrwFits vmreadTransfer (env.nestedEnv g) hw copy g.vmx plan
  | .vmwrite =>
    hw.idtVectoring = false ∧
      ∀ plan, vmrwPlan (env.nestedEnv g) hw g.vmx hptProtReadMask vmwriteRefuse = some plan →
        VmrwFits vmwriteTransfer (env.nestedEnv g) hw copy g.vmx plan

/-! ## Round trips -/

section

variable {env : InterceptEnv η ψ} {hw copy : Vmcs} {g g₁ g₂ : GuestCpu η ψ} {exit : FastExit}
  {f : VmcsField} {vmxCaps : VmxCtls}
  {ws : List (Sigma fun f : VmcsField => BitVec f.bits)}

theorem cached_read (read : f ∈ exit.reads) : exit.cached hw copy f = hw f :=
  refresh_fresh (decide_eq_true read)

theorem cached_stale (stale : f ∉ exit.reads) : exit.cached hw copy f = copy f :=
  refresh_stale (decide_eq_false stale)

theorem getVMCS_exist (exist : f.decl.exist vmxCaps = true) : getVMCS vmxCaps hw copy f = hw f :=
  refresh_fresh exist

theorem reads_exist (ept : vmxCaps.has .enableEpt = true) :
    ∀ f ∈ exit.reads, f.decl.exist vmxCaps = true := by
  cases exit <;> simp [FastExit.reads, vmrwReads, hasAny, always, ept]

theorem getVMCS_read (ept : vmxCaps.has .enableEpt = true) (read : f ∈ exit.reads) :
    getVMCS vmxCaps hw copy f = hw f :=
  getVMCS_exist (reads_exist ept f read)

theorem writesBack_put (vmxCaps : VmxCtls) :
    ∀ f ∈ exit.writesBack, (f.decl.exist vmxCaps && f.decl.writable) = true := by
  cases exit <;> simp [FastExit.writesBack, always]

def FastExit.Taken (env : InterceptEnv η ψ) (hw : Vmcs) (g : GuestCpu η ψ) : FastExit → Prop
  | .wrmsr =>
    hw .infoVmexitReason = VMX_VMEXIT_WRMSR ∧
      (g.vmx.regs.low .rcx = IA32_TSC_DEADLINE ∨ g.vmx.regs.low .rcx = IA32_X2APIC_EOI)
  | .cpuid => hw .infoVmexitReason = VMX_VMEXIT_CPUID
  | .lapicViolation =>
    hw .infoVmexitReason = VMX_VMEXIT_EPT_VIOLATION ∧ env.isbsp = true ∧
      inLapicPage env.msr.pf (hw .guestPaddr) = true
  | .debug => hw .infoVmexitReason = VMX_VMEXIT_EXCEPTION ∧ isDebugException hw = true
  | .vmread => hw .infoVmexitReason = VMX_VMEXIT_VMREAD ∧ env.msr.nested = true
  | .vmwrite => hw .infoVmexitReason = VMX_VMEXIT_VMWRITE ∧ env.msr.nested = true

theorem fastExit_taken (chosen : fastExit env hw g = some exit) : exit.Taken env hw g := by
  unfold fastExit at chosen
  dsimp only at chosen
  split at chosen
  · next reason =>
    split at chosen <;> cases chosen
    next index => exact ⟨reason, index⟩
  split at chosen
  · next reason =>
    cases chosen
    exact reason
  split at chosen
  · next reason =>
    split at chosen <;> cases chosen
    next lapic => exact ⟨reason, lapic⟩
  split at chosen
  · next reason =>
    split at chosen <;> cases chosen
    next debug => exact ⟨reason, debug⟩
  split at chosen
  · next vmread =>
    cases chosen
    exact vmread.symm
  split at chosen
  · next vmwrite =>
    cases chosen
    exact vmwrite.symm
  · cases chosen

section

variable (taken : exit.Taken env hw g)

include taken

theorem FastExit.Taken.entered : (hw .infoVmexitReason).getLsbD 31 = false := by
  cases exit with
  | cpuid => rw [show hw .infoVmexitReason = _ from taken]; rfl
  | wrmsr | lapicViolation | debug | vmread | vmwrite => rw [taken.1]; rfl

theorem interceptGeneral_eq : interceptGeneral env hw copy g =
      (handleExit env (getVMCS env.vmxCaps hw copy) g).bind fun (vmcs, g) =>
        if vmcs.idtVectoring then none else some (putVMCS env.vmxCaps hw vmcs, g) := by
  have reason : getVMCS env.vmxCaps hw copy .infoVmexitReason = hw .infoVmexitReason :=
    getVMCS_exist rfl
  unfold interceptGeneral
  dsimp only
  rw [reason, taken.entered]
  rfl

theorem interceptGeneral_writes
    (ran : handleExit env (getVMCS env.vmxCaps hw copy) g = some
      (writes ws (getVMCS env.vmxCaps hw copy), g₁))
    (put : ∀ f ∈ ws.map Sigma.fst, (f.decl.exist env.vmxCaps && f.decl.writable) = true) :
    interceptGeneral env hw copy g =
      if hw.idtVectoring then none else some (writes ws hw, g₁) := by
  have untouched : VmcsField.infoIDTVectoringInformation ∉ ws.map Sigma.fst :=
    fun touched => Bool.false_ne_true (put _ touched)
  have vectoring : Vmcs.idtVectoring (writes ws (getVMCS env.vmxCaps hw copy)) =
      hw.idtVectoring := by
    unfold Vmcs.idtVectoring
    rw [writes_other untouched, getVMCS_exist rfl]
  have trip : putVMCS env.vmxCaps hw (writes ws (getVMCS env.vmxCaps hw copy)) = writes ws hw :=
    putBack_writes_refresh put fun f back => (Bool.and_eq_true_iff.mp back).1
  rw [interceptGeneral_eq taken, ran, bind_some]
  dsimp only
  rw [vectoring, trip]

theorem roundTrip_iff
    (ran : handleExit env (getVMCS env.vmxCaps hw copy) g = some
      (writes ws (getVMCS env.vmxCaps hw copy), g₂))
    (covered : ∀ f ∈ ws.map Sigma.fst, f ∈ exit.writesBack) :
    interceptGeneral env hw copy g = some (exit.written hw (writes ws (exit.cached hw copy)), g₁) ↔
      hw.idtVectoring = false ∧
        (∀ f ∈ exit.writesBack, f ∉ ws.map Sigma.fst → exit.cached hw copy f = hw f) ∧
        g₂ = g₁ := by
  have trip : exit.written hw (writes ws (exit.cached hw copy)) = writes ws hw ↔
      ∀ f, decide (f ∈ exit.writesBack) = true → f ∉ ws.map Sigma.fst →
        exit.cached hw copy f = hw f :=
    putBack_writes_iff fun f touched => decide_eq_true (covered f touched)
  simp only [decide_eq_true_eq] at trip
  rw [interceptGeneral_writes taken ran fun f touched => writesBack_put _ f (covered f touched),
    ← trip]
  cases hw.idtVectoring with
  | true => simp
  | false => simp [eq_comm]

omit taken in
theorem written_current
    (covered : ∀ f ∈ ws.map Sigma.fst, f ∈ exit.writesBack)
    (read : ∀ f ∈ exit.writesBack, f ∈ exit.reads) :
    exit.written hw (writes ws (exit.cached hw copy)) = writes ws hw :=
  (putBack_writes_iff fun f touched => decide_eq_true (covered f touched)).mpr
    fun f back _ => cached_read (read f (of_decide_eq_true back))

theorem roundTrip_current
    (ran : handleExit env (getVMCS env.vmxCaps hw copy) g = some
      (writes ws (getVMCS env.vmxCaps hw copy), g₂))
    (covered : ∀ f ∈ ws.map Sigma.fst, f ∈ exit.writesBack)
    (read : ∀ f ∈ exit.writesBack, f ∈ exit.reads) :
    interceptGeneral env hw copy g = some (exit.written hw (writes ws (exit.cached hw copy)), g₁) ↔
      hw.idtVectoring = false ∧ g₂ = g₁ := by
  have current : ∀ f ∈ exit.writesBack, f ∉ ws.map Sigma.fst → exit.cached hw copy f = hw f :=
    fun f back _ => cached_read (read f back)
  rw [roundTrip_iff taken ran covered]
  exact and_congr_right' (and_iff_right current)

/-! ## Dispatch -/

theorem handleExit_handler (other : exit = .debug → g.msr.ept01.allCoresBootedUp = false) :
    handleExit env (getVMCS env.vmxCaps hw copy) g =
      exit.handler env (getVMCS env.vmxCaps hw copy) g := by
  have reason : getVMCS env.vmxCaps hw copy .infoVmexitReason = hw .infoVmexitReason :=
    getVMCS_exist rfl
  have vector : isDebugException (getVMCS env.vmxCaps hw copy) = isDebugException hw :=
    congrArg (fun info : U32 => info &&& 0xff == 1)
      (getVMCS_exist rfl)
  unfold handleExit
  rw [reason]
  cases exit with
  | wrmsr | lapicViolation => rw [taken.1]; rfl
  | cpuid => rw [show hw .infoVmexitReason = _ from taken]; rfl
  | debug =>
    rw [taken.1, vector, taken.2, other rfl]
    rfl
  | vmread | vmwrite =>
    rw [taken.1, taken.2]
    rfl

end

theorem handleExit_debug_booted (taken : FastExit.debug.Taken env hw g)
    (booted : g.msr.ept01.allCoresBootedUp = true)
    (hardware : hw .infoVmexitInterruptInformation &&& 0x700 = 0x300) :
    handleExit env (getVMCS env.vmxCaps hw copy) g = some (getVMCS env.vmxCaps hw copy, g) := by
  have info : getVMCS env.vmxCaps hw copy .infoVmexitInterruptInformation =
      hw .infoVmexitInterruptInformation := getVMCS_exist rfl
  have vector : isDebugException (getVMCS env.vmxCaps hw copy) = true := by
    unfold isDebugException
    rw [info]
    exact taken.2
  unfold handleExit
  rw [getVMCS_exist rfl, taken.1, info, vector, booted, if_pos hardware]
  rfl

/-! ## `WRMSR` and `CPUID` -/

theorem advance_eq_writes {vmcs : Vmcs} {rip : U64} {length : U32} (at_ : vmcs .guestRIP = rip)
    (long : vmcs .infoVmexitInstructionLength = length) :
    vmcs.advance = writes [⟨.guestRIP, rip + length.setWidth 64⟩] vmcs := by
  unfold Vmcs.advance
  rw [at_, long]
  rfl

def injectWrites (vector : U32) (hasEc : Bool) (errcode : U32) :
    List (Sigma fun f : VmcsField => BitVec f.bits) :=
  [⟨.controlVMEntryInterruptionInformation,
      vector ||| 0x300 ||| (if hasEc then 0x800 else 0) ||| 0x80000000⟩,
    ⟨.controlVMEntryExceptionErrorcode, errcode⟩]

theorem injectException_eq_writes (vmcs : Vmcs) (vector : U32) (hasEc : Bool) (errcode : U32) :
    vmcs.injectException vector hasEc errcode = writes (injectWrites vector hasEc errcode) vmcs :=
  rfl

theorem interceptWrmsr_eq (vmcs : Vmcs)
    (index : g.vmx.regs.low .rcx = IA32_TSC_DEADLINE ∨ g.vmx.regs.low .rcx = IA32_X2APIC_EOI) :
    interceptWrmsr env vmcs g = some
      (match env.msr.hardware.wrmsr g.msr.phys (g.vmx.regs.low .rcx) (wrmsrValue g.vmx.regs) with
      | some phys => (vmcs.advance, { g with msr := { g.msr with phys } })
      | none => (vmcs.injectException CPU_EXCEPTION_GP true 0, g)) := by
  have passes := @passed_write η env.msr vmcs g.msr (g.vmx.regs.low .rcx)
    (by rcases index with h | h <;> rw [h] <;> decide)
    (by rcases index with h | h <;> rw [h] <;> cases env.msr.nested <;> decide)
    (by rcases index with h | h <;> rw [h] <;> decide)
    (by rcases index with h | h <;> rw [h] <;> decide) (wrmsrValue g.vmx.regs)
  unfold interceptWrmsr
  dsimp only
  rw [passes]
  have field : ∀ value, vmcsOfMsr vmcs (g.vmx.regs.low .rcx) value = none := by
    intro value
    rcases index with h | h <;> rw [h] <;> rfl
  have entry : getXmhfMsr (g.vmx.regs.low .rcx) = none := by
    rcases index with h | h <;> rw [h] <;> rfl
  simp only [guestMsr, field, entry, map_some]
  cases env.msr.hardware.wrmsr g.msr.phys (g.vmx.regs.low .rcx) (wrmsrValue g.vmx.regs) <;> rfl

theorem handled_run {r : Vmcs × GuestCpu η ψ} (chosen : fastExit env hw g = some exit)
    (handled : interceptOptimized env hw copy g = some (some r)) :
    ∃ v₁ g₁, exit.handler env (exit.cached hw copy) g = some (v₁, g₁) ∧
      r = (exit.written hw v₁, g₁) := by
  unfold interceptOptimized at handled
  rw [chosen] at handled
  dsimp only at handled
  generalize run : exit.handler env (exit.cached hw copy) g = result at handled
  cases result with
  | none =>
    cases handled
  | some result =>
    cases handled
    exact ⟨result.1, result.2, rfl, rfl⟩

theorem wrmsr_same_iff {r : Vmcs × GuestCpu η ψ} (taken : FastExit.wrmsr.Taken env hw g)
    (run : FastExit.wrmsr.handler env (FastExit.wrmsr.cached hw copy) g = some r) :
    interceptGeneral env hw copy g = some (FastExit.wrmsr.written hw r.1, r.2) ↔
      FastExit.wrmsr.Fits env hw copy g := by
  have general : handleExit env (getVMCS env.vmxCaps hw copy) g = _ :=
    (handleExit_handler taken nofun).trans (interceptWrmsr_eq _ taken.2)
  have fast := run.symm.trans (interceptWrmsr_eq _ taken.2)
  unfold FastExit.Fits
  cases write : env.msr.hardware.wrmsr g.msr.phys (g.vmx.regs.low .rcx) (wrmsrValue g.vmx.regs) with
  | some phys =>
    rw [write] at general fast
    cases fast
    rw [advance_eq_writes (getVMCS_exist rfl)
      (getVMCS_exist rfl)] at general
    rw [advance_eq_writes (cached_read (by decide))
      (cached_read (by decide)),
      roundTrip_current taken general (by simp [FastExit.writesBack]) (by decide)]
    simp
  | none =>
    rw [write] at general fast
    cases fast
    -- the fast path puts RIP back, which the injection leaves alone
    have lost : FastExit.wrmsr.written hw
        ((FastExit.wrmsr.cached hw copy).injectException CPU_EXCEPTION_GP true 0) = hw := by
      funext f
      unfold FastExit.written putBack
      split
      · next back =>
        have rip : f = .guestRIP := by simpa [FastExit.writesBack] using back
        subst rip
        exact @cached_read hw copy .wrmsr .guestRIP (by decide)
      · rfl
    have full : interceptGeneral env hw copy g = if hw.idtVectoring then none
        else some (writes (injectWrites CPU_EXCEPTION_GP true 0) hw, g) :=
      interceptGeneral_writes taken general (by simp [injectWrites, always])
    rw [full, lost]
    cases hw.idtVectoring with
    | true => simp
    | false => simp [injectException_eq_writes]

theorem cached_guestCr4 : (FastExit.cpuid.cached hw copy).guestCr4 = copy.guestCr4 := by
  unfold Vmcs.guestCr4
  rw [cached_stale (by decide), cached_stale
    (by decide), cached_stale (by decide)]

theorem getVMCS_guestCr4 : (getVMCS vmxCaps hw copy).guestCr4 = hw.guestCr4 := by
  unfold Vmcs.guestCr4
  rw [getVMCS_exist rfl, getVMCS_exist rfl,
    getVMCS_exist rfl]

theorem cpuid_same_iff {r : Vmcs × GuestCpu η ψ} (taken : FastExit.cpuid.Taken env hw g)
    (run : FastExit.cpuid.handler env (FastExit.cpuid.cached hw copy) g = some r) :
    interceptGeneral env hw copy g = some (FastExit.cpuid.written hw r.1, r.2) ↔
      FastExit.cpuid.Fits env hw copy g := by
  have general : handleExit env (getVMCS env.vmxCaps hw copy) g = interceptCpuid env _ g :=
    handleExit_handler taken nofun
  change interceptCpuid env _ g = some r at run
  unfold interceptCpuid handleCpuid at run general
  rw [cached_guestCr4, advance_eq_writes (cached_read (by decide))
    (cached_read (by decide))] at run
  rw [getVMCS_guestCr4, advance_eq_writes (getVMCS_exist rfl)
    (getVMCS_exist rfl)] at general
  have current : ∀ f ∈ FastExit.cpuid.writesBack, f ∈ FastExit.cpuid.reads := by decide
  unfold FastExit.Fits
  generalize env.cpuid.app g.vmx.regs g.app = answer at run general ⊢
  rcases answer with ⟨status, regs, app⟩
  cases status with
  | bad => cases run
  | skip =>
    cases run
    rw [roundTrip_current taken general (by simp [FastExit.writesBack]) current]
    simp
  | chain =>
    cases run
    rw [roundTrip_current taken general (by simp [FastExit.writesBack]) current]
    apply and_congr_right'
    rw [← cpuidLimits_eq_iff env.cpuid env.msr.nested _ _ _ _ (regs.cpuidRaw env.cpuid)]
    simp [eq_comm]

/-! ## The LAPIC -/

section

variable {vmcs : Vmcs}

def singleStepWrites (vmcs : Vmcs) : List (Sigma fun f : VmcsField => BitVec f.bits) :=
  [⟨.guestRFLAGS, (vmcs .guestRFLAGS ||| EFLAGS_TF) &&& ~~~EFLAGS_IF⟩,
    ⟨.guestInterruptibility, vmcs .guestInterruptibility ||| VMX_GUEST_INTR_BLOCK_NMI⟩,
    ⟨.controlExceptionBitmap, 0xffffffff⟩]

def endSingleStepWrites (vmcs : Vmcs) (l : LapicState) :
    List (Sigma fun f : VmcsField => BitVec f.bits) :=
  [⟨.guestRFLAGS, (vmcs .guestRFLAGS &&& ~~~EFLAGS_IF &&& ~~~EFLAGS_TF) |||
      l.guestEflagsTfifmask.setWidth 64⟩,
    ⟨.guestInterruptibility,
      (vmcs .guestInterruptibility &&& ~~~VMX_GUEST_INTR_BLOCK_NMI) ||| l.guestIntrNmimask⟩,
    ⟨.controlExceptionBitmap, l.exceptionBitmap⟩]

theorem interceptEptviolation_lapic (starting : g.msr.ept01.allCoresBootedUp = false)
    (taken : FastExit.lapicViolation.Taken env hw g)
    (agree : ∀ f ∈ FastExit.lapicViolation.reads, vmcs f = hw f) :
    interceptEptviolation env vmcs g = some (writes (singleStepWrites hw) vmcs,
      { g with
        msr := (hwpgtblviolation env.msr.pf hw g.msr g.lapic (hw .guestPaddr)
          (hw .infoExitQualification)).2.1
        lapic := (hwpgtblviolation env.msr.pf hw g.msr g.lapic (hw .guestPaddr)
          (hw .infoExitQualification)).2.2 }) := by
  have paddr := agree .guestPaddr (by decide)
  have qualification := agree .infoExitQualification (by decide)
  have rflags := agree .guestRFLAGS (by decide)
  have blocking := agree .guestInterruptibility (by decide)
  have bitmap := agree .controlExceptionBitmap (by decide)
  unfold interceptEptviolation
  rw [paddr, if_pos ⟨taken.2.1, by rw [starting]; rfl, taken.2.2⟩, qualification]
  unfold hwpgtblviolation Vmcs.singleStep
  rw [rflags, blocking, bitmap]
  rfl

theorem interceptDebug_eq (agree : ∀ f ∈ FastExit.debug.reads, vmcs f = hw f) :
    interceptDebug env vmcs g = (interceptDebug env hw g).map fun (_, g₁) =>
      (writes (endSingleStepWrites hw g₁.lapic) vmcs, g₁) := by
  have info := agree .infoVmexitInterruptInformation (by decide)
  have rflags := agree .guestRFLAGS (by decide)
  have blocking := agree .guestInterruptibility (by decide)
  unfold interceptDebug dbexception Vmcs.endSingleStep
  rw [info, rflags, blocking]
  split
  · cases takeIpi env.msr.pf env.msr.vcpuId g.vmx.ram g.msr g.lapic with
    | none => rfl
    | some taken =>
      rcases taken with ⟨delink, cpu, l⟩
      dsimp only [bind_some]
      cases lapicDbexception env.msr.pf cpu.ept01
        (virtualLapic env.msr.pf g.vmx.ram cpu.ept01.lapicReg) delink <;> rfl
  · rfl

theorem putVMCS_eq_written_iff {v₁ v₂ : Vmcs} :
    putVMCS vmxCaps hw v₂ = exit.written hw v₁ ↔
      ∀ f, f.decl.exist vmxCaps = true → f.decl.writable = true →
        v₂ f = if f ∈ exit.writesBack then v₁ f else hw f := by
  unfold putVMCS FastExit.written putBack
  constructor
  · intro same f exist writable
    have field := congrFun same f
    simpa [exist, writable] using field
  · intro fields
    funext f
    simp only [decide_eq_true_eq]
    split
    · next put =>
      rcases Bool.and_eq_true_iff.mp put with ⟨exist, writable⟩
      exact fields f exist writable
    · next kept => rw [if_neg fun back => kept (writesBack_put vmxCaps f back)]

theorem interceptGeneral_eq_some_iff {w : Vmcs} (taken : exit.Taken env hw g) :
    interceptGeneral env hw copy g = some (w, g₁) ↔
      ∃ v₂, handleExit env (getVMCS env.vmxCaps hw copy) g = some (v₂, g₁) ∧
        v₂.idtVectoring = false ∧ putVMCS env.vmxCaps hw v₂ = w := by
  rw [interceptGeneral_eq taken]
  cases handleExit env (getVMCS env.vmxCaps hw copy) g with
  | none => simp
  | some result =>
    rcases result with ⟨v₂, g₂⟩
    cases vectoring : v₂.idtVectoring <;> simp [vectoring, and_comm]

theorem lapic_same_iff {r : Vmcs × GuestCpu η ψ} (ept : env.vmxCaps.has .enableEpt = true)
    (taken : FastExit.lapicViolation.Taken env hw g)
    (run : FastExit.lapicViolation.handler env (FastExit.lapicViolation.cached hw copy) g = some r) :
    interceptGeneral env hw copy g = some (FastExit.lapicViolation.written hw r.1, r.2) ↔
      FastExit.lapicViolation.Fits env hw copy g := by
  have general : handleExit env (getVMCS env.vmxCaps hw copy) g = interceptEptviolation env _ g :=
    handleExit_handler taken nofun
  change interceptEptviolation env _ g = some r at run
  unfold FastExit.Fits
  cases booted : g.msr.ept01.allCoresBootedUp with
  | false =>
    rw [interceptEptviolation_lapic booted taken fun f read => getVMCS_read ept read] at general
    rw [interceptEptviolation_lapic booted taken fun f read => cached_read read] at run
    cases run
    rw [roundTrip_current taken general
      (by simp [singleStepWrites, FastExit.writesBack]) (by decide)]
    simp
  | true =>
    have passed : ∀ vmcs : Vmcs, vmcs .guestPaddr = hw .guestPaddr →
        vmcs .infoExitQualification = hw .infoExitQualification →
        interceptEptviolation env vmcs g = env.appViolation vmcs g (hw .guestPaddr)
          (vmcs .infoGuestLinearAddress) (hw .infoExitQualification &&& 7) := by
      intro vmcs paddr qualification
      unfold interceptEptviolation
      rw [paddr, qualification, booted]
      simp
    have paddr : getVMCS env.vmxCaps hw copy .guestPaddr = hw .guestPaddr :=
      getVMCS_read ept (by decide : _ ∈ FastExit.lapicViolation.reads)
    rw [passed _ paddr (getVMCS_exist rfl)] at general
    rw [passed _ (cached_read (by decide)) (cached_read (by decide))] at run
    simp only [if_true, interceptGeneral_eq_some_iff taken, general, putVMCS_eq_written_iff]
    unfold AppAlike
    dsimp only
    rw [run]
    constructor
    · intro same v₁ g₁ ran
      cases ran
      exact same
    · intro alike
      exact alike r.1 r.2 rfl

theorem debug_same_iff {r : Vmcs × GuestCpu η ψ} (ept : env.vmxCaps.has .enableEpt = true)
    (taken : FastExit.debug.Taken env hw g)
    (run : FastExit.debug.handler env (FastExit.debug.cached hw copy) g = some r) :
    interceptGeneral env hw copy g = some (FastExit.debug.written hw r.1, r.2) ↔
      FastExit.debug.Fits env hw copy g := by
  change interceptDebug env _ g = some r at run
  rw [interceptDebug_eq fun f read => cached_read read] at run
  have self := @interceptDebug_eq η ψ env hw g hw fun _ _ => rfl
  cases result : interceptDebug env hw g with
  | none =>
    rw [result] at run
    cases run
  | some done =>
    rcases done with ⟨v₁, g₁⟩
    rw [result] at run self
    cases run
    have covered : ∀ f ∈ (endSingleStepWrites hw g₁.lapic).map Sigma.fst,
        f ∈ FastExit.debug.writesBack := by
      simp [endSingleStepWrites, FastExit.writesBack]
    unfold FastExit.Fits
    cases booted : g.msr.ept01.allCoresBootedUp with
    | false =>
      have general : handleExit env (getVMCS env.vmxCaps hw copy) g =
          interceptDebug env _ g := handleExit_handler taken fun _ => booted
      rw [interceptDebug_eq fun f read => getVMCS_read ept read, result] at general
      rw [roundTrip_current taken general covered (by decide)]
      simp
    | true =>
      have hardware : hw .infoVmexitInterruptInformation &&& 0x700 = 0x300 := by
        unfold interceptDebug at result
        split at result
        · next type => exact type
        · cases result
      have general : interceptGeneral env hw copy g =
          if hw.idtVectoring then none else some (hw, g) :=
        interceptGeneral_writes taken (handleExit_debug_booted taken booted hardware)
          (by simp : ∀ f ∈ List.map Sigma.fst [], _)
      have idle : DebugIdle env hw g ↔
          some (writes (endSingleStepWrites hw g₁.lapic) hw, g₁) = some (hw, g) := by
        unfold DebugIdle
        rw [result, self]
        rfl
      rw [general, written_current covered (by decide), idle]
      cases hw.idtVectoring with
      | true => simp
      | false => simp [eq_comm]

end

/-! ## `VMREAD` and `VMWRITE` -/

section

variable {nenv : NestedEnv} {v w : Vmcs} {s : VmxGuest}

def onlyReads (vmcs : Vmcs) : Vmcs :=
  refresh (fun f => decide (f ∈ vmrwReads)) vmcs fun _ => 0

theorem onlyReads_congr (agree : ∀ f ∈ vmrwReads, v f = w f) : onlyReads v = onlyReads w := by
  funext f
  unfold onlyReads refresh
  split
  · next read => exact agree f (of_decide_eq_true read)
  · rfl

theorem vmrwPlan_onlyReads (nenv : NestedEnv) (v : Vmcs) (s : VmxGuest) (mode : Prot)
    (refuse : U64 → Option U32) :
    vmrwPlan nenv (onlyReads v) s mode refuse = vmrwPlan nenv v s mode refuse :=
  rfl

theorem vmrwPlan_congr (mode : Prot) (refuse : U64 → Option U32)
    (agree : ∀ f ∈ vmrwReads, v f = w f) :
    vmrwPlan nenv v s mode refuse = vmrwPlan nenv w s mode refuse := by
  rw [← vmrwPlan_onlyReads nenv v, onlyReads_congr agree, vmrwPlan_onlyReads]

/-- What the two transfers have in common: with a register operand they do not depend on CR4
and write no field but RSP, and with a memory operand they write no field. -/
structure VmrwTransfer.Regular (transfer : VmrwTransfer) : Prop where
  reg : ∀ {nenv cr4 v s size encoding sel r},
    transfer nenv cr4 v s size encoding (.reg sel) = some r →
      ∃ ws, (∀ f ∈ ws.map Sigma.fst, f = .guestRSP) ∧ r.1 = writes ws v ∧
        ∀ cr4' w, (∀ f ∈ vmrwReads, v f = w f) →
          transfer nenv cr4' w s size encoding (.reg sel) = some (writes ws w, r.2)
  mem : ∀ {nenv cr4 v w s size encoding gva}, (∀ f ∈ vmrwReads, v f = w f) →
    transfer nenv cr4 w s size encoding (.mem gva) =
      (transfer nenv cr4 v s size encoding (.mem gva)).map fun r => (w, r.2)

theorem vmreadTransfer_regular : VmrwTransfer.Regular vmreadTransfer where
  reg := by
    intro nenv cr4 v s size encoding sel r done
    unfold vmreadTransfer at done ⊢
    rcases bind_eq_some_iff.mp done with ⟨i, current, done⟩
    rcases bind_eq_some_iff.mp done with ⟨value, read, done⟩
    simp only [current, read, bind_some]
    cases sel with
    | gpr g =>
      cases done
      exact ⟨[], by simp, rfl, fun _ _ _ => rfl⟩
    | rsp =>
      cases done
      refine ⟨[⟨.guestRSP, _⟩], by simp, rfl, fun cr4' w agree => ?_⟩
      rw [storeOperand, ← agree .guestRSP (by decide)]
      rfl
  mem := by
    intro nenv cr4 v w s size encoding gva agree
    have copy : ∀ value, guestmemCopyH2gv cr4 w nenv.mem01 s.ram 0 gva (leBytes size value) =
        guestmemCopyH2gv cr4 v nenv.mem01 s.ram 0 gva (leBytes size value) := by
      intro value
      change guestmemCopyH2gv cr4 (onlyReads w) _ _ _ _ _ =
        guestmemCopyH2gv cr4 (onlyReads v) _ _ _ _ _
      rw [onlyReads_congr agree]
    unfold vmreadTransfer
    cases s.nested.findCurrent with
    | none => rfl
    | some i =>
      dsimp only [bind_some]
      cases vmcsRead (s.nested.active i).vmcs12Value encoding size with
      | none => rfl
      | some value =>
        dsimp only [bind_some, storeOperand]
        rw [copy, Option.map_map]
        rfl

theorem vmwriteTransfer_regular : VmrwTransfer.Regular vmwriteTransfer where
  reg := by
    intro nenv cr4 v s size encoding sel r done
    have load : ∀ w : Vmcs, (∀ f ∈ vmrwReads, v f = w f) →
        w.readReg s.regs sel = v.readReg s.regs sel := by
      intro w agree
      cases sel with
      | gpr g => rfl
      | rsp => exact (agree .guestRSP (by decide)).symm
    unfold vmwriteTransfer loadOperand at done ⊢
    rcases bind_eq_some_iff.mp done with ⟨i, current, done⟩
    dsimp only [bind_some] at done ⊢
    rcases Option.map_eq_some_iff.mp done with ⟨vmcs12, wrote, rfl⟩
    refine ⟨[], by simp, rfl, fun cr4' w agree => ?_⟩
    rw [current, bind_some, load w agree, wrote]
    rfl
  mem := by
    intro nenv cr4 v w s size encoding gva agree
    have copy : guestmemCopyGv2h cr4 w nenv.mem01 s.ram 0 gva size =
        guestmemCopyGv2h cr4 v nenv.mem01 s.ram 0 gva size := by
      change guestmemCopyGv2h cr4 (onlyReads w) _ _ _ _ _ =
        guestmemCopyGv2h cr4 (onlyReads v) _ _ _ _ _
      rw [onlyReads_congr agree]
    unfold vmwriteTransfer loadOperand
    cases s.nested.findCurrent with
    | none => rfl
    | some i =>
      dsimp only [bind_some]
      rw [copy]
      cases (guestmemCopyGv2h cr4 v nenv.mem01 s.ram 0 gva size).map leWord with
      | none => rfl
      | some value =>
        dsimp only [bind_some]
        rw [Option.map_map]
        rfl

/-- The flags and the instruction pointer at the end of an instruction. -/
def vmEndWrites (hw : Vmcs) (flags : U64) : List (Sigma fun f : VmcsField => BitVec f.bits) :=
  [⟨.guestRFLAGS, flags⟩, ⟨.guestRIP, hw .guestRIP + (hw .infoVmexitInstructionLength).setWidth 64⟩]

theorem vmEnd_eq_writes (flags : U64)
    (rsp : ∀ f ∈ ws.map Sigma.fst, f = .guestRSP) (agree : ∀ f ∈ vmrwReads, v f = hw f) :
    (Vmcs.vmwrite (writes ws v) .guestRFLAGS flags).advance =
      writes (ws ++ vmEndWrites hw flags) v := by
  have kept : ∀ f ∈ vmrwReads, f ≠ .guestRSP → writes ws v f = hw f := by
    intro f read other
    rw [writes_other fun touched => other (rsp f touched), agree f read]
  rw [writes_append]
  unfold Vmcs.advance
  rw [Vmcs.vmwrite_other (by decide), Vmcs.vmwrite_other (by decide),
    kept .guestRIP (by decide) (by decide),
    kept .infoVmexitInstructionLength (by decide) (by decide)]
  rfl

end

section

variable {v : Vmcs}

theorem vmFailInvalid_eq_writes (agree : ∀ f ∈ vmrwReads, v f = hw f) :
    v.vmFailInvalid.advance = writes (vmEndWrites hw
      (hw .guestRFLAGS &&& ~~~Vmcs.VMX_INST_RFLAGS_MASK ||| Vmcs.EFLAGS_CF)) v := by
  unfold Vmcs.vmFailInvalid
  rw [agree .guestRFLAGS (by decide)]
  exact @vmEnd_eq_writes hw [] v _ (by simp) agree

theorem vmFailValid_eq_writes (agree : ∀ f ∈ vmrwReads, v f = hw f) :
    v.vmFailValid.advance = writes (vmEndWrites hw
      (hw .guestRFLAGS &&& ~~~Vmcs.VMX_INST_RFLAGS_MASK ||| Vmcs.EFLAGS_ZF)) v := by
  unfold Vmcs.vmFailValid
  rw [agree .guestRFLAGS (by decide)]
  exact @vmEnd_eq_writes hw [] v _ (by simp) agree

theorem vmSucceed_eq_writes
    (rsp : ∀ f ∈ ws.map Sigma.fst, f = .guestRSP) (agree : ∀ f ∈ vmrwReads, v f = hw f) :
    (Vmcs.vmSucceed (writes ws v)).advance = writes (ws ++ vmEndWrites hw
      (hw .guestRFLAGS &&& ~~~Vmcs.VMX_INST_RFLAGS_MASK)) v := by
  have flags : writes ws v .guestRFLAGS = hw .guestRFLAGS := by
    have apart : .guestRFLAGS ∉ ws.map Sigma.fst := by
      intro touched
      cases rsp _ touched
    rw [writes_other apart, agree .guestRFLAGS (by decide)]
  unfold Vmcs.vmSucceed
  rw [flags]
  exact vmEnd_eq_writes _ rsp agree

end

/-- What `VMREAD` and `VMWRITE` share. -/
structure FastExit.IsVmrw (exit : FastExit) (env : InterceptEnv η ψ) (g : GuestCpu η ψ) (mode : Prot)
    (refuse : U64 → Option U32) (transfer : VmrwTransfer) : Prop where
  reads : exit.reads = vmrwReads
  writesBack : exit.writesBack = FastExit.vmread.writesBack
  handler : ∀ vmcs, exit.handler env vmcs g =
    ((vmrwPlan (env.nestedEnv g) vmcs g.vmx mode refuse).bind
      (vmrwRun transfer (env.nestedEnv g) vmcs g.vmx)).map fun (vmcs, vmx) => (vmcs, { g with vmx })
  notDebug : exit ≠ .debug
  regular : transfer.Regular

theorem errorcode_iff
    (reads : exit.reads = vmrwReads) (back : exit.writesBack = FastExit.vmread.writesBack)
    (none : .controlVMEntryExceptionErrorcode ∉ ws.map Sigma.fst) :
    (∀ f ∈ exit.writesBack, f ∉ ws.map Sigma.fst → exit.cached hw copy f = hw f) ↔
      copy .controlVMEntryExceptionErrorcode = hw .controlVMEntryExceptionErrorcode := by
  have stale : exit.cached hw copy .controlVMEntryExceptionErrorcode =
      copy .controlVMEntryExceptionErrorcode := cached_stale (by rw [reads]; decide)
  constructor
  · intro current
    rw [← stale]
    exact current _ (by rw [back]; decide) none
  · intro same f member _
    rcases eq_or_ne f .controlVMEntryExceptionErrorcode with rfl | other
    · rw [stale, same]
    · apply cached_read
      rw [reads]
      rw [back] at member
      simp only [FastExit.writesBack, List.mem_cons, List.not_mem_nil, or_false, other,
        false_or] at member
      rcases member with rfl | rfl | rfl | rfl <;> decide

theorem vmEnd_roundTrip {flags : U64}
    (taken : exit.Taken env hw g) (reads : exit.reads = vmrwReads)
    (back : exit.writesBack = FastExit.vmread.writesBack)
    (ran : handleExit env (getVMCS env.vmxCaps hw copy) g =
      some (writes (ws ++ vmEndWrites hw flags) (getVMCS env.vmxCaps hw copy), g₂))
    (rsp : ∀ f ∈ ws.map Sigma.fst, f = .guestRSP) :
    interceptGeneral env hw copy g =
        some (exit.written hw (writes (ws ++ vmEndWrites hw flags) (exit.cached hw copy)), g₁) ↔
      hw.idtVectoring = false ∧
        copy .controlVMEntryExceptionErrorcode = hw .controlVMEntryExceptionErrorcode ∧
        g₂ = g₁ := by
  have fields : ∀ f ∈ (ws ++ vmEndWrites hw flags).map Sigma.fst,
      f = .guestRSP ∨ f = .guestRFLAGS ∨ f = .guestRIP := by
    intro f touched
    rw [List.map_append, List.mem_append] at touched
    rcases touched with touched | touched
    · exact .inl (rsp f touched)
    · right
      simpa [vmEndWrites] using touched
  have covered : ∀ f ∈ (ws ++ vmEndWrites hw flags).map Sigma.fst, f ∈ exit.writesBack := by
    intro f touched
    rw [back]
    rcases fields f touched with rfl | rfl | rfl <;> decide
  rw [roundTrip_iff taken ran covered, errorcode_iff reads back]
  intro touched
  rcases fields _ touched with same | same | same <;> cases same

theorem vmEnd_plain {flags : U64} (taken : exit.Taken env hw g) (reads : exit.reads = vmrwReads)
    (back : exit.writesBack = FastExit.vmread.writesBack)
    (ran : handleExit env (getVMCS env.vmxCaps hw copy) g =
      some (writes (vmEndWrites hw flags) (getVMCS env.vmxCaps hw copy), g₂)) :
    interceptGeneral env hw copy g =
        some (exit.written hw (writes (vmEndWrites hw flags) (exit.cached hw copy)), g₁) ↔
      hw.idtVectoring = false ∧
        copy .controlVMEntryExceptionErrorcode = hw .controlVMEntryExceptionErrorcode ∧
        g₂ = g₁ :=
  @vmEnd_roundTrip _ _ env hw copy g g₁ g₂ exit [] flags taken reads back ran (by simp)

section

variable {mode : Prot} {refuse : U64 → Option U32} {transfer : VmrwTransfer} {vmcs : Vmcs}
  {r : Vmcs × GuestCpu η ψ} {size : Nat} {encoding : U64}

theorem FastExit.IsVmrw.cached_agree (shape : exit.IsVmrw env g mode refuse transfer) :
    ∀ f ∈ vmrwReads, exit.cached hw copy f = hw f :=
  fun _ read => cached_read (shape.reads ▸ read)

theorem FastExit.IsVmrw.getVMCS_agree (shape : exit.IsVmrw env g mode refuse transfer)
    (ept : env.vmxCaps.has .enableEpt = true) :
    ∀ f ∈ vmrwReads, getVMCS env.vmxCaps hw copy f = hw f :=
  fun _ read => getVMCS_read ept (shape.reads ▸ read : _ ∈ exit.reads)

/-- A plan as the handler carries it out, with the rest of the guest. -/
def vmrwEffect (transfer : VmrwTransfer) (env : InterceptEnv η ψ) (vmcs : Vmcs) (g : GuestCpu η ψ)
    (plan : VmrwPlan) : Option (Vmcs × GuestCpu η ψ) :=
  (vmrwRun transfer (env.nestedEnv g) vmcs g.vmx plan).map fun (vmcs, vmx) => (vmcs, { g with vmx })

theorem vmrw_exception_iff {vector : U32} {hasEc : Bool} (taken : exit.Taken env hw g)
    (shape : exit.IsVmrw env g mode refuse transfer)
    (general : handleExit env (getVMCS env.vmxCaps hw copy) g =
      vmrwEffect transfer env (getVMCS env.vmxCaps hw copy) g (.exception vector hasEc))
    (run : vmrwEffect transfer env (exit.cached hw copy) g (.exception vector hasEc) = some r) :
    interceptGeneral env hw copy g = some (exit.written hw r.1, r.2) ↔
      hw.idtVectoring = false := by
  cases run
  have current : ∀ f ∈ exit.writesBack, f ∉ (injectWrites vector hasEc 0).map Sigma.fst →
      exit.cached hw copy f = hw f := by
    intro f back other
    rw [shape.writesBack] at back
    simp only [FastExit.writesBack, List.mem_cons, List.not_mem_nil, or_false] at back
    rcases back with rfl | rfl | rfl | rfl | rfl
    · exact absurd (by simp [injectWrites]) other
    · exact absurd (by simp [injectWrites]) other
    iterate 3 exact shape.cached_agree _ (by decide)
  have covered : ∀ f ∈ (injectWrites vector hasEc 0).map Sigma.fst, f ∈ exit.writesBack := by
    rw [shape.writesBack]
    simp [injectWrites, FastExit.writesBack]
  refine (roundTrip_iff taken general covered).trans ?_
  exact and_iff_left ⟨current, rfl⟩

section

variable (ept : env.vmxCaps.has .enableEpt = true) (taken : exit.Taken env hw g)
  (shape : exit.IsVmrw env g mode refuse transfer)

include ept taken shape

section

variable {plan : VmrwPlan}
  (general : handleExit env (getVMCS env.vmxCaps hw copy) g =
    vmrwEffect transfer env (getVMCS env.vmxCaps hw copy) g plan)
  (run : vmrwEffect transfer env (exit.cached hw copy) g plan = some r)

include general run

theorem vmrw_failValid_iff {errorNumber : U32} (fails : plan = .failValid errorNumber) :
    interceptGeneral env hw copy g = some (exit.written hw r.1, r.2) ↔ hw.idtVectoring = false ∧
      copy .controlVMEntryExceptionErrorcode = hw .controlVMEntryExceptionErrorcode := by
  subst fails
  unfold vmrwEffect vmrwRun at run general
  dsimp only at run general
  rw [vmFailValid_eq_writes (shape.getVMCS_agree ept)] at general
  rw [vmFailValid_eq_writes shape.cached_agree] at run
  cases stored : g.vmx.nested.setVminstrError errorNumber with
  | none =>
    rw [stored] at run
    cases run
  | some nested =>
    rw [stored] at run general
    cases run
    refine (vmEnd_plain taken shape.reads shape.writesBack general).trans ?_
    exact and_congr_right' (and_iff_left rfl)

theorem vmrw_reg_iff {sel : RegSel} (moves : plan = .transfer size encoding (.reg sel)) :
    interceptGeneral env hw copy g = some (exit.written hw r.1, r.2) ↔ hw.idtVectoring = false ∧
      copy .controlVMEntryExceptionErrorcode = hw .controlVMEntryExceptionErrorcode := by
  subst moves
  have fast := @FastExit.IsVmrw.cached_agree _ _ env hw copy _ _ _ _ _ shape
  have full := @FastExit.IsVmrw.getVMCS_agree _ _ env hw copy _ _ _ _ _ shape ept
  unfold vmrwEffect vmrwRun at run general
  dsimp only at run general
  cases moved : transfer (env.nestedEnv g) (exit.cached hw copy .guestCR4) (exit.cached hw copy)
    g.vmx size encoding (.reg sel) with
  | none =>
    rw [moved] at run
    cases run
  | some result =>
    rcases shape.regular.reg moved with ⟨ws, rsp, wrote, elsewhere⟩
    rw [moved, map_some, map_some] at run
    rw [elsewhere _ _ fun f read => (fast f read).trans (full f read).symm,
      map_some, map_some] at general
    rw [wrote, vmSucceed_eq_writes rsp fast] at run
    rw [vmSucceed_eq_writes rsp full] at general
    cases run
    refine (vmEnd_roundTrip taken shape.reads shape.writesBack general rsp).trans ?_
    exact and_congr_right' (and_iff_left rfl)

theorem vmrw_mem_iff {gva : U64} (moves : plan = .transfer size encoding (.mem gva)) :
    interceptGeneral env hw copy g = some (exit.written hw r.1, r.2) ↔ hw.idtVectoring = false ∧
      copy .controlVMEntryExceptionErrorcode = hw .controlVMEntryExceptionErrorcode ∧
      SameTransfer transfer (env.nestedEnv g) hw copy g.vmx size encoding gva := by
  subst moves
  have fast := @FastExit.IsVmrw.cached_agree _ _ env hw copy _ _ _ _ _ shape
  have full := @FastExit.IsVmrw.getVMCS_agree _ _ env hw copy _ _ _ _ _ shape ept
  have self : ∀ {cr4 result}, transfer (env.nestedEnv g) cr4 hw g.vmx size encoding (.mem gva) =
      some result → result = (hw, result.2) := by
    intro cr4 result moved
    have same := @VmrwTransfer.Regular.mem _ shape.regular (env.nestedEnv g) cr4 hw hw g.vmx size
      encoding gva fun _ _ => rfl
    rw [moved] at same
    exact Option.some.inj same
  have ended : ∀ {v : Vmcs}, (∀ f ∈ vmrwReads, v f = hw f) → v.vmSucceed.advance = _ :=
    fun {v} agree => @vmSucceed_eq_writes hw [] v (by simp) agree
  unfold vmrwEffect vmrwRun at run general
  dsimp only at run general
  rw [cached_stale (by rw [shape.reads]; decide),
    shape.regular.mem fun f read => (fast f read).symm] at run
  rw [getVMCS_exist rfl,
    shape.regular.mem fun f read => (full f read).symm] at general
  unfold SameTransfer
  cases moved : transfer (env.nestedEnv g) (copy .guestCR4) hw g.vmx size encoding (.mem gva) with
  | none =>
    rw [moved] at run
    cases run
  | some result =>
    rw [moved] at run
    simp only [map_some, ended fast, Option.some.injEq] at run
    subst run
    simp only [Option.some.injEq, forall_eq']
    cases fresh : transfer (env.nestedEnv g) (hw .guestCR4) hw g.vmx size encoding (.mem gva) with
    | none =>
      rw [fresh] at general
      rw [interceptGeneral_eq taken, general]
      simp
    | some result' =>
      rw [fresh] at general
      simp only [map_some, ended full] at general
      refine (vmEnd_plain taken shape.reads shape.writesBack general).trans ?_
      rw [self moved, self fresh]
      simp

end

theorem vmrw_same_iff (run : exit.handler env (exit.cached hw copy) g = some r) :
    interceptGeneral env hw copy g = some (exit.written hw r.1, r.2) ↔ hw.idtVectoring = false ∧
        ∀ plan, vmrwPlan (env.nestedEnv g) hw g.vmx mode refuse = some plan →
          VmrwFits transfer (env.nestedEnv g) hw copy g.vmx plan := by
  have general := (@handleExit_handler _ _ env hw copy g exit taken
    fun debug => absurd debug shape.notDebug).trans (shape.handler _)
  rw [shape.handler, vmrwPlan_congr mode refuse shape.cached_agree] at run
  rw [vmrwPlan_congr mode refuse (shape.getVMCS_agree ept)] at general
  cases planned : vmrwPlan (env.nestedEnv g) hw g.vmx mode refuse with
  | none =>
    rw [planned] at run
    cases run
  | some plan =>
    rw [planned, bind_some] at run general
    simp only [Option.some.injEq, forall_eq']
    cases plan with
    | exception vector hasEc =>
      exact (vmrw_exception_iff taken shape general run).trans (and_iff_left trivial).symm
    | failInvalid =>
      cases run
      rw [vmFailInvalid_eq_writes shape.cached_agree]
      have plain : handleExit env (getVMCS env.vmxCaps hw copy) g =
        some (Vmcs.advance _, g) := general
      rw [vmFailInvalid_eq_writes (shape.getVMCS_agree ept)] at plain
      refine (vmEnd_plain taken shape.reads shape.writesBack plain).trans ?_
      exact and_congr_right' (and_iff_left rfl)
    | failValid errorNumber => exact vmrw_failValid_iff ept taken shape general run rfl
    | transfer size encoding operand =>
      cases operand with
      | reg sel =>
        refine (vmrw_reg_iff ept taken shape general run rfl).trans ?_
        exact and_congr_right' (and_iff_left nofun).symm
      | mem gva =>
        refine (vmrw_mem_iff ept taken shape general run rfl).trans ?_
        exact and_congr_right' (and_congr_right' ⟨fun same _ found => by cases found; exact same,
          fun same => same gva rfl⟩)

end

end

end

/-! ## The optimized handler -/

/-- An exit that the optimized handler handles ends as on the general path if and only if the
condition for the exit holds. -/
theorem optimized_exit_same_iff {env : InterceptEnv η ψ} {hw copy : Vmcs} {g : GuestCpu η ψ}
    {exit : FastExit} {r : Vmcs × GuestCpu η ψ} (ept : env.vmxCaps.has .enableEpt = true)
    (chosen : fastExit env hw g = some exit)
    (handled : interceptOptimized env hw copy g = some (some r)) :
    interceptGeneral env hw copy g = some r ↔ exit.Fits env hw copy g := by
  have taken := fastExit_taken chosen
  rcases handled_run chosen handled with ⟨v₁, g₁, run, rfl⟩
  cases exit with
  | wrmsr => exact wrmsr_same_iff taken run
  | cpuid => exact cpuid_same_iff taken run
  | lapicViolation => exact lapic_same_iff ept taken run
  | debug => exact debug_same_iff ept taken run
  | vmread =>
    exact vmrw_same_iff ept taken ⟨rfl, rfl, fun _ => rfl, nofun, vmreadTransfer_regular⟩ run
  | vmwrite =>
    exact vmrw_same_iff ept taken ⟨rfl, rfl, fun _ => rfl, nofun, vmwriteTransfer_regular⟩ run

def sampleInterceptEnv : InterceptEnv (U32 → U64) Unit where
  msr := sampleMsrEnv
  cpuid := ⟨fun r app => (.chain, r, app), fun _ _ => ⟨0, 0, 0, 0⟩, false, false⟩
  isbsp := true
  vmxCaps := VmxCtls.setctl (fun _ => 0) .enableEpt
  mem01 _ _ _ := 0
  appViolation _ _ _ _ _ := none
  otherExit _ _ := none

def sampleGuestCpu (rax rcx : U64) : GuestCpu (U32 → U64) Unit where
  vmx := ⟨fun g => if g = .rax then rax else if g = .rcx then rcx else 0, fun _ => 0,
    ⟨.disabled, 0, INVALID_VMCS12_INDEX, fun _ => ⟨0, fun _ => 0, false⟩⟩⟩
  msr := sampleMsrCpu
  lapic := ⟨0, 0, 0, []⟩
  app := ()

def sampleExit (reason : U32) (cr4 : U64) : Vmcs :=
  (Vmcs.vmwrite (fun _ => 0) .infoVmexitReason reason).vmwrite .guestCR4 cr4

theorem optimized_exit_same_deadline :
    ∃ r, interceptOptimized sampleInterceptEnv (sampleExit VMX_VMEXIT_WRMSR 0) (fun _ => 0)
        (sampleGuestCpu 5 0x6e0) = some (some r) ∧
      interceptGeneral sampleInterceptEnv (sampleExit VMX_VMEXIT_WRMSR 0) (fun _ => 0)
        (sampleGuestCpu 5 0x6e0) = some r :=
  ⟨_, rfl, (optimized_exit_same_iff (by decide) (by decide : _ = some FastExit.wrmsr) rfl).mpr
    ⟨by decide, .inl rfl⟩⟩

/-- The guest has set CR4.OSXSAVE, which does not exit; `CPUID` reports it as clear on the fast
path and as set on the general one. -/
theorem optimized_cpuid_misses_osxsave :
    let hw := sampleExit VMX_VMEXIT_CPUID 0x40000
    let copy := sampleExit VMX_VMEXIT_CPUID 0
    ∃ fast general, interceptOptimized sampleInterceptEnv hw copy (sampleGuestCpu 1 0) =
        some (some fast) ∧
      interceptGeneral sampleInterceptEnv hw copy (sampleGuestCpu 1 0) = some general ∧
      (fast.2.vmx.regs.low .rcx).getLsbD 27 = false ∧
      (general.2.vmx.regs.low .rcx).getLsbD 27 = true :=
  ⟨_, _, rfl, rfl, by decide, by decide⟩

end Xmhf
