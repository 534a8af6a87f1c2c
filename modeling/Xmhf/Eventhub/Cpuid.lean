import Xmhf.Vmx.Vcpu

/-!
# `CPUID`

`_vmx_handle_intercept_cpuid` asks the hypapp, which may answer itself or leave the
instruction to XMHF. XMHF then executes `CPUID` and adjusts the result to what it supports
and to the CR4 of the guest, which may differ from that of the host.

The model is the 64-bit hypervisor without `__UPDATE_INTEL_UCODE__`. No hypapp of the
repository looks at `vcpu->vmcs` in its callback, so the callback sees the registers only.
-/

namespace Xmhf

variable {ψ : Type}

/-- Return values of `xmhf_app_handlecpuid`. -/
inductive AppCpuid where
  | skip
  | chain
  | bad
  deriving DecidableEq, Repr

structure CpuidResult where
  eax : U32
  ebx : U32
  ecx : U32
  edx : U32

structure CpuidEnv (ψ : Type) where
  /-- `xmhf_app_handlecpuid`; `ψ` is the hypapp's state. -/
  app : Regs → ψ → AppCpuid × Regs × ψ
  /-- The instruction on the host, by EAX and ECX. -/
  cpuid : U32 → U32 → CpuidResult
  /-- `CPUID.19H:EBX[0]` on the host while CR4.KL is set. -/
  aeskle : Bool
  /-- `__HIDE_X2APIC__` -/
  hideX2apic : Bool

def CR4_OSXSAVE : Nat := 18

def CR4_KL : Nat := 19

def CR4_PKE : Nat := 22

/-- Sets or clears a bit in the low half of a register. -/
def Regs.setBit (r : Regs) (g : Gpr) (n : Nat) (b : Bool) : Regs :=
  r.setLow g (if b then r.low g ||| 1#32 <<< n else r.low g &&& ~~~(1#32 <<< n))

theorem Regs.getLsbD_setBit (r : Regs) (g : Gpr) {n m : Nat} (b : Bool) (inside : m < 32) :
    ((r.setBit g n b).low g).getLsbD m = if m = n then b else (r.low g).getLsbD m := by
  rw [setBit, low_setLow]
  by_cases here : m = n
  · subst here
    cases b <;> simp [inside]
  · cases b with
    | false =>
      have apart : m < n ∨ ¬m - n = 0 := by omega
      simp [here, inside, apart]
    | true =>
      have apart : n ≤ m → ¬m - n = 0 := by omega
      simp +contextual [here, inside, apart]

def Regs.cpuidRaw (env : CpuidEnv ψ) (r : Regs) : Regs :=
  let result := env.cpuid (r.low .rax) (r.low .rcx)
  (((r.setLow .rax result.eax).setLow .rbx result.ebx).setLow .rcx result.ecx).setLow .rdx
    result.edx

/-- The features that the guest enables in its CR4, as `CPUID` reports them. -/
structure CpuidEnabled where
  osxsave : Bool
  ospke : Bool
  aeskle : Bool
  deriving DecidableEq

def cpuidEnabled (env : CpuidEnv ψ) (cr4 : U64) : CpuidEnabled where
  osxsave := cr4.getLsbD CR4_OSXSAVE
  ospke := cr4.getLsbD CR4_PKE
  aeskle := cr4.getLsbD CR4_KL && env.aeskle

def XMHF_CPUID : U32 := 0x46484d58

/-- "Logic to allow the guest detect the presence of XMHF" -/
def Regs.markXmhf (r : Regs) : Regs :=
  if r.low .rax ≠ XMHF_CPUID then r.setLow .rax XMHF_CPUID
  else if r.low .rbx ≠ XMHF_CPUID then r.setLow .rbx XMHF_CPUID
  else if r.low .rcx ≠ XMHF_CPUID then r.setLow .rcx XMHF_CPUID
  else r.setLow .rdx XMHF_CPUID

/-- "Modify CPUID result according to limits in XMHF"; the leaf is the one that the guest has
asked for and `nested` is `__NESTED_VIRTUALIZATION__`. -/
def cpuidLimits (env : CpuidEnv ψ) (nested : Bool) (enabled : CpuidEnabled) (oldEax oldEcx : U32)
    (r : Regs) : Regs :=
  if oldEax = 1 then
    let r := if nested then r else r.setBit .rcx 5 false
    let r := r.setBit .rcx 6 false
    let r := if env.hideX2apic then r.setBit .rcx 21 false else r
    (r.setBit .rcx 27 enabled.osxsave).setBit .rcx 31 true
  else if oldEax = 7 ∧ oldEcx = 0 then
    (r.setBit .rbx 25 false).setBit .rcx 4 enabled.ospke
  else if oldEax = 0x19 then r.setBit .rbx 0 enabled.aeskle
  else if oldEax = XMHF_CPUID then r.markXmhf
  else r

/-- The registers after `_vmx_handle_intercept_cpuid`, for a guest with CR4 `cr4`. -/
def handleCpuid (env : CpuidEnv ψ) (nested : Bool) (cr4 : U64) (r : Regs) (app : ψ) :
    Option (Regs × ψ) :=
  let oldEax := r.low .rax
  let oldEcx := r.low .rcx
  match env.app r app with
  | (.skip, r, app) => some (r, app)
  | (.chain, r, app) =>
    some (cpuidLimits env nested (cpuidEnabled env cr4) oldEax oldEcx (r.cpuidRaw env), app)
  | (.bad, _, _) => none

/-! ## What depends on CR4 -/

def CpuidEnabled.AgreeOn (oldEax oldEcx : U32) (a b : CpuidEnabled) : Prop :=
  (oldEax = 1 → a.osxsave = b.osxsave) ∧ (oldEax = 7 ∧ oldEcx = 0 → a.ospke = b.ospke) ∧
    (oldEax = 0x19 → a.aeskle = b.aeskle)

theorem cpuidLimits_eq_iff (env : CpuidEnv ψ) (nested : Bool) (a b : CpuidEnabled)
    (oldEax oldEcx : U32) (r : Regs) :
    cpuidLimits env nested a oldEax oldEcx r = cpuidLimits env nested b oldEax oldEcx r ↔
      a.AgreeOn oldEax oldEcx b := by
  unfold cpuidLimits CpuidEnabled.AgreeOn
  by_cases basic : oldEax = 1
  · subst basic
    simp only [if_true, forall_const]
    constructor
    · intro same
      have bit := congrArg (fun r : Regs => (r.low .rcx).getLsbD 27) same
      simp only [Regs.getLsbD_setBit _ _ _ (by decide : 27 < 32)] at bit
      exact ⟨by simpa using bit, by simp, by simp⟩
    · intro agree
      rw [agree.1]
  · simp only [if_neg basic]
    by_cases structured : oldEax = 7 ∧ oldEcx = 0
    · rcases structured with ⟨rfl, rfl⟩
      simp only [and_self, if_true, forall_const]
      constructor
      · intro same
        have bit := congrArg (fun r : Regs => (r.low .rcx).getLsbD 4) same
        simp only [Regs.getLsbD_setBit _ _ _ (by decide : 4 < 32)] at bit
        exact ⟨by simp, by simpa using bit, by simp⟩
      · intro agree
        rw [agree.2.1]
    · simp only [if_neg structured]
      by_cases locker : oldEax = 0x19
      · subst locker
        simp only [if_true, forall_const]
        constructor
        · intro same
          have bit := congrArg (fun r : Regs => (r.low .rbx).getLsbD 0) same
          simp only [Regs.getLsbD_setBit _ _ _ (by decide : 0 < 32)] at bit
          exact ⟨by simp, by simp, by simpa using bit⟩
        · intro agree
          rw [agree.2.2]
      · simp only [if_neg locker, true_iff]
        exact ⟨fun leaf => absurd leaf basic, fun leaf => absurd leaf structured,
          fun leaf => absurd leaf locker⟩

end Xmhf
