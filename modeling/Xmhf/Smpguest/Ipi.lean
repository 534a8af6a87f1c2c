import Xmhf.Smpguest.SingleStep

/-!
# Where startup IPIs go

Both ways to write the interrupt command register before all cores run, against one description
of what XMHF does with an IPI by design. Destinations are taken as physical LAPIC ids.
-/

namespace Xmhf

open BitVec (getLsbD getLsbD_and)

variable {η : Type}

/-- The CPUs that a startup IPI is noted for, or `none` where XMHF halts: at a destination that is
not listed (broadcasts too), and at shorthands that include the sender. -/
def sipiTargets (midtable : List SmpVcpu) (vcpuId value dest : U32) : Option (SmpVcpu → Bool) :=
  if value &&& 0xc0000 = 0 then
    if midtable.any (·.cpuLapicId = dest) then some (·.cpuLapicId = dest) else none
  else if value &&& 0xc0000 = 0xc0000 then some (·.id ≠ vcpuId)
  else none

/-- The table after an IPI, and whether the IPI goes on to the physical LAPIC. -/
def ipiByDesign (midtable : List SmpVcpu) (vcpuId value dest : U32) :
    Option (List SmpVcpu × Bool) :=
  if value &&& 0x700 = 0x500 then some (midtable, false)
  else if value &&& 0x700 = 0x600 then
    (sipiTargets midtable vcpuId value dest).map fun target =>
      (midtable.map fun vcpu =>
        if target vcpu ∧ vcpu.sipireceived = false then
          { vcpu with sipivector := value.setWidth 8, sipireceived := true }
        else vcpu, false)
  else some (midtable, true)

/-- Every CPU is listed once, and its `VCPU` has the id of its LAPIC. -/
structure ListedOnce (midtable : List SmpVcpu) : Prop where
  once : (midtable.map (·.cpuLapicId)).Nodup
  same : ∀ vcpu ∈ midtable, vcpu.id = vcpu.cpuLapicId

theorem processSIPIcpu_eq (value : U32) (target : Bool) (vcpu : SmpVcpu) :
    (if target ∧ vcpu.sipireceived = false then
      { vcpu with sipivector := value.setWidth 8, sipireceived := true } else vcpu) =
    if target then processSIPIcpu value vcpu else vcpu := by
  unfold processSIPIcpu
  cases target <;> cases vcpu.sipireceived <;> rfl

theorem modify_findIdx {midtable : List SmpVcpu} {dest : U32} (f : SmpVcpu → SmpVcpu)
    (listed : ListedOnce midtable) :
    ((midtable.findIdx? fun vcpu => vcpu.cpuLapicId = dest).bind fun i =>
      if midtable[i]?.map (·.id) = some dest then some (midtable.modify i f) else none) =
    if midtable.any (·.cpuLapicId = dest) then
      some (midtable.map fun vcpu => if vcpu.cpuLapicId = dest then f vcpu else vcpu)
    else none := by
  induction midtable with
  | nil => rfl
  | cons vcpu rest ih =>
    obtain ⟨once, same⟩ := listed
    rw [List.map_cons, List.nodup_cons] at once
    rw [List.findIdx?_cons]
    by_cases first : vcpu.cpuLapicId = dest
    · have others : rest.map (fun vcpu => if vcpu.cpuLapicId = dest then f vcpu else vcpu) = rest := by
        refine List.map_congr_left (g := id) (fun other mem => if_neg ?_) |>.trans rest.map_id
        rintro rfl
        exact once.1 (first ▸ List.mem_map_of_mem mem)
      simp [first, same vcpu List.mem_cons_self, others]
    · specialize ih ⟨once.2, fun vcpu mem => same vcpu (List.mem_cons_of_mem _ mem)⟩
      rw [if_neg (by simpa using first), List.any_cons, decide_eq_false first, Bool.false_or,
        List.map_cons, if_neg first]
      cases found : rest.findIdx? fun vcpu => vcpu.cpuLapicId = dest <;> rw [found] at ih <;>
        simpa [apply_ite] using congrArg (Option.map (vcpu :: ·)) ih

theorem passSIPI_eq {midtable : List SmpVcpu} (listed : ListedOnce midtable)
    (vcpuId value dest : U32) : passSIPI midtable vcpuId value dest =
      (sipiTargets midtable vcpuId value dest).map fun target => midtable.map fun vcpu =>
        if target vcpu ∧ vcpu.sipireceived = false then
          { vcpu with sipivector := value.setWidth 8, sipireceived := true } else vcpu := by
  unfold passSIPI sipiTargets
  simp only [processSIPIcpu_eq, modify_findIdx _ listed]
  split
  · split <;> simp
  · split
    · simp
    · rfl

theorem delivery_physical {value : U32} (physical : value.getLsbD 11 = false) :
    value &&& 0x700 = value &&& 0xf00 := by
  show value &&& 0x700#32 = value &&& 0xf00#32
  apply BitVec.eq_of_getLsbD_eq
  intro i lt
  rw [getLsbD_and, getLsbD_and]
  by_cases mode : i = 11
  · rw [mode, physical, Bool.false_and, Bool.false_and]
  · have bits : ∀ i < 32, i ≠ 11 → getLsbD 0x700#32 i = getLsbD 0xf00#32 i := by decide
    rw [bits i lt mode]

theorem delivery_x2apic (value mode : U64) (small : mode &&& 0xf00#64 = mode) :
    value &&& 0xf00#64 = mode ↔ value.setWidth 32 &&& 0xf00#32 = mode.setWidth 32 := by
  have low : ∀ i < 64, getLsbD 0xf00#64 i = true → i < 32 := by decide
  have same : ∀ i < 32, getLsbD 0xf00#64 i = getLsbD 0xf00#32 i := by decide
  constructor
  · rintro rfl
    rw [BitVec.setWidth_and]
    rfl
  · intro eq
    apply BitVec.eq_of_getLsbD_eq
    intro i lt
    rw [← small, getLsbD_and, getLsbD_and]
    cases bit : getLsbD 0xf00#64 i with
    | false => rw [Bool.and_false, Bool.and_false]
    | true =>
      have lt' := low i lt bit
      have eq := congrArg (getLsbD · i) eq
      simp only [getLsbD_and, BitVec.getLsbD_setWidth, lt', decide_true, Bool.true_and,
        ← same i lt', bit, Bool.and_true] at eq
      rw [eq]

/-- Both ways to write the register, the page and `icrwrite`, to which `handleWrmsr` passes a write of
the MSR, do with a physical IPI what `ipiByDesign` says. Only the MSR refuses INIT and startup IPIs
to destinations above `0xff`. -/
theorem ipi_taken_by_design (pf : Platform) (vcpuId : U32) (env : MsrEnv η) (ram : Pa → U8)
    (cpu : MsrCpu η) (l : LapicState) (listed : ListedOnce cpu.midtable) :
    (cpu.ept01.lapicOp = .write → cpu.ept01.lapicReg = LAPIC_ICR_LOW →
      (virtualLapic pf ram LAPIC_ICR_LOW).getLsbD 11 = false →
      (takeIpi pf vcpuId ram cpu l).map (fun r => (r.2.1.midtable, r.2.2.sent)) =
        (ipiByDesign cpu.midtable vcpuId (virtualLapic pf ram LAPIC_ICR_LOW)
          (virtualLapic pf ram LAPIC_ICR_HIGH >>> 24)).map fun (midtable, sent) => (midtable,
            l.sent ++ if sent then [(LAPIC_ICR_LOW, virtualLapic pf ram LAPIC_ICR_LOW)] else [])) ∧
    ∀ value : U64, (value.setWidth 32 : U32).getLsbD 11 = false →
      (icrwrite env cpu value).map (fun r => (r.2.midtable, !r.1)) =
        if 0xff < (value >>> 32).toNat ∧
          (value &&& 0xf00 = 0x500 ∨ value &&& 0xf00 = 0x600) then none
        else ipiByDesign cpu.midtable env.vcpuId (value.setWidth 32) ((value >>> 32).setWidth 32) := by
  refine ⟨fun write low physical => ?_, fun value physical => ?_⟩
  · unfold takeIpi ipiByDesign processSIPI
    dsimp only
    rw [write, low, delivery_physical physical, passSIPI_eq listed]
    generalize virtualLapic pf ram LAPIC_ICR_LOW = value
    by_cases init : value &&& 0xf00#32 = 0x500#32
    · simp [init]
    by_cases sipi : value &&& 0xf00#32 = 0x600#32
    · simp [sipi, Function.comp_def]
    · simp [init, sipi]
  · have init_iff : value &&& 0xf00#64 = 0x500#64 ↔ value.setWidth 32 &&& 0xf00#32 = 0x500#32 :=
      delivery_x2apic value _ rfl
    have sipi_iff : value &&& 0xf00#64 = 0x600#64 ↔ value.setWidth 32 &&& 0xf00#32 = 0x600#32 :=
      delivery_x2apic value _ rfl
    have near : ((value >>> 32).setWidth 32 : U32) ≤ 0xff#32 ↔ ¬ 0xff < value.toNat >>> 32 := by
      have small : value.toNat >>> 32 < 2 ^ 32 := by
        rw [Nat.shiftRight_eq_div_pow]
        have := value.isLt
        omega
      rw [BitVec.le_def, BitVec.toNat_setWidth, BitVec.toNat_ushiftRight, Nat.mod_eq_of_lt small,
        Nat.not_lt]
      rfl
    unfold icrwrite ipiByDesign processSIPI x2apicIcrwrite
    dsimp only
    rw [delivery_physical physical, passSIPI_eq listed]
    by_cases init : value &&& 0xf00#64 = 0x500#64
    · by_cases far : 0xff < value.toNat >>> 32 <;> simp [init, far, init_iff.mp init]
    by_cases sipi : value &&& 0xf00#64 = 0x600#64
    · by_cases far : 0xff < value.toNat >>> 32
      · simp [sipi, near, far]
      · simp [sipi, near, far, sipi_iff.mp sipi]
        cases sipiTargets cpu.midtable env.vcpuId (value.setWidth 32)
          ((value >>> 32).setWidth 32) with
        | none => rfl
        | some target =>
          simp only [Option.map_some, Option.bind_some, Function.comp_apply]
          split <;> rfl
    · simp [init, sipi, mt init_iff.mpr init, mt sipi_iff.mpr sipi]

/-- The boot CPU and one that waits, at the exit for a write to the register. -/
def twoCpus : MsrCpu (U32 → U64) where
  phys := fun _ => 0
  msrAreaGuest := fun _ => ⟨0, 0⟩
  ept01 := { sampleLapicCpu.ept01 with lapicOp := .write, lapicReg := LAPIC_ICR_LOW }
  midtable := [⟨0, 0, true, false, 0⟩, ⟨1, 1, false, false, 0⟩]
  msrBitmap := fun _ => 0

def icrLowRam (value : U32) (pa : Pa) : U8 :=
  if 0x10300300 ≤ pa ∧ pa < 0x10300304 then (value >>> (8 * (pa - 0x10300300).toNat)).setWidth 8 else 0

theorem sipi_to_the_other_cpu :
    (takeIpi samplePlatform 0 (icrLowRam 0xc4608) twoCpus ⟨0, 0, 0, []⟩).map
      (fun r => (r.2.1.midtable, r.2.2.sent)) =
        some ([⟨0, 0, true, false, 0⟩, ⟨1, 1, false, true, 8⟩], []) :=
  ((ipi_taken_by_design samplePlatform 0 sampleMsrEnv (icrLowRam 0xc4608) twoCpus ⟨0, 0, 0, []⟩
    ⟨by decide, by decide⟩).1 rfl rfl (by decide +kernel)).trans (by decide +kernel)

/-- A startup IPI that the boot CPU sends to itself. -/
theorem sipi_to_self_halts :
    takeIpi samplePlatform 0 (icrLowRam 0x40608) twoCpus ⟨0, 0, 0, []⟩ = none := by
  rfl

end Xmhf
