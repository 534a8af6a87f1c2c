import Xmhf.Nested.Entry
import Xmhf.Nested.Pointers

/-!
# Which VMCS12s are active, current and launched

The VMX instructions of L1 and the exits of L2 as a machine over the nested-VMX state.
`Change` lists what they do to the pointers, the launch states and the current VMCS12;
every handler makes one of these changes, and each of them keeps `Tracked`.
-/

namespace Xmhf

open BitVec (ofNat toNat toNat_ofNat)
open Option (bind_eq_some_iff map_eq_some_iff)

variable {i : Nat} {nestedEnv : NestedEnv} {ptr : U64}

variable {isVmresume : Bool} {j : Nat} {body : Option (Vmcs × VmxGuest)} {errorNumber : U32}
  {entry : VmentryEnv ω}

namespace Nested

/-- Slot `i` holds an active VMCS12. Outside VMX operation no VMCS12 is active: nothing reads
the slots before `VMXON` frees them all. -/
def Active (n : Nested) (i : Nat) : Prop :=
  n.mode ≠ .disabled ∧ i < VMX_NESTED_MAX_ACTIVE_VMCS ∧
    (n.active i).vmcs12Ptr ≠ CUR_VMCS_PTR_INVALID

structure Tracked (n : Nested) : Prop where
  distinct : ∀ i j, n.Active i → n.Active j →
    (n.active i).vmcs12Ptr = (n.active j).vmcs12Ptr → i = j
  aligned : ∀ i, n.Active i → paPageAligned4K (n.active i).vmcs12Ptr = true
  notVmxon : ∀ i, n.Active i → (n.active i).vmcs12Ptr ≠ n.vmxonPointer
  current : n.curVmcs12 = INVALID_VMCS12_INDEX ∨ ∃ i, n.curVmcs12 = BitVec.ofNat 32 i ∧ n.Active i
  launched : n.mode = .nonroot →
    ∃ i, n.curVmcs12 = BitVec.ofNat 32 i ∧ n.Active i ∧ (n.active i).launched = true

/-- The slots have the same pointers and launch states. -/
def SameSlots (n n' : Nested) : Prop :=
  ∀ i, (n'.active i).vmcs12Ptr = (n.active i).vmcs12Ptr ∧
    (n'.active i).launched = (n.active i).launched

/-- The slots other than `i` have the same pointers. -/
def SameOthers (i : Nat) (n n' : Nested) : Prop :=
  ∀ j, j ≠ i → (n'.active j).vmcs12Ptr = (n.active j).vmcs12Ptr

/-- What an instruction of L1 or an exit of L2 does to the tracked state. -/
inductive Change (n n' : Nested) : Prop where
  | values : n'.mode = n.mode → n'.vmxonPointer = n.vmxonPointer →
      n'.curVmcs12 = n.curVmcs12 → SameSlots n n' → Change n n'
  | vmxon : n'.mode = .root → n'.curVmcs12 = INVALID_VMCS12_INDEX →
      (∀ i, (n'.active i).vmcs12Ptr = CUR_VMCS_PTR_INVALID) → Change n n'
  | vmxoff : n'.mode = .disabled → n'.curVmcs12 = INVALID_VMCS12_INDEX → Change n n'
  | vmclear (i : Nat) : n.mode = .root → n'.mode = .root → n'.vmxonPointer = n.vmxonPointer →
      (n'.active i).vmcs12Ptr = CUR_VMCS_PTR_INVALID → SameOthers i n n' →
      n'.curVmcs12 = INVALID_VMCS12_INDEX ∨
        n'.curVmcs12 = n.curVmcs12 ∧ n.curVmcs12 ≠ BitVec.ofNat 32 i → Change n n'
  | select (i : Nat) : n.mode = .root → n'.mode = .root → n'.vmxonPointer = n.vmxonPointer →
      n.Active i → n'.curVmcs12 = BitVec.ofNat 32 i → SameSlots n n' → Change n n'
  | create (i : Nat) (ptr : U64) : n.mode = .root → n'.mode = .root →
      n'.vmxonPointer = n.vmxonPointer → i < VMX_NESTED_MAX_ACTIVE_VMCS →
      paPageAligned4K ptr = true → ptr ≠ n.vmxonPointer →
      (∀ j < VMX_NESTED_MAX_ACTIVE_VMCS, (n.active j).vmcs12Ptr ≠ ptr) →
      (n'.active i).vmcs12Ptr = ptr → SameOthers i n n' → n'.curVmcs12 = BitVec.ofNat 32 i →
      Change n n'
  | vmentry (i : Nat) : n.mode = .root → n'.mode = .nonroot →
      n'.vmxonPointer = n.vmxonPointer → i < VMX_NESTED_MAX_ACTIVE_VMCS →
      n.curVmcs12 = BitVec.ofNat 32 i → n'.curVmcs12 = n.curVmcs12 →
      (∀ j, (n'.active j).vmcs12Ptr = (n.active j).vmcs12Ptr) →
      (n'.active i).launched = true → Change n n'
  | vmexit : n.mode = .nonroot → n'.mode = .root → n'.vmxonPointer = n.vmxonPointer →
      n'.curVmcs12 = n.curVmcs12 → SameSlots n n' → Change n n'

theorem Change.refl (n : Nested) : Change n n := .values rfl rfl rfl fun _ => ⟨rfl, rfl⟩

/-! ## Changes keep the state tracked -/

variable {n n' : Nested}

theorem active_iff (on : n'.mode = .disabled ↔ n.mode = .disabled)
    (ptr : (n'.active i).vmcs12Ptr = (n.active i).vmcs12Ptr) : n'.Active i ↔ n.Active i := by
  unfold Active
  rw [ptr, Ne, Ne, on]

theorem Tracked.of_same (tracked : n.Tracked) (on : n'.mode = .disabled ↔ n.mode = .disabled)
    (ptrs : ∀ i, (n'.active i).vmcs12Ptr = (n.active i).vmcs12Ptr)
    (vmxon : n'.vmxonPointer = n.vmxonPointer)
    (current : n'.curVmcs12 = INVALID_VMCS12_INDEX ∨
      ∃ i, n'.curVmcs12 = ofNat 32 i ∧ n.Active i)
    (launched : n'.mode = .nonroot →
      ∃ i, n'.curVmcs12 = ofNat 32 i ∧ n.Active i ∧ (n'.active i).launched = true) :
    n'.Tracked where
  distinct i j activeI activeJ same := by
    rw [ptrs i, ptrs j] at same
    exact tracked.distinct i j ((active_iff on (ptrs i)).mp activeI)
      ((active_iff on (ptrs j)).mp activeJ) same
  aligned i active := by
    rw [ptrs i]
    exact tracked.aligned i ((active_iff on (ptrs i)).mp active)
  notVmxon i active := by
    rw [ptrs i, vmxon]
    exact tracked.notVmxon i ((active_iff on (ptrs i)).mp active)
  current := by
    rcases current with invalid | ⟨i, cur, active⟩
    · exact .inl invalid
    · exact .inr ⟨i, cur, (active_iff on (ptrs i)).mpr active⟩
  launched l2 := by
    obtain ⟨i, cur, active, flag⟩ := launched l2
    exact ⟨i, cur, (active_iff on (ptrs i)).mpr active, flag⟩

theorem Tracked.of_none (none : ∀ i, ¬n'.Active i)
    (current : n'.curVmcs12 = INVALID_VMCS12_INDEX) (l1 : n'.mode ≠ .nonroot) : n'.Tracked where
  distinct i _ active := absurd active (none i)
  aligned i active := absurd active (none i)
  notVmxon i active := absurd active (none i)
  current := .inl current
  launched l2 := absurd l2 l1

section

variable (tracked : n.Tracked) (root : n.mode = .root) (root' : n'.mode = .root)
  (vmxon : n'.vmxonPointer = n.vmxonPointer)

include tracked root root' vmxon

theorem Tracked.vmclear (freed : (n'.active i).vmcs12Ptr = CUR_VMCS_PTR_INVALID)
    (others : SameOthers i n n')
    (current : n'.curVmcs12 = INVALID_VMCS12_INDEX ∨ n'.curVmcs12 = n.curVmcs12 ∧ n.curVmcs12 ≠
      ofNat 32 i)
    : n'.Tracked := by
  have on : n'.mode = .disabled ↔ n.mode = .disabled := by rw [root, root']
  -- an active slot is another one than the slot that is freed
  have other : ∀ j, n'.Active j → j ≠ i := by
    intro j active same
    subst same
    exact active.2.2 freed
  have before : ∀ j, n'.Active j → n.Active j := fun j active =>
    (active_iff on (others j (other j active))).mp active
  refine ⟨?_, ?_, ?_, ?_, ?_⟩
  · intro j k activeJ activeK same
    rw [others j (other j activeJ), others k (other k activeK)] at same
    exact tracked.distinct j k (before j activeJ) (before k activeK) same
  · intro j active
    rw [others j (other j active)]
    exact tracked.aligned j (before j active)
  · intro j active
    rw [others j (other j active), vmxon]
    exact tracked.notVmxon j (before j active)
  · rcases current with invalid | ⟨kept, notFreed⟩
    · exact .inl invalid
    · rcases tracked.current with invalid | ⟨j, cur, active⟩
      · exact .inl (kept.trans invalid)
      · have apart : j ≠ i := by
          intro same
          subst same
          exact notFreed cur
        exact .inr ⟨j, kept.trans cur, (active_iff on (others j apart)).mpr active⟩
  · intro l2
    rw [root'] at l2
    cases l2

theorem Tracked.create (inside : i < VMX_NESTED_MAX_ACTIVE_VMCS)
    (aligned : paPageAligned4K ptr = true) (notVmxon : ptr ≠ n.vmxonPointer)
    (fresh : ∀ j < VMX_NESTED_MAX_ACTIVE_VMCS, (n.active j).vmcs12Ptr ≠ ptr)
    (stored : (n'.active i).vmcs12Ptr = ptr) (others : SameOthers i n n')
    (current : n'.curVmcs12 = ofNat 32 i) : n'.Tracked := by
  have on : n'.mode = .disabled ↔ n.mode = .disabled := by rw [root, root']
  have before : ∀ j, j ≠ i → n'.Active j → n.Active j := fun j other active =>
    (active_iff on (others j other)).mp active
  have valid : ptr ≠ CUR_VMCS_PTR_INVALID := by
    intro same
    subst same
    exact absurd aligned (by decide)
  have active : n'.Active i := ⟨by rw [root']; decide, inside, by rw [stored]; exact valid⟩
  -- no other slot holds the new pointer
  have apart : ∀ j, n'.Active j → (n'.active j).vmcs12Ptr = ptr → j = i := by
    intro j activeJ same
    by_contra other
    rw [others j other] at same
    exact fresh j activeJ.2.1 same
  refine ⟨?_, ?_, ?_, .inr ⟨i, current, active⟩, ?_⟩
  · intro j k activeJ activeK same
    by_cases atJ : j = i
    · subst atJ
      exact (apart k activeK (same.symm.trans stored)).symm
    · by_cases atK : k = i
      · subst atK
        exact apart j activeJ (same.trans stored)
      · rw [others j atJ, others k atK] at same
        exact tracked.distinct j k (before j atJ activeJ) (before k atK activeK) same
  · intro j activeJ
    by_cases atJ : j = i
    · rw [atJ, stored]
      exact aligned
    · rw [others j atJ]
      exact tracked.aligned j (before j atJ activeJ)
  · intro j activeJ
    rw [vmxon]
    by_cases atJ : j = i
    · rw [atJ, stored]
      exact notVmxon
    · rw [others j atJ]
      exact tracked.notVmxon j (before j atJ activeJ)
  · intro l2
    rw [root'] at l2
    cases l2

end

theorem ofNat_slot_inj (insideI : i < VMX_NESTED_MAX_ACTIVE_VMCS)
    (insideJ : j < VMX_NESTED_MAX_ACTIVE_VMCS) (same : ofNat 32 i = ofNat 32 j) :
    i = j := by
  have values := congrArg toNat same
  unfold VMX_NESTED_MAX_ACTIVE_VMCS at insideI insideJ
  simp only [toNat_ofNat] at values
  omega

theorem Tracked.active_of_current (tracked : n.Tracked) (inside : i < VMX_NESTED_MAX_ACTIVE_VMCS)
    (cur : n.curVmcs12 = ofNat 32 i) : n.Active i := by
  rcases tracked.current with invalid | ⟨j, curJ, active⟩
  · have values := congrArg toNat (cur.symm.trans invalid)
    have none : INVALID_VMCS12_INDEX.toNat = 2 ^ 32 - 1 := rfl
    unfold VMX_NESTED_MAX_ACTIVE_VMCS at inside
    rw [toNat_ofNat, none] at values
    omega
  · have same := ofNat_slot_inj inside active.2.1 (cur.symm.trans curJ)
    subst same
    exact active

theorem Tracked.change (tracked : n.Tracked) (change : Change n n') : n'.Tracked := by
  cases change with
  | values mode vmxon cur slots =>
    refine tracked.of_same (by rw [mode]) (fun i => (slots i).1) vmxon ?_ ?_
    · rw [cur]
      exact tracked.current
    · intro l2
      rw [mode] at l2
      obtain ⟨i, curI, active, flag⟩ := tracked.launched l2
      exact ⟨i, cur.trans curI, active, (slots i).2.trans flag⟩
  | vmxon mode cur freed =>
    refine .of_none (fun i active => active.2.2 (freed i)) cur ?_
    rw [mode]
    decide
  | vmxoff mode cur =>
    refine .of_none (fun i active => active.1 mode) cur ?_
    rw [mode]
    decide
  | vmclear i root root' vmxon freed others cur =>
    exact tracked.vmclear root root' vmxon freed others cur
  | select i root root' vmxon active cur slots =>
    refine tracked.of_same (by rw [root, root']) (fun i => (slots i).1) vmxon
      (.inr ⟨i, cur, active⟩) ?_
    intro l2
    rw [root'] at l2
    cases l2
  | create i ptr root root' vmxon inside aligned notVmxon fresh stored others cur =>
    exact tracked.create root root' vmxon inside aligned notVmxon fresh stored others cur
  | vmentry i root l2 vmxon inside curI cur ptrs flag =>
    have active := tracked.active_of_current inside curI
    refine tracked.of_same (by rw [root, l2]; decide) ptrs vmxon
      (.inr ⟨i, cur.trans curI, active⟩) ?_
    intro _
    exact ⟨i, cur.trans curI, active, flag⟩
  | vmexit l2 root vmxon cur slots =>
    refine tracked.of_same (by rw [l2, root]; decide) (fun i => (slots i).1) vmxon ?_ ?_
    · rw [cur]
      exact tracked.current
    · intro again
      rw [root] at again
      cases again

end Nested

/-! ## What the handlers change -/

section

open Nested

variable {ω : Type} {env : VmxInstEnv} {vmcs vmcs' : Vmcs} {s s' : VmxGuest}

theorem findActiveVmcs12_some {n : Nested} (found : findActiveVmcs12 n ptr = some i) :
    i < VMX_NESTED_MAX_ACTIVE_VMCS ∧ (n.active i).vmcs12Ptr = ptr := by
  have inside := List.mem_of_find?_eq_some found
  have holds := List.find?_some found
  exact ⟨List.mem_range.mp inside, beq_iff_eq.mp holds⟩

theorem findActiveVmcs12_none {n : Nested} (missing : findActiveVmcs12 n ptr = none)
    (inside : i < VMX_NESTED_MAX_ACTIVE_VMCS) : (n.active i).vmcs12Ptr ≠ ptr := by
  have refuses := List.find?_eq_none.mp missing i (List.mem_range.mpr inside)
  intro same
  exact refuses (beq_iff_eq.mpr same)

theorem findCurrent_some {n : Nested} (found : n.findCurrent = some i) :
    i < VMX_NESTED_MAX_ACTIVE_VMCS ∧ n.curVmcs12 = ofNat 32 i := by
  unfold findCurrent at found
  split at found
  · next valid =>
    cases found
    refine ⟨valid.2, ?_⟩
    rw [BitVec.ofNat_toNat, BitVec.setWidth_eq]
  · cases found

theorem modify_other {n : Nested} (other : j ≠ i) (f : Vmcs12Slot → Vmcs12Slot) :
    (n.modify i f).active j = n.active j := Function.update_of_ne other _ _

theorem modify_self (n : Nested) (i : Nat) (f : Vmcs12Slot → Vmcs12Slot) :
    (n.modify i f).active i = f (n.active i) := Function.update_self _ _ _

theorem modify_value_slots (n : Nested) (i : Nat) (value : Vmcs12Slot → Vmcs) :
    SameSlots n (n.modify i fun slot => { slot with vmcs12Value := value slot }) := by
  intro j
  by_cases here : j = i
  · subst here
    rw [modify_self]
    exact ⟨rfl, rfl⟩
  · rw [modify_other here]
    exact ⟨rfl, rfl⟩

theorem readShadow_same (env : VmxInstEnv) (n : Nested) (i : Nat) :
    (readShadow env n i).mode = n.mode ∧ (readShadow env n i).vmxonPointer = n.vmxonPointer ∧
      (readShadow env n i).curVmcs12 = n.curVmcs12 ∧ SameSlots n (readShadow env n i) := by
  unfold readShadow
  split
  · exact ⟨rfl, rfl, rfl, modify_value_slots _ _ _⟩
  · exact ⟨rfl, rfl, rfl, fun _ => ⟨rfl, rfl⟩⟩

theorem vmxFailValid_change (failed : vmxFailValid vmcs s errorNumber = some (vmcs', s')) :
    Change s.nested s'.nested := by
  obtain ⟨nested, error, result⟩ := map_eq_some_iff.mp failed
  obtain ⟨i, -, rfl⟩ := map_eq_some_iff.mp error
  cases result
  exact .values rfl rfl rfl (modify_value_slots s.nested i fun slot =>
    slot.vmcs12Value.vmwrite .infoVminstrError errorNumber)

theorem vmxFail_change (failed : vmxFail vmcs s errorNumber = some (vmcs', s')) :
    Change s.nested s'.nested := by
  unfold vmxFail at failed
  split at failed
  · exact vmxFailValid_change failed
  · cases failed
    exact .refl _

theorem vmxRetire_some (retired : vmxRetire body = some (vmcs', s')) :
    ∃ vmcs'', body = some (vmcs'', s') := by
  obtain ⟨⟨vmcs'', after⟩, run, result⟩ := map_eq_some_iff.mp retired
  cases result
  exact ⟨vmcs'', run⟩

theorem vmxChecked_change
    (change : s.nested.mode = .root → body = some (vmcs', s') → Change s.nested s'.nested)
    (run : vmxChecked env vmcs s body = some (vmcs', s')) : Change s.nested s'.nested := by
  obtain ⟨ud, -, rest⟩ := bind_eq_some_iff.mp run
  split at rest
  · cases rest
    exact .refl _
  split at rest
  · cases rest
  · next root =>
    split at rest
    · cases rest
      exact .refl _
    · exact change (not_not.mp root) rest

theorem vmclearActive_change (root : s.nested.mode = .root)
    (run : vmclearActive env vmcs s ptr i = some (vmcs', s')) : Change s.nested s'.nested := by
  unfold vmclearActive at run
  obtain ⟨ram, -, result⟩ := map_eq_some_iff.mp run
  obtain ⟨mode, vmxon, cur, slots⟩ := readShadow_same env s.nested i
  have others : SameOthers i s.nested ((readShadow env s.nested i).modify i fun slot =>
      { slot with vmcs12Ptr := CUR_VMCS_PTR_INVALID }) := by
    intro j other
    rw [modify_other other]
    exact (slots j).1
  have freed := congrArg Vmcs12Slot.vmcs12Ptr (modify_self (readShadow env s.nested i) i fun slot =>
    { slot with vmcs12Ptr := CUR_VMCS_PTR_INVALID })
  dsimp only at result
  split at result
  · cases result
    exact .vmclear i root (mode.trans root) vmxon freed others (.inl rfl)
  · next notCurrent =>
    cases result
    refine .vmclear i root (mode.trans root) vmxon freed others (.inr ⟨cur, ?_⟩)
    rw [← cur]
    exact notCurrent

theorem handleVmclear_change (run : handleVmclear env vmcs s = some (vmcs', s')) :
    Change s.nested s'.nested := by
  refine vmxChecked_change (fun root body => ?_) run
  obtain ⟨vmcs'', body⟩ := vmxRetire_some body
  obtain ⟨ptr, -, body⟩ := bind_eq_some_iff.mp body
  obtain ⟨valid, -, body⟩ := bind_eq_some_iff.mp body
  split at body
  · exact vmxFail_change body
  split at body
  · exact vmxFail_change body
  split at body
  · exact vmclearActive_change root body
  · cases body
    exact .refl _

theorem vmptrld_change {nested : Nested} (root : s.nested.mode = .root)
    (aligned : paPageAligned4K ptr = true) (notVmxon : ptr ≠ s.nested.vmxonPointer)
    (slot : vmptrldSlot env vmcs s ptr = some (i, nested)) :
    Change s.nested { nested with curVmcs12 := ofNat 32 i } := by
  unfold vmptrldSlot at slot
  split at slot
  · next found =>
    cases slot
    obtain ⟨inside, holds⟩ := findActiveVmcs12_some found
    have valid : ptr ≠ CUR_VMCS_PTR_INVALID := by
      intro same
      subst same
      exact absurd aligned (by decide)
    refine .select i root root rfl ⟨by rw [root]; decide, inside, ?_⟩ rfl fun _ => ⟨rfl, rfl⟩
    rw [holds]
    exact valid
  · next missing =>
    obtain ⟨⟨j, created⟩, new, slot⟩ := bind_eq_some_iff.mp slot
    obtain ⟨bytes, -, result⟩ := map_eq_some_iff.mp slot
    unfold newActiveVmcs12 at new
    split at new
    · cases new
    · obtain ⟨free, found, pair⟩ := map_eq_some_iff.mp new
      cases pair
      cases result
      refine .create i ptr root root rfl (findActiveVmcs12_some found).1 aligned notVmxon
        (fun j inside => findActiveVmcs12_none missing inside) ?_ ?_ rfl
      · rw [modify_self, modify_self]
      · intro j other
        rw [modify_other other, modify_other other]

theorem handleVmptrld_change (run : handleVmptrld env vmcs s = some (vmcs', s')) :
    Change s.nested s'.nested := by
  refine vmxChecked_change (fun root body => ?_) run
  obtain ⟨vmcs'', body⟩ := vmxRetire_some body
  obtain ⟨ptr, -, body⟩ := bind_eq_some_iff.mp body
  obtain ⟨valid, checked, body⟩ := bind_eq_some_iff.mp body
  split at body
  · exact vmxFail_change body
  · next accepted =>
    split at body
    · exact vmxFail_change body
    · next notVmxon =>
      obtain ⟨matching, -, body⟩ := bind_eq_some_iff.mp body
      split at body
      · exact vmxFail_change body
      · obtain ⟨⟨i, nested⟩, slot, result⟩ := map_eq_some_iff.mp body
        cases result
        refine vmptrld_change root ?_ notVmxon slot
        unfold vmxCheckPointer at checked
        split at checked
        · next aligned => exact aligned
        · cases checked
          exact absurd rfl accepted

theorem handleVmptrst_change (run : handleVmptrst env vmcs s = some (vmcs', s')) :
    Change s.nested s'.nested := by
  refine vmxChecked_change (fun root body => ?_) run
  obtain ⟨vmcs'', body⟩ := vmxRetire_some body
  obtain ⟨addr, -, body⟩ := bind_eq_some_iff.mp body
  obtain ⟨ptr, -, body⟩ := bind_eq_some_iff.mp body
  obtain ⟨ram, -, result⟩ := map_eq_some_iff.mp body
  cases result
  exact .refl _

theorem handleVmxoff_change (run : handleVmxoff env vmcs s = some (vmcs', s')) :
    Change s.nested s'.nested := by
  refine vmxChecked_change (fun root body => ?_) run
  obtain ⟨vmcs'', body⟩ := vmxRetire_some body
  cases body
  exact .vmxoff rfl rfl

theorem handleVmxon_change (run : handleVmxon env vmcs s = some (vmcs', s')) :
    Change s.nested s'.nested := by
  obtain ⟨ud, -, rest⟩ := bind_eq_some_iff.mp run
  split at rest
  · cases rest
    exact .refl _
  split at rest
  · split at rest
    · obtain ⟨vmcs'', body⟩ := vmxRetire_some rest
      obtain ⟨ptr, -, body⟩ := bind_eq_some_iff.mp body
      obtain ⟨valid, -, body⟩ := bind_eq_some_iff.mp body
      split at body
      · cases body
        exact .refl _
      · obtain ⟨matching, -, result⟩ := map_eq_some_iff.mp body
        split at result
        · cases result
          exact .refl _
        · cases result
          exact .vmxon rfl rfl fun _ => rfl
    · cases rest
      exact .refl _
  · cases rest
  · split at rest
    · cases rest
      exact .refl _
    · obtain ⟨vmcs'', body⟩ := vmxRetire_some rest
      exact vmxFail_change body

/-! `VMREAD` and `VMWRITE` -/

theorem vmrwRun_change {transfer : VmrwTransfer} {plan : VmrwPlan}
    (moved : ∀ cr4 size encoding operand vmcs' s',
      transfer nestedEnv cr4 vmcs s size encoding operand = some (vmcs', s') →
        Change s.nested s'.nested) (run : vmrwRun transfer nestedEnv vmcs s plan = some (vmcs', s')) :
    Change s.nested s'.nested := by
  cases plan with
  | exception vector hasEc | failInvalid =>
    cases run
    exact .refl _
  | failValid errorNumber =>
    obtain ⟨nested, error, result⟩ := map_eq_some_iff.mp run
    obtain ⟨i, -, rfl⟩ := map_eq_some_iff.mp error
    cases result
    exact .values rfl rfl rfl (modify_value_slots s.nested i fun slot =>
      slot.vmcs12Value.vmwrite .infoVminstrError errorNumber)
  | transfer size encoding operand =>
    obtain ⟨⟨vmcs'', after⟩, made, result⟩ := map_eq_some_iff.mp run
    cases result
    exact moved _ _ _ _ _ _ made

theorem storeOperand_nested {cr4 value : U64} {size : Nat} {operand : VmrwOperand}
    (stored : storeOperand nestedEnv cr4 vmcs s size value operand = some (vmcs', s')) :
    s'.nested = s.nested := by
  unfold storeOperand at stored
  split at stored
  · cases stored
    rfl
  · cases stored
    rfl
  · obtain ⟨ram, -, result⟩ := map_eq_some_iff.mp stored
    cases result
    rfl

theorem handleVmread_change (run : handleVmread nestedEnv vmcs s = some (vmcs', s')) :
    Change s.nested s'.nested := by
  obtain ⟨plan, -, run⟩ := bind_eq_some_iff.mp run
  refine vmrwRun_change (fun cr4 size encoding operand vmcs' s' moved => ?_) run
  obtain ⟨i, -, moved⟩ := bind_eq_some_iff.mp moved
  obtain ⟨value, -, stored⟩ := bind_eq_some_iff.mp moved
  rw [storeOperand_nested stored]
  exact .refl _

theorem handleVmwrite_change (run : handleVmwrite nestedEnv vmcs s = some (vmcs', s')) :
    Change s.nested s'.nested := by
  obtain ⟨plan, -, run⟩ := bind_eq_some_iff.mp run
  refine vmrwRun_change (fun cr4 size encoding operand vmcs' s' moved => ?_) run
  obtain ⟨i, -, moved⟩ := bind_eq_some_iff.mp moved
  obtain ⟨value, -, moved⟩ := bind_eq_some_iff.mp moved
  obtain ⟨vmcs12, -, result⟩ := map_eq_some_iff.mp moved
  cases result
  exact .values rfl rfl rfl (modify_value_slots s.nested i fun _ => vmcs12)

/-! `VMLAUNCH`, `VMRESUME` and exits -/

theorem Nested.SameSlots.trans {n m k : Nested} (first : SameSlots n m) (second : SameSlots m k) :
    SameSlots n k := fun i => ⟨(second i).1.trans (first i).1, (second i).2.trans (first i).2⟩

theorem enterL2_change {n : Nested} (root : n.mode = .root)
    (vmxon : s.nested.vmxonPointer = n.vmxonPointer) (cur : s.nested.curVmcs12 = n.curVmcs12)
    (slots : SameSlots n s.nested) (inside : i < VMX_NESTED_MAX_ACTIVE_VMCS)
    (current : n.curVmcs12 = ofNat 32 i) : Change n (enterL2 s i).nested := by
  refine .vmentry i root rfl vmxon inside current cur (fun j => ?_) ?_
  · change ((s.nested.modify i fun slot => { slot with launched := true }).active j).vmcs12Ptr =
      (n.active j).vmcs12Ptr
    by_cases here : j = i
    · subst here
      rw [modify_self]
      exact (slots j).1
    · rw [modify_other here]
      exact (slots j).1
  · change ((s.nested.modify i fun slot => { slot with launched := true }).active i).launched = true
    rw [modify_self]

theorem vmlaunchVmresumeSlot_change (root : s.nested.mode = .root)
    (inside : i < VMX_NESTED_MAX_ACTIVE_VMCS) (current : s.nested.curVmcs12 = ofNat 32 i)
    (run : vmlaunchVmresumeSlot env entry vmcs s isVmresume i = some (vmcs', s')) :
    Change s.nested s'.nested := by
  unfold vmlaunchVmresumeSlot at run
  split at run
  · obtain ⟨vmcs'', body⟩ := vmxRetire_some run
    exact vmxFailValid_change body
  split at run
  · obtain ⟨vmcs'', body⟩ := vmxRetire_some run
    exact vmxFailValid_change body
  obtain ⟨⟨status, after⟩, entered, rest⟩ := bind_eq_some_iff.mp run
  obtain ⟨mode, vmxon, cur, slots⟩ := readShadow_same env s.nested i
  unfold handleVmentry at entered
  split at entered
  · obtain ⟨⟨status', result⟩, -, outcome⟩ := bind_eq_some_iff.mp entered
    dsimp only at outcome
    split at outcome
    · split at outcome
      · cases outcome
        cases rest
        exact enterL2_change root vmxon cur slots inside current
      · cases outcome
    · next failure =>
      cases outcome
      cases status with
      | success => exact absurd rfl failure
      | errnoVmentryInvalidCtrl =>
        obtain ⟨vmcs'', failed⟩ := vmxRetire_some rest
        obtain ⟨nested, error, result⟩ := map_eq_some_iff.mp failed
        obtain ⟨j, -, rfl⟩ := map_eq_some_iff.mp error
        cases result
        exact .values mode vmxon cur (Nested.SameSlots.trans slots (modify_value_slots _ j fun slot =>
          slot.vmcs12Value.vmwrite .infoVminstrError VM_INST_ERRNO_VMENTRY_INVALID_CTRL))
  · cases entered

theorem handleVmlaunchVmresume_change
    (run : handleVmlaunchVmresume env entry vmcs s isVmresume = some (vmcs', s')) :
    Change s.nested s'.nested := by
  refine vmxChecked_change (fun root body => ?_) run
  split at body
  · obtain ⟨vmcs'', body⟩ := vmxRetire_some body
    cases body
    exact .refl _
  split at body
  · obtain ⟨vmcs'', body⟩ := vmxRetire_some body
    exact vmxFailValid_change body
  · obtain ⟨i, found, body⟩ := bind_eq_some_iff.mp body
    obtain ⟨inside, current⟩ := findCurrent_some found
    exact vmlaunchVmresumeSlot_change root inside current body

theorem handleVmexit_change {n n' : Nested} {exit : NestedVmexit}
    (run : handleVmexit n exit = some n') : Change n n' := by
  cases exit with
  | handled =>
    obtain ⟨i, -, rfl⟩ := map_eq_some_iff.mp run
    exact .refl _
  | forwarded vmcs12 =>
    obtain ⟨i, -, rest⟩ := bind_eq_some_iff.mp run
    split at rest
    · next l2 =>
      cases rest
      exact .vmexit l2 rfl rfl rfl (modify_value_slots n i fun _ => vmcs12)
    · cases rest

end

/-! ## The machine -/

/-- What L1 has set up when it executes an instruction. -/
structure L1 where
  env : VmxInstEnv
  vmcs : Vmcs
  regs : Regs
  ram : Pa → U8

inductive NestedOp (ω : Type) where
  | vmxon (l1 : L1)
  | vmxoff (l1 : L1)
  | vmclear (l1 : L1)
  | vmptrld (l1 : L1)
  | vmptrst (l1 : L1)
  | vmread (l1 : L1)
  | vmwrite (l1 : L1)
  | vmlaunch (l1 : L1) (entry : VmentryEnv ω)
  | vmresume (l1 : L1) (entry : VmentryEnv ω)
  | vmexit (exit : NestedVmexit)

def L1.execute (l1 : L1) (n : Nested)
    (handler : Vmcs → VmxGuest → Option (Vmcs × VmxGuest)) : Option Nested :=
  (handler l1.vmcs ⟨l1.regs, l1.ram, n⟩).map fun result => result.2.nested

variable {ω : Type}

def nestedStep (n : Nested) : NestedOp ω → Option Nested
  | .vmxon l1 => l1.execute n (handleVmxon l1.env)
  | .vmxoff l1 => l1.execute n (handleVmxoff l1.env)
  | .vmclear l1 => l1.execute n (handleVmclear l1.env)
  | .vmptrld l1 => l1.execute n (handleVmptrld l1.env)
  | .vmptrst l1 => l1.execute n (handleVmptrst l1.env)
  | .vmread l1 => l1.execute n (handleVmread l1.env.toNestedEnv)
  | .vmwrite l1 => l1.execute n (handleVmwrite l1.env.toNestedEnv)
  | .vmlaunch l1 entry =>
    l1.execute n fun vmcs s => handleVmlaunchVmresume l1.env entry vmcs s false
  | .vmresume l1 entry =>
    l1.execute n fun vmcs s => handleVmlaunchVmresume l1.env entry vmcs s true
  | .vmexit exit => handleVmexit n exit

/-- The nested-VMX state of a CPU from `xmhf_nested_arch_x86vmx_vcpu_init` on. Before the
first `VMXON` the slots hold whatever memory holds. -/
def nestedMachine (ω : Type) : Machine Nested (NestedOp ω) where
  init n := n.mode = .disabled ∧ n.vmxonPointer = 0 ∧ n.curVmcs12 = INVALID_VMCS12_INDEX
  step := nestedStep

theorem execute_change {l1 : L1} {n n' : Nested}
    {handler : Vmcs → VmxGuest → Option (Vmcs × VmxGuest)}
    (change : ∀ s vmcs' s', handler l1.vmcs s = some (vmcs', s') → Nested.Change s.nested s'.nested)
    (run : l1.execute n handler = some n') : Nested.Change n n' := by
  obtain ⟨⟨vmcs', s'⟩, handled, rfl⟩ := map_eq_some_iff.mp run
  exact change ⟨l1.regs, l1.ram, n⟩ vmcs' s' handled

theorem nestedStep_change {n n' : Nested} {o : NestedOp ω} (step : nestedStep n o = some n') :
    Nested.Change n n' := by
  cases o with
  | vmxon l1 => exact execute_change (fun _ _ _ => handleVmxon_change) step
  | vmxoff l1 => exact execute_change (fun _ _ _ => handleVmxoff_change) step
  | vmclear l1 => exact execute_change (fun _ _ _ => handleVmclear_change) step
  | vmptrld l1 => exact execute_change (fun _ _ _ => handleVmptrld_change) step
  | vmptrst l1 => exact execute_change (fun _ _ _ => handleVmptrst_change) step
  | vmread l1 => exact execute_change (fun _ _ _ => handleVmread_change) step
  | vmwrite l1 => exact execute_change (fun _ _ _ => handleVmwrite_change) step
  | vmlaunch l1 entry | vmresume l1 entry =>
    unfold nestedStep at step
    exact execute_change (fun _ _ _ run => handleVmlaunchVmresume_change run) step
  | vmexit exit => exact handleVmexit_change step

/-- In every run of L1's VMX instructions and L2's exits the VMCS12s are tracked. -/
theorem nested_state_tracked {n : Nested} (reached : (nestedMachine ω).Reachable n) :
    n.Tracked := by
  apply reached.invariant
  · intro n start
    obtain ⟨disabled, -, none⟩ := start
    refine .of_none (fun i active => active.1 disabled) none ?_
    rw [disabled]
    decide
  · intro n o n' tracked _ step
    exact tracked.change (nestedStep_change step)

def sampleL1 (operand : U64) : L1 where
  env :=
    { mem01 := fun pm _ => if pm = 0x1000 then 0x2007 else if pm = 0x2000 then 0x87 else 0
      efer := some 0
      vmcsShadowing := false
      vmxMsrs := fun
        | .basic => 1
        | .cr0Fixed0 | .cr4Fixed0 => 0
        | .cr0Fixed1 | .cr4Fixed1 => 0xffffffff
        | _ => 0xffffffff00000000
      vmxCaps := fun _ => 0xffffffff
      cpuidMaxExtended := 0x80000008
      cpuidAddrSizes := 39
      shadowPtr := fun _ => 0
      shadow := fun _ _ => 0
      blankPage := 0 }
  vmcs := fun
    | .guestCR0 => 1
    | .guestCR3 => 0x2000
    | .guestCR4 => 0x2000
    | .guestDSAccessRights => 0xc093
    | .guestDSLimit => 0xffffffff
    | .controlEPTPointer => 0x1000
    | .infoVmxInstructionInformation => 0x8418080
    | .infoExitQualification => operand
    | _ => 0
  regs := fun _ => 0
  ram := fun pa =>
    if pa = 0x2000 then 0x87
    else if pa = 0x3001 then 0x40
    else if pa = 0x3009 then 0x50
    else if pa = 0x4000 ∨ pa = 0x5000 then 1
    else 0

def sampleVmentryEnv : VmentryEnv Unit where
  arg := sampleVmentryArg sampleVmcs12 7
  start := { sampleVmentry with
    vpid := sampleVpidCpu
    info := { sampleVmentry.info with
      vmentryMsrLoadArea := fun i => ⟨if i = 0 then MSR_EFER else MSR_IA32_PAT, 0⟩ } }
  nestEntry := true
  enters _ := true

def sampleNested : Nested where
  mode := .disabled
  vmxonPointer := 0
  curVmcs12 := INVALID_VMCS12_INDEX
  active _ := ⟨0, fun _ => 0, false⟩

def sampleLaunch : List (NestedOp Unit) :=
  [.vmxon (sampleL1 0x3000), .vmptrld (sampleL1 0x3008), .vmlaunch (sampleL1 0) sampleVmentryEnv]

theorem nested_state_tracked_launched :
    ∃ n, (nestedMachine Unit).run sampleNested sampleLaunch = some n ∧ n.mode = .nonroot ∧
      n.Tracked := by
  have mode : ((nestedMachine Unit).run sampleNested sampleLaunch).map Nested.mode =
      some .nonroot := by
    decide +kernel
  obtain ⟨n, run, l2⟩ := Option.map_eq_some_iff.mp mode
  have start : (nestedMachine Unit).Reachable sampleNested := .init ⟨rfl, rfl, rfl⟩
  exact ⟨n, run, l2, nested_state_tracked (start.run run)⟩

end Xmhf
