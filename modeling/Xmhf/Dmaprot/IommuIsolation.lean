import Xmhf.Dmaprot.IommuTables

/-!
# DMA stays out of XMHF and out of freed tables

All tables that exist have pages of their own, and every context entry is for a table that exists
or for the one of the untrusted OS. This holds as long as no table is destroyed while a device is
bound to it, and no page is mapped at an address, or to one, that the hardware cuts off.
-/

namespace Xmhf

open Function (update update_of_ne update_self)

variable {status : Bool} {other : IommuPtInfo} {levels h : Nat} {flags ptHandle : U32}
  {root gpa spa : U64}

variable (cfg : IommuConfig)

def Iommu.mem (s : Iommu) (info : IommuPtInfo) : PtMem :=
  ⟨s.store, s.used, s.allocations, info.usedMem⟩

/-- The table has a root, and owns what it translates through. -/
def TableOk (s : Iommu) (info : IommuPtInfo) : Prop :=
  ∃ levels root, cfg.levels = some levels ∧ info.ptRoot = some root ∧
    ∃ own, Owned cfg own (s.mem info) ∧ own root = some (levels, Set.univ)

/-- The context entry is for the table of the untrusted OS, or for a table that exists. -/
def Iommu.EntryOk (s : Iommu) (entry : CetEntry) : Prop :=
  entry.root = cfg.eapRoot ∨
    ∃ h info, s.pts h = some info ∧ info.ptRoot = some entry.root ∧ entry.levels = cfg.levels

structure IommuInv (s : Iommu) : Prop where
  tables : ∀ h info, s.pts h = some info → TableOk cfg s info
  disjoint : ∀ h h' info info', s.pts h = some info → s.pts h' = some info' → h ≠ h' →
    ∀ n ∈ info.usedMem, n ∉ info'.usedMem
  entries : ∀ device, s.EntryOk cfg (s.cet device)

/-- A table is destroyed only while no context entry is for it, and is created only if a slot is free
(the machine has no step otherwise). A page is mapped with known
flags, at an address that the tables cover and to one that fits into an entry. -/
def IommuOk (s : Iommu) : IommuOp → Prop
  | .destroy ptHandle => ∀ info, s.getPt ptHandle = some info →
      ∀ device, some (s.cet device).root ≠ info.ptRoot
  | .map _ gpa spa flags => (flags = DMA_ALLOW_ACCESS ∨ flags = DMA_DENY_ACCESS) ∧
      spa.toNat < 2 ^ 52 ∧ ∀ levels, cfg.levels = some levels → gpa.toNat < 2 ^ (9 * levels + 12)
  | _ => True

variable {cfg} {s s' : Iommu} {info info' : IommuPtInfo}

/-! ## One table -/

theorem TableOk.inUse (ok : TableOk cfg s info) : ∀ n ∈ info.usedMem, s.used n = true := by
  obtain ⟨levels, root, -, -, own, owned, -⟩ := ok
  exact owned.inUse

theorem TableOk.frame (ok : TableOk cfg s other) (frame : PtFrame (s.mem info) (s'.mem info'))
    (apart : ∀ n ∈ other.usedMem, n ∉ info.usedMem) : TableOk cfg s' other := by
  obtain ⟨levels, root, known, rooted, own, owned, table⟩ := ok
  have same : ∀ n, own n ≠ none → s'.store n = s.store n := fun n owner =>
    frame.outside n (owned.inUse n (owned.listed n owner)) (apart n (owned.listed n owner))
  refine ⟨levels, root, known, rooted, own, ⟨owned.covers.congr same, ?_, owned.listed, ?_,
    owned.pages⟩, table⟩
  · intro n l R i owner nonzero
    have kept : (s'.mem other).store n = (s.mem other).store n := same n (by rw [owner]; nofun)
    rw [kept] at nonzero ⊢
    exact owned.clean n l R i owner nonzero
  · exact fun n mem => frame.more n (owned.inUse n mem)

theorem TableOk.translate_frame (ok : TableOk cfg s other)
    (frame : PtFrame (s.mem info) (s'.mem info')) (apart : ∀ n ∈ other.usedMem, n ∉ info.usedMem)
    (known : cfg.levels = some levels) (rooted : other.ptRoot = some root) (gpa : U64) :
    vtdTranslate s'.store levels root gpa = vtdTranslate s.store levels root gpa := by
  obtain ⟨levels', root', known', rooted', own, owned, table⟩ := ok
  cases known.symm.trans known'
  cases rooted.symm.trans rooted'
  have same : ∀ n, own n ≠ none → s'.store n = s.store n := fun n owner =>
    frame.outside n (owned.inUse n (owned.listed n owner)) (apart n (owned.listed n owner))
  have walks : vtdShape.walk s'.store gpa levels root = vtdShape.walk s.store gpa levels root :=
    owned.covers.walk_congr same table trivial
  unfold vtdTranslate
  rw [walks]

section

variable (ok : TableOk cfg s info) (known : cfg.levels = some levels)
  (rooted : info.ptRoot = some root)

include ok known rooted

theorem TableOk.protects {spa : Nat}
    (translates : vtdTranslate s.store levels root gpa = some spa) : ¬ cfg.Mhv spa := by
  obtain ⟨levels', root', known', rooted', own, owned, table⟩ := ok
  cases known.symm.trans known'
  cases rooted.symm.trans rooted'
  unfold vtdTranslate at translates
  split at translates
  · obtain ⟨⟨lvl, pte⟩, found, address⟩ := Option.map_eq_some_iff.mp translates
    obtain ⟨rfl, good⟩ := owned.covers.walk_good table trivial found
    subst address
    exact good _ (Nat.mod_lt _ (by decide))
  · cases translates

theorem iommuVmxMap_table (flagsKnown : flags = DMA_ALLOW_ACCESS ∨ flags = DMA_DENY_ACCESS)
    (mappable : cfg.Mappable spa) (small : gpa.toNat < 2 ^ (9 * levels + 12))
    (maps : iommuVmxMap cfg s info gpa spa flags = (s', info', status)) :
    (s'.pts = s.pts ∧ s'.cet = s.cet ∧ info'.ptRoot = some root) ∧
      PageMapped cfg levels root gpa spa flags status (s.mem info) (s'.mem info') := by
  obtain ⟨levels', root', known', rooted', own, owned, table⟩ := ok
  cases known.symm.trans known'
  cases rooted.symm.trans rooted'
  unfold iommuVmxMap at maps
  simp only [known, rooted] at maps
  cases get : vtdGetPt cfg gpa (levels - 1) (s.mem info) root with
  | mk m result =>
    have mapped := owned.mapPage (IommuConfig.levels_eq known) flagsKnown mappable.small
      (fun _ => mappable) small table get
    unfold Iommu.mem at get
    rw [get] at maps
    cases result with
    | none | some last =>
      cases maps
      exact ⟨⟨rfl, rfl, rfl⟩, mapped⟩

end

theorem iommuVmxMap_new {ptId : U32}
    (maps : iommuVmxMap cfg s ⟨ptId, [], none⟩ 0 0 DMA_DENY_ACCESS = (s', info', status)) :
    (s'.pts = s.pts ∧ s'.cet = s.cet ∧ info'.iommuPtId = ptId) ∧
      PtFrame (s.mem ⟨ptId, [], none⟩) (s'.mem info') ∧
        (status = true → TableOk cfg s' info') := by
  unfold iommuVmxMap at maps
  cases known : cfg.levels with
  | none =>
    simp only [known] at maps
    cases maps
    exact ⟨⟨rfl, rfl, rfl⟩, .refl, nofun⟩
  | some levels =>
    have nothing : Owned cfg (fun _ => none) (s.mem ⟨ptId, [], none⟩) :=
      ⟨nofun, nofun, nofun, nofun, nofun⟩
    simp only [known, PtMem.allocPage] at maps
    cases alloc : cfg.allocPage s.allocations s.used with
    | none =>
      simp only [alloc] at maps
      cases maps
      exact ⟨⟨rfl, rfl, rfl⟩, ⟨fun _ _ _ => rfl, fun _ => .inl, fun _ => id⟩, nofun⟩
    | some page =>
      obtain ⟨owned, frame⟩ := nothing.root levels (fun _ => rfl) alloc
      have levelsKnown := IommuConfig.levels_eq known
      simp only [alloc] at maps
      cases get : vtdGetPt cfg 0 (levels - 1) ⟨update s.store page fun _ => 0,
          update s.used page true, s.allocations + 1, [page]⟩ page with
      | mk m result =>
        have mapped : PageMapped cfg levels page 0 0 DMA_DENY_ACCESS result.isSome _
            (result.elim m fun last => m.mapSpa last 0 0 DMA_DENY_ACCESS) :=
          owned.mapPage levelsKnown (.inr rfl) (by decide) nofun (Nat.two_pow_pos _)
            (update_self ..) get
        rw [get] at maps
        cases result with
        | none =>
          cases maps
          exact ⟨⟨rfl, rfl, rfl⟩, frame.trans mapped.frame, nofun⟩
        | some last =>
          cases maps
          exact ⟨⟨rfl, rfl, rfl⟩, frame.trans mapped.frame,
            fun _ => ⟨levels, page, known, rfl, mapped.owned⟩⟩

/-! ## All tables -/

section

variable (inv : IommuInv cfg s)

include inv

theorem IommuInv.apart (before : s.pts h = some info ∨ s.pts h = none ∧ info.usedMem = [])
    (frame : PtFrame (s.mem info) (s'.mem info')) {h' : Nat} (differ : h' ≠ h)
    (found : s.pts h' = some other) :
    ∀ n ∈ other.usedMem, n ∉ info.usedMem ∧ n ∉ info'.usedMem := by
  intro n mem
  have old : n ∉ info.usedMem := by
    rcases before with here | ⟨-, empty⟩
    · exact inv.disjoint h' h other info found here differ n mem
    · rw [empty]
      exact List.not_mem_nil
  refine ⟨old, fun new => ?_⟩
  rcases frame.fresh n new with listed | free
  · exact old listed
  · have inUse : s.used n = true := (inv.tables h' other found).inUse n mem
    exact Bool.noConfusion (inUse.symm.trans free)

theorem IommuInv.setPt (same : s'.pts = update s.pts h (some info') ∧ s'.cet = s.cet)
    (before : s.pts h = some info ∨ s.pts h = none ∧ info.usedMem = [])
    (frame : PtFrame (s.mem info) (s'.mem info')) (ok : TableOk cfg s' info')
    (rooted : s.pts h = some info → info'.ptRoot = info.ptRoot) : IommuInv cfg s' := by
  obtain ⟨pts, cet⟩ := same
  refine ⟨fun h' other found => ?_, fun h₁ h₂ first second found₁ found₂ differ => ?_,
    fun device => ?_⟩
  · rw [pts] at found
    by_cases here : h' = h
    · rw [here, update_self] at found
      cases found
      exact ok
    · rw [update_of_ne here] at found
      exact (inv.tables h' other found).frame frame fun n mem =>
        (inv.apart before frame here found n mem).1
  · rw [pts] at found₁ found₂
    by_cases here₁ : h₁ = h
    · rw [here₁, update_self] at found₁
      cases found₁
      have here₂ : h₂ ≠ h := fun here₂ => differ (here₁.trans here₂.symm)
      rw [update_of_ne here₂] at found₂
      exact fun n mem other => (inv.apart before frame here₂ found₂ n other).2 mem
    · rw [update_of_ne here₁] at found₁
      by_cases here₂ : h₂ = h
      · rw [here₂, update_self] at found₂
        cases found₂
        exact fun n mem => (inv.apart before frame here₁ found₁ n mem).2
      · rw [update_of_ne here₂] at found₂
        exact inv.disjoint h₁ h₂ first second found₁ found₂ differ
  · rw [cet]
    rcases inv.entries device with default | ⟨h', other, found, root, levels⟩
    · exact .inl default
    · refine .inr ?_
      by_cases here : h' = h
      · subst here
        rcases before with now | ⟨nothing, -⟩
        · cases now.symm.trans found
          exact ⟨h', info', by rw [pts, update_self], (rooted now).trans root, levels⟩
        · rw [nothing] at found
          cases found
      · exact ⟨h', other, by rw [pts, update_of_ne here]; exact found, root, levels⟩

omit inv in
theorem TableOk.used {s'' : Iommu} (ok : TableOk cfg s info) (store : s''.store = s.store)
    (inUse : ∀ n ∈ info.usedMem, s''.used n = true) : TableOk cfg s'' info := by
  obtain ⟨levels, root, known, rooted, own, owned, table⟩ := ok
  refine ⟨levels, root, known, rooted, own, ⟨?_, ?_, owned.listed, inUse, owned.pages⟩, table⟩
  · change vtdShape.Covers cfg.GoodLeaf s''.store own
    rw [store]
    exact owned.covers
  · have clean := owned.clean
    unfold Iommu.mem at clean ⊢
    rw [store]
    exact clean

theorem IommuInv.free {s'' : Iommu} (same : s''.pts = update s.pts h none ∧ s''.cet = s.cet)
    (before : s.pts h = some info ∨ s.pts h = none ∧ info.usedMem = [])
    (frame : PtFrame (s.mem info) (s'.mem info'))
    (freed : s''.store = s'.store ∧ s''.used = fun n => s'.used n && !info'.usedMem.contains n)
    (unbound : s.pts h = some info → ∀ device, some (s.cet device).root ≠ info.ptRoot) :
    IommuInv cfg s'' := by
  obtain ⟨pts, cet⟩ := same
  obtain ⟨store, used⟩ := freed
  have elsewhere : ∀ {h' other}, s''.pts h' = some other → h' ≠ h ∧ s.pts h' = some other := by
    intro h' other found
    rw [pts] at found
    by_cases here : h' = h
    · rw [here, update_self] at found
      cases found
    · rw [update_of_ne here] at found
      exact ⟨here, found⟩
  refine ⟨fun h' other found => ?_, fun h₁ h₂ first second found₁ found₂ => ?_, fun device => ?_⟩
  · obtain ⟨here, found⟩ := elsewhere found
    have apart := inv.apart before frame here found
    have kept := (inv.tables h' other found).frame frame fun n mem => (apart n mem).1
    refine kept.used store fun n mem => ?_
    have unlisted := (apart n mem).2
    simp only [used, kept.inUse n mem, Bool.true_and, Bool.not_eq_true', List.contains_eq_mem,
      unlisted, decide_false]
  · exact inv.disjoint h₁ h₂ first second (elsewhere found₁).2 (elsewhere found₂).2
  · rw [cet]
    rcases inv.entries device with default | ⟨h', other, found, root, levels⟩
    · exact .inl default
    · have here : h' ≠ h := by
        rintro rfl
        rcases before with now | ⟨nothing, -⟩
        · cases now.symm.trans found
          exact unbound now device root.symm
        · rw [nothing] at found
          cases found
      exact .inr ⟨h', other, by rw [pts, update_of_ne here]; exact found, root, levels⟩

/-! ## Context entries -/

omit inv in
theorem cetEntry_root {high : U64} (aligned : root &&& vtdAddressMask = root) :
    CetEntry.root ⟨root ||| 1, high⟩ = root := by
  unfold CetEntry.root
  rw [BitVec.and_comm, BitVec.and_or_distrib_left, BitVec.and_comm, aligned]
  exact BitVec.or_zero

omit inv in
theorem domain_and (domain : U64) : domain <<< 8 &&& 7 = 0 := by
  apply BitVec.eq_of_getLsbD_eq
  intro i small
  have low : ∀ i, 8 ≤ i → (7 : U64).getLsbD i = false := by
    intro i high
    rw [← BitVec.testBit_toNat]
    exact Nat.testBit_lt_two_pow (lt_of_lt_of_le (by decide) (Nat.pow_le_pow_right (by decide) high))
  rw [BitVec.getLsbD_and, BitVec.getLsbD_shiftLeft]
  by_cases inside : i < 8
  · simp [inside]
  · rw [low i (by omega)]
    simp

omit inv in
theorem cetEntry_levels {domain : U64} (known : levels = 3 ∨ levels = 4) :
    CetEntry.levels ⟨root, (if levels = 4 then (2 : U64) else 1) ||| domain <<< 8⟩ = some levels := by
  have width : ∀ code : U64, (code ||| domain <<< 8) &&& 7 = code &&& 7 := by
    intro code
    rw [BitVec.and_comm, BitVec.and_or_distrib_left, BitVec.and_comm 7 (domain <<< 8), domain_and,
      BitVec.and_comm]
    exact BitVec.or_zero
  unfold CetEntry.levels
  rw [width]
  rcases known with rfl | rfl
  · rfl
  · rfl

theorem IommuInv.bindCet {device : DeviceDesc} {ptId : U32}
    (aligned : root &&& vtdAddressMask = root)
    (target : root = cfg.eapRoot ∨ ∃ h info, s.pts h = some info ∧ info.ptRoot = some root) :
    IommuInv cfg (x86vmxBindCet cfg s device ptId root) := by
  unfold x86vmxBindCet
  cases known : cfg.levels with
  | none => exact inv
  | some levels =>
    refine ⟨inv.tables, inv.disjoint, fun offset => ?_⟩
    dsimp only
    by_cases here : offset = device.cetOffset
    · rw [here, update_self]
      unfold Iommu.EntryOk
      rw [cetEntry_root aligned, cetEntry_levels (IommuConfig.levels_eq known), known]
      rcases target with default | ⟨h, info, found, rooted⟩
      · exact .inl default
      · exact .inr ⟨h, info, found, rooted, rfl⟩
    · rw [update_of_ne here]
      exact inv.entries offset

/-! ## Requests -/

omit inv in
theorem Iommu.getPt_some (found : s.getPt ptHandle = some info) :
    s.pts ptHandle.toNat = some info := by
  unfold Iommu.getPt at found
  split at found
  · cases found
  · exact found

theorem IommuInv.destroy (ok : IommuOk cfg s (.destroy ptHandle)) :
    IommuInv cfg (xmhfIommuPtDestroy s ptHandle) := by
  unfold xmhfIommuPtDestroy
  cases found : s.getPt ptHandle with
  | none => exact inv
  | some info =>
    have here := Iommu.getPt_some found
    have frame : PtFrame (s.mem info) (s.mem info) := .refl
    exact inv.free ⟨rfl, rfl⟩ (.inl here) frame ⟨rfl, rfl⟩ fun _ => ok info found

theorem IommuInv.create (creates : xmhfIommuPtCreate cfg s = some s') : IommuInv cfg s' := by
  obtain ⟨handle, found, creates⟩ := Option.bind_eq_some_iff.mp creates
  have below : handle < maxNumPts := List.mem_range.mp (List.mem_of_find?_eq_some found)
  have free : s.pts handle = none := by
    have passes := List.find?_some found
    rw [Bool.and_eq_true] at passes
    exact Option.isNone_iff_eq_none.mp passes.2
  dsimp only at creates
  cases maps : iommuVmxMap cfg s ⟨BitVec.ofNat 32 handle, [], none⟩ 0 0 DMA_DENY_ACCESS with
  | mk s₁ result =>
    obtain ⟨info', status⟩ := result
    obtain ⟨⟨pts, cet, ptId⟩, frame, table⟩ := iommuVmxMap_new maps
    rw [maps] at creates
    cases status with
    | true =>
      cases creates
      refine inv.setPt ⟨?_, cet⟩ (.inr ⟨free, rfl⟩) frame (table rfl) ?_
      · rw [← pts]
        rfl
      · intro here
        rw [free] at here
        cases here
    | false =>
      cases creates
      have number : (BitVec.ofNat 32 handle).toNat = handle := by
        rw [BitVec.toNat_ofNat]
        unfold maxNumPts at below
        omega
      have valid : ¬ (BitVec.ofNat 32 handle = IOMMU_PT_INVALID ∨
          maxNumPts ≤ (BitVec.ofNat 32 handle).toNat) := by
        rw [number]
        rintro (invalid | large)
        · have := congrArg BitVec.toNat invalid
          rw [number, show IOMMU_PT_INVALID.toNat = 0xffffffff from rfl] at this
          unfold maxNumPts at below
          omega
        · omega
      have got : (s₁.setPt handle info').getPt info'.iommuPtId = some info' := by
        rw [ptId, Iommu.getPt, if_neg valid, number]
        exact update_self ..
      rw [if_neg Bool.false_ne_true]
      unfold xmhfIommuPtDestroy
      rw [got]
      refine inv.free ⟨?_, cet⟩ (.inr ⟨free, rfl⟩) frame ⟨rfl, rfl⟩ ?_
      · rw [ptId, number, ← pts]
        exact Function.update_idem ..
      · intro here
        rw [free] at here
        cases here

theorem xmhfIommuPtMap_some (ok : IommuOk cfg s (.map ptHandle gpa spa flags))
    (known : cfg.levels = some levels) (found : s.getPt ptHandle = some info)
    (rooted : info.ptRoot = some root) (foreign : xmhfIsMhvMemory cfg spa = false)
    (maps : xmhfIommuPtMap cfg s ptHandle gpa spa flags = (s', status)) :
    ∃ info', (s'.pts = update s.pts ptHandle.toNat (some info') ∧ s'.cet = s.cet) ∧
      info'.ptRoot = some root ∧
      PageMapped cfg levels root gpa spa flags status (s.mem info) (s'.mem info') := by
  obtain ⟨flagsKnown, fits, covered⟩ := ok
  unfold xmhfIommuPtMap at maps
  simp only [found, foreign, Bool.false_eq_true, if_false] at maps
  cases mapped : iommuVmxMap cfg s info gpa spa flags with
  | mk s₁ result =>
    obtain ⟨info', status'⟩ := result
    obtain ⟨⟨pts, cet, root'⟩, page⟩ := iommuVmxMap_table
      (inv.tables _ info (Iommu.getPt_some found)) known rooted flagsKnown ⟨fits, foreign⟩
      (covered levels known) mapped
    rw [mapped] at maps
    cases maps
    exact ⟨info', ⟨by rw [← pts]; rfl, cet⟩, root', page⟩

theorem IommuInv.map (ok : IommuOk cfg s (.map ptHandle gpa spa flags)) :
    IommuInv cfg (xmhfIommuPtMap cfg s ptHandle gpa spa flags).1 := by
  cases found : s.getPt ptHandle with
  | none =>
    unfold xmhfIommuPtMap
    rw [found]
    exact inv
  | some info =>
    cases foreign : xmhfIsMhvMemory cfg spa with
    | true =>
      unfold xmhfIommuPtMap
      simp only [found, foreign, if_true]
      exact inv
    | false =>
      have here := Iommu.getPt_some found
      obtain ⟨levels, root, known, rooted, -⟩ := inv.tables _ info here
      obtain ⟨info', same, root', page⟩ :=
        xmhfIommuPtMap_some inv ok known found rooted foreign rfl
      obtain ⟨own, owned, table⟩ := page.owned
      exact inv.setPt same (.inl here) page.frame ⟨levels, root, known, root', own, owned, table⟩
        fun _ => root'.trans rooted.symm

theorem IommuInv.step {op : IommuOp} (ok : IommuOk cfg s op) (step : iommuStep cfg s op = some s')
    : IommuInv cfg s' := by
  cases op with
  | create => exact inv.create step
  | map ptHandle gpa spa flags =>
    cases step
    exact inv.map ok
  | bind ptHandle device =>
    cases step
    unfold xmhfIommuBindDevice
    cases found : s.getPt ptHandle with
    | none => exact inv
    | some info =>
      have here := Iommu.getPt_some found
      obtain ⟨levels, root, -, rooted, own, owned, table⟩ := inv.tables _ info here
      have listed : root ∈ info.usedMem := owned.listed root (by rw [table]; nofun)
      dsimp only
      rw [rooted]
      exact inv.bindCet (owned.pages root listed).1 (.inr ⟨_, info, here, rooted⟩)
  | unbind device =>
    cases step
    exact inv.bindCet cfg.eapRoot_page (.inl rfl)
  | destroy ptHandle =>
    cases step
    exact inv.destroy ok

end

theorem IommuInv.init (start : (iommuMachine cfg).init s) : IommuInv cfg s := by
  obtain ⟨empty, -, default⟩ := start
  have none_ : ∀ {h info}, s.pts h ≠ some info := by
    intro h info found
    rw [empty] at found
    cases found
  exact ⟨fun h info found => absurd found none_, fun h h' info info' found => absurd found none_,
    fun device => .inl (default device)⟩

theorem PageMapped.translate
    (page : PageMapped cfg levels root gpa spa flags true (s.mem info) (s'.mem info'))
    (fits : spa.toNat < 2 ^ 52) (small : gpa.toNat < 2 ^ (9 * levels + 12)) {w : U64}
    (here : w.toNat / 4096 = gpa.toNat / 4096) :
    vtdTranslate s'.store levels root w =
      if flags = DMA_ALLOW_ACCESS then some (spa.toNat / 4096 * 4096 + w.toNat % 4096)
      else none := by
  have walk : vtdShape.walk s'.store w levels root =
      if flags = DMA_ALLOW_ACCESS then some (1, mappedEntry spa flags) else none :=
    page.mapped rfl w here
  have small' : w.toNat < 2 ^ (9 * levels + 12) := by
    rw [pow_add] at small ⊢
    generalize 2 ^ (9 * levels) = pages at small ⊢
    omega
  unfold vtdTranslate
  rw [if_pos small', walk]
  by_cases allow : flags = DMA_ALLOW_ACCESS
  · have address : (mappedEntry spa flags &&& vtdAddressMask).toNat = spa.toNat / 4096 * 4096 := by
      rw [mappedEntry, if_pos allow, allowEntry_address (page_aligned fits), page_toNat]
    rw [if_pos allow, if_pos allow, Option.map_some]
    dsimp only
    rw [address, show 2 ^ (9 * 1 + 3) = 4096 from rfl, Nat.mul_div_cancel _ (by decide)]
  · rw [if_neg allow, if_neg allow, Option.map_none]

theorem PageMapped.translate_other
    (page : PageMapped cfg levels root gpa spa flags status (s.mem info) (s'.mem info')) {w : U64}
    (other : w.toNat / 4096 ≠ gpa.toNat / 4096) :
    vtdTranslate s'.store levels root w = vtdTranslate s.store levels root w := by
  unfold vtdTranslate
  by_cases small : w.toNat < 2 ^ (9 * levels + 12)
  · have walk : vtdShape.walk s'.store w levels root = vtdShape.walk s.store w levels root :=
      page.others w small other
    rw [if_pos small, if_pos small, walk]
  · rw [if_neg small, if_neg small]

/-- In every run that meets the conditions, each context entry is for the table of the untrusted
OS or for one that exists; no device reaches the memory of XMHF; a request to map a page, if it
succeeds, makes the page translate as requested; and it changes the translation of no other page,
in any table. -/
theorem iommu_tables_safe (reached : (iommuMachine cfg).ReachableUnder (IommuOk cfg) s) :
    (∀ device, s.EntryOk cfg (s.cet device)) ∧
    (∀ device gpa spa, s.deviceTranslate cfg (s.cet device) gpa = some spa → ¬ cfg.Mhv spa) ∧
    ∀ ptHandle gpa spa flags, IommuOk cfg s (.map ptHandle gpa spa flags) →
      ∀ s' status, xmhfIommuPtMap cfg s ptHandle gpa spa flags = (s', status) →
      ∀ info root levels, s.getPt ptHandle = some info → info.ptRoot = some root →
      cfg.levels = some levels → (status = true → ∀ w : U64, w.toNat / 4096 = gpa.toNat / 4096 →
          vtdTranslate s'.store levels root w =
            if flags = DMA_ALLOW_ACCESS then some (spa.toNat / 4096 * 4096 + w.toNat % 4096)
            else none) ∧
        ∀ h other root' (w : U64), s.pts h = some other → other.ptRoot = some root' →
          h ≠ ptHandle.toNat ∨ w.toNat / 4096 ≠ gpa.toNat / 4096 →
          vtdTranslate s'.store levels root' w = vtdTranslate s.store levels root' w := by
  have inv : IommuInv cfg s :=
    reached.invariant (fun _ => .init) fun _ _ _ inv ok step => inv.step ok step
  refine ⟨inv.entries, fun device gpa spa translates => ?_, ?_⟩
  · unfold Iommu.deviceTranslate at translates
    split at translates
    · cases translates
    · split at translates
      · exact cfg.eap_protects translates
      · next other =>
        obtain ⟨levels, known, translates⟩ := Option.bind_eq_some_iff.mp translates
        rcases inv.entries device with default | ⟨h, info, found, rooted, same⟩
        · exact absurd default other
        · exact (inv.tables h info found).protects (same.symm.trans known) rooted translates
  · intro ptHandle gpa spa flags ok s' status maps info root levels found rooted known
    cases foreign : xmhfIsMhvMemory cfg spa with
    | true =>
      unfold xmhfIommuPtMap at maps
      simp only [found, foreign, if_true] at maps
      cases maps
      exact ⟨nofun, fun _ _ _ _ _ _ _ => rfl⟩
    | false =>
      have here := Iommu.getPt_some found
      obtain ⟨info', -, -, page⟩ := xmhfIommuPtMap_some inv ok known found rooted foreign maps
      refine ⟨?_, fun h other root' w found' rooted' differ => ?_⟩
      · rintro rfl w same
        exact page.translate ok.2.1 (ok.2.2 levels known) same
      · by_cases table : h = ptHandle.toNat
        · rw [table, here] at found'
          cases found'
          cases rooted.symm.trans rooted'
          exact page.translate_other (differ.resolve_left (not_not_intro table))
        · have apart : ∀ n ∈ other.usedMem, n ∉ info.usedMem :=
            inv.disjoint h _ other info found' here table
          exact (inv.tables h other found').translate_frame page.frame apart known rooted' w

def samplePtPage (count : Nat) : U64 := BitVec.ofNat 64 ((count + 2) * 4096)

theorem samplePtPage_aligned {count : Nat} (small : count < 1000) :
    samplePtPage count &&& vtdAddressMask = samplePtPage count ∧ samplePtPage count ≠ 0 ∧
      samplePtPage count ≠ 0x1000 := by
  have number : (samplePtPage count).toNat = (count + 2) * 4096 := by
    unfold samplePtPage
    rw [BitVec.toNat_ofNat]
    omega
  have page : samplePtPage count &&& ADDR64_PAGE_MASK_4K = samplePtPage count := by
    apply BitVec.eq_of_toNat_eq
    rw [page_toNat, number]
    omega
  refine ⟨?_, ?_, ?_⟩
  · have fits : (samplePtPage count).toNat < 2 ^ 52 := by omega
    have aligned := page_aligned fits
    rwa [page] at aligned
  · intro zero
    have := congrArg BitVec.toNat zero
    rw [number, show (0 : U64).toNat = 0 from rfl] at this
    omega
  · intro eap
    have := congrArg BitVec.toNat eap
    rw [number, show (0x1000 : U64).toNat = 4096 from rfl] at this
    omega

def sampleIommuConfig : IommuConfig where
  sagaw := 4
  mhvBase := 0x10000000
  mhvSize := 0x1000000
  mhv_pages := by decide
  mhv_fits := by decide
  eapRoot := 0x1000
  eapTranslate _ := none
  eap_protects := nofun
  eapRoot_page := by decide
  allocPage count used :=
    if count < 1000 ∧ used (samplePtPage count) = false then some (samplePtPage count) else none
  alloc_page := by
    intro count used page alloc
    obtain ⟨⟨small, free⟩, rfl⟩ := guard_some.mp alloc
    exact ⟨free, samplePtPage_aligned small⟩

def sampleIommu : Iommu where
  store _ _ := 0
  used _ := false
  allocations := 0
  pts _ := none
  cet _ := ⟨0x1001, 0x102⟩

def sampleDevice : DeviceDesc := ⟨0, 2, 0⟩

theorem sampleIommu_init : (iommuMachine sampleIommuConfig).init sampleIommu := by
  have default : CetEntry.root ⟨0x1001, 0x102⟩ = 0x1000 := by decide
  exact ⟨fun _ => rfl, fun _ => rfl, fun _ => default⟩

theorem iommu_tables_safe_sample : ∃ s s' root,
    (iommuMachine sampleIommuConfig).ReachableUnder (IommuOk sampleIommuConfig) s ∧
    xmhfIommuPtMap sampleIommuConfig s 2 0x5000 0x7000 DMA_ALLOW_ACCESS = (s', true) ∧
    vtdTranslate s'.store 4 root 0x5123 = some 0x7123 := by
  have sample : (iommuStep sampleIommuConfig sampleIommu .create).map (fun s =>
      ((s.getPt 2).bind IommuPtInfo.ptRoot,
        (xmhfIommuPtMap sampleIommuConfig s 2 0x5000 0x7000 DMA_ALLOW_ACCESS).2)) =
      some (some 0x2000, true) := by
    decide +kernel
  obtain ⟨s, create, facts⟩ := Option.map_eq_some_iff.mp sample
  obtain ⟨table, status⟩ := Prod.mk.inj facts
  obtain ⟨info, found, rooted⟩ := Option.bind_eq_some_iff.mp table
  have reached : (iommuMachine sampleIommuConfig).ReachableUnder (IommuOk sampleIommuConfig) s :=
    .step (.init sampleIommu_init) (o := .create) trivial create
  have ok : IommuOk sampleIommuConfig s (.map 2 0x5000 0x7000 DMA_ALLOW_ACCESS) := by
    refine ⟨.inl rfl, by decide, fun levels known => ?_⟩
    cases known
    decide
  have maps : xmhfIommuPtMap sampleIommuConfig s 2 0x5000 0x7000 DMA_ALLOW_ACCESS =
      ((xmhfIommuPtMap sampleIommuConfig s 2 0x5000 0x7000 DMA_ALLOW_ACCESS).1, true) :=
    Prod.ext rfl status
  have translates := ((iommu_tables_safe reached).2.2 2 0x5000 0x7000 DMA_ALLOW_ACCESS ok _ _ maps
    info 0x2000 4 found rooted rfl).1 rfl 0x5123 (by decide)
  exact ⟨s, _, 0x2000, reached, maps, translates⟩

/-- A device stays bound to a table that is destroyed. An address above `2 ^ 52` stands for one
of XMHF. A page above `2 ^ 48` is mapped in the place of another. -/
theorem iommu_tables_unsafe : (∃ s, (iommuMachine sampleIommuConfig).Reachable s ∧
      ¬ s.EntryOk sampleIommuConfig (s.cet sampleDevice.cetOffset)) ∧
    (∃ s spa, (iommuMachine sampleIommuConfig).Reachable s ∧
      s.deviceTranslate sampleIommuConfig (s.cet sampleDevice.cetOffset) 0x5000 = some spa ∧
      sampleIommuConfig.Mhv spa) ∧
    ∃ s s' info root, (iommuMachine sampleIommuConfig).Reachable s ∧
      xmhfIommuPtMap sampleIommuConfig s 2 0x1000000005000 0x7000 DMA_ALLOW_ACCESS = (s', true) ∧
      s.getPt 2 = some info ∧ info.ptRoot = some root ∧
      vtdTranslate s.store 4 root 0x5000 = none ∧
      vtdTranslate s'.store 4 root 0x5000 = some 0x7000 := by
  have start : (iommuMachine sampleIommuConfig).Reachable sampleIommu := .init sampleIommu_init
  refine ⟨?_, ?_, ?_⟩
  · have sample : ((iommuMachine sampleIommuConfig).run sampleIommu
        [.create, .bind 2 sampleDevice, .destroy 2]).map (fun s =>
          (s.pts, (s.cet sampleDevice.cetOffset).root)) =
        some (Function.update (Function.update (fun _ => none) 2
          (some ⟨2, [0x5000, 0x4000, 0x3000, 0x2000], some 0x2000⟩)) 2 none, 0x2000) := rfl
    obtain ⟨s, run, facts⟩ := Option.map_eq_some_iff.mp sample
    obtain ⟨pts, root⟩ := Prod.mk.inj facts
    refine ⟨s, start.run run, ?_⟩
    rintro (default | ⟨h, info, found, -⟩)
    · rw [root] at default
      revert default
      decide
    · rw [pts, Function.update_idem, Function.update_eq_self_iff.mpr rfl] at found
      cases found
  · have sample : ((iommuMachine sampleIommuConfig).run sampleIommu
        [.create, .map 2 0x5000 0x10000010000000 DMA_ALLOW_ACCESS, .bind 2 sampleDevice]).map
          (fun s => s.deviceTranslate sampleIommuConfig (s.cet sampleDevice.cetOffset) 0x5000) =
        some (some 0x10000000) := by
      decide +kernel
    obtain ⟨s, run, translates⟩ := Option.map_eq_some_iff.mp sample
    exact ⟨s, _, start.run run, translates, by decide, by decide⟩
  · have sample : ((iommuMachine sampleIommuConfig).run sampleIommu [.create]).map (fun s =>
        ((s.getPt 2).bind IommuPtInfo.ptRoot,
          (xmhfIommuPtMap sampleIommuConfig s 2 0x1000000005000 0x7000 DMA_ALLOW_ACCESS).2,
          vtdTranslate s.store 4 0x2000 0x5000,
          vtdTranslate (xmhfIommuPtMap sampleIommuConfig s 2 0x1000000005000 0x7000
            DMA_ALLOW_ACCESS).1.store 4 0x2000 0x5000)) =
        some (some 0x2000, true, none, some 0x7000) := by
      decide +kernel
    obtain ⟨s, run, facts⟩ := Option.map_eq_some_iff.mp sample
    obtain ⟨table, facts⟩ := Prod.mk.inj facts
    obtain ⟨status, facts⟩ := Prod.mk.inj facts
    obtain ⟨absent, mapped⟩ := Prod.mk.inj facts
    obtain ⟨info, found, rooted⟩ := Option.bind_eq_some_iff.mp table
    exact ⟨s, _, info, 0x2000, start.run run, Prod.ext rfl status, found, rooted, absent, mapped⟩

end Xmhf
