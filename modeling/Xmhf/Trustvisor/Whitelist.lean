import Xmhf.Trustvisor.Isolation

/-!
# Lifetime of whitelist entries

An entry of the whitelist is in use while its `gcr3` is not 0, and keeps its other fields when it
is freed. A run is followed with a history beside it: which registration each entry was last
written by, how often the page lists of each registration were freed, and which registration each
CPU is running. A CR3 without address bits makes an entry that looks free, and matches the free
entries in every lookup; and nothing keeps a PAL from being unregistered while a CPU runs it.
-/

namespace Xmhf

open Function (update update_of_ne update_self)
open Option (bind_eq_some_iff map_some)

structure PalTrace where
  tv : Tv
  /-- The number of registrations that got an entry; they are numbered in order. -/
  registrations : Nat
  /-- The registration that wrote each entry -/
  palOf : Nat → Nat
  /-- How often the page lists of each registration were freed -/
  frees : Nat → Nat
  /-- The registration that each CPU is running -/
  runs : Nat → Option Nat

def freeEntry (s : Tv) : Option Nat :=
  (List.range whitelistMax).find? fun i => (s.whitelist i).gcr3 = 0

def PalTrace.record (h : PalTrace) (tv : Tv) : TvOp → PalTrace
  | .register .. =>
    match freeEntry h.tv with
    | some i =>
      if tv.whitelistSize = h.tv.whitelistSize then { h with tv }
      else { h with
        tv
        registrations := h.registrations + 1
        palOf := Function.update h.palOf i h.registrations }
    | none => { h with tv }
  | .unregister guest gvaddr =>
    match findScodeByEntry h.tv guest gvaddr with
    | some i =>
      if tv.whitelistSize = h.tv.whitelistSize then { h with tv }
      else { h with
        tv
        frees := Function.update h.frees (h.palOf i) (h.frees (h.palOf i) + 1) }
    | none => { h with tv }
  | .share .. => { h with tv }
  | .npf cpu .. =>
    { h with tv, runs := Function.update h.runs cpu ((tv.scodeCurr cpu).map h.palOf) }

def palTraceMachine (lists : PageLists) : Machine PalTrace TvOp where
  init h := (tvMachine lists).init h.tv ∧ h.registrations = 0 ∧ (∀ k, h.frees k = 0) ∧
    ∀ cpu, h.runs cpu = none
  step h o := (tvStep lists h.tv o).map (h.record · o)

def liveEntries (s : Tv) : Finset Nat :=
  (Finset.range whitelistMax).filter fun i => (s.whitelist i).gcr3 ≠ 0

/-- The CR3 of the guest has an address, in the paging type of each free entry. -/
def NonzeroCr3 (s : Tv) (guest : TvGuest) : Prop :=
  ∀ i < whitelistMax, (s.whitelist i).gcr3 = 0 →
    hptCr3GetAddress (s.whitelist i).pal.t guest.gcr3 ≠ 0

def PalOk (h : PalTrace) : TvOp → Prop
  | .register guest .. => hptCr3GetAddress guest.t guest.gcr3 ≠ 0
  | .unregister guest gvaddr => NonzeroCr3 h.tv guest ∧
      ∀ i, findScodeByEntry h.tv guest gvaddr = some i → ∀ cpu, h.tv.scodeCurr cpu ≠ some i
  | .share .. => True
  | .npf _ guest .. => NonzeroCr3 h.tv guest

variable {lists : PageLists} {s s' : Tv} {guest : TvGuest} {i : Nat}

theorem mem_liveEntries : i ∈ liveEntries s ↔ s.Registered i := by
  rw [liveEntries, Finset.mem_filter, Finset.mem_range, Tv.Registered]

theorem NonzeroCr3.liveOnly (nonzero : NonzeroCr3 s guest) : LiveOnly s guest := by
  intro i inside isOf free
  have same := (of_decide_eq_true isOf).1
  rw [free] at same
  exact nonzero i inside free same

/-! ## What a step does to the entries -/

structure SameEntries (s s' : Tv) : Prop where
  gcr3 : ∀ i, (s'.whitelist i).gcr3 = (s.whitelist i).gcr3
  size : s'.whitelistSize = s.whitelistSize

theorem SameEntries.live (same : SameEntries s s') : liveEntries s' = liveEntries s := by
  simp only [liveEntries, same.gcr3]

variable {cpu : Nat} {entry : WhitelistEntry}

theorem sameEntries_update (changed : s'.whitelist = update s.whitelist i entry)
    (gcr3 : entry.gcr3 = (s.whitelist i).gcr3) (size : s'.whitelistSize = s.whitelistSize) :
    SameEntries s s' := by
  refine ⟨fun j => ?_, size⟩
  rw [changed]
  by_cases same : j = i
  · rw [same, update_self, gcr3]
  · rw [update_of_ne same]

theorem SameEntries.trans {s'' : Tv} (first : SameEntries s s') (second : SameEntries s' s'') :
    SameEntries s s'' :=
  ⟨fun i => (second.gcr3 i).trans (first.gcr3 i), second.size.trans first.size⟩

theorem release_entries (releases : scodeReleaseAllSharedPages s i = some s') :
    SameEntries s s' ∧ s'.scodeCurr = s.scodeCurr := by
  obtain ⟨maps, -, rest⟩ := bind_eq_some_iff.mp releases
  cases rest
  exact ⟨sameEntries_update rfl rfl rfl, rfl⟩

theorem share_entries {ranges : List (U32 × U32)}
    (shares : scodeShareRanges guest i ranges s = some s') :
    SameEntries s s' ∧ s'.scodeCurr = s.scodeCurr := by
  induction ranges generalizing s with
  | nil =>
    cases shares
    exact ⟨⟨fun _ => rfl, rfl⟩, rfl⟩
  | cons range ranges ih =>
    rw [scodeShareRanges] at shares
    split at shares
    · obtain ⟨maps, -, shares⟩ := bind_eq_some_iff.mp shares
      obtain ⟨same, curr⟩ := ih shares
      refine ⟨SameEntries.trans ?_ same, curr⟩
      exact sameEntries_update rfl rfl rfl
    · exact release_entries shares

theorem npf_entries {rip gpaddr : U64} {insnFetch marshalled : Bool}
    (faults : hptScodeNpf s cpu guest rip gpaddr insnFetch marshalled = some s') :
    SameEntries s s' ∧ ((∃ i, scodeInList s guest rip = some i ∧
        s'.scodeCurr = update s.scodeCurr cpu (some i)) ∨
      s'.scodeCurr = update s.scodeCurr cpu none) := by
  obtain ⟨_, -, faults⟩ := bind_eq_some_iff.mp faults
  split at faults
  · next i _ found =>
    obtain ⟨_, -, faults⟩ := bind_eq_some_iff.mp faults
    obtain ⟨_, -, faults⟩ := bind_eq_some_iff.mp faults
    cases faults
    exact ⟨sameEntries_update rfl rfl rfl, .inl ⟨i, found, rfl⟩⟩
  · obtain ⟨_, -, faults⟩ := bind_eq_some_iff.mp faults
    obtain ⟨mid, releases, faults⟩ := bind_eq_some_iff.mp faults
    cases faults
    obtain ⟨same, curr⟩ := release_entries releases
    refine ⟨same.trans ?_, .inr ?_⟩
    · exact sameEntries_update rfl rfl rfl
    · rw [← curr]
  · cases faults

theorem unregister_entries {gvaddr : U64} (unregisters : scodeUnregister s guest gvaddr = some s') :
    s' = s ∨ ∃ i, findScodeByEntry s guest gvaddr = some i ∧ s.whitelistSize ≠ 0 ∧
      s'.whitelist = update s.whitelist i { s.whitelist i with gcr3 := 0 } ∧
      s'.whitelistSize = s.whitelistSize - 1 ∧ s'.scodeCurr = s.scodeCurr := by
  rw [scodeUnregister] at unregisters
  split at unregisters
  · exact .inl (Option.some.inj unregisters).symm
  · next nonempty =>
    split at unregisters
    · exact .inl (Option.some.inj unregisters).symm
    · next i found =>
      obtain ⟨maps, -, unregisters⟩ := bind_eq_some_iff.mp unregisters
      cases unregisters
      exact .inr ⟨i, found, nonempty, rfl, rfl, rfl⟩

theorem register_entries {scodeInfo : List TvPalSection} {entryV entryP : U64}
    {pageLists : Option Nat} {parsed measured : Bool}
    (registers : scodeRegister lists s guest scodeInfo entryV entryP pageLists parsed measured =
      some s') :
    (SameEntries s s' ∧ s'.scodeCurr = s.scodeCurr) ∨ ∃ i entry, freeEntry s = some i ∧
        s'.whitelist = update s.whitelist i entry ∧
        entry.gcr3 = hptCr3GetAddress guest.t guest.gcr3 ∧
        s'.whitelistSize = s.whitelistSize + 1 ∧ s'.scodeCurr = s.scodeCurr := by
  unfold scodeRegister at registers
  split at registers
  · cases registers
    exact .inl ⟨⟨fun _ => rfl, rfl⟩, rfl⟩
  · split at registers
    · cases registers
      exact .inl ⟨⟨fun _ => rfl, rfl⟩, rfl⟩
    · obtain ⟨_, -, registers⟩ := bind_eq_some_iff.mp registers
      obtain ⟨sections, -, registers⟩ := bind_eq_some_iff.mp registers
      obtain ⟨maps, -, registers⟩ := bind_eq_some_iff.mp registers
      dsimp only at registers
      split at registers
      · cases registers
        exact .inl ⟨⟨fun _ => rfl, rfl⟩, rfl⟩
      · split at registers
        · cases registers
          exact .inl ⟨⟨fun _ => rfl, rfl⟩, rfl⟩
        · next i found =>
          cases registers
          exact .inr ⟨i, _, found, rfl, rfl, rfl, rfl⟩

/-! ## The invariant -/

variable {h h' : PalTrace}

structure PalTraceInv (h : PalTrace) : Prop where
  size : h.tv.whitelistSize = (liveEntries h.tv).card
  known : ∀ i ∈ liveEntries h.tv, h.palOf i < h.registrations
  distinct : ∀ i ∈ liveEntries h.tv, ∀ j ∈ liveEntries h.tv, h.palOf i = h.palOf j → i = j
  live : ∀ i ∈ liveEntries h.tv, h.frees (h.palOf i) = 0
  freed : ∀ k < h.registrations, (∀ i ∈ liveEntries h.tv, h.palOf i ≠ k) → h.frees k = 1
  fresh : ∀ k, h.registrations ≤ k → h.frees k = 0
  running : ∀ cpu i, h.tv.scodeCurr cpu = some i → i ∈ liveEntries h.tv
  runs : ∀ cpu, h.runs cpu = (h.tv.scodeCurr cpu).map h.palOf

theorem PalTraceInv.init (start : (palTraceMachine lists).init h) : PalTraceInv h := by
  obtain ⟨⟨free, size, -, idle, -⟩, registrations, frees, runs⟩ := start
  have none_ : liveEntries h.tv = ∅ := by
    refine Finset.filter_eq_empty_iff.mpr fun i _ used => used (free i)
  have nobody : ∀ i, i ∉ liveEntries h.tv := by
    intro i mem
    rw [none_] at mem
    exact Finset.notMem_empty i mem
  refine ⟨?_, ?_, ?_, ?_, ?_, fun k _ => frees k, ?_, ?_⟩
  · rw [size, none_, Finset.card_empty]
  iterate 3 exact fun i mem => absurd mem (nobody i)
  · intro k lt
    rw [registrations] at lt
    exact absurd lt (Nat.not_lt_zero k)
  · intro cpu i runs
    rw [idle cpu] at runs
    cases runs
  · intro cpu
    rw [runs, idle, Option.map_none]

section

variable (inv : PalTraceInv h)

include inv

theorem PalTraceInv.same (same : SameEntries h.tv s') (curr : s'.scodeCurr = h.tv.scodeCurr)
    : PalTraceInv { h with tv := s' } := by
  obtain ⟨size, known, distinct, live, freed, fresh, running, runs⟩ := inv
  have entries := same.live
  refine ⟨?_, ?_, ?_, ?_, ?_, fresh, ?_, ?_⟩
  · rw [same.size, entries, size]
  iterate 4 rwa [entries]
  · rwa [entries, curr]
  · rwa [curr]

theorem PalTraceInv.npf (same : SameEntries h.tv s')
    (curr : (∃ i ∈ liveEntries h.tv, s'.scodeCurr = update h.tv.scodeCurr cpu (some i)) ∨
      s'.scodeCurr = update h.tv.scodeCurr cpu none)
    :
    PalTraceInv { h with
      tv := s'
      runs := update h.runs cpu ((s'.scodeCurr cpu).map h.palOf) } := by
  obtain ⟨size, known, distinct, live, freed, fresh, running, runs⟩ := inv
  have entries := same.live
  have others : ∀ cpu', cpu' ≠ cpu → s'.scodeCurr cpu' = h.tv.scodeCurr cpu' := by
    intro cpu' other
    rcases curr with ⟨i, -, curr⟩ | curr
    · rw [curr, update_of_ne other]
    · rw [curr, update_of_ne other]
  refine ⟨?_, ?_, ?_, ?_, ?_, fresh, ?_, ?_⟩
  · rw [same.size, entries, size]
  iterate 4 rwa [entries]
  · intro cpu' i runs
    rw [entries]
    by_cases here : cpu' = cpu
    · rcases curr with ⟨j, mem, curr⟩ | curr
      · rw [here, curr, update_self] at runs
        cases runs
        exact mem
      · rw [here, curr, update_self] at runs
        cases runs
    · rw [others cpu' here] at runs
      exact running cpu' i runs
  · intro cpu'
    dsimp only
    by_cases here : cpu' = cpu
    · rw [here, update_self]
    · rw [update_of_ne here, others cpu' here]
      exact runs cpu'

omit inv in
theorem liveEntries_insert (inside : i < whitelistMax)
    (changed : s'.whitelist = update s.whitelist i entry) (used : entry.gcr3 ≠ 0) :
    liveEntries s' = insert i (liveEntries s) := by
  ext j
  rw [Finset.mem_insert, mem_liveEntries, mem_liveEntries]
  exact registered_update changed used inside

omit inv in
theorem liveEntries_erase (changed : s'.whitelist = update s.whitelist i entry)
    (free : entry.gcr3 = 0) : liveEntries s' = (liveEntries s).erase i := by
  ext j
  rw [Finset.mem_erase, mem_liveEntries, mem_liveEntries]
  exact registered_drop changed free

theorem PalTraceInv.enter (free : i ∉ liveEntries h.tv)
    (entries : liveEntries s' = insert i (liveEntries h.tv))
    (size' : s'.whitelistSize = h.tv.whitelistSize + 1) (curr : s'.scodeCurr = h.tv.scodeCurr) :
    PalTraceInv { h with
      tv := s'
      registrations := h.registrations + 1
      palOf := update h.palOf i h.registrations } := by
  obtain ⟨size, known, distinct, live, freed, fresh, running, runs⟩ := inv
  -- The other entries keep their registrations, which are older.
  have old : ∀ j ∈ liveEntries h.tv,
      update h.palOf i h.registrations j = h.palOf j := by
    intro j mem
    refine update_of_ne ?_ _ _
    rintro rfl
    exact free mem
  have new : update h.palOf i h.registrations i = h.registrations :=
    update_self ..
  refine ⟨?_, ?_, ?_, ?_, ?_, fun k le => fresh k (Nat.le_of_succ_le le), ?_, ?_⟩
  · rw [size', entries, Finset.card_insert_of_notMem free, size]
  · intro j mem
    rw [entries] at mem
    dsimp only
    rcases Finset.mem_insert.mp mem with rfl | mem
    · rw [new]
      exact Nat.lt_succ_self _
    · rw [old j mem]
      exact Nat.lt_succ_of_lt (known j mem)
  · intro a memA b memB same
    rw [entries] at memA memB
    dsimp only at same
    rcases Finset.mem_insert.mp memA with rfl | oldA <;>
      rcases Finset.mem_insert.mp memB with rfl | oldB
    · rfl
    · rw [new, old b oldB] at same
      exact absurd same (Nat.ne_of_gt (known b oldB))
    · rw [new, old a oldA] at same
      exact absurd same (Nat.ne_of_lt (known a oldA))
    · rw [old a oldA, old b oldB] at same
      exact distinct a oldA b oldB same
  · intro j mem
    rw [entries] at mem
    dsimp only
    rcases Finset.mem_insert.mp mem with rfl | mem
    · rw [new]
      exact fresh _ (Nat.le_refl _)
    · rw [old j mem]
      exact live j mem
  · intro k lt gone
    rw [entries] at gone
    dsimp only at gone lt ⊢
    have notNew : h.registrations ≠ k := by
      rw [← new]
      exact gone i (Finset.mem_insert_self ..)
    refine freed k (by omega) fun j mem => ?_
    rw [← old j mem]
    exact gone j (Finset.mem_insert_of_mem mem)
  · intro cpu j runs
    rw [entries]
    rw [curr] at runs
    exact Finset.mem_insert_of_mem (running cpu j runs)
  · intro cpu
    dsimp only
    rw [runs cpu, curr]
    cases running' : h.tv.scodeCurr cpu with
    | none => rfl
    | some j => rw [map_some, map_some, old j (running cpu j running')]

theorem PalTraceInv.leave (used : i ∈ liveEntries h.tv)
    (entries : liveEntries s' = (liveEntries h.tv).erase i)
    (size' : s'.whitelistSize = h.tv.whitelistSize - 1) (curr : s'.scodeCurr = h.tv.scodeCurr)
    (idle : ∀ cpu, h.tv.scodeCurr cpu ≠ some i) :
    PalTraceInv { h with
      tv := s'
      frees := update h.frees (h.palOf i) (h.frees (h.palOf i) + 1) } := by
  obtain ⟨size, known, distinct, live, freed, fresh, running, runs⟩ := inv
  refine ⟨?_, ?_, ?_, ?_, ?_, ?_, ?_, ?_⟩
  · rw [size', entries, Finset.card_erase_of_mem used, size]
  · intro j mem
    rw [entries] at mem
    exact known j (Finset.mem_of_mem_erase mem)
  · intro a memA b memB
    rw [entries] at memA memB
    exact distinct a (Finset.mem_of_mem_erase memA) b (Finset.mem_of_mem_erase memB)
  · intro j mem
    rw [entries] at mem
    obtain ⟨other, mem⟩ := Finset.mem_erase.mp mem
    dsimp only
    rw [update_of_ne (fun same => other (distinct j mem i used same))]
    exact live j mem
  · intro k lt gone
    rw [entries] at gone
    dsimp only
    by_cases here : k = h.palOf i
    · rw [here, update_self, live i used]
    · rw [update_of_ne here]
      refine freed k lt fun j mem => ?_
      by_cases same : j = i
      · rw [same]
        exact Ne.symm here
      · exact gone j (Finset.mem_erase.mpr ⟨same, mem⟩)
  · intro k le
    dsimp only at le ⊢
    rw [update_of_ne (Nat.ne_of_gt (Nat.lt_of_lt_of_le (known i used) le))]
    exact fresh k le
  · intro cpu j runs
    rw [curr] at runs
    rw [entries]
    refine Finset.mem_erase.mpr ⟨?_, running cpu j runs⟩
    rintro rfl
    exact idle cpu runs
  · intro cpu
    rw [runs cpu, curr]

theorem PalTraceInv.step {o : TvOp} (ok : PalOk h o) (step : tvStep lists h.tv o = some s')
    : PalTraceInv (h.record s' o) := by
  cases o with
  | register guest =>
    rw [PalTrace.record]
    rcases register_entries step with ⟨same, curr⟩ | ⟨i, entry, found, changed, gcr3, size, curr⟩
    · split
      · rw [if_pos same.size]
        exact inv.same same curr
      · exact inv.same same curr
    · obtain ⟨inside, free⟩ := find?_range_some found
      have unused : i ∉ liveEntries h.tv := fun mem =>
        (mem_liveEntries.mp mem).2 (of_decide_eq_true free)
      have entries := liveEntries_insert inside changed (gcr3 ▸ ok)
      rw [found]
      dsimp only
      rw [if_neg (by omega)]
      exact inv.enter unused entries size curr
  | unregister guest gvaddr =>
    rw [PalTrace.record]
    rcases unregister_entries step with rfl | ⟨i, found, nonempty, changed, size, curr⟩
    · split
      · rw [if_pos rfl]
        exact inv
      · exact inv
    · have used : i ∈ liveEntries h.tv :=
        mem_liveEntries.mpr (ok.1.liveOnly.found found)
      rw [found]
      dsimp only
      rw [if_neg (by omega)]
      exact inv.leave used (liveEntries_erase changed rfl) size curr (ok.2 i found)
  | share guest scodeEntry ranges =>
    rcases tvStep_share step with rfl | ⟨i, -, shared⟩
    · exact inv
    · obtain ⟨same, curr⟩ := share_entries shared
      exact inv.same same curr
  | npf cpu guest rip =>
    obtain ⟨same, curr⟩ := npf_entries step
    refine inv.npf same ?_
    rcases curr with ⟨i, found, curr⟩ | curr
    · exact .inl ⟨i, mem_liveEntries.mpr (NonzeroCr3.liveOnly ok |>.inList found), curr⟩
    · exact .inr curr

end

def samplePalTrace : PalTrace := ⟨sampleTv, 0, fun _ => 0, fun _ => 0, fun _ => none⟩

theorem samplePalTrace_init : (palTraceMachine samplePageLists).init samplePalTrace :=
  ⟨sampleTv_init, rfl, fun _ => rfl, fun _ => rfl⟩

end Xmhf
