import Mathlib.Data.List.TakeWhile
import Xmhf.Trustvisor.Frames

/-!
# Isolation of registered PALs

The frames of a registered PAL are out of reach of the guest and of other PALs, in runs in which no
call does what the code does not guard against (`TvOk`): register a PAL whose CR3 has address 0,
or with a section of guest page tables, of the page of the return address or of frames that its
page table entries cannot hold; lend as code a frame that another PAL has as shared code;
unregister a PAL that is running, or whose shared code another PAL has too; and look up a PAL with
a CR3 that a free entry matches.
-/

namespace Xmhf

open Option (bind_eq_some_iff)
open Function (update update_eq_self update_of_ne update_self)

open Lending

def Tv.Registered (s : Tv) (i : Nat) : Prop := i < whitelistMax ∧ (s.whitelist i).gcr3 ≠ 0

instance (s : Tv) (i : Nat) : Decidable (s.Registered i) :=
  inferInstanceAs (Decidable (_ ∧ _))

def Tv.tablesOf (s : Tv) (i : Nat) : PalTables := s.maps.tables (s.whitelist i).pal.pageLists

def LiveOnly (s : Tv) (guest : TvGuest) : Prop :=
  ∀ i < whitelistMax, (s.whitelist i).isOf guest = true → (s.whitelist i).gcr3 ≠ 0

/-- The frames of a section fit into page table entries of the guest and of the PAL. -/
def FitsEntries (guest : TvGuest) (t : HptType) (sec : TvPalSectionInt) : Prop :=
  ∀ page < sec.size / 4096, ∀ f, guest.walk sec.palProt (sec.regGva + pageOffset page) = some f →
      entryPage t (entryPage guest.t f) = f

structure RegisterOk (s : Tv) (guest : TvGuest) (sections : List TvPalSectionInt) : Prop where
  cr3 : hptCr3GetAddress guest.t guest.gcr3 ≠ 0
  type : ∀ sec ∈ sections, sec.sectionType ≠ .guestPageTables
  away : ∀ sec ∈ sections, returnPageOf guest.t ∉ sec.palPages guest.t
  fits : ∀ sec ∈ sections, FitsEntries guest guest.t sec
  alone : ∀ sec ∈ sections, sec.sectionType = .code → ∀ page < sec.size / 4096, ∀ f,
    guest.walk sec.palProt (sec.regGva + pageOffset page) = some f →
      ∀ j, s.Registered j → (s.tablesOf j).npt f = hptProtsNone

structure UnregisterOk (s : Tv) (i : Nat) : Prop where
  idle : ∀ cpu, s.scodeCurr cpu ≠ some i
  alone : ∀ sec ∈ (s.whitelist i).sections, sec.sectionType = .sharedCode →
    ∀ page ∈ sec.palPages (s.whitelist i).pal.t, ∀ j, s.Registered j → j ≠ i →
      (s.tablesOf j).npt ((s.tablesOf i).gpt page).gpa = hptProtsNone

def TvOk (s : Tv) : TvOp → Prop
  | .register guest scodeInfo _ _ _ _ _ =>
    ∀ sections, scodeInfo.mapM TvPalSection.int = some sections → RegisterOk s guest sections
  | .unregister guest gvaddr =>
    LiveOnly s guest ∧ ∀ i, findScodeByEntry s guest gvaddr = some i → UnregisterOk s i
  | .share guest scodeEntry ranges =>
    LiveOnly s guest ∧ ∀ i, findScodeByEntry s guest (scodeEntry.setWidth 64) = some i →
      ∀ range ∈ ranges, FitsEntries guest (s.whitelist i).pal.t (sharedSection range)
  | .npf _ guest _ _ _ _ => LiveOnly s guest

/-! ## The invariant -/

def WhitelistEntry.held (entry : WhitelistEntry) : HeldPal :=
  ⟨entry.pal, entry.sections.flatMap (·.loans entry.pal.t)⟩

def palsOf (s : Tv) (i : Nat) : Option HeldPal :=
  if s.Registered i then some (s.whitelist i).held else none

structure TvInv (lists : PageLists) (s : Tv) : Prop where
  lent : Lent lists s.maps (palsOf s)
  allocated : ∀ {i}, s.Registered i → s.allocated (s.whitelist i).pal.pageLists = true
  running : ∀ {cpu i}, s.scodeCurr cpu = some i → s.Registered i

variable {lists : PageLists} {s s' : Tv} {guest : TvGuest} {i : Nat}

theorem palsOf_registered (registered : s.Registered i) :
    palsOf s i = some (s.whitelist i).held := if_pos registered

variable {held : HeldPal}

theorem palsOf_eq_some (pal : palsOf s i = some held) :
    s.Registered i ∧ held = (s.whitelist i).held := by
  rw [palsOf] at pal
  split at pal
  · next registered => exact ⟨registered, (Option.some.inj pal).symm⟩
  · cases pal

theorem palsOf_free (free : ¬ s.Registered i) : palsOf s i = none := if_neg free

variable {entry : WhitelistEntry}

theorem palsOf_update (inside : i < whitelistMax)
    (changed : s'.whitelist = update s.whitelist i entry) :
    palsOf s' = update (palsOf s) i (if entry.gcr3 ≠ 0 then some entry.held else none) := by
  funext j
  by_cases same : j = i
  · subst same
    simp only [palsOf, Tv.Registered, changed, update_self, inside, true_and]
  · have entry_eq : s'.whitelist j = s.whitelist j := by
      rw [changed, update_of_ne same]
    rw [update_of_ne same]
    exact if_congr (by rw [Tv.Registered, Tv.Registered, entry_eq]) (by rw [entry_eq]) rfl

theorem registered_update {j : Nat} (changed : s'.whitelist = update s.whitelist i entry)
    (used : entry.gcr3 ≠ 0) (inside : i < whitelistMax) :
    s'.Registered j ↔ j = i ∨ s.Registered j := by
  rw [Tv.Registered, changed]
  by_cases same : j = i
  · subst same
    rw [update_self]
    exact ⟨fun _ => .inl rfl, fun _ => ⟨inside, used⟩⟩
  · rw [update_of_ne same]
    exact ⟨.inr, fun either => either.resolve_left same⟩

theorem TvInv.change (inv : TvInv lists s) (registered : s.Registered i)
    (changed : s'.whitelist = update s.whitelist i entry) (used : entry.gcr3 ≠ 0)
    (pal : entry.pal = (s.whitelist i).pal) (allocated : s'.allocated = s.allocated)
    (lent : Lent lists s'.maps (update (palsOf s) i (some entry.held)))
    (running : ∀ {cpu j}, s'.scodeCurr cpu = some j → j = i ∨ s.Registered j) :
    TvInv lists s' ∧ s'.Registered i := by
  have known := @registered_update s s' i entry
  refine ⟨⟨?_, ?_, ?_⟩, (known changed used registered.1).mpr (.inl rfl)⟩
  · rw [palsOf_update registered.1 changed, if_pos used]
    exact lent
  · intro j isRegistered
    rw [allocated, changed]
    by_cases same : j = i
    · subst same
      rw [update_self, pal]
      exact inv.allocated registered
    · rw [update_of_ne same]
      have old := (known changed used registered.1).mp isRegistered
      exact inv.allocated (old.resolve_left same)
  · intro cpu j runs
    exact (known changed used registered.1).mpr (running runs)

/-! ## Steps -/

theorem find?_range_some {n : Nat} {p : Nat → Bool} (found : (List.range n).find? p = some i) :
    i < n ∧ p i = true :=
  ⟨List.mem_range.mp (List.mem_of_find?_eq_some found), List.find?_some found⟩

theorem LiveOnly.found {gvEntry : U64} (live : LiveOnly s guest)
    (found : findScodeByEntry s guest gvEntry = some i) : s.Registered i := by
  obtain ⟨inside, matched⟩ := find?_range_some found
  exact ⟨inside, live i inside (Bool.and_eq_true_iff.mp matched).1⟩

theorem LiveOnly.inList {gvaddr : U64} (live : LiveOnly s guest)
    (found : scodeInList s guest gvaddr = some i) : s.Registered i := by
  obtain ⟨inside, matched⟩ := find?_range_some found
  exact ⟨inside, live i inside (Bool.and_eq_true_iff.mp matched).1⟩

theorem sections_split (sections : List TvPalSectionInt) :
    (sections.reverse.dropWhile fun sec => sec.sectionType = .shared).reverse ++
      (trailingShared sections).reverse = sections := by
  rw [trailingShared, ← List.reverse_append, List.takeWhile_append_dropWhile, List.reverse_reverse]

theorem TvInv.release (inv : TvInv lists s) (registered : s.Registered i)
    (releases : scodeReleaseAllSharedPages s i = some s') :
    TvInv lists s' ∧ s'.Registered i := by
  obtain ⟨maps, returns, rest⟩ := bind_eq_some_iff.mp releases
  cases rest
  have held := palsOf_registered registered
  have lent : Lent lists s.maps (update (palsOf s) i (some (s.whitelist i).held)) := by
    rw [← held, update_eq_self]
    exact inv.lent
  rw [WhitelistEntry.held, ← sections_split (s.whitelist i).sections] at lent
  have shared : ∀ sec ∈ trailingShared (s.whitelist i).sections, sec.sectionType = .shared := by
    intro sec mem
    rw [trailingShared] at mem
    have shares := List.mem_takeWhile_imp mem
    exact of_decide_eq_true shares
  have after := lent.returnSections shared returns
  exact inv.change registered rfl registered.2 rfl rfl after fun runs => .inr (inv.running runs)

theorem sharedSection_typed (range : U32 × U32) : (sharedSection range).Typed := ⟨rfl, rfl⟩

variable {m : Mappings}

theorem FitsEntries.lendable {range : U32 × U32} {pals : Nat → Option HeldPal} {k : Nat}
    {t : HptType} (fits : FitsEntries guest t (sharedSection range)) :
    SectionLendable m pals k guest t (sharedSection range) :=
  fun page inside f walk => ⟨nofun, fits page inside f walk, nofun⟩

theorem TvInv.share {ranges : List (U32 × U32)} (inv : TvInv lists s)
    (registered : s.Registered i)
    (fits : ∀ range ∈ ranges, FitsEntries guest (s.whitelist i).pal.t (sharedSection range))
    (shares : scodeShareRanges guest i ranges s = some s') : TvInv lists s' := by
  induction ranges generalizing s with
  | nil =>
    cases shares
    exact inv
  | cons range ranges ih =>
    rw [scodeShareRanges] at shares
    split at shares
    · obtain ⟨maps, lends, shares⟩ := bind_eq_some_iff.mp shares
      obtain ⟨first, later⟩ := List.forall_mem_cons.mp fits
      obtain ⟨lent, -⟩ := inv.lent.lendSection (palsOf_registered registered)
        (sharedSection_typed range) first.lendable lends
      have same : (s.whitelist i).held.loans ++
          (sharedSection range).loans (s.whitelist i).held.pal.t =
          ((s.whitelist i).sections ++ [sharedSection range]).flatMap
            (·.loans (s.whitelist i).pal.t) := by
        rw [List.flatMap_append, List.flatMap_singleton]
        rfl
      rw [holding, same] at lent
      have next : TvInv lists { s.setEntry i { s.whitelist i with
          sections := (s.whitelist i).sections ++ [sharedSection range] } with maps } ∧
            Tv.Registered _ i :=
        inv.change registered rfl registered.2 rfl rfl lent fun runs => .inr (inv.running runs)
      refine ih next.1 next.2 ?_ shares
      intro r mem
      dsimp only [Tv.setEntry]
      rw [update_self]
      exact later r mem
    · exact (inv.release registered shares).1

theorem TvInv.npf {cpu : Nat} {rip gpaddr : U64} {insnFetch marshalled : Bool}
    (inv : TvInv lists s) (live : LiveOnly s guest)
    (faults : hptScodeNpf s cpu guest rip gpaddr insnFetch marshalled = some s') :
    TvInv lists s' := by
  obtain ⟨_, -, faults⟩ := bind_eq_some_iff.mp faults
  have kept : ∀ {s : Tv} {i : Nat} (running : Bool), s.Registered i → TvInv lists s →
      Lent lists s.maps (update (palsOf s) i
        (some (WhitelistEntry.held { s.whitelist i with palRunning := running }))) := by
    intro s i running registered inv
    have held := palsOf_registered registered
    rw [WhitelistEntry.held] at held ⊢
    rw [← held, update_eq_self]
    exact inv.lent
  split at faults
  · next i _ found =>
    have registered := live.inList found
    obtain ⟨_, -, faults⟩ := bind_eq_some_iff.mp faults
    obtain ⟨_, -, faults⟩ := bind_eq_some_iff.mp faults
    cases faults
    refine And.left (inv.change registered rfl registered.2 rfl rfl (kept true registered inv) ?_)
    intro cpu' j runs
    by_cases same : cpu' = cpu
    · rw [same] at runs
      have self := (update_self ..).symm.trans runs
      exact .inl (Option.some.inj self).symm
    · have old := (update_of_ne same ..).symm.trans runs
      exact .inr (inv.running old)
  · next i runs _ =>
    obtain ⟨_, -, faults⟩ := bind_eq_some_iff.mp faults
    obtain ⟨mid, releases, faults⟩ := bind_eq_some_iff.mp faults
    cases faults
    obtain ⟨inv', registered'⟩ := inv.release (inv.running runs) releases
    refine And.left
      (inv'.change registered' rfl registered'.2 rfl rfl (kept false registered' inv') ?_)
    intro cpu' j runs
    by_cases same : cpu' = cpu
    · rw [same] at runs
      have self := (update_self ..).symm.trans runs
      cases self
    · have old := (update_of_ne same ..).symm.trans runs
      exact .inr (inv'.running old)
  · cases faults

theorem registered_drop {j : Nat} (changed : s'.whitelist = update s.whitelist i entry)
    (free : entry.gcr3 = 0) : s'.Registered j ↔ j ≠ i ∧ s.Registered j := by
  rw [Tv.Registered, changed]
  by_cases same : j = i
  · subst same
    rw [update_self, free]
    exact ⟨fun used => absurd rfl used.2, fun used => absurd rfl used.1⟩
  · rw [update_of_ne same]
    exact ⟨fun registered => ⟨same, registered⟩, And.right⟩

theorem TvInv.drop (inv : TvInv lists s) (registered : s.Registered i)
    (changed : s'.whitelist = update s.whitelist i { s.whitelist i with gcr3 := 0 })
    (freed : s'.allocated = update s.allocated (s.whitelist i).pal.pageLists false)
    (curr : s'.scodeCurr = s.scodeCurr)
    (lent : Lent lists s'.maps (update (palsOf s) i none))
    (idle : ∀ cpu, s.scodeCurr cpu ≠ some i) : TvInv lists s' := by
  have known := @registered_drop s s' i { s.whitelist i with gcr3 := 0 }
  refine ⟨?_, ?_, ?_⟩
  · rw [palsOf_update registered.1 changed]
    exact lent
  · intro j isRegistered
    obtain ⟨other, old⟩ := (known changed rfl).mp isRegistered
    have apart : (s.whitelist j).pal.pageLists ≠ (s.whitelist i).pal.pageLists := fun same =>
      other (inv.lent.distinct (palsOf_registered old) (palsOf_registered registered) same)
    rw [freed, changed, update_of_ne other, update_of_ne apart]
    exact inv.allocated old
  · intro cpu j runs
    rw [curr] at runs
    refine (known changed rfl).mpr ⟨?_, inv.running runs⟩
    rintro rfl
    exact idle cpu runs

theorem TvInv.unregister {gvaddr : U64} (inv : TvInv lists s) (live : LiveOnly s guest)
    (ok : ∀ i, findScodeByEntry s guest gvaddr = some i → UnregisterOk s i)
    (unregisters : scodeUnregister s guest gvaddr = some s') : TvInv lists s' := by
  rw [scodeUnregister] at unregisters
  split at unregisters
  · cases unregisters
    exact inv
  · generalize found : findScodeByEntry s guest gvaddr = result at unregisters
    cases result with
    | none =>
      cases unregisters
      exact inv
    | some i =>
      obtain ⟨maps, returns, unregisters⟩ := bind_eq_some_iff.mp unregisters
      cases unregisters
      have registered := live.found found
      have held := palsOf_registered registered
      have forgotten := inv.lent.forget i
      have others : ∀ k held', update (palsOf s) i none k = some held' →
          k ≠ i ∧ s.Registered k ∧ held' = (s.whitelist k).held := by
        intro k held' pal
        by_cases same : k = i
        · rw [same, update_self] at pal
          cases pal
        · rw [update_of_ne same] at pal
          exact ⟨same, palsOf_eq_some pal⟩
      have distinct : ∀ k held', update (palsOf s) i none k = some held' →
          held'.pal.pageLists ≠ (s.whitelist i).pal.pageLists := by
        intro k held' pal same
        obtain ⟨other, isRegistered, rfl⟩ := others k held' pal
        exact other (inv.lent.distinct (palsOf_registered isRegistered) held same)
      -- Exclusive pages are of no other PAL, pages of shared code by the condition.
      have free : ∀ sec ∈ (s.whitelist i).sections, ∀ page ∈ sec.palPages (s.whitelist i).pal.t,
            FreePage lists s.maps (update (palsOf s) i none)
              (s.whitelist i).pal.pageLists page := by
        intro sec mem page page_mem
        have loan : (page, sec.sectionType) ∈ (s.whitelist i).held.loans :=
          List.mem_flatMap.mpr ⟨sec, mem, List.mem_map_of_mem page_mem⟩
        have borrower := borrowers_eq_some (m := s.maps) held
        refine ⟨(inv.lent.sound.lent borrower loan).1, fun k held' pal => ?_⟩
        obtain ⟨other, isRegistered, rfl⟩ := others k held' pal
        by_cases shared : sec.sectionType = .sharedCode
        · exact (ok i found).alone sec mem shared page page_mem k isRegistered other
        · have closed := (inv.lent.sound.exclusive borrower loan shared).2 other
            (borrowers_eq_some (palsOf_registered isRegistered))
          exact closed
      have returned := unregisterSections_free forgotten distinct free returns
      exact inv.drop registered rfl rfl rfl returned.lent (ok i found).idle

theorem int_typed {sec : TvPalSection} {section' : TvPalSectionInt}
    (int : sec.int = some section') : section'.Typed := by
  obtain ⟨type, -, rfl⟩ := Option.map_eq_some_iff.mp int
  exact ⟨rfl, rfl⟩

theorem mem_of_mapM {α β : Type} {f : α → Option β} {l : List α} {l' : List β} {y : β}
    (maps : l.mapM f = some l') (mem : y ∈ l') : ∃ x ∈ l, f x = some y := by
  induction l generalizing l' with
  | nil =>
    cases maps
    cases mem
  | cons x l ih =>
    rw [List.mapM_cons] at maps
    obtain ⟨z, first, maps⟩ := bind_eq_some_iff.mp maps
    obtain ⟨rest, later, maps⟩ := bind_eq_some_iff.mp maps
    cases maps
    rcases List.mem_cons.mp mem with rfl | mem
    · exact ⟨x, List.mem_cons_self .., first⟩
    · obtain ⟨x', inside, found⟩ := ih later mem
      exact ⟨x', List.mem_cons_of_mem _ inside, found⟩

variable {scodeInfo : List TvPalSection}

theorem RegisterOk.lendable {sections : List TvPalSectionInt} (ok : RegisterOk s guest sections)
    (ints : scodeInfo.mapM TvPalSection.int = some sections) (k : Nat) :
    SectionsLendable s.maps (palsOf s) k guest guest.t sections where
  typed := by
    intro sec mem
    obtain ⟨desc, -, int⟩ := mem_of_mapM ints mem
    exact int_typed int
  lendable := by
    intro sec mem page inside f walk
    refine ⟨ok.type sec mem, ok.fits sec mem page inside f walk, fun code => ?_⟩
    intro j held' _ pal
    obtain ⟨registered, rfl⟩ := palsOf_eq_some pal
    exact ok.alone sec mem code page inside f walk j registered
  away := ok.away

theorem TvInv.abandon {maps : Mappings} {pageLists : Nat} (inv : TvInv lists s)
    (lent : Lent lists maps (palsOf s)) :
    TvInv lists { s with maps, allocated := update s.allocated pageLists true } := by
  refine ⟨lent, fun {i} registered => ?_, inv.running⟩
  dsimp only
  by_cases same : (s.whitelist i).pal.pageLists = pageLists
  · rw [same, update_self]
  · rw [update_of_ne same]
    exact inv.allocated registered

theorem TvInv.take (inv : TvInv lists s) (inside : i < whitelistMax)
    (changed : s'.whitelist = update s.whitelist i entry) (used : entry.gcr3 ≠ 0)
    (allocated : s'.allocated = update s.allocated entry.pal.pageLists true)
    (curr : s'.scodeCurr = s.scodeCurr)
    (lent : Lent lists s'.maps (update (palsOf s) i (some entry.held))) : TvInv lists s' := by
  have known := @registered_update s s' i entry
  refine ⟨?_, ?_, ?_⟩
  · rw [palsOf_update inside changed, if_pos used]
    exact lent
  · intro j registered
    rw [allocated, changed]
    by_cases same : j = i
    · rw [same, update_self, update_self]
    · rw [update_of_ne same]
      by_cases reused : (s.whitelist j).pal.pageLists = entry.pal.pageLists
      · rw [reused, update_self]
      · rw [update_of_ne reused]
        exact inv.allocated (((known changed used inside).mp registered).resolve_left same)
  · intro cpu j runs
    rw [curr] at runs
    exact (known changed used inside).mpr (.inr (inv.running runs))

theorem TvInv.register {entryV entryP : U64} {pageLists : Option Nat} {parsed measured : Bool}
    (inv : TvInv lists s)
    (ok : ∀ sections, scodeInfo.mapM TvPalSection.int = some sections → RegisterOk s guest sections)
    (registers : scodeRegister lists s guest scodeInfo entryV entryP pageLists parsed measured =
      some s') : TvInv lists s' := by
  unfold scodeRegister at registers
  split at registers
  · cases registers
    exact inv
  · next pageLists =>
    split at registers
    · cases registers
      exact inv
    · obtain ⟨_, unallocated, registers⟩ := bind_eq_some_iff.mp registers
      obtain ⟨sections, ints, registers⟩ := bind_eq_some_iff.mp registers
      obtain ⟨maps, mapped, registers⟩ := bind_eq_some_iff.mp registers
      have unused : ∀ k held', palsOf s k = some held' → held'.pal.pageLists ≠ pageLists := by
        rintro k held' pal rfl
        obtain ⟨registered, rfl⟩ := palsOf_eq_some pal
        have free := (Option.guard_eq_some' _).mp unallocated
        rw [Bool.not_eq_true'] at free
        exact Bool.noConfusion (free.symm.trans (inv.allocated registered))
      have lent := fun k => mapPal_lent inv.lent unused ((ok sections ints).lendable ints k) mapped
      -- A PAL without an entry is forgotten.
      have abandoned : Lent lists maps (palsOf s) := by
        have outside : palsOf s whitelistMax = none :=
          palsOf_free fun registered => Nat.lt_irrefl _ registered.1
        have forgotten := (lent whitelistMax).forget whitelistMax
        rwa [Function.update_idem, ← outside, update_eq_self] at forgotten
      dsimp only at registers
      split at registers
      · cases registers
        exact inv.abandon abandoned
      · split at registers
        · cases registers
          exact inv.abandon abandoned
        · next i found =>
          cases registers
          obtain ⟨inside, -⟩ := find?_range_some found
          exact inv.take inside rfl (ok sections ints).cr3 rfl rfl (lent i)

/-! ## Runs -/

theorem TvInv.init (start : (tvMachine lists).init s) : TvInv lists s := by
  obtain ⟨free, -, -, idle, hidden⟩ := start
  have none_ : ∀ i, palsOf s i = none := fun i => palsOf_free fun registered =>
    registered.2 (free i)
  have nobody : ∀ {i held}, palsOf s i ≠ some held := by
    intro i held pal
    rw [none_ i] at pal
    cases pal
  have nobody' : ∀ {i b}, borrowers s.maps (palsOf s) i ≠ some b := by
    intro i b borrower
    obtain ⟨held, pal, -⟩ := Option.map_eq_some_iff.mp borrower
    exact nobody pal
  refine ⟨⟨⟨?_, ?_, ?_, ?_, ?_, ?_⟩, hidden _ _, ?_, ?_, ?_⟩, ?_, ?_⟩
  iterate 6 exact fun borrower => absurd borrower nobody'
  iterate 3 exact fun pal => absurd pal nobody
  · exact fun {i} registered => absurd (free i) registered.2
  · intro cpu i runs
    rw [idle cpu] at runs
    cases runs

theorem tvStep_share {scodeEntry : U32} {ranges : List (U32 × U32)}
    (step : tvStep lists s (.share guest scodeEntry ranges) = some s') :
    s' = s ∨ ∃ i, findScodeByEntry s guest (scodeEntry.setWidth 64) = some i ∧
      scodeShareRanges guest i ranges s = some s' := by
  rw [tvStep] at step
  split at step
  · cases step
    exact .inl rfl
  · next i found => exact .inr ⟨i, found, step⟩

theorem TvInv.reachable (reached : (tvMachine lists).ReachableUnder TvOk s) : TvInv lists s := by
  refine reached.invariant (fun s => TvInv.init) ?_
  intro s o s' inv ok step
  cases o with
  | register => exact inv.register ok step
  | unregister => exact inv.unregister ok.1 ok.2 step
  | share guest scodeEntry ranges =>
    have shares : tvStep lists s (.share guest scodeEntry ranges) = some s' := step
    rcases tvStep_share shares with rfl | ⟨i, found, shared⟩
    · exact inv
    · exact inv.share (ok.1.found found) (ok.2 i found) shared
  | npf => exact inv.npf ok step

/-- The types of sections that only the PAL may access. -/
def TvPalSectionType.isPrivate : TvPalSectionType → Bool
  | .code | .data | .param | .stack | .shared => true
  | .sharedCode | .guestPageTables => false

theorem Lent.private_closed {pals : Nat → Option HeldPal} {k page : Nat} {t : TvPalSectionType}
    (lent : Lent lists m pals) (pal : pals k = some held) (loan : (page, t) ∈ held.loans)
    (isPrivate : t.isPrivate = true) :
    m.ept01 ((m.tables held.pal.pageLists).gpt page).gpa = hptProtsNone ∧
      ClosedElsewhere m pals k ((m.tables held.pal.pageLists).gpt page).gpa := by
  have exclusive : t ≠ .sharedCode := by
    rintro rfl
    cases isPrivate
  have own := lent.sound.exclusive (borrowers_eq_some pal) loan exclusive
  exact ⟨own.1, fun k' held' other pal' => own.2 other (borrowers_eq_some pal')⟩

theorem Lent.reads_elsewhere {pals : Nat → Option HeldPal} {k f : Nat} (lent : Lent lists m pals)
    (pal : pals k = some held) (mapped : (m.tables held.pal.pageLists).npt f ≠ hptProtsNone) :
    m.ept01 f &&& hptProtWriteMask = 0 ∧ ∀ k' held', k' ≠ k → pals k' = some held' →
      (m.tables held'.pal.pageLists).npt f &&& hptProtWriteMask = 0 := by
  by_cases heap : ∃ i, f ∈ lists.gpl i
  · obtain ⟨i, heap⟩ := heap
    have own := lent.own pal heap
    have mine : i = held.pal.pageLists := by
      by_contra foreign
      rw [if_neg foreign] at own
      exact mapped own
    refine ⟨by rw [lent.hidden heap]; rfl, fun k' held' other pal' => ?_⟩
    have foreign : i ≠ held'.pal.pageLists := fun same =>
      other (lent.distinct pal' pal (same.symm.trans mine))
    rw [lent.own pal' heap, if_neg foreign]
    rfl
  · have inPool : lists.Pool f := fun i mem => heap ⟨i, mem⟩
    have borrower := borrowers_eq_some (m := m) pal
    obtain ⟨page, t, loan, rfl⟩ := lent.sound.mapped borrower inPool mapped
    refine ⟨not_ne_iff.mp (lent.sound.readOnly borrower loan), fun k' held' other pal' => ?_⟩
    by_contra writes
    have borrower' := borrowers_eq_some (m := m) pal'
    have mapped' : (held'.borrower m).rights ((held.borrower m).frame page) ≠ hptProtsNone := by
      intro closed
      apply writes
      change (held'.borrower m).rights ((held.borrower m).frame page) &&& _ = _
      rw [closed]
      rfl
    obtain ⟨page', t', loan', same⟩ := lent.sound.mapped borrower' inPool mapped'
    -- A loan with the right to write is exclusive.
    have right := (lent.sound.lent borrower' loan').2
    rw [same] at right
    have exclusive : scodePolicy.exclusive t' := by
      by_contra shared
      apply scodePolicy.shared_reads t' shared
      rw [← right]
      exact writes
    have closed := (lent.sound.exclusive borrower' loan' exclusive).2 (Ne.symm other) borrower
    rw [same] at closed
    exact mapped closed

/-! ## Sample guests -/

def samplePageLists : PageLists where
  gpl i := [1000 + i]
  disjoint := by
    intro i j f first second
    rw [List.mem_singleton] at first second
    omega

def sampleTvGuest (gcr3 : U64) : TvGuest where
  gcr3 := gcr3
  t := .long
  g64 := true
  ept12 := BitVec.allOnes 64
  walk _ _ := some 5

def sampleEntry : WhitelistEntry := ⟨0, false, 0, 0, 0, [], [], false, ⟨.norm, 0⟩⟩

def sampleTv : Tv where
  maps := ⟨fun f => if f < 1000 then hptProtsRwx else hptProtsNone,
    fun _ => ⟨fun _ => hptProtsNone, fun _ => ⟨0, hptProtsNone⟩⟩⟩
  allocated _ := false
  whitelist _ := sampleEntry
  whitelistSize := 0
  scodeCurr _ := none

theorem sampleTv_init : (tvMachine samplePageLists).init sampleTv := by
  refine ⟨fun _ => rfl, rfl, fun _ => rfl, fun _ => rfl, fun i f heap => ?_⟩
  rw [samplePageLists, List.mem_singleton] at heap
  exact if_neg (by omega)

def sampleRegister (gcr3 : U64) (type : U32) (pageLists : Nat) : TvOp :=
  .register (sampleTvGuest gcr3) [⟨type, 1, 0x10000⟩] 0x10000 0x5000 (some pageLists) true true

/-- What a registered PAL holds as private memory is accessible neither to the guest nor to
another PAL, and what it can execute is writable neither to the guest nor to another PAL. -/
theorem registered_pal_isolated (reached : (tvMachine lists).ReachableUnder TvOk s) {i : Nat}
    (registered : s.Registered i) :
    (∀ sec ∈ (s.whitelist i).sections, sec.sectionType.isPrivate = true →
      ∀ page ∈ sec.palPages (s.whitelist i).pal.t,
        s.maps.ept01 ((s.tablesOf i).gpt page).gpa = hptProtsNone ∧
        ∀ j, s.Registered j → j ≠ i →
          (s.tablesOf j).npt ((s.tablesOf i).gpt page).gpa = hptProtsNone) ∧
    ∀ f, (s.tablesOf i).npt f &&& hptProtExecMask ≠ 0 → s.maps.ept01 f &&& hptProtWriteMask = 0 ∧
      ∀ j, s.Registered j → j ≠ i → (s.tablesOf j).npt f &&& hptProtWriteMask = 0 := by
  have lent := (TvInv.reachable reached).lent
  have held := palsOf_registered registered
  constructor
  · intro sec mem isPrivate page page_mem
    have loan : (page, sec.sectionType) ∈ (s.whitelist i).held.loans :=
      List.mem_flatMap.mpr ⟨sec, mem, List.mem_map_of_mem page_mem⟩
    obtain ⟨closed, elsewhere⟩ := lent.private_closed held loan isPrivate
    exact ⟨closed, fun j other ne => elsewhere j _ ne (palsOf_registered other)⟩
  · intro f executes
    have mapped : (s.tablesOf i).npt f ≠ hptProtsNone := by
      intro closed
      rw [closed] at executes
      exact executes rfl
    obtain ⟨home, others⟩ := lent.reads_elsewhere held mapped
    exact ⟨home, fun j other ne => others j _ ne (palsOf_registered other)⟩

theorem sampleRegister_ok : TvOk sampleTv (sampleRegister 0x2000 2 0) := by
  intro sections ints
  have known : sections = [.ofType 0x10000 4096 .data] := (Option.some.inj ints).symm
  subst known
  refine ⟨by decide, ?_, ?_, ?_, ?_⟩
  · rintro sec mem
    cases List.mem_singleton.mp mem
    nofun
  · rintro sec mem
    cases List.mem_singleton.mp mem
    decide
  · intro sec mem page inside f walk
    rfl
  · intro sec mem code
    cases List.mem_singleton.mp mem
    cases code

theorem registered_pal_isolated_sample : ∃ s, (tvMachine samplePageLists).ReachableUnder TvOk s ∧
    s.Registered 0 ∧ s.maps.ept01 ((s.tablesOf 0).gpt 16).gpa = hptProtsNone := by
  have sample : ((tvMachine samplePageLists).step sampleTv (sampleRegister 0x2000 2 0)).map
      (fun s => (decide (s.Registered 0), (s.whitelist 0).sections, (s.whitelist 0).pal.t)) =
        some (true, [.ofType 0x10000 4096 .data], .long) := rfl
  obtain ⟨s, step, facts⟩ := Option.map_eq_some_iff.mp sample
  obtain ⟨registered, facts⟩ := Prod.mk.inj facts
  obtain ⟨sections, t⟩ := Prod.mk.inj facts
  have reached : (tvMachine samplePageLists).ReachableUnder TvOk s :=
    .step (.init sampleTv_init) sampleRegister_ok step
  have inUse := of_decide_eq_true registered
  refine ⟨s, reached, inUse, ?_⟩
  have mem : TvPalSectionInt.ofType 0x10000 4096 .data ∈ (s.whitelist 0).sections := by
    rw [sections]
    exact List.mem_singleton_self _
  have page : 16 ∈ (TvPalSectionInt.ofType 0x10000 4096 .data).palPages (s.whitelist 0).pal.t := by
    rw [t]
    decide
  exact ((registered_pal_isolated reached inUse).1 _ mem rfl 16 page).1

/-- Two processes register the same page as shared code. When the first one is unregistered, the
guest gets the page back as writable memory, and the second one executes it. -/
theorem shared_code_returned_writable : ∃ s, (tvMachine samplePageLists).Reachable s ∧
    s.Registered 1 ∧ (s.tablesOf 1).npt 5 &&& hptProtExecMask ≠ 0 ∧
      s.maps.ept01 5 &&& hptProtWriteMask ≠ 0 := by
  have sample : ((tvMachine samplePageLists).run sampleTv
      [sampleRegister 0x2000 5 0, sampleRegister 0x3000 5 1,
        .unregister (sampleTvGuest 0x2000) 0x10000]).map
      (fun s => (decide (s.Registered 1), (s.tablesOf 1).npt 5, s.maps.ept01 5)) =
        some (true, hptProtsRx, hptProtsRwx) := rfl
  obtain ⟨s, run, facts⟩ := Option.map_eq_some_iff.mp sample
  obtain ⟨registered, facts⟩ := Prod.mk.inj facts
  obtain ⟨npt, ept01⟩ := Prod.mk.inj facts
  refine ⟨s, Machine.Reachable.run (.init sampleTv_init) run, of_decide_eq_true registered, ?_⟩
  rw [npt, ept01]
  decide

end Xmhf
