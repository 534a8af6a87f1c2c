import Xmhf.Lib.Lending
import Xmhf.Lib.Pass
import Xmhf.Trustvisor.Scode

/-!
# Frames of registered PALs

The guest lends frames to PALs: a `Lending.Policy`, with EPT01 as the rights of the home and the
nested page table of each PAL as the rights of a borrower, who reaches a frame through the PAL's
guest page table. `Lent` says that the mappings are a sound state of it. The functions on sections
are followed page by page with the rules of `Lending`, and the calls section by section.
-/

namespace Xmhf

open Option (bind_eq_some_iff map_none map_some)
open List (append_assoc append_nil map_nil mem_append_right mem_cons_self mem_map perm_middle)
open Function (update update_eq_self update_idem update_of_ne update_self)

open Lending

def scodePolicy : Policy TvPalSectionType Prot where
  right := palProtOfType
  exclusive t := t ≠ .sharedCode
  closed := hptProtsNone
  Writes prot := prot &&& hptProtWriteMask ≠ 0
  right_ne_closed t := by cases t <;> decide
  closed_reads := by decide
  shared_reads t := by cases t <;> decide

structure HeldPal where
  pal : PalCtx
  loans : List (Nat × TvPalSectionType)

def HeldPal.borrower (held : HeldPal) (m : Mappings) : Borrower Nat Nat TvPalSectionType Prot where
  rights := (m.tables held.pal.pageLists).npt
  frame page := ((m.tables held.pal.pageLists).gpt page).gpa
  loans := held.loans

def borrowers (m : Mappings) (pals : Nat → Option HeldPal) (k : Nat) :
    Option (Borrower Nat Nat TvPalSectionType Prot) :=
  (pals k).map (·.borrower m)

def PageLists.Pool (lists : PageLists) (f : Nat) : Prop := ∀ i, f ∉ lists.gpl i

structure Lent (lists : PageLists) (m : Mappings) (pals : Nat → Option HeldPal) : Prop where
  sound : Sound scodePolicy lists.Pool m.ept01 (borrowers m pals)
  hidden : ∀ {i f}, f ∈ lists.gpl i → m.ept01 f = hptProtsNone
  own : ∀ {k held i f}, pals k = some held → f ∈ lists.gpl i →
    (m.tables held.pal.pageLists).npt f =
      if i = held.pal.pageLists then hptProtsRwx else hptProtsNone
  distinct : ∀ {k k' held held'}, pals k = some held → pals k' = some held' →
    held.pal.pageLists = held'.pal.pageLists → k = k'
  present : ∀ {k held page t}, pals k = some held → (page, t) ∈ held.loans →
    ((m.tables held.pal.pageLists).gpt page).prot &&& hptProtsR ≠ 0

variable {lists : PageLists} {m m' : Mappings} {pals : Nat → Option HeldPal} {k : Nat}
  {held : HeldPal} {guest : TvGuest} {tables : PalTables}

theorem borrowers_eq_some (pal : pals k = some held) :
    borrowers m pals k = some (held.borrower m) := by
  rw [borrowers, pal, map_some]

/-- Page lists that no PAL other than `k` has. -/
def NotOfOthers (pals : Nat → Option HeldPal) (k pageLists : Nat) : Prop :=
  ∀ k' held', k' ≠ k → pals k' = some held' → held'.pal.pageLists ≠ pageLists

theorem Lent.notOfOthers (lent : Lent lists m pals) (pal : pals k = some held) :
    NotOfOthers pals k held.pal.pageLists :=
  fun _ _ other pal' same => other (lent.distinct pal' pal same)

theorem borrowers_of_tables {pageLists : Nat}
    (others : ∀ {k' held'}, pals k' = some held' → held'.pal.pageLists ≠ pageLists)
    (changed : m'.tables = update m.tables pageLists tables) :
    borrowers m' pals = borrowers m pals := by
  funext k'
  cases pal : pals k' with
  | none => rw [borrowers, borrowers, pal, map_none, map_none]
  | some held' =>
    rw [borrowers_eq_some pal, borrowers_eq_some pal, HeldPal.borrower, HeldPal.borrower,
      changed, update_of_ne (others pal)]

theorem borrowers_update (others : NotOfOthers pals k held.pal.pageLists)
    (changed : m'.tables = update m.tables held.pal.pageLists tables) :
    borrowers m' (update pals k (some held)) = update (borrowers m pals) k
      (some ⟨tables.npt, fun page => (tables.gpt page).gpa, held.loans⟩) := by
  funext k'
  by_cases same : k' = k
  · rw [same, update_self, borrowers_eq_some (update_self ..), HeldPal.borrower,
      changed, update_self]
  · rw [update_of_ne same, borrowers, update_of_ne same, borrowers]
    cases pal : pals k' with
    | none => rfl
    | some held' =>
      rw [map_some, map_some, HeldPal.borrower, HeldPal.borrower, changed,
        update_of_ne (others k' held' same pal)]

theorem Lent.update (lent : Lent lists m pals) (held : HeldPal)
    (others : NotOfOthers pals k held.pal.pageLists)
    (changed : m'.tables = Function.update m.tables held.pal.pageLists tables)
    (sound : Sound scodePolicy lists.Pool m'.ept01 (Function.update (borrowers m pals) k
      (some ⟨tables.npt, fun page => (tables.gpt page).gpa, held.loans⟩)))
    (hidden : ∀ {i f}, f ∈ lists.gpl i → m'.ept01 f = hptProtsNone)
    (own : ∀ {i f}, f ∈ lists.gpl i →
      tables.npt f = if i = held.pal.pageLists then hptProtsRwx else hptProtsNone)
    (present : ∀ {page t}, (page, t) ∈ held.loans → (tables.gpt page).prot &&& hptProtsR ≠ 0) :
    Lent lists m' (Function.update pals k (some held)) := by
  have here : m'.tables held.pal.pageLists = tables := by rw [changed, update_self]
  have there : ∀ {k' held'}, k' ≠ k → pals k' = some held' →
      m'.tables held'.pal.pageLists = m.tables held'.pal.pageLists := by
    intro k' held' other pal
    rw [changed, update_of_ne (others k' held' other pal)]
  refine ⟨?_, hidden, ?_, ?_, ?_⟩
  · rw [borrowers_update others changed]
    exact sound
  · intro k' held' i f pal heap
    rcases update_some_cases pal with ⟨-, rfl⟩ | ⟨other, pal⟩
    · rw [here]
      exact own heap
    · rw [there other pal]
      exact lent.own pal heap
  · intro k₁ k₂ held₁ held₂ pal₁ pal₂ same
    rcases update_some_cases pal₁ with ⟨rfl, rfl⟩ | ⟨other₁, old₁⟩ <;>
      rcases update_some_cases pal₂ with ⟨rfl, rfl⟩ | ⟨other₂, old₂⟩
    · rfl
    · exact absurd same.symm (others _ _ other₂ old₂)
    · exact absurd same (others _ _ other₁ old₁)
    · exact lent.distinct old₁ old₂ same
  · intro k' held' page t pal loan
    rcases update_some_cases pal with ⟨-, rfl⟩ | ⟨other, pal⟩
    · rw [here]
      exact present loan
    · rw [there other pal]
      exact lent.present pal loan

variable {front : List (Nat × TvPalSectionType)} {sections : List TvPalSectionInt} {m'' : Mappings}
  {page f : Nat} {new : Option HeldPal} {pal : PalCtx} {e : Prot} {sec : TvPalSectionInt}
  {t : TvPalSectionType}

/-! ## Lending -/

theorem writes_of_allows {p : Prot} (allows : p &&& e = p) (writes : p &&& hptProtWriteMask ≠ 0) :
    e &&& hptProtWriteMask ≠ 0 := by
  intro closed
  apply writes
  rw [← allows, BitVec.and_assoc, closed]
  exact BitVec.and_zero

theorem ne_none_of_allows (allows : palProtOfType t &&& e = palProtOfType t) :
    e ≠ hptProtsNone := by
  rintro rfl
  rw [BitVec.and_zero] at allows
  exact scodePolicy.right_ne_closed t allows.symm

theorem palProtOfType_reads (reads : ¬ palProtOfType t &&& hptProtWriteMask ≠ 0) :
    palProtOfType t = hptProtsRx := by
  cases t <;> first | rfl | exact absurd (by decide) reads

theorem palProtOfType_writes (notCode : t ≠ .code) (exclusive : t ≠ .sharedCode) :
    palProtOfType t &&& hptProtWriteMask ≠ 0 := by
  cases t <;> first | exact absurd rfl notCode | exact absurd rfl exclusive | decide

theorem regProtOfType_reads (type : t ≠ .guestPageTables) :
    ¬ regProtOfType t &&& hptProtWriteMask ≠ 0 := by
  cases t <;> first | exact absurd rfl type | decide

theorem regProtOfType_closed (type : t ≠ .guestPageTables) (exclusive : t ≠ .sharedCode) :
    regProtOfType t = hptProtsNone := by
  cases t <;> first | exact absurd rfl type | exact absurd rfl exclusive | rfl

theorem lendPage_some (lends : lendPage guest pal sec m page = some m') :
    ∃ f, guest.walk sec.palProt (sec.regGva + pageOffset page) = some f ∧
      ((m.tables pal.pageLists).gpt (gvaPage pal.t (sec.palGva + pageOffset page))).prot &&&
        hptProtsR = 0 ∧
      sec.palProt &&& m.ept01 f = sec.palProt ∧
      m'.ept01 = update m.ept01 f sec.regProt ∧
      m'.tables = update m.tables pal.pageLists {
        npt := update (m.tables pal.pageLists).npt f sec.palProt
        gpt := update (m.tables pal.pageLists).gpt
          (gvaPage pal.t (sec.palGva + pageOffset page))
          ⟨entryPage pal.t (entryPage guest.t f), hptProtsRwx⟩ } := by
  obtain ⟨f, walk, lends⟩ := bind_eq_some_iff.mp lends
  obtain ⟨_, free, lends⟩ := bind_eq_some_iff.mp lends
  obtain ⟨_, allows, lends⟩ := bind_eq_some_iff.mp lends
  cases lends
  exact ⟨f, walk, (Option.guard_eq_some' _).mp free, (Option.guard_eq_some' _).mp allows, rfl, rfl⟩

/-- No PAL other than `k` has a right to the frame. -/
def ClosedElsewhere (m : Mappings) (pals : Nat → Option HeldPal) (k f : Nat) : Prop :=
  ∀ k' held', k' ≠ k → pals k' = some held' → (m.tables held'.pal.pageLists).npt f = hptProtsNone

def SameElsewhere (pageLists : Nat) (m m' : Mappings) : Prop :=
  ∀ i, i ≠ pageLists → m'.tables i = m.tables i

theorem sameElsewhere_of_update {pageLists : Nat}
    (changed : m'.tables = update m.tables pageLists tables) :
    SameElsewhere pageLists m m' := by
  intro i other
  rw [changed, update_of_ne other]

theorem SameElsewhere.trans {pageLists : Nat} (first : SameElsewhere pageLists m m')
    (second : SameElsewhere pageLists m' m'') : SameElsewhere pageLists m m'' :=
  fun i other => (second i other).trans (first i other)

theorem ClosedElsewhere.transfer {pageLists : Nat} (closed : ClosedElsewhere m pals k f)
    (others : NotOfOthers pals k pageLists) (same : SameElsewhere pageLists m m') :
    ClosedElsewhere m' (update pals k new) k f := by
  intro k' held' other pal
  rw [update_of_ne other] at pal
  rw [same _ (others k' held' other pal)]
  exact closed k' held' other pal

/-- What lending a page of a section to PAL `k` needs beyond the checks of the source. -/
structure Lendable (m : Mappings) (pals : Nat → Option HeldPal) (k : Nat) (guest : TvGuest)
    (t : HptType) (sec : TvPalSectionInt) (f : Nat) : Prop where
  type : sec.sectionType ≠ .guestPageTables
  fits : entryPage t (entryPage guest.t f) = f
  alone : sec.sectionType = .code → ClosedElsewhere m pals k f

/-- The pals with what `k` holds and more. -/
def holding (pals : Nat → Option HeldPal) (k : Nat) (held : HeldPal)
    (loans : List (Nat × TvPalSectionType)) : Nat → Option HeldPal :=
  update pals k (some { held with loans := held.loans ++ loans })

theorem holding_self (loans : List (Nat × TvPalSectionType)) :
    holding pals k held loans k = some { held with loans := held.loans ++ loans } :=
  update_self ..

theorem holding_nil (pal : pals k = some held) : holding pals k held [] = pals := by
  rw [holding, append_nil, ← pal]
  exact update_eq_self ..

theorem holding_holding (loans more : List (Nat × TvPalSectionType)) :
    holding (holding pals k held loans) k { held with loans := held.loans ++ loans } more =
      holding pals k held (loans ++ more) := by
  simp only [holding, update_idem, append_assoc]

/-- The protections of a section are those of its type. -/
def TvPalSectionInt.Typed (sec : TvPalSectionInt) : Prop :=
  sec.palProt = palProtOfType sec.sectionType ∧ sec.regProt = regProtOfType sec.sectionType

theorem Lent.sound_lend {a : Nat} (lent : Lent lists m pals) (pal : pals k = some held)
    (allows : palProtOfType t &&& m.ept01 f = palProtOfType t) (fresh : a ∉ held.loans.map Prod.fst)
    (type : t ≠ .guestPageTables) (alone : t = .code → ClosedElsewhere m pals k f) :
    Sound scodePolicy lists.Pool (Function.update m.ept01 f (regProtOfType t))
      (Function.update (borrowers m pals) k
        (some ((held.borrower m).lend a t f (palProtOfType t)))) := by
  have opened : m.ept01 f ≠ hptProtsNone := ne_none_of_allows allows
  have inPool : lists.Pool f := fun i heap => opened (lent.hidden heap)
  have borrower := borrowers_eq_some (m := m) pal
  refine lent.sound.lend borrower inPool opened fresh ?_ (regProtOfType_reads type) ?_
  · rintro a' t' loan rfl
    have reads : ¬ palProtOfType t &&& hptProtWriteMask ≠ 0 := fun writes =>
      lent.sound.readOnly borrower loan (writes_of_allows allows writes)
    have shared : t' = .sharedCode :=
      not_ne_iff.mp (lent.sound.shared_of_open borrower loan opened)
    refine ⟨?_, reads⟩
    rw [shared]
    exact (palProtOfType_reads reads).symm
  · intro exclusive
    refine ⟨regProtOfType_closed type exclusive, fun {k' b'} other borrower' => ?_⟩
    by_cases code : t = .code
    · obtain ⟨held', pal', rfl⟩ := Option.map_eq_some_iff.mp borrower'
      exact alone code k' held' other pal'
    · have writes := writes_of_allows allows (palProtOfType_writes code exclusive)
      exact lent.sound.closed_of_writes inPool writes borrower'

theorem Lent.lendPage (lent : Lent lists m pals) (pal : pals k = some held) (typed : sec.Typed)
    (lendable : ∀ f, guest.walk sec.palProt (sec.regGva + pageOffset page) = some f →
      Lendable m pals k guest held.pal.t sec f)
    (lends : lendPage guest held.pal sec m page = some m') :
    Lent lists m' (holding pals k held
      [(gvaPage held.pal.t (sec.palGva + pageOffset page), sec.sectionType)]) := by
  obtain ⟨f, walk, free, allows, ept01, changed⟩ := lendPage_some lends
  obtain ⟨type, fits, alone⟩ := lendable f walk
  generalize gvaPage held.pal.t (sec.palGva + pageOffset page) = gva at free changed ⊢
  rw [typed.1] at allows
  rw [typed.2] at ept01
  rw [fits, typed.1] at changed
  have heapNe : ∀ {i f'}, f' ∈ lists.gpl i → f' ≠ f := by
    rintro i f' heap rfl
    exact ne_none_of_allows allows (lent.hidden heap)
  have fresh : gva ∉ held.loans.map Prod.fst := by
    intro mem
    obtain ⟨⟨_, t⟩, loan, rfl⟩ := mem_map.mp mem
    exact lent.present pal loan free
  have others := lent.notOfOthers pal
  refine lent.update { held with loans := held.loans ++ [(gva, sec.sectionType)] } others changed
    ?_ ?_ ?_ ?_
  · have sound := lent.sound_lend pal allows fresh type alone
    have frame : (fun page => (Function.update (m.tables held.pal.pageLists).gpt gva
        ⟨f, hptProtsRwx⟩ page).gpa) = Function.update (held.borrower m).frame gva f := by
      funext page
      by_cases same : page = gva
      · rw [same, update_self, update_self]
      · rw [update_of_ne same, update_of_ne same]
        rfl
    rw [ept01, frame]
    exact sound
  · intro i f' heap
    rw [ept01, update_of_ne (heapNe heap)]
    exact lent.hidden heap
  · intro i f' heap
    exact (update_of_ne (heapNe heap) _ _).trans (lent.own pal heap)
  · intro page' t loan
    dsimp only
    by_cases same : page' = gva
    · rw [same, update_self]
      exact (by decide : hptProtsRwx &&& hptProtsR ≠ 0)
    · rw [update_of_ne same]
      rcases List.mem_append.mp loan with old | new
      · exact lent.present pal old
      · cases List.mem_singleton.mp new
        exact absurd rfl same

def TvPalSectionInt.loans (sec : TvPalSectionInt) (t : HptType) :
    List (Nat × TvPalSectionType) :=
  (sec.palPages t).map (·, sec.sectionType)

/-- What lending a section needs: each of its pages can be lent. -/
def SectionLendable (m : Mappings) (pals : Nat → Option HeldPal) (k : Nat) (guest : TvGuest)
    (t : HptType) (sec : TvPalSectionInt) : Prop :=
  ∀ page < sec.size / 4096, ∀ f, guest.walk sec.palProt (sec.regGva + pageOffset page) = some f →
      Lendable m pals k guest t sec f

theorem SectionLendable.transfer {t : HptType} {pageLists : Nat}
    (lendable : SectionLendable m pals k guest t sec) (others : NotOfOthers pals k pageLists)
    (same : SameElsewhere pageLists m m') :
    SectionLendable m' (update pals k new) k guest t sec := by
  intro page inside f walk
  obtain ⟨type, fits, alone⟩ := lendable page inside f walk
  exact ⟨type, fits, fun code => (alone code).transfer others same⟩

theorem Lent.lendSection (lent : Lent lists m pals) (pal : pals k = some held) (typed : sec.Typed)
    (lendable : SectionLendable m pals k guest held.pal.t sec)
    (lends : scodeLendSection guest held.pal m sec = some m') :
    Lent lists m' (holding pals k held (sec.loans held.pal.t)) ∧
      SameElsewhere held.pal.pageLists m m' := by
  obtain ⟨_, -, lends⟩ := bind_eq_some_iff.mp lends
  have others := lent.notOfOthers pal
  let loan (page : Nat) := (gvaPage held.pal.t (sec.palGva + pageOffset page), sec.sectionType)
  have loans : sec.loans held.pal.t = (List.range (sec.size / 4096)).map loan :=
    List.map_map ..
  rw [loans]
  refine Pass.foldlM_progress (I := fun done m' => Lent lists m' (holding pals k held
    (done.map loan)) ∧ SameElsewhere held.pal.pageLists m m') ?_ ⟨?_, fun _ _ => rfl⟩ lends
  · intro done page rest m₁ m₂ split ⟨lent₁, same₁⟩ lends
    have inside : page < sec.size / 4096 := by
      rw [← List.mem_range, split]
      exact mem_append_right _ (mem_cons_self ..)
    obtain ⟨f, -, -, -, -, changed⟩ := lendPage_some lends
    have next := lent₁.lendPage (holding_self _) typed
      (lendable.transfer others same₁ page inside) lends
    refine ⟨?_, same₁.trans (sameElsewhere_of_update changed)⟩
    rw [List.map_append, ← holding_holding]
    exact next
  · rw [map_nil, holding_nil pal]
    exact lent

theorem Lent.lendSections (lent : Lent lists m pals) (pal : pals k = some held)
    (typed : ∀ sec ∈ sections, sec.Typed)
    (lendable : ∀ sec ∈ sections, SectionLendable m pals k guest held.pal.t sec)
    (lends : sections.foldlM (scodeLendSection guest held.pal) m = some m') :
    Lent lists m' (holding pals k held (sections.flatMap (·.loans held.pal.t))) ∧
      SameElsewhere held.pal.pageLists m m' := by
  have others := lent.notOfOthers pal
  refine Pass.foldlM_progress (I := fun done m' => Lent lists m' (holding pals k held
    (done.flatMap (·.loans held.pal.t))) ∧ SameElsewhere held.pal.pageLists m m') ?_
    ⟨?_, fun _ _ => rfl⟩ lends
  · intro done sec rest m₁ m₂ split ⟨lent₁, same₁⟩ lends
    have inside : sec ∈ sections := by
      rw [split]
      exact mem_append_right _ (mem_cons_self ..)
    obtain ⟨next, same₂⟩ := lent₁.lendSection (holding_self _) (typed sec inside)
      ((lendable sec inside).transfer others same₁) lends
    refine ⟨?_, same₁.trans same₂⟩
    rw [List.flatMap_append, List.flatMap_singleton, ← holding_holding]
    exact next
  · rw [List.flatMap_nil, holding_nil pal]
    exact lent

/-! ## Returning -/

theorem returnPage_some {pageLists : Nat} (returns : returnPage pageLists m page = some m') :
    m'.ept01 = update m.ept01 ((m.tables pageLists).gpt page).gpa hptProtsRwx ∧
      m'.tables = update m.tables pageLists {
        npt := update (m.tables pageLists).npt ((m.tables pageLists).gpt page).gpa
          hptProtsNone
        gpt := update (m.tables pageLists).gpt page
          ⟨((m.tables pageLists).gpt page).gpa, hptProtsNone⟩ } := by
  obtain ⟨_, -, returns⟩ := bind_eq_some_iff.mp returns
  cases returns
  exact ⟨rfl, rfl⟩

theorem update_gpa (gpt : Nat → PalGpme) (page : Nat) (prot : Prot) :
    (fun p => (update gpt page ⟨(gpt page).gpa, prot⟩ p).gpa) = fun p => (gpt p).gpa := by
  funext p
  by_cases same : p = page
  · rw [same, update_self]
  · rw [update_of_ne same]

theorem Lent.returnPage {rest : List (Nat × TvPalSectionType)}
    (lent : Lent lists m (Function.update pals k (some ⟨pal, front ++ (page, .shared) :: rest⟩)))
    (returns : returnPage pal.pageLists m page = some m') :
    Lent lists m' (Function.update pals k (some ⟨pal, front ++ rest⟩)) := by
  obtain ⟨ept01, changed⟩ := returnPage_some returns
  have held := update_self k (some (HeldPal.mk pal (front ++ (page, .shared) :: rest))) pals
  have borrower := borrowers_eq_some (m := m) held
  have loan : (page, TvPalSectionType.shared) ∈ front ++ (page, .shared) :: rest :=
    mem_append_right _ (mem_cons_self ..)
  have inPool := (lent.sound.lent borrower loan).1
  have heapNe : ∀ {i f}, f ∈ lists.gpl i → f ≠ ((m.tables pal.pageLists).gpt page).gpa := by
    rintro i f heap rfl
    exact inPool i heap
  have others := lent.notOfOthers held
  have once : (page :: (front ++ rest).map Prod.fst).Nodup :=
    (perm_middle.map Prod.fst).nodup_iff.mp (lent.sound.once borrower)
  have new := lent.update ⟨pal, front ++ rest⟩ others changed ?_ ?_ ?_ ?_
  · rwa [update_idem] at new
  · rw [ept01, update_gpa]
    exact lent.sound.giveBack borrower perm_middle nofun (palProtOfType_writes nofun nofun)
      hptProtsRwx
  · intro i f heap
    rw [ept01, update_of_ne (heapNe heap)]
    exact lent.hidden heap
  · intro i f heap
    exact (update_of_ne (heapNe heap) _ _).trans (lent.own held heap)
  · intro p t mem
    have ne : p ≠ page := by
      rintro rfl
      exact (List.nodup_cons.mp once).1 (List.mem_map_of_mem mem)
    dsimp only
    rw [update_of_ne ne]
    exact lent.present held (perm_middle.mem_iff.mpr (List.mem_cons_of_mem _ mem))

theorem Lent.returnSection (shared : sec.sectionType = .shared)
    (lent : Lent lists m (Function.update pals k (some ⟨pal, front ++ sec.loans pal.t⟩)))
    (returns : scodeReturnSection pal m sec = some m') :
    Lent lists m' (Function.update pals k (some ⟨pal, front⟩)) := by
  rw [TvPalSectionInt.loans, shared] at lent
  have all := Pass.foldlM_progress (I := fun done m' => ∀ rest, sec.palPages pal.t = done ++ rest →
    Lent lists m' (Function.update pals k (some ⟨pal, front ++ rest.map (·, .shared)⟩)))
    ?_ ?_ returns
  · have rest := all [] (append_nil _).symm
    rwa [map_nil, append_nil] at rest
  · intro done page _ m₁ m₂ _ lent₁ returns rest split
    rw [append_assoc, List.singleton_append] at split
    exact (lent₁ (page :: rest) split).returnPage returns
  · rintro rest rfl
    exact lent

theorem Lent.returnSections {kept released : List TvPalSectionInt}
    (shared : ∀ sec ∈ released, sec.sectionType = .shared)
    (lent : Lent lists m (Function.update pals k
      (some ⟨pal, (kept ++ released.reverse).flatMap (·.loans pal.t)⟩)))
    (returns : released.foldlM (scodeReturnSection pal) m = some m') :
    Lent lists m' (Function.update pals k (some ⟨pal, kept.flatMap (·.loans pal.t)⟩)) := by
  have all := Pass.foldlM_progress (I := fun done m' => ∀ rest, released = done ++ rest →
    Lent lists m' (Function.update pals k
      (some ⟨pal, (kept ++ rest.reverse).flatMap (·.loans pal.t)⟩))) ?_ ?_ returns
  · have rest := all [] (append_nil _).symm
    rwa [List.reverse_nil, append_nil] at rest
  · intro done sec _ m₁ m₂ _ lent₁ returns rest split
    rw [append_assoc, List.singleton_append] at split
    have isShared : sec.sectionType = .shared := by
      apply shared
      rw [split]
      exact mem_append_right _ (mem_cons_self ..)
    have before := lent₁ (sec :: rest) split
    rw [List.reverse_cons, ← append_assoc, List.flatMap_append, List.flatMap_singleton]
      at before
    exact before.returnSection isShared returns
  · rintro rest rfl
    exact lent

/-- A page whose frame nobody has a right to: it may be returned. -/
def FreePage (lists : PageLists) (m : Mappings) (pals : Nat → Option HeldPal)
    (pageLists page : Nat) : Prop :=
  lists.Pool ((m.tables pageLists).gpt page).gpa ∧ ∀ k held, pals k = some held →
    (m.tables held.pal.pageLists).npt ((m.tables pageLists).gpt page).gpa = hptProtsNone

/-- Page tables that no PAL has: returning from them opens frames and changes nothing else. -/
structure ReturnedFrom (lists : PageLists) (pals : Nat → Option HeldPal) (pageLists : Nat)
    (m m' : Mappings) : Prop where
  lent : Lent lists m' pals
  elsewhere : SameElsewhere pageLists m m'
  gpa : ∀ page, ((m'.tables pageLists).gpt page).gpa = ((m.tables pageLists).gpt page).gpa

variable {pageLists : Nat}

theorem ReturnedFrom.refl (lent : Lent lists m pals) : ReturnedFrom lists pals pageLists m m :=
  ⟨lent, fun _ _ => rfl, fun _ => rfl⟩

theorem ReturnedFrom.trans (first : ReturnedFrom lists pals pageLists m m')
    (second : ReturnedFrom lists pals pageLists m' m'') :
    ReturnedFrom lists pals pageLists m m'' where
  lent := second.lent
  elsewhere := first.elsewhere.trans second.elsewhere
  gpa page := (second.gpa page).trans (first.gpa page)

theorem FreePage.transfer (free : FreePage lists m pals pageLists page)
    (others : ∀ k held, pals k = some held → held.pal.pageLists ≠ pageLists)
    (returned : ReturnedFrom lists pals pageLists m m') :
    FreePage lists m' pals pageLists page := by
  rw [FreePage, returned.gpa]
  refine ⟨free.1, fun k held pal => ?_⟩
  rw [returned.elsewhere _ (others k held pal)]
  exact free.2 k held pal

section

variable (lent : Lent lists m pals)

include lent

theorem returnPage_free (others : ∀ k held, pals k = some held → held.pal.pageLists ≠ pageLists)
    (free : FreePage lists m pals pageLists page)
    (returns : returnPage pageLists m page = some m') : ReturnedFrom lists pals pageLists m m' := by
  obtain ⟨ept01, changed⟩ := returnPage_some returns
  have elsewhere : SameElsewhere pageLists m m' := sameElsewhere_of_update changed
  refine ⟨⟨?_, ?_, ?_, lent.distinct, ?_⟩, elsewhere, ?_⟩
  · rw [ept01, borrowers_of_tables (fun pal => others _ _ pal) changed]
    refine lent.sound.open_frame hptProtsRwx fun {k b} borrower => ?_
    obtain ⟨held, pal, rfl⟩ := Option.map_eq_some_iff.mp borrower
    exact free.2 k held pal
  · intro i f heap
    have ne : f ≠ ((m.tables pageLists).gpt page).gpa := by
      rintro rfl
      exact free.1 i heap
    rw [ept01, update_of_ne ne]
    exact lent.hidden heap
  · intro k held i f pal heap
    rw [elsewhere _ (others k held pal)]
    exact lent.own pal heap
  · intro k held p t pal loan
    rw [elsewhere _ (others k held pal)]
    exact lent.present pal loan
  · intro p
    rw [changed, update_self]
    exact congrFun (update_gpa _ page hptProtsNone) p

omit lent in
theorem unregisterSection_returns (returns : unregisterSection pal m sec = some m') :
    scodeReturnSection pal m sec = some m' := by
  unfold unregisterSection at returns
  split at returns
  · obtain ⟨_, -, returns⟩ := bind_eq_some_iff.mp returns
    exact returns
  · exact returns

theorem unregisterSections_free
    (others : ∀ k held, pals k = some held → held.pal.pageLists ≠ pal.pageLists)
    (free : ∀ sec ∈ sections, ∀ page ∈ sec.palPages pal.t, FreePage lists m pals pal.pageLists page)
    (returns : sections.foldlM (unregisterSection pal) m = some m') :
    ReturnedFrom lists pals pal.pageLists m m' := by
  refine Pass.foldlM_progress (I := fun _ => ReturnedFrom lists pals pal.pageLists m) ?_
    (.refl lent) returns
  intro done sec rest m₁ m₂ split returned₁ returns
  have inside : sec ∈ sections := by
    rw [split]
    exact mem_append_right _ (mem_cons_self ..)
  refine Pass.foldlM_progress (I := fun _ => ReturnedFrom lists pals pal.pageLists m) ?_
    returned₁ (unregisterSection_returns returns)
  intro done page rest m₃ m₄ split returned₂ returns
  have page_mem : page ∈ sec.palPages pal.t := by
    rw [split]
    exact mem_append_right _ (mem_cons_self ..)
  have stillFree := (free sec inside page page_mem).transfer others returned₂
  exact returned₂.trans (returnPage_free returned₂.lent others stillFree returns)

/-! ## A new PAL -/

theorem Lent.enter (k : Nat)
    (unused : ∀ k' held', pals k' = some held' → held'.pal.pageLists ≠ pal.pageLists) :
    Lent lists (m.setTables pal.pageLists (newTables lists pal.pageLists))
      (Function.update pals k (some ⟨pal, []⟩)) := by
  have others : NotOfOthers pals k pal.pageLists := fun k' held' _ => unused k' held'
  refine lent.update ⟨pal, []⟩ others rfl ?_ lent.hidden ?_ nofun
  · refine lent.sound.enter rfl fun f inPool => ?_
    exact if_neg (inPool pal.pageLists)
  · intro i f heap
    by_cases same : i = pal.pageLists
    · subst same
      exact (if_pos heap).trans (if_pos rfl).symm
    · have foreign : f ∉ lists.gpl pal.pageLists := fun own => same (lists.disjoint heap own)
      exact (if_neg foreign).trans (if_neg same).symm

theorem Lent.mapReturnAddress (pal : pals k = some held)
    (away : ∀ t, (returnPageOf held.pal.t, t) ∉ held.loans) :
    Lent lists (mapReturnAddress held.pal m) pals := by
  have others := lent.notOfOthers pal
  have ne : ∀ {page t}, (page, t) ∈ held.loans → page ≠ returnPageOf held.pal.t := by
    rintro page t loan rfl
    exact away t loan
  have same : Function.update pals k (some held) = pals := by
    rw [← pal, update_eq_self]
  rw [← same]
  refine lent.update held others rfl ?_ ?_ ?_ ?_
  · refine lent.sound.reframe (borrowers_eq_some pal) fun {page t} loan => ?_
    dsimp only
    rw [update_of_ne (ne loan)]
    rfl
  · exact lent.hidden
  · exact lent.own pal
  · intro page t loan
    dsimp only
    rw [update_of_ne (ne loan)]
    exact lent.present pal loan

theorem Lent.forget (k : Nat) : Lent lists m (Function.update pals k none) := by
  have kept : ∀ {k' held'}, Function.update pals k none k' = some held' →
      pals k' = some held' := by
    intro k' held' pal
    by_cases same : k' = k
    · rw [same, update_self] at pal
      cases pal
    · rwa [update_of_ne same] at pal
  refine ⟨?_, lent.hidden, fun pal => lent.own (kept pal), fun pal pal' =>
    lent.distinct (kept pal) (kept pal'), fun pal => lent.present (kept pal)⟩
  have forgotten : borrowers m (Function.update pals k none) =
      Function.update (borrowers m pals) k none := by
    funext k'
    by_cases same : k' = k
    · rw [same, update_self, borrowers, update_self, map_none]
    · rw [update_of_ne same, borrowers, update_of_ne same, borrowers]
  rw [forgotten]
  exact lent.sound.forget k

end

structure SectionsLendable (m : Mappings) (pals : Nat → Option HeldPal) (k : Nat) (guest : TvGuest)
    (t : HptType) (sections : List TvPalSectionInt) : Prop where
  typed : ∀ sec ∈ sections, sec.Typed
  lendable : ∀ sec ∈ sections, SectionLendable m pals k guest t sec
  away : ∀ sec ∈ sections, returnPageOf t ∉ sec.palPages t

theorem mapPal_lent (lent : Lent lists m pals)
    (unused : ∀ k' held', pals k' = some held' → held'.pal.pageLists ≠ pal.pageLists)
    (can : SectionsLendable m pals k guest pal.t sections)
    (maps : mapPal lists guest pal m sections = some m') :
    Lent lists m' (update pals k
      (some ⟨pal, sections.flatMap (·.loans pal.t)⟩)) := by
  obtain ⟨m₁, lends, mapped⟩ := bind_eq_some_iff.mp maps
  cases mapped
  have others : NotOfOthers pals k pal.pageLists := fun k' held' _ => unused k' held'
  have entered := lent.enter k unused
  have elsewhere : SameElsewhere pal.pageLists m
      (m.setTables pal.pageLists (newTables lists pal.pageLists)) := sameElsewhere_of_update rfl
  have held : update pals k (some ⟨pal, []⟩) k = some (HeldPal.mk pal []) :=
    update_self ..
  obtain ⟨all, -⟩ := entered.lendSections held can.typed
    (fun sec mem => (can.lendable sec mem).transfer others elsewhere) lends
  have new : holding (update pals k (some ⟨pal, []⟩)) k ⟨pal, []⟩
      (sections.flatMap (·.loans pal.t)) =
        update pals k (some ⟨pal, sections.flatMap (·.loans pal.t)⟩) := by
    rw [holding, update_idem, List.nil_append]
  rw [new] at all
  refine all.mapReturnAddress (update_self ..) fun t loan => ?_
  obtain ⟨sec, mem, loan⟩ := List.mem_flatMap.mp loan
  obtain ⟨page, page_mem, same⟩ := mem_map.mp loan
  cases same
  exact can.away sec mem page_mem

end Xmhf
