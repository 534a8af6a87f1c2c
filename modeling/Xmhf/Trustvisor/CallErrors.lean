import Xmhf.Trustvisor.Isolation

/-!
# Calls that cannot be carried out

Registration and sharing (`scode.c`) with what the guest sees of a failure: the answer, the rights
of EPT01 and of devices, the list of PALs and the heap. Sections are lent page by page, and each
page is taken from devices too. A registration that fails afterwards does not undo it; sharing
returns all shared pages when the table of sections is full.
-/

namespace Xmhf

open Function (update update_self update_apply)

/-- TrustVisor with the frames that devices can access, and the number of blocks of the heap that
nothing points to any more. -/
structure TvHost where
  tv : Tv
  dma : Nat → Bool
  leaked : Nat

/-- A page of a section, by its number. -/
abbrev PalPage := TvPalSectionInt × Nat

def pagesOf (sections : List TvPalSectionInt) : List PalPage :=
  sections.flatMap fun sec => (List.range (sec.size / 4096)).map (sec, ·)

/-- The frame to which the guest maps a page. -/
def pageFrame (guest : TvGuest) (p : PalPage) : Option Nat :=
  guest.walk p.1.palProt (p.1.regGva + pageOffset p.2)

/-- The place of a page in the guest page tables of the PAL. -/
def palPage (pal : PalCtx) (p : PalPage) : Nat := gvaPage pal.t (p.1.palGva + pageOffset p.2)

def lentFrames (guest : TvGuest) (pages : List PalPage) : List Nat :=
  pages.filterMap (pageFrame guest)

/-- The frame in the entry of the PAL for a page, which is what `scode_return_section` returns. -/
def heldFrame (pal : PalCtx) (m : Mappings) (p : PalPage) : Nat :=
  ((m.tables pal.pageLists).gpt (palPage pal p)).gpa

def TvHost.protect (h : TvHost) (frames : List Nat) : Nat → Bool :=
  fun f => h.dma f && f ∉ frames

def Tv.hasFree (s : Tv) : Bool := (List.range whitelistMax).any fun i => (s.whitelist i).gcr3 = 0

/-- `scode_register` with its answer; `npl` and `gpl` are what `malloc` returns. -/
def registerCall (lists : PageLists) (h : TvHost) (guest : TvGuest) (scodeInfo : List TvPalSection)
    (entryV entryP : U64) (npl : Bool) (gpl : Option Nat) (parsed measured : Bool) :
    Option (Bool × TvHost) :=
  if !(registerable h.tv scodeInfo parsed && npl) then some (false, h)
  else match gpl with
    | none => some (false, { h with leaked := h.leaked + 1 })
    | some pageLists =>
      (scodeRegister lists h.tv guest scodeInfo entryV entryP (some pageLists) parsed measured).map
        fun tv => (measured && h.tv.hasFree,
          { h with
            tv
            dma := h.protect (lentFrames guest (pagesOf (scodeInfo.filterMap TvPalSection.int))) })

/-- `scode_release_all_shared_pages` -/
def TvHost.release (h : TvHost) (i : Nat) : Option TvHost :=
  let entry := h.tv.whitelist i
  (scodeReleaseAllSharedPages h.tv i).map fun tv => { h with
    tv
    dma := fun f => h.dma f ||
      f ∈ (pagesOf (trailingShared entry.sections)).map (heldFrame entry.pal h.tv.maps) }

/-- PAL `i` gets sections, after which the tables are `maps`. -/
def TvHost.share (h : TvHost) (guest : TvGuest) (i : Nat) (sections : List TvPalSectionInt)
    (maps : Mappings) : TvHost :=
  let entry := h.tv.whitelist i
  { h with
    tv := { h.tv.setEntry i { entry with sections := entry.sections ++ sections } with maps }
    dma := h.protect (lentFrames guest (pagesOf sections)) }

/-- The loop of `scode_share_ranges`, with its answer and the rights of devices. -/
def shareRanges (guest : TvGuest) (i : Nat) : List (U32 × U32) → TvHost → Option (Bool × TvHost)
  | [], h => some (true, h)
  | range :: ranges, h =>
    let entry := h.tv.whitelist i
    if entry.sections.length < TV_MAX_SECTIONS then do
      let maps ← scodeLendSection guest entry.pal h.tv.maps (sharedSection range)
      shareRanges guest i ranges (h.share guest i [sharedSection range] maps)
    else (h.release i).map (false, ·)

def shareCall (h : TvHost) (guest : TvGuest) (scodeEntry : U32) (ranges : List (U32 × U32)) :
    Option (Bool × TvHost) :=
  match findScodeByEntry h.tv guest (scodeEntry.setWidth 64) with
  | none => some (false, h)
  | some i => shareRanges guest i ranges h

structure AsBefore (h h' : TvHost) : Prop where
  ept01 : h'.tv.maps.ept01 = h.tv.maps.ept01
  dma : h'.dma = h.dma
  pals : h'.tv.whitelist = h.tv.whitelist ∧ h'.tv.whitelistSize = h.tv.whitelistSize
  heap : h'.tv.allocated = h.tv.allocated ∧ h'.leaked = h.leaked

/-- The call returns, and if it was not carried out it has changed nothing. -/
def FailsCleanly (h : TvHost) (result : Option (Bool × TvHost)) : Prop :=
  ∃ done h', result = some (done, h') ∧ (done = false → AsBefore h h')

/-- Pages can be lent one after the other: each is mapped by the guest with the rights of its
section, which EPT01 grants too, and is not in the tables of the PAL yet. A frame can be lent again
with the rights that are left to the guest. -/
structure LendablePages (guest : TvGuest) (pal : PalCtx) (m : Mappings) (pages : List PalPage) :
    Prop where
  mapped : ∀ p ∈ pages, ∃ f, pageFrame guest p = some f ∧
    p.1.palProt &&& m.ept01 f = p.1.palProt
  free : ∀ p ∈ pages, ((m.tables pal.pageLists).gpt (palPage pal p)).prot &&& hptProtsR = 0
  apart : pages.Pairwise fun p q => palPage pal p ≠ palPage pal q ∧
    (pageFrame guest p = pageFrame guest q → q.1.palProt &&& p.1.regProt = q.1.palProt)

def CanLend (guest : TvGuest) (pal : PalCtx) (m : Mappings) (sections : List TvPalSectionInt) :
    Prop :=
  (∀ sec ∈ sections, sec.size % 4096 = 0) ∧ LendablePages guest pal m (pagesOf sections)

/-- What a registration needs of its sections: they have types and can be lent to a new PAL. -/
def Registrable (lists : PageLists) (m : Mappings) (guest : TvGuest) (pageLists : Nat)
    (scodeInfo : List TvPalSection) : Prop :=
  ∃ sections, scodeInfo.mapM TvPalSection.int = some sections ∧
    CanLend guest ⟨guest.t, pageLists⟩ (m.setTables pageLists (newTables lists pageLists)) sections

/-- The entries of the PAL can hold the frames, and the guest and devices have all rights to them:
nothing remains when the frames are lent and returned. -/
def ReturnsAsBefore (guest : TvGuest) (pal : PalCtx) (ept01 : Nat → Prot) (dma : Nat → Bool)
    (frames : List Nat) : Prop :=
  ∀ f ∈ frames, entryPage pal.t (entryPage guest.t f) = f ∧ ept01 f = hptProtsRwx ∧ dma f = true

/-- The sections of as many ranges as the table of an entry has room for. -/
def fittingSections (entry : WhitelistEntry) (ranges : List (U32 × U32)) : List TvPalSectionInt :=
  (ranges.take (TV_MAX_SECTIONS - entry.sections.length)).map sharedSection

/-- What sharing needs, on the state before: the sections that fit can be lent, and if not all fit,
nothing was shared before and the sections return as they were. -/
def Sharable (h : TvHost) (guest : TvGuest) (i : Nat) (ranges : List (U32 × U32)) : Prop :=
  let entry := h.tv.whitelist i
  let sections := fittingSections entry ranges
  CanLend guest entry.pal h.tv.maps sections ∧
    (TV_MAX_SECTIONS - entry.sections.length < ranges.length →
      trailingShared entry.sections = [] ∧
        ReturnsAsBefore guest entry.pal h.tv.maps.ept01 h.dma (lentFrames guest (pagesOf sections)))

variable {lists : PageLists} {h : TvHost} {guest : TvGuest} {pal : PalCtx} {m m' : Mappings}
  {pages : List PalPage} {sections : List TvPalSectionInt} {p : PalPage} {i : Nat}

/-! ## Lending -/

theorem lendPage_parts (lends : lendPage guest pal p.1 m p.2 = some m') :
    ∃ f, pageFrame guest p = some f ∧
      ((m.tables pal.pageLists).gpt (palPage pal p)).prot &&& hptProtsR = 0 ∧
      p.1.palProt &&& m.ept01 f = p.1.palProt ∧
      (∀ g, m'.ept01 g = if g = f then p.1.regProt else m.ept01 g) ∧
      (∀ g, (m'.tables pal.pageLists).npt g =
        if g = f then p.1.palProt else (m.tables pal.pageLists).npt g) ∧
      ∀ g, (m'.tables pal.pageLists).gpt g = if g = palPage pal p then
        ⟨entryPage pal.t (entryPage guest.t f), hptProtsRwx⟩ else (m.tables pal.pageLists).gpt g := by
  obtain ⟨f, walk, free, allows, ept01, tables⟩ := lendPage_some lends
  rw [ept01, tables, update_self]
  exact ⟨f, walk, free, allows, fun _ => update_apply .., fun _ => update_apply ..,
    fun _ => update_apply ..⟩

theorem lendPage_isSome {f : Nat} (walk : pageFrame guest p = some f)
    (free : ((m.tables pal.pageLists).gpt (palPage pal p)).prot &&& hptProtsR = 0)
    (allows : p.1.palProt &&& m.ept01 f = p.1.palProt) :
    ∃ m', lendPage guest pal p.1 m p.2 = some m' := by
  unfold pageFrame palPage at *
  simp [lendPage, walk, free, allows, guard]

theorem subset_trans {a b c : Prot} (ab : a &&& b = a) (bc : b &&& c = b) : a &&& c = a := by
  rw [← ab, BitVec.and_assoc, bc]

theorem lendablePages_cons (typed : p.1.Typed) : LendablePages guest pal m (p :: pages) ↔
    ∃ m', lendPage guest pal p.1 m p.2 = some m' ∧ LendablePages guest pal m' pages := by
  have left : p.1.regProt &&& p.1.palProt = p.1.regProt := by
    rw [typed.1, typed.2]
    cases p.1.sectionType <;> rfl
  constructor
  · intro lendable
    obtain ⟨⟨f, walk, allows⟩, mapped⟩ := List.forall_mem_cons.mp lendable.mapped
    obtain ⟨here, free⟩ := List.forall_mem_cons.mp lendable.free
    obtain ⟨first, rest⟩ := List.pairwise_cons.mp lendable.apart
    obtain ⟨m', lends⟩ := lendPage_isSome walk here allows
    obtain ⟨f', walk', -, -, ept01, -, gpt⟩ := lendPage_parts lends
    obtain rfl : f = f' := Option.some.inj (walk.symm.trans walk')
    refine ⟨m', lends, fun q member => ?_, fun q member => ?_, rest⟩
    · obtain ⟨g, walkQ, allowsQ⟩ := mapped q member
      refine ⟨g, walkQ, ?_⟩
      rw [ept01]
      split
      · next same => exact (first q member).2 (walk.trans (same ▸ walkQ.symm))
      · exact allowsQ
    · rw [gpt, if_neg (first q member).1.symm]
      exact free q member
  · rintro ⟨m', lends, lendable⟩
    obtain ⟨f, walk, free, allows, ept01, -, gpt⟩ := lendPage_parts lends
    have other : ∀ q ∈ pages, palPage pal q ≠ palPage pal p := by
      intro q member same
      have present := lendable.free q member
      rw [gpt, if_pos same] at present
      exact absurd (show hptProtsRwx &&& hptProtsR = 0 from present) (by decide)
    have again : ∀ q ∈ pages, pageFrame guest q = some f →
        q.1.palProt &&& p.1.regProt = q.1.palProt := by
      intro q member frame
      obtain ⟨g, walkQ, allowsQ⟩ := lendable.mapped q member
      rwa [ept01, if_pos (Option.some.inj (walkQ.symm.trans frame))] at allowsQ
    refine ⟨List.forall_mem_cons.mpr ⟨⟨f, walk, allows⟩, fun q member => ?_⟩,
      List.forall_mem_cons.mpr ⟨free, fun q member => ?_⟩, List.pairwise_cons.mpr ⟨fun q member =>
      ⟨(other q member).symm, fun same => again q member (same.symm.trans walk)⟩, lendable.apart⟩⟩
    · obtain ⟨g, walkQ, allowsQ⟩ := lendable.mapped q member
      refine ⟨g, walkQ, ?_⟩
      rw [ept01] at allowsQ
      split at allowsQ
      · next same =>
        rw [same] at walkQ ⊢
        exact subset_trans (again q member walkQ) (subset_trans left allows)
      · exact allowsQ
    · have freeQ := lendable.free q member
      rwa [gpt, if_neg (other q member)] at freeQ

def lendPages (guest : TvGuest) (pal : PalCtx) (m : Mappings) (pages : List PalPage) :
    Option Mappings :=
  pages.foldlM (fun m p => lendPage guest pal p.1 m p.2) m

theorem lendSections_iff : sections.foldlM (scodeLendSection guest pal) m = some m' ↔
    (∀ sec ∈ sections, sec.size % 4096 = 0) ∧ lendPages guest pal m (pagesOf sections) = some m' := by
  induction sections generalizing m with
  | nil => simp [lendPages, pagesOf]
  | cons sec sections ih =>
    rw [List.foldlM_cons, lendPages, pagesOf, List.flatMap_cons, List.foldlM_append,
      List.foldlM_map]
    by_cases whole : sec.size % 4096 = 0
    · simp only [scodeLendSection, whole, guard, if_true, List.forall_mem_cons, true_and]
      cases (List.range (sec.size / 4096)).foldlM (lendPage guest pal sec) m with
      | none => simp
      | some m₁ => simpa [lendPages, pagesOf] using ih
    · simp [scodeLendSection, whole, guard]

theorem lendPages_isSome (typed : ∀ p ∈ pages, p.1.Typed) :
    (lendPages guest pal m pages).isSome = true ↔ LendablePages guest pal m pages := by
  induction pages generalizing m with
  | nil => exact iff_of_true rfl ⟨by simp, by simp, .nil⟩
  | cons p pages ih =>
    obtain ⟨here, rest⟩ := List.forall_mem_cons.mp typed
    rw [lendablePages_cons here, lendPages, List.foldlM_cons]
    cases lendPage guest pal p.1 m p.2 with
    | none => simp
    | some m' =>
      simp only [Option.bind_eq_bind, Option.bind_some, Option.some.injEq, exists_eq_left']
      exact ih rest

theorem canLend_iff (typed : ∀ sec ∈ sections, sec.Typed) :
    (sections.foldlM (scodeLendSection guest pal) m).isSome = true ↔
      CanLend guest pal m sections := by
  have pages : ∀ p ∈ pagesOf sections, p.1.Typed := by
    intro p member
    obtain ⟨sec, inside, page⟩ := List.mem_flatMap.mp member
    obtain ⟨k, -, rfl⟩ := List.mem_map.mp page
    exact typed sec inside
  rw [CanLend, ← lendPages_isSome pages, Option.isSome_iff_exists, Option.isSome_iff_exists]
  simp only [lendSections_iff, exists_and_left]

theorem mapPal_isSome (typed : ∀ sec ∈ sections, sec.Typed) :
    (mapPal lists guest pal m sections).isSome = true ↔
      CanLend guest pal (m.setTables pal.pageLists (newTables lists pal.pageLists)) sections := by
  rw [← canLend_iff typed, mapPal]
  cases sections.foldlM (scodeLendSection guest pal)
    (m.setTables pal.pageLists (newTables lists pal.pageLists)) <;> rfl

/-! ## Sharing -/

/-- The loop with answers makes the same step as the machine's. -/
theorem shareRanges_tv (guest : TvGuest) (i : Nat) (ranges : List (U32 × U32)) (h : TvHost) :
    (shareRanges guest i ranges h).map (·.2.tv) = scodeShareRanges guest i ranges h.tv := by
  induction ranges generalizing h with
  | nil => rfl
  | cons range ranges ih =>
    rw [shareRanges, scodeShareRanges]
    dsimp only
    split
    · cases scodeLendSection guest (h.tv.whitelist i).pal h.tv.maps (sharedSection range) with
      | none => rfl
      | some maps => exact ih _
    · rw [TvHost.release, Option.map_map, Option.map_map]
      exact Option.map_id'

theorem TvHost.share_nil (h : TvHost) (guest : TvGuest) (i : Nat) :
    h.share guest i [] h.tv.maps = h := by
  have dma : h.protect [] = h.dma := by
    funext f
    simp [TvHost.protect]
  simp [TvHost.share, Tv.setEntry, dma, lentFrames, pagesOf]

theorem TvHost.share_share (h : TvHost) (sec : TvPalSectionInt) (maps maps' : Mappings) :
    (h.share guest i [sec] maps).share guest i sections maps' =
      h.share guest i (sec :: sections) maps' := by
  have dma : (h.share guest i [sec] maps).protect (lentFrames guest (pagesOf sections)) =
      h.protect (lentFrames guest (pagesOf (sec :: sections))) := by
    funext f
    have split : pagesOf (sec :: sections) = pagesOf [sec] ++ pagesOf sections := by simp [pagesOf]
    rw [split, lentFrames, lentFrames, List.filterMap_append]
    simp only [TvHost.share, TvHost.protect, lentFrames, List.mem_append, not_or, Bool.decide_and,
      Bool.and_assoc]
  unfold TvHost.share at dma ⊢
  rw [dma]
  simp [Tv.setEntry]

theorem shareRanges_eq (guest : TvGuest) (i : Nat) (ranges : List (U32 × U32)) (h : TvHost) :
    shareRanges guest i ranges h =
      let entry := h.tv.whitelist i
      let sections := fittingSections entry ranges
      (sections.foldlM (scodeLendSection guest entry.pal) h.tv.maps).bind fun maps =>
        if ranges.length ≤ TV_MAX_SECTIONS - entry.sections.length then
          some (true, h.share guest i sections maps)
        else ((h.share guest i sections maps).release i).map (false, ·) := by
  induction ranges generalizing h with
  | nil => simp [shareRanges, fittingSections, TvHost.share_nil]
  | cons range ranges ih =>
    rw [shareRanges]
    dsimp only
    split
    · next room =>
      obtain ⟨left, count⟩ : ∃ left, TV_MAX_SECTIONS - (h.tv.whitelist i).sections.length = left + 1 :=
        ⟨_, (Nat.sub_one_add_one (by omega)).symm⟩
      have after (maps) : TV_MAX_SECTIONS - ((h.share guest i [sharedSection range] maps).tv.whitelist
          i).sections.length = left := by
        simp [TvHost.share, Tv.setEntry]
        omega
      have fitting (maps) : fittingSections (h.tv.whitelist i) (range :: ranges) = sharedSection range ::
          fittingSections ((h.share guest i [sharedSection range] maps).tv.whitelist i) ranges := by
        unfold fittingSections
        rw [count, after]
        rfl
      cases lent : scodeLendSection guest (h.tv.whitelist i).pal h.tv.maps (sharedSection range) with
      | none => simp [fitting h.tv.maps, lent]
      | some maps =>
        rw [fitting maps, List.foldlM_cons, lent, count]
        refine (ih _).trans ?_
        simp only [after, TvHost.share_share, List.length_cons, Nat.add_le_add_iff_right,
          Option.bind_eq_bind, Option.bind_some]
        simp [TvHost.share, Tv.setEntry]
    · next full =>
      have none : TV_MAX_SECTIONS - (h.tv.whitelist i).sections.length = 0 := by omega
      simp [fittingSections, none, TvHost.share_nil]

/-! ## Releasing -/

/-- The state after shared pages were lent. -/
structure PagesLent (guest : TvGuest) (pal : PalCtx) (m m' : Mappings) (pages : List PalPage) :
    Prop where
  ept01 : ∀ f, m'.ept01 f = if f ∈ lentFrames guest pages then hptProtsNone else m.ept01 f
  npt : ∀ f, (m'.tables pal.pageLists).npt f =
    if f ∈ lentFrames guest pages then hptProtsRw else (m.tables pal.pageLists).npt f
  gpt : ∀ g ∉ pages.map (palPage pal),
    (m'.tables pal.pageLists).gpt g = (m.tables pal.pageLists).gpt g
  held : ∀ p ∈ pages, ∀ f, pageFrame guest p = some f →
    heldFrame pal m' p = entryPage pal.t (entryPage guest.t f)

theorem pagesLent (shared : ∀ p ∈ pages, p.1.regProt = hptProtsNone ∧ p.1.palProt = hptProtsRw)
    (apart : (pages.map (palPage pal)).Nodup) (lent : lendPages guest pal m pages = some m') :
    PagesLent guest pal m m' pages := by
  induction pages generalizing m with
  | nil =>
    cases lent
    exact ⟨fun _ => rfl, fun _ => rfl, fun _ _ => rfl, fun p member => nomatch member⟩
  | cons p pages ih =>
    rw [lendPages, List.foldlM_cons] at lent
    obtain ⟨m₁, lends, lent⟩ := Option.bind_eq_some_iff.mp lent
    obtain ⟨⟨reg, prot⟩, others⟩ := List.forall_mem_cons.mp shared
    obtain ⟨new, rest⟩ := List.nodup_cons.mp apart
    have tail := ih others rest lent
    obtain ⟨f₀, walk, -, -, ept01, npt, gpt⟩ := lendPage_parts lends
    have frames : lentFrames guest (p :: pages) = f₀ :: lentFrames guest pages :=
      List.filterMap_cons_some walk
    refine ⟨fun f => ?_, fun f => ?_, fun g outside => ?_, List.forall_mem_cons.mpr ⟨?_, tail.held⟩⟩
    · rw [tail.ept01, ept01, reg, frames]
      grind
    · rw [tail.npt, npt, prot, frames]
      grind
    · rw [List.map_cons, List.mem_cons, not_or] at outside
      rw [tail.gpt g outside.2, gpt, if_neg outside.1]
    · intro f frame
      rw [heldFrame, tail.gpt _ new, gpt, if_pos rfl, ← Option.some.inj (walk.symm.trans frame)]

def returnPages (pal : PalCtx) (m : Mappings) (pages : List PalPage) : Option Mappings :=
  pages.foldlM (fun m p => returnPage pal.pageLists m (palPage pal p)) m

theorem heldFrame_returned (returns : returnPage pal.pageLists m (palPage pal p) = some m') :
    heldFrame pal m' = heldFrame pal m := by
  funext q
  have same := congrFun (update_gpa (m.tables pal.pageLists).gpt (palPage pal p) hptProtsNone)
    (palPage pal q)
  rwa [heldFrame, (returnPage_some returns).2, update_self]

theorem returnPages_ept01 (returned : returnPages pal m pages = some m') (f : Nat) : m'.ept01 f =
    if f ∈ pages.map (heldFrame pal m) then hptProtsRwx else m.ept01 f := by
  induction pages generalizing m with
  | nil =>
    cases returned
    rfl
  | cons p pages ih =>
    rw [returnPages, List.foldlM_cons] at returned
    obtain ⟨m₁, returns, rest⟩ := Option.bind_eq_some_iff.mp returned
    rw [ih rest, heldFrame_returned returns, (returnPage_some returns).1, update_apply]
    change _ = if f ∈ ((m.tables pal.pageLists).gpt (palPage pal p)).gpa :: _ then _ else _
    grind

theorem returnPages_isSome (apart : (pages.map (heldFrame pal m)).Nodup)
    (readable : ∀ p ∈ pages, (m.tables pal.pageLists).npt (heldFrame pal m p) &&& hptProtsR ≠ 0) :
    ∃ m', returnPages pal m pages = some m' := by
  induction pages generalizing m with
  | nil => exact ⟨m, rfl⟩
  | cons p pages ih =>
    obtain ⟨here, others⟩ := List.forall_mem_cons.mp readable
    obtain ⟨new, rest⟩ := List.nodup_cons.mp apart
    obtain ⟨m₁, returns⟩ : ∃ m₁, returnPage pal.pageLists m (palPage pal p) = some m₁ := by
      unfold heldFrame at here
      simp only [returnPage, guard]
      rw [if_pos here]
      exact ⟨_, rfl⟩
    rw [returnPages, List.foldlM_cons, returns]
    have held := heldFrame_returned returns
    refine ih (held ▸ rest) fun q member => ?_
    have other : heldFrame pal m q ≠ ((m.tables pal.pageLists).gpt (palPage pal p)).gpa :=
      fun same => new (List.mem_map.mpr ⟨q, member, same⟩)
    rw [held, (returnPage_some returns).2, update_self]
    dsimp only
    rw [Function.update_of_ne other]
    exact others q member

theorem returnSections_eq (sections : List TvPalSectionInt) (m : Mappings) :
    sections.foldlM (scodeReturnSection pal) m = returnPages pal m (pagesOf sections) := by
  induction sections generalizing m with
  | nil => rfl
  | cons sec sections ih =>
    rw [List.foldlM_cons, returnPages, pagesOf, List.flatMap_cons, List.foldlM_append,
      List.foldlM_map, scodeReturnSection, TvPalSectionInt.palPages, List.foldlM_map]
    exact congrArg _ (funext ih)

theorem entryPage_idem (t t' : HptType) (f : Nat) :
    entryPage t (entryPage t' (entryPage t (entryPage t' f))) = entryPage t (entryPage t' f) := by
  cases t <;> cases t' <;> simp [entryPage]

section

variable {before after : List PalPage}
  (shared : ∀ p ∈ before, p.1.regProt = hptProtsNone ∧ p.1.palProt = hptProtsRw)
  (lend : LendablePages guest pal m before) (lent : PagesLent guest pal m m' before)
  (perm : after.Perm before)

include shared lend lent perm

/-- Pages that were lent are returned, in any order: all is as before exactly if their frames fit
the entries of the PAL and were open to the guest and to devices. -/
theorem returned_asBefore_iff (dma : Nat → Bool) :
    (∃ m'', returnPages pal m' after = some m'' ∧ m''.ept01 = m.ept01 ∧
      (fun f => (dma f && f ∉ lentFrames guest before) || f ∈ after.map (heldFrame pal m')) = dma) ↔
      ReturnsAsBefore guest pal m.ept01 dma (lentFrames guest before) := by
  have back (f : Nat) : f ∈ after.map (heldFrame pal m') ↔
      ∃ f₀ ∈ lentFrames guest before, f = entryPage pal.t (entryPage guest.t f₀) := by
    simp only [List.mem_map, perm.mem_iff, lentFrames, List.mem_filterMap]
    constructor
    · rintro ⟨p, member, rfl⟩
      obtain ⟨f₀, walk, -⟩ := lend.mapped p member
      exact ⟨f₀, ⟨p, member, walk⟩, lent.held p member f₀ walk⟩
    · rintro ⟨f₀, ⟨p, member, walk⟩, rfl⟩
      exact ⟨p, member, lent.held p member f₀ walk⟩
  constructor
  · rintro ⟨m'', returned, ept01, devices⟩ f member
    have rights := (returnPages_ept01 returned f).symm.trans (congrFun ept01 f)
    have device := congrFun devices f
    by_cases held : f ∈ after.map (heldFrame pal m')
    · rw [if_pos held] at rights
      rw [decide_eq_true held, Bool.or_true] at device
      obtain ⟨f₀, -, rfl⟩ := (back f).mp held
      exact ⟨entryPage_idem .., rights.symm, device.symm⟩
    · -- the frame stays taken, although the guest had rights to it
      rw [if_neg held, lent.ept01, if_pos member] at rights
      obtain ⟨p, inside, walk⟩ := List.mem_filterMap.mp member
      obtain ⟨f', walk', allows⟩ := lend.mapped p inside
      obtain rfl : f = f' := Option.some.inj (walk.symm.trans walk')
      rw [(shared p inside).2, ← rights] at allows
      exact absurd allows (by decide)
  · intro clean
    have same (f : Nat) : f ∈ after.map (heldFrame pal m') ↔ f ∈ lentFrames guest before := by
      rw [back]
      constructor
      · rintro ⟨f₀, member, rfl⟩
        rwa [(clean f₀ member).1]
      · intro member
        exact ⟨f, member, (clean f member).1.symm⟩
    have held : ∀ p ∈ before, pageFrame guest p = some (heldFrame pal m' p) := by
      intro p member
      obtain ⟨f, walk, -⟩ := lend.mapped p member
      rw [lent.held p member f walk, (clean f (List.mem_filterMap.mpr ⟨p, member, walk⟩)).1, walk]
    have apart : (after.map (heldFrame pal m')).Nodup := by
      rw [(perm.map _).nodup_iff]
      refine List.pairwise_map.mpr (lend.apart.imp_of_mem fun {p q} memberP memberQ rest equal => ?_)
      have again := rest.2 ((held p memberP).trans ((congrArg some equal).trans (held q memberQ).symm))
      rw [(shared p memberP).1, (shared q memberQ).2] at again
      exact absurd again (by decide)
    obtain ⟨m'', returned⟩ := returnPages_isSome apart fun p member => by
      rw [lent.npt, if_pos ((same _).mp (List.mem_map.mpr ⟨p, member, rfl⟩))]
      decide
    refine ⟨m'', returned, funext fun f => ?_, funext fun f => ?_⟩
    · rw [returnPages_ept01 returned]
      by_cases member : f ∈ lentFrames guest before
      · rw [if_pos ((same f).mpr member), (clean f member).2.1]
      · rw [if_neg (mt (same f).mp member), lent.ept01, if_neg member]
    · by_cases member : f ∈ lentFrames guest before
      · rw [decide_eq_true ((same f).mpr member), Bool.or_true, (clean f member).2.2]
      · rw [decide_eq_false (mt (same f).mp member), Bool.or_false, decide_eq_true member,
          Bool.and_true]

end

theorem trailingShared_eq_nil (sections : List TvPalSectionInt) : trailingShared sections = [] ↔
    (sections.reverse.dropWhile (·.sectionType = .shared)).reverse = sections := by
  have parts := List.takeWhile_append_dropWhile
    (p := fun sec : TvPalSectionInt => decide (sec.sectionType = .shared)) (l := sections.reverse)
  rw [trailingShared, List.reverse_eq_iff]
  constructor
  · intro none
    rwa [none, List.nil_append] at parts
  · intro same
    rw [same] at parts
    exact List.append_left_eq_self.mp parts

theorem trailingShared_append (shared : ∀ sec ∈ sections, sec.sectionType = .shared)
    (before : List TvPalSectionInt) :
    trailingShared (before ++ sections) = sections.reverse ++ trailingShared before ∧
      (before ++ sections).reverse.dropWhile (fun sec => sec.sectionType = .shared) =
        before.reverse.dropWhile fun sec => sec.sectionType = .shared := by
  have all : ∀ sec ∈ sections.reverse, decide (sec.sectionType = .shared) = true :=
    fun sec member => decide_eq_true (shared sec (List.mem_reverse.mp member))
  rw [trailingShared, List.reverse_append]
  exact ⟨List.takeWhile_append_of_pos all, List.dropWhile_append_of_pos all⟩

/-- Lending as many sections as fit and releasing all changes nothing exactly if nothing else was
shared and the pages come back with the rights that they had. -/
theorem release_asBefore_iff {maps : Mappings}
    (shared : ∀ sec ∈ sections, sec.sectionType = .shared ∧ sec.Typed)
    (lend : CanLend guest (h.tv.whitelist i).pal h.tv.maps sections)
    (lent : sections.foldlM (scodeLendSection guest (h.tv.whitelist i).pal) h.tv.maps = some maps) :
    (∃ h', (h.share guest i sections maps).release i = some h' ∧ AsBefore h h') ↔
      trailingShared (h.tv.whitelist i).sections = [] ∧ ReturnsAsBefore guest (h.tv.whitelist i).pal
        h.tv.maps.ept01 h.dma (lentFrames guest (pagesOf sections)) := by
  obtain ⟨trailing, dropped⟩ :=
    trailingShared_append (fun sec member => (shared sec member).1) (h.tv.whitelist i).sections
  have prots : ∀ p ∈ pagesOf sections, p.1.regProt = hptProtsNone ∧ p.1.palProt = hptProtsRw := by
    intro p member
    obtain ⟨sec, inside, page⟩ := List.mem_flatMap.mp member
    obtain ⟨k, -, rfl⟩ := List.mem_map.mp page
    obtain ⟨type, pal, reg⟩ := shared sec inside
    rw [pal, reg, type]
    exact ⟨rfl, rfl⟩
  have state := pagesLent prots (List.pairwise_map.mpr (lend.2.apart.imp And.left))
    (lendSections_iff.mp lent).2
  have entry : (h.share guest i sections maps).tv.whitelist i = { h.tv.whitelist i with
      sections := (h.tv.whitelist i).sections ++ sections } := update_self ..
  rw [TvHost.release, scodeReleaseAllSharedPages, entry]
  dsimp only
  rw [trailing, dropped, returnSections_eq, trailingShared_eq_nil]
  by_cases none : trailingShared (h.tv.whitelist i).sections = []
  · have kept := (trailingShared_eq_nil _).mp none
    have perm : (pagesOf sections.reverse).Perm (pagesOf sections) :=
      (List.reverse_perm sections).flatMap_right _
    rw [← returned_asBefore_iff prots lend.2 state perm, and_iff_right kept, none, List.append_nil,
      kept]
    constructor
    · rintro ⟨h', released, before⟩
      obtain ⟨tv, inner, rfl⟩ := Option.map_eq_some_iff.mp released
      obtain ⟨m'', returned, result⟩ := Option.bind_eq_some_iff.mp inner
      cases result
      exact ⟨m'', returned, before.ept01, before.dma⟩
    · rintro ⟨m'', returned, ept01, dma⟩
      rw [show returnPages _ (h.share guest i sections maps).tv.maps _ = _ from returned]
      refine ⟨_, rfl, ept01, dma, ⟨?_, rfl⟩, rfl, rfl⟩
      simp [TvHost.share, Tv.setEntry]
  · refine iff_of_false ?_ fun both => none ((trailingShared_eq_nil _).mpr both.1)
    rintro ⟨h', released, before⟩
    obtain ⟨tv, inner, rfl⟩ := Option.map_eq_some_iff.mp released
    obtain ⟨m'', returned, result⟩ := Option.bind_eq_some_iff.mp inner
    cases result
    have same := congrArg WhitelistEntry.sections (congrFun before.pals.1 i)
    simp only [Tv.setEntry, update_self] at same
    exact none ((trailingShared_eq_nil _).mpr same)

/-! ## Failures -/

theorem not_asBefore {h' : TvHost} {pageLists : Nat} (fresh : h.tv.allocated pageLists = false)
    (kept : h'.tv.allocated pageLists = true) : ¬ AsBefore h h' := fun before => by
  rw [before.heap.1, fresh] at kept
  cases kept

theorem register_fails_cleanly_iff {scodeInfo : List TvPalSection} (entryV entryP : U64) {npl : Bool}
    {gpl : Option Nat} {parsed measured : Bool}
    (fresh : ∀ pageLists ∈ gpl, h.tv.allocated pageLists = false) :
    FailsCleanly h (registerCall lists h guest scodeInfo entryV entryP npl gpl parsed measured) ↔
      (registerable h.tv scodeInfo parsed && npl) = false ∨ ∃ pageLists, gpl = some pageLists ∧
        Registrable lists h.tv.maps guest pageLists scodeInfo ∧ measured = true ∧
        h.tv.hasFree = true := by
  unfold registerCall
  cases early : registerable h.tv scodeInfo parsed && npl with
  | false => exact iff_of_true ⟨false, h, rfl, fun _ => ⟨rfl, rfl, ⟨rfl, rfl⟩, rfl, rfl⟩⟩ (.inl rfl)
  | true =>
    cases gpl with
    | none =>
      refine iff_of_false ?_ (by simp)
      rintro ⟨done, h', eq, clean⟩
      cases eq
      exact absurd (clean rfl).heap.2 (Nat.succ_ne_self _)
    | some pageLists =>
      have valid := (Bool.and_eq_true_iff.mp early).1
      have fresh := fresh pageLists rfl
      unfold scodeRegister Registrable
      simp only [valid, fresh, Bool.not_true, Bool.not_false, Bool.false_eq_true, if_false,
        Option.some.injEq, exists_eq_left', false_or, reduceCtorEq]
      cases typed : scodeInfo.mapM TvPalSection.int with
      | none =>
        refine iff_of_false ?_ (by simp)
        rintro ⟨done, h', eq, -⟩
        cases eq
      | some sections =>
        have lendable := @mapPal_isSome lists guest ⟨guest.t, pageLists⟩ h.tv.maps sections
          fun sec member => by
            obtain ⟨desc, -, int⟩ := mem_of_mapM typed member
            exact int_typed int
        simp only [Option.some.injEq, exists_eq_left', ← lendable]
        cases lent : mapPal lists guest ⟨guest.t, pageLists⟩ h.tv.maps sections with
        | none =>
          refine iff_of_false ?_ (by simp)
          rintro ⟨done, h', eq, -⟩
          simp [lent] at eq
        | some maps =>
          simp only [Option.isSome_some, true_and]
          cases measured with
          | false =>
            refine iff_of_false ?_ (by simp)
            rintro ⟨done, h', eq, clean⟩
            simp [lent, guard] at eq
            obtain ⟨failed, rfl⟩ := eq
            exact not_asBefore fresh (update_self ..) (clean failed)
          | true =>
            have free_iff : h.tv.hasFree = ((List.range whitelistMax).find? fun i =>
                (h.tv.whitelist i).gcr3 = 0#64).isSome := by
              rw [Tv.hasFree, List.isSome_find?]
              rfl
            cases free : (List.range whitelistMax).find? fun i =>
              (h.tv.whitelist i).gcr3 = 0#64 with
            | none =>
              rw [free] at free_iff
              refine iff_of_false ?_ (by simp [free_iff])
              rintro ⟨done, h', eq, clean⟩
              simp [lent, guard, free, free_iff] at eq
              obtain ⟨failed, rfl⟩ := eq
              exact not_asBefore fresh (update_self ..) (clean failed)
            | some i =>
              rw [free] at free_iff
              refine iff_of_true ?_ ⟨rfl, free_iff⟩
              simp [lent, guard, free, free_iff, FailsCleanly]

theorem share_fails_cleanly_iff (i : Nat) (ranges : List (U32 × U32)) :
    FailsCleanly h (shareRanges guest i ranges h) ↔ Sharable h guest i ranges := by
  have shared : ∀ sec ∈ fittingSections (h.tv.whitelist i) ranges,
      sec.sectionType = .shared ∧ sec.Typed := by
    intro sec member
    obtain ⟨range, -, rfl⟩ := List.mem_map.mp member
    exact ⟨rfl, sharedSection_typed range⟩
  have lendable := @canLend_iff guest (h.tv.whitelist i).pal h.tv.maps _
    fun sec member => (shared sec member).2
  rw [shareRanges_eq]
  unfold Sharable
  dsimp only
  cases lent : (fittingSections (h.tv.whitelist i) ranges).foldlM
    (scodeLendSection guest (h.tv.whitelist i).pal) h.tv.maps with
  | none =>
    rw [lent] at lendable
    refine iff_of_false ?_ fun can => absurd (lendable.mpr can.1) Bool.false_ne_true
    rintro ⟨done, h', eq, -⟩
    cases eq
  | some maps =>
    rw [lent] at lendable
    have lend := lendable.mp rfl
    simp only [Option.bind_some, lend, true_and]
    split
    · next fit =>
      exact iff_of_true ⟨true, _, rfl, nofun⟩ fun more => absurd fit (Nat.not_le.mpr more)
    · next more =>
      rw [← release_asBefore_iff shared lend lent, imp_iff_right (Nat.not_le.mp more)]
      constructor
      · rintro ⟨done, h', eq, clean⟩
        obtain ⟨released, found, pair⟩ := Option.map_eq_some_iff.mp eq
        cases pair
        exact ⟨_, found, clean rfl⟩
      · rintro ⟨h', released, before⟩
        exact ⟨false, h', by rw [released]; rfl, fun _ => before⟩

end Xmhf
