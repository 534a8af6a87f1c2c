import Xmhf.Dmaprot.IommuPt

/-!
# Handles of IOMMU page tables

The table of `iommu-pt.c` from handles to `IOMMU_PT_INFO`, and the blocks of the heap that each
table holds (`xmhf-mm.c`, `xmhfc-dlist.c`): the list `used_mem`, and for each page structure the
page, its record and a node of the list. Every request comes with what the allocator answers.
`none` is an access to memory that is not allocated.
-/

namespace Xmhf

open Function (update update_eq_self update_idem update_of_ne update_self)

/-- The answers for one page structure: `xmhf_mm_alloc_page_with_record`. -/
structure PageAlloc where
  page : Option Nat
  record : Option Nat
  node : Option Nat

structure PtManager where
  live : List Nat
  /-- `iommu_pts` -/
  slots : Nat → Option Nat
  /-- By `IOMMU_PT_INFO`, the blocks of `used_mem`, if there is such a list -/
  usedMem : Nat → Option (List Nat)

inductive PtOp where
  /-- The answers for `pt_info`, for `used_mem`, and for the page structures of the root -/
  | create (info list : Option Nat) (pages : List PageAlloc)
  | destroy (handle : Nat)
  | map (handle : Nat) (pages : List PageAlloc)
  | bind (handle : Nat)
  | unbind

/-- Page structures that are allocated until one fails, added to the heap and to a list. A node
that cannot be allocated is not noticed. -/
def allocPages : List PageAlloc → List Nat × List Nat → Bool × List Nat × List Nat
  | [], mem => (true, mem)
  | a :: rest, (live, blocks) =>
    match a.page, a.record, a.node with
    | some page, some record, some node =>
      allocPages rest (node :: record :: page :: live, node :: record :: page :: blocks)
    | some page, some record, none => allocPages rest (record :: page :: live, blocks)
    | _, _, _ => (false, live, blocks)

/-- `iommu_vmx_map`, which allocates what is missing of the tables. -/
def PtManager.vmxMap (s : PtManager) (info : Nat) (pages : List PageAlloc) :
    Option (Bool × PtManager) :=
  if info ∉ s.live then none
  else match s.usedMem info with
    | none => some (pages.isEmpty, s)
    | some blocks =>
      let (done, live, blocks) := allocPages pages (s.live, blocks)
      some (done, { s with live, usedMem := update s.usedMem info (some blocks) })

def PtManager.blocksOf (s : PtManager) (handle : Nat) : List Nat :=
  (s.slots handle).elim [] fun info => info :: (s.usedMem info).getD []

/-- `_pt_manager_get_pt` -/
def PtManager.getPt (s : PtManager) (handle : Nat) : Option Nat :=
  if handle < maxNumPts then s.slots handle else none

/-- `xmhf_iommu_pt_destroy` -/
def PtManager.destroy (s : PtManager) (handle : Nat) : Option PtManager :=
  match s.getPt handle with
  | none => some s
  | some info =>
    if info ∉ s.live then none
    else some { s with
      live := s.live.filter (· ∉ s.blocksOf handle)
      slots := update s.slots handle none }

/-- `_pt_manager_register_pt` -/
def PtManager.freeSlot (s : PtManager) : Option Nat :=
  (List.range' MIN_SECOS_IOMMU_PT_ID (maxNumPts - MIN_SECOS_IOMMU_PT_ID)).find?
    fun i => s.slots i = none

/-- `xmhf_iommu_pt_create`, with the handle unless it fails. Without a free slot it frees
`pt_info` and goes on with it. -/
def PtManager.create (s : PtManager) (info list : Option Nat) (pages : List PageAlloc) :
    Option (Option Nat × PtManager) :=
  match info, s.freeSlot with
  | some info, some handle =>
    let s : PtManager := {
      live := info :: list.toList ++ s.live
      slots := update s.slots handle (some info)
      usedMem := update s.usedMem info (list.map fun head => [head]) }
    (s.vmxMap info pages).bind fun (done, s) =>
      if done then some (some handle, s) else (s.destroy handle).map fun s => (none, s)
  | _, _ => none

def ptStep (s : PtManager) : PtOp → Option PtManager
  | .create info list pages => (s.create info list pages).map Prod.snd
  | .destroy handle => s.destroy handle
  | .map handle pages =>
    match s.getPt handle with
    | none => some s
    | some info => (s.vmxMap info pages).map Prod.snd
  | .bind handle =>
    match s.getPt handle with
    | none => some s
    | some info => if info ∉ s.live then none else some s
  | .unbind => some s

def ptMachine : Machine PtManager PtOp where
  init s := s.live = [] ∧ ∀ i, s.slots i = none
  step := ptStep

/-- The allocator answers with free blocks, and nodes do not fail. -/
def PagesOk (free : Nat → Prop) (pages : List PageAlloc) : Prop :=
  ∀ a ∈ pages, (∀ x, a.page = some x ∨ a.record = some x ∨ a.node = some x → free x) ∧
    (a.node = none → a.page = none ∨ a.record = none)

/-- The same for a request, with a free slot and a block for a new table. -/
def PtOk (s : PtManager) : PtOp → Prop
  | .create info list pages => (∃ i, s.freeSlot = some i) ∧ (∃ x, info = some x ∧ x ∉ s.live) ∧
      (∀ x ∈ list, x ∉ s.live) ∧ PagesOk (· ∉ s.live) pages
  | .map _ pages => PagesOk (· ∉ s.live) pages
  | _ => True

/-- The request is a create that returns the handle. -/
def PtManager.Gives (s : PtManager) (handle : Nat) : PtOp → Prop
  | .create info list pages => ∃ s', s.create info list pages = some (some handle, s')
  | _ => False

/-- The requests from a state on, none of which returns the handle. -/
abbrev PtManager.ReachesWithout (s : PtManager) (handle : Nat) : PtManager → Prop :=
  Machine.ReachableUnder { ptMachine with init := (· = s) }
    fun s op => PtOk s op ∧ ¬ s.Gives handle op

/-- The heap holds the blocks of the tables that have handles, each in one table. -/
structure PtManager.Inv (s : PtManager) : Prop where
  range : ∀ i ≥ maxNumPts, s.slots i = none
  live : ∀ x, x ∈ s.live ↔ ∃ i, x ∈ s.blocksOf i
  owner : ∀ i j x, x ∈ s.blocksOf i → x ∈ s.blocksOf j → i = j

variable {s s' : PtManager} {i : Nat}

variable {pages : List PageAlloc} {info j : Nat}

theorem PtManager.mem_blocksOf (found : s.slots i = some info) : info ∈ s.blocksOf i := by
  rw [PtManager.blocksOf, found]
  exact List.mem_cons_self

theorem PtManager.Inv.replace (inv : s.Inv) (small : i < maxNumPts)
    (slots : ∀ j ≠ i, s'.slots j = s.slots j) (others : ∀ j ≠ i, s'.blocksOf j = s.blocksOf j)
    (fresh : ∀ x ∈ s'.blocksOf i, x ∈ s.blocksOf i ∨ x ∉ s.live)
    (live : ∀ x, x ∈ s'.live ↔ x ∈ s'.blocksOf i ∨ x ∈ s.live ∧ x ∉ s.blocksOf i) : s'.Inv := by
  have apart : ∀ j ≠ i, ∀ x ∈ s'.blocksOf i, x ∉ s.blocksOf j := by
    intro j ne x mem mem'
    rcases fresh x mem with old | free
    · exact ne (inv.owner j i x mem' old)
    · exact free ((inv.live x).mpr ⟨j, mem'⟩)
  refine ⟨fun j large => ?_, fun x => ?_, fun j k x memj memk => ?_⟩
  · rw [slots j (by omega)]
    exact inv.range j large
  · rw [live, inv.live]
    constructor
    · rintro (mem | ⟨⟨j, mem⟩, away⟩)
      · exact ⟨i, mem⟩
      · exact ⟨j, by rwa [others j (by rintro rfl; exact away mem)]⟩
    · rintro ⟨j, mem⟩
      by_cases eq : j = i
      · exact .inl (eq ▸ mem)
      · rw [others j eq] at mem
        exact .inr ⟨⟨j, mem⟩, fun mem' => eq (inv.owner j i x mem mem')⟩
  · by_cases eqj : j = i <;> by_cases eqk : k = i
    · rw [eqj, eqk]
    · rw [others k eqk] at memk
      exact absurd memk (apart k eqk x (eqj ▸ memj))
    · rw [others j eqj] at memj
      exact absurd memj (apart j eqj x (eqk ▸ memk))
    · rw [others j eqj] at memj
      rw [others k eqk] at memk
      exact inv.owner j k x memj memk

theorem allocPages_spec {free : Nat → Prop} (ok : PagesOk free pages) (live blocks : List Nat) :
    ∃ new, (∀ x ∈ new, free x) ∧
      (allocPages pages (live, blocks)).2 = (new ++ live, new ++ blocks) := by
  induction pages generalizing live blocks with
  | nil => exact ⟨[], nofun, rfl⟩
  | cons a rest ih =>
    obtain ⟨⟨fresh, noticed⟩, later⟩ := List.forall_mem_cons.mp ok
    rw [allocPages]
    split
    · next page record node hpage hrecord hnode =>
      obtain ⟨new, known, eq⟩ := ih later (node :: record :: page :: live)
        (node :: record :: page :: blocks)
      refine ⟨new ++ [node, record, page], fun x mem => ?_, by simp [eq]⟩
      simp only [List.mem_append, List.mem_cons, List.not_mem_nil, or_false] at mem
      rcases mem with mem | rfl | rfl | rfl
      · exact known x mem
      · exact fresh _ (.inr (.inr hnode))
      · exact fresh _ (.inr (.inl hrecord))
      · exact fresh _ (.inl hpage)
    · next hpage hrecord hnode =>
      rcases noticed hnode with none | none
      · rw [hpage] at none
        cases none
      · rw [hrecord] at none
        cases none
    · exact ⟨[], nofun, rfl⟩

section

variable (inv : s.Inv) (found : s.slots i = some info)

include inv found

theorem PtManager.Inv.info_live : info ∈ s.live :=
  (inv.live info).mpr ⟨i, s.mem_blocksOf found⟩

theorem PtManager.Inv.slots_ne (ne : j ≠ i) :
    s.slots j ≠ some info := fun found' =>
  ne (inv.owner j i info (s.mem_blocksOf found') (s.mem_blocksOf found))

omit inv found in
theorem blocksOf_update (used : Option (List Nat)) (live : List Nat) (ne : s.slots j ≠ some info) :
    PtManager.blocksOf { s with live, usedMem := update s.usedMem info used } j = s.blocksOf j := by
  unfold PtManager.blocksOf
  dsimp only
  cases found : s.slots j with
  | none => rfl
  | some other =>
    have ne : other ≠ info := fun eq => ne (by rw [found, eq])
    simp only [Option.elim_some, update_of_ne ne]

theorem PtManager.Inv.vmxMap (ok : PagesOk (fun x => x ∉ s.live ∨ x ∈ s.blocksOf i) pages) :
    ∃ done s', s.vmxMap info pages = some (done, s') ∧ s'.Inv ∧ s'.slots = s.slots ∧
      (∀ x, x ∈ s'.live ↔ x ∈ s'.blocksOf i ∨ x ∈ s.live) ∧
      (∀ x ∈ s'.blocksOf i, x ∈ s.blocksOf i ∨ x ∉ s.live) ∧
      ∀ x ∈ s.blocksOf i, x ∈ s'.blocksOf i := by
  have small : i < maxNumPts := by
    by_contra large
    rw [inv.range i (Nat.le_of_not_lt large)] at found
    cases found
  have held : ∀ x ∈ s.blocksOf i, x ∈ s.live := fun x mem => (inv.live x).mpr ⟨i, mem⟩
  unfold PtManager.vmxMap
  rw [if_neg (not_not.mpr (inv.info_live found))]
  cases used : s.usedMem info with
  | none =>
    exact ⟨_, s, rfl, inv, rfl, fun x => ⟨.inr, (·.elim (held x) id)⟩, fun _ => .inl, fun _ => id⟩
  | some blocks =>
    obtain ⟨new, known, eq⟩ := allocPages_spec ok s.live blocks
    have old : s.blocksOf i = info :: blocks := by
      rw [PtManager.blocksOf, found, Option.elim_some, used, Option.getD_some]
    rcases result : allocPages pages (s.live, blocks) with ⟨done, live', blocks'⟩
    rw [result] at eq
    cases eq
    simp only [result]
    have now : PtManager.blocksOf { s with
        live := new ++ s.live
        usedMem := update s.usedMem info (some (new ++ blocks)) } i = info :: (new ++ blocks) := by
      simp [PtManager.blocksOf, found]
    have fresh : ∀ x ∈ info :: (new ++ blocks), x ∈ info :: blocks ∨ x ∉ s.live := by
      intro x mem
      have := known x
      rw [old] at this
      simp only [List.mem_cons, List.mem_append] at mem this ⊢
      tauto
    rw [old] at held ⊢
    refine ⟨done, _, rfl, ?_, rfl, ?_⟩
    · refine inv.replace small (fun _ _ => rfl)
        (fun j ne => blocksOf_update _ _ (inv.slots_ne found ne)) (by rwa [now, old]) fun x => ?_
      rw [now, old]
      have := held x
      simp only [List.mem_cons, List.mem_append] at this ⊢
      tauto
    · rw [now]
      refine ⟨fun x => ?_, fresh, fun x mem => ?_⟩
      · have := held x
        simp only [List.mem_cons, List.mem_append] at this ⊢
        tauto
      · simp only [List.mem_cons, List.mem_append] at mem ⊢
        tauto

end

theorem PtManager.Inv.destroy (inv : s.Inv) (found : s.getPt i = some info) :
    ∃ s', s.destroy i = some s' ∧ s'.Inv ∧ s'.slots = update s.slots i none ∧
      ∀ x, x ∈ s'.live ↔ x ∈ s.live ∧ x ∉ s.blocksOf i := by
  unfold PtManager.destroy
  rw [found]
  unfold PtManager.getPt at found
  split at found
  swap
  · cases found
  · next small =>
    dsimp only
    rw [if_neg (not_not.mpr (inv.info_live found))]
    refine ⟨_, rfl, ?_, rfl, by simp⟩
    have now : PtManager.blocksOf { s with
        live := s.live.filter (· ∉ s.blocksOf i)
        slots := update s.slots i none } i = [] := by
      simp [PtManager.blocksOf]
    refine inv.replace small (fun j ne => update_of_ne ne ..) (fun j ne => ?_) ?_ ?_
    · simp [PtManager.blocksOf, update_of_ne ne]
    · rw [now]
      nofun
    · rw [now]
      simp

theorem PtManager.freeSlot_some (found : s.freeSlot = some i) :
    s.slots i = none ∧ i < maxNumPts := by
  unfold PtManager.freeSlot at found
  have empty := List.find?_some found
  have mem := List.mem_of_find?_eq_some found
  rw [List.mem_range'_1] at mem
  exact ⟨of_decide_eq_true empty, mem.2⟩

theorem PtManager.Inv.create (inv : s.Inv) {info list : Option Nat}
    (ok : PtOk s (.create info list pages)) :
    ∃ r s', s.create info list pages = some (r, s') ∧ s'.Inv ∧
      (r = none → s'.slots = s.slots ∧ ∀ x, x ∈ s'.live ↔ x ∈ s.live) ∧
      ∀ h, r = some h → s.slots h = none ∧ s'.slots = update s.slots h info := by
  obtain ⟨⟨h, free⟩, ⟨info, rfl, fresh⟩, list_fresh, pages_ok⟩ := ok
  obtain ⟨empty, small⟩ := PtManager.freeSlot_some free
  have before : s.blocksOf h = [] := by rw [PtManager.blocksOf, empty, Option.elim_none]
  let t : PtManager := {
    live := info :: list.toList ++ s.live
    slots := update s.slots h (some info)
    usedMem := update s.usedMem info (list.map fun head => [head]) }
  have found : t.slots h = some info := update_self ..
  have now : t.blocksOf h = info :: list.toList := by
    rw [PtManager.blocksOf, found, Option.elim_some]
    show info :: (update s.usedMem info _ info).getD [] = _
    rw [update_self]
    cases list <;> rfl
  have next : t.Inv := by
    refine inv.replace small (fun j ne => update_of_ne ne ..) (fun j ne => ?_) (fun x mem => ?_)
      fun x => ?_
    · have other : s.slots j ≠ some info := fun found => fresh (inv.info_live found)
      rw [← blocksOf_update (list.map fun head => [head]) s.live other]
      simp only [PtManager.blocksOf, t, update_of_ne ne]
    · rw [now, List.mem_cons, Option.mem_toList] at mem
      rcases mem with rfl | mem
      · exact .inr fresh
      · exact .inr (list_fresh x mem)
    · rw [now, before]
      simp [t, or_assoc]
  have ok' : PagesOk (fun x => x ∉ t.live ∨ x ∈ t.blocksOf h) pages := by
    refine fun a mem => ⟨fun x answer => ?_, (pages_ok a mem).2⟩
    have := (pages_ok a mem).1 x answer
    simp only [now, t, List.mem_append]
    tauto
  obtain ⟨done, u, mapped, after, slots, live, added, kept⟩ := next.vmxMap found ok'
  have created : s.create (some info) list pages = (t.vmxMap info pages).bind fun (done, s) =>
      if done then some (some h, s) else (s.destroy h).map fun s => (none, s) := by
    unfold PtManager.create
    rw [free]
  rw [created, mapped, Option.bind_some]
  cases done with
  | true =>
    exact ⟨some h, u, rfl, after, nofun, fun _ eq => Option.some.inj eq ▸ ⟨empty, slots⟩⟩
  | false =>
    have resolved : u.getPt h = some info := by
      rw [PtManager.getPt, if_pos small, slots, found]
    obtain ⟨v, destroyed, last, freed, left⟩ := after.destroy resolved
    dsimp only
    rw [destroyed]
    refine ⟨none, v, rfl, last, fun _ => ⟨?_, fun x => ?_⟩, nofun⟩
    · rw [freed, slots, update_idem, ← empty, update_eq_self]
    · have mine := kept x
      have added := added x
      rw [left, live]
      simp only [now, t, List.mem_append, List.mem_cons, Option.mem_toList] at mine added ⊢
      have := list_fresh x
      by_cases head : x = info
      · subst head
        tauto
      · tauto

theorem PtManager.getPt_slots (found : s.getPt i = some info) : s.slots i = some info := by
  unfold PtManager.getPt at found
  split at found
  · exact found
  · cases found

/-- Every request can be carried out, and only a create that returns a handle makes it resolve. -/
theorem PtManager.Inv.step (inv : s.Inv) {op : PtOp} (ok : PtOk s op) :
    ∃ s', ptStep s op = some s' ∧ s'.Inv ∧
      ∀ h, s.getPt h = none → ¬ s.Gives h op → s'.getPt h = none := by
  cases op with
  | create info list pages =>
    obtain ⟨r, s', created, after, failed, made⟩ := inv.create ok
    refine ⟨s', by rw [ptStep, created]; rfl, after, fun h free other => ?_⟩
    cases r with
    | none => rwa [getPt, (failed rfl).1]
    | some new =>
      have ne : h ≠ new := fun eq => other ⟨s', eq ▸ created⟩
      rwa [getPt, (made new rfl).2, update_of_ne ne]
  | destroy handle =>
    cases found : s.getPt handle with
    | none => exact ⟨s, by rw [ptStep, PtManager.destroy, found], inv, fun _ free _ => free⟩
    | some info =>
      obtain ⟨s', destroyed, after, slots, -⟩ := inv.destroy found
      refine ⟨s', destroyed, after, fun h free _ => ?_⟩
      rw [getPt, slots]
      by_cases eq : h = handle
      · rw [eq, update_self, ite_self]
      · rwa [update_of_ne eq]
  | map handle pages =>
    cases found : s.getPt handle with
    | none => exact ⟨s, by simp only [ptStep, found], inv, fun _ free _ => free⟩
    | some info =>
      have ok : PagesOk (fun x => x ∉ s.live ∨ x ∈ s.blocksOf handle) pages := fun a mem =>
        ⟨fun x answer => .inl ((ok a mem).1 x answer), (ok a mem).2⟩
      obtain ⟨done, s', mapped, after, slots, -⟩ := inv.vmxMap (s.getPt_slots found) ok
      exact ⟨s', by simp only [ptStep, found, mapped, Option.map_some], after,
        fun h free _ => by rwa [getPt, slots]⟩
  | bind handle =>
    refine ⟨s, ?_, inv, fun _ free _ => free⟩
    cases found : s.getPt handle with
    | none => simp only [ptStep, found]
    | some info =>
      have live := inv.info_live (s.getPt_slots found)
      simp only [ptStep, found, live, not_true_eq_false, if_false]
  | unbind => exact ⟨s, rfl, inv, fun _ free _ => free⟩

theorem PtManager.Inv.stays (inv : s.Inv) (free : s.getPt i = none)
    (reached : s.ReachesWithout i s') : s'.getPt i = none := by
  refine (reached.invariant (P := fun s => s.Inv ∧ s.getPt i = none)
    (fun _ start => start ▸ ⟨inv, free⟩) fun t op t' kept ok step => ?_).2
  obtain ⟨next, stepped, after, stays⟩ := kept.1.step ok.1
  cases stepped.symm.trans step
  exact ⟨after, stays i kept.2 ok.2⟩

theorem PtManager.Inv.reachable (reached : ptMachine.ReachableUnder PtOk s) : s.Inv := by
  refine reached.invariant (fun s start => ?_) fun s op s' inv ok step => ?_
  · obtain ⟨empty, free⟩ := start
    have blocks (i : Nat) : s.blocksOf i = [] := by rw [PtManager.blocksOf, free, Option.elim_none]
    refine ⟨fun i _ => free i, fun x => ?_, fun i j x mem => ?_⟩
    · simp [empty, blocks]
    · rw [blocks] at mem
      cases mem
  · obtain ⟨next, stepped, after, -⟩ := inv.step ok
    cases stepped.symm.trans step
    exact after

/-- After any requests for which there was a slot and memory for tables and nodes: no request
touches free memory; handles stand for different tables, whose blocks are the whole heap; a create
that fails changes nothing and another one takes a free handle; and a destroyed handle does not
resolve in any state reached until a create returns it. -/
theorem iommu_handles_sound (reached : ptMachine.ReachableUnder PtOk s) :
    (∀ op, PtOk s op → ∃ s', ptStep s op = some s') ∧
    (∀ i j info, s.getPt i = some info → s.getPt j = some info → i = j) ∧
    (∀ x, x ∈ s.live ↔ ∃ i, (s.getPt i).isSome = true ∧ x ∈ s.blocksOf i) ∧
    (∀ info list pages, PtOk s (.create info list pages) →
      ∃ r s', s.create info list pages = some (r, s') ∧
        (r = none → s'.slots = s.slots ∧ ∀ x, x ∈ s'.live ↔ x ∈ s.live) ∧
        ∀ h, r = some h → s.getPt h = none ∧ s'.slots = update s.slots h info) ∧
    ∀ h mid s', s.destroy h = some mid → mid.ReachesWithout h s' → s'.getPt h = none := by
  have inv := PtManager.Inv.reachable reached
  refine ⟨fun op ok => ?_, fun i j info one two => ?_, fun x => ?_, fun info list pages ok => ?_,
    fun h mid s' destroyed later => ?_⟩
  · obtain ⟨s', step, -⟩ := inv.step ok
    exact ⟨s', step⟩
  · exact inv.owner i j info (s.mem_blocksOf (s.getPt_slots one))
      (s.mem_blocksOf (s.getPt_slots two))
  · rw [inv.live]
    refine exists_congr fun i => (and_iff_right_of_imp fun mem => ?_).symm
    cases found : s.slots i with
    | none => rw [PtManager.blocksOf, found] at mem; cases mem
    | some info =>
      have small : i < maxNumPts := by
        by_contra large
        rw [inv.range i (Nat.le_of_not_lt large)] at found
        cases found
      rw [PtManager.getPt, if_pos small, found]
      rfl
  · obtain ⟨r, s', created, -, failed, made⟩ := inv.create ok
    refine ⟨r, s', created, failed, fun h eq => ⟨?_, (made h eq).2⟩⟩
    rw [PtManager.getPt, (made h eq).1, ite_self]
  · cases found : s.getPt h with
    | none =>
      rw [PtManager.destroy, found] at destroyed
      cases destroyed
      exact inv.stays found later
    | some info =>
      obtain ⟨next, eq, after, slots, -⟩ := inv.destroy found
      cases eq.symm.trans destroyed
      exact after.stays (by rw [PtManager.getPt, slots, update_self, ite_self]) later

def emptyManager : PtManager := ⟨[], fun _ => none, fun _ => none⟩

def sampleCreate (n : Nat) : PtOp :=
  .create (some (8 * n)) (some (8 * n + 1)) [⟨some (8 * n + 2), some (8 * n + 3), some (8 * n + 4)⟩]

theorem sampleCreate_ok {n : Nat} (slot : s.freeSlot = some i) (below : ∀ x ∈ s.live, x < 8 * n) :
    PtOk s (sampleCreate n) := by
  have fresh (k : Nat) : 8 * n + k ∉ s.live := fun mem => by have := below _ mem; omega
  refine ⟨⟨i, slot⟩, ⟨_, rfl, fresh 0⟩, fun x new => Option.some.inj new ▸ fresh 1, fun a mem => ?_⟩
  cases List.mem_singleton.mp mem
  refine ⟨fun x answer => ?_, nofun⟩
  rcases answer with new | new | new <;> exact Option.some.inj new ▸ fresh _

/-- Two tables are created and the first one is destroyed; a map on the second one does not bring it
back. -/
theorem iommu_handles_sound_sample : ∃ s mid s',
    ptMachine.run emptyManager [sampleCreate 0, sampleCreate 1] = some s ∧
    s.getPt 2 = some 0 ∧ s.getPt 3 = some 8 ∧ s.destroy 2 = some mid ∧
    ptStep mid (.map 3 []) = some s' ∧ s'.getPt 3 = some 8 ∧ s'.getPt 2 = none := by
  have start : ptMachine.ReachableUnder PtOk emptyManager := .init ⟨rfl, fun _ => rfl⟩
  have one := start.step (sampleCreate_ok (i := 2) (n := 0) rfl nofun) rfl
  have two := one.step (sampleCreate_ok (i := 3) (n := 1) rfl (by decide)) rfl
  refine ⟨_, _, _, rfl, rfl, rfl, rfl, rfl, rfl, ?_⟩
  refine (iommu_handles_sound two).2.2.2.2 2 _ _ rfl ?_
  exact .step (.init rfl) (o := .map 3 []) ⟨nofun, id⟩ rfl

/-- The fifteenth table is used after it was freed. -/
theorem fifteenth_create_uses_freed_memory :
    (ptMachine.run emptyManager ((List.range 14).map sampleCreate)).isSome = true ∧
      ptMachine.run emptyManager ((List.range 15).map sampleCreate) = none := by
  exact ⟨by decide +kernel, by rfl⟩

end Xmhf
