import Mathlib.Data.List.Basic

/-!
# Passes with early return

A pass runs a list of steps on a state. A step reports a status and the state it
leaves, or stops the machine (`none`); the pass goes on while the status is `ok`
and returns the first other one.

`pass_establishes` is the rule for steps that each have a part of the state of
their own: what a step establishes and no other step destroys holds at the end.
Steps that report nothing are run by `List.foldlM`; `foldlM_progress` is the rule for
what holds when a part of them is done.
-/

namespace Pass

variable {ι σ ε : Type*} [DecidableEq ε] {ok : ε} {step : ι → σ → Option (ε × σ)}

def pass (ok : ε) (step : ι → σ → Option (ε × σ)) : List ι → σ → Option (ε × σ)
  | [], s => some (ok, s)
  | i :: is, s =>
    match step i s with
    | none => none
    | some (status, s') => if status = ok then pass ok step is s' else some (status, s')

variable {is : List ι} {i : ι} {s s' : σ}

theorem pass_cons_ok (run : pass ok step (i :: is) s = some (ok, s')) :
    ∃ mid, step i s = some (ok, mid) ∧ pass ok step is mid = some (ok, s') := by
  rw [pass] at run
  cases first : step i s with
  | none =>
    rw [first] at run
    cases run
  | some result =>
    rcases result with ⟨status, mid⟩
    rw [first] at run
    dsimp only at run
    split at run
    · next success =>
      subst success
      exact ⟨mid, rfl, run⟩
    · next failure =>
      cases run
      exact absurd rfl failure

theorem pass_invariant {I : σ → Prop}
    (keeps : ∀ i ∈ is, ∀ s s', I s → step i s = some (ok, s') → I s') (start : I s)
    (run : pass ok step is s = some (ok, s')) : I s' := by
  induction is generalizing s with
  | nil =>
    cases run
    exact start
  | cons i is ih =>
    rcases pass_cons_ok run with ⟨mid, first, rest⟩
    rcases List.forall_mem_cons.mp keeps with ⟨keepsFirst, keepsRest⟩
    exact ih keepsRest (keepsFirst s mid start first) rest

theorem pass_establishes {I Q : σ → Prop} {target : ι} (member : target ∈ is)
    (invariant : ∀ i ∈ is, ∀ s s', I s → step i s = some (ok, s') → I s')
    (establishes : ∀ s s', I s → step target s = some (ok, s') → Q s')
    (keeps : ∀ i ∈ is, i ≠ target → ∀ s s', Q s → step i s = some (ok, s') → Q s') (start : I s)
    (run : pass ok step is s = some (ok, s')) : Q s' := by
  induction is generalizing s with
  | nil => cases member
  | cons i is ih =>
    rcases pass_cons_ok run with ⟨mid, first, rest⟩
    rcases List.forall_mem_cons.mp keeps with ⟨-, keepsRest⟩
    rcases List.forall_mem_cons.mp invariant with ⟨invariantFirst, invariantRest⟩
    by_cases later : target ∈ is
    · exact ih later invariantRest keepsRest (invariantFirst s mid start first) rest
    · -- the step of `target` is the first one, and the rest keep what it establishes
      have here : i = target := ((List.mem_cons.mp member).resolve_right later).symm
      subst here
      apply pass_invariant _ (establishes s mid start first) rest
      intro j inside
      exact keepsRest j inside (fun same => later (same ▸ inside))

theorem pass_answers {I : σ → Prop}
    (answers : ∀ i ∈ is, ∀ s, I s → ∃ status s', step i s = some (status, s') ∧ I s')
    (start : I s) :
    ∃ status s', pass ok step is s = some (status, s') ∧ I s' := by
  induction is generalizing s with
  | nil => exact ⟨ok, s, rfl, start⟩
  | cons i is ih =>
    obtain ⟨answersFirst, answersRest⟩ := List.forall_mem_cons.mp answers
    obtain ⟨status, mid, first, kept⟩ := answersFirst s start
    rw [pass, first]
    dsimp only
    split
    · exact ih answersRest kept
    · exact ⟨status, mid, rfl, kept⟩

theorem foldlM_progress {f : σ → ι → Option σ} {I : List ι → σ → Prop}
    (keeps : ∀ done i rest s s', is = done ++ i :: rest → I done s → f s i = some s' →
      I (done ++ [i]) s') (start : I [] s) (run : is.foldlM f s = some s') : I is s' := by
  suffices part : ∀ rest done s, is = done ++ rest → I done s → rest.foldlM f s = some s' →
      I is s' from part is [] s rfl start run
  intro rest
  induction rest with
  | nil =>
    intro done s split holds run
    cases run
    rw [split, List.append_nil]
    exact holds
  | cons i rest ih =>
    intro done s split holds run
    rw [List.foldlM_cons] at run
    obtain ⟨mid, first, run⟩ := Option.bind_eq_some_iff.mp run
    refine ih (done ++ [i]) mid ?_ (keeps done i rest s mid split holds first) run
    rw [split, List.append_assoc, List.singleton_append]

theorem foldlM_at {f : σ → ι → Option σ} {R Q : σ → Prop} {t : σ} (distinct : is.Nodup)
    (member : i ∈ is) (keepsReady : ∀ j s t, j ≠ i → f s j = some t → R s → R t)
    (establishes : ∀ s t, f s i = some t → R s → Q t)
    (keeps : ∀ j s t, j ≠ i → f s j = some t → Q s → Q t) (start : R s)
    (run : is.foldlM f s = some t) : Q t := by
  refine (foldlM_progress (I := fun done s => (i ∉ done → R s) ∧ (i ∈ done → Q s)) ?_
    ⟨fun _ => start, nofun⟩ run).2 member
  rintro done j rest s s' split ⟨ready, established⟩ step
  by_cases same : j = i
  · subst same
    have fresh : j ∉ done := by
      rw [split] at distinct
      intro earlier
      exact (List.nodup_append.mp distinct).2.2 j earlier j (List.mem_cons_self ..) rfl
    exact ⟨fun absent => absurd (List.mem_append_right done (List.mem_cons_self ..)) absent,
      fun _ => establishes s s' step (ready fresh)⟩
  · have before : i ∈ done ++ [j] → i ∈ done := fun inside =>
      (List.mem_append.mp inside).resolve_right fun last =>
        same (List.mem_singleton.mp last).symm
    exact ⟨fun absent => keepsReady j s s' same step
        (ready fun inside => absent (List.mem_append_left [j] inside)),
      fun inside => keeps j s s' same step (established (before inside))⟩

theorem foldlM_each {f : σ → ι → Option σ} {R Q : ι → σ → Prop} (distinct : is.Nodup)
    (each : ∀ i ∈ is, ∀ s, R i s → ∃ t, f s i = some t ∧ Q i t)
    (keepsReady : ∀ i j s t, j ≠ i → f s i = some t → R j s → R j t)
    (keeps : ∀ i j s t, j ≠ i → f s i = some t → Q j s → Q j t) (start : ∀ i ∈ is, R i s) :
    ∃ t, is.foldlM f s = some t ∧ ∀ i ∈ is, Q i t := by
  suffices all : ∃ t, is.foldlM f s = some t ∧ (∀ i ∈ is, Q i t) ∧ ∀ j ∉ is, Q j s → Q j t by
    obtain ⟨t, run, established, -⟩ := all
    exact ⟨t, run, established⟩
  induction is generalizing s with
  | nil => exact ⟨s, rfl, nofun, fun _ _ => id⟩
  | cons i is ih =>
    obtain ⟨first, rest⟩ := List.nodup_cons.mp distinct
    obtain ⟨eachFirst, eachRest⟩ := List.forall_mem_cons.mp each
    obtain ⟨startFirst, startRest⟩ := List.forall_mem_cons.mp start
    obtain ⟨mid, step, holds⟩ := eachFirst s startFirst
    have ready : ∀ j ∈ is, R j mid := fun j inside =>
      keepsReady i j s mid (fun same => first (same ▸ inside)) step (startRest j inside)
    obtain ⟨t, run, established, others⟩ := ih rest eachRest ready
    refine ⟨t, ?_, ?_, ?_⟩
    · rw [List.foldlM_cons, step]
      exact run
    · intro j inside
      rcases List.mem_cons.mp inside with rfl | later
      · exact others j first holds
      · exact established j later
    · intro j outside held
      rw [List.mem_cons, not_or] at outside
      exact others j outside.2 (keeps i j s mid outside.1 step held)

end Pass
