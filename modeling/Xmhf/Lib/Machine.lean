import Mathlib.Data.List.Basic

/-!
# Machines and their runs

A machine takes operations; an operation on a state gives the next state, or
none when the machine stops. `ReachableUnder ok` are the states reached by
operations that meet a condition on the state before them, and an invariant of
those states is proved by `ReachableUnder.invariant` from one step.
-/

section

variable {α : Type*} {p : Prop} [Decidable p] {a b : α}

/-- A step behind a guard. -/
theorem guard_some : (if p then some a else none) = some b ↔ p ∧ a = b := by
  rw [Option.ite_none_right_eq_some, Option.some.injEq]

theorem unless_some : (if p then none else some a) = some b ↔ ¬ p ∧ a = b := by
  rw [Option.ite_none_left_eq_some, Option.some.injEq]

end

/-- A deterministic machine with operations `ω`. -/
structure Machine (σ ω : Type*) where
  init : σ → Prop
  step : σ → ω → Option σ

namespace Machine

variable {σ ω : Type*} {M : Machine σ ω} {ok : σ → ω → Prop}

def run (M : Machine σ ω) (s : σ) (ops : List ω) : Option σ := ops.foldlM M.step s

/-- The states reached by operations that all meet `ok`. -/
inductive ReachableUnder (M : Machine σ ω) (ok : σ → ω → Prop) : σ → Prop where
  | init {s : σ} : M.init s → ReachableUnder M ok s
  | step {s s' : σ} {o : ω} :
    ReachableUnder M ok s → ok s o → M.step s o = some s' → ReachableUnder M ok s'

abbrev Reachable (M : Machine σ ω) : σ → Prop := M.ReachableUnder fun _ _ => True

theorem ReachableUnder.invariant {P : σ → Prop} (base : ∀ s, M.init s → P s)
    (keeps : ∀ s o s', P s → ok s o → M.step s o = some s' → P s') {s : σ}
    (reached : M.ReachableUnder ok s) : P s := by
  induction reached with
  | init start => exact base _ start
  | step _ allowed next ih => exact keeps _ _ _ ih allowed next

theorem run_cons {s s' : σ} {o : ω} {ops : List ω} (run : M.run s (o :: ops) = some s') :
    ∃ mid, M.step s o = some mid ∧ M.run mid ops = some s' := by
  rw [Machine.run, List.foldlM_cons] at run
  exact Option.bind_eq_some_iff.mp run

theorem run_invariant {P : σ → Prop} {K : ω → Prop} {s s' : σ} {ops : List ω}
    (keeps : ∀ s o s', P s → K o → M.step s o = some s' → P s')
    (kinds : ∀ o ∈ ops, K o) (start : P s) (run : M.run s ops = some s') : P s' := by
  induction ops generalizing s with
  | nil =>
    cases run
    exact start
  | cons o ops ih =>
    rcases run_cons run with ⟨mid, step, rest⟩
    rcases List.forall_mem_cons.mp kinds with ⟨first, later⟩
    exact ih later (keeps s o mid start first step) rest

theorem ReachableUnder.run {s s' : σ} {ops : List ω} (reached : M.ReachableUnder ok s)
    (permitted : ∀ o ∈ ops, ∀ s, ok s o) (run : M.run s ops = some s') :
    M.ReachableUnder ok s' := by
  induction ops generalizing s with
  | nil =>
    cases run
    exact reached
  | cons o ops ih =>
    obtain ⟨mid, step, rest⟩ := run_cons run
    obtain ⟨first, later⟩ := List.forall_mem_cons.mp permitted
    exact ih (.step reached (first s) step) later rest

theorem Reachable.run {s s' : σ} {ops : List ω} (reached : M.Reachable s)
    (run : M.run s ops = some s') : M.Reachable s' :=
  ReachableUnder.run reached (fun _ _ _ => trivial) run

end Machine
