import Mathlib.Data.List.Basic
import Mathlib.Data.Option.Basic
import Mathlib.Logic.Relation

/-!
# Loops over chunks

A range of `len` bytes is worked off in chunks: `locate done n` answers, for the part of the
range that starts at offset `done` and has `n` bytes, a place and how many bytes it is good
for, or nothing. The loop then moves that many bytes, one by one, and goes on behind them.

`transfer` is the same work by the byte, where each byte has a place of its own.
`run_returns` is termination, `run_transfer` that the chunks do what the bytes would. For one
range, `run_complete` and `run_places` say the same of the offsets at which a chunk starts and
no others.
-/

namespace Chunked

variable {P σ : Type*}

/-- A loop from offset `done`: whether it came to the end, how far it came, and the state. It
is `none` when the fuel is used up before. -/
def run (locate : Nat → Nat → Option (P × Nat)) (move : P → Nat → Nat → σ → σ) (len : Nat) :
    Nat → Nat → σ → Option (Bool × Nat × σ)
  | 0, done, s => if done < len then none else some (true, done, s)
  | fuel + 1, done, s =>
    if done < len then
      match locate done (len - done) with
      | none => some (false, done, s)
      | some (p, k) => run locate move len fuel (done + k) (move p done k s)
    else some (true, done, s)

/-- The bytes of one chunk, of which byte `i` is at place `shift p i`. -/
def moveBytes (shift : P → Nat → P) (byte : P → Nat → σ → σ) (p : P) (done : Nat) : Nat → σ → σ
  | 0, s => s
  | k + 1, s => byte (shift p k) (done + k) (moveBytes shift byte p done k s)

/-- The first `m` bytes, each at its own place. -/
def transfer (own : Nat → Option P) (byte : P → Nat → σ → σ) : Nat → σ → Option σ
  | 0, s => some s
  | m + 1, s => (transfer own byte m s).bind fun s' => (own m).map fun p => byte p m s'

/-- Chunks are not empty and not longer than asked for. -/
def Advances (locate : Nat → Nat → Option (P × Nat)) : Prop :=
  ∀ done n p k, 0 < n → locate done n = some (p, k) → 0 < k ∧ k ≤ n

def Agrees (locate : Nat → Nat → Option (P × Nat)) (shift : P → Nat → P)
    (own : Nat → Option P) : Prop :=
  ∀ done n p k, 0 < n → locate done n = some (p, k) → ∀ i < k, own (done + i) = some (shift p i)

variable {locate : Nat → Nat → Option (P × Nat)} {shift : P → Nat → P} {byte : P → Nat → σ → σ}
  {own : Nat → Option P} {len : Nat}

variable {fuel done m : Nat} {p : P} {s s' : σ}

theorem run_returns (move : P → Nat → Nat → σ → σ) (advances : Advances locate)
    (enough : len ≤ done + fuel) (upto : done ≤ len) (s : σ) :
    ∃ ok m s', run locate move len fuel done s = some (ok, m, s') ∧ done ≤ m ∧ m ≤ len ∧
      (ok = true ↔ m = len) := by
  induction fuel generalizing done s with
  | zero =>
    have full : done = len := by omega
    refine ⟨true, done, s, ?_, Nat.le_refl _, upto, ?_⟩
    · rw [run, if_neg (by omega)]
    · simp [full]
  | succ fuel ih =>
    rw [run]
    by_cases more : done < len
    · rw [if_pos more]
      cases found : locate done (len - done) with
      | none => exact ⟨false, done, s, rfl, Nat.le_refl _, upto, by simp; omega⟩
      | some chunk =>
        obtain ⟨p, k⟩ := chunk
        obtain ⟨positive, fits⟩ := advances done _ p k (by omega) found
        obtain ⟨ok, m, s', result, above, below, complete⟩ :=
          @ih (done + k) (by omega) (by omega) (move p done k s)
        exact ⟨ok, m, s', result, by omega, below, complete⟩
    · rw [if_neg more]
      exact ⟨true, done, s, rfl, Nat.le_refl _, upto, by simp; omega⟩

theorem transfer_moveBytes {k : Nat} (places : ∀ i < k, own (m + i) = some (shift p i))
    (start : transfer own byte m s = some s') :
    transfer own byte (m + k) s = some (moveBytes shift byte p m k s') := by
  induction k with
  | zero => exact start
  | succ k ih =>
    have before := ih fun i below => places i (Nat.lt_succ_of_lt below)
    rw [← Nat.add_assoc, transfer, before, Option.bind_some, places k (Nat.lt_succ_self k)]
    rfl

theorem run_transfer (agrees : ∀ done < len, ∀ p k, locate done (len - done) = some (p, k) →
      ∀ i < k, own (done + i) = some (shift p i)) {t : σ} {ok : Bool}
    (start : transfer own byte done s = some s')
    (result : run locate (moveBytes shift byte) len fuel done s' = some (ok, m, t)) :
    transfer own byte m s = some t := by
  induction fuel generalizing done s' with
  | zero =>
    rw [run] at result
    split at result
    · cases result
    · cases result
      exact start
  | succ fuel ih =>
    rw [run] at result
    split at result
    · rename_i more
      cases found : locate done (len - done) with
      | none =>
        rw [found] at result
        cases result
        exact start
      | some chunk =>
        obtain ⟨p, k⟩ := chunk
        rw [found] at result
        exact ih (transfer_moveBytes (agrees done more p k found) start) result
    · cases result
      exact start

theorem run_one_chunk (move : P → Nat → Nat → σ → σ) (positive : 0 < len)
    (found : locate 0 len = some (p, len)) (s : σ) :
    run locate move len len 0 s = some (true, len, move p 0 len s) := by
  obtain ⟨fuel, rfl⟩ := Nat.exists_eq_succ_of_ne_zero (Nat.ne_of_gt positive)
  rw [run, if_pos positive]
  simp only [Nat.sub_zero, found, Nat.zero_add]
  cases fuel with
  | zero => rfl
  | succ fuel => rw [run, if_neg (Nat.lt_irrefl _)]

theorem own_of_same_trace {τ : Type*} {trace : σ → List τ} {mark : P → τ}
    (marks : ∀ p i s, trace (byte p i s) = trace s ++ [mark p])
    (injective : Function.Injective mark) :
    ∀ {k : Nat} {s' : σ}, transfer own byte k s = some s' →
      trace s' = trace (moveBytes shift byte p 0 k s) → ∀ i < k, own i = some (shift p i) := by
  intro k
  induction k with
  | zero =>
    intro s' _ _ i below
    exact absurd below (Nat.not_lt_zero i)
  | succ k ih =>
    intro s' moved same i below
    obtain ⟨before, first, last⟩ := Option.bind_eq_some_iff.mp moved
    obtain ⟨q, place, rfl⟩ := Option.map_eq_some_iff.mp last
    rw [moveBytes, marks, marks] at same
    obtain ⟨init, final⟩ := List.append_inj' same rfl
    have here : q = shift p k := injective (List.singleton_injective final)
    rcases Nat.lt_succ_iff_lt_or_eq.mp below with earlier | rfl
    · exact ih first init i earlier
    · rw [place, here]

/-- A loop completes as the bytes would if this holds of the chunks at the offsets it reaches. -/
theorem run_complete {I : Nat → Prop}
    (located : ∀ a < len, I a → ∃ p k, locate a (len - a) = some (p, k) ∧ 0 < k ∧ k ≤ len - a ∧
      (a + k < len → I (a + k)) ∧ ∀ i < k, own (a + i) = some (shift p i))
    (here : done < len → I done) (enough : len ≤ done + fuel) (upto : done ≤ len)
    (start : transfer own byte done s = some s') :
    ∃ t, run locate (moveBytes shift byte) len fuel done s' = some (true, len, t) ∧
      transfer own byte len s = some t := by
  induction fuel generalizing done s' with
  | zero =>
    obtain rfl : done = len := by omega
    exact ⟨s', if_neg (Nat.lt_irrefl _), start⟩
  | succ fuel ih =>
    rw [run]
    by_cases more : done < len
    · obtain ⟨p, k, found, positive, fits, next, places⟩ := located done more (here more)
      rw [if_pos more, found]
      exact ih next (by omega) (by omega) (transfer_moveBytes places start)
    · obtain rfl : done = len := by omega
      exact ⟨s', if_neg more, start⟩

section

variable {trace : σ → List P} (marks : ∀ p i s, trace (byte p i s) = trace s ++ [p])

include marks

theorem moveBytes_trace (p : P) (done k : Nat) (s : σ) :
    trace (moveBytes shift byte p done k s) = trace s ++ (List.range k).map (shift p) := by
  induction k with
  | zero => simp [moveBytes]
  | succ k ih => rw [moveBytes, marks, ih, List.range_succ, List.map_append, List.append_assoc]; rfl

theorem transfer_trace (moved : transfer own byte m s = some s') :
    (trace s').map some = (trace s).map some ++ (List.range m).map own := by
  induction m generalizing s' with
  | zero =>
    cases moved
    simp
  | succ m ih =>
    obtain ⟨before, first, last⟩ := Option.bind_eq_some_iff.mp moved
    obtain ⟨q, place, rfl⟩ := Option.map_eq_some_iff.mp last
    rw [marks, List.map_append, ih first, List.range_succ, List.map_append, List.append_assoc]
    simp [place]

theorem run_trace {ok : Bool}
    (result : run locate (moveBytes shift byte) len fuel done s = some (ok, m, s')) :
    ∃ rest, trace s' = trace s ++ rest := by
  induction fuel generalizing done s with
  | zero =>
    rw [run] at result
    split at result <;> cases result
    exact ⟨[], (List.append_nil _).symm⟩
  | succ fuel ih =>
    rw [run] at result
    split at result
    · split at result
      · cases result
        exact ⟨[], (List.append_nil _).symm⟩
      · obtain ⟨rest, whole⟩ := ih result
        rw [moveBytes_trace marks, List.append_assoc] at whole
        exact ⟨_, whole⟩
    · cases result
      exact ⟨[], (List.append_nil _).symm⟩

/-- A loop that completes and leaves the trace of the bytes' own places has used these in each
chunk that it reached. -/
theorem run_places (advances : Advances locate) {next : Nat → Nat → Prop}
    (step : ∀ {a b p k}, locate a (len - a) = some (p, k) → next a b → b = a + k ∧ b < len)
    (more : done < len)
    (result : run locate (moveBytes shift byte) len fuel done s = some (true, m, s'))
    (traced : (trace s').map some = (trace s).map some ++ (List.range' done (len - done)).map own)
    {a : Nat} (reached : Relation.ReflTransGen next done a) :
    ∃ p k, locate a (len - a) = some (p, k) ∧ ∀ i < k, own (a + i) = some (shift p i) := by
  induction fuel generalizing done s with
  | zero =>
    rw [run, if_pos more] at result
    cases result
  | succ fuel ih =>
    rw [run, if_pos more] at result
    cases found : locate done (len - done) with
    | none =>
      rw [found] at result
      cases result
    | some chunk =>
      obtain ⟨p, k⟩ := chunk
      rw [found] at result
      obtain ⟨positive, fits⟩ := advances done _ p k (by omega) found
      obtain ⟨rest, whole⟩ := run_trace marks result
      have split : List.range' done (len - done) =
          List.range' done k ++ List.range' (done + k) (len - (done + k)) := by
        rw [show len - done = k + (len - (done + k)) by omega, ← List.range'_append_1]
      rw [whole, moveBytes_trace marks, List.append_assoc, List.map_append, split, List.map_append,
        List.map_append] at traced
      obtain ⟨chunk, others⟩ := List.append_inj (List.append_cancel_left traced) (by simp)
      rcases reached.cases_head with rfl | ⟨b, first, below⟩
      · refine ⟨p, k, found, fun i inside => ?_⟩
        have place := congrArg (·[i]?) chunk
        simpa [inside] using place.symm
      · obtain ⟨rfl, inside⟩ := step found first
        refine ih inside result ?_ below
        rw [whole, List.map_append, others]

end

end Chunked
