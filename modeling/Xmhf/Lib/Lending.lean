import Mathlib.Data.List.Nodup
import Mathlib.Data.List.Perm.Basic

/-!
# Lending frames

A home has rights on frames and lends them to borrowers. A borrower reaches a frame that it was
lent at an address, with the right of the kind of the loan. A loan is exclusive, and then nobody
else has the frame, or it can be shared, and then nobody writes to the frame.

`Sound` says that the rights of home and borrowers agree with the loans. It is kept by lending a
frame, giving one back, opening a frame that nobody borrows, and forgetting a borrower.
-/

namespace Lending

open Function (update update_of_ne update_self)

structure Policy (τ ρ : Type*) where
  right : τ → ρ
  exclusive : τ → Prop
  closed : ρ
  Writes : ρ → Prop
  right_ne_closed : ∀ t, right t ≠ closed
  closed_reads : ¬ Writes closed
  shared_reads : ∀ t, ¬ exclusive t → ¬ Writes (right t)

structure Borrower (φ α τ ρ : Type*) where
  rights : φ → ρ
  frame : α → φ
  loans : List (α × τ)

/-- The borrower after a frame was lent to it at an address. -/
def Borrower.lend {φ α τ ρ : Type*} [DecidableEq φ] [DecidableEq α] (b : Borrower φ α τ ρ) (a : α)
    (t : τ) (f : φ) (right : ρ) : Borrower φ α τ ρ where
  rights := Function.update b.rights f right
  frame := Function.update b.frame a f
  loans := b.loans ++ [(a, t)]

variable {φ α τ ρ κ : Type*} {P : Policy τ ρ} {pool : φ → Prop} {home : φ → ρ}
  {borrowers : κ → Option (Borrower φ α τ ρ)} {k : κ} {b : Borrower φ α τ ρ}

/-- The rights of home and borrowers agree with the loans, on the frames that can be lent. -/
structure Sound (P : Policy τ ρ) (pool : φ → Prop) (home : φ → ρ)
    (borrowers : κ → Option (Borrower φ α τ ρ)) : Prop where
  lent : ∀ {k b a t}, borrowers k = some b → (a, t) ∈ b.loans →
    pool (b.frame a) ∧ b.rights (b.frame a) = P.right t
  exclusive : ∀ {k b a t}, borrowers k = some b → (a, t) ∈ b.loans → P.exclusive t →
    home (b.frame a) = P.closed ∧
      ∀ {k' b'}, k' ≠ k → borrowers k' = some b' → b'.rights (b.frame a) = P.closed
  readOnly : ∀ {k b a t}, borrowers k = some b → (a, t) ∈ b.loans → ¬ P.Writes (home (b.frame a))
  mapped : ∀ {k b f}, borrowers k = some b → pool f → b.rights f ≠ P.closed →
    ∃ a t, (a, t) ∈ b.loans ∧ b.frame a = f
  once : ∀ {k b}, borrowers k = some b → (b.loans.map Prod.fst).Nodup
  unique : ∀ {k b a t a' t'}, borrowers k = some b → (a, t) ∈ b.loans → P.Writes (P.right t) →
    (a', t') ∈ b.loans → b.frame a' = b.frame a → a' = a

theorem Borrower.lend_rights [DecidableEq φ] [DecidableEq α] (a : α) (t : τ) (f : φ) (right : ρ) :
    (b.lend a t f right).rights = update b.rights f right := rfl

theorem Borrower.lend_frame_of_mem [DecidableEq φ] [DecidableEq α] {a a' : α} {t t' : τ} {f : φ}
    {right : ρ} (fresh : a ∉ b.loans.map Prod.fst) (old : (a', t') ∈ b.loans) :
    (b.lend a t f right).frame a' = b.frame a' := by
  have ne : a' ≠ a := fun same => fresh (same ▸ List.mem_map_of_mem old)
  exact update_of_ne ne _ _

theorem Borrower.mem_lend [DecidableEq φ] [DecidableEq α] {a a' : α} {t t' : τ} {f : φ} {right : ρ}
    (fresh : a ∉ b.loans.map Prod.fst) (loan : (a', t') ∈ (b.lend a t f right).loans) :
    (a', t') ∈ b.loans ∧ (b.lend a t f right).frame a' = b.frame a' ∨
      a' = a ∧ t' = t ∧ (b.lend a t f right).frame a' = f := by
  rcases List.mem_append.mp loan with old | new
  · exact .inl ⟨old, lend_frame_of_mem fresh old⟩
  · cases List.mem_singleton.mp new
    exact .inr ⟨rfl, rfl, update_self ..⟩

theorem update_some_cases {β : Type*} [DecidableEq κ] {family : κ → Option β} {k' : κ} {b' new : β}
    (member : update family k (some new) k' = some b') :
    k' = k ∧ b' = new ∨ k' ≠ k ∧ family k' = some b' := by
  by_cases same : k' = k
  · rw [same, update_self] at member
    exact .inl ⟨same, (Option.some.inj member).symm⟩
  · rw [update_of_ne same] at member
    exact .inr ⟨same, member⟩

variable {new : Borrower φ α τ ρ}

namespace Sound

section

variable (sound : Sound P pool home borrowers)

include sound

theorem closed_of_writes {f : φ} (inPool : pool f) (writes : P.Writes (home f))
    (borrower : borrowers k = some b) : b.rights f = P.closed := by
  by_contra mapped
  obtain ⟨a, t, loan, rfl⟩ := sound.mapped borrower inPool mapped
  exact sound.readOnly borrower loan writes

theorem shared_of_open {a : α} {t : τ} (borrower : borrowers k = some b) (loan : (a, t) ∈ b.loans)
    (opened : home (b.frame a) ≠ P.closed) : ¬ P.exclusive t :=
  fun exclusive => opened (sound.exclusive borrower loan exclusive).1

theorem frame_ne {f : φ} {a : α} {t : τ} (borrower : borrowers k = some b)
    (loan : (a, t) ∈ b.loans) (closed : b.rights f = P.closed) : b.frame a ≠ f := by
  rintro rfl
  exact P.right_ne_closed t ((sound.lent borrower loan).2.symm.trans closed)

theorem open_frame [DecidableEq φ] {f : φ} (right : ρ)
    (closed : ∀ {k b}, borrowers k = some b → b.rights f = P.closed) :
    Sound P pool (update home f right) borrowers := by
  have same : ∀ {k b a t}, borrowers k = some b → (a, t) ∈ b.loans →
      update home f right (b.frame a) = home (b.frame a) := fun borrower loan =>
    update_of_ne (sound.frame_ne borrower loan (closed borrower)) _ _
  exact {
    lent := sound.lent
    exclusive := fun borrower loan exclusive =>
      have ⟨shut, others⟩ := sound.exclusive borrower loan exclusive
      ⟨(same borrower loan).trans shut, others⟩
    readOnly := fun borrower loan => (same borrower loan).symm ▸ sound.readOnly borrower loan
    mapped := sound.mapped
    once := sound.once
    unique := sound.unique }

theorem narrow [DecidableEq φ] {f : φ} {right : ρ} (opened : home f ≠ P.closed)
    (readOnly : ¬ P.Writes right) : Sound P pool (update home f right) borrowers := by
  refine { sound with exclusive := ?_, readOnly := ?_ }
  · intro k b a t borrower loan isExclusive
    have ne : b.frame a ≠ f := by
      rintro rfl
      exact sound.shared_of_open borrower loan opened isExclusive
    rw [update_of_ne ne]
    exact sound.exclusive borrower loan isExclusive
  · intro k b a t borrower loan
    by_cases same : b.frame a = f
    · rwa [same, update_self]
    · rw [update_of_ne same]
      exact sound.readOnly borrower loan

end

variable [DecidableEq κ]

section

variable (sound : Sound P pool home borrowers)

include sound

theorem forget (k : κ) : Sound P pool home (update borrowers k none) := by
  have kept : ∀ {k' b'}, update borrowers k none k' = some b' →
      borrowers k' = some b' := by
    intro k' b' borrower
    by_cases same : k' = k
    · rw [same, update_self] at borrower
      cases borrower
    · rwa [update_of_ne same] at borrower
  exact {
    lent := fun borrower => sound.lent (kept borrower)
    exclusive := fun borrower loan exclusive =>
      have ⟨closed, others⟩ := sound.exclusive (kept borrower) loan exclusive
      ⟨closed, fun other borrower' => others other (kept borrower')⟩
    readOnly := fun borrower => sound.readOnly (kept borrower)
    mapped := fun borrower => sound.mapped (kept borrower)
    once := fun borrower => sound.once (kept borrower)
    unique := fun borrower => sound.unique (kept borrower) }

/-- A borrower may be put in the place of another one, or of none, when it alone agrees with home
and with the loans of the others. -/
theorem put
    (lent : ∀ {a t}, (a, t) ∈ new.loans → pool (new.frame a) ∧ new.rights (new.frame a) = P.right t)
    (exclusive : ∀ {a t}, (a, t) ∈ new.loans → P.exclusive t → home (new.frame a) = P.closed ∧
      ∀ {k' b'}, k' ≠ k → borrowers k' = some b' → b'.rights (new.frame a) = P.closed)
    (others : ∀ {k' b' a t}, k' ≠ k → borrowers k' = some b' → (a, t) ∈ b'.loans → P.exclusive t →
      new.rights (b'.frame a) = P.closed)
    (readOnly : ∀ {a t}, (a, t) ∈ new.loans → ¬ P.Writes (home (new.frame a)))
    (mapped : ∀ {f}, pool f → new.rights f ≠ P.closed → ∃ a t, (a, t) ∈ new.loans ∧ new.frame a = f)
    (once : (new.loans.map Prod.fst).Nodup)
    (unique : ∀ {a t a' t'}, (a, t) ∈ new.loans → P.Writes (P.right t) → (a', t') ∈ new.loans →
      new.frame a' = new.frame a → a' = a)
    : Sound P pool home (update borrowers k (some new)) := by
  refine ⟨?_, ?_, ?_, ?_, ?_, ?_⟩ <;> intro k' b'
  · intro a t borrower loan
    rcases update_some_cases borrower with ⟨-, rfl⟩ | ⟨-, borrower⟩
    · exact lent loan
    · exact sound.lent borrower loan
  · intro a t borrower loan isExclusive
    rcases update_some_cases borrower with ⟨rfl, rfl⟩ | ⟨ne, known⟩
    · obtain ⟨shut, closed⟩ := exclusive loan isExclusive
      refine ⟨shut, fun other borrower' => ?_⟩
      rw [update_of_ne other] at borrower'
      exact closed other borrower'
    · obtain ⟨shut, closed⟩ := sound.exclusive known loan isExclusive
      refine ⟨shut, fun other borrower' => ?_⟩
      rcases update_some_cases borrower' with ⟨-, rfl⟩ | ⟨-, borrower'⟩
      · exact others ne known loan isExclusive
      · exact closed other borrower'
  · intro a t borrower loan
    rcases update_some_cases borrower with ⟨-, rfl⟩ | ⟨-, borrower⟩
    · exact readOnly loan
    · exact sound.readOnly borrower loan
  · intro f borrower inPool right
    rcases update_some_cases borrower with ⟨-, rfl⟩ | ⟨-, borrower⟩
    · exact mapped inPool right
    · exact sound.mapped borrower inPool right
  · intro borrower
    rcases update_some_cases borrower with ⟨-, rfl⟩ | ⟨-, borrower⟩
    · exact once
    · exact sound.once borrower
  · intro a t a' t' borrower loan writes loan' same
    rcases update_some_cases borrower with ⟨-, rfl⟩ | ⟨-, borrower⟩
    · exact unique loan writes loan' same
    · exact sound.unique borrower loan writes loan' same

theorem reframe (borrower : borrowers k = some b) {frame : α → φ}
    (same : ∀ {a t}, (a, t) ∈ b.loans → frame a = b.frame a) :
    Sound P pool home (update borrowers k (some { b with frame := frame })) := by
  refine sound.put (fun loan => ?_) (fun loan => ?_) (fun ne borrower' loan isExclusive => ?_)
    (fun loan => ?_) (fun inPool right => ?_)
    (show (b.loans.map Prod.fst).Nodup from sound.once borrower) fun loan writes loan' equal => ?_
  · simp only [same loan]
    exact sound.lent borrower loan
  · simp only [same loan]
    exact sound.exclusive borrower loan
  · have closed := (sound.exclusive borrower' loan isExclusive).2 ne.symm borrower
    exact closed
  · simp only [same loan]
    exact sound.readOnly borrower loan
  · obtain ⟨a, t, loan, rfl⟩ := sound.mapped borrower inPool right
    exact ⟨a, t, loan, same loan⟩
  · simp only [same loan, same loan'] at equal
    exact sound.unique borrower loan writes loan' equal

theorem enter (none_ : new.loans = []) (closed : ∀ f, pool f → new.rights f = P.closed) :
    Sound P pool home (update borrowers k (some new)) := by
  have empty : ∀ {a t}, (a, t) ∉ new.loans := by simp [none_]
  refine sound.put (fun loan => absurd loan empty) (fun loan => absurd loan empty)
    (fun _ borrower loan _ => closed _ (sound.lent borrower loan).1)
    (fun loan => absurd loan empty) (fun inPool right => absurd (closed _ inPool) right) ?_
    fun loan => absurd loan empty
  rw [none_]
  exact List.nodup_nil

end

variable [DecidableEq φ]

section Lend

variable [DecidableEq α] {a : α} {t : τ} {f : φ} {right : ρ}

theorem lend (sound : Sound P pool home borrowers) (borrower : borrowers k = some b)
    (inPool : pool f) (opened : home f ≠ P.closed) (fresh : a ∉ b.loans.map Prod.fst)
    (agrees : ∀ a' t', (a', t') ∈ b.loans → b.frame a' = f →
      P.right t' = P.right t ∧ ¬ P.Writes (P.right t))
    (readOnly : ¬ P.Writes right)
    (exclusive : P.exclusive t → right = P.closed ∧
      ∀ {k' b'}, k' ≠ k → borrowers k' = some b' → b'.rights f = P.closed) :
    Sound P pool (update home f right) (update borrowers k
      (some (b.lend a t f (P.right t)))) := by
  have narrowed := sound.narrow opened readOnly
  refine narrowed.put ?_ ?_ ?_ ?_ ?_ ?_ ?_
  · intro a' t' loan
    rcases Borrower.mem_lend fresh loan with ⟨old, frame⟩ | ⟨rfl, rfl, frame⟩ <;> rw [frame]
    · refine ⟨(sound.lent borrower old).1, ?_⟩
      by_cases same : b.frame a' = f
      · rw [same, Borrower.lend_rights, update_self, (agrees a' t' old same).1]
      · rw [Borrower.lend_rights, update_of_ne same]
        exact (sound.lent borrower old).2
    · exact ⟨inPool, update_self ..⟩
  · intro a' t' loan isExclusive
    rcases Borrower.mem_lend fresh loan with ⟨old, frame⟩ | ⟨rfl, rfl, frame⟩ <;> rw [frame]
    · exact narrowed.exclusive borrower old isExclusive
    · rw [update_self]
      exact exclusive isExclusive
  · -- an exclusive loan of another borrower is not of this frame, which is open
    intro k' b' a' t' ne borrower' loan isExclusive
    have frame : b'.frame a' ≠ f := by
      rintro rfl
      exact sound.shared_of_open borrower' loan opened isExclusive
    rw [Borrower.lend_rights, update_of_ne frame]
    exact (sound.exclusive borrower' loan isExclusive).2 ne.symm borrower
  · intro a' t' loan
    rcases Borrower.mem_lend fresh loan with ⟨old, frame⟩ | ⟨rfl, rfl, frame⟩ <;> rw [frame]
    · exact narrowed.readOnly borrower old
    · rwa [update_self]
  · intro f' inPool' mapped
    by_cases same : f' = f
    · exact ⟨a, t, List.mem_append_right _ (List.mem_singleton_self _),
        (update_self ..).trans same.symm⟩
    · rw [Borrower.lend_rights, update_of_ne same] at mapped
      obtain ⟨a', t', old, frame⟩ := sound.mapped borrower inPool' mapped
      refine ⟨a', t', List.mem_append_left _ old, ?_⟩
      rwa [Borrower.lend_frame_of_mem fresh old]
  · rw [Borrower.lend, List.map_append]
    exact List.Nodup.append (sound.once borrower) (List.nodup_singleton _)
      (List.disjoint_singleton.mpr fresh)
  · intro a₁ t₁ a₂ t₂ loan₁ writes loan₂ same
    rcases Borrower.mem_lend fresh loan₁ with ⟨old₁, frame₁⟩ | ⟨rfl, rfl, frame₁⟩ <;>
      rcases Borrower.mem_lend fresh loan₂ with ⟨old₂, frame₂⟩ | ⟨rfl, rfl, frame₂⟩
    · rw [frame₁, frame₂] at same
      exact sound.unique borrower old₁ writes old₂ same
    · rw [frame₁, frame₂] at same
      obtain ⟨equal, reads⟩ := agrees a₁ t₁ old₁ same.symm
      exact absurd (equal ▸ writes) reads
    · rw [frame₁, frame₂] at same
      exact absurd writes (agrees a₂ t₂ old₂ same).2
    · rfl

end Lend

section

variable {a : α} {t : τ} {rest : List (α × τ)} (sound : Sound P pool home borrowers)
  (borrower : borrowers k = some b) (loans : b.loans.Perm ((a, t) :: rest))

include sound borrower loans

theorem giveUp (writes : P.Writes (P.right t)) :
    Sound P pool home (update borrowers k (some
      { b with rights := update b.rights (b.frame a) P.closed, loans := rest })) := by
  have old : ∀ {a' t'}, (a', t') ∈ rest → (a', t') ∈ b.loans := fun mem =>
    loans.mem_iff.mpr (List.mem_cons_of_mem _ mem)
  have given : (a, t) ∈ b.loans := loans.mem_iff.mpr (List.mem_cons_self ..)
  have once : (a :: rest.map Prod.fst).Nodup :=
    (loans.map Prod.fst).nodup_iff.mp (sound.once borrower)
  -- No other loan of the borrower is of this frame.
  have frame : ∀ {a' t'}, (a', t') ∈ rest → b.frame a' ≠ b.frame a := by
    intro a' t' mem same
    have equal := sound.unique borrower given writes (old mem) same
    exact (List.nodup_cons.mp once).1 (equal ▸ List.mem_map_of_mem mem)
  have rights : ∀ {f}, update b.rights (b.frame a) P.closed f ≠ P.closed →
      f ≠ b.frame a ∧ b.rights f ≠ P.closed := by
    intro f mapped
    by_cases same : f = b.frame a
    · rw [same, update_self] at mapped
      exact absurd rfl mapped
    · rw [update_of_ne same] at mapped
      exact ⟨same, mapped⟩
  refine sound.put ?_ ?_ ?_ ?_ ?_ (List.nodup_cons.mp once).2 ?_
  · intro a' t' loan
    obtain ⟨inPool, right⟩ := sound.lent borrower (old loan)
    exact ⟨inPool, (update_of_ne (frame loan) _ _).trans right⟩
  · intro a' t' loan
    have own := sound.exclusive borrower (old loan)
    exact own
  · intro k' b' a' t' ne borrower' loan isExclusive
    by_contra mapped
    exact (rights mapped).2 ((sound.exclusive borrower' loan isExclusive).2 ne.symm borrower)
  · intro a' t' loan
    have own := sound.readOnly borrower (old loan)
    exact own
  · intro f inPool mapped
    obtain ⟨ne, mapped⟩ := rights mapped
    obtain ⟨a', t', loan, rfl⟩ := sound.mapped borrower inPool mapped
    rcases List.mem_cons.mp (loans.mem_iff.mp loan) with same | mem
    · cases same
      exact absurd rfl ne
    · exact ⟨a', t', mem, rfl⟩
  · intro a₁ t₁ a₂ t₂ loan₁ writes loan₂
    have own := sound.unique borrower (old loan₁) writes (old loan₂)
    exact own

theorem giveBack (isExclusive : P.exclusive t) (writes : P.Writes (P.right t)) (right : ρ) :
    Sound P pool (update home (b.frame a) right) (update borrowers k (some
      { b with rights := update b.rights (b.frame a) P.closed, loans := rest })) := by
  have given : (a, t) ∈ b.loans := loans.mem_iff.mpr (List.mem_cons_self ..)
  refine (sound.giveUp borrower loans writes).open_frame right fun {k' b'} borrower' => ?_
  rcases update_some_cases borrower' with ⟨rfl, rfl⟩ | ⟨other, borrower'⟩
  · exact update_self ..
  · exact (sound.exclusive borrower given isExclusive).2 other borrower'

end

end Sound

end Lending
