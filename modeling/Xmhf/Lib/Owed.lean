import Mathlib.Logic.Basic

/-!
# Requests and their service

In a log of events, the newest first, some events ask for a service and some give it. A
service is owed as long as none follows the last event that asks for it. Where none is owed,
every event that asks is followed by one that serves.
-/

namespace Owed

variable {ε : Type*} {asks serves : ε → Bool} {e : ε} {log newer older : List ε}

def Owes (asks serves : ε → Bool) : List ε → Prop
  | [] => False
  | e :: log => asks e = true ∨ serves e = false ∧ Owes asks serves log

theorem owes_asks (asked : asks e = true) : Owes asks serves (e :: log) := .inl asked

theorem Owes.before (silent : asks e = false) (owes : Owes asks serves (e :: log)) :
    Owes asks serves log := by
  rcases owes with asked | ⟨-, owes⟩
  · exact absurd (silent.symm.trans asked) Bool.false_ne_true
  · exact owes

theorem served_or_owes (split : log = newer ++ e :: older) (asked : asks e = true) :
    (∃ e' ∈ newer, serves e' = true) ∨ Owes asks serves log := by
  subst split
  induction newer with
  | nil => exact .inr (owes_asks asked)
  | cons first newer ih =>
    rcases ih with ⟨e', member, served⟩ | owes
    · exact .inl ⟨e', List.mem_cons_of_mem _ member, served⟩
    · cases served : serves first with
      | true => exact .inl ⟨first, List.mem_cons_self, served⟩
      | false => exact .inr (.inr ⟨served, owes⟩)

theorem served_of_not_owes (settled : ¬ Owes asks serves log) (split : log = newer ++ e :: older)
    (asked : asks e = true) : ∃ e' ∈ newer, serves e' = true :=
  (served_or_owes split asked).resolve_right settled

end Owed
