import Mathlib.Data.List.Induction
import Mathlib.Tactic.Common

/-!
# What holds of every entry of a history

A history is a list that grows at its end, and `EachAfter R` says of each entry that `R` holds of it and
of those before.
-/

namespace Prefixes

variable {ω : Type*} {R : List ω → ω → Prop} {ops new : List ω}

def EachAfter (R : List ω → ω → Prop) (ops : List ω) : Prop :=
  ∀ before op after, ops = before ++ op :: after → R before op

theorem eachAfter_nil : EachAfter R [] := by
  intro before op after h
  exact absurd h.symm (List.append_ne_nil_of_right_ne_nil before (List.cons_ne_nil op after))

/-- What a history says of an entry does not change when it goes on. -/
theorem EachAfter.left (h : EachAfter R (ops ++ new)) : EachAfter R ops := by
  intro before op after hops
  refine h before op (after ++ new) ?_
  rw [hops, List.append_assoc, List.cons_append]

theorem eachAfter_concat (op : ω) : EachAfter R (ops ++ [op]) ↔ EachAfter R ops ∧ R ops op := by
  constructor
  · intro h
    exact ⟨h.left, h ops op [] rfl⟩
  · rintro ⟨hops, hop⟩ before op' after h
    rcases List.eq_nil_or_concat after with rfl | ⟨after, last, rfl⟩
    · obtain ⟨rfl, hlast⟩ := List.append_inj' h rfl
      obtain rfl : op = op' := List.singleton_inj.mp hlast
      exact hop
    · rw [List.concat_eq_append, ← List.cons_append, ← List.append_assoc] at h
      exact hops before op' after (List.append_inj' h rfl).1

/-- Entries that are fine anywhere. -/
theorem EachAfter.append (h : EachAfter R ops) (hnew : ∀ op ∈ new, ∀ before, R before op) :
    EachAfter R (ops ++ new) := by
  induction new using List.reverseRecOn with
  | nil => exact (List.append_nil ops).symm ▸ h
  | append_singleton new op ih =>
    rw [← List.append_assoc, eachAfter_concat]
    refine ⟨ih fun op hop => hnew op (List.mem_append_left _ hop), ?_⟩
    exact hnew op (List.mem_append_right _ (List.mem_singleton_self op)) _

end Prefixes
