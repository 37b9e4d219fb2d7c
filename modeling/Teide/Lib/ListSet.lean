import Mathlib.Data.List.Basic
import Mathlib.Tactic.Common

/-!
# Lists as tables

A table is a list whose entries are addressed by their position: a step looks an entry up, replaces
it, or appends a new one.
-/

namespace ListSet

variable {α : Type*} {l : List α} {i : Nat} {a b : α}

theorem modify_eq_set {f : α → α} (h : l[i]? = some a) : l.modify i f = l.set i (f a) := by
  obtain ⟨hlt, rfl⟩ := List.getElem?_eq_some_iff.mp h
  rw [List.modify_eq_set_getElem?, List.getElem?_eq_getElem hlt]
  rfl

/-- Erasing an entry leaves the others. -/
theorem eq_or_mem_eraseIdx (ha : l[i]? = some a) (hb : b ∈ l) : b = a ∨ b ∈ l.eraseIdx i := by
  obtain ⟨k, hk⟩ := List.mem_iff_getElem?.mp hb
  by_cases hki : k = i
  · subst hki
    exact .inl (Option.some.inj (hk.symm.trans ha))
  · exact .inr (List.mem_eraseIdx_iff_getElem?.mpr ⟨k, hki, hk⟩)

/-- What replacing an entry does to a count, without subtraction. -/
theorem countP_set_add {P : α → Bool} (hb : l[i]? = some b) :
    (l.set i a).countP P + (if P b then 1 else 0) = l.countP P + if P a then 1 else 0 := by
  induction l generalizing i with
  | nil => simp at hb
  | cons c l ih =>
    cases i with
    | zero =>
      obtain rfl : c = b := by simpa using hb
      simp only [List.set_cons_zero, List.countP_cons]
      omega
    | succ i =>
      have ih := ih (i := i) (by simpa using hb)
      simp only [List.set_cons_succ, List.countP_cons]
      omega

/-! ### Columns -/

variable {β : Type*}

/-- What every entry keeps is kept by the table. -/
theorem map_modify_of_eq (f : α → β) (g : α → α) (h : ∀ a, f (g a) = f a) (l : List α) (i : Nat) :
    (l.modify i g).map f = l.map f := by
  apply List.ext_getElem?
  intro j
  rw [List.getElem?_map, List.getElem?_map, List.getElem?_modify]
  cases l[j]? with
  | none => rfl
  | some a =>
    show some (f (if i = j then g a else a)) = some (f a)
    split_ifs
    · rw [h]
    · rfl

theorem map_modify_of_const {f : α → β} {g : α → α} {y : β} (l : List α) (i : Nat)
    (h : ∀ a, f (g a) = y) : (l.modify i g).map f = (l.map f).set i y := by
  refine List.ext_getElem? fun j => ?_
  rw [List.getElem?_map, List.getElem?_modify, List.getElem?_set, List.getElem?_map, List.length_map]
  by_cases hij : i = j
  · subst hij
    by_cases hlt : i < l.length
    · simp [hlt, h]
    · simp [hlt]
  · simp [hij]

theorem map_set_self {f : α → β} (ha : l[i]? = some a) (hf : f b = f a) :
    (l.set i b).map f = l.map f := by
  obtain ⟨hlt, rfl⟩ := List.getElem?_eq_some_iff.mp ha
  have hmap : i < (l.map f).length := by rwa [List.length_map]
  have hself := List.set_getElem_self hmap
  rwa [List.getElem_map, ← hf, ← List.map_set] at hself

end ListSet
