import Mathlib.Data.List.ReduceOption
import Mathlib.Tactic.Common

/-!
# Reorder buffers

A reorder buffer hands out slots in order, has them filled in any order, and releases what fills
the slots in slot order. What can be released is its longest filled prefix, `filledPrefix`. Filling
a slot behind the first gap releases nothing (`filledPrefix_set_behind`), and whatever has been
released already stays a prefix (`filledPrefix_of_take`).
-/

namespace ReorderBuffer

variable {α : Type*} {a : α} {o : Option α} {l : List (Option α)} {m : List α} {i k : Nat}

/-- The contents of the slots before the first empty one. -/
def filledPrefix : List (Option α) → List α
  | some a :: l => a :: filledPrefix l
  | _ => []

@[simp] theorem filledPrefix_nil : filledPrefix ([] : List (Option α)) = [] := rfl

@[simp] theorem filledPrefix_none_cons : filledPrefix (none :: l) = [] := rfl

@[simp] theorem filledPrefix_some_cons : filledPrefix (some a :: l) = a :: filledPrefix l := rfl

@[simp] theorem filledPrefix_map_some_append :
    filledPrefix (m.map some ++ l) = m ++ filledPrefix l := by
  induction m with
  | nil => rfl
  | cons a m ih => rw [List.map_cons, List.cons_append, filledPrefix_some_cons, ih,
      List.cons_append]

@[simp] theorem filledPrefix_append_none : filledPrefix (l ++ [none]) = filledPrefix l := by
  induction l with
  | nil => rfl
  | cons o l ih => cases o <;> simp [ih]

theorem filledPrefix_eq_nil (h : l.head? = some none) : filledPrefix l = [] := by
  cases l with
  | nil => rfl
  | cons o l => cases o <;> simp_all

theorem length_filledPrefix_le : (filledPrefix l).length ≤ l.length := by
  induction l with
  | nil => simp
  | cons o l ih => cases o <;> simp [ih]

/-- The slots of the prefix hold what it lists. -/
theorem take_filledPrefix : l.take (filledPrefix l).length = (filledPrefix l).map some := by
  induction l with
  | nil => rfl
  | cons o l ih => cases o <;> simp [ih]

/-- The slot after the prefix, if there is one, is empty. -/
theorem filledPrefix_gap (h : (filledPrefix l).length < l.length) :
    l[(filledPrefix l).length]? = some none := by
  induction l with
  | nil => simp at h
  | cons o l ih =>
    cases o with
    | none => rfl
    | some a =>
      simp only [filledPrefix_some_cons, List.length_cons, Nat.add_lt_add_iff_right] at h
      simpa using ih h

theorem filled_of_lt (h : i < (filledPrefix l).length) : ∃ a, l[i]? = some (some a) := by
  have htake : (l.take (filledPrefix l).length)[i]? = l[i]? := List.getElem?_take_of_lt h
  rw [take_filledPrefix] at htake
  exact ⟨(filledPrefix l)[i], by rw [← htake]; simp [h]⟩

theorem getElem?_of_filledPrefix (h : (filledPrefix l)[i]? = some a) : l[i]? = some (some a) := by
  have htake : (l.take (filledPrefix l).length)[i]? = l[i]? :=
    List.getElem?_take_of_lt (List.getElem?_eq_some_iff.mp h).1
  rw [← htake, take_filledPrefix, List.getElem?_map, h, Option.map_some]

/-- The prefix reaches up to the first empty slot. -/
theorem length_filledPrefix_le_of_gap (h : l[i]? = some none) : (filledPrefix l).length ≤ i := by
  by_contra hlt
  obtain ⟨a, ha⟩ := filled_of_lt (l := l) (by omega : i < (filledPrefix l).length)
  simp [h] at ha

/-- What is released comes from a slot with no empty one before it. -/
theorem mem_filledPrefix_iff :
    a ∈ filledPrefix l ↔ ∃ i : Nat, l[i]? = some (some a) ∧ none ∉ l.take i := by
  constructor
  · intro hmem
    obtain ⟨i, hi⟩ := List.mem_iff_getElem?.mp hmem
    refine ⟨i, getElem?_of_filledPrefix hi, fun hempty => ?_⟩
    have hle : i ≤ (filledPrefix l).length := Nat.le_of_lt (List.getElem?_eq_some_iff.mp hi).1
    have hfilled : none ∈ (filledPrefix l).map some := by
      rw [← take_filledPrefix]
      exact List.take_subset_take_left l hle hempty
    simp at hfilled
  · rintro ⟨i, hi, hbefore⟩
    have hlt : i < (filledPrefix l).length := by
      by_contra hge
      have hlength := (List.getElem?_eq_some_iff.mp hi).1
      have hgap := filledPrefix_gap (l := l) (by omega)
      rcases Nat.lt_or_eq_of_le (Nat.not_lt.mp hge) with hlt | heq
      · refine hbefore (List.mem_iff_getElem?.mpr ⟨(filledPrefix l).length, ?_⟩)
        rw [List.getElem?_take_of_lt hlt, hgap]
      · rw [heq, hi] at hgap
        exact Option.some_ne_none a (Option.some.inj hgap)
    have hfilled : (l.take (filledPrefix l).length)[i]? = some (some a) := by
      rw [List.getElem?_take_of_lt hlt, hi]
    rw [take_filledPrefix] at hfilled
    exact List.mem_of_getElem? (by simpa using hfilled)

/-- The slots in front of `k` being filled with `m`, the prefix goes on behind them. -/
theorem filledPrefix_of_take (h : l.take k = m.map some) :
    filledPrefix l = m ++ filledPrefix (l.drop k) := by
  conv_lhs => rw [← List.take_append_drop k l, h]
  exact filledPrefix_map_some_append

/-- Filling a slot that is not the first empty one does not lengthen the prefix. -/
theorem filledPrefix_set_behind (hempty : l[i]? = some none) (hne : i ≠ (filledPrefix l).length) :
    filledPrefix (l.set i o) = filledPrefix l := by
  have hlt : (filledPrefix l).length < i :=
    Nat.lt_of_le_of_ne (length_filledPrefix_le_of_gap hempty) (Ne.symm hne)
  have hi : i < l.length := (List.getElem?_eq_some_iff.mp hempty).1
  have htake : (l.set i o).take (filledPrefix l).length = (filledPrefix l).map some := by
    rw [List.take_set_of_le (Nat.le_of_lt hlt), take_filledPrefix]
  have hdrop : filledPrefix ((l.set i o).drop (filledPrefix l).length) = [] := by
    apply filledPrefix_eq_nil
    rw [List.head?_drop, List.getElem?_set_ne hne]
    exact filledPrefix_gap (by omega)
  rw [filledPrefix_of_take htake, hdrop, List.append_nil]

/-! ### Filling a slot -/

/-- Writing to any slot, also to one that has been filled before, leaves a prefix at least as long. -/
theorem filledPrefix_set :
    filledPrefix (l.set i (some a)) = (filledPrefix l).set i a ++
      filledPrefix ((l.set i (some a)).drop (filledPrefix l).length) := by
  apply filledPrefix_of_take
  rw [List.take_set, take_filledPrefix, List.map_set]

/-- Filling an empty slot adds its content to what the buffer holds. -/
theorem reduceOption_set_perm (hempty : l[i]? = some none) :
    (l.set i (some a)).reduceOption.Perm (a :: l.reduceOption) := by
  obtain ⟨hi, hget⟩ := List.getElem?_eq_some_iff.mp hempty
  have hsplit : l = l.take i ++ none :: l.drop (i + 1) := by
    rw [← hget, List.getElem_cons_drop, List.take_append_drop]
  rw [List.set_eq_take_append_cons_drop, if_pos hi]
  conv_rhs => rw [hsplit]
  simp only [List.reduceOption_append, List.reduceOption_cons_of_some,
    List.reduceOption_cons_of_none]
  exact List.perm_middle

/-- Emptying a slot takes its content away. -/
theorem reduceOption_perm_of_filled (hfilled : l[i]? = some (some a)) :
    l.reduceOption.Perm (a :: (l.set i none).reduceOption) := by
  obtain ⟨hi, hget⟩ := List.getElem?_eq_some_iff.mp hfilled
  have hperm := reduceOption_set_perm (a := a) (List.getElem?_set_self (a := (none : Option α)) hi)
  rwa [List.set_set, ← hget, List.set_getElem_self] at hperm

theorem reduceOption_filter_isSome : (l.filter (·.isSome)).reduceOption = l.reduceOption := by
  induction l with
  | nil => rfl
  | cons o l ih =>
    cases o with
    | none => exact ih
    | some a =>
      rw [List.filter_cons_of_pos rfl, List.reduceOption_cons_of_some,
        List.reduceOption_cons_of_some, ih]

theorem reduceOption_set_none (hempty : l[i]? = some none) : l.set i none = l := by
  obtain ⟨hi, hget⟩ := List.getElem?_eq_some_iff.mp hempty
  rw [← hget, List.set_getElem_self]

end ReorderBuffer
