import Mathlib.Data.List.Induction
import Mathlib.Tactic.Common
import Teide.Lib.Prefixes

/-!
# Semaphore operations in order

A queue executes operations of a type `ω`, each of which waits on some semaphores and then signals
some; `waits` and `signals` say which. A wait takes away one earlier signal, so the operations are
`Balanced` if no wait is without one.
-/

namespace Semaphores

open Prefixes

variable {ω σ : Type*} [DecidableEq σ]

/-- How often the operations have the semaphore in their lists `f`. -/
def total (f : ω → List σ) (ops : List ω) (x : σ) : Nat := (ops.flatMap f).count x

section total

variable {f : ω → List σ} {ops : List ω} {x : σ}

@[simp] theorem total_nil : total f [] x = 0 := rfl

@[simp] theorem total_append (ops new : List ω) :
    total f (ops ++ new) x = total f ops x + total f new x := by
  simp [total, List.count_append]

@[simp] theorem total_cons (op : ω) (ops : List ω) :
    total f (op :: ops) x = (f op).count x + total f ops x := by
  simp [total, List.count_append]

theorem total_map {ν : Type*} (g : ν → ω) (items : List ν) :
    total f (items.map g) x = total (f ∘ g) items x := by
  unfold total
  rw [List.flatMap_map]
  rfl

theorem total_eq_zero (h : ∀ op ∈ ops, x ∉ f op) : total f ops x = 0 := by
  refine List.count_eq_zero.mpr fun hmem => ?_
  obtain ⟨op, hop, hx⟩ := List.mem_flatMap.mp hmem
  exact h op hop hx

/-- Operations that all have one entry, and the same. -/
theorem total_of_singletons (h : ∀ op ∈ ops, f op = [x]) : total f ops x = ops.length := by
  induction ops with
  | nil => rfl
  | cons op ops ih =>
    rw [total_cons, h op List.mem_cons_self, ih fun op hop => h op (List.mem_cons_of_mem _ hop),
      List.count_singleton_self, List.length_cons, Nat.add_comm]

end total

variable (waits signals : ω → List σ)

/-- At every operation, no more waits than signals before it. -/
def Balanced : List ω → Prop :=
  EachAfter fun before op => ∀ x, total waits (before ++ [op]) x ≤ total signals before x

variable {waits signals} {ops new : List ω} {x : σ}

theorem balanced_concat (op : ω) : Balanced waits signals (ops ++ [op]) ↔
    Balanced waits signals ops ∧
      ∀ x, total waits ops x + (waits op).count x ≤ total signals ops x := by
  unfold Balanced
  rw [eachAfter_concat]
  simp only [total_append, total_cons, total_nil, Nat.add_zero]

theorem Balanced.total_le (h : Balanced waits signals ops) (x : σ) :
    total waits ops x ≤ total signals ops x := by
  rcases List.eq_nil_or_concat ops with rfl | ⟨ops, op, rfl⟩
  · exact Nat.le_refl 0
  · rw [List.concat_eq_append] at h ⊢
    have hop := ((balanced_concat op).mp h).2 x
    simp only [total_append, total_cons, total_nil]
    omega

theorem balanced_concat_of_no_wait {op : ω} (hop : waits op = []) :
    Balanced waits signals (ops ++ [op]) ↔ Balanced waits signals ops := by
  rw [balanced_concat, hop]
  exact and_iff_left_of_imp fun h => h.total_le

/-- Operations that wait once each on one semaphore and signal nothing. -/
theorem balanced_append_waits (hwaits : ∀ op ∈ new, waits op = [x])
    (hsignals : ∀ op ∈ new, signals op = []) :
    Balanced waits signals (ops ++ new) ↔
      Balanced waits signals ops ∧ total waits ops x + new.length ≤ total signals ops x := by
  induction new using List.reverseRecOn with
  | nil =>
    rw [List.append_nil, List.length_nil, Nat.add_zero]
    exact ⟨fun h => ⟨h, h.total_le x⟩, And.left⟩
  | append_singleton new op ih =>
    have hnew : ∀ op ∈ new, waits op = [x] := fun op hop => hwaits op (List.mem_append_left _ hop)
    have hnew' : ∀ op ∈ new, signals op = [] := fun op hop =>
      hsignals op (List.mem_append_left _ hop)
    have hop : waits op = [x] := hwaits op (List.mem_append_right _ (List.mem_singleton_self op))
    have hzero (y : σ) : total signals new y = 0 :=
      total_eq_zero fun op hop => by simp [hnew' op hop]
    rw [← List.append_assoc, balanced_concat, ih hnew hnew', List.length_append,
      List.length_singleton]
    have htotal : total waits new x = new.length := total_of_singletons hnew
    constructor
    · rintro ⟨⟨hops, -⟩, hle⟩
      have hx := hle x
      simp only [total_append, hzero, htotal, hop, List.count_singleton_self] at hx
      exact ⟨hops, by omega⟩
    · rintro ⟨hops, hle⟩
      refine ⟨⟨hops, by omega⟩, fun y => ?_⟩
      simp only [total_append, hzero, hop]
      by_cases hy : y = x
      · subst hy
        rw [htotal, List.count_singleton_self]
        omega
      · have hother : total waits new y = 0 :=
          total_eq_zero fun op hop => by simp [hnew op hop, hy]
        rw [hother, List.count_eq_zero.mpr (by simpa using hy)]
        exact hops.total_le y

end Semaphores
