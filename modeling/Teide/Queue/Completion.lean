import Mathlib.Tactic.Common
import Mathlib.Data.List.Nodup
import Teide.Queue.Invariant

/-!
# Completions and fences

What `Consistent` means for a caller of `Submit`: its callback runs at most once and not before the
GPU has finished, and no fence is used for two things at a time.
-/

namespace Teide.Queue

open List Runs

variable {χ κ : Type*} {s t : State χ κ}

/-- Each callback has run at most once, and only after the fence that was passed to `vkQueueSubmit`
with it was signalled. -/
structure CompletesOnce (s : State χ κ) : Prop where
  once : (s.ran.map Prod.fst).Nodup
  not_early : ∀ p ∈ s.ran, ∃ call, s.submits[p.1]? = some call ∧ p.2 = call.callback ∧
    (p.1, call.fence) ∈ s.finished

/-- The fences in flight and the unused ones are all different, and the unused ones are ready to be
submitted again. -/
structure FencesApart (s : State χ κ) : Prop where
  distinct : (s.queue.getInFlightFences ++ s.queue.unusedSubmitFences).Nodup
  unsignalled : ∀ f ∈ s.queue.unusedSubmitFences, s.signalled f = false

/-- The last call of `Submit` passed a fence to `vkQueueSubmit` that is unsignalled and was in use
for no other submission in the state `s` before the call. -/
def SubmitsFreshFence (s t : State χ κ) (commands : List χ) (callback : κ) : Prop :=
  ∃ fence, t.submits = s.submits ++ [⟨commands, fence, callback⟩] ∧ t.signalled fence = false ∧
    (∀ n, (n, fence) ∉ s.pending) ∧ fence ∉ s.queue.getInFlightFences

theorem Consistent.completesOnce (hc : Consistent s) : CompletesOnce s where
  once := (nodup_append.mp (hc.accounted.nodup_iff.mpr nodup_range)).1
  not_early := hc.ran_finished

theorem Consistent.fencesApart (hc : Consistent s) : FencesApart s where
  distinct := by
    rw [getInFlightFences_eq]
    exact hc.fences_nodup
  unsignalled := hc.unused_unsignalled

theorem Consistent.submitsFreshFence (hc : Consistent s) {newFence : Fence} {commands : List χ}
    {callback : κ} (h : s.step (.submit newFence commands callback) = some t) :
    SubmitsFreshFence s t commands callback := by
  cases step_of_eq_some hc h with
  | @submit _ fence unused _ _ _ hnodup =>
    have hfresh : fence ∉ s.queue.getInFlightFences := by
      rw [getInFlightFences_eq]
      intro hmem
      exact (nodup_append.mp hnodup).2.2 fence hmem fence mem_cons_self rfl
    refine ⟨fence, rfl, Function.update_self .., ?_, hfresh⟩
    intro n hpending
    have hattached := ((hc.pending_iff _).mp hpending).1
    rw [getInFlightFences_eq] at hfresh
    exact hfresh (mem_map_of_mem hattached)

/-- **Completions are delivered at most once and never early, and no fence is misused.** In every
reachable state, each callback has run at most once and only after the fence of its own submission
was signalled, the fences in flight and the unused ones are pairwise distinct, the unused ones are
unsignalled, and a call of `Submit` passes a fence that is unsignalled and attached to no other
submission. -/
theorem completes_once_and_fences_apart (hr : Reachable State.step {} s) :
    CompletesOnce s ∧ FencesApart s ∧ ∀ newFence commands callback t,
      s.step (.submit newFence commands callback) = some t →
        SubmitsFreshFence s t commands callback := by
  have hc := Consistent.of_reachable hr
  exact ⟨hc.completesOnce, hc.fencesApart, fun _ _ _ _ h => hc.submitsFreshFence h⟩

/-- The first submission finishes while a `Flush` is running and its fence is used again. -/
theorem completes_once_and_fences_apart_reuse :
    ∃ s : State Nat Nat, Reachable State.step {} s ∧ s.ran = [(0, 20)] ∧
      s.queue.unusedSubmitFences = [7] ∧ CompletesOnce s ∧
      ∃ t, s.step (.submit 9 [12] 22) = some t ∧ SubmitsFreshFence s t [12] 22 :=
  have hr : Reachable State.step ({} : State Nat Nat) _ :=
    ⟨[.submit 7 [10] 20, .submit 8 [11] 21, .flushBegin, .signal 0, .flushNext, .flushNext,
      .flushEnd], rfl⟩
  have h := completes_once_and_fences_apart hr
  ⟨_, hr, rfl, rfl, h.1, _, rfl, h.2.2 _ _ _ _ rfl⟩

end Teide.Queue
