import Mathlib.Data.List.Perm.Subperm
import Teide.GpuExecutor.Invariant

/-!
# Schedule order, and nothing lost

Over any run, the submissions concatenate to the command buffers of the longest filled prefix of
slots, and the completion handlers are conserved: those handed to the queue together with those
still in the array are exactly those the slots were given (`Conserved`). This needs that a handler
that has been moved from is empty (`MovedFromEmpty`), since the array keeps the moved-from handlers
and later calls look at them again.
-/

namespace Teide.GpuExecutor

open ReorderBuffer Runs
open scoped List

variable {χ φ : Type*} {movedFrom : φ → Option φ} {h h' : History χ φ}

/-- A moved-from `OnCompleteFunction` compares equal to `nullptr`. -/
def MovedFromEmpty (movedFrom : φ → Option φ) : Prop := ∀ f, movedFrom f = none

namespace History

variable {i : Nat} {commandBuffer : χ} {func : Option φ}

/-- No handler is lost or duplicated, and those of submitted slots have all been handed over. -/
structure Conserved (h : History χ φ) : Prop where
  moved_out : (h.executor.completionHandlers.take
    h.executor.numSubmittedCommandBuffers).reduceOption = []
  perm : (h.handedOver ++ h.executor.completionHandlers.reduceOption).Perm h.handlers.reduceOption

theorem conserved_init : ({} : History χ φ).Conserved := by
  constructor <;> simp [handedOver, handlers]

theorem Conserved.addSlot (hc : h.Consistent) (hv : h.Conserved) :
    Conserved { h with
      executor := h.executor.addCommandBufferSlot.2
      given := h.given ++ [none] } := by
  constructor
  · simp only [addCommandBufferSlot]
    rw [List.take_append_of_le_length (hc.handlers_length ▸ hc.numSubmitted_le_length)]
    exact hv.moved_out
  · simpa [addCommandBufferSlot, handlers, handedOver, List.reduceOption_append] using hv.perm

theorem Conserved.fill (hc : h.Consistent) (hv : h.Conserved) (hi : h.given[i]? = some none) :
    (h.fill i commandBuffer func).Conserved := by
  have hempty := hc.unfilled i hi
  constructor
  · rw [fill_completionHandlers, fill_numSubmitted, List.take_set_of_le (numSubmitted_le hc hi)]
    exact hv.moved_out
  · rw [fill_completionHandlers, fill_handlers]
    cases func with
    | none =>
      rw [reduceOption_set_none hempty, reduceOption_set_none (handlers_empty hi)]
      exact hv.perm
    | some f =>
      calc h.handedOver ++ (h.executor.completionHandlers.set i (some f)).reduceOption
        _ ~ h.handedOver ++ f :: h.executor.completionHandlers.reduceOption :=
            (reduceOption_set_perm hempty).append_left _
        _ ~ f :: (h.handedOver ++ h.executor.completionHandlers.reduceOption) := List.perm_middle
        _ ~ f :: h.handlers.reduceOption := hv.perm.cons f
        _ ~ (h.handlers.set i (some f)).reduceOption :=
            (reduceOption_set_perm (handlers_empty hi)).symm

theorem reduceOption_map_bind_movedFrom (hmoved : MovedFromEmpty movedFrom)
    (l : List (Option φ)) : (l.map (·.bind movedFrom)).reduceOption = [] := by
  induction l with
  | nil => rfl
  | cons o l ih =>
    cases o with
    | none => simpa using ih
    | some f => simpa [hmoved f] using ih

/-- Submitting hands over every handler from the first unsubmitted slot on. -/
theorem Conserved.submit (hmoved : MovedFromEmpty movedFrom) (hv : h.Conserved)
    (release : List χ) : (h.submit movedFrom release).Conserved := by
  have hleft : (h.submit movedFrom release).executor.completionHandlers.reduceOption = [] := by
    simp only [History.submit, List.reduceOption_append, hv.moved_out,
      reduceOption_map_bind_movedFrom hmoved, List.append_nil]
  constructor
  · have hsplit := congrArg List.reduceOption (List.take_append_drop
      (h.submit movedFrom release).executor.numSubmittedCommandBuffers
      (h.submit movedFrom release).executor.completionHandlers)
    rw [List.reduceOption_append, hleft] at hsplit
    exact (List.append_eq_nil_iff.mp hsplit).1
  · have hall : h.executor.completionHandlers.reduceOption =
        (h.executor.completionHandlers.drop h.executor.numSubmittedCommandBuffers).reduceOption := by
      conv_lhs => rw [← List.take_append_drop h.executor.numSubmittedCommandBuffers
        h.executor.completionHandlers, List.reduceOption_append, hv.moved_out, List.nil_append]
    rw [hleft, List.append_nil, submit_handedOver, submit_handlers, ← hall]
    exact hv.perm

theorem Conserved.step (hmoved : MovedFromEmpty movedFrom) {c : Call χ φ} (hc : h.Consistent)
    (hv : h.Conserved) (hstep : h.step movedFrom c = some h') : h'.Conserved := by
  rcases step_cases hc hstep with ⟨rfl, rfl⟩ | ⟨index, commandBuffer, func, rfl, hi, hcase⟩
  · exact hv.addSlot hc
  · rcases hcase with ⟨_, rfl⟩ | ⟨_, rfl⟩
    · exact hv.fill hc hi
    · exact (hv.fill hc hi).submit hmoved _

theorem Conserved.of_reachable (hmoved : MovedFromEmpty movedFrom)
    (hr : Reachable (History.step movedFrom) {} h) : h.Conserved := by
  refine (hr.invariant (I := fun h => h.Consistent ∧ h.Conserved) ?_
    ⟨consistent_init, conserved_init⟩).2
  rintro s c t ⟨hc, hv⟩ hstep
  exact ⟨hc.step hstep, hv.step hmoved hc hstep⟩

/-! ### The order of submission -/

theorem submitted_eq_take (hc : h.Consistent) :
    h.submitted.map some = h.commandBuffers.take h.executor.numSubmittedCommandBuffers := by
  rw [hc.count, take_filledPrefix, hc.submitted_eq]

/-- All slots being filled, the submitted prefix is everything. -/
theorem numSubmitted_of_all_filled (hc : h.Consistent)
    (hall : ∀ i < h.given.length, h.given[i]? ≠ some none) :
    h.executor.numSubmittedCommandBuffers = h.given.length := by
  refine Nat.le_antisymm hc.numSubmitted_le_length ?_
  by_contra hlt
  rw [hc.count] at hlt
  have hgap := filledPrefix_gap (l := h.commandBuffers) (by
    rw [length_commandBuffers]
    omega)
  exact hall _ (by omega) (given_empty_of_commandBuffers hgap)

end History

/-- **Schedule order is kept and nothing is lost.** At every reachable state the submissions
concatenate to the command buffers of the slots `0 .. numSubmittedCommandBuffers - 1` in slot order,
that count is the length of the longest filled prefix of slots, and no completion handler has been
handed over more often than it was given. Once all slots are filled, every command buffer has been
submitted in slot order and every handler has been handed over exactly once. -/
theorem schedule_order_kept (hmoved : MovedFromEmpty movedFrom)
    (hr : Reachable (History.step movedFrom) {} h) :
    h.executor.readyCommandBuffers = h.commandBuffers ∧
      h.submitted.map some = h.commandBuffers.take h.executor.numSubmittedCommandBuffers ∧
      (∀ i < h.executor.numSubmittedCommandBuffers, ∃ cb, h.commandBuffers[i]? = some (some cb)) ∧
      (h.executor.numSubmittedCommandBuffers < h.given.length →
        h.commandBuffers[h.executor.numSubmittedCommandBuffers]? = some none) ∧
      h.handedOver <+~ h.handlers.reduceOption ∧
      ((∀ i < h.given.length, h.given[i]? ≠ some none) →
        h.submitted.map some = h.commandBuffers ∧ h.handedOver ~ h.handlers.reduceOption) := by
  have hc := History.Consistent.of_reachable hr
  have hv := History.Conserved.of_reachable hmoved hr
  have hsub : h.handedOver <+~ h.handlers.reduceOption :=
    ((List.sublist_append_left _ _).subperm).trans hv.perm.subperm
  refine ⟨hc.ready, History.submitted_eq_take hc, ?_, ?_, hsub, fun hall => ?_⟩
  · intro i hlt
    exact filled_of_lt (hc.count ▸ hlt)
  · intro hlt
    rw [hc.count] at hlt ⊢
    exact filledPrefix_gap (by rwa [History.length_commandBuffers])
  · have hn := History.numSubmitted_of_all_filled hc hall
    constructor
    · rw [History.submitted_eq_take hc, hn, ← History.length_commandBuffers, List.take_length]
    · have hmovedOut := hv.moved_out
      rw [hn, ← hc.handlers_length, List.take_length] at hmovedOut
      simpa [hmovedOut] using hv.perm

theorem schedule_order_kept_outOfOrder :
    ∃ h : History Nat Nat, Reachable (History.step fun _ => none) {} h ∧
      h.commandBuffers = [some 10, some 11, some 12] ∧
      h.submitted.map some = h.commandBuffers ∧ h.handedOver ~ h.handlers.reduceOption :=
  ⟨_, ⟨History.outOfOrderCalls, rfl⟩, rfl,
    (schedule_order_kept (fun _ => rfl) ⟨History.outOfOrderCalls, rfl⟩).2.2.2.2.2 (by decide)⟩

end Teide.GpuExecutor
