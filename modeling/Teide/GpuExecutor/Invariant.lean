import Mathlib.Tactic.Common
import Mathlib.Data.List.Basic
import Teide.GpuExecutor.Basic

/-!
# What every run of the executor keeps

`Consistent`: the arrays are what the slots were filled with, the submitted count is the length of
the longest filled prefix, and the submissions concatenate to it. `release_behind` and `release_front`
say what a call does, depending on whether it fills the first unsubmitted slot; `step_cases` lists all
that a step can do.
-/

namespace Teide.GpuExecutor

open ReorderBuffer Runs

variable {χ φ : Type*} {movedFrom : φ → Option φ} {h h' : History χ φ}

namespace History

structure Consistent (h : History χ φ) : Prop where
  ready : h.executor.readyCommandBuffers = h.commandBuffers
  handlers_length : h.executor.completionHandlers.length = h.given.length
  /-- an unfilled slot has no handler yet -/
  unfilled : ∀ i : Nat, h.given[i]? = some none → h.executor.completionHandlers[i]? = some none
  count : h.executor.numSubmittedCommandBuffers = (filledPrefix h.commandBuffers).length
  submitted_eq : h.submitted = filledPrefix h.commandBuffers
  /-- a submission holds the command buffers of its slots, which lie before the submitted count -/
  slots_filled : ∀ sub ∈ h.submissions,
    sub.firstSlot + sub.commandBuffers.length ≤ h.executor.numSubmittedCommandBuffers ∧
      sub.commandBuffers.map some = (sub.slots h.given).map (Option.map Prod.fst)

/-- The state after a slot has been filled, before anything is submitted. -/
def fill (h : History χ φ) (i : Nat) (commandBuffer : χ) (func : Option φ) : History χ φ :=
  { h with
    executor := { h.executor with
      readyCommandBuffers := h.executor.readyCommandBuffers.set i (some commandBuffer)
      completionHandlers := h.executor.completionHandlers.set i func }
    given := h.given.set i (some (commandBuffer, func)) }

/-- The state after the command buffers `release` have been submitted. -/
def submit (movedFrom : φ → Option φ) (h : History χ φ) (release : List χ) : History χ φ :=
  let n := h.executor.numSubmittedCommandBuffers
  { h with
    executor := { h.executor with
      completionHandlers := h.executor.completionHandlers.take n ++
        (h.executor.completionHandlers.drop n).map (·.bind movedFrom)
      numSubmittedCommandBuffers := n + release.length }
    submissions := h.submissions ++
      [⟨⟨release, (h.executor.completionHandlers.drop n).reduceOption⟩, n⟩] }

variable {i : Nat} {commandBuffer : χ} {func : Option φ}

@[simp] theorem fill_given :
    (h.fill i commandBuffer func).given = h.given.set i (some (commandBuffer, func)) := rfl

@[simp] theorem fill_submissions :
    (h.fill i commandBuffer func).submissions = h.submissions := rfl

@[simp] theorem fill_numSubmitted :
    (h.fill i commandBuffer func).executor.numSubmittedCommandBuffers =
      h.executor.numSubmittedCommandBuffers := rfl

@[simp] theorem fill_completionHandlers :
    (h.fill i commandBuffer func).executor.completionHandlers =
      h.executor.completionHandlers.set i func := rfl

@[simp] theorem fill_commandBuffers :
    (h.fill i commandBuffer func).commandBuffers = h.commandBuffers.set i (some commandBuffer) := by
  simp [commandBuffers, List.map_set]

@[simp] theorem fill_handlers :
    (h.fill i commandBuffer func).handlers = h.handlers.set i func := by
  simp [handlers, List.map_set]

@[simp] theorem submit_given {release : List χ} :
    (h.submit movedFrom release).given = h.given := rfl

@[simp] theorem submit_commandBuffers {release : List χ} :
    (h.submit movedFrom release).commandBuffers = h.commandBuffers := rfl

@[simp] theorem submit_handlers {release : List χ} :
    (h.submit movedFrom release).handlers = h.handlers := rfl

@[simp] theorem submit_numSubmitted {release : List χ} :
    (h.submit movedFrom release).executor.numSubmittedCommandBuffers =
      h.executor.numSubmittedCommandBuffers + release.length := rfl

@[simp] theorem submit_submitted {release : List χ} :
    (h.submit movedFrom release).submitted = h.submitted ++ release := by
  simp [submitted, submit]

@[simp] theorem submit_handedOver {release : List χ} :
    (h.submit movedFrom release).handedOver = h.handedOver ++
      (h.executor.completionHandlers.drop
        h.executor.numSubmittedCommandBuffers).reduceOption := by
  simp [handedOver, submit]

@[simp] theorem length_commandBuffers : h.commandBuffers.length = h.given.length := by
  simp [commandBuffers]

@[simp] theorem length_handlers : h.handlers.length = h.given.length := by
  simp [handlers]

theorem commandBuffers_empty (hi : h.given[i]? = some none) :
    h.commandBuffers[i]? = some none := by
  simp [commandBuffers, hi]

theorem handlers_empty (hi : h.given[i]? = some none) : h.handlers[i]? = some none := by
  simp [handlers, hi]

theorem given_empty_of_commandBuffers (hi : h.commandBuffers[i]? = some none) :
    h.given[i]? = some none := by
  simp only [commandBuffers, List.getElem?_map, Option.map_eq_some_iff] at hi
  obtain ⟨g, hg, hnone⟩ := hi
  rw [hg, Option.map_eq_none_iff.mp hnone]

/-- What the call with a given slot submits: the filled prefix from the first unsubmitted slot on. -/
def release (h : History χ φ) (i : Nat) (commandBuffer : χ) : List χ :=
  filledPrefix ((h.commandBuffers.set i (some commandBuffer)).drop
    h.executor.numSubmittedCommandBuffers)

theorem submitReady_of_nil {ex : GpuExecutor χ φ}
    (hnil : filledPrefix (ex.readyCommandBuffers.drop ex.numSubmittedCommandBuffers) = []) :
    ex.submitReady movedFrom = (none, ex) := by
  simp only [submitReady, hnil, List.isEmpty_nil, if_true]

theorem submitReady_of_ne_nil {ex : GpuExecutor χ φ}
    (hne : filledPrefix (ex.readyCommandBuffers.drop ex.numSubmittedCommandBuffers) ≠ []) :
    ex.submitReady movedFrom =
      (some ⟨filledPrefix (ex.readyCommandBuffers.drop ex.numSubmittedCommandBuffers),
          (ex.completionHandlers.drop ex.numSubmittedCommandBuffers).reduceOption⟩,
        { ex with
          completionHandlers := ex.completionHandlers.take ex.numSubmittedCommandBuffers ++
            (ex.completionHandlers.drop ex.numSubmittedCommandBuffers).map (·.bind movedFrom)
          numSubmittedCommandBuffers := ex.numSubmittedCommandBuffers +
            (filledPrefix (ex.readyCommandBuffers.drop ex.numSubmittedCommandBuffers)).length }) := by
  simp only [submitReady, List.isEmpty_iff, if_neg hne]

/-- What a call fills and what it submits, in any state. -/
theorem submitCommandBuffer_spec {ex ex' : GpuExecutor χ φ} {index : UInt32} {cb : Option χ}
    {func : Option φ} {bundle : Option (Bundle χ φ)}
    (hsubmit : ex.submitCommandBuffer movedFrom index cb func = some (bundle, ex')) :
    ex'.readyCommandBuffers = ex.readyCommandBuffers.set index.toNat cb ∧
      bundle.toList.flatMap (·.commandBuffers) =
        filledPrefix (ex'.readyCommandBuffers.drop ex.numSubmittedCommandBuffers) := by
  obtain ⟨-, hsubmit⟩ := Option.ite_none_right_eq_some.mp hsubmit
  have hready := Option.some.inj hsubmit
  by_cases hnil : filledPrefix ((ex.readyCommandBuffers.set index.toNat cb).drop
      ex.numSubmittedCommandBuffers) = []
  · rw [submitReady_of_nil hnil] at hready
    obtain ⟨rfl, rfl⟩ := Prod.ext_iff.mp hready
    exact ⟨rfl, hnil.symm⟩
  · rw [submitReady_of_ne_nil hnil] at hready
    obtain ⟨rfl, rfl⟩ := Prod.ext_iff.mp hready
    exact ⟨rfl, List.flatMap_singleton _ _⟩

/-- Everything a step can do. -/
theorem step_cases {c : Call χ φ} (hc : h.Consistent) (hstep : h.step movedFrom c = some h') :
    (c = .addCommandBufferSlot ∧
      h' = { h with
        executor := h.executor.addCommandBufferSlot.2
        given := h.given ++ [none] }) ∨
    ∃ index commandBuffer func, c = .submitCommandBuffer index commandBuffer func ∧
      h.given[index.toNat]? = some none ∧
      ((h.release index.toNat commandBuffer = [] ∧
          h' = h.fill index.toNat commandBuffer func) ∨
        (h.release index.toNat commandBuffer ≠ [] ∧
          h' = (h.fill index.toNat commandBuffer func).submit movedFrom
            (h.release index.toNat commandBuffer))) := by
  cases c with
  | addCommandBufferSlot =>
    left
    exact ⟨rfl, by simpa [step] using hstep.symm⟩
  | submitCommandBuffer index commandBuffer func =>
    right
    refine ⟨index, commandBuffer, func, rfl, ?_⟩
    simp only [step] at hstep
    split at hstep
    · rename_i hempty
      refine ⟨hempty, ?_⟩
      have hi : index.toNat < h.given.length := (List.getElem?_eq_some_iff.mp hempty).1
      have hbounds : index.toNat < h.executor.readyCommandBuffers.length ∧
          index.toNat < h.executor.completionHandlers.length := by
        rw [hc.ready, hc.handlers_length, length_commandBuffers]
        exact ⟨hi, hi⟩
      simp only [submitCommandBuffer, if_pos hbounds, Option.map_some, Option.some.injEq] at hstep
      subst hstep
      by_cases hrelease : h.release index.toNat commandBuffer = []
      · left
        refine ⟨hrelease, ?_⟩
        rw [release, ← hc.ready] at hrelease
        rw [submitReady_of_nil hrelease]
        simp [fill]
      · right
        refine ⟨hrelease, ?_⟩
        rw [release, ← hc.ready] at hrelease ⊢
        rw [submitReady_of_ne_nil hrelease]
        simp [fill, submit]
    · simp at hstep

/-! ### When a call submits something -/

/-- A slot behind the first unsubmitted one releases nothing. -/
theorem release_behind (hc : h.Consistent) (hi : h.given[i]? = some none)
    (hne : i ≠ h.executor.numSubmittedCommandBuffers) : h.release i commandBuffer = [] := by
  have hfilled : filledPrefix (h.commandBuffers.set i (some commandBuffer)) =
      filledPrefix h.commandBuffers :=
    filledPrefix_set_behind (commandBuffers_empty hi) (hc.count ▸ hne)
  have hlt : h.executor.numSubmittedCommandBuffers < i :=
    Nat.lt_of_le_of_ne
      (hc.count ▸ length_filledPrefix_le_of_gap (commandBuffers_empty hi)) (Ne.symm hne)
  have htake : (h.commandBuffers.set i (some commandBuffer)).take
      h.executor.numSubmittedCommandBuffers = (filledPrefix h.commandBuffers).map some := by
    rw [List.take_set_of_le (Nat.le_of_lt hlt), hc.count, take_filledPrefix]
  have hsplit := filledPrefix_of_take htake
  rw [hfilled] at hsplit
  exact List.self_eq_append_right.mp hsplit

/-- Filling the first unsubmitted slot releases at least that slot. -/
theorem release_front (commandBuffer : χ) (hi : h.given[i]? = some none)
    (heq : i = h.executor.numSubmittedCommandBuffers) :
    h.release i commandBuffer =
      commandBuffer :: filledPrefix (h.commandBuffers.drop (i + 1)) := by
  have hlt : i < h.commandBuffers.length :=
    (List.getElem?_eq_some_iff.mp (commandBuffers_empty hi)).1
  rw [release, ← heq, List.drop_set, if_neg (Nat.lt_irrefl i), Nat.sub_self,
    List.drop_eq_getElem_cons hlt, List.set_cons_zero, filledPrefix_some_cons]

/-- What is released are the command buffers of the slots from the first unsubmitted one on. -/
theorem map_release :
    (h.release i commandBuffer).map some =
      ((h.fill i commandBuffer func).commandBuffers.drop
        h.executor.numSubmittedCommandBuffers).take (h.release i commandBuffer).length := by
  rw [fill_commandBuffers, release, take_filledPrefix]

/-- The filled prefix after a call is the submitted one followed by what the call releases. -/
theorem filledPrefix_fill (commandBuffer : χ) (hc : h.Consistent)
    (hi : h.given[i]? = some none) :
    filledPrefix (h.commandBuffers.set i (some commandBuffer)) =
      filledPrefix h.commandBuffers ++ h.release i commandBuffer := by
  apply filledPrefix_of_take
  rw [List.take_set_of_le, hc.count, take_filledPrefix]
  exact hc.count ▸ length_filledPrefix_le_of_gap (commandBuffers_empty hi)

/-- A submitted slot has been filled, so a call cannot fill it again. -/
theorem numSubmitted_le (hc : h.Consistent) (hi : h.given[i]? = some none) :
    h.executor.numSubmittedCommandBuffers ≤ i :=
  hc.count ▸ length_filledPrefix_le_of_gap (commandBuffers_empty hi)

/-! ### Preservation -/

theorem slots_append {sub : Submission χ φ} {given : List (Option (Filling χ φ))}
    (hlen : sub.firstSlot + sub.commandBuffers.length ≤ given.length) (x : Option (Filling χ φ)) :
    sub.slots (given ++ [x]) = sub.slots given := by
  rw [Submission.slots, Submission.slots, List.drop_append_of_le_length (by omega),
    List.take_append_of_le_length (by rw [List.length_drop]; omega)]

theorem slots_set {sub : Submission χ φ} {given : List (Option (Filling χ φ))}
    (hle : sub.firstSlot + sub.commandBuffers.length ≤ i) (x : Option (Filling χ φ)) :
    sub.slots (given.set i x) = sub.slots given := by
  rw [Submission.slots, Submission.slots, List.drop_set, if_neg (by omega),
    List.take_set_of_le (by omega)]

theorem Consistent.numSubmitted_le_length (hc : h.Consistent) :
    h.executor.numSubmittedCommandBuffers ≤ h.given.length := by
  rw [hc.count, ← length_commandBuffers]
  exact length_filledPrefix_le

theorem consistent_init : ({} : History χ φ).Consistent := by
  constructor <;> simp [commandBuffers, submitted]

theorem Consistent.addSlot (hc : h.Consistent) :
    Consistent { h with
      executor := h.executor.addCommandBufferSlot.2
      given := h.given ++ [none] } := by
  have hbuffers : ({ h with
      executor := h.executor.addCommandBufferSlot.2
      given := h.given ++ [none] } : History χ φ).commandBuffers = h.commandBuffers ++ [none] := by
    simp [commandBuffers]
  constructor
  · rw [hbuffers]
    simp [addCommandBufferSlot, hc.ready]
  · simp [addCommandBufferSlot, hc.handlers_length]
  · intro i hi
    simp only [addCommandBufferSlot, List.getElem?_append, hc.handlers_length] at hi ⊢
    split_ifs at hi ⊢ with hlt
    · exact hc.unfilled i hi
    · have hzero : i - h.given.length = 0 := by
        simpa using (List.getElem?_eq_some_iff.mp hi).1
      rw [hzero]
      rfl
  · rw [hbuffers, filledPrefix_append_none]
    exact hc.count
  · rw [hbuffers, filledPrefix_append_none]
    exact hc.submitted_eq
  · intro sub hsub
    obtain ⟨hle, hslots⟩ := hc.slots_filled sub hsub
    refine ⟨hle, ?_⟩
    rw [slots_append (Nat.le_trans hle hc.numSubmitted_le_length)]
    exact hslots

/-- Filling a slot keeps everything but the relation to the submissions. -/
theorem Consistent.fill_arrays (commandBuffer : χ) (func : Option φ) (hc : h.Consistent)
    (hi : h.given[i]? = some none) :
    (h.fill i commandBuffer func).executor.readyCommandBuffers =
        (h.fill i commandBuffer func).commandBuffers ∧
      (h.fill i commandBuffer func).executor.completionHandlers.length =
        (h.fill i commandBuffer func).given.length ∧
      ∀ j : Nat, (h.fill i commandBuffer func).given[j]? = some none →
        (h.fill i commandBuffer func).executor.completionHandlers[j]? = some none := by
  have hlt : i < h.given.length := (List.getElem?_eq_some_iff.mp hi).1
  refine ⟨by simp [fill, commandBuffers, hc.ready, List.map_set], by simp [hc.handlers_length], ?_⟩
  intro j hj
  by_cases hij : i = j
  · subst hij
    simp [hlt] at hj
  · rw [fill_given, List.getElem?_set_ne hij] at hj
    rw [fill_completionHandlers, List.getElem?_set_ne hij]
    exact hc.unfilled j hj

theorem Consistent.slots_fill (hc : h.Consistent) (hi : h.given[i]? = some none) :
    ∀ sub ∈ h.submissions,
      sub.slots (h.fill i commandBuffer func).given = sub.slots h.given := by
  intro sub hsub
  exact slots_set (Nat.le_trans (hc.slots_filled sub hsub).1 (numSubmitted_le hc hi)) _

theorem Consistent.fill_behind (hc : h.Consistent) (hi : h.given[i]? = some none)
    (hrelease : h.release i commandBuffer = []) : (h.fill i commandBuffer func).Consistent := by
  have hfilled := filledPrefix_fill commandBuffer hc hi
  rw [hrelease, List.append_nil] at hfilled
  obtain ⟨hready, hlength, hunfilled⟩ :=
    hc.fill_arrays commandBuffer func hi
  refine ⟨hready, hlength, hunfilled, ?_, ?_, ?_⟩
  · rw [fill_commandBuffers, hfilled]
    exact hc.count
  · rw [fill_commandBuffers, hfilled]
    exact hc.submitted_eq
  · intro sub hsub
    rw [hc.slots_fill hi sub hsub]
    exact hc.slots_filled sub hsub

theorem Consistent.fill_submit (hc : h.Consistent) (hi : h.given[i]? = some none) :
    ((h.fill i commandBuffer func).submit movedFrom (h.release i commandBuffer)).Consistent := by
  have hfilled := filledPrefix_fill commandBuffer hc hi
  obtain ⟨hready, hlength, hunfilled⟩ :=
    hc.fill_arrays commandBuffer func hi
  constructor
  · exact hready
  · refine Eq.trans ?_ hlength
    simp only [submit, List.length_append, List.length_take, List.length_map, List.length_drop]
    omega
  · intro j hj
    have hempty := hunfilled j hj
    simp only [submit, List.getElem?_append, List.length_take, List.getElem?_map,
      List.getElem?_drop, List.getElem?_take]
    split_ifs with h1 h2
    · exact hempty
    · omega
    · rw [show (h.fill i commandBuffer func).executor.numSubmittedCommandBuffers + (j -
          min (h.fill i commandBuffer func).executor.numSubmittedCommandBuffers
            (h.fill i commandBuffer func).executor.completionHandlers.length) = j by
        have := (List.getElem?_eq_some_iff.mp hempty).1
        omega, hempty]
      rfl
  · rw [submit_commandBuffers, fill_commandBuffers, hfilled, List.length_append, ← hc.count,
      submit_numSubmitted, fill_numSubmitted]
  · rw [submit_commandBuffers, fill_commandBuffers, hfilled, ← hc.submitted_eq, submit_submitted]
    rfl
  · intro sub hsub
    simp only [submit, fill_submissions, List.mem_append, List.mem_singleton] at hsub
    rcases hsub with hsub | rfl
    · obtain ⟨hle, hslots⟩ := hc.slots_filled sub hsub
      refine ⟨Nat.le_trans hle (Nat.le_add_right _ _), ?_⟩
      exact hslots.trans (congrArg _ (hc.slots_fill hi sub hsub).symm)
    · refine ⟨Nat.le_refl _, ?_⟩
      simp only [submit, Submission.slots, List.map_take, List.map_drop, fill_numSubmitted]
      exact map_release

theorem Consistent.step {c : Call χ φ} (hc : h.Consistent)
    (hstep : h.step movedFrom c = some h') : h'.Consistent := by
  rcases step_cases hc hstep with ⟨rfl, rfl⟩ | ⟨index, commandBuffer, func, rfl, hi, hcase⟩
  · exact hc.addSlot
  · rcases hcase with ⟨hrelease, rfl⟩ | ⟨_, rfl⟩
    · exact hc.fill_behind hi hrelease
    · exact hc.fill_submit hi

theorem Consistent.of_reachable (hr : Reachable (History.step movedFrom) {} h) : h.Consistent :=
  hr.invariant (fun _ _ _ hc hstep => hc.step hstep) consistent_init

end History

end Teide.GpuExecutor
