import Mathlib.Algebra.Ring.Nat
import Mathlib.Data.List.Basic
import Mathlib.Tactic.Common
import Teide.GpuExecutor.Invariant
import Teide.Lib.ListSet
import Teide.Scheduler.Basic

/-!
# GPU tasks that fail

A task that throws leaves its slot empty, and nothing behind an empty slot is submitted. So the tasks
that do not throw are all submitted, in the order of their calls, when they have the first slots
(`Unblocked`): when none of them is behind one that throws.
-/

namespace Teide.Scheduler

open ReorderBuffer Runs ListSet GpuExecutor

variable {movedFrom : Nat → Option Nat} {s t : State} {a : Action}

/-- The calls whose callback does not throw, in order. -/
def succeeding (calls : List Bool) : List Nat :=
  (List.range calls.length).filter fun call => calls[call]? = some false

/-- Each call that succeeds has the slot of its place among those that do. -/
def Unblocked (calls : List Bool) : Prop :=
  ∀ place call, (succeeding calls)[place]? = some call → call % 2 ^ 32 = place

theorem mem_succeeding {calls : List Bool} {call : Nat} :
    call ∈ succeeding calls ↔ calls[call]? = some false := by
  rw [succeeding, List.mem_filter, List.mem_range, decide_eq_true_iff, and_iff_right_iff_imp]
  exact fun h => (List.getElem?_eq_some_iff.mp h).1

/-- No call that succeeds comes after one that throws. -/
def NoneBehindFailure (calls : List Bool) : Prop :=
  calls.Pairwise fun earlier later => earlier = true → later = true

instance (calls : List Bool) : Decidable (NoneBehindFailure calls) :=
  inferInstanceAs (Decidable (calls.Pairwise _))

theorem noneBehindFailure_iff {calls : List Bool} : NoneBehindFailure calls ↔
    ∀ i j : Nat, calls[i]? = some true → calls[j]? = some false → j < i := by
  rw [NoneBehindFailure, List.pairwise_iff_getElem]
  constructor
  · intro h i j hi hj
    obtain ⟨hi', hi⟩ := List.getElem?_eq_some_iff.mp hi
    obtain ⟨hj', hj⟩ := List.getElem?_eq_some_iff.mp hj
    by_contra hle
    have hne : i ≠ j := by
      rintro rfl
      rw [hi] at hj
      exact absurd hj (by simp)
    have hthrows := h i j hi' hj' (by omega) hi
    rw [hj] at hthrows
    exact absurd hthrows (by simp)
  · intro h i j hi hj hij hthrows
    by_contra hsucceeds
    have hlt := h i j (List.getElem?_eq_some_iff.mpr ⟨hi, hthrows⟩)
      (List.getElem?_eq_some_iff.mpr ⟨hj, by simpa using hsucceeds⟩)
    omega

theorem filter_range_of_initial {p : Nat → Bool} {n : Nat}
    (hp : ∀ i j, i ≤ j → j < n → p j = true → p i = true) :
    (List.range n).filter p = List.range ((List.range n).filter p).length := by
  induction n with
  | zero => rfl
  | succ n ih =>
    rw [List.range_succ, List.filter_append]
    cases hn : p n with
    | true =>
      have hall : (List.range n).filter p = List.range n :=
        List.filter_eq_self.mpr fun i hi =>
          hp i n (Nat.le_of_lt (List.mem_range.mp hi)) (Nat.lt_succ_self n) hn
      rw [hall, List.filter_cons_of_pos hn, List.filter_nil, ← List.range_succ, List.length_range]
    | false =>
      rw [List.filter_cons_of_neg (by simp [hn]), List.filter_nil, List.append_nil]
      exact ih fun i j hij hj => hp i j hij (Nat.lt_succ_of_lt hj)

/-- As long as there is a slot for each call, a call has to wait for its slot to come up when and only
when it is behind one that throws. -/
theorem unblocked_iff {calls : List Bool} (hlength : calls.length ≤ 2 ^ 32) :
    Unblocked calls ↔ NoneBehindFailure calls := by
  rw [noneBehindFailure_iff]
  have hsmall : ∀ call, call ∈ succeeding calls → call < 2 ^ 32 := by
    intro call h
    have hlt := (List.getElem?_eq_some_iff.mp (mem_succeeding.mp h)).1
    omega
  constructor
  · intro hunblocked i j hi hj
    obtain ⟨place, hplace⟩ := List.mem_iff_getElem?.mp (mem_succeeding.mpr hj)
    have hj' := hunblocked place j hplace
    rw [Nat.mod_eq_of_lt (hsmall j (mem_succeeding.mpr hj))] at hj'
    subst hj'
    by_contra hle
    -- the place of `i` is taken by a call that succeeds, which is `i` itself
    have hlt : i < (succeeding calls).length := by
      have hlt := (List.getElem?_eq_some_iff.mp hplace).1
      omega
    have hget := List.getElem?_eq_getElem hlt
    have hi' := hunblocked i _ hget
    rw [Nat.mod_eq_of_lt (hsmall _ (List.getElem_mem hlt))] at hi'
    have hsucceeds := mem_succeeding.mp (List.getElem_mem hlt)
    rw [hi', hi] at hsucceeds
    exact absurd hsucceeds (by simp)
  · intro hnone place call h
    have hrange : succeeding calls = List.range (succeeding calls).length := by
      refine filter_range_of_initial fun i j hij hj hsucceeds => ?_
      rw [decide_eq_true_iff] at hsucceeds ⊢
      obtain ⟨b, hb⟩ : ∃ b, calls[i]? = some b := ⟨_, List.getElem?_eq_getElem (by omega)⟩
      cases b with
      | true =>
        have hlt := hnone i j hb hsucceeds
        omega
      | false => exact hb
    have hcall := hsmall call (List.mem_of_getElem? h)
    rw [hrange] at h
    obtain ⟨hlt, rfl⟩ := List.getElem?_eq_some_iff.mp h
    rw [List.getElem_range, Nat.mod_eq_of_lt (by simpa using hcall)]

structure Consistent (s : State) : Prop where
  ready_length : s.gpuExecutor.readyCommandBuffers.length = s.calls.length
  handlers_length : s.gpuExecutor.completionHandlers.length = s.calls.length
  count : s.gpuExecutor.numSubmittedCommandBuffers =
    (filledPrefix s.gpuExecutor.readyCommandBuffers).length
  submitted_length : s.submitted.length = s.gpuExecutor.numSubmittedCommandBuffers
  submitted : ∀ place call, s.submitted[place]? = some call →
    call % 2 ^ 32 = place ∧ s.calls[call]? = some false
  /-- a slot is filled by one of the calls that have got it -/
  slot : ∀ i call, s.gpuExecutor.readyCommandBuffers[i]? = some (some call) →
    call % 2 ^ 32 = i ∧ s.calls[call]? = some false
  task : ∀ task ∈ s.tasks, task.sequenceIndex.toNat = task.call % 2 ^ 32 ∧
    s.calls[task.call]? = some task.throws
  filled : ∀ call, s.calls[call]? = some false → (∃ task ∈ s.tasks, task.call = call) ∨
    ∃ other, s.gpuExecutor.readyCommandBuffers[call % 2 ^ 32]? = some (some other)

theorem consistent_init : Consistent {} := by
  constructor <;> simp [filledPrefix]

/-- What has been recorded about earlier calls stays. -/
theorem getElem?_append_call {calls : List Bool} {call : Nat} {b throws : Bool}
    (h : calls[call]? = some b) : (calls ++ [throws])[call]? = some b := by
  rw [List.getElem?_append_left (List.getElem?_eq_some_iff.mp h).1, h]

theorem Consistent.scheduleGpu (hs : Consistent s) (throws : Bool) :
    Consistent (s.scheduleGpu throws) where
  ready_length := by
    simp [State.scheduleGpu, addCommandBufferSlot, hs.ready_length]
  handlers_length := by
    simp [State.scheduleGpu, addCommandBufferSlot, hs.handlers_length]
  count := by
    simp [State.scheduleGpu, addCommandBufferSlot, hs.count]
  submitted_length := hs.submitted_length
  submitted place call h := by
    obtain ⟨hplace, hcall⟩ := hs.submitted place call h
    exact ⟨hplace, getElem?_append_call hcall⟩
  slot i call h := by
    simp only [State.scheduleGpu, addCommandBufferSlot] at h
    have hold : s.gpuExecutor.readyCommandBuffers[i]? = some (some call) := by
      rw [List.getElem?_append] at h
      split_ifs at h with hi
      · exact h
      · simp [List.getElem?_singleton] at h
    obtain ⟨hi, hcall⟩ := hs.slot i call hold
    exact ⟨hi, getElem?_append_call hcall⟩
  task task htask := by
    rcases List.mem_append.mp htask with htask | htask
    · obtain ⟨hindex, hcall⟩ := hs.task task htask
      exact ⟨hindex, getElem?_append_call hcall⟩
    · obtain rfl := List.mem_singleton.mp htask
      refine ⟨?_, List.getElem?_concat_length⟩
      simp [addCommandBufferSlot, hs.ready_length]
  filled call h := by
    simp only [State.scheduleGpu, List.getElem?_append] at h
    split_ifs at h with hlt
    · obtain ⟨task, htask, rfl⟩ | ⟨other, hother⟩ := hs.filled call h
      · exact .inl ⟨task, List.mem_append_left _ htask, rfl⟩
      · refine .inr ⟨other, ?_⟩
        simp only [State.scheduleGpu, addCommandBufferSlot]
        rw [List.getElem?_append_left (List.getElem?_eq_some_iff.mp hother).1, hother]
    · obtain rfl : call = s.calls.length := by
        rw [List.getElem?_singleton] at h
        split_ifs at h
        omega
      exact .inl ⟨_, List.mem_append_right _ (List.mem_singleton_self _), rfl⟩

/-- `SubmitCommandBuffer` on any slot, also on one that has been filled before: what it submits is what
the filled prefix has more than before. -/
theorem submitCommandBuffer_spec (movedFrom : Nat → Option Nat) {ex : GpuExecutor Nat Nat}
    {index : UInt32} (call : Nat) (func : Option Nat)
    (hindex : index.toNat < ex.readyCommandBuffers.length)
    (hhandlers : ex.completionHandlers.length = ex.readyCommandBuffers.length)
    (hcount : ex.numSubmittedCommandBuffers = (filledPrefix ex.readyCommandBuffers).length) :
    ∃ r, ex.submitCommandBuffer movedFrom index (some call) func = some r ∧
      r.2.readyCommandBuffers = ex.readyCommandBuffers.set index.toNat (some call) ∧
      r.2.completionHandlers.length = ex.completionHandlers.length ∧
      r.2.numSubmittedCommandBuffers = (filledPrefix r.2.readyCommandBuffers).length ∧
      r.1.toList.flatMap (·.commandBuffers) =
        (filledPrefix r.2.readyCommandBuffers).drop ex.numSubmittedCommandBuffers := by
  let ready := ex.readyCommandBuffers.set index.toNat (some call)
  let n := ex.numSubmittedCommandBuffers
  have hn : n = (filledPrefix ex.readyCommandBuffers).length := hcount
  have hfilled : filledPrefix ready =
      (filledPrefix ex.readyCommandBuffers).set index.toNat call ++ filledPrefix (ready.drop n) := by
    rw [hn]
    exact filledPrefix_set
  have hlen : ((filledPrefix ex.readyCommandBuffers).set index.toNat call).length = n := by
    rw [List.length_set, hn]
  have hdrop : (filledPrefix ready).drop n = filledPrefix (ready.drop n) := by
    rw [hfilled, ← hlen, List.drop_left]
  have hlength : (filledPrefix ready).length = n + (filledPrefix (ready.drop n)).length := by
    rw [hfilled, List.length_append, hlen]
  rw [submitCommandBuffer, if_pos ⟨hindex, hhandlers ▸ hindex⟩]
  refine ⟨_, rfl, ?_⟩
  by_cases hnil : filledPrefix (ready.drop n) = []
  · rw [History.submitReady_of_nil hnil]
    refine ⟨rfl, List.length_set .., ?_, ?_⟩
    · rw [hlength, hnil, List.length_nil, Nat.add_zero]
    · rw [hdrop, hnil]
      rfl
  · rw [History.submitReady_of_ne_nil hnil]
    refine ⟨rfl, ?_, hlength.symm, ?_⟩
    · have hle : n ≤ ex.completionHandlers.length := by
        rw [hhandlers, hn]
        exact length_filledPrefix_le
      simp only [List.length_append, List.length_take, List.length_map, List.length_drop,
        List.length_set]
      omega
    · rw [hdrop]
      exact List.flatMap_singleton ..

/-- A task that throws is gone, and that is all. -/
theorem Consistent.finish_throwing (hs : Consistent s) {position : Nat} {task : Task}
    (htask : s.tasks[position]? = some task) (hthrows : task.throws = true) :
    Consistent { s with tasks := s.tasks.eraseIdx position } where
  ready_length := hs.ready_length
  handlers_length := hs.handlers_length
  count := hs.count
  submitted_length := hs.submitted_length
  submitted := hs.submitted
  slot := hs.slot
  task other h := hs.task other (List.mem_of_mem_eraseIdx h)
  filled call h := by
    refine (hs.filled call h).imp_left fun ⟨other, hother, heq⟩ => ⟨other, ?_, heq⟩
    obtain rfl | hother' := eq_or_mem_eraseIdx htask hother
    · have hcall := (hs.task other hother).2
      rw [heq, h, hthrows] at hcall
      exact absurd hcall (by simp)
    · exact hother'

/-- A task that does not throw fills the slot of its call. -/
theorem Consistent.finish_succeeding (hs : Consistent s) {position : Nat} {task : Task}
    (htask : s.tasks[position]? = some task) (hthrows : task.throws = false) :
    Consistent { s.runTask movedFrom task with tasks := s.tasks.eraseIdx position } := by
  obtain ⟨hindex, hcall⟩ := hs.task task (List.mem_of_getElem? htask)
  have hlt : task.sequenceIndex.toNat < s.gpuExecutor.readyCommandBuffers.length := by
    have hcall := (List.getElem?_eq_some_iff.mp hcall).1
    rw [hindex, hs.ready_length]
    exact Nat.lt_of_le_of_lt (Nat.mod_le _ _) hcall
  obtain ⟨r, hr, hready, hhandlers, hcount, hsubmitted⟩ := submitCommandBuffer_spec
    movedFrom task.call (some task.call) hlt (hs.handlers_length.trans hs.ready_length.symm) hs.count
  rw [State.runTask, hthrows, if_neg (by simp), hr]
  have hslot : ∀ i call, r.2.readyCommandBuffers[i]? = some (some call) →
      call % 2 ^ 32 = i ∧ s.calls[call]? = some false := by
    intro i call h
    rw [hready, List.getElem?_set] at h
    split_ifs at h with hi
    · obtain rfl := Option.some.inj (Option.some.inj h)
      exact ⟨hindex ▸ hi, hthrows ▸ hcall⟩
    · exact hs.slot i call h
  have hle : s.gpuExecutor.numSubmittedCommandBuffers ≤ r.2.numSubmittedCommandBuffers := by
    rw [hcount, hready, filledPrefix_set, List.length_append, List.length_set, hs.count]
    exact Nat.le_add_right _ _
  constructor
  · rw [hready, List.length_set, hs.ready_length]
  · rw [hhandlers, hs.handlers_length]
  · exact hcount
  · dsimp only
    rw [hsubmitted, List.length_append, List.length_drop, hs.submitted_length, ← hcount]
    omega
  · intro place call h
    dsimp only at h
    rw [hsubmitted, List.getElem?_append] at h
    split_ifs at h with hplace
    · exact hs.submitted place call h
    · rw [List.getElem?_drop, hs.submitted_length] at h
      have h := hslot _ call (getElem?_of_filledPrefix h)
      rw [hs.submitted_length] at hplace
      rwa [Nat.add_sub_cancel' (Nat.le_of_not_lt hplace)] at h
  · exact hslot
  · exact fun other h => hs.task other (List.mem_of_mem_eraseIdx h)
  · intro call h
    have hfilled : ∀ i, (task.sequenceIndex.toNat = i ∨
        ∃ other, s.gpuExecutor.readyCommandBuffers[i]? = some (some other)) →
        ∃ other, r.2.readyCommandBuffers[i]? = some (some other) := by
      intro i hi
      rw [hready, List.getElem?_set]
      split_ifs with heq
      · exact ⟨task.call, rfl⟩
      · exact hi.resolve_left heq
    obtain ⟨other, hother, rfl⟩ | hother := hs.filled call h
    · obtain rfl | hother' := eq_or_mem_eraseIdx htask hother
      · exact .inr (hfilled _ (.inl hindex))
      · exact .inl ⟨other, hother', rfl⟩
    · exact .inr (hfilled _ (.inr hother))

theorem Consistent.step (hs : Consistent s) (h : s.step movedFrom a = some t) : Consistent t := by
  cases a with
  | scheduleGpu throws =>
    obtain rfl := Option.some.inj h
    exact hs.scheduleGpu throws
  | finishTask position =>
    obtain ⟨task, htask, rfl⟩ := Option.map_eq_some_iff.mp h
    cases hthrows : task.throws with
    | true =>
      rw [State.runTask, if_pos hthrows]
      exact hs.finish_throwing htask hthrows
    | false => exact hs.finish_succeeding htask hthrows

/-- Without tasks left, the slots of the calls that succeed are filled. -/
theorem Consistent.submitted_eq_iff (hs : Consistent s) (hdone : s.tasks = []) :
    s.submitted = succeeding s.calls ↔ Unblocked s.calls := by
  constructor
  · intro heq place call h
    exact (hs.submitted place call (heq ▸ h)).1
  · intro hunblocked
    have hplace : ∀ place call : Nat, s.submitted[place]? = some call →
        (succeeding s.calls)[place]? = some call := by
      intro place call h
      obtain ⟨hslot, hcall⟩ := hs.submitted place call h
      obtain ⟨place', hplace'⟩ := List.mem_iff_getElem?.mp (mem_succeeding.mpr hcall)
      rwa [← hslot, hunblocked place' call hplace']
    have hlength : (succeeding s.calls).length ≤ s.submitted.length := by
      by_contra hlt
      have hcall := List.getElem?_eq_getElem (Nat.lt_of_not_le hlt)
      have hslot := hunblocked _ _ hcall
      obtain ⟨task, htask, -⟩ | ⟨other, hother⟩ :=
        hs.filled _ (mem_succeeding.mp (List.mem_of_getElem? hcall))
      · rw [hdone] at htask
        exact absurd htask (by simp)
      · -- the first slot that has not been submitted is empty
        rw [hslot, hs.submitted_length, hs.count] at hother
        rw [filledPrefix_gap (List.getElem?_eq_some_iff.mp hother).1] at hother
        exact absurd hother (by simp)
    apply List.ext_getElem?
    intro place
    cases h : s.submitted[place]? with
    | some call => exact (hplace place call h).symm
    | none =>
      have hle := List.getElem?_eq_none_iff.mp h
      exact (List.getElem?_eq_none (by omega)).symm

/-- **What is submitted when tasks fail.** In every run, once all tasks have finished, the command
buffers of the calls that do not throw have all been submitted, in the order of the calls, exactly
when the place of each of these among them is the slot it was given. For up to `2 ^ 32` calls that
means: when none of them comes after a call that throws. -/
theorem succeeding_submitted_iff {as : List Action}
    (hrun : exec (State.step movedFrom) {} as = some s) (hdone : s.tasks = []) :
    (s.submitted = succeeding s.calls ↔ Unblocked s.calls) ∧
      (s.calls.length ≤ 2 ^ 32 →
        (s.submitted = succeeding s.calls ↔ NoneBehindFailure s.calls)) := by
  have hs : Consistent s := exec_invariant (fun _ _ _ hs h => hs.step h) consistent_init hrun
  have hiff := hs.submitted_eq_iff hdone
  exact ⟨hiff, fun hlength => hiff.trans (unblocked_iff hlength)⟩

/-- The tasks finish in the opposite order, and the last one throws. -/
theorem succeeding_submitted_iff_lastFails :
    ∃ s : State, s.calls = [false, false, true] ∧ s.submitted = [0, 1] := by
  let as : List Action := [.scheduleGpu false, .scheduleGpu false, .scheduleGpu true, .finishTask 2,
    .finishTask 1, .finishTask 0]
  obtain ⟨s, hrun, hdone, hcalls⟩ : ∃ s, exec (State.step fun _ => none) {} as = some s ∧
      s.tasks = [] ∧ s.calls = [false, false, true] := ⟨_, rfl, rfl, rfl⟩
  have hsubmitted := ((succeeding_submitted_iff hrun hdone).2 (by simp [hcalls])).mpr
    (by rw [hcalls]; decide)
  exact ⟨s, hcalls, by rw [hsubmitted, hcalls]; rfl⟩

/-- The first callback throws, and the second task's command buffer is never submitted. -/
theorem failed_task_blocks :
    ¬ ∀ (movedFrom : Nat → Option Nat) (as : List Action) (s : State),
      exec (State.step movedFrom) {} as = some s → s.tasks = [] →
        s.submitted = succeeding s.calls := by
  intro hall
  let as : List Action := [.scheduleGpu true, .scheduleGpu false, .finishTask 0, .finishTask 0]
  obtain ⟨s, hrun, hdone, hcalls, hsubmitted⟩ : ∃ s, exec (State.step fun _ => none) {} as = some s ∧
      s.tasks = [] ∧ s.calls = [true, false] ∧ s.submitted = [] := ⟨_, rfl, rfl, rfl, rfl⟩
  have heq := hall _ as s hrun hdone
  rw [hsubmitted, hcalls] at heq
  exact absurd heq (by decide)

end Teide.Scheduler
