import Mathlib.Tactic.Common
import Mathlib.Data.List.Nodup
import Teide.GpuExecutor.Order
import Teide.Renderer.Basic

/-!
# Recycling frames

The resources of a slot may be reset when the work recorded with them is finished. `EndFrame` makes
sure of it by submitting the fence of the frame behind the frame's work, but it returns before that
when there is no image to present. `FrameCovered` asks for an image in every frame that records
work, and for what it takes for recorded work to be submitted at all: a callback that throws leaves
its slot empty for good, and so does a sequence index that no longer fits 32 bits.

`Tracks` relates a state to a history of the executor, which is what `GpuExecutor` is verified for;
`Inv` says where the work recorded in a slot can be.
-/

namespace Teide.Renderer

open List Runs GpuExecutor

variable {movedFrom : Nat → Option Nat} {s t : State} {a : Action}

namespace State

/-- The work that uses the resources of a slot. -/
def uses (s : State) (k : Fin maxFramesInFlight) : List Nat :=
  s.commandPools.storage k ++ (s.frameResources.storage k).parameters

def tasks (s : State) : List Task := s.launched ++ s.recording

def submittedWork (s : State) : List Nat := (s.finished ++ s.pending).flatMap (·.commandBuffers)

end State

/-- When `BeginFrame` resets a slot, the work recorded during its previous use is finished. -/
def RecyclesFinished (s : State) : Action → Prop
  | .beginFrame => ∀ w, w ∈ s.commandPools.nextFrame.current ∨
      w ∈ s.frameResources.nextFrame.current.parameters → w ∈ s.finishedWork
  | _ => True

/-- A frame that records work presents an image, and all work that is recorded gets submitted. -/
def FrameCovered (s : State) : Action → Prop
  | .endFrame => s.commandPools.current = [] ∨ s.surfacesToPresent ≠ []
  | .throw _ => False
  | .schedule => s.executor.readyCommandBuffers.length < 2 ^ 32
  | _ => True

instance : ∀ a, Decidable (FrameCovered s a)
  | .endFrame => inferInstanceAs (Decidable (_ ∨ _))
  | .throw _ => .isFalse id
  | .schedule => inferInstanceAs (Decidable (_ < _))
  | .beginFrame | .getCommandBuffer _ | .submitCommandBuffer _ | .addSurface _ | .gpuComplete =>
    .isTrue trivial

/-! ### The executor's history -/

/-- `h` is how the executor came to its state. -/
structure Tracks (s : State) (h : History Nat Nat) : Prop where
  consistent : h.Consistent
  executor : h.executor = s.executor
  submitted : h.submitted = s.submittedWork
  /-- a slot is filled with the command buffer of its own work -/
  own : ∀ (i cb : Nat) (func : Option Nat), h.given[i]? = some (some (cb, func)) → cb = i
  /-- a slot is empty as long as its task is not done -/
  open_slots : ∀ i : Nat, h.given[i]? = some none → i ∈ s.tasks.map Task.work
  tasks_open : ∀ task ∈ s.tasks, h.given[task.work]? = some none ∧
    task.sequenceIndex.toNat = task.work
  tasks_nodup : (s.tasks.map Task.work).Nodup
  uses_lt : ∀ k, ∀ w ∈ s.uses k, w < h.given.length

variable {h : History Nat Nat}

theorem tracks_init : Tracks {} {} where
  consistent := History.consistent_init
  executor := rfl
  submitted := rfl
  own := by simp
  open_slots := by simp
  tasks_open := by simp [State.tasks]
  tasks_nodup := by simp [State.tasks]
  uses_lt := by simp [State.uses]

/-- Steps that leave the executor alone keep its history. -/
theorem Tracks.of_same_executor (ht : Tracks s h) (hexecutor : t.executor = s.executor)
    (hsubmitted : t.submittedWork = s.submittedWork) (htasks : t.tasks ~ s.tasks)
    (huses : ∀ k, ∀ w ∈ t.uses k, w ∈ s.uses k ∨ w ∈ s.tasks.map Task.work) : Tracks t h where
  consistent := ht.consistent
  executor := ht.executor.trans hexecutor.symm
  submitted := ht.submitted.trans hsubmitted.symm
  own := ht.own
  open_slots := fun i hi => ((htasks.map _).mem_iff).mpr (ht.open_slots i hi)
  tasks_open := fun task htask => ht.tasks_open task (htasks.subset htask)
  tasks_nodup := (htasks.map _).nodup_iff.mpr ht.tasks_nodup
  uses_lt := by
    intro k w hw
    rcases huses k w hw with hw | hw
    · exact ht.uses_lt k w hw
    · obtain ⟨task, htask, rfl⟩ := mem_map.mp hw
      exact (List.getElem?_eq_some_iff.mp (ht.tasks_open task htask).1).1

theorem Tracks.schedule (ht : Tracks s h) (hlt : s.executor.readyCommandBuffers.length < 2 ^ 32) :
    ∃ h', Tracks s.schedule h' := by
  have hlength : s.executor.readyCommandBuffers.length = h.given.length := by
    rw [← ht.executor, ht.consistent.ready, History.length_commandBuffers]
  have htasks : s.schedule.tasks ~
      ⟨UInt32.ofNat h.given.length, h.given.length⟩ :: s.tasks := by
    simp only [State.tasks, State.schedule, addCommandBufferSlot, length_append, length_cons,
      length_nil, Nat.zero_add, Nat.add_sub_cancel, hlength, append_assoc, singleton_append]
    exact perm_middle
  refine ⟨_, ht.consistent.addSlot, ?_, ht.submitted, ?_, ?_, ?_, ?_, ?_⟩
  · simp [State.schedule, ht.executor]
  · intro i cb func hi
    rcases Nat.lt_or_ge i h.given.length with hlt | hge
    · rw [getElem?_append_left hlt] at hi
      exact ht.own i cb func hi
    · rw [getElem?_append_right hge, List.getElem?_singleton] at hi
      split_ifs at hi
      simp at hi
  · intro i hi
    refine (htasks.map _).mem_iff.mpr ?_
    rw [map_cons, mem_cons]
    rcases Nat.lt_or_ge i h.given.length with hlt | hge
    · rw [getElem?_append_left hlt] at hi
      exact .inr (ht.open_slots i hi)
    · have hbound := (List.getElem?_eq_some_iff.mp hi).1
      simp only [length_append, length_cons, length_nil] at hbound
      left
      show i = h.given.length
      omega
  · intro task htask
    rcases mem_cons.mp (htasks.subset htask) with rfl | htask
    · refine ⟨by simp, ?_⟩
      rw [UInt32.toNat_ofNat']
      exact Nat.mod_eq_of_lt (hlength ▸ hlt)
    · obtain ⟨hopen, hindex⟩ := ht.tasks_open task htask
      exact ⟨(getElem?_append_left (List.getElem?_eq_some_iff.mp hopen).1).trans hopen, hindex⟩
  · refine (htasks.map _).nodup_iff.mpr (nodup_cons.mpr ⟨fun hmem => ?_, ht.tasks_nodup⟩)
    obtain ⟨task, htask, heq⟩ := mem_map.mp hmem
    have := (List.getElem?_eq_some_iff.mp (ht.tasks_open task htask).1).1
    exact absurd heq (Nat.ne_of_lt this)
  · intro k w hw
    have := ht.uses_lt k w hw
    simp only [length_append]
    omega

theorem Tracks.submitCommandBuffer (ht : Tracks s h) {i : Nat} {task : Task}
    (hi : s.recording[i]? = some task) (hstep : s.submitCommandBuffer movedFrom i task = some t) :
    ∃ h', Tracks t h' := by
  obtain ⟨⟨bundle, executor⟩, hsubmit, rfl⟩ := Option.map_eq_some_iff.mp hstep
  have hmem : task ∈ s.tasks := mem_append_right _ (mem_of_getElem? hi)
  obtain ⟨hopen, hindex⟩ := ht.tasks_open task hmem
  have hlt := (List.getElem?_eq_some_iff.mp hopen).1
  obtain ⟨h', hh, hexecutor, hgiven, hsubmissions⟩ : ∃ h',
      h.step movedFrom (.submitCommandBuffer task.sequenceIndex task.work (some task.work)) =
        some h' ∧ h'.executor = executor ∧
      h'.given = h.given.set task.work (some (task.work, some task.work)) ∧
      h'.submitted = h.submitted ++ bundle.toList.flatMap (·.commandBuffers) := by
    simp only [History.step, hindex, hopen, ht.executor, hsubmit, Option.map_some]
    refine ⟨_, rfl, rfl, rfl, ?_⟩
    simp only [History.submitted, flatMap_append, flatMap_map]
  have htasks : s.tasks ~ task :: (s.launched ++ s.recording.eraseIdx i) := by
    rw [State.tasks]
    refine Perm.trans ?_ perm_middle
    exact ((getElem_cons_eraseIdx_perm (List.getElem?_eq_some_iff.mp hi).1).symm.trans (by
      rw [(List.getElem?_eq_some_iff.mp hi).2])).append_left _
  have hnodup := (htasks.map _).nodup_iff.mp ht.tasks_nodup
  refine ⟨h', ht.consistent.step hh, hexecutor, ?_, ?_, ?_, ?_, ?_, ?_⟩
  · rw [hsubmissions, ht.submitted]
    simp only [State.submittedWork, flatMap_append, flatMap_map, append_assoc]
  · intro j cb func hj
    rw [hgiven] at hj
    by_cases hij : task.work = j
    · subst hij
      rw [getElem?_set_self hlt] at hj
      simp only [Option.some.injEq, Prod.mk.injEq] at hj
      exact hj.1.symm
    · rw [getElem?_set_ne hij] at hj
      exact ht.own j cb func hj
  · intro j hj
    rw [hgiven] at hj
    by_cases hij : task.work = j
    · subst hij
      rw [getElem?_set_self hlt] at hj
      simp at hj
    · rw [getElem?_set_ne hij] at hj
      have hwork := (htasks.map _).subset (ht.open_slots j hj)
      exact (mem_cons.mp hwork).resolve_left (Ne.symm hij)
  · intro task' htask'
    obtain ⟨hopen', hindex'⟩ := ht.tasks_open task' (htasks.symm.subset (mem_cons_of_mem _ htask'))
    refine ⟨?_, hindex'⟩
    rw [hgiven, getElem?_set_ne, hopen']
    intro heq
    exact (nodup_cons.mp hnodup).1 (heq ▸ mem_map_of_mem htask')
  · exact (nodup_cons.mp hnodup).2
  · intro k w hw
    rw [hgiven, length_set]
    exact ht.uses_lt k w hw

/-- When no task is left, all work has been submitted. -/
theorem Tracks.submitted_of_no_tasks (ht : Tracks s h) (hnone : s.tasks = []) {w : Nat}
    (hw : w < h.given.length) : w ∈ s.submittedWork := by
  have hfilled : ∀ i < h.given.length, h.given[i]? ≠ some none := by
    intro i _ hempty
    have hmem := ht.open_slots i hempty
    rw [hnone] at hmem
    exact absurd hmem not_mem_nil
  have hall : h.submitted.map some = h.commandBuffers := by
    rw [History.submitted_eq_take ht.consistent,
      History.numSubmitted_of_all_filled ht.consistent hfilled, ← History.length_commandBuffers,
      take_length]
  obtain ⟨cb, func, hgiven⟩ : ∃ cb func, h.given[w]? = some (some (cb, func)) := by
    rcases hw' : h.given[w] with _ | ⟨cb, func⟩
    · exact absurd (List.getElem?_eq_some_iff.mpr ⟨hw, hw'⟩) (hfilled w hw)
    · exact ⟨cb, func, List.getElem?_eq_some_iff.mpr ⟨hw, hw'⟩⟩
  have hmem : some w ∈ h.commandBuffers := by
    rw [History.commandBuffers, mem_map]
    exact ⟨_, mem_of_getElem? hgiven, by rw [ht.own w cb func hgiven]; rfl⟩
  rw [← hall, ht.submitted] at hmem
  obtain ⟨w', hw', heq⟩ := mem_map.mp hmem
  exact Option.some.inj heq ▸ hw'

/-! ### Where the work of a slot is -/

structure Slots (s : State) : Prop where
  same_frame : s.commandPools.frameNumber = s.frameResources.frameNumber
  same_work : s.frameResources.current.parameters = s.commandPools.current
  idle : s.inFrame = false → s.tasks = []
  /-- the fence of the frame that is being recorded has been waited for -/
  current_signalled : s.inFrame = true → s.frameResources.current.inFlightFence = true
  fences_nodup : (s.pending.filterMap (·.fence)).Nodup
  fences_unsignalled : ∀ k ∈ s.pending.filterMap (·.fence),
    (s.frameResources.storage k).inFlightFence = false
  /-- a fence that is still to be signalled was submitted behind the work of its slot -/
  covered : ∀ (i : Nat) submit k, s.pending[i]? = some submit → submit.fence = some k →
    ∀ w ∈ s.uses k, w ∈ s.finishedWork ++ (s.pending.take (i + 1)).flatMap (·.commandBuffers)
  /-- a slot that is not being recorded and whose fence is signalled is done with -/
  reusable : ∀ k, (s.inFrame = true → k ≠ s.frameResources.frameNumber) →
    (s.frameResources.storage k).inFlightFence = true → ∀ w ∈ s.uses k, w ∈ s.finishedWork

theorem slots_init : Slots {} where
  same_frame := rfl
  same_work := rfl
  idle := fun _ => rfl
  current_signalled := by simp
  fences_nodup := by simp
  fences_unsignalled := by simp
  covered := by simp
  reusable := by simp [State.uses]

theorem Slots.mem_uses_current (hs : Slots s) {w : Nat} :
    w ∈ s.uses s.frameResources.frameNumber ↔ w ∈ s.commandPools.current := by
  have hpools : s.commandPools.storage s.frameResources.frameNumber = s.commandPools.current := by
    rw [FrameArray.current, hs.same_frame]
  have hparameters := hs.same_work
  rw [FrameArray.current] at hparameters
  rw [State.uses, hpools, hparameters, mem_append, or_self]

/-- While a frame is being recorded, no submission will signal its fence. -/
theorem Slots.no_pending_current (hs : Slots s) (hin : s.inFrame = true) :
    s.frameResources.frameNumber ∉ s.pending.filterMap (·.fence) := by
  intro hmem
  have hsignalled := hs.current_signalled hin
  rw [FrameArray.current, hs.fences_unsignalled _ hmem] at hsignalled
  exact absurd hsignalled (by simp)

theorem mem_fences {i : Nat} {submit : VkSubmit} {k : Fin maxFramesInFlight}
    (hi : s.pending[i]? = some submit) (hk : submit.fence = some k) :
    k ∈ s.pending.filterMap (·.fence) :=
  mem_filterMap.mpr ⟨submit, mem_of_getElem? hi, hk⟩

/-- Submitting what signals no fence of the renderer. -/
theorem Slots.submit (hs : Slots s) (hin : s.inFrame = true) {submits : List VkSubmit}
    (hsubmits : ∀ submit ∈ submits, submit.fence = none) {launched recording : List Task}
    {executor : GpuExecutor Nat Nat} :
    Slots { s with
      launched := launched
      recording := recording
      executor := executor
      pending := s.pending ++ submits } := by
  have hnil : submits.filterMap (·.fence) = [] := filterMap_eq_nil_iff.mpr hsubmits
  refine { hs with
    idle := fun hout => absurd (hin.symm.trans hout) (by simp)
    fences_nodup := ?_
    fences_unsignalled := ?_
    covered := ?_ }
  · rw [filterMap_append, hnil, append_nil]
    exact hs.fences_nodup
  · rw [filterMap_append, hnil, append_nil]
    exact hs.fences_unsignalled
  · intro i submit k hi hk
    rcases Nat.lt_or_ge i s.pending.length with hlt | hge
    · rw [getElem?_append_left hlt] at hi
      rw [take_append_of_le_length hlt]
      exact hs.covered i submit k hi hk
    · rw [getElem?_append_right hge] at hi
      rw [hsubmits submit (mem_of_getElem? hi)] at hk
      simp at hk

theorem mem_uses_getCommandBuffer {i : Nat} {task : Task} {k : Fin maxFramesInFlight} {w : Nat}
    (hw : w ∈ (s.getCommandBuffer i task).uses k) : w ∈ s.uses k ∨ w = task.work := by
  have hpools := FrameArray.forall_setCurrent (f := s.commandPools)
    (P := fun k l => ∀ w ∈ l, w ∈ s.commandPools.storage k ∨ w = task.work)
    (x := s.commandPools.current ++ [task.work])
    (fun w hw => (mem_append.mp hw).imp_right mem_singleton.mp) (fun _ _ hw => .inl hw) k w
  have hparameters := FrameArray.forall_setCurrent (f := s.frameResources)
    (P := fun k r => ∀ w ∈ r.parameters,
      w ∈ (s.frameResources.storage k).parameters ∨ w = task.work)
    (x := { s.frameResources.current with
      parameters := s.frameResources.current.parameters ++ [task.work] })
    (fun w hw => (mem_append.mp hw).imp_right mem_singleton.mp) (fun _ _ hw => .inl hw) k w
  rcases mem_append.mp hw with hw | hw
  · exact (hpools hw).imp_left (mem_append_left _)
  · exact (hparameters hw).imp_left (mem_append_right _)

theorem Slots.getCommandBuffer (hs : Slots s) (hin : s.inFrame = true) {i : Nat} {task : Task} :
    Slots (s.getCommandBuffer i task) := by
  have hother : ∀ k, k ≠ s.frameResources.frameNumber →
      (s.getCommandBuffer i task).uses k = s.uses k := by
    intro k hk
    simp only [State.uses, State.getCommandBuffer]
    rw [FrameArray.storage_setCurrent_of_ne hk,
      FrameArray.storage_setCurrent_of_ne (hs.same_frame ▸ hk)]
  have hfence : ∀ k, ((s.getCommandBuffer i task).frameResources.storage k).inFlightFence =
      (s.frameResources.storage k).inFlightFence :=
    FrameArray.map_setCurrent (g := FrameResources.inFlightFence) rfl
  constructor
  · exact hs.same_frame
  · simp only [State.getCommandBuffer, FrameArray.current_setCurrent, hs.same_work]
  · exact fun hout => absurd (hin.symm.trans hout) (by simp)
  · intro _
    exact (hfence _).trans (hs.current_signalled hin)
  · exact hs.fences_nodup
  · intro k hk
    exact (hfence k).trans (hs.fences_unsignalled k hk)
  · intro j submit k hj hk
    rw [hother k fun heq => hs.no_pending_current hin (heq ▸ mem_fences hj hk)]
    exact hs.covered j submit k hj hk
  · intro k hk hsignalled
    rw [hother k (hk hin)]
    exact hs.reusable k hk ((hfence k).symm.trans hsignalled)

theorem uses_endFrame (k : Fin maxFramesInFlight) : s.endFrame.uses k = s.uses k := by
  have hparameters := FrameArray.map_setCurrent (g := FrameResources.parameters)
    (f := s.frameResources) (x := { s.frameResources.current with inFlightFence := false }) rfl k
  rw [State.endFrame]
  split_ifs
  · rfl
  · exact congrArg (s.commandPools.storage k ++ ·) hparameters

/-- The fence of a frame is submitted when all of its work is. -/
theorem Slots.endFrame (hs : Slots s) (hin : s.inFrame = true) (htasks : s.tasks = [])
    (hsubmitted : ∀ k, ∀ w ∈ s.uses k, w ∈ s.submittedWork)
    (hcovered : s.commandPools.current = [] ∨ s.surfacesToPresent ≠ []) : Slots s.endFrame := by
  have huses : ∀ k, s.endFrame.uses k = s.uses k := uses_endFrame
  rw [State.endFrame] at huses ⊢
  split_ifs at huses ⊢ with hnone
  · -- nothing was recorded
    have hcurrent := hcovered.resolve_right (by simpa using hnone)
    refine { hs with
      idle := fun _ => htasks
      current_signalled := by simp
      reusable := ?_ }
    intro k _ hsignalled w hw
    by_cases hk : k = s.frameResources.frameNumber
    · subst hk
      rw [State.uses] at hw
      have hw' := hs.mem_uses_current.mp hw
      rw [hcurrent] at hw'
      exact absurd hw' not_mem_nil
    · exact hs.reusable k (fun _ => hk) hsignalled w hw
  · refine ⟨hs.same_frame, ?_, fun _ => htasks, by simp, ?_, ?_, ?_, ?_⟩
    · rw [FrameArray.current_setCurrent]
      exact hs.same_work
    · rw [filterMap_append]
      refine nodup_append.mpr ⟨hs.fences_nodup, by simp, ?_⟩
      rintro k hk k' hk' rfl
      obtain rfl : k = s.frameResources.frameNumber := by simpa using hk'
      exact hs.no_pending_current hin hk
    · intro k hk
      by_cases hcurrent : k = s.frameResources.frameNumber
      · rw [hcurrent]
        exact congrArg FrameResources.inFlightFence FrameArray.current_setCurrent
      · simp only [FrameArray.storage_setCurrent_of_ne hcurrent]
        refine hs.fences_unsignalled k ?_
        simpa [hcurrent] using hk
    · intro i submit k hi hk w hw
      rw [huses] at hw
      simp only [State.finishedWork]
      rcases Nat.lt_or_ge i s.pending.length with hlt | hge
      · rw [getElem?_append_left hlt] at hi
        rw [take_append_of_le_length hlt]
        exact hs.covered i submit k hi hk w hw
      · rw [take_of_length_le (by simp only [length_append, length_cons, length_nil]; omega),
          ← flatMap_append, ← append_assoc, flatMap_append]
        exact mem_append_left _ (hsubmitted k w hw)
    · intro k _ hsignalled w hw
      rw [huses] at hw
      by_cases hcurrent : k = s.frameResources.frameNumber
      · rw [hcurrent] at hsignalled
        have hunsignalled :=
          congrArg FrameResources.inFlightFence FrameArray.current_setCurrent ▸ hsignalled
        exact absurd hunsignalled (by simp)
      · simp only [FrameArray.storage_setCurrent_of_ne hcurrent] at hsignalled
        exact hs.reusable k (fun _ => hcurrent) hsignalled w hw

/-- The GPU completes the submission that has been waiting longest. -/
theorem gpuComplete_eq_some (hstep : s.gpuComplete = some t) : ∃ submit rest,
    s.pending = submit :: rest ∧
      { s with
        finished := s.finished ++ [submit]
        pending := rest
        frameResources := { s.frameResources with
          storage := fun k =>
            if submit.fence = some k then { s.frameResources.storage k with inFlightFence := true }
            else s.frameResources.storage k } } = t := by
  unfold State.gpuComplete at hstep
  cases hpending : s.pending with
  | nil =>
    rw [hpending] at hstep
    cases hstep
  | cons submit rest =>
    rw [hpending] at hstep
    exact ⟨submit, rest, rfl, Option.some.inj hstep⟩

theorem Slots.gpuComplete (hs : Slots s) (hstep : s.gpuComplete = some t) : Slots t := by
  obtain ⟨submit, rest, hpending, hstep⟩ := gpuComplete_eq_some hstep
  have hnodup := hs.fences_nodup
  have hunsignalled := hs.fences_unsignalled
  have hcovered := hs.covered
  rw [hpending] at hnodup hunsignalled hcovered
  -- no other pending submission signals the same fence
  have hother : ∀ k ∈ rest.filterMap (·.fence), submit.fence ≠ some k := by
    intro k hk hfence
    rw [filterMap_cons, hfence] at hnodup
    exact (nodup_cons.mp hnodup).1 hk
  have huses : ∀ k, t.uses k = s.uses k := by
    intro k
    rw [← hstep]
    simp only [State.uses]
    split_ifs <;> rfl
  have hfinished : t.finishedWork = s.finishedWork ++ submit.commandBuffers := by
    rw [← hstep]
    simp [State.finishedWork]
  subst hstep
  constructor
  · exact hs.same_frame
  · simp only [FrameArray.current]
    split_ifs <;> exact hs.same_work
  · exact hs.idle
  · intro hin
    simp only [FrameArray.current]
    split_ifs
    · rfl
    · exact hs.current_signalled hin
  · exact hnodup.sublist ((sublist_cons_self _ _).filterMap _)
  · intro k hk
    simp only [if_neg (hother k hk)]
    exact hunsignalled k (((sublist_cons_self _ _).filterMap _).subset hk)
  · intro i submit' k hi hk w hw
    rw [huses] at hw
    rw [hfinished, append_assoc]
    exact hcovered (i + 1) submit' k hi hk w hw
  · intro k hk hsignalled w hw
    rw [huses] at hw
    rw [hfinished]
    by_cases hfence : submit.fence = some k
    · have hmem := hcovered 0 submit k rfl hfence w hw
      simpa using hmem
    · simp only [if_neg hfence] at hsignalled
      exact mem_append_left _ (hs.reusable k hk hsignalled w hw)

/-- `BeginFrame` leaves no work in the new slot, and the others as they are. -/
theorem Slots.uses_beginFrame (hs : Slots s) (hstep : s.beginFrame = some t) :
    ∀ k, ∀ w ∈ t.uses k, k ≠ t.frameResources.frameNumber ∧ w ∈ s.uses k := by
  simp only [State.beginFrame] at hstep
  split_ifs at hstep
  intro k w hw
  rw [← Option.some.inj hstep] at hw ⊢
  have hframe : s.commandPools.nextFrame.frameNumber =
      s.frameResources.nextFrame.frameNumber := congrArg (· + 1) hs.same_frame
  by_cases hk : k = s.frameResources.nextFrame.frameNumber
  · have hpools : (s.commandPools.nextFrame.setCurrent []).storage k = [] := by
      rw [hk, ← hframe]
      exact FrameArray.current_setCurrent
    have hparameters : ((s.frameResources.nextFrame.setCurrent
        { s.frameResources.nextFrame.current with parameters := [] }).storage k).parameters = [] := by
      rw [hk]
      exact congrArg FrameResources.parameters FrameArray.current_setCurrent
    simp only [State.uses, State.schedulerNextFrame, hpools, hparameters] at hw
    exact absurd hw not_mem_nil
  · refine ⟨hk, ?_⟩
    simp only [State.uses, State.schedulerNextFrame] at hw
    rwa [FrameArray.storage_setCurrent_of_ne hk,
      FrameArray.storage_setCurrent_of_ne (hframe ▸ hk)] at hw

theorem Slots.beginFrame (hs : Slots s) (hout : s.inFrame = false) (hstep : s.beginFrame = some t) :
    Slots t := by
  have huses := hs.uses_beginFrame hstep
  simp only [State.beginFrame] at hstep
  split_ifs at hstep with hsignalled
  have hfence : ∀ k, (t.frameResources.storage k).inFlightFence =
      (s.frameResources.storage k).inFlightFence := by
    rw [← Option.some.inj hstep]
    exact FrameArray.map_setCurrent (g := FrameResources.inFlightFence) rfl
  obtain rfl := Option.some.inj hstep
  constructor
  · exact congrArg (· + 1) hs.same_frame
  · simp [State.schedulerNextFrame]
  · simp
  · intro _
    exact (hfence _).trans hsignalled
  · exact hs.fences_nodup
  · intro k hk
    exact (hfence k).trans (hs.fences_unsignalled k hk)
  · intro i submit k hi hk w hw
    exact hs.covered i submit k hi hk w (huses k w hw).2
  · intro k _ hsignalled' w hw
    refine hs.reusable k (fun hin => ?_) ((hfence k).symm.trans hsignalled') w (huses k w hw).2
    rw [hout] at hin
    exact absurd hin (by simp)

/-! ### Steps that are covered -/

structure Inv (s : State) : Prop where
  tracks : ∃ h, Tracks s h
  slots : Slots s

theorem inv_init : Inv {} := ⟨⟨{}, tracks_init⟩, slots_init⟩

/-- Tasks exist in frames only. -/
theorem Slots.inFrame_of_task (hs : Slots s) {task : Task} (htask : task ∈ s.tasks) :
    s.inFrame = true := by
  by_contra hout
  rw [hs.idle (by simpa using hout)] at htask
  exact absurd htask not_mem_nil

theorem Inv.schedule (hinv : Inv s) (hin : s.inFrame = true)
    (hlt : s.executor.readyCommandBuffers.length < 2 ^ 32) : Inv s.schedule := by
  obtain ⟨h, ht⟩ := hinv.tracks
  refine ⟨ht.schedule hlt, ?_⟩
  rw [show s.schedule = { s.schedule with pending := s.pending ++ [] } by
    rw [append_nil]
    rfl]
  exact hinv.slots.submit hin (by simp)

theorem Inv.getCommandBuffer (hinv : Inv s) {i : Nat} {task : Task}
    (hi : s.launched[i]? = some task) : Inv (s.getCommandBuffer i task) := by
  obtain ⟨h, ht⟩ := hinv.tracks
  have hmem : task ∈ s.tasks := mem_append_left _ (mem_of_getElem? hi)
  obtain ⟨hlt, hget⟩ := List.getElem?_eq_some_iff.mp hi
  refine ⟨⟨h, ht.of_same_executor rfl rfl ?_ ?_⟩,
    hinv.slots.getCommandBuffer (hinv.slots.inFrame_of_task hmem)⟩
  · calc s.launched.eraseIdx i ++ (s.recording ++ [task])
        ~ task :: (s.launched.eraseIdx i ++ s.recording) := by
          rw [← append_assoc]
          exact perm_append_singleton task _
      _ ~ s.launched ++ s.recording := by
          rw [← cons_append, ← hget]
          exact (getElem_cons_eraseIdx_perm hlt).append_right _
  · intro k w hw
    refine (mem_uses_getCommandBuffer hw).imp_right ?_
    rintro rfl
    exact mem_map_of_mem hmem

theorem Inv.submitCommandBuffer (hinv : Inv s) {i : Nat} {task : Task}
    (hi : s.recording[i]? = some task) (hstep : s.submitCommandBuffer movedFrom i task = some t) :
    Inv t := by
  obtain ⟨h, ht⟩ := hinv.tracks
  have hin := hinv.slots.inFrame_of_task (mem_append_right s.launched (mem_of_getElem? hi))
  refine ⟨ht.submitCommandBuffer hi hstep, ?_⟩
  obtain ⟨⟨bundle, executor⟩, -, rfl⟩ := Option.map_eq_some_iff.mp hstep
  refine hinv.slots.submit hin ?_
  intro submit hsubmit
  obtain ⟨b, -, rfl⟩ := mem_map.mp hsubmit
  rfl

theorem Inv.addSurface (hinv : Inv s) {surfaces : List Nat} :
    Inv { s with surfacesToPresent := surfaces } := by
  obtain ⟨h, ht⟩ := hinv.tracks
  exact ⟨⟨h, ht.of_same_executor rfl rfl (Perm.refl _) fun _ _ hw => .inl hw⟩,
    { hinv.slots with }⟩

theorem Inv.endFrame (hinv : Inv s) (hin : s.inFrame = true) (htasks : s.tasks = [])
    (hcovered : s.commandPools.current = [] ∨ s.surfacesToPresent ≠ []) : Inv s.endFrame := by
  obtain ⟨h, ht⟩ := hinv.tracks
  have hsubmitted : ∀ k, ∀ w ∈ s.uses k, w ∈ s.submittedWork := fun k w hw =>
    ht.submitted_of_no_tasks htasks (ht.uses_lt k w hw)
  have huses : ∀ k, ∀ w ∈ s.endFrame.uses k, w ∈ s.uses k ∨ w ∈ s.tasks.map Task.work :=
    fun k _ hw => .inl (uses_endFrame k ▸ hw)
  refine ⟨⟨h, ?_⟩, hinv.slots.endFrame hin htasks hsubmitted hcovered⟩
  rw [State.endFrame] at huses ⊢
  split_ifs at huses ⊢
  · exact ht.of_same_executor rfl rfl (Perm.refl _) huses
  · refine ht.of_same_executor rfl ?_ (Perm.refl _) huses
    simp [State.submittedWork]

theorem Inv.gpuComplete (hinv : Inv s) (hstep : s.gpuComplete = some t) : Inv t := by
  obtain ⟨h, ht⟩ := hinv.tracks
  refine ⟨⟨h, ?_⟩, hinv.slots.gpuComplete hstep⟩
  obtain ⟨submit, rest, hpending, rfl⟩ := gpuComplete_eq_some hstep
  refine ht.of_same_executor rfl ?_ (Perm.refl _) ?_
  · simp [State.submittedWork, hpending]
  · intro k w hw
    left
    simp only [State.uses] at hw
    split_ifs at hw <;> exact hw

theorem Inv.beginFrame (hinv : Inv s) (hout : s.inFrame = false) (hstep : s.beginFrame = some t) :
    Inv t := by
  obtain ⟨h, ht⟩ := hinv.tracks
  refine ⟨⟨h, ?_⟩, hinv.slots.beginFrame hout hstep⟩
  have huses := hinv.slots.uses_beginFrame hstep
  simp only [State.beginFrame] at hstep
  split_ifs at hstep
  obtain rfl := Option.some.inj hstep
  exact ht.of_same_executor rfl rfl (Perm.refl _) fun k w hw => .inl (huses k w hw).2

theorem Inv.step (hinv : Inv s) (hcovered : FrameCovered s a) (hstep : s.step movedFrom a = some t) :
    Inv t := by
  cases a with
  | beginFrame =>
    simp only [State.step] at hstep
    split_ifs at hstep with hin
    exact hinv.beginFrame (by simpa using hin) hstep
  | schedule =>
    simp only [State.step] at hstep
    split_ifs at hstep with hin
    exact Option.some.inj hstep ▸ hinv.schedule hin hcovered
  | getCommandBuffer i =>
    obtain ⟨task, hi, rfl⟩ := Option.map_eq_some_iff.mp hstep
    exact hinv.getCommandBuffer hi
  | submitCommandBuffer i =>
    obtain ⟨task, hi, hstep⟩ := Option.bind_eq_some_iff.mp hstep
    exact hinv.submitCommandBuffer hi hstep
  | throw i => exact hcovered.elim
  | addSurface surface =>
    simp only [State.step] at hstep
    split_ifs at hstep
    · exact Option.some.inj hstep ▸ hinv
    · exact Option.some.inj hstep ▸ hinv.addSurface
  | endFrame =>
    simp only [State.step] at hstep
    split_ifs at hstep with hdone
    obtain ⟨hin, hlaunched, hrecording⟩ := hdone
    have htasks : s.tasks = [] := by
      rw [State.tasks, hlaunched, hrecording]
      rfl
    exact Option.some.inj hstep ▸ hinv.endFrame hin htasks hcovered
  | gpuComplete => exact hinv.gpuComplete hstep

/-- The slot that `BeginFrame` is about to reset is not being recorded and its fence is signalled. -/
theorem Inv.recyclesFinished (hinv : Inv s) (hstep : s.step movedFrom a = some t) :
    RecyclesFinished s a := by
  cases a with
  | beginFrame =>
    simp only [State.step, State.beginFrame] at hstep
    split_ifs at hstep with hin hsignalled
    intro w hw
    refine hinv.slots.reusable s.frameResources.nextFrame.frameNumber
      (fun h => absurd h hin) hsignalled w ?_
    have hframe : s.commandPools.nextFrame.frameNumber =
        s.frameResources.nextFrame.frameNumber := congrArg (· + 1) hinv.slots.same_frame
    rw [FrameArray.current, hframe] at hw
    exact mem_append.mpr hw
  | schedule | getCommandBuffer | submitCommandBuffer | throw | addSurface | endFrame
  | gpuComplete => trivial

/-! ### Frames are recycled when the GPU is done with them -/

/-- **The CPU recycles no frame the GPU is still using, when every frame that records work presents
an image.** In a run whose frames are covered, each `BeginFrame` resets a slot whose recorded work
is finished, whenever the GPU makes progress. -/
theorem recycles_finished_of_covered {as : List Action}
    (hrun : exec (State.step movedFrom) {} as = some s)
    (hcovered : Each (State.step movedFrom) FrameCovered {} as) :
    Each (State.step movedFrom) RecyclesFinished {} as :=
  each_of_invariant (fun _ _ _ hinv hc hstep => hinv.step hc hstep)
    (fun _ _ _ hinv _ hstep => hinv.recyclesFinished hstep) inv_init hcovered hrun

/-- Three frames without surfaces, the first of which renders something. -/
def offscreenRun : List Action :=
  [.beginFrame, .schedule, .getCommandBuffer 0, .submitCommandBuffer 0, .endFrame,
    .beginFrame, .endFrame, .beginFrame]

theorem recycles_unfinished :
    ¬ ∀ (as : List Action) (s : State), exec (State.step fun _ => none) {} as = some s →
      Each (State.step fun _ => none) RecyclesFinished {} as := by
  intro hall
  obtain ⟨-, -, -, -, -, -, -, hlast, -⟩ := hall offscreenRun _ rfl
  exact absurd (hlast 0 (.inl (by decide))) (by decide)

theorem recycles_finished_of_covered_surfaces :
    Each (State.step fun _ => none) RecyclesFinished {}
      [.beginFrame, .schedule, .addSurface 5, .getCommandBuffer 0, .submitCommandBuffer 0, .endFrame,
        .beginFrame, .endFrame, .gpuComplete, .gpuComplete, .beginFrame] :=
  recycles_finished_of_covered rfl (by decide)

end Teide.Renderer
