import Mathlib.Tactic.Common
import Teide.GpuExecutor.Invariant
import Teide.Lib.Prefixes
import Teide.Surface.Invariant

/-!
# Rendering to images

The presentation engine releases an image by signalling its `imageAvailable` semaphore, and what is
submitted in or after a batch that waits on it comes after the release. That batch is the one of
`EndFrame`, while the command buffers that render to the image are submitted by the executor as soon as
the slots before theirs are filled, which is earlier. They come after the batch exactly if they are held
back, by an empty slot before theirs.
-/

namespace Teide.Surface

open Prefixes ReorderBuffer Runs State

variable {movedFrom : Unit → Option Unit} {s t : State} {a : Action} {image : SurfaceImage}
  {ops new : List Operation}

def Operation.commandBuffers : Operation → List CommandBuffer
  | .submit batch => batch.commandBuffers
  | .acquireNextImage _ | .present _ _ => []

/-- An operation after the acquisition of the image waits for its release. -/
def AwaitedIn (image : SurfaceImage) (ops : List Operation) : Prop :=
  ∃ op ∈ ops.drop (image.acquired + 1), image.imageAvailable ∈ op.waits

/-- Command buffers that render to an image come in or after an operation that waits for its release. -/
def RendersAfterRelease (s : State) : Prop :=
  EachAfter (fun before op => ∀ commandBuffer ∈ op.commandBuffers,
    ∀ image ∈ commandBuffer.target, AwaitedIn image (before ++ [op])) s.operations

/-- The slots that `SubmitCommandBuffer` finds unsubmitted, once it has filled the slot of the task. -/
def unsubmittedCommandBuffers (s : State) (task : Task) : List (Option CommandBuffer) :=
  (s.executor.readyCommandBuffers.set task.sequenceIndex.toNat (some task.commandBuffer)).drop
    s.executor.numSubmittedCommandBuffers

/-- When `SubmitCommandBuffer` has filled a slot, every command buffer that renders to an image of the
current frame is still behind an empty one. -/
def HeldBack (s : State) : Action → Prop
  | .submitCommandBuffer i => ∀ task ∈ s.tasks[i]?,
    ∀ j < (unsubmittedCommandBuffers s task).length,
      ∀ commandBuffer ∈ (unsubmittedCommandBuffers s task)[j]?.join,
        ∀ image ∈ s.surfacesToPresent, commandBuffer.target = some image →
          none ∈ (unsubmittedCommandBuffers s task).take j
  | _ => True

instance : ∀ a, Decidable (HeldBack s a)
  | .submitCommandBuffer i => inferInstanceAs (Decidable (∀ task ∈ s.tasks[i]?, _))
  | .renderToSurface _ _ | .createSurface _ | .beginFrame | .imageReady | .onResize _
  | .recreateSwapchain _ | .schedule | .throw _ | .endFrame | .gpuComplete => .isTrue trivial

/-! ### Waiting for the release -/

theorem AwaitedIn.append (h : AwaitedIn image ops) (new : List Operation) :
    AwaitedIn image (ops ++ new) := by
  obtain ⟨op, hop, hwait⟩ := h
  refine ⟨op, ?_, hwait⟩
  rw [List.drop_append]
  exact List.mem_append_left _ hop

theorem awaitedIn_append (h : image.acquired < ops.length) :
    AwaitedIn image (ops ++ new) ↔
      AwaitedIn image ops ∨ ∃ op ∈ new, image.imageAvailable ∈ op.waits := by
  unfold AwaitedIn
  rw [List.drop_append_of_le_length h]
  simp only [List.mem_append, or_and_right, exists_or]

/-! ### The images that command buffers render to -/

/-- The image is one of the frame, or its release has been waited for. -/
def Renders (s : State) (commandBuffer : CommandBuffer) : Prop :=
  ∀ image ∈ commandBuffer.target, image ∈ s.surfacesToPresent ∨ AwaitedIn image s.operations

structure Targets (s : State) : Prop where
  acquired : ∀ image ∈ s.acquiredImages, image.acquired < s.operations.length
  not_awaited : ∀ image ∈ s.acquiredImages, ¬ AwaitedIn image s.operations
  task : ∀ task ∈ s.tasks, Renders s task.commandBuffer
  ready : ∀ commandBuffer, some commandBuffer ∈ s.executor.readyCommandBuffers →
    Renders s commandBuffer

theorem targets_init : Targets {} where
  acquired := by simp [acquiredImages, Waiting.acquired]
  not_awaited := by simp [acquiredImages, Waiting.acquired]
  task := by simp
  ready := by simp

theorem Renders.of_same {commandBuffer : CommandBuffer} (h : Renders s commandBuffer)
    (himages : ∀ image ∈ s.surfacesToPresent, image ∈ t.surfacesToPresent)
    (hoperations : t.operations = s.operations ++ new) : Renders t commandBuffer := by
  intro image himage
  refine (h image himage).imp (himages image) fun hawaited => ?_
  rw [hoperations]
  exact hawaited.append new

/-- Steps that neither acquire an image nor wait for one. -/
theorem Targets.of_same (h : Targets s) (new : List Operation)
    (hacquired : t.acquiredImages = s.acquiredImages)
    (himages : ∀ image ∈ s.surfacesToPresent, image ∈ t.surfacesToPresent)
    (hoperations : t.operations = s.operations ++ new) (hwaits : ∀ op ∈ new, op.waits = [])
    (htask : ∀ task ∈ t.tasks, task ∈ s.tasks ∨ Renders t task.commandBuffer)
    (hready : ∀ commandBuffer, some commandBuffer ∈ t.executor.readyCommandBuffers →
      some commandBuffer ∈ s.executor.readyCommandBuffers ∨ Renders s commandBuffer) :
    Targets t where
  acquired image hmem := by
    rw [hoperations, List.length_append]
    exact Nat.lt_add_right _ (h.acquired image (hacquired ▸ hmem))
  not_awaited image hmem := by
    rw [hacquired] at hmem
    rw [hoperations, awaitedIn_append (h.acquired image hmem)]
    rintro (hawaited | ⟨op, hop, hwait⟩)
    · exact h.not_awaited image hmem hawaited
    · rw [hwaits op hop] at hwait
      exact List.not_mem_nil hwait
  task task hmem := by
    rcases htask task hmem with hold | hnew
    · exact (h.task task hold).of_same himages hoperations
    · exact hnew
  ready commandBuffer hmem := by
    rcases hready commandBuffer hmem with hold | hnew
    · exact (h.ready commandBuffer hold).of_same himages hoperations
    · exact hnew.of_same himages hoperations

/-- Scheduling work that renders to an image of the frame. -/
theorem Targets.scheduleGpu (h : Targets s) {target : Option SurfaceImage}
    (htarget : ∀ image ∈ target, image ∈ s.surfacesToPresent) : Targets (s.scheduleGpu target) := by
  refine h.of_same [] rfl (fun _ => id) (List.append_nil _).symm (by simp) ?_ ?_
  · intro task hmem
    refine (List.mem_append.mp hmem).imp_right fun hnew image himage => .inl ?_
    rw [List.mem_singleton.mp hnew] at himage
    exact htarget image himage
  · intro commandBuffer hmem
    rcases List.mem_append.mp hmem with hold | hnew
    · exact .inl hold
    · exact absurd (List.mem_singleton.mp hnew) (Option.some_ne_none _)

/-- Steps that do nothing to the images, the tasks and the executor. -/
theorem Targets.of_idle (h : Targets s) (hacquired : t.acquiredImages = s.acquiredImages)
    (himages : ∀ image ∈ s.surfacesToPresent, image ∈ t.surfacesToPresent)
    (hoperations : t.operations = s.operations) (htasks : ∀ task ∈ t.tasks, task ∈ s.tasks)
    (hexecutor : t.executor = s.executor) : Targets t := by
  refine h.of_same [] hacquired himages ?_ (by simp) (fun task hmem => .inl (htasks task hmem)) ?_
  · rw [hoperations, List.append_nil]
  · intro commandBuffer hmem
    exact .inl (hexecutor ▸ hmem)

theorem waits_executorBatch {bundle : Option (Bundle CommandBuffer Unit)} {op : Operation}
    (hop : op ∈ (executorBatches bundle).map .submit) : op.waits = [] := by
  obtain ⟨batch, hbatch, rfl⟩ := List.mem_map.mp hop
  obtain ⟨_, -, rfl⟩ := List.mem_map.mp hbatch
  rfl

theorem Targets.acquire (h : Targets s) (himages : s.acquiredImages = s.surfacesToPresent)
    (surfaces : List VulkanSurface) (surface imageIndex : Nat) (semaphore : Semaphore) :
    Targets { s with
      surfaces
      waiting := some (.imageInFlight
        { surface, imageIndex, imageAvailable := semaphore, acquired := s.operations.length })
      operations := s.operations ++ [.acquireNextImage semaphore] } where
  acquired image hmem := by
    show image.acquired < (s.operations ++ [_]).length
    rw [List.length_append, List.length_singleton]
    rcases List.mem_append.mp hmem with hold | hnew
    · exact Nat.lt_succ_of_lt (h.acquired image (himages ▸ hold))
    · rw [List.mem_singleton.mp hnew]
      exact Nat.lt_succ_self _
  not_awaited image hmem := by
    show ¬ AwaitedIn image (s.operations ++ [_])
    rcases List.mem_append.mp hmem with hold | hnew
    · have hmem : image ∈ s.acquiredImages := himages ▸ hold
      rw [awaitedIn_append (h.acquired image hmem)]
      rintro (hawaited | ⟨op, hop, hwait⟩)
      · exact h.not_awaited image hmem hawaited
      · rw [List.mem_singleton.mp hop] at hwait
        exact List.not_mem_nil hwait
    · rw [List.mem_singleton.mp hnew]
      rintro ⟨op, hop, -⟩
      rw [List.drop_of_length_le (by simp)] at hop
      exact List.not_mem_nil hop
  task task hmem := (h.task task hmem).of_same (fun _ => id) rfl
  ready commandBuffer hmem := (h.ready commandBuffer hmem).of_same (fun _ => id) rfl

/-- The batch of a frame waits for all of its images. -/
theorem Targets.renders_endFrame (h : Targets s) (hsub : ∀ image ∈ s.surfacesToPresent,
      image ∈ s.acquiredImages) (new : List Operation)
    (hoperations : t.operations = s.operations ++ .submit s.frameBatch :: new)
    {commandBuffer : CommandBuffer} (hrenders : Renders s commandBuffer) :
    Renders t commandBuffer := by
  intro image himage
  right
  rw [hoperations]
  rcases hrenders image himage with hmem | hawaited
  · refine (awaitedIn_append (h.acquired image (hsub image hmem))).mpr (.inr ?_)
    exact ⟨_, List.mem_cons_self, List.mem_map_of_mem hmem⟩
  · exact hawaited.append _

theorem Targets.move (h : Targets s) (hmove : Move movedFrom s a t) : Targets t := by
  have hsub (image : SurfaceImage) (hmem : image ∈ s.surfacesToPresent) :
      image ∈ s.acquiredImages := List.mem_append_left _ hmem
  cases hmove with
  | createSurface | beginFrame | error | endEmptyFrame | gpuComplete =>
    exact h.of_idle rfl (fun _ => id) rfl (fun _ => id) rfl
  | throw i => exact h.of_idle rfl (fun _ => id) rfl (fun _ => List.mem_of_mem_eraseIdx) rfl
  | outOfDate hframe hwaiting | onResize surface hwaiting =>
    exact h.of_idle (acquiredImages_deviceIdle hwaiting _) (fun _ => id) rfl (fun _ => id) rfl
  | recreateSwapchain images hwaiting =>
    exact h.of_idle (acquiredImages_recreateSwapchain hwaiting) (fun _ => id) rfl (fun _ => id) rfl
  | schedule => exact h.scheduleGpu fun image himage => absurd himage (Option.not_mem_none image)
  | render himage =>
    refine h.scheduleGpu fun image hmem => ?_
    obtain rfl := Option.some.inj hmem
    exact himage
  | acquire imageIndex hframe hwaiting =>
    exact h.acquire (acquiredImages_of_idle hwaiting) _ _ imageIndex _
  | @imageReady image surfaces hwaiting =>
    have hready : Targets { s with
        surfaces
        surfacesToPresent := s.surfacesToPresent ++ [image]
        waiting := none } :=
      h.of_idle (acquiredImages_imageReady hwaiting) (fun _ => List.mem_append_left _) rfl
        (fun _ => id) rfl
    refine hready.scheduleGpu fun other hother => ?_
    obtain rfl := Option.some.inj hother
    exact List.mem_append_right _ (List.mem_singleton_self _)
  | submitCommandBuffer htask hsubmit =>
    obtain ⟨hready, -⟩ := GpuExecutor.History.submitCommandBuffer_spec hsubmit
    refine h.of_same _ rfl (fun _ => id) rfl (fun _ => waits_executorBatch)
      (fun _ hmem => .inl (List.mem_of_mem_eraseIdx hmem)) fun commandBuffer hmem => ?_
    rw [hready] at hmem
    rcases List.mem_or_eq_of_mem_set hmem with hold | hnew
    · exact .inl hold
    · obtain rfl := Option.some.inj hnew
      exact .inr (h.task _ (List.mem_of_getElem? htask))
  | endFrame himages hframe hwaiting =>
    have hnone := acquiredImages_endFrame hwaiting
    refine ⟨fun image hmem => ?_, fun image hmem => ?_, fun task hmem => ?_, fun _ hmem => ?_⟩
    · exact absurd (hnone ▸ hmem) List.not_mem_nil
    · exact absurd (hnone ▸ hmem) List.not_mem_nil
    · exact h.renders_endFrame hsub _ rfl (h.task task hmem)
    · exact h.renders_endFrame hsub _ rfl (h.ready _ hmem)

/-! ### Submitting command buffers -/

/-- A command buffer that the executor submits now has been waited for unless its image is one of the
current frame. -/
theorem Targets.awaitedIn_iff (h : Targets s) {commandBuffer : CommandBuffer}
    (hrenders : Renders s commandBuffer) {op : Operation} (hop : op.waits = [])
    (himage : image ∈ commandBuffer.target) :
    AwaitedIn image (s.operations ++ [op]) ↔ image ∉ s.surfacesToPresent := by
  constructor
  · intro hawaited hmem
    have hmem : image ∈ s.acquiredImages := List.mem_append_left _ hmem
    rcases (awaitedIn_append (h.acquired image hmem)).mp hawaited with hawaited | ⟨_, hnew, hwait⟩
    · exact h.not_awaited image hmem hawaited
    · rw [List.mem_singleton.mp hnew, hop] at hwait
      exact List.not_mem_nil hwait
  · intro hnot
    exact ((hrenders image himage).resolve_left hnot).append _

theorem rendersAfterRelease_submit (h : Targets s) (hs : RendersAfterRelease s) {i : Nat} {task : Task}
    {bundle : Option (Bundle CommandBuffer Unit)} {executor : GpuExecutor CommandBuffer Unit}
    (htask : s.tasks[i]? = some task)
    (hsubmit : s.executor.submitCommandBuffer movedFrom task.sequenceIndex (some task.commandBuffer)
      (some ()) = some (bundle, executor))
    (hoperations : t.operations = s.operations ++ (executorBatches bundle).map .submit) :
    RendersAfterRelease t ↔ HeldBack s (.submitCommandBuffer i) := by
  obtain ⟨hready, hreleased⟩ := GpuExecutor.History.submitCommandBuffer_spec hsubmit
  have hrenders : ∀ commandBuffer, some commandBuffer ∈ executor.readyCommandBuffers →
      Renders s commandBuffer := by
    intro commandBuffer hmem
    rw [hready] at hmem
    rcases List.mem_or_eq_of_mem_set hmem with hold | hnew
    · exact h.ready commandBuffer hold
    · obtain rfl := Option.some.inj hnew
      exact h.task task (List.mem_of_getElem? htask)
  have hsubmitted : RendersAfterRelease t ↔
      ∀ commandBuffer ∈ bundle.toList.flatMap (·.commandBuffers),
        ∀ image ∈ commandBuffer.target, image ∉ s.surfacesToPresent := by
    unfold RendersAfterRelease at hs ⊢
    rw [hoperations]
    cases bundle with
    | none => simpa [executorBatches] using hs
    | some bundle =>
      simp only [executorBatches, Option.toList_some, List.map_cons, List.map_nil,
        List.flatMap_singleton, eachAfter_concat, and_iff_right hs]
      refine forall₂_congr fun commandBuffer hmem => forall₂_congr fun image himage => ?_
      refine h.awaitedIn_iff (hrenders commandBuffer ?_) rfl himage
      rw [Option.toList_some, List.flatMap_singleton] at hreleased
      rw [hreleased] at hmem
      obtain ⟨k, hk, -⟩ := mem_filledPrefix_iff.mp hmem
      exact List.mem_of_mem_drop (List.mem_of_getElem? hk)
  rw [hsubmitted, hreleased, hready]
  simp only [mem_filledPrefix_iff, HeldBack, unsubmittedCommandBuffers, htask, Option.mem_some_iff,
    forall_eq']
  constructor
  · intro hfirst j hj commandBuffer hcb image hmem himage
    by_contra hnone
    exact hfirst commandBuffer ⟨j, Option.join_eq_some_iff.mp hcb, hnone⟩ image himage hmem
  · rintro hheld commandBuffer ⟨j, hj, hbefore⟩ image himage hmem
    exact hbefore (hheld j (List.getElem?_eq_some_iff.mp hj).1 commandBuffer
      (Option.join_eq_some_iff.mpr hj) image hmem himage)

/-! ### Runs -/

/-- What is submitted for a frame has no command buffers. -/
theorem rendersAfterRelease_of_new (hs : RendersAfterRelease s)
    (hoperations : t.operations = s.operations ++ new)
    (hnew : ∀ op ∈ new, op.commandBuffers = []) : RendersAfterRelease t := by
  unfold RendersAfterRelease
  rw [hoperations]
  refine EachAfter.append hs fun op hop before commandBuffer hmem => ?_
  rw [hnew op hop] at hmem
  exact absurd hmem List.not_mem_nil

theorem rendersAfterRelease_move (h : Targets s) (hs : RendersAfterRelease s)
    (hmove : Move movedFrom s a t) : RendersAfterRelease t ↔ HeldBack s a := by
  cases hmove with
  | createSurface | beginFrame | render | outOfDate | error | imageReady | onResize
  | recreateSwapchain | schedule | throw | endEmptyFrame | gpuComplete => exact iff_of_true hs trivial
  | submitCommandBuffer htask hsubmit => exact rendersAfterRelease_submit h hs htask hsubmit rfl
  | acquire =>
    refine iff_of_true (rendersAfterRelease_of_new hs rfl fun op hop => ?_) trivial
    rw [List.mem_singleton.mp hop]
    rfl
  | endFrame =>
    refine iff_of_true (rendersAfterRelease_of_new hs rfl fun op hop => ?_) trivial
    rcases List.mem_cons.mp hop with rfl | hop
    · rfl
    · obtain ⟨image, -, rfl⟩ := List.mem_map.mp hop
      rfl

/-- In a run every command buffer that renders to an image comes in or after a submission that waits for
the release of the image exactly if all of them are held back during their frames. -/
theorem rendersAfterRelease_iff {as : List Action} (h : exec (step movedFrom) {} as = some s) :
    RendersAfterRelease s ↔ Each (step movedFrom) HeldBack {} as := by
  have hlast : Always (step movedFrom) RendersAfterRelease {} as ↔ RendersAfterRelease s :=
    always_eachAfter_iff _ h
  rw [← hlast]
  refine always_iff_each (I := Targets) ?_ ?_ targets_init eachAfter_nil h
  · intro s a t htargets _ hstep _
    exact htargets.move (move_of_step hstep)
  · intro s a t htargets hs hstep
    exact rendersAfterRelease_move htargets hs (move_of_step hstep)

/-- The task of an earlier slot throws, so that nothing behind it is ever submitted. -/
def stuckSlot : List Action :=
  [.createSurface 2, .schedule, .submitCommandBuffer 0, .schedule, .throw 0, .beginFrame,
    .renderToSurface 0 (.success 0), .imageReady, .submitCommandBuffer 0, .endFrame]

theorem rendersAfterRelease_iff_stuckSlot :
    ∃ s, exec (step fun _ => none) {} stuckSlot = some s ∧ RendersAfterRelease s := by
  have hrun : (exec (step fun _ => none) {} stuckSlot).isSome = true := by decide
  obtain ⟨s, hs⟩ := Option.isSome_iff_exists.mp hrun
  exact ⟨s, hs, (rendersAfterRelease_iff hs).mpr (by decide)⟩

/-- The task of the only surface is done before the frame ends. -/
theorem not_rendersAfterRelease : ¬ ∀ (movedFrom : Unit → Option Unit) (as : List Action) (s : State),
    exec (step movedFrom) {} as = some s → RendersAfterRelease s := by
  intro h
  let run : List Action := [.createSurface 2, .beginFrame, .renderToSurface 0 (.success 0),
    .imageReady, .submitCommandBuffer 0, .endFrame]
  have hrun : (exec (step fun _ => none) {} run).isSome = true := by decide
  obtain ⟨s, hs⟩ := Option.isSome_iff_exists.mp hrun
  let image : SurfaceImage := ⟨0, 0, .imageAvailable 0 0, 0⟩
  have hoperations : (exec (step fun _ => none) {} run).map State.operations = some
      ([.acquireNextImage (.imageAvailable 0 0)] ++ .submit { commandBuffers := [⟨some image⟩] } ::
        [.submit ⟨[.imageAvailable 0 0], [], [.renderFinished 1], some 1⟩,
          .present image (.renderFinished 1)]) := rfl
  rw [hs, Option.map_some, Option.some.injEq] at hoperations
  obtain ⟨op, hop, hwait⟩ := h _ run s hs _ _ _ hoperations _ List.mem_cons_self image rfl
  obtain rfl := List.mem_singleton.mp hop
  exact List.not_mem_nil hwait

end Teide.Surface
