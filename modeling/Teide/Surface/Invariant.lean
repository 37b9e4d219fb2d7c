import Mathlib.Tactic.Common
import Teide.Lib.ListSet
import Teide.Surface.Basic

/-!
# What a step does to the semaphores of the surfaces

`Move` says it all about a step. Its first use is the account of the `imageAvailable` semaphores: each
of their signals is that of an image the current frame has got or has been waited on, and the waits
are those of the submissions.
-/

namespace Teide.Surface

open Prefixes Runs Semaphores

variable {movedFrom : Unit → Option Unit} {s t : State} {a : Action}

/-! ### Moves -/

namespace State

/-- Which semaphore each surface passes next. -/
def nextSemaphores (s : State) : List FrameNumber := s.surfaces.map (·.nextSemaphoreIndex)

/-- The batches that the executor submits have command buffers only. -/
def executorBatches (bundle : Option (Bundle CommandBuffer Unit)) : List VkSubmit :=
  bundle.toList.map fun bundle => { commandBuffers := bundle.commandBuffers }

end State

open State

inductive Move (movedFrom : Unit → Option Unit) (s : State) : Action → State → Prop
  | createSurface (images : Nat) (surface : VulkanSurface) :
    Move movedFrom s (.createSurface images) { s with surfaces := s.surfaces ++ [surface] }
  | beginFrame (hframe : s.inFrame = false) (hwaiting : s.waiting = none)
      (hfence : s.inFlightFences.nextFrame.current = true) :
    Move movedFrom s .beginFrame
      { s with inFrame := true, inFlightFences := s.inFlightFences.nextFrame }
  | render {surface : Nat} {result : AcquireResult} {image : SurfaceImage}
      (himage : image ∈ s.surfacesToPresent) :
    Move movedFrom s (.renderToSurface surface result) (s.scheduleGpu (some image))
  | acquire {surface : Nat} {result : AcquireResult} {this : VulkanSurface} (imageIndex : Nat)
      (hframe : s.inFrame = true) (hwaiting : s.waiting = none)
      (hnew : ∀ image ∈ s.surfacesToPresent, image.surface ≠ surface)
      (hthis : s.surfaces[surface]? = some this) :
    Move movedFrom s (.renderToSurface surface result)
      { s with
        surfaces := s.surfaces.set surface this.getNextSemaphore.2
        waiting := some (.imageInFlight
          { surface, imageIndex
            imageAvailable := .imageAvailable surface this.nextSemaphoreIndex
            acquired := s.operations.length })
        operations := s.operations ++
          [.acquireNextImage (.imageAvailable surface this.nextSemaphoreIndex)] }
  | outOfDate {surface : Nat} {this : VulkanSurface} (hframe : s.inFrame = true)
      (hwaiting : s.waiting = none) (hnew : ∀ image ∈ s.surfacesToPresent, image.surface ≠ surface) :
    Move movedFrom s (.renderToSurface surface .errorOutOfDate)
      { s with
        surfaces := s.surfaces.set surface this.getNextSemaphore.2
        waiting := some (.deviceIdle surface) }
  | error {surface : Nat} {this : VulkanSurface} (hframe : s.inFrame = true)
      (hwaiting : s.waiting = none) :
    Move movedFrom s (.renderToSurface surface .error)
      { s with surfaces := s.surfaces.set surface this.getNextSemaphore.2 }
  | imageReady {image : SurfaceImage} {surfaces : List VulkanSurface}
      (hwaiting : s.waiting = some (.imageInFlight image))
      (hsame : surfaces.map (·.nextSemaphoreIndex) = s.nextSemaphores) :
    Move movedFrom s .imageReady
      (State.scheduleGpu
        { s with
          surfaces
          surfacesToPresent := s.surfacesToPresent ++ [image]
          waiting := none } (some image))
  | onResize (surface : Nat) (hwaiting : s.waiting = none) :
    Move movedFrom s (.onResize surface) { s with waiting := some (.deviceIdle surface) }
  | recreateSwapchain (images : Nat) {surface : Nat} {surfaces : List VulkanSurface}
      (hwaiting : s.waiting = some (.deviceIdle surface)) (hidle : s.pending = [])
      (hsame : surfaces.map (·.nextSemaphoreIndex) = s.nextSemaphores) :
    Move movedFrom s (.recreateSwapchain images) { s with surfaces, waiting := none }
  | schedule : Move movedFrom s .schedule (s.scheduleGpu none)
  | submitCommandBuffer {i : Nat} {task : Task} {bundle : Option (Bundle CommandBuffer Unit)}
      {executor : GpuExecutor CommandBuffer Unit} (htask : s.tasks[i]? = some task)
      (hsubmit : s.executor.submitCommandBuffer movedFrom task.sequenceIndex
        (some task.commandBuffer) (some ()) = some (bundle, executor)) :
    Move movedFrom s (.submitCommandBuffer i)
      { s with
        tasks := s.tasks.eraseIdx i
        executor
        operations := s.operations ++ (executorBatches bundle).map .submit
        pending := s.pending ++ executorBatches bundle }
  | throw (i : Nat) : Move movedFrom s (.throw i) { s with tasks := s.tasks.eraseIdx i }
  | endEmptyFrame (himages : s.surfacesToPresent = []) (hframe : s.inFrame = true)
      (hwaiting : s.waiting = none) :
    Move movedFrom s .endFrame { s with inFrame := false }
  | endFrame (himages : s.surfacesToPresent ≠ []) (hframe : s.inFrame = true)
      (hwaiting : s.waiting = none) :
    Move movedFrom s .endFrame
      { s with
        inFrame := false
        surfacesToPresent := []
        inFlightFences := s.inFlightFences.setCurrent false
        operations := s.operations ++ .submit s.frameBatch ::
          s.surfacesToPresent.map (.present · (.renderFinished s.inFlightFences.frameNumber))
        pending := s.pending ++ [s.frameBatch] }
  | gpuComplete {batch : VkSubmit} {rest : List VkSubmit} (hpending : s.pending = batch :: rest) :
    Move movedFrom s .gpuComplete
      { s with
        finished := s.finished ++ [batch]
        pending := rest
        inFlightFences := { s.inFlightFences with
          storage := fun k => s.inFlightFences.storage k || batch.fence = some k } }

theorem move_acquireNextImage {surface : Nat} {this : VulkanSurface} {result : AcquireResult}
    (hframe : s.inFrame = true) (hwaiting : s.waiting = none) (himage : s.image? surface = none)
    (hthis : s.surfaces[surface]? = some this)
    (h : s.acquireNextImage surface this result = some t) :
    Move movedFrom s (.renderToSurface surface result) t := by
  have hnew : ∀ image ∈ s.surfacesToPresent, image.surface ≠ surface := fun image hmem => by
    simpa using List.find?_eq_none.mp himage image hmem
  unfold acquireNextImage at h
  obtain ⟨-, h⟩ := Option.ite_none_right_eq_some.mp h
  cases result with
  | success imageIndex | suboptimal imageIndex =>
    obtain ⟨-, h⟩ := Option.ite_none_right_eq_some.mp h
    obtain rfl := Option.some.inj h
    exact .acquire imageIndex hframe hwaiting hnew hthis
  | errorOutOfDate =>
    obtain rfl := Option.some.inj h
    exact .outOfDate hframe hwaiting hnew
  | error =>
    obtain rfl := Option.some.inj h
    exact .error hframe hwaiting

theorem move_of_step (h : s.step movedFrom a = some t) : Move movedFrom s a t := by
  cases a with
  | createSurface images =>
    obtain rfl := Option.some.inj h
    exact .createSurface images _
  | beginFrame =>
    obtain ⟨hguard, h⟩ := Option.ite_none_left_eq_some.mp h
    obtain ⟨hfence, h⟩ := Option.ite_none_right_eq_some.mp h
    obtain rfl := Option.some.inj h
    exact .beginFrame (by simpa using fun hf => hguard (.inl hf))
      (by simpa using fun hw => hguard (.inr hw)) hfence
  | renderToSurface surface result =>
    obtain ⟨⟨hframe, hwaiting⟩, h⟩ := Option.ite_none_right_eq_some.mp h
    have hwaiting : s.waiting = none := Option.isNone_iff_eq_none.mp hwaiting
    unfold renderToSurface at h
    split at h
    · rename_i image himage
      obtain rfl := Option.some.inj h
      exact .render (List.mem_of_find?_eq_some himage)
    · rename_i himage
      obtain ⟨this, hthis, h⟩ := Option.bind_eq_some_iff.mp h
      exact move_acquireNextImage hframe hwaiting himage hthis h
  | imageReady =>
    dsimp only [step] at h
    split at h
    · rename_i image hwaiting
      obtain ⟨-, h⟩ := Option.ite_none_right_eq_some.mp h
      obtain rfl := Option.some.inj h
      refine .imageReady hwaiting (ListSet.map_modify_of_eq _ _ ?_ _ _)
      intro this
      rfl
    · exact absurd h.symm (Option.some_ne_none t)
  | onResize surface =>
    obtain ⟨hguard, h⟩ := Option.ite_none_left_eq_some.mp h
    obtain ⟨-, -, rfl⟩ := Option.map_eq_some_iff.mp h
    exact .onResize surface (by simpa using hguard)
  | recreateSwapchain images =>
    dsimp only [step] at h
    split at h
    · rename_i surface hwaiting
      obtain ⟨hidle, h⟩ := Option.ite_none_right_eq_some.mp h
      obtain rfl := Option.some.inj h
      refine .recreateSwapchain images hwaiting (List.isEmpty_iff.mp hidle)
        (ListSet.map_modify_of_eq _ _ ?_ _ _)
      intro this
      rfl
    · exact absurd h.symm (Option.some_ne_none t)
  | schedule =>
    obtain rfl := Option.some.inj h
    exact .schedule
  | submitCommandBuffer i =>
    obtain ⟨task, htask, h⟩ := Option.bind_eq_some_iff.mp h
    obtain ⟨⟨bundle, executor⟩, hsubmit, rfl⟩ := Option.map_eq_some_iff.mp h
    exact .submitCommandBuffer htask hsubmit
  | throw i =>
    obtain ⟨-, -, rfl⟩ := Option.map_eq_some_iff.mp h
    exact .throw i
  | endFrame =>
    obtain ⟨⟨hframe, hwaiting, -⟩, h⟩ := Option.ite_none_right_eq_some.mp h
    have hwaiting : s.waiting = none := Option.isNone_iff_eq_none.mp hwaiting
    obtain rfl := Option.some.inj h
    unfold State.endFrame
    split
    · rename_i himages
      exact .endEmptyFrame (List.isEmpty_iff.mp himages) hframe hwaiting
    · rename_i himages
      exact .endFrame (fun hnil => himages (List.isEmpty_iff.mpr hnil)) hframe hwaiting
  | gpuComplete =>
    dsimp only [step, gpuComplete] at h
    split at h
    · exact absurd h.symm (Option.some_ne_none t)
    · rename_i batch rest hpending
      obtain rfl := Option.some.inj h
      exact .gpuComplete hpending

theorem exists_operations_append (h : Move movedFrom s a t) :
    ∃ new, t.operations = s.operations ++ new := by
  cases h with
  | acquire | submitCommandBuffer | endFrame => exact ⟨_, rfl⟩
  | createSurface | beginFrame | render | outOfDate | error | imageReady | onResize
  | recreateSwapchain | schedule | throw | endEmptyFrame | gpuComplete =>
    exact ⟨[], (List.append_nil _).symm⟩

/-- What holds of every operation of a run held of them all the time. -/
theorem always_eachAfter_iff (R : List Operation → Operation → Prop) {as : List Action}
    (h : exec (step movedFrom) {} as = some s) :
    Always (step movedFrom) (fun s => EachAfter R s.operations) {} as ↔ EachAfter R s.operations := by
  refine always_iff_last (I := fun _ => True) (fun _ _ _ _ _ => trivial) ?_ trivial h
  intro s a t _ hs hstep ht
  obtain ⟨new, hnew⟩ := exists_operations_append (move_of_step hstep)
  rw [hnew] at ht
  exact hs ht.left

/-! ### The account -/

/-- The image that has been acquired and whose fence is being waited for. -/
def Waiting.acquired : Option Waiting → List SurfaceImage
  | some (.imageInFlight image) => [image]
  | _ => []

namespace State

/-- The images that the current frame has acquired. -/
def acquiredImages (s : State) : List SurfaceImage :=
  s.surfacesToPresent ++ Waiting.acquired s.waiting

def signalled (s : State) : Semaphore → Nat := total Operation.signals s.operations

def waited (s : State) : Semaphore → Nat := total Operation.waits s.operations

end State

section total

variable (surface : Nat) (index : FrameNumber) (x : Semaphore)

theorem total_waits_submit (batches : List VkSubmit) :
    total Operation.waits (batches.map .submit) x = total VkSubmit.waitSemaphores batches x :=
  total_map Operation.submit batches

@[simp] theorem waits_executorBatches (bundle : Option (Bundle CommandBuffer Unit)) :
    total VkSubmit.waitSemaphores (executorBatches bundle) x = 0 := by
  cases bundle <;> rfl

@[simp] theorem signals_executorBatches (bundle : Option (Bundle CommandBuffer Unit)) :
    total Operation.signals ((executorBatches bundle).map .submit) x = 0 := by
  cases bundle <;> rfl

@[simp] theorem signals_present (images : List SurfaceImage) (wait : Semaphore) :
    total Operation.signals (images.map (.present · wait)) x = 0 := by
  refine total_eq_zero fun op hop => ?_
  obtain ⟨image, -, rfl⟩ := List.mem_map.mp hop
  exact List.not_mem_nil

/-- The images are presented with `renderFinished`. -/
@[simp] theorem imageAvailable_present (images : List SurfaceImage) (frame : FrameNumber) :
    total Operation.waits (images.map (.present · (.renderFinished frame)))
      (.imageAvailable surface index) = 0 := by
  refine total_eq_zero fun op hop hmem => ?_
  obtain ⟨image, -, rfl⟩ := List.mem_map.mp hop
  exact Semaphore.noConfusion (List.mem_singleton.mp hmem)

end total

/-- The `imageAvailable` semaphores: all signals are of images that the frame has acquired or have been
waited on, and all waits are those of batches. -/
structure Accounted (s : State) : Prop where
  surface : ∀ image ∈ s.acquiredImages,
    ∃ index, image.imageAvailable = .imageAvailable image.surface index
  signalled : ∀ surface index, s.signalled (.imageAvailable surface index) =
    (s.acquiredImages.map (·.imageAvailable)).count (.imageAvailable surface index) +
      s.waited (.imageAvailable surface index)
  waited : ∀ surface index, s.waited (.imageAvailable surface index) =
    total VkSubmit.waitSemaphores (s.finished ++ s.pending) (.imageAvailable surface index)

theorem accounted_init : Accounted {} where
  surface := by simp [acquiredImages, Waiting.acquired]
  signalled _ _ := rfl
  waited _ _ := rfl

theorem Accounted.of_same (h : Accounted s) (himages : t.acquiredImages = s.acquiredImages)
    (hoperations : t.operations = s.operations)
    (hbatches : t.finished ++ t.pending = s.finished ++ s.pending) : Accounted t where
  surface := himages ▸ h.surface
  signalled surface index := by
    rw [State.signalled, State.waited, hoperations, himages]
    exact h.signalled surface index
  waited surface index := by
    rw [State.waited, hoperations, hbatches]
    exact h.waited surface index

theorem acquiredImages_of_idle (h : s.waiting = none) : s.acquiredImages = s.surfacesToPresent := by
  rw [acquiredImages, h]
  exact List.append_nil _

section Waiting

variable {image : SurfaceImage} {surface : Nat}

theorem acquiredImages_deviceIdle (h : s.waiting = none) (surface : Nat) :
    acquiredImages { s with waiting := some (.deviceIdle surface) } = s.acquiredImages := by
  rw [acquiredImages_of_idle h]
  exact List.append_nil _

/-- The image that has been waited for becomes one of the frame. -/
theorem acquiredImages_imageReady (h : s.waiting = some (.imageInFlight image)) :
    acquiredImages { s with
      surfacesToPresent := s.surfacesToPresent ++ [image]
      waiting := none } = s.acquiredImages := by
  unfold acquiredImages
  rw [h]
  exact List.append_nil _

theorem acquiredImages_recreateSwapchain (h : s.waiting = some (.deviceIdle surface)) :
    acquiredImages { s with waiting := none } = s.acquiredImages := by
  unfold acquiredImages
  rw [h]
  rfl

theorem acquiredImages_endFrame (h : s.waiting = none) :
    acquiredImages { s with surfacesToPresent := [] } = [] :=
  acquiredImages_of_idle h

end Waiting

theorem Accounted.move (h : Accounted s) (hmove : Move movedFrom s a t) : Accounted t := by
  cases hmove with
  | createSurface | beginFrame | render | schedule | throw | endEmptyFrame =>
    exact h.of_same rfl rfl rfl
  | acquire imageIndex hframe hwaiting hnew hthis =>
    have himages := acquiredImages_of_idle hwaiting
    refine ⟨fun image hmem => ?_, fun surface index => ?_, fun surface index => ?_⟩
    · rcases List.mem_append.mp hmem with hmem | hmem
      · exact h.surface image (himages ▸ hmem)
      · rw [List.mem_singleton.mp hmem]
        exact ⟨_, rfl⟩
    · have hsignalled := h.signalled surface index
      simp only [himages, State.signalled, State.waited] at hsignalled
      simp only [State.signalled, State.waited, acquiredImages, Waiting.acquired, total_append,
        total_cons, total_nil, List.map_append, List.count_append, List.map_cons, List.map_nil,
        Operation.signals, Operation.waits, List.count_nil]
      omega
    · have hwaited := h.waited surface index
      simpa [State.waited, Operation.waits] using hwaited
  | outOfDate hframe hwaiting hnew =>
    exact h.of_same (acquiredImages_deviceIdle hwaiting _) rfl rfl
  | error hframe hwaiting => exact h.of_same rfl rfl rfl
  | imageReady hwaiting hsame => exact h.of_same (acquiredImages_imageReady hwaiting) rfl rfl
  | onResize surface hwaiting =>
    exact h.of_same (acquiredImages_deviceIdle hwaiting surface) rfl rfl
  | recreateSwapchain images hwaiting hidle hsame =>
    exact h.of_same (acquiredImages_recreateSwapchain hwaiting) rfl rfl
  | submitCommandBuffer htask hsubmit =>
    refine ⟨h.surface, fun surface index => ?_, fun surface index => ?_⟩
    · have hsignalled := h.signalled surface index
      simp only [State.signalled, State.waited] at hsignalled
      simp only [State.signalled, State.waited, total_append, total_waits_submit,
        waits_executorBatches, signals_executorBatches, Nat.add_zero]
      exact hsignalled
    · have hwaited := h.waited surface index
      simp only [State.waited] at hwaited
      simpa [State.waited, total_waits_submit] using hwaited
  | endFrame himages hframe hwaiting =>
    have hacquired := acquiredImages_of_idle hwaiting
    have hnone := acquiredImages_endFrame hwaiting
    refine ⟨fun image hmem => ?_, fun surface index => ?_, fun surface index => ?_⟩
    · exact absurd (hnone ▸ hmem) List.not_mem_nil
    · have hsignalled := h.signalled surface index
      simp only [hacquired, State.signalled, State.waited] at hsignalled
      unfold acquiredImages at hnone ⊢
      simp only [State.signalled, State.waited, hnone, total_append, total_cons,
        Operation.signals, Operation.waits, frameBatch, signals_present, imageAvailable_present,
        List.map_nil, List.count_nil]
      rw [List.count_eq_zero.mpr (by simp)]
      omega
    · have hwaited := h.waited surface index
      simp only [State.waited] at hwaited
      simp only [State.waited, total_append, total_cons, total_nil, Operation.waits,
        imageAvailable_present, hwaited]
      omega
  | gpuComplete hpending =>
    refine h.of_same rfl rfl ?_
    rw [hpending]
    exact List.append_assoc _ [_] _

end Teide.Surface
