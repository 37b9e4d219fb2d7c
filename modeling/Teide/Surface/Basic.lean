import Mathlib.Algebra.Ring.Nat
import Mathlib.Tactic.Common
import Teide.Lib.Semaphores
import Teide.Renderer.Basic

/-!
# Surfaces

`RenderToSurface` takes an image of the surface for the frame, unless the frame has one of it already,
and schedules the work that renders to it. `AcquireNextImage` passes one of the two `imageAvailable`
semaphores of the surface to the presentation engine, in turn, and remembers in `m_imagesInFlight`
which fence the frame of the image will signal. `EndFrame` waits for the CPU tasks and then submits a
batch without command buffers: it waits on the semaphores of all images of the frame and signals
`renderFinished`, on which every `PresentImage` waits.

Where a call waits for the GPU, the rest of it is an action of its own: `imageReady` is
`AcquireNextImage` from its second fence on, and `recreateSwapchain` is `RecreateSwapchain` from the
device being idle on. Other threads run the tasks that record the work and hand it to
`SubmitCommandBuffer`; a task whose callback throws does not get there. The GPU finishes the
submissions in order, at any time.

A fence is named by the slot of the frame resources it belongs to. A command buffer is given by the
image that it renders to, and completion handlers are not told apart. `operations` is the history of
all that waits on a semaphore or signals one, in the order of submission. The swapchain, its images and
their framebuffers are left out.
-/

namespace Teide.Surface

open Renderer (maxFramesInFlight)

abbrev FrameNumber := Fin maxFramesInFlight

inductive Semaphore where
  | imageAvailable (surface : Nat) (index : FrameNumber)
  | renderFinished (frame : FrameNumber)
  deriving DecidableEq

structure VulkanSurface where
  nextSemaphoreIndex : FrameNumber := 0
  imagesInFlight : List (Option FrameNumber) := []

structure SurfaceImage where
  surface : Nat
  imageIndex : Nat
  imageAvailable : Semaphore
  /-- the place of the acquisition among the operations -/
  acquired : Nat
  deriving DecidableEq

structure CommandBuffer where
  target : Option SurfaceImage
  deriving DecidableEq

/-- `vkex::SubmitInfo` and the fence -/
structure VkSubmit where
  waitSemaphores : List Semaphore := []
  commandBuffers : List CommandBuffer := []
  signalSemaphores : List Semaphore := []
  fence : Option FrameNumber := none

inductive Operation where
  | acquireNextImage (semaphore : Semaphore)
  | submit (batch : VkSubmit)
  | present (image : SurfaceImage) (waitSemaphore : Semaphore)

def Operation.waits : Operation → List Semaphore
  | .acquireNextImage _ => []
  | .submit batch => batch.waitSemaphores
  | .present _ waitSemaphore => [waitSemaphore]

def Operation.signals : Operation → List Semaphore
  | .acquireNextImage semaphore => [semaphore]
  | .submit batch => batch.signalSemaphores
  | .present _ _ => []

/-- What `vkAcquireNextImageKHR` returns. -/
inductive AcquireResult where
  | success (imageIndex : Nat)
  | suboptimal (imageIndex : Nat)
  | errorOutOfDate
  | error

/-- A call of the renderer's thread that waits for the GPU. -/
inductive Waiting where
  | imageInFlight (image : SurfaceImage)
  | deviceIdle (surface : Nat)

/-- A task that `ScheduleGpu` has launched. -/
structure Task where
  sequenceIndex : UInt32
  commandBuffer : CommandBuffer

structure State where
  inFrame : Bool := false
  /-- whether the fences of the frame resources are signalled -/
  inFlightFences : FrameArray Bool maxFramesInFlight := ⟨fun _ => true, 0⟩
  surfaces : List VulkanSurface := []
  surfacesToPresent : List SurfaceImage := []
  waiting : Option Waiting := none
  executor : GpuExecutor CommandBuffer Unit := {}
  tasks : List Task := []
  operations : List Operation := []
  finished : List VkSubmit := []
  pending : List VkSubmit := []

inductive Action where
  | createSurface (images : Nat)
  | beginFrame
  | renderToSurface (surface : Nat) (result : AcquireResult)
  | imageReady
  | onResize (surface : Nat)
  | recreateSwapchain (images : Nat)
  | schedule
  | submitCommandBuffer (task : Nat)
  | throw (task : Nat)
  | endFrame
  | gpuComplete

namespace VulkanSurface

/-- A new swapchain with as many images. -/
def createSwapchainAndImages (surface : VulkanSurface) (images : Nat) : VulkanSurface :=
  { surface with
    -- `resize`
    imagesInFlight := surface.imagesInFlight.take images ++
      List.replicate (images - surface.imagesInFlight.length) none }

def getNextSemaphore (surface : VulkanSurface) : FrameNumber × VulkanSurface :=
  (surface.nextSemaphoreIndex,
    { surface with nextSemaphoreIndex := surface.nextSemaphoreIndex + 1 })

end VulkanSurface

namespace State

def image? (s : State) (surface : Nat) : Option SurfaceImage :=
  s.surfacesToPresent.find? (·.surface = surface)

def beginFrame (s : State) : Option State :=
  let inFlightFences := s.inFlightFences.nextFrame
  if inFlightFences.current then some { s with inFrame := true, inFlightFences } else none

def scheduleGpu (s : State) (target : Option SurfaceImage) : State :=
  let (sequenceIndex, executor) := s.executor.addCommandBufferSlot
  { s with
    executor
    tasks := s.tasks ++ [⟨sequenceIndex, { target }⟩] }

/-- `AcquireNextImage` up to the fence of the image. -/
def acquireNextImage (s : State) (surface : Nat) (this : VulkanSurface) (result : AcquireResult) :
    Option State :=
  if s.inFlightFences.current then
    let (index, this) := this.getNextSemaphore
    let semaphore := .imageAvailable surface index
    let s := { s with surfaces := s.surfaces.set surface this }
    match result with
    | .success imageIndex | .suboptimal imageIndex =>
      if imageIndex < this.imagesInFlight.length then
        some { s with
          waiting := some (.imageInFlight
            { surface, imageIndex, imageAvailable := semaphore, acquired := s.operations.length })
          operations := s.operations ++ [.acquireNextImage semaphore] }
      else none
    | .errorOutOfDate => some { s with waiting := some (.deviceIdle surface) }
    | .error => some s
  else none

def renderToSurface (s : State) (surface : Nat) (result : AcquireResult) : Option State :=
  match s.image? surface with
  | some image => some (s.scheduleGpu (some image))
  | none => s.surfaces[surface]?.bind fun this => s.acquireNextImage surface this result

/-- The fence that `AcquireNextImage` waits for once it has got the image. -/
def imageFence (s : State) (image : SurfaceImage) : Option FrameNumber :=
  s.surfaces[image.surface]?.bind fun this => this.imagesInFlight[image.imageIndex]?.join

/-- The rest of `AcquireNextImage` and of `RenderToSurface`. -/
def imageReady (s : State) (image : SurfaceImage) : Option State :=
  if (s.imageFence image).all s.inFlightFences.storage then
    let s := { s with
      surfaces := s.surfaces.modify image.surface fun this => { this with
        imagesInFlight :=
          this.imagesInFlight.set image.imageIndex (some s.inFlightFences.frameNumber) }
      surfacesToPresent := s.surfacesToPresent ++ [image]
      waiting := none }
    some (s.scheduleGpu (some image))
  else none

/-- `RecreateSwapchain` after `waitIdle`. -/
def recreateSwapchain (s : State) (surface : Nat) (images : Nat) : Option State :=
  if s.pending.isEmpty then
    some { s with
      surfaces := s.surfaces.modify surface (·.createSwapchainAndImages images)
      waiting := none }
  else none

def submitCommandBuffer (movedFrom : Unit → Option Unit) (s : State) (i : Nat) (task : Task) :
    Option State :=
  (s.executor.submitCommandBuffer movedFrom task.sequenceIndex (some task.commandBuffer)
    (some ())).map fun (bundle, executor) =>
      let batches := bundle.toList.map fun bundle =>
        ({ commandBuffers := bundle.commandBuffers } : VkSubmit)
      { s with
        tasks := s.tasks.eraseIdx i
        executor
        operations := s.operations ++ batches.map .submit
        pending := s.pending ++ batches }

/-- What `EndFrame` submits. -/
def frameBatch (s : State) : VkSubmit :=
  { waitSemaphores := s.surfacesToPresent.map (·.imageAvailable)
    signalSemaphores := [.renderFinished s.inFlightFences.frameNumber]
    fence := some s.inFlightFences.frameNumber }

/-- `EndFrame` after `WaitForCpu`. -/
def endFrame (s : State) : State :=
  if s.surfacesToPresent.isEmpty then { s with inFrame := false }
  else
    { s with
      inFrame := false
      surfacesToPresent := []
      inFlightFences := s.inFlightFences.setCurrent false
      operations := s.operations ++ .submit s.frameBatch ::
        s.surfacesToPresent.map (.present · (.renderFinished s.inFlightFences.frameNumber))
      pending := s.pending ++ [s.frameBatch] }

def gpuComplete (s : State) : Option State :=
  match s.pending with
  | [] => none
  | batch :: rest =>
    some { s with
      finished := s.finished ++ [batch]
      pending := rest
      inFlightFences := { s.inFlightFences with
        storage := fun k => s.inFlightFences.storage k || batch.fence = some k } }

def step (movedFrom : Unit → Option Unit) (s : State) : Action → Option State
  | .createSurface images =>
    some { s with surfaces := s.surfaces ++ [({} : VulkanSurface).createSwapchainAndImages images] }
  | .beginFrame => if s.inFrame ∨ s.waiting.isSome then none else s.beginFrame
  | .renderToSurface surface result =>
    if s.inFrame ∧ s.waiting.isNone then s.renderToSurface surface result else none
  | .imageReady =>
    match s.waiting with
    | some (.imageInFlight image) => s.imageReady image
    | _ => none
  | .onResize surface =>
    if s.waiting.isSome then none
    else s.surfaces[surface]?.map fun _ => { s with waiting := some (.deviceIdle surface) }
  | .recreateSwapchain images =>
    match s.waiting with
    | some (.deviceIdle surface) => s.recreateSwapchain surface images
    | _ => none
  | .schedule => some (s.scheduleGpu none)
  | .submitCommandBuffer i => s.tasks[i]?.bind (s.submitCommandBuffer movedFrom i)
  | .throw i => s.tasks[i]?.map fun _ => { s with tasks := s.tasks.eraseIdx i }
  | .endFrame =>
    if s.inFrame ∧ s.waiting.isNone ∧ s.tasks = [] then some s.endFrame else none
  | .gpuComplete => s.gpuComplete

end State

end Teide.Surface
