import Mathlib.Algebra.Ring.Nat
import Mathlib.Tactic.Common
import Teide.GpuExecutor.Basic

/-!
# Frames of the renderer

`VulkanRenderer` and `GpuExecutor` keep the resources of the frames in flight in a `FrameArray`
each: the renderer the fence of the frame and the parameter blocks its work reads, the executor the
command pools its command buffers come from. `BeginFrame` waits for the fence of the slot it is about
to use and then resets the resources of that slot in both arrays. `EndFrame` waits for the CPU tasks
and submits the fence, behind everything that the frame has submitted.

A piece of work is named by the number of pieces scheduled before it. Its task takes a command buffer
from the executor's current slot (`getCommandBuffer`), records into it with parameter blocks of the
renderer's current slot, and hands it to `SubmitCommandBuffer` (`submitCommandBuffer`), unless its
callback throws before that (`throw`). The completion handler of a piece of work sets its promise and
is named like the work. Executor and renderer submit to the same `VkQueue`, where the GPU finishes
the submissions in order, at any time (`gpuComplete`).

A frame goes from `beginFrame` to `endFrame`, and work is scheduled and surfaces are added in frames
only. `addSurface` is an `AddSurfaceToPresent` that acquires an image; one that does not changes
nothing. Acquiring an image may have to wait for a fence, which the model does not insist on.
-/

namespace Teide

structure FrameArray (τ : Type*) (n : Nat) where
  storage : Fin n → τ
  frameNumber : Fin n

namespace FrameArray

variable {τ : Type*} {n : Nat}

/-- The frame number goes up by one, modulo `n`. -/
def nextFrame [NeZero n] (f : FrameArray τ n) : FrameArray τ n :=
  { f with frameNumber := f.frameNumber + 1 }

def current (f : FrameArray τ n) : τ := f.storage f.frameNumber

def setCurrent (f : FrameArray τ n) (x : τ) : FrameArray τ n :=
  { f with storage := fun k => if k = f.frameNumber then x else f.storage k }

section

variable {f : FrameArray τ n} {x : τ} {k : Fin n}

@[simp] theorem current_setCurrent : (f.setCurrent x).current = x := if_pos rfl

theorem storage_setCurrent_of_ne (hk : k ≠ f.frameNumber) :
    (f.setCurrent x).storage k = f.storage k := if_neg hk

/-- What holds of the new current slot and of the old slots holds of all slots. -/
theorem forall_setCurrent {P : Fin n → τ → Prop} (hx : P f.frameNumber x)
    (hf : ∀ k, P k (f.storage k)) (k : Fin n) : P k ((f.setCurrent x).storage k) := by
  by_cases hk : k = f.frameNumber
  · rw [hk, show (f.setCurrent x).storage f.frameNumber = x from current_setCurrent]
    exact hx
  · rw [storage_setCurrent_of_ne hk]
    exact hf k

/-- A new current slot that agrees with the old one about `g` changes `g` nowhere. -/
theorem map_setCurrent {υ : Type*} {g : τ → υ} (hx : g x = g f.current) :
    ∀ k, g ((f.setCurrent x).storage k) = g (f.storage k) :=
  forall_setCurrent (P := fun k y => g y = g (f.storage k)) hx fun _ => rfl

end

end FrameArray

namespace Renderer

abbrev maxFramesInFlight : Nat := 2

instance : NeZero maxFramesInFlight := ⟨by decide⟩

/-- `VulkanRenderer::FrameResources`. The fence is created signalled. The parameter blocks (scene
and view) are given by the work that records them. -/
structure FrameResources where
  inFlightFence : Bool := true
  parameters : List Nat := []

/-- One `vkQueueSubmit`. The fence, if it is one of the renderer's, is given by its slot. -/
structure VkSubmit where
  commandBuffers : List Nat
  fence : Option (Fin maxFramesInFlight)

/-- A task that `ScheduleGpu` has launched. -/
structure Task where
  sequenceIndex : UInt32
  work : Nat

structure State where
  inFrame : Bool := false
  frameResources : FrameArray FrameResources maxFramesInFlight := ⟨fun _ => {}, 0⟩
  surfacesToPresent : List Nat := []
  /-- the executor's frame resources: the work recorded into command buffers of each slot -/
  commandPools : FrameArray (List Nat) maxFramesInFlight := ⟨fun _ => [], 0⟩
  executor : GpuExecutor Nat Nat := {}
  /-- tasks that have not started, and tasks that are recording -/
  launched : List Task := []
  recording : List Task := []
  /-- what the GPU has finished, and what it has been given and not finished -/
  finished : List VkSubmit := []
  pending : List VkSubmit := []

inductive Action where
  | beginFrame
  | schedule
  | getCommandBuffer (task : Nat)
  | submitCommandBuffer (task : Nat)
  | throw (task : Nat)
  | addSurface (surface : Nat)
  | endFrame
  | gpuComplete

namespace State

/-- The work that the GPU has finished. -/
def finishedWork (s : State) : List Nat := s.finished.flatMap (·.commandBuffers)

/-- `GpuExecutor::NextFrame`, with `ThreadResources::Reset` for the new slot. -/
def schedulerNextFrame (s : State) : State :=
  { s with commandPools := s.commandPools.nextFrame.setCurrent [] }

def beginFrame (s : State) : Option State :=
  let frameResources := s.frameResources.nextFrame
  -- the wait for the fence has no timeout
  if frameResources.current.inFlightFence then
    some { s.schedulerNextFrame with
      inFrame := true
      frameResources := frameResources.setCurrent { frameResources.current with parameters := [] } }
  else none

def schedule (s : State) : State :=
  let (sequenceIndex, executor) := s.executor.addCommandBufferSlot
  { s with
    executor := executor
    launched := s.launched ++ [⟨sequenceIndex, s.executor.readyCommandBuffers.length⟩] }

def getCommandBuffer (s : State) (i : Nat) (task : Task) : State :=
  { s with
    launched := s.launched.eraseIdx i
    recording := s.recording ++ [task]
    commandPools := s.commandPools.setCurrent (s.commandPools.current ++ [task.work])
    frameResources := s.frameResources.setCurrent { s.frameResources.current with
      parameters := s.frameResources.current.parameters ++ [task.work] } }

/-- The end of a task; `Queue::Submit` attaches a fence of its own. -/
def submitCommandBuffer (movedFrom : Nat → Option Nat) (s : State) (i : Nat) (task : Task) :
    Option State :=
  (s.executor.submitCommandBuffer movedFrom task.sequenceIndex (some task.work)
    (some task.work)).map fun (bundle, executor) =>
      { s with
        recording := s.recording.eraseIdx i
        executor := executor
        pending := s.pending ++ bundle.toList.map (⟨·.commandBuffers, none⟩) }

/-- `EndFrame`, once all tasks are done. -/
def endFrame (s : State) : State :=
  if s.surfacesToPresent.isEmpty then { s with inFrame := false }
  else
    { s with
      inFrame := false
      surfacesToPresent := []
      frameResources := s.frameResources.setCurrent
        { s.frameResources.current with inFlightFence := false }
      pending := s.pending ++ [⟨[], some s.frameResources.frameNumber⟩] }

def gpuComplete (s : State) : Option State :=
  match s.pending with
  | [] => none
  | submit :: rest =>
    some { s with
      finished := s.finished ++ [submit]
      pending := rest
      frameResources := { s.frameResources with
        storage := fun k =>
          if submit.fence = some k then { s.frameResources.storage k with inFlightFence := true }
          else s.frameResources.storage k } }

def step (movedFrom : Nat → Option Nat) (s : State) : Action → Option State
  | .beginFrame => if s.inFrame then none else s.beginFrame
  | .schedule => if s.inFrame then some s.schedule else none
  | .getCommandBuffer i => s.launched[i]?.map (s.getCommandBuffer i)
  | .submitCommandBuffer i => s.recording[i]?.bind (s.submitCommandBuffer movedFrom i)
  | .throw i => s.recording[i]?.map fun _ => { s with recording := s.recording.eraseIdx i }
  | .addSurface surface =>
    if s.inFrame then
      if surface ∈ s.surfacesToPresent then some s
      else some { s with surfacesToPresent := s.surfacesToPresent ++ [surface] }
    else none
  | .endFrame =>
    if s.inFrame ∧ s.launched = [] ∧ s.recording = [] then some s.endFrame else none
  | .gpuComplete => s.gpuComplete

end State

end Renderer

end Teide
