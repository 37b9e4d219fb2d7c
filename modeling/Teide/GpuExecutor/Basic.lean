import Mathlib.Tactic.Common
import Teide.Lib.Runs
import Teide.Lib.ReorderBuffer

/-!
# Command buffer slots of the GPU executor

`GpuExecutor` hands out a slot per scheduled piece of GPU work (`addCommandBufferSlot`). Worker
threads fill the slots in the order they finish (`submitCommandBuffer`), and a call that fills the
first unsubmitted slot passes the longest filled run of slots to `Queue::Submit` in one go.

The command buffers `χ` and the completion handlers `φ` are arbitrary types. A null command buffer
and an empty `OnCompleteFunction` are `none`. Handlers are moved out of their array into the bundle
that is submitted. What the move leaves behind is up to the function library, so it is a parameter
`movedFrom`: the value the array holds for a handler once it has been moved from.

A run is a list of calls, each atomic (`Scheduler` makes them through `Synchronized::Lock`).
`History` records, besides the executor, what each slot was filled with and what has been submitted.
-/

namespace Teide

open ReorderBuffer Runs

/-- One call of `Queue::Submit`: the command buffers, and the handlers its callback will call. -/
structure Bundle (χ φ : Type*) where
  commandBuffers : List χ
  callbacks : List φ

structure GpuExecutor (χ φ : Type*) where
  readyCommandBuffers : List (Option χ) := []
  completionHandlers : List (Option φ) := []
  numSubmittedCommandBuffers : Nat := 0

namespace GpuExecutor

variable {χ φ : Type*}

def addCommandBufferSlot (ex : GpuExecutor χ φ) : UInt32 × GpuExecutor χ φ :=
  let ready := ex.readyCommandBuffers ++ [none]
  (UInt32.ofNat (ready.length - 1),
    { ex with
      readyCommandBuffers := ready
      completionHandlers := ex.completionHandlers ++ [none] })

/-- The second half of `SubmitCommandBuffer`, after the slot has been filled. -/
def submitReady (movedFrom : φ → Option φ) (ex : GpuExecutor χ φ) :
    Option (Bundle χ φ) × GpuExecutor χ φ :=
  let unsubmittedCommandBuffers := ex.readyCommandBuffers.drop ex.numSubmittedCommandBuffers
  let unsubmittedCompletionHandlers := ex.completionHandlers.drop ex.numSubmittedCommandBuffers
  -- up to the first null handle
  let commandBuffersToSubmit := filledPrefix unsubmittedCommandBuffers
  if commandBuffersToSubmit.isEmpty then (none, ex)
  else
    -- every handler that is not null, wherever the command buffers end
    (some ⟨commandBuffersToSubmit, unsubmittedCompletionHandlers.reduceOption⟩,
      { ex with
        completionHandlers := ex.completionHandlers.take ex.numSubmittedCommandBuffers ++
          unsubmittedCompletionHandlers.map (·.bind movedFrom)
        numSubmittedCommandBuffers :=
          ex.numSubmittedCommandBuffers + commandBuffersToSubmit.length })

/-- `none` when `at` throws because the slot does not exist. -/
def submitCommandBuffer (movedFrom : φ → Option φ) (ex : GpuExecutor χ φ) (index : UInt32)
    (commandBuffer : Option χ) (func : Option φ) :
    Option (Option (Bundle χ φ) × GpuExecutor χ φ) :=
  if index.toNat < ex.readyCommandBuffers.length ∧ index.toNat < ex.completionHandlers.length then
    some <| submitReady movedFrom
      { ex with
        readyCommandBuffers := ex.readyCommandBuffers.set index.toNat commandBuffer
        completionHandlers := ex.completionHandlers.set index.toNat func }
  else none

/-! ### Runs -/

/-- A submission, with the slot its first command buffer came from. -/
structure Submission (χ φ : Type*) extends Bundle χ φ where
  firstSlot : Nat

/-- What a slot is filled with: the two arguments of `SubmitCommandBuffer`. -/
abbrev Filling (χ φ : Type*) := χ × Option φ

structure History (χ φ : Type*) where
  executor : GpuExecutor χ φ := {}
  /-- what each slot handed out so far has been filled with -/
  given : List (Option (Filling χ φ)) := []
  submissions : List (Submission χ φ) := []

inductive Call (χ φ : Type*) where
  | addCommandBufferSlot
  | submitCommandBuffer (index : UInt32) (commandBuffer : χ) (func : Option φ)

namespace History

/-- The command buffers of the slots, by slot. -/
def commandBuffers (h : History χ φ) : List (Option χ) := h.given.map (Option.map Prod.fst)

/-- The completion handlers the slots were given, by slot. -/
def handlers (h : History χ φ) : List (Option φ) := h.given.map (·.bind Prod.snd)

/-- All command buffers submitted so far, in the order of submission. -/
def submitted (h : History χ φ) : List χ := h.submissions.flatMap (·.commandBuffers)

/-- All handlers handed to the queue so far. -/
def handedOver (h : History χ φ) : List φ := h.submissions.flatMap (·.callbacks)

/-- One call. The callers fill a slot that was handed out, and fill it once. -/
def step (movedFrom : φ → Option φ) (h : History χ φ) : Call χ φ → Option (History χ φ)
  | .addCommandBufferSlot =>
    some { h with
      executor := h.executor.addCommandBufferSlot.2
      given := h.given ++ [none] }
  | .submitCommandBuffer index commandBuffer func =>
    match h.given[index.toNat]? with
    | some none =>
      (h.executor.submitCommandBuffer movedFrom index (some commandBuffer) func).map fun r =>
        { executor := r.2
          given := h.given.set index.toNat (some (commandBuffer, func))
          submissions := h.submissions ++ r.1.toList.map
            (⟨·, h.executor.numSubmittedCommandBuffers⟩) }
    | _ => none

/-- Three slots, filled in the order 2, 0, 1. -/
def outOfOrderCalls : List (Call Nat Nat) :=
  [.addCommandBufferSlot, .addCommandBufferSlot, .addCommandBufferSlot,
    .submitCommandBuffer 2 12 (some 22), .submitCommandBuffer 0 10 (some 20),
    .submitCommandBuffer 1 11 none]

end History

/-- The slots whose command buffers are in a submission. -/
def Submission.slots (sub : Submission χ φ) (given : List (Option (Filling χ φ))) :
    List (Option (Filling χ φ)) :=
  (given.drop sub.firstSlot).take sub.commandBuffers.length

end GpuExecutor

end Teide
