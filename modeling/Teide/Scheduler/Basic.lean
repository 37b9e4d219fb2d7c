import Mathlib.Tactic.Common
import Teide.GpuExecutor.Basic

/-!
# Scheduling GPU work

`ScheduleGpu` reserves a slot of the GPU executor and launches a task, which records into a command
buffer by calling the callback and then submits it to the slot. An exception of the callback ends the
task before that.

A call of `ScheduleGpu` is named by the number of calls before it, and so are the command buffer and
the completion handler of its task. An action is one critical section. The others of a task, and what
its callback does, touch neither the slots nor what is submitted.
-/

namespace Teide.Scheduler

open Runs

structure Task where
  call : Nat
  sequenceIndex : UInt32
  /-- its callback throws -/
  throws : Bool

structure State where
  gpuExecutor : GpuExecutor Nat Nat := {}
  /-- launched and not finished -/
  tasks : List Task := []
  /-- the command buffers submitted so far, in the order of submission -/
  submitted : List Nat := []
  /-- for each call so far, whether its callback throws -/
  calls : List Bool := []

inductive Action where
  | scheduleGpu (throws : Bool)
  /-- the task at a position of `tasks` finishes -/
  | finishTask (position : Nat)

namespace State

def scheduleGpu (s : State) (throws : Bool) : State :=
  let r := s.gpuExecutor.addCommandBufferSlot
  { s with
    gpuExecutor := r.2
    tasks := s.tasks ++ [⟨s.calls.length, r.1, throws⟩]
    calls := s.calls ++ [throws] }

def runTask (movedFrom : Nat → Option Nat) (s : State) (task : Task) : State :=
  if task.throws then s
  else
    match s.gpuExecutor.submitCommandBuffer movedFrom task.sequenceIndex (some task.call)
      (some task.call) with
    | some r =>
      { s with
        gpuExecutor := r.2
        submitted := s.submitted ++ r.1.toList.flatMap (·.commandBuffers) }
    -- `at` throws
    | none => s

def step (movedFrom : Nat → Option Nat) (s : State) : Action → Option State
  | .scheduleGpu throws => some (s.scheduleGpu throws)
  | .finishTask position => s.tasks[position]?.map fun task =>
    { s.runTask movedFrom task with tasks := s.tasks.eraseIdx position }

end State

end Teide.Scheduler
