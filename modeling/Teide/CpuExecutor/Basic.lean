import Mathlib.Logic.Function.Basic
import Mathlib.Tactic.Common
import Teide.Lib.Runs

/-!
# The CPU executor and its scheduler thread

`LaunchTask` hands a task to the taskflow executor as an `async`. With a dependency it puts the task
into `m_scheduledTasks` instead, where the scheduler thread polls it and hands it over once the
dependency's future is ready. `WaitForTasks` waits for all asyncs, for `m_scheduledTasks` to be empty,
and for all asyncs again. The destructor stops and joins the scheduler thread, and then calls
`WaitForTasks`.

`step` has the atomic actions:

* `launchTask`, `launchTaskAfter`: the overloads of `LaunchTask`. The latter runs under the mutex;
* `complete`: a future that is not of one of the tasks becomes ready;
* `start`, `resolve`, `finish`: a worker starts an async, its callable ends and its future is ready,
  taskflow counts the async as finished;
* `checkStop`, `lockScheduler`, `poll`, `eraseDone`: the scheduler thread at the head of its loop, and
  then, holding the mutex from `lockScheduler` to `eraseDone`, in a round over the scheduled tasks;
* `waitForTasks`, `wait`: a call of `WaitForTasks`, and its next step. `wait_for_all` returns at an
  instant when no async is unfinished;
* `destroy`, `join`: the two ends of the destructor's wait for the scheduler thread.

A task is named by the number of tasks launched before it. Values are left out: a future that is
ready holds some value or an exception. An exception that leaves the scheduler thread's function
terminates the program, and nothing happens after that.
-/

namespace Teide.CpuExecutor

inductive Result where
  | value
  | exception
  deriving DecidableEq

/-- A `Task<T>`: the future of a task launched here, or any other one. -/
inductive Future where
  | task (n : Nat)
  | other (n : Nat)

/-- A task that has been launched, and what its future holds. -/
structure Task where
  dependency : Option Future := none
  result : Option Result := none

inductive Phase where
  | queued
  | running
  | returned
  | finished
  deriving DecidableEq

structure Async where
  task : Nat
  phase : Phase := .queued
  deriving DecidableEq

/-- Where the scheduler thread is. -/
inductive Thread where
  | loopHead
  | sleeping
  /-- the mutex is locked, and the loop has come to a position of `m_scheduledTasks` -/
  | polling (position : Nat)
  | exited
  | terminated
  deriving DecidableEq

inductive WaitPhase where
  | firstWait
  | hasScheduledTasks
  | loopWait
  | lastWait
  | returned
  deriving DecidableEq

/-- A call of `WaitForTasks`, with the number of tasks launched before it. -/
structure Waiter where
  launched : Nat
  phase : WaitPhase := .firstWait
  deriving DecidableEq

structure State where
  tasks : List Task := []
  others : Nat → Option Result := fun _ => none
  asyncs : List Async := []
  /-- an entry is null once the loop has taken the task -/
  scheduledTasks : List (Option Nat) := []
  thread : Thread := .loopHead
  schedulerStop : Bool := false
  waiters : List Waiter := []
  /-- the destructor's call of `WaitForTasks`, once it has joined the thread -/
  joined : Option Nat := none
  /-- the tasks that a poll has found ready, and what their dependencies held -/
  found : List (Nat × Result) := []

inductive Action where
  | launchTask
  | launchTaskAfter (dependency : Future)
  | complete (other : Nat) (result : Result)
  | start (async : Nat)
  | resolve (async : Nat) (result : Result)
  | finish (async : Nat)
  | checkStop
  | lockScheduler
  | poll
  | eraseDone
  | waitForTasks
  | wait (waiter : Nat)
  | destroy
  | join

namespace State

/-- What a future holds, if it is ready. -/
def get (s : State) : Future → Option Result
  | .task n => s.tasks[n]?.bind (·.result)
  | .other n => s.others n

def dependency (s : State) (n : Nat) : Option Future := s.tasks[n]?.bind (·.dependency)

/-- The scheduler thread holds the mutex. -/
def locked (s : State) : Bool :=
  match s.thread with
  | .polling _ => true
  | _ => false

def allFinished (s : State) : Bool := s.asyncs.all (·.phase = .finished)

def launchTaskImpl (s : State) (n : Nat) : State :=
  { s with asyncs := s.asyncs ++ [{ task := n }] }

/-- The futures there are: those of tasks launched here have been returned by `LaunchTask`. -/
def Valid (s : State) : Future → Prop
  | .task n => n < s.tasks.length
  | .other _ => True

instance (s : State) : ∀ f, Decidable (s.Valid f)
  | .task n => inferInstanceAs (Decidable (n < s.tasks.length))
  | .other _ => .isTrue trivial

/-- The loop's body for the task `n` at a position, with what its dependency holds: `IsReady`, and then
`Execute` after the entry has been exchanged for null. -/
def poll (s : State) (position n : Nat) : Option Result → State
  | none => { s with thread := .polling (position + 1) }
  | some .value =>
    { s.launchTaskImpl n with
      scheduledTasks := s.scheduledTasks.set position none
      thread := .polling (position + 1)
      found := s.found ++ [(n, .value)] }
  -- `get` throws
  | some .exception =>
    { s with
      scheduledTasks := s.scheduledTasks.set position none
      thread := .terminated
      found := s.found ++ [(n, .exception)] }

def eraseDone (s : State) : State :=
  { s with scheduledTasks := s.scheduledTasks.filter (·.isSome), thread := .loopHead }

/-- Where a call of `WaitForTasks` goes next, if it can go on. -/
def nextPhase (s : State) : WaitPhase → Option WaitPhase
  | .firstWait | .loopWait => if s.allFinished then some .hasScheduledTasks else none
  | .hasScheduledTasks =>
    if s.locked then none else some (if s.scheduledTasks.isEmpty then .lastWait else .loopWait)
  | .lastWait => if s.allFinished then some .returned else none
  | .returned => none

def advance (s : State) (k : Nat) (phase phase' : Phase) : Option State :=
  s.asyncs[k]?.bind fun async =>
    if async.phase = phase then
      some { s with asyncs := s.asyncs.set k { async with phase := phase' } }
    else none

/-- The future of the async's task becomes ready. -/
def setResult (s : State) (k : Nat) (result : Result) : State :=
  match s.asyncs[k]? with
  | some async =>
    { s with tasks := s.tasks.modify async.task ({ · with result := some result }) }
  | none => s

/-- An action, as long as the program has not been terminated. -/
def act (s : State) : Action → Option State
  | .launchTask =>
    let t : State := { s with tasks := s.tasks ++ [{ dependency := none }] }
    some (t.launchTaskImpl s.tasks.length)
  | .launchTaskAfter dependency =>
    if ¬ s.locked ∧ s.Valid dependency then
      some { s with
        tasks := s.tasks ++ [{ dependency := some dependency }]
        scheduledTasks := s.scheduledTasks ++ [some s.tasks.length] }
    else none
  | .complete other result =>
    if s.others other = none then
      some { s with others := Function.update s.others other (some result) }
    else none
  | .start k => s.advance k .queued .running
  | .resolve k result => (s.advance k .running .returned).map fun t => t.setResult k result
  | .finish k => s.advance k .returned .finished
  | .checkStop =>
    if s.thread = .loopHead then
      some { s with thread := if s.schedulerStop then .exited else .sleeping }
    else none
  | .lockScheduler =>
    if s.thread = .sleeping then some { s with thread := .polling 0 } else none
  | .poll =>
    match s.thread with
    | .polling position =>
      match s.scheduledTasks[position]? with
      | some (some n) => some (s.poll position n ((s.dependency n).bind s.get))
      | _ => none
    | _ => none
  | .eraseDone =>
    if s.thread = .polling s.scheduledTasks.length then some s.eraseDone else none
  | .waitForTasks =>
    some { s with waiters := s.waiters ++ [{ launched := s.tasks.length }] }
  | .wait k => s.waiters[k]?.bind fun waiter => (s.nextPhase waiter.phase).map fun phase =>
    { s with waiters := s.waiters.set k { waiter with phase := phase } }
  | .destroy => if s.schedulerStop then none else some { s with schedulerStop := true }
  | .join =>
    if s.thread = .exited ∧ s.joined = none then
      some { s with
        waiters := s.waiters ++ [{ launched := s.tasks.length }]
        joined := some s.waiters.length }
    else none

def step (s : State) (a : Action) : Option State :=
  if s.thread = .terminated then none else s.act a

end State

end Teide.CpuExecutor
