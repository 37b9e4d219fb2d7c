import Mathlib.Tactic.Common
import Mathlib.Logic.Function.Basic
import Teide.Lib.Runs

/-!
# The submission queue and its fences

`Queue` passes command buffers to the GPU with a fence each, keeps a list of the submissions in
flight, and lets its scheduler thread (`Flush`) call the callbacks of those whose fence is signalled
and put their fences aside for reuse. Other threads submit and wait (`WaitForTasks`) meanwhile.

`State` is the queue together with the driver's view of its fences, and `step` the atomic actions:

* `submit`: all of `Submit`, which runs under the mutex. The handle that `vkCreateFence` would
  return is an argument of the action; it is used if no fence is free, and must then differ from
  every fence that exists;
* `flushBegin`, `flushNext`, `flushEnd`: `Flush` takes the mutex, does one round of its loop, and
  removes the entries that are done. Nothing between the poll of a fence and its reset touches that
  fence, so a round is one action;
* `signal`: the GPU finishes a submission, at any time, also between two rounds of a `Flush`;
* `waitBegin`, `waitDone`, `waitTimeout`: `WaitForTasks` takes a snapshot of the fences in flight
  under the mutex and then waits, without it, until all of them are signalled at once or the
  timeout has passed.

Command buffers `χ` and callbacks `κ` are arbitrary types. Callbacks return normally and do not
call the queue: running one is an entry in the list `ran`.
-/

namespace Teide

/-- A `vk::Fence` handle. -/
abbrev Fence := Nat

/-- `Queue::InFlightSubmit`. A fence or callback that has been moved out is `none`. -/
structure InFlightSubmit (κ : Type*) where
  fence : Option Fence
  callback : Option κ
  /-- which call of `Submit` made the entry -/
  submission : Nat

structure Queue (κ : Type*) where
  unusedSubmitFences : List Fence := []
  inFlightSubmits : List (InFlightSubmit κ) := []

namespace Queue

variable {χ κ : Type*}

def getInFlightFences (q : Queue κ) : List Fence := q.inFlightSubmits.filterMap (·.fence)

/-- The submissions in flight and their fences. -/
def attached (entries : List (InFlightSubmit κ)) : List (Nat × Fence) :=
  entries.filterMap fun e => e.fence.map (e.submission, ·)

/-- `newFence` is what `createFenceUnique` returns, if it is called. -/
def getFence (q : Queue κ) (newFence : Fence) : Fence × Queue κ :=
  match q.unusedSubmitFences with
  | [] => (newFence, q)
  | nextFence :: rest => (nextFence, { q with unusedSubmitFences := rest })

/-- One call of `Submit`, with the fence it passed to `vkQueueSubmit`. -/
structure SubmitCall (χ κ : Type*) where
  commands : List χ
  fence : Fence
  callback : κ

structure State (χ κ : Type*) where
  queue : Queue κ := {}
  /-- the entry a running `Flush` looks at next -/
  flushing : Option Nat := none
  /-- the callers blocked in `WaitForTasks`, each with its snapshot -/
  waiters : List (List (Nat × Fence)) := []
  signalled : Fence → Bool := fun _ => false
  /-- the submissions the GPU has not finished, and the fences it will signal -/
  pending : List (Nat × Fence) := []
  /-- the submissions the GPU has finished, and the fences it signalled for them -/
  finished : List (Nat × Fence) := []
  submits : List (SubmitCall χ κ) := []
  /-- the callbacks that have run, each with its submission -/
  ran : List (Nat × κ) := []

inductive Action (χ κ : Type*) where
  | submit (newFence : Fence) (commands : List χ) (callback : κ)
  | flushBegin
  | flushNext
  | flushEnd
  | signal (submission : Nat)
  | waitBegin
  | waitDone (waiter : Nat)
  | waitTimeout (waiter : Nat)

namespace State

/-- A created fence is unsignalled. -/
def createFence (s : State χ κ) (newFence : Fence) : Fence → Bool :=
  if s.queue.unusedSubmitFences = [] then Function.update s.signalled newFence false
  else s.signalled

def submit (s : State χ κ) (newFence : Fence) (commands : List χ) (callback : κ) : State χ κ :=
  let (fence, queue) := s.queue.getFence newFence
  { s with
    signalled := s.createFence newFence
    pending := s.pending ++ [(s.submits.length, fence)]
    submits := s.submits ++ [⟨commands, fence, callback⟩]
    queue := { queue with
      inFlightSubmits := queue.inFlightSubmits ++
        [⟨some fence, some callback, s.submits.length⟩] } }

/-- What a round of `Flush` does with a signalled entry: call its callback, reset its fence and put
it aside, mark the entry as done. -/
def complete (s : State χ κ) (i : Nat) (submission : Nat) (fence : Fence) (callback : κ) :
    State χ κ :=
  { s with
    ran := s.ran ++ [(submission, callback)]
    signalled := Function.update s.signalled fence false
    queue :=
      { unusedSubmitFences := s.queue.unusedSubmitFences ++ [fence]
        inFlightSubmits := s.queue.inFlightSubmits.set i ⟨none, none, submission⟩ }
    flushing := some (i + 1) }

def flushNext (s : State χ κ) (i : Nat) : Option (State χ κ) :=
  match s.queue.inFlightSubmits[i]? with
  | some ⟨some fence, callback, submission⟩ =>
    if s.signalled fence then
      -- an empty callback would throw when called
      callback.map fun callback => s.complete i submission fence callback
    else some { s with flushing := some (i + 1) }
  | _ => none

def flushEnd (s : State χ κ) : State χ κ :=
  { s with
    queue := { s.queue with
      inFlightSubmits := s.queue.inFlightSubmits.filter (·.fence.isSome) }
    flushing := none }

def signal (s : State χ κ) (p : Nat × Fence) : State χ κ :=
  { s with
    pending := s.pending.erase p
    signalled := Function.update s.signalled p.2 true
    finished := s.finished ++ [p] }

def step (s : State χ κ) : Action χ κ → Option (State χ κ)
  | .submit newFence commands callback =>
    if s.flushing = none ∧
        (s.queue.unusedSubmitFences = [] → newFence ∉ s.queue.getInFlightFences) then
      some (s.submit newFence commands callback)
    else none
  | .flushBegin => if s.flushing = none then some { s with flushing := some 0 } else none
  | .flushNext => s.flushing.bind s.flushNext
  | .flushEnd =>
    if s.flushing = some s.queue.inFlightSubmits.length then some s.flushEnd else none
  | .signal submission => (s.pending.find? (·.1 = submission)).map s.signal
  | .waitBegin =>
    if s.flushing = none then
      -- with nothing in flight `WaitForTasks` returns at once
      if (attached s.queue.inFlightSubmits).isEmpty then some s
      else some { s with waiters := s.waiters ++ [attached s.queue.inFlightSubmits] }
    else none
  | .waitDone waiter =>
    match s.waiters[waiter]? with
    | some snapshot =>
      if ∀ p ∈ snapshot, s.signalled p.2 = true then
        some { s with waiters := s.waiters.eraseIdx waiter }
      else none
    | none => none
  | .waitTimeout waiter =>
    if waiter < s.waiters.length then some { s with waiters := s.waiters.eraseIdx waiter }
    else none

end State

end Queue

end Teide
