import Mathlib.Logic.Function.Iterate
import Mathlib.Tactic.Common
import Teide.Lib.Runs

/-!
# Listening for a result

`Listen` gives senders that share a `CompletionState`, which their `ListenReceiver` only points to
weakly: when the last sender, the last operation made from one and the call in progress are gone, so
is the state, and the next `Listen` makes a new one. `start` registers the operation's receiver with
the state or completes it with the result that is already there; `set_value` and `set_stopped` pass
the result on, or leave it in the state.

An action is what one thread does in one go: a critical section (`start`, `deliver`), or an access to
the weak or a shared pointer (`listen`, `complete`, `endCall` and those that create and destroy).
Stored values are moved out. What a move leaves behind is the parameter `movedFrom`.

Completion states, senders and operations are numbered in the order of their creation. `Call` records
the call of `set_value` or `set_stopped`, and is no part of the program's state.
-/

namespace Teide

/-- What a receiver is completed with. -/
inductive Signal (τ : Type*) where
  | setValue (value : τ)
  | setStopped

/-- `CompletionState::State`. The closures of `OnResult` refer to an operation's receiver. -/
inductive CompletionState (τ : Type*) where
  | awaitingResult
  | onResult (operation : Nat)
  | resultValue (value : τ)
  | canceled

variable {τ : Type*}

/-- The state in which a result waits for a receiver. -/
def CompletionState.ofSignal : Signal τ → CompletionState τ
  | .setValue value => .resultValue value
  | .setStopped => .canceled

/-- What is left of a result that has been moved out. -/
def Signal.moveOut (movedFrom : τ → τ) : Signal τ → Signal τ
  | .setValue value => .setValue (movedFrom value)
  | .setStopped => .setStopped

namespace Listen

/-- `ListenSender::Operation` with its receiver. -/
structure Operation (τ : Type*) where
  completion : Nat
  /-- `m_completion` has not been reset, by `start` or by the destructor -/
  alive : Bool := true
  started : Bool := false
  /-- what the receiver has been completed with -/
  received : List (Signal τ) := []

/-- The call of `set_value` or `set_stopped`: the completion states that were alive then, and the
operation whose receiver it has been passed on to. -/
structure Call (τ : Type*) where
  signal : Signal τ
  alive : List Nat
  receiver : Option Nat := none

structure State (τ : Type*) where
  completions : List (CompletionState τ) := []
  /-- a sender that is destroyed or moved from is `none` -/
  senders : List (Option Nat) := []
  operations : List (Operation τ) := []
  /-- the receiver's `m_completion` and `m_called` -/
  completion : Option Nat := none
  called : Bool := false
  /-- the completion state that the call in progress keeps alive, and what it has yet to deliver -/
  completing : Option (Nat × Option (Signal τ)) := none
  assertionFailed : Bool := false
  call : Option (Call τ) := none

inductive Action (τ : Type*) where
  | listen
  | copySender (sender : Nat)
  | destroySender (sender : Nat)
  | connect (sender : Nat) (move : Bool)
  | start (operation : Nat)
  | destroyOperation (operation : Nat)
  | complete (signal : Signal τ)
  | deliver
  | endCall

namespace State

/-- The completion states that someone keeps alive. -/
def alive (s : State τ) : List Nat :=
  s.senders.reduceOption ++ (s.operations.filter (·.alive)).map (·.completion) ++
    s.completing.toList.map Prod.fst

/-- `m_completion.lock()` -/
def lock (s : State τ) : Option Nat := s.completion.filter (· ∈ s.alive)

def listen (s : State τ) : State τ :=
  match s.lock with
  | some c => { s with senders := s.senders ++ [some c] }
  | none =>
    { s with
      completions := s.completions ++ [.awaitingResult]
      completion := some s.completions.length
      senders := s.senders ++ [some s.completions.length] }

def connect (s : State τ) (k c : Nat) (move : Bool) : State τ :=
  { s with
    senders := if move then s.senders.set k none else s.senders
    operations := s.operations ++ [{ completion := c }] }

/-- The receiver of an operation is completed. -/
def receive (s : State τ) (o : Nat) (signal : Signal τ) : State τ :=
  { s with operations := s.operations.modify o fun op =>
      { op with received := op.received ++ [signal] } }

/-- `CompletionState::SetReceiver`, in the order of its checks -/
def setReceiver (movedFrom : τ → τ) (s : State τ) (o c : Nat) : State τ :=
  match s.completions[c]? with
  | some (.onResult _) => { s with assertionFailed := true }
  | some .canceled => s.receive o .setStopped
  | some (.resultValue value) =>
    { s.receive o (.setValue value) with
      completions := s.completions.set c (.resultValue (movedFrom value)) }
  | some .awaitingResult => { s with completions := s.completions.set c (.onResult o) }
  | none => s

/-- The operation's destructor, or the `reset` behind the critical section of `start`. -/
def destroyOperation (s : State τ) (o : Nat) : State τ :=
  { s with operations := s.operations.modify o fun op => { op with alive := false } }

def start (movedFrom : τ → τ) (s : State τ) (o c : Nat) : State τ :=
  let s := s.setReceiver movedFrom o c
  { s with operations := s.operations.modify o fun op => { op with started := true } }

/-- `set_value` and `set_stopped` up to the critical section. -/
def complete (s : State τ) (signal : Signal τ) : State τ :=
  { s with
    called := true
    completing := s.lock.map (·, some signal)
    call := some { signal := signal, alive := s.alive } }

/-- `CompletionState::SetValue` and `CompletionState::SetStopped` -/
def deliver (s : State τ) (c : Nat) (signal : Signal τ) : State τ :=
  let s : State τ := { s with completing := some (c, none) }
  match s.completions[c]? with
  | some (.resultValue _) => { s with assertionFailed := true }
  | some (.onResult o) =>
    { s.receive o signal with call := s.call.map ({ · with receiver := some o }) }
  | some .awaitingResult => { s with completions := s.completions.set c (.ofSignal signal) }
  | _ => s

def step (movedFrom : τ → τ) (s : State τ) : Action τ → Option (State τ)
  | .listen => some s.listen
  | .copySender k => s.senders[k]?.join.map fun c => { s with senders := s.senders ++ [some c] }
  | .destroySender k => s.senders[k]?.join.map fun _ => { s with senders := s.senders.set k none }
  | .connect k move => s.senders[k]?.join.map fun c => s.connect k c move
  | .start o => s.operations[o]?.bind fun op =>
    if op.alive ∧ ¬ op.started then some (s.start movedFrom o op.completion) else none
  -- an operation that has been started lives until it is completed
  | .destroyOperation o => s.operations[o]?.bind fun op =>
    if ¬ op.started ∨ op.received.length > 0 then some (s.destroyOperation o) else none
  | .complete signal => if s.called then none else some (s.complete signal)
  | .deliver =>
    match s.completing with
    | some (c, some signal) => some (s.deliver c signal)
    | _ => none
  | .endCall =>
    match s.completing with
    | some (_, none) => some { s with completing := none }
    | _ => none

end State

end Listen

end Teide
