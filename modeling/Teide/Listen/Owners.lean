import Mathlib.Data.List.ReduceOption
import Mathlib.Tactic.Common
import Teide.Lib.ListSet
import Teide.Listen.Basic

/-!
# Who keeps a completion state alive

At most one completion state is alive at a time, the one its receiver points to (`Owners`).
-/

namespace Teide.Listen

open Runs ListSet

variable {τ : Type*} {movedFrom : τ → τ} {s t : State τ} {a : Action τ}

/-! ### The cases of a step -/

/-- What the actions do, and when. -/
inductive Move (movedFrom : τ → τ) (s : State τ) : Action τ → State τ → Prop where
  | listenAgain {c : Nat} (hlock : s.lock = some c) :
      Move movedFrom s .listen { s with senders := s.senders ++ [some c] }
  | listenNew (hlock : s.lock = none) :
      Move movedFrom s .listen
        { s with
          completions := s.completions ++ [.awaitingResult]
          completion := some s.completions.length
          senders := s.senders ++ [some s.completions.length] }
  | copySender {k c : Nat} (hsender : some c ∈ s.senders) :
      Move movedFrom s (.copySender k) { s with senders := s.senders ++ [some c] }
  | destroySender {k : Nat} :
      Move movedFrom s (.destroySender k) { s with senders := s.senders.set k none }
  | connect {k c : Nat} {move : Bool} (hsender : some c ∈ s.senders) :
      Move movedFrom s (.connect k move) (s.connect k c move)
  | start {o : Nat} {op : Operation τ} (ho : s.operations[o]? = some op) (halive : op.alive = true)
      (hfresh : op.started = false) :
      Move movedFrom s (.start o) (s.start movedFrom o op.completion)
  | destroyOperation {o : Nat} {op : Operation τ} (ho : s.operations[o]? = some op)
      (hdone : op.started = false ∨ op.received ≠ []) :
      Move movedFrom s (.destroyOperation o)
        { s with operations := s.operations.set o { op with alive := false } }
  | complete {signal : Signal τ} (hcalled : s.called = false) :
      Move movedFrom s (.complete signal) (s.complete signal)
  | deliver {c : Nat} {signal : Signal τ} (hcompleting : s.completing = some (c, some signal)) :
      Move movedFrom s .deliver (s.deliver c signal)
  | endCall {c : Nat} (hcompleting : s.completing = some (c, none)) :
      Move movedFrom s .endCall { s with completing := none }

theorem sender_of_join {k c : Nat} (h : s.senders[k]?.join = some c) : some c ∈ s.senders :=
  List.mem_of_getElem? (Option.join_eq_some_iff.mp h)

theorem move_of_eq_some (h : s.step movedFrom a = some t) : Move movedFrom s a t := by
  cases a with
  | listen =>
    obtain rfl := Option.some.inj h
    rw [State.listen]
    cases hlock : s.lock with
    | some c => exact .listenAgain hlock
    | none => exact .listenNew hlock
  | copySender k =>
    obtain ⟨c, hc, rfl⟩ := Option.map_eq_some_iff.mp h
    exact .copySender (sender_of_join hc)
  | destroySender k =>
    obtain ⟨c, -, rfl⟩ := Option.map_eq_some_iff.mp h
    exact .destroySender
  | connect k move =>
    obtain ⟨c, hc, rfl⟩ := Option.map_eq_some_iff.mp h
    exact .connect (sender_of_join hc)
  | start o =>
    obtain ⟨op, ho, h⟩ := Option.bind_eq_some_iff.mp h
    obtain ⟨⟨halive, hfresh⟩, h⟩ := Option.ite_none_right_eq_some.mp h
    exact Option.some.inj h ▸ .start ho halive (by simpa using hfresh)
  | destroyOperation o =>
    obtain ⟨op, ho, h⟩ := Option.bind_eq_some_iff.mp h
    obtain ⟨hdone, h⟩ := Option.ite_none_right_eq_some.mp h
    obtain rfl := Option.some.inj h
    rw [State.destroyOperation, modify_eq_set ho]
    exact .destroyOperation ho (by simpa [List.length_pos_iff] using hdone)
  | complete signal =>
    simp only [State.step] at h
    split_ifs at h with hcalled
    exact Option.some.inj h ▸ .complete (by simpa using hcalled)
  | deliver =>
    simp only [State.step] at h
    split at h
    · rename_i hcompleting
      exact Option.some.inj h ▸ .deliver hcompleting
    · simp at h
  | endCall =>
    simp only [State.step] at h
    split at h
    · rename_i hcompleting
      exact Option.some.inj h ▸ .endCall hcompleting
    · simp at h

section

variable {o c : Nat} {op : Operation τ} {signal : Signal τ}

theorem start_awaiting (ho : s.operations[o]? = some op)
    (hc : s.completions[c]? = some .awaitingResult) :
    s.start movedFrom o c = { s with
      completions := s.completions.set c (.onResult o)
      operations := s.operations.set o { op with started := true } } := by
  simp only [State.start, State.setReceiver, hc, modify_eq_set ho]

theorem start_onResult {p : Nat} (ho : s.operations[o]? = some op)
    (hc : s.completions[c]? = some (.onResult p)) :
    s.start movedFrom o c = { s with
      assertionFailed := true
      operations := s.operations.set o { op with started := true } } := by
  simp only [State.start, State.setReceiver, hc, modify_eq_set ho]

theorem start_ofSignal (ho : s.operations[o]? = some op)
    (hc : s.completions[c]? = some (.ofSignal signal)) :
    s.start movedFrom o c = { s with
      completions := s.completions.set c (.ofSignal (signal.moveOut movedFrom))
      operations := s.operations.set o
        { op with started := true, received := op.received ++ [signal] } } := by
  have hlt := (List.getElem?_eq_some_iff.mp ho).1
  have hset : ∀ op', (s.operations.set o op')[o]? = some op' := fun op' =>
    List.getElem?_set_self hlt
  cases signal with
  | setValue value =>
    rw [CompletionState.ofSignal] at hc
    simp only [State.start, State.setReceiver, hc, State.receive, modify_eq_set ho,
      modify_eq_set (hset _), List.set_set]
    rfl
  | setStopped =>
    rw [CompletionState.ofSignal] at hc
    have hself : s.completions.set c .canceled = s.completions := by
      obtain ⟨hlt, heq⟩ := List.getElem?_eq_some_iff.mp hc
      rw [← heq, List.set_getElem_self]
    simp only [State.start, State.setReceiver, hc, State.receive, modify_eq_set ho,
      modify_eq_set (hset _), List.set_set, Signal.moveOut, CompletionState.ofSignal, hself]

theorem deliver_awaiting (hc : s.completions[c]? = some .awaitingResult) :
    s.deliver c signal = { s with
      completing := some (c, none)
      completions := s.completions.set c (.ofSignal signal) } := by
  simp only [State.deliver, hc]

theorem deliver_onResult (ho : s.operations[o]? = some op)
    (hc : s.completions[c]? = some (.onResult o)) :
    s.deliver c signal = { s with
      completing := some (c, none)
      operations := s.operations.set o { op with received := op.received ++ [signal] }
      call := s.call.map ({ · with receiver := some o }) } := by
  simp only [State.deliver, hc, State.receive, modify_eq_set ho]

end

/-! ### Who keeps a completion state alive -/

theorem mem_alive {c : Nat} : c ∈ s.alive ↔ some c ∈ s.senders ∨
    (∃ op ∈ s.operations, op.alive = true ∧ op.completion = c) ∨
      ∃ signal, s.completing = some (c, signal) := by
  simp only [State.alive, List.mem_append, List.reduceOption_mem_iff, List.mem_map, List.mem_filter,
    Option.mem_toList, and_assoc, or_assoc, Prod.exists, exists_and_right, exists_eq_right]

theorem lock_eq_some {c : Nat} : s.lock = some c ↔ s.completion = some c ∧ c ∈ s.alive := by
  rw [State.lock, Option.filter_eq_some_iff]
  simp

structure Owners (s : State τ) : Prop where
  completion_lt : ∀ c, s.completion = some c → c < s.completions.length
  alive_eq : ∀ c ∈ s.alive, s.completion = some c
  operation_lt : ∀ op ∈ s.operations, op.completion < s.completions.length
  pending_alive : ∀ op ∈ s.operations, op.started = true → op.received = [] → op.alive = true

theorem Owners.alive_unique (hs : Owners s) {c d : Nat} (hc : c ∈ s.alive) (hd : d ∈ s.alive) :
    c = d :=
  Option.some.inj ((hs.alive_eq c hc).symm.trans (hs.alive_eq d hd))

/-- When the lock fails, nothing is alive. -/
theorem Owners.alive_of_lock (hs : Owners s) (h : s.lock = none) : s.alive = [] := by
  refine List.eq_nil_iff_forall_not_mem.mpr fun c hc => ?_
  have hlock := lock_eq_some.mpr ⟨hs.alive_eq c hc, hc⟩
  rw [h] at hlock
  exact absurd hlock (by simp)

theorem owners_init : Owners ({} : State τ) := by
  constructor <;> simp [State.alive]

/-- A step that keeps alive what was alive, and leaves the completion states where they are. -/
theorem Owners.of_subset (hs : Owners s) (hcompletion : t.completion = s.completion)
    (hlength : t.completions.length = s.completions.length) (halive : ∀ c ∈ t.alive, c ∈ s.alive)
    (hoperations : ∀ op ∈ t.operations, op.completion < s.completions.length ∧
      (op.started = true → op.received = [] → op.alive = true)) : Owners t where
  completion_lt := by
    rw [hcompletion, hlength]
    exact hs.completion_lt
  alive_eq c hc := by
    rw [hcompletion]
    exact hs.alive_eq c (halive c hc)
  operation_lt op hop := by
    rw [hlength]
    exact (hoperations op hop).1
  pending_alive op hop := (hoperations op hop).2

theorem mem_alive_sender {c : Nat} (h : some c ∈ s.senders) : c ∈ s.alive :=
  mem_alive.mpr (.inl h)

theorem mem_alive_operation {op : Operation τ} (hop : op ∈ s.operations) (halive : op.alive = true) :
    op.completion ∈ s.alive :=
  mem_alive.mpr (.inr (.inl ⟨op, hop, halive, rfl⟩))

theorem mem_alive_completing {c : Nat} {signal : Option (Signal τ)}
    (h : s.completing = some (c, signal)) : c ∈ s.alive :=
  mem_alive.mpr (.inr (.inr ⟨signal, h⟩))

/-- `start` and `deliver`: the same senders, operations and call keep the same completion states
alive. -/
theorem Owners.of_same (hs : Owners s) (hsenders : t.senders = s.senders)
    (hcompletion : t.completion = s.completion)
    (hlength : t.completions.length = s.completions.length)
    (hcompleting : t.completing.map Prod.fst = s.completing.map Prod.fst)
    (hoperations : ∀ op ∈ t.operations, (∃ op' ∈ s.operations, op'.completion = op.completion ∧
      op'.alive = op.alive) ∧ (op.started = true → op.received = [] → op.alive = true)) : Owners t := by
  refine hs.of_subset hcompletion hlength (fun c hc => ?_) fun op hop => ?_
  · rcases mem_alive.mp hc with hc | ⟨op, hop, halive, rfl⟩ | ⟨signal, hc⟩
    · exact mem_alive_sender (hsenders ▸ hc)
    · obtain ⟨⟨op', hop', hcompletion', halive'⟩, -⟩ := hoperations op hop
      exact hcompletion' ▸ mem_alive_operation hop' (halive'.trans halive)
    · have hfst : s.completing.map Prod.fst = some c := by rw [← hcompleting, hc, Option.map_some]
      obtain ⟨⟨c, signal⟩, hcompleting, rfl⟩ := Option.map_eq_some_iff.mp hfst
      exact mem_alive_completing hcompleting
  · obtain ⟨⟨op', hop', hcompletion', -⟩, hpending⟩ := hoperations op hop
    exact ⟨hcompletion' ▸ hs.operation_lt op' hop', hpending⟩

/-- An operation starts or receives something. -/
theorem Owners.set (hs : Owners s) {o : Nat} {op : Operation τ} {b : Bool}
    {received : List (Signal τ)} (ho : s.operations[o]? = some op)
    (hpending : b = true → received = [] → op.alive = true)
    (hoperations : t.operations = s.operations.set o { op with started := b, received := received })
    (hsenders : t.senders = s.senders) (hcompletion : t.completion = s.completion)
    (hlength : t.completions.length = s.completions.length)
    (hcompleting : t.completing.map Prod.fst = s.completing.map Prod.fst) : Owners t := by
  refine hs.of_same hsenders hcompletion hlength hcompleting fun op' hop' => ?_
  rw [hoperations] at hop'
  rcases List.mem_or_eq_of_mem_set hop' with hop' | rfl
  · exact ⟨⟨op', hop', rfl, rfl⟩, hs.pending_alive op' hop'⟩
  · exact ⟨⟨op, List.mem_of_getElem? ho, rfl, rfl⟩, hpending⟩

/-- `start` on what `c` holds: registered, refused, or completed with the result. -/
theorem start_cases (movedFrom : τ → τ) {o c : Nat} {op : Operation τ} (ho : s.operations[o]? = some op)
    (hc : c < s.completions.length) :
    (s.completions[c]? = some .awaitingResult ∧ s.start movedFrom o c = { s with
      completions := s.completions.set c (.onResult o)
      operations := s.operations.set o { op with started := true } }) ∨
    (∃ p, s.completions[c]? = some (.onResult p) ∧ s.start movedFrom o c = { s with
      assertionFailed := true
      operations := s.operations.set o { op with started := true } }) ∨
    ∃ signal, s.completions[c]? = some (.ofSignal signal) ∧ s.start movedFrom o c = { s with
      completions := s.completions.set c (.ofSignal (signal.moveOut movedFrom))
      operations := s.operations.set o
        { op with started := true, received := op.received ++ [signal] } } := by
  cases h : s.completions[c]? with
  | none =>
    have hle := List.getElem?_eq_none_iff.mp h
    omega
  | some st =>
    cases st with
    | awaitingResult => exact .inl ⟨rfl, start_awaiting ho h⟩
    | onResult p => exact .inr (.inl ⟨p, rfl, start_onResult ho h⟩)
    | resultValue value => exact .inr (.inr ⟨.setValue value, rfl, start_ofSignal ho h⟩)
    | canceled => exact .inr (.inr ⟨.setStopped, rfl, start_ofSignal ho h⟩)

theorem Owners.listenNew (hs : Owners s) (hlock : s.lock = none) : Owners { s with
    completions := s.completions ++ [.awaitingResult]
    completion := some s.completions.length
    senders := s.senders ++ [some s.completions.length] } where
  completion_lt := by simp
  alive_eq c hc := by
    have hnone : ∀ c, c ∉ s.alive := by simp [hs.alive_of_lock hlock]
    rcases mem_alive.mp hc with hc | ⟨op, hop, halive, rfl⟩ | ⟨signal, hc⟩
    · rcases List.mem_append.mp hc with hc | hc
      · exact (hnone c (mem_alive_sender hc)).elim
      · exact (List.mem_singleton.mp hc).symm
    · exact (hnone _ (mem_alive_operation hop halive)).elim
    · exact (hnone c (mem_alive_completing hc)).elim
  operation_lt op hop := by
    have hlt := hs.operation_lt op hop
    rw [List.length_append]
    omega
  pending_alive := hs.pending_alive

theorem Owners.complete (hs : Owners s) {signal : Signal τ} : Owners (s.complete signal) := by
  refine hs.of_subset rfl rfl (fun d hd => ?_) fun op hop =>
    ⟨hs.operation_lt op hop, hs.pending_alive op hop⟩
  rcases mem_alive.mp hd with hd | ⟨op, hop, halive, rfl⟩ | ⟨x, hd⟩
  · exact mem_alive_sender hd
  · exact mem_alive_operation hop halive
  · obtain ⟨c, hlock, heq⟩ := Option.map_eq_some_iff.mp hd
    obtain ⟨rfl, -⟩ := Prod.mk.inj heq
    exact (lock_eq_some.mp hlock).2

end Teide.Listen
