import Mathlib.Tactic.Common
import Teide.Listen.Owners

/-!
# What every run of listeners keeps

`Content` says what a completion state can hold. It depends on whether the call has reached it, and
then on whether it has found an operation there to pass its signal on to. A receiver that is set
after that gets the `State.answer`.
-/

namespace Teide.Listen

open Runs ListSet

variable {τ : Type*} {movedFrom : τ → τ} {s t : State τ} {a : Action τ}

/-! ### What a completion state holds -/

/-- The call, from when its signal has been passed on or left in the completion state. -/
def State.delivered (s : State τ) : Option (Call τ) :=
  match s.completing with
  | some (_, some _) => none
  | _ => s.call

theorem call_of_delivered {call : Call τ} (h : s.delivered = some call) : s.call = some call := by
  unfold State.delivered at h
  split at h
  · exact absurd h (by simp)
  · exact h

/-- The signal has got to the completion state `c`. -/
def Reached (s : State τ) (c : Nat) : Prop := ∃ call, s.delivered = some call ∧ c ∈ call.alive

theorem not_reached_of_not_delivered {c : Nat} (h : s.delivered = none) : ¬ Reached s c := by
  rintro ⟨call, hcall, -⟩
  rw [h] at hcall
  exact absurd hcall (by simp)

/-- The operations whose receiver has been completed. -/
def State.completedOps (s : State τ) : Nat := s.operations.countP fun op => !op.received.isEmpty

/-- The completion state of an operation that has started, and what its receiver got. -/
def history (operations : List (Operation τ)) (o : Nat) : Option (Nat × List (Signal τ)) :=
  (operations[o]?.filter (·.started)).map fun op => (op.completion, op.received)

inductive Content (movedFrom : τ → τ) (s : State τ) (c : Nat) : CompletionState τ → Prop where
  | awaiting (hreached : ¬ Reached s c)
      (hstarted : ∀ o received, history s.operations o ≠ some (c, received)) :
      Content movedFrom s c .awaitingResult
  | pending {o : Nat} (hreached : ¬ Reached s c) (ho : history s.operations o = some (c, [])) :
      Content movedFrom s c (.onResult o)
  | passedOn {o : Nat} {call : Call τ} (hcall : s.delivered = some call) (hc : c ∈ call.alive)
      (hreceiver : call.receiver = some o) (ho : history s.operations o = some (c, [call.signal])) :
      Content movedFrom s c (.onResult o)
  | stored {st : CompletionState τ} {call : Call τ} (hcall : s.delivered = some call)
      (hc : c ∈ call.alive) (hreceiver : call.receiver = none)
      (hst : st = .ofSignal ((Signal.moveOut movedFrom)^[s.completedOps] call.signal)) :
      Content movedFrom s c st

theorem ofSignal_ne_awaitingResult {signal : Signal τ} :
    CompletionState.ofSignal signal ≠ .awaitingResult := by
  cases signal <;> simp [CompletionState.ofSignal]

theorem ofSignal_ne_onResult {signal : Signal τ} {o : Nat} :
    CompletionState.ofSignal signal ≠ .onResult o := by
  cases signal <;> simp [CompletionState.ofSignal]

theorem ofSignal_inj {signal signal' : Signal τ}
    (h : CompletionState.ofSignal signal = .ofSignal signal') : signal = signal' := by
  cases signal <;> cases signal' <;> simp_all [CompletionState.ofSignal]

structure Consistent (movedFrom : τ → τ) (s : State τ) : Prop where
  owners : Owners s
  called_eq : s.called = s.call.isSome
  completing : ∀ c signal, s.completing = some (c, some signal) →
    ∃ call, s.call = some call ∧ call.signal = signal ∧ c ∈ call.alive ∧ call.receiver = none
  call_lt : ∀ call, s.call = some call → ∀ c ∈ call.alive, c < s.completions.length
  call_unique : ∀ call, s.call = some call → ∀ c ∈ call.alive, ∀ d ∈ call.alive, c = d
  received : ∀ op ∈ s.operations, op.received ≠ [] → op.started = true ∧ Reached s op.completion
  content : ∀ c st, s.completions[c]? = some st → Content movedFrom s c st

theorem history_of_getElem? {operations : List (Operation τ)} {o : Nat} {op : Operation τ}
    (ho : operations[o]? = some op) :
    history operations o = if op.started then some (op.completion, op.received) else none := by
  unfold history
  rw [ho]
  cases hstarted : op.started <;> simp [Option.filter, hstarted]

theorem history_set {operations : List (Operation τ)} {o p : Nat} {op : Operation τ}
    (ho : o < operations.length) : history (operations.set o op) p =
      if p = o then if op.started then some (op.completion, op.received) else none
      else history operations p := by
  by_cases h : p = o
  · subst h
    rw [if_pos rfl, history_of_getElem? (List.getElem?_set_self ho)]
  · rw [if_neg h, history, history, List.getElem?_set_ne (Ne.symm h)]

theorem history_append {operations : List (Operation τ)} {p : Nat} {op : Operation τ}
    (hop : op.started = false) : history (operations ++ [op]) p = history operations p := by
  unfold history
  rcases Nat.lt_trichotomy p operations.length with h | rfl | h
  · rw [List.getElem?_append_left h]
  · rw [List.getElem?_concat_length, List.getElem?_eq_none (Nat.le_refl _)]
    simp [Option.filter, hop]
  · rw [List.getElem?_eq_none (by simp; omega), List.getElem?_eq_none (Nat.le_of_lt h)]

theorem history_eq_some {operations : List (Operation τ)} {o c : Nat} {received : List (Signal τ)} :
    history operations o = some (c, received) ↔ ∃ op, operations[o]? = some op ∧
      op.started = true ∧ op.completion = c ∧ op.received = received := by
  simp only [history, Option.map_eq_some_iff, Option.filter_eq_some_iff, Prod.mk.injEq, and_assoc]

/-- What a completion state holds depends on the operations made from it, and once the signal has got
to it on what has been handed out. -/
theorem Content.frame {c : Nat} {st : CompletionState τ} (h : Content movedFrom s c st)
    (hhistory : ∀ o received, history t.operations o = some (c, received) ↔
      history s.operations o = some (c, received))
    (hreached : Reached s c ∨ Reached t c →
      t.delivered = s.delivered ∧ t.completedOps = s.completedOps) : Content movedFrom t c st := by
  have hnot : ¬ Reached s c → ¬ Reached t c := fun hs ht => by
    obtain ⟨call, hcall, hc⟩ := ht
    have hsame := hreached (.inr ⟨call, hcall, hc⟩)
    exact hs ⟨call, hsame.1 ▸ hcall, hc⟩
  cases h with
  | awaiting hs hstarted =>
    exact .awaiting (hnot hs) fun o received ho => hstarted o received ((hhistory o received).mp ho)
  | pending hs ho => exact .pending (hnot hs) ((hhistory _ _).mpr ho)
  | passedOn hcall hc hreceiver ho =>
    have hsame := hreached (.inl ⟨_, hcall, hc⟩)
    exact .passedOn (hsame.1 ▸ hcall) hc hreceiver ((hhistory _ _).mpr ho)
  | stored hcall hc hreceiver hst =>
    have hsame := hreached (.inl ⟨_, hcall, hc⟩)
    exact .stored (hsame.1 ▸ hcall) hc hreceiver (hsame.2 ▸ hst)

/-- A step that touches no completion state, and no operation that has started except to destroy
it. -/
theorem Consistent.of_same (hs : Consistent movedFrom s) (howners : Owners t)
    (hcompletions : t.completions = s.completions) (hcalled : t.called = s.called)
    (hcall : t.call = s.call) (hdelivered : t.delivered = s.delivered)
    (hcompleting : ∀ c signal, t.completing = some (c, some signal) →
      s.completing = some (c, some signal))
    (hhistory : ∀ o, history t.operations o = history s.operations o)
    (hops : t.completedOps = s.completedOps)
    (hoperations : ∀ op ∈ t.operations, op.received = [] ∨ ∃ op' ∈ s.operations,
      op'.started = op.started ∧ op'.completion = op.completion ∧ op'.received = op.received) :
    Consistent movedFrom t where
  owners := howners
  called_eq := by rw [hcalled, hcall, hs.called_eq]
  completing c signal h := by
    rw [hcall]
    exact hs.completing c signal (hcompleting c signal h)
  call_lt := by
    rw [hcall, hcompletions]
    exact hs.call_lt
  call_unique := by
    rw [hcall]
    exact hs.call_unique
  received op hop hne := by
    obtain h | ⟨op', hop', hstarted, hcompletion, hreceived⟩ := hoperations op hop
    · exact absurd h hne
    · rw [← hstarted, ← hcompletion, Reached, hdelivered]
      exact hs.received op' hop' (hreceived ▸ hne)
  content c st hc := by
    rw [hcompletions] at hc
    exact (hs.content c st hc).frame (fun o received => by rw [hhistory]) fun _ => ⟨hdelivered, hops⟩

/-! ### One step -/

theorem consistent_init : Consistent movedFrom ({} : State τ) where
  owners := owners_init
  called_eq := rfl
  completing := by simp
  call_lt := by simp
  call_unique := by simp
  received := by simp
  content := by simp

/-- Other senders, for completion states that are alive. -/
theorem Consistent.setSenders (hs : Consistent movedFrom s) {senders : List (Option Nat)}
    (halive : ∀ c, some c ∈ senders → c ∈ s.alive) :
    Consistent movedFrom { s with senders := senders } := by
  refine hs.of_same ?_ rfl rfl rfl rfl (fun _ _ h => h) (fun _ => rfl) rfl
    fun op hop => .inr ⟨op, hop, rfl, rfl, rfl⟩
  refine hs.owners.of_subset rfl rfl (fun d hd => ?_) fun op hop =>
    ⟨hs.owners.operation_lt op hop, hs.owners.pending_alive op hop⟩
  rcases mem_alive.mp hd with hd | hd
  · exact halive d hd
  · exact mem_alive.mpr (.inr hd)

theorem Consistent.addSender (hs : Consistent movedFrom s) {c : Nat} (hc : c ∈ s.alive) :
    Consistent movedFrom { s with senders := s.senders ++ [some c] } := by
  refine hs.setSenders fun d hd => ?_
  rcases List.mem_append.mp hd with hd | hd
  · exact mem_alive_sender hd
  · obtain rfl : d = c := by simpa using hd
    exact hc

theorem Consistent.destroySender (hs : Consistent movedFrom s) {k : Nat} :
    Consistent movedFrom { s with senders := s.senders.set k none } :=
  hs.setSenders fun _ hd =>
    mem_alive_sender ((List.mem_or_eq_of_mem_set hd).resolve_right (by simp))

theorem Consistent.connect (hs : Consistent movedFrom s) {k c : Nat} {move : Bool}
    (hsender : some c ∈ s.senders) : Consistent movedFrom (s.connect k c move) := by
  have hc : c ∈ s.alive := mem_alive_sender hsender
  have hmem : ∀ op ∈ (s.connect k c move).operations, op ∈ s.operations ∨ op = { completion := c } :=
    fun op hop => by simpa [State.connect] using hop
  refine hs.of_same ?_ rfl rfl rfl rfl (fun _ _ h => h) (fun o => history_append rfl) ?_ fun op hop => ?_
  · refine hs.owners.of_subset rfl rfl (fun d hd => ?_) fun op hop => ?_
    · rcases mem_alive.mp hd with hd | ⟨op, hop, halive, rfl⟩ | ⟨signal, hd⟩
      · have hd' : some d ∈ s.senders := by
          rw [State.connect] at hd
          dsimp only at hd
          split_ifs at hd
          · exact (List.mem_or_eq_of_mem_set hd).resolve_right (by simp)
          · exact hd
        exact mem_alive_sender hd'
      · rcases hmem op hop with hop | rfl
        · exact mem_alive_operation hop halive
        · exact hc
      · exact mem_alive_completing hd
    · rcases hmem op hop with hop | rfl
      · exact ⟨hs.owners.operation_lt op hop, hs.owners.pending_alive op hop⟩
      · exact ⟨hs.owners.completion_lt c (hs.owners.alive_eq c hc), fun h => absurd h (by simp)⟩
  · simp [State.completedOps, State.connect, List.countP_append]
  · rcases hmem op hop with hop | rfl
    · exact .inr ⟨op, hop, rfl, rfl, rfl⟩
    · exact .inl rfl

theorem history_destroyOperation {o p : Nat} {op : Operation τ} (ho : s.operations[o]? = some op) :
    history (s.operations.set o { op with alive := false }) p = history s.operations p := by
  rw [history_set (List.getElem?_eq_some_iff.mp ho).1]
  by_cases hp : p = o
  · subst hp
    rw [if_pos rfl, history_of_getElem? ho]
  · rw [if_neg hp]

theorem Consistent.destroyOperation (hs : Consistent movedFrom s) {o : Nat} {op : Operation τ}
    (ho : s.operations[o]? = some op) (hdone : op.started = false ∨ op.received ≠ []) :
    Consistent movedFrom
      { s with operations := s.operations.set o { op with alive := false } } := by
  have hmem := List.mem_of_getElem? ho
  have hset : ∀ op' ∈ s.operations.set o { op with alive := false },
      op' ∈ s.operations ∨ op' = { op with alive := false } := fun _ => List.mem_or_eq_of_mem_set
  refine hs.of_same ?_ rfl rfl rfl rfl (fun _ _ h => h) (fun p => history_destroyOperation ho) ?_
    fun op' hop' => ?_
  · refine hs.owners.of_subset rfl rfl (fun d hd => ?_) fun op' hop' => ?_
    · rcases mem_alive.mp hd with hd | ⟨op', hop', halive, rfl⟩ | ⟨signal, hd⟩
      · exact mem_alive_sender hd
      · rcases hset op' hop' with hop' | rfl
        · exact mem_alive_operation hop' halive
        · exact absurd halive (by simp)
      · exact mem_alive_completing hd
    · rcases hset op' hop' with hop' | rfl
      · exact ⟨hs.owners.operation_lt op' hop', hs.owners.pending_alive op' hop'⟩
      · refine ⟨hs.owners.operation_lt op hmem, fun hstarted hreceived => ?_⟩
        exact absurd hreceived (hdone.resolve_left (by simp_all))
  · exact Nat.add_right_cancel (countP_set_add (a := { op with alive := false }) ho)
  · rcases hset op' hop' with hop' | rfl
    · exact .inr ⟨op', hop', rfl, rfl, rfl⟩
    · exact .inr ⟨op, hmem, rfl, rfl, rfl⟩

theorem Consistent.endCall (hs : Consistent movedFrom s) {c : Nat}
    (hcompleting : s.completing = some (c, none)) :
    Consistent movedFrom { s with completing := none } := by
  refine hs.of_same ?_ rfl rfl rfl ?_ (by simp) (fun _ => rfl) rfl
    fun op hop => .inr ⟨op, hop, rfl, rfl, rfl⟩
  · refine hs.owners.of_subset rfl rfl (fun d hd => ?_) fun op hop =>
      ⟨hs.owners.operation_lt op hop, hs.owners.pending_alive op hop⟩
    rcases mem_alive.mp hd with hd | hd | ⟨signal, hd⟩
    · exact mem_alive_sender hd
    · exact mem_alive.mpr (.inr (.inl hd))
    · exact absurd hd (by simp)
  · rw [State.delivered, State.delivered, hcompleting]

theorem Consistent.listenNew (hs : Consistent movedFrom s) (hlock : s.lock = none) :
    Consistent movedFrom { s with
      completions := s.completions ++ [.awaitingResult]
      completion := some s.completions.length
      senders := s.senders ++ [some s.completions.length] } where
  owners := hs.owners.listenNew hlock
  called_eq := hs.called_eq
  completing := hs.completing
  call_lt call hcall c hc := by
    have hlt := hs.call_lt call hcall c hc
    rw [List.length_append]
    omega
  call_unique := hs.call_unique
  received := hs.received
  content c st hc := by
    rcases Nat.lt_or_ge c s.completions.length with hlt | hge
    · rw [List.getElem?_append_left hlt] at hc
      exact (hs.content c st hc).frame (fun _ _ => Iff.rfl) fun _ => ⟨rfl, rfl⟩
    · obtain rfl : c = s.completions.length := by
        have hlt := (List.getElem?_eq_some_iff.mp hc).1
        rw [List.length_append, List.length_singleton] at hlt
        omega
      obtain rfl : .awaitingResult = st := by simpa using hc
      refine .awaiting ?_ fun o received ho => ?_
      · rintro ⟨call, hcall, hc⟩
        exact absurd (hs.call_lt call (call_of_delivered hcall) _ hc) (Nat.lt_irrefl _)
      · obtain ⟨op, ho, -, hcompletion, -⟩ := history_eq_some.mp ho
        have hlt := hs.owners.operation_lt op (List.mem_of_getElem? ho)
        omega

/-- The call is over at once when nothing is alive. -/
theorem delivered_complete {signal : Signal τ} {call : Call τ}
    (h : (s.complete signal).delivered = some call) : s.lock = none ∧ call.alive = s.alive := by
  cases hlock : s.lock with
  | some d => simp [State.delivered, State.complete, hlock] at h
  | none =>
    simp only [State.delivered, State.complete, hlock, Option.map_none, Option.some.injEq] at h
    exact ⟨rfl, h ▸ rfl⟩

theorem Consistent.delivered_of_not_called (hs : Consistent movedFrom s) (hcalled : s.called = false) :
    s.delivered = none := by
  rw [hs.called_eq, Option.isSome_eq_false_iff, Option.isNone_iff_eq_none] at hcalled
  rw [Option.eq_none_iff_forall_ne_some]
  intro call h
  rw [call_of_delivered h] at hcalled
  exact absurd hcalled (by simp)

theorem Consistent.complete (hs : Consistent movedFrom s) {signal : Signal τ}
    (hcalled : s.called = false) : Consistent movedFrom (s.complete signal) := by
  have hunreached : ∀ c, ¬ Reached s c := fun c =>
    not_reached_of_not_delivered (hs.delivered_of_not_called hcalled)
  have hlt : ∀ c ∈ s.alive, c < s.completions.length := fun c hc =>
    hs.owners.completion_lt c (hs.owners.alive_eq c hc)
  have hunreached' : ∀ c, ¬ Reached (s.complete signal) c := by
    rintro c ⟨call, h, hc⟩
    obtain ⟨hlock, halive⟩ := delivered_complete h
    rw [halive, hs.owners.alive_of_lock hlock] at hc
    exact absurd hc (by simp)
  constructor
  · exact hs.owners.complete
  · rfl
  · intro c x h
    obtain ⟨d, hlock, heq⟩ := Option.map_eq_some_iff.mp h
    simp only [Prod.mk.injEq, Option.some.injEq] at heq
    obtain ⟨rfl, rfl⟩ := heq
    exact ⟨_, rfl, rfl, (lock_eq_some.mp hlock).2, rfl⟩
  · intro call h
    obtain rfl := Option.some.inj h
    exact hlt
  · intro call h
    obtain rfl := Option.some.inj h
    exact fun c hc d hd => hs.owners.alive_unique hc hd
  · intro op hop hne
    exact absurd (hs.received op hop hne).2 (hunreached _)
  · intro c st hc
    refine (hs.content c st hc).frame (fun _ _ => Iff.rfl) fun h => ?_
    exact absurd h (not_or.mpr ⟨hunreached c, hunreached' c⟩)

section

variable {o : Nat} {op : Operation τ}

/-- Nothing is received before `start`. -/
theorem Consistent.received_of_fresh (hs : Consistent movedFrom s) (ho : s.operations[o]? = some op)
    (hfresh : op.started = false) : op.received = [] := by
  by_contra hne
  have hstarted := (hs.received op (List.mem_of_getElem? ho) hne).1
  rw [hfresh] at hstarted
  exact absurd hstarted (by simp)

/-- The completion states that a `start` on another one leaves alone. -/
theorem Content.start_other {c : Nat} {st : CompletionState τ} {op' : Operation τ}
    (h : Content movedFrom s c st) (ho : s.operations[o]? = some op) (hfresh : op.started = false)
    (hc : op.completion ≠ c) (hoperations : t.operations = s.operations.set o op')
    (hcompletion : op'.completion = op.completion) (hdelivered : t.delivered = s.delivered)
    (hops : Reached s c → t.completedOps = s.completedOps) : Content movedFrom t c st := by
  refine h.frame (fun p received => ?_) fun hreached => ⟨hdelivered, hops ?_⟩
  · rw [hoperations, history_set (List.getElem?_eq_some_iff.mp ho).1]
    by_cases hp : p = o
    · subst hp
      rw [if_pos rfl, history_of_getElem? ho, hfresh, hcompletion]
      split_ifs <;> simp [hc]
    · rw [if_neg hp]
  · rcases hreached with h | ⟨call, hcall, h⟩
    · exact h
    · exact ⟨call, hdelivered ▸ hcall, h⟩

theorem Reached.unique (hs : Consistent movedFrom s) {c d : Nat} (hc : Reached s c)
    (hd : Reached s d) : c = d := by
  obtain ⟨call, hcall, hc⟩ := hc
  obtain ⟨call', hcall', hd⟩ := hd
  obtain rfl : call = call' := Option.some.inj (hcall.symm.trans hcall')
  exact hs.call_unique call (call_of_delivered hcall) c hc d hd

theorem completedOps_start (hs : Consistent movedFrom s) (ho : s.operations[o]? = some op)
    (hfresh : op.started = false) {received : List (Signal τ)}
    (hoperations : t.operations =
      s.operations.set o { op with started := true, received := received }) :
    t.completedOps = s.completedOps + if received.isEmpty then 0 else 1 := by
  have hcount := countP_set_add (P := fun op => !op.received.isEmpty)
    (a := { op with started := true, received := received }) ho
  simp only [hs.received_of_fresh ho hfresh, List.isEmpty_nil, Bool.not_true, Bool.false_eq_true,
    if_false, Nat.add_zero] at hcount
  rw [State.completedOps, hoperations, hcount, State.completedOps]
  cases received.isEmpty <;> rfl

/-- The fields of `Consistent` but `content` after a start. -/
theorem Consistent.of_start (hs : Consistent movedFrom s) (ho : s.operations[o]? = some op)
    (halive : op.alive = true) (hfresh : op.started = false) (received : List (Signal τ))
    (hoperations : t.operations =
      s.operations.set o { op with started := true, received := received })
    (hreceived : received ≠ [] → Reached s op.completion)
    (hsenders : t.senders = s.senders) (hcompletion : t.completion = s.completion)
    (hlength : t.completions.length = s.completions.length) (hcompleting : t.completing = s.completing)
    (hcalled : t.called = s.called) (hcall : t.call = s.call)
    (hother : ∀ d, op.completion ≠ d → t.completions[d]? = s.completions[d]?)
    (hcontent : ∀ st, t.completions[op.completion]? = some st →
      Content movedFrom t op.completion st) : Consistent movedFrom t := by
  have hdelivered : t.delivered = s.delivered := by
    rw [State.delivered, State.delivered, hcompleting, hcall]
  have hreached : ∀ c, Reached t c ↔ Reached s c := fun c => by rw [Reached, Reached, hdelivered]
  constructor
  · exact hs.owners.set ho (fun _ _ => halive) hoperations hsenders hcompletion hlength
      (by rw [hcompleting])
  · rw [hcalled, hcall, hs.called_eq]
  · rw [hcompleting, hcall]
    exact hs.completing
  · rw [hcall, hlength]
    exact hs.call_lt
  · rw [hcall]
    exact hs.call_unique
  · intro op' hop' hne
    rw [hoperations] at hop'
    rw [hreached]
    rcases List.mem_or_eq_of_mem_set hop' with hop' | rfl
    · exact hs.received op' hop' hne
    · exact ⟨rfl, hreceived hne⟩
  · intro d st hd
    by_cases hc : op.completion = d
    · subst hc
      exact hcontent st hd
    · rw [hother d hc] at hd
      refine (hs.content d st hd).start_other ho hfresh hc hoperations rfl hdelivered fun hd => ?_
      have hempty : received = [] := by
        by_contra hne
        exact hc (Reached.unique hs (hreceived hne) hd)
      rw [completedOps_start hs ho hfresh hoperations, hempty]
      rfl

/-- A result that waits for a receiver has been left by the call. -/
theorem Consistent.result (hs : Consistent movedFrom s) {c : Nat} {signal : Signal τ}
    (hc : s.completions[c]? = some (.ofSignal signal)) : ∃ call, s.delivered = some call ∧
      c ∈ call.alive ∧ call.receiver = none ∧
      signal = (Signal.moveOut movedFrom)^[s.completedOps] call.signal := by
  generalize hst : CompletionState.ofSignal signal = st at hc
  cases hs.content _ _ hc with
  | awaiting => exact absurd hst ofSignal_ne_awaitingResult
  | pending => exact absurd hst ofSignal_ne_onResult
  | passedOn => exact absurd hst ofSignal_ne_onResult
  | stored hcall hmem hreceiver hst' =>
    exact ⟨_, hcall, hmem, hreceiver, ofSignal_inj (hst.trans hst')⟩

theorem Consistent.start (hs : Consistent movedFrom s) (ho : s.operations[o]? = some op)
    (halive : op.alive = true) (hfresh : op.started = false) :
    Consistent movedFrom (s.start movedFrom o op.completion) := by
  have hlt := hs.owners.operation_lt op (List.mem_of_getElem? ho)
  have hlt' := (List.getElem?_eq_some_iff.mp ho).1
  have hnil := hs.received_of_fresh ho hfresh
  obtain ⟨hc, h⟩ | ⟨p, hc, h⟩ | ⟨signal, hc, h⟩ := start_cases movedFrom ho hlt
  · rw [h]
    refine hs.of_start ho halive hfresh op.received rfl (fun hne => absurd hnil hne) rfl rfl
      (List.length_set ..) rfl rfl rfl (fun d hd => List.getElem?_set_ne hd) fun st hst => ?_
    obtain rfl : .onResult o = st := by simpa [List.getElem?_set_self hlt] using hst
    cases hs.content _ _ hc with
    | awaiting hreached hstarted =>
      refine .pending hreached ?_
      dsimp only
      rw [history_set hlt', if_pos rfl, if_pos rfl, hnil]
    | stored _ _ _ hst => exact absurd hst.symm ofSignal_ne_awaitingResult
  · rw [h]
    refine hs.of_start ho halive hfresh op.received rfl (fun hne => absurd hnil hne) rfl rfl rfl rfl
      rfl rfl (fun d hd => rfl) fun st hst => ?_
    have hother : ∀ q c received, history s.operations q = some (c, received) →
        history (s.operations.set o { op with started := true }) q = some (c, received) := by
      intro q c received hq
      rw [history_set hlt', if_neg, hq]
      rintro rfl
      rw [history_of_getElem? ho, hfresh] at hq
      exact absurd hq (by simp)
    obtain rfl : .onResult p = st := Option.some.inj (hc.symm.trans hst)
    cases hs.content _ _ hc with
    | pending hreached hp => exact .pending hreached (hother _ _ _ hp)
    | passedOn hcall hmem hreceiver hp => exact .passedOn hcall hmem hreceiver (hother _ _ _ hp)
    | stored _ _ _ hst => exact absurd hst.symm ofSignal_ne_onResult
  · rw [h]
    obtain ⟨call, hcall, hmem, hreceiver, hsignal⟩ := hs.result hc
    refine hs.of_start ho halive hfresh (op.received ++ [signal]) rfl (fun _ => ⟨call, hcall, hmem⟩)
      rfl rfl (List.length_set ..) rfl rfl rfl (fun d hd => List.getElem?_set_ne hd) fun st hst => ?_
    refine .stored hcall hmem hreceiver ?_
    rw [completedOps_start hs ho hfresh rfl, if_neg (by simp), Function.iterate_succ_apply', ← hsignal]
    simpa [List.getElem?_set_self hlt] using hst.symm

/-- What the receiver gets that is set now: after the call, the result if it has been left in the
completion state, with as many moves behind it as receivers have been completed. -/
def State.answer (movedFrom : τ → τ) (s : State τ) (c : Nat) : List (Signal τ) :=
  match s.delivered with
  | some call =>
    if c ∈ call.alive ∧ call.receiver = none then
      [(Signal.moveOut movedFrom)^[s.completedOps] call.signal]
    else []
  | none => []

theorem State.answer_of_delivered {call : Call τ} {c : Nat} (h : s.delivered = some call) :
    s.answer movedFrom c = if c ∈ call.alive ∧ call.receiver = none then
      [(Signal.moveOut movedFrom)^[s.completedOps] call.signal] else [] := by
  rw [State.answer, h]

theorem State.answer_of_not_reached {c : Nat} (h : ¬ Reached s c) : s.answer movedFrom c = [] := by
  unfold State.answer
  split
  · rename_i call hcall
    exact if_neg fun hc => h ⟨call, hcall, hc.1⟩
  · rfl

theorem start_operations (hs : Consistent movedFrom s) (ho : s.operations[o]? = some op)
    (hfresh : op.started = false) : (s.start movedFrom o op.completion).operations =
      s.operations.set o
        { op with started := true, received := s.answer movedFrom op.completion } := by
  have hlt := hs.owners.operation_lt op (List.mem_of_getElem? ho)
  have hnil := hs.received_of_fresh ho hfresh
  obtain ⟨hc, h⟩ | ⟨p, hc, h⟩ | ⟨signal, hc, h⟩ := start_cases movedFrom ho hlt
  · have hanswer : s.answer movedFrom op.completion = [] := by
      cases hs.content _ _ hc with
      | awaiting hreached => exact State.answer_of_not_reached hreached
      | stored _ _ _ hst => exact absurd hst.symm ofSignal_ne_awaitingResult
    rw [h, hanswer, ← hnil]
  · have hanswer : s.answer movedFrom op.completion = [] := by
      cases hs.content _ _ hc with
      | pending hreached => exact State.answer_of_not_reached hreached
      | passedOn hcall hmem hreceiver =>
        rw [State.answer_of_delivered hcall, hreceiver]
        simp
      | stored _ _ _ hst => exact absurd hst.symm ofSignal_ne_onResult
    rw [h, hanswer, ← hnil]
  · obtain ⟨call, hcall, hmem, hreceiver, hsignal⟩ := hs.result hc
    rw [h, State.answer_of_delivered hcall, if_pos ⟨hmem, hreceiver⟩, ← hsignal, hnil]
    rfl

theorem start_delivered (hs : Consistent movedFrom s) (ho : s.operations[o]? = some op) :
    (s.start movedFrom o op.completion).delivered = s.delivered := by
  have hlt := hs.owners.operation_lt op (List.mem_of_getElem? ho)
  obtain ⟨-, h⟩ | ⟨p, -, h⟩ | ⟨signal, -, h⟩ := start_cases movedFrom ho hlt <;>
  · rw [h]
    rfl

end

/-- Before the signal is passed on or left in a completion state, no receiver has been completed. -/
theorem Consistent.received_of_not_delivered (hs : Consistent movedFrom s) (h : s.delivered = none)
    {op : Operation τ} (hop : op ∈ s.operations) : op.received = [] := by
  by_contra hne
  obtain ⟨-, call, hcall, -⟩ := hs.received op hop hne
  rw [h] at hcall
  exact absurd hcall (by simp)

theorem Consistent.completedOps_of_not_delivered (hs : Consistent movedFrom s)
    (h : s.delivered = none) : s.completedOps = 0 := by
  rw [State.completedOps, List.countP_eq_zero]
  intro op hop
  simp [hs.received_of_not_delivered h hop]

/-- `deliver` leaves the signal in the completion state, or passes it on to the operation that waits
for it. -/
theorem deliver_cases (hs : Consistent movedFrom s) {c : Nat} {signal : Signal τ}
    (hcompleting : s.completing = some (c, some signal)) :
    (s.completions[c]? = some .awaitingResult ∧ s.deliver c signal = { s with
      completing := some (c, none)
      completions := s.completions.set c (.ofSignal signal) }) ∨
    ∃ o op, s.operations[o]? = some op ∧ op.started = true ∧ op.completion = c ∧
      s.completions[c]? = some (.onResult o) ∧ s.deliver c signal = { s with
        completing := some (c, none)
        operations := s.operations.set o { op with received := [signal] }
        call := s.call.map ({ · with receiver := some o }) } := by
  have hdelivered : s.delivered = none := by rw [State.delivered, hcompleting]
  obtain ⟨call, hcall, -, hmem, -⟩ := hs.completing c signal hcompleting
  have hlt := hs.call_lt call hcall c hmem
  obtain ⟨st, hst⟩ : ∃ st, s.completions[c]? = some st := ⟨_, List.getElem?_eq_getElem hlt⟩
  have hcontent := hs.content c st hst
  cases hcontent with
  | awaiting => exact .inl ⟨hst, deliver_awaiting hst⟩
  | pending _ ho =>
    obtain ⟨op, ho, hstarted, hcompletion, hnil⟩ := history_eq_some.mp ho
    refine .inr ⟨_, op, ho, hstarted, hcompletion, hst, ?_⟩
    rw [deliver_onResult ho hst, hnil]
    rfl
  | passedOn hcall' =>
    rw [hdelivered] at hcall'
    exact absurd hcall' (by simp)
  | stored hcall' =>
    rw [hdelivered] at hcall'
    exact absurd hcall' (by simp)

/-- Only one completion state has been alive at the call. -/
theorem Consistent.not_mem_call (hs : Consistent movedFrom s) {call : Call τ} {c d : Nat}
    (hcall : s.call = some call) (hc : c ∈ call.alive) (hcd : c ≠ d) : d ∉ call.alive :=
  fun hd => hcd (hs.call_unique call hcall c hc d hd)

section

variable {call : Call τ} {c : Nat} {signal : Signal τ}

/-- The signal stays in the completion state. -/
theorem Consistent.deliver_stored (hs : Consistent movedFrom s)
    (hcompleting : s.completing = some (c, some signal)) (hcall : s.call = some call)
    (hsignal : call.signal = signal) (hmem : c ∈ call.alive) (hreceiver : call.receiver = none) :
    Consistent movedFrom { s with
      completing := some (c, none)
      completions := s.completions.set c (.ofSignal signal) } := by
  have hdelivered : s.delivered = none := by rw [State.delivered, hcompleting]
  have hlt := hs.call_lt call hcall c hmem
  constructor
  · exact hs.owners.of_same rfl rfl (List.length_set ..) (by rw [hcompleting]; rfl) fun op hop =>
      ⟨⟨op, hop, rfl, rfl⟩, hs.owners.pending_alive op hop⟩
  · exact hs.called_eq
  · simp
  · rw [List.length_set]
    exact hs.call_lt
  · exact hs.call_unique
  · intro op hop hne
    exact absurd (hs.received_of_not_delivered hdelivered hop) hne
  · intro d st hd
    by_cases hcd : c = d
    · subst hcd
      refine .stored hcall hmem hreceiver ?_
      have hops : s.operations.countP (fun op => !op.received.isEmpty) = 0 :=
        hs.completedOps_of_not_delivered hdelivered
      rw [State.completedOps, hops, hsignal]
      simpa [List.getElem?_set_self hlt] using hd.symm
    · rw [List.getElem?_set_ne hcd] at hd
      refine (hs.content d st hd).frame (fun _ _ => Iff.rfl) fun hreached => ?_
      rcases hreached with hd | ⟨call', hcall', hd⟩
      · exact absurd hd (not_reached_of_not_delivered hdelivered)
      · obtain rfl : call = call' := Option.some.inj (hcall.symm.trans hcall')
        exact absurd hd (hs.not_mem_call hcall hmem hcd)

/-- The signal goes to the operation that waits for it. -/
theorem Consistent.deliver_passedOn (hs : Consistent movedFrom s) {o : Nat} {op : Operation τ}
    (ho : s.operations[o]? = some op) (hstarted : op.started = true)
    (hc : s.completions[op.completion]? = some (.onResult o))
    (hcompleting : s.completing = some (op.completion, some signal)) (hcall : s.call = some call)
    (hsignal : call.signal = signal) (hmem : op.completion ∈ call.alive) :
    Consistent movedFrom { s with
      completing := some (op.completion, none)
      operations := s.operations.set o { op with received := [signal] }
      call := some { call with receiver := some o } } := by
  have hdelivered : s.delivered = none := by rw [State.delivered, hcompleting]
  have hlt := (List.getElem?_eq_some_iff.mp ho).1
  constructor
  · exact hs.owners.set ho (fun _ hnil => absurd hnil (by simp)) rfl rfl rfl rfl
      (by rw [hcompleting]; rfl)
  · rw [hs.called_eq, hcall]
    rfl
  · simp
  · rintro _ ⟨⟩
    exact hs.call_lt call hcall
  · rintro _ ⟨⟩
    exact hs.call_unique call hcall
  · intro op' hop' hne
    rcases List.mem_or_eq_of_mem_set hop' with hop' | rfl
    · exact absurd (hs.received_of_not_delivered hdelivered hop') hne
    · exact ⟨hstarted, _, rfl, hmem⟩
  · intro d st hd
    by_cases hcd : op.completion = d
    · subst hcd
      obtain rfl : .onResult o = st := Option.some.inj (hc.symm.trans hd)
      refine .passedOn rfl hmem rfl ?_
      dsimp only
      rw [history_set hlt, if_pos rfl, if_pos hstarted, hsignal]
    · refine (hs.content d st hd).frame (fun p received => ?_) fun hreached => ?_
      · dsimp only
        rw [history_set hlt]
        by_cases hp : p = o
        · subst hp
          rw [if_pos rfl, if_pos hstarted, history_of_getElem? ho, if_pos hstarted]
          simp [hcd]
        · rw [if_neg hp]
      · rcases hreached with hd | ⟨call', hcall', hd⟩
        · exact absurd hd (not_reached_of_not_delivered hdelivered)
        · obtain rfl := Option.some.inj hcall'
          exact absurd (show d ∈ call.alive from hd) (hs.not_mem_call hcall hmem hcd)

end

theorem Consistent.deliver (hs : Consistent movedFrom s) {c : Nat} {signal : Signal τ}
    (hcompleting : s.completing = some (c, some signal)) :
    Consistent movedFrom (s.deliver c signal) := by
  obtain ⟨call, hcall, hsignal, hmem, hreceiver⟩ := hs.completing c signal hcompleting
  obtain ⟨-, h⟩ | ⟨o, op, ho, hstarted, rfl, hc, h⟩ := deliver_cases hs hcompleting
  · rw [h]
    exact hs.deliver_stored hcompleting hcall hsignal hmem hreceiver
  · rw [h, hcall]
    exact hs.deliver_passedOn ho hstarted hc hcompleting hcall hsignal hmem

/-- Every step keeps what a state of listeners is consistent with. -/
theorem Consistent.step (hs : Consistent movedFrom s) (h : s.step movedFrom a = some t) :
    Consistent movedFrom t := by
  cases move_of_eq_some h with
  | listenAgain hlock => exact hs.addSender (lock_eq_some.mp hlock).2
  | listenNew hlock => exact hs.listenNew hlock
  | copySender hsender => exact hs.addSender (mem_alive_sender hsender)
  | destroySender => exact hs.destroySender
  | connect hsender => exact hs.connect hsender
  | start ho halive hfresh => exact hs.start ho halive hfresh
  | destroyOperation ho hdone => exact hs.destroyOperation ho hdone
  | complete hcalled => exact hs.complete hcalled
  | deliver hcompleting => exact hs.deliver hcompleting
  | endCall hcompleting => exact hs.endCall hcompleting

end Teide.Listen
