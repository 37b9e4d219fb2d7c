import Mathlib.Tactic.Common
import Teide.Listen.Invariant

/-!
# Who gets the result

What a receiver has been completed with when the call is over was decided either when the signal was
passed on or when the receiver was set (`served_step`). A single listener gets the signal once. Further
ones are answered from what earlier ones have left, and not at all once the signal has been passed on.
-/

namespace Teide.Listen

open Runs

variable {τ : Type*} {movedFrom : τ → τ} {s t : State τ} {a : Action τ}

/-- No two operations wait for the result at the same time. -/
def OnePending (s : State τ) : Prop :=
  ∀ o p c d, history s.operations o = some (c, []) → history s.operations p = some (d, []) → o = p

/-- An operation only starts when none is waiting. -/
def NonePending (s : State τ) : Action τ → Prop
  | .start _ => ∀ op ∈ s.operations, op.started = true → op.received ≠ []
  | _ => True

instance (s : State τ) : ∀ a, Decidable (NonePending s a)
  | .start _ => decidable_of_iff
      (∀ op ∈ s.operations, op.started = true → op.received.isEmpty = false)
      (by simp only [NonePending, List.isEmpty_eq_false_iff])
  | .listen | .copySender _ | .destroySender _ | .connect _ _ | .destroyOperation _ | .complete _ |
    .deliver | .endCall => .isTrue trivial

/-- Only one operation ever starts. -/
def SingleListener (s : State τ) : Action τ → Prop
  | .start _ => ∀ op ∈ s.operations, op.started = false
  | _ => True

instance (s : State τ) : ∀ a, Decidable (SingleListener s a)
  | .start _ => inferInstanceAs (Decidable (∀ op ∈ s.operations, op.started = false))
  | .listen | .copySender _ | .destroySender _ | .connect _ _ | .destroyOperation _ | .complete _ |
    .deliver | .endCall => .isTrue trivial

/-- What has started and what it has received only changes when an operation starts, and when one is
passed the signal that has been waiting for it. -/
theorem history_step (hs : Consistent movedFrom s) (h : s.step movedFrom a = some t) (p : Nat) :
    history t.operations p = history s.operations p ∨
    (∃ op, a = .start p ∧ s.operations[p]? = some op ∧ history s.operations p = none ∧
      history t.operations p = some (op.completion, s.answer movedFrom op.completion)) ∨
    ∃ c signal, a = .deliver ∧ history s.operations p = some (c, []) ∧
      history t.operations p = some (c, [signal]) := by
  cases move_of_eq_some h with
  | listenAgain | listenNew | copySender | destroySender | complete | endCall => exact .inl rfl
  | connect => exact .inl (history_append rfl)
  | start ho _ hfresh =>
    rw [start_operations hs ho hfresh, history_set (List.getElem?_eq_some_iff.mp ho).1]
    split_ifs with hp hstarted
    · subst hp
      refine .inr (.inl ⟨_, rfl, ho, ?_, rfl⟩)
      rw [history_of_getElem? ho, hfresh]
      rfl
    · exact absurd rfl hstarted
    · exact .inl rfl
  | destroyOperation ho => exact .inl (history_destroyOperation ho)
  | @deliver c signal hcompleting =>
    have hdelivered : s.delivered = none := by rw [State.delivered, hcompleting]
    obtain ⟨-, h⟩ | ⟨o, op, ho, hstarted, rfl, -, h⟩ := deliver_cases hs hcompleting
    · rw [h]
      exact .inl rfl
    · rw [h, history_set (List.getElem?_eq_some_iff.mp ho).1, if_pos hstarted]
      split_ifs with hp
      · subst hp
        refine .inr (.inr ⟨op.completion, signal, rfl, ?_, rfl⟩)
        rw [history_of_getElem? ho, if_pos hstarted,
          hs.received_of_not_delivered hdelivered (List.mem_of_getElem? ho)]
      · exact .inl rfl

theorem onePending_step (hs : Consistent movedFrom s) (hone : OnePending s)
    (hnone : NonePending s a) (h : s.step movedFrom a = some t) : OnePending t := by
  -- what is pending has been so, unless it has just started
  have hpending : ∀ p c, history t.operations p = some (c, []) →
      history s.operations p = some (c, []) ∨ a = .start p := by
    intro p c hp
    obtain h | ⟨op, ha, -⟩ | ⟨d, signal, -, -, h⟩ := history_step hs h p
    · exact .inl (h ▸ hp)
    · exact .inr ha
    · rw [hp] at h
      simp at h
  have hstart : ∀ o p c, a = .start o → history s.operations p ≠ some (c, []) := by
    rintro o p c rfl hp
    obtain ⟨op, hp, hstarted, -, hnil⟩ := history_eq_some.mp hp
    exact hnone op (List.mem_of_getElem? hp) hstarted hnil
  intro o p c d ho hp
  obtain ho | ho := hpending o c ho
  · obtain hp | hp := hpending p d hp
    · exact hone o p c d ho hp
    · exact absurd ho (hstart p o c hp)
  · obtain hp | hp := hpending p d hp
    · exact absurd hp (hstart o p d ho)
    · rw [ho] at hp
      exact Action.start.inj hp

/-- Only the call itself changes whether it is over. -/
theorem delivered_step (hs : Consistent movedFrom s) (h : s.step movedFrom a = some t) :
    t.delivered = s.delivered ∨
      s.delivered = none ∧ (a = .deliver ∨ ∃ signal, a = .complete signal) := by
  cases move_of_eq_some h with
  | listenAgain | listenNew | copySender | destroySender | connect | destroyOperation => exact .inl rfl
  | start ho => exact .inl (start_delivered hs ho)
  | complete hcalled => exact .inr ⟨hs.delivered_of_not_called hcalled, .inr ⟨_, rfl⟩⟩
  | deliver hcompleting => exact .inr ⟨by rw [State.delivered, hcompleting], .inl rfl⟩
  | endCall hcompleting => exact .inl (by rw [State.delivered, State.delivered, hcompleting])

/-- Before that, an operation that has started has received nothing, and keeps its completion state
alive. -/
theorem Consistent.waiting_of_not_delivered (hs : Consistent movedFrom s)
    (hdelivered : s.delivered = none) {p c : Nat} {received : List (Signal τ)}
    (hp : history s.operations p = some (c, received)) : received = [] ∧ c ∈ s.alive := by
  obtain ⟨op, ho, hstarted, rfl, rfl⟩ := history_eq_some.mp hp
  have hmem := List.mem_of_getElem? ho
  have hnil := hs.received_of_not_delivered hdelivered hmem
  exact ⟨hnil, mem_alive_operation hmem (hs.owners.pending_alive op hmem hstarted hnil)⟩

/-- The operation that waits at the end of the call gets the signal. -/
theorem received_at_deliver (hs : Consistent movedFrom s) (hone : OnePending s) {d : Nat}
    {signal : Signal τ} (hcompleting : s.completing = some (d, some signal)) {call : Call τ}
    (hcall : (s.deliver d signal).delivered = some call) {p c : Nat}
    {received : List (Signal τ)}
    (hp : history (s.deliver d signal).operations p = some (c, received)) :
    received = [call.signal] := by
  have hdelivered : s.delivered = none := by rw [State.delivered, hcompleting]
  obtain ⟨call', hcall', hsignal, -⟩ := hs.completing d signal hcompleting
  obtain ⟨hd, h⟩ | ⟨o, op, ho, hstarted, rfl, hd, h⟩ := deliver_cases hs hcompleting
  · rw [h] at hp
    obtain rfl : c = d := hs.owners.alive_unique (hs.waiting_of_not_delivered hdelivered hp).2
      (mem_alive_completing hcompleting)
    cases hs.content c _ hd with
    | awaiting _ hstarted => exact absurd hp (hstarted p received)
    | stored hcall' =>
      rw [hdelivered] at hcall'
      exact absurd hcall' (by simp)
  · rw [h] at hcall hp
    have hnil := hs.received_of_not_delivered hdelivered (List.mem_of_getElem? ho)
    rw [history_set (List.getElem?_eq_some_iff.mp ho).1, if_pos hstarted] at hp
    split_ifs at hp with hpo
    · rw [State.delivered, hcall'] at hcall
      obtain rfl := Option.some.inj hcall
      obtain ⟨rfl, rfl⟩ := Prod.mk.inj (Option.some.inj hp)
      rw [hsignal]
    · refine absurd (hone p o c op.completion ?_ ?_) hpo
      · rw [hp, (hs.waiting_of_not_delivered hdelivered hp).1]
      · rw [history_of_getElem? ho, if_pos hstarted, hnil]

/-- What an operation has received once the call is over: the signal, if it has been waiting for it;
otherwise what it got at its start. -/
theorem served_step (hs : Consistent movedFrom s) (hone : OnePending s)
    (h : s.step movedFrom a = some t) {call : Call τ} (hcall : t.delivered = some call) {p c : Nat}
    {received : List (Signal τ)} (hp : history t.operations p = some (c, received)) :
    received = [call.signal] ∨ s.delivered = some call ∧ (history s.operations p = some (c, received) ∨
      ∃ op, a = .start p ∧ s.operations[p]? = some op ∧ op.completion = c ∧
        received = s.answer movedFrom c) := by
  have hbefore : (∀ signal, a ≠ .complete signal) → a ≠ .deliver → s.delivered = some call := by
    intro hcomplete hdeliver
    obtain h | ⟨-, ha | ⟨signal, ha⟩⟩ := delivered_step hs h
    · exact h ▸ hcall
    · exact absurd ha hdeliver
    · exact absurd ha (hcomplete signal)
  cases a with
  | complete signal =>
    cases move_of_eq_some h with
    | complete hcalled =>
      -- nothing is alive, so no operation has been waiting
      obtain ⟨hlock, -⟩ := delivered_complete hcall
      have hc := (hs.waiting_of_not_delivered (hs.delivered_of_not_called hcalled) hp).2
      rw [hs.owners.alive_of_lock hlock] at hc
      exact absurd hc (by simp)
  | deliver =>
    cases move_of_eq_some h with
    | deliver hcompleting => exact .inl (received_at_deliver hs hone hcompleting hcall hp)
  | start o =>
    refine .inr ⟨hbefore (by simp) (by simp), ?_⟩
    obtain h | ⟨op, ha, ho, -, h⟩ | ⟨d, signal, ha, -⟩ := history_step hs h p
    · exact .inl (h ▸ hp)
    · obtain ⟨rfl, rfl⟩ := Prod.mk.inj (Option.some.inj (h.symm.trans hp))
      exact .inr ⟨op, ha, ho, rfl, rfl⟩
    · exact absurd ha (by simp)
  | _ =>
    refine .inr ⟨hbefore (by simp) (by simp), .inl ?_⟩
    obtain h | ⟨op, ha, -⟩ | ⟨d, signal, ha, -⟩ := history_step hs h p
    · exact h ▸ hp
    · exact absurd ha (by simp)
    · exact absurd ha (by simp)

/-! ### A single listener -/

/-- If the signal has been passed on, then to an operation that has started. -/
theorem Consistent.receiver_started (hs : Consistent movedFrom s) {call : Call τ} {c o : Nat}
    (hcall : s.delivered = some call) (hc : c ∈ call.alive) (hreceiver : call.receiver = some o) :
    ∃ op ∈ s.operations, op.started = true := by
  have hlt := hs.call_lt call (call_of_delivered hcall) c hc
  obtain ⟨st, hst⟩ : ∃ st, s.completions[c]? = some st := ⟨_, List.getElem?_eq_getElem hlt⟩
  cases hs.content c st hst with
  | awaiting hreached => exact absurd ⟨call, hcall, hc⟩ hreached
  | pending hreached => exact absurd ⟨call, hcall, hc⟩ hreached
  | passedOn _ _ _ ho =>
    obtain ⟨op, ho, hstarted, -⟩ := history_eq_some.mp ho
    exact ⟨op, List.mem_of_getElem? ho, hstarted⟩
  | stored hcall' _ hnone =>
    obtain rfl := Option.some.inj (hcall.symm.trans hcall')
    rw [hnone] at hreceiver
    exact absurd hreceiver (by simp)

/-- The first listener to start gets the signal as it was sent, or starts too late to get it. -/
theorem answer_first (hs : Consistent movedFrom s) (hfirst : ∀ op ∈ s.operations, op.started = false)
    {call : Call τ} (hcall : s.delivered = some call) (c : Nat) :
    s.answer movedFrom c = if c ∈ call.alive then [call.signal] else [] := by
  rw [State.answer_of_delivered hcall]
  by_cases hc : c ∈ call.alive
  · have hreceiver : call.receiver = none := by
      rw [Option.eq_none_iff_forall_ne_some]
      intro o hreceiver
      obtain ⟨op, hop, hstarted⟩ := hs.receiver_started hcall hc hreceiver
      rw [hfirst op hop] at hstarted
      exact absurd hstarted (by simp)
    have hops : s.completedOps = 0 := by
      rw [State.completedOps, List.countP_eq_zero]
      intro op hop
      obtain ⟨o, ho⟩ := List.mem_iff_getElem?.mp hop
      simp [hs.received_of_fresh ho (hfirst op hop)]
    rw [if_pos ⟨hc, hreceiver⟩, if_pos hc, hops, Function.iterate_zero, id]
  · rw [if_neg fun h => hc h.1, if_neg hc]

structure Served (s : State τ) : Prop where
  onePending : OnePending s
  assertion : s.assertionFailed = false
  received : ∀ call, s.delivered = some call → ∀ p c received,
    history s.operations p = some (c, received) →
      received = if c ∈ call.alive then [call.signal] else []

theorem served_init : Served ({} : State τ) where
  onePending o p c d ho := absurd ho (by simp [history])
  assertion := rfl
  received call hcall := absurd hcall (by simp [State.delivered])

/-- `SetReceiver` only finds another receiver registered where one has been set before. -/
theorem assertion_step (hs : Consistent movedFrom s) (hsingle : SingleListener s a)
    (h : s.step movedFrom a = some t) : t.assertionFailed = s.assertionFailed := by
  cases move_of_eq_some h with
  | listenAgain | listenNew | copySender | destroySender | connect | destroyOperation | complete |
    endCall => rfl
  | start ho =>
    have hmem := List.mem_of_getElem? ho
    obtain ⟨-, h⟩ | ⟨p, hp, -⟩ | ⟨signal, -, h⟩ :=
      start_cases movedFrom ho (hs.owners.operation_lt _ hmem)
    · rw [h]
    · obtain ⟨op, hop, hstarted⟩ : ∃ op ∈ s.operations, op.started = true := by
        cases hs.content _ _ hp with
        | pending _ ho =>
          obtain ⟨op, ho, hstarted, -⟩ := history_eq_some.mp ho
          exact ⟨op, List.mem_of_getElem? ho, hstarted⟩
        | passedOn hcall hc hreceiver => exact hs.receiver_started hcall hc hreceiver
        | stored _ _ _ hst => exact absurd hst.symm ofSignal_ne_onResult
      rw [hsingle op hop] at hstarted
      exact absurd hstarted (by simp)
    · rw [h]
  | deliver hcompleting =>
    obtain ⟨-, h⟩ | ⟨o, op, -, -, -, -, h⟩ := deliver_cases hs hcompleting <;>
    · rw [h]

theorem Served.step (hs : Consistent movedFrom s) (hserved : Served s) (hsingle : SingleListener s a)
    (h : s.step movedFrom a = some t) : Served t where
  onePending := by
    refine onePending_step hs hserved.onePending ?_ h
    cases a with
    | start o => exact fun op hop hstarted => absurd hstarted (by simp [hsingle op hop])
    | _ => trivial
  assertion := (assertion_step hs hsingle h).trans hserved.assertion
  received call hcall p c received hp := by
    obtain rfl | ⟨hcall', hp' | ⟨op, rfl, ho, rfl, rfl⟩⟩ :=
      served_step hs hserved.onePending h hcall hp
    · obtain ⟨op, ho, -, rfl, hreceived⟩ := history_eq_some.mp hp
      obtain ⟨-, call', hcall', hc⟩ :=
        (hs.step h).received op (List.mem_of_getElem? ho) (by simp [hreceived])
      obtain rfl := Option.some.inj (hcall.symm.trans hcall')
      exact (if_pos hc).symm
    · exact hserved.received call hcall' p c received hp'
    · exact answer_first hs hsingle hcall' _

/-- **A single listener is completed exactly once.** Along any run in which only one operation ever
starts: no assertion fails, and no receiver is completed twice. Once the call is over, a receiver whose
operation has started has been completed with just the signal of the call, provided that its completion
state was alive at the call. A call that finds nothing alive leaves everything as it is. -/
theorem single_listener_completed_once {as : List (Action τ)}
    (hrun : exec (State.step movedFrom) {} as = some s)
    (hsingle : Each (State.step movedFrom) SingleListener {} as) :
    s.assertionFailed = false ∧ (∀ op ∈ s.operations, op.received.length ≤ 1) ∧
      (∀ call, s.delivered = some call → ∀ op ∈ s.operations, op.started = true →
        op.completion ∈ call.alive → op.received = [call.signal]) ∧
      ∀ signal t, s.alive = [] → s.step movedFrom (.complete signal) = some t →
        t = { s with called := true, call := some { signal := signal, alive := [] } } := by
  obtain ⟨hs, hserved⟩ : Consistent movedFrom s ∧ Served s :=
    exec_invariant_of_each (I := fun s => Consistent movedFrom s ∧ Served s)
      (fun s a t hs hsingle h => ⟨hs.1.step h, hs.2.step hs.1 hsingle h⟩)
      ⟨consistent_init, served_init⟩ hsingle hrun
  have hreceived : ∀ call, s.delivered = some call → ∀ op ∈ s.operations, op.started = true →
      op.completion ∈ call.alive → op.received = [call.signal] := by
    intro call hcall op hop hstarted hc
    obtain ⟨o, ho⟩ := List.mem_iff_getElem?.mp hop
    rw [hserved.received call hcall o op.completion op.received, if_pos hc]
    rw [history_of_getElem? ho, if_pos hstarted]
  refine ⟨hserved.assertion, fun op hop => ?_, hreceived, fun signal t halive h => ?_⟩
  · by_cases hnil : op.received = []
    · simp [hnil]
    · obtain ⟨hstarted, call, hcall, hc⟩ := hs.received op hop hnil
      simp [hreceived call hcall op hop hstarted hc]
  · cases move_of_eq_some h with
    | complete hcalled =>
      have hlock : s.lock = none := by
        rw [Option.eq_none_iff_forall_ne_some]
        intro c hc
        rw [lock_eq_some, halive] at hc
        exact absurd hc.2 (by simp)
      have hcompleting : s.completing = none := by
        rw [Option.eq_none_iff_forall_ne_some]
        rintro ⟨c, x⟩ hc
        have hmem := mem_alive_completing hc
        rw [halive] at hmem
        exact absurd hmem (by simp)
      rw [State.complete, hlock, halive, Option.map_none, hcompleting]

/-- The start comes between the call's two halves, and the sender that is left over is destroyed. -/
theorem single_listener_completed_once_racing :
    ∃ s : State Nat, s.operations.map (·.received) = [[.setValue 42]] ∧ s.assertionFailed = false := by
  let as : List (Action Nat) :=
    [.listen, .copySender 0, .connect 0 true, .complete (.setValue 42), .start 0, .deliver,
      .destroySender 1, .endCall]
  obtain ⟨s, hrun, hreceived⟩ : ∃ s, exec (State.step id) {} as = some s ∧
      s.operations.map (·.received) = [[.setValue 42]] := ⟨_, rfl, rfl⟩
  have hsingle : Each (State.step id) SingleListener {} as := by decide
  exact ⟨s, hreceived, (single_listener_completed_once hrun hsingle).1⟩

/-! ### Several listeners, one after another -/

/-- What an operation that starts after the call needs to get the signal: its completion state was
alive at the call, which has left the signal there, and moving it out once for each receiver that has
been completed leaves it as it is. -/
def SignalThere (movedFrom : τ → τ) (s : State τ) : Action τ → Prop
  | .start o => ∀ call, s.delivered = some call → ∀ op, s.operations[o]? = some op →
      op.completion ∈ call.alive ∧ call.receiver = none ∧
        (Signal.moveOut movedFrom)^[s.completedOps] call.signal = call.signal
  | _ => True

/-- Once the call is over, every operation that has started has received its signal. -/
def AllServed (s : State τ) : Prop :=
  ∀ call, s.delivered = some call → ∀ p c received, history s.operations p = some (c, received) →
    received = [call.signal]

theorem allServed_step_iff (hs : Consistent movedFrom s) (hone : OnePending s) (hall : AllServed s)
    (h : s.step movedFrom a = some t) : AllServed t ↔ SignalThere movedFrom s a := by
  constructor
  · intro hall'
    cases a with
    | start o =>
      intro call hcall op ho
      cases move_of_eq_some h with
      | start ho' _ hfresh =>
        obtain rfl := Option.some.inj (ho.symm.trans ho')
        have hanswer := hall' call ((start_delivered hs ho).trans hcall) o op.completion
          (s.answer movedFrom op.completion) (by
            rw [start_operations hs ho hfresh, history_set (List.getElem?_eq_some_iff.mp ho).1,
              if_pos rfl, if_pos rfl])
        rw [State.answer_of_delivered hcall] at hanswer
        split_ifs at hanswer with hleft
        exact ⟨hleft.1, hleft.2, List.singleton_inj.mp hanswer⟩
    | _ => trivial
  · intro hthere call hcall p c received hp
    obtain rfl | ⟨hcall', hp' | ⟨op, rfl, ho, rfl, rfl⟩⟩ := served_step hs hone h hcall hp
    · rfl
    · exact hall call hcall' p c received hp'
    · obtain ⟨hc, hreceiver, hsame⟩ := hthere call hcall' op ho
      rw [State.answer_of_delivered hcall', if_pos ⟨hc, hreceiver⟩, hsame]

/-- A receiver that has been completed with something else, or not at all, stays so. -/
theorem AllServed.of_step (hs : Consistent movedFrom s) (h : s.step movedFrom a = some t)
    (hall : AllServed t) : AllServed s := by
  intro call hcall p c received hp
  have hcall' : t.delivered = some call := by
    obtain h | ⟨hnone, -⟩ := delivered_step hs h
    · exact h.trans hcall
    · rw [hnone] at hcall
      exact absurd hcall (by simp)
  obtain h | ⟨op, -, -, hnone, -⟩ | ⟨d, signal, ha, -⟩ := history_step hs h p
  · exact hall call hcall' p c received (h.trans hp)
  · rw [hnone] at hp
    exact absurd hp (by simp)
  · subst ha
    cases move_of_eq_some h with
    | deliver hcompleting =>
      rw [State.delivered, hcompleting] at hcall
      exact absurd hcall (by simp)

/-- **Listeners that start one after another all get the signal, when it is still there.** Take a run
in which no two operations are pending at the same time, and in which the call is over at the end. All
operations that have started have been completed with just its signal, exactly when each one that has
started after the call belongs to a completion state that the call has left its signal in, and moving
the signal out for the earlier ones has not changed it. -/
theorem listeners_served_iff_signal_there {as : List (Action τ)}
    (hrun : exec (State.step movedFrom) {} as = some s)
    (hnone : Each (State.step movedFrom) NonePending {} as) {call : Call τ}
    (hcall : s.delivered = some call) :
    (∀ op ∈ s.operations, op.started = true → op.received = [call.signal]) ↔
      Each (State.step movedFrom) (SignalThere movedFrom) {} as := by
  have hinit : Consistent movedFrom ({} : State τ) ∧ OnePending ({} : State τ) :=
    ⟨consistent_init, served_init.onePending⟩
  have hkeep : ∀ (s : State τ) a t, Consistent movedFrom s ∧ OnePending s → NonePending s a →
      s.step movedFrom a = some t → Consistent movedFrom t ∧ OnePending t :=
    fun s a t hs hnone h => ⟨hs.1.step h, onePending_step hs.1 hs.2 hnone h⟩
  have hlast := always_iff_last_of_each (P := AllServed) hkeep
    (fun s a t hs hbad _ h hall => hbad (hall.of_step hs.1 h)) hinit hnone hrun
  have heach := always_iff_each_of_each (P := AllServed) (C := SignalThere movedFrom)
    (fun s a t hs _ hnone h _ => hkeep s a t hs hnone h)
    (fun s a t hs hall _ h => allServed_step_iff hs.1 hs.2 hall h) hinit
    (fun call hcall => absurd hcall (by simp [State.delivered])) hnone hrun
  rw [← heach, hlast]
  constructor
  · intro hall call' hcall' p c received hp
    obtain rfl := Option.some.inj (hcall.symm.trans hcall')
    obtain ⟨op, ho, hstarted, -, rfl⟩ := history_eq_some.mp hp
    exact hall op (List.mem_of_getElem? ho) hstarted
  · intro hall op hop hstarted
    obtain ⟨o, ho⟩ := List.mem_iff_getElem?.mp hop
    exact hall call hcall o op.completion op.received
      (by rw [history_of_getElem? ho, if_pos hstarted])

/-- A value that moving does not change, such as a number, can be handed out again. -/
theorem listeners_served_iff_signal_there_twice :
    ∃ s : State Nat, s.operations.length = 2 ∧ ∀ op ∈ s.operations, op.received = [.setValue 42] := by
  let as : List (Action Nat) :=
    [.listen, .listen, .connect 0 true, .connect 1 false, .complete (.setValue 42), .deliver, .endCall,
      .start 0, .start 1]
  obtain ⟨s, hrun, hcall, hlength, hstarted⟩ : ∃ s, exec (State.step id) {} as = some s ∧
      s.delivered = some { signal := .setValue 42, alive := [0, 0, 0] } ∧ s.operations.length = 2 ∧
      s.operations.all (·.started) = true := ⟨_, rfl, rfl, rfl, rfl⟩
  have hnone : Each (State.step id) NonePending {} as := by decide
  have hiff := listeners_served_iff_signal_there hrun hnone hcall
  refine ⟨s, hlength, fun op hop => hiff.mpr ?_ op hop (List.all_eq_true.mp hstarted op hop)⟩
  refine ⟨trivial, trivial, trivial, trivial, trivial, trivial, trivial, ?_, ?_, trivial⟩ <;>
  · rintro _ ⟨⟩ _ ⟨⟩
    exact ⟨List.mem_cons_self, rfl, rfl⟩

/-- Of two listeners that start after the call, the second one finds the value moved out. -/
theorem second_listener_gets_moved_from :
    ¬ ∀ (as : List (Action (List Nat))) (s : State (List Nat)) (call : Call (List Nat)),
      exec (State.step fun _ => []) {} as = some s →
      Each (State.step fun _ => []) NonePending {} as → s.delivered = some call →
        ∀ op ∈ s.operations, op.started = true → op.received = [call.signal] := by
  intro hall
  let as : List (Action (List Nat)) :=
    [.listen, .listen, .connect 0 true, .connect 1 true, .complete (.setValue [42]), .deliver, .endCall,
      .start 0, .destroyOperation 0, .start 1]
  obtain ⟨s, hrun, call, hcall, op, hop, hstarted, hreceived, hsignal⟩ :
      ∃ s, exec (State.step fun _ => []) {} as = some s ∧ ∃ call, s.delivered = some call ∧
        ∃ op, s.operations[1]? = some op ∧ op.started = true ∧ op.received = [.setValue []] ∧
          call.signal = .setValue [42] := ⟨_, rfl, _, rfl, _, rfl, rfl, rfl, rfl⟩
  have hserved := hall as s call hrun (by decide) hcall op (List.mem_of_getElem? hop) hstarted
  rw [hreceived, hsignal] at hserved
  exact absurd hserved (by simp)

end Teide.Listen
