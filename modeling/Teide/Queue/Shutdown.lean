import Mathlib.Tactic.Common
import Mathlib.Data.List.Nodup
import Teide.Queue.Invariant

/-!
# The scheduler thread and the end of the queue

The scheduler thread repeats: take a snapshot of the fences in flight, wait up to two milliseconds
for one of them (or sleep, if there is none), and call `Flush` if one is signalled. The destructor
of the `std::jthread` requests a stop and joins the thread. The thread looks at the request at the
head of its loop; it then waits for all fences in flight, but calls `Flush` no more.

`Lifetime` is a queue together with its scheduler thread. The actions of all parties on the queue
are those of `State.step`, with `Flush` left to the scheduler thread. No other thread calls the queue
once it is being destroyed. A lost device ends the process and is not modelled.
-/

namespace Teide.Queue

open List Runs

variable {χ κ : Type*}

/-- Where the scheduler thread is. -/
inductive Thread where
  | loopHead
  | collecting
  /-- in `waitForFences`, or in `sleep_for` if the snapshot is empty -/
  | waiting (snapshot : List (Nat × Fence))
  | signalSeen
  | flushing
  /-- behind the loop, in `WaitForTasks` -/
  | stopping
  | finalWait (snapshot : List (Nat × Fence))
  | ended (timedOut : Bool)
  deriving DecidableEq

structure Lifetime (χ κ : Type*) where
  state : State χ κ := {}
  stopRequested : Bool := false
  thread : Thread := .loopHead

namespace Lifetime

inductive Event (χ κ : Type*) where
  | queue (a : Action χ κ)
  | requestStop
  | checkStop
  | getInFlightFences
  | waitForFences
  | timeout

/-- Who may do what: `Flush` is the scheduler thread's, and a queue that is being destroyed is
called no more. -/
def Allowed (s : Lifetime χ κ) : Action χ κ → Prop
  | .submit .. | .waitBegin => s.stopRequested = false
  | .flushBegin => s.thread = .signalSeen
  | .flushNext | .flushEnd => s.thread = .flushing
  | .signal _ | .waitDone _ | .waitTimeout _ => True

instance (s : Lifetime χ κ) : ∀ a, Decidable (s.Allowed a)
  | .submit .. | .waitBegin => inferInstanceAs (Decidable (s.stopRequested = false))
  | .flushBegin => inferInstanceAs (Decidable (s.thread = .signalSeen))
  | .flushNext | .flushEnd => inferInstanceAs (Decidable (s.thread = .flushing))
  | .signal _ | .waitDone _ | .waitTimeout _ => .isTrue trivial

/-- Where the scheduler thread is after an action on the queue. -/
def threadAfter (s : Lifetime χ κ) : Action χ κ → Thread
  | .flushBegin => .flushing
  | .flushEnd => .loopHead
  | _ => s.thread

def step (s : Lifetime χ κ) : Event χ κ → Option (Lifetime χ κ)
  | .queue a =>
    if s.Allowed a then
      (s.state.step a).map fun t => { s with state := t, thread := s.threadAfter a }
    else none
  | .requestStop => some { s with stopRequested := true }
  | .checkStop =>
    if s.thread = .loopHead then
      some { s with thread := if s.stopRequested then .stopping else .collecting }
    else none
  | .getInFlightFences =>
    match s.thread with
    | .collecting => some { s with thread := .waiting (attached s.state.queue.inFlightSubmits) }
    | .stopping => some { s with thread := .finalWait (attached s.state.queue.inFlightSubmits) }
    | _ => none
  | .waitForFences =>
    match s.thread with
    | .waiting snapshot =>
      if ∃ p ∈ snapshot, s.state.signalled p.2 = true then some { s with thread := .signalSeen }
      else none
    | .finalWait snapshot =>
      if ∀ p ∈ snapshot, s.state.signalled p.2 = true then
        some { s with thread := .ended false }
      else none
    | _ => none
  | .timeout =>
    match s.thread with
    | .waiting _ => some { s with thread := .loopHead }
    | .finalWait snapshot =>
      if snapshot = [] then none else some { s with thread := .ended true }
    | _ => none

/-- The thread is behind its loop. -/
def LeftLoop (s : Lifetime χ κ) : Prop :=
  match s.thread with
  | .stopping | .finalWait _ | .ended _ => True
  | _ => False

/-- When the thread sees the stop request, nothing is in flight. -/
def NothingInFlightAtStop (s : Lifetime χ κ) : Event χ κ → Prop
  | .checkStop => s.stopRequested = true → s.state.queue.getInFlightFences = []
  | _ => True

instance (s : Lifetime χ κ) : ∀ e, Decidable (s.NothingInFlightAtStop e)
  | .checkStop => inferInstanceAs (Decidable (s.stopRequested = true → _))
  | .queue _ | .requestStop | .getInFlightFences | .waitForFences | .timeout => .isTrue trivial

end Lifetime

/-- Every callback passed to `Submit` has been called exactly once. -/
def CompletedOnce (s : State χ κ) : Prop :=
  ∀ n call, s.submits[n]? = some call → s.ran.filter (·.1 = n) = [(n, call.callback)]

theorem filter_eq_singleton {α β : Type*} [DecidableEq β] {f : α → β} {l : List α} {a : α}
    (hnodup : (l.map f).Nodup) (ha : a ∈ l) : l.filter (f · = f a) = [a] := by
  induction l with
  | nil => exact absurd ha not_mem_nil
  | cons b l ih =>
    obtain ⟨hb, hl⟩ := nodup_cons.mp hnodup
    rcases mem_cons.mp ha with rfl | ha
    · rw [filter_cons_of_pos (by simp), filter_eq_nil_iff.mpr]
      intro c hc heq
      exact hb (of_decide_eq_true heq ▸ mem_map_of_mem hc)
    · rw [filter_cons_of_neg, ih hl ha]
      intro heq
      exact hb (of_decide_eq_true heq ▸ mem_map_of_mem ha)

/-- What is in flight has not been completed, and everything else has. -/
theorem Consistent.completedOnce_iff {s : State χ κ} (hc : Consistent s) :
    CompletedOnce s ↔ attached s.queue.inFlightSubmits = [] := by
  have hnodup := nodup_append.mp (hc.accounted.nodup_iff.mpr nodup_range)
  constructor
  · intro hall
    refine eq_nil_iff_forall_not_mem.mpr fun p hp => ?_
    have hlt := hc.submission_lt hp
    have hran : (p.1, s.submits[p.1].callback) ∈ s.ran.filter (·.1 = p.1) := by
      rw [hall p.1 _ (getElem?_eq_getElem hlt)]
      exact mem_singleton_self _
    have hmem : p.1 ∈ s.ran.map Prod.fst := mem_map_of_mem (mem_of_mem_filter hran)
    exact hnodup.2.2 p.1 hmem p.1 (mem_map_of_mem hp) rfl
  · intro hnone n call hcall
    have hn : n ∈ s.ran.map Prod.fst := by
      have hmem : n ∈ range s.submits.length := mem_range.mpr (List.getElem?_eq_some_iff.mp hcall).1
      have hmem := hc.accounted.symm.subset hmem
      rwa [hnone, map_nil, append_nil] at hmem
    obtain ⟨p, hp, rfl⟩ := mem_map.mp hn
    obtain ⟨call', hcall', hcallback, -⟩ := hc.ran_finished p hp
    obtain rfl : call' = call := Option.some.inj (hcall'.symm.trans hcall)
    rw [filter_eq_singleton hnodup.1 hp, ← hcallback]

namespace Lifetime

variable {s t : Lifetime χ κ} {e : Event χ κ}

/-- What the events do, and when. -/
inductive Move (s : Lifetime χ κ) : Event χ κ → Lifetime χ κ → Prop where
  | queue {a : Action χ κ} {state : State χ κ} (hallowed : s.Allowed a)
      (hstate : s.state.step a = some state) :
      Move s (.queue a) { s with state := state, thread := s.threadAfter a }
  | requestStop : Move s .requestStop { s with stopRequested := true }
  | stop (hthread : s.thread = .loopHead) (hstop : s.stopRequested = true) :
      Move s .checkStop { s with thread := .stopping }
  | stay (hthread : s.thread = .loopHead) (hstop : s.stopRequested = false) :
      Move s .checkStop { s with thread := .collecting }
  | collect (hthread : s.thread = .collecting) :
      Move s .getInFlightFences { s with thread := .waiting (attached s.state.queue.inFlightSubmits) }
  | collectFinal (hthread : s.thread = .stopping) :
      Move s .getInFlightFences
        { s with thread := .finalWait (attached s.state.queue.inFlightSubmits) }
  | seen {snapshot : List (Nat × Fence)} (hthread : s.thread = .waiting snapshot) :
      Move s .waitForFences { s with thread := .signalSeen }
  | endWait {snapshot : List (Nat × Fence)} (hthread : s.thread = .finalWait snapshot) :
      Move s .waitForFences { s with thread := .ended false }
  | tryAgain {snapshot : List (Nat × Fence)} (hthread : s.thread = .waiting snapshot) :
      Move s .timeout { s with thread := .loopHead }
  | giveUp {snapshot : List (Nat × Fence)} (hthread : s.thread = .finalWait snapshot) :
      Move s .timeout { s with thread := .ended true }

theorem move_of_eq_some (h : s.step e = some t) : Move s e t := by
  cases e with
  | queue a =>
    simp only [step] at h
    split_ifs at h with hallowed
    obtain ⟨state, hstate, rfl⟩ := Option.map_eq_some_iff.mp h
    exact .queue hallowed hstate
  | requestStop => exact Option.some.inj h ▸ .requestStop
  | checkStop =>
    simp only [step] at h
    split_ifs at h with hthread hstop
    · exact Option.some.inj h ▸ .stop hthread hstop
    · exact Option.some.inj h ▸ .stay hthread (by simpa using hstop)
  | getInFlightFences =>
    simp only [step] at h
    split at h
    · rename_i hthread
      exact Option.some.inj h ▸ .collect hthread
    · rename_i hthread
      exact Option.some.inj h ▸ .collectFinal hthread
    · simp at h
  | waitForFences =>
    simp only [step] at h
    split at h
    · rename_i hthread
      split_ifs at h
      exact Option.some.inj h ▸ .seen hthread
    · rename_i hthread
      split_ifs at h
      exact Option.some.inj h ▸ .endWait hthread
    · simp at h
  | timeout =>
    simp only [step] at h
    split at h
    · rename_i hthread
      exact Option.some.inj h ▸ .tryAgain hthread
    · rename_i hthread
      split_ifs at h
      exact Option.some.inj h ▸ .giveUp hthread
    · simp at h

/-- The thread leaves the loop because of a request. -/
structure Sound (s : Lifetime χ κ) : Prop where
  consistent : Consistent s.state
  requested : s.LeftLoop → s.stopRequested = true

theorem Sound.step (hs : s.Sound) (h : s.step e = some t) : t.Sound := by
  obtain ⟨hc, hrequested⟩ := hs
  cases move_of_eq_some h with
  | @queue a state hallowed hstate =>
    refine ⟨hc.step hstate, fun hleft => hrequested ?_⟩
    cases a with
    | flushBegin | flushEnd => exact hleft.elim
    | _ => exact hleft
  | requestStop => exact ⟨hc, fun _ => rfl⟩
  | stop _ hstop => exact ⟨hc, fun _ => hstop⟩
  | collectFinal hthread | endWait hthread | giveUp hthread =>
    exact ⟨hc, fun _ => hrequested (by rw [LeftLoop, hthread]; trivial)⟩
  | stay | collect | seen | tryAgain => exact ⟨hc, False.elim⟩

/-- The actions that are still allowed behind the loop detach nothing. -/
theorem Sound.attached_of_leftLoop (hs : s.Sound) (hleft : s.LeftLoop) (h : s.step e = some t) :
    t.LeftLoop ∧ attached t.state.queue.inFlightSubmits = attached s.state.queue.inFlightSubmits := by
  cases move_of_eq_some h with
  | queue hallowed hstate =>
    cases step_of_eq_some hs.consistent hstate with
    | submit | waitBegin | waitBlock =>
      rw [Allowed, hs.requested hleft] at hallowed
      exact absurd hallowed (by simp)
    | flushBegin | complete | skip | flushEnd =>
      rw [Allowed] at hallowed
      rw [LeftLoop, hallowed] at hleft
      exact hleft.elim
    | signal | waitDone | waitTimeout => exact ⟨hleft, rfl⟩
  | requestStop => exact ⟨hleft, rfl⟩
  | collectFinal | endWait | giveUp => exact ⟨trivial, rfl⟩
  | stop hthread | stay hthread | collect hthread | seen hthread | tryAgain hthread =>
    rw [LeftLoop, hthread] at hleft
    exact hleft.elim

/-- The loop is left with nothing in flight. -/
def LeftIdle (s : Lifetime χ κ) : Prop :=
  s.LeftLoop → attached s.state.queue.inFlightSubmits = []

theorem Sound.leftIdle_iff (hs : s.Sound) (hidle : s.LeftIdle) (h : s.step e = some t) :
    t.LeftIdle ↔ s.NothingInFlightAtStop e := by
  by_cases hleft : s.LeftLoop
  · obtain ⟨-, hattached⟩ := hs.attached_of_leftLoop hleft h
    refine iff_of_true (fun _ => hattached.trans (hidle hleft)) ?_
    cases move_of_eq_some h with
    | stop hthread | stay hthread =>
      rw [LeftLoop, hthread] at hleft
      exact hleft.elim
    | _ => trivial
  · cases move_of_eq_some h with
    | @queue a _ _ hstate =>
      refine iff_of_true (fun ht => ?_) trivial
      cases a with
      | flushBegin | flushEnd => exact ht.elim
      | _ => exact absurd ht hleft
    | requestStop => exact iff_of_true (fun ht => absurd ht hleft) trivial
    | stop hthread hstop =>
      rw [NothingInFlightAtStop, getInFlightFences_eq, map_eq_nil_iff]
      exact ⟨fun hnone _ => hnone trivial, fun hnone _ => hnone hstop⟩
    | stay hthread hstop =>
      exact iff_of_true False.elim fun hstop' => absurd (hstop.symm.trans hstop') (by simp)
    | collect | seen | tryAgain => exact iff_of_true False.elim trivial
    | collectFinal hthread | endWait hthread | giveUp hthread =>
      exact absurd (by rw [LeftLoop, hthread]; trivial) hleft

end Lifetime

/-- **No completion is lost at shutdown, when nothing is in flight at the stop.** When the scheduler
thread has ended and its final wait has not timed out, every callback that was passed to `Submit` has
been called exactly once if and only if nothing was in flight when the thread saw the stop
request. -/
theorem completed_once_iff_nothing_in_flight_at_stop {s : Lifetime χ κ} {es : List (Lifetime.Event χ κ)}
    (hrun : exec Lifetime.step {} es = some s) (hended : s.thread = .ended false) :
    CompletedOnce s.state ↔ Each Lifetime.step Lifetime.NothingInFlightAtStop {} es := by
  have hinit : ({} : Lifetime χ κ).Sound := ⟨consistent_init, False.elim⟩
  have hsound : s.Sound := exec_invariant (fun _ _ _ hs h => hs.step h) hinit hrun
  have hleft : s.LeftLoop := by
    rw [Lifetime.LeftLoop, hended]
    trivial
  have hlast : Always Lifetime.step Lifetime.LeftIdle {} es ↔ s.LeftIdle := by
    refine always_iff_last (fun _ _ _ hs h => hs.step h) ?_ hinit hrun
    intro s e t hs hbusy h hidle
    refine hbusy fun hleft => ?_
    obtain ⟨hleft', hattached⟩ := hs.attached_of_leftLoop hleft h
    exact hattached.symm.trans (hidle hleft')
  rw [← always_iff_each (fun _ _ _ hs _ h _ => hs.step h) (fun _ _ _ hs hidle h =>
    hs.leftIdle_iff hidle h) hinit False.elim hrun, hlast, hsound.consistent.completedOnce_iff]
  exact ⟨fun hnone _ => hnone, fun hidle => hidle hleft⟩

theorem completed_once_iff_nothing_in_flight_at_stop_flushed :
    ∃ s : Lifetime Nat Nat, s.state.ran = [(0, 20)] ∧ CompletedOnce s.state := by
  let es : List (Lifetime.Event Nat Nat) :=
    [.queue (.submit 7 [10] 20), .checkStop, .getInFlightFences, .queue (.signal 0), .waitForFences,
      .queue .flushBegin, .queue .flushNext, .queue .flushEnd, .requestStop, .checkStop,
      .getInFlightFences, .waitForFences]
  obtain ⟨s, hrun, hended, hran⟩ : ∃ s, exec Lifetime.step {} es = some s ∧
      s.thread = .ended false ∧ s.state.ran = [(0, 20)] := ⟨_, rfl, rfl, rfl⟩
  exact ⟨s, hran, (completed_once_iff_nothing_in_flight_at_stop hrun hended).mpr (by decide)⟩

/-- The stop is requested while a submission is in flight. The thread waits for it and ends. -/
theorem completion_lost_at_shutdown :
    ¬ ∀ s : Lifetime Nat Nat, Reachable Lifetime.step {} s → s.thread = .ended false →
      CompletedOnce s.state := by
  intro hall
  let es : List (Lifetime.Event Nat Nat) :=
    [.queue (.submit 7 [10] 20), .requestStop, .checkStop, .getInFlightFences, .queue (.signal 0),
      .waitForFences]
  obtain ⟨s, hrun, hended, hran, call, hcall⟩ : ∃ s, exec Lifetime.step {} es = some s ∧
      s.thread = .ended false ∧ s.state.ran = [] ∧ ∃ call, s.state.submits[0]? = some call :=
    ⟨_, rfl, rfl, rfl, _, rfl⟩
  have hcompleted := hall s ⟨es, hrun⟩ hended 0 call hcall
  rw [hran] at hcompleted
  exact absurd hcompleted (by simp)

end Teide.Queue
