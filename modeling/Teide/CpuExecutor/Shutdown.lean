import Mathlib.Tactic.Common
import Teide.CpuExecutor.Wait

/-!
# Destroying the executor

The destructor joins the scheduler thread before it waits for the tasks, so a task that is still
scheduled when the thread sees the stop flag stays so, and the destructor waits for it for ever.
-/

namespace Teide.CpuExecutor

open Runs ListSet

variable {s t u : State} {a : Action}

/-- When the scheduler thread sees the stop flag, all tasks launched with a dependency have been found
ready, and none is launched after that. -/
def Drained (s : State) : Action → Prop
  | .checkStop => s.schedulerStop = true → ∀ n < s.tasks.length, (s.dependency n).isSome = true →
      n ∈ s.found.map Prod.fst
  | .launchTaskAfter _ => s.thread ≠ .exited
  | _ => True

instance (s : State) : ∀ a, Decidable (Drained s a)
  | .checkStop => inferInstanceAs (Decidable (s.schedulerStop = true → ∀ n < s.tasks.length,
      (s.dependency n).isSome = true → n ∈ s.found.map Prod.fst))
  | .launchTaskAfter _ => inferInstanceAs (Decidable (s.thread ≠ .exited))
  | .launchTask | .complete _ _ | .start _ | .resolve _ _ | .finish _ | .lockScheduler | .poll |
    .eraseDone | .waitForTasks | .wait _ | .destroy | .join => .isTrue trivial

/-- The scheduler thread leaves no task behind. -/
def NothingLeft (s : State) : Prop := s.thread = .exited → s.scheduledTasks = []

/-! ### What the scheduler thread leaves behind -/

/-- Outside of a round, the scheduled tasks are those that have not been found ready. -/
theorem Consistent.scheduledTasks_eq_nil_iff (hs : Consistent s) (hlocked : s.locked = false)
    (hthread : s.thread ≠ .terminated) : s.scheduledTasks = [] ↔
      ∀ n < s.tasks.length, (s.dependency n).isSome = true → n ∈ s.found.map Prod.fst := by
  constructor
  · intro hempty n _ hdependency
    by_contra hfound
    have hmem := (hs.scheduled n).mpr ⟨hdependency, hfound⟩
    rw [hempty] at hmem
    exact absurd hmem (by simp)
  · intro hall
    refine List.eq_nil_iff_forall_not_mem.mpr fun entry hentry => ?_
    cases entry with
    | none => exact hs.entries_idle hlocked hthread hentry
    | some n =>
      obtain ⟨hdependency, hfound⟩ := (hs.scheduled n).mp hentry
      exact hfound (hall n (lt_of_dependency hdependency) hdependency)

theorem Consistent.nothingLeft_step_iff (hs : Consistent s) (hleft : NothingLeft s)
    (h : s.step a = some t) : NothingLeft t ↔ Drained s a := by
  obtain ⟨hthread, hmove⟩ := move_of_eq_some h
  cases hmove with
  | launchTaskAfter =>
    constructor
    · intro hleft' hexited
      exact absurd (hleft' hexited) (by simp)
    · intro hrunning hexited
      exact absurd hexited hrunning
  | checkStop hloop =>
    have hlocked : s.locked = false := by rw [State.locked, hloop]
    unfold NothingLeft Drained
    rw [← hs.scheduledTasks_eq_nil_iff hlocked hthread]
    cases s.schedulerStop <;> simp
  | lockScheduler | eraseDone => exact iff_of_true (fun h => absurd h (by simp [State.eraseDone])) trivial
  | @poll position n hpolling =>
    refine iff_of_true (fun hexited => absurd hexited ?_) trivial
    cases (s.dependency n).bind s.get with
    | none => simp [State.poll]
    | some r => cases r <;> simp [State.poll]
  | launchTask | complete | start | resolve | finish | waitForTasks | wait | destroy | join =>
    exact iff_of_true hleft trivial

/-- Once the thread has exited, no task is taken out of the scheduled ones. -/
theorem exited_step (h : s.step a = some t) (hexited : s.thread = .exited) :
    t.thread = .exited ∧ (s.scheduledTasks ≠ [] → t.scheduledTasks ≠ []) := by
  obtain ⟨-, hmove⟩ := move_of_eq_some h
  cases hmove with
  | launchTaskAfter => exact ⟨hexited, fun _ => by simp⟩
  | checkStop hthread | lockScheduler hthread | poll hthread | eraseDone hthread =>
    rw [hexited] at hthread
    exact absurd hthread (by simp)
  | launchTask | complete | start | resolve | finish | waitForTasks | wait | destroy | join =>
    exact ⟨hexited, id⟩

/-- The destructor joins the thread when that has exited. -/
theorem exited_of_joined_step (hs : s.joined ≠ none → s.thread = .exited) (h : s.step a = some t)
    (hjoined : t.joined ≠ none) : t.thread = .exited := by
  by_cases hbefore : s.joined = none
  · obtain ⟨-, hmove⟩ := move_of_eq_some h
    cases hmove with
    | join hthread => exact hthread
    | @poll position n =>
      refine absurd ?_ hjoined
      cases (s.dependency n).bind s.get with
      | none => exact hbefore
      | some r => cases r <;> exact hbefore
    | _ => exact absurd hbefore hjoined
  · exact (exited_step h (hs hbefore)).1

/-! ### What the destructor waits for -/

/-- A call of `WaitForTasks` is behind its loop. -/
def WaitPhase.LeftLoop (phase : WaitPhase) : Prop := phase = .lastWait ∨ phase = .returned

/-- The destructor's call is in its loop, with a task left that nothing removes. -/
structure Stuck (k : Nat) (s : State) : Prop where
  exited : s.thread = .exited
  left : s.scheduledTasks ≠ []
  waiting : ∃ waiter, s.waiters[k]? = some waiter ∧ ¬ waiter.phase.LeftLoop

theorem Stuck.step {k : Nat} (hs : Stuck k s) (h : s.step a = some t) : Stuck k t := by
  obtain ⟨hexited, hleft⟩ := exited_step h hs.exited
  obtain ⟨waiter, hk, hloop⟩ := hs.waiting
  refine ⟨hexited, hleft hs.left, ?_⟩
  obtain ⟨-, hmove⟩ := move_of_eq_some h
  have happend : ∀ call, (s.waiters ++ [call])[k]? = some waiter := fun call => by
    rw [List.getElem?_append_left (List.getElem?_eq_some_iff.mp hk).1, hk]
  cases hmove with
  | waitForTasks | join => exact ⟨waiter, happend _, hloop⟩
  | @wait j other phase hj hphase =>
    by_cases hjk : j = k
    · subst hjk
      obtain rfl := Option.some.inj (hk.symm.trans hj)
      refine ⟨{ waiter with phase := phase },
        List.getElem?_set_self (List.getElem?_eq_some_iff.mp hk).1, ?_⟩
      rintro (rfl | rfl)
      · exact hs.left (nextPhase_lastWait hphase).2.2
      · exact hloop (.inl (nextPhase_returned hphase).1)
    · exact ⟨waiter, by rw [List.getElem?_set_ne hjk, hk], hloop⟩
  | poll hthread =>
    rw [hs.exited] at hthread
    exact absurd hthread (by simp)
  | _ => exact ⟨waiter, hk, hloop⟩

/-! ### A run to the end -/

theorem step_advance {k n : Nat} {phase phase' : Phase} (hk : s.asyncs[k]? = some ⟨n, phase⟩) :
    s.advance k phase phase' = some { s with asyncs := s.asyncs.set k ⟨n, phase'⟩ } := by
  simp [State.advance, hk]

/-- What stays while workers finish their asyncs. -/
structure SameWaiting (s t : State) : Prop where
  thread : t.thread = s.thread
  scheduledTasks : t.scheduledTasks = s.scheduledTasks
  waiters : t.waiters = s.waiters

theorem SameWaiting.trans (hu : SameWaiting s u) (ht : SameWaiting u t) : SameWaiting s t :=
  ⟨ht.thread.trans hu.thread, ht.scheduledTasks.trans hu.scheduledTasks,
    ht.waiters.trans hu.waiters⟩

/-- Some run brings the async `k` of the task `n` to its end, and does nothing else. -/
def CanFinish (s : State) (k n : Nat) : Prop :=
  ∃ as t, exec State.step s as = some t ∧ SameWaiting s t ∧
    t.asyncs = s.asyncs.set k ⟨n, .finished⟩

theorem CanFinish.of_step {k n : Nat} {phase : Phase} (h : s.step a = some u)
    (hwaiting : SameWaiting s u) (hasyncs : u.asyncs = s.asyncs.set k ⟨n, phase⟩)
    (hu : CanFinish u k n) : CanFinish s k n := by
  obtain ⟨as, t, hrun, ht, hfinished⟩ := hu
  refine ⟨a :: as, t, exec_cons_eq_some.mpr ⟨u, h, hrun⟩, hwaiting.trans ht, ?_⟩
  rw [hfinished, hasyncs, List.set_set]

theorem canFinish_returned (hthread : s.thread ≠ .terminated) {k n : Nat}
    (hk : s.asyncs[k]? = some ⟨n, .returned⟩) : CanFinish s k n := by
  have hstep : s.step (.finish k) = some { s with asyncs := s.asyncs.set k ⟨n, .finished⟩ } := by
    rw [State.step, if_neg hthread, State.act, step_advance hk]
  exact ⟨[.finish k], _, exec_cons_eq_some.mpr ⟨_, hstep, rfl⟩, ⟨rfl, rfl, rfl⟩, rfl⟩

theorem canFinish_running (hthread : s.thread ≠ .terminated) {k n : Nat}
    (hk : s.asyncs[k]? = some ⟨n, .running⟩) : CanFinish s k n := by
  have hget : (s.asyncs.set k ⟨n, .returned⟩)[k]? = some ⟨n, .returned⟩ :=
    List.getElem?_set_self (List.getElem?_eq_some_iff.mp hk).1
  have hstep : s.step (.resolve k .value) = some { s with
      asyncs := s.asyncs.set k ⟨n, .returned⟩
      tasks := s.tasks.modify n ({ · with result := some .value }) } := by
    rw [State.step, if_neg hthread, State.act, step_advance hk, Option.map_some, State.setResult]
    dsimp only
    rw [hget]
  refine .of_step hstep ⟨rfl, rfl, rfl⟩ rfl ?_
  apply canFinish_returned
  · exact hthread
  · exact hget

theorem canFinish_queued (hthread : s.thread ≠ .terminated) {k n : Nat}
    (hk : s.asyncs[k]? = some ⟨n, .queued⟩) : CanFinish s k n := by
  have hget : (s.asyncs.set k ⟨n, .running⟩)[k]? = some ⟨n, .running⟩ :=
    List.getElem?_set_self (List.getElem?_eq_some_iff.mp hk).1
  have hstep : s.step (.start k) = some { s with asyncs := s.asyncs.set k ⟨n, .running⟩ } := by
    rw [State.step, if_neg hthread, State.act, step_advance hk]
  refine .of_step hstep ⟨rfl, rfl, rfl⟩ rfl ?_
  apply canFinish_running
  · exact hthread
  · exact hget

/-- The workers can finish all asyncs, one after another. -/
theorem exists_run_finished (hthread : s.thread ≠ .terminated) : ∃ as t,
    exec State.step s as = some t ∧ SameWaiting s t ∧ t.allFinished = true := by
  generalize hcount : s.asyncs.countP (fun async => !decide (async.phase = .finished)) = count
  induction count generalizing s with
  | zero =>
    refine ⟨[], s, rfl, ⟨rfl, rfl, rfl⟩, List.all_eq_true.mpr fun async hasync => ?_⟩
    simpa using List.countP_eq_zero.mp hcount async hasync
  | succ count ih =>
    obtain ⟨⟨n, phase⟩, hmem, hphase⟩ : ∃ async ∈ s.asyncs,
        (!decide (async.phase = .finished)) = true :=
      List.countP_pos_iff.mp (by omega)
    obtain ⟨k, hk⟩ := List.mem_iff_getElem?.mp hmem
    obtain ⟨as, u, hrun, hu, hasyncs⟩ : CanFinish s k n := by
      cases phase with
      | queued => exact canFinish_queued hthread hk
      | running => exact canFinish_running hthread hk
      | returned => exact canFinish_returned hthread hk
      | finished => exact absurd hphase (by simp)
    have hset := countP_set_add (P := fun async => !decide (async.phase = .finished))
      (a := ⟨n, .finished⟩) hk
    rw [← hasyncs, if_pos hphase, if_neg (by simp)] at hset
    obtain ⟨bs, t, hrun', ht, hfinished⟩ := ih (s := u) (hu.thread ▸ hthread) (by omega)
    refine ⟨as ++ bs, t, ?_, hu.trans ht, hfinished⟩
    rw [exec_append, hrun, Option.bind_some, hrun']

/-- All work is done, and the scheduler thread is gone. -/
structure Quiet (s : State) : Prop where
  exited : s.thread = .exited
  empty : s.scheduledTasks = []
  finished : s.allFinished = true

/-- Some run lets the call `k` of `WaitForTasks` return. -/
def CanReturn (s : State) (k : Nat) : Prop :=
  ∃ as t waiter, exec State.step s as = some t ∧ t.waiters[k]? = some waiter ∧
    waiter.phase = .returned

theorem CanReturn.of_run {as : List Action} {k : Nat} (hu : CanReturn u k)
    (h : exec State.step s as = some u) : CanReturn s k := by
  obtain ⟨bs, t, waiter, hrun, hk, hreturned⟩ := hu
  exact ⟨as ++ bs, t, waiter, by rw [exec_append, h, Option.bind_some, hrun], hk, hreturned⟩

section

variable {k n : Nat}

theorem CanReturn.of_wait (hexited : s.thread = .exited) {phase phase' : WaitPhase}
    (hk : s.waiters[k]? = some ⟨n, phase⟩) (hphase : s.nextPhase phase = some phase')
    (h : CanReturn { s with waiters := s.waiters.set k ⟨n, phase'⟩ } k) : CanReturn s k := by
  have hstep : s.step (.wait k) = some { s with waiters := s.waiters.set k ⟨n, phase'⟩ } := by
    rw [State.step, if_neg (by simp [hexited]), State.act, hk, Option.bind_some, hphase]
    rfl
  have hrun : exec State.step s [.wait k] = some _ := exec_cons_eq_some.mpr ⟨_, hstep, rfl⟩
  exact h.of_run hrun

theorem Quiet.setWaiters (hs : Quiet s) {waiters : List Waiter} :
    Quiet { s with waiters := waiters } := ⟨hs.exited, hs.empty, hs.finished⟩

theorem getElem?_set_waiter {phase phase' : WaitPhase} (hk : s.waiters[k]? = some ⟨n, phase⟩) :
    (s.waiters.set k ⟨n, phase'⟩)[k]? = some ⟨n, phase'⟩ :=
  List.getElem?_set_self (List.getElem?_eq_some_iff.mp hk).1

theorem Quiet.canReturn_lastWait (hs : Quiet s) (hk : s.waiters[k]? = some ⟨n, .lastWait⟩) :
    CanReturn s k := by
  refine .of_wait hs.exited hk (show s.nextPhase .lastWait = some .returned from ?_) ?_
  · rw [State.nextPhase, if_pos hs.finished]
  · exact ⟨[], _, _, rfl, getElem?_set_waiter hk, rfl⟩

theorem Quiet.canReturn_check (hs : Quiet s) (hk : s.waiters[k]? = some ⟨n, .hasScheduledTasks⟩) :
    CanReturn s k := by
  refine .of_wait hs.exited hk (show s.nextPhase .hasScheduledTasks = some .lastWait from ?_) ?_
  · rw [State.nextPhase, State.locked, hs.exited, if_neg (by simp), hs.empty]
    rfl
  · apply hs.setWaiters.canReturn_lastWait
    exact getElem?_set_waiter hk

/-- A call of `WaitForTasks` can go on to its end. -/
theorem Quiet.canReturn (hs : Quiet s) {waiter : Waiter} (hk : s.waiters[k]? = some waiter) :
    CanReturn s k := by
  obtain ⟨n, phase⟩ := waiter
  cases phase with
  | firstWait | loopWait =>
    refine .of_wait hs.exited hk (show s.nextPhase _ = some .hasScheduledTasks from ?_) ?_
    · rw [State.nextPhase, if_pos hs.finished]
    · apply hs.setWaiters.canReturn_check
      exact getElem?_set_waiter hk
  | hasScheduledTasks => exact hs.canReturn_check hk
  | lastWait => exact hs.canReturn_lastWait hk
  | returned => exact ⟨[], s, _, rfl, hk, rfl⟩

end

/-! ### The destructor -/

/-- **The destructor ends exactly when nothing is left to it.** Take a run up to a state in which the
destructor has joined the scheduler thread. No task is left in `m_scheduledTasks` exactly when the
thread, as it saw the stop flag, had found all tasks launched with a dependency ready, and none has
been launched after that. As long as the destructor's call of `WaitForTasks` is not behind its loop, it
can go on to its end if no task is left, and otherwise no run ends it. -/
theorem destructor_ends_iff_drained {as : List Action} {k : Nat}
    (hrun : exec State.step {} as = some s) (hjoined : s.joined = some k) :
    (s.scheduledTasks = [] ↔ Each State.step Drained {} as) ∧
      ∀ waiter, s.waiters[k]? = some waiter → ¬ waiter.phase.LeftLoop →
        (CanReturn s k ↔ s.scheduledTasks = []) := by
  have hexited : s.thread = .exited :=
    exec_invariant (I := fun s => s.joined ≠ none → s.thread = .exited)
      (fun _ _ _ hs h => exited_of_joined_step hs h) (fun h => absurd rfl h) hrun (by simp [hjoined])
  constructor
  · have hlast := always_iff_last (P := NothingLeft) (fun _ _ _ hs h => Consistent.step hs h) ?_
      consistent_init hrun
    have heach := always_iff_each (P := NothingLeft) (fun _ _ _ hs _ h _ => Consistent.step hs h)
      (fun _ _ _ hs hleft h => hs.nothingLeft_step_iff hleft h) consistent_init
      (fun _ => rfl) hrun
    · rw [← heach, hlast]
      exact ⟨fun hempty _ => hempty, fun hleft => hleft hexited⟩
    · intro s a t _ hbad h hleft
      obtain ⟨hexited, hempty⟩ := Classical.not_imp.mp hbad
      obtain ⟨hexited', hempty'⟩ := exited_step h hexited
      exact hempty' hempty (hleft hexited')
  · intro waiter hk hloop
    constructor
    · rintro ⟨bs, t, waiter', hrun', hk', hreturned⟩
      by_contra hempty
      have hstuck : Stuck k t := exec_invariant (fun _ _ _ hs h => hs.step h)
        ⟨hexited, hempty, waiter, hk, hloop⟩ hrun'
      obtain ⟨other, hother, hloop'⟩ := hstuck.waiting
      obtain rfl := Option.some.inj (hother.symm.trans hk')
      exact hloop' (.inr hreturned)
    · intro hempty
      obtain ⟨bs, t, hrun', ht, hfinished⟩ := exists_run_finished (s := s) (by simp [hexited])
      have hquiet : Quiet t := ⟨ht.thread.trans hexited, ht.scheduledTasks.trans hempty, hfinished⟩
      exact (hquiet.canReturn (ht.waiters ▸ hk)).of_run hrun'

/-- The stop flag is set after the round that hands the task over. -/
theorem destructor_ends_iff_drained_handedOver :
    ∃ s : State, s.joined = some 0 ∧ s.asyncs = [⟨0, .queued⟩] ∧ CanReturn s 0 := by
  let as : List Action :=
    [.launchTaskAfter (.other 0), .complete 0 .value, .checkStop, .lockScheduler, .poll, .eraseDone,
      .destroy, .checkStop, .join]
  obtain ⟨s, hrun, hjoined, hk, hasyncs⟩ : ∃ s, exec State.step {} as = some s ∧ s.joined = some 0 ∧
      s.waiters[0]? = some ⟨1, .firstWait⟩ ∧ s.asyncs = [⟨0, .queued⟩] := ⟨_, rfl, rfl, rfl, rfl⟩
  have hends := destructor_ends_iff_drained hrun hjoined
  have hloop : ¬ WaitPhase.firstWait.LeftLoop := by rintro (h | h) <;> simp at h
  exact ⟨s, hjoined, hasyncs, (hends.2 _ hk hloop).mpr (hends.1.mpr (by decide))⟩

/-- The dependency becomes ready after the scheduler thread has seen the stop flag. -/
theorem task_left_at_shutdown :
    ¬ ∀ (as : List Action) (s : State), exec State.step {} as = some s → s.joined ≠ none →
      s.scheduledTasks = [] := by
  intro hall
  let as : List Action :=
    [.launchTaskAfter (.other 0), .destroy, .checkStop, .complete 0 .value, .join]
  obtain ⟨s, hrun, hjoined, hscheduled⟩ : ∃ s, exec State.step {} as = some s ∧
      s.joined = some 0 ∧ s.scheduledTasks = [some 0] := ⟨_, rfl, rfl, rfl⟩
  have hempty := hall as s hrun (by simp [hjoined])
  rw [hscheduled] at hempty
  exact absurd hempty (by simp)

end Teide.CpuExecutor
