import Mathlib.Tactic.Common
import Teide.CpuExecutor.Invariant

/-!
# Waiting for the tasks

A call of `WaitForTasks` that finds no scheduled task left knows that every task launched before it has
been handed to taskflow, and then waits until all of these have finished.
-/

namespace Teide.CpuExecutor

open Runs ListSet

variable {s t : State} {a : Action}

def State.Finished (s : State) (n : Nat) : Prop :=
  ∃ async ∈ s.asyncs, async.task = n ∧ async.phase = .finished

/-- A start is the task's first, and finds the future of its dependency ready. -/
def StartsReady (s : State) : Action → Prop
  | .start k => ∀ async, s.asyncs[k]? = some async →
      (∀ other ∈ s.asyncs, other.task = async.task → other.phase = .queued) ∧
        ∀ dependency, s.dependency async.task = some dependency → s.get dependency ≠ none
  | _ => True

structure WaitersSound (s : State) : Prop where
  launched_le : ∀ waiter ∈ s.waiters, waiter.launched ≤ s.tasks.length
  lastWait : ∀ waiter ∈ s.waiters, waiter.phase = .lastWait →
    ∀ n < waiter.launched, n ∈ s.asyncs.map (·.task)
  returned : ∀ waiter ∈ s.waiters, waiter.phase = .returned → ∀ n < waiter.launched, s.Finished n

theorem waitersSound_init : WaitersSound {} := by
  constructor <;> simp

/-- Tasks are only added, handed over and finished. -/
theorem WaitersSound.mono (hw : WaitersSound s) (hwaiters : t.waiters = s.waiters)
    (hlength : s.tasks.length ≤ t.tasks.length)
    (hasyncs : ∀ n ∈ s.asyncs.map (·.task), n ∈ t.asyncs.map (·.task))
    (hfinished : ∀ n, s.Finished n → t.Finished n) : WaitersSound t where
  launched_le waiter h := Nat.le_trans (hw.launched_le waiter (hwaiters ▸ h)) hlength
  lastWait waiter h hphase n hn := hasyncs n (hw.lastWait waiter (hwaiters ▸ h) hphase n hn)
  returned waiter h hphase n hn := hfinished n (hw.returned waiter (hwaiters ▸ h) hphase n hn)

/-- A new call has waited for nothing yet. -/
theorem WaitersSound.call (hw : WaitersSound s) {joined : Option Nat} : WaitersSound { s with
    waiters := s.waiters ++ [{ launched := s.tasks.length }]
    joined := joined } where
  launched_le waiter h := by
    rcases List.mem_append.mp h with h | h
    · exact hw.launched_le waiter h
    · obtain rfl := List.mem_singleton.mp h
      exact Nat.le_refl _
  lastWait waiter h hphase := by
    rcases List.mem_append.mp h with h | h
    · exact hw.lastWait waiter h hphase
    · obtain rfl := List.mem_singleton.mp h
      exact absurd hphase (by simp)
  returned waiter h hphase := by
    rcases List.mem_append.mp h with h | h
    · exact hw.returned waiter h hphase
    · obtain rfl := List.mem_singleton.mp h
      exact absurd hphase (by simp)

theorem finished_set {k n m : Nat} {phase phase' : Phase} (hk : s.asyncs[k]? = some ⟨n, phase⟩)
    (hphase : phase ≠ .finished) (h : s.Finished m) :
    State.Finished { s with asyncs := s.asyncs.set k ⟨n, phase'⟩ } m := by
  obtain ⟨async, hasync, htask, hfinished⟩ := h
  obtain ⟨j, hj⟩ := List.mem_iff_getElem?.mp hasync
  refine ⟨async, List.mem_of_getElem? (i := j) ?_, htask, hfinished⟩
  rw [List.getElem?_set_ne, hj]
  rintro rfl
  obtain rfl := Option.some.inj (hj.symm.trans hk)
  exact hphase hfinished

theorem WaitersSound.advance (hw : WaitersSound s) {k n : Nat} {phase phase' : Phase}
    (hk : s.asyncs[k]? = some ⟨n, phase⟩) (hphase : phase ≠ .finished) :
    WaitersSound { s with asyncs := s.asyncs.set k ⟨n, phase'⟩ } :=
  hw.mono rfl (Nat.le_refl _) (fun m hm => by rw [map_task_set hk]; exact hm)
    fun m => finished_set hk hphase

theorem nextPhase_lastWait {phase : WaitPhase} (h : s.nextPhase phase = some .lastWait) :
    phase = .hasScheduledTasks ∧ s.locked = false ∧ s.scheduledTasks = [] := by
  cases phase with
  | hasScheduledTasks =>
    simp only [State.nextPhase] at h
    split_ifs at h with hlocked hempty
    · exact ⟨rfl, by simpa using hlocked, List.isEmpty_iff.mp hempty⟩
    · simp at h
  | firstWait | loopWait | lastWait =>
    simp only [State.nextPhase] at h
    split_ifs at h
    simp at h
  | returned => exact absurd h (by simp [State.nextPhase])

theorem nextPhase_returned {phase : WaitPhase} (h : s.nextPhase phase = some .returned) :
    phase = .lastWait ∧ s.allFinished = true := by
  cases phase with
  | lastWait =>
    simp only [State.nextPhase] at h
    split_ifs at h with hfinished
    exact ⟨rfl, hfinished⟩
  | hasScheduledTasks =>
    simp only [State.nextPhase] at h
    split_ifs at h <;> simp at h
  | firstWait | loopWait =>
    simp only [State.nextPhase] at h
    split_ifs at h
    simp at h
  | returned => exact absurd h (by simp [State.nextPhase])

/-- With no task scheduled, each one has an async. -/
theorem Consistent.mem_asyncs (hs : Consistent s) (hthread : s.thread ≠ .terminated)
    (hempty : s.scheduledTasks = []) {n : Nat} (hn : n < s.tasks.length) :
    n ∈ s.asyncs.map (·.task) := by
  have hmem := hs.placed.mem_iff.mpr (List.mem_range.mpr hn)
  rw [hs.failed_eq hthread, hempty, List.append_nil] at hmem
  exact hmem

/-- Behind its loop a call waits for all tasks it has to wait for, and returns once they have
finished. -/
theorem WaitersSound.wait (hs : Consistent s) (hw : WaitersSound s) {k : Nat} {waiter : Waiter}
    {phase : WaitPhase} (hthread : s.thread ≠ .terminated) (hk : s.waiters[k]? = some waiter)
    (hphase : s.nextPhase waiter.phase = some phase) :
    WaitersSound { s with waiters := s.waiters.set k { waiter with phase := phase } } := by
  have hmem := List.mem_of_getElem? hk
  have hset : ∀ other ∈ s.waiters.set k { waiter with phase := phase },
      other ∈ s.waiters ∨ other = { waiter with phase := phase } :=
    fun _ => List.mem_or_eq_of_mem_set
  constructor
  · intro other hother
    rcases hset other hother with h | rfl
    · exact hw.launched_le other h
    · exact hw.launched_le waiter hmem
  · intro other hother hlast n hn
    rcases hset other hother with h | rfl
    · exact hw.lastWait other h hlast n hn
    · obtain rfl : phase = .lastWait := hlast
      obtain ⟨-, -, hempty⟩ := nextPhase_lastWait hphase
      exact hs.mem_asyncs hthread hempty (Nat.lt_of_lt_of_le hn (hw.launched_le waiter hmem))
  · intro other hother hreturned n hn
    rcases hset other hother with h | rfl
    · exact hw.returned other h hreturned n hn
    · obtain rfl : phase = .returned := hreturned
      obtain ⟨hlast, hfinished⟩ := nextPhase_returned hphase
      obtain ⟨async, hasync, htask⟩ := List.mem_map.mp (hw.lastWait waiter hmem hlast n hn)
      have hall := List.all_eq_true.mp hfinished async hasync
      exact ⟨async, hasync, htask, by simpa using hall⟩

theorem WaitersSound.step (hs : Consistent s) (hw : WaitersSound s) (h : s.step a = some t) :
    WaitersSound t := by
  obtain ⟨hthread, hmove⟩ := move_of_eq_some h
  cases hmove with
  | launchTask =>
    refine hw.mono rfl (by simp) (fun n hn => ?_) fun n ⟨async, hasync, hn⟩ => ?_
    · rw [List.map_append]
      exact List.mem_append_left _ hn
    · exact ⟨async, List.mem_append_left _ hasync, hn⟩
  | launchTaskAfter => exact hw.mono rfl (by simp) (fun _ h => h) fun _ h => h
  | complete | checkStop | lockScheduler | eraseDone | destroy =>
    exact hw.mono rfl (Nat.le_refl _) (fun _ h => h) fun _ h => h
  | start hk => exact hw.advance hk (by simp)
  | resolve hk =>
    exact (hw.advance hk (by simp)).mono rfl (by simp) (fun _ h => h) fun _ h => h
  | finish hk => exact hw.advance hk (by simp)
  | @poll position n =>
    cases (s.dependency n).bind s.get with
    | none => exact hw.mono rfl (Nat.le_refl _) (fun _ h => h) fun _ h => h
    | some r =>
      cases r with
      | value =>
        refine hw.mono rfl (Nat.le_refl _) (fun m hm => ?_) fun m ⟨async, hasync, hm⟩ => ?_
        · rw [State.poll, State.launchTaskImpl, List.map_append]
          exact List.mem_append_left _ hm
        · exact ⟨async, List.mem_append_left _ hasync, hm⟩
      | exception => exact hw.mono rfl (Nat.le_refl _) (fun _ h => h) fun _ h => h
  | waitForTasks => exact hw.call
  | wait hk hphase => exact hw.wait hs hthread hk hphase
  | join => exact hw.call

theorem Consistent.startsReady (hs : Consistent s) (h : s.step a = some t) : StartsReady s a := by
  obtain ⟨-, hmove⟩ := move_of_eq_some h
  cases hmove with
  | @start k n hk =>
    intro async hasync
    obtain rfl : (⟨n, .queued⟩ : Async) = async := Option.some.inj (hk.symm.trans hasync)
    have hmem := List.mem_of_getElem? hk
    refine ⟨fun other hother htask => ?_, fun dependency hdependency => ?_⟩
    · rw [hs.async_unique hother hmem htask]
    · have hready := hs.ready n (List.mem_map_of_mem hmem) (by rw [hdependency]; rfl)
      have hget := hs.found _ hready
      rw [hdependency, Option.bind_some] at hget
      rw [hget]
      exact Option.some_ne_none _
  | _ => trivial

/-- **Tasks start once, after their dependencies, and `WaitForTasks` waits for all of them.** In every
run, each start of a task is its first one and finds the future of its dependency ready, and when a
call of `WaitForTasks` has returned, every task launched before it has finished. -/
theorem waitForTasks_waits {as : List Action} (hrun : exec State.step {} as = some s) :
    Each State.step StartsReady {} as ∧
      ∀ waiter ∈ s.waiters, waiter.phase = .returned → ∀ n < waiter.launched, s.Finished n := by
  constructor
  · exact each_of_invariant (I := Consistent) (C := fun _ _ => True)
      (fun s a t hs _ h => hs.step h) (fun s a t hs _ h => hs.startsReady h) consistent_init
      (each_of_forall (fun _ _ => trivial) _ _) hrun
  · have hinv : Consistent s ∧ WaitersSound s :=
      exec_invariant (I := fun s => Consistent s ∧ WaitersSound s)
        (fun s a t hs h => ⟨hs.1.step h, hs.2.step hs.1 h⟩) ⟨consistent_init, waitersSound_init⟩ hrun
    exact hinv.2.returned

/-- A task that depends on another one is polled twice. `WaitForTasks` finds it scheduled the first
time. -/
theorem waitForTasks_waits_chain :
    ∃ s : State, s.waiters = [⟨2, .returned⟩] ∧ s.Finished 0 ∧ s.Finished 1 := by
  let as : List Action :=
    [.launchTask, .launchTaskAfter (.task 0), .waitForTasks, .checkStop, .lockScheduler, .poll,
      .eraseDone, .start 0, .resolve 0 .value, .finish 0, .wait 0, .wait 0, .checkStop, .lockScheduler,
      .poll, .eraseDone, .start 1, .resolve 1 .value, .finish 1, .wait 0, .wait 0, .wait 0]
  obtain ⟨s, hrun, hwaiters⟩ : ∃ s, exec State.step {} as = some s ∧
      s.waiters = [⟨2, .returned⟩] := ⟨_, rfl, rfl⟩
  have hfinished := (waitForTasks_waits hrun).2 ⟨2, .returned⟩ (by simp [hwaiters]) rfl
  exact ⟨s, hwaiters, hfinished 0 (by simp), hfinished 1 (by simp)⟩

end Teide.CpuExecutor
