import Mathlib.Tactic.Common
import Teide.CpuExecutor.Invariant

/-!
# Dependencies that fail

`Execute` calls `get` in the scheduler thread. When the dependency holds an exception it throws there,
behind the exchange that has taken the task out, and nothing catches it.
-/

namespace Teide.CpuExecutor

open Runs

variable {s t : State} {a : Action}

/-- What the next poll finds in the future of the dependency, if it finds it ready. -/
def State.polled (s : State) : Option Result :=
  match s.thread with
  | .polling position =>
    s.scheduledTasks[position]?.join.bind fun n => (s.dependency n).bind s.get
  | _ => none

/-- A poll does not find an exception. -/
def NoExceptionPolled (s : State) : Action → Prop
  | .poll => s.polled ≠ some .exception
  | _ => True

instance (s : State) : ∀ a, Decidable (NoExceptionPolled s a)
  | .poll => inferInstanceAs (Decidable (s.polled ≠ some .exception))
  | .launchTask | .launchTaskAfter _ | .complete _ _ | .start _ | .resolve _ _ | .finish _ |
    .checkStop | .lockScheduler | .eraseDone | .waitForTasks | .wait _ | .destroy | .join =>
      .isTrue trivial

/-- The scheduler thread has come through all of its polls. The tasks found with a value have been
launched, and those found with an exception have been removed and hold one themselves. -/
structure FailuresContained (s : State) : Prop where
  running : s.thread ≠ .terminated
  launched : ∀ n, (n, .value) ∈ s.found → n ∈ s.asyncs.map (·.task)
  failed : ∀ n, (n, .exception) ∈ s.found →
    some n ∉ s.scheduledTasks ∧ s.get (.task n) = some .exception

/-- Only a poll that finds an exception terminates the program. -/
theorem terminated_iff (h : s.step a = some t) :
    t.thread ≠ .terminated ↔ NoExceptionPolled s a := by
  obtain ⟨hthread, hmove⟩ := move_of_eq_some h
  cases hmove with
  | @poll position n hpolling hn =>
    have hpolled : s.polled = (s.dependency n).bind s.get := by
      rw [State.polled, hpolling]
      dsimp only
      rw [hn, Option.join_some, Option.bind_some]
    rw [NoExceptionPolled, hpolled]
    cases (s.dependency n).bind s.get with
    | none => simp [State.poll]
    | some r => cases r <;> simp [State.poll]
  | checkStop =>
    refine iff_of_true ?_ trivial
    split_ifs <;> simp
  | lockScheduler | eraseDone => exact iff_of_true (by simp [State.eraseDone]) trivial
  | _ => exact iff_of_true hthread trivial

/-- Nothing is ever done about a dependency that has failed but to terminate the program. -/
theorem Consistent.failuresContained_iff (hs : Consistent s) :
    FailuresContained s ↔ s.thread ≠ .terminated := by
  refine ⟨fun h => h.running, fun h => ⟨h, hs.handed, fun n hn => ?_⟩⟩
  have hmem : n ∈ s.failed := List.mem_map.mpr ⟨(n, .exception), by simpa using hn, rfl⟩
  rw [hs.failed_eq h] at hmem
  exact absurd hmem (by simp)

/-- A round can go on to its end. -/
theorem Consistent.round_enabled (hs : Consistent s) {position : Nat}
    (hthread : s.thread = .polling position) :
    (s.step (if position < s.scheduledTasks.length then .poll else .eraseDone)).isSome := by
  obtain ⟨hle, hfilled⟩ := hs.entries_polling hthread
  split_ifs with hlt
  · cases hn : s.scheduledTasks[position]? with
    | none => exact absurd (List.getElem?_eq_none_iff.mp hn) (Nat.not_le_of_lt hlt)
    | some entry =>
      cases entry with
      | none => exact absurd hn (hfilled position (Nat.le_refl _))
      | some n => simp [State.step, State.act, hthread, hn]
  · have hend : position = s.scheduledTasks.length := by omega
    simp [State.step, State.act, hthread, hend]

/-- **Failed dependencies.** Along any run, the scheduler thread comes through all of its rounds,
launches the tasks whose dependencies hold values and fails those whose dependencies hold exceptions,
exactly when no poll ever finds an exception. A round that has begun can always go on. -/
theorem failures_contained_iff {as : List Action} (hrun : exec State.step {} as = some s) :
    (Always State.step FailuresContained {} as ↔ Each State.step NoExceptionPolled {} as) ∧
      ∀ position, s.thread = .polling position →
        (s.step (if position < s.scheduledTasks.length then .poll else .eraseDone)).isSome := by
  have hs : Consistent s := exec_invariant (fun _ _ _ hs h => hs.step h) consistent_init hrun
  refine ⟨?_, fun position hthread => hs.round_enabled hthread⟩
  refine always_iff_each (I := Consistent) (fun _ _ _ hs _ h _ => hs.step h) ?_ consistent_init ?_
    hrun
  · intro s a t hs _ h
    rw [(hs.step h).failuresContained_iff, terminated_iff h]
  · rw [consistent_init.failuresContained_iff]
    simp

/-- The dependency holds a value when it is polled. -/
theorem failures_contained_iff_chain :
    ∃ s : State, s.asyncs = [⟨0, .finished⟩, ⟨1, .queued⟩] ∧ FailuresContained s := by
  let as : List Action :=
    [.launchTask, .launchTaskAfter (.task 0), .start 0, .resolve 0 .value, .finish 0, .checkStop,
      .lockScheduler, .poll, .eraseDone]
  obtain ⟨s, hrun, hasyncs⟩ : ∃ s, exec State.step {} as = some s ∧
      s.asyncs = [⟨0, .finished⟩, ⟨1, .queued⟩] := ⟨_, rfl, rfl⟩
  have halways := (failures_contained_iff hrun).1.mpr (by decide)
  exact ⟨s, hasyncs, halways.last hrun⟩

/-- The first dependency holds an exception and the second one a value. The round over them ends with
the first. -/
theorem failed_dependency_terminates :
    ¬ ∀ (as : List Action) (s : State), exec State.step {} as = some s →
      Always State.step FailuresContained {} as := by
  intro hall
  let as : List Action :=
    [.launchTaskAfter (.other 0), .launchTaskAfter (.other 1), .complete 0 .exception,
      .complete 1 .value, .checkStop, .lockScheduler, .poll]
  obtain ⟨s, hrun, hterminated⟩ : ∃ s, exec State.step {} as = some s ∧ s.thread = .terminated :=
    ⟨_, rfl, rfl⟩
  exact ((hall as s hrun).last hrun).running hterminated

end Teide.CpuExecutor
