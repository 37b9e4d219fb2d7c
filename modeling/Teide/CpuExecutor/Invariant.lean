import Mathlib.Data.List.Nodup
import Mathlib.Tactic.Common
import Teide.CpuExecutor.Basic
import Teide.Lib.ListSet
import Teide.Lib.ReorderBuffer

/-!
# Where the tasks are

Every task that has been launched is in `m_scheduledTasks`, has an async, or was taken out by the poll
that terminated the program (`Consistent.placed`). A task with a dependency leaves `m_scheduledTasks`
when a poll finds it ready.
-/

namespace Teide.CpuExecutor

open Runs ListSet ReorderBuffer
open scoped List

variable {s t : State} {a : Action}

/-! ### The cases of a step -/

/-- What the actions do, and when. -/
inductive Move (s : State) : Action → State → Prop where
  | launchTask : Move s .launchTask { s with
      tasks := s.tasks ++ [{ dependency := none }]
      asyncs := s.asyncs ++ [{ task := s.tasks.length }] }
  | launchTaskAfter {dependency : Future} (hlocked : s.locked = false) (hvalid : s.Valid dependency) :
      Move s (.launchTaskAfter dependency) { s with
        tasks := s.tasks ++ [{ dependency := some dependency }]
        scheduledTasks := s.scheduledTasks ++ [some s.tasks.length] }
  | complete {other : Nat} {result : Result} (hpending : s.others other = none) :
      Move s (.complete other result)
        { s with others := Function.update s.others other (some result) }
  | start {k n : Nat} (hk : s.asyncs[k]? = some ⟨n, .queued⟩) :
      Move s (.start k) { s with asyncs := s.asyncs.set k ⟨n, .running⟩ }
  | resolve {k n : Nat} {result : Result} (hk : s.asyncs[k]? = some ⟨n, .running⟩) :
      Move s (.resolve k result) { s with
        asyncs := s.asyncs.set k ⟨n, .returned⟩
        tasks := s.tasks.modify n ({ · with result := some result }) }
  | finish {k n : Nat} (hk : s.asyncs[k]? = some ⟨n, .returned⟩) :
      Move s (.finish k) { s with asyncs := s.asyncs.set k ⟨n, .finished⟩ }
  | checkStop (hthread : s.thread = .loopHead) :
      Move s .checkStop { s with thread := if s.schedulerStop then .exited else .sleeping }
  | lockScheduler (hthread : s.thread = .sleeping) :
      Move s .lockScheduler { s with thread := .polling 0 }
  | poll {position n : Nat} (hthread : s.thread = .polling position)
      (hn : s.scheduledTasks[position]? = some (some n)) :
      Move s .poll (s.poll position n ((s.dependency n).bind s.get))
  | eraseDone (hthread : s.thread = .polling s.scheduledTasks.length) :
      Move s .eraseDone s.eraseDone
  | waitForTasks :
      Move s .waitForTasks { s with waiters := s.waiters ++ [{ launched := s.tasks.length }] }
  | wait {k : Nat} {waiter : Waiter} {phase : WaitPhase} (hk : s.waiters[k]? = some waiter)
      (hphase : s.nextPhase waiter.phase = some phase) :
      Move s (.wait k) { s with waiters := s.waiters.set k { waiter with phase := phase } }
  | destroy : Move s .destroy { s with schedulerStop := true }
  | join (hthread : s.thread = .exited) (hjoined : s.joined = none) :
      Move s .join { s with
        waiters := s.waiters ++ [{ launched := s.tasks.length }]
        joined := some s.waiters.length }

theorem advance_eq_some {k : Nat} {phase phase' : Phase} (h : s.advance k phase phase' = some t) :
    ∃ n, s.asyncs[k]? = some ⟨n, phase⟩ ∧ t = { s with asyncs := s.asyncs.set k ⟨n, phase'⟩ } := by
  obtain ⟨⟨n, found⟩, hk, hadvance⟩ := Option.bind_eq_some_iff.mp h
  obtain ⟨hfound, ht⟩ := Option.ite_none_right_eq_some.mp hadvance
  obtain rfl : found = phase := hfound
  exact ⟨n, hk, (Option.some.inj ht).symm⟩

theorem move_of_eq_some (h : s.step a = some t) : s.thread ≠ .terminated ∧ Move s a t := by
  obtain ⟨hthread, h⟩ := Option.ite_none_left_eq_some.mp h
  refine ⟨hthread, ?_⟩
  cases a with
  | launchTask => exact Option.some.inj h ▸ .launchTask
  | launchTaskAfter dependency =>
    obtain ⟨⟨hlocked, hvalid⟩, h⟩ := Option.ite_none_right_eq_some.mp h
    exact Option.some.inj h ▸ .launchTaskAfter (by simpa using hlocked) hvalid
  | complete other result =>
    obtain ⟨hpending, h⟩ := Option.ite_none_right_eq_some.mp h
    exact Option.some.inj h ▸ .complete hpending
  | start k =>
    obtain ⟨n, hk, rfl⟩ := advance_eq_some h
    exact .start hk
  | resolve k result =>
    obtain ⟨u, hu, rfl⟩ := Option.map_eq_some_iff.mp h
    obtain ⟨n, hk, rfl⟩ := advance_eq_some hu
    have hk' : (s.asyncs.set k ⟨n, .returned⟩)[k]? = some ⟨n, .returned⟩ :=
      List.getElem?_set_self (List.getElem?_eq_some_iff.mp hk).1
    simp only [State.setResult, hk']
    exact .resolve hk
  | finish k =>
    obtain ⟨n, hk, rfl⟩ := advance_eq_some h
    exact .finish hk
  | checkStop =>
    obtain ⟨hthread, h⟩ := Option.ite_none_right_eq_some.mp h
    exact Option.some.inj h ▸ .checkStop hthread
  | lockScheduler =>
    obtain ⟨hthread, h⟩ := Option.ite_none_right_eq_some.mp h
    exact Option.some.inj h ▸ .lockScheduler hthread
  | poll =>
    rw [State.act] at h
    split at h
    · rename_i position hthread
      split at h
      · rename_i n hn
        exact Option.some.inj h ▸ .poll hthread hn
      · simp at h
    · simp at h
  | eraseDone =>
    obtain ⟨hthread, h⟩ := Option.ite_none_right_eq_some.mp h
    exact Option.some.inj h ▸ .eraseDone hthread
  | waitForTasks => exact Option.some.inj h ▸ .waitForTasks
  | wait k =>
    obtain ⟨waiter, hk, h⟩ := Option.bind_eq_some_iff.mp h
    obtain ⟨phase, hphase, rfl⟩ := Option.map_eq_some_iff.mp h
    exact .wait hk hphase
  | destroy =>
    obtain ⟨-, h⟩ := Option.ite_none_left_eq_some.mp h
    exact Option.some.inj h ▸ .destroy
  | join =>
    obtain ⟨⟨hthread, hjoined⟩, h⟩ := Option.ite_none_right_eq_some.mp h
    exact Option.some.inj h ▸ .join hthread hjoined

/-! ### What a state is consistent with -/

/-- The tasks taken out by a poll whose `get` threw. -/
def State.failed (s : State) : List Nat := (s.found.filter (·.2 = .exception)).map Prod.fst

/-- Entries are only null in a round, and only behind it. -/
def Entries (s : State) : Prop :=
  match s.thread with
  | .polling position => position ≤ s.scheduledTasks.length ∧
      ∀ i, position ≤ i → s.scheduledTasks[i]? ≠ some none
  | .terminated => True
  | _ => none ∉ s.scheduledTasks

/-- The callable of an async has ended. -/
def Phase.Ended (phase : Phase) : Prop := phase = .returned ∨ phase = .finished

structure Consistent (s : State) : Prop where
  placed : (s.scheduledTasks.reduceOption ++ s.asyncs.map (·.task) ++ s.failed).Perm
    (List.range s.tasks.length)
  failed_eq : s.thread ≠ .terminated → s.failed = []
  entries : Entries s
  scheduled : ∀ n, some n ∈ s.scheduledTasks ↔
    (s.dependency n).isSome = true ∧ n ∉ s.found.map Prod.fst
  found : ∀ p ∈ s.found, (s.dependency p.1).bind s.get = some p.2
  handed : ∀ n, (n, .value) ∈ s.found → n ∈ s.asyncs.map (·.task)
  ready : ∀ n ∈ s.asyncs.map (·.task), (s.dependency n).isSome = true → (n, .value) ∈ s.found
  result : ∀ n, s.get (.task n) ≠ none → ∃ async ∈ s.asyncs, async.task = n ∧ async.phase.Ended

theorem consistent_init : Consistent {} := by
  constructor <;> simp [State.failed, State.dependency, State.get, Entries]

theorem Consistent.nodup_asyncs (hs : Consistent s) : (s.asyncs.map (·.task)).Nodup := by
  have hnodup := hs.placed.nodup_iff.mpr List.nodup_range
  rw [List.append_assoc] at hnodup
  exact (List.nodup_append.mp (List.nodup_append.mp hnodup).2.1).1

/-- A task has one async. -/
theorem Consistent.async_unique (hs : Consistent s) {x y : Async} (hx : x ∈ s.asyncs)
    (hy : y ∈ s.asyncs) (h : x.task = y.task) : x = y :=
  List.inj_on_of_nodup_map hs.nodup_asyncs hx hy h

/-- A step that moves no task, and lets futures become ready at most. -/
theorem Consistent.of_same (hs : Consistent s) (hlength : t.tasks.length = s.tasks.length)
    (hasyncs : t.asyncs.map (·.task) = s.asyncs.map (·.task))
    (hdependency : ∀ n, t.dependency n = s.dependency n)
    (hget : ∀ f r, s.get f = some r → t.get f = some r)
    (hscheduled : t.scheduledTasks = s.scheduledTasks) (hfound : t.found = s.found)
    (hthread : t.thread ≠ .terminated → s.thread ≠ .terminated) (hentries : Entries t)
    (hresult : ∀ n, t.get (.task n) ≠ none →
      ∃ async ∈ t.asyncs, async.task = n ∧ async.phase.Ended) : Consistent t where
  placed := by
    rw [hscheduled, hasyncs, hlength, State.failed, hfound]
    exact hs.placed
  failed_eq h := by
    rw [State.failed, hfound]
    exact hs.failed_eq (hthread h)
  entries := hentries
  scheduled n := by
    rw [hscheduled, hdependency, hfound]
    exact hs.scheduled n
  found p hp := by
    obtain ⟨f, hf, hr⟩ := Option.bind_eq_some_iff.mp (hs.found p (hfound ▸ hp))
    rw [hdependency, hf]
    exact hget f p.2 hr
  handed n hn := by
    rw [hasyncs]
    exact hs.handed n (hfound ▸ hn)
  ready n hn := by
    rw [hdependency, hfound]
    exact hs.ready n (hasyncs ▸ hn)
  result := hresult

theorem map_task_set {asyncs : List Async} {k n : Nat} {phase phase' : Phase}
    (hk : asyncs[k]? = some ⟨n, phase⟩) :
    (asyncs.set k ⟨n, phase'⟩).map (·.task) = asyncs.map (·.task) := by
  rw [List.map_set]
  have hget : (asyncs.map (·.task))[k]? = some n := by rw [List.getElem?_map, hk, Option.map_some]
  obtain ⟨hlt, heq⟩ := List.getElem?_eq_some_iff.mp hget
  rw [← heq, List.set_getElem_self]

/-! ### One step -/

theorem lt_of_dependency {n : Nat} (h : (s.dependency n).isSome = true) : n < s.tasks.length := by
  rw [State.dependency] at h
  by_contra hge
  rw [List.getElem?_eq_none (Nat.le_of_not_lt hge)] at h
  exact absurd h (by simp)

theorem dependency_length : s.dependency s.tasks.length = none := by
  rw [State.dependency, List.getElem?_eq_none (Nat.le_refl _), Option.bind_none]

theorem Consistent.lt_of_found (hs : Consistent s) {p : Nat × Result} (hp : p ∈ s.found) :
    p.1 < s.tasks.length := by
  obtain ⟨f, hf, -⟩ := Option.bind_eq_some_iff.mp (hs.found p hp)
  exact lt_of_dependency (by rw [hf]; rfl)

section

variable {task : Task}

/-- The tasks launched before keep their dependencies. -/
theorem dependency_append {n : Nat} (htasks : t.tasks = s.tasks ++ [task]) :
    t.dependency n = if n = s.tasks.length then task.dependency else s.dependency n := by
  rw [State.dependency, htasks]
  rcases Nat.lt_trichotomy n s.tasks.length with h | rfl | h
  · rw [List.getElem?_append_left h, if_neg (by omega), State.dependency]
  · rw [List.getElem?_concat_length, if_pos rfl, Option.bind_some]
  · rw [List.getElem?_eq_none (by rw [List.length_append, List.length_singleton]; omega),
      if_neg (by omega), State.dependency, List.getElem?_eq_none (by omega)]

theorem get_append {f : Future} {r : Result} (htasks : t.tasks = s.tasks ++ [task])
    (hothers : t.others = s.others) (h : s.get f = some r) : t.get f = some r := by
  cases f with
  | task n =>
    obtain ⟨task', hn, hr⟩ := Option.bind_eq_some_iff.mp h
    rw [State.get, htasks, List.getElem?_append_left (List.getElem?_eq_some_iff.mp hn).1, hn]
    exact hr
  | other n =>
    rw [State.get, hothers]
    exact h

/-- What has been found stays true when a task is added. -/
theorem Consistent.found_of_append (hs : Consistent s) (htasks : t.tasks = s.tasks ++ [task])
    (hothers : t.others = s.others) :
    ∀ p ∈ s.found, (t.dependency p.1).bind t.get = some p.2 := by
  intro p hp
  have hlt := hs.lt_of_found hp
  obtain ⟨f, hf, hr⟩ := Option.bind_eq_some_iff.mp (hs.found p hp)
  rw [dependency_append htasks, if_neg (Nat.ne_of_lt hlt), hf]
  exact get_append htasks hothers hr

theorem get_task_append {n : Nat} (htasks : t.tasks = s.tasks ++ [task]) (hnew : task.result = none)
    (h : t.get (.task n) ≠ none) : s.get (.task n) ≠ none := by
  rw [State.get, htasks] at h
  rw [State.get]
  rw [List.getElem?_append] at h
  split_ifs at h with hlt
  · exact h
  · rw [List.getElem?_singleton] at h
    split_ifs at h
    · exact absurd hnew h
    · exact absurd rfl h

end

theorem Consistent.launchTask (hs : Consistent s) : Consistent { s with
    tasks := s.tasks ++ [{ dependency := none }]
    asyncs := s.asyncs ++ [{ task := s.tasks.length }] } where
  placed := by
    let n := s.tasks.length
    have hnew : ((s.scheduledTasks.reduceOption ++ s.asyncs.map (·.task)) ++ n :: s.failed).Perm
        (List.range n ++ [n]) := calc
      _ ~ n :: ((s.scheduledTasks.reduceOption ++ s.asyncs.map (·.task)) ++ s.failed) :=
        List.perm_middle
      _ ~ n :: List.range n := hs.placed.cons n
      _ ~ List.range n ++ [n] := (List.perm_append_singleton n _).symm
    simpa [State.failed, List.range_succ, n] using hnew
  failed_eq := hs.failed_eq
  entries := hs.entries
  scheduled n := by
    rw [dependency_append rfl, hs.scheduled n]
    split_ifs with hn
    · rw [hn, dependency_length]
    · exact Iff.rfl
  found := hs.found_of_append rfl rfl
  handed n hn := by
    rw [List.map_append]
    exact List.mem_append_left _ (hs.handed n hn)
  ready n hn hdependency := by
    rw [dependency_append rfl] at hdependency
    rw [List.map_append, List.mem_append] at hn
    split_ifs at hdependency with hlength
    · exact absurd hdependency (by simp)
    · refine hs.ready n (hn.resolve_right fun hn => hlength ?_) hdependency
      simpa using hn
  result n hn := by
    obtain ⟨async, hasync, hended⟩ := hs.result n (get_task_append rfl rfl hn)
    exact ⟨async, List.mem_append_left _ hasync, hended⟩

theorem Consistent.launchTaskAfter (hs : Consistent s) {dependency : Future}
    (hlocked : s.locked = false) : Consistent { s with
      tasks := s.tasks ++ [{ dependency := some dependency }]
      scheduledTasks := s.scheduledTasks ++ [some s.tasks.length] } where
  placed := by
    let n := s.tasks.length
    have hnew : (s.scheduledTasks.reduceOption ++ n :: (s.asyncs.map (·.task) ++ s.failed)).Perm
        (List.range n ++ [n]) := calc
      _ ~ n :: (s.scheduledTasks.reduceOption ++ (s.asyncs.map (·.task) ++ s.failed)) :=
        List.perm_middle
      _ ~ n :: List.range n := by
        rw [← List.append_assoc]
        exact hs.placed.cons n
      _ ~ List.range n ++ [n] := (List.perm_append_singleton n _).symm
    simpa [State.failed, List.range_succ, List.reduceOption_append, n] using hnew
  failed_eq := hs.failed_eq
  entries := by
    have hentries := hs.entries
    unfold Entries at hentries ⊢
    cases hthread : s.thread with
    | polling position =>
      rw [State.locked, hthread] at hlocked
      exact absurd hlocked (by simp)
    | terminated => trivial
    | loopHead | sleeping | exited =>
      rw [hthread] at hentries
      simpa using hentries
  scheduled n := by
    rw [dependency_append rfl, List.mem_append, hs.scheduled n, List.mem_singleton, Option.some.injEq]
    split_ifs with hn
    · subst hn
      refine iff_of_true (.inr rfl) ⟨rfl, fun hfound => ?_⟩
      obtain ⟨p, hp, hlength⟩ := List.mem_map.mp hfound
      have hlt := hs.lt_of_found hp
      omega
    · rw [or_iff_left hn]
  found := hs.found_of_append rfl rfl
  handed := hs.handed
  ready n hn hdependency := by
    rw [dependency_append rfl] at hdependency
    split_ifs at hdependency with hlength
    · -- no async is the new task's
      have hmem : n ∈ List.range s.tasks.length :=
        hs.placed.mem_iff.mp (List.mem_append_left _ (List.mem_append_right _ hn))
      rw [hlength] at hmem
      exact absurd (List.mem_range.mp hmem) (Nat.lt_irrefl _)
    · exact hs.ready n hn hdependency
  result n hn := hs.result n (get_task_append rfl rfl hn)

/-- A step that only concerns the scheduler thread, its stop flag or the callers of `WaitForTasks`. -/
theorem Consistent.of_thread (hs : Consistent s) {thread : Thread} {schedulerStop : Bool}
    {waiters : List Waiter} {joined : Option Nat} (hthread : s.thread ≠ .terminated)
    (hentries : Entries { s with thread := thread }) : Consistent { s with
      thread := thread
      schedulerStop := schedulerStop
      waiters := waiters
      joined := joined } :=
  hs.of_same rfl rfl (fun _ => rfl) (fun _ _ h => h) rfl rfl (fun _ => hthread) hentries hs.result

theorem Consistent.complete (hs : Consistent s) {other : Nat} {result : Result}
    (hpending : s.others other = none) :
    Consistent { s with others := Function.update s.others other (some result) } := by
  refine hs.of_same rfl rfl (fun _ => rfl) (fun f r h => ?_) rfl rfl id hs.entries hs.result
  cases f with
  | task n => exact h
  | other n =>
    rw [State.get] at h ⊢
    dsimp only
    rw [Function.update_of_ne, h]
    rintro rfl
    rw [hpending] at h
    exact absurd h (by simp)

/-- An async that starts or is counted as finished. -/
theorem Consistent.advance (hs : Consistent s) {k n : Nat} {phase phase' : Phase}
    (hk : s.asyncs[k]? = some ⟨n, phase⟩) (hended : phase.Ended → phase'.Ended) :
    Consistent { s with asyncs := s.asyncs.set k ⟨n, phase'⟩ } := by
  refine hs.of_same rfl (map_task_set hk) (fun _ => rfl) (fun _ _ h => h) rfl rfl id hs.entries
    fun m hm => ?_
  obtain ⟨async, hasync, rfl, hasyncEnded⟩ := hs.result m hm
  have hlt := (List.getElem?_eq_some_iff.mp hk).1
  by_cases heq : async = ⟨n, phase⟩
  · subst heq
    exact ⟨⟨n, phase'⟩, List.mem_set hlt _, rfl, hended hasyncEnded⟩
  · obtain ⟨j, hj⟩ := List.mem_iff_getElem?.mp hasync
    refine ⟨async, List.mem_of_getElem? (i := j) ?_, rfl, hasyncEnded⟩
    rw [List.getElem?_set_ne, hj]
    rintro rfl
    exact heq (Option.some.inj (hj.symm.trans hk))

/-- The future of a task that is running is not ready. -/
theorem Consistent.get_of_running (hs : Consistent s) {k n : Nat}
    (hk : s.asyncs[k]? = some ⟨n, .running⟩) : s.get (.task n) = none := by
  by_contra hne
  obtain ⟨async, hasync, htask, hended⟩ := hs.result n hne
  obtain rfl := hs.async_unique hasync (List.mem_of_getElem? hk) htask
  rcases hended with h | h <;> exact absurd h (by simp)

theorem Consistent.resolve (hs : Consistent s) {k n : Nat} {result : Result}
    (hk : s.asyncs[k]? = some ⟨n, .running⟩) : Consistent { s with
      asyncs := s.asyncs.set k ⟨n, .returned⟩
      tasks := s.tasks.modify n ({ · with result := some result }) } := by
  have hs' := hs.advance hk (fun _ => (.inl rfl : Phase.returned.Ended))
  have hlt := (List.getElem?_eq_some_iff.mp hk).1
  refine hs'.of_same (List.length_modify ..) rfl (fun m => ?_) (fun f r h => ?_) rfl rfl id hs.entries
    fun m hm => ?_
  · simp only [State.dependency, List.getElem?_modify]
    split_ifs
    · cases s.tasks[m]? <;> rfl
    · simp
  · cases f with
    | task m =>
      have hne : n ≠ m := by
        rintro rfl
        rw [State.get] at h
        exact absurd (h.symm.trans (hs.get_of_running hk)) (by simp)
      rw [State.get] at h ⊢
      dsimp only
      rw [List.getElem?_modify_ne _ _ hne]
      exact h
    | other m => exact h
  · by_cases hnm : n = m
    · subst hnm
      exact ⟨⟨n, .returned⟩, List.mem_set hlt _, rfl, .inl rfl⟩
    · refine hs'.result m ?_
      rw [State.get] at hm ⊢
      dsimp only at hm
      rw [List.getElem?_modify_ne _ _ hnm] at hm
      exact hm

section

variable {position n : Nat}

theorem Consistent.nodup_scheduled (hs : Consistent s) : s.scheduledTasks.reduceOption.Nodup := by
  have hnodup := hs.placed.nodup_iff.mpr List.nodup_range
  rw [List.append_assoc] at hnodup
  exact (List.nodup_append.mp hnodup).1

/-- Taking a task out of the scheduled tasks leaves the others there. -/
theorem Consistent.mem_taken (hs : Consistent s) (hn : s.scheduledTasks[position]? = some (some n))
    {m : Nat} : some m ∈ s.scheduledTasks.set position none ↔ some m ∈ s.scheduledTasks ∧ m ≠ n := by
  have hperm := reduceOption_perm_of_filled hn
  have hnodup := hperm.nodup_iff.mp hs.nodup_scheduled
  have hmem := hperm.mem_iff (a := m)
  rw [List.mem_cons, List.reduceOption_mem_iff, List.reduceOption_mem_iff] at hmem
  have hnot : some n ∉ s.scheduledTasks.set position none := by
    rw [← List.reduceOption_mem_iff]
    exact (List.nodup_cons.mp hnodup).1
  rw [hmem]
  constructor
  · exact fun h => ⟨.inr h, fun hmn => hnot (hmn ▸ h)⟩
  · exact fun h => h.1.resolve_left h.2

theorem Consistent.mem_found_append (hs : Consistent s)
    (hn : s.scheduledTasks[position]? = some (some n)) {r : Result} {m : Nat} :
    some m ∈ s.scheduledTasks.set position none ↔
      (s.dependency m).isSome = true ∧ m ∉ (s.found ++ [(n, r)]).map Prod.fst := by
  rw [hs.mem_taken hn, hs.scheduled m, List.map_append, List.mem_append, List.map_singleton,
    List.mem_singleton, not_or, and_assoc]

/-- A task is found ready with what its dependency holds then and ever after. -/
theorem Consistent.found_append (hs : Consistent s) {r : Result}
    (hr : (s.dependency n).bind s.get = some r) :
    ∀ p ∈ s.found ++ [(n, r)], (s.dependency p.1).bind s.get = some p.2 := by
  intro p hp
  rcases List.mem_append.mp hp with hp | hp
  · exact hs.found p hp
  · obtain rfl := List.mem_singleton.mp hp
    exact hr

theorem Consistent.entries_polling (hs : Consistent s) (hthread : s.thread = .polling position) :
    position ≤ s.scheduledTasks.length ∧
      ∀ i, position ≤ i → s.scheduledTasks[i]? ≠ some none := by
  have hentries := hs.entries
  rwa [Entries, hthread] at hentries

theorem Consistent.poll_value (hs : Consistent s) (hthread : s.thread = .polling position)
    (hn : s.scheduledTasks[position]? = some (some n))
    (hr : (s.dependency n).bind s.get = some .value) :
    Consistent (s.poll position n (some .value)) where
  placed := by
    have hnew : ((s.scheduledTasks.set position none).reduceOption ++ s.asyncs.map (·.task) ++
        n :: s.failed).Perm (List.range s.tasks.length) := calc
      _ ~ n :: ((s.scheduledTasks.set position none).reduceOption ++ s.asyncs.map (·.task) ++
          s.failed) := List.perm_middle
      _ ~ s.scheduledTasks.reduceOption ++ s.asyncs.map (·.task) ++ s.failed :=
        (((reduceOption_perm_of_filled hn).append_right _).append_right _).symm
      _ ~ List.range s.tasks.length := hs.placed
    simpa [State.poll, State.launchTaskImpl, State.failed, List.filter_append] using hnew
  failed_eq _ := by
    have hnil := hs.failed_eq (by rw [hthread]; simp)
    simpa [State.poll, State.failed, List.filter_append] using hnil
  entries := by
    have hentries := hs.entries_polling hthread
    have hlt := (List.getElem?_eq_some_iff.mp hn).1
    refine ⟨by rw [State.poll, List.length_set]; exact hlt, fun i hi => ?_⟩
    rw [State.poll, List.getElem?_set_ne (by omega)]
    exact hentries.2 i (by omega)
  scheduled _ := hs.mem_found_append hn
  found := hs.found_append hr
  handed m hm := by
    rw [State.poll, State.launchTaskImpl, List.map_append]
    rcases List.mem_append.mp hm with hm | hm
    · exact List.mem_append_left _ (hs.handed m hm)
    · exact List.mem_append_right _ (by simpa using hm)
  ready m hm hdependency := by
    rw [State.poll, State.launchTaskImpl, List.map_append] at hm
    rcases List.mem_append.mp hm with hm | hm
    · exact List.mem_append_left _ (hs.ready m hm hdependency)
    · obtain rfl : m = n := by simpa using hm
      exact List.mem_append_right _ (List.mem_singleton_self _)
  result m hm := by
    obtain ⟨async, hasync, hended⟩ := hs.result m hm
    exact ⟨async, List.mem_append_left _ hasync, hended⟩

theorem Consistent.poll_exception (hs : Consistent s)
    (hn : s.scheduledTasks[position]? = some (some n))
    (hr : (s.dependency n).bind s.get = some .exception) :
    Consistent (s.poll position n (some .exception)) where
  placed := by
    have hnew : ((s.scheduledTasks.set position none).reduceOption ++
        (s.asyncs.map (·.task) ++ (s.failed ++ [n]))).Perm (List.range s.tasks.length) := calc
      _ ~ (s.scheduledTasks.set position none).reduceOption ++
          (n :: (s.asyncs.map (·.task) ++ s.failed)) := by
        rw [← List.append_assoc (s.asyncs.map _)]
        exact (List.perm_append_singleton n _).append_left _
      _ ~ n :: ((s.scheduledTasks.set position none).reduceOption ++
          (s.asyncs.map (·.task) ++ s.failed)) := List.perm_middle
      _ ~ s.scheduledTasks.reduceOption ++ (s.asyncs.map (·.task) ++ s.failed) :=
        ((reduceOption_perm_of_filled hn).append_right _).symm
      _ ~ List.range s.tasks.length := by
        rw [← List.append_assoc]
        exact hs.placed
    simpa [State.poll, State.failed, List.filter_append] using hnew
  failed_eq h := absurd rfl h
  entries := trivial
  scheduled _ := hs.mem_found_append hn
  found := hs.found_append hr
  handed m hm := by
    rcases List.mem_append.mp hm with hm | hm
    · exact hs.handed m hm
    · exact absurd hm (by simp)
  ready m hm hdependency := List.mem_append_left _ (hs.ready m hm hdependency)
  result := hs.result

theorem Consistent.poll_pending (hs : Consistent s) (hthread : s.thread = .polling position)
    (hn : s.scheduledTasks[position]? = some (some n)) : Consistent (s.poll position n none) := by
  refine hs.of_thread (by rw [hthread]; simp) ?_
  have hentries := hs.entries_polling hthread
  have hlt := (List.getElem?_eq_some_iff.mp hn).1
  exact ⟨hlt, fun i hi => hentries.2 i (by omega)⟩

theorem Consistent.eraseDone (hs : Consistent s)
    (hthread : s.thread = .polling s.scheduledTasks.length) : Consistent s.eraseDone where
  placed := by
    rw [State.eraseDone, reduceOption_filter_isSome]
    exact hs.placed
  failed_eq _ := hs.failed_eq (by rw [hthread]; simp)
  entries := by simp [Entries, State.eraseDone]
  scheduled m := by
    rw [State.eraseDone, List.mem_filter, and_iff_left (Option.isSome_some)]
    exact hs.scheduled m
  found := hs.found
  handed := hs.handed
  ready := hs.ready
  result := hs.result

end

theorem Consistent.entries_idle (hs : Consistent s) (hlocked : s.locked = false)
    (hthread : s.thread ≠ .terminated) : none ∉ s.scheduledTasks := by
  have hentries := hs.entries
  unfold Entries at hentries
  unfold State.locked at hlocked
  split at hentries
  · rename_i position h
    rw [h] at hlocked
    exact absurd hlocked (by simp)
  · rename_i h
    exact absurd h hthread
  · exact hentries

theorem Consistent.step (hs : Consistent s) (h : s.step a = some t) : Consistent t := by
  obtain ⟨hthread, hmove⟩ := move_of_eq_some h
  cases hmove with
  | launchTask => exact hs.launchTask
  | launchTaskAfter hlocked => exact hs.launchTaskAfter hlocked
  | complete hpending => exact hs.complete hpending
  | start hk => exact hs.advance hk fun h => by rcases h with h | h <;> exact absurd h (by simp)
  | resolve hk => exact hs.resolve hk
  | finish hk => exact hs.advance hk fun _ => .inr rfl
  | checkStop hloop =>
    have hentries := hs.entries_idle (by rw [State.locked, hloop]) hthread
    refine hs.of_thread hthread ?_
    split_ifs <;> exact hentries
  | lockScheduler hsleeping =>
    have hentries := hs.entries_idle (by rw [State.locked, hsleeping]) hthread
    exact hs.of_thread hthread
      ⟨Nat.zero_le _, fun i _ hi => hentries (List.mem_of_getElem? hi)⟩
  | @poll position n hpolling hn =>
    cases hr : (s.dependency n).bind s.get with
    | none => exact hs.poll_pending hpolling hn
    | some r =>
      cases r with
      | value => exact hs.poll_value hpolling hn hr
      | exception => exact hs.poll_exception hn hr
  | eraseDone hpolling => exact hs.eraseDone hpolling
  | waitForTasks | wait | destroy | join => exact hs.of_thread hthread hs.entries

end Teide.CpuExecutor
