import Mathlib.Tactic.Common
import Teide.Queue.Invariant

/-!
# Where the callbacks are, and emptying the queue

Every callback passed to `Submit` has been called or is in flight (`Consistent.callbacks_perm`), and
every submission is finished or still to be finished by the GPU (`FinishedOnce`).

Whatever state a run has led to, the GPU and the scheduler thread can finish what is in flight without
the help of any other thread (`Consistent.exists_drained`): a `Flush` that is running can be brought to
its end, the GPU can signal all fences that are left, and one more `Flush` then completes everything.
-/

namespace Teide.Queue

open List Runs

variable {χ κ : Type*} {s t : State χ κ} {a : Action χ κ} {as : List (Action χ κ)}

/-! ### Where the callbacks are -/

/-- The callbacks of the submissions in flight. -/
def State.inFlight (s : State χ κ) : List κ :=
  (s.queue.inFlightSubmits.filter (·.fence.isSome)).filterMap (·.callback)

/-- The callback of a submission. -/
def State.callback? (s : State χ κ) (n : Nat) : Option κ := s.submits[n]?.map (·.callback)

theorem filterMap_getElem?_range {α β : Type*} (l : List α) (f : α → β) :
    (range l.length).filterMap (fun n => l[n]?.map f) = l.map f := by
  induction l with
  | nil => rfl
  | cons a l ih =>
    have htail : (fun n => ((a :: l)[n]?).map f) ∘ Nat.succ = fun n => l[n]?.map f := rfl
    rw [length_cons, range_succ_eq_map, filterMap_cons, filterMap_map, htail, ih]
    rfl

/-- Each callback that was passed to `Submit` has been called or is in flight, once. -/
theorem Consistent.callbacks_perm (hc : Consistent s) :
    s.ran.map Prod.snd ++ s.inFlight ~ s.submits.map (·.callback) := by
  have hran : (s.ran.map Prod.fst).filterMap s.callback? = s.ran.map Prod.snd := by
    rw [filterMap_map, ← filterMap_eq_map]
    refine filterMap_congr fun p hp => ?_
    obtain ⟨call, hcall, hcallback, -⟩ := hc.ran_finished p hp
    simp [State.callback?, hcall, hcallback]
  have hflight : ((attached s.queue.inFlightSubmits).map Prod.fst).filterMap s.callback? =
      s.inFlight := by
    rw [filterMap_map, attached, filterMap_filterMap, State.inFlight, filterMap_filter]
    refine filterMap_congr fun e he => ?_
    cases hf : e.fence with
    | none => simp
    | some f =>
      obtain ⟨call, hcall, -, hcallback⟩ := hc.entries e he (by simp [hf])
      simp [State.callback?, hcall, hcallback]
  have hall : (range s.submits.length).filterMap s.callback? = s.submits.map (·.callback) :=
    filterMap_getElem?_range _ _
  rw [← hran, ← hflight, ← filterMap_append, ← hall]
  exact hc.accounted.filterMap _

/-- Every submission has been finished by the GPU, once, or is pending. -/
def FinishedOnce (s : State χ κ) : Prop :=
  s.finished.map Prod.fst ++ s.pending.map Prod.fst ~ range s.submits.length

theorem FinishedOnce.step (hc : Consistent s) (hf : FinishedOnce s) (h : s.step a = some t) :
    FinishedOnce t := by
  cases step_of_eq_some hc h with
  | submit =>
    simp only [FinishedOnce, State.enqueue, map_append, map_cons, map_nil, length_append,
      length_cons, length_nil, range_succ]
    rw [← append_assoc]
    exact hf.append_right _
  | @signal n f hpending =>
    have hsplit : s.pending.map Prod.fst ~ n :: (s.pending.erase (n, f)).map Prod.fst :=
      (perm_cons_erase hpending).map Prod.fst
    simp only [FinishedOnce, State.signal, map_append, map_cons, map_nil, append_assoc]
    exact (hsplit.symm.append_left _).trans hf
  | flushBegin | complete | skip | flushEnd | waitBegin | waitBlock | waitDone | waitTimeout =>
    exact hf

/-! ### Emptying the queue -/

/-- The actions of the GPU and of `Flush`. -/
def Action.OwnProgress : Action χ κ → Prop
  | .signal _ | .flushBegin | .flushNext | .flushEnd => True
  | .submit .. | .waitBegin | .waitDone _ | .waitTimeout _ => False

instance : ∀ a : Action χ κ, Decidable a.OwnProgress
  | .signal _ | .flushBegin | .flushNext | .flushEnd => .isTrue trivial
  | .submit .. | .waitBegin | .waitDone _ | .waitTimeout _ => .isFalse id

/-- `t` is reached from `s` by the GPU and `Flush` alone. -/
def Progress (s t : State χ κ) : Prop :=
  ∃ as : List (Action χ κ), (∀ a ∈ as, a.OwnProgress) ∧ exec State.step s as = some t

theorem Progress.refl (s : State χ κ) : Progress s s := ⟨[], by simp, rfl⟩

theorem Progress.head {u : State χ κ} (ha : a.OwnProgress) (hstep : s.step a = some t)
    (h : Progress t u) : Progress s u := by
  obtain ⟨as, has, hrun⟩ := h
  refine ⟨a :: as, ?_, exec_cons_eq_some.mpr ⟨t, hstep, hrun⟩⟩
  rintro b (_ | ⟨_, hb⟩)
  · exact ha
  · exact has b hb

theorem Progress.trans {u : State χ κ} (hst : Progress s t) (htu : Progress t u) : Progress s u := by
  obtain ⟨as, has, hrun⟩ := hst
  obtain ⟨bs, hbs, hrun'⟩ := htu
  refine ⟨as ++ bs, ?_, by rw [exec_append, hrun, Option.bind_some, hrun']⟩
  intro b hb
  exact (mem_append.mp hb).elim (has b) (hbs b)

theorem Progress.consistent (h : Progress s t) (hc : Consistent s) : Consistent t := by
  obtain ⟨as, -, hrun⟩ := h
  exact exec_invariant (fun _ _ _ hc hstep => hc.step hstep) hc hrun

theorem eq_nil_of_attached {entries : List (InFlightSubmit κ)} (hnone : attached entries = [])
    (hdone : ∀ e ∈ entries, e.fence.isSome) : entries = [] := by
  refine eq_nil_iff_forall_not_mem.mpr fun e he => ?_
  obtain ⟨f, hf⟩ := Option.isSome_iff_exists.mp (hdone e he)
  have hmem : (e.submission, f) ∈ attached entries :=
    mem_filterMap.mpr ⟨e, he, by rw [hf]; rfl⟩
  rw [hnone] at hmem
  exact absurd hmem not_mem_nil

/-- The entry a running `Flush` looks at is not done. -/
theorem Consistent.entry_flushing (hc : Consistent s) {i : Nat} (hflushing : s.flushing = some i)
    (hlt : i < s.queue.inFlightSubmits.length) :
    ∃ n f callback, s.queue.inFlightSubmits[i]? = some ⟨some f, some callback, n⟩ := by
  have hmem : s.queue.inFlightSubmits[i] ∈ s.queue.inFlightSubmits.drop (s.flushing.getD 0) := by
    rw [hflushing, Option.getD_some, drop_eq_getElem_cons hlt]
    exact mem_cons_self
  obtain ⟨call, -, hfence, hcallback⟩ := hc.entries _ (getElem_mem hlt) (hc.not_done _ hmem)
  refine ⟨s.queue.inFlightSubmits[i].submission, call.fence, call.callback, ?_⟩
  rw [getElem?_eq_getElem hlt, ← hfence, ← hcallback]

/-- A running `Flush` comes to its end. If the GPU has nothing left to do, and nothing has been passed
over, then the queue is empty. -/
theorem Consistent.exists_flush (hc : Consistent s) {i k : Nat} (hflushing : s.flushing = some i)
    (hlength : i + k = s.queue.inFlightSubmits.length) :
    ∃ t, Progress s t ∧ t.flushing = none ∧ t.pending = s.pending ∧
      (s.pending = [] → attached (s.queue.inFlightSubmits.take i) = [] →
        t.queue.inFlightSubmits = []) := by
  induction k generalizing s i with
  | zero =>
    have hend : s.flushing = some s.queue.inFlightSubmits.length := by
      rw [hflushing, ← hlength, Nat.add_zero]
    have hstep : s.step .flushEnd = some s.flushEnd := by rw [State.step, if_pos hend]
    refine ⟨s.flushEnd, .head (a := .flushEnd) trivial hstep (.refl _), rfl, rfl, ?_⟩
    intro _ hpassed
    rw [take_of_length_le (by omega)] at hpassed
    refine eq_nil_of_attached ?_ fun e he => (mem_filter.mp he).2
    exact (attached_filter_done _).trans hpassed
  | succ k ih =>
    have hlt : i < s.queue.inFlightSubmits.length := by omega
    obtain ⟨n, f, callback, hentry⟩ := hc.entry_flushing hflushing hlt
    have hflushNext : s.step .flushNext = s.flushNext i := by
      rw [State.step, hflushing, Option.bind_some]
    cases hsignalled : s.signalled f with
    | true =>
      have hstep : s.step .flushNext = some (s.complete i n f callback) := by
        simp only [hflushNext, State.flushNext, hentry, hsignalled, if_true, Option.map_some]
      obtain ⟨t, ht, hidle, hpending, hempty⟩ := ih (hc.step hstep) rfl
        (by simp only [State.complete, length_set]; omega)
      refine ⟨t, .head (a := .flushNext) trivial hstep ht, hidle, hpending, fun hnone hpassed => ?_⟩
      refine hempty hnone ?_
      -- the entry at `i` is done now
      simp only [State.complete]
      rw [take_succ_eq_append_getElem (by simpa using hlt), getElem_set_self,
        take_set_of_le (Nat.le_refl i), attached_append, hpassed]
      rfl
    | false =>
      have hstep : s.step .flushNext = some { s with flushing := some (i + 1) } := by
        simp only [hflushNext, State.flushNext, hentry, hsignalled, Bool.false_eq_true, if_false]
      obtain ⟨t, ht, hidle, hpending, -⟩ := ih (hc.step hstep) rfl (by dsimp only; omega)
      refine ⟨t, .head (a := .flushNext) trivial hstep ht, hidle, hpending, fun hnone _ => ?_⟩
      have hmem : (n, f) ∈ s.pending := by
        refine (hc.pending_iff _).mpr ⟨?_, hsignalled⟩
        rw [attached_split hentry]
        exact mem_append_right _ mem_cons_self
      rw [hnone] at hmem
      exact absurd hmem not_mem_nil

/-- The GPU finishes everything it has been given. -/
theorem Consistent.exists_signal_all (hc : Consistent s) :
    ∃ t, Progress s t ∧ t.pending = [] ∧ t.flushing = s.flushing := by
  induction hn : s.pending.length generalizing s with
  | zero => exact ⟨s, .refl s, length_eq_zero_iff.mp hn, rfl⟩
  | succ k ih =>
    obtain ⟨p, rest, hpending⟩ := exists_cons_of_length_eq_add_one hn
    have hstep : s.step (.signal p.1) = some (s.signal p) := by
      simp only [State.step, hpending, find?_cons, decide_true, Option.map_some]
    have hrest : (s.signal p).pending = rest := by
      rw [State.signal, hpending, erase_cons_head]
    obtain ⟨t, ht, hnone, hflushing⟩ := ih (hc.step hstep)
      (by rw [hrest]; simpa [hpending] using hn)
    exact ⟨t, .head (a := .signal p.1) trivial hstep ht, hnone, hflushing⟩

/-- The GPU and `Flush` alone can complete everything that is in flight. -/
theorem Consistent.exists_drained (hc : Consistent s) :
    ∃ t, Progress s t ∧ t.flushing = none ∧ t.queue.inFlightSubmits = [] := by
  -- first a `Flush` that is running ends
  obtain ⟨s₁, hs₁, hidle⟩ : ∃ s₁, Progress s s₁ ∧ s₁.flushing = none := by
    cases hflushing : s.flushing with
    | none => exact ⟨s, .refl s, hflushing⟩
    | some i =>
      obtain ⟨s₁, hs₁, hidle, -⟩ := hc.exists_flush hflushing
        (Nat.add_sub_cancel' (hc.flushing_le i hflushing))
      exact ⟨s₁, hs₁, hidle⟩
  obtain ⟨s₂, hs₂, hnone, hflushing⟩ := (hs₁.consistent hc).exists_signal_all
  have hc₂ := hs₂.consistent (hs₁.consistent hc)
  have hbegin : s₂.step .flushBegin = some { s₂ with flushing := some 0 } := by
    rw [State.step, if_pos (hflushing.trans hidle)]
  obtain ⟨t, ht, hidle, -, hempty⟩ := (hc₂.step hbegin).exists_flush rfl (Nat.zero_add _)
  have hbegun : Progress s₂ t := .head (a := .flushBegin) trivial hbegin ht
  exact ⟨t, hs₁.trans (hs₂.trans hbegun), hidle, hempty hnone rfl⟩

end Teide.Queue
