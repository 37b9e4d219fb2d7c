import Mathlib.Tactic.Common
import Mathlib.Data.List.Nodup
import Teide.Queue.Invariant

/-!
# Waiting for the queue

`WaitForTasks` waits, without the mutex, until all fences of its snapshot are signalled at once.
`Flush` resets a signalled fence when it completes its submission, so a caller whose snapshot holds
that fence waits on, for a submission that is done, until the timeout or until the fence has been
used again.
-/

namespace Teide.Queue

open List Runs

variable {χ κ : Type*} {s t : State χ κ} {a : Action χ κ}

/-- A blocked caller waits for fences that are signalled, or still attached to the submission they
were attached to when it took its snapshot. -/
def WaitsForOutstanding (s : State χ κ) : Prop :=
  ∀ snapshot ∈ s.waiters, ∀ p ∈ snapshot,
    s.signalled p.2 = true ∨ p ∈ attached s.queue.inFlightSubmits

/-- `Flush` recycles no fence that a blocked caller waits for. -/
def NotWaitedFor (s : State χ κ) : Action χ κ → Prop
  | .flushNext => ∀ i ∈ s.flushing, ∀ e ∈ s.queue.inFlightSubmits[i]?, ∀ f ∈ e.fence,
      s.signalled f = true → ∀ snapshot ∈ s.waiters, f ∉ snapshot.map Prod.snd
  | _ => True

instance : Decidable (WaitsForOutstanding s) :=
  inferInstanceAs (Decidable (∀ snapshot ∈ _, ∀ p ∈ snapshot, _ ∨ _))

instance : ∀ a, Decidable (NotWaitedFor s a)
  | .flushNext => inferInstanceAs (Decidable (∀ i ∈ s.flushing,
      ∀ e ∈ s.queue.inFlightSubmits[i]?, ∀ f ∈ e.fence, _ → _))
  | .submit .. | .flushBegin | .flushEnd | .signal _ | .waitBegin | .waitDone _
  | .waitTimeout _ => .isTrue trivial

/-! ### The invariant -/

/-- The fences in use, in flight or put aside. -/
def fences (s : State χ κ) : List Fence :=
  (attached s.queue.inFlightSubmits).map Prod.snd ++ s.queue.unusedSubmitFences

/-- No fence is destroyed while a caller waits for it, and what the GPU has finished it does not
finish again. -/
structure WaitersSound (s : State χ κ) : Prop where
  live : ∀ snapshot ∈ s.waiters, ∀ p ∈ snapshot, p.2 ∈ fences s
  finished_lt : ∀ p ∈ s.finished, p.1 < s.submits.length
  pending_unfinished : ∀ p ∈ s.pending, p ∉ s.finished

theorem waitersSound_init : WaitersSound ({} : State χ κ) := by
  constructor <;> simp

theorem waitsForOutstanding_init : WaitsForOutstanding ({} : State χ κ) := by
  simp [WaitsForOutstanding]

/-- The fences of a snapshot are in flight as long as the wait is for outstanding work: an unused
fence is unsignalled. -/
theorem Consistent.in_flight_of_waited (hc : Consistent s) (hw : WaitersSound s)
    (ho : WaitsForOutstanding s) {snapshot : List (Nat × Fence)} (hsnapshot : snapshot ∈ s.waiters)
    {p : Nat × Fence} (hp : p ∈ snapshot) :
    p.2 ∈ (attached s.queue.inFlightSubmits).map Prod.snd := by
  rcases ho snapshot hsnapshot p hp with hs | hattached
  · refine (mem_append.mp (hw.live snapshot hsnapshot p hp)).resolve_right fun hunused => ?_
    rw [hc.unused_unsignalled p.2 hunused] at hs
    exact absurd hs (by simp)
  · exact mem_map_of_mem hattached

/-- A submission that has finished and is still attached has its fence signalled. -/
theorem Consistent.signalled_of_finished (hc : Consistent s) (hw : WaitersSound s)
    {p : Nat × Fence} (hp : p ∈ attached s.queue.inFlightSubmits) (hfinished : p ∈ s.finished) :
    s.signalled p.2 = true := by
  by_contra hs
  exact hw.pending_unfinished p ((hc.pending_iff p).mpr ⟨hp, by simpa using hs⟩) hfinished

theorem WaitersSound.enqueue (hc : Consistent s) (hw : WaitersSound s) (ho : WaitsForOutstanding s)
    {fence : Fence} {unused : List Fence} {commands : List χ} {callback : κ} :
    WaitersSound (s.enqueue fence unused commands callback) := by
  refine ⟨?_, ?_, ?_⟩
  · intro snapshot hsnapshot p hp
    have hmem := hc.in_flight_of_waited hw ho hsnapshot hp
    simp only [fences, State.enqueue, attached_append, map_append, append_assoc]
    exact mem_append_left _ hmem
  · intro p hp
    have := hw.finished_lt p hp
    simp only [State.enqueue, length_append, length_cons, length_nil]
    omega
  · intro p hp hfinished
    simp only [State.enqueue, mem_append, mem_singleton] at hp
    rcases hp with hp | rfl
    · exact hw.pending_unfinished p hp hfinished
    · exact Nat.lt_irrefl _ (hw.finished_lt _ hfinished)

/-- The fences in use stay the same when an entry is completed. -/
theorem fences_complete_perm {i n : Nat} {f : Fence} {callback : κ}
    (hentry : s.queue.inFlightSubmits[i]? = some ⟨some f, some callback, n⟩) :
    fences (s.complete i n f callback) ~ fences s := by
  have hlt := (List.getElem?_eq_some_iff.mp hentry).1
  simp only [fences, State.complete]
  rw [attached_set_done hlt, attached_split hentry, ← append_assoc]
  refine (perm_append_singleton f _).trans ?_
  simp only [map_append, map_cons, append_assoc, cons_append]
  exact perm_middle.symm

theorem WaitersSound.signal (hc : Consistent s) (hw : WaitersSound s) {n : Nat} {f : Fence}
    (hpending : (n, f) ∈ s.pending) : WaitersSound (s.signal (n, f)) := by
  refine ⟨hw.live, ?_, ?_⟩
  · intro p hp
    rcases mem_append.mp hp with hp | hp
    · exact hw.finished_lt p hp
    · rw [mem_singleton.mp hp]
      exact hc.submission_lt ((hc.pending_iff _).mp hpending).1
  · intro p hp hfinished
    obtain ⟨hne, hp⟩ := hc.pending_nodup.mem_erase_iff.mp hp
    rcases mem_append.mp hfinished with hfinished | hfinished
    · exact hw.pending_unfinished p hp hfinished
    · exact hne (mem_singleton.mp hfinished)

theorem WaitersSound.step (hc : Consistent s) (hw : WaitersSound s) (ho : WaitsForOutstanding s)
    (h : s.step a = some t) : WaitersSound t := by
  cases step_of_eq_some hc h with
  | submit commands callback => exact hw.enqueue hc ho
  | flushBegin | skip | waitBegin => exact { hw with }
  | complete hflushing hentry =>
    refine { hw with live := ?_ }
    intro snapshot hsnapshot p hp
    exact (fences_complete_perm hentry).symm.subset (hw.live snapshot hsnapshot p hp)
  | flushEnd =>
    refine { hw with live := ?_ }
    simp only [fences, State.flushEnd, attached_filter_done]
    exact hw.live
  | signal hpending => exact hw.signal hc hpending
  | waitBlock =>
    refine { hw with live := ?_ }
    intro snapshot hsnapshot p hp
    rcases mem_append.mp hsnapshot with hsnapshot | hsnapshot
    · exact hw.live snapshot hsnapshot p hp
    · rw [mem_singleton.mp hsnapshot] at hp
      exact mem_append_left _ (mem_map_of_mem hp)
  | waitDone | waitTimeout =>
    exact { hw with live := fun snapshot hsnapshot => hw.live snapshot (mem_of_mem_eraseIdx hsnapshot) }

/-! ### When a step keeps a caller waiting for nothing -/

theorem waitsForOutstanding_enqueue (hc : Consistent s) (hw : WaitersSound s)
    (ho : WaitsForOutstanding s) {fence : Fence} {unused : List Fence} {commands : List χ}
    {callback : κ}
    (hnodup : ((attached s.queue.inFlightSubmits).map Prod.snd ++ fence :: unused).Nodup) :
    WaitsForOutstanding (s.enqueue fence unused commands callback) := by
  intro snapshot hsnapshot p hp
  have hmem := hc.in_flight_of_waited hw ho hsnapshot hp
  have hne : p.2 ≠ fence := by
    rintro rfl
    exact (nodup_append.mp hnodup).2.2 p.2 hmem p.2 mem_cons_self rfl
  simp only [State.enqueue, Function.update_apply, if_neg hne, attached_append, mem_append]
  exact (ho snapshot hsnapshot p hp).imp_right .inl

/-- Completing an entry resets its fence, which nobody may be waiting for. -/
theorem waitsForOutstanding_complete_iff (hc : Consistent s) (ho : WaitsForOutstanding s)
    {i n : Nat} {f : Fence} {callback : κ}
    (hentry : s.queue.inFlightSubmits[i]? = some ⟨some f, some callback, n⟩) :
    WaitsForOutstanding (s.complete i n f callback) ↔
      ∀ snapshot ∈ s.waiters, f ∉ snapshot.map Prod.snd := by
  have hlt := (List.getElem?_eq_some_iff.mp hentry).1
  have hdone : attached (s.complete i n f callback).queue.inFlightSubmits =
      attached (s.queue.inFlightSubmits.take i) ++
        attached (s.queue.inFlightSubmits.drop (i + 1)) := attached_set_done hlt
  constructor
  · intro ho' snapshot hsnapshot hmem
    obtain ⟨⟨m, _⟩, hp, rfl⟩ := mem_map.mp hmem
    rcases ho' snapshot hsnapshot _ hp with hs | hattached
    · simp [State.complete] at hs
    · -- the fence is attached once only
      have hnodup := (nodup_append.mp hc.fences_nodup).1
      rw [attached_split hentry] at hnodup
      have hnodup' := ((perm_middle.map Prod.snd).nodup_iff.mp hnodup)
      rw [map_cons, ← hdone] at hnodup'
      exact (nodup_cons.mp hnodup').1 (mem_map.mpr ⟨_, hattached, rfl⟩)
  · intro hnot snapshot hsnapshot p hp
    have hne : p.2 ≠ f := by
      rintro rfl
      exact hnot snapshot hsnapshot (mem_map_of_mem hp)
    rw [hdone]
    simp only [State.complete, Function.update_apply, if_neg hne]
    refine (ho snapshot hsnapshot p hp).imp_right fun hattached => ?_
    rw [attached_split hentry] at hattached
    rcases mem_cons.mp (perm_middle.subset hattached) with rfl | hmem
    · exact absurd rfl hne
    · exact hmem

theorem step_waitsForOutstanding_iff (hc : Consistent s) (hw : WaitersSound s)
    (ho : WaitsForOutstanding s) (h : s.step a = some t) :
    WaitsForOutstanding t ↔ NotWaitedFor s a := by
  cases step_of_eq_some hc h with
  | submit commands callback hidle hnodup =>
    exact iff_of_true (waitsForOutstanding_enqueue hc hw ho hnodup) trivial
  | flushBegin | waitBegin => exact iff_of_true ho trivial
  | @complete i n f callback hflushing hentry hsignalled =>
    rw [waitsForOutstanding_complete_iff hc ho hentry]
    simp [NotWaitedFor, hflushing, hentry, hsignalled]
  | @skip i n f callback hflushing hentry hsignalled =>
    refine iff_of_true ho ?_
    simp [NotWaitedFor, hflushing, hentry, hsignalled]
  | flushEnd =>
    refine iff_of_true ?_ trivial
    simp only [WaitsForOutstanding, State.flushEnd, attached_filter_done]
    exact ho
  | @signal n f hpending =>
    refine iff_of_true ?_ trivial
    intro snapshot hsnapshot p hp
    simp only [State.signal, Function.update_apply]
    split_ifs
    · exact .inl rfl
    · exact ho snapshot hsnapshot p hp
  | waitBlock =>
    refine iff_of_true ?_ trivial
    intro snapshot hsnapshot p hp
    rcases mem_append.mp hsnapshot with hsnapshot | hsnapshot
    · exact ho snapshot hsnapshot p hp
    · rw [mem_singleton.mp hsnapshot] at hp
      exact .inr hp
  | waitDone | waitTimeout =>
    exact iff_of_true (fun snapshot hsnapshot => ho snapshot (mem_of_mem_eraseIdx hsnapshot)) trivial

/-- When the submissions of a snapshot have finished, the wait can end. -/
theorem Consistent.waitDone_enabled (hc : Consistent s) (hw : WaitersSound s)
    (ho : WaitsForOutstanding s) {i : Nat} {snapshot : List (Nat × Fence)}
    (hi : s.waiters[i]? = some snapshot) (hfinished : ∀ p ∈ snapshot, p ∈ s.finished) :
    (s.step (.waitDone i)).isSome := by
  have hall : ∀ p ∈ snapshot, s.signalled p.2 = true := by
    intro p hp
    rcases ho snapshot (mem_of_getElem? hi) p hp with hs | hattached
    · exact hs
    · exact hc.signalled_of_finished hw hattached (hfinished p hp)
  simp only [State.step, hi, if_pos hall, Option.isSome_some]

/-! ### Waiting for outstanding work -/

/-- **A wait is for outstanding work, when no fence that is waited for is recycled.** Along any run,
all blocked callers wait for fences that are signalled or still attached to the submission they
were attached to at the call, exactly when `Flush` never completes an entry whose fence is in the
snapshot of a blocked caller. In a state where this is so, a wait can end as soon as the submissions
of its snapshot have finished. -/
theorem waits_for_outstanding_iff {as : List (Action χ κ)}
    (hrun : exec State.step {} as = some s) :
    (Always State.step WaitsForOutstanding {} as ↔ Each State.step NotWaitedFor {} as) ∧
      (Always State.step WaitsForOutstanding {} as → ∀ i snapshot,
        s.waiters[i]? = some snapshot → (∀ p ∈ snapshot, p ∈ s.finished) →
          (s.step (.waitDone i)).isSome) := by
  refine ⟨always_iff_each (I := fun s => Consistent s ∧ WaitersSound s) ?_ ?_
    ⟨consistent_init, waitersSound_init⟩ waitsForOutstanding_init hrun, fun halways => ?_⟩
  · rintro s a t ⟨hc, hw⟩ ho h _
    exact ⟨hc.step h, hw.step hc ho h⟩
  · rintro s a t ⟨hc, hw⟩ ho h
    exact step_waitsForOutstanding_iff hc hw ho h
  · obtain ⟨⟨hc, hw⟩, ho⟩ := exec_invariant_of_always
      (I := fun s => Consistent s ∧ WaitersSound s)
      (by
        rintro s a t ⟨hc, hw⟩ ho h
        exact ⟨hc.step h, hw.step hc ho h⟩)
      ⟨consistent_init, waitersSound_init⟩ halways hrun
    exact fun i snapshot hi hfinished => hc.waitDone_enabled hw ho hi hfinished

/-- A caller waits for two submissions. The first finishes and `Flush` resets its fence; then the
second finishes. Both are done, but the caller is still blocked. -/
def staleWaitRun : List (Action Nat Nat) :=
  [.submit 7 [10] 20, .submit 8 [11] 21, .waitBegin, .signal 0, .flushBegin, .flushNext,
    .flushNext, .flushEnd, .signal 1]

theorem wait_for_recycled_fence :
    ¬ ∀ s : State Nat Nat, Reachable State.step {} s → WaitsForOutstanding s ∧
      ∀ i snapshot, s.waiters[i]? = some snapshot → (∀ p ∈ snapshot, p ∈ s.finished) →
        (s.step (.waitDone i)).isSome := by
  intro hall
  have hdone := (hall _ ⟨staleWaitRun, rfl⟩).2 0 _ rfl (by decide)
  revert hdone
  decide

theorem waits_for_outstanding_iff_flush_before :
    Always State.step WaitsForOutstanding {}
      ([.submit 7 [10] 20, .submit 8 [11] 21, .signal 0, .flushBegin, .flushNext, .flushNext,
        .flushEnd, .waitBegin, .signal 1, .waitDone 0] : List (Action Nat Nat)) :=
  (waits_for_outstanding_iff rfl).1.mpr (by decide)

end Teide.Queue
