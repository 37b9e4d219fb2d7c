import Mathlib.Tactic.Common
import Mathlib.Data.List.Nodup
import Teide.Queue.Invariant

/-!
# The order of completions

`Flush` polls the fences one after another and does not go back. A submission whose fence is
signalled behind its back, after it polled the fence of an earlier submission in vain, completes
before that earlier one. `NoLateSignal` excludes exactly these signals.
-/

namespace Teide.Queue

open List Runs

variable {χ κ : Type*} {s t : State χ κ} {a : Action χ κ}

/-- Whenever the callback of a submission has run, those of all earlier submissions have. -/
def OrderKept (s : State χ κ) : Prop :=
  ∀ m ∈ s.ran.map Prod.fst, ∀ n < m, n ∈ s.ran.map Prod.fst

/-- The GPU finishes the submissions of a queue in order. -/
def InOrder (s : State χ κ) : Action χ κ → Prop
  | .signal n => ∀ p ∈ s.pending, n ≤ p.1
  | _ => True

/-- A fence that a running `Flush` has yet to poll is signalled only while none of those it has
polled is left in flight. -/
def NoLateSignal (s : State χ κ) : Action χ κ → Prop
  | .signal n => ∀ i ∈ s.flushing,
      attached (s.queue.inFlightSubmits.take i) = [] ∨
        n ∉ (attached (s.queue.inFlightSubmits.drop i)).map Prod.fst
  | _ => True

instance : Decidable (OrderKept s) := inferInstanceAs (Decidable (∀ m ∈ _, ∀ n < m, _))

instance : ∀ a, Decidable (InOrder s a)
  | .signal n => inferInstanceAs (Decidable (∀ p ∈ s.pending, n ≤ p.1))
  | .submit .. | .flushBegin | .flushNext | .flushEnd | .waitBegin | .waitDone _
  | .waitTimeout _ => .isTrue trivial

instance : ∀ a, Decidable (NoLateSignal s a)
  | .signal _ => inferInstanceAs (Decidable (∀ i ∈ s.flushing, _ ∨ _))
  | .submit .. | .flushBegin | .flushNext | .flushEnd | .waitBegin | .waitDone _
  | .waitTimeout _ => .isTrue trivial

/-! ### The invariant -/

structure Orderly (s : State χ κ) : Prop where
  signalled_first : ∀ p ∈ attached s.queue.inFlightSubmits,
    ∀ q ∈ attached s.queue.inFlightSubmits, p.1 < q.1 → s.signalled q.2 = true →
      s.signalled p.2 = true
  /-- if `Flush` has passed an entry that is in flight, everything before it is unsignalled -/
  passed : ∀ i, s.flushing = some i → attached (s.queue.inFlightSubmits.take i) ≠ [] →
    ∀ q ∈ attached (s.queue.inFlightSubmits.drop i), s.signalled q.2 = false
  kept : OrderKept s

theorem orderly_init : Orderly ({} : State χ κ) := by
  constructor <;> simp [OrderKept]

/-- An entry that `Flush` has not passed has not been passed in the order of submission either. -/
theorem Consistent.lt_of_split (hc : Consistent s) {i n : Nat} {f : Fence} {callback : Option κ}
    (hentry : s.queue.inFlightSubmits[i]? = some ⟨some f, callback, n⟩) :
    (∀ p ∈ attached (s.queue.inFlightSubmits.take i), p.1 < n) ∧
      ∀ q ∈ attached (s.queue.inFlightSubmits.drop (i + 1)), n < q.1 := by
  have hsorted := hc.attached_sorted
  rw [attached_split hentry] at hsorted
  obtain ⟨-, hright, hcross⟩ := pairwise_append.mp hsorted
  exact ⟨fun p hp => hcross p hp _ mem_cons_self, (pairwise_cons.mp hright).1⟩

/-- Submissions that are not attached have completed. -/
theorem Consistent.ran_of_not_attached (hc : Consistent s) {n : Nat} (hn : n < s.submits.length)
    (hnot : ∀ p ∈ attached s.queue.inFlightSubmits, p.1 ≠ n) : n ∈ s.ran.map Prod.fst := by
  have hmem := hc.accounted.symm.subset (mem_range.mpr hn)
  refine (mem_append.mp hmem).resolve_right fun h => ?_
  obtain ⟨p, hp, hpn⟩ := mem_map.mp h
  exact hnot p hp hpn

theorem Orderly.enqueue (hc : Consistent s) (ho : Orderly s) {fence : Fence} {unused : List Fence}
    {commands : List χ} {callback : κ} (hidle : s.flushing = none)
    (hnodup : ((attached s.queue.inFlightSubmits).map Prod.snd ++ fence :: unused).Nodup) :
    Orderly (s.enqueue fence unused commands callback) := by
  have hfresh : ∀ p ∈ attached s.queue.inFlightSubmits, p.2 ≠ fence := by
    rintro p hp rfl
    exact (nodup_append.mp hnodup).2.2 p.2 (mem_map_of_mem hp) p.2 mem_cons_self rfl
  refine ⟨?_, ?_, ho.kept⟩
  · intro p hp q hq hlt hs
    simp only [State.enqueue, attached_append, attached_singleton, mem_append, mem_singleton,
      Function.update_apply] at hp hq hs ⊢
    split_ifs at hs with hqf
    have hq' := hq.resolve_right fun heq => hqf (congrArg Prod.snd heq)
    rcases hp with hp | rfl
    · rw [if_neg (hfresh p hp)]
      exact ho.signalled_first p hp q hq' hlt hs
    · exact absurd (hc.submission_lt hq') (by omega)
  · intro i hi
    simp [State.enqueue, hidle] at hi

/-- With in-order signals, nothing behind an unsignalled entry is signalled. -/
theorem Orderly.skip (hc : Consistent s) (ho : Orderly s) {i n : Nat} {f : Fence}
    {callback : Option κ}
    (hentry : s.queue.inFlightSubmits[i]? = some ⟨some f, callback, n⟩)
    (hsignalled : s.signalled f = false) : Orderly { s with flushing := some (i + 1) } := by
  refine ⟨ho.signalled_first, ?_, ho.kept⟩
  intro j hj _ q hq
  obtain rfl : i + 1 = j := Option.some.inj hj
  have hlt := (hc.lt_of_split hentry).2 q hq
  have hmem : (n, f) ∈ attached s.queue.inFlightSubmits ∧
      q ∈ attached s.queue.inFlightSubmits := by
    rw [attached_split hentry]
    exact ⟨by simp, by simp [hq]⟩
  by_contra hs
  have hf := ho.signalled_first (n, f) hmem.1 q hmem.2 hlt (by simpa using hs)
  rw [hsignalled] at hf
  exact absurd hf (by simp)

/-- A signalled entry is completed only when all those before it have been. -/
theorem Orderly.passed_nil (ho : Orderly s) {i n : Nat} {f : Fence} {callback : Option κ}
    (hflushing : s.flushing = some i)
    (hentry : s.queue.inFlightSubmits[i]? = some ⟨some f, callback, n⟩)
    (hsignalled : s.signalled f = true) : attached (s.queue.inFlightSubmits.take i) = [] := by
  obtain ⟨hlt, he⟩ := List.getElem?_eq_some_iff.mp hentry
  by_contra hne
  have hmem : (n, f) ∈ attached (s.queue.inFlightSubmits.drop i) := by
    rw [drop_eq_getElem_cons hlt, he]
    exact mem_cons_self
  have hf := ho.passed i hflushing hne _ hmem
  rw [hsignalled] at hf
  exact absurd hf (by simp)

theorem Orderly.complete (hc : Consistent s) (ho : Orderly s) {i n : Nat} {f : Fence} {callback : κ}
    (hflushing : s.flushing = some i)
    (hentry : s.queue.inFlightSubmits[i]? = some ⟨some f, some callback, n⟩)
    (hsignalled : s.signalled f = true) : Orderly (s.complete i n f callback) := by
  have hlt := (List.getElem?_eq_some_iff.mp hentry).1
  have hnil := ho.passed_nil hflushing hentry hsignalled
  have hsplit := attached_split hentry
  rw [hnil, nil_append] at hsplit
  have hdone : attached (s.complete i n f callback).queue.inFlightSubmits =
      attached (s.queue.inFlightSubmits.drop (i + 1)) := by
    refine (attached_set_done hlt).trans ?_
    rw [hnil, nil_append]
  have hsub : ∀ p ∈ attached (s.queue.inFlightSubmits.drop (i + 1)),
      p ∈ attached s.queue.inFlightSubmits := fun p hp => hsplit ▸ mem_cons_of_mem _ hp
  have hother : ∀ p ∈ attached (s.queue.inFlightSubmits.drop (i + 1)), p.2 ≠ f := by
    have hnodup := (nodup_append.mp hc.fences_nodup).1
    rw [hsplit, map_cons] at hnodup
    rintro p hp rfl
    exact (nodup_cons.mp hnodup).1 (mem_map.mpr ⟨p, hp, rfl⟩)
  constructor
  · rw [hdone]
    intro p hp q hq hpq hs
    simp only [State.complete, Function.update_apply] at hs ⊢
    rw [if_neg (hother q hq)] at hs
    rw [if_neg (hother p hp)]
    exact ho.signalled_first p (hsub p hp) q (hsub q hq) hpq hs
  · intro j hj hne
    obtain rfl : i + 1 = j := Option.some.inj hj
    refine absurd ?_ hne
    simp only [State.complete, take_set, attached_set_done (show i < (take (i + 1)
      s.queue.inFlightSubmits).length by rw [length_take]; omega), take_take, drop_take]
    simp [hnil]
  · -- the submissions before `n` are not attached any more
    intro m hm k hk
    simp only [State.complete, map_append, map_cons, map_nil, mem_append, mem_singleton] at hm ⊢
    rcases hm with hm | rfl
    · exact .inl (ho.kept m hm k hk)
    · left
      have hmem : (m, f) ∈ attached s.queue.inFlightSubmits := hsplit ▸ mem_cons_self
      refine hc.ran_of_not_attached (Nat.lt_trans hk (hc.submission_lt hmem)) ?_
      intro p hp hpk
      rw [hsplit] at hp
      rcases mem_cons.mp hp with rfl | hp
      · exact absurd hpk (by omega)
      · have := (hc.lt_of_split hentry).2 p hp
        omega

theorem Orderly.signal (hc : Consistent s) (ho : Orderly s) {n : Nat} {f : Fence}
    (hpending : (n, f) ∈ s.pending) (hfirst : ∀ p ∈ s.pending, n ≤ p.1)
    (hlate : NoLateSignal s (.signal n)) : Orderly (s.signal (n, f)) := by
  have hattached := ((hc.pending_iff _).mp hpending).1
  have hinj : ∀ p ∈ attached s.queue.inFlightSubmits, p.2 = f → p = (n, f) := fun p hp heq =>
    inj_on_of_nodup_map (nodup_append.mp hc.fences_nodup).1 hp hattached heq
  refine ⟨?_, ?_, ho.kept⟩
  · intro p hp q hq hpq hs
    simp only [State.signal, Function.update_apply] at hs ⊢
    split_ifs with hpf
    · rfl
    · split_ifs at hs with hqf
      · -- `q` is the submission that finishes, so `p` is not pending
        obtain rfl := hinj q hq hqf
        by_contra hunsignalled
        have := hfirst p ((hc.pending_iff p).mpr ⟨hp, by simpa using hunsignalled⟩)
        omega
      · exact ho.signalled_first p hp q hq hpq hs
  · intro i hi hne q hq
    have hnotLate := (hlate i hi).resolve_left hne
    have hmem : q ∈ attached s.queue.inFlightSubmits :=
      ((drop_sublist i _).filterMap _).subset hq
    simp only [State.signal, Function.update_apply]
    rw [if_neg, ho.passed i hi hne q hq]
    intro hqf
    rw [hinj q hmem hqf] at hq
    exact hnotLate (mem_map_of_mem hq)

theorem Orderly.flushEnd (ho : Orderly s) : Orderly s.flushEnd := by
  have hattached : attached s.flushEnd.queue.inFlightSubmits =
      attached s.queue.inFlightSubmits := attached_filter_done _
  refine ⟨?_, ?_, ho.kept⟩
  · rw [hattached]
    exact ho.signalled_first
  · intro i hi
    simp [State.flushEnd] at hi

theorem Orderly.step (hc : Consistent s) (ho : Orderly s) (hin : InOrder s a)
    (hlate : NoLateSignal s a) (h : s.step a = some t) : Orderly t := by
  cases step_of_eq_some hc h with
  | submit commands callback hidle hnodup hunused => exact ho.enqueue hc hidle hnodup
  | flushBegin hidle =>
    refine ⟨ho.signalled_first, ?_, ho.kept⟩
    intro i hi hne
    obtain rfl : 0 = i := Option.some.inj hi
    exact absurd rfl hne
  | complete hflushing hentry hsignalled => exact ho.complete hc hflushing hentry hsignalled
  | skip hflushing hentry hsignalled => exact ho.skip hc hentry hsignalled
  | flushEnd => exact ho.flushEnd
  | signal hpending => exact ho.signal hc hpending hin hlate
  | waitBegin => exact ho
  | waitBlock | waitDone | waitTimeout => exact { ho with }

/-! ### What a late signal leads to -/

/-- A round of `Flush` is always possible, and changes nothing but the entry it looks at. -/
theorem Consistent.flushNext_frame (hc : Consistent s) {i : Nat} (hflushing : s.flushing = some i)
    (hlt : i < s.queue.inFlightSubmits.length) :
    ∃ t, s.step .flushNext = some t ∧ t.flushing = some (i + 1) ∧
      (∀ p ∈ attached (s.queue.inFlightSubmits.take i),
        p ∈ attached (t.queue.inFlightSubmits.take (i + 1))) ∧
      ∀ j n f callback, i < j → s.queue.inFlightSubmits[j]? = some ⟨some f, callback, n⟩ →
        t.queue.inFlightSubmits[j]? = some ⟨some f, callback, n⟩ ∧
          t.signalled f = s.signalled f := by
  have hentry := List.getElem?_eq_getElem hlt
  have hdrop := hc.not_done s.queue.inFlightSubmits[i] (by
    rw [hflushing, Option.getD_some, drop_eq_getElem_cons hlt]
    exact mem_cons_self)
  obtain ⟨call, -, hfence, hcallback⟩ := hc.entries _ (getElem_mem hlt) hdrop
  generalize s.queue.inFlightSubmits[i] = e at hentry hfence hcallback
  obtain ⟨_, _, n⟩ := e
  obtain rfl := hfence
  obtain rfl := hcallback
  have htake : ∀ p ∈ attached (s.queue.inFlightSubmits.take i),
      p ∈ attached (s.queue.inFlightSubmits.take (i + 1)) := fun p hp =>
    ((take_sublist_take_left (Nat.le_succ i)).filterMap _).subset hp
  by_cases hs : s.signalled call.fence = true
  · refine ⟨s.complete i n call.fence call.callback, ?_, rfl, ?_, ?_⟩
    · simp [State.step, State.flushNext, hflushing, hentry, hs]
    · intro p hp
      rw [State.complete, take_add_one, take_set_of_le (Nat.le_refl i), attached_append]
      exact mem_append_left _ hp
    · intro j m f callback hij hj
      refine ⟨?_, ?_⟩
      · simp only [State.complete]
        rw [getElem?_set_ne (by omega), hj]
      · simp only [State.complete, Function.update_apply]
        rw [if_neg]
        rintro rfl
        have hmem : (m, call.fence) ∈ attached (s.queue.inFlightSubmits.drop (i + 1)) :=
          mem_attached.mpr ⟨_, mem_of_getElem? (i := j - (i + 1)) (by
            rw [getElem?_drop, show i + 1 + (j - (i + 1)) = j by omega, hj]), rfl, rfl⟩
        have hnodup := (nodup_append.mp hc.fences_nodup).1
        rw [attached_split hentry, map_append, map_cons] at hnodup
        exact (nodup_cons.mp (nodup_append.mp hnodup).2.1).1 (mem_map.mpr ⟨_, hmem, rfl⟩)
  · refine ⟨{ s with flushing := some (i + 1) }, ?_, rfl, htake, ?_⟩
    · simp [State.step, State.flushNext, hflushing, hentry, hs]
    · intro j m f callback _ hj
      exact ⟨hj, rfl⟩

/-- If an entry is signalled while one that `Flush` has passed is in flight, then `Flush` completes
the later one first. -/
theorem Consistent.completes_late (hc : Consistent s) {i k n : Nat} {f : Fence}
    {callback : Option κ} {p : Nat × Fence} (hflushing : s.flushing = some i)
    (hp : p ∈ attached (s.queue.inFlightSubmits.take i))
    (hentry : s.queue.inFlightSubmits[i + k]? = some ⟨some f, callback, n⟩)
    (hsignalled : s.signalled f = true) :
    ∃ u, exec State.step s (replicate (k + 1) .flushNext) = some u ∧ ¬ OrderKept u := by
  have hlt := (List.getElem?_eq_some_iff.mp hentry).1
  obtain ⟨t, ht, htflushing, htpassed, htframe⟩ := hc.flushNext_frame hflushing (by omega)
  have hct : Consistent t := hc.step ht
  induction k generalizing s i t with
  | zero =>
    refine ⟨t, by simp [exec_cons, ht], fun hkept => ?_⟩
    rw [Nat.add_zero] at hentry
    have hpn : p.1 < n := (hc.lt_of_split hentry).1 p hp
    have hattached : p ∈ attached t.queue.inFlightSubmits :=
      ((take_sublist _ _).filterMap _).subset (htpassed p hp)
    have hn : n ∈ t.ran.map Prod.fst := by
      cases step_of_eq_some hc ht with
      | complete hflushing' hentry' =>
        obtain rfl := Option.some.inj (hflushing'.symm.trans hflushing)
        rw [hentry] at hentry'
        cases hentry'
        simp [State.complete]
      | skip hflushing' hentry' hunsignalled =>
        obtain rfl := Option.some.inj (hflushing'.symm.trans hflushing)
        rw [hentry] at hentry'
        cases hentry'
        rw [hsignalled] at hunsignalled
        exact absurd hunsignalled (by simp)
    have hran := hkept n hn p.1 hpn
    have hnodup := hct.accounted.nodup_iff.mpr nodup_range
    exact (nodup_append.mp hnodup).2.2 p.1 hran p.1 (mem_map_of_mem hattached) rfl
  | succ k ih =>
    obtain ⟨hentry', hs'⟩ := htframe _ _ _ _ (by omega) hentry
    rw [show i + (k + 1) = (i + 1) + k by omega] at hentry'
    have hlt' := (List.getElem?_eq_some_iff.mp hentry').1
    obtain ⟨t', ht', hrest⟩ := hct.flushNext_frame htflushing (by omega)
    obtain ⟨u, hu, hbroken⟩ := ih hct htflushing (htpassed p hp) hentry' (hs'.trans hsignalled)
      hlt' t' ht' hrest.1 hrest.2.1 hrest.2.2 (hct.step ht')
    exact ⟨u, by rw [replicate_succ, exec_cons, ht]; exact hu, hbroken⟩

theorem Consistent.late_signal (hc : Consistent s) {n : Nat} (h : s.step (.signal n) = some t)
    (hlate : ¬ NoLateSignal s (.signal n)) :
    ∃ k u, exec State.step t (replicate k .flushNext) = some u ∧ ¬ OrderKept u := by
  have hct := hc.step h
  cases step_of_eq_some hc h with
  | @signal _ f hpending =>
    simp only [NoLateSignal, not_forall, not_or, not_not] at hlate
    obtain ⟨i, hflushing, hne, hmem⟩ := hlate
    obtain ⟨p, hp⟩ := exists_mem_of_ne_nil _ hne
    obtain ⟨⟨_, g⟩, hg, rfl⟩ := mem_map.mp hmem
    obtain ⟨e, he, hfence, hsubmission⟩ := mem_attached.mp hg
    obtain ⟨k, hk⟩ := List.mem_iff_getElem?.mp he
    rw [getElem?_drop] at hk
    have hattached := ((hc.pending_iff _).mp hpending).1
    have hgf : g = f := by
      have hids : ((attached s.queue.inFlightSubmits).map Prod.fst).Nodup :=
        (nodup_append.mp (hc.accounted.nodup_iff.mpr nodup_range)).2.1
      have hmem' : (_, g) ∈ attached s.queue.inFlightSubmits :=
        ((drop_sublist i _).filterMap _).subset hg
      exact congrArg Prod.snd (inj_on_of_nodup_map hids hmem' hattached rfl)
    subst hgf
    obtain ⟨_, callback, _⟩ := e
    obtain rfl := hfence
    obtain ⟨u, hu⟩ := hct.completes_late (k := k) hflushing hp hk
      (Function.update_self ..)
    exact ⟨k + 1, u, hu⟩

/-! ### Completion in order -/

/-- **Completions are observed in submission order, when no signal is late.** In a run in which the
GPU signals in submission order and never behind a running `Flush` that has left an earlier
submission in flight, the callbacks of all earlier submissions have run whenever a callback has. A
signal that is late leads, after some more rounds of that `Flush`, to a state where this is not
so. -/
theorem completes_in_order {as : List (Action χ κ)} (hrun : exec State.step {} as = some s) :
    (Each State.step InOrder {} as → Each State.step NoLateSignal {} as →
      Always State.step OrderKept {} as) ∧
    ∀ n t, s.step (.signal n) = some t → ¬ NoLateSignal s (.signal n) →
      ∃ k u, exec State.step t (replicate k .flushNext) = some u ∧ ¬ OrderKept u := by
  refine ⟨fun hin hlate => ?_, fun n t h hlate =>
    (Consistent.of_reachable ⟨as, hrun⟩).late_signal h hlate⟩
  refine always_of_each (I := fun s => Consistent s ∧ Orderly s)
    (C := fun s a => InOrder s a ∧ NoLateSignal s a) ?_ (fun s hI => hI.2.kept)
    ⟨consistent_init, orderly_init⟩ (hin.and hlate) hrun
  rintro s a t ⟨hc, ho⟩ ⟨hin, hlate⟩ h
  exact ⟨hc.step h, ho.step hc hin hlate h⟩

/-- Three submissions. `Flush` completes the first, finds the second one's fence unsignalled, and
then the GPU finishes both before `Flush` polls the third. -/
def overtakingRun : List (Action Nat Nat) :=
  [.submit 7 [10] 20, .submit 8 [11] 21, .submit 9 [12] 22, .signal 0, .flushBegin, .flushNext,
    .flushNext, .signal 1, .signal 2, .flushNext]

theorem completion_overtakes :
    ¬ ∀ (as : List (Action Nat Nat)) (s : State Nat Nat), exec State.step {} as = some s →
      Each State.step InOrder {} as → OrderKept s := by
  intro hall
  have hkept := hall overtakingRun _ rfl (by decide)
  revert hkept
  decide

/-- The second of two submissions is signalled between the rounds of `Flush`. -/
theorem completes_in_order_signalInFlush :
    Always State.step OrderKept {} ([.submit 7 [10] 20, .submit 8 [11] 21, .signal 0, .flushBegin,
      .flushNext, .signal 1, .flushNext, .flushEnd] : List (Action Nat Nat)) :=
  (completes_in_order rfl).1 (by decide) (by decide)

end Teide.Queue
