import Mathlib.Tactic.Common
import Mathlib.Data.List.Basic
import Mathlib.Data.List.Perm.Basic
import Mathlib.Data.List.Nodup
import Teide.Queue.Basic

/-!
# What every run of the queue keeps

`attached` determines most of the state: a submission is either attached to its fence or its
callback has run (`Consistent.accounted`), and the submissions the GPU still has to finish are the
attached ones whose fence is not signalled (`Consistent.pending_iff`). `Step` lists what an action
does to the state, and `Consistent.step` goes through its cases.
-/

namespace Teide.Queue

open List Runs

variable {χ κ : Type*}

/-! ### Attached submissions -/

@[simp] theorem attached_nil : attached ([] : List (InFlightSubmit κ)) = [] := rfl

@[simp] theorem attached_append {l l' : List (InFlightSubmit κ)} :
    attached (l ++ l') = attached l ++ attached l' := filterMap_append

@[simp] theorem attached_singleton {f : Fence} {callback : Option κ} {n : Nat} :
    attached [⟨some f, callback, n⟩] = [(n, f)] := rfl

theorem mem_attached {entries : List (InFlightSubmit κ)} {n : Nat} {f : Fence} :
    (n, f) ∈ attached entries ↔ ∃ e ∈ entries, e.fence = some f ∧ e.submission = n := by
  simp only [attached, mem_filterMap, Option.map_eq_some_iff, Prod.mk.injEq]
  constructor
  · rintro ⟨e, he, g, hg, hn, rfl⟩
    exact ⟨e, he, hg, hn⟩
  · rintro ⟨e, he, hf, hn⟩
    exact ⟨e, he, f, hf, hn, rfl⟩

theorem getInFlightFences_eq (q : Queue κ) :
    q.getInFlightFences = (attached q.inFlightSubmits).map Prod.snd := by
  rw [getInFlightFences, attached, map_filterMap]
  congr 1
  funext e
  cases e.fence <;> rfl

/-- The attached submissions, split at an entry that has not been done. -/
theorem attached_split {entries : List (InFlightSubmit κ)} {i n : Nat} {f : Fence}
    {callback : Option κ} (hi : entries[i]? = some ⟨some f, callback, n⟩) :
    attached entries =
      attached (entries.take i) ++ (n, f) :: attached (entries.drop (i + 1)) := by
  obtain ⟨hlt, he⟩ := List.getElem?_eq_some_iff.mp hi
  conv_lhs => rw [← take_append_drop i entries, drop_eq_getElem_cons hlt, he]
  rw [attached_append]
  rfl

/-- An entry that is marked as done is no longer attached. -/
theorem attached_set_done {entries : List (InFlightSubmit κ)} {i n : Nat} (hlt : i < entries.length) :
    attached (entries.set i ⟨none, none, n⟩) =
      attached (entries.take i) ++ attached (entries.drop (i + 1)) := by
  rw [set_eq_take_append_cons_drop, if_pos hlt, attached_append]
  rfl

/-- Removing the entries that are done detaches nothing. -/
theorem attached_filter_done (entries : List (InFlightSubmit κ)) :
    attached (entries.filter (·.fence.isSome)) = attached entries := by
  rw [attached, filterMap_filter]
  apply filterMap_congr
  rintro ⟨_ | f, callback, n⟩ - <;> rfl

/-! ### The cases of a step -/

namespace State

/-- The state after a submission with the given fence, which leaves `unused` as free fences. -/
def enqueue (s : State χ κ) (fence : Fence) (unused : List Fence) (commands : List χ)
    (callback : κ) : State χ κ :=
  { s with
    signalled := Function.update s.signalled fence false
    pending := s.pending ++ [(s.submits.length, fence)]
    submits := s.submits ++ [⟨commands, fence, callback⟩]
    queue :=
      { unusedSubmitFences := unused
        inFlightSubmits := s.queue.inFlightSubmits ++
          [⟨some fence, some callback, s.submits.length⟩] } }

/-- What has been submitted stays submitted. -/
theorem enqueue_submits {s : State χ κ} {fence : Fence} {unused : List Fence} {commands : List χ}
    {callback : κ} {n : Nat} {call : SubmitCall χ κ} (h : s.submits[n]? = some call) :
    (s.enqueue fence unused commands callback).submits[n]? = some call :=
  (getElem?_append_left (List.getElem?_eq_some_iff.mp h).1).trans h

end State

structure Consistent (s : State χ κ) : Prop where
  fences_nodup : ((attached s.queue.inFlightSubmits).map Prod.snd ++
    s.queue.unusedSubmitFences).Nodup
  unused_unsignalled : ∀ f ∈ s.queue.unusedSubmitFences, s.signalled f = false
  /-- the GPU has yet to finish the attached submissions whose fence is not signalled -/
  pending_iff : ∀ p, p ∈ s.pending ↔
    p ∈ attached s.queue.inFlightSubmits ∧ s.signalled p.2 = false
  pending_nodup : s.pending.Nodup
  /-- every submission is in flight or its callback has run, and not both -/
  accounted : (s.ran.map Prod.fst ++ (attached s.queue.inFlightSubmits).map Prod.fst) ~
    range s.submits.length
  attached_sorted : (attached s.queue.inFlightSubmits).Pairwise (·.1 < ·.1)
  /-- an entry that is not done holds what was submitted -/
  entries : ∀ e ∈ s.queue.inFlightSubmits, e.fence.isSome → ∃ call,
    s.submits[e.submission]? = some call ∧ e.fence = some call.fence ∧
      e.callback = some call.callback
  finished_of_signalled : ∀ p ∈ attached s.queue.inFlightSubmits,
    s.signalled p.2 = true → p ∈ s.finished
  ran_finished : ∀ p ∈ s.ran, ∃ call, s.submits[p.1]? = some call ∧ p.2 = call.callback ∧
    (p.1, call.fence) ∈ s.finished
  flushing_le : ∀ i, s.flushing = some i → i ≤ s.queue.inFlightSubmits.length
  /-- only entries that a running `Flush` has passed can be done -/
  not_done : ∀ e ∈ s.queue.inFlightSubmits.drop (s.flushing.getD 0), e.fence.isSome

/-- What the actions do to a state, and when. -/
inductive Step (s : State χ κ) : Action χ κ → State χ κ → Prop where
  | submit {newFence fence : Fence} {unused : List Fence} (commands : List χ) (callback : κ)
      (hidle : s.flushing = none)
      (hnodup : ((attached s.queue.inFlightSubmits).map Prod.snd ++ fence :: unused).Nodup)
      (hunused : ∀ f ∈ unused, f ∈ s.queue.unusedSubmitFences) :
      Step s (.submit newFence commands callback) (s.enqueue fence unused commands callback)
  | flushBegin (hidle : s.flushing = none) : Step s .flushBegin { s with flushing := some 0 }
  | complete {i n : Nat} {f : Fence} {callback : κ} (hflushing : s.flushing = some i)
      (hentry : s.queue.inFlightSubmits[i]? = some ⟨some f, some callback, n⟩)
      (hsignalled : s.signalled f = true) : Step s .flushNext (s.complete i n f callback)
  | skip {i n : Nat} {f : Fence} {callback : Option κ} (hflushing : s.flushing = some i)
      (hentry : s.queue.inFlightSubmits[i]? = some ⟨some f, callback, n⟩)
      (hsignalled : s.signalled f = false) : Step s .flushNext { s with flushing := some (i + 1) }
  | flushEnd (hflushing : s.flushing = some s.queue.inFlightSubmits.length) :
      Step s .flushEnd s.flushEnd
  | signal {n : Nat} {f : Fence} (hpending : (n, f) ∈ s.pending) :
      Step s (.signal n) (s.signal (n, f))
  | waitBegin (hidle : s.flushing = none) (hnone : attached s.queue.inFlightSubmits = []) :
      Step s .waitBegin s
  | waitBlock (hidle : s.flushing = none) :
      Step s .waitBegin { s with waiters := s.waiters ++ [attached s.queue.inFlightSubmits] }
  | waitDone {i : Nat} {snapshot : List (Nat × Fence)} (hi : s.waiters[i]? = some snapshot)
      (hall : ∀ p ∈ snapshot, s.signalled p.2 = true) :
      Step s (.waitDone i) { s with waiters := s.waiters.eraseIdx i }
  | waitTimeout {i : Nat} (hi : i < s.waiters.length) :
      Step s (.waitTimeout i) { s with waiters := s.waiters.eraseIdx i }

variable {s t : State χ κ} {a : Action χ κ}

theorem submit_eq_enqueue (hc : Consistent s) {newFence : Fence} (commands : List χ) (callback : κ)
    (hnew : s.queue.unusedSubmitFences = [] → newFence ∉ s.queue.getInFlightFences) :
    ∃ fence unused, s.submit newFence commands callback = s.enqueue fence unused commands callback ∧
      ((attached s.queue.inFlightSubmits).map Prod.snd ++ fence :: unused).Nodup ∧
      ∀ f ∈ unused, f ∈ s.queue.unusedSubmitFences := by
  have hnodup := hc.fences_nodup
  cases hunused : s.queue.unusedSubmitFences with
  | nil =>
    refine ⟨newFence, [], ?_, ?_, ?_⟩
    · simp [State.submit, State.enqueue, State.createFence, getFence, hunused]
    · rw [hunused, append_nil] at hnodup
      rw [nodup_append]
      refine ⟨hnodup, by simp, ?_⟩
      rintro f hf g hg rfl
      rw [getInFlightFences_eq] at hnew
      exact hnew hunused (mem_singleton.mp hg ▸ hf)
    · simp
  | cons fence rest =>
    refine ⟨fence, rest, ?_, hunused ▸ hnodup, fun f hf => mem_cons_of_mem _ hf⟩
    have hfence : s.signalled fence = false := hc.unused_unsignalled fence (by simp [hunused])
    simp only [State.submit, State.enqueue, State.createFence, getFence, hunused, reduceCtorEq,
      if_false]
    rw [← hfence, Function.update_eq_self]

theorem step_of_eq_some (hc : Consistent s) (h : s.step a = some t) : Step s a t := by
  cases a with
  | submit newFence commands callback =>
    simp only [State.step] at h
    split_ifs at h with hguard
    obtain ⟨fence, unused, heq, hnodup, hunused⟩ :=
      submit_eq_enqueue hc commands callback hguard.2
    rw [← Option.some.inj h, heq]
    exact .submit commands callback hguard.1 hnodup hunused
  | flushBegin =>
    simp only [State.step] at h
    split_ifs at h with hidle
    exact Option.some.inj h ▸ .flushBegin hidle
  | flushNext =>
    obtain ⟨i, hi, h⟩ := Option.bind_eq_some_iff.mp h
    simp only [State.flushNext] at h
    split at h
    · rename_i f callback n hentry
      split_ifs at h with hsignalled
      · obtain ⟨callback, rfl, rfl⟩ := Option.map_eq_some_iff.mp h
        exact .complete hi hentry hsignalled
      · exact Option.some.inj h ▸ .skip hi hentry (by simpa using hsignalled)
    · simp at h
  | flushEnd =>
    simp only [State.step] at h
    split_ifs at h with hflushing
    exact Option.some.inj h ▸ .flushEnd hflushing
  | signal n =>
    obtain ⟨⟨m, f⟩, hfind, rfl⟩ := Option.map_eq_some_iff.mp h
    have hn : m = n := by simpa using find?_some hfind
    subst hn
    exact .signal (mem_of_find?_eq_some hfind)
  | waitBegin =>
    simp only [State.step] at h
    split_ifs at h with hidle hnone
    · exact Option.some.inj h ▸ .waitBegin hidle (isEmpty_iff.mp hnone)
    · exact Option.some.inj h ▸ .waitBlock hidle
  | waitDone i =>
    simp only [State.step] at h
    split at h
    · rename_i snapshot hi
      split_ifs at h with hall
      exact Option.some.inj h ▸ .waitDone hi hall
    · simp at h
  | waitTimeout i =>
    simp only [State.step] at h
    split_ifs at h with hi
    exact Option.some.inj h ▸ .waitTimeout hi

/-! ### Preservation -/

theorem Consistent.submission_lt (hc : Consistent s) {p : Nat × Fence}
    (hp : p ∈ attached s.queue.inFlightSubmits) : p.1 < s.submits.length := by
  have hmem : p.1 ∈ s.ran.map Prod.fst ++ (attached s.queue.inFlightSubmits).map Prod.fst :=
    mem_append_right _ (mem_map_of_mem hp)
  exact mem_range.mp (hc.accounted.subset hmem)

theorem consistent_init : Consistent ({} : State χ κ) := by
  constructor <;> simp

theorem Consistent.enqueue (hc : Consistent s) {fence : Fence} {unused : List Fence}
    {commands : List χ} {callback : κ} (hidle : s.flushing = none)
    (hnodup : ((attached s.queue.inFlightSubmits).map Prod.snd ++ fence :: unused).Nodup)
    (hunused : ∀ f ∈ unused, f ∈ s.queue.unusedSubmitFences) :
    Consistent (s.enqueue fence unused commands callback) := by
  have hfresh : ∀ p ∈ attached s.queue.inFlightSubmits, p.2 ≠ fence := by
    rintro p hp rfl
    exact (nodup_append.mp hnodup).2.2 p.2 (mem_map_of_mem hp) p.2 mem_cons_self rfl
  have hnew : (s.submits.length, fence) ∉ s.pending := fun hp =>
    Nat.lt_irrefl _ (hc.submission_lt ((hc.pending_iff _).mp hp).1)
  constructor
  · simpa [State.enqueue] using hnodup
  · intro f hf
    simp only [State.enqueue, Function.update_apply]
    split_ifs
    · rfl
    · exact hc.unused_unsignalled f (hunused f hf)
  · intro p
    simp only [State.enqueue, mem_append, mem_singleton, attached_append, attached_singleton,
      Function.update_apply, hc.pending_iff]
    constructor
    · rintro (⟨hp, hs⟩ | rfl)
      · exact ⟨.inl hp, by rw [if_neg (hfresh p hp), hs]⟩
      · exact ⟨.inr rfl, by simp⟩
    · rintro ⟨hp | rfl, hs⟩
      · rw [if_neg (hfresh p hp)] at hs
        exact .inl ⟨hp, hs⟩
      · exact .inr rfl
  · exact nodup_append.mpr ⟨hc.pending_nodup, by simp, by
      rintro p hp q hq rfl
      exact hnew (mem_singleton.mp hq ▸ hp)⟩
  · simp only [State.enqueue, attached_append, attached_singleton, map_append, map_cons, map_nil,
      length_append, length_cons, length_nil, range_succ, ← append_assoc]
    exact hc.accounted.append_right _
  · simp only [State.enqueue, attached_append, attached_singleton]
    refine pairwise_append.mpr ⟨hc.attached_sorted, by simp, ?_⟩
    intro p hp q hq
    rw [mem_singleton.mp hq]
    exact hc.submission_lt hp
  · intro e he hsome
    rcases mem_append.mp he with he | he
    · obtain ⟨call, hcall, hfence, hcallback⟩ := hc.entries e he hsome
      exact ⟨call, State.enqueue_submits hcall, hfence, hcallback⟩
    · rw [mem_singleton.mp he]
      exact ⟨⟨commands, fence, callback⟩, by simp [State.enqueue], rfl, rfl⟩
  · intro p hp hs
    simp only [State.enqueue, attached_append, attached_singleton, mem_append, mem_singleton,
      Function.update_apply] at hp hs
    split_ifs at hs with heq
    rcases hp with hp | rfl
    · exact hc.finished_of_signalled p hp hs
    · exact absurd rfl heq
  · intro p hp
    obtain ⟨call, hcall, hcallback, hfinished⟩ := hc.ran_finished p hp
    exact ⟨call, State.enqueue_submits hcall, hcallback, hfinished⟩
  · intro i hi
    simp [State.enqueue, hidle] at hi
  · intro e he
    have hall := hc.not_done
    simp only [State.enqueue, hidle, Option.getD_none, drop_zero, mem_append,
      mem_singleton] at he hall
    rcases he with he | rfl
    · exact hall e he
    · rfl

/-- Moving `Flush` on past an entry that is not done, without touching anything else. -/
theorem Consistent.advance (hc : Consistent s) {i : Nat} (hi : i ≤ s.queue.inFlightSubmits.length)
    (hle : s.flushing.getD 0 ≤ i) : Consistent { s with flushing := some i } :=
  { hc with
    flushing_le := by
      intro j hj
      exact Option.some.inj hj ▸ hi
    not_done := by
      intro e he
      exact hc.not_done e (drop_subset_drop_left _ hle he) }

theorem Consistent.complete (hc : Consistent s) {i n : Nat} {f : Fence} {callback : κ}
    (hflushing : s.flushing = some i)
    (hentry : s.queue.inFlightSubmits[i]? = some ⟨some f, some callback, n⟩)
    (hsignalled : s.signalled f = true) : Consistent (s.complete i n f callback) := by
  obtain ⟨hlt, he⟩ := List.getElem?_eq_some_iff.mp hentry
  have hsplit := attached_split hentry
  have hdone : attached (s.complete i n f callback).queue.inFlightSubmits =
      attached (s.queue.inFlightSubmits.take i) ++
        attached (s.queue.inFlightSubmits.drop (i + 1)) := attached_set_done hlt
  have hperm : attached s.queue.inFlightSubmits ~
      (n, f) :: attached (s.complete i n f callback).queue.inFlightSubmits := by
    rw [hsplit, hdone]
    exact perm_middle
  have hmem : (n, f) ∈ attached s.queue.inFlightSubmits := hperm.symm.subset mem_cons_self
  have hsub : ∀ p ∈ attached (s.complete i n f callback).queue.inFlightSubmits,
      p ∈ attached s.queue.inFlightSubmits := fun p hp => hperm.symm.subset (mem_cons_of_mem _ hp)
  have hfences : (f :: ((attached (s.complete i n f callback).queue.inFlightSubmits).map Prod.snd ++
      s.queue.unusedSubmitFences)).Nodup :=
    ((hperm.map Prod.snd).append_right s.queue.unusedSubmitFences).nodup_iff.mp hc.fences_nodup
  -- the fence of the entry belongs to no other submission in flight
  have hother : ∀ p ∈ attached (s.complete i n f callback).queue.inFlightSubmits, p.2 ≠ f := by
    rintro p hp rfl
    exact (nodup_cons.mp hfences).1 (mem_append_left _ (mem_map_of_mem hp))
  constructor
  · simp only [State.complete, ← append_assoc]
    exact (perm_append_singleton f _).nodup_iff.mpr hfences
  · intro g hg
    simp only [State.complete, Function.update_apply, mem_append, mem_singleton] at hg ⊢
    split_ifs with heq
    · rfl
    · exact hc.unused_unsignalled g (hg.resolve_right heq)
  · intro p
    rw [show (s.complete i n f callback).pending = s.pending from rfl, hc.pending_iff]
    simp only [State.complete, Function.update_apply]
    constructor
    · rintro ⟨hp, hs⟩
      rcases mem_cons.mp (hperm.subset hp) with rfl | hp
      · rw [hsignalled] at hs
        exact absurd hs (by simp)
      · exact ⟨hp, by rw [if_neg (hother p hp), hs]⟩
    · rintro ⟨hp, hs⟩
      rw [if_neg (hother p hp)] at hs
      exact ⟨hsub p hp, hs⟩
  · exact hc.pending_nodup
  · refine Perm.trans ?_ hc.accounted
    simp only [State.complete, map_append, map_cons, map_nil, append_assoc, singleton_append]
    exact ((hperm.map Prod.fst).symm.append_left _)
  · rw [hdone]
    have hsorted := hc.attached_sorted
    rw [hsplit] at hsorted
    exact hsorted.sublist ((sublist_cons_self _ _).append_left _)
  · intro e hmem' hsome
    rcases mem_or_eq_of_mem_set hmem' with he' | rfl
    · exact hc.entries e he' hsome
    · exact absurd hsome (by simp)
  · intro p hp hs
    simp only [State.complete, Function.update_apply] at hs
    rw [if_neg (hother p hp)] at hs
    exact hc.finished_of_signalled p (hsub p hp) hs
  · intro p hp
    simp only [State.complete, mem_append, mem_singleton] at hp
    rcases hp with hp | rfl
    · exact hc.ran_finished p hp
    · obtain ⟨call, hcall, hfence, hcallback⟩ := hc.entries _ (he ▸ getElem_mem hlt) rfl
      refine ⟨call, hcall, Option.some.inj hcallback, ?_⟩
      rw [← Option.some.inj hfence]
      exact hc.finished_of_signalled _ hmem hsignalled
  · intro j hj
    simp only [State.complete, length_set, Option.some.injEq] at hj ⊢
    omega
  · intro e hmem'
    simp only [State.complete, Option.getD_some] at hmem'
    rw [drop_set_of_lt (Nat.lt_succ_self i)] at hmem'
    refine hc.not_done e (drop_subset_drop_left _ ?_ hmem')
    simp [hflushing]

theorem Consistent.flushEnd (hc : Consistent s) : Consistent s.flushEnd := by
  have hattached : attached s.flushEnd.queue.inFlightSubmits =
      attached s.queue.inFlightSubmits := attached_filter_done _
  constructor
  · rw [hattached]
    exact hc.fences_nodup
  · exact hc.unused_unsignalled
  · rw [hattached]
    exact hc.pending_iff
  · exact hc.pending_nodup
  · rw [hattached]
    exact hc.accounted
  · rw [hattached]
    exact hc.attached_sorted
  · intro e he
    exact hc.entries e (mem_of_mem_filter he)
  · rw [hattached]
    exact hc.finished_of_signalled
  · exact hc.ran_finished
  · simp [State.flushEnd]
  · intro e he
    exact (mem_filter.mp he).2

theorem Consistent.signal (hc : Consistent s) {n : Nat} {f : Fence} (hpending : (n, f) ∈ s.pending) :
    Consistent (s.signal (n, f)) := by
  have hattached : (n, f) ∈ attached s.queue.inFlightSubmits :=
    ((hc.pending_iff _).mp hpending).1
  obtain ⟨hnodup, -, hdisjoint⟩ := nodup_append.mp hc.fences_nodup
  -- two submissions in flight with the same fence are the same
  have hinj : ∀ p ∈ attached s.queue.inFlightSubmits, p.2 = f → p = (n, f) := fun p hp heq =>
    inj_on_of_nodup_map hnodup hp hattached heq
  refine { hc with
    unused_unsignalled := ?_
    pending_iff := ?_
    pending_nodup := hc.pending_nodup.erase _
    finished_of_signalled := ?_
    ran_finished := ?_ }
  · intro g hg
    simp only [State.signal, Function.update_apply]
    rw [if_neg, hc.unused_unsignalled g hg]
    rintro rfl
    exact hdisjoint g (mem_map_of_mem hattached) g hg rfl
  · intro p
    simp only [State.signal, hc.pending_nodup.mem_erase_iff, hc.pending_iff,
      Function.update_apply]
    constructor
    · rintro ⟨hne, hp, hs⟩
      exact ⟨hp, by rw [if_neg fun heq => hne (hinj p hp heq), hs]⟩
    · rintro ⟨hp, hs⟩
      split_ifs at hs with heq
      exact ⟨fun h => heq (h ▸ rfl), hp, hs⟩
  · intro p hp hs
    simp only [State.signal, Function.update_apply, mem_append, mem_singleton] at hs ⊢
    split_ifs at hs with heq
    · exact .inr (hinj p hp heq)
    · exact .inl (hc.finished_of_signalled p hp hs)
  · intro p hp
    obtain ⟨call, hcall, hcallback, hfinished⟩ := hc.ran_finished p hp
    exact ⟨call, hcall, hcallback, mem_append_left _ hfinished⟩

theorem Consistent.of_step (hc : Consistent s) (hstep : Step s a t) : Consistent t := by
  cases hstep with
  | submit commands callback hidle hnodup hunused => exact hc.enqueue hidle hnodup hunused
  | flushBegin hidle => exact hc.advance (Nat.zero_le _) (by simp [hidle])
  | complete hflushing hentry hsignalled => exact hc.complete hflushing hentry hsignalled
  | skip hflushing hentry =>
    exact hc.advance (List.getElem?_eq_some_iff.mp hentry).1 (by simp [hflushing])
  | flushEnd => exact hc.flushEnd
  | signal hpending => exact hc.signal hpending
  | waitBegin => exact hc
  | waitBlock | waitDone | waitTimeout => exact { hc with }

theorem Consistent.step (hc : Consistent s) (h : s.step a = some t) : Consistent t :=
  hc.of_step (step_of_eq_some hc h)

theorem Consistent.of_reachable (hr : Reachable State.step {} s) : Consistent s :=
  hr.invariant (fun _ _ _ hc h => hc.step h) consistent_init

end Teide.Queue
