import Mathlib.Data.List.Flatten
import Mathlib.Data.List.Perm.Subperm
import Mathlib.Tactic.Common
import Teide.GpuExecutor.Handlers
import Teide.GpuExecutor.Order
import Teide.Queue.Completion
import Teide.Queue.Progress

/-!
# From a slot to the GPU and back

The executor owns the queue it submits to: `SubmitCommandBuffer` passes each bundle to `Queue::Submit`,
with a callback that calls the handlers of the bundle one after the other. `Pipeline` is the two
together, and a run interleaves the calls of the worker threads with what the GPU, the scheduler
thread and the waiting threads do on the queue.

Nothing is lost on the way (`handlers_conserved`), everything that has been handed over can be
completed (`handlers_completable`), and whether a handler can be called before the GPU has executed
the command buffer of its slot depends on the order in which the slots are filled
(`never_early_iff`).
-/

namespace Teide.GpuExecutor

open Runs
open scoped List

variable {χ φ : Type*}

structure Pipeline (χ φ : Type*) where
  history : History χ φ := {}
  queue : Queue.State χ (List φ) := {}

namespace Pipeline

inductive Action (χ φ : Type*) where
  | addCommandBufferSlot
  /-- with the handle that `vkCreateFence` would return, should it be called -/
  | submitCommandBuffer (index : UInt32) (commandBuffer : χ) (func : Option φ) (newFence : Fence)
  | queue (a : Queue.Action χ (List φ))

/-- The calls of the executor, as it sees them. -/
def Action.call : Action χ φ → Option (Call χ φ)
  | .addCommandBufferSlot => some .addCommandBufferSlot
  | .submitCommandBuffer index commandBuffer func _ =>
    some (.submitCommandBuffer index commandBuffer func)
  | .queue _ => none

/-- What of the submissions after a call is passed to the queue: the last one, if it is new. -/
def submitNew (s : Pipeline χ φ) (newFence : Fence) (history : History χ φ) :
    Option (Pipeline χ φ) :=
  match history.submissions.drop s.history.submissions.length with
  | [] => some { s with history := history }
  | sub :: _ =>
    (s.queue.step (.submit newFence sub.commandBuffers sub.callbacks)).map
      fun queue => { history := history, queue := queue }

/-- Only the executor calls `Submit`. It has to wait for a `Flush` that is running. -/
def step (movedFrom : φ → Option φ) (s : Pipeline χ φ) : Action χ φ → Option (Pipeline χ φ)
  | .addCommandBufferSlot =>
    (s.history.step movedFrom .addCommandBufferSlot).map fun history => { s with history := history }
  | .submitCommandBuffer index commandBuffer func newFence =>
    (s.history.step movedFrom (.submitCommandBuffer index commandBuffer func)).bind
      (s.submitNew newFence)
  | .queue (.submit ..) => none
  | .queue a => (s.queue.step a).map fun queue => { s with queue := queue }

/-- The handlers that have been called, in order. -/
def called (s : Pipeline χ φ) : List φ := s.queue.ran.flatMap Prod.snd

/-- The handlers in the callbacks of the submissions in flight. -/
def inFlight (s : Pipeline χ φ) : List φ := s.queue.inFlight.flatten

/-- The handlers that are still in the executor. -/
def stored (s : Pipeline χ φ) : List φ := s.history.executor.completionHandlers.reduceOption

end Pipeline

/-- The handlers given to the slots whose command buffers are in a submission. -/
def Submission.handlers (sub : Submission χ φ) (given : List (Option (Filling χ φ))) : List φ :=
  ((sub.slots given).map (·.bind Prod.snd)).reduceOption

/-- The handlers given to the slots of the `n`-th submission. -/
def History.slotHandlers (h : History χ φ) (n : Nat) : List φ :=
  (h.submissions[n]?).elim [] (·.handlers h.given)

namespace Pipeline

/-- The handlers given to the slots whose command buffers the GPU has executed. -/
def executed (s : Pipeline χ φ) : List φ :=
  (s.queue.finished.map Prod.fst).flatMap s.history.slotHandlers

/-- The actions of the GPU and of `Flush`. -/
def Action.OwnProgress : Action χ φ → Prop
  | .queue a => a.OwnProgress
  | .addCommandBufferSlot | .submitCommandBuffer .. => False

/-- `t` is reached from `s` by the GPU and `Flush` alone. -/
def Progress (movedFrom : φ → Option φ) (s t : Pipeline χ φ) : Prop :=
  ∃ as : List (Action χ φ), (∀ a ∈ as, a.OwnProgress) ∧ exec (step movedFrom) s as = some t

/-- Each handler that has been called is that of a slot whose command buffer has been executed. -/
def NotEarly (s : Pipeline χ φ) : Prop := s.called <+~ s.executed

/-- ... and so it stays as long as no other slot is filled. -/
def NeverEarly (movedFrom : φ → Option φ) (s : Pipeline χ φ) : Prop :=
  ∀ t, Progress movedFrom s t → t.NotEarly

/-- If the action fills the first unsubmitted slot, no slot behind the next empty one has a handler. -/
def NoHandlerBehindGap (s : Pipeline χ φ) (a : Action χ φ) : Prop :=
  ∀ c ∈ a.call, s.history.NoHandlerBehindGap c

instance [DecidableEq χ] [DecidableEq φ] (s : Pipeline χ φ) (a : Action χ φ) :
    Decidable (s.NoHandlerBehindGap a) :=
  match h : a.call with
  | none => .isTrue (by simp [NoHandlerBehindGap, h])
  | some c => decidable_of_iff (s.history.NoHandlerBehindGap c) (by simp [NoHandlerBehindGap, h])

/-- Three slots: the first one is filled, executed and reported, then the last one is filled. -/
def firstReported : List (Action Nat Nat) :=
  [.addCommandBufferSlot, .addCommandBufferSlot, .addCommandBufferSlot,
    .submitCommandBuffer 0 10 (some 20) 7, .queue .flushBegin, .queue (.signal 0), .queue .flushNext,
    .queue .flushEnd, .submitCommandBuffer 2 12 (some 22) 8]

variable {movedFrom : φ → Option φ} {s t : Pipeline χ φ} {a : Action χ φ}

/-! ### The two components -/

/-- The queue has been given the submissions of the executor, one by one. -/
structure Linked (s : Pipeline χ φ) : Prop where
  history : s.history.Consistent
  queue : Queue.Consistent s.queue
  finished : Queue.FinishedOnce s.queue
  commands : s.queue.submits.map (·.commands) = s.history.submissions.map (·.commandBuffers)
  callbacks : s.queue.submits.map (·.callback) = s.history.submissions.map (·.callbacks)

/-- What a step does: a call that submits nothing, a call that submits a bundle, or an action on the
queue. -/
theorem step_cases (hs : s.Linked) (hstep : s.step movedFrom a = some t) :
    (∃ c, a.call = some c ∧ s.history.step movedFrom c = some t.history ∧
      t.history.submissions = s.history.submissions ∧ t.queue = s.queue) ∨
    (∃ c sub newFence, a.call = some c ∧ s.history.step movedFrom c = some t.history ∧
      t.history.submissions = s.history.submissions ++ [sub] ∧
      s.queue.step (.submit newFence sub.commandBuffers sub.callbacks) = some t.queue) ∨
    ∃ b, a = .queue b ∧ t.history = s.history ∧ s.queue.step b = some t.queue ∧
      t.queue.submits = s.queue.submits := by
  cases a with
  | addCommandBufferSlot =>
    obtain rfl := Option.some.inj hstep
    exact .inl ⟨_, rfl, rfl, rfl, rfl⟩
  | submitCommandBuffer index commandBuffer func newFence =>
    obtain ⟨history, hhistory, hsubmit⟩ := Option.bind_eq_some_iff.mp hstep
    rcases History.step_cases hs.history hhistory with ⟨hcall, -⟩ | ⟨_, _, _, -, -, hcase⟩
    · cases hcall
    rcases hcase with ⟨-, rfl⟩ | ⟨-, rfl⟩
    · rw [submitNew, History.fill_submissions, List.drop_length] at hsubmit
      obtain rfl := Option.some.inj hsubmit
      exact .inl ⟨_, rfl, hhistory, rfl, rfl⟩
    · rw [submitNew, History.submit, History.fill_submissions, List.drop_left] at hsubmit
      obtain ⟨queue, hqueue, rfl⟩ := Option.map_eq_some_iff.mp hsubmit
      exact .inr (.inl ⟨_, _, newFence, rfl, hhistory, rfl, hqueue⟩)
  | queue b =>
    cases b with
    | submit => cases hstep
    | _ =>
      obtain ⟨queue, hqueue, rfl⟩ := Option.map_eq_some_iff.mp hstep
      refine .inr (.inr ⟨_, rfl, rfl, hqueue, ?_⟩)
      cases Queue.step_of_eq_some hs.queue hqueue <;> rfl

theorem linked_init : ({} : Pipeline χ φ).Linked where
  history := History.consistent_init
  queue := Queue.consistent_init
  finished := List.Perm.refl _
  commands := rfl
  callbacks := rfl

/-- A submission is appended to what the queue has been given. -/
theorem submits_submit {queue queue' : Queue.State χ (List φ)} {newFence : Fence} {commands : List χ}
    {callback : List φ} (h : queue.step (.submit newFence commands callback) = some queue') :
    ∃ fence, queue'.submits = queue.submits ++ [⟨commands, fence, callback⟩] := by
  obtain ⟨-, hstep⟩ := Option.ite_none_right_eq_some.mp h
  obtain rfl := Option.some.inj hstep
  exact ⟨_, rfl⟩

theorem Linked.step (hs : s.Linked) (hstep : s.step movedFrom a = some t) : t.Linked := by
  obtain ⟨c, -, hhistory, hsame, hqueue⟩ | ⟨c, sub, newFence, -, hhistory, hnew, hqueue⟩ |
    ⟨b, -, hhistory, hqueue, hsame⟩ := step_cases hs hstep
  · refine ⟨hs.history.step hhistory, hqueue ▸ hs.queue, hqueue ▸ hs.finished, ?_, ?_⟩
    · rw [hqueue, hsame, hs.commands]
    · rw [hqueue, hsame, hs.callbacks]
  · obtain ⟨fence, hsubmits⟩ := submits_submit hqueue
    refine ⟨hs.history.step hhistory, hs.queue.step hqueue, hs.finished.step hs.queue hqueue, ?_, ?_⟩
    · rw [hsubmits, hnew, List.map_append, List.map_append, hs.commands]
      rfl
    · rw [hsubmits, hnew, List.map_append, List.map_append, hs.callbacks]
      rfl
  · refine ⟨hhistory ▸ hs.history, hs.queue.step hqueue, hs.finished.step hs.queue hqueue, ?_, ?_⟩
    · rw [hsame, hhistory, hs.commands]
    · rw [hsame, hhistory, hs.callbacks]

theorem Linked.of_reachable (hr : Reachable (Pipeline.step movedFrom) {} s) : s.Linked :=
  hr.invariant (fun _ _ _ hs hstep => hs.step hstep) linked_init

/-- The executor in the pipeline runs as it does alone. -/
theorem history_reachable (hr : Reachable (step movedFrom) {} s) :
    Reachable (History.step movedFrom) {} s.history := by
  refine (hr.invariant (I := fun s => s.Linked ∧ Reachable (History.step movedFrom) {} s.history) ?_
    ⟨linked_init, [], rfl⟩).2
  rintro s a t ⟨hs, as, has⟩ hstep
  refine ⟨hs.step hstep, ?_⟩
  obtain ⟨c, -, hhistory, -⟩ | ⟨c, -, -, -, hhistory, -⟩ | ⟨-, -, hhistory, -⟩ := step_cases hs hstep
  · exact ⟨as ++ [c], by rw [exec_append, has, Option.bind_some, exec_cons, hhistory]; rfl⟩
  · exact ⟨as ++ [c], by rw [exec_append, has, Option.bind_some, exec_cons, hhistory]; rfl⟩
  · exact ⟨as, by rw [has, hhistory]⟩

/-! ### Where the handlers are -/

/-- What has been handed over has been called or is in flight. -/
theorem Linked.handedOver_perm (hs : s.Linked) : s.called ++ s.inFlight ~ s.history.handedOver := by
  have hperm := hs.queue.callbacks_perm.flatten
  rwa [List.flatten_append, hs.callbacks, ← List.flatMap_def, ← List.flatMap_def] at hperm

/-- The callbacks that have run are those of submissions that have been finished. -/
theorem Linked.ran_finished (hs : s.Linked) {p : Nat × List φ} (hp : p ∈ s.queue.ran) :
    ∃ sub fence, s.history.submissions[p.1]? = some sub ∧ p.2 = sub.callbacks ∧
      (p.1, fence) ∈ s.queue.finished := by
  obtain ⟨call, hcall, hcallback, hfinished⟩ := hs.queue.ran_finished p hp
  have hsub : (s.history.submissions.map (·.callbacks))[p.1]? = some call.callback := by
    rw [← hs.callbacks, List.getElem?_map, hcall]
    rfl
  rw [List.getElem?_map] at hsub
  obtain ⟨sub, hsub, heq⟩ := Option.map_eq_some_iff.mp hsub
  exact ⟨sub, call.fence, hsub, hcallback.trans heq.symm, hfinished⟩

/-- **No completion handler is lost or called twice.** In every state that the worker threads, the GPU,
the scheduler thread and the waiting threads can lead to, each handler the slots were given has been
called, or is in flight, or is still in the executor, and it is in one of these places only. A callback
of the queue runs once, with the handlers of one bundle, after the GPU has finished the command buffers
of that bundle. -/
theorem handlers_conserved (hmoved : MovedFromEmpty movedFrom)
    (hr : Reachable (step movedFrom) {} s) :
    s.called ++ s.inFlight ++ s.stored ~ s.history.handlers.reduceOption ∧
      (s.queue.ran.map Prod.fst).Nodup ∧
      ∀ p ∈ s.queue.ran, ∃ sub fence, s.history.submissions[p.1]? = some sub ∧
        p.2 = sub.callbacks ∧ (p.1, fence) ∈ s.queue.finished := by
  have hs := Linked.of_reachable hr
  refine ⟨?_, hs.queue.completesOnce.once, fun p hp => hs.ran_finished hp⟩
  have hconserved := History.Conserved.of_reachable hmoved (history_reachable hr)
  exact (hs.handedOver_perm.append_right _).trans hconserved.perm

theorem handlers_conserved_firstReported :
    ∃ s : Pipeline Nat Nat, Reachable (step fun _ => none) {} s ∧ s.called = [20] ∧
      s.stored = [22] ∧ s.called ++ s.inFlight ++ s.stored ~ s.history.handlers.reduceOption :=
  ⟨_, ⟨firstReported, rfl⟩, rfl, rfl, (handlers_conserved (fun _ => rfl) ⟨firstReported, rfl⟩).1⟩

/-! ### Progress without the worker threads -/

theorem step_queue {b : Queue.Action χ (List φ)} {queue : Queue.State χ (List φ)}
    (hb : b.OwnProgress) (h : s.queue.step b = some queue) :
    s.step movedFrom (.queue b) = some { s with queue := queue } := by
  cases b with
  | submit | waitBegin | waitDone | waitTimeout => exact absurd hb id
  | flushBegin | flushNext | flushEnd | signal => exact Option.map_eq_some_iff.mpr ⟨queue, h, rfl⟩

/-- The GPU and `Flush` do on the pipeline what they do on the queue. -/
theorem progress_iff (hs : s.Linked) :
    Progress movedFrom s t ↔ t.history = s.history ∧ Queue.Progress s.queue t.queue := by
  constructor
  · rintro ⟨as, has, hrun⟩
    induction as generalizing s with
    | nil =>
      obtain rfl := Option.some.inj hrun
      exact ⟨rfl, .refl _⟩
    | cons a as ih =>
      obtain ⟨u, hstep, hrun⟩ := exec_cons_eq_some.mp hrun
      obtain ⟨hhistory, hqueue⟩ := ih (hs.step hstep)
        (fun b hb => has b (List.mem_cons_of_mem a hb)) hrun
      have ha := has a List.mem_cons_self
      obtain ⟨c, hcall, -⟩ | ⟨c, -, -, hcall, -⟩ | ⟨b, rfl, hsame, hb, -⟩ := step_cases hs hstep
      · cases a <;> first | exact absurd ha id | cases hcall
      · cases a <;> first | exact absurd ha id | cases hcall
      · exact ⟨hhistory.trans hsame, .head ha hb hqueue⟩
  · rintro ⟨hhistory, bs, hbs, hrun⟩
    refine ⟨bs.map .queue, ?_, ?_⟩
    · intro a ha
      obtain ⟨b, hb, rfl⟩ := List.mem_map.mp ha
      exact hbs b hb
    · clear hs
      induction bs generalizing s with
      | nil =>
        obtain ⟨history, queue⟩ := t
        obtain rfl := Option.some.inj hrun
        obtain rfl : history = s.history := hhistory
        rfl
      | cons b bs ih =>
        obtain ⟨queue, hstep, hrun⟩ := exec_cons_eq_some.mp hrun
        refine exec_cons_eq_some.mpr ⟨_, step_queue (hbs b List.mem_cons_self) hstep, ?_⟩
        exact ih (s := { s with queue := queue }) hhistory
          (fun c hc => hbs c (List.mem_cons_of_mem b hc)) hrun

theorem Linked.of_progress (hs : s.Linked) (h : Progress movedFrom s t) : t.Linked := by
  obtain ⟨as, -, hrun⟩ := h
  exact exec_invariant (fun _ _ _ hs hstep => hs.step hstep) hs hrun

theorem flatMap_getElem?_range {α β : Type*} (l : List α) (f : α → List β) :
    (List.range l.length).flatMap (fun n => (l[n]?).elim [] f) = l.flatMap f := by
  induction l with
  | nil => rfl
  | cons a l ih =>
    have htail : (fun n => ((a :: l)[n]?).elim [] f) ∘ Nat.succ = fun n => (l[n]?).elim [] f := rfl
    rw [List.length_cons, List.range_succ_eq_map, List.flatMap_cons, List.flatMap_map]
    exact congrArg _ ((congrArg (List.range l.length).flatMap htail).trans ih)

/-- The handlers of all submitted slots, by submission. -/
def submittedHandlers (h : History χ φ) : List φ :=
  h.submissions.flatMap (·.handlers h.given)

/-- The GPU and `Flush` alone can lead to a state in which all submissions have been executed and all
handlers that were handed over have been called. -/
theorem Linked.exists_drained (hs : s.Linked) (movedFrom : φ → Option φ) :
    ∃ t, Progress movedFrom s t ∧ t.history = s.history ∧ t.inFlight = [] ∧
      t.called ~ s.history.handedOver ∧ t.executed ~ submittedHandlers s.history := by
  obtain ⟨queue, hprogress, -, hempty⟩ := hs.queue.exists_drained
  let t : Pipeline χ φ := { s with queue := queue }
  have ht : Progress movedFrom s t := (progress_iff hs).mpr ⟨rfl, hprogress⟩
  have hlinked : t.Linked := hs.of_progress ht
  have hflight : t.inFlight = [] := by
    simp only [t, inFlight, Queue.State.inFlight, hempty, List.filter_nil, List.filterMap_nil,
      List.flatten_nil]
  refine ⟨t, ht, rfl, hflight, ?_, ?_⟩
  · have hperm := hlinked.handedOver_perm
    rwa [hflight, List.append_nil] at hperm
  · have hpending : t.queue.pending = [] := by
      refine List.eq_nil_iff_forall_not_mem.mpr fun p hp => ?_
      have hattached := ((hlinked.queue.pending_iff p).mp hp).1
      simp only [t, hempty] at hattached
      exact absurd hattached List.not_mem_nil
    have hfinished := hlinked.finished
    rw [Queue.FinishedOnce, hpending, List.map_nil, List.append_nil] at hfinished
    have hlength : t.queue.submits.length = s.history.submissions.length := by
      have hlength := congrArg List.length hlinked.callbacks
      rwa [List.length_map, List.length_map] at hlength
    rw [hlength] at hfinished
    refine (hfinished.flatMap_right _).trans (List.Perm.of_eq ?_)
    exact flatMap_getElem?_range s.history.submissions _

/-- **Every handler can be brought to its call.** From every state that a run of all threads leads to,
the GPU and the scheduler thread alone can reach one where nothing is in flight and every handler that
was handed to the queue has been called once. If the slots are all filled, these are all handlers. -/
theorem handlers_completable (hmoved : MovedFromEmpty movedFrom)
    (hr : Reachable (step movedFrom) {} s) :
    ∃ t, Progress movedFrom s t ∧ t.history = s.history ∧ t.inFlight = [] ∧
      t.called ~ s.history.handedOver ∧
      ((∀ i < s.history.given.length, s.history.given[i]? ≠ some none) →
        t.called ~ s.history.handlers.reduceOption ∧ t.stored = []) := by
  obtain ⟨t, ht, hhistory, hflight, hcalled, -⟩ := (Linked.of_reachable hr).exists_drained movedFrom
  refine ⟨t, ht, hhistory, hflight, hcalled, fun hall => ?_⟩
  have hc := (Linked.of_reachable hr).history
  have hconserved := History.Conserved.of_reachable hmoved (history_reachable hr)
  have hstored : s.stored = [] := by
    have hmovedOut := hconserved.moved_out
    rwa [History.numSubmitted_of_all_filled hc hall, ← hc.handlers_length, List.take_length]
      at hmovedOut
  have hperm := hconserved.perm
  rw [← stored, hstored, List.append_nil] at hperm
  exact ⟨hcalled.trans hperm, by rw [stored, hhistory]; exact hstored⟩

/-- The middle slot is filled last, while the `Flush` of the first submission is over. -/
theorem handlers_completable_firstReported :
    ∃ s t : Pipeline Nat Nat, exec (step fun _ => none) {}
        (firstReported ++ [.submitCommandBuffer 1 11 (some 21) 9]) = some s ∧ s.called = [20] ∧
      Progress (fun _ => none) s t ∧ t.called ~ [20, 21, 22] := by
  obtain ⟨s, hrun, hcalled, hfilled, hhandlers⟩ : ∃ s : Pipeline Nat Nat,
      exec (step fun _ => none) {} (firstReported ++ [.submitCommandBuffer 1 11 (some 21) 9]) =
        some s ∧ s.called = [20] ∧
      (∀ i < s.history.given.length, s.history.given[i]? ≠ some none) ∧
      s.history.handlers.reduceOption = [20, 21, 22] :=
    ⟨_, rfl, rfl, by decide, rfl⟩
  obtain ⟨t, ht, -, -, -, hall⟩ := handlers_completable (fun _ => rfl) ⟨_, hrun⟩
  exact ⟨s, t, hrun, hcalled, ht, hhandlers ▸ (hall hfilled).1⟩

/-! ### Handlers called early -/

theorem subperm_flatMap {α β : Type*} {l l' : List α} (h : l <+~ l') (f : α → List β) :
    l.flatMap f <+~ l'.flatMap f := by
  obtain ⟨k, hperm, hsublist⟩ := h
  exact ⟨k.flatMap f, hperm.flatMap_right f, (hsublist.map f).flatten⟩

/-- With the right bundles, a handler is called only after its own command buffer has been executed. -/
theorem Linked.notEarly (hs : s.Linked) (hb : s.history.Bundled) : s.NotEarly := by
  have hcalled : s.called = (s.queue.ran.map Prod.fst).flatMap s.history.slotHandlers := by
    rw [called, List.flatMap_map]
    refine List.flatMap_congr fun p hp => ?_
    obtain ⟨sub, -, hsub, hcallbacks, -⟩ := hs.ran_finished hp
    rw [History.slotHandlers, hsub, hcallbacks]
    exact (hb sub (List.mem_of_getElem? hsub)).2
  rw [NotEarly, hcalled]
  refine subperm_flatMap (List.subperm_of_subset hs.queue.completesOnce.once ?_) _
  intro n hn
  obtain ⟨p, hp, rfl⟩ := List.mem_map.mp hn
  obtain ⟨-, fence, -, -, hfinished⟩ := hs.ran_finished hp
  exact List.mem_map_of_mem hfinished

theorem Linked.neverEarly (hs : s.Linked) (hb : s.history.Bundled) : NeverEarly movedFrom s :=
  fun _ ht => (hs.of_progress ht).notEarly (((progress_iff hs).mp ht).1 ▸ hb)

/-- If no handler can be called early, no more handlers have been handed over than the submitted slots
were given. -/
theorem Linked.handedOver_subperm (hs : s.Linked) (hnever : NeverEarly movedFrom s) :
    s.history.handedOver <+~ submittedHandlers s.history := by
  obtain ⟨t, ht, -, -, hcalled, hexecuted⟩ := hs.exists_drained movedFrom
  exact hcalled.symm.subperm.trans ((hnever t ht).trans hexecuted.subperm)

theorem handedOver_eq_of_bundled {h : History χ φ} (hb : h.Bundled) :
    h.handedOver = submittedHandlers h :=
  List.flatMap_congr fun sub hsub => (hb sub hsub).2

end Pipeline

namespace History

variable {movedFrom : φ → Option φ} {h h' : History χ φ} {c : Call χ φ}

/-- A call after which no more handlers have been handed over than the submitted slots were given keeps
the bundles right. -/
theorem bundled_of_subperm (hc : h.Consistent) (hu : h.Unmoved) (hb : h.Bundled)
    (hstep : h.step movedFrom c = some h')
    (hsub : h'.handedOver <+~ Pipeline.submittedHandlers h') : h'.Bundled := by
  rcases step_cases hc hstep with ⟨rfl, rfl⟩ | ⟨index, commandBuffer, func, rfl, hi, hcase⟩
  · exact hb.addSlot hc
  · rcases hcase with ⟨-, rfl⟩ | ⟨-, rfl⟩
    · exact hb.fill hc hi
    · rw [bundled_submit_iff hc hu hb hi]
      have hfill : (h.fill index.toNat commandBuffer func).handedOver =
          Pipeline.submittedHandlers (h.fill index.toNat commandBuffer func) :=
        Pipeline.handedOver_eq_of_bundled (hb.fill hc hi)
      -- the submitted slots were given the first ones of the handlers that are handed over
      have hslots : ∀ callbacks : List φ,
          (⟨⟨h.release index.toNat commandBuffer, callbacks⟩, h.executor.numSubmittedCommandBuffers⟩ :
            Submission χ φ).handlers (h.fill index.toNat commandBuffer func).given =
          ((h.unsubmittedHandlers index.toNat func).take
            (h.release index.toNat commandBuffer).length).reduceOption := by
        intro callbacks
        rw [Submission.handlers, Submission.slots, List.map_take, List.map_drop, unsubmittedHandlers,
          ← (fill_handlers : (h.fill index.toNat commandBuffer func).handlers = _)]
        rfl
      have hlength := hsub.length_le
      rw [submit_handedOver, fill_numSubmitted, hu.unsubmitted_fill, Pipeline.submittedHandlers,
        submit_given, History.submit, List.flatMap_append, List.flatMap_singleton, fill_numSubmitted,
        hslots, hfill, ← Pipeline.submittedHandlers, List.length_append, List.length_append] at hlength
      have hsplit := congrArg (fun l => l.reduceOption.length) (List.take_append_drop
        (h.release index.toNat commandBuffer).length (h.unsubmittedHandlers index.toNat func))
      simp only [List.reduceOption_append, List.length_append] at hsplit
      refine List.eq_nil_of_length_eq_zero ?_
      simp only [Pipeline.submittedHandlers] at hlength
      omega

end History

namespace Pipeline

variable {movedFrom : φ → Option φ} {s t : Pipeline χ φ} {a : Action χ φ}

/-- From a state with the right bundles, a step leads to one in which a handler can be called early
exactly when it takes one from behind a gap. -/
theorem step_neverEarly_iff (hs : s.Linked) (hu : s.history.Unmoved) (hb : s.history.Bundled)
    (hstep : s.step movedFrom a = some t) : NeverEarly movedFrom t ↔ s.NoHandlerBehindGap a := by
  have ht : t.Linked := hs.step hstep
  have hcall : ∀ c, a.call = some c → s.history.step movedFrom c = some t.history →
      (NeverEarly movedFrom t ↔ s.NoHandlerBehindGap a) := by
    intro c hc hhistory
    have hgap : s.NoHandlerBehindGap a ↔ s.history.NoHandlerBehindGap c := by
      simp [NoHandlerBehindGap, hc]
    rw [hgap, ← History.step_bundled_iff hs.history hu hb hhistory]
    constructor
    · intro hnever
      exact History.bundled_of_subperm hs.history hu hb hhistory (ht.handedOver_subperm hnever)
    · exact ht.neverEarly
  obtain ⟨c, hc, hhistory, -⟩ | ⟨c, -, -, hc, hhistory, -⟩ | ⟨b, rfl, hhistory, -⟩ :=
    step_cases hs hstep
  · exact hcall c hc hhistory
  · exact hcall c hc hhistory
  · refine iff_of_true (ht.neverEarly (hhistory ▸ hb)) ?_
    rintro c (_ | _)

/-- **When a handler can be called before its work is done.** Along any run of all threads: that the
GPU and the scheduler thread, whatever they do next, never call more handlers than those of the slots
whose command buffers have been executed holds in every state exactly when each call that fills the
first unsubmitted slot finds no handler behind the next empty one. -/
theorem never_early_iff {as : List (Action χ φ)} (hrun : exec (step movedFrom) {} as = some s) :
    Always (step movedFrom) (NeverEarly movedFrom) {} as ↔
      Each (step movedFrom) NoHandlerBehindGap {} as := by
  refine always_iff_each
    (I := fun s => s.Linked ∧ s.history.Unmoved ∧ s.history.Bundled) ?_ ?_
    ⟨linked_init, rfl, by simp [History.Bundled]⟩ ?_ hrun
  · rintro s a t ⟨hs, hu, hb⟩ - hstep hnever
    have ht : t.Linked := hs.step hstep
    refine ⟨ht, ?_⟩
    have hcall : ∀ c, s.history.step movedFrom c = some t.history →
        t.history.Unmoved ∧ t.history.Bundled := by
      intro c hhistory
      have hb' := History.bundled_of_subperm hs.history hu hb hhistory
        (ht.handedOver_subperm hnever)
      exact ⟨History.step_unmoved hs.history hu hb hhistory hb', hb'⟩
    obtain ⟨c, -, hhistory, -⟩ | ⟨c, -, -, -, hhistory, -⟩ | ⟨-, -, hhistory, -⟩ :=
      step_cases hs hstep
    · exact hcall c hhistory
    · exact hcall c hhistory
    · exact hhistory ▸ ⟨hu, hb⟩
  · rintro s a t ⟨hs, hu, hb⟩ - hstep
    exact step_neverEarly_iff hs hu hb hstep
  · exact linked_init.neverEarly (by simp [History.Bundled])

/-- The slots are filled in the opposite order, with no gap between them. -/
theorem never_early_iff_noGap : Always (step fun _ => none) (NeverEarly fun _ => none)
    ({} : Pipeline Nat Nat) [.addCommandBufferSlot, .addCommandBufferSlot,
      .submitCommandBuffer 1 11 (some 21) 7, .submitCommandBuffer 0 10 (some 20) 7] :=
  (never_early_iff rfl).mpr (by decide)

/-- Behind a gap, the handler of the last slot can be called with the first command buffer. -/
example : ¬ Each (step fun _ => none) NoHandlerBehindGap ({} : Pipeline Nat Nat)
    [.addCommandBufferSlot, .addCommandBufferSlot, .addCommandBufferSlot,
      .submitCommandBuffer 2 12 (some 22) 7, .submitCommandBuffer 0 10 (some 20) 7] := by decide

end Pipeline

end Teide.GpuExecutor
