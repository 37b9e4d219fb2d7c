import Teide.GpuExecutor.Invariant

/-!
# Which handlers a submission takes

The command buffers of a submission stop at the first gap, the handlers bundled with it do not: a
handler behind the gap goes along and is called when the fence of the earlier submission is
signalled. So a run's bundles are right (`Bundled`) exactly when no call that submits something
finds a handler behind the next empty slot (`NoHandlerBehindGap`).

As long as the bundles are right, the array holds the given handlers unmoved from the first
unsubmitted slot on (`Unmoved`). This is the invariant of the proof. It fails together with the
property, at the first call that takes a handler too early.
-/

namespace Teide.GpuExecutor

open ReorderBuffer Runs

variable {χ φ : Type*} {movedFrom : φ → Option φ} {h h' : History χ φ}

namespace History

variable {i : Nat} {commandBuffer : χ} {func : Option φ}

/-- Every submission holds the command buffers of its slots, and its callbacks are exactly the
handlers these slots were given. -/
def Bundled (h : History χ φ) : Prop :=
  ∀ sub ∈ h.submissions,
    sub.commandBuffers.map some = (sub.slots h.given).map (Option.map Prod.fst) ∧
      sub.callbacks = ((sub.slots h.given).map (·.bind Prod.snd)).reduceOption

/-- Slot `j` lies behind an empty slot other than `front`. -/
def BehindGap (h : History χ φ) (front j : Nat) : Prop :=
  ∃ i < j, front < i ∧ h.given[i]? = some none

/-- If the call fills the first unsubmitted slot, no slot behind the next empty one has a handler. -/
def NoHandlerBehindGap (h : History χ φ) : Call χ φ → Prop
  | .addCommandBufferSlot => True
  | .submitCommandBuffer index _ _ =>
    index.toNat = h.executor.numSubmittedCommandBuffers →
      ∀ j < h.given.length, h.BehindGap index.toNat j → h.handlers[j]? = some none

instance [DecidableEq χ] [DecidableEq φ] (h : History χ φ) : Decidable h.Bundled :=
  inferInstanceAs (Decidable (∀ sub ∈ h.submissions, _))

instance [DecidableEq χ] [DecidableEq φ] (h : History χ φ) (front j : Nat) :
    Decidable (h.BehindGap front j) :=
  inferInstanceAs (Decidable (∃ i < j, front < i ∧ h.given[i]? = some none))

instance [DecidableEq χ] [DecidableEq φ] (h : History χ φ) (c : Call χ φ) :
    Decidable (h.NoHandlerBehindGap c) :=
  match c with
  | .addCommandBufferSlot => .isTrue trivial
  | .submitCommandBuffer index _ _ =>
    inferInstanceAs (Decidable (index.toNat = h.executor.numSubmittedCommandBuffers →
      ∀ j < h.given.length, h.BehindGap index.toNat j → h.handlers[j]? = some none))

/-- The handlers of the slots that are not submitted yet are still in the array. -/
def Unmoved (h : History χ φ) : Prop :=
  h.executor.completionHandlers.drop h.executor.numSubmittedCommandBuffers =
    h.handlers.drop h.executor.numSubmittedCommandBuffers

theorem Unmoved.addSlot (hc : h.Consistent) (hu : h.Unmoved) :
    Unmoved { h with
      executor := h.executor.addCommandBufferSlot.2
      given := h.given ++ [none] } := by
  have hle := hc.numSubmitted_le_length
  simp only [Unmoved, handlers, addCommandBufferSlot, List.map_append]
  rw [List.drop_append_of_le_length (hc.handlers_length ▸ hle),
    List.drop_append_of_le_length (by rwa [List.length_map])]
  exact congrArg (· ++ [none]) hu

theorem Unmoved.fill (hu : h.Unmoved) : (h.fill i commandBuffer func).Unmoved := by
  rw [Unmoved, fill_completionHandlers, fill_handlers, fill_numSubmitted, List.drop_set,
    List.drop_set, hu]

theorem Bundled.addSlot (hc : h.Consistent) (hb : h.Bundled) :
    Bundled { h with
      executor := h.executor.addCommandBufferSlot.2
      given := h.given ++ [none] } := by
  intro sub hsub
  rw [slots_append (Nat.le_trans (hc.slots_filled sub hsub).1 hc.numSubmitted_le_length)]
  exact hb sub hsub

theorem Bundled.fill (hc : h.Consistent) (hb : h.Bundled) (hi : h.given[i]? = some none) :
    (h.fill i commandBuffer func).Bundled := by
  intro sub hsub
  rw [hc.slots_fill hi sub hsub]
  exact hb sub hsub

/-! ### A call that submits -/

/-- The handlers given to the slots from the first unsubmitted one on, once the call has filled its
slot. -/
def unsubmittedHandlers (h : History χ φ) (i : Nat) (func : Option φ) : List (Option φ) :=
  (h.handlers.set i func).drop h.executor.numSubmittedCommandBuffers

theorem Unmoved.unsubmitted_fill (hu : h.Unmoved) :
    (h.fill i commandBuffer func).executor.completionHandlers.drop
      h.executor.numSubmittedCommandBuffers = h.unsubmittedHandlers i func := by
  have hfill : (h.fill i commandBuffer func).Unmoved := hu.fill
  rw [Unmoved, fill_numSubmitted, fill_handlers] at hfill
  exact hfill

/-- A call that submits keeps the bundles right exactly when no handler lies behind what it
releases. -/
theorem bundled_submit_iff (hc : h.Consistent) (hu : h.Unmoved) (hb : h.Bundled)
    (hi : h.given[i]? = some none) :
    ((h.fill i commandBuffer func).submit movedFrom (h.release i commandBuffer)).Bundled ↔
      ((h.unsubmittedHandlers i func).drop (h.release i commandBuffer).length).reduceOption =
        [] := by
  have hhandlers : (h.fill i commandBuffer func).executor.completionHandlers.drop
      h.executor.numSubmittedCommandBuffers = h.unsubmittedHandlers i func := hu.unsubmitted_fill
  have hsplit := congrArg List.reduceOption (List.take_append_drop
    (h.release i commandBuffer).length (h.unsubmittedHandlers i func))
  rw [List.reduceOption_append] at hsplit
  have hslots : ∀ bundle : Bundle χ φ, bundle.commandBuffers = h.release i commandBuffer →
      ((⟨bundle, h.executor.numSubmittedCommandBuffers⟩ : Submission χ φ).slots
        (h.fill i commandBuffer func).given).map (·.bind Prod.snd) =
      (h.unsubmittedHandlers i func).take (h.release i commandBuffer).length := by
    intro bundle hbundle
    rw [Submission.slots, hbundle, List.map_take, List.map_drop, unsubmittedHandlers,
      ← (fill_handlers : (h.fill i commandBuffer func).handlers = _)]
    rfl
  constructor
  · intro hbundled
    have hnew := (hbundled _ (List.mem_append_right _ (List.mem_singleton_self _))).2
    rw [submit_given, fill_numSubmitted, hslots _ rfl, hhandlers, ← hsplit] at hnew
    exact List.append_right_eq_self.mp hnew
  · intro hnone sub hsub
    simp only [submit, fill_submissions, List.mem_append, List.mem_singleton] at hsub
    rcases hsub with hsub | rfl
    · exact hb.fill hc hi sub hsub
    · refine ⟨(hc.fill_submit hi).slots_filled _
        (List.mem_append_right _ (List.mem_singleton_self _)) |>.2, ?_⟩
      rw [submit_given, fill_numSubmitted, hslots _ rfl, hhandlers, ← hsplit, hnone,
        List.append_nil]

theorem reduceOption_eq_nil {l : List (Option φ)} :
    l.reduceOption = [] ↔ ∀ k < l.length, l[k]? = some none := by
  constructor
  · intro hnil k hk
    obtain ⟨n, rfl⟩ := (List.reduceOption_eq_nil_iff l).mp hnil
    exact List.getElem?_replicate_of_lt (by simpa using hk)
  · intro hall
    refine List.eq_nil_iff_forall_not_mem.mpr fun f hf => ?_
    obtain ⟨k, hk⟩ := List.mem_iff_getElem?.mp (List.reduceOption_mem_iff.mp hf)
    have hnone := hall k (List.getElem?_eq_some_iff.mp hk).1
    simp [hk] at hnone

/-- In terms of the slots: nothing lies behind the released ones exactly when there is no handler
behind the next empty slot. -/
theorem no_handler_left_iff (hc : h.Consistent) (hi : h.given[i]? = some none)
    (heq : i = h.executor.numSubmittedCommandBuffers) :
    ((h.unsubmittedHandlers i func).drop (h.release i commandBuffer).length).reduceOption = [] ↔
      ∀ j < h.given.length, h.BehindGap i j → h.handlers[j]? = some none := by
  have hrelease := release_front commandBuffer hi heq
  have hpos : 0 < (h.release i commandBuffer).length := by rw [hrelease]; simp
  have hfilled := filledPrefix_fill commandBuffer hc hi
  have hlength : (filledPrefix (h.commandBuffers.set i (some commandBuffer))).length =
      i + (h.release i commandBuffer).length := by
    rw [hfilled, List.length_append, ← hc.count, heq]
  -- the entries looked at are those of the slots from the end of the prefix on
  have hget : ∀ k, ((h.unsubmittedHandlers i func).drop (h.release i commandBuffer).length)[k]? =
      h.handlers[i + (h.release i commandBuffer).length + k]? := by
    intro k
    rw [List.getElem?_drop, unsubmittedHandlers, List.getElem?_drop,
      List.getElem?_set_ne (by omega), ← heq, Nat.add_assoc]
  have hsize : ((h.unsubmittedHandlers i func).drop (h.release i commandBuffer).length).length =
      h.given.length - (i + (h.release i commandBuffer).length) := by
    rw [List.length_drop, unsubmittedHandlers, List.length_drop, List.length_set, length_handlers]
    omega
  rw [reduceOption_eq_nil, hsize]
  simp only [hget]
  constructor
  · rintro hall q hq ⟨p, hpq, hip, hempty⟩
    have hle : i + (h.release i commandBuffer).length ≤ p := by
      rw [← hlength]
      apply length_filledPrefix_le_of_gap
      rw [List.getElem?_set_ne (by omega)]
      exact commandBuffers_empty hempty
    have hq' := hall (q - (i + (h.release i commandBuffer).length)) (by omega)
    rwa [show i + (h.release i commandBuffer).length +
      (q - (i + (h.release i commandBuffer).length)) = q by omega] at hq'
  · intro hall k hk
    have hgap : h.given[i + (h.release i commandBuffer).length]? = some none := by
      have hgap := filledPrefix_gap (l := h.commandBuffers.set i (some commandBuffer)) (by
        rw [hlength, List.length_set, length_commandBuffers]
        omega)
      rw [hlength, List.getElem?_set_ne (by omega)] at hgap
      exact given_empty_of_commandBuffers hgap
    rcases Nat.eq_zero_or_pos k with rfl | hk0
    · exact handlers_empty hgap
    · exact hall _ (by omega) ⟨_, by omega, by omega, hgap⟩

theorem map_bind_eq_self {l : List (Option φ)} (hnone : l.reduceOption = []) :
    l.map (·.bind movedFrom) = l := by
  obtain ⟨n, rfl⟩ := (List.reduceOption_eq_nil_iff l).mp hnone
  simp

/-- A right bundle leaves the handlers behind it where they were. -/
theorem Unmoved.submit (hc : h.Consistent) (hu : h.Unmoved)
    (hnone : ((h.unsubmittedHandlers i func).drop
      (h.release i commandBuffer).length).reduceOption = []) :
    ((h.fill i commandBuffer func).submit movedFrom (h.release i commandBuffer)).Unmoved := by
  have hfill : (h.fill i commandBuffer func).executor.completionHandlers.drop
      h.executor.numSubmittedCommandBuffers = h.unsubmittedHandlers i func := hu.unsubmitted_fill
  have hlength : ((h.fill i commandBuffer func).executor.completionHandlers.take
      h.executor.numSubmittedCommandBuffers).length = h.executor.numSubmittedCommandBuffers := by
    rw [List.length_take, fill_completionHandlers, List.length_set, hc.handlers_length]
    exact Nat.min_eq_left hc.numSubmitted_le_length
  rw [Unmoved, submit_numSubmitted, submit_handlers, fill_numSubmitted, fill_handlers]
  calc ((h.fill i commandBuffer func).submit movedFrom
          (h.release i commandBuffer)).executor.completionHandlers.drop
        (h.executor.numSubmittedCommandBuffers + (h.release i commandBuffer).length)
      = ((h.unsubmittedHandlers i func).map (·.bind movedFrom)).drop
          (h.release i commandBuffer).length := by
        rw [← List.drop_drop, History.submit, fill_numSubmitted, List.drop_left' hlength, hfill]
    _ = (h.unsubmittedHandlers i func).drop (h.release i commandBuffer).length := by
        rw [← List.map_drop, map_bind_eq_self hnone]
    _ = (h.handlers.set i func).drop
          (h.executor.numSubmittedCommandBuffers + (h.release i commandBuffer).length) := by
        rw [unsubmittedHandlers, List.drop_drop]

theorem step_bundled_iff {c : Call χ φ} (hc : h.Consistent) (hu : h.Unmoved) (hb : h.Bundled)
    (hstep : h.step movedFrom c = some h') : h'.Bundled ↔ h.NoHandlerBehindGap c := by
  rcases step_cases hc hstep with ⟨rfl, rfl⟩ | ⟨index, commandBuffer, func, rfl, hi, hcase⟩
  · exact iff_of_true (hb.addSlot hc) trivial
  · rcases hcase with ⟨hrelease, rfl⟩ | ⟨hrelease, rfl⟩
    · refine iff_of_true (hb.fill hc hi) fun hfront => ?_
      rw [release_front commandBuffer hi hfront] at hrelease
      simp at hrelease
    · have hfront : index.toNat = h.executor.numSubmittedCommandBuffers := by
        by_contra hne
        exact hrelease (release_behind hc hi hne)
      rw [bundled_submit_iff hc hu hb hi, no_handler_left_iff hc hi hfront]
      exact ⟨fun hall _ => hall, fun hall => hall hfront⟩

theorem step_unmoved {c : Call χ φ} (hc : h.Consistent) (hu : h.Unmoved) (hb : h.Bundled)
    (hstep : h.step movedFrom c = some h') (hb' : h'.Bundled) : h'.Unmoved := by
  rcases step_cases hc hstep with ⟨rfl, rfl⟩ | ⟨index, commandBuffer, func, rfl, hi, hcase⟩
  · exact hu.addSlot hc
  · rcases hcase with ⟨_, rfl⟩ | ⟨_, rfl⟩
    · exact hu.fill
    · exact hu.submit hc ((bundled_submit_iff hc hu hb hi).mp hb')

end History

/-- **Completion is reported with the submission it belongs to, when no handler waits behind a
gap.** Along any run of calls, the bundles are right in every state exactly when every call that
fills the first unsubmitted slot finds no handler behind the next empty slot. -/
theorem bundled_iff_no_handler_behind_gap {calls : List (Call χ φ)}
    (hrun : exec (History.step movedFrom) {} calls = some h) :
    Always (History.step movedFrom) History.Bundled {} calls ↔
      Each (History.step movedFrom) History.NoHandlerBehindGap {} calls := by
  refine always_iff_each (I := fun h => h.Consistent ∧ h.Unmoved) ?_ ?_
    ⟨History.consistent_init, rfl⟩ (by simp [History.Bundled]) hrun
  · rintro s c t ⟨hc, hu⟩ hb hstep hb'
    exact ⟨hc.step hstep, History.step_unmoved hc hu hb hstep hb'⟩
  · rintro s c t ⟨hc, hu⟩ hb hstep
    exact History.step_bundled_iff hc hu hb hstep

/-- Slot 2 is filled first, then slot 0: the bundle of slot 0 takes the handler of slot 2. -/
theorem handler_taken_early :
    ¬ ∀ h : History Nat Nat, Reachable (History.step fun _ => none) {} h → h.Bundled := by
  intro hall
  have hbundled := hall _ ⟨History.outOfOrderCalls, rfl⟩
  revert hbundled
  decide

theorem bundled_iff_no_handler_behind_gap_outOfOrder :
    Always (History.step fun _ => none) History.Bundled ({} : History Nat Nat)
      [.addCommandBufferSlot, .addCommandBufferSlot, .submitCommandBuffer 1 11 (some 21),
        .submitCommandBuffer 0 10 (some 20)] :=
  (bundled_iff_no_handler_behind_gap rfl).mpr (by decide)

end Teide.GpuExecutor
