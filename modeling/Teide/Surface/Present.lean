import Mathlib.Tactic.Common
import Teide.Surface.Invariant

/-!
# Presenting images

`EndFrame` signals `renderFinished` once and then presents every image of the frame, each with a wait on
it. So the semaphore operations are balanced exactly if no frame presents more than one image.
-/

namespace Teide.Surface

open Prefixes Semaphores Runs State

variable {movedFrom : Unit → Option Unit} {s t : State} {a : Action} {x : Semaphore}

/-- Every wait has its own signal before it. -/
def SemaphoresBalance (s : State) : Prop :=
  Balanced Operation.waits Operation.signals s.operations

/-- A frame ends with at most one image. -/
def PresentsOne (s : State) : Action → Prop
  | .endFrame => s.surfacesToPresent.length ≤ 1
  | _ => True

instance : ∀ a, Decidable (PresentsOne s a)
  | .endFrame => inferInstanceAs (Decidable (_ ≤ 1))
  | .renderToSurface _ _ | .createSurface _ | .beginFrame | .imageReady | .onResize _
  | .recreateSwapchain _ | .schedule | .submitCommandBuffer _ | .throw _ | .gpuComplete =>
    .isTrue trivial

/-- As many presentations as batches of frames. -/
def Paired (s : State) : Prop :=
  ∀ frame, s.signalled (.renderFinished frame) = s.waited (.renderFinished frame)

/-- The batch of a frame waits on `imageAvailable` semaphores only. -/
theorem Accounted.renderFinished_frameBatch (h : Accounted s) (hwaiting : s.waiting = none)
    (frame : FrameNumber) : s.frameBatch.waitSemaphores.count (.renderFinished frame) = 0 := by
  refine List.count_eq_zero.mpr fun hmem => ?_
  obtain ⟨image, himage, heq⟩ := List.mem_map.mp hmem
  rw [← acquiredImages_of_idle hwaiting] at himage
  obtain ⟨index, hindex⟩ := h.surface image himage
  exact Semaphore.noConfusion (hindex.symm.trans heq)

/-- The waits of the batch of a frame have their signals. -/
theorem Accounted.balanced_frameBatch (h : Accounted s) (hbalance : SemaphoresBalance s)
    (hwaiting : s.waiting = none) :
    Balanced Operation.waits Operation.signals (s.operations ++ [.submit s.frameBatch]) := by
  refine (balanced_concat _).mpr ⟨hbalance, fun x => ?_⟩
  cases x with
  | imageAvailable surface index =>
    have hsignalled := h.signalled surface index
    rw [acquiredImages_of_idle hwaiting] at hsignalled
    show s.waited _ + _ ≤ s.signalled _
    rw [hsignalled, Nat.add_comm]
    exact Nat.le_refl _
  | renderFinished frame =>
    show s.waited _ + s.frameBatch.waitSemaphores.count _ ≤ s.signalled _
    rw [h.renderFinished_frameBatch hwaiting]
    exact hbalance.total_le _

theorem semaphoresBalance_move (h : Accounted s) (hpaired : Paired s) (hbalance : SemaphoresBalance s)
    (hmove : Move movedFrom s a t) : SemaphoresBalance t ↔ PresentsOne s a := by
  cases hmove with
  | createSurface | beginFrame | render | outOfDate | error | imageReady | onResize
  | recreateSwapchain | schedule | throw | gpuComplete => exact iff_of_true hbalance trivial
  | endEmptyFrame himages =>
    refine iff_of_true hbalance ?_
    show s.surfacesToPresent.length ≤ 1
    rw [himages]
    exact Nat.zero_le 1
  | acquire => exact iff_of_true ((balanced_concat_of_no_wait rfl).mpr hbalance) trivial
  | @submitCommandBuffer _ _ bundle =>
    refine iff_of_true ?_ trivial
    cases bundle with
    | none => exact (List.append_nil s.operations).symm ▸ hbalance
    | some bundle => exact (balanced_concat_of_no_wait rfl).mpr hbalance
  | endFrame himages hframe hwaiting =>
    unfold SemaphoresBalance
    rw [List.append_cons, balanced_append_waits (x := .renderFinished s.inFlightFences.frameNumber),
      and_iff_right (h.balanced_frameBatch hbalance hwaiting), List.length_map]
    · have hpair := hpaired s.inFlightFences.frameNumber
      have hnone := h.renderFinished_frameBatch hwaiting s.inFlightFences.frameNumber
      have hone : s.frameBatch.signalSemaphores.count
          (.renderFinished s.inFlightFences.frameNumber) = 1 := List.count_singleton_self
      simp only [State.signalled, State.waited] at hpair
      simp only [total_append, total_cons, total_nil, Operation.waits, Operation.signals, hnone, hone,
        PresentsOne]
      omega
    · intro op hop
      obtain ⟨image, -, rfl⟩ := List.mem_map.mp hop
      rfl
    · intro op hop
      obtain ⟨image, -, rfl⟩ := List.mem_map.mp hop
      rfl

theorem Paired.of_operations (h : Paired s) {new : List Operation}
    (hoperations : t.operations = s.operations ++ new)
    (hnew : ∀ frame, total Operation.signals new (.renderFinished frame) =
      total Operation.waits new (.renderFinished frame)) : Paired t := by
  intro frame
  have hpair := h frame
  simp only [State.signalled, State.waited] at hpair ⊢
  rw [hoperations, total_append, total_append, hpair, hnew]

theorem Paired.move (h : Paired s) (haccount : Accounted s) (hone : PresentsOne s a)
    (hmove : Move movedFrom s a t) : Paired t := by
  cases hmove with
  | createSurface | beginFrame | render | outOfDate | error | imageReady | onResize
  | recreateSwapchain | schedule | throw | endEmptyFrame | gpuComplete => exact h
  | acquire =>
    refine h.of_operations rfl fun frame => ?_
    simp [Operation.signals, Operation.waits]
  | submitCommandBuffer htask hsubmit =>
    refine h.of_operations rfl fun frame => ?_
    rw [signals_executorBatches, total_waits_submit, waits_executorBatches]
  | endFrame himages hframe hwaiting =>
    refine h.of_operations rfl fun frame => ?_
    have hnone := haccount.renderFinished_frameBatch hwaiting frame
    have hlength : s.surfacesToPresent.length = 1 :=
      Nat.le_antisymm hone (List.length_pos_iff.mpr himages)
    obtain ⟨image, himage⟩ := List.length_eq_one_iff.mp hlength
    rw [total_cons, total_cons, signals_present, Operation.waits, hnone, himage]
    simp [frameBatch, Operation.signals, Operation.waits]

/-- In a run every wait on a semaphore has its own signal before it exactly if no frame presents more
than one image. -/
theorem semaphoresBalance_iff {as : List Action} (h : exec (step movedFrom) {} as = some s) :
    SemaphoresBalance s ↔ Each (step movedFrom) PresentsOne {} as := by
  have hlast : Always (step movedFrom) SemaphoresBalance {} as ↔ SemaphoresBalance s :=
    always_eachAfter_iff _ h
  rw [← hlast]
  refine always_iff_each (I := fun s => Accounted s ∧ Paired s) ?_ ?_ ⟨accounted_init, ?_⟩ ?_ h
  · rintro s a t ⟨haccount, hpaired⟩ hs hstep ht
    have hmove := move_of_step hstep
    have hone := (semaphoresBalance_move haccount hpaired hs hmove).mp ht
    exact ⟨haccount.move hmove, hpaired.move haccount hone hmove⟩
  · rintro s a t ⟨haccount, hpaired⟩ hs hstep
    exact semaphoresBalance_move haccount hpaired hs (move_of_step hstep)
  · exact fun frame => rfl
  · exact eachAfter_nil

def oneSurface : List Action :=
  [.createSurface 2, .beginFrame, .renderToSurface 0 (.success 0), .imageReady,
    .submitCommandBuffer 0, .endFrame, .beginFrame, .endFrame, .gpuComplete, .gpuComplete,
    .beginFrame, .renderToSurface 0 (.success 1), .imageReady, .submitCommandBuffer 0, .endFrame]

theorem semaphoresBalance_iff_oneSurface :
    ∃ s, exec (step fun _ => none) {} oneSurface = some s ∧ SemaphoresBalance s := by
  have hrun : (exec (step fun _ => none) {} oneSurface).isSome = true := by decide
  obtain ⟨s, hs⟩ := Option.isSome_iff_exists.mp hrun
  exact ⟨s, hs, (semaphoresBalance_iff hs).mpr (by decide)⟩

/-- A frame with images of two surfaces. -/
def bothSurfaces : List Action :=
  [.createSurface 2, .createSurface 2, .beginFrame, .renderToSurface 0 (.success 0), .imageReady,
    .renderToSurface 1 (.success 1), .imageReady, .submitCommandBuffer 0, .submitCommandBuffer 0,
    .endFrame]

/-- The second image is presented with a wait on the signal that the first one has taken. -/
theorem not_semaphoresBalance : ¬ ∀ (movedFrom : Unit → Option Unit) (as : List Action) (s : State),
    exec (step movedFrom) {} as = some s → SemaphoresBalance s := by
  intro h
  have hrun : (exec (step fun _ => none) {} bothSurfaces).isSome = true := by decide
  obtain ⟨s, hs⟩ := Option.isSome_iff_exists.mp hrun
  let first : SurfaceImage := ⟨0, 0, .imageAvailable 0 0, 0⟩
  let second : SurfaceImage := ⟨1, 1, .imageAvailable 1 0, 1⟩
  have hoperations : (exec (step fun _ => none) {} bothSurfaces).map State.operations = some
      ([.acquireNextImage (.imageAvailable 0 0), .acquireNextImage (.imageAvailable 1 0),
        .submit { commandBuffers := [⟨some first⟩] },
        .submit { commandBuffers := [⟨some second⟩] },
        .submit ⟨[.imageAvailable 0 0, .imageAvailable 1 0], [], [.renderFinished 1], some 1⟩,
        .present first (.renderFinished 1)] ++ [.present second (.renderFinished 1)]) := rfl
  rw [hs, Option.map_some, Option.some.injEq] at hoperations
  have hle := h _ _ s hs _ _ [] hoperations (.renderFinished 1)
  revert hle
  decide

end Teide.Surface
