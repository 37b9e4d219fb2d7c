import Mathlib.Data.List.Nodup
import Mathlib.Tactic.Common
import Teide.Surface.Invariant

/-!
# Acquiring images

A semaphore that `AcquireNextImage` passes to the presentation engine must not be in use any more, and
a fence that is waited for must be on its way to be signalled. The three rotations are independent: the
frame slots, the semaphores of each surface, and the images, which the presentation engine chooses.

The fence of the current slot is signalled while a frame is recorded, so only the batch of the frame
before can be pending. Each surface has turned to its other semaphore since it acquired an image for
that frame, unless it has already acquired one for this frame, or the device is being waited for to
become idle. An acquisition that fails in another way turns the semaphores without such a wait; the
results below are about runs without one.
-/

namespace Teide.Surface

open Semaphores Runs State

variable {movedFrom : Unit → Option Unit} {s t : State} {a : Action}

/-- An acquisition succeeds or the swapchain is out of date. -/
def AcquiresOrResizes : Action → Prop
  | .renderToSurface _ .error => False
  | _ => True

instance : ∀ a, Decidable (AcquiresOrResizes a)
  | .renderToSurface _ .error => .isFalse id
  | .renderToSurface _ (.success _) | .renderToSurface _ (.suboptimal _)
  | .renderToSurface _ .errorOutOfDate | .createSurface _ | .beginFrame | .imageReady | .onResize _
  | .recreateSwapchain _ | .schedule | .submitCommandBuffer _ | .throw _ | .endFrame
  | .gpuComplete => .isTrue trivial

namespace State

/-- The semaphore that an action passes to `vkAcquireNextImageKHR`. -/
def passedSemaphore (s : State) : Action → Option Semaphore
  | .renderToSurface surface _ =>
    if (s.image? surface).isSome then none
    else s.surfaces[surface]?.map fun this => .imageAvailable surface this.getNextSemaphore.1
  | _ => none

/-- Whether an action gets an image if it acquires one. -/
def Acquires : Action → Prop
  | .renderToSurface _ (.success _) | .renderToSurface _ (.suboptimal _) => True
  | _ => False

/-- The fence that an action waits for. -/
def waitedFence (s : State) : Action → Option FrameNumber
  | .beginFrame => some s.inFlightFences.nextFrame.frameNumber
  | .renderToSurface surface _ =>
    if (s.image? surface).isSome then none else some s.inFlightFences.frameNumber
  | .imageReady => (Waiting.acquired s.waiting).head?.bind s.imageFence
  | _ => none

/-- No submitted wait is pending, and every signal has been taken by a wait. -/
def SemaphoreUnused (s : State) (x : Semaphore) : Prop :=
  (∀ batch ∈ s.pending, x ∉ batch.waitSemaphores) ∧
    s.signalled x = total VkSubmit.waitSemaphores s.finished x

def pendingFences (s : State) : List FrameNumber := s.pending.filterMap (·.fence)

/-- The fence is signalled or will be. -/
def FenceCovered (s : State) (k : FrameNumber) : Prop :=
  s.inFlightFences.storage k = true ∨ k ∈ s.pendingFences

/-- The frame that has been ended last. -/
def lastFrame (s : State) : FrameNumber :=
  if s.inFrame then s.inFlightFences.frameNumber + 1 else s.inFlightFences.frameNumber

end State

/-- What is passed to the presentation engine is `passedSemaphore`, and by no other step. -/
theorem acquireNextImage_mem_iff (h : step movedFrom s a = some t) {new : List Operation}
    (hnew : t.operations = s.operations ++ new) (x : Semaphore) :
    .acquireNextImage x ∈ new ↔ Acquires a ∧ x ∈ s.passedSemaphore a := by
  have hnone : t.operations = s.operations → .acquireNextImage x ∉ new := by
    intro hsame
    rw [hsame, List.self_eq_append_right] at hnew
    exact hnew ▸ List.not_mem_nil
  cases a with
  | renderToSurface surface result =>
    obtain ⟨-, h⟩ := Option.ite_none_right_eq_some.mp h
    unfold renderToSurface at h
    split at h
    · rename_i image himage
      obtain rfl := Option.some.inj h
      refine iff_of_false (hnone rfl) fun hx => ?_
      exact absurd hx.2 (by simp [passedSemaphore, himage])
    · rename_i himage
      obtain ⟨this, hthis, h⟩ := Option.bind_eq_some_iff.mp h
      have hpassed : s.passedSemaphore (.renderToSurface surface result) =
          some (.imageAvailable surface this.nextSemaphoreIndex) := by
        simp [passedSemaphore, himage, hthis, VulkanSurface.getNextSemaphore]
      obtain ⟨-, h⟩ := Option.ite_none_right_eq_some.mp h
      cases result with
      | success | suboptimal =>
        obtain ⟨-, h⟩ := Option.ite_none_right_eq_some.mp h
        obtain rfl := Option.some.inj h
        obtain rfl := List.append_cancel_left hnew
        rw [hpassed, List.mem_singleton, Operation.acquireNextImage.injEq, Option.mem_some_iff]
        exact ⟨fun hx => ⟨trivial, hx.symm⟩, fun hx => hx.2.symm⟩
      | errorOutOfDate | error =>
        obtain rfl := Option.some.inj h
        exact iff_of_false (hnone rfl) fun hx => hx.1
  | submitCommandBuffer i =>
    refine iff_of_false ?_ fun hx => hx.1
    cases move_of_step h
    obtain rfl := List.append_cancel_left hnew
    simp
  | endFrame =>
    refine iff_of_false ?_ fun hx => hx.1
    cases move_of_step h with
    | endEmptyFrame => exact hnone rfl
    | endFrame =>
      obtain rfl := List.append_cancel_left hnew
      simp
  | createSurface | beginFrame | imageReady | onResize | recreateSwapchain | schedule | throw
  | gpuComplete =>
    refine iff_of_false ?_ fun hx => hx.1
    cases move_of_step h
    exact hnone rfl

/-! ### The fences -/

structure FencesTrack (s : State) : Prop where
  covered : ∀ k, s.FenceCovered k
  unsignalled : ∀ k ∈ s.pendingFences, s.inFlightFences.storage k = false
  nodup : s.pendingFences.Nodup
  current : s.inFrame = true → s.inFlightFences.current = true

theorem fencesTrack_init : FencesTrack {} where
  covered _ := .inl rfl
  unsignalled _ hk := absurd hk List.not_mem_nil
  nodup := List.nodup_nil
  current _ := rfl

theorem FencesTrack.of_same (h : FencesTrack s) (hfences : t.inFlightFences = s.inFlightFences)
    (hpending : t.pendingFences = s.pendingFences) (hframe : t.inFrame = true → s.inFrame = true) :
    FencesTrack t where
  covered k := by
    unfold FenceCovered
    rw [hfences, hpending]
    exact h.covered k
  unsignalled k hk := hfences ▸ h.unsignalled k (hpending ▸ hk)
  nodup := hpending ▸ h.nodup
  current ht := hfences ▸ h.current (hframe ht)

/-- The fence of the current slot is not pending in a frame. -/
theorem FencesTrack.current_notMem (h : FencesTrack s) (hframe : s.inFrame = true) :
    s.inFlightFences.frameNumber ∉ s.pendingFences := by
  intro hmem
  have hsignalled : s.inFlightFences.storage s.inFlightFences.frameNumber = true := h.current hframe
  exact Bool.noConfusion (hsignalled.symm.trans (h.unsignalled _ hmem))

theorem FencesTrack.move (h : FencesTrack s) (hmove : Move movedFrom s a t) : FencesTrack t := by
  cases hmove with
  | createSurface | render | acquire | outOfDate | error | imageReady | onResize | schedule | throw =>
    exact h.of_same rfl rfl id
  | recreateSwapchain images hwaiting hidle hsame => exact h.of_same rfl rfl id
  | beginFrame hframe hwaiting hfence => exact ⟨h.covered, h.unsignalled, h.nodup, fun _ => hfence⟩
  | endEmptyFrame himages hframe hwaiting => exact h.of_same rfl rfl fun _ => hframe
  | @submitCommandBuffer _ _ bundle =>
    refine h.of_same rfl ?_ id
    unfold pendingFences
    rw [List.filterMap_append]
    cases bundle <;> exact List.append_nil _
  | endFrame himages hframe hwaiting =>
    have hfences : (s.pending ++ [s.frameBatch]).filterMap (·.fence) =
        s.pendingFences ++ [s.inFlightFences.frameNumber] := by
      rw [List.filterMap_append]
      rfl
    have hnot := h.current_notMem hframe
    refine ⟨fun k => ?_, fun k hk => ?_, ?_, fun hf => Bool.noConfusion hf⟩
    · show (s.inFlightFences.setCurrent false).storage k = true ∨ k ∈ List.filterMap _ _
      rw [hfences, List.mem_append, List.mem_singleton]
      by_cases hk : k = s.inFlightFences.frameNumber
      · exact .inr (.inr hk)
      · rw [FrameArray.storage_setCurrent_of_ne hk]
        exact (h.covered k).imp_right .inl
    · show (s.inFlightFences.setCurrent false).storage k = false
      have hk : k ∈ List.filterMap _ _ := hk
      rw [hfences, List.mem_append, List.mem_singleton] at hk
      rcases hk with hk | rfl
      · rw [FrameArray.storage_setCurrent_of_ne fun hcurrent => hnot (hcurrent ▸ hk)]
        exact h.unsignalled k hk
      · exact FrameArray.current_setCurrent
    · show (List.filterMap _ _).Nodup
      rw [hfences]
      exact h.nodup.append (List.nodup_singleton _) (List.disjoint_singleton.mpr hnot)
  | @gpuComplete batch rest hpending =>
    have hfences : s.pendingFences = batch.fence.toList ++ rest.filterMap (·.fence) := by
      unfold pendingFences
      rw [hpending]
      cases hfence : batch.fence <;> simp [hfence]
    have hnodup := h.nodup
    rw [hfences] at hnodup
    refine ⟨fun k => ?_, fun k hk => ?_, hnodup.of_append_right, fun hf => ?_⟩
    · rcases h.covered k with hk | hk
      · exact .inl (Bool.or_eq_true_iff.mpr (.inl hk))
      · rw [hfences, List.mem_append, Option.mem_toList] at hk
        rcases hk with hk | hk
        · exact .inl (Bool.or_eq_true_iff.mpr (.inr (decide_eq_true hk)))
        · exact .inr hk
    · have hne : batch.fence ≠ some k := fun hfence =>
        List.disjoint_of_nodup_append hnodup (Option.mem_toList.mpr hfence) hk
      refine Bool.or_eq_false_iff.mpr ⟨h.unsignalled k ?_, decide_eq_false hne⟩
      rw [hfences]
      exact List.mem_append_right _ hk
    · exact Bool.or_eq_true_iff.mpr (.inl (h.current hf))

/-! ### The semaphores -/

/-- The semaphore is not the next one of its surface, or the surface has an image of this frame. -/
def Turned (s : State) (x : Semaphore) : Prop :=
  ∃ surface index, x = .imageAvailable surface index ∧
    (s.nextSemaphores[surface]? = some (index + 1) ∨
      ∃ image ∈ s.acquiredImages, image.surface = surface)

structure Rotates (s : State) : Prop where
  surface : ∀ image ∈ s.acquiredImages, ∃ index,
    image.imageAvailable = .imageAvailable image.surface index ∧
      s.nextSemaphores[image.surface]? = some (index + 1)
  fenced : ∀ batch ∈ s.pending, ∀ x ∈ batch.waitSemaphores, batch.fence.isSome = true
  last : (∀ surface, s.waiting ≠ some (.deviceIdle surface)) → ∀ batch ∈ s.pending,
    batch.fence = some s.lastFrame → ∀ x ∈ batch.waitSemaphores, Turned s x

theorem rotates_init : Rotates {} where
  surface := by simp [acquiredImages, Waiting.acquired]
  fenced := by simp
  last := by simp

theorem Turned.of_same (hnext : ∀ (surface : Nat) index, s.nextSemaphores[surface]? = some index →
      t.nextSemaphores[surface]? = some index)
    (himages : t.acquiredImages = s.acquiredImages) {x : Semaphore} (h : Turned s x) :
    Turned t x := by
  obtain ⟨surface, index, rfl, h⟩ := h
  exact ⟨surface, index, rfl, h.imp (hnext surface _) (himages ▸ ·)⟩

theorem Rotates.of_same (h : Rotates s) (hnext : ∀ (surface : Nat) index,
      s.nextSemaphores[surface]? = some index → t.nextSemaphores[surface]? = some index)
    (himages : t.acquiredImages = s.acquiredImages)
    (hpending : ∀ batch ∈ t.pending, batch ∈ s.pending ∨ batch.waitSemaphores = [])
    (hlast : t.lastFrame = s.lastFrame) (hwaiting : ∀ surface,
      s.waiting = some (.deviceIdle surface) → t.waiting = some (.deviceIdle surface)) :
    Rotates t where
  surface image hmem := by
    obtain ⟨index, himage, hindex⟩ := h.surface image (himages ▸ hmem)
    exact ⟨index, himage, hnext _ _ hindex⟩
  fenced batch hmem x hx := by
    rcases hpending batch hmem with hold | hnone
    · exact h.fenced batch hold x hx
    · exact absurd (hnone ▸ hx) List.not_mem_nil
  last hidle batch hmem hfence x hx := by
    rcases hpending batch hmem with hold | hnone
    · refine (h.last ?_ batch hold (hlast ▸ hfence) x hx).of_same hnext himages
      exact fun surface hw => hidle surface (hwaiting surface hw)
    · exact absurd (hnone ▸ hx) List.not_mem_nil

/-- A surface whose semaphores have been turned is the only one. -/
theorem nextSemaphores_set {surface other : Nat} {this : VulkanSurface} (hne : other ≠ surface) :
    ((s.surfaces.set surface this.getNextSemaphore.2).map (·.nextSemaphoreIndex))[other]? =
      s.nextSemaphores[other]? := by
  rw [List.map_set, List.getElem?_set_ne hne.symm]
  rfl

theorem ne_deviceIdle_of_idle (h : s.waiting = none) (surface : Nat) :
    s.waiting ≠ some (.deviceIdle surface) := by
  rw [h]
  exact (Option.some_ne_none _).symm

theorem add_one_add_one (k : FrameNumber) : k + 1 + 1 = k := by
  revert k
  decide

theorem Rotates.move (h : Rotates s) (hfences : FencesTrack s) (ha : AcquiresOrResizes a)
    (hmove : Move movedFrom s a t) : Rotates t := by
  cases hmove with
  | createSurface images surface =>
    refine h.of_same (fun k index hk => ?_) rfl (fun _ => .inl) rfl fun _ => id
    obtain ⟨hlt, -⟩ := List.getElem?_eq_some_iff.mp hk
    show (List.map _ (s.surfaces ++ [surface]))[k]? = some index
    rw [List.map_append]
    exact (List.getElem?_append_left hlt).trans hk
  | render | schedule | throw =>
    exact h.of_same (fun _ _ => id) rfl (fun _ => .inl) rfl fun _ => id
  | beginFrame hframe hwaiting hfence =>
    refine h.of_same (fun _ _ => id) rfl (fun _ => .inl) ?_ fun _ => id
    simp only [lastFrame, hframe, if_true, Bool.false_eq_true, if_false, FrameArray.nextFrame]
    exact add_one_add_one _
  | @acquire surface result this imageIndex hframe hwaiting hnew hthis =>
    have himages := acquiredImages_of_idle hwaiting
    refine ⟨fun image hmem => ?_, h.fenced, fun _ batch hmem hfence x hx => ?_⟩
    · rcases List.mem_append.mp hmem with hmem | hmem
      · obtain ⟨index, himage, hindex⟩ := h.surface image (himages ▸ hmem)
        exact ⟨index, himage, (nextSemaphores_set (hnew image hmem)).trans hindex⟩
      · rw [List.mem_singleton.mp hmem]
        refine ⟨this.nextSemaphoreIndex, rfl, ?_⟩
        obtain ⟨hlt, -⟩ := List.getElem?_eq_some_iff.mp hthis
        show (List.map _ (s.surfaces.set surface _))[surface]? = _
        rw [List.getElem?_map, List.getElem?_set_self hlt]
        rfl
    · obtain ⟨other, index, rfl, hturned⟩ :=
        h.last (ne_deviceIdle_of_idle hwaiting) batch hmem hfence x hx
      refine ⟨other, index, rfl, ?_⟩
      by_cases hother : other = surface
      · exact .inr ⟨_, List.mem_append_right _ (List.mem_singleton_self _), hother.symm⟩
      · refine hturned.imp (nextSemaphores_set hother).trans ?_
        rintro ⟨image, himage, rfl⟩
        exact ⟨image, List.mem_append_left _ (himages ▸ himage), rfl⟩
  | outOfDate hframe hwaiting hnew =>
    have himages := acquiredImages_of_idle hwaiting
    refine ⟨fun image hmem => ?_, h.fenced, fun hidle => absurd rfl (hidle _)⟩
    have hmem : image ∈ s.acquiredImages := acquiredImages_deviceIdle hwaiting _ ▸ hmem
    obtain ⟨index, himage, hindex⟩ := h.surface image hmem
    exact ⟨index, himage, (nextSemaphores_set (hnew image (himages ▸ hmem))).trans hindex⟩
  | error hframe hwaiting => exact absurd ha id
  | imageReady hwaiting hsame =>
    refine h.of_same (fun k index hk => ?_) (acquiredImages_imageReady hwaiting) (fun _ => .inl) rfl
      fun surface hw => ?_
    · exact (congrArg (·[k]?) hsame).trans hk
    · exact Waiting.noConfusion (Option.some.inj (hwaiting.symm.trans hw))
  | onResize surface hwaiting =>
    refine ⟨fun image hmem => h.surface image ?_, h.fenced, fun hidle => absurd rfl (hidle _)⟩
    exact acquiredImages_deviceIdle hwaiting surface ▸ hmem
  | recreateSwapchain images hwaiting hidle hsame =>
    have hnone {batch : VkSubmit} (hmem : batch ∈ s.pending) : False := by
      rw [hidle] at hmem
      exact List.not_mem_nil hmem
    refine ⟨fun image hmem => ?_, fun batch hmem => (hnone hmem).elim,
      fun _ batch hmem => (hnone hmem).elim⟩
    have hmem : image ∈ s.acquiredImages := acquiredImages_recreateSwapchain hwaiting ▸ hmem
    obtain ⟨index, himage, hindex⟩ := h.surface image hmem
    exact ⟨index, himage, (congrArg (·[image.surface]?) hsame).trans hindex⟩
  | @submitCommandBuffer _ _ bundle =>
    refine h.of_same (fun _ _ => id) rfl (fun batch hmem => ?_) rfl fun _ => id
    refine (List.mem_append.mp hmem).imp_right fun hnew => ?_
    obtain ⟨_, -, rfl⟩ := List.mem_map.mp hnew
    rfl
  | endEmptyFrame himages hframe hwaiting =>
    refine ⟨h.surface, h.fenced, fun _ batch hmem hfence => ?_⟩
    exact absurd (List.mem_filterMap.mpr ⟨batch, hmem, hfence⟩) (hfences.current_notMem hframe)
  | endFrame himages hframe hwaiting =>
    have hacquired := acquiredImages_of_idle hwaiting
    refine ⟨fun image hmem => ?_, fun batch hmem x hx => ?_, fun _ batch hmem hfence x hx => ?_⟩
    · exact absurd (acquiredImages_endFrame hwaiting ▸ hmem) List.not_mem_nil
    · rcases List.mem_append.mp hmem with hold | hnew
      · exact h.fenced batch hold x hx
      · rw [List.mem_singleton.mp hnew]
        rfl
    · rcases List.mem_append.mp hmem with hold | hnew
      · exact absurd (List.mem_filterMap.mpr ⟨batch, hold, hfence⟩)
          (hfences.current_notMem hframe)
      · rw [List.mem_singleton.mp hnew] at hx
        obtain ⟨image, himage, rfl⟩ := List.mem_map.mp hx
        obtain ⟨index, himage, hindex⟩ := h.surface image (hacquired ▸ himage)
        exact ⟨_, index, himage, .inl hindex⟩
  | gpuComplete hpending =>
    refine h.of_same (fun _ _ => id) rfl (fun batch hmem => .inl ?_) rfl fun _ => id
    rw [hpending]
    exact List.mem_cons_of_mem _ hmem

/-! ### Runs -/

structure Inv (s : State) : Prop where
  fences : FencesTrack s
  accounted : Accounted s
  rotates : Rotates s

theorem inv_of_exec {as : List Action} (h : exec (step movedFrom) {} as = some s)
    (ha : Each (step movedFrom) (fun _ a => AcquiresOrResizes a) {} as) : Inv s := by
  refine exec_invariant_of_each (fun s a t hs ha hstep => ?_)
    ⟨fencesTrack_init, accounted_init, rotates_init⟩ ha h
  have hmove := move_of_step hstep
  exact ⟨hs.fences.move hmove, hs.accounted.move hmove, hs.rotates.move hs.fences ha hmove⟩

theorem image?_isSome {image : SurfaceImage} (h : image ∈ s.surfacesToPresent) :
    (s.image? image.surface).isSome = true :=
  List.find?_isSome.mpr ⟨image, h, decide_eq_true rfl⟩

theorem eq_add_one_of_ne {j k : FrameNumber} (h : j ≠ k) : j = k + 1 := by
  revert j k
  decide

/-- A surface that has no image of the frame passes a semaphore that nothing pending waits on. -/
theorem Inv.not_pending (h : Inv s) (hframe : s.inFrame = true) (hwaiting : s.waiting = none)
    {surface : Nat} {this : VulkanSurface} (himage : s.image? surface = none)
    (hthis : s.surfaces[surface]? = some this) :
    ∀ batch ∈ s.pending, .imageAvailable surface this.nextSemaphoreIndex ∉ batch.waitSemaphores := by
  intro batch hbatch hx
  obtain ⟨k, hk⟩ := Option.isSome_iff_exists.mp (h.rotates.fenced batch hbatch _ hx)
  have hne : k ≠ s.inFlightFences.frameNumber := by
    rintro rfl
    exact h.fences.current_notMem hframe (List.mem_filterMap.mpr ⟨batch, hbatch, hk⟩)
  have hlast : s.lastFrame = k := by
    rw [lastFrame, if_pos hframe, ← eq_add_one_of_ne hne]
  obtain ⟨other, index, heq, hturned⟩ :=
    h.rotates.last (ne_deviceIdle_of_idle hwaiting) batch hbatch (hlast ▸ hk) _ hx
  obtain ⟨rfl, rfl⟩ := Semaphore.imageAvailable.inj heq
  rcases hturned with hnext | ⟨image, hmem, rfl⟩
  · rw [nextSemaphores, List.getElem?_map, hthis, Option.map_some, Option.some.injEq] at hnext
    revert hnext
    generalize this.nextSemaphoreIndex = index
    revert index
    decide
  · rw [acquiredImages_of_idle hwaiting] at hmem
    exact absurd himage (Option.isSome_iff_ne_none.mp (image?_isSome hmem))

theorem Inv.semaphoreUnused (h : Inv s) (hstep : step movedFrom s a = some t) :
    ∀ x ∈ s.passedSemaphore a, s.SemaphoreUnused x := by
  intro x hx
  cases a with
  | renderToSurface surface result =>
    obtain ⟨⟨hframe, hwaiting⟩, -⟩ := Option.ite_none_right_eq_some.mp hstep
    have hwaiting : s.waiting = none := Option.isNone_iff_eq_none.mp hwaiting
    obtain ⟨himage, hx⟩ := Option.ite_none_left_eq_some.mp hx
    have himage : s.image? surface = none := by simpa using himage
    obtain ⟨this, hthis, rfl⟩ := Option.map_eq_some_iff.mp hx
    have hpending := h.not_pending hframe hwaiting himage hthis
    refine ⟨hpending, ?_⟩
    -- nor has the frame an image of the surface that is still to be waited for
    have himages : (s.acquiredImages.map (·.imageAvailable)).count
        (.imageAvailable surface this.nextSemaphoreIndex) = 0 := by
      refine List.count_eq_zero.mpr fun hcount => ?_
      obtain ⟨image, hmem, heq⟩ := List.mem_map.mp hcount
      obtain ⟨index, hindex⟩ := h.accounted.surface image hmem
      obtain ⟨rfl, -⟩ := Semaphore.imageAvailable.inj (hindex.symm.trans heq)
      rw [acquiredImages_of_idle hwaiting] at hmem
      exact absurd himage (Option.isSome_iff_ne_none.mp (image?_isSome hmem))
    have hsignalled := h.accounted.signalled surface this.nextSemaphoreIndex
    have hwaited := h.accounted.waited surface this.nextSemaphoreIndex
    have hzero := total_eq_zero hpending
    rw [total_append] at hwaited
    show s.signalled (.imageAvailable surface this.nextSemaphoreIndex) =
      total _ _ (Semaphore.imageAvailable surface this.nextSemaphoreIndex)
    omega
  | createSurface | beginFrame | imageReady | onResize | recreateSwapchain | schedule
  | submitCommandBuffer | throw | endFrame | gpuComplete => exact absurd hx (Option.not_mem_none x)

/-- After any run, a semaphore that `AcquireNextImage` passes to the presentation engine is not in use,
and a fence that `BeginFrame` or `AcquireNextImage` waits for is signalled or will be. -/
theorem acquire_safe {as : List Action} (h : exec (step movedFrom) {} as = some s)
    (ha : Each (step movedFrom) (fun _ a => AcquiresOrResizes a) {} as) :
    (∀ a t, step movedFrom s a = some t → ∀ x ∈ s.passedSemaphore a, s.SemaphoreUnused x) ∧
      ∀ a, ∀ k ∈ s.waitedFence a, s.FenceCovered k := by
  have hinv := inv_of_exec h ha
  exact ⟨fun a t hstep => hinv.semaphoreUnused hstep, fun a k _ => hinv.fences.covered k⟩

/-- The second surface is out of date in the first frame, and is about to be rendered to in the second
one. -/
def twoSurfaces : List Action :=
  [.createSurface 3, .createSurface 2, .beginFrame, .renderToSurface 0 (.success 0), .imageReady,
    .renderToSurface 1 .errorOutOfDate, .submitCommandBuffer 0, .gpuComplete, .recreateSwapchain 2,
    .renderToSurface 1 (.suboptimal 1), .imageReady, .submitCommandBuffer 0, .endFrame, .beginFrame,
    .renderToSurface 0 (.success 1), .imageReady, .submitCommandBuffer 0]

theorem acquire_safe_twoSurfaces : ∃ s, exec (step fun _ => none) {} twoSurfaces = some s ∧
    s.SemaphoreUnused (.imageAvailable 1 0) ∧ s.FenceCovered 0 := by
  obtain ⟨s, hs, hstep, hsemaphore, hfence⟩ : ∃ s, exec (step fun _ => none) {} twoSurfaces = some s ∧
      (step (fun _ => none) s (.renderToSurface 1 (.success 0))).isSome = true ∧
      s.passedSemaphore (.renderToSurface 1 (.success 0)) = some (.imageAvailable 1 0) ∧
      s.waitedFence (.renderToSurface 1 (.success 0)) = some 0 := ⟨_, rfl, rfl, rfl, rfl⟩
  obtain ⟨t, ht⟩ := Option.isSome_iff_exists.mp hstep
  obtain ⟨hunused, hcovered⟩ := acquire_safe hs (by decide)
  exact ⟨s, hs, hunused _ t ht _ hsemaphore, hcovered _ _ hfence⟩

end Teide.Surface
