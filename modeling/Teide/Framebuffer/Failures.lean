import Teide.Framebuffer.Cache
import Teide.Graph.Basic
import Teide.Lib.Caches

/-!
# Render passes and framebuffers that cannot be created

`CreateRenderPass` and `CreateFramebuffer` look into their cache under a lock, by `emplace` with a
null handle, and create the object if the entry is new. When Vulkan throws, the null handle stays in
the cache. What one call does is that of `Caches`; the two caches do not touch each other.

The result of the Vulkan call, `none` if it throws, comes with each call, whether or not it is made. The
handles of Vulkan are not null.
-/

namespace Teide.CreationFailures

open Runs
open Caches (Cache Outcome)
open FramebufferCache (FramebufferDesc)

deriving instance DecidableEq for FramebufferUsage, FramebufferLayout, RenderPassInfo

structure RenderPassDesc where
  framebufferLayout : FramebufferLayout
  renderPassInfo : RenderPassInfo
  usage : FramebufferUsage := .shaderInput
  deriving DecidableEq

/-- What `CreateFramebuffer` returns. -/
structure Framebuffer where
  framebuffer : Option UInt64
  layout : FramebufferLayout
  size : Size2i

structure Device where
  renderPassCache : Cache RenderPassDesc UInt64 := {}
  framebufferCache : Cache FramebufferDesc UInt64 := {}

inductive Call where
  | createRenderPass (framebufferLayout : FramebufferLayout) (clearState : ClearState)
      (usage : FramebufferUsage) (created : Option UInt64)
  | createFramebuffer (renderPass : UInt64) (layout : FramebufferLayout) (size : Size2i)
      (attachments : List UInt64) (created : Option UInt64)

/-- The key of `CreateRenderPass`. -/
def renderPassDesc (framebufferLayout : FramebufferLayout) (clearState : ClearState)
    (usage : FramebufferUsage) : RenderPassDesc where
  framebufferLayout := framebufferLayout
  renderPassInfo :=
    { colorLoadOp := if clearState.colorValue.isSome then .clear else .dontCare
      colorStoreOp := if framebufferLayout.captureColor then .store else .dontCare
      depthLoadOp := if clearState.depthValue.isSome then .clear else .dontCare
      depthStoreOp := if framebufferLayout.captureDepthStencil then .store else .dontCare
      stencilLoadOp := if clearState.stencilValue.isSome then .clear else .dontCare
      stencilStoreOp := if framebufferLayout.captureDepthStencil then .store else .dontCare }
  usage := usage

namespace Device

def createRenderPass (s : Device) (framebufferLayout : FramebufferLayout) (clearState : ClearState)
    (usage : FramebufferUsage) (created : Option UInt64) : Outcome UInt64 × Device :=
  let desc := renderPassDesc framebufferLayout clearState usage
  let (outcome, renderPassCache) := s.renderPassCache.lookup desc created
  (outcome, { s with renderPassCache })

/-- The framebuffer that is returned if the call does not throw, with what has been done for it. -/
def createFramebuffer (s : Device) (renderPass : UInt64) (layout : FramebufferLayout) (size : Size2i)
    (attachments : List UInt64) (created : Option UInt64) :
    Outcome UInt64 × Option Framebuffer × Device :=
  let desc : FramebufferDesc := { renderPass, size, attachments }
  let (outcome, framebufferCache) := s.framebufferCache.lookup desc created
  (outcome, outcome.returned.map fun framebuffer => { framebuffer, layout, size },
    { s with framebufferCache })

/-- The calls go on after an exception. -/
def step (s : Device) : Call → Option Device
  | .createRenderPass framebufferLayout clearState usage created =>
    some (s.createRenderPass framebufferLayout clearState usage created).2
  | .createFramebuffer renderPass layout size attachments created =>
    some (s.createFramebuffer renderPass layout size attachments created).2.2

/-- The call returns no null handle, and attempts the creation if it has failed before. -/
def Recovers (s : Device) : Call → Prop
  | .createRenderPass framebufferLayout clearState usage created =>
    let (outcome, _) := s.createRenderPass framebufferLayout clearState usage created
    outcome.returned ≠ some none ∧
      (renderPassDesc framebufferLayout clearState usage ∈ s.renderPassCache.failed →
        outcome.attempted = true)
  | .createFramebuffer renderPass layout size attachments created =>
    let (outcome, framebuffer, _) := s.createFramebuffer renderPass layout size attachments created
    (∀ fb ∈ framebuffer, fb.framebuffer ≠ none) ∧
      ({ renderPass, size, attachments } ∈ s.framebufferCache.failed → outcome.attempted = true)

/-- No creation with the key of the call has failed before. -/
def NeverFailed (s : Device) : Call → Prop
  | .createRenderPass framebufferLayout clearState usage _ =>
    renderPassDesc framebufferLayout clearState usage ∉ s.renderPassCache.failed
  | .createFramebuffer renderPass _ size attachments _ =>
    { renderPass, size, attachments } ∉ s.framebufferCache.failed

instance (s : Device) : ∀ call, Decidable (s.NeverFailed call)
  | .createRenderPass .. | .createFramebuffer .. => inferInstanceAs (Decidable (¬ _ ∈ _))

/-! ### Runs -/

variable {s t : Device} {call : Call}

/-- Both caches have empty entries for the failed keys only. -/
def Inv (s : Device) : Prop :=
  s.renderPassCache.Inv ∧ s.framebufferCache.Inv

theorem inv_init : Inv {} :=
  ⟨Caches.inv_empty, Caches.inv_empty⟩

theorem Inv.step (h : s.Inv) (hstep : step s call = some t) : t.Inv := by
  cases call with
  | createRenderPass framebufferLayout clearState usage created =>
    obtain rfl := Option.some.inj hstep
    exact ⟨h.1.lookup, h.2⟩
  | createFramebuffer renderPass layout size attachments created =>
    obtain rfl := Option.some.inj hstep
    exact ⟨h.1, h.2.lookup⟩

/-- A framebuffer is null exactly if the handle that the cache returns is. -/
theorem forall_framebuffer_ne_none_iff (layout : FramebufferLayout) (size : Size2i)
    (returned : Option (Option UInt64)) :
    (∀ fb ∈ returned.map fun framebuffer => Framebuffer.mk framebuffer layout size,
      fb.framebuffer ≠ none) ↔ returned ≠ some none := by
  cases returned with
  | none => simp
  | some framebuffer => simp

theorem recovers_iff (h : s.Inv) : s.Recovers call ↔ s.NeverFailed call := by
  cases call with
  | createRenderPass framebufferLayout clearState usage created =>
    exact h.1.recovers_iff _ created
  | createFramebuffer renderPass layout size attachments created =>
    have hiff := h.2.recovers_iff ⟨renderPass, size, attachments⟩ created
    have hreturned := forall_framebuffer_ne_none_iff layout size (s.framebufferCache.lookup
      ⟨renderPass, size, attachments⟩ created).1.returned
    exact (and_congr hreturned Iff.rfl).trans hiff

theorem exists_exec (s : Device) (calls : List Call) : ∃ u, exec step s calls = some u := by
  induction calls generalizing s with
  | nil => exact ⟨s, rfl⟩
  | cons call calls ih =>
    obtain ⟨t, ht⟩ : ∃ t, s.step call = some t := by
      cases call with
      | createRenderPass => exact ⟨_, rfl⟩
      | createFramebuffer => exact ⟨_, rfl⟩
    obtain ⟨u, hu⟩ := ih t
    exact ⟨u, exec_cons_eq_some.mpr ⟨t, ht, hu⟩⟩

/-- In every run, a call recovers exactly if no creation with its key has failed before. -/
theorem each_recovers_iff (calls : List Call) :
    Each step Recovers {} calls ↔ Each step NeverFailed {} calls := by
  obtain ⟨u, hexec⟩ := exists_exec {} calls
  exact each_iff_each (fun s call t hs hstep => hs.step hstep)
    (fun s call t hs _ => recovers_iff hs) inv_init hexec

/-- A render pass cannot be created, and the next call returns a null handle. -/
theorem not_each_recovers : ¬ ∀ calls, Each step Recovers {} calls := by
  intro h
  have heach := h [.createRenderPass { colorFormat := some .byte4Norm } {} .shaderInput none,
    .createRenderPass { colorFormat := some .byte4Norm } {} .shaderInput (some 1)]
  have hreturned := heach.2.1.1
  exact hreturned rfl

end Device

end Teide.CreationFailures
