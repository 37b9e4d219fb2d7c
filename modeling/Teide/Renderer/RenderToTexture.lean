import Mathlib.Data.List.Forall2
import Mathlib.Data.List.Nodup
import Teide.Lib.Words
import Teide.Texture.Download

/-!
# Rendering to textures

`RenderToTexture` creates textures for the attachments that its framebuffer layout asks for, has them
rendered to by a render pass of their own, and returns those that are to be captured. From then on
they are used like any other texture: later render passes sample them, and `CopyTextureData` copies
them out.

The calls of a program record commands, which the GPU executes in the order of the calls. `Gpu` is
what the GPU has of images: the layout of each mip level, and the render pass whose results an image
holds. A command is executed only if the layouts are those that it names, and a render pass only if
its framebuffer has the attachments that it was made for. The images of surfaces are left out.
-/

namespace Teide

namespace VulkanTexture

def transitionToColorTarget (texture : VulkanTexture) (state : TextureState) :
    TextureState × List TextureCommand :=
  texture.doTransition state .colorAttachmentOptimal {.colorAttachmentOutput}

def transitionToDepthStencilTarget (texture : VulkanTexture) (state : TextureState) :
    TextureState × List TextureCommand :=
  texture.doTransition state .depthStencilAttachmentOptimal
    {.earlyFragmentTests, .lateFragmentTests}

def transitionToRenderTarget (texture : VulkanTexture) (state : TextureState) :
    TextureState × List TextureCommand :=
  if hasDepthOrStencilComponent texture.properties.format then
    texture.transitionToDepthStencilTarget state
  else texture.transitionToColorTarget state

end VulkanTexture

/-- `CreateRenderableTexture`: the texture, and the commands that make it a target. -/
def createRenderableTexture (image : Image) (data : TextureData) :
    VulkanTexture × List TextureCommand :=
  let isColorTarget := !hasDepthOrStencilComponent data.format
  let renderUsage : ImageUsage :=
    if isColorTarget then .colorAttachment else .depthStencilAttachment
  let texture : VulkanTexture :=
    { image := image
      usage := {renderUsage, .sampled, .transferSrc}
      properties :=
        { size := data.size
          format := data.format
          mipLevelCount := data.mipLevelCount
          sampleCount := data.sampleCount } }
  let state : TextureState := { layout := .undefined, lastPipelineStageUsage := {.topOfPipe} }
  let (_, commands) := if isColorTarget then texture.transitionToColorTarget state
    else texture.transitionToDepthStencilTarget state
  (texture, commands)

/-- What has been rendered is there after the pass. -/
def AttachmentDescription.Stored (attachment : AttachmentDescription) : Prop :=
  attachment.storeOp = .store ∧ attachment.stencilStoreOp = .store

instance : DecidablePred AttachmentDescription.Stored := fun _ =>
  inferInstanceAs (Decidable (_ ∧ _))

namespace RenderToTexture

open Runs

/-! ### The GPU -/

structure Framebuffer where
  size : Size2i
  attachments : List VulkanTexture

inductive GpuCommand where
  | texture (image : Image) (command : TextureCommand)
  | renderPass (attachments : List AttachmentDescription) (framebuffer : Framebuffer)
      (sampled : List VulkanTexture)

structure Gpu where
  layouts : Image → LevelLayouts := fun _ _ => .undefined
  /-- the render pass whose results an image holds, by the number of passes before it -/
  rendered : Image → Option Nat := fun _ => none
  passes : Nat := 0

namespace Gpu

/-- All levels are in the layout that descriptors for the texture name. -/
def Ready (gpu : Gpu) (texture : VulkanTexture) : Prop :=
  ∀ level < texture.properties.mipLevelCount.toNat,
    gpu.layouts texture.image level = shaderInputLayout texture.properties.format

/-- The texture can be this attachment of a framebuffer. -/
def Fits (gpu : Gpu) (size : Size2i) (attachment : AttachmentDescription) (texture : VulkanTexture) :
    Prop :=
  texture.properties.size = size ∧ texture.properties.format = attachment.format ∧
    texture.properties.sampleCount = attachment.samples ∧
    (attachment.initialLayout = .undefined ∨
      gpu.layouts texture.image 0 = attachment.initialLayout)

def RenderPassOk (gpu : Gpu) (attachments : List AttachmentDescription) (framebuffer : Framebuffer)
    (sampled : List VulkanTexture) : Prop :=
  attachments.Forall₂ (gpu.Fits framebuffer.size) framebuffer.attachments ∧
    ∀ texture ∈ sampled, gpu.Ready texture

instance (gpu : Gpu) (texture : VulkanTexture) : Decidable (gpu.Ready texture) :=
  inferInstanceAs (Decidable (∀ level < _, _))

instance (gpu : Gpu) (size : Size2i) :
    DecidableRel (gpu.Fits size : AttachmentDescription → VulkanTexture → Prop) := fun _ _ =>
  inferInstanceAs (Decidable (_ ∧ _ ∧ _ ∧ _))

instance (gpu : Gpu) (attachments : List AttachmentDescription) (framebuffer : Framebuffer)
    (sampled : List VulkanTexture) : Decidable (gpu.RenderPassOk attachments framebuffer sampled) :=
  inferInstanceAs (Decidable (_ ∧ _))

/-- What the end of a render pass does to an attachment. -/
def endAttachment (gpu : Gpu) (a : AttachmentDescription × VulkanTexture) : Gpu :=
  let (attachment, texture) := a
  let layouts := Function.update (gpu.layouts texture.image) 0 attachment.finalLayout
  { gpu with
    layouts := Function.update gpu.layouts texture.image layouts
    rendered := Function.update gpu.rendered texture.image
      (if attachment.Stored then some gpu.passes else none) }

def endRenderPass (gpu : Gpu) (attachments : List (AttachmentDescription × VulkanTexture)) : Gpu :=
  let gpu := attachments.foldl endAttachment gpu
  { gpu with passes := gpu.passes + 1 }

def execute (gpu : Gpu) : GpuCommand → Option Gpu
  | .texture image command => (command.execute (gpu.layouts image)).map fun layouts =>
    { gpu with layouts := Function.update gpu.layouts image layouts }
  | .renderPass attachments framebuffer sampled =>
    if gpu.RenderPassOk attachments framebuffer sampled then
      some (gpu.endRenderPass (attachments.zip framebuffer.attachments))
    else none

end Gpu

/-! ### The calls -/

structure RenderTarget where
  color : Option VulkanTexture
  depthStencil : Option VulkanTexture
  colorResolved : Option VulkanTexture
  depthStencilResolved : Option VulkanTexture

/-- The textures of a render target. There are names for four images, used or not. -/
def renderTarget (images : Nat) (info : RenderTargetInfo) : RenderTarget :=
  let fb := info.framebufferLayout
  let create (image : Image) (format : Option Format) (sampleCount : UInt32) :=
    format.map fun format =>
      (createRenderableTexture image
        { size := info.size, format := format, mipLevelCount := 1, sampleCount := sampleCount }).1
  { color := create images fb.colorFormat fb.sampleCount
    depthStencil := create (images + 1) fb.depthStencilFormat fb.sampleCount
    colorResolved :=
      if fb.sampleCount > 1 ∧ fb.resolveColor then create (images + 2) fb.colorFormat 1 else none
    depthStencilResolved :=
      if fb.sampleCount > 1 ∧ fb.resolveDepthStencil then create (images + 3) fb.depthStencilFormat 1
      else none }

namespace RenderTarget

def attachments (rt : RenderTarget) : List VulkanTexture :=
  rt.color.toList ++ rt.depthStencil.toList ++ rt.colorResolved.toList ++ rt.depthStencilResolved.toList

/-- What is captured of a render target. -/
def captured (rt : RenderTarget) (fb : FramebufferLayout) : List VulkanTexture :=
  (if fb.captureColor then rt.colorResolved <|> rt.color else none).toList ++
    (if fb.captureDepthStencil then rt.depthStencilResolved <|> rt.depthStencil else none).toList

end RenderTarget

/-- The commands for a target: those of its creation, the transitions, and the render pass. -/
def renderCommands (rt : RenderTarget) (info : RenderTargetInfo) (clearState : ClearState)
    (sampled : List VulkanTexture) : List GpuCommand :=
  let create := rt.attachments.flatMap fun texture =>
    (createRenderableTexture texture.image texture.properties.data).2.map (.texture texture.image)
  let transitions := rt.attachments.flatMap fun texture =>
    (texture.transitionToRenderTarget {}).2.map (.texture texture.image)
  create ++ transitions ++
    [.renderPass (Device.createRenderPass info.framebufferLayout clearState .shaderInput)
      ⟨info.size, rt.attachments⟩ sampled]

/-- The assertions of `RenderToTexture` and of `CreateRenderPass`. -/
def Asserted (fb : FramebufferLayout) : Prop :=
  (fb.captureColor ∨ fb.captureDepthStencil) ∧ (fb.resolveColor → fb.captureColor) ∧
    (fb.resolveDepthStencil → fb.captureDepthStencil) ∧
    (fb.colorFormat.isSome ∨ fb.depthStencilFormat.isSome) ∧
    (∀ format ∈ fb.colorFormat, hasDepthOrStencilComponent format = false ∧ format ≠ .unknown) ∧
    (∀ format ∈ fb.depthStencilFormat,
      hasDepthOrStencilComponent format = true ∧ format ≠ .unknown) ∧
    ¬ (fb.sampleCount ≠ 1 ∧ fb.resolveDepthStencil) ∧
    (fb.sampleCount ≠ 1 → fb.resolveColor → fb.colorFormat.isSome)

instance (fb : FramebufferLayout) : Decidable (Asserted fb) :=
  inferInstanceAs (Decidable (_ ∧ _ ∧ _ ∧ _ ∧ _ ∧ _ ∧ _ ∧ _))

/-- A texture that a call has returned, with the render pass that it is to show. -/
structure ReturnedTexture extends VulkanTexture where
  pass : Option Nat := none

structure State where
  textures : List ReturnedTexture := []
  images : Nat := 0
  passes : Nat := 0
  commands : List GpuCommand := []

inductive Action where
  | createTexture (data : TextureContents)
  | renderToTexture (info : RenderTargetInfo) (clearState : ClearState) (sampled : List Nat)
  | copyTextureData (texture : Nat)

namespace State

def createTexture (s : State) (data : TextureContents) : State :=
  { s with
    textures := s.textures ++ [{ createdTexture s.images data with }]
    images := s.images + 1
    commands := s.commands ++ (Teide.createTexture s.images data).map (.texture s.images) }

def renderToTexture (s : State) (info : RenderTargetInfo) (clearState : ClearState)
    (sampled : List VulkanTexture) : State :=
  let rt := renderTarget s.images info
  { textures := s.textures ++ (rt.captured info.framebufferLayout).map fun texture =>
      { texture with pass := some s.passes }
    images := s.images + 4
    passes := s.passes + 1
    commands := s.commands ++ renderCommands rt info clearState sampled }

def copyTextureData (s : State) (texture : VulkanTexture) : State :=
  { s with
    commands := s.commands ++ (Teide.copyTextureData texture).map (.texture texture.image) }

/-- `none` if an assertion fails, or a texture has not been returned. Vulkan has no images without
levels or samples. -/
def step (s : State) : Action → Option State
  | .createTexture data => if 1 ≤ data.mipLevelCount then some (s.createTexture data) else none
  | .renderToTexture info clearState sampled =>
    if Asserted info.framebufferLayout ∧ 1 ≤ info.framebufferLayout.sampleCount then
      (sampled.mapM fun k => s.textures[k]?).map fun sampled =>
        s.renderToTexture info clearState (sampled.map (·.toVulkanTexture))
    else none
  | .copyTextureData k =>
    s.textures[k]?.bind fun texture =>
      if texture.properties.sampleCount = 1 then some (s.copyTextureData texture.toVulkanTexture)
      else none

end State

variable {s t : State} {gpu : Gpu} {fb : FramebufferLayout} {info : RenderTargetInfo}
  {image : Image} {size : Size2i}

/-! ### Running commands -/

/-- Commands on one image leave the others alone. -/
theorem exec_map_texture (gpu : Gpu) (image : Image) (commands : List TextureCommand) :
    exec Gpu.execute gpu (commands.map (.texture image)) =
      (exec TextureCommand.execute (gpu.layouts image) commands).map fun layouts =>
        { gpu with layouts := Function.update gpu.layouts image layouts } := by
  induction commands generalizing gpu with
  | nil =>
    rw [List.map_nil, exec_nil, exec_nil, Option.map_some, Function.update_eq_self]
  | cons command commands ih =>
    rw [List.map_cons, exec_cons, exec_cons, Gpu.execute]
    cases command.execute (gpu.layouts image) with
    | none => rfl
    | some layouts =>
      rw [Option.map_some, Option.bind_some, Option.bind_some, ih]
      simp only [Function.update_self, Function.update_idem]

/-- Transitions of textures that are to be targets. -/
theorem exec_transitions (gpu : Gpu) (textures : List VulkanTexture)
    {commands : VulkanTexture → List TextureCommand}
    (hcommands : ∀ texture layouts, ∃ layouts',
      exec TextureCommand.execute layouts (commands texture) = some layouts') :
    ∃ gpu', exec Gpu.execute gpu (textures.flatMap fun texture =>
        (commands texture).map (.texture texture.image)) = some gpu' ∧
      gpu'.rendered = gpu.rendered ∧ gpu'.passes = gpu.passes ∧
      ∀ image, (∀ texture ∈ textures, texture.image ≠ image) →
        gpu'.layouts image = gpu.layouts image := by
  induction textures generalizing gpu with
  | nil => exact ⟨gpu, rfl, rfl, rfl, fun _ _ => rfl⟩
  | cons texture textures ih =>
    obtain ⟨layouts, hlayouts⟩ := hcommands texture (gpu.layouts texture.image)
    obtain ⟨gpu', hexec, hrendered, hpasses, hother⟩ := ih
      { gpu with layouts := Function.update gpu.layouts texture.image layouts }
    refine ⟨gpu', ?_, hrendered, hpasses, fun image himage => ?_⟩
    · rw [List.flatMap_cons, exec_append, exec_map_texture, hlayouts, Option.map_some,
        Option.bind_some, hexec]
    · obtain ⟨hne, himage⟩ := List.forall_mem_cons.mp himage
      rw [hother image himage]
      exact Function.update_of_ne hne.symm layouts gpu.layouts

theorem exec_doTransition_of_undefined (texture : VulkanTexture) (layouts : LevelLayouts)
    {new : ImageLayout} (newPipelineStageFlags : PipelineStageFlags) (hne : new ≠ .undefined) :
    ∃ layouts', exec TextureCommand.execute layouts
      (texture.doTransition {} new newPipelineStageFlags).2 = some layouts' :=
  ⟨_, exec_doTransition _ _ hne (Or.inl rfl)⟩

theorem exec_transitionToRenderTarget (texture : VulkanTexture) (layouts : LevelLayouts) :
    ∃ layouts', exec TextureCommand.execute layouts (texture.transitionToRenderTarget {}).2 =
      some layouts' := by
  unfold VulkanTexture.transitionToRenderTarget
  split
  · exact exec_doTransition_of_undefined texture layouts _ (by decide)
  · exact exec_doTransition_of_undefined texture layouts _ (by decide)

theorem exec_createRenderableTexture (image : Image) (data : TextureData) (layouts : LevelLayouts) :
    ∃ layouts', exec TextureCommand.execute layouts (createRenderableTexture image data).2 =
      some layouts' := by
  unfold createRenderableTexture
  dsimp only
  split
  · exact exec_doTransition_of_undefined _ layouts _ (by decide)
  · exact exec_doTransition_of_undefined _ layouts _ (by decide)

/-! ### The end of a render pass -/

theorem endAttachment_of_ne (gpu : Gpu) {a : AttachmentDescription × VulkanTexture}
    (h : a.2.image ≠ image) :
    (gpu.endAttachment a).layouts image = gpu.layouts image ∧
      (gpu.endAttachment a).rendered image = gpu.rendered image :=
  ⟨Function.update_of_ne h.symm _ _, Function.update_of_ne h.symm _ _⟩

theorem foldl_endAttachment_of_ne (gpu : Gpu) {l : List (AttachmentDescription × VulkanTexture)}
    (h : ∀ a ∈ l, a.2.image ≠ image) : (l.foldl Gpu.endAttachment gpu).layouts image =
        gpu.layouts image ∧
      (l.foldl Gpu.endAttachment gpu).rendered image = gpu.rendered image := by
  induction l generalizing gpu with
  | nil => exact ⟨rfl, rfl⟩
  | cons a l ih =>
    obtain ⟨hne, h⟩ := List.forall_mem_cons.mp h
    obtain ⟨hlayouts, hrendered⟩ := ih (gpu.endAttachment a) h
    obtain ⟨hlayouts', hrendered'⟩ := endAttachment_of_ne gpu hne
    exact ⟨hlayouts.trans hlayouts', hrendered.trans hrendered'⟩

theorem passes_foldl (l : List (AttachmentDescription × VulkanTexture)) :
    (l.foldl Gpu.endAttachment gpu).passes = gpu.passes := by
  induction l generalizing gpu with
  | nil => rfl
  | cons a l ih => exact ih

/-- An attachment ends in its final layout, with the results of the pass if they are stored. -/
theorem foldl_endAttachment_of_mem (gpu : Gpu) {l : List (AttachmentDescription × VulkanTexture)}
    (hnodup : (l.map (·.2.image)).Nodup) {a : AttachmentDescription × VulkanTexture} (ha : a ∈ l) :
    (l.foldl Gpu.endAttachment gpu).layouts a.2.image 0 = a.1.finalLayout ∧
      (l.foldl Gpu.endAttachment gpu).rendered a.2.image =
        if a.1.Stored then some gpu.passes else none := by
  induction l generalizing gpu with
  | nil => exact absurd ha List.not_mem_nil
  | cons b l ih =>
    obtain ⟨hnot, hnodup⟩ := List.nodup_cons.mp hnodup
    obtain rfl | ha := List.mem_cons.mp ha
    · have hother : ∀ b ∈ l, b.2.image ≠ a.2.image := fun b hb heq =>
        hnot (List.mem_map.mpr ⟨b, hb, heq⟩)
      obtain ⟨hlayouts, hrendered⟩ := foldl_endAttachment_of_ne (gpu.endAttachment a) hother
      rw [List.foldl_cons, hlayouts, hrendered]
      simp only [Gpu.endAttachment, Function.update_self, and_self]
    · exact ih (gpu.endAttachment b) hnodup ha

/-! ### Render targets -/

/-- The attachments of a render pass that renders to textures, and the textures for them. -/
def pairs (images : Nat) (info : RenderTargetInfo) (clearState : ClearState) :
    List (AttachmentDescription × VulkanTexture) :=
  (Device.createRenderPass info.framebufferLayout clearState .shaderInput).zip
    (renderTarget images info).attachments

/-- No attachment is loaded. -/
theorem loadOp_ne_load (cleared : Bool) :
    (if cleared then AttachmentLoadOp.clear else .dontCare) ≠ .load := by
  cases cleared <;> decide

/-- The framebuffer has the attachments that the render pass is made for. -/
theorem forall₂_fits (gpu : Gpu) (images : Nat) (clearState : ClearState)
    (h : Asserted info.framebufferLayout) (hsamples : 1 ≤ info.framebufferLayout.sampleCount) :
    (Device.createRenderPass info.framebufferLayout clearState .shaderInput).Forall₂
      (gpu.Fits info.size) (renderTarget images info).attachments := by
  obtain ⟨size, colorFormat, depthStencilFormat, sampleCount, captureColor, captureDepthStencil,
    resolveColor, resolveDepthStencil⟩ := info
  obtain ⟨-, -, -, -, -, -, hresolve, -⟩ := h
  dsimp only at hresolve hsamples
  have hload := loadOp_ne_load clearState.colorValue.isSome
  by_cases hone : sampleCount = 1
  · subst hone
    cases colorFormat <;> cases depthStencilFormat <;>
      simp [Device.createRenderPass, createRenderPass, renderTarget, RenderTarget.attachments,
        Gpu.Fits, createRenderableTexture, hload]
  · have hlt := Words.one_lt_of_ne_one hsamples hone
    obtain rfl : resolveDepthStencil = false := by simpa [hone] using hresolve
    cases colorFormat <;> cases depthStencilFormat <;> cases resolveColor <;>
      simp [Device.createRenderPass, createRenderPass, renderTarget, RenderTarget.attachments,
        Gpu.Fits, createRenderableTexture, hload, hone, hlt]

/-- The textures have images of their own. -/
theorem nodup_attachments (images : Nat) (info : RenderTargetInfo) :
    ((renderTarget images info).attachments.map (·.image)).Nodup := by
  obtain ⟨size, colorFormat, depthStencilFormat, sampleCount, _, _, resolveColor,
    resolveDepthStencil⟩ := info
  unfold renderTarget RenderTarget.attachments
  cases colorFormat <;> cases depthStencilFormat <;> dsimp only <;> split_ifs <;>
    simp [createRenderableTexture]

theorem images_attachments (images : Nat) (info : RenderTargetInfo) :
    ∀ texture ∈ (renderTarget images info).attachments,
      images ≤ texture.image ∧ texture.image < images + 4 := by
  obtain ⟨size, colorFormat, depthStencilFormat, sampleCount, _, _, resolveColor,
    resolveDepthStencil⟩ := info
  unfold renderTarget RenderTarget.attachments
  cases colorFormat <;> cases depthStencilFormat <;> dsimp only <;> split_ifs <;>
    simp [createRenderableTexture]

/-- Where a captured texture is in the framebuffer, and what becomes of it. -/
structure Captured (images : Nat) (info : RenderTargetInfo) (clearState : ClearState)
    (texture : VulkanTexture) (kept : Prop) : Prop where
  attachment : ∃ attachment, (attachment, texture) ∈ pairs images info clearState ∧
    attachment.finalLayout = shaderInputLayout texture.properties.format ∧
    (attachment.Stored ↔ kept)
  mipLevelCount : texture.properties.mipLevelCount = 1

section Captured

variable (images : Nat) (clearState : ClearState) (h : Asserted info.framebufferLayout)
  (hsamples : 1 ≤ info.framebufferLayout.sampleCount) {texture : VulkanTexture}

include h hsamples

/-- What is captured of the color is stored unless it is multisampled and not resolved. -/
theorem captured_color (hcapture : info.framebufferLayout.captureColor = true)
    (htexture : ((renderTarget images info).colorResolved <|> (renderTarget images info).color) =
      some texture) :
    Captured images info clearState texture
      (info.framebufferLayout.sampleCount = 1 ∨ info.framebufferLayout.resolveColor = true) := by
  obtain ⟨size, colorFormat, depthStencilFormat, sampleCount, captureColor, captureDepthStencil,
    resolveColor, resolveDepthStencil⟩ := info
  obtain ⟨-, -, -, -, hcolor, -, hresolve, -⟩ := h
  dsimp only at hresolve hsamples hcolor hcapture ⊢
  subst hcapture
  cases colorFormat with
  | none => simp [renderTarget] at htexture
  | some format =>
    have hformat := (hcolor format rfl).1
    by_cases hone : sampleCount = 1
    · subst hone
      obtain rfl : _ = texture := by simpa [renderTarget] using htexture
      refine ⟨?_, rfl⟩
      simp [pairs, Device.createRenderPass, createRenderPass, renderTarget, RenderTarget.attachments,
        createRenderableTexture, AttachmentDescription.Stored, shaderInputLayout, hformat,
        getColorImageLayout]
    have hlt := Words.one_lt_of_ne_one hsamples hone
    obtain rfl : resolveDepthStencil = false := by simpa [hone] using hresolve
    cases resolveColor with
    | true =>
      obtain rfl : _ = texture := by simpa [renderTarget, hlt] using htexture
      refine ⟨?_, rfl⟩
      cases depthStencilFormat <;>
        simp [pairs, Device.createRenderPass, createRenderPass, renderTarget,
          RenderTarget.attachments, createRenderableTexture, AttachmentDescription.Stored,
          shaderInputLayout, hformat,
          getColorImageLayout, hone, hlt]
    | false =>
      obtain rfl : _ = texture := by simpa [renderTarget] using htexture
      refine ⟨?_, rfl⟩
      simp [pairs, Device.createRenderPass, createRenderPass, renderTarget, RenderTarget.attachments,
        createRenderableTexture, AttachmentDescription.Stored, shaderInputLayout, hformat,
        getColorImageLayout, hone]

/-- Depth and stencil are never resolved. -/
theorem captured_depthStencil (hcapture : info.framebufferLayout.captureDepthStencil = true)
    (htexture : ((renderTarget images info).depthStencilResolved <|>
      (renderTarget images info).depthStencil) = some texture) :
    Captured images info clearState texture (info.framebufferLayout.sampleCount = 1) := by
  obtain ⟨size, colorFormat, depthStencilFormat, sampleCount, captureColor, captureDepthStencil,
    resolveColor, resolveDepthStencil⟩ := info
  obtain ⟨-, -, -, -, -, hdepthStencil, hresolve, -⟩ := h
  dsimp only at hresolve hsamples hdepthStencil hcapture ⊢
  subst hcapture
  cases depthStencilFormat with
  | none => simp [renderTarget] at htexture
  | some format =>
    have hformat := (hdepthStencil format rfl).1
    by_cases hone : sampleCount = 1
    · subst hone
      obtain rfl : _ = texture := by simpa [renderTarget] using htexture
      refine ⟨?_, rfl⟩
      cases colorFormat <;>
        simp [pairs, Device.createRenderPass, createRenderPass, renderTarget,
          RenderTarget.attachments, createRenderableTexture, AttachmentDescription.Stored,
          shaderInputLayout, hformat,
          getDepthStencilImageLayout]
    · obtain rfl : resolveDepthStencil = false := by simpa [hone] using hresolve
      obtain rfl : _ = texture := by simpa [renderTarget] using htexture
      refine ⟨?_, rfl⟩
      cases colorFormat <;>
        simp [pairs, Device.createRenderPass, createRenderPass, renderTarget,
          RenderTarget.attachments, createRenderableTexture, AttachmentDescription.Stored,
          shaderInputLayout, hformat,
          getDepthStencilImageLayout, hone]

end Captured

/-! ### What the textures show -/

/-- The texture can be sampled, and holds the results of the render pass that it has been returned
for. -/
def Gpu.Shows (gpu : Gpu) (texture : ReturnedTexture) : Prop :=
  gpu.Ready texture.toVulkanTexture ∧ gpu.rendered texture.image = texture.pass

/-- The commands can all be executed, and afterwards all textures show what they should. -/
def Shown (s : State) : Prop :=
  ∃ gpu, exec Gpu.execute {} s.commands = some gpu ∧ ∀ texture ∈ s.textures, gpu.Shows texture

/-- A texture with several levels needs pixels to generate them from, and colors; what is captured
must not be multisampled, or be resolved, which is possible for color only. -/
def Keeps : Action → Prop
  | .createTexture data => data.mipLevelCount = 1 ∨
      (data.pixels ≠ [] ∧ hasDepthOrStencilComponent data.format = false)
  | .renderToTexture info _ _ =>
    let fb := info.framebufferLayout
    (fb.captureColor → fb.colorFormat.isSome → fb.sampleCount = 1 ∨ fb.resolveColor) ∧
      (fb.captureDepthStencil → fb.depthStencilFormat.isSome → fb.sampleCount = 1)
  | .copyTextureData _ => True

instance : ∀ a, Decidable (Keeps a)
  | .createTexture _ => inferInstanceAs (Decidable (_ ∨ _))
  | .renderToTexture .. => inferInstanceAs (Decidable (_ ∧ _))
  | .copyTextureData _ => .isTrue trivial

/-- The images that are yet to be created are as they were at the beginning. -/
structure Tracks (s : State) (gpu : Gpu) : Prop where
  passes : gpu.passes = s.passes
  fresh : ∀ image, s.images ≤ image →
    (gpu.layouts image = fun _ => .undefined) ∧ gpu.rendered image = none

structure Inv (s : State) : Prop where
  images : ∀ texture ∈ s.textures, texture.image < s.images
  tracks : ∀ gpu, exec Gpu.execute {} s.commands = some gpu → Tracks s gpu

/-! ### What the calls do -/

/-- A render pass for a target changes the images of the target only. -/
theorem exec_renderCommands {images : Nat} (clearState : ClearState) {sampled : List VulkanTexture}
    (h : Asserted info.framebufferLayout) (hsamples : 1 ≤ info.framebufferLayout.sampleCount)
    (hsampled : ∀ texture ∈ sampled, gpu.Ready texture ∧ texture.image < images) :
    ∃ gpu', exec Gpu.execute gpu
        (renderCommands (renderTarget images info) info clearState sampled) = some gpu' ∧
      gpu'.passes = gpu.passes + 1 ∧
      (∀ image, image < images ∨ images + 4 ≤ image →
        gpu'.layouts image = gpu.layouts image ∧ gpu'.rendered image = gpu.rendered image) ∧
      ∀ a ∈ pairs images info clearState, gpu'.layouts a.2.image 0 = a.1.finalLayout ∧
        gpu'.rendered a.2.image = if a.1.Stored then some gpu.passes else none := by
  have himages := images_attachments images info
  have hne : ∀ image, image < images ∨ images + 4 ≤ image →
      ∀ texture ∈ (renderTarget images info).attachments, texture.image ≠ image := by
    rintro image hout texture htexture rfl
    obtain ⟨hle, hlt⟩ := himages texture htexture
    exact hout.elim (Nat.not_lt.mpr hle) (Nat.not_le.mpr hlt)
  obtain ⟨gpu₁, hcreate, hrendered₁, hpasses₁, hother₁⟩ := exec_transitions gpu
    (renderTarget images info).attachments fun texture layouts =>
      exec_createRenderableTexture texture.image texture.properties.data layouts
  obtain ⟨gpu₂, htransitions, hrendered₂, hpasses₂, hother₂⟩ := exec_transitions gpu₁
    (renderTarget images info).attachments exec_transitionToRenderTarget
  have hok : gpu₂.RenderPassOk (Device.createRenderPass info.framebufferLayout clearState .shaderInput)
      ⟨info.size, (renderTarget images info).attachments⟩ sampled := by
    refine ⟨forall₂_fits _ images clearState h hsamples, fun texture htexture level hlevel => ?_⟩
    obtain ⟨hready, hlt⟩ := hsampled texture htexture
    rw [hother₂ _ (hne _ (Or.inl hlt)), hother₁ _ (hne _ (Or.inl hlt))]
    exact hready level hlevel
  have hmem : ∀ a ∈ pairs images info clearState, a.2 ∈ (renderTarget images info).attachments :=
    fun a ha => (List.of_mem_zip ha).2
  have hnodup : ((pairs images info clearState).map (·.2.image)).Nodup := by
    have hmap := nodup_attachments images info
    have hlength := (forall₂_fits gpu images clearState h hsamples).length_eq
    have hsnd : (pairs images info clearState).map Prod.snd =
        (renderTarget images info).attachments := List.map_snd_zip (Nat.le_of_eq hlength.symm)
    rw [← hsnd, List.map_map] at hmap
    exact hmap
  refine ⟨gpu₂.endRenderPass (pairs images info clearState), ?_, ?_, fun image hout => ?_,
    fun a ha => ?_⟩
  · unfold renderCommands
    rw [exec_append, exec_append, hcreate, Option.bind_some, htransitions, Option.bind_some,
      exec_cons, Gpu.execute, if_pos hok]
    rfl
  · show (List.foldl _ gpu₂ _).passes + 1 = _
    rw [passes_foldl, hpasses₂, hpasses₁]
  · obtain ⟨hlayouts, hrendered⟩ := foldl_endAttachment_of_ne gpu₂
      fun a ha => hne image hout a.2 (hmem a ha)
    refine ⟨hlayouts.trans ?_, hrendered.trans ?_⟩
    · rw [hother₂ _ (hne _ hout), hother₁ _ (hne _ hout)]
    · rw [hrendered₂, hrendered₁]
  · obtain ⟨hlayouts, hrendered⟩ := foldl_endAttachment_of_mem gpu₂ hnodup ha
    refine ⟨hlayouts, hrendered.trans ?_⟩
    rw [hpasses₂, hpasses₁]

theorem exec_commands {commands : List GpuCommand} (hexec : exec Gpu.execute {} s.commands = some gpu)
    (ht : t.commands = s.commands ++ commands) :
    exec Gpu.execute {} t.commands = exec Gpu.execute gpu commands := by
  rw [ht, exec_append, hexec, Option.bind_some]

/-- Whether a call leaves everything shown, when the new commands change images from `s.images` on
only. -/
theorem shown_iff {commands : List GpuCommand} {gpu' : Gpu} {textures : List ReturnedTexture}
    (hs : Inv s) (hexec : exec Gpu.execute {} s.commands = some gpu)
    (hshows : ∀ texture ∈ s.textures, gpu.Shows texture)
    (hcommands : t.commands = s.commands ++ commands)
    (htextures : t.textures = s.textures ++ textures)
    (hnew : exec Gpu.execute gpu commands = some gpu')
    (hother : ∀ image < s.images,
      gpu'.layouts image = gpu.layouts image ∧ gpu'.rendered image = gpu.rendered image) :
    Shown t ↔ ∀ texture ∈ textures, gpu'.Shows texture := by
  have hexec' := (exec_commands hexec hcommands).trans hnew
  constructor
  · rintro ⟨gpu'', hexec'', hshows''⟩ texture htexture
    obtain rfl := Option.some.inj (hexec'.symm.trans hexec'')
    exact hshows'' texture (htextures ▸ List.mem_append_right _ htexture)
  · intro hshows'
    refine ⟨gpu', hexec', fun texture htexture => ?_⟩
    rw [htextures] at htexture
    obtain htexture | htexture := List.mem_append.mp htexture
    · obtain ⟨hlayouts, hrendered⟩ := hother texture.image (hs.images texture htexture)
      obtain ⟨hready, hpass⟩ := hshows texture htexture
      refine ⟨fun level hlevel => ?_, hrendered.trans hpass⟩
      rw [hlayouts]
      exact hready level hlevel
    · exact hshows' texture htexture

/-- The invariant holds of what the new commands lead to. -/
theorem inv_of_exec {commands : List GpuCommand} {gpu' : Gpu}
    (hexec : exec Gpu.execute {} s.commands = some gpu)
    (hcommands : t.commands = s.commands ++ commands)
    (hnew : exec Gpu.execute gpu commands = some gpu')
    (himages : ∀ texture ∈ t.textures, texture.image < t.images) (htracks : Tracks t gpu') : Inv t := by
  refine ⟨himages, fun gpu'' hexec'' => ?_⟩
  obtain rfl := Option.some.inj (((exec_commands hexec hcommands).trans hnew).symm.trans hexec'')
  exact htracks

/-- A texture comes out ready exactly if it has one level, or several and pixels and colors. -/
theorem exec_createTexture_iff (image : Image) {data : TextureContents} (h : 1 ≤ data.mipLevelCount) :
    (∃ layouts, exec TextureCommand.execute (fun _ => .undefined) (createTexture image data) =
        some layouts ∧
      ∀ level < data.mipLevelCount.toNat, layouts level = shaderInputLayout data.format) ↔
      Keeps (.createTexture data) := by
  by_cases hone : data.mipLevelCount = 1
  · exact iff_of_true ((layoutHistoryOk_iff_exec image data).mp
      (layoutHistoryOk_of_one_level image hone)) (Or.inl hone)
  have hgt := Words.one_lt_of_ne_one h hone
  have hpos : 0 < data.mipLevelCount.toNat :=
    Nat.lt_of_lt_of_le Nat.one_pos (UInt32.le_iff_toNat_le.mp h)
  by_cases hpixels : data.pixels = []
  · rw [exec_createTexture_of_no_pixels image hgt hpixels]
    exact iff_of_false (by simp) (by simp [Keeps, hone, hpixels])
  rw [exec_createTexture_of_levels image hgt hpixels]
  constructor
  · rintro ⟨layouts, hlayouts, hready⟩
    obtain rfl := Option.some.inj hlayouts
    have hzero := hready 0 hpos
    refine Or.inr ⟨hpixels, ?_⟩
    beta_reduce at hzero
    rw [if_pos hpos, shaderInputLayout] at hzero
    split_ifs at hzero with hformat
    exact Bool.not_eq_true _ ▸ hformat
  · rintro (habs | ⟨-, hformat⟩)
    · exact absurd habs hone
    · refine ⟨_, rfl, fun level hlevel => ?_⟩
      rw [if_pos hlevel, shaderInputLayout, hformat]
      rfl

/-- What is captured has been an attachment. -/
theorem mem_attachments {rt : RenderTarget} {texture : VulkanTexture} (h : texture ∈ rt.captured fb) :
    texture ∈ rt.attachments := by
  unfold RenderTarget.captured at h
  unfold RenderTarget.attachments
  simp only [List.mem_append, Option.mem_toList] at h ⊢
  obtain h | h := h
  · split_ifs at h
    obtain h | ⟨-, h⟩ := Option.or_eq_some_iff.mp (Option.orElse_eq_or.symm.trans h)
    · exact Or.inl (Or.inr h)
    · exact Or.inl (Or.inl (Or.inl h))
  · split_ifs at h
    obtain h | ⟨-, h⟩ := Option.or_eq_some_iff.mp (Option.orElse_eq_or.symm.trans h)
    · exact Or.inr h
    · exact Or.inl (Or.inl (Or.inr h))

theorem forall_mem_captured {rt : RenderTarget} {P : VulkanTexture → Prop} :
    (∀ texture ∈ rt.captured fb, P texture) ↔
      (fb.captureColor → ∀ texture ∈ (rt.colorResolved <|> rt.color), P texture) ∧
        (fb.captureDepthStencil → ∀ texture ∈ (rt.depthStencilResolved <|> rt.depthStencil),
          P texture) := by
  unfold RenderTarget.captured
  simp only [List.mem_append, Option.mem_toList, or_imp, forall_and]
  refine and_congr ?_ ?_
  · cases fb.captureColor <;> simp
  · cases fb.captureDepthStencil <;> simp

/-- There is something to capture if there is a format for it. -/
theorem isSome_color (images : Nat) (info : RenderTargetInfo) :
    ((renderTarget images info).colorResolved <|> (renderTarget images info).color).isSome =
      info.framebufferLayout.colorFormat.isSome := by
  unfold renderTarget
  dsimp only
  cases info.framebufferLayout.colorFormat <;> split_ifs <;> rfl

theorem isSome_depthStencil (images : Nat) (info : RenderTargetInfo) :
    ((renderTarget images info).depthStencilResolved <|>
        (renderTarget images info).depthStencil).isSome =
      info.framebufferLayout.depthStencilFormat.isSome := by
  unfold renderTarget
  dsimp only
  cases info.framebufferLayout.depthStencilFormat <;> split_ifs <;> rfl

theorem forall_mem_iff {o : Option VulkanTexture} {P : VulkanTexture → Prop} {kept : Prop}
    (h : ∀ texture ∈ o, (P texture ↔ kept)) : (∀ texture ∈ o, P texture) ↔ (o.isSome → kept) := by
  cases o with
  | none => simp
  | some texture => simpa using h texture rfl

/-- A captured texture shows its render pass exactly if the attachment is stored. -/
theorem shows_captured {images : Nat} {clearState : ClearState} {texture : VulkanTexture}
    {kept : Prop} (h : Captured images info clearState texture kept) {pass : Nat}
    (hpairs : ∀ a ∈ pairs images info clearState, gpu.layouts a.2.image 0 = a.1.finalLayout ∧
      gpu.rendered a.2.image = if a.1.Stored then some pass else none) :
    gpu.Shows { texture with pass := some pass } ↔ kept := by
  obtain ⟨⟨attachment, hmem, hfinal, hkept⟩, hlevels⟩ := h
  obtain ⟨hlayouts, hrendered⟩ := hpairs _ hmem
  have hready : gpu.Ready texture := by
    intro level hlevel
    have hzero : level = 0 := by
      rw [hlevels] at hlevel
      exact Nat.lt_one_iff.mp hlevel
    rw [hzero, hlayouts, hfinal]
  refine (and_iff_right hready).trans ?_
  rw [← hkept]
  dsimp only at hrendered ⊢
  rw [hrendered]
  split_ifs with hstored <;> simp [hstored]

/-! ### Runs -/

section Step

variable (hs : Inv s) (hexec : exec Gpu.execute {} s.commands = some gpu)
  (hshows : ∀ texture ∈ s.textures, gpu.Shows texture)

include hs hexec hshows

theorem createTexture_step {data : TextureContents} (h : 1 ≤ data.mipLevelCount) :
    (Shown (s.createTexture data) ↔ Keeps (.createTexture data)) ∧
      (Shown (s.createTexture data) → Inv (s.createTexture data)) := by
  obtain ⟨hpasses, hfresh⟩ := hs.tracks gpu hexec
  obtain ⟨hundefined, hrendered⟩ := hfresh s.images (Nat.le_refl _)
  have hnew := exec_map_texture gpu s.images (createTexture s.images data)
  rw [hundefined] at hnew
  rw [← exec_createTexture_iff s.images h]
  cases hcreate : exec TextureCommand.execute (fun _ => .undefined) (createTexture s.images data) with
  | none =>
    have hnot : ¬ Shown (s.createTexture data) := by
      rintro ⟨gpu', hexec', -⟩
      rw [exec_commands hexec rfl, hnew, hcreate] at hexec'
      exact absurd hexec' (by simp)
    exact ⟨iff_of_false hnot (by simp), fun hshown => absurd hshown hnot⟩
  | some layouts =>
    rw [hcreate, Option.map_some] at hnew
    have hother : ∀ image, image ≠ s.images →
        Function.update gpu.layouts s.images layouts image = gpu.layouts image := fun image hne =>
      Function.update_of_ne hne layouts gpu.layouts
    constructor
    · rw [shown_iff hs hexec hshows rfl rfl hnew fun image hlt =>
        ⟨hother image (Nat.ne_of_lt hlt), rfl⟩, List.forall_mem_singleton]
      have hready : Gpu.Shows { gpu with layouts := Function.update gpu.layouts s.images layouts }
          { createdTexture s.images data with } ↔
          ∀ level < data.mipLevelCount.toNat, layouts level = shaderInputLayout data.format := by
        refine (and_iff_left hrendered).trans (forall₂_congr fun level _ => ?_)
        show Function.update gpu.layouts s.images layouts s.images level = _ ↔ _
        rw [Function.update_self]
        rfl
      rw [hready]
      simp
    · intro _
      refine inv_of_exec hexec rfl hnew ?_ ⟨hpasses, fun image hle => ?_⟩
      · intro texture htexture
        obtain htexture | htexture := List.mem_append.mp htexture
        · exact Nat.lt_succ_of_lt (hs.images texture htexture)
        · rw [List.mem_singleton.mp htexture]
          exact Nat.lt_succ_self _
      · obtain ⟨hlayouts, hnone⟩ := hfresh image (Nat.le_of_succ_le hle)
        exact ⟨(hother image (Nat.ne_of_gt hle)).trans hlayouts, hnone⟩

theorem copyTextureData_step {texture : ReturnedTexture} (htexture : texture ∈ s.textures) :
    Shown (s.copyTextureData texture.toVulkanTexture) ∧
      Inv (s.copyTextureData texture.toVulkanTexture) := by
  obtain ⟨hready, -⟩ := hshows texture htexture
  have hnew : exec Gpu.execute gpu ((copyTextureData texture.toVulkanTexture).map
      (.texture texture.image)) = some gpu := by
    rw [exec_map_texture, exec_copyTextureData texture.toVulkanTexture _ hready, Option.map_some,
      Function.update_eq_self]
  constructor
  · have hiff := shown_iff (t := s.copyTextureData texture.toVulkanTexture) hs hexec hshows rfl
      (List.append_nil _).symm hnew fun _ _ => ⟨rfl, rfl⟩
    exact hiff.mpr fun texture htexture => absurd htexture List.not_mem_nil
  · obtain ⟨hpasses, hfresh⟩ := hs.tracks gpu hexec
    exact inv_of_exec hexec rfl hnew hs.images ⟨hpasses, hfresh⟩

theorem renderToTexture_step (clearState : ClearState) {sampled : List VulkanTexture}
    (h : Asserted info.framebufferLayout) (hsamples : 1 ≤ info.framebufferLayout.sampleCount)
    (hsampled : ∀ texture ∈ sampled, ∃ x ∈ s.textures, x.toVulkanTexture = texture)
    (handles : List Nat) : (Shown (s.renderToTexture info clearState sampled) ↔
        Keeps (.renderToTexture info clearState handles)) ∧
      Inv (s.renderToTexture info clearState sampled) := by
  obtain ⟨hpasses, hfresh⟩ := hs.tracks gpu hexec
  have hready : ∀ texture ∈ sampled, gpu.Ready texture ∧ texture.image < s.images := by
    intro texture htexture
    obtain ⟨x, hx, rfl⟩ := hsampled texture htexture
    exact ⟨(hshows x hx).1, hs.images x hx⟩
  obtain ⟨gpu', hnew, hpasses', hother, hpairs⟩ :=
    exec_renderCommands clearState h hsamples hready
  constructor
  · rw [shown_iff hs hexec hshows rfl rfl hnew fun image hlt => hother image (Or.inl hlt),
      List.forall_mem_map, ← hpasses, forall_mem_captured]
    refine and_congr (forall_congr' fun hcapture => ?_) (forall_congr' fun hcapture => ?_)
    · rw [← isSome_color s.images]
      exact forall_mem_iff fun texture htexture =>
        shows_captured (captured_color s.images clearState h hsamples hcapture htexture) hpairs
    · rw [← isSome_depthStencil s.images]
      exact forall_mem_iff fun texture htexture =>
        shows_captured (captured_depthStencil s.images clearState h hsamples hcapture htexture) hpairs
  · refine inv_of_exec hexec rfl hnew ?_ ⟨hpasses'.trans (congrArg (· + 1) hpasses), ?_⟩
    · intro texture htexture
      obtain htexture | htexture := List.mem_append.mp htexture
      · exact Nat.lt_add_right 4 (hs.images texture htexture)
      · obtain ⟨x, hx, rfl⟩ := List.mem_map.mp htexture
        exact (images_attachments s.images info x (mem_attachments hx)).2
    · intro image hle
      obtain ⟨hlayouts, hrendered⟩ := hother image (Or.inr hle)
      obtain ⟨hundefined, hnone⟩ := hfresh image (Nat.le_trans (Nat.le_add_right _ 4) hle)
      exact ⟨hlayouts.trans hundefined, hrendered.trans hnone⟩

end Step

/-- The handles that a call is given stand for textures that have been returned. -/
theorem mem_of_mapM {handles : List Nat} {textures : List ReturnedTexture}
    (h : handles.mapM (fun k => s.textures[k]?) = some textures) :
    ∀ texture ∈ textures, texture ∈ s.textures := by
  induction handles generalizing textures with
  | nil =>
    obtain rfl : textures = [] := by simpa using h.symm
    simp
  | cons k handles ih =>
    simp only [List.mapM_cons, Option.bind_eq_bind, Option.bind_eq_some_iff, Option.pure_def,
      Option.some.injEq] at h
    obtain ⟨texture, htexture, rest, hrest, rfl⟩ := h
    exact List.forall_mem_cons.mpr ⟨List.mem_of_getElem? htexture, ih hrest⟩

/-- What a call leaves is decided by the call alone. -/
theorem shown_step_iff {a : Action} (hs : Inv s) (hshown : Shown s) (hstep : s.step a = some t) :
    (Shown t ↔ Keeps a) ∧ (Shown t → Inv t) := by
  obtain ⟨gpu, hexec, hshows⟩ := hshown
  cases a with
  | createTexture data =>
    obtain ⟨hlevels, h⟩ := Option.ite_none_right_eq_some.mp hstep
    obtain rfl := Option.some.inj h
    exact createTexture_step hs hexec hshows hlevels
  | renderToTexture info clearState handles =>
    obtain ⟨⟨hasserted, hsamples⟩, h⟩ := Option.ite_none_right_eq_some.mp hstep
    obtain ⟨sampled, hsampled, rfl⟩ := Option.map_eq_some_iff.mp h
    have hmem : ∀ texture ∈ sampled.map (·.toVulkanTexture), ∃ x ∈ s.textures,
        x.toVulkanTexture = texture := by
      intro texture htexture
      obtain ⟨x, hx, rfl⟩ := List.mem_map.mp htexture
      exact ⟨x, mem_of_mapM hsampled x hx, rfl⟩
    obtain ⟨hiff, hinv⟩ :=
      renderToTexture_step hs hexec hshows clearState hasserted hsamples hmem handles
    exact ⟨hiff, fun _ => hinv⟩
  | copyTextureData k =>
    obtain ⟨texture, htexture, h⟩ := Option.bind_eq_some_iff.mp hstep
    obtain ⟨-, h⟩ := Option.ite_none_right_eq_some.mp h
    obtain rfl := Option.some.inj h
    obtain ⟨hshown, hinv⟩ := copyTextureData_step hs hexec hshows (List.mem_of_getElem? htexture)
    exact ⟨iff_of_true hshown trivial, fun _ => hinv⟩

theorem inv_init : Inv {} := by
  refine ⟨by simp, fun gpu hexec => ?_⟩
  obtain rfl := Option.some.inj hexec
  exact ⟨rfl, fun _ _ => ⟨rfl, rfl⟩⟩

/-- A shadow map and a multisampled image that samples it and is resolved, with what is copied out. -/
def shadowedScene : List Action :=
  [.renderToTexture
      { size := ⟨16, 16⟩
        framebufferLayout :=
          { depthStencilFormat := some .depth32
            captureDepthStencil := true } } {} [],
    .renderToTexture
      { size := ⟨8, 8⟩
        framebufferLayout :=
          { colorFormat := some .byte4Srgb
            depthStencilFormat := some .depth16
            sampleCount := 4
            captureColor := true
            resolveColor := true } } {} [0],
    .copyTextureData 1]

end RenderToTexture

end Teide
