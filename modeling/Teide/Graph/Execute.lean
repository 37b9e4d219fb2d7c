import Mathlib.Algebra.Ring.Nat
import Mathlib.Order.Lattice
import Mathlib.Tactic.Common
import Teide.Graph.Layout
import Teide.Graph.Stored
import Teide.Graph.Transfer

/-!
# Executing the command buffers of a graph

The GPU executes the command buffers of a graph one after another. A command is executed only if it finds
its images in the layouts it takes them to be in (`VkCommand.LayoutsOk`) and a copy takes the image to be
what it was created as (`VkCommand.Fits`); else Vulkan does not define what happens. What a render pass
does to an attachment is known if the attachment is stored, and is then up to what the pass samples.

The staging buffers are made while the graph is recorded, so all of them are there when the first command
is executed. `deliver` is `ExecuteGraph` from the built graph to what the receivers of its read nodes are
given.
-/

namespace Teide

open Runs

/-- What is not up to the code: the contents of an image that have not been specified, and what the draws
of a command buffer leave in an attachment, given the contents of the images they sample. -/
structure Hardware where
  unspecified : Image → ImageContents
  draw : Nat → List ImageContents → Image → ImageContents

structure Gpu where
  layouts : Layouts
  images : Image → ImageContents
  /-- the staging buffer of each command buffer -/
  staging : Nat → List UInt8

/-- Copies are of whole levels, of the format that the image was created with. -/
def VkCommand.Fits (images : List ImageCreateInfo) : VkCommand → Prop
  | .copyBufferToImage image _ format extent =>
    ∃ info ∈ images[image]?, info.format = format ∧ info.extent = extent ∧ 0 < info.mipLevels.toNat
  | .copyImageToBuffer image _ format extent numMipLevels =>
    ∃ info ∈ images[image]?, info.format = format ∧ info.extent = extent ∧
      info.mipLevels = numMipLevels
  | .pipelineBarrier _ | .renderPass .. => True

instance (images : List ImageCreateInfo) : ∀ command : VkCommand, Decidable (command.Fits images)
  | .copyBufferToImage .. | .copyImageToBuffer .. => inferInstanceAs (Decidable (∃ info ∈ _, _))
  | .pipelineBarrier _ | .renderPass .. => .isTrue trivial

namespace Gpu

/-- What a render pass leaves in its attachments. -/
def endRenderPass (hardware : Hardware) (i : Nat) (images : Image → ImageContents)
    (attachments : List (AttachmentDescription × Image)) (sampled : List Image) :
    Image → ImageContents :=
  attachments.foldl (fun contents a => Function.update contents a.2
    (if a.1.storeOp = .store then hardware.draw i (sampled.map images) a.2
      else hardware.unspecified a.2)) images

/-- What a command of the `i`-th command buffer does to the contents of images and buffers. -/
def transfer (hardware : Hardware) (i : Nat) (s : Gpu) : VkCommand → Option Gpu
  | .renderPass attachments sampled =>
    some { s with images := endRenderPass hardware i s.images attachments sampled }
  | command => (executeTransfer hardware.unspecified ⟨s.images, s.staging i⟩ command).map fun m =>
      { s with images := m.images, staging := Function.update s.staging i m.buffer }

/-- A command of the `i`-th command buffer. -/
def step (images : List ImageCreateInfo) (hardware : Hardware) (s : Gpu) (command : Nat × VkCommand) :
    Option Gpu :=
  if command.2.LayoutsOk s.layouts ∧ command.2.Fits images then
    (s.transfer hardware command.1 command.2).map fun t =>
      { t with layouts := command.2.execute s.layouts }
  else none

end Gpu

/-- The commands of a command buffer, with its number. -/
def numbered (i : Nat) (commands : List VkCommand) : List (Nat × VkCommand) := commands.map (i, ·)

namespace VulkanGraph

/-- The GPU when the graph is submitted: the images of its textures are new. -/
def initialGpu (hardware : Hardware) (staging : List (List UInt8)) : Gpu where
  layouts := fun _ => .undefined
  images := hardware.unspecified
  staging := fun i => staging.getD i []

/-- What the receivers of the read nodes are given, if all commands are defined. -/
def deliver (g : VulkanGraph) (device : Device) (pixels : Nat → List UInt8) (hardware : Hardware) :
    Option (List TextureContents) := do
  let built := g.buildGraph device
  let (device, cmdBuffers) := g.executeGraph device
  let staging ← (List.range cmdBuffers.length).mapM (built.stagingBuffer device pixels)
  let s ← exec (Gpu.step device.images hardware) (initialGpu hardware staging)
    (cmdBuffers.mapIdx numbered).flatten
  built.readNodes.mapM (built.receive device ((List.range cmdBuffers.length).map s.staging))

end VulkanGraph

/-! ### One command -/

section Step

variable {images : List ImageCreateInfo} {hardware : Hardware} {s t : Gpu} {i : Nat}
  {command : VkCommand}

theorem step_eq (hlayouts : command.LayoutsOk s.layouts) (hfits : command.Fits images)
    (htransfer : s.transfer hardware i command = some t) :
    Gpu.step images hardware s (i, command) =
      some { t with layouts := command.execute s.layouts } := by
  unfold Gpu.step
  rw [if_pos ⟨hlayouts, hfits⟩, htransfer, Option.map_some]

/-- A barrier that keeps the contents, or discards ones that have not been specified. -/
theorem step_pipelineBarrier {barrier : ImageMemoryBarrier}
    (hlayout : s.layouts barrier.image = barrier.oldLayout)
    (hdiscard : barrier.oldLayout = .undefined →
      s.images barrier.image = hardware.unspecified barrier.image) :
    Gpu.step images hardware s (i, .pipelineBarrier barrier) =
      some { s with layouts := Function.update s.layouts barrier.image barrier.newLayout } := by
  refine step_eq (t := s) hlayout trivial ?_
  show (executeTransfer hardware.unspecified ⟨s.images, s.staging i⟩ _).map _ = _
  simp only [executeTransfer]
  split_ifs with hold
  · rw [← hdiscard hold, Function.update_eq_self, Option.map_some, Function.update_eq_self]
  · rw [Option.map_some, Function.update_eq_self]

theorem step_copyBufferToImage {image : Image} {layout : ImageLayout} {format : Format}
    {extent : Size2i} {contents : ImageContents} (hlayout : s.layouts image = layout)
    (hfits : (VkCommand.copyBufferToImage image layout format extent).Fits images)
    (hcopy : copyToImage (getFormatElementSize format) (s.staging i) (s.images image)
      (bufferToImageRegion format { width := extent.x, height := extent.y }) = some contents) :
    Gpu.step images hardware s (i, .copyBufferToImage image layout format extent) =
      some { s with images := Function.update s.images image contents } := by
  refine step_eq (t := { s with images := Function.update s.images image contents }) hlayout hfits ?_
  show (executeTransfer hardware.unspecified ⟨s.images, s.staging i⟩ _).map _ = _
  simp only [executeTransfer]
  rw [hcopy, Option.map_some, Option.map_some, Function.update_eq_self]

theorem step_copyImageToBuffer {image : Image} {layout : ImageLayout} {format : Format}
    {extent : Size2i} {numMipLevels : UInt32} {buffer : List UInt8}
    (hlayout : s.layouts image = layout)
    (hfits : (VkCommand.copyImageToBuffer image layout format extent numMipLevels).Fits images)
    (hcopy : (imageToBufferRegions format { width := extent.x, height := extent.y }
      numMipLevels).foldlM (copyToBuffer (getFormatElementSize format) (s.images image))
        (s.staging i) = some buffer) :
    Gpu.step images hardware s (i, .copyImageToBuffer image layout format extent numMipLevels) =
      some { s with staging := Function.update s.staging i buffer } := by
  refine step_eq (t := { s with staging := Function.update s.staging i buffer }) hlayout hfits ?_
  show (executeTransfer hardware.unspecified ⟨s.images, s.staging i⟩ _).map _ = _
  simp only [executeTransfer]
  rw [hcopy, Option.map_some, Option.map_some]

/-! ### Render passes that store nothing -/

/-- Attachments that are not stored are left unspecified. -/
theorem endRenderPass_apply {attachments : List (AttachmentDescription × Image)}
    {sampled : List Image} (hstore : ∀ a ∈ attachments, a.1.storeOp = .dontCare) (image : Image) :
    Gpu.endRenderPass hardware i s.images attachments sampled image =
      if image ∈ attachments.map Prod.snd then hardware.unspecified image else s.images image := by
  unfold Gpu.endRenderPass
  generalize s.images = before
  have hall : ∀ contents : Image → ImageContents, attachments.foldl (fun contents a =>
      Function.update contents a.2 (if a.1.storeOp = .store then
        hardware.draw i (sampled.map before) a.2 else hardware.unspecified a.2)) contents image =
      if image ∈ attachments.map Prod.snd then hardware.unspecified image else contents image := by
    induction attachments with
    | nil => exact fun contents => rfl
    | cons a attachments ih =>
      intro contents
      have hdontCare : ¬ a.1.storeOp = .store := by
        rw [hstore a List.mem_cons_self]
        decide
      rw [List.foldl_cons, ih fun b hb => hstore b (List.mem_cons_of_mem a hb), if_neg hdontCare,
        List.map_cons]
      by_cases hmem : image ∈ attachments.map Prod.snd
      · rw [if_pos hmem, if_pos (List.mem_cons_of_mem _ hmem)]
      · by_cases heq : image = a.2
        · rw [if_neg hmem, heq, Function.update_self, if_pos List.mem_cons_self]
        · rw [if_neg hmem, Function.update_of_ne heq,
            if_neg fun h => (List.mem_cons.mp h).elim heq hmem]
  exact hall before

/-! ### The barriers in front of a node's work -/

/-- Barriers that discard nothing that has been specified leave all contents as they were. -/
theorem exec_bring {transitions : List (VulkanTexture × TextureStateTransition)}
    (hlayouts : Each runCommand VkCommand.LayoutsOk s.layouts (bring transitions))
    (hdiscard : ∀ p ∈ transitions, p.2.old.layout = .undefined →
      s.images p.1.image = hardware.unspecified p.1.image) :
    exec (Gpu.step images hardware) s (numbered i (bring transitions)) =
      some { s with layouts := executeAll s.layouts (bring transitions) } := by
  induction transitions generalizing s with
  | nil => rfl
  | cons p transitions ih =>
    rw [bring, List.flatMap_cons] at hlayouts ⊢
    rw [each_runCommand_append] at hlayouts
    have hfirst : exec (Gpu.step images hardware) s (numbered i (p.1.transition p.2)) =
        some { s with layouts := executeAll s.layouts (p.1.transition p.2) } := by
      have hlayout := hlayouts.1
      unfold VulkanTexture.transition at hlayout ⊢
      split_ifs with hne
      · rw [if_pos hne, each_runCommand_singleton] at hlayout
        show (Gpu.step images hardware s _).bind _ = _
        rw [step_pipelineBarrier hlayout (hdiscard p List.mem_cons_self)]
        rfl
      · rfl
    have hrest := ih (s := { s with layouts := executeAll s.layouts (p.1.transition p.2) })
      hlayouts.2 fun q hq => hdiscard q (List.mem_cons_of_mem p hq)
    unfold numbered at hfirst hrest ⊢
    rw [List.map_append, exec_append, hfirst, Option.bind_some, executeAll_append]
    exact hrest

end Step

end Teide
