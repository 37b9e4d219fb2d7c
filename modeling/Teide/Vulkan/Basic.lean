import Mathlib.Data.Finset.Insert
import Mathlib.Logic.Function.Basic
import Mathlib.Tactic.Common

/-!
# Images, layouts and recorded commands

The part of Vulkan that the render graph uses: formats, image layouts, the state of a texture, image
barriers and render passes, as `Vulkan.cpp` and `VulkanTexture.cpp` fill them in. Flag sets are
finite sets of their bits.

`VkCommand` is what ends up in a command buffer, and `VkCommand.execute` what it does to the layouts
of the images. The draws of a render pass are represented by the images they sample.
-/

namespace Teide

inductive Format where
  | unknown
  | byte1 | byte1Norm | short1 | short1Norm | ushort1 | ushort1Norm | half1 | int1 | uint1 | float1
  | byte2 | byte2Norm | short2 | short2Norm | ushort2 | ushort2Norm | half2 | int2 | uint2 | float2
  | byte3 | byte3Norm | short3 | short3Norm | ushort3 | ushort3Norm | half3 | int3 | uint3 | float3
  | byte4 | byte4Norm | byte4Srgb | byte4SrgbBGRA | short4 | short4Norm | ushort4 | ushort4Norm
  | half4 | int4 | uint4 | float4
  | depth16 | depth32 | depth16Stencil8 | depth24Stencil8 | depth32Stencil8 | stencil8
  deriving DecidableEq

def hasDepthComponent : Format → Bool
  | .depth16 | .depth32 | .depth16Stencil8 | .depth24Stencil8 | .depth32Stencil8 => true
  | _ => false

def hasStencilComponent : Format → Bool
  | .stencil8 | .depth16Stencil8 | .depth24Stencil8 | .depth32Stencil8 => true
  | _ => false

def hasDepthOrStencilComponent : Format → Bool
  | .depth16 | .depth32 | .depth16Stencil8 | .depth24Stencil8 | .depth32Stencil8 | .stencil8 => true
  | _ => false

structure Size2i where
  x : UInt32 := 0
  y : UInt32 := 0
  deriving DecidableEq

inductive ImageAspect where
  | color | depth | stencil
  deriving DecidableEq

abbrev ImageAspectFlags := Finset ImageAspect

def getImageAspect (format : Format) : ImageAspectFlags :=
  if hasDepthComponent format && hasStencilComponent format then {.depth, .stencil}
  else if hasDepthComponent format then {.depth}
  else if hasStencilComponent format then {.stencil}
  else {.color}

inductive ImageLayout where
  | undefined | general | colorAttachmentOptimal | depthStencilAttachmentOptimal
  | depthStencilReadOnlyOptimal | shaderReadOnlyOptimal | transferSrcOptimal | transferDstOptimal
  | presentSrcKHR
  deriving DecidableEq

inductive PipelineStage where
  | topOfPipe | transfer | computeShader | fragmentShader | colorAttachmentOutput
  | earlyFragmentTests | lateFragmentTests
  deriving DecidableEq

abbrev PipelineStageFlags := Finset PipelineStage

inductive ImageUsage where
  | transferSrc | transferDst | sampled | storage | colorAttachment | depthStencilAttachment
  deriving DecidableEq

abbrev ImageUsageFlags := Finset ImageUsage

structure TextureState where
  layout : ImageLayout := .undefined
  lastPipelineStageUsage : PipelineStageFlags := {.topOfPipe}
  deriving DecidableEq

structure TextureStateTransition where
  old : TextureState
  new : TextureState
  deriving DecidableEq

/-- A `vk::Image`, by the number of images created before it. -/
abbrev Image := Nat

structure ImageMemoryBarrier where
  image : Image
  oldLayout : ImageLayout
  newLayout : ImageLayout
  srcStageMask : PipelineStageFlags
  dstStageMask : PipelineStageFlags
  aspectMask : ImageAspectFlags
  levelCount : UInt32
  deriving DecidableEq

def transitionImageLayout (image : Image) (format : Format) (mipLevelCount : UInt32)
    (oldLayout newLayout : ImageLayout) (srcStageMask dstStageMask : PipelineStageFlags) :
    ImageMemoryBarrier where
  image := image
  oldLayout := oldLayout
  newLayout := newLayout
  srcStageMask := srcStageMask
  dstStageMask := dstStageMask
  aspectMask := getImageAspect format
  levelCount := mipLevelCount

/-! ### Render passes -/

inductive AttachmentLoadOp where
  | load | clear | dontCare
  deriving DecidableEq

inductive AttachmentStoreOp where
  | store | dontCare
  deriving DecidableEq

inductive FramebufferUsage where
  | attachment | shaderInput | presentSrc

structure FramebufferLayout where
  colorFormat : Option Format := none
  depthStencilFormat : Option Format := none
  sampleCount : UInt32 := 1
  captureColor : Bool := false
  captureDepthStencil : Bool := false
  resolveColor : Bool := false
  resolveDepthStencil : Bool := false

structure RenderPassInfo where
  colorLoadOp : AttachmentLoadOp := .dontCare
  colorStoreOp : AttachmentStoreOp := .store
  depthLoadOp : AttachmentLoadOp := .dontCare
  depthStoreOp : AttachmentStoreOp := .dontCare
  stencilLoadOp : AttachmentLoadOp := .dontCare
  stencilStoreOp : AttachmentStoreOp := .dontCare

structure AttachmentDescription where
  format : Format
  samples : UInt32
  loadOp : AttachmentLoadOp
  storeOp : AttachmentStoreOp
  stencilLoadOp : AttachmentLoadOp := .load
  stencilStoreOp : AttachmentStoreOp := .store
  initialLayout : ImageLayout
  finalLayout : ImageLayout

def getColorImageLayout : FramebufferUsage → ImageLayout
  | .attachment => .colorAttachmentOptimal
  | .presentSrc => .presentSrcKHR
  | .shaderInput => .shaderReadOnlyOptimal

def getDepthStencilImageLayout : FramebufferUsage → ImageLayout
  | .attachment | .presentSrc => .depthStencilAttachmentOptimal
  | .shaderInput => .depthStencilReadOnlyOptimal

/-- The attachments of the render pass. The assertions of the source about the formats are not part
of the model: where they fail, the program stops. -/
def createRenderPass (layout : FramebufferLayout) (usage : FramebufferUsage)
    (renderPassInfo : RenderPassInfo) : List AttachmentDescription :=
  let multisampling := layout.sampleCount != 1
  let resolveColor := multisampling && layout.resolveColor
  let loadColor := renderPassInfo.colorLoadOp = .load
  let color := layout.colorFormat.toList.map fun format =>
    { format := format
      samples := layout.sampleCount
      loadOp := renderPassInfo.colorLoadOp
      storeOp := if multisampling then .dontCare else renderPassInfo.colorStoreOp
      initialLayout := if loadColor then .colorAttachmentOptimal else .undefined
      finalLayout := if resolveColor then .colorAttachmentOptimal else getColorImageLayout usage }
  let depthStencil := layout.depthStencilFormat.toList.map fun format =>
    { format := format
      samples := layout.sampleCount
      -- the depth load operation of `renderPassInfo` is not used
      loadOp := .clear
      storeOp := if multisampling then .dontCare else renderPassInfo.depthStoreOp
      stencilLoadOp := .dontCare
      stencilStoreOp := if multisampling then .dontCare else renderPassInfo.stencilStoreOp
      initialLayout := .undefined
      finalLayout := getDepthStencilImageLayout usage }
  let resolve := if resolveColor then layout.colorFormat.toList.map fun format =>
      { format := format
        samples := 1
        loadOp := .dontCare
        storeOp := renderPassInfo.colorStoreOp
        initialLayout := .undefined
        finalLayout := getColorImageLayout usage }
    else []
  color ++ depthStencil ++ resolve

/-! ### Command buffers -/

inductive VkCommand where
  | pipelineBarrier (barrier : ImageMemoryBarrier)
  | copyBufferToImage (image : Image) (layout : ImageLayout) (format : Format) (extent : Size2i)
  | copyImageToBuffer (image : Image) (layout : ImageLayout) (format : Format) (extent : Size2i)
      (numMipLevels : UInt32)
  | renderPass (attachments : List (AttachmentDescription × Image)) (sampled : List Image)

/-- The image barriers among recorded commands. -/
def barriers (commands : List VkCommand) : List ImageMemoryBarrier :=
  commands.filterMap fun
    | .pipelineBarrier barrier => some barrier
    | _ => none

abbrev Layouts := Image → ImageLayout

/-- A render pass leaves its attachments in their final layouts. -/
def endRenderPass (layouts : Layouts) (attachments : List (AttachmentDescription × Image)) : Layouts :=
  attachments.foldl (fun layouts a => Function.update layouts a.2 a.1.finalLayout) layouts

namespace VkCommand

def execute (layouts : Layouts) : VkCommand → Layouts
  | pipelineBarrier barrier => Function.update layouts barrier.image barrier.newLayout
  | copyBufferToImage .. | copyImageToBuffer .. => layouts
  | renderPass attachments _ => endRenderPass layouts attachments

/-- The images a command uses are in the layouts it takes them to be in. -/
def LayoutsOk (layouts : Layouts) : VkCommand → Prop
  | pipelineBarrier barrier => layouts barrier.image = barrier.oldLayout
  | copyBufferToImage image layout _ _ => layouts image = layout
  | copyImageToBuffer image layout _ _ _ => layouts image = layout
  | renderPass attachments sampled =>
    (∀ a ∈ attachments, a.1.initialLayout = .undefined ∨ layouts a.2 = a.1.initialLayout) ∧
      ∀ image ∈ sampled, layouts image = .shaderReadOnlyOptimal

instance (layouts : Layouts) : ∀ command, Decidable (LayoutsOk layouts command)
  | pipelineBarrier _ | copyBufferToImage .. | copyImageToBuffer .. =>
    inferInstanceAs (Decidable (_ = _))
  | renderPass .. => inferInstanceAs (Decidable (_ ∧ _))

end VkCommand

end Teide
