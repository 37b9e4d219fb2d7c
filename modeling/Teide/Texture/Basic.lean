import Teide.Graph.Transfer

/-!
# Creating a texture from its data

`CreateTexture` creates an image, uploads the pixels if there are any, and then makes the image ready
to be sampled: by generating its mip levels if it is to have more than one, else by a transition of
the whole image. Here the layout of each mip level counts, since the generation of the levels brings
them one by one from layout to layout. The commands of this part are all about the one image.

A command is executed only if the levels that it accesses are in the layouts it names. The old layout
of a barrier may also be the undefined one, which fits every layout.
-/

namespace Teide

/-! ### Commands -/

/-- An image barrier over some of the mip levels. -/
structure LevelBarrier extends ImageMemoryBarrier where
  baseMipLevel : UInt32 := 0

/-- The barrier is over this mip level. -/
def LevelBarrier.Covers (barrier : LevelBarrier) (level : Nat) : Prop :=
  barrier.baseMipLevel.toNat ≤ level ∧
    level < barrier.baseMipLevel.toNat + barrier.levelCount.toNat

instance (barrier : LevelBarrier) (level : Nat) : Decidable (barrier.Covers level) :=
  inferInstanceAs (Decidable (_ ∧ _))

structure Offset3D where
  x : Int32 := 0
  y : Int32 := 0
  z : Int32 := 0

structure ImageSubresourceLayers where
  aspectMask : ImageAspectFlags
  mipLevel : UInt32

structure ImageBlit where
  srcSubresource : ImageSubresourceLayers
  srcOffsets : Offset3D × Offset3D
  dstSubresource : ImageSubresourceLayers
  dstOffsets : Offset3D × Offset3D

inductive TextureCommand where
  | pipelineBarrier (barrier : LevelBarrier)
  | copyBufferToImage (layout : ImageLayout) (region : BufferImageCopy)
  | copyImageToBuffer (layout : ImageLayout) (region : BufferImageCopy)
  | blitImage (srcLayout dstLayout : ImageLayout) (blit : ImageBlit) (filter : Filter)

/-- The layout of each mip level. -/
abbrev LevelLayouts := Nat → ImageLayout

namespace TextureCommand

/-- The levels that the command accesses are in the layouts it names. -/
def LayoutsOk (layouts : LevelLayouts) : TextureCommand → Prop
  | pipelineBarrier barrier => barrier.oldLayout = .undefined ∨
      ∀ level < barrier.baseMipLevel.toNat + barrier.levelCount.toNat,
        barrier.baseMipLevel.toNat ≤ level → layouts level = barrier.oldLayout
  | copyBufferToImage layout region => layouts region.mipLevel.toNat = layout
  | copyImageToBuffer layout region => layouts region.mipLevel.toNat = layout
  | blitImage srcLayout dstLayout blit _ =>
    layouts blit.srcSubresource.mipLevel.toNat = srcLayout ∧
      layouts blit.dstSubresource.mipLevel.toNat = dstLayout

instance (layouts : LevelLayouts) : ∀ command, Decidable (LayoutsOk layouts command)
  | pipelineBarrier _ => inferInstanceAs (Decidable (_ ∨ _))
  | copyBufferToImage .. | copyImageToBuffer .. => inferInstanceAs (Decidable (_ = _))
  | blitImage .. => inferInstanceAs (Decidable (_ ∧ _))

def execute (layouts : LevelLayouts) (command : TextureCommand) : Option LevelLayouts :=
  if LayoutsOk layouts command then
    match command with
    | pipelineBarrier barrier =>
      some fun level => if barrier.Covers level then barrier.newLayout else layouts level
    | _ => some layouts
  else none

end TextureCommand

/-! ### Transitions -/

namespace VulkanTexture

/-- A call of `TransitionImageLayout` for the image of the texture. -/
def imageTransition (texture : VulkanTexture) (old new : TextureState) : TextureCommand :=
  .pipelineBarrier
    { transitionImageLayout texture.image texture.properties.format
        texture.properties.mipLevelCount old.layout new.layout old.lastPipelineStageUsage
        new.lastPipelineStageUsage with }

def doTransition (texture : VulkanTexture) (state : TextureState) (newLayout : ImageLayout)
    (newPipelineStageFlags : PipelineStageFlags) : TextureState × List TextureCommand :=
  if newLayout = state.layout ∧ newPipelineStageFlags = state.lastPipelineStageUsage then (state, [])
  else (⟨newLayout, newPipelineStageFlags⟩,
    [texture.imageTransition state ⟨newLayout, newPipelineStageFlags⟩])

def transitionToShaderInput (texture : VulkanTexture) (state : TextureState) :
    TextureState × List TextureCommand :=
  let newLayout := if hasDepthOrStencilComponent texture.properties.format then
      ImageLayout.depthStencilReadOnlyOptimal
    else .shaderReadOnlyOptimal
  texture.doTransition state newLayout {.fragmentShader}

def transitionToTransferSrc (texture : VulkanTexture) (state : TextureState) :
    TextureState × List TextureCommand :=
  texture.doTransition state .transferSrcOptimal {.transfer}

/-! ### Mipmaps -/

/-- The function `makeBarrier` of `GenerateMipmaps`. -/
def makeBarrier (texture : VulkanTexture) (oldLayout newLayout : ImageLayout)
    (dstStageMask : PipelineStageFlags) (mipLevel : UInt32) : TextureCommand :=
  .pipelineBarrier
    { image := texture.image
      oldLayout := oldLayout
      newLayout := newLayout
      srcStageMask := {.transfer}
      dstStageMask := dstStageMask
      aspectMask := {.color}
      baseMipLevel := mipLevel
      levelCount := 1 }

/-- Half of a dimension, but at least 1. -/
def halve (size : Int32) : Int32 := if size > 1 then size / 2 else 1

/-- The loop of `GenerateMipmaps`, with `count` rounds to go. -/
def mipLevels (texture : VulkanTexture) (i : UInt32) (prevMipSize : Offset3D) :
    Nat → List TextureCommand
  | 0 => []
  | count + 1 =>
    let currMipSize : Offset3D :=
      ⟨halve prevMipSize.x, halve prevMipSize.y, halve prevMipSize.z⟩
    let blit : ImageBlit :=
      { srcSubresource := ⟨{.color}, i - 1⟩
        srcOffsets := ({}, prevMipSize)
        dstSubresource := ⟨{.color}, i⟩
        dstOffsets := ({}, currMipSize) }
    texture.makeBarrier .transferDstOptimal .transferSrcOptimal {.transfer} (i - 1) ::
    .blitImage .transferSrcOptimal .transferDstOptimal blit .linear ::
    texture.makeBarrier .transferSrcOptimal .shaderReadOnlyOptimal {.fragmentShader} (i - 1) ::
    mipLevels texture (i + 1) currMipSize count

def generateMipmaps (texture : VulkanTexture) (state : TextureState) :
    TextureState × List TextureCommand :=
  let size := texture.properties.size
  ({ state with layout := .shaderReadOnlyOptimal },
    texture.mipLevels 1 ⟨size.x.toInt32, size.y.toInt32, 1⟩
        (texture.properties.mipLevelCount.toNat - 1) ++
      [texture.makeBarrier .transferDstOptimal .shaderReadOnlyOptimal {.fragmentShader}
        (texture.properties.mipLevelCount - 1)])

end VulkanTexture

/-! ### Creating and copying -/

/-- The texture that `CreateTexture` has an image created for. -/
def createdTexture (image : Image) (data : TextureContents) : VulkanTexture where
  image := image
  usage := {.sampled} ∪ (if data.pixels ≠ [] then {.transferDst} else ∅) ∪
    (if data.mipLevelCount > 1 then {.transferSrc, .transferDst} else ∅) ∪
    (if hasDepthOrStencilComponent data.format then {.depthStencilAttachment} else ∅) ∪
    {.transferSrc}
  properties :=
    { size := data.size
      format := data.format
      mipLevelCount := data.mipLevelCount
      sampleCount := data.sampleCount }

/-- The part of `CreateTexture` that copies the pixels from a staging buffer. -/
def uploadPixels (texture : VulkanTexture) (data : TextureContents) (state : TextureState) :
    TextureState × List TextureCommand :=
  if data.pixels ≠ [] then
    (⟨.transferDstOptimal, {.transfer}⟩,
      [texture.imageTransition ⟨state.layout, {.topOfPipe}⟩ ⟨.transferDstOptimal, {.transfer}⟩,
        .copyBufferToImage .transferDstOptimal
          (bufferToImageRegion data.format ⟨data.size.x, data.size.y, 1⟩)])
  else (state, [])

/-- The commands of `CreateTexture`, for an image that has just been created. -/
def createTexture (image : Image) (data : TextureContents) : List TextureCommand :=
  let texture := createdTexture image data
  let (state, upload) := uploadPixels texture data ⟨.undefined, {.topOfPipe}⟩
  let (_, finish) := if data.mipLevelCount > 1 then texture.generateMipmaps state
    else texture.transitionToShaderInput state
  upload ++ finish

/-- The state that `CopyTextureData` takes a texture to be in. -/
def copyTextureDataState (texture : VulkanTexture) : TextureState where
  layout := if hasDepthOrStencilComponent texture.properties.format then
      .depthStencilReadOnlyOptimal
    else .shaderReadOnlyOptimal
  lastPipelineStageUsage := {.fragmentShader}

/-- The commands of `CopyTextureData`. -/
def copyTextureData (texture : VulkanTexture) : List TextureCommand :=
  let properties := texture.properties
  let (state, before) := texture.transitionToTransferSrc (copyTextureDataState texture)
  let (_, after) := texture.transitionToShaderInput state
  before ++ (imageToBufferRegions properties.format ⟨properties.size.x, properties.size.y, 1⟩
    properties.mipLevelCount).map (.copyImageToBuffer .transferSrcOptimal) ++ after

end Teide
