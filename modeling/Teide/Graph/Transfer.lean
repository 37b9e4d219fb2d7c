import Mathlib.Algebra.Ring.Nat
import Mathlib.Order.Lattice
import Mathlib.Tactic.Common
import Teide.Graph.Record

/-!
# Uploading and downloading texture data

A write node copies the pixels of its texture data into a staging buffer and has the buffer copied to
the image; a read node has the image copied to a staging buffer, from which `ExecuteGraph` makes texture
data again. The first copy has one region, for mip level 0. The second has one for each level, with the
levels behind each other in the buffer.

The pixels and the sampler state of texture data are kept beside the graph, by the index of the texture
data node: building and recording a graph do not look at them. The texels of a mip level are given by
their bytes, tightly packed. An image whose contents are not specified, because it is new or has been in
an undefined layout, has those of `unspecified`. A copy whose region does not lie in the buffer is not
defined.
-/

namespace Teide

/-! ### Texture data -/

inductive Filter where
  | nearest | linear

inductive MipmapMode where
  | nearest | linear

inductive SamplerAddressMode where
  | repeat | mirror | clamp | border

inductive CompareOp where
  | never | less | equal | lessEqual | greater | greaterEqual | notEqual | always

structure SamplerState where
  magFilter : Filter := .nearest
  minFilter : Filter := .nearest
  mipmapMode : MipmapMode := .nearest
  addressModeU : SamplerAddressMode := .repeat
  addressModeV : SamplerAddressMode := .repeat
  addressModeW : SamplerAddressMode := .repeat
  maxAnisotropy : Option Float := none
  compareOp : Option CompareOp := none

/-- `TextureData` with all its members. -/
structure TextureContents extends TextureData where
  samplerState : SamplerState := {}
  pixels : List UInt8 := []

def getFormatElementSize : Format → UInt32
  | .unknown => 0
  | .byte1 | .byte1Norm => 1 * 1
  | .short1 | .short1Norm | .ushort1 | .ushort1Norm | .half1 => 2 * 1
  | .int1 | .uint1 | .float1 => 4 * 1
  | .byte2 | .byte2Norm => 1 * 2
  | .short2 | .short2Norm | .ushort2 | .ushort2Norm | .half2 => 2 * 2
  | .int2 | .uint2 | .float2 => 4 * 2
  | .byte3 | .byte3Norm => 1 * 3
  | .short3 | .short3Norm | .ushort3 | .ushort3Norm | .half3 => 2 * 3
  | .int3 | .uint3 | .float3 => 4 * 3
  | .byte4 | .byte4Norm | .byte4Srgb | .byte4SrgbBGRA => 1 * 4
  | .short4 | .short4Norm | .ushort4 | .ushort4Norm | .half4 => 2 * 4
  | .int4 | .uint4 | .float4 => 4 * 4
  | .depth16 => 2
  | .depth32 => 4
  | .depth16Stencil8 => 3
  | .depth24Stencil8 => 4
  | .depth32Stencil8 => 5
  | .stencil8 => 1

/-- The loop of `GetByteSize`, with `count` rounds to go. -/
def mipsByteSize (pixelSize mipw miph result : UInt64) : Nat → UInt64
  | 0 => result
  | count + 1 =>
    mipsByteSize pixelSize (max 1 (mipw / 2)) (max 1 (miph / 2))
      (result + mipw * miph * pixelSize) count

def getByteSize (data : TextureData) : UInt64 :=
  mipsByteSize (getFormatElementSize data.format).toUInt64 data.size.x.toUInt64
    data.size.y.toUInt64 0 data.mipLevelCount.toNat

/-! ### Regions -/

structure Extent3D where
  width : UInt32
  height : UInt32
  depth : UInt32 := 1

/-- The texels of an extent. -/
def Extent3D.texels (extent : Extent3D) : Nat :=
  extent.width.toNat * extent.height.toNat * extent.depth.toNat

/-- `vk::BufferImageCopy` of a whole level, packed tightly in the buffer. -/
structure BufferImageCopy where
  bufferOffset : UInt64
  aspectMask : ImageAspectFlags
  mipLevel : UInt32
  imageExtent : Extent3D

/-- The region of `CopyBufferToImage`. -/
def bufferToImageRegion (imageFormat : Format) (imageExtent : Extent3D) : BufferImageCopy :=
  { bufferOffset := 0
    aspectMask := getImageAspect imageFormat
    mipLevel := 0
    imageExtent := imageExtent }

/-- The loop of `CopyImageToBuffer`, with `count` rounds to go. -/
def mipRegions (aspectMask : ImageAspectFlags) (pixelSize i offset : UInt32) (mipExtent : Extent3D) :
    Nat → List BufferImageCopy
  | 0 => []
  | count + 1 =>
    { bufferOffset := offset.toUInt64
      aspectMask := aspectMask
      mipLevel := i
      imageExtent := mipExtent } ::
    mipRegions aspectMask pixelSize (i + 1)
      (offset + mipExtent.width * mipExtent.height * mipExtent.depth * pixelSize)
      { width := max 1 (mipExtent.width / 2)
        height := max 1 (mipExtent.height / 2)
        depth := max 1 (mipExtent.depth / 2) } count

/-- The regions of `CopyImageToBuffer`. -/
def imageToBufferRegions (imageFormat : Format) (imageExtent : Extent3D) (numMipLevels : UInt32) :
    List BufferImageCopy :=
  mipRegions (getImageAspect imageFormat) (getFormatElementSize imageFormat) 0 0 imageExtent
    numMipLevels.toNat

/-- The regions that a texture is downloaded with. -/
def downloadRegions (data : TextureData) : List BufferImageCopy :=
  imageToBufferRegions data.format { width := data.size.x, height := data.size.y }
    data.mipLevelCount

/-! ### What the GPU does -/

/-- The bytes of each mip level. -/
abbrev ImageContents := Nat → Nat → UInt8

/-- The bytes that a region takes in the buffer. -/
def regionSize (pixelSize : UInt32) (region : BufferImageCopy) : Nat :=
  region.imageExtent.texels * pixelSize.toNat

def copyToImage (pixelSize : UInt32) (buffer : List UInt8) (contents : ImageContents)
    (region : BufferImageCopy) : Option ImageContents :=
  let size := regionSize pixelSize region
  let offset := region.bufferOffset.toNat
  if offset + size ≤ buffer.length then
    some fun level i =>
      if level = region.mipLevel.toNat ∧ i < size then buffer.getD (offset + i) 0
      else contents level i
  else none

def copyToBuffer (pixelSize : UInt32) (contents : ImageContents) (buffer : List UInt8)
    (region : BufferImageCopy) : Option (List UInt8) :=
  let size := regionSize pixelSize region
  let offset := region.bufferOffset.toNat
  if offset + size ≤ buffer.length then
    some (buffer.take offset ++ (List.range size).map (contents region.mipLevel.toNat) ++
      buffer.drop (offset + size))
  else none

/-- The images, and the staging buffer of the command node that is executed. -/
structure Memory where
  images : Image → ImageContents
  buffer : List UInt8

def executeTransfer (unspecified : Image → ImageContents) (m : Memory) : VkCommand → Option Memory
  | .pipelineBarrier barrier =>
    if barrier.oldLayout = .undefined then
      some { m with images := Function.update m.images barrier.image (unspecified barrier.image) }
    else some m
  | .copyBufferToImage image _ format extent =>
    (copyToImage (getFormatElementSize format) m.buffer (m.images image)
      (bufferToImageRegion format { width := extent.x, height := extent.y })).map fun contents =>
        { m with images := Function.update m.images image contents }
  | .copyImageToBuffer image _ format extent numMipLevels =>
    ((imageToBufferRegions format { width := extent.x, height := extent.y } numMipLevels).foldlM
      (copyToBuffer (getFormatElementSize format) (m.images image)) m.buffer).map fun buffer =>
        { m with buffer := buffer }
  | .renderPass .. => some m

/-- The command buffers are executed in their order, each with its staging buffer, and leave these
staging buffers. -/
def executeBuffers (unspecified : Image → ImageContents)
    (stagingBuffer : Nat → Option (List UInt8)) (index : Nat) (images : Image → ImageContents) :
    List (List VkCommand) → Option (List (List UInt8))
  | [] => some []
  | commands :: rest => do
    let buffer ← stagingBuffer index
    let m ← commands.foldlM (executeTransfer unspecified) ⟨images, buffer⟩
    let buffers ← executeBuffers unspecified stagingBuffer (index + 1) m.images rest
    return m.buffer :: buffers

/-! ### Executing a graph -/

/-- The texture data that a texture's properties describe. -/
def TextureProperties.data (properties : TextureProperties) : TextureData :=
  { size := properties.size
    format := properties.format
    mipLevelCount := properties.mipLevelCount
    sampleCount := properties.sampleCount }

/-- The staging buffer of a write node. A copy of more pixels than it holds is not defined. -/
def stageUpload (data : TextureData) (pixels : List UInt8) : Option (List UInt8) :=
  let bufferSize := (getByteSize data).toNat
  if pixels.length ≤ bufferSize then
    some (pixels ++ List.replicate (bufferSize - pixels.length) 0xab)
  else none

namespace VulkanGraph

/-- The staging buffer that the command node of an index creates. -/
def stagingBuffer (g : VulkanGraph) (device : Device) (pixels : Nat → List UInt8) (index : Nat) :
    Option (List UInt8) :=
  match g.writeNodes.find? fun node => node.index = index with
  | some node =>
    (g.textureDataNodes[node.source.index]?).bind fun sourceNode =>
      stageUpload sourceNode.data (pixels node.source.index)
  | none =>
    match g.readNodes.find? fun node => node.index = index ∧ node.expired = false with
    | some node =>
      (g.textureNodes[node.source.index]?).map fun sourceNode =>
        List.replicate (getByteSize (device.textures sourceNode.texture).properties.data).toNat 0xef
    | none => some []

/-- What the receiver of a read node is given. -/
def receive (g : VulkanGraph) (device : Device) (buffers : List (List UInt8)) (node : ReadNode) :
    Option TextureContents := do
  let sourceNode ← g.textureNodes[node.source.index]?
  let pixels ← buffers[node.index]?
  return { (device.textures sourceNode.texture).properties.data with pixels }

/-- What the receivers of a graph's read nodes are given, if all its copies are defined. -/
def download (g : VulkanGraph) (device : Device) (pixels : Nat → List UInt8)
    (unspecified : Image → ImageContents) : Option (List TextureContents) := do
  let built := g.buildGraph device
  let (device, cmdBuffers) := g.executeGraph device
  let buffers ← executeBuffers unspecified (built.stagingBuffer device pixels) 0 unspecified
    cmdBuffers
  built.readNodes.mapM (built.receive device buffers)

/-- A graph that writes texture data to a texture and reads the texture. -/
def writeRead (data : TextureData) (texture : Texture) : List Call :=
  [.addTextureDataNode data, .addTextureNode texture,
    .addWriteNode (textureDataRef 0) (textureRef 0), .addReadNode (textureRef 0)]

/-- What is read of a texture after `d` has been written to it. -/
def writeAndRead (device : Device) (texture : Texture) (d : TextureContents)
    (unspecified : Image → ImageContents) : Option (List TextureContents) :=
  (Runs.exec step {} (writeRead d.toTextureData texture)).bind fun g =>
    g.download device (fun _ => d.pixels) unspecified

/-- The texture data is read back as it was written, whatever unspecified contents are. -/
def RoundTrips (device : Device) (texture : Texture) (d : TextureContents) : Prop :=
  ∀ unspecified, writeAndRead device texture d unspecified = some [d]

/-! ### The copies of the graph -/

/-- The node of the texture, once the graph is built. -/
def writtenNode (texture : Texture) : TextureNode :=
  { texture := texture
    source := ⟨.write, 0⟩
    usage := {.transferDst, .transferSrc}
    stateChanges :=
      [⟨0, transferDstState, transferDstState⟩, ⟨1, transferSrcState, transferSrcState⟩] }

/-- The graph after `writeRead`, once it is built. -/
def writeReadGraph (data : TextureData) (texture : Texture) : VulkanGraph :=
  { writeNodes := [⟨0, textureDataRef 0, textureRef 0⟩]
    readNodes := [{ index := 1, source := textureRef 0 }]
    commandNodeCount := 2
    textureNodes := [writtenNode texture]
    textureDataNodes := [{ data := data }] }

theorem exec_writeRead (data : TextureData) (texture : Texture) : Runs.exec step {}
    (writeRead data texture) = some { writeReadGraph data texture with
      textureNodes := [{ writtenNode texture with stateChanges := [] }] } := rfl

theorem buildGraph_writeRead (data : TextureData) (texture : Texture) (device : Device) :
    buildGraph { writeReadGraph data texture with
      textureNodes := [{ writtenNode texture with stateChanges := [] }] } device =
        writeReadGraph data texture := by
  simp [buildGraph, writeReadGraph, writtenNode, addDependencies, addStateChange, modifyTexture,
    textureRef, TextureNode.addStateChange, Timeline.insert, Timeline.before, Timeline.fromOn]

/-- The texture once its image has been created. -/
def writtenTexture (device : Device) (data : TextureData) : VulkanTexture :=
  { image := device.images.length
    usage := {.transferDst, .transferSrc} ∪ {.transferSrc}
    properties :=
      { size := data.size
        format := data.format
        mipLevelCount := data.mipLevelCount
        sampleCount := data.sampleCount } }

theorem textures_writeRead (data : TextureData) (texture : Texture) (device : Device) :
    ((writeReadGraph data texture).createTextures device).textures texture =
      writtenTexture device data := by
  simp [createTextures, writeReadGraph, setWriteProperties, createTexture,
    Device.createTextureImpl, writtenNode, writtenTexture, textureRef, textureDataRef]

/-- The barrier in front of the first copy leaves an undefined layout, that in front of the second one
does not. -/
theorem prepare_writtenNode (texture : Texture) (device : Device) :
    ∃ barrier barrier', (writtenNode texture).prepare 0 device = [.pipelineBarrier barrier] ∧
      (writtenNode texture).prepare 1 device = [.pipelineBarrier barrier'] ∧
      barrier.oldLayout = .undefined ∧ barrier'.oldLayout = .transferDstOptimal ∧
      barrier.image = (device.textures texture).image := by
  have hfirst : (writtenNode texture).getStateTransition 0 = some ⟨{}, transferDstState⟩ := by
    simp [TextureNode.getStateTransition, TextureNode.stateBefore, writtenNode, Timeline.before,
      Timeline.fromOn]
  have hsecond : (writtenNode texture).getStateTransition 1 =
      some ⟨transferDstState, transferSrcState⟩ := by
    simp [TextureNode.getStateTransition, TextureNode.stateBefore, writtenNode, Timeline.before,
      Timeline.fromOn]
  have hdst : transferDstState ≠ {} := by decide
  have hsrc : transferSrcState ≠ transferDstState := by decide
  unfold TextureNode.prepare VulkanTexture.transition
  rw [hfirst, hsecond]
  simp only [Option.toList_some, List.flatMap_cons, List.flatMap_nil, List.append_nil, hdst, hsrc,
    ne_eq, not_false_eq_true, if_true]
  exact ⟨_, _, rfl, rfl, rfl, rfl, rfl⟩

/-- The command buffers of the write node and of the read node. -/
theorem executeGraph_writeRead (data : TextureData) (texture : Texture) (device : Device) :
    ∃ device' barrier barrier',
      executeGraph { writeReadGraph data texture with
          textureNodes := [{ writtenNode texture with stateChanges := [] }] } device =
        (device', [[.pipelineBarrier barrier, .copyBufferToImage device.images.length
            .transferDstOptimal data.format data.size],
          [.pipelineBarrier barrier', .copyImageToBuffer device.images.length .transferSrcOptimal
            data.format data.size data.mipLevelCount]]) ∧
      device'.textures texture = writtenTexture device data ∧
      barrier.oldLayout = .undefined ∧ barrier'.oldLayout = .transferDstOptimal ∧
      barrier.image = device.images.length := by
  obtain ⟨barrier, barrier', hfirst, hsecond, hold, hold', himage⟩ :=
    prepare_writtenNode texture ((writeReadGraph data texture).createTextures device)
  have htexture := textures_writeRead data texture device
  refine ⟨(writeReadGraph data texture).createTextures device, barrier, barrier', ?_, htexture, hold,
    hold', ?_⟩
  · have hwrite : WriteNode.process ⟨0, textureDataRef 0, textureRef 0⟩
        (writeReadGraph data texture) ((writeReadGraph data texture).createTextures device) =
          [.pipelineBarrier barrier, .copyBufferToImage device.images.length .transferDstOptimal
            data.format data.size] := by
      show (writtenNode texture).prepare 0 _ ++ [.copyBufferToImage (Device.textures _ texture).image
        _ _ _] = _
      rw [hfirst, htexture]
      rfl
    have hread : ReadNode.process { index := 1, source := textureRef 0 }
        (writeReadGraph data texture) ((writeReadGraph data texture).createTextures device) =
          [.pipelineBarrier barrier', .copyImageToBuffer device.images.length .transferSrcOptimal
            data.format data.size data.mipLevelCount] := by
      show (writtenNode texture).prepare 1 _ ++ [.copyImageToBuffer (Device.textures _ texture).image
        _ (Device.textures _ texture).properties.format (Device.textures _ texture).properties.size
        (Device.textures _ texture).properties.mipLevelCount] = _
      rw [hsecond, htexture]
      rfl
    unfold executeGraph
    rw [buildGraph_writeRead, ← hwrite, ← hread]
    rfl
  · rw [himage, htexture]
    rfl

/-- The region of the write node. -/
def uploadRegion (data : TextureData) : BufferImageCopy :=
  bufferToImageRegion data.format { width := data.size.x, height := data.size.y }

/-- The commands of the write node. -/
theorem executeTransfer_upload (unspecified : Image → ImageContents) (m : Memory) (image : Image)
    (layout : ImageLayout) (data : TextureData) {barrier : ImageMemoryBarrier}
    (hold : barrier.oldLayout = .undefined) (himage : barrier.image = image) :
    [.pipelineBarrier barrier, .copyBufferToImage image layout data.format data.size].foldlM
        (executeTransfer unspecified) m =
      (copyToImage (getFormatElementSize data.format) m.buffer (unspecified image)
        (uploadRegion data)).map fun contents =>
          { m with images := Function.update m.images image contents } := by
  simp only [List.foldlM_cons, List.foldlM_nil, executeTransfer, hold, if_true, himage,
    Option.bind_eq_bind, Option.bind_some, Function.update_self, Function.update_idem,
    Option.pure_def, Option.bind_fun_some]
  rfl

/-- The commands of the read node. -/
theorem executeTransfer_download (unspecified : Image → ImageContents) (m : Memory) (image : Image)
    (layout : ImageLayout) (data : TextureData) {barrier : ImageMemoryBarrier}
    (hold : barrier.oldLayout ≠ .undefined) :
    [.pipelineBarrier barrier, .copyImageToBuffer image layout data.format data.size
        data.mipLevelCount].foldlM (executeTransfer unspecified) m =
      ((downloadRegions data).foldlM (copyToBuffer (getFormatElementSize data.format)
        (m.images image)) m.buffer).map fun buffer => { m with buffer := buffer } := by
  simp only [List.foldlM_cons, List.foldlM_nil, executeTransfer, hold, if_false,
    Option.bind_eq_bind, Option.bind_some, Option.pure_def, Option.bind_fun_some]
  rfl

/-- The pixels go into a staging buffer, from there into the image, whose contents have not been
specified, and from there into another staging buffer. -/
theorem writeAndRead_eq (device : Device) (texture : Texture) (d : TextureContents)
    (unspecified : Image → ImageContents) :
    writeAndRead device texture d unspecified = (do
      let staged ← stageUpload d.toTextureData d.pixels
      let contents ← copyToImage (getFormatElementSize d.format) staged
        (unspecified device.images.length) (uploadRegion d.toTextureData)
      let pixels ← (downloadRegions d.toTextureData).foldlM
        (copyToBuffer (getFormatElementSize d.format) contents)
        (List.replicate (getByteSize d.toTextureData).toNat 0xef)
      return [{ d.toTextureData with pixels }]) := by
  obtain ⟨device', barrier, barrier', hgraph, htexture, hold, hold', himage⟩ :=
    executeGraph_writeRead d.toTextureData texture device
  have hupload : (writeReadGraph d.toTextureData texture).stagingBuffer device' (fun _ => d.pixels) 0 =
      stageUpload d.toTextureData d.pixels := rfl
  have hdownload : (writeReadGraph d.toTextureData texture).stagingBuffer device' (fun _ => d.pixels)
      1 = some (List.replicate (getByteSize d.toTextureData).toNat 0xef) := by
    show some (List.replicate (getByteSize (device'.textures texture).properties.data).toNat 0xef) = _
    rw [htexture]
    rfl
  have hreceive (buffer pixels : List UInt8) :
      (writeReadGraph d.toTextureData texture).readNodes.mapM
        ((writeReadGraph d.toTextureData texture).receive device' [buffer, pixels]) =
          some [{ d.toTextureData with pixels }] := by
    show some [({ (device'.textures texture).properties.data with pixels } : TextureContents)] = _
    rw [htexture]
    rfl
  have hne : barrier'.oldLayout ≠ .undefined := by
    rw [hold']
    decide
  unfold writeAndRead
  rw [exec_writeRead, Option.bind_some]
  unfold download
  rw [buildGraph_writeRead, hgraph]
  dsimp only
  unfold executeBuffers
  rw [hupload]
  cases stageUpload d.toTextureData d.pixels with
  | none => rfl
  | some staged =>
    simp only [Option.bind_eq_bind, Option.bind_some,
      executeTransfer_upload unspecified _ _ _ _ hold himage]
    cases copyToImage (getFormatElementSize d.format) staged (unspecified device.images.length)
      (uploadRegion d.toTextureData) with
    | none => rfl
    | some contents =>
      unfold executeBuffers
      simp only [Option.map_some, Option.bind_eq_bind, Option.bind_some, hdownload,
        executeTransfer_download unspecified _ _ _ _ hne, Function.update_self]
      cases (downloadRegions d.toTextureData).foldlM
        (copyToBuffer (getFormatElementSize d.format) contents)
        (List.replicate (getByteSize d.toTextureData).toNat 0xef) with
      | none => rfl
      | some pixels => exact hreceive staged pixels

end VulkanGraph

end Teide
