import Mathlib.Algebra.Ring.Nat
import Mathlib.Order.Lattice
import Mathlib.Tactic.Common
import Teide.Graph.Execute
import Teide.Graph.RoundTrip
import Teide.Texture.Download

/-!
# The images of a graph and whole-level copies

Before a graph records its command buffers, it gives each texture that a write node targets the
properties of the node's texture data, and creates an image for every texture. `dataOf` says with
which data: that of the last write node for the texture, if there is one, else what the properties of
the handle say.

An upload fills level 0 with the pixels (`writeLevel`); a download lays out all levels behind each other
(`readLevels`), provided that the 32 bits of an offset are enough (`TextureData.Countable`).
-/

namespace Teide

open Runs

/-! ### Created images -/

def imageInfo (properties : TextureProperties) (usage : ImageUsageFlags) : ImageCreateInfo where
  format := properties.format
  extent := properties.size
  mipLevels := properties.mipLevelCount
  samples := properties.sampleCount
  usage := usage ∪ {.transferSrc}
  initialLayout := .undefined

namespace VulkanGraph

variable {g : VulkanGraph} {device : Device} {t : Nat} {node : TextureNode}

/-- The texture data of a write node, without the pixels. -/
def sourceData (g : VulkanGraph) (node : WriteNode) : TextureData :=
  (g.textureDataNodes[node.source.index]?.map (·.data)).getD {}

/-- The data that the image of a texture node is created for. -/
def dataOf (g : VulkanGraph) (device : Device) (t : Nat) : TextureData :=
  match (g.writeNodes.filter fun node => node.target.index = t).getLast? with
  | some node => g.sourceData node
  | none =>
    (g.textureNodes[t]?.map fun node => (device.textures node.texture).properties.data).getD {}

theorem properties_createTexture (device : Device) (node : TextureNode) (texture : Texture) :
    ((createTexture device node).textures texture).properties =
      (device.textures texture).properties := by
  unfold createTexture Device.createTextureImpl
  dsimp only
  by_cases heq : texture = node.texture
  · rw [heq, Function.update_self, Function.update_self]
  · rw [Function.update_of_ne heq, Function.update_of_ne heq]

theorem images_createTexture (device : Device) (node : TextureNode) :
    (createTexture device node).images = device.images ++
      [imageInfo (device.textures node.texture).properties node.usage] := by
  unfold createTexture Device.createTextureImpl imageInfo
  dsimp only
  rw [Function.update_self]

/-- Creating images leaves the properties as they were. -/
theorem foldl_createTexture (nodes : List TextureNode) (device : Device) :
    (∀ texture, ((nodes.foldl createTexture device).textures texture).properties =
      (device.textures texture).properties) ∧
    (nodes.foldl createTexture device).images = device.images ++ nodes.map fun node =>
      imageInfo (device.textures node.texture).properties node.usage := by
  induction nodes generalizing device with
  | nil => exact ⟨fun _ => rfl, (List.append_nil _).symm⟩
  | cons node nodes ih =>
    obtain ⟨hproperties, himages⟩ := ih (createTexture device node)
    rw [List.foldl_cons]
    refine ⟨fun texture => ?_, ?_⟩
    · rw [hproperties, properties_createTexture]
    · rw [himages, images_createTexture, List.append_assoc, List.map_cons, List.singleton_append]
      refine congrArg (device.images ++ imageInfo _ _ :: ·) (List.map_congr_left fun node' _ => ?_)
      rw [properties_createTexture]

/-- The texture of a node has the data of the last write node for it. -/
theorem foldl_setWriteProperties (hdistinct : (g.textureNodes.map TextureNode.texture).Nodup)
    (hnode : g.textureNodes[t]? = some node) (nodes : List WriteNode)
    (hnodes : ∀ w ∈ nodes, g.IsTextureData w.source ∧ g.IsTexture w.target) (device : Device) :
    (((nodes.foldl g.setWriteProperties device).textures node.texture).properties.data =
      match (nodes.filter fun w => w.target.index = t).getLast? with
      | some w => g.sourceData w
      | none => (device.textures node.texture).properties.data) := by
  induction nodes using List.reverseRecOn with
  | nil => rfl
  | append_singleton nodes w ih =>
    have ih := ih fun w hw => hnodes w (List.mem_append_left _ hw)
    obtain ⟨hsource, htarget⟩ := hnodes w (List.mem_append_right _ (List.mem_singleton_self w))
    obtain ⟨source, hdata⟩ : ∃ source, g.textureDataNodes[w.source.index]? = some source :=
      ⟨_, List.getElem?_eq_getElem hsource.2⟩
    obtain ⟨target, htexture⟩ : ∃ target, g.textureNodes[w.target.index]? = some target :=
      ⟨_, List.getElem?_eq_getElem htarget.2⟩
    rw [List.foldl_append, List.foldl_cons, List.foldl_nil, setWriteProperties, htexture, hdata,
      List.filter_append]
    dsimp only
    by_cases heq : w.target.index = t
    · rw [heq, hnode] at htexture
      obtain rfl := Option.some.inj htexture
      rw [List.filter_singleton, decide_eq_true heq, cond_true, List.getLast?_concat,
        Function.update_self]
      dsimp only
      rw [sourceData, hdata]
      rfl
    · have hne : node.texture ≠ target.texture := by
        intro htextures
        have hmap : (g.textureNodes.map TextureNode.texture)[w.target.index]? =
            (g.textureNodes.map TextureNode.texture)[t]? := by
          rw [List.getElem?_map, List.getElem?_map, htexture, hnode, Option.map_some,
            Option.map_some, htextures]
        have hlt : w.target.index < (g.textureNodes.map TextureNode.texture).length := by
          rw [List.length_map]
          exact htarget.2
        exact heq ((List.getElem?_inj hlt hdistinct).mp hmap)
      rw [List.filter_singleton, decide_eq_false heq, cond_false, List.append_nil,
        Function.update_of_ne hne, ih]

section Executed

variable (hg : g.Fresh) (hdistinct : (g.textureNodes.map TextureNode.texture).Nodup)
  (hnode : g.textureNodes[t]? = some node)

include hg hdistinct hnode

variable (device)

theorem data_createTextures :
    (((g.writeNodes.foldl g.setWriteProperties device).textures node.texture).properties.data =
      g.dataOf device t) := by
  have hwrites : ∀ w ∈ g.writeNodes, g.IsTextureData w.source ∧ g.IsTexture w.target :=
    fun w hw => hg.wellFormed.nodes _ (write_mem_commandNodes.mpr hw)
  rw [foldl_setWriteProperties hdistinct hnode _ hwrites, dataOf, hnode]
  rfl

/-- The properties of a texture while the command buffers are recorded. -/
theorem executeGraph_data :
    ((g.executeGraph device).1.textures node.texture).properties.data = g.dataOf device t := by
  rw [executeGraph_device hg, createTextures, (foldl_createTexture _ _).1,
    data_createTextures device hg hdistinct hnode]

/-- The image of a texture node is created for its data. -/
theorem executeGraph_info : ∃ info,
    (g.executeGraph device).1.images[device.images.length + t]? = some info ∧
      info.format = (g.dataOf device t).format ∧ info.extent = (g.dataOf device t).size ∧
      info.mipLevels = (g.dataOf device t).mipLevelCount := by
  rw [executeGraph_device hg, createTextures, (foldl_createTexture _ _).2,
    images_foldl_setWriteProperties, List.getElem?_append_right (Nat.le_add_right _ _),
    Nat.add_sub_cancel_left, List.getElem?_map, hnode, ← data_createTextures device hg hdistinct hnode]
  exact ⟨_, rfl, rfl, rfl, rfl⟩

end Executed

end VulkanGraph

/-! ### Copies of whole levels -/

/-- The contents after the pixels have been copied to level 0. -/
def writeLevel (size : Nat) (pixels : List UInt8) (contents : ImageContents) : ImageContents :=
  fun level i => if level = 0 ∧ i < size then pixels.getD i 0 else contents level i

/-- The bytes of `count` levels from `level` on, behind each other. -/
def readLevels (contents : ImageContents) (pixelSize width height level : Nat) : Nat → List UInt8
  | 0 => []
  | count + 1 => (List.range (width * height * pixelSize)).map (contents level) ++
      readLevels contents pixelSize (max 1 (width / 2)) (max 1 (height / 2)) (level + 1) count

/-- All that an image with this data holds. -/
def TextureData.read (data : TextureData) (contents : ImageContents) : List UInt8 :=
  readLevels contents (getFormatElementSize data.format).toNat data.size.x.toNat data.size.y.toNat 0
    data.mipLevelCount.toNat

/-- There is a level, and the counters of the code are wide enough for the bytes of all levels. -/
structure TextureData.Countable (data : TextureData) : Prop where
  levels : 0 < data.mipLevelCount.toNat
  size : data.exactByteSize data.mipLevelCount.toNat < 2 ^ 64
  offsets : data.exactByteSize (data.mipLevelCount.toNat - 1) < 2 ^ 32

instance (data : TextureData) : Decidable data.Countable :=
  decidable_of_iff (0 < data.mipLevelCount.toNat ∧
    data.exactByteSize data.mipLevelCount.toNat < 2 ^ 64 ∧
    data.exactByteSize (data.mipLevelCount.toNat - 1) < 2 ^ 32)
    ⟨fun h => ⟨h.1, h.2.1, h.2.2⟩, fun h => ⟨h.levels, h.size, h.offsets⟩⟩

theorem length_readLevels (contents : ImageContents) (count : Nat) (pixelSize width height level : Nat) :
    (readLevels contents pixelSize width height level count).length =
      levelsSize pixelSize width height count := by
  induction count generalizing width height level with
  | zero => rfl
  | succ count ih =>
    rw [readLevels, levelsSize, List.length_append, List.length_map, List.length_range, ih]

variable {data : TextureData}

theorem levelSize_le_exactByteSize (h : 0 < data.mipLevelCount.toNat) :
    levelSize data ≤ data.exactByteSize data.mipLevelCount.toNat := by
  obtain ⟨count, hcount⟩ := Nat.exists_eq_add_one.mpr h
  rw [hcount]
  exact Nat.le_add_right _ _

/-- An upload of as many pixels as the data has. -/
theorem copyToImage_eq (hdata : data.Countable) {pixels : List UInt8}
    (hpixels : pixels.length = (getByteSize data).toNat) (contents : ImageContents) :
    copyToImage (getFormatElementSize data.format) pixels contents
        (bufferToImageRegion data.format { width := data.size.x, height := data.size.y }) =
      some (writeLevel (levelSize data) pixels contents) := by
  have hsize : regionSize (getFormatElementSize data.format) (bufferToImageRegion data.format
      { width := data.size.x, height := data.size.y }) = levelSize data :=
    regionSize_uploadRegion data
  have hle := levelSize_le_exactByteSize hdata.levels
  rw [toNat_getByteSize hdata.size] at hpixels
  have hoffset : (bufferToImageRegion data.format
      { width := data.size.x, height := data.size.y }).bufferOffset.toNat = 0 := rfl
  unfold copyToImage writeLevel
  rw [hsize, hoffset]
  dsimp only
  rw [if_pos (by omega)]
  simp only [Nat.zero_add]
  rfl

/-- A level is copied to its place in the buffer. -/
theorem copyToBuffer_eq {pixelSize : UInt32} {contents : ImageContents} {buffer : List UInt8}
    {region : BufferImageCopy}
    (hfits : region.bufferOffset.toNat + regionSize pixelSize region ≤ buffer.length) :
    copyToBuffer pixelSize contents buffer region = some (buffer.take region.bufferOffset.toNat ++
      (List.range (regionSize pixelSize region)).map (contents region.mipLevel.toNat) ++
      buffer.drop (region.bufferOffset.toNat + regionSize pixelSize region)) :=
  if_pos hfits

theorem regionSize_level (aspectMask : ImageAspectFlags) (pixelSize i offset width height : UInt32) :
    regionSize pixelSize ⟨offset.toUInt64, aspectMask, i, ⟨width, height, 1⟩⟩ =
      width.toNat * height.toNat * pixelSize.toNat :=
  congrArg (· * pixelSize.toNat) (Nat.mul_one _)

/-- The loop of a download, as long as the offsets do not wrap around. -/
theorem foldlM_copyToBuffer (aspectMask : ImageAspectFlags) (pixelSize : UInt32)
    (contents : ImageContents) (count : Nat) (i offset width height : UInt32) (buffer : List UInt8)
    (hi : i.toNat + count < 2 ^ 32)
    (hoffset : offset.toNat + levelsSize pixelSize.toNat width.toNat height.toNat count < 2 ^ 32)
    (hbuffer : offset.toNat + levelsSize pixelSize.toNat width.toNat height.toNat (count + 1) ≤
      buffer.length) :
    (mipRegions aspectMask pixelSize i offset ⟨width, height, 1⟩ (count + 1)).foldlM
        (copyToBuffer pixelSize contents) buffer =
      some (buffer.take offset.toNat ++ readLevels contents pixelSize.toNat width.toNat height.toNat
        i.toNat (count + 1) ++ buffer.drop (offset.toNat +
          levelsSize pixelSize.toNat width.toNat height.toNat (count + 1))) := by
  induction count generalizing i offset width height buffer with
  | zero =>
    rw [levelsSize, levelsSize, Nat.add_zero] at hbuffer ⊢
    rw [mipRegions_succ, mipRegions, List.foldlM_cons, copyToBuffer_eq, regionSize_level, readLevels,
      readLevels, List.append_nil]
    · dsimp only
      rw [UInt32.toNat_toUInt64]
      rfl
    · rw [regionSize_level]
      dsimp only
      rwa [UInt32.toNat_toUInt64]
  | succ count ih =>
    rw [levelsSize] at hoffset hbuffer
    have hsucc : (i + 1).toNat = i.toNat + 1 := Words.toNat_add_one (by omega)
    have hnext := toNat_nextOffset pixelSize offset width height
    rw [Nat.mod_eq_of_lt (by omega)] at hnext
    rw [mipRegions_succ, List.foldlM_cons, copyToBuffer_eq, regionSize_level, Option.bind_eq_bind,
      Option.bind_some]
    · dsimp only
      rw [UInt32.toNat_toUInt64]
      generalize hlevel : (List.range (width.toNat * height.toNat * pixelSize.toNat)).map
        (contents i.toNat) = bytes
      have hbytes : bytes.length = width.toNat * height.toNat * pixelSize.toNat := by
        rw [← hlevel, List.length_map, List.length_range]
      have hfront : (buffer.take offset.toNat ++ bytes).length =
          offset.toNat + width.toNat * height.toNat * pixelSize.toNat := by
        rw [List.length_append, List.length_take, hbytes]
        omega
      have hlength : (buffer.take offset.toNat ++ bytes ++
          buffer.drop (offset.toNat + width.toNat * height.toNat * pixelSize.toNat)).length =
            buffer.length := by
        rw [List.length_append, hfront, List.length_drop]
        omega
      have hread : readLevels contents pixelSize.toNat width.toNat height.toNat i.toNat
          (count + 1 + 1) = bytes ++ readLevels contents pixelSize.toNat (max 1 (width.toNat / 2))
            (max 1 (height.toNat / 2)) (i.toNat + 1) (count + 1) := by
        rw [← hlevel]
        rfl
      have hsize : levelsSize pixelSize.toNat width.toNat height.toNat (count + 1 + 1) =
          width.toNat * height.toNat * pixelSize.toNat + levelsSize pixelSize.toNat
            (max 1 (width.toNat / 2)) (max 1 (height.toNat / 2)) (count + 1) := rfl
      rw [ih (i + 1) _ _ _ _ (by omega), hnext, hsucc, toNat_max_half, toNat_max_half,
        List.take_left' hfront, ← hfront, List.drop_length_add_append, List.drop_drop, hfront, hread,
        hsize, List.append_assoc _ bytes, Nat.add_assoc]
      · rw [hnext, toNat_max_half, toNat_max_half]
        omega
      · rw [hnext, toNat_max_half, toNat_max_half, hlength]
        omega
    · rw [regionSize_level]
      dsimp only
      rw [UInt32.toNat_toUInt64]
      omega

/-- A download into a buffer of the size that the callers allocate. -/
theorem foldlM_downloadRegions (hdata : data.Countable) {buffer : List UInt8}
    (hbuffer : buffer.length = (getByteSize data).toNat) (contents : ImageContents) :
    (imageToBufferRegions data.format { width := data.size.x, height := data.size.y }
        data.mipLevelCount).foldlM (copyToBuffer (getFormatElementSize data.format) contents) buffer =
      some (data.read contents) := by
  obtain ⟨count, hcount⟩ := Nat.exists_eq_add_one.mpr hdata.levels
  have hlevels := data.mipLevelCount.toNat_lt
  have hoffsets := hdata.offsets
  rw [toNat_getByteSize hdata.size] at hbuffer
  unfold TextureData.exactByteSize at hbuffer hoffsets
  rw [hcount] at hbuffer hoffsets
  unfold imageToBufferRegions TextureData.read
  rw [hcount, foldlM_copyToBuffer, UInt32.toNat_zero, List.take_zero, List.nil_append, Nat.zero_add,
    ← hbuffer, List.drop_length, List.append_nil]
  · rw [UInt32.toNat_zero]
    omega
  · rw [UInt32.toNat_zero, Nat.zero_add]
    exact hoffsets
  · rw [UInt32.toNat_zero, Nat.zero_add, hbuffer]

/-! ### Reading back what was written -/

section ReadBack

variable (hdata : data.Countable) {pixels : List UInt8}
  (hpixels : pixels.length = (getByteSize data).toNat) (contents : ImageContents)

include hdata hpixels

theorem length_take_levelSize : (pixels.take (levelSize data)).length = levelSize data := by
  rw [toNat_getByteSize hdata.size] at hpixels
  have hle := levelSize_le_exactByteSize hdata.levels
  rw [List.length_take]
  omega

/-- The pixels of level 0 come first. -/
theorem take_read_writeLevel :
    (data.read (writeLevel (levelSize data) pixels contents)).take (levelSize data) =
      pixels.take (levelSize data) := by
  have htake := length_take_levelSize hdata hpixels
  obtain ⟨count, hcount⟩ := Nat.exists_eq_add_one.mpr hdata.levels
  unfold TextureData.read
  rw [hcount, readLevels]
  refine (List.take_left' (by rw [List.length_map, List.length_range]; rfl)).trans ?_
  apply List.ext_getElem
  · rw [htake, List.length_map, List.length_range]
    rfl
  · intro i hi hi'
    rw [htake] at hi'
    rw [List.length_take] at htake
    have hlt : i < pixels.length := by omega
    rw [List.getElem_map, List.getElem_range, List.getElem_take]
    simp [writeLevel, hi', hlt]

/-- Without other levels these are all pixels. -/
theorem read_writeLevel_of_one (hone : data.mipLevelCount = 1) :
    data.read (writeLevel (levelSize data) pixels contents) = pixels := by
  have htake := take_read_writeLevel hdata hpixels contents
  have hlength : (data.read (writeLevel (levelSize data) pixels contents)).length = levelSize data := by
    unfold TextureData.read
    rw [length_readLevels, hone]
    rfl
  have hsize : pixels.length = levelSize data := by
    rw [hpixels, toNat_getByteSize hdata.size, hone]
    rfl
  rwa [List.take_of_length_le hlength.le, List.take_of_length_le hsize.le] at htake

end ReadBack

end Teide
