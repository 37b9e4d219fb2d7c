import Mathlib.Algebra.Ring.Nat
import Mathlib.Order.Lattice
import Mathlib.Tactic.Common
import Teide.Graph.Transfer
import Teide.Lib.Words

/-!
# Reading texture data back

Texture data that is written to a texture and read from it comes back with the size, the format and the
counts that the write node has given the texture. The sampler state is not among them, and of the pixels
only those of mip level 0 have been copied to the image. What is read of the other levels is what the
image happened to hold, so that two different unspecified contents tell the results apart.
-/

namespace Teide

/-- A format whose texels are colors. -/
def IsColor (format : Format) : Prop :=
  format ≠ .unknown ∧ hasDepthComponent format = false ∧ hasStencilComponent format = false

instance (format : Format) : Decidable (IsColor format) := inferInstanceAs (Decidable (_ ∧ _ ∧ _))

/-- The bytes of mip level 0. -/
def levelSize (data : TextureData) : Nat :=
  data.size.x.toNat * data.size.y.toNat * (getFormatElementSize data.format).toNat

theorem elementSize_pos {format : Format} (h : IsColor format) :
    0 < (getFormatElementSize format).toNat := by
  obtain ⟨hunknown, -, -⟩ := h
  cases format <;> first | exact absurd rfl hunknown | decide

theorem max_one_pos (n : UInt32) : 0 < (max 1 n).toNat := by
  rw [UInt32.toNat_max]
  exact Nat.le_max_left 1 n.toNat

/-- The last of the regions is that of the last level. -/
theorem mipRegions_eq_append (aspectMask : ImageAspectFlags) (pixelSize : UInt32) (count : Nat)
    (i offset : UInt32) (mipExtent : Extent3D) (hpos : 0 < mipExtent.texels)
    (hi : i.toNat + count < 2 ^ 32) : ∃ init last,
      mipRegions aspectMask pixelSize i offset mipExtent (count + 1) = init ++ [last] ∧
        last.mipLevel.toNat = i.toNat + count ∧ 0 < last.imageExtent.texels := by
  induction count generalizing i offset mipExtent with
  | zero => exact ⟨[], _, rfl, rfl, hpos⟩
  | succ count ih =>
    have hsucc : (i + 1).toNat = i.toNat + 1 := Words.toNat_add_one (by omega)
    unfold mipRegions
    obtain ⟨init, last, hregions, hlevel, htexels⟩ := ih (i + 1)
      (offset + mipExtent.width * mipExtent.height * mipExtent.depth * pixelSize)
      { width := max 1 (mipExtent.width / 2)
        height := max 1 (mipExtent.height / 2)
        depth := max 1 (mipExtent.depth / 2) }
      (Nat.mul_pos (Nat.mul_pos (max_one_pos _) (max_one_pos _)) (max_one_pos _)) (by omega)
    rw [hregions]
    exact ⟨_ :: init, last, rfl, by omega, htexels⟩

/-- The first byte that a region brings into the buffer. -/
theorem getElem?_copyToBuffer {pixelSize : UInt32} {contents : ImageContents}
    {buffer result : List UInt8} {region : BufferImageCopy} (hpos : 0 < regionSize pixelSize region)
    (h : copyToBuffer pixelSize contents buffer region = some result) :
    result[region.bufferOffset.toNat]? = some (contents region.mipLevel.toNat 0) := by
  unfold copyToBuffer at h
  dsimp only at h
  split at h
  · rename_i hle
    obtain rfl := Option.some.inj h
    have htake : (buffer.take region.bufferOffset.toNat).length = region.bufferOffset.toNat := by
      rw [List.length_take]
      omega
    obtain ⟨size, hsize⟩ := Nat.exists_eq_add_one.mpr hpos
    rw [List.append_assoc, List.getElem?_append_right (Nat.le_of_eq htake), htake, Nat.sub_self,
      hsize, List.range_succ_eq_map]
    rfl
  · exact absurd h (by simp)

theorem copyToImage_eq_some {pixelSize : UInt32} {buffer : List UInt8}
    {contents contents' : ImageContents} {region : BufferImageCopy}
    (h : copyToImage pixelSize buffer contents region = some contents') :
    region.bufferOffset.toNat + regionSize pixelSize region ≤ buffer.length ∧
      ∀ level i, contents' level i =
        if level = region.mipLevel.toNat ∧ i < regionSize pixelSize region then
          buffer.getD (region.bufferOffset.toNat + i) 0
        else contents level i := by
  unfold copyToImage at h
  dsimp only at h
  split at h
  · rename_i hle
    obtain rfl := Option.some.inj h
    exact ⟨hle, fun _ _ => rfl⟩
  · exact absurd h (by simp)

theorem regionSize_uploadRegion (data : TextureData) :
    regionSize (getFormatElementSize data.format) (VulkanGraph.uploadRegion data) =
      levelSize data := by
  show data.size.x.toNat * data.size.y.toNat * 1 * _ = _
  rw [Nat.mul_one]
  rfl

theorem stageUpload_eq (data : TextureData) {pixels : List UInt8}
    (hpixels : pixels.length = (getByteSize data).toNat) : stageUpload data pixels = some pixels := by
  unfold stageUpload
  dsimp only
  rw [hpixels, if_pos (Nat.le_refl _), Nat.sub_self, List.replicate_zero, List.append_nil]

theorem toNat_getByteSize_of_one {data : TextureData} (h : data.mipLevelCount = 1) :
    (getByteSize data).toNat = levelSize data % 2 ^ 64 := by
  unfold getByteSize levelSize
  rw [h]
  show (0 + data.size.x.toUInt64 * data.size.y.toUInt64 *
    (getFormatElementSize data.format).toUInt64).toNat = _
  rw [UInt64.toNat_add, UInt64.toNat_mul, UInt64.toNat_mul]
  simp

theorem toNat_getByteSize_of_zero {data : TextureData} (h : data.mipLevelCount = 0) :
    (getByteSize data).toNat = 0 := by
  unfold getByteSize
  rw [h]
  rfl

namespace VulkanGraph

variable {device : Device} {texture : Texture} {d : TextureContents}

/-- What has to happen for the data to come back. -/
theorem exists_of_writeAndRead {unspecified : Image → ImageContents}
    (hpixels : d.pixels.length = (getByteSize d.toTextureData).toNat)
    (h : writeAndRead device texture d unspecified = some [d]) : ∃ contents,
      copyToImage (getFormatElementSize d.format) d.pixels (unspecified device.images.length)
        (uploadRegion d.toTextureData) = some contents ∧
      (downloadRegions d.toTextureData).foldlM
        (copyToBuffer (getFormatElementSize d.format) contents)
        (List.replicate (getByteSize d.toTextureData).toNat 0xef) = some d.pixels ∧
      d.samplerState = {} := by
  rw [writeAndRead_eq, stageUpload_eq _ hpixels] at h
  simp only [Option.bind_eq_bind, Option.bind_some, Option.bind_eq_some_iff, Option.pure_def,
    Option.some.injEq, List.cons.injEq, and_true] at h
  obtain ⟨contents, hupload, pixels, hdownload, hd⟩ := h
  have hsampler : ({} : SamplerState) = d.samplerState := congrArg TextureContents.samplerState hd
  have hsame : pixels = d.pixels := congrArg TextureContents.pixels hd
  rw [hsame] at hdownload
  exact ⟨contents, hupload, hdownload, hsampler.symm⟩

/-- With a level behind the first one, a byte of what is read is not specified. -/
theorem unspecified_of_levels (device : Device) (texture : Texture)
    (hpos : 0 < d.size.x.toNat ∧ 0 < d.size.y.toNat)
    (hcolor : IsColor d.format) (hlevels : 1 < d.mipLevelCount.toNat)
    (hpixels : d.pixels.length = (getByteSize d.toTextureData).toNat) :
    ∃ offset level : Nat, ∀ unspecified, writeAndRead device texture d unspecified = some [d] →
      d.pixels[offset]? = some (unspecified device.images.length level 0) := by
  obtain ⟨count, hcount⟩ : ∃ count, d.mipLevelCount.toNat = count + 1 :=
    Nat.exists_eq_add_one.mpr (by omega)
  have hbound := d.mipLevelCount.toNat_lt
  have hzero : (0 : UInt32).toNat = 0 := rfl
  obtain ⟨init, last, hregions, hlevel, htexels⟩ := mipRegions_eq_append (getImageAspect d.format)
    (getFormatElementSize d.format) count 0 0 { width := d.size.x, height := d.size.y }
    (Nat.mul_pos (Nat.mul_pos hpos.1 hpos.2) Nat.one_pos) (by omega)
  refine ⟨last.bufferOffset.toNat, last.mipLevel.toNat, fun unspecified h => ?_⟩
  obtain ⟨contents, hupload, hdownload, -⟩ := exists_of_writeAndRead hpixels h
  unfold downloadRegions imageToBufferRegions at hdownload
  rw [hcount, hregions, List.foldlM_append] at hdownload
  obtain ⟨buffer, -, hlast⟩ := Option.bind_eq_some_iff.mp hdownload
  rw [List.foldlM_cons] at hlast
  obtain ⟨result, hcopy, hresult⟩ := Option.bind_eq_some_iff.mp hlast
  obtain rfl := Option.some.inj hresult
  rw [getElem?_copyToBuffer (Nat.mul_pos htexels (elementSize_pos hcolor)) hcopy]
  -- the write node has copied to level 0 only
  have hne : ¬ (last.mipLevel.toNat = (uploadRegion d.toTextureData).mipLevel.toNat ∧
      0 < regionSize (getFormatElementSize d.format) (uploadRegion d.toTextureData)) := by
    rintro ⟨hfirst, -⟩
    have hlevel0 : (uploadRegion d.toTextureData).mipLevel.toNat = 0 := rfl
    omega
  rw [(copyToImage_eq_some hupload).2, if_neg hne]

/-- Two different unspecified contents tell the results apart. -/
theorem not_roundTrips_of_levels (device : Device) (texture : Texture)
    (hpos : 0 < d.size.x.toNat ∧ 0 < d.size.y.toNat)
    (hcolor : IsColor d.format) (hlevels : 1 < d.mipLevelCount.toNat)
    (hpixels : d.pixels.length = (getByteSize d.toTextureData).toNat) :
    ¬ RoundTrips device texture d := by
  intro h
  obtain ⟨offset, level, hbyte⟩ := unspecified_of_levels device texture hpos hcolor hlevels hpixels
  have hbyte0 := hbyte (fun _ _ _ => 0) (h _)
  have hbyte1 := hbyte (fun _ _ _ => 1) (h _)
  rw [hbyte0] at hbyte1
  exact absurd hbyte1 (by decide)

/-- One level comes back, if its bytes can be counted. -/
theorem writeAndRead_of_one (hone : d.mipLevelCount = 1) (hsampler : d.samplerState = {})
    (hsize : levelSize d.toTextureData < 2 ^ 64)
    (hpixels : d.pixels.length = (getByteSize d.toTextureData).toNat)
    (unspecified : Image → ImageContents) :
    writeAndRead device texture d unspecified = some [d] := by
  have hbytes : (getByteSize d.toTextureData).toNat = levelSize d.toTextureData := by
    rw [toNat_getByteSize_of_one hone, Nat.mod_eq_of_lt hsize]
  rw [hbytes] at hpixels
  have hregion := regionSize_uploadRegion d.toTextureData
  have hzero : (uploadRegion d.toTextureData).bufferOffset.toNat = 0 := rfl
  have hregions : downloadRegions d.toTextureData = [uploadRegion d.toTextureData] := by
    unfold downloadRegions imageToBufferRegions
    rw [hone]
    rfl
  rw [writeAndRead_eq, stageUpload_eq _ (hpixels.trans hbytes.symm), hregions, hbytes]
  unfold copyToImage copyToBuffer
  simp only [Option.bind_eq_bind, Option.bind_some, List.foldlM_cons, List.foldlM_nil, hregion, hzero,
    Nat.zero_add, hpixels, List.length_replicate, Nat.le_refl, if_true, Option.pure_def]
  have hmap : (List.range (levelSize d.toTextureData)).map (fun i =>
      if True ∧ i < levelSize d.toTextureData then d.pixels.getD i 0
      else unspecified device.images.length (uploadRegion d.toTextureData).mipLevel.toNat i) =
        d.pixels := by
    apply List.ext_getElem
    · rw [List.length_map, List.length_range, hpixels]
    · intro i hi hi'
      rw [List.length_map, List.length_range] at hi
      rw [List.getElem_map, List.getElem_range, if_pos ⟨trivial, hi⟩]
      simp [hi']
  have hdrop : (List.replicate (levelSize d.toTextureData) (0xef : UInt8)).drop
      (levelSize d.toTextureData) = [] := List.drop_of_length_le (by simp)
  rw [List.take_zero, List.nil_append, hmap, hdrop, List.append_nil]
  have hd : ({ d.toTextureData with pixels := d.pixels, samplerState := d.samplerState } :
      TextureContents) = d := rfl
  rw [hsampler] at hd
  exact congrArg (fun data => some [data]) hd

/-- Texture data is read back as it was written exactly if it has one mip level and the default sampler
state, and its bytes can be counted in 64 bits. -/
theorem roundTrips_iff (device : Device) (texture : Texture) (d : TextureContents)
    (hpos : 0 < d.size.x.toNat ∧ 0 < d.size.y.toNat) (hcolor : IsColor d.format)
    (hpixels : d.pixels.length = (getByteSize d.toTextureData).toNat) :
    RoundTrips device texture d ↔
      d.mipLevelCount = 1 ∧ d.samplerState = {} ∧ levelSize d.toTextureData < 2 ^ 64 := by
  constructor
  · intro h
    obtain ⟨contents, hupload, -, hsampler⟩ := exists_of_writeAndRead hpixels (h fun _ _ _ => 0)
    have hfits := (copyToImage_eq_some hupload).1
    rw [regionSize_uploadRegion, hpixels] at hfits
    have hlevel : 0 < levelSize d.toTextureData :=
      Nat.mul_pos (Nat.mul_pos hpos.1 hpos.2) (elementSize_pos hcolor)
    have hone : d.mipLevelCount = 1 := by
      by_contra hne
      by_cases hzero : d.mipLevelCount = 0
      · rw [toNat_getByteSize_of_zero hzero] at hfits
        omega
      · have hlevels : 1 < d.mipLevelCount.toNat := by
          have hne1 : d.mipLevelCount.toNat ≠ 1 := fun heq => hne (UInt32.toNat_inj.mp heq)
          have hne0 : d.mipLevelCount.toNat ≠ 0 := fun heq => hzero (UInt32.toNat_inj.mp heq)
          omega
        exact not_roundTrips_of_levels device texture hpos hcolor hlevels hpixels h
    refine ⟨hone, hsampler, ?_⟩
    rw [toNat_getByteSize_of_one hone] at hfits
    have hmod := Nat.mod_lt (levelSize d.toTextureData) (show 0 < 2 ^ 64 by decide)
    omega
  · rintro ⟨hone, hsampler, hsize⟩ unspecified
    exact writeAndRead_of_one hone hsampler hsize hpixels unspecified

/-- A texture of two by two texels, red on white. -/
def checkerboardTexture (mipLevelCount : UInt32) (pixels : List UInt8) : TextureContents :=
  { size := ⟨2, 2⟩
    format := .byte4Norm
    mipLevelCount := mipLevelCount
    pixels := pixels }

def checkerboardPixels : List UInt8 :=
  [0xff, 0x00, 0x00, 0xff, 0xff, 0xff, 0xff, 0xff, 0xff, 0xff, 0xff, 0xff, 0xff, 0x00, 0x00, 0xff]

theorem roundTrips_iff_checkerboard :
    RoundTrips {} 0 (checkerboardTexture 1 checkerboardPixels) := by
  have hcolor : IsColor (checkerboardTexture 1 checkerboardPixels).format := by decide
  have hiff := roundTrips_iff {} 0 (checkerboardTexture 1 checkerboardPixels) (by decide) hcolor
    (by decide)
  exact hiff.mpr ⟨rfl, rfl, by decide⟩

/-- A second level of one texel: its bytes do not come back whatever the image held. -/
theorem not_roundTrips : ¬ ∀ (device : Device) (texture : Texture) (d : TextureContents),
    0 < d.size.x.toNat ∧ 0 < d.size.y.toNat → IsColor d.format → d.sampleCount = 1 →
      d.pixels.length = (getByteSize d.toTextureData).toNat → RoundTrips device texture d := by
  intro h
  exact not_roundTrips_of_levels {} 0
    (d := checkerboardTexture 2 (checkerboardPixels ++ [1, 2, 3, 4])) (by decide) (by decide)
    (by decide) (by decide) (h {} 0 _ (by decide) (by decide) rfl (by decide))

end VulkanGraph

end Teide
