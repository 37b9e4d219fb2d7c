import Mathlib.Data.List.Chain
import Teide.Texture.Layouts

/-!
# Downloading a texture

`CopyTextureData` allocates as many bytes as `GetByteSize` counts and has each mip level copied into the
buffer, behind the previous one. `GetByteSize` adds up the sizes of the levels in 64 bits. The offset in
`CopyImageToBuffer` has 32 bits only: from the level on in front of which there are `2 ^ 32` bytes, the
copies start over at the front of the buffer.
-/

namespace Teide

/-- The bytes of `count` levels, the first of them of this size. -/
def levelsSize (pixelSize width height : Nat) : Nat → Nat
  | 0 => 0
  | count + 1 => width * height * pixelSize +
      levelsSize pixelSize (max 1 (width / 2)) (max 1 (height / 2)) count

/-- The exact number of bytes of the first `count` levels of a texture. -/
def TextureData.exactByteSize (data : TextureData) (count : Nat) : Nat :=
  levelsSize (getFormatElementSize data.format).toNat data.size.x.toNat data.size.y.toNat count

/-- Where the region ends in the buffer. -/
def regionEnd (pixelSize : UInt32) (region : BufferImageCopy) : Nat :=
  region.bufferOffset.toNat + regionSize pixelSize region

/-- There is one region for each level, and they fill a buffer of the size that the callers allocate. -/
structure FillsBuffer (data : TextureData) : Prop where
  levels : ((downloadRegions data).map fun region => region.mipLevel.toNat) =
    List.range data.mipLevelCount.toNat
  first : ∀ region ∈ (downloadRegions data).head?, region.bufferOffset = 0
  contiguous : (downloadRegions data).IsChain fun region next =>
    next.bufferOffset.toNat = regionEnd (getFormatElementSize data.format) region
  disjoint : (downloadRegions data).Pairwise fun region next =>
    regionEnd (getFormatElementSize data.format) region ≤ next.bufferOffset.toNat
  size : (((downloadRegions data).getLast?.map
    (regionEnd (getFormatElementSize data.format))).getD 0) = (getByteSize data).toNat

/-! ### The two loops -/

theorem toNat_mipsByteSize (count : Nat) (pixelSize mipw miph result : UInt64) :
    (mipsByteSize pixelSize mipw miph result count).toNat =
      (result.toNat + levelsSize pixelSize.toNat mipw.toNat miph.toNat count) % 2 ^ 64 := by
  induction count generalizing mipw miph result with
  | zero => exact (Nat.mod_eq_of_lt result.toNat_lt).symm
  | succ count ih =>
    unfold mipsByteSize levelsSize
    have hhalf : ∀ size : UInt64, (max 1 (size / 2)).toNat = max 1 (size.toNat / 2) := by
      intro size
      rw [UInt64.toNat_max, UInt64.toNat_div]
      rfl
    have hresult : (result + mipw * miph * pixelSize).toNat =
        (result.toNat + mipw.toNat * miph.toNat * pixelSize.toNat) % 2 ^ 64 := by
      rw [UInt64.toNat_add, UInt64.toNat_mul, UInt64.toNat_mul, Nat.mod_mul_mod, Nat.add_mod_mod]
    rw [ih, hresult, hhalf, hhalf, Nat.mod_add_mod, Nat.add_assoc]

theorem toNat_getByteSize_mod (data : TextureData) :
    (getByteSize data).toNat = data.exactByteSize data.mipLevelCount.toNat % 2 ^ 64 := by
  unfold TextureData.exactByteSize getByteSize
  rw [toNat_mipsByteSize, UInt64.toNat_zero, Nat.zero_add, UInt32.toNat_toUInt64,
    UInt32.toNat_toUInt64, UInt32.toNat_toUInt64]

theorem toNat_getByteSize {data : TextureData}
    (h : data.exactByteSize data.mipLevelCount.toNat < 2 ^ 64) :
    (getByteSize data).toNat = data.exactByteSize data.mipLevelCount.toNat := by
  rw [toNat_getByteSize_mod, Nat.mod_eq_of_lt h]

variable {aspectMask : ImageAspectFlags} {pixelSize : UInt32}

theorem toNat_max_half (size : UInt32) : (max 1 (size / 2)).toNat = max 1 (size.toNat / 2) := by
  rw [UInt32.toNat_max, UInt32.toNat_div]
  rfl

theorem levels_mipRegions (count : Nat) (i offset : UInt32) (mipExtent : Extent3D)
    (h : i.toNat + count < 2 ^ 32) :
    ((mipRegions aspectMask pixelSize i offset mipExtent count).map
      fun region => region.mipLevel.toNat) = List.range' i.toNat count := by
  induction count generalizing i offset mipExtent with
  | zero => rfl
  | succ count ih =>
    have hsucc : (i + 1).toNat = i.toNat + 1 := Words.toNat_add_one (by omega)
    unfold mipRegions
    rw [List.map_cons, ih _ _ _ (by omega), hsucc, List.range'_succ]

/-- The next offset, in 32 bits. -/
theorem toNat_nextOffset (pixelSize offset width height : UInt32) :
    (offset + width * height * 1 * pixelSize).toNat =
      (offset.toNat + width.toNat * height.toNat * pixelSize.toNat) % 2 ^ 32 := by
  rw [UInt32.mul_one, UInt32.toNat_add, UInt32.toNat_mul, UInt32.toNat_mul, Nat.mod_mul_mod,
    Nat.add_mod_mod]

theorem regionEnd_eq {i offset width height : UInt32} :
    regionEnd pixelSize ⟨offset.toUInt64, aspectMask, i, ⟨width, height, 1⟩⟩ =
      offset.toNat + width.toNat * height.toNat * pixelSize.toNat := by
  show offset.toUInt64.toNat + width.toNat * height.toNat * 1 * pixelSize.toNat = _
  rw [UInt32.toNat_toUInt64, Nat.mul_one]

theorem mipRegions_succ (count : Nat) (i offset width height : UInt32) :
    mipRegions aspectMask pixelSize i offset ⟨width, height, 1⟩ (count + 1) =
      ⟨offset.toUInt64, aspectMask, i, ⟨width, height, 1⟩⟩ ::
        mipRegions aspectMask pixelSize (i + 1) (offset + width * height * 1 * pixelSize)
          ⟨max 1 (width / 2), max 1 (height / 2), 1⟩ count := by
  have hdepth : max 1 ((1 : UInt32) / 2) = 1 := by decide
  rw [mipRegions]
  dsimp only
  rw [hdepth]

/-- The regions follow each other exactly as long as all the levels in front of the last one fit in 32
bits. -/
theorem isChain_mipRegions_iff (aspectMask : ImageAspectFlags) (count : Nat)
    (pixelSize i offset width height : UInt32) :
    (mipRegions aspectMask pixelSize i offset ⟨width, height, 1⟩ (count + 1)).IsChain
        (fun region next => next.bufferOffset.toNat = regionEnd pixelSize region) ↔
      offset.toNat + levelsSize pixelSize.toNat width.toNat height.toNat count < 2 ^ 32 := by
  induction count generalizing i offset width height with
  | zero =>
    refine iff_of_true (List.isChain_singleton _) ?_
    exact offset.toNat_lt
  | succ count ih =>
    have hnext := toNat_nextOffset pixelSize offset width height
    rw [mipRegions_succ, List.isChain_cons, ih, toNat_max_half, toNat_max_half, levelsSize, hnext]
    have hhead : ∀ region ∈ (mipRegions aspectMask pixelSize (i + 1)
        (offset + width * height * 1 * pixelSize)
        ⟨max 1 (width / 2), max 1 (height / 2), 1⟩ (count + 1)).head?,
        region.bufferOffset.toNat =
          (offset.toNat + width.toNat * height.toNat * pixelSize.toNat) % 2 ^ 32 := by
      intro region hregion
      obtain rfl := Option.some.inj hregion
      rw [← hnext, UInt32.toNat_toUInt64]
    constructor
    · rintro ⟨hfirst, hrest⟩
      have heq := hfirst _ rfl
      rw [hhead _ rfl, regionEnd_eq] at heq
      omega
    · intro h
      have hmod := Nat.mod_eq_of_lt (a := offset.toNat + width.toNat * height.toNat *
        pixelSize.toNat) (b := 2 ^ 32) (by omega)
      refine ⟨fun region hregion => ?_, by omega⟩
      rw [hhead region hregion, regionEnd_eq, hmod]

/-- The regions up to the last one end where all levels do. -/
theorem getLast?_mipRegions (count : Nat) (i offset width height : UInt32)
    (h : offset.toNat + levelsSize pixelSize.toNat width.toNat height.toNat count < 2 ^ 32) :
    (mipRegions aspectMask pixelSize i offset ⟨width, height, 1⟩ (count + 1)).getLast?.map
        (regionEnd pixelSize) =
      some (offset.toNat + levelsSize pixelSize.toNat width.toNat height.toNat (count + 1)) := by
  induction count generalizing i offset width height with
  | zero =>
    rw [mipRegions_succ]
    exact congrArg some regionEnd_eq
  | succ count ih =>
    rw [levelsSize] at h
    have hnext := toNat_nextOffset pixelSize offset width height
    rw [Nat.mod_eq_of_lt (by omega)] at hnext
    have hrest := ih (i + 1) (offset + width * height * 1 * pixelSize) (max 1 (width / 2))
      (max 1 (height / 2)) (by rw [hnext, toNat_max_half, toNat_max_half]; omega)
    rw [hnext, toNat_max_half, toNat_max_half] at hrest
    rw [mipRegions_succ, mipRegions_succ, List.getLast?_cons_cons, ← mipRegions_succ, hrest,
      levelsSize]
    exact congrArg some (Nat.add_assoc _ _ _)

/-! ### Textures -/

/-- No region reaches into a later one if each of them ends where the next one begins. -/
theorem pairwise_of_contiguous {regions : List BufferImageCopy}
    (h : regions.IsChain fun region next =>
      next.bufferOffset.toNat = regionEnd pixelSize region) :
    regions.Pairwise fun region next =>
      regionEnd pixelSize region ≤ next.bufferOffset.toNat := by
  have htrans : IsTrans BufferImageCopy fun region next =>
      regionEnd pixelSize region ≤ next.bufferOffset.toNat := by
    refine ⟨fun a b c hab hbc => ?_⟩
    have hend : b.bufferOffset.toNat ≤ regionEnd pixelSize b := Nat.le_add_right _ _
    omega
  apply List.isChain_iff_pairwise.mp
  exact h.imp fun region next heq => Nat.le_of_eq heq.symm

theorem levels_downloadRegions (data : TextureData) :
    ((downloadRegions data).map fun region => region.mipLevel.toNat) =
      List.range data.mipLevelCount.toNat := by
  have hlt := data.mipLevelCount.toNat_lt
  unfold downloadRegions imageToBufferRegions
  rw [levels_mipRegions _ _ _ _ (by rw [UInt32.toNat_zero]; omega), UInt32.toNat_zero,
    List.range_eq_range']

/-- The levels fill the buffer exactly if all of them but the last one fit in 32 bits. -/
theorem fillsBuffer_iff (data : TextureData)
    (h : data.exactByteSize data.mipLevelCount.toNat < 2 ^ 64) :
    FillsBuffer data ↔ data.exactByteSize (data.mipLevelCount.toNat - 1) < 2 ^ 32 := by
  have hsize := toNat_getByteSize h
  have hlevels := levels_downloadRegions data
  cases hcount : data.mipLevelCount.toNat with
  | zero =>
    have hnil : downloadRegions data = [] := by
      unfold downloadRegions imageToBufferRegions
      rw [hcount, mipRegions]
    have hzero : (getByteSize data).toNat = 0 := by
      rw [hsize, hcount]
      rfl
    have hexact : data.exactByteSize (0 - 1) = 0 := rfl
    refine iff_of_true ⟨hlevels, ?_, ?_, ?_, ?_⟩ (by omega)
    · simp [hnil]
    · simp [hnil]
    · simp [hnil]
    · simp [hnil, hzero]
  | succ count =>
    have hregions : downloadRegions data = mipRegions (getImageAspect data.format)
        (getFormatElementSize data.format) 0 0 ⟨data.size.x, data.size.y, 1⟩ (count + 1) := by
      unfold downloadRegions imageToBufferRegions
      rw [hcount]
    have hiff := isChain_mipRegions_iff (getImageAspect data.format) count
      (getFormatElementSize data.format) 0 0 data.size.x data.size.y
    rw [← hregions, UInt32.toNat_zero, Nat.zero_add] at hiff
    constructor
    · intro hfills
      exact hiff.mp hfills.contiguous
    · intro hlt
      have hchain := hiff.mpr hlt
      refine ⟨hlevels, ?_, hchain, pairwise_of_contiguous hchain, ?_⟩
      · intro region hregion
        rw [hregions] at hregion
        obtain rfl := Option.some.inj hregion
        rfl
      · rw [hsize, hcount, hregions, getLast?_mipRegions]
        · rw [Option.getD_some, UInt32.toNat_zero, Nat.zero_add]
          rfl
        · rw [UInt32.toNat_zero, Nat.zero_add]
          exact hlt

/-- Levels of 7 by 5, 3 by 2 and one texel. -/
theorem fillsBuffer_oddSize : FillsBuffer ⟨⟨7, 5⟩, .byte4Norm, 3, 1⟩ :=
  (fillsBuffer_iff _ (by decide)).mpr (by decide)

/-- The first of two levels takes `2 ^ 32` bytes, and the second one is copied over it. -/
theorem not_fillsBuffer : ¬ ∀ data : TextureData,
    data.exactByteSize data.mipLevelCount.toNat < 2 ^ 64 → FillsBuffer data := by
  intro h
  have hfills := h ⟨⟨16384, 16384⟩, .float4, 2, 1⟩ (by decide)
  have hlt := (isChain_mipRegions_iff _ 1 _ 0 0 16384 16384).mp hfills.contiguous
  exact absurd hlt (by decide)

/-! ### The layouts -/

theorem exec_copyImageToBuffer {layouts : LevelLayouts} {layout : ImageLayout}
    (regions : List BufferImageCopy)
    (h : ∀ region ∈ regions, layouts region.mipLevel.toNat = layout) :
    Runs.exec TextureCommand.execute layouts
      (regions.map (TextureCommand.copyImageToBuffer layout)) = some layouts := by
  induction regions with
  | nil => rfl
  | cons region regions ih =>
    have hregion : TextureCommand.execute layouts (.copyImageToBuffer layout region) =
        some layouts := if_pos (h region List.mem_cons_self)
    rw [List.map_cons, Runs.exec_cons, hregion, Option.bind_some]
    exact ih fun region' hmem => h region' (List.mem_cons_of_mem _ hmem)

/-- A download finds each level in the layout it names and leaves it as it was. -/
theorem exec_copyTextureData (texture : VulkanTexture) (layouts : LevelLayouts)
    (h : ∀ level < texture.properties.mipLevelCount.toNat,
      layouts level = (copyTextureDataState texture).layout) :
    Runs.exec TextureCommand.execute layouts (copyTextureData texture) = some layouts := by
  have hne : (copyTextureDataState texture).layout ≠ .transferSrcOptimal := by
    unfold copyTextureDataState
    dsimp only
    split <;> decide
  have hbefore := exec_doTransition _ {.transfer} hne.symm (Or.inr h)
  have hafter : Runs.exec TextureCommand.execute
      (fun level => if level < texture.properties.mipLevelCount.toNat then .transferSrcOptimal
        else layouts level)
      (texture.transitionToShaderInput ⟨.transferSrcOptimal, {.transfer}⟩).2 = some _ :=
    exec_doTransition _ _ hne (Or.inr fun level hlevel => if_pos hlevel)
  unfold copyTextureData VulkanTexture.transitionToTransferSrc
  dsimp only
  rw [doTransition_fst, List.append_assoc, Runs.exec_append, hbefore, Option.bind_some,
    Runs.exec_append, exec_copyImageToBuffer, Option.bind_some]
  · rw [hafter]
    refine congrArg some (funext fun level => ?_)
    by_cases hlevel : level < texture.properties.mipLevelCount.toNat
    · rw [if_pos hlevel]
      exact (h level hlevel).symm
    · rw [if_neg hlevel, if_neg hlevel]
  · intro region hregion
    have hmem : region.mipLevel.toNat ∈ List.range texture.properties.mipLevelCount.toNat := by
      have hlevels := levels_downloadRegions texture.properties.data
      unfold downloadRegions TextureProperties.data at hlevels
      dsimp only at hlevels
      rw [← hlevels]
      exact List.mem_map_of_mem hregion
    exact if_pos (List.mem_range.mp hmem)

end Teide
