import Teide.ParameterBlock.Descriptors
import Teide.Texture.Basic

/-!
# The layouts of a texture that is created

`CreateTexture` is to leave every mip level in the layout in which its consumers expect it. Those are
`CopyTextureData`, which transitions the texture to be copied from, and `WriteDescriptorSet`, which
writes a layout into the descriptor. Both take a depth or stencil format to be in a layout of its own,
and so does `TransitionToShaderInput`, which is for textures of one level. `GenerateMipmaps` takes all
levels to have been uploaded and leaves them in the same layout, whatever the format. A texture of
several levels comes out right only if it has pixels and colors.

The loop over the levels is followed by what it does to the layouts as a whole (`exec_mipLevels`): it
brings each level but the last from the one layout to the other.
-/

namespace Teide

open Runs (exec exec_append exec_cons)

variable {texture : VulkanTexture} {layouts : LevelLayouts} {old new : ImageLayout}
  {data : TextureContents}

/-- The layout of a texture that can be sampled. -/
def shaderInputLayout (format : Format) : ImageLayout :=
  if hasDepthOrStencilComponent format then .depthStencilReadOnlyOptimal else .shaderReadOnlyOptimal

/-- The layouts fit together from the creation of the image, and at the end every level is in the layout
that `CopyTextureData` starts from and `WriteDescriptorSet` writes for the format. -/
def LayoutHistoryOk (image : Image) (data : TextureContents) : Prop :=
  ∃ layouts, exec TextureCommand.execute (fun _ => .undefined) (createTexture image data) =
      some layouts ∧
    ∀ level < data.mipLevelCount.toNat,
      layouts level = (copyTextureDataState (createdTexture image data)).layout ∧
        ∀ texture : Descriptors.VulkanTexture, texture.format = data.format →
          ∀ info ∈ Descriptors.imageInfo texture, layouts level = info.imageLayout

/-! ### Single commands -/

theorem execute_makeBarrier {dstStageMask : PipelineStageFlags} {mipLevel : UInt32}
    (h : layouts mipLevel.toNat = old) :
    (texture.makeBarrier old new dstStageMask mipLevel).execute layouts =
      some (Function.update layouts mipLevel.toNat new) := by
  unfold VulkanTexture.makeBarrier TextureCommand.execute
  have hone : (1 : UInt32).toNat = 1 := rfl
  rw [if_pos]
  · refine congrArg some (funext fun level => ?_)
    simp only [LevelBarrier.Covers, hone, Function.update_apply]
    refine if_congr ?_ rfl rfl
    omega
  · right
    dsimp only
    intro level hlt hle
    obtain rfl : level = mipLevel.toNat := by omega
    exact h

theorem execute_imageTransition {old new : TextureState} (h : old.layout = .undefined ∨
      ∀ level < texture.properties.mipLevelCount.toNat, layouts level = old.layout) :
    (texture.imageTransition old new).execute layouts = some fun level =>
      if level < texture.properties.mipLevelCount.toNat then new.layout else layouts level := by
  unfold VulkanTexture.imageTransition TextureCommand.execute
  have hzero : (0 : UInt32).toNat = 0 := rfl
  rw [if_pos]
  · refine congrArg some (funext fun level => ?_)
    simp [LevelBarrier.Covers, transitionImageLayout]
  · rcases h with h | h
    · exact Or.inl h
    · right
      intro level hlt _
      exact h level (by simpa [transitionImageLayout] using hlt)

/-- A barrier whose old layout is not that of the level. -/
theorem execute_makeBarrier_eq_none {dstStageMask : PipelineStageFlags} {mipLevel : UInt32}
    (hold : old ≠ .undefined) (h : layouts mipLevel.toNat ≠ old) :
    (texture.makeBarrier old new dstStageMask mipLevel).execute layouts = none := by
  unfold VulkanTexture.makeBarrier TextureCommand.execute
  apply if_neg
  rintro (hundefined | hlevels)
  · exact hold hundefined
  · have hone : (1 : UInt32).toNat = 1 := rfl
    apply h
    apply hlevels mipLevel.toNat _ (Nat.le_refl _)
    dsimp only
    omega

theorem doTransition_fst (texture : VulkanTexture) (state : TextureState) (new : ImageLayout)
    (newPipelineStageFlags : PipelineStageFlags) :
    (texture.doTransition state new newPipelineStageFlags).1 = ⟨new, newPipelineStageFlags⟩ := by
  unfold VulkanTexture.doTransition
  split
  · rename_i h
    rw [h.1, h.2]
  · rfl

theorem exec_doTransition (state : TextureState) (newPipelineStageFlags : PipelineStageFlags)
    (hne : new ≠ state.layout) (h : state.layout = .undefined ∨
      ∀ level < texture.properties.mipLevelCount.toNat, layouts level = state.layout) :
    exec TextureCommand.execute layouts (texture.doTransition state new newPipelineStageFlags).2 =
      some fun level => if level < texture.properties.mipLevelCount.toNat then new
        else layouts level := by
  unfold VulkanTexture.doTransition
  rw [if_neg (fun h => hne h.1)]
  dsimp only
  rw [exec_cons, execute_imageTransition h, Option.bind_some, Runs.exec_nil]

/-! ### Several levels -/

/-- The loop brings each level from behind the previous one, up to the last but one, into the layout for
sampling. -/
theorem exec_mipLevels (count : Nat) (i : UInt32) (prevMipSize : Offset3D)
    (layouts : LevelLayouts) (hpos : 0 < i.toNat) (hlt : i.toNat + count < 2 ^ 32)
    (h : ∀ level < i.toNat + count, i.toNat ≤ level + 1 → layouts level = .transferDstOptimal) :
    exec TextureCommand.execute layouts (texture.mipLevels i prevMipSize count) =
      some fun level => if i.toNat ≤ level + 1 ∧ level + 1 < i.toNat + count then
        .shaderReadOnlyOptimal else layouts level := by
  induction count generalizing i prevMipSize layouts with
  | zero =>
    refine congrArg some (funext fun level => ?_)
    rw [if_neg (by omega)]
  | succ count ih =>
    have hone : (1 : UInt32).toNat = 1 := rfl
    have hpred : (i - 1).toNat = i.toNat - 1 := Words.toNat_sub_one hpos
    have hsucc : (i + 1).toNat = i.toNat + 1 := Words.toNat_add_one (by omega)
    have hprev : layouts (i - 1).toNat = .transferDstOptimal := h _ (by omega) (by omega)
    have hcurr : layouts i.toNat = .transferDstOptimal := h _ (by omega) (by omega)
    have hne : i.toNat ≠ (i - 1).toNat := by omega
    unfold VulkanTexture.mipLevels
    rw [exec_cons, execute_makeBarrier hprev, Option.bind_some, exec_cons]
    -- the blit reads the previous level and writes the next one
    have hblit : ∀ srcOffsets dstOffsets, TextureCommand.execute
        (Function.update layouts (i - 1).toNat .transferSrcOptimal)
        (.blitImage .transferSrcOptimal .transferDstOptimal
          ⟨⟨{.color}, i - 1⟩, srcOffsets, ⟨{.color}, i⟩, dstOffsets⟩ .linear) =
          some (Function.update layouts (i - 1).toNat .transferSrcOptimal) := by
      intro srcOffsets dstOffsets
      apply if_pos
      exact ⟨Function.update_self _ _ _, by rw [Function.update_of_ne hne, hcurr]⟩
    rw [hblit, Option.bind_some, exec_cons, execute_makeBarrier (Function.update_self _ _ _),
      Option.bind_some, Function.update_idem, ih _ _ _ (by omega) (by omega)]
    · refine congrArg some (funext fun level => ?_)
      rw [hsucc, hpred, Function.update_apply]
      grind
    · intro level hlevel hle
      rw [Function.update_of_ne (by omega)]
      exact h level (by omega) (by omega)

/-- The generation of mip levels, when every level can be written. -/
theorem exec_generateMipmaps (state : TextureState)
    (hcount : 0 < texture.properties.mipLevelCount.toNat)
    (h : ∀ level < texture.properties.mipLevelCount.toNat, layouts level = .transferDstOptimal) :
    exec TextureCommand.execute layouts (texture.generateMipmaps state).2 = some fun level =>
      if level < texture.properties.mipLevelCount.toNat then .shaderReadOnlyOptimal
      else layouts level := by
  have hone : (1 : UInt32).toNat = 1 := rfl
  have hlt := texture.properties.mipLevelCount.toNat_lt
  have hpred : (texture.properties.mipLevelCount - 1).toNat =
      texture.properties.mipLevelCount.toNat - 1 := Words.toNat_sub_one hcount
  unfold VulkanTexture.generateMipmaps
  dsimp only
  rw [exec_append, exec_mipLevels _ 1 _ layouts (by omega) (by omega)
    (fun level hlevel _ => h level (by omega)), Option.bind_some, exec_cons,
    execute_makeBarrier]
  · rw [Option.bind_some, Runs.exec_nil]
    refine congrArg some (funext fun level => ?_)
    rw [hpred, hone, Function.update_apply]
    grind
  · rw [hpred, hone, if_neg (by omega)]
    exact h _ (by omega)

theorem uploadPixels_of_no_pixels {state : TextureState} (h : data.pixels = []) :
    uploadPixels texture data state = (state, []) :=
  if_neg (not_not.mpr h)

theorem uploadPixels_fst {state : TextureState} (h : data.pixels ≠ []) :
    (uploadPixels texture data state).1 = ⟨.transferDstOptimal, {.transfer}⟩ := by
  unfold uploadPixels
  rw [if_pos h]

/-- The upload brings all levels into the layout to be written, though only the first one is. -/
theorem exec_uploadPixels {image : Image} (state : TextureState) (hstate : state.layout = .undefined)
    (hpixels : data.pixels ≠ []) (hcount : 0 < data.mipLevelCount.toNat) :
    exec TextureCommand.execute layouts
        (uploadPixels (createdTexture image data) data state).2 = some fun level =>
      if level < data.mipLevelCount.toNat then .transferDstOptimal else layouts level := by
  have htransition : ((createdTexture image data).imageTransition ⟨state.layout, {.topOfPipe}⟩
      ⟨.transferDstOptimal, {.transfer}⟩).execute layouts = some _ :=
    execute_imageTransition (Or.inl hstate)
  unfold uploadPixels
  rw [if_pos hpixels]
  dsimp only
  rw [exec_cons, htransition, Option.bind_some, exec_cons, TextureCommand.execute, if_pos,
    Option.bind_some, Runs.exec_nil]
  · rfl
  · exact if_pos hcount
  · intro barrier hbarrier
    cases hbarrier

/-! ### Textures -/

theorem imageLayout_of_mem_imageInfo {texture : Descriptors.VulkanTexture}
    {info : Descriptors.DescriptorImageInfo} (h : info ∈ Descriptors.imageInfo texture) :
    info.imageLayout = shaderInputLayout texture.format := by
  unfold Descriptors.imageInfo at h
  obtain ⟨view, -, rfl⟩ := Option.map_eq_some_iff.mp h
  rfl

/-- The two consumers agree about the layout. -/
theorem layoutHistoryOk_iff_exec (image : Image) (data : TextureContents) :
    LayoutHistoryOk image data ↔ ∃ layouts,
      exec TextureCommand.execute (fun _ => .undefined) (createTexture image data) = some layouts ∧
      ∀ level < data.mipLevelCount.toNat, layouts level = shaderInputLayout data.format := by
  constructor
  · rintro ⟨layouts, hexec, hlayouts⟩
    exact ⟨layouts, hexec, fun level hlevel => (hlayouts level hlevel).1⟩
  · rintro ⟨layouts, hexec, hlayouts⟩
    refine ⟨layouts, hexec, fun level hlevel => ⟨hlayouts level hlevel, ?_⟩⟩
    intro texture hformat info hinfo
    rw [hlayouts level hlevel, imageLayout_of_mem_imageInfo hinfo, hformat]

/-- A texture of one level is transitioned from what the upload left. -/
theorem layoutHistoryOk_of_one_level (image : Image) (h : data.mipLevelCount = 1) :
    LayoutHistoryOk image data := by
  rw [layoutHistoryOk_iff_exec]
  have hcount : data.mipLevelCount.toNat = 1 := by rw [h]; rfl
  have hgt : ¬ data.mipLevelCount > 1 := by rw [h]; decide
  have hne : ∀ layout, layout = ImageLayout.undefined ∨ layout = .transferDstOptimal →
      shaderInputLayout data.format ≠ layout := by
    rintro layout (rfl | rfl)
    · unfold shaderInputLayout
      split <;> decide
    · unfold shaderInputLayout
      split <;> decide
  unfold createTexture
  dsimp only
  rw [if_neg hgt, exec_append]
  by_cases hpixels : data.pixels = []
  · refine ⟨fun level => if level < data.mipLevelCount.toNat then shaderInputLayout data.format
      else .undefined, ?_, fun level hlevel => if_pos hlevel⟩
    rw [uploadPixels_of_no_pixels hpixels, Runs.exec_nil, Option.bind_some]
    exact exec_doTransition _ _ (hne _ (Or.inl rfl)) (Or.inl rfl)
  · refine ⟨fun level => if level < data.mipLevelCount.toNat then shaderInputLayout data.format
      else if level < data.mipLevelCount.toNat then .transferDstOptimal else .undefined, ?_,
      fun level hlevel => if_pos hlevel⟩
    rw [exec_uploadPixels _ rfl hpixels (by omega), Option.bind_some, uploadPixels_fst hpixels]
    exact exec_doTransition _ _ (hne _ (Or.inr rfl)) (Or.inr fun level hlevel => if_pos hlevel)

/-- The first barrier of the generation finds a level that has never been written. -/
theorem exec_createTexture_of_no_pixels (image : Image) (h : data.mipLevelCount > 1)
    (hpixels : data.pixels = []) :
    exec TextureCommand.execute (fun _ => .undefined) (createTexture image data) = none := by
  have hcount : 1 < data.mipLevelCount.toNat := UInt32.lt_iff_toNat_lt.mp h
  obtain ⟨count, hsucc⟩ : ∃ count, data.mipLevelCount.toNat - 1 = count + 1 :=
    ⟨data.mipLevelCount.toNat - 2, by omega⟩
  unfold createTexture
  dsimp only
  rw [if_pos h, uploadPixels_of_no_pixels hpixels, List.nil_append]
  unfold VulkanTexture.generateMipmaps
  have hlevels : (createdTexture image data).properties.mipLevelCount.toNat - 1 = count + 1 := hsucc
  dsimp only
  rw [hlevels, VulkanTexture.mipLevels, List.cons_append, exec_cons,
    execute_makeBarrier_eq_none (by decide) (by decide), Option.bind_none]

/-- With pixels all levels come out in the same layout, whatever the format. -/
theorem exec_createTexture_of_levels (image : Image) (h : data.mipLevelCount > 1)
    (hpixels : data.pixels ≠ []) :
    exec TextureCommand.execute (fun _ => .undefined) (createTexture image data) =
      some fun level => if level < data.mipLevelCount.toNat then .shaderReadOnlyOptimal
        else .undefined := by
  have hcount : 1 < data.mipLevelCount.toNat := UInt32.lt_iff_toNat_lt.mp h
  unfold createTexture
  dsimp only
  rw [if_pos h, exec_append, exec_uploadPixels _ rfl hpixels (by omega), Option.bind_some,
    exec_generateMipmaps]
  · refine congrArg some (funext fun level => ?_)
    show (if level < data.mipLevelCount.toNat then _ else _) = _
    split
    · rfl
    · rfl
  · show 0 < data.mipLevelCount.toNat
    omega
  · exact fun level hlevel => if_pos hlevel

/-- A texture of several levels needs pixels and a format without depth and stencil. -/
theorem layoutHistoryOk_iff (image : Image) (data : TextureContents) (h : 1 ≤ data.mipLevelCount) :
    LayoutHistoryOk image data ↔ data.mipLevelCount = 1 ∨
      (data.pixels ≠ [] ∧ hasDepthOrStencilComponent data.format = false) := by
  by_cases hone : data.mipLevelCount = 1
  · exact iff_of_true (layoutHistoryOk_of_one_level image hone) (Or.inl hone)
  rw [or_iff_right hone]
  have hgt : data.mipLevelCount > 1 := by
    rw [UInt32.le_iff_toNat_le] at h
    rw [← UInt32.toNat_inj] at hone
    apply UInt32.lt_iff_toNat_lt.mpr
    omega
  have hcount : 1 < data.mipLevelCount.toNat := UInt32.lt_iff_toNat_lt.mp hgt
  rw [layoutHistoryOk_iff_exec]
  constructor
  · rintro ⟨layouts, hexec, hlayouts⟩
    by_cases hpixels : data.pixels = []
    · rw [exec_createTexture_of_no_pixels image hgt hpixels] at hexec
      cases hexec
    · rw [exec_createTexture_of_levels image hgt hpixels] at hexec
      obtain rfl := Option.some.inj hexec
      have hzero := hlayouts 0 (by omega)
      refine ⟨hpixels, ?_⟩
      beta_reduce at hzero
      rw [if_pos (by omega), shaderInputLayout] at hzero
      by_contra hformat
      rw [if_pos (Bool.not_eq_false _ ▸ hformat)] at hzero
      cases hzero
  · rintro ⟨hpixels, hformat⟩
    refine ⟨_, exec_createTexture_of_levels image hgt hpixels, fun level hlevel => ?_⟩
    rw [if_pos hlevel, shaderInputLayout, hformat]
    rfl

/-- Four levels of a color texture. -/
def mipmappedData : TextureContents :=
  { size := ⟨8, 5⟩, format := .byte4Norm, mipLevelCount := 4, pixels := List.replicate 160 7 }

theorem layoutHistoryOk_mipmappedData : LayoutHistoryOk 0 mipmappedData := by
  have hformat : mipmappedData.pixels ≠ [] ∧
      hasDepthOrStencilComponent mipmappedData.format = false := by decide
  exact (layoutHistoryOk_iff 0 mipmappedData (by decide)).mpr (Or.inr hformat)

/-- Two levels of a depth texture that is to be rendered to. -/
theorem not_layoutHistoryOk : ¬ ∀ (image : Image) (data : TextureContents),
    1 ≤ data.mipLevelCount → LayoutHistoryOk image data := by
  intro h
  obtain ⟨layouts, hexec, -⟩ := h 0 { size := ⟨2, 2⟩, format := .depth32, mipLevelCount := 2 }
    (by decide)
  rw [exec_createTexture_of_no_pixels 0 (by decide) rfl] at hexec
  cases hexec

end Teide
