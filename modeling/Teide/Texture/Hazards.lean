import Teide.Lib.Words
import Teide.Texture.Layouts
import Teide.Texture.Download
import Teide.Vulkan.Access

/-!
# Races in the life of a texture

A texture is created, with its pixels uploaded and its mip levels generated, and from then on sampled by
render passes and copied out by `CopyTextureData`, in any order. Each mip level is a resource of its own
here. `GenerateMipmaps` gives its barriers access masks of its own, which are those that
`GetTransitionAccessMask` has for the two layouts, so a barrier's dependency is that of its layouts
throughout.

Creation races exactly if there are several levels and no pixels, since the levels are then blitted to
without having been made ready. Every use finds all levels ready for sampling and leaves them so
(`levelsRaceFree_iff`).
-/

namespace Teide

open Runs Hazards
/-! ### What commands do to the levels -/

/-- What a command does to the memory of the mip levels. -/
def TextureCommand.memoryOps : TextureCommand → List (Nat × MemoryOp)
  | pipelineBarrier barrier =>
    (List.range' barrier.baseMipLevel.toNat barrier.levelCount.toNat).flatMap fun level =>
      [(level, barrier.dependency)]
  | copyBufferToImage _ region => [(region.mipLevel.toNat, .write transferWriteScope)]
  | copyImageToBuffer _ region => [(region.mipLevel.toNat, .read transferReadScope)]
  | blitImage _ _ blit _ =>
    [(blit.srcSubresource.mipLevel.toNat, .read transferReadScope),
      (blit.dstSubresource.mipLevel.toNat, .write transferWriteScope)]

/-- What happens to a texture once it has been created. -/
inductive TextureUse where
  | sample
  | copyTextureData

/-- What a use does to the memory of the mip levels. -/
def TextureUse.memoryOps (texture : VulkanTexture) : TextureUse → List (Nat × MemoryOp)
  | sample => (List.range' 0 texture.properties.mipLevelCount.toNat).flatMap fun level =>
    [(level, .read sampleScope)]
  | copyTextureData => (Teide.copyTextureData texture).flatMap TextureCommand.memoryOps

/-- The operations never race, on an image that has just been created. -/
def LevelsRaceFree (ops : List (Nat × MemoryOp)) : Prop :=
  Each (stepAt Sync.apply) (fun s op => (s op.1).Ordered op.2) (fun _ => {}) ops

instance (ops : List (Nat × MemoryOp)) : Decidable (LevelsRaceFree ops) :=
  inferInstanceAs (Decidable (Each _ _ _ _))

/-- The memory operations of the life of a texture. -/
def textureLife (image : Image) (data : TextureContents) (uses : List TextureUse) :
    List (Nat × MemoryOp) :=
  (createTexture image data).flatMap TextureCommand.memoryOps ++
    uses.flatMap (TextureUse.memoryOps (createdTexture image data))

variable {texture : VulkanTexture} {level : Nat}

/-! ### The operations on one level -/

/-- An operation on a range of levels. -/
theorem opsAt_range' (op : MemoryOp) (start count : Nat) :
    opsAt level ((List.range' start count).flatMap fun level => [(level, op)]) =
      if start ≤ level ∧ level < start + count then [op] else [] := by
  split_ifs with h
  · exact opsAt_flatMap_of_mem id (by simp) (by simpa using List.nodup_range')
      (List.mem_range'_1.mpr h)
  · refine opsAt_flatMap_of_forall_ne id (by simp) fun level' hmem => ?_
    rintro rfl
    exact h (List.mem_range'_1.mp hmem)

theorem opsAt_imageTransition (old new : TextureState) :
    opsAt level (texture.imageTransition old new).memoryOps =
      if level < texture.properties.mipLevelCount.toNat then
        [TextureStateTransition.dependency ⟨old, new⟩] else [] := by
  refine (opsAt_range' _ _ _).trans (if_congr ?_ rfl rfl)
  show 0 ≤ level ∧ level < 0 + texture.properties.mipLevelCount.toNat ↔ _
  omega

/-- The dependency of a barrier of `GenerateMipmaps`. -/
def mipDependency (old new : ImageLayout) (dstStageMask : PipelineStageFlags) : MemoryOp :=
  TextureStateTransition.dependency ⟨⟨old, {.transfer}⟩, ⟨new, dstStageMask⟩⟩

theorem memoryOps_makeBarrier (old new : ImageLayout) (dstStageMask : PipelineStageFlags)
    (mipLevel : UInt32) : (texture.makeBarrier old new dstStageMask mipLevel).memoryOps =
      [(mipLevel.toNat, mipDependency old new dstStageMask)] := rfl

/-- What the loop does to a level that it reads. -/
def finishOps : List MemoryOp :=
  [mipDependency .transferDstOptimal .transferSrcOptimal {.transfer}, .read transferReadScope,
    mipDependency .transferSrcOptimal .shaderReadOnlyOptimal {.fragmentShader}]

/-- A round reads level `j` and writes the next one. -/
theorem opsAt_round (level j : Nat) :
    opsAt level [(j, mipDependency .transferDstOptimal .transferSrcOptimal {.transfer}),
        (j, .read transferReadScope), (j + 1, .write transferWriteScope),
        (j, mipDependency .transferSrcOptimal .shaderReadOnlyOptimal {.fragmentShader})] =
      (if level = j + 1 then [.write transferWriteScope] else []) ++
        if level = j then finishOps else [] := by
  by_cases hread : level = j
  · subst hread
    simp [opsAt, finishOps]
  by_cases hwrite : level = j + 1
  · subst hwrite
    simp [opsAt]
  · simp [opsAt, hread, hwrite, Ne.symm hread, Ne.symm hwrite]

/-- The loop writes the levels from `i` on, and reads those from the one before. -/
theorem opsAt_mipLevels (count : Nat) (i : UInt32) (prevMipSize : Offset3D) (hpos : 0 < i.toNat)
    (hlt : i.toNat + count < 2 ^ 32) :
    opsAt level ((texture.mipLevels i prevMipSize count).flatMap TextureCommand.memoryOps) =
      (if i.toNat ≤ level ∧ level < i.toNat + count then [.write transferWriteScope] else []) ++
        if i.toNat ≤ level + 1 ∧ level + 1 < i.toNat + count then finishOps else [] := by
  induction count generalizing i prevMipSize with
  | zero =>
    rw [if_neg (by omega), if_neg (by omega)]
    rfl
  | succ count ih =>
    have hpred : (i - 1).toNat = i.toNat - 1 := Words.toNat_sub_one hpos
    have hsucc : (i + 1).toNat = i.toNat + 1 := Words.toNat_add_one (by omega)
    have hround : ∀ (ops : List (Nat × MemoryOp)) (blit : ImageBlit),
        blit.srcSubresource.mipLevel = i - 1 → blit.dstSubresource.mipLevel = i →
        opsAt level ((texture.makeBarrier .transferDstOptimal .transferSrcOptimal {.transfer}
            (i - 1)).memoryOps ++ ((TextureCommand.blitImage .transferSrcOptimal .transferDstOptimal blit
              .linear).memoryOps ++ ((texture.makeBarrier .transferSrcOptimal .shaderReadOnlyOptimal
                {.fragmentShader} (i - 1)).memoryOps ++ ops))) =
          (if level = i.toNat then [.write transferWriteScope] else []) ++
            (if level = i.toNat - 1 then finishOps else []) ++ opsAt level ops := by
      intro ops blit hsrc hdst
      have hround := opsAt_round level (i.toNat - 1)
      rw [Nat.sub_add_cancel hpos] at hround
      rw [← hround, ← opsAt_append, TextureCommand.memoryOps, hsrc, hdst, memoryOps_makeBarrier,
        memoryOps_makeBarrier, hpred]
      rfl
    unfold VulkanTexture.mipLevels
    rw [List.flatMap_cons, List.flatMap_cons, List.flatMap_cons, hround _ _ rfl rfl,
      ih _ _ (by omega) (by omega), hsucc]
    by_cases hprev : level = i.toNat - 1
    · rw [if_neg (by omega), if_pos hprev, if_neg (by omega), if_neg (by omega), if_neg (by omega),
        if_pos (by omega)]
      rfl
    by_cases hcurr : level = i.toNat
    · have hwrite : i.toNat ≤ level ∧ level < i.toNat + (count + 1) := by omega
      rw [if_pos hcurr, if_neg hprev, List.append_nil, if_neg (by omega), List.nil_append,
        if_pos hwrite]
      exact congrArg _ (if_congr (by omega) rfl rfl)
    · rw [if_neg hcurr, if_neg hprev, List.nil_append, List.nil_append]
      exact congrArg₂ _ (if_congr (by omega) rfl rfl) (if_congr (by omega) rfl rfl)

/-! ### Creation -/

/-- The dependencies before the upload, and before and after samples. -/
def uploadDependency : MemoryOp :=
  TextureStateTransition.dependency ⟨⟨.undefined, {.topOfPipe}⟩, ⟨.transferDstOptimal, {.transfer}⟩⟩

def shaderInputDependency (old : TextureState) (format : Format) : MemoryOp :=
  TextureStateTransition.dependency ⟨old, ⟨shaderInputLayout format, {.fragmentShader}⟩⟩

theorem opsAt_uploadPixels {image : Image} {data : TextureContents} (hpixels : data.pixels ≠ []) :
    opsAt level ((uploadPixels (createdTexture image data) data
        ⟨.undefined, {.topOfPipe}⟩).2.flatMap TextureCommand.memoryOps) =
      (if level < data.mipLevelCount.toNat then [uploadDependency] else []) ++
        if level = 0 then [.write transferWriteScope] else [] := by
  unfold uploadPixels
  rw [if_pos hpixels]
  dsimp only
  rw [List.flatMap_cons, List.flatMap_singleton, opsAt_append, opsAt_imageTransition]
  refine congrArg₂ (· ++ ·) rfl ?_
  by_cases hzero : level = 0
  · subst hzero
    rfl
  · rw [if_neg hzero]
    exact opsAt_cons_of_ne (Ne.symm hzero)

theorem opsAt_generateMipmaps {state : TextureState} (h : 0 < texture.properties.mipLevelCount.toNat) :
    opsAt level ((texture.generateMipmaps state).2.flatMap TextureCommand.memoryOps) =
      (if 1 ≤ level ∧ level < texture.properties.mipLevelCount.toNat then [.write transferWriteScope]
        else []) ++
      ((if level + 1 < texture.properties.mipLevelCount.toNat then finishOps else []) ++
        if level + 1 = texture.properties.mipLevelCount.toNat then
          [mipDependency .transferDstOptimal .shaderReadOnlyOptimal {.fragmentShader}] else []) := by
  have hlt := texture.properties.mipLevelCount.toNat_lt
  have hone : (1 : UInt32).toNat = 1 := rfl
  have hpred : (texture.properties.mipLevelCount - 1).toNat =
      texture.properties.mipLevelCount.toNat - 1 := Words.toNat_sub_one h
  unfold VulkanTexture.generateMipmaps
  dsimp only
  rw [List.flatMap_append, List.flatMap_singleton, opsAt_append,
    opsAt_mipLevels _ _ _ (by decide) (by omega), memoryOps_makeBarrier, hone, hpred, List.append_assoc]
  refine congrArg₂ (· ++ ·) (if_congr (by omega) rfl rfl)
    (congrArg₂ (· ++ ·) (if_congr (by omega) rfl rfl) ?_)
  by_cases hlast : level + 1 = texture.properties.mipLevelCount.toNat
  · obtain rfl : level = texture.properties.mipLevelCount.toNat - 1 := by omega
    rw [if_pos hlast]
    exact opsAt_cons_self
  · rw [if_neg hlast]
    exact opsAt_cons_of_ne (by dsimp only; omega)

theorem opsAt_transitionToShaderInput {state : TextureState}
    (hstate : state.layout ≠ shaderInputLayout texture.properties.format) :
    opsAt level ((texture.transitionToShaderInput state).2.flatMap TextureCommand.memoryOps) =
      if level < texture.properties.mipLevelCount.toNat then
        [shaderInputDependency state texture.properties.format] else [] := by
  unfold VulkanTexture.transitionToShaderInput VulkanTexture.doTransition
  rw [if_neg fun h => hstate h.1.symm]
  dsimp only
  rw [List.flatMap_singleton, opsAt_imageTransition]
  rfl

/-- What creation does to a level, if the level is made ready at all. -/
def creations (format : Format) : List (List MemoryOp) :=
  [uploadDependency :: .write transferWriteScope :: finishOps,
    [uploadDependency, .write transferWriteScope,
      mipDependency .transferDstOptimal .shaderReadOnlyOptimal {.fragmentShader}],
    [uploadDependency, .write transferWriteScope,
      shaderInputDependency ⟨.transferDstOptimal, {.transfer}⟩ format],
    [shaderInputDependency ⟨.undefined, {.topOfPipe}⟩ format]]

theorem shaderInputLayout_cases (format : Format) :
    shaderInputLayout format = .shaderReadOnlyOptimal ∨
      shaderInputLayout format = .depthStencilReadOnlyOptimal := by
  unfold shaderInputLayout
  split_ifs
  · exact Or.inr rfl
  · exact Or.inl rfl

theorem ne_shaderInputLayout {format : Format} :
    ∀ layout ∈ [ImageLayout.undefined, .transferDstOptimal, .transferSrcOptimal],
      layout ≠ shaderInputLayout format := by
  rcases shaderInputLayout_cases format with h | h <;> rw [h] <;> decide

/-- What creation does to a level of a texture of one level. -/
theorem opsAt_createTexture_of_one {image : Image} {data : TextureContents} (h : data.mipLevelCount = 1) :
    opsAt level ((createTexture image data).flatMap TextureCommand.memoryOps) =
      if level = 0 then
        if data.pixels = [] then [shaderInputDependency ⟨.undefined, {.topOfPipe}⟩ data.format]
        else [uploadDependency, .write transferWriteScope,
          shaderInputDependency ⟨.transferDstOptimal, {.transfer}⟩ data.format]
      else [] := by
  have hcount : data.mipLevelCount.toNat = 1 := congrArg UInt32.toNat h
  have hcovered : level < (createdTexture image data).properties.mipLevelCount.toNat ↔ level = 0 := by
    show level < data.mipLevelCount.toNat ↔ _
    omega
  have hlevels : ¬ data.mipLevelCount > 1 := by
    rw [h]
    decide
  unfold createTexture
  dsimp only
  rw [if_neg hlevels, List.flatMap_append, opsAt_append]
  by_cases hpixels : data.pixels = []
  · rw [uploadPixels_of_no_pixels hpixels,
      opsAt_transitionToShaderInput (ne_shaderInputLayout _ (by simp)), if_congr hcovered rfl rfl,
      if_pos hpixels]
    rfl
  · rw [opsAt_uploadPixels hpixels, uploadPixels_fst hpixels,
      opsAt_transitionToShaderInput (ne_shaderInputLayout _ (by simp)), if_congr hcovered rfl rfl,
      if_neg hpixels]
    split_ifs <;> first | rfl | omega

/-- What creation does to a level of a texture of several levels. -/
theorem opsAt_createTexture_of_levels {image : Image} {data : TextureContents}
    (h : 1 < data.mipLevelCount.toNat) :
    opsAt level ((createTexture image data).flatMap TextureCommand.memoryOps) =
      if level < data.mipLevelCount.toNat then
        (if data.pixels = [] then [] else [uploadDependency]) ++
        ((if level = 0 ∧ data.pixels = [] then [] else [.write transferWriteScope]) ++
          if level + 1 < data.mipLevelCount.toNat then finishOps
          else [mipDependency .transferDstOptimal .shaderReadOnlyOptimal {.fragmentShader}])
      else [] := by
  have hlevels : data.mipLevelCount > 1 := UInt32.lt_iff_toNat_lt.mpr h
  have hgenerate : ∀ state, opsAt level (((createdTexture image data).generateMipmaps
      state).2.flatMap TextureCommand.memoryOps) = _ := fun state =>
    opsAt_generateMipmaps (show 0 < data.mipLevelCount.toNat by omega)
  have hcount : (createdTexture image data).properties.mipLevelCount = data.mipLevelCount := rfl
  unfold createTexture
  dsimp only
  rw [if_pos hlevels, List.flatMap_append, opsAt_append, hgenerate, hcount]
  by_cases hpixels : data.pixels = []
  · rw [uploadPixels_of_no_pixels hpixels]
    simp only [hpixels, and_true, if_true]
    split_ifs <;> first | rfl | omega
  · rw [opsAt_uploadPixels hpixels]
    simp only [hpixels, and_false, if_false]
    split_ifs <;> first | rfl | omega

/-- A level that has been sampled since it was made ready for that, or has not. -/
def sampleable : List (Sync PipelineStage Access) :=
  [⟨∅, ∅, sampleScope⟩, ⟨{.fragmentShader}, ∅, sampleScope⟩]

theorem ordered_creation (format : Format) : ∀ ops ∈ creations format,
    Ordered {} ops ∧ ops.foldl Sync.apply {} ∈ sampleable := by
  unfold creations shaderInputDependency
  rcases shaderInputLayout_cases format with h | h <;> rw [h] <;> decide

/-! ### Uses -/

/-- What a use does to a level. -/
def TextureUse.levelOps (format : Format) : TextureUse → List MemoryOp
  | sample => [.read sampleScope]
  | copyTextureData =>
    [TextureStateTransition.dependency
        ⟨⟨shaderInputLayout format, {.fragmentShader}⟩, ⟨.transferSrcOptimal, {.transfer}⟩⟩,
      .read transferReadScope, shaderInputDependency ⟨.transferSrcOptimal, {.transfer}⟩ format]

theorem ordered_levelOps (format : Format) (use : TextureUse) : ∀ s ∈ sampleable,
    Ordered s (use.levelOps format) ∧ (use.levelOps format).foldl Sync.apply s ∈ sampleable := by
  unfold TextureUse.levelOps shaderInputDependency
  cases use <;> rcases shaderInputLayout_cases format with h | h <;> rw [h] <;> decide

theorem opsAt_downloadRegions :
    opsAt level (((downloadRegions texture.properties.data).map
        (TextureCommand.copyImageToBuffer .transferSrcOptimal)).flatMap TextureCommand.memoryOps) =
      if level < texture.properties.mipLevelCount.toNat then [.read transferReadScope] else [] := by
  have hlevels := levels_downloadRegions texture.properties.data
  have hkey : ∀ region ∈ downloadRegions texture.properties.data, ∀ op ∈
      TextureCommand.memoryOps (.copyImageToBuffer .transferSrcOptimal region),
        op.1 = region.mipLevel.toNat := by
    intro region _ op hop
    rw [List.mem_singleton.mp hop]
  rw [List.flatMap_map]
  split_ifs with hlevel
  · have hmem : level ∈ (downloadRegions texture.properties.data).map fun region =>
        region.mipLevel.toNat := by
      rw [hlevels]
      exact List.mem_range.mpr hlevel
    obtain ⟨region, hregion, rfl⟩ := List.mem_map.mp hmem
    refine (opsAt_flatMap_of_mem _ hkey ?_ hregion).trans rfl
    rw [hlevels]
    exact List.nodup_range
  · refine opsAt_flatMap_of_forall_ne _ hkey fun region hregion heq => hlevel ?_
    have hmem := List.mem_map_of_mem (f := fun region => region.mipLevel.toNat) hregion
    rw [hlevels, heq] at hmem
    exact List.mem_range.mp hmem

theorem opsAt_use (use : TextureUse) : opsAt level (use.memoryOps texture) =
    if level < texture.properties.mipLevelCount.toNat then use.levelOps texture.properties.format
    else [] := by
  cases use with
  | sample =>
    refine (opsAt_range' _ _ _).trans (if_congr ?_ rfl rfl)
    omega
  | copyTextureData =>
    have hne : ImageLayout.transferSrcOptimal ≠ shaderInputLayout texture.properties.format :=
      ne_shaderInputLayout _ (by simp)
    have hbefore : (texture.transitionToTransferSrc (copyTextureDataState texture)).2 =
        [texture.imageTransition (copyTextureDataState texture) ⟨.transferSrcOptimal, {.transfer}⟩] :=
      congrArg Prod.snd (if_neg fun h => hne h.1)
    have hdownload := @opsAt_downloadRegions texture level
    have hafter := @opsAt_transitionToShaderInput texture level ⟨.transferSrcOptimal, {.transfer}⟩ hne
    unfold TextureUse.memoryOps copyTextureData
    dsimp only
    unfold downloadRegions TextureProperties.data at hdownload
    dsimp only at hdownload
    rw [hbefore, VulkanTexture.transitionToTransferSrc, doTransition_fst, List.flatMap_append,
      List.flatMap_append, opsAt_append, opsAt_append, List.flatMap_singleton, opsAt_imageTransition,
      hdownload, hafter]
    split_ifs <;> rfl

/-! ### The life of a texture -/

theorem ordered_createTexture (image : Image) {data : TextureContents}
    (h : data.mipLevelCount = 1 ∨ data.pixels ≠ []) (hlevel : level < data.mipLevelCount.toNat) :
    Ordered {} (opsAt level ((createTexture image data).flatMap TextureCommand.memoryOps)) ∧
      (opsAt level ((createTexture image data).flatMap TextureCommand.memoryOps)).foldl Sync.apply {} ∈
        sampleable := by
  refine ordered_creation data.format _ ?_
  by_cases hone : data.mipLevelCount = 1
  · have hzero : level = 0 := by
      have hcount : data.mipLevelCount.toNat = 1 := congrArg UInt32.toNat hone
      omega
    rw [opsAt_createTexture_of_one hone, if_pos hzero]
    split_ifs <;> simp [creations]
  · have hpixels := h.resolve_left hone
    have hcount := Words.one_lt_toNat_of_ne_one (by omega) hone
    rw [opsAt_createTexture_of_levels hcount, if_pos hlevel, if_neg hpixels,
      if_neg fun hzero => hpixels hzero.2]
    split_ifs <;> simp [creations]

/-- Each use finds the level ready and leaves it ready for the next one. -/
theorem ordered_uses (texture : VulkanTexture) (uses : List TextureUse)
    (hlevel : level < texture.properties.mipLevelCount.toNat) {s : Sync PipelineStage Access}
    (hs : s ∈ sampleable) :
    Ordered s (opsAt level (uses.flatMap (TextureUse.memoryOps texture))) := by
  induction uses generalizing s with
  | nil => trivial
  | cons use uses ih =>
    obtain ⟨huse, hafter⟩ := ordered_levelOps texture.properties.format use s hs
    rw [List.flatMap_cons, opsAt_append, opsAt_use, if_pos hlevel]
    exact (each_append (exec_step s _)).mpr ⟨huse, ih hafter⟩

end Teide
