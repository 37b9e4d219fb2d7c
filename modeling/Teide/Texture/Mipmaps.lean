import Teide.Texture.Download

/-!
# Generating mip levels

Each round of `GenerateMipmaps` halves an extent that it takes over from the previous round, in 32
bits with a sign. `CopyImageToBuffer` and `GetByteSize` have loops of their own, in 32 and in 64 bits
without a sign. All of them walk through the same extents, those of `levelExtent`: whatever a loop has
arrived at, it halves it to the extent of the next level (`levelExtent_succ`).

The layouts are those of `exec_generateMipmaps`. In addition no barrier discards what it finds.
-/

namespace Teide

open Runs (exec Each)

variable {texture : VulkanTexture} {layouts : LevelLayouts}

/-- The extent of a mip level along one axis. -/
def levelExtent (size level : Nat) : Nat := max 1 (size / 2 ^ level)

theorem levelExtent_zero {size : Nat} (h : 1 ≤ size) : levelExtent size 0 = size := by
  unfold levelExtent
  rw [Nat.pow_zero, Nat.div_one]
  exact Nat.max_eq_right h

theorem levelExtent_succ (size level : Nat) :
    levelExtent size (level + 1) = max 1 (levelExtent size level / 2) := by
  unfold levelExtent
  rw [Nat.pow_succ, ← Nat.div_div_eq_div_mul]
  omega

/-! ### Commands -/

namespace TextureCommand

/-- The levels that the command accesses are in the layouts it names, also where it could discard
them. -/
def FindsLayouts (layouts : LevelLayouts) (command : TextureCommand) : Prop :=
  command.LayoutsOk layouts ∧ ∀ barrier, command = .pipelineBarrier barrier →
    ∀ level, barrier.Covers level → layouts level = barrier.oldLayout

/-- The command is no barrier that may discard. -/
def Keeps : TextureCommand → Prop
  | pipelineBarrier barrier => barrier.oldLayout ≠ .undefined
  | _ => True

def isBlit : TextureCommand → Bool
  | blitImage .. => true
  | _ => false

end TextureCommand

/-- The far corner of a level. -/
structure Offset3D.IsLevel (size : Size2i) (level : Nat) (offset : Offset3D) : Prop where
  x : offset.x.toInt = levelExtent size.x.toNat level
  y : offset.y.toInt = levelExtent size.y.toNat level
  z : offset.z = 1

/-- The command reads the whole of the previous level and writes the whole of this one. -/
inductive BlitsLevel (size : Size2i) (level : Nat) : TextureCommand → Prop
  | intro {blit : ImageBlit} {filter : Filter}
    (srcLevel : blit.srcSubresource.mipLevel.toNat = level - 1)
    (srcOrigin : blit.srcOffsets.1 = {})
    (srcExtent : blit.srcOffsets.2.IsLevel size (level - 1))
    (dstLevel : blit.dstSubresource.mipLevel.toNat = level)
    (dstOrigin : blit.dstOffsets.1 = {})
    (dstExtent : blit.dstOffsets.2.IsLevel size level) :
    BlitsLevel size level (.blitImage .transferSrcOptimal .transferDstOptimal blit filter)

/-- Every level but the first is made from the one before, and all of them end up ready to be sampled. -/
structure GeneratesLevels (texture : VulkanTexture) (layouts : LevelLayouts)
    (commands : List TextureCommand) : Prop where
  findsLayouts : Each TextureCommand.execute TextureCommand.FindsLayouts layouts commands
  blits : List.Forall₂ (BlitsLevel texture.properties.size)
    (List.range' 1 (texture.properties.mipLevelCount.toNat - 1))
    (commands.filter TextureCommand.isBlit)
  finished : ∃ final, exec TextureCommand.execute layouts commands = some final ∧
    ∀ level < texture.properties.mipLevelCount.toNat, final level = .shaderReadOnlyOptimal

/-- The other two loops walk through the same levels. -/
structure WalksLevels (data : TextureData) : Prop where
  copies : (downloadRegions data).map (fun region =>
      (region.mipLevel.toNat, region.imageExtent.width.toNat, region.imageExtent.height.toNat)) =
    (List.range data.mipLevelCount.toNat).map fun level =>
      (level, levelExtent data.size.x.toNat level, levelExtent data.size.y.toNat level)
  byteSize : (getByteSize data).toNat = ((List.range data.mipLevelCount.toNat).map fun level =>
    levelExtent data.size.x.toNat level * levelExtent data.size.y.toNat level *
      (getFormatElementSize data.format).toNat).sum % 2 ^ 64

/-! ### Extents -/

theorem toInt_halve {size : Int32} {n : Nat} (h : size.toInt = n) :
    (VulkanTexture.halve size).toInt = max 1 (n / 2 : Nat) := by
  have hone : (1 : Int32).toInt = 1 := rfl
  have htwo : (2 : Int32).toInt = 2 := rfl
  unfold VulkanTexture.halve
  by_cases hgt : size > 1
  · rw [if_pos hgt, Int32.toInt_div_of_ne_right _ _ (by decide), htwo, h]
    rw [gt_iff_lt, Int32.lt_iff_toInt_lt, hone, h] at hgt
    rw [Int.tdiv_eq_ediv_of_nonneg (by omega)]
    omega
  · rw [if_neg hgt, hone]
    rw [gt_iff_lt, Int32.lt_iff_toInt_lt, hone, h] at hgt
    omega

/-- What a round makes of the extent it takes over. -/
def Offset3D.halve (offset : Offset3D) : Offset3D :=
  ⟨VulkanTexture.halve offset.x, VulkanTexture.halve offset.y, VulkanTexture.halve offset.z⟩

theorem Offset3D.IsLevel.halve {size : Size2i} {level : Nat} {offset : Offset3D}
    (h : offset.IsLevel size level) : offset.halve.IsLevel size (level + 1) := by
  unfold Offset3D.halve
  refine ⟨?_, ?_, ?_⟩
  · rw [toInt_halve h.x, levelExtent_succ]
  · rw [toInt_halve h.y, levelExtent_succ]
  · rw [h.z]
    rfl

theorem isLevel_zero {size : Size2i} (hx : 1 ≤ size.x) (hy : 1 ≤ size.y) (hx' : size.x.toNat < 2 ^ 31)
    (hy' : size.y.toNat < 2 ^ 31) : Offset3D.IsLevel size 0 ⟨size.x.toInt32, size.y.toInt32, 1⟩ := by
  have htoInt : ∀ n : UInt32, 1 ≤ n → n.toNat < 2 ^ 31 →
      n.toInt32.toInt = levelExtent n.toNat 0 := by
    intro n hpos hlt
    rw [levelExtent_zero (UInt32.le_iff_toNat_le.mp hpos)]
    exact BitVec.toInt_eq_toNat_of_lt (by show 2 * n.toNat < _; omega)
  exact ⟨htoInt _ hx hx', htoInt _ hy hy', rfl⟩

/-! ### The commands of the loop -/

theorem TextureCommand.findsLayouts_of_execute {command : TextureCommand} {layouts' : LevelLayouts}
    (hkeeps : command.Keeps) (h : command.execute layouts = some layouts') :
    command.FindsLayouts layouts := by
  have hok : command.LayoutsOk layouts := by
    by_contra hnot
    unfold execute at h
    rw [if_neg hnot] at h
    cases h
  refine ⟨hok, ?_⟩
  rintro barrier rfl level hcovers
  exact hok.resolve_left hkeeps level hcovers.2 hcovers.1

theorem keeps_makeBarrier {old new : ImageLayout} {dstStageMask : PipelineStageFlags}
    {mipLevel : UInt32} (h : old ≠ .undefined) :
    (texture.makeBarrier old new dstStageMask mipLevel).Keeps := h

theorem keeps_mipLevels (count : Nat) (i : UInt32) (prevMipSize : Offset3D) :
    ∀ command ∈ texture.mipLevels i prevMipSize count, command.Keeps := by
  induction count generalizing i prevMipSize with
  | zero => exact fun command hmem => absurd hmem List.not_mem_nil
  | succ count ih =>
    unfold VulkanTexture.mipLevels
    simp only [List.forall_mem_cons]
    exact ⟨keeps_makeBarrier (by decide), trivial, keeps_makeBarrier (by decide), ih _ _⟩

theorem filter_mipLevels_succ (i : UInt32) (prevMipSize : Offset3D) (count : Nat) :
    (texture.mipLevels i prevMipSize (count + 1)).filter TextureCommand.isBlit =
      .blitImage .transferSrcOptimal .transferDstOptimal
          ⟨⟨{.color}, i - 1⟩, ({}, prevMipSize), ⟨{.color}, i⟩, ({}, prevMipSize.halve)⟩ .linear ::
        (texture.mipLevels (i + 1) prevMipSize.halve count).filter TextureCommand.isBlit := rfl

/-- A round begins with the extent of the level it reads. -/
theorem blits_mipLevels {size : Size2i} (count : Nat) (i : UInt32) (prevMipSize : Offset3D)
    (hpos : 0 < i.toNat) (hlt : i.toNat + count < 2 ^ 32)
    (hprev : prevMipSize.IsLevel size (i.toNat - 1)) :
    List.Forall₂ (BlitsLevel size) (List.range' i.toNat count)
      ((texture.mipLevels i prevMipSize count).filter TextureCommand.isBlit) := by
  induction count generalizing i prevMipSize with
  | zero => exact .nil
  | succ count ih =>
    have hpred : (i - 1).toNat = i.toNat - 1 := Words.toNat_sub_one hpos
    have hsucc : (i + 1).toNat = i.toNat + 1 := Words.toNat_add_one (by omega)
    have hcurr := hprev.halve
    rw [Nat.sub_add_cancel hpos] at hcurr
    have hrest := ih (i + 1) prevMipSize.halve (by omega) (by omega)
    rw [hsucc, Nat.add_sub_cancel] at hrest
    rw [filter_mipLevels_succ, List.range'_succ]
    exact .cons ⟨hpred, rfl, hprev, rfl, rfl, hcurr⟩ (hrest hcurr)

theorem generatesLevels_generateMipmaps (state : TextureState)
    (hx : 1 ≤ texture.properties.size.x) (hy : 1 ≤ texture.properties.size.y)
    (hx' : texture.properties.size.x.toNat < 2 ^ 31) (hy' : texture.properties.size.y.toNat < 2 ^ 31)
    (hcount : 1 ≤ texture.properties.mipLevelCount)
    (h : ∀ level < texture.properties.mipLevelCount.toNat, layouts level = .transferDstOptimal) :
    GeneratesLevels texture layouts (texture.generateMipmaps state).2 := by
  have hexec := exec_generateMipmaps state (UInt32.le_iff_toNat_le.mp hcount) h
  have hone : (1 : UInt32).toNat = 1 := rfl
  refine ⟨Runs.each_of_mem (fun s t command hmem => ?_) hexec, ?_, _, hexec,
    fun level hlevel => if_pos hlevel⟩
  · refine TextureCommand.findsLayouts_of_execute ?_
    rcases List.mem_append.mp hmem with hmem | hmem
    · exact keeps_mipLevels _ _ _ command hmem
    · obtain rfl := List.mem_singleton.mp hmem
      exact keeps_makeBarrier (by decide)
  · have hlt := texture.properties.mipLevelCount.toNat_lt
    unfold VulkanTexture.generateMipmaps
    dsimp only
    rw [List.filter_append]
    have hfinal : ([texture.makeBarrier .transferDstOptimal .shaderReadOnlyOptimal {.fragmentShader}
        (texture.properties.mipLevelCount - 1)]).filter TextureCommand.isBlit = [] := rfl
    rw [hfinal, List.append_nil]
    exact blits_mipLevels _ 1 _ (by decide) (by omega) (isLevel_zero hx hy hx' hy')

/-! ### The other loops -/

theorem levels_mipRegions_extent {aspectMask : ImageAspectFlags} {pixelSize : UInt32} {size : Size2i}
    (count : Nat) (i offset : UInt32) (mipExtent : Extent3D) (h : i.toNat + count < 2 ^ 32)
    (hwidth : mipExtent.width.toNat = levelExtent size.x.toNat i.toNat)
    (hheight : mipExtent.height.toNat = levelExtent size.y.toNat i.toNat) :
    (mipRegions aspectMask pixelSize i offset mipExtent count).map (fun region =>
        (region.mipLevel.toNat, region.imageExtent.width.toNat, region.imageExtent.height.toNat)) =
      (List.range' i.toNat count).map fun level =>
        (level, levelExtent size.x.toNat level, levelExtent size.y.toNat level) := by
  induction count generalizing i offset mipExtent with
  | zero => rfl
  | succ count ih =>
    have hsucc : (i + 1).toNat = i.toNat + 1 := Words.toNat_add_one (by omega)
    unfold mipRegions
    rw [List.range'_succ, List.map_cons, List.map_cons, ih _ _ _ (by omega), hsucc, hwidth, hheight]
    · rw [toNat_max_half, hwidth, hsucc, levelExtent_succ]
    · rw [toNat_max_half, hheight, hsucc, levelExtent_succ]

theorem levelsSize_eq_sum (pixelSize width height count level : Nat) :
    levelsSize pixelSize (levelExtent width level) (levelExtent height level) count =
      ((List.range' level count).map fun level =>
        levelExtent width level * levelExtent height level * pixelSize).sum := by
  induction count generalizing level with
  | zero => rfl
  | succ count ih =>
    rw [levelsSize, ← levelExtent_succ, ← levelExtent_succ, ih, List.range'_succ, List.map_cons,
      List.sum_cons]

theorem walksLevels {data : TextureData} (hx : 1 ≤ data.size.x) (hy : 1 ≤ data.size.y) :
    WalksLevels data := by
  have hwidth := levelExtent_zero (UInt32.le_iff_toNat_le.mp hx)
  have hheight := levelExtent_zero (UInt32.le_iff_toNat_le.mp hy)
  have hlt := data.mipLevelCount.toNat_lt
  constructor
  · rw [List.range_eq_range']
    exact levels_mipRegions_extent _ 0 0 _ (by rw [UInt32.toNat_zero]; omega) hwidth.symm
      hheight.symm
  · rw [toNat_getByteSize_mod, List.range_eq_range', ← levelsSize_eq_sum, hwidth, hheight]
    rfl

/-- **Every level is made from the one before, in the extents that are copied and counted.** -/
theorem generateMipmaps_levels (texture : VulkanTexture) (state : TextureState)
    (layouts : LevelLayouts) (hx : 1 ≤ texture.properties.size.x)
    (hy : 1 ≤ texture.properties.size.y) (hx' : texture.properties.size.x.toNat < 2 ^ 31)
    (hy' : texture.properties.size.y.toNat < 2 ^ 31) (hcount : 1 ≤ texture.properties.mipLevelCount)
    (h : ∀ level < texture.properties.mipLevelCount.toNat, layouts level = .transferDstOptimal) :
    GeneratesLevels texture layouts (texture.generateMipmaps state).2 ∧
      WalksLevels texture.properties.data :=
  ⟨generatesLevels_generateMipmaps state hx hy hx' hy' hcount h, walksLevels hx hy⟩

/-- Levels of 7 by 5, 3 by 2 and one texel. -/
def oddTexture : VulkanTexture :=
  createdTexture 0 { size := ⟨7, 5⟩, format := .byte4Norm, mipLevelCount := 3 }

theorem generateMipmaps_levels_oddTexture :
    GeneratesLevels oddTexture (fun _ => .transferDstOptimal)
        (oddTexture.generateMipmaps ⟨.transferDstOptimal, {.transfer}⟩).2 ∧
      WalksLevels oddTexture.properties.data :=
  generateMipmaps_levels oddTexture _ _ (by decide) (by decide) (by decide) (by decide) (by decide)
    (fun _ _ => rfl)

end Teide
