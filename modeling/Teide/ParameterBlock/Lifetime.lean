import Mathlib.Data.List.Forall2
import Mathlib.Data.List.Induction
import Mathlib.Data.List.Nodup
import Mathlib.Tactic.Common
import Teide.Lib.Runs
import Teide.ParameterBlock.Descriptors

/-!
# Parameter blocks and the views they are written with

`CreateParameterBlock` allocates a descriptor set and tries to write it. That fails if one of the
textures has no image view yet, as a texture from `AllocateTexture` has none until a graph that it is in
is executed. `GetDescriptorSet`, which is called when the block is bound, then tries again.

`State` is what a device has of textures and parameter blocks. `createTextureImpl` is what a graph
does to each of its textures when it is executed: it replaces the image, and the view if the usage
asks for one. The handles in a parameter block keep its textures alive, so none is ever removed. The
history of calls of `vkUpdateDescriptorSets` and of `GetDescriptorSet` is part of the state.
-/

namespace Teide.Descriptors

open Runs

/-- `VulkanTexture`, with the image that its view is a view of. -/
structure DeviceTexture extends VulkanTexture where
  image : Option Nat := none
  viewedImage : Option Nat := none
  usage : ImageUsageFlags := ∅

structure VulkanParameterBlock where
  uniformBuffer : Option VulkanBuffer := none
  textures : List Nat := []
  descriptorSet : Option DescriptorSet := none
  pushConstantData : List UInt8 := []
  written : Bool := false

structure ParameterBlockData where
  layout : Option VulkanParameterBlockLayout := none
  uniformData : List UInt8 := []
  textures : List Nat := []

structure State where
  textures : List DeviceTexture := []
  parameterBlocks : List VulkanParameterBlock := []
  /-- how many images, views and buffers have been created -/
  images : Nat := 0
  views : Nat := 0
  buffers : Nat := 0
  /-- the calls of `vkUpdateDescriptorSets`, each with the block it was made for -/
  updates : List (Nat × List DescriptorWrite) := []
  /-- the blocks whose sets have been returned by `GetDescriptorSet` -/
  bound : List Nat := []

inductive Action where
  | allocateTexture (format : Format) (sampler : Nat)
  | createTexture (format : Format) (sampler : Nat) (usage : ImageUsageFlags)
  | createTextureImpl (texture : Nat) (format : Format) (usage : ImageUsageFlags)
  | createParameterBlock (data : ParameterBlockData)
  | getDescriptorSet (parameterBlock : Nat)

/-- Whether an image with this usage gets a view. -/
def needsImageView (usage : ImageUsageFlags) : Bool :=
  .sampled ∈ usage ∨ .storage ∈ usage ∨ .colorAttachment ∈ usage ∨ .depthStencilAttachment ∈ usage

namespace State

def texture (s : State) (k : Nat) : DeviceTexture := s.textures[k]?.getD {}

/-- The textures that a list of handles stands for. -/
def texturesOf (s : State) (textures : List Nat) : List VulkanTexture :=
  textures.map fun k => (s.texture k).toVulkanTexture

/-- `CreateTextureImpl` -/
def createTextureImpl (s : State) (texture : DeviceTexture) : DeviceTexture × State :=
  let usage := insert .transferSrc texture.usage
  let texture := { texture with usage := usage, image := some s.images }
  if needsImageView usage then
    ({ texture with imageView := some s.views, viewedImage := some s.images },
      { s with images := s.images + 1, views := s.views + 1 })
  else (texture, { s with images := s.images + 1 })

def allocateTexture (s : State) (format : Format) (sampler : Nat) : State :=
  { s with textures := s.textures ++ [{ format := format, sampler := sampler }] }

/-- `CreateTexture` and `CreateRenderableTexture`, as far as the texture goes. -/
def createTexture (s : State) (format : Format) (sampler : Nat) (usage : ImageUsageFlags) : State :=
  let (texture, s) := s.createTextureImpl { format := format, sampler := sampler, usage := usage }
  { s with textures := s.textures ++ [texture] }

/-- What `RecordCommands` does to a texture of its graph. -/
def recreateTexture (s : State) (k : Nat) (format : Format) (usage : ImageUsageFlags) : State :=
  let (texture, s) := s.createTextureImpl { s.texture k with format := format, usage := usage }
  { s with textures := s.textures.set k texture }

/-- `WriteDescriptorSet` with the set, the uniform buffer and the textures of the block numbered `b`;
the result goes to `written`, and what is written is recorded. -/
def writeParameterBlock (s : State) (b : Nat) (pblock : VulkanParameterBlock)
    (descriptorSet : DescriptorSet) : VulkanParameterBlock × State :=
  let textures := s.texturesOf pblock.textures
  let writes := descriptorWrites pblock.uniformBuffer textures
  let (written, descriptorSet) := writeDescriptorSet descriptorSet pblock.uniformBuffer textures
  ({ pblock with descriptorSet := some descriptorSet, written := written },
    { s with updates := s.updates ++ (writes.map (b, ·)).toList })

def createParameterBlock (s : State) (data : ParameterBlockData) : State :=
  match data.layout with
  | none => { s with parameterBlocks := s.parameterBlocks ++ [{}] }
  | some layout =>
    let isPushConstant := layout.pushConstantRange.isSome
    let hasBuffer := !isPushConstant && !data.uniformData.isEmpty
    let (pblock, s) := s.writeParameterBlock s.parameterBlocks.length
      { uniformBuffer :=
          if hasBuffer then some { size := .ofNat data.uniformData.length, buffer := s.buffers }
          else none
        textures := data.textures
        pushConstantData := if isPushConstant then data.uniformData else [] } newSet
    { s with
      parameterBlocks := s.parameterBlocks ++ [pblock]
      buffers := if hasBuffer then s.buffers + 1 else s.buffers }

/-- `none` when the assertion that the set has been written fails. -/
def initParameterBlock (s : State) (b : Nat) (pblock : VulkanParameterBlock) : Option State :=
  match pblock.descriptorSet, pblock.written with
  | some descriptorSet, false =>
    let (pblock, s) := s.writeParameterBlock b pblock descriptorSet
    if pblock.written then some { s with parameterBlocks := s.parameterBlocks.set b pblock } else none
  | _, _ => some s

def getDescriptorSet (s : State) (b : Nat) (pblock : VulkanParameterBlock) : Option State :=
  (s.initParameterBlock b pblock).map fun s => { s with bound := s.bound ++ [b] }

def step (s : State) : Action → Option State
  | .allocateTexture format sampler => some (s.allocateTexture format sampler)
  | .createTexture format sampler usage => some (s.createTexture format sampler usage)
  | .createTextureImpl k format usage =>
    if k < s.textures.length then some (s.recreateTexture k format usage) else none
  | .createParameterBlock data =>
    -- a handle is got from the device
    if ∀ k ∈ data.textures, k < s.textures.length then some (s.createParameterBlock data) else none
  | .getDescriptorSet b => s.parameterBlocks[b]?.bind (s.getDescriptorSet b)

end State

variable {s t : State} {a : Action} {b : Nat} {pblock : VulkanParameterBlock}
  {uniformBuffer : Option VulkanBuffer} {textures : List VulkanTexture} {set : DescriptorSet}
  {writes : List DescriptorWrite}

/-! ### Writing a set -/

/-- The write for a texture: its sampler and its view, in the layout that it is sampled in, to
binding 1. -/
def WritesTexture (texture : VulkanTexture) (write : DescriptorWrite) : Prop :=
  ∃ view, texture.imageView = some view ∧ write =
    { dstBinding := 1
      descriptor :=
        { descriptorType := .combinedImageSampler
          info := .image
            { sampler := texture.sampler
              imageView := view
              imageLayout :=
                if hasDepthOrStencilComponent texture.format then .depthStencilReadOnlyOptimal
                else .shaderReadOnlyOptimal } } }

/-- The writes for a block: the whole of its uniform buffer to binding 0, unless it is empty, and then
each of its textures. -/
def WritesAll (uniformBuffer : Option VulkanBuffer) (textures : List VulkanTexture)
    (writes : List DescriptorWrite) : Prop :=
  ∃ images, List.Forall₂ WritesTexture textures images ∧
    writes = ((uniformBuffer.filter (·.size > 0)).toList.map fun buffer =>
      { dstBinding := 0
        descriptor :=
          { descriptorType := .uniformBuffer
            info := .buffer { buffer := buffer.buffer, offset := 0, range := buffer.size } } }) ++ images

/-- What the last of the writes to a binding leaves there. -/
def lastWrite (writes : List DescriptorWrite) (binding : UInt32) : Option Descriptor :=
  ((writes.filter (·.dstBinding = binding)).getLast?).map (·.descriptor)

theorem updateDescriptorSets_newSet (writes : List DescriptorWrite) :
    updateDescriptorSets newSet writes = lastWrite writes := by
  induction writes using List.reverseRecOn with
  | nil => rfl
  | append_singleton writes write ih =>
    have happend : updateDescriptorSets newSet (writes ++ [write]) =
        Function.update (lastWrite writes) write.dstBinding (some write.descriptor) := by
      rw [← ih]
      exact List.foldl_append
    rw [happend]
    funext binding
    unfold lastWrite
    by_cases hbinding : write.dstBinding = binding
    · subst hbinding
      simp [List.filter_append]
    · simp [List.filter_append, hbinding, Function.update_of_ne (Ne.symm hbinding)]

theorem forall₂_textureWrites {writes : List DescriptorWrite}
    (h : textureWrites textures = some writes) : List.Forall₂ WritesTexture textures writes := by
  induction textures generalizing writes with
  | nil => exact Option.some.inj h ▸ .nil
  | cons texture textures ih =>
    simp only [textureWrites, Option.bind_eq_bind, Option.bind_eq_some_iff, Option.pure_def,
      Option.some.injEq] at h
    obtain ⟨w, hw, ws, hws, rfl⟩ := h
    obtain ⟨info, hinfo, rfl⟩ := Option.map_eq_some_iff.mp hw
    obtain ⟨view, hview, rfl⟩ := Option.map_eq_some_iff.mp hinfo
    exact .cons ⟨view, hview, rfl⟩ (ih hws)

theorem writesAll_of_eq_some (h : descriptorWrites uniformBuffer textures = some writes) :
    WritesAll uniformBuffer textures writes := by
  obtain ⟨images, himages, rfl⟩ := Option.map_eq_some_iff.mp h
  refine ⟨images, forall₂_textureWrites himages, congrArg (· ++ images) ?_⟩
  unfold bufferWrites
  cases uniformBuffer with
  | none => rfl
  | some buffer =>
    dsimp only
    by_cases hsize : buffer.size > 0
    · rw [if_pos hsize, Option.filter_some, if_pos (decide_eq_true hsize)]
      rfl
    · rw [if_neg hsize, Option.filter_some, if_neg (by simpa using hsize)]
      rfl

theorem writeDescriptorSet_of_some (h : descriptorWrites uniformBuffer textures = some writes) :
    writeDescriptorSet set uniformBuffer textures = (true, updateDescriptorSets set writes) := by
  simp only [writeDescriptorSet, h]

theorem writeDescriptorSet_of_none (h : descriptorWrites uniformBuffer textures = none) :
    writeDescriptorSet set uniformBuffer textures = (false, set) := by
  simp only [writeDescriptorSet, h]

/-- The loop gives up exactly if there is a texture without a view. -/
theorem textureWrites_eq_none_iff :
    textureWrites textures = none ↔ ∃ texture ∈ textures, texture.imageView = none := by
  induction textures with
  | nil => simp [textureWrites]
  | cons texture textures ih =>
    cases hview : texture.imageView with
    | none => simp [textureWrites, textureWrite, imageInfo, hview]
    | some view =>
      obtain ⟨info, hinfo⟩ := exists_imageInfo (Option.isSome_iff_exists.mpr ⟨view, hview⟩)
      rw [textureWrites_cons hinfo, Option.map_eq_none_iff, ih]
      simp [hview]

/-! ### What a step does -/

/-- Writing either performs all writes or does nothing. -/
theorem writeParameterBlock_cases (s : State) (b : Nat) (pblock : VulkanParameterBlock)
    (set : DescriptorSet) :
    (∃ writes, descriptorWrites pblock.uniformBuffer (s.texturesOf pblock.textures) = some writes ∧
      s.writeParameterBlock b pblock set =
        ({ pblock with descriptorSet := some (updateDescriptorSets set writes), written := true },
          { s with updates := s.updates ++ [(b, writes)] })) ∨
    (descriptorWrites pblock.uniformBuffer (s.texturesOf pblock.textures) = none ∧
      s.writeParameterBlock b pblock set =
        ({ pblock with descriptorSet := some set, written := false }, s)) := by
  cases h : descriptorWrites pblock.uniformBuffer (s.texturesOf pblock.textures) with
  | some writes =>
    refine .inl ⟨writes, rfl, ?_⟩
    simp only [State.writeParameterBlock, writeDescriptorSet_of_some h, h, Option.map_some,
      Option.toList_some]
  | none =>
    refine .inr ⟨rfl, ?_⟩
    simp only [State.writeParameterBlock, writeDescriptorSet_of_none h, h, Option.map_none,
      Option.toList_none, List.append_nil]

/-- The block once its set holds these writes. -/
def VulkanParameterBlock.filled (pblock : VulkanParameterBlock) (writes : List DescriptorWrite) :
    VulkanParameterBlock :=
  { pblock with descriptorSet := some (updateDescriptorSets newSet writes), written := true }

/-- What would be written for the block now. -/
def State.writesFor (s : State) (pblock : VulkanParameterBlock) : Option (List DescriptorWrite) :=
  descriptorWrites pblock.uniformBuffer (s.texturesOf pblock.textures)

/-- Nothing has been written to the set of the block, if it has one. -/
structure Unwritten (pblock : VulkanParameterBlock) : Prop where
  not_written : pblock.written = false
  empty : ∀ set, pblock.descriptorSet = some set → set = newSet

structure Inv (s : State) : Prop where
  /-- a block is written if and only if there is an update for it, which is all that its set holds -/
  accounted : ∀ b pblock, s.parameterBlocks[b]? = some pblock →
    (Unwritten pblock ∧ ∀ u ∈ s.updates, u.1 ≠ b) ∨
      ∃ writes, (b, writes) ∈ s.updates ∧ pblock.filled writes = pblock
  updates_lt : ∀ u ∈ s.updates, u.1 < s.parameterBlocks.length
  updates_nodup : (s.updates.map Prod.fst).Nodup
  bound_ready : ∀ b ∈ s.bound, ∃ pblock, s.parameterBlocks[b]? = some pblock ∧
    (pblock.descriptorSet.isSome → pblock.written = true)

def Action.AddsTexture : Action → Prop
  | .allocateTexture .. | .createTexture .. => True
  | .createTextureImpl .. | .createParameterBlock _ | .getDescriptorSet _ => False

/-- What a step does: it adds a texture, or replaces the image of one, or makes a block that is
written or not, or binds a block that may have to be written first. -/
inductive Step (s : State) : Action → State → Prop where
  | addTexture {a : Action} {t : State} {texture : DeviceTexture} (ha : a.AddsTexture)
      (htextures : t.textures = s.textures ++ [texture])
      (hblocks : t.parameterBlocks = s.parameterBlocks) (hupdates : t.updates = s.updates)
      (hbound : t.bound = s.bound) : Step s a t
  | recreate {k : Nat} {format : Format} {usage : ImageUsageFlags} (hk : k < s.textures.length) :
      Step s (.createTextureImpl k format usage) (s.recreateTexture k format usage)
  | create {data : ParameterBlockData} {t : State} {pblock : VulkanParameterBlock}
      (htextures : t.textures = s.textures)
      (hhandles : ∀ k ∈ pblock.textures, k < s.textures.length)
      (hnone : data.layout.isSome → ∃ texture ∈ s.texturesOf data.textures, texture.imageView = none)
      (hblocks : t.parameterBlocks = s.parameterBlocks ++ [pblock]) (hnew : Unwritten pblock)
      (hupdates : t.updates = s.updates) (hbound : t.bound = s.bound) :
      Step s (.createParameterBlock data) t
  | createWritten {data : ParameterBlockData} {t : State} {pblock : VulkanParameterBlock}
      {writes : List DescriptorWrite} (htextures : t.textures = s.textures)
      (hhandles : ∀ k ∈ pblock.textures, k < s.textures.length) (hlayout : data.layout.isSome)
      (hdata : pblock.textures = data.textures) (hwrites : s.writesFor pblock = some writes)
      (hblocks : t.parameterBlocks = s.parameterBlocks ++ [pblock.filled writes])
      (hupdates : t.updates = s.updates ++ [(s.parameterBlocks.length, writes)])
      (hbound : t.bound = s.bound) : Step s (.createParameterBlock data) t
  | bind {b : Nat} {pblock : VulkanParameterBlock} (hb : s.parameterBlocks[b]? = some pblock)
      (hready : pblock.descriptorSet.isSome → pblock.written = true) :
      Step s (.getDescriptorSet b) { s with bound := s.bound ++ [b] }
  | write {b : Nat} {pblock : VulkanParameterBlock} {writes : List DescriptorWrite}
      (hb : s.parameterBlocks[b]? = some pblock) (hnot : Unwritten pblock)
      (hset : pblock.descriptorSet.isSome) (hwrites : s.writesFor pblock = some writes) :
      Step s (.getDescriptorSet b)
        { s with
          parameterBlocks := s.parameterBlocks.set b (pblock.filled writes)
          updates := s.updates ++ [(b, writes)]
          bound := s.bound ++ [b] }

theorem descriptorWrites_eq_none_iff : descriptorWrites uniformBuffer textures = none ↔
    ∃ texture ∈ textures, texture.imageView = none :=
  Option.map_eq_none_iff.trans textureWrites_eq_none_iff

theorem step_createParameterBlock {data : ParameterBlockData}
    (hhandles : ∀ k ∈ data.textures, k < s.textures.length) :
    Step s (.createParameterBlock data) (s.createParameterBlock data) := by
  unfold State.createParameterBlock
  cases hlayout : data.layout with
  | none =>
    exact .create rfl (by simp) (by simp [hlayout]) rfl ⟨rfl, by simp⟩ rfl rfl
  | some layout =>
    obtain ⟨writes, hwrites, heq⟩ | ⟨hnone, heq⟩ :=
      writeParameterBlock_cases s s.parameterBlocks.length
        { uniformBuffer :=
            if !layout.pushConstantRange.isSome && !data.uniformData.isEmpty then
              some { size := .ofNat data.uniformData.length, buffer := s.buffers } else none
          textures := data.textures
          pushConstantData := if layout.pushConstantRange.isSome then data.uniformData else [] } newSet
    · simp only [heq]
      exact .createWritten rfl hhandles (by rw [hlayout]; rfl) rfl hwrites rfl rfl rfl
    · simp only [heq]
      exact .create rfl hhandles (fun _ => descriptorWrites_eq_none_iff.mp hnone) rfl
        ⟨rfl, fun set hset => (Option.some.inj hset).symm⟩ rfl rfl

theorem step_getDescriptorSet (hs : Inv s) (hb : s.parameterBlocks[b]? = some pblock)
    (h : s.getDescriptorSet b pblock = some t) : Step s (.getDescriptorSet b) t := by
  obtain ⟨u, hu, rfl⟩ := Option.map_eq_some_iff.mp h
  unfold State.initParameterBlock at hu
  split at hu
  · rename_i descriptorSet hset hnot
    obtain ⟨hunwritten, -⟩ | ⟨writes, -, hfilled⟩ := hs.accounted b pblock hb
    · obtain rfl := hunwritten.empty _ hset
      obtain ⟨writes, hwrites, heq⟩ | ⟨-, heq⟩ := writeParameterBlock_cases s b pblock newSet
      · simp only [heq, if_true] at hu
        obtain rfl := Option.some.inj hu
        exact .write hb hunwritten (by rw [hset]; rfl) hwrites
      · simp [heq] at hu
    · rw [← hfilled] at hnot
      exact absurd hnot (by simp [VulkanParameterBlock.filled])
  · rename_i hother
    obtain rfl := Option.some.inj hu
    refine .bind hb fun hset => ?_
    obtain ⟨descriptorSet, hset⟩ := Option.isSome_iff_exists.mp hset
    by_contra hnot
    exact hother descriptorSet hset (by simpa using hnot)

theorem step_of_eq_some (hs : Inv s) (h : s.step a = some t) : Step s a t := by
  cases a with
  | allocateTexture format sampler =>
    obtain rfl := Option.some.inj h
    exact .addTexture trivial rfl rfl rfl rfl
  | createTexture format sampler usage =>
    obtain rfl := Option.some.inj h
    unfold State.createTexture State.createTextureImpl
    dsimp only
    split <;> exact .addTexture trivial rfl rfl rfl rfl
  | createTextureImpl k format usage =>
    obtain ⟨hk, h⟩ := Option.ite_none_right_eq_some.mp h
    obtain rfl := Option.some.inj h
    exact .recreate hk
  | createParameterBlock data =>
    obtain ⟨hhandles, h⟩ := Option.ite_none_right_eq_some.mp h
    obtain rfl := Option.some.inj h
    exact step_createParameterBlock hhandles
  | getDescriptorSet b =>
    obtain ⟨pblock, hb, h⟩ := Option.bind_eq_some_iff.mp h
    exact step_getDescriptorSet hs hb h

/-! ### Each set is written once -/

theorem inv_init : Inv {} := by
  constructor <;> simp

theorem recreateTexture_frame (s : State) (k : Nat) (format : Format) (usage : ImageUsageFlags) :
    (s.recreateTexture k format usage).parameterBlocks = s.parameterBlocks ∧
      (s.recreateTexture k format usage).updates = s.updates ∧
      (s.recreateTexture k format usage).bound = s.bound := by
  unfold State.recreateTexture State.createTextureImpl
  dsimp only
  split <;> exact ⟨rfl, rfl, rfl⟩

/-- Steps that leave the blocks alone. -/
theorem Inv.of_same (hs : Inv s) (hblocks : t.parameterBlocks = s.parameterBlocks)
    (hupdates : t.updates = s.updates) (hbound : t.bound = s.bound) : Inv t := by
  constructor
  · rw [hblocks, hupdates]
    exact hs.accounted
  · rw [hblocks, hupdates]
    exact hs.updates_lt
  · rw [hupdates]
    exact hs.updates_nodup
  · rw [hblocks, hbound]
    exact hs.bound_ready

/-- The blocks of the old state keep what has been said of them when others are updated. -/
theorem Inv.accounted_of_ne (hs : Inv s) (hb : s.parameterBlocks[b]? = some pblock)
    {updates : List (Nat × List DescriptorWrite)} (hupdates : ∀ u ∈ updates, u.1 ≠ b) :
    (Unwritten pblock ∧ ∀ u ∈ s.updates ++ updates, u.1 ≠ b) ∨
      ∃ writes, (b, writes) ∈ s.updates ++ updates ∧ pblock.filled writes = pblock := by
  obtain ⟨hunwritten, hnone⟩ | ⟨writes, hmem, hrest⟩ := hs.accounted b pblock hb
  · refine .inl ⟨hunwritten, fun u hu => ?_⟩
    exact (List.mem_append.mp hu).elim (hnone u) (hupdates u)
  · exact .inr ⟨writes, List.mem_append_left _ hmem, hrest⟩

/-- No update has been made for a block that is not written or does not exist yet. -/
theorem Inv.nodup_concat (hs : Inv s) (hnone : ∀ u ∈ s.updates, u.1 ≠ b) :
    ((s.updates ++ [(b, writes)]).map Prod.fst).Nodup := by
  rw [List.map_append, List.map_cons, List.map_nil, ← List.concat_eq_append, List.nodup_concat]
  refine ⟨?_, hs.updates_nodup⟩
  intro hmem
  obtain ⟨u, hu, heq⟩ := List.mem_map.mp hmem
  exact hnone u hu heq

/-- A new block comes unwritten, or with the one update for it. -/
theorem Inv.append (hs : Inv s) {updates : List (Nat × List DescriptorWrite)}
    (hblocks : t.parameterBlocks = s.parameterBlocks ++ [pblock])
    (hupdates : t.updates = s.updates ++ updates) (hbound : t.bound = s.bound)
    (hnew : (Unwritten pblock ∧ updates = []) ∨
      ∃ writes, updates = [(s.parameterBlocks.length, writes)] ∧ pblock.filled writes = pblock) :
    Inv t := by
  have hown : ∀ u ∈ updates, u.1 = s.parameterBlocks.length := by
    obtain ⟨-, rfl⟩ | ⟨writes, rfl, -⟩ := hnew
    · simp
    · simp
  have hnone : ∀ u ∈ s.updates, u.1 ≠ s.parameterBlocks.length :=
    fun u hu => Nat.ne_of_lt (hs.updates_lt u hu)
  constructor
  · intro b pblock' hb
    rw [hblocks, List.getElem?_append] at hb
    rw [hupdates]
    split_ifs at hb with hlt
    · exact hs.accounted_of_ne hb fun u hu => hown u hu ▸ Nat.ne_of_gt hlt
    · obtain ⟨rfl, rfl⟩ : b = s.parameterBlocks.length ∧ pblock = pblock' := by
        rw [List.getElem?_singleton] at hb
        split_ifs at hb with h0
        exact ⟨by omega, Option.some.inj hb⟩
      obtain ⟨hunwritten, rfl⟩ | ⟨writes, rfl, hrest⟩ := hnew
      · rw [List.append_nil]
        exact .inl ⟨hunwritten, hnone⟩
      · exact .inr ⟨writes, List.mem_append_right _ (List.mem_singleton_self _), hrest⟩
  · intro u hu
    rw [hblocks, List.length_append, List.length_singleton]
    rw [hupdates] at hu
    obtain hu | hu := List.mem_append.mp hu
    · exact Nat.lt_succ_of_lt (hs.updates_lt u hu)
    · exact hown u hu ▸ Nat.lt_succ_self _
  · rw [hupdates]
    obtain ⟨-, rfl⟩ | ⟨writes, rfl, -⟩ := hnew
    · rw [List.append_nil]
      exact hs.updates_nodup
    · exact hs.nodup_concat hnone
  · intro b hb
    obtain ⟨pblock', hb', hready⟩ := hs.bound_ready b (hbound ▸ hb)
    refine ⟨pblock', ?_, hready⟩
    rw [hblocks, List.getElem?_append_left (List.getElem?_eq_some_iff.mp hb').1, hb']

/-- Nothing has been written for a block that is unwritten. -/
theorem Inv.none_of_unwritten (hs : Inv s) (hb : s.parameterBlocks[b]? = some pblock)
    (hnot : Unwritten pblock) : ∀ u ∈ s.updates, u.1 ≠ b := by
  obtain ⟨-, hnone⟩ | ⟨ws, -, hfilled⟩ := hs.accounted b pblock hb
  · exact hnone
  · have hwritten := hnot.not_written
    rw [← hfilled] at hwritten
    exact absurd hwritten (by simp [VulkanParameterBlock.filled])

theorem Inv.step (hs : Inv s) (hstep : Step s a t) : Inv t := by
  cases hstep with
  | addTexture _ _ hblocks hupdates hbound => exact hs.of_same hblocks hupdates hbound
  | @recreate k format usage hk =>
    obtain ⟨hblocks, hupdates, hbound⟩ := recreateTexture_frame s k format usage
    exact hs.of_same hblocks hupdates hbound
  | create _ _ _ hblocks hnew hupdates hbound =>
    exact hs.append hblocks (hupdates.trans (List.append_nil _).symm) hbound (.inl ⟨hnew, rfl⟩)
  | @createWritten _ _ pblock writes _ _ _ _ hwrites hblocks hupdates hbound =>
    exact hs.append hblocks hupdates hbound (.inr ⟨writes, rfl, rfl⟩)
  | @bind b pblock hb hready =>
    refine { hs with bound_ready := ?_ }
    intro b' hb'
    obtain hb' | hb' := List.mem_append.mp hb'
    · exact hs.bound_ready b' hb'
    · obtain rfl := List.mem_singleton.mp hb'
      exact ⟨pblock, hb, hready⟩
  | @write b pblock writes hb hnot hset hwrites =>
    have hlt : b < s.parameterBlocks.length := (List.getElem?_eq_some_iff.mp hb).1
    have hnone : ∀ u ∈ s.updates, u.1 ≠ b := hs.none_of_unwritten hb hnot
    constructor
    · intro b' pblock' hb'
      dsimp only at hb' ⊢
      rw [List.getElem?_set] at hb'
      split_ifs at hb' with heq
      · obtain rfl := Option.some.inj hb'
        subst heq
        exact .inr ⟨writes, List.mem_append_right _ (List.mem_singleton_self _), rfl⟩
      · refine hs.accounted_of_ne hb' ?_
        rintro u hu
        obtain rfl := List.mem_singleton.mp hu
        exact heq
    · intro u hu
      rw [List.length_set]
      obtain hu | hu := List.mem_append.mp hu
      · exact hs.updates_lt u hu
      · obtain rfl := List.mem_singleton.mp hu
        exact hlt
    · exact hs.nodup_concat hnone
    · intro b' hb'
      dsimp only at hb' ⊢
      by_cases heq : b = b'
      · subst heq
        exact ⟨pblock.filled writes, List.getElem?_set_self hlt, fun _ => rfl⟩
      · rw [List.getElem?_set_ne heq]
        obtain hb' | hb' := List.mem_append.mp hb'
        · exact hs.bound_ready b' hb'
        · exact absurd (List.mem_singleton.mp hb').symm heq

theorem Inv.of_reachable (hr : Reachable State.step {} s) : Inv s :=
  hr.invariant (fun _ _ _ hs h => hs.step (step_of_eq_some hs h)) inv_init

/-- A block that has been bound stays as it is, and nothing is written to its set any more. -/
theorem Inv.bound_frame (hs : Inv s) (hstep : Step s a t) (hb : b ∈ s.bound) :
    t.parameterBlocks[b]? = s.parameterBlocks[b]? ∧ ∀ u ∈ t.updates, u.1 = b → u ∈ s.updates := by
  obtain ⟨pblock, hpblock, hready⟩ := hs.bound_ready b hb
  have hlt : b < s.parameterBlocks.length := (List.getElem?_eq_some_iff.mp hpblock).1
  cases hstep with
  | addTexture _ _ hblocks hupdates _ => exact ⟨by rw [hblocks], fun u hu _ => hupdates ▸ hu⟩
  | create _ _ _ hblocks _ hupdates _ =>
    exact ⟨by rw [hblocks, List.getElem?_append_left hlt], fun u hu _ => hupdates ▸ hu⟩
  | @recreate k format usage hk =>
    obtain ⟨hblocks, hupdates, -⟩ := recreateTexture_frame s k format usage
    exact ⟨by rw [hblocks], fun u hu _ => hupdates ▸ hu⟩
  | createWritten _ _ _ _ _ hblocks hupdates _ =>
    refine ⟨by rw [hblocks, List.getElem?_append_left hlt], fun u hu heq => ?_⟩
    rw [hupdates] at hu
    obtain hu | hu := List.mem_append.mp hu
    · exact hu
    · obtain rfl := List.mem_singleton.mp hu
      exact absurd heq (Nat.ne_of_gt hlt)
  | bind => exact ⟨rfl, fun u hu _ => hu⟩
  | @write b' pblock' writes hb' hnot hset hwrites =>
    -- a bound block with a set is written
    have hne : b' ≠ b := by
      rintro rfl
      obtain rfl : pblock = pblock' := Option.some.inj (hpblock.symm.trans hb')
      have hwritten := hready hset
      rw [hnot.not_written] at hwritten
      exact absurd hwritten (by simp)
    refine ⟨List.getElem?_set_ne hne, fun u hu heq => ?_⟩
    obtain hu | hu := List.mem_append.mp hu
    · exact hu
    · obtain rfl := List.mem_singleton.mp hu
      exact absurd heq hne

/-- The blocks there are keep their uniform buffers and their textures. -/
theorem Step.keeps (hstep : Step s a t) (hb : s.parameterBlocks[b]? = some pblock) :
    ∃ pblock', t.parameterBlocks[b]? = some pblock' ∧
      pblock'.uniformBuffer = pblock.uniformBuffer ∧ pblock'.textures = pblock.textures := by
  have hlt : b < s.parameterBlocks.length := (List.getElem?_eq_some_iff.mp hb).1
  cases hstep with
  | addTexture _ _ hblocks _ _ => exact ⟨pblock, hblocks ▸ hb, rfl, rfl⟩
  | @recreate k format usage hk =>
    exact ⟨pblock, (recreateTexture_frame s k format usage).1 ▸ hb, rfl, rfl⟩
  | create _ _ _ hblocks _ _ _ =>
    exact ⟨pblock, by rw [hblocks, List.getElem?_append_left hlt, hb], rfl, rfl⟩
  | createWritten _ _ _ _ _ hblocks _ _ =>
    exact ⟨pblock, by rw [hblocks, List.getElem?_append_left hlt, hb], rfl, rfl⟩
  | bind => exact ⟨pblock, hb, rfl, rfl⟩
  | @write b' pblock' writes hb' hnot hset hwrites =>
    by_cases heq : b' = b
    · subst heq
      obtain rfl := Option.some.inj (hb.symm.trans hb')
      exact ⟨_, List.getElem?_set_self hlt, rfl, rfl⟩
    · exact ⟨pblock, (List.getElem?_set_ne heq).trans hb, rfl, rfl⟩

/-- What a step writes, it writes for one block, with its textures as they are. -/
theorem Step.updates (hstep : Step s a t) : t.updates = s.updates ∨
    t.textures = s.textures ∧ ∃ b pblock writes, t.updates = s.updates ++ [(b, writes)] ∧
      t.parameterBlocks[b]? = some (pblock.filled writes) ∧ s.writesFor pblock = some writes := by
  cases hstep with
  | addTexture _ _ _ hupdates _ => exact .inl hupdates
  | @recreate k format usage hk => exact .inl (recreateTexture_frame s k format usage).2.1
  | create _ _ _ _ _ hupdates _ => exact .inl hupdates
  | createWritten htextures _ _ _ hwrites hblocks hupdates _ =>
    exact .inr ⟨htextures, _, _, _, hupdates, by rw [hblocks, List.getElem?_concat_length], hwrites⟩
  | bind => exact .inl rfl
  | write hb _ _ hwrites =>
    have hlt := (List.getElem?_eq_some_iff.mp hb).1
    exact .inr ⟨rfl, _, _, _, rfl, List.getElem?_set_self hlt, hwrites⟩

theorem texture_eq_of_textures (h : t.textures = s.textures) (k : Nat) : t.texture k = s.texture k := by
  rw [State.texture, State.texture, h]

theorem texturesOf_congr {textures : List Nat} (h : ∀ k ∈ textures, t.texture k = s.texture k) :
    t.texturesOf textures = s.texturesOf textures :=
  List.map_congr_left fun k hk => congrArg DeviceTexture.toVulkanTexture (h k hk)

/-- The update has been made in a state on the way to `s`, with what the textures of its block were
there. -/
def Recorded (s : State) (update : Nat × List DescriptorWrite) : Prop :=
  (s.parameterBlocks[update.1]?).isSome ∧ ∀ pblock, s.parameterBlocks[update.1]? = some pblock →
    ∃ u, Reachable State.step {} u ∧ Reachable State.step u s ∧
      u.updates.getLast? = some update ∧
      WritesAll pblock.uniformBuffer (u.texturesOf pblock.textures) update.2

theorem Recorded.step {update : Nat × List DescriptorWrite} (hu : Recorded s update)
    (h : s.step a = some t) (hstep : Step s a t) : Recorded t update := by
  obtain ⟨hsome, hrecorded⟩ := hu
  obtain ⟨pblock, hb⟩ := Option.isSome_iff_exists.mp hsome
  obtain ⟨u, hinit, hreach, hlast, hwrites⟩ := hrecorded pblock hb
  obtain ⟨pblock', hb', hbuffer, htextures⟩ := hstep.keeps hb
  refine ⟨by rw [hb']; rfl, fun pblock'' hb'' => ⟨u, hinit, hreach.tail h, hlast, ?_⟩⟩
  obtain rfl := Option.some.inj (hb'.symm.trans hb'')
  rw [hbuffer, htextures]
  exact hwrites

theorem recorded_of_reachable (hr : Reachable State.step {} s) :
    ∀ update ∈ s.updates, Recorded s update := by
  have hinv : Reachable State.step {} s ∧ Inv s ∧ ∀ update ∈ s.updates, Recorded s update := by
    refine hr.invariant (I := fun s => Reachable State.step {} s ∧ Inv s ∧
      ∀ update ∈ s.updates, Recorded s update) ?_ ⟨⟨[], rfl⟩, inv_init, by simp⟩
    rintro s a t ⟨hr, hs, hrecorded⟩ h
    have hstep := step_of_eq_some hs h
    refine ⟨hr.tail h, hs.step hstep, fun update hmem => ?_⟩
    obtain hupdates | ⟨htextures, b, pblock, writes, hupdates, hb, hwrites⟩ := hstep.updates
    · exact (hrecorded update (hupdates ▸ hmem)).step h hstep
    · rw [hupdates] at hmem
      obtain hmem | hmem := List.mem_append.mp hmem
      · exact (hrecorded update hmem).step h hstep
      · obtain rfl := List.mem_singleton.mp hmem
        refine ⟨by rw [hb]; rfl, fun pblock' hb' => ⟨t, hr.tail h, ⟨[], rfl⟩, ?_, ?_⟩⟩
        · rw [hupdates, List.getLast?_concat]
        · obtain rfl := Option.some.inj (hb.symm.trans hb')
          have hsame : t.texturesOf pblock.textures = s.texturesOf pblock.textures :=
            texturesOf_congr fun k _ => texture_eq_of_textures htextures k
          exact writesAll_of_eq_some (hsame ▸ hwrites)
  exact hinv.2.2

/-- Binding fails exactly if the set has yet to be written and a texture has no view. -/
theorem getDescriptorSet_eq_none_iff (hb : s.parameterBlocks[b]? = some pblock) :
    s.step (.getDescriptorSet b) = none ↔ pblock.descriptorSet.isSome ∧ pblock.written = false ∧
      ∃ texture ∈ s.texturesOf pblock.textures, texture.imageView = none := by
  simp only [State.step, hb, Option.bind_some, State.getDescriptorSet, Option.map_eq_none_iff]
  unfold State.initParameterBlock
  split
  · rename_i descriptorSet hset hnot
    rw [hset, hnot]
    obtain ⟨writes, hwrites, heq⟩ | ⟨hnone, heq⟩ :=
      writeParameterBlock_cases s b pblock descriptorSet
    · have hviews : ¬ ∃ texture ∈ s.texturesOf pblock.textures, texture.imageView = none := by
        rw [← descriptorWrites_eq_none_iff, hwrites]
        simp
      simp only [heq, if_true]
      exact iff_of_false (by simp) fun h => hviews h.2.2
    · simp only [heq, Bool.false_eq_true, if_false]
      refine iff_of_true trivial ⟨rfl, trivial, ?_⟩
      exact descriptorWrites_eq_none_iff.mp hnone
  · rename_i hother
    refine iff_of_false (by simp) ?_
    rintro ⟨hset, hnot, -⟩
    obtain ⟨descriptorSet, hset⟩ := Option.isSome_iff_exists.mp hset
    exact hother descriptorSet hset hnot

/-- A block with a texture that has no view is bound once the texture has got one. -/
def lateView : List Action :=
  [.allocateTexture .byte4Norm 0,
    .createParameterBlock { layout := some {}, uniformData := [1, 2], textures := [0] },
    .createTextureImpl 0 .byte4Norm {.transferDst, .sampled}, .getDescriptorSet 0,
    .getDescriptorSet 0]

/-- The view, if there is one, is a view of the image that the texture has now. -/
def DeviceTexture.ViewCurrent (texture : DeviceTexture) : Prop :=
  texture.viewedImage = texture.image

/-- These writes are what would be written for the block now, and the views are of the images that its
textures have now. -/
def State.BlockCurrent (s : State) (pblock : VulkanParameterBlock) (writes : List DescriptorWrite) :
    Prop :=
  s.writesFor pblock = some writes ∧ ∀ k ∈ pblock.textures, (s.texture k).ViewCurrent

/-- What has been written for the blocks is current. -/
def ViewsCurrent (s : State) : Prop :=
  ∀ b pblock writes, s.parameterBlocks[b]? = some pblock → (b, writes) ∈ s.updates →
    s.BlockCurrent pblock writes

/-- No image is replaced that a written block uses, and no block is written with a view of an image that
has been replaced. -/
def LeavesViewsCurrent (s : State) : Action → Prop
  | .createTextureImpl k _ _ => ∀ pblock ∈ s.parameterBlocks, pblock.written = true →
      k ∉ pblock.textures
  | .createParameterBlock data => data.layout.isSome →
      (∀ texture ∈ s.texturesOf data.textures, texture.imageView.isSome) →
      ∀ k ∈ data.textures, (s.texture k).ViewCurrent
  | .getDescriptorSet b => ∀ pblock ∈ s.parameterBlocks[b]?, pblock.descriptorSet.isSome →
      pblock.written = false → (∀ texture ∈ s.texturesOf pblock.textures, texture.imageView.isSome) →
      ∀ k ∈ pblock.textures, (s.texture k).ViewCurrent
  | .allocateTexture .. | .createTexture .. => True

instance : ∀ s a, Decidable (LeavesViewsCurrent s a)
  | s, .createTextureImpl k _ _ => inferInstanceAs
      (Decidable (∀ pblock ∈ s.parameterBlocks, pblock.written = true → k ∉ pblock.textures))
  | s, .createParameterBlock data => inferInstanceAs (Decidable (data.layout.isSome →
      (∀ texture ∈ s.texturesOf data.textures, texture.imageView.isSome) →
      ∀ k ∈ data.textures, (s.texture k).viewedImage = (s.texture k).image))
  | s, .getDescriptorSet b => inferInstanceAs (Decidable (∀ pblock ∈ s.parameterBlocks[b]?,
      pblock.descriptorSet.isSome → pblock.written = false →
      (∀ texture ∈ s.texturesOf pblock.textures, texture.imageView.isSome) →
      ∀ k ∈ pblock.textures, (s.texture k).viewedImage = (s.texture k).image))
  | _, .allocateTexture .. => .isTrue trivial
  | _, .createTexture .. => .isTrue trivial

/-- The images and views that textures have are among those created so far, and the textures of blocks
are among those that there are. -/
structure Fresh (s : State) : Prop where
  views : ∀ texture ∈ s.textures, ∀ view, texture.imageView = some view → view < s.views
  images : ∀ texture ∈ s.textures, ∀ image, texture.viewedImage = some image → image < s.images
  handles : ∀ pblock ∈ s.parameterBlocks, ∀ k ∈ pblock.textures, k < s.textures.length

/-- `CreateTextureImpl` gives a texture a new image, and a new view of it if the usage asks for one. -/
theorem createTextureImpl_cases (s : State) (texture : DeviceTexture) :
    ∃ usage, (s.createTextureImpl texture =
        ({ texture with
            usage := usage
            image := some s.images
            imageView := some s.views
            viewedImage := some s.images },
          { s with images := s.images + 1, views := s.views + 1 })) ∨
      s.createTextureImpl texture =
        ({ texture with usage := usage, image := some s.images },
          { s with images := s.images + 1 }) := by
  refine ⟨insert .transferSrc texture.usage, ?_⟩
  unfold State.createTextureImpl
  dsimp only
  split
  · exact .inl rfl
  · exact .inr rfl

theorem texture_of_mem {k : Nat} (hk : k < s.textures.length) : s.texture k ∈ s.textures := by
  rw [State.texture, List.getElem?_eq_getElem hk, Option.getD_some]
  exact List.getElem_mem hk

/-- A texture that is made from one with known numbers has known numbers. -/
theorem createTextureImpl_fresh (texture : DeviceTexture)
    (hview : ∀ view, texture.imageView = some view → view < s.views)
    (himage : ∀ image, texture.viewedImage = some image → image < s.images) :
    let r := s.createTextureImpl texture
    (∀ view, r.1.imageView = some view → view < r.2.views) ∧
      (∀ image, r.1.viewedImage = some image → image < r.2.images) ∧
      s.views ≤ r.2.views ∧ s.images ≤ r.2.images ∧ r.2.textures = s.textures ∧
      r.2.parameterBlocks = s.parameterBlocks ∧ r.2.updates = s.updates := by
  obtain ⟨usage, heq | heq⟩ := createTextureImpl_cases s texture
  · rw [heq]
    refine ⟨?_, ?_, Nat.le_succ _, Nat.le_succ _, rfl, rfl, rfl⟩
    · rintro view h
      exact Option.some.inj h ▸ Nat.lt_succ_self _
    · rintro image h
      exact Option.some.inj h ▸ Nat.lt_succ_self _
  · rw [heq]
    exact ⟨hview, fun image h => Nat.lt_succ_of_lt (himage image h), Nat.le_refl _, Nat.le_succ _, rfl,
      rfl, rfl⟩

theorem fresh_init : Fresh {} := by
  constructor <;> simp

theorem Fresh.of_blocks (hf : Fresh s) (htextures : t.textures = s.textures)
    (hviews : t.views = s.views) (himages : t.images = s.images)
    (hblocks : ∀ pblock ∈ t.parameterBlocks, ∀ k ∈ pblock.textures, k < s.textures.length) :
    Fresh t := by
  constructor
  · rw [htextures, hviews]
    exact hf.views
  · rw [htextures, himages]
    exact hf.images
  · rw [htextures]
    exact hblocks

theorem createParameterBlock_frame (s : State) (data : ParameterBlockData) :
    (s.createParameterBlock data).textures = s.textures ∧
      (s.createParameterBlock data).views = s.views ∧
      (s.createParameterBlock data).images = s.images := by
  unfold State.createParameterBlock
  split <;> exact ⟨rfl, rfl, rfl⟩

/-- What the counters become when a texture is put in its place among the others. -/
theorem Fresh.of_texture (hf : Fresh s) {u : State} (texture : DeviceTexture)
    (hviews : s.views ≤ u.views) (himages : s.images ≤ u.images)
    (hview : ∀ view, texture.imageView = some view → view < u.views)
    (himage : ∀ image, texture.viewedImage = some image → image < u.images)
    (htviews : t.views = u.views) (htimages : t.images = u.images)
    (hmem : ∀ x ∈ t.textures, x = texture ∨ x ∈ s.textures)
    (hlength : s.textures.length ≤ t.textures.length)
    (hblocks : t.parameterBlocks = s.parameterBlocks) : Fresh t := by
  constructor
  · intro x hx view h
    rw [htviews]
    obtain rfl | hx := hmem x hx
    · exact hview view h
    · exact Nat.lt_of_lt_of_le (hf.views x hx view h) hviews
  · intro x hx image h
    rw [htimages]
    obtain rfl | hx := hmem x hx
    · exact himage image h
    · exact Nat.lt_of_lt_of_le (hf.images x hx image h) himages
  · intro pblock hpblock k hk
    exact Nat.lt_of_lt_of_le (hf.handles pblock (hblocks ▸ hpblock) k hk) hlength

theorem Fresh.step (hs : Inv s) (hf : Fresh s) (h : s.step a = some t) : Fresh t := by
  have hstep := step_of_eq_some hs h
  cases a with
  | allocateTexture format sampler =>
    obtain rfl := Option.some.inj h
    refine hf.of_texture (u := s) { format := format, sampler := sampler }
      (Nat.le_refl _) (Nat.le_refl _) (by simp) (by simp) rfl rfl ?_ ?_ rfl
    · intro x hx
      exact (List.mem_append.mp hx).symm.imp_left List.mem_singleton.mp
    · simp [State.allocateTexture]
  | createTexture format sampler usage =>
    obtain rfl := Option.some.inj h
    obtain ⟨hview, himage, hviews, himages, htextures, hblocks, -⟩ := createTextureImpl_fresh
      (s := s) { format := format, sampler := sampler, usage := usage } (by simp)
      (by simp)
    refine hf.of_texture _ hviews himages hview himage rfl rfl ?_ ?_ hblocks
    · intro x hx
      simp only [State.createTexture, htextures] at hx
      exact (List.mem_append.mp hx).symm.imp_left List.mem_singleton.mp
    · simp [State.createTexture, htextures]
  | createTextureImpl k format usage =>
    obtain ⟨hk, h⟩ := Option.ite_none_right_eq_some.mp h
    obtain rfl := Option.some.inj h
    have hmem := texture_of_mem hk
    obtain ⟨hview, himage, hviews, himages, htextures, hblocks, -⟩ := createTextureImpl_fresh
      (s := s) { s.texture k with format := format, usage := usage }
      (hf.views (s.texture k) hmem) (hf.images (s.texture k) hmem)
    refine hf.of_texture _ hviews himages hview himage rfl rfl ?_ ?_ hblocks
    · intro x hx
      simp only [State.recreateTexture, htextures] at hx
      exact (List.mem_or_eq_of_mem_set hx).symm
    · simp [State.recreateTexture, htextures]
  | createParameterBlock data =>
    obtain ⟨-, h⟩ := Option.ite_none_right_eq_some.mp h
    obtain rfl := Option.some.inj h
    obtain ⟨htextures, hviews, himages⟩ := createParameterBlock_frame s data
    refine hf.of_blocks htextures hviews himages ?_
    have hnew : ∀ pblock, (s.createParameterBlock data).parameterBlocks =
        s.parameterBlocks ++ [pblock] → (∀ k ∈ pblock.textures, k < s.textures.length) →
        ∀ pblock ∈ (s.createParameterBlock data).parameterBlocks, ∀ k ∈ pblock.textures,
          k < s.textures.length := by
      intro pblock hblocks hhandles pblock' hpblock
      rw [hblocks] at hpblock
      obtain hpblock | hpblock := List.mem_append.mp hpblock
      · exact hf.handles pblock' hpblock
      · exact List.mem_singleton.mp hpblock ▸ hhandles
    cases hstep with
    | addTexture ha => exact absurd ha id
    | create _ hhandles _ hblocks => exact hnew _ hblocks hhandles
    | createWritten _ hhandles _ _ _ hblocks => exact hnew _ hblocks hhandles
  | getDescriptorSet b =>
    cases hstep with
    | addTexture ha => exact absurd ha id
    | bind => exact hf.of_blocks rfl rfl rfl hf.handles
    | @write _ pblock _ hb =>
      refine hf.of_blocks rfl rfl rfl ?_
      intro pblock' hpblock
      obtain hpblock | rfl := List.mem_or_eq_of_mem_set hpblock
      · exact hf.handles pblock' hpblock
      · exact hf.handles pblock (List.mem_of_getElem? hb)

theorem textureWrites_eq_some_iff {writes : List DescriptorWrite} :
    textureWrites textures = some writes ↔ textures.map textureWrite = writes.map some := by
  induction textures generalizing writes with
  | nil => cases writes <;> simp [textureWrites]
  | cons texture textures ih =>
    simp only [textureWrites, Option.bind_eq_bind, Option.bind_eq_some_iff, Option.pure_def,
      Option.some.injEq, List.map_cons]
    constructor
    · rintro ⟨w, hw, ws, hws, rfl⟩
      rw [hw, ih.mp hws, List.map_cons]
    · intro h
      cases writes with
      | nil => simp at h
      | cons w ws =>
        obtain ⟨hw, hws⟩ := List.cons.inj h
        exact ⟨w, hw, ws, ih.mpr hws, rfl⟩

/-- What is written for a texture shows its view. -/
theorem textureWrite_eq_some {texture : VulkanTexture} {write : DescriptorWrite}
    (h : textureWrite texture = some write) : ∃ info, texture.imageView = some info.imageView ∧
      write = ⟨1, .combinedImageSampler, .image info⟩ := by
  obtain ⟨info, hinfo, rfl⟩ := Option.map_eq_some_iff.mp h
  obtain ⟨view, hview, rfl⟩ := Option.map_eq_some_iff.mp hinfo
  exact ⟨_, hview, rfl⟩

/-- Where the same is written before and after, the views are the same. -/
theorem view_eq_of_writesFor (hs : s.writesFor pblock = some writes)
    (ht : t.writesFor pblock = some writes) {k : Nat} (hk : k ∈ pblock.textures) :
    (t.texture k).imageView = (s.texture k).imageView ∧ (s.texture k).imageView.isSome := by
  obtain ⟨ws, hws, heq⟩ := Option.map_eq_some_iff.mp hs
  obtain ⟨ws', hws', heq'⟩ := Option.map_eq_some_iff.mp ht
  obtain rfl : ws' = ws := List.append_cancel_left (heq'.trans heq.symm)
  rw [textureWrites_eq_some_iff] at hws hws'
  have hmap := hws'.trans hws.symm
  rw [State.texturesOf, State.texturesOf, List.map_map, List.map_map] at hmap
  have hwrite : textureWrite (t.texture k).toVulkanTexture =
      textureWrite (s.texture k).toVulkanTexture := List.map_inj_left.mp hmap k hk
  have hmem : textureWrite (s.texture k).toVulkanTexture ∈ ws'.map some := by
    rw [← hws]
    exact List.mem_map_of_mem (List.mem_map_of_mem hk)
  obtain ⟨w, -, hw⟩ := List.mem_map.mp hmem
  obtain ⟨info, hview, rfl⟩ := textureWrite_eq_some hw.symm
  obtain ⟨info', hview', heq⟩ := textureWrite_eq_some (hwrite.trans hw.symm)
  obtain rfl : info = info' := by simpa using heq
  exact ⟨hview'.trans hview.symm, by rw [hview]; rfl⟩

/-- What is said of a block depends on its own textures only. -/
theorem writesFor_congr (h : ∀ k ∈ pblock.textures, t.texture k = s.texture k) :
    t.writesFor pblock = s.writesFor pblock := by
  rw [State.writesFor, State.writesFor, texturesOf_congr h]

theorem blockCurrent_congr (h : ∀ k ∈ pblock.textures, t.texture k = s.texture k) :
    t.BlockCurrent pblock writes ↔ s.BlockCurrent pblock writes := by
  unfold State.BlockCurrent
  rw [writesFor_congr h]
  refine and_congr_right fun _ => forall₂_congr fun k hk => ?_
  rw [h k hk]

/-- Steps that leave the blocks and their textures alone. -/
theorem viewsCurrent_congr (hblocks : t.parameterBlocks = s.parameterBlocks)
    (hupdates : t.updates = s.updates)
    (h : ∀ pblock ∈ s.parameterBlocks, ∀ k ∈ pblock.textures, t.texture k = s.texture k) :
    ViewsCurrent t ↔ ViewsCurrent s := by
  unfold ViewsCurrent
  rw [hblocks, hupdates]
  refine forall₄_congr fun b pblock writes hb => forall_congr' fun _ => ?_
  exact blockCurrent_congr (h pblock (List.mem_of_getElem? hb))

/-- Steps that write the set of the block numbered `b`, which nothing had been written to. -/
theorem viewsCurrent_of_write (hv : ViewsCurrent s) (htextures : t.textures = s.textures)
    (hnone : ∀ u ∈ s.updates, u.1 ≠ b) (hwrites : s.writesFor pblock = some writes)
    (hself : t.parameterBlocks[b]? = some (pblock.filled writes))
    (hother : ∀ b' < s.parameterBlocks.length, b' ≠ b →
      t.parameterBlocks[b']? = s.parameterBlocks[b']?)
    (hlt : ∀ u ∈ s.updates, u.1 < s.parameterBlocks.length)
    (hupdates : t.updates = s.updates ++ [(b, writes)]) :
    ViewsCurrent t ↔ ∀ k ∈ pblock.textures, (s.texture k).ViewCurrent := by
  have hlookup := texture_eq_of_textures htextures
  constructor
  · intro hvt k hk
    have hmem : (b, writes) ∈ t.updates :=
      hupdates ▸ List.mem_append_right _ (List.mem_singleton_self _)
    exact hlookup k ▸ (hvt b _ writes hself hmem).2 k hk
  · intro hcurrent b' pblock' writes' hb' hmem
    rw [hupdates] at hmem
    obtain hmem | hmem := List.mem_append.mp hmem
    · -- an older update is for another block
      have hne : b' ≠ b := hnone _ hmem
      rw [hother b' (hlt _ hmem) hne] at hb'
      exact (blockCurrent_congr fun k _ => hlookup k).mpr (hv b' pblock' writes' hb' hmem)
    · obtain ⟨rfl, rfl⟩ := Prod.mk.inj (List.mem_singleton.mp hmem)
      obtain rfl := Option.some.inj (hself.symm.trans hb')
      refine ⟨?_, fun k hk => (hlookup k).symm ▸ hcurrent k hk⟩
      exact (writesFor_congr fun k _ => hlookup k).trans hwrites

theorem createTextureImpl_textures (s : State) (texture : DeviceTexture) :
    (s.createTextureImpl texture).2.textures = s.textures := by
  obtain ⟨usage, heq | heq⟩ := createTextureImpl_cases s texture <;> rw [heq]

theorem texture_recreate {k k' : Nat} {format : Format} {usage : ImageUsageFlags} :
    (s.recreateTexture k format usage).texture k' =
      ((s.textures.set k (s.createTextureImpl
        { s.texture k with format := format, usage := usage }).1)[k']?).getD {} := by
  unfold State.recreateTexture
  exact congrArg (fun l => ((List.set l k _)[k']?).getD {}) (createTextureImpl_textures s _)

theorem texture_recreate_ne {k k' : Nat} {format : Format} {usage : ImageUsageFlags} (hne : k' ≠ k) :
    (s.recreateTexture k format usage).texture k' = s.texture k' := by
  rw [texture_recreate, List.getElem?_set_ne hne.symm]
  rfl

theorem texture_recreate_self {k : Nat} {format : Format} {usage : ImageUsageFlags}
    (hk : k < s.textures.length) : (s.recreateTexture k format usage).texture k =
      (s.createTextureImpl { s.texture k with format := format, usage := usage }).1 := by
  rw [texture_recreate, List.getElem?_set_self hk]
  rfl

/-- A block whose texture gets another image no longer holds the view of its image: either the view is
another one now, or the view that it has shows an older image. -/
theorem not_blockCurrent_recreate (hf : Fresh s) {k : Nat} {format : Format} {usage : ImageUsageFlags}
    (hk : k < s.textures.length) (hmem : k ∈ pblock.textures)
    (hs : s.writesFor pblock = some writes) :
    ¬ (s.recreateTexture k format usage).BlockCurrent pblock writes := by
  rintro ⟨ht, hcurrent⟩
  obtain ⟨hview, hsome⟩ := view_eq_of_writesFor hs ht hmem
  have hcurrent := hcurrent k hmem
  have htexture := texture_of_mem hk
  obtain ⟨usage', heq | heq⟩ :=
    createTextureImpl_cases s { s.texture k with format := format, usage := usage }
  · rw [texture_recreate_self hk, heq] at hview
    have hlt := hf.views _ htexture s.views hview.symm
    exact absurd hlt (Nat.lt_irrefl _)
  · rw [texture_recreate_self hk, heq] at hcurrent
    have hlt := hf.images _ htexture s.images hcurrent
    exact absurd hlt (Nat.lt_irrefl _)

/-- What is written has been written for textures that all have views. -/
theorem views_of_writesFor (h : s.writesFor pblock = some writes) :
    ∀ texture ∈ s.texturesOf pblock.textures, texture.imageView.isSome := by
  intro texture htexture
  by_contra hview
  have hnone : descriptorWrites pblock.uniformBuffer _ = none := descriptorWrites_eq_none_iff.mpr
    ⟨texture, htexture, Option.not_isSome_iff_eq_none.mp hview⟩
  rw [State.writesFor, hnone] at h
  exact absurd h (by simp)

/-- Whether what has been written stays current is decided step by step. -/
theorem viewsCurrent_step_iff (hs : Inv s) (hf : Fresh s) (hv : ViewsCurrent s)
    (hstep : Step s a t) : ViewsCurrent t ↔ LeavesViewsCurrent s a := by
  cases hstep with
  | addTexture ha htextures hblocks hupdates hbound =>
    have hleaves : LeavesViewsCurrent s a := by
      cases a <;> trivial
    refine iff_of_true ((viewsCurrent_congr hblocks hupdates ?_).mpr hv) hleaves
    intro pblock hpblock k hk
    rw [State.texture, State.texture, htextures,
      List.getElem?_append_left (hf.handles pblock hpblock k hk)]
  | @recreate k format usage hk =>
    obtain ⟨hblocks, hupdates, -⟩ := recreateTexture_frame s k format usage
    constructor
    · intro hvt pblock hpblock hwritten hmem
      obtain ⟨b, hb⟩ := List.mem_iff_getElem?.mp hpblock
      obtain ⟨hunwritten, -⟩ | ⟨writes, hupdate, -⟩ := hs.accounted b pblock hb
      · rw [hunwritten.not_written] at hwritten
        exact absurd hwritten (by simp)
      · exact not_blockCurrent_recreate hf hk hmem (hv b pblock writes hb hupdate).1
          (hvt b pblock writes (hblocks.symm ▸ hb) (hupdates.symm ▸ hupdate))
    · intro hleaves b pblock writes hb hupdate
      rw [hblocks] at hb
      rw [hupdates] at hupdate
      have hwritten : pblock.written = true := by
        obtain ⟨-, hnone⟩ | ⟨writes', -, hfilled⟩ := hs.accounted b pblock hb
        · exact absurd rfl (hnone _ hupdate)
        · rw [← hfilled]
          rfl
      have hnot := hleaves pblock (List.mem_of_getElem? hb) hwritten
      refine (blockCurrent_congr fun k' hk' => ?_).mpr (hv b pblock writes hb hupdate)
      exact texture_recreate_ne fun heq => hnot (heq ▸ hk')
  | create htextures _ hnone hblocks hnew hupdates _ =>
    refine iff_of_true ?_ ?_
    · intro b pblock writes hb hupdate
      rw [hupdates] at hupdate
      rw [hblocks, List.getElem?_append_left (hs.updates_lt _ hupdate)] at hb
      exact (blockCurrent_congr fun k _ => texture_eq_of_textures htextures k).mpr
        (hv b pblock writes hb hupdate)
    · intro hlayout hviews
      obtain ⟨texture, htexture, hview⟩ := hnone hlayout
      have hsome := hviews texture htexture
      rw [hview] at hsome
      exact absurd hsome (by simp)
  | @createWritten data _ pblock writes htextures hhandles hlayout hdata hwrites hblocks hupdates _ =>
    have hcurrent := viewsCurrent_of_write hv htextures
      (fun u hu => Nat.ne_of_lt (hs.updates_lt u hu)) hwrites
      (by rw [hblocks, List.getElem?_concat_length])
      (fun b' hlt _ => by rw [hblocks, List.getElem?_append_left hlt]) hs.updates_lt hupdates
    have hviews : ∀ texture ∈ s.texturesOf data.textures, texture.imageView.isSome :=
      hdata ▸ views_of_writesFor hwrites
    rw [hcurrent, hdata]
    exact ⟨fun h _ _ => h, fun h => h hlayout hviews⟩
  | bind hb hready =>
    refine iff_of_true hv ?_
    intro pblock' hpblock' hset hnot
    obtain rfl := Option.some.inj (hb.symm.trans hpblock')
    rw [hready hset] at hnot
    exact absurd hnot (by simp)
  | @write b pblock writes hb hnot hset hwrites =>
    have hlt : b < s.parameterBlocks.length := (List.getElem?_eq_some_iff.mp hb).1
    refine Iff.trans (viewsCurrent_of_write hv ?_ (hs.none_of_unwritten hb hnot) hwrites ?_ ?_
      hs.updates_lt ?_) ⟨?_, ?_⟩
    · rfl
    · exact List.getElem?_set_self hlt
    · exact fun b' _ hne => List.getElem?_set_ne hne.symm
    · rfl
    · intro h pblock' hpblock' _ _ _
      obtain rfl := Option.some.inj (hb.symm.trans hpblock')
      exact h
    · intro h
      exact h pblock hb hset hnot.not_written (views_of_writesFor hwrites)

/-- **Descriptors refer to what their textures are now if and only if no image is replaced behind them.**
Over a run of creating textures and parameter blocks, executing graphs and binding blocks, what has been
written to the sets is at all times what would be written now, with views of the images that the textures
have now, exactly if no step replaces the image of a texture that a written block uses, and none writes a
block with a view that was left over when the image of its texture was replaced. -/
theorem views_current_iff {as : List Action} (hrun : exec State.step {} as = some s) :
    Always State.step ViewsCurrent {} as ↔ Each State.step LeavesViewsCurrent {} as := by
  refine always_iff_each (I := fun s => Inv s ∧ Fresh s) ?_ ?_ ⟨inv_init, fresh_init⟩ ?_ hrun
  · rintro s a t ⟨hs, hf⟩ - hstep -
    exact ⟨hs.step (step_of_eq_some hs hstep), hf.step hs hstep⟩
  · rintro s a t ⟨hs, hf⟩ hv hstep
    exact viewsCurrent_step_iff hs hf hv (step_of_eq_some hs hstep)
  · intro b pblock writes hb
    simp at hb

theorem views_current_iff_lateView : Always State.step ViewsCurrent {} lateView :=
  (views_current_iff (rfl : exec State.step {} lateView = some _)).mpr (by decide)

end Teide.Descriptors
