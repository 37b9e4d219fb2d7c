import Mathlib.Algebra.Ring.Nat
import Mathlib.Logic.Function.Basic
import Mathlib.Order.Lattice
import Mathlib.Tactic.Common
import Teide.ParameterBlock.Layout
import Teide.Vulkan.Basic

/-!
# Writing descriptor sets

`WriteDescriptorSet` writes the uniform buffer to binding 0 and the textures, each as a combined image
sampler, to binding 1, so that a descriptor set holds what its layout asks for when there is no more
than one texture and that one is sampled.

A descriptor set is what has last been written to each of its bindings. Vulkan objects are given by
numbers.
-/

namespace Teide.Descriptors

structure VulkanBuffer where
  size : UInt64 := 0
  buffer : Nat

structure VulkanTexture where
  /-- a texture that has not been allocated has no view -/
  imageView : Option Nat := none
  sampler : Nat := 0
  format : Format := .unknown

structure DescriptorBufferInfo where
  buffer : Nat
  offset : UInt64
  range : UInt64
  deriving DecidableEq

structure DescriptorImageInfo where
  sampler : Nat
  imageView : Nat
  imageLayout : ImageLayout
  deriving DecidableEq

inductive DescriptorInfo where
  | buffer (info : DescriptorBufferInfo)
  | image (info : DescriptorImageInfo)
  deriving DecidableEq

structure Descriptor where
  descriptorType : DescriptorType
  info : DescriptorInfo
  deriving DecidableEq

/-- A `vk::WriteDescriptorSet` of one descriptor. -/
structure DescriptorWrite where
  dstBinding : UInt32
  descriptor : Descriptor

abbrev DescriptorSet := UInt32 → Option Descriptor

/-- A set that has just been allocated. -/
def newSet : DescriptorSet := fun _ => none

/-- `vkUpdateDescriptorSets`: the writes are performed in order. -/
def updateDescriptorSets (set : DescriptorSet) (writes : List DescriptorWrite) : DescriptorSet :=
  writes.foldl (fun set write => Function.update set write.dstBinding (some write.descriptor)) set

def bufferInfo (buffer : VulkanBuffer) : DescriptorBufferInfo := ⟨buffer.buffer, 0, buffer.size⟩

def imageInfo (texture : VulkanTexture) : Option DescriptorImageInfo :=
  texture.imageView.map fun imageView =>
    { sampler := texture.sampler
      imageView := imageView
      imageLayout :=
        if hasDepthOrStencilComponent texture.format then .depthStencilReadOnlyOptimal
        else .shaderReadOnlyOptimal }

def bufferWrites (uniformBuffer : Option VulkanBuffer) : List DescriptorWrite :=
  match uniformBuffer with
  | some buffer =>
    if buffer.size > 0 then [⟨0, .uniformBuffer, .buffer (bufferInfo buffer)⟩] else []
  | none => []

def textureWrite (texture : VulkanTexture) : Option DescriptorWrite :=
  (imageInfo texture).map fun info => ⟨1, .combinedImageSampler, .image info⟩

/-- The loop over the textures, which gives up at one without a view. -/
def textureWrites : List VulkanTexture → Option (List DescriptorWrite)
  | [] => some []
  | texture :: textures => do
    let write ← textureWrite texture
    let writes ← textureWrites textures
    return write :: writes

/-- What `WriteDescriptorSet` passes to `vkUpdateDescriptorSets`, if it gets there. -/
def descriptorWrites (uniformBuffer : Option VulkanBuffer) (textures : List VulkanTexture) :
    Option (List DescriptorWrite) :=
  (textureWrites textures).map (bufferWrites uniformBuffer ++ ·)

/-- The result, and the set afterwards. -/
def writeDescriptorSet (set : DescriptorSet) (uniformBuffer : Option VulkanBuffer)
    (textures : List VulkanTexture) : Bool × DescriptorSet :=
  match descriptorWrites uniformBuffer textures with
  | some writes => (true, updateDescriptorSets set writes)
  | none => (false, set)

/-- A set that has been written before, with these buffers and textures. -/
def written (calls : List (Option VulkanBuffer × List VulkanTexture)) : DescriptorSet :=
  calls.foldl (fun set call => (writeDescriptorSet set call.1 call.2).2) newSet

variable {layout : VulkanParameterBlockLayout} {data : ParameterBlockLayoutData}
  {uniformBuffer : Option VulkanBuffer} {textures : List VulkanTexture} {set : DescriptorSet}
  {calls : List (Option VulkanBuffer × List VulkanTexture)} {writes : List DescriptorWrite}

/-- The set holds the uniform buffer and the textures at bindings of their own, as descriptors of the
types that the layout has there. -/
structure Holds (layout : VulkanParameterBlockLayout) (uniformBuffer : Option VulkanBuffer)
    (textures : List VulkanTexture) (set : DescriptorSet) : Prop where
  uniform : ∀ buffer, uniformBuffer = some buffer →
    ∃ binding ∈ layout.setLayout, binding.binding = 0 ∧
      set binding.binding = some ⟨binding.descriptorType, .buffer (bufferInfo buffer)⟩
  texture : ∀ k texture, textures[k]? = some texture →
    ∃ binding ∈ layout.setLayout, binding.binding.toNat = k + 1 ∧
      ∃ info, imageInfo texture = some info ∧
        set binding.binding = some ⟨binding.descriptorType, .image info⟩

/-! ### What is ever written -/

/-- A uniform buffer with a size at binding 0, or a combined image sampler at binding 1. -/
def Writable (binding : UInt32) (descriptor : Descriptor) : Prop :=
  (binding = 0 ∧ ∃ buffer : VulkanBuffer, 0 < buffer.size ∧
      descriptor = ⟨.uniformBuffer, .buffer (bufferInfo buffer)⟩) ∨
    (binding = 1 ∧ ∃ info, descriptor = ⟨.combinedImageSampler, .image info⟩)

/-- A set that only such writes have been made to. -/
def OnlyWritable (set : DescriptorSet) : Prop :=
  ∀ binding descriptor, set binding = some descriptor → Writable binding descriptor

theorem updateDescriptorSets_singleton {write : DescriptorWrite} :
    updateDescriptorSets set [write] =
      Function.update set write.dstBinding (some write.descriptor) := rfl

theorem OnlyWritable.updateDescriptorSets (hset : OnlyWritable set)
    (hwrites : ∀ write ∈ writes, Writable write.dstBinding write.descriptor) :
    OnlyWritable (updateDescriptorSets set writes) := by
  induction writes generalizing set with
  | nil => exact hset
  | cons write writes ih =>
    have hset' : OnlyWritable (Function.update set write.dstBinding (some write.descriptor)) := by
      intro binding descriptor h
      by_cases hbinding : binding = write.dstBinding
      · rw [hbinding, Function.update_self, Option.some.injEq] at h
        rw [hbinding, ← h]
        exact hwrites write List.mem_cons_self
      · rw [Function.update_of_ne hbinding] at h
        exact hset binding descriptor h
    exact ih hset' fun w hw => hwrites w (List.mem_cons_of_mem _ hw)

theorem writable_of_mem_bufferWrites {write : DescriptorWrite}
    (h : write ∈ bufferWrites uniformBuffer) : Writable write.dstBinding write.descriptor := by
  unfold bufferWrites at h
  split at h
  · rename_i buffer
    split at h
    · rename_i hsize
      obtain rfl := List.mem_singleton.mp h
      exact Or.inl ⟨rfl, buffer, hsize, rfl⟩
    · exact absurd h List.not_mem_nil
  · exact absurd h List.not_mem_nil

theorem exists_imageInfo {texture : VulkanTexture} (h : texture.imageView.isSome = true) :
    ∃ info, imageInfo texture = some info := by
  obtain ⟨imageView, hview⟩ := Option.isSome_iff_exists.mp h
  unfold imageInfo
  rw [hview]
  exact ⟨_, rfl⟩

theorem textureWrites_cons {texture : VulkanTexture} {info : DescriptorImageInfo}
    (hinfo : imageInfo texture = some info) : textureWrites (texture :: textures) =
      (textureWrites textures).map (⟨1, .combinedImageSampler, .image info⟩ :: ·) := by
  rw [textureWrites, textureWrite, hinfo]
  cases textureWrites textures <;> rfl

theorem writable_of_mem_textureWrites (hwrites : textureWrites textures = some writes)
    {write : DescriptorWrite} (h : write ∈ writes) :
    Writable write.dstBinding write.descriptor := by
  induction textures generalizing writes with
  | nil =>
    obtain rfl := Option.some.inj hwrites
    exact absurd h List.not_mem_nil
  | cons texture textures ih =>
    cases hinfo : imageInfo texture with
    | none =>
      rw [textureWrites, textureWrite, hinfo] at hwrites
      exact absurd hwrites (by simp)
    | some info =>
      rw [textureWrites_cons hinfo, Option.map_eq_some_iff] at hwrites
      obtain ⟨rest, hrest, rfl⟩ := hwrites
      obtain rfl | h := List.mem_cons.mp h
      · exact Or.inr ⟨rfl, info, rfl⟩
      · exact ih hrest h

theorem OnlyWritable.writeDescriptorSet (hset : OnlyWritable set) :
    OnlyWritable (writeDescriptorSet set uniformBuffer textures).2 := by
  unfold Descriptors.writeDescriptorSet
  split
  · rename_i writes hwrites
    obtain ⟨rest, hrest, rfl⟩ := Option.map_eq_some_iff.mp hwrites
    refine hset.updateDescriptorSets fun write h => ?_
    obtain h | h := List.mem_append.mp h
    · exact writable_of_mem_bufferWrites h
    · exact writable_of_mem_textureWrites hrest h
  · exact hset

theorem onlyWritable_written (calls : List (Option VulkanBuffer × List VulkanTexture)) :
    OnlyWritable (written calls) := by
  unfold written
  have hrun : ∀ set, OnlyWritable set → OnlyWritable
      (calls.foldl (fun set call => (writeDescriptorSet set call.1 call.2).2) set) := by
    induction calls with
    | nil => exact fun set hset => hset
    | cons call calls ih => exact fun set hset => ih _ hset.writeDescriptorSet
  exact hrun newSet fun binding descriptor h => absurd h (by simp [newSet])

/-! ### When the layout gets what it asks for -/

/-- One texture at most, which is sampled, and a uniform buffer that is not empty and has a binding. -/
structure OneSampled (data : ParameterBlockLayoutData) (uniformBuffer : Option VulkanBuffer) :
    Prop where
  one : data.resourceDescs.length ≤ 1
  sampled : ∀ type ∈ data.resourceDescs, type ≠ .rwTexture2D
  uniform : ∀ buffer, uniformBuffer = some buffer →
    0 < buffer.size ∧ 0 < data.uniformsSize ∧ data.isPushConstant = false

theorem isSome_uniformBinding_iff : (uniformBinding data).isSome = true ↔
    0 < data.uniformsSize ∧ data.isPushConstant = false := by
  unfold uniformBinding
  split
  · split <;> simp_all
  · simp_all

theorem binding_of_mem_uniformBinding {binding : DescriptorSetLayoutBinding}
    (h : binding ∈ (uniformBinding data).toList) :
    binding.binding = 0 ∧ binding.descriptorType = .uniformBuffer := by
  unfold uniformBinding at h
  split at h
  · split at h
    · exact absurd h List.not_mem_nil
    · obtain rfl := List.mem_singleton.mp h
      exact ⟨rfl, rfl⟩
  · exact absurd h List.not_mem_nil

theorem setLayout_of_one (hlayout : vulkanParameterBlockLayout data = some layout)
    (hone : data.resourceDescs.length ≤ 1) :
    ∃ bindings, textureBindings 0 data.resourceDescs = some bindings ∧
      layout.setLayout = (uniformBinding data).toList ++ bindings := by
  cases htextures : textureBindings 0 data.resourceDescs with
  | none =>
    rw [vulkanParameterBlockLayout, htextures] at hlayout
    exact absurd hlayout (by simp)
  | some bindings =>
    have hlength := length_textureBindings htextures
    have hlt : ((uniformBinding data).toList ++ bindings).length < 2 ^ 32 := by
      have huniform : (uniformBinding data).toList.length ≤ 1 := by
        cases uniformBinding data <;> simp
      rw [List.length_append]
      omega
    obtain ⟨layout', hlayout', hset, -⟩ :=
      vulkanParameterBlockLayout_of_length_lt htextures hlt
    obtain rfl : layout = layout' := Option.some.inj (hlayout.symm.trans hlayout')
    exact ⟨bindings, rfl, hset⟩

/-- The bindings of a layout for one resource at most. -/
theorem binding_of_mem_setLayout (hlayout : vulkanParameterBlockLayout data = some layout)
    (hone : data.resourceDescs.length ≤ 1) {binding : DescriptorSetLayoutBinding}
    (hmem : binding ∈ layout.setLayout) :
    (uniformBinding data = some binding ∧ binding.binding.toNat = 0) ∨
      ∃ type, data.resourceDescs = [type] ∧ toVulkan type = some binding.descriptorType ∧
        binding.binding.toNat = 1 := by
  obtain ⟨bindings, htextures, hsetLayout⟩ := setLayout_of_one hlayout hone
  rw [hsetLayout, List.mem_append] at hmem
  obtain hmem | hmem := hmem
  · refine Or.inl ⟨Option.mem_toList.mp hmem, ?_⟩
    rw [(binding_of_mem_uniformBinding hmem).1]
    rfl
  · obtain ⟨k, type, hget, htype, hnumber⟩ := resource_of_mem_textureBindings htextures
      (by rw [UInt32.toNat_zero]; omega) binding hmem
    have hlt := (List.getElem?_eq_some_iff.mp hget).1
    obtain ⟨head, htypes⟩ := List.length_eq_one_iff.mp
      (show data.resourceDescs.length = 1 by omega)
    obtain rfl : k = 0 := by omega
    rw [htypes] at hget
    obtain rfl := Option.some.inj hget
    exact Or.inr ⟨head, htypes, htype, hnumber⟩

/-! ### Only then -/

/-- Nothing is ever written behind binding 1. -/
theorem Holds.length_le_one (hholds : Holds layout uniformBuffer textures set)
    (hset : OnlyWritable set) : textures.length ≤ 1 := by
  by_contra hmany
  obtain ⟨binding, -, hnumber, info, -, hdescriptor⟩ :=
    hholds.texture 1 _ (List.getElem?_eq_getElem (by omega))
  obtain ⟨hzero, -⟩ | ⟨hone, -⟩ := hset _ _ hdescriptor
  · rw [hzero] at hnumber
    exact absurd hnumber (by decide)
  · rw [hone] at hnumber
    exact absurd hnumber (by decide)

/-- What is written to binding 1 is never a storage image. -/
theorem Holds.sampled (hholds : Holds layout uniformBuffer textures set) (hset : OnlyWritable set)
    (hlayout : vulkanParameterBlockLayout data = some layout)
    (hlength : textures.length = data.resourceDescs.length) {type : BaseType}
    (htype : type ∈ data.resourceDescs) : type ≠ .rwTexture2D := by
  rintro rfl
  have hone := hholds.length_le_one hset
  have hpos := List.length_pos_of_mem htype
  obtain ⟨binding, hmem, hnumber, info, -, hdescriptor⟩ :=
    hholds.texture 0 _ (List.getElem?_eq_getElem (by omega))
  obtain ⟨-, hzero⟩ | ⟨type, htypes, hvulkan, -⟩ :=
    binding_of_mem_setLayout hlayout (by omega) hmem
  · omega
  · rw [htypes] at htype
    rw [← List.mem_singleton.mp htype] at hvulkan
    obtain ⟨hzero, -⟩ | ⟨-, info', heq⟩ := hset _ _ hdescriptor
    · rw [hzero] at hnumber
      exact absurd hnumber (by decide)
    · rw [show binding.descriptorType = .combinedImageSampler from
        congrArg Descriptor.descriptorType heq] at hvulkan
      exact absurd hvulkan (by decide)

/-- An empty uniform buffer is not written. -/
theorem Holds.size_pos (hholds : Holds layout uniformBuffer textures set)
    (hset : OnlyWritable set) {buffer : VulkanBuffer} (hbuffer : uniformBuffer = some buffer) :
    0 < buffer.size := by
  obtain ⟨binding, -, hnumber, hdescriptor⟩ := hholds.uniform buffer hbuffer
  obtain ⟨-, buffer', hsize, heq⟩ | ⟨hone, -⟩ := hset _ _ hdescriptor
  · have hinfo := congrArg Descriptor.info heq
    rw [DescriptorInfo.buffer.injEq] at hinfo
    rw [show buffer.size = buffer'.size from congrArg DescriptorBufferInfo.range hinfo]
    exact hsize
  · rw [hnumber] at hone
    exact absurd hone (by decide)

theorem Holds.isSome_uniformBinding (hholds : Holds layout uniformBuffer textures set)
    (hlayout : vulkanParameterBlockLayout data = some layout)
    (hone : data.resourceDescs.length ≤ 1) {buffer : VulkanBuffer}
    (hbuffer : uniformBuffer = some buffer) : (uniformBinding data).isSome = true := by
  obtain ⟨binding, hmem, hnumber, -⟩ := hholds.uniform buffer hbuffer
  obtain ⟨huniform, -⟩ | ⟨type, -, -, htexture⟩ := binding_of_mem_setLayout hlayout hone hmem
  · rw [huniform, Option.isSome_some]
  · rw [hnumber] at htexture
    exact absurd htexture (by decide)

theorem OneSampled.of_holds (hlayout : vulkanParameterBlockLayout data = some layout)
    (hlength : textures.length = data.resourceDescs.length) (hset : OnlyWritable set)
    (hholds : Holds layout uniformBuffer textures set) : OneSampled data uniformBuffer where
  one := by
    rw [← hlength]
    exact hholds.length_le_one hset
  sampled type htype := hholds.sampled hset hlayout hlength htype
  uniform buffer hbuffer := by
    have hone := hholds.length_le_one hset
    rw [hlength] at hone
    exact ⟨hholds.size_pos hset hbuffer,
      isSome_uniformBinding_iff.mp (hholds.isSome_uniformBinding hlayout hone hbuffer)⟩

/-! ### And then -/

theorem writeDescriptorSet_eq (hwrites : textureWrites textures = some writes) :
    (writeDescriptorSet set uniformBuffer textures).2 =
      updateDescriptorSets (updateDescriptorSets set (bufferWrites uniformBuffer)) writes := by
  unfold writeDescriptorSet descriptorWrites
  rw [hwrites]
  exact List.foldl_append

theorem updateDescriptorSets_bufferWrites {buffer : VulkanBuffer} (hsize : 0 < buffer.size) :
    updateDescriptorSets set (bufferWrites (some buffer)) =
      Function.update set 0 (some ⟨.uniformBuffer, .buffer (bufferInfo buffer)⟩) := by
  show updateDescriptorSets set (if buffer.size > 0 then _ else _) = _
  rw [if_pos hsize]
  rfl

theorem toVulkan_of_sampled {type : BaseType} {descriptorType : DescriptorType}
    (h : toVulkan type = some descriptorType) (hsampled : type ≠ .rwTexture2D) :
    descriptorType = .combinedImageSampler := by
  cases type with
  | texture2D => exact (Option.some.inj h).symm
  | texture2DShadow => exact (Option.some.inj h).symm
  | rwTexture2D => exact absurd rfl hsampled
  | _ => exact absurd h (by decide +revert)

/-- The uniform buffer is written to the binding the layout has for it. -/
theorem OneSampled.uniform_written (h : OneSampled data uniformBuffer)
    (hlayout : vulkanParameterBlockLayout data = some layout) {buffer : VulkanBuffer}
    (hbuffer : uniformBuffer = some buffer) :
    ∃ binding ∈ layout.setLayout, binding.binding = 0 ∧
      updateDescriptorSets set (bufferWrites uniformBuffer) 0 =
        some ⟨binding.descriptorType, .buffer (bufferInfo buffer)⟩ := by
  obtain ⟨bindings, -, hsetLayout⟩ := setLayout_of_one hlayout h.one
  obtain ⟨hsize, hsome⟩ := h.uniform buffer hbuffer
  obtain ⟨binding, hbinding⟩ := Option.isSome_iff_exists.mp (isSome_uniformBinding_iff.mpr hsome)
  have hmem : binding ∈ (uniformBinding data).toList := Option.mem_toList.mpr hbinding
  obtain ⟨hnumber, htype⟩ := binding_of_mem_uniformBinding hmem
  refine ⟨binding, ?_, hnumber, ?_⟩
  · rw [hsetLayout]
    exact List.mem_append_left _ hmem
  · rw [hbuffer, htype, updateDescriptorSets_bufferWrites hsize, Function.update_self]

/-- The layout's binding for the only texture. -/
theorem OneSampled.exists_binding (h : OneSampled data uniformBuffer)
    (hlayout : vulkanParameterBlockLayout data = some layout)
    (hone : data.resourceDescs.length = 1) :
    ∃ binding ∈ layout.setLayout, binding.binding = 1 ∧
      binding.descriptorType = .combinedImageSampler := by
  obtain ⟨bindings, htextures, hsetLayout⟩ := setLayout_of_one hlayout h.one
  obtain ⟨type, htypes⟩ := List.length_eq_one_iff.mp hone
  have hsampled := h.sampled type (by rw [htypes]; exact List.mem_singleton_self type)
  rw [htypes] at htextures
  obtain ⟨descriptorType, rest, htype, -, rfl⟩ := textureBindings_eq_some_cons htextures
  refine ⟨⟨0 + 1, descriptorType, 1, VkShaderStageFlags.all⟩, ?_, rfl,
    toVulkan_of_sampled htype hsampled⟩
  rw [hsetLayout]
  exact List.mem_append_right _ List.mem_cons_self

theorem holds_of_oneSampled (hlayout : vulkanParameterBlockLayout data = some layout)
    (hlength : textures.length = data.resourceDescs.length)
    (hviews : ∀ texture ∈ textures, texture.imageView.isSome = true)
    (h : OneSampled data uniformBuffer) :
    Holds layout uniformBuffer textures (writeDescriptorSet set uniformBuffer textures).2 := by
  have hone := h.one
  cases textures with
  | nil =>
    rw [writeDescriptorSet_eq rfl]
    constructor
    · intro buffer hbuffer
      obtain ⟨binding, hmem, hnumber, hdescriptor⟩ := h.uniform_written hlayout hbuffer
      exact ⟨binding, hmem, hnumber, hnumber ▸ hdescriptor⟩
    · intro k texture hget
      exact absurd hget (by simp)
  | cons texture textures =>
    rw [List.length_cons] at hlength
    obtain rfl : textures = [] := List.length_eq_zero_iff.mp (by omega)
    obtain ⟨info, hinfo⟩ := exists_imageInfo (hviews texture List.mem_cons_self)
    have hwrites : textureWrites [texture] = some [⟨1, .combinedImageSampler, .image info⟩] :=
      textureWrites_cons hinfo
    rw [writeDescriptorSet_eq hwrites, updateDescriptorSets_singleton]
    constructor
    · intro buffer hbuffer
      obtain ⟨binding, hmem, hnumber, hdescriptor⟩ := h.uniform_written hlayout hbuffer
      refine ⟨binding, hmem, hnumber, ?_⟩
      rw [hnumber, Function.update_of_ne (show (0 : UInt32) ≠ 1 by decide)]
      exact hdescriptor
    · intro k texture' hget
      cases k with
      | zero =>
        obtain rfl := Option.some.inj hget
        obtain ⟨binding, hmem, hnumber, htype⟩ := h.exists_binding hlayout hlength.symm
        refine ⟨binding, hmem, ?_, info, hinfo, ?_⟩
        · rw [hnumber]
          rfl
        · rw [hnumber, htype, Function.update_self]
      | succ k => exact absurd hget (by simp)

/-- Whatever the set has been written with before. -/
theorem textures_reach_bindings_iff (calls : List (Option VulkanBuffer × List VulkanTexture))
    (hlayout : vulkanParameterBlockLayout data = some layout)
    (hlength : textures.length = data.resourceDescs.length)
    (hviews : ∀ texture ∈ textures, texture.imageView.isSome = true) :
    Holds layout uniformBuffer textures
        (writeDescriptorSet (written calls) uniformBuffer textures).2 ↔
      OneSampled data uniformBuffer :=
  ⟨OneSampled.of_holds hlayout hlength (onlyWritable_written calls).writeDescriptorSet,
    holds_of_oneSampled hlayout hlength hviews⟩

/-- A set that has been written with another shadow map before. -/
theorem textures_reach_bindings_iff_shadowMap : ∃ layout,
    vulkanParameterBlockLayout (buildParameterBlockLayout
      ⟨[⟨"shadowMap", ⟨.texture2DShadow, 0⟩⟩, ⟨"light", ⟨.matrix4, 0⟩⟩], 0⟩ 0) = some layout ∧
    Holds layout (some ⟨64, 7⟩) [⟨some 1, 2, .depth32⟩]
      (writeDescriptorSet (written [(some ⟨64, 6⟩, [⟨some 0, 2, .depth16⟩])]) (some ⟨64, 7⟩)
        [⟨some 1, 2, .depth32⟩]).2 := by
  refine ⟨_, rfl, (textures_reach_bindings_iff [(some ⟨64, 6⟩, [⟨some 0, 2, .depth16⟩])]
    (show vulkanParameterBlockLayout (buildParameterBlockLayout
      ⟨[⟨"shadowMap", ⟨.texture2DShadow, 0⟩⟩, ⟨"light", ⟨.matrix4, 0⟩⟩], 0⟩ 0) = some _ from rfl)
    rfl (by decide)).mpr ⟨by decide, by decide, fun buffer hbuffer => ?_⟩⟩
  obtain rfl := Option.some.inj hbuffer
  exact ⟨by decide, by decide, rfl⟩

/-- The second of two textures takes the place of the first, and its own binding is not written. -/
theorem second_texture_misplaced :
    let textures : List VulkanTexture := [⟨some 1, 3, .byte4Srgb⟩, ⟨some 2, 3, .byte4Norm⟩]
    let set := (writeDescriptorSet newSet none textures).2
    ∃ layout, vulkanParameterBlockLayout (buildParameterBlockLayout
        ⟨[⟨"albedo", ⟨.texture2D, 0⟩⟩, ⟨"normals", ⟨.texture2D, 0⟩⟩], 0⟩ 2) = some layout ∧
      layout.setLayout.map (·.binding) = [1, 2] ∧
      set 1 = some ⟨.combinedImageSampler, .image ⟨3, 2, .shaderReadOnlyOptimal⟩⟩ ∧
      set 2 = none ∧ ¬Holds layout none textures set := by
  refine ⟨_, rfl, rfl, rfl, rfl, fun hholds => ?_⟩
  have hone := (OneSampled.of_holds (show vulkanParameterBlockLayout (buildParameterBlockLayout
      ⟨[⟨"albedo", ⟨.texture2D, 0⟩⟩, ⟨"normals", ⟨.texture2D, 0⟩⟩], 0⟩ 2) = some _ from rfl) rfl
    (onlyWritable_written []).writeDescriptorSet hholds).one
  exact absurd hone (by decide)

end Teide.Descriptors
