import Mathlib.Algebra.Ring.Nat
import Mathlib.Data.List.Basic
import Mathlib.Order.Lattice
import Mathlib.Tactic.Common
import Teide.Lib.Words
import Teide.ShaderData.Basic

/-!
# Descriptor set layouts

The constructor of `VulkanParameterBlockLayout` numbers the resources of a parameter block by itself,
in 32 bits, and puts a uniform buffer in front of them or makes a push constant range, if the uniforms
have a size. The bindings are handed to Vulkan in a `vkex::Array`, whose size has 32 bits too. A
descriptor set layout is represented by the bindings it is created with.
-/

namespace Teide

inductive DescriptorType where
  | combinedImageSampler | storageImage | uniformBuffer
  deriving DecidableEq

/-- Flag sets are numbers with one bit for each flag. -/
abbrev VkShaderStageFlags := UInt32

namespace VkShaderStageFlags

def vertex : VkShaderStageFlags := 0x1
def fragment : VkShaderStageFlags := 0x10
def all : VkShaderStageFlags := 0x7FFFFFFF

end VkShaderStageFlags

structure DescriptorSetLayoutBinding where
  binding : UInt32
  descriptorType : DescriptorType
  descriptorCount : UInt32
  stageFlags : VkShaderStageFlags
  deriving DecidableEq

structure PushConstantRange where
  stageFlags : VkShaderStageFlags
  offset : UInt32
  size : UInt32
  deriving DecidableEq

structure DescriptorTypeCount where
  type : DescriptorType
  count : UInt32
  deriving DecidableEq

structure VulkanParameterBlockLayout where
  descriptorTypeCounts : List DescriptorTypeCount := []
  setLayout : List DescriptorSetLayoutBinding := []
  uniformBufferSize : UInt32 := 0
  pushConstantRange : Option PushConstantRange := none
  uniformsStages : VkShaderStageFlags := 0

/-- A `StaticMap` throws when it does not find its key. -/
def toVulkan : BaseType → Option DescriptorType
  | .texture2D => some .combinedImageSampler
  | .texture2DShadow => some .combinedImageSampler
  | .rwTexture2D => some .storageImage
  | _ => none

def getShaderStageFlags (flags : ShaderStageFlags) : VkShaderStageFlags :=
  let ret : VkShaderStageFlags := 0
  let ret := if flags &&& ShaderStageFlags.vertex ≠ 0 then ret ||| VkShaderStageFlags.vertex else ret
  if flags &&& ShaderStageFlags.pixel ≠ 0 then ret ||| VkShaderStageFlags.fragment else ret

/-- A `vkex::Array` of the elements of a range. The whole range is copied unless the size is 0 in 32
bits; where the range is longer than that size, the copy writes past the end of the array. -/
def vkexArray {α : Type*} (range : List α) : Option (List α) :=
  let size := UInt32.ofNat range.length
  if size > 0 then
    if range.length ≤ size.toNat then some range else none
  else some []

/-- The transform view over the resources, whose function counts its calls in `i`. -/
def textureBindings (i : UInt32) : List BaseType → Option (List DescriptorSetLayoutBinding)
  | [] => some []
  | type :: types => do
    let descriptorType ← toVulkan type
    let bindings ← textureBindings (i + 1) types
    return ⟨i + 1, descriptorType, 1, VkShaderStageFlags.all⟩ :: bindings

def pushConstantRange (data : ParameterBlockLayoutData) : Option PushConstantRange :=
  if data.uniformsSize > 0 then
    if data.isPushConstant then
      some ⟨getShaderStageFlags data.uniformsStages, 0, data.uniformsSize⟩
    else none
  else none

def uniformBinding (data : ParameterBlockLayoutData) : Option DescriptorSetLayoutBinding :=
  if data.uniformsSize > 0 then
    if data.isPushConstant then none
    else some ⟨0, .uniformBuffer, 1, getShaderStageFlags data.uniformsStages⟩
  else none

/-- The constructor, if it neither throws nor writes out of bounds. -/
def vulkanParameterBlockLayout (data : ParameterBlockLayoutData) :
    Option VulkanParameterBlockLayout := do
  let textureBindings ← textureBindings 0 data.resourceDescs
  let bindings ← vkexArray ((uniformBinding data).toList ++ textureBindings)
  return {
    descriptorTypeCounts := bindings.map fun binding =>
      ⟨binding.descriptorType, binding.descriptorCount⟩
    setLayout := bindings
    uniformBufferSize := if (uniformBinding data).isSome then data.uniformsSize else 0
    pushConstantRange := pushConstantRange data
    uniformsStages := getShaderStageFlags data.uniformsStages }

variable {α : Type*} {range : List α} {i : UInt32} {types : List BaseType}
  {bindings : List DescriptorSetLayoutBinding} {data : ParameterBlockLayoutData}

theorem vkexArray_of_length_lt (h : range.length < 2 ^ 32) : vkexArray range = some range := by
  have hsize : (UInt32.ofNat range.length).toNat = range.length := UInt32.toNat_ofNat_of_lt' h
  unfold vkexArray
  dsimp only
  split
  · rw [if_pos (Nat.le_of_eq hsize.symm)]
  · rename_i hzero
    rw [gt_iff_lt, UInt32.lt_iff_toNat_lt, hsize, UInt32.toNat_zero] at hzero
    have hnil : range = [] := List.length_eq_zero_iff.mp (by omega)
    rw [hnil]

/-- A range whose length is 0 in 32 bits is lost. -/
theorem vkexArray_of_length_wraps (h : range.length % 2 ^ 32 = 0) : vkexArray range = some [] := by
  have hsize : UInt32.ofNat range.length = 0 := by
    rw [← UInt32.toNat_inj, UInt32.toNat_ofNat', UInt32.toNat_zero]
    exact h
  unfold vkexArray
  rw [hsize]
  rfl

theorem textureBindings_cons {type : BaseType} {descriptorType : DescriptorType}
    (htype : toVulkan type = some descriptorType)
    (hrest : textureBindings (i + 1) types = some bindings) :
    textureBindings i (type :: types) =
      some (⟨i + 1, descriptorType, 1, VkShaderStageFlags.all⟩ :: bindings) := by
  rw [textureBindings, htype, hrest]
  rfl

/-- Only for a type that is not one of a resource is there no descriptor type. -/
theorem exists_toVulkan {type : BaseType} (h : isResourceType type = true) :
    ∃ descriptorType, toVulkan type = some descriptorType := by
  cases type with
  | texture2D => exact ⟨_, rfl⟩
  | texture2DShadow => exact ⟨_, rfl⟩
  | rwTexture2D => exact ⟨_, rfl⟩
  | _ => exact absurd h (by decide)

theorem exists_textureBindings (h : ∀ type ∈ types, isResourceType type = true) :
    ∃ bindings, textureBindings i types = some bindings := by
  induction types generalizing i with
  | nil => exact ⟨[], rfl⟩
  | cons type types ih =>
    obtain ⟨descriptorType, htype⟩ := exists_toVulkan (h type List.mem_cons_self)
    obtain ⟨bindings, hrest⟩ :=
      ih (i := i + 1) fun type htype => h type (List.mem_cons_of_mem _ htype)
    exact ⟨_, textureBindings_cons htype hrest⟩

/-- The first binding of a non-empty list, and the others. -/
theorem textureBindings_eq_some_cons {type : BaseType}
    (h : textureBindings i (type :: types) = some bindings) :
    ∃ descriptorType rest, toVulkan type = some descriptorType ∧
      textureBindings (i + 1) types = some rest ∧
      bindings = ⟨i + 1, descriptorType, 1, VkShaderStageFlags.all⟩ :: rest := by
  cases htype : toVulkan type with
  | none =>
    rw [textureBindings, htype] at h
    exact absurd h (by simp)
  | some descriptorType =>
    cases hrest : textureBindings (i + 1) types with
    | none =>
      rw [textureBindings, htype, hrest] at h
      exact absurd h (by simp)
    | some rest =>
      rw [textureBindings_cons htype hrest, Option.some.injEq] at h
      exact ⟨descriptorType, rest, rfl, rfl, h.symm⟩

theorem length_textureBindings (h : textureBindings i types = some bindings) :
    bindings.length = types.length := by
  induction types generalizing i bindings with
  | nil =>
    obtain rfl := Option.some.inj h
    rfl
  | cons type types ih =>
    obtain ⟨descriptorType, rest, -, hrest, rfl⟩ := textureBindings_eq_some_cons h
    rw [List.length_cons, List.length_cons, ih hrest]

/-- The `k`-th resource has the binding of its number, counted from one behind `i`. -/
theorem resource_of_mem_textureBindings (h : textureBindings i types = some bindings)
    (hlt : i.toNat + types.length < 2 ^ 32) (binding : DescriptorSetLayoutBinding)
    (hmem : binding ∈ bindings) :
    ∃ k type, types[k]? = some type ∧ toVulkan type = some binding.descriptorType ∧
      binding.binding.toNat = i.toNat + k + 1 := by
  induction types generalizing i bindings with
  | nil =>
    obtain rfl := Option.some.inj h
    exact absurd hmem List.not_mem_nil
  | cons type types ih =>
    obtain ⟨descriptorType, rest, htype, hrest, rfl⟩ := textureBindings_eq_some_cons h
    rw [List.length_cons] at hlt
    have hi : (i + 1).toNat = i.toNat + 1 := Words.toNat_add_one (by omega)
    obtain rfl | hmem := List.mem_cons.mp hmem
    · exact ⟨0, type, rfl, htype, hi⟩
    · obtain ⟨k, type', hget, htype', hnumber⟩ := ih hrest (by omega) hmem
      exact ⟨k + 1, type', hget, htype', by omega⟩

/-- A layout keeps all its bindings when there are less than 2 ^ 32 of them. -/
theorem vulkanParameterBlockLayout_of_length_lt
    (htextures : textureBindings 0 data.resourceDescs = some bindings)
    (hlt : ((uniformBinding data).toList ++ bindings).length < 2 ^ 32) :
    ∃ layout, vulkanParameterBlockLayout data = some layout ∧
      layout.setLayout = (uniformBinding data).toList ++ bindings ∧
      layout.pushConstantRange = pushConstantRange data := by
  unfold vulkanParameterBlockLayout
  rw [htextures, Option.bind_eq_bind, Option.bind_some, vkexArray_of_length_lt hlt]
  exact ⟨_, rfl, rfl, rfl⟩

/-- It keeps none of them when their number is 0 in 32 bits. -/
theorem vulkanParameterBlockLayout_of_length_wraps
    (htextures : textureBindings 0 data.resourceDescs = some bindings)
    (hwraps : ((uniformBinding data).toList ++ bindings).length % 2 ^ 32 = 0) :
    ∃ layout, vulkanParameterBlockLayout data = some layout ∧ layout.setLayout = [] := by
  unfold vulkanParameterBlockLayout
  rw [htextures, Option.bind_eq_bind, Option.bind_some, vkexArray_of_length_wraps hwraps]
  exact ⟨_, rfl, rfl⟩

end Teide
