import Mathlib.Algebra.Ring.Nat
import Mathlib.Data.List.Basic
import Mathlib.Order.Lattice
import Mathlib.Tactic.Common
import Teide.ParameterBlock.Layout
import Teide.ShaderCompiler.Basic
import Teide.ShaderData.Size

/-!
# The shader's bindings are those of the layout

The generated source declares a uniform block at binding 0 when the block has uniforms, and the
layout has a uniform buffer there when they have a size: the same thing, as long as the size fits in
32 bits. Both number the resources from 1 on, and what a resource is declared as fits the type of
descriptor that the layout has for it.

A block with 2 ^ 32 bindings keeps none of them in its layout, because the size of a `vkex::Array` has
32 bits.
-/

namespace Teide

open ShaderCompiler

variable {pblock : ParameterBlockDesc} {parameters : List ShaderVariable} {set : Fin 4}

/-- What a piece of source declares. The kind is missing when the type is not one of a descriptor
(an array, for example). -/
structure Declaration where
  set : Nat
  binding : Nat
  kind : Option DescriptorType
  deriving DecidableEq

def glslKind (type : String) : Option DescriptorType :=
  if type = "sampler2D" then some .combinedImageSampler
  else if type = "sampler2DShadow" then some .combinedImageSampler
  else if type = "image2D" then some .storageImage
  else none

namespace ShaderCompiler

def Piece.declaration : Piece → Option Declaration
  | uniformBlock set _ => some ⟨set, 0, some .uniformBuffer⟩
  | resource set slot type _ => some ⟨set, slot.toNat, glslKind type⟩
  | image set slot _ type _ => some ⟨set, slot.toNat, glslKind type⟩
  | _ => none

def declarations (pieces : List Piece) : List Declaration := pieces.filterMap Piece.declaration

theorem declarations_cons (piece : Piece) (pieces : List Piece) :
    declarations (piece :: pieces) = piece.declaration.toList ++ declarations pieces := by
  rw [declarations, List.filterMap_cons]
  cases piece.declaration <;> rfl

@[simp] theorem declarations_append (pieces pieces' : List Piece) :
    declarations (pieces ++ pieces') = declarations pieces ++ declarations pieces' :=
  List.filterMap_append

def Piece.isPushConstants : Piece → Bool
  | pushConstants _ => true
  | _ => false

/-- Some piece starts a block of push constants. -/
def declaresPushConstants (pieces : List Piece) : Bool := pieces.any Piece.isPushConstants

theorem declaresPushConstants_cons (piece : Piece) (pieces : List Piece) :
    declaresPushConstants (piece :: pieces) =
      (piece.isPushConstants || declaresPushConstants pieces) := rfl

@[simp] theorem declaresPushConstants_append (pieces pieces' : List Piece) :
    declaresPushConstants (pieces ++ pieces') =
      (declaresPushConstants pieces || declaresPushConstants pieces') :=
  List.any_append

end ShaderCompiler

def DescriptorSetLayoutBinding.declared (set : Nat) (binding : DescriptorSetLayoutBinding) :
    Declaration :=
  ⟨set, binding.binding.toNat, some binding.descriptorType⟩

/-! ### Resources -/

theorem glslKind_text {type : ShaderVariableType} (hresource : isResourceType type.baseType = true)
    (harray : type.arraySize = 0) :
    ∃ descriptorType, toVulkan type.baseType = some descriptorType ∧
      glslKind type.text = some descriptorType := by
  have htext : type.text = type.baseType.text := by
    unfold ShaderVariableType.text
    rw [harray]
    rfl
  rw [htext]
  cases hbase : type.baseType with
  | texture2D => exact ⟨_, rfl, rfl⟩
  | texture2DShadow => exact ⟨_, rfl, rfl⟩
  | rwTexture2D => exact ⟨_, rfl, rfl⟩
  | _ =>
    rw [hbase] at hresource
    exact absurd hresource (by decide)

theorem resourceBindings_cons_of_pos {set : Nat} {slot : UInt64} {parameter : ShaderVariable}
    (h : parameter.isResource = true) : resourceBindings set slot (parameter :: parameters) =
      .resource set slot parameter.type.text parameter.name ::
        resourceBindings set (slot + 1) parameters :=
  if_pos h

theorem resourceBindings_cons_of_neg {set : Nat} {slot : UInt64} {parameter : ShaderVariable}
    (h : ¬parameter.isResource = true) : resourceBindings set slot (parameter :: parameters) =
      resourceBindings set slot parameters :=
  if_neg h

/-- The two walks side by side: the slot of the one is ahead of the counter of the other by one. -/
theorem declarations_resourceBindings (set : Nat) {slot : UInt64} {i : UInt32}
    (hslot : slot.toNat = i.toNat + 1)
    (hlt : i.toNat + (parameters.filter ShaderVariable.isResource).length < 2 ^ 32)
    (harray : ∀ parameter ∈ parameters, parameter.isResource = true →
      parameter.type.arraySize = 0) :
    ∃ bindings, textureBindings i ((parameters.filter ShaderVariable.isResource).map
        fun parameter => parameter.type.baseType) = some bindings ∧
      declarations (resourceBindings set slot parameters) = bindings.map (·.declared set) := by
  induction parameters generalizing slot i with
  | nil => exact ⟨[], rfl, rfl⟩
  | cons parameter parameters ih =>
    have harray' := fun p hp => harray p (List.mem_cons_of_mem _ hp)
    by_cases hresource : parameter.isResource = true
    · rw [List.filter_cons_of_pos hresource] at hlt ⊢
      rw [List.length_cons] at hlt
      have hi : (i + 1).toNat = i.toNat + 1 := Words.toNat_add_one (by omega)
      have hslot' : (slot + 1).toNat = (i + 1).toNat + 1 := by
        rw [UInt64.toNat_add, UInt64.toNat_one, hslot, hi, Nat.mod_eq_of_lt (by omega)]
      obtain ⟨bindings, htextures, hdeclared⟩ := ih hslot' (by omega) harray'
      obtain ⟨descriptorType, htype, hkind⟩ := glslKind_text hresource
        (harray parameter List.mem_cons_self hresource)
      refine ⟨⟨i + 1, descriptorType, 1, VkShaderStageFlags.all⟩ :: bindings, ?_, ?_⟩
      · rw [List.map_cons, textureBindings, htype, htextures]
        rfl
      · rw [resourceBindings_cons_of_pos hresource, List.map_cons, ← hdeclared,
          DescriptorSetLayoutBinding.declared, hi, ← hslot, ← hkind]
        rfl
    · rw [List.filter_cons_of_neg hresource] at hlt ⊢
      rw [resourceBindings_cons_of_neg hresource]
      exact ih hslot hlt harray'

/-- Each resource is declared. -/
theorem length_declarations_resourceBindings (set : Nat) (slot : UInt64)
    (parameters : List ShaderVariable) :
    (declarations (resourceBindings set slot parameters)).length =
      (parameters.filter ShaderVariable.isResource).length := by
  induction parameters generalizing slot with
  | nil => rfl
  | cons parameter parameters ih =>
    by_cases hresource : parameter.isResource = true
    · rw [resourceBindings_cons_of_pos hresource, List.filter_cons_of_pos hresource,
        List.length_cons, ← ih]
      rfl
    · rw [resourceBindings_cons_of_neg hresource, List.filter_cons_of_neg hresource, ih]

theorem filter_eq_nil_of_countP_eq_zero
    (h : parameters.countP (fun v => isResourceType v.type.baseType) = 0) :
    parameters.filter ShaderVariable.isResource = [] :=
  List.length_eq_zero_iff.mp (by rw [← List.countP_eq_length_filter]; exact h)

theorem declarations_buildResourceBindings : declarations (buildResourceBindings set pblock) =
    declarations (resourceBindings set 1 pblock.parameters) := by
  unfold buildResourceBindings
  split
  · rename_i hzero
    have hlength := length_declarations_resourceBindings set 1 pblock.parameters
    rw [filter_eq_nil_of_countP_eq_zero hzero] at hlength
    rw [List.length_eq_zero_iff.mp hlength]
    rfl
  · rw [declarations_append]
    exact List.append_nil _

/-! ### Uniforms -/

theorem declarations_members : declarations (parameters.filterMap fun variable_ =>
    if isResourceType variable_.type.baseType then none
    else some (.member variable_.type.text variable_.name)) = [] := by
  rw [declarations, List.filterMap_filterMap, List.filterMap_eq_nil_iff]
  intro variable_ _
  split <;> rfl

theorem declaresPushConstants_members :
    declaresPushConstants (parameters.filterMap fun variable_ =>
      if isResourceType variable_.type.baseType then none
      else some (.member variable_.type.text variable_.name)) = false := by
  rw [declaresPushConstants, List.any_filterMap, List.any_eq_false]
  intro variable_ _
  cases isResourceType variable_.type.baseType <;> simp [Piece.isPushConstants]

/-- Without uniforms there is nothing, and with uniforms there is one block. -/
theorem buildUniformBuffer_cases (set : Fin 4) (pblock : ParameterBlockDesc) :
    (pblock.parameters.countP (fun v => !isResourceType v.type.baseType) = 0 ∧
      buildUniformBuffer set pblock = []) ∨
    pblock.parameters.countP (fun v => !isResourceType v.type.baseType) ≠ 0 ∧ ∃ rest,
      buildUniformBuffer set pblock =
        (if (buildParameterBlockLayout pblock set).isPushConstant then
          .pushConstants (pblockNames set)
        else .uniformBlock set (pblockNames set)) :: rest ∧
      declarations rest = [] ∧ declaresPushConstants rest = false := by
  unfold buildUniformBuffer
  split
  · rename_i hzero
    exact Or.inl ⟨hzero, rfl⟩
  · rename_i hne
    refine Or.inr ⟨hne, pblock.parameters.filterMap _ ++ [.endBlock (pblockNamesLower set)], rfl,
      ?_, ?_⟩
    · rw [declarations_append, declarations_members]
      rfl
    · rw [declaresPushConstants_append, declaresPushConstants_members]
      rfl

/-- The test of the generator against that of the layout. -/
theorem countP_eq_zero_iff (hsize : pblock.exactSize < 2 ^ 32) :
    pblock.parameters.countP (fun v => !isResourceType v.type.baseType) = 0 ↔
      ¬(buildParameterBlockLayout pblock set).uniformsSize > 0 := by
  rw [gt_iff_lt, UInt32.lt_iff_toNat_lt, uniformsSize_buildParameterBlockLayout _ hsize,
    UInt32.toNat_zero, Nat.not_lt, Nat.le_zero, exactSize_eq_zero_iff, List.countP_eq_zero]
  simp [ShaderVariable.isResource]

theorem uniformsSize_pos (hsize : pblock.exactSize < 2 ^ 32)
    (h : pblock.parameters.countP (fun v => !isResourceType v.type.baseType) ≠ 0) :
    (buildParameterBlockLayout pblock set).uniformsSize > 0 :=
  Decidable.not_not.mp (mt (countP_eq_zero_iff hsize).mpr h)

theorem declarations_buildUniformBuffer (set : Fin 4) (hsize : pblock.exactSize < 2 ^ 32) :
    declarations (buildUniformBuffer set pblock) =
      (uniformBinding (buildParameterBlockLayout pblock set)).toList.map (·.declared set) := by
  unfold uniformBinding
  obtain ⟨hzero, hpieces⟩ | ⟨hne, rest, hpieces, hrest, -⟩ := buildUniformBuffer_cases set pblock
  · rw [hpieces, if_neg ((countP_eq_zero_iff hsize).mp hzero)]
    rfl
  · rw [hpieces, if_pos (uniformsSize_pos hsize hne), declarations_cons, hrest]
    split <;> rfl

theorem declaresPushConstants_resourceBindings {set : Nat} {slot : UInt64} :
    declaresPushConstants (resourceBindings set slot parameters) = false := by
  induction parameters generalizing slot with
  | nil => rfl
  | cons parameter parameters ih =>
    by_cases hresource : parameter.isResource = true
    · rw [resourceBindings_cons_of_pos hresource]
      exact ih
    · rw [resourceBindings_cons_of_neg hresource]
      exact ih

theorem declaresPushConstants_buildBindings (hsize : pblock.exactSize < 2 ^ 32) :
    declaresPushConstants (buildBindings set pblock) =
      (pushConstantRange (buildParameterBlockLayout pblock set)).isSome := by
  have hresources : declaresPushConstants (buildResourceBindings set pblock) = false := by
    unfold buildResourceBindings
    split
    · rfl
    · rw [declaresPushConstants_append, declaresPushConstants_resourceBindings]
      rfl
  rw [buildBindings, declaresPushConstants_append, hresources, Bool.or_false]
  unfold pushConstantRange
  obtain ⟨hzero, hpieces⟩ | ⟨hne, rest, hpieces, -, hrest⟩ := buildUniformBuffer_cases set pblock
  · rw [hpieces, if_neg ((countP_eq_zero_iff hsize).mp hzero)]
    rfl
  · rw [hpieces, if_pos (uniformsSize_pos hsize hne), declaresPushConstants_cons, hrest]
    split <;> rfl

/-! ### The layout -/

/-- What the generator declares for a block is what the layout has for it. -/
theorem declarations_buildBindings (pblock : ParameterBlockDesc) (set : Fin 4)
    (hresources : ∀ parameter ∈ pblock.parameters, parameter.isResource = true →
      parameter.type.arraySize = 0)
    (hsize : pblock.exactSize < 2 ^ 32)
    (hcount : (declarations (buildBindings set pblock)).length < 2 ^ 32) :
    ∃ layout, vulkanParameterBlockLayout (buildParameterBlockLayout pblock set) = some layout ∧
      declarations (buildBindings set pblock) = layout.setLayout.map (·.declared set) ∧
      declaresPushConstants (buildBindings set pblock) = layout.pushConstantRange.isSome := by
  have huniform := declarations_buildUniformBuffer set hsize
  rw [buildBindings, declarations_append, declarations_buildResourceBindings] at hcount ⊢
  have hlt : (pblock.parameters.filter ShaderVariable.isResource).length < 2 ^ 32 := by
    rw [List.length_append, length_declarations_resourceBindings] at hcount
    omega
  obtain ⟨bindings, htextures, hdeclared⟩ := declarations_resourceBindings set
    (show (1 : UInt64).toNat = (0 : UInt32).toNat + 1 from rfl)
    (by rw [UInt32.toNat_zero, Nat.zero_add]; exact hlt) hresources
  rw [← resourceDescs_buildParameterBlockLayout pblock set] at htextures
  rw [huniform, hdeclared, ← List.map_append] at hcount ⊢
  rw [List.length_map] at hcount
  obtain ⟨layout, hlayout, hset, hrange⟩ :=
    vulkanParameterBlockLayout_of_length_lt htextures hcount
  refine ⟨layout, hlayout, ?_, ?_⟩
  · rw [hset]
  · rw [hrange]
    exact declaresPushConstants_buildBindings hsize

theorem declarations_buildBindings_of_resources
    (h : ∀ parameter ∈ pblock.parameters, parameter.isResource = true) :
    declarations (buildBindings set pblock) =
      declarations (resourceBindings set 1 pblock.parameters) := by
  have huniforms : buildUniformBuffer set pblock = [] := by
    unfold buildUniformBuffer
    refine if_pos (List.countP_eq_zero.mpr fun parameter hparameter => ?_)
    rw [show isResourceType parameter.type.baseType = true from h parameter hparameter]
    decide
  rw [buildBindings, huniforms, List.nil_append, declarations_buildResourceBindings]

theorem length_declarations_of_resources (set : Fin 4)
    (h : ∀ parameter ∈ pblock.parameters, parameter.isResource = true) :
    (declarations (buildBindings set pblock)).length = pblock.parameters.length := by
  rw [declarations_buildBindings_of_resources h, length_declarations_resourceBindings,
    List.filter_eq_self.mpr h]

/-! ### Kernels -/

theorem isResource_of_mem_imageParameters {outputs : List ShaderVariable}
    {parameter : ShaderVariable} (h : parameter ∈ imageParameters outputs) :
    parameter.isResource = true ∧ parameter.type.arraySize = 0 := by
  obtain ⟨output, -, rfl⟩ := List.mem_map.mp h
  exact ⟨rfl, rfl⟩

/-- The images are declared like the resources of a block that holds them. -/
theorem declarations_imageBindings {slot : UInt64} {outputs : List ShaderVariable} :
    declarations (imageBindings slot outputs) =
      declarations (resourceBindings paramsSet slot (imageParameters outputs)) := by
  induction outputs generalizing slot with
  | nil => rfl
  | cons output outputs ih =>
    rw [imageParameters, List.map_cons, resourceBindings_cons_of_pos rfl]
    show _ :: declarations _ = _ :: declarations _
    rw [ih]
    rfl

theorem declarations_map_plain {outputs : List ShaderVariable} (f : ShaderVariable → String) :
    declarations (outputs.map fun output => .plain (f output)) = [] := by
  rw [declarations, List.filterMap_map]
  show outputs.filterMap (fun _ => none) = []
  exact List.filterMap_none outputs

theorem declarations_buildKernelEntrypoint {data : KernelData}
    {sourceStage : ShaderStageDefinition} :
    declarations (buildKernelEntrypoint data sourceStage).1 =
      declarations (resourceBindings paramsSet 1 (imageParameters sourceStage.outputs)) := by
  unfold buildKernelEntrypoint
  dsimp only
  rw [declarations_append, declarations_append, declarations_append, declarations_map_plain,
    declarations_imageBindings]
  -- the lines of the entry point declare nothing
  show declarations _ ++ [] ++ [] ++ [] = _
  rw [List.append_nil, List.append_nil, List.append_nil]

theorem kernel_declarations_eq_bindings (data : KernelData)
    (sourceStage : ShaderStageDefinition) (hempty : data.paramsPblock.parameters = [])
    (hcount : sourceStage.outputs.length < 2 ^ 32) :
    ∃ layout, vulkanParameterBlockLayout
        (buildParameterBlockLayout (buildKernelEntrypoint data sourceStage).2.paramsPblock 2) =
          some layout ∧
      declarations (buildKernelEntrypoint data sourceStage).1 =
        layout.setLayout.map (·.declared 2) := by
  have hparameters : (buildKernelEntrypoint data sourceStage).2.paramsPblock.parameters =
      imageParameters sourceStage.outputs := by
    unfold buildKernelEntrypoint
    rw [hempty]
    rfl
  have hresources : ∀ parameter ∈
      (buildKernelEntrypoint data sourceStage).2.paramsPblock.parameters,
      parameter.isResource = true := by
    rw [hparameters]
    exact fun _ h => (isResource_of_mem_imageParameters h).1
  have hsize := exactSize_eq_zero_iff.mpr hresources
  obtain ⟨layout, hlayout, hdeclared, -⟩ := declarations_buildBindings
    (buildKernelEntrypoint data sourceStage).2.paramsPblock 2
    (by rw [hparameters]; exact fun _ h _ => (isResource_of_mem_imageParameters h).2)
    (by rw [hsize]; decide)
    (by
      rw [length_declarations_of_resources 2 hresources, hparameters, imageParameters,
        List.length_map]
      exact hcount)
  refine ⟨layout, hlayout, ?_⟩
  rw [declarations_buildBindings_of_resources hresources, hparameters] at hdeclared
  rw [declarations_buildKernelEntrypoint]
  exact hdeclared

theorem set_of_mem_resourceBindings {set : Nat} {slot : UInt64} {declaration : Declaration}
    (h : declaration ∈ declarations (resourceBindings set slot parameters)) :
    declaration.set = set := by
  induction parameters generalizing slot with
  | nil => exact absurd h (List.not_mem_nil)
  | cons parameter parameters ih =>
    by_cases hresource : parameter.isResource = true
    · rw [resourceBindings_cons_of_pos hresource] at h
      change declaration ∈ _ :: declarations _ at h
      obtain rfl | h := List.mem_cons.mp h
      · rfl
      · exact ih h
    · rw [resourceBindings_cons_of_neg hresource] at h
      exact ih h

/-- A block is declared in its own set. -/
theorem set_of_mem_buildBindings {declaration : Declaration}
    (h : declaration ∈ declarations (buildBindings set pblock)) : declaration.set = set := by
  rw [buildBindings, declarations_append, declarations_buildResourceBindings,
    List.mem_append] at h
  obtain h | h := h
  · obtain ⟨-, hpieces⟩ | ⟨-, rest, hpieces, hrest, -⟩ := buildUniformBuffer_cases set pblock
    · rw [hpieces] at h
      exact absurd h List.not_mem_nil
    · rw [hpieces, declarations_cons, hrest, List.append_nil, Option.mem_toList] at h
      split at h
      · exact absurd h (by simp [Piece.declaration])
      · obtain rfl := Option.some.inj h
        rfl
  · exact set_of_mem_resourceBindings h

/-- In the whole source of a kernel, the third set is that of its images. -/
theorem compileKernel_declarations {sourceData : KernelSourceData}
    (hcount : sourceData.kernelShader.outputs.length < 2 ^ 32) :
    ∃ layout, vulkanParameterBlockLayout
        (buildParameterBlockLayout (compileKernel sourceData).2.paramsPblock 2) = some layout ∧
      (declarations (compileKernel sourceData).1).filter (fun declaration => declaration.set = 2) =
        layout.setLayout.map (·.declared 2) := by
  obtain ⟨layout, hlayout, hdeclared⟩ := kernel_declarations_eq_bindings
    { environment := sourceData.environment,
      computeShader := (buildKernelVaryings {} sourceData.kernelShader).2 }
    sourceData.kernelShader rfl hcount
  have hother : ∀ (set : Fin 4) (pblock : ParameterBlockDesc), (set : Nat) ≠ 2 →
      (declarations (buildBindings set pblock)).filter (fun declaration => declaration.set = 2) =
        [] := by
    intro set pblock hne
    rw [List.filter_eq_nil_iff]
    intro declaration h
    rw [set_of_mem_buildBindings h, decide_eq_true_iff]
    exact hne
  have hvaryings : declarations (buildKernelVaryings {} sourceData.kernelShader).1 = [] := by
    unfold buildKernelVaryings
    dsimp only
    rw [declarations_append, declarations_append, declarations_map_plain, declarations_map_plain]
    rfl
  refine ⟨layout, hlayout, ?_⟩
  unfold compileKernel
  dsimp only
  rw [declarations_append, declarations_append, declarations_append, declarations_append,
    declarations_append, hvaryings, List.filter_append, List.filter_append, List.filter_append,
    List.filter_append, List.filter_append, hother 0 _ (by decide), hother 1 _ (by decide),
    hdeclared]
  show [] ++ [] ++ [] ++ [] ++ [] ++ (layout.setLayout.map (·.declared 2)).filter _ = _
  rw [List.filter_eq_self.mpr]
  · rfl
  · intro declaration h
    obtain ⟨binding, -, rfl⟩ := List.mem_map.mp h
    rfl

/-! ### The bound on the number of bindings -/

/-- The layout of a block of resources whose number is 0 in 32 bits has no bindings. -/
theorem setLayout_of_length_wraps (set : Fin 4)
    (h : ∀ parameter ∈ pblock.parameters, parameter.isResource = true)
    (hwraps : pblock.parameters.length % 2 ^ 32 = 0) :
    ∃ layout, vulkanParameterBlockLayout (buildParameterBlockLayout pblock set) = some layout ∧
      layout.setLayout = [] := by
  have hexact := exactSize_eq_zero_iff.mpr h
  have hsize := uniformsSize_buildParameterBlockLayout (set : Int)
    (show pblock.exactSize < 2 ^ 32 by rw [hexact]; decide)
  have huniform : uniformBinding (buildParameterBlockLayout pblock set) = none := by
    unfold uniformBinding
    rw [if_neg]
    rw [gt_iff_lt, UInt32.lt_iff_toNat_lt, hsize, hexact]
    decide
  have htypes := resourceDescs_buildParameterBlockLayout pblock set
  rw [List.filter_eq_self.mpr h] at htypes
  obtain ⟨bindings, htextures⟩ := exists_textureBindings (i := 0)
    (show ∀ type ∈ (buildParameterBlockLayout pblock set).resourceDescs,
        isResourceType type = true by
      rw [htypes]
      intro type htype
      obtain ⟨parameter, hparameter, rfl⟩ := List.mem_map.mp htype
      exact h parameter hparameter)
  apply vulkanParameterBlockLayout_of_length_wraps htextures
  rw [huniform, Option.toList_none, List.nil_append, length_textureBindings htextures, htypes,
    List.length_map]
  exact hwraps

/-- Blocks with fewer than 2 ^ 32 bindings are declared as their layouts have them. -/
theorem shader_bindings_agree :
    (∀ (pblock : ParameterBlockDesc) (set : Fin 4),
      (∀ parameter ∈ pblock.parameters, parameter.isResource = true →
        parameter.type.arraySize = 0) →
      pblock.exactSize < 2 ^ 32 →
      (declarations (buildBindings set pblock)).length < 2 ^ 32 →
      ∃ layout, vulkanParameterBlockLayout (buildParameterBlockLayout pblock set) = some layout ∧
        declarations (buildBindings set pblock) = layout.setLayout.map (·.declared set) ∧
        declaresPushConstants (buildBindings set pblock) = layout.pushConstantRange.isSome) ∧
    ∀ (data : KernelData) (sourceStage : ShaderStageDefinition),
      data.paramsPblock.parameters = [] → sourceStage.outputs.length < 2 ^ 32 →
      ∃ layout, vulkanParameterBlockLayout
          (buildParameterBlockLayout (buildKernelEntrypoint data sourceStage).2.paramsPblock 2) =
            some layout ∧
        declarations (buildKernelEntrypoint data sourceStage).1 =
          layout.setLayout.map (·.declared 2) :=
  ⟨declarations_buildBindings, kernel_declarations_eq_bindings⟩

theorem shader_bindings_agree_interleaved :
    (∃ layout, vulkanParameterBlockLayout (buildParameterBlockLayout
        ⟨[⟨"shadows", ⟨.texture2DShadow, 0⟩⟩, ⟨"tints", ⟨.vector3, 5⟩⟩,
          ⟨"heights", ⟨.rwTexture2D, 0⟩⟩], 0⟩ 2) = some layout ∧
      declarations (buildBindings 2 ⟨[⟨"shadows", ⟨.texture2DShadow, 0⟩⟩,
        ⟨"tints", ⟨.vector3, 5⟩⟩, ⟨"heights", ⟨.rwTexture2D, 0⟩⟩], 0⟩) =
          layout.setLayout.map (·.declared 2) ∧
      declaresPushConstants (buildBindings 2 ⟨[⟨"shadows", ⟨.texture2DShadow, 0⟩⟩,
        ⟨"tints", ⟨.vector3, 5⟩⟩, ⟨"heights", ⟨.rwTexture2D, 0⟩⟩], 0⟩) =
          layout.pushConstantRange.isSome) ∧
    ∃ layout, vulkanParameterBlockLayout (buildParameterBlockLayout
        (buildKernelEntrypoint {} { outputs := [⟨"sum", ⟨.float, 0⟩⟩] }).2.paramsPblock 2) =
          some layout ∧
      declarations (buildKernelEntrypoint {} { outputs := [⟨"sum", ⟨.float, 0⟩⟩] }).1 =
        layout.setLayout.map (·.declared 2) :=
  ⟨shader_bindings_agree.1 _ 2 (by decide) (by decide) (by decide),
    shader_bindings_agree.2 _ _ rfl (by decide)⟩

/-- A block of 2 ^ 32 textures. -/
theorem shader_bindings_lost :
    let pblock : ParameterBlockDesc :=
      ⟨List.replicate (2 ^ 32) ⟨"image", ⟨.texture2D, 0⟩⟩, ShaderStageFlags.pixel⟩
    (∀ parameter ∈ pblock.parameters, parameter.isResource = true →
      parameter.type.arraySize = 0) ∧
    pblock.exactSize < 2 ^ 32 ∧
    ¬∃ layout, vulkanParameterBlockLayout (buildParameterBlockLayout pblock 2) = some layout ∧
      declarations (buildBindings 2 pblock) = layout.setLayout.map (·.declared 2) ∧
      declaresPushConstants (buildBindings 2 pblock) = layout.pushConstantRange.isSome := by
  intro pblock
  have hmem : ∀ parameter ∈ pblock.parameters, parameter = ⟨"image", ⟨.texture2D, 0⟩⟩ :=
    fun parameter h => List.eq_of_mem_replicate h
  have hresources : ∀ parameter ∈ pblock.parameters, parameter.isResource = true := by
    intro parameter h
    rw [hmem parameter h]
    rfl
  have hlength : pblock.parameters.length = 2 ^ 32 := List.length_replicate
  refine ⟨?_, ?_, ?_⟩
  · intro parameter h _
    rw [hmem parameter h]
  · rw [exactSize_eq_zero_iff.mpr hresources]
    decide
  · rintro ⟨layout, hlayout, hdeclared, -⟩
    obtain ⟨layout', hlayout', hnil⟩ := setLayout_of_length_wraps 2 hresources
      (by rw [hlength, Nat.mod_self])
    obtain rfl : layout = layout' := Option.some.inj (hlayout.symm.trans hlayout')
    have hcount := length_declarations_of_resources 2 hresources
    rw [hdeclared, hnil, List.map_nil, List.length_nil, hlength] at hcount
    exact absurd hcount (by decide)

end Teide
