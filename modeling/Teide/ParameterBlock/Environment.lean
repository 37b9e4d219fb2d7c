import Mathlib.Algebra.Ring.Nat
import Mathlib.Order.Lattice
import Mathlib.Tactic.Common
import Teide.ParameterBlock.Layout
import Teide.ShaderCompiler.Reflection

/-!
# Shader environments and the shaders compiled with them

The descriptor set layouts of the scene and the view block are created twice: for the environment, from
the data that the user gives, and for each shader that is compiled with this data, from what `Compile`
returns. The second time the stages of the uniform buffer come from reflection. The renderer binds the
sets of the environment to pipelines of the shader, for which the two have to be the same.
-/

namespace Teide

/-- Parameter block layouts are only created if their resources are known types and fit in memory. -/
def createParameterBlockLayout (desc : ParameterBlockDesc) (set : Int) :
    Option VulkanParameterBlockLayout :=
  vulkanParameterBlockLayout (buildParameterBlockLayout desc set)

structure VulkanShaderEnvironment where
  scenePblockLayout : VulkanParameterBlockLayout
  viewPblockLayout : VulkanParameterBlockLayout

/-- The parameter block layouts of a `VulkanShader`. -/
structure VulkanShader where
  scenePblockLayout : VulkanParameterBlockLayout
  viewPblockLayout : VulkanParameterBlockLayout
  materialPblockLayout : VulkanParameterBlockLayout
  objectPblockLayout : VulkanParameterBlockLayout

def createShaderEnvironment (data : ShaderEnvironmentData) : Option VulkanShaderEnvironment := do
  let scenePblockLayout ← createParameterBlockLayout data.scenePblock 0
  let viewPblockLayout ← createParameterBlockLayout data.viewPblock 1
  return { scenePblockLayout, viewPblockLayout }

def createShader (data : ShaderData) : Option VulkanShader := do
  let scenePblockLayout ← createParameterBlockLayout data.environment.scenePblock 0
  let viewPblockLayout ← createParameterBlockLayout data.environment.viewPblock 1
  let materialPblockLayout ← createParameterBlockLayout data.materialPblock 2
  let objectPblockLayout ← createParameterBlockLayout data.objectPblock 3
  return { scenePblockLayout, viewPblockLayout, materialPblockLayout, objectPblockLayout }

/-! ### The same block with other stages -/

variable {pblock : ParameterBlockDesc} {set : Int}

/-- The stages of a block are only passed on. -/
theorem buildParameterBlockLayout_stages (parameters : List ShaderVariable) (set : Int)
    (stages stages' : ShaderStageFlags) : buildParameterBlockLayout ⟨parameters, stages'⟩ set =
      { buildParameterBlockLayout ⟨parameters, stages⟩ set with uniformsStages := stages' } := by
  have hfold (bindings : ParameterBlockLayoutData) (s : ShaderStageFlags) :
      parameters.foldl addParameter { bindings with uniformsStages := s } =
        { parameters.foldl addParameter bindings with uniformsStages := s } := by
    induction parameters generalizing bindings with
    | nil => rfl
    | cons parameter parameters ih =>
      have hadd : addParameter { bindings with uniformsStages := s } parameter =
          { addParameter bindings parameter with uniformsStages := s } := by
        unfold addParameter addUniformBinding addResourceBinding
        cases parameter.type.baseType <;> dsimp only
        split <;> rfl
      rw [List.foldl_cons, List.foldl_cons, hadd, ih]
  unfold buildParameterBlockLayout
  dsimp only
  rw [hfold {} stages', hfold {} stages]
  split <;> rfl

/-- The block has uniforms, and not so many resources that Vulkan is given no bindings at all. -/
def HasUniformBuffer (pblock : ParameterBlockDesc) (set : Int) : Prop :=
  0 < (buildParameterBlockLayout pblock set).uniformsSize ∧
    pblock.parameters.countP ShaderVariable.isResource + 1 < 2 ^ 32

/-- A list that fits is handed on as it is. Of two others of one length, nothing is told apart. -/
theorem vkexArray_eq_iff {α : Type*} {l l' : List α} (hlength : l.length = l'.length) :
    vkexArray l = vkexArray l' ↔ (l.length < 2 ^ 32 → l = l') := by
  by_cases hlt : l.length < 2 ^ 32
  · rw [vkexArray_of_length_lt hlt, vkexArray_of_length_lt (hlength ▸ hlt), Option.some.injEq]
    exact ⟨fun h _ => h, fun h => h hlt⟩
  · have hnone (range : List α) (h : range.length = l.length) :
        vkexArray range = if UInt32.ofNat l.length > 0 then none else some [] := by
      have hgt : ¬ l.length ≤ (UInt32.ofNat l.length).toNat := by
        have hsize := (UInt32.ofNat l.length).toNat_lt
        omega
      unfold vkexArray
      dsimp only
      rw [h, if_neg hgt]
    rw [hnone l rfl, hnone l' hlength.symm]
    exact ⟨fun _ h => absurd h hlt, fun _ => rfl⟩

theorem isPushConstant_eq_false (pblock : ParameterBlockDesc) (h : set ≠ 3) :
    (buildParameterBlockLayout pblock set).isPushConstant = false := by
  have hfold (parameters : List ShaderVariable) (bindings : ParameterBlockLayoutData) :
      (parameters.foldl addParameter bindings).isPushConstant = bindings.isPushConstant := by
    induction parameters generalizing bindings with
    | nil => rfl
    | cons parameter parameters ih =>
      rw [List.foldl_cons, ih]
      cases hresource : parameter.isResource with
      | true => rw [addParameter_of_resource hresource, addResourceBinding]
      | false => rw [addParameter_of_uniform hresource, addUniformBinding]
  unfold buildParameterBlockLayout
  dsimp only
  rw [if_neg fun hand => h hand.1, hfold]

/-- The bindings that a descriptor set layout is created with. -/
theorem map_setLayout (data : ParameterBlockLayoutData) :
    (vulkanParameterBlockLayout data).map VulkanParameterBlockLayout.setLayout =
      (textureBindings 0 data.resourceDescs).bind fun bindings =>
        vkexArray ((uniformBinding data).toList ++ bindings) := by
  unfold vulkanParameterBlockLayout
  cases textureBindings 0 data.resourceDescs with
  | none => rfl
  | some bindings =>
    rw [Option.bind_eq_bind, Option.bind_some, Option.bind_some]
    cases vkexArray ((uniformBinding data).toList ++ bindings) with
    | none => rfl
    | some kept => rfl

/-- Outside the object block, other stages make other bindings exactly if there is a uniform buffer and
Vulkan distinguishes the stages. -/
theorem setLayout_stages_iff (stages stages' : ShaderStageFlags)
    (parameters : List ShaderVariable) (hset : set ≠ 3) :
    (createParameterBlockLayout ⟨parameters, stages'⟩ set).map
        VulkanParameterBlockLayout.setLayout =
      (createParameterBlockLayout ⟨parameters, stages⟩ set).map
        VulkanParameterBlockLayout.setLayout ↔
      (HasUniformBuffer ⟨parameters, stages⟩ set →
        getShaderStageFlags stages' = getShaderStageFlags stages) := by
  have hresources := resourceDescs_buildParameterBlockLayout ⟨parameters, stages⟩ set
  have hpush := isPushConstant_eq_false ⟨parameters, stages⟩ hset
  unfold createParameterBlockLayout HasUniformBuffer
  rw [buildParameterBlockLayout_stages parameters set stages stages', map_setLayout, map_setLayout]
  have hstages : (buildParameterBlockLayout ⟨parameters, stages⟩ set).uniformsStages = stages :=
    congrArg ParameterBlockLayoutData.uniformsStages
      (buildParameterBlockLayout_stages parameters set stages stages)
  generalize buildParameterBlockLayout ⟨parameters, stages⟩ set = data at *
  dsimp only at hresources ⊢
  have hresourceTypes : ∀ type ∈ data.resourceDescs, isResourceType type = true := by
    intro type htype
    rw [hresources] at htype
    obtain ⟨parameter, hparameter, rfl⟩ := List.mem_map.mp htype
    exact (List.mem_filter.mp hparameter).2
  obtain ⟨bindings, hbindings⟩ := exists_textureBindings (i := 0) hresourceTypes
  have hlength := length_textureBindings hbindings
  rw [hresources, List.length_map, ← List.countP_eq_length_filter] at hlength
  rw [hbindings, Option.bind_some, Option.bind_some]
  unfold uniformBinding
  dsimp only
  rw [hpush, hstages]
  by_cases hsize : data.uniformsSize > 0
  · rw [if_pos hsize, if_pos hsize, vkexArray_eq_iff (by simp)]
    simp [hsize, hlength]
  · rw [if_neg hsize, if_neg hsize]
    simp [hsize]

/-! ### Shaders compiled with an environment -/

open ShaderCompiler (Glslang ShaderSourceData UniformBlock EShLanguageMask reportedStages withStages
  runGlslang compile)

/-- The set layouts that the renderer binds the scene and the view set with are those of the shader. -/
def UsableWith (environment : VulkanShaderEnvironment) (shader : VulkanShader) : Prop :=
  shader.scenePblockLayout.setLayout = environment.scenePblockLayout.setLayout ∧
    shader.viewPblockLayout.setLayout = environment.viewPblockLayout.setLayout

instance (environment : VulkanShaderEnvironment) (shader : VulkanShader) :
    Decidable (UsableWith environment shader) :=
  inferInstanceAs (Decidable (_ ∧ _))

/-- The stages that the user names for the uniforms of a block are those that use it, for Vulkan. A
block that reflection does not report keeps what the user names. -/
def NamesStages (pblock : ParameterBlockDesc) (set : Fin 4) (uniformBlocks : List UniformBlock) :
    Prop :=
  HasUniformBuffer pblock set.val → ∀ stages ∈ reportedStages set uniformBlocks,
    getShaderStageFlags (ShaderCompiler.getShaderStageFlags stages) =
      getShaderStageFlags pblock.uniformsStages

theorem setLayout_withStages_iff (set : Fin 4) (hset : set ≠ 3)
    (uniformBlocks : List UniformBlock) {layout layout' : VulkanParameterBlockLayout}
    (h : createParameterBlockLayout pblock set.val = some layout)
    (h' : createParameterBlockLayout (withStages pblock (reportedStages set uniformBlocks)) set.val =
      some layout') :
    layout'.setLayout = layout.setLayout ↔ NamesStages pblock set uniformBlocks := by
  have hne : (set.val : Int) ≠ 3 := by
    intro heq
    exact hset (Fin.ext (by exact_mod_cast heq))
  have hiff := setLayout_stages_iff pblock.uniformsStages
    (withStages pblock (reportedStages set uniformBlocks)).uniformsStages pblock.parameters hne
  have hmap := congrArg (Option.map VulkanParameterBlockLayout.setLayout) h
  have hmap' := congrArg (Option.map VulkanParameterBlockLayout.setLayout) h'
  have heq : layout'.setLayout = layout.setLayout ↔
      some layout'.setLayout = some layout.setLayout := by
    rw [Option.some.injEq]
  rw [heq, ← Option.map_some, ← hmap', ← Option.map_some, ← hmap]
  refine hiff.trans ?_
  unfold NamesStages withStages
  cases reportedStages set uniformBlocks with
  | none => simp
  | some stages => simp

/-- A compiled shader is usable with its environment exactly if the user has named, for the uniforms of
the scene and of the view, the stages that reflection then reports. -/
theorem usableWith_iff (glslang : Glslang) (sourceData : ShaderSourceData)
    (uniformBlocks : List UniformBlock) (data : ShaderData) (environment : VulkanShaderEnvironment)
    (shader : VulkanShader) (hrun : runGlslang glslang sourceData = some uniformBlocks)
    (hcompile : compile glslang sourceData = some data)
    (henvironment : createShaderEnvironment sourceData.environment = some environment)
    (hshader : createShader data = some shader) :
    UsableWith environment shader ↔
      NamesStages sourceData.environment.scenePblock 0 uniformBlocks ∧
        NamesStages sourceData.environment.viewPblock 1 uniformBlocks := by
  obtain ⟨hscene, hview⟩ := ShaderCompiler.getPblock_compile hrun hcompile
  unfold createShaderEnvironment at henvironment
  simp only [Option.bind_eq_bind, Option.bind_eq_some_iff] at henvironment
  obtain ⟨scene, hscene₁, view, hview₁, henv⟩ := henvironment
  unfold createShader at hshader
  simp only [Option.bind_eq_bind, Option.bind_eq_some_iff] at hshader
  obtain ⟨scene', hscene₂, view', hview₂, material, -, object, -, hvulkan⟩ := hshader
  obtain rfl := Option.some.inj henv
  obtain rfl := Option.some.inj hvulkan
  rw [hscene] at hscene₂
  rw [hview] at hview₂
  exact and_congr (setLayout_withStages_iff 0 (by decide) uniformBlocks hscene₁ hscene₂)
    (setLayout_withStages_iff 1 (by decide) uniformBlocks hview₁ hview₂)

/-- An environment with a light and a matrix, whose uniforms the user gives to these stages. -/
def lightSource (scene view : ShaderStageFlags) : ShaderSourceData :=
  { environment :=
      { scenePblock := ⟨[⟨"lightDir", ⟨.vector3, 0⟩⟩], scene⟩
        viewPblock := ⟨[⟨"viewProj", ⟨.matrix4, 0⟩⟩], view⟩ }
    vertexShader := { source := "void main() { gl_Position = view.viewProj[3]; }" }
    pixelShader := { source := "void main() { vec3 l = scene.lightDir; }" } }

/-- The scene is used by the pixel shader and the view by the vertex shader. -/
def lightBlocks : List UniformBlock := [⟨"Scene", 0x10⟩, ⟨"View", 0x1⟩]

def lightGlslang : Glslang := fun _ _ _ => some lightBlocks

theorem usableWith_iff_lightSource : ∃ data environment shader,
    let sourceData := lightSource ShaderStageFlags.pixel ShaderStageFlags.vertex
    compile lightGlslang sourceData = some data ∧ createShader data = some shader ∧
      createShaderEnvironment sourceData.environment = some environment ∧
        UsableWith environment shader := by
  have hscene : NamesStages ⟨[⟨"lightDir", ⟨.vector3, 0⟩⟩], ShaderStageFlags.pixel⟩ 0
      lightBlocks := by
    intro _ stages hstages
    have hreported : reportedStages 0 lightBlocks = some 0x10 := rfl
    rw [hreported, Option.mem_some_iff] at hstages
    rw [← hstages]
    rfl
  have hview : NamesStages ⟨[⟨"viewProj", ⟨.matrix4, 0⟩⟩], ShaderStageFlags.vertex⟩ 1
      lightBlocks := by
    intro _ stages hstages
    have hreported : reportedStages 1 lightBlocks = some 0x1 := rfl
    rw [hreported, Option.mem_some_iff] at hstages
    rw [← hstages]
    rfl
  exact ⟨_, _, _, rfl, rfl, rfl, (usableWith_iff lightGlslang
    (lightSource ShaderStageFlags.pixel ShaderStageFlags.vertex) lightBlocks _ _ _ rfl rfl rfl
    rfl).mpr ⟨hscene, hview⟩⟩

/-- The user names no stages, as `ShaderEnvironmentData` does by default. -/
theorem not_usableWith : ¬ ∀ (glslang : Glslang) (sourceData : ShaderSourceData)
    (uniformBlocks : List UniformBlock) (data : ShaderData) (environment : VulkanShaderEnvironment)
    (shader : VulkanShader), runGlslang glslang sourceData = some uniformBlocks →
      compile glslang sourceData = some data →
      createShaderEnvironment sourceData.environment = some environment →
      createShader data = some shader → UsableWith environment shader := by
  intro h
  have husable := h lightGlslang (lightSource 0 0) lightBlocks _ _ _ rfl rfl rfl rfl
  exact absurd husable (by decide)

end Teide
