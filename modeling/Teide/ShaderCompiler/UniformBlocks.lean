import Mathlib.Data.Fintype.Basic
import Mathlib.Data.List.Basic
import Mathlib.Tactic.Common
import Mathlib.Tactic.FinCases
import Teide.ShaderCompiler.Reflection

/-!
# Uniform blocks of the user

`BuildReflection` looks the name of each uniform block up in `PblockNames` and writes through the
pointer at the index it finds. There are four pointers for a shader and two for a kernel, while a name
that is not found has index 4. Blocks that the user's source declares may have any name.

A step out of range is where the model stops; otherwise every parameter block has in the end the stages
that are reported for its name.
-/

namespace Teide.ShaderCompiler

/-- The place of a name in `PblockNames`, whose length it is for other names. -/
def pblockIndex (name : String) : Nat := ((List.finRange 4).map pblockNames).findIdx (· = name)

/-- One round of the loop of `BuildReflection`, for the blocks that the pointers are to; `none` where it
indexes past the end of the pointers. -/
def reflectInto (pblockDescs : List ParameterBlockDesc) (uniformBlock : UniformBlock) :
    Option (List ParameterBlockDesc) :=
  let set := pblockIndex uniformBlock.name
  pblockDescs[set]?.map fun pblock => pblockDescs.set set (reflectUniforms pblock uniformBlock)

def reflectAllInto (pblockDescs : List ParameterBlockDesc) (uniformBlocks : List UniformBlock) :
    Option (List ParameterBlockDesc) :=
  uniformBlocks.foldlM reflectInto pblockDescs

/-- `GetPblockLayouts` of a shader. -/
def shaderPblocks (data : ShaderData) : List ParameterBlockDesc :=
  (List.finRange 4).map (getPblock data)

/-- `GetPblockLayouts` of a kernel. -/
def kernelPblocks (data : KernelData) : List ParameterBlockDesc :=
  [data.environment.scenePblock, data.environment.viewPblock]

/-- The data of a kernel with other blocks behind the pointers. -/
def setKernelPblocks (data : KernelData) (pblockDescs : List ParameterBlockDesc) : KernelData :=
  match pblockDescs with
  | [scenePblock, viewPblock] => { data with environment := { scenePblock, viewPblock } }
  | _ => data

/-- What glslang makes of the source of a kernel. -/
abbrev KernelGlslang := ShaderLanguage → List Piece → Option (List UniformBlock)

/-- `Compile` of a kernel. -/
def compileKernelSource (glslang : KernelGlslang) (language : ShaderLanguage)
    (sourceData : KernelSourceData) : Option KernelData := do
  let (computeShader, data) := compileKernel sourceData
  let uniformBlocks ← glslang language computeShader
  let pblockDescs ← reflectAllInto (kernelPblocks data) uniformBlocks
  return setKernelPblocks data pblockDescs

/-! ### The property -/

/-- Every block is named after one of the parameter blocks that there are. -/
def KnownNames (count : Nat) (uniformBlocks : List UniformBlock) : Prop :=
  ∀ uniformBlock ∈ uniformBlocks, ∃ set : Fin 4, set.val < count ∧
    uniformBlock.name = pblockNames set

instance (count : Nat) (uniformBlocks : List UniformBlock) :
    Decidable (KnownNames count uniformBlocks) :=
  inferInstanceAs (Decidable (∀ uniformBlock ∈ _, _))

/-- A shader is compiled without a step out of range, and its blocks have the stages that are reported
for their names. -/
def ShaderReflected (glslang : Glslang) (sourceData : ShaderSourceData)
    (uniformBlocks : List UniformBlock) : Prop :=
  ∃ data, compile glslang sourceData = some data ∧ ∀ set, getPblock data set =
    withStages (getPblock (initialData sourceData) set) (reportedStages set uniformBlocks)

/-- The same for a kernel, of which nothing else changes. -/
structure KernelReflected (glslang : KernelGlslang) (language : ShaderLanguage)
    (sourceData : KernelSourceData) (uniformBlocks : List UniformBlock) : Prop where
  compiled : compileKernelSource glslang language sourceData =
    some { (compileKernel sourceData).2 with
      environment :=
        { scenePblock :=
            withStages sourceData.environment.scenePblock (reportedStages 0 uniformBlocks)
          viewPblock :=
            withStages sourceData.environment.viewPblock (reportedStages 1 uniformBlocks) } }

variable {pblockDescs pblockDescs' : List ParameterBlockDesc} {uniformBlock : UniformBlock}
  {uniformBlocks : List UniformBlock} {data : ShaderData}

/-! ### Names and indices -/

theorem pblockIndex_pblockNames (set : Fin 4) : pblockIndex (pblockNames set) = set.val := by
  revert set
  decide

theorem eq_pblockNames_of_pblockIndex {name : String} (set : Fin 4)
    (h : pblockIndex name = set.val) : name = pblockNames set := by
  unfold pblockIndex at h
  have hlt : ((List.finRange 4).map pblockNames).findIdx (· = name) <
      ((List.finRange 4).map pblockNames).length := by
    rw [h, List.length_map, List.length_finRange]
    exact set.isLt
  have hfound := List.findIdx_getElem (w := hlt)
  rw [List.getElem_map, List.getElem_finRange, decide_eq_true_iff] at hfound
  rw [← hfound]
  exact congrArg pblockNames (Fin.ext h)

theorem pblockIndex_lt_iff {count : Nat} (hcount : count ≤ 4) {name : String} :
    pblockIndex name < count ↔ ∃ set : Fin 4, set.val < count ∧ name = pblockNames set := by
  constructor
  · intro hlt
    have hlt' : pblockIndex name < 4 := Nat.lt_of_lt_of_le hlt hcount
    exact ⟨⟨pblockIndex name, hlt'⟩, hlt, eq_pblockNames_of_pblockIndex _ rfl⟩
  · rintro ⟨set, hlt, rfl⟩
    rwa [pblockIndex_pblockNames]

/-! ### The loop -/

theorem getElem?_reflectInto (h : reflectInto pblockDescs uniformBlock = some pblockDescs')
    (set : Fin 4) : pblockDescs'[set.val]? = pblockDescs[set.val]?.map fun pblock =>
      if uniformBlock.name = pblockNames set then reflectUniforms pblock uniformBlock
      else pblock := by
  obtain ⟨pblock, hpblock, rfl⟩ := Option.map_eq_some_iff.mp h
  by_cases hname : uniformBlock.name = pblockNames set
  · have hindex : pblockIndex uniformBlock.name = set.val := by
      rw [hname, pblockIndex_pblockNames]
    rw [hindex] at hpblock ⊢
    rw [List.getElem?_set_self (List.getElem?_eq_some_iff.mp hpblock).1, hpblock]
    simp [hname]
  · have hne : pblockIndex uniformBlock.name ≠ set.val :=
      fun heq => hname (eq_pblockNames_of_pblockIndex set heq)
    rw [List.getElem?_set_ne hne]
    simp [hname]

theorem length_reflectInto (h : reflectInto pblockDescs uniformBlock = some pblockDescs') :
    pblockDescs'.length = pblockDescs.length := by
  obtain ⟨pblock, -, rfl⟩ := Option.map_eq_some_iff.mp h
  exact List.length_set

theorem reflectInto_isSome_iff : (reflectInto pblockDescs uniformBlock).isSome = true ↔
    pblockIndex uniformBlock.name < pblockDescs.length := by
  unfold reflectInto
  simp

/-- Reflection stays in range exactly if all blocks are named after one of the parameter blocks. -/
theorem reflectAllInto_isSome_iff (hlength : pblockDescs.length ≤ 4) :
    (reflectAllInto pblockDescs uniformBlocks).isSome = true ↔
      KnownNames pblockDescs.length uniformBlocks := by
  induction uniformBlocks generalizing pblockDescs with
  | nil => exact iff_of_true rfl fun _ h => absurd h List.not_mem_nil
  | cons uniformBlock uniformBlocks ih =>
    unfold KnownNames reflectAllInto
    rw [List.forall_mem_cons, ← pblockIndex_lt_iff hlength, ← reflectInto_isSome_iff,
      List.foldlM_cons]
    cases hnext : reflectInto pblockDescs uniformBlock with
    | none => simp
    | some next =>
      have hnextLength := length_reflectInto hnext
      rw [← hnextLength] at hlength ⊢
      have hrest := ih hlength
      unfold KnownNames reflectAllInto at hrest
      simp [hrest]

/-- Each of the blocks has in the end the stages that are reported for its name. -/
theorem getElem?_reflectAllInto (h : reflectAllInto pblockDescs uniformBlocks = some pblockDescs')
    (set : Fin 4) : pblockDescs'[set.val]? =
      pblockDescs[set.val]?.map (withStages · (reportedStages set uniformBlocks)) := by
  induction uniformBlocks generalizing pblockDescs with
  | nil =>
    obtain rfl := Option.some.inj h
    exact Option.map_id_apply.symm
  | cons uniformBlock uniformBlocks ih =>
    unfold reflectAllInto at h
    rw [List.foldlM_cons] at h
    obtain ⟨next, hnext, hrest⟩ := Option.bind_eq_some_iff.mp h
    rw [ih hrest, getElem?_reflectInto hnext set, Option.map_map]
    simp only [Function.comp_def, withStages_cons]

/-! ### Shaders -/

theorem findSet_eq (name : String) :
    findSet name = if h : pblockIndex name < 4 then some ⟨pblockIndex name, h⟩ else none := by
  cases hfind : findSet name with
  | some set =>
    have hname := eq_pblockNames_of_findSet hfind
    have hindex : pblockIndex name = set.val := by rw [hname, pblockIndex_pblockNames]
    rw [dif_pos (hindex ▸ set.isLt)]
    exact congrArg some (Fin.ext hindex.symm)
  | none =>
    rw [dif_neg]
    intro hlt
    have hname := eq_pblockNames_of_pblockIndex ⟨pblockIndex name, hlt⟩ rfl
    have hnot := List.find?_eq_none.mp hfind _ (List.mem_finRange ⟨pblockIndex name, hlt⟩)
    exact hnot (decide_eq_true hname.symm)

theorem shaderPblocks_getElem? (data : ShaderData) (set : Fin 4) :
    (shaderPblocks data)[set.val]? = some (getPblock data set) := by
  unfold shaderPblocks
  rw [List.getElem?_map, List.getElem?_eq_getElem (by simp), List.getElem_finRange]
  rfl

theorem shaderPblocks_setPblock (data : ShaderData) (set : Fin 4) (pblock : ParameterBlockDesc) :
    shaderPblocks (setPblock data set pblock) = (shaderPblocks data).set set pblock := by
  fin_cases set <;> rfl

/-- A round of the loop writes the same block as through the pointers. -/
theorem map_reflectBlock (data : ShaderData) (uniformBlock : UniformBlock) :
    (reflectBlock data uniformBlock).map shaderPblocks =
      reflectInto (shaderPblocks data) uniformBlock := by
  unfold reflectBlock reflectInto
  dsimp only
  rw [findSet_eq]
  by_cases hlt : pblockIndex uniformBlock.name < 4
  · have hget := shaderPblocks_getElem? data ⟨pblockIndex uniformBlock.name, hlt⟩
    rw [dif_pos hlt, hget]
    exact congrArg some (shaderPblocks_setPblock _ _ _)
  · have hlength : (shaderPblocks data).length ≤ pblockIndex uniformBlock.name := by
      simpa [shaderPblocks] using hlt
    rw [dif_neg hlt, List.getElem?_eq_none hlength]
    rfl

theorem map_buildReflection (data : ShaderData) (uniformBlocks : List UniformBlock) :
    (buildReflection data uniformBlocks).map shaderPblocks =
      reflectAllInto (shaderPblocks data) uniformBlocks := by
  unfold buildReflection reflectAllInto
  induction uniformBlocks generalizing data with
  | nil => rfl
  | cons uniformBlock uniformBlocks ih =>
    rw [List.foldlM_cons, List.foldlM_cons, ← map_reflectBlock]
    cases reflectBlock data uniformBlock with
    | none => rfl
    | some next => exact ih next

theorem shaderReflected_iff {glslang : Glslang} {sourceData : ShaderSourceData}
    (hrun : runGlslang glslang sourceData = some uniformBlocks) :
    ShaderReflected glslang sourceData uniformBlocks ↔ KnownNames 4 uniformBlocks := by
  have hcompile : ∃ data, compile glslang sourceData = buildReflection data uniformBlocks ∧
      getPblock data = getPblock (initialData sourceData) := by
    unfold compile
    rw [hrun]
    refine ⟨_, rfl, ?_⟩
    funext set
    fin_cases set <;> rfl
  obtain ⟨start, hcompile, hstart⟩ := hcompile
  have hlength : (shaderPblocks start).length = 4 := by simp [shaderPblocks]
  have hknown : (reflectAllInto (shaderPblocks start) uniformBlocks).isSome = true ↔
      KnownNames (shaderPblocks start).length uniformBlocks :=
    reflectAllInto_isSome_iff (Nat.le_of_eq hlength)
  rw [hlength, ← map_buildReflection, Option.isSome_map] at hknown
  unfold ShaderReflected
  rw [← hknown, hcompile, ← hstart, Option.isSome_iff_exists]
  apply exists_congr
  intro data
  exact and_iff_left_of_imp fun hdata set => getPblock_buildReflection set uniformBlocks hdata

/-! ### Kernels -/

/-- Both blocks of a kernel have the stages that are reported for their names. -/
theorem eq_of_reflectAllInto_kernelPblocks {data : KernelData}
    (h : reflectAllInto (kernelPblocks data) uniformBlocks = some pblockDescs') :
    pblockDescs' = [withStages data.environment.scenePblock (reportedStages 0 uniformBlocks),
      withStages data.environment.viewPblock (reportedStages 1 uniformBlocks)] := by
  have hscene := getElem?_reflectAllInto h 0
  have hview := getElem?_reflectAllInto h 1
  have hend := getElem?_reflectAllInto h 2
  match pblockDescs' with
  | [] => exact nomatch hscene
  | [_] => exact nomatch hview
  | [scene, view] =>
    obtain rfl := Option.some.inj hscene
    obtain rfl := Option.some.inj hview
    rfl
  | _ :: _ :: _ :: _ => exact nomatch hend

theorem kernelReflected_iff {glslang : KernelGlslang} {language : ShaderLanguage}
    {sourceData : KernelSourceData}
    (hrun : glslang language (compileKernel sourceData).1 = some uniformBlocks) :
    KernelReflected glslang language sourceData uniformBlocks ↔ KnownNames 2 uniformBlocks := by
  have hknown : (reflectAllInto (kernelPblocks (compileKernel sourceData).2)
      uniformBlocks).isSome = true ↔ KnownNames 2 uniformBlocks :=
    reflectAllInto_isSome_iff (show 2 ≤ 4 by decide)
  have hcompile : compileKernelSource glslang language sourceData =
      (reflectAllInto (kernelPblocks (compileKernel sourceData).2) uniformBlocks).map
        (setKernelPblocks (compileKernel sourceData).2) := by
    unfold compileKernelSource
    dsimp only
    rw [hrun, Option.map_eq_bind]
    rfl
  rw [← hknown]
  cases hreflected : reflectAllInto (kernelPblocks (compileKernel sourceData).2) uniformBlocks with
  | none =>
    rw [hreflected] at hcompile
    refine iff_of_false (fun h => ?_) Bool.false_ne_true
    exact absurd (hcompile.symm.trans h.compiled) (by simp)
  | some pblockDescs' =>
    rw [hreflected] at hcompile
    obtain rfl := eq_of_reflectAllInto_kernelPblocks hreflected
    exact iff_of_true ⟨hcompile⟩ rfl

/-- **Reflection stays in range exactly if every uniform block that glslang reports is named after one of
the parameter blocks it can be attributed to**: four of them for a shader, two for a kernel. -/
theorem reflected_iff (glslang : Glslang) (kernelGlslang : KernelGlslang) :
    (∀ sourceData uniformBlocks, runGlslang glslang sourceData = some uniformBlocks →
      (ShaderReflected glslang sourceData uniformBlocks ↔ KnownNames 4 uniformBlocks)) ∧
    ∀ language sourceData uniformBlocks,
      kernelGlslang language (compileKernel sourceData).1 = some uniformBlocks →
        (KernelReflected kernelGlslang language sourceData uniformBlocks ↔
          KnownNames 2 uniformBlocks) :=
  ⟨fun _ _ => shaderReflected_iff, fun _ _ _ => kernelReflected_iff⟩

/-- A scene with a light, and a pixel shader of the user that may declare a block of its own. -/
def fogSource (declaration color : String) : ShaderSourceData where
  environment := { scenePblock := ⟨[⟨"lightDir", ⟨.vector3, 0⟩⟩], ShaderStageFlags.pixel⟩ }
  vertexShader := { source := "void main() \x7b gl_Position = vec4(0.0); \x7d" }
  pixelShader :=
    { outputs := [⟨"color", ⟨.vector4, 0⟩⟩]
      source := declaration ++ "void main() \x7b color = " ++ color ++ "; \x7d" }

def exposureKernel (declaration value : String) : KernelSourceData where
  kernelShader :=
    { outputs := [⟨"value", ⟨.float, 0⟩⟩]
      source := declaration ++ "void main() \x7b value = " ++ value ++ "; \x7d" }

/-- A kernel that takes the exposure from the scene. -/
def sceneKernel : KernelSourceData :=
  { exposureKernel "" "scene.exposure" with
    environment := { scenePblock := ⟨[⟨"exposure", ⟨.float, 0⟩⟩], ShaderStageFlags.pixel⟩ } }

/-- No blocks but the generated ones. -/
theorem reflected_iff_fogSource :
    ShaderReflected (fun _ _ _ => some [⟨"Scene", 0x10⟩])
        (fogSource "" "vec4(scene.lightDir, 1.0)") [⟨"Scene", 0x10⟩] ∧
      KernelReflected (fun _ _ => some [⟨"Scene", 0x20⟩]) .glsl sceneKernel [⟨"Scene", 0x20⟩] := by
  obtain ⟨hshader, hkernel⟩ := reflected_iff (fun _ _ _ => some [⟨"Scene", 0x10⟩])
    (fun _ _ => some [⟨"Scene", 0x20⟩])
  exact ⟨(hshader _ _ rfl).mpr (by decide), (hkernel _ _ _ rfl).mpr (by decide)⟩

/-- A shader that declares a block with a name of its own, and a kernel that declares one named after a
block that kernels do not have. -/
theorem not_reflected :
    (¬ ∀ (glslang : Glslang) sourceData uniformBlocks,
      runGlslang glslang sourceData = some uniformBlocks →
        ShaderReflected glslang sourceData uniformBlocks) ∧
    ¬ ∀ (glslang : KernelGlslang) language sourceData uniformBlocks,
      glslang language (compileKernel sourceData).1 = some uniformBlocks →
        KernelReflected glslang language sourceData uniformBlocks := by
  constructor
  · intro h
    have hreflected := h (fun _ _ _ => some [⟨"Scene", 0x10⟩, ⟨"Fog", 0x10⟩])
      (fogSource "layout(set = 2, binding = 0) uniform Fog \x7b vec4 color; \x7d fog;\n"
        "fog.color + vec4(scene.lightDir, 1.0)") _ rfl
    exact absurd ((shaderReflected_iff rfl).mp hreflected) (by decide)
  · intro h
    have hreflected := h (fun _ _ => some [⟨"Material", 0x20⟩]) .glsl
      (exposureKernel
        "layout(set = 2, binding = 8) uniform Material \x7b float exposure; \x7d material;\n"
        "material.exposure") _ rfl
    exact absurd ((kernelReflected_iff rfl).mp hreflected) (by decide)

end Teide.ShaderCompiler
