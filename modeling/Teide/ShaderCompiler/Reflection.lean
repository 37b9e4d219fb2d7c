import Mathlib.Data.Fintype.Basic
import Mathlib.Data.List.Basic
import Mathlib.Tactic.Common
import Mathlib.Tactic.FinCases
import Teide.ShaderCompiler.Basic

/-!
# Compiling vertex and pixel shaders

`Compile` puts the same declarations in front of both stages, has glslang compile and link them, and
fills in the stages of each uniform block from the reflection that glslang builds. glslang is a
parameter of the model: given the sources, it fails or returns the uniform blocks with their names and
stages. The instructions that it generates are left out.

Reflection replaces the stages of a block that it reports, whatever they were, and keeps those of the
others.
-/

namespace Teide

structure ShaderData where
  environment : ShaderEnvironmentData := {}
  materialPblock : ParameterBlockDesc := {}
  objectPblock : ParameterBlockDesc := {}
  vertexShader : ShaderStageData := {}
  pixelShader : ShaderStageData := {}

namespace ShaderCompiler

inductive ShaderLanguage where
  | glsl | hlsl
  deriving DecidableEq

structure ShaderSourceData where
  language : ShaderLanguage := .glsl
  environment : ShaderEnvironmentData := {}
  materialPblock : ParameterBlockDesc := {}
  objectPblock : ParameterBlockDesc := {}
  vertexShader : ShaderStageDefinition := {}
  pixelShader : ShaderStageDefinition := {}

/-- A mask of glslang, with one bit for each stage. -/
abbrev EShLanguageMask := UInt32

def eShLangVertexMask : EShLanguageMask := (1 : UInt32) <<< 0
def eShLangFragmentMask : EShLanguageMask := (1 : UInt32) <<< 4

/-- `TObjectReflection` of a uniform block. -/
structure UniformBlock where
  name : String
  stages : EShLanguageMask
  deriving DecidableEq

/-- What glslang makes of the sources of the two stages: nothing if it reports an error, and else the
uniform blocks of the linked program in the order of their indices. -/
abbrev Glslang := ShaderLanguage → List Piece → List Piece → Option (List UniformBlock)

/-- The stages that the program does not know are dropped. -/
def getShaderStageFlags (lang : EShLanguageMask) : ShaderStageFlags :=
  let ret : ShaderStageFlags := 0
  let ret := if lang &&& eShLangVertexMask ≠ 0 then ret ||| ShaderStageFlags.vertex else ret
  if lang &&& eShLangFragmentMask ≠ 0 then ret ||| ShaderStageFlags.pixel else ret

/-- `GetPblockLayouts`: the block of a set. -/
def getPblock (data : ShaderData) : Fin 4 → ParameterBlockDesc
  | 0 => data.environment.scenePblock
  | 1 => data.environment.viewPblock
  | 2 => data.materialPblock
  | 3 => data.objectPblock

/-- Writing through the pointer that `GetPblockLayouts` returns for a set. -/
def setPblock (data : ShaderData) (set : Fin 4) (pblock : ParameterBlockDesc) : ShaderData :=
  match set with
  | 0 => { data with environment := { data.environment with scenePblock := pblock } }
  | 1 => { data with environment := { data.environment with viewPblock := pblock } }
  | 2 => { data with materialPblock := pblock }
  | 3 => { data with objectPblock := pblock }

def reflectUniforms (pblock : ParameterBlockDesc) (uniformBlock : UniformBlock) :
    ParameterBlockDesc :=
  { pblock with uniformsStages := getShaderStageFlags uniformBlock.stages }

/-- Where a name is found in `PblockNames`. -/
def findSet (name : String) : Option (Fin 4) :=
  (List.finRange 4).find? fun set => pblockNames set = name

/-- One round of the loop of `BuildReflection`. For a name that is not in `PblockNames` it indexes one
past the end of the pointers. -/
def reflectBlock (data : ShaderData) (uniformBlock : UniformBlock) : Option ShaderData := do
  let set ← findSet uniformBlock.name
  return setPblock data set (reflectUniforms (getPblock data set) uniformBlock)

def buildReflection (data : ShaderData) (uniformBlocks : List UniformBlock) : Option ShaderData :=
  uniformBlocks.foldlM reflectBlock data

def isUserParam (param : ShaderVariable) : Bool := !param.name.startsWith "gl_"

/-- One of the two loops of `BuildVaryings`: the declarations, and the variables with the new ones
added. -/
def varyings (qualifier : String) (vars : List ShaderVariable) :
    List ShaderVariable → List Piece × List ShaderVariable
  | [] => ([], vars)
  | v :: vs =>
    let piece := Piece.plain ("layout(location = " ++ toString vars.length ++ ") " ++ qualifier ++
      " " ++ v.type.text ++ " " ++ v.name ++ ";\n")
    let rest := varyings qualifier (vars ++ [v]) vs
    (piece :: rest.1, rest.2)

def buildVaryings (data : ShaderStageData) (sourceStage : ShaderStageDefinition) :
    List Piece × ShaderStageData :=
  let inputs := varyings "in" data.inputs (sourceStage.inputs.filter isUserParam)
  let outputs := varyings "out" data.outputs (sourceStage.outputs.filter isUserParam)
  (inputs.1 ++ outputs.1 ++ [.plain "\n"], { data with inputs := inputs.2, outputs := outputs.2 })

/-- The data that `Compile` starts from. -/
def initialData (sourceData : ShaderSourceData) : ShaderData :=
  { environment := sourceData.environment
    materialPblock := sourceData.materialPblock
    objectPblock := sourceData.objectPblock }

/-- The declarations in front of both stages: `BuildBindings` of the sets 0 to 3. -/
def buildParameters (sourceData : ShaderSourceData) : List Piece :=
  (List.finRange 4).flatMap fun set => buildBindings set (getPblock (initialData sourceData) set)

/-- The source of a stage that `Compile` generates, and the data of the stage. -/
def buildStage (parameters : List Piece) (sourceStage : ShaderStageDefinition) :
    List Piece × ShaderStageData :=
  let varyings := buildVaryings {} sourceStage
  (parameters ++ varyings.1 ++ [.plain sourceStage.source], varyings.2)

/-- What glslang makes of the generated sources. -/
def runGlslang (glslang : Glslang) (sourceData : ShaderSourceData) : Option (List UniformBlock) :=
  let parameters := buildParameters sourceData
  glslang sourceData.language (buildStage parameters sourceData.vertexShader).1
    (buildStage parameters sourceData.pixelShader).1

/-- `Compile`, if glslang reports no error and every uniform block is one of a parameter block. -/
def compile (glslang : Glslang) (sourceData : ShaderSourceData) : Option ShaderData := do
  let parameters := buildParameters sourceData
  let data : ShaderData :=
    { initialData sourceData with
      vertexShader := (buildStage parameters sourceData.vertexShader).2
      pixelShader := (buildStage parameters sourceData.pixelShader).2 }
  let uniformBlocks ← runGlslang glslang sourceData
  buildReflection data uniformBlocks

/-! ### What reflection does -/

variable {data data' : ShaderData} {set : Fin 4}

/-- The stages that are reported last for the block of a set. -/
def reportedStages (set : Fin 4) : List UniformBlock → Option EShLanguageMask
  | [] => none
  | uniformBlock :: uniformBlocks =>
    (reportedStages set uniformBlocks).or
      (if uniformBlock.name = pblockNames set then some uniformBlock.stages else none)

/-- A block with the stages that reflection reports for it. -/
def withStages (pblock : ParameterBlockDesc) (stages : Option EShLanguageMask) :
    ParameterBlockDesc :=
  { pblock with uniformsStages := (stages.map getShaderStageFlags).getD pblock.uniformsStages }

theorem pblockNames_injective {a b : Fin 4} (h : pblockNames a = pblockNames b) : a = b := by
  revert a b
  decide

theorem eq_pblockNames_of_findSet {name : String} (h : findSet name = some set) :
    name = pblockNames set := by
  have hfound := List.find?_some h
  exact (of_decide_eq_true hfound).symm

theorem getPblock_setPblock (data : ShaderData) (set other : Fin 4) (pblock : ParameterBlockDesc) :
    getPblock (setPblock data set pblock) other =
      if other = set then pblock else getPblock data other := by
  fin_cases set <;> fin_cases other <;> rfl

/-- One block more: only the stages of its set change. -/
theorem getPblock_reflectBlock {uniformBlock : UniformBlock}
    (h : reflectBlock data uniformBlock = some data') :
    getPblock data' set = if uniformBlock.name = pblockNames set then
      reflectUniforms (getPblock data set) uniformBlock else getPblock data set := by
  unfold reflectBlock at h
  obtain ⟨found, hfind, hdata⟩ := Option.bind_eq_some_iff.mp h
  obtain rfl := Option.some.inj hdata
  rw [eq_pblockNames_of_findSet hfind, getPblock_setPblock]
  by_cases hset : set = found
  · rw [hset, if_pos rfl, if_pos rfl]
  · rw [if_neg hset, if_neg fun hname => hset (pblockNames_injective hname).symm]

/-- The first block matters where no later one has its name. -/
theorem withStages_cons (pblock : ParameterBlockDesc) (set : Fin 4) (uniformBlock : UniformBlock)
    (uniformBlocks : List UniformBlock) :
    withStages (if uniformBlock.name = pblockNames set then reflectUniforms pblock uniformBlock
        else pblock) (reportedStages set uniformBlocks) =
      withStages pblock (reportedStages set (uniformBlock :: uniformBlocks)) := by
  rw [reportedStages]
  cases reportedStages set uniformBlocks with
  | some stages =>
    split
    · rfl
    · rfl
  | none =>
    split
    · rfl
    · rfl

/-- After all blocks, the stages are those reported last, or the given ones if none were reported. -/
theorem getPblock_buildReflection (set : Fin 4) (uniformBlocks : List UniformBlock)
    (h : buildReflection data uniformBlocks = some data') :
    getPblock data' set = withStages (getPblock data set) (reportedStages set uniformBlocks) := by
  induction uniformBlocks generalizing data with
  | nil =>
    obtain rfl := Option.some.inj h
    rfl
  | cons uniformBlock uniformBlocks ih =>
    unfold buildReflection at h
    rw [List.foldlM_cons] at h
    obtain ⟨next, hnext, hrest⟩ := Option.bind_eq_some_iff.mp h
    rw [ih hrest, getPblock_reflectBlock hnext, withStages_cons]

/-- The parameter blocks of compiled shaders are those of the source, up to the stages. -/
theorem getPblock_compile {glslang : Glslang} {sourceData : ShaderSourceData}
    {uniformBlocks : List UniformBlock} (hrun : runGlslang glslang sourceData = some uniformBlocks)
    (h : compile glslang sourceData = some data) :
    data.environment.scenePblock =
        withStages sourceData.environment.scenePblock (reportedStages 0 uniformBlocks) ∧
      data.environment.viewPblock =
        withStages sourceData.environment.viewPblock (reportedStages 1 uniformBlocks) := by
  unfold compile at h
  rw [hrun, Option.bind_eq_bind, Option.bind_some] at h
  exact ⟨getPblock_buildReflection 0 uniformBlocks h,
    getPblock_buildReflection 1 uniformBlocks h⟩

end ShaderCompiler

end Teide
