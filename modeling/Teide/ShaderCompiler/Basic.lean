import Mathlib.Data.List.Basic
import Mathlib.Tactic.Common
import Teide.ShaderData.Basic

/-!
# The generated shader source

`ShaderCompiler` puts declarations in front of the source it is given: a uniform block or push
constants and the resources of each parameter block, and for a kernel the images its outputs are
stored in. The model keeps each piece of text with the arguments it is printed from (`Piece`), so
that what a piece declares need not be read back from the text. The functions return the pieces that
they append. The assertion about the output types of a kernel is not part of the model, nor is what
glslang makes of the source.
-/

namespace Teide.ShaderCompiler

structure ShaderStageDefinition where
  inputs : List ShaderVariable := []
  outputs : List ShaderVariable := []
  source : String := ""

structure KernelSourceData where
  environment : ShaderEnvironmentData := {}
  kernelShader : ShaderStageDefinition := {}

def pblockNames : Fin 4 → String
  | 0 => "Scene"
  | 1 => "View"
  | 2 => "Material"
  | 3 => "Object"

def pblockNamesLower : Fin 4 → String
  | 0 => "scene"
  | 1 => "view"
  | 2 => "material"
  | 3 => "object"

/-- What one call of `fmt::format_to` prints, or one `+=` adds. -/
inductive Piece where
  | pushConstants (name : String)
  | uniformBlock (set : Nat) (name : String)
  | member (type name : String)
  | endBlock (name : String)
  | resource (set : Nat) (slot : UInt64) (type name : String)
  | image (set : Nat) (slot : UInt64) (format type name : String)
  | plain (text : String)

def Piece.text : Piece → String
  | pushConstants name => "layout(push_constant) uniform " ++ name ++ " \x7b\n"
  | uniformBlock set name =>
    "layout(set = " ++ toString set ++ ", binding = 0) uniform " ++ name ++ " \x7b\n"
  | member type name => "    " ++ type ++ " " ++ name ++ ";\n"
  | endBlock name => "\x7d " ++ name ++ ";\n\n"
  | resource set slot type name =>
    "layout(set = " ++ toString set ++ ", binding = " ++ toString slot ++ ") uniform " ++ type ++
      " " ++ name ++ ";\n"
  | image set slot format type name =>
    "layout(set = " ++ toString set ++ ", binding = " ++ toString slot ++ ", " ++ format ++
      ") uniform " ++ type ++ " _" ++ name ++ "_image_;\n"
  | plain text => text

def sourceText (pieces : List Piece) : String := String.join (pieces.map Piece.text)

def buildUniformBuffer (set : Fin 4) (pblock : ParameterBlockDesc) : List Piece :=
  if pblock.parameters.countP (fun v => !isResourceType v.type.baseType) = 0 then
    -- no uniforms in the block
    []
  else
    let start :=
      if (buildParameterBlockLayout pblock set).isPushConstant then
        Piece.pushConstants (pblockNames set)
      else .uniformBlock set (pblockNames set)
    let members := pblock.parameters.filterMap fun variable_ =>
      if isResourceType variable_.type.baseType then none
      else some (.member variable_.type.text variable_.name)
    [start] ++ members ++ [.endBlock (pblockNamesLower set)]

/-- The loop of `BuildResourceBindings`. -/
def resourceBindings (set : Nat) (slot : UInt64) : List ShaderVariable → List Piece
  | [] => []
  | parameter :: parameters =>
    if isResourceType parameter.type.baseType then
      .resource set slot parameter.type.text parameter.name ::
        resourceBindings set (slot + 1) parameters
    else resourceBindings set slot parameters

def buildResourceBindings (set : Fin 4) (pblock : ParameterBlockDesc) : List Piece :=
  if pblock.parameters.countP (fun v => isResourceType v.type.baseType) = 0 then
    -- no resources in the block
    []
  else resourceBindings set 1 pblock.parameters ++ [.plain "\n"]

def buildBindings (set : Fin 4) (pblock : ParameterBlockDesc) : List Piece :=
  buildUniformBuffer set pblock ++ buildResourceBindings set pblock

def buildKernelVaryings (data : ShaderStageData) (sourceStage : ShaderStageDefinition) :
    List Piece × ShaderStageData :=
  let declare (v : ShaderVariable) := Piece.plain (v.type.text ++ " " ++ v.name ++ ";\n")
  (sourceStage.inputs.map declare ++ sourceStage.outputs.map declare ++ [.plain "\n"],
    { data with
      inputs := data.inputs ++ sourceStage.inputs
      outputs := data.outputs ++ sourceStage.outputs })

abbrev paramsSet : Nat := 2

/-- The first loop of `BuildKernelEntrypoint`. -/
def imageBindings (slot : UInt64) : List ShaderVariable → List Piece
  | [] => []
  | output :: outputs =>
    .image paramsSet slot "r32f" "image2D" output.name :: imageBindings (slot + 1) outputs

def resourceName (output : ShaderVariable) : String := "_" ++ output.name ++ "_image_"

/-- The parameters that the second loop of `BuildKernelEntrypoint` adds. -/
def imageParameters (outputs : List ShaderVariable) : List ShaderVariable :=
  outputs.map fun output => ⟨resourceName output, ⟨.rwTexture2D, 0⟩⟩

def buildKernelEntrypoint (data : KernelData) (sourceStage : ShaderStageDefinition) :
    List Piece × KernelData :=
  let stores := sourceStage.outputs.map fun output =>
    Piece.plain ("    imageStore(" ++ resourceName output ++
      ", ivec2(gl_GlobalInvocationID.xy), vec4(" ++ output.name ++ "));\n")
  -- slot 0 is for a uniform buffer
  (imageBindings 1 sourceStage.outputs ++
      [.plain "void main() \x7b\n", .plain "    _notreallymain_();\n"] ++ stores ++
      [.plain "\x7d\n"],
    { data with
      paramsPblock :=
        { data.paramsPblock with
          parameters := data.paramsPblock.parameters ++ imageParameters sourceStage.outputs } })

/-- The source that `Compile` generates for a kernel, and the data it fills in meanwhile. -/
def compileKernel (sourceData : KernelSourceData) : List Piece × KernelData :=
  let data : KernelData := { environment := sourceData.environment }
  let varyings := buildKernelVaryings data.computeShader sourceData.kernelShader
  let entrypoint := buildKernelEntrypoint { data with computeShader := varyings.2 }
    sourceData.kernelShader
  ([.plain "layout(local_size_x = 1, local_size_y = 1) in;\n",
      .plain "#define main() _notreallymain_()\n"] ++
      buildBindings 0 sourceData.environment.scenePblock ++
      buildBindings 1 sourceData.environment.viewPblock ++ varyings.1 ++
      [.plain sourceData.kernelShader.source, .plain "#undef main\n"] ++ entrypoint.1,
    entrypoint.2)

example : sourceText (buildBindings 2
    ⟨[⟨"shadows", ⟨.texture2DShadow, 0⟩⟩, ⟨"tints", ⟨.vector3, 5⟩⟩], 0⟩) =
    "layout(set = 2, binding = 0) uniform Material \x7b\n    vec3[5] tints;\n\x7d material;\n\n" ++
      "layout(set = 2, binding = 1) uniform sampler2DShadow shadows;\n\n" := by
  decide

end Teide.ShaderCompiler
