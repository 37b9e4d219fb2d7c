import Mathlib.Data.List.Basic
import Mathlib.Tactic.Common

/-!
# Parameter blocks and their layout

A parameter block is described by a list of parameters, uniforms and resources in any order.
`BuildParameterBlockLayout` gives each uniform its offset, in 32-bit unsigned arithmetic, and lists
the resources. It decides that the uniforms of the object block (set 3) are push constants when they
are small enough. The assertion about resource arrays is not part of the model: it does nothing in a
release build.
-/

namespace Teide

/-- Flag sets are numbers with one bit for each flag. -/
abbrev ShaderStageFlags := UInt8

namespace ShaderStageFlags

def vertex : ShaderStageFlags := (1 : UInt8) <<< 0
def pixel : ShaderStageFlags := (1 : UInt8) <<< 1
def compute : ShaderStageFlags := (1 : UInt8) <<< 2

end ShaderStageFlags

/-- `ShaderVariableType::BaseType`. -/
inductive BaseType where
  | float | vector2 | vector3 | vector4 | matrix4
  | texture2D | texture2DShadow | rwTexture2D
  deriving DecidableEq

structure ShaderVariableType where
  baseType : BaseType
  arraySize : UInt32 := 0
  deriving DecidableEq

structure ShaderVariable where
  name : String
  type : ShaderVariableType
  deriving DecidableEq

structure ParameterBlockDesc where
  parameters : List ShaderVariable := []
  uniformsStages : ShaderStageFlags := 0
  deriving DecidableEq

structure ShaderEnvironmentData where
  scenePblock : ParameterBlockDesc := {}
  viewPblock : ParameterBlockDesc := {}

structure ShaderStageData where
  inputs : List ShaderVariable := []
  outputs : List ShaderVariable := []

structure KernelData where
  environment : ShaderEnvironmentData := {}
  paramsPblock : ParameterBlockDesc := {}
  computeShader : ShaderStageData := {}

structure UniformDesc where
  name : String
  type : ShaderVariableType
  offset : UInt32 := 0
  deriving DecidableEq

structure ParameterBlockLayoutData where
  uniformsSize : UInt32 := 0
  uniformDescs : List UniformDesc := []
  resourceDescs : List BaseType := []
  isPushConstant : Bool := false
  uniformsStages : ShaderStageFlags := 0
  deriving DecidableEq

def isResourceType : BaseType → Bool
  | .float | .vector2 | .vector3 | .vector4 | .matrix4 => false
  | .texture2D | .texture2DShadow | .rwTexture2D => true

/-- `ToString`. -/
def BaseType.text : BaseType → String
  | .float => "float"
  | .vector2 => "vec2"
  | .vector3 => "vec3"
  | .vector4 => "vec4"
  | .matrix4 => "mat4"
  | .texture2D => "sampler2D"
  | .texture2DShadow => "sampler2DShadow"
  | .rwTexture2D => "image2D"

/-- What `operator<<` prints of a type. -/
def ShaderVariableType.text (type : ShaderVariableType) : String :=
  if type.arraySize ≠ 0 then type.baseType.text ++ "[" ++ toString type.arraySize ++ "]"
  else type.baseType.text

abbrev maxPushConstantSize : UInt32 := 128

def roundUp (a b : UInt32) : UInt32 := ((a - 1) / b + 1) * b

def addUniformBinding (bindings : ParameterBlockLayoutData) (var : ShaderVariable)
    (size alignment : UInt32) : ParameterBlockLayoutData :=
  let offset := roundUp bindings.uniformsSize alignment
  { bindings with
    uniformDescs := bindings.uniformDescs ++ [⟨var.name, var.type, offset⟩]
    uniformsSize := offset + size * max 1 var.type.arraySize }

def addResourceBinding (bindings : ParameterBlockLayoutData) (var : ShaderVariable) :
    ParameterBlockLayoutData :=
  { bindings with resourceDescs := bindings.resourceDescs ++ [var.type.baseType] }

/-- One round of the loop of `BuildParameterBlockLayout`. -/
def addParameter (bindings : ParameterBlockLayoutData) (parameter : ShaderVariable) :
    ParameterBlockLayoutData :=
  match parameter.type.baseType with
  | .float => addUniformBinding bindings parameter 4 4
  | .vector2 => addUniformBinding bindings parameter 8 8
  | .vector3 =>
    if parameter.type.arraySize ≠ 0 then addUniformBinding bindings parameter 12 12
    -- a single one is padded to 16 bytes
    else addUniformBinding bindings parameter 16 16
  | .vector4 => addUniformBinding bindings parameter 16 16
  | .matrix4 => addUniformBinding bindings parameter 64 16
  | .texture2D | .texture2DShadow | .rwTexture2D => addResourceBinding bindings parameter

def buildParameterBlockLayout (pblock : ParameterBlockDesc) (set : Int) :
    ParameterBlockLayoutData :=
  let bindings := pblock.parameters.foldl addParameter { uniformsStages := pblock.uniformsStages }
  if set = 3 ∧ bindings.uniformsSize ≤ maxPushConstantSize then
    { bindings with isPushConstant := true }
  else bindings

/-- The parameter is a resource and not a uniform. -/
def ShaderVariable.isResource (parameter : ShaderVariable) : Bool :=
  isResourceType parameter.type.baseType

/-! ### What a parameter adds -/

/-- The size and the alignment that the uniforms of a type are added with. -/
def uniformFormat (type : ShaderVariableType) : UInt32 × UInt32 :=
  match type.baseType with
  | .float => (4, 4)
  | .vector2 => (8, 8)
  | .vector3 => if type.arraySize ≠ 0 then (12, 12) else (16, 16)
  | .matrix4 => (64, 16)
  | _ => (16, 16)

variable {bindings : ParameterBlockLayoutData} {parameter : ShaderVariable}
  {parameters : List ShaderVariable} {pblock : ParameterBlockDesc} {set : Int}

theorem uniformFormat_pos (type : ShaderVariableType) :
    0 < (uniformFormat type).1.toNat ∧ 0 < (uniformFormat type).2.toNat := by
  unfold uniformFormat
  split
  · decide
  · decide
  · split <;> decide
  · decide
  · decide

theorem addParameter_of_resource (h : parameter.isResource = true) :
    addParameter bindings parameter = addResourceBinding bindings parameter := by
  unfold ShaderVariable.isResource at h
  unfold addParameter
  cases hbase : parameter.type.baseType <;> simp [hbase, isResourceType] at h ⊢

theorem addParameter_of_uniform (h : parameter.isResource = false) :
    addParameter bindings parameter = addUniformBinding bindings parameter
      (uniformFormat parameter.type).1 (uniformFormat parameter.type).2 := by
  unfold ShaderVariable.isResource at h
  unfold addParameter uniformFormat
  cases hbase : parameter.type.baseType <;> simp [hbase, isResourceType] at h ⊢
  split <;> rfl

/-- The resources of the layout are those of the block, in order. -/
theorem resourceDescs_foldl (parameters : List ShaderVariable)
    (bindings : ParameterBlockLayoutData) : (parameters.foldl addParameter bindings).resourceDescs =
    bindings.resourceDescs ++
      (parameters.filter ShaderVariable.isResource).map fun parameter => parameter.type.baseType := by
  induction parameters generalizing bindings with
  | nil => simp
  | cons parameter parameters ih =>
    rw [List.foldl_cons, ih]
    cases h : parameter.isResource with
    | true => simp [addParameter_of_resource h, addResourceBinding, h]
    | false => simp [addParameter_of_uniform h, addUniformBinding, h]

theorem resourceDescs_buildParameterBlockLayout (pblock : ParameterBlockDesc) (set : Int) :
    (buildParameterBlockLayout pblock set).resourceDescs =
      (pblock.parameters.filter ShaderVariable.isResource).map
        fun parameter => parameter.type.baseType := by
  have hfold := resourceDescs_foldl pblock.parameters
    { uniformsStages := pblock.uniformsStages }
  unfold buildParameterBlockLayout
  dsimp only
  split
  · simpa using hfold
  · simpa using hfold

end Teide
