import Mathlib.Data.List.Basic
import Mathlib.Tactic.Common
import Teide.ShaderCompiler.Reflection

/-!
# Locations of the inputs and outputs of a stage

`BuildVaryings` gives each variable of the user the number of variables in front of it as its
location. In GLSL a matrix takes up one location for each column and an array those of its elements,
so that the variable behind it starts in the middle of it. `GetAttributeLocation` counts the same way,
and agrees with the source.
-/

namespace Teide.ShaderCompiler

/-- A declaration that `BuildVaryings` prints. -/
structure Varying where
  qualifier : String
  location : Nat
  var : ShaderVariable

def Varying.piece (v : Varying) : Piece :=
  .plain ("layout(location = " ++ toString v.location ++ ") " ++ v.qualifier ++ " " ++
    v.var.type.text ++ " " ++ v.var.name ++ ";\n")

/-- The declarations of variables that have `slot` others in front of them. -/
def declaredVaryings (qualifier : String) (slot : Nat) : List ShaderVariable → List Varying
  | [] => []
  | v :: vs => ⟨qualifier, slot, v⟩ :: declaredVaryings qualifier (slot + 1) vs

/-- What the first loop of `BuildVaryings` declares for a stage. -/
def stageInputs (sourceStage : ShaderStageDefinition) : List Varying :=
  declaredVaryings "in" 0 (sourceStage.inputs.filter isUserParam)

/-- What the second loop declares. -/
def stageOutputs (sourceStage : ShaderStageDefinition) : List Varying :=
  declaredVaryings "out" 0 (sourceStage.outputs.filter isUserParam)

/-- The place of an attribute among the inputs of the vertex shader; `none` where there is none, which
the function asserts there is. -/
def getAttributeLocation (vertexShaderInputs : List ShaderVariable) (attributeName : String) :
    Option UInt32 :=
  (vertexShaderInputs.findIdx? (·.name = attributeName)).map UInt32.ofNat

/-! ### Locations in GLSL -/

def locationCount : BaseType → Nat
  | .matrix4 => 4
  | _ => 1

def consumedLocations (type : ShaderVariableType) : Nat :=
  if type.arraySize ≠ 0 then locationCount type.baseType * type.arraySize.toNat
  else locationCount type.baseType

def Varying.locations (v : Varying) : List Nat :=
  List.range' v.location (consumedLocations v.var.type)

/-- No location is consumed by two of the variables. -/
def NoOverlap (declared : List Varying) : Prop :=
  declared.Pairwise fun v w => ∀ location ∈ v.locations, location ∉ w.locations

/-- The variables with others behind them consume one location each. -/
def SingleLocations (vars : List ShaderVariable) : Prop :=
  ∀ v ∈ vars.dropLast, consumedLocations v.type = 1

instance (declared : List Varying) : Decidable (NoOverlap declared) :=
  inferInstanceAs (Decidable (List.Pairwise _ _))

instance (vars : List ShaderVariable) : Decidable (SingleLocations vars) :=
  inferInstanceAs (Decidable (∀ v ∈ _, _))

variable {qualifier : String} {slot : Nat} {vars vs : List ShaderVariable} {v w : Varying}
  {sourceStage : ShaderStageDefinition}

/-! ### What is declared -/

theorem varyings_eq (qualifier : String) (vars vs : List ShaderVariable) :
    varyings qualifier vars vs =
      ((declaredVaryings qualifier vars.length vs).map Varying.piece, vars ++ vs) := by
  induction vs generalizing vars with
  | nil =>
    rw [List.append_nil]
    rfl
  | cons v vs ih =>
    unfold varyings
    dsimp only
    rw [ih, List.length_append, List.append_assoc]
    rfl

/-- The text of `BuildVaryings` is that of the declarations, and the data has their variables. -/
theorem buildVaryings_eq (sourceStage : ShaderStageDefinition) : buildVaryings {} sourceStage =
    ((stageInputs sourceStage ++ stageOutputs sourceStage).map Varying.piece ++ [.plain "\n"],
      { inputs := sourceStage.inputs.filter isUserParam
        outputs := sourceStage.outputs.filter isUserParam }) := by
  unfold buildVaryings
  rw [varyings_eq, varyings_eq, List.map_append]
  rfl

theorem le_location_of_mem (h : v ∈ declaredVaryings qualifier slot vs) : slot ≤ v.location := by
  induction vs generalizing slot with
  | nil => exact absurd h List.not_mem_nil
  | cons var vs ih =>
    rcases List.mem_cons.mp h with rfl | h
    · exact Nat.le_refl slot
    · exact Nat.le_of_succ_le (ih h)

/-- The first declaration of a name has its location where `GetAttributeLocation` finds the name. -/
theorem findIdx?_eq_location (name : String) (slot : Nat) (vs : List ShaderVariable) :
    (vs.findIdx? (·.name = name)).map (slot + ·) =
      ((declaredVaryings qualifier slot vs).find? (·.var.name = name)).map Varying.location := by
  induction vs generalizing slot with
  | nil => rfl
  | cons v vs ih =>
    unfold declaredVaryings
    rw [List.findIdx?_cons, List.find?_cons]
    by_cases hname : v.name = name
    · simp [hname]
    · have hrest := ih (slot + 1)
      simp only [hname, decide_false] at hrest ⊢
      rw [← hrest]
      simp [Function.comp_def, Nat.add_comm, Nat.add_left_comm]

/-- The pipeline takes an attribute from the location that the source of the vertex shader declares. -/
theorem getAttributeLocation_eq (attributeName : String) :
    getAttributeLocation (buildVaryings {} sourceStage).2.inputs attributeName =
      ((stageInputs sourceStage).find? (·.var.name = attributeName)).map
        fun v => UInt32.ofNat v.location := by
  have hlocation : ((sourceStage.inputs.filter isUserParam).findIdx? (·.name = attributeName)).map
        (0 + ·) =
      ((stageInputs sourceStage).find? (·.var.name = attributeName)).map Varying.location :=
    findIdx?_eq_location _ _ _
  simp only [Nat.zero_add, Option.map_id_fun', id_eq] at hlocation
  unfold getAttributeLocation
  rw [buildVaryings_eq]
  dsimp only
  rw [hlocation, Option.map_map]
  rfl

/-! ### Overlaps -/

theorem consumedLocations_pos (type : ShaderVariableType) : 0 < consumedLocations type := by
  have hcount : 0 < locationCount type.baseType := by
    cases type.baseType <;> decide
  unfold consumedLocations
  split
  · rename_i harray
    apply Nat.mul_pos hcount
    apply Nat.pos_of_ne_zero
    intro hzero
    exact harray (UInt32.toNat_inj.mp hzero)
  · exact hcount

/-- Of two variables, the first one must end where the second one starts. -/
theorem disjoint_locations_iff (hlt : v.location < w.location) :
    (∀ location ∈ v.locations, location ∉ w.locations) ↔
      v.location + consumedLocations v.var.type ≤ w.location := by
  have hpos := consumedLocations_pos w.var.type
  unfold Varying.locations
  constructor
  · intro hdisjoint
    by_contra hlt'
    apply hdisjoint w.location
    · rw [List.mem_range'_1]
      omega
    · rw [List.mem_range'_1]
      omega
  · intro hle location hv hw
    rw [List.mem_range'_1] at hv hw
    omega

theorem noOverlap_declaredVaryings_iff :
    NoOverlap (declaredVaryings qualifier slot vs) ↔ SingleLocations vs := by
  unfold NoOverlap SingleLocations
  induction vs generalizing slot with
  | nil => simp [declaredVaryings]
  | cons var vs ih =>
    have hpos := consumedLocations_pos var.type
    unfold declaredVaryings
    rw [List.pairwise_cons, ih]
    cases vs with
    | nil => simp [declaredVaryings]
    | cons next vs =>
      rw [List.dropLast_cons_cons, List.forall_mem_cons]
      apply and_congr_left'
      constructor
      · intro hdisjoint
        have hnext := (disjoint_locations_iff (Nat.lt_succ_self slot)).mp
          (hdisjoint ⟨qualifier, slot + 1, next⟩ List.mem_cons_self)
        dsimp only at hnext
        omega
      · intro hone w hw
        have hle := le_location_of_mem hw
        rw [disjoint_locations_iff (Nat.lt_of_succ_le hle)]
        dsimp only
        omega

/-- **The declared inputs do not overlap, and the outputs neither, exactly if each variable that is
followed by another one consumes one location.** -/
theorem noOverlap_iff (sourceStage : ShaderStageDefinition) :
    (buildVaryings {} sourceStage).1 =
        (stageInputs sourceStage ++ stageOutputs sourceStage).map Varying.piece ++ [.plain "\n"] ∧
      (NoOverlap (stageInputs sourceStage) ↔
        SingleLocations (sourceStage.inputs.filter isUserParam)) ∧
      (NoOverlap (stageOutputs sourceStage) ↔
        SingleLocations (sourceStage.outputs.filter isUserParam)) := by
  refine ⟨?_, noOverlap_declaredVaryings_iff, noOverlap_declaredVaryings_iff⟩
  rw [buildVaryings_eq]

/-- An instance matrix with a position behind it. -/
def instancedVertex : ShaderStageDefinition where
  inputs := [⟨"model", ⟨.matrix4, 0⟩⟩, ⟨"position", ⟨.vector3, 0⟩⟩]

/-- The position shares location 1 with the second column of the matrix. -/
theorem not_noOverlap : stageInputs instancedVertex =
      [⟨"in", 0, ⟨"model", ⟨.matrix4, 0⟩⟩⟩, ⟨"in", 1, ⟨"position", ⟨.vector3, 0⟩⟩⟩] ∧
    ¬ NoOverlap (stageInputs instancedVertex) := by
  have hinputs : stageInputs instancedVertex =
      [⟨"in", 0, ⟨"model", ⟨.matrix4, 0⟩⟩⟩, ⟨"in", 1, ⟨"position", ⟨.vector3, 0⟩⟩⟩] := by
    have hmodel : isUserParam ⟨"model", ⟨.matrix4, 0⟩⟩ = true := by simp [isUserParam]
    have hposition : isUserParam ⟨"position", ⟨.vector3, 0⟩⟩ = true := by simp [isUserParam]
    unfold stageInputs instancedVertex
    rw [List.filter_cons_of_pos hmodel, List.filter_cons_of_pos hposition]
    rfl
  rw [hinputs]
  exact ⟨rfl, by decide⟩

end Teide.ShaderCompiler
