import Mathlib.Algebra.Ring.Nat
import Mathlib.Order.Lattice
import Mathlib.Tactic.Common
import Teide.Lib.Words
import Teide.ShaderData.Basic

/-!
# The size of the uniforms

`BuildParameterBlockLayout` adds up the sizes of the uniforms in 32 bits. As long as the exact total
fits, that is what it gets, and it is 0 only for a block without uniforms. The exact total is taken at
the offsets that the code gives: `roundUp` makes 8 of 0 when the alignment is 12, so that an array of
three-component vectors at the front of a block starts there.
-/

namespace Teide

variable {bindings : ParameterBlockLayoutData} {parameters : List ShaderVariable}
  {pblock : ParameterBlockDesc} {set : Int}

/-- The offset that `roundUp` gives behind `size` bytes when nothing wraps. What it makes of 0 it
gets by wrapping, and is taken as it is. -/
def exactOffset (size : Nat) (alignment : UInt32) : Nat :=
  if size = 0 then (roundUp 0 alignment).toNat
  else ((size - 1) / alignment.toNat + 1) * alignment.toNat

/-- Where a uniform that is added behind `size` bytes ends. -/
def exactEnd (size : Nat) (type : ShaderVariableType) : Nat :=
  exactOffset size (uniformFormat type).2 +
    (uniformFormat type).1.toNat * max 1 type.arraySize.toNat

/-- Where the uniforms among the parameters end behind `size` bytes when nothing wraps. -/
def exactSizeFrom (size : Nat) : List ShaderVariable → Nat
  | [] => size
  | parameter :: parameters =>
    if parameter.isResource then exactSizeFrom size parameters
    else exactSizeFrom (exactEnd size parameter.type) parameters

/-- The total size of the uniforms of a block, with the padding between them. -/
def ParameterBlockDesc.exactSize (pblock : ParameterBlockDesc) : Nat :=
  exactSizeFrom 0 pblock.parameters

theorem le_exactOffset (size : Nat) {alignment : UInt32} (h : 0 < alignment.toNat) :
    size ≤ exactOffset size alignment := by
  unfold exactOffset
  split
  · omega
  · have hlt := Nat.lt_div_mul_add h (a := size - 1)
    rw [Nat.add_mul, Nat.one_mul]
    omega

theorem lt_exactEnd (size : Nat) (type : ShaderVariableType) : size < exactEnd size type := by
  have hoffset := le_exactOffset size (uniformFormat_pos type).2
  have hpos := Nat.mul_pos (uniformFormat_pos type).1
    (Nat.lt_of_lt_of_le Nat.one_pos (Nat.le_max_left 1 type.arraySize.toNat))
  unfold exactEnd
  omega

theorem le_exactSizeFrom (size : Nat) (parameters : List ShaderVariable) :
    size ≤ exactSizeFrom size parameters := by
  induction parameters generalizing size with
  | nil => exact Nat.le_refl size
  | cons parameter parameters ih =>
    unfold exactSizeFrom
    split
    · exact ih size
    · have hlt := lt_exactEnd size parameter.type
      have hih := ih (exactEnd size parameter.type)
      omega

theorem roundUp_toNat {size alignment : UInt32} (hpos : 0 < alignment.toNat)
    (h : exactOffset size.toNat alignment < 2 ^ 32) :
    (roundUp size alignment).toNat = exactOffset size.toNat alignment := by
  unfold exactOffset at h ⊢
  split at h
  · rename_i hzero
    rw [if_pos hzero, UInt32.toNat_inj.mp (hzero.trans UInt32.toNat_zero.symm)]
  · rename_i hne
    rw [if_neg hne]
    have hsub : (size - 1).toNat = size.toNat - 1 :=
      Words.toNat_sub_one (Nat.pos_of_ne_zero hne)
    -- the product is at least its first factor
    have hle := Nat.le_mul_of_pos_right ((size.toNat - 1) / alignment.toNat + 1) hpos
    rw [roundUp, UInt32.toNat_mul, UInt32.toNat_add, UInt32.toNat_div, hsub, UInt32.toNat_one,
      Nat.mod_eq_of_lt (Nat.lt_of_le_of_lt hle h), Nat.mod_eq_of_lt h]

/-- One uniform more, in 32 bits. -/
theorem uniformsSize_addParameter {parameter : ShaderVariable}
    (huniform : parameter.isResource = false)
    (h : exactEnd bindings.uniformsSize.toNat parameter.type < 2 ^ 32) :
    (addParameter bindings parameter).uniformsSize.toNat =
      exactEnd bindings.uniformsSize.toNat parameter.type := by
  rw [addParameter_of_uniform huniform]
  unfold exactEnd at h ⊢
  have hoffset := roundUp_toNat (uniformFormat_pos parameter.type).2
    (Nat.lt_of_le_of_lt (Nat.le_add_right _ _) h)
  have hproduct := Nat.lt_of_le_of_lt (Nat.le_add_left _ _) h
  unfold addUniformBinding
  rw [UInt32.toNat_add, UInt32.toNat_mul, hoffset, UInt32.toNat_max, UInt32.toNat_one,
    Nat.mod_eq_of_lt hproduct,
    Nat.mod_eq_of_lt h]

/-- The code's sum of 32 bits is exact as long as the total size fits. -/
theorem uniformsSize_foldl (parameters : List ShaderVariable)
    (bindings : ParameterBlockLayoutData)
    (h : exactSizeFrom bindings.uniformsSize.toNat parameters < 2 ^ 32) :
    (parameters.foldl addParameter bindings).uniformsSize.toNat =
      exactSizeFrom bindings.uniformsSize.toNat parameters := by
  induction parameters generalizing bindings with
  | nil => rfl
  | cons parameter parameters ih =>
    rw [List.foldl_cons]
    unfold exactSizeFrom at h ⊢
    cases hresource : parameter.isResource with
    | true =>
      rw [hresource, if_pos rfl] at h
      rw [if_pos rfl, addParameter_of_resource hresource]
      exact ih _ h
    | false =>
      rw [hresource, if_neg (by simp)] at h
      have hsize := uniformsSize_addParameter hresource
        (Nat.lt_of_le_of_lt (le_exactSizeFrom _ parameters) h)
      rw [if_neg (by simp), ← hsize]
      exact ih _ (hsize ▸ h)

theorem uniformsSize_buildParameterBlockLayout (set : Int) (h : pblock.exactSize < 2 ^ 32) :
    (buildParameterBlockLayout pblock set).uniformsSize.toNat = pblock.exactSize := by
  have hfold := uniformsSize_foldl pblock.parameters
    { uniformsStages := pblock.uniformsStages } h
  unfold buildParameterBlockLayout
  dsimp only
  split
  · exact hfold
  · exact hfold

/-- The uniforms take no space only if there is none. -/
theorem exactSizeFrom_eq_zero_iff {size : Nat} : exactSizeFrom size parameters = 0 ↔
    size = 0 ∧ ∀ parameter ∈ parameters, parameter.isResource = true := by
  induction parameters generalizing size with
  | nil => simp [exactSizeFrom]
  | cons parameter parameters ih =>
    unfold exactSizeFrom
    cases hresource : parameter.isResource with
    | true => simp [ih, hresource]
    | false =>
      have hlt := lt_exactEnd size parameter.type
      have hle := le_exactSizeFrom (exactEnd size parameter.type) parameters
      simp only [List.mem_cons, forall_eq_or_imp, hresource, Bool.false_eq_true, if_false,
        false_and, and_false, iff_false]
      omega

theorem exactSize_eq_zero_iff :
    pblock.exactSize = 0 ↔ ∀ parameter ∈ pblock.parameters, parameter.isResource = true := by
  rw [ParameterBlockDesc.exactSize, exactSizeFrom_eq_zero_iff, and_iff_right rfl]

end Teide
