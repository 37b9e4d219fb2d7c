import Mathlib.Algebra.BigOperators.Fin
import Mathlib.Data.Matrix.Mul
import Mathlib.Tactic.Common
import Teide.GeoLib.Matrix

/-!
# The functions of the shader prelude

A GLSL matrix consists of columns, and the program hands the bytes of a `Geo::Matrix4` to it row after
row, so that the shader sees the transpose. The prelude's `mul` is meant to hide this. It multiplies
from the other side for a vector, which is right. For two matrices it returns `m1 * m1`, and the second
matrix plays no part.
-/

namespace Teide.ShaderCompiler

variable {T : Type*}

/-! ### GLSL -/

/-- `vec4`. -/
@[ext] structure Vec4 (T : Type*) where
  components : Fin 4 → T

/-- `mat4`, as its four columns: `m[i]` is `columns i`. -/
@[ext] structure Mat4 (T : Type*) where
  columns : Fin 4 → Vec4 T

/-- `mat4` in a block with `column_major`, the default: the elements are read as columns. -/
def Mat4.ofElements (elements : Fin 16 → T) : Mat4 T :=
  ⟨fun column => ⟨fun row => elements ⟨4 * column.val + row.val, by omega⟩⟩⟩

section Glsl

variable [CommRing T]

/-- `v * m`: the vector is taken as a row. -/
def Vec4.mulMat4 (v : Vec4 T) (m : Mat4 T) : Vec4 T :=
  ⟨fun column => ∑ row, v.components row * (m.columns column).components row⟩

/-- `m1 * m2` -/
def Mat4.mul (m1 m2 : Mat4 T) : Mat4 T :=
  ⟨fun column => ⟨fun row =>
    ∑ k, (m1.columns k).components row * (m2.columns column).components k⟩⟩

namespace ShaderCommon

/-- `vec4 mul(mat4 m, vec4 v)` -/
def mul (m : Mat4 T) (v : Vec4 T) : Vec4 T := v.mulMat4 m

/-- `mat4 mul(mat4 m1, mat4 m2)` -/
def mulMat4 (m1 _m2 : Mat4 T) : Mat4 T := m1.mul m1

end ShaderCommon

end Glsl

/-! ### A matrix of the program in the shader -/

/-- The elements of a matrix as they lie in memory. -/
def elements (a : Geo.Matrix T 4 4) (i : Fin 16) : T :=
  a.entry ⟨i.val / 4, by omega⟩ ⟨i.val % 4, by omega⟩

/-- What the shader sees of a matrix. -/
def up (a : Geo.Matrix T 4 4) : Mat4 T := Mat4.ofElements (elements a)

def upVector (v : Geo.Vector T 4) : Vec4 T := ⟨v.members⟩

/-- The columns in the shader are the rows of the program. -/
theorem components_up (a : Geo.Matrix T 4 4) (row column : Fin 4) :
    ((up a).columns column).components row = a.entry column row := by
  show a.entry ⟨(4 * column.val + row.val) / 4, _⟩ ⟨(4 * column.val + row.val) % 4, _⟩ = _
  congr 1
  · apply Fin.ext
    show (4 * column.val + row.val) / 4 = column.val
    omega
  · apply Fin.ext
    show (4 * column.val + row.val) % 4 = row.val
    omega

theorem up_injective {a b : Geo.Matrix T 4 4} (h : up a = up b) : a = b := by
  ext row column
  have hentry : ((up a).columns row).components column = ((up b).columns row).components column := by
    rw [h]
  rw [components_up, components_up] at hentry
  exact hentry

/-- Every matrix of a shader is what it sees of one of the program's. -/
theorem up_surjective (m : Mat4 T) : ∃ a : Geo.Matrix T 4 4, up a = m := by
  refine ⟨⟨fun row => ⟨(m.columns row).components⟩⟩, ?_⟩
  ext column row
  rw [components_up]
  rfl

/-- The matrix in the sense of mathematics. -/
def toMatrix (a : Geo.Matrix T 4 4) : Matrix (Fin 4) (Fin 4) T :=
  Matrix.of fun row column => a.entry row column

theorem toMatrix_injective {a b : Geo.Matrix T 4 4} (h : toMatrix a = toMatrix b) : a = b := by
  ext row column
  exact congrFun (congrFun h row) column

section Products

variable [CommRing T] (a b : Geo.Matrix T 4 4)

theorem mul_up (v : Geo.Vector T 4) :
    ShaderCommon.mul (up a) (upVector v) = upVector (a.mulVector v) := by
  ext row
  show ∑ i, v.members i * ((up a).columns row).components i = (a.mulVector v).members row
  rw [Geo.Matrix.members_mulVector]
  apply Finset.sum_congr rfl
  intro i _
  rw [components_up, mul_comm]

/-- The product of GLSL takes the program's matrices in the other order. -/
theorem up_mul : (up b).mul (up a) = up (a.mul b) := by
  ext column row
  rw [components_up, Geo.Matrix.entry_mul]
  show ∑ k, ((up b).columns k).components row * ((up a).columns column).components k = _
  apply Finset.sum_congr rfl
  intro k _
  rw [components_up, components_up, mul_comm]

theorem toMatrix_mul : toMatrix (a.mul b) = toMatrix a * toMatrix b := by
  ext row column
  rw [Matrix.mul_apply]
  exact Geo.Matrix.entry_mul a b row column

/-- The two products agree if the second matrix might as well be the first. -/
theorem mul_self_eq_iff : a.mul a = a.mul b ↔ toMatrix a * (toMatrix b - toMatrix a) = 0 := by
  rw [mul_sub, sub_eq_zero, ← toMatrix_mul, ← toMatrix_mul]
  constructor
  · intro h
    rw [h]
  · intro h
    exact (toMatrix_injective h).symm

theorem mulMat4_up : ShaderCommon.mulMat4 (up a) (up b) = up (a.mul a) := up_mul a a

theorem mulVector_mul (v : Geo.Vector T 4) :
    (a.mul b).mulVector v = a.mulVector (b.mulVector v) := by
  have hmul (m : Geo.Matrix T 4 4) (w : Geo.Vector T 4) :
      (m.mulVector w).members = (toMatrix m).mulVec w.members := by
    funext row
    rw [Geo.Matrix.members_mulVector]
    rfl
  apply Geo.Vector.ext
  rw [hmul, hmul, hmul, toMatrix_mul, Matrix.mulVec_mulVec]

/-- `mul` of the prelude is the product of the program, and the products of matrices and of a vector
associate. -/
def MulAgrees : Prop :=
  (∀ v, ShaderCommon.mul (up a) (upVector v) = upVector (a.mulVector v)) ∧
    ShaderCommon.mulMat4 (up a) (up b) = up (a.mul b) ∧
      ∀ v, ShaderCommon.mul (ShaderCommon.mulMat4 (up a) (up b)) v =
        ShaderCommon.mul (up a) (ShaderCommon.mul (up b) v)

/-- The prelude is right about a pair of matrices exactly if the first one maps the difference of the two
to zero. -/
theorem mulAgrees_iff : MulAgrees a b ↔ toMatrix a * (toMatrix b - toMatrix a) = 0 := by
  rw [← mul_self_eq_iff]
  constructor
  · rintro ⟨-, hmat, -⟩
    rw [mulMat4_up] at hmat
    exact up_injective hmat
  · intro h
    refine ⟨mul_up a, ?_, fun v => ?_⟩
    · rw [mulMat4_up, h]
    · have hv : upVector ⟨v.components⟩ = v := rfl
      rw [mulMat4_up, h, ← hv, mul_up, mul_up, mul_up, mulVector_mul]

end Products

/-- Every entry of the first matrix is 1, and the second one is zero. -/
theorem not_mulAgrees : ¬ ∀ a b : Geo.Matrix Int 4 4, MulAgrees a b := by
  intro h
  obtain ⟨-, hmat, -⟩ := h ⟨fun _ => ⟨fun _ => 1⟩⟩ Geo.Matrix.zero
  rw [mulMat4_up] at hmat
  have hentry := congrArg (fun m : Geo.Matrix Int 4 4 => m.entry 0 0) (up_injective hmat)
  rw [Geo.Matrix.entry_mul, Geo.Matrix.entry_mul] at hentry
  exact absurd hentry (by decide)

end Teide.ShaderCompiler
