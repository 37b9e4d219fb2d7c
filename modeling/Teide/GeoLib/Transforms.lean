import Mathlib.Algebra.Field.Rat
import Mathlib.Data.Fin.VecNotation
import Mathlib.Tactic.FinCases
import Teide.GeoLib.Matrix

/-!
# Transforming points and directions

A four by four matrix is applied to a vector in space, which it takes for a direction and extends by a
zero, or to a point, which it extends by a one and divides by the last coordinate of the result. The
product of two matrices does what they do one after the other.

A division in between does not matter: the vector with the last coordinate one is a multiple of what
it has been divided from, and a multiple has the same projection (`project_scale`). For directions the
first matrix must not produce a last coordinate.
-/

namespace Teide.Geo

variable {T : Type*}

/-- `Vector<T, 4>(v.x, v.y, v.z, w)`. -/
def Vector.extend (v : Vector T 3) (w : T) : Vector T 4 :=
  ⟨![v.members 0, v.members 1, v.members 2, w]⟩

/-- `{v.x, v.y, v.z}`. -/
def Vector.xyz (v : Vector T 4) : Vector T 3 := ⟨fun i => v.members i.castSucc⟩

/-- The last coordinate. -/
def Vector.w (v : Vector T 4) : T := v.members (Fin.last 3)

section Field

variable [Field T]

/-- `{v.x / v.w, v.y / v.w, v.z / v.w}`. -/
def Vector.project (v : Vector T 4) : Vector T 3 := ⟨fun i => v.members i.castSucc / v.w⟩

/-- `operator*` of a matrix and a vector with `VectorTag`. -/
def Matrix.mulDirection (a : Matrix T 4 4) (b : Vector T 3) : Vector T 3 :=
  (a.mulVector (b.extend 0)).xyz

/-- `operator*` of a matrix and a vector with `PointTag`. -/
def Matrix.mulPoint (a : Matrix T 4 4) (b : Vector T 3) : Vector T 3 :=
  (a.mulVector (b.extend 1)).project

/-! ### Multiples -/

def Vector.scale {N : Nat} (c : T) (v : Vector T N) : Vector T N := ⟨fun i => c * v.members i⟩

variable {a b : Matrix T 4 4} {u v : Vector T 4} {c : T}

theorem Matrix.mulVector_scale {M : Nat} (a : Matrix T M M) (c : T) (v : Vector T M) :
    a.mulVector (v.scale c) = (a.mulVector v).scale c := by
  ext row
  show (a.mulVector (v.scale c)).members row = c * (a.mulVector v).members row
  rw [members_mulVector, members_mulVector, Finset.mul_sum]
  refine Finset.sum_congr rfl fun i _ => ?_
  exact mul_left_comm _ _ _

theorem Matrix.mul_mulVector {M : Nat} (a b : Matrix T M M) (v : Vector T M) :
    (a.mul b).mulVector v = a.mulVector (b.mulVector v) := by
  ext row
  rw [members_mulVector, members_mulVector]
  simp only [entry_mul, members_mulVector, Finset.sum_mul, Finset.mul_sum, mul_assoc]
  exact Finset.sum_comm

theorem Vector.project_scale (hc : c ≠ 0) (v : Vector T 4) : (v.scale c).project = v.project := by
  unfold project w scale
  simp only [mul_div_mul_left _ _ hc]

/-- A point that is extended again after its division is a multiple of what has been divided. -/
theorem Vector.extend_project (hw : v.w ≠ 0) : v.project.extend 1 = v.scale v.w⁻¹ := by
  have hone : v.w⁻¹ * v.members 3 = 1 := inv_mul_cancel₀ hw
  ext i
  fin_cases i
  · exact div_eq_inv_mul _ _
  · exact div_eq_inv_mul _ _
  · exact div_eq_inv_mul _ _
  · exact hone.symm

theorem Vector.extend_xyz (hw : v.w = 0) : v.xyz.extend 0 = v := by
  ext i
  fin_cases i
  · rfl
  · rfl
  · rfl
  · exact hw.symm

/-! ### Composition -/

theorem Matrix.mul_mulPoint {p : Vector T 3} (hw : (b.mulVector (p.extend 1)).w ≠ 0) :
    (a.mul b).mulPoint p = a.mulPoint (b.mulPoint p) := by
  unfold mulPoint
  calc ((a.mul b).mulVector (p.extend 1)).project
      = (a.mulVector (b.mulVector (p.extend 1))).project := by rw [mul_mulVector]
    _ = ((a.mulVector (b.mulVector (p.extend 1))).scale (b.mulVector (p.extend 1)).w⁻¹).project :=
        (Vector.project_scale (inv_ne_zero hw) _).symm
    _ = (a.mulVector ((b.mulVector (p.extend 1)).project.extend 1)).project := by
        rw [← mulVector_scale, Vector.extend_project hw]

/-- A matrix with the last row of an affine map gives directions no last coordinate. -/
theorem Matrix.w_mulVector_extend_zero (hlast : b.members 3 = ⟨![0, 0, 0, 1]⟩) (v : Vector T 3) :
    (b.mulVector (v.extend 0)).w = 0 := by
  show (b.mulVector (v.extend 0)).members 3 = 0
  rw [members_mulVector, Fin.sum_univ_four]
  unfold entry
  rw [hlast]
  simp [Vector.extend]

theorem Matrix.mul_mulDirection (hlast : b.members 3 = ⟨![0, 0, 0, 1]⟩) (v : Vector T 3) :
    (a.mul b).mulDirection v = a.mulDirection (b.mulDirection v) := by
  unfold mulDirection
  rw [mul_mulVector, Vector.extend_xyz (w_mulVector_extend_zero hlast v)]

/-- **Transforms compose.** -/
theorem Matrix.mul_apply (a b : Matrix T 4 4) :
    (∀ p : Vector T 3, (b.mulVector (p.extend 1)).w ≠ 0 →
      (a.mulVector (b.mulVector (p.extend 1))).w ≠ 0 →
        (a.mul b).mulPoint p = a.mulPoint (b.mulPoint p)) ∧
    (b.members 3 = ⟨![0, 0, 0, 1]⟩ → ∀ v : Vector T 3,
      (a.mul b).mulDirection v = a.mulDirection (b.mulDirection v)) :=
  ⟨fun _ hw _ => mul_mulPoint hw, fun hlast v => mul_mulDirection hlast v⟩

end Field

/-- A projection whose last coordinate is the depth. -/
def projection : Matrix ℚ 4 4 := ⟨![⟨![2, 0, 0, 0]⟩, ⟨![0, 2, 0, 0]⟩, ⟨![0, 0, 1, 1]⟩, ⟨![0, 0, 1, 0]⟩]⟩

def translation : Matrix ℚ 4 4 :=
  ⟨![⟨![1, 0, 0, 10]⟩, ⟨![0, 1, 0, 50]⟩, ⟨![0, 0, 1, 20]⟩, ⟨![0, 0, 0, 1]⟩]⟩

/-- A point that is translated and projected, or projected twice, and a direction that is translated and
projected. -/
theorem Matrix.mul_apply_projection :
    (projection.mul projection).mulPoint ⟨![1, 2, 3]⟩ =
        projection.mulPoint (projection.mulPoint ⟨![1, 2, 3]⟩) ∧
      (projection.mul translation).mulDirection ⟨![1, 2, 3]⟩ =
        projection.mulDirection (translation.mulDirection ⟨![1, 2, 3]⟩) := by
  constructor
  · apply (mul_apply projection projection).1
    · decide +kernel
    · decide +kernel
  · exact (mul_apply projection translation).2 rfl _

end Teide.Geo
