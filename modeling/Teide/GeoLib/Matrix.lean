import Mathlib.Algebra.BigOperators.Fin
import Mathlib.Data.Matrix.Mul
import Mathlib.Tactic.Common

/-!
# Matrices of GeoLib

A matrix is stored row after row. Its products are loops that add to the entries of a result that
starts at zero, and the model runs the same loops. What they compute are the sums of the mathematical
product. Tags of vectors play no part in the arithmetic and are left out, as are the assertions on
indices, which the types rule out here.
-/

namespace Teide.Geo

/-- `Vector<T, N>`. -/
@[ext] structure Vector (T : Type*) (N : Nat) where
  members : Fin N → T

/-- `Matrix<T, M, N>`, with the rows as its members. -/
@[ext] structure Matrix (T : Type*) (M N : Nat) where
  members : Fin M → Vector T N

variable {T : Type*} {M N O : Nat}

namespace Matrix

/-- `a[row][col]`. -/
def entry (a : Matrix T M N) (row : Fin M) (col : Fin N) : T := (a.members row).members col

end Matrix

section Loops

variable [CommRing T]

def Vector.zero : Vector T N := ⟨fun _ => 0⟩

/-- `ret[row] += value`. -/
def Vector.addAt (ret : Vector T N) (row : Fin N) (value : T) : Vector T N :=
  ⟨Function.update ret.members row (ret.members row + value)⟩

namespace Matrix

def zero : Matrix T M N := ⟨fun _ => Vector.zero⟩

/-- `ret[row][col] += value`. -/
def addAt (ret : Matrix T M N) (row : Fin M) (col : Fin N) (value : T) : Matrix T M N :=
  ⟨Function.update ret.members row ((ret.members row).addAt col value)⟩

/-- `operator*` of two matrices. -/
def mul (a : Matrix T M N) (b : Matrix T N O) : Matrix T M O :=
  (List.finRange M).foldl (fun ret row =>
    (List.finRange O).foldl (fun ret col =>
      (List.finRange N).foldl (fun ret i =>
        ret.addAt row col (a.entry row i * b.entry i col)) ret) ret) zero

/-- `operator*` of a matrix and a vector. -/
def mulVector (a : Matrix T M M) (b : Vector T M) : Vector T M :=
  (List.finRange M).foldl (fun ret row =>
    (List.finRange M).foldl (fun ret col =>
      ret.addAt row (a.entry row col * b.members col)) ret) Vector.zero

end Matrix

/-! ### What the loops compute -/

theorem Vector.members_addAt (ret : Vector T N) (row r : Fin N) (value : T) :
    (ret.addAt row value).members r = ret.members r + if row = r then value else 0 := by
  show Function.update ret.members row (ret.members row + value) r = _
  by_cases h : row = r
  · rw [h, Function.update_self, if_pos rfl]
  · rw [Function.update_of_ne (Ne.symm h), if_neg h, add_zero]

theorem Matrix.entry_addAt (ret : Matrix T M N) (row r : Fin M) (col c : Fin N) (value : T) :
    (ret.addAt row col value).entry r c =
      ret.entry r c + if row = r then (if col = c then value else 0) else 0 := by
  show (Function.update ret.members row ((ret.members row).addAt col value) r).members c =
    (ret.members r).members c + _
  by_cases h : row = r
  · rw [h, Function.update_self, if_pos rfl, Vector.members_addAt]
  · rw [Function.update_of_ne (Ne.symm h), if_neg h, add_zero]

/-- A loop whose rounds each add something to what is read adds all of it. -/
theorem read_foldl {α β : Type*} (read : β → T) (body : β → α → β) (added : α → T)
    (hbody : ∀ ret x, read (body ret x) = read ret + added x) (l : List α) (ret : β) :
    read (l.foldl body ret) = read ret + (l.map added).sum := by
  induction l generalizing ret with
  | nil => simp
  | cons x l ih => rw [List.foldl_cons, ih, hbody, List.map_cons, List.sum_cons, add_assoc]

theorem read_foldl_finRange {β : Type*} (read : β → T) (body : β → Fin N → β) (added : Fin N → T)
    (hbody : ∀ ret x, read (body ret x) = read ret + added x) (ret : β) :
    read ((List.finRange N).foldl body ret) = read ret + ∑ x, added x := by
  rw [read_foldl read body added hbody, Fin.sum_univ_def]

theorem Matrix.entry_mul (a : Matrix T M N) (b : Matrix T N O) (r : Fin M) (c : Fin O) :
    (a.mul b).entry r c = ∑ i, a.entry r i * b.entry i c := by
  have hloops := read_foldl_finRange (fun ret : Matrix T M O => ret.entry r c) _ _
    (fun ret row => read_foldl_finRange (fun ret : Matrix T M O => ret.entry r c) _ _
      (fun ret col => read_foldl_finRange (fun ret : Matrix T M O => ret.entry r c) _ _
        (fun ret i => Matrix.entry_addAt ret row r col c (a.entry row i * b.entry i col)) ret) ret)
    zero
  have hzero : (zero : Matrix T M O).entry r c = 0 := rfl
  calc (a.mul b).entry r c
      = _ := hloops
    _ = ∑ i, a.entry r i * b.entry i c := by
        simp [hzero, Finset.sum_ite_irrel]

theorem Matrix.members_mulVector (a : Matrix T M M) (b : Vector T M) (r : Fin M) :
    (a.mulVector b).members r = ∑ i, a.entry r i * b.members i := by
  have hloops := read_foldl_finRange (fun ret : Vector T M => ret.members r) _ _
    (fun ret row => read_foldl_finRange (fun ret : Vector T M => ret.members r) _ _
      (fun ret col => Vector.members_addAt ret row r (a.entry row col * b.members col)) ret)
    Vector.zero
  have hzero : (Vector.zero : Vector T M).members r = 0 := rfl
  calc (a.mulVector b).members r
      = _ := hloops
    _ = ∑ i, a.entry r i * b.members i := by
        simp [hzero, Finset.sum_ite_irrel]

end Loops

end Teide.Geo
