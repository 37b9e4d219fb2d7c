import Mathlib.Algebra.Ring.Nat
import Mathlib.Tactic.Common

/-!
# Machine words as counters

A counter of 32 bits counts like a natural number as long as it does not wrap around.
-/

namespace Words

variable {n : UInt32}

theorem toNat_add_one (h : n.toNat + 1 < 2 ^ 32) : (n + 1).toNat = n.toNat + 1 := by
  rw [UInt32.toNat_add, UInt32.toNat_one]
  exact Nat.mod_eq_of_lt h

theorem toNat_sub_one (h : 0 < n.toNat) : (n - 1).toNat = n.toNat - 1 :=
  UInt32.toNat_sub_of_le n 1 (UInt32.le_iff_toNat_le.mpr h)

theorem one_lt_toNat_of_ne_one (hpos : 0 < n.toNat) (hone : n ≠ 1) : 1 < n.toNat := by
  have hne : n.toNat ≠ 1 := fun heq => hone (UInt32.toNat_inj.mp heq)
  omega

theorem one_lt_of_ne_one (hpos : 1 ≤ n) (hone : n ≠ 1) : 1 < n :=
  UInt32.lt_iff_toNat_lt.mpr (one_lt_toNat_of_ne_one (UInt32.le_iff_toNat_le.mp hpos) hone)

end Words
