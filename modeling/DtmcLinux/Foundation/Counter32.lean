import Mathlib.Algebra.Ring.Int.Defs
import Mathlib.Algebra.Ring.Nat

set_option autoImplicit false

/-! # Counters of 32 bits

A counter that is raised only below a bound and lowered only above zero does not wrap. A signed number
that becomes unsigned keeps its value unless it is negative. -/

namespace Counter32

variable {count bound : UInt32}

/-- A counter below a bound, given as a natural number, is raised by one. -/
theorem toNat_succ_of_lt {cap : ℕ} (hroom : count.toNat < cap) (hcap : cap < 2 ^ 32) :
    (count + 1).toNat = count.toNat + 1 := by
  rw [UInt32.toNat_add, UInt32.toNat_one]
  omega

/-- A counter below another number of 32 bits is raised by one. -/
theorem toNat_succ (h : count < bound) : (count + 1).toNat = count.toNat + 1 :=
  toNat_succ_of_lt (UInt32.lt_iff_toNat_lt.1 h) bound.toNat_lt

/-- A counter that is not zero is lowered by one. -/
theorem toNat_pred (hne : count ≠ 0) : (count - 1).toNat + 1 = count.toNat := by
  have hpos : 0 < count.toNat := by
    refine Nat.pos_of_ne_zero fun h => hne ?_
    exact UInt32.toNat_inj.1 h
  have hle : (1 : UInt32) ≤ count := UInt32.le_iff_toNat_le.2 hpos
  rw [UInt32.toNat_sub_of_le _ _ hle]
  exact Nat.sub_add_cancel hpos

theorem toNat_toUInt32 (x : Int32) :
    (x.toUInt32.toNat : ℤ) = if 0 ≤ x.toInt then x.toInt else x.toInt + 4294967296 := by
  have hcond : x.toInt = _ := x.toBitVec.toInt_eq_toNat_cond
  have hlt := x.toUInt32.toNat_lt
  have hnat : x.toUInt32.toNat = x.toBitVec.toNat := rfl
  rw [hcond, ← hnat]
  split <;> split <;> omega

theorem toNat_toUInt32_of_nonneg {x : Int32} (h : 0 ≤ x.toInt) :
    (x.toUInt32.toNat : ℤ) = x.toInt := by
  rw [toNat_toUInt32, if_pos h]

theorem toNat_toUInt32_of_neg {x : Int32} (h : x.toInt < 0) :
    (x.toUInt32.toNat : ℤ) = x.toInt + 4294967296 := by
  rw [toNat_toUInt32, if_neg (Int.not_le.2 h)]

end Counter32
