import Mathlib.Algebra.Order.Ring.Int

set_option autoImplicit false

/-! # Checked arithmetic

A result that does not fit its machine type is a fault of the computation, named by the caller. The
arithmetic itself is that of the integers. -/

namespace CheckedArith

variable {ε : Type*}

/-- The value, if it lies between the bounds. -/
def inRange (fault : ε) (lo hi x : ℤ) : Except ε ℤ :=
  if lo ≤ x ∧ x ≤ hi then .ok x else .error fault

/-- The largest and the smallest value of a 32-bit signed integer. -/
def int32Max : ℤ := 2147483647
def int32Min : ℤ := -2147483648

/-- A 32-bit signed result. -/
def int32 (fault : ε) (x : ℤ) : Except ε ℤ := inRange fault int32Min int32Max x

theorem inRange_of_mem {fault : ε} {lo hi x : ℤ} (hlo : lo ≤ x) (hhi : x ≤ hi) :
    inRange fault lo hi x = .ok x := if_pos ⟨hlo, hhi⟩

/-- What is neither negative nor too large is a 32-bit signed integer. -/
theorem int32_of_nonneg {fault : ε} {x : ℤ} (h0 : 0 ≤ x) (hmax : x ≤ int32Max) :
    int32 fault x = .ok x :=
  inRange_of_mem (le_trans (by decide) h0) hmax

end CheckedArith
