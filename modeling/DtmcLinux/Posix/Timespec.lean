import DtmcLinux.Foundation.CheckedArith
import DtmcLinux.Posix.Pthread
import Mathlib.Tactic.Ring

set_option autoImplicit false

/-! # Points in time

A `struct timespec` is a number of seconds and a number of nanoseconds, which is valid from 0 to
999999999; `pthread_cond_timedwait` refuses any other. `time_t` and `long` are machine integers: the
members of a `struct timespec` are computed with a check of each result. -/

namespace Posix

/-- The limits of `time_t` and of `long`, which has at least 32 bits. -/
structure TimeLimits where
  timeMin : ℤ
  timeMax : ℤ
  longMin : ℤ
  longMax : ℤ
  longMin_le : longMin ≤ -2147483647
  le_longMax : 2147483647 ≤ longMax

/-- The limits where both types have 64 bits. -/
def TimeLimits.lp64 : TimeLimits where
  timeMin := -9223372036854775808
  timeMax := 9223372036854775807
  longMin := -9223372036854775808
  longMax := 9223372036854775807
  longMin_le := by decide
  le_longMax := by decide

/-- A signed overflow, by the member that is computed. -/
inductive TimeOverflow where
  | tvSec
  | tvNsec
  deriving DecidableEq

namespace TimeLimits

/-- A value of `time_t`. -/
def time (l : TimeLimits) (x : ℤ) : Except TimeOverflow ℤ :=
  CheckedArith.inRange .tvSec l.timeMin l.timeMax x

/-- A value of `long`. -/
def long (l : TimeLimits) (x : ℤ) : Except TimeOverflow ℤ :=
  CheckedArith.inRange .tvNsec l.longMin l.longMax x

/-- The time is at least `margin` seconds away from the limits of `time_t`. -/
structure Inside (l : TimeLimits) (margin : ℤ) (ts : Timespec) : Prop where
  lower : l.timeMin + margin ≤ ts.tvSec
  upper : ts.tvSec ≤ l.timeMax - margin

theorem time_of_inside {l : TimeLimits} {margin x : ℤ} {ts : Timespec} (h : l.Inside margin ts)
    (hlower : ts.tvSec - margin ≤ x) (hupper : x ≤ ts.tvSec + margin) : l.time x = .ok x := by
  have hlo := h.lower
  have hhi := h.upper
  exact CheckedArith.inRange_of_mem (by omega) (by omega)

theorem long_of_small (l : TimeLimits) {x : ℤ} (hlower : -2147483647 ≤ x)
    (hupper : x ≤ 2147483647) : l.long x = .ok x :=
  CheckedArith.inRange_of_mem (le_trans l.longMin_le hlower) (le_trans hupper l.le_longMax)

end TimeLimits

namespace Timespec

/-- The nanoseconds are valid. -/
structure Normalized (ts : Timespec) : Prop where
  nonneg : 0 ≤ ts.tvNsec
  lt : ts.tvNsec < 1000000000

instance (ts : Timespec) : Decidable ts.Normalized :=
  decidable_of_iff (0 ≤ ts.tvNsec ∧ ts.tvNsec < 1000000000)
    ⟨fun h => ⟨h.1, h.2⟩, fun h => ⟨h.1, h.2⟩⟩

/-- The time in nanoseconds. -/
def nanos (ts : Timespec) : ℤ := 1000000000 * ts.tvSec + ts.tvNsec

/-- Milliseconds as whole seconds and a rest, the way C divides. -/
theorem millis_split (ms : Int32) :
    1000 * ms.toInt.tdiv 1000 + ms.toInt.tmod 1000 = ms.toInt ∧
      -1000 < ms.toInt.tmod 1000 ∧ ms.toInt.tmod 1000 < 1000 ∧
      -2147484 ≤ ms.toInt.tdiv 1000 ∧ ms.toInt.tdiv 1000 ≤ 2147484 := by
  have hsplit := Int.mul_tdiv_add_tmod ms.toInt 1000
  have hlower := Int.lt_tmod_of_pos ms.toInt (b := 1000) (by decide)
  have hupper := Int.tmod_lt_of_pos ms.toInt (b := 1000) (by decide)
  have hmin := ms.le_toInt
  have hmax := ms.toInt_lt
  refine ⟨hsplit, hlower, hupper, ?_, ?_⟩
  · omega
  · omega

end Timespec

end Posix
