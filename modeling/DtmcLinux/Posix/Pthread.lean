import Mathlib.Data.List.Basic

set_option autoImplicit false

/-! # What the library uses of POSIX threads

Result codes, monotonic time, and condition variables. A wait result is the environment's choice;
a condition variable is the set of its waiters, of which a signal makes one runnable. -/

namespace Posix

/-- The `int` a pthread function returns; `0` is success. -/
abbrev Rc := Int32

/-- `ETIMEDOUT` of Linux. -/
def ETIMEDOUT : Rc := 110

/-- `struct timespec`. -/
structure Timespec where
  tvSec : Int
  tvNsec : Int
  deriving DecidableEq

/-! ## Condition variables -/

/-- A condition variable: its waiters that no signal has reached yet, and those a signal has made
    runnable and which have not resumed yet. -/
structure Cond (τ : Type*) where
  waiting : List τ
  signalled : List τ

namespace Cond

variable {τ : Type*}

/-- A condition variable nobody waits on. -/
def init : Cond τ := { waiting := [], signalled := [] }

/-- `pthread_cond_wait` / `pthread_cond_timedwait`: the thread goes to sleep. -/
def wait (cv : Cond τ) (t : τ) : Cond τ := { cv with waiting := t :: cv.waiting }

variable [DecidableEq τ]

/-- `pthread_cond_signal`: the scheduler makes the waiter `pick` runnable. With no waiter left
    (`pick = none`) the signal has no effect; otherwise `pick` must be one of the waiters. -/
def signal (cv : Cond τ) : Option τ → Option (Cond τ)
  | none => if cv.waiting.isEmpty then some cv else none
  | some t =>
    if t ∈ cv.waiting then
      some { waiting := cv.waiting.erase t, signalled := t :: cv.signalled }
    else none

/-- The thread returns from its wait, signalled or not. -/
def resume (cv : Cond τ) (t : τ) : Cond τ :=
  { waiting := cv.waiting.erase t, signalled := cv.signalled.erase t }

end Cond

end Posix
