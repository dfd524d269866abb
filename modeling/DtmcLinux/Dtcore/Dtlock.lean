import DtmcLinux.Dtcore.Dterr

set_option autoImplicit false

/-! # The lock

`dtlock_linux.c`: an error-checking mutex. Locking it again from the thread that holds it, and
unlocking it from a thread that does not, are errors; locking it while another thread holds it
blocks. -/

/-- The mutex, by the thread that owns it. -/
structure Dtlock (τ : Type*) where
  owner : Option τ

namespace Dtlock

variable {τ : Type*} [DecidableEq τ]

/-- A mutex nobody holds. -/
def free : Dtlock τ := ⟨none⟩

/-- `dtlock_acquire` called by thread `t`; `none` while another thread holds the mutex. -/
def acquire (lock : Dtlock τ) (t : τ) : Option (Dtlock τ × Option Dterr) :=
  match lock.owner with
  | none => some (⟨some t⟩, none)
  | some t' =>
    if t' = t then some (lock, some (.new .state "lock already held by this thread")) else none

/-- `dtlock_release` called by thread `t`. -/
def release (lock : Dtlock τ) (t : τ) : Dtlock τ × Option Dterr :=
  if lock.owner = some t then (⟨none⟩, none)
  else (lock, some (.new .state "unlock attempted by non-owner (or double-release)"))

@[simp] theorem release_held (t : τ) : release ⟨some t⟩ t = (⟨none⟩, none) := by
  rw [release, if_pos rfl]

/-- A free mutex is acquired. -/
theorem acquire_of_free {lock : Dtlock τ} (t : τ) (h : lock.owner = none) :
    lock.acquire t = some (⟨some t⟩, none) := by
  rw [acquire, h]

/-- An acquisition that returns `NULL` found the mutex free and leaves it with the caller. -/
theorem acquire_eq_ok {lock lock' : Dtlock τ} {t : τ} (h : lock.acquire t = some (lock', none)) :
    lock.owner = none ∧ lock' = ⟨some t⟩ := by
  unfold acquire at h
  split at h
  · next howner =>
      rw [Option.some.injEq, Prod.mk.injEq] at h
      exact ⟨howner, h.1.symm⟩
  · split at h
    · simp at h
    · simp at h

/-- An acquisition that returns an error leaves the mutex as it was. -/
theorem acquire_eq_error {lock lock' : Dtlock τ} {t : τ} {e : Dterr}
    (h : lock.acquire t = some (lock', some e)) : lock.owner = some t ∧ lock' = lock := by
  unfold acquire at h
  split at h
  · simp at h
  · next t' howner =>
      split at h
      · next heq =>
          rw [Option.some.injEq, Prod.mk.injEq] at h
          exact ⟨heq ▸ howner, h.1.symm⟩
      · simp at h

end Dtlock
