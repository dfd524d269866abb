import DtmcLinux.Modbus.Master

set_option autoImplicit false

/-! # The frame of a public operation

The public operations of the three Modbus backends all have one shape: acquire the lock of the
object, run some statements, jump to `release_lock_and_cleanup` or to `cleanup`. Only the first of
the two labels releases the lock. The frame is stated here for any object that keeps its lock
somewhere; whether the lock is free again afterwards is a matter of the label alone. -/

namespace LockFrame

open ModbusMaster

/-- Where an object keeps its lock. -/
structure Place (σ τ : Type*) where
  lock : σ → Dtlock τ
  setLock : σ → Dtlock τ → σ
  lock_setLock : ∀ s l, lock (setLock s l) = l

variable {σ τ α : Type*} [DecidableEq τ]

/-- `release_lock`: the incoming error takes precedence. -/
def release (P : Place σ τ) (s : σ) (t : τ) (dterrIn : Option Dterr) : σ × Option Dterr :=
  (P.setLock s ((P.lock s).release t).1, dterrIn.or ((P.lock s).release t).2)

/-- Acquire the lock, run the body, and follow its jump. The body also gives what the operation
    stores for its caller, which is `unset` when the lock cannot be acquired. -/
def run (P : Place σ τ) (s : σ) (t : τ) (unset : α) (body : σ → σ × Label × Option Dterr × α) :
    Option (σ × Option Dterr × α) :=
  match (P.lock s).acquire t with
  | none => none
  | some (_, some e) => some (s, some e, unset)
  | some (lock, none) =>
    match body (P.setLock s lock) with
    | (s', .releaseLockAndCleanup, dterr, out) =>
      some ((release P s' t dterr).1, (release P s' t dterr).2, out)
    | (s', .cleanup, dterr, out) => some (s', dterr, out)

/-- The statements under the lock do not touch it. -/
def LeavesLock (P : Place σ τ) (body : σ → σ × Label × Option Dterr × α) : Prop :=
  ∀ s, P.lock (body s).1 = P.lock s

/-- **The frame.** An operation that finds the lock free is not blocked, and the lock is free when
    it returns exactly when its body jumps to `release_lock_and_cleanup`. -/
theorem run_of_free {P : Place σ τ} {s : σ} (t : τ) (unset : α)
    (body : σ → σ × Label × Option Dterr × α) (hbody : LeavesLock P body)
    (hfree : (P.lock s).owner = none) :
    ∃ s' dterr out, run P s t unset body = some (s', dterr, out) ∧
      ((P.lock s').owner = none ↔
        (body (P.setLock s ⟨some t⟩)).2.1 = .releaseLockAndCleanup) := by
  have hacq : (P.lock s).acquire t = some (⟨some t⟩, none) := Dtlock.acquire_of_free t hfree
  have hheld : P.lock (body (P.setLock s ⟨some t⟩)).1 = ⟨some t⟩ := by
    rw [hbody, P.lock_setLock]
  unfold run
  rw [hacq]
  dsimp only
  rcases hlabel : body (P.setLock s ⟨some t⟩) with ⟨s', label, dterr, out⟩
  rw [hlabel] at hheld
  cases label with
  | releaseLockAndCleanup =>
      refine ⟨_, _, _, rfl, ?_⟩
      -- the holder gives the lock back
      rw [release, P.lock_setLock, hheld, Dtlock.release_held]
      simp
  | cleanup =>
      refine ⟨_, _, _, rfl, ?_⟩
      rw [hheld]
      simp

/-- A thread that does not call the operation does not hold the lock afterwards if it did not
    before. -/
theorem run_owner {P : Place σ τ} {s s' : σ} {t t' : τ} {unset out : α} {dterr : Option Dterr}
    {body : σ → σ × Label × Option Dterr × α} (ht : t ≠ t') (hbody : LeavesLock P body)
    (hs : (P.lock s).owner ≠ some t') (h : run P s t unset body = some (s', dterr, out)) :
    (P.lock s').owner ≠ some t' := by
  unfold run at h
  split at h
  · cases h
  · obtain ⟨rfl, -⟩ := Prod.mk.inj (Option.some.inj h)
    exact hs
  · next lock hacquire =>
      obtain ⟨-, rfl⟩ := Dtlock.acquire_eq_ok hacquire
      have hheld := hbody (P.setLock s ⟨some t⟩)
      rw [P.lock_setLock] at hheld
      split at h
      · next v dterrIn stored hv =>
          obtain ⟨rfl, -⟩ := Prod.mk.inj (Option.some.inj h)
          rw [hv] at hheld
          dsimp only at hheld
          rw [release, P.lock_setLock, hheld, Dtlock.release_held]
          exact nofun
      · next v dterrIn stored hv =>
          obtain ⟨rfl, -⟩ := Prod.mk.inj (Option.some.inj h)
          rw [hv] at hheld
          dsimp only at hheld
          rw [hheld]
          exact fun heq => ht (Option.some.inj heq)

end LockFrame

namespace ModbusMaster

variable {τ Cfg F : Type*} [DecidableEq τ]

/-- The lock of a master. -/
def World.place : LockFrame.Place (World τ Cfg F) τ where
  lock w := w.lock
  setLock w l := { w with lock := l }
  lock_setLock _ _ := rfl

/-- The frame of attach, detach, enable and a poll round is the general one. -/
theorem locked_eq_run (w : World τ Cfg F) (t : τ)
    (body : World τ Cfg F → World τ Cfg F × Label × Option Dterr) :
    locked w t body = (LockFrame.run World.place w t () fun w =>
      ((body w).1, (body w).2.1, (body w).2.2, ())).map fun r => (r.1, r.2.1) := by
  unfold locked LockFrame.run
  change _ = Option.map _ (match w.lock.acquire t with
    | none => none
    | some (_, some e) => some (w, some e, ())
    | some (lock, none) => _)
  rcases w.lock.acquire t with _ | ⟨lock, _ | e⟩
  · rfl
  · dsimp only [World.place]
    rcases body { w with lock := lock } with ⟨w', _ | _, dterr⟩ <;> rfl
  · rfl

end ModbusMaster
