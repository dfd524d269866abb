import DtmcLinux.Posix.Pthread
import Mathlib.Data.List.Nodup

set_option autoImplicit false

/-! # Balancing signals against work

A condition variable is used so that a thread sleeps on it only while there is nothing to do, and
so that each unit of work made available is announced by one `pthread_cond_signal`. Two facts about
the condition variable itself carry the argument that no announcement is lost.

`Account`: the waiters and the signalled threads are, without repetition, the threads that are
asleep. `Covers k`: as long as some waiter has not been signalled, the signalled threads are at
least `k`. When `k` is the amount of work available, this says that enough threads are on their way;
a new unit of work comes with a signal (`Covers.signal`), and a signalled thread that resumes takes
one unit away (`Covers.resume_signalled`). -/

namespace Posix.Cond

variable {τ : Type*}

/-- The threads asleep on `cv` are those that satisfy `asleep`, each of them once. -/
structure Account (cv : Cond τ) (asleep : τ → Prop) : Prop where
  nodup : (cv.waiting ++ cv.signalled).Nodup
  mem_iff : ∀ t, t ∈ cv.waiting ++ cv.signalled ↔ asleep t

/-- As long as some waiter has not been signalled, at least `k` threads are signalled. -/
def Covers (cv : Cond τ) (k : ℕ) : Prop := cv.waiting ≠ [] → k ≤ cv.signalled.length

/-! ## The account -/

namespace Account

variable {cv : Cond τ} {asleep asleep' : τ → Prop}

theorem init (h : ∀ t, ¬asleep t) : (Cond.init : Cond τ).Account asleep where
  nodup := List.nodup_nil
  mem_iff t := by
    have hnot := h t
    simp [Cond.init, hnot]

theorem congr (h : cv.Account asleep) (heq : ∀ t, asleep t ↔ asleep' t) : cv.Account asleep' where
  nodup := h.nodup
  mem_iff t := (h.mem_iff t).trans (heq t)

/-- A thread that is asleep and not signalled is a waiter. -/
theorem mem_waiting (h : cv.Account asleep) {t : τ} (ht : asleep t) (hns : t ∉ cv.signalled) :
    t ∈ cv.waiting := by
  have hmem := (h.mem_iff t).2 ht
  rcases List.mem_append.1 hmem with hw | hs
  · exact hw
  · exact absurd hs hns

theorem asleep_of_signalled (h : cv.Account asleep) {t : τ} (ht : t ∈ cv.signalled) : asleep t :=
  (h.mem_iff t).1 (List.mem_append_right _ ht)

theorem signalled_nodup (h : cv.Account asleep) : cv.signalled.Nodup :=
  (List.nodup_append.1 h.nodup).2.1

/-- A thread that was awake goes to sleep. -/
theorem wait (h : cv.Account asleep) {t : τ} (ht : ¬asleep t) :
    (cv.wait t).Account fun t' => t' = t ∨ asleep t' where
  nodup := by
    have hnot : t ∉ cv.waiting ++ cv.signalled := fun hmem => ht ((h.mem_iff t).1 hmem)
    exact List.nodup_cons.2 ⟨hnot, h.nodup⟩
  mem_iff t' := by
    show t' ∈ t :: (cv.waiting ++ cv.signalled) ↔ _
    rw [List.mem_cons, h.mem_iff]

section Signals

variable [DecidableEq τ]

/-- A signal puts no thread to sleep and wakes none: it only makes one runnable. -/
theorem signal (h : cv.Account asleep) {pick : Option τ} {cv' : Cond τ}
    (hs : cv.signal pick = some cv') : cv'.Account asleep := by
  cases pick with
  | none =>
      rw [Cond.signal, Option.ite_none_right_eq_some, Option.some.injEq] at hs
      exact hs.2 ▸ h
  | some t =>
      rw [Cond.signal, Option.ite_none_right_eq_some, Option.some.injEq] at hs
      obtain ⟨hw, rfl⟩ := hs
      -- the picked waiter moves from one list to the other
      have hperm : (cv.waiting.erase t ++ t :: cv.signalled).Perm (cv.waiting ++ cv.signalled) := by
        refine List.perm_middle.trans ?_
        exact (List.perm_cons_erase hw).symm.append_right _
      exact ⟨hperm.nodup_iff.2 h.nodup, fun t' => hperm.mem_iff.trans (h.mem_iff t')⟩

/-- A thread returns from its wait. -/
theorem resume (h : cv.Account asleep) (t : τ) :
    (cv.resume t).Account fun t' => t' ≠ t ∧ asleep t' where
  nodup := by
    refine h.nodup.sublist ?_
    exact List.erase_sublist.append List.erase_sublist
  mem_iff t' := by
    obtain ⟨hw, hs, -⟩ := List.nodup_append.1 h.nodup
    rw [← h.mem_iff]
    show t' ∈ cv.waiting.erase t ++ cv.signalled.erase t ↔ _
    rw [List.mem_append, List.mem_append, hw.mem_erase_iff, hs.mem_erase_iff]
    tauto

/-- A signalled thread is no longer among the waiters. -/
theorem erase_waiting (h : cv.Account asleep) {t : τ} (ht : t ∈ cv.signalled) :
    cv.waiting.erase t = cv.waiting := by
  refine List.erase_of_not_mem fun hw => ?_
  exact (List.nodup_append.1 h.nodup).2.2 t hw t ht rfl

end Signals

/-! ### Threads described by what they do

Where `activity t` says what thread `t` is doing and `P` which activities are a sleep on `cv`, a
critical section of `t` starts with `outside` (or `resume`) and ends with `leave` or `sleep`. -/

section Activity

variable {α : Type*} {activity : τ → α} {P : α → Prop} {t : τ} {a : α}

/-- A thread that is not asleep enters a critical section. -/
theorem outside (h : cv.Account fun t' => P (activity t')) (ht : ¬P (activity t)) :
    cv.Account fun t' => t' ≠ t ∧ P (activity t') := by
  refine h.congr fun t' => ⟨fun hp => ⟨?_, hp⟩, And.right⟩
  rintro rfl
  exact ht hp

variable [DecidableEq τ]

/-- The thread leaves the critical section and does something else than sleep on `cv`. -/
theorem leave (h : cv.Account fun t' => t' ≠ t ∧ P (activity t')) (ha : ¬P a) :
    cv.Account fun t' => P (if t' = t then a else activity t') := by
  refine h.congr fun t' => ?_
  by_cases heq : t' = t
  · rw [if_pos heq]
    exact ⟨fun hp => absurd heq hp.1, fun hp => absurd hp ha⟩
  · rw [if_neg heq]
    exact ⟨And.right, fun hp => ⟨heq, hp⟩⟩

/-- The thread ends the critical section by going to sleep on `cv`. -/
theorem sleep (h : cv.Account fun t' => t' ≠ t ∧ P (activity t')) (ha : P a) :
    (cv.wait t).Account fun t' => P (if t' = t then a else activity t') := by
  refine (h.wait fun hp => hp.1 rfl).congr fun t' => ?_
  by_cases heq : t' = t
  · rw [if_pos heq]
    exact ⟨fun _ => ha, fun _ => Or.inl heq⟩
  · rw [if_neg heq]
    constructor
    · rintro (h | h)
      · exact absurd h heq
      · exact h.2
    · exact fun hp => Or.inr ⟨heq, hp⟩

end Activity

end Account

/-! ## The balance -/

namespace Covers

variable {cv : Cond τ} {k l : ℕ}

theorem init (k : ℕ) : (Cond.init : Cond τ).Covers k := fun h => absurd rfl h

theorem mono (h : cv.Covers k) (hl : l ≤ k) : cv.Covers l := fun hw => Nat.le_trans hl (h hw)

/-- With nothing to do, nobody has to be on the way. -/
theorem zero (cv : Cond τ) : cv.Covers 0 := fun _ => Nat.zero_le _

variable [DecidableEq τ]

/-- One more unit of work, announced by a signal. -/
theorem signal (h : cv.Covers k) {pick : Option τ} {cv' : Cond τ}
    (hs : cv.signal pick = some cv') : cv'.Covers (k + 1) := by
  cases pick with
  | none =>
      rw [Cond.signal, Option.ite_none_right_eq_some, Option.some.injEq] at hs
      obtain ⟨hempty, rfl⟩ := hs
      intro hw
      exact absurd (List.isEmpty_iff.1 hempty) hw
  | some t =>
      rw [Cond.signal, Option.ite_none_right_eq_some, Option.some.injEq] at hs
      obtain ⟨hmem, rfl⟩ := hs
      intro _
      exact Nat.succ_le_succ (h (List.ne_nil_of_mem hmem))

/-- A signalled thread that resumes takes one unit of work on itself. -/
theorem resume_signalled {asleep : τ → Prop} (ha : cv.Account asleep) (h : cv.Covers k) {t : τ}
    (ht : t ∈ cv.signalled) : (cv.resume t).Covers (k - 1) := by
  intro hw
  have hwaiting : cv.waiting ≠ [] := by
    rw [← ha.erase_waiting ht]
    exact hw
  show k - 1 ≤ (cv.signalled.erase t).length
  rw [List.length_erase_of_mem ht]
  exact Nat.sub_le_sub_right (h hwaiting) 1

/-- A waiter that resumes without a signal changes nothing for the others. -/
theorem resume_waiting (h : cv.Covers k) {t : τ} (ht : t ∉ cv.signalled) :
    (cv.resume t).Covers k := by
  intro hw
  show k ≤ (cv.signalled.erase t).length
  rw [List.erase_of_not_mem ht]
  refine h fun hnil => hw ?_
  show cv.waiting.erase t = []
  rw [hnil, List.erase_nil]

end Covers

end Posix.Cond
