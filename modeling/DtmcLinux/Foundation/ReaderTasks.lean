import Mathlib.Data.List.Basic
import Mathlib.Data.Int.Notation

set_option autoImplicit false

/-! # Tasks that read a shared descriptor

An object has one variable for its descriptor, and starts a task for each descriptor it opens. The
tasks read the variable again and again, so a task may come to read a descriptor that was opened for
a later one. `OneReader` is the invariant that excludes this: at most one task is running, and the
descriptor in the variable, when there is one, is the one that task was started for. -/

/-- What matters of a program counter: whether the task is still running, and the descriptor it is
    reading. -/
class ReaderPc (π : Type*) where
  running : π → Bool
  reads : π → Option ℤ

/-- A task: where it is, the descriptor it was started for, and whether it has told its creator that
    it is ready. -/
structure ReaderTask (π : Type*) where
  pc : π
  opened : ℤ
  ready : Bool

namespace ReaderTask

variable {π : Type*} [ReaderPc π]

/-- The task has not ended. -/
def Running (t : ReaderTask π) : Prop := ReaderPc.running t.pc = true

instance : DecidablePred (Running (π := π)) := fun _ => instDecidableEqBool _ _

theorem running_of_pc {t : ReaderTask π} {pc : π} (hpc : t.pc = pc)
    (hrun : ReaderPc.running pc = true) : t.Running := by
  subst hpc
  exact hrun

/-- A running task takes a step, with `fd` in the variable: it goes on reading what it read, or
    turns to that descriptor. -/
structure Advances (fd : ℤ) (t t' : ReaderTask π) : Prop where
  running : t.Running
  opened : t'.opened = t.opened
  reads : ∀ fd', ReaderPc.reads t'.pc = some fd' → ReaderPc.reads t.pc = some fd' ∨ fd' = fd

namespace Advances

variable {fd : ℤ} {t t' : ReaderTask π} {pc : π}

/-- A task that does not end stays where it is. -/
theorem stay (hpc : t.pc = pc) (hrun : ReaderPc.running pc = true) : t.Advances fd t where
  running := running_of_pc hpc hrun
  opened := rfl
  reads _ h := Or.inl h

/-- A step to a place where the task does not read. -/
theorem idle (hpc : t.pc = pc) (hrun : ReaderPc.running pc = true) (hopened : t'.opened = t.opened)
    (hreads : ReaderPc.reads t'.pc = none) : t.Advances fd t' where
  running := running_of_pc hpc hrun
  opened := hopened
  reads fd' h := by
    rw [hreads] at h
    exact absurd h (by simp)

/-- A step to a call that reads the descriptor in the variable. -/
theorem turn (hpc : t.pc = pc) (hrun : ReaderPc.running pc = true) (hopened : t'.opened = t.opened)
    (hreads : ReaderPc.reads t'.pc = some fd) : t.Advances fd t' where
  running := running_of_pc hpc hrun
  opened := hopened
  reads fd' h := by
    rw [hreads] at h
    exact Or.inr (Option.some.inj h).symm

end Advances

end ReaderTask

section

variable {π : Type*} [ReaderPc π]

/-- At most one task is running, and no task reads a descriptor other than its own. -/
structure SingleReader (tasks : List (ReaderTask π)) : Prop where
  atMostOne : ∀ (i j : ℕ) (a b : ReaderTask π), tasks[i]? = some a → tasks[j]? = some b →
    a.Running → b.Running → i = j
  reads : ∀ a ∈ tasks, ∀ fd, ReaderPc.reads a.pc = some fd → 0 ≤ fd → fd = a.opened

/-- **The invariant**, with the descriptor in the variable. -/
structure OneReader (fd : ℤ) (tasks : List (ReaderTask π)) : Prop extends SingleReader tasks where
  current : ∀ a ∈ tasks, a.Running → 0 ≤ fd → fd = a.opened

namespace OneReader

variable {fd fd' : ℤ} {tasks : List (ReaderTask π)}

theorem nil : OneReader fd ([] : List (ReaderTask π)) where
  atMostOne _ _ _ _ h := absurd h (by simp)
  reads _ h := absurd h List.not_mem_nil
  current _ h := absurd h List.not_mem_nil

/-- The variable is cleared. -/
theorem clear (h : OneReader fd tasks) (hneg : fd' < 0) : OneReader fd' tasks :=
  { h with current := fun _ _ _ hnonneg => absurd hneg (Int.not_lt.2 hnonneg) }

/-- While no task is running, the variable may get any descriptor. -/
theorem reopen (h : OneReader fd tasks) (hnone : ∀ a ∈ tasks, ¬a.Running) : OneReader fd' tasks :=
  { h with current := fun a ha hrun => absurd hrun (hnone a ha) }

/-- A task takes a step. -/
theorem advance (h : OneReader fd tasks) {i : ℕ} {a a' : ReaderTask π} (ha : tasks[i]? = some a)
    (hstep : a.Advances fd a') : OneReader fd (tasks.set i a') := by
  obtain ⟨hrunning, hopened, hreads⟩ := hstep
  have hlt : i < tasks.length := (List.getElem?_eq_some_iff.1 ha).1
  have hmem : a ∈ tasks := List.mem_of_getElem? ha
  -- a running task of the new list was running at the same place in the old one
  have hold : ∀ (j : ℕ) (b : ReaderTask π), (tasks.set i a')[j]? = some b → b.Running →
      ∃ b₀, tasks[j]? = some b₀ ∧ b₀.Running := by
    intro j b hb hrun
    by_cases hij : i = j
    · subst hij
      exact ⟨a, ha, hrunning⟩
    · rw [List.getElem?_set_ne hij] at hb
      exact ⟨b, hb, hrun⟩
  refine { atMostOne := ?_, reads := ?_, current := ?_ }
  · intro j k b c hb hc hrunb hrunc
    obtain ⟨b₀, hb₀, hrunb₀⟩ := hold j b hb hrunb
    obtain ⟨c₀, hc₀, hrunc₀⟩ := hold k c hc hrunc
    exact h.atMostOne j k b₀ c₀ hb₀ hc₀ hrunb₀ hrunc₀
  · intro b hb fd' hfd' hnonneg
    rcases List.mem_or_eq_of_mem_set hb with hb | rfl
    · exact h.reads b hb fd' hfd' hnonneg
    · rw [hopened]
      rcases hreads fd' hfd' with hsame | rfl
      · exact h.reads a hmem fd' hsame hnonneg
      · exact h.current a hmem hrunning hnonneg
  · intro b hb hrun hnonneg
    rcases List.mem_or_eq_of_mem_set hb with hb | rfl
    · exact h.current b hb hrun hnonneg
    · rw [hopened]
      exact h.current a hmem hrunning hnonneg

/-- While no task is running, a task may be started for the descriptor in the variable. -/
theorem spawn (h : OneReader fd tasks) (hnone : ∀ a ∈ tasks, ¬a.Running) {new : ReaderTask π}
    (hopened : new.opened = fd') (hreads : ReaderPc.reads new.pc = none) :
    OneReader fd' (tasks ++ [new]) := by
  -- only the new task is running
  have hlast : ∀ (j : ℕ) (b : ReaderTask π), (tasks ++ [new])[j]? = some b → b.Running →
      j = tasks.length := by
    intro j b hb hrun
    by_cases hj : j < tasks.length
    · rw [List.getElem?_append_left hj] at hb
      exact absurd hrun (hnone b (List.mem_of_getElem? hb))
    · have hle := (List.getElem?_eq_some_iff.1 hb).1
      rw [List.length_append, List.length_singleton] at hle
      omega
  refine { atMostOne := ?_, reads := ?_, current := ?_ }
  · intro i j a b ha hb hruna hrunb
    rw [hlast i a ha hruna, hlast j b hb hrunb]
  · intro a ha fd₀ hfd₀ hnonneg
    rcases List.mem_append.1 ha with ha | ha
    · exact h.reads a ha fd₀ hfd₀ hnonneg
    · rw [List.mem_singleton.1 ha, hreads] at hfd₀
      exact absurd hfd₀ (by simp)
  · intro a ha hrun _
    rcases List.mem_append.1 ha with ha | ha
    · exact absurd hrun (hnone a ha)
    · rw [List.mem_singleton.1 ha, hopened]

end OneReader

end
