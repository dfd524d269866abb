import Mathlib.Data.List.Induction

set_option autoImplicit false

/-! # The bounded FIFO

The abstract queue: a list of at most `cap` elements, to which `push` appends and from which `pop`
takes the first. `Replay` relates a history of operations to the queue it leaves, and
`Replay.pushed_eq` is the law that makes a queue useful: what was popped, followed by what is still
inside, is what was pushed, in order. An overwriting queue takes every push, and makes room for it by
discarding its first element. -/

namespace Fifo

variable {α : Type*}

/-- One operation on the queue; `pop x` is the removal of the element `x`. -/
inductive Op (α : Type*) where
  | push (x : α)
  | pop (x : α)

/-- The effect of an operation on a queue of capacity `cap`. -/
inductive Step (cap : ℕ) : List α → Op α → List α → Prop where
  | push (q : List α) (x : α) (hroom : q.length < cap) : Step cap q (.push x) (q ++ [x])
  | pop (x : α) (q : List α) : Step cap (x :: q) (.pop x) q

/-- `Replay cap history q`: the operations of `history`, oldest first, lead from the empty queue
    to `q`. -/
inductive Replay (cap : ℕ) : List (Op α) → List α → Prop where
  | empty : Replay cap [] []
  | step {history : List (Op α)} {q q' : List α} {op : Op α} (hreplay : Replay cap history q)
      (hstep : Step cap q op q') : Replay cap (history ++ [op]) q'

/-- The elements a history pushed, in order. -/
def pushed (history : List (Op α)) : List α :=
  history.filterMap fun
    | .push x => some x
    | .pop _ => none

/-- The elements a history popped, in order. -/
def popped (history : List (Op α)) : List α :=
  history.filterMap fun
    | .push _ => none
    | .pop x => some x

@[simp] theorem pushed_nil : pushed ([] : List (Op α)) = [] := rfl

@[simp] theorem popped_nil : popped ([] : List (Op α)) = [] := rfl

@[simp] theorem pushed_append_push (h : List (Op α)) (x : α) :
    pushed (h ++ [.push x]) = pushed h ++ [x] := by
  rw [pushed, List.filterMap_append]
  rfl

@[simp] theorem pushed_append_pop (h : List (Op α)) (x : α) :
    pushed (h ++ [.pop x]) = pushed h := by
  rw [pushed, List.filterMap_append]
  exact List.append_nil _

@[simp] theorem popped_append_push (h : List (Op α)) (x : α) :
    popped (h ++ [.push x]) = popped h := by
  rw [popped, List.filterMap_append]
  exact List.append_nil _

@[simp] theorem popped_append_pop (h : List (Op α)) (x : α) :
    popped (h ++ [.pop x]) = popped h ++ [x] := by
  rw [popped, List.filterMap_append]
  rfl

/-- The queue never holds more than its capacity. -/
theorem Replay.length_le {cap : ℕ} {history : List (Op α)} {q : List α}
    (h : Replay cap history q) : q.length ≤ cap := by
  induction h with
  | empty => exact Nat.zero_le cap
  | step _ hstep ih =>
      cases hstep with
      | push q x hroom => rw [List.length_append]; exact hroom
      | pop x q => exact Nat.le_of_succ_le ih

/-- **Conservation.** Nothing is lost, repeated or reordered: the elements popped, followed by the
    elements in the queue, are the elements pushed. -/
theorem Replay.pushed_eq {cap : ℕ} {history : List (Op α)} {q : List α}
    (h : Replay cap history q) : pushed history = popped history ++ q := by
  induction h with
  | empty => rfl
  | step _ hstep ih =>
      cases hstep with
      | push q x hroom => rw [pushed_append_push, popped_append_push, ih, List.append_assoc]
      | pop x q => rw [pushed_append_pop, popped_append_pop, ih, List.append_cons]

/-! ## The overwriting queue -/

/-- The effect of an operation on an overwriting queue of capacity `cap`. -/
def overwritingStep (cap : ℕ) (q : List α) : Op α → List α
  | .push x => if q.length < cap then q ++ [x] else q.tail ++ [x]
  | .pop _ => q.tail

/-- What an overwriting queue holds after a history. -/
def overwriting (cap : ℕ) (history : List (Op α)) : List α :=
  history.foldl (overwritingStep cap) []

theorem overwriting_append (cap : ℕ) (history : List (Op α)) (op : Op α) :
    overwriting cap (history ++ [op]) = overwritingStep cap (overwriting cap history) op := by
  rw [overwriting, List.foldl_append]
  rfl

theorem length_overwriting_le {cap : ℕ} (hcap : 0 < cap) (history : List (Op α)) :
    (overwriting cap history).length ≤ cap := by
  induction history using List.reverseRecOn with
  | nil => exact Nat.zero_le cap
  | append_singleton history op ih =>
      rw [overwriting_append]
      cases op with
      | push x =>
          dsimp only [overwritingStep]
          split
          · next hroom => rw [List.length_append]; exact hroom
          · next hfull =>
              rw [List.length_append, List.length_tail, List.length_singleton]
              omega
      | pop x =>
          refine Nat.le_trans ?_ ih
          rw [overwritingStep, List.length_tail]
          exact Nat.sub_le _ _

/-- What it holds are the elements pushed last. -/
theorem overwriting_suffix (cap : ℕ) (history : List (Op α)) :
    overwriting cap history <:+ pushed history := by
  induction history using List.reverseRecOn with
  | nil => exact List.suffix_rfl
  | append_singleton history op ih =>
      rw [overwriting_append]
      have hend : ∀ (x : α) {q : List α}, q <:+ overwriting cap history →
          q ++ [x] <:+ pushed history ++ [x] := by
        intro x q hq
        obtain ⟨older, holder⟩ := hq.trans ih
        exact ⟨older, by rw [← List.append_assoc, holder]⟩
      cases op with
      | push x =>
          rw [pushed_append_push]
          dsimp only [overwritingStep]
          split
          · exact hend x List.suffix_rfl
          · exact hend x (List.tail_suffix _)
      | pop x =>
          rw [pushed_append_pop]
          exact (List.tail_suffix _).trans ih

end Fifo
