import Mathlib.Data.List.Basic

set_option autoImplicit false

/-! # The ledger of a queue

What went into a queue and what came out of it, each in order. A queue that loses, invents and
reorders nothing is in balance: what went in is what came out, followed by what it still holds. -/

variable {α : Type*}

/-- What went in, and what came out. -/
structure QueueLedger (α : Type*) where
  entered : List α
  left : List α

namespace QueueLedger

/-- The ledger of a queue that holds `held` and has had no traffic. -/
def opened (held : List α) : QueueLedger α := ⟨held, []⟩

/-- `a` goes in and `b` comes out. -/
def record (l : QueueLedger α) (a b : List α) : QueueLedger α := ⟨l.entered ++ a, l.left ++ b⟩

/-- What went in is what came out and what is held. -/
def Balances (l : QueueLedger α) (held : List α) : Prop := l.entered = l.left ++ held

theorem balances_opened (held : List α) : (opened held).Balances held := rfl

variable {l : QueueLedger α} {held held' : List α}

/-- A movement keeps the balance exactly when the queue itself has moved that way. -/
theorem Balances.record_iff (h : l.Balances held) (a b : List α) :
    (l.record a b).Balances held' ↔ held ++ a = b ++ held' := by
  unfold Balances record
  rw [h, List.append_assoc, List.append_assoc, List.append_cancel_left_eq]

/-- Nothing goes in or out. -/
theorem Balances.iff_eq (h : l.Balances held) : l.Balances held' ↔ held' = held := by
  unfold Balances
  rw [h, List.append_cancel_left_eq]
  exact eq_comm

end QueueLedger
