import Mathlib.Data.List.TakeDrop

set_option autoImplicit false

/-! # Pipes

One direction of a connection: what the sender has handed over is on its way, arrives in pieces of which
a buffer of limited size may take only the beginning, and is taken from the buffer. Whatever happens,
the receiver takes a subsequence of what was handed over (`Step.subsequence`); it is all there as long as
every piece finds room (`lossless_arrive`), and a sender that never gets further ahead of the receiver
than the buffer is long sees to that (`Lossless.room`). -/

/-- What was accepted from the sender, what is on its way, what has arrived and is not yet taken, and
    what was taken. -/
structure Pipe (α : Type*) where
  accepted : List α
  inFlight : List α
  buffered : List α
  taken : List α

namespace Pipe

variable {α : Type*}

/-- One step; of a piece that arrives the first `n` items are stored. -/
inductive Step (p : Pipe α) : Pipe α → Prop where
  | stay : Step p p
  | accept (xs : List α) :
      Step p { p with accepted := p.accepted ++ xs, inFlight := p.inFlight ++ xs }
  | arrive (xs rest : List α) (n : ℕ) (hnext : p.inFlight = xs ++ rest) :
      Step p { p with inFlight := rest, buffered := p.buffered ++ xs.take n }
  | take (xs rest : List α) (hnext : p.buffered = xs ++ rest) :
      Step p { p with buffered := rest, taken := p.taken ++ xs }

/-- What was taken, what is stored and what is on its way are, in this order, among what was accepted:
    nothing is invented, repeated or reordered. -/
def Subsequence (p : Pipe α) : Prop :=
  (p.taken ++ p.buffered ++ p.inFlight).Sublist p.accepted

/-- Nothing is lost either. -/
def Lossless (p : Pipe α) : Prop := p.taken ++ p.buffered ++ p.inFlight = p.accepted

theorem Step.subsequence {p p' : Pipe α} (h : p.Step p') (hp : p.Subsequence) : p'.Subsequence := by
  cases h with
  | stay => exact hp
  | accept xs =>
      show (p.taken ++ p.buffered ++ (p.inFlight ++ xs)).Sublist (p.accepted ++ xs)
      rw [← List.append_assoc]
      exact hp.append_right xs
  | arrive xs rest n hnext =>
      show (p.taken ++ (p.buffered ++ xs.take n) ++ rest).Sublist p.accepted
      refine List.Sublist.trans ?_ hp
      rw [hnext, ← List.append_assoc, ← List.append_assoc]
      exact ((List.Sublist.refl _).append (List.take_sublist n xs)).append_right rest
  | take xs rest hnext =>
      show (p.taken ++ xs ++ rest ++ p.inFlight).Sublist p.accepted
      rw [List.append_assoc p.taken, ← hnext]
      exact hp

/-- A piece that arrives is kept exactly when all of it is stored. -/
theorem lossless_arrive {p : Pipe α} {xs rest : List α} (n : ℕ) (hnext : p.inFlight = xs ++ rest)
    (hp : p.Lossless) :
    Lossless { p with inFlight := rest, buffered := p.buffered ++ xs.take n } ↔ xs.length ≤ n := by
  have hbefore : p.taken ++ p.buffered ++ xs ++ rest = p.accepted := by
    rw [List.append_assoc _ xs, ← hnext]
    exact hp
  show p.taken ++ (p.buffered ++ xs.take n) ++ rest = p.accepted ↔ _
  rw [← hbefore, List.append_left_inj, ← List.append_assoc, List.append_right_inj,
    List.take_eq_self_iff]

theorem Lossless.accept {p : Pipe α} (h : p.Lossless) (xs : List α) :
    Lossless { p with accepted := p.accepted ++ xs, inFlight := p.inFlight ++ xs } := by
  show p.taken ++ p.buffered ++ (p.inFlight ++ xs) = p.accepted ++ xs
  rw [← List.append_assoc, h]

theorem Lossless.take {p : Pipe α} (h : p.Lossless) {xs rest : List α}
    (hnext : p.buffered = xs ++ rest) :
    Lossless { p with buffered := rest, taken := p.taken ++ xs } := by
  show p.taken ++ xs ++ rest ++ p.inFlight = p.accepted
  rw [List.append_assoc p.taken, ← hnext, h]

/-! ## The window -/

/-- The sender is no more than `window` items ahead of the receiver. -/
def Within (window : ℕ) (p : Pipe α) : Prop := p.accepted.length ≤ p.taken.length + window

/-- What is on its way then has room. -/
theorem Lossless.room {p : Pipe α} (h : p.Lossless) {window : ℕ} (hwithin : p.Within window) :
    p.buffered.length + p.inFlight.length ≤ window := by
  have hlength := congrArg List.length h
  rw [List.length_append, List.length_append] at hlength
  unfold Within at hwithin
  omega

/-- Only a new item of the sender can bring it further ahead. -/
theorem Step.within {p p' : Pipe α} (h : p.Step p') {window : ℕ} (hwithin : p.Within window)
    (haccepted : p'.accepted = p.accepted) : p'.Within window := by
  unfold Within at hwithin ⊢
  rw [haccepted]
  refine Nat.le_trans hwithin (Nat.add_le_add_right ?_ window)
  cases h with
  | stay | accept | arrive => exact Nat.le_refl _
  | take xs rest =>
      show p.taken.length ≤ (p.taken ++ xs).length
      rw [List.length_append]
      exact Nat.le_add_right _ _

end Pipe
