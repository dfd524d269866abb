import Mathlib.Data.List.Basic

set_option autoImplicit false

/-! # Counted loops

`forRange lo hi body s` is the loop `for (t = lo; t < hi; ++t) body` on the state `s`. -/

/-- Run `body lo`, `body (lo + 1)`, …, `body (hi - 1)` on the state, in this order. -/
def forRange {σ : Type*} (lo hi : ℕ) (body : ℕ → σ → σ) (s : σ) : σ :=
  (List.range' lo (hi - lo)).foldl (fun s t => body t s) s

namespace forRange

variable {σ : Type*} {body : ℕ → σ → σ}

theorem empty (lo : ℕ) (s : σ) : forRange lo lo body s = s := by
  unfold forRange
  rw [Nat.sub_self, List.range'_zero, List.foldl_nil]

theorem succ (lo n : ℕ) (s : σ) :
    forRange lo (lo + (n + 1)) body s = body (lo + n) (forRange lo (lo + n) body s) := by
  unfold forRange
  rw [Nat.add_sub_cancel_left, Nat.add_sub_cancel_left, List.range'_concat, List.foldl_append,
    List.foldl_cons, List.foldl_nil, Nat.one_mul]

/-- **Loop rule.** An invariant indexed by the loop counter, true at `lo` and re-established by
    every pass, holds at `hi` when the loop ends. -/
theorem invariant {lo hi : ℕ} (P : ℕ → σ → Prop) (hle : lo ≤ hi) {s : σ} (h0 : P lo s)
    (hbody : ∀ t s, lo ≤ t → t < hi → P t s → P (t + 1) (body t s)) :
    P hi (forRange lo hi body s) := by
  obtain ⟨n, rfl⟩ := Nat.exists_eq_add_of_le hle
  have key : ∀ m, m ≤ n → P (lo + m) (forRange lo (lo + m) body s) := by
    intro m
    induction m with
    | zero => intro _; rwa [Nat.add_zero, empty]
    | succ m ih =>
        intro hm
        rw [succ]
        exact hbody (lo + m) _ (Nat.le_add_right _ _) (by omega) (ih (by omega))
  exact key n (Nat.le_refl n)

/-- Two loops whose bodies preserve a relation between their states end in related states. -/
theorem related {τ : Type*} {body' : ℕ → τ → τ} {lo hi : ℕ} (R : σ → τ → Prop) (hle : lo ≤ hi)
    {s : σ} {s' : τ} (h0 : R s s')
    (hbody : ∀ t s s', lo ≤ t → t < hi → R s s' → R (body t s) (body' t s')) :
    R (forRange lo hi body s) (forRange lo hi body' s') := by
  obtain ⟨n, rfl⟩ := Nat.exists_eq_add_of_le hle
  have key : ∀ m, m ≤ n →
      R (forRange lo (lo + m) body s) (forRange lo (lo + m) body' s') := by
    intro m
    induction m with
    | zero => intro _; rwa [Nat.add_zero, empty, empty]
    | succ m ih =>
        intro hm
        rw [succ, succ]
        exact hbody (lo + m) _ _ (Nat.le_add_right _ _) (by omega) (ih (by omega))
  exact key n (Nat.le_refl n)

end forRange

attribute [irreducible] forRange
