import Mathlib.Data.List.Basic

set_option autoImplicit false

/-! # Chopped lists

A list is chopped into pieces of at most `n`: no piece is empty, and all but the last are full. -/

namespace Chunks

variable {α : Type*} {n : ℕ}

/-- `Chopped n l cs`: the pieces `cs` of `l`. -/
inductive Chopped (n : ℕ) : List α → List (List α) → Prop
  | nil : Chopped n [] []
  | last {l : List α} (hne : l ≠ []) (hle : l.length ≤ n) : Chopped n l [l]
  | full {c l : List α} {cs : List (List α)} (hlen : c.length = n) (hne : l ≠ [])
      (h : Chopped n l cs) : Chopped n (c ++ l) (c :: cs)

variable {l : List α} {cs : List (List α)}

/-- The empty list has no pieces. -/
theorem Chopped.eq_nil (h : Chopped n l cs) (hnil : l = []) : cs = [] := by
  cases h with
  | nil => rfl
  | last hne => exact absurd hnil hne
  | full _ hne => exact absurd (List.append_eq_nil_iff.1 hnil).2 hne

/-- A piece is taken off the front, and the rest is chopped. -/
theorem Chopped.take_cons (hne : l ≠ []) (h : Chopped n (l.drop n) cs) :
    Chopped n l (l.take n :: cs) := by
  by_cases hrest : l.drop n = []
  · have hle : l.length ≤ n := List.drop_eq_nil_iff.1 hrest
    rw [h.eq_nil hrest, List.take_of_length_le hle]
    exact .last hne hle
  · have hlen : (l.take n).length = n := by
      have hlt : n < l.length := Nat.lt_of_not_le fun hle => hrest (List.drop_eq_nil_of_le hle)
      exact List.length_take_of_le (Nat.le_of_lt hlt)
    have hfull := Chopped.full hlen hrest h
    rwa [List.take_append_drop] at hfull

/-- The pieces together are the list. -/
theorem Chopped.flatten (h : Chopped n l cs) : cs.flatten = l := by
  induction h with
  | nil => rfl
  | last => exact List.append_nil _
  | full _ _ _ ih => rw [List.flatten_cons, ih]

/-- No piece is empty or too long. -/
theorem Chopped.length_mem (hn : 0 < n) (h : Chopped n l cs) :
    ∀ c ∈ cs, 1 ≤ c.length ∧ c.length ≤ n := by
  induction h with
  | nil => exact nofun
  | last hne hle =>
      intro c hc
      obtain rfl := List.mem_singleton.1 hc
      exact ⟨List.length_pos_iff.2 hne, hle⟩
  | full hlen _ _ ih =>
      intro c hc
      rcases List.mem_cons.1 hc with rfl | hc
      · exact ⟨hlen ▸ hn, Nat.le_of_eq hlen⟩
      · exact ih c hc

theorem Chopped.ne_nil (h : Chopped n l cs) (hne : l ≠ []) : cs ≠ [] := by
  cases h with
  | nil => exact absurd rfl hne
  | last => exact List.cons_ne_nil _ _
  | full => exact List.cons_ne_nil _ _

/-- All pieces but the last are full. -/
theorem Chopped.length_dropLast (h : Chopped n l cs) : ∀ c ∈ cs.dropLast, c.length = n := by
  induction h with
  | nil => exact nofun
  | last => exact nofun
  | full hlen hne h ih =>
      intro c hc
      rw [List.dropLast_cons_of_ne_nil (h.ne_nil hne)] at hc
      rcases List.mem_cons.1 hc with rfl | hc
      · exact hlen
      · exact ih c hc

/-- There are as many pieces as the quotient, rounded up. -/
theorem Chopped.length_eq (hn : 0 < n) (h : Chopped n l cs) :
    cs.length = (l.length + (n - 1)) / n := by
  induction h with
  | nil => exact (Nat.div_eq_of_lt (by simp; omega)).symm
  | @last l hne hle =>
      have hpos : 1 ≤ l.length := List.length_pos_iff.2 hne
      have hsum : l.length + (n - 1) = l.length - 1 + n := by omega
      rw [hsum, Nat.add_div_right _ hn, Nat.div_eq_of_lt (by omega)]
      rfl
  | @full c l cs hlen hne h ih =>
      have hsum : (c ++ l).length + (n - 1) = l.length + (n - 1) + n := by
        rw [List.length_append]
        omega
      rw [hsum, Nat.add_div_right _ hn, List.length_cons, ih]

end Chunks
