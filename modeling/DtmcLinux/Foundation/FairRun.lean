import DtmcLinux.Foundation.StepRun
import Mathlib.Data.Nat.Init

set_option autoImplicit false

/-! # Infinite runs and fairness

A system that never stops: at each moment one event happens, or none. Finite runs say what a system
never does; infinite runs say what it does in the end, when no thread that can move is passed over
for ever. `leadsTo_of_rank` is the rule for that: a rank that no step increases and that the events
of one thread decrease. -/

namespace Run

variable {σ ε : Type*} {step : σ → ε → Option σ}

/-- Executing two lists one after the other. -/
theorem exec_append (s : σ) (es fs : List ε) :
    exec step s (es ++ fs) = (exec step s es).bind fun t => exec step t fs := by
  induction es generalizing s with
  | nil => rfl
  | cons e es ih =>
      rw [List.cons_append, exec_cons, exec_cons, Option.bind_assoc]
      simp only [ih]

variable (step)

/-- A run without end. -/
structure Infinite where
  state : ℕ → σ
  /-- what happens between the states `n` and `n + 1`, if anything does -/
  event : ℕ → Option ε
  next : ∀ n, exec step (state n) (event n).toList = some (state (n + 1))

variable {step}

namespace Infinite

variable (run : Infinite step)

theorem next_none {n : ℕ} (h : run.event n = none) : run.state (n + 1) = run.state n := by
  have hnext := run.next n
  rw [h] at hnext
  exact (Option.some.inj hnext).symm

theorem next_some {n : ℕ} {e : ε} (h : run.event n = some e) :
    step (run.state n) e = some (run.state (n + 1)) := by
  have hnext := run.next n
  rw [h] at hnext
  obtain ⟨s', hs', hlast⟩ := (exec_cons_eq_some step _ _ e []).1 hnext
  exact hs'.trans hlast

/-- A property that no step of the run breaks from `n` on still holds at any later moment. -/
theorem stable {P : σ → Prop} {n : ℕ} (hn : P (run.state n))
    (hstep : ∀ m, n ≤ m → ∀ e, run.event m = some e → ∀ s', P (run.state m) →
      step (run.state m) e = some s' → P s') :
    ∀ m, n ≤ m → P (run.state m) := by
  intro m hm
  induction m, hm using Nat.le_induction with
  | base => exact hn
  | succ m hm ih =>
      cases hevent : run.event m with
      | none => rwa [run.next_none hevent]
      | some e => exact hstep m hm e hevent _ ih (run.next_some hevent)

/-- A property of the first state that every step preserves holds at every moment. -/
theorem invariant {P : σ → Prop} (hfirst : P (run.state 0))
    (hstep : ∀ s e s', P s → step s e = some s' → P s') (n : ℕ) : P (run.state n) :=
  run.stable hfirst (fun _ _ e _ s' hP h => hstep _ e s' hP h) n (Nat.zero_le n)

/-- What is enabled from some moment on happens after that moment. -/
def WeaklyFair (enabled : σ → Prop) (occurs : ε → Prop) : Prop :=
  ∀ n, (∀ m, n ≤ m → enabled (run.state m)) → ∃ m, n ≤ m ∧ ∃ e, run.event m = some e ∧ occurs e

/-- The run from the moment `n` on. -/
def drop (n : ℕ) : Infinite step where
  state m := run.state (n + m)
  event m := run.event (n + m)
  next m := run.next (n + m)

variable {run}

theorem WeaklyFair.drop {enabled : σ → Prop} {occurs : ε → Prop} (h : run.WeaklyFair enabled occurs)
    (n : ℕ) : (run.drop n).WeaklyFair enabled occurs := by
  intro m hen
  have hen' : ∀ k, n + m ≤ k → enabled (run.state k) := by
    intro k hk
    have henk := hen (k - n) (Nat.le_sub_of_add_le' hk)
    change enabled (run.state (n + (k - n))) at henk
    rwa [Nat.add_sub_of_le (Nat.le_trans (Nat.le_add_right n m) hk)] at henk
  obtain ⟨k, hk, e, hevent, hoccurs⟩ := h (n + m) hen'
  refine ⟨k - n, Nat.le_sub_of_add_le' hk, e, ?_, hoccurs⟩
  show run.event (n + (k - n)) = some e
  rwa [Nat.add_sub_of_le (Nat.le_trans (Nat.le_add_right n m) hk)]

/-- What stays enabled as long as it does not happen happens. -/
theorem WeaklyFair.eventually {enabled : σ → Prop} {occurs : ε → Prop}
    (h : run.WeaklyFair enabled occurs) {n : ℕ} (hn : enabled (run.state n))
    (hstep : ∀ m e s', enabled (run.state m) → ¬occurs e →
      run.event m = some e → step (run.state m) e = some s' → enabled s') :
    ∃ m, n ≤ m ∧ ∃ e, run.event m = some e ∧ occurs e := by
  by_contra hnever
  refine hnever (h n (run.stable hn fun m hm e hevent s' hen hs' => ?_))
  exact hstep m e s' hen (fun ho => hnever ⟨m, hm, e, hevent, ho⟩) hevent hs'

/-- **Ranking rule.** As long as `P` holds and `Q` has not come, no step increases the rank and the
    helpful ones decrease it. If a helpful event comes again and again, so does `Q` once `P`
    holds. -/
theorem leadsTo_of_rank {P Q : σ → Prop} (rank : σ → ℕ) (helpful : ε → Prop)
    (hstep : ∀ m e, P (run.state m) → run.event m = some e → Q (run.state (m + 1)) ∨
      (P (run.state (m + 1)) ∧ rank (run.state (m + 1)) ≤ rank (run.state m) ∧
        (helpful e → rank (run.state (m + 1)) < rank (run.state m))))
    (hhelp : ∀ n, P (run.state n) → ∃ m, n ≤ m ∧ ∃ e, run.event m = some e ∧ helpful e) :
    ∀ n, P (run.state n) → ∃ m, n ≤ m ∧ Q (run.state m) := by
  -- up to the helpful event the rank does not increase, with it it decreases
  have hwalk : ∀ n m, n ≤ m → P (run.state n) → (∃ m', n ≤ m' ∧ Q (run.state m')) ∨
      (P (run.state m) ∧ rank (run.state m) ≤ rank (run.state n)) := by
    intro n m hm hn
    induction m, hm using Nat.le_induction with
    | base => exact .inr ⟨hn, Nat.le_refl _⟩
    | succ m hm ih =>
        rcases ih with hQ | ⟨hP, hle⟩
        · exact .inl hQ
        cases hevent : run.event m with
        | none => exact .inr (by rw [run.next_none hevent]; exact ⟨hP, hle⟩)
        | some e =>
            rcases hstep m e hP hevent with hQ | ⟨hP', hle', -⟩
            · exact .inl ⟨m + 1, Nat.le_succ_of_le hm, hQ⟩
            · exact .inr ⟨hP', Nat.le_trans hle' hle⟩
  intro n hn
  induction hrank : rank (run.state n) using Nat.strong_induction_on generalizing n with
  | _ r ih =>
      obtain ⟨m, hm, e, hevent, hhelpful⟩ := hhelp n hn
      rcases hwalk n m hm hn with hQ | ⟨hP, hle⟩
      · exact hQ
      rcases hstep m e hP hevent with hQ | ⟨hP', -, hlt⟩
      · exact ⟨m + 1, Nat.le_succ_of_le hm, hQ⟩
      obtain ⟨m', hm', hQ⟩ := ih _ (hrank ▸ Nat.lt_of_lt_of_le (hlt hhelpful) hle) (m + 1) hP' rfl
      exact ⟨m', Nat.le_trans (Nat.le_succ_of_le hm) hm', hQ⟩

end Infinite

/-! ## A finite run, and then nothing -/

/-- A state the run passes through is one of its states. -/
theorem AllStates.take {P : σ → Prop} {s t : σ} {events : List ε}
    (h : AllStates step P s events) (n : ℕ) (ht : exec step s (events.take n) = some t) : P t := by
  induction n generalizing s events with
  | zero =>
      rw [List.take_zero, exec_nil, Option.some.injEq] at ht
      exact ht ▸ h.first
  | succ n ih =>
      cases events with
      | nil => exact h.last ht
      | cons e es =>
          obtain ⟨s', hs', ht'⟩ := (exec_cons_eq_some step s t e _).1 ht
          exact ih (h.2 s' hs') ht'

theorem exec_take_isSome {s t : σ} {events : List ε} (h : exec step s events = some t) (n : ℕ) :
    (exec step s (events.take n)).isSome := by
  rw [← List.take_append_drop n events, exec_append] at h
  obtain ⟨t', ht', -⟩ := Option.bind_eq_some_iff.1 h
  rw [ht']
  rfl

/-- The state after the first `n` events. -/
def stateAt (step : σ → ε → Option σ) (s : σ) (events : List ε) (n : ℕ) : σ :=
  (exec step s (events.take n)).getD s

theorem exec_take {s t : σ} {events : List ε} (h : exec step s events = some t) (n : ℕ) :
    exec step s (events.take n) = some (stateAt step s events n) := by
  obtain ⟨t', ht'⟩ := Option.isSome_iff_exists.1 (exec_take_isSome h n)
  rw [stateAt, ht', Option.getD_some]

/-- The events happen one after the other, and then nothing more does. -/
def Infinite.ofList {s t : σ} (events : List ε) (h : exec step s events = some t) :
    Infinite step where
  state := stateAt step s events
  event n := events[n]?
  next n := by
    have hsucc := exec_take h (n + 1)
    rw [List.take_add_one, exec_append, exec_take h n] at hsucc
    exact hsucc

theorem Infinite.ofList_state {s t : σ} (events : List ε) (h : exec step s events = some t) {n : ℕ}
    (hn : events.length ≤ n) : (Infinite.ofList events h).state n = t := by
  have hlast := exec_take h n
  rw [List.take_of_length_le hn, h] at hlast
  exact (Option.some.inj hlast).symm

/-- What holds in all states of the finite run holds at every moment. -/
theorem Infinite.ofList_forall {s t : σ} (events : List ε) (h : exec step s events = some t)
    {P : σ → Prop} (hP : AllStates step P s events) (n : ℕ) :
    P ((Infinite.ofList events h).state n) :=
  hP.take n (exec_take h n)

/-- What is not enabled in the last state is not enabled for ever. -/
theorem Infinite.ofList_weaklyFair {s t : σ} (events : List ε) (h : exec step s events = some t)
    {enabled : σ → Prop} (occurs : ε → Prop) (hlast : ¬enabled t) :
    (Infinite.ofList events h).WeaklyFair enabled occurs := by
  intro n hen
  have hlate := hen (max n events.length) (Nat.le_max_left _ _)
  rw [Infinite.ofList_state events h (Nat.le_max_right _ _)] at hlate
  exact absurd hlate hlast

end Run
