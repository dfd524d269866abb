import DtmcLinux.Foundation.StepRun

set_option autoImplicit false

/-! # Observers

A property of a run may need more of the past than the state keeps. An observer is a value that is
updated at every step from the states before and after it; it never decides what can happen, so the
runs of the observed machine are those of the machine itself. -/

namespace Observer

variable {σ ε γ : Type*} (step : σ → ε → Option σ) (update : σ → ε → σ → γ → γ)

/-- The machine with the observer beside it. -/
def observed (s : σ × γ) (e : ε) : Option (σ × γ) :=
  (step s.1 e).map fun s' => (s', update s.1 e s' s.2)

theorem observed_eq_some {a a' : σ} {g g' : γ} {e : ε} :
    observed step update (a, g) e = some (a', g') ↔
      step a e = some a' ∧ g' = update a e a' g := by
  unfold observed
  rw [Option.map_eq_some_iff]
  constructor
  · rintro ⟨s', hs', heq⟩
    obtain ⟨rfl, rfl⟩ := Prod.mk.inj heq
    exact ⟨hs', rfl⟩
  · rintro ⟨hs', rfl⟩
    exact ⟨a', hs', rfl⟩

theorem observed_eq_none {s : σ × γ} {e : ε} :
    observed step update s e = none ↔ step s.1 e = none := Option.map_eq_none_iff

/-- The observer does not decide what can happen. -/
theorem exec_observed (s : σ × γ) (es : List ε) :
    (Run.exec (observed step update) s es).map (·.1) = Run.exec step s.1 es := by
  induction es generalizing s with
  | nil => rfl
  | cons e es ih =>
      rw [Run.exec_cons, Run.exec_cons]
      cases hstep : step s.1 e with
      | none => rw [(observed_eq_none step update).2 hstep]; rfl
      | some s' =>
          have hobs := (observed_eq_some step update (a := s.1) (g := s.2)).2 ⟨hstep, rfl⟩
          rw [hobs]
          exact ih _

end Observer
