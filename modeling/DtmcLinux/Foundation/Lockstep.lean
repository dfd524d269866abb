import DtmcLinux.Foundation.StepRun

set_option autoImplicit false

/-! # Two machines in lockstep

Two step functions that take the same events, as for two implementations of one interface driven by
one environment. `Lockstep.step` is the machine that runs both; a relation that every event keeps,
or that blocks both sides, relates their runs. -/

namespace Lockstep

variable {σ₁ σ₂ ε : Type*} (step₁ : σ₁ → ε → Option σ₁) (step₂ : σ₂ → ε → Option σ₂)

/-- Both machines take the event. -/
def step (s : σ₁ × σ₂) (e : ε) : Option (σ₁ × σ₂) :=
  (step₁ s.1 e).bind fun a => (step₂ s.2 e).map fun b => (a, b)

theorem step_eq_some {s t : σ₁ × σ₂} {e : ε} :
    step step₁ step₂ s e = some t ↔ step₁ s.1 e = some t.1 ∧ step₂ s.2 e = some t.2 := by
  rcases t with ⟨a, b⟩
  unfold step
  rw [Option.bind_eq_some_iff]
  constructor
  · rintro ⟨a', ha, hb⟩
    obtain ⟨b', hb', heq⟩ := Option.map_eq_some_iff.1 hb
    obtain ⟨rfl, rfl⟩ := Prod.mk.inj heq
    exact ⟨ha, hb'⟩
  · rintro ⟨ha, hb⟩
    exact ⟨a, ha, by rw [hb]; rfl⟩

/-- A run of both is a run of each. -/
theorem exec_eq_some {s t : σ₁ × σ₂} {es : List ε} :
    Run.exec (step step₁ step₂) s es = some t
      ↔ Run.exec step₁ s.1 es = some t.1 ∧ Run.exec step₂ s.2 es = some t.2 := by
  induction es generalizing s with
  | nil =>
      rcases s with ⟨a, b⟩
      rcases t with ⟨a', b'⟩
      simp only [Run.exec_nil, Option.some.injEq, Prod.mk.injEq]
  | cons e es ih =>
      rw [Run.exec_cons_eq_some, Run.exec_cons_eq_some, Run.exec_cons_eq_some]
      constructor
      · rintro ⟨s', hs', ht⟩
        obtain ⟨h₁, h₂⟩ := (step_eq_some step₁ step₂).1 hs'
        obtain ⟨ht₁, ht₂⟩ := ih.1 ht
        exact ⟨⟨s'.1, h₁, ht₁⟩, s'.2, h₂, ht₂⟩
      · rintro ⟨⟨a, ha, ht₁⟩, b, hb, ht₂⟩
        exact ⟨(a, b), (step_eq_some step₁ step₂).2 ⟨ha, hb⟩, ih.2 ⟨ht₁, ht₂⟩⟩

variable {step₁ step₂}

/-- The two machines stand or move together, and `R` relates where they get to. -/
inductive Moves (R : σ₁ → σ₂ → Prop) : Option σ₁ → Option σ₂ → Prop where
  | blocked : Moves R none none
  | moved {a : σ₁} {b : σ₂} (h : R a b) : Moves R (some a) (some b)

theorem Moves.map {α β : Type*} {f : α → σ₁} {g : β → σ₂}
    {S : σ₁ → σ₂ → Prop} {x : Option α} {y : Option β} (h : Moves (fun a b => S (f a) (g b)) x y) :
    Moves S (x.map f) (y.map g) := by
  cases h with
  | blocked => exact .blocked
  | moved hab => exact .moved hab

theorem Moves.imp {R S : σ₁ → σ₂ → Prop} (hRS : ∀ a b, R a b → S a b) {x : Option σ₁}
    {y : Option σ₂} (h : Moves R x y) : Moves S x y := by
  cases h with
  | blocked => exact .blocked
  | moved hab => exact .moved (hRS _ _ hab)

theorem Moves.isSome_eq {R : σ₁ → σ₂ → Prop} {x : Option σ₁} {y : Option σ₂} (h : Moves R x y) :
    x.isSome = y.isSome := by
  cases h with
  | blocked => rfl
  | moved hab => rfl

/-- When both are blocked, each is. -/
theorem eq_none_of_step_eq_none {R : σ₁ → σ₂ → Prop} {s : σ₁ × σ₂} {e : ε}
    (h : Moves R (step₁ s.1 e) (step₂ s.2 e)) (hnone : step step₁ step₂ s e = none) :
    step₁ s.1 e = none := by
  unfold step at hnone
  generalize step₁ s.1 e = x at h hnone ⊢
  generalize step₂ s.2 e = y at h hnone
  cases h with
  | blocked => rfl
  | moved hab => exact absurd hnone (by simp)

/-- **Lockstep rule.** A relation kept by every event relates the ends of all runs, and the runs of
    one machine are the runs of the other. -/
theorem exec_moves {R : σ₁ → σ₂ → Prop} (h : ∀ a b e, R a b → Moves R (step₁ a e) (step₂ b e))
    (es : List ε) {a : σ₁} {b : σ₂} (hab : R a b) :
    Moves R (Run.exec step₁ a es) (Run.exec step₂ b es) := by
  induction es generalizing a b with
  | nil => exact .moved hab
  | cons e es ih =>
      rw [Run.exec_cons, Run.exec_cons]
      have hmoves := h a b e hab
      generalize step₁ a e = a' at hmoves ⊢
      generalize step₂ b e = b' at hmoves ⊢
      cases hmoves with
      | blocked => exact .blocked
      | moved h' => exact ih h'

end Lockstep
