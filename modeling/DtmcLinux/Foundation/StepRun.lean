import Mathlib.Data.List.Basic

set_option autoImplicit false

/-! # Runs of executable step functions

A system is a partial step function `step : σ → ε → Option σ`: the event carries everything the
environment decides (which thread moves, what a system call returns), and `none` means that the
event cannot happen in that state (a thread that is blocked, a reply nobody sent). A run is a list
of events; `Run.exec` executes it.

Two predicates on runs are used throughout: `AllStates P` (every state the run passes through,
first and last included, satisfies `P`) and `AllSteps C` (every step of the run is taken from a
state, and with an event, that satisfy `C`). The rules below turn facts about one step into facts
about whole runs. -/

namespace Run

variable {σ ε : Type*} (step : σ → ε → Option σ)

/-- Execute the events in order; `none` as soon as one of them is not enabled. -/
def exec : σ → List ε → Option σ
  | s, [] => some s
  | s, e :: es => (step s e).bind fun s' => exec s' es

@[simp] theorem exec_nil (s : σ) : exec step s [] = some s := rfl

theorem exec_cons (s : σ) (e : ε) (es : List ε) :
    exec step s (e :: es) = (step s e).bind fun s' => exec step s' es := rfl

theorem exec_cons_eq_some (s t : σ) (e : ε) (es : List ε) :
    exec step s (e :: es) = some t ↔ ∃ s', step s e = some s' ∧ exec step s' es = some t := by
  rw [exec_cons, Option.bind_eq_some_iff]

/-- `P` holds in every state the run passes through. -/
def AllStates (P : σ → Prop) : σ → List ε → Prop
  | s, [] => P s
  | s, e :: es => P s ∧ ∀ s', step s e = some s' → AllStates P s' es

/-- Every step of the run is taken under `C`. -/
def AllSteps (C : σ → ε → Prop) : σ → List ε → Prop
  | _, [] => True
  | s, e :: es => C s e ∧ ∀ s', step s e = some s' → AllSteps C s' es

variable {step}

theorem AllSteps.imp {C D : σ → ε → Prop} (h : ∀ s e, C s e → D s e) :
    ∀ {s : σ} {es : List ε}, AllSteps step C s es → AllSteps step D s es
  | _, [], _ => trivial
  | _, _ :: _, hC => ⟨h _ _ hC.1, fun s' hs' => (hC.2 s' hs').imp h⟩

theorem AllStates.imp {P Q : σ → Prop} (h : ∀ s, P s → Q s) :
    ∀ {s : σ} {es : List ε}, AllStates step P s es → AllStates step Q s es
  | _, [], hP => h _ hP
  | _, _ :: _, hP => ⟨h _ hP.1, fun s' hs' => (hP.2 s' hs').imp h⟩

theorem AllStates.first {P : σ → Prop} {s : σ} {es : List ε} (h : AllStates step P s es) : P s := by
  cases es with
  | nil => exact h
  | cons e es => exact h.1

/-- The state a run ends in is one of its states. -/
theorem AllStates.last {P : σ → Prop} {es : List ε} :
    ∀ {s t : σ}, AllStates step P s es → exec step s es = some t → P t := by
  induction es with
  | nil =>
      intro s t h ht
      rw [exec_nil, Option.some.injEq] at ht
      exact ht ▸ h
  | cons e es ih =>
      intro s t h ht
      obtain ⟨s', hs', ht'⟩ := (exec_cons_eq_some step s t e es).1 ht
      exact ih (h.2 s' hs') ht'

/-- A run that ends in a state of which running tells enough. -/
theorem exists_exec_of_ends {P Q : σ → Prop} [DecidablePred Q] {s : σ} {es : List ε}
    (hends : (exec step s es).map (fun t => decide (Q t)) = some true) (himp : ∀ t, Q t → P t) :
    ∃ t, exec step s es = some t ∧ P t := by
  obtain ⟨t, ht, hQ⟩ := Option.map_eq_some_iff.1 hends
  exact ⟨t, ht, himp t (of_decide_eq_true hQ)⟩

/-- What running tells of the state a run ends in holds together with `P`. -/
theorem AllStates.ends {P Q : σ → Prop} [DecidablePred Q] {s : σ} {es : List ε}
    (h : AllStates step P s es)
    (hends : (exec step s es).map (fun t => decide (Q t)) = some true) : ∃ t, P t ∧ Q t := by
  obtain ⟨t, ht, hQ⟩ := exists_exec_of_ends hends fun _ hQ => hQ
  exact ⟨t, h.last ht, hQ⟩

/-- `AllStates` of a decidable property is decided by running. -/
instance decidableAllStates {P : σ → Prop} [DecidablePred P] :
    ∀ (s : σ) (es : List ε), Decidable (AllStates step P s es)
  | s, [] => inferInstanceAs (Decidable (P s))
  | s, e :: es =>
    match h : step s e with
    | none => decidable_of_iff (P s) (by simp [AllStates, h])
    | some s' =>
      have : Decidable (AllStates step P s' es) := decidableAllStates s' es
      decidable_of_iff (P s ∧ AllStates step P s' es) (by simp [AllStates, h])

/-- `AllSteps` of a decidable condition is decided by running. -/
instance decidableAllSteps {C : σ → ε → Prop} [∀ s e, Decidable (C s e)] :
    ∀ (s : σ) (es : List ε), Decidable (AllSteps step C s es)
  | _, [] => inferInstanceAs (Decidable True)
  | s, e :: es =>
    match h : step s e with
    | none => decidable_of_iff (C s e) (by simp [AllSteps, h])
    | some s' =>
      have : Decidable (AllSteps step C s' es) := decidableAllSteps s' es
      decidable_of_iff (C s e ∧ AllSteps step C s' es) (by simp [AllSteps, h])

/-! ## Invariants -/

/-- **Conditional invariant rule.** A property that every step taken under `C` preserves holds at
    the end of every run whose steps are all taken under `C`. -/
theorem exec_invariant_of_allSteps {P : σ → Prop} {C : σ → ε → Prop}
    (hstep : ∀ s e s', P s → C s e → step s e = some s' → P s') :
    ∀ (es : List ε) (s t : σ), P s → AllSteps step C s es → exec step s es = some t → P t := by
  intro es
  induction es with
  | nil =>
      intro s t hs _ ht
      rw [exec_nil, Option.some.injEq] at ht
      exact ht ▸ hs
  | cons e es ih =>
      intro s t hs hC ht
      obtain ⟨s', hs', ht'⟩ := (exec_cons_eq_some step s t e es).1 ht
      exact ih s' t (hstep s e s' hs hC.1 hs') (hC.2 s' hs') ht'

/-- **Invariant rule.** A property that every step preserves holds at the end of every run. -/
theorem exec_invariant {P : σ → Prop} (hstep : ∀ s e s', P s → step s e = some s' → P s')
    {es : List ε} {s t : σ} (hs : P s) (ht : exec step s es = some t) : P t := by
  induction es generalizing s with
  | nil =>
      rw [exec_nil, Option.some.injEq] at ht
      exact ht ▸ hs
  | cons e es ih =>
      obtain ⟨s', hs', ht'⟩ := (exec_cons_eq_some step s t e es).1 ht
      exact ih (hstep s e s' hs hs') ht'

/-- **Invariant rule, among runs all of whose states satisfy `Q`.** -/
theorem exec_invariant_of_allStates {P Q : σ → Prop}
    (hstep : ∀ s e s', P s → Q s → Q s' → step s e = some s' → P s') :
    ∀ (es : List ε) (s t : σ), P s → AllStates step Q s es → exec step s es = some t → P t := by
  intro es
  induction es with
  | nil =>
      intro s t hs _ ht
      rw [exec_nil, Option.some.injEq] at ht
      exact ht ▸ hs
  | cons e es ih =>
      intro s t hs hQ ht
      obtain ⟨s', hs', ht'⟩ := (exec_cons_eq_some step s t e es).1 ht
      have hQ' := hQ.2 s' hs'
      exact ih s' t (hstep s e s' hs hQ.first hQ'.first hs') hQ' ht'

/-- A property preserved by the steps taken under `C` holds in every state of such a run. -/
theorem allStates_of_allSteps {P : σ → Prop} {C : σ → ε → Prop}
    (hstep : ∀ s e s', P s → C s e → step s e = some s' → P s') :
    ∀ (es : List ε) (s : σ), P s → AllSteps step C s es → AllStates step P s es := by
  intro es
  induction es with
  | nil => intro s hs _; exact hs
  | cons e es ih =>
      intro s hs hC
      exact ⟨hs, fun s' hs' => ih s' (hstep s e s' hs hC.1 hs') (hC.2 s' hs')⟩

/-- What holds of every step taken under `H` from a state of the invariant holds of every step of such
    a run. -/
theorem allSteps_of_invariant {I : σ → Prop} {H C : σ → ε → Prop}
    (hI : ∀ s e s', I s → H s e → step s e = some s' → I s') (hC : ∀ s e, I s → H s e → C s e) :
    ∀ (es : List ε) (s : σ), I s → AllSteps step H s es → AllSteps step C s es := by
  intro es
  induction es with
  | nil => intro _ _ _; trivial
  | cons e es ih =>
      intro s hs hH
      exact ⟨hC s e hs hH.1, fun s' hs' => ih s' (hI s e s' hs hH.1 hs') (hH.2 s' hs')⟩

/-- A property that every step preserves holds in every state of every run. -/
theorem allStates_of_invariant {P : σ → Prop}
    (hstep : ∀ s e s', P s → step s e = some s' → P s') :
    ∀ (es : List ε) (s : σ), P s → AllStates step P s es := by
  intro es
  induction es with
  | nil => intro s hs; exact hs
  | cons e es ih =>
      intro s hs
      exact ⟨hs, fun s' hs' => ih s' (hstep s e s' hs hs')⟩

/-- **Exact-condition rule, among runs taken under `H`.** If, from a state satisfying the auxiliary
    invariant `I` and `P`, a step taken under `H` reaches a state satisfying `P` exactly when it is
    taken under `C`, then `P` holds all along such a run exactly when every step of the run is taken
    under `C`. -/
theorem allStates_iff_allSteps_of_allSteps {I P : σ → Prop} {C H : σ → ε → Prop}
    (hI : ∀ s e s', I s → P s → H s e → step s e = some s' → P s' → I s')
    (hiff : ∀ s e s', I s → P s → H s e → step s e = some s' → (P s' ↔ C s e))
    (hblocked : ∀ s e, I s → P s → step s e = none → C s e) :
    ∀ (es : List ε) (s : σ), I s → P s → AllSteps step H s es →
      (AllStates step P s es ↔ AllSteps step C s es) := by
  intro es
  induction es with
  | nil => intro s _ hs _; exact ⟨fun _ => trivial, fun _ => hs⟩
  | cons e es ih =>
      intro s hIs hs hH
      cases hstep : step s e with
      | none =>
          have hC := hblocked s e hIs hs hstep
          simp only [AllStates, AllSteps, hstep, reduceCtorEq, false_implies, implies_true,
            and_true]
          exact ⟨fun _ => hC, fun _ => hs⟩
      | some s' =>
          have hP := hiff s e s' hIs hs hH.1 hstep
          have hrun := hH.2 s' hstep
          simp only [AllStates, AllSteps, hstep, Option.some.injEq, forall_eq']
          constructor
          · rintro ⟨_, hrest⟩
            have hs' : P s' := hrest.first
            exact ⟨hP.1 hs', (ih s' (hI s e s' hIs hs hH.1 hstep hs') hs' hrun).1 hrest⟩
          · rintro ⟨hC, hrest⟩
            have hs' : P s' := hP.2 hC
            exact ⟨hs, (ih s' (hI s e s' hIs hs hH.1 hstep hs') hs' hrun).2 hrest⟩

/-- A condition that always holds holds of every step. -/
theorem allSteps_of_forall {H : σ → ε → Prop} (h : ∀ s e, H s e) :
    ∀ (es : List ε) (s : σ), AllSteps step H s es := by
  intro es
  induction es with
  | nil => intro _; trivial
  | cons e es ih => exact fun s => ⟨h s e, fun s' _ => ih s'⟩

/-- A condition on events holds of every step when it holds of every event. -/
theorem allSteps_of_mem {C : ε → Prop} {es : List ε} (h : ∀ e ∈ es, C e) (s : σ) :
    AllSteps step (fun _ e => C e) s es := by
  induction es generalizing s with
  | nil => trivial
  | cons e es ih =>
      exact ⟨h e List.mem_cons_self, fun s' _ => ih (fun e he => h e (List.mem_cons_of_mem _ he)) s'⟩

/-- **Exact-condition rule.** If, from a state satisfying the auxiliary invariant `I` and `P`, a
    step reaches a state satisfying `P` exactly when it is taken under `C`, then `P` holds all
    along a run exactly when every step of the run is taken under `C`. -/
theorem allStates_iff_allSteps {I P : σ → Prop} {C : σ → ε → Prop}
    (hI : ∀ s e s', I s → P s → step s e = some s' → P s' → I s')
    (hiff : ∀ s e s', I s → P s → step s e = some s' → (P s' ↔ C s e))
    (hblocked : ∀ s e, I s → P s → step s e = none → C s e) (es : List ε) (s : σ) (hIs : I s)
    (hs : P s) : AllStates step P s es ↔ AllSteps step C s es :=
  allStates_iff_allSteps_of_allSteps (H := fun _ _ => True)
    (fun s e s' hIs hs _ => hI s e s' hIs hs) (fun s e s' hIs hs _ => hiff s e s' hIs hs) hblocked
    es s hIs hs (allSteps_of_forall (fun _ _ => trivial) es s)

/-- **Exact-condition rule, for steps that are never blocked.** -/
theorem allStates_iff_allSteps_of_enabled {P : σ → Prop} {C : σ → ε → Prop}
    (hstep : ∀ s e, P s → ∃ s', step s e = some s' ∧ (P s' ↔ C s e)) (es : List ε) (s : σ)
    (hs : P s) : AllStates step P s es ↔ AllSteps step C s es := by
  refine allStates_iff_allSteps (I := fun _ => True) (fun _ _ _ _ _ _ _ => trivial) ?_ ?_
    es s trivial hs
  · intro s e s' _ hs h
    obtain ⟨t, ht, hiff⟩ := hstep s e hs
    rw [h, Option.some.injEq] at ht
    exact ht ▸ hiff
  · intro s e _ hs h
    obtain ⟨t, ht, -⟩ := hstep s e hs
    rw [h] at ht
    exact absurd ht (by simp)

end Run
