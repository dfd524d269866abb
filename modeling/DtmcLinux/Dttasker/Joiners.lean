import DtmcLinux.Dttasker.Steps
import Mathlib.Logic.Function.Basic

set_option autoImplicit false

/-! # Several joins on one started tasker

`dttasker_join` promises in a comment to join the thread exactly once. It tests `thread_joined` in
one critical section, calls `pthread_join` outside, and sets `thread_joined` in another. Here any
number of threads call it on the tasker of one start; each critical section, each poll of
`thread_exited` and each call of `pthread_join` is a step. The steps of the joined thread matter
only when it sets `thread_exited`. -/

namespace DttaskerJoin

open Dttasker

/-- Where a thread is in `dttasker_join`. -/
inductive Joiner where
  | outside
  /-- in the loop -/
  | polling (timeoutMillis : Int32) (wasTimeout : Option Bool)
  /-- has seen `thread_exited` -/
  | rechecking (wasTimeout : Option Bool)
  /-- about to call `pthread_join` -/
  | reaping (thread : Option ℕ) (wasTimeout : Option Bool)
  /-- about to record that the thread has been joined -/
  | marking (wasTimeout : Option Bool)
  deriving DecidableEq

/-- The tasker and the threads that join it. The last three fields record the run, newest first:
    the joins that have left their second critical section to call `pthread_join`, the handles it
    has been called with, what the joins have returned. -/
structure State (τ : Type*) where
  self : Tasker
  joiners : τ → Joiner
  passed : List τ
  joinCalls : List (Option ℕ)
  returned : List (Option Dterr × Option Bool)

/-- The tasker that `dttasker_start` leaves when it has created thread `n`. -/
def started (self : Tasker) (n : ℕ) : Tasker :=
  { self with
    readyPosted := false
    stopRequested := false
    threadExited := false
    threadJoined := false
    thread := some n
    threadCreated := true }

/-- What `dttasker_start` stores before and after `pthread_create`. -/
theorem started_of_startPrepare {self self' : Tasker} {attrInit attrSetstacksize : Option Dterr}
    (h : self.startPrepare attrInit attrSetstacksize = .ok self') (n : ℕ) :
    { self' with thread := some n, threadCreated := true } = started self n := by
  rw [(startPrepare_ok h).2]
  rfl

/-- Thread `n` has been started, and no join has been called. -/
def State.initial {τ : Type*} (self : Tasker) (n : ℕ) : State τ where
  self := started self n
  joiners := fun _ => .outside
  passed := []
  joinCalls := []
  returned := []

/-- The events. -/
inductive Event (τ : Type*) where
  /-- thread `j` calls `dttasker_join` -/
  | join (j : τ) (timeoutMillis : Int32) (wasTimeout : Option Bool)
  /-- one turn of its loop; `expired` is the comparison of the elapsed time with the timeout -/
  | poll (j : τ) (expired : Bool)
  /-- its critical section after the loop -/
  | recheck (j : τ)
  /-- its `pthread_join` returns -/
  | pthreadJoin (j : τ) (dterr : Option Dterr)
  /-- its last critical section -/
  | mark (j : τ)
  /-- the joined thread sets `thread_exited` -/
  | exit

variable {τ : Type*} [DecidableEq τ]

namespace State

/-- Thread `j` is at `pc` from now on. -/
def moves (s : State τ) (j : τ) (pc : Joiner) : State τ :=
  { s with joiners := Function.update s.joiners j pc }

/-- `dttasker_join` returns. -/
def joinReturns (s : State τ) (j : τ) (dterr : Option Dterr) (wasTimeout : Option Bool) :
    State τ :=
  { s.moves j .outside with returned := (dterr, wasTimeout) :: s.returned }

end State

/-- One step. The second call of `pthread_join` for one thread is undefined, so the result of a call
    is not restricted. -/
def step (DTTIMEOUT_FOREVER : Int32) (s : State τ) : Event τ → Option (State τ)
  | .join j timeoutMillis wasTimeout =>
    match s.joiners j with
    | .outside =>
      let wasTimeout := wasTimeout.map fun _ => false
      -- Nothing was ever started, or it was already joined.
      if !s.self.threadCreated || s.self.threadJoined then some (s.joinReturns j none wasTimeout)
      else some (s.moves j (.polling timeoutMillis wasTimeout))
    | _ => none
  | .poll j expired =>
    match s.joiners j with
    | .polling timeoutMillis wasTimeout =>
      if s.self.threadExited then some (s.moves j (.rechecking wasTimeout))
      else if timeoutMillis ≠ DTTIMEOUT_FOREVER ∧ expired = true then
        let result := s.self.joinTimedOut timeoutMillis wasTimeout
        some (s.joinReturns j result.1 result.2)
      else some s
    | _ => none
  | .recheck j =>
    match s.joiners j with
    | .rechecking wasTimeout =>
      if s.self.threadJoined then some (s.joinReturns j none wasTimeout)
      else if !s.self.threadCreated then some (s.joinReturns j none wasTimeout)
      else some { s.moves j (.reaping s.self.thread wasTimeout) with passed := j :: s.passed }
    | _ => none
  | .pthreadJoin j dterr =>
    match s.joiners j with
    | .reaping thread wasTimeout =>
      let called := { s with joinCalls := thread :: s.joinCalls }
      match dterr with
      | some dterr => some (called.joinReturns j (some dterr) wasTimeout)
      | none => some (called.moves j (.marking wasTimeout))
    | _ => none
  | .mark j =>
    match s.joiners j with
    | .marking wasTimeout =>
      let self := { s.self with threadJoined := true, threadCreated := false }
      some ({ s with self := self }.joinReturns j none wasTimeout)
    | _ => none
  | .exit => some { s with self := { s.self with threadExited := true } }

/-! ## What a step does -/

/-- The outcomes of a step; `r` is what the joins have returned afterwards. -/
inductive Effect (s : State τ) : Event τ → State τ → Prop where
  /-- a join leaves its second critical section to call `pthread_join` -/
  | passed (j : τ) (wasTimeout : Option Bool) (hj : s.joiners j = .rechecking wasTimeout)
      (hjoined : s.self.threadJoined = false) (hcreated : s.self.threadCreated = true) :
      Effect s (.recheck j)
        { s.moves j (.reaping s.self.thread wasTimeout) with passed := j :: s.passed }
  /-- a join calls `pthread_join`, and is about to record the success or returns the error -/
  | called (j : τ) (thread : Option ℕ) (wasTimeout : Option Bool) (dterr : Option Dterr)
      (pc : Joiner) (r : List (Option Dterr × Option Bool))
      (hj : s.joiners j = .reaping thread wasTimeout)
      (hpc : pc = .marking wasTimeout ∨ pc = .outside) :
      Effect s (.pthreadJoin j dterr)
        { s.moves j pc with joinCalls := thread :: s.joinCalls, returned := r }
  /-- a join records that the thread has been joined -/
  | marked (j : τ) (wasTimeout : Option Bool) (r : List (Option Dterr × Option Bool))
      (hj : s.joiners j = .marking wasTimeout) :
      Effect s (.mark j)
        { s.moves j .outside with
          self := { s.self with threadJoined := true, threadCreated := false }
          returned := r }
  /-- a join moves on before its second critical section, or returns without calling
      `pthread_join` -/
  | moved (e : Event τ) (j : τ) (pc : Joiner) (r : List (Option Dterr × Option Bool))
      (hold : ∀ thread wasTimeout, s.joiners j ≠ .reaping thread wasTimeout)
      (hnew : ∀ thread wasTimeout, pc ≠ .reaping thread wasTimeout) :
      Effect s e { s.moves j pc with returned := r }
  | stayed (e : Event τ) : Effect s e s
  | exited : Effect s .exit { s with self := { s.self with threadExited := true } }

theorem step_effect {DTTIMEOUT_FOREVER : Int32} {s s' : State τ} {e : Event τ}
    (h : step DTTIMEOUT_FOREVER s e = some s') : Effect s e s' := by
  unfold step at h
  cases e with
  | join j timeoutMillis wasTimeout =>
      dsimp only at h
      split at h
      · next hj =>
          split at h <;> obtain rfl := Option.some.inj h
          · exact .moved _ j .outside _ (by simp [hj]) (by simp)
          · exact .moved _ j (.polling _ _) s.returned (by simp [hj]) (by simp)
      · exact absurd h (by simp)
  | poll j expired =>
      dsimp only at h
      split at h
      · next timeoutMillis wasTimeout hj =>
          split at h
          · obtain rfl := Option.some.inj h
            exact .moved _ j (.rechecking _) s.returned (by simp [hj]) (by simp)
          · split at h <;> obtain rfl := Option.some.inj h
            · exact .moved _ j .outside _ (by simp [hj]) (by simp)
            · exact .stayed _
      · exact absurd h (by simp)
  | recheck j =>
      dsimp only at h
      split at h
      · next wasTimeout hj =>
          split at h
          · obtain rfl := Option.some.inj h
            exact .moved _ j .outside _ (by simp [hj]) (by simp)
          · next hjoined =>
              split at h <;> obtain rfl := Option.some.inj h
              · exact .moved _ j .outside _ (by simp [hj]) (by simp)
              · next hcreated =>
                  exact .passed j wasTimeout hj (by simpa using hjoined) (by simpa using hcreated)
      · exact absurd h (by simp)
  | pthreadJoin j dterr =>
      dsimp only at h
      split at h
      · next thread wasTimeout hj =>
          split at h <;> obtain rfl := Option.some.inj h
          · exact .called j thread wasTimeout _ .outside _ hj (.inr rfl)
          · exact .called j thread wasTimeout _ (.marking _) s.returned hj (.inl rfl)
      · exact absurd h (by simp)
  | mark j =>
      dsimp only at h
      split at h
      · next wasTimeout hj =>
          obtain rfl := Option.some.inj h
          exact .marked j wasTimeout _ hj
      · exact absurd h (by simp)
  | exit =>
      obtain rfl := Option.some.inj h
      exact .exited

@[simp] theorem State.moves_self (s : State τ) (j : τ) (pc : Joiner) :
    (s.moves j pc).joiners j = pc := by
  simp [moves]

theorem State.moves_of_ne (s : State τ) {i j : τ} (pc : Joiner) (h : i ≠ j) :
    (s.moves j pc).joiners i = s.joiners i := by
  simp [moves, h]

/-- A join that did not reap before a move to another place does not reap after it. -/
theorem State.reaping_of_moves {s : State τ} {i j : τ} {pc : Joiner} {thread : Option ℕ}
    {wasTimeout : Option Bool} (hnew : ∀ thread wasTimeout, pc ≠ .reaping thread wasTimeout)
    (h : (s.moves j pc).joiners i = .reaping thread wasTimeout) :
    i ≠ j ∧ s.joiners i = .reaping thread wasTimeout := by
  by_cases hij : i = j
  · rw [hij, State.moves_self] at h
    exact absurd h (hnew _ _)
  · rw [State.moves_of_ne s pc hij] at h
    exact ⟨hij, h⟩

/-- A join that has called `pthread_join` does not call it again. -/
theorem Joiner.ne_reaping {pc : Joiner} {wasTimeout : Option Bool}
    (hpc : pc = .marking wasTimeout ∨ pc = .outside) (thread : Option ℕ)
    (wt : Option Bool) : pc ≠ .reaping thread wt := by
  rcases hpc with rfl | rfl <;> simp

/-! ## The property and the condition -/

/-- `pthread_join` has been called at most once for thread `n`. -/
def JoinedOnce (n : ℕ) (s : State τ) : Prop := s.joinCalls.count (some n) ≤ 1

instance JoinedOnce.decidable (n : ℕ) (s : State τ) : Decidable (JoinedOnce n s) :=
  inferInstanceAs (Decidable (_ ≤ _))

/-- A join makes its second critical section only when no join has left its own to call
    `pthread_join`, or when the thread has been recorded as joined. -/
def Alone (s : State τ) : Event τ → Prop
  | .recheck _ => s.self.threadJoined = true ∨ s.passed = []
  | _ => True

instance Alone.decidable (s : State τ) (e : Event τ) : Decidable (Alone s e) :=
  match e with
  | .recheck _ => inferInstanceAs (Decidable (_ = true ∨ s.passed = []))
  | .join _ _ _ | .poll _ _ | .pthreadJoin _ _ | .mark _ | .exit => instDecidableTrue

/-! ## What holds in every run -/

/-- The joins that have left their second critical section hold the handle of thread `n`, and each
    has called `pthread_join` or is about to. -/
structure Handed (n : ℕ) (s : State τ) : Prop where
  thread : s.self.thread = some n
  created : s.self.threadJoined = false → s.self.threadCreated = true
  calls : ∀ thread ∈ s.joinCalls, thread = some n
  reaping : ∀ j thread wasTimeout, s.joiners j = .reaping thread wasTimeout → thread = some n
  passed : s.joinCalls = [] → ∀ j ∈ s.passed, ∃ wasTimeout,
    s.joiners j = .reaping (some n) wasTimeout

omit [DecidableEq τ] in
theorem handed_initial (self : Tasker) (n : ℕ) : Handed n (State.initial (τ := τ) self n) where
  thread := rfl
  created _ := rfl
  calls _ h := absurd h (by simp [State.initial])
  reaping _ _ _ h := absurd h (by simp [State.initial])
  passed _ _ h := absurd h (by simp [State.initial])

/-- A join that was not about to call `pthread_join` moves on; those that were still are. -/
theorem Handed.passed_moves {n : ℕ} {s : State τ} (hs : Handed n s) {j : τ}
    (hold : ∀ thread wasTimeout, s.joiners j ≠ .reaping thread wasTimeout)
    (hcalls : s.joinCalls = []) (pc : Joiner) :
    ∀ i ∈ s.passed, ∃ wasTimeout, (s.moves j pc).joiners i = .reaping (some n) wasTimeout := by
  intro i hi
  obtain ⟨wasTimeout, hwt⟩ := hs.passed hcalls i hi
  have hij : i ≠ j := by
    rintro rfl
    exact hold _ _ hwt
  exact ⟨wasTimeout, (s.moves_of_ne _ hij).trans hwt⟩

theorem Handed.effect {n : ℕ} {s s' : State τ} {e : Event τ} (hs : Handed n s)
    (heff : Effect s e s') : Handed n s' := by
  cases heff with
  | passed j wasTimeout hj hjoined hcreated =>
      refine ⟨hs.thread, hs.created, hs.calls, ?_, ?_⟩
      · intro i thread wt hi
        by_cases hij : i = j
        · rw [hij] at hi
          obtain ⟨hthread, -⟩ : s.self.thread = thread ∧ wasTimeout = wt := by simpa using hi
          rw [← hthread, hs.thread]
        · exact hs.reaping i thread wt ((s.moves_of_ne _ hij).symm.trans hi)
      · intro hcalls i hi
        by_cases hij : i = j
        · exact ⟨wasTimeout, by simp [hij, hs.thread]⟩
        · have hold : i ∈ s.passed := by simpa [hij] using hi
          obtain ⟨wt, hwt⟩ := hs.passed hcalls i hold
          exact ⟨wt, (s.moves_of_ne _ hij).trans hwt⟩
  | called j thread wasTimeout dterr pc r hj hpc =>
      refine ⟨hs.thread, hs.created, ?_, ?_, fun h => absurd h (by simp)⟩
      · intro th hth
        obtain rfl | hth := List.mem_cons.1 hth
        · exact hs.reaping j th wasTimeout hj
        · exact hs.calls th hth
      · intro i th wt hi
        exact hs.reaping i th wt (State.reaping_of_moves (Joiner.ne_reaping hpc) hi).2
  | marked j wasTimeout r hj =>
      refine ⟨hs.thread, fun h => absurd h (by simp), hs.calls, ?_, ?_⟩
      · intro i th wt hi
        exact hs.reaping i th wt (State.reaping_of_moves (by simp) hi).2
      · exact fun hcalls => hs.passed_moves (by simp [hj]) hcalls _
  | moved e j pc r hold hnew =>
      refine ⟨hs.thread, hs.created, hs.calls, ?_, ?_⟩
      · intro i th wt hi
        exact hs.reaping i th wt (State.reaping_of_moves hnew hi).2
      · exact fun hcalls => hs.passed_moves hold hcalls _
  | stayed => exact hs
  | exited => exact ⟨hs.thread, hs.created, hs.calls, hs.reaping, hs.passed⟩

/-! ## What the condition keeps -/

/-- At most one join has left its second critical section to call `pthread_join`, and it has called
    it at most once. -/
structure Sole (s : State τ) : Prop where
  passed : s.passed.length ≤ 1
  calls : s.joinCalls.length ≤ s.passed.length
  reaping : ∀ j thread wasTimeout, s.joiners j = .reaping thread wasTimeout →
    s.passed = [j] ∧ s.joinCalls = []

omit [DecidableEq τ] in
theorem sole_initial (self : Tasker) (n : ℕ) : Sole (State.initial (τ := τ) self n) where
  passed := Nat.zero_le 1
  calls := Nat.le_refl 0
  reaping _ _ _ h := absurd h (by simp [State.initial])

theorem Sole.effect {s s' : State τ} {e : Event τ} (hs : Sole s) (hC : Alone s e)
    (heff : Effect s e s') : Sole s' := by
  cases heff with
  | passed j wasTimeout hj hjoined hcreated =>
      have hnone : s.passed = [] := hC.resolve_left (by simp [hjoined])
      have hcalls : s.joinCalls = [] := by
        simpa [hnone] using hs.calls
      refine ⟨by simp [hnone], by simp [State.moves, hcalls], ?_⟩
      intro i thread wt hi
      by_cases hij : i = j
      · exact ⟨by rw [hij, hnone], hcalls⟩
      · have hold := (hs.reaping i thread wt ((s.moves_of_ne _ hij).symm.trans hi)).1
        exact absurd hold (by simp [hnone])
  | called j thread wasTimeout dterr pc r hj hpc =>
      obtain ⟨hpassed, hcalls⟩ := hs.reaping j thread wasTimeout hj
      refine ⟨hs.passed, by simp [State.moves, hpassed, hcalls], ?_⟩
      intro i th wt hi
      obtain ⟨hij, hi⟩ := State.reaping_of_moves (Joiner.ne_reaping hpc) hi
      have hsame := (hs.reaping i th wt hi).1
      rw [hpassed] at hsame
      exact absurd (by simpa using hsame.symm) hij
  | marked j wasTimeout r hj =>
      refine ⟨hs.passed, hs.calls, ?_⟩
      intro i th wt hi
      exact hs.reaping i th wt (State.reaping_of_moves (by simp) hi).2
  | moved e j pc r hold hnew =>
      refine ⟨hs.passed, hs.calls, ?_⟩
      intro i th wt hi
      exact hs.reaping i th wt (State.reaping_of_moves hnew hi).2
  | stayed => exact hs
  | exited => exact ⟨hs.passed, hs.calls, hs.reaping⟩

omit [DecidableEq τ] in
theorem Sole.joinedOnce {s : State τ} (hs : Sole s) (n : ℕ) : JoinedOnce n s :=
  calc s.joinCalls.count (some n) ≤ s.joinCalls.length := List.count_le_length
    _ ≤ s.passed.length := hs.calls
    _ ≤ 1 := hs.passed

/-! ## What happens without it -/

/-- A join that is about to call `pthread_join` can call it, whatever the others do. -/
theorem pthreadJoin_enabled (DTTIMEOUT_FOREVER : Int32) {s : State τ} {j : τ} {thread : Option ℕ}
    {wasTimeout : Option Bool} (hj : s.joiners j = .reaping thread wasTimeout) :
    ∃ s', step DTTIMEOUT_FOREVER s (.pthreadJoin j none) = some s' ∧
      s'.joinCalls = thread :: s.joinCalls ∧ ∀ i, i ≠ j → s'.joiners i = s.joiners i := by
  refine ⟨{ s with joinCalls := thread :: s.joinCalls }.moves j (.marking wasTimeout), ?_, rfl,
    fun i hi => State.moves_of_ne _ _ hi⟩
  simp [step, hj]

/-- After a join has made its second critical section in spite of another, both can call
    `pthread_join`. -/
theorem Handed.joined_twice {DTTIMEOUT_FOREVER : Int32} {n : ℕ} {s s' : State τ} {e : Event τ}
    (hs : Handed n s) (hC : ¬Alone s e) (h : step DTTIMEOUT_FOREVER s e = some s') :
    ∃ es t, Run.exec (step DTTIMEOUT_FOREVER) s' es = some t ∧ ¬JoinedOnce n t := by
  cases e with
  | recheck j =>
      obtain ⟨hjoined, hpassed⟩ : s.self.threadJoined = false ∧ s.passed ≠ [] := by
        simpa [Alone] using hC
      cases hj : s.joiners j with
      | rechecking wasTimeout =>
          have hs' : s' = { s.moves j (.reaping (some n) wasTimeout) with
              passed := j :: s.passed } := by
            simpa [step, hj, hjoined, hs.created hjoined, hs.thread] using h.symm
          have hreaping : s'.joiners j = .reaping (some n) wasTimeout := by
            rw [hs']
            exact s.moves_self j _
          cases hcalls : s.joinCalls with
          | nil =>
              -- the earlier join has yet to call: it calls first
              obtain ⟨i, hi⟩ := List.exists_mem_of_ne_nil _ hpassed
              obtain ⟨wt, hwt⟩ := hs.passed hcalls i hi
              have hij : i ≠ j := by
                rintro rfl
                simp [hj] at hwt
              have hi' : s'.joiners i = .reaping (some n) wt := by
                rw [hs']
                exact (s.moves_of_ne _ hij).trans hwt
              obtain ⟨s₁, hs₁, hcalls₁, hkept⟩ :=
                pthreadJoin_enabled DTTIMEOUT_FOREVER hi'
              obtain ⟨s₂, hs₂, hcalls₂, -⟩ :=
                pthreadJoin_enabled DTTIMEOUT_FOREVER ((hkept j hij.symm).trans hreaping)
              refine ⟨[.pthreadJoin i none, .pthreadJoin j none], s₂, ?_, ?_⟩
              · rw [Run.exec_cons, hs₁, Option.bind_some, Run.exec_cons, hs₂]
                rfl
              · simp [JoinedOnce, hcalls₂, hcalls₁]
          | cons thread calls =>
              have hthread : thread = some n := hs.calls thread (by simp [hcalls])
              have hkept : s'.joinCalls = some n :: calls := by
                rw [hs', ← hthread, ← hcalls]
                rfl
              obtain ⟨s₁, hs₁, hcalls₁, -⟩ :=
                pthreadJoin_enabled DTTIMEOUT_FOREVER hreaping
              refine ⟨[.pthreadJoin j none], s₁, ?_, ?_⟩
              · rw [Run.exec_cons, hs₁]
                rfl
              · simp [JoinedOnce, hcalls₁, hkept]
      | outside | polling _ _ | reaping _ _ | marking _ => simp [step, hj] at h
  | join _ _ _ | poll _ _ | pthreadJoin _ _ | mark _ | exit => exact absurd trivial hC

/-! ## The results -/

/-- While no join makes its second critical section between that of another join, which has found
    the thread unjoined, and the record that it is joined, `pthread_join` is called at most once for
    the thread. A join that does so has a continuation in which it is called twice. -/
theorem joined_once_exact (DTTIMEOUT_FOREVER : Int32) (self : Tasker) (n : ℕ)
    (events : List (Event τ)) :
    (Run.AllSteps (step DTTIMEOUT_FOREVER) Alone (.initial self n) events →
      Run.AllStates (step DTTIMEOUT_FOREVER) (JoinedOnce n) (.initial self n) events) ∧
    ∀ s e s', Run.exec (step DTTIMEOUT_FOREVER) (.initial self n) events = some s →
      step DTTIMEOUT_FOREVER s e = some s' → ¬Alone s e →
      ∃ es t, Run.exec (step DTTIMEOUT_FOREVER) s' es = some t ∧ ¬JoinedOnce n t := by
  constructor
  · intro hrun
    have hsole := Run.allStates_of_allSteps (P := Sole)
      (fun s e s' hs hC h => hs.effect hC (step_effect h)) events _ (sole_initial self n) hrun
    exact hsole.imp fun s hs => hs.joinedOnce n
  · intro s e s' hs h hC
    have hhanded : Handed n s :=
      Run.exec_invariant (fun s e s' hs h => hs.effect (step_effect h)) (handed_initial self n) hs
    exact hhanded.joined_twice hC h

/-- Two threads join one after the other; the second finds the thread joined. -/
def turnsRun : List (Event Bool) :=
  [.join false 100 none, .join true 0 (some true), .poll false false, .poll true true, .exit,
    .join true 100 none, .poll false false, .recheck false, .pthreadJoin false none,
    .poll true false, .mark false, .recheck true]

/-- The tasker before its first start. -/
def newTasker : Tasker :=
  created 16384 { name := "rx", stackSize := 0, priority := .normalMedium, infoCallback := false }

theorem joined_once_exact_turnsRun :
    Run.AllStates (step (-1)) (JoinedOnce 0) (.initial newTasker 0) turnsRun ∧
    ∀ s e s', Run.exec (step (-1)) (.initial newTasker 0) turnsRun = some s →
      step (-1) s e = some s' → ¬Alone s e →
      ∃ es t, Run.exec (step (-1)) s' es = some t ∧ ¬JoinedOnce 0 t :=
  have h := joined_once_exact (-1) newTasker 0 turnsRun
  ⟨h.1 (by decide +kernel), h.2⟩

/-- Two joins that make their second critical sections one after the other both call
    `pthread_join`. -/
theorem both_call_pthread_join :
    ¬∀ events : List (Event Bool),
      Run.AllStates (step (-1)) (JoinedOnce 0) (.initial newTasker 0) events := by
  intro h
  exact absurd (h [.join false 100 none, .join true 100 none, .exit, .poll false false,
    .poll true false, .recheck false, .recheck true, .pthreadJoin false none,
    .pthreadJoin true none]) (by decide +kernel)

end DttaskerJoin
