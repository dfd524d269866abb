import DtmcLinux.Dttasker.ReadyHandshake

set_option autoImplicit false

/-! # When a start is released

The inception function posts the ready semaphore for an entry function that ends with an error, and
`dttasker_ready` posts it for one that gets going. An entry function that returns `NULL` without
having called `dttasker_ready` gets no post: its thread exits, and the start that created it waits
for a thread that no longer exists. -/

namespace Dttasker

open Posix Since

/-- The creation of thread `n`. -/
def Happening.isCreation (n : ℕ) : Happening → Bool
  | .created m => m == n
  | _ => false

/-- The ready semaphore has been posted since thread `n` was created. -/
def postedSinceCreation (n : ℕ) (log : List Happening) : Bool :=
  since (·.isCreation n) (·.isPosted) log

/-- Every thread that has set `thread_exited` has released the start that created it. -/
def Released (s : State) : Prop :=
  ∀ n, s.threads n = .exited → postedSinceCreation n s.log = true

/-- A thread that sets `thread_exited` has called `dttasker_ready`, with success of its
    `dttasker_set_info`, or has ended with an error. -/
def ExitsWithReason (s : State) : Event → Prop
  | .exit n => s.threads n = .exiting → hasReason n s.log = true
  | _ => True

instance ExitsWithReason.decidable (s : State) (e : Event) : Decidable (ExitsWithReason s e) :=
  match e with
  | .exit n => inferInstanceAs (Decidable (s.threads n = .exiting → hasReason n s.log = true))
  | .start _ _ | .pthreadCreate _ _ | .semWait _ _ | .semWake _ | .stop | .join _ _ | .poll _
  | .recheck | .pthreadJoin _ | .mark | .ready _ _ | .entryReturns _ _ _ | .once _ | .post _ _ =>
    instDecidableTrue

/-! ## The invariant -/

/-- The thread that is alive has posted or is about to, exactly when the flag is set; and it has a
    reason to post exactly when the flag is set or it is on its way. -/
structure Reasons (s : State) : Prop where
  posts : ∀ n, (s.threads n).Alive →
    (s.self.readyPosted = true ↔ postedSinceCreation n s.log = true ∨ (s.threads n).IsPosting)
  reasons : ∀ n, (s.threads n).Alive →
    (hasReason n s.log = true ↔ s.self.readyPosted = true ∨ (s.threads n).OnTheWay)
  fresh : ∀ n, s.created ≤ n → hasReason n s.log = false

theorem reasons_initial (self : Tasker) : Reasons (State.initial self) where
  posts _ h := absurd rfl h.1
  reasons _ h := absurd rfl h.1
  fresh _ _ := rfl

/-- Entries that are no post, no reason and no creation. -/
def Happening.isSilent : Happening → Bool
  | .reset => true
  | .startReturned _ _ _ _ => true
  | .joinReturned _ _ => true
  | _ => false

/-- The log says the same of every thread. -/
structure Silent (log log' : List Happening) : Prop where
  posts : ∀ n, postedSinceCreation n log' = postedSinceCreation n log
  reasons : ∀ n, hasReason n log' = hasReason n log

theorem Silent.refl (log : List Happening) : Silent log log := ⟨fun _ => rfl, fun _ => rfl⟩

theorem Silent.cons {h : Happening} (hs : h.isSilent = true) (log : List Happening) :
    Silent log (h :: log) := by
  cases h with
  | reset => exact ⟨fun _ => since_other rfl rfl, fun _ => rfl⟩
  | startReturned _ _ _ _ => exact ⟨fun _ => since_other rfl rfl, fun _ => rfl⟩
  | joinReturned _ _ => exact ⟨fun _ => since_other rfl rfl, fun _ => rfl⟩
  | created _ => exact absurd hs (by simp [Happening.isSilent])
  | readied _ => exact absurd hs (by simp [Happening.isSilent])
  | finished _ _ => exact absurd hs (by simp [Happening.isSilent])
  | posted _ => exact absurd hs (by simp [Happening.isSilent])

/-- A step that leaves the flag and the threads that stay alive alone. -/
theorem Reasons.frame {s s' : State} (h : Reasons s) (hlog : Silent s.log s'.log)
    (hthreads : ∀ n, (s'.threads n).Alive → s'.threads n = s.threads n)
    (hflag : s'.self.readyPosted = s.self.readyPosted := by rfl)
    (hnum : s'.created = s.created := by rfl) : Reasons s' where
  posts n hn := by
    have heq := hthreads n hn
    rw [heq] at hn
    rw [hflag, hlog.posts, heq]
    exact h.posts n hn
  reasons n hn := by
    have heq := hthreads n hn
    rw [heq] at hn
    rw [hflag, hlog.reasons, heq]
    exact h.reasons n hn
  fresh n hn := by
    rw [hlog.reasons]
    exact h.fresh n (hnum ▸ hn)

/-- A step of the thread that is alive: nothing else has to be shown than what is asked of it. -/
theorem Reasons.moveThread {s s' : State} (h : Reasons s) (hlife : Life s) (n : ℕ) (th : Thread)
    (halive : (s.threads n).Alive)
    (hposts : s'.self.readyPosted = true ↔ postedSinceCreation n s'.log = true ∨ th.IsPosting)
    (hreasons : hasReason n s'.log = true ↔ s'.self.readyPosted = true ∨ th.OnTheWay)
    (hother : ∀ m, m ≠ n → hasReason m s'.log = hasReason m s.log)
    (hthreads : s'.threads = (s.setThread n th).threads := by rfl)
    (hnum : s'.created = s.created := by rfl) : Reasons s' := by
  have honly : ∀ m, (s'.threads m).Alive → m = n ∧ s'.threads m = th := by
    intro m hm
    rw [hthreads] at hm ⊢
    by_cases heq : m = n
    · rw [heq]
      exact ⟨rfl, setThread_self s n th⟩
    · rw [setThread_of_ne s th heq] at hm
      exact absurd (hlife.unique hm halive) heq
  refine ⟨fun m hm => ?_, fun m hm => ?_, fun m hm => ?_⟩
  · obtain ⟨rfl, hth⟩ := honly m hm
    rw [hth]
    exact hposts
  · obtain ⟨rfl, hth⟩ := honly m hm
    rw [hth]
    exact hreasons
  · rw [hnum] at hm
    have hne : m ≠ n := by
      rintro rfl
      exact halive.1 (hlife.absent m hm)
    rw [hother m hne]
    exact h.fresh m hm

theorem hasReason_of_ne {n m : ℕ} {log : List Happening} {h : Happening}
    (hh : h.isReason m = true) (hne : n ≠ m) : hasReason n (h :: log) = hasReason n log := by
  have hnot : h.isReason n = false := by
    cases h with
    | readied k => exact beq_false_of_ne fun hk => hne (hk.symm.trans (eq_of_beq hh))
    | finished k dterr =>
        cases dterr with
        | none => rfl
        | some _ => exact beq_false_of_ne fun hk => hne (hk.symm.trans (eq_of_beq hh))
    | _ => rfl
  rw [hasReason, List.any_cons, hnot, Bool.false_or]
  rfl

/-- **Step lemma.** -/
theorem Reasons.effect {s s' : State} {e : Event} (h : Reasons s) (hlife : Life s)
    (hhand : Handshake s) (hok : SemaphoreCallsSucceed s e) (heff : Effect s e s') :
    Reasons s' := by
  have hlife' := hlife.effect heff
  cases heff with
  | startRefused _ _ dterr hcaller => exact h.frame (.cons rfl _) (fun _ _ => rfl)
  | startPrepared _ _ hcaller hguard =>
      have hdead := fun n hn => hlife'.notCreating n hn _ rfl
      exact ⟨fun n hn => absurd hn (hdead n), fun n hn => absurd hn (hdead n), h.fresh⟩
  | createFailed before dterr thread hcaller =>
      exact h.frame (.cons rfl _) (fun _ _ => rfl)
  | createdThread before thread hcaller =>
      have hclear := hhand.creating before hcaller
      have hnone := h.fresh s.created (Nat.le_refl _)
      have honly : ∀ m, ((s.setThread s.created .entry).threads m).Alive → m = s.created := by
        intro m hm
        by_contra hne
        rw [setThread_of_ne s _ hne] at hm
        exact hlife.notCreating m hm before hcaller
      refine ⟨fun m hm => ?_, fun m hm => ?_, fun m hm => h.fresh m (Nat.le_of_succ_le hm)⟩
      · obtain rfl := honly m hm
        have hposts : postedSinceCreation s.created (.created s.created :: s.log) = false :=
          since_mark (beq_self_eq_true _)
        show s.self.readyPosted = true ↔ postedSinceCreation s.created (.created s.created :: s.log)
          = true ∨ ((s.setThread s.created .entry).threads s.created).IsPosting
        rw [hposts, hclear, setThread_self]
        simp [Thread.IsPosting]
      · obtain rfl := honly m hm
        show hasReason s.created s.log = true ↔ s.self.readyPosted = true ∨
          ((s.setThread s.created .entry).threads s.created).OnTheWay
        rw [hnone, hclear, setThread_self]
        simp [Thread.OnTheWay]
  | sleeps e n before hcaller => exact h.frame (.refl _) (fun _ _ => rfl)
  | taken e n before hcaller hcount => exact h.frame (.cons rfl _) (fun _ _ => rfl)
  | waitFailed e n before dterr hcaller hrc => exact absurd hok hrc
  | stops hcaller => exact h.frame (.refl _) (fun _ _ => rfl)
  | joinEnters ms arg wt hcaller hcreated hjoined =>
      exact h.frame (.refl _) (fun _ _ => rfl)
  | polls expired ms wt hcaller hexited => exact h.frame (.refl _) (fun _ _ => rfl)
  | pollsAgain expired => exact h
  | rechecked wt hcaller hcreated => exact h.frame (.refl _) (fun _ _ => rfl)
  | reaped n wt hcaller hexited hnot => exact h.frame (.refl _) (fun _ _ => rfl)
  | marked wt hcaller => exact h.frame (.cons rfl _) (fun _ _ => rfl)
  | joinReturned e dterr wt hcaller => exact h.frame (.cons rfl _) (fun _ _ => rfl)
  | readyFailed n callback info hthread => exact h.frame (.refl _) (fun _ _ => rfl)
  | readied n callback info hthread =>
      have halive : (s.threads n).Alive := by rw [hthread]; simp [Thread.Alive]
      have hposts := h.posts n halive
      rw [hthread] at hposts
      have hreason : hasReason n (.readied n :: s.log) = true :=
        hasReason_cons (beq_self_eq_true n)
      refine h.moveThread hlife n .readyOnce halive ?_
        ⟨fun _ => Or.inr trivial, fun _ => hreason⟩ ?_
      · have hsame : postedSinceCreation n (.readied n :: s.log) = postedSinceCreation n s.log :=
          since_other rfl rfl
        exact hsame ▸ hposts
      · exact fun m hne => hasReason_of_ne (beq_self_eq_true n) hne
  | finished n arg callback dterr info hthread =>
      have halive : (s.threads n).Alive := by rw [hthread]; simp [Thread.Alive]
      have hposts := h.posts n halive
      have hreasons := h.reasons n halive
      rw [hthread] at hposts hreasons
      have hsame : postedSinceCreation n (.finished n dterr :: s.log)
          = postedSinceCreation n s.log := since_other rfl rfl
      cases dterr with
      | none =>
          exact h.moveThread hlife n .exiting halive (hsame ▸ hposts) hreasons fun _ _ => rfl
      | some dterr =>
          have hreason : hasReason n (.finished n (some dterr) :: s.log) = true :=
            hasReason_cons (beq_self_eq_true n)
          refine h.moveThread hlife n .exitOnce halive (hsame ▸ hposts)
            ⟨fun _ => Or.inr trivial, fun _ => hreason⟩ ?_
          exact fun m hne => hasReason_of_ne (beq_self_eq_true n) hne
  | onceFirst n th hthread hflag =>
      obtain ⟨-, hway, hposting, -⟩ := afterOnce_spec hthread
      have halive := (afterOnce_alive hthread).1
      have hreason := (h.reasons n halive).2 (Or.inr hway)
      exact h.moveThread hlife n th halive
        ⟨fun _ => Or.inr (hposting.2 rfl), fun _ => rfl⟩
        ⟨fun _ => Or.inl rfl, fun _ => hreason⟩ fun _ _ => rfl
  | onceAgain n th hthread hflag =>
      obtain ⟨hold, hway, -, -⟩ := afterOnce_spec hthread
      have halive := (afterOnce_alive hthread).1
      have hreason := (h.reasons n halive).2 (Or.inr hway)
      -- the flag was set by an earlier call of this thread, which has posted
      have hposted : postedSinceCreation n s.log = true := by
        rcases (h.posts n halive).1 hflag with hp | hp
        · exact hp
        · exact absurd hp hold
      exact h.moveThread hlife n th halive
        ⟨fun _ => Or.inl hposted, fun _ => hflag⟩
        ⟨fun _ => Or.inl hflag, fun _ => hreason⟩ fun _ _ => rfl
  | posted n lockRc th hthread hlt =>
      obtain ⟨hposting, -, -⟩ := afterPost_spec hthread
      have halive := (afterPost_alive hthread).1
      have hflag := (h.posts n halive).2 (Or.inr hposting)
      have hreason := (h.reasons n halive).2 (Or.inl hflag)
      exact h.moveThread hlife n th halive
        ⟨fun _ => Or.inl (since_new rfl rfl), fun _ => hflag⟩
        ⟨fun _ => Or.inl hflag, fun _ => hreason⟩ fun _ _ => rfl
  | postFailed n lockRc th hthread hfail =>
      rcases hfail with hrc | hfull
      · exact absurd hok hrc
      · exact absurd hhand.count_lt hfull
  | exits n hthread =>
      refine h.frame (.refl _) fun m hm => ?_
      by_cases heq : m = n
      · rw [heq] at hm
        exact absurd (setThread_self s n .exited) hm.2
      · exact setThread_of_ne s _ heq

/-! ## Whole runs -/

/-- What has been posted since the creation of a thread that exists stays so. -/
theorem postedSinceCreation_cons {n : ℕ} {log : List Happening} {h : Happening}
    (hne : h ≠ .created n) (hp : postedSinceCreation n log = true) :
    postedSinceCreation n (h :: log) = true := by
  refine since_cons ?_ hp
  cases h with
  | created m => exact beq_false_of_ne fun hm => hne (hm ▸ rfl)
  | _ => rfl

/-- Only the exit of a thread can break it: any other step at most adds an entry to the log, and
    creates none of the threads that exist. -/
theorem Released.frame {s s' : State} (h : Released s) (hlife : Life s)
    (hthreads : ∀ n, s'.threads n = .exited → s.threads n = .exited)
    (hlog : s'.log = s.log ∨ ∃ a, s'.log = a :: s.log ∧ ∀ n, a = .created n → s.created ≤ n) :
    Released s' := by
  intro n hn
  have hold := hthreads n hn
  rcases hlog with heq | ⟨a, heq, hnew⟩
  · rw [heq]
    exact h n hold
  · rw [heq]
    refine postedSinceCreation_cons (fun ha => ?_) (h n hold)
    rw [hlife.absent n (hnew n ha)] at hold
    exact absurd hold (by simp)

theorem Released.effect {s s' : State} {e : Event} (h : Released s) (hlife : Life s)
    (heff : Effect s e s') (hexit : ∀ n, e ≠ .exit n) : Released s' := by
  cases heff with
  | startRefused _ _ dterr hcaller =>
      exact h.frame hlife (fun _ hn => hn) (Or.inr ⟨_, rfl, by simp⟩)
  | startPrepared _ _ hcaller hguard =>
      exact h.frame hlife (fun _ hn => hn) (Or.inr ⟨_, rfl, by simp⟩)
  | createFailed before dterr thread hcaller =>
      exact h.frame hlife (fun _ hn => hn) (Or.inr ⟨_, rfl, by simp⟩)
  | createdThread before thread hcaller =>
      refine h.frame hlife (fun _ hn => exited_of_setThread (by simp) hn) (Or.inr ⟨_, rfl, ?_⟩)
      intro n hn
      exact Nat.le_of_eq (Happening.created.inj hn)
  | sleeps e n before hcaller => exact h.frame hlife (fun _ hn => hn) (Or.inl rfl)
  | taken e n before hcaller hcount =>
      exact h.frame hlife (fun _ hn => hn) (Or.inr ⟨_, rfl, by simp⟩)
  | waitFailed e n before dterr hcaller hrc =>
      exact h.frame hlife (fun _ hn => hn) (Or.inr ⟨_, rfl, by simp⟩)
  | stops hcaller => exact h.frame hlife (fun _ hn => hn) (Or.inl rfl)
  | joinEnters ms arg wt hcaller hcreated hjoined =>
      exact h.frame hlife (fun _ hn => hn) (Or.inl rfl)
  | polls expired ms wt hcaller hexited => exact h.frame hlife (fun _ hn => hn) (Or.inl rfl)
  | pollsAgain expired => exact h
  | rechecked wt hcaller hcreated => exact h.frame hlife (fun _ hn => hn) (Or.inl rfl)
  | reaped n wt hcaller hexited hnot => exact h.frame hlife (fun _ hn => hn) (Or.inl rfl)
  | marked wt hcaller => exact h.frame hlife (fun _ hn => hn) (Or.inr ⟨_, rfl, by simp⟩)
  | joinReturned e dterr wt hcaller =>
      exact h.frame hlife (fun _ hn => hn) (Or.inr ⟨_, rfl, by simp⟩)
  | readyFailed n callback info hthread => exact h.frame hlife (fun _ hn => hn) (Or.inl rfl)
  | readied n callback info hthread =>
      exact h.frame hlife (fun _ hn => exited_of_setThread (by simp) hn)
        (Or.inr ⟨_, rfl, by simp⟩)
  | finished n arg callback dterr info hthread =>
      refine h.frame hlife (fun _ hn => exited_of_setThread ?_ hn) (Or.inr ⟨_, rfl, by simp⟩)
      cases dterr <;> simp
  | onceFirst n th hthread hflag =>
      have hne := (afterOnce_alive hthread).2.2
      exact h.frame hlife (fun _ hn => exited_of_setThread hne hn) (Or.inl rfl)
  | onceAgain n th hthread hflag =>
      have hne := (afterOnce_alive hthread).2.2
      exact h.frame hlife (fun _ hn => exited_of_setThread hne hn) (Or.inl rfl)
  | posted n lockRc th hthread hlt =>
      have hne := (afterPost_alive hthread).2.2
      exact h.frame hlife (fun _ hn => exited_of_setThread hne hn) (Or.inr ⟨_, rfl, by simp⟩)
  | postFailed n lockRc th hthread hfail =>
      have hne := (afterPost_alive hthread).2.2
      exact h.frame hlife (fun _ hn => exited_of_setThread hne hn) (Or.inl rfl)
  | exits n hthread => exact absurd rfl (hexit n)

/-- The exit of a thread keeps the property exactly when the thread had a reason to post. -/
theorem released_exit_iff {s : State} {n : ℕ} (h : Released s) (hr : Reasons s)
    (hthread : s.threads n = .exiting) {self : Tasker} :
    Released { s.setThread n .exited with self := self } ↔ hasReason n s.log = true := by
  have halive : (s.threads n).Alive := by rw [hthread]; simp [Thread.Alive]
  have hposts := hr.posts n halive
  have hreasons := hr.reasons n halive
  -- an exiting thread neither is posting nor is going to
  rw [hthread] at hposts hreasons
  simp only [Thread.IsPosting, Thread.OnTheWay, or_false] at hposts hreasons
  rw [hreasons, hposts]
  constructor
  · intro h'
    exact h' n (setThread_self s n .exited)
  · intro hp m hm
    by_cases heq : m = n
    · rw [heq]
      exact hp
    · exact h m (by rwa [← setThread_of_ne s .exited heq])

/-- **When a start is released, exactly.** As long as the pthread calls of the ready semaphore
    succeed, every thread that has set `thread_exited` has had the ready semaphore posted since its
    start, in every state of a run, exactly when every thread that exits in it has called
    `dttasker_ready` with success of its `dttasker_set_info`, or has ended with an error. -/
theorem start_released_exact (DTTIMEOUT_FOREVER DTTIMEOUT_NOWAIT PTHREAD_STACK_MIN : Int32)
    (config : Config) (events : List Event)
    (hok : Run.AllSteps (step DTTIMEOUT_FOREVER DTTIMEOUT_NOWAIT) SemaphoreCallsSucceed
      (.initial (created PTHREAD_STACK_MIN config)) events) :
    Run.AllStates (step DTTIMEOUT_FOREVER DTTIMEOUT_NOWAIT) Released
      (.initial (created PTHREAD_STACK_MIN config)) events ↔
    Run.AllSteps (step DTTIMEOUT_FOREVER DTTIMEOUT_NOWAIT) ExitsWithReason
      (.initial (created PTHREAD_STACK_MIN config)) events := by
  refine Run.allStates_iff_allSteps_of_allSteps
    (I := fun s => Life s ∧ Handshake s ∧ Reasons s) ?_ ?_ ?_ events _
    ⟨life_initial _, handshake_initial PTHREAD_STACK_MIN config, reasons_initial _⟩ ?_ hok
  · rintro s e s' ⟨hlife, hhand, hr⟩ - hC hstep -
    have heff := step_effect hstep
    exact ⟨hlife.effect heff, hhand.effect hlife hC heff, hr.effect hlife hhand hC heff⟩
  · rintro s e s' ⟨hlife, hhand, hr⟩ hs hC hstep
    cases e with
    | exit n =>
        unfold step at hstep
        dsimp only at hstep
        split at hstep
        · next hthread =>
            obtain rfl := Option.some.inj hstep
            rw [released_exit_iff hs hr hthread]
            exact ⟨fun h _ => h, fun h => h hthread⟩
        · exact absurd hstep (by simp)
    | _ => exact ⟨fun _ => trivial, fun _ => hs.effect hlife (step_effect hstep) (by simp)⟩
  · rintro s e ⟨hlife, hhand, hr⟩ hs hstep
    cases e with
    | exit n =>
        intro hthread
        simp [step, hthread] at hstep
    | _ => trivial
  · intro n hn
    exact absurd hn (by simp [State.initial])

/-- The exact condition, on the run of two starts: both threads end with an error. -/
theorem start_released_exact_restartRun :
    Run.AllStates (step (-1) 0) Released (.initial (created 16384 plainConfig)) restartRun :=
  (start_released_exact (-1) 0 16384 plainConfig restartRun (by decide)).2 (by decide)

/-- A start is pending, no thread is left to release it, and nothing has been posted. -/
structure Stranded (s : State) : Prop where
  pending : ∃ n before, s.caller.InStart n before
  dead : ∀ n, ¬(s.threads n).Alive
  empty : s.self.readySemaphore.count = 0

theorem Stranded.effect {s s' : State} {e : Event} (h : Stranded s)
    (hok : SemaphoreCallsSucceed s e) (heff : Effect s e s') : Stranded s' := by
  obtain ⟨n, before, hstart⟩ := h.pending
  -- the controlling thread is in the start, and no thread takes a step
  have hcaller : ∀ c : Caller, (∀ n b, ¬c.InStart n b) → s.caller ≠ c := by
    rintro c hc rfl
    exact hc n before hstart
  have hthread : ∀ m th, s.threads m = th → ¬th.Alive := by
    rintro m th rfl
    exact h.dead m
  cases heff with
  | sleeps e m b hs => exact ⟨⟨m, b, Or.inr rfl⟩, h.dead, h.empty⟩
  | taken e m b hs hcount => exact absurd h.empty hcount
  | waitFailed e m b dterr hs hrc => exact absurd hok hrc
  | pollsAgain expired => exact h
  | joinReturned e dterr wt hs =>
      rcases hstart with hc | hc
      · rw [hc] at hs
        exact absurd hs id
      · rw [hc] at hs
        exact absurd hs id
  | startRefused _ _ dterr hs => exact absurd hs (hcaller _ (by simp [Caller.InStart]))
  | startPrepared _ _ hs hguard => exact absurd hs (hcaller _ (by simp [Caller.InStart]))
  | createFailed b dterr thread hs => exact absurd hs (hcaller _ (by simp [Caller.InStart]))
  | createdThread b thread hs => exact absurd hs (hcaller _ (by simp [Caller.InStart]))
  | stops hs => exact absurd hs (hcaller _ (by simp [Caller.InStart]))
  | joinEnters ms arg wt hs _ _ => exact absurd hs (hcaller _ (by simp [Caller.InStart]))
  | polls expired ms wt hs _ => exact absurd hs (hcaller _ (by simp [Caller.InStart]))
  | rechecked wt hs _ => exact absurd hs (hcaller _ (by simp [Caller.InStart]))
  | reaped m wt hs _ _ => exact absurd hs (hcaller _ (by simp [Caller.InStart]))
  | marked wt hs => exact absurd hs (hcaller _ (by simp [Caller.InStart]))
  | readyFailed m callback info hth => exact absurd (by simp [Thread.Alive]) (hthread m _ hth)
  | readied m callback info hth => exact absurd (by simp [Thread.Alive]) (hthread m _ hth)
  | finished m arg callback dterr info hth =>
      exact absurd (by simp [Thread.Alive]) (hthread m _ hth)
  | onceFirst m th hth hflag => exact absurd (afterOnce_alive hth).1 (h.dead m)
  | onceAgain m th hth hflag => exact absurd (afterOnce_alive hth).1 (h.dead m)
  | posted m lockRc th hth hlt => exact absurd (afterPost_alive hth).1 (h.dead m)
  | postFailed m lockRc th hth hfail => exact absurd (afterPost_alive hth).1 (h.dead m)
  | exits m hth => exact absurd (by simp [Thread.Alive]) (hthread m _ hth)

/-- **A stranded start never returns**, whatever happens. -/
theorem stranded_forever {DTTIMEOUT_FOREVER DTTIMEOUT_NOWAIT : Int32} {s s' : State}
    (h : Stranded s) (events : List Event)
    (hok : Run.AllSteps (step DTTIMEOUT_FOREVER DTTIMEOUT_NOWAIT) SemaphoreCallsSucceed s events)
    (hrun : Run.exec (step DTTIMEOUT_FOREVER DTTIMEOUT_NOWAIT) s events = some s') : Stranded s' :=
  Run.exec_invariant_of_allSteps (fun _ _ _ hs hC hstep => hs.effect hC (step_effect hstep))
    events s s' h hok hrun

/-- The entry function returns `NULL` without having called `dttasker_ready`: the thread exits, no
    post has been made, and the start is stranded. -/
theorem null_exit_strands_start :
    ∃ s, Run.exec (step (-1) 0) (.initial (created 16384 plainConfig))
        [.start none none, .pthreadCreate none none, .semWait 0 ⟨5, 0⟩,
          .entryReturns 0 none none, .exit 0] = some s ∧
      s.threads 0 = .exited ∧ postedSinceCreation 0 s.log = false ∧ Stranded s := by
  refine ⟨_, rfl, by decide, by decide, ⟨0, ⟨false, false, false⟩, Or.inr rfl⟩, fun n hn => ?_, ?_⟩
  · cases n with
    | zero => exact hn.2 rfl
    | succ n => exact hn.1 rfl
  · rfl

end Dttasker
