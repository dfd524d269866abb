import DtmcLinux.Dtsemaphore.Correct
import DtmcLinux.Dttasker.System

set_option autoImplicit false

/-! # What a step of the tasker can do

`Effect` lists the outcomes of every event with the state it leads to, and `step_effect` says that
there are no others. `Life` is what every run keeps about the threads: at most one has not exited,
it is the last one created, and the flags say that there is one. -/

namespace Dttasker

open Posix

/-! ## The outcomes -/

/-- The pthread calls of the ready semaphore return `0`, as they do for a mutex and a condition
    variable that `dtsemaphore_create` has initialised. -/
def SemaphoreCallsSucceed (_ : State) : Event → Prop
  | .semWait lockRc _ => lockRc = 0
  | .semWake err => err = 0
  | .post _ lockRc => lockRc = 0
  | _ => True

instance SemaphoreCallsSucceed.decidable (s : State) (e : Event) :
    Decidable (SemaphoreCallsSucceed s e) :=
  match e with
  | .semWait lockRc _ => inferInstanceAs (Decidable (lockRc = 0))
  | .semWake err => inferInstanceAs (Decidable (err = 0))
  | .post _ lockRc => inferInstanceAs (Decidable (lockRc = 0))
  | .start _ _ | .pthreadCreate _ _ | .stop | .join _ _ | .poll _ | .recheck | .pthreadJoin _
  | .mark | .ready _ _ | .entryReturns _ _ _ | .once _ | .exit _ => instDecidableTrue

/-- The controlling thread is in `dttasker_start`, past the creation of thread `n`. -/
def Caller.InStart (c : Caller) (n : ℕ) (before : Flags) : Prop :=
  c = .created n before ∨ c = .waiting n before

/-- The controlling thread can return from `dttasker_join` without having joined. -/
def Caller.MayLeaveJoin : Caller → Prop
  | .idle => True
  | .polling _ _ => True
  | .rechecking _ => True
  | .reaping _ _ => True
  | _ => False

/-- The outcomes of the events. -/
inductive Effect (s : State) : Event → State → Prop where
  | startRefused (attrInit attrSetstacksize : Option Dterr) (dterr : Dterr)
      (hcaller : s.caller = .idle) :
      Effect s (.start attrInit attrSetstacksize) (s.startReturns none s.self.flags (some dterr))
  | startPrepared (attrInit attrSetstacksize : Option Dterr) (hcaller : s.caller = .idle)
      (hguard : s.self.threadCreated = true → s.self.threadExited = true) :
      Effect s (.start attrInit attrSetstacksize)
        { s with
          self := { s.self with
            readyPosted := false
            stopRequested := false
            threadExited := false
            threadJoined := false }
          caller := .creating s.self.flags
          log := .reset :: s.log }
  | createFailed (before : Flags) (dterr : Dterr) (thread : Option ℕ)
      (hcaller : s.caller = .creating before) :
      Effect s (.pthreadCreate (some dterr) thread)
        ({ s with self := { s.self with thread := thread } }.startReturns none before (some dterr))
  | createdThread (before : Flags) (thread : Option ℕ) (hcaller : s.caller = .creating before) :
      Effect s (.pthreadCreate none thread)
        { s.setThread s.created .entry with
          self := { s.self with thread := some s.created, threadCreated := true }
          caller := .created s.created before
          created := s.created + 1
          log := .created s.created :: s.log }
  | sleeps (e : Event) (n : ℕ) (before : Flags) (hcaller : s.caller.InStart n before) :
      Effect s e { s with caller := .waiting n before }
  | taken (e : Event) (n : ℕ) (before : Flags) (hcaller : s.caller.InStart n before)
      (hcount : s.self.readySemaphore.count ≠ 0) :
      Effect s e
        ({ s with self := { s.self with readySemaphore := { s.self.readySemaphore with
            count := s.self.readySemaphore.count - 1 } } }.startReturns (some n) before none)
  | waitFailed (e : Event) (n : ℕ) (before : Flags) (dterr : Option Dterr)
      (hcaller : s.caller.InStart n before) (hrc : ¬SemaphoreCallsSucceed s e) :
      Effect s e (s.startReturns (some n) before dterr)
  | stops (hcaller : s.caller = .idle) :
      Effect s .stop { s with self := { s.self with stopRequested := true } }
  | joinEnters (timeoutMillis : Int32) (arg wasTimeout : Option Bool) (hcaller : s.caller = .idle)
      (hcreated : s.self.threadCreated = true) (hjoined : s.self.threadJoined = false) :
      Effect s (.join timeoutMillis arg) { s with caller := .polling timeoutMillis wasTimeout }
  | polls (expired : Bool) (timeoutMillis : Int32) (wasTimeout : Option Bool)
      (hcaller : s.caller = .polling timeoutMillis wasTimeout)
      (hexited : s.self.threadExited = true) :
      Effect s (.poll expired) { s with caller := .rechecking wasTimeout }
  | pollsAgain (expired : Bool) : Effect s (.poll expired) s
  | rechecked (wasTimeout : Option Bool) (hcaller : s.caller = .rechecking wasTimeout)
      (hcreated : s.self.threadCreated = true) :
      Effect s .recheck { s with caller := .reaping s.self.thread wasTimeout }
  | reaped (n : ℕ) (wasTimeout : Option Bool) (hcaller : s.caller = .reaping (some n) wasTimeout)
      (hexited : s.threads n = .exited) (hnot : n ∉ s.joined) :
      Effect s (.pthreadJoin none)
        { s with
          caller := .marking wasTimeout
          joined := n :: s.joined }
  | marked (wasTimeout : Option Bool) (hcaller : s.caller = .marking wasTimeout) :
      Effect s .mark
        ({ s with self := { s.self with threadJoined := true, threadCreated := false } }.joinReturns
          none wasTimeout)
  | joinReturned (e : Event) (dterr : Option Dterr) (wasTimeout : Option Bool)
      (hcaller : s.caller.MayLeaveJoin) : Effect s e (s.joinReturns dterr wasTimeout)
  | readyFailed (n : ℕ) (callback : Option Dterr) (info : Info) (hthread : s.threads n = .entry) :
      Effect s (.ready n callback) { s with self := { s.self with info := info } }
  | readied (n : ℕ) (callback : Option Dterr) (info : Info) (hthread : s.threads n = .entry) :
      Effect s (.ready n callback)
        { s.setThread n .readyOnce with
          self := { s.self with info := info }
          log := .readied n :: s.log }
  | finished (n : ℕ) (arg callback dterr : Option Dterr) (info : Info)
      (hthread : s.threads n = .entry) :
      Effect s (.entryReturns n arg callback)
        { s.setThread n (if dterr.isSome then .exitOnce else .exiting) with
          self := { s.self with info := info }
          log := .finished n dterr :: s.log }
  | onceFirst (n : ℕ) (th : Thread) (hthread : (s.threads n).afterOnce true = some th)
      (hflag : s.self.readyPosted = false) :
      Effect s (.once n) { s.setThread n th with self := { s.self with readyPosted := true } }
  | onceAgain (n : ℕ) (th : Thread) (hthread : (s.threads n).afterOnce false = some th)
      (hflag : s.self.readyPosted = true) : Effect s (.once n) (s.setThread n th)
  | posted (n : ℕ) (lockRc : Rc) (th : Thread) (hthread : (s.threads n).afterPost = some th)
      (hlt : s.self.readySemaphore.count < s.self.readySemaphore.maxCount) :
      Effect s (.post n lockRc)
        { s.setThread n th with
          self := { s.self with readySemaphore := { s.self.readySemaphore with
            count := s.self.readySemaphore.count + 1 } }
          log := .posted n :: s.log }
  | postFailed (n : ℕ) (lockRc : Rc) (th : Thread) (hthread : (s.threads n).afterPost = some th)
      (hfail : lockRc ≠ 0 ∨ ¬s.self.readySemaphore.count < s.self.readySemaphore.maxCount) :
      Effect s (.post n lockRc) (s.setThread n th)
  | exits (n : ℕ) (hthread : s.threads n = .exiting) :
      Effect s (.exit n)
        { s.setThread n .exited with self := { s.self with threadExited := true } }

/-- What `dttasker_start` does before `pthread_create`, when it does not return an error. -/
theorem startPrepare_ok {self self' : Tasker} {attrInit attrSetstacksize : Option Dterr}
    (h : self.startPrepare attrInit attrSetstacksize = .ok self') :
    (self.threadCreated = true → self.threadExited = true) ∧
      self' = { self with
        readyPosted := false
        stopRequested := false
        threadExited := false
        threadJoined := false } := by
  unfold Tasker.startPrepare at h
  split at h
  · exact absurd h (by simp)
  · next hguard =>
      refine ⟨fun hc => by simpa [hc] using hguard, ?_⟩
      split at h
      · exact absurd h (by simp)
      · split at h
        · exact absurd h (by simp)
        · split at h
          · exact absurd h (by simp)
          · exact (Except.ok.inj h).symm

/-- A critical section of the wait in `dttasker_start` sleeps, takes the token, or fails because a
    pthread call did. -/
theorem endSemWait_effect {s : State} {e : Event} {n : ℕ} {before : Flags}
    (hcaller : s.caller.InStart n before) {r : Dtsemaphore.WaitEnd}
    (hr : r.Allowed s.self.readySemaphore)
    (hreturn : SemaphoreCallsSucceed s e → ∀ dterr wasTimeout, r ≠ .returned dterr wasTimeout) :
    Effect s e (s.endSemWait n before r) := by
  cases r with
  | wait ms deadline wasTimeout => exact .sleeps e n before hcaller
  | taken sem wasTimeout =>
      obtain ⟨hne, rfl, -⟩ := hr
      exact .taken e n before hcaller hne
  | returned dterr wasTimeout =>
      exact .waitFailed e n before dterr hcaller fun hok => hreturn hok dterr wasTimeout rfl

/-- **Step lemma.** Every step has one of the outcomes. -/
theorem step_effect {DTTIMEOUT_FOREVER DTTIMEOUT_NOWAIT : Int32} {s s' : State} {e : Event}
    (h : step DTTIMEOUT_FOREVER DTTIMEOUT_NOWAIT s e = some s') : Effect s e s' := by
  unfold step at h
  cases e with
  | start attrInit attrSetstacksize =>
      dsimp only at h
      split at h
      · next hcaller =>
          split at h
          · next dterr hprep =>
              obtain rfl := Option.some.inj h
              exact .startRefused _ _ dterr hcaller
          · next self hprep =>
              obtain rfl := Option.some.inj h
              obtain ⟨hguard, rfl⟩ := startPrepare_ok hprep
              exact .startPrepared _ _ hcaller hguard
      · exact absurd h (by simp)
  | pthreadCreate dterr thread =>
      dsimp only at h
      split at h
      · next before hcaller =>
          split at h
          · next dterr =>
              obtain rfl := Option.some.inj h
              exact .createFailed before dterr thread hcaller
          · obtain rfl := Option.some.inj h
            exact .createdThread before thread hcaller
      · exact absurd h (by simp)
  | semWait lockRc now =>
      dsimp only at h
      split at h
      · next n before hcaller =>
          obtain rfl := Option.some.inj h
          refine endSemWait_effect (Or.inl hcaller) (Dtsemaphore.wait_allowed _ _ _ _ _ _ _) ?_
          rintro rfl dterr wasTimeout
          rw [Dtsemaphore.wait, if_neg (by simp), if_pos rfl]
          exact Dtsemaphore.waitLoop_ne_returned _ _ _ _ _ _
      · exact absurd h (by simp)
  | semWake err =>
      dsimp only at h
      split at h
      · next n before hcaller =>
          obtain rfl := Option.some.inj h
          refine endSemWait_effect (Or.inr hcaller) (Dtsemaphore.waitWake_allowed _ _ _ _ _) ?_
          rintro rfl dterr wasTimeout
          rw [Dtsemaphore.waitWake_zero]
          exact Dtsemaphore.waitLoop_ne_returned _ _ _ _ _ _
      · exact absurd h (by simp)
  | stop =>
      dsimp only at h
      split at h
      · next hcaller =>
          obtain rfl := Option.some.inj h
          exact .stops hcaller
      · exact absurd h (by simp)
  | join timeoutMillis wasTimeout =>
      dsimp only at h
      split at h
      · next hcaller =>
          split at h
          · obtain rfl := Option.some.inj h
            exact .joinReturned _ _ _ (by rw [hcaller]; trivial)
          · next hnot =>
              obtain rfl := Option.some.inj h
              simp only [Bool.or_eq_true, Bool.not_eq_true', not_or, Bool.not_eq_false,
                Bool.not_eq_true] at hnot
              exact .joinEnters timeoutMillis _ _ hcaller hnot.1 hnot.2
      · exact absurd h (by simp)
  | poll expired =>
      dsimp only at h
      split at h
      · next timeoutMillis wasTimeout hcaller =>
          split at h
          · next hexited =>
              obtain rfl := Option.some.inj h
              exact .polls expired timeoutMillis wasTimeout hcaller hexited
          · split at h
            · obtain rfl := Option.some.inj h
              exact .joinReturned _ _ _ (by rw [hcaller]; trivial)
            · obtain rfl := Option.some.inj h
              exact .pollsAgain expired
      · exact absurd h (by simp)
  | recheck =>
      dsimp only at h
      split at h
      · next wasTimeout hcaller =>
          split at h
          · obtain rfl := Option.some.inj h
            exact .joinReturned _ _ _ (by rw [hcaller]; trivial)
          · split at h
            · obtain rfl := Option.some.inj h
              exact .joinReturned _ _ _ (by rw [hcaller]; trivial)
            · next hcreated =>
                obtain rfl := Option.some.inj h
                exact .rechecked wasTimeout hcaller (by simpa using hcreated)
      · exact absurd h (by simp)
  | pthreadJoin dterr =>
      dsimp only at h
      split at h
      · next thread wasTimeout hcaller =>
          split at h
          · obtain rfl := Option.some.inj h
            exact .joinReturned _ _ _ (by rw [hcaller]; trivial)
          · split at h
            · next n =>
                rw [Option.ite_none_right_eq_some, Option.some.injEq] at h
                obtain ⟨⟨hexited, hnot⟩, rfl⟩ := h
                exact .reaped n wasTimeout hcaller hexited hnot
            · exact absurd h (by simp)
      · exact absurd h (by simp)
  | mark =>
      dsimp only at h
      split at h
      · next wasTimeout hcaller =>
          obtain rfl := Option.some.inj h
          exact .marked wasTimeout hcaller
      · exact absurd h (by simp)
  | ready n callback =>
      dsimp only at h
      split at h
      · next hthread =>
          split at h
          · next self dterr hinfo =>
              obtain rfl := Option.some.inj h
              obtain ⟨rfl, -⟩ := Prod.mk.inj hinfo
              exact .readyFailed n callback _ hthread
          · next self hinfo =>
              obtain rfl := Option.some.inj h
              obtain ⟨rfl, -⟩ := Prod.mk.inj hinfo
              exact .readied n callback _ hthread
      · exact absurd h (by simp)
  | entryReturns n dterr callback =>
      dsimp only at h
      split at h
      · next hthread =>
          obtain rfl := Option.some.inj h
          exact .finished n dterr callback _ _ hthread
      · exact absurd h (by simp)
  | once n =>
      dsimp only at h
      unfold Tasker.postReadyOnce at h
      cases hflag : s.self.readyPosted with
      | false =>
          rw [hflag] at h
          obtain ⟨th, hthread, rfl⟩ := Option.map_eq_some_iff.1 h
          exact .onceFirst n th hthread hflag
      | true =>
          rw [hflag] at h
          obtain ⟨th, hthread, rfl⟩ := Option.map_eq_some_iff.1 h
          exact .onceAgain n th hthread hflag
  | post n lockRc =>
      obtain ⟨th, hthread, rfl⟩ := Option.map_eq_some_iff.1 h
      unfold Dtsemaphore.post
      by_cases hlock : lockRc = 0
      · rw [if_neg (by simpa using hlock)]
        by_cases hlt : s.self.readySemaphore.count < s.self.readySemaphore.maxCount
        · rw [if_pos hlt]
          exact .posted n lockRc th hthread hlt
        · rw [if_neg hlt]
          exact .postFailed n lockRc th hthread (Or.inr hlt)
      · rw [if_pos hlock]
        exact .postFailed n lockRc th hthread (Or.inl hlock)
  | exit n =>
      dsimp only at h
      split at h
      · next hthread =>
          obtain rfl := Option.some.inj h
          exact .exits n hthread
      · exact absurd h (by simp)

/-! ## The threads -/

/-- A thread that exists and has not set `thread_exited`. -/
def Thread.Alive (th : Thread) : Prop := th ≠ .absent ∧ th ≠ .exited

/-- The controlling thread is in `dttasker_join`, past its loop. -/
def Caller.PastLoop : Caller → Prop
  | .rechecking _ => True
  | .reaping _ _ => True
  | .marking _ => True
  | _ => False

/-- At most the last thread is alive, and while it is, the flags say so and no start is about to
    create another one. -/
structure Life (s : State) : Prop where
  absent : ∀ n, s.created ≤ n → s.threads n = .absent
  last : ∀ n, (s.threads n).Alive → n + 1 = s.created
  flags : ∀ n, (s.threads n).Alive → s.self.threadCreated = true ∧ s.self.threadExited = false
  notCreating : ∀ n, (s.threads n).Alive → ∀ before, s.caller ≠ .creating before
  creating : ∀ before, s.caller = .creating before → s.self.threadExited = false
  started : ∀ n before, s.caller.InStart n before → n + 1 = s.created
  pastLoop : s.caller.PastLoop → s.self.threadExited = true

theorem life_initial (self : Tasker) : Life (State.initial self) where
  absent _ _ := rfl
  last _ h := absurd rfl h.1
  flags _ h := absurd rfl h.1
  notCreating _ h := absurd rfl h.1
  creating _ h := absurd h (by simp [State.initial])
  started _ _ h := absurd h (by simp [State.initial, Caller.InStart])
  pastLoop h := absurd h id

theorem setThread_self (s : State) (n : ℕ) (th : Thread) : (s.setThread n th).threads n = th :=
  if_pos rfl

theorem setThread_of_ne (s : State) {n m : ℕ} (th : Thread) (h : m ≠ n) :
    (s.setThread n th).threads m = s.threads m := if_neg h

theorem exited_of_setThread {s : State} {n m : ℕ} {th : Thread} (hth : th ≠ .exited)
    (h : (s.setThread n th).threads m = .exited) : s.threads m = .exited := by
  by_cases heq : m = n
  · rw [heq, setThread_self] at h
    exact absurd h hth
  · rwa [setThread_of_ne s th heq] at h

/-- Two threads that are alive are the same. -/
theorem Life.unique {s : State} (h : Life s) {n m : ℕ} (hn : (s.threads n).Alive)
    (hm : (s.threads m).Alive) : n = m := by
  have h1 := h.last n hn
  have h2 := h.last m hm
  omega

theorem afterOnce_alive {th th' : Thread} {b : Bool} (h : th.afterOnce b = some th') :
    th.Alive ∧ th'.Alive := by
  cases th <;> cases b <;> simp_all [Thread.afterOnce, Thread.Alive] <;> subst h <;> simp

theorem afterPost_alive {th th' : Thread} (h : th.afterPost = some th') : th.Alive ∧ th'.Alive := by
  cases th <;> simp_all [Thread.afterPost, Thread.Alive] <;> subst h <;> simp

/-- Nobody is alive while the flags say that the last thread has exited, or that there is none. -/
theorem Life.not_alive_of_exited {s : State} (h : Life s) (hexited : s.self.threadExited = true)
    (n : ℕ) : ¬(s.threads n).Alive := by
  intro hn
  rw [(h.flags n hn).2] at hexited
  exact absurd hexited (by simp)

/-- A step that creates no thread, wakes none from its exit, and leaves the two flags alone. Here as
    below, the hypotheses that a field is unchanged discharge themselves. -/
theorem Life.frame {s s' : State} (h : Life s)
    (habsent : ∀ m, s.threads m = .absent → s'.threads m = .absent)
    (halive : ∀ m, (s'.threads m).Alive → (s.threads m).Alive)
    (hcreating : ∀ before, s'.caller = .creating before → s.caller = .creating before)
    (hstarted : ∀ n before, s'.caller.InStart n before → s.caller.InStart n before)
    (hpast : s'.caller.PastLoop → s.self.threadExited = true)
    (hnum : s'.created = s.created := by rfl)
    (hcreated : s'.self.threadCreated = s.self.threadCreated := by rfl)
    (hexited : s'.self.threadExited = s.self.threadExited := by rfl) : Life s' where
  absent n hn := habsent n (h.absent n (hnum ▸ hn))
  last n hn := by rw [hnum]; exact h.last n (halive n hn)
  flags n hn := by rw [hcreated, hexited]; exact h.flags n (halive n hn)
  notCreating n hn before hc := h.notCreating n (halive n hn) before (hcreating before hc)
  creating before hc := by rw [hexited]; exact h.creating before (hcreating before hc)
  started n before hc := by rw [hnum]; exact h.started n before (hstarted n before hc)
  pastLoop hc := by rw [hexited]; exact hpast hc

/-- The frame of a step of a thread that stays alive. -/
theorem Life.moveThread {s s' : State} (h : Life s) (n : ℕ) (th : Thread)
    (halive : (s.threads n).Alive)
    (hthreads : s'.threads = (s.setThread n th).threads := by rfl)
    (hcaller : s'.caller = s.caller := by rfl) (hnum : s'.created = s.created := by rfl)
    (hcreated : s'.self.threadCreated = s.self.threadCreated := by rfl)
    (hexited : s'.self.threadExited = s.self.threadExited := by rfl) : Life s' := by
  refine h.frame (fun m hm => ?_) (fun m hm => ?_) (fun _ hc => hcaller ▸ hc)
    (fun _ _ hc => hcaller ▸ hc) (fun hc => h.pastLoop (hcaller ▸ hc)) hnum hcreated hexited
  · have hne : m ≠ n := by
      rintro rfl
      exact halive.1 hm
    rw [hthreads, setThread_of_ne s th hne]
    exact hm
  · by_cases heq : m = n
    · rw [heq]
      exact halive
    · rw [hthreads, setThread_of_ne s th heq] at hm
      exact hm

/-- The frame of a step of the controlling thread that ends in a place where nothing is asked. -/
theorem Life.moveCaller {s s' : State} (h : Life s)
    (hcreating : ∀ before, s'.caller ≠ .creating before)
    (hstarted : ∀ n before, s'.caller.InStart n before → s.caller.InStart n before)
    (hpast : s'.caller.PastLoop → s.self.threadExited = true)
    (hthreads : s'.threads = s.threads := by rfl) (hnum : s'.created = s.created := by rfl)
    (hcreated : s'.self.threadCreated = s.self.threadCreated := by rfl)
    (hexited : s'.self.threadExited = s.self.threadExited := by rfl) : Life s' :=
  h.frame (fun m hm => by rw [hthreads]; exact hm) (fun m hm => by rw [hthreads] at hm; exact hm)
    (fun before hc => absurd hc (hcreating before)) hstarted hpast hnum hcreated hexited

@[simp] theorem inStart_created {n m : ℕ} {b b' : Flags} :
    (Caller.created n b).InStart m b' ↔ n = m ∧ b = b' := by
  simp [Caller.InStart]

@[simp] theorem inStart_waiting {n m : ℕ} {b b' : Flags} :
    (Caller.waiting n b).InStart m b' ↔ n = m ∧ b = b' := by
  simp [Caller.InStart]

/-- **Step lemma.** -/
theorem Life.effect {s s' : State} {e : Event} (h : Life s) (heff : Effect s e s') : Life s' := by
  cases heff with
  | startRefused _ _ dterr hcaller =>
      exact h.moveCaller (by simp [State.startReturns])
        (by simp [State.startReturns, Caller.InStart]) (fun hp => absurd hp id)
  | startPrepared _ _ hcaller hguard =>
      -- the guard has seen that nobody is alive
      have hdead : ∀ n, ¬(s.threads n).Alive := by
        intro n hn
        have hflags := h.flags n hn
        rw [hguard hflags.1] at hflags
        exact absurd hflags.2 (by simp)
      exact ⟨h.absent, fun n hn => absurd hn (hdead n), fun n hn => absurd hn (hdead n),
        fun n hn => absurd hn (hdead n), fun _ _ => rfl, by simp [Caller.InStart],
        fun hp => absurd hp id⟩
  | createFailed before dterr thread hcaller =>
      exact h.moveCaller (by simp [State.startReturns])
        (by simp [State.startReturns, Caller.InStart]) (fun hp => absurd hp id)
  | createdThread before thread hcaller =>
      have hexited := h.creating before hcaller
      refine ⟨fun n hn => ?_, fun n hn => ?_, fun n hn => ⟨rfl, hexited⟩, by simp, by simp, ?_,
        fun hp => absurd hp id⟩
      · have hne : n ≠ s.created := Nat.ne_of_gt hn
        show (s.setThread s.created .entry).threads n = .absent
        rw [setThread_of_ne s _ hne]
        exact h.absent n (Nat.le_of_lt hn)
      · show n + 1 = s.created + 1
        by_cases heq : n = s.created
        · rw [heq]
        · -- no other thread is alive while a start is about to create one
          replace hn : ((s.setThread s.created .entry).threads n).Alive := hn
          rw [setThread_of_ne s _ heq] at hn
          exact absurd hcaller (h.notCreating n hn before)
      · intro n b hstart
        simp only [inStart_created] at hstart
        rw [← hstart.1]
  | sleeps e n before hcaller =>
      refine h.moveCaller (by simp) (fun m b hstart => ?_) (fun hp => absurd hp id)
      obtain ⟨rfl, rfl⟩ := inStart_waiting.1 hstart
      exact hcaller
  | taken e n before hcaller hcount =>
      exact h.moveCaller (by simp [State.startReturns])
        (by simp [State.startReturns, Caller.InStart]) (fun hp => absurd hp id)
  | waitFailed e n before dterr hcaller hrc =>
      exact h.moveCaller (by simp [State.startReturns])
        (by simp [State.startReturns, Caller.InStart]) (fun hp => absurd hp id)
  | stops hcaller =>
      exact h.moveCaller (by simp [hcaller])
        (by simp [hcaller, Caller.InStart])
        (fun hp => by rw [hcaller] at hp; exact absurd hp id)
  | joinEnters ms arg wt hcaller hcreated hjoined =>
      exact h.moveCaller (by simp) (by simp [Caller.InStart])
        (fun hp => absurd hp id)
  | polls expired ms wt hcaller hexited =>
      exact h.moveCaller (by simp) (by simp [Caller.InStart]) (fun _ => hexited)
  | pollsAgain expired => exact h
  | rechecked wt hcaller hcreated =>
      have hexited := h.pastLoop (by rw [hcaller]; trivial)
      exact h.moveCaller (by simp) (by simp [Caller.InStart]) (fun _ => hexited)
  | reaped n wt hcaller hexited hnot =>
      have hflag := h.pastLoop (by rw [hcaller]; trivial)
      exact h.moveCaller (by simp) (by simp [Caller.InStart]) (fun _ => hflag)
  | marked wt hcaller =>
      have hflag := h.pastLoop (by rw [hcaller]; trivial)
      have hdead := h.not_alive_of_exited hflag
      exact ⟨h.absent, fun n hn => absurd hn (hdead n), fun n hn => absurd hn (hdead n),
        fun n hn => absurd hn (hdead n), by simp [State.joinReturns],
        by simp [State.joinReturns, Caller.InStart], fun hp => absurd hp id⟩
  | joinReturned e dterr wt hcaller =>
      exact h.moveCaller (by simp [State.joinReturns])
        (by simp [State.joinReturns, Caller.InStart]) (fun hp => absurd hp id)
  | readyFailed n callback info hthread =>
      exact h.frame (fun _ hm => hm) (fun _ hm => hm) (fun _ hc => hc) (fun _ _ hc => hc)
        h.pastLoop
  | readied n callback info hthread =>
      exact h.moveThread n .readyOnce (by rw [hthread]; simp [Thread.Alive])
  | finished n arg callback dterr info hthread =>
      exact h.moveThread n _ (by rw [hthread]; simp [Thread.Alive])
  | onceFirst n th hthread hflag =>
      exact h.moveThread n th (afterOnce_alive hthread).1
  | onceAgain n th hthread hflag =>
      exact h.moveThread n th (afterOnce_alive hthread).1
  | posted n lockRc th hthread hlt =>
      exact h.moveThread n th (afterPost_alive hthread).1
  | postFailed n lockRc th hthread hfail =>
      exact h.moveThread n th (afterPost_alive hthread).1
  | exits n hthread =>
      have halive : (s.threads n).Alive := by rw [hthread]; simp [Thread.Alive]
      -- the thread that exits was the only one alive
      have hdead : ∀ m, ¬((s.setThread n .exited).threads m).Alive := by
        intro m hm
        by_cases heq : m = n
        · rw [heq, setThread_self] at hm
          exact hm.2 rfl
        · rw [setThread_of_ne s _ heq] at hm
          exact heq (h.unique hm halive)
      refine ⟨fun m hm => ?_, fun m hm => absurd hm (hdead m), fun m hm => absurd hm (hdead m),
        fun m hm => absurd hm (hdead m),
        fun before hc => absurd hc (h.notCreating n halive before), h.started, fun _ => rfl⟩
      have hne : m ≠ n := by
        rintro rfl
        exact halive.1 (h.absent m hm)
      show (s.setThread n .exited).threads m = .absent
      rw [setThread_of_ne s _ hne]
      exact h.absent m hm

end Dttasker
