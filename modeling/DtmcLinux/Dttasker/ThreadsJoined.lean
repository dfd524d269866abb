import DtmcLinux.Dttasker.ReadyHandshake

set_option autoImplicit false

/-! # When no thread is abandoned

`dttasker_start` refuses a tasker whose thread is running; one whose thread has exited and has not
been joined it takes as free, and it clears `thread_exited` and `thread_joined` before it knows
whether `pthread_create` succeeds. A new thread then takes the handle of the one still to be joined,
and a failed creation leaves flags under which a join waits for ever. When every start finds the
flags of a tasker without an unjoined thread, they describe the last thread created, and the
property holds. -/

namespace Dttasker

open Posix

/-! ## The property and the condition -/

/-- The steps of `dttasker_join` after its first critical section, for a thread that has exited. -/
def joinRest : List Event := [.poll false, .recheck, .pthreadJoin none, .mark]

/-- No thread is abandoned: a thread has been created only after all earlier ones were joined; a
    start that failed has left the flags as it found them; and a join with an unlimited timeout
    joins a thread that has exited and is not yet joined, whether it is called now or is already in
    its loop. -/
structure NoneAbandoned (DTTIMEOUT_FOREVER DTTIMEOUT_NOWAIT : Int32) (s : State) : Prop where
  earlier : ∀ n, n + 1 < s.created → n ∈ s.joined
  failed : ∀ n before after dterr,
    Happening.startReturned n before after (some dterr) ∈ s.log → after = before
  joins : ∀ n, s.threads n = .exited → n ∉ s.joined → s.caller = .idle → ∀ wasTimeout,
    ∃ s', Run.exec (step DTTIMEOUT_FOREVER DTTIMEOUT_NOWAIT) s
      (.join DTTIMEOUT_FOREVER wasTimeout :: joinRest) = some s' ∧ n ∈ s'.joined
  joining : ∀ n wasTimeout, s.threads n = .exited → n ∉ s.joined →
    s.caller = .polling DTTIMEOUT_FOREVER wasTimeout →
    ∃ s', Run.exec (step DTTIMEOUT_FOREVER DTTIMEOUT_NOWAIT) s joinRest = some s' ∧ n ∈ s'.joined

/-- The controlling thread is not about to call `pthread_create`, or `P` holds of the flags that
    start has found. -/
def Caller.Creates (P : Flags → Prop) : Caller → Prop
  | .creating before => P before
  | _ => True

instance Caller.Creates.decidable (P : Flags → Prop) [DecidablePred P] (c : Caller) :
    Decidable (c.Creates P) :=
  match c with
  | .creating before => inferInstanceAs (Decidable (P before))
  | .idle | .created _ _ | .waiting _ _ | .polling _ _ | .rechecking _ | .reaping _ _
  | .marking _ => instDecidableTrue

/-- `pthread_create` succeeds only in a start that has found `thread_created` clear, and fails only
    in one that has found `thread_exited` and `thread_joined` clear. -/
def StartsFree (s : State) : Event → Prop
  | .pthreadCreate none _ => s.caller.Creates fun before => before.threadCreated = false
  | .pthreadCreate (some _) _ =>
    s.caller.Creates fun before => before.threadExited = false ∧ before.threadJoined = false
  | _ => True

instance StartsFree.decidable (s : State) (e : Event) : Decidable (StartsFree s e) :=
  match e with
  | .pthreadCreate none _ =>
    inferInstanceAs (Decidable (s.caller.Creates fun before => before.threadCreated = false))
  | .pthreadCreate (some _) _ =>
    inferInstanceAs (Decidable
      (s.caller.Creates fun before => before.threadExited = false ∧ before.threadJoined = false))
  | .start _ _ | .semWait _ _ | .semWake _ | .stop | .join _ _ | .poll _ | .recheck
  | .pthreadJoin _ | .mark | .ready _ _ | .entryReturns _ _ _ | .once _ | .post _ _ | .exit _ =>
    instDecidableTrue

/-! ## The invariant -/

/-- The flags and the handle describe the last thread created: it is unjoined while `thread_created`
    is set, and all threads are joined while it is clear. -/
structure Described (s : State) : Prop where
  earlier : ∀ n, n + 1 < s.created → n ∈ s.joined
  failed : ∀ n before after dterr,
    Happening.startReturned n before after (some dterr) ∈ s.log → after = before
  joined : ∀ n ∈ s.joined, n < s.created
  some_created : s.self.threadCreated = true → ∃ n, n + 1 = s.created
  handle : ∀ n, n + 1 = s.created → s.self.threadCreated = true →
    s.self.thread = some n ∧ s.self.threadJoined = false
  unjoined : ∀ n, n + 1 = s.created → s.self.threadCreated = true → n ∈ s.joined →
    ∃ wt, s.caller = .marking wt
  marking : ∀ n wt, n + 1 = s.created → s.caller = .marking wt → n ∈ s.joined
  all_joined : s.self.threadCreated = false → ∀ n, n < s.created → n ∈ s.joined
  exited : ∀ n, n + 1 = s.created → s.self.threadCreated = true → s.threads n = .exited →
    s.self.threadExited = true ∨ ∃ before, s.caller = .creating before
  creating : ∀ before, s.caller = .creating before →
    before.threadCreated = s.self.threadCreated ∧ s.self.threadJoined = false ∧
      (s.self.threadCreated = true → before.threadExited = true)
  reaping : ∀ thread wt, s.caller = .reaping thread wt →
    s.self.threadCreated = true ∧ thread = s.self.thread

theorem described_initial (PTHREAD_STACK_MIN : Int32) (config : Config) :
    Described (State.initial (created PTHREAD_STACK_MIN config)) where
  earlier n h := absurd h (Nat.not_lt_zero _)
  failed n before after dterr h := absurd h (by simp [State.initial])
  joined n h := absurd h (by simp [State.initial])
  some_created h := absurd h (by simp [State.initial, Dttasker.created])
  handle n h := absurd h (by simp [State.initial])
  unjoined n h := absurd h (by simp [State.initial])
  marking n wt h := absurd h (by simp [State.initial])
  all_joined _ n h := absurd h (Nat.not_lt_zero n)
  exited n h := absurd h (by simp [State.initial])
  creating b h := absurd h (by simp [State.initial])
  reaping th wt h := absurd h (by simp [State.initial])

/-! ## A join with an unlimited timeout -/

section Joins

variable {DTTIMEOUT_FOREVER DTTIMEOUT_NOWAIT : Int32} {s : State}

/-- The rest of a join, in front of a thread that has exited. -/
theorem exec_joinRest {n : ℕ} {timeoutMillis : Int32} {wasTimeout : Option Bool}
    (hcaller : s.caller = .polling timeoutMillis wasTimeout)
    (hcreated : s.self.threadCreated = true) (hjoined : s.self.threadJoined = false)
    (hexited : s.self.threadExited = true) (hthread : s.self.thread = some n)
    (hn : s.threads n = .exited) (hnot : n ∉ s.joined) :
    ∃ s', Run.exec (step DTTIMEOUT_FOREVER DTTIMEOUT_NOWAIT) s joinRest = some s' ∧
      n ∈ s'.joined := by
  have hpoll : step DTTIMEOUT_FOREVER DTTIMEOUT_NOWAIT s (.poll false)
      = some { s with caller := .rechecking wasTimeout } := by
    simp [step, hcaller, hexited]
  have hrecheck : step DTTIMEOUT_FOREVER DTTIMEOUT_NOWAIT
      { s with caller := .rechecking wasTimeout } .recheck
      = some { s with caller := .reaping (some n) wasTimeout } := by
    simp [step, hjoined, hcreated, hthread]
  have hjoin : step DTTIMEOUT_FOREVER DTTIMEOUT_NOWAIT
      { s with caller := .reaping (some n) wasTimeout } (.pthreadJoin none)
      = some { s with caller := .marking wasTimeout, joined := n :: s.joined } := by
    simp [step, hn, hnot]
  have hrun : Run.exec (step DTTIMEOUT_FOREVER DTTIMEOUT_NOWAIT) s joinRest
      = step DTTIMEOUT_FOREVER DTTIMEOUT_NOWAIT
          { s with caller := .marking wasTimeout, joined := n :: s.joined } .mark := by
    rw [joinRest, Run.exec_cons, hpoll, Option.bind_some, Run.exec_cons, hrecheck,
      Option.bind_some, Run.exec_cons, hjoin]
    rfl
  exact ⟨_, hrun, List.mem_cons_self⟩

/-- With the flags describing the last thread, a thread that is exited and unjoined is that one, and
    a join finds it. -/
theorem Described.noneAbandoned (h : Described s) (hlife : Life s) :
    NoneAbandoned DTTIMEOUT_FOREVER DTTIMEOUT_NOWAIT s := by
  have hlast : ∀ n, s.threads n = .exited → n ∉ s.joined →
      (∀ before, s.caller ≠ .creating before) →
      s.self.threadCreated = true ∧ s.self.threadJoined = false ∧ s.self.threadExited = true ∧
        s.self.thread = some n := by
    intro n hn hnot hcaller
    have hlt : n < s.created := by
      by_contra hge
      rw [hlife.absent n (Nat.le_of_not_lt hge)] at hn
      exact absurd hn (by simp)
    have hnum : n + 1 = s.created := by
      by_contra hne
      exact hnot (h.earlier n (by omega))
    have hcreated : s.self.threadCreated = true := by
      by_contra hclear
      exact hnot (h.all_joined (by simpa using hclear) n hlt)
    obtain ⟨hthread, hjoined⟩ := h.handle n hnum hcreated
    rcases h.exited n hnum hcreated hn with hexited | ⟨before, hb⟩
    · exact ⟨hcreated, hjoined, hexited, hthread⟩
    · exact absurd hb (hcaller before)
  refine ⟨h.earlier, h.failed, fun n hn hnot hcaller wasTimeout => ?_,
    fun n wasTimeout hn hnot hcaller => ?_⟩
  · obtain ⟨hcreated, hjoined, hexited, hthread⟩ := hlast n hn hnot (by simp [hcaller])
    have hjoin : step DTTIMEOUT_FOREVER DTTIMEOUT_NOWAIT s (.join DTTIMEOUT_FOREVER wasTimeout)
        = some { s with
            caller := .polling DTTIMEOUT_FOREVER (wasTimeout.map fun _ => false) } := by
      simp [step, hcaller, hcreated, hjoined]
    rw [Run.exec_cons, hjoin]
    exact exec_joinRest rfl hcreated hjoined hexited hthread hn hnot
  · obtain ⟨hcreated, hjoined, hexited, hthread⟩ := hlast n hn hnot (by simp [hcaller])
    exact exec_joinRest hcaller hcreated hjoined hexited hthread hn hnot

end Joins

/-! ## One step -/

/-- A step of a thread that does not exit, or one that changes nothing but the info or the stop
    request. -/
theorem Described.moveThread {s s' : State} (h : Described s)
    (hthreads : ∀ n, s'.threads n = .exited → s.threads n = .exited)
    (hlog : ∀ n before after dterr,
      Happening.startReturned n before after (some dterr) ∈ s'.log →
        Happening.startReturned n before after (some dterr) ∈ s.log)
    (hflags : s'.self.flags = s.self.flags := by rfl)
    (hthread : s'.self.thread = s.self.thread := by rfl) (hcaller : s'.caller = s.caller := by rfl)
    (hnum : s'.created = s.created := by rfl) (hjoined : s'.joined = s.joined := by rfl) :
    Described s' := by
  obtain ⟨hcreated, hexited, hjoin⟩ := Flags.mk.inj hflags
  constructor
  · rw [hnum, hjoined]
    exact h.earlier
  · exact fun n b a d hmem => h.failed n b a d (hlog n b a d hmem)
  · rw [hnum, hjoined]
    exact h.joined
  · rw [hnum, hcreated]
    exact h.some_created
  · rw [hnum, hcreated, hthread, hjoin]
    exact h.handle
  · rw [hnum, hcreated, hjoined, hcaller]
    exact h.unjoined
  · rw [hnum, hjoined, hcaller]
    exact h.marking
  · rw [hnum, hjoined, hcreated]
    exact h.all_joined
  · rw [hnum, hcreated, hcaller, hexited]
    exact fun n hn hc hex => h.exited n hn hc (hthreads n hex)
  · rw [hcaller, hcreated, hjoin]
    exact h.creating
  · rw [hcaller, hcreated, hthread]
    exact h.reaping

/-- A step of the controlling thread that leaves the flags and the threads alone. -/
theorem Described.moveCaller {s s' : State} (h : Described s)
    (hmarking : ∀ wt, s.caller ≠ .marking wt) (hcreating : ∀ before, s.caller ≠ .creating before)
    (hmarking' : ∀ wt, s'.caller ≠ .marking wt)
    (hcreating' : ∀ before, s'.caller ≠ .creating before)
    (hreaping : ∀ thread wt, s'.caller = .reaping thread wt →
      s.self.threadCreated = true ∧ thread = s.self.thread)
    (hlog : ∀ n before after dterr,
      Happening.startReturned n before after (some dterr) ∈ s'.log →
        Happening.startReturned n before after (some dterr) ∈ s.log ∨ after = before)
    (hflags : s'.self.flags = s.self.flags := by rfl)
    (hthread : s'.self.thread = s.self.thread := by rfl)
    (hthreads : s'.threads = s.threads := by rfl)
    (hnum : s'.created = s.created := by rfl) (hjoined : s'.joined = s.joined := by rfl) :
    Described s' := by
  obtain ⟨hcreated, hexited, hjoin⟩ := Flags.mk.inj hflags
  constructor
  · rw [hnum, hjoined]
    exact h.earlier
  · intro n b a d hmem
    rcases hlog n b a d hmem with hold | heq
    · exact h.failed n b a d hold
    · exact heq
  · rw [hnum, hjoined]
    exact h.joined
  · rw [hnum, hcreated]
    exact h.some_created
  · rw [hnum, hcreated, hthread, hjoin]
    exact h.handle
  · rw [hnum, hcreated, hjoined]
    intro n hn hc hmem
    obtain ⟨wt, hwt⟩ := h.unjoined n hn hc hmem
    exact absurd hwt (hmarking wt)
  · exact fun n wt _ hc => absurd hc (hmarking' wt)
  · rw [hnum, hjoined, hcreated]
    exact h.all_joined
  · rw [hnum, hcreated, hexited, hthreads]
    intro n hn hc hex
    rcases h.exited n hn hc hex with hex | ⟨before, hb⟩
    · exact Or.inl hex
    · exact absurd hb (hcreating before)
  · exact fun before hc => absurd hc (hcreating' before)
  · rw [hcreated, hthread]
    exact hreaping

theorem Caller.InStart.ne_marking {c : Caller} {n : ℕ} {b : Flags} (h : c.InStart n b)
    (wt : Option Bool) : c ≠ .marking wt := by
  rcases h with rfl | rfl <;> simp

theorem Caller.InStart.ne_creating {c : Caller} {n : ℕ} {b : Flags} (h : c.InStart n b)
    (before : Flags) : c ≠ .creating before := by
  rcases h with rfl | rfl <;> simp

theorem Caller.MayLeaveJoin.ne_marking {c : Caller} (h : c.MayLeaveJoin) (wt : Option Bool) :
    c ≠ .marking wt := by
  rintro rfl
  exact h

theorem Caller.MayLeaveJoin.ne_creating {c : Caller} (h : c.MayLeaveJoin) (before : Flags) :
    c ≠ .creating before := by
  rintro rfl
  exact h

theorem Described.startPrepared {s s' : State} (h : Described s) (hcaller : s.caller = .idle)
    (hguard : s.self.threadCreated = true → s.self.threadExited = true)
    (hcaller' : s'.caller = .creating s.self.flags := by rfl)
    (hcreated : s'.self.threadCreated = s.self.threadCreated := by rfl)
    (hjoined' : s'.self.threadJoined = false := by rfl)
    (hthread : s'.self.thread = s.self.thread := by rfl) (hnum : s'.created = s.created := by rfl)
    (hjoined : s'.joined = s.joined := by rfl) (hlog : s'.log = .reset :: s.log := by rfl) :
    Described s' := by
  constructor
  · rw [hnum, hjoined]
    exact h.earlier
  · rw [hlog]
    intro n b a d hmem
    exact h.failed n b a d (by simpa using hmem)
  · rw [hnum, hjoined]
    exact h.joined
  · rw [hnum, hcreated]
    exact h.some_created
  · rw [hnum, hcreated, hthread, hjoined']
    exact fun n hn hc => ⟨(h.handle n hn hc).1, rfl⟩
  · rw [hnum, hcreated, hjoined]
    intro n hn hc hmem
    obtain ⟨wt, hwt⟩ := h.unjoined n hn hc hmem
    rw [hcaller] at hwt
    exact absurd hwt (by simp)
  · rw [hcaller']
    exact fun n wt _ hc => absurd hc (by simp)
  · rw [hnum, hjoined, hcreated]
    exact h.all_joined
  · exact fun _ _ _ _ => Or.inr ⟨_, hcaller'⟩
  · rw [hcaller', hcreated]
    intro before hb
    obtain rfl := Caller.creating.inj hb
    exact ⟨rfl, hjoined', hguard⟩
  · rw [hcaller']
    exact fun thread wt hc => absurd hc (by simp)

/-- A start that found the flags of no thread fails and leaves them so. -/
theorem Described.createFailed {s s' : State} (h : Described s) (hlife : Life s)
    {before : Flags} (hcaller : s.caller = .creating before)
    (hfree : before.threadExited = false ∧ before.threadJoined = false) {dterr : Dterr}
    (hlog : s'.log = .startReturned none before s.self.flags (some dterr) :: s.log)
    (hcaller' : s'.caller = .idle := by rfl) (hflags : s'.self.flags = s.self.flags := by rfl)
    (hnum : s'.created = s.created := by rfl) (hjoined : s'.joined = s.joined := by rfl) :
    Described s' := by
  obtain ⟨hcreated, -, -⟩ := Flags.mk.inj hflags
  obtain ⟨hsame, hclear, hguard⟩ := h.creating before hcaller
  -- the tasker has no unjoined thread: the start would have found `thread_exited` set
  have hnone : s.self.threadCreated = false := by
    rw [← Bool.not_eq_true]
    intro hc
    rw [hguard hc] at hfree
    exact absurd hfree.1 (by simp)
  have hsame' : s.self.flags = before := by
    have hexited := hlife.creating before hcaller
    obtain ⟨c, x, j⟩ := before
    obtain ⟨rfl, rfl⟩ := hfree
    dsimp only at hsame
    rw [Tasker.flags, hsame, hexited, hclear]
  have hclear' : ¬s'.self.threadCreated = true := by
    rw [hcreated, hnone]
    exact Bool.false_ne_true
  constructor
  · rw [hnum, hjoined]
    exact h.earlier
  · rw [hlog]
    intro n b a d hmem
    rcases List.mem_cons.1 hmem with heq | hmem
    · obtain ⟨-, rfl, rfl, -⟩ := Happening.startReturned.inj heq
      exact hsame'
    · exact h.failed n b a d hmem
  · rw [hnum, hjoined]
    exact h.joined
  · exact fun hc => absurd hc hclear'
  · exact fun _ _ hc => absurd hc hclear'
  · exact fun _ _ hc => absurd hc hclear'
  · rw [hcaller']
    exact fun n wt _ hc => absurd hc (by simp)
  · rw [hnum, hjoined]
    exact fun _ => h.all_joined hnone
  · exact fun _ _ hc => absurd hc hclear'
  · rw [hcaller']
    exact fun before hc => absurd hc (by simp)
  · rw [hcaller']
    exact fun thread wt hc => absurd hc (by simp)

/-- A start that found no unjoined thread creates one, and the flags describe it. -/
theorem Described.createdThread {s s' : State} (h : Described s) {before : Flags}
    (hcaller : s.caller = .creating before) (hfree : before.threadCreated = false)
    (hcaller' : s'.caller = .created s.created before := by rfl)
    (hjoined' : s'.self.threadJoined = s.self.threadJoined := by rfl)
    (hthread : s'.self.thread = some s.created := by rfl)
    (hthreads : s'.threads = (s.setThread s.created .entry).threads := by rfl)
    (hcreated : s'.self.threadCreated = true := by rfl)
    (hnum : s'.created = s.created + 1 := by rfl) (hjoined : s'.joined = s.joined := by rfl)
    (hlog : s'.log = .created s.created :: s.log := by rfl) : Described s' := by
  obtain ⟨hsame, hclear, -⟩ := h.creating before hcaller
  have hall := h.all_joined (hsame ▸ hfree)
  have hlast : ∀ n, n + 1 = s'.created → n = s.created := by
    intro n hn
    rw [hnum] at hn
    exact Nat.succ.inj hn
  constructor
  · rw [hnum, hjoined]
    exact fun n hn => hall n (Nat.lt_of_succ_lt_succ hn)
  · rw [hlog]
    exact fun n b a d hmem => h.failed n b a d (by simpa using hmem)
  · rw [hnum, hjoined]
    exact fun n hn => Nat.lt_succ_of_lt (h.joined n hn)
  · exact fun _ => ⟨s.created, hnum.symm⟩
  · intro n hn _
    rw [hlast n hn]
    exact ⟨hthread, hjoined'.trans hclear⟩
  · intro n hn _ hmem
    rw [hlast n hn, hjoined] at hmem
    exact absurd (h.joined _ hmem) (Nat.lt_irrefl _)
  · rw [hcaller']
    exact fun n wt _ hc => absurd hc (by simp)
  · rw [hcreated]
    exact fun hc => absurd hc (by simp)
  · intro n hn _ hex
    rw [hlast n hn, hthreads, setThread_self] at hex
    exact absurd hex (by simp)
  · rw [hcaller']
    exact fun before hc => absurd hc (by simp)
  · rw [hcaller']
    exact fun thread wt hc => absurd hc (by simp)

/-- `pthread_join` returns: the handle was that of the last thread. -/
theorem Described.reaped {s : State} (h : Described s) {n : ℕ} {wasTimeout : Option Bool}
    (hcaller : s.caller = .reaping (some n) wasTimeout) :
    Described { s with caller := .marking wasTimeout, joined := n :: s.joined } := by
  obtain ⟨hcreated, hthread⟩ := h.reaping (some n) wasTimeout hcaller
  obtain ⟨last, hlast⟩ := h.some_created hcreated
  have heq : n = last := by
    have hhandle := (h.handle last hlast hcreated).1
    rw [hhandle] at hthread
    exact Option.some.inj hthread
  subst heq
  constructor
  · exact fun m hm => List.mem_cons_of_mem _ (h.earlier m hm)
  · exact h.failed
  · intro m hm
    rcases List.mem_cons.1 hm with rfl | hm
    · exact Nat.lt_of_succ_le (Nat.le_of_eq hlast)
    · exact h.joined m hm
  · exact h.some_created
  · exact h.handle
  · exact fun _ _ _ _ => ⟨wasTimeout, rfl⟩
  · intro m wt hm _
    have hmn : m = n := Nat.succ.inj (hm.trans hlast.symm)
    rw [hmn]
    exact List.mem_cons_self
  · exact fun hc => absurd (hcreated.symm.trans hc) (by simp)
  · intro m hm hc hex
    rcases h.exited m hm hc hex with hex | ⟨before, hb⟩
    · exact Or.inl hex
    · rw [hcaller] at hb
      exact absurd hb (by simp)
  · exact fun before hc => absurd hc (by simp)
  · exact fun thread wt hc => absurd hc (by simp)

/-- The join records that the last thread has been joined. -/
theorem Described.marked {s : State} (h : Described s) {wasTimeout : Option Bool}
    (hcaller : s.caller = .marking wasTimeout) {self : Tasker}
    (hcreated : self.threadCreated = false) (dterr : Option Dterr) :
    Described ({ s with self := self }.joinReturns dterr wasTimeout) := by
  have hclear : ¬self.threadCreated = true := by
    rw [hcreated]
    exact Bool.false_ne_true
  constructor
  · exact h.earlier
  · exact fun n b a d hmem => h.failed n b a d (by simpa [State.joinReturns] using hmem)
  · exact h.joined
  · exact fun hc => absurd hc hclear
  · exact fun _ _ hc => absurd hc hclear
  · exact fun _ _ hc => absurd hc hclear
  · exact fun n wt _ hc => absurd hc (by simp [State.joinReturns])
  · intro _ n hn
    -- the last thread has just been joined, the earlier ones were
    replace hn : n < s.created := hn
    by_cases hlast : n + 1 = s.created
    · exact h.marking n wasTimeout hlast hcaller
    · exact h.earlier n (by omega)
  · exact fun _ _ hc => absurd hc hclear
  · exact fun before hc => absurd hc (by simp [State.joinReturns])
  · exact fun thread wt hc => absurd hc (by simp [State.joinReturns])

/-- **Step lemma.** A step taken by a start that is free to take it, or by no start, leaves the
    flags describing the last thread. -/
theorem Described.effect {s s' : State} {e : Event} (h : Described s) (hlife : Life s)
    (hok : SemaphoreCallsSucceed s e) (hfree : StartsFree s e) (heff : Effect s e s') :
    Described s' := by
  cases heff with
  | startRefused _ _ dterr hcaller =>
      refine h.moveCaller (by simp [hcaller]) (by simp [hcaller])
        (by simp [State.startReturns]) (by simp [State.startReturns])
        (by simp [State.startReturns]) fun n b a d hmem => ?_
      rcases List.mem_cons.1 hmem with heq | hmem
      · obtain ⟨-, rfl, rfl, -⟩ := Happening.startReturned.inj heq
        exact Or.inr rfl
      · exact Or.inl hmem
  | startPrepared _ _ hcaller hguard =>
      exact h.startPrepared hcaller hguard
  | createFailed before dterr thread hcaller =>
      have hclear : before.threadExited = false ∧ before.threadJoined = false := by
        rw [StartsFree, hcaller] at hfree
        exact hfree
      exact h.createFailed hlife hcaller hclear rfl
  | createdThread before thread hcaller =>
      have hclear : before.threadCreated = false := by
        rw [StartsFree, hcaller] at hfree
        exact hfree
      exact h.createdThread hcaller hclear
  | sleeps e n before hcaller =>
      exact h.moveCaller hcaller.ne_marking hcaller.ne_creating (by simp)
        (by simp) (by simp) fun _ _ _ _ hmem => Or.inl hmem
  | taken e n before hcaller hcount =>
      exact h.moveCaller hcaller.ne_marking hcaller.ne_creating
        (by simp [State.startReturns]) (by simp [State.startReturns])
        (by simp [State.startReturns])
        fun n b a d hmem => Or.inl (by simpa [State.startReturns] using hmem)
  | waitFailed e n before dterr hcaller hrc => exact absurd hok hrc
  | stops hcaller =>
      exact h.moveThread (fun _ hn => hn) fun _ _ _ _ hmem => hmem
  | joinEnters ms arg wt hcaller hcreated hjoined =>
      exact h.moveCaller (by simp [hcaller]) (by simp [hcaller]) (by simp)
        (by simp) (by simp) fun _ _ _ _ hmem => Or.inl hmem
  | polls expired ms wt hcaller hexited =>
      exact h.moveCaller (by simp [hcaller]) (by simp [hcaller]) (by simp)
        (by simp) (by simp) fun _ _ _ _ hmem => Or.inl hmem
  | pollsAgain expired => exact h
  | rechecked wt hcaller hcreated =>
      refine h.moveCaller (by simp [hcaller]) (by simp [hcaller]) (by simp)
        (by simp) (fun thread wt' hc => ?_) fun _ _ _ _ hmem => Or.inl hmem
      obtain ⟨rfl, -⟩ := Caller.reaping.inj hc
      exact ⟨hcreated, rfl⟩
  | reaped n wt hcaller hexited hnot => exact h.reaped hcaller
  | marked wt hcaller => exact h.marked hcaller rfl none
  | joinReturned e dterr wt hcaller =>
      exact h.moveCaller hcaller.ne_marking hcaller.ne_creating
        (by simp [State.joinReturns]) (by simp [State.joinReturns]) (by simp [State.joinReturns])
        fun n b a d hmem => Or.inl (by simpa [State.joinReturns] using hmem)
  | readyFailed n callback info hthread =>
      exact h.moveThread (fun _ hn => hn) fun _ _ _ _ hmem => hmem
  | readied n callback info hthread =>
      exact h.moveThread (fun _ hn => exited_of_setThread (by simp) hn)
        fun _ _ _ _ hmem => by simpa using hmem
  | finished n arg callback dterr info hthread =>
      refine h.moveThread (fun _ hn => exited_of_setThread ?_ hn)
        fun _ _ _ _ hmem => by simpa using hmem
      cases dterr <;> simp
  | onceFirst n th hthread hflag =>
      have hne := (afterOnce_alive hthread).2.2
      exact h.moveThread (fun _ hn => exited_of_setThread hne hn)
        fun _ _ _ _ hmem => hmem
  | onceAgain n th hthread hflag =>
      have hne := (afterOnce_alive hthread).2.2
      exact h.moveThread (fun _ hn => exited_of_setThread hne hn)
        fun _ _ _ _ hmem => hmem
  | posted n lockRc th hthread hlt =>
      have hne := (afterPost_alive hthread).2.2
      exact h.moveThread (fun _ hn => exited_of_setThread hne hn)
        fun _ _ _ _ hmem => by simpa using hmem
  | postFailed n lockRc th hthread hfail =>
      have hne := (afterPost_alive hthread).2.2
      exact h.moveThread (fun _ hn => exited_of_setThread hne hn)
        fun _ _ _ _ hmem => hmem
  | exits n hthread =>
      exact ⟨h.earlier, h.failed, h.joined, h.some_created, h.handle, h.unjoined, h.marking,
        h.all_joined, fun _ _ _ _ => Or.inl rfl, h.creating, h.reaping⟩

/-- A step after which no thread is abandoned was taken by a start that was free to take it. -/
theorem startsFree_of_noneAbandoned {DTTIMEOUT_FOREVER DTTIMEOUT_NOWAIT : Int32} {s s' : State}
    {e : Event} (h : Described s) (hlife : Life s)
    (hstep : step DTTIMEOUT_FOREVER DTTIMEOUT_NOWAIT s e = some s')
    (h' : NoneAbandoned DTTIMEOUT_FOREVER DTTIMEOUT_NOWAIT s') : StartsFree s e := by
  cases e with
  | pthreadCreate dterr thread =>
      unfold step at hstep
      dsimp only at hstep
      split at hstep
      · next before hcaller =>
          obtain ⟨hsame, hclear, -⟩ := h.creating before hcaller
          cases dterr with
          | some dterr =>
              obtain rfl := Option.some.inj hstep
              -- the flags it leaves are clear, so those it found were
              have hflags := h'.failed none before _ dterr List.mem_cons_self
              rw [StartsFree, hcaller]
              show before.threadExited = false ∧ before.threadJoined = false
              rw [← hflags]
              exact ⟨hlife.creating before hcaller, hclear⟩
          | none =>
              obtain rfl := Option.some.inj hstep
              rw [StartsFree, hcaller]
              show before.threadCreated = false
              rw [← Bool.not_eq_true, hsame]
              intro hcreated
              -- the last thread was not joined when the new one was created
              obtain ⟨n, hn⟩ := h.some_created hcreated
              have hmem := h'.earlier n (by rw [hn]; exact Nat.lt_succ_self _)
              obtain ⟨wt, hwt⟩ := h.unjoined n hn hcreated hmem
              rw [hcaller] at hwt
              exact absurd hwt (by simp)
      · exact absurd hstep (by simp)
  | _ => trivial

/-! ## Whole runs -/

/-- **When no thread is abandoned, exactly.** As long as the pthread calls of the ready semaphore
    succeed, in every state of a run every thread has been created only after all earlier ones were
    joined, every failed start has left `thread_created`, `thread_exited` and `thread_joined` as it
    found them, and a join with an unlimited timeout joins a thread that has exited, exactly when
    every start of the run whose `pthread_create` succeeds has found `thread_created` clear, and
    every one whose `pthread_create` fails has found `thread_exited` and `thread_joined` clear. -/
theorem none_abandoned_exact (DTTIMEOUT_FOREVER DTTIMEOUT_NOWAIT PTHREAD_STACK_MIN : Int32)
    (config : Config) (events : List Event)
    (hok : Run.AllSteps (step DTTIMEOUT_FOREVER DTTIMEOUT_NOWAIT) SemaphoreCallsSucceed
      (.initial (created PTHREAD_STACK_MIN config)) events) :
    Run.AllStates (step DTTIMEOUT_FOREVER DTTIMEOUT_NOWAIT)
      (NoneAbandoned DTTIMEOUT_FOREVER DTTIMEOUT_NOWAIT)
      (.initial (created PTHREAD_STACK_MIN config)) events ↔
    Run.AllSteps (step DTTIMEOUT_FOREVER DTTIMEOUT_NOWAIT) StartsFree
      (.initial (created PTHREAD_STACK_MIN config)) events := by
  have hlife := life_initial (created PTHREAD_STACK_MIN config)
  have hinit := described_initial PTHREAD_STACK_MIN config
  refine Run.allStates_iff_allSteps_of_allSteps (I := fun s => Life s ∧ Described s) ?_ ?_ ?_
    events _ ⟨hlife, hinit⟩ (hinit.noneAbandoned hlife) hok
  · rintro s e s' ⟨hl, hd⟩ - hC hstep h'
    have hfree := startsFree_of_noneAbandoned hd hl hstep h'
    exact ⟨hl.effect (step_effect hstep), hd.effect hl hC hfree (step_effect hstep)⟩
  · rintro s e s' ⟨hl, hd⟩ - hC hstep
    constructor
    · exact startsFree_of_noneAbandoned hd hl hstep
    · intro hfree
      have heff := step_effect hstep
      exact (hd.effect hl hC hfree heff).noneAbandoned (hl.effect heff)
  · rintro s e ⟨hl, hd⟩ - hstep
    cases e with
    | pthreadCreate dterr thread =>
        -- a start about to call `pthread_create` is never blocked
        cases hcaller : s.caller with
        | creating before => cases dterr <;> simp [step, hcaller] at hstep
        | _ => cases dterr <;> simp [StartsFree, hcaller, Caller.Creates]
    | _ => trivial

/-- The run of two starts with a join in between meets the condition. -/
theorem none_abandoned_exact_restartRun :
    Run.AllStates (step (-1) 0) (NoneAbandoned (-1) 0) (.initial (created 16384 plainConfig))
      restartRun :=
  (none_abandoned_exact (-1) 0 16384 plainConfig restartRun (by decide)).2 (by decide)

/-- A thread gets ready, returns `NULL` and exits. -/
def exitedRun : List Event :=
  [.start none none, .pthreadCreate none none, .ready 0 none, .once 0, .post 0 0,
    .semWait 0 ⟨5, 0⟩, .entryReturns 0 none none, .exit 0]

/-- Started again without a join, the tasker creates a second thread while the first is unjoined;
    and when the creation fails, the flags say that the first thread is still running, and a join
    with an unlimited timeout polls on. -/
theorem restart_abandons_thread :
    (∃ s, Run.exec (step (-1) 0) (.initial (created 16384 plainConfig))
        (exitedRun ++ [.start none none, .pthreadCreate none none]) = some s ∧
      s.created = 2 ∧ 0 ∉ s.joined) ∧
    ∃ s dterr, Run.exec (step (-1) 0) (.initial (created 16384 plainConfig))
        (exitedRun ++ [.start none none, .pthreadCreate (some (.new .os "EAGAIN")) (some 0),
          .join (-1) none, .poll false]) = some s ∧
      .startReturned none ⟨true, true, false⟩ ⟨true, false, false⟩ (some dterr) ∈ s.log ∧
      s.threads 0 = .exited ∧ 0 ∉ s.joined ∧ s.caller = .polling (-1) none := by
  refine ⟨⟨_, rfl, by decide, by decide⟩, ⟨_, .new .os "EAGAIN", rfl, ?_⟩⟩
  decide

end Dttasker
