import DtmcLinux.Dtbufferqueue.Deadline
import DtmcLinux.Dtbufferqueue.Refinement

set_option autoImplicit false

/-! # What the returns of the buffer queue tell

A caller learns what a call has done from the error it returns and from `*was_timeout`. A call that
times out returns no error: without a place for `*was_timeout` its return looks like that of a call
that has enqueued or dequeued a buffer. -/

namespace Dtbufferqueue

open Posix

variable {τ β : Type*}

/-! ## The property and the condition -/

/-- A return with neither an error nor a timeout, as the caller sees it. -/
def reportsSuccess (dterr : Option Dterr) (wasTimeout : Option Bool) : Bool :=
  dterr.isNone && wasTimeout != some true

/-- What a return tells that the call has done to the queue, when it tells of no error and of no
    timeout: a put has enqueued its buffer, a get has removed the one it finds in `*buffer`. The inner
    option is `none` for a get that finds none there. -/
def Return.told : Return τ β → Option (Option (Fifo.Op (Option β)))
  | .put _ buffer dterr wasTimeout =>
    if reportsSuccess dterr wasTimeout then some (some (.push buffer)) else none
  | .get _ buffer dterr wasTimeout =>
    if reportsSuccess dterr wasTimeout then some (buffer.map .pop) else none

/-- What the returns tell is, in order, what has happened to the queue. -/
def NothingSilent (s : State τ β) : Prop := s.returns.filterMap Return.told = s.history.map some

/-- The step ends a call by its timeout: a call that does not wait finds the queue full or empty, or
    the timed wait of a sleeping thread times out. -/
def TimesOut (DTTIMEOUT_FOREVER : Int32) (s : State τ β) : Event τ β → Prop
  | .put t buffer timeoutMillis _ lockRc _ _ =>
    s.activity t = .idle ∧ buffer ≠ none ∧ lockRc = 0 ∧ timeoutMillis ≠ DTTIMEOUT_FOREVER ∧
      timeoutMillis = 0 ∧ s.queue.isFull = true
  | .get t bufferPtr timeoutMillis _ lockRc _ _ =>
    s.activity t = .idle ∧ bufferPtr = true ∧ lockRc = 0 ∧ timeoutMillis ≠ DTTIMEOUT_FOREVER ∧
      timeoutMillis = 0 ∧ s.queue.count = 0
  | .wake t rc _ => rc = ETIMEDOUT ∧ (s.activity t).deadline ≠ none

/-- `was_timeout` of a sleeping call. -/
def Activity.wasTimeout : Activity β → Option Bool
  | .idle => none
  | .putting _ _ wasTimeout => wasTimeout
  | .getting _ wasTimeout => wasTimeout

/-- `was_timeout` of the call that takes the step. -/
def Event.wasTimeout (s : State τ β) : Event τ β → Option Bool
  | .put _ _ _ wasTimeout _ _ _ => wasTimeout
  | .get _ _ _ wasTimeout _ _ _ => wasTimeout
  | .wake t _ _ => (s.activity t).wasTimeout

/-- A call that its timeout ends was passed a place for `*was_timeout`. -/
def TimeoutHasPlace (DTTIMEOUT_FOREVER : Int32) (s : State τ β) (e : Event τ β) : Prop :=
  TimesOut DTTIMEOUT_FOREVER s e → e.wasTimeout s ≠ none

/-! ## The critical sections -/

/-- Returns without having done anything, and tells neither of an error nor of a timeout. -/
def PutEnd.isSilent : PutEnd β → Bool
  | .returned dterr wasTimeout => reportsSuccess dterr wasTimeout
  | .wait _ _ _ => false
  | .enqueued _ _ _ => false

def GetEnd.isSilent : GetEnd β → Bool
  | .returned dterr wasTimeout => reportsSuccess dterr wasTimeout
  | .wait _ _ => false
  | .dequeued _ _ _ => false

theorem reportsSuccess_done {wasTimeout : Option Bool} (h : wasTimeout ≠ some true) :
    reportsSuccess none wasTimeout = true := by
  simpa [reportsSuccess] using h

/-- A timeout without a place for it goes unreported. -/
theorem reportsSuccess_timeout (wasTimeout : Option Bool) :
    reportsSuccess none (setTimeout wasTimeout) = true ↔ wasTimeout = none := by
  cases wasTimeout with
  | none => exact ⟨fun _ => rfl, fun _ => rfl⟩
  | some b => exact ⟨nofun, nofun⟩

theorem PutCases.isSilent_iff {DTTIMEOUT_FOREVER timeoutMillis : Int32} {q : Queue β}
    {arg : Option β} {wasTimeout : Option Bool} {lockRc : Rc} {now : Timespec} {r : PutEnd β}
    (h : PutCases DTTIMEOUT_FOREVER q timeoutMillis wasTimeout lockRc now arg r) :
    r.isSilent = true ↔ (arg ≠ none ∧ lockRc = 0 ∧ timeoutMillis ≠ DTTIMEOUT_FOREVER ∧
      timeoutMillis = 0 ∧ q.isFull = true) ∧ wasTimeout = none := by
  cases h with
  | noBuffer dterr => exact ⟨nofun, fun hs => absurd rfl hs.1.1⟩
  | lockFails buffer dterr hlock => exact ⟨nofun, fun hs => absurd hs.1.2.1 hlock⟩
  | refused buffer hlock hforever hzero hfull =>
      refine (reportsSuccess_timeout wasTimeout).trans ⟨fun hnull => ?_, And.right⟩
      exact ⟨⟨Option.some_ne_none buffer, hlock, hforever, hzero, hfull⟩, hnull⟩
  | waits buffer deadline hlock hwait =>
      exact ⟨nofun, fun hs => (hwait.elim hs.1.2.2.1 (absurd hs.1.2.2.2.1)).elim⟩
  | enqueues buffer hlock hroom =>
      exact ⟨nofun, fun hs => absurd (hroom.symm.trans hs.1.2.2.2.2) (by decide)⟩

theorem GetCases.isSilent_iff {DTTIMEOUT_FOREVER timeoutMillis : Int32} {q : Queue β}
    {bufferPtr : Bool} {wasTimeout : Option Bool} {lockRc : Rc} {now : Timespec} {r : GetEnd β}
    (h : GetCases DTTIMEOUT_FOREVER q timeoutMillis wasTimeout lockRc now bufferPtr r) :
    r.isSilent = true ↔ (bufferPtr = true ∧ lockRc = 0 ∧ timeoutMillis ≠ DTTIMEOUT_FOREVER ∧
      timeoutMillis = 0 ∧ q.count = 0) ∧ wasTimeout = none := by
  cases h with
  | noBuffer dterr => exact ⟨nofun, fun hs => absurd hs.1.1 (by decide)⟩
  | lockFails dterr hlock => exact ⟨nofun, fun hs => absurd hs.1.2.1 hlock⟩
  | refused hlock hforever hzero hempty =>
      refine (reportsSuccess_timeout wasTimeout).trans ⟨fun hnull => ?_, And.right⟩
      exact ⟨⟨rfl, hlock, hforever, hzero, hempty⟩, hnull⟩
  | waits deadline hlock hwait =>
      exact ⟨nofun, fun hs => (hwait.elim hs.1.2.2.1 (absurd hs.1.2.2.2.1)).elim⟩
  | dequeues hlock hsome => exact ⟨nofun, fun hs => absurd hs.1.2.2.2.2 hsome⟩

theorem PutWakeCases.isSilent_iff {q : Queue β} {buffer : β} {deadline : Option Timespec}
    {wasTimeout : Option Bool} {rc : Rc} {r : PutEnd β}
    (h : PutWakeCases q buffer deadline wasTimeout rc r) :
    r.isSilent = true ↔ (rc = ETIMEDOUT ∧ deadline ≠ none) ∧ wasTimeout = none := by
  have hzero : (0 : Rc) ≠ ETIMEDOUT := by decide
  cases h with
  | timedOut d hdeadline hrc =>
      refine (reportsSuccess_timeout wasTimeout).trans ⟨fun hnull => ?_, And.right⟩
      exact ⟨⟨hrc, hdeadline ▸ Option.some_ne_none d⟩, hnull⟩
  | waitFails dterr hrc htimeout =>
      exact ⟨nofun, fun hs => (htimeout.elim hs.1.2 (absurd hs.1.1)).elim⟩
  | waits hrc => exact ⟨nofun, fun hs => absurd (hrc.symm.trans hs.1.1) hzero⟩
  | enqueues hrc => exact ⟨nofun, fun hs => absurd (hrc.symm.trans hs.1.1) hzero⟩

theorem GetWakeCases.isSilent_iff {q : Queue β} {deadline : Option Timespec}
    {wasTimeout : Option Bool} {rc : Rc} {r : GetEnd β}
    (h : GetWakeCases q deadline wasTimeout rc r) :
    r.isSilent = true ↔ (rc = ETIMEDOUT ∧ deadline ≠ none) ∧ wasTimeout = none := by
  have hzero : (0 : Rc) ≠ ETIMEDOUT := by decide
  cases h with
  | timedOut d hdeadline hrc =>
      refine (reportsSuccess_timeout wasTimeout).trans ⟨fun hnull => ?_, And.right⟩
      exact ⟨⟨hrc, hdeadline ▸ Option.some_ne_none d⟩, hnull⟩
  | waitFails dterr hrc htimeout =>
      exact ⟨nofun, fun hs => (htimeout.elim hs.1.2 (absurd hs.1.1)).elim⟩
  | waits hrc => exact ⟨nofun, fun hs => absurd (hrc.symm.trans hs.1.1) hzero⟩
  | dequeues hrc => exact ⟨nofun, fun hs => absurd (hrc.symm.trans hs.1.1) hzero⟩

/-! ## One step -/

/-- A return that comes with `ops` tells of `ops`. -/
theorem nothingSilent_iff {s s' : State τ β} (hs : NothingSilent s) (r : Return τ β)
    (ops : List (Fifo.Op (Option β))) (hret : s'.returns = s.returns ++ [r])
    (hhist : s'.history = s.history ++ ops) :
    NothingSilent s' ↔ [r].filterMap Return.told = ops.map some := by
  unfold NothingSilent at hs ⊢
  rw [hret, hhist, List.filterMap_append, List.map_append, hs]
  exact List.append_right_inj _

variable [DecidableEq τ]

/-- A return without an operation tells of none exactly when it does not report success. -/
theorem leave_nothingSilent {s : State τ β} (hs : NothingSilent s) (t : τ) {r : Return τ β}
    {success : Bool} {op : Option (Fifo.Op (Option β))}
    (htold : r.told = if success then some op else none) :
    NothingSilent (s.leave t r) ↔ success = false := by
  have hhistory : (s.leave t r).history = s.history ++ [] := (List.append_nil _).symm
  rw [nothingSilent_iff hs r [] rfl hhistory, List.filterMap_cons, htold]
  cases success with
  | true => exact ⟨nofun, nofun⟩
  | false => exact ⟨fun _ => rfl, fun _ => rfl⟩

theorem endPut_nothingSilent {s s' : State τ β} (hs : NothingSilent s) {t : τ} {arg : Option β}
    {pick : Option τ} {r : PutEnd β} (hr : r.Allowed s.queue arg)
    (h : s.endPut t arg pick r = some s') : NothingSilent s' ↔ r.isSilent = false := by
  cases r with
  | wait buffer deadline wasTimeout =>
      obtain rfl := Option.some.inj h
      exact ⟨fun _ => rfl, fun _ => hs⟩
  | enqueued q' buffer wasTimeout =>
      obtain ⟨-, -, -, hwt⟩ := hr
      obtain ⟨cv, -, rfl⟩ := Option.map_eq_some_iff.1 h
      refine (nothingSilent_iff hs (.put t (some buffer) none wasTimeout) [.push (some buffer)] rfl
        rfl).trans ⟨fun _ => rfl, fun _ => ?_⟩
      have htold : (Return.put t (some buffer) none wasTimeout : Return τ β).told
          = some (some (.push (some buffer))) := if_pos (reportsSuccess_done hwt)
      rw [List.filterMap_cons, htold]
      rfl
  | returned dterr wasTimeout =>
      obtain rfl := Option.some.inj h
      exact leave_nothingSilent hs t rfl

theorem endGet_nothingSilent {s s' : State τ β} (hs : NothingSilent s) {t : τ} {pick : Option τ}
    {r : GetEnd β} (hr : r.Allowed s.queue) (h : s.endGet t pick r = some s') :
    NothingSilent s' ↔ r.isSilent = false := by
  cases r with
  | wait deadline wasTimeout =>
      obtain rfl := Option.some.inj h
      exact ⟨fun _ => rfl, fun _ => hs⟩
  | dequeued q' out wasTimeout =>
      obtain ⟨-, -, -, hwt⟩ := hr
      obtain ⟨cv, -, rfl⟩ := Option.map_eq_some_iff.1 h
      refine (nothingSilent_iff hs (.get t (some out) none wasTimeout) [.pop out] rfl
        rfl).trans ⟨fun _ => rfl, fun _ => ?_⟩
      have htold : (Return.get t (some out) none wasTimeout : Return τ β).told
          = some (some (.pop out)) := if_pos (reportsSuccess_done hwt)
      rw [List.filterMap_cons, htold]
      rfl
  | returned dterr wasTimeout =>
      obtain rfl := Option.some.inj h
      exact leave_nothingSilent hs t rfl

theorem endPut_pending {s s' : State τ β} (hi : ∀ t, (s.activity t).Pending) {t : τ}
    {arg : Option β} {pick : Option τ} {r : PutEnd β} (hr : r.Allowed s.queue arg)
    (h : s.endPut t arg pick r = some s') : ∀ t, (s'.activity t).Pending := by
  cases r with
  | wait buffer deadline wasTimeout =>
      obtain rfl := Option.some.inj h
      exact pending_set hi t hr.2
  | enqueued q' buffer wasTimeout =>
      obtain ⟨cv, -, rfl⟩ := Option.map_eq_some_iff.1 h
      exact pending_set hi t trivial
  | returned dterr wasTimeout =>
      obtain rfl := Option.some.inj h
      exact pending_set hi t trivial

theorem endGet_pending {s s' : State τ β} (hi : ∀ t, (s.activity t).Pending) {t : τ}
    {pick : Option τ} {r : GetEnd β} (hr : r.Allowed s.queue)
    (h : s.endGet t pick r = some s') : ∀ t, (s'.activity t).Pending := by
  cases r with
  | wait deadline wasTimeout =>
      obtain rfl := Option.some.inj h
      exact pending_set hi t hr
  | dequeued q' out wasTimeout =>
      obtain ⟨cv, -, rfl⟩ := Option.map_eq_some_iff.1 h
      exact pending_set hi t trivial
  | returned dterr wasTimeout =>
      obtain rfl := Option.some.inj h
      exact pending_set hi t trivial

/-- Not silent: what would make it silent comes with a place for the report. -/
theorem not_silent_iff {silent : Bool} {timeout : Prop} {wasTimeout : Option Bool}
    (h : silent = true ↔ timeout ∧ wasTimeout = none) :
    silent = false ↔ (timeout → wasTimeout ≠ none) :=
  (Bool.eq_false_iff.trans (not_congr h)).trans not_and

/-- **Step lemma.** No sleeping call has reported a timeout, and a step tells of what it has done
    exactly when a call that its timeout ends has a place for the report. -/
theorem step_nothingSilent {DTTIMEOUT_FOREVER : Int32} {s s' : State τ β} {e : Event τ β}
    (hi : ∀ t, (s.activity t).Pending) (hs : NothingSilent s)
    (h : step DTTIMEOUT_FOREVER s e = some s') :
    (∀ t, (s'.activity t).Pending) ∧ (NothingSilent s' ↔ TimeoutHasPlace DTTIMEOUT_FOREVER s e) := by
  cases step_cases h with
  | put hidle hcases hend =>
      refine ⟨endPut_pending hi hcases.allowed hend, ?_⟩
      refine (endPut_nothingSilent hs hcases.allowed hend).trans ?_
      refine (not_silent_iff hcases.isSilent_iff).trans ?_
      exact ⟨fun hplace htimeout => hplace htimeout.2, fun hplace h => hplace ⟨hidle, h⟩⟩
  | get hidle hcases hend =>
      refine ⟨endGet_pending hi hcases.allowed hend, ?_⟩
      refine (endGet_nothingSilent hs hcases.allowed hend).trans ?_
      refine (not_silent_iff hcases.isSilent_iff).trans ?_
      exact ⟨fun hplace htimeout => hplace htimeout.2, fun hplace h => hplace ⟨hidle, h⟩⟩
  | @putWake t rc pick buffer deadline wasTimeout r hputting hcases hend =>
      have hpending := hi t
      rw [hputting] at hpending
      have hallowed := hcases.allowed hpending
      refine ⟨endPut_pending (s := { s with cvNotFull := s.cvNotFull.resume t }) hi hallowed hend, ?_⟩
      refine (endPut_nothingSilent (s := { s with cvNotFull := s.cvNotFull.resume t }) hs hallowed
        hend).trans ?_
      refine (not_silent_iff hcases.isSilent_iff).trans ?_
      simp only [TimeoutHasPlace, TimesOut, Event.wasTimeout, hputting, Activity.deadline,
        Activity.wasTimeout]
  | @getWake t rc pick deadline wasTimeout r hgetting hcases hend =>
      have hpending := hi t
      rw [hgetting] at hpending
      have hallowed := hcases.allowed hpending
      refine ⟨endGet_pending (s := { s with cvNotEmpty := s.cvNotEmpty.resume t }) hi hallowed hend,
        ?_⟩
      refine (endGet_nothingSilent (s := { s with cvNotEmpty := s.cvNotEmpty.resume t }) hs hallowed
        hend).trans ?_
      refine (not_silent_iff hcases.isSilent_iff).trans ?_
      simp only [TimeoutHasPlace, TimesOut, Event.wasTimeout, hgetting, Activity.deadline,
        Activity.wasTimeout]

/-- A call that its timeout ends is not blocked. -/
theorem timeoutHasPlace_of_blocked {DTTIMEOUT_FOREVER : Int32} {s : State τ β} {e : Event τ β}
    (h : step DTTIMEOUT_FOREVER s e = none) : TimeoutHasPlace DTTIMEOUT_FOREVER s e := by
  rintro htimeout -
  cases e with
  | put t arg timeoutMillis wasTimeout lockRc now pick =>
      obtain ⟨hidle, harg, hlock, hforever, hzero, hfull⟩ := htimeout
      obtain ⟨buffer, rfl⟩ := Option.ne_none_iff_exists'.1 harg
      subst hzero
      simp [step, hidle, put, hlock, hforever, hfull, State.endPut] at h
  | get t bufferPtr timeoutMillis wasTimeout lockRc now pick =>
      obtain ⟨hidle, hbuffer, hlock, hforever, hzero, hempty⟩ := htimeout
      subst hzero
      simp [step, hidle, get, hbuffer, hlock, hforever, hempty, State.endGet] at h
  | wake t rc pick =>
      obtain ⟨rfl, hdeadline⟩ := htimeout
      cases ha : s.activity t with
      | idle => exact hdeadline (by rw [ha]; rfl)
      | putting buffer deadline wasTimeout =>
          obtain ⟨d, rfl⟩ := Option.ne_none_iff_exists'.1 (by rwa [ha] at hdeadline)
          simp [step, ha, putWake, State.endPut] at h
      | getting deadline wasTimeout =>
          obtain ⟨d, rfl⟩ := Option.ne_none_iff_exists'.1 (by rwa [ha] at hdeadline)
          simp [step, ha, getWake, State.endGet] at h

/-! ## Whole runs -/

/-- **No silent outcome.** Whatever the queue is, for any number of threads and any order of their
    critical sections, timeouts and wake-ups of every kind: the returns that tell of neither an error
    nor a timeout are, in order, exactly the buffers enqueued and removed, in every state of a run
    exactly when every call that its timeout ends was passed a place for `*was_timeout`. -/
theorem nothing_silent_iff (DTTIMEOUT_FOREVER : Int32) (q : Queue β) (events : List (Event τ β)) :
    Run.AllStates (step DTTIMEOUT_FOREVER) NothingSilent (State.initial q : State τ β) events ↔
      Run.AllSteps (step DTTIMEOUT_FOREVER) (TimeoutHasPlace DTTIMEOUT_FOREVER)
        (State.initial q : State τ β) events :=
  Run.allStates_iff_allSteps (I := fun s => ∀ t, (s.activity t).Pending)
    (fun _ _ _ hi hs h _ => (step_nothingSilent hi hs h).1)
    (fun _ _ _ hi hs h => (step_nothingSilent hi hs h).2)
    (fun _ _ _ _ h => timeoutHasPlace_of_blocked h) events _ (fun _ => trivial) rfl

/-- A queue for one buffer holds one; a put that does not wait, and has no place for `*was_timeout`,
    returns as if it had enqueued the second. -/
def refusedRun : List (Event ℕ ℕ) :=
  [.put 0 (some 10) 0 none 0 ⟨5, 0⟩ none,
    .put 0 (some 20) 0 none 0 ⟨6, 0⟩ none]

theorem refused_put_silent :
    ¬ Run.AllStates (step (-1)) NothingSilent (State.initial (created 1 true 1) : State ℕ ℕ)
      refusedRun := by
  intro hall
  have hlengths : (Run.exec (step (-1)) (.initial (created 1 true 1)) refusedRun).map
      (fun s => ((s.returns.filterMap Return.told).length, s.history.length)) = some (2, 1) := by
    decide
  obtain ⟨s, hexec, hlen⟩ := Option.map_eq_some_iff.1 hlengths
  obtain ⟨htold, hhistory⟩ := Prod.mk.inj hlen
  have hsilent : NothingSilent s := hall.last hexec
  rw [hsilent, List.length_map, hhistory] at htold
  exact absurd htold (by decide)

end Dtbufferqueue
