import DtmcLinux.Dtbufferqueue.Deadline
import DtmcLinux.Dtsemaphore.Basic

set_option autoImplicit false

/-! # The deadlines of the counting semaphore

As for the buffer queue, whose static function `dtsemaphore_linux.c` has a copy of. -/

namespace Dtsemaphore

open Posix

variable {τ : Type*}

/-! ## The function -/

/-- `add_ms_to_timespec_monotonic` with a check of every result. -/
def addMsToTimespecMonotonicChecked (l : TimeLimits) (ts : Timespec) (ms : Int32) :
    Except TimeOverflow Timespec :=
  Dtbufferqueue.addMsToTimespecMonotonicChecked l ts ms

theorem addMsToTimespecMonotonic_normalized {ts : Timespec} (h : ts.Normalized) (ms : Int32) :
    (addMsToTimespecMonotonic ts ms).Normalized :=
  (Dtbufferqueue.addMsToTimespecMonotonic_spec h ms).1

/-! ## The deadlines of the waits -/

/-- The deadline a sleeping thread waits with. -/
def Activity.deadline : Activity → Option Timespec
  | .idle => none
  | .waiting _ deadline _ => deadline

/-- `clock_gettime` gives a valid time. -/
def Event.ClockValid : Event τ → Prop
  | .post _ _ _ => True
  | .wait _ _ _ _ now => now.Normalized
  | .wake _ _ => True

/-- Every deadline is valid. -/
def State.DeadlinesValid (s : State τ) : Prop :=
  ∀ t deadline, (s.activity t).deadline = some deadline → deadline.Normalized

/-- A critical section of wait that waits has a valid deadline. -/
def WaitEnd.DeadlineValid : WaitEnd → Prop
  | .wait _ deadline _ => ∀ d, deadline = some d → d.Normalized
  | .taken _ _ => True
  | .returned _ _ => True

theorem failed_deadlineValid (dterr : Dterr) (wasTimeout : Option Bool) :
    (failed dterr wasTimeout).DeadlineValid := trivial

theorem timedOut_deadlineValid (wasTimeout : Option Bool) (message : String) :
    (timedOut wasTimeout message).DeadlineValid := by
  cases wasTimeout with
  | none => exact trivial
  | some b => exact trivial

theorem waitLoop_deadlineValid (sem : Semaphore) (timeoutMilliseconds : Int32)
    {deadline : Option Timespec} (wasTimeout : Option Bool)
    (h : ∀ d, deadline = some d → d.Normalized) :
    (waitLoop sem timeoutMilliseconds deadline wasTimeout).DeadlineValid := by
  unfold waitLoop
  split
  · exact h
  · exact trivial

theorem wait_deadlineValid (DTTIMEOUT_FOREVER DTTIMEOUT_NOWAIT : Int32) (sem : Semaphore)
    (timeoutMilliseconds : Int32) (wasTimeout : Option Bool) (lockRc : Rc) {now : Timespec}
    (hnow : now.Normalized) :
    (wait DTTIMEOUT_FOREVER DTTIMEOUT_NOWAIT sem timeoutMilliseconds wasTimeout lockRc
      now).DeadlineValid := by
  unfold wait
  split
  · exact failed_deadlineValid _ _
  · split
    · exact waitLoop_deadlineValid sem _ _ nofun
    · split
      · split
        · exact timedOut_deadlineValid _ _
        · exact trivial
      · refine waitLoop_deadlineValid sem _ _ ?_
        intro d hd
        rw [← Option.some.inj hd]
        exact addMsToTimespecMonotonic_normalized hnow _

theorem waitWake_deadlineValid (sem : Semaphore) (timeoutMilliseconds : Int32)
    {deadline : Option Timespec} (wasTimeout : Option Bool) (err : Rc)
    (h : ∀ d, deadline = some d → d.Normalized) :
    (waitWake sem timeoutMilliseconds deadline wasTimeout err).DeadlineValid := by
  unfold waitWake
  cases deadline with
  | none =>
      dsimp only
      split
      · exact failed_deadlineValid _ _
      · exact waitLoop_deadlineValid sem _ _ h
  | some deadline =>
      dsimp only
      split
      · exact timedOut_deadlineValid _ _
      · split
        · exact failed_deadlineValid _ _
        · exact waitLoop_deadlineValid sem _ _ h

variable [DecidableEq τ]

theorem deadlinesValid_set {s : State τ} (h : s.DeadlinesValid) (t : τ) {a : Activity}
    (ha : ∀ d, a.deadline = some d → d.Normalized) : (s.setActivity t a).DeadlinesValid := by
  intro t' d hd
  change (if t' = t then a else s.activity t').deadline = some d at hd
  split at hd
  · exact ha d hd
  · exact h t' d hd

theorem endWait_deadlinesValid {s : State τ} (hs : s.DeadlinesValid) (t : τ) {r : WaitEnd}
    (hr : r.DeadlineValid) : (s.endWait t r).DeadlinesValid := by
  cases r with
  | wait timeoutMilliseconds deadline wasTimeout => exact deadlinesValid_set hs t hr
  | taken sem wasTimeout => exact deadlinesValid_set hs t nofun
  | returned dterr wasTimeout => exact deadlinesValid_set hs t nofun

theorem endPost_deadlinesValid {s s' : State τ} (hs : s.DeadlinesValid) {t : τ}
    {found : Option UInt32} {pick : Option τ} {r : PostEnd}
    (h : s.endPost t found pick r = some s') : s'.DeadlinesValid := by
  cases r with
  | raised sem =>
      obtain ⟨cv, -, rfl⟩ := Option.map_eq_some_iff.1 h
      exact deadlinesValid_set hs t nofun
  | returned dterr =>
      obtain rfl := Option.some.inj h
      exact deadlinesValid_set hs t nofun

/-- **Step lemma.** A step keeps the deadlines valid. -/
theorem step_deadlinesValid {DTTIMEOUT_FOREVER DTTIMEOUT_NOWAIT : Int32} {s s' : State τ}
    {e : Event τ} (hs : s.DeadlinesValid) (he : e.ClockValid)
    (h : step DTTIMEOUT_FOREVER DTTIMEOUT_NOWAIT s e = some s') : s'.DeadlinesValid := by
  unfold step at h
  cases e with
  | post t lockRc pick =>
      dsimp only at h
      split at h
      · exact endPost_deadlinesValid hs h
      · exact absurd h (by simp)
  | wait t ms wasTimeout lockRc now =>
      dsimp only at h
      split at h
      · obtain rfl := Option.some.inj h
        exact endWait_deadlinesValid hs t (wait_deadlineValid _ _ _ _ _ _ he)
      · exact absurd h (by simp)
  | wake t err =>
      dsimp only at h
      split at h
      · exact absurd h (by simp)
      · next ms deadline wasTimeout hwaiting =>
          obtain rfl := Option.some.inj h
          have hvalid := hs t
          rw [hwaiting] at hvalid
          exact endWait_deadlinesValid (s := { s with cv := s.cv.resume t }) hs t
            (waitWake_deadlineValid _ _ _ _ hvalid)

/-- In every run no timed wait gets an invalid deadline. -/
theorem deadlines_valid (DTTIMEOUT_FOREVER DTTIMEOUT_NOWAIT : Int32) (sem : Semaphore)
    (events : List (Event τ))
    (hclock : Run.AllSteps (step DTTIMEOUT_FOREVER DTTIMEOUT_NOWAIT) (fun _ e => e.ClockValid)
      (State.initial sem : State τ) events) :
    Run.AllStates (step DTTIMEOUT_FOREVER DTTIMEOUT_NOWAIT) State.DeadlinesValid
      (State.initial sem : State τ) events :=
  Run.allStates_of_allSteps (fun _ _ _ hs he h => step_deadlinesValid hs he h) events _
    (fun _ _ hd => nomatch hd) hclock

end Dtsemaphore
