import DtmcLinux.Dtbufferqueue.Sections
import DtmcLinux.Posix.Timespec

set_option autoImplicit false

/-! # The deadlines of the buffer queue

`add_ms_to_timespec_monotonic` of `dtbufferqueue_linux.c` with a check of every result against the
limits of its type, and the deadlines that the timed waits of the queue are called with. -/

namespace Dtbufferqueue

open Posix

variable {τ β : Type*}

/-! ## The function -/

/-- `add_ms_to_timespec_monotonic`; a result that does not fit its type is an error. -/
def addMsToTimespecMonotonicChecked (l : TimeLimits) (ts : Timespec) (ms : Int32) :
    Except TimeOverflow Timespec := do
  let tvSec ← l.time (ts.tvSec + ms.toInt.tdiv 1000)
  let rest ← l.long (ms.toInt.tmod 1000 * 1000000)
  let tvNsec ← l.long (ts.tvNsec + rest)
  if tvNsec ≥ 1000000000 then
    let tvSec ← l.time (tvSec + 1)
    let tvNsec ← l.long (tvNsec - 1000000000)
    return { tvSec := tvSec, tvNsec := tvNsec }
  else if tvNsec < 0 then
    let tvSec ← l.time (tvSec - 1)
    let tvNsec ← l.long (tvNsec + 1000000000)
    return { tvSec := tvSec, tvNsec := tvNsec }
  else
    return { tvSec := tvSec, tvNsec := tvNsec }

/-- **Spec of the function.** The result is valid, and exactly that many milliseconds later. -/
theorem addMsToTimespecMonotonic_spec {ts : Timespec} (h : ts.Normalized) (ms : Int32) :
    (addMsToTimespecMonotonic ts ms).Normalized ∧
      (addMsToTimespecMonotonic ts ms).nanos = ts.nanos + ms.toInt * 1000000 := by
  obtain ⟨hsplit, hlower, hupper, -, -⟩ := Timespec.millis_split ms
  have hnonneg := h.nonneg
  have hlt := h.lt
  unfold addMsToTimespecMonotonic Timespec.nanos
  dsimp only
  split
  · next hcarry => exact ⟨⟨by dsimp only; omega, by dsimp only; omega⟩, by dsimp only; omega⟩
  · next hcarry =>
      split
      · next hborrow => exact ⟨⟨by dsimp only; omega, by dsimp only; omega⟩, by dsimp only; omega⟩
      · next hborrow => exact ⟨⟨by dsimp only; omega, by dsimp only; omega⟩, by dsimp only; omega⟩

/-- Far from the limits of `time_t` nothing overflows. -/
theorem addMsToTimespecMonotonicChecked_eq (l : TimeLimits) {ts : Timespec} (h : ts.Normalized)
    (hinside : l.Inside 2147485 ts) (ms : Int32) :
    addMsToTimespecMonotonicChecked l ts ms = .ok (addMsToTimespecMonotonic ts ms) := by
  obtain ⟨-, hlower, hupper, hsecLower, hsecUpper⟩ := Timespec.millis_split ms
  have hnonneg := h.nonneg
  have hlt := h.lt
  have htime : ∀ x, ts.tvSec - 2147485 ≤ x → x ≤ ts.tvSec + 2147485 → l.time x = .ok x :=
    fun x hlo hhi => TimeLimits.time_of_inside hinside hlo hhi
  have hsec := htime (ts.tvSec + ms.toInt.tdiv 1000) (by omega) (by omega)
  have hrest := l.long_of_small (x := ms.toInt.tmod 1000 * 1000000) (by omega) (by omega)
  have hnsec := l.long_of_small (x := ts.tvNsec + ms.toInt.tmod 1000 * 1000000) (by omega)
    (by omega)
  unfold addMsToTimespecMonotonicChecked addMsToTimespecMonotonic
  simp only [hsec, hrest, hnsec, bind, Except.bind, pure, Except.pure]
  split
  · next hcarry =>
      rw [htime _ (by omega) (by omega), l.long_of_small (by omega) (by omega)]
  · next hcarry =>
      split
      · next hborrow =>
          rw [htime _ (by omega) (by omega), l.long_of_small (by omega) (by omega)]
      · next hborrow => rfl

/-! ## The deadlines of the waits -/

/-- The deadline a sleeping thread waits with. -/
def Activity.deadline : Activity β → Option Timespec
  | .idle => none
  | .putting _ deadline _ => deadline
  | .getting deadline _ => deadline

/-- `clock_gettime` gives a valid time. -/
def Event.ClockValid : Event τ β → Prop
  | .put _ _ _ _ _ now _ => now.Normalized
  | .get _ _ _ _ _ now _ => now.Normalized
  | .wake _ _ _ => True

/-- Every deadline is valid. -/
def State.DeadlinesValid (s : State τ β) : Prop :=
  ∀ t deadline, (s.activity t).deadline = some deadline → deadline.Normalized

/-- A critical section of put that waits has a valid deadline. -/
def PutEnd.DeadlineValid : PutEnd β → Prop
  | .wait _ deadline _ => ∀ d, deadline = some d → d.Normalized
  | .enqueued _ _ _ => True
  | .returned _ _ => True

def GetEnd.DeadlineValid : GetEnd β → Prop
  | .wait deadline _ => ∀ d, deadline = some d → d.Normalized
  | .dequeued _ _ _ => True
  | .returned _ _ => True

theorem timedDeadline_valid {now : Timespec} (hnow : now.Normalized) {ms : Int32}
    {deadline : Option Timespec} (h : ∀ d, deadline = some d → d = addMsToTimespecMonotonic now ms) :
    ∀ d, deadline = some d → d.Normalized := by
  rintro d hd
  rw [h d hd]
  exact (addMsToTimespecMonotonic_spec hnow ms).1

theorem PutCases.deadlineValid {DTTIMEOUT_FOREVER timeoutMillis : Int32} {q : Queue β}
    {arg : Option β} {wasTimeout : Option Bool} {lockRc : Rc} {now : Timespec} {r : PutEnd β}
    (h : PutCases DTTIMEOUT_FOREVER q timeoutMillis wasTimeout lockRc now arg r)
    (hnow : now.Normalized) : r.DeadlineValid := by
  cases h with
  | noBuffer | lockFails | refused | enqueues => exact trivial
  | waits _ _ _ _ _ hdeadline => exact timedDeadline_valid hnow hdeadline

theorem PutWakeCases.deadlineValid {q : Queue β} {buffer : β} {deadline : Option Timespec}
    {wasTimeout : Option Bool} {rc : Rc} {r : PutEnd β}
    (h : PutWakeCases q buffer deadline wasTimeout rc r)
    (hvalid : ∀ d, deadline = some d → d.Normalized) : r.DeadlineValid := by
  cases h with
  | timedOut | waitFails | enqueues => exact trivial
  | waits => exact hvalid

theorem GetCases.deadlineValid {DTTIMEOUT_FOREVER timeoutMillis : Int32} {q : Queue β}
    {bufferPtr : Bool} {wasTimeout : Option Bool} {lockRc : Rc} {now : Timespec} {r : GetEnd β}
    (h : GetCases DTTIMEOUT_FOREVER q timeoutMillis wasTimeout lockRc now bufferPtr r)
    (hnow : now.Normalized) : r.DeadlineValid := by
  cases h with
  | noBuffer | lockFails | refused | dequeues => exact trivial
  | waits _ _ _ _ hdeadline => exact timedDeadline_valid hnow hdeadline

theorem GetWakeCases.deadlineValid {q : Queue β} {deadline : Option Timespec}
    {wasTimeout : Option Bool} {rc : Rc} {r : GetEnd β}
    (h : GetWakeCases q deadline wasTimeout rc r)
    (hvalid : ∀ d, deadline = some d → d.Normalized) : r.DeadlineValid := by
  cases h with
  | timedOut | waitFails | dequeues => exact trivial
  | waits => exact hvalid

variable [DecidableEq τ]

theorem deadlinesValid_set {s : State τ β} (h : s.DeadlinesValid) (t : τ) {a : Activity β}
    (ha : ∀ d, a.deadline = some d → d.Normalized) : (s.setActivity t a).DeadlinesValid := by
  intro t' d hd
  change (if t' = t then a else s.activity t').deadline = some d at hd
  split at hd
  · exact ha d hd
  · exact h t' d hd

theorem endPut_deadlinesValid {s s' : State τ β} (hs : s.DeadlinesValid) {t : τ} {arg : Option β}
    {pick : Option τ} {r : PutEnd β} (hr : r.DeadlineValid) (h : s.endPut t arg pick r = some s') :
    s'.DeadlinesValid := by
  cases r with
  | wait buffer deadline wasTimeout =>
      obtain rfl := Option.some.inj h
      exact deadlinesValid_set hs t hr
  | enqueued q' buffer wasTimeout =>
      obtain ⟨cv, -, rfl⟩ := Option.map_eq_some_iff.1 h
      exact deadlinesValid_set hs t nofun
  | returned dterr wasTimeout =>
      obtain rfl := Option.some.inj h
      exact deadlinesValid_set hs t nofun

theorem endGet_deadlinesValid {s s' : State τ β} (hs : s.DeadlinesValid) {t : τ}
    {pick : Option τ} {r : GetEnd β} (hr : r.DeadlineValid) (h : s.endGet t pick r = some s') :
    s'.DeadlinesValid := by
  cases r with
  | wait deadline wasTimeout =>
      obtain rfl := Option.some.inj h
      exact deadlinesValid_set hs t hr
  | dequeued q' out wasTimeout =>
      obtain ⟨cv, -, rfl⟩ := Option.map_eq_some_iff.1 h
      exact deadlinesValid_set hs t nofun
  | returned dterr wasTimeout =>
      obtain rfl := Option.some.inj h
      exact deadlinesValid_set hs t nofun

/-- **Step lemma.** A step keeps the deadlines valid. -/
theorem step_deadlinesValid {DTTIMEOUT_FOREVER : Int32} {s s' : State τ β} {e : Event τ β}
    (hs : s.DeadlinesValid) (he : e.ClockValid) (h : step DTTIMEOUT_FOREVER s e = some s') :
    s'.DeadlinesValid := by
  cases step_cases h with
  | put _ hcases hend => exact endPut_deadlinesValid hs (hcases.deadlineValid he) hend
  | get _ hcases hend => exact endGet_deadlinesValid hs (hcases.deadlineValid he) hend
  | @putWake t _ _ _ _ _ _ hputting hcases hend =>
      have hvalid := hs t
      rw [hputting] at hvalid
      exact endPut_deadlinesValid (s := { s with cvNotFull := s.cvNotFull.resume t }) hs
        (hcases.deadlineValid hvalid) hend
  | @getWake t _ _ _ _ _ hgetting hcases hend =>
      have hvalid := hs t
      rw [hgetting] at hvalid
      exact endGet_deadlinesValid (s := { s with cvNotEmpty := s.cvNotEmpty.resume t }) hs
        (hcases.deadlineValid hvalid) hend

/-- In every run no timed wait gets an invalid deadline. -/
theorem deadlines_valid (DTTIMEOUT_FOREVER : Int32) (q : Queue β) (events : List (Event τ β))
    (hclock : Run.AllSteps (step DTTIMEOUT_FOREVER) (fun _ e => e.ClockValid)
      (State.initial q : State τ β) events) :
    Run.AllStates (step DTTIMEOUT_FOREVER) State.DeadlinesValid (State.initial q : State τ β)
      events :=
  Run.allStates_of_allSteps (fun _ _ _ hs he h => step_deadlinesValid hs he h) events _
    (fun _ _ hd => nomatch hd) hclock

end Dtbufferqueue
