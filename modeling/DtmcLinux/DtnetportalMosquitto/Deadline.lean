import DtmcLinux.Dtsemaphore.Deadline
import DtmcLinux.DtnetportalMosquitto.Basic

set_option autoImplicit false

/-! # The deadlines of the MQTT backend

`add_ms_to_timespec` of `dtnetportal_mosquitto.c` has no branch for a borrow; its two callers pass a
positive number of milliseconds. -/

namespace DtnetportalMosquitto

open Posix

/-- `add_ms_to_timespec` with a check of every result. -/
def addMsToTimespecChecked (l : TimeLimits) (ts : Timespec) (ms : Int32) :
    Except TimeOverflow Timespec := do
  let tvSec ← l.time (ts.tvSec + ms.toInt.tdiv 1000)
  let rest ← l.long (ms.toInt.tmod 1000 * 1000000)
  let nsec ← l.long (ts.tvNsec + rest)
  if nsec ≥ 1000000000 then
    let tvSec ← l.time (tvSec + 1)
    let nsec ← l.long (nsec - 1000000000)
    return { tvSec := tvSec, tvNsec := nsec }
  else
    return { tvSec := tvSec, tvNsec := nsec }

/-- The milliseconds that `wait_for_connected` waits. -/
def connectedMillis (timeoutMs : Int32) : Int32 := if timeoutMs > 0 then timeoutMs else 2000

/-- The milliseconds that `wait_for_suback` waits. -/
def subackMillis (timeoutMs : Int32) : Int32 := if timeoutMs > 0 then timeoutMs else 1000

theorem toInt_pos_of_default {timeoutMs other : Int32} (hother : 0 < other.toInt) :
    0 < (if timeoutMs > 0 then timeoutMs else other).toInt := by
  split
  · next hpos => exact Int32.lt_iff_toInt_lt.1 hpos
  · exact hother

theorem connectedMillis_pos (timeoutMs : Int32) : 0 < (connectedMillis timeoutMs).toInt :=
  toInt_pos_of_default (by decide)

theorem subackMillis_pos (timeoutMs : Int32) : 0 < (subackMillis timeoutMs).toInt :=
  toInt_pos_of_default (by decide)

/-- Without a negative rest nothing is borrowed, and the two functions do the same. -/
theorem addMsToTimespecChecked_eq (l : TimeLimits) {ts : Timespec} (h : ts.Normalized)
    (ms : Int32) (hms : 0 < ms.toInt) :
    addMsToTimespecChecked l ts ms = Dtbufferqueue.addMsToTimespecMonotonicChecked l ts ms := by
  obtain ⟨-, -, hupper, -, -⟩ := Timespec.millis_split ms
  have hrest : 0 ≤ ms.toInt.tmod 1000 := Int.tmod_nonneg 1000 hms.le
  have hnonneg := h.nonneg
  have hlt := h.lt
  have hproduct := l.long_of_small (x := ms.toInt.tmod 1000 * 1000000) (by omega) (by omega)
  have hsum := l.long_of_small (x := ts.tvNsec + ms.toInt.tmod 1000 * 1000000) (by omega)
    (by omega)
  unfold addMsToTimespecChecked Dtbufferqueue.addMsToTimespecMonotonicChecked
  simp only [hproduct, hsum, bind, Except.bind]
  cases l.time (ts.tvSec + ms.toInt.tdiv 1000) with
  | error fault => rfl
  | ok tvSec =>
      dsimp only
      split
      · rfl
      · next hcarry =>
          rw [if_neg (by omega)]

/-- The deadline of a wait for a positive number of milliseconds is computed without overflow, and
    is valid. -/
theorem addMsToTimespecChecked_valid (l : TimeLimits) {ts : Timespec} (h : ts.Normalized)
    (hinside : l.Inside 2147485 ts) {ms : Int32} (hms : 0 < ms.toInt) :
    ∃ deadline, addMsToTimespecChecked l ts ms = .ok deadline ∧ deadline.Normalized := by
  refine ⟨Dtbufferqueue.addMsToTimespecMonotonic ts ms, ?_, ?_⟩
  · rw [addMsToTimespecChecked_eq l h ms hms]
    exact Dtbufferqueue.addMsToTimespecMonotonicChecked_eq l h hinside ms
  · exact (Dtbufferqueue.addMsToTimespecMonotonic_spec h ms).1

/-- **The deadlines.** From a valid time that is more than `INT32_MAX` milliseconds away from the
    limits of `time_t`, the three functions compute, without overflow, the same valid time exactly
    `ms` milliseconds later, the one without a borrow for every positive `ms`. In every run of any
    number of threads on a buffer queue or on a semaphore, every timed wait has a valid deadline when
    the clock gives valid times; and so do both timed waits of the MQTT backend. -/
theorem deadlines (l : TimeLimits) (ts : Timespec) (h : ts.Normalized)
    (hinside : l.Inside 2147485 ts) :
    (∀ ms : Int32, ∃ later,
      Dtbufferqueue.addMsToTimespecMonotonicChecked l ts ms = .ok later ∧
      Dtsemaphore.addMsToTimespecMonotonicChecked l ts ms = .ok later ∧
      (0 < ms.toInt → addMsToTimespecChecked l ts ms = .ok later) ∧
      later.Normalized ∧ later.nanos = ts.nanos + ms.toInt * 1000000) ∧
    (∀ (τ β : Type) [DecidableEq τ] (DTTIMEOUT_FOREVER : Int32) (q : Dtbufferqueue.Queue β)
      (events : List (Dtbufferqueue.Event τ β)),
      Run.AllSteps (Dtbufferqueue.step DTTIMEOUT_FOREVER) (fun _ e => e.ClockValid) (.initial q)
        events →
      Run.AllStates (Dtbufferqueue.step DTTIMEOUT_FOREVER) Dtbufferqueue.State.DeadlinesValid
        (.initial q) events) ∧
    (∀ (τ : Type) [DecidableEq τ] (DTTIMEOUT_FOREVER DTTIMEOUT_NOWAIT : Int32)
      (sem : Dtsemaphore.Semaphore) (events : List (Dtsemaphore.Event τ)),
      Run.AllSteps (Dtsemaphore.step DTTIMEOUT_FOREVER DTTIMEOUT_NOWAIT) (fun _ e => e.ClockValid)
        (.initial sem) events →
      Run.AllStates (Dtsemaphore.step DTTIMEOUT_FOREVER DTTIMEOUT_NOWAIT)
        Dtsemaphore.State.DeadlinesValid (.initial sem) events) ∧
    (∀ timeoutMs : Int32,
      (∃ deadline, addMsToTimespecChecked l ts (connectedMillis timeoutMs) = .ok deadline ∧
        deadline.Normalized) ∧
      ∃ deadline, addMsToTimespecChecked l ts (subackMillis timeoutMs) = .ok deadline ∧
        deadline.Normalized) := by
  refine ⟨fun ms => ?_, ?_, ?_, fun timeoutMs => ⟨?_, ?_⟩⟩
  · have hqueue := Dtbufferqueue.addMsToTimespecMonotonicChecked_eq l h hinside ms
    obtain ⟨hnormalized, hnanos⟩ := Dtbufferqueue.addMsToTimespecMonotonic_spec h ms
    refine ⟨_, hqueue, hqueue, fun hms => ?_, hnormalized, hnanos⟩
    rw [addMsToTimespecChecked_eq l h ms hms, hqueue]
  · intro τ β _ DTTIMEOUT_FOREVER q events hclock
    exact Dtbufferqueue.deadlines_valid DTTIMEOUT_FOREVER q events hclock
  · intro τ _ DTTIMEOUT_FOREVER DTTIMEOUT_NOWAIT sem events hclock
    exact Dtsemaphore.deadlines_valid DTTIMEOUT_FOREVER DTTIMEOUT_NOWAIT sem events hclock
  · exact addMsToTimespecChecked_valid l h hinside (connectedMillis_pos timeoutMs)
  · exact addMsToTimespecChecked_valid l h hinside (subackMillis_pos timeoutMs)

/-- 1600 milliseconds before 5.5 seconds: a second is borrowed. -/
theorem deadlines_borrow :
    ∃ later, Dtbufferqueue.addMsToTimespecMonotonicChecked .lp64 ⟨5, 500000000⟩ (-1600)
        = .ok later ∧
      later.Normalized ∧ later.nanos = 3900000000 := by
  have hspec := deadlines .lp64 ⟨5, 500000000⟩ (by decide)
    ⟨by decide, by decide⟩
  obtain ⟨later, hlater, -, -, hnormalized, hnanos⟩ := hspec.1 (-1600)
  exact ⟨later, hlater, hnormalized, hnanos⟩

end DtnetportalMosquitto
