import DtmcLinux.Dtbufferqueue.Basic
import DtmcLinux.Foundation.StepRun

set_option autoImplicit false

/-! # The counting semaphore

`dtsemaphore_linux.c`: a mutex, one condition variable and a count with a cap. As for the buffer
queue, a call is a sequence of critical sections, each of which ends with a return or with a wait
on `cv`; in the system below any number of threads, named by the elements of `τ`, call
`dtsemaphore_post` and `dtsemaphore_wait` on one semaphore. -/

namespace Dtsemaphore

open Posix

/-- `dtsemaphore_linux_t`, without the pthread objects. -/
structure Semaphore where
  /-- current semaphore count -/
  count : UInt32
  maxCount : UInt32
  deriving DecidableEq

/-- The semaphore `dtsemaphore_create` leaves: with `max_count == 0` the cap is `INT32_MAX`. -/
def created (initialCount maxCount : Int32) : Semaphore where
  maxCount := if maxCount = 0 then 2147483647 else maxCount.toUInt32
  count := initialCount.toUInt32

/-- `add_ms_to_timespec_monotonic`, the same static function as that of the buffer queue. -/
def addMsToTimespecMonotonic (ts : Timespec) (ms : Int32) : Timespec :=
  Dtbufferqueue.addMsToTimespecMonotonic ts ms

/-! ## The critical sections -/

/-- How `dtsemaphore_post` ends. -/
inductive PostEnd where
  /-- has raised the count and signals `cv` -/
  | raised (sem : Semaphore)
  /-- returns without having raised the count -/
  | returned (dterr : Option Dterr)

/-- `dtsemaphore_post`; `lockRc` is the result of `pthread_mutex_lock`. -/
def post (sem : Semaphore) (lockRc : Rc) : PostEnd :=
  if lockRc ≠ 0 then
    .returned (some (.new .fail s!"mutex lock failed: {lockRc}"))
  else if sem.count < sem.maxCount then
    .raised { sem with count := sem.count + 1 }
  else
    -- no error if already at max
    .returned none

/-- How a critical section of `dtsemaphore_wait` ends. `wasTimeout` is the value of
    `*was_timeout`, `none` when the caller passed `NULL`. -/
inductive WaitEnd where
  /-- waits on `cv`, with the deadline of a timed wait -/
  | wait (timeoutMilliseconds : Int32) (deadline : Option Timespec) (wasTimeout : Option Bool)
  /-- has lowered the count and returns `NULL` -/
  | taken (sem : Semaphore) (wasTimeout : Option Bool)
  /-- returns without having lowered the count -/
  | returned (dterr : Option Dterr) (wasTimeout : Option Bool)

/-- The code under `cleanup` of `dtsemaphore_wait`, for an error. -/
def failed (dterr : Dterr) (wasTimeout : Option Bool) : WaitEnd :=
  .returned (some (.rechain dterr "dtsemaphore_wait() failed")) wasTimeout

/-- A timeout is reported in `*was_timeout`, or as an error when there is no place for it. -/
def timedOut (wasTimeout : Option Bool) (message : String) : WaitEnd :=
  match wasTimeout with
  | some _ => .returned none (some true)
  | none => failed (.new .timeout message) none

/-- `self->count--;` and the return with `*was_timeout = false`. -/
def take (sem : Semaphore) (wasTimeout : Option Bool) : WaitEnd :=
  .taken { sem with count := sem.count - 1 } (wasTimeout.map fun _ => false)

/-- The head of the waiting loops: wait while the count is zero, else lower it. -/
def waitLoop (sem : Semaphore) (timeoutMilliseconds : Int32) (deadline : Option Timespec)
    (wasTimeout : Option Bool) : WaitEnd :=
  if sem.count = 0 then .wait timeoutMilliseconds deadline wasTimeout else take sem wasTimeout

/-- `dtsemaphore_wait` up to its return or its first wait; `now` is what `clock_gettime` gives. -/
def wait (DTTIMEOUT_FOREVER DTTIMEOUT_NOWAIT : Int32) (sem : Semaphore)
    (timeoutMilliseconds : Int32) (wasTimeout : Option Bool) (lockRc : Rc) (now : Timespec) :
    WaitEnd :=
  if lockRc ≠ 0 then
    failed (.new .fail s!"mutex lock failed: {lockRc}") wasTimeout
  else if timeoutMilliseconds = DTTIMEOUT_FOREVER then
    waitLoop sem timeoutMilliseconds none wasTimeout
  else if timeoutMilliseconds = DTTIMEOUT_NOWAIT then
    if sem.count = 0 then
      timedOut wasTimeout "semaphore wait timed out (non-blocking)"
    else
      take sem wasTimeout
  else
    waitLoop sem timeoutMilliseconds (some (addMsToTimespecMonotonic now timeoutMilliseconds))
      wasTimeout

/-- `dtsemaphore_wait` after a wait on `cv` that returned `err`. -/
def waitWake (sem : Semaphore) (timeoutMilliseconds : Int32) (deadline : Option Timespec)
    (wasTimeout : Option Bool) (err : Rc) : WaitEnd :=
  match deadline with
  | none =>
    if err ≠ 0 then
      failed (.new .fail s!"cond_wait failed: {err}") wasTimeout
    else
      waitLoop sem timeoutMilliseconds deadline wasTimeout
  | some _ =>
    if err = ETIMEDOUT then
      timedOut wasTimeout s!"semaphore wait timed out after {timeoutMilliseconds} ms"
    else if err ≠ 0 then
      failed (.new .fail s!"cond_timedwait failed: {err}") wasTimeout
    else
      waitLoop sem timeoutMilliseconds deadline wasTimeout

/-! ## Threads on one semaphore -/

/-- What a thread is doing. -/
inductive Activity where
  | idle
  /-- asleep in `dtsemaphore_wait` -/
  | waiting (timeoutMilliseconds : Int32) (deadline : Option Timespec) (wasTimeout : Option Bool)

/-- A return from one of the two functions: of `dtsemaphore_post` with the count it found (`none`
    when it did not get the mutex), of `dtsemaphore_wait` with the final `*was_timeout`. -/
inductive Return (τ : Type*) where
  | post (t : τ) (found : Option UInt32) (dterr : Option Dterr)
  | wait (t : τ) (dterr : Option Dterr) (wasTimeout : Option Bool)

/-- The semaphore, its condition variable and its threads; `returns` records the returns of the
    calls, oldest first. -/
structure State (τ : Type*) where
  sem : Semaphore
  cv : Cond τ
  activity : τ → Activity
  returns : List (Return τ)

variable {τ : Type*}

/-- No thread has called yet. -/
def State.initial (sem : Semaphore) : State τ where
  sem := sem
  cv := Cond.init
  activity := fun _ => .idle
  returns := []

/-- The events; `pick` is the waiter that the `pthread_cond_signal` of a post reaches. -/
inductive Event (τ : Type*) where
  /-- an idle thread calls `dtsemaphore_post` -/
  | post (t : τ) (lockRc : Rc) (pick : Option τ)
  /-- an idle thread calls `dtsemaphore_wait` -/
  | wait (t : τ) (timeoutMilliseconds : Int32) (wasTimeout : Option Bool) (lockRc : Rc)
      (now : Timespec)
  /-- the wait of a sleeping thread returns `err` -/
  | wake (t : τ) (err : Rc)

variable [DecidableEq τ]

namespace State

/-- Thread `t` does `a` from now on. -/
def setActivity (s : State τ) (t : τ) (a : Activity) : State τ :=
  { s with activity := fun t' => if t' = t then a else s.activity t' }

/-- Thread `t` leaves the function. -/
def leave (s : State τ) (t : τ) (r : Return τ) : State τ :=
  { s.setActivity t .idle with returns := s.returns ++ [r] }

/-- What `dtsemaphore_post` does to the system. -/
def endPost (s : State τ) (t : τ) (found : Option UInt32) (pick : Option τ) :
    PostEnd → Option (State τ)
  | .raised sem =>
    (s.cv.signal pick).map fun cv =>
      { s.leave t (.post t found none) with
        sem := sem
        cv := cv }
  | .returned dterr => some (s.leave t (.post t found dterr))

/-- What the end of a critical section of `dtsemaphore_wait` does to the system. -/
def endWait (s : State τ) (t : τ) : WaitEnd → State τ
  | .wait timeoutMilliseconds deadline wasTimeout =>
    { s.setActivity t (.waiting timeoutMilliseconds deadline wasTimeout) with
      cv := s.cv.wait t }
  | .taken sem wasTimeout =>
    { s.leave t (.wait t none wasTimeout) with
      sem := sem }
  | .returned dterr wasTimeout => s.leave t (.wait t dterr wasTimeout)

end State

/-- One critical section. -/
def step (DTTIMEOUT_FOREVER DTTIMEOUT_NOWAIT : Int32) (s : State τ) : Event τ → Option (State τ)
  | .post t lockRc pick =>
    match s.activity t with
    | .idle =>
      s.endPost t (if lockRc ≠ 0 then none else some s.sem.count) pick (post s.sem lockRc)
    | .waiting _ _ _ => none
  | .wait t timeoutMilliseconds wasTimeout lockRc now =>
    match s.activity t with
    | .idle =>
      some (s.endWait t (wait DTTIMEOUT_FOREVER DTTIMEOUT_NOWAIT s.sem timeoutMilliseconds
        wasTimeout lockRc now))
    | .waiting _ _ _ => none
  | .wake t err =>
    match s.activity t with
    | .idle => none
    | .waiting timeoutMilliseconds deadline wasTimeout =>
      some ({ s with cv := s.cv.resume t }.endWait t
        (waitWake s.sem timeoutMilliseconds deadline wasTimeout err))

end Dtsemaphore
