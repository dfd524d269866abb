import DtmcLinux.Dtbufferqueue.Basic
import DtmcLinux.Foundation.Fifo
import DtmcLinux.Foundation.StepRun

set_option autoImplicit false

/-! # Threads on one buffer queue

Any number of threads, named by the elements of `τ`, call `dtbufferqueue_put` and
`dtbufferqueue_get` on one queue. A step is one critical section of one call; the events carry what
the environment decides: the arguments of a call, the results of the pthread functions (a wait may
return `0` without a signal, time out or fail at any time), and which waiter a signal reaches. -/

namespace Dtbufferqueue

open Posix

variable {τ β : Type*}

/-- What a thread is doing. -/
inductive Activity (β : Type*) where
  | idle
  /-- asleep in `dtbufferqueue_put` -/
  | putting (buffer : β) (deadline : Option Timespec) (wasTimeout : Option Bool)
  /-- asleep in `dtbufferqueue_get` -/
  | getting (deadline : Option Timespec) (wasTimeout : Option Bool)

/-- A return from one of the two functions, with what the caller passed to put or finds in
    `*buffer` after get (if a pointer was stored there), the error and `*was_timeout`. -/
inductive Return (τ β : Type*) where
  | put (t : τ) (buffer : Option β) (dterr : Option Dterr) (wasTimeout : Option Bool)
  | get (t : τ) (buffer : Option (Option β)) (dterr : Option Dterr) (wasTimeout : Option Bool)

/-- The queue, its condition variables and its threads. `history` and `returns` record the changes
    of the queue and the returns of the calls, oldest first. -/
structure State (τ β : Type*) where
  queue : Queue β
  cvNotEmpty : Cond τ
  cvNotFull : Cond τ
  activity : τ → Activity β
  history : List (Fifo.Op (Option β))
  returns : List (Return τ β)

/-- No thread has called yet. -/
def State.initial (queue : Queue β) : State τ β where
  queue := queue
  cvNotEmpty := Cond.init
  cvNotFull := Cond.init
  activity := fun _ => .idle
  history := []
  returns := []

/-- The events; `pick` is the waiter that a `pthread_cond_signal` of this step reaches. -/
inductive Event (τ β : Type*) where
  /-- an idle thread calls `dtbufferqueue_put` -/
  | put (t : τ) (buffer : Option β) (timeoutMillis : Int32) (wasTimeout : Option Bool)
      (lockRc : Rc) (now : Timespec) (pick : Option τ)
  /-- an idle thread calls `dtbufferqueue_get` -/
  | get (t : τ) (bufferPtr : Bool) (timeoutMillis : Int32) (wasTimeout : Option Bool)
      (lockRc : Rc) (now : Timespec) (pick : Option τ)
  /-- the wait of a sleeping thread returns `rc` -/
  | wake (t : τ) (rc : Rc) (pick : Option τ)

variable [DecidableEq τ]

namespace State

/-- Thread `t` does `a` from now on. -/
def setActivity (s : State τ β) (t : τ) (a : Activity β) : State τ β :=
  { s with activity := fun t' => if t' = t then a else s.activity t' }

/-- Thread `t` leaves the function. -/
def leave (s : State τ β) (t : τ) (r : Return τ β) : State τ β :=
  { s.setActivity t .idle with returns := s.returns ++ [r] }

/-- What the end of a critical section of `dtbufferqueue_put` does to the system. -/
def endPut (s : State τ β) (t : τ) (arg : Option β) (pick : Option τ) :
    PutEnd β → Option (State τ β)
  | .wait buffer deadline wasTimeout =>
    some { s.setActivity t (.putting buffer deadline wasTimeout) with
      cvNotFull := s.cvNotFull.wait t }
  | .enqueued queue buffer wasTimeout =>
    (s.cvNotEmpty.signal pick).map fun cv =>
      { s.leave t (.put t (some buffer) none wasTimeout) with
        queue := queue
        cvNotEmpty := cv
        history := s.history ++ [.push (some buffer)] }
  | .returned dterr wasTimeout => some (s.leave t (.put t arg dterr wasTimeout))

/-- What the end of a critical section of `dtbufferqueue_get` does to the system. -/
def endGet (s : State τ β) (t : τ) (pick : Option τ) : GetEnd β → Option (State τ β)
  | .wait deadline wasTimeout =>
    some { s.setActivity t (.getting deadline wasTimeout) with
      cvNotEmpty := s.cvNotEmpty.wait t }
  | .dequeued queue out wasTimeout =>
    (s.cvNotFull.signal pick).map fun cv =>
      { s.leave t (.get t (some out) none wasTimeout) with
        queue := queue
        cvNotFull := cv
        history := s.history ++ [.pop out] }
  | .returned dterr wasTimeout => some (s.leave t (.get t none dterr wasTimeout))

end State

/-- One critical section. -/
def step (DTTIMEOUT_FOREVER : Int32) (s : State τ β) : Event τ β → Option (State τ β)
  | .put t buffer timeoutMillis wasTimeout lockRc now pick =>
    match s.activity t with
    | .idle =>
      s.endPut t buffer pick
        (put DTTIMEOUT_FOREVER s.queue buffer timeoutMillis wasTimeout lockRc now)
    | _ => none
  | .get t bufferPtr timeoutMillis wasTimeout lockRc now pick =>
    match s.activity t with
    | .idle =>
      s.endGet t pick
        (get DTTIMEOUT_FOREVER s.queue bufferPtr timeoutMillis wasTimeout lockRc now)
    | _ => none
  | .wake t rc pick =>
    match s.activity t with
    | .idle => none
    | .putting buffer deadline wasTimeout =>
      { s with cvNotFull := s.cvNotFull.resume t }.endPut t (some buffer) pick
        (putWake s.queue buffer deadline wasTimeout rc)
    | .getting deadline wasTimeout =>
      { s with cvNotEmpty := s.cvNotEmpty.resume t }.endGet t pick
        (getWake s.queue deadline wasTimeout rc)

end Dtbufferqueue
