import DtmcLinux.Dttasker.Basic
import DtmcLinux.Foundation.Since

set_option autoImplicit false

/-! # One tasker, its threads and its controlling thread

One controlling thread calls `dttasker_start`, `dttasker_stop` and `dttasker_join`; each thread the
tasker creates runs the entry function, which calls `dttasker_ready` whenever it wants and returns
`NULL` or an error. A step is a part of one of these calls between two points where another thread
can run. The events carry what the environment decides: the arguments, what the entry function and
the info callback do, the results of the pthread functions. A wait on the semaphore may return at
any time, so the system needs no account of its waiters. -/

namespace Dttasker

open Posix

/-- Where a thread of the tasker is. -/
inductive Thread where
  /-- not created yet -/
  | absent
  /-- in the entry function -/
  | entry
  /-- in `dttasker_ready`, about to call `dttasker__post_ready_once` -/
  | readyOnce
  /-- in `dttasker_ready`, about to post the ready semaphore -/
  | readyPosting
  /-- the entry function has ended with an error; about to call `dttasker__post_ready_once` -/
  | exitOnce
  /-- about to post the ready semaphore because of that error -/
  | exitPosting
  /-- about to set `thread_exited` -/
  | exiting
  /-- has set `thread_exited`, and ends -/
  | exited
  deriving DecidableEq

/-- The thread leaves the locked part of `dttasker__post_ready_once`, to post or not. -/
def Thread.afterOnce (shouldPost : Bool) : Thread → Option Thread
  | .readyOnce => some (if shouldPost then .readyPosting else .entry)
  | .exitOnce => some (if shouldPost then .exitPosting else .exiting)
  | _ => none

/-- The thread returns from `dtsemaphore_post`. -/
def Thread.afterPost : Thread → Option Thread
  | .readyPosting => some .entry
  | .exitPosting => some .exiting
  | _ => none

/-- Where the controlling thread is. A start keeps the flags it found, and the number of the thread
    it created, for the record it leaves when it returns. -/
inductive Caller where
  | idle
  /-- in `dttasker_start`, about to call `pthread_create` -/
  | creating (before : Flags)
  /-- in `dttasker_start`, about to call `dtsemaphore_wait` -/
  | created (n : ℕ) (before : Flags)
  /-- in `dttasker_start`, asleep in `dtsemaphore_wait` -/
  | waiting (n : ℕ) (before : Flags)
  /-- in the loop of `dttasker_join` -/
  | polling (timeoutMillis : Int32) (wasTimeout : Option Bool)
  /-- in `dttasker_join`, having seen `thread_exited` -/
  | rechecking (wasTimeout : Option Bool)
  /-- in `dttasker_join`, about to call `pthread_join` -/
  | reaping (thread : Option ℕ) (wasTimeout : Option Bool)
  /-- in `dttasker_join`, about to record that the thread has been joined -/
  | marking (wasTimeout : Option Bool)
  deriving DecidableEq

/-- What is recorded of a run. -/
inductive Happening where
  /-- a start has cleared the flags -/
  | reset
  /-- `pthread_create` has created thread `n` -/
  | created (n : ℕ)
  /-- `dttasker_set_info` has succeeded in a call of `dttasker_ready` by thread `n` -/
  | readied (n : ℕ)
  /-- the entry function of thread `n` has returned; `dterr` includes the error of
      `dttasker_set_info` -/
  | finished (n : ℕ) (dterr : Option Dterr)
  /-- a post of thread `n` has raised the count of the ready semaphore -/
  | posted (n : ℕ)
  /-- a start has returned: the thread it created, the flags before and after, its error -/
  | startReturned (n : Option ℕ) (before after : Flags) (dterr : Option Dterr)
  /-- a join has returned -/
  | joinReturned (dterr : Option Dterr) (wasTimeout : Option Bool)
  deriving DecidableEq

/-- The tasker and its threads: `created` of them so far, of which `pthread_join` has returned for
    those in `joined`. `log` records the run, newest first. -/
structure State where
  self : Tasker
  caller : Caller
  threads : ℕ → Thread
  created : ℕ
  joined : List ℕ
  log : List Happening

/-- The tasker has just been created. -/
def State.initial (self : Tasker) : State where
  self := self
  caller := .idle
  threads := fun _ => .absent
  created := 0
  joined := []
  log := []

/-- The events. -/
inductive Event where
  /-- `dttasker_start` is called -/
  | start (attrInit attrSetstacksize : Option Dterr)
  /-- `pthread_create` succeeds, or fails and leaves `thread` in the handle -/
  | pthreadCreate (dterr : Option Dterr) (thread : Option ℕ)
  /-- the first critical section of the wait in `dttasker_start` -/
  | semWait (lockRc : Rc) (now : Timespec)
  /-- the wait on the condition variable returns -/
  | semWake (err : Rc)
  /-- `dttasker_stop` is called -/
  | stop
  /-- `dttasker_join` is called -/
  | join (timeoutMillis : Int32) (wasTimeout : Option Bool)
  /-- one turn of its loop; `expired` is the comparison of the elapsed time with the timeout -/
  | poll (expired : Bool)
  /-- the critical section after the loop -/
  | recheck
  /-- `pthread_join` returns -/
  | pthreadJoin (dterr : Option Dterr)
  /-- the last critical section -/
  | mark
  /-- thread `n` calls `dttasker_ready` -/
  | ready (n : ℕ) (callback : Option Dterr)
  /-- the entry function of thread `n` returns -/
  | entryReturns (n : ℕ) (dterr callback : Option Dterr)
  /-- the locked part of `dttasker__post_ready_once` in thread `n` -/
  | once (n : ℕ)
  /-- the post of thread `n` -/
  | post (n : ℕ) (lockRc : Rc)
  /-- thread `n` sets `thread_exited` -/
  | exit (n : ℕ)

namespace State

/-- Thread `n` is at `th` from now on. -/
def setThread (s : State) (n : ℕ) (th : Thread) : State :=
  { s with threads := fun m => if m = n then th else s.threads m }

/-- `dttasker_start` returns. -/
def startReturns (s : State) (n : Option ℕ) (before : Flags) (dterr : Option Dterr) : State :=
  { s with
    caller := .idle
    log := .startReturned n before s.self.flags dterr :: s.log }

/-- `dttasker_join` returns. -/
def joinReturns (s : State) (dterr : Option Dterr) (wasTimeout : Option Bool) : State :=
  { s with
    caller := .idle
    log := .joinReturned dterr wasTimeout :: s.log }

/-- The end of a critical section of the `dtsemaphore_wait` in `dttasker_start`. -/
def endSemWait (s : State) (n : ℕ) (before : Flags) : Dtsemaphore.WaitEnd → State
  | .wait _ _ _ => { s with caller := .waiting n before }
  | .taken sem _ =>
    { s with self := { s.self with readySemaphore := sem } }.startReturns (some n) before none
  | .returned dterr _ => s.startReturns (some n) before dterr

end State

/-- One step. -/
def step (DTTIMEOUT_FOREVER DTTIMEOUT_NOWAIT : Int32) (s : State) : Event → Option State
  | .start attrInit attrSetstacksize =>
    match s.caller with
    | .idle =>
      match s.self.startPrepare attrInit attrSetstacksize with
      | .error dterr => some (s.startReturns none s.self.flags (some dterr))
      | .ok self =>
        some { s with
          self := self
          caller := .creating s.self.flags
          log := .reset :: s.log }
    | _ => none
  | .pthreadCreate dterr thread =>
    match s.caller with
    | .creating before =>
      match dterr with
      | some dterr =>
        some ({ s with self := { s.self with thread := thread } }.startReturns none before
          (some dterr))
      | none =>
        some { s.setThread s.created .entry with
          -- `thread_created` is read by the controlling thread only
          self := { s.self with thread := some s.created, threadCreated := true }
          caller := .created s.created before
          created := s.created + 1
          log := .created s.created :: s.log }
    | _ => none
  | .semWait lockRc now =>
    match s.caller with
    | .created n before =>
      some (s.endSemWait n before (Dtsemaphore.wait DTTIMEOUT_FOREVER DTTIMEOUT_NOWAIT
        s.self.readySemaphore DTTIMEOUT_FOREVER none lockRc now))
    | _ => none
  | .semWake err =>
    match s.caller with
    | .waiting n before =>
      some (s.endSemWait n before
        (Dtsemaphore.waitWake s.self.readySemaphore DTTIMEOUT_FOREVER none none err))
    | _ => none
  | .stop =>
    match s.caller with
    | .idle => some { s with self := { s.self with stopRequested := true } }
    | _ => none
  | .join timeoutMillis wasTimeout =>
    match s.caller with
    | .idle =>
      let wasTimeout := wasTimeout.map fun _ => false
      -- Nothing was ever started, or it was already joined.
      if !s.self.threadCreated || s.self.threadJoined then some (s.joinReturns none wasTimeout)
      else some { s with caller := .polling timeoutMillis wasTimeout }
    | _ => none
  | .poll expired =>
    match s.caller with
    | .polling timeoutMillis wasTimeout =>
      if s.self.threadExited then some { s with caller := .rechecking wasTimeout }
      else if timeoutMillis ≠ DTTIMEOUT_FOREVER ∧ expired = true then
        let result := s.self.joinTimedOut timeoutMillis wasTimeout
        some (s.joinReturns result.1 result.2)
      else some s
    | _ => none
  | .recheck =>
    match s.caller with
    | .rechecking wasTimeout =>
      if s.self.threadJoined then some (s.joinReturns none wasTimeout)
      else if !s.self.threadCreated then some (s.joinReturns none wasTimeout)
      else some { s with caller := .reaping s.self.thread wasTimeout }
    | _ => none
  | .pthreadJoin dterr =>
    match s.caller with
    | .reaping thread wasTimeout =>
      match dterr with
      | some dterr => some (s.joinReturns (some dterr) wasTimeout)
      | none =>
        match thread with
        | some n =>
          if s.threads n = .exited ∧ n ∉ s.joined then
            some { s with
              caller := .marking wasTimeout
              joined := n :: s.joined }
          else none
        | none => none
    | _ => none
  | .mark =>
    match s.caller with
    | .marking wasTimeout =>
      let self := { s.self with threadJoined := true, threadCreated := false }
      some ({ s with self := self }.joinReturns none wasTimeout)
    | _ => none
  | .ready n callback =>
    match s.threads n with
    | .entry =>
      match s.self.setInfo { status := .running, dterr := none } callback with
      | (self, some _) => some { s with self := self }
      | (self, none) =>
        some { s.setThread n .readyOnce with
          self := self
          log := .readied n :: s.log }
    | _ => none
  | .entryReturns n dterr callback =>
    match s.threads n with
    | .entry =>
      let (self, infoErr) := s.self.setInfo { status := .stopped, dterr := dterr } callback
      let dterr := Dterr.appendTo dterr infoErr
      some { s.setThread n (if dterr.isSome then .exitOnce else .exiting) with
        self := self
        log := .finished n dterr :: s.log }
    | _ => none
  | .once n =>
    let (self, shouldPost) := s.self.postReadyOnce
    ((s.threads n).afterOnce shouldPost).map fun th => { s.setThread n th with self := self }
  | .post n lockRc =>
    (s.threads n).afterPost.map fun th =>
      match Dtsemaphore.post s.self.readySemaphore lockRc with
      | .raised sem =>
        { s.setThread n th with
          self := { s.self with readySemaphore := sem }
          log := .posted n :: s.log }
      | .returned _ => s.setThread n th
  | .exit n =>
    match s.threads n with
    | .exiting =>
      some { s.setThread n .exited with self := { s.self with threadExited := true } }
    | _ => none

end Dttasker
