import DtmcLinux.Dtcore.Dterr
import DtmcLinux.Dtsemaphore.Basic

set_option autoImplicit false

/-! # The tasker

`dttasker_linux.c`: an object that runs one thread at a time. `dttasker_start` creates the thread
and waits on a semaphore until the thread calls `dttasker_ready` or ends with an error;
`dttasker_join` waits for the thread's end. The functions below are the parts of these functions
between two points where other threads can run: the state lock is taken and released inside one
part, so acquiring it always succeeds. -/

namespace Dttasker

open Posix

/-- `dttasker_priority_t`; `other` stands for the markers and for numbers that are no priority. -/
inductive Priority where
  | defaultForSituation
  | backgroundLowest
  | backgroundLow
  | backgroundMedium
  | backgroundHigh
  | backgroundHighest
  | normalLowest
  | normalLow
  | normalMedium
  | normalHigh
  | normalHighest
  | urgentLowest
  | urgentLow
  | urgentMedium
  | urgentHigh
  | urgentHighest
  | other (p : Int32)
  deriving DecidableEq

/-- `dttasker_priority_enum_to_native_number`. -/
def priorityEnumToNativeNumber : Priority → Except Dterr Int32
  | .defaultForSituation => .ok 8
  | .backgroundLowest => .ok 14
  | .backgroundLow => .ok 13
  | .backgroundMedium => .ok 12
  | .backgroundHigh => .ok 11
  | .backgroundHighest => .ok 10
  | .normalLowest => .ok 9
  | .normalLow => .ok 8
  | .normalMedium => .ok 7
  | .normalHigh => .ok 6
  | .normalHighest => .ok 5
  | .urgentLowest => .ok 4
  | .urgentLow => .ok 3
  | .urgentMedium => .ok 2
  | .urgentHigh => .ok 1
  | .urgentHighest => .ok 0
  | .other p => .error (.new .badarg s!"unknown dttasker_priority_t value {p}")

/-- The states of a task that this file sets. -/
inductive Status where
  | initialized
  | running
  | stopped
  deriving DecidableEq

/-- What this file sets in `dttasker_info_t`. -/
structure Info where
  status : Status
  dterr : Option Dterr
  deriving DecidableEq

/-- What this file reads of `dttasker_config_t`; the entry point is the environment's. -/
structure Config where
  name : String
  stackSize : Int32
  priority : Priority
  /-- whether there is a `tasker_info_callback` -/
  infoCallback : Bool
  deriving DecidableEq

/-- `dttasker_t`, without the state lock and the guid. Threads are numbered in the order of their
    creation; `thread` is `none` when the field holds no handle `pthread_create` has given. -/
structure Tasker where
  config : Config
  readySemaphore : Dtsemaphore.Semaphore
  readyPosted : Bool
  info : Info
  thread : Option ℕ
  threadCreated : Bool
  stopRequested : Bool
  threadExited : Bool
  threadJoined : Bool
  deriving DecidableEq

/-- The flags that describe the thread. -/
structure Flags where
  threadCreated : Bool
  threadExited : Bool
  threadJoined : Bool
  deriving DecidableEq

/-- The tasker that `dttasker_create` leaves. -/
def created (PTHREAD_STACK_MIN : Int32) (config : Config) : Tasker where
  config :=
    if config.stackSize ≠ 0 ∧ config.stackSize < PTHREAD_STACK_MIN then
      { config with stackSize := PTHREAD_STACK_MIN }
    else config
  readySemaphore := Dtsemaphore.created 0 0
  readyPosted := false
  info := { status := .initialized, dterr := none }
  thread := none
  threadCreated := false
  stopRequested := false
  threadExited := false
  threadJoined := false

namespace Tasker

/-- The flags that describe the thread. -/
def flags (self : Tasker) : Flags where
  threadCreated := self.threadCreated
  threadExited := self.threadExited
  threadJoined := self.threadJoined

/-- `dttasker_set_info`; `callback` is what the info callback returns. -/
def setInfo (self : Tasker) (info : Info) (callback : Option Dterr) : Tasker × Option Dterr :=
  ({ self with info := info }, if self.config.infoCallback then callback else none)

/-- `dttasker__post_ready_once` up to the release of the lock; tells whether to post. -/
def postReadyOnce (self : Tasker) : Tasker × Bool :=
  if !self.readyPosted then ({ self with readyPosted := true }, true) else (self, false)

/-- `dttasker_start` before `pthread_create`: the error it returns, or the object with the flags
    cleared. `attrInit` and `attrSetstacksize` are the errors that `DTERR_POSERROR_C` makes of the
    results of these two calls. -/
def startPrepare (self : Tasker) (attrInit attrSetstacksize : Option Dterr) :
    Except Dterr Tasker :=
  -- Refuse to start again if task is already running / not yet join-complete.
  if self.threadCreated && !self.threadExited then
    .error (.new .state s!"task \"{self.config.name}\" is already started")
  else
    match attrInit with
    | some dterr => .error dterr
    | none =>
      match if self.config.stackSize ≠ 0 then attrSetstacksize else none with
      | some dterr => .error dterr
      | none =>
        match priorityEnumToNativeNumber self.config.priority with
        | .error dterr => .error dterr
        | .ok _ =>
          .ok { self with
            readyPosted := false
            stopRequested := false
            threadExited := false
            threadJoined := false }

/-- The code under `done_waiting` of `dttasker_join`, after a timeout. -/
def joinTimedOut (self : Tasker) (timeoutMillis : Int32) (wasTimeout : Option Bool) :
    Option Dterr × Option Bool :=
  match wasTimeout with
  | some _ => (none, some true)
  | none =>
    (some (.new .timeout
      s!"task \"{self.config.name}\" did not join within timeout {timeoutMillis} milliseconds"),
      none)

end Tasker

end Dttasker
