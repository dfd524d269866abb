import DtmcLinux.Dtcore.Dterr
import DtmcLinux.Dtcore.Dtringfifo
import DtmcLinux.Foundation.DescriptorTable
import DtmcLinux.Foundation.ReaderTasks
import DtmcLinux.Posix.Io
import Mathlib.Algebra.Ring.Int.Defs

set_option autoImplicit false

/-! # The TTY backend and its receive task

`dtiox_linux_tty.c`. Attach opens the device and starts a task that polls the descriptor of the
object and pushes what it reads into the FIFO; detach closes the descriptor and leaves the task
alone. A step is a call of attach or detach up to the point where it returns or waits, or one
system call of a task. -/

namespace DtioxLinuxTty

open Posix

/-- `dtiox_linux_tty_t`; `rxPosts` counts the posts on `rx_semaphore`. -/
structure Tty (F : Type*) where
  devicePath : String
  fd : ℤ
  rxThreadRunning : Bool
  rxFifo : F
  fifoDroppedBytes : ℤ
  rxOverflowFlag : Bool
  rxEnabled : Bool
  rxThreadFailed : Bool
  deviceGone : Bool
  rxErrno : ℤ
  rxByteCount : ℤ
  rxSemaphore : Bool
  rxPosts : ℕ

/-- Where a task is. -/
inductive TaskPc where
  /-- before `dttasker_ready` -/
  | created
  /-- at the top of the loop -/
  | top
  | polling (fd : ℤ)
  /-- after a poll with `POLLIN`, before `read` -/
  | readable
  | reading (fd : ℤ)
  /-- at the label `cleanup:` -/
  | cleanup
  /-- the entry function has returned -/
  | returned (dterr : Option Dterr)
  deriving DecidableEq

instance : ReaderPc TaskPc where
  running
    | .returned _ => false
    | _ => true
  reads
    | .polling fd => some fd
    | .reading fd => some fd
    | _ => none

/-- The thread that calls attach and detach: between calls, or in an attach that waits until the
    task has told it that it is ready. -/
inductive AppPc where
  | idle
  | starting (task : ℕ)
  deriving DecidableEq

/-- The object, its descriptors, and the tasks started on it. -/
structure State (F : Type*) where
  self : Tty F
  fds : DescriptorTable Unit
  tasks : List (ReaderTask TaskPc)
  app : AppPc

/-- What the calls of attach return. `create` and `start` are the errors of `dttasker_create`, and
    of `dttasker_start` before there is a thread. -/
structure AttachCalls where
  «open» : Option String
  tcgetattr : Option String
  tcsetattr : Option String
  create : Option Dterr
  start : Option Dterr

/-- A system call of a task, with its result. -/
inductive TaskEvent where
  | ready (dterr : Option Dterr)
  | poll
  | pollReturns (result : PollResult)
  | read
  /-- the result of `read`, and that of the post on `rx_semaphore` that may follow -/
  | readReturns (result : ReadResult) (post : Option Dterr)
  /-- the post at `cleanup:` -/
  | post (post : Option Dterr)

inductive Event where
  | attach (calls : AttachCalls)
  /-- `dttasker_start` returns from its wait for the task -/
  | started (wait : Option Dterr)
  | detach
  | task (i : ℕ) (e : TaskEvent)

variable {F : Type*} [Dtringfifo F]

/-! ## Attach and detach -/

omit [Dtringfifo F] in
/-- `dtiox_linux_tty_attach`, up to the wait in `dttasker_start`; `none` is returned if it waits. -/
def attach (s : State F) (calls : AttachCalls) : State F × Option (Option Dterr) :=
  if s.self.fd ≥ 0 then
    (s, some none)
  else
    match calls.open with
    | some err =>
      let path := s.self.devicePath
      (s, some (some (.new .io s!"open({path}) failed: {err}")))
    | none =>
      let (fds, fd) := s.fds.create ()
      match calls.tcgetattr with
      | some err =>
        ({ s with fds := fds.close fd }, some (some (.new .io s!"tcgetattr failed: {err}")))
      | none =>
        match calls.tcsetattr with
        | some err =>
          ({ s with fds := fds.close fd }, some (some (.new .io s!"tcsetattr failed: {err}")))
        | none =>
          let s := { s with fds := fds, self := { s.self with fd := fd } }
          match calls.create with
          | some err => (s, some (some err))
          | none =>
            match calls.start with
            | some err => (s, some (some err))
            | none =>
              ({ s with
                  tasks := s.tasks ++ [{ pc := .created, opened := fd, ready := false }]
                  app := .starting s.tasks.length }, none)

omit [Dtringfifo F] in
/-- `dttasker_start` returns: the task is ready, or the wait fails. -/
def started (s : State F) (wait : Option Dterr) : Option (State F) :=
  match s.app with
  | .idle => none
  | .starting i =>
    if wait.isSome ∨ (s.tasks[i]?).any (·.ready) then some { s with app := .idle } else none

omit [Dtringfifo F] in
/-- `dtiox_linux_tty_detach`. -/
def detach (s : State F) : State F :=
  if s.self.fd ≥ 0 then
    { s with fds := s.fds.close s.self.fd, self := { s.self with fd := -1 } }
  else s

/-! ## The receive task -/

/-- `dtsemaphore_post(self->rx_semaphore)`, with the result of a post on a semaphore that is not
    `NULL`. -/
def postRxSemaphore (self : Tty F) (post : Option Dterr) : Tty F × Option Dterr :=
  if !self.rxSemaphore then (self, some (.assertNotNull "self"))
  else
    match post with
    | some err => (self, some err)
    | none => ({ self with rxPosts := self.rxPosts + 1 }, none)

omit [Dtringfifo F] in
/-- `poll` has returned. -/
def pollReturned (self : Tty F) : PollResult → Tty F × TaskPc
  | .failed errno _ =>
    if errno = Errno.intr then (self, .top)
    else ({ self with rxErrno := errno, rxThreadFailed := true }, .cleanup)
  | .timeout => (self, .top)
  | .revents bits =>
    if bits &&& POLLNVAL ≠ 0 then
      ({ self with rxErrno := Errno.badf, rxThreadFailed := true, deviceGone := true }, .cleanup)
    else if bits &&& (POLLHUP ||| POLLERR) ≠ 0 then
      ({ self with rxErrno := Errno.io, rxThreadFailed := true, deviceGone := true }, .cleanup)
    else if bits &&& POLLIN ≠ 0 then
      (self, .readable)
    else
      (self, .top)

/-- `_add64`. -/
def add64 (v delta : ℤ) : ℤ :=
  if delta < 0 then v
  else if v > (2 ^ 63 - 1) - delta then 2 ^ 63 - 1
  else v + delta

/-- Push the bytes read. -/
def pushReceived (self : Tty F) (bs : List UInt8) (post : Option Dterr) : Tty F × TaskPc :=
  let (fifo, pushed) := Dtringfifo.push self.rxFifo bs
  let self := { self with rxFifo := fifo }
  let dropped : ℤ := bs.length - pushed
  if dropped > 0 then
    ({ self with
        rxOverflowFlag := true
        fifoDroppedBytes :=
          if (2 ^ 31 - 1) - self.fifoDroppedBytes ≥ dropped then self.fifoDroppedBytes + dropped
          else 2 ^ 31 - 1 }, .top)
  else if self.rxSemaphore then
    match postRxSemaphore self post with
    | (self, some _) => (self, .cleanup)
    | (self, none) => (self, .top)
  else
    (self, .top)

/-- `read` has returned. -/
def readReturned (self : Tty F) (result : ReadResult) (post : Option Dterr) : Tty F × TaskPc :=
  match result with
  | .failed errno _ =>
    if errno = Errno.intr then (self, .top)
    else
      ({ self with
          rxErrno := errno
          rxThreadFailed := true
          deviceGone := self.deviceGone || errno == Errno.io || errno == Errno.nodev || errno == Errno.badf },
        .cleanup)
  | .bytes bs =>
    if bs.length = 0 then (self, .top)
    else
      let self := { self with rxByteCount := add64 self.rxByteCount bs.length }
      if !self.rxEnabled then (self, .top)
      else pushReceived self bs post

/-- One step of `_rx_task_entry`. At `cleanup:` a post that fails jumps to the label again; one that
    succeeds has overwritten the error of the loop. -/
def taskStep (self : Tty F) (t : ReaderTask TaskPc) :
    TaskEvent → Option (Tty F × ReaderTask TaskPc)
  | .ready dterr =>
    match t.pc, dterr with
    | .created, none =>
      some ({ self with rxThreadRunning := true }, { t with pc := .top, ready := true })
    | .created, some _ => some (self, { t with pc := .cleanup })
    | _, _ => none
  | .poll => if t.pc = .top then some (self, { t with pc := .polling self.fd }) else none
  | .pollReturns result =>
    match t.pc with
    | .polling fd =>
      if result.possible fd then
        let (self, pc) := pollReturned self result
        some (self, { t with pc := pc })
      else none
    | _ => none
  | .read => if t.pc = .readable then some (self, { t with pc := .reading self.fd }) else none
  | .readReturns result post =>
    match t.pc with
    | .reading fd =>
      if result.possible fd 256 then
        let (self, pc) := readReturned self result post
        some (self, { t with pc := pc })
      else none
    | _ => none
  | .post post =>
    if t.pc = .cleanup then
      match postRxSemaphore { self with rxThreadRunning := false } post with
      | (self, some _) => some (self, t)
      | (self, none) => some (self, { t with pc := .returned none })
    else none

/-! ## Runs -/

/-- One step of the system. -/
def step (s : State F) : Event → Option (State F)
  | .attach calls => if s.app = .idle then some (attach s calls).1 else none
  | .started wait => started s wait
  | .detach => if s.app = .idle then some (detach s) else none
  | .task i e =>
    match s.tasks[i]? with
    | none => none
    | some t =>
      (taskStep s.self t e).map fun (self, t) =>
        { s with self := self, tasks := s.tasks.set i t }

omit [Dtringfifo F] in
/-- An initialised and configured object. -/
def State.configured (devicePath : String) (rxFifo : F) (rxSemaphore : Bool) : State F where
  self := {
    devicePath := devicePath
    fd := -1
    rxThreadRunning := false
    rxFifo := rxFifo
    fifoDroppedBytes := 0
    rxOverflowFlag := false
    rxEnabled := true
    rxThreadFailed := false
    deviceGone := false
    rxErrno := 0
    rxByteCount := 0
    rxSemaphore := rxSemaphore
    rxPosts := 0 }
  fds := .empty
  tasks := []
  app := .idle

end DtioxLinuxTty
