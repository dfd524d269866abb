import DtmcLinux.Dtcore.Dterr
import DtmcLinux.Dtcore.Dtringfifo
import DtmcLinux.Foundation.DescriptorTable
import DtmcLinux.Foundation.ReaderTasks
import DtmcLinux.Posix.Io

set_option autoImplicit false

/-! # The TCP backend and its receive task

`dtiox_linux_tcp.c`. Attach connects, or accepts a client on a listening socket of its own, and
starts a task that receives from the descriptor of the object and pushes what it gets into the FIFO;
a task that ends closes the descriptors of the object. Detach closes them too and leaves the task
alone. A step is a call of attach or detach up to the point where it returns or waits, one system
call of a task, or one of the actions of its `cleanup:`. -/

namespace DtioxLinuxTcp

open Posix

/-- `dtiox_linux_tcp_mode_t`. -/
inductive Mode where
  | client
  | server
  deriving DecidableEq

/-- `dtiox_linux_tcp_t`; `rxPosts` counts the posts on `rx_semaphore`. -/
structure Tcp (F : Type*) where
  mode : Mode
  fd : ℤ
  listenFd : ℤ
  rxThreadRunning : Bool
  rxFifo : F
  rxOverflowFlag : Bool
  rxEnabled : Bool
  isConnected : Bool
  rxSemaphore : Bool
  rxPosts : ℕ

/-- Where a task is. -/
inductive TaskPc where
  /-- before `dttasker_ready` -/
  | created
  /-- at the top of the loop -/
  | top
  | receiving (fd : ℤ)
  /-- at the label `cleanup:` -/
  | cleanup (dterr : Option Dterr)
  /-- after the flags, before `fd` is closed -/
  | closeFd (dterr : Option Dterr)
  /-- before `listen_fd` is closed -/
  | closeListenFd (dterr : Option Dterr)
  /-- before the readers are woken up -/
  | wakeReaders (dterr : Option Dterr)
  /-- the entry function has returned -/
  | returned (dterr : Option Dterr)
  deriving DecidableEq

instance : ReaderPc TaskPc where
  running
    | .returned _ => false
    | _ => true
  reads
    | .receiving fd => some fd
    | _ => none

/-- The thread that calls attach and detach: between calls, or in an attach that waits until the
    task has told it that it is ready, with the local variables `fd` and `listen_fd`. -/
inductive AppPc where
  | idle
  | starting (task : ℕ) (fd listenFd : ℤ)
  deriving DecidableEq

/-- What a socket of the object is. -/
inductive SocketKind where
  | listening
  | connected
  deriving DecidableEq

/-- The object, its descriptors, and the tasks started on it. -/
structure State (F : Type*) where
  self : Tcp F
  fds : DescriptorTable SocketKind
  tasks : List (ReaderTask TaskPc)
  app : AppPc

/-- What the calls of attach return. `connect` is the error of `_connect_client_socket` or of
    `_bind_and_accept_server_socket`, which leave nothing open when they fail. `create` and `start`
    are the errors of `dttasker_create`, and of `dttasker_start` before there is a thread. -/
structure AttachCalls where
  connect : Option Dterr
  create : Option Dterr
  start : Option Dterr

/-- A system call of a task, with its result, or an action of its `cleanup:`. -/
inductive TaskEvent where
  | ready (dterr : Option Dterr)
  | recv
  /-- the result of `recv`, and that of the post on `rx_semaphore` that may follow -/
  | recvReturns (result : ReadResult) (post : Option Dterr)
  /-- the next action of `cleanup:`; the last one is a post -/
  | cleanup (post : Option Dterr)

inductive Event where
  | attach (calls : AttachCalls)
  /-- `dttasker_start` returns from its wait for the task -/
  | started (wait : Option Dterr)
  | detach
  | task (i : ℕ) (e : TaskEvent)

variable {F : Type*} [Dtringfifo F]

/-! ## Attach and detach -/

omit [Dtringfifo F] in
/-- The sockets of a connection: the listening socket, `-1` in client mode, and the connected
    one. -/
def openSockets (mode : Mode) (fds : DescriptorTable SocketKind) :
    DescriptorTable SocketKind × ℤ × ℤ :=
  match mode with
  | .client =>
    let (fds, fd) := fds.create .connected
    (fds, -1, fd)
  | .server =>
    let (fds, listenFd) := fds.create .listening
    let (fds, fd) := fds.create .connected
    (fds, listenFd, fd)

/-- The end of attach after an error: the local variables are closed. -/
def attachCleanup (s : State F) (fd listenFd : ℤ) : State F :=
  { s with fds := (s.fds.closeIfOpen fd).closeIfOpen listenFd }

omit [Dtringfifo F] in
/-- `dtiox_linux_tcp_attach`, up to the wait in `dttasker_start`; `none` is returned if it waits. -/
def attach (s : State F) (calls : AttachCalls) : State F × Option (Option Dterr) :=
  if s.self.fd ≥ 0 then
    (s, some none)
  else
    match calls.connect with
    | some err => (s, some (some err))
    | none =>
      let (fds, listenFd, fd) := openSockets s.self.mode s.fds
      let s := { s with
        fds := fds, self := { s.self with fd := fd, listenFd := listenFd, isConnected := true } }
      match calls.create with
      | some err => (attachCleanup s fd listenFd, some (some err))
      | none =>
        match calls.start with
        | some err => (attachCleanup s fd listenFd, some (some err))
        | none =>
          ({ s with
              tasks := s.tasks ++ [{ pc := .created, opened := fd, ready := false }]
              app := .starting s.tasks.length fd listenFd }, none)

omit [Dtringfifo F] in
/-- `dttasker_start` returns: the task is ready, or the wait fails and attach goes to `cleanup:`. -/
def started (s : State F) (wait : Option Dterr) : Option (State F) :=
  match s.app with
  | .idle => none
  | .starting i fd listenFd =>
    match wait with
    | some _ => some { attachCleanup s fd listenFd with app := .idle }
    | none => if (s.tasks[i]?).any (·.ready) then some { s with app := .idle } else none

omit [Dtringfifo F] in
/-- `dtiox_linux_tcp_detach`. -/
def detach (s : State F) : State F :=
  { s with
    self := { s.self with
      isConnected := false
      fd := DescriptorTable.closedVar s.self.fd
      listenFd := DescriptorTable.closedVar s.self.listenFd }
    fds := (s.fds.closeIfOpen s.self.fd).closeIfOpen s.self.listenFd }

/-! ## The receive task -/

/-- Push the bytes received. -/
def pushReceived (self : Tcp F) (bs : List UInt8) (post : Option Dterr) : Tcp F × TaskPc :=
  let (fifo, pushed) := Dtringfifo.push self.rxFifo bs
  let self := { self with rxFifo := fifo }
  if pushed < bs.length then ({ self with rxOverflowFlag := true }, .top)
  else if self.rxSemaphore then
    match post with
    | some err => (self, .cleanup (some err))
    | none => ({ self with rxPosts := self.rxPosts + 1 }, .top)
  else
    (self, .top)

/-- `recv` has returned. -/
def recvReturned (self : Tcp F) (result : ReadResult) (post : Option Dterr) : Tcp F × TaskPc :=
  match result with
  | .failed errno strerror =>
    if errno = Errno.intr then (self, .top)
    else (self, .cleanup (some (.new .io s!"TCP recv() failed: {errno} ({strerror})")))
  | .bytes bs =>
    if bs.length = 0 then (self, .cleanup (some (.new .io "TCP peer closed connection")))
    else if !self.rxEnabled then (self, .top)
    else pushReceived self bs post

/-- One step of `_rx_task_entry`, which may close a descriptor. -/
def taskStep (self : Tcp F) (fds : DescriptorTable SocketKind) (t : ReaderTask TaskPc) :
    TaskEvent → Option (Tcp F × DescriptorTable SocketKind × ReaderTask TaskPc)
  | .ready dterr =>
    match t.pc, dterr with
    | .created, none =>
      some ({ self with rxThreadRunning := true }, fds, { t with pc := .top, ready := true })
    | .created, some err => some (self, fds, { t with pc := .cleanup (some err) })
    | _, _ => none
  | .recv => if t.pc = .top then some (self, fds, { t with pc := .receiving self.fd }) else none
  | .recvReturns result post =>
    match t.pc with
    | .receiving fd =>
      if result.possible fd 1024 then
        let (self, pc) := recvReturned self result post
        some (self, fds, { t with pc := pc })
      else none
    | _ => none
  | .cleanup post =>
    match t.pc with
    | .cleanup dterr =>
      some ({ self with isConnected := false, rxThreadRunning := false }, fds,
        { t with pc := .closeFd dterr })
    | .closeFd dterr =>
      some ({ self with fd := DescriptorTable.closedVar self.fd }, fds.closeIfOpen self.fd,
        { t with pc := .closeListenFd dterr })
    | .closeListenFd dterr =>
      some ({ self with listenFd := DescriptorTable.closedVar self.listenFd },
        fds.closeIfOpen self.listenFd, { t with pc := .wakeReaders dterr })
    | .wakeReaders dterr =>
      let posts := if self.rxSemaphore && post.isNone then self.rxPosts + 1 else self.rxPosts
      -- the thread posts ready when the entry function has returned an error
      some ({ self with rxPosts := posts }, fds,
        { t with pc := .returned dterr, ready := t.ready || dterr.isSome })
    | _ => none

/-! ## What a step of the task does -/

/-- What the end of `recv` leaves alone: the descriptors and the flags of the connection. -/
theorem recvReturned_frame (self : Tcp F) (result : ReadResult) (post : Option Dterr) :
    ∃ rxFifo rxOverflowFlag rxPosts, (recvReturned self result post).1 =
      { self with rxFifo := rxFifo, rxOverflowFlag := rxOverflowFlag, rxPosts := rxPosts } := by
  unfold recvReturned
  split
  · split <;> exact ⟨_, _, _, rfl⟩
  · split
    · exact ⟨_, _, _, rfl⟩
    · split
      · exact ⟨_, _, _, rfl⟩
      · unfold pushReceived
        dsimp only
        split
        · exact ⟨_, _, _, rfl⟩
        · split
          · split <;> exact ⟨_, _, _, rfl⟩
          · exact ⟨_, _, _, rfl⟩

/-- When `recv` has returned the task is not receiving. -/
theorem recvReturned_reads (self : Tcp F) (result : ReadResult) (post : Option Dterr) :
    ReaderPc.reads (recvReturned self result post).2 = none := by
  unfold recvReturned
  split
  · split <;> rfl
  · split
    · rfl
    · split
      · rfl
      · unfold pushReceived
        dsimp only
        split
        · rfl
        · split
          · split <;> rfl
          · rfl

/-- The steps of the task, one by one. -/
inductive TaskEffect (self : Tcp F) (fds : DescriptorTable SocketKind) (t : ReaderTask TaskPc) :
    TaskEvent → Tcp F → DescriptorTable SocketKind → ReaderTask TaskPc → Prop where
  | ready (hpc : t.pc = .created) :
      TaskEffect self fds t (.ready none) { self with rxThreadRunning := true } fds
        { t with pc := .top, ready := true }
  | notReady {err : Dterr} (hpc : t.pc = .created) :
      TaskEffect self fds t (.ready (some err)) self fds { t with pc := .cleanup (some err) }
  | recv (hpc : t.pc = .top) :
      TaskEffect self fds t .recv self fds { t with pc := .receiving self.fd }
  | recvReturns {fd : ℤ} {result : ReadResult} {post : Option Dterr}
      (hpc : t.pc = .receiving fd) (hpossible : result.possible fd 1024 = true) :
      TaskEffect self fds t (.recvReturns result post) (recvReturned self result post).1 fds
        { t with pc := (recvReturned self result post).2 }
  | flags {post dterr : Option Dterr} (hpc : t.pc = .cleanup dterr) :
      TaskEffect self fds t (.cleanup post)
        { self with isConnected := false, rxThreadRunning := false } fds
        { t with pc := .closeFd dterr }
  | closeFd {post dterr : Option Dterr} (hpc : t.pc = .closeFd dterr) :
      TaskEffect self fds t (.cleanup post) { self with fd := DescriptorTable.closedVar self.fd }
        (fds.closeIfOpen self.fd) { t with pc := .closeListenFd dterr }
  | closeListenFd {post dterr : Option Dterr} (hpc : t.pc = .closeListenFd dterr) :
      TaskEffect self fds t (.cleanup post)
        { self with listenFd := DescriptorTable.closedVar self.listenFd }
        (fds.closeIfOpen self.listenFd) { t with pc := .wakeReaders dterr }
  | wakeReaders {post dterr : Option Dterr} {rxPosts : ℕ} {ready : Bool}
      (hpc : t.pc = .wakeReaders dterr) :
      TaskEffect self fds t (.cleanup post) { self with rxPosts := rxPosts } fds
        { t with pc := .returned dterr, ready := ready }

theorem taskStep_effect {self self' : Tcp F} {fds fds' : DescriptorTable SocketKind}
    {t t' : ReaderTask TaskPc} {e : TaskEvent}
    (h : taskStep self fds t e = some (self', fds', t')) :
    TaskEffect self fds t e self' fds' t' := by
  cases e with
  | ready dterr =>
      simp only [taskStep] at h
      split at h
      · next hpc =>
          cases h
          exact .ready hpc
      · next hpc =>
          cases h
          exact .notReady hpc
      · cases h
  | recv =>
      simp only [taskStep, Option.ite_none_right_eq_some] at h
      obtain ⟨hpc, h⟩ := h
      cases h
      exact .recv hpc
  | recvReturns result post =>
      simp only [taskStep] at h
      split at h
      · next hpc =>
          obtain ⟨hpossible, h⟩ := Option.ite_none_right_eq_some.1 h
          cases h
          exact .recvReturns hpc hpossible
      · cases h
  | cleanup post =>
      simp only [taskStep] at h
      split at h
      · next hpc =>
          cases h
          exact .flags hpc
      · next hpc =>
          cases h
          exact .closeFd hpc
      · next hpc =>
          cases h
          exact .closeListenFd hpc
      · next hpc =>
          cases h
          exact .wakeReaders hpc
      · cases h

/-! ## Runs -/

/-- One step of the system. -/
def step (s : State F) : Event → Option (State F)
  | .attach calls => if s.app = .idle then some (attach s calls).1 else none
  | .started wait => started s wait
  | .detach => if s.app = .idle then some (detach s) else none
  | .task i e =>
    match s.tasks[i]? with
    | none => none
    | some t =>
      (taskStep s.self s.fds t e).map fun (self, fds, t) =>
        { s with self := self, fds := fds, tasks := s.tasks.set i t }

omit [Dtringfifo F] in
/-- An initialised and configured object. -/
def State.configured (mode : Mode) (rxFifo : F) (rxSemaphore : Bool) : State F where
  self := {
    mode := mode
    fd := -1
    listenFd := -1
    rxThreadRunning := false
    rxFifo := rxFifo
    rxOverflowFlag := false
    rxEnabled := true
    isConnected := false
    rxSemaphore := rxSemaphore
    rxPosts := 0 }
  fds := .empty
  tasks := []
  app := .idle

end DtioxLinuxTcp
