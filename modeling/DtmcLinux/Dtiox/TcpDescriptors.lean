import DtmcLinux.Dtiox.Tcp
import DtmcLinux.Foundation.StepRun
import Mathlib.Logic.Equiv.Basic

set_option autoImplicit false

/-! # The descriptors of a TCP object among its threads

Attach, detach and write may be called by any threads of the application, and nothing locks the object:
a thread reads `fd` or `listen_fd`, finds a descriptor, and closes it later. Here a step is one access
to a member, one system call with the assignment that follows it, or one call of `dttasker`; what a
connection function opens and closes in its own local variables is one step. -/

namespace DtioxLinuxTcp

/-! ## Connecting -/

/-- What the calls for one address return in `_connect_client_socket`. -/
structure ClientAddress where
  socket : Bool
  /-- the error of `_set_socket_common_options` -/
  options : Option Dterr
  connect : Option Dterr

/-- `lookup` is the error of the check of the endpoint, or of `getaddrinfo`. -/
structure ClientCalls where
  lookup : Option Dterr
  addresses : List ClientAddress

/-- The loop of `_connect_client_socket`: the error, and what `*out_fd` holds. -/
def connectAddresses (fds : DescriptorTable SocketKind) :
    List ClientAddress → DescriptorTable SocketKind × Option Dterr × ℤ
  | [] => (fds, none, -1)
  | address :: rest =>
    if !address.socket then
      connectAddresses fds rest
    else
      let (fds, fd) := fds.create .connected
      match address.options with
      | some err => (fds.closeIfOpen fd, some err, -1)
      | none =>
        match address.connect with
        | some err => (fds.closeIfOpen fd, some err, -1)
        | none => (fds, none, fd)

/-- `_connect_client_socket`. -/
def connectClientSocket (fds : DescriptorTable SocketKind) (calls : ClientCalls) :
    DescriptorTable SocketKind × Option Dterr × ℤ :=
  match calls.lookup with
  | some err => (fds, some err, -1)
  | none => connectAddresses fds calls.addresses

/-- What the calls for one address return in `_bind_and_accept_server_socket`. -/
structure ServerAddress where
  socket : Bool
  reuseAddr : Option Dterr
  bind : Bool

/-- `bound` is the error when no address could be bound. -/
structure ServerCalls where
  lookup : Option Dterr
  addresses : List ServerAddress
  bound : Dterr
  listen : Option Dterr
  accept : Option Dterr
  options : Option Dterr

/-- The loop of `_bind_and_accept_server_socket`: the error, and `listen_fd`. -/
def bindAddresses (fds : DescriptorTable SocketKind) :
    List ServerAddress → DescriptorTable SocketKind × Option Dterr × ℤ
  | [] => (fds, none, -1)
  | address :: rest =>
    if !address.socket then
      bindAddresses fds rest
    else
      let (fds, listenFd) := fds.create .listening
      match address.reuseAddr with
      | some err => (fds, some err, listenFd)
      | none =>
        if address.bind then (fds, none, listenFd)
        else bindAddresses (fds.closeIfOpen listenFd) rest

/-- `_bind_and_accept_server_socket`: the error, `*out_listen_fd` and `*out_client_fd`. -/
def bindAndAcceptServerSocket (fds : DescriptorTable SocketKind) (calls : ServerCalls) :
    DescriptorTable SocketKind × Option Dterr × ℤ × ℤ :=
  match calls.lookup with
  | some err => (fds, some err, -1, -1)
  | none =>
    let (fds, dterr, listenFd) := bindAddresses fds calls.addresses
    match dterr with
    | some err => (fds.closeIfOpen listenFd, some err, -1, -1)
    | none =>
      if listenFd < 0 then (fds, some calls.bound, -1, -1)
      else
        match calls.listen with
        | some err => (fds.closeIfOpen listenFd, some err, -1, -1)
        | none =>
          match calls.accept with
          | some err => (fds.closeIfOpen listenFd, some err, -1, -1)
          | none =>
            let (fds, clientFd) := fds.create .connected
            match calls.options with
            | some err => ((fds.closeIfOpen clientFd).closeIfOpen listenFd, some err, -1, -1)
            | none => (fds, none, listenFd, clientFd)

/-- The connection of attach: the error, `listen_fd` and `fd`. -/
def connectSockets (mode : Mode) (fds : DescriptorTable SocketKind) (client : ClientCalls)
    (server : ServerCalls) : DescriptorTable SocketKind × Option Dterr × ℤ × ℤ :=
  match mode with
  | .client =>
    let (fds, dterr, fd) := connectClientSocket fds client
    (fds, dterr, -1, fd)
  | .server => bindAndAcceptServerSocket fds server

/-! ## The threads -/

/-- Where a thread is that closes the descriptors of the object: before `if (self->fd >= 0)`, between
    that and `close`, and the same for `listen_fd`. -/
inductive Closing where
  | testFd
  | closeFd (fd : ℤ)
  | testListenFd
  | closeListenFd (listenFd : ℤ)
  | closed
  deriving DecidableEq

/-- Where attach is when it has connected. -/
inductive AttachPc where
  | storeFd
  | storeListenFd
  | setConnected
  /-- before `dttasker_create` -/
  | create
  /-- before `dttasker_start` -/
  | start
  /-- in `dttasker_start`, until the task has told that it is ready -/
  | wait (task : ℕ)
  /-- at `cleanup:` with an error, before `fd` is closed -/
  | closeFd (dterr : Dterr)
  | closeListenFd (dterr : Dterr)

/-- What a thread of the application is doing; an attach has its local variables. -/
inductive CallPc where
  | idle
  | connecting
  | attaching (pc : AttachPc) (fd listenFd : ℤ)
  | detaching (closing : Closing)
  /-- in the loop of write -/
  | sending

/-- A receive task; `closing` counts from the flags of `cleanup:` on. -/
structure RxThread where
  task : ReaderTask TaskPc
  closing : Closing

/-- The object, its descriptors, the threads of the application and the receive tasks. -/
structure Shared (ι F : Type*) where
  self : Tcp F
  fds : DescriptorTable SocketKind
  calls : ι → CallPc
  tasks : List RxThread
  /-- what attach has returned, if it was the last step that an attach returned -/
  attached : Option (Option Dterr)

/-- A step of a thread of the application. -/
inductive CallEvent where
  | attach
  /-- the connection function of attach, with what its calls return -/
  | connect (client : ClientCalls) (server : ServerCalls)
  | detach
  | write
  /-- the next step of the call; `dterr` is the error of the call of `dttasker` or of `send` -/
  | next (dterr : Option Dterr)

inductive SharedEvent (ι : Type*) where
  | call (i : ι) (e : CallEvent)
  | task (k : ℕ) (e : TaskEvent)

variable {ι F : Type*}

/-- One step of closing the descriptors of the object. `close` of a negative number does nothing. -/
def closeStep (self : Tcp F) (fds : DescriptorTable SocketKind) :
    Closing → Option (Tcp F × DescriptorTable SocketKind × Closing)
  | .testFd => some (self, fds, if self.fd ≥ 0 then .closeFd self.fd else .testListenFd)
  | .closeFd fd => some ({ self with fd := -1 }, fds.closeIfOpen fd, .testListenFd)
  | .testListenFd =>
    some (self, fds, if self.listenFd ≥ 0 then .closeListenFd self.listenFd else .closed)
  | .closeListenFd listenFd =>
    some ({ self with listenFd := -1 }, fds.closeIfOpen listenFd, .closed)
  | .closed => none

namespace Shared

section

variable [DecidableEq ι]

/-- Thread `i` goes on at `pc`. -/
def goto (s : Shared ι F) (i : ι) (pc : CallPc) : Shared ι F :=
  { s with calls := Function.update s.calls i pc, attached := none }

/-- Attach returns. -/
def attachReturns (s : Shared ι F) (i : ι) (dterr : Option Dterr) : Shared ι F :=
  { s with calls := Function.update s.calls i .idle, attached := some dterr }

/-- One step of attach when it has connected. -/
def attachStep (s : Shared ι F) (i : ι) (fd listenFd : ℤ) (dterr : Option Dterr) :
    AttachPc → Option (Shared ι F)
  | .storeFd =>
    some ({ s with self := { s.self with fd := fd } }.goto i
      (.attaching .storeListenFd fd listenFd))
  | .storeListenFd =>
    some ({ s with self := { s.self with listenFd := listenFd } }.goto i
      (.attaching .setConnected fd listenFd))
  | .setConnected =>
    some ({ s with self := { s.self with isConnected := true } }.goto i
      (.attaching .create fd listenFd))
  | .create =>
    match dterr with
    | some err => some (s.goto i (.attaching (.closeFd err) fd listenFd))
    | none => some (s.goto i (.attaching .start fd listenFd))
  | .start =>
    match dterr with
    | some err => some (s.goto i (.attaching (.closeFd err) fd listenFd))
    | none =>
      let task : RxThread := ⟨{ pc := .created, opened := fd, ready := false }, .testFd⟩
      some ({ s with tasks := s.tasks ++ [task] }.goto i
        (.attaching (.wait s.tasks.length) fd listenFd))
  | .wait k =>
    match dterr with
    | some err => some (s.goto i (.attaching (.closeFd err) fd listenFd))
    | none => if (s.tasks[k]?).any (·.task.ready) then some (s.attachReturns i none) else none
  | .closeFd err =>
    some ({ s with fds := s.fds.closeIfOpen fd }.goto i
      (.attaching (.closeListenFd err) fd listenFd))
  | .closeListenFd err =>
    some ({ s with fds := s.fds.closeIfOpen listenFd }.attachReturns i (some err))

/-- One step of a call of thread `i`. -/
def callStep (s : Shared ι F) (i : ι) : CallEvent → Option (Shared ι F)
  | .attach =>
    match s.calls i with
    | .idle =>
      if s.self.fd ≥ 0 then some (s.attachReturns i none) else some (s.goto i .connecting)
    | _ => none
  | .connect client server =>
    match s.calls i with
    | .connecting =>
      let (fds, dterr, listenFd, fd) := connectSockets s.self.mode s.fds client server
      let s := { s with fds := fds }
      match dterr with
      | some err => some (s.attachReturns i (some err))
      | none => some (s.goto i (.attaching .storeFd fd listenFd))
    | _ => none
  | .detach =>
    match s.calls i with
    | .idle =>
      some ({ s with self := { s.self with isConnected := false } }.goto i (.detaching .testFd))
    | _ => none
  | .write =>
    match s.calls i with
    | .idle =>
      if s.self.fd < 0 ∨ s.self.isConnected = false then some (s.goto i .idle)
      else some (s.goto i .sending)
    | _ => none
  | .next dterr =>
    match s.calls i with
    | .attaching pc fd listenFd => s.attachStep i fd listenFd dterr pc
    | .detaching closing =>
      (closeStep s.self s.fds closing).map fun (self, fds, closing) =>
        { s with self := self, fds := fds }.goto i
          (if closing = Closing.closed then .idle else .detaching closing)
    | .sending =>
      match dterr with
      | some _ => some ({ s with self := { s.self with isConnected := false } }.goto i .idle)
      | none => some (s.goto i .idle)
    | .idle | .connecting => none

end

variable [Dtringfifo F]

/-- One step of a receive task: between the flags of `cleanup:` and the post it closes the descriptors
    of the object. -/
def taskStep (self : Tcp F) (fds : DescriptorTable SocketKind) (t : RxThread) (e : TaskEvent) :
    Option (Tcp F × DescriptorTable SocketKind × RxThread) :=
  match t.task.pc, e with
  | .closeFd dterr, .cleanup _ =>
    (closeStep self fds t.closing).map fun (self, fds, closing) =>
      let pc := if closing = Closing.closed then .wakeReaders dterr else .closeFd dterr
      (self, fds, ⟨{ t.task with pc := pc }, closing⟩)
  | .closeFd _, _ | .closeListenFd _, _ => none
  | _, e =>
    (DtioxLinuxTcp.taskStep self fds t.task e).map fun (self, fds, task) =>
      (self, fds, { t with task := task })

/-- One step of the system. -/
def step [DecidableEq ι] (s : Shared ι F) : SharedEvent ι → Option (Shared ι F)
  | .call i e => s.callStep i e
  | .task k e =>
    match s.tasks[k]? with
    | none => none
    | some t =>
      (taskStep s.self s.fds t e).map fun (self, fds, t) =>
        { s with self := self, fds := fds, tasks := s.tasks.set k t, attached := none }

/-- A configured object that no thread uses yet. -/
def configured (mode : Mode) (rxFifo : F) (rxSemaphore : Bool) : Shared ι F where
  self := (State.configured mode rxFifo rxSemaphore).self
  fds := .empty
  calls := fun _ => .idle
  tasks := []
  attached := none

end Shared

/-! ## The property and its condition -/

/-- The members hold no descriptor, or one of the object that is open; it is connected only with a
    descriptor, no descriptor has been closed twice, and an attach that has just returned an error has
    left the object without a connection. -/
structure OwnsDescriptors (s : Shared ι F) : Prop where
  fd : s.fds.Holds s.self.fd .connected
  listenFd : s.fds.Holds s.self.listenFd .listening
  connected : s.self.isConnected = true → 0 ≤ s.self.fd
  closedOnce : s.fds.closed.Nodup
  failed : ∀ err, s.attached = some (some err) →
    s.self.fd = -1 ∧ s.self.listenFd = -1 ∧ s.self.isConnected = false

/-- A thread that comes to close a descriptor still finds it in the object, and the object not
    connected again. -/
def Closing.Undisturbed (self : Tcp F) : Closing → Prop
  | .closeFd fd => self.fd = fd ∧ self.isConnected = false
  | .closeListenFd listenFd => self.listenFd = listenFd
  | _ => True

/-- The step of an attach that has connected: it has got a descriptor, finds one in the object when it
    sets `is_connected`, and `dttasker` returns no error. -/
def AttachPc.Undisturbed (self : Tcp F) (fd : ℤ) (dterr : Option Dterr) : AttachPc → Prop
  | .storeFd => 0 ≤ fd
  | .setConnected => 0 ≤ self.fd
  | .create | .start | .wait _ => dterr = none
  | _ => True

/-- The condition on the step of a call: besides, a connection that fails finds the object without
    descriptors. -/
def CallPc.Undisturbed (self : Tcp F) (fds : DescriptorTable SocketKind) :
    CallPc → CallEvent → Prop
  | .connecting, .connect client server =>
    (connectSockets self.mode fds client server).2.1 ≠ none → self.fd = -1 ∧ self.listenFd = -1
  | .attaching pc fd _, .next dterr => pc.Undisturbed self fd dterr
  | .detaching closing, .next _ => closing.Undisturbed self
  | _, _ => True

/-- The condition on the step of a receive task. -/
def RxThread.Undisturbed (self : Tcp F) (t : RxThread) : Prop :=
  match t.task.pc with
  | .closeFd _ => t.closing.Undisturbed self
  | _ => True

/-- The condition on a step. -/
def Undisturbed (s : Shared ι F) : SharedEvent ι → Prop
  | .call i e => (s.calls i).Undisturbed s.self s.fds e
  | .task k _ => ∀ t ∈ s.tasks[k]?, t.Undisturbed s.self

instance (self : Tcp F) : (closing : Closing) → Decidable (closing.Undisturbed self)
  | .closeFd _ => instDecidableAnd
  | .closeListenFd _ => inferInstanceAs (Decidable (_ = _))
  | .testFd | .testListenFd | .closed => .isTrue trivial

instance (self : Tcp F) (fd : ℤ) (dterr : Option Dterr) :
    (pc : AttachPc) → Decidable (pc.Undisturbed self fd dterr)
  | .storeFd | .setConnected => inferInstanceAs (Decidable (_ ≤ _))
  | .create | .start | .wait _ => decidable_of_iff (dterr.isNone = true) Option.isNone_iff_eq_none
  | .storeListenFd | .closeFd _ | .closeListenFd _ => .isTrue trivial

instance (self : Tcp F) (fds : DescriptorTable SocketKind) :
    (pc : CallPc) → (e : CallEvent) → Decidable (pc.Undisturbed self fds e)
  | .connecting, .connect client server =>
    have : Decidable ((connectSockets self.mode fds client server).2.1 = none) :=
      decidable_of_iff _ Option.isNone_iff_eq_none
    inferInstanceAs (Decidable (¬_ → _ ∧ _))
  | .attaching pc fd _, .next dterr => inferInstanceAs (Decidable (pc.Undisturbed self fd dterr))
  | .detaching closing, .next _ => inferInstanceAs (Decidable (closing.Undisturbed self))
  | .connecting, .attach | .connecting, .detach | .connecting, .write | .connecting, .next _ =>
    .isTrue trivial
  | .attaching _ _ _, .attach | .attaching _ _ _, .connect _ _ | .attaching _ _ _, .detach
  | .attaching _ _ _, .write => .isTrue trivial
  | .detaching _, .attach | .detaching _, .connect _ _ | .detaching _, .detach
  | .detaching _, .write => .isTrue trivial
  | .idle, _ | .sending, _ => .isTrue trivial

instance (self : Tcp F) (t : RxThread) : Decidable (t.Undisturbed self) := by
  unfold RxThread.Undisturbed
  split
  · exact inferInstance
  · exact .isTrue trivial

instance (s : Shared ι F) : (e : SharedEvent ι) → Decidable (Undisturbed s e)
  | .call i e => inferInstanceAs (Decidable ((s.calls i).Undisturbed s.self s.fds e))
  | .task k _ => inferInstanceAs (Decidable (∀ t ∈ s.tasks[k]?, t.Undisturbed s.self))

/-! ## Closing without another thread in between -/

/-- `n` steps of closing, one after the other. -/
def closeSteps (self : Tcp F) (fds : DescriptorTable SocketKind) (closing : Closing) :
    ℕ → Option (Tcp F × DescriptorTable SocketKind × Closing)
  | 0 => some (self, fds, closing)
  | n + 1 =>
    (closeStep self fds closing).bind fun (self, fds, closing) => closeSteps self fds closing n

theorem closeSteps_listenFd (self : Tcp F) (fds : DescriptorTable SocketKind) :
    ∃ n, closeSteps self fds .testListenFd n =
      some ({ self with listenFd := DescriptorTable.closedVar self.listenFd },
        fds.closeIfOpen self.listenFd, .closed) := by
  by_cases hopen : 0 ≤ self.listenFd
  · exact ⟨2, by simp [closeSteps, closeStep, hopen, DescriptorTable.closedVar]⟩
  · refine ⟨1, ?_⟩
    simp [closeSteps, closeStep, hopen, DescriptorTable.closedVar, DescriptorTable.closeIfOpen]

/-- A detach that no other thread comes between does what `detach` does in one step. -/
theorem closeSteps_detach (s : State F) :
    ∃ n, closeSteps { s.self with isConnected := false } s.fds .testFd n =
      some ((detach s).self, (detach s).fds, .closed) := by
  by_cases hopen : 0 ≤ s.self.fd
  · obtain ⟨n, hn⟩ := closeSteps_listenFd { s.self with isConnected := false, fd := -1 }
      (s.fds.closeIfOpen s.self.fd)
    refine ⟨n + 2, ?_⟩
    simp [closeSteps, closeStep, hopen, detach, hn, DescriptorTable.closedVar]
  · obtain ⟨n, hn⟩ := closeSteps_listenFd { s.self with isConnected := false } s.fds
    refine ⟨n + 1, ?_⟩
    simp [closeSteps, closeStep, hopen, detach, hn, DescriptorTable.closedVar,
      DescriptorTable.closeIfOpen]

/-! ## What a connection leaves -/

/-- A connection function has opened the descriptors it gives back, and closed only its own. -/
structure Connects (fds fds' : DescriptorTable SocketKind) (listenFd fd : ℤ) : Prop where
  table : fds.Extends fds'
  listenFd : listenFd = -1 ∨ fds.IsNew fds' listenFd .listening
  fd : fd = -1 ∨ fds.IsNew fds' fd .connected

section

variable {fds₀ fds : DescriptorTable SocketKind}

theorem connectAddresses_spec (hclosed : fds₀.ClosedOnce) (addresses : List ClientAddress) :
    ∀ fds, fds₀.Extends fds →
      Connects fds₀ (connectAddresses fds addresses).1 (-1) (connectAddresses fds addresses).2.2 := by
  induction addresses with
  | nil => exact fun fds hext => ⟨hext, Or.inl rfl, Or.inl rfl⟩
  | cons address rest ih =>
      intro fds hext
      have hnew := hext.isNew_create hclosed .connected
      have hcreated := hext.create .connected
      unfold connectAddresses
      split
      · exact ih fds hext
      · dsimp only
        split
        · exact ⟨hcreated.close hnew, Or.inl rfl, Or.inl rfl⟩
        · split
          · exact ⟨hcreated.close hnew, Or.inl rfl, Or.inl rfl⟩
          · exact ⟨hcreated, Or.inl rfl, Or.inr hnew⟩

theorem connectClientSocket_spec (hclosed : fds.ClosedOnce) (calls : ClientCalls) :
    Connects fds (connectClientSocket fds calls).1 (-1) (connectClientSocket fds calls).2.2 := by
  unfold connectClientSocket
  split
  · exact ⟨.refl fds, Or.inl rfl, Or.inl rfl⟩
  · exact connectAddresses_spec hclosed calls.addresses fds (.refl fds)

theorem bindAddresses_spec (hclosed : fds₀.ClosedOnce) (addresses : List ServerAddress) :
    ∀ fds, fds₀.Extends fds →
      Connects fds₀ (bindAddresses fds addresses).1 (bindAddresses fds addresses).2.2 (-1) := by
  induction addresses with
  | nil => exact fun fds hext => ⟨hext, Or.inl rfl, Or.inl rfl⟩
  | cons address rest ih =>
      intro fds hext
      have hnew := hext.isNew_create hclosed .listening
      have hcreated := hext.create .listening
      unfold bindAddresses
      split
      · exact ih fds hext
      · dsimp only
        split
        · exact ⟨hcreated, Or.inr hnew, Or.inl rfl⟩
        · split
          · exact ⟨hcreated, Or.inr hnew, Or.inl rfl⟩
          · exact ih _ (hcreated.close hnew)

theorem bindAndAcceptServerSocket_spec (hclosed : fds.ClosedOnce) (calls : ServerCalls) :
    Connects fds (bindAndAcceptServerSocket fds calls).1
      (bindAndAcceptServerSocket fds calls).2.2.1 (bindAndAcceptServerSocket fds calls).2.2.2 := by
  unfold bindAndAcceptServerSocket
  split
  · exact ⟨.refl fds, Or.inl rfl, Or.inl rfl⟩
  · obtain ⟨hext, hlisten, -⟩ := bindAddresses_spec hclosed calls.addresses fds (.refl fds)
    generalize bindAddresses fds calls.addresses = bound at hext hlisten
    obtain ⟨fds', dterr, listenFd⟩ := bound
    dsimp only at hext hlisten ⊢
    -- `listen_fd` is closed when a later call fails
    have hfailed : Connects fds (fds'.closeIfOpen listenFd) (-1) (-1) := by
      refine ⟨?_, Or.inl rfl, Or.inl rfl⟩
      rcases hlisten with rfl | hnew
      · rw [DescriptorTable.closeIfOpen_neg_one]
        exact hext
      · exact hext.close hnew
    split
    · exact hfailed
    · split
      · exact ⟨hext, Or.inl rfl, Or.inl rfl⟩
      · next hnonneg =>
          have hlistening := hlisten.resolve_left (by omega)
          have hcreated := hext.create .connected
          have hclient := hext.isNew_create hclosed .connected
          have hstill : fds.IsNew (fds'.create .connected).1 listenFd .listening :=
            ⟨hlistening.isOpen.create .connected, hlistening.created⟩
          split
          · exact hfailed
          · split
            · exact hfailed
            · split
              · have hne : listenFd ≠ (fds'.create .connected).2 :=
                  hstill.isOpen.ne_of_kind_ne hclient.isOpen (by decide)
                exact ⟨(hcreated.close hclient).close (hstill.closeIfOpen_of_ne hne), Or.inl rfl,
                  Or.inl rfl⟩
              · exact ⟨hcreated, Or.inr hstill, Or.inr hclient⟩

theorem connectSockets_spec (mode : Mode) (hclosed : fds.ClosedOnce) (client : ClientCalls)
    (server : ServerCalls) :
    Connects fds (connectSockets mode fds client server).1
      (connectSockets mode fds client server).2.2.1
      (connectSockets mode fds client server).2.2.2 := by
  cases mode with
  | client => exact connectClientSocket_spec hclosed client
  | server => exact bindAndAcceptServerSocket_spec hclosed server

end

/-! ## The invariant -/

/-- The descriptor in the local variable `fd` of an attach that is to be stored. -/
def CallPc.pendingFd : CallPc → ℤ
  | .attaching .storeFd fd _ => fd
  | _ => -1

/-- The descriptor in the local variable `listen_fd` of an attach that is to be stored. -/
def CallPc.pendingListenFd : CallPc → ℤ
  | .attaching .storeFd _ listenFd => listenFd
  | .attaching .storeListenFd _ listenFd => listenFd
  | _ => -1

/-- Attach closes its local variables. -/
def CallPc.RollsBack : CallPc → Prop
  | .attaching (.closeFd _) _ _ | .attaching (.closeListenFd _) _ _ => True
  | _ => False

/-- `fd`, and the local variables that are to be stored there. -/
def Shared.fdVars (s : Shared ι F) : Option ι → ℤ
  | none => s.self.fd
  | some i => (s.calls i).pendingFd

/-- `listen_fd`, and the local variables that are to be stored there. -/
def Shared.listenFdVars (s : Shared ι F) : Option ι → ℤ
  | none => s.self.listenFd
  | some i => (s.calls i).pendingListenFd

/-- **The invariant.** -/
structure SharedInv (s : Shared ι F) : Prop where
  fdVars : s.fds.Held s.fdVars .connected
  listenFdVars : s.fds.Held s.listenFdVars .listening
  connected : s.self.isConnected = true → 0 ≤ s.self.fd
  closedOnce : s.fds.ClosedOnce
  rollsBack : ∀ i, ¬(s.calls i).RollsBack
  failed : ∀ err, s.attached = some (some err) →
    s.self.fd = -1 ∧ s.self.listenFd = -1 ∧ s.self.isConnected = false

theorem SharedInv.ownsDescriptors {s : Shared ι F} (h : SharedInv s) : OwnsDescriptors s where
  fd := h.fdVars.holds none
  listenFd := h.listenFdVars.holds none
  connected := h.connected
  closedOnce := h.closedOnce.nodup
  failed := h.failed

/-- A thread that has nothing to store and nothing to close. -/
structure CallPc.Quiet (pc : CallPc) : Prop where
  pendingFd : pc.pendingFd = -1
  pendingListenFd : pc.pendingListenFd = -1
  rollsBack : ¬pc.RollsBack

/-- The threads are where they were, or have nothing to store and nothing to close. -/
def Shared.Quietens (s s' : Shared ι F) : Prop :=
  ∀ i, s'.calls i = s.calls i ∨ (s'.calls i).Quiet

namespace SharedInv

variable {s s' : Shared ι F}

theorem quiet_rollsBack (h : SharedInv s) (hcalls : s.Quietens s') (i : ι) :
    ¬(s'.calls i).RollsBack := by
  rcases hcalls i with hsame | hquiet
  · rw [hsame]
    exact h.rollsBack i
  · exact hquiet.rollsBack

theorem quiet_fdVars (hcalls : s.Quietens s') (i : ι) :
    s'.fdVars (some i) = -1 ∨ s'.fdVars (some i) = s.fdVars (some i) := by
  rcases hcalls i with hsame | hquiet
  · exact Or.inr (congrArg CallPc.pendingFd hsame)
  · exact Or.inl hquiet.pendingFd

theorem quiet_listenFdVars (hcalls : s.Quietens s') (i : ι) :
    s'.listenFdVars (some i) = -1 ∨ s'.listenFdVars (some i) = s.listenFdVars (some i) := by
  rcases hcalls i with hsame | hquiet
  · exact Or.inr (congrArg CallPc.pendingListenFd hsame)
  · exact Or.inl hquiet.pendingListenFd

/-- A step that leaves the descriptors of the object alone. -/
theorem keep (h : SharedInv s) (hcalls : s.Quietens s') (hfds : s'.fds = s.fds)
    (hfd : s'.self.fd = s.self.fd) (hlistenFd : s'.self.listenFd = s.self.listenFd)
    (hconnected : s'.self.isConnected = true → s.self.isConnected = true)
    (hattached : ∀ err, s'.attached ≠ some (some err)) : SharedInv s' where
  fdVars := by
    rw [hfds]
    refine h.fdVars.clear fun a => ?_
    cases a with
    | none => exact Or.inr hfd
    | some i => exact quiet_fdVars hcalls i
  listenFdVars := by
    rw [hfds]
    refine h.listenFdVars.clear fun a => ?_
    cases a with
    | none => exact Or.inr hlistenFd
    | some i => exact quiet_listenFdVars hcalls i
  connected hset := by
    rw [hfd]
    exact h.connected (hconnected hset)
  closedOnce := by
    rw [hfds]
    exact h.closedOnce
  rollsBack := h.quiet_rollsBack hcalls
  failed err herr := absurd herr (hattached err)

/-- `fd` is closed and cleared. -/
theorem closeFd (h : SharedInv s) (hcalls : s.Quietens s') (hnot : s.self.isConnected = false)
    (hself : s'.self = { s.self with fd := -1 }) (hfds : s'.fds = s.fds.closeIfOpen s.self.fd)
    (hattached : ∀ err, s'.attached ≠ some (some err)) : SharedInv s' where
  fdVars := by
    rw [hfds]
    refine h.fdVars.close none (congrArg Tcp.fd hself) fun a ha => ?_
    cases a with
    | none => exact absurd rfl ha
    | some i => exact quiet_fdVars hcalls i
  listenFdVars := by
    rw [hfds]
    refine (h.listenFdVars.clear fun a => ?_).closeIfOpen (h.fdVars.holds none) (by decide)
    cases a with
    | none =>
        right
        show s'.self.listenFd = s.self.listenFd
        rw [hself]
    | some i => exact quiet_listenFdVars hcalls i
  connected hset := by
    rw [hself] at hset
    rw [hnot] at hset
    cases hset
  closedOnce := by
    rw [hfds]
    exact h.closedOnce.closeIfOpen (h.fdVars.holds none)
  rollsBack := h.quiet_rollsBack hcalls
  failed err herr := absurd herr (hattached err)

/-- `listen_fd` is closed and cleared. -/
theorem closeListenFd (h : SharedInv s) (hcalls : s.Quietens s')
    (hself : s'.self = { s.self with listenFd := -1 })
    (hfds : s'.fds = s.fds.closeIfOpen s.self.listenFd)
    (hattached : ∀ err, s'.attached ≠ some (some err)) : SharedInv s' where
  fdVars := by
    rw [hfds]
    refine (h.fdVars.clear fun a => ?_).closeIfOpen (h.listenFdVars.holds none) (by decide)
    cases a with
    | none =>
        right
        show s'.self.fd = s.self.fd
        rw [hself]
    | some i => exact quiet_fdVars hcalls i
  listenFdVars := by
    rw [hfds]
    refine h.listenFdVars.close none (congrArg Tcp.listenFd hself) fun a ha => ?_
    cases a with
    | none => exact absurd rfl ha
    | some i => exact quiet_listenFdVars hcalls i
  connected hset := by
    rw [hself] at hset ⊢
    exact h.connected hset
  closedOnce := by
    rw [hfds]
    exact h.closedOnce.closeIfOpen (h.listenFdVars.holds none)
  rollsBack := h.quiet_rollsBack hcalls
  failed err herr := absurd herr (hattached err)

/-- A step of a thread that closes the descriptors of the object. -/
theorem closing (h : SharedInv s) (hcalls : s.Quietens s') {closing closing' : Closing}
    (hundisturbed : closing.Undisturbed s.self)
    (hstep : closeStep s.self s.fds closing = some (s'.self, s'.fds, closing'))
    (hattached : s'.attached = none) : SharedInv s' := by
  have hnot : ∀ err, s'.attached ≠ some (some err) := by
    intro err
    rw [hattached]
    exact (Option.some_ne_none _).symm
  cases closing with
  | testFd | testListenFd =>
      simp only [closeStep, Option.some.injEq, Prod.mk.injEq] at hstep
      obtain ⟨hself, hfds, -⟩ := hstep
      exact h.keep hcalls hfds.symm (congrArg Tcp.fd hself.symm)
        (congrArg Tcp.listenFd hself.symm) (fun hset => hself ▸ hset) hnot
  | closeFd fd =>
      simp only [closeStep, Option.some.injEq, Prod.mk.injEq] at hstep
      obtain ⟨hself, hfds, -⟩ := hstep
      obtain ⟨rfl, hdisconnected⟩ := hundisturbed
      exact h.closeFd hcalls hdisconnected hself.symm hfds.symm hnot
  | closeListenFd listenFd =>
      simp only [closeStep, Option.some.injEq, Prod.mk.injEq] at hstep
      obtain ⟨hself, hfds, -⟩ := hstep
      obtain rfl : s.self.listenFd = listenFd := hundisturbed
      exact h.closeListenFd hcalls hself.symm hfds.symm hnot
  | closed => cases hstep

/-! ## The steps -/

/-- `is_connected` is cleared. -/
theorem disconnect (h : SharedInv s) :
    SharedInv { s with self := { s.self with isConnected := false } } :=
  { h with
    connected := nofun
    failed := fun err herr => ⟨(h.failed err herr).1, (h.failed err herr).2.1, rfl⟩ }

/-- A connection function has closed what it opened. -/
theorem later (h : SharedInv s) {fds : DescriptorTable SocketKind} (hext : s.fds.Extends fds) :
    SharedInv { s with fds := fds } :=
  { h with
    fdVars := h.fdVars.later hext
    listenFdVars := h.listenFdVars.later hext
    closedOnce := hext.closedOnce h.closedOnce }

section

variable [DecidableEq ι]

/-- Only thread `i` has moved. -/
theorem quietens_goto {i : ι} {pc : CallPc} (hpc : pc.Quiet)
    (hcalls : s'.calls = Function.update s.calls i pc) : s.Quietens s' := by
  unfold Shared.Quietens
  rw [hcalls]
  exact (Function.forall_update_iff s.calls fun j pc => pc = s.calls j ∨ pc.Quiet).2
    ⟨Or.inr hpc, fun j _ => Or.inl rfl⟩

theorem rollsBack_goto (h : SharedInv s) {i : ι} {pc : CallPc} (hpc : ¬pc.RollsBack) :
    ∀ j, ¬(Function.update s.calls i pc j).RollsBack :=
  (Function.forall_update_iff s.calls fun _ pc => ¬pc.RollsBack).2 ⟨hpc, fun j _ => h.rollsBack j⟩

/-- A thread goes on, with nothing to store and nothing to close. -/
theorem goto (h : SharedInv s) {i : ι} {pc : CallPc} (hpc : pc.Quiet) : SharedInv (s.goto i pc) :=
  h.keep (quietens_goto hpc rfl) rfl rfl rfl id nofun

/-- An attach returns without an error. -/
theorem attachReturns (h : SharedInv s) (i : ι) : SharedInv (s.attachReturns i none) :=
  h.keep (quietens_goto ⟨rfl, rfl, id⟩ rfl) rfl rfl rfl id nofun

/-- An attach returns an error, and finds no descriptors in the object. -/
theorem attachFails (h : SharedInv s) (i : ι) (err : Dterr) (hfd : s.self.fd = -1)
    (hlistenFd : s.self.listenFd = -1) : SharedInv (s.attachReturns i (some err)) := by
  have hdisconnected : s.self.isConnected = false := by
    by_contra hset
    have hnonneg := h.connected (eq_true_of_ne_false hset)
    omega
  exact { h.attachReturns i with failed := fun _ _ => ⟨hfd, hlistenFd, hdisconnected⟩ }

/-- The connection function of an attach returns without an error: the attach is to store what it
    got. -/
theorem connected_goto (h : SharedInv s) {i : ι} {fds : DescriptorTable SocketKind} {fd listenFd : ℤ}
    (hconnects : Connects s.fds fds listenFd fd) :
    SharedInv ({ s with fds := fds }.goto i (.attaching .storeFd fd listenFd)) := by
  have hothers : ∀ j, j ≠ i →
      Function.update s.calls i (.attaching .storeFd fd listenFd) j = s.calls j :=
    fun j hj => Function.update_of_ne hj _ _
  constructor
  · refine h.fdVars.put hconnects.table (some i) ?_ ?_
    · show CallPc.pendingFd (Function.update s.calls i _ i) = -1 ∨
        s.fds.IsNew fds (CallPc.pendingFd (Function.update s.calls i _ i)) .connected
      rw [Function.update_self]
      exact hconnects.fd
    · refine Option.forall.2 ⟨fun _ => rfl, fun j hj => ?_⟩
      exact congrArg CallPc.pendingFd (hothers j fun heq => hj (congrArg some heq))
  · refine h.listenFdVars.put hconnects.table (some i) ?_ ?_
    · show CallPc.pendingListenFd (Function.update s.calls i _ i) = -1 ∨
        s.fds.IsNew fds (CallPc.pendingListenFd (Function.update s.calls i _ i)) .listening
      rw [Function.update_self]
      exact hconnects.listenFd
    · refine Option.forall.2 ⟨fun _ => rfl, fun j hj => ?_⟩
      exact congrArg CallPc.pendingListenFd (hothers j fun heq => hj (congrArg some heq))
  · exact h.connected
  · exact hconnects.table.closedOnce h.closedOnce
  · exact h.rollsBack_goto id
  · exact nofun

/-- The attach stores `fd`: its local variable is handed to the object. -/
theorem storeFd_goto (h : SharedInv s) {i : ι} {fd listenFd : ℤ}
    (hi : s.calls i = .attaching .storeFd fd listenFd) (hfd : 0 ≤ fd) :
    SharedInv ({ s with self := { s.self with fd := fd } }.goto i
      (.attaching .storeListenFd fd listenFd)) := by
  have hpending : s.fdVars (some i) = fd := congrArg CallPc.pendingFd hi
  have hlistening : s.listenFdVars (some i) = listenFd := congrArg CallPc.pendingListenFd hi
  constructor
  · refine h.fdVars.rename (Equiv.swap none (some i)) (Equiv.injective _) (Option.forall.2 ⟨?_, ?_⟩)
    · rw [Equiv.swap_apply_left, hpending]
      exact Or.inr rfl
    · refine (Function.forall_update_iff s.calls fun j pc => pc.pendingFd = -1 ∨
        pc.pendingFd = s.fdVars (Equiv.swap none (some i) (some j))).2 ⟨Or.inl rfl, fun j hj => ?_⟩
      rw [Equiv.swap_apply_of_ne_of_ne (Option.some_ne_none j) fun heq => hj (Option.some.inj heq)]
      exact Or.inr rfl
  · refine h.listenFdVars.clear (Option.forall.2 ⟨Or.inr rfl, ?_⟩)
    exact (Function.forall_update_iff s.calls fun j pc => pc.pendingListenFd = -1 ∨
      pc.pendingListenFd = s.listenFdVars (some j)).2 ⟨Or.inr hlistening.symm, fun j _ => Or.inr rfl⟩
  · exact fun _ => hfd
  · exact h.closedOnce
  · exact h.rollsBack_goto id
  · exact nofun

/-- The attach stores `listen_fd`. -/
theorem storeListenFd_goto (h : SharedInv s) {i : ι} {fd listenFd : ℤ}
    (hi : s.calls i = .attaching .storeListenFd fd listenFd) :
    SharedInv ({ s with self := { s.self with listenFd := listenFd } }.goto i
      (.attaching .setConnected fd listenFd)) := by
  have hpending : s.listenFdVars (some i) = listenFd := congrArg CallPc.pendingListenFd hi
  constructor
  · refine h.fdVars.clear (Option.forall.2 ⟨Or.inr rfl, ?_⟩)
    exact (Function.forall_update_iff s.calls fun j pc => pc.pendingFd = -1 ∨
      pc.pendingFd = s.fdVars (some j)).2 ⟨Or.inl rfl, fun j _ => Or.inr rfl⟩
  · refine h.listenFdVars.rename (Equiv.swap none (some i)) (Equiv.injective _)
      (Option.forall.2 ⟨?_, ?_⟩)
    · rw [Equiv.swap_apply_left, hpending]
      exact Or.inr rfl
    · refine (Function.forall_update_iff s.calls fun j pc => pc.pendingListenFd = -1 ∨
        pc.pendingListenFd = s.listenFdVars (Equiv.swap none (some i) (some j))).2
          ⟨Or.inl rfl, fun j hj => ?_⟩
      rw [Equiv.swap_apply_of_ne_of_ne (Option.some_ne_none j) fun heq => hj (Option.some.inj heq)]
      exact Or.inr rfl
  · exact h.connected
  · exact h.closedOnce
  · exact h.rollsBack_goto id
  · exact nofun

/-- A step of an attach that has connected. -/
theorem attachStep (h : SharedInv s) {i : ι} {pc : AttachPc} {fd listenFd : ℤ} {dterr : Option Dterr}
    (hi : s.calls i = .attaching pc fd listenFd) (hundisturbed : pc.Undisturbed s.self fd dterr)
    (hstep : s.attachStep i fd listenFd dterr pc = some s') : SharedInv s' := by
  cases pc with
  | storeFd =>
      obtain rfl := Option.some.inj hstep
      exact h.storeFd_goto hi hundisturbed
  | storeListenFd =>
      obtain rfl := Option.some.inj hstep
      exact h.storeListenFd_goto hi
  | setConnected =>
      obtain rfl := Option.some.inj hstep
      have hgoto : SharedInv (s.goto i (.attaching .create fd listenFd)) := h.goto ⟨rfl, rfl, id⟩
      exact { hgoto with connected := fun _ => hundisturbed, failed := nofun }
  | create =>
      obtain rfl : dterr = none := hundisturbed
      obtain rfl := Option.some.inj hstep
      exact h.goto ⟨rfl, rfl, id⟩
  | start =>
      obtain rfl : dterr = none := hundisturbed
      obtain rfl := Option.some.inj hstep
      exact h.keep (quietens_goto ⟨rfl, rfl, id⟩ rfl) rfl rfl rfl id nofun
  | wait k =>
      obtain rfl : dterr = none := hundisturbed
      obtain ⟨-, ⟨⟩⟩ := Option.ite_none_right_eq_some.1 hstep
      exact h.attachReturns i
  | closeFd err | closeListenFd err =>
      refine absurd ?_ (h.rollsBack i)
      rw [hi]
      trivial

/-- A step of a call. -/
theorem callStep (h : SharedInv s) {i : ι} {e : CallEvent}
    (hundisturbed : (s.calls i).Undisturbed s.self s.fds e) (hstep : s.callStep i e = some s') :
    SharedInv s' := by
  have hidle : CallPc.Quiet .idle := ⟨rfl, rfl, id⟩
  have hsending : CallPc.Quiet .sending := ⟨rfl, rfl, id⟩
  have hdetaching : ∀ closing, CallPc.Quiet (.detaching closing) := fun _ => ⟨rfl, rfl, id⟩
  cases e with
  | attach =>
      simp only [Shared.callStep] at hstep
      split at hstep
      · split at hstep
        · obtain rfl := Option.some.inj hstep
          exact h.attachReturns i
        · obtain rfl := Option.some.inj hstep
          exact h.goto ⟨rfl, rfl, id⟩
      · cases hstep
  | connect client server =>
      simp only [Shared.callStep] at hstep
      split at hstep
      · next hi =>
          rw [hi] at hundisturbed
          have hconnects := connectSockets_spec s.self.mode h.closedOnce client server
          split at hstep
          · next err herr =>
              obtain rfl := Option.some.inj hstep
              obtain ⟨hfd, hlistenFd⟩ := hundisturbed (by rw [herr]; exact Option.some_ne_none err)
              exact (h.later hconnects.table).attachFails i err hfd hlistenFd
          · obtain rfl := Option.some.inj hstep
            exact h.connected_goto hconnects
      · cases hstep
  | detach =>
      simp only [Shared.callStep] at hstep
      split at hstep
      · obtain rfl := Option.some.inj hstep
        exact h.disconnect.goto (hdetaching .testFd)
      · cases hstep
  | write =>
      simp only [Shared.callStep] at hstep
      split at hstep
      · split at hstep
        · obtain rfl := Option.some.inj hstep
          exact h.goto hidle
        · obtain rfl := Option.some.inj hstep
          exact h.goto hsending
      · cases hstep
  | next dterr =>
      simp only [Shared.callStep] at hstep
      split at hstep
      · next pc fd listenFd hi =>
          rw [hi] at hundisturbed
          exact h.attachStep hi hundisturbed hstep
      · next closing hi =>
          rw [hi] at hundisturbed
          obtain ⟨⟨self, fds, closing'⟩, hclose, rfl⟩ := Option.map_eq_some_iff.1 hstep
          refine h.closing (quietens_goto ?_ rfl) hundisturbed hclose rfl
          split
          · exact hidle
          · exact hdetaching closing'
      · split at hstep
        · obtain rfl := Option.some.inj hstep
          exact h.disconnect.goto hidle
        · obtain rfl := Option.some.inj hstep
          exact h.goto hidle
      · cases hstep
      · cases hstep

end

end SharedInv

/-- A step of a receive task that closes nothing. -/
theorem taskStep_keeps [Dtringfifo F] {self self' : Tcp F} {fds fds' : DescriptorTable SocketKind}
    {t t' : ReaderTask TaskPc} {e : TaskEvent}
    (h : taskStep self fds t e = some (self', fds', t')) (hfd : ∀ dterr, t.pc ≠ .closeFd dterr)
    (hlistenFd : ∀ dterr, t.pc ≠ .closeListenFd dterr) :
    fds' = fds ∧ self'.fd = self.fd ∧ self'.listenFd = self.listenFd ∧
      (self'.isConnected = true → self.isConnected = true) := by
  cases taskStep_effect h with
  | ready hpc | notReady hpc | recv hpc | wakeReaders hpc => exact ⟨rfl, rfl, rfl, id⟩
  | @recvReturns _ result post _ _ =>
      obtain ⟨_, _, _, hself⟩ := recvReturned_frame self result post
      rw [hself]
      exact ⟨rfl, rfl, rfl, id⟩
  | flags hpc => exact ⟨rfl, rfl, rfl, nofun⟩
  | closeFd hpc => exact absurd hpc (hfd _)
  | closeListenFd hpc => exact absurd hpc (hlistenFd _)

/-- A step of a receive task. -/
theorem SharedInv.task [Dtringfifo F] {s : Shared ι F} (h : SharedInv s) {t t' : RxThread}
    {e : TaskEvent} {self : Tcp F} {fds : DescriptorTable SocketKind} (tasks : List RxThread)
    (hundisturbed : t.Undisturbed s.self)
    (hstep : Shared.taskStep s.self s.fds t e = some (self, fds, t')) :
    SharedInv { s with self := self, fds := fds, tasks := tasks, attached := none } := by
  have hcalls : s.Quietens { s with self := self, fds := fds, tasks := tasks, attached := none } :=
    fun _ => Or.inl rfl
  unfold Shared.taskStep at hstep
  split at hstep
  · next dterr _ hpc =>
      obtain ⟨⟨self', fds', closing⟩, hclose, heq⟩ := Option.map_eq_some_iff.1 hstep
      simp only [Prod.mk.injEq] at heq
      obtain ⟨rfl, rfl, -⟩ := heq
      unfold RxThread.Undisturbed at hundisturbed
      rw [hpc] at hundisturbed
      exact h.closing hcalls hundisturbed hclose rfl
  · cases hstep
  · cases hstep
  · next hfd hlistenFd _ =>
      obtain ⟨⟨self', fds', task⟩, htask, heq⟩ := Option.map_eq_some_iff.1 hstep
      simp only [Prod.mk.injEq] at heq
      obtain ⟨rfl, rfl, -⟩ := heq
      obtain ⟨rfl, hsame, hlisten, hconnected⟩ := taskStep_keeps htask hfd hlistenFd
      exact h.keep hcalls rfl hsame hlisten hconnected nofun

/-- **Step lemma.** -/
theorem SharedInv.step [DecidableEq ι] [Dtringfifo F] {s s' : Shared ι F} {e : SharedEvent ι}
    (h : SharedInv s) (hundisturbed : Undisturbed s e) (hstep : s.step e = some s') :
    SharedInv s' := by
  cases e with
  | call i e => exact h.callStep hundisturbed hstep
  | task k e =>
      simp only [Shared.step] at hstep
      split at hstep
      · cases hstep
      · next t ht =>
          obtain ⟨⟨self, fds, t'⟩, htask, rfl⟩ := Option.map_eq_some_iff.1 hstep
          exact h.task _ (hundisturbed t ht) htask

/-- Nobody has used the object yet. -/
theorem SharedInv.configured (mode : Mode) (rxFifo : F) (rxSemaphore : Bool) :
    SharedInv (Shared.configured mode rxFifo rxSemaphore : Shared ι F) where
  fdVars := .none (Option.forall.2 ⟨rfl, fun _ => rfl⟩)
  listenFdVars := .none (Option.forall.2 ⟨rfl, fun _ => rfl⟩)
  connected := nofun
  closedOnce := ⟨List.nodup_nil, nofun⟩
  rollsBack _ := id
  failed := nofun

/-- **Descriptor ownership.** In every run of the threads of the application and the receive tasks on a
    configured object: if every thread that comes to close a descriptor of the object still finds it
    there, with `is_connected` clear, and every attach that connects gets a descriptor, still finds one
    when it sets `is_connected`, and gets no error from `dttasker`, and every attach that fails to
    connect finds the object without descriptors, then in every state the members hold no descriptor or
    an open one, the object is connected only with a descriptor, no descriptor has been closed twice,
    and an attach that returned an error has left the object without a connection. -/
theorem tcp_owns_descriptors [DecidableEq ι] [Dtringfifo F] (mode : Mode) (rxFifo : F)
    (rxSemaphore : Bool) (events : List (SharedEvent ι))
    (hundisturbed : Run.AllSteps Shared.step Undisturbed
      (.configured mode rxFifo rxSemaphore : Shared ι F) events) :
    Run.AllStates Shared.step OwnsDescriptors
      (.configured mode rxFifo rxSemaphore : Shared ι F) events :=
  (Run.allStates_of_allSteps (P := SharedInv) (fun _ _ _ h hC hstep => h.step hC hstep) events _
    (.configured mode rxFifo rxSemaphore) hundisturbed).imp fun _ h => h.ownsDescriptors

/-- The connection function of attach, when the first address will do. -/
def connectFirst : CallEvent :=
  .connect ⟨none, [⟨true, none, none⟩]⟩ ⟨none, [⟨true, none, true⟩], .new .io "", none, none, none⟩

/-- Thread 0 attaches, and task `k` starts. -/
def attachRun (k : ℕ) : List (SharedEvent ℕ) :=
  [.call 0 .attach, .call 0 connectFirst, .call 0 (.next none), .call 0 (.next none),
    .call 0 (.next none), .call 0 (.next none), .call 0 (.next none), .task k (.ready none),
    .call 0 (.next none)]

/-- The peer of task `k` closes the connection, and the task comes to its `cleanup:`. -/
def peerCloses (k : ℕ) : List (SharedEvent ℕ) :=
  [.task k .recv, .task k (.recvReturns (.bytes []) none), .task k (.cleanup none)]

/-- A server is attached, another thread writes, the peer closes the connection, the task closes both
    sockets, an attach finds no address to bind, another connects, and its connection is detached. -/
def undisturbedRun : List (SharedEvent ℕ) :=
  attachRun 0 ++ [.call 1 .write, .call 1 (.next (some (.new .io "TCP send returned 0")))] ++
    peerCloses 0 ++ List.replicate 5 (.task 0 (.cleanup none)) ++
    [.call 0 .attach, .call 0 (.connect ⟨none, []⟩ ⟨none, [], .new .io "", none, none, none⟩)] ++
    attachRun 1 ++ .call 0 .detach :: List.replicate 4 (.call 0 (.next none))

theorem tcp_owns_descriptors_reattached :
    Run.AllStates Shared.step OwnsDescriptors
      (.configured .server (⟨64, []⟩ : ByteFifo) true : Shared ℕ ByteFifo) undisturbedRun :=
  tcp_owns_descriptors .server (⟨64, []⟩ : ByteFifo) true undisturbedRun (by decide +kernel)

/-- `dttasker_create` fails when the descriptors are stored. -/
def createFailsRun : List (SharedEvent ℕ) :=
  [.call 0 .attach, .call 0 connectFirst, .call 0 (.next none), .call 0 (.next none),
    .call 0 (.next none), .call 0 (.next (some (.new .io "no memory"))), .call 0 (.next none),
    .call 0 (.next none)]

/-- No `socket` call succeeds. -/
def noSocketRun : List (SharedEvent ℕ) :=
  [.call 0 .attach, .call 0 (.connect ⟨none, [⟨false, none, none⟩]⟩
    ⟨none, [], .new .io "", none, none, none⟩),
    .call 0 (.next none), .call 0 (.next none), .call 0 (.next none)]

/-- The application detaches while the task closes the descriptor. -/
def closedTwiceRun : List (SharedEvent ℕ) :=
  attachRun 0 ++ peerCloses 0 ++ [.task 0 (.cleanup none), .call 0 .detach, .call 0 (.next none),
    .call 0 (.next none), .task 0 (.cleanup none)]

/-- An attach fails to bind while the task has closed `fd` but not yet `listen_fd`. -/
def attachFailsRun : List (SharedEvent ℕ) :=
  attachRun 0 ++ peerCloses 0 ++ [.task 0 (.cleanup none), .task 0 (.cleanup none), .call 0 .attach,
    .call 0 (.connect ⟨none, []⟩ ⟨none, [], .new .io "bind failed", none, none, none⟩)]

/-- A client keeps a closed descriptor when `dttasker_create` fails, is connected without a descriptor
    when no socket can be created, and closes its descriptor twice when the application detaches while
    the task cleans up; a failed attach leaves the listening socket of a server open. -/
theorem descriptors_not_owned :
    ¬Run.AllStates Shared.step OwnsDescriptors
      (.configured .client (⟨64, []⟩ : ByteFifo) true : Shared ℕ ByteFifo) createFailsRun ∧
    ¬Run.AllStates Shared.step OwnsDescriptors
      (.configured .client (⟨64, []⟩ : ByteFifo) true : Shared ℕ ByteFifo) noSocketRun ∧
    ¬Run.AllStates Shared.step OwnsDescriptors
      (.configured .client (⟨64, []⟩ : ByteFifo) true : Shared ℕ ByteFifo) closedTwiceRun ∧
    ¬Run.AllStates Shared.step OwnsDescriptors
      (.configured .server (⟨64, []⟩ : ByteFifo) true : Shared ℕ ByteFifo) attachFailsRun := by
  refine ⟨fun h => ?_, fun h => ?_, fun h => ?_, fun h => ?_⟩
  · obtain ⟨s, howns, hfd, hclosed⟩ := h.ends (Q := fun s => s.self.fd = 0 ∧ s.fds.closed = [0])
      (by decide +kernel)
    have hholds := howns.fd
    rw [hfd] at hholds
    rcases hholds with hnone | hopen
    · exact absurd hnone (by decide)
    · exact hopen.notClosed (hclosed ▸ List.mem_singleton_self _)
  · obtain ⟨s, howns, hfd, hconnected⟩ := h.ends
      (Q := fun s => s.self.fd = -1 ∧ s.self.isConnected = true) (by decide +kernel)
    have hnonneg := howns.connected hconnected
    omega
  · obtain ⟨s, howns, hclosed⟩ := h.ends (Q := fun s => s.fds.closed = [0, 0]) (by decide +kernel)
    have honce := howns.closedOnce
    rw [hclosed] at honce
    exact absurd honce (by decide)
  · obtain ⟨s, howns, hlistenFd, hfailed⟩ := h.ends
      (Q := fun s => s.self.listenFd = 0 ∧ s.attached.any (·.isSome) = true) (by decide +kernel)
    obtain ⟨dterr, hattached, hsome⟩ := (Option.any_eq_true _ _).1 hfailed
    obtain ⟨err, rfl⟩ := Option.isSome_iff_exists.1 hsome
    have hclosed := (howns.failed err hattached).2.1
    omega

end DtioxLinuxTcp
