import DtmcLinux.Dtiox.Canbus
import DtmcLinux.Dtiox.StreamRx
import DtmcLinux.Foundation.DescriptorTable
import DtmcLinux.Foundation.StepRun

set_option autoImplicit false

/-! # The life of a CAN object

Attach opens the socket, allocates the storage of the FIFO and starts the receive task; when it fails it
takes back what it has made. It does so too when `dttasker_start` fails although there is a thread: the
task then goes on with a socket that is closed and a FIFO whose storage is freed. Detach and dispose do
nothing: a task runs until it fails, and no other one is started for the object after that. -/

namespace DtioxLinuxCanbus

open DescriptorTable Ownership

/-- The status of a tasker, as far as this one takes it. -/
inductive TaskerStatus where
  | initialized
  | running
  | stopped
  deriving DecidableEq

/-- Where the receive task is in `_rx_task_entry`. -/
inductive RxPc where
  /-- before `dttasker_ready` -/
  | created
  /-- in `recv` -/
  | receiving
  /-- it has a frame to push -/
  | pushing (frame : CanFrame)
  /-- at the label `cleanup:` -/
  | cleanup (dterr : Dterr)
  /-- the thread has exited -/
  | returned

/-- A tasker: where its thread is, if it has one, what it tells, the flag `ready_posted`, and whether
    ready was posted. -/
structure RxTasker where
  pc : Option RxPc
  status : TaskerStatus
  dterr : Option DterrPtr
  readyPosted : Bool
  ready : Bool

/-- A tasker that has been created. -/
def RxTasker.init : RxTasker :=
  { pc := none, status := .initialized, dterr := none, readyPosted := false, ready := false }

inductive AppPc where
  | idle
  /-- in attach, where `dttasker_start` waits for the thread of the tasker -/
  | starting (i : ℕ)
  deriving DecidableEq

/-- The object with its environment: a handle of a tasker is its number, and the storage of the FIFO
    the number of the allocated block, -1 for `NULL`. -/
structure Life (F : Type*) where
  self : Canbus F
  interfaceName : String
  rxRingCapacity : ℤ
  rxEnabled : Bool
  rxSemaphore : Bool
  rxFifoStorage : ℤ
  rxTaskerHandle : Option ℕ
  app : AppPc
  taskers : List RxTasker
  sockets : DescriptorTable Unit
  blocks : DescriptorTable Unit
  ledger : Ledger

/-- `errno` and its text. -/
structure Errno where
  errno : ℤ
  strerror : String

/-- What the calls of attach return: `configure` is what `dtringfifo_configure` makes of the FIFO for a
    capacity, and `start` the error of `dttasker_start` before there is a thread. -/
structure AttachCalls (F : Type*) where
  socket : Option Errno
  ioctl : Option Errno
  bind : Option Errno
  malloc : Bool
  configure : ℤ → Except Dterr F
  create : Option Dterr
  start : Option Dterr

/-- A step of the receive task. -/
inductive RxEvent where
  | ready
  /-- `dttasker_ready` fails; whether it has set the status and the flag `ready_posted` before -/
  | notReady (dterr : Dterr) (running readyPosted : Bool)
  | received (frame : CanFrame)
  | recvFails (e : Errno)
  | recvShort (n : ℤ)
  /-- with the result of the post on `rx_semaphore` that may follow -/
  | push (post : Option Dterr)
  /-- the thread sets its last status, and posts ready unless `ready_posted` is set -/
  | exit

inductive LifeEvent (F : Type*) where
  | attach (calls : AttachCalls F)
  /-- `dttasker_start` returns from its wait -/
  | started (wait : Option Dterr)
  | rx (i : ℕ) (e : RxEvent)
  | read (bufLen : Int32) (getInfo : InfoCall)
  | enable (enabled : Bool)

variable {F : Type*} [Dtringfifo F]

/-! ## Attach -/

/-- `dtiox_linux_canbus_DEFAULT_RX_RING_CAPACITY` -/
def defaultRxRingCapacity : ℤ := 1024

/-- `_rx_fifo_capacity_from_config` -/
def rxFifoCapacityFromConfig (rxRingCapacity : ℤ) : ℤ :=
  if rxRingCapacity ≤ 0 then defaultRxRingCapacity else rxRingCapacity

/-- The label `cleanup:` of attach, after an error. -/
def attachCleanup (s : Life F) : Life F :=
  { s with
    self := { s.self with
      sockFd := closedVar s.self.sockFd
      rxFifo := Dtringfifo.reset s.self.rxFifo }
    rxFifoStorage := closedVar s.rxFifoStorage
    app := .idle
    sockets := s.sockets.closeIfOpen s.self.sockFd
    blocks := s.blocks.closeIfOpen s.rxFifoStorage }

/-- The end of attach; no result when `dttasker_start` waits. -/
def startRxTask (s : Life F) (calls : AttachCalls F) : Life F × Option (Option Dterr) :=
  match calls.create with
  | some err => (attachCleanup { s with rxTaskerHandle := none }, some (some err))
  | none =>
    let i := s.taskers.length
    match calls.start with
    | some err =>
      (attachCleanup { s with rxTaskerHandle := some i, taskers := s.taskers ++ [.init] },
        some (some err))
    | none =>
      ({ s with
          rxTaskerHandle := some i
          taskers := s.taskers ++ [{ RxTasker.init with pc := some .created }]
          app := .starting i }, none)

/-- The middle of attach: the storage of the FIFO. -/
def allocateRxFifo (s : Life F) (calls : AttachCalls F) : Life F × Option (Option Dterr) :=
  let capacity := rxFifoCapacityFromConfig s.rxRingCapacity
  if capacity ≤ 0 then
    (attachCleanup s,
      some (some (.new .badarg "rx_ring_capacity must be > 0 after defaults applied")))
  else
    let s := { s with
      blocks := s.blocks.closeIfOpen s.rxFifoStorage
      rxFifoStorage := closedVar s.rxFifoStorage }
    if !calls.malloc then
      (attachCleanup s, some (some (.new .nomem s!"malloc rx ring buffer {capacity} bytes failed")))
    else
      let (blocks, rxFifoStorage) := s.blocks.create ()
      let s := { s with blocks := blocks, rxFifoStorage := rxFifoStorage }
      match calls.configure capacity with
      | .error err => (attachCleanup s, some (some err))
      | .ok rxFifo => startRxTask { s with self := { s.self with rxFifo := rxFifo } } calls

/-- `dtiox_linux_canbus_attach`, up to the wait of `dttasker_start`: the error, if it returns before. -/
def attach (s : Life F) (calls : AttachCalls F) : Life F × Option (Option Dterr) :=
  let ifname := s.interfaceName
  if s.self.sockFd ≥ 0 then (s, some none)
  else
    match calls.socket with
    | some ⟨errno, strerror⟩ =>
      (attachCleanup s,
        some (some (.new .fail s!"socket(PF_CAN, SOCK_RAW) failed: {errno} ({strerror})")))
    | none =>
      let (sockets, fd) := s.sockets.create ()
      match calls.ioctl with
      | some ⟨errno, strerror⟩ =>
        (attachCleanup { s with sockets := sockets.close fd },
          some (some (.new .fail
            s!"ioctl(SIOCGIFINDEX) for \"{ifname}\" failed: {errno} ({strerror})")))
      | none =>
        match calls.bind with
        | some ⟨errno, strerror⟩ =>
          (attachCleanup { s with sockets := sockets.close fd },
            some (some (.new .fail s!"bind(can, \"{ifname}\") failed: {errno} ({strerror})")))
        | none =>
          allocateRxFifo { s with sockets := sockets, self := { s.self with sockFd := fd } } calls

/-- `dttasker_start` returns: ready was posted, or the wait fails. -/
def started (s : Life F) (wait : Option Dterr) : Option (Life F) :=
  match s.app with
  | .idle => none
  | .starting i =>
    match wait with
    | none => if (s.taskers[i]?).any (·.ready) then some { s with app := .idle } else none
    | some _ => some (attachCleanup s)

/-! ## The receive task -/

/-- `_rx_fifo_push_locked` -/
def rxFifoPushLocked (self : Canbus F) (src : List UInt8) : Canbus F × ℕ :=
  if src.length = 0 then (self, 0)
  else
    let (rxFifo, written) := Dtringfifo.push self.rxFifo src
    let dropped := Int32.ofNat src.length - Int32.ofNat written
    let self := { self with rxFifo := rxFifo }
    if dropped > 0 then
      ({ self with
          rxOverflowFlag := true
          fifoDroppedBytes :=
            if Int32.maxValue - self.fifoDroppedBytes ≥ dropped then self.fifoDroppedBytes + dropped
            else Int32.maxValue }, written)
    else (self, written)

omit [Dtringfifo F] in
def Life.setTasker (s : Life F) (i : ℕ) (t : RxTasker) : Life F :=
  { s with taskers := s.taskers.set i t }

/-- One step of `_rx_task_entry` by the thread of the tasker `i`. -/
def rxStep (s : Life F) (i : ℕ) (t : RxTasker) : RxEvent → Option (Life F)
  | .ready =>
    match t.pc with
    | some .created =>
      some (s.setTasker i { t with
        pc := some .receiving
        status := .running
        readyPosted := true
        ready := true })
    | _ => none
  | .notReady dterr running readyPosted =>
    match t.pc with
    | some .created =>
      some (s.setTasker i { t with
        pc := some (.cleanup dterr)
        status := if running then .running else t.status
        readyPosted := readyPosted })
    | _ => none
  | .received frame =>
    match t.pc with
    | some .receiving =>
      if frame.payload.length = 0 ∨ s.rxEnabled = false then some s
      else some (s.setTasker i { t with pc := some (.pushing frame) })
    | _ => none
  | .recvFails ⟨errno, strerror⟩ =>
    match t.pc with
    | some .receiving =>
      some (s.setTasker i { t with
        pc := some (.cleanup (.new .io s!"SocketCAN recv failed: {errno} ({strerror})")) })
    | _ => none
  | .recvShort n =>
    match t.pc with
    | some .receiving =>
      some (s.setTasker i { t with
        pc := some (.cleanup (.new .io s!"SocketCAN recv returned unexpected size: {n}")) })
    | _ => none
  | .push post =>
    match t.pc with
    | some (.pushing frame) =>
      let (self, written) := rxFifoPushLocked s.self frame.payload
      let s := { s with self := self }
      match (if written > 0 && s.rxSemaphore then post else none) with
      | none => some (s.setTasker i { t with pc := some .receiving })
      | some dterr => some (s.setTasker i { t with pc := some (.cleanup dterr) })
    | _ => none
  | .exit =>
    match t.pc with
    | some (.cleanup dterr) =>
      let (ledger, p) := s.ledger.fresh dterr
      some ({ s with ledger := ledger }.setTasker i
        { pc := some .returned
          status := .stopped
          dterr := some p
          readyPosted := true
          ready := t.ready || !t.readyPosted })
    | _ => none

/-! ## Runs -/

/-- `dtiox_linux_canbus_enable` -/
def enable (s : Life F) (enabled : Bool) : Life F :=
  if enabled then
    { s with self := { s.self with rxFifo := Dtringfifo.reset s.self.rxFifo }, rxEnabled := true }
  else { s with rxEnabled := false }

variable (stateToString : TaskerStatus → String)

omit [Dtringfifo F] in
/-- What `dttasker_get_info` finds; nothing without a tasker. -/
def Life.taskInfo (s : Life F) : TaskInfoPtr :=
  match s.rxTaskerHandle.bind fun i => s.taskers[i]? with
  | some t => { running := t.status = .running, status := stateToString t.status, dterr := t.dterr }
  | none => { running := false, status := stateToString .initialized, dterr := none }

/-- One step. -/
def lifeStep (s : Life F) : LifeEvent F → Option (Life F)
  | .attach calls => if s.app = .idle then some (attach s calls).1 else none
  | .started wait => started s wait
  | .rx i e =>
    match s.taskers[i]? with
    | some t => rxStep s i t e
    | none => none
  | .read bufLen getInfo =>
    if s.rxTaskerHandle.isSome ∨ getInfo.dterr.isSome then
      let (ledger, self, _, _) := read s.ledger s.self bufLen getInfo (s.taskInfo stateToString)
      some { s with ledger := ledger, self := self }
    else none
  | .enable enabled => some (enable s enabled)

/-! ## What holds in every state -/

section

omit [Dtringfifo F]

/-- **What attach makes is owned.** The socket is open exactly while the storage is allocated, nothing else
    is, and nothing was closed or freed twice. -/
structure Owned (s : Life F) : Prop where
  socket : s.sockets.Owns s.self.sockFd ()
  storage : s.blocks.Owns s.rxFifoStorage ()
  both : 0 ≤ s.self.sockFd ↔ 0 ≤ s.rxFifoStorage

/-- The task uses the socket and the FIFO. -/
def RxPc.uses : RxPc → Bool
  | .created => true
  | .receiving => true
  | .pushing _ => true
  | .cleanup _ => false
  | .returned => false

def RxTasker.uses (t : RxTasker) : Bool := t.pc.any RxPc.uses

/-- A task that uses the socket and the FIFO has them, and is the one whose tasker the object knows. -/
def OwnTaskOnly (s : Life F) : Prop :=
  ∀ i t, s.taskers[i]? = some t → t.uses = true → 0 ≤ s.self.sockFd ∧ s.rxTaskerHandle = some i

/-- When the wait of `dttasker_start` fails, the thread has come to its end. -/
def FailsWithTask (s : Life F) : LifeEvent F → Prop
  | .started (some _) => ∀ i t, s.app = .starting i → s.taskers[i]? = some t → t.uses = false
  | _ => True

/-- The object is attached, and the thread of its task has exited. -/
structure Ended (s : Life F) : Prop where
  attached : 0 ≤ s.self.sockFd
  idle : s.app = .idle
  task : ∃ i t, s.rxTaskerHandle = some i ∧ s.taskers[i]? = some t ∧ t.pc = some .returned ∧
    t.status = .stopped

/-- The invariant. -/
structure Steady (s : Life F) : Prop extends Owned s where
  starting : ∀ i, s.app = .starting i → s.rxTaskerHandle = some i

/-- A step that makes nothing and takes nothing back. -/
structure Same (s s' : Life F) : Prop where
  sockFd : s'.self.sockFd = s.self.sockFd
  rxFifoStorage : s'.rxFifoStorage = s.rxFifoStorage
  rxTaskerHandle : s'.rxTaskerHandle = s.rxTaskerHandle
  app : s'.app = s.app ∨ s'.app = .idle
  sockets : s'.sockets = s.sockets
  blocks : s'.blocks = s.blocks
  uses : ∀ (i : ℕ) (t' : RxTasker), s'.taskers[i]? = some t' → t'.uses = true →
    ∃ t : RxTasker, s.taskers[i]? = some t ∧ t.uses = true
  returned : ∀ (i : ℕ) (t : RxTasker), s.taskers[i]? = some t → t.pc = some .returned →
    s'.taskers[i]? = some t

variable {s s' : Life F}

theorem Steady.same (h : Steady s) (hsame : Same s s') : Steady s' where
  socket := by
    rw [hsame.sockets, hsame.sockFd]
    exact h.socket
  storage := by
    rw [hsame.blocks, hsame.rxFifoStorage]
    exact h.storage
  both := by
    rw [hsame.sockFd, hsame.rxFifoStorage]
    exact h.both
  starting i hi := by
    rw [hsame.rxTaskerHandle]
    rcases hsame.app with happ | happ
    · exact h.starting i (happ.symm.trans hi)
    · rw [happ] at hi
      cases hi

theorem OwnTaskOnly.same (h : OwnTaskOnly s) (hsame : Same s s') : OwnTaskOnly s' := by
  intro i t' ht' huses'
  obtain ⟨t, ht, huses⟩ := hsame.uses i t' ht' huses'
  rw [hsame.sockFd, hsame.rxTaskerHandle]
  exact h i t ht huses

/-! ## The receive task -/

/-- A thread goes on; it does not begin to use anything. -/
theorem same_setTasker {self : Canbus F} {ledger : Ledger} (hself : self.sockFd = s.self.sockFd) {i : ℕ}
    {t t' : RxTasker} (ht : s.taskers[i]? = some t) {pc : RxPc} (hpc : t.pc = some pc)
    (hlive : pc ≠ .returned) (huses : t'.uses = true → pc.uses = true) :
    Same s ({ s with self := self, ledger := ledger }.setTasker i t') where
  sockFd := hself
  rxFifoStorage := rfl
  rxTaskerHandle := rfl
  app := .inl rfl
  sockets := rfl
  blocks := rfl
  uses j u hu hused := by
    change (s.taskers.set i t')[j]? = some u at hu
    by_cases hij : i = j
    · subst hij
      rw [List.getElem?_set_self (List.getElem?_eq_some_iff.1 ht).1] at hu
      obtain rfl := Option.some.inj hu
      refine ⟨t, ht, ?_⟩
      rw [RxTasker.uses, hpc]
      exact huses hused
    · rw [List.getElem?_set_ne hij] at hu
      exact ⟨u, hu, hused⟩
  returned j u hu hreturned := by
    show (s.taskers.set i t')[j]? = some u
    by_cases hij : i = j
    · subst hij
      obtain rfl := Option.some.inj (ht.symm.trans hu)
      exact absurd (Option.some.inj (hpc.symm.trans hreturned)) hlive
    · rw [List.getElem?_set_ne hij]
      exact hu

theorem Same.refl (s : Life F) : Same s s where
  sockFd := rfl
  rxFifoStorage := rfl
  rxTaskerHandle := rfl
  app := .inl rfl
  sockets := rfl
  blocks := rfl
  uses _ t ht huses := ⟨t, ht, huses⟩
  returned _ _ ht _ := ht

end

variable {s s' : Life F}

theorem rxFifoPushLocked_sockFd (self : Canbus F) (src : List UInt8) :
    (rxFifoPushLocked self src).1.sockFd = self.sockFd := by
  unfold rxFifoPushLocked
  split
  · rfl
  · dsimp only
    split
    · rfl
    · rfl

/-- A step of a task leaves the socket and the storage alone, and a task that has stopped using them does
    not begin again. -/
theorem rxStep_same {i : ℕ} {t : RxTasker} (ht : s.taskers[i]? = some t) {e : RxEvent}
    (hstep : rxStep s i t e = some s') : Same s s' := by
  cases e with
  | ready =>
      simp only [rxStep] at hstep
      split at hstep
      · next hpc =>
          obtain rfl := Option.some.inj hstep
          exact same_setTasker rfl ht hpc (by simp) fun _ => rfl
      · cases hstep
  | notReady dterr running readyPosted =>
      simp only [rxStep] at hstep
      split at hstep
      · next hpc =>
          obtain rfl := Option.some.inj hstep
          exact same_setTasker rfl ht hpc (by simp) fun _ => rfl
      · cases hstep
  | received frame =>
      simp only [rxStep] at hstep
      split at hstep
      · next hpc =>
          split at hstep
          · obtain rfl := Option.some.inj hstep
            exact .refl s
          · obtain rfl := Option.some.inj hstep
            exact same_setTasker rfl ht hpc (by simp) fun _ => rfl
      · cases hstep
  | recvFails e =>
      simp only [rxStep] at hstep
      split at hstep
      · next hpc =>
          obtain rfl := Option.some.inj hstep
          exact same_setTasker rfl ht hpc (by simp) fun _ => rfl
      · cases hstep
  | recvShort n =>
      simp only [rxStep] at hstep
      split at hstep
      · next hpc =>
          obtain rfl := Option.some.inj hstep
          exact same_setTasker rfl ht hpc (by simp) fun _ => rfl
      · cases hstep
  | push post =>
      simp only [rxStep] at hstep
      split at hstep
      · next frame hpc =>
          have hself := rxFifoPushLocked_sockFd s.self frame.payload
          split at hstep
          · obtain rfl := Option.some.inj hstep
            exact same_setTasker hself ht hpc (by simp) fun _ => rfl
          · obtain rfl := Option.some.inj hstep
            exact same_setTasker hself ht hpc (by simp) fun _ => rfl
      · cases hstep
  | exit =>
      simp only [rxStep] at hstep
      split at hstep
      · next hpc =>
          obtain rfl := Option.some.inj hstep
          exact same_setTasker rfl ht hpc (by simp) fun huses => absurd huses Bool.false_ne_true
      · cases hstep

theorem rxFifoPopLocked_sockFd (self : Canbus F) (len : Int32) :
    (rxFifoPopLocked self len).1.sockFd = self.sockFd := by
  unfold rxFifoPopLocked
  split
  · rfl
  · rfl

theorem read_sockFd (l : Ledger) (self : Canbus F) (bufLen : Int32) (getInfo : InfoCall)
    (info : TaskInfoPtr) : (read l self bufLen getInfo info).2.1.sockFd = self.sockFd := by
  unfold read
  dsimp only
  generalize (if (l.freshOpt getInfo.dterr).2.isNone = true then info.dterr
    else (l.freshOpt getInfo.dterr).2) = dterr
  split
  · rfl
  · split
    · rfl
    · split
      · rfl
      · exact rxFifoPopLocked_sockFd self bufLen

theorem readStep_same (s : Life F) (l : Ledger) (bufLen : Int32) (getInfo : InfoCall)
    (info : TaskInfoPtr) :
    Same s { s with
      ledger := (read l s.self bufLen getInfo info).1
      self := (read l s.self bufLen getInfo info).2.1 } where
  sockFd := read_sockFd l s.self bufLen getInfo info
  rxFifoStorage := rfl
  rxTaskerHandle := rfl
  app := .inl rfl
  sockets := rfl
  blocks := rfl
  uses _ t ht huses := ⟨t, ht, huses⟩
  returned _ _ ht _ := ht

theorem enable_same (s : Life F) (enabled : Bool) : Same s (enable s enabled) := by
  unfold enable
  split
  · exact ⟨rfl, rfl, rfl, .inl rfl, rfl, rfl, fun _ t ht huses => ⟨t, ht, huses⟩,
    fun _ _ ht _ => ht⟩
  · exact ⟨rfl, rfl, rfl, .inl rfl, rfl, rfl, fun _ t ht huses => ⟨t, ht, huses⟩,
    fun _ _ ht _ => ht⟩

/-! ## Attach -/

/-- What an attach that finds the object detached comes to: it fails and leaves it detached, or waits for
    the task it has started. -/
inductive Attaches (s s' : Life F) : Prop where
  | fails (howned : Owned s') (happ : s'.app = .idle) (hfd : s'.self.sockFd < 0)
      (huses : ∀ (i : ℕ) (t' : RxTasker), s'.taskers[i]? = some t' → t'.uses = true →
        ∃ t : RxTasker, s.taskers[i]? = some t ∧ t.uses = true)
  | waits (howned : Owned s') (hfd : 0 ≤ s'.self.sockFd) (happ : s'.app = .starting s.taskers.length)
      (hhandle : s'.rxTaskerHandle = some s.taskers.length) (t : RxTasker)
      (htaskers : s'.taskers = s.taskers ++ [t])

theorem attachCleanup_owned (hsocket : s.sockets.Owns s.self.sockFd ())
    (hstorage : s.blocks.Owns s.rxFifoStorage ()) : Owned (attachCleanup s) where
  socket := hsocket.closeIfOpen
  storage := hstorage.closeIfOpen
  both := iff_of_false (Int.not_le.2 (closedVar_neg _)) (Int.not_le.2 (closedVar_neg _))

/-- Whatever has been made so far is taken back. -/
theorem attachCleanup_attaches {s₁ : Life F} (hsocket : s₁.sockets.Owns s₁.self.sockFd ())
    (hstorage : s₁.blocks.Owns s₁.rxFifoStorage ()) (htaskers : s₁.taskers = s.taskers) :
    Attaches s (attachCleanup s₁) := by
  refine .fails (attachCleanup_owned hsocket hstorage) rfl (closedVar_neg _) fun i t ht huses => ?_
  change s₁.taskers[i]? = some t at ht
  rw [htaskers] at ht
  exact ⟨t, ht, huses⟩

theorem startRxTask_attaches {s₁ : Life F} (howned : Owned s₁) (hfd : 0 ≤ s₁.self.sockFd)
    (htaskers : s₁.taskers = s.taskers) (calls : AttachCalls F) :
    Attaches s (startRxTask s₁ calls).1 := by
  unfold startRxTask
  split
  · exact attachCleanup_attaches howned.socket howned.storage htaskers
  · dsimp only
    split
    · refine .fails (attachCleanup_owned howned.socket howned.storage) rfl (closedVar_neg _)
        fun i t ht huses => ?_
      change (s₁.taskers ++ [.init])[i]? = some t at ht
      rw [htaskers, List.getElem?_append] at ht
      split at ht
      · exact ⟨t, ht, huses⟩
      · -- the new tasker has no thread
        obtain rfl := List.mem_singleton.1 (List.mem_of_getElem? ht)
        cases huses
    · refine .waits ⟨howned.socket, howned.storage, howned.both⟩ hfd ?_ ?_
        { RxTasker.init with pc := some .created } ?_
      · show AppPc.starting s₁.taskers.length = _
        rw [htaskers]
      · show some s₁.taskers.length = _
        rw [htaskers]
      · show s₁.taskers ++ _ = _
        rw [htaskers]

theorem allocateRxFifo_attaches {s₁ : Life F} (hsocket : s₁.sockets.Owns s₁.self.sockFd ())
    (hstorage : s₁.blocks.Owns s₁.rxFifoStorage ()) (hfd : 0 ≤ s₁.self.sockFd)
    (htaskers : s₁.taskers = s.taskers) (calls : AttachCalls F) :
    Attaches s (allocateRxFifo s₁ calls).1 := by
  have hfreed := hstorage.closeIfOpen
  have hnew := hfreed.create (closedVar_neg _)
  have hnonneg := create_snd_nonneg (s₁.blocks.closeIfOpen s₁.rxFifoStorage) ()
  unfold allocateRxFifo
  dsimp only
  split
  · exact attachCleanup_attaches hsocket hstorage htaskers
  · split
    · exact attachCleanup_attaches hsocket hfreed htaskers
    · split
      · exact attachCleanup_attaches hsocket hnew htaskers
      · refine startRxTask_attaches ?_ ?_ ?_ calls
        · exact ⟨hsocket, hnew, iff_of_true hfd hnonneg⟩
        · exact hfd
        · exact htaskers

/-- **Attach** does nothing for an object that is attached; else it fails as a whole or starts the task. -/
theorem attach_attaches (h : Owned s) (calls : AttachCalls F) :
    (0 ≤ s.self.sockFd ∧ (attach s calls).1 = s) ∨
      (s.self.sockFd < 0 ∧ Attaches s (attach s calls).1) := by
  unfold attach
  dsimp only
  split
  · next hfd => exact .inl ⟨hfd, rfl⟩
  · next hfd =>
      have hneg : s.self.sockFd < 0 := Int.not_le.1 hfd
      have hclosed := h.socket.createClose hneg
      refine .inr ⟨hneg, ?_⟩
      split
      · exact attachCleanup_attaches h.socket h.storage rfl
      · split
        · exact attachCleanup_attaches hclosed h.storage rfl
        · split
          · exact attachCleanup_attaches hclosed h.storage rfl
          · refine allocateRxFifo_attaches ?_ ?_ ?_ ?_ calls
            · exact h.socket.create hneg
            · exact h.storage
            · exact create_snd_nonneg s.sockets ()
            · rfl

omit [Dtringfifo F] in
theorem Attaches.steady (h : Attaches s s') : Steady s' := by
  cases h with
  | fails howned happ hfd huses =>
      refine ⟨howned, fun i hi => ?_⟩
      rw [happ] at hi
      cases hi
  | waits howned hfd happ hhandle t htaskers =>
      refine ⟨howned, fun i hi => ?_⟩
      rw [hhandle]
      exact congrArg some (AppPc.starting.inj (happ.symm.trans hi))

omit [Dtringfifo F] in
/-- While the object is detached no task uses anything. -/
theorem OwnTaskOnly.detached (h : OwnTaskOnly s) (hfd : s.self.sockFd < 0) {i : ℕ} {t : RxTasker}
    (ht : s.taskers[i]? = some t) : ¬t.uses = true :=
  fun huses => absurd (h i t ht huses).1 (Int.not_le.2 hfd)

omit [Dtringfifo F] in
theorem Attaches.ownTaskOnly (hattach : Attaches s s') (hfd : s.self.sockFd < 0)
    (h : OwnTaskOnly s) : OwnTaskOnly s' := by
  cases hattach with
  | fails howned happ hfd' huses =>
      intro i t' ht' huses'
      obtain ⟨t, ht, hused⟩ := huses i t' ht' huses'
      exact absurd hused (h.detached hfd ht)
  | waits howned hfd' happ hhandle t htaskers =>
      intro i t' ht' huses'
      rw [htaskers, List.getElem?_append] at ht'
      split at ht'
      · exact absurd huses' (h.detached hfd ht')
      · next hge =>
          have hlt := (List.getElem?_eq_some_iff.1 ht').1
          rw [List.length_singleton] at hlt
          refine ⟨hfd', ?_⟩
          rw [hhandle]
          exact congrArg some (by omega)

/-! ## Steps -/

/-- The wait of `dttasker_start` fails: attach takes back what its task uses, if it does. -/
theorem OwnTaskOnly.startFails (h : OwnTaskOnly s) {i : ℕ} (hi : s.app = .starting i)
    (hhandle : s.rxTaskerHandle = some i) {err : Dterr} :
    OwnTaskOnly (attachCleanup s) ↔ FailsWithTask s (.started (some err)) := by
  constructor
  · intro hown j t hj ht
    by_contra huses
    rw [Bool.not_eq_false] at huses
    exact absurd (hown j t ht huses).1 (Int.not_le.2 (closedVar_neg _))
  · intro hends j t ht huses
    change s.taskers[j]? = some t at ht
    -- only the task that was started could use anything
    obtain rfl := Option.some.inj (hhandle.symm.trans (h j t ht huses).2)
    rw [hends i t hi ht] at huses
    cases huses

/-- **One step.** What attach makes stays owned; the tasks keep what they use exactly if no
    `dttasker_start` fails while its thread goes on. -/
theorem Steady.lifeStep {stateToString : TaskerStatus → String} {e : LifeEvent F} (h : Steady s)
    (hstep : lifeStep stateToString s e = some s') :
    Steady s' ∧ (OwnTaskOnly s → (OwnTaskOnly s' ↔ FailsWithTask s e)) := by
  have hsame : ∀ {t : Life F}, FailsWithTask s e → Same s t →
      Steady t ∧ (OwnTaskOnly s → (OwnTaskOnly t ↔ FailsWithTask s e)) := fun htrue hsame =>
    ⟨h.same hsame, fun hown => iff_of_true (hown.same hsame) htrue⟩
  cases e with
  | attach calls =>
      obtain ⟨-, hs⟩ := Option.ite_none_right_eq_some.1 hstep
      obtain rfl := Option.some.inj hs
      rcases attach_attaches h.toOwned calls with ⟨-, heq⟩ | ⟨hfd, hattach⟩
      · rw [heq]
        exact hsame trivial (.refl s)
      · exact ⟨hattach.steady, fun hown => iff_of_true (hattach.ownTaskOnly hfd hown) trivial⟩
  | started wait =>
      simp only [DtioxLinuxCanbus.lifeStep, started] at hstep
      split at hstep
      · cases hstep
      · next i hi =>
          cases wait with
          | none =>
              obtain ⟨-, hs⟩ := Option.ite_none_right_eq_some.1 hstep
              obtain rfl := Option.some.inj hs
              refine hsame trivial ?_
              exact ⟨rfl, rfl, rfl, .inr rfl, rfl, rfl, fun _ t ht huses => ⟨t, ht, huses⟩,
    fun _ _ ht _ => ht⟩
          | some err =>
              obtain rfl := Option.some.inj hstep
              refine ⟨⟨attachCleanup_owned h.socket h.storage, fun _ hstarting => ?_⟩, fun hown => ?_⟩
              · cases hstarting
              · exact hown.startFails hi (h.starting i hi)
  | rx i e =>
      simp only [DtioxLinuxCanbus.lifeStep] at hstep
      split at hstep
      · next t ht => exact hsame trivial (rxStep_same ht hstep)
      · cases hstep
  | read bufLen getInfo =>
      obtain ⟨-, hs⟩ := Option.ite_none_right_eq_some.1 hstep
      obtain rfl := Option.some.inj hs
      exact hsame trivial (readStep_same s _ _ _ _)
  | enable enabled =>
      obtain rfl := Option.some.inj hstep
      exact hsame trivial (enable_same s enabled)

/-! ## A task that has ended -/

/-- Attach reports success and does nothing, and no read gets anything but an error. -/
structure Deaf (stateToString : TaskerStatus → String) (s : Life F) : Prop where
  attach : ∀ calls, attach s calls = (s, some none)
  read : ∀ bufLen getInfo,
    (read s.ledger s.self bufLen getInfo (s.taskInfo stateToString)).2.2.1 ≠ none

/-- A read that finds the task not running reports an error. -/
theorem read_error (l : Ledger) (self : Canbus F) (bufLen : Int32) (getInfo : InfoCall)
    {info : TaskInfoPtr} (hstopped : info.running = false) :
    (read l self bufLen getInfo info).2.2.1 ≠ none := by
  unfold read
  dsimp only
  rw [hstopped, Bool.not_false, Bool.or_true, if_pos rfl]
  simp

theorem Ended.deaf (h : Ended s) (stateToString : TaskerStatus → String) : Deaf stateToString s where
  attach calls := if_pos h.attached
  read bufLen getInfo := by
    obtain ⟨i, t, hhandle, ht, -, hstatus⟩ := h.task
    refine read_error _ _ _ _ ?_
    rw [Life.taskInfo, hhandle, Option.bind_some, ht]
    exact decide_eq_false (by simp [hstatus])

omit [Dtringfifo F] in
theorem Ended.same (h : Ended s) (hsame : Same s s') : Ended s' where
  attached := by
    rw [hsame.sockFd]
    exact h.attached
  idle := by
    rcases hsame.app with happ | happ
    · exact happ.trans h.idle
    · exact happ
  task := by
    obtain ⟨i, t, hhandle, ht, hpc, hstatus⟩ := h.task
    exact ⟨i, t, hsame.rxTaskerHandle.trans hhandle, hsame.returned i t ht hpc, hpc, hstatus⟩

/-- Nothing starts another task. -/
theorem Ended.lifeStep {stateToString : TaskerStatus → String} {e : LifeEvent F} (h : Ended s)
    (hstep : lifeStep stateToString s e = some s') : Ended s' := by
  cases e with
  | attach calls =>
      obtain ⟨-, hs⟩ := Option.ite_none_right_eq_some.1 hstep
      obtain rfl := Option.some.inj hs
      rw [(h.deaf stateToString).attach]
      exact h
  | started wait =>
      simp only [DtioxLinuxCanbus.lifeStep, started, h.idle] at hstep
      cases hstep
  | rx i e =>
      simp only [DtioxLinuxCanbus.lifeStep] at hstep
      split at hstep
      · next t ht => exact h.same (rxStep_same ht hstep)
      · cases hstep
  | read bufLen getInfo =>
      obtain ⟨-, hs⟩ := Option.ite_none_right_eq_some.1 hstep
      obtain rfl := Option.some.inj hs
      exact h.same (readStep_same s _ _ _ _)
  | enable enabled =>
      obtain rfl := Option.some.inj hstep
      exact h.same (enable_same s enabled)

/-! ## Runs -/

omit [Dtringfifo F] in
/-- A configured object, before its first attach. -/
def Life.configured (interfaceName : String) (rxRingCapacity : ℤ) (rxFifo : F) (rxSemaphore : Bool)
    (ledger : Ledger) : Life F where
  self := { sockFd := -1, rxOverflowFlag := false, rxFifo := rxFifo, fifoDroppedBytes := 0 }
  interfaceName := interfaceName
  rxRingCapacity := rxRingCapacity
  rxEnabled := true
  rxSemaphore := rxSemaphore
  rxFifoStorage := -1
  rxTaskerHandle := none
  app := .idle
  taskers := []
  sockets := .empty
  blocks := .empty
  ledger := ledger

omit [Dtringfifo F] in
theorem steady_life_configured (interfaceName : String) (rxRingCapacity : ℤ) (rxFifo : F)
    (rxSemaphore : Bool) (ledger : Ledger) :
    Steady (.configured interfaceName rxRingCapacity rxFifo rxSemaphore ledger : Life F) where
  socket := owns_empty
  storage := owns_empty
  both := Iff.rfl
  starting i hi := by cases hi

/-- **All or nothing, in every run** of attaches, receive tasks, reads and enables: the socket is open
    exactly while the storage of the FIFO is allocated, no other socket or storage is, and none is closed
    or freed twice. All along the run a receive task that uses them has them, and is the only one, exactly
    if whenever the wait of `dttasker_start` fails the thread has come to its end. Once the task of an
    attached object has ended, attach does nothing more and all reads report an error, for ever. -/
theorem canbus_all_or_nothing (stateToString : TaskerStatus → String) (interfaceName : String)
    (rxRingCapacity : ℤ) (rxFifo : F) (rxSemaphore : Bool) (ledger : Ledger) (es : List (LifeEvent F)) :
    Run.AllStates (lifeStep stateToString) Owned
        (.configured interfaceName rxRingCapacity rxFifo rxSemaphore ledger) es ∧
      (Run.AllStates (lifeStep stateToString) OwnTaskOnly
          (.configured interfaceName rxRingCapacity rxFifo rxSemaphore ledger) es ↔
        Run.AllSteps (lifeStep stateToString) FailsWithTask
          (.configured interfaceName rxRingCapacity rxFifo rxSemaphore ledger) es) ∧
      Run.AllStates (lifeStep stateToString)
        (fun s => Ended s → ∀ fs, Run.AllStates (lifeStep stateToString) (Deaf stateToString) s fs)
        (.configured interfaceName rxRingCapacity rxFifo rxSemaphore ledger) es := by
  have hsteady := steady_life_configured interfaceName rxRingCapacity rxFifo rxSemaphore ledger
  have hrun : Run.AllStates (lifeStep stateToString) Steady
      (.configured interfaceName rxRingCapacity rxFifo rxSemaphore ledger) es :=
    Run.allStates_of_invariant (fun _ _ _ h hstep => (h.lifeStep hstep).1) es _ hsteady
  refine ⟨hrun.imp fun _ h => h.toOwned, ?_, ?_⟩
  · refine Run.allStates_iff_allSteps (I := Steady) (fun _ _ _ h _ hstep _ => (h.lifeStep hstep).1)
      (fun _ _ _ h hown hstep => (h.lifeStep hstep).2 hown) ?_ es _ hsteady
      (fun i t ht => by cases ht)
    -- outside attach nothing waits
    intro s e _ _ hblocked
    cases e with
    | started wait =>
        cases wait with
        | none => trivial
        | some err =>
            intro i t hi
            simp [lifeStep, started, hi] at hblocked
    | attach calls => trivial
    | rx i e => trivial
    | read bufLen getInfo => trivial
    | enable enabled => trivial
  · refine hrun.imp fun s _ hended fs => ?_
    have hends : Run.AllStates (lifeStep stateToString) Ended s fs :=
      Run.allStates_of_invariant (fun _ _ _ h hstep => h.lifeStep hstep) fs s hended
    exact hends.imp fun _ h => h.deaf stateToString

/-- The bus goes down after a successful attach. -/
def busGoesDown : List (LifeEvent ByteFifo) :=
  [.attach ⟨none, none, none, true, fun capacity => .ok ⟨capacity.toNat, []⟩, none, none⟩, .rx 0 .ready,
    .started none, .rx 0 (.recvFails ⟨100, "Network is down"⟩), .rx 0 .exit]

example : (Run.exec (lifeStep fun _ => "")
    (.configured "can0" 0 ⟨0, []⟩ true ⟨0, [], []⟩) busGoesDown).map
      (fun s => (s.self.sockFd, s.app, s.rxTaskerHandle, s.taskers.map (·.status))) =
    some (0, .idle, some 0, [.stopped]) := rfl

end DtioxLinuxCanbus
