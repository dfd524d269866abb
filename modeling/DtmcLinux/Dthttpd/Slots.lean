import DtmcLinux.Dtcore.Dterr
import DtmcLinux.Foundation.Handoff
import DtmcLinux.Foundation.StepRun
import Mathlib.Data.Int.Notation

set_option autoImplicit false

/-! # The client slots of the HTTP server

`dthttpd_linux_socket.c`: the accept loop gives every connection a slot and a thread of its own; the
thread serves the request, closes the connection and marks the slot finished, and a later iteration
of the loop joins it. Descriptors are numbered in the order in which they are accepted. A step is
one call, or one critical section under `server->lock`; the accept loop keeps the lock while
`dttasker_start` waits for the new thread, which runs meanwhile. -/

namespace DthttpdLinuxSocket

/-- `_client_slot_t`; a tasker handle is the number of the tasker. -/
structure Slot where
  isActive : Bool
  isJoined : Bool
  clientFd : ℤ
  taskerHandle : Option ℕ
  deriving DecidableEq

/-- `_client_slot_init`. -/
def Slot.init : Slot := { isActive := false, isJoined := true, clientFd := -1, taskerHandle := none }

/-- Where a thread is in `_client_task_entry`. -/
inductive TaskPc where
  /-- before `dttasker_ready` -/
  | created
  /-- it reads the request and sends the response, on `slot->client_fd` -/
  | serving
  /-- at the label `cleanup:` -/
  | closing
  /-- before `_mark_slot_finished` -/
  | finishing
  /-- the entry function returns -/
  | returning
  /-- `thread_exited` is set -/
  | exited
  deriving DecidableEq

/-- The thread has not closed its connection. -/
def TaskPc.beforeClose : TaskPc → Bool
  | .created => true
  | .serving => true
  | .closing => true
  | _ => false

/-- The thread has not marked its slot finished. -/
def TaskPc.beforeFinish : TaskPc → Bool
  | .returning => false
  | .exited => false
  | _ => true

/-- A tasker whose thread was created: its slot, the connection it was created for, the thread, and
    whether the thread has posted ready, has been joined, and the tasker has been disposed. -/
structure ClientTask where
  slot : ℕ
  fd : ℕ
  pc : TaskPc
  ready : Bool
  joined : Bool
  disposed : Bool
  deriving DecidableEq

/-- Where the accept loop is. -/
inductive AcceptPc where
  /-- before `dttasker_poll` -/
  | top
  /-- a connection is accepted, the lock not taken yet -/
  | accepted (fd : ℕ)
  /-- it holds the lock, and `dttasker_start` waits for the thread -/
  | starting (fd slot task : ℕ)
  /-- the lock is released, the connection is rejected -/
  | rejecting (fd : ℕ)
  /-- the lock is released, after an error -/
  | cleanup (fd : ℕ)
  | stopped
  deriving DecidableEq

/-- The server and its threads. `accepted` is the number of connections accepted so far, and `closes`
    the list of the `close` calls on them, the latest first: by the accept loop, the dispatcher, or
    by the thread of a tasker, a worker. -/
structure State where
  maxConcurrentConnections : ℤ
  slots : List Slot
  activeClientCount : ℤ
  tasks : List ClientTask
  acceptPc : AcceptPc
  accepted : ℕ
  closes : List (Party × ℕ)

/-- Nobody holds `server->lock` between two steps. -/
def State.LockFree (s : State) : Prop := ∀ fd slot task, s.acceptPc ≠ .starting fd slot task

/-- `_close_if_open`. -/
def State.closeIfOpen (s : State) (who : Party) (fd : ℤ) : State :=
  if 0 ≤ fd then { s with closes := (who, fd.toNat) :: s.closes } else s

def State.setSlot (s : State) (k : ℕ) (slot : Slot) : State :=
  { s with slots := s.slots.set k slot }

def State.setTask (s : State) (i : ℕ) (t : ClientTask) : State :=
  { s with tasks := s.tasks.set i t }

/-! ## Reaping -/

/-- `dttasker_join(handle, 0, &was_timeout)`: unless it fails, a thread that has exited is joined,
    and for another one it times out. -/
def State.join (s : State) (i : ℕ) : State × Bool :=
  match s.tasks[i]? with
  | some t => if t.pc = .exited then (s.setTask i { t with joined := true }, false) else (s, true)
  | none => (s, true)

/-- `dttasker_dispose`. -/
def State.dispose (s : State) (i : ℕ) : State :=
  match s.tasks[i]? with
  | some t => s.setTask i { t with disposed := true }
  | none => s

/-- `_try_reap_finished_slot`, with the error of the join. -/
def tryReapFinishedSlot (s : State) (k : ℕ) (slot : Slot) (join : Option Dterr) :
    State × Option Dterr :=
  if slot.isActive then
    (s, none)
  else
    match slot.taskerHandle with
    | none => (s.setSlot k { slot with isJoined := true }, none)
    | some i =>
      if !slot.isJoined then
        match join with
        | some err => (s, some err)
        | none =>
          match s.join i with
          | (s, true) => (s, none)
          | (s, false) =>
            ((s.dispose i).setSlot k { slot with isJoined := true, taskerHandle := none }, none)
      else
        ((s.dispose i).setSlot k { slot with taskerHandle := none }, none)

/-- `_reap_finished_slots_locked`, over the given indices. -/
def reapFinishedSlotsLocked (joins : ℕ → Option Dterr) : List ℕ → State → State × Option Dterr
  | [], s => (s, none)
  | k :: ks, s =>
    match s.slots[k]? with
    | none => (s, none)
    | some slot =>
      match tryReapFinishedSlot s k slot (joins k) with
      | (s, some err) => (s, some err)
      | (s, none) => reapFinishedSlotsLocked joins ks s

/-! ## The accept loop -/

/-- `_find_free_slot`; `none` is the error `DTERR_BUSY`. -/
def findFreeSlot (s : State) : Option ℕ :=
  s.slots.findIdx? fun slot => !slot.isActive && slot.taskerHandle.isNone

/-- What the calls in the critical section return: the joins, `dttasker_create`, and the error
    `dttasker_start` has before there is a thread. -/
structure AssignCalls where
  joins : ℕ → Option Dterr
  create : Option Dterr
  start : Option Dterr

/-- The slot `k` gets the connection; up to the wait in `dttasker_start`. -/
def assignSlot (s : State) (fd k : ℕ) (calls : AssignCalls) : State :=
  match calls.create with
  | some _ => { s.setSlot k .init with acceptPc := .cleanup fd }
  | none =>
    match calls.start with
    | some _ => { s.setSlot k .init with acceptPc := .cleanup fd }
    | none =>
      let i := s.tasks.length
      { s.setSlot k
          { isActive := true, isJoined := false, clientFd := fd, taskerHandle := some i } with
        tasks := s.tasks ++
          [{ slot := k, fd := fd, pc := .created, ready := false, joined := false,
             disposed := false }]
        acceptPc := .starting fd k i }

/-- The critical section of the accept loop, up to the wait in `dttasker_start`. -/
def assign (s : State) (fd : ℕ) (calls : AssignCalls) : State :=
  match reapFinishedSlotsLocked calls.joins (List.range s.slots.length) s with
  | (s, some _) => { s with acceptPc := .cleanup fd }
  | (s, none) =>
    if s.activeClientCount ≥ s.maxConcurrentConnections then
      { s with acceptPc := .rejecting fd }
    else
      match findFreeSlot s with
      | none => { s with acceptPc := .rejecting fd }
      | some k => assignSlot s fd k calls

/-- `dttasker_start` returns from its wait: the thread is ready, or the wait fails. -/
def started (s : State) (wait : Option Dterr) : Option State :=
  match s.acceptPc with
  | .starting fd k i =>
    match wait with
    | none =>
      if (s.tasks[i]?).any (·.ready) then
        some { s with activeClientCount := s.activeClientCount + 1, acceptPc := .top }
      else none
    | some _ => some { (s.dispose i).setSlot k .init with acceptPc := .cleanup fd }
  | _ => none

/-- What `dttasker_poll` and `accept` do: the stop request is seen, `accept` fails and the loop goes
    on or ends, or there is a connection. -/
inductive AcceptResult where
  | stop
  | failed (ends : Bool)
  | client

/-! ## Steps -/

/-- A step of a client thread; `ready` carries the error of `dttasker_ready`, `exit` that of the last
    `dttasker_set_info`, after which ready is posted if it was not. -/
inductive TaskEvent where
  | ready (dterr : Option Dterr)
  /-- the request is answered, or an error leads to `cleanup:` -/
  | served
  | close
  | markFinished
  | exit (dterr : Option Dterr)

inductive Event where
  | accept (result : AcceptResult)
  | assign (calls : AssignCalls)
  | started (wait : Option Dterr)
  /-- the answer to a rejected client is sent, with any result, and its connection closed -/
  | reject
  /-- `accept_iteration_cleanup:` -/
  | cleanup
  | task (i : ℕ) (e : TaskEvent)

/-- `_mark_slot_finished`. -/
def markSlotFinished (s : State) (k : ℕ) (slot : Slot) : State :=
  if slot.isActive then
    { s.setSlot k { slot with isActive := false } with
      activeClientCount :=
        if s.activeClientCount > 0 then s.activeClientCount - 1 else s.activeClientCount }
  else s

instance (s : State) : Decidable s.LockFree :=
  match h : s.acceptPc with
  | .starting fd k i => .isFalse fun hfree => hfree fd k i h
  | .top => .isTrue fun _ _ _ => by rw [h]; simp
  | .accepted _ => .isTrue fun _ _ _ => by rw [h]; simp
  | .rejecting _ => .isTrue fun _ _ _ => by rw [h]; simp
  | .cleanup _ => .isTrue fun _ _ _ => by rw [h]; simp
  | .stopped => .isTrue fun _ _ _ => by rw [h]; simp

/-- One step of `_client_task_entry` by the thread `t` of the tasker `i`, with its slot. -/
def taskStep (s : State) (i : ℕ) (t : ClientTask) (slot : Slot) : TaskEvent → Option State
  | .ready dterr =>
    if t.pc = .created then
      match dterr with
      | none => some (s.setTask i { t with pc := .serving, ready := true })
      | some _ => some (s.setTask i { t with pc := .closing })
    else none
  | .served => if t.pc = .serving then some (s.setTask i { t with pc := .closing }) else none
  | .close =>
    if t.pc = .closing then
      some (((s.closeIfOpen (.worker i) slot.clientFd).setSlot t.slot
        { slot with clientFd := -1 }).setTask i { t with pc := .finishing })
    else none
  | .markFinished =>
    if t.pc = .finishing ∧ s.LockFree then
      some ((markSlotFinished s t.slot slot).setTask i { t with pc := .returning })
    else none
  | .exit dterr =>
    if t.pc = .returning then
      some (s.setTask i { t with pc := .exited, ready := t.ready || dterr.isSome })
    else none

/-- One step of the system. -/
def step (s : State) : Event → Option State
  | .accept result =>
    if s.acceptPc = .top then
      match result with
      | .stop => some { s with acceptPc := .stopped }
      | .failed ends => some { s with acceptPc := if ends then .stopped else .top }
      | .client => some { s with acceptPc := .accepted s.accepted, accepted := s.accepted + 1 }
    else none
  | .assign calls =>
    match s.acceptPc with
    | .accepted fd => some (assign s fd calls)
    | _ => none
  | .started wait => started s wait
  | .reject =>
    match s.acceptPc with
    | .rejecting fd => some { s.closeIfOpen .dispatcher fd with acceptPc := .top }
    | _ => none
  | .cleanup =>
    match s.acceptPc with
    | .cleanup fd => some { s.closeIfOpen .dispatcher fd with acceptPc := .top }
    | _ => none
  | .task i e =>
    match s.tasks[i]? with
    | none => none
    | some t =>
      match s.slots[t.slot]? with
      | none => none
      | some slot => taskStep s i t slot e

/-- A configured server that has been started: `configure` takes the default for a limit that is not
    positive, and makes as many slots. -/
def State.configured (defaultMaxConcurrentConnections maxConcurrentConnections : ℤ) : State :=
  let slotCount :=
    if maxConcurrentConnections ≤ 0 then defaultMaxConcurrentConnections
    else maxConcurrentConnections
  { maxConcurrentConnections := slotCount
    slots := List.replicate slotCount.toNat .init
    activeClientCount := 0
    tasks := []
    acceptPc := .top
    accepted := 0
    closes := [] }

end DthttpdLinuxSocket
