import DtmcLinux.Foundation.Lockstep
import DtmcLinux.Modbus.LockBalance

set_option autoImplicit false

/-! # The receive sides of the two masters

A master with its receive task: the loop of `dtiox_linux_modbus_*_master__rxtask_entry`, the tasker
that records its end, and the calls `read`, `enable` and `set_rx_semaphore`. Both masters run on the
same events, which carry the results of the libmodbus calls. -/

/-- The defaults `dtiox_linux_modbus_rtu_master_configure` fills in. -/
def DtioxLinuxModbusRtuMaster.Config.withDefaults (dm : DtioxModbus)
    (cfg : DtioxLinuxModbusRtuMaster.Config) : DtioxLinuxModbusRtuMaster.Config where
  device := cfg.device
  slaveId := if cfg.slaveId = 0 then 1 else cfg.slaveId
  pollIntervalMs := if cfg.pollIntervalMs ≤ 0 then 25 else cfg.pollIntervalMs
  responseTimeoutMs := if cfg.responseTimeoutMs ≤ 0 then 250 else cfg.responseTimeoutMs
  byteTimeoutMs := cfg.byteTimeoutMs
  maxBlobBytes :=
    if cfg.maxBlobBytes ≤ 0 ∨ cfg.maxBlobBytes > dm.maxBlobBytes then dm.maxBlobBytes
    else cfg.maxBlobBytes
  permitRetryPartialWrites := cfg.permitRetryPartialWrites
  rxRingCapacity := if cfg.rxRingCapacity = 0 then 1024 else cfg.rxRingCapacity

namespace ModbusMaster

/-! ## The receive task -/

/-- Where the receive task of a master is. -/
inductive RxTask where
  /-- at the top of its loop -/
  | looping
  /-- it waits for the lock to make its requests -/
  | polling
  /-- its entry function has returned -/
  | returned (dterr : Option Dterr)
  /-- the tasker has recorded that -/
  | stopped (dterr : Option Dterr)
  deriving DecidableEq

/-- What `dttasker_get_info` tells of the task; `stateText` names the states RUNNING (`true`) and
    STOPPED. -/
def RxTask.info (stateText : Bool → String) : RxTask → TaskerInfo
  | .stopped dterr => ⟨false, stateText false, dterr⟩
  | _ => ⟨true, stateText true, none⟩

variable {τ Cfg Cfg' F : Type*}

/-- A master, its receive task, and what the reads so far have returned. -/
structure Receiver (τ Cfg F : Type*) where
  world : World τ Cfg F
  task : RxTask
  reads : List (Option Dterr × Option (List UInt8))

/-- A step of the receive task, or a call by thread `t`. -/
inductive ReceiveEvent (τ : Type*) where
  | rxtaskLoop (t : τ)
  | pollRound (t : τ) (cmd hdr data : LibResult) (hdrRegs : UInt16 × UInt16)
      (dataRegs : ℕ → UInt16)
  | rxtaskStopped
  | read (t : τ) (bufLen : ℤ)
  | enable (t : τ) (enabled : Bool)
  | setRxSemaphore (t : τ) (rxSemaphore : Bool)

section

variable [DecidableEq τ]

/-- The top of the loop: what the task does next is decided by a snapshot under the lock. -/
def loopTop (w : World τ Cfg F) (t : τ) : Option (World τ Cfg F × RxTask) :=
  (locked w t fun w => (w, .releaseLockAndCleanup, none)).map fun r =>
    (r.1,
      match r.2 with
      | some e => .returned (some e)
      | none =>
        if w.self.stopRequested then .returned none
        else if w.self.enabled && w.self.mb.isSome then .polling
        else .looping)

/-- An error of a poll round ends the entry function. -/
def afterRound : Option Dterr → RxTask
  | some e => .returned (some e)
  | none => .looping

/-- One step of a master `b`. -/
def Receiver.step {C R X : Type*} (b : PublicBackend τ Cfg F C R X) (stateText : Bool → String)
    (s : Receiver τ Cfg F) : ReceiveEvent τ → Option (Receiver τ Cfg F)
  | .rxtaskLoop t =>
    if s.task = .looping then
      (loopTop s.world t).map fun r => { s with world := r.1, task := r.2 }
    else none
  | .pollRound t cmd hdr data hdrRegs dataRegs =>
    if s.task = .polling then
      (b.pollRound s.world t cmd hdr data hdrRegs dataRegs).map fun r =>
        { s with world := r.1, task := afterRound r.2 }
    else none
  | .rxtaskStopped =>
    match s.task with
    | .returned dterr => some { s with task := .stopped dterr }
    | _ => none
  | .read t bufLen =>
    (b.read s.world t bufLen (.ok (s.task.info stateText))).map fun r =>
      { s with world := r.1, reads := s.reads ++ [r.2] }
  | .enable t enabled => (b.enable s.world t enabled).map fun r => { s with world := r.1 }
  | .setRxSemaphore t rxSemaphore =>
    (b.setRxSemaphore s.world t rxSemaphore).map fun r => { s with world := r.1 }

end

/-! ## The property and its condition -/

/-- The TCP and the RTU master. -/
abbrev Receivers (τ F : Type*) :=
  Receiver τ DtioxLinuxModbusTcpMaster.Config F × Receiver τ DtioxLinuxModbusRtuMaster.Config F

/-- Both masters take the event. -/
def Receivers.step [DecidableEq τ] [Dtringfifo F] (dm : DtioxModbus) (stateText : Bool → String) :
    Receivers τ F → ReceiveEvent τ → Option (Receivers τ F) :=
  Lockstep.step (Receiver.step (DtioxLinuxModbusTcpMaster.publicBackend dm) stateText)
    (Receiver.step (DtioxLinuxModbusRtuMaster.publicBackend dm) stateText)

/-- A run of the pair is a run of each master. -/
theorem Receivers.exec_eq_some [DecidableEq τ] [Dtringfifo F] {dm : DtioxModbus}
    {stateText : Bool → String} {s t : Receivers τ F} {events : List (ReceiveEvent τ)} :
    Run.exec (Receivers.step dm stateText) s events = some t ↔
      Run.exec (Receiver.step (DtioxLinuxModbusTcpMaster.publicBackend dm) stateText) s.1 events
          = some t.1 ∧
        Run.exec (Receiver.step (DtioxLinuxModbusRtuMaster.publicBackend dm) stateText) s.2 events
          = some t.2 :=
  Lockstep.exec_eq_some _ _

variable [Dtringfifo F]

/-- The two receive sides agree. -/
def Agree (a : Receiver τ Cfg F) (b : Receiver τ Cfg' F) : Prop :=
  Dtringfifo.contents a.world.self.rxFifo = Dtringfifo.contents b.world.self.rxFifo ∧
  a.world.self.rxOverflowPending = b.world.self.rxOverflowPending ∧
  a.world.self.deadSlavePending = b.world.self.deadSlavePending ∧
  a.world.rxPosts = b.world.rxPosts ∧
  a.reads = b.reads

instance (a : Receiver τ Cfg F) (b : Receiver τ Cfg' F) : Decidable (Agree a b) :=
  instDecidableAnd

omit [Dtringfifo F] in
/-- A read request of the round fails. -/
def ReadFails (dm : DtioxModbus) (maxBlob : ℤ) (hdr data : LibResult)
    (hdrRegs : UInt16 × UInt16) : Prop :=
  hdr.rc ≠ 2 ∨
    ∃ byteLen ∈ pollByteLen dm maxBlob hdrRegs.1 hdrRegs.2, data.rc ≠ pollNeedRegs dm byteLen

instance (dm : DtioxModbus) (maxBlob : ℤ) (hdr data : LibResult) (hdrRegs : UInt16 × UInt16) :
    Decidable (ReadFails dm maxBlob hdr data hdrRegs) := instDecidableOr

/-- The round succeeds and the FIFO takes some of its bytes. -/
def StoresBytes (dm : DtioxModbus) (maxBlob : ℤ) (rxFifo : F) (hdr data : LibResult)
    (hdrRegs : UInt16 × UInt16) (dataRegs : ℕ → UInt16) : Prop :=
  ¬ReadFails dm maxBlob hdr data hdrRegs ∧
    ∃ byteLen ∈ pollByteLen dm maxBlob hdrRegs.1 hdrRegs.2,
      0 < (Dtringfifo.push rxFifo (dm.unpackRegsToBytes dataRegs byteLen.toNat)).2

instance (dm : DtioxModbus) (maxBlob : ℤ) (rxFifo : F) (hdr data : LibResult)
    (hdrRegs : UInt16 × UInt16) (dataRegs : ℕ → UInt16) :
    Decidable (StoresBytes dm maxBlob rxFifo hdr data hdrRegs dataRegs) := instDecidableAnd

/-- The condition on a step, in a state where the masters agree: a round whose command succeeds has
    no read that fails, unless the slave is marked dead already, and stores no bytes while a
    semaphore is set. -/
def StaysTogether (dm : DtioxModbus) (s : Receivers τ F) : ReceiveEvent τ → Prop
  | .pollRound _ cmd hdr data hdrRegs dataRegs =>
    let self := s.1.world.self
    let maxBlob := pollMaxBlob dm self.cfg.maxBlobBytes
    s.1.task = .polling → cmd.rc = 2 →
      (ReadFails dm maxBlob hdr data hdrRegs → self.deadSlavePending = true) ∧
      (StoresBytes dm maxBlob self.rxFifo hdr data hdrRegs dataRegs → self.rxSemaphore = false)
  | _ => True

instance (dm : DtioxModbus) (s : Receivers τ F) : ∀ e, Decidable (StaysTogether dm s e)
  | .pollRound _ _ _ _ _ _ => inferInstanceAs (Decidable (_ = _ → _ = _ → _ ∧ _))
  | .rxtaskLoop _ => instDecidableTrue
  | .rxtaskStopped => instDecidableTrue
  | .read _ _ => instDecidableTrue
  | .enable _ _ => instDecidableTrue
  | .setRxSemaphore _ _ => instDecidableTrue

end ModbusMaster
