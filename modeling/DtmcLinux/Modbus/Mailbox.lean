import DtmcLinux.Foundation.StepRun
import DtmcLinux.Modbus.Master
import DtmcLinux.Modbus.Slave

set_option autoImplicit false

/-! # A TCP master and a TCP slave on one connection

Both ends are attached and enabled, the master is connected, and the transport does not fail. The
master holds its lock for a whole write and for a whole poll round, so at most one request is on the
wire. The slave replies to a query first and interprets the command afterwards, in a critical section
of its own: other operations can come in between. `none` is a step that cannot happen: a call that
waits for a lock, a reply that nobody sent, a request that fails. -/

namespace ModbusMailbox

open ModbusMaster DtioxLinuxModbusTcpSlave

/-- What the lock of the master is held for, and the reply its holder waits for. -/
inductive MasterPc where
  | free
  /-- a write of the given bytes waits for the reply to its request -/
  | writing (buf : List UInt8)
  /-- a poll round waits for the reply to the poll command -/
  | pollCmd
  /-- a poll round waits for the header -/
  | pollHdr
  /-- a poll round waits for the payload -/
  | pollData (byteLen : UInt16)
  deriving DecidableEq

/-- Where the session loop of the slave is. -/
inductive SlavePc where
  /-- in `modbus_receive` -/
  | receiving
  /-- after `modbus_reply`, before the lock -/
  | replied
  deriving DecidableEq

/-- The two ends and the wire. The last four fields record the bytes of the successful writes and of
    the reads of the two ends, in order. -/
structure State (F : Type*) where
  master : Master DtioxLinuxModbusTcpMaster.Config F
  masterPc : MasterPc
  slave : Slave F
  slavePc : SlavePc
  query : Option Query
  reply : Option Reply
  masterWritten : List UInt8
  masterGot : List UInt8
  slaveWritten : List UInt8
  slaveGot : List UInt8

/-- The operations of the four callers, and the steps of the two tasks. -/
inductive Event where
  /-- `dtiox_linux_modbus_tcp_master_write` sends its request -/
  | masterWrite (buf : List UInt8)
  | masterRead (bufLen : ℤ)
  /-- a poll round begins -/
  | masterPoll
  /-- the master gets the reply it waits for -/
  | masterReply
  | slaveWrite (buf : List UInt8)
  | slaveRead (bufLen : ℤ)
  /-- the session loop gets a query and replies to it -/
  | slaveReceive
  /-- the session loop interprets the command -/
  | slaveInterpret

variable {F : Type*} [Dtringfifo F]

namespace State

omit [Dtringfifo F] in
/-- The registers after attach: zero, with the S2M block set to "no data". -/
def attachedRegisters (dm : DtioxModbus) : Registers :=
  setReg (setReg (fun _ => 0) dm.regS2mStatus dm.statusNoData) dm.regS2mLen 0

/-- Both ends attached and connected, with empty FIFOs. -/
def initial (dm : DtioxModbus) (masterCfg : DtioxLinuxModbusTcpMaster.Config) (slaveCfg : Config)
    (masterFifo slaveFifo : F) : State F where
  master := {
    cfg := masterCfg
    mb := some 0
    isConnected := true
    enabled := true
    rxSemaphore := false
    stopRequested := false
    rxOverflowPending := false
    deadSlavePending := false
    rxFifo := Dtringfifo.reset masterFifo }
  masterPc := .free
  slave := {
    cfg := slaveCfg
    mbMap := some (attachedRegisters dm)
    listeningSocket := 5
    sessionSocket := 7
    enabled := true
    rxSemaphore := false
    rxtaskStopRequested := false
    sessionStopRequested := false
    rxOverflowPending := false
    rxFifo := Dtringfifo.reset slaveFifo
    txPending := false
    txLen := 0
    txBytes := List.replicate dm.maxBlobBytes.toNat 0
    rxPosts := 0 }
  slavePc := .receiving
  query := none
  reply := none
  masterWritten := []
  masterGot := []
  slaveWritten := []
  slaveGot := []

omit [Dtringfifo F] in
/-- The request of a master write goes out. -/
def masterWrite (dm : DtioxModbus) (s : State F) (buf : List UInt8) : Option (State F) :=
  match s.masterPc with
  | .free =>
    if !s.master.enabled then
      some s
    else if !s.master.isConnected then
      none
    else
      let regs := DtioxLinuxModbusTcpMaster.writeRegs dm s.master.cfg buf buf.length
      some { s with masterPc := .writing buf, query := some (.writeRegisters dm.regM2sCmd regs) }
  | _ => none

/-- A master read. -/
def masterRead (s : State F) (bufLen : ℤ) : Option (State F) :=
  match s.masterPc with
  | .free =>
    if bufLen < 0 then
      some s
    else
      let (master, _, out) := readFifo s.master bufLen
      some { s with master := master, masterGot := s.masterGot ++ out.getD [] }
  | _ => none

omit [Dtringfifo F] in
/-- The receive task of the master starts a poll round. -/
def masterPoll (dm : DtioxModbus) (s : State F) : Option (State F) :=
  match s.masterPc with
  | .free =>
    if s.master.enabled then
      some { s with
        masterPc := .pollCmd
        query := some (.writeRegisters dm.regM2sCmd (pollCmdRegs dm)) }
    else
      none
  | _ => none

/-- The holder of the master's lock gets its reply and goes on to its next request, or returns. -/
def masterReply (dm : DtioxModbus) (s : State F) : Option (State F) :=
  match s.masterPc, s.reply with
  | .writing buf, some (.written count) =>
    let sendLen := DtioxLinuxModbusTcpMaster.sendLen s.master.cfg buf.length
    let totalRegs := 2 + DtioxLinuxModbusTcpMaster.dataRegs dm sendLen
    match DtioxLinuxModbusTcpMaster.writeDone ⟨count, 0, ""⟩ totalRegs sendLen with
    | (none, some outWritten) =>
      some { s with
        masterPc := .free
        reply := none
        masterWritten := s.masterWritten ++ buf.take outWritten.toNat }
    | _ => none
  | .pollCmd, some (.written count) =>
    if count = 2 then
      some { s with
        masterPc := .pollHdr
        reply := none
        query := some (.readRegisters dm.regS2mStatus 2) }
    else
      none
  | .pollHdr, some (.registers [status, byteLen]) =>
    match pollByteLen dm (pollMaxBlob dm s.master.cfg.maxBlobBytes) status byteLen with
    | none => some { s with masterPc := .free, reply := none }
    | some byteLen =>
      some { s with
        masterPc := .pollData byteLen
        reply := none
        query := some (.readRegisters dm.regS2mData (pollNeedRegs dm byteLen).toNat) }
  | .pollData byteLen, some (.registers values) =>
    if (values.length : ℤ) = pollNeedRegs dm byteLen then
      some { s with
        master := (pollPush dm s.master byteLen fun i => values.getD i 0).1
        masterPc := .free
        reply := none }
    else
      none
  | _, _ => none

omit [Dtringfifo F] in
/-- A slave write. -/
def slaveWrite (s : State F) (buf : List UInt8) : Option (State F) :=
  match writeCheck s.slave.cfg buf.length with
  | some _ => some s
  | none =>
    match writeLocked s.slave buf buf.length with
    | (slave, none, some outWritten) =>
      some { s with
        slave := slave
        slaveWritten := s.slaveWritten ++ buf.take outWritten.toNat }
    | (slave, _, _) => some { s with slave := slave }

/-- A slave read. -/
def slaveRead (s : State F) (bufLen : ℤ) : Option (State F) :=
  if bufLen < 0 then
    some s
  else
    let (slave, _, out) := readLocked s.slave bufLen
    some { s with slave := slave, slaveGot := s.slaveGot ++ out.getD [] }

omit [Dtringfifo F] in
/-- The session loop of the slave gets a query; `modbus_reply` applies it and answers. -/
def slaveReceive (s : State F) : Option (State F) :=
  match s.slavePc, s.query, s.slave.mbMap with
  | .receiving, some query, some tab =>
    some { s with
      slave := { s.slave with mbMap := some (query.apply tab) }
      slavePc := .replied
      query := none
      reply := some (query.reply tab) }
  | _, _, _ => none

/-- The session loop of the slave interprets the command. -/
def slaveInterpret (dm : DtioxModbus) (s : State F) : Option (State F) :=
  match s.slavePc with
  | .receiving => none
  | .replied => some { s with slave := interpretCommand dm s.slave, slavePc := .receiving }

/-- One step of the system. -/
def step (dm : DtioxModbus) (s : State F) : Event → Option (State F)
  | .masterWrite buf => s.masterWrite dm buf
  | .masterRead bufLen => s.masterRead bufLen
  | .masterPoll => s.masterPoll dm
  | .masterReply => s.masterReply dm
  | .slaveWrite buf => s.slaveWrite buf
  | .slaveRead bufLen => s.slaveRead bufLen
  | .slaveReceive => s.slaveReceive
  | .slaveInterpret => s.slaveInterpret dm

end State

end ModbusMailbox
