import DtmcLinux.Dtcore.Dtlock
import DtmcLinux.Modbus.Interface

set_option autoImplicit false

/-! # The Modbus TCP slave

`dtiox_linux_modbus_tcp_slave*.c`: a mailbox behind a register map. The client writes a command to
the M2S block and reads the answer from the S2M block; the receive task interprets the M2S block
after every query it has answered. The functions here are the statements under the lock; taking and
releasing it is left to the systems that call them. -/

namespace DtioxLinuxModbusTcpSlave

/-- What the modelled functions read of `dtiox_linux_modbus_tcp_slave_config_t`. -/
structure Config where
  maxBlobBytes : ℤ

/-- The defaults `configure` fills in. -/
def Config.withDefaults (dm : DtioxModbus) (cfg : Config) : Config where
  maxBlobBytes :=
    if cfg.maxBlobBytes ≤ 0 ∨ cfg.maxBlobBytes > dm.maxBlobBytes then dm.maxBlobBytes
    else cfg.maxBlobBytes

/-- `dtiox_linux_modbus_tcp_slave_t`; `rxPosts` counts the posts on `rx_semaphore`. -/
structure Slave (F : Type*) where
  cfg : Config
  mbMap : Option Registers
  listeningSocket : ℤ
  sessionSocket : ℤ
  enabled : Bool
  rxSemaphore : Bool
  rxtaskStopRequested : Bool
  sessionStopRequested : Bool
  rxOverflowPending : Bool
  rxFifo : F
  txPending : Bool
  txLen : ℤ
  txBytes : List UInt8
  rxPosts : ℕ

variable {F : Type*}

/-! ## The facade -/

/-- `dtiox_linux_modbus_tcp_slave_write` under the lock, for `0 ≤ len ≤ max_blob_bytes`: the error,
    and `*out_written` if it is set. -/
def writeLocked (self : Slave F) (buf : List UInt8) (len : ℤ) :
    Slave F × Option Dterr × Option ℤ :=
  if !self.enabled then
    -- `*out_written` keeps what the caller left there
    (self, none, none)
  else if self.txPending then
    (self, some (.new .busy "publish failed: previous message still unsent"), none)
  else
    ({ self with
        txBytes := buf.take len.toNat ++ self.txBytes.drop len.toNat
        txLen := len
        txPending := true }, none, some len)

/-- The checks of `dtiox_linux_modbus_tcp_slave_write` before the lock. -/
def writeCheck (cfg : Config) (len : ℤ) : Option Dterr :=
  let maxBlobBytes := cfg.maxBlobBytes
  if len < 0 then
    some (.new .badarg "len < 0")
  else if len > maxBlobBytes then
    some (.new .badarg s!"len ({len}) > max_blob_bytes ({maxBlobBytes})")
  else
    none

variable [Dtringfifo F]

/-- `dtiox_linux_modbus_tcp_slave_read` under the lock: the error, and the bytes stored in `buf` if
    `*out_read` is set. -/
def readLocked (self : Slave F) (bufLen : ℤ) : Slave F × Option Dterr × Option (List UInt8) :=
  if self.rxOverflowPending then
    ({ self with rxOverflowPending := false }, some (.new .overflow "rx fifo overflow"), none)
  else if !self.enabled then
    (self, none, some [])
  else
    let (rxFifo, bytes) := Dtringfifo.pop self.rxFifo bufLen.toNat
    ({ self with rxFifo := rxFifo }, none, some bytes)

/-! ## The mailbox -/

omit [Dtringfifo F] in
/-- `byte_len` clamped to the configured and to the largest blob size. -/
def clampLen (dm : DtioxModbus) (cfg : Config) (byteLen : ℤ) : ℤ :=
  let byteLen := if byteLen > cfg.maxBlobBytes then cfg.maxBlobBytes else byteLen
  if byteLen > dm.maxBlobBytes then dm.maxBlobBytes else byteLen

/-- Store one register. -/
def setReg (tab : Registers) (reg : ℕ) (value : UInt16) : Registers := fun r =>
  if r = reg then value else tab r

@[simp] theorem setReg_self (tab : Registers) (reg : ℕ) (value : UInt16) :
    setReg tab reg value reg = value := if_pos rfl

theorem setReg_of_ne (tab : Registers) {reg r : ℕ} (value : UInt16) (h : r ≠ reg) :
    setReg tab reg value r = tab r := if_neg h

omit [Dtringfifo F] in
/-- `dtiox_linux_modbus_tcp_slave__prepare_poll_response` -/
def preparePollResponse (dm : DtioxModbus) (self : Slave F) : Slave F :=
  match self.mbMap with
  | none => self
  | some tab =>
    if self.txPending && decide (self.txLen > 0) then
      let byteLen := clampLen dm self.cfg self.txLen
      let tab := setReg tab dm.regS2mStatus dm.statusHasData
      let tab := setReg tab dm.regS2mLen (UInt16.ofInt byteLen)
      let tab := tab.write dm.regS2mData
        (dm.packBytesToRegs (self.txBytes.take byteLen.toNat))
      { self with mbMap := some tab, txPending := false, txLen := 0 }
    else
      let tab := setReg tab dm.regS2mStatus dm.statusNoData
      { self with mbMap := some (setReg tab dm.regS2mLen 0) }

/-- `dtiox_linux_modbus_tcp_slave__consume_put_blob` -/
def consumePutBlob (dm : DtioxModbus) (self : Slave F) : Slave F :=
  match self.mbMap with
  | none => self
  | some tab =>
    if tab dm.regM2sCmd ≠ dm.cmdPutBlob then
      self
    else
      let byteLen := clampLen dm self.cfg (tab dm.regM2sLen).toNat
      let self :=
        if byteLen > 0 then
          let bytes := dm.unpackRegsToBytes (tab.ptr dm.regM2sData) byteLen.toNat
          let (rxFifo, written) := Dtringfifo.push self.rxFifo bytes
          { self with
            rxFifo := rxFifo
            rxOverflowPending := if written < byteLen then true else self.rxOverflowPending
            rxPosts := if self.rxSemaphore then self.rxPosts + 1 else self.rxPosts }
        else
          self
      let tab := setReg tab dm.regM2sCmd dm.cmdNone
      { self with mbMap := some (setReg tab dm.regM2sLen 0) }

/-- What the session loop does under the lock after it has replied to a query. -/
def interpretCommand (dm : DtioxModbus) (self : Slave F) : Slave F :=
  let self := consumePutBlob dm self
  match self.mbMap with
  | none => self
  | some tab =>
    if tab dm.regM2sCmd = dm.cmdGiveMeAnyData then
      let self := preparePollResponse dm self
      match self.mbMap with
      | none => self
      | some tab =>
        let tab := setReg tab dm.regM2sCmd dm.cmdNone
        { self with mbMap := some (setReg tab dm.regM2sLen 0) }
    else
      self

/-! ## Queries -/

/-- A query as `modbus_reply` understands it. -/
inductive Query where
  | writeRegisters (addr : ℕ) (values : List UInt16)
  | readRegisters (addr count : ℕ)
  | other

/-- The registers after `modbus_reply`. -/
def Query.apply : Query → Registers → Registers
  | .writeRegisters addr values, tab => tab.write addr values
  | .readRegisters _ _, tab => tab
  | .other, tab => tab

/-- The answer `modbus_reply` sends: the number of registers written, or the registers read. -/
inductive Reply where
  | written (count : ℕ)
  | registers (values : List UInt16)
  | other

def Query.reply : Query → Registers → Reply
  | .writeRegisters _ values, _ => .written values.length
  | .readRegisters addr count, tab => .registers (tab.read addr count)
  | .other, _ => .other

end DtioxLinuxModbusTcpSlave
