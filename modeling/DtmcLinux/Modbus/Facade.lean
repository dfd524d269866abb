import DtmcLinux.Modbus.LockFrame
import DtmcLinux.Modbus.MasterFlag
import DtmcLinux.Modbus.Slave

set_option autoImplicit false

/-! # The rest of the public operations

`set_rx_semaphore` and `concat_format` of the masters, and all operations of the slave, with the
lock. The results of the libmodbus, tasker and allocation calls they make are arguments. -/

namespace ModbusMaster

/-- `tmp`, as long as it is kept: `snprintf` into 256 bytes leaves at most 255. -/
def tmpBytes (text : String) : List UInt8 := text.toUTF8.toList.take 255

/-- A flag as `%d` prints it. -/
def flagDigit (flag : Bool) : ℕ := if flag then 1 else 0

/-- What the two calls of `concat_format` that can fail do. -/
structure FormatCalls where
  snprintfFails : Bool
  mallocFails : Bool

/-- The end of `concat_format` after the lock: the error, and `*out_str`. -/
def formatResult (calls : FormatCalls) (text : String) : Option Dterr × Option (List UInt8) :=
  if calls.snprintfFails then (some (.new .fail "snprintf failed"), none)
  else if calls.mallocFails then (some (.new .nomem "alloc failed"), none)
  else (none, some (tmpBytes text))

variable {τ Cfg F : Type*}

/-- The body of `set_rx_semaphore`; only whether a semaphore is set matters. -/
def setRxSemaphoreBody (rxSemaphore : Bool) (w : World τ Cfg F) :
    World τ Cfg F × Label × Option Dterr :=
  ({ w with self := { w.self with rxSemaphore := rxSemaphore } }, .releaseLockAndCleanup, none)

end ModbusMaster

namespace DtioxLinuxModbusTcpMaster

open ModbusMaster

variable {τ F : Type*} [DecidableEq τ]

/-- `dtiox_linux_modbus_tcp_master_set_rx_semaphore` -/
def setRxSemaphore (w : World τ Config F) (t : τ) (rxSemaphore : Bool) :
    Option (World τ Config F × Option Dterr) :=
  locked w t (setRxSemaphoreBody rxSemaphore)

/-- The text of `dtiox_linux_modbus_tcp_master_concat_format`. -/
def formatText (self : Master Config F) (base sep : String) : String :=
  let ip := self.cfg.ip
  let port := self.cfg.port
  let unitId := self.cfg.unitId
  let enabled := flagDigit self.enabled
  let capacity := self.cfg.rxRingCapacity
  s!"{base}{sep}master=libmodbus_tcp ip={ip} port={port} unit={unitId} enabled={enabled}" ++
    s!" rx_ring_capacity={capacity}"

/-- `dtiox_linux_modbus_tcp_master_concat_format`: `NULL` strings are empty. -/
def concatFormat (w : World τ Config F) (t : τ) (inStr separator : Option String)
    (calls : FormatCalls) : Option (World τ Config F × Option Dterr × Option (List UInt8)) :=
  (LockFrame.run World.place w t "" fun w => (w, .releaseLockAndCleanup, none,
      formatText w.self (inStr.getD "") (separator.getD ""))).map fun r =>
    match r.2.1 with
    | some e => (r.1, some e, none)
    | none => (r.1, formatResult calls r.2.2)

end DtioxLinuxModbusTcpMaster

namespace DtioxLinuxModbusRtuMaster

open ModbusMaster

variable {τ F : Type*} [DecidableEq τ]

/-- `dtiox_linux_modbus_rtu_master_set_rx_semaphore` -/
def setRxSemaphore (w : World τ Config F) (t : τ) (rxSemaphore : Bool) :
    Option (World τ Config F × Option Dterr) :=
  locked w t (setRxSemaphoreBody rxSemaphore)

/-- The text of `dtiox_linux_modbus_rtu_master_concat_format`, with what `dtuart_helper_to_string`
    gives. -/
def formatText (self : Master Config F) (uartString : String) : String :=
  let device := self.cfg.device
  let slaveId := self.cfg.slaveId
  let enabled := flagDigit self.enabled
  let capacity := self.cfg.rxRingCapacity
  s!"libmodbus_rtu {device}:{slaveId} {uartString} enabled={enabled}" ++
    s!" rx_ring_capacity={capacity}"

/-- `dtiox_linux_modbus_rtu_master_concat_format`: it reads the object under the lock and formats
    afterwards, where `concat` is `dtstr_concat_format`. -/
def concatFormat (w : World τ Config F) (t : τ) (inStr separator : Option String)
    (uartString : String) (concat : Option String → String → String → Option String) :
    Option (World τ Config F × Option Dterr × Option String) :=
  (LockFrame.run World.place w t "" fun w =>
      (w, .releaseLockAndCleanup, none, formatText w.self uartString)).map fun r =>
    match r.2.1 with
    -- `*out_str = in_str` comes before the lock
    | some e => (r.1, some e, inStr)
    | none => (r.1, none, concat inStr (separator.getD "") r.2.2)

end DtioxLinuxModbusRtuMaster

/-! ## The slave -/

namespace DtioxLinuxModbusTcpSlave

open ModbusMaster (Label TaskerInfo FormatCalls formatResult flagDigit)

/-- The slave object with the members that only the public operations use, and its lock. `mb` and
    `rxtaskerHandle` tell whether the pointers are set. -/
structure Facade (τ F : Type*) where
  self : Slave F
  port : ℤ
  responseTimeoutMs : ℤ
  rxRingCapacity : ℤ
  mb : Bool
  rxtaskerHandle : Bool
  lock : Dtlock τ

variable {τ F : Type*}

/-- The lock of a slave. -/
def Facade.place : LockFrame.Place (Facade τ F) τ where
  lock w := w.lock
  setLock w l := { w with lock := l }
  lock_setLock _ _ := rfl

/-- `dtiox_linux_modbus_tcp_slave__required_registers` -/
def requiredRegisters (dm : DtioxModbus) : ℤ := dm.regS2mData + dm.maxBlobRegs + 1

/-- `dtiox_linux_modbus_tcp_slave__verify_rxtask_not_running`, where `info` is what
    `dttasker_get_info` returns. -/
def verifyRxtaskNotRunning (w : Facade τ F) (info : Except Dterr TaskerInfo) : Option Dterr :=
  if !w.rxtaskerHandle then
    some (.assertNotNull "self->rxtasker_handle")
  else
    match info with
    | .error e => some e
    | .ok info =>
      let status := info.status
      if info.running then
        some (.new .state s!"rx task still running (status={status})")
      else
        none

/-- What the calls of attach return; `listen` has the new socket as its `rc`. -/
structure AttachCalls where
  info : Except Dterr TaskerInfo
  newTcp : ℤ → Bool
  setResponseTimeout : ℤ → ℤ → LibResult
  mappingNew : ℤ → Bool
  listen : LibResult
  taskerStart : Option Dterr

/-- The registers of a new mapping, with the S2M area set to "no data". -/
def attachedRegisters (dm : DtioxModbus) : Registers :=
  setReg (setReg (fun _ => 0) dm.regS2mStatus dm.statusNoData) dm.regS2mLen 0

/-- The set-up call of attach: the timeout is optional. -/
def timeoutSetup (w : Facade τ F) (calls : AttachCalls) : List LibResult :=
  if w.responseTimeoutMs > 0 then
    [calls.setResponseTimeout (w.responseTimeoutMs.tdiv 1000)
      (w.responseTimeoutMs.tmod 1000 * 1000)]
  else
    []

/-- The members attach sets before it starts the receive task. -/
def resetFlags (w : Facade τ F) : Facade τ F :=
  { w with self := { w.self with
      rxOverflowPending := false
      txPending := false
      txLen := 0
      enabled := true
      sessionStopRequested := false
      rxtaskStopRequested := false } }

/-- The statements of attach under the lock. -/
def attachBody (dm : DtioxModbus) (calls : AttachCalls) (w : Facade τ F) :
    Facade τ F × Label × Option Dterr × Unit :=
  let listenText := calls.listen.errnoMessage
  if !calls.newTcp w.port then
    ({ w with mb := false }, .releaseLockAndCleanup, some (.new .io "modbus_new_tcp failed"), ())
  else
    let w := { w with mb := true }
    match ModbusMaster.setupError (timeoutSetup w calls) with
    | some e => (w, .cleanup, some e, ())
    | none =>
      if !calls.mappingNew (requiredRegisters dm) then
        ({ w with self := { w.self with mbMap := none } }, .releaseLockAndCleanup,
          some (.new .nomem "modbus_mapping_new failed"), ())
      else
        let w := { w with self := { w.self with
          mbMap := some (attachedRegisters dm)
          listeningSocket := calls.listen.rc } }
        if calls.listen.rc < 0 then
          (w, .releaseLockAndCleanup, some (.new .io s!"modbus_tcp_listen {listenText}"), ())
        else
          match calls.taskerStart with
          | some e => (resetFlags w, .cleanup, some e, ())
          | none => (resetFlags w, .releaseLockAndCleanup, none, ())

/-- The ends of the statements of attach under the lock. -/
inductive AttachBodyEffect (dm : DtioxModbus) (calls : AttachCalls) (w : Facade τ F) :
    Facade τ F × Label × Option Dterr × Unit → Prop where
  | noContext {err : Dterr} (hnew : calls.newTcp w.port = false) :
      AttachBodyEffect dm calls w ({ w with mb := false }, .releaseLockAndCleanup, some err, ())
  | setupFails {err : Dterr} (hnew : calls.newTcp w.port = true)
      (hsetup : ModbusMaster.setupError (timeoutSetup w calls) = some err) :
      AttachBodyEffect dm calls w ({ w with mb := true }, .cleanup, some err, ())
  | noMapping {err : Dterr} (hnew : calls.newTcp w.port = true)
      (hsetup : ModbusMaster.setupError (timeoutSetup w calls) = none)
      (hmapping : calls.mappingNew (requiredRegisters dm) = false) :
      AttachBodyEffect dm calls w ({ w with mb := true, self := { w.self with mbMap := none } },
        .releaseLockAndCleanup, some err, ())
  | notListening {err : Dterr} (hnew : calls.newTcp w.port = true)
      (hsetup : ModbusMaster.setupError (timeoutSetup w calls) = none)
      (hmapping : calls.mappingNew (requiredRegisters dm) = true) (hlisten : calls.listen.rc < 0) :
      AttachBodyEffect dm calls w ({ w with
          mb := true
          self := { w.self with
            mbMap := some (attachedRegisters dm), listeningSocket := calls.listen.rc } },
        .releaseLockAndCleanup, some err, ())
  | startFails {err : Dterr} (hnew : calls.newTcp w.port = true)
      (hsetup : ModbusMaster.setupError (timeoutSetup w calls) = none)
      (hmapping : calls.mappingNew (requiredRegisters dm) = true) (hlisten : 0 ≤ calls.listen.rc)
      (hstart : calls.taskerStart = some err) :
      AttachBodyEffect dm calls w (resetFlags { w with
          mb := true
          self := { w.self with
            mbMap := some (attachedRegisters dm), listeningSocket := calls.listen.rc } },
        .cleanup, some err, ())
  | attached (hnew : calls.newTcp w.port = true)
      (hsetup : ModbusMaster.setupError (timeoutSetup w calls) = none)
      (hmapping : calls.mappingNew (requiredRegisters dm) = true) (hlisten : 0 ≤ calls.listen.rc)
      (hstart : calls.taskerStart = none) :
      AttachBodyEffect dm calls w (resetFlags { w with
          mb := true
          self := { w.self with
            mbMap := some (attachedRegisters dm), listeningSocket := calls.listen.rc } },
        .releaseLockAndCleanup, none, ())

theorem attachBody_effect (dm : DtioxModbus) (calls : AttachCalls) (w : Facade τ F) :
    AttachBodyEffect dm calls w (attachBody dm calls w) := by
  have hsame : timeoutSetup { w with mb := true } calls = timeoutSetup w calls := rfl
  unfold attachBody
  dsimp only
  rw [hsame]
  split
  · next hnew => exact .noContext (by simpa using hnew)
  · next hnew =>
      have hnew : calls.newTcp w.port = true := by simpa using hnew
      split
      · next hsetup => exact .setupFails hnew hsetup
      · next hsetup =>
          split
          · next hmapping => exact .noMapping hnew hsetup (by simpa using hmapping)
          · next hmapping =>
              have hmapping : calls.mappingNew (requiredRegisters dm) = true := by
                simpa using hmapping
              split
              · next hlisten => exact .notListening hnew hsetup hmapping hlisten
              · next hlisten =>
                  have hlisten : 0 ≤ calls.listen.rc := Int.not_lt.1 hlisten
                  split
                  · next hstart => exact .startFails hnew hsetup hmapping hlisten hstart
                  · next hstart => exact .attached hnew hsetup hmapping hlisten hstart

/-- The rollback at the end of attach. -/
def attachCleanup (w : Facade τ F) (dterr : Option Dterr) : Facade τ F :=
  if dterr.isSome then
    { w with
      mb := false
      self := { w.self with
        mbMap := none
        listeningSocket :=
          if w.self.listeningSocket > 0 then -1 else w.self.listeningSocket } }
  else
    w

/-- `dtiox_linux_modbus_tcp_slave_detach`: it takes no lock. -/
def detach (w : Facade τ F) : Facade τ F :=
  let isOpen := decide (w.self.sessionSocket > 0 ∧ w.self.sessionSocket ≠ w.self.listeningSocket)
  { w with self := { w.self with
      sessionStopRequested := true
      enabled := false
      sessionSocket := if isOpen then -1 else w.self.sessionSocket } }

/-- The statements of enable under the lock. -/
def enableBody [Dtringfifo F] (dm : DtioxModbus) (enabled : Bool) (w : Facade τ F) :
    Facade τ F × Label × Option Dterr × Unit :=
  ({ w with self := { w.self with
      enabled := enabled
      rxFifo := Dtringfifo.reset w.self.rxFifo
      rxOverflowPending := false
      txPending := false
      txLen := 0
      mbMap := w.self.mbMap.map fun tab =>
        setReg (setReg tab dm.regS2mStatus dm.statusNoData) dm.regS2mLen 0 } },
    .releaseLockAndCleanup, none, ())

/-- What `concat_format` calls: `zeroStatus` is the name of the status of a zeroed
    `dttasker_info_t`. -/
structure ConcatCalls extends FormatCalls where
  info : Except Dterr TaskerInfo
  zeroStatus : String

/-- The text of `dtiox_linux_modbus_tcp_slave_concat_format`. -/
def formatText (w : Facade τ F) (base sep status : String) : String :=
  let port := w.port
  let enabled := flagDigit w.self.enabled
  let capacity := w.rxRingCapacity
  let txPending := flagDigit w.self.txPending
  s!"{base}{sep}slave=libmodbus_tcp port={port} enabled={enabled} rx_ring_capacity={capacity}" ++
    s!" tx_pending={txPending},  rxtask_status={status}"

/-- The statements of `concat_format` under the lock. -/
def concatFormatBody (base sep : String) (calls : ConcatCalls) (w : Facade τ F) :
    Facade τ F × Label × Option Dterr × String :=
  if w.rxtaskerHandle then
    match calls.info with
    | .error e => (w, .cleanup, some e, "")
    | .ok info => (w, .releaseLockAndCleanup, none, formatText w base sep info.status)
  else
    (w, .releaseLockAndCleanup, none, formatText w base sep calls.zeroStatus)

variable [DecidableEq τ]

/-- `dtiox_linux_modbus_tcp_slave_attach` -/
def attach (dm : DtioxModbus) (w : Facade τ F) (t : τ) (calls : AttachCalls) :
    Option (Facade τ F × Option Dterr) :=
  -- if already listening, don't listen again
  if w.self.listeningSocket > 0 then
    some (w, none)
  else
    match verifyRxtaskNotRunning w calls.info with
    | some e => some (attachCleanup w (some e), some e)
    | none =>
      (LockFrame.run Facade.place w t () (attachBody dm calls)).map fun r =>
        (attachCleanup r.1 r.2.1, r.2.1)

/-- `dtiox_linux_modbus_tcp_slave_set_rx_semaphore` -/
def setRxSemaphore (w : Facade τ F) (t : τ) (rxSemaphore : Bool) :
    Option (Facade τ F × Option Dterr × Unit) :=
  LockFrame.run Facade.place w t () fun w =>
    ({ w with self := { w.self with rxSemaphore := rxSemaphore } }, .releaseLockAndCleanup, none, ())

/-- `dtiox_linux_modbus_tcp_slave_write`: the error, and `*out_written` if it is set. -/
def write (w : Facade τ F) (t : τ) (buf : List UInt8) (len : ℤ) :
    Option (Facade τ F × Option Dterr × Option ℤ) :=
  match writeCheck w.self.cfg len with
  | some e => some (w, some e, none)
  | none =>
    LockFrame.run Facade.place w t none fun w =>
      let r := writeLocked w.self buf len
      ({ w with self := r.1 }, .releaseLockAndCleanup, r.2.1, r.2.2)

/-- `dtiox_linux_modbus_tcp_slave_concat_format`: the error, and `*out_str` if it is set. -/
def concatFormat (w : Facade τ F) (t : τ) (inStr separator : Option String) (calls : ConcatCalls) :
    Option (Facade τ F × Option Dterr × Option (List UInt8)) :=
  (LockFrame.run Facade.place w t ""
      (concatFormatBody (inStr.getD "") (separator.getD "") calls)).map fun r =>
    match r.2.1 with
    | some e => (r.1, some e, none)
    | none => (r.1, formatResult calls.toFormatCalls r.2.2)

variable [Dtringfifo F]

/-- `dtiox_linux_modbus_tcp_slave_enable` -/
def enable (dm : DtioxModbus) (w : Facade τ F) (t : τ) (enabled : Bool) :
    Option (Facade τ F × Option Dterr × Unit) :=
  LockFrame.run Facade.place w t () (enableBody dm enabled)

/-- `dtiox_linux_modbus_tcp_slave_read`: the error, and the bytes stored in `buf` if `*out_read` is
    set. -/
def read (w : Facade τ F) (t : τ) (bufLen : ℤ) :
    Option (Facade τ F × Option Dterr × Option (List UInt8)) :=
  if bufLen < 0 then
    some (w, some (.new .badarg "buf_len < 0"), none)
  else
    LockFrame.run Facade.place w t none fun w =>
      let r := readLocked w.self bufLen
      ({ w with self := r.1 }, .releaseLockAndCleanup, r.2.1, r.2.2)

end DtioxLinuxModbusTcpSlave
