import DtmcLinux.Dtcore.Dtlock
import DtmcLinux.Modbus.Interface

set_option autoImplicit false

/-! # The Modbus masters

`dtiox_linux_modbus_tcp_master*.c` and `dtiox_linux_modbus_rtu_master*.c`. The two backends are
written statement for statement alike around different libmodbus constructors; what they share is
stated once in `ModbusMaster`, and each public function of a backend is the shared code applied to
the backend's own values. The results of every libmodbus and tasker call are arguments. A function
that must wait for the lock returns `none`. Pointers passed by callers are not `NULL`. -/

namespace ModbusMaster

/-- The members of the two master objects, whose configurations differ. A `modbus_t*` is the number
    of a context. -/
structure Master (Cfg F : Type*) where
  cfg : Cfg
  mb : Option ℕ
  isConnected : Bool
  enabled : Bool
  rxSemaphore : Bool
  stopRequested : Bool
  rxOverflowPending : Bool
  deadSlavePending : Bool
  rxFifo : F

/-- A master object, the libmodbus contexts, the object's lock, and the number of times its
    `rx_semaphore` was posted. -/
structure World (τ Cfg F : Type*) where
  self : Master Cfg F
  contexts : Contexts
  lock : Dtlock τ
  rxPosts : ℕ

/-- A configured object, before any attach. -/
def World.configured {τ Cfg F : Type*} (cfg : Cfg) (rxFifo : F) : World τ Cfg F where
  self := {
    cfg := cfg
    mb := none
    isConnected := false
    enabled := false
    rxSemaphore := false
    stopRequested := false
    rxOverflowPending := false
    deadSlavePending := false
    rxFifo := rxFifo }
  contexts := { next := 0, connected := fun _ => false }
  lock := ⟨none⟩
  rxPosts := 0

/-- The label a function body jumps to. -/
inductive Label where
  | releaseLockAndCleanup
  | cleanup

variable {τ Cfg F : Type*}

/-! ## Connection -/

/-- `ensure_connected`, where `connect` is the result of `modbus_connect`. -/
def ensureConnected (w : World τ Cfg F) (connect : LibResult) : World τ Cfg F × Option Dterr :=
  if w.self.isConnected then
    (w, none)
  else
    match w.self.mb with
    | none =>
      ({ w with self := { w.self with isConnected := false } },
        some (.new .io connect.errnoMessage))
    | some mb =>
      if connect.rc = -1 then
        ({ w with self := { w.self with isConnected := false } },
          some (.new .io connect.errnoMessage))
      else
        ({ w with
            contexts := w.contexts.connect mb connect
            self := { w.self with isConnected := true } }, none)

/-- Connecting changes the contexts and the flag, and nothing else. -/
theorem ensureConnected_frame (w : World τ Cfg F) (connect : LibResult) :
    ∃ contexts isConnected, (ensureConnected w connect).1 =
      { w with contexts := contexts, self := { w.self with isConnected := isConnected } } := by
  unfold ensureConnected
  split
  · exact ⟨w.contexts, w.self.isConnected, rfl⟩
  · split
    · exact ⟨w.contexts, false, rfl⟩
    · split
      · exact ⟨w.contexts, false, rfl⟩
      · exact ⟨_, true, rfl⟩

/-- `modbus_close(self->mb)`; closing `NULL` does nothing. -/
def closeContext (w : World τ Cfg F) : World τ Cfg F :=
  match w.self.mb with
  | none => w
  | some mb => { w with contexts := w.contexts.close mb }

/-- `ensure_disconnected` -/
def ensureDisconnected (w : World τ Cfg F) : World τ Cfg F :=
  let w := closeContext w
  { w with self := { w.self with isConnected := false } }

/-! ## The lock -/

section

variable [DecidableEq τ]

/-- `release_lock`: the incoming error takes precedence. -/
def releaseLock (w : World τ Cfg F) (t : τ) (dterrIn : Option Dterr) :
    World τ Cfg F × Option Dterr :=
  ({ w with lock := (w.lock.release t).1 }, dterrIn.or (w.lock.release t).2)

/-- The frame of attach, detach, enable and a poll round: acquire the lock, run the body, and follow
    its jump. -/
def locked (w : World τ Cfg F) (t : τ)
    (body : World τ Cfg F → World τ Cfg F × Label × Option Dterr) :
    Option (World τ Cfg F × Option Dterr) :=
  match w.lock.acquire t with
  | none => none
  | some (_, some e) => some (w, some e)
  | some (lock, none) =>
    match body { w with lock := lock } with
    | (w', .releaseLockAndCleanup, dterr) => some (releaseLock w' t dterr)
    -- the lock stays with the caller
    | (w', .cleanup, dterr) => some (w', dterr)

end

/-! ## Attach and detach -/

/-- The set-up calls of attach, each under `ERRNO_C`: the error of the first one that fails. -/
def setupError : List LibResult → Option Dterr
  | [] => none
  | r :: rest => if r.rc = -1 then some (.new .io r.errnoMessage) else setupError rest

/-- `self->mb = modbus_new_…` when a context is created. -/
def newContext (w : World τ Cfg F) : World τ Cfg F :=
  { w with
    contexts := w.contexts.new.1
    self := { w.self with mb := some w.contexts.new.2 } }

/-- The members attach sets before it connects. -/
def resetFlags (w : World τ Cfg F) : World τ Cfg F :=
  { w with self := { w.self with
      rxOverflowPending := false
      deadSlavePending := false
      enabled := true
      stopRequested := false } }

/-- The body of attach. `newFailed` is the message when no context can be created, `created` tells
    whether one was, `setup` are the results of the calls that configure it. -/
def attachBody (newFailed : String) (created : Bool) (setup : List LibResult)
    (connect : LibResult) (taskerStart : Option Dterr) (w : World τ Cfg F) :
    World τ Cfg F × Label × Option Dterr :=
  if !created then
    ({ w with self := { w.self with mb := none } }, .releaseLockAndCleanup,
      some (.new .io newFailed))
  else
    match setupError setup with
    | some e => (newContext w, .cleanup, some e)
    | none =>
      match ensureConnected (resetFlags (newContext w)) connect with
      | (w, some e) => (w, .releaseLockAndCleanup, some e)
      | (w, none) =>
        match taskerStart with
        | some e => (w, .cleanup, some e)
        | none => (w, .releaseLockAndCleanup, none)

/-- The body of detach. -/
def detachBody (w : World τ Cfg F) : World τ Cfg F × Label × Option Dterr :=
  let w := { w with self := { w.self with stopRequested := true, enabled := false } }
  (closeContext w, .releaseLockAndCleanup, none)

/-! ## Enable and read -/

variable [Dtringfifo F]

/-- The body of enable. -/
def enableBody (enabled : Bool) (w : World τ Cfg F) : World τ Cfg F × Label × Option Dterr :=
  ({ w with self := { w.self with
      enabled := enabled
      rxFifo := Dtringfifo.reset w.self.rxFifo
      rxOverflowPending := false
      deadSlavePending := false } }, .releaseLockAndCleanup, none)

/-- The statements of read under the lock, and the bytes stored in `buf` (`none` when `*out_read`
    is not set). -/
def readFifo (self : Master Cfg F) (bufLen : ℤ) :
    Master Cfg F × Option Dterr × Option (List UInt8) :=
  if self.deadSlavePending then
    ({ self with deadSlavePending := false }, some (.new .timeout "slave timeout"), none)
  else if self.rxOverflowPending then
    ({ self with rxOverflowPending := false }, some (.new .overflow "rx fifo overflow"), none)
  else if !self.enabled then
    (self, none, some [])
  else
    let (rxFifo, bytes) := Dtringfifo.pop self.rxFifo bufLen.toNat
    ({ self with rxFifo := rxFifo }, none, some bytes)

/-- What read uses of `dttasker_info_t`. -/
structure TaskerInfo where
  running : Bool
  status : String
  dterr : Option Dterr

/-- `verify_rxtask_running`, where `info` is what `dttasker_get_info` returns. -/
def verifyRxtaskRunning (info : Except Dterr TaskerInfo) (dterrIn : Option Dterr) : Option Dterr :=
  let dterr :=
    match info with
    | .error e => some e
    | .ok info =>
      let status := info.status
      if info.running then none
      else some (.wrap .state info.dterr s!"rx task not running (status={status})")
  match dterrIn, dterr with
  | none, dterr => dterr
  | some e, none => some e
  | some e, some d => some (e.append d)

variable [DecidableEq τ]

/-- read: the error, and the bytes stored in `buf`. -/
def read (w : World τ Cfg F) (t : τ) (bufLen : ℤ) (info : Except Dterr TaskerInfo) :
    Option (World τ Cfg F × Option Dterr × Option (List UInt8)) :=
  if w.self.mb = none then
    some (w, some (.assertNotNull "self->mb"), none)
  else if bufLen < 0 then
    some (w, some (.new .badarg "buf_len < 0"), none)
  else
    match w.lock.acquire t with
    | none => none
    | some (_, some e) => some (w, some e, none)
    | some (lock, none) =>
      let (self, dterr, out) := readFifo w.self bufLen
      let (w, dterr) := releaseLock { w with self := self, lock := lock } t dterr
      some (w, verifyRxtaskRunning info dterr, out)

/-! ## Writing a blob -/

omit [Dtringfifo F] [DecidableEq τ] in
/-- The statements of write under the lock, up to its label. -/
def writeLocked (w : World τ Cfg F) (connect : LibResult) (send : Cfg → Option Dterr × Option ℤ) :
    World τ Cfg F × Option Dterr × Option ℤ :=
  if !w.self.enabled then
    (w, none, some 0)
  else
    match ensureConnected w connect with
    | (w, some e) => (w, some e, none)
    | (w, none) => (w, send w.self.cfg)

omit [Dtringfifo F] [DecidableEq τ] in
/-- `release_lock_and_cleanup` of write: an error closes the connection. -/
def disconnectOnError (w : World τ Cfg F) (dterr : Option Dterr) : World τ Cfg F :=
  if dterr.isSome then ensureDisconnected w else w

omit [Dtringfifo F] in
/-- write: `send` is what happens once the object is connected, with the results of the requests. It
    returns the error and `*out_written`; an error closes the connection. -/
def write (w : World τ Cfg F) (t : τ) (len : ℤ) (connect : LibResult)
    (send : Cfg → Option Dterr × Option ℤ) :
    Option (World τ Cfg F × Option Dterr × Option ℤ) :=
  if w.self.mb = none then
    some (w, some (.assertNotNull "self->mb"), none)
  else if len < 0 then
    some (w, some (.new .badarg "len < 0"), none)
  else
    match w.lock.acquire t with
    | none => none
    | some (_, some e) => some (w, some e, none)
    | some (lock, none) =>
      let (w, dterr, out) := writeLocked { w with lock := lock } connect send
      let (w, dterr) := releaseLock (disconnectOnError w dterr) t dterr
      some (w, dterr, out)

omit [Dtringfifo F] in
/-- The registers of a `PUT_BLOB` request for the bytes `blob`. -/
def putBlobRegs (dm : DtioxModbus) (blob : List UInt8) : List UInt16 :=
  [dm.cmdPutBlob, UInt16.ofNat blob.length] ++ dm.packBytesToRegs blob

/-! ## Polling -/

/-- The registers of the poll command. -/
def pollCmdRegs (dm : DtioxModbus) : List UInt16 := [dm.cmdGiveMeAnyData, 0]

/-- `max_blob` as the receive task takes it from the configuration. -/
def pollMaxBlob (dm : DtioxModbus) (maxBlobBytes : ℤ) : ℤ :=
  if maxBlobBytes > dm.maxBlobBytes then dm.maxBlobBytes else maxBlobBytes

/-- What the header of a poll response asks for: the number of payload bytes to fetch, or nothing.
    `(uint16_t)max_blob` is the wrapped value. -/
def pollByteLen (dm : DtioxModbus) (maxBlob : ℤ) (status byteLen : UInt16) : Option UInt16 :=
  if status = dm.statusHasData ∧ byteLen > 0 then
    some (if byteLen > UInt16.ofInt maxBlob then UInt16.ofInt maxBlob else byteLen)
  else
    none

/-- The number of payload registers of a poll response. -/
def pollNeedRegs (dm : DtioxModbus) (byteLen : UInt16) : ℤ :=
  let needRegs := dm.blobToRegs byteLen.toNat
  if needRegs > dm.maxBlobRegs then dm.maxBlobRegs else needRegs

/-- Push the payload of a poll response; also tells how many bytes were stored. -/
def pollPush (dm : DtioxModbus) (self : Master Cfg F) (byteLen : UInt16)
    (dataRegs : ℕ → UInt16) : Master Cfg F × ℕ :=
  let bytes := dm.unpackRegsToBytes dataRegs byteLen.toNat
  let (rxFifo, written) := Dtringfifo.push self.rxFifo bytes
  if written < byteLen.toNat then
    ({ self with rxFifo := rxFifo, rxOverflowPending := true }, written)
  else
    ({ self with rxFifo := rxFifo }, written)

/-- One poll round under the lock, with the results of its requests. `deadOnReadError` and
    `posts` say what the backend does besides: mark the slave dead when a read fails, post
    `rx_semaphore` when bytes arrived. -/
def pollBody (dm : DtioxModbus) (deadOnReadError posts : Bool) (maxBlob : ℤ)
    (cmd hdr data : LibResult) (hdrRegs : UInt16 × UInt16) (dataRegs : ℕ → UInt16)
    (w : World τ Cfg F) :
    World τ Cfg F × Label × Option Dterr :=
  let dead := { w with self := { w.self with deadSlavePending := true } }
  let deadRead := if deadOnReadError then dead else w
  let cmdText := cmd.errnoMessage
  let hdrText := hdr.errnoMessage
  let dataText := data.errnoMessage
  if cmd.rc ≠ 2 then
    (dead, .releaseLockAndCleanup,
      some (.new .fail s!"modbus_write_registers poll command {cmdText}"))
  else if hdr.rc ≠ 2 then
    (deadRead, .releaseLockAndCleanup,
      some (.new .fail s!"modbus_read_registers poll header {hdrText}"))
  else
    match pollByteLen dm maxBlob hdrRegs.1 hdrRegs.2 with
    | none => (w, .releaseLockAndCleanup, none)
    | some byteLen =>
      if data.rc ≠ pollNeedRegs dm byteLen then
        (deadRead, .releaseLockAndCleanup,
          some (.new .fail s!"modbus_read_registers poll data {dataText}"))
      else
        let (self, written) := pollPush dm w.self byteLen dataRegs
        let rxPosts := if posts && self.rxSemaphore && written > 0 then w.rxPosts + 1 else w.rxPosts
        ({ w with self := self, rxPosts := rxPosts }, .releaseLockAndCleanup, none)

end ModbusMaster

/-! ## The TCP master -/

namespace DtioxLinuxModbusTcpMaster

open ModbusMaster

/-- `dtiox_linux_modbus_tcp_master_config_t` -/
structure Config where
  ip : String
  port : ℤ
  unitId : ℤ
  pollIntervalMs : ℤ
  responseTimeoutMs : ℤ
  maxBlobBytes : ℤ
  rxRingCapacity : ℤ

/-- The defaults `configure` fills in. -/
def Config.withDefaults (dm : DtioxModbus) (tcpDefaultPort : ℤ) (cfg : Config) : Config where
  ip := cfg.ip
  port := if cfg.port = 0 then tcpDefaultPort else cfg.port
  unitId := if cfg.unitId = 0 then 1 else cfg.unitId
  pollIntervalMs := if cfg.pollIntervalMs ≤ 0 then 25 else cfg.pollIntervalMs
  responseTimeoutMs := if cfg.responseTimeoutMs ≤ 0 then 250 else cfg.responseTimeoutMs
  maxBlobBytes :=
    if cfg.maxBlobBytes ≤ 0 ∨ cfg.maxBlobBytes > dm.maxBlobBytes then dm.maxBlobBytes
    else cfg.maxBlobBytes
  rxRingCapacity := if cfg.rxRingCapacity = 0 then 1024 else cfg.rxRingCapacity

/-- What the calls of attach return. -/
structure AttachCalls where
  newTcp : String → ℤ → Bool
  setSlave : ℤ → LibResult
  setResponseTimeout : ℤ → ℤ → LibResult
  connect : LibResult
  taskerStart : Option Dterr

variable {τ F : Type*} [DecidableEq τ]

/-- `dtiox_linux_modbus_tcp_master_attach` -/
def attach (w : World τ Config F) (t : τ) (calls : AttachCalls) :
    Option (World τ Config F × Option Dterr) :=
  let cfg := w.self.cfg
  locked w t <| attachBody "modbus_new_tcp failed" (calls.newTcp cfg.ip cfg.port)
    [calls.setSlave cfg.unitId,
      calls.setResponseTimeout (cfg.responseTimeoutMs.tdiv 1000)
        (cfg.responseTimeoutMs.tmod 1000 * 1000)]
    calls.connect calls.taskerStart

/-- `dtiox_linux_modbus_tcp_master_detach` -/
def detach (w : World τ Config F) (t : τ) : Option (World τ Config F × Option Dterr) :=
  locked w t detachBody

/-- `send_len`: at most `max_blob_bytes`. -/
def sendLen (cfg : Config) (len : ℤ) : ℤ :=
  if len > cfg.maxBlobBytes then cfg.maxBlobBytes else len

/-- What `dtiox_linux_modbus_tcp_master_write` makes of the result of
    `modbus_write_registers`: the error, and `*out_written`. -/
def writeDone (rc : LibResult) (totalRegs sendLen : ℤ) : Option Dterr × Option ℤ :=
  let text := rc.errnoMessage
  if rc.rc < 0 then
    (some (.new .io s!"modbus_write_registers {text}"), none)
  else if rc.rc ≠ totalRegs then
    (some (.new .io "modbus_write_registers failed"), none)
  else
    (none, some sendLen)

/-- `data_regs`: at most `DTIOX_MODBUS_MAX_BLOB_REGS`. -/
def dataRegs (dm : DtioxModbus) (sendLen : ℤ) : ℤ :=
  if dm.blobToRegs sendLen > dm.maxBlobRegs then dm.maxBlobRegs else dm.blobToRegs sendLen

/-- The registers sent by `dtiox_linux_modbus_tcp_master_write`: the first `total_regs` of `regs`. -/
def writeRegs (dm : DtioxModbus) (cfg : Config) (buf : List UInt8) (len : ℤ) : List UInt16 :=
  (putBlobRegs dm (buf.take (sendLen cfg len).toNat)).take
    (2 + dataRegs dm (sendLen cfg len)).toNat

/-- `dtiox_linux_modbus_tcp_master_write` of `len` bytes, with the results of `modbus_connect` and
    of `modbus_write_registers`, which gets `writeRegs`. -/
def write (dm : DtioxModbus) (w : World τ Config F) (t : τ) (len : ℤ)
    (connect rc : LibResult) : Option (World τ Config F × Option Dterr × Option ℤ) :=
  ModbusMaster.write w t len connect fun cfg =>
    writeDone rc (2 + dataRegs dm (sendLen cfg len)) (sendLen cfg len)

section

variable [Dtringfifo F]

/-- `dtiox_linux_modbus_tcp_master_enable` -/
def enable (w : World τ Config F) (t : τ) (enabled : Bool) :
    Option (World τ Config F × Option Dterr) :=
  locked w t (enableBody enabled)

/-- `dtiox_linux_modbus_tcp_master_read` -/
def read (w : World τ Config F) (t : τ) (bufLen : ℤ) (info : Except Dterr TaskerInfo) :
    Option (World τ Config F × Option Dterr × Option (List UInt8)) :=
  ModbusMaster.read w t bufLen info

/-- One poll round of `dtiox_linux_modbus_tcp_master__rxtask_entry`. -/
def pollRound (dm : DtioxModbus) (w : World τ Config F) (t : τ)
    (cmd hdr data : LibResult) (hdrRegs : UInt16 × UInt16) (dataRegs : ℕ → UInt16) :
    Option (World τ Config F × Option Dterr) :=
  locked w t <| pollBody dm false false (pollMaxBlob dm w.self.cfg.maxBlobBytes) cmd hdr data
    hdrRegs dataRegs

end

end DtioxLinuxModbusTcpMaster

/-! ## The RTU master -/

namespace DtioxLinuxModbusRtuMaster

open ModbusMaster

/-- `dtiox_linux_modbus_rtu_master_config_t`, with the arguments of `modbus_new_rtu` as one
    string. -/
structure Config where
  device : String
  slaveId : ℤ
  pollIntervalMs : ℤ
  responseTimeoutMs : ℤ
  byteTimeoutMs : ℤ
  maxBlobBytes : ℤ
  permitRetryPartialWrites : Bool
  rxRingCapacity : ℤ

/-- What the calls of attach return. -/
structure AttachCalls where
  newRtu : String → Bool
  setSlave : ℤ → LibResult
  setResponseTimeout : ℤ → ℤ → LibResult
  setByteTimeout : ℤ → ℤ → LibResult
  connect : LibResult
  taskerStart : Option Dterr

variable {τ F : Type*} [DecidableEq τ]

/-- `dtiox_linux_modbus_rtu_master_attach` -/
def attach (w : World τ Config F) (t : τ) (calls : AttachCalls) :
    Option (World τ Config F × Option Dterr) :=
  let cfg := w.self.cfg
  let byteTimeout :=
    if cfg.byteTimeoutMs > 0 then
      [calls.setByteTimeout (cfg.byteTimeoutMs.tdiv 1000) (cfg.byteTimeoutMs.tmod 1000 * 1000)]
    else []
  locked w t <| attachBody "modbus_new_rtu failed" (calls.newRtu cfg.device)
    ([calls.setSlave cfg.slaveId,
      calls.setResponseTimeout (cfg.responseTimeoutMs.tdiv 1000)
        (cfg.responseTimeoutMs.tmod 1000 * 1000)] ++ byteTimeout)
    calls.connect calls.taskerStart

/-- `dtiox_linux_modbus_rtu_master_detach` -/
def detach (w : World τ Config F) (t : τ) : Option (World τ Config F × Option Dterr) :=
  locked w t detachBody

/-- `send_len`: at most `DTIOX_MODBUS_MAX_BLOB_BYTES`, whatever `cfg.max_blob_bytes` is. -/
def sendLen (dm : DtioxModbus) (remaining : ℤ) : ℤ :=
  if remaining > dm.maxBlobBytes then dm.maxBlobBytes else remaining

theorem sendLen_pos (dm : DtioxModbus) {remaining : ℤ}
    (h : ¬remaining - sendLen dm remaining ≤ 0) : 0 < sendLen dm remaining := by
  have hpos := dm.maxBlobBytes_pos
  unfold sendLen at *
  split
  · exact hpos
  · next hle =>
      rw [if_neg hle] at h
      omega

/-- The loop of `dtiox_linux_modbus_rtu_master_write`: one `PUT_BLOB` request for each chunk, the
    `i`-th with the result `rcs i`. Returns the error, what remains, and the blobs sent. -/
def writeLoop (dm : DtioxModbus) (cfg : Config) (rcs : ℕ → LibResult) (i : ℕ) (p : List UInt8)
    (remaining : ℤ) : Option Dterr × ℤ × List (List UInt8) :=
  let len := sendLen dm remaining
  let dataRegs := dm.blobToRegs len
  let maxBlobRegs := dm.maxBlobRegs
  let blob := p.take len.toNat
  let text := (rcs i).errnoMessage
  if dataRegs > maxBlobRegs then
    (some (.new .fail
      s!"calculated data_regs={dataRegs} exceeds max {maxBlobRegs} for send_len={len}"),
      remaining, [])
  else if (rcs i).rc < 0 ∨ (rcs i).rc ≠ 2 + dataRegs then
    (some (.new .io s!"modbus_write_registers {text}"), remaining, [])
  else if remaining - len ≤ 0 then
    (none, remaining - len, [blob])
  else if !cfg.permitRetryPartialWrites then
    (none, remaining - len, [blob])
  else
    let (dterr, rest, blobs) :=
      writeLoop dm cfg rcs (i + 1) (p.drop len.toNat) (remaining - len)
    (dterr, rest, blob :: blobs)
termination_by remaining.toNat
decreasing_by
  have hpos : 0 < sendLen dm remaining := sendLen_pos dm (by assumption)
  omega

/-- The error of the loop, and `*out_written`. -/
def writeSend (dm : DtioxModbus) (cfg : Config) (buf : List UInt8) (len : ℤ)
    (rcs : ℕ → LibResult) : Option Dterr × Option ℤ :=
  match writeLoop dm cfg rcs 0 buf len with
  | (some e, _, _) => (some e, none)
  | (none, remaining, _) => (none, some (len - remaining))

/-- `dtiox_linux_modbus_rtu_master_write` of the first `len` bytes of `buf`, with the results of
    `modbus_connect` and of the `modbus_write_registers` calls. -/
def write (dm : DtioxModbus) (w : World τ Config F) (t : τ) (buf : List UInt8) (len : ℤ)
    (connect : LibResult) (rcs : ℕ → LibResult) :
    Option (World τ Config F × Option Dterr × Option ℤ) :=
  ModbusMaster.write w t len connect fun cfg => writeSend dm cfg buf len rcs

section

variable [Dtringfifo F]

/-- `dtiox_linux_modbus_rtu_master_enable` -/
def enable (w : World τ Config F) (t : τ) (enabled : Bool) :
    Option (World τ Config F × Option Dterr) :=
  locked w t (enableBody enabled)

/-- `dtiox_linux_modbus_rtu_master_read` -/
def read (w : World τ Config F) (t : τ) (bufLen : ℤ) (info : Except Dterr TaskerInfo) :
    Option (World τ Config F × Option Dterr × Option (List UInt8)) :=
  ModbusMaster.read w t bufLen info

/-- One poll round of `dtiox_linux_modbus_rtu_master__rxtask_entry`. -/
def pollRound (dm : DtioxModbus) (w : World τ Config F) (t : τ)
    (cmd hdr data : LibResult) (hdrRegs : UInt16 × UInt16) (dataRegs : ℕ → UInt16) :
    Option (World τ Config F × Option Dterr) :=
  locked w t <| pollBody dm true true (pollMaxBlob dm w.self.cfg.maxBlobBytes) cmd hdr data
    hdrRegs dataRegs

end

end DtioxLinuxModbusRtuMaster
