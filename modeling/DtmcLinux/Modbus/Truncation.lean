import DtmcLinux.Modbus.Facade
import DtmcLinux.Modbus.MailboxCorrect

set_option autoImplicit false

/-! # Two ends with limits of their own

The mailbox again, with everything the two configurations leave open: the ends have different
`max_blob_bytes`, their FIFOs overflow, and both are enabled and disabled at any time. A blob longer
than the receiver's limit is cut to it before it is pushed, and the overflow flag is set from the
number of bytes pushed alone. Every blob that arrives is recorded with what was counted in
`*out_written` for it, what was pushed, and the flag. -/

namespace ModbusMailbox

open ModbusMaster DtioxLinuxModbusTcpSlave

/-! ## Deliveries -/

/-- A blob that has arrived: the bytes counted in `*out_written`, the bytes pushed into the
    receiver's FIFO, and `rx_overflow_pending` of the receiver afterwards. -/
structure Delivery where
  sent : List UInt8
  pushed : List UInt8
  overflowPending : Bool
  deriving DecidableEq

/-- Every byte was pushed, or the loss will be reported. -/
def Delivery.Accounted (d : Delivery) : Prop := d.pushed = d.sent ∨ d.overflowPending = true

instance : DecidablePred Delivery.Accounted := fun _ => instDecidableOr

/-- The system, the blobs on their way, and the deliveries so far. -/
structure Traffic (F : Type*) where
  ends : State F
  /-- the blob of the `PUT_BLOB` command that the slave has not interpreted yet -/
  m2s : List UInt8
  /-- the blob the S2M header announces -/
  s2m : List UInt8
  /-- the blob announced to the poll round in progress -/
  fetching : List UInt8
  toSlave : List Delivery
  toMaster : List Delivery

/-- A step of the two ends, or a call of `enable` at one of them. -/
inductive TrafficEvent where
  | ends (e : Event)
  | masterEnable (enabled : Bool)
  | slaveEnable (enabled : Bool)

variable {F : Type*} [Dtringfifo F]

/-- What enable makes of a master. -/
def enableMaster {Cfg : Type*} (enabled : Bool) (self : Master Cfg F) : Master Cfg F :=
  { self with
    enabled := enabled
    rxFifo := Dtringfifo.reset self.rxFifo
    rxOverflowPending := false
    deadSlavePending := false }

/-- What enable makes of a slave. -/
def enableSlave (dm : DtioxModbus) (enabled : Bool) (self : Slave F) : Slave F :=
  { self with
    enabled := enabled
    rxFifo := Dtringfifo.reset self.rxFifo
    rxOverflowPending := false
    txPending := false
    txLen := 0
    mbMap := self.mbMap.map fun tab =>
      setReg (setReg tab dm.regS2mStatus dm.statusNoData) dm.regS2mLen 0 }

theorem enableBody_self {τ Cfg : Type*} (enabled : Bool) (w : World τ Cfg F) :
    (ModbusMaster.enableBody enabled w).1.self = enableMaster enabled w.self := rfl

theorem slave_enableBody_self {τ : Type*} (dm : DtioxModbus) (enabled : Bool) (w : Facade τ F) :
    (DtioxLinuxModbusTcpSlave.enableBody dm enabled w).1.self = enableSlave dm enabled w.self := rfl

namespace Traffic

/-- The two ends before any traffic. -/
def initial (dm : DtioxModbus) (masterCfg : DtioxLinuxModbusTcpMaster.Config) (slaveCfg : Config)
    (masterFifo slaveFifo : F) : Traffic F where
  ends := .initial dm masterCfg slaveCfg masterFifo slaveFifo
  m2s := []
  s2m := []
  fetching := []
  toSlave := []
  toMaster := []

/-- What a step has appended to a FIFO. -/
def appended (fifo fifo' : F) : List UInt8 :=
  (Dtringfifo.contents fifo').drop (Dtringfifo.contents fifo).length

/-- The slave has interpreted the command in `tab`. -/
def interpreted (dm : DtioxModbus) (t : Traffic F) (tab : Registers) (ends : State F) : Traffic F :=
  if tab dm.regM2sCmd = dm.cmdPutBlob then
    { t with
      ends := ends
      m2s := []
      toSlave := t.toSlave ++ [{
        sent := t.m2s
        pushed := appended t.ends.slave.rxFifo ends.slave.rxFifo
        overflowPending := ends.slave.rxOverflowPending }] }
  else if tab dm.regM2sCmd = dm.cmdGiveMeAnyData then
    { t with ends := ends, s2m := txBlob t.ends.slave }
  else
    { t with ends := ends }

/-- The poll round is over. -/
def fetched (t : Traffic F) (ends : State F) : Traffic F :=
  { t with
    ends := ends
    fetching := []
    toMaster := t.toMaster ++ [{
      sent := t.fetching
      pushed := appended t.ends.master.rxFifo ends.master.rxFifo
      overflowPending := ends.master.rxOverflowPending }] }

/-- The two ends go on to `ends` with the event `e`. -/
def record (dm : DtioxModbus) (t : Traffic F) (ends : State F) : Event → Traffic F
  | .slaveReceive =>
    match t.ends.masterPc with
    -- the request of a write, or the request for the header
    | .writing buf => { t with ends := ends, m2s := sentBytes t.ends.master.cfg buf }
    | .pollHdr => { t with ends := ends, fetching := t.s2m }
    | _ => { t with ends := ends }
  | .slaveInterpret =>
    match t.ends.slave.mbMap with
    | none => { t with ends := ends }
    | some tab => t.interpreted dm tab ends
  | .masterReply =>
    match t.ends.masterPc with
    | .pollData _ => t.fetched ends
    | _ => { t with ends := ends }
  | _ => { t with ends := ends }

/-- One step. Enable at the master waits for its lock. -/
def step (dm : DtioxModbus) (t : Traffic F) : TrafficEvent → Option (Traffic F)
  | .ends e => (t.ends.step dm e).map fun ends => t.record dm ends e
  | .masterEnable enabled =>
    match t.ends.masterPc with
    | .free =>
      some { t with ends := { t.ends with master := enableMaster enabled t.ends.master } }
    | _ => none
  | .slaveEnable enabled =>
    some { t with
      ends := { t.ends with slave := enableSlave dm enabled t.ends.slave }
      s2m := [] }

end Traffic

/-! ## The property and its condition -/

/-- Every blob that has arrived is accounted for. -/
def NothingLost (t : Traffic F) : Prop :=
  (∀ d ∈ t.toSlave, d.Accounted) ∧ ∀ d ∈ t.toMaster, d.Accounted

instance : DecidablePred (NothingLost (F := F)) := fun _ => instDecidableAnd

/-- The blob is not longer than the receiver's limit, or an overflow is pending already, or the FIFO
    has no room even for the part within the limit. -/
def TailSafe (limit : ℤ) (overflowPending : Bool) (fifo : F) (blob : List UInt8) : Prop :=
  (blob.length : ℤ) ≤ limit ∨ overflowPending = true ∨
    (Dtringfifo.push fifo (blob.take limit.toNat)).2 < limit.toNat

instance (limit : ℤ) (overflowPending : Bool) (fifo : F) (blob : List UInt8) :
    Decidable (TailSafe limit overflowPending fifo blob) := instDecidableOr

/-- The condition on a step: it pushes no blob whose tail is cut off silently. -/
def CutsNoTail (dm : DtioxModbus) (t : Traffic F) : TrafficEvent → Prop
  | .ends .slaveInterpret =>
    t.ends.slavePc = .replied → ∀ tab, t.ends.slave.mbMap = some tab →
      tab dm.regM2sCmd = dm.cmdPutBlob →
        TailSafe t.ends.slave.cfg.maxBlobBytes t.ends.slave.rxOverflowPending t.ends.slave.rxFifo
          t.m2s
  | .ends .masterReply =>
    ∀ byteLen, t.ends.masterPc = .pollData byteLen → t.ends.reply ≠ none →
      TailSafe t.ends.master.cfg.maxBlobBytes t.ends.master.rxOverflowPending
        t.ends.master.rxFifo t.fetching
  | _ => True

/-! ## Unpacking a part of a blob -/

end ModbusMailbox

/-- What the library relies on, with unpacking of a part of a blob: fewer bytes than were packed are
    the first ones. -/
structure DtioxModbus.LawfulPrefix (dm : DtioxModbus) : Prop extends dm.Lawful where
  unpack_take : ∀ (bs : List UInt8) (n : ℕ) (ptr : ℕ → UInt16), n ≤ bs.length →
    (∀ i < (dm.packBytesToRegs bs).length, (i : ℤ) < dm.blobToRegs n →
      ptr i = (dm.packBytesToRegs bs).getD i 0) →
    dm.unpackRegsToBytes ptr n = bs.take n

theorem BigEndianMap.unpack_take (bs : List UInt8) (n : ℕ) (ptr : ℕ → UInt16)
    (hn : n ≤ bs.length) (h : ∀ i < (pack bs).length, (i : ℤ) < ((n : ℤ) + 1) / 2 →
      ptr i = (pack bs).getD i 0) : unpack ptr n = bs.take n := by
  induction bs using pack.induct generalizing n ptr with
  | case1 =>
      obtain rfl : n = 0 := Nat.le_zero.1 hn
      rfl
  | case2 a =>
      obtain rfl | rfl : n = 0 ∨ n = 1 := by
        simp only [List.length_singleton] at hn
        omega
      · rfl
      · have h0 : ptr 0 = a.toUInt16 <<< 8 ||| (0 : UInt8).toUInt16 := by
          rw [h 0 Nat.one_pos (by decide)]
          simp [pack]
        show [(ptr 0 >>> 8).toUInt8] = [a]
        rw [h0, hi_byte]
  | case3 a b rest ih =>
      rcases n with _ | _ | n
      · rfl
      · have h0 : ptr 0 = a.toUInt16 <<< 8 ||| b.toUInt16 := h 0 (Nat.succ_pos _) (by decide)
        show [(ptr 0 >>> 8).toUInt8] = [a]
        rw [h0, hi_byte]
      · have h0 : ptr 0 = a.toUInt16 <<< 8 ||| b.toUInt16 :=
          h 0 (Nat.succ_pos _) (by omega)
        have hrest := ih n (fun i => ptr (i + 1)) (by simpa using hn) fun i hi hlt =>
          h (i + 1) (Nat.succ_lt_succ hi) (by omega)
        show (ptr 0 >>> 8).toUInt8 :: (ptr 0).toUInt8 :: unpack (fun i => ptr (i + 1)) n
          = a :: b :: rest.take n
        rw [hrest, h0, hi_byte, lo_byte]

theorem DtioxModbus.bigEndian_lawfulPrefix : DtioxModbus.bigEndian.LawfulPrefix where
  toLawful := bigEndian_lawful
  unpack_take := BigEndianMap.unpack_take
