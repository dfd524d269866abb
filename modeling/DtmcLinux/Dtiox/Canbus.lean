import DtmcLinux.Dtcore.Dtringfifo
import DtmcLinux.Dtcore.DterrObjects
import Mathlib.Algebra.Ring.Int.Defs

set_option autoImplicit false

/-! # The CAN backend: read

`dtiox_linux_canbus.c`. Read first asks the tasker of the receive task whether it is still running,
and reports its error if not; then it reports an overflow once, and else it takes bytes from the
FIFO. -/

/-- `dttasker_info_t` as read sees it: whether the status is `RUNNING`, its name, the error of the
    task. -/
structure TaskInfoPtr where
  running : Bool
  status : String
  dterr : Option DterrPtr

namespace DtioxLinuxCanbus

open Ownership

/-- The members of `dtiox_linux_canbus_t` that read uses. -/
structure Canbus (F : Type*) where
  sockFd : ℤ
  rxOverflowFlag : Bool
  rxFifo : F
  fifoDroppedBytes : Int32

/-- What `dttasker_get_info` and the message of read depend on besides the task: the error of
    `dttasker_get_info`, the status name that is read from an info it has not filled, and how the
    pointer to the error prints. -/
structure InfoCall where
  dterr : Option Dterr
  unfilledStatus : String
  pointerText : String

variable {F : Type*} [Dtringfifo F]

/-- `_rx_fifo_pop_locked` -/
def rxFifoPopLocked (self : Canbus F) (len : Int32) : Canbus F × List UInt8 :=
  if len ≤ 0 then (self, [])
  else
    let (rxFifo, bytes) := Dtringfifo.pop self.rxFifo len.toNatClampNeg
    ({ self with rxFifo := rxFifo }, bytes)

/-- `dtiox_linux_canbus_read`: the error, and the bytes stored in `buf`. -/
def read (l : Ledger) (self : Canbus F) (bufLen : Int32) (getInfo : InfoCall)
    (info : TaskInfoPtr) : Ledger × Canbus F × Option DterrPtr × List UInt8 :=
  -- If RX task died, surface this as an error on read.
  let (l, dterr) := l.freshOpt getInfo.dterr
  let filled := dterr.isNone
  let dterr := if filled then info.dterr else dterr
  if dterr.isSome || !info.running then
    let status := if filled then info.status else getInfo.unfilledStatus
    let pointer := getInfo.pointerText
    let (l, dterr) := l.dterrNew .fail dterr s!"CAN RX task state {status} error {pointer}"
    (l, self, some dterr, [])
  -- Overflow is reported once on the next read.
  else if self.rxOverflowFlag then
    let dropped := self.fifoDroppedBytes
    let (l, dterr) := l.dterrNew .overflow none s!"RX FIFO overflow (dropped {dropped} bytes)"
    (l, { self with rxOverflowFlag := false }, some dterr, [])
  else if self.sockFd < 0 then
    let (l, dterr) := l.dterrNew .fail none "socket not attached"
    (l, self, some dterr, [])
  else
    let (self, bytes) := rxFifoPopLocked self bufLen
    (l, self, none, bytes)

end DtioxLinuxCanbus
