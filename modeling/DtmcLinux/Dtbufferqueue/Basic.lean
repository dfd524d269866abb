import DtmcLinux.Dtcore.Dterr
import DtmcLinux.Posix.Pthread

set_option autoImplicit false

/-! # The buffer queue

`dtbufferqueue_linux.c`: a mutex, two condition variables and a ring of buffer pointers. The
pointers are of an arbitrary type `β`; a ring cell is `none` when it holds `NULL`.

A call of `dtbufferqueue_put` or `dtbufferqueue_get` is a sequence of critical sections: the first
one runs from `pthread_mutex_lock` to the return or to the first wait, the next ones from one
wake-up to the return or to the next wait. Each is one step of the system below, in which any
number of threads call the two functions. -/

namespace Dtbufferqueue

open Posix

/-- `dtbufferqueue_t`, without the pthread objects. -/
structure Queue (β : Type*) where
  maxCount : Int32
  shouldOverwrite : Bool
  ring : List (Option β)
  /-- number of items currently in queue -/
  count : UInt32
  /-- pop index -/
  head : UInt32
  /-- push index -/
  tail : UInt32

variable {β : Type*}

/-- The queue `dtbufferqueue_create` leaves, with a zeroed ring of `cells` pointers. -/
def created (maxCount : Int32) (shouldOverwrite : Bool) (cells : ℕ) : Queue β where
  maxCount := if maxCount = 0 then 1 else maxCount
  shouldOverwrite := shouldOverwrite
  ring := List.replicate cells none
  count := 0
  head := 0
  tail := 0

/-- `add_ms_to_timespec_monotonic`; the divisions are those of C, towards zero. -/
def addMsToTimespecMonotonic (ts : Timespec) (ms : Int32) : Timespec :=
  let tvSec := ts.tvSec + ms.toInt.tdiv 1000
  let tvNsec := ts.tvNsec + ms.toInt.tmod 1000 * 1000000
  if tvNsec ≥ 1000000000 then
    { tvSec := tvSec + 1, tvNsec := tvNsec - 1000000000 }
  else if tvNsec < 0 then
    { tvSec := tvSec - 1, tvNsec := tvNsec + 1000000000 }
  else
    { tvSec := tvSec, tvNsec := tvNsec }

/-! ## The critical sections -/

namespace Queue

/-- `self->count == self->max_count`: the comparison converts `max_count` to unsigned. -/
def isFull (q : Queue β) : Bool := q.count == q.maxCount.toUInt32

/-- The statements under `// enqueue`. -/
def enqueue (q : Queue β) (buffer : β) : Queue β :=
  { q with
    ring := q.ring.set q.tail.toNat (some buffer)
    tail := (q.tail + 1) % q.maxCount.toUInt32
    count := q.count + 1 }

/-- `out`, the pointer in the head cell. -/
def front (q : Queue β) : Option β := q.ring[q.head.toNat]!

/-- The statements under `// dequeue` that change the queue. -/
def dequeue (q : Queue β) : Queue β :=
  { q with
    head := (q.head + 1) % q.maxCount.toUInt32
    count := q.count - 1 }

end Queue

/-- How a critical section of `dtbufferqueue_put` ends. `wasTimeout` is the final value of
    `*was_timeout`, `none` when the caller passed `NULL`. -/
inductive PutEnd (β : Type*) where
  /-- waits on `cv_not_full`, with the deadline of a timed wait -/
  | wait (buffer : β) (deadline : Option Timespec) (wasTimeout : Option Bool)
  /-- has enqueued its buffer and signals `cv_not_empty` -/
  | enqueued (q : Queue β) (buffer : β) (wasTimeout : Option Bool)
  /-- returns without having enqueued -/
  | returned (dterr : Option Dterr) (wasTimeout : Option Bool)

/-- How a critical section of `dtbufferqueue_get` ends. -/
inductive GetEnd (β : Type*) where
  /-- waits on `cv_not_empty`, with the deadline of a timed wait -/
  | wait (deadline : Option Timespec) (wasTimeout : Option Bool)
  /-- has dequeued `out`, stored it in `*buffer`, and signals `cv_not_full` -/
  | dequeued (q : Queue β) (out : Option β) (wasTimeout : Option Bool)
  /-- returns without having dequeued -/
  | returned (dterr : Option Dterr) (wasTimeout : Option Bool)

/-- `if (was_timeout != NULL) *was_timeout = true;` -/
def setTimeout (wasTimeout : Option Bool) : Option Bool := wasTimeout.map fun _ => true

/-- The head of the waiting loops of `dtbufferqueue_put`: wait while the queue is full, else
    enqueue. -/
def putLoop (q : Queue β) (buffer : β) (deadline : Option Timespec) (wasTimeout : Option Bool) :
    PutEnd β :=
  if q.isFull then .wait buffer deadline wasTimeout
  else .enqueued (q.enqueue buffer) buffer wasTimeout

/-- `dtbufferqueue_put` up to its return or its first wait. `wasTimeout` is `none` when
    `was_timeout` is `NULL`, `lockRc` is the result of `pthread_mutex_lock` and `now` that of
    `clock_gettime`. -/
def put (DTTIMEOUT_FOREVER : Int32) (q : Queue β) (buffer : Option β) (timeoutMillis : Int32)
    (wasTimeout : Option Bool) (lockRc : Rc) (now : Timespec) : PutEnd β :=
  match buffer with
  | none => .returned (some (.assertNotNull "buffer")) wasTimeout
  | some buffer =>
    let wasTimeout := wasTimeout.map fun _ => false
    if lockRc ≠ 0 then
      .returned (some (.new .fail s!"mutex lock failed: {lockRc}")) wasTimeout
    else if timeoutMillis = DTTIMEOUT_FOREVER then
      putLoop q buffer none wasTimeout
    else if timeoutMillis = 0 then
      if q.isFull then
        .returned none (setTimeout wasTimeout)
      else
        .enqueued (q.enqueue buffer) buffer wasTimeout
    else
      putLoop q buffer (some (addMsToTimespecMonotonic now timeoutMillis)) wasTimeout

/-- `dtbufferqueue_put` after a wait that returned `rc`. -/
def putWake (q : Queue β) (buffer : β) (deadline : Option Timespec) (wasTimeout : Option Bool)
    (rc : Rc) : PutEnd β :=
  match deadline with
  | none =>
    if rc ≠ 0 then
      .returned (some (.new .fail s!"cond_wait not_full: {rc}")) wasTimeout
    else
      putLoop q buffer deadline wasTimeout
  | some _ =>
    if rc = ETIMEDOUT then
      .returned none (setTimeout wasTimeout)
    else if rc ≠ 0 then
      .returned (some (.new .fail s!"cond_timedwait not_full: {rc}")) wasTimeout
    else
      putLoop q buffer deadline wasTimeout

/-- The head of the waiting loops of `dtbufferqueue_get`: wait while the queue is empty, else
    dequeue. -/
def getLoop (q : Queue β) (deadline : Option Timespec) (wasTimeout : Option Bool) : GetEnd β :=
  if q.count = 0 then .wait deadline wasTimeout else .dequeued q.dequeue q.front wasTimeout

/-- `dtbufferqueue_get` up to its return or its first wait; `bufferPtr` tells whether the caller
    passed a place for the result. -/
def get (DTTIMEOUT_FOREVER : Int32) (q : Queue β) (bufferPtr : Bool) (timeoutMillis : Int32)
    (wasTimeout : Option Bool) (lockRc : Rc) (now : Timespec) : GetEnd β :=
  if !bufferPtr then
    .returned (some (.assertNotNull "buffer")) wasTimeout
  else
    let wasTimeout := wasTimeout.map fun _ => false
    if lockRc ≠ 0 then
      .returned (some (.new .fail s!"mutex lock failed: {lockRc}")) wasTimeout
    else if q.count > 0 then
      .dequeued q.dequeue q.front wasTimeout
    else if timeoutMillis = DTTIMEOUT_FOREVER then
      getLoop q none wasTimeout
    else if timeoutMillis = 0 then
      .returned none (setTimeout wasTimeout)
    else
      getLoop q (some (addMsToTimespecMonotonic now timeoutMillis)) wasTimeout

/-- `dtbufferqueue_get` after a wait that returned `rc`. -/
def getWake (q : Queue β) (deadline : Option Timespec) (wasTimeout : Option Bool) (rc : Rc) :
    GetEnd β :=
  match deadline with
  | none =>
    if rc ≠ 0 then
      .returned (some (.new .fail s!"cond_wait not_empty: {rc}")) wasTimeout
    else
      getLoop q deadline wasTimeout
  | some _ =>
    if rc = ETIMEDOUT then
      .returned none (setTimeout wasTimeout)
    else if rc ≠ 0 then
      .returned (some (.new .fail s!"cond_timedwait not_empty: {rc}")) wasTimeout
    else
      getLoop q deadline wasTimeout

end Dtbufferqueue
