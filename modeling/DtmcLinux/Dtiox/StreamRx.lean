import DtmcLinux.Dtcore.Dterr
import DtmcLinux.Dtcore.Dtringfifo
import DtmcLinux.Dtiox.Tcp
import DtmcLinux.Dtiox.Tty
import DtmcLinux.Foundation.StepRun

set_option autoImplicit false

/-! # The receive path of the stream backends

`dtiox_linux_tcp.c`, `dtiox_linux_tty.c` and `dtiox_linux_canbus.c`: one receive task pushes what it
receives into the FIFO, records an overflow and posts `rx_semaphore`; `read` reports the overflow or
pops the FIFO. The three backends differ in what one system call delivers, in whether the FIFO is
behind a mutex, in when they post, and in their texts. The push, the record of what did not fit, the
post, the test of the flag, its reset and the pop are steps of their own. The checks of `read` that
come before the flag pass while the connection is up and the task runs. -/

namespace DtioxStream

/-- The members of `dtiox_linux_tcp_t`, `dtiox_linux_tty_t` and `dtiox_linux_canbus_t` on the
    receive path; `rxPosts` counts the posts on `rx_semaphore`. -/
structure StreamRx (F : Type*) where
  rxFifo : F
  rxOverflowFlag : Bool
  fifoDroppedBytes : ℤ
  rxEnabled : Bool
  rxSemaphore : Bool
  rxPosts : ℕ

/-- What is different in the backends; a system call delivers an `R`. -/
structure Backend (R : Type*) where
  /-- the bytes to push -/
  payload : R → List UInt8
  /-- `rx_fifo_mutex` is held from the push to the record of what did not fit, and in a pop -/
  hasMutex : Bool
  /-- whether the task posts, from the number of bytes and how many were stored -/
  posts : ℕ → ℕ → Bool
  /-- `fifo_dropped_bytes` after more bytes are dropped -/
  addDropped : ℤ → ℤ → ℤ
  /-- the text of the overflow error -/
  overflowText : ℤ → String

/-- Where the receive task is. -/
inductive RxPc where
  /-- in the system call -/
  | receiving
  /-- after the push of `len` bytes, of which `written` were stored -/
  | pushed (len written : ℕ)
  | posting
  /-- at the label `cleanup:` -/
  | cleanup (dterr : Dterr)
  deriving DecidableEq

/-- The chunk that was pushed did not fit. -/
def RxPc.overflowed : RxPc → Bool
  | .pushed len written => written < len
  | _ => false

/-- Where a thread that calls `read` is. -/
inductive ReaderPc where
  | idle
  /-- it has found the flag set -/
  | clearing
  /-- it has found the flag clear -/
  | popping (bufLen : ℤ)
  deriving DecidableEq

/-- The object, its receive task, and the threads that read. -/
structure State (ι F : Type*) where
  self : StreamRx F
  rxPc : RxPc
  readers : ι → ReaderPc

/-- A step of the receive task, or of a reader. -/
inductive Event (ι R : Type*) where
  /-- the system call returns, and the bytes are pushed -/
  | received (r : R)
  /-- the end of the branch on what did not fit -/
  | recorded
  /-- the result of `dtsemaphore_post` -/
  | posted (dterr : Option Dterr)
  | test (i : ι) (bufLen : ℤ)
  | clear (i : ι)
  | pop (i : ι)

variable {ι R F : Type*}

/-- The error a read reports. -/
def overflowError (b : Backend R) (self : StreamRx F) : Dterr :=
  .new .overflow (b.overflowText self.fifoDroppedBytes)

variable [Dtringfifo F]

/-- `received`: without bytes, or with reception disabled, the task goes on. -/
def received (b : Backend R) (s : State ι F) (r : R) : State ι F :=
  let bs := b.payload r
  if bs.length = 0 then s
  else if !s.self.rxEnabled then s
  else
    let (fifo, written) := Dtringfifo.push s.self.rxFifo bs
    { s with self := { s.self with rxFifo := fifo }, rxPc := .pushed bs.length written }

/-- What the reception of a chunk can lead to. -/
theorem received_cases (b : Backend R) (s : State ι F) (r : R) :
    received b s r = s ∨
      (b.payload r).length ≠ 0 ∧ received b s r = { s with
        self := { s.self with rxFifo := (Dtringfifo.push s.self.rxFifo (b.payload r)).1 }
        rxPc := .pushed (b.payload r).length
          (Dtringfifo.push s.self.rxFifo (b.payload r)).2 } := by
  unfold received
  dsimp only
  split
  · exact Or.inl rfl
  · next hlen =>
      split
      · exact Or.inl rfl
      · exact Or.inr ⟨hlen, rfl⟩

omit [Dtringfifo F] in
/-- `recorded`: bytes that did not fit raise the flag. -/
def recorded (b : Backend R) (s : State ι F) (len written : ℕ) : State ι F :=
  let dropped : ℤ := len - written
  let self :=
    if dropped > 0 then
      { s.self with
        rxOverflowFlag := true
        fifoDroppedBytes := b.addDropped s.self.fifoDroppedBytes dropped }
    else s.self
  { s with
    self := self
    rxPc := if b.posts len written && self.rxSemaphore then .posting else .receiving }

/-- The pop of a read. A backend with a mutex does nothing for an empty buffer. -/
def popped (b : Backend R) (self : StreamRx F) (bufLen : ℤ) : StreamRx F × List UInt8 :=
  if b.hasMutex && decide (bufLen ≤ 0) then (self, [])
  else
    let (fifo, bytes) := Dtringfifo.pop self.rxFifo bufLen.toNat
    ({ self with rxFifo := fifo }, bytes)

omit [Dtringfifo F] in
/-- The pop of a read waits for the mutex. -/
def popBlocked (b : Backend R) (s : State ι F) (bufLen : ℤ) : Bool :=
  b.hasMutex && decide (0 < bufLen) &&
    match s.rxPc with
    | .pushed _ _ => true
    | _ => false

/-- The pop of a reader keeps the capacity, and while the mutex is taken it keeps the bytes. -/
theorem popped_keeps [BoundedDtringfifo F] {b : Backend R} (hb : b.hasMutex = true) {s : State ι F}
    {bufLen : ℤ} (h : ¬popBlocked b s bufLen = true) :
    BoundedDtringfifo.capacity (popped b s.self bufLen).1.rxFifo
        = BoundedDtringfifo.capacity s.self.rxFifo ∧
      ∀ len written, s.rxPc = .pushed len written →
        (popped b s.self bufLen).1.rxFifo = s.self.rxFifo := by
  unfold popped
  by_cases hlen : bufLen ≤ 0
  · rw [hb, decide_eq_true hlen]
    exact ⟨rfl, fun _ _ _ => rfl⟩
  · rw [hb, decide_eq_false hlen]
    refine ⟨BoundedDtringfifo.capacity_pop _ _, fun len written hpc => absurd ?_ h⟩
    unfold popBlocked
    rw [hb, hpc, decide_eq_true (Int.not_le.1 hlen)]
    rfl

variable [DecidableEq ι]

/-- One step. -/
def step (b : Backend R) (s : State ι F) : Event ι R → Option (State ι F)
  | .received r =>
    match s.rxPc with
    | .receiving => some (received b s r)
    | _ => none
  | .recorded =>
    match s.rxPc with
    | .pushed len written => some (recorded b s len written)
    | _ => none
  | .posted dterr =>
    match s.rxPc, dterr with
    | .posting, none =>
      some { s with self := { s.self with rxPosts := s.self.rxPosts + 1 }, rxPc := .receiving }
    | .posting, some err => some { s with rxPc := .cleanup err }
    | _, _ => none
  | .test i bufLen =>
    match s.readers i with
    | .idle =>
      let pc := if s.self.rxOverflowFlag then .clearing else .popping bufLen
      some { s with readers := Function.update s.readers i pc }
    | _ => none
  | .clear i =>
    match s.readers i with
    | .clearing =>
      some { s with
        self := { s.self with rxOverflowFlag := false }
        readers := Function.update s.readers i .idle }
    | _ => none
  | .pop i =>
    match s.readers i with
    | .popping bufLen =>
      if popBlocked b s bufLen then none
      else
        some { s with
          self := (popped b s.self bufLen).1
          readers := Function.update s.readers i .idle }
    | _ => none

/-- The outcomes of a step. -/
inductive Effect (b : Backend R) (s : State ι F) : Event ι R → State ι F → Prop where
  | received (r : R) (hpc : s.rxPc = .receiving) : Effect b s (.received r) (received b s r)
  | recorded {len written : ℕ} (hpc : s.rxPc = .pushed len written) :
      Effect b s .recorded (recorded b s len written)
  | posted (hpc : s.rxPc = .posting) :
      Effect b s (.posted none)
        { s with self := { s.self with rxPosts := s.self.rxPosts + 1 }, rxPc := .receiving }
  | postFailed (err : Dterr) (hpc : s.rxPc = .posting) :
      Effect b s (.posted (some err)) { s with rxPc := .cleanup err }
  | test (i : ι) (bufLen : ℤ) (hpc : s.readers i = .idle) :
      Effect b s (.test i bufLen)
        { s with
          readers := Function.update s.readers i
            (if s.self.rxOverflowFlag then .clearing else .popping bufLen) }
  | clear (i : ι) (hpc : s.readers i = .clearing) :
      Effect b s (.clear i)
        { s with
          self := { s.self with rxOverflowFlag := false }
          readers := Function.update s.readers i .idle }
  | pop (i : ι) {bufLen : ℤ} (hpc : s.readers i = .popping bufLen)
      (hfree : ¬popBlocked b s bufLen = true) :
      Effect b s (.pop i)
        { s with
          self := (popped b s.self bufLen).1
          readers := Function.update s.readers i .idle }

/-- There are no other outcomes. -/
theorem step_effect {b : Backend R} {s s' : State ι F} {e : Event ι R} (h : step b s e = some s') :
    Effect b s e s' := by
  unfold step at h
  cases e with
  | received r =>
      dsimp only at h
      split at h
      · next hpc =>
          obtain rfl := Option.some.inj h
          exact .received r hpc
      · exact absurd h (by simp)
  | recorded =>
      dsimp only at h
      split at h
      · next hpc =>
          obtain rfl := Option.some.inj h
          exact .recorded hpc
      · exact absurd h (by simp)
  | posted dterr =>
      dsimp only at h
      split at h
      · next hpc =>
          obtain rfl := Option.some.inj h
          exact .posted hpc
      · next err hpc =>
          obtain rfl := Option.some.inj h
          exact .postFailed err hpc
      · exact absurd h (by simp)
  | test i bufLen =>
      dsimp only at h
      split at h
      · next hpc =>
          obtain rfl := Option.some.inj h
          exact .test i bufLen hpc
      · exact absurd h (by simp)
  | clear i =>
      dsimp only at h
      split at h
      · next hpc =>
          obtain rfl := Option.some.inj h
          exact .clear i hpc
      · exact absurd h (by simp)
  | pop i =>
      dsimp only at h
      split at h
      · next bufLen hpc =>
          split at h
          · exact absurd h (by simp)
          · next hfree =>
              obtain rfl := Option.some.inj h
              exact .pop i hpc hfree
      · exact absurd h (by simp)

omit [DecidableEq ι] in
/-- What `read` returns at the end of a step: its error, or the bytes. -/
def readResult (b : Backend R) (s : State ι F) : Event ι R → Option (Except Dterr (List UInt8))
  | .clear _ => some (.error (overflowError b s.self))
  | .pop i =>
    match s.readers i with
    | .popping bufLen => some (.ok (popped b s.self bufLen).2)
    | _ => none
  | _ => none

end DtioxStream

/-! ## The backends -/

/-- The saturating sum of the TTY and the CAN backend. -/
def DtioxStream.addSaturating (total dropped : ℤ) : ℤ :=
  if 2147483647 - total ≥ dropped then total + dropped else 2147483647

/-- The TCP backend: the connection is up, so `recv` returns 1 to 1024 bytes; `addDropped` is
    `DTCORE_HELPER_ADD32`. -/
def DtioxLinuxTcp.stream (addDropped : ℤ → ℤ → ℤ) :
    DtioxStream.Backend { bs : List UInt8 // 0 < bs.length ∧ bs.length ≤ 1024 } where
  payload r := r.val
  hasMutex := false
  posts len written := decide (¬len - written > 0)
  addDropped := addDropped
  overflowText dropped := s!"TCP RX overflow (dropped {dropped} bytes)"

/-- The TTY backend: `read` returns at most 256 bytes. -/
def DtioxLinuxTty.stream : DtioxStream.Backend { bs : List UInt8 // bs.length ≤ 256 } where
  payload r := r.val
  hasMutex := false
  posts len written := decide (¬len - written > 0)
  addDropped := DtioxStream.addSaturating
  overflowText dropped := s!"UART RX overflow (dropped {dropped} bytes)"

namespace DtioxLinuxCanbus

/-- `struct can_frame`, as far as the task reads it. -/
structure CanFrame where
  canDlc : UInt8
  data : List UInt8
  data_length : data.length = 8

/-- The payload: at most 8 bytes, whatever the frame says. -/
def CanFrame.payload (frame : CanFrame) : List UInt8 :=
  frame.data.take (if frame.canDlc.toNat > 8 then 8 else frame.canDlc.toNat)

/-- The CAN backend. -/
def stream : DtioxStream.Backend CanFrame where
  payload := CanFrame.payload
  hasMutex := true
  posts _ written := decide (written > 0)
  addDropped := DtioxStream.addSaturating
  overflowText dropped := s!"RX FIFO overflow (dropped {dropped} bytes)"

end DtioxLinuxCanbus

/-! ## The steps of a chunk, one after the other

The models of the receive tasks in `Dtiox.Tcp` and `Dtiox.Tty` push a chunk in one step. -/

namespace DtioxStream

variable {ι R F : Type*} [Dtringfifo F] [DecidableEq ι]

/-- What comes of a chunk when nothing happens in between. -/
theorem exec_chunk {b : Backend R}
    (hb : ∀ len written, b.posts len written = decide (¬len - written > 0))
    (self : StreamRx F) (readers : ι → ReaderPc) {r : R} (hlen : (b.payload r).length ≠ 0)
    (henabled : self.rxEnabled = true) (post : Option Dterr) :
    let pushed := Dtringfifo.push self.rxFifo (b.payload r)
    let start : State ι F := ⟨self, .receiving, readers⟩
    (pushed.2 < (b.payload r).length → Run.exec (step b) start [.received r, .recorded] = some
      ⟨{ self with
          rxFifo := pushed.1
          rxOverflowFlag := true
          fifoDroppedBytes :=
            b.addDropped self.fifoDroppedBytes ((b.payload r).length - pushed.2) },
        .receiving, readers⟩) ∧
    (¬pushed.2 < (b.payload r).length → self.rxSemaphore = true →
      Run.exec (step b) start [.received r, .recorded, .posted post] = some
        (match post with
          | none =>
            ⟨{ self with rxFifo := pushed.1, rxPosts := self.rxPosts + 1 }, .receiving, readers⟩
          | some err => ⟨{ self with rxFifo := pushed.1 }, .cleanup err, readers⟩)) ∧
    (¬pushed.2 < (b.payload r).length → self.rxSemaphore = false →
      Run.exec (step b) start [.received r, .recorded] = some
        ⟨{ self with rxFifo := pushed.1 }, .receiving, readers⟩) := by
  intro pushed start
  have hreceived : step b start (.received r) = some
      ⟨{ self with rxFifo := pushed.1 }, .pushed (b.payload r).length pushed.2, readers⟩ := by
    dsimp only [step, start, received]
    rw [if_neg hlen, henabled]
    rfl
  refine ⟨fun hlt => ?_, fun hall hsem => ?_, fun hall hsem => ?_⟩
  · have hdropped : ((b.payload r).length : ℤ) - pushed.2 > 0 := by omega
    have hsub : (b.payload r).length - pushed.2 > 0 := by omega
    rw [Run.exec_cons, hreceived, Option.bind_some, Run.exec_cons]
    dsimp only [step, recorded]
    rw [if_pos hdropped, hb, decide_eq_false (not_not.2 hsub)]
    rfl
  · have hdropped : ¬((b.payload r).length : ℤ) - pushed.2 > 0 := by omega
    have hsub : ¬(b.payload r).length - pushed.2 > 0 := by omega
    rw [Run.exec_cons, hreceived, Option.bind_some, Run.exec_cons]
    dsimp only [step, recorded]
    rw [if_neg hdropped, hb, decide_eq_true hsub, hsem]
    cases post <;> rfl
  · have hdropped : ¬((b.payload r).length : ℤ) - pushed.2 > 0 := by omega
    rw [Run.exec_cons, hreceived, Option.bind_some, Run.exec_cons]
    dsimp only [step, recorded]
    rw [if_neg hdropped, hsem, Bool.and_false]
    rfl

end DtioxStream

namespace DtioxLinuxTcp

open DtioxStream

variable {ι F : Type*} [Dtringfifo F] [DecidableEq ι]

/-- The receive path of the object; `total` is its `fifo_dropped_bytes`. -/
def Tcp.streamRx (self : Tcp F) (total : ℤ) : StreamRx F where
  rxFifo := self.rxFifo
  rxOverflowFlag := self.rxOverflowFlag
  fifoDroppedBytes := total
  rxEnabled := self.rxEnabled
  rxSemaphore := self.rxSemaphore
  rxPosts := self.rxPosts

/-- The push of the receive task is a run of steps. -/
theorem pushReceived_steps (addDropped : ℤ → ℤ → ℤ) {self : Tcp F}
    (henabled : self.rxEnabled = true) (total : ℤ) (readers : ι → ReaderPc)
    (r : { bs : List UInt8 // 0 < bs.length ∧ bs.length ≤ 1024 }) (post : Option Dterr) :
    ∃ events total' pc, Run.exec (DtioxStream.step (stream addDropped))
        ⟨self.streamRx total, .receiving, readers⟩ events
      = some ⟨(pushReceived self r.val post).1.streamRx total', pc, readers⟩ ∧
    ((pushReceived self r.val post).2 = .top ↔ pc = .receiving) := by
  have hlen : ((stream addDropped).payload r).length ≠ 0 := Nat.ne_of_gt r.property.1
  obtain ⟨hdropped, hposted, hquiet⟩ := exec_chunk (b := stream addDropped) (fun _ _ => rfl)
    (self.streamRx total) readers hlen henabled post
  unfold pushReceived
  dsimp only
  by_cases hlt : (Dtringfifo.push self.rxFifo r.val).2 < r.val.length
  · rw [if_pos hlt]
    exact ⟨_, _, _, hdropped hlt, iff_of_true rfl rfl⟩
  · rw [if_neg hlt]
    by_cases hsem : self.rxSemaphore = true
    · rw [if_pos hsem]
      cases post with
      | none => exact ⟨_, _, _, hposted hlt hsem, iff_of_true rfl rfl⟩
      | some err => exact ⟨_, _, _, hposted hlt hsem, by simp⟩
    · rw [if_neg hsem]
      exact ⟨_, _, _, hquiet hlt (Bool.eq_false_iff.2 hsem), iff_of_true rfl rfl⟩

end DtioxLinuxTcp

namespace DtioxLinuxTty

open DtioxStream

variable {ι F : Type*} [Dtringfifo F] [DecidableEq ι]

/-- The receive path of the object. -/
def Tty.streamRx (self : Tty F) : StreamRx F where
  rxFifo := self.rxFifo
  rxOverflowFlag := self.rxOverflowFlag
  fifoDroppedBytes := self.fifoDroppedBytes
  rxEnabled := self.rxEnabled
  rxSemaphore := self.rxSemaphore
  rxPosts := self.rxPosts

/-- The push of the receive task is a run of steps. -/
theorem pushReceived_steps {self : Tty F} (henabled : self.rxEnabled = true)
    (readers : ι → ReaderPc) (r : { bs : List UInt8 // bs.length ≤ 256 }) (hlen : r.val.length ≠ 0)
    (post : Option Dterr) :
    ∃ events pc, Run.exec (DtioxStream.step stream) ⟨self.streamRx, .receiving, readers⟩ events
      = some ⟨(pushReceived self r.val post).1.streamRx, pc, readers⟩ ∧
    ((pushReceived self r.val post).2 = .top ↔ pc = .receiving) := by
  obtain ⟨hdropped, hposted, hquiet⟩ := exec_chunk (b := stream) (fun _ _ => rfl)
    self.streamRx readers hlen henabled post
  unfold pushReceived
  dsimp only
  by_cases hlt : (Dtringfifo.push self.rxFifo r.val).2 < r.val.length
  · have hpos : (r.val.length : ℤ) - (Dtringfifo.push self.rxFifo r.val).2 > 0 := by omega
    rw [if_pos hpos]
    exact ⟨_, _, hdropped hlt, iff_of_true rfl rfl⟩
  · have hpos : ¬(r.val.length : ℤ) - (Dtringfifo.push self.rxFifo r.val).2 > 0 := by omega
    rw [if_neg hpos]
    by_cases hsem : self.rxSemaphore = true
    · have hnot : ¬(!self.rxSemaphore) = true := by simp [hsem]
      dsimp only [postRxSemaphore]
      rw [if_pos hsem, if_neg hnot]
      cases post with
      | none => exact ⟨_, _, hposted hlt hsem, iff_of_true rfl rfl⟩
      | some err => exact ⟨_, _, hposted hlt hsem, by simp⟩
    · rw [if_neg hsem]
      exact ⟨_, _, hquiet hlt (Bool.eq_false_iff.2 hsem), iff_of_true rfl rfl⟩

end DtioxLinuxTty
