import DtmcLinux.Dtiox.StreamRx
import DtmcLinux.Foundation.Chunks
import DtmcLinux.Foundation.Observer
import Mathlib.Algebra.Ring.Nat

set_option autoImplicit false

/-! # From one CAN object to another

`dtiox_linux_canbus_write` chops what it is given into frames, `_rx_task_entry` pushes the payload of
each frame into the FIFO of the peer, and its reads take the bytes from there. As long as the FIFO has
room, what the reads return is what was written. -/

/-! ## What goes through the FIFO -/

namespace DtioxStream

variable {ι R F : Type*} [Dtringfifo F]

/-- The bytes a run has received, and those its reads have returned, in order. -/
structure Traffic where
  received : List UInt8
  returned : List UInt8

/-- The traffic after a step. -/
def Traffic.update (b : Backend R) (s : State ι F) (e : Event ι R) (_ : State ι F) (g : Traffic) :
    Traffic :=
  match e, readResult b s e with
  | .received r, _ => { g with received := g.received ++ b.payload r }
  | _, some (.ok bs) => { g with returned := g.returned ++ bs }
  | _, _ => g

/-- What the system calls of a run delivered. -/
def receptions (events : List (Event ι R)) : List R :=
  events.filterMap fun
    | .received r => some r
    | _ => none

/-- The condition on a step: what is received fits the FIFO. -/
def HasRoom [BoundedDtringfifo F] (b : Backend R) (s : State ι F) : Event ι R → Prop
  | .received r => (Dtringfifo.contents s.self.rxFifo).length + (b.payload r).length ≤
      BoundedDtringfifo.capacity s.self.rxFifo
  | _ => True

instance [BoundedDtringfifo F] (b : Backend R) (s : State ι F) (e : Event ι R) :
    Decidable (HasRoom b s e) :=
  match e with
  | .received _ => inferInstanceAs (Decidable (_ ≤ _))
  | .recorded | .posted _ | .test _ _ | .clear _ | .pop _ => .isTrue trivial

variable [DecidableEq ι]

/-- The backend, with its traffic. -/
def Traffic.step (b : Backend R) :
    State ι F × Traffic → Event ι R → Option (State ι F × Traffic) :=
  Observer.observed (DtioxStream.step b) (Traffic.update b)

/-- Nothing is lost or added since the FIFO held `start`. -/
structure Conserved (start : List UInt8) (s : State ι F × Traffic) : Prop where
  enabled : s.1.self.rxEnabled = true
  bytes : s.2.returned ++ Dtringfifo.contents s.1.self.rxFifo = start ++ s.2.received

omit [DecidableEq ι] in
/-- A chunk that fits is stored whole. -/
theorem received_contents [BoundedDtringfifo F] {b : Backend R} {s : State ι F}
    (henabled : s.self.rxEnabled = true) {r : R} (hroom : HasRoom b s (.received r)) :
    (received b s r).self.rxEnabled = true ∧
      Dtringfifo.contents (received b s r).self.rxFifo =
        Dtringfifo.contents s.self.rxFifo ++ b.payload r := by
  unfold received
  dsimp only
  by_cases hempty : (b.payload r).length = 0
  · rw [if_pos hempty, List.eq_nil_of_length_eq_zero hempty, List.append_nil]
    exact ⟨henabled, rfl⟩
  · have hall : (Dtringfifo.push s.self.rxFifo (b.payload r)).2 = (b.payload r).length := by
      rw [BoundedDtringfifo.push_snd]
      exact Nat.min_eq_left (Nat.le_sub_of_add_le (Nat.add_comm _ _ ▸ hroom))
    rw [if_neg hempty, if_neg (by simp [henabled])]
    refine ⟨henabled, ?_⟩
    rw [LawfulDtringfifo.contents_push, hall, List.take_length]

omit [DecidableEq ι] in
/-- A pop takes its bytes from the front of the FIFO. -/
theorem popped_contents [LawfulDtringfifo F] (b : Backend R) (self : StreamRx F) (bufLen : ℤ) :
    (popped b self bufLen).1.rxEnabled = self.rxEnabled ∧
      Dtringfifo.contents self.rxFifo =
        (popped b self bufLen).2 ++ Dtringfifo.contents (popped b self bufLen).1.rxFifo := by
  unfold popped
  split
  · exact ⟨rfl, rfl⟩
  · exact ⟨rfl, LawfulDtringfifo.contents_pop _ _⟩

/-- One step, when what is received fits. -/
theorem conserved_step [BoundedDtringfifo F] {b : Backend R} {start : List UInt8}
    {s s' : State ι F × Traffic} {e : Event ι R} (hs : Conserved start s) (hroom : HasRoom b s.1 e)
    (hstep : Traffic.step b s e = some s') : Conserved start s' := by
  obtain ⟨s, g⟩ := s
  obtain ⟨s', g'⟩ := s'
  obtain ⟨hmove, rfl⟩ := (Observer.observed_eq_some _ _).1 hstep
  have henabled : s.self.rxEnabled = true := hs.enabled
  have hbytes : g.returned ++ Dtringfifo.contents s.self.rxFifo = start ++ g.received := hs.bytes
  cases step_effect hmove with
  | received r hpc =>
      obtain ⟨hen, hcontents⟩ := received_contents henabled hroom
      refine ⟨hen, ?_⟩
      show g.returned ++ _ = start ++ (g.received ++ b.payload r)
      rw [hcontents, ← List.append_assoc, hbytes, List.append_assoc]
  | @recorded len written hpc =>
      unfold recorded
      dsimp only
      split
      · exact ⟨henabled, hbytes⟩
      · exact ⟨henabled, hbytes⟩
  | posted hpc => exact ⟨henabled, hbytes⟩
  | postFailed err hpc => exact ⟨henabled, hbytes⟩
  | test i bufLen hpc => exact ⟨henabled, hbytes⟩
  | clear i hpc => exact ⟨henabled, hbytes⟩
  | @pop i bufLen hpc hfree =>
      obtain ⟨hen, hcontents⟩ := popped_contents b s.self bufLen
      have hupdate : Traffic.update b s (.pop i : Event ι R)
          { s with
            self := (popped b s.self bufLen).1
            readers := Function.update s.readers i .idle } g =
          { g with returned := g.returned ++ (popped b s.self bufLen).2 } := by
        simp only [Traffic.update, readResult, hpc]
      refine ⟨hen.trans henabled, ?_⟩
      dsimp only
      rw [hupdate, ← hbytes, hcontents, List.append_assoc]

/-- The traffic received is what the system calls delivered. -/
theorem received_traffic (b : Backend R) (events : List (Event ι R)) :
    ∀ {s t : State ι F × Traffic}, Run.exec (Traffic.step b) s events = some t →
      t.2.received = s.2.received ++ (receptions events).flatMap b.payload := by
  induction events with
  | nil =>
      intro s t h
      rw [Run.exec_nil, Option.some.injEq] at h
      rw [h]
      exact (List.append_nil _).symm
  | cons e events ih =>
      intro s t h
      obtain ⟨⟨s', g'⟩, hstep, hrest⟩ := (Run.exec_cons_eq_some _ _ _ _ _).1 h
      obtain ⟨-, rfl⟩ := (Observer.observed_eq_some _ _).1 hstep
      rw [ih hrest]
      cases e with
      | received r => exact List.append_assoc _ _ _
      | pop i =>
          refine congrArg (· ++ _) ?_
          simp only [Traffic.update]
          split
          · next heq => cases heq
          · rfl
          · rfl
      | clear i => rfl
      | _ => rfl

end DtioxStream

/-! ## The write -/

namespace DtioxLinuxCanbus

open Chunks DtioxStream

/-- `struct can_frame` as it is sent. -/
structure TxFrame extends CanFrame where
  canId : UInt32

/-- `sizeof(struct can_frame)` -/
def sizeofCanFrame : ℤ := 16

/-- What one `send` returns, and the text of `errno`. -/
structure SendReturn where
  n : ℤ
  errno : String

/-- The members of `dtiox_linux_canbus_t` that write uses. -/
structure CanbusTx where
  sockFd : ℤ
  txid : UInt32

/-- The frame of the next `chunkLen` bytes; what they do not fill is zero. -/
def txFrame (txid : UInt32) (chunkLen : ℕ) (bytes : List UInt8) : TxFrame where
  canId := txid
  canDlc := UInt8.ofNat chunkLen
  data := (bytes.take chunkLen ++ List.replicate 8 0).take 8
  data_length := by
    rw [List.length_take, List.length_append, List.length_replicate]
    exact Nat.min_eq_left (Nat.le_add_left 8 _)

/-- `chunk_len` -/
def chunkLen (remaining : ℤ) : ℤ := if remaining > 8 then 8 else remaining

theorem chunkLen_spec {remaining : ℤ} (h : 0 < remaining) :
    0 < chunkLen remaining ∧ chunkLen remaining ≤ 8 ∧ chunkLen remaining ≤ remaining := by
  unfold chunkLen
  split <;> omega

/-- The loop of `dtiox_linux_canbus_write`, the `i`-th `send` with the result `sends i`: the error,
    `total_written`, and the frames sent. -/
def writeLoop (txid : UInt32) (sends : ℕ → SendReturn) (buf : List UInt8) (len : ℤ) (i : ℕ)
    (totalWritten : ℤ) : Option Dterr × ℤ × List TxFrame :=
  if totalWritten < len then
    let chunk := chunkLen (len - totalWritten)
    let frame := txFrame txid chunk.toNat (buf.drop totalWritten.toNat)
    let n := (sends i).n
    let errno := (sends i).errno
    if n < 0 then (some (.new .fail s!"send() failed: {errno}"), totalWritten, [])
    else if n ≠ sizeofCanFrame then
      (some (.new .fail s!"send() short write: {n} bytes"), totalWritten, [])
    else
      let (dterr, total, frames) := writeLoop txid sends buf len (i + 1) (totalWritten + chunk)
      (dterr, total, frame :: frames)
  else (none, totalWritten, [])
termination_by (len - totalWritten).toNat
decreasing_by
  have hrest : 0 < len - totalWritten := by omega
  have hpos := (chunkLen_spec hrest).1
  omega

/-- `dtiox_linux_canbus_write`: the error, `*out_written`, and the frames sent. -/
def write (self : CanbusTx) (buf : List UInt8) (len : ℤ) (sends : ℕ → SendReturn) :
    Option Dterr × ℤ × List TxFrame :=
  if self.sockFd < 0 then (some (.new .fail "socket not attached"), 0, [])
  else
    match writeLoop self.txid sends buf len 0 0 with
    | (some dterr, _, frames) => (some dterr, 0, frames)
    | (none, total, frames) => (none, total, frames)

/-- The payload of a frame is the chunk. -/
theorem payload_txFrame (txid : UInt32) {n : ℕ} (bytes : List UInt8) (hn : n ≤ 8)
    (hlen : n ≤ bytes.length) :
    (txFrame txid n bytes).canDlc.toNat = n ∧
      (txFrame txid n bytes).payload = bytes.take n := by
  have hdlc : (txFrame txid n bytes).canDlc.toNat = n :=
    UInt8.toNat_ofNat_of_lt' (Nat.lt_of_le_of_lt hn (by decide))
  refine ⟨hdlc, ?_⟩
  have htake : (bytes.take n).length = n := List.length_take_of_le hlen
  unfold CanFrame.payload
  rw [hdlc, if_neg (Nat.not_lt.2 hn)]
  show ((bytes.take n ++ List.replicate 8 0).take 8).take n = bytes.take n
  rw [List.take_take, Nat.min_eq_left hn, List.take_append_of_le_length (Nat.le_of_eq htake.symm),
    List.take_of_length_le (Nat.le_of_eq htake)]

/-- What write sends is chopped into the payloads of its frames. -/
theorem writeLoop_spec (txid : UInt32) {sends : ℕ → SendReturn}
    (hsends : ∀ i, (sends i).n = sizeofCanFrame) (buf : List UInt8) {len : ℤ}
    (hlen : len = buf.length) (i : ℕ) (totalWritten : ℤ) (h0 : 0 ≤ totalWritten)
    (hle : totalWritten ≤ len) :
    ∃ frames, writeLoop txid sends buf len i totalWritten = (none, len, frames) ∧
      Chopped 8 (buf.drop totalWritten.toNat) (frames.map fun f => f.payload) ∧
      ∀ f ∈ frames, f.canDlc.toNat = f.payload.length := by
  by_cases hlt : totalWritten < len
  · have hmore : 0 < len - totalWritten := by omega
    obtain ⟨hpos, hmax, hrest⟩ := chunkLen_spec hmore
    obtain ⟨frames, hframes, hchopped, hdlc⟩ := writeLoop_spec txid hsends buf hlen (i + 1)
      (totalWritten + chunkLen (len - totalWritten)) (by omega) (by omega)
    have hrestLen : (buf.drop totalWritten.toNat).length = (len - totalWritten).toNat := by
      rw [List.length_drop]
      omega
    have hmin : min (chunkLen (len - totalWritten)).toNat (buf.drop totalWritten.toNat).length =
        min 8 (buf.drop totalWritten.toNat).length := by
      rw [hrestLen]
      unfold chunkLen
      split <;> omega
    obtain ⟨hhead, hpayload⟩ := payload_txFrame txid
      (n := (chunkLen (len - totalWritten)).toNat) (buf.drop totalWritten.toNat) (by omega) (by omega)
    have hdrop : buf.drop (totalWritten + chunkLen (len - totalWritten)).toNat =
        (buf.drop totalWritten.toNat).drop 8 := by
      rw [← List.drop_eq_drop_iff.2 hmin, List.drop_drop]
      congr 1
      omega
    refine ⟨txFrame txid (chunkLen (len - totalWritten)).toNat (buf.drop totalWritten.toNat) ::
      frames, ?_, ?_, ?_⟩
    · have hfails : ¬(sends i).n < 0 := by
        rw [hsends i]
        decide
      rw [writeLoop, if_pos hlt]
      dsimp only
      rw [if_neg hfails, if_neg (not_not.2 (hsends i)), hframes]
    · rw [hdrop] at hchopped
      rw [List.map_cons, hpayload, List.take_eq_take_iff.2 hmin]
      exact Chopped.take_cons (List.ne_nil_of_length_pos (by omega)) hchopped
    · intro f hf
      rcases List.mem_cons.1 hf with rfl | hf
      · rw [hpayload, hhead]
        exact (List.length_take_of_le (by omega)).symm
      · exact hdlc f hf
  · refine ⟨[], ?_, ?_, nofun⟩
    · rw [writeLoop, if_neg hlt, Int.le_antisymm hle (Int.not_lt.1 hlt)]
    · rw [List.drop_eq_nil_of_le (by omega)]
      exact .nil
termination_by (len - totalWritten).toNat
decreasing_by omega

/-- A string that is written, and the results of its sends. -/
structure CanWrite where
  string : List UInt8
  sends : ℕ → SendReturn

/-- The call of write. -/
def CanWrite.call (w : CanWrite) (self : CanbusTx) : Option Dterr × ℤ × List TxFrame :=
  write self w.string w.string.length w.sends

/-- The frames a call has sent. -/
def CanWrite.frames (w : CanWrite) (self : CanbusTx) : List TxFrame := (w.call self).2.2

/-- A string of `n` bytes has become ⌈n/8⌉ frames of 1 to 8 bytes, 8 in all but the last. -/
structure CanWrite.Chopped (w : CanWrite) (self : CanbusTx) : Prop where
  succeeds : (w.call self).1 = none
  outWritten : (w.call self).2.1 = w.string.length
  count : (w.frames self).length = (w.string.length + 7) / 8
  dlc : ∀ f ∈ w.frames self, 1 ≤ f.canDlc.toNat ∧ f.canDlc.toNat ≤ 8
  full : ∀ f ∈ (w.frames self).dropLast, f.canDlc.toNat = 8

/-- A write whose sends succeed. -/
theorem write_spec {self : CanbusTx} (hattached : 0 ≤ self.sockFd) {w : CanWrite}
    (hsends : ∀ i, (w.sends i).n = sizeofCanFrame) :
    w.Chopped self ∧ (w.frames self).flatMap (fun f => f.payload) = w.string := by
  obtain ⟨frames, hframes, hchopped, hdlc⟩ := writeLoop_spec self.txid hsends w.string rfl 0 0
    (Int.le_refl 0) (Int.natCast_nonneg _)
  have hcall : w.call self = (none, (w.string.length : ℤ), frames) := by
    rw [CanWrite.call, write, if_neg (Int.not_lt.2 hattached), hframes]
  have hsent : w.frames self = frames := by rw [CanWrite.frames, hcall]
  change Chunks.Chopped 8 w.string _ at hchopped
  refine ⟨⟨by rw [hcall], by rw [hcall], ?_, ?_, ?_⟩, ?_⟩
  · have hcount := hchopped.length_eq (by decide)
    rwa [List.length_map, ← hsent] at hcount
  · rw [hsent]
    intro f hf
    rw [hdlc f hf]
    exact hchopped.length_mem (by decide) _ (List.mem_map_of_mem hf)
  · rw [hsent]
    intro f hf
    rw [hdlc f (List.dropLast_subset _ hf)]
    refine hchopped.length_dropLast _ ?_
    rw [← List.map_dropLast]
    exact List.mem_map_of_mem hf
  · rw [hsent, List.flatMap_def, hchopped.flatten]

/-- An object that is attached, and one that receives, with a FIFO of 16 bytes. -/
def attachedTx : CanbusTx := ⟨3, 291⟩

def peerStart : State Unit ByteFifo :=
  ⟨⟨⟨16, []⟩, false, 0, true, true, 0⟩, .receiving, fun _ => .idle⟩

/-- Nine bytes, nothing, and one byte. -/
def nineBytes : CanWrite := ⟨[1, 2, 3, 4, 5, 6, 7, 8, 9], fun _ => ⟨16, ""⟩⟩
def noBytes : CanWrite := ⟨[], fun _ => ⟨16, ""⟩⟩
def oneByte : CanWrite := ⟨[10], fun _ => ⟨16, ""⟩⟩

/-- The frames are received while the peer reads: 5 bytes, and then all that is there. -/
def receiveAndRead : List (Event Unit CanFrame) :=
  [.received (txFrame 291 8 [1, 2, 3, 4, 5, 6, 7, 8]).toCanFrame, .test () 5, .recorded, .pop (),
    .posted none, .received (txFrame 291 1 [9]).toCanFrame, .recorded, .posted none,
    .received (txFrame 291 1 [10]).toCanFrame, .test () 100, .recorded, .pop ()]

end DtioxLinuxCanbus
