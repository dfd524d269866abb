import DtmcLinux.Dthttpd.Response
import DtmcLinux.Dtiox.Tcp
import DtmcLinux.Dtiox.Tty
import DtmcLinux.DtioxLinuxWebsocket.Basic

set_option autoImplicit false

/-! # Writing everything

`dtiox_linux_tcp_write` and `dtiox_linux_tty_write`, and the two functions `_send_all`, go on until the
kernel has accepted the whole buffer. They differ in what they make of a call that accepts nothing:
for three of them it is an error, the TTY tries again. -/

namespace Posix

/-- What a write leaves in the object and in `*out_written` (`none` when it does not get that far), and
    what it sends and returns. -/
structure WriteOutcome (σ : Type*) where
  self : σ
  outWritten : Option Int32
  sent : SendOutcome

/-- Returns at once with an error. -/
def WriteOutcome.refused {σ : Type*} (self : σ) (outWritten : Option Int32)
    (results : List SendResult) (dterr : Dterr) : WriteOutcome σ :=
  { self := self, outWritten := outWritten, sent := ⟨[], results, some (some dterr)⟩ }

/-- What the caller of a write of `len` bytes counts on. After `NULL` the kernel has accepted the whole
    buffer and `*out_written` is `len`; after an error it has accepted a prefix and `*out_written` is
    0. -/
structure WriteOutcome.Writes {σ : Type*} (w : WriteOutcome σ) (buf : List UInt8) (len : Int32) :
    Prop where
  whole : w.sent.ret = some none → w.sent.bytes = buf ∧ w.outWritten = some len
  part : ∀ dterr, w.sent.ret = some (some dterr) →
    w.sent.bytes <+: buf ∧ w.outWritten = some 0

/-- A write by a loop that transfers its buffer, with the count set after success alone. -/
theorem WriteOutcome.writes_of_transfers {σ : Type*} {w : WriteOutcome σ} {buf : List UInt8}
    {len : Int32} (h : w.sent.Transfers buf)
    (hcount : w.outWritten = some (if w.sent.ret = some none then len else 0)) : w.Writes buf len where
  whole hret := ⟨h.whole hret, by rw [hcount, if_pos hret]⟩
  part dterr hret := ⟨(h.part dterr hret).1, by rw [hcount, hret, if_neg (by simp)]⟩

theorem WriteOutcome.refused_writes {σ : Type*} (self : σ) (buf : List UInt8) (len : Int32)
    (results : List SendResult) (dterr : Dterr) :
    (WriteOutcome.refused self (some 0) results dterr).Writes buf len where
  whole hret := by cases hret
  part _ _ := ⟨List.nil_prefix, rfl⟩

theorem take_len {buf : List UInt8} {len : Int32} (hlen : len.toInt = buf.length) :
    buf.take len.toNatClampNeg = buf := by
  refine List.take_of_length_le ?_
  rw [Int32.toNatClampNeg, hlen]
  exact le_rfl

end Posix

/-! ## TCP -/

namespace DtioxLinuxTcp

open Posix

variable {F : Type*}

/-- The return from `dtiox_linux_tcp_write`, after what the loop has done. -/
def ended (self : Tcp F) (len : Int32) (sent : SendOutcome) : WriteOutcome (Tcp F) :=
  match sent.ret with
  | some none => { self := self, outWritten := some len, sent := sent }
  | some (some _) =>
    { self := { self with isConnected := false }, outWritten := some 0, sent := sent }
  | none => { self := self, outWritten := some 0, sent := sent }

/-- The loop of `dtiox_linux_tcp_write`. -/
def sendBuffer (self : Tcp F) : List UInt8 → List SendResult → SendOutcome :=
  sendLoop (.new .io "TCP send returned 0") fun strerror =>
    .new .io s!"TCP send failed on fd {self.fd}: {strerror}"

/-- `dtiox_linux_tcp_write`, on an object; `outWritten` tells whether the caller passed a place for the
    count. -/
def write (self : Tcp F) (buf : Option (List UInt8)) (len : Int32) (outWritten : Bool)
    (results : List SendResult) : WriteOutcome (Tcp F) :=
  match buf with
  | none => .refused self none results (.assertNotNull "buf")
  | some buf =>
    if !outWritten then
      .refused self none results (.assertNotNull "out_written")
    else if self.fd < 0 ∨ !self.isConnected then
      .refused self (some 0) results (.new .io "TCP not attached")
    else
      ended self len (sendBuffer self (buf.take len.toNatClampNeg) results)

variable {self : Tcp F} {buf : List UInt8} {len : Int32}

theorem write_attached (hlen : len.toInt = buf.length) (hfd : 0 ≤ self.fd)
    (hconnected : self.isConnected = true) (results : List SendResult) :
    write self (some buf) len true results = ended self len (sendBuffer self buf results) := by
  have hguard : ¬(self.fd < 0 ∨ (!self.isConnected) = true) := by
    rintro (hneg | hnot)
    · exact absurd hfd (Int.not_le.2 hneg)
    · rw [hconnected] at hnot
      cases hnot
  unfold write
  dsimp only
  rw [if_neg (by decide), if_neg hguard, take_len hlen]

theorem ended_sent (self : Tcp F) (len : Int32) (sent : SendOutcome) :
    (ended self len sent).sent = sent ∧
      (ended self len sent).outWritten = some (if sent.ret = some none then len else 0) := by
  obtain ⟨bytes, rest, ret⟩ := sent
  match ret with
  | some none => exact ⟨rfl, rfl⟩
  | some (some dterr) => exact ⟨rfl, rfl⟩
  | none => exact ⟨rfl, rfl⟩

theorem write_unattached (h : self.fd < 0 ∨ self.isConnected = false) (results : List SendResult) :
    write self (some buf) len true results =
      .refused self (some 0) results (.new .io "TCP not attached") := by
  have hguard : self.fd < 0 ∨ (!self.isConnected) = true := by simpa using h
  unfold write
  dsimp only
  rw [if_neg (by decide), if_pos hguard]

end DtioxLinuxTcp

/-! ## TTY -/

namespace DtioxLinuxTty

open Posix

variable {F : Type*}

/-- The counters of the object that its writes keep. -/
structure TxCounters where
  txByteCount : ℤ
  txWriteCalls : ℤ

/-- `_inc32` -/
def inc32 (v : ℤ) : ℤ := if v < 2 ^ 31 - 1 then v + 1 else v

/-- The loop of `dtiox_linux_tty_write`: the bytes it has sent, and `tx_byte_count`. -/
def writeLoop : List UInt8 → List SendResult → ℤ → SendOutcome × ℤ
  | [], results, count => (⟨[], results, some none⟩, count)
  | _ :: _, [], count => (⟨[], [], none⟩, count)
  | b :: buf, .accepts n :: results, count =>
    if n = 0 then writeLoop (b :: buf) results count
    else
      let r := writeLoop ((b :: buf).drop n) results (add64 count ((b :: buf).take n).length)
      ({ r.1 with bytes := (b :: buf).take n ++ r.1.bytes }, r.2)
  | b :: buf, .eintr :: results, count => writeLoop (b :: buf) results count
  | _ :: _, .error strerror :: results, count =>
    (⟨[], results, some (some (.new .io s!"UART write failed: {strerror}"))⟩, count)

/-- `dtiox_linux_tty_write` -/
def write (self : Tty F) (tx : TxCounters) (buf : List UInt8) (len : Int32)
    (results : List SendResult) : WriteOutcome TxCounters :=
  let tx := { tx with txWriteCalls := inc32 tx.txWriteCalls }
  if self.fd < 0 then
    .refused tx (some 0) results (.new .io "UART not attached")
  else
    let r := writeLoop (buf.take len.toNatClampNeg) results tx.txByteCount
    { self := { tx with txByteCount := r.2 }
      outWritten := some (if r.1.ret = some none then len else 0)
      sent := r.1 }

/-- A call that accepts nothing is tried again, like one that is interrupted. -/
def retried : SendResult → SendResult
  | .accepts 0 => .eintr
  | result => result

/-- The loop is the one the sockets use, with nothing accepted read as an interruption. -/
theorem writeLoop_eq (returned0 : Dterr) (buf : List UInt8) (results : List SendResult) (count : ℤ) :
    (writeLoop buf results count).1.bytes =
        (sendLoop returned0 (fun strerror => .new .io s!"UART write failed: {strerror}") buf
          (results.map retried)).bytes ∧
      (writeLoop buf results count).1.ret =
        (sendLoop returned0 (fun strerror => .new .io s!"UART write failed: {strerror}") buf
          (results.map retried)).ret := by
  induction buf, results, count using writeLoop.induct with
  | case1 results count =>
      rw [writeLoop, sendLoop]
      exact ⟨rfl, rfl⟩
  | case2 b buf count =>
      rw [writeLoop, List.map_nil, sendLoop]
      exact ⟨rfl, rfl⟩
  | case3 b buf results count ih =>
      rw [writeLoop, if_pos rfl, List.map_cons, retried, sendLoop]
      exact ih
  | case4 b buf n results count hn ih =>
      have hretried : retried (.accepts n) = .accepts n := by
        cases n with
        | zero => exact absurd rfl hn
        | succ n => rfl
      rw [writeLoop, if_neg hn, List.map_cons, hretried, sendLoop, if_neg hn]
      exact ⟨congrArg (_ ++ ·) ih.1, ih.2⟩
  | case5 b buf results count ih =>
      rw [writeLoop, List.map_cons, retried, sendLoop]
      · exact ih
      · intro h
        cases h
  | case6 b buf strerror results count =>
      rw [writeLoop, List.map_cons, retried, sendLoop]
      · exact ⟨rfl, rfl⟩
      · intro h
        cases h

/-- The counter saturates: adding twice is adding the sum. -/
theorem add64_add64 (v : ℤ) (m n : ℕ) : add64 (add64 v m) n = add64 v (m + n : ℕ) := by
  unfold add64
  split_ifs <;> omega

/-- `tx_byte_count` counts the bytes accepted. -/
theorem writeLoop_count (buf : List UInt8) (results : List SendResult) (count : ℤ)
    (hcount : count ≤ 2 ^ 63 - 1) :
    (writeLoop buf results count).2 = add64 count (writeLoop buf results count).1.bytes.length := by
  have hzero : ∀ c : ℤ, c ≤ 2 ^ 63 - 1 → c = add64 c (([] : List UInt8).length : ℕ) := by
    intro c hc
    unfold add64
    rw [List.length_nil]
    split_ifs <;> omega
  induction buf, results, count using writeLoop.induct with
  | case1 results count =>
      rw [writeLoop]
      exact hzero count hcount
  | case2 b buf count =>
      rw [writeLoop]
      exact hzero count hcount
  | case3 b buf results count ih =>
      rw [writeLoop, if_pos rfl]
      exact ih hcount
  | case4 b buf n results count hn ih =>
      have hle : add64 count ((b :: buf).take n).length ≤ 2 ^ 63 - 1 := by
        unfold add64
        split_ifs <;> omega
      rw [writeLoop, if_neg hn]
      dsimp only
      rw [ih hle, add64_add64, List.length_append]
  | case5 b buf results count ih =>
      rw [writeLoop]
      exact ih hcount
  | case6 b buf strerror results count =>
      rw [writeLoop]
      exact hzero count hcount

theorem writeLoop_transfers (buf : List UInt8) (results : List SendResult) (count : ℤ) :
    (writeLoop buf results count).1.Transfers buf := by
  obtain ⟨hbytes, hret⟩ := writeLoop_eq (.new .io "") buf results count
  have hloop : (sendLoop (.new .io "") (fun strerror => .new .io s!"UART write failed: {strerror}")
      buf (results.map retried)).Transfers buf := sendLoop_transfers buf (results.map retried)
  refine ⟨fun h => ?_, fun dterr h => ?_⟩
  · rw [hbytes]
    exact hloop.whole (hret.symm.trans h)
  · rw [hbytes]
    exact hloop.part dterr (hret.symm.trans h)

/-- The loop returns: every call that accepts something or fails ends it or shortens the buffer. -/
theorem writeLoop_returns (buf : List UInt8) (results : List SendResult) (count : ℤ)
    (h : buf.length ≤ ((results.map retried).filter SendResult.settles).length) :
    (writeLoop buf results count).1.ret.isSome := by
  rw [(writeLoop_eq (.new .io "") buf results count).2]
  exact sendLoop_returns buf (results.map retried) h

end DtioxLinuxTty

/-! ## All four -/

namespace Posix

variable {F : Type*}

/-- The object is attached, as `dtiox_linux_tcp_write` tests it. -/
def TcpAttached (self : DtioxLinuxTcp.Tcp F) : Prop := 0 ≤ self.fd ∧ self.isConnected = true

/-- The object is attached, as `dtiox_linux_tty_write` tests it. -/
def TtyAttached (self : DtioxLinuxTty.Tty F) : Prop := 0 ≤ self.fd

/-- A refused write transfers every buffer but the empty one. -/
theorem refused_transfers {σ : Type*} (self : σ) {buf : List UInt8} (hbuf : buf ≠ [])
    (results : List SendResult) (dterr : Dterr) :
    (WriteOutcome.refused self (some 0) results dterr).sent.Transfers buf where
  whole hret := by cases hret
  part _ _ := ⟨List.nil_prefix, hbuf.symm⟩

theorem tcp_write (self : DtioxLinuxTcp.Tcp F) {buf : List UInt8} {len : Int32}
    (hlen : len.toInt = buf.length) (results : List SendResult) :
    (DtioxLinuxTcp.write self (some buf) len true results).Writes buf len ∧
      ((buf = [] → TcpAttached self) →
        (DtioxLinuxTcp.write self (some buf) len true results).sent.Transfers buf) := by
  by_cases hattached : TcpAttached self
  · rw [DtioxLinuxTcp.write_attached hlen hattached.1 hattached.2]
    obtain ⟨hsent, hcount⟩ :=
      DtioxLinuxTcp.ended_sent self len (DtioxLinuxTcp.sendBuffer self buf results)
    have htransfers : (DtioxLinuxTcp.ended self len
        (DtioxLinuxTcp.sendBuffer self buf results)).sent.Transfers buf := by
      rw [hsent]
      exact sendLoop_transfers buf results
    refine ⟨WriteOutcome.writes_of_transfers htransfers ?_, fun _ => htransfers⟩
    rw [hcount, hsent]
  · have hunattached : self.fd < 0 ∨ self.isConnected = false := by
      by_cases hfd : 0 ≤ self.fd
      · exact .inr (Bool.eq_false_iff.2 fun hconnected => hattached ⟨hfd, hconnected⟩)
      · exact .inl (Int.not_le.1 hfd)
    rw [DtioxLinuxTcp.write_unattached hunattached]
    refine ⟨WriteOutcome.refused_writes self buf len results _, fun hempty => ?_⟩
    exact refused_transfers self (fun hnil => hattached (hempty hnil)) results _

theorem tty_write (self : DtioxLinuxTty.Tty F) (tx : DtioxLinuxTty.TxCounters) {buf : List UInt8}
    {len : Int32} (hlen : len.toInt = buf.length) (results : List SendResult) :
    (DtioxLinuxTty.write self tx buf len results).Writes buf len ∧
      ((buf = [] → TtyAttached self) →
        (DtioxLinuxTty.write self tx buf len results).sent.Transfers buf) := by
  unfold DtioxLinuxTty.write
  dsimp only
  rw [take_len hlen]
  split
  · next hfd =>
      refine ⟨WriteOutcome.refused_writes _ buf len results _, fun hempty => ?_⟩
      refine refused_transfers _ (fun hnil => ?_) results _
      exact absurd (hempty hnil) (Int.not_le.2 hfd)
  · next hfd =>
      have htransfers := DtioxLinuxTty.writeLoop_transfers buf results tx.txByteCount
      exact ⟨WriteOutcome.writes_of_transfers htransfers rfl, fun _ => htransfers⟩

/-- **Writing everything.** For every buffer and every sequence of kernel results: if the TCP write, the
    TTY write or one of the two `_send_all` succeeds, the kernel has accepted the whole buffer, in
    order and each byte once, and the first two report its length; if it fails, the kernel has accepted
    a prefix and the first two report 0. The prefix is a proper one, except that a TCP or a TTY write
    of an empty buffer fails too when the object is not attached. -/
theorem write_all (results : List SendResult) :
    (∀ (self : DtioxLinuxTcp.Tcp F) (buf : List UInt8) (len : Int32), len.toInt = buf.length →
      (DtioxLinuxTcp.write self (some buf) len true results).Writes buf len ∧
      ((buf = [] → TcpAttached self) →
        (DtioxLinuxTcp.write self (some buf) len true results).sent.Transfers buf)) ∧
    (∀ (self : DtioxLinuxTty.Tty F) (tx : DtioxLinuxTty.TxCounters) (buf : List UInt8) (len : Int32),
      len.toInt = buf.length →
      (DtioxLinuxTty.write self tx buf len results).Writes buf len ∧
      ((buf = [] → TtyAttached self) →
        (DtioxLinuxTty.write self tx buf len results).sent.Transfers buf)) ∧
    (∀ buf, (DthttpdLinuxSocket.sendAll buf results).Transfers buf) ∧
    ∀ buf, (DtioxLinuxWebsocket.sendAll buf results).Transfers buf :=
  ⟨fun self _ _ hlen => tcp_write self hlen results,
    fun self tx _ _ hlen => tty_write self tx hlen results,
    fun buf => sendLoop_transfers buf results, fun buf => sendLoop_transfers buf results⟩

/-- An attached TTY. -/
def attachedTty : DtioxLinuxTty.Tty Unit :=
  { (DtioxLinuxTty.State.configured "/dev/ttyS0" () false).self with fd := 3 }

/-- It takes three bytes: two, none, and after an interruption the last one. -/
theorem write_all_attachedTty :
    (DtioxLinuxTty.write attachedTty ⟨0, 0⟩ [1, 2, 3] 3
      [.accepts 2, .accepts 0, .eintr, .accepts 1]).outWritten = some 3 :=
  (((write_all [.accepts 2, .accepts 0, .eintr, .accepts 1]).2.1 attachedTty ⟨0, 0⟩ [1, 2, 3] 3
    rfl).1.whole rfl).2

/-- An empty buffer has no proper prefix, but its write by an object that is not attached fails. -/
theorem empty_write_unattached :
    ¬(DtioxLinuxTcp.write (DtioxLinuxTcp.State.configured .client () false).self (some []) 0 true
      []).sent.Transfers [] := by
  intro h
  exact (h.part (.new .io "TCP not attached") rfl).2 rfl

end Posix
