import DtmcLinux.DtioxLinuxWebsocket.Basic
import DtmcLinux.Foundation.Rfc6455

set_option autoImplicit false

/-! # What the writes of one connection send

The header is the first byte and the length field of RFC 6455, so a successful write sends one
binary frame and a failed one a prefix of it. The failed write also clears `is_connected`, and the
writes after it send nothing: the bytes of a connection are whole frames, followed by at most one
truncated frame. -/

namespace DtioxLinuxWebsocket

open Posix BigEndian Rfc6455

/-! ## One frame -/

/-- The header is that of an unmasked binary frame with the shortest length field. -/
theorem frameHeader_eq (payloadLen : UInt64) :
    frameHeader payloadLen = 0x82 :: encodeLength payloadLen.toNat := by
  have hbyte0 : (payloadLen &&& 0xFF).toUInt8 = UInt8.ofNat (payloadLen.toNat / 256 ^ 0) := by
    have h := ofNat_div_eq_shift64 payloadLen 0 0 rfl (by decide)
    rwa [UInt64.shiftRight_zero] at h
  have hshort : payloadLen.toUInt8 = UInt8.ofNat payloadLen.toNat := by
    apply UInt8.toNat_inj.1
    rw [UInt64.toNat_toUInt8, UInt8.toNat_ofNat']
  unfold frameHeader encodeLength
  by_cases h125 : payloadLen ≤ 125
  · rw [if_pos h125, if_pos (show payloadLen.toNat ≤ 125 from h125), hshort]
  · rw [if_neg h125, if_neg (show ¬payloadLen.toNat ≤ 125 from h125)]
    by_cases hmid : payloadLen ≤ 0xFFFF
    · rw [if_pos hmid, if_pos (show payloadLen.toNat ≤ 0xFFFF from hmid),
        ofNat_div_eq_shift64 payloadLen 8 1 rfl (by decide), hbyte0]
      rfl
    · rw [if_neg hmid, if_neg (show ¬payloadLen.toNat ≤ 0xFFFF from hmid),
        ofNat_div_eq_shift64 payloadLen 56 7 rfl (by decide),
        ofNat_div_eq_shift64 payloadLen 48 6 rfl (by decide),
        ofNat_div_eq_shift64 payloadLen 40 5 rfl (by decide),
        ofNat_div_eq_shift64 payloadLen 32 4 rfl (by decide),
        ofNat_div_eq_shift64 payloadLen 24 3 rfl (by decide),
        ofNat_div_eq_shift64 payloadLen 16 2 rfl (by decide),
        ofNat_div_eq_shift64 payloadLen 8 1 rfl (by decide), hbyte0]
      rfl

/-- The bytes sent are a prefix of the frame, and all of it on success. -/
theorem sendWsBinaryFrame_spec (buf : List UInt8) (payloadLen : UInt64)
    (hbuf : payloadLen.toNat ≤ buf.length) (results : List SendResult) :
    (sendWsBinaryFrame buf payloadLen results).bytes
        <+: encode (binary (buf.take payloadLen.toNat)) ∧
      ((sendWsBinaryFrame buf payloadLen results).ret = some none →
        (sendWsBinaryFrame buf payloadLen results).bytes
          = encode (binary (buf.take payloadLen.toNat))) := by
  have hlen : (buf.take payloadLen.toNat).length = payloadLen.toNat := by
    rw [List.length_take]
    omega
  have hframe : encode (binary (buf.take payloadLen.toNat))
      = frameHeader payloadLen ++ buf.take payloadLen.toNat := by
    rw [frameHeader_eq, encode, binary, hlen]
    rfl
  rw [hframe]
  apply SendOutcome.andThen_spec
  · exact sendLoop_spec _ _
  · intro rest
    by_cases hpos : payloadLen > 0
    · rw [if_pos hpos]
      exact sendLoop_spec _ _
    · have hzero : payloadLen.toNat = 0 := by
        by_contra hne
        exact hpos (UInt64.lt_iff_toNat_lt.2 (Nat.pos_of_ne_zero hne))
      rw [if_neg hpos, hzero]
      exact ⟨List.nil_prefix, fun _ => rfl⟩

/-! ## One write -/

/-- A call of write with a length that is not negative, on a buffer of at least that length. -/
structure WriteCall where
  buf : List UInt8
  len : Int32
  calls : WriteCalls
  len_nonneg : 0 ≤ len
  len_le : len.toInt ≤ buf.length

/-- The bytes the caller passes. -/
def WriteCall.payload (c : WriteCall) : List UInt8 := c.buf.take c.len.toInt.toNat

/-- The call as an event of the object. -/
def WriteCall.event (c : WriteCall) : Event := .write c.buf c.len c.calls

theorem toNat_payloadLen {len : Int32} (h : 0 ≤ len) :
    len.toInt64.toUInt64.toNat = len.toInt.toNat := by
  have hle : 0 ≤ len.toInt64 := by
    rw [Int64.le_iff_toInt_le, Int32.toInt_toInt64]
    exact Int32.le_iff_toInt_le.1 h
  rw [Int64.toNat_toUInt64_of_le hle, ← Int64.toNat_toInt, Int32.toInt_toInt64]

theorem WriteCall.wf_binary (c : WriteCall) : (binary c.payload).Wf := by
  apply Rfc6455.wf_binary
  have hlt : c.len.toInt < 2 ^ 31 := c.len.toInt_lt
  rw [payload, List.length_take]
  omega

/-- The connection on `fd` is up, and writing is enabled. -/
structure Ready (w : World) (fd : ℤ) : Prop where
  alive : w.freed = false
  clientFd : w.self.clientFd = fd
  nonneg : 0 ≤ fd
  isConnected : w.self.isConnected = true
  writeEnabled : w.self.writeEnabled = true

/-- The connection is given up: the checks of write fail. -/
structure Fenced (w : World) : Prop where
  isConnected : w.self.isConnected = false
  writeEnabled : w.self.writeEnabled = true

theorem World.send_self (w : World) (fd : ℤ) (bytes : List UInt8) :
    (w.send fd bytes).wire fd = w.wire fd ++ bytes :=
  if_pos rfl

theorem World.send_of_ne (w : World) {fd fd' : ℤ} (bytes : List UInt8) (h : fd' ≠ fd) :
    (w.send fd bytes).wire fd' = w.wire fd' :=
  if_neg h

theorem World.send_nil (w : World) (fd : ℤ) : (w.send fd []).wire = w.wire := by
  funext fd'
  by_cases h : fd' = fd
  · rw [h, send_self, List.append_nil]
  · exact send_of_ne w [] h

theorem World.send_send (w : World) (fd : ℤ) (bytes bytes' : List UInt8) :
    ((w.send fd bytes).send fd bytes').wire = (w.send fd (bytes ++ bytes')).wire := by
  funext fd'
  by_cases h : fd' = fd
  · rw [h, send_self, send_self, send_self, List.append_assoc]
  · rw [send_of_ne _ _ h, send_of_ne _ _ h, send_of_ne _ _ h]

/-- A write on a connection that is up sends a prefix of its frame: all of it when it succeeds, and
    when it fails it gives the connection up. -/
theorem step_ready {w w' : World} {fd : ℤ} (hready : Ready w fd) (c : WriteCall)
    (h : step w c.event = some w') :
    ∃ bytes err outWritten,
      w'.wire = (w.send fd bytes).wire ∧
      w'.writeReturns = w.writeReturns ++ [(err, outWritten)] ∧
      bytes <+: encode (binary c.payload) ∧
      (err = none → bytes = encode (binary c.payload) ∧ Ready w' fd) ∧
      (err ≠ none → Fenced w') := by
  obtain ⟨halive, rfl, hnonneg, hconn, henabled⟩ := hready
  have hchecks : ¬(w.self.clientFd < 0 ∨ !w.self.isConnected) := by
    rw [hconn]
    simpa using hnonneg
  simp only [step, WriteCall.event, halive, Bool.false_eq_true, if_false, Option.map_eq_some_iff,
    Prod.exists] at h
  obtain ⟨w₁, err, outWritten, hwrite, rfl⟩ := h
  rw [write, henabled, if_neg (by decide), if_neg hchecks, Option.map_eq_some_iff] at hwrite
  obtain ⟨⟨w₂, err', outWritten'⟩, hframe, heq⟩ := hwrite
  unfold writeFrame at hframe
  by_cases hprobe : c.calls.probe ≥ 0
  · -- the peer has closed: nothing is sent
    rw [if_pos hprobe, Option.some.injEq, Prod.mk.injEq, Prod.mk.injEq] at hframe
    obtain ⟨rfl, rfl, rfl⟩ := hframe
    simp only [writeCleanup, Prod.mk.injEq] at heq
    obtain ⟨rfl, rfl, rfl⟩ := heq
    exact ⟨[], _, _, (World.send_nil _ _).symm, rfl, List.nil_prefix, fun h => absurd h (by simp),
      fun _ => ⟨rfl, henabled⟩⟩
  · rw [if_neg hprobe] at hframe
    have hlen : c.len.toInt64.toUInt64.toNat ≤ c.buf.length := by
      have hle := c.len_le
      rw [toNat_payloadLen c.len_nonneg]
      omega
    obtain ⟨hpre, hall⟩ := sendWsBinaryFrame_spec c.buf _ hlen c.calls.sends
    rw [toNat_payloadLen c.len_nonneg] at hpre hall
    cases hret : (sendWsBinaryFrame c.buf c.len.toInt64.toUInt64 c.calls.sends).ret with
    | none => simp [hret] at hframe
    | some ret =>
        cases ret with
        | none =>
            simp only [hret, Option.some.injEq, Prod.mk.injEq] at hframe
            obtain ⟨rfl, rfl, rfl⟩ := hframe
            simp only [writeCleanup, Prod.mk.injEq] at heq
            obtain ⟨rfl, rfl, rfl⟩ := heq
            exact ⟨_, _, _, rfl, rfl, hpre, fun _ => ⟨hall hret, halive, rfl, hnonneg, hconn,
              henabled⟩, fun hne => absurd rfl hne⟩
        | some e =>
            simp only [hret, Option.some.injEq, Prod.mk.injEq] at hframe
            obtain ⟨rfl, rfl, rfl⟩ := hframe
            simp only [writeCleanup, Prod.mk.injEq] at heq
            obtain ⟨rfl, rfl, rfl⟩ := heq
            exact ⟨_, _, _, rfl, rfl, hpre, fun h => absurd h (by simp), fun _ =>
              ⟨rfl, henabled⟩⟩

/-- A write on a connection that is given up fails and sends nothing. -/
theorem step_fenced {w w' : World} (hfenced : Fenced w) (c : WriteCall)
    (h : step w c.event = some w') :
    Fenced w' ∧ w'.wire = w.wire ∧
      ∃ err outWritten, w'.writeReturns = w.writeReturns ++ [(some err, outWritten)] := by
  have hchecks : w.self.clientFd < 0 ∨ !w.self.isConnected := by
    rw [hfenced.isConnected]
    exact Or.inr rfl
  unfold step at h
  split at h
  · exact absurd h (by simp)
  · simp only [WriteCall.event, write, hfenced.writeEnabled, Bool.not_true, Bool.false_eq_true,
      if_false, if_pos hchecks, Option.map_some, Option.some.injEq] at h
    subst h
    exact ⟨⟨hfenced.isConnected, hfenced.writeEnabled⟩, rfl, _, _, rfl⟩

/-! ## All writes of a connection -/

/-- What a sequence of writes returned and sent: frames for the writes that succeeded, and after the
    first failure a prefix of that write's frame and nothing more. -/
inductive StreamOf : List (List UInt8) → List (Option Dterr × Int32) → List UInt8 → Prop where
  | nil : StreamOf [] [] []
  | sent (payload : List UInt8) (outWritten : Int32) {payloads : List (List UInt8)}
      {returns : List (Option Dterr × Int32)} {bytes : List UInt8}
      (hrest : StreamOf payloads returns bytes) :
      StreamOf (payload :: payloads) ((none, outWritten) :: returns)
        (encode (binary payload) ++ bytes)
  | failed (payload : List UInt8) (err : Dterr) (outWritten : Int32) {payloads : List (List UInt8)}
      {returns : List (Option Dterr × Int32)} {bytes : List UInt8}
      (hpre : bytes <+: encode (binary payload)) (hlen : returns.length = payloads.length)
      (hfail : ∀ r ∈ returns, r.1 ≠ none) :
      StreamOf (payload :: payloads) ((some err, outWritten) :: returns) bytes

/-- The writes after a failure fail and send nothing. -/
theorem exec_fenced (writes : List WriteCall) :
    ∀ {w w' : World}, Fenced w → Run.exec step w (writes.map WriteCall.event) = some w' →
      w'.wire = w.wire ∧ ∃ returns, w'.writeReturns = w.writeReturns ++ returns ∧
        returns.length = writes.length ∧ ∀ r ∈ returns, r.1 ≠ none := by
  induction writes with
  | nil =>
      intro w w' _ h
      obtain rfl := Option.some.inj h
      exact ⟨rfl, [], (List.append_nil _).symm, rfl, fun r hr => absurd hr List.not_mem_nil⟩
  | cons c writes ih =>
      intro w w' hfenced h
      obtain ⟨w₁, hstep, hrest⟩ := (Run.exec_cons_eq_some step w w' c.event _).1 h
      obtain ⟨hfenced₁, hwire, err, outWritten, hreturn⟩ := step_fenced hfenced c hstep
      obtain ⟨hwire', returns, hreturns, hlen, hfail⟩ := ih hfenced₁ hrest
      refine ⟨hwire'.trans hwire, (some err, outWritten) :: returns, ?_, by simp [hlen], ?_⟩
      · rw [hreturns, hreturn, List.append_assoc, List.singleton_append]
      · intro r hr
        rcases List.mem_cons.1 hr with rfl | hr
        · exact Option.some_ne_none err
        · exact hfail r hr

/-- **Run lemma.** -/
theorem exec_ready (writes : List WriteCall) :
    ∀ {w w' : World} {fd : ℤ}, Ready w fd →
      Run.exec step w (writes.map WriteCall.event) = some w' →
      ∃ bytes returns, w'.wire = (w.send fd bytes).wire ∧
        w'.writeReturns = w.writeReturns ++ returns ∧
        StreamOf (writes.map WriteCall.payload) returns bytes := by
  induction writes with
  | nil =>
      intro w w' fd _ h
      obtain rfl := Option.some.inj h
      exact ⟨[], [], (World.send_nil _ _).symm, (List.append_nil _).symm, .nil⟩
  | cons c writes ih =>
      intro w w' fd hready h
      obtain ⟨w₁, hstep, hrest⟩ := (Run.exec_cons_eq_some step w w' c.event _).1 h
      obtain ⟨bytes, err, outWritten, hwire, hreturn, hpre, hok, herr⟩ :=
        step_ready hready c hstep
      cases err with
      | none =>
          obtain ⟨rfl, hready₁⟩ := hok rfl
          obtain ⟨bytes', returns, hwire', hreturns, hstream⟩ := ih hready₁ hrest
          refine ⟨_, _, ?_, ?_, .sent c.payload outWritten hstream⟩
          · rw [hwire', ← World.send_send]
            funext fd'
            simp only [World.send, hwire]
          · rw [hreturns, hreturn, List.append_assoc, List.singleton_append]
      | some e =>
          obtain ⟨hwire', returns, hreturns, hlen, hfail⟩ :=
            exec_fenced writes (herr (Option.some_ne_none e)) hrest
          refine ⟨bytes, _, hwire'.trans hwire, ?_,
            .failed c.payload e outWritten hpre (by rw [hlen, List.length_map]) hfail⟩
          rw [hreturns, hreturn, List.append_assoc, List.singleton_append]

theorem StreamOf.length_eq {payloads : List (List UInt8)} {returns : List (Option Dterr × Int32)}
    {bytes : List UInt8} (h : StreamOf payloads returns bytes) :
    returns.length = payloads.length := by
  induction h with
  | nil => rfl
  | sent payload outWritten _ ih => rw [List.length_cons, List.length_cons, ih]
  | failed payload err outWritten _ hlen => rw [List.length_cons, List.length_cons, hlen]

/-- When every write succeeds, the bytes are the frames. -/
theorem StreamOf.all_sent {payloads : List (List UInt8)} {returns : List (Option Dterr × Int32)}
    {bytes : List UInt8} (h : StreamOf payloads returns bytes) (hok : ∀ r ∈ returns, r.1 = none) :
    bytes = serverFrames.encodeAll (payloads.map binary) := by
  induction h with
  | nil => rfl
  | sent payload outWritten _ ih =>
      rw [ih fun r hr => hok r (List.mem_cons_of_mem _ hr)]
      rfl
  | failed payload err outWritten =>
      exact absurd (hok _ List.mem_cons_self) (Option.some_ne_none err)

/-- When a write is the first to fail, the bytes are the frames of those before it and a prefix of
    its own. -/
theorem StreamOf.first_failed {payloads : List (List UInt8)}
    {returns : List (Option Dterr × Int32)} {bytes : List UInt8}
    (h : StreamOf payloads returns bytes) {k : ℕ} {payload : List UInt8} {err : Dterr}
    {outWritten : Int32} (hpayload : payloads[k]? = some payload)
    (hok : ∀ r ∈ returns.take k, r.1 = none) (herr : returns[k]? = some (some err, outWritten)) :
    (∃ part, part <+: encode (binary payload) ∧
      bytes = serverFrames.encodeAll ((payloads.take k).map binary) ++ part) ∧
    ∀ r ∈ returns.drop k, r.1 ≠ none := by
  induction h generalizing k with
  | nil => simp at hpayload
  | sent payload' outWritten' _ ih =>
      cases k with
      | zero => simp at herr
      | succ k =>
          obtain ⟨⟨part, hpart, hbytes⟩, hfail⟩ := ih hpayload
            (fun r hr => hok r (List.mem_cons_of_mem _ hr)) herr
          refine ⟨⟨part, hpart, ?_⟩, hfail⟩
          rw [hbytes, ← List.append_assoc]
          rfl
  | failed payload' err' outWritten' hpre hlen hfail =>
      cases k with
      | zero =>
          obtain rfl := Option.some.inj hpayload
          refine ⟨⟨_, hpre, rfl⟩, fun r hr => ?_⟩
          rcases List.mem_cons.1 hr with rfl | hr
          · exact Option.some_ne_none err'
          · exact hfail r hr
      | succ k => exact absurd (hok _ List.mem_cons_self) (Option.some_ne_none err')

/-- **A stream of frames.** The writes of one connection, with any lengths and any results of the
    calls: they send bytes on that connection only. If all succeed, the bytes are read back as one
    binary frame for each payload. If one fails, the bytes are the frames of the writes before it,
    read back as such, and a prefix of its own frame; the writes after it fail. -/
theorem write_stream (w w' : World) (fd : ℤ) (hready : Ready w fd) (writes : List WriteCall)
    (hrun : Run.exec step w (writes.map WriteCall.event) = some w') :
    ∃ bytes returns,
      w'.wire fd = w.wire fd ++ bytes ∧ (∀ fd', fd' ≠ fd → w'.wire fd' = w.wire fd') ∧
      w'.writeReturns = w.writeReturns ++ returns ∧ returns.length = writes.length ∧
      ((∀ r ∈ returns, r.1 = none) →
        serverFrames.decodeAll bytes = some (writes.map fun c => binary c.payload)) ∧
      (∀ k failing err outWritten, writes[k]? = some failing → (∀ r ∈ returns.take k, r.1 = none) →
        returns[k]? = some (some err, outWritten) →
        (∃ complete part, bytes = complete ++ part ∧
          serverFrames.decodeAll complete
            = some ((writes.take k).map fun c => binary c.payload) ∧
          part <+: encode (binary failing.payload)) ∧
        ∀ r ∈ returns.drop k, r.1 ≠ none) := by
  obtain ⟨bytes, returns, hwire, hreturns, hstream⟩ := exec_ready writes hready hrun
  have hdecode : ∀ cs : List WriteCall,
      serverFrames.decodeAll (serverFrames.encodeAll ((cs.map WriteCall.payload).map binary))
        = some (cs.map fun c => binary c.payload) := by
    intro cs
    rw [List.map_map]
    apply serverFrames.decodeAll_encodeAll
    intro f hf
    obtain ⟨c, -, rfl⟩ := List.mem_map.1 hf
    exact c.wf_binary
  refine ⟨bytes, returns, ?_, fun fd' hne => ?_, hreturns, ?_, fun hok => ?_, ?_⟩
  · rw [hwire, World.send_self]
  · rw [hwire, World.send_of_ne w bytes hne]
  · rw [hstream.length_eq, List.length_map]
  · rw [hstream.all_sent hok]
    exact hdecode writes
  · intro k failing err outWritten hfailing hok herr
    have hpayload : (writes.map WriteCall.payload)[k]? = some failing.payload := by
      rw [List.getElem?_map, hfailing, Option.map_some]
    obtain ⟨⟨part, hpart, hbytes⟩, hfail⟩ := hstream.first_failed hpayload hok herr
    refine ⟨⟨_, part, hbytes, ?_, hpart⟩, hfail⟩
    rw [← List.map_take]
    exact hdecode (writes.take k)

/-- The second of three writes breaks off inside its header, after an interrupted one that was sent
    in three pieces. -/
def brokenWrites : List WriteCall :=
  [⟨[7, 8, 9], 3, ⟨-1, [.accepts 1, .eintr, .accepts 9, .accepts 2, .accepts 9]⟩, by decide,
      by decide⟩,
    ⟨[1, 2], 2, ⟨-1, [.accepts 1, .error "Broken pipe"]⟩, by decide, by decide⟩,
    ⟨[5], 1, ⟨-1, []⟩, by decide, by decide⟩]

/-- A connection on descriptor 4. -/
def connected : World where
  self := { init with listenFd := 3, clientFd := 4, isConnected := true }
  freed := false
  fds := ⟨[.fresh, .fresh, .fresh, .listening, .connected], []⟩
  wire := fun _ => []
  writeReturns := []

theorem write_stream_brokenWrites :
    ∃ w', Run.exec step connected (brokenWrites.map WriteCall.event) = some w' ∧
      w'.wire 4 = [0x82, 3, 7, 8, 9, 0x82] ∧
      ∃ complete part, w'.wire 4 = complete ++ part ∧
        serverFrames.decodeAll complete = some [binary [7, 8, 9]] ∧
        part <+: encode (binary [1, 2]) := by
  have hends : (Run.exec step connected (brokenWrites.map WriteCall.event)).map
      (fun w => (w.wire 4, w.writeReturns)) = some ([0x82, 3, 7, 8, 9, 0x82],
        [(none, 3), (some (.rechain (.new .io "send failed: Broken pipe") "websocket write failed"),
          0), (some (.new .io "websocket not attached"), 0)]) := by
    decide +kernel
  obtain ⟨w', hrun, heq⟩ := Option.map_eq_some_iff.1 hends
  obtain ⟨hwire, hreturns⟩ := Prod.mk.inj heq
  obtain ⟨bytes, returns, hbytes, -, hall, -, -, hfirst⟩ := write_stream connected w' 4
    ⟨rfl, rfl, by decide, rfl, rfl⟩ brokenWrites hrun
  obtain rfl : w'.writeReturns = returns := hall
  have hbytes' : w'.wire 4 = bytes := hbytes
  rw [hreturns] at hfirst
  obtain ⟨⟨complete, part, hsplit, hcomplete, hpart⟩, -⟩ :=
    hfirst 1 _ _ _ rfl (by decide) rfl
  exact ⟨w', hrun, hwire, complete, part, hbytes'.trans hsplit, hcomplete, hpart⟩

end DtioxLinuxWebsocket
