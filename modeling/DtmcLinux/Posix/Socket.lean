import DtmcLinux.Dtcore.Dterr
import DtmcLinux.Foundation.Segments
import Mathlib.Algebra.Ring.Nat

set_option autoImplicit false

/-! # Stream sockets

A `send` accepts some of the bytes offered, is interrupted, or fails; which one is the
environment's choice. `sendLoop` is the loop that offers the rest again until the kernel has
accepted everything. A `recv` takes bytes that have arrived, and `recvLoop` is the loop that
receives until what it has is enough. -/

namespace Posix

/-! ## Sending -/

/-- What one `send` does. -/
inductive SendResult where
  /-- it accepts the first `n` of the bytes offered, or all of them when there are fewer -/
  | accepts (n : ℕ)
  /-- it fails with `EINTR` -/
  | eintr
  /-- it fails with another error, given by its text -/
  | error (strerror : String)
  deriving DecidableEq

/-- A sequence of `send` calls: the bytes accepted, the results left for later calls, and the value
    returned; `none` when the results ran out inside a call. -/
structure SendOutcome where
  bytes : List UInt8
  rest : List SendResult
  ret : Option (Option Dterr)

/-- Send, and if that returns `NULL` go on with `next`. -/
def SendOutcome.andThen (o : SendOutcome) (next : List SendResult → SendOutcome) : SendOutcome :=
  match o.ret with
  | some none =>
    let o' := next o.rest
    { o' with bytes := o.bytes ++ o'.bytes }
  | _ => o

/-- The loop `while (len > 0) { n = send(fd, buf, len, ..); .. }`, with the errors for a `send` that
    returns 0 and for one that fails. -/
def sendLoop (returned0 : Dterr) (failed : String → Dterr) :
    List UInt8 → List SendResult → SendOutcome
  | [], results => ⟨[], results, some none⟩
  | _ :: _, [] => ⟨[], [], none⟩
  | b :: buf, .accepts n :: results =>
    if n = 0 then ⟨[], results, some (some returned0)⟩
    else
      let o := sendLoop returned0 failed ((b :: buf).drop n) results
      { o with bytes := (b :: buf).take n ++ o.bytes }
  | b :: buf, .eintr :: results => sendLoop returned0 failed (b :: buf) results
  | _ :: _, .error strerror :: results => ⟨[], results, some (some (failed strerror))⟩

variable {returned0 : Dterr} {failed : String → Dterr}

/-- **Spec of the loop.** The kernel has accepted a prefix of the buffer, and the whole buffer if
    the loop returned `NULL`. -/
theorem sendLoop_spec (buf : List UInt8) (results : List SendResult) :
    (sendLoop returned0 failed buf results).bytes <+: buf ∧
      ((sendLoop returned0 failed buf results).ret = some none →
        (sendLoop returned0 failed buf results).bytes = buf) := by
  induction buf, results using sendLoop.induct returned0 failed with
  | case1 results =>
      rw [sendLoop]
      exact ⟨List.prefix_rfl, fun _ => rfl⟩
  | case2 b buf =>
      rw [sendLoop]
      exact ⟨List.nil_prefix, fun h => absurd h (by simp)⟩
  | case3 b buf results =>
      rw [sendLoop, if_pos rfl]
      exact ⟨List.nil_prefix, fun h => absurd h (by simp)⟩
  | case4 b buf n results hn ih =>
      rw [sendLoop, if_neg hn]
      obtain ⟨hpre, hall⟩ := ih
      constructor
      · show (b :: buf).take n ++ _ <+: b :: buf
        conv => rhs; rw [← List.take_append_drop n (b :: buf)]
        exact (List.prefix_append_right_inj _).2 hpre
      · intro hret
        show (b :: buf).take n ++ _ = b :: buf
        rw [hall hret, List.take_append_drop]
  | case5 b buf results ih =>
      rw [sendLoop]
      exact ih
  | case6 b buf strerror results =>
      rw [sendLoop]
      exact ⟨List.nil_prefix, fun h => absurd h (by simp)⟩

/-- What the caller of a loop that sends everything counts on: after `NULL` the kernel has accepted the
    whole buffer, after an error a proper prefix of it. -/
structure SendOutcome.Transfers (o : SendOutcome) (buf : List UInt8) : Prop where
  whole : o.ret = some none → o.bytes = buf
  part : ∀ dterr, o.ret = some (some dterr) → o.bytes <+: buf ∧ o.bytes ≠ buf

/-- **The loop transfers its buffer.** An error ends it while there are bytes left. -/
theorem sendLoop_transfers (buf : List UInt8) (results : List SendResult) :
    (sendLoop returned0 failed buf results).Transfers buf := by
  refine ⟨(sendLoop_spec buf results).2, fun dterr hret => ⟨(sendLoop_spec buf results).1, ?_⟩⟩
  induction buf, results using sendLoop.induct returned0 failed with
  | case1 results =>
      rw [sendLoop] at hret
      cases hret
  | case2 b buf =>
      rw [sendLoop] at hret
      cases hret
  | case3 b buf results =>
      rw [sendLoop, if_pos rfl]
      exact (List.cons_ne_nil b buf).symm
  | case4 b buf n results hn ih =>
      rw [sendLoop, if_neg hn] at hret ⊢
      intro heq
      refine ih hret ?_
      rw [← List.append_right_inj ((b :: buf).take n), List.take_append_drop]
      exact heq
  | case5 b buf results ih =>
      rw [sendLoop] at hret ⊢
      exact ih hret
  | case6 b buf strerror results =>
      rw [sendLoop]
      exact (List.cons_ne_nil b buf).symm

/-- A `send` that is not interrupted. -/
def SendResult.settles : SendResult → Bool
  | .eintr => false
  | _ => true

/-- The loop returns: every `send` that is not interrupted ends it or shortens the buffer. -/
theorem sendLoop_returns (buf : List UInt8) (results : List SendResult)
    (h : buf.length ≤ (results.filter SendResult.settles).length) :
    (sendLoop returned0 failed buf results).ret.isSome := by
  induction buf, results using sendLoop.induct returned0 failed with
  | case1 results =>
      rw [sendLoop]
      rfl
  | case2 b buf => simp at h
  | case3 b buf results =>
      rw [sendLoop, if_pos rfl]
      rfl
  | case4 b buf n results hn ih =>
      rw [sendLoop, if_neg hn]
      apply ih
      rw [List.filter_cons_of_pos rfl, List.length_cons, List.length_cons] at h
      rw [List.length_drop, List.length_cons]
      omega
  | case5 b buf results ih =>
      rw [sendLoop]
      exact ih h
  | case6 b buf strerror results =>
      rw [sendLoop]
      rfl

/-- A `send` that accepts something, or is interrupted. -/
def SendResult.succeeds : SendResult → Bool
  | .accepts n => n ≠ 0
  | .eintr => true
  | .error _ => false

/-- The sends succeed, and go on until `n` bytes have been sent. -/
structure SendsSucceed (results : List SendResult) (n : ℕ) : Prop where
  succeed : ∀ r ∈ results, r.succeeds = true
  enough : n ≤ (results.filter SendResult.settles).length

theorem SendsSucceed.mono {results : List SendResult} {m n : ℕ} (h : SendsSucceed results n)
    (hle : m ≤ n) : SendsSucceed results m := ⟨h.succeed, Nat.le_trans hle h.enough⟩

/-- A `send` for each byte. -/
theorem sendsSucceed_replicate (n : ℕ) : SendsSucceed (.replicate n (.accepts 1)) n := by
  constructor
  · intro r hr
    rw [List.eq_of_mem_replicate hr]
    rfl
  · rw [List.filter_replicate_of_pos rfl, List.length_replicate]

/-- **Sends that succeed send the whole buffer**, and leave enough for the next ones. -/
theorem sendLoop_succeeds {n : ℕ} (buf : List UInt8) (results : List SendResult)
    (h : SendsSucceed results (buf.length + n)) :
    ∃ rest, sendLoop returned0 failed buf results = ⟨buf, rest, some none⟩ ∧ SendsSucceed rest n := by
  induction buf, results using sendLoop.induct returned0 failed with
  | case1 results => exact ⟨results, by rw [sendLoop], h.mono (by simp)⟩
  | case2 b buf => exact absurd h.enough (by simp)
  | case3 b buf results => exact absurd (h.succeed _ List.mem_cons_self) (by simp [SendResult.succeeds])
  | case4 b buf k results hk ih =>
      have henough := h.enough
      rw [List.filter_cons_of_pos rfl, List.length_cons, List.length_cons] at henough
      obtain ⟨rest, hloop, hrest⟩ := ih ⟨fun r hr => h.succeed r (List.mem_cons_of_mem _ hr), by
        rw [List.length_drop, List.length_cons]
        omega⟩
      refine ⟨rest, ?_, hrest⟩
      rw [sendLoop, if_neg hk, hloop]
      simp only [List.take_append_drop]
  | case5 b buf results ih =>
      obtain ⟨rest, hloop, hrest⟩ :=
        ih ⟨fun r hr => h.succeed r (List.mem_cons_of_mem _ hr), h.enough⟩
      exact ⟨rest, by rw [sendLoop, hloop], hrest⟩
  | case6 b buf strerror results =>
      exact absurd (h.succeed _ List.mem_cons_self) (by simp [SendResult.succeeds])

/-- Two sends one after the other send a prefix of both buffers, and both if they return `NULL`. -/
theorem SendOutcome.andThen_spec {o : SendOutcome} {next : List SendResult → SendOutcome}
    {first second : List UInt8} (ho : o.bytes <+: first ∧ (o.ret = some none → o.bytes = first))
    (hnext : ∀ rest, (next rest).bytes <+: second ∧
      ((next rest).ret = some none → (next rest).bytes = second)) :
    (o.andThen next).bytes <+: first ++ second ∧
      ((o.andThen next).ret = some none → (o.andThen next).bytes = first ++ second) := by
  unfold andThen
  split
  · next hret =>
      obtain ⟨hpre, hall⟩ := hnext o.rest
      have hfirst := ho.2 hret
      constructor
      · show o.bytes ++ _ <+: _
        rw [hfirst]
        exact (List.prefix_append_right_inj _).2 hpre
      · intro hdone
        show o.bytes ++ _ = _
        rw [hfirst, hall hdone]
  · next hne =>
      exact ⟨ho.1.trans (List.prefix_append _ _), fun hdone => absurd hdone hne⟩

/-! ## Receiving -/

/-- What happens on a socket while a thread receives. When nothing more happens, the peer has closed
    the connection. -/
inductive RecvEvent where
  /-- bytes arrive -/
  | segment (bytes : List UInt8)
  /-- a `recv` fails with `EINTR` -/
  | eintr
  /-- a `recv` fails with `EAGAIN`: the time is up -/
  | eagain (strerror : String)
  /-- a `recv` fails with another error -/
  | error (strerror : String)

/-- Each `recv` makes this smaller. -/
def RecvEvent.weight : RecvEvent → ℕ
  | .segment bytes => bytes.length + 1
  | _ => 1

/-- The errors of a loop of `recv` calls: the peer has closed, the time is up, the call failed. -/
structure RecvErrors where
  closed : Dterr
  timeout : String → Dterr
  failed : String → Dterr

/-- The events after a `recv` that has taken `n` bytes of those that arrived. -/
def afterRecv (seg : List UInt8) (n : ℕ) (events : List RecvEvent) : List RecvEvent :=
  if n < seg.length then .segment (seg.drop n) :: events else events

/-- The loop of `recv(fd, bytes + length, size - length, 0)` calls. After each call that has received
    something, `check` looks at the buffer and may end the loop; a call that returns 0, as there is
    nothing or no room, ends it too. -/
def recvLoop {β : Type} (size : ℕ) (check : List UInt8 → Option (Except Dterr β))
    (errors : RecvErrors) (bytes : List UInt8) :
    List RecvEvent → Except Dterr (β × List UInt8 × List RecvEvent)
  | [] => .error errors.closed
  | .eintr :: events => recvLoop size check errors bytes events
  | .eagain strerror :: _ => .error (errors.timeout strerror)
  | .error strerror :: _ => .error (errors.failed strerror)
  | .segment seg :: events =>
    if received size bytes seg = [] then .error errors.closed
    else
      match check (bytes ++ received size bytes seg) with
      | some (.ok b) =>
        .ok (b, bytes ++ received size bytes seg,
          afterRecv seg (received size bytes seg).length events)
      | some (.error err) => .error err
      | none =>
        recvLoop size check errors (bytes ++ received size bytes seg)
          (afterRecv seg (received size bytes seg).length events)
termination_by events => (events.map RecvEvent.weight).sum
decreasing_by
  · simp [RecvEvent.weight]
  · rename_i hgot
    have hpos := List.length_pos_iff.2 hgot
    have hlen := length_received size bytes seg
    unfold afterRecv
    split
    · simp [RecvEvent.weight]
      omega
    · simp [RecvEvent.weight]

/-- While only bytes arrive, the loop reads the segments of the stream. -/
theorem recvLoop_segments {β : Type} (size : ℕ) (check : List UInt8 → Option (Except Dterr β))
    (errors : RecvErrors) (bytes : List UInt8) (segs : List (List UInt8)) :
    recvLoop size check errors bytes (segs.map .segment) =
      match readSegments size check bytes segs with
      | none => .error errors.closed
      | some (.error err, _) => .error err
      | some (.ok b, bytes, rest) => .ok (b, bytes, rest.map .segment) := by
  have hafter : ∀ (seg : List UInt8) (n : ℕ) (segs : List (List UInt8)),
      afterRecv seg n (segs.map .segment) = (unread seg n segs).map .segment := by
    intro seg n segs
    unfold afterRecv unread
    split <;> rfl
  induction bytes, segs using readSegments.induct size check with
  | case1 bytes => rw [List.map_nil, recvLoop, readSegments]
  | case2 bytes seg segs hgot => rw [List.map_cons, recvLoop, readSegments, if_pos hgot, if_pos hgot]
  | case3 bytes seg segs hgot result hcheck =>
      rw [List.map_cons, recvLoop, readSegments, if_neg hgot, if_neg hgot, hcheck, hafter]
      cases result with
      | ok b => rfl
      | error err => rfl
  | case4 bytes seg segs hgot hcheck ih =>
      rw [List.map_cons, recvLoop, readSegments, if_neg hgot, if_neg hgot, hcheck, hafter]
      exact ih

/-! ## What arrives -/

/-- The segments that arrive before the peer closes, the time is up, or a call fails. -/
def arrivals : List RecvEvent → List (List UInt8)
  | [] => []
  | .eintr :: events => arrivals events
  | .eagain _ :: _ => []
  | .error _ :: _ => []
  | .segment seg :: events => if seg = [] then [] else seg :: arrivals events

/-- The bytes that arrive. -/
def arrived (events : List RecvEvent) : List UInt8 := (arrivals events).flatten

theorem ne_nil_of_mem_arrivals {events : List RecvEvent} {seg : List UInt8}
    (h : seg ∈ arrivals events) : seg ≠ [] := by
  induction events with
  | nil => exact absurd h List.not_mem_nil
  | cons e events ih =>
      cases e with
      | segment s =>
          rw [arrivals] at h
          split at h
          · exact absurd h List.not_mem_nil
          · rename_i hne
            rcases List.mem_cons.1 h with rfl | h
            · exact hne
            · exact ih h
      | eintr => exact ih h
      | eagain strerror => exact absurd h List.not_mem_nil
      | error strerror => exact absurd h List.not_mem_nil

theorem cut_arrivals (events : List RecvEvent) : Cut (arrivals events) (arrived events) :=
  ⟨fun _ => ne_nil_of_mem_arrivals, rfl⟩

theorem arrivals_segments {segs : List (List UInt8)} (h : ∀ seg ∈ segs, seg ≠ []) :
    arrivals (segs.map .segment) = segs := by
  induction segs with
  | nil => rfl
  | cons seg segs ih =>
      rw [List.map_cons, arrivals, if_neg (h seg List.mem_cons_self),
        ih fun s hs => h s (List.mem_cons_of_mem _ hs)]

theorem arrived_segments {segs : List (List UInt8)} {stream : List UInt8} (h : Cut segs stream) :
    arrived (segs.map .segment) = stream := by
  rw [arrived, arrivals_segments h.ne_nil, h.flatten]

theorem arrivals_afterRecv {seg : List UInt8} (events : List RecvEvent) (n : ℕ) :
    arrivals (afterRecv seg n events) = unread seg n (arrivals events) := by
  unfold afterRecv unread
  split
  · rename_i hlt
    rw [arrivals, if_neg]
    rw [List.drop_eq_nil_iff]
    omega
  · rfl

/-- Two receptions alike: the same was received, and the same arrives afterwards, or both fail. -/
def Alike {β : Type} :
    Except Dterr (β × List UInt8 × List RecvEvent) →
      Except Dterr (β × List UInt8 × List RecvEvent) → Prop
  | .ok (b, bytes, events), .ok (b', bytes', events') =>
    b = b' ∧ bytes = bytes' ∧ arrivals events = arrivals events'
  | .error _, .error _ => True
  | _, _ => False

/-- **Only what arrives matters**: not the interruptions, nor why nothing more arrives. -/
theorem recvLoop_arrivals {β : Type} (size : ℕ) (check : List UInt8 → Option (Except Dterr β))
    (errors : RecvErrors) (bytes : List UInt8) (events : List RecvEvent) :
    Alike (recvLoop size check errors bytes events)
      (recvLoop size check errors bytes ((arrivals events).map .segment)) := by
  induction bytes, events using recvLoop.induct size check with
  | case1 bytes =>
      rw [arrivals, List.map_nil, recvLoop]
      trivial
  | case2 bytes events ih =>
      rw [arrivals, recvLoop]
      exact ih
  | case3 bytes strerror events =>
      rw [arrivals, List.map_nil, recvLoop, recvLoop]
      trivial
  | case4 bytes strerror events =>
      rw [arrivals, List.map_nil, recvLoop, recvLoop]
      trivial
  | case5 bytes seg events hgot =>
      rw [recvLoop, if_pos hgot, arrivals]
      split
      · rw [List.map_nil, recvLoop]
        trivial
      · rw [List.map_cons, recvLoop, if_pos hgot]
        trivial
  | case6 bytes seg events hgot b hcheck =>
      have hne : seg ≠ [] := by
        rintro rfl
        exact hgot (by simp [received])
      rw [recvLoop, if_neg hgot, hcheck, arrivals, if_neg hne, List.map_cons, recvLoop, if_neg hgot,
        hcheck]
      refine ⟨rfl, rfl, ?_⟩
      rw [arrivals_afterRecv, arrivals_afterRecv, arrivals_segments fun _ => ne_nil_of_mem_arrivals]
  | case7 bytes seg events hgot err hcheck =>
      have hne : seg ≠ [] := by
        rintro rfl
        exact hgot (by simp [received])
      rw [recvLoop, if_neg hgot, hcheck, arrivals, if_neg hne, List.map_cons, recvLoop, if_neg hgot,
        hcheck]
      trivial
  | case8 bytes seg events hgot hcheck ih =>
      have hne : seg ≠ [] := by
        rintro rfl
        exact hgot (by simp [received])
      have hafter : afterRecv seg (received size bytes seg).length ((arrivals events).map .segment) =
          (arrivals (afterRecv seg (received size bytes seg).length events)).map .segment := by
        rw [arrivals_afterRecv]
        unfold afterRecv unread
        split <;> rfl
      rw [recvLoop, if_neg hgot, hcheck, arrivals, if_neg hne, List.map_cons, recvLoop, if_neg hgot,
        hcheck]
      dsimp only
      rw [hafter]
      exact ih

end Posix
