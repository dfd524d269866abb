import DtmcLinux.Dtcore.Dterr
import DtmcLinux.Posix.CString

set_option autoImplicit false

/-! # Publishing over CoAP

`dtnetportal_coap_publish` encodes topic and data into one buffer (`dtnetportal_coap__pubwork.c`),
puts the buffer into a queue of ten, and writes one byte to a pipe; the ioloop
(`dtnetportal_coap__ioloop.c`) sleeps in `select` until the pipe or libcoap is readable, drains the
pipe, and publishes all that is queued. Each put, write, `select`, read, get and return of
`dtnetportal_coap__ioloop_publish_one` is a step. The queue is the bounded FIFO that
`Dtbufferqueue` refines; what libcoap and the system calls return is in the events. -/

namespace DtnetportalCoap

open Posix

/-! ## Encoding and decoding -/

/-- What a caller publishes: the text of a C string, and the payload of a buffer. -/
structure Message where
  topic : List UInt8
  data : List UInt8
  noNul : 0 ∉ topic
  deriving DecidableEq

/-- `dtnetportal_coap__pubwork_enbuf` -/
def pubworkEnbuf (m : Message) : List UInt8 := m.topic ++ 0 :: m.data

/-- The topic and the data that `dtnetportal_coap__pubwork_debuf` finds. -/
def pubworkSplit (buffer : List UInt8) : List UInt8 × List UInt8 :=
  (cString buffer, buffer.drop ((cString buffer).length + 1))

/-- `dtnetportal_coap__pubwork_debuf` -/
def pubworkDebuf (buffer : List UInt8) : Except Dterr (List UInt8 × List UInt8) :=
  if buffer.length < 2 then .error (.rechain (.new .badarg "bad argument") "unable to decode buffer")
  else .ok (pubworkSplit buffer)

theorem cString_enbuf (m : Message) : cString (pubworkEnbuf m) = m.topic := by
  have htopic : ∀ b ∈ m.topic, decide (b ≠ 0) = true := by
    intro b hb
    exact decide_eq_true fun h0 => m.noNul (h0 ▸ hb)
  rw [cString, pubworkEnbuf, List.takeWhile_append_of_pos htopic]
  simp

/-- What is decoded is what was encoded. -/
theorem pubworkSplit_enbuf (m : Message) : pubworkSplit (pubworkEnbuf m) = (m.topic, m.data) := by
  rw [pubworkSplit, cString_enbuf, pubworkEnbuf, ← List.drop_drop, List.drop_left]
  rfl

/-- Decoding refuses what encoding made of an empty topic without data, and nothing else. -/
theorem pubworkDebuf_enbuf (m : Message) (h : m.topic ≠ [] ∨ m.data ≠ []) :
    pubworkDebuf (pubworkEnbuf m) = .ok (m.topic, m.data) := by
  have hlength : ¬(pubworkEnbuf m).length < 2 := by
    rw [pubworkEnbuf, List.length_append, List.length_cons]
    rcases h with h | h <;> have hpos := List.length_pos_iff.2 h <;> omega
  rw [pubworkDebuf, if_neg hlength, pubworkSplit_enbuf]

/-! ## The system -/

/-- A buffer in the queue, and the number of the publish call it belongs to. -/
structure Pubwork where
  call : ℕ
  buffer : List UInt8
  deriving DecidableEq

/-- A call of `dtnetportal_coap__ioloop_publish_one`: whose buffer, and what it is given. -/
structure Published where
  call : ℕ
  topic : List UInt8
  data : List UInt8
  deriving DecidableEq

/-- What `dtnetportal_coap__ioloop_publish_one` is given for a buffer that can be decoded. -/
def Pubwork.published (work : Pubwork) : Published :=
  ⟨work.call, (pubworkSplit work.buffer).1, (pubworkSplit work.buffer).2⟩

/-- Where the ioloop is. -/
inductive Ioloop where
  /-- blocked in `select`, or about to call it -/
  | selecting
  /-- in `drain_pipe`; `coapReady` tells whether `coap_fd` is set -/
  | draining (coapReady : Bool)
  /-- about to call `coap_io_process` -/
  | processing
  /-- about to get from the queue -/
  | getting
  /-- in `dtnetportal_coap__ioloop_publish_one` -/
  | publishing (topic : List UInt8)
  | ended (dterr : Dterr)
  deriving DecidableEq

/-- The queue, the bytes in the pipe, the calls that have put their buffer and not yet written to
    the pipe, the ioloop; the messages put so far, in order (a message's place is the number of its
    call), and the calls of `dtnetportal_coap__ioloop_publish_one` so far. -/
structure State where
  queue : List Pubwork
  pipe : ℕ
  writing : List ℕ
  ioloop : Ioloop
  calls : List Message
  published : List Published
  deriving DecidableEq

/-- After `dtnetportal_coap_activate`. -/
def State.initial : State where
  queue := []
  pipe := 0
  writing := []
  ioloop := .selecting
  calls := []
  published := []

/-- The `max_count` of the queue. -/
def queueSize : ℕ := 10

/-- `sizeof buf` in `drain_pipe`. -/
def drainSize : ℕ := 256

/-- `EAGAIN` -/
def EAGAIN : ℤ := 11

/-- The events. -/
inductive Event where
  /-- a publish call puts its buffer -/
  | put (m : Message)
  /-- a publish call writes to the pipe, which may be full -/
  | write (call : ℕ) (full : Bool)
  /-- `select` returns -/
  | select (coapReady : Bool)
  | selectFailed (errno : ℤ) (strerror : String)
  /-- a `read` of the pipe is interrupted -/
  | readInterrupted
  | read
  /-- `coap_io_process` returns -/
  | process (result : ℤ)
  | get
  /-- `dtnetportal_coap__ioloop_publish_one` returns -/
  | publishOne (dterr : Option Dterr)
  deriving DecidableEq

/-- Bytes as the text of a message. -/
def textOf (bytes : List UInt8) : String := .ofList (bytes.map fun b => .ofNat b.toNat)

/-- The end of the ioloop. -/
def exiting (dterr : Dterr) : Ioloop := .ended (.rechain dterr "ioloop exiting due to error")

/-- The statements of the loop after `select`, where the sets tell what is readable. -/
def afterSelect (pipeReady coapReady : Bool) : Ioloop :=
  if pipeReady then .draining coapReady else if coapReady then .processing else .getting

/-- The statements after `drain_pipe`. -/
def afterDrain (coapReady : Bool) : Ioloop := if coapReady then .processing else .getting

/-- One step. -/
def step (s : State) : Event → Option State
  | .put m =>
    if s.queue.length < queueSize then
      some { s with
        queue := s.queue ++ [⟨s.calls.length, pubworkEnbuf m⟩]
        writing := s.calls.length :: s.writing
        calls := s.calls ++ [m] }
    else none
  | .write call full =>
    -- the write fails only on a full pipe, and a full pipe is not empty
    if call ∈ s.writing ∧ (full → 0 < s.pipe) then
      some { s with
        writing := s.writing.erase call
        pipe := if full then s.pipe else s.pipe + 1 }
    else none
  | .select coapReady =>
    if s.ioloop = .selecting ∧ (0 < s.pipe ∨ coapReady) then
      some { s with ioloop := afterSelect (0 < s.pipe) coapReady }
    else none
  | .selectFailed errno strerror =>
    if s.ioloop = .selecting then
      -- a failed `select` leaves both descriptors in the set
      some { s with
        ioloop := if errno ≠ EAGAIN then exiting (.new .fail s!"select error: {strerror}")
          else afterSelect true true }
    else none
  | .readInterrupted =>
    match s.ioloop with
    | .draining _ => some s
    | _ => none
  | .read =>
    match s.ioloop with
    | .draining coapReady =>
      some (if 0 < s.pipe then { s with pipe := s.pipe - drainSize }
        else { s with ioloop := afterDrain coapReady })
    | _ => none
  | .process result =>
    if s.ioloop = .processing then
      some { s with
        ioloop := if result < 0 then exiting (.new .fail s!"coap_io_process error: {result}")
          else .getting }
    else none
  | .get =>
    if s.ioloop = .getting then
      match s.queue with
      | [] => some { s with ioloop := .selecting }
      | work :: rest =>
        match pubworkDebuf work.buffer with
        | .error dterr => some { s with queue := rest, ioloop := exiting dterr }
        | .ok (topic, data) =>
          some { s with
            queue := rest
            ioloop := .publishing topic
            published := s.published ++ [⟨work.call, topic, data⟩] }
    else none
  | .publishOne dterr =>
    match s.ioloop with
    | .publishing topic =>
      -- the source reads `topic` when it has already disposed of the buffer it points into
      some { s with
        ioloop := match dterr with
          | some dterr =>
            exiting (.rechain dterr s!"unable to publish on topic \"{textOf topic}\"")
          | none => .getting }
    | _ => none

/-! ## What a step does -/

/-- The event is a step of the ioloop that has come to its end. -/
def Event.ofIoloop : Event → Bool
  | .select _ | .selectFailed _ _ | .read | .process _ | .get | .publishOne _ => true
  | .put _ | .write _ _ | .readInterrupted => false

/-- How far the ioloop is from its next get. -/
def Ioloop.distance : Ioloop → ℕ
  | .getting | .ended _ => 0
  | .publishing _ | .processing => 1
  | .draining _ => 2
  | .selecting => 3

/-- The ioloop has ended, with an error. -/
def Ioloop.hasEnded : Ioloop → Bool
  | .ended _ => true
  | .selecting | .draining _ | .processing | .getting | .publishing _ => false

/-- What a step does. In `moved` the ioloop comes nearer to its next get, or ends. -/
inductive Effect (s : State) : Event → State → Prop
  | put (m : Message) (hroom : s.queue.length < queueSize) : Effect s (.put m)
      { s with
        queue := s.queue ++ [⟨s.calls.length, pubworkEnbuf m⟩]
        writing := s.calls.length :: s.writing
        calls := s.calls ++ [m] }
  | written (call : ℕ) (full : Bool) (hcall : call ∈ s.writing) (hfull : full → 0 < s.pipe) :
      Effect s (.write call full)
        { s with
          writing := s.writing.erase call
          pipe := if full then s.pipe else s.pipe + 1 }
  | moved (e : Event) (ioloop : Ioloop) (he : e.ofIoloop = true)
      (hmoved : (s.ioloop.hasEnded = false ∧ ioloop.hasEnded = true) ∨
        ioloop.distance < s.ioloop.distance) : Effect s e { s with ioloop := ioloop }
  | interrupted : Effect s .readInterrupted s
  | drained (coapReady : Bool) (hioloop : s.ioloop = .draining coapReady) (hpipe : 0 < s.pipe) :
      Effect s .read { s with pipe := s.pipe - drainSize }
  | emptied (hioloop : s.ioloop = .getting) (hqueue : s.queue = []) :
      Effect s .get { s with ioloop := .selecting }
  | refused (work : Pubwork) (rest : List Pubwork) (dterr : Dterr) (hioloop : s.ioloop = .getting)
      (hqueue : s.queue = work :: rest) :
      Effect s .get { s with queue := rest, ioloop := exiting dterr }
  | published (work : Pubwork) (rest : List Pubwork) (hioloop : s.ioloop = .getting)
      (hqueue : s.queue = work :: rest) : Effect s .get
        { s with
          queue := rest
          ioloop := .publishing work.published.topic
          published := s.published ++ [work.published] }

theorem afterDrain_distance (coapReady : Bool) : (afterDrain coapReady).distance < 2 := by
  cases coapReady <;> decide

theorem afterSelect_distance (pipeReady coapReady : Bool) :
    (afterSelect pipeReady coapReady).distance < 3 := by
  cases pipeReady <;> cases coapReady <;> decide

theorem step_effect {s s' : State} {e : Event} (h : step s e = some s') : Effect s e s' := by
  cases e with
  | put m =>
      obtain ⟨hroom, ⟨⟩⟩ := Option.ite_none_right_eq_some.1 h
      exact .put m hroom
  | write call full =>
      obtain ⟨⟨hcall, hfull⟩, ⟨⟩⟩ := Option.ite_none_right_eq_some.1 h
      exact .written call full hcall hfull
  | select coapReady =>
      obtain ⟨⟨hioloop, -⟩, ⟨⟩⟩ := Option.ite_none_right_eq_some.1 h
      refine .moved _ _ rfl (.inr ?_)
      rw [hioloop]
      exact afterSelect_distance _ _
  | selectFailed errno strerror =>
      obtain ⟨hioloop, ⟨⟩⟩ := Option.ite_none_right_eq_some.1 h
      refine .moved _ _ rfl ?_
      rw [hioloop]
      split
      · exact .inl ⟨rfl, rfl⟩
      · exact .inr (afterSelect_distance _ _)
  | readInterrupted =>
      simp only [step] at h
      split at h
      · obtain rfl := Option.some.inj h
        exact .interrupted
      · cases h
  | read =>
      simp only [step] at h
      split at h
      · next coapReady hioloop =>
          obtain rfl := Option.some.inj h
          split
          · next hpipe => exact .drained coapReady hioloop hpipe
          · refine .moved _ _ rfl (.inr ?_)
            rw [hioloop]
            exact afterDrain_distance _
      · cases h
  | process result =>
      obtain ⟨hioloop, ⟨⟩⟩ := Option.ite_none_right_eq_some.1 h
      refine .moved _ _ rfl ?_
      rw [hioloop]
      split
      · exact .inl ⟨rfl, rfl⟩
      · exact .inr (by decide)
  | get =>
      simp only [step] at h
      obtain ⟨hioloop, h⟩ := Option.ite_none_right_eq_some.1 h
      split at h
      · next hqueue =>
          obtain rfl := Option.some.inj h
          exact .emptied hioloop hqueue
      · next work rest hqueue =>
          split at h
          · next dterr hrefused =>
              obtain rfl := Option.some.inj h
              exact .refused work rest dterr hioloop hqueue
          · next topic data hsplit =>
              obtain rfl := Option.some.inj h
              simp only [pubworkDebuf] at hsplit
              split at hsplit
              · cases hsplit
              · have hpublished : work.published = ⟨work.call, topic, data⟩ := by
                  rw [Pubwork.published, Except.ok.inj hsplit]
                have heffect := Effect.published work rest hioloop hqueue
                rwa [hpublished] at heffect
  | publishOne dterr =>
      simp only [step] at h
      split at h
      · next topic hioloop =>
          obtain rfl := Option.some.inj h
          refine .moved _ _ rfl ?_
          rw [hioloop]
          cases dterr with
          | some dterr => exact .inl ⟨rfl, rfl⟩
          | none => exact .inr Nat.zero_lt_one
      · cases h

end DtnetportalCoap
