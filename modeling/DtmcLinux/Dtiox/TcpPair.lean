import DtmcLinux.Dtiox.StreamGap
import DtmcLinux.Dtiox.TcpConnections
import DtmcLinux.Dtiox.Write
import DtmcLinux.Foundation.Pipe

set_option autoImplicit false

/-! # Two connected TCP objects

A client and a server with a connection between them, from the end of attach on: on either side one
thread writes, one thread reads, and the receive task runs. TCP keeps the order of the bytes; what it has
taken from a `send` arrives at the other end in pieces of any size. Each direction is a `Pipe` whose
buffer is the FIFO of the receiver. -/

namespace DtioxLinuxTcp

open Posix

/-! ## The system -/

def Mode.other : Mode → Mode
  | .client => .server
  | .server => .client

/-- What one `recv` delivers. -/
abbrev Chunk := { bs : List UInt8 // 0 < bs.length ∧ bs.length ≤ 1024 }

/-- The thread that writes: between calls, or in the loop with the bytes that are left. -/
inductive WriterPc where
  | idle
  | sending (rest : List UInt8)

/-- The bytes of the call that `send` has not taken. -/
def WriterPc.unsent : WriterPc → List UInt8
  | .idle => []
  | .sending rest => rest

/-- An object, with `fifo_dropped_bytes`, and its threads. -/
structure Endpoint (F : Type*) where
  self : Tcp F
  fifoDroppedBytes : ℤ
  rxPc : DtioxStream.RxPc
  reader : DtioxStream.ReaderPc
  writer : WriterPc

/-- The two ends, and for each: what is on its way to it, what its calls of write were given, what `send`
    has taken from them, and what its reads have returned. -/
structure Connection (F : Type*) where
  ends : Mode → Endpoint F
  inFlight : Mode → List UInt8
  offered : Mode → List UInt8
  accepted : Mode → List UInt8
  returned : Mode → List UInt8

/-- What happens at an end. -/
inductive EndEvent where
  /-- `dtiox_linux_tcp_write` is called -/
  | write (buf : List UInt8)
  /-- a `send` of its loop returns -/
  | send (result : SendResult)
  /-- a step of the receive task or of a read -/
  | stream (e : DtioxStream.Event Unit Chunk)
  /-- `recv` fails, or the peer has closed the connection -/
  | recvEnds (dterr : Dterr)
  /-- the `cleanup:` of the receive task -/
  | cleanup

variable {F : Type*}

/-- The receive path of the object. -/
def Endpoint.rx (e : Endpoint F) : DtioxStream.State Unit F where
  self := e.self.streamRx e.fifoDroppedBytes
  rxPc := e.rxPc
  readers := fun _ => e.reader

/-- The object when its receive path is `t`. -/
def Endpoint.setRx (e : Endpoint F) (t : DtioxStream.State Unit F) : Endpoint F :=
  { e with
    self := { e.self with
      rxFifo := t.self.rxFifo
      rxOverflowFlag := t.self.rxOverflowFlag
      rxEnabled := t.self.rxEnabled
      rxSemaphore := t.self.rxSemaphore
      rxPosts := t.self.rxPosts }
    fifoDroppedBytes := t.self.fifoDroppedBytes
    rxPc := t.rxPc
    reader := t.readers () }

@[simp] theorem Endpoint.rx_setRx (e : Endpoint F) (t : DtioxStream.State Unit F) :
    (e.setRx t).rx = t := rfl

namespace Connection

/-- The loop of write at end `m` goes on with the bytes that are left, as far as the results go. -/
def sendRest (c : Connection F) (m : Mode) (rest : List UInt8) (results : List SendResult) :
    Connection F :=
  let e := c.ends m
  let sent := sendBuffer e.self rest results
  { c with
    ends := Function.update c.ends m { e with
      self := (ended e.self 0 sent).self
      writer := if sent.ret = none then .sending (rest.drop sent.bytes.length) else .idle }
    inFlight := Function.update c.inFlight m.other (c.inFlight m.other ++ sent.bytes)
    accepted := Function.update c.accepted m (c.accepted m ++ sent.bytes) }

/-- The bytes that a read returns at the end of a step. -/
def readBytes : Option (Except Dterr (List UInt8)) → List UInt8
  | some (.ok bytes) => bytes
  | _ => []

/-- The receive path at end `m` goes on to `t`, and a read may return bytes. -/
def setRx (c : Connection F) (m : Mode) (t : DtioxStream.State Unit F) (bytes : List UInt8) :
    Connection F :=
  { c with
    ends := Function.update c.ends m ((c.ends m).setRx t)
    returned := Function.update c.returned m (c.returned m ++ bytes) }

/-- `chunk` has arrived at end `m`. -/
def arrived (c : Connection F) (m : Mode) (chunk : Chunk) : Connection F :=
  { c with inFlight := Function.update c.inFlight m ((c.inFlight m).drop chunk.val.length) }

/-- The object at end `m` is `e`. -/
def setEnd (c : Connection F) (m : Mode) (e : Endpoint F) : Connection F :=
  { c with ends := Function.update c.ends m e }

variable [Dtringfifo F] (addDropped : ℤ → ℤ → ℤ)

/-- The step of the receive path at end `m`. -/
def rxStep (c : Connection F) (m : Mode) (e : DtioxStream.Event Unit Chunk) :
    Option (Connection F) :=
  (DtioxStream.step (stream addDropped) (c.ends m).rx e).map fun t =>
    c.setRx m t (readBytes (DtioxStream.readResult (stream addDropped) (c.ends m).rx e))

/-- One step. -/
def step (c : Connection F) : Mode × EndEvent → Option (Connection F)
  | (m, .write buf) =>
    match (c.ends m).writer with
    | .sending _ => none
    | .idle =>
      if (c.ends m).self.fd < 0 ∨ !(c.ends m).self.isConnected then some c
      else
        some (sendRest { c with offered := Function.update c.offered m (c.offered m ++ buf) } m buf [])
  | (m, .send result) =>
    match (c.ends m).writer with
    | .idle => none
    | .sending rest => some (c.sendRest m rest [result])
  | (m, .stream (.received chunk)) =>
    if chunk.val <+: c.inFlight m then
      (c.rxStep addDropped m (.received chunk)).map fun c => c.arrived m chunk
    else none
  | (m, .stream (.test () bufLen)) =>
    if !(c.ends m).self.isConnected then
      match (c.ends m).reader with
      | .idle =>
        -- the read returns that the object is disconnected
        some (c.setEnd m { c.ends m with
          self := { (c.ends m).self with rxOverflowFlag := false } })
      | _ => none
    else c.rxStep addDropped m (.test () bufLen)
  | (m, .stream e) => c.rxStep addDropped m e
  | (m, .recvEnds dterr) =>
    match (c.ends m).rxPc with
    | .receiving =>
      some (c.setEnd m { c.ends m with rxPc := .cleanup dterr })
    | _ => none
  | (m, .cleanup) =>
    match (c.ends m).rxPc with
    | .cleanup _ =>
      some (c.setEnd m { c.ends m with
        self := { (c.ends m).self with
          isConnected := false
          rxThreadRunning := false
          fd := DescriptorTable.closedVar (c.ends m).self.fd
          listenFd := DescriptorTable.closedVar (c.ends m).self.listenFd } })
    | _ => none

/-- The connection when both calls of attach have returned. -/
def start (self : Mode → Tcp F) (fifoDroppedBytes : ℤ) : Connection F where
  ends m := ⟨self m, fifoDroppedBytes, .receiving, .idle, .idle⟩
  inFlight _ := []
  offered _ := []
  accepted _ := []
  returned _ := []

/-! ## The properties -/

/-- The direction from `m` to the other end. -/
def pipe (c : Connection F) (m : Mode) : Pipe UInt8 where
  accepted := c.accepted m
  inFlight := c.inFlight m.other
  buffered := Dtringfifo.contents (c.ends m.other).self.rxFifo
  taken := c.returned m.other

/-- What `send` has taken at end `m` is the beginning of what the calls of write were given, and while
    the object is connected the rest is what the call in progress has left. -/
def Written (c : Connection F) (m : Mode) : Prop :=
  c.accepted m ++ (c.ends m).writer.unsent <+: c.offered m ∧
    ((c.ends m).self.isConnected = true → c.accepted m ++ (c.ends m).writer.unsent = c.offered m)

/-- In either direction what reads return is, in order, among what the calls of write were given. -/
def Sound (c : Connection F) : Prop := ∀ m, (c.pipe m).Subsequence ∧ c.Written m

/-- In either direction: no byte is lost, and no read reports an overflow. -/
def Lossless (c : Connection F) : Prop :=
  ∀ m, (c.pipe m).Lossless ∧ (c.ends m).self.rxOverflowFlag = false ∧ (c.ends m).reader ≠ .clearing

/-- What `recv` delivers has room in the FIFO. -/
def Fits [BoundedDtringfifo F] (c : Connection F) : Mode × EndEvent → Prop
  | (m, .stream (.received chunk)) =>
    (c.ends m).rxPc = .receiving → chunk.val <+: c.inFlight m →
      (Dtringfifo.contents (c.ends m).self.rxFifo).length + chunk.val.length ≤
        BoundedDtringfifo.capacity (c.ends m).self.rxFifo
  | _ => True

/-- What `send` takes stays within the capacity of the other end's FIFO, counted from what the reads
    there have returned. -/
def KeepsWindow [BoundedDtringfifo F] (c : Connection F) : Mode × EndEvent → Prop
  | (m, .send result) =>
    (c.sendRest m (c.ends m).writer.unsent [result]).pipe m |>.Within
      (BoundedDtringfifo.capacity (c.ends m.other).self.rxFifo)
  | _ => True

end Connection

/-! ## The receive path -/

theorem Mode.other_other (m : Mode) : m.other.other = m := by cases m <;> rfl

theorem Mode.other_ne (m : Mode) : m.other ≠ m := by cases m <;> simp [Mode.other]

theorem Mode.forall_iff {P : Mode → Prop} (m : Mode) : (∀ m', P m') ↔ P m ∧ P m.other := by
  constructor
  · exact fun h => ⟨h m, h m.other⟩
  · rintro ⟨hm, hother⟩ m'
    cases m <;> cases m' <;> assumption

namespace Connection

variable [Dtringfifo F] {addDropped : ℤ → ℤ → ℤ}

/-- No chunk that did not fit is to be recorded, and reception is enabled. -/
structure Quiet (s : DtioxStream.State Unit F) : Prop where
  enabled : s.self.rxEnabled = true
  fitted : s.rxPc.overflowed = false
  flag : s.self.rxOverflowFlag = false
  reader : s.readers () ≠ .clearing

/-- A step that receives nothing takes what the read returns from the FIFO. -/
theorem contents_of_effect [LawfulDtringfifo F] {s t : DtioxStream.State Unit F}
    {e : DtioxStream.Event Unit Chunk} (h : DtioxStream.Effect (stream addDropped) s e t)
    (hother : ∀ chunk, e ≠ .received chunk) :
    Dtringfifo.contents s.self.rxFifo =
      readBytes (DtioxStream.readResult (stream addDropped) s e) ++
        Dtringfifo.contents t.self.rxFifo := by
  cases h with
  | received chunk => exact absurd rfl (hother chunk)
  | recorded hpc =>
      next len written =>
        rw [(DtioxStream.recorded_flag (stream addDropped) s len written).1]
        rfl
  | posted | postFailed | test | clear => rfl
  | pop i hpc hfree =>
      next bufLen =>
        rw [DtioxStream.readResult, hpc]
        exact LawfulDtringfifo.contents_pop _ _

variable (addDropped) in
/-- A reception stores the beginning of the chunk, and returns nothing. -/
theorem contents_of_received [LawfulDtringfifo F] (s : DtioxStream.State Unit F) (chunk : Chunk) :
    ∃ n, Dtringfifo.contents (DtioxStream.received (stream addDropped) s chunk).self.rxFifo =
      Dtringfifo.contents s.self.rxFifo ++ chunk.val.take n := by
  rcases DtioxStream.received_cases (stream addDropped) s chunk with h | ⟨-, h⟩
  · exact ⟨0, by rw [h, List.take_zero, List.append_nil]⟩
  · exact ⟨_, by rw [h]; exact LawfulDtringfifo.contents_push _ _⟩

/-- Without an overflow the receive path stays quiet. -/
theorem Quiet.effect {s t : DtioxStream.State Unit F} {e : DtioxStream.Event Unit Chunk}
    (hs : Quiet s) (h : DtioxStream.Effect (stream addDropped) s e t)
    (hother : ∀ chunk, e ≠ .received chunk) : Quiet t := by
  cases h with
  | received chunk => exact absurd rfl (hother chunk)
  | recorded hpc =>
      next len written =>
        obtain ⟨-, hreaders, hflag⟩ := DtioxStream.recorded_flag (stream addDropped) s len written
        have hfitted := hs.fitted
        rw [hpc, DtioxStream.RxPc.overflowed] at hfitted
        have hdropped : ¬((len : ℤ) - written > 0) := by
          have := of_decide_eq_false hfitted
          omega
        refine ⟨?_, ?_, by rw [hflag, hs.flag, hfitted]; rfl, hreaders ▸ hs.reader⟩
        · rw [DtioxStream.recorded]
          dsimp only
          rw [if_neg hdropped]
          exact hs.enabled
        · rw [DtioxStream.recorded]
          dsimp only
          split <;> split <;> rfl
  | posted hpc => exact ⟨hs.enabled, rfl, hs.flag, hs.reader⟩
  | postFailed err hpc => exact ⟨hs.enabled, rfl, hs.flag, hs.reader⟩
  | test i bufLen hpc =>
      refine ⟨hs.enabled, hs.fitted, hs.flag, ?_⟩
      rw [hs.flag]
      simp
  | clear i hpc => exact absurd hpc hs.reader
  | pop i hpc hfree =>
      next bufLen => exact ⟨hs.enabled, hs.fitted, hs.flag, by simp⟩

variable (addDropped) in
/-- A chunk that arrives when the receive path is quiet leaves it quiet if it fits. -/
theorem Quiet.received [BoundedDtringfifo F] {s : DtioxStream.State Unit F} (hs : Quiet s)
    (chunk : Chunk) :
    let t := DtioxStream.received (stream addDropped) s chunk
    let written := (Dtringfifo.push s.self.rxFifo chunk.val).2
    Dtringfifo.contents t.self.rxFifo =
        Dtringfifo.contents s.self.rxFifo ++ chunk.val.take written ∧
      (chunk.val.length ≤ written → Quiet t) ∧
      t.self.rxOverflowFlag = false ∧ t.readers () ≠ .clearing ∧
      (chunk.val.length ≤ written ↔ (Dtringfifo.contents s.self.rxFifo).length + chunk.val.length ≤
        BoundedDtringfifo.capacity s.self.rxFifo) := by
  intro t written
  have hpushed : t = { s with
      self := { s.self with rxFifo := (Dtringfifo.push s.self.rxFifo chunk.val).1 }
      rxPc := .pushed chunk.val.length written } := by
    show DtioxStream.received (stream addDropped) s chunk = _
    have hlen : ¬((stream addDropped).payload chunk).length = 0 := Nat.ne_of_gt chunk.property.1
    rw [DtioxStream.received]
    dsimp only
    rw [if_neg hlen, hs.enabled]
    rfl
  have hwritten := BoundedDtringfifo.push_snd s.self.rxFifo chunk.val
  have hpos := chunk.property.1
  rw [hpushed]
  refine ⟨LawfulDtringfifo.contents_push _ _, fun hall => ?_, hs.flag, hs.reader, ?_⟩
  · exact ⟨hs.enabled, decide_eq_false (Nat.not_lt.2 hall), hs.flag, hs.reader⟩
  · show chunk.val.length ≤ (Dtringfifo.push s.self.rxFifo chunk.val).2 ↔ _
    omega

/-! ## The steps, direction by direction -/

omit [Dtringfifo F] in
/-- What the loop of write leaves in the object: only `is_connected` can change. -/
theorem ended_self (self : Tcp F) (len : Int32) (sent : SendOutcome) :
    (ended self len sent).self =
      { self with isConnected := self.isConnected && !sent.ret.any (·.isSome) } := by
  obtain ⟨bytes, rest, ret⟩ := sent
  match ret with
  | none | some none =>
    show self = { self with isConnected := self.isConnected && true }
    rw [Bool.and_true]
  | some (some dterr) =>
    show { self with isConnected := false } =
      { self with isConnected := self.isConnected && false }
    rw [Bool.and_false]

section Sends

variable (c : Connection F) (m : Mode) (rest : List UInt8) (results : List SendResult)

omit [Dtringfifo F] in
theorem ends_sendRest_other : (c.sendRest m rest results).ends m.other = c.ends m.other :=
  Function.update_of_ne m.other_ne _ _

omit [Dtringfifo F] in
theorem rx_sendRest (m' : Mode) : ((c.sendRest m rest results).ends m').rx = (c.ends m').rx := by
  revert m'
  rw [Mode.forall_iff m, ends_sendRest_other]
  refine ⟨?_, rfl⟩
  show (Function.update c.ends m _ m).rx = _
  rw [Function.update_self]
  dsimp only [Endpoint.rx, Tcp.streamRx]
  rw [ended_self]

/-- What `send` takes goes into the direction of the writer. -/
theorem pipe_sendRest : (c.sendRest m rest results).pipe m =
    { c.pipe m with
      accepted := (c.pipe m).accepted ++ (sendBuffer (c.ends m).self rest results).bytes
      inFlight := (c.pipe m).inFlight ++ (sendBuffer (c.ends m).self rest results).bytes } := by
  have hends := ends_sendRest_other c m rest results
  rw [pipe, hends, sendRest]
  dsimp only
  rw [Function.update_self, Function.update_self]
  rfl

theorem pipe_sendRest_other : (c.sendRest m rest results).pipe m.other = c.pipe m.other := by
  have hrx := congrArg (fun s => Dtringfifo.contents s.self.rxFifo) (rx_sendRest c m rest results m)
  dsimp only [Endpoint.rx, Tcp.streamRx] at hrx
  rw [pipe, Mode.other_other, hrx, pipe, Mode.other_other, sendRest]
  dsimp only
  rw [Function.update_of_ne m.other_ne, Function.update_of_ne m.other_ne.symm]

omit [Dtringfifo F] in
/-- The writer has got as far as `send` has taken its bytes. -/
theorem offered_sendRest :
    (c.sendRest m rest results).accepted m ++ ((c.sendRest m rest results).ends m).writer.unsent <+:
        c.accepted m ++ rest ∧
      (((c.sendRest m rest results).ends m).self.isConnected = true →
        (c.ends m).self.isConnected = true ∧
          (c.sendRest m rest results).accepted m ++
            ((c.sendRest m rest results).ends m).writer.unsent = c.accepted m ++ rest) := by
  have hspec : (sendBuffer (c.ends m).self rest results).bytes <+: rest ∧
      ((sendBuffer (c.ends m).self rest results).ret = some none →
        (sendBuffer (c.ends m).self rest results).bytes = rest) := sendLoop_spec rest results
  obtain ⟨hsofar, hall⟩ := hspec
  rw [sendRest]
  dsimp only
  rw [Function.update_self, Function.update_self, ended_self]
  dsimp only
  generalize sendBuffer (c.ends m).self rest results = sent at hsofar hall
  obtain ⟨tail, rfl⟩ := hsofar
  obtain ⟨bytes, more, ret⟩ := sent
  match ret with
  | none =>
    rw [if_pos rfl, WriterPc.unsent, List.drop_left, List.append_assoc]
    exact ⟨List.prefix_rfl, fun hconnected => ⟨(Bool.and_eq_true_iff.1 hconnected).1, rfl⟩⟩
  | some none =>
    have hwhole := hall rfl
    dsimp only at hwhole ⊢
    rw [if_neg (by simp), WriterPc.unsent, List.append_nil, ← hwhole]
    exact ⟨List.prefix_rfl, fun hconnected => ⟨(Bool.and_eq_true_iff.1 hconnected).1, rfl⟩⟩
  | some (some dterr) =>
    rw [if_neg (by simp), WriterPc.unsent, List.append_nil, ← List.append_assoc]
    refine ⟨List.prefix_append _ _, fun hconnected => ?_⟩
    rw [Option.any_some, Option.isSome_some, Bool.not_true, Bool.and_false] at hconnected
    cases hconnected

end Sends

section Receives

variable (c : Connection F) (m : Mode) (t : DtioxStream.State Unit F) (bytes : List UInt8)

/-- The receive path of an end is at the end of the direction to it. -/
theorem pipe_setRx : (c.setRx m t bytes).pipe m = c.pipe m := by
  rw [pipe, setRx]
  dsimp only
  rw [Function.update_of_ne m.other_ne, Function.update_of_ne m.other_ne]
  rfl

theorem pipe_setRx_other : (c.setRx m t bytes).pipe m.other =
    { c.pipe m.other with
      buffered := Dtringfifo.contents t.self.rxFifo
      taken := (c.pipe m.other).taken ++ bytes } := by
  rw [pipe, setRx]
  dsimp only
  rw [pipe, Mode.other_other, Function.update_self, Function.update_self]
  rfl

omit [Dtringfifo F] in
/-- The receive path leaves the writer alone. -/
theorem ends_setRx (m' : Mode) :
    ((c.setRx m t bytes).ends m').writer = (c.ends m').writer ∧
      ((c.setRx m t bytes).ends m').self.isConnected = (c.ends m').self.isConnected := by
  revert m'
  rw [Mode.forall_iff m, setRx]
  dsimp only
  rw [Function.update_self, Function.update_of_ne m.other_ne]
  exact ⟨⟨rfl, rfl⟩, rfl, rfl⟩

omit [Dtringfifo F] in
theorem rx_setRx : ((c.setRx m t bytes).ends m).rx = t := by
  rw [setRx]
  dsimp only
  rw [Function.update_self, Endpoint.rx_setRx]

omit [Dtringfifo F] in
theorem rx_setRx_other : ((c.setRx m t bytes).ends m.other).rx = (c.ends m.other).rx := by
  rw [setRx]
  dsimp only
  rw [Function.update_of_ne m.other_ne]

theorem pipe_arrived (chunk : Chunk) : (c.arrived m chunk).pipe m = c.pipe m := by
  rw [pipe, arrived]
  dsimp only
  rw [Function.update_of_ne m.other_ne]
  rfl

theorem pipe_arrived_other (chunk : Chunk) : (c.arrived m chunk).pipe m.other =
    { c.pipe m.other with inFlight := (c.pipe m.other).inFlight.drop chunk.val.length } := by
  rw [pipe, arrived]
  dsimp only
  rw [pipe, Mode.other_other, Function.update_self]

end Receives

/-- A change of the object at an end that is no concern of the directions: the FIFO and what the writer
    has to do stay, and a connection that is gone stays gone. -/
structure Aside (e e' : Endpoint F) : Prop where
  rxFifo : e'.self.rxFifo = e.self.rxFifo
  writer : e'.writer = e.writer
  connected : e'.self.isConnected = true → e.self.isConnected = true
  quiet : Quiet e.rx → Quiet e'.rx

/-- The outcomes of a step. -/
inductive Effect (addDropped : ℤ → ℤ → ℤ) (c : Connection F) (m : Mode) :
    EndEvent → Connection F → Prop where
  /-- a write is refused -/
  | refused (buf : List UInt8) : Effect addDropped c m (.write buf) c
  | offered (buf : List UInt8) (hwriter : (c.ends m).writer = .idle)
      (hconnected : (c.ends m).self.isConnected = true) :
      Effect addDropped c m (.write buf)
        (sendRest { c with offered := Function.update c.offered m (c.offered m ++ buf) } m buf [])
  | sent (rest : List UInt8) (result : SendResult) (hwriter : (c.ends m).writer = .sending rest) :
      Effect addDropped c m (.send result) (c.sendRest m rest [result])
  | received (chunk : Chunk) (hnext : chunk.val <+: c.inFlight m)
      (hpc : (c.ends m).rxPc = .receiving) :
      Effect addDropped c m (.stream (.received chunk))
        ((c.setRx m (DtioxStream.received (stream addDropped) (c.ends m).rx chunk) []).arrived m chunk)
  | stream (e : DtioxStream.Event Unit Chunk) (t : DtioxStream.State Unit F)
      (hother : ∀ chunk, e ≠ .received chunk)
      (heffect : DtioxStream.Effect (stream addDropped) (c.ends m).rx e t) :
      Effect addDropped c m (.stream e)
        (c.setRx m t (readBytes (DtioxStream.readResult (stream addDropped) (c.ends m).rx e)))
  | aside (e : EndEvent) (e' : Endpoint F) (hother : ∀ chunk, e ≠ .stream (.received chunk))
      (haside : Aside (c.ends m) e') : Effect addDropped c m e (c.setEnd m e')

theorem rxStep_effect {c c' : Connection F} {m : Mode} {e : DtioxStream.Event Unit Chunk}
    (hother : ∀ chunk, e ≠ .received chunk) (h : c.rxStep addDropped m e = some c') :
    Effect addDropped c m (.stream e) c' := by
  obtain ⟨t, ht, rfl⟩ := Option.map_eq_some_iff.1 h
  exact .stream e t hother (DtioxStream.step_effect ht)

theorem step_effect {c c' : Connection F} {m : Mode} {e : EndEvent}
    (h : step addDropped c (m, e) = some c') : Effect addDropped c m e c' := by
  cases e with
  | write buf =>
      simp only [step] at h
      split at h
      · cases h
      · next hwriter =>
          split at h
          · obtain rfl := Option.some.inj h
            exact .refused buf
          · next hguard =>
              obtain rfl := Option.some.inj h
              refine .offered buf hwriter ?_
              simpa using (not_or.1 hguard).2
  | send result =>
      simp only [step] at h
      split at h
      · cases h
      · next rest hwriter =>
          obtain rfl := Option.some.inj h
          exact .sent rest result hwriter
  | stream e =>
      cases e with
      | received chunk =>
          obtain ⟨hnext, h⟩ := Option.ite_none_right_eq_some.1 h
          obtain ⟨c₁, hrx, rfl⟩ := Option.map_eq_some_iff.1 h
          obtain ⟨t, ht, rfl⟩ := Option.map_eq_some_iff.1 hrx
          cases DtioxStream.step_effect ht with
          | received _ hpc => exact .received chunk hnext hpc
      | test i bufLen =>
          simp only [step] at h
          split at h
          · split at h
            · obtain rfl := Option.some.inj h
              refine .aside _ _ (by simp) ⟨rfl, rfl, id, fun hquiet => ?_⟩
              exact ⟨hquiet.enabled, hquiet.fitted, rfl, hquiet.reader⟩
            · cases h
          · exact rxStep_effect (by simp) h
      | recorded | posted | clear | pop => exact rxStep_effect (by simp) h
  | recvEnds dterr =>
      simp only [step] at h
      split at h
      · obtain rfl := Option.some.inj h
        refine .aside _ _ (by simp) ⟨rfl, rfl, id, fun hquiet => ?_⟩
        exact ⟨hquiet.enabled, rfl, hquiet.flag, hquiet.reader⟩
      · cases h
  | cleanup =>
      simp only [step] at h
      split at h
      · obtain rfl := Option.some.inj h
        refine .aside _ _ (by simp) ⟨rfl, rfl, (by simp), fun hquiet => ?_⟩
        exact ⟨hquiet.enabled, hquiet.fitted, hquiet.flag, hquiet.reader⟩
      · cases h

/-! ## In every run -/

omit [Dtringfifo F] in
/-- An end that only drops its connection has written what it had. -/
theorem Written.congr {c c' : Connection F} {m : Mode} (h : c.Written m)
    (haccepted : c'.accepted m = c.accepted m) (hoffered : c'.offered m = c.offered m)
    (hwriter : (c'.ends m).writer = (c.ends m).writer)
    (hconnected : (c'.ends m).self.isConnected = true → (c.ends m).self.isConnected = true) :
    c'.Written m := by
  unfold Written
  rw [haccepted, hoffered, hwriter]
  exact ⟨h.1, fun hc => h.2 (hconnected hc)⟩

omit [Dtringfifo F] in
theorem written_sendRest {c : Connection F} {m : Mode} {rest : List UInt8}
    {results : List SendResult} (hoffered : c.accepted m ++ rest <+: c.offered m)
    (hall : (c.ends m).self.isConnected = true → c.accepted m ++ rest = c.offered m) :
    (c.sendRest m rest results).Written m := by
  obtain ⟨hsent, hconnected⟩ := offered_sendRest c m rest results
  refine ⟨hsent.trans hoffered, fun hc => ?_⟩
  rw [(hconnected hc).2]
  exact hall (hconnected hc).1

omit [Dtringfifo F] in
theorem written_sendRest_other {c : Connection F} {m : Mode} {rest : List UInt8}
    {results : List SendResult} (h : c.Written m.other) :
    (c.sendRest m rest results).Written m.other := by
  refine h.congr (Function.update_of_ne m.other_ne _ _) rfl ?_ ?_
  · rw [ends_sendRest_other]
  · rw [ends_sendRest_other]
    exact id

theorem pipe_setEnd {c : Connection F} {m : Mode} {e : Endpoint F}
    (h : e.self.rxFifo = (c.ends m).self.rxFifo) (m' : Mode) :
    (c.setEnd m e).pipe m' = c.pipe m' := by
  have hfifo : ((c.setEnd m e).ends m'.other).self.rxFifo = (c.ends m'.other).self.rxFifo := by
    rw [setEnd]
    dsimp only
    rcases eq_or_ne m'.other m with rfl | hne
    · rw [Function.update_self, h]
    · rw [Function.update_of_ne hne]
  rw [pipe, hfifo]
  rfl

/-- A step of the connection is a step of each of its directions. -/
theorem Effect.pipe_step [LawfulDtringfifo F] {c c' : Connection F} {m : Mode} {e : EndEvent}
    (h : Effect addDropped c m e c') (m' : Mode) : (c.pipe m').Step (c'.pipe m') := by
  revert m'
  rw [Mode.forall_iff m]
  cases h with
  | refused => exact ⟨.stay, .stay⟩
  | offered buf =>
      rw [pipe_sendRest, pipe_sendRest_other]
      exact ⟨.accept _, .stay⟩
  | sent rest result =>
      rw [pipe_sendRest, pipe_sendRest_other]
      exact ⟨.accept _, .stay⟩
  | received chunk hnext =>
      obtain ⟨n, hstored⟩ := contents_of_received addDropped (c.ends m).rx chunk
      obtain ⟨rest, hrest⟩ := hnext
      have hinFlight : (c.pipe m.other).inFlight = chunk.val ++ rest := by
        rw [hrest, pipe, Mode.other_other]
      rw [pipe_arrived, pipe_arrived_other, pipe_setRx, pipe_setRx_other, hstored]
      dsimp only
      rw [hinFlight, List.drop_left, List.append_nil]
      refine ⟨.stay, ?_⟩
      have harrive := Pipe.Step.arrive chunk.val rest n hinFlight
      rwa [show (c.pipe m.other).buffered = Dtringfifo.contents (c.ends m).rx.self.rxFifo by
        rw [pipe, Mode.other_other]; rfl] at harrive
  | stream e t hother heffect =>
      have hcontents := contents_of_effect heffect hother
      rw [pipe_setRx, pipe_setRx_other]
      refine ⟨.stay, .take _ _ ?_⟩
      rw [← hcontents, pipe, Mode.other_other]
      rfl
  | aside e e' hother haside =>
      rw [pipe_setEnd haside.rxFifo, pipe_setEnd haside.rxFifo]
      exact ⟨.stay, .stay⟩

theorem Sound.effect [LawfulDtringfifo F] {c c' : Connection F} {m : Mode} {e : EndEvent}
    (hc : c.Sound) (h : Effect addDropped c m e c') : c'.Sound := by
  refine fun m' => ⟨(h.pipe_step m').subsequence (hc m').1, ?_⟩
  have hwritten : ∀ m', c.Written m' := fun m' => (hc m').2
  revert m'
  rw [Mode.forall_iff m]
  cases h with
  | refused => exact ⟨hwritten m, hwritten m.other⟩
  | offered buf hwriter hconnected =>
      have hall := (hwritten m).2 hconnected
      rw [hwriter, WriterPc.unsent, List.append_nil] at hall
      have hoffered : c.accepted m ++ buf =
          Function.update c.offered m (c.offered m ++ buf) m := by
        rw [Function.update_self, hall]
      refine ⟨written_sendRest (hoffered ▸ List.prefix_rfl) fun _ => hoffered, ?_⟩
      refine written_sendRest_other ?_
      exact (hwritten m.other).congr rfl (Function.update_of_ne m.other_ne _ _) rfl id
  | sent rest result hwriter =>
      obtain ⟨hoffered, hall⟩ := hwritten m
      rw [hwriter, WriterPc.unsent] at hoffered hall
      exact ⟨written_sendRest hoffered hall, written_sendRest_other (hwritten m.other)⟩
  | received chunk =>
      rw [← Mode.forall_iff m]
      intro m'
      obtain ⟨hwriter, hconnected⟩ := ends_setRx c m
        (DtioxStream.received (stream addDropped) (c.ends m).rx chunk) [] m'
      exact (hwritten m').congr rfl rfl hwriter fun h => hconnected ▸ h
  | stream e t =>
      rw [← Mode.forall_iff m]
      intro m'
      obtain ⟨hwriter, hconnected⟩ := ends_setRx c m t
        (readBytes (DtioxStream.readResult (stream addDropped) (c.ends m).rx e)) m'
      exact (hwritten m').congr rfl rfl hwriter fun h => hconnected ▸ h
  | aside e e' hother haside =>
      have hself : (c.setEnd m e').ends m = e' := Function.update_self _ _ _
      have hends : (c.setEnd m e').ends m.other = c.ends m.other :=
        Function.update_of_ne m.other_ne _ _
      refine ⟨(hwritten m).congr rfl rfl ?_ ?_, (hwritten m.other).congr rfl rfl ?_ ?_⟩
      · rw [hself, haside.writer]
      · rw [hself]
        exact haside.connected
      · rw [hends]
      · rw [hends]
        exact id

/-! ## Without a loss -/

/-- What holds as long as nothing is lost. -/
def AllQuiet (c : Connection F) : Prop := ∀ m, Quiet (c.ends m).rx

theorem AllQuiet.lossless {c : Connection F} (h : c.AllQuiet) (hpipe : ∀ m, (c.pipe m).Lossless) :
    c.Lossless := fun m => ⟨hpipe m, (h m).flag, (h m).reader⟩

/-- A step other than a reception loses nothing. -/
theorem AllQuiet.effect [LawfulDtringfifo F] {c c' : Connection F} {m : Mode} {e : EndEvent}
    (hc : c.AllQuiet) (hlossless : ∀ m, (c.pipe m).Lossless) (h : Effect addDropped c m e c')
    (hother : ∀ chunk, e ≠ .stream (.received chunk)) :
    c'.AllQuiet ∧ ∀ m, (c'.pipe m).Lossless := by
  cases h with
  | refused => exact ⟨hc, hlossless⟩
  | offered buf =>
      refine ⟨fun m' => ?_, ?_⟩
      · rw [rx_sendRest]
        exact hc m'
      · rw [Mode.forall_iff m, pipe_sendRest, pipe_sendRest_other]
        exact ⟨(hlossless m).accept _, hlossless m.other⟩
  | sent rest result =>
      refine ⟨fun m' => ?_, ?_⟩
      · rw [rx_sendRest]
        exact hc m'
      · rw [Mode.forall_iff m, pipe_sendRest, pipe_sendRest_other]
        exact ⟨(hlossless m).accept _, hlossless m.other⟩
  | received chunk => exact absurd rfl (hother chunk)
  | stream e t hstream heffect =>
      have hcontents := contents_of_effect heffect hstream
      refine ⟨?_, ?_⟩
      · rw [AllQuiet, Mode.forall_iff m, rx_setRx, rx_setRx_other]
        exact ⟨(hc m).effect heffect hstream, hc m.other⟩
      · rw [Mode.forall_iff m, pipe_setRx, pipe_setRx_other]
        refine ⟨hlossless m, (hlossless m.other).take ?_⟩
        rw [← hcontents, pipe, Mode.other_other]
        rfl
  | aside e e' _ haside =>
      refine ⟨?_, fun m' => ?_⟩
      · have hself : (c.setEnd m e').ends m = e' := Function.update_self _ _ _
        have hends : (c.setEnd m e').ends m.other = c.ends m.other :=
          Function.update_of_ne m.other_ne _ _
        rw [AllQuiet, Mode.forall_iff m, hself, hends]
        exact ⟨haside.quiet (hc m), hc m.other⟩
      · rw [pipe_setEnd haside.rxFifo]
        exact hlossless m'

/-- A reception loses nothing exactly when the chunk fits. -/
theorem AllQuiet.received [BoundedDtringfifo F] {c : Connection F} {m : Mode} {chunk : Chunk}
    (hc : c.AllQuiet) (hlossless : ∀ m, (c.pipe m).Lossless) (hnext : chunk.val <+: c.inFlight m)
    (hpc : (c.ends m).rxPc = .receiving) :
    let c' := (c.setRx m (DtioxStream.received (stream addDropped) (c.ends m).rx chunk) []).arrived
      m chunk
    (c'.Lossless ↔ c.Fits (m, .stream (.received chunk))) ∧ (c'.Lossless → c'.AllQuiet) := by
  intro c'
  obtain ⟨hstored, hquiet, hflag, hreader, hroom⟩ :=
    (hc m).received addDropped chunk
  obtain ⟨rest, hrest⟩ := hnext
  have hinFlight : (c.pipe m.other).inFlight = chunk.val ++ rest := by
    rw [hrest, pipe, Mode.other_other]
  have hbuffered : (c.pipe m.other).buffered =
      Dtringfifo.contents (c.ends m).rx.self.rxFifo := by
    rw [pipe, Mode.other_other]
    rfl
  have hpipe : c'.pipe m = c.pipe m := (pipe_arrived _ m chunk).trans (pipe_setRx c m _ [])
  have hpipe' : (c'.pipe m.other).Lossless ↔
      chunk.val.length ≤ (Dtringfifo.push (c.ends m).rx.self.rxFifo chunk.val).2 := by
    rw [← Pipe.lossless_arrive _ hinFlight (hlossless m.other)]
    have heq : c'.pipe m.other = { c.pipe m.other with
        inFlight := rest
        buffered := (c.pipe m.other).buffered ++
          chunk.val.take (Dtringfifo.push (c.ends m).rx.self.rxFifo chunk.val).2 } := by
      rw [pipe_arrived_other, pipe_setRx_other, hstored, hbuffered]
      dsimp only
      rw [hinFlight, List.drop_left, List.append_nil]
    rw [heq]
  have hrx : (c'.ends m).rx = DtioxStream.received (stream addDropped) (c.ends m).rx chunk :=
    rx_setRx c m _ []
  have hrx' : (c'.ends m.other).rx = (c.ends m.other).rx := rx_setRx_other c m _ []
  have hfits : c.Fits (m, .stream (.received chunk)) ↔
      (Dtringfifo.contents (c.ends m).self.rxFifo).length + chunk.val.length ≤
        BoundedDtringfifo.capacity (c.ends m).self.rxFifo :=
    ⟨fun h => h hpc ⟨rest, hrest⟩, fun h _ _ => h⟩
  have hall : (c'.pipe m.other).Lossless → c'.AllQuiet := by
    intro h
    rw [AllQuiet, Mode.forall_iff m, hrx, hrx']
    exact ⟨hquiet (hpipe'.1 h), hc m.other⟩
  refine ⟨⟨fun h => ?_, fun h => ?_⟩, fun h => hall (h m.other).1⟩
  · exact hfits.2 (hroom.1 (hpipe'.1 (h m.other).1))
  · have hlater := hpipe'.2 (hroom.2 (hfits.1 h))
    refine (hall hlater).lossless ?_
    rw [Mode.forall_iff m, hpipe]
    exact ⟨hlossless m, hlater⟩

/-- Every other event fits. -/
theorem fits_of_other [BoundedDtringfifo F] (c : Connection F) (m : Mode) {e : EndEvent}
    (hother : ∀ chunk, e ≠ .stream (.received chunk)) : c.Fits (m, e) := by
  cases e with
  | stream e =>
      cases e with
      | received chunk => exact absurd rfl (hother chunk)
      | recorded | posted | test | clear | pop => trivial
  | write | send | recvEnds | cleanup => trivial

/-- **Step lemma.** While nothing is lost, a step loses nothing exactly when what it receives fits. -/
theorem lossless_step [BoundedDtringfifo F] {c c' : Connection F} {e : Mode × EndEvent}
    (hquiet : c.AllQuiet) (hc : c.Lossless) (h : step addDropped c e = some c') :
    (c'.Lossless ↔ c.Fits e) ∧ (c'.Lossless → c'.AllQuiet) := by
  obtain ⟨m, e⟩ := e
  have hlossless : ∀ m, (c.pipe m).Lossless := fun m => (hc m).1
  have heffect := step_effect h
  by_cases hreceived : ∃ chunk, e = .stream (.received chunk)
  · obtain ⟨chunk, rfl⟩ := hreceived
    cases heffect with
    | received _ hnext hpc => exact hquiet.received hlossless hnext hpc
    | stream _ _ hother => exact absurd rfl (hother chunk)
    | aside _ _ hother => exact absurd rfl (hother chunk)
  · have hother : ∀ chunk, e ≠ .stream (.received chunk) := fun chunk h => hreceived ⟨chunk, h⟩
    obtain ⟨hquiet', hlossless'⟩ := hquiet.effect hlossless heffect hother
    exact ⟨iff_of_true (hquiet'.lossless hlossless') (c.fits_of_other m hother), fun _ => hquiet'⟩

/-! ## Within the window -/

/-- Neither end is further ahead of the reads at the other than the FIFO there is long. -/
def Windowed [BoundedDtringfifo F] (c : Connection F) : Prop :=
  ∀ m, (c.pipe m).Within (BoundedDtringfifo.capacity (c.ends m.other).self.rxFifo)

/-- Then everything that arrives has room. -/
theorem Windowed.fits [BoundedDtringfifo F] {c : Connection F} (h : c.Windowed) (hc : c.Lossless)
    (e : Mode × EndEvent) : c.Fits e := by
  obtain ⟨m, e⟩ := e
  by_cases hreceived : ∃ chunk, e = .stream (.received chunk)
  · obtain ⟨chunk, rfl⟩ := hreceived
    intro _ hnext
    have hroom := (hc m.other).1.room (h m.other)
    have hle := hnext.length_le
    rw [pipe, Mode.other_other] at hroom
    dsimp only at hroom
    omega
  · exact c.fits_of_other m fun chunk h => hreceived ⟨chunk, h⟩

/-- No step changes how long the FIFO is. -/
theorem capacity_of_effect [BoundedDtringfifo F] {s t : DtioxStream.State Unit F}
    {e : DtioxStream.Event Unit Chunk} (h : DtioxStream.Effect (stream addDropped) s e t) :
    BoundedDtringfifo.capacity t.self.rxFifo = BoundedDtringfifo.capacity s.self.rxFifo := by
  cases h with
  | received chunk =>
      rcases DtioxStream.received_cases (stream addDropped) s chunk with h | ⟨-, h⟩
      · rw [h]
      · rw [h]
        exact BoundedDtringfifo.capacity_push _ _
  | recorded hpc =>
      next len written => rw [(DtioxStream.recorded_flag (stream addDropped) s len written).1]
  | posted | postFailed | test | clear => rfl
  | pop i hpc hfree => exact BoundedDtringfifo.capacity_pop _ _

theorem Effect.capacity [BoundedDtringfifo F] {c c' : Connection F} {m : Mode} {e : EndEvent}
    (h : Effect addDropped c m e c') (m' : Mode) :
    BoundedDtringfifo.capacity (c'.ends m').self.rxFifo =
      BoundedDtringfifo.capacity (c.ends m').self.rxFifo := by
  have hsame : ∀ {c' : Connection F}, (c'.ends m').rx = (c.ends m').rx →
      BoundedDtringfifo.capacity (c'.ends m').self.rxFifo =
        BoundedDtringfifo.capacity (c.ends m').self.rxFifo := fun hrx =>
    congrArg (fun s => BoundedDtringfifo.capacity s.self.rxFifo) hrx
  have hset : ∀ (t : DtioxStream.State Unit F) bytes,
      BoundedDtringfifo.capacity t.self.rxFifo =
        BoundedDtringfifo.capacity (c.ends m).self.rxFifo →
      BoundedDtringfifo.capacity ((c.setRx m t bytes).ends m').self.rxFifo =
        BoundedDtringfifo.capacity (c.ends m').self.rxFifo := by
    intro t bytes ht
    rcases eq_or_ne m' m with rfl | hne
    · rw [setRx]
      dsimp only
      rw [Function.update_self]
      exact ht
    · rw [setRx]
      dsimp only
      rw [Function.update_of_ne hne]
  cases h with
  | refused => rfl
  | offered => exact hsame (rx_sendRest _ _ _ _ m')
  | sent => exact hsame (rx_sendRest _ _ _ _ m')
  | received chunk hnext hpc =>
      exact hset _ [] (capacity_of_effect (DtioxStream.Effect.received chunk hpc))
  | stream e t hother heffect => exact hset _ _ (capacity_of_effect heffect)
  | aside e e' hother haside =>
      rw [setEnd]
      dsimp only
      rcases eq_or_ne m' m with rfl | hne
      · rw [Function.update_self, haside.rxFifo]
      · rw [Function.update_of_ne hne]

omit [Dtringfifo F] in
/-- Without a result the loop of write takes nothing. -/
theorem sendBuffer_nil (self : Tcp F) (rest : List UInt8) :
    (sendBuffer self rest []).bytes = [] := by
  cases rest <;> rw [sendBuffer, sendLoop]

theorem Windowed.step [BoundedDtringfifo F] {c c' : Connection F} {e : Mode × EndEvent}
    (hc : c.Windowed) (hkeeps : c.KeepsWindow e) (h : step addDropped c e = some c') :
    c'.Windowed := by
  obtain ⟨m, e⟩ := e
  have heffect := step_effect h
  intro m'
  rw [heffect.capacity]
  have hstill : c'.accepted m' = c.accepted m' →
      (c'.pipe m').Within (BoundedDtringfifo.capacity (c.ends m'.other).self.rxFifo) := fun hsame =>
    (heffect.pipe_step m').within (hc m') hsame
  cases heffect with
  | refused => exact hc m'
  | offered buf hwriter =>
      refine hstill ?_
      rw [sendRest]
      dsimp only
      rw [sendBuffer_nil, List.append_nil, Function.update_eq_self]
  | sent rest result hwriter =>
      rcases eq_or_ne m' m with rfl | hne
      · rw [KeepsWindow, hwriter] at hkeeps
        exact hkeeps
      · exact hstill (Function.update_of_ne hne _ _)
  | received | stream | aside => exact hstill rfl

/-! ## Runs -/

theorem sound_start (self : Mode → Tcp F) (fifoDroppedBytes : ℤ)
    (hempty : ∀ m, Dtringfifo.contents (self m).rxFifo = []) : (start self fifoDroppedBytes).Sound := by
  refine fun m => ⟨?_, List.prefix_rfl, fun _ => rfl⟩
  rw [pipe, start, Pipe.Subsequence]
  dsimp only
  rw [hempty]
  exact List.Sublist.refl []

theorem lossless_start (self : Mode → Tcp F) (fifoDroppedBytes : ℤ)
    (hempty : ∀ m, Dtringfifo.contents (self m).rxFifo = [])
    (hflag : ∀ m, (self m).rxOverflowFlag = false) : (start self fifoDroppedBytes).Lossless := by
  refine fun m => ⟨?_, hflag m, by simp [start]⟩
  rw [pipe, start, Pipe.Lossless]
  dsimp only
  rw [hempty]
  rfl

/-- A chunk that cannot be received has nothing to fit into. -/
theorem fits_of_blocked [BoundedDtringfifo F] {c : Connection F} {e : Mode × EndEvent}
    (h : step addDropped c e = none) : c.Fits e := by
  obtain ⟨m, e⟩ := e
  by_cases hreceived : ∃ chunk, e = .stream (.received chunk)
  · obtain ⟨chunk, rfl⟩ := hreceived
    intro hpc hnext
    have hrx : (c.ends m).rx.rxPc = .receiving := hpc
    simp only [step, if_pos hnext, rxStep, DtioxStream.step, hrx, Option.map_some] at h
    cases h
  · exact c.fits_of_other m fun chunk h => hreceived ⟨chunk, h⟩

end Connection

/-- **A reliable pipe in either direction.** For every interleaving of the writers, the readers and the
    receive tasks of both ends, every result of `send` and every way TCP cuts the bytes: what the reads
    at one end return is, in order and each byte once, among what the calls of write at the other end
    were given; all of it has been returned, is in the FIFO or on its way, and no read reports an
    overflow, exactly as long as every chunk fits into the FIFO; and every chunk does when neither
    writer gets further ahead of the other end's reads than the FIFO there is long. -/
theorem reliable_pair [Dtringfifo F] [BoundedDtringfifo F] (addDropped : ℤ → ℤ → ℤ)
    (self : Mode → Tcp F) (fifoDroppedBytes : ℤ)
    (hempty : ∀ m, Dtringfifo.contents (self m).rxFifo = [])
    (hflag : ∀ m, (self m).rxOverflowFlag = false) (henabled : ∀ m, (self m).rxEnabled = true)
    (events : List (Mode × EndEvent)) :
    Run.AllStates (Connection.step addDropped) Connection.Sound (.start self fifoDroppedBytes) events ∧
    (Run.AllStates (Connection.step addDropped) Connection.Lossless (.start self fifoDroppedBytes)
        events ↔
      Run.AllSteps (Connection.step addDropped) Connection.Fits (.start self fifoDroppedBytes)
        events) ∧
    (Run.AllSteps (Connection.step addDropped) Connection.KeepsWindow (.start self fifoDroppedBytes)
        events →
      Run.AllStates (Connection.step addDropped) Connection.Lossless (.start self fifoDroppedBytes)
        events) := by
  have hsound := Connection.sound_start self fifoDroppedBytes hempty
  have hlossless := Connection.lossless_start self fifoDroppedBytes hempty hflag
  have hquiet : (Connection.start self fifoDroppedBytes).AllQuiet := fun m =>
    ⟨henabled m, rfl, hflag m, by simp [Endpoint.rx, Connection.start]⟩
  refine ⟨?_, ?_, fun hkeeps => ?_⟩
  · exact Run.allStates_of_invariant (fun c e c' hc h => hc.effect (Connection.step_effect h)) events _
      hsound
  · refine Run.allStates_iff_allSteps (I := Connection.AllQuiet) ?_ ?_ ?_ events _ hquiet hlossless
    · exact fun c e c' hq hc h hc' => (Connection.lossless_step hq hc h).2 hc'
    · exact fun c e c' hq hc h => (Connection.lossless_step hq hc h).1
    · exact fun c e _ _ h => Connection.fits_of_blocked h
  · have hwindowed : (Connection.start self fifoDroppedBytes).Windowed := fun m => Nat.zero_le _
    refine (Run.allStates_of_allSteps
      (P := fun c : Connection F => c.Windowed ∧ c.Lossless ∧ c.AllQuiet) ?_ events _
      ⟨hwindowed, hlossless, hquiet⟩ hkeeps).imp fun c hc => hc.2.1
    rintro c e c' ⟨hw, hc, hq⟩ hkeeps h
    obtain ⟨hiff, hquiet'⟩ := Connection.lossless_step hq hc h
    have hc' := hiff.2 (hw.fits hc e)
    exact ⟨hw.step hkeeps h, hc', hquiet' hc'⟩

/-- Both ends have room for three bytes. -/
def smallFifo (mode : Mode) : Tcp ByteFifo :=
  { (State.configured mode (⟨3, []⟩ : ByteFifo) true).self with fd := 5, isConnected := true }

/-- The client writes four bytes; three of them are received and read before the last one is sent. -/
def echoed : List (Mode × EndEvent) :=
  [(.client, .write [1, 2, 3, 4]), (.client, .send (.accepts 3)),
    (.server, .stream (.received ⟨[1, 2], by decide⟩)), (.server, .stream .recorded),
    (.server, .stream (.posted none)), (.server, .stream (.test () 8)), (.server, .stream (.pop ())),
    (.client, .send .eintr), (.client, .send (.accepts 1)),
    (.server, .stream (.received ⟨[3, 4], by decide⟩)), (.server, .write [1]),
    (.server, .send (.accepts 7)), (.client, .stream (.received ⟨[1], by decide⟩))]

theorem reliable_pair_echoed :
    ∃ c, Run.exec (Connection.step (· + ·)) (.start smallFifo 0) echoed = some c ∧
      c.returned .server = [1, 2] ∧ c.offered .client = [1, 2, 3, 4] ∧ c.Sound := by
  have hrun := (reliable_pair (· + ·) smallFifo 0 (fun _ => rfl) (fun _ => rfl) (fun _ => rfl)
    echoed).1
  obtain ⟨c, hc, hends⟩ : ∃ c, Run.exec (Connection.step (· + ·)) (.start smallFifo 0) echoed = some c ∧
      c.returned .server = [1, 2] ∧ c.offered .client = [1, 2, 3, 4] := ⟨_, rfl, rfl, rfl⟩
  exact ⟨c, hc, hends.1, hends.2, hrun.last hc⟩

end DtioxLinuxTcp
