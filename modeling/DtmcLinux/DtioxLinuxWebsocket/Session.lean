import DtmcLinux.DtioxLinuxWebsocket.Descriptors
import DtmcLinux.DtioxLinuxWebsocket.Frames
import DtmcLinux.DtioxLinuxWebsocket.HandshakeCorrect
import DtmcLinux.Foundation.WebsocketClient

set_option autoImplicit false

/-! # What the clients receive

Attach with the handshake it makes, and the writes that follow: on each connection a client that sent
an acceptable request receives the response to it, then one frame for each write that succeeded while
the connection was up, and at most the beginning of one more. -/

namespace DtioxLinuxWebsocket

open Posix Rfc6455

/-! ## Calls with their handshakes -/

/-- What the client sends in an attach, and what the calls of the handshake return. -/
structure Handshake where
  timeoutMs : ℤ
  ctx : Dtsha1.Ctx
  events : List UpgradeEvent
  sends : List SendResult

/-- `_do_websocket_handshake(client_fd, self->config.handshake_timeout_ms)` -/
def Handshake.outcome (h : Handshake) : SendOutcome :=
  doWebsocketHandshake h.timeoutMs h.ctx h.events h.sends

/-- The calls of attach, with this handshake; `none` if it does not return. -/
def AttachCalls.shaking (calls : AttachCalls) (h : Handshake) : Option AttachCalls :=
  h.outcome.ret.map fun handshake =>
    { calls with handshakeSent := h.outcome.bytes, handshake := handshake }

inductive SessionEvent where
  | attach (calls : AttachCalls) (handshake : Handshake)
  | detach
  | enable (enabled : Bool)
  | write (call : WriteCall)
  | dispose

/-- The object, with what the client on each descriptor has sent, and the payloads of the writes to
    it that succeeded. -/
structure Session where
  world : World
  requests : ℤ → List UInt8
  delivered : ℤ → List (List UInt8)

/-- The descriptor of the client that an attach accepts. -/
def acceptedFd (w : World) (calls : AttachCalls) : Option ℤ :=
  if w.self.clientFd ≥ 0 then none
  else
    match (bindListenAccept w.self w.fds calls).2 with
    | .error _ => none
    | .ok (_, clientFd) => some clientFd

/-- One call. A write that is not enabled succeeds and sends nothing. -/
def sessionStep (s : Session) : SessionEvent → Option Session
  | .attach calls handshake => do
    let calls ← calls.shaking handshake
    let world ← step s.world (.attach calls)
    match acceptedFd s.world calls with
    | none => some { s with world := world }
    | some fd =>
      let request := streamOf handshake.timeoutMs handshake.events
      some { s with world := world, requests := Function.update s.requests fd request }
  | .detach => (step s.world .detach).map fun world => { s with world := world }
  | .enable enabled => (step s.world (.enable enabled)).map fun world => { s with world := world }
  | .write call => do
    let world ← step s.world call.event
    let fd := s.world.self.clientFd
    if s.world.self.writeEnabled ∧ world.writeReturns.getLast?.map Prod.fst = some none then
      let payloads := s.delivered fd ++ [call.payload]
      some { s with world := world, delivered := Function.update s.delivered fd payloads }
    else some { s with world := world }
  | .dispose => (step s.world .dispose).map fun world => { s with world := world }

/-- An initialised and configured object. -/
def Session.configured (cfg : Config) : Session := ⟨.configured cfg, fun _ => [], fun _ => []⟩

/-- The frames of payloads. -/
def frames (payloads : List (List UInt8)) : List UInt8 :=
  serverFrames.encodeAll (payloads.map binary)

/-- **What the clients receive.** A client whose request is not acceptable receives nothing. One with
    an acceptable request, whose key has at most 255 bytes, has received the beginning of a response,
    or reads the payloads that were delivered, and then the beginning of one frame; while it is the
    client of the object it reads the payloads and nothing else. -/
structure Session.Sound (s : Session) : Prop where
  refused : ∀ fd, (¬∃ r : UpgradeRequest, r.bytes <+: s.requests fd ∧ r.IsAcceptable) →
    s.world.wire fd = [] ∧ s.delivered fd = []
  answered : ∀ (fd : ℤ) (r : UpgradeRequest) (key : List UInt8), r.bytes <+: s.requests fd →
    r.key? = some key → key.length ≤ 255 →
      (s.delivered fd = [] ∧ s.world.wire fd <+: response (acceptValue key)) ∨
      ∃ complete part payload, s.world.wire fd = complete ++ part ∧
        clientReads (acceptValue key) complete = some ((s.delivered fd).map binary) ∧
        part <+: encode (binary payload)
  current : 0 ≤ s.world.self.clientFd →
    ∃ r : UpgradeRequest, r.bytes <+: s.requests s.world.self.clientFd ∧ r.IsAcceptable ∧
      ∀ key, r.key? = some key → key.length ≤ 255 →
        clientReads (acceptValue key) (s.world.wire s.world.self.clientFd) =
          some ((s.delivered s.world.self.clientFd).map binary)

/-! ## The handshake -/

/-- A stream begins with one request at most. -/
theorem UpgradeRequest.unique {r r' : UpgradeRequest} {stream : List UInt8}
    (hpre : r.bytes <+: stream) (hpre' : r'.bytes <+: stream) :
    r.bytes = r'.bytes ∧ r.lines = r'.lines := by
  obtain ⟨i, hblank, hbytes, hlines⟩ := r.foundAt hpre
  obtain ⟨i', hblank', hbytes', hlines'⟩ := r'.foundAt hpre'
  obtain rfl := Option.some.inj (hblank.symm.trans hblank')
  exact ⟨hbytes.trans hbytes'.symm, hlines.trans hlines'.symm⟩

/-- A stream that begins with an acceptable request, and what its key field has. -/
structure Asks (stream : List UInt8) (value : List UInt8) : Prop where
  request : ∃ r : UpgradeRequest, r.bytes <+: stream ∧ r.IsAcceptable ∧
    Http.field? "Sec-WebSocket-Key" r.lines = some value

/-- The key of the request that a stream begins with. -/
theorem Asks.key_eq {stream value key : List UInt8} (h : Asks stream value) {r : UpgradeRequest}
    (hpre : r.bytes <+: stream) (hkey : r.key? = some key) (hlength : key.length ≤ 255) :
    hashedKey value = key := by
  obtain ⟨r', hpre', -, hvalue⟩ := h.request
  rw [UpgradeRequest.key?, (r.unique hpre hpre').2, hvalue] at hkey
  obtain rfl := Option.some.inj hkey
  exact hashedKey_eq hlength

/-- What a handshake that returns has sent: nothing when the request is not acceptable, and else the
    response, as far as it could be sent. -/
theorem Handshake.outcome_cases (h : Handshake) {dterr : Option Dterr}
    (hret : h.outcome.ret = some dterr) :
    ((¬∃ r : UpgradeRequest, r.bytes <+: streamOf h.timeoutMs h.events ∧ r.IsAcceptable) ∧
      h.outcome.bytes = [] ∧ dterr ≠ none) ∨
    ∃ value, Asks (streamOf h.timeoutMs h.events) value ∧
      h.outcome.bytes <+: response (acceptValue (hashedKey value)) ∧
      (dterr = none → h.outcome.bytes = response (acceptValue (hashedKey value))) := by
  unfold Handshake.outcome at hret ⊢
  cases hfind : strstr ((streamOf h.timeoutMs h.events).take 8191) blankLine with
  | none =>
      obtain ⟨err, hfailed⟩ := handshake_none hfind h.ctx h.sends
      rw [hfailed] at hret ⊢
      obtain rfl := Option.some.inj hret
      refine .inl ⟨?_, rfl, Option.some_ne_none err⟩
      rintro ⟨r, hpre, -⟩
      obtain ⟨i, hblank, -, -⟩ := r.foundAt hpre
      rw [hfind] at hblank
      cases hblank
  | some i =>
      obtain ⟨r, hpre, -⟩ := exists_request hfind
      rcases handshake_cases r hpre h.ctx h.sends with ⟨value, hacc, hvalue, hsent⟩ | ⟨hnot, err, hfailed⟩
      · rw [hsent] at hret ⊢
        obtain ⟨hsofar, hall⟩ := sendLoop_spec (response (acceptValue (hashedKey value))) h.sends
        refine .inr ⟨value, ⟨r, hpre, hacc, hvalue⟩, hsofar, ?_⟩
        rintro rfl
        exact hall hret
      · rw [hfailed] at hret ⊢
        obtain rfl := Option.some.inj hret
        refine .inl ⟨?_, rfl, Option.some_ne_none err⟩
        rintro ⟨r', hpre', hacc'⟩
        obtain ⟨hbytes, hlines⟩ := r.unique hpre hpre'
        exact hnot (by rw [UpgradeRequest.IsAcceptable, hbytes, hlines]; exact hacc')

/-! ## The descriptor of a client -/

theorem length_kinds_closeIfOpen {κ : Type*} (fds : DescriptorTable κ) (fd : ℤ) :
    (fds.closeIfOpen fd).kinds.length = fds.kinds.length := by
  unfold DescriptorTable.closeIfOpen
  split <;> rfl

theorem length_kinds_create {κ : Type*} (fds : DescriptorTable κ) (kind : κ) :
    (fds.create kind).1.kinds.length = fds.kinds.length + 1 := List.length_append

theorem length_kinds_le_create {κ : Type*} (fds : DescriptorTable κ) (kind : κ) :
    fds.kinds.length ≤ (fds.create kind).1.kinds.length := by
  rw [length_kinds_create]
  exact Nat.le_succ _

theorem length_kinds_bindFirst (fds : DescriptorTable SocketKind) (addresses : List BindCalls) :
    fds.kinds.length ≤ (bindFirst fds addresses).1.kinds.length := by
  induction addresses generalizing fds with
  | nil => exact Nat.le_refl _
  | cons rp rps ih =>
      have hcreate := length_kinds_le_create fds SocketKind.fresh
      rw [bindFirst]
      split
      · exact ih fds
      · dsimp only
        split
        · exact hcreate
        · split
          · exact hcreate
          · refine Nat.le_trans ?_ (ih _)
            rw [length_kinds_closeIfOpen]
            exact hcreate

/-- The client's descriptor is a new one. -/
def NewClient (fds fds' : DescriptorTable SocketKind) (clientFd : ℤ) : Prop :=
  (fds.kinds.length : ℤ) ≤ clientFd ∧ clientFd < fds'.kinds.length

theorem acceptClient_new (cfg : Config) (fds : DescriptorTable SocketKind) (calls : AttachCalls) :
    fds.kinds.length ≤ (acceptClient cfg fds calls).1.kinds.length ∧
      ((acceptClient cfg fds calls).2.2 = none →
        NewClient fds (acceptClient cfg fds calls).1 (acceptClient cfg fds calls).2.1) := by
  unfold acceptClient
  cases calls.accept with
  | some err => exact ⟨Nat.le_refl _, fun h => by cases h⟩
  | none =>
      refine ⟨length_kinds_le_create fds SocketKind.connected, fun _ => ⟨Int.le_refl _, ?_⟩⟩
      show (fds.kinds.length : ℤ) < (fds.create SocketKind.connected).1.kinds.length
      rw [length_kinds_create]
      omega

theorem bindListenAccept_new_client (self : Websocket) (fds : DescriptorTable SocketKind)
    (calls : AttachCalls) :
    fds.kinds.length ≤ (bindListenAccept self fds calls).1.kinds.length ∧
      ∀ listenFd clientFd, (bindListenAccept self fds calls).2 = .ok (listenFd, clientFd) →
        NewClient fds (bindListenAccept self fds calls).1 clientFd := by
  have hrefused : ∀ {fds' : DescriptorTable SocketKind} {err : Dterr}, ∀ listenFd clientFd,
      (Except.error err : Except Dterr (ℤ × ℤ)) = .ok (listenFd, clientFd) →
        NewClient fds fds' clientFd := fun _ _ h => by cases h
  unfold bindListenAccept
  dsimp only
  split
  · exact ⟨Nat.le_refl _, hrefused⟩
  · split
    · have hclient := acceptClient_new self.config fds calls
      split
      · next heq =>
          rw [heq] at hclient
          refine ⟨?_, hrefused⟩
          rw [length_kinds_closeIfOpen]
          exact hclient.1
      · next heq =>
          rw [heq] at hclient
          refine ⟨hclient.1, fun listenFd clientFd h => ?_⟩
          obtain ⟨-, rfl⟩ := Prod.mk.inj (Except.ok.inj h)
          exact hclient.2 rfl
    · split
      · exact ⟨Nat.le_refl _, hrefused⟩
      · have hbind := length_kinds_bindFirst fds calls.addresses
        split
        · next heq =>
            rw [heq] at hbind
            refine ⟨?_, hrefused⟩
            rw [length_kinds_closeIfOpen]
            exact hbind
        · next fds' listenFd heq =>
            rw [heq] at hbind
            split
            · exact ⟨hbind, hrefused⟩
            · split
              · refine ⟨?_, hrefused⟩
                rw [length_kinds_closeIfOpen]
                exact hbind
              · have hlisten : (fds'.become listenFd .listening).kinds.length = fds'.kinds.length :=
                  List.length_set
                have hclient := acceptClient_new self.config (fds'.become listenFd .listening) calls
                split
                · next heq =>
                    rw [heq] at hclient
                    refine ⟨?_, hrefused⟩
                    rw [length_kinds_closeIfOpen, length_kinds_closeIfOpen]
                    have hle := hclient.1
                    dsimp only at hbind hle
                    omega
                · next heq =>
                    rw [heq] at hclient
                    have hle := hclient.1
                    dsimp only at hbind hle ⊢
                    refine ⟨by omega, fun listenFd clientFd h => ?_⟩
                    obtain ⟨-, rfl⟩ := Prod.mk.inj (Except.ok.inj h)
                    obtain ⟨hnew, hlt⟩ := hclient.2 rfl
                    refine ⟨?_, hlt⟩
                    dsimp only at hnew
                    omega

/-! ## Attach -/

/-- What an attach that accepts a client does: the bytes of the handshake are sent on a new
    descriptor, which becomes that of the object if the handshake succeeds. -/
structure Accepts (w w' : World) (calls : AttachCalls) (fd : ℤ) : Prop where
  new : NewClient w.fds w'.fds fd
  wire : w'.wire = (w.send fd calls.handshakeSent).wire
  self : calls.handshake = none ∧ w'.self.clientFd = fd ∧ w'.self.isConnected = true ∨
    calls.handshake ≠ none ∧ w'.self = w.self ∧ w.self.clientFd < 0

theorem attach_accepts (w : World) (calls : AttachCalls) :
    match acceptedFd w calls with
    | none => (attach w calls).1.self = w.self ∧ (attach w calls).1.wire = w.wire ∧
        w.fds.kinds.length ≤ (attach w calls).1.fds.kinds.length
    | some fd => Accepts w (attach w calls).1 calls fd := by
  unfold acceptedFd attach
  by_cases hclient : w.self.clientFd ≥ 0
  · rw [if_pos hclient, if_pos hclient]
    exact ⟨rfl, rfl, Nat.le_refl _⟩
  · rw [if_neg hclient, if_neg hclient]
    obtain ⟨hle, hnew⟩ := bindListenAccept_new_client w.self w.fds calls
    generalize bindListenAccept w.self w.fds calls = bound at hle hnew
    obtain ⟨fds, result⟩ := bound
    cases result with
    | error err => exact ⟨rfl, rfl, hle⟩
    | ok opened =>
        obtain ⟨listenFd, clientFd⟩ := opened
        have hfd := hnew listenFd clientFd rfl
        dsimp only
        cases hshake : calls.handshake with
        | none => exact ⟨hfd, rfl, .inl ⟨hshake, rfl, rfl⟩⟩
        | some err =>
            refine ⟨?_, rfl, .inr ⟨by rw [hshake]; exact Option.some_ne_none err, rfl,
              Int.not_le.1 hclient⟩⟩
            unfold NewClient at hfd ⊢
            dsimp only
            rw [length_kinds_closeIfOpen, length_kinds_closeIfOpen]
            exact hfd

/-! ## Write -/

theorem step_write_self {w w' : World} {c : WriteCall} (h : step w c.event = some w') :
    w'.fds.kinds.length = w.fds.kinds.length ∧
      (w'.self = w.self ∨ w'.self = { w.self with isConnected := false, clientFd := -1 }) := by
  unfold step WriteCall.event at h
  split at h
  · cases h
  · obtain ⟨⟨w₁, err, outWritten⟩, hwrite, rfl⟩ := Option.map_eq_some_iff.1 h
    unfold write at hwrite
    split at hwrite
    · obtain ⟨rfl, -⟩ := Prod.mk.inj (Option.some.inj hwrite)
      exact ⟨rfl, .inl rfl⟩
    · split at hwrite
      · obtain ⟨rfl, -⟩ := Prod.mk.inj (Option.some.inj hwrite)
        exact ⟨rfl, .inl rfl⟩
      · obtain ⟨⟨w₂, err₂, out₂⟩, hframe, heq⟩ := Option.map_eq_some_iff.1 hwrite
        obtain ⟨hself, hfds, -⟩ := writeFrame_self hframe
        obtain ⟨rfl, -⟩ := Prod.mk.inj heq
        cases err₂ with
        | none =>
            dsimp only [writeCleanup]
            exact ⟨by rw [hfds], .inl hself⟩
        | some err =>
            dsimp only [writeCleanup]
            exact ⟨by rw [length_kinds_closeIfOpen, hfds], .inr (by rw [hself])⟩

/-- What a write does: it sends nothing and leaves the object, or it sends its frame, or it sends the
    beginning of it and gives the client up. -/
inductive Writes (w w' : World) (c : WriteCall) (err : Option Dterr) : Prop where
  | nothing (hself : w'.self = w.self) (hwire : w'.wire = w.wire)
      (hfailed : ¬(w.self.writeEnabled = true ∧ err = none))
  | frame (hfd : 0 ≤ w.self.clientFd) (hself : w'.self = w.self)
      (hwire : w'.wire = (w.send w.self.clientFd (encode (binary c.payload))).wire)
      (hsucceeded : w.self.writeEnabled = true ∧ err = none)
  | broken (hfd : 0 ≤ w.self.clientFd) (hself : w'.self.clientFd = -1) (part : List UInt8)
      (hpart : part <+: encode (binary c.payload))
      (hwire : w'.wire = (w.send w.self.clientFd part).wire) (hfailed : err ≠ none)

theorem step_write {w w' : World} (hconnected : 0 ≤ w.self.clientFd → w.self.isConnected = true)
    {c : WriteCall} (h : step w c.event = some w') :
    ∃ err outWritten, w'.writeReturns = w.writeReturns ++ [(err, outWritten)] ∧
      Writes w w' c err := by
  have hself := (step_write_self h).2
  have halive : w.freed = false := by
    unfold step at h
    split at h
    · cases h
    · next hfreed => exact Bool.not_eq_true _ ▸ hfreed
  by_cases henabled : w.self.writeEnabled = true
  · by_cases hfd : 0 ≤ w.self.clientFd
    · have hready : Ready w w.self.clientFd := ⟨halive, rfl, hfd, hconnected hfd, henabled⟩
      obtain ⟨bytes, err, outWritten, hwire, hreturns, hpart, hsent, hbroken⟩ := step_ready hready c h
      refine ⟨err, outWritten, hreturns, ?_⟩
      cases err with
      | none =>
          obtain ⟨rfl, hready'⟩ := hsent rfl
          refine .frame hfd (hself.resolve_right fun heq => ?_) hwire ⟨henabled, rfl⟩
          have hconn := hready'.isConnected
          rw [heq] at hconn
          cases hconn
      | some err =>
          have hconn := (hbroken (Option.some_ne_none err)).isConnected
          refine .broken hfd ?_ bytes hpart hwire (Option.some_ne_none err)
          rcases hself with heq | heq
          · rw [heq, hready.isConnected] at hconn
            cases hconn
          · rw [heq]
    · -- there is no client
      simp only [step, WriteCall.event, write, halive, henabled, Bool.not_true, Bool.false_eq_true,
        if_false, if_pos (Or.inl (Int.not_le.1 hfd)), Option.map_some, Option.some.injEq] at h
      subst h
      exact ⟨_, _, rfl, .nothing rfl rfl fun hsucceeded => Option.some_ne_none _ hsucceeded.2⟩
  · simp only [step, WriteCall.event, write, halive, henabled, Bool.not_false, Bool.false_eq_true,
      if_false, if_true, Option.map_some, Option.some.injEq] at h
    subst h
    exact ⟨_, _, rfl, .nothing rfl rfl fun hsucceeded => henabled hsucceeded.1⟩

/-! ## What is received -/

theorem frames_concat (payloads : List (List UInt8)) (payload : List UInt8) :
    frames (payloads ++ [payload]) = frames payloads ++ encode (binary payload) := by
  have hlast : serverFrames.encodeAll [binary payload] = encode (binary payload) :=
    List.append_nil _
  rw [← hlast, frames, frames, List.map_append]
  exact List.flatMap_append

/-- What the client of a descriptor has received: the beginning of a response, or the response, the
    frames of the payloads, and the beginning of one more. -/
inductive Received (stream bytes : List UInt8) (payloads : List (List UInt8)) : Prop where
  | nothing (hrefused : ¬∃ r : UpgradeRequest, r.bytes <+: stream ∧ r.IsAcceptable)
      (hbytes : bytes = []) (hpayloads : payloads = [])
  | head (value : List UInt8) (hasks : Asks stream value)
      (hbytes : bytes <+: response (acceptValue (hashedKey value))) (hpayloads : payloads = [])
  | frames (value : List UInt8) (hasks : Asks stream value) (part payload : List UInt8)
      (hpart : part <+: encode (binary payload))
      (hbytes : bytes = response (acceptValue (hashedKey value)) ++ frames payloads ++ part)

/-- The same while the connection is up: whole frames. -/
def Open (stream bytes : List UInt8) (payloads : List (List UInt8)) : Prop :=
  ∃ value, Asks stream value ∧ bytes = response (acceptValue (hashedKey value)) ++ frames payloads

theorem Open.received {stream bytes : List UInt8} {payloads : List (List UInt8)}
    (h : Open stream bytes payloads) : Received stream bytes payloads := by
  obtain ⟨value, hasks, hbytes⟩ := h
  exact .frames value hasks [] [] List.nil_prefix (by rw [List.append_nil, hbytes])

theorem Open.sent {stream bytes : List UInt8} {payloads : List (List UInt8)}
    (h : Open stream bytes payloads) (payload : List UInt8) :
    Open stream (bytes ++ encode (binary payload)) (payloads ++ [payload]) := by
  obtain ⟨value, hasks, rfl⟩ := h
  refine ⟨value, hasks, ?_⟩
  rw [frames_concat, List.append_assoc]

/-- **The invariant.** Descriptors that have not been created have nothing, and while the object has a
    client, the connection is up. -/
structure Session.Inv (s : Session) : Prop where
  fresh : ∀ fd, (s.world.fds.kinds.length : ℤ) ≤ fd →
    s.world.wire fd = [] ∧ s.requests fd = [] ∧ s.delivered fd = []
  received : ∀ fd, Received (s.requests fd) (s.world.wire fd) (s.delivered fd)
  wf : ∀ fd, ∀ payload ∈ s.delivered fd, (binary payload).Wf
  current : 0 ≤ s.world.self.clientFd → s.world.self.isConnected = true ∧
    s.world.self.clientFd < s.world.fds.kinds.length ∧
    Open (s.requests s.world.self.clientFd) (s.world.wire s.world.self.clientFd)
      (s.delivered s.world.self.clientFd)

/-- A call that sends nothing and leaves the client, or gives it up. -/
theorem Session.Inv.quiet {s : Session} (h : s.Inv) {world : World} (hwire : world.wire = s.world.wire)
    (hkinds : s.world.fds.kinds.length ≤ world.fds.kinds.length)
    (hclient : world.self.clientFd = s.world.self.clientFd ∧
        world.self.isConnected = s.world.self.isConnected ∨ world.self.clientFd < 0) :
    Session.Inv { s with world := world } := by
  refine ⟨fun fd hfd => ?_, fun fd => ?_, h.wf, fun hnonneg => ?_⟩
  · dsimp only
    rw [hwire]
    exact h.fresh fd (by dsimp only at hfd; omega)
  · dsimp only
    rw [hwire]
    exact h.received fd
  · dsimp only at hnonneg ⊢
    rcases hclient with ⟨hfd, hconn⟩ | hneg
    · rw [hfd] at hnonneg ⊢
      obtain ⟨hconnected, hlt, hopen⟩ := h.current hnonneg
      rw [hconn, hwire]
      exact ⟨hconnected, by omega, hopen⟩
    · omega

/-- An attach that accepts a client. -/
theorem Session.Inv.attached {s : Session} (h : s.Inv) {calls calls' : AttachCalls}
    {handshake : Handshake} (hcalls : calls.shaking handshake = some calls') {world : World} {fd : ℤ}
    (haccepts : Accepts s.world world calls' fd) :
    Session.Inv { s with
      world := world
      requests := Function.update s.requests fd
        (streamOf handshake.timeoutMs handshake.events) } := by
  obtain ⟨dterr, hret, rfl⟩ := Option.map_eq_some_iff.1 hcalls
  obtain ⟨⟨hnew, hlt⟩, hwire, hself⟩ := haccepts
  obtain ⟨hwire₀, -, hdelivered₀⟩ := h.fresh fd hnew
  have hsent : world.wire fd = handshake.outcome.bytes := by
    rw [hwire, World.send_self, hwire₀, List.nil_append]
  have hothers : ∀ fd', fd' ≠ fd → world.wire fd' = s.world.wire fd' := fun fd' hne => by
    rw [hwire, World.send_of_ne _ _ hne]
  have hcases := handshake.outcome_cases hret
  refine ⟨fun fd' hfd' => ?_, fun fd' => ?_, h.wf, fun hnonneg => ?_⟩
  · dsimp only at hfd' ⊢
    have hne : fd' ≠ fd := by omega
    rw [hothers fd' hne, Function.update_of_ne hne]
    exact h.fresh fd' (by omega)
  · dsimp only
    by_cases hfd : fd' = fd
    · rw [hfd, hsent, Function.update_self]
      rcases hcases with ⟨hrefused, hbytes, -⟩ | ⟨value, hasks, hsofar, -⟩
      · exact .nothing hrefused hbytes hdelivered₀
      · exact .head value hasks hsofar hdelivered₀
    · rw [hothers fd' hfd, Function.update_of_ne hfd]
      exact h.received fd'
  · dsimp only at hnonneg ⊢
    rcases hself with ⟨hsucceeded, hfd, hconn⟩ | ⟨-, hsame, hneg⟩
    · rw [hfd, hsent, Function.update_self, hdelivered₀]
      refine ⟨hconn, hlt, ?_⟩
      rcases hcases with ⟨-, -, hfailed⟩ | ⟨value, hasks, -, hall⟩
      · exact absurd hsucceeded hfailed
      · exact ⟨value, hasks, by rw [hall hsucceeded]; exact (List.append_nil _).symm⟩
    · rw [hsame] at hnonneg
      omega

/-- A write. -/
theorem Session.Inv.written {s : Session} (h : s.Inv) {world : World} {c : WriteCall}
    {err : Option Dterr} (hkinds : world.fds.kinds.length = s.world.fds.kinds.length)
    (hwrites : Writes s.world world c err) :
    Session.Inv { s with
      world := world
      delivered := if s.world.self.writeEnabled = true ∧ err = none then
          Function.update s.delivered s.world.self.clientFd
            (s.delivered s.world.self.clientFd ++ [c.payload])
        else s.delivered } := by
  cases hwrites with
  | nothing hself hwire hfailed =>
      rw [if_neg hfailed]
      exact h.quiet hwire (Nat.le_of_eq hkinds.symm) (.inl (by rw [hself]; exact ⟨rfl, rfl⟩))
  | broken hfd hself part hpart hwire hfailed =>
      rw [if_neg fun hsucceeded => hfailed hsucceeded.2]
      obtain ⟨-, hlt, value, hasks, hbytes⟩ := h.current hfd
      have hothers : ∀ fd', fd' ≠ s.world.self.clientFd → world.wire fd' = s.world.wire fd' :=
        fun fd' hne => by rw [hwire, World.send_of_ne _ _ hne]
      refine ⟨fun fd' hfd' => ?_, fun fd' => ?_, h.wf, fun hnonneg => ?_⟩
      · dsimp only at hfd' ⊢
        rw [hothers fd' (by omega)]
        exact h.fresh fd' (by omega)
      · dsimp only
        by_cases hclient : fd' = s.world.self.clientFd
        · rw [hclient, hwire, World.send_self, hbytes]
          exact .frames value hasks part c.payload hpart rfl
        · rw [hothers fd' hclient]
          exact h.received fd'
      · dsimp only at hnonneg
        omega
  | frame hfd hself hwire hsucceeded =>
      rw [if_pos hsucceeded]
      obtain ⟨hconn, hlt, hopen⟩ := h.current hfd
      have hothers : ∀ fd', fd' ≠ s.world.self.clientFd → world.wire fd' = s.world.wire fd' :=
        fun fd' hne => by rw [hwire, World.send_of_ne _ _ hne]
      have hsent := hopen.sent c.payload
      rw [← World.send_self s.world, ← hwire] at hsent
      refine ⟨fun fd' hfd' => ?_, fun fd' => ?_, fun fd' payload hmem => ?_, fun hnonneg => ?_⟩
      · dsimp only at hfd' ⊢
        have hne : fd' ≠ s.world.self.clientFd := by omega
        rw [hothers fd' hne, Function.update_of_ne hne]
        exact h.fresh fd' (by omega)
      · dsimp only
        by_cases hclient : fd' = s.world.self.clientFd
        · rw [hclient, Function.update_self]
          exact hsent.received
        · rw [hothers fd' hclient, Function.update_of_ne hclient]
          exact h.received fd'
      · dsimp only at hmem
        by_cases hclient : fd' = s.world.self.clientFd
        · rw [hclient, Function.update_self] at hmem
          rcases List.mem_append.1 hmem with hmem | hmem
          · exact h.wf _ payload hmem
          · rw [List.mem_singleton.1 hmem]
            exact c.wf_binary
        · rw [Function.update_of_ne hclient] at hmem
          exact h.wf fd' payload hmem
      · dsimp only
        rw [hself, Function.update_self]
        exact ⟨hconn, by omega, hsent⟩

/-- **Step lemma.** -/
theorem sessionStep_inv {s s' : Session} {e : SessionEvent} (h : s.Inv)
    (hstep : sessionStep s e = some s') : s'.Inv := by
  cases e with
  | attach calls handshake =>
      obtain ⟨calls', hcalls, hrest⟩ := Option.bind_eq_some_iff.1 hstep
      obtain ⟨world, hworld, hrest⟩ := Option.bind_eq_some_iff.1 hrest
      have haccepts := attach_accepts s.world calls'
      unfold step at hworld
      split at hworld
      · cases hworld
      · obtain rfl := Option.some.inj hworld
        split at hrest
        · next hnone =>
            rw [hnone] at haccepts
            obtain rfl := Option.some.inj hrest
            obtain ⟨hself, hwire, hkinds⟩ := haccepts
            exact h.quiet hwire hkinds (.inl (by rw [hself]; exact ⟨rfl, rfl⟩))
        · next fd hsome =>
            rw [hsome] at haccepts
            obtain rfl := Option.some.inj hrest
            exact h.attached hcalls haccepts
  | detach =>
      obtain ⟨world, hworld, rfl⟩ := Option.map_eq_some_iff.1 hstep
      unfold step at hworld
      split at hworld
      · cases hworld
      · obtain rfl := Option.some.inj hworld
        refine h.quiet rfl ?_ (.inr (by decide : (-1 : ℤ) < 0))
        rw [detach, length_kinds_closeIfOpen, length_kinds_closeIfOpen]
  | enable enabled =>
      obtain ⟨world, hworld, rfl⟩ := Option.map_eq_some_iff.1 hstep
      unfold step at hworld
      split at hworld
      · cases hworld
      · obtain rfl := Option.some.inj hworld
        exact h.quiet rfl (Nat.le_refl _) (.inl ⟨rfl, rfl⟩)
  | write c =>
      obtain ⟨world, hworld, hrest⟩ := Option.bind_eq_some_iff.1 hstep
      obtain ⟨err, outWritten, hreturns, hwrites⟩ :=
        step_write (fun hfd => (h.current hfd).1) hworld
      have hinv := h.written (step_write_self hworld).1 hwrites
      have hlast : world.writeReturns.getLast?.map Prod.fst = some none ↔ err = none := by
        rw [hreturns, List.getLast?_concat, Option.map_some, Option.some.injEq]
      simp only [hlast] at hrest
      split at hrest
      · next hsucceeded =>
          obtain rfl := Option.some.inj hrest
          rw [if_pos hsucceeded] at hinv
          exact hinv
      · next hfailed =>
          obtain rfl := Option.some.inj hrest
          rw [if_neg hfailed] at hinv
          exact hinv
  | dispose =>
      obtain ⟨world, hworld, rfl⟩ := Option.map_eq_some_iff.1 hstep
      unfold step at hworld
      split at hworld
      · cases hworld
      · obtain rfl := Option.some.inj hworld
        refine h.quiet rfl ?_ (.inr (by decide : (-1 : ℤ) < 0))
        rw [dispose, length_kinds_closeIfOpen, length_kinds_closeIfOpen]

/-- The response opens the connection for a client with this key. -/
theorem opens_response (key : List UInt8) :
    opens (acceptValue key) (Http.statusLine 101 (ascii "Switching Protocols") ::
      responseFields (acceptValue key)) = true := by
  have hupgrade : Http.field? "Upgrade" (responseFields (acceptValue key)) =
      some (ascii "websocket") := by
    rw [Http.field?, responseFields, List.find?_cons_of_pos (by decide)]
    decide
  have hconnection : Http.field? "Connection" (responseFields (acceptValue key)) =
      some (ascii "Upgrade") := by
    rw [Http.field?, responseFields, List.find?_cons_of_neg (by decide),
      List.find?_cons_of_pos (by decide)]
    decide
  rw [opens, Http.parseStatusLine_statusLine, hupgrade, hconnection, field?_responseFields]
  simp only [Option.any_some, Bool.and_eq_true, beq_self_eq_true, and_true]
  exact ⟨by decide +kernel, by decide +kernel⟩

/-- A client reads the frames behind its response. -/
theorem clientReads_frames (key : List UInt8) {payloads : List (List UInt8)}
    (hwf : ∀ payload ∈ payloads, (binary payload).Wf) :
    clientReads (acceptValue key) (response (acceptValue key) ++ frames payloads) =
      some (payloads.map binary) := by
  refine clientReads_append (splitHead_response key) (opens_response key) fun f hf => ?_
  obtain ⟨payload, hmem, rfl⟩ := List.mem_map.1 hf
  exact hwf payload hmem

theorem Session.Inv.sound {s : Session} (h : s.Inv) : s.Sound := by
  constructor
  · intro fd hrefused
    cases h.received fd with
    | nothing _ hbytes hpayloads => exact ⟨hbytes, hpayloads⟩
    | head value hasks =>
        obtain ⟨r, hpre, hacc, -⟩ := hasks.request
        exact absurd ⟨r, hpre, hacc⟩ hrefused
    | frames value hasks =>
        obtain ⟨r, hpre, hacc, -⟩ := hasks.request
        exact absurd ⟨r, hpre, hacc⟩ hrefused
  · intro fd r key hpre hkey hlength
    cases h.received fd with
    | nothing _ hbytes hpayloads =>
        rw [hbytes]
        exact .inl ⟨hpayloads, List.nil_prefix⟩
    | head value hasks hbytes hpayloads =>
        rw [hasks.key_eq hpre hkey hlength] at hbytes
        exact .inl ⟨hpayloads, hbytes⟩
    | frames value hasks part payload hpart hbytes =>
        rw [hasks.key_eq hpre hkey hlength] at hbytes
        exact .inr ⟨_, part, payload, hbytes, clientReads_frames key (h.wf fd), hpart⟩
  · intro hnonneg
    obtain ⟨-, -, value, hasks, hbytes⟩ := h.current hnonneg
    obtain ⟨r, hpre, hacc, hvalue⟩ := hasks.request
    refine ⟨r, hpre, hacc, fun key hkey hlength => ?_⟩
    rw [hbytes, hasks.key_eq hpre hkey hlength]
    exact clientReads_frames key (h.wf _)

theorem configured_inv (cfg : Config) : (Session.configured cfg).Inv := by
  have hclient : (configure init cfg).1.clientFd = -1 := by
    unfold configure
    split <;> rfl
  refine ⟨fun fd _ => ⟨rfl, rfl, rfl⟩, fun fd => .nothing ?_ rfl rfl, fun fd payload hmem => ?_,
    fun hnonneg => ?_⟩
  · rintro ⟨r, hpre, hacc⟩
    have hget := hacc.get.trans hpre
    exact absurd (List.prefix_nil.1 hget) (by decide)
  · cases hmem
  · change 0 ≤ (configure init cfg).1.clientFd at hnonneg
    rw [hclient] at hnonneg
    exact absurd hnonneg (by decide)

/-- **What the clients receive, over every run** of attaches with any handshakes, writes with any
    results, and the other calls. -/
theorem session_delivers (cfg : Config) (events : List SessionEvent) :
    Run.AllStates sessionStep Session.Sound (.configured cfg) events :=
  (Run.allStates_of_invariant (fun _ _ _ h hstep => sessionStep_inv h hstep) events _
    (configured_inv cfg)).imp fun _ h => h.sound

end DtioxLinuxWebsocket
