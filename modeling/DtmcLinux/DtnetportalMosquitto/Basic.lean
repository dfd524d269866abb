import DtmcLinux.Dtcore.Dterr
import DtmcLinux.Foundation.StepRun
import DtmcLinux.Posix.Pthread
import Mathlib.Algebra.Ring.Int.Defs
import Mathlib.Logic.Function.Basic

set_option autoImplicit false

/-! # The MQTT backend: subscriptions

`dtnetportal_mosquitto.c`. A subscribe call registers its recipient in the manifold; when the topic
got its first recipient and the client is connected, it also sends a SUBSCRIBE to the broker and
waits until `on_subscribe` has seen the SUBACK. One slot, `suback_mid_waiting` with `suback_result`,
serves all calls. `on_connect` sends a SUBSCRIBE for every topic that has recipients and ignores the
answers.

A step is a critical section, a call of libmosquitto or of the manifold, or a callback; the
callbacks run one after another on the library's thread. The state records besides the members of
the object which SUBSCRIBEs were sent on the current connection, what became of them, and what the
calls have returned. -/

namespace DtnetportalMosquitto

open Posix

/-- `EIO` of Linux. -/
def EIO : Rc := 5

/-- `ENOTCONN` of Linux. -/
def ENOTCONN : Rc := 107

/-- The members of `dtnetportal_mosquitto_t` that subscriptions use; the manifold is the list of the
    topics of its recipients. -/
structure Portal where
  recipients : List String
  mqt : Bool
  connected : Bool
  subackMidWaiting : ℤ
  subackResult : ℤ

/-- The object that `dtnetportal_mosquitto_init` leaves. -/
def Portal.initialized : Portal where
  recipients := []
  mqt := false
  connected := false
  subackMidWaiting := -1
  subackResult := -1

namespace Portal

/-- `dtmanifold_subject_recipient_count` -/
def recipientCount (self : Portal) (topic : String) : ℕ := self.recipients.count topic

/-- The condition of the loop in `wait_for_suback`. -/
def stillWaiting (self : Portal) : Bool := self.subackResult = -1 && self.connected

/-- What `wait_for_suback` returns, after a loop that has left `rc`. -/
def subackRc (self : Portal) (rc : Rc) : Rc :=
  if self.subackResult = 0 then 0
  else if 0 < self.subackResult then EIO
  else if !self.connected then ENOTCONN
  else rc

/-- `on_subscribe`, where `ok` tells whether the broker granted every filter. -/
def onSubscribe (self : Portal) (mid : ℤ) (ok : Bool) : Portal :=
  if self.subackMidWaiting = mid then { self with subackResult := if ok then 0 else 1 } else self

end Portal

/-- The test of `granted_qos` in `on_subscribe`: 0x80 (128) indicates failure. -/
def granted (grantedQos : List ℤ) : Bool :=
  !grantedQos.isEmpty && grantedQos.all fun qos => !(qos < 0 || qos = 128)

/-- The error of subscribe for a result of `wait_for_suback`. -/
def subackError (topic : String) (wrc : Rc) : Option Dterr :=
  if wrc = ETIMEDOUT then some (.new .timeout s!"subscribe(\"{topic}\"): SUBACK timed out")
  else if wrc = EIO then
    some (.new .io s!"subscribe(\"{topic}\"): broker refused subscription")
  else if wrc = ENOTCONN then
    some (.new .state s!"subscribe(\"{topic}\"): disconnected while waiting for SUBACK")
  else none

/-- What subscribe returns, after `cleanup:`. -/
def unableToSubscribe (topic : String) (dterr : Option Dterr) : Option Dterr :=
  dterr.map fun dterr => .rechain dterr s!"unable to subscribe to topic \"{topic}\""

/-- A SUBSCRIBE sent on the current connection: the SUBACK, if one has come, and whether the call
    that sent it has given up waiting. -/
structure Subscribe where
  topic : String
  mid : ℤ
  suback : Option Bool
  timedOut : Bool

/-- The SUBSCRIBE has been neither refused nor timed out. -/
def Subscribe.live (r : Subscribe) : Bool := r.suback ≠ some false && !r.timedOut

/-- Where a thread is in subscribe. `suback` is the answer to the SUBSCRIBE of the call, if it came
    before the deadline; `expired` tells whether the deadline has passed. -/
inductive Call where
  | idle
  /-- has registered the recipient -/
  | counting (topic : String)
  /-- about to call `mosquitto_subscribe` -/
  | sending (topic : String)
  /-- about to call `wait_for_suback` -/
  | sent (topic : String) (mid : ℤ) (suback : Option Bool)
  /-- in the wait of `wait_for_suback` -/
  | waiting (topic : String) (mid : ℤ) (suback : Option Bool) (expired : Bool)
  deriving DecidableEq

/-- The SUBACK for `mid` arrives. -/
def Call.hear (mid : ℤ) (ok : Bool) : Call → Call
  | .sent topic m suback => .sent topic m (if m = mid then some ok else suback)
  | .waiting topic m suback expired =>
    .waiting topic m (if m = mid ∧ expired = false then some ok else suback) expired
  | call => call

/-- A call that has returned: the answer that came in time, and whether at that moment the client
    was connected and a live SUBSCRIBE for the topic had been sent on the connection. -/
structure Return where
  topic : String
  dterr : Option Dterr
  suback : Option Bool
  connected : Bool
  live : Bool
  deriving DecidableEq

/-- The object, the threads that call subscribe, and the topics that `on_connect` has yet to
    subscribe again. `awaited` are the message ids of the calls in progress. -/
structure State (τ : Type*) where
  self : Portal
  calls : τ → Call
  resubscribing : List String
  subscribes : List Subscribe
  awaited : List ℤ
  returned : List Return

/-- The object has been initialized. -/
def State.initial {τ : Type*} : State τ where
  self := .initialized
  calls := fun _ => .idle
  resubscribing := []
  subscribes := []
  awaited := []
  returned := []

/-- The events. -/
inductive Event (τ : Type*) where
  /-- activate has created the client -/
  | activate
  /-- `on_connect` up to its loop -/
  | connect (rc : ℤ)
  /-- one call of `resubscribe_iter`; the message id if the SUBSCRIBE was sent -/
  | resubscribe (sent : Option ℤ)
  /-- `on_disconnect` -/
  | disconnect
  /-- `on_subscribe` -/
  | suback (mid : ℤ) (grantedQos : List ℤ)
  /-- thread `t` calls subscribe, which calls `dtmanifold_subscribe` -/
  | subscribe (t : τ) (topic : String) (dterr : Option Dterr)
  /-- `dtmanifold_subject_recipient_count` and the test of its result -/
  | count (t : τ) (dterr : Option Dterr)
  /-- `mosquitto_subscribe`: the text of its error, or the message id -/
  | send (t : τ) (sent : Except String ℤ)
  /-- the first critical section of `wait_for_suback` -/
  | publishMid (t : τ)
  /-- the deadline of the wait passes -/
  | expire (t : τ)
  /-- `pthread_cond_timedwait` returns -/
  | wake (t : τ) (tw : Rc)

variable {τ : Type*}

namespace State

/-- A live SUBSCRIBE for the topic has been sent on the current connection. -/
def live (s : State τ) (topic : String) : Bool :=
  s.subscribes.any fun r => r.topic = topic && r.live

/-- The message id is not that of a SUBSCRIBE in progress. -/
def fresh (s : State τ) (mid : ℤ) : Bool :=
  0 < mid && !s.awaited.contains mid &&
    s.subscribes.all fun r => r.mid ≠ mid || r.suback.isSome

/-- A SUBSCRIBE is sent. -/
def sendSubscribe (s : State τ) (topic : String) (mid : ℤ) : State τ :=
  { s with
    subscribes :=
      { topic := topic, mid := mid, suback := none, timedOut := false } :: s.subscribes }

variable [DecidableEq τ]

/-- The call of thread `t` is at `call` from now on. -/
def setCall (s : State τ) (t : τ) (call : Call) : State τ :=
  { s with calls := Function.update s.calls t call }

/-- The call of thread `t` returns. -/
def returns (s : State τ) (t : τ) (topic : String) (suback : Option Bool)
    (dterr : Option Dterr) : State τ :=
  { s.setCall t .idle with
    returned :=
      { topic := topic
        dterr := unableToSubscribe topic dterr
        suback := suback
        connected := s.self.connected
        live := s.live topic } :: s.returned }

/-- The part of `wait_for_suback` after its loop, and the rest of subscribe. -/
def endWait (s : State τ) (t : τ) (topic : String) (mid : ℤ) (suback : Option Bool) (rc : Rc) :
    State τ :=
  let wrc := s.self.subackRc rc
  let subscribes :=
    if wrc = ETIMEDOUT then
      s.subscribes.map fun r => if r.mid = mid then { r with timedOut := true } else r
    else s.subscribes
  { s with
    self := { s.self with subackMidWaiting := -1 }
    subscribes := subscribes
    awaited := s.awaited.erase mid }.returns t topic suback (subackError topic wrc)

end State

variable [DecidableEq τ]

/-- One step. -/
def step (s : State τ) : Event τ → Option (State τ)
  | .activate => some { s with self := { s.self with mqt := true } }
  | .connect rc =>
    if s.self.mqt ∧ s.resubscribing = [] then
      if rc = 0 then
        some { s with
          self := { s.self with connected := true }
          resubscribing := s.self.recipients.dedup
          subscribes := [] }
      else some { s with self := { s.self with connected := false } }
    else none
  | .resubscribe sent =>
    match s.resubscribing with
    | [] => none
    | topic :: rest =>
      match sent with
      | none => some { s with resubscribing := rest }
      | some mid =>
        if s.fresh mid then some ({ s with resubscribing := rest }.sendSubscribe topic mid)
        else none
  | .disconnect =>
    if s.resubscribing = [] then some { s with self := { s.self with connected := false } }
    else none
  | .suback mid grantedQos =>
    if s.resubscribing = [] ∧ s.self.connected ∧
        (s.subscribes.any fun r => r.mid = mid && r.suback.isNone) then
      let ok := granted grantedQos
      some { s with
        self := s.self.onSubscribe mid ok
        calls := fun t => (s.calls t).hear mid ok
        subscribes := s.subscribes.map fun r =>
          if r.mid = mid ∧ r.suback = none then { r with suback := some ok } else r }
    else none
  | .subscribe t topic dterr =>
    match s.calls t with
    | .idle =>
      match dterr with
      | some dterr => some (s.returns t topic none (some dterr))
      | none =>
        let self := { s.self with recipients := topic :: s.self.recipients }
        some ({ s with self := self }.setCall t (.counting topic))
    | _ => none
  | .count t dterr =>
    match s.calls t with
    | .counting topic =>
      match dterr with
      | some dterr => some (s.returns t topic none (some dterr))
      | none =>
        if s.self.recipientCount topic = 1 ∧ s.self.mqt ∧ s.self.connected then
          some (s.setCall t (.sending topic))
        else some (s.returns t topic none none)
    | _ => none
  | .send t sent =>
    match s.calls t with
    | .sending topic =>
      match sent with
      | .error text =>
        some (s.returns t topic none (some (.new .io s!"mosquitto_subscribe(\"{topic}\"): {text}")))
      | .ok mid =>
        if s.fresh mid then
          some ({ s.sendSubscribe topic mid with awaited := mid :: s.awaited }.setCall t
            (.sent topic mid none))
        else none
    | _ => none
  | .publishMid t =>
    match s.calls t with
    | .sent topic mid suback =>
      let s := { s with self := { s.self with subackMidWaiting := mid, subackResult := -1 } }
      if s.self.stillWaiting then some (s.setCall t (.waiting topic mid suback false))
      else some (s.endWait t topic mid suback 0)
    | _ => none
  | .expire t =>
    match s.calls t with
    | .waiting topic mid suback _ => some (s.setCall t (.waiting topic mid suback true))
    | _ => none
  | .wake t tw =>
    match s.calls t with
    | .waiting topic mid suback expired =>
      if tw = ETIMEDOUT then
        if expired then some (s.endWait t topic mid suback ETIMEDOUT) else none
      else if s.self.stillWaiting then some s
      else some (s.endWait t topic mid suback 0)
    | _ => none

end DtnetportalMosquitto
