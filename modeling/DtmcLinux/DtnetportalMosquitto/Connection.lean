import DtmcLinux.DtnetportalMosquitto.Basic

set_option autoImplicit false

/-! # Waiting for the connection

`wait_for_connected` and `on_connect` of `dtnetportal_mosquitto.c`. A waiter tests `connected` under
`conn_mutex` and sleeps on `conn_cv` until its deadline; `on_connect` writes `connected`, wakes the
waiters, and unlocks `conn_mutex`, which it has not locked. Each operation on the mutex, test, wait
and write is a step. An unlock frees the mutex, whoever holds it. -/

namespace MosquittoConnection

open Posix DtnetportalMosquitto

/-- Where a thread is in `wait_for_connected`. -/
inductive Waiter where
  | idle
  | locking
  /-- about to test `connected` before the deadline is computed -/
  | testing
  /-- about to test the condition of the loop -/
  | looping
  /-- has found `connected` clear, about to call `pthread_cond_timedwait` -/
  | calling
  /-- asleep; `signalled` tells whether a broadcast came before the deadline -/
  | waiting (signalled : Bool)
  /-- in `pthread_cond_timedwait`, about to lock the mutex again -/
  | relocking (tw : Rc)
  /-- about to test `connected` after the loop -/
  | finishing (rc : Rc)
  | unlocking (rc : Rc)
  deriving DecidableEq

/-- The thread has locked the mutex and not unlocked it. -/
def Waiter.holds : Waiter → Bool
  | .testing | .looping | .calling | .finishing _ | .unlocking _ => true
  | .idle | .locking | .waiting _ | .relocking _ => false

/-- The deadline has been computed. -/
def Waiter.hasDeadline : Waiter → Bool
  | .looping | .calling | .waiting _ | .relocking _ | .finishing _ | .unlocking _ => true
  | .idle | .locking | .testing => false

/-- The waiter has found `connected` clear, and tests it no more before it sleeps or returns. -/
def Waiter.committed : Waiter → Bool
  | .calling => true
  | .unlocking rc => rc = ENOTCONN
  | .idle | .locking | .testing | .looping | .waiting _ | .relocking _ | .finishing _ => false

/-- Where the library's thread is in `on_connect`. -/
inductive Library where
  | idle
  | broadcasting
  | unlocking
  deriving DecidableEq

/-- The flag, the mutex, the waiters and the library's thread. `expired` tells of each waiter whether
    its deadline has passed, `inTime` whether `on_connect` set `connected` before that and nothing
    has cleared it since. `foreignUnlocks` counts the unlocks by a thread that did not hold the
    mutex, `returned` records the calls that have returned, with their `inTime`. -/
structure State (τ : Type*) where
  connected : Bool
  owner : Option τ
  waiters : τ → Waiter
  library : Library
  expired : τ → Bool
  inTime : τ → Bool
  foreignUnlocks : ℕ
  returned : List (Rc × Bool)

/-- Not connected, nobody waits. -/
def State.initial {τ : Type*} : State τ where
  connected := false
  owner := none
  waiters := fun _ => .idle
  library := .idle
  expired := fun _ => false
  inTime := fun _ => false
  foreignUnlocks := 0
  returned := []

/-- The events. -/
inductive Event (τ : Type*) where
  /-- thread `t` calls `wait_for_connected` -/
  | call (t : τ)
  | lock (t : τ)
  | test (t : τ)
  | loopTest (t : τ)
  /-- `pthread_cond_timedwait` unlocks the mutex, and the waiter sleeps -/
  | sleep (t : τ)
  /-- the wait ends, with a broadcast or without -/
  | wake (t : τ)
  /-- the wait ends with `ETIMEDOUT` -/
  | timeout (t : τ)
  | relock (t : τ)
  | finish (t : τ)
  | unlock (t : τ)
  /-- the deadline of thread `t` passes -/
  | expire (t : τ)
  /-- `on_connect` writes `connected` -/
  | connect (rc : ℤ)
  | broadcast
  /-- `on_connect` unlocks the mutex -/
  | unlockConnect
  /-- `on_disconnect` -/
  | disconnect

variable {τ : Type*} [DecidableEq τ]

namespace State

/-- Thread `t` is at `pc` from now on. -/
def moves (s : State τ) (t : τ) (pc : Waiter) : State τ :=
  { s with waiters := Function.update s.waiters t pc }

/-- `pthread_mutex_unlock` by `who`, where `none` is the library's thread. -/
def unlocks (s : State τ) (who : Option τ) : State τ :=
  { s with
    owner := none
    foreignUnlocks := s.foreignUnlocks + if who.isSome && s.owner = who then 0 else 1 }

end State

/-- One step. -/
def step (s : State τ) : Event τ → Option (State τ)
  | .call t =>
    if s.waiters t = .idle then
      some { s.moves t .locking with
        expired := Function.update s.expired t false
        inTime := Function.update s.inTime t s.connected }
    else none
  | .lock t =>
    if s.waiters t = .locking ∧ s.owner = none then
      some { s.moves t .testing with owner := some t }
    else none
  | .test t =>
    if s.waiters t = .testing then
      some (s.moves t (if s.connected then .finishing 0 else .looping))
    else none
  | .loopTest t =>
    if s.waiters t = .looping then
      some (s.moves t (if s.connected then .finishing 0 else .calling))
    else none
  | .sleep t =>
    if s.waiters t = .calling then some ((s.unlocks (some t)).moves t (.waiting false)) else none
  | .wake t =>
    match s.waiters t with
    | .waiting _ => some (s.moves t (.relocking 0))
    | _ => none
  | .timeout t =>
    if s.waiters t = .waiting false ∧ s.expired t = true then
      some (s.moves t (.relocking ETIMEDOUT))
    else none
  | .relock t =>
    match s.waiters t with
    | .relocking tw =>
      if s.owner = none then
        some { s.moves t (if tw = ETIMEDOUT then .finishing ETIMEDOUT else .looping) with
          owner := some t }
      else none
    | _ => none
  | .finish t =>
    match s.waiters t with
    | .finishing rc =>
      some (s.moves t (.unlocking (if !s.connected ∧ rc = 0 then ENOTCONN else rc)))
    | _ => none
  | .unlock t =>
    match s.waiters t with
    | .unlocking rc =>
      some { (s.unlocks (some t)).moves t .idle with
        returned := (rc, s.inTime t) :: s.returned }
    | _ => none
  | .expire t =>
    if (s.waiters t).hasDeadline ∧ s.expired t = false then
      some { s with expired := Function.update s.expired t true }
    else none
  | .connect rc =>
    if s.library = .idle then
      some { s with
        connected := rc = 0
        library := .broadcasting
        inTime := fun t => rc = 0 && (s.inTime t || !s.expired t) }
    else none
  | .broadcast =>
    if s.library = .broadcasting then
      some { s with
        library := .unlocking
        waiters := fun t => match s.waiters t with
          | .waiting signalled => .waiting (signalled || !s.expired t)
          | pc => pc }
    else none
  | .unlockConnect =>
    if s.library = .unlocking then some { s.unlocks none with library := .idle } else none
  | .disconnect =>
    if s.library = .idle then some { s with connected := false, inTime := fun _ => false }
    else none

/-! ## What a step does -/

/-- The thread an event belongs to, if it is a waiter's. -/
def Event.thread : Event τ → Option τ
  | .call t | .lock t | .test t | .loopTest t | .sleep t | .wake t | .timeout t | .relock t
  | .finish t | .unlock t => some t
  | .expire _ | .connect _ | .broadcast | .unlockConnect | .disconnect => none

/-- What a step does. -/
inductive Effect (s : State τ) : Event τ → State τ → Prop
  | called (t : τ) (ht : s.waiters t = .idle) : Effect s (.call t)
      { s.moves t .locking with
        expired := Function.update s.expired t false
        inTime := Function.update s.inTime t s.connected }
  | locked (t : τ) (ht : s.waiters t = .locking) (howner : s.owner = none) :
      Effect s (.lock t) { s.moves t .testing with owner := some t }
  | found (e : Event τ) (t : τ) (he : e.thread = some t)
      (ht : s.waiters t = .testing ∨ s.waiters t = .looping) (hconnected : s.connected = true) :
      Effect s e (s.moves t (.finishing 0))
  | computed (t : τ) (ht : s.waiters t = .testing) (hconnected : s.connected = false) :
      Effect s (.test t) (s.moves t .looping)
  | committed (t : τ) (ht : s.waiters t = .looping) (hconnected : s.connected = false) :
      Effect s (.loopTest t) (s.moves t .calling)
  | slept (t : τ) (ht : s.waiters t = .calling) :
      Effect s (.sleep t) ((s.unlocks (some t)).moves t (.waiting false))
  | woke (t : τ) (signalled : Bool) (ht : s.waiters t = .waiting signalled) :
      Effect s (.wake t) (s.moves t (.relocking 0))
  | timedOut (t : τ) (ht : s.waiters t = .waiting false) (hexpired : s.expired t = true) :
      Effect s (.timeout t) (s.moves t (.relocking ETIMEDOUT))
  | relocked (t : τ) (tw : Rc) (ht : s.waiters t = .relocking tw) (howner : s.owner = none) :
      Effect s (.relock t)
        { s.moves t (if tw = ETIMEDOUT then .finishing ETIMEDOUT else .looping) with
          owner := some t }
  | finished (t : τ) (rc : Rc) (ht : s.waiters t = .finishing rc) : Effect s (.finish t)
      (s.moves t (.unlocking (if !s.connected ∧ rc = 0 then ENOTCONN else rc)))
  | returned (t : τ) (rc : Rc) (ht : s.waiters t = .unlocking rc) : Effect s (.unlock t)
      { (s.unlocks (some t)).moves t .idle with returned := (rc, s.inTime t) :: s.returned }
  | expired (t : τ) (hexpired : s.expired t = false) : Effect s (.expire t)
      { s with expired := Function.update s.expired t true }
  | connected (rc : ℤ) (hlibrary : s.library = .idle) : Effect s (.connect rc)
      { s with
        connected := rc = 0
        library := .broadcasting
        inTime := fun t => rc = 0 && (s.inTime t || !s.expired t) }
  | broadcast (hlibrary : s.library = .broadcasting) : Effect s .broadcast
      { s with
        library := .unlocking
        waiters := fun t => match s.waiters t with
          | .waiting signalled => .waiting (signalled || !s.expired t)
          | pc => pc }
  | unlocked (hlibrary : s.library = .unlocking) :
      Effect s .unlockConnect { s.unlocks none with library := .idle }
  | disconnected (hlibrary : s.library = .idle) : Effect s .disconnect
      { s with connected := false, inTime := fun _ => false }

theorem step_effect {s s' : State τ} {e : Event τ} (h : step s e = some s') : Effect s e s' := by
  cases e with
  | call t =>
      obtain ⟨ht, ⟨⟩⟩ := Option.ite_none_right_eq_some.1 h
      exact .called t ht
  | lock t =>
      obtain ⟨⟨ht, howner⟩, ⟨⟩⟩ := Option.ite_none_right_eq_some.1 h
      exact .locked t ht howner
  | test t =>
      obtain ⟨ht, ⟨⟩⟩ := Option.ite_none_right_eq_some.1 h
      cases hconnected : s.connected
      · exact .computed t ht hconnected
      · exact .found _ t rfl (.inl ht) hconnected
  | loopTest t =>
      obtain ⟨ht, ⟨⟩⟩ := Option.ite_none_right_eq_some.1 h
      cases hconnected : s.connected
      · exact .committed t ht hconnected
      · exact .found _ t rfl (.inr ht) hconnected
  | sleep t =>
      obtain ⟨ht, ⟨⟩⟩ := Option.ite_none_right_eq_some.1 h
      exact .slept t ht
  | wake t =>
      simp only [step] at h
      split at h
      · next signalled ht =>
          obtain rfl := Option.some.inj h
          exact .woke t signalled ht
      · cases h
  | timeout t =>
      obtain ⟨⟨ht, hexpired⟩, ⟨⟩⟩ := Option.ite_none_right_eq_some.1 h
      exact .timedOut t ht hexpired
  | relock t =>
      simp only [step] at h
      split at h
      · next tw ht =>
          obtain ⟨howner, ⟨⟩⟩ := Option.ite_none_right_eq_some.1 h
          exact .relocked t tw ht howner
      · cases h
  | finish t =>
      simp only [step] at h
      split at h
      · next rc ht =>
          obtain rfl := Option.some.inj h
          exact .finished t rc ht
      · cases h
  | unlock t =>
      simp only [step] at h
      split at h
      · next rc ht =>
          obtain rfl := Option.some.inj h
          exact .returned t rc ht
      · cases h
  | expire t =>
      obtain ⟨⟨-, hexpired⟩, ⟨⟩⟩ := Option.ite_none_right_eq_some.1 h
      exact .expired t hexpired
  | connect rc =>
      obtain ⟨hlibrary, ⟨⟩⟩ := Option.ite_none_right_eq_some.1 h
      exact .connected rc hlibrary
  | broadcast =>
      obtain ⟨hlibrary, ⟨⟩⟩ := Option.ite_none_right_eq_some.1 h
      exact .broadcast hlibrary
  | unlockConnect =>
      obtain ⟨hlibrary, ⟨⟩⟩ := Option.ite_none_right_eq_some.1 h
      exact .unlocked hlibrary
  | disconnect =>
      obtain ⟨hlibrary, ⟨⟩⟩ := Option.ite_none_right_eq_some.1 h
      exact .disconnected hlibrary

end MosquittoConnection
