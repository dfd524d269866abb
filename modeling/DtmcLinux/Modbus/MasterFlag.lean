import DtmcLinux.Foundation.StepRun
import DtmcLinux.Modbus.Master

set_option autoImplicit false

/-! # The connection flag of the Modbus masters

`_is_connected` is meant to say that the current context is connected. Attach replaces the context
and detach closes it, and neither touches the flag: a run keeps the meaning of the flag exactly when
every attach and every detach that gets the lock finds the flag `false`. -/

namespace ModbusMaster

variable {τ Cfg F : Type*}

/-- The meaning of `_is_connected`: `modbus_connect` succeeded on the current context, and
    `modbus_close` was not called on it since. -/
def FlagMeansConnected (w : World τ Cfg F) : Prop :=
  w.self.isConnected = true → ∃ mb, w.self.mb = some mb ∧ w.contexts.connected mb = true

/-- What the flag, the context and the connections of two worlds have in common. -/
structure SameConnection (w w' : World τ Cfg F) : Prop where
  isConnected : w'.self.isConnected = w.self.isConnected
  mb : w'.self.mb = w.self.mb
  contexts : w'.contexts = w.contexts

theorem SameConnection.refl (w : World τ Cfg F) : SameConnection w w := ⟨rfl, rfl, rfl⟩

theorem SameConnection.flag_iff {w w' : World τ Cfg F} (h : SameConnection w w') :
    FlagMeansConnected w' ↔ FlagMeansConnected w := by
  unfold FlagMeansConnected
  rw [h.isConnected, h.mb, h.contexts]

/-! ## The bodies under the lock -/

theorem ensureConnected_flag {w : World τ Cfg F} (connect : LibResult)
    (h : FlagMeansConnected w) : FlagMeansConnected (ensureConnected w connect).1 := by
  unfold ensureConnected
  split
  · exact h
  · split
    · exact fun hfalse => absurd hfalse (by simp)
    · next mb hmb =>
        split
        · exact fun hfalse => absurd hfalse (by simp)
        · next hrc => exact fun _ => ⟨mb, hmb, Contexts.connected_connect hrc⟩

/-- Without an error, the object is connected afterwards. -/
theorem ensureConnected_ok {w w' : World τ Cfg F} {connect : LibResult}
    (h : ensureConnected w connect = (w', none)) :
    w'.self.isConnected = true ∧ w'.self.mb = w.self.mb := by
  unfold ensureConnected at h
  split at h
  · next hflag =>
      obtain ⟨rfl, -⟩ := Prod.mk.inj h
      exact ⟨hflag, rfl⟩
  · split at h
    · exact absurd (Prod.mk.inj h).2 (by simp)
    · split at h
      · exact absurd (Prod.mk.inj h).2 (by simp)
      · obtain ⟨rfl, -⟩ := Prod.mk.inj h
        exact ⟨rfl, rfl⟩

theorem closeContext_self (w : World τ Cfg F) : (closeContext w).self = w.self := by
  unfold closeContext
  split <;> rfl

theorem ensureDisconnected_flag (w : World τ Cfg F) :
    FlagMeansConnected (ensureDisconnected w) := fun h => absurd h (by simp [ensureDisconnected])

theorem not_connected_closeContext {w : World τ Cfg F} {mb : ℕ} (h : w.self.mb = some mb) :
    (closeContext w).contexts.connected mb = false := by
  unfold closeContext
  rw [h]
  exact Contexts.connected_close w.contexts mb

/-- Detach keeps the flag, and the context it closes is not connected any more: afterwards the flag
    is right exactly when it was `false`. -/
theorem detachBody_flag_iff (w : World τ Cfg F) :
    FlagMeansConnected (detachBody w).1 ↔ w.self.isConnected = false := by
  have hself : (detachBody w).1.self
      = { w.self with stopRequested := true, enabled := false } := closeContext_self _
  unfold FlagMeansConnected
  rw [hself]
  constructor
  · intro h
    by_contra htrue
    rw [Bool.not_eq_false] at htrue
    obtain ⟨mb, hmb, hconn⟩ := h htrue
    have hclosed : (detachBody w).1.contexts.connected mb = false :=
      not_connected_closeContext hmb
    rw [hclosed] at hconn
    exact absurd hconn (by simp)
  · intro hfalse htrue
    exact absurd (hfalse.symm.trans htrue) (by simp)

/-- With the flag set, a context that is not connected contradicts it. -/
theorem not_flagMeansConnected {w : World τ Cfg F} {mb : ℕ} (hflag : w.self.isConnected = true)
    (hmb : w.self.mb = some mb) (hconn : w.contexts.connected mb = false) :
    ¬FlagMeansConnected w := by
  intro h
  obtain ⟨mb', hmb', hconn'⟩ := h hflag
  rw [hmb, Option.some.injEq] at hmb'
  rw [← hmb', hconn] at hconn'
  exact absurd hconn' (by simp)

theorem ensureConnected_of_flag {w : World τ Cfg F} (connect : LibResult)
    (h : w.self.isConnected = true) : ensureConnected w connect = (w, none) := by
  rw [ensureConnected, if_pos h]

/-- With the flag set, attach leaves it set and does not connect the context it installs. -/
theorem attachBody_of_flag (newFailed : String) (created : Bool) (setup : List LibResult)
    (connect : LibResult) (taskerStart : Option Dterr) {w : World τ Cfg F}
    (h : w.self.isConnected = true) :
    ¬FlagMeansConnected (attachBody newFailed created setup connect taskerStart w).1 := by
  have hnew : w.contexts.new.1.connected w.contexts.new.2 = false := Contexts.connected_new _
  unfold attachBody
  cases created with
  | false =>
      intro hflag
      obtain ⟨mb, hmb, -⟩ := hflag h
      exact absurd hmb (by simp)
  | true =>
      simp only [Bool.not_true, Bool.false_eq_true, if_false]
      have hreset : (resetFlags (newContext w)).self.isConnected = true := h
      rw [ensureConnected_of_flag connect hreset]
      cases setupError setup with
      | some e => exact not_flagMeansConnected h rfl hnew
      | none =>
          cases taskerStart with
          | some e => exact not_flagMeansConnected h rfl hnew
          | none => exact not_flagMeansConnected h rfl hnew

/-- With the flag clear, attach sets it only when it has connected the context it installs. -/
theorem attachBody_of_not_flag (newFailed : String) (created : Bool) (setup : List LibResult)
    (connect : LibResult) (taskerStart : Option Dterr) {w : World τ Cfg F}
    (h : w.self.isConnected = false) :
    FlagMeansConnected (attachBody newFailed created setup connect taskerStart w).1 := by
  have hclear : ∀ v : World τ Cfg F, v.self.isConnected = false → FlagMeansConnected v :=
    fun v hv htrue => absurd (hv.symm.trans htrue) (by simp)
  have hconn := ensureConnected_flag connect (hclear (resetFlags (newContext w)) h)
  unfold attachBody
  split
  · exact hclear _ h
  · split
    · exact hclear _ h
    · split
      · next heq => rw [heq] at hconn; exact hconn
      · next heq =>
          rw [heq] at hconn
          split <;> exact hconn

theorem attachBody_flag_iff (newFailed : String) (created : Bool) (setup : List LibResult)
    (connect : LibResult) (taskerStart : Option Dterr) (w : World τ Cfg F) :
    FlagMeansConnected (attachBody newFailed created setup connect taskerStart w).1
      ↔ w.self.isConnected = false := by
  constructor
  · intro h
    by_contra htrue
    rw [Bool.not_eq_false] at htrue
    exact attachBody_of_flag newFailed created setup connect taskerStart htrue h
  · exact attachBody_of_not_flag newFailed created setup connect taskerStart

/-- When attach succeeds, its new context is installed and the flag is set. -/
theorem attachBody_ok {newFailed : String} {created : Bool} {setup : List LibResult}
    {connect : LibResult} {taskerStart : Option Dterr} {w w' : World τ Cfg F} {l : Label}
    (h : attachBody newFailed created setup connect taskerStart w = (w', l, none)) :
    w'.self.isConnected = true ∧ w'.self.mb = some w.contexts.next := by
  unfold attachBody at h
  split at h
  · exact absurd (Prod.mk.inj (Prod.mk.inj h).2).2 (by simp)
  · split at h
    · exact absurd (Prod.mk.inj (Prod.mk.inj h).2).2 (by simp)
    · split at h
      · exact absurd (Prod.mk.inj (Prod.mk.inj h).2).2 (by simp)
      · next heq =>
          obtain ⟨hflag, hmb⟩ := ensureConnected_ok heq
          split at h
          · exact absurd (Prod.mk.inj (Prod.mk.inj h).2).2 (by simp)
          · obtain ⟨rfl, -⟩ := Prod.mk.inj h
            exact ⟨hflag, hmb⟩

theorem writeLocked_flag {w : World τ Cfg F} (connect : LibResult)
    (send : Cfg → Option Dterr × Option ℤ) (hw : FlagMeansConnected w) :
    FlagMeansConnected (writeLocked w connect send).1 := by
  have hconn := ensureConnected_flag connect hw
  unfold writeLocked
  split
  · exact hw
  · split
    · next heq => rw [heq] at hconn; exact hconn
    · next heq => rw [heq] at hconn; exact hconn

theorem disconnectOnError_flag {w : World τ Cfg F} (dterr : Option Dterr)
    (hw : FlagMeansConnected w) : FlagMeansConnected (disconnectOnError w dterr) := by
  unfold disconnectOnError
  split
  · exact ensureDisconnected_flag w
  · exact hw

section

variable [Dtringfifo F]

theorem enableBody_same (enabled : Bool) (w : World τ Cfg F) :
    SameConnection w (enableBody enabled w).1 := ⟨rfl, rfl, rfl⟩

theorem readFifo_same (self : Master Cfg F) (bufLen : ℤ) :
    (readFifo self bufLen).1.isConnected = self.isConnected ∧
      (readFifo self bufLen).1.mb = self.mb := by
  unfold readFifo
  split
  · exact ⟨rfl, rfl⟩
  · split
    · exact ⟨rfl, rfl⟩
    · split <;> exact ⟨rfl, rfl⟩

theorem pollPush_same (dm : DtioxModbus) (self : Master Cfg F) (byteLen : UInt16)
    (dataRegs : ℕ → UInt16) :
    (pollPush dm self byteLen dataRegs).1.isConnected = self.isConnected ∧
      (pollPush dm self byteLen dataRegs).1.mb = self.mb := by
  unfold pollPush
  dsimp only
  split <;> exact ⟨rfl, rfl⟩

/-- A poll round does not touch the connection, whatever its requests return. -/
theorem pollBody_same (dm : DtioxModbus) (deadOnReadError posts : Bool) (maxBlob : ℤ)
    (cmd hdr data : LibResult) (hdrRegs : UInt16 × UInt16) (dataRegs : ℕ → UInt16)
    (w : World τ Cfg F) :
    SameConnection w
      (pollBody dm deadOnReadError posts maxBlob cmd hdr data hdrRegs dataRegs w).1 := by
  have hdeadRead : SameConnection w (if deadOnReadError then
      { w with self := { w.self with deadSlavePending := true } } else w) := by
    split
    · exact ⟨rfl, rfl, rfl⟩
    · exact .refl w
  unfold pollBody
  dsimp only
  split
  · exact ⟨rfl, rfl, rfl⟩
  · split
    · exact hdeadRead
    · split
      · exact .refl w
      · next byteLen _ =>
          split
          · exact hdeadRead
          · obtain ⟨hflag, hmb⟩ := pollPush_same dm w.self byteLen dataRegs
            exact ⟨hflag, hmb, rfl⟩

end

/-! ## One operation -/

section

variable [DecidableEq τ]

/-- An operation under the lock either finds the lock taken and changes nothing, or ends in the
    world its body leaves, but for the lock. -/
theorem locked_cases {w w' : World τ Cfg F} {t : τ} {dterr : Option Dterr}
    {body : World τ Cfg F → World τ Cfg F × Label × Option Dterr}
    (h : locked w t body = some (w', dterr)) :
    (w.lock.owner ≠ none ∧ w' = w ∧ dterr ≠ none) ∨
    (w.lock.owner = none ∧ ∃ l d,
      SameConnection (body { w with lock := ⟨some t⟩ }).1 w' ∧
      (body { w with lock := ⟨some t⟩ }).2 = (l, d) ∧ (dterr = none → d = none)) := by
  unfold locked at h
  split at h
  · exact absurd h (by simp)
  · next hacq =>
      obtain ⟨howner, -⟩ := Dtlock.acquire_eq_error hacq
      obtain ⟨rfl, rfl⟩ := Prod.mk.inj (Option.some.inj h)
      exact Or.inl ⟨by simp [howner], rfl, by simp⟩
  · next hacq =>
      obtain ⟨howner, rfl⟩ := Dtlock.acquire_eq_ok hacq
      refine Or.inr ⟨howner, ?_⟩
      split at h
      · next v d hbody =>
          obtain ⟨rfl, rfl⟩ := Prod.mk.inj (Option.some.inj h)
          refine ⟨_, d, ?_, by rw [hbody], ?_⟩
          · rw [hbody]
            exact ⟨rfl, rfl, rfl⟩
          · intro hor
            exact (Option.or_eq_none_iff.1 hor).1
      · next v d hbody =>
          obtain ⟨rfl, rfl⟩ := Prod.mk.inj (Option.some.inj h)
          refine ⟨_, d, ?_, by rw [hbody], id⟩
          rw [hbody]
          exact .refl _

/-- An operation whose body leaves the connection alone leaves the flag right or wrong as it was. -/
theorem locked_same {w w' : World τ Cfg F} {t : τ}
    {body : World τ Cfg F → World τ Cfg F × Label × Option Dterr}
    (hbody : ∀ v, SameConnection v (body v).1)
    (h : (locked w t body).map (·.1) = some w') : FlagMeansConnected w' ↔ FlagMeansConnected w := by
  obtain ⟨⟨v, d⟩, hv, rfl⟩ := Option.map_eq_some_iff.1 h
  rcases locked_cases hv with ⟨-, rfl, -⟩ | ⟨-, _, _, hsame, -⟩
  · exact Iff.rfl
  · exact hsame.flag_iff.trans ((hbody _).flag_iff.trans Iff.rfl)

/-- An operation that keeps the flag right exactly when it finds it clear does so, as a whole,
    exactly when it gets the lock only while the flag is clear. -/
theorem locked_flag_iff {w w' : World τ Cfg F} {t : τ}
    {body : World τ Cfg F → World τ Cfg F × Label × Option Dterr}
    (hbody : ∀ v, FlagMeansConnected (body v).1 ↔ v.self.isConnected = false)
    (hw : FlagMeansConnected w) (h : (locked w t body).map (·.1) = some w') :
    FlagMeansConnected w' ↔ (w.lock.owner = none → w.self.isConnected = false) := by
  obtain ⟨⟨v, d⟩, hv, rfl⟩ := Option.map_eq_some_iff.1 h
  rcases locked_cases hv with ⟨howner, rfl, -⟩ | ⟨howner, _, _, hsame, -⟩
  · exact ⟨fun _ hfree => absurd hfree howner, fun _ => hw⟩
  · rw [hsame.flag_iff, hbody]
    exact ⟨fun hclear _ => hclear, fun hclear => hclear howner⟩

/-- A blocked operation finds the lock taken. -/
theorem locked_eq_none {w : World τ Cfg F} {t : τ}
    {body : World τ Cfg F → World τ Cfg F × Label × Option Dterr}
    (h : (locked w t body).map (·.1) = none) : w.lock.owner ≠ none := by
  intro hfree
  have hacq : w.lock.acquire t = some (⟨some t⟩, none) := by
    rw [Dtlock.acquire, hfree]
  rw [Option.map_eq_none_iff, locked, hacq] at h
  dsimp only at h
  split at h <;> exact absurd h (by simp)

theorem read_same [Dtringfifo F] {w w' : World τ Cfg F} {t : τ} {bufLen : ℤ}
    {info : Except Dterr TaskerInfo} {dterr : Option Dterr} {out : Option (List UInt8)}
    (h : read w t bufLen info = some (w', dterr, out)) : SameConnection w w' := by
  unfold read at h
  split at h
  · obtain ⟨rfl, -⟩ := Prod.mk.inj (Option.some.inj h)
    exact .refl _
  · split at h
    · obtain ⟨rfl, -⟩ := Prod.mk.inj (Option.some.inj h)
      exact .refl _
    · split at h
      · exact absurd h (by simp)
      · obtain ⟨rfl, -⟩ := Prod.mk.inj (Option.some.inj h)
        exact .refl _
      · obtain ⟨rfl, -⟩ := Prod.mk.inj (Option.some.inj h)
        obtain ⟨hflag, hmb⟩ := readFifo_same w.self bufLen
        exact ⟨hflag, hmb, rfl⟩

theorem write_flag {w w' : World τ Cfg F} {t : τ} {len : ℤ} {connect : LibResult}
    {send : Cfg → Option Dterr × Option ℤ} {dterr : Option Dterr} {out : Option ℤ}
    (hw : FlagMeansConnected w) (h : write w t len connect send = some (w', dterr, out)) :
    FlagMeansConnected w' := by
  unfold write at h
  split at h
  · obtain ⟨rfl, -⟩ := Prod.mk.inj (Option.some.inj h)
    exact hw
  · split at h
    · obtain ⟨rfl, -⟩ := Prod.mk.inj (Option.some.inj h)
      exact hw
    · split at h
      · exact absurd h (by simp)
      · obtain ⟨rfl, -⟩ := Prod.mk.inj (Option.some.inj h)
        exact hw
      · next lock _ =>
          have hlock : FlagMeansConnected { w with lock := lock } := hw
          have hflag := disconnectOnError_flag (writeLocked { w with lock := lock } connect send).2.1
            (writeLocked_flag connect send hlock)
          obtain ⟨rfl, -⟩ := Prod.mk.inj (Option.some.inj h)
          exact hflag

end

/-! ## Runs -/

/-- A backend: its public operations and one poll round of its receive task. `R` are the results of
    the requests of a write. -/
structure Backend (τ Cfg F C R : Type*) where
  attach : World τ Cfg F → τ → C → Option (World τ Cfg F × Option Dterr)
  detach : World τ Cfg F → τ → Option (World τ Cfg F × Option Dterr)
  enable : World τ Cfg F → τ → Bool → Option (World τ Cfg F × Option Dterr)
  read : World τ Cfg F → τ → ℤ → Except Dterr TaskerInfo →
    Option (World τ Cfg F × Option Dterr × Option (List UInt8))
  write : World τ Cfg F → τ → ℤ → LibResult → R →
    Option (World τ Cfg F × Option Dterr × Option ℤ)
  pollRound : World τ Cfg F → τ → LibResult → LibResult → LibResult → UInt16 × UInt16 →
    (ℕ → UInt16) → Option (World τ Cfg F × Option Dterr)

/-- A call by thread `t`, with the results of everything it calls. -/
inductive Event (τ C R : Type*) where
  | attach (t : τ) (calls : C)
  | detach (t : τ)
  | enable (t : τ) (enabled : Bool)
  | read (t : τ) (bufLen : ℤ) (info : Except Dterr TaskerInfo)
  | write (t : τ) (len : ℤ) (connect : LibResult) (results : R)
  | pollRound (t : τ) (cmd hdr data : LibResult) (hdrRegs : UInt16 × UInt16)
      (dataRegs : ℕ → UInt16)

variable {C R : Type*}

/-- One operation of the backend. -/
def Backend.step (b : Backend τ Cfg F C R) (w : World τ Cfg F) :
    Event τ C R → Option (World τ Cfg F)
  | .attach t calls => (b.attach w t calls).map (·.1)
  | .detach t => (b.detach w t).map (·.1)
  | .enable t enabled => (b.enable w t enabled).map (·.1)
  | .read t bufLen info => (b.read w t bufLen info).map (·.1)
  | .write t len connect results => (b.write w t len connect results).map (·.1)
  | .pollRound t cmd hdr data hdrRegs dataRegs =>
    (b.pollRound w t cmd hdr data hdrRegs dataRegs).map (·.1)

variable [DecidableEq τ] [Dtringfifo F]

/-- The operations are those of a master, for some messages, set-up calls and write requests. -/
structure Backend.IsMaster (b : Backend τ Cfg F C R) : Prop where
  attach_eq : ∀ w t calls, ∃ newFailed created setup connect taskerStart,
    b.attach w t calls = locked w t (attachBody newFailed created setup connect taskerStart)
  detach_eq : ∀ w t, b.detach w t = locked w t detachBody
  enable_eq : ∀ w t enabled, b.enable w t enabled = locked w t (enableBody enabled)
  read_eq : ∀ w t bufLen info, b.read w t bufLen info = ModbusMaster.read w t bufLen info
  write_eq : ∀ w t len connect results, ∃ send,
    b.write w t len connect results = ModbusMaster.write w t len connect send
  pollRound_eq : ∀ w t cmd hdr data hdrRegs dataRegs, ∃ dm dead posts maxBlob,
    b.pollRound w t cmd hdr data hdrRegs dataRegs
      = locked w t (pollBody dm dead posts maxBlob cmd hdr data hdrRegs dataRegs)

/-- An attach or detach that gets the lock finds `_is_connected` clear. -/
def ReconnectsOnlyUnset (w : World τ Cfg F) : Event τ C R → Prop
  | .attach _ _ => w.lock.owner = none → w.self.isConnected = false
  | .detach _ => w.lock.owner = none → w.self.isConnected = false
  | _ => True

/-- An attach that returns success leaves the context it created current and connected. -/
def AttachConnects (b : Backend τ Cfg F C R) (w : World τ Cfg F) : Event τ C R → Prop
  | .attach t calls => ∀ w', b.attach w t calls = some (w', none) →
    w'.self.mb = some w.contexts.next ∧ w'.contexts.connected w.contexts.next = true
  | _ => True

variable {b : Backend τ Cfg F C R}

/-- **Step lemma.** From a world whose flag is right, an operation keeps it right exactly when it is
    not an attach or detach that gets the lock while the flag is set. -/
theorem Backend.step_flag_iff (hb : b.IsMaster) {w w' : World τ Cfg F} {e : Event τ C R}
    (hw : FlagMeansConnected w) (h : b.step w e = some w') :
    FlagMeansConnected w' ↔ ReconnectsOnlyUnset w e := by
  cases e with
  | attach t calls =>
      obtain ⟨newFailed, created, setup, connect, start, heq⟩ := hb.attach_eq w t calls
      rw [Backend.step, heq] at h
      exact locked_flag_iff (attachBody_flag_iff _ _ _ _ _) hw h
  | detach t =>
      rw [Backend.step, hb.detach_eq] at h
      exact locked_flag_iff detachBody_flag_iff hw h
  | enable t enabled =>
      rw [Backend.step, hb.enable_eq] at h
      have := locked_same (enableBody_same enabled) h
      exact ⟨fun _ => trivial, fun _ => this.2 hw⟩
  | read t bufLen info =>
      rw [Backend.step, hb.read_eq] at h
      obtain ⟨⟨v, d, out⟩, hv, rfl⟩ := Option.map_eq_some_iff.1 h
      exact ⟨fun _ => trivial, fun _ => (read_same hv).flag_iff.2 hw⟩
  | write t len connect results =>
      obtain ⟨send, heq⟩ := hb.write_eq w t len connect results
      rw [Backend.step, heq] at h
      obtain ⟨⟨v, d, out⟩, hv, rfl⟩ := Option.map_eq_some_iff.1 h
      exact ⟨fun _ => trivial, fun _ => write_flag hw hv⟩
  | pollRound t cmd hdr data hdrRegs dataRegs =>
      obtain ⟨dm, dead, posts, maxBlob, heq⟩ := hb.pollRound_eq w t cmd hdr data hdrRegs dataRegs
      rw [Backend.step, heq] at h
      have := locked_same (pollBody_same dm dead posts maxBlob cmd hdr data hdrRegs dataRegs) h
      exact ⟨fun _ => trivial, fun _ => this.2 hw⟩

theorem Backend.step_eq_none (hb : b.IsMaster) {w : World τ Cfg F} {e : Event τ C R}
    (h : b.step w e = none) : ReconnectsOnlyUnset w e := by
  cases e with
  | attach t calls =>
      obtain ⟨newFailed, created, setup, connect, start, heq⟩ := hb.attach_eq w t calls
      rw [Backend.step, heq] at h
      exact fun hfree => absurd hfree (locked_eq_none h)
  | detach t =>
      rw [Backend.step, hb.detach_eq] at h
      exact fun hfree => absurd hfree (locked_eq_none h)
  | _ => trivial

/-- A successful attach that finds the flag clear connects its context. -/
theorem Backend.attach_connects (hb : b.IsMaster) {w : World τ Cfg F} {e : Event τ C R}
    (he : ReconnectsOnlyUnset w e) : AttachConnects b w e := by
  cases e with
  | attach t calls =>
      intro w' h
      obtain ⟨newFailed, created, setup, connect, start, heq⟩ := hb.attach_eq w t calls
      rw [heq] at h
      rcases locked_cases h with ⟨-, -, hne⟩ | ⟨howner, l, d, hsame, hbody, hd⟩
      · exact absurd rfl hne
      · have hclear : ({ w with lock := ⟨some t⟩ } : World τ Cfg F).self.isConnected = false :=
          he howner
        have hflag := attachBody_of_not_flag newFailed created setup connect start hclear
        have hok : attachBody newFailed created setup connect start { w with lock := ⟨some t⟩ }
            = ((attachBody newFailed created setup connect start
                { w with lock := ⟨some t⟩ }).1, l, none) := by
          rw [← hd rfl, ← hbody]
        obtain ⟨hset, hmb⟩ := attachBody_ok hok
        obtain ⟨mb, hmb', hconn⟩ := hflag hset
        rw [hmb, Option.some.injEq] at hmb'
        rw [hsame.mb, hsame.contexts]
        exact ⟨hmb, hmb' ▸ hconn⟩
  | _ => trivial

/-- **Exact condition, for any backend.** -/
theorem Backend.flag_iff (hb : b.IsMaster) (w : World τ Cfg F) (hw : FlagMeansConnected w)
    (events : List (Event τ C R)) :
    (Run.AllStates b.step FlagMeansConnected w events ∧
      Run.AllSteps b.step (AttachConnects b) w events)
    ↔ Run.AllSteps b.step ReconnectsOnlyUnset w events := by
  have hiff : Run.AllStates b.step FlagMeansConnected w events
      ↔ Run.AllSteps b.step ReconnectsOnlyUnset w events :=
    Run.allStates_iff_allSteps (I := fun _ => True) (fun _ _ _ _ _ _ _ => trivial)
      (fun _ _ _ _ hs h => Backend.step_flag_iff hb hs h)
      (fun _ _ _ _ h => Backend.step_eq_none hb h) events w trivial hw
  refine ⟨fun h => hiff.1 h.1, fun h => ⟨hiff.2 h, h.imp ?_⟩⟩
  exact fun _ _ he => Backend.attach_connects hb he

end ModbusMaster

/-! ## The two backends -/

namespace DtioxLinuxModbusTcpMaster

open ModbusMaster

variable {τ F : Type*} [DecidableEq τ] [Dtringfifo F]

/-- The TCP master. -/
def backend (dm : DtioxModbus) : Backend τ Config F AttachCalls LibResult where
  attach := attach
  detach := detach
  enable := enable
  read := read
  write := write dm
  pollRound := pollRound dm

theorem backend_isMaster (dm : DtioxModbus) :
    (backend dm : Backend τ Config F AttachCalls LibResult).IsMaster where
  attach_eq _ _ _ := ⟨_, _, _, _, _, rfl⟩
  detach_eq _ _ := rfl
  enable_eq _ _ _ := rfl
  read_eq _ _ _ _ := rfl
  write_eq _ _ len _ rc :=
    ⟨fun cfg => writeDone rc (2 + dataRegs dm (sendLen cfg len)) (sendLen cfg len), rfl⟩
  pollRound_eq _ _ _ _ _ _ _ := ⟨_, _, _, _, rfl⟩

end DtioxLinuxModbusTcpMaster

namespace DtioxLinuxModbusRtuMaster

open ModbusMaster

variable {τ F : Type*} [DecidableEq τ] [Dtringfifo F]

/-- The RTU master; a write comes with its bytes and the results of its requests. -/
def backend (dm : DtioxModbus) :
    Backend τ Config F AttachCalls (List UInt8 × (ℕ → LibResult)) where
  attach := attach
  detach := detach
  enable := enable
  read := read
  write w t len connect r := write dm w t r.1 len connect r.2
  pollRound := pollRound dm

theorem backend_isMaster (dm : DtioxModbus) :
    (backend dm : Backend τ Config F AttachCalls (List UInt8 × (ℕ → LibResult))).IsMaster where
  attach_eq _ _ _ := ⟨_, _, _, _, _, rfl⟩
  detach_eq _ _ := rfl
  enable_eq _ _ _ := rfl
  read_eq _ _ _ _ := rfl
  write_eq _ _ len _ r := ⟨fun cfg => writeSend dm cfg r.1 len r.2, rfl⟩
  pollRound_eq _ _ _ _ _ _ _ := ⟨_, _, _, _, rfl⟩

end DtioxLinuxModbusRtuMaster

namespace ModbusMaster

/-- **Exact condition.** For both masters and every run from the configured object: `_is_connected`
    is right in every state, and every successful attach leaves its context connected, exactly when
    no attach and no detach gets the lock while `_is_connected` is set. -/
theorem connection_flag_exact {τ F : Type*} [DecidableEq τ] [Dtringfifo F] (dm : DtioxModbus)
    (tcpCfg : DtioxLinuxModbusTcpMaster.Config) (rtuCfg : DtioxLinuxModbusRtuMaster.Config)
    (rxFifo : F) :
    (∀ events : List (Event τ DtioxLinuxModbusTcpMaster.AttachCalls LibResult),
      (Run.AllStates (DtioxLinuxModbusTcpMaster.backend dm).step FlagMeansConnected
          (World.configured tcpCfg rxFifo) events ∧
        Run.AllSteps (DtioxLinuxModbusTcpMaster.backend dm).step
          (AttachConnects (DtioxLinuxModbusTcpMaster.backend dm))
          (World.configured tcpCfg rxFifo) events)
      ↔ Run.AllSteps (DtioxLinuxModbusTcpMaster.backend dm).step ReconnectsOnlyUnset
          (World.configured tcpCfg rxFifo) events) ∧
    (∀ events : List (Event τ DtioxLinuxModbusRtuMaster.AttachCalls
        (List UInt8 × (ℕ → LibResult))),
      (Run.AllStates (DtioxLinuxModbusRtuMaster.backend dm).step FlagMeansConnected
          (World.configured rtuCfg rxFifo) events ∧
        Run.AllSteps (DtioxLinuxModbusRtuMaster.backend dm).step
          (AttachConnects (DtioxLinuxModbusRtuMaster.backend dm))
          (World.configured rtuCfg rxFifo) events)
      ↔ Run.AllSteps (DtioxLinuxModbusRtuMaster.backend dm).step ReconnectsOnlyUnset
          (World.configured rtuCfg rxFifo) events) := by
  have hclear : ∀ {Cfg : Type} (cfg : Cfg),
      FlagMeansConnected (World.configured cfg rxFifo : World τ Cfg F) :=
    fun _ htrue => absurd htrue (by simp [World.configured])
  constructor
  · intro events
    exact Backend.flag_iff (DtioxLinuxModbusTcpMaster.backend_isMaster dm) _ (hclear tcpCfg) events
  · intro events
    exact Backend.flag_iff (DtioxLinuxModbusRtuMaster.backend_isMaster dm) _ (hclear rtuCfg) events

/-- Attach, detach, attach, with every libmodbus call succeeding. -/
def reattachRun {C R : Type*} (calls : C) : List (Event ℕ C R) :=
  [.attach 0 calls, .detach 0, .attach 0 calls]

/-- A libmodbus call that succeeds. -/
def succeeds : LibResult := ⟨0, 0, ""⟩

/-- On a reattach both masters return success with the flag set, and leave the new context
    unconnected. -/
theorem reattach_leaves_unconnected :
    (¬∀ (cfg : DtioxLinuxModbusTcpMaster.Config)
        (events : List (Event ℕ DtioxLinuxModbusTcpMaster.AttachCalls LibResult)),
      Run.AllStates (DtioxLinuxModbusTcpMaster.backend .bigEndian).step FlagMeansConnected
        (World.configured cfg (⟨1024, []⟩ : ByteFifo)) events) ∧
    (¬∀ (cfg : DtioxLinuxModbusRtuMaster.Config)
        (events : List (Event ℕ DtioxLinuxModbusRtuMaster.AttachCalls
          (List UInt8 × (ℕ → LibResult)))),
      Run.AllStates (DtioxLinuxModbusRtuMaster.backend .bigEndian).step FlagMeansConnected
        (World.configured cfg (⟨1024, []⟩ : ByteFifo)) events) := by
  constructor
  · intro h
    have hlast := fun t => (h ⟨"10.0.0.1", 502, 1, 25, 250, 240, 1024⟩
      (reattachRun ⟨fun _ _ => true, fun _ => succeeds, fun _ _ => succeeds, succeeds, none⟩)).last
        (t := t)
    obtain ⟨mb, hmb, hconn⟩ := hlast _ rfl rfl
    obtain rfl := Option.some.inj hmb
    exact absurd hconn (by decide)
  · intro h
    have hlast := fun t => (h ⟨"/dev/ttyUSB0", 1, 25, 250, 0, 240, false, 1024⟩
      (reattachRun ⟨fun _ => true, fun _ => succeeds, fun _ _ => succeeds, fun _ _ => succeeds,
        succeeds, none⟩)).last (t := t)
    obtain ⟨mb, hmb, hconn⟩ := hlast _ rfl rfl
    obtain rfl := Option.some.inj hmb
    exact absurd hconn (by decide)

end ModbusMaster
