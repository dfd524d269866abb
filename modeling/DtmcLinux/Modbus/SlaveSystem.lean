import DtmcLinux.Modbus.Facade
import DtmcLinux.Modbus.SlaveTask

set_option autoImplicit false

/-! # The Modbus TCP slave and its receive task

The public operations of the slave, each one step, and the steps of the receive task that attach
starts, on one object. The state also records what the last step was and whether an accepted write
has had no poll since. -/

namespace DtioxLinuxModbusTcpSlave

/-- What a step was. -/
inductive StepKind where
  /-- attach has returned success -/
  | attached
  /-- a session step has processed `GIVE_ME_ANY_DATA` -/
  | polled
  /-- a write has returned `DTERR_BUSY` -/
  | refused
  | other
  deriving DecidableEq

/-- The object, and where the receive task is if it was ever started. -/
structure SlaveState (τ F : Type*) where
  facade : Facade τ F
  pc : Option Pc
  /-- a write has stored a message since the last `GIVE_ME_ANY_DATA` -/
  unserved : Bool
  last : StepKind

/-- The steps. -/
inductive SlaveEvent (τ F : Type*) where
  | attach (t : τ) (calls : AttachCalls)
  | detach
  | enable (t : τ) (enabled : Bool)
  | read (t : τ) (bufLen : ℤ)
  | write (t : τ) (buf : List UInt8) (len : ℤ)
  | setRxSemaphore (t : τ) (rxSemaphore : Bool)
  /-- a step of the receive task -/
  | task (e : TaskEvent F)

/-- The server loop has not ended. -/
def Pc.runs : Pc → Bool
  | .serverTop | .accepting | .sessionTop | .receiving | .replied => true
  | .returned _ | .ranOff => false

/-- The receive task runs. -/
def running (pc : Option Pc) : Bool := pc.any Pc.runs

/-- `dterr->error_code == DTERR_BUSY` -/
def isBusy (dterr : Option Dterr) : Bool := dterr.any fun e => e.errorCode = some .busy

variable {τ F : Type*}

/-- The event is one of the task's own. -/
def TaskEvent.ofTask : TaskEvent F → Bool
  | .others _ => false
  | .serverSnapshot _ _ | .accept _ | .sessionSnapshot _ _ | .receive _ _ _ | .interpret _ _ => true

/-- The members after `init` and `configure`, for the FIFO and the registers given. -/
def configured (dm : DtioxModbus) (cfg : Config) (port responseTimeoutMs rxRingCapacity : ℤ)
    (rxFifo : F) : Facade τ F where
  self := {
    cfg := cfg.withDefaults dm
    mbMap := none
    listeningSocket := 0
    sessionSocket := 0
    enabled := false
    rxSemaphore := false
    rxtaskStopRequested := false
    sessionStopRequested := false
    rxOverflowPending := false
    rxFifo := rxFifo
    txPending := false
    txLen := 0
    txBytes := List.replicate dm.maxBlobBytes.toNat 0
    rxPosts := 0 }
  port := port
  responseTimeoutMs := responseTimeoutMs
  rxRingCapacity := rxRingCapacity
  mb := false
  rxtaskerHandle := true
  lock := .free

/-- A slave nobody has attached yet. -/
def SlaveState.initial (facade : Facade τ F) : SlaveState τ F where
  facade := facade
  pc := none
  unserved := false
  last := .other

/-- The calls of an attach that succeeds. -/
def succeedingAttach : AttachCalls where
  info := .ok ⟨false, "INITIALIZED", none⟩
  newTcp _ := true
  setResponseTimeout _ _ := ⟨0, 0, ""⟩
  mappingNew _ := true
  listen := ⟨5, 0, ""⟩
  taskerStart := none

/-- A slave configured with the defaults. -/
def configuredSlave : SlaveState ℕ ByteFifo :=
  .initial (configured .bigEndian ⟨0⟩ 502 0 1024 ⟨1024, []⟩)

variable [Dtringfifo F]

/-- The session step under the lock processes `GIVE_ME_ANY_DATA`. -/
def polls (dm : DtioxModbus) (self : Slave F) : Bool :=
  (consumePutBlob dm self).mbMap.any fun tab => tab dm.regM2sCmd = dm.cmdGiveMeAnyData

/-- A step of the receive task is a poll. -/
def TaskEvent.polls (dm : DtioxModbus) (self : Slave F) : TaskEvent F → Bool
  | .interpret none _ => DtioxLinuxModbusTcpSlave.polls dm self
  | _ => false

/-- The task at `pc`. -/
def SlaveState.task (s : SlaveState τ F) (pc : Pc) : TaskState F where
  self := s.facade.self
  pc := pc
  stopSeen := false
  lockFailed := false

namespace SlaveState

variable [DecidableEq τ]

/-- A call of attach. `dttasker_start` refuses to start a task that runs. -/
def attach (dm : DtioxModbus) (s : SlaveState τ F) (t : τ) (calls : AttachCalls) :
    Option (SlaveState τ F) :=
  if s.facade.self.listeningSocket ≤ 0 ∧ running s.pc ∧ calls.taskerStart = none then none
  else
    (DtioxLinuxModbusTcpSlave.attach dm s.facade t calls).map fun r =>
      { s with
        facade := r.1
        pc := if s.facade.self.listeningSocket ≤ 0 ∧ r.2 = none then some .serverTop else s.pc
        last := if r.2 = none then .attached else .other }

/-- A call of write. -/
def write (s : SlaveState τ F) (t : τ) (buf : List UInt8) (len : ℤ) : Option (SlaveState τ F) :=
  (DtioxLinuxModbusTcpSlave.write s.facade t buf len).map fun r =>
    { s with
      facade := r.1
      unserved := s.unserved || r.2.2.isSome
      last := if isBusy r.2.1 then .refused else .other }

/-- A step of the receive task. -/
def taskStep (dm : DtioxModbus) (s : SlaveState τ F) (e : TaskEvent F) : Option (SlaveState τ F) :=
  match s.pc with
  | none => none
  | some pc =>
    if e.ofTask then
      ((s.task pc).step dm e).map fun r =>
        { facade := { s.facade with self := r.self }
          pc := some r.pc
          unserved := s.unserved && !e.polls dm s.facade.self
          last := if e.polls dm s.facade.self then .polled else .other }
    else none

/-- One step. -/
def step (dm : DtioxModbus) (s : SlaveState τ F) : SlaveEvent τ F → Option (SlaveState τ F)
  | .attach t calls => s.attach dm t calls
  | .detach => some { s with facade := detach s.facade, last := .other }
  | .enable t enabled =>
    (enable dm s.facade t enabled).map fun r => { s with facade := r.1, last := .other }
  | .read t bufLen => (read s.facade t bufLen).map fun r => { s with facade := r.1, last := .other }
  | .write t buf len => s.write t buf len
  | .setRxSemaphore t rxSemaphore =>
    (setRxSemaphore s.facade t rxSemaphore).map fun r => { s with facade := r.1, last := .other }
  | .task e => s.taskStep dm e

end SlaveState

/-! ## What the operations do to the transmit side -/

omit [Dtringfifo F] in
/-- The transmit side and the stop request of the task are as they were. -/
structure SameTx (a b : Slave F) : Prop where
  txPending : b.txPending = a.txPending
  txLen : b.txLen = a.txLen
  rxtaskStopRequested : b.rxtaskStopRequested = a.rxtaskStopRequested

omit [Dtringfifo F] in
theorem SameTx.refl (self : Slave F) : SameTx self self := ⟨rfl, rfl, rfl⟩

theorem sameTx_consumePutBlob (dm : DtioxModbus) (self : Slave F) :
    SameTx self (consumePutBlob dm self) := by
  unfold consumePutBlob
  split
  · exact .refl self
  · split
    · exact .refl self
    · dsimp only
      split <;> exact ⟨rfl, rfl, rfl⟩

/-- Outside a poll the transmit side is left alone. -/
theorem sameTx_interpretCommand (dm : DtioxModbus) {self : Slave F}
    (hpolls : polls dm self = false) : SameTx self (interpretCommand dm self) := by
  have hsame := sameTx_consumePutBlob dm self
  unfold polls at hpolls
  unfold interpretCommand
  dsimp only
  split
  · exact hsame
  · next tab htab =>
      rw [htab] at hpolls
      rw [if_neg (by simpa using hpolls)]
      exact hsame

omit [Dtringfifo F] in
/-- The answer to a poll takes the pending message if it is not empty. -/
theorem preparePollResponse_spec (dm : DtioxModbus) {self : Slave F} {tab : Registers}
    (htab : self.mbMap = some tab) :
    (∃ tab', (preparePollResponse dm self).mbMap = some tab') ∧
      (preparePollResponse dm self).txPending = (self.txPending && !decide (self.txLen > 0)) ∧
      (preparePollResponse dm self).rxtaskStopRequested = self.rxtaskStopRequested := by
  unfold preparePollResponse
  rw [htab]
  dsimp only
  split
  · next htake =>
      rw [Bool.and_eq_true] at htake
      exact ⟨⟨_, rfl⟩, by simp [htake], rfl⟩
  · next hleave =>
      refine ⟨⟨_, rfl⟩, ?_, rfl⟩
      cases hpending : self.txPending <;> simp_all

theorem interpretCommand_of_polls (dm : DtioxModbus) {self : Slave F}
    (hpolls : polls dm self = true) :
    (interpretCommand dm self).txPending = (self.txPending && !decide (self.txLen > 0)) ∧
      (interpretCommand dm self).rxtaskStopRequested = self.rxtaskStopRequested := by
  have hsame := sameTx_consumePutBlob dm self
  unfold polls at hpolls
  unfold interpretCommand
  dsimp only
  cases htab : (consumePutBlob dm self).mbMap with
  | none =>
      rw [htab] at hpolls
      cases hpolls
  | some tab =>
      rw [htab] at hpolls
      obtain ⟨⟨tab', htab'⟩, hpending, hstop⟩ := preparePollResponse_spec dm htab
      dsimp only
      rw [if_pos (of_decide_eq_true hpolls), htab', ← hsame.txPending, ← hsame.txLen,
        ← hsame.rxtaskStopRequested]
      exact ⟨hpending, hstop⟩

theorem sameTx_taskStep {dm : DtioxModbus} {s s' : TaskState F} {e : TaskEvent F}
    (he : e.ofTask = true) (hpolls : e.polls dm s.self = false)
    (h : s.step dm e = some s') : SameTx s.self s'.self := by
  cases e with
  | serverSnapshot acquire release =>
      obtain ⟨-, ⟨⟩⟩ := Option.ite_none_right_eq_some.1 h
      unfold TaskState.serverSnapshot
      split
      · exact .refl s.self
      · split <;> exact ⟨rfl, rfl, rfl⟩
  | accept sessionSocket =>
      obtain ⟨-, ⟨⟩⟩ := Option.ite_none_right_eq_some.1 h
      unfold TaskState.accept
      split <;> exact ⟨rfl, rfl, rfl⟩
  | sessionSnapshot acquire release =>
      obtain ⟨-, ⟨⟩⟩ := Option.ite_none_right_eq_some.1 h
      unfold TaskState.sessionSnapshot
      split
      · exact .refl s.self
      · dsimp only
        split <;> exact .refl s.self
  | receive rc query reply =>
      obtain ⟨-, ⟨⟩⟩ := Option.ite_none_right_eq_some.1 h
      unfold TaskState.receive
      split
      · dsimp only
        split <;> exact ⟨rfl, rfl, rfl⟩
      · split <;> exact .refl s.self
  | interpret acquire release =>
      obtain ⟨-, ⟨⟩⟩ := Option.ite_none_right_eq_some.1 h
      unfold TaskState.interpret
      cases acquire with
      | some e => exact .refl s.self
      | none =>
          have hsame := sameTx_interpretCommand dm hpolls
          cases release <;> exact hsame
  | others self => cases he

/-- A step of the task that polls. -/
theorem taskStep_of_polls {dm : DtioxModbus} {s s' : TaskState F} {e : TaskEvent F}
    (hpolls : e.polls dm s.self = true) (h : s.step dm e = some s') :
    s.pc = .replied ∧ s'.self.txPending = (s.self.txPending && !decide (s.self.txLen > 0)) ∧
      s'.self.rxtaskStopRequested = s.self.rxtaskStopRequested := by
  cases e with
  | interpret acquire release =>
      obtain ⟨hpc, ⟨⟩⟩ := Option.ite_none_right_eq_some.1 h
      unfold TaskState.interpret
      cases acquire with
      | some e => cases hpolls
      | none =>
          have hspec := interpretCommand_of_polls dm hpolls
          cases release <;> exact ⟨hpc, hspec⟩
  | serverSnapshot | accept | sessionSnapshot | receive | others => cases hpolls

/-! ## What the public operations give -/

section Facade

variable [DecidableEq τ]

omit [Dtringfifo F] in
/-- What an operation under the lock gives: nothing is done when the lock cannot be acquired, else it
    is what the body does. -/
theorem run_facade {α : Type*} {w w' : Facade τ F} {t : τ} {unset out : α} {dterr : Option Dterr}
    {body : Facade τ F → Facade τ F × ModbusMaster.Label × Option Dterr × α}
    (h : LockFrame.run Facade.place w t unset body = some (w', dterr, out)) :
    (w' = w ∧ dterr ≠ none ∧ isBusy dterr = false ∧ out = unset ∧ w.lock.owner ≠ none) ∨
      (w.lock.owner = none ∧ w'.self = (body { w with lock := ⟨some t⟩ }).1.self ∧
        out = (body { w with lock := ⟨some t⟩ }).2.2.2 ∧
        (dterr = (body { w with lock := ⟨some t⟩ }).2.2.1 ∨
          ((body { w with lock := ⟨some t⟩ }).2.2.1 = none ∧ isBusy dterr = false))) := by
  unfold LockFrame.run at h
  split at h
  · cases h
  · next lock e hacquire =>
      obtain ⟨rfl, rfl, rfl⟩ : w = w' ∧ some e = dterr ∧ unset = out := by simpa using h
      obtain ⟨howner, -⟩ := Dtlock.acquire_eq_error hacquire
      rw [Dtlock.acquire, howner] at hacquire
      obtain rfl : Dterr.new .state "lock already held by this thread" = e := by
        simpa using congrArg (Option.map Prod.snd) hacquire
      refine .inl ⟨rfl, by simp, rfl, rfl, fun hfree => ?_⟩
      exact absurd (howner.symm.trans hfree) (Option.some_ne_none t)
  · next lock hacquire =>
      obtain ⟨hfree, rfl⟩ := Dtlock.acquire_eq_ok hacquire
      refine .inr ⟨hfree, ?_⟩
      have hset : Facade.place.setLock w ⟨some t⟩ = { w with lock := ⟨some t⟩ } := rfl
      rw [hset] at h
      rcases hbody : body { w with lock := ⟨some t⟩ } with ⟨v, label, dterrIn, stored⟩
      rw [hbody] at h
      cases label with
      | cleanup =>
          obtain ⟨rfl, rfl, rfl⟩ : v = w' ∧ dterrIn = dterr ∧ stored = out := by simpa using h
          exact ⟨rfl, rfl, .inl rfl⟩
      | releaseLockAndCleanup =>
          obtain ⟨rfl, rfl, rfl⟩ : (LockFrame.release Facade.place v t dterrIn).1 = w' ∧
              (LockFrame.release Facade.place v t dterrIn).2 = dterr ∧ stored = out := by
            simpa using h
          refine ⟨rfl, rfl, ?_⟩
          cases dterrIn with
          | some e => exact .inl rfl
          | none =>
              refine .inr ⟨rfl, ?_⟩
              simp only [LockFrame.release, Dtlock.release, Option.none_or]
              split <;> rfl

omit [Dtringfifo F] in
/-- A write stores its message, or leaves the object as it is. -/
theorem write_spec {w w' : Facade τ F} {t : τ} {buf : List UInt8} {len : ℤ}
    {dterr : Option Dterr} {out : Option ℤ} (h : write w t buf len = some (w', dterr, out)) :
    (w'.self = w.self ∧ out = none ∧ (isBusy dterr = true → w.self.txPending = true)) ∨
      (w'.self.txPending = true ∧ w'.self.txLen = len ∧ 0 ≤ len ∧ out = some len ∧
        isBusy dterr = false ∧ w'.self.rxtaskStopRequested = w.self.rxtaskStopRequested) := by
  unfold write at h
  split at h
  · next e hcheck =>
      obtain ⟨rfl, rfl, rfl⟩ : w = w' ∧ some e = dterr ∧ none = out := by simpa using h
      refine .inl ⟨rfl, rfl, fun hbusy => ?_⟩
      unfold writeCheck at hcheck
      dsimp only at hcheck
      split at hcheck
      · obtain rfl := Option.some.inj hcheck
        cases hbusy
      · split at hcheck
        · obtain rfl := Option.some.inj hcheck
          cases hbusy
        · cases hcheck
  · next hcheck =>
      have hlen : 0 ≤ len := by
        by_contra hneg
        simp [writeCheck, Int.not_le.1 hneg] at hcheck
      rcases run_facade h with ⟨rfl, -, hbusy, rfl, -⟩ | ⟨-, hself, hout, hdterr⟩
      · refine .inl ⟨rfl, rfl, fun hbusy' => ?_⟩
        rw [hbusy] at hbusy'
        cases hbusy'
      · dsimp only at hself hout hdterr
        unfold writeLocked at hself hout hdterr
        split at hself
        · next hdisabled =>
            rw [if_pos hdisabled] at hout hdterr
            refine .inl ⟨hself, hout, fun hbusy => ?_⟩
            rcases hdterr with rfl | ⟨-, hnot⟩
            · cases hbusy
            · rw [hnot] at hbusy
              cases hbusy
        · next henabled =>
            rw [if_neg henabled] at hout hdterr
            split at hself
            · next hpending =>
                rw [if_pos hpending] at hout
                exact .inl ⟨hself, hout, fun _ => hpending⟩
            · next hpending =>
                rw [if_neg hpending] at hout hdterr
                refine .inr ⟨by rw [hself], by rw [hself], hlen, hout, ?_, by rw [hself]⟩
                rcases hdterr with rfl | ⟨-, hnot⟩
                · rfl
                · exact hnot

omit [Dtringfifo F] [DecidableEq τ] in
/-- What the statements of attach under the lock do: the flags are set on success, and nothing is ever
    pending that was not. -/
theorem attachBody_spec (dm : DtioxModbus) (calls : AttachCalls) (w : Facade τ F) :
    (SameTx w.self (attachBody dm calls w).1.self ∧ (attachBody dm calls w).2.2.1 ≠ none) ∨
      ((attachBody dm calls w).1.self.txPending = false ∧
        (attachBody dm calls w).1.self.txLen = 0 ∧
        (attachBody dm calls w).1.self.rxtaskStopRequested = false ∧
        (attachBody dm calls w).1.self.enabled = true ∧
        (attachBody dm calls w).1.self.sessionStopRequested = false) := by
  have heffect := attachBody_effect dm calls w
  generalize attachBody dm calls w = r at heffect ⊢
  cases heffect with
  | noContext | setupFails | noMapping | notListening =>
      exact .inl ⟨⟨rfl, rfl, rfl⟩, Option.some_ne_none _⟩
  | startFails | attached => exact .inr ⟨rfl, rfl, rfl, rfl, rfl⟩

omit [Dtringfifo F] [DecidableEq τ] in
theorem sameTx_attachCleanup (w : Facade τ F) (dterr : Option Dterr) :
    SameTx w.self (attachCleanup w dterr).self := by
  unfold attachCleanup
  split <;> exact ⟨rfl, rfl, rfl⟩

omit [Dtringfifo F] in
/-- What attach gives: nothing is done when the object listens already; else it fails because a receive
    task is running or the lock is held, or it is what the statements under the lock give, rolled back
    after an error. -/
inductive AttachEffect (dm : DtioxModbus) (w : Facade τ F) (t : τ) (calls : AttachCalls) :
    Facade τ F → Option Dterr → Prop where
  | listening (hlistening : 0 < w.self.listeningSocket) : AttachEffect dm w t calls w none
  | running {e : Dterr} (hlistening : w.self.listeningSocket ≤ 0)
      (hverify : verifyRxtaskNotRunning w calls.info = some e) :
      AttachEffect dm w t calls (attachCleanup w (some e)) (some e)
  | held {e : Dterr} (hlistening : w.self.listeningSocket ≤ 0)
      (hverify : verifyRxtaskNotRunning w calls.info = none)
      (hrun : LockFrame.run Facade.place w t () (attachBody dm calls) = some (w, some e, ()))
      (hheld : w.lock.owner ≠ none) :
      AttachEffect dm w t calls (attachCleanup w (some e)) (some e)
  | ran {v : Facade τ F} {dterr : Option Dterr} (hlistening : w.self.listeningSocket ≤ 0)
      (hverify : verifyRxtaskNotRunning w calls.info = none)
      (hrun : LockFrame.run Facade.place w t () (attachBody dm calls) = some (v, dterr, ()))
      (hfree : w.lock.owner = none)
      (hself : v.self = (attachBody dm calls { w with lock := ⟨some t⟩ }).1.self)
      (hdterr : dterr = none →
        (attachBody dm calls { w with lock := ⟨some t⟩ }).2.2.1 = none) :
      AttachEffect dm w t calls (attachCleanup v dterr) dterr

omit [Dtringfifo F] in
theorem attach_effect {dm : DtioxModbus} {w w' : Facade τ F} {t : τ} {calls : AttachCalls}
    {dterr : Option Dterr} (h : attach dm w t calls = some (w', dterr)) :
    AttachEffect dm w t calls w' dterr := by
  unfold attach at h
  split at h
  · next hlistening =>
      obtain ⟨rfl, rfl⟩ : w = w' ∧ none = dterr := by simpa using h
      exact .listening hlistening
  · next hlistening =>
      have hlistening : w.self.listeningSocket ≤ 0 := Int.not_lt.1 hlistening
      split at h
      · next e hverify =>
          obtain ⟨rfl, rfl⟩ : attachCleanup w (some e) = w' ∧ some e = dterr := by simpa using h
          exact .running hlistening hverify
      · next hverify =>
          obtain ⟨⟨v, dterr', ⟨⟩⟩, hrun, heq⟩ := Option.map_eq_some_iff.1 h
          obtain ⟨rfl, rfl⟩ : attachCleanup v dterr' = w' ∧ dterr' = dterr := by simpa using heq
          rcases run_facade hrun with ⟨rfl, hfailed, -, -, hheld⟩ | ⟨hfree, hself, -, hdterr⟩
          · cases dterr' with
            | none => exact absurd rfl hfailed
            | some e => exact .held hlistening hverify hrun hheld
          · refine .ran hlistening hverify hrun hfree hself fun hnone => ?_
            exact hdterr.elim (fun hsame => hsame.symm.trans hnone) (·.1)

omit [Dtringfifo F] in
/-- What attach gives. It does nothing when the socket listens; else the flags are set when it
    succeeds, and nothing is pending that was not. -/
theorem attach_spec {dm : DtioxModbus} {w w' : Facade τ F} {t : τ} {calls : AttachCalls}
    {dterr : Option Dterr} (h : attach dm w t calls = some (w', dterr)) :
    (0 < w.self.listeningSocket ∧ w' = w ∧ dterr = none) ∨
      (w.self.listeningSocket ≤ 0 ∧
        (w'.self.txPending = true → w.self.txPending = true ∧ w'.self.txLen = w.self.txLen) ∧
        (w.self.rxtaskStopRequested = false → w'.self.rxtaskStopRequested = false) ∧
        (dterr = none → w'.self.enabled = true ∧ w'.self.sessionStopRequested = false)) := by
  cases attach_effect h with
  | listening hlistening => exact .inl ⟨hlistening, rfl, rfl⟩
  | running hlistening | held hlistening =>
      exact .inr ⟨hlistening, fun hpending => ⟨hpending, rfl⟩, id, nofun⟩
  | @ran v _ hlistening _ _ _ hself hdterr =>
      refine .inr ⟨hlistening, ?_⟩
      have hclean := sameTx_attachCleanup v dterr
      rw [hclean.txPending, hclean.txLen, hclean.rxtaskStopRequested]
      rcases attachBody_spec dm calls { w with lock := ⟨some t⟩ } with
        ⟨hsame, hfailed⟩ | ⟨hpending, hlen, hstop, henabled, hsession⟩
      · rw [hself, hsame.txPending, hsame.txLen, hsame.rxtaskStopRequested]
        exact ⟨fun hpending => ⟨hpending, rfl⟩, id, fun hnone => absurd (hdterr hnone) hfailed⟩
      · rw [hself, hpending, hstop]
        refine ⟨nofun, fun _ => rfl, ?_⟩
        rintro rfl
        simp only [attachCleanup, Option.isSome_none, Bool.false_eq_true, if_false, hself]
        exact ⟨henabled, hsession⟩

/-- Enable clears what is pending. -/
theorem enable_spec {dm : DtioxModbus} {w w' : Facade τ F} {t : τ} {enabled : Bool}
    {dterr : Option Dterr} {out : Unit} (h : enable dm w t enabled = some (w', dterr, out)) :
    (w'.self.txPending = true → w.self.txPending = true ∧ w'.self.txLen = w.self.txLen) ∧
      w'.self.rxtaskStopRequested = w.self.rxtaskStopRequested := by
  rcases run_facade h with ⟨rfl, -⟩ | ⟨-, hself, -⟩
  · exact ⟨fun hpending => ⟨hpending, rfl⟩, rfl⟩
  · rw [hself]
    exact ⟨nofun, rfl⟩

theorem read_spec {w w' : Facade τ F} {t : τ} {bufLen : ℤ} {dterr : Option Dterr}
    {out : Option (List UInt8)} (h : read w t bufLen = some (w', dterr, out)) :
    SameTx w.self w'.self := by
  unfold read at h
  split at h
  · obtain ⟨rfl, -⟩ : w = w' ∧ _ := by simpa using h
    exact .refl w.self
  · rcases run_facade h with ⟨rfl, -⟩ | ⟨-, hself, -⟩
    · exact .refl w'.self
    · rw [hself]
      unfold readLocked
      dsimp only
      split
      · exact ⟨rfl, rfl, rfl⟩
      · split <;> exact ⟨rfl, rfl, rfl⟩

omit [Dtringfifo F] in
theorem setRxSemaphore_spec {w w' : Facade τ F} {t : τ} {rxSemaphore : Bool}
    {dterr : Option Dterr} {out : Unit}
    (h : setRxSemaphore w t rxSemaphore = some (w', dterr, out)) : SameTx w.self w'.self := by
  rcases run_facade h with ⟨rfl, -⟩ | ⟨-, hself, -⟩
  · exact .refl w'.self
  · rw [hself]
    exact ⟨rfl, rfl, rfl⟩

end Facade

/-! ## What a step can do -/

omit [Dtringfifo F] in
/-- The event is a call of attach. -/
def SlaveEvent.isAttach : SlaveEvent τ F → Bool
  | .attach _ _ => true
  | .detach | .enable _ _ | .read _ _ | .write _ _ _ | .setRxSemaphore _ _ | .task _ => false

/-- The step is a poll. -/
def SlaveEvent.polls (dm : DtioxModbus) (self : Slave F) : SlaveEvent τ F → Bool
  | .task e => e.polls dm self
  | .attach _ _ | .detach | .enable _ _ | .read _ _ | .write _ _ _ | .setRxSemaphore _ _ => false

omit [Dtringfifo F] in
/-- Nothing is pending that was not, and the stop request of the task is as it was. -/
structure TxKept (a b : Slave F) : Prop where
  txPending : b.txPending = true → a.txPending = true ∧ b.txLen = a.txLen
  rxtaskStopRequested : b.rxtaskStopRequested = a.rxtaskStopRequested

omit [Dtringfifo F] in
theorem SameTx.kept {a b : Slave F} (h : SameTx a b) : TxKept a b where
  txPending hpending := ⟨h.txPending.symm.trans hpending, h.txLen⟩
  rxtaskStopRequested := h.rxtaskStopRequested

/-- A step of the task keeps the lock, and is taken at its place. -/
theorem taskStep_cases {dm : DtioxModbus} {s s' : SlaveState τ F} {e : TaskEvent F} (h : s.taskStep dm e = some s') :
    ∃ pc t', s.pc = some pc ∧ e.ofTask = true ∧ (s.task pc).step dm e = some t' ∧
      s'.facade = { s.facade with self := t'.self } ∧ s'.pc = some t'.pc := by
  unfold SlaveState.taskStep at h
  split at h
  · cases h
  · next pc hpc =>
      obtain ⟨hown, hcall⟩ := Option.ite_none_right_eq_some.1 h
      obtain ⟨t', ht', rfl⟩ := Option.map_eq_some_iff.1 hcall
      exact ⟨pc, t', hpc, hown, ht', rfl, rfl⟩

variable [DecidableEq τ]

/-- The steps, by what they do to the transmit side. -/
inductive Effect (dm : DtioxModbus) (s : SlaveState τ F) :
    SlaveEvent τ F → SlaveState τ F → Prop
  /-- an attach that finds a listening socket -/
  | listening {t : τ} {calls : AttachCalls} (hlistening : 0 < s.facade.self.listeningSocket) :
      Effect dm s (.attach t calls) { s with last := .attached }
  | attach {t : τ} {calls : AttachCalls} {facade : Facade τ F} {dterr : Option Dterr}
      (hlistening : s.facade.self.listeningSocket ≤ 0)
      (hpending : facade.self.txPending = true →
        s.facade.self.txPending = true ∧ facade.self.txLen = s.facade.self.txLen)
      (hstop : s.facade.self.rxtaskStopRequested = false →
        facade.self.rxtaskStopRequested = false)
      (hflags : dterr = none →
        facade.self.enabled = true ∧ facade.self.sessionStopRequested = false) :
      Effect dm s (.attach t calls)
        { s with
          facade := facade
          pc := if dterr = none then some .serverTop else s.pc
          last := if dterr = none then .attached else .other }
  /-- anything else that neither accepts nor refuses a message, nor polls -/
  | quiet {e : SlaveEvent τ F} {s' : SlaveState τ F} (he : e.isAttach = false)
      (hpolls : e.polls dm s.facade.self = false)
      (hkept : TxKept s.facade.self s'.facade.self) (hunserved : s'.unserved = s.unserved)
      (hlast : s'.last = .other) : Effect dm s e s'
  | refused {t : τ} {buf : List UInt8} {len : ℤ} {facade : Facade τ F}
      (hself : facade.self = s.facade.self) (hpending : s.facade.self.txPending = true) :
      Effect dm s (.write t buf len) { s with facade := facade, last := .refused }
  | accepted {t : τ} {buf : List UInt8} {len : ℤ} {facade : Facade τ F} (hlen : 0 ≤ len)
      (htxLen : facade.self.txLen = len)
      (hstop : facade.self.rxtaskStopRequested = s.facade.self.rxtaskStopRequested) :
      Effect dm s (.write t buf len) { s with facade := facade, unserved := true, last := .other }
  | polled {e : TaskEvent F} {self : Slave F} {pc : Option Pc} (hpc : s.pc = some .replied)
      (hpolls : e.polls dm s.facade.self = true)
      (hpending : self.txPending =
        (s.facade.self.txPending && !decide (s.facade.self.txLen > 0)))
      (hstop : self.rxtaskStopRequested = s.facade.self.rxtaskStopRequested) :
      Effect dm s (.task e)
        { facade := { s.facade with self := self }, pc := pc, unserved := false, last := .polled }

theorem SlaveState.step_effect {dm : DtioxModbus} {s s' : SlaveState τ F} {e : SlaveEvent τ F}
    (h : s.step dm e = some s') : Effect dm s e s' := by
  cases e with
  | attach t calls =>
      obtain ⟨-, hcall⟩ := Option.ite_none_left_eq_some.1 h
      obtain ⟨⟨w', dterr⟩, hattach, rfl⟩ := Option.map_eq_some_iff.1 hcall
      rcases attach_spec hattach with ⟨hlistening, rfl, rfl⟩ | ⟨hlistening, hpending, hstop, hflags⟩
      · have hnot : ¬(s.facade.self.listeningSocket ≤ 0 ∧ (none : Option Dterr) = none) :=
          fun hle => absurd hle.1 (Int.not_le.2 hlistening)
        dsimp only
        rw [if_neg hnot, if_pos rfl]
        exact .listening hlistening
      · simp only [hlistening, true_and]
        exact .attach hlistening hpending hstop hflags
  | detach =>
      obtain rfl := Option.some.inj h
      exact .quiet rfl rfl ⟨fun hpending => ⟨hpending, rfl⟩, rfl⟩ rfl rfl
  | enable t enabled =>
      obtain ⟨⟨w', dterr, out⟩, henable, rfl⟩ := Option.map_eq_some_iff.1 h
      exact .quiet rfl rfl ⟨(enable_spec henable).1, (enable_spec henable).2⟩ rfl rfl
  | read t bufLen =>
      obtain ⟨⟨w', dterr, out⟩, hread, rfl⟩ := Option.map_eq_some_iff.1 h
      exact .quiet rfl rfl (read_spec hread).kept rfl rfl
  | setRxSemaphore t rxSemaphore =>
      obtain ⟨⟨w', dterr, out⟩, hset, rfl⟩ := Option.map_eq_some_iff.1 h
      exact .quiet rfl rfl (setRxSemaphore_spec hset).kept rfl rfl
  | write t buf len =>
      obtain ⟨⟨w', dterr, out⟩, hwrite, rfl⟩ := Option.map_eq_some_iff.1 h
      rcases write_spec hwrite with ⟨hself, rfl, hbusy⟩ | ⟨-, htxLen, hlen, rfl, hbusy, hstop⟩
      · have hunserved : (s.unserved || (none : Option ℤ).isSome) = s.unserved := Bool.or_false _
        dsimp only
        by_cases hrefused : isBusy dterr = true
        · rw [hunserved, if_pos hrefused]
          exact .refused hself (hbusy hrefused)
        · rw [hunserved, if_neg hrefused]
          refine .quiet rfl rfl ?_ rfl rfl
          rw [hself]
          exact (SameTx.refl _).kept
      · have hunserved : (s.unserved || (some len).isSome) = true := Bool.or_true _
        dsimp only
        rw [hunserved, if_neg (ne_true_of_eq_false hbusy)]
        exact .accepted hlen htxLen hstop
  | task e =>
      unfold SlaveState.step SlaveState.taskStep at h
      dsimp only at h
      split at h
      · cases h
      · next pc hpc =>
          obtain ⟨hown, hcall⟩ := Option.ite_none_right_eq_some.1 h
          obtain ⟨r, htask, rfl⟩ := Option.map_eq_some_iff.1 hcall
          cases hpolls : e.polls dm s.facade.self with
          | false =>
              have hsame := sameTx_taskStep (s := s.task pc) hown hpolls htask
              exact .quiet rfl hpolls hsame.kept (Bool.and_true _) rfl
          | true =>
              obtain ⟨hreplied, hpending, hstop⟩ := taskStep_of_polls (s := s.task pc) hpolls htask
              obtain rfl : pc = .replied := hreplied
              have hunserved : (s.unserved && !true) = false := Bool.and_false _
              rw [hunserved, if_pos rfl]
              exact .polled hpc hpolls hpending hstop

end DtioxLinuxModbusTcpSlave
