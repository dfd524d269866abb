import DtmcLinux.Modbus.Facade

set_option autoImplicit false

/-! # Is the lock given back?

Every public operation of the Modbus backends is meant to give its lock back on every return; that
is what the label `release_lock_and_cleanup` is for. The macros `ERRNO_C` and `DTERR_C` know only
the label `cleanup`, which does not release. In a region that holds the lock they stand around the
set-up calls and the start of the receive task in the three attach functions, and around
`dttasker_get_info` in the slave's `concat_format`. An object keeps its lock free exactly as long as
none of these calls fails there. -/

/-! ## The masters -/

namespace ModbusMaster

/-- What attach of a master calls, and what the calls return. -/
structure AttachArgs where
  newFailed : String
  created : Bool
  setup : List LibResult
  connect : LibResult
  taskerStart : Option Dterr

variable {τ Cfg F C R X : Type*}

/-- The body of attach. -/
def AttachArgs.body (a : AttachArgs) (w : World τ Cfg F) : World τ Cfg F × Label × Option Dterr :=
  attachBody a.newFailed a.created a.setup a.connect a.taskerStart w

/-- No call under `ERRNO_C` or `DTERR_C` fails after the context is created: not the set-up calls,
    and not the start of the receive task once the object is connected. -/
def AttachArgs.ReleasesLock (a : AttachArgs) (isConnected : Bool) : Prop :=
  a.created = true → (∀ r ∈ a.setup, r.rc ≠ -1) ∧
    (isConnected = true ∨ a.connect.rc ≠ -1 → a.taskerStart = none)

theorem setupError_eq_none_iff {setup : List LibResult} :
    setupError setup = none ↔ ∀ r ∈ setup, r.rc ≠ -1 := by
  induction setup with
  | nil => simp [setupError]
  | cons r rest ih =>
      rw [setupError, List.forall_mem_cons, ← ih]
      split
      · next h => simp [h]
      · next h => simp [h]

/-- Whether `ensure_connected` succeeds on an object with a context. -/
theorem ensureConnected_ok_iff {w : World τ Cfg F} {mb : ℕ} (connect : LibResult)
    (hmb : w.self.mb = some mb) :
    (ensureConnected w connect).2 = none ↔ w.self.isConnected = true ∨ connect.rc ≠ -1 := by
  unfold ensureConnected
  split
  · next hflag => simp [hflag]
  · next hflag =>
      rw [hmb]
      dsimp only
      split
      · next hrc => simp [hflag, hrc]
      · next hrc => simp [hrc]

/-- Attach reaches the label that releases exactly when none of its macros jumps. -/
theorem attachBody_releases_iff (a : AttachArgs) (w : World τ Cfg F) :
    (a.body w).2.1 = .releaseLockAndCleanup ↔ a.ReleasesLock w.self.isConnected := by
  unfold AttachArgs.body attachBody AttachArgs.ReleasesLock
  rcases a with ⟨newFailed, created, setup, connect, start⟩
  cases created with
  | false => simp
  | true =>
      simp only [Bool.not_true, Bool.false_eq_true, if_false, forall_const]
      rw [← setupError_eq_none_iff]
      cases setupError setup with
      | some e => simp
      | none =>
          have hconn := ensureConnected_ok_iff (w := resetFlags (newContext w)) connect rfl
          rcases hens : ensureConnected (resetFlags (newContext w)) connect with ⟨v, _ | e⟩
          · rw [hens] at hconn
            have hok : w.self.isConnected = true ∨ connect.rc ≠ -1 := hconn.1 rfl
            cases start with
            | none => simp
            | some e => simp [hok]
          · rw [hens] at hconn
            have hfail : ¬(w.self.isConnected = true ∨ connect.rc ≠ -1) :=
              fun h => absurd (hconn.2 h) (by simp)
            simp [hfail]

theorem ensureConnected_lock (w : World τ Cfg F) (connect : LibResult) :
    (ensureConnected w connect).1.lock = w.lock := by
  obtain ⟨_, _, hw⟩ := ensureConnected_frame w connect
  rw [hw]

theorem closeContext_lock (w : World τ Cfg F) : (closeContext w).lock = w.lock := by
  unfold closeContext
  split <;> rfl

theorem attachBody_lock (a : AttachArgs) (w : World τ Cfg F) : (a.body w).1.lock = w.lock := by
  have hconn := ensureConnected_lock (resetFlags (newContext w)) a.connect
  unfold AttachArgs.body attachBody
  split
  · rfl
  · split
    · rfl
    · split
      · next heq => rw [heq] at hconn; exact hconn
      · next heq =>
          rw [heq] at hconn
          split <;> exact hconn

/-- What a critical section does to the lock: nothing, and it ends at the label that releases. -/
structure Releases (body : World τ Cfg F → World τ Cfg F × Label × Option Dterr) : Prop where
  lock : ∀ w, (body w).1.lock = w.lock
  label : ∀ w, (body w).2.1 = .releaseLockAndCleanup

theorem detachBody_releases : Releases (detachBody : World τ Cfg F → _) where
  lock _ := closeContext_lock _
  label _ := rfl

theorem setRxSemaphoreBody_releases (rxSemaphore : Bool) :
    Releases (setRxSemaphoreBody rxSemaphore : World τ Cfg F → _) where
  lock _ := rfl
  label _ := rfl

section

variable [Dtringfifo F]

theorem enableBody_releases (enabled : Bool) :
    Releases (enableBody enabled : World τ Cfg F → _) where
  lock _ := rfl
  label _ := rfl

theorem pollBody_releases (dm : DtioxModbus) (deadOnReadError posts : Bool) (maxBlob : ℤ)
    (cmd hdr data : LibResult) (hdrRegs : UInt16 × UInt16) (dataRegs : ℕ → UInt16) :
    Releases (pollBody dm deadOnReadError posts maxBlob cmd hdr data hdrRegs dataRegs :
      World τ Cfg F → _) where
  lock w := by
    have hdead : (if deadOnReadError then { w with self := { w.self with deadSlavePending := true } }
        else w : World τ Cfg F).lock = w.lock := by
      split <;> rfl
    unfold pollBody
    dsimp only
    split
    · rfl
    · split
      · exact hdead
      · split
        · rfl
        · split
          · exact hdead
          · rfl
  label w := by
    unfold pollBody
    dsimp only
    split
    · rfl
    · split
      · rfl
      · split
        · rfl
        · split <;> rfl

end

section

variable [DecidableEq τ]

/-- An operation that finds the lock free: it returns, and the lock is free afterwards exactly when
    its body reaches the label that releases. -/
theorem locked_of_free {w : World τ Cfg F} {t : τ}
    {body : World τ Cfg F → World τ Cfg F × Label × Option Dterr}
    (hlock : ∀ w, (body w).1.lock = w.lock) (hfree : w.lock.owner = none) :
    ∃ w' dterr, locked w t body = some (w', dterr) ∧
      (w'.lock.owner = none ↔
        (body { w with lock := ⟨some t⟩ }).2.1 = .releaseLockAndCleanup) := by
  obtain ⟨w', dterr, out, hrun, hiff⟩ := LockFrame.run_of_free (P := World.place) t ()
    (fun w => ((body w).1, (body w).2.1, (body w).2.2, ())) (fun w => hlock w) hfree
  refine ⟨w', dterr, ?_, hiff⟩
  rw [locked_eq_run, hrun]
  rfl

theorem locked_releases {w : World τ Cfg F} {t : τ}
    {body : World τ Cfg F → World τ Cfg F × Label × Option Dterr}
    (hbody : Releases body) (hfree : w.lock.owner = none) :
    ∃ w' dterr, locked w t body = some (w', dterr) ∧ w'.lock.owner = none := by
  obtain ⟨w', dterr, hrun, hiff⟩ := locked_of_free (t := t) hbody.lock hfree
  exact ⟨w', dterr, hrun, hiff.2 (hbody.label _)⟩

theorem read_releases [Dtringfifo F] {w : World τ Cfg F} (t : τ) (bufLen : ℤ)
    (info : Except Dterr TaskerInfo) (hfree : w.lock.owner = none) :
    ∃ w' out, read w t bufLen info = some (w', out) ∧ w'.lock.owner = none := by
  unfold read
  split
  · exact ⟨_, _, rfl, hfree⟩
  · split
    · exact ⟨_, _, rfl, hfree⟩
    · rw [Dtlock.acquire_of_free t hfree]
      refine ⟨_, _, rfl, ?_⟩
      change (Dtlock.release ⟨some t⟩ t).1.owner = none
      rw [Dtlock.release_held]

omit [DecidableEq τ] in
theorem writeLocked_lock (w : World τ Cfg F) (connect : LibResult)
    (send : Cfg → Option Dterr × Option ℤ) : (writeLocked w connect send).1.lock = w.lock := by
  have hconn := ensureConnected_lock w connect
  unfold writeLocked
  split
  · rfl
  · split
    · next heq => rw [heq] at hconn; exact hconn
    · next heq => rw [heq] at hconn; exact hconn

omit [DecidableEq τ] in
theorem disconnectOnError_lock (w : World τ Cfg F) (dterr : Option Dterr) :
    (disconnectOnError w dterr).lock = w.lock := by
  unfold disconnectOnError
  split
  · exact closeContext_lock w
  · rfl

theorem write_releases {w : World τ Cfg F} (t : τ) (len : ℤ) (connect : LibResult)
    (send : Cfg → Option Dterr × Option ℤ) (hfree : w.lock.owner = none) :
    ∃ w' out, write w t len connect send = some (w', out) ∧ w'.lock.owner = none := by
  unfold write
  split
  · exact ⟨_, _, rfl, hfree⟩
  · split
    · exact ⟨_, _, rfl, hfree⟩
    · rw [Dtlock.acquire_of_free t hfree]
      have hheld := writeLocked_lock { w with lock := ⟨some t⟩ } connect send
      rcases hwrite : writeLocked { w with lock := ⟨some t⟩ } connect send with ⟨v, dterr, out⟩
      rw [hwrite] at hheld
      dsimp only
      rw [hwrite]
      refine ⟨_, _, rfl, ?_⟩
      rw [releaseLock, disconnectOnError_lock, hheld, Dtlock.release_held]

end

/-! ### Runs of a master -/

/-- A backend with the rest of its public operations. `X` are the arguments of `concat_format` and
    the results of what it calls. -/
structure PublicBackend (τ Cfg F C R X : Type*) extends Backend τ Cfg F C R where
  setRxSemaphore : World τ Cfg F → τ → Bool → Option (World τ Cfg F × Option Dterr)
  concatFormat : World τ Cfg F → τ → X → Option (World τ Cfg F)
  attachArgs : Cfg → C → AttachArgs

/-- A call of a public operation, or a poll round of the receive task. -/
inductive Call (τ C R X : Type*) where
  | op (e : Event τ C R)
  | setRxSemaphore (t : τ) (rxSemaphore : Bool)
  | concatFormat (t : τ) (x : X)

/-- One call. -/
def PublicBackend.call (b : PublicBackend τ Cfg F C R X) (w : World τ Cfg F) :
    Call τ C R X → Option (World τ Cfg F)
  | .op e => b.step w e
  | .setRxSemaphore t rxSemaphore => (b.setRxSemaphore w t rxSemaphore).map (·.1)
  | .concatFormat t x => b.concatFormat w t x

/-- Nobody holds the lock. -/
def LockFree (w : World τ Cfg F) : Prop := w.lock.owner = none

/-- The condition on a call: only attach has one. -/
def PublicBackend.ReleasesLock (b : PublicBackend τ Cfg F C R X) (w : World τ Cfg F) :
    Call τ C R X → Prop
  | .op (.attach _ calls) => (b.attachArgs w.self.cfg calls).ReleasesLock w.self.isConnected
  | _ => True

variable [DecidableEq τ] [Dtringfifo F]

/-- The operations are those of a master. -/
structure PublicBackend.IsMaster (b : PublicBackend τ Cfg F C R X) : Prop
    extends b.toBackend.IsMaster where
  attachArgs_eq : ∀ w t calls,
    b.attach w t calls = locked w t (b.attachArgs w.self.cfg calls).body
  setRxSemaphore_eq : ∀ w t rxSemaphore,
    b.setRxSemaphore w t rxSemaphore = locked w t (setRxSemaphoreBody rxSemaphore)
  concatFormat_free : ∀ w t x, LockFree w → ∃ w', b.concatFormat w t x = some w' ∧ LockFree w'

variable {b : PublicBackend τ Cfg F C R X}

/-- **Step lemma.** A call that finds the lock free returns, and leaves the lock free exactly under
    the condition. -/
theorem PublicBackend.call_of_free (hb : b.IsMaster) {w : World τ Cfg F} (hw : LockFree w)
    (c : Call τ C R X) :
    ∃ w', b.call w c = some w' ∧ (LockFree w' ↔ b.ReleasesLock w c) := by
  -- a critical section that always reaches the label
  have hreleases : ∀ {t body}, Releases body →
      ∃ w', (locked w t body).map (·.1) = some w' ∧ (LockFree w' ↔ True) := by
    intro t body hbody
    obtain ⟨w', dterr, hrun, hfree⟩ := locked_releases (t := t) hbody hw
    exact ⟨w', by rw [hrun]; rfl, iff_of_true hfree trivial⟩
  cases c with
  | setRxSemaphore t rxSemaphore =>
      rw [call, hb.setRxSemaphore_eq]
      exact hreleases (setRxSemaphoreBody_releases rxSemaphore)
  | concatFormat t x =>
      obtain ⟨w', hrun, hfree⟩ := hb.concatFormat_free w t x hw
      exact ⟨w', hrun, iff_of_true hfree trivial⟩
  | op e =>
      cases e with
      | attach t calls =>
          obtain ⟨w', dterr, hrun, hiff⟩ := locked_of_free (t := t)
            (attachBody_lock (b.attachArgs w.self.cfg calls)) hw
          refine ⟨w', ?_, ?_⟩
          · rw [call, Backend.step, hb.attachArgs_eq, hrun]
            rfl
          · exact hiff.trans (attachBody_releases_iff _ _)
      | detach t =>
          rw [call, Backend.step, hb.detach_eq]
          exact hreleases detachBody_releases
      | enable t enabled =>
          rw [call, Backend.step, hb.enable_eq]
          exact hreleases (enableBody_releases enabled)
      | read t bufLen info =>
          obtain ⟨w', out, hrun, hfree⟩ := read_releases t bufLen info hw
          exact ⟨w', by rw [call, Backend.step, hb.read_eq, hrun]; rfl, iff_of_true hfree trivial⟩
      | write t len connect results =>
          obtain ⟨send, heq⟩ := hb.write_eq w t len connect results
          obtain ⟨w', out, hrun, hfree⟩ := write_releases t len connect send hw
          exact ⟨w', by rw [call, Backend.step, heq, hrun]; rfl, iff_of_true hfree trivial⟩
      | pollRound t cmd hdr data hdrRegs dataRegs =>
          obtain ⟨dm, dead, posts, maxBlob, heq⟩ :=
            hb.pollRound_eq w t cmd hdr data hdrRegs dataRegs
          rw [call, Backend.step, heq]
          exact hreleases (pollBody_releases dm dead posts maxBlob cmd hdr data hdrRegs dataRegs)

/-- **Exact condition, for any master.** -/
theorem PublicBackend.lock_free_iff (hb : b.IsMaster) {w : World τ Cfg F} (hw : LockFree w)
    (calls : List (Call τ C R X)) :
    Run.AllStates b.call LockFree w calls ↔ Run.AllSteps b.call b.ReleasesLock w calls :=
  Run.allStates_iff_allSteps_of_enabled (fun _ c hs => call_of_free hb hs c) calls w hw

end ModbusMaster

/-! ## The two masters -/

namespace DtioxLinuxModbusTcpMaster

open ModbusMaster

variable {τ F : Type*} [DecidableEq τ] [Dtringfifo F]

/-- The arguments of `concat_format`, and the results of what it calls. -/
structure ConcatArgs where
  inStr : Option String
  separator : Option String
  calls : FormatCalls

/-- The public operations of the TCP master. -/
def publicBackend (dm : DtioxModbus) :
    PublicBackend τ Config F AttachCalls LibResult ConcatArgs where
  toBackend := backend dm
  setRxSemaphore := setRxSemaphore
  concatFormat w t x := (concatFormat w t x.inStr x.separator x.calls).map (·.1)
  attachArgs cfg calls := {
    newFailed := "modbus_new_tcp failed"
    created := calls.newTcp cfg.ip cfg.port
    setup := [calls.setSlave cfg.unitId,
      calls.setResponseTimeout (cfg.responseTimeoutMs.tdiv 1000)
        (cfg.responseTimeoutMs.tmod 1000 * 1000)]
    connect := calls.connect
    taskerStart := calls.taskerStart }

theorem publicBackend_isMaster (dm : DtioxModbus) :
    (publicBackend dm :
      PublicBackend τ Config F AttachCalls LibResult ConcatArgs).IsMaster where
  toIsMaster := backend_isMaster dm
  attachArgs_eq _ _ _ := rfl
  setRxSemaphore_eq _ _ _ := rfl
  concatFormat_free w t x hw := by
    obtain ⟨w', dterr, out, hrun, hiff⟩ := LockFrame.run_of_free (P := World.place) t ""
      (fun w : World τ Config F => (w, Label.releaseLockAndCleanup, none,
        formatText w.self (x.inStr.getD "") (x.separator.getD ""))) (fun _ => rfl) hw
    refine ⟨w', ?_, hiff.2 rfl⟩
    change (concatFormat w t x.inStr x.separator x.calls).map (·.1) = some w'
    rw [concatFormat, hrun]
    cases dterr <;> rfl

end DtioxLinuxModbusTcpMaster

namespace DtioxLinuxModbusRtuMaster

open ModbusMaster

variable {τ F : Type*} [DecidableEq τ] [Dtringfifo F]

/-- The arguments of `concat_format`, and the results of what it calls. -/
structure ConcatArgs where
  inStr : Option String
  separator : Option String
  uartString : String
  concat : Option String → String → String → Option String

/-- The public operations of the RTU master. -/
def publicBackend (dm : DtioxModbus) :
    PublicBackend τ Config F AttachCalls (List UInt8 × (ℕ → LibResult)) ConcatArgs where
  toBackend := backend dm
  setRxSemaphore := setRxSemaphore
  concatFormat w t x := (concatFormat w t x.inStr x.separator x.uartString x.concat).map (·.1)
  attachArgs cfg calls := {
    newFailed := "modbus_new_rtu failed"
    created := calls.newRtu cfg.device
    setup := [calls.setSlave cfg.slaveId,
      calls.setResponseTimeout (cfg.responseTimeoutMs.tdiv 1000)
        (cfg.responseTimeoutMs.tmod 1000 * 1000)] ++
      if cfg.byteTimeoutMs > 0 then
        [calls.setByteTimeout (cfg.byteTimeoutMs.tdiv 1000) (cfg.byteTimeoutMs.tmod 1000 * 1000)]
      else []
    connect := calls.connect
    taskerStart := calls.taskerStart }

theorem publicBackend_isMaster (dm : DtioxModbus) :
    (publicBackend dm : PublicBackend τ Config F AttachCalls (List UInt8 × (ℕ → LibResult))
      ConcatArgs).IsMaster where
  toIsMaster := backend_isMaster dm
  attachArgs_eq _ _ _ := rfl
  setRxSemaphore_eq _ _ _ := rfl
  concatFormat_free w t x hw := by
    obtain ⟨w', dterr, out, hrun, hiff⟩ := LockFrame.run_of_free (P := World.place) t ""
      (fun w : World τ Config F => (w, Label.releaseLockAndCleanup, none,
        formatText w.self x.uartString)) (fun _ => rfl) hw
    refine ⟨w', ?_, hiff.2 rfl⟩
    change (concatFormat w t x.inStr x.separator x.uartString x.concat).map (·.1) = some w'
    rw [concatFormat, hrun]
    cases dterr <;> rfl

end DtioxLinuxModbusRtuMaster

/-! ## The slave -/

namespace DtioxLinuxModbusTcpSlave

open ModbusMaster (Label TaskerInfo)
open LockFrame (LeavesLock)

variable {τ F : Type*}

/-- A call of a public operation by thread `t`, with the results of everything it calls. -/
inductive Call (τ : Type*) where
  | attach (t : τ) (calls : AttachCalls)
  | detach (t : τ)
  | enable (t : τ) (enabled : Bool)
  | read (t : τ) (bufLen : ℤ)
  | write (t : τ) (buf : List UInt8) (len : ℤ)
  | setRxSemaphore (t : τ) (rxSemaphore : Bool)
  | concatFormat (t : τ) (inStr separator : Option String) (calls : ConcatCalls)

/-- One call. -/
def call [DecidableEq τ] [Dtringfifo F] (dm : DtioxModbus) (w : Facade τ F) :
    Call τ → Option (Facade τ F)
  | .attach t calls => (attach dm w t calls).map (·.1)
  | .detach _ => some (detach w)
  | .enable t enabled => (enable dm w t enabled).map (·.1)
  | .read t bufLen => (read w t bufLen).map (·.1)
  | .write t buf len => (write w t buf len).map (·.1)
  | .setRxSemaphore t rxSemaphore => (setRxSemaphore w t rxSemaphore).map (·.1)
  | .concatFormat t inStr separator calls => (concatFormat w t inStr separator calls).map (·.1)

/-- Nobody holds the lock. -/
def LockFree (w : Facade τ F) : Prop := w.lock.owner = none

/-- No call under `ERRNO_C` or `DTERR_C` fails while attach holds the lock: not the optional set-up
    call, and not the start of the receive task once the socket listens. -/
def AttachReleasesLock (dm : DtioxModbus) (w : Facade τ F) (calls : AttachCalls) : Prop :=
  calls.newTcp w.port = true → (∀ r ∈ timeoutSetup w calls, r.rc ≠ -1) ∧
    (calls.mappingNew (requiredRegisters dm) = true → 0 ≤ calls.listen.rc →
      calls.taskerStart = none)

/-- The condition on a call: attach that gets as far as the lock, and `concat_format` with a receive
    task whose state cannot be read. -/
def ReleasesLock (dm : DtioxModbus) (w : Facade τ F) : Call τ → Prop
  | .attach _ calls => w.self.listeningSocket ≤ 0 →
    verifyRxtaskNotRunning w calls.info = none → AttachReleasesLock dm w calls
  | .concatFormat _ _ _ calls => w.rxtaskerHandle = true → ∃ info, calls.info = .ok info
  | _ => True

theorem attachBody_leavesLock (dm : DtioxModbus) (calls : AttachCalls) :
    LeavesLock (Facade.place : LockFrame.Place (Facade τ F) τ) (attachBody dm calls) := by
  intro w
  have heffect := attachBody_effect dm calls w
  generalize attachBody dm calls w = r at heffect ⊢
  cases heffect with
  | _ => rfl

/-- Attach reaches the label that releases exactly when none of its macros jumps. -/
theorem attachBody_releases_iff (dm : DtioxModbus) (w : Facade τ F) (calls : AttachCalls) :
    (attachBody dm calls w).2.1 = .releaseLockAndCleanup ↔ AttachReleasesLock dm w calls := by
  unfold AttachReleasesLock
  rw [← ModbusMaster.setupError_eq_none_iff]
  have heffect := attachBody_effect dm calls w
  generalize attachBody dm calls w = r at heffect ⊢
  cases heffect with
  | noContext hnew => simp [hnew]
  | setupFails hnew hsetup => simp [hnew, hsetup]
  | noMapping hnew hsetup hmapping => simp [hsetup, hmapping]
  | notListening hnew hsetup hmapping hlisten => simp [hsetup, Int.not_le.2 hlisten]
  | startFails hnew hsetup hmapping hlisten hstart => simp [hnew, hmapping, hlisten, hstart]
  | attached hnew hsetup hmapping hlisten hstart => simp [hsetup, hstart]

theorem attachCleanup_lock (w : Facade τ F) (dterr : Option Dterr) :
    (attachCleanup w dterr).lock = w.lock := by
  unfold attachCleanup
  split <;> rfl

theorem concatFormatBody_leavesLock (base sep : String) (calls : ConcatCalls) :
    LeavesLock (Facade.place : LockFrame.Place (Facade τ F) τ)
      (concatFormatBody base sep calls) := by
  intro w
  unfold concatFormatBody
  split
  · split <;> rfl
  · rfl

theorem concatFormatBody_releases_iff (base sep : String) (calls : ConcatCalls)
    (w : Facade τ F) :
    (concatFormatBody base sep calls w).2.1 = .releaseLockAndCleanup ↔
      (w.rxtaskerHandle = true → ∃ info, calls.info = .ok info) := by
  unfold concatFormatBody
  split
  · next hhandle =>
      split
      · next heq => simp [hhandle, heq]
      · next info heq => simp [heq]
  · next hhandle => simp [hhandle]

variable [DecidableEq τ]

/-- An operation that always reaches the label that releases. -/
theorem run_releases {α : Type*} {w : Facade τ F} (t : τ) (unset : α)
    (body : Facade τ F → Facade τ F × Label × Option Dterr × α)
    (hlock : LeavesLock Facade.place body)
    (hlabel : ∀ w, (body w).2.1 = .releaseLockAndCleanup) (hw : LockFree w) :
    ∃ w' out, LockFrame.run Facade.place w t unset body = some (w', out) ∧ LockFree w' := by
  obtain ⟨w', dterr, out, hrun, hiff⟩ := LockFrame.run_of_free t unset body hlock hw
  exact ⟨w', (dterr, out), hrun, hiff.2 (hlabel _)⟩

variable [Dtringfifo F]

/-- **Step lemma.** A call that finds the lock free returns, and leaves the lock free exactly under
    the condition. -/
theorem call_of_free (dm : DtioxModbus) {w : Facade τ F} (hw : LockFree w) (c : Call τ) :
    ∃ w', call dm w c = some w' ∧ (LockFree w' ↔ ReleasesLock dm w c) := by
  cases c with
  | attach t calls =>
      rw [call, attach]
      by_cases hlistening : w.self.listeningSocket > 0
      · rw [if_pos hlistening]
        refine ⟨w, rfl, iff_of_true hw fun hle => ?_⟩
        exact absurd hle (Int.not_le.2 hlistening)
      · rw [if_neg hlistening]
        cases hverify : verifyRxtaskNotRunning w calls.info with
        | some e =>
            refine ⟨_, rfl, iff_of_true ?_ fun _ hnone => ?_⟩
            · rw [LockFree, attachCleanup_lock]
              exact hw
            · rw [hverify] at hnone
              exact absurd hnone (by simp)
        | none =>
            obtain ⟨w', dterr, out, hrun, hiff⟩ := LockFrame.run_of_free t () _
              (attachBody_leavesLock dm calls) hw
            refine ⟨attachCleanup w' dterr, by dsimp only; rw [hrun]; rfl, ?_⟩
            rw [LockFree, attachCleanup_lock]
            refine hiff.trans ((attachBody_releases_iff dm _ calls).trans ?_)
            exact ⟨fun h _ _ => h, fun h => h (Int.not_lt.1 hlistening) hverify⟩
  | detach t => exact ⟨_, rfl, iff_of_true hw trivial⟩
  | enable t enabled =>
      obtain ⟨w', out, hrun, hfree⟩ := run_releases t () (enableBody dm enabled)
        (fun _ => rfl) (fun _ => rfl) hw
      exact ⟨w', by rw [call, enable, hrun]; rfl, iff_of_true hfree trivial⟩
  | read t bufLen =>
      rw [call, read]
      by_cases hneg : bufLen < 0
      · rw [if_pos hneg]
        exact ⟨w, rfl, iff_of_true hw trivial⟩
      · rw [if_neg hneg]
        obtain ⟨w', out, hrun, hfree⟩ := run_releases t none (fun w : Facade τ F =>
          let r := readLocked w.self bufLen
          ({ w with self := r.1 }, Label.releaseLockAndCleanup, r.2.1, r.2.2))
          (fun _ => rfl) (fun _ => rfl) hw
        exact ⟨w', by rw [hrun]; rfl, iff_of_true hfree trivial⟩
  | write t buf len =>
      rw [call, write]
      cases hcheck : writeCheck w.self.cfg len with
      | some e => exact ⟨w, rfl, iff_of_true hw trivial⟩
      | none =>
          obtain ⟨w', out, hrun, hfree⟩ := run_releases t none (fun w : Facade τ F =>
            let r := writeLocked w.self buf len
            ({ w with self := r.1 }, Label.releaseLockAndCleanup, r.2.1, r.2.2))
            (fun _ => rfl) (fun _ => rfl) hw
          exact ⟨w', by dsimp only; rw [hrun]; rfl, iff_of_true hfree trivial⟩
  | setRxSemaphore t rxSemaphore =>
      obtain ⟨w', out, hrun, hfree⟩ := run_releases t () (fun w : Facade τ F =>
        ({ w with self := { w.self with rxSemaphore := rxSemaphore } },
          Label.releaseLockAndCleanup, none, ())) (fun _ => rfl) (fun _ => rfl) hw
      exact ⟨w', by rw [call, setRxSemaphore, hrun]; rfl, iff_of_true hfree trivial⟩
  | concatFormat t inStr separator calls =>
      obtain ⟨w', dterr, out, hrun, hiff⟩ := LockFrame.run_of_free t "" _
        (concatFormatBody_leavesLock (inStr.getD "") (separator.getD "") calls) hw
      refine ⟨w', ?_, hiff.trans (concatFormatBody_releases_iff _ _ _ _)⟩
      rw [call, concatFormat, hrun]
      cases dterr <;> rfl

/-- **Exact condition, for the slave.** -/
theorem lock_free_iff (dm : DtioxModbus) {w : Facade τ F} (hw : LockFree w)
    (calls : List (Call τ)) :
    Run.AllStates (call dm) LockFree w calls ↔ Run.AllSteps (call dm) (ReleasesLock dm) w calls :=
  Run.allStates_iff_allSteps_of_enabled (fun _ c hs => call_of_free dm hs c) calls w hw

end DtioxLinuxModbusTcpSlave

/-! ## The three backends -/

namespace Modbus

open ModbusMaster (World)

/-- **Exact condition.** For the TCP master, the RTU master and the TCP slave, from every state with
    the lock free and for every sequence of calls: every call gives the lock back exactly when no
    call under `ERRNO_C` or `DTERR_C` fails while the lock is held. -/
theorem lock_balance_exact {τ F : Type*} [DecidableEq τ] [Dtringfifo F] (dm : DtioxModbus) :
    (∀ w : World τ DtioxLinuxModbusTcpMaster.Config F, ModbusMaster.LockFree w → ∀ calls,
      Run.AllStates (DtioxLinuxModbusTcpMaster.publicBackend dm).call ModbusMaster.LockFree w calls
      ↔ Run.AllSteps (DtioxLinuxModbusTcpMaster.publicBackend dm).call
          (DtioxLinuxModbusTcpMaster.publicBackend dm).ReleasesLock w calls) ∧
    (∀ w : World τ DtioxLinuxModbusRtuMaster.Config F, ModbusMaster.LockFree w → ∀ calls,
      Run.AllStates (DtioxLinuxModbusRtuMaster.publicBackend dm).call ModbusMaster.LockFree w calls
      ↔ Run.AllSteps (DtioxLinuxModbusRtuMaster.publicBackend dm).call
          (DtioxLinuxModbusRtuMaster.publicBackend dm).ReleasesLock w calls) ∧
    (∀ w : DtioxLinuxModbusTcpSlave.Facade τ F, DtioxLinuxModbusTcpSlave.LockFree w → ∀ calls,
      Run.AllStates (DtioxLinuxModbusTcpSlave.call dm) DtioxLinuxModbusTcpSlave.LockFree w calls
      ↔ Run.AllSteps (DtioxLinuxModbusTcpSlave.call dm)
          (DtioxLinuxModbusTcpSlave.ReleasesLock dm) w calls) := by
  refine ⟨fun w hw calls => ?_, fun w hw calls => ?_, fun w hw calls => ?_⟩
  · exact ModbusMaster.PublicBackend.lock_free_iff
      (DtioxLinuxModbusTcpMaster.publicBackend_isMaster dm) hw calls
  · exact ModbusMaster.PublicBackend.lock_free_iff
      (DtioxLinuxModbusRtuMaster.publicBackend_isMaster dm) hw calls
  · exact DtioxLinuxModbusTcpSlave.lock_free_iff dm hw calls

/-- What `modbus_set_slave` returns for an address over 247. -/
def invalidSlave : LibResult := ⟨-1, 22, "Invalid argument"⟩

/-- A configured slave whose receive task is idle. -/
def idleSlave : DtioxLinuxModbusTcpSlave.Facade ℕ ByteFifo where
  self := ⟨⟨240⟩, none, 0, 0, false, false, false, false, false, ⟨1024, []⟩, false, 0, [], 0⟩
  port := 502
  responseTimeoutMs := 0
  rxRingCapacity := 1024
  mb := false
  rxtaskerHandle := true
  lock := ⟨none⟩

/-- One attach leaves the lock held: in the masters with an address libmodbus rejects, in the slave
    when its receive task cannot be started. -/
theorem attach_keeps_lock :
    (¬∀ (w : World ℕ DtioxLinuxModbusTcpMaster.Config ByteFifo), ModbusMaster.LockFree w → ∀ calls,
      Run.AllStates (DtioxLinuxModbusTcpMaster.publicBackend .bigEndian).call
        ModbusMaster.LockFree w calls) ∧
    (¬∀ (w : World ℕ DtioxLinuxModbusRtuMaster.Config ByteFifo), ModbusMaster.LockFree w → ∀ calls,
      Run.AllStates (DtioxLinuxModbusRtuMaster.publicBackend .bigEndian).call
        ModbusMaster.LockFree w calls) ∧
    (¬∀ (w : DtioxLinuxModbusTcpSlave.Facade ℕ ByteFifo), DtioxLinuxModbusTcpSlave.LockFree w →
      ∀ calls, Run.AllStates (DtioxLinuxModbusTcpSlave.call .bigEndian)
        DtioxLinuxModbusTcpSlave.LockFree w calls) := by
  refine ⟨fun h => ?_, fun h => ?_, fun h => ?_⟩
  · have hlast := fun w => (h (World.configured ⟨"10.0.0.1", 502, 300, 25, 250, 240, 1024⟩
      (⟨1024, []⟩ : ByteFifo)) rfl
      [.op (.attach 0 ⟨fun _ _ => true, fun _ => invalidSlave, fun _ _ => ModbusMaster.succeeds,
        ModbusMaster.succeeds, none⟩)]).last (t := w)
    exact Option.some_ne_none 0 (hlast _ rfl)
  · have hlast := fun w => (h (World.configured ⟨"/dev/ttyUSB0", 300, 25, 250, 0, 240, false, 1024⟩
      (⟨1024, []⟩ : ByteFifo)) rfl
      [.op (.attach 0 ⟨fun _ => true, fun _ => invalidSlave, fun _ _ => ModbusMaster.succeeds,
        fun _ _ => ModbusMaster.succeeds, ModbusMaster.succeeds, none⟩)]).last (t := w)
    exact Option.some_ne_none 0 (hlast _ rfl)
  · have hlast := fun w => (h idleSlave rfl
      [.attach 0 ⟨.ok ⟨false, "INITIALIZED", none⟩, fun _ => true, fun _ _ => ModbusMaster.succeeds,
        fun _ => true, ⟨5, 0, ""⟩, some (.new .os "pthread_create")⟩]).last (t := w)
    exact Option.some_ne_none 0 (hlast _ rfl)

end Modbus
