import DtmcLinux.Foundation.DescriptorTable
import DtmcLinux.Modbus.SlaveSystem

set_option autoImplicit false

/-! # The sockets of the slave

`listening_socket` is 0 after `init`, -1 after a failure and after `dispose`, and else a descriptor that
`modbus_tcp_listen` returned; `session_socket` is 0 after `init`, and then what the receive task has
copied from `listening_socket`, or what `modbus_tcp_accept` has stored there. `dispose` takes 0 for a
descriptor, and `detach` closes whatever `session_socket` holds if it differs from
`listening_socket`. -/

namespace DtioxLinuxModbusTcpSlave

open ModbusMaster (setupError)

variable {τ F : Type*}

/-- Who has opened a descriptor. -/
inductive SocketKind where
  /-- another part of the program -/
  | foreign
  /-- `modbus_tcp_listen` -/
  | listening
  /-- `modbus_tcp_accept` -/
  | session
  deriving DecidableEq

/-- The descriptors of the process, and the calls of `shutdown`. -/
structure Sockets where
  fds : DescriptorTable SocketKind
  shutdowns : List ℕ

/-- `close(fd)` -/
def Sockets.close (k : Sockets) : Option ℤ → Sockets
  | none => k
  | some fd => { k with fds := k.fds.close fd }

/-- `shutdown(fd, SHUT_RDWR)` and `close(fd)` -/
def Sockets.hangUp (k : Sockets) : Option ℤ → Sockets
  | none => k
  | some fd => { fds := k.fds.close fd, shutdowns := fd.toNat :: k.shutdowns }

/-! ## What the operations close -/

/-- The object after the `memset` of `dtiox_linux_modbus_tcp_slave_init`. -/
def init (dm : DtioxModbus) (rxFifo : F) : Facade τ F where
  self := {
    cfg := ⟨0⟩
    mbMap := none
    listeningSocket := 0
    sessionSocket := 0
    enabled := false
    rxSemaphore := false
    rxtaskStopRequested := false
    sessionStopRequested := false
    rxOverflowPending := false
    rxFifo := rxFifo
    txPending := false
    txLen := 0
    txBytes := List.replicate dm.maxBlobBytes.toNat 0
    rxPosts := 0 }
  port := 0
  responseTimeoutMs := 0
  rxRingCapacity := 0
  mb := false
  rxtaskerHandle := false
  lock := .free

/-- `dtiox_linux_modbus_tcp_slave_configure` leaves the sockets as they are; the other members are as
    given. -/
def configureMembers (w members : Facade τ F) : Facade τ F :=
  { members with self := { members.self with
      listeningSocket := w.self.listeningSocket
      sessionSocket := w.self.sessionSocket } }

/-- `dtiox_linux_modbus_tcp_slave_dispose` -/
def dispose (w : Facade τ F) : Facade τ F :=
  { w with self := { w.self with
      rxtaskStopRequested := true
      sessionStopRequested := true
      listeningSocket := if w.self.listeningSocket ≥ 0 then -1 else w.self.listeningSocket } }

/-- What `dispose` shuts down and closes. -/
def disposeCloses (w : Facade τ F) : Option ℤ :=
  if w.self.listeningSocket ≥ 0 then some w.self.listeningSocket else none

/-- What `detach` shuts down and closes. -/
def detachCloses (w : Facade τ F) : Option ℤ :=
  if w.self.sessionSocket > 0 ∧ w.self.sessionSocket ≠ w.self.listeningSocket then
    some w.self.sessionSocket
  else
    none

/-- What the rollback at the end of attach closes. -/
def cleanupCloses (w : Facade τ F) (dterr : Option Dterr) : Option ℤ :=
  if dterr.isSome ∧ w.self.listeningSocket > 0 then some w.self.listeningSocket else none

section

variable [DecidableEq τ]

/-- What attach closes. -/
def attachCloses (dm : DtioxModbus) (w : Facade τ F) (t : τ) (calls : AttachCalls) : Option ℤ :=
  if w.self.listeningSocket > 0 then
    none
  else
    match verifyRxtaskNotRunning w calls.info with
    | some e => cleanupCloses w (some e)
    | none =>
      (LockFrame.run Facade.place w t () (attachBody dm calls)).bind fun r =>
        cleanupCloses r.1 r.2.1

/-- Attach gets as far as `modbus_tcp_listen`. -/
structure CallsListen (dm : DtioxModbus) (w : Facade τ F) (calls : AttachCalls) : Prop where
  listeningSocket : w.self.listeningSocket ≤ 0
  notRunning : verifyRxtaskNotRunning w calls.info = none
  lock : w.lock.owner = none
  newTcp : calls.newTcp w.port = true
  setup : setupError (timeoutSetup w calls) = none
  mappingNew : calls.mappingNew (requiredRegisters dm) = true

omit [DecidableEq τ] in
theorem callsListen_iff (dm : DtioxModbus) (w : Facade τ F) (calls : AttachCalls) :
    CallsListen dm w calls ↔
      w.self.listeningSocket ≤ 0 ∧ verifyRxtaskNotRunning w calls.info = none ∧
        w.lock.owner = none ∧ calls.newTcp w.port = true ∧
        setupError (timeoutSetup w calls) = none ∧
        calls.mappingNew (requiredRegisters dm) = true :=
  ⟨fun h => ⟨h.1, h.2, h.3, h.4, h.5, h.6⟩,
    fun h => ⟨h.1, h.2.1, h.2.2.1, h.2.2.2.1, h.2.2.2.2.1, h.2.2.2.2.2⟩⟩

instance (dm : DtioxModbus) (w : Facade τ F) (calls : AttachCalls) :
    Decidable (CallsListen dm w calls) :=
  have : Decidable (w.lock.owner = none) := decidable_of_iff _ Option.isNone_iff_eq_none
  have : Decidable (verifyRxtaskNotRunning w calls.info = none) :=
    decidable_of_iff _ Option.isNone_iff_eq_none
  have : Decidable (setupError (timeoutSetup w calls) = none) :=
    decidable_of_iff _ Option.isNone_iff_eq_none
  decidable_of_iff _ (callsListen_iff dm w calls).symm

end

/-! ## The system -/

/-- The object with its receive task, and the descriptors of the process. -/
structure SocketState (τ F : Type*) where
  slave : SlaveState τ F
  sockets : Sockets

/-- The members of the object. -/
abbrev SocketState.self (s : SocketState τ F) : Slave F := s.slave.facade.self

/-- The steps. -/
inductive SocketEvent (τ F : Type*) where
  | configure (members : Facade τ F)
  /-- `listens` tells whether `modbus_tcp_listen` succeeds -/
  | attach (t : τ) (calls : AttachCalls) (listens : Bool)
  | detach
  | dispose
  /-- `modbus_tcp_accept` returns: -1, or a new socket, which it stores in `session_socket` or not -/
  | accept (stores : Option Bool)
  /-- any other step of the slave -/
  | other (e : SlaveEvent τ F)
  /-- another part of the program opens a descriptor -/
  | foreign

/-- The step is not one that has an event of its own. -/
def SlaveEvent.isOther : SlaveEvent τ F → Bool
  | .attach _ _ | .detach | .task (.accept _) => false
  | _ => true

/-- The calls of attach, where `modbus_tcp_listen` returns `fd`. -/
def AttachCalls.listening (calls : AttachCalls) (fd : ℤ) : AttachCalls :=
  { calls with listen := { calls.listen with rc := fd } }

variable [DecidableEq τ] [Dtringfifo F]

/-- `modbus_tcp_accept` returns. -/
def SocketState.accept (s : SocketState τ F) (stores : Option Bool) : Option (SocketState τ F) :=
  if s.slave.pc = some .accepting then
    let facade := s.slave.facade
    match stores with
    | none =>
      some { s with slave := { s.slave with
        facade := { facade with self := { facade.self with sessionSocket := -1 } }
        pc := some .serverTop } }
    | some stores =>
      let (fds, fd) := s.sockets.fds.create .session
      some {
        slave := { s.slave with
          facade := { facade with self := { facade.self with
            sessionSocket := if stores then fd else facade.self.sessionSocket } }
          pc := some .sessionTop }
        sockets := { s.sockets with fds := fds } }
  else
    none

/-- What `modbus_tcp_listen` returns if it is called. -/
def SocketState.listenRc (s : SocketState τ F) (listens : Bool) : ℤ :=
  if listens then (s.sockets.fds.create .listening).2 else -1

/-- The descriptors before the rollback of attach. -/
def SocketState.afterListen (dm : DtioxModbus) (s : SocketState τ F) (calls : AttachCalls)
    (listens : Bool) : Sockets :=
  if CallsListen dm s.slave.facade calls ∧ listens = true then
    { s.sockets with fds := (s.sockets.fds.create .listening).1 }
  else
    s.sockets

/-- Attach. -/
def SocketState.attach (dm : DtioxModbus) (s : SocketState τ F) (t : τ) (calls : AttachCalls)
    (listens : Bool) : Option (SocketState τ F) :=
  let calls := calls.listening (s.listenRc listens)
  (s.slave.attach dm t calls).map fun slave =>
    { slave := slave
      sockets := (s.afterListen dm calls listens).close
        (attachCloses dm s.slave.facade t calls) }

/-- One step. -/
def SocketState.step (dm : DtioxModbus) (s : SocketState τ F) :
    SocketEvent τ F → Option (SocketState τ F)
  | .configure members =>
    some { s with slave := { s.slave with facade := configureMembers s.slave.facade members } }
  | .attach t calls listens => s.attach dm t calls listens
  | .detach =>
    (s.slave.step dm .detach).map fun slave =>
      { slave := slave, sockets := s.sockets.hangUp (detachCloses s.slave.facade) }
  | .dispose =>
    some {
      slave := { s.slave with facade := dispose s.slave.facade }
      sockets := s.sockets.hangUp (disposeCloses s.slave.facade) }
  | .accept stores => s.accept stores
  | .other e =>
    if e.isOther then (s.slave.step dm e).map fun slave => { s with slave := slave } else none
  | .foreign => some { s with sockets := { s.sockets with fds := (s.sockets.fds.create .foreign).1 } }

/-- A new object in a process that has `n` descriptors open. -/
def SocketState.created (dm : DtioxModbus) (rxFifo : F) (n : ℕ) : SocketState τ F where
  slave := .initial (init dm rxFifo)
  sockets := { fds := ⟨List.replicate n .foreign, []⟩, shutdowns := [] }

/-! ## The property and its condition -/

omit [DecidableEq τ] [Dtringfifo F] in
/-- The object has opened the descriptor. -/
def Sockets.Own (k : Sockets) (n : ℕ) : Prop :=
  k.fds.kinds[n]? = some .listening ∨ k.fds.kinds[n]? = some .session

omit [DecidableEq τ] [Dtringfifo F] in
/-- Only own descriptors have been closed and shut down, each of them once. -/
structure OwnOnce (k : Sockets) : Prop where
  closedOwn : ∀ n ∈ k.fds.closed, k.Own n
  closedOnce : k.fds.closed.Nodup
  shutOwn : ∀ n ∈ k.shutdowns, k.Own n
  shutOnce : k.shutdowns.Nodup

/-- The condition on a step: dispose finds in `listening_socket` no descriptor or one that
    `modbus_tcp_listen` returned; detach finds in `session_socket` no descriptor, the listening one, or
    one that `modbus_tcp_accept` stored there. -/
def ClosesOwn (s : SocketState τ F) : SocketEvent τ F → Prop
  | .dispose =>
    0 ≤ s.self.listeningSocket →
      s.sockets.fds.kinds[s.self.listeningSocket.toNat]? = some .listening
  | .detach =>
    0 < s.self.sessionSocket →
      s.self.sessionSocket = s.self.listeningSocket ∨
        s.sockets.fds.kinds[s.self.sessionSocket.toNat]? = some .session
  | _ => True

/-! ## What the operations do to the sockets -/

omit [Dtringfifo F] [DecidableEq τ] in
theorem attachBody_sockets (dm : DtioxModbus) (calls : AttachCalls) (w : Facade τ F) :
    (attachBody dm calls w).1.self.sessionSocket = w.self.sessionSocket ∧
      ((attachBody dm calls w).1.self.listeningSocket =
        if calls.newTcp w.port = true ∧ setupError (timeoutSetup w calls) = none ∧
            calls.mappingNew (requiredRegisters dm) = true then calls.listen.rc
        else w.self.listeningSocket) ∧
      (¬(calls.newTcp w.port = true ∧ setupError (timeoutSetup w calls) = none ∧
          calls.mappingNew (requiredRegisters dm) = true) → (attachBody dm calls w).2.2.1 ≠ none) := by
  have heffect := attachBody_effect dm calls w
  generalize attachBody dm calls w = r at heffect ⊢
  cases heffect with
  | noContext hnew => simp [hnew]
  | setupFails hnew hsetup => simp [hsetup]
  | noMapping hnew hsetup hmapping => simp [hmapping]
  | notListening hnew hsetup hmapping | startFails hnew hsetup hmapping =>
      simp [hnew, hsetup, hmapping, resetFlags]
  | attached hnew hsetup hmapping => simp [hnew, hsetup, hmapping, resetFlags]

omit [Dtringfifo F] [DecidableEq τ] in
theorem attachCleanup_sockets (w : Facade τ F) (dterr : Option Dterr) :
    (attachCleanup w dterr).self.sessionSocket = w.self.sessionSocket ∧
      (attachCleanup w dterr).self.listeningSocket =
        if (cleanupCloses w dterr).isSome then -1 else w.self.listeningSocket := by
  unfold attachCleanup cleanupCloses
  cases dterr with
  | none => exact ⟨rfl, rfl⟩
  | some e =>
      refine ⟨rfl, ?_⟩
      by_cases hpos : w.self.listeningSocket > 0
      · simp [hpos]
      · simp [hpos]

omit [Dtringfifo F] [DecidableEq τ] in
/-- The rollback has nothing to close when the object does not listen. -/
theorem cleanupCloses_of_nonpos {w : Facade τ F} (h : w.self.listeningSocket ≤ 0)
    (dterr : Option Dterr) : cleanupCloses w dterr = none :=
  if_neg fun hand => absurd hand.2 (Int.not_lt.2 h)

omit [Dtringfifo F] [DecidableEq τ] in
/-- Nor is there anything to reset. -/
theorem attachCleanup_of_nonpos {w : Facade τ F} (h : w.self.listeningSocket ≤ 0)
    (dterr : Option Dterr) :
    (attachCleanup w dterr).self.sessionSocket = w.self.sessionSocket ∧
      (attachCleanup w dterr).self.listeningSocket = w.self.listeningSocket := by
  obtain ⟨hsession, hlistening⟩ := attachCleanup_sockets w dterr
  rw [cleanupCloses_of_nonpos h] at hlistening
  exact ⟨hsession, hlistening⟩

omit [Dtringfifo F] in
/-- Attach closes what the rollback of its run under the lock closes. -/
theorem attachCloses_of_run {dm : DtioxModbus} {w v : Facade τ F} {t : τ} {calls : AttachCalls}
    {dterr : Option Dterr} (hlistening : w.self.listeningSocket ≤ 0)
    (hverify : verifyRxtaskNotRunning w calls.info = none)
    (hrun : LockFrame.run Facade.place w t () (attachBody dm calls) = some (v, dterr, ())) :
    attachCloses dm w t calls = cleanupCloses v dterr := by
  rw [attachCloses, if_neg (Int.not_lt.2 hlistening), hverify]
  dsimp only
  rw [hrun, Option.bind_some]

omit [Dtringfifo F] in
/-- What attach does to the sockets: nothing, and then it fails unless the object listens already; or
    the object listens on the socket that `modbus_tcp_listen` returned, or it closes that socket
    again. -/
theorem attach_sockets {dm : DtioxModbus} {w w' : Facade τ F} {t : τ} {calls : AttachCalls}
    {dterr : Option Dterr} (h : attach dm w t calls = some (w', dterr)) :
    w'.self.sessionSocket = w.self.sessionSocket ∧
      ((¬CallsListen dm w calls ∧ (w.self.listeningSocket ≤ 0 → dterr ≠ none) ∧
          w'.self.listeningSocket = w.self.listeningSocket ∧
          attachCloses dm w t calls = none) ∨
        (CallsListen dm w calls ∧
          (w'.self.listeningSocket = calls.listen.rc ∧ attachCloses dm w t calls = none ∨
            0 < calls.listen.rc ∧ w'.self.listeningSocket = -1 ∧
              attachCloses dm w t calls = some calls.listen.rc))) := by
  cases attach_effect h with
  | listening hlistening =>
      have hnot : ¬w.self.listeningSocket ≤ 0 := Int.not_le.2 hlistening
      exact ⟨rfl, Or.inl ⟨fun hcalls => hnot hcalls.listeningSocket, fun hle => absurd hle hnot, rfl,
        if_pos hlistening⟩⟩
  | running hlistening hverify =>
      obtain ⟨hsession, hlisten⟩ := attachCleanup_of_nonpos hlistening (some _)
      refine ⟨hsession, Or.inl ⟨fun hcalls => ?_, fun _ => Option.some_ne_none _, hlisten, ?_⟩⟩
      · exact absurd (hverify.symm.trans hcalls.notRunning) (Option.some_ne_none _)
      · rw [attachCloses, if_neg (Int.not_lt.2 hlistening), hverify]
        exact cleanupCloses_of_nonpos hlistening _
  | held hlistening hverify hrun hheld =>
      obtain ⟨hsession, hlisten⟩ := attachCleanup_of_nonpos hlistening (some _)
      refine ⟨hsession, Or.inl ⟨fun hcalls => hheld hcalls.lock, fun _ => Option.some_ne_none _,
        hlisten, ?_⟩⟩
      rw [attachCloses_of_run hlistening hverify hrun]
      exact cleanupCloses_of_nonpos hlistening _
  | @ran v _ hlistening hverify hrun hfree hself hdterr =>
      obtain ⟨hsession, hlisten, hnotReached⟩ :=
        attachBody_sockets dm calls { w with lock := ⟨some t⟩ }
      obtain ⟨hsession', hlisten'⟩ := attachCleanup_sockets v dterr
      rw [← hself] at hsession hlisten
      change v.self.listeningSocket =
        if calls.newTcp w.port = true ∧ setupError (timeoutSetup w calls) = none ∧
          calls.mappingNew (requiredRegisters dm) = true then calls.listen.rc
        else w.self.listeningSocket at hlisten
      rw [attachCloses_of_run hlistening hverify hrun]
      refine ⟨hsession'.trans hsession, ?_⟩
      by_cases hcalls : CallsListen dm w calls
      · rw [if_pos ⟨hcalls.newTcp, hcalls.setup, hcalls.mappingNew⟩] at hlisten
        refine Or.inr ⟨hcalls, ?_⟩
        rw [hlisten']
        unfold cleanupCloses
        rw [hlisten]
        by_cases hcloses : dterr.isSome ∧ calls.listen.rc > 0
        · rw [if_pos hcloses]
          exact Or.inr ⟨hcloses.2, rfl, rfl⟩
        · rw [if_neg hcloses]
          exact Or.inl ⟨rfl, rfl⟩
      · have hnot : ¬(calls.newTcp w.port = true ∧ setupError (timeoutSetup w calls) = none ∧
            calls.mappingNew (requiredRegisters dm) = true) :=
          fun hand => hcalls ⟨hlistening, hverify, hfree, hand.1, hand.2.1, hand.2.2⟩
        rw [if_neg hnot] at hlisten
        have hnone : cleanupCloses v dterr = none :=
          cleanupCloses_of_nonpos (by rw [hlisten]; exact hlistening) dterr
        rw [hnone] at hlisten' ⊢
        exact Or.inl ⟨hcalls, fun _ hok => hnotReached hnot (hdterr hok), hlisten'.trans hlisten,
          rfl⟩

omit [Dtringfifo F] in
theorem run_sockets {α : Type*} {w w' : Facade τ F} {t : τ} {unset out : α} {dterr : Option Dterr}
    {body : Facade τ F → Facade τ F × ModbusMaster.Label × Option Dterr × α}
    (hbody : ∀ w, (body w).1.self.listeningSocket = w.self.listeningSocket ∧
      (body w).1.self.sessionSocket = w.self.sessionSocket)
    (h : LockFrame.run Facade.place w t unset body = some (w', dterr, out)) :
    w'.self.listeningSocket = w.self.listeningSocket ∧
      w'.self.sessionSocket = w.self.sessionSocket := by
  rcases run_facade h with ⟨rfl, -⟩ | ⟨-, hself, -⟩
  · exact ⟨rfl, rfl⟩
  · rw [hself]
    exact hbody { w with lock := ⟨some t⟩ }

theorem interpretCommand_sockets (dm : DtioxModbus) (self : Slave F) :
    (interpretCommand dm self).listeningSocket = self.listeningSocket ∧
      (interpretCommand dm self).sessionSocket = self.sessionSocket := by
  have hconsume : (consumePutBlob dm self).listeningSocket = self.listeningSocket ∧
      (consumePutBlob dm self).sessionSocket = self.sessionSocket := by
    unfold consumePutBlob
    split
    · exact ⟨rfl, rfl⟩
    · split
      · exact ⟨rfl, rfl⟩
      · dsimp only
        split <;> exact ⟨rfl, rfl⟩
  have hprepare : ∀ self : Slave F,
      (preparePollResponse dm self).listeningSocket = self.listeningSocket ∧
        (preparePollResponse dm self).sessionSocket = self.sessionSocket := by
    intro self
    unfold preparePollResponse
    split
    · exact ⟨rfl, rfl⟩
    · split <;> exact ⟨rfl, rfl⟩
  obtain ⟨hlistening, hsession⟩ := hprepare (consumePutBlob dm self)
  unfold interpretCommand
  dsimp only
  split
  · exact hconsume
  · split
    · split
      · exact ⟨hlistening.trans hconsume.1, hsession.trans hconsume.2⟩
      · exact ⟨hlistening.trans hconsume.1, hsession.trans hconsume.2⟩
    · exact hconsume

/-- A step of the receive task, other than the return of `modbus_tcp_accept`, copies the listening
    socket to the session socket at most. -/
theorem taskStep_sockets {dm : DtioxModbus} {s s' : TaskState F} {e : TaskEvent F}
    (he : e.ofTask = true) (haccept : ∀ fd, e ≠ .accept fd) (h : s.step dm e = some s') :
    s'.self.listeningSocket = s.self.listeningSocket ∧
      (s'.self.sessionSocket = s.self.sessionSocket ∨
        s'.self.sessionSocket = s.self.listeningSocket) := by
  cases e with
  | serverSnapshot acquire release =>
      obtain ⟨-, ⟨⟩⟩ := Option.ite_none_right_eq_some.1 h
      unfold TaskState.serverSnapshot
      split
      · exact ⟨rfl, Or.inl rfl⟩
      · split
        · exact ⟨rfl, Or.inl rfl⟩
        · exact ⟨rfl, Or.inr rfl⟩
  | accept fd => exact absurd rfl (haccept fd)
  | sessionSnapshot acquire release =>
      obtain ⟨-, ⟨⟩⟩ := Option.ite_none_right_eq_some.1 h
      unfold TaskState.sessionSnapshot
      split
      · exact ⟨rfl, Or.inl rfl⟩
      · dsimp only
        split <;> exact ⟨rfl, Or.inl rfl⟩
  | receive rc query reply =>
      obtain ⟨-, ⟨⟩⟩ := Option.ite_none_right_eq_some.1 h
      unfold TaskState.receive
      split
      · dsimp only
        split <;> exact ⟨rfl, Or.inl rfl⟩
      · split <;> exact ⟨rfl, Or.inl rfl⟩
  | interpret acquire release =>
      obtain ⟨-, ⟨⟩⟩ := Option.ite_none_right_eq_some.1 h
      unfold TaskState.interpret
      cases acquire with
      | some e => exact ⟨rfl, Or.inl rfl⟩
      | none =>
          obtain ⟨hlistening, hsession⟩ := interpretCommand_sockets dm s.self
          cases release <;> exact ⟨hlistening, Or.inl hsession⟩
  | others self => cases he

/-- A step that has no event of its own copies the listening socket to the session socket at most. -/
theorem other_sockets {dm : DtioxModbus} {s s' : SlaveState τ F} {e : SlaveEvent τ F}
    (he : e.isOther = true) (h : s.step dm e = some s') :
    s'.facade.self.listeningSocket = s.facade.self.listeningSocket ∧
      (s'.facade.self.sessionSocket = s.facade.self.sessionSocket ∨
        s'.facade.self.sessionSocket = s.facade.self.listeningSocket) := by
  cases e with
  | attach t calls => cases he
  | detach => cases he
  | enable t enabled =>
      obtain ⟨⟨w', dterr, out⟩, henable, rfl⟩ := Option.map_eq_some_iff.1 h
      obtain ⟨hlistening, hsession⟩ := run_sockets (fun _ => ⟨rfl, rfl⟩) henable
      exact ⟨hlistening, Or.inl hsession⟩
  | read t bufLen =>
      obtain ⟨⟨w', dterr, out⟩, hread, rfl⟩ := Option.map_eq_some_iff.1 h
      unfold DtioxLinuxModbusTcpSlave.read at hread
      split at hread
      · obtain ⟨rfl, -⟩ := Prod.mk.inj (Option.some.inj hread)
        exact ⟨rfl, Or.inl rfl⟩
      · obtain ⟨hlistening, hsession⟩ := run_sockets (fun w => by
          unfold readLocked
          dsimp only
          split
          · exact ⟨rfl, rfl⟩
          · split <;> exact ⟨rfl, rfl⟩) hread
        exact ⟨hlistening, Or.inl hsession⟩
  | write t buf len =>
      obtain ⟨⟨w', dterr, out⟩, hwrite, rfl⟩ := Option.map_eq_some_iff.1 h
      unfold DtioxLinuxModbusTcpSlave.write at hwrite
      split at hwrite
      · obtain ⟨rfl, -⟩ := Prod.mk.inj (Option.some.inj hwrite)
        exact ⟨rfl, Or.inl rfl⟩
      · obtain ⟨hlistening, hsession⟩ := run_sockets (fun w => by
          unfold writeLocked
          dsimp only
          split
          · exact ⟨rfl, rfl⟩
          · split <;> exact ⟨rfl, rfl⟩) hwrite
        exact ⟨hlistening, Or.inl hsession⟩
  | setRxSemaphore t rxSemaphore =>
      obtain ⟨⟨w', dterr, out⟩, hset, rfl⟩ := Option.map_eq_some_iff.1 h
      obtain ⟨hlistening, hsession⟩ := run_sockets (fun _ => ⟨rfl, rfl⟩) hset
      exact ⟨hlistening, Or.inl hsession⟩
  | task e =>
      obtain ⟨pc, t', -, hown, hstep, hfacade, -⟩ := taskStep_cases h
      have haccept : ∀ fd, e ≠ .accept fd := by
        rintro fd rfl
        cases he
      obtain ⟨hlistening, hsession⟩ := taskStep_sockets hown haccept hstep
      rw [hfacade]
      exact ⟨hlistening, hsession⟩

/-- A step that has no event of its own does not start the receive task. -/
theorem other_pc {dm : DtioxModbus} {s s' : SlaveState τ F} {e : SlaveEvent τ F}
    (he : e.isOther = true) (h : s.step dm e = some s') (hnever : s.pc = none) : s'.pc = none := by
  cases e with
  | attach t calls => cases he
  | detach => cases he
  | enable | read | write | setRxSemaphore =>
      obtain ⟨r, -, rfl⟩ := Option.map_eq_some_iff.1 h
      exact hnever
  | task e =>
      obtain ⟨pc, -, hpc, -⟩ := taskStep_cases h
      rw [hnever] at hpc
      cases hpc

/-! ## The invariant -/

/-- **Invariant.** `listening_socket` holds an open socket, or the 0 of an object whose task never ran;
    a listening socket above 0 is current or closed; and a session socket is a listening one, current
    or not, or an open one of its own. -/
structure SocketInv (s : SocketState τ F) : Prop where
  listening : 0 ≤ s.self.listeningSocket →
    s.sockets.fds.IsOpen s.self.listeningSocket .listening ∨
      (s.self.listeningSocket = 0 ∧ s.slave.pc = none ∧
        ∀ kind ∈ s.sockets.fds.kinds, kind = .foreign)
  former : ∀ n : ℕ, 0 < n → s.sockets.fds.kinds[n]? = some .listening →
    n ∈ s.sockets.fds.closed ∨ (n : ℤ) = s.self.listeningSocket
  session : 0 < s.self.sessionSocket →
    s.sockets.fds.kinds[s.self.sessionSocket.toNat]? = some .listening ∨
      s.sockets.fds.IsOpen s.self.sessionSocket .session
  shut : ∀ n ∈ s.sockets.shutdowns, n ∈ s.sockets.fds.closed

section

omit [DecidableEq τ] [Dtringfifo F]

theorem OwnOnce.closedFds {k : Sockets} (h : OwnOnce k) : k.fds.ClosedOnce where
  nodup := h.closedOnce
  created n hn := by
    rcases h.closedOwn n hn with hkind | hkind
    · exact (List.getElem?_eq_some_iff.1 hkind).1
    · exact (List.getElem?_eq_some_iff.1 hkind).1

/-- A new descriptor closes nothing. -/
theorem OwnOnce.create {k : Sockets} (h : OwnOnce k) (kind : SocketKind) :
    OwnOnce { k with fds := (k.fds.create kind).1 } where
  closedOwn n hn := (h.closedOwn n hn).imp (fun hkind => DescriptorTable.created_create hkind kind)
    fun hkind => DescriptorTable.created_create hkind kind
  closedOnce := h.closedOnce
  shutOwn n hn := (h.shutOwn n hn).imp (fun hkind => DescriptorTable.created_create hkind kind)
    fun hkind => DescriptorTable.created_create hkind kind
  shutOnce := h.shutOnce

/-- An own descriptor that is open can be closed. -/
theorem OwnOnce.close {k : Sockets} (h : OwnOnce k) {fd : ℤ} (hown : k.Own fd.toNat)
    (hopen : fd.toNat ∉ k.fds.closed) : OwnOnce (k.close (some fd)) where
  closedOwn n hn := by
    rcases List.mem_cons.1 hn with rfl | hn
    · exact hown
    · exact h.closedOwn n hn
  closedOnce := List.nodup_cons.2 ⟨hopen, h.closedOnce⟩
  shutOwn := h.shutOwn
  shutOnce := h.shutOnce

/-- Shutting down and closing a descriptor is right exactly when it is an own one that is open. -/
theorem OwnOnce.hangUp_iff {k : Sockets} (h : OwnOnce k)
    (hshut : ∀ n ∈ k.shutdowns, n ∈ k.fds.closed) (fd : ℤ) :
    OwnOnce (k.hangUp (some fd)) ↔ k.Own fd.toNat ∧ fd.toNat ∉ k.fds.closed := by
  constructor
  · intro hclosed
    exact ⟨hclosed.closedOwn fd.toNat List.mem_cons_self, (List.nodup_cons.1 hclosed.closedOnce).1⟩
  · rintro ⟨hown, hopen⟩
    refine ⟨fun n hn => ?_, List.nodup_cons.2 ⟨hopen, h.closedOnce⟩, fun n hn => ?_,
      List.nodup_cons.2 ⟨fun hmem => hopen (hshut _ hmem), h.shutOnce⟩⟩
    · rcases List.mem_cons.1 hn with rfl | hn
      · exact hown
      · exact h.closedOwn n hn
    · rcases List.mem_cons.1 hn with rfl | hn
      · exact hown
      · exact h.shutOwn n hn

variable {s s' : SocketState τ F}

/-- The sockets of the object are as they were, or the session socket is the listening one. -/
theorem SocketInv.keep (hs : SocketInv s) (hsockets : s'.sockets = s.sockets)
    (hpc : s.slave.pc = none → s'.slave.pc = none)
    (hlistening : s'.self.listeningSocket = s.self.listeningSocket)
    (hsession : s'.self.sessionSocket = s.self.sessionSocket ∨
      s'.self.sessionSocket = s.self.listeningSocket) : SocketInv s' := by
  constructor
  · rw [hsockets, hlistening]
    exact fun hnonneg => (hs.listening hnonneg).imp id fun hnew => ⟨hnew.1, hpc hnew.2.1, hnew.2.2⟩
  · rw [hsockets, hlistening]
    exact hs.former
  · rw [hsockets]
    rcases hsession with hsession | hsession
    · rw [hsession]
      exact hs.session
    · rw [hsession]
      intro hpos
      rcases hs.listening (Int.le_of_lt hpos) with hopen | ⟨hzero, -⟩
      · exact Or.inl hopen.created
      · omega
  · rw [hsockets]
    exact hs.shut

/-- Another descriptor is opened. -/
theorem SocketInv.create (hs : SocketInv s) (kind : SocketKind) (hkind : kind ≠ .listening)
    (hsockets : s'.sockets = { s.sockets with fds := (s.sockets.fds.create kind).1 })
    (hlistening : s'.self.listeningSocket = s.self.listeningSocket)
    (hpc : s.slave.pc = none → kind = .foreign ∧ s'.slave.pc = none)
    (hsession : s'.self.sessionSocket = s.self.sessionSocket ∨
      s'.sockets.fds.IsOpen s'.self.sessionSocket .session) : SocketInv s' := by
  constructor
  · rw [hlistening]
    intro hnonneg
    rcases hs.listening hnonneg with hopen | ⟨hzero, hnever, hforeign⟩
    · rw [hsockets]
      exact Or.inl (hopen.create kind)
    · obtain ⟨rfl, hnever'⟩ := hpc hnever
      rw [hsockets]
      refine Or.inr ⟨hzero, hnever', fun k hk => ?_⟩
      rcases List.mem_append.1 hk with hk | hk
      · exact hforeign k hk
      · exact List.mem_singleton.1 hk
  · rw [hlistening]
    intro n hpos hn
    rw [hsockets] at hn ⊢
    rcases DescriptorTable.create_cases hn with hn | ⟨-, heq⟩
    · exact hs.former n hpos hn
    · exact absurd heq hkind
  · intro hpos
    rcases hsession with hsession | hsession
    · rw [hsession] at hpos ⊢
      rw [hsockets]
      rcases hs.session hpos with hl | hopen
      · exact Or.inl (DescriptorTable.created_create hl kind)
      · exact Or.inr (hopen.create kind)
    · exact Or.inr hsession
  · rw [hsockets]
    exact hs.shut

/-- The object does not listen, and its listening sockets are closed. -/
theorem SocketInv.notListening (hs : SocketInv s) (hnonpos : s.self.listeningSocket ≤ 0)
    (hsockets : s'.sockets = s.sockets) (hlistening : s'.self.listeningSocket = -1)
    (hsession : s'.self.sessionSocket = s.self.sessionSocket) : SocketInv s' := by
  constructor
  · intro hnonneg
    omega
  · rw [hsockets]
    intro n hpos hn
    rcases hs.former n hpos hn with hclosed | heq
    · exact Or.inl hclosed
    · omega
  · rw [hsockets, hsession]
    exact hs.session
  · rw [hsockets]
    exact hs.shut

/-- The object listens on a new socket. -/
theorem SocketInv.listens (hs : SocketInv s) (ho : OwnOnce s.sockets)
    (hnonpos : s.self.listeningSocket ≤ 0)
    (hsockets : s'.sockets = { s.sockets with fds := (s.sockets.fds.create .listening).1 })
    (hlistening : s'.self.listeningSocket = (s.sockets.fds.create .listening).2)
    (hsession : s'.self.sessionSocket = s.self.sessionSocket) : SocketInv s' := by
  constructor
  · rw [hsockets, hlistening]
    exact fun _ => Or.inl (DescriptorTable.isOpen_create ho.closedFds)
  · rw [hsockets, hlistening]
    intro n hpos hn
    rcases DescriptorTable.create_cases hn with hn | ⟨rfl, -⟩
    · rcases hs.former n hpos hn with hclosed | heq
      · exact Or.inl hclosed
      · omega
    · exact Or.inr rfl
  · rw [hsockets, hsession]
    intro hpos
    rcases hs.session hpos with hl | hopen
    · exact Or.inl (DescriptorTable.created_create hl _)
    · exact Or.inr (hopen.create _)
  · rw [hsockets]
    exact hs.shut

/-- The listening socket is closed. -/
theorem SocketInv.closeListening (hs : SocketInv s) {fds : DescriptorTable SocketKind}
    (hopen : s.sockets.fds.IsOpen s.self.listeningSocket .listening)
    (hfds : fds = s.sockets.fds.close s.self.listeningSocket) (hs'fds : s'.sockets.fds = fds)
    (hshut : ∀ n ∈ s'.sockets.shutdowns, n ∈ fds.closed)
    (hlistening : s'.self.listeningSocket = -1)
    (hsession : s'.self.sessionSocket = s.self.sessionSocket) : SocketInv s' := by
  subst hfds
  constructor
  · intro hnonneg
    omega
  · rw [hs'fds]
    intro n hpos hn
    rcases hs.former n hpos hn with hclosed | heq
    · exact Or.inl (List.mem_cons_of_mem _ hclosed)
    · refine Or.inl (List.mem_cons.2 (Or.inl ?_))
      omega
  · rw [hs'fds, hsession]
    intro hpos
    rcases hs.session hpos with hl | hses
    · exact Or.inl hl
    · exact Or.inr (hses.close_of_ne hopen.nonneg (hses.ne_of_kind_ne hopen (by decide)))
  · rw [hs'fds]
    exact hshut

end

/-! ## The steps -/

variable {dm : DtioxModbus} {s s' : SocketState τ F}

omit [Dtringfifo F] in
theorem SocketInv.attach (hs : SocketInv s) (ho : OwnOnce s.sockets) {t : τ} {calls : AttachCalls}
    {listens : Bool} (h : s.attach dm t calls listens = some s') :
    SocketInv s' ∧ OwnOnce s'.sockets := by
  obtain ⟨slave, hslave, rfl⟩ := Option.map_eq_some_iff.1 h
  obtain ⟨-, hcall⟩ := Option.ite_none_left_eq_some.1 hslave
  obtain ⟨⟨w', dterr⟩, hattach, rfl⟩ := Option.map_eq_some_iff.1 hcall
  obtain ⟨hsession, hnot | ⟨hcalls, hlisten⟩⟩ := attach_sockets hattach
  · obtain ⟨hnot, herror, hlistening, hcloses⟩ := hnot
    have hsockets : s.afterListen dm (calls.listening (s.listenRc listens)) listens = s.sockets :=
      if_neg fun hand => hnot hand.1
    have hpc : s.slave.pc = none →
        (if s.self.listeningSocket ≤ 0 ∧ dterr = none then some Pc.serverTop else s.slave.pc)
          = none := by
      intro hnever
      rw [if_neg fun hand => herror hand.1 hand.2]
      exact hnever
    rw [hcloses, hsockets]
    exact ⟨hs.keep rfl hpc hlistening (Or.inl hsession), ho⟩
  · have hnonpos := hcalls.listeningSocket
    cases listens with
    | false =>
        have hsockets : s.afterListen dm (calls.listening (s.listenRc false)) false = s.sockets :=
          if_neg fun hand => nomatch hand.2
        obtain ⟨hlistening, hcloses⟩ | ⟨hpos, -⟩ := hlisten
        · rw [hcloses, hsockets]
          exact ⟨hs.notListening hnonpos rfl hlistening hsession, ho⟩
        · change (0 : ℤ) < -1 at hpos
          omega
    | true =>
        have hsockets : s.afterListen dm (calls.listening (s.listenRc true)) true =
            { s.sockets with fds := (s.sockets.fds.create .listening).1 } := if_pos ⟨hcalls, rfl⟩
        have hnew := ho.create .listening
        obtain ⟨hlistening, hcloses⟩ | ⟨-, hlistening, hcloses⟩ := hlisten
        · rw [hcloses, hsockets]
          exact ⟨hs.listens ho hnonpos rfl hlistening hsession, hnew⟩
        · -- it listens, and closes the socket again
          have hopen : (s.sockets.fds.create .listening).1.IsOpen
              (s.sockets.fds.create .listening).2 .listening :=
            DescriptorTable.isOpen_create ho.closedFds
          let listening : SocketState τ F := {
            slave := { s.slave with facade := { s.slave.facade with self := { s.self with
              listeningSocket := (s.sockets.fds.create .listening).2 } } }
            sockets := { s.sockets with fds := (s.sockets.fds.create .listening).1 } }
          have hlistens : SocketInv listening := hs.listens ho hnonpos rfl rfl rfl
          rw [hcloses, hsockets]
          refine ⟨hlistens.closeListening hopen rfl rfl (fun n hn => ?_) hlistening hsession,
            hnew.close (Or.inl hopen.created) hopen.notClosed⟩
          exact List.mem_cons_of_mem _ (hlistens.shut n hn)

omit [DecidableEq τ] [Dtringfifo F] in
/-- Dispose. -/
theorem SocketInv.dispose (hs : SocketInv s) (ho : OwnOnce s.sockets)
    (hs' : s' = {
      slave := { s.slave with facade := dispose s.slave.facade }
      sockets := s.sockets.hangUp (disposeCloses s.slave.facade) }) :
    (OwnOnce s'.sockets ↔ ClosesOwn s .dispose) ∧ (ClosesOwn s .dispose → SocketInv s') := by
  subst hs'
  by_cases hnonneg : 0 ≤ s.self.listeningSocket
  · have hcloses : disposeCloses s.slave.facade = some s.self.listeningSocket := if_pos hnonneg
    have hlistening : (dispose s.slave.facade).self.listeningSocket = -1 := if_pos hnonneg
    rw [hcloses]
    dsimp only
    rw [ho.hangUp_iff hs.shut]
    rcases hs.listening hnonneg with hopen | ⟨hzero, -, hforeign⟩
    · refine ⟨iff_of_true ⟨Or.inl hopen.created, hopen.notClosed⟩ fun _ => hopen.created,
        fun _ => ?_⟩
      refine hs.closeListening hopen rfl rfl (fun n hn => ?_) hlistening rfl
      rcases List.mem_cons.1 hn with rfl | hn
      · exact List.mem_cons_self
      · exact List.mem_cons_of_mem _ (hs.shut n hn)
    · -- descriptor 0 is not one of the object
      have hnone : ∀ kind, kind ≠ .foreign → s.sockets.fds.kinds[s.self.listeningSocket.toNat]? ≠
          some kind := by
        intro kind hkind hget
        exact hkind (hforeign kind (List.mem_of_getElem? hget))
      have hnot : ¬ClosesOwn s .dispose := fun hcond => hnone _ (by decide) (hcond hnonneg)
      refine ⟨iff_of_false ?_ hnot, fun hcond => absurd hcond hnot⟩
      rintro ⟨hl | hses, -⟩
      · exact hnone _ (by decide) hl
      · exact hnone _ (by decide) hses
  · have hcloses : disposeCloses s.slave.facade = none := if_neg hnonneg
    rw [hcloses]
    refine ⟨iff_of_true ho fun hle => absurd hle hnonneg, fun _ => ?_⟩
    exact hs.keep rfl id (if_neg hnonneg) (Or.inl rfl)

omit [DecidableEq τ] [Dtringfifo F] in
/-- Detach. -/
theorem SocketInv.detach (hs : SocketInv s) (ho : OwnOnce s.sockets)
    (hs' : s' = {
      slave := { s.slave with
        facade := DtioxLinuxModbusTcpSlave.detach s.slave.facade, last := .other }
      sockets := s.sockets.hangUp (detachCloses s.slave.facade) }) :
    (OwnOnce s'.sockets ↔ ClosesOwn s .detach) ∧ (ClosesOwn s .detach → SocketInv s') := by
  subst hs'
  by_cases hopens : s.self.sessionSocket > 0 ∧ s.self.sessionSocket ≠ s.self.listeningSocket
  · obtain ⟨hpos, hne⟩ := hopens
    have hcloses : detachCloses s.slave.facade = some s.self.sessionSocket := if_pos ⟨hpos, hne⟩
    have hsession : (DtioxLinuxModbusTcpSlave.detach s.slave.facade).self.sessionSocket = -1 :=
      if_pos (decide_eq_true ⟨hpos, hne⟩)
    rw [hcloses]
    dsimp only
    rw [ho.hangUp_iff hs.shut]
    rcases hs.session hpos with hl | hopen
    · -- a former listening socket is closed
      have hnat : ((s.self.sessionSocket.toNat : ℕ) : ℤ) = s.self.sessionSocket := by omega
      have hclosed : s.self.sessionSocket.toNat ∈ s.sockets.fds.closed := by
        rcases hs.former s.self.sessionSocket.toNat (by omega) hl with hclosed | heq
        · exact hclosed
        · exact absurd (hnat.symm.trans heq) hne
      have hnot : ¬ClosesOwn s .detach := by
        intro hcond
        rcases hcond hpos with heq | hses
        · exact hne heq
        · rw [hl] at hses
          cases hses
      exact ⟨iff_of_false (fun hand => hand.2 hclosed) hnot, fun hcond => absurd hcond hnot⟩
    · refine ⟨iff_of_true ⟨Or.inr hopen.created, hopen.notClosed⟩ fun _ => Or.inr hopen.created,
        fun _ => ⟨fun hnonneg => ?_, fun n hn hkind => ?_, fun hpos' => ?_, fun n hn => ?_⟩⟩
      · rcases hs.listening hnonneg with hl | hnew
        · exact Or.inl (hl.close_of_ne hopen.nonneg (hl.ne_of_kind_ne hopen (by decide)))
        · exact Or.inr hnew
      · exact (hs.former n hn hkind).imp (List.mem_cons_of_mem _) id
      · change 0 < (DtioxLinuxModbusTcpSlave.detach s.slave.facade).self.sessionSocket at hpos'
        omega
      · rcases List.mem_cons.1 hn with rfl | hn
        · exact List.mem_cons_self
        · exact List.mem_cons_of_mem _ (hs.shut n hn)
  · have hcloses : detachCloses s.slave.facade = none := if_neg hopens
    have hsession : (DtioxLinuxModbusTcpSlave.detach s.slave.facade).self.sessionSocket =
        s.self.sessionSocket := if_neg (by simpa using hopens)
    rw [hcloses]
    refine ⟨iff_of_true ho fun hpos => Or.inl (by_contra fun hne => hopens ⟨hpos, hne⟩),
      fun _ => hs.keep rfl id rfl (Or.inl hsession)⟩

omit [DecidableEq τ] [Dtringfifo F] in
/-- `modbus_tcp_accept` returns. -/
theorem SocketInv.accept (hs : SocketInv s) (ho : OwnOnce s.sockets) {stores : Option Bool}
    (h : s.accept stores = some s') : SocketInv s' ∧ OwnOnce s'.sockets := by
  obtain ⟨hpc, haccept⟩ := Option.ite_none_right_eq_some.1 h
  have hran : s.slave.pc ≠ none := by
    rw [hpc]
    exact Option.some_ne_none _
  cases stores with
  | none =>
      obtain rfl := Option.some.inj haccept
      refine ⟨⟨fun hnonneg => ?_, hs.former, fun hpos => ?_, hs.shut⟩, ho⟩
      · rcases hs.listening hnonneg with hopen | hnew
        · exact Or.inl hopen
        · exact absurd hnew.2.1 hran
      · exact absurd hpos (show ¬(0 : ℤ) < -1 by decide)
  | some stores =>
      obtain rfl := Option.some.inj haccept
      refine ⟨hs.create .session (by decide) rfl rfl (fun hnever => absurd hnever hran) ?_,
        ho.create .session⟩
      cases stores with
      | false => exact Or.inl rfl
      | true => exact Or.inr (DescriptorTable.isOpen_create ho.closedFds)

/-- **Step lemma.** -/
theorem SocketInv.step (hs : SocketInv s) (ho : OwnOnce s.sockets) {e : SocketEvent τ F}
    (h : s.step dm e = some s') :
    (OwnOnce s'.sockets ↔ ClosesOwn s e) ∧ (ClosesOwn s e → SocketInv s') := by
  have hfine : SocketInv s' ∧ OwnOnce s'.sockets →
      (OwnOnce s'.sockets ↔ True) ∧ (True → SocketInv s') :=
    fun hand => ⟨iff_of_true hand.2 trivial, fun _ => hand.1⟩
  cases e with
  | configure members =>
      obtain rfl := Option.some.inj h
      exact hfine ⟨hs.keep rfl id rfl (Or.inl rfl), ho⟩
  | attach t calls listens => exact hfine (hs.attach ho h)
  | detach =>
      obtain rfl := Option.some.inj h
      exact hs.detach ho rfl
  | dispose =>
      obtain rfl := Option.some.inj h
      exact hs.dispose ho rfl
  | accept stores => exact hfine (hs.accept ho h)
  | other e =>
      obtain ⟨hother, hcall⟩ := Option.ite_none_right_eq_some.1 h
      obtain ⟨slave, hslave, rfl⟩ := Option.map_eq_some_iff.1 hcall
      obtain ⟨hlistening, hsession⟩ := other_sockets hother hslave
      exact hfine ⟨hs.keep rfl (other_pc hother hslave) hlistening hsession, ho⟩
  | foreign =>
      obtain rfl := Option.some.inj h
      exact hfine ⟨hs.create .foreign (by decide) rfl rfl (fun hnever => ⟨rfl, hnever⟩)
        (Or.inl rfl), ho.create .foreign⟩

/-- **Descriptor ownership, exactly.** In a run of a new object in a process with `n` descriptors
    open, the object closes and shuts down only descriptors it opened itself, each of them at most
    once, in every state, if and only if every dispose finds in `listening_socket` no descriptor or one
    that `modbus_tcp_listen` returned, and every detach finds in `session_socket` no descriptor, the
    listening one, or one that `modbus_tcp_accept` stored there. -/
theorem slave_descriptors_exact (dm : DtioxModbus) (rxFifo : F) (n : ℕ)
    (events : List (SocketEvent τ F)) :
    Run.AllStates (SocketState.step dm) (fun s => OwnOnce s.sockets) (.created dm rxFifo n) events
      ↔ Run.AllSteps (SocketState.step dm) ClosesOwn (.created dm rxFifo n) events := by
  refine Run.allStates_iff_allSteps (I := SocketInv) ?_ ?_ ?_ events _ ?_ ?_
  · exact fun s e s' hs ho h ho' => (hs.step ho h).2 ((hs.step ho h).1.1 ho')
  · exact fun s e s' hs ho h => (hs.step ho h).1
  · intro s e hs ho h
    cases e with
    | dispose => cases h
    | detach => cases h
    | _ => trivial
  · refine ⟨fun _ => Or.inr ⟨rfl, rfl, fun kind hkind => (List.mem_replicate.1 hkind).2⟩,
      fun m _ hm => ?_, fun hpos => absurd hpos (Int.lt_irrefl 0), fun _ hm => nomatch hm⟩
    have hkind := (List.mem_replicate.1 (List.mem_of_getElem? hm)).2
    cases hkind
  · constructor
    · exact fun _ hm => nomatch hm
    · exact List.nodup_nil
    · exact fun _ hm => nomatch hm
    · exact List.nodup_nil

/-- A client connects and goes away, the object is disposed of, and detached. -/
def disposeThenDetachRun : List (SocketEvent ℕ ByteFifo) :=
  [.configure (configured .bigEndian ⟨0⟩ 502 0 1024 ⟨1024, []⟩),
    .attach 0 succeedingAttach true, .other (.task (.serverSnapshot none none)),
    .accept (some false), .other (.task (.sessionSnapshot none none)),
    .other (.task (.receive (-1) .other ⟨0, 0, ""⟩)), .dispose, .detach]

/-- Dispose of an object that never listened closes descriptor 0, and a detach after dispose closes the
    listening socket a second time. -/
theorem foreign_and_closed_descriptors_closed :
    (¬∀ events : List (SocketEvent ℕ ByteFifo),
      Run.AllStates (SocketState.step .bigEndian) (fun s => OwnOnce s.sockets)
        (.created .bigEndian ⟨1024, []⟩ 3) events) ∧
    ¬Run.AllStates (SocketState.step .bigEndian) (fun s => OwnOnce s.sockets)
      (.created .bigEndian ⟨1024, []⟩ 3) disposeThenDetachRun := by
  constructor
  · intro h
    have hdisposed := (h [.dispose]).2 _ rfl
    rcases hdisposed.closedOwn 0 List.mem_cons_self with hkind | hkind
    · cases hkind
    · cases hkind
  · intro h
    obtain ⟨s, hown, hclosed⟩ := h.ends (Q := fun s => s.sockets.fds.closed = [3, 3])
      (by decide +kernel)
    have honce := hown.closedOnce
    rw [hclosed] at honce
    exact absurd honce (by decide)

end DtioxLinuxModbusTcpSlave
