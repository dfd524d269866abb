import DtmcLinux.Foundation.StepRun
import DtmcLinux.Modbus.Slave

set_option autoImplicit false

/-! # The receive task of the Modbus TCP slave

The two nested loops of `dtiox_linux_modbus_tcp_slave__rxtask.c` as a machine with a program counter,
one step for each critical section and for each blocking call. The rest of the program changes the
object between two steps as it likes.

The server loop is meant to serve one client after the other until it is told to stop. Its `cleanup:`
label stands inside the loop body: a session that ends falls through to the `return` under it, and
the `break` on a stop request leaves a function that has no return value left to give. What the loop
does guarantee is stated exactly at the end. -/

namespace DtioxLinuxModbusTcpSlave

variable {F : Type*}

/-- Where the task is. -/
inductive Pc where
  /-- at the top of the server loop -/
  | serverTop
  /-- in `modbus_tcp_accept` -/
  | accepting
  /-- at the top of the session loop -/
  | sessionTop
  /-- in `modbus_receive` -/
  | receiving
  /-- after `modbus_reply`, before the lock -/
  | replied
  /-- `rxtask_server_loop` has returned -/
  | returned (dterr : Option Dterr)
  /-- `rxtask_server_loop` has run off its end: its result is not defined -/
  | ranOff
  deriving DecidableEq

/-- The object and the task. `stopSeen` records that the task has found `rxtask_stop_requested`
    set, `lockFailed` that a lock operation has failed. -/
structure TaskState (F : Type*) where
  self : Slave F
  pc : Pc
  stopSeen : Bool
  lockFailed : Bool

/-- The task before its first step. -/
def TaskState.start (self : Slave F) : TaskState F where
  self := self
  pc := .serverTop
  stopSeen := false
  lockFailed := false

/-- One step, with the results of the calls it makes. -/
inductive TaskEvent (F : Type*) where
  /-- the snapshot of the server loop -/
  | serverSnapshot (acquire release : Option Dterr)
  /-- `modbus_tcp_accept` returns: the new session socket, or `-1` -/
  | accept (sessionSocket : ℤ)
  /-- the snapshot of the session loop -/
  | sessionSnapshot (acquire release : Option Dterr)
  /-- `modbus_receive` returns `rc`; when it has a query, `modbus_reply` returns `reply` -/
  | receive (rc : ℤ) (query : Query) (reply : LibResult)
  /-- the critical section after a reply -/
  | interpret (acquire release : Option Dterr)
  /-- the other threads leave the object as given -/
  | others (self : Slave F)

/-- The first error of two calls under `DTERR_C`. -/
def firstError (acquire release : Option Dterr) : Option Dterr := acquire.or release

namespace TaskState

/-- The label `cleanup:` in the body of the server loop. -/
def serverCleanup (s : TaskState F) (dterr : Option Dterr) : TaskState F :=
  match dterr with
  | some e =>
    { s with pc := .returned (some (.rechain e "rx task server loop exiting due to error")) }
  | none => { s with pc := .returned none }

/-- The session loop ends: the server loop disposes its error and goes on to the label. -/
def endSession (s : TaskState F) : TaskState F := s.serverCleanup none

/-- The snapshot of the server loop. -/
def serverSnapshot (s : TaskState F) (acquire release : Option Dterr) : TaskState F :=
  match firstError acquire release with
  | some e => { s with lockFailed := true }.serverCleanup (some e)
  | none =>
    if s.self.rxtaskStopRequested then
      { s with stopSeen := true, pc := .ranOff }
    else
      { s with
        self := { s.self with sessionSocket := s.self.listeningSocket }
        pc := .accepting }

/-- `modbus_tcp_accept` returns. -/
def accept (s : TaskState F) (sessionSocket : ℤ) : TaskState F :=
  let s := { s with self := { s.self with sessionSocket := sessionSocket } }
  if sessionSocket = -1 then { s with pc := .serverTop } else { s with pc := .sessionTop }

/-- The snapshot of the session loop. -/
def sessionSnapshot (s : TaskState F) (acquire release : Option Dterr) : TaskState F :=
  match firstError acquire release with
  | some _ => { s with lockFailed := true }.endSession
  | none =>
    let s := { s with stopSeen := s.stopSeen || s.self.rxtaskStopRequested }
    if s.self.rxtaskStopRequested || s.self.sessionStopRequested then
      s.endSession
    else
      { s with pc := .receiving }

/-- `modbus_receive` returns, and a query is replied to. -/
def receive (s : TaskState F) (rc : ℤ) (query : Query) (reply : LibResult) : TaskState F :=
  if rc > 0 then
    let s := { s with self := { s.self with mbMap := s.self.mbMap.map query.apply } }
    if reply.rc = -1 then s.endSession else { s with pc := .replied }
  else if rc = -1 then
    s.endSession
  else
    { s with pc := .sessionTop }

variable [Dtringfifo F]

/-- The critical section after a reply. -/
def interpret (dm : DtioxModbus) (s : TaskState F) (acquire release : Option Dterr) :
    TaskState F :=
  match acquire with
  | some _ => { s with lockFailed := true }.endSession
  | none =>
    let s := { s with self := interpretCommand dm s.self }
    match release with
    | some _ => { s with lockFailed := true }.endSession
    | none => { s with pc := .sessionTop }

/-- One step of the task, or a change made by the other threads. -/
def step (dm : DtioxModbus) (s : TaskState F) : TaskEvent F → Option (TaskState F)
  | .serverSnapshot acquire release =>
    if s.pc = .serverTop then some (s.serverSnapshot acquire release) else none
  | .accept sessionSocket => if s.pc = .accepting then some (s.accept sessionSocket) else none
  | .sessionSnapshot acquire release =>
    if s.pc = .sessionTop then some (s.sessionSnapshot acquire release) else none
  | .receive rc query reply =>
    if s.pc = .receiving then some (s.receive rc query reply) else none
  | .interpret acquire release =>
    if s.pc = .replied then some (s.interpret dm acquire release) else none
  | .others self => some { s with self := self }

end TaskState

/-! ## What the server loop guarantees -/

/-- The loop has not ended, unless it has seen the stop request or a failed lock operation, and then
    with a defined result. -/
structure KeepsServing (s : TaskState F) : Prop where
  defined : s.pc ≠ .ranOff
  reason : ∀ dterr, s.pc = .returned dterr → s.stopSeen = true ∨ s.lockFailed = true

/-- The steps that do not end the loop wrongly: the server loop does not find the stop request, and
    no session ends but because it has found the stop request or a failed lock operation. -/
def EndsNoSession (s : TaskState F) : TaskEvent F → Prop
  | .serverSnapshot acquire release => s.pc = .serverTop →
    firstError acquire release = none → s.self.rxtaskStopRequested = false
  | .sessionSnapshot acquire release => s.pc = .sessionTop →
    firstError acquire release = none → s.self.sessionStopRequested = true →
      s.self.rxtaskStopRequested = true
  | .receive rc _ reply => s.pc = .receiving → rc ≠ -1 ∧ (rc > 0 → reply.rc ≠ -1)
  | _ => True

/-- While the task is in its loops it has seen neither a stop request nor a failed lock. -/
def InLoops (s : TaskState F) : Prop :=
  (∀ dterr, s.pc ≠ .returned dterr) → s.stopSeen = false ∧ s.lockFailed = false

theorem keepsServing_of_pc {s : TaskState F} (hoff : s.pc ≠ .ranOff)
    (hret : ∀ dterr, s.pc ≠ .returned dterr) : KeepsServing s :=
  ⟨hoff, fun dterr h => absurd h (hret dterr)⟩

/-! ## What a step does -/

/-- What a step does to the loops. -/
inductive TaskEffect (s : TaskState F) : TaskEvent F → TaskState F → Prop
  | goesOn {e : TaskEvent F} {self : Slave F} {pc : Pc} (hin : ∀ dterr, s.pc ≠ .returned dterr)
      (hoff : pc ≠ .ranOff) (hret : ∀ dterr, pc ≠ .returned dterr) (hends : EndsNoSession s e) :
      TaskEffect s e { s with self := self, pc := pc }
  /-- a lock operation fails: the server loop ends -/
  | lockFails {e : TaskEvent F} {self : Slave F} {dterr : Option Dterr}
      (hends : EndsNoSession s e) :
      TaskEffect s e { s with self := self, lockFailed := true, pc := .returned dterr }
  /-- the server loop finds the stop request -/
  | serverStops {acquire release : Option Dterr} (hpc : s.pc = .serverTop)
      (hfirst : firstError acquire release = none) (hstop : s.self.rxtaskStopRequested = true) :
      TaskEffect s (.serverSnapshot acquire release) { s with stopSeen := true, pc := .ranOff }
  /-- the session loop finds one of the stop requests -/
  | sessionStops {acquire release : Option Dterr} (hpc : s.pc = .sessionTop)
      (hfirst : firstError acquire release = none)
      (hflags : s.self.rxtaskStopRequested = true ∨ s.self.sessionStopRequested = true) :
      TaskEffect s (.sessionSnapshot acquire release)
        { s with stopSeen := s.stopSeen || s.self.rxtaskStopRequested, pc := .returned none }
  /-- the connection of the session is lost -/
  | sessionLost {rc : ℤ} {query : Query} {reply : LibResult} {self : Slave F}
      (hpc : s.pc = .receiving) (hlost : rc = -1 ∨ rc > 0 ∧ reply.rc = -1) :
      TaskEffect s (.receive rc query reply) { s with self := self, pc := .returned none }
  | others (self : Slave F) : TaskEffect s (.others self) { s with self := self }

variable [Dtringfifo F]

theorem TaskState.step_effect {dm : DtioxModbus} {s s' : TaskState F} {e : TaskEvent F}
    (h : s.step dm e = some s') : TaskEffect s e s' := by
  cases e with
  | serverSnapshot acquire release =>
      obtain ⟨hpc, ⟨⟩⟩ := Option.ite_none_right_eq_some.1 h
      unfold TaskState.serverSnapshot
      split
      · next err hfirst =>
          exact .lockFails fun _ hnone => absurd (hfirst.symm.trans hnone) (by simp)
      · next hfirst =>
          split
          · next hstop => exact .serverStops hpc hfirst hstop
          · next hstop =>
              exact .goesOn (by simp [hpc]) (by simp) (by simp)
                fun _ _ => eq_false_of_ne_true hstop
  | accept sessionSocket =>
      obtain ⟨hpc, ⟨⟩⟩ := Option.ite_none_right_eq_some.1 h
      unfold TaskState.accept
      split
      · exact .goesOn (by simp [hpc]) (by simp) (by simp) trivial
      · exact .goesOn (by simp [hpc]) (by simp) (by simp) trivial
  | sessionSnapshot acquire release =>
      obtain ⟨hpc, ⟨⟩⟩ := Option.ite_none_right_eq_some.1 h
      unfold TaskState.sessionSnapshot
      split
      · next err hfirst =>
          exact .lockFails fun _ hnone => absurd (hfirst.symm.trans hnone) (by simp)
      · next hfirst =>
          dsimp only
          split
          · next hflags => exact .sessionStops hpc hfirst (Bool.or_eq_true_iff.1 hflags)
          · next hflags =>
              obtain ⟨hstop, hsession⟩ : s.self.rxtaskStopRequested = false ∧
                  s.self.sessionStopRequested = false := by
                simpa using hflags
              rw [hstop, Bool.or_false]
              exact .goesOn (by simp [hpc]) (by simp) (by simp)
                fun _ _ hset => absurd (hsession.symm.trans hset) (by simp)
  | receive rc query reply =>
      obtain ⟨hpc, ⟨⟩⟩ := Option.ite_none_right_eq_some.1 h
      unfold TaskState.receive
      split
      · next hpos =>
          dsimp only
          split
          · next hreply => exact .sessionLost hpc (.inr ⟨hpos, hreply⟩)
          · next hreply =>
              exact .goesOn (by simp [hpc]) (by simp) (by simp) fun _ => ⟨by omega, fun _ => hreply⟩
      · next hpos =>
          split
          · next hrc => exact .sessionLost hpc (.inl hrc)
          · next hrc =>
              exact .goesOn (by simp [hpc]) (by simp) (by simp) fun _ => ⟨hrc, fun h => absurd h hpos⟩
  | interpret acquire release =>
      obtain ⟨hpc, ⟨⟩⟩ := Option.ite_none_right_eq_some.1 h
      unfold TaskState.interpret
      split
      · exact .lockFails trivial
      · dsimp only
        split
        · exact .lockFails trivial
        · exact .goesOn (by simp [hpc]) (by simp) (by simp) trivial
  | others self =>
      obtain rfl := Option.some.inj h
      exact .others self

/-- **Step lemma.** From a state of the loops, a step keeps the guarantee exactly when it does not
    end a session, or the loop, wrongly. -/
theorem step_keepsServing_iff {dm : DtioxModbus} {s s' : TaskState F} {e : TaskEvent F}
    (hin : InLoops s) (hs : KeepsServing s) (h : s.step dm e = some s') :
    KeepsServing s' ↔ EndsNoSession s e := by
  cases s.step_effect h with
  | goesOn _ hoff hret hends => exact iff_of_true (keepsServing_of_pc hoff hret) hends
  | lockFails hends => exact iff_of_true ⟨by simp, fun _ _ => .inr rfl⟩ hends
  | serverStops hpc hfirst hstop =>
      refine iff_of_false (fun hserves => hserves.defined rfl) fun hends => ?_
      exact absurd (hstop.symm.trans (hends hpc hfirst)) (by simp)
  | sessionStops hpc hfirst hflags =>
      obtain ⟨hstop, hlock⟩ := hin (by simp [hpc])
      constructor
      · intro hserves _ _ _
        simpa [hstop, hlock] using hserves.reason none rfl
      · intro hends
        have hrx : s.self.rxtaskStopRequested = true := hflags.elim id (hends hpc hfirst)
        exact ⟨by simp, fun _ _ => .inl (by simp [hrx])⟩
  | sessionLost hpc hlost =>
      obtain ⟨hstop, hlock⟩ := hin (by simp [hpc])
      refine iff_of_false (fun hserves => ?_) fun hends => ?_
      · rcases hserves.reason none rfl with hseen | hfailed
        · exact absurd (hstop.symm.trans hseen) (by simp)
        · exact absurd (hlock.symm.trans hfailed) (by simp)
      · obtain ⟨hrc, hreply⟩ := hends hpc
        exact hlost.elim hrc fun hlost => hreply hlost.1 hlost.2
  | others => exact iff_of_true ⟨hs.defined, hs.reason⟩ trivial

/-- The flags stay clear as long as the task is in its loops. -/
theorem step_inLoops {dm : DtioxModbus} {s s' : TaskState F} {e : TaskEvent F}
    (hin : InLoops s) (h : s.step dm e = some s') (hs' : KeepsServing s') : InLoops s' := by
  cases s.step_effect h with
  | goesOn hloops => exact fun _ => hin hloops
  | serverStops => exact absurd rfl hs'.defined
  | lockFails | sessionStops | sessionLost => exact fun hret => absurd rfl (hret _)
  | others => exact hin

/-- A step that the task cannot take does not end anything. -/
theorem endsNoSession_of_blocked {dm : DtioxModbus} {s : TaskState F} {e : TaskEvent F}
    (h : s.step dm e = none) : EndsNoSession s e := by
  cases e with
  | serverSnapshot acquire release =>
      intro hpc
      simp [TaskState.step, hpc] at h
  | sessionSnapshot acquire release =>
      intro hpc
      simp [TaskState.step, hpc] at h
  | receive rc query reply =>
      intro hpc
      simp [TaskState.step, hpc] at h
  | _ => trivial

/-- **Exact condition.** In a run of the receive task from its start, the server loop ends only
    after it has seen the stop request (or a failed lock operation) and with a defined result,
    exactly when its own snapshot never finds the stop request and no session ever ends but for one
    of these two reasons. -/
theorem server_loop_exact (dm : DtioxModbus) (self : Slave F) (events : List (TaskEvent F)) :
    Run.AllStates (TaskState.step dm) KeepsServing (TaskState.start self) events
      ↔ Run.AllSteps (TaskState.step dm) EndsNoSession (TaskState.start self) events := by
  refine Run.allStates_iff_allSteps (I := InLoops) ?_ ?_ ?_ events _ ?_ ?_
  · exact fun _ _ _ hin _ h hs' => step_inLoops hin h hs'
  · exact fun _ _ _ hin hs h => step_keepsServing_iff hin hs h
  · exact fun _ _ _ _ h => endsNoSession_of_blocked h
  · exact fun _ => ⟨rfl, rfl⟩
  · exact keepsServing_of_pc (by simp [TaskState.start]) (by simp [TaskState.start])

/-- The first client connects, sends nothing and disconnects: the server loop returns, although no
    stop was requested and every lock operation succeeded. And a stop request that the server loop
    finds leaves it without a result. -/
theorem server_loop_ends_with_first_client :
    (∃ (self : Slave ByteFifo) (s : TaskState ByteFifo),
      Run.exec (TaskState.step .bigEndian) (TaskState.start self)
        [.serverSnapshot none none, .accept 7, .sessionSnapshot none none,
          .receive (-1) .other ⟨0, 0, ""⟩] = some s ∧
      self.rxtaskStopRequested = false ∧ s.pc = .returned none ∧ ¬KeepsServing s) ∧
    (∃ (self : Slave ByteFifo) (s : TaskState ByteFifo),
      Run.exec (TaskState.step .bigEndian) (TaskState.start self) [.serverSnapshot none none]
        = some s ∧ s.stopSeen = true ∧ ¬KeepsServing s) := by
  refine ⟨⟨⟨⟨240⟩, none, 5, -1, true, false, false, false, false, ⟨1024, []⟩, false, 0, [], 0⟩,
    _, rfl, rfl, rfl, ?_⟩,
    ⟨⟨⟨240⟩, none, -1, -1, true, false, true, true, false, ⟨1024, []⟩, false, 0, [], 0⟩,
    _, rfl, rfl, ?_⟩⟩
  · intro h
    exact absurd (h.reason none rfl) (by decide)
  · intro h
    exact h.defined rfl

end DtioxLinuxModbusTcpSlave
