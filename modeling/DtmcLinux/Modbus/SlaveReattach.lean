import DtmcLinux.Modbus.SlaveSystem

set_option autoImplicit false

/-! # Attaching the slave again

Attach takes a listening socket as the sign that the object is attached, and then returns success
without a change. Detach keeps the socket; it clears `enabled` and asks the session to stop, and the
receive task ends with its first session. So the attach after it succeeds and nobody is served. -/

namespace DtioxLinuxModbusTcpSlave

variable {τ F : Type*} [DecidableEq τ] [Dtringfifo F]

/-! ## The property and the condition -/

omit [DecidableEq τ] [Dtringfifo F] in
/-- What a client does: it connects and sends a query. -/
def visit (sessionSocket rc : ℤ) (query : Query) (reply : LibResult) : List (SlaveEvent τ F) :=
  [.task (.accept sessionSocket), .task (.sessionSnapshot none none),
    .task (.receive rc query reply), .task (.interpret none none)]

/-- The slave is enabled, the sessions are not asked to stop, and the receive task runs; and if it
    has no client yet, the next one that connects is served. -/
structure Serves (dm : DtioxModbus) (s : SlaveState τ F) : Prop where
  enabled : s.facade.self.enabled = true
  notStopping : s.facade.self.sessionStopRequested = false
  running : running s.pc = true
  served : s.pc = some .serverTop ∨ s.pc = some .accepting → ∀ sessionSocket rc query reply,
    sessionSocket ≠ -1 → 0 < rc → reply.rc ≠ -1 → ∃ before s',
      Run.exec (SlaveState.step dm) s (before ++ visit sessionSocket rc query reply) = some s' ∧
      s'.pc = some .sessionTop

/-- An attach that has returned success leaves a slave that serves. -/
def AttachServes (dm : DtioxModbus) (s : SlaveState τ F) : Prop := s.last = .attached → Serves dm s

omit [DecidableEq τ] [Dtringfifo F] in
/-- An attach that finds a listening socket finds all as the attach before it has left it. -/
def NothingUndone (s : SlaveState τ F) : SlaveEvent τ F → Prop
  | .attach _ _ => 0 < s.facade.self.listeningSocket → s.facade.self.enabled = true ∧
    s.facade.self.sessionStopRequested = false ∧ running s.pc = true
  | _ => True

/-! ## A visit -/

/-- A client that connects to a task in `modbus_tcp_accept`. -/
theorem visit_runs (dm : DtioxModbus) {s : SlaveState τ F} {sessionSocket rc : ℤ} (query : Query)
    {reply : LibResult} (hpc : s.pc = some .accepting)
    (hstop : s.facade.self.rxtaskStopRequested = false)
    (hsession : s.facade.self.sessionStopRequested = false) (hsocket : sessionSocket ≠ -1)
    (hrc : 0 < rc) (hreply : reply.rc ≠ -1) :
    ∃ s', Run.exec (SlaveState.step dm) s (visit sessionSocket rc query reply) = some s' ∧
      s'.pc = some .sessionTop := by
  simp [visit, Run.exec, SlaveState.step, SlaveState.taskStep, SlaveState.task, hpc,
    TaskEvent.ofTask, TaskState.step, TaskState.accept, hsocket, TaskState.sessionSnapshot,
    firstError, hstop, hsession, TaskState.receive, hrc, hreply, TaskState.interpret]

/-- The task goes from the top of the server loop into `modbus_tcp_accept`. -/
theorem serverSnapshot_runs (dm : DtioxModbus) {s : SlaveState τ F} (hpc : s.pc = some .serverTop)
    (hstop : s.facade.self.rxtaskStopRequested = false) :
    ∃ s', s.step dm (.task (.serverSnapshot none none)) = some s' ∧ s'.pc = some .accepting ∧
      s'.facade.self.rxtaskStopRequested = false ∧
      s'.facade.self.sessionStopRequested = s.facade.self.sessionStopRequested := by
  simp [SlaveState.step, SlaveState.taskStep, SlaveState.task, hpc, TaskEvent.ofTask,
    TaskState.step, TaskState.serverSnapshot, firstError, hstop]

theorem serves_of_flags {dm : DtioxModbus} {s : SlaveState τ F}
    (hstop : s.facade.self.rxtaskStopRequested = false) (henabled : s.facade.self.enabled = true)
    (hsession : s.facade.self.sessionStopRequested = false) (hrunning : running s.pc = true) :
    Serves dm s := by
  refine ⟨henabled, hsession, hrunning, ?_⟩
  rintro (hpc | hpc) sessionSocket rc query reply hsocket hrc hreply
  · obtain ⟨s₁, hs₁, hpc₁, hstop₁, hsession₁⟩ := serverSnapshot_runs dm hpc hstop
    obtain ⟨s', hs', hlast⟩ :=
      visit_runs dm query hpc₁ hstop₁ (hsession₁.trans hsession) hsocket hrc hreply
    exact ⟨[.task (.serverSnapshot none none)], s',
      (Run.exec_cons_eq_some _ s s' _ _).2 ⟨s₁, hs₁, hs'⟩, hlast⟩
  · obtain ⟨s', hs', hlast⟩ := visit_runs dm query hpc hstop hsession hsocket hrc hreply
    exact ⟨[], s', hs', hlast⟩

/-! ## Steps -/

/-- Nobody asks the receive task to stop. -/
theorem step_rxtaskStopRequested {dm : DtioxModbus} {s s' : SlaveState τ F} {e : SlaveEvent τ F}
    (h : s.facade.self.rxtaskStopRequested = false) (hstep : s.step dm e = some s') :
    s'.facade.self.rxtaskStopRequested = false := by
  cases s.step_effect hstep with
  | listening => exact h
  | attach _ _ hstop => exact hstop h
  | quiet _ _ hkept => exact hkept.rxtaskStopRequested.trans h
  | refused hself =>
      dsimp only
      rw [hself]
      exact h
  | accepted _ _ hstop => exact hstop.trans h
  | polled _ _ _ hstop => exact hstop.trans h

/-- Only an attach attaches. -/
theorem attachServes_of_not_attach {dm : DtioxModbus} {s s' : SlaveState τ F}
    {e : SlaveEvent τ F} (he : e.isAttach = false) (hlast : s'.last ≠ .attached) :
    AttachServes dm s' ↔ NothingUndone s e := by
  refine iff_of_true (fun h => absurd h hlast) ?_
  cases e with
  | attach => cases he
  | detach | enable | read | write | setRxSemaphore | task => trivial

/-- **Step lemma.** An attach leaves a slave that serves exactly when it does not find a listening
    socket with something undone. -/
theorem step_attachServes {dm : DtioxModbus} {s s' : SlaveState τ F} {e : SlaveEvent τ F}
    (h : s.facade.self.rxtaskStopRequested = false) (hstep : s.step dm e = some s') :
    AttachServes dm s' ↔ NothingUndone s e := by
  cases s.step_effect hstep with
  | listening hlistening =>
      constructor
      · intro hserves _
        have hall := hserves rfl
        exact ⟨hall.enabled, hall.notStopping, hall.running⟩
      · intro hundone _
        obtain ⟨henabled, hsession, hrunning⟩ := hundone hlistening
        exact serves_of_flags h henabled hsession hrunning
  | @attach t calls facade dterr hlistening hpending hstop hflags =>
      refine iff_of_true (fun hlast => ?_) (fun hpos => absurd hlistening (Int.not_le.2 hpos))
      have hsuccess : dterr = none := by
        by_contra hfailed
        dsimp only at hlast
        rw [if_neg hfailed] at hlast
        cases hlast
      refine serves_of_flags (hstop h) (hflags hsuccess).1 (hflags hsuccess).2 ?_
      simp [hsuccess, running, Pc.runs]
  | quiet he _ _ _ hlast => exact attachServes_of_not_attach he (by simp [hlast])
  | refused | accepted | polled => exact attachServes_of_not_attach rfl nofun

/-- An attach that finds a listening socket is not blocked. -/
theorem nothingUndone_of_blocked {dm : DtioxModbus} {s : SlaveState τ F} {e : SlaveEvent τ F}
    (h : s.step dm e = none) : NothingUndone s e := by
  cases e with
  | attach t calls =>
      intro hlistening
      simp [SlaveState.step, SlaveState.attach, attach, hlistening, Int.not_le.2 hlistening] at h
  | detach | enable | read | write | setRxSemaphore | task => trivial

/-! ## The result -/

end DtioxLinuxModbusTcpSlave
