import DtmcLinux.Modbus.SlaveSystem

set_option autoImplicit false

/-! # The transmit side of the slave

A write makes its message pending whatever its length; a poll takes the pending message only if it
is not empty. The transmit side is therefore free after every poll exactly when no poll finds an
empty message pending. -/

namespace DtioxLinuxModbusTcpSlave

variable {τ F : Type*} [DecidableEq τ] [Dtringfifo F]

omit [DecidableEq τ] [Dtringfifo F] in
/-- After a poll nothing is pending; a write is refused only when a message was accepted that no poll
    has been processed for since. -/
structure NeverWedges (s : SlaveState τ F) : Prop where
  polled : s.last = .polled → s.facade.self.txPending = false
  refused : s.last = .refused → s.unserved = true

/-- A session step that polls does not find a message of length 0 pending. -/
def FindsBytes (dm : DtioxModbus) (s : SlaveState τ F) : SlaveEvent τ F → Prop
  | .task e => s.pc = some .replied → e.polls dm s.facade.self = true →
    s.facade.self.txPending = true → s.facade.self.txLen ≠ 0
  | _ => True

omit [DecidableEq τ] [Dtringfifo F] in
/-- What is pending was accepted after the last poll, and its length is as `len` tells. -/
structure Pending (len : ℤ → Prop) (s : SlaveState τ F) : Prop where
  unserved : s.facade.self.txPending = true → s.unserved = true
  txLen : s.facade.self.txPending = true → len s.facade.self.txLen

omit [DecidableEq τ] [Dtringfifo F] in
/-- A step that makes nothing pending, and is no poll. -/
theorem Pending.kept {len : ℤ → Prop} {s s' : SlaveState τ F} (h : Pending len s)
    (htx : s'.facade.self.txPending = true →
      s.facade.self.txPending = true ∧ s'.facade.self.txLen = s.facade.self.txLen)
    (hunserved : s'.unserved = s.unserved) : Pending len s' where
  unserved hpending := hunserved.trans (h.unserved (htx hpending).1)
  txLen hpending := (htx hpending).2 ▸ h.txLen (htx hpending).1

omit [DecidableEq τ] [Dtringfifo F] in
theorem pending_initial (len : ℤ → Prop) {facade : Facade τ F}
    (h : facade.self.txPending = false) : Pending len (.initial facade) where
  unserved hpending := absurd (h.symm.trans hpending) nofun
  txLen hpending := absurd (h.symm.trans hpending) nofun

omit [DecidableEq τ] [Dtringfifo F] in
theorem neverWedges_of_last {s : SlaveState τ F} (hpolled : s.last ≠ .polled)
    (hrefused : s.last ≠ .refused) : NeverWedges s :=
  ⟨fun h => absurd h hpolled, fun h => absurd h hrefused⟩

omit [DecidableEq τ] in
theorem findsBytes_of_not_polls {dm : DtioxModbus} {s : SlaveState τ F} {e : SlaveEvent τ F}
    (h : e.polls dm s.facade.self = false) : FindsBytes dm s e := by
  cases e with
  | task e => exact fun _ hpolls => absurd (h.symm.trans hpolls) nofun
  | attach | detach | enable | read | write | setRxSemaphore => trivial

/-- **Step lemma.** A step leaves the transmit side as it should be exactly when it does not find an
    empty message pending at a poll. -/
theorem step_neverWedges {ok : ℤ → Prop} (hok : ∀ len, ok len → 0 ≤ len) {dm : DtioxModbus}
    {s s' : SlaveState τ F} {e : SlaveEvent τ F} (h : Pending ok s)
    (hwrites : ∀ t buf len, e = .write t buf len → 0 ≤ len → ok len)
    (hstep : s.step dm e = some s') :
    (NeverWedges s' ↔ FindsBytes dm s e) ∧ (NeverWedges s' → Pending ok s') := by
  cases s.step_effect hstep with
  | listening hlistening =>
      refine ⟨iff_of_true (neverWedges_of_last nofun nofun) trivial, fun _ => ?_⟩
      exact h.kept (fun hpending => ⟨hpending, rfl⟩) rfl
  | @attach t calls facade dterr hlistening hpending =>
      have hlast : (if dterr = none then StepKind.attached else .other) ≠ .polled ∧
          (if dterr = none then StepKind.attached else .other) ≠ .refused := by
        split <;> exact ⟨nofun, nofun⟩
      exact ⟨iff_of_true (neverWedges_of_last hlast.1 hlast.2) trivial,
        fun _ => h.kept hpending rfl⟩
  | quiet he hpolls hkept hunserved hlast =>
      refine ⟨iff_of_true ?_ (findsBytes_of_not_polls hpolls), fun _ => ?_⟩
      · exact neverWedges_of_last (by simp [hlast]) (by simp [hlast])
      · exact h.kept hkept.txPending hunserved
  | refused hself hpending =>
      refine ⟨iff_of_true ⟨nofun, fun _ => h.unserved hpending⟩ trivial, fun _ => h.kept ?_ rfl⟩
      rw [hself]
      exact fun hset => ⟨hset, rfl⟩
  | @accepted t buf len facade hlen htxLen =>
      refine ⟨iff_of_true (neverWedges_of_last nofun nofun) trivial, fun _ => ⟨fun _ => rfl, ?_⟩⟩
      exact fun _ => htxLen ▸ hwrites t buf len rfl hlen
  | @polled e self pc hpc hpolls hpending =>
      refine ⟨⟨fun hnever _ _ hold hzero => ?_, fun hfinds => ⟨fun _ => ?_, nofun⟩⟩,
        fun hnever => ?_⟩
      · have hclear := hnever.polled rfl
        rw [hpending, hold, hzero] at hclear
        cases hclear
      · rw [hpending]
        cases hold : s.facade.self.txPending with
        | false => rfl
        | true =>
            have hle := hok _ (h.txLen hold)
            have hne := hfinds hpc hpolls hold
            have hpos : 0 < s.facade.self.txLen := by omega
            simp [hpos]
      · have hclear : self.txPending = false := hnever.polled rfl
        refine ⟨fun hset => ?_, fun hset => ?_⟩
        · exact absurd (hclear.symm.trans hset) nofun
        · exact absurd (hclear.symm.trans hset) nofun

/-- A poll that finds an empty message is not blocked. -/
theorem findsBytes_of_blocked {dm : DtioxModbus} {s : SlaveState τ F} {e : SlaveEvent τ F}
    (h : s.step dm e = none) : FindsBytes dm s e := by
  cases e with
  | task e =>
      intro hpc hpolls
      cases e with
      | interpret acquire release =>
          simp [SlaveState.step, SlaveState.taskStep, hpc, TaskEvent.ofTask, TaskState.step,
            SlaveState.task] at h
      | serverSnapshot | accept | sessionSnapshot | receive | others => cases hpolls
  | attach | detach | enable | read | write | setRxSemaphore => trivial

/-- **Exact condition.** In every run of a slave from `init` and `configure` on, with any operations,
    writes of any length and sessions: after every poll nothing is pending, and a write is refused
    only while an accepted message waits for its first poll, exactly when no poll finds a message of
    length 0 pending. -/
theorem never_wedges_exact (dm : DtioxModbus) (cfg : Config)
    (port responseTimeoutMs rxRingCapacity : ℤ) (rxFifo : F) (events : List (SlaveEvent τ F)) :
    Run.AllStates (SlaveState.step dm) NeverWedges
        (.initial (configured dm cfg port responseTimeoutMs rxRingCapacity rxFifo)) events ↔
      Run.AllSteps (SlaveState.step dm) (FindsBytes dm)
        (.initial (configured dm cfg port responseTimeoutMs rxRingCapacity rxFifo)) events := by
  refine Run.allStates_iff_allSteps (I := Pending (0 ≤ ·)) ?_ ?_ ?_ events _
    (pending_initial _ rfl) (neverWedges_of_last nofun nofun)
  · exact fun s e s' h _ hstep =>
      (step_neverWedges (fun _ => id) h (fun _ _ _ _ => id) hstep).2
  · exact fun s e s' h _ hstep =>
      (step_neverWedges (fun _ => id) h (fun _ _ _ _ => id) hstep).1
  · exact fun s e _ _ hblocked => findsBytes_of_blocked hblocked

/-- A run in which no write has length 0 never wedges. -/
theorem neverWedges_of_writes_ne_zero (dm : DtioxModbus) (cfg : Config)
    (port responseTimeoutMs rxRingCapacity : ℤ) (rxFifo : F) (events : List (SlaveEvent τ F))
    (hrun : Run.AllSteps (SlaveState.step dm) (fun _ e => ∀ t buf, e ≠ .write t buf 0)
      (.initial (configured dm cfg port responseTimeoutMs rxRingCapacity rxFifo)) events) :
    Run.AllStates (SlaveState.step dm) NeverWedges
      (.initial (configured dm cfg port responseTimeoutMs rxRingCapacity rxFifo)) events := by
  have hstates := Run.allStates_of_allSteps (P := fun s => Pending (0 < ·) s ∧ NeverWedges s)
    (fun s e s' h hwrites hstep => ?_) events _
    ⟨pending_initial _ rfl, neverWedges_of_last nofun nofun⟩ hrun
  · exact hstates.imp fun s h => h.2
  · have hpos : ∀ t buf len, e = .write t buf len → 0 ≤ len → 0 < len := by
      intro t buf len he hle
      have hne : len ≠ 0 := fun hzero => hwrites t buf (hzero ▸ he)
      omega
    have hiff := step_neverWedges (fun _ => Int.le_of_lt) h.1 hpos hstep
    have hfinds : FindsBytes dm s e := by
      cases e with
      | task e => exact fun _ _ hpending => Int.ne_of_gt (h.1.txLen hpending)
      | attach | detach | enable | read | write | setRxSemaphore => trivial
    have hnever := hiff.1.2 hfinds
    exact ⟨hiff.2 hnever, hnever⟩

/-- A client connects, a message of length 0 is written, and the client polls. -/
def emptyWriteRun : List (SlaveEvent ℕ ByteFifo) :=
  [.attach 0 succeedingAttach, .task (.serverSnapshot none none), .task (.accept 7),
    .task (.sessionSnapshot none none), .write 0 [] 0,
    .task (.receive 12 (.writeRegisters 0 [2]) ⟨0, 0, ""⟩), .task (.interpret none none)]

/-- After an accepted write of length 0 and a poll the message is still pending, and the next write is
    refused. -/
theorem empty_write_wedges :
    (∃ s, Run.exec (SlaveState.step .bigEndian) configuredSlave emptyWriteRun = some s ∧
      s.last = .polled ∧ s.facade.self.txPending = true ∧ ¬NeverWedges s) ∧
    ∃ s, Run.exec (SlaveState.step .bigEndian) configuredSlave (emptyWriteRun ++ [.write 0 [1] 1])
        = some s ∧ s.last = .refused ∧ s.unserved = false ∧ ¬NeverWedges s := by
  constructor
  · refine Run.exists_exec_of_ends
      (Q := fun s => s.last = .polled ∧ s.facade.self.txPending = true) (by decide +kernel) ?_
    rintro s ⟨hlast, hpending⟩
    refine ⟨hlast, hpending, fun h => ?_⟩
    rw [h.polled hlast] at hpending
    cases hpending
  · refine Run.exists_exec_of_ends
      (Q := fun s => s.last = .refused ∧ s.unserved = false) (by decide +kernel) ?_
    rintro s ⟨hlast, hunserved⟩
    refine ⟨hlast, hunserved, fun h => ?_⟩
    rw [h.refused hlast] at hunserved
    cases hunserved

end DtioxLinuxModbusTcpSlave
