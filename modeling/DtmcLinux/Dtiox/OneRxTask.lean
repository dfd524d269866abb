import DtmcLinux.Dtiox.Tcp
import DtmcLinux.Dtiox.Tty
import DtmcLinux.Foundation.StepRun

set_option autoImplicit false

/-! # One receive task for each stream

Detach does not stop the receive task, and attach does not ask whether one is running: the new task
and the old one then both read the descriptor of the object. In the runs in which no attach opens a
descriptor while a task is running, there is one reader at a time, and it reads the descriptor its
own attach has opened. -/

namespace DtioxLinuxTty

variable {F : Type*} [Dtringfifo F]

/-- Attach opens the device. -/
def AttachCalls.opens (calls : AttachCalls) : Prop :=
  calls.open = none ∧ calls.tcgetattr = none ∧ calls.tcsetattr = none

omit [Dtringfifo F] in
/-- An attach that finds the object detached and opens the device is made while no receive task is
    running. -/
def AttachesAlone (s : State F) : Event → Prop
  | .attach calls => s.self.fd < 0 → calls.opens → ∀ t ∈ s.tasks, ¬t.Running
  | _ => True

instance (calls : AttachCalls) : Decidable calls.opens := instDecidableAnd

omit [Dtringfifo F] in
instance (s : State F) : (e : Event) → Decidable (AttachesAlone s e)
  | .attach calls =>
    inferInstanceAs (Decidable (s.self.fd < 0 → calls.opens → ∀ t ∈ s.tasks, ¬t.Running))
  | .started _ => .isTrue trivial
  | .detach => .isTrue trivial
  | .task _ _ => .isTrue trivial

/-! ## The receive task -/

omit [Dtringfifo F] in
theorem postRxSemaphore_fd (self : Tty F) (post : Option Dterr) :
    (postRxSemaphore self post).1.fd = self.fd := by
  unfold postRxSemaphore
  split
  · rfl
  · cases post with
    | none => rfl
    | some err => rfl

omit [Dtringfifo F] in
theorem pollReturned_spec (self : Tty F) (result : Posix.PollResult) :
    (pollReturned self result).1.fd = self.fd ∧
      ReaderPc.reads (pollReturned self result).2 = none := by
  unfold pollReturned
  split
  · split
    · exact ⟨rfl, rfl⟩
    · exact ⟨rfl, rfl⟩
  · exact ⟨rfl, rfl⟩
  · split
    · exact ⟨rfl, rfl⟩
    · split
      · exact ⟨rfl, rfl⟩
      · split
        · exact ⟨rfl, rfl⟩
        · exact ⟨rfl, rfl⟩

theorem pushReceived_spec (self : Tty F) (bs : List UInt8) (post : Option Dterr) :
    (pushReceived self bs post).1.fd = self.fd ∧
      ReaderPc.reads (pushReceived self bs post).2 = none := by
  unfold pushReceived
  dsimp only
  split
  · exact ⟨rfl, rfl⟩
  · split
    · have hpost := postRxSemaphore_fd { self with rxFifo := (Dtringfifo.push self.rxFifo bs).1 } post
      split
      · next heq =>
          rw [heq] at hpost
          exact ⟨hpost, rfl⟩
      · next heq =>
          rw [heq] at hpost
          exact ⟨hpost, rfl⟩
    · exact ⟨rfl, rfl⟩

theorem readReturned_spec (self : Tty F) (result : Posix.ReadResult) (post : Option Dterr) :
    (readReturned self result post).1.fd = self.fd ∧
      ReaderPc.reads (readReturned self result post).2 = none := by
  unfold readReturned
  split
  · split
    · exact ⟨rfl, rfl⟩
    · exact ⟨rfl, rfl⟩
  · split
    · exact ⟨rfl, rfl⟩
    · dsimp only
      split
      · exact ⟨rfl, rfl⟩
      · exact pushReceived_spec { self with rxByteCount := _ } _ post

/-- A step is taken by a running task; it leaves the descriptor of the object alone and reads that
    one, or what it read before. -/
theorem taskStep_spec {self self' : Tty F} {t t' : ReaderTask TaskPc} {e : TaskEvent}
    (h : taskStep self t e = some (self', t')) :
    t.Advances self.fd t' ∧ self'.fd = self.fd := by
  cases e with
  | ready dterr =>
      simp only [taskStep] at h
      split at h
      · next hpc =>
          obtain ⟨rfl, rfl⟩ := Prod.mk.inj (Option.some.inj h)
          exact ⟨.idle hpc rfl rfl rfl, rfl⟩
      · next hpc =>
          obtain ⟨rfl, rfl⟩ := Prod.mk.inj (Option.some.inj h)
          exact ⟨.idle hpc rfl rfl rfl, rfl⟩
      · exact absurd h (by simp)
  | poll =>
      simp only [taskStep, Option.ite_none_right_eq_some, Option.some.injEq, Prod.mk.injEq] at h
      obtain ⟨hpc, rfl, rfl⟩ := h
      exact ⟨.turn hpc rfl rfl rfl, rfl⟩
  | pollReturns result =>
      simp only [taskStep] at h
      split at h
      · next hpc =>
          simp only [Option.ite_none_right_eq_some, Option.some.injEq, Prod.mk.injEq] at h
          obtain ⟨-, rfl, rfl⟩ := h
          obtain ⟨hfd, hreads⟩ := pollReturned_spec self result
          exact ⟨.idle hpc rfl rfl hreads, hfd⟩
      · exact absurd h (by simp)
  | read =>
      simp only [taskStep, Option.ite_none_right_eq_some, Option.some.injEq, Prod.mk.injEq] at h
      obtain ⟨hpc, rfl, rfl⟩ := h
      exact ⟨.turn hpc rfl rfl rfl, rfl⟩
  | readReturns result post =>
      simp only [taskStep] at h
      split at h
      · next hpc =>
          simp only [Option.ite_none_right_eq_some, Option.some.injEq, Prod.mk.injEq] at h
          obtain ⟨-, rfl, rfl⟩ := h
          obtain ⟨hfd, hreads⟩ := readReturned_spec self result post
          exact ⟨.idle hpc rfl rfl hreads, hfd⟩
      · exact absurd h (by simp)
  | post post =>
      simp only [taskStep, Option.ite_none_right_eq_some] at h
      obtain ⟨hpc, h⟩ := h
      have hpost := postRxSemaphore_fd { self with rxThreadRunning := false } post
      split at h
      · next heq =>
          rw [heq] at hpost
          obtain ⟨rfl, rfl⟩ := Prod.mk.inj (Option.some.inj h)
          exact ⟨.stay hpc rfl, hpost⟩
      · next heq =>
          rw [heq] at hpost
          obtain ⟨rfl, rfl⟩ := Prod.mk.inj (Option.some.inj h)
          exact ⟨.idle hpc rfl rfl rfl, hpost⟩

/-! ## Steps -/

omit [Dtringfifo F] in
/-- What an attach does to the descriptor and the tasks: nothing, or it opens the device and may
    start a task for it. -/
theorem attach_spec (s : State F) (calls : AttachCalls) :
    ((attach s calls).1.self.fd = s.self.fd ∧ (attach s calls).1.tasks = s.tasks) ∨
      s.self.fd < 0 ∧ calls.opens ∧
        ((attach s calls).1.tasks = s.tasks ∨
          (attach s calls).1.tasks
            = s.tasks ++ [{ pc := .created, opened := (attach s calls).1.self.fd, ready := false }])
    := by
  unfold attach
  by_cases hfd : s.self.fd ≥ 0
  · rw [if_pos hfd]
    exact Or.inl ⟨rfl, rfl⟩
  · rw [if_neg hfd]
    cases hopen : calls.open with
    | some err => exact Or.inl ⟨rfl, rfl⟩
    | none =>
        cases hget : calls.tcgetattr with
        | some err => exact Or.inl ⟨rfl, rfl⟩
        | none =>
            cases hset : calls.tcsetattr with
            | some err => exact Or.inl ⟨rfl, rfl⟩
            | none =>
                refine Or.inr ⟨Int.not_le.1 hfd, ⟨hopen, hget, hset⟩, ?_⟩
                cases calls.create with
                | some err => exact Or.inl rfl
                | none =>
                    cases calls.start with
                    | some err => exact Or.inl rfl
                    | none => exact Or.inr rfl

/-- **Step lemma.** -/
theorem step_oneReader {s s' : State F} {e : Event} (h : OneReader s.self.fd s.tasks)
    (halone : AttachesAlone s e) (hstep : step s e = some s') : OneReader s'.self.fd s'.tasks := by
  cases e with
  | attach calls =>
      simp only [step, Option.ite_none_right_eq_some, Option.some.injEq] at hstep
      obtain ⟨-, rfl⟩ := hstep
      rcases attach_spec s calls with ⟨hfd, htasks⟩ | ⟨hneg, hopens, htasks | htasks⟩
      · rw [hfd, htasks]
        exact h
      · rw [htasks]
        exact h.reopen (halone hneg hopens)
      · rw [htasks]
        exact h.spawn (halone hneg hopens) rfl rfl
  | started wait =>
      simp only [step, started] at hstep
      split at hstep
      · exact absurd hstep (by simp)
      · simp only [Option.ite_none_right_eq_some, Option.some.injEq] at hstep
        obtain ⟨-, rfl⟩ := hstep
        exact h
  | detach =>
      simp only [step, Option.ite_none_right_eq_some, Option.some.injEq] at hstep
      obtain ⟨-, rfl⟩ := hstep
      unfold detach
      split
      · exact h.clear (show (-1 : ℤ) < 0 by decide)
      · exact h
  | task i e =>
      simp only [step] at hstep
      split at hstep
      · exact absurd hstep (by simp)
      · next t ht =>
          obtain ⟨⟨self', t'⟩, htask, rfl⟩ := Option.map_eq_some_iff.1 hstep
          obtain ⟨hmoves, hfd⟩ := taskStep_spec htask
          have hadvance := h.advance ht hmoves
          rw [← hfd] at hadvance
          exact hadvance

end DtioxLinuxTty

namespace DtioxLinuxTcp

variable {F : Type*} [Dtringfifo F]

omit [Dtringfifo F] in
/-- An attach that finds the object detached and gets a connection is made while no receive task is
    running. -/
def AttachesAlone (s : State F) : Event → Prop
  | .attach calls => s.self.fd < 0 → calls.connect = none → ∀ t ∈ s.tasks, ¬t.Running
  | _ => True

omit [Dtringfifo F] in
instance (s : State F) : (e : Event) → Decidable (AttachesAlone s e)
  | .attach calls =>
    inferInstanceAs (Decidable (s.self.fd < 0 → calls.connect = none → ∀ t ∈ s.tasks, ¬t.Running))
  | .started _ => .isTrue trivial
  | .detach => .isTrue trivial
  | .task _ _ => .isTrue trivial

/-! ## The receive task -/

/-- A step is taken by a running task; it leaves the descriptor of the object alone or clears it,
    and reads that one, or what it read before. -/
theorem taskStep_spec {self self' : Tcp F} {fds fds' : DescriptorTable SocketKind}
    {t t' : ReaderTask TaskPc} {e : TaskEvent}
    (h : taskStep self fds t e = some (self', fds', t')) :
    t.Advances self.fd t' ∧ (self'.fd = self.fd ∨ self'.fd < 0) := by
  cases taskStep_effect h with
  | ready hpc | notReady hpc => exact ⟨.idle hpc rfl rfl rfl, Or.inl rfl⟩
  | recv hpc => exact ⟨.turn hpc rfl rfl rfl, Or.inl rfl⟩
  | @recvReturns _ result post hpc _ =>
      obtain ⟨_, _, _, hself⟩ := recvReturned_frame self result post
      refine ⟨.idle hpc rfl rfl (recvReturned_reads self result post), Or.inl ?_⟩
      rw [hself]
  -- each action of `cleanup:` reads nothing, and one of them clears the descriptor
  | closeFd hpc => exact ⟨.idle hpc rfl rfl rfl, Or.inr (DescriptorTable.closedVar_neg _)⟩
  | flags hpc | closeListenFd hpc | wakeReaders hpc =>
      exact ⟨.idle hpc rfl rfl rfl, Or.inl rfl⟩

/-! ## Steps -/

omit [Dtringfifo F] in
/-- What an attach does to the descriptor and the tasks: nothing, or it gets a connection and may
    start a task for it. -/
theorem attach_spec (s : State F) (calls : AttachCalls) :
    ((attach s calls).1.self.fd = s.self.fd ∧ (attach s calls).1.tasks = s.tasks) ∨
      s.self.fd < 0 ∧ calls.connect = none ∧
        ((attach s calls).1.tasks = s.tasks ∨
          (attach s calls).1.tasks
            = s.tasks ++ [{ pc := .created, opened := (attach s calls).1.self.fd, ready := false }])
    := by
  unfold attach
  by_cases hfd : s.self.fd ≥ 0
  · rw [if_pos hfd]
    exact Or.inl ⟨rfl, rfl⟩
  · rw [if_neg hfd]
    cases calls.connect with
    | some err => exact Or.inl ⟨rfl, rfl⟩
    | none =>
        refine Or.inr ⟨Int.not_le.1 hfd, rfl, ?_⟩
        cases calls.create with
        | some err => exact Or.inl rfl
        | none =>
            cases calls.start with
            | some err => exact Or.inl rfl
            | none => exact Or.inr rfl

/-- **Step lemma.** -/
theorem step_oneReader {s s' : State F} {e : Event} (h : OneReader s.self.fd s.tasks)
    (halone : AttachesAlone s e) (hstep : step s e = some s') : OneReader s'.self.fd s'.tasks := by
  cases e with
  | attach calls =>
      simp only [step, Option.ite_none_right_eq_some, Option.some.injEq] at hstep
      obtain ⟨-, rfl⟩ := hstep
      rcases attach_spec s calls with ⟨hfd, htasks⟩ | ⟨hneg, hopens, htasks | htasks⟩
      · rw [hfd, htasks]
        exact h
      · rw [htasks]
        exact h.reopen (halone hneg hopens)
      · rw [htasks]
        exact h.spawn (halone hneg hopens) rfl rfl
  | started wait =>
      simp only [step, started] at hstep
      split at hstep
      · exact absurd hstep (by simp)
      · split at hstep
        · obtain rfl := Option.some.inj hstep
          exact h
        · simp only [Option.ite_none_right_eq_some, Option.some.injEq] at hstep
          obtain ⟨-, rfl⟩ := hstep
          exact h
  | detach =>
      simp only [step, Option.ite_none_right_eq_some, Option.some.injEq] at hstep
      obtain ⟨-, rfl⟩ := hstep
      exact h.clear (DescriptorTable.closedVar_neg _)
  | task i e =>
      simp only [step] at hstep
      split at hstep
      · exact absurd hstep (by simp)
      · next t ht =>
          obtain ⟨⟨self', fds', t'⟩, htask, rfl⟩ := Option.map_eq_some_iff.1 hstep
          obtain ⟨hmoves, hfd⟩ := taskStep_spec htask
          have hadvance := h.advance ht hmoves
          rcases hfd with hfd | hneg
          · rw [← hfd] at hadvance
            exact hadvance
          · exact hadvance.clear hneg

end DtioxLinuxTcp

namespace Dtiox

/-- The device hangs up, and the application detaches and attaches again. -/
def ttyRun : List DtioxLinuxTty.Event :=
  [.attach ⟨none, none, none, none, none⟩, .task 0 (.ready none), .started none, .task 0 .poll,
    .task 0 (.pollReturns (.revents 0x10)), .task 0 (.post none), .detach,
    .attach ⟨none, none, none, none, none⟩, .task 1 (.ready none), .task 1 .poll]

/-- The peer closes the connection, and the application attaches again. -/
def tcpRun : List DtioxLinuxTcp.Event :=
  [.attach ⟨none, none, none⟩, .task 0 (.ready none), .started none, .task 0 .recv,
    .task 0 (.recvReturns (.bytes []) none), .task 0 (.cleanup none), .task 0 (.cleanup none),
    .task 0 (.cleanup none), .task 0 (.cleanup none), .attach ⟨none, none, none⟩,
    .task 1 (.ready none), .task 1 .recv]

/-- Two tasks that are both running are two readers. -/
theorem not_singleReader {π : Type*} [ReaderPc π] {tasks : List (ReaderTask π)}
    (h : (tasks.map fun t => ReaderPc.running t.pc) = [true, true]) : ¬SingleReader tasks := by
  intro hsingle
  obtain ⟨a, rest, rfl, ha, hrest⟩ := List.map_eq_cons_iff.1 h
  obtain ⟨b, rest, rfl, hb, -⟩ := List.map_eq_cons_iff.1 hrest
  exact absurd (hsingle.atMostOne 0 1 a b rfl rfl ha hb) (by decide)

end Dtiox
