import DtmcLinux.Dtiox.OneRxTask

set_option autoImplicit false

/-! # The life of a TTY object

Attach, detach, the receive tasks, the reads and enable, in any order. The object owns the device it
has opened, and nothing else stays open. An attach that opens the device and then fails to start the
task leaves the object attached: the next attach succeeds and does nothing, and nothing is received.
A task that stops does not return its error; the reads learn of it through `rx_thread_failed`. -/

namespace DtioxLinuxTty

open Posix

variable {F : Type*} [Dtringfifo F]

/-! ## Read and enable -/

/-- `dtiox_linux_tty_read`: the error, and the bytes. -/
def read (strerror : ℤ → String) (self : Tty F) (bufLen : ℕ) :
    Tty F × Option Dterr × List UInt8 :=
  if self.rxThreadFailed then
    let self := { self with rxThreadFailed := false }
    let errno := self.rxErrno
    if self.deviceGone then
      ({ self with deviceGone := false },
        some (.new .io s!"UART device disappeared/rebooted: {errno} ({strerror errno})"), [])
    else (self, some (.new .io s!"UART RX thread failed: {errno} ({strerror errno})"), [])
  else if self.rxOverflowFlag then
    let dropped := self.fifoDroppedBytes
    ({ self with rxOverflowFlag := false },
      some (.new .overflow s!"UART RX overflow (dropped {dropped} bytes)"), [])
  else
    let (fifo, bytes) := Dtringfifo.pop self.rxFifo bufLen
    ({ self with rxFifo := fifo }, none, bytes)

/-- `dtiox_linux_tty_enable` -/
def enable (self : Tty F) (enabled : Bool) : Tty F :=
  { self with
    rxEnabled := enabled
    rxFifo := Dtringfifo.reset self.rxFifo
    fifoDroppedBytes := 0
    rxOverflowFlag := false
    rxByteCount := 0
    deviceGone := false
    rxThreadFailed := false
    rxErrno := 0 }

/-- The read tells that a receive task has failed. -/
def tells : Option Dterr → Bool
  | some (.new .io _) => true
  | _ => false

/-! ## Runs -/

inductive LifeEvent where
  | system (e : Event)
  | read (bufLen : ℕ)
  | enable (enabled : Bool)

/-- The object, and whether a task has stopped since the last enable that no read has told of. -/
structure Life (F : Type*) where
  state : State F
  untold : Bool

/-- At `cleanup:` or behind it. -/
def stopped : TaskPc → Bool
  | .cleanup => true
  | .returned _ => true
  | _ => false

omit [Dtringfifo F] in
/-- The step from `s` to `s'` has stopped the task. -/
def stops (s s' : State F) : Event → Bool
  | .task i _ => (s.tasks[i]?).any (!stopped ·.pc) && (s'.tasks[i]?).any (stopped ·.pc)
  | _ => false

/-- One step. -/
def lifeStep (strerror : ℤ → String) (l : Life F) : LifeEvent → Option (Life F)
  | .system e => (step l.state e).map fun s => ⟨s, l.untold || stops l.state s e⟩
  | .read bufLen =>
    let (self, dterr, _) := read strerror l.state.self bufLen
    some ⟨{ l.state with self := self }, l.untold && !tells dterr⟩
  | .enable enabled => some ⟨{ l.state with self := enable l.state.self enabled }, false⟩

/-! ## Invariants -/

omit [Dtringfifo F] in
/-- **The device is owned.** The variable holds the open device or none, and what was opened before is
    closed, once. -/
structure OwnsDevice (s : State F) : Prop where
  fd : s.fds.Holds s.self.fd ()
  closedOnce : s.fds.ClosedOnce
  noLeak : s.fds.ClosedFrom 0 s.self.fd

omit [Dtringfifo F] in
/-- The device that is open has a task that was started for it. -/
def Served (s : State F) : Prop := 0 ≤ s.self.fd → s.self.fd ∈ s.tasks.map ReaderTask.opened

omit [Dtringfifo F] in
/-- An attach that opens the device starts the task. -/
def StartsTask (s : State F) : LifeEvent → Prop
  | .system (.attach calls) => s.app = .idle → s.self.fd < 0 → calls.opens →
      calls.create = none ∧ calls.start = none
  | _ => True

/-- No task returns an error, and without `rx_semaphore` none returns: the post at `cleanup:` fails
    and jumps there again. -/
def ReturnsNoError (s : State F) : Prop :=
  ∀ t ∈ s.tasks, ∀ dterr, t.pc = .returned dterr → dterr = none ∧ s.self.rxSemaphore = true

/-- The task stops without setting `rx_thread_failed`: it cannot tell that it is ready, or the post
    for a chunk that was stored fails. -/
def StopsQuietly (self : Tty F) (t : ReaderTask TaskPc) : TaskEvent → Prop
  | .ready dterr => t.pc = .created ∧ dterr ≠ none
  | .readReturns (.bytes bs) post =>
    (∃ fd, t.pc = .reading fd ∧ (ReadResult.bytes bs).possible fd 256 = true) ∧ bs ≠ [] ∧
      self.rxEnabled = true ∧ bs.length ≤ (Dtringfifo.push self.rxFifo bs).2 ∧
      self.rxSemaphore = true ∧ post ≠ none
  | _ => False

/-- A task that stops quietly does so when the reads have another to tell of. -/
def StopsTold (l : Life F) : LifeEvent → Prop
  | .system (.task i e) => ∀ t, l.state.tasks[i]? = some t → StopsQuietly l.state.self t e →
      l.untold = true
  | _ => True

/-- The next read tells of a stopped task exactly if there is one it has to tell of. -/
def Told (strerror : ℤ → String) (l : Life F) : Prop :=
  ∀ bufLen, tells (read strerror l.state.self bufLen).2.1 = l.untold

/-! ## Reading -/

theorem tells_read (strerror : ℤ → String) (self : Tty F) (bufLen : ℕ) :
    tells (read strerror self bufLen).2.1 = self.rxThreadFailed := by
  unfold read
  by_cases hfailed : self.rxThreadFailed = true
  · rw [if_pos hfailed, hfailed]
    dsimp only
    split <;> rfl
  · have hfalse : self.rxThreadFailed = false := by simpa using hfailed
    rw [if_neg hfailed, hfalse]
    split <;> rfl

/-- What a read leaves alone, and that it clears the flag. -/
theorem read_spec (strerror : ℤ → String) (self : Tty F) (bufLen : ℕ) :
    (read strerror self bufLen).1.fd = self.fd ∧
      (read strerror self bufLen).1.rxSemaphore = self.rxSemaphore ∧
      (read strerror self bufLen).1.rxThreadFailed = false := by
  unfold read
  by_cases hfailed : self.rxThreadFailed = true
  · rw [if_pos hfailed]
    dsimp only
    split <;> exact ⟨rfl, rfl, rfl⟩
  · have hfalse : self.rxThreadFailed = false := by simpa using hfailed
    rw [if_neg hfailed]
    split <;> exact ⟨rfl, rfl, hfalse⟩

theorem told_iff (strerror : ℤ → String) (l : Life F) :
    Told strerror l ↔ l.state.self.rxThreadFailed = l.untold :=
  ⟨fun h => (tells_read strerror _ 0).symm.trans (h 0), fun h bufLen =>
    (tells_read strerror _ bufLen).trans h⟩

/-! ## The receive task -/

omit [Dtringfifo F] in
/-- A post changes nothing but the number of posts; without a semaphore it fails. -/
theorem postRxSemaphore_spec (self : Tty F) (post : Option Dterr) :
    (postRxSemaphore self post).1.rxSemaphore = self.rxSemaphore ∧
      (postRxSemaphore self post).1.rxThreadFailed = self.rxThreadFailed ∧
      ((postRxSemaphore self post).2 = none ↔ self.rxSemaphore = true ∧ post = none) := by
  unfold postRxSemaphore
  cases hsemaphore : self.rxSemaphore with
  | false => exact ⟨hsemaphore, rfl, by simp⟩
  | true =>
      cases post with
      | none => exact ⟨rfl, rfl, by simp⟩
      | some err => exact ⟨hsemaphore, rfl, by simp⟩

/-- What a step does to the flag: a task that stops sets it, unless it stops quietly. -/
inductive Flags (self : Tty F) (t : ReaderTask TaskPc) (self' : Tty F) (pc' : TaskPc) (quietly : Prop) :
    Prop where
  | loud (hbefore : stopped t.pc = false) (hafter : stopped pc' = true)
      (hflag : self'.rxThreadFailed = true) (hloud : ¬quietly)
  | quiet (hbefore : stopped t.pc = false) (hafter : stopped pc' = true)
      (hflag : self'.rxThreadFailed = self.rxThreadFailed) (hquiet : quietly)
  | goesOn (hstays : stopped t.pc = true ∨ stopped pc' = false)
      (hflag : self'.rxThreadFailed = self.rxThreadFailed) (hloud : ¬quietly)

omit [Dtringfifo F] in
theorem pollReturned_flags (self : Tty F) {t : ReaderTask TaskPc} {fd : ℤ} (hpc : t.pc = .polling fd)
    (result : PollResult) :
    (pollReturned self result).1.rxSemaphore = self.rxSemaphore ∧
      Flags self t (pollReturned self result).1 (pollReturned self result).2 False := by
  have hbefore : stopped t.pc = false := by rw [hpc]; rfl
  unfold pollReturned
  split
  · split
    · exact ⟨rfl, .goesOn (.inr rfl) rfl id⟩
    · exact ⟨rfl, .loud hbefore rfl rfl id⟩
  · exact ⟨rfl, .goesOn (.inr rfl) rfl id⟩
  · split
    · exact ⟨rfl, .loud hbefore rfl rfl id⟩
    · split
      · exact ⟨rfl, .loud hbefore rfl rfl id⟩
      · split
        · exact ⟨rfl, .goesOn (.inr rfl) rfl id⟩
        · exact ⟨rfl, .goesOn (.inr rfl) rfl id⟩

theorem readReturned_flags (self : Tty F) {t : ReaderTask TaskPc} {fd : ℤ} (hpc : t.pc = .reading fd)
    (result : ReadResult) (post : Option Dterr) (hpossible : result.possible fd 256 = true) :
    (readReturned self result post).1.rxSemaphore = self.rxSemaphore ∧
      Flags self t (readReturned self result post).1 (readReturned self result post).2
        (StopsQuietly self t (.readReturns result post)) := by
  have hbefore : stopped t.pc = false := by rw [hpc]; rfl
  unfold readReturned
  cases result with
  | failed errno strerror =>
      dsimp only
      split
      · exact ⟨rfl, .goesOn (.inr rfl) rfl id⟩
      · exact ⟨rfl, .loud hbefore rfl rfl id⟩
  | bytes bs =>
      dsimp only
      split
      · next hempty =>
          refine ⟨rfl, .goesOn (.inr rfl) rfl fun hquiet => ?_⟩
          exact hquiet.2.1 (List.length_eq_zero_iff.1 hempty)
      · next hsome =>
          split
          · next hdisabled =>
              refine ⟨rfl, .goesOn (.inr rfl) rfl fun hquiet => ?_⟩
              rw [hquiet.2.2.1] at hdisabled
              cases hdisabled
          · next henabled =>
              unfold pushReceived
              dsimp only
              split
              · next hdropped =>
                  refine ⟨rfl, .goesOn (.inr rfl) rfl fun hquiet => ?_⟩
                  have hfits := hquiet.2.2.2.1
                  omega
              · next hfits =>
                  split
                  · next hsemaphore =>
                      have hspec := postRxSemaphore_spec
                        { self with
                          rxByteCount := add64 self.rxByteCount bs.length
                          rxFifo := (Dtringfifo.push self.rxFifo bs).1 } post
                      split
                      · next heq =>
                          rw [heq] at hspec
                          obtain ⟨hsame, hflag, hposted⟩ := hspec
                          refine ⟨hsame, .quiet hbefore rfl hflag ⟨⟨fd, hpc, hpossible⟩, ?_, ?_, ?_,
                            hsemaphore, ?_⟩⟩
                          · exact fun hnil => hsome (List.length_eq_zero_iff.2 hnil)
                          · simpa using henabled
                          · omega
                          · rintro rfl
                            exact absurd (hposted.2 ⟨hsemaphore, rfl⟩) (Option.some_ne_none _)
                      · next heq =>
                          rw [heq] at hspec
                          obtain ⟨hsame, hflag, hposted⟩ := hspec
                          refine ⟨hsame, .goesOn (.inr rfl) hflag fun hquiet => ?_⟩
                          exact hquiet.2.2.2.2.2 (hposted.1 rfl).2
                  · next hsemaphore =>
                      refine ⟨rfl, .goesOn (.inr rfl) rfl fun hquiet => ?_⟩
                      exact hsemaphore hquiet.2.2.2.2.1

omit [Dtringfifo F] in
theorem pollReturned_running (self : Tty F) (result : PollResult) :
    ReaderPc.running (pollReturned self result).2 = true := by
  unfold pollReturned
  split
  · split <;> rfl
  · rfl
  · split
    · rfl
    · split
      · rfl
      · split <;> rfl

theorem readReturned_running (self : Tty F) (result : ReadResult) (post : Option Dterr) :
    ReaderPc.running (readReturned self result post).2 = true := by
  unfold readReturned
  split
  · split <;> rfl
  · split
    · rfl
    · dsimp only
      split
      · rfl
      · unfold pushReceived
        dsimp only
        split
        · rfl
        · split
          · split <;> rfl
          · rfl

theorem not_returned_of_running {pc : TaskPc} (h : ReaderPc.running pc = true) (dterr : Option Dterr) :
    pc ≠ .returned dterr := by
  rintro rfl
  cases h

/-- **Spec of a step of the task**, with `taskStep_spec`. -/
theorem taskStep_flags {self self' : Tty F} {t t' : ReaderTask TaskPc} {e : TaskEvent}
    (h : taskStep self t e = some (self', t')) :
    self'.rxSemaphore = self.rxSemaphore ∧ Flags self t self' t'.pc (StopsQuietly self t e) ∧
      ∀ dterr, t'.pc = .returned dterr → dterr = none ∧ self.rxSemaphore = true := by
  cases e with
  | ready dterr =>
      simp only [taskStep] at h
      split at h
      · next hpc =>
          obtain ⟨rfl, rfl⟩ := Prod.mk.inj (Option.some.inj h)
          exact ⟨rfl, .goesOn (.inr rfl) rfl fun hquiet => hquiet.2 rfl, fun _ hret => by cases hret⟩
      · next hpc =>
          obtain ⟨rfl, rfl⟩ := Prod.mk.inj (Option.some.inj h)
          exact ⟨rfl, .quiet (by rw [hpc]; rfl) rfl rfl ⟨hpc, Option.some_ne_none _⟩,
            fun _ hret => by cases hret⟩
      · cases h
  | poll =>
      simp only [taskStep, Option.ite_none_right_eq_some, Option.some.injEq, Prod.mk.injEq] at h
      obtain ⟨-, rfl, rfl⟩ := h
      exact ⟨rfl, .goesOn (.inr rfl) rfl id, fun _ hret => by cases hret⟩
  | pollReturns result =>
      simp only [taskStep] at h
      split at h
      · next fd hpc =>
          simp only [Option.ite_none_right_eq_some, Option.some.injEq, Prod.mk.injEq] at h
          obtain ⟨-, rfl, rfl⟩ := h
          obtain ⟨hsemaphore, hflags⟩ := pollReturned_flags self hpc result
          exact ⟨hsemaphore, hflags, fun dterr hret =>
            absurd hret (not_returned_of_running (pollReturned_running self result) dterr)⟩
      · cases h
  | read =>
      simp only [taskStep, Option.ite_none_right_eq_some, Option.some.injEq, Prod.mk.injEq] at h
      obtain ⟨-, rfl, rfl⟩ := h
      exact ⟨rfl, .goesOn (.inr rfl) rfl id, fun _ hret => by cases hret⟩
  | readReturns result post =>
      simp only [taskStep] at h
      split at h
      · next fd hpc =>
          simp only [Option.ite_none_right_eq_some, Option.some.injEq, Prod.mk.injEq] at h
          obtain ⟨hpossible, rfl, rfl⟩ := h
          obtain ⟨hsemaphore, hflags⟩ := readReturned_flags self hpc result post hpossible
          exact ⟨hsemaphore, hflags, fun dterr hret =>
            absurd hret (not_returned_of_running (readReturned_running self result post) dterr)⟩
      · cases h
  | post post =>
      simp only [taskStep, Option.ite_none_right_eq_some] at h
      obtain ⟨hpc, h⟩ := h
      have hspec := postRxSemaphore_spec { self with rxThreadRunning := false } post
      have hbefore : stopped t.pc = true := by rw [hpc]; rfl
      split at h
      · next heq =>
          rw [heq] at hspec
          obtain ⟨rfl, rfl⟩ := Prod.mk.inj (Option.some.inj h)
          exact ⟨hspec.1, .goesOn (.inl hbefore) hspec.2.1 id, fun _ hret => by
            rw [hpc] at hret
            cases hret⟩
      · next heq =>
          rw [heq] at hspec
          obtain ⟨rfl, rfl⟩ := Prod.mk.inj (Option.some.inj h)
          refine ⟨hspec.1, .goesOn (.inl hbefore) hspec.2.1 id, fun dterr hret => ?_⟩
          cases hret
          exact ⟨rfl, (hspec.2.2.1 rfl).1⟩

/-! ## Attach -/

/-- What an attach does: nothing, or it opens the device and closes it again, or it keeps the device
    and starts no task, or it starts the task. -/
inductive Attaches (s : State F) (calls : AttachCalls) (s' : State F) : Prop where
  | attached (hfd : 0 ≤ s.self.fd) (heq : s' = s)
  | failed (hfd : s.self.fd < 0) (hnot : ¬calls.opens) (fds : DescriptorTable Unit)
      (hfds : fds = s.fds ∨ fds = (s.fds.create ()).1.close (s.fds.create ()).2)
      (heq : s' = { s with fds := fds })
  | unserved (hfd : s.self.fd < 0) (hopens : calls.opens)
      (hnot : ¬(calls.create = none ∧ calls.start = none))
      (heq : s' = { s with
        fds := (s.fds.create ()).1, self := { s.self with fd := (s.fds.create ()).2 } })
  | started (hfd : s.self.fd < 0) (hopens : calls.opens)
      (hstarts : calls.create = none ∧ calls.start = none)
      (heq : s' = { s with
        fds := (s.fds.create ()).1
        self := { s.self with fd := (s.fds.create ()).2 }
        tasks := s.tasks ++ [{ pc := .created, opened := (s.fds.create ()).2, ready := false }]
        app := .starting s.tasks.length })

omit [Dtringfifo F] in
theorem attach_cases (s : State F) (calls : AttachCalls) :
    Attaches s calls (attach s calls).1 := by
  unfold attach
  by_cases hfd : s.self.fd ≥ 0
  · rw [if_pos hfd]
    exact .attached hfd rfl
  · have hneg : s.self.fd < 0 := Int.not_le.1 hfd
    rw [if_neg hfd]
    cases hopen : calls.open with
    | some err =>
        refine .failed hneg (fun h => ?_) s.fds (.inl rfl) rfl
        rw [h.1] at hopen
        cases hopen
    | none =>
        cases hget : calls.tcgetattr with
        | some err =>
            refine .failed hneg (fun h => ?_) _ (.inr rfl) rfl
            rw [h.2.1] at hget
            cases hget
        | none =>
            cases hset : calls.tcsetattr with
            | some err =>
                refine .failed hneg (fun h => ?_) _ (.inr rfl) rfl
                rw [h.2.2] at hset
                cases hset
            | none =>
                have hopens : calls.opens := ⟨hopen, hget, hset⟩
                cases hcreate : calls.create with
                | some err =>
                    refine .unserved hneg hopens (fun h => ?_) rfl
                    rw [hcreate] at h
                    cases h.1
                | none =>
                    cases hstart : calls.start with
                    | some err =>
                        refine .unserved hneg hopens (fun h => ?_) rfl
                        rw [hstart] at h
                        cases h.2
                    | none => exact .started hneg hopens ⟨hcreate, hstart⟩ rfl

/-! ## Steps -/

/-- What a step can do. -/
inductive Effect (strerror : ℤ → String) (l : Life F) : LifeEvent → Life F → Prop where
  | attach {calls : AttachCalls} {s : State F} (hidle : l.state.app = .idle)
      (hattach : Attaches l.state calls s) : Effect strerror l (.system (.attach calls)) ⟨s, l.untold⟩
  | started {wait : Option Dterr} :
      Effect strerror l (.system (.started wait)) ⟨{ l.state with app := .idle }, l.untold⟩
  | detach : Effect strerror l (.system .detach) ⟨detach l.state, l.untold⟩
  | task {i : ℕ} {e : TaskEvent} {t t' : ReaderTask TaskPc} {self : Tty F}
      (ht : l.state.tasks[i]? = some t) (hstep : taskStep l.state.self t e = some (self, t')) :
      Effect strerror l (.system (.task i e))
        ⟨{ l.state with self := self, tasks := l.state.tasks.set i t' },
          l.untold || (!stopped t.pc && stopped t'.pc)⟩
  | read {bufLen : ℕ} : Effect strerror l (.read bufLen)
      ⟨{ l.state with self := (DtioxLinuxTty.read strerror l.state.self bufLen).1 },
        l.untold && !tells (DtioxLinuxTty.read strerror l.state.self bufLen).2.1⟩
  | enable {enabled : Bool} : Effect strerror l (.enable enabled)
      ⟨{ l.state with self := DtioxLinuxTty.enable l.state.self enabled }, false⟩

theorem lifeStep_effect {strerror : ℤ → String} {l l' : Life F} {e : LifeEvent}
    (h : lifeStep strerror l e = some l') : Effect strerror l e l' := by
  cases e with
  | system e =>
      obtain ⟨s, hstep, rfl⟩ := Option.map_eq_some_iff.1 h
      cases e with
      | attach calls =>
          obtain ⟨hidle, hs⟩ := Option.ite_none_right_eq_some.1 hstep
          obtain rfl := Option.some.inj hs
          have hstops : ∀ s, stops l.state s (.attach calls) = false := fun _ => rfl
          rw [hstops, Bool.or_false]
          exact .attach hidle (attach_cases l.state calls)
      | started wait =>
          simp only [step, started] at hstep
          split at hstep
          · cases hstep
          · obtain ⟨-, hs⟩ := Option.ite_none_right_eq_some.1 hstep
            obtain rfl := Option.some.inj hs
            have hstops : ∀ s, stops l.state s (.started wait) = false := fun _ => rfl
            rw [hstops, Bool.or_false]
            exact .started
      | detach =>
          obtain ⟨-, hs⟩ := Option.ite_none_right_eq_some.1 hstep
          obtain rfl := Option.some.inj hs
          have hstops : ∀ s, stops l.state s .detach = false := fun _ => rfl
          rw [hstops, Bool.or_false]
          exact .detach
      | task i e =>
          simp only [step] at hstep
          split at hstep
          · cases hstep
          · next t ht =>
              obtain ⟨⟨self, t'⟩, htask, rfl⟩ := Option.map_eq_some_iff.1 hstep
              have hlt : i < l.state.tasks.length := (List.getElem?_eq_some_iff.1 ht).1
              have hstops : stops l.state { l.state with self := self, tasks := l.state.tasks.set i t' }
                  (.task i e) = (!stopped t.pc && stopped t'.pc) := by
                simp only [stops, ht, List.getElem?_set_self hlt, Option.any_some]
              dsimp only
              rw [hstops]
              exact .task ht htask
  | read bufLen =>
      obtain rfl := Option.some.inj h
      exact .read
  | enable enabled =>
      obtain rfl := Option.some.inj h
      exact .enable

/-! ## The device -/

/-- The invariant, with the tasks started for devices that were opened before. -/
structure Steady (s : State F) : Prop extends OwnsDevice s where
  older : ∀ fd ∈ s.tasks.map ReaderTask.opened, fd < s.fds.kinds.length

omit [Dtringfifo F] in
/-- What concerns the device only depends on the descriptors and on what the tasks were started for. -/
theorem Steady.congr {s s' : State F} (h : Steady s) (hfd : s'.self.fd = s.self.fd)
    (hfds : s'.fds = s.fds)
    (hopened : s'.tasks.map ReaderTask.opened = s.tasks.map ReaderTask.opened) :
    Steady s' ∧ (Served s' ↔ Served s) := by
  refine ⟨⟨⟨?_, ?_, ?_⟩, ?_⟩, ?_⟩
  · rw [hfd, hfds]
    exact h.fd
  · rw [hfds]
    exact h.closedOnce
  · rw [hfd, hfds]
    exact h.noLeak
  · rw [hopened, hfds]
    exact h.older
  · rw [Served, Served, hfd, hopened]

omit [Dtringfifo F] in
theorem ownsDevice_iff (s : State F) : OwnsDevice s ↔ s.fds.Owns s.self.fd () :=
  ⟨fun h => ⟨h.fd, h.closedOnce, h.noLeak⟩, fun h => ⟨h.holds, h.closedOnce, h.noLeak⟩⟩

omit [Dtringfifo F] in
theorem Steady.owns {s : State F} (h : Steady s) : s.fds.Owns s.self.fd () :=
  (ownsDevice_iff s).1 h.toOwnsDevice

omit [Dtringfifo F] in
/-- The device is opened. -/
theorem Steady.opened {s s' : State F} (h : Steady s) (hfd : s.self.fd < 0)
    (hfds : s'.fds = (s.fds.create ()).1) (hself : s'.self.fd = (s.fds.create ()).2) :
    OwnsDevice s' := by
  rw [ownsDevice_iff, hfds, hself]
  exact h.owns.create hfd

omit [Dtringfifo F] in
/-- The tasks that were there are not started for the new descriptor. -/
theorem Steady.not_served {s : State F} (h : Steady s) :
    (s.fds.create ()).2 ∉ s.tasks.map ReaderTask.opened :=
  fun hmem => Int.lt_irrefl _ (h.older _ hmem)

omit [Dtringfifo F] in
theorem lt_length_create {s : State F} {fd : ℤ} (h : fd < s.fds.kinds.length) :
    fd < (s.fds.create ()).1.kinds.length := by
  have hlength : (s.fds.create ()).1.kinds.length = s.fds.kinds.length + 1 := List.length_append
  omega

omit [Dtringfifo F] in
theorem Steady.attach {s s' : State F} {calls : AttachCalls} (h : Steady s)
    (hattach : Attaches s calls s') :
    Steady s' ∧ (Served s → (Served s' ↔
      (s.self.fd < 0 → calls.opens → calls.create = none ∧ calls.start = none))) := by
  cases hattach with
  | attached hfd heq =>
      rw [heq]
      exact ⟨h, fun hserved => iff_of_true hserved fun hneg => absurd hfd (Int.not_le.2 hneg)⟩
  | failed hfd hnot fds hfds heq =>
      rw [heq]
      refine ⟨?_, fun _ => iff_of_true (fun hnonneg => absurd hnonneg (Int.not_le.2 hfd))
        fun _ hopens => absurd hopens hnot⟩
      rcases hfds with rfl | rfl
      · exact h
      · refine ⟨(ownsDevice_iff _).2 (h.owns.createClose hfd), fun fd hmem => ?_⟩
        exact lt_length_create (h.older fd hmem)
  | unserved hfd hopens hnot heq =>
      rw [heq]
      refine ⟨⟨h.opened hfd rfl rfl, fun fd hmem => lt_length_create (h.older fd hmem)⟩,
        fun _ => iff_of_false (fun hserved => ?_) fun hstarts => hnot (hstarts hfd hopens)⟩
      have hopen : (s.fds.create ()).1.IsOpen (s.fds.create ()).2 () :=
        DescriptorTable.isOpen_create h.closedOnce
      exact h.not_served (hserved hopen.nonneg)
  | started hfd hopens hstarts heq =>
      rw [heq]
      refine ⟨⟨h.opened hfd rfl rfl, fun fd hmem => ?_⟩,
        fun _ => iff_of_true (fun _ => ?_) fun _ _ => hstarts⟩
      · dsimp only at hmem ⊢
        rw [List.map_append, List.mem_append] at hmem
        rcases hmem with hmem | hmem
        · exact lt_length_create (h.older fd hmem)
        · rw [List.mem_singleton.1 hmem]
          dsimp only [DescriptorTable.create]
          rw [List.length_append, List.length_singleton]
          omega
      · dsimp only
        rw [List.map_append, List.mem_append]
        exact .inr (List.mem_singleton.2 rfl)

omit [Dtringfifo F] in
theorem Steady.detach {s : State F} (h : Steady s) :
    Steady (DtioxLinuxTty.detach s) ∧ Served (DtioxLinuxTty.detach s) := by
  unfold DtioxLinuxTty.detach
  split
  · next hfd =>
      have hclosed := h.owns.closeIfOpen
      rw [DescriptorTable.closeIfOpen, if_pos hfd, DescriptorTable.closedVar, if_pos hfd] at hclosed
      refine ⟨⟨(ownsDevice_iff _).2 hclosed, h.older⟩, fun hnonneg => ?_⟩
      exact absurd hnonneg (by decide : ¬(0 : ℤ) ≤ -1)
  · next hfd => exact ⟨h, fun hnonneg => absurd hnonneg hfd⟩

omit [Dtringfifo F] in
/-- A step of a task leaves what the tasks were started for. -/
theorem map_opened_set {tasks : List (ReaderTask TaskPc)} {i : ℕ} {t t' : ReaderTask TaskPc}
    (ht : tasks[i]? = some t) (hopened : t'.opened = t.opened) :
    (tasks.set i t').map ReaderTask.opened = tasks.map ReaderTask.opened := by
  obtain ⟨hlt, rfl⟩ := List.getElem?_eq_some_iff.1 ht
  rw [List.map_set, hopened, ← List.getElem_map ReaderTask.opened (h := by simpa using hlt)]
  exact List.set_getElem_self _

/-- **One step.** The device stays owned, and stays served exactly if an attach that opens it starts the
    task. -/
theorem Steady.lifeStep {strerror : ℤ → String} {l l' : Life F} {e : LifeEvent} (h : Steady l.state)
    (hstep : lifeStep strerror l e = some l') :
    Steady l'.state ∧ (Served l.state → (Served l'.state ↔ StartsTask l.state e)) := by
  have hsame : ∀ {s' : State F}, StartsTask l.state e → s'.self.fd = l.state.self.fd →
      s'.fds = l.state.fds →
      s'.tasks.map ReaderTask.opened = l.state.tasks.map ReaderTask.opened →
      Steady s' ∧ (Served l.state → (Served s' ↔ StartsTask l.state e)) := by
    intro s' hstarts hfd hfds hopened
    obtain ⟨hsteady, hiff⟩ := h.congr hfd hfds hopened
    exact ⟨hsteady, fun hserved => iff_of_true (hiff.2 hserved) hstarts⟩
  cases lifeStep_effect hstep with
  | attach hidle hattach =>
      obtain ⟨hsteady, hiff⟩ := h.attach hattach
      exact ⟨hsteady, fun hserved =>
        (hiff hserved).trans ⟨fun hstarts _ => hstarts, fun hstarts => hstarts hidle⟩⟩
  | started => exact hsame trivial rfl rfl rfl
  | detach =>
      obtain ⟨hsteady, hserved⟩ := h.detach
      exact ⟨hsteady, fun _ => iff_of_true hserved trivial⟩
  | task ht htask =>
      obtain ⟨hadvances, hfd⟩ := taskStep_spec htask
      exact hsame trivial hfd rfl (map_opened_set ht hadvances.opened)
  | read => exact hsame trivial (read_spec strerror l.state.self _).1 rfl rfl
  | enable => exact hsame trivial rfl rfl rfl

/-- A configured object, before its first attach. -/
def Life.configured (devicePath : String) (rxFifo : F) (rxSemaphore : Bool) : Life F :=
  ⟨.configured devicePath rxFifo rxSemaphore, false⟩

omit [Dtringfifo F] in
theorem steady_configured (devicePath : String) (rxFifo : F) (rxSemaphore : Bool) :
    Steady (Life.configured devicePath rxFifo rxSemaphore).state where
  toOwnsDevice := (ownsDevice_iff _).2 DescriptorTable.owns_empty
  older := fun _ hmem => absurd hmem List.not_mem_nil

/-- **The device is owned, in every run** of attaches, detaches, receive tasks, reads and enables: the
    object holds the open device or none, every descriptor is closed at most once, and none stays open
    that the object does not hold. An open device has a task started for it all along the run exactly
    if every attach that opens it starts the task. -/
theorem tty_device_owned (strerror : ℤ → String) (devicePath : String) (rxFifo : F) (rxSemaphore : Bool)
    (es : List LifeEvent) :
    Run.AllStates (lifeStep strerror) (fun l => OwnsDevice l.state)
        (.configured devicePath rxFifo rxSemaphore) es ∧
      (Run.AllStates (lifeStep strerror) (fun l => Served l.state)
          (.configured devicePath rxFifo rxSemaphore) es ↔
        Run.AllSteps (lifeStep strerror) (fun l => StartsTask l.state)
          (.configured devicePath rxFifo rxSemaphore) es) := by
  have hsteady := steady_configured devicePath rxFifo rxSemaphore
  constructor
  · have hrun : Run.AllStates (lifeStep strerror) (fun l => Steady l.state)
        (.configured devicePath rxFifo rxSemaphore) es :=
      Run.allStates_of_invariant (fun _ _ _ h hstep => (h.lifeStep hstep).1) es _ hsteady
    exact hrun.imp fun _ h => h.toOwnsDevice
  · refine Run.allStates_iff_allSteps (I := fun l : Life F => Steady l.state)
      (fun _ _ _ h _ hstep _ => (h.lifeStep hstep).1)
      (fun _ _ _ h hserved hstep => (h.lifeStep hstep).2 hserved) ?_ es _ hsteady
      (fun hnonneg => absurd hnonneg (by decide : ¬(0 : ℤ) ≤ -1))
    -- an attach is blocked while another is waiting for its task
    intro l e _ _ hblocked
    cases e with
    | system e =>
        cases e with
        | attach calls =>
            intro hidle
            simp [lifeStep, step, hidle] at hblocked
        | started wait => trivial
        | detach => trivial
        | task i e => trivial
    | read bufLen => trivial
    | enable enabled => trivial

/-! ## Stopped tasks -/

/-- Without a semaphore no task returns, and with it none returns an error. -/
theorem ReturnsNoError.lifeStep {strerror : ℤ → String} {l l' : Life F} {e : LifeEvent}
    (h : ReturnsNoError l.state) (hstep : lifeStep strerror l e = some l') :
    ReturnsNoError l'.state := by
  cases lifeStep_effect hstep with
  | attach hidle hattach =>
      cases hattach with
      | attached hfd heq => exact heq ▸ h
      | failed hfd hnot fds hfds heq => exact heq ▸ h
      | unserved hfd hopens hnot heq => exact heq ▸ h
      | started hfd hopens hstarts heq =>
          rw [heq]
          intro t hmem dterr hret
          rcases List.mem_append.1 hmem with hmem | hmem
          · exact h t hmem dterr hret
          · rw [List.mem_singleton.1 hmem] at hret
            cases hret
  | started => exact h
  | detach =>
      unfold DtioxLinuxTty.detach
      split
      · exact h
      · exact h
  | task ht htask =>
      obtain ⟨hsemaphore, -, hreturns⟩ := taskStep_flags htask
      intro t hmem dterr hret
      show dterr = none ∧ _ = true
      rw [hsemaphore]
      rcases List.mem_or_eq_of_mem_set hmem with hmem | rfl
      · exact h t hmem dterr hret
      · exact hreturns dterr hret
  | read =>
      intro t hmem dterr hret
      show dterr = none ∧ _ = true
      rw [(read_spec strerror l.state.self _).2.1]
      exact h t hmem dterr hret
  | enable => exact h

/-- A task that can stop quietly takes that step. -/
theorem StopsQuietly.enabled {self : Tty F} {t : ReaderTask TaskPc} {e : TaskEvent}
    (h : StopsQuietly self t e) : taskStep self t e ≠ none := by
  cases e with
  | ready dterr =>
      cases dterr with
      | none => exact absurd rfl h.2
      | some err => simp [taskStep, h.1]
  | readReturns result post =>
      cases result with
      | failed errno strerror => exact h.elim
      | bytes bs =>
          obtain ⟨⟨fd, hpc, hpossible⟩, -⟩ := h
          simp [taskStep, hpc, hpossible]
  | poll => exact h.elim
  | pollReturns result => exact h.elim
  | read => exact h.elim
  | post post => exact h.elim

omit [Dtringfifo F] in
theorem Attaches.rxThreadFailed {s s' : State F} {calls : AttachCalls} (h : Attaches s calls s') :
    s'.self.rxThreadFailed = s.self.rxThreadFailed := by
  cases h with
  | attached hfd heq => rw [heq]
  | failed hfd hnot fds hfds heq => rw [heq]
  | unserved hfd hopens hnot heq => rw [heq]
  | started hfd hopens hstarts heq => rw [heq]

/-- **One step.** A task that stops quietly leaves the flag as it was; the flag is then set only if
    there is another task to tell of. -/
theorem told_lifeStep {strerror : ℤ → String} {l l' : Life F} {e : LifeEvent} (h : Told strerror l)
    (hstep : lifeStep strerror l e = some l') : Told strerror l' ↔ StopsTold l e := by
  rw [told_iff] at h ⊢
  cases lifeStep_effect hstep with
  | attach hidle hattach => exact iff_of_true (hattach.rxThreadFailed.trans h) trivial
  | started => exact iff_of_true h trivial
  | detach =>
      refine iff_of_true ?_ trivial
      unfold DtioxLinuxTty.detach
      split
      · exact h
      · exact h
  | @task i e t t' self ht htask =>
      obtain ⟨-, hflags, -⟩ := taskStep_flags htask
      have htold : StopsTold l (.system (.task i e)) ↔
          (StopsQuietly l.state.self t e → l.untold = true) := by
        simp only [StopsTold, ht, Option.some.injEq, forall_eq']
      rw [htold]
      dsimp only
      cases hflags with
      | loud hbefore hafter hflag hloud =>
          rw [hflag, hbefore, hafter]
          exact iff_of_true (by simp) fun hquiet => absurd hquiet hloud
      | quiet hbefore hafter hflag hquiet =>
          rw [hflag, hbefore, hafter, h]
          simp [hquiet]
      | goesOn hstays hflag hloud =>
          refine iff_of_true ?_ fun hquiet => absurd hquiet hloud
          rw [hflag, h]
          rcases hstays with hstays | hstays
          · simp [hstays]
          · simp [hstays]
  | @read bufLen =>
      refine iff_of_true ?_ trivial
      dsimp only
      rw [(read_spec strerror l.state.self bufLen).2.2, tells_read, h]
      simp
  | enable => exact iff_of_true rfl trivial

/-- **A stopped task is told of by a read**, in every run. No task returns an error, and without
    `rx_semaphore` none returns at all. All along the run the next read tells of a failed task exactly
    if one has stopped that no read has told of, precisely if every task that stops quietly does so
    when the reads have another to tell of. -/
theorem tty_stopped_task_told (strerror : ℤ → String) (devicePath : String) (rxFifo : F)
    (rxSemaphore : Bool) (es : List LifeEvent) :
    Run.AllStates (lifeStep strerror) (fun l => ReturnsNoError l.state)
        (.configured devicePath rxFifo rxSemaphore) es ∧
      (Run.AllStates (lifeStep strerror) (Told strerror)
          (.configured devicePath rxFifo rxSemaphore) es ↔
        Run.AllSteps (lifeStep strerror) StopsTold
          (.configured devicePath rxFifo rxSemaphore) es) := by
  constructor
  · exact Run.allStates_of_invariant (P := fun l : Life F => ReturnsNoError l.state)
      (fun _ _ _ h hstep => h.lifeStep hstep) es _ fun _ hmem => absurd hmem List.not_mem_nil
  · refine Run.allStates_iff_allSteps (I := fun _ => True) (fun _ _ _ _ _ _ _ => trivial)
      (fun _ _ _ _ h hstep => told_lifeStep h hstep) ?_ es _ trivial ((told_iff strerror _).2 rfl)
    -- the step of a task that can stop quietly is never blocked
    intro l e _ _ hblocked
    cases e with
    | system e =>
        cases e with
        | task i e =>
            intro t ht hquiet
            simp [lifeStep, step, ht] at hblocked
            exact absurd hblocked hquiet.enabled
        | attach calls => trivial
        | started wait => trivial
        | detach => trivial
    | read bufLen => trivial
    | enable enabled => trivial

end DtioxLinuxTty
