import DtmcLinux.Dtiox.StreamRx
import DtmcLinux.Foundation.Observer

set_option autoImplicit false

/-! # Lost receive wakeups

A reader that sleeps on `rx_semaphore` is woken only by a post. Since the FIFO was last empty with
no overflow pending there must have been one, whenever the receive task is back in its system call
and there is something to read. -/

namespace DtioxStream

variable {ι R F : Type*} [Dtringfifo F]

/-- Nothing to read: the FIFO is empty and no overflow is pending. -/
def Quiet (self : StreamRx F) : Prop :=
  Dtringfifo.contents self.rxFifo = [] ∧ self.rxOverflowFlag = false

instance (self : StreamRx F) : Decidable (Quiet self) := instDecidableAnd

/-- What a run is observed for. -/
structure Wakeup where
  /-- `rx_semaphore` was posted since the object was last quiet -/
  posted : Bool
  /-- the object was quiet when the current chunk was received, or at some moment since -/
  quietSince : Bool

/-- The observation after a step. -/
def Wakeup.update (s : State ι F) (e : Event ι R) (s' : State ι F) (w : Wakeup) : Wakeup where
  posted := !decide (Quiet s'.self) && (w.posted || decide (s.self.rxPosts < s'.self.rxPosts))
  quietSince :=
    match e with
    | .received _ => decide (Quiet s.self) || decide (Quiet s'.self)
    | _ => w.quietSince || decide (Quiet s'.self)

/-- No reader is left asleep. -/
def NoLostWakeup (s : State ι F × Wakeup) : Prop :=
  s.1.rxPc = .receiving → ¬Quiet s.1.self → s.2.posted = true

instance : DecidablePred (NoLostWakeup (ι := ι) (F := F)) := fun _ =>
  inferInstanceAs (Decidable (_ = _ → ¬_ → _ = _))

/-- The condition on a step: a chunk that did not fit found the object not quiet, and it has not
    been quiet since. -/
def OverflowsUnquiet (s : State ι F × Wakeup) : Event ι R → Prop
  | .recorded => s.1.rxPc.overflowed = true → s.2.quietSince = false
  | _ => True

instance (s : State ι F × Wakeup) : ∀ e : Event ι R, Decidable (OverflowsUnquiet s e)
  | .recorded => inferInstanceAs (Decidable (_ = _ → _ = _))
  | .received _ => instDecidableTrue
  | .posted _ => instDecidableTrue
  | .test _ _ => instDecidableTrue
  | .clear _ => instDecidableTrue
  | .pop _ => instDecidableTrue

/-- Attached, with a semaphore set and reception enabled. -/
def State.attached (rxFifo : F) : State ι F where
  self := {
    rxFifo := rxFifo
    rxOverflowFlag := false
    fifoDroppedBytes := 0
    rxEnabled := true
    rxSemaphore := true
    rxPosts := 0 }
  rxPc := .receiving
  readers := fun _ => .idle

variable [DecidableEq ι]

/-- The backend, observed. -/
def Wakeup.step (b : Backend R) :
    State ι F × Wakeup → Event ι R → Option (State ι F × Wakeup) :=
  Observer.observed (DtioxStream.step b) Wakeup.update

/-- The runs that are observed are the runs of the backend. -/
theorem Wakeup.exec_step (b : Backend R) (s : State ι F × Wakeup) (events : List (Event ι R)) :
    (Run.exec (Wakeup.step b) s events).map (·.1) = Run.exec (DtioxStream.step b) s.1 events :=
  Observer.exec_observed _ _ s events

/-! ## What every step does to the observation -/

/-- Once the object is quiet, the posts so far do not count. -/
def QuietUnposted (s : State ι F × Wakeup) : Prop := Quiet s.1.self → s.2.posted = false

omit [DecidableEq ι] in
theorem update_posted (s s' : State ι F) (e : Event ι R) (w : Wakeup) :
    (Wakeup.update s e s' w).posted = true ↔
      ¬Quiet s'.self ∧ (w.posted = true ∨ s.self.rxPosts < s'.self.rxPosts) := by
  unfold Wakeup.update
  simp

omit [DecidableEq ι] in
theorem update_quietUnposted (s s' : State ι F) (e : Event ι R) (w : Wakeup) :
    QuietUnposted (s', Wakeup.update s e s' w) := by
  intro hquiet
  rw [← Bool.not_eq_true]
  intro hposted
  exact ((update_posted s s' e w).1 hposted).1 hquiet

/-- What a step of a reader changes: nothing the task looks at, and a quiet object stays quiet. -/
structure ReaderStep (s s' : State ι F) : Prop where
  rxPc : s'.rxPc = s.rxPc
  rxSemaphore : s'.self.rxSemaphore = s.self.rxSemaphore
  rxPosts : s'.self.rxPosts = s.self.rxPosts
  quiet : Quiet s.self → Quiet s'.self

/-- The steps that are a reader's. -/
def Event.IsReader : Event ι R → Prop
  | .test _ _ => True
  | .clear _ => True
  | .pop _ => True
  | _ => False

omit [DecidableEq ι] in
theorem quiet_popped [LawfulDtringfifo F] (b : Backend R) {self : StreamRx F} (bufLen : ℤ)
    (h : Quiet self) : Quiet (popped b self bufLen).1 := by
  have hpop := LawfulDtringfifo.contents_pop self.rxFifo bufLen.toNat
  rw [h.1] at hpop
  unfold popped
  split
  · exact h
  · exact ⟨(List.append_eq_nil_iff.1 hpop.symm).2, h.2⟩

theorem readerStep [LawfulDtringfifo F] {b : Backend R} {s s' : State ι F} {e : Event ι R}
    (he : e.IsReader) (h : step b s e = some s') : ReaderStep s s' := by
  cases step_effect h with
  | test i bufLen hpc => exact ⟨rfl, rfl, rfl, id⟩
  | clear i hpc => exact ⟨rfl, rfl, rfl, fun hq => ⟨hq.1, rfl⟩⟩
  | pop i hpc hfree =>
      next bufLen =>
        have hkeeps : (popped b s.self bufLen).1.rxSemaphore = s.self.rxSemaphore ∧
            (popped b s.self bufLen).1.rxPosts = s.self.rxPosts := by
          unfold popped
          split <;> exact ⟨rfl, rfl⟩
        exact ⟨rfl, hkeeps.1, hkeeps.2, quiet_popped b bufLen⟩
  | _ => exact he.elim

omit [DecidableEq ι] in
theorem update_quietSince_reader {s s' : State ι F} {e : Event ι R} (he : e.IsReader)
    (w : Wakeup) :
    (Wakeup.update s e s' w).quietSince = (w.quietSince || decide (Quiet s'.self)) := by
  cases e with
  | test _ _ => rfl
  | clear _ => rfl
  | pop _ => rfl
  | _ => exact he.elim

omit [DecidableEq ι] in
theorem ReaderStep.posted {s s' : State ι F} (h : ReaderStep s s') (e : Event ι R) (w : Wakeup) :
    (Wakeup.update s e s' w).posted = true ↔ ¬Quiet s'.self ∧ w.posted = true := by
  rw [update_posted, h.rxPosts]
  simp

omit [DecidableEq ι] in
/-- A reader puts nobody to sleep. -/
theorem ReaderStep.noLostWakeup {s s' : State ι F} {w : Wakeup} (h : ReaderStep s s')
    (e : Event ι R) (hs : NoLostWakeup (s, w)) :
    NoLostWakeup (s', Wakeup.update s e s' w) := by
  intro hpc hquiet
  refine (h.posted e w).2 ⟨hquiet, hs (h.rxPc ▸ hpc) fun hq => hquiet (h.quiet hq)⟩

omit [DecidableEq ι] in
/-- A chunk that is pushed leaves the object as unquiet as it was. -/
theorem received_quiet [LawfulDtringfifo F] (b : Backend R) {s : State ι F} {r : R}
    (h : Quiet (received b s r).self) : Quiet s.self := by
  unfold received at h
  dsimp only at h
  split at h
  · exact h
  · split at h
    · exact h
    · have hpush := LawfulDtringfifo.contents_push s.self.rxFifo (b.payload r)
      rw [h.1] at hpush
      exact ⟨(List.append_eq_nil_iff.1 hpush.symm).1, h.2⟩

/-! ## The TCP and the TTY backend -/

/-- What holds along a run without lost wakeups. -/
structure WakeupInv (s : State ι F × Wakeup) : Prop where
  rxSemaphore : s.1.self.rxSemaphore = true
  quietUnposted : QuietUnposted s
  pushed : ∀ len written, s.1.rxPc = .pushed len written →
    written ≤ len ∧ (s.2.posted = true ↔ s.2.quietSince = false)

omit [DecidableEq ι] in
theorem WakeupInv.reader {s s' : State ι F} {w : Wakeup} {e : Event ι R}
    (hi : WakeupInv (s, w)) (he : e.IsReader) (h : ReaderStep s s') :
    WakeupInv (s', Wakeup.update s e s' w) := by
  refine ⟨h.rxSemaphore.trans hi.rxSemaphore, update_quietUnposted s s' e w, ?_⟩
  intro len written hpc
  obtain ⟨hle, hiff⟩ := hi.pushed len written (h.rxPc ▸ hpc)
  refine ⟨hle, (h.posted e w).trans ?_⟩
  rw [update_quietSince_reader he, Bool.or_eq_false_iff, decide_eq_false_iff_not, hiff]
  exact And.comm

omit [DecidableEq ι] in
theorem WakeupInv.received [LawfulDtringfifo F] {b : Backend R} {s : State ι F} {w : Wakeup}
    (hi : WakeupInv (s, w)) (hs : NoLostWakeup (s, w)) (hpc : s.rxPc = .receiving) (r : R) :
    WakeupInv (DtioxStream.received b s r,
        Wakeup.update s (.received r : Event ι R) (DtioxStream.received b s r) w) ∧
      NoLostWakeup (DtioxStream.received b s r,
        Wakeup.update s (.received r : Event ι R) (DtioxStream.received b s r) w) := by
  have hquiet := received_quiet b (s := s) (r := r)
  have hun := update_quietUnposted s (DtioxStream.received b s r) (.received r : Event ι R) w
  rcases received_cases b s r with heq | ⟨hlen, heq⟩
  · rw [heq] at hun ⊢
    refine ⟨⟨hi.rxSemaphore, hun, fun len written hpc' => ?_⟩, fun _ hnq => ?_⟩
    · rw [hpc] at hpc'
      exact absurd hpc' (by simp)
    · exact (update_posted s s _ w).2 ⟨hnq, Or.inl (hs hpc hnq)⟩
  · rw [heq] at hun hquiet ⊢
    refine ⟨⟨hi.rxSemaphore, hun, fun len written hpc' => ?_⟩, fun hpc' => ?_⟩
    · obtain ⟨rfl, rfl⟩ := RxPc.pushed.inj hpc'
      refine ⟨LawfulDtringfifo.push_le _ _, ?_⟩
      rw [update_posted, Wakeup.update, Bool.or_eq_false_iff, decide_eq_false_iff_not,
        decide_eq_false_iff_not]
      constructor
      · rintro ⟨hnq, hposted | hposts⟩
        · refine ⟨fun hq => ?_, hnq⟩
          rw [hi.quietUnposted hq] at hposted
          exact absurd hposted (by simp)
        · exact absurd hposts (Nat.lt_irrefl _)
      · exact fun ⟨hnq, hnq'⟩ => ⟨hnq', Or.inl (hs hpc hnq)⟩
    · exact absurd hpc' (by simp)

omit [DecidableEq ι] [Dtringfifo F] in
/-- A chunk that did not fit. -/
theorem recorded_dropped {b : Backend R} {s : State ι F} {len written : ℕ} (hlt : written < len)
    (hposts : (b.posts len written && s.self.rxSemaphore) = false) :
    ∃ total, recorded b s len written = { s with
      self := { s.self with rxOverflowFlag := true, fifoDroppedBytes := total }
      rxPc := .receiving } := by
  have hdropped : (len : ℤ) - written > 0 := by omega
  unfold recorded
  dsimp only
  rw [if_pos hdropped, hposts]
  exact ⟨_, rfl⟩

omit [DecidableEq ι] [Dtringfifo F] in
/-- A chunk that was stored whole. -/
theorem recorded_stored {b : Backend R} {s : State ι F} (len : ℕ)
    (hposts : (b.posts len len && s.self.rxSemaphore) = true) :
    recorded b s len len = { s with rxPc := .posting } := by
  have hdropped : ¬(len : ℤ) - len > 0 := by omega
  unfold recorded
  dsimp only
  rw [if_neg hdropped, hposts]
  rfl

omit [DecidableEq ι] in
theorem WakeupInv.recorded {b : Backend R} {s : State ι F} {w : Wakeup}
    (hb : ∀ len written, b.posts len written = decide (¬len - written > 0))
    (hi : WakeupInv (s, w)) {len written : ℕ} (hpc : s.rxPc = .pushed len written) :
    WakeupInv (DtioxStream.recorded b s len written,
        Wakeup.update s (.recorded : Event ι R) (DtioxStream.recorded b s len written) w) ∧
      (NoLostWakeup (DtioxStream.recorded b s len written,
          Wakeup.update s (.recorded : Event ι R) (DtioxStream.recorded b s len written) w)
        ↔ OverflowsUnquiet (s, w) (.recorded : Event ι R)) := by
  obtain ⟨hle, hiff⟩ := hi.pushed len written hpc
  have hun := update_quietUnposted s (DtioxStream.recorded b s len written)
    (.recorded : Event ι R) w
  have hcond : OverflowsUnquiet (s, w) (.recorded : Event ι R) ↔
      (written < len → w.quietSince = false) := by
    unfold OverflowsUnquiet
    rw [hpc, RxPc.overflowed, decide_eq_true_eq]
  rw [hcond]
  rcases Nat.lt_or_eq_of_le hle with hlt | rfl
  · -- the flag is set and nothing is posted
    have hposts : (b.posts len written && s.self.rxSemaphore) = false := by
      have hsub : len - written > 0 := by omega
      rw [hb, Bool.and_eq_false_iff]
      exact Or.inl (decide_eq_false (not_not.2 hsub))
    obtain ⟨total, heq⟩ := recorded_dropped hlt hposts
    rw [heq] at hun ⊢
    refine ⟨⟨hi.rxSemaphore, hun, fun _ _ hpc' => absurd hpc' (by simp)⟩, ?_⟩
    have hnq : ¬Quiet { s.self with rxOverflowFlag := true, fifoDroppedBytes := total } :=
      fun hq => absurd hq.2 (by simp)
    constructor
    · intro hs _
      rcases ((update_posted _ _ _ _).1 (hs rfl hnq)).2 with hposted | hposts'
      · exact hiff.1 hposted
      · exact absurd hposts' (Nat.lt_irrefl _)
    · intro hc _ _
      exact (update_posted _ _ _ _).2 ⟨hnq, Or.inl (hiff.2 (hc hlt))⟩
  · -- the post is still to come
    have hposts : (b.posts written written && s.self.rxSemaphore) = true := by
      rw [hb, hi.rxSemaphore, Nat.sub_self]
      rfl
    have heq := recorded_stored written hposts
    rw [heq] at hun ⊢
    refine ⟨⟨hi.rxSemaphore, hun, fun _ _ hpc' => absurd hpc' (by simp)⟩, ?_⟩
    exact iff_of_true (fun hpc' => absurd hpc' (by simp)) fun hlt => absurd hlt (Nat.lt_irrefl _)

omit [DecidableEq ι] in
/-- A post that succeeds wakes a reader. -/
theorem posted_noLostWakeup (s : State ι F) (e : Event ι R) (w : Wakeup) :
    let s' : State ι F :=
      { s with self := { s.self with rxPosts := s.self.rxPosts + 1 }, rxPc := .receiving }
    NoLostWakeup (s', Wakeup.update s e s' w) :=
  fun _ hnq => (update_posted _ _ _ _).2 ⟨hnq, Or.inr (Nat.lt_succ_self _)⟩

/-- **Step lemma.** -/
theorem WakeupInv.step [LawfulDtringfifo F] {b : Backend R}
    (hb : ∀ len written, b.posts len written = decide (¬len - written > 0))
    {s s' : State ι F × Wakeup} {e : Event ι R} (hi : WakeupInv s) (hs : NoLostWakeup s)
    (h : Wakeup.step b s e = some s') :
    WakeupInv s' ∧ (NoLostWakeup s' ↔ OverflowsUnquiet s e) := by
  obtain ⟨s, w⟩ := s
  obtain ⟨t, w'⟩ := s'
  obtain ⟨hstep, rfl⟩ := (Observer.observed_eq_some _ _).1 h
  have hun := update_quietUnposted s t e w
  cases step_effect hstep with
  | received r hpc =>
      obtain ⟨hi', hs'⟩ := hi.received hs hpc r
      exact ⟨hi', iff_of_true hs' trivial⟩
  | recorded hpc => exact hi.recorded hb hpc
  | posted hpc =>
      refine ⟨⟨hi.rxSemaphore, hun, fun _ _ hpc' => absurd hpc' (by simp)⟩, ?_⟩
      exact iff_of_true (posted_noLostWakeup s _ w) trivial
  | postFailed err hpc =>
      refine ⟨⟨hi.rxSemaphore, hun, fun _ _ hpc' => absurd hpc' (by simp)⟩, ?_⟩
      exact iff_of_true (fun hpc' => absurd hpc' (by simp)) trivial
  | test i bufLen hpc =>
      have hr := readerStep (e := .test i bufLen) trivial hstep
      exact ⟨hi.reader trivial hr, iff_of_true (hr.noLostWakeup _ hs) trivial⟩
  | clear i hpc =>
      have hr := readerStep (e := .clear i) trivial hstep
      exact ⟨hi.reader trivial hr, iff_of_true (hr.noLostWakeup _ hs) trivial⟩
  | pop i hpc hfree =>
      have hr := readerStep (e := .pop i) trivial hstep
      exact ⟨hi.reader trivial hr, iff_of_true (hr.noLostWakeup _ hs) trivial⟩

/-- A step that is blocked is taken under the condition. -/
theorem overflowsUnquiet_of_blocked {b : Backend R} {s : State ι F × Wakeup} {e : Event ι R}
    (h : Wakeup.step b s e = none) : OverflowsUnquiet s e := by
  have hnone := (Observer.observed_eq_none _ _).1 h
  cases e with
  | recorded =>
      intro hover
      unfold DtioxStream.step at hnone
      dsimp only at hnone
      split at hnone
      · exact absurd hnone (by simp)
      · next hpc =>
          -- only a push can have overflowed
          cases hrx : s.1.rxPc with
          | pushed len written => exact absurd hrx (hpc len written)
          | _ =>
              rw [hrx] at hover
              exact absurd hover (by simp [RxPc.overflowed])
  | _ => trivial

/-! ## The CAN backend -/

/-- What holds along every run of a backend that posts when it has stored anything. -/
structure MutexWakeupInv [BoundedDtringfifo F] (s : State ι F × Wakeup) : Prop where
  rxSemaphore : s.1.self.rxSemaphore = true
  quietUnposted : QuietUnposted s
  capacity : 0 < BoundedDtringfifo.capacity s.1.self.rxFifo
  /-- when nothing was stored, the FIFO is full, and stays so until the task goes on -/
  pushed : ∀ len, s.1.rxPc = .pushed len 0 →
    Dtringfifo.contents s.1.self.rxFifo ≠ [] ∧ s.2.posted = true
  noLostWakeup : NoLostWakeup s

omit [DecidableEq ι] [Dtringfifo F] in
/-- The record of what did not fit leaves the FIFO and the semaphore alone. -/
theorem recorded_keeps (b : Backend R) (s : State ι F) (len written : ℕ) :
    (recorded b s len written).self.rxFifo = s.self.rxFifo ∧
      (recorded b s len written).self.rxSemaphore = s.self.rxSemaphore ∧
      (recorded b s len written).self.rxPosts = s.self.rxPosts ∧
      (recorded b s len written).rxPc =
        if b.posts len written && s.self.rxSemaphore then .posting else .receiving := by
  unfold recorded
  dsimp only
  split <;> exact ⟨rfl, rfl, rfl, rfl⟩

/-- What a reader's step does to the FIFO behind a mutex. -/
theorem reader_keeps [BoundedDtringfifo F] {b : Backend R} (hb : b.hasMutex = true)
    {s s' : State ι F} {e : Event ι R} (he : e.IsReader) (h : DtioxStream.step b s e = some s') :
    BoundedDtringfifo.capacity s'.self.rxFifo = BoundedDtringfifo.capacity s.self.rxFifo ∧
      ∀ len written, s.rxPc = .pushed len written → s'.self.rxFifo = s.self.rxFifo := by
  cases step_effect h with
  | test i bufLen hpc => exact ⟨rfl, fun _ _ _ => rfl⟩
  | clear i hpc => exact ⟨rfl, fun _ _ _ => rfl⟩
  | pop i hpc hfree => exact popped_keeps hb hfree
  | _ => exact he.elim

theorem MutexWakeupInv.reader [BoundedDtringfifo F] {b : Backend R} (hb : b.hasMutex = true)
    {s s' : State ι F} {w : Wakeup} {e : Event ι R} (hi : MutexWakeupInv (s, w)) (he : e.IsReader)
    (h : DtioxStream.step b s e = some s') : MutexWakeupInv (s', Wakeup.update s e s' w) := by
  have hr := readerStep he h
  obtain ⟨hcapacity, hfifo⟩ := reader_keeps hb he h
  refine {
    rxSemaphore := hr.rxSemaphore.trans hi.rxSemaphore
    quietUnposted := update_quietUnposted s s' e w
    capacity := hcapacity ▸ hi.capacity
    pushed := fun len hpc => ?_
    noLostWakeup := hr.noLostWakeup e hi.noLostWakeup }
  have hpc' : s.rxPc = .pushed len 0 := hr.rxPc ▸ hpc
  obtain ⟨hne, hposted⟩ := hi.pushed len hpc'
  have hne' : Dtringfifo.contents s'.self.rxFifo ≠ [] := by
    rw [hfifo len 0 hpc']
    exact hne
  exact ⟨hne', (hr.posted e w).2 ⟨fun hq => hne' hq.1, hposted⟩⟩

omit [DecidableEq ι] in
theorem MutexWakeupInv.received [BoundedDtringfifo F] {b : Backend R} {s : State ι F} {w : Wakeup}
    (hi : MutexWakeupInv (s, w)) (hpc : s.rxPc = .receiving) (r : R) :
    MutexWakeupInv (DtioxStream.received b s r,
      Wakeup.update s (.received r : Event ι R) (DtioxStream.received b s r) w) := by
  have hun := update_quietUnposted s (DtioxStream.received b s r) (.received r : Event ι R) w
  rcases received_cases b s r with heq | ⟨hlen, heq⟩
  · rw [heq] at hun ⊢
    refine ⟨hi.rxSemaphore, hun, hi.capacity, fun len hpc' => ?_, fun _ hnq => ?_⟩
    · rw [hpc] at hpc'
      exact absurd hpc' (by simp)
    · exact (update_posted s s _ w).2 ⟨hnq, Or.inl (hi.noLostWakeup hpc hnq)⟩
  · rw [heq] at hun ⊢
    refine ⟨hi.rxSemaphore, hun, ?_, fun len hpc' => ?_, fun hpc' => absurd hpc' (by simp)⟩
    · dsimp only
      rw [BoundedDtringfifo.capacity_push]
      exact hi.capacity
    · obtain ⟨-, hwritten⟩ := RxPc.pushed.inj hpc'
      have hcontents := LawfulDtringfifo.contents_push s.self.rxFifo (b.payload r)
      rw [hwritten, List.take_zero, List.append_nil] at hcontents
      -- nothing was stored although there was something to store: the FIFO was full
      have hne : Dtringfifo.contents s.self.rxFifo ≠ [] := by
        have hpush := BoundedDtringfifo.push_snd s.self.rxFifo (b.payload r)
        have hcapacity : 0 < BoundedDtringfifo.capacity s.self.rxFifo := hi.capacity
        intro hnil
        rw [hwritten, hnil, List.length_nil] at hpush
        omega
      have hposted := hi.noLostWakeup hpc fun hq => hne hq.1
      refine ⟨hcontents ▸ hne, (update_posted _ _ _ _).2 ⟨fun hq => hne ?_, Or.inl hposted⟩⟩
      exact hcontents ▸ hq.1

theorem MutexWakeupInv.step [BoundedDtringfifo F] {b : Backend R} (hmutex : b.hasMutex = true)
    (hposts : ∀ len written, b.posts len written = decide (written > 0))
    {s s' : State ι F × Wakeup} {e : Event ι R} (hi : MutexWakeupInv s)
    (h : Wakeup.step b s e = some s') : MutexWakeupInv s' := by
  obtain ⟨s, w⟩ := s
  obtain ⟨t, w'⟩ := s'
  obtain ⟨hstep, rfl⟩ := (Observer.observed_eq_some _ _).1 h
  have hun := update_quietUnposted s t e w
  cases step_effect hstep with
  | received r hpc => exact hi.received hpc r
  | recorded hpc =>
      next len written =>
        obtain ⟨hfifo, hsem, hrxPosts, hpc'⟩ := recorded_keeps b s len written
        rw [hposts, hi.rxSemaphore, Bool.and_true] at hpc'
        refine ⟨hsem.trans hi.rxSemaphore, hun, ?_, fun len' hp => ?_, fun hp hnq => ?_⟩
        · dsimp only
          rw [hfifo]
          exact hi.capacity
        · dsimp only at hp
          rw [hpc'] at hp
          split at hp <;> exact absurd hp (by simp)
        · -- the task goes back only when nothing was stored
          dsimp only at hp
          rw [hpc'] at hp
          by_cases hstored : written > 0
          · rw [if_pos (decide_eq_true hstored)] at hp
            exact absurd hp (by simp)
          · obtain rfl : written = 0 := Nat.eq_zero_of_not_pos hstored
            exact (update_posted _ _ _ _).2 ⟨hnq, Or.inl (hi.pushed len hpc).2⟩
  | posted hpc =>
      exact ⟨hi.rxSemaphore, hun, hi.capacity, fun _ hpc' => absurd hpc' (by simp),
        posted_noLostWakeup s _ w⟩
  | postFailed err hpc =>
      exact ⟨hi.rxSemaphore, hun, hi.capacity, fun _ hpc' => absurd hpc' (by simp),
        fun hpc' => absurd hpc' (by simp)⟩
  | test i bufLen hpc => exact hi.reader hmutex trivial hstep
  | clear i hpc => exact hi.reader hmutex trivial hstep
  | pop i hpc hfree => exact hi.reader hmutex trivial hstep

/-! ## Runs -/

/-- Nothing was posted and nothing is there to read. -/
def Wakeup.initial : Wakeup where
  posted := false
  quietSince := true

omit [DecidableEq ι] in
theorem noLostWakeup_attached {rxFifo : F} (hempty : Dtringfifo.contents rxFifo = []) :
    NoLostWakeup ((.attached rxFifo, .initial) : State ι F × Wakeup) :=
  fun _ hnq => absurd ⟨hempty, rfl⟩ hnq

/-- A backend that posts only what it stored whole. -/
theorem noLostWakeup_iff [LawfulDtringfifo F] {b : Backend R}
    (hb : ∀ len written, b.posts len written = decide (¬len - written > 0)) {rxFifo : F}
    (hempty : Dtringfifo.contents rxFifo = []) (events : List (Event ι R)) :
    Run.AllStates (Wakeup.step b) NoLostWakeup (.attached rxFifo, .initial) events
      ↔ Run.AllSteps (Wakeup.step b) OverflowsUnquiet (.attached rxFifo, .initial) events := by
  refine Run.allStates_iff_allSteps (I := WakeupInv) ?_ ?_ ?_ events _ ?_
    (noLostWakeup_attached hempty)
  · exact fun s e s' hi hs h _ => (hi.step hb hs h).1
  · exact fun s e s' hi hs h => (hi.step hb hs h).2
  · exact fun s e _ _ h => overflowsUnquiet_of_blocked h
  · exact ⟨rfl, fun _ => rfl, fun len written hpc => absurd hpc (by simp [State.attached])⟩

/-- A backend that posts whatever it stored, behind a mutex. -/
theorem noLostWakeup_always [BoundedDtringfifo F] {b : Backend R} (hmutex : b.hasMutex = true)
    (hposts : ∀ len written, b.posts len written = decide (written > 0)) {rxFifo : F}
    (hcapacity : 0 < BoundedDtringfifo.capacity rxFifo)
    (hempty : Dtringfifo.contents rxFifo = []) (events : List (Event ι R)) :
    Run.AllStates (Wakeup.step b) NoLostWakeup (.attached rxFifo, .initial) events := by
  have hinit : MutexWakeupInv ((.attached rxFifo, .initial) : State ι F × Wakeup) := {
    rxSemaphore := rfl
    quietUnposted := fun _ => rfl
    capacity := hcapacity
    pushed := fun len hpc => absurd hpc (by simp [State.attached])
    noLostWakeup := noLostWakeup_attached hempty }
  exact (Run.allStates_of_invariant (fun s e s' hi h => hi.step hmutex hposts h) events _ hinit).imp
    fun _ hi => hi.noLostWakeup

/-- **Exact condition.** With a semaphore set and reception enabled, for every FIFO of positive
    capacity, every sequence of chunks and every interleaving with any number of readers: in the TCP
    and the TTY backend no wakeup is lost exactly when every chunk that does not fit finds the
    object not quiet and the object stays so until the flag is set; in the CAN backend none is ever
    lost. -/
theorem receive_wakeup_exact [BoundedDtringfifo F] (addDropped : ℤ → ℤ → ℤ) (rxFifo : F)
    (hcapacity : 0 < BoundedDtringfifo.capacity rxFifo)
    (hempty : Dtringfifo.contents rxFifo = []) :
    (∀ events : List (Event ι _),
      Run.AllStates (Wakeup.step (DtioxLinuxTcp.stream addDropped)) NoLostWakeup
          (.attached rxFifo, .initial) events
        ↔ Run.AllSteps (Wakeup.step (DtioxLinuxTcp.stream addDropped)) OverflowsUnquiet
          (.attached rxFifo, .initial) events) ∧
    (∀ events : List (Event ι _),
      Run.AllStates (Wakeup.step DtioxLinuxTty.stream) NoLostWakeup
          (.attached rxFifo, .initial) events
        ↔ Run.AllSteps (Wakeup.step DtioxLinuxTty.stream) OverflowsUnquiet
          (.attached rxFifo, .initial) events) ∧
    ∀ events : List (Event ι _),
      Run.AllStates (Wakeup.step DtioxLinuxCanbus.stream) NoLostWakeup
        (.attached rxFifo, .initial) events := by
  refine ⟨fun events => ?_, fun events => ?_, fun events => ?_⟩
  · exact noLostWakeup_iff (fun _ _ => rfl) hempty events
  · exact noLostWakeup_iff (fun _ _ => rfl) hempty events
  · exact noLostWakeup_always rfl (fun _ _ => rfl) hcapacity hempty events

/-- Three bytes that fit are posted; of three more one fits, and a reader empties the FIFO before
    the flag is set. -/
def drainedRun : List (Event Unit { bs : List UInt8 // bs.length ≤ 256 }) :=
  [.received ⟨[1, 2, 3], by decide⟩, .recorded, .posted none,
    .received ⟨[4, 5, 6], by decide⟩, .test () 8, .pop (), .recorded]

/-- A chunk longer than an empty FIFO. -/
def longChunkRun : List (Event Unit { bs : List UInt8 // 0 < bs.length ∧ bs.length ≤ 1024 }) :=
  [.received ⟨[1, 2, 3, 4, 5], by decide⟩, .recorded]

/-- Without the reader the second overflow finds the FIFO unread, and nothing is lost. -/
theorem receive_wakeup_exact_unread :
    Run.AllStates (Wakeup.step DtioxLinuxTty.stream) NoLostWakeup
      (.attached (⟨4, []⟩ : ByteFifo), .initial)
      ([.received ⟨[1, 2, 3], by decide⟩, .recorded, .posted none,
        .received ⟨[4, 5, 6], by decide⟩, .recorded] : List (Event Unit _)) :=
  ((receive_wakeup_exact (fun total dropped => total + dropped) (⟨4, []⟩ : ByteFifo) (by decide)
    rfl).2.1 _).2 (by decide +kernel)

/-- The flag is set and nobody is woken. -/
theorem wakeup_lost_on_overflow :
    (¬∀ events, Run.AllStates
      (Wakeup.step (ι := Unit) (DtioxLinuxTcp.stream fun total dropped => total + dropped))
      NoLostWakeup (.attached (⟨4, []⟩ : ByteFifo), .initial) events) ∧
    ¬∀ events, Run.AllStates (Wakeup.step (ι := Unit) DtioxLinuxTty.stream)
      NoLostWakeup (.attached (⟨4, []⟩ : ByteFifo), .initial) events := by
  constructor
  · exact fun h => absurd (h longChunkRun) (by decide +kernel)
  · exact fun h => absurd (h drainedRun) (by decide +kernel)

end DtioxStream
