import DtmcLinux.DtdisplayLinuxSdl.Objects
import DtmcLinux.DtdisplayLinuxSdl.Screen
import DtmcLinux.Foundation.FairRun
import Mathlib.Data.Fintype.Card

set_option autoImplicit false

/-! # Announcements are answered

A blit whose event SDL has accepted is not forgotten, however many others come after it: as long as the
event loop is not held up for ever it takes that event from the queue, draws the window for it, and the
window then shows for every pixel what it has been since the push, or the loop is left. -/

namespace DtdisplayLinuxSdl

open Mirror

variable {ι α : Type*}

/-! ## What is waited for -/

/-- Between the setup and the end of the loop. -/
def LoopPc.active : LoopPc ι → Bool
  | .creatingWindow => true
  | .creatingRenderer => true
  | .creatingTexture => true
  | .readying => true
  | .waiting => true
  | .updating _ => true
  | .clearing => true
  | .copying => true
  | .presenting => true
  | _ => false

/-- In `dtdisplay_linux_sdl__render_dirty`. -/
def LoopPc.refreshing : LoopPc ι → Bool
  | .updating _ => true
  | .clearing => true
  | .copying => true
  | .presenting => true
  | _ => false

/-- The loop has been left, or not been reached. -/
def LoopPc.isOver : LoopPc ι → Bool
  | .posting _ => true
  | .destroyingTexture _ => true
  | .destroyingRenderer _ => true
  | .destroyingWindow _ => true
  | .quitting _ => true
  | .returned _ => true
  | _ => false

/-- The steps up to the next wait, without those of the loop before. -/
def LoopPc.stage : LoopPc ι → ℕ
  | .creatingWindow => 4
  | .creatingRenderer => 3
  | .creatingTexture => 2
  | .readying => 1
  | .updating todo => todo.card + 4
  | .clearing => 3
  | .copying => 2
  | .presenting => 1
  | _ => 0

/-- The `n`-th event that got into the queue: still there, or in the variable of the loop. -/
def State.entry (s : State ι α) (n : ℕ) : Option (Queued ι α) :=
  if s.taken ≤ n then s.queue[n - s.taken]? else if s.taken = n + 1 then some s.event else none

/-- The `n`-th event is an announcement, and the loop has still to answer it. -/
structure Awaited (n : ℕ) (s : State ι α) : Prop where
  steady : Steady s
  initialized : s.self.isSdlInitialized = true
  type : SDL_USEREVENT ≤ s.self.dirtyEventType
  active : s.pc.active = true
  waits : s.taken ≤ n ∨ s.pc.refreshing = true
  entry : ∃ q, s.entry n = some q ∧ q.event.type = s.self.dirtyEventType

/-- The window has been drawn for the `n`-th event. -/
def Answered (n : ℕ) (s : State ι α) : Prop :=
  s.pc = .waiting ∧ s.taken = n + 1 ∧ s.answered = some s.event.since

/-- `q'` is `q` after a step to `s`: all that has been added to its history is what the pixels are now. -/
structure Carried (s : State ι α) (q q' : Queued ι α) : Prop where
  event : q'.event = q.event
  since : ∀ i, ∀ v ∈ q'.since i, v ∈ q.since i ∨ v = s.backing i

/-- A step of the task, unless it is a wait that returns without an event. -/
def Helpful : Event ι α → Prop
  | .task (.waitReturns (.noEvent _)) => False
  | .task _ => True
  | _ => False

/-- The task can take a helpful step. -/
def Busy (s : State ι α) : Prop :=
  s.pc ≠ .notStarted ∧ (∀ dterr, s.pc ≠ .returned dterr) ∧ (s.pc = .waiting → s.queue ≠ [])

section

variable [Fintype ι]

/-- The events before the `n`-th one, each with a refresh, and what is left of the one under way. -/
def rank (n : ℕ) (s : State ι α) : ℕ := (n + 1 - s.taken) * (Fintype.card ι + 5) + s.pc.stage

/-- What a step comes to. -/
inductive Outcome (n : ℕ) (s s' : State ι α) (helpful : Prop) : Prop where
  | ended (hover : s'.pc.isOver = true)
  | answered (hanswered : Answered n s')
  | awaited (hawaited : Awaited n s') (hle : rank n s' ≤ rank n s)
      (hlt : helpful → rank n s' < rank n s)

end

/-! ## Entries -/

theorem Carried.refl (s : State ι α) (q : Queued ι α) : Carried s q q := ⟨rfl, fun _ _ hv => .inl hv⟩

/-- What a step leaves alone that takes no event and paints nothing. -/
structure SameEntries (s s' : State ι α) : Prop where
  type : s'.self.dirtyEventType = s.self.dirtyEventType
  initialized : s'.self.isSdlInitialized = s.self.isSdlInitialized
  event : s'.event = s.event
  queue : s'.queue = s.queue
  taken : s'.taken = s.taken

theorem SameEntries.refl (s : State ι α) : SameEntries s s := ⟨rfl, rfl, rfl, rfl, rfl⟩

theorem SameEntries.entry {s s' : State ι α} (h : SameEntries s s') (n : ℕ) :
    s'.entry n = s.entry n := by
  rw [State.entry, State.entry, h.event, h.queue, h.taken]

theorem entry_of_le {s : State ι α} {n : ℕ} (h : s.taken ≤ n) : s.entry n = s.queue[n - s.taken]? :=
  if_pos h

theorem entry_of_eq {s : State ι α} {n : ℕ} (h : s.taken = n + 1) : s.entry n = some s.event := by
  rw [State.entry, if_neg (by omega), if_pos h]

theorem entry_cases {s : State ι α} {n : ℕ} {q : Queued ι α} (h : s.entry n = some q) :
    (s.taken ≤ n ∧ s.queue[n - s.taken]? = some q) ∨ (s.taken = n + 1 ∧ s.event = q) := by
  unfold State.entry at h
  split at h
  · next hle => exact .inl ⟨hle, h⟩
  · obtain ⟨heq, hq⟩ := Option.ite_none_right_eq_some.1 h
    exact .inr ⟨heq, Option.some.inj hq⟩

/-- An event is put into the queue behind the `n`-th one. -/
theorem entry_enqueue {s : State ι α} {n : ℕ} {q : Queued ι α} (h : s.entry n = some q)
    (event : SdlEvent) : (s.enqueue event).entry n = some q := by
  rcases entry_cases h with ⟨hle, hq⟩ | ⟨heq, hq⟩
  · refine (entry_of_le (s := s.enqueue event) hle).trans ?_
    exact (List.getElem?_append_left (List.getElem?_eq_some_iff.1 hq).1).trans hq
  · rw [← hq]
    exact entry_of_eq (s := s.enqueue event) heq

/-- The event at the head is taken. -/
theorem entry_take {s : State ι α} {n : ℕ} {q p : Queued ι α} {queue : List (Queued ι α)}
    (h : s.entry n = some q) (hle : s.taken ≤ n) (hqueue : s.queue = p :: queue) :
    (s.take p queue).entry n = some q := by
  rw [entry_of_le hle, hqueue] at h
  by_cases hlt : s.taken + 1 ≤ n
  · refine (entry_of_le (s := s.take p queue) hlt).trans ?_
    have hsucc : n - s.taken = (n - (s.taken + 1)) + 1 := by omega
    rw [hsucc, List.getElem?_cons_succ] at h
    exact h
  · have heq : s.taken = n := by omega
    rw [heq, Nat.sub_self, List.getElem?_cons_zero] at h
    rw [← h]
    exact entry_of_eq (s := s.take p queue) (congrArg (· + 1) heq)

section

variable [DecidableEq ι]

theorem entry_paint {s : State ι α} {n : ℕ} {q : Queued ι α} (h : s.entry n = some q) (i : ι) (v : α) :
    (s.paint i v).entry n = some (q.note i v) := by
  rcases entry_cases h with ⟨hle, hq⟩ | ⟨heq, hq⟩
  · refine (entry_of_le (s := s.paint i v) hle).trans ?_
    show (s.queue.map (·.note i v))[n - s.taken]? = _
    rw [List.getElem?_map, hq]
    rfl
  · rw [← hq]
    exact entry_of_eq (s := s.paint i v) heq

theorem carried_note (s : State ι α) (q : Queued ι α) (i : ι) (v : α) :
    Carried (s.paint i v) q (q.note i v) := by
  refine ⟨rfl, fun j w hw => ?_⟩
  change w ∈ Function.update q.since i (v :: q.since i) j at hw
  by_cases hij : j = i
  · subst hij
    rw [Function.update_self] at hw
    rcases List.mem_cons.1 hw with rfl | hw
    · exact .inr (Function.update_self j w s.backing).symm
    · exact .inl hw
  · rw [Function.update_of_ne hij] at hw
    exact .inl hw

end

/-! ## The steps of the task -/

section

variable [Fintype ι]

/-- What a step of the task can do between the setup and the end of the loop, when no wait fails. -/
inductive TaskMove (s : State ι α) : TaskEvent ι α → State ι α → Prop where
  /-- the loop is left, or not reached -/
  | ended {e : TaskEvent ι α} {s' : State ι α} (hsame : SameEntries s s')
      (hover : s'.pc.isOver = true) : TaskMove s e s'
  | later {e : TaskEvent ι α} {s' : State ι α} (hsame : SameEntries s s')
      (hactive : s'.pc.active = true) (hrefreshing : s'.pc.refreshing = s.pc.refreshing)
      (hstage : s'.pc.stage < s.pc.stage) : TaskMove s e s'
  | presents (hpc : s.pc = .presenting) : TaskMove s .presented { s.called .renderPresent with
      pc := .waiting, screen := s.target, answered := some s.event.since }
  | idle {sdlError : String} : TaskMove s (.waitReturns (.noEvent sdlError)) s
  | takes {p : Queued ι α} {queue : List (Queued ι α)} (hpc : s.pc = .waiting)
      (hqueue : s.queue = p :: queue) :
      TaskMove s (.waitReturns .event) ((s.take p queue).afterWait .event)

theorem TaskMove.goesOn {s s' : State ι α} {e : TaskEvent ι α} {pc : LoopPc ι} (hpc : s.pc = pc)
    (hsame : SameEntries s s') (hactive : s'.pc.active = true)
    (hrefreshing : s'.pc.refreshing = pc.refreshing) (hstage : s'.pc.stage < pc.stage) :
    TaskMove s e s' := by
  subst hpc
  exact .later hsame hactive hrefreshing hstage

/-- A call under `DTDISPLAY_SDLERROR_C`: the loop is left or goes on. -/
theorem TaskMove.sdlErrorC {s s' : State ι α} {e : TaskEvent ι α} (call : SdlCall) (err : ℤ)
    (sdlError : String) (hgoesOn : TaskMove s e s') :
    TaskMove s e ((s.called call).sdlErrorC err sdlError s') := by
  unfold State.sdlErrorC
  split
  · exact .ended ⟨rfl, rfl, rfl, rfl, rfl⟩ rfl
  · exact hgoesOn

/-- A wait that times out. -/
theorem afterWait_noEvent {s : State ι α} (hpc : s.pc = .waiting) :
    s.afterWait (.noEvent "") = s.leaveLoop none ∨ s.afterWait (.noEvent "") = s := by
  unfold State.afterWait
  split
  · exact .inl rfl
  · refine .inr ?_
    show { s with pc := .waiting } = s
    rw [← hpc]

variable [DecidableEq ι]

theorem taskStep_moves {s s' : State ι α} {e : TaskEvent ι α} (hactive : s.pc.active = true)
    (hwait : ∀ sdlError, e = .waitReturns (.noEvent sdlError) → sdlError = "")
    (hstep : s.taskStep e = some s') : TaskMove s e s' := by
  cases e with
  | registered type sdlError =>
      simp only [State.taskStep] at hstep
      split at hstep
      · next hpc =>
          rw [hpc] at hactive
          cases hactive
      · cases hstep
  | windowCreated created sdlError =>
      simp only [State.taskStep] at hstep
      split at hstep
      · next hpc =>
          obtain rfl := Option.some.inj hstep
          cases created with
          | true =>
              exact .goesOn hpc ⟨rfl, rfl, rfl, rfl, rfl⟩ rfl rfl (Nat.lt_succ_self 3)
          | false => exact .ended ⟨rfl, rfl, rfl, rfl, rfl⟩ rfl
      · cases hstep
  | rendererCreated created sdlError =>
      simp only [State.taskStep] at hstep
      split at hstep
      · next hpc =>
          obtain rfl := Option.some.inj hstep
          cases created with
          | true =>
              exact .goesOn hpc ⟨rfl, rfl, rfl, rfl, rfl⟩ rfl rfl (Nat.lt_succ_self 2)
          | false => exact .ended ⟨rfl, rfl, rfl, rfl, rfl⟩ rfl
      · cases hstep
  | textureCreated created sdlError texture =>
      simp only [State.taskStep] at hstep
      split at hstep
      · next hpc =>
          obtain rfl := Option.some.inj hstep
          cases created with
          | true =>
              exact .goesOn hpc ⟨rfl, rfl, rfl, rfl, rfl⟩ rfl rfl (Nat.lt_succ_self 1)
          | false => exact .ended ⟨rfl, rfl, rfl, rfl, rfl⟩ rfl
      · cases hstep
  | ready dterr =>
      simp only [State.taskStep] at hstep
      split at hstep
      · next hpc =>
          cases dterr with
          | some dterr =>
              obtain rfl := Option.some.inj hstep
              exact .ended ⟨rfl, rfl, rfl, rfl, rfl⟩ rfl
          | none =>
              obtain rfl := Option.some.inj hstep
              exact .goesOn hpc ⟨rfl, rfl, rfl, rfl, rfl⟩ rfl rfl (Nat.lt_succ_self 0)
      · cases hstep
  | waitReturns result =>
      simp only [State.taskStep] at hstep
      split at hstep
      · next hpc =>
          cases result with
          | event =>
              cases hqueue : s.queue with
              | nil => simp [State.waitReturns, hqueue] at hstep
              | cons p queue =>
                  simp only [State.waitReturns, hqueue, Option.some.injEq] at hstep
                  rw [← hstep]
                  exact .takes hpc hqueue
          | noEvent sdlError =>
              obtain rfl := hwait sdlError rfl
              obtain rfl := Option.some.inj hstep
              rcases afterWait_noEvent hpc with heq | heq
              · rw [heq]
                exact .ended ⟨rfl, rfl, rfl, rfl, rfl⟩ rfl
              · rw [heq]
                exact .idle
      · cases hstep
  | copyPixel i =>
      simp only [State.taskStep] at hstep
      split at hstep
      · next todo hpc =>
          obtain ⟨hmem, hs⟩ := Option.ite_none_right_eq_some.1 hstep
          obtain rfl := Option.some.inj hs
          exact .goesOn hpc ⟨rfl, rfl, rfl, rfl, rfl⟩ rfl rfl
            (Nat.add_lt_add_right (Finset.card_erase_lt_of_mem hmem) 4)
      · cases hstep
  | updated err sdlError =>
      simp only [State.taskStep] at hstep
      split at hstep
      · next todo hpc =>
          obtain ⟨-, hs⟩ := Option.ite_none_right_eq_some.1 hstep
          obtain rfl := Option.some.inj hs
          have hstage : 3 < todo.card + 4 := Nat.le_add_left 4 todo.card
          exact .sdlErrorC _ err sdlError (.goesOn hpc ⟨rfl, rfl, rfl, rfl, rfl⟩ rfl rfl hstage)
      · cases hstep
  | cleared err sdlError =>
      simp only [State.taskStep] at hstep
      split at hstep
      · next hpc =>
          obtain rfl := Option.some.inj hstep
          exact .sdlErrorC _ err sdlError
            (.goesOn hpc ⟨rfl, rfl, rfl, rfl, rfl⟩ rfl rfl (Nat.lt_succ_self 2))
      · cases hstep
  | copied err sdlError =>
      simp only [State.taskStep] at hstep
      split at hstep
      · next hpc =>
          obtain rfl := Option.some.inj hstep
          exact .sdlErrorC _ err sdlError
            (.goesOn hpc ⟨rfl, rfl, rfl, rfl, rfl⟩ rfl rfl (Nat.lt_succ_self 1))
      · cases hstep
  | presented =>
      simp only [State.taskStep] at hstep
      split at hstep
      · next hpc =>
          obtain rfl := Option.some.inj hstep
          exact .presents hpc
      · cases hstep
  | posted post =>
      simp only [State.taskStep] at hstep
      split at hstep
      · next dterr hpc =>
          rw [hpc] at hactive
          cases hactive
      · cases hstep
  | teardown =>
      simp only [State.taskStep, State.teardown] at hstep
      split at hstep
      · next dterr hpc =>
          rw [hpc] at hactive
          cases hactive
      · next dterr hpc =>
          rw [hpc] at hactive
          cases hactive
      · next dterr hpc =>
          rw [hpc] at hactive
          cases hactive
      · next dterr hpc =>
          rw [hpc] at hactive
          cases hactive
      · cases hstep

end

/-! ## Steps -/

namespace Awaited

variable {n : ℕ} {s s' : State ι α}

/-- No attach gets through any more. -/
theorem attach_eq (h : Awaited n s) (start : Option Dterr) : (s.attach start).1 = s := by
  unfold State.attach
  rw [if_pos h.initialized]

/-- The task moves on without taking an event. -/
theorem move (h : Awaited n s) (hsteady : Steady s') (hsame : SameEntries s s')
    (hactive : s'.pc.active = true) (hwaits : s'.taken ≤ n ∨ s'.pc.refreshing = true) :
    Awaited n s' where
  steady := hsteady
  initialized := hsame.initialized.trans h.initialized
  type := by
    rw [hsame.type]
    exact h.type
  active := hactive
  waits := hwaits
  entry := by
    rw [hsame.entry, hsame.type]
    exact h.entry

/-- Before the loop and while it waits, the event is still in the queue. -/
theorem taken_le (h : Awaited n s) (hpc : s.pc.refreshing = false) : s.taken ≤ n :=
  h.waits.resolve_right fun hrefreshing => Bool.false_ne_true (hpc.symm.trans hrefreshing)

variable [Fintype ι]

/-- The task moves on to a later stage. -/
theorem outcome_move (h : Awaited n s) (hsteady : Steady s') (hsame : SameEntries s s')
    (hactive : s'.pc.active = true) (hwaits : s'.taken ≤ n ∨ s'.pc.refreshing = true)
    (hstage : s'.pc.stage < s.pc.stage) (helpful : Prop) : Outcome n s s' helpful := by
  have hrank : rank n s' < rank n s := by
    rw [rank, rank, hsame.taken]
    omega
  exact .awaited (h.move hsteady hsame hactive hwaits) (Nat.le_of_lt hrank) fun _ => hrank

/-- A step that is not one of the task leaves it where it is. -/
theorem outcome_stay (h : Awaited n s) (hsteady : Steady s') (hpc : s'.pc = s.pc)
    (htype : s'.self.dirtyEventType = s.self.dirtyEventType)
    (hinitialized : s'.self.isSdlInitialized = s.self.isSdlInitialized) (htaken : s'.taken = s.taken)
    (hentry : ∃ q, s'.entry n = some q ∧ q.event.type = s.self.dirtyEventType) {helpful : Prop}
    (hnot : ¬helpful) : Outcome n s s' helpful := by
  refine .awaited ⟨hsteady, hinitialized.trans h.initialized, ?_, ?_, ?_, ?_⟩ ?_
    fun hhelpful => absurd hhelpful hnot
  · rw [htype]
    exact h.type
  · rw [hpc]
    exact h.active
  · rw [hpc, htaken]
    exact h.waits
  · rw [htype]
    exact hentry
  · rw [rank, rank, htaken, hpc]

/-- The wait returns an event: the queue gets shorter, or the loop comes to the event waited for. -/
theorem outcome_take (h : Awaited n s) (hpc : s.pc = .waiting) {p : Queued ι α}
    {queue : List (Queued ι α)} (hqueue : s.queue = p :: queue)
    (hsteady : Steady ((s.take p queue).afterWait .event)) (helpful : Prop) :
    Outcome n s ((s.take p queue).afterWait .event) helpful := by
  have hle : s.taken ≤ n := h.taken_le (by rw [hpc]; rfl)
  obtain ⟨q, hq, htype⟩ := h.entry
  have hentry := entry_take hq hle hqueue
  have hrank : (n + 1 - (s.taken + 1)) * (Fintype.card ι + 5) + (Fintype.card ι + 5) =
      (n + 1 - s.taken) * (Fintype.card ι + 5) := by
    have hsucc : n + 1 - s.taken = (n + 1 - (s.taken + 1)) + 1 := by omega
    rw [hsucc, Nat.succ_mul]
  have hless : ∀ pc : LoopPc ι, pc.stage < Fintype.card ι + 5 →
      rank n { s.take p queue with pc := pc } < rank n s := by
    intro pc hstage
    simp only [rank, State.take]
    omega
  rcases Steady.afterWait_cases (s.take p queue) .event with heq | heq | ⟨hignored, heq⟩
  · rw [heq]
    exact .ended rfl
  · rw [heq] at hsteady ⊢
    have hlt := hless (.updating Finset.univ) (by simp only [LoopPc.stage, Finset.card_univ]; omega)
    exact .awaited ⟨hsteady, h.initialized, h.type, rfl, .inr rfl, q, hentry, htype⟩
      (Nat.le_of_lt hlt) fun _ => hlt
  · rw [heq] at hsteady ⊢
    have hlt := hless .waiting (by simp only [LoopPc.stage]; omega)
    refine .awaited ⟨hsteady, h.initialized, h.type, rfl, .inl ?_, q, hentry, htype⟩
      (Nat.le_of_lt hlt) fun _ => hlt
    -- the event waited for is not ignored
    show s.taken + 1 ≤ n
    by_contra hgt
    have hlast : (s.take p queue).entry n = some p :=
      entry_of_eq (s := s.take p queue) (show s.taken + 1 = n + 1 by omega)
    obtain rfl := Option.some.inj (hentry.symm.trans hlast)
    exact Steady.handleEvent_ne_ignored h.type htype hignored

theorem outcome_task (h : Awaited n s) {e : TaskEvent ι α} (hmove : TaskMove s e s')
    (hsteady : Steady s') : Outcome n s s' (Helpful (.task e)) := by
  cases hmove with
  | ended hsame hover => exact .ended hover
  | later hsame hactive hrefreshing hstage =>
      refine h.outcome_move hsteady hsame hactive ?_ hstage _
      rw [hsame.taken, hrefreshing]
      exact h.waits
  | presents hpc =>
      obtain ⟨q, hq, -⟩ := h.entry
      rcases entry_cases hq with ⟨hle, -⟩ | ⟨heq, -⟩
      · refine h.outcome_move hsteady ⟨rfl, rfl, rfl, rfl, rfl⟩ rfl (.inl hle) ?_ _
        rw [hpc]
        exact Nat.lt_succ_self 0
      · exact .answered ⟨rfl, heq, rfl⟩
  | idle => exact h.outcome_stay hsteady rfl rfl rfl rfl h.entry id
  | takes hpc hqueue => exact h.outcome_take hpc hqueue hsteady _

variable [DecidableEq ι]

/-- **One step.** The event is answered, or given up with the loop, or still awaited and nearer. -/
theorem outcome (h : Awaited n s) {e : Event ι α} (hstep : s.step e = some s')
    (hwait : ∀ sdlError, e = .task (.waitReturns (.noEvent sdlError)) → sdlError = "") :
    Outcome n s s' (Helpful e) := by
  have hsteady := h.steady.step hstep
  obtain ⟨q, hq, htype⟩ := h.entry
  cases e with
  | attach start =>
      obtain rfl := Option.some.inj hstep
      rw [h.attach_eq] at hsteady ⊢
      exact h.outcome_stay hsteady rfl rfl rfl rfl h.entry id
  | detach =>
      obtain rfl := Option.some.inj hstep
      exact h.outcome_stay hsteady rfl rfl rfl rfl ⟨q, hq, htype⟩ id
  | blit =>
      obtain rfl := Option.some.inj hstep
      exact h.outcome_stay hsteady rfl rfl rfl rfl ⟨q, hq, htype⟩ id
  | paint i v =>
      obtain ⟨-, hs⟩ := Option.ite_none_right_eq_some.1 hstep
      obtain rfl := Option.some.inj hs
      exact h.outcome_stay hsteady rfl rfl rfl rfl ⟨_, entry_paint hq i v, htype⟩ id
  | blitFails =>
      obtain ⟨-, hs⟩ := Option.ite_none_right_eq_some.1 hstep
      obtain rfl := Option.some.inj hs
      exact h.outcome_stay hsteady rfl rfl rfl rfl ⟨q, hq, htype⟩ id
  | push accepted =>
      obtain ⟨-, hs⟩ := Option.ite_none_right_eq_some.1 hstep
      obtain rfl := Option.some.inj hs
      cases accepted with
      | true => exact h.outcome_stay hsteady rfl rfl rfl rfl ⟨q, entry_enqueue hq _, htype⟩ id
      | false => exact h.outcome_stay hsteady rfl rfl rfl rfl ⟨q, hq, htype⟩ id
  | sdl event =>
      obtain rfl := Option.some.inj hstep
      exact h.outcome_stay hsteady rfl rfl rfl rfl ⟨q, entry_enqueue hq _, htype⟩ id
  | task e =>
      have hmove := taskStep_moves h.active (fun err he => hwait err (congrArg Event.task he)) hstep
      exact h.outcome_task hmove hsteady

/-- What the pixels have been since the event got into the queue goes on with it. -/
theorem carried (h : Awaited n s) {e : Event ι α} (hstep : s.step e = some s')
    (hwait : ∀ sdlError, e = .task (.waitReturns (.noEvent sdlError)) → sdlError = "")
    {q : Queued ι α} (hq : s.entry n = some q) : ∃ q', s'.entry n = some q' ∧ Carried s' q q' := by
  have hsame : ∀ {s₁ : State ι α}, SameEntries s s₁ → ∃ q', s₁.entry n = some q' ∧ Carried s₁ q q' :=
    fun hentries => ⟨q, (hentries.entry n).trans hq, .refl _ q⟩
  cases e with
  | attach start =>
      obtain rfl := Option.some.inj hstep
      rw [h.attach_eq]
      exact hsame (.refl s)
  | detach =>
      obtain rfl := Option.some.inj hstep
      exact hsame ⟨rfl, rfl, rfl, rfl, rfl⟩
  | blit =>
      obtain rfl := Option.some.inj hstep
      exact hsame ⟨rfl, rfl, rfl, rfl, rfl⟩
  | paint i v =>
      obtain ⟨-, hs⟩ := Option.ite_none_right_eq_some.1 hstep
      obtain rfl := Option.some.inj hs
      exact ⟨_, entry_paint hq i v, carried_note s q i v⟩
  | blitFails =>
      obtain ⟨-, hs⟩ := Option.ite_none_right_eq_some.1 hstep
      obtain rfl := Option.some.inj hs
      exact hsame ⟨rfl, rfl, rfl, rfl, rfl⟩
  | push accepted =>
      obtain ⟨-, hs⟩ := Option.ite_none_right_eq_some.1 hstep
      obtain rfl := Option.some.inj hs
      cases accepted with
      | true => exact ⟨q, entry_enqueue hq _, .refl _ q⟩
      | false => exact hsame ⟨rfl, rfl, rfl, rfl, rfl⟩
  | sdl event =>
      obtain rfl := Option.some.inj hstep
      exact ⟨q, entry_enqueue hq _, .refl _ q⟩
  | task e =>
      have hmove := taskStep_moves h.active (fun err he => hwait err (congrArg Event.task he)) hstep
      cases hmove with
      | ended hentries hover => exact hsame hentries
      | later hentries hactive hrefreshing hstage => exact hsame hentries
      | presents hpc => exact hsame ⟨rfl, rfl, rfl, rfl, rfl⟩
      | idle => exact hsame (.refl s)
      | @takes p queue hpc hqueue =>
          have htaken := entry_take hq (h.taken_le (by rw [hpc]; rfl)) hqueue
          refine ⟨q, ?_, .refl _ q⟩
          rcases Steady.afterWait_cases (s.take p queue) .event with heq | heq | ⟨-, heq⟩
          · rw [heq]
            exact htaken
          · rw [heq]
            exact htaken
          · rw [heq]
            exact htaken

end Awaited

/-! ## Fairness -/

/-- The task waits for the event: it can take a helpful step. -/
theorem Awaited.busy {n : ℕ} {s : State ι α} (h : Awaited n s) : Busy s := by
  have hactive := h.active
  refine ⟨fun hpc => ?_, fun dterr hpc => ?_, fun hpc hqueue => ?_⟩
  · rw [hpc] at hactive
    cases hactive
  · rw [hpc] at hactive
    cases hactive
  · obtain ⟨q, hq, -⟩ := h.entry
    rw [entry_of_le (h.taken_le (by rw [hpc]; rfl)), hqueue, List.getElem?_nil] at hq
    cases hq

theorem busy_leaveLoop (s : State ι α) (dterr : Option Dterr) : Busy (s.leaveLoop dterr) := by
  refine ⟨fun h => ?_, fun _ h => ?_, fun h => ?_⟩ <;> cases h

section

variable [Fintype ι] [DecidableEq ι]

/-- The task stays able to take a helpful step until it takes one. -/
theorem Busy.step {s s' : State ι α} {e : Event ι α} (h : Busy s) (hnot : ¬Helpful e)
    (hstep : s.step e = some s') : Busy s' := by
  obtain ⟨hstarted, hreturned, hqueue⟩ := h
  cases e with
  | attach start =>
      obtain rfl := Option.some.inj hstep
      have halive : s.pc.alive = true := by
        cases hpc : s.pc with
        | notStarted => exact absurd hpc hstarted
        | returned dterr => exact absurd hpc (hreturned dterr)
        | _ => rfl
      unfold State.attach
      split
      · exact ⟨hstarted, hreturned, hqueue⟩
      · exact ⟨hstarted, hreturned, hqueue⟩
  | detach =>
      obtain rfl := Option.some.inj hstep
      exact ⟨hstarted, hreturned, hqueue⟩
  | blit =>
      obtain rfl := Option.some.inj hstep
      exact ⟨hstarted, hreturned, hqueue⟩
  | paint i v =>
      obtain ⟨-, hs⟩ := Option.ite_none_right_eq_some.1 hstep
      obtain rfl := Option.some.inj hs
      exact ⟨hstarted, hreturned, fun hpc hnil => hqueue hpc (List.map_eq_nil_iff.1 hnil)⟩
  | blitFails =>
      obtain ⟨-, hs⟩ := Option.ite_none_right_eq_some.1 hstep
      obtain rfl := Option.some.inj hs
      exact ⟨hstarted, hreturned, hqueue⟩
  | push accepted =>
      obtain ⟨-, hs⟩ := Option.ite_none_right_eq_some.1 hstep
      obtain rfl := Option.some.inj hs
      cases accepted with
      | true => exact ⟨hstarted, hreturned, fun _ => List.append_ne_nil_of_right_ne_nil _ (by simp)⟩
      | false => exact ⟨hstarted, hreturned, hqueue⟩
  | sdl event =>
      obtain rfl := Option.some.inj hstep
      exact ⟨hstarted, hreturned, fun _ => List.append_ne_nil_of_right_ne_nil _ (by simp)⟩
  | task e =>
      -- a wait that returns without an event
      cases e with
      | waitReturns result =>
          cases result with
          | event => exact absurd trivial hnot
          | noEvent sdlError =>
              simp only [State.step, State.taskStep] at hstep
              split at hstep
              · next hpc =>
                  obtain rfl := Option.some.inj hstep
                  rcases Steady.afterWait_cases s (.noEvent sdlError) with heq | heq | ⟨-, heq⟩
                  · rw [heq]
                    exact busy_leaveLoop s none
                  · rw [heq]
                    refine ⟨fun h => ?_, fun _ h => ?_, fun h => ?_⟩ <;> cases h
                  · rw [heq]
                    refine ⟨fun h => ?_, fun _ h => ?_, fun _ => hqueue hpc⟩ <;> cases h
              · cases hstep
      | _ => exact absurd trivial hnot

end

/-! ## Runs without end -/

/-- Once something is initialized the task is on its way to the loop, in it, or behind it. -/
theorem Orderly.active_or_isOver {s : State ι α} (h : Orderly s)
    (hinitialized : s.self.isSdlInitialized = true) : s.pc.active = true ∨ s.pc.isOver = true := by
  have hset := h.set
  cases hpc : s.pc with
  | notStarted =>
      rw [hpc] at hset
      exact absurd (hinitialized.symm.trans hset.1) (by decide)
  | registering =>
      rw [hpc] at hset
      exact absurd (hinitialized.symm.trans hset.1) (by decide)
  | posting dterr => exact .inr rfl
  | destroyingTexture dterr => exact .inr rfl
  | destroyingRenderer dterr => exact .inr rfl
  | destroyingWindow dterr => exact .inr rfl
  | quitting dterr => exact .inr rfl
  | returned dterr => exact .inr rfl
  | _ => exact .inl rfl

section

variable [Fintype ι] [DecidableEq ι]

/-- A run of the system that does not end. -/
abbrev DisplayRun (ι α : Type*) [Fintype ι] [DecidableEq ι] :=
  Run.Infinite (State.step : State ι α → Event ι α → Option (State ι α))

/-- The pixels have had the values of the history after the moment `n`, up to the moment `m`. -/
def HasBeen (run : DisplayRun ι α) (n m : ℕ) (history : History ι α) : Prop :=
  ∀ i, ∀ v ∈ history i, ∃ k, n < k ∧ k ≤ m ∧ v = (run.state k).backing i

/-- At the moment `m` the loop waits, and no pixel of the window is older than the moment `n`. -/
def ShowsSince (run : DisplayRun ι α) (n m : ℕ) : Prop :=
  (run.state m).pc = .waiting ∧
    ∀ i, ∃ k, n < k ∧ k ≤ m ∧ (run.state m).screen i = (run.state k).backing i

theorem HasBeen.carried {run : DisplayRun ι α} {n m : ℕ} {q q' : Queued ι α}
    (h : HasBeen run n m q.since) (hlt : n ≤ m) (hcarried : Carried (run.state (m + 1)) q q') :
    HasBeen run n (m + 1) q'.since := by
  intro i v hv
  rcases hcarried.since i v hv with hv | hv
  · obtain ⟨k, hnk, hkm, heq⟩ := h i v hv
    exact ⟨k, hnk, Nat.le_succ_of_le hkm, heq⟩
  · exact ⟨m + 1, Nat.lt_succ_of_le hlt, Nat.le_refl _, hv⟩

/-- When the event has been answered, the window shows what the pixels have been since. -/
theorem Answered.showsSince {run : DisplayRun ι α} {n m number : ℕ} {q : Queued ι α}
    (h : Answered number (run.state m)) (hsteady : Steady (run.state m))
    (hentry : (run.state m).entry number = some q) (hbeen : HasBeen run n m q.since) :
    ShowsSince run n m := by
  obtain ⟨hpc, htaken, hanswered⟩ := h
  obtain rfl := Option.some.inj ((entry_of_eq htaken).symm.trans hentry)
  refine ⟨hpc, fun i => ?_⟩
  exact hbeen i _ (hsteady.answered _ hanswered i (Set.notMem_empty i))

/-- The event is followed through the run until it is answered, or given up with the loop. -/
theorem follow {run : DisplayRun ι α} {n number : ℕ}
    (hsteady : ∀ m, Steady (run.state m))
    (hwait : ∀ m sdlError, run.event m = some (.task (.waitReturns (.noEvent sdlError))) →
      sdlError = "")
    (hawaited : Awaited number (run.state (n + 1)))
    (hfirst : ∃ q, (run.state (n + 1)).entry number = some q ∧ HasBeen run n (n + 1) q.since) :
    ∀ m, n + 1 ≤ m → (∃ k, n < k ∧ ((run.state k).pc.isOver = true ∨ ShowsSince run n k)) ∨
      (Awaited number (run.state m) ∧
        ∃ q, (run.state m).entry number = some q ∧ HasBeen run n m q.since) := by
  intro m hm
  induction m, hm using Nat.le_induction with
  | base => exact .inr ⟨hawaited, hfirst⟩
  | succ m hm ih =>
      rcases ih with hdone | ⟨hawaited, q, hq, hbeen⟩
      · exact .inl hdone
      have hlater : n < m + 1 := Nat.lt_succ_of_lt hm
      cases hevent : run.event m with
      | none =>
          refine .inr ?_
          rw [run.next_none hevent]
          refine ⟨hawaited, q, hq, fun i v hv => ?_⟩
          obtain ⟨k, hnk, hkm, heq⟩ := hbeen i v hv
          exact ⟨k, hnk, Nat.le_succ_of_le hkm, heq⟩
      | some e =>
          have hnext := run.next_some hevent
          have hquiet : ∀ sdlError, e = .task (.waitReturns (.noEvent sdlError)) → sdlError = "" :=
            fun sdlError he => hwait m sdlError (he ▸ hevent)
          obtain ⟨q', hq', hcarried⟩ := hawaited.carried hnext hquiet hq
          have hbeen' := hbeen.carried (Nat.le_of_lt hm) hcarried
          cases hawaited.outcome hnext hquiet with
          | ended hover => exact .inl ⟨m + 1, hlater, .inl hover⟩
          | answered hanswered =>
              exact .inl ⟨m + 1, hlater, .inr (hanswered.showsSince (hsteady _) hq' hbeen')⟩
          | awaited hawaited' => exact .inr ⟨hawaited', q', hq', hbeen'⟩

/-- Each helpful step brings the event nearer, and helpful steps come again and again. -/
theorem Awaited.leadsTo {run : DisplayRun ι α} {number n : ℕ}
    (h : Awaited number (run.state n))
    (hwait : ∀ m sdlError, run.event m = some (.task (.waitReturns (.noEvent sdlError))) →
      sdlError = "")
    (hfair : run.WeaklyFair Busy Helpful) :
    ∃ m, n ≤ m ∧ ((run.state m).pc.isOver = true ∨ Answered number (run.state m)) := by
  refine Run.Infinite.leadsTo_of_rank (P := Awaited number)
    (Q := fun s => s.pc.isOver = true ∨ Answered number s) (rank number) Helpful ?_ ?_ n h
  · intro m e hawaited hevent
    have hquiet : ∀ sdlError, e = .task (.waitReturns (.noEvent sdlError)) → sdlError = "" :=
      fun sdlError he => hwait m sdlError (he ▸ hevent)
    cases hawaited.outcome (run.next_some hevent) hquiet with
    | ended hover => exact .inl (.inl hover)
    | answered hanswered => exact .inl (.inr hanswered)
    | awaited hnear hle hlt => exact .inr ⟨hnear, hle, hlt⟩
  · intro m hawaited
    exact hfair.eventually hawaited.busy fun _ _ _ hbusy hnot _ hstep => hbusy.step hnot hstep

/-- **Every announcement is answered.** In every run in which the task is not held up for ever while it
    can go on, and no wait fails: after a blit whose event SDL has accepted once the task has registered
    its type, however many other blits and events there are, the loop is left, or it comes to wait again
    with a window none of whose pixels is older than that push. -/
theorem announcement_answered (joinSemaphore : Bool) (backing : ι → α) (event : SdlEvent)
    (screen : ι → α) (run : DisplayRun ι α)
    (hfirst : run.state 0 = .configured joinSemaphore backing event screen)
    (hwait : ∀ m sdlError, run.event m = some (.task (.waitReturns (.noEvent sdlError))) →
      sdlError = "")
    (hfair : run.WeaklyFair Busy Helpful) (n : ℕ) (hpush : run.event n = some (.push true))
    (hregistered : (run.state n).self.dirtyEventType ≠ 0) :
    ∃ m, n < m ∧ ((run.state m).pc.isOver = true ∨ ShowsSince run n m) := by
  have hsteady : ∀ m, Steady (run.state m) :=
    run.invariant (hfirst ▸ steady_configured joinSemaphore backing event screen)
      fun _ _ _ h hstep => h.step hstep
  have horderly : ∀ m, Orderly (run.state m) :=
    run.invariant (hfirst ▸ orderly_configured joinSemaphore backing event screen)
      fun _ _ _ h hstep => h.step hstep
  obtain ⟨-, hs⟩ := Option.ite_none_right_eq_some.1 (run.next_some hpush)
  have hnext : (run.state n).push true = run.state (n + 1) := Option.some.inj hs
  have hinitialized : (run.state (n + 1)).self.isSdlInitialized = true := by
    rw [← hnext]
    cases hinit : (run.state n).self.isSdlInitialized with
    | true => exact hinit
    | false => exact absurd ((hsteady n).unregistered hinit) hregistered
  rcases (horderly (n + 1)).active_or_isOver hinitialized with hactive | hover
  · -- the event is the last one in the queue
    have hentry : (run.state (n + 1)).entry ((run.state n).taken + (run.state n).queue.length) =
        some ⟨⟨(run.state n).self.dirtyEventType, 0⟩, .start (run.state n).backing⟩ := by
      rw [← hnext]
      refine (entry_of_le (Nat.le_add_right _ _)).trans ?_
      show ((run.state n).queue ++ [_])[(run.state n).taken + _ - (run.state n).taken]? = _
      rw [Nat.add_sub_cancel_left, List.getElem?_concat_length]
    have htype : (run.state (n + 1)).self.dirtyEventType = (run.state n).self.dirtyEventType := by
      rw [← hnext]
      rfl
    have hbacking : (run.state (n + 1)).backing = (run.state n).backing := by
      rw [← hnext]
      rfl
    have hawaited : Awaited ((run.state n).taken + (run.state n).queue.length)
        (run.state (n + 1)) := by
      refine ⟨hsteady _, hinitialized, ?_, hactive, .inl ?_, _, hentry, htype.symm⟩
      · rw [htype]
        exact (hsteady n).registered hregistered
      · rw [← hnext]
        exact Nat.le_add_right _ _
    have hbeen : HasBeen run n (n + 1) (.start (run.state n).backing) := by
      intro i v hv
      rw [List.mem_singleton.1 hv, ← hbacking]
      exact ⟨n + 1, Nat.lt_succ_self n, Nat.le_refl _, rfl⟩
    obtain ⟨m, hm, hdone⟩ := hawaited.leadsTo hwait hfair
    rcases follow hsteady hwait hawaited ⟨_, hentry, hbeen⟩ m hm with hfound | ⟨hawaited', -⟩
    · exact hfound
    · rcases hdone with hover | ⟨hpc, htaken, -⟩
      · exact ⟨m, hm, .inl hover⟩
      · have hle := hawaited'.taken_le (by rw [hpc]; rfl)
        omega
  · exact ⟨n + 1, Nat.lt_succ_self n, .inl hover⟩

end

/-! A blit into a window of two pixels, and the refresh that answers it. -/

/-- The events. -/
def blitOnce : List (Event Bool ℕ) :=
  [.attach none, .task (.registered SDL_USEREVENT ""), .task (.windowCreated true ""),
    .task (.rendererCreated true ""), .task (.textureCreated true "" fun _ => 0), .task (.ready none),
    .blit, .paint true 7, .push true, .task (.waitReturns .event), .task (.copyPixel true),
    .task (.copyPixel false), .task (.updated 0 ""), .task (.cleared 0 ""), .task (.copied 0 ""),
    .task .presented]

/-- The object, with a window that shows something else. -/
def twoPixels : State Bool ℕ := .configured false (fun _ => 4) ⟨0, 0⟩ fun _ => 0

theorem blitOnce_runs : ∃ s, Run.exec State.step twoPixels blitOnce = some s ∧
    (s.pc.active = true ∧ s.pc.stage = 0 ∧ s.queue.length = 0) :=
  Run.exists_exec_of_ends (Q := fun s : State Bool ℕ => s.pc.active = true ∧ s.pc.stage = 0 ∧
    s.queue.length = 0) (by decide +kernel) fun _ h => h

/-- The push at the moment 8 is answered. -/
theorem announcement_answered_blitOnce :
    ∃ s, ∃ hs : Run.exec State.step twoPixels blitOnce = some s, ∃ m, 8 < m ∧
      (((Run.Infinite.ofList blitOnce hs).state m).pc.isOver = true ∨
        ShowsSince (Run.Infinite.ofList blitOnce hs) 8 m) := by
  obtain ⟨s, hs, hactive, hstage, hqueue⟩ := blitOnce_runs
  refine ⟨s, hs, ?_⟩
  refine announcement_answered false (fun _ => 4) ⟨0, 0⟩ (fun _ => 0) _ rfl ?_ ?_ 8 rfl ?_
  · intro m sdlError hevent
    have hmem := List.mem_of_getElem? hevent
    simp [blitOnce] at hmem
  · refine Run.Infinite.ofList_weaklyFair blitOnce hs Helpful fun hbusy => ?_
    -- it waits for ever, and nothing is in the queue
    have hpc : s.pc = .waiting := by
      cases hpc : s.pc with
      | waiting => rfl
      | _ => simp [hpc, LoopPc.active, LoopPc.stage] at hactive hstage
    exact hbusy.2.2 hpc (List.length_eq_zero_iff.1 hqueue)
  · show (Run.stateAt State.step twoPixels blitOnce 8).self.dirtyEventType ≠ 0
    decide +kernel

end DtdisplayLinuxSdl
