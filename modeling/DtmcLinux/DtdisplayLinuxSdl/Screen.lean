import DtmcLinux.DtdisplayLinuxSdl.Basic
import DtmcLinux.Foundation.StepRun

set_option autoImplicit false

/-! # What the window shows

The blits and the event loop share the backing buffer without a lock. What the window shows may be torn,
but no pixel of it is older than the event it was drawn for: whatever is painted while the loop copies is
announced by an event that the loop sees afterwards. -/

namespace DtdisplayLinuxSdl

open Mirror

variable {ι α : Type*}

/-- An event of the registered type is in the queue. -/
def Pending (s : State ι α) : Prop := ∃ q ∈ s.queue, q.event.type = s.self.dirtyEventType

/-- **What the window shows.** Every pixel of it is one that the backing buffer has had since the event
    it was last drawn for got into the queue. While the loop waits with no such event in the queue, every
    pixel is one that the backing buffer has had since the last announcement; if nothing has been painted
    since, the window shows the backing buffer. -/
structure Shown (s : State ι α) : Prop where
  answered : ∀ history, s.answered = some history → ∀ i, s.screen i ∈ history i
  announced : s.pc = .waiting → ¬Pending s → ∀ history, s.announced = some history →
    (∀ i, s.screen i ∈ history i) ∧ (history = .start s.backing → s.screen = s.backing)

/-! ## The invariant -/

/-- What a refresh has copied so far is no older than the history. -/
def Copied (s : State ι α) (history : History ι α) : Prop :=
  match s.pc with
  | .updating todo => Fresh history (↑todo : Set ι) s.texture
  | .clearing => Fresh history ∅ s.texture
  | .copying => Fresh history ∅ s.texture
  | .presenting => Fresh history ∅ s.target
  | _ => True

/-- The loop has answered an announcement, or is about to. -/
def CatchingUp (s : State ι α) (history : History ι α) : Prop :=
  match s.pc with
  | .updating todo => Fresh history (↑todo : Set ι) s.texture
  | .clearing => Fresh history ∅ s.texture
  | .copying => Fresh history ∅ s.texture
  | .presenting => Fresh history ∅ s.target
  | .waiting => Fresh history ∅ s.screen
  -- before the loop an announcement is pending
  | .notStarted => False
  | .registering => False
  | .creatingWindow => False
  | .creatingRenderer => False
  | .creatingTexture => False
  | .readying => False
  -- behind it nothing is drawn any more
  | _ => True

/-- What holds once something has been announced. -/
structure Announced (s : State ι α) (history : History ι α) : Prop where
  initialized : s.self.isSdlInitialized = true
  type : SDL_USEREVENT ≤ s.self.dirtyEventType
  tracks : Tracks history s.backing
  caught : Pending s ∨ CatchingUp s history

/-- **The invariant.** -/
structure Steady (s : State ι α) : Prop where
  unregistered : s.self.isSdlInitialized = false → s.self.dirtyEventType = 0
  registered : s.self.dirtyEventType ≠ 0 → SDL_USEREVENT ≤ s.self.dirtyEventType
  event : Tracks s.event.since s.backing
  queue : ∀ q ∈ s.queue, Tracks q.since s.backing
  copied : Copied s s.event.since
  answered : ∀ history, s.answered = some history → Fresh history ∅ s.screen
  announced : ∀ history, s.announced = some history → Announced s history

/-- What a step of the task leaves alone, but for taking an event and for drawing the window. -/
structure SameRecords (s s' : State ι α) : Prop where
  type : s'.self.dirtyEventType = s.self.dirtyEventType
  initialized : s'.self.isSdlInitialized = s.self.isSdlInitialized
  backing : s'.backing = s.backing
  event : s'.event = s.event
  queue : s'.queue = s.queue
  screen : s'.screen = s.screen
  answered : s'.answered = s.answered
  announced : s'.announced = s.announced

namespace Steady

variable {s s' : State ι α}

/-- A step that only moves the task on. -/
theorem advance (h : Steady s) (hsame : SameRecords s s')
    (hcopied : ∀ history, Tracks history s.backing → Copied s history → Copied s' history)
    (hcatching : ∀ history, Tracks history s.backing → CatchingUp s history → CatchingUp s' history) :
    Steady s' where
  unregistered := by
    rw [hsame.initialized, hsame.type]
    exact h.unregistered
  registered := by
    rw [hsame.type]
    exact h.registered
  event := by
    rw [hsame.event, hsame.backing]
    exact h.event
  queue := by
    rw [hsame.queue, hsame.backing]
    exact h.queue
  copied := by
    rw [hsame.event]
    exact hcopied _ h.event h.copied
  answered := by
    rw [hsame.answered, hsame.screen]
    exact h.answered
  announced := by
    intro history hsome
    rw [hsame.announced] at hsome
    obtain ⟨hinitialized, htype, htracks, hcaught⟩ := h.announced history hsome
    refine ⟨?_, ?_, ?_, ?_⟩
    · rw [hsame.initialized]
      exact hinitialized
    · rw [hsame.type]
      exact htype
    · rw [hsame.backing]
      exact htracks
    · rw [Pending, hsame.queue, hsame.type]
      exact hcaught.imp_right (hcatching history htracks)

/-- The task gives up. -/
theorem exit (h : Steady s) (dterr : Option DisplayDterr) : Steady (s.exit dterr) :=
  h.advance ⟨rfl, rfl, rfl, rfl, rfl, rfl, rfl, rfl⟩ (fun _ _ _ => trivial) fun _ _ _ => trivial

theorem leaveLoop (h : Steady s) (dterr : Option Dterr) : Steady (s.leaveLoop dterr) := h.exit _

theorem sdlErrorC (h : Steady s) (h' : Steady s') (err : ℤ) (sdlError : String) :
    Steady (s.sdlErrorC err sdlError s') := by
  unfold State.sdlErrorC
  split
  · exact h.leaveLoop _
  · exact h'

/-- A call of SDL changes nothing of this. -/
theorem called (h : Steady s) (call : SdlCall) : Steady (s.called call) :=
  h.advance ⟨rfl, rfl, rfl, rfl, rfl, rfl, rfl, rfl⟩ (fun _ _ hcopied => hcopied)
    fun _ _ hcatches => hcatches

/-! ### Attach and blit -/

/-- The task begins. Nothing was announced, because nothing is initialized. -/
theorem attach (h : Steady s) (start : Option Dterr) : Steady (s.attach start).1 := by
  unfold State.attach
  split
  · exact h
  · next hnot =>
      split
      · exact h
      · cases start with
        | some dterr => exact h
        | none =>
            exact ⟨h.unregistered, h.registered, h.event, h.queue, trivial, h.answered,
              fun history hsome => absurd (h.announced history hsome).initialized hnot⟩

/-- SDL queues an event. -/
theorem enqueue (h : Steady s) (event : SdlEvent) : Steady (s.enqueue event) where
  unregistered := h.unregistered
  registered := h.registered
  event := h.event
  queue := by
    intro q hmem
    rcases List.mem_append.1 hmem with hmem | hmem
    · exact h.queue q hmem
    · rw [List.mem_singleton.1 hmem]
      exact tracks_start s.backing
  copied := h.copied
  answered := h.answered
  announced := by
    intro history hsome
    obtain ⟨hinitialized, htype, htracks, hcaught⟩ := h.announced history hsome
    refine ⟨hinitialized, htype, htracks, hcaught.imp_left ?_⟩
    rintro ⟨q, hmem, heq⟩
    exact ⟨q, List.mem_append.2 (.inl hmem), heq⟩

/-- **A push.** What it announces is pending. -/
theorem push (h : Steady s) (accepted : Bool) : Steady (s.push accepted) := by
  unfold State.push
  cases accepted with
  | false =>
      exact h.advance ⟨rfl, rfl, rfl, rfl, rfl, rfl, rfl, rfl⟩ (fun _ _ hcopied => hcopied)
        fun _ _ hcatches => hcatches
  | true =>
      have henqueue := h.enqueue ⟨s.self.dirtyEventType, 0⟩
      refine ⟨henqueue.unregistered, henqueue.registered, henqueue.event, henqueue.queue,
        henqueue.copied, henqueue.answered, fun history hsome => ?_⟩
      by_cases hzero : s.self.dirtyEventType = 0
      · have hsome' : s.announced = some history := by
          rw [← hsome]
          exact (if_pos hzero).symm
        have htype := (h.announced history hsome').type
        rw [hzero] at htype
        exact absurd htype (by decide)
      · have hstart : some (History.start s.backing) = some history := by
          rw [← hsome]
          exact (if_neg hzero).symm
        obtain rfl := Option.some.inj hstart
        refine ⟨?_, h.registered hzero, tracks_start s.backing, .inl ?_⟩
        · cases hinit : s.self.isSdlInitialized with
          | true => exact hinit
          | false => exact absurd (h.unregistered hinit) hzero
        · exact ⟨⟨⟨s.self.dirtyEventType, 0⟩, .start s.backing⟩,
            List.mem_append.2 (.inr (List.mem_singleton.2 rfl)), rfl⟩

/-! ### Setup and teardown -/

/-- A step of the setup: before the loop nothing is copied. -/
theorem setup (h : Steady s) (hsame : SameRecords s s') (hcopied : ∀ history, Copied s' history)
    (hbefore : ∀ history, ¬CatchingUp s history) : Steady s' :=
  h.advance hsame (fun history _ _ => hcopied history) fun history _ hcatches =>
    absurd hcatches (hbefore history)

theorem registeredStep {type : UInt32} {sdlError : String} (h : Steady s)
    (hstep : s.registered type sdlError = some s') : Steady s' := by
  unfold State.registered at hstep
  split at hstep
  · obtain rfl := Option.some.inj hstep
    exact h.exit _
  · next hnot =>
      split at hstep
      · next htype =>
          have hnone : ∀ history, s.announced ≠ some history := fun history hsome =>
            hnot (h.announced history hsome).initialized
          have hset : ∀ pc, (∀ history, Copied { s with pc := pc } history) → Steady { s with
              self := { s.self with isSdlInitialized := true, dirtyEventType := type }, pc := pc } :=
            fun _ hcopied => ⟨fun hinit => Bool.noConfusion hinit, fun _ => htype, h.event, h.queue,
              hcopied _, h.answered, fun history hsome => absurd hsome (hnone history)⟩
          dsimp only at hstep
          split at hstep
          · obtain rfl := Option.some.inj hstep
            exact hset _ fun _ => trivial
          · obtain rfl := Option.some.inj hstep
            exact hset _ fun _ => trivial
      · cases hstep

theorem windowCreated (h : Steady s) (hpc : s.pc = .creatingWindow) (created : Bool)
    (sdlError : String) : Steady (s.windowCreated created sdlError) := by
  have hbefore : ∀ history, ¬CatchingUp s history := by simp [CatchingUp, hpc]
  cases created with
  | true => exact h.setup ⟨rfl, rfl, rfl, rfl, rfl, rfl, rfl, rfl⟩ (fun _ => trivial) hbefore
  | false => exact h.setup ⟨rfl, rfl, rfl, rfl, rfl, rfl, rfl, rfl⟩ (fun _ => trivial) hbefore

theorem rendererCreated (h : Steady s) (hpc : s.pc = .creatingRenderer) (created : Bool)
    (sdlError : String) : Steady (s.rendererCreated created sdlError) := by
  have hbefore : ∀ history, ¬CatchingUp s history := by simp [CatchingUp, hpc]
  cases created with
  | true => exact h.setup ⟨rfl, rfl, rfl, rfl, rfl, rfl, rfl, rfl⟩ (fun _ => trivial) hbefore
  | false => exact h.setup ⟨rfl, rfl, rfl, rfl, rfl, rfl, rfl, rfl⟩ (fun _ => trivial) hbefore

theorem textureCreated (h : Steady s) (hpc : s.pc = .creatingTexture) (created : Bool)
    (sdlError : String) (texture : ι → α) : Steady (s.textureCreated created sdlError texture) := by
  have hbefore : ∀ history, ¬CatchingUp s history := by simp [CatchingUp, hpc]
  cases created with
  | true => exact h.setup ⟨rfl, rfl, rfl, rfl, rfl, rfl, rfl, rfl⟩ (fun _ => trivial) hbefore
  | false => exact h.setup ⟨rfl, rfl, rfl, rfl, rfl, rfl, rfl, rfl⟩ (fun _ => trivial) hbefore

/-- The end of the task: nothing is drawn any more. -/
theorem ended (h : Steady s) (hsame : SameRecords s s') (hcopied : ∀ history, Copied s' history)
    (hcatching : ∀ history, CatchingUp s' history) : Steady s' :=
  h.advance hsame (fun history _ _ => hcopied history) fun history _ _ => hcatching history

theorem posted (h : Steady s) (dterr : Option DisplayDterr) (post : Option Dterr) :
    Steady (s.posted dterr post) := by
  unfold State.posted
  split
  · exact h.ended ⟨rfl, rfl, rfl, rfl, rfl, rfl, rfl, rfl⟩ (fun _ => trivial) fun _ => trivial
  · exact h.ended ⟨rfl, rfl, rfl, rfl, rfl, rfl, rfl, rfl⟩ (fun _ => trivial) fun _ => trivial

theorem teardown (h : Steady s) (hstep : s.teardown = some s') : Steady s' := by
  unfold State.teardown at hstep
  split at hstep
  · obtain rfl := Option.some.inj hstep
    split
    · exact h.ended ⟨rfl, rfl, rfl, rfl, rfl, rfl, rfl, rfl⟩ (fun _ => trivial) fun _ => trivial
    · exact h.ended ⟨rfl, rfl, rfl, rfl, rfl, rfl, rfl, rfl⟩ (fun _ => trivial) fun _ => trivial
  · obtain rfl := Option.some.inj hstep
    split
    · exact h.ended ⟨rfl, rfl, rfl, rfl, rfl, rfl, rfl, rfl⟩ (fun _ => trivial) fun _ => trivial
    · exact h.ended ⟨rfl, rfl, rfl, rfl, rfl, rfl, rfl, rfl⟩ (fun _ => trivial) fun _ => trivial
  · obtain rfl := Option.some.inj hstep
    split
    · exact h.ended ⟨rfl, rfl, rfl, rfl, rfl, rfl, rfl, rfl⟩ (fun _ => trivial) fun _ => trivial
    · exact h.ended ⟨rfl, rfl, rfl, rfl, rfl, rfl, rfl, rfl⟩ (fun _ => trivial) fun _ => trivial
  · obtain rfl := Option.some.inj hstep
    split
    · exact h.ended ⟨rfl, rfl, rfl, rfl, rfl, rfl, rfl, rfl⟩ (fun _ => trivial) fun _ => trivial
    · exact h.ended ⟨rfl, rfl, rfl, rfl, rfl, rfl, rfl, rfl⟩ (fun _ => trivial) fun _ => trivial
  · cases hstep

/-! ### The event loop -/

/-- An event that is of the registered type is answered, or ends the loop. -/
theorem handleEvent_ne_ignored {self : Display} {event : SdlEvent}
    (htype : SDL_USEREVENT ≤ self.dirtyEventType) (hevent : event.type = self.dirtyEventType) :
    State.handleEvent self .event event ≠ .ignored := by
  have hwindow : event.type ≠ SDL_WINDOWEVENT := by
    rw [hevent]
    intro heq
    rw [heq] at htype
    exact absurd htype (by decide)
  simp only [State.handleEvent, if_neg hwindow, if_pos hevent]
  split
  · exact State.Handled.noConfusion
  · exact State.Handled.noConfusion

variable [Fintype ι]

/-- What the loop does after a wait. -/
theorem afterWait_cases (s : State ι α) (result : WaitResult) :
    s.afterWait result = s.leaveLoop none ∨
      s.afterWait result = { s with pc := .updating Finset.univ } ∨
      State.handleEvent s.self result s.event.event = .ignored ∧
        s.afterWait result = { s with pc := .waiting } := by
  unfold State.afterWait
  split
  · exact .inl rfl
  · cases hhandled : State.handleEvent s.self result s.event.event with
    | ignored => exact .inr (.inr ⟨rfl, rfl⟩)
    | shouldQuit => exact .inl rfl
    | renderDirty => exact .inr (.inl rfl)

/-- When a refresh begins, every pixel is to be copied. -/
theorem fresh_updating (history : History ι α) (texture : ι → α) :
    Fresh history (↑(Finset.univ : Finset ι) : Set ι) texture := by
  rw [Finset.coe_univ]
  exact fresh_univ history texture

/-- An event is taken from the queue. If it is an announcement, it is answered. -/
theorem take (h : Steady s) (hpc : s.pc = .waiting) {q : Queued ι α} {queue : List (Queued ι α)}
    (hqueue : s.queue = q :: queue) :
    Steady ((s.take q queue).afterWait .event) := by
  have hmem : ∀ {p}, p ∈ queue → p ∈ s.queue := fun hp => hqueue ▸ List.mem_cons_of_mem _ hp
  have htaken : ∀ pc, (∀ history, Copied { s with pc := pc } history) →
      (∀ history, Announced s history →
        (∃ p ∈ queue, p.event.type = s.self.dirtyEventType) ∨ CatchingUp { s with pc := pc } history) →
      Steady { s.take q queue with pc := pc } := by
    intro pc hcopied hcaught
    refine ⟨h.unregistered, h.registered, ?_, fun p hp => h.queue p (hmem hp), hcopied _, h.answered,
      fun history hsome => ?_⟩
    · exact h.queue q (hqueue ▸ List.mem_cons_self)
    · have hbefore := h.announced history hsome
      exact ⟨hbefore.initialized, hbefore.type, hbefore.tracks, hcaught history hbefore⟩
  rcases afterWait_cases (s.take q queue) .event with heq | heq | ⟨hignored, heq⟩
  · rw [heq]
    exact htaken _ (fun _ => trivial) fun _ _ => .inr trivial
  · rw [heq]
    exact htaken _ (fun history => fresh_updating history s.texture)
      fun history _ => .inr (fresh_updating history s.texture)
  · rw [heq]
    refine htaken _ (fun _ => trivial) fun history hbefore => ?_
    rcases hbefore.caught with ⟨p, hp, htype⟩ | hcatches
    · rw [hqueue] at hp
      rcases List.mem_cons.1 hp with rfl | hp
      · exact absurd hignored (handleEvent_ne_ignored hbefore.type htype)
      · exact .inl ⟨p, hp, htype⟩
    · refine .inr ?_
      simpa only [CatchingUp, hpc] using hcatches

theorem waitReturns (h : Steady s) (hpc : s.pc = .waiting) {result : WaitResult}
    (hstep : s.waitReturns result = some s') : Steady s' := by
  cases result with
  | event =>
      cases hqueue : s.queue with
      | nil => simp [State.waitReturns, hqueue] at hstep
      | cons q queue =>
          simp only [State.waitReturns, hqueue, Option.some.injEq] at hstep
          rw [← hstep]
          exact h.take hpc hqueue
  | noEvent sdlError =>
      obtain rfl := Option.some.inj hstep
      rcases afterWait_cases s (.noEvent sdlError) with heq | heq | ⟨-, heq⟩
      · rw [heq]
        exact h.leaveLoop none
      · rw [heq]
        exact h.ended ⟨rfl, rfl, rfl, rfl, rfl, rfl, rfl, rfl⟩
          (fun history => fresh_updating history s.texture)
          fun history => fresh_updating history s.texture
      · rw [heq]
        refine h.advance ⟨rfl, rfl, rfl, rfl, rfl, rfl, rfl, rfl⟩ (fun _ _ _ => trivial) ?_
        intro history _ hcatches
        simpa only [CatchingUp, hpc] using hcatches

omit [Fintype ι] in
/-- The window is drawn: it shows what the event was answered with. -/
theorem present (h : Steady s) (hpc : s.pc = .presenting) :
    Steady { s.called .renderPresent with
      pc := .waiting, screen := s.target, answered := some s.event.since } where
  unregistered := h.unregistered
  registered := h.registered
  event := h.event
  queue := h.queue
  copied := trivial
  answered := by
    intro history hsome
    obtain rfl := Option.some.inj hsome
    simpa only [Copied, hpc] using h.copied
  announced := by
    intro history hsome
    obtain ⟨hinitialized, htype, htracks, hcaught⟩ := h.announced history hsome
    refine ⟨hinitialized, htype, htracks, hcaught.imp_right fun hcatches => ?_⟩
    simpa only [CatchingUp, hpc] using hcatches

/-! ### Painting -/

variable [DecidableEq ι]

omit [Fintype ι] in
/-- A write of the backing buffer leaves what has been copied as fresh as it was. -/
theorem copied_paint {history : History ι α} (hcopied : Copied s history) (i : ι) (v : α) :
    Copied (s.paint i v) (history.note i v) := by
  cases hpc : s.pc with
  | updating todo =>
      simp only [Copied, State.paint, hpc] at hcopied ⊢
      exact hcopied.write i v
  | clearing =>
      simp only [Copied, State.paint, hpc] at hcopied ⊢
      exact hcopied.write i v
  | copying =>
      simp only [Copied, State.paint, hpc] at hcopied ⊢
      exact hcopied.write i v
  | presenting =>
      simp only [Copied, State.paint, hpc] at hcopied ⊢
      exact hcopied.write i v
  | _ => simp only [Copied, State.paint, hpc]

omit [Fintype ι] in
theorem catchingUp_paint {history : History ι α} (hcatches : CatchingUp s history) (i : ι) (v : α) :
    CatchingUp (s.paint i v) (history.note i v) := by
  cases hpc : s.pc with
  | updating todo =>
      simp only [CatchingUp, State.paint, hpc] at hcatches ⊢
      exact hcatches.write i v
  | clearing =>
      simp only [CatchingUp, State.paint, hpc] at hcatches ⊢
      exact hcatches.write i v
  | copying =>
      simp only [CatchingUp, State.paint, hpc] at hcatches ⊢
      exact hcatches.write i v
  | presenting =>
      simp only [CatchingUp, State.paint, hpc] at hcatches ⊢
      exact hcatches.write i v
  | waiting =>
      simp only [CatchingUp, State.paint, hpc] at hcatches ⊢
      exact hcatches.write i v
  | _ => simp only [CatchingUp, State.paint, hpc] at hcatches ⊢

omit [Fintype ι] in
/-- A pixel is painted: what it was before stays in the histories. -/
theorem paint (h : Steady s) (i : ι) (v : α) : Steady (s.paint i v) where
  unregistered := h.unregistered
  registered := h.registered
  event := h.event.write i v
  queue := by
    intro q hmem
    obtain ⟨p, hp, rfl⟩ := List.mem_map.1 hmem
    exact (h.queue p hp).write i v
  copied := copied_paint h.copied i v
  answered := by
    intro history hsome
    obtain ⟨before, hbefore, rfl⟩ := Option.map_eq_some_iff.1 hsome
    exact (h.answered before hbefore).write i v
  announced := by
    intro history hsome
    obtain ⟨before, hbefore, rfl⟩ := Option.map_eq_some_iff.1 hsome
    obtain ⟨hinitialized, htype, htracks, hcaught⟩ := h.announced before hbefore
    refine ⟨hinitialized, htype, htracks.write i v, ?_⟩
    rcases hcaught with ⟨q, hmem, heq⟩ | hcatches
    · exact .inl ⟨q.note i v, List.mem_map.2 ⟨q, hmem, rfl⟩, heq⟩
    · exact .inr (catchingUp_paint hcatches i v)

/-! ### Steps -/

/-- A step of the task. -/
theorem taskStep (h : Steady s) {e : TaskEvent ι α} (hstep : s.taskStep e = some s') : Steady s' := by
  cases e with
  | registered type sdlError =>
      simp only [State.taskStep] at hstep
      split at hstep
      · exact h.registeredStep hstep
      · cases hstep
  | windowCreated created sdlError =>
      simp only [State.taskStep] at hstep
      split at hstep
      · next hpc =>
          obtain rfl := Option.some.inj hstep
          exact h.windowCreated hpc created sdlError
      · cases hstep
  | rendererCreated created sdlError =>
      simp only [State.taskStep] at hstep
      split at hstep
      · next hpc =>
          obtain rfl := Option.some.inj hstep
          exact h.rendererCreated hpc created sdlError
      · cases hstep
  | textureCreated created sdlError texture =>
      simp only [State.taskStep] at hstep
      split at hstep
      · next hpc =>
          obtain rfl := Option.some.inj hstep
          exact h.textureCreated hpc created sdlError texture
      · cases hstep
  | ready dterr =>
      simp only [State.taskStep] at hstep
      split at hstep
      · next hpc =>
          cases dterr with
          | some dterr =>
              obtain rfl := Option.some.inj hstep
              exact h.exit _
          | none =>
              obtain rfl := Option.some.inj hstep
              exact h.setup ⟨rfl, rfl, rfl, rfl, rfl, rfl, rfl, rfl⟩ (fun _ => trivial)
                (by simp [CatchingUp, hpc])
      · cases hstep
  | waitReturns result =>
      simp only [State.taskStep] at hstep
      split at hstep
      · next hpc => exact h.waitReturns hpc hstep
      · cases hstep
  | copyPixel i =>
      simp only [State.taskStep] at hstep
      split at hstep
      · next todo hpc =>
          obtain ⟨-, hs⟩ := Option.ite_none_right_eq_some.1 hstep
          obtain rfl := Option.some.inj hs
          have hcopy : ∀ history, Tracks history s.backing →
              Fresh history (↑todo : Set ι) s.texture →
              Fresh history (↑(todo.erase i) : Set ι) (Function.update s.texture i (s.backing i)) := by
            intro history htracks hfresh
            rw [Finset.coe_erase]
            exact hfresh.copyCell htracks i
          refine h.advance ⟨rfl, rfl, rfl, rfl, rfl, rfl, rfl, rfl⟩ ?_ ?_
          · intro history htracks hcopied
            simp only [Copied, hpc] at hcopied ⊢
            exact hcopy history htracks hcopied
          · intro history htracks hcatches
            simp only [CatchingUp, hpc] at hcatches ⊢
            exact hcopy history htracks hcatches
      · cases hstep
  | updated err sdlError =>
      simp only [State.taskStep] at hstep
      split at hstep
      · next todo hpc =>
          obtain ⟨hdone, hs⟩ := Option.ite_none_right_eq_some.1 hstep
          obtain rfl := Option.some.inj hs
          by_cases herr : err < 0
          · rw [State.sdlErrorC, if_pos herr]
            exact (h.called _).leaveLoop _
          · have hall : todo = ∅ := hdone.resolve_left herr
            refine (h.called _).sdlErrorC ?_ err sdlError
            refine h.advance ⟨rfl, rfl, rfl, rfl, rfl, rfl, rfl, rfl⟩ ?_ ?_
            · intro history _ hcopied
              simpa [Copied, State.called, hpc, hall] using hcopied
            · intro history _ hcatches
              simpa [CatchingUp, State.called, hpc, hall] using hcatches
      · cases hstep
  | cleared err sdlError =>
      simp only [State.taskStep] at hstep
      split at hstep
      · next hpc =>
          obtain rfl := Option.some.inj hstep
          refine (h.called _).sdlErrorC ?_ err sdlError
          refine h.advance ⟨rfl, rfl, rfl, rfl, rfl, rfl, rfl, rfl⟩ ?_ ?_
          · intro history _ hcopied
            simpa only [Copied, State.called, hpc] using hcopied
          · intro history _ hcatches
            simpa only [CatchingUp, State.called, hpc] using hcatches
      · cases hstep
  | copied err sdlError =>
      simp only [State.taskStep] at hstep
      split at hstep
      · next hpc =>
          obtain rfl := Option.some.inj hstep
          refine (h.called _).sdlErrorC ?_ err sdlError
          refine h.advance ⟨rfl, rfl, rfl, rfl, rfl, rfl, rfl, rfl⟩ ?_ ?_
          · intro history _ hcopied
            simpa only [Copied, State.called, hpc] using hcopied
          · intro history _ hcatches
            simpa only [CatchingUp, State.called, hpc] using hcatches
      · cases hstep
  | presented =>
      simp only [State.taskStep] at hstep
      split at hstep
      · next hpc =>
          obtain rfl := Option.some.inj hstep
          exact h.present hpc
      · cases hstep
  | posted post =>
      simp only [State.taskStep] at hstep
      split at hstep
      · obtain rfl := Option.some.inj hstep
        exact h.posted _ post
      · cases hstep
  | teardown => exact h.teardown hstep

/-- **One step keeps the invariant.** -/
theorem step (h : Steady s) {e : Event ι α} (hstep : s.step e = some s') : Steady s' := by
  -- the other calls of the application leave everything to the task
  have hsame : ∀ {s₁ : State ι α}, SameRecords s s₁ → s₁.pc = s.pc → s₁.texture = s.texture →
      s₁.target = s.target → Steady s₁ := by
    intro s₁ hrecords hpc htexture htarget
    refine h.advance hrecords ?_ ?_
    · intro history _ hcopied
      simpa only [Copied, hpc, htexture, htarget] using hcopied
    · intro history _ hcatches
      simpa only [CatchingUp, hpc, htexture, htarget, hrecords.screen] using hcatches
  cases e with
  | attach start =>
      obtain rfl := Option.some.inj hstep
      exact h.attach start
  | detach =>
      obtain rfl := Option.some.inj hstep
      exact hsame ⟨rfl, rfl, rfl, rfl, rfl, rfl, rfl, rfl⟩ rfl rfl rfl
  | blit =>
      obtain rfl := Option.some.inj hstep
      exact hsame ⟨rfl, rfl, rfl, rfl, rfl, rfl, rfl, rfl⟩ rfl rfl rfl
  | paint i v =>
      obtain ⟨-, hs⟩ := Option.ite_none_right_eq_some.1 hstep
      obtain rfl := Option.some.inj hs
      exact h.paint i v
  | blitFails =>
      obtain ⟨-, hs⟩ := Option.ite_none_right_eq_some.1 hstep
      obtain rfl := Option.some.inj hs
      exact hsame ⟨rfl, rfl, rfl, rfl, rfl, rfl, rfl, rfl⟩ rfl rfl rfl
  | push accepted =>
      obtain ⟨-, hs⟩ := Option.ite_none_right_eq_some.1 hstep
      obtain rfl := Option.some.inj hs
      exact h.push accepted
  | sdl event =>
      obtain rfl := Option.some.inj hstep
      exact h.enqueue event
  | task e => exact h.taskStep hstep

omit [Fintype ι] [DecidableEq ι] in
theorem shown (h : Steady s) : Shown s where
  answered := fun history hsome i => h.answered history hsome i (Set.notMem_empty i)
  announced := by
    intro hpc hnot history hsome
    have hcatches := (h.announced history hsome).caught.resolve_left hnot
    simp only [CatchingUp, hpc] at hcatches
    refine ⟨fun i => hcatches i (Set.notMem_empty i), ?_⟩
    rintro rfl
    exact hcatches.eq_of_start

end Steady

theorem steady_configured (joinSemaphore : Bool) (backing : ι → α) (event : SdlEvent)
    (screen : ι → α) : Steady (.configured joinSemaphore backing event screen) where
  unregistered := fun _ => rfl
  registered := fun hne => absurd rfl hne
  event := tracks_start backing
  queue := fun _ hmem => absurd hmem List.not_mem_nil
  copied := trivial
  answered := fun _ hsome => by cases hsome
  announced := fun _ hsome => by cases hsome

/-- **The window catches up, in every run.** Any number of blits paint while the event loop copies, and
    SDL answers in any way. No pixel of the window is ever older than the event it was drawn for.
    Whenever the loop waits with no announcement in the queue, none is older than the last
    announcement, and if nothing has been painted since, the window shows the backing buffer. -/
theorem window_catches_up [Fintype ι] [DecidableEq ι] (joinSemaphore : Bool) (backing : ι → α)
    (event : SdlEvent) (screen : ι → α) (es : List (Event ι α)) :
    Run.AllStates State.step Shown (.configured joinSemaphore backing event screen) es := by
  have hrun : Run.AllStates State.step Steady
      (.configured joinSemaphore backing event screen : State ι α) es :=
    Run.allStates_of_invariant (fun _ _ _ h hstep => h.step hstep) es _
      (steady_configured joinSemaphore backing event screen)
  exact hrun.imp fun _ h => h.shown

end DtdisplayLinuxSdl
