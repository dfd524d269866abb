import DtmcLinux.DtdisplayLinuxSdl.Basic
import DtmcLinux.Foundation.FairRun

set_option autoImplicit false

/-! # The objects of SDL

SDL asks for an order: a renderer belongs to a window and a texture to a renderer, each is used while it
exists and destroyed before what it belongs to, and nothing is called after `SDL_Quit`. `SdlUse` states
these rules. The task keeps them in every run, and leaves nothing behind. -/

namespace DtdisplayLinuxSdl

/-! ## The rules -/

/-- What exists, and whether `SDL_Quit` was called. -/
structure SdlUse where
  window : Bool
  renderer : Bool
  texture : Bool
  hasQuit : Bool
  deriving DecidableEq

/-- Before the first call. -/
def SdlUse.initial : SdlUse := ⟨false, false, false, false⟩

/-- The use after a call, if it is allowed. -/
def SdlUse.call (u : SdlUse) : SdlCall → Option SdlUse
  | .createWindow created =>
    if !u.window && !u.hasQuit then some { u with window := created } else none
  | .createRenderer created =>
    if u.window && !u.renderer then some { u with renderer := created } else none
  | .createTexture created =>
    if u.renderer && !u.texture then some { u with texture := created } else none
  | .updateTexture => if u.texture then some u else none
  | .renderClear => if u.renderer then some u else none
  | .renderCopy => if u.renderer && u.texture then some u else none
  | .renderPresent => if u.renderer then some u else none
  | .destroyTexture => if u.texture then some { u with texture := false } else none
  | .destroyRenderer => if u.renderer && !u.texture then some { u with renderer := false } else none
  | .destroyWindow => if u.window && !u.renderer then some { u with window := false } else none
  | .quit => if !u.window && !u.hasQuit then some { u with hasQuit := true } else none

/-! ## The invariant -/

variable {ι α : Type*}

/-- What exists while the task is at `pc`. -/
def usedAt (pc : LoopPc ι) (self : Display) : SdlUse :=
  match pc with
  | .destroyingRenderer _ => ⟨self.sdlWindow, self.sdlRenderer, false, false⟩
  | .destroyingWindow _ => ⟨self.sdlWindow, false, false, false⟩
  | .quitting _ => ⟨false, false, false, false⟩
  | .returned _ => ⟨false, false, false, true⟩
  | _ => ⟨self.sdlWindow, self.sdlRenderer, self.sdlTexture, false⟩

/-- The object while the task has not begun its setup. -/
def Untouched (self : Display) : Prop :=
  self.isSdlInitialized = false ∧ self.sdlWindow = false ∧ self.sdlRenderer = false ∧
    self.sdlTexture = false

/-- The object after the setup has got so far. -/
def SetUp (self : Display) (window renderer texture : Bool) : Prop :=
  self.isSdlInitialized = true ∧ self.sdlWindow = window ∧ self.sdlRenderer = renderer ∧
    self.sdlTexture = texture

/-- An SDL object exists only if what it belongs to exists. -/
def Nested (self : Display) : Prop :=
  self.isSdlInitialized = true ∧ (self.sdlTexture = true → self.sdlRenderer = true) ∧
    (self.sdlRenderer = true → self.sdlWindow = true)

/-- The pointers of the object while the task is at `pc`. -/
def SetAt (pc : LoopPc ι) (self : Display) : Prop :=
  match pc with
  | .notStarted => Untouched self
  | .registering => Untouched self
  | .creatingWindow => SetUp self false false false
  | .creatingRenderer => SetUp self true false false
  | .creatingTexture => SetUp self true true false
  | .readying => SetUp self true true true
  | .waiting => SetUp self true true true
  | .updating _ => SetUp self true true true
  | .clearing => SetUp self true true true
  | .copying => SetUp self true true true
  | .presenting => SetUp self true true true
  | _ => Nested self

/-- The post on `join_semaphore` has been made. -/
def LoopPc.posted : LoopPc ι → Bool
  | .destroyingTexture _ => true
  | .destroyingRenderer _ => true
  | .destroyingWindow _ => true
  | .quitting _ => true
  | .returned _ => true
  | _ => false

/-- **The invariant.** -/
structure Orderly (s : State ι α) : Prop where
  use : Run.exec SdlUse.call .initial s.calls = some (usedAt s.pc s.self)
  set : SetAt s.pc s.self
  posts : s.joinPosts = if s.self.joinSemaphore && s.pc.posted then 1 else 0

/-- Before the teardown what the pointers say exists. -/
theorem usedAt_of_not_posted {pc : LoopPc ι} (h : pc.posted = false) (self : Display) :
    usedAt pc self = ⟨self.sdlWindow, self.sdlRenderer, self.sdlTexture, false⟩ := by
  cases pc with
  | destroyingTexture dterr => cases h
  | destroyingRenderer dterr => cases h
  | destroyingWindow dterr => cases h
  | quitting dterr => cases h
  | returned dterr => cases h
  | _ => rfl

theorem SetUp.nested {self : Display} {window renderer texture : Bool}
    (h : SetUp self window renderer texture) (htexture : texture = true → renderer = true)
    (hrenderer : renderer = true → window = true) : Nested self := by
  obtain ⟨hinitialized, rfl, rfl, rfl⟩ := h
  exact ⟨hinitialized, htexture, hrenderer⟩

namespace Orderly

variable {s s' : State ι α}

/-- A step that makes no call. -/
theorem keep (h : Orderly s) (hcalls : s'.calls = s.calls) (hposts : s'.joinPosts = s.joinPosts)
    (hsemaphore : s'.self.joinSemaphore = s.self.joinSemaphore) (hposted : s'.pc.posted = s.pc.posted)
    (hused : usedAt s'.pc s'.self = usedAt s.pc s.self) (hset : SetAt s'.pc s'.self) : Orderly s' where
  use := by
    rw [hcalls, hused]
    exact h.use
  set := hset
  posts := by
    rw [hposts, hsemaphore, hposted]
    exact h.posts

/-- A step that makes a call. -/
theorem call (h : Orderly s) (call : SdlCall) (hcalls : s'.calls = s.calls ++ [call])
    (hposts : s'.joinPosts = s.joinPosts)
    (hsemaphore : s'.self.joinSemaphore = s.self.joinSemaphore) (hposted : s'.pc.posted = s.pc.posted)
    (hused : (usedAt s.pc s.self).call call = some (usedAt s'.pc s'.self))
    (hset : SetAt s'.pc s'.self) : Orderly s' where
  use := by
    rw [hcalls, Run.exec_append, h.use, Option.bind_some]
    simp only [Run.exec_cons, hused, Option.bind_some, Run.exec_nil]
  set := hset
  posts := by
    rw [hposts, hsemaphore, hposted]
    exact h.posts

/-- The task gives up. -/
theorem exit (h : Orderly s) (hposted : s.pc.posted = false) (hnested : Nested s.self)
    (dterr : Option DisplayDterr) : Orderly (s.exit dterr) := by
  refine h.keep rfl rfl rfl ?_ ?_ hnested
  · rw [hposted]
    rfl
  · rw [usedAt_of_not_posted hposted]
    rfl

/-! ### Setup -/

theorem attach (h : Orderly s) (start : Option Dterr) : Orderly (s.attach start).1 := by
  unfold State.attach
  split
  · exact h
  · next hnot =>
      split
      · exact h
      · next halive =>
          cases start with
          | some dterr => exact h
          | none =>
              cases hpc : s.pc with
              | notStarted =>
                  have hset := h.set
                  rw [hpc] at hset
                  exact h.keep rfl rfl rfl (by rw [hpc]; rfl) (by rw [hpc]; rfl) hset
              | returned dterr =>
                  -- the setup has been made once
                  have hset := h.set
                  rw [hpc] at hset
                  exact absurd hset.1 hnot
              | _ => simp [hpc, LoopPc.alive] at halive

theorem registeredStep (h : Orderly s) (hpc : s.pc = .registering) {type : UInt32} {sdlError : String}
    (hstep : s.registered type sdlError = some s') : Orderly s' := by
  have hset := h.set
  rw [hpc] at hset
  obtain ⟨hinitialized, hwindow, hrenderer, htexture⟩ := hset
  have hposted : s.pc.posted = false := by
    rw [hpc]
    rfl
  unfold State.registered at hstep
  rw [if_neg (by rw [hinitialized]; exact Bool.false_ne_true)] at hstep
  obtain ⟨-, hs⟩ := Option.ite_none_right_eq_some.1 hstep
  dsimp only at hs
  split at hs
  · obtain rfl := Option.some.inj hs
    refine h.keep rfl rfl rfl hposted.symm (usedAt_of_not_posted hposted s.self).symm ⟨rfl, ?_, ?_⟩
    · exact fun hexists => absurd (htexture.symm.trans hexists) Bool.false_ne_true
    · exact fun hexists => absurd (hrenderer.symm.trans hexists) Bool.false_ne_true
  · obtain rfl := Option.some.inj hs
    exact h.keep rfl rfl rfl hposted.symm (usedAt_of_not_posted hposted s.self).symm
      ⟨rfl, hwindow, hrenderer, htexture⟩

theorem windowCreated (h : Orderly s) (hpc : s.pc = .creatingWindow) (created : Bool)
    (sdlError : String) : Orderly (s.windowCreated created sdlError) := by
  have hset := h.set
  rw [hpc] at hset
  obtain ⟨hinitialized, hwindow, hrenderer, htexture⟩ := hset
  have hused : ∀ pc : LoopPc ι, pc.posted = false →
      (usedAt s.pc s.self).call (.createWindow created) =
        some (usedAt pc { s.self with sdlWindow := created }) := by
    intro pc hposted
    rw [usedAt_of_not_posted hposted]
    simp [hpc, usedAt, SdlUse.call, hwindow, hrenderer, htexture]
  cases created with
  | true =>
      exact h.call _ rfl rfl rfl (by rw [hpc]; rfl) (hused _ rfl)
        ⟨hinitialized, rfl, hrenderer, htexture⟩
  | false =>
      refine h.call _ rfl rfl rfl (by rw [hpc]; rfl) (hused _ rfl) ⟨hinitialized, ?_, ?_⟩
      · exact fun hexists => absurd (htexture.symm.trans hexists) Bool.false_ne_true
      · exact fun hexists => absurd (hrenderer.symm.trans hexists) Bool.false_ne_true

theorem rendererCreated (h : Orderly s) (hpc : s.pc = .creatingRenderer) (created : Bool)
    (sdlError : String) : Orderly (s.rendererCreated created sdlError) := by
  have hset := h.set
  rw [hpc] at hset
  obtain ⟨hinitialized, hwindow, hrenderer, htexture⟩ := hset
  have hused : ∀ pc : LoopPc ι, pc.posted = false →
      (usedAt s.pc s.self).call (.createRenderer created) =
        some (usedAt pc { s.self with sdlRenderer := created }) := by
    intro pc hposted
    rw [usedAt_of_not_posted hposted]
    simp [hpc, usedAt, SdlUse.call, hwindow, hrenderer, htexture]
  cases created with
  | true =>
      exact h.call _ rfl rfl rfl (by rw [hpc]; rfl) (hused _ rfl) ⟨hinitialized, hwindow, rfl, htexture⟩
  | false =>
      refine h.call _ rfl rfl rfl (by rw [hpc]; rfl) (hused _ rfl) ⟨hinitialized, ?_, ?_⟩
      · exact fun hexists => absurd (htexture.symm.trans hexists) Bool.false_ne_true
      · exact fun hexists => absurd hexists Bool.false_ne_true

theorem textureCreated (h : Orderly s) (hpc : s.pc = .creatingTexture) (created : Bool)
    (sdlError : String) (texture : ι → α) : Orderly (s.textureCreated created sdlError texture) := by
  have hset := h.set
  rw [hpc] at hset
  obtain ⟨hinitialized, hwindow, hrenderer, htexture⟩ := hset
  have hused : ∀ pc : LoopPc ι, pc.posted = false →
      (usedAt s.pc s.self).call (.createTexture created) =
        some (usedAt pc { s.self with sdlTexture := created }) := by
    intro pc hposted
    rw [usedAt_of_not_posted hposted]
    simp [hpc, usedAt, SdlUse.call, hwindow, hrenderer, htexture]
  cases created with
  | true =>
      exact h.call _ rfl rfl rfl (by rw [hpc]; rfl) (hused _ rfl) ⟨hinitialized, hwindow, hrenderer, rfl⟩
  | false =>
      refine h.call _ rfl rfl rfl (by rw [hpc]; rfl) (hused _ rfl) ⟨hinitialized, ?_, ?_⟩
      · exact fun hexists => absurd hexists Bool.false_ne_true
      · exact fun _ => hwindow

/-! ### The event loop -/

/-- In the loop: everything is set up. -/
theorem leaveLoop (h : Orderly s) (hposted : s.pc.posted = false) (hset : SetUp s.self true true true)
    (dterr : Option Dterr) : Orderly (s.leaveLoop dterr) :=
  h.exit hposted (hset.nested (fun _ => rfl) fun _ => rfl) _

/-- A step of the loop that makes no call. -/
theorem loop (h : Orderly s) (hposted : s.pc.posted = false) (hself : s'.self = s.self) (hcalls : s'.calls = s.calls) (hposts : s'.joinPosts = s.joinPosts)
    (hposted' : s'.pc.posted = false) (hset' : SetAt s'.pc s.self) : Orderly s' := by
  refine h.keep hcalls hposts (by rw [hself]) (by rw [hposted, hposted']) ?_ ?_
  · rw [usedAt_of_not_posted hposted, usedAt_of_not_posted hposted', hself]
  · rw [hself]
    exact hset'

/-- A call that uses what is set up. -/
theorem called (h : Orderly s) (hposted : s.pc.posted = false) (hset : SetUp s.self true true true)
    {call : SdlCall} (hcall : SdlUse.call ⟨true, true, true, false⟩ call = some ⟨true, true, true, false⟩) :
    Orderly (s.called call) := by
  refine h.call call rfl rfl rfl rfl ?_ h.set
  obtain ⟨-, hwindow, hrenderer, htexture⟩ := hset
  show (usedAt s.pc s.self).call call = some (usedAt s.pc s.self)
  rw [usedAt_of_not_posted hposted, hwindow, hrenderer, htexture]
  exact hcall

/-- A call under `DTDISPLAY_SDLERROR_C`. -/
theorem sdlErrorC (h : Orderly s) (hposted : s.pc.posted = false) (hset : SetUp s.self true true true)
    {call : SdlCall} (hcall : SdlUse.call ⟨true, true, true, false⟩ call = some ⟨true, true, true, false⟩)
    (err : ℤ) (sdlError : String) (hself : s'.self = s.self) (hcalls : s'.calls = s.calls ++ [call])
    (hposts : s'.joinPosts = s.joinPosts) (hposted' : s'.pc.posted = false)
    (hset' : SetAt s'.pc s.self) : Orderly ((s.called call).sdlErrorC err sdlError s') := by
  have hcalled := h.called hposted hset hcall
  unfold State.sdlErrorC
  split
  · exact hcalled.leaveLoop hposted hset _
  · exact hcalled.loop hposted hself hcalls hposts hposted' hset'

/-! ### Teardown -/

theorem posted (h : Orderly s) {dterr : Option DisplayDterr} (hpc : s.pc = .posting dterr)
    (post : Option Dterr) : Orderly (s.posted dterr post) := by
  have hset := h.set
  have huse := h.use
  have hposts := h.posts
  rw [hpc] at hset huse hposts
  have hzero : s.joinPosts = 0 := by
    rw [hposts]
    simp [LoopPc.posted]
  unfold State.posted
  split
  · next hsemaphore =>
      refine ⟨huse, hset, ?_⟩
      simp [hzero, hsemaphore, LoopPc.posted]
  · next hsemaphore =>
      refine ⟨huse, hset, ?_⟩
      simp [hzero, hsemaphore]

/-- A step of the teardown: what exists is destroyed. -/
theorem destroy (h : Orderly s) (pointer : Bool) (call : SdlCall) {pc : LoopPc ι}
    (hposted : s.pc.posted = true) (hposted' : pc.posted = true) (hset : SetAt pc s.self)
    (hexists : pointer = true → (usedAt s.pc s.self).call call = some (usedAt pc s.self))
    (hnone : pointer = false → usedAt pc s.self = usedAt s.pc s.self) :
    Orderly { (if pointer then s.called call else s) with pc := pc } := by
  cases pointer with
  | true => exact h.call call rfl rfl rfl (hposted'.trans hposted.symm) (hexists rfl) hset
  | false => exact h.keep rfl rfl rfl (hposted'.trans hposted.symm) (hnone rfl) hset

theorem teardown (h : Orderly s) (hstep : s.teardown = some s') : Orderly s' := by
  have hset := h.set
  unfold State.teardown at hstep
  split at hstep
  · next dterr hpc =>
      obtain rfl := Option.some.inj hstep
      rw [hpc] at hset
      refine h.destroy _ _ (by rw [hpc]; rfl) rfl hset (fun hexists => ?_) fun hnone => ?_
      · simp [hpc, usedAt, SdlUse.call, hexists]
      · simp [hpc, usedAt, hnone]
  · next dterr hpc =>
      obtain rfl := Option.some.inj hstep
      rw [hpc] at hset
      refine h.destroy _ _ (by rw [hpc]; rfl) rfl hset (fun hexists => ?_) fun hnone => ?_
      · simp [hpc, usedAt, SdlUse.call, hexists]
      · simp [hpc, usedAt, hnone]
  · next dterr hpc =>
      obtain rfl := Option.some.inj hstep
      rw [hpc] at hset
      refine h.destroy _ _ (by rw [hpc]; rfl) rfl hset (fun hexists => ?_) fun hnone => ?_
      · simp [hpc, usedAt, SdlUse.call, hexists]
      · simp [hpc, usedAt, hnone]
  · next dterr hpc =>
      obtain rfl := Option.some.inj hstep
      rw [hpc] at hset
      refine h.destroy _ _ (by rw [hpc]; rfl) rfl hset (fun hexists => ?_) fun hnone => ?_
      · simp [hpc, usedAt, SdlUse.call]
      · exact absurd hset.1 (by rw [hnone]; exact Bool.false_ne_true)
  · cases hstep

/-! ### Steps -/

variable [Fintype ι]

/-- The wait returns: nothing is called until the loop goes on. -/
theorem waitReturns (h : Orderly s) (hpc : s.pc = .waiting) {result : WaitResult}
    (hstep : s.waitReturns result = some s') : Orderly s' := by
  have hafter : ∀ {s₁ : State ι α}, Orderly s₁ → s₁.pc = .waiting →
      Orderly (s₁.afterWait result) := by
    intro s₁ h₁ hpc₁
    have hposted : s₁.pc.posted = false := by
      rw [hpc₁]
      rfl
    have hset := h₁.set
    rw [hpc₁] at hset
    unfold State.afterWait
    split
    · exact h₁.leaveLoop hposted hset none
    · split
      · exact h₁.loop hposted rfl rfl rfl rfl hset
      · exact h₁.leaveLoop hposted hset none
      · exact h₁.loop hposted rfl rfl rfl rfl hset
  cases result with
  | event =>
      cases hqueue : s.queue with
      | nil => simp [State.waitReturns, hqueue] at hstep
      | cons q queue =>
          simp only [State.waitReturns, hqueue, Option.some.injEq] at hstep
          rw [← hstep]
          exact hafter (h.keep rfl rfl rfl rfl rfl h.set) hpc
  | noEvent sdlError =>
      obtain rfl := Option.some.inj hstep
      exact hafter h hpc

variable [DecidableEq ι]

/-- A step of the task. -/
theorem taskStep (h : Orderly s) {e : TaskEvent ι α} (hstep : s.taskStep e = some s') :
    Orderly s' := by
  have hset := h.set
  cases e with
  | registered type sdlError =>
      simp only [State.taskStep] at hstep
      split at hstep
      · next hpc => exact h.registeredStep hpc hstep
      · cases hstep
  | windowCreated created sdlError =>
      simp only [State.taskStep] at hstep
      split at hstep
      · next hpc =>
          obtain rfl := Option.some.inj hstep
          exact h.windowCreated hpc created sdlError
      · cases hstep
  | rendererCreated created sdlError =>
      simp only [State.taskStep] at hstep
      split at hstep
      · next hpc =>
          obtain rfl := Option.some.inj hstep
          exact h.rendererCreated hpc created sdlError
      · cases hstep
  | textureCreated created sdlError texture =>
      simp only [State.taskStep] at hstep
      split at hstep
      · next hpc =>
          obtain rfl := Option.some.inj hstep
          exact h.textureCreated hpc created sdlError texture
      · cases hstep
  | ready dterr =>
      simp only [State.taskStep] at hstep
      split at hstep
      · next hpc =>
          rw [hpc] at hset
          have hposted : s.pc.posted = false := by
            rw [hpc]
            rfl
          cases dterr with
          | some dterr =>
              obtain rfl := Option.some.inj hstep
              exact h.exit hposted (SetUp.nested hset (fun _ => rfl) fun _ => rfl) _
          | none =>
              obtain rfl := Option.some.inj hstep
              exact h.loop hposted rfl rfl rfl rfl hset
      · cases hstep
  | waitReturns result =>
      simp only [State.taskStep] at hstep
      split at hstep
      · next hpc => exact h.waitReturns hpc hstep
      · cases hstep
  | copyPixel i =>
      simp only [State.taskStep] at hstep
      split at hstep
      · next todo hpc =>
          obtain ⟨-, hs⟩ := Option.ite_none_right_eq_some.1 hstep
          obtain rfl := Option.some.inj hs
          rw [hpc] at hset
          exact h.loop (by rw [hpc]; rfl) rfl rfl rfl rfl hset
      · cases hstep
  | updated err sdlError =>
      simp only [State.taskStep] at hstep
      split at hstep
      · next todo hpc =>
          obtain ⟨-, hs⟩ := Option.ite_none_right_eq_some.1 hstep
          obtain rfl := Option.some.inj hs
          rw [hpc] at hset
          exact h.sdlErrorC (by rw [hpc]; rfl) hset rfl err sdlError rfl rfl rfl rfl hset
      · cases hstep
  | cleared err sdlError =>
      simp only [State.taskStep] at hstep
      split at hstep
      · next hpc =>
          obtain rfl := Option.some.inj hstep
          rw [hpc] at hset
          exact h.sdlErrorC (by rw [hpc]; rfl) hset rfl err sdlError rfl rfl rfl rfl hset
      · cases hstep
  | copied err sdlError =>
      simp only [State.taskStep] at hstep
      split at hstep
      · next hpc =>
          obtain rfl := Option.some.inj hstep
          rw [hpc] at hset
          exact h.sdlErrorC (by rw [hpc]; rfl) hset rfl err sdlError rfl rfl rfl rfl hset
      · cases hstep
  | presented =>
      simp only [State.taskStep] at hstep
      split at hstep
      · next hpc =>
          obtain rfl := Option.some.inj hstep
          rw [hpc] at hset
          have hposted : s.pc.posted = false := by
            rw [hpc]
            rfl
          have hcalled : Orderly (s.called .renderPresent) := h.called hposted hset rfl
          exact hcalled.loop hposted rfl rfl rfl rfl hset
      · cases hstep
  | posted post =>
      simp only [State.taskStep] at hstep
      split at hstep
      · next dterr hpc =>
          obtain rfl := Option.some.inj hstep
          exact h.posted hpc post
      · cases hstep
  | teardown => exact h.teardown hstep

/-- **One step keeps the invariant.** -/
theorem step (h : Orderly s) {e : Event ι α} (hstep : s.step e = some s') : Orderly s' := by
  cases e with
  | attach start =>
      obtain rfl := Option.some.inj hstep
      exact h.attach start
  | detach =>
      obtain rfl := Option.some.inj hstep
      exact h.keep rfl rfl rfl rfl rfl h.set
  | blit =>
      obtain rfl := Option.some.inj hstep
      exact h.keep rfl rfl rfl rfl rfl h.set
  | paint i v =>
      obtain ⟨-, hs⟩ := Option.ite_none_right_eq_some.1 hstep
      obtain rfl := Option.some.inj hs
      exact h.keep rfl rfl rfl rfl rfl h.set
  | blitFails =>
      obtain ⟨-, hs⟩ := Option.ite_none_right_eq_some.1 hstep
      obtain rfl := Option.some.inj hs
      exact h.keep rfl rfl rfl rfl rfl h.set
  | push accepted =>
      obtain ⟨-, hs⟩ := Option.ite_none_right_eq_some.1 hstep
      obtain rfl := Option.some.inj hs
      cases accepted with
      | true => exact h.keep rfl rfl rfl rfl rfl h.set
      | false => exact h.keep rfl rfl rfl rfl rfl h.set
  | sdl event =>
      obtain rfl := Option.some.inj hstep
      exact h.keep rfl rfl rfl rfl rfl h.set
  | task e => exact h.taskStep hstep

end Orderly

/-- **The rules are kept.** The calls made so far are allowed one after the other, and the semaphore has
    been posted at most once. When the task has returned nothing exists any more, `SDL_Quit` has been
    called, and the semaphore has been posted if there is one. -/
structure KeepsRules (s : State ι α) : Prop where
  allowed : ∃ u, Run.exec SdlUse.call .initial s.calls = some u ∧
    ∀ dterr, s.pc = .returned dterr → u = ⟨false, false, false, true⟩
  posted : s.joinPosts ≤ 1 ∧
    ∀ dterr, s.pc = .returned dterr → s.joinPosts = if s.self.joinSemaphore then 1 else 0

theorem Orderly.keepsRules {s : State ι α} (h : Orderly s) : KeepsRules s where
  allowed := by
    refine ⟨_, h.use, fun dterr hpc => ?_⟩
    rw [hpc]
    rfl
  posted := by
    rw [h.posts]
    refine ⟨by split <;> decide, fun dterr hpc => ?_⟩
    rw [hpc, LoopPc.posted, Bool.and_true]

theorem orderly_configured (joinSemaphore : Bool) (backing : ι → α) (event : SdlEvent)
    (screen : ι → α) : Orderly (.configured joinSemaphore backing event screen) where
  use := rfl
  set := ⟨rfl, rfl, rfl, rfl⟩
  posts := by simp [State.configured, LoopPc.posted]

end DtdisplayLinuxSdl
