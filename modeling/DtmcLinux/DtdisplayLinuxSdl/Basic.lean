import DtmcLinux.Dtcore.Dterr
import DtmcLinux.Foundation.Mirror
import Mathlib.Data.Finset.Basic
import Mathlib.Data.Fintype.Defs

set_option autoImplicit false

/-! # The SDL display

`dtdisplay_linux_sdl.c`. Attach starts a task that sets SDL up, runs the event loop and tears SDL down.
A blit changes the backing buffer and pushes an event of the type the task has registered; the loop
answers it by copying the backing buffer to the texture and the texture to the window. No lock is held:
any number of blits can be under way while the loop copies, which it does pixel by pixel. SDL and the
raster library are outside: what they return and what a blit paints are arguments. -/

namespace DtdisplayLinuxSdl

/-- The errors of this file. `DTERR_BADCONFIG` is a code that no other file of the library uses. -/
inductive DisplayDterr where
  | badconfig (message : String)
  | other (dterr : Dterr)
  /-- `dterr_new(DTERR_FAIL, DTERR_LOC, inner, message)`, and what was appended to it -/
  | fail (inner : DisplayDterr) (message : String) (appended : Option Dterr)
  deriving DecidableEq

/-! ## SDL -/

/-- What this file reads of `SDL_Event`. -/
structure SdlEvent where
  type : UInt32
  windowEvent : UInt8
  deriving DecidableEq

def SDL_QUIT : UInt32 := 0x100
def SDL_WINDOWEVENT : UInt32 := 0x200
def SDL_WINDOWEVENT_CLOSE : UInt8 := 14
/-- The first type `SDL_RegisterEvents` gives. -/
def SDL_USEREVENT : UInt32 := 0x8000

/-- A call the task makes of SDL, apart from those on events and errors. -/
inductive SdlCall where
  | createWindow (created : Bool)
  | createRenderer (created : Bool)
  | createTexture (created : Bool)
  | updateTexture
  | renderClear
  | renderCopy
  | renderPresent
  | destroyTexture
  | destroyRenderer
  | destroyWindow
  | quit
  deriving DecidableEq

/-- What `SDL_WaitEventTimeout` returns: 1 and the first event of the queue, or 0 with the text
    `SDL_GetError` has then. -/
inductive WaitResult where
  | event
  | noEvent (sdlError : String)

/-! ## The object -/

/-- `dtdisplay_linux_sdl_t`, and of its configuration whether there is a semaphore; of a pointer to an
    SDL object whether it is set. -/
structure Display where
  joinSemaphore : Bool
  dirtyEventType : UInt32
  sdlWindow : Bool
  sdlRenderer : Bool
  sdlTexture : Bool
  isSdlInitialized : Bool
  eventLoopShouldQuit : Bool
  deriving DecidableEq

/-- Where the task is. -/
inductive LoopPc (ι : Type*) where
  | notStarted
  /-- in `dtdisplay_linux_sdl__setup`, before a call -/
  | registering
  | creatingWindow
  | creatingRenderer
  | creatingTexture
  /-- before `dttasker_ready` -/
  | readying
  /-- in `SDL_WaitEventTimeout` -/
  | waiting
  /-- in `dtdisplay_linux_sdl__render_dirty`: in `SDL_UpdateTexture`, with the pixels to be copied -/
  | updating (todo : Finset ι)
  | clearing
  | copying
  | presenting
  /-- at `cleanup:` of the entry function, before the post -/
  | posting (dterr : Option DisplayDterr)
  /-- in `dtdisplay_linux_sdl__teardown` -/
  | destroyingTexture (dterr : Option DisplayDterr)
  | destroyingRenderer (dterr : Option DisplayDterr)
  | destroyingWindow (dterr : Option DisplayDterr)
  | quitting (dterr : Option DisplayDterr)
  /-- the entry function has returned -/
  | returned (dterr : Option DisplayDterr)

/-- There is a thread that has not exited. -/
def LoopPc.alive {ι : Type*} : LoopPc ι → Bool
  | .notStarted => false
  | .returned _ => false
  | _ => true

/-- An event in the queue, with what the pixels of the backing buffer have been since it got there. -/
structure Queued (ι α : Type*) where
  event : SdlEvent
  since : Mirror.History ι α

/-- The object, its backing buffer, the task, and SDL. `event` is the variable of the event loop, which
    is not initialised; `blits` counts the blits under way, `joinPosts` the posts on the semaphore, and
    `taken` the events that were taken from the queue. `answered` records what the pixels of the backing
    buffer have been since the event that the window was last drawn for, `announced` what they have been
    since the last event of the registered type that a blit got into the queue. -/
structure State (ι α : Type*) where
  self : Display
  backing : ι → α
  pc : LoopPc ι
  event : Queued ι α
  queue : List (Queued ι α)
  taken : ℕ
  texture : ι → α
  target : ι → α
  screen : ι → α
  blits : ℕ
  joinPosts : ℕ
  calls : List SdlCall
  answered : Option (Mirror.History ι α)
  announced : Option (Mirror.History ι α)

/-- A step of the task, with what the call it is in returns. -/
inductive TaskEvent (ι α : Type*) where
  | registered (type : UInt32) (sdlError : String)
  | windowCreated (created : Bool) (sdlError : String)
  | rendererCreated (created : Bool) (sdlError : String)
  /-- with what the texture shows at first -/
  | textureCreated (created : Bool) (sdlError : String) (texture : ι → α)
  | ready (dterr : Option Dterr)
  | waitReturns (result : WaitResult)
  /-- `SDL_UpdateTexture` copies a pixel -/
  | copyPixel (i : ι)
  | updated (err : ℤ) (sdlError : String)
  | cleared (err : ℤ) (sdlError : String)
  | copied (err : ℤ) (sdlError : String)
  | presented
  | posted (dterr : Option Dterr)
  /-- the next call of the teardown -/
  | teardown

inductive Event (ι α : Type*) where
  /-- `start` is the error of `dttasker_start` before there is a thread -/
  | attach (start : Option Dterr)
  | detach
  /-- a blit begins -/
  | blit
  /-- `dtraster_blit` paints a pixel of the backing raster -/
  | paint (i : ι) (v : α)
  /-- `dtraster_blit` fails, and the blit returns -/
  | blitFails
  /-- `SDL_PushEvent`, and the blit returns -/
  | push (accepted : Bool)
  /-- SDL queues an event of its own -/
  | sdl (event : SdlEvent)
  | task (e : TaskEvent ι α)

/-- A configured object that is not attached, and SDL at rest. -/
def State.configured {ι α : Type*} (joinSemaphore : Bool) (backing : ι → α) (event : SdlEvent)
    (screen : ι → α) : State ι α where
  self := {
    joinSemaphore := joinSemaphore
    dirtyEventType := 0
    sdlWindow := false
    sdlRenderer := false
    sdlTexture := false
    isSdlInitialized := false
    eventLoopShouldQuit := false }
  backing := backing
  pc := .notStarted
  event := ⟨event, .start backing⟩
  queue := []
  taken := 0
  texture := screen
  target := screen
  screen := screen
  blits := 0
  joinPosts := 0
  calls := []
  answered := none
  announced := none

/-- A pixel is painted. -/
def Queued.note {ι α : Type*} [DecidableEq ι] (queued : Queued ι α) (i : ι) (v : α) : Queued ι α :=
  { queued with since := queued.since.note i v }

namespace State

variable {ι α : Type*} (s : State ι α)

/-- A call of SDL. -/
def called (call : SdlCall) : State ι α := { s with calls := s.calls ++ [call] }

/-! ## Attach, detach and blit -/

/-- `dtdisplay_linux_sdl_attach`, up to the wait in `dttasker_start`, which refuses a task that is
    running. -/
def attach (start : Option Dterr) : State ι α × Option DisplayDterr :=
  if s.self.isSdlInitialized then
    (s, some (.badconfig "cannot attach after attaching once"))
  else if s.pc.alive then
    (s, some (.other (.new .state "task \"display\" is already started")))
  else
    match start with
    | some dterr => (s, some (.other dterr))
    | none => ({ s with pc := .registering }, none)

/-- `dtdisplay_linux_sdl_detach`; then it sleeps. -/
def detach : State ι α := { s with self := { s.self with eventLoopShouldQuit := true } }

/-- A pixel of the backing buffer is painted. -/
def paint [DecidableEq ι] (i : ι) (v : α) : State ι α :=
  { s with
    backing := Function.update s.backing i v
    event := s.event.note i v
    queue := s.queue.map (·.note i v)
    answered := s.answered.map (·.note i v)
    announced := s.announced.map (·.note i v) }

/-- SDL puts an event into its queue. -/
def enqueue (event : SdlEvent) : State ι α :=
  { s with queue := s.queue ++ [⟨event, .start s.backing⟩] }

/-- The end of a blit; the result of `SDL_PushEvent` is not looked at. -/
def push (accepted : Bool) : State ι α :=
  if accepted then
    { s.enqueue ⟨s.self.dirtyEventType, 0⟩ with
      blits := s.blits - 1
      -- before the task has registered its type, no event is of that type
      announced := if s.self.dirtyEventType = 0 then s.announced else some (.start s.backing) }
  else
    { s with blits := s.blits - 1 }

/-! ## The event loop -/

/-- `cleanup:` of the entry function. -/
def exit (dterr : Option DisplayDterr) : State ι α :=
  { s with pc := .posting (dterr.map fun dterr => .fail dterr "rx task exiting" none) }

/-- `dtdisplay_linux_sdl__event_loop` ends. -/
def leaveLoop (dterr : Option Dterr) : State ι α :=
  s.exit (dterr.map fun dterr => .other (.rechain dterr "rx task server loop exiting due to error"))

/-- A call under `DTDISPLAY_SDLERROR_C` in the loop. -/
def sdlErrorC (err : ℤ) (sdlError : String) (s' : State ι α) : State ι α :=
  if err < 0 then s.leaveLoop (some (.new .fail s!"error {err} ({sdlError})")) else s'

/-- What `dtdisplay_linux_sdl__handle_event` comes to. -/
inductive Handled where
  | ignored
  | shouldQuit
  | renderDirty
  deriving DecidableEq

/-- `dtdisplay_linux_sdl__handle_event`. When the wait has returned 0 with an error, `event` is what
    the variable held before. -/
def handleEvent (self : Display) (result : WaitResult) (event : SdlEvent) : Handled :=
  let look :=
    if event.type = SDL_QUIT then .shouldQuit
    else if event.type = SDL_WINDOWEVENT then
      if event.windowEvent = SDL_WINDOWEVENT_CLOSE then .shouldQuit else .ignored
    else if event.type = self.dirtyEventType then .renderDirty
    else .ignored
  match result with
  | .event => look
  | .noEvent sdlError => if sdlError = "" then .ignored else look

variable [Fintype ι]

/-- The loop, from the return of the wait on. -/
def afterWait (result : WaitResult) : State ι α :=
  if s.self.eventLoopShouldQuit then s.leaveLoop none
  else
    match handleEvent s.self result s.event.event with
    | .ignored => { s with pc := .waiting }
    | .shouldQuit => s.leaveLoop none
    | .renderDirty => { s with pc := .updating Finset.univ }

omit [Fintype ι] in
/-- SDL takes the first event from its queue. -/
def take (event : Queued ι α) (queue : List (Queued ι α)) : State ι α :=
  { s with event := event, queue := queue, taken := s.taken + 1 }

/-- `SDL_WaitEventTimeout` returns. -/
def waitReturns (result : WaitResult) : Option (State ι α) :=
  match result, s.queue with
  | .event, [] => none
  | .event, event :: queue => some ((s.take event queue).afterWait .event)
  | .noEvent sdlError, _ => some (s.afterWait (.noEvent sdlError))

/-! ## Setup and teardown -/

omit [Fintype ι] in
/-- `dtdisplay_linux_sdl__setup` up to `SDL_RegisterEvents`, which gives the types from `SDL_USEREVENT`
    on. `SDL_Init` is not called: the macro is given the flag alone. -/
def registered (type : UInt32) (sdlError : String) : Option (State ι α) :=
  if s.self.isSdlInitialized then
    some (s.exit (some (.badconfig "cannot setup after setting up once")))
  else if SDL_USEREVENT ≤ type then
    let s := { s with self := { s.self with isSdlInitialized := true, dirtyEventType := type } }
    if type = -1 then
      some (s.exit (some (.other (.new .io s!"failed to register SDL event: {sdlError}"))))
    else
      some { s with pc := .creatingWindow }
  else none

omit [Fintype ι] in
/-- `SDL_CreateWindow` returns. -/
def windowCreated (created : Bool) (sdlError : String) : State ι α :=
  let s := s.called (.createWindow created)
  let s := { s with self := { s.self with sdlWindow := created } }
  if created then { s with pc := .creatingRenderer }
  else s.exit (some (.other (.new .io s!"failed to create SDL window: {sdlError}")))

omit [Fintype ι] in
/-- `SDL_CreateRenderer` returns. -/
def rendererCreated (created : Bool) (sdlError : String) : State ι α :=
  let s := s.called (.createRenderer created)
  let s := { s with self := { s.self with sdlRenderer := created } }
  if created then { s with pc := .creatingTexture }
  else s.exit (some (.other (.new .io s!"failed to create SDL renderer: {sdlError}")))

omit [Fintype ι] in
/-- `SDL_CreateTexture` returns. -/
def textureCreated (created : Bool) (sdlError : String) (texture : ι → α) : State ι α :=
  let s := s.called (.createTexture created)
  let s := { s with self := { s.self with sdlTexture := created } }
  if created then { s with pc := .readying, texture := texture }
  else s.exit (some (.other (.new .io s!"failed to create SDL texture: {sdlError}")))

omit [Fintype ι] in
/-- The post on `join_semaphore`. What it returns is appended to the error the task returns, if there is
    one. -/
def posted (dterr : Option DisplayDterr) (post : Option Dterr) : State ι α :=
  if s.self.joinSemaphore then
    let dterr :=
      match dterr with
      | some (.fail inner message appended) =>
        some (.fail inner message (Dterr.appendTo appended post))
      | dterr => dterr
    { s with pc := .destroyingTexture dterr, joinPosts := s.joinPosts + 1 }
  else
    { s with pc := .destroyingTexture dterr }

omit [Fintype ι] in
/-- The calls of `dtdisplay_linux_sdl__teardown`, one by one. The pointers are left as they are. -/
def teardown : Option (State ι α) :=
  match s.pc with
  | .destroyingTexture dterr =>
    let s := if s.self.sdlTexture then s.called .destroyTexture else s
    some { s with pc := .destroyingRenderer dterr }
  | .destroyingRenderer dterr =>
    let s := if s.self.sdlRenderer then s.called .destroyRenderer else s
    some { s with pc := .destroyingWindow dterr }
  | .destroyingWindow dterr =>
    let s := if s.self.sdlWindow then s.called .destroyWindow else s
    some { s with pc := .quitting dterr }
  | .quitting dterr =>
    let s := if s.self.isSdlInitialized then s.called .quit else s
    some { s with pc := .returned dterr }
  | _ => none

/-! ## Runs -/

variable [DecidableEq ι]

/-- One step of the task. -/
def taskStep (s : State ι α) : TaskEvent ι α → Option (State ι α)
  | .registered type sdlError =>
    match s.pc with
    | .registering => s.registered type sdlError
    | _ => none
  | .windowCreated created sdlError =>
    match s.pc with
    | .creatingWindow => some (s.windowCreated created sdlError)
    | _ => none
  | .rendererCreated created sdlError =>
    match s.pc with
    | .creatingRenderer => some (s.rendererCreated created sdlError)
    | _ => none
  | .textureCreated created sdlError texture =>
    match s.pc with
    | .creatingTexture => some (s.textureCreated created sdlError texture)
    | _ => none
  | .ready dterr =>
    match s.pc with
    | .readying =>
      match dterr with
      | some dterr => some (s.exit (some (.other dterr)))
      | none => some { s with pc := .waiting }
    | _ => none
  | .waitReturns result =>
    match s.pc with
    | .waiting => s.waitReturns result
    | _ => none
  | .copyPixel i =>
    match s.pc with
    | .updating todo =>
      if i ∈ todo then
        some { s with
          pc := .updating (todo.erase i)
          texture := Function.update s.texture i (s.backing i) }
      else none
    | _ => none
  | .updated err sdlError =>
    match s.pc with
    | .updating todo =>
      let s := s.called .updateTexture
      -- it succeeds when everything is copied
      if err < 0 ∨ todo = ∅ then some (s.sdlErrorC err sdlError { s with pc := .clearing }) else none
    | _ => none
  | .cleared err sdlError =>
    match s.pc with
    | .clearing =>
      let s := s.called .renderClear
      some (s.sdlErrorC err sdlError { s with pc := .copying })
    | _ => none
  | .copied err sdlError =>
    match s.pc with
    | .copying =>
      let s := s.called .renderCopy
      some (s.sdlErrorC err sdlError { s with pc := .presenting, target := s.texture })
    | _ => none
  | .presented =>
    match s.pc with
    | .presenting =>
      some { s.called .renderPresent with
        pc := .waiting, screen := s.target, answered := some s.event.since }
    | _ => none
  | .posted post =>
    match s.pc with
    | .posting dterr => some (s.posted dterr post)
    | _ => none
  | .teardown => s.teardown

/-- One step of the system. -/
def step (s : State ι α) : Event ι α → Option (State ι α)
  | .attach start => some (s.attach start).1
  | .detach => some s.detach
  | .blit => some { s with blits := s.blits + 1 }
  | .paint i v => if 0 < s.blits then some (s.paint i v) else none
  | .blitFails => if 0 < s.blits then some { s with blits := s.blits - 1 } else none
  | .push accepted => if 0 < s.blits then some (s.push accepted) else none
  | .sdl event => some (s.enqueue event)
  | .task e => s.taskStep e

end State

end DtdisplayLinuxSdl
