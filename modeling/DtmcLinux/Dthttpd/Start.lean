import DtmcLinux.Dthttpd.Slots
import DtmcLinux.DtioxLinuxWebsocket.Descriptors

set_option autoImplicit false

/-! # Starting and stopping the HTTP server

`dthttpd_linux_socket_loop` opens the listening socket, moves it from a local variable to the
object, and then creates and starts the accept tasker. When one of these two fails, its `cleanup:`
closes the local variable, which no longer holds the socket: the object keeps the listening socket,
and after a failed start the accept tasker too. -/

namespace DthttpdLinuxSocket

open DescriptorTable
open DtioxLinuxWebsocket (SocketKind Outcome BindCalls bindFirst bindFirst_spec)

/-- The fields of `dthttpd_linux_socket_t` that starting and stopping read; a tasker handle is the
    number of the tasker. -/
structure HttpServer where
  bindHost : Option String
  bindPort : ℤ
  listenFd : ℤ
  isStarted : Bool
  stopRequested : Bool
  acceptTaskerHandle : Option ℕ
  clientSlots : List Slot
  activeClientCount : ℤ

/-- How many sockets and accept taskers there were when a call was made. -/
structure Mark where
  sockets : ℕ
  taskers : ℕ

/-- The server with the listening sockets and the accept taskers it has created; `disposed` lists
    the taskers that were disposed. `failed` is set when the last call was a loop that failed, to
    what there was before it. The connections and their taskers are the subject of the slots. -/
structure World where
  self : HttpServer
  fds : DescriptorTable SocketKind
  taskers : ℕ
  disposed : List ℕ
  failed : Option Mark

/-- A configured server. -/
def World.configured (bindHost : Option String) (bindPort : ℤ) (slotCount : ℕ) : World where
  self :=
    { bindHost := bindHost
      bindPort := bindPort
      listenFd := -1
      isStarted := false
      stopRequested := false
      acceptTaskerHandle := none
      clientSlots := List.replicate slotCount .init
      activeClientCount := 0 }
  fds := .empty
  taskers := 0
  disposed := []
  failed := none

/-! ## Loop -/

/-- What the calls of `_open_listen_socket` return. -/
structure OpenCalls where
  getaddrinfo : Bool
  addresses : List BindCalls
  listen : Outcome

/-- `_open_listen_socket`. Its loop over the addresses is that of the WebSocket object. -/
def openListenSocket (self : HttpServer) (fds : DescriptorTable SocketKind) (calls : OpenCalls) :
    DescriptorTable SocketKind × Except Dterr ℤ :=
  let host := self.bindHost.getD "0.0.0.0"
  if self.bindPort ≤ 0 ∨ self.bindPort > 65535 then
    (fds, .error (.new .badarg "invalid bind port"))
  else if !calls.getaddrinfo then
    (fds, .error (.new .io s!"getaddrinfo({host}:{self.bindPort}) failed"))
  else
    match bindFirst fds calls.addresses with
    | (fds, fd, some err) => (fds.closeIfOpen fd, .error err)
    | (fds, fd, none) =>
      if fd < 0 then
        (fds, .error (.new .io s!"bind({host}:{self.bindPort}) failed"))
      else
        match calls.listen with
        | some err => (fds.closeIfOpen fd, .error (.new .io s!"listen failed: {err}"))
        | none => (fds.become fd .listening, .ok fd)

/-- What the calls of loop return: those of `_open_listen_socket`, and the errors of
    `dttasker_create` and `dttasker_start`. -/
structure LoopCalls where
  opens : OpenCalls
  create : Option Dterr
  start : Option Dterr

/-- `dthttpd_linux_socket_loop`. Under `cleanup:` the local variable holds no socket: it holds none
    when `_open_listen_socket` fails, and has been moved to the object otherwise. -/
def loop (w : World) (calls : LoopCalls) : World × Option Dterr :=
  if w.self.isStarted then
    (w, none)
  else
    match openListenSocket w.self w.fds calls.opens with
    | (fds, .error err) => ({ w with fds := fds }, some err)
    | (fds, .ok listenFd) =>
      let self := { w.self with listenFd := listenFd, stopRequested := false }
      match calls.create with
      | some err =>
        -- `dttasker_create` clears the handle before anything can fail
        ({ w with self := { self with acceptTaskerHandle := none }, fds := fds }, some err)
      | none =>
        let self := { self with acceptTaskerHandle := some w.taskers }
        let w := { w with fds := fds, taskers := w.taskers + 1 }
        match calls.start with
        | some err => ({ w with self := self }, some err)
        | none => ({ w with self := { self with isStarted := true } }, none)

/-! ## Stop and join -/

/-- The errors of `dtlock_acquire` and `dtlock_release`. -/
structure StopCalls where
  acquire : Option Dterr
  release : Option Dterr

/-- `dthttpd_linux_socket_stop`. `dttasker_stop` sets a flag of the tasker and has no error; the
    clients' taskers are asked to stop and their connections shut down. -/
def stop (w : World) (calls : StopCalls) : World × Option Dterr :=
  ({ w with
      self := { w.self with stopRequested := true, listenFd := closedVar w.self.listenFd }
      fds := w.fds.closeIfOpen w.self.listenFd },
    match calls.acquire with
    | some err => some err
    | none => calls.release)

/-- What `dttasker_join` does: it fails, times out, or the thread is joined. -/
inductive TaskerJoin where
  | failed (dterr : Dterr)
  | timeout
  | joined

/-- The accept tasker in join. -/
def joinAccept (w : World) (result : TaskerJoin) : World × TaskerJoin :=
  match w.self.acceptTaskerHandle, result with
  | none, _ => (w, .joined)
  | some i, .joined =>
    ({ w with self := { w.self with acceptTaskerHandle := none }, disposed := i :: w.disposed },
      .joined)
  | some _, result => (w, result)

/-- The loop over the client slots in join, from the slot `i` on. -/
def joinSlots (results : ℕ → TaskerJoin) : ℕ → List Slot → List Slot × TaskerJoin
  | _, [] => ([], .joined)
  | i, slot :: slots =>
    match slot.taskerHandle, results i with
    | none, _ =>
      let (slots, result) := joinSlots results (i + 1) slots
      (slot :: slots, result)
    | some _, .joined =>
      let (slots, result) := joinSlots results (i + 1) slots
      ({ slot with isJoined := true, clientFd := closedVar slot.clientFd, taskerHandle := none } ::
        slots, result)
    | some _, result => (slot :: slots, result)

/-- What the calls of `dttasker_join` do. -/
structure JoinCalls where
  accept : TaskerJoin
  slots : ℕ → TaskerJoin

/-- `dthttpd_linux_socket_join`: it returns the error, or `NULL` with `*was_timeout`. -/
def join (w : World) (calls : JoinCalls) : World × TaskerJoin :=
  match joinAccept w calls.accept with
  | (w, .joined) =>
    let (slots, result) := joinSlots calls.slots 0 w.self.clientSlots
    let self := { w.self with clientSlots := slots }
    match result with
    | .joined =>
      ({ w with self := { self with isStarted := false, activeClientCount := 0 } }, .joined)
    | result => ({ w with self := self }, result)
  | (w, result) => (w, result)

/-! ## Runs -/

/-- A call on the server, or a change the accept loop and the client threads make. -/
inductive Call where
  | loop (calls : LoopCalls)
  | stop (calls : StopCalls)
  | join (calls : JoinCalls)
  | clients (slots : List Slot) (activeClientCount : ℤ)

def World.step (w : World) : Call → Option World
  | .loop calls =>
    some { (DthttpdLinuxSocket.loop w calls).1 with
      failed := (DthttpdLinuxSocket.loop w calls).2.map fun _ => ⟨w.fds.kinds.length, w.taskers⟩ }
  | .stop calls => some { (DthttpdLinuxSocket.stop w calls).1 with failed := none }
  | .join calls => some { (DthttpdLinuxSocket.join w calls).1 with failed := none }
  | .clients slots activeClientCount =>
    some { w with
      self := { w.self with clientSlots := slots, activeClientCount := activeClientCount }
      failed := none }

/-! ## Opening the listening socket -/

/-- An address can be bound, and before it there is none whose option cannot be set. -/
def Binds : List BindCalls → Prop
  | [] => False
  | rp :: rps =>
    if rp.socket then rp.reuseaddr = none ∧ (rp.bind = true ∨ Binds rps) else Binds rps

/-- The calls open the listening socket. -/
structure OpenCalls.Succeed (calls : OpenCalls) (bindPort : ℤ) : Prop where
  port : ¬(bindPort ≤ 0 ∨ bindPort > 65535)
  getaddrinfo : calls.getaddrinfo = true
  binds : Binds calls.addresses
  listen : calls.listen = none

variable {fds : DescriptorTable SocketKind} {k : ℕ}

/-- The loop over the addresses closes every socket but the one it leaves in the variable. -/
theorem bindFirst_closedFrom (h : fds.ClosedFrom k (-1)) (addresses : List BindCalls) :
    (bindFirst fds addresses).1.ClosedFrom k (bindFirst fds addresses).2.1 := by
  induction addresses generalizing fds with
  | nil => exact h
  | cons rp rps ih =>
      have hcreate := h.create SocketKind.fresh
      rw [bindFirst]
      split
      · exact ih h
      · simp only
        split
        · exact hcreate
        · split
          · exact hcreate
          · exact ih hcreate.closeIfOpen

/-- It leaves a bound socket exactly when an address can be bound. -/
theorem bindFirst_binds (fds : DescriptorTable SocketKind) (addresses : List BindCalls) :
    Binds addresses ↔ (bindFirst fds addresses).2.2 = none ∧ 0 ≤ (bindFirst fds addresses).2.1 := by
  induction addresses generalizing fds with
  | nil => simp [Binds, bindFirst]
  | cons rp rps ih =>
      rw [bindFirst, Binds]
      cases rp.socket with
      | false => exact ih fds
      | true =>
          simp only [if_true, Bool.not_true, Bool.false_eq_true, if_false]
          cases rp.reuseaddr with
          | some err => simp
          | none =>
              cases rp.bind with
              | true => simp [create_snd_nonneg]
              | false => simpa using ih _

/-- What `_open_listen_socket` can do. -/
inductive OpenCase (self : HttpServer) (fds : DescriptorTable SocketKind) (calls : OpenCalls) :
    DescriptorTable SocketKind × Except Dterr ℤ → Prop where
  | failed (fds' : DescriptorTable SocketKind) (err : Dterr)
      (hfails : ¬calls.Succeed self.bindPort) (hext : fds.Extends fds')
      (hclosed : fds'.ClosedFrom fds.kinds.length (-1)) : OpenCase self fds calls (fds', .error err)
  | opened (fds' : DescriptorTable SocketKind) (listenFd : ℤ)
      (hsucceed : calls.Succeed self.bindPort) (hext : fds.Extends fds')
      (hnew : fds.IsNew fds' listenFd .listening) : OpenCase self fds calls (fds', .ok listenFd)

/-- When it fails, it leaves no socket open. -/
theorem openListenSocket_cases (hclosed : fds.ClosedOnce) (self : HttpServer) (calls : OpenCalls) :
    OpenCase self fds calls (openListenSocket self fds calls) := by
  have hnone := fds.closedFrom_length (-1)
  unfold openListenSocket
  by_cases hport : self.bindPort ≤ 0 ∨ self.bindPort > 65535
  · simp only [if_pos hport]
    exact .failed _ _ (fun h => h.port hport) (.refl fds) hnone
  · simp only [if_neg hport]
    cases hgai : calls.getaddrinfo with
    | false =>
        refine .failed _ _ (fun h => ?_) (.refl fds) hnone
        exact absurd (hgai.symm.trans h.getaddrinfo) (by decide)
    | true =>
        obtain ⟨hext, hbound⟩ := bindFirst_spec hclosed (.refl fds) calls.addresses
        have hleft := bindFirst_closedFrom hnone calls.addresses
        have hbinds := bindFirst_binds fds calls.addresses
        rcases hbf : bindFirst fds calls.addresses with ⟨fds₁, fd, err⟩
        rw [hbf] at hext hbound hleft hbinds
        cases err with
        | some err =>
            have hnew := hbound.resolve_left fun h => by simp at h
            refine .failed _ _ (fun h => ?_) (hext.close hnew) hleft.closeIfOpen
            exact Option.some_ne_none err (hbinds.1 h.binds).1
        | none =>
            rcases hbound with ⟨rfl, -⟩ | hnew
            · refine .failed _ _ (fun h => ?_) hext hleft
              exact absurd (hbinds.1 h.binds).2 (by decide : ¬(0 : ℤ) ≤ -1)
            · have hnonneg : ¬fd < 0 := Int.not_lt.2 hnew.isOpen.nonneg
              simp only [if_neg hnonneg, Bool.not_true, Bool.false_eq_true, if_false]
              cases hlisten : calls.listen with
              | some err =>
                  refine .failed _ _ (fun h => ?_) (hext.close hnew) hleft.closeIfOpen
                  exact Option.some_ne_none err (hlisten.symm.trans h.listen)
              | none =>
                  have hsucceed := hbinds.2 ⟨rfl, hnew.isOpen.nonneg⟩
                  exact .opened _ _ ⟨hport, hgai, hsucceed, hlisten⟩ (hext.become hnew _)
                    (hnew.become_self _)

/-! ## What a call can do -/

/-- What a loop call can do. -/
inductive LoopCase (w : World) (calls : LoopCalls) : World × Option Dterr → Prop where
  | alreadyStarted (hstarted : w.self.isStarted = true) : LoopCase w calls (w, none)
  | notOpened (fds : DescriptorTable SocketKind) (err : Dterr) (hidle : w.self.isStarted = false)
      (hfails : ¬calls.opens.Succeed w.self.bindPort) (hext : w.fds.Extends fds)
      (hclosed : fds.ClosedFrom w.fds.kinds.length (-1)) :
      LoopCase w calls ({ w with fds := fds }, some err)
  /-- `dttasker_create` or `dttasker_start` fails, and the object has the listening socket. -/
  | notStarted (w' : World) (err : Dterr) (hidle : w.self.isStarted = false)
      (hopens : calls.opens.Succeed w.self.bindPort)
      (hfails : ¬(calls.create = none ∧ calls.start = none)) (hext : w.fds.Extends w'.fds)
      (hopen : w'.fds.IsOpen w'.self.listenFd .listening)
      (hrequest : w'.self.stopRequested = false)
      (hbindPort : w'.self.bindPort = w.self.bindPort) : LoopCase w calls (w', some err)
  | started (w' : World) (hidle : w.self.isStarted = false)
      (hopens : calls.opens.Succeed w.self.bindPort)
      (hcreate : calls.create = none) (hstart : calls.start = none) (hext : w.fds.Extends w'.fds)
      (hopen : w'.fds.IsOpen w'.self.listenFd .listening)
      (htasker : w'.self.acceptTaskerHandle = some w.taskers)
      (hstarted : w'.self.isStarted = true) (hrequest : w'.self.stopRequested = false)
      (hbindPort : w'.self.bindPort = w.self.bindPort) : LoopCase w calls (w', none)

theorem loop_cases {w : World} (hclosed : w.fds.ClosedOnce) (calls : LoopCalls) :
    LoopCase w calls (loop w calls) := by
  unfold loop
  cases hstarted : w.self.isStarted with
  | true => exact .alreadyStarted hstarted
  | false =>
      simp only [Bool.false_eq_true, if_false]
      have hcase := openListenSocket_cases hclosed w.self calls.opens
      rcases hopened : openListenSocket w.self w.fds calls.opens with ⟨fds, result⟩
      rw [hopened] at hcase
      cases hcase with
      | failed _ err hfails hext hleft => exact .notOpened fds err hstarted hfails hext hleft
      | opened _ listenFd hopens hext hnew =>
          cases hcreate : calls.create with
          | some err =>
              refine .notStarted _ err hstarted hopens (fun h => ?_) hext hnew.isOpen rfl rfl
              exact Option.some_ne_none err (hcreate.symm.trans h.1)
          | none =>
              cases hstart : calls.start with
              | some err =>
                  refine .notStarted _ err hstarted hopens (fun h => ?_) hext hnew.isOpen rfl rfl
                  exact Option.some_ne_none err (hstart.symm.trans h.2)
              | none =>
                  exact .started _ hstarted hopens hcreate hstart hext hnew.isOpen rfl rfl rfl rfl

/-- What a call of join leaves as it was; it marks the server as not started when it has no accept
    tasker any more. -/
structure JoinSpec (w w' : World) : Prop where
  fds : w'.fds = w.fds
  listenFd : w'.self.listenFd = w.self.listenFd
  stopRequested : w'.self.stopRequested = w.self.stopRequested
  bindPort : w'.self.bindPort = w.self.bindPort
  acceptTaskerHandle : w'.self.acceptTaskerHandle = none ∨
    w'.self.acceptTaskerHandle = w.self.acceptTaskerHandle
  isStarted : w'.self.isStarted = w.self.isStarted ∨ w'.self.acceptTaskerHandle = none

theorem joinAccept_spec (w : World) (result : TaskerJoin) :
    JoinSpec w (joinAccept w result).1 ∧
      ((joinAccept w result).2 = .joined →
        (joinAccept w result).1.self.acceptTaskerHandle = none) := by
  unfold joinAccept
  split
  · next hnone => exact ⟨⟨rfl, rfl, rfl, rfl, Or.inr rfl, Or.inl rfl⟩, fun _ => hnone⟩
  · exact ⟨⟨rfl, rfl, rfl, rfl, Or.inl rfl, Or.inl rfl⟩, fun _ => rfl⟩
  · next hjoined =>
      exact ⟨⟨rfl, rfl, rfl, rfl, Or.inr rfl, Or.inl rfl⟩, fun h => absurd h hjoined⟩

theorem join_spec (w : World) (calls : JoinCalls) : JoinSpec w (join w calls).1 := by
  have haccept := joinAccept_spec w calls.accept
  unfold join
  split
  · next w₁ hw₁ =>
      rw [hw₁] at haccept
      obtain ⟨⟨hfds, hlisten, hstop, hport, htasker, -⟩, hnone⟩ := haccept
      simp only
      split
      · exact ⟨hfds, hlisten, hstop, hport, htasker, Or.inr (hnone rfl)⟩
      · exact ⟨hfds, hlisten, hstop, hport, htasker, Or.inr (hnone rfl)⟩
  · next w₁ result _ hw₁ =>
      rw [hw₁] at haccept
      exact haccept.1

/-! ## Runs from a configured server -/

/-- What holds in every run: the object holds an open listening socket or none, none after a stop,
    and no socket is closed twice. -/
structure Sound (bindPort : ℤ) (w : World) : Prop where
  closedOnce : w.fds.ClosedOnce
  listenFd : w.fds.Holds w.self.listenFd .listening
  stopped : w.self.stopRequested = true → w.self.listenFd = -1
  bindPort : w.self.bindPort = bindPort

variable {bindPort : ℤ} {w w' : World} {c : Call}

theorem closedVar_of_holds {fd : ℤ} (h : fds.Holds fd .listening) : closedVar fd = -1 := by
  rcases h with rfl | hopen
  · rfl
  · exact if_pos hopen.nonneg

theorem configured_sound (bindHost : Option String) (bindPort : ℤ) (slotCount : ℕ) :
    Sound bindPort (.configured bindHost bindPort slotCount) where
  closedOnce := ⟨List.nodup_nil, fun _ h => absurd h List.not_mem_nil⟩
  listenFd := Or.inl rfl
  stopped _ := rfl
  bindPort := rfl

theorem loop_sound (h : Sound bindPort w) (calls : LoopCalls) :
    Sound bindPort (loop w calls).1 := by
  have hcase := loop_cases h.closedOnce calls
  rcases hloop : loop w calls with ⟨w', err⟩
  rw [hloop] at hcase
  cases hcase with
  | alreadyStarted _ => exact h
  | notOpened fds err _ _ hext _ =>
      exact ⟨hext.closedOnce h.closedOnce, hext.holds h.listenFd, h.stopped, h.bindPort⟩
  | notStarted _ err _ _ _ hext hopen hrequest hport =>
      refine ⟨hext.closedOnce h.closedOnce, Or.inr hopen, fun hstop => ?_, hport.trans h.bindPort⟩
      exact absurd (hrequest.symm.trans hstop) (by decide)
  | started _ _ _ _ _ hext hopen _ _ hrequest hport =>
      refine ⟨hext.closedOnce h.closedOnce, Or.inr hopen, fun hstop => ?_, hport.trans h.bindPort⟩
      exact absurd (hrequest.symm.trans hstop) (by decide)

theorem stop_sound (h : Sound bindPort w) (calls : StopCalls) :
    Sound bindPort (stop w calls).1 := by
  have hnone := closedVar_of_holds h.listenFd
  exact ⟨h.closedOnce.closeIfOpen h.listenFd, Or.inl hnone, fun _ => hnone, h.bindPort⟩

theorem join_sound (h : Sound bindPort w) (calls : JoinCalls) :
    Sound bindPort (join w calls).1 := by
  obtain ⟨hfds, hlisten, hstop, hport, -, -⟩ := join_spec w calls
  refine ⟨?_, ?_, ?_, hport.trans h.bindPort⟩
  · rw [hfds]
    exact h.closedOnce
  · rw [hfds, hlisten]
    exact h.listenFd
  · rw [hstop, hlisten]
    exact h.stopped

theorem Sound.withFailed (h : Sound bindPort w) (failed : Option Mark) :
    Sound bindPort { w with failed := failed } :=
  ⟨h.closedOnce, h.listenFd, h.stopped, h.bindPort⟩

theorem step_sound (h : Sound bindPort w) (hstep : w.step c = some w') : Sound bindPort w' := by
  cases c with
  | loop calls =>
      obtain rfl := Option.some.inj hstep
      exact (loop_sound h calls).withFailed _
  | stop calls =>
      obtain rfl := Option.some.inj hstep
      exact (stop_sound h calls).withFailed none
  | join calls =>
      obtain rfl := Option.some.inj hstep
      exact (join_sound h calls).withFailed none
  | clients slots activeClientCount =>
      obtain rfl := Option.some.inj hstep
      exact ⟨h.closedOnce, h.listenFd, h.stopped, h.bindPort⟩

/-! ## A failed start -/

/-- The server is not started, and nothing that was created since is left. -/
structure LeftNothing (since : Mark) (w : World) : Prop where
  listenFd : w.self.listenFd = -1
  acceptTaskerHandle : w.self.acceptTaskerHandle = none
  isStarted : w.self.isStarted = false
  sockets : w.fds.ClosedFrom since.sockets (-1)
  taskers : ∀ i, since.taskers ≤ i → i < w.taskers → i ∈ w.disposed

/-- If the last call was a loop that failed, it has left nothing. -/
def AllOrNothing (w : World) : Prop := ∀ mark ∈ w.failed, LeftNothing mark w

/-- A loop call on a server that is not started creates and starts the accept tasker, or cannot open
    the socket and finds no listening socket of an earlier start. -/
def StartsOrNothingOpen (w : World) : Call → Prop
  | .loop calls =>
    w.self.isStarted = false →
      (calls.opens.Succeed w.self.bindPort → calls.create = none ∧ calls.start = none) ∧
        (¬calls.opens.Succeed w.self.bindPort → w.self.listenFd = -1)
  | _ => True

/-- A server that is not started has no accept tasker. -/
def Idle (w : World) : Prop := w.self.isStarted = false → w.self.acceptTaskerHandle = none

theorem join_idle (h : Idle w) (calls : JoinCalls) : Idle (join w calls).1 := by
  obtain ⟨-, -, -, -, htasker, hstarted⟩ := join_spec w calls
  intro hidle
  rcases hstarted with hsame | hnone
  · rcases htasker with hnone | htasker
    · exact hnone
    · rw [htasker]
      exact h (hsame.symm.trans hidle)
  · exact hnone

/-- **One step.** A loop call leaves all or nothing exactly under the condition. -/
theorem step_allOrNothing (h : Sound bindPort w) (hidle : Idle w) (hstep : w.step c = some w') :
    (AllOrNothing w' ↔ StartsOrNothingOpen w c) ∧ (AllOrNothing w' → Idle w') := by
  cases c with
  | loop calls =>
      have hcase := loop_cases h.closedOnce calls
      obtain rfl := Option.some.inj hstep
      rcases hloop : loop w calls with ⟨w', err⟩
      rw [hloop] at hcase
      simp only
      cases hcase with
      | alreadyStarted hstarted =>
          refine ⟨⟨fun _ hfalse => ?_, fun _ => ?_⟩, fun _ => hidle⟩
          · exact absurd (hstarted.symm.trans hfalse) (by decide)
          · exact fun mark hmark => absurd hmark (by simp)
      | notOpened fds err hfalse hfails hext hleft =>
          refine ⟨⟨fun hall _ => ⟨fun hopens => absurd hopens hfails, fun _ => ?_⟩, ?_⟩,
            fun _ => hidle⟩
          · exact (hall _ rfl).listenFd
          · rintro hcond mark ⟨⟩
            exact ⟨(hcond hfalse).2 hfails, hidle hfalse, hfalse, hleft,
              fun i hle hlt => absurd hlt (Nat.not_lt.2 hle)⟩
      | notStarted _ err hfalse hopens hfails hext hopen _ _ =>
          have hnot : ¬AllOrNothing { w' with failed := some ⟨w.fds.kinds.length, w.taskers⟩ } := by
            intro hall
            have hneg : w'.self.listenFd = -1 := (hall _ rfl).listenFd
            have hnonneg := hopen.nonneg
            omega
          refine ⟨⟨fun hall => absurd hall hnot, fun hcond => ?_⟩, fun hall => absurd hall hnot⟩
          exact absurd ((hcond hfalse).1 hopens) hfails
      | started _ hfalse hopens hcreate hstart hext hopen _ hstarted _ _ =>
          refine ⟨⟨fun _ _ => ⟨fun _ => ⟨hcreate, hstart⟩, fun hfails => absurd hopens hfails⟩,
            fun _ => ?_⟩, fun _ hfalse => ?_⟩
          · exact fun mark hmark => absurd hmark (by simp)
          · exact absurd (hstarted.symm.trans hfalse) (by decide)
  | stop calls =>
      obtain rfl := Option.some.inj hstep
      exact ⟨⟨fun _ => trivial, fun _ _ hmark => absurd hmark (by simp)⟩, fun _ => hidle⟩
  | join calls =>
      obtain rfl := Option.some.inj hstep
      exact ⟨⟨fun _ => trivial, fun _ _ hmark => absurd hmark (by simp)⟩,
        fun _ => join_idle hidle calls⟩
  | clients slots activeClientCount =>
      obtain rfl := Option.some.inj hstep
      exact ⟨⟨fun _ => trivial, fun _ _ hmark => absurd hmark (by simp)⟩, fun _ => hidle⟩

/-- **Starting is all or nothing** along a run exactly when every step is taken under the
    condition. -/
theorem allOrNothing_iff (bindHost : Option String) (bindPort : ℤ) (slotCount : ℕ)
    (cs : List Call) :
    Run.AllStates World.step AllOrNothing (.configured bindHost bindPort slotCount) cs ↔
      Run.AllSteps World.step StartsOrNothingOpen (.configured bindHost bindPort slotCount) cs := by
  refine Run.allStates_iff_allSteps (I := fun w => Sound bindPort w ∧ Idle w) ?_ ?_ ?_ cs _
    ⟨configured_sound bindHost bindPort slotCount, fun _ => rfl⟩
    fun mark hmark => absurd hmark (by simp [World.configured])
  · rintro s c s' ⟨hsound, hidle⟩ - hstep hall
    exact ⟨step_sound hsound hstep, (step_allOrNothing hsound hidle hstep).2 hall⟩
  · rintro s c s' ⟨hsound, hidle⟩ - hstep
    exact (step_allOrNothing hsound hidle hstep).1
  · rintro s c - - hblocked
    cases c <;> exact absurd hblocked (by simp [World.step])

/-! ## Stopping first -/

/-- Join is called after stop, and a loop call that opens the socket starts the server. -/
def StopsFirst (w : World) : Call → Prop
  | .loop calls =>
    calls.opens.Succeed w.self.bindPort → calls.create = none ∧ calls.start = none
  | .join _ => w.self.stopRequested = true
  | _ => True

/-- A server that is not started has no listening socket. -/
def Closed (w : World) : Prop := w.self.isStarted = false → w.self.listenFd = -1

theorem step_closed (h : Sound bindPort w) (hnone : Closed w) (hstops : StopsFirst w c)
    (hstep : w.step c = some w') : Closed w' := by
  cases c with
  | loop calls =>
      have hcase := loop_cases h.closedOnce calls
      obtain rfl := Option.some.inj hstep
      rcases hloop : loop w calls with ⟨w', err⟩
      rw [hloop] at hcase
      cases hcase with
      | alreadyStarted _ => exact hnone
      | notOpened _ _ _ _ _ _ => exact hnone
      | notStarted _ _ _ hopens hfails _ _ _ _ => exact absurd (hstops hopens) hfails
      | started _ _ _ _ _ _ _ _ hstarted _ _ =>
          exact fun hidle => absurd (hidle.symm.trans hstarted) (by decide)
  | stop calls =>
      obtain rfl := Option.some.inj hstep
      exact fun _ => closedVar_of_holds h.listenFd
  | join calls =>
      obtain rfl := Option.some.inj hstep
      exact fun _ => (join_spec w calls).listenFd.trans (h.stopped hstops)
  | clients slots activeClientCount =>
      obtain rfl := Option.some.inj hstep
      exact hnone

/-- With callers that stop the server before they join it, only a loop call that fails after it has
    opened the socket leaves anything. -/
theorem allOrNothing_of_stopsFirst (bindHost : Option String) (bindPort : ℤ) (slotCount : ℕ)
    {cs : List Call}
    (h : Run.AllSteps World.step StopsFirst (.configured bindHost bindPort slotCount) cs) :
    Run.AllStates World.step AllOrNothing (.configured bindHost bindPort slotCount) cs := by
  refine (allOrNothing_iff bindHost bindPort slotCount cs).2 ?_
  refine Run.allSteps_of_invariant (I := fun w => Sound bindPort w ∧ Closed w) ?_ ?_ cs _
    ⟨configured_sound bindHost bindPort slotCount, fun _ => rfl⟩ h
  · rintro s c s' ⟨hsound, hnone⟩ hstops hstep
    exact ⟨step_sound hsound hstep, step_closed hsound hnone hstops hstep⟩
  · rintro s c ⟨-, hnone⟩ hstops
    cases c with
    | loop calls => exact fun hidle => ⟨hstops, fun _ => hnone hidle⟩
    | stop calls => trivial
    | join calls => trivial
    | clients slots activeClientCount => trivial

/-! ## Later starts -/

/-- The calls of a loop call all succeed. -/
structure LoopCalls.Succeed (calls : LoopCalls) (bindPort : ℤ) : Prop where
  opens : calls.opens.Succeed bindPort
  create : calls.create = none
  start : calls.start = none

/-- The server is started: it has an open listening socket and an accept tasker. -/
structure Serving (w : World) : Prop where
  isStarted : w.self.isStarted = true
  listenFd : w.fds.IsOpen w.self.listenFd .listening
  acceptTaskerHandle : w.self.acceptTaskerHandle.isSome

/-- A loop call whose calls succeed starts a server that is not started, whatever earlier calls have
    left. -/
theorem loop_serving (h : Sound bindPort w) (hidle : w.self.isStarted = false) {calls : LoopCalls}
    (hsucceed : calls.Succeed bindPort) : (loop w calls).2 = none ∧ Serving (loop w calls).1 := by
  have hcase := loop_cases h.closedOnce calls
  rcases hloop : loop w calls with ⟨w', err⟩
  rw [hloop] at hcase
  cases hcase with
  | alreadyStarted hstarted => exact absurd (hidle.symm.trans hstarted) (by decide)
  | notOpened _ _ _ hfails _ _ => exact absurd (h.bindPort ▸ hsucceed.opens) hfails
  | notStarted _ _ _ _ hfails _ _ _ _ => exact absurd ⟨hsucceed.create, hsucceed.start⟩ hfails
  | started _ _ _ _ _ _ hopen htasker hstarted _ _ =>
      exact ⟨rfl, hstarted, hopen, by rw [htasker]; rfl⟩

/-- **Starting is all or nothing** in exactly the runs in which every loop call on a server that is
    not started creates and starts the accept tasker once it has opened the socket, and, when it
    cannot open it, finds no listening socket left by an earlier start. In every run a loop call
    whose calls succeed starts the server. -/
theorem start_all_or_nothing_iff (bindHost : Option String) (bindPort : ℤ) (slotCount : ℕ)
    (cs : List Call) :
    (Run.AllStates World.step AllOrNothing (.configured bindHost bindPort slotCount) cs ↔
        Run.AllSteps World.step StartsOrNothingOpen (.configured bindHost bindPort slotCount) cs) ∧
      ∀ w, Run.exec World.step (.configured bindHost bindPort slotCount) cs = some w →
        w.self.isStarted = false → ∀ calls : LoopCalls, calls.Succeed bindPort →
          (loop w calls).2 = none ∧ Serving (loop w calls).1 := by
  refine ⟨allOrNothing_iff bindHost bindPort slotCount cs, ?_⟩
  intro w hw hidle calls hsucceed
  have hsound : Sound bindPort w :=
    Run.exec_invariant (fun _ _ _ hs hstep => step_sound hs hstep)
      (configured_sound bindHost bindPort slotCount) hw
  exact loop_serving hsound hidle hsucceed

/-- The socket is opened, and `dttasker_create` fails in `dtsemaphore_create`. -/
def createFails : LoopCalls where
  opens := { getaddrinfo := true, addresses := [⟨true, none, true⟩], listen := none }
  create := some (.new .fail "pthread_mutex_init failed: 11")
  start := none

/-- The loop call returns the error, and the object keeps the listening socket, still open. -/
theorem createFails_keeps_socket :
    ∃ w, Run.exec World.step (.configured none 8080 16) [.loop createFails] = some w ∧
      (loop (.configured none 8080 16) createFails).2 = createFails.create ∧
      w.self.isStarted = false ∧ w.self.listenFd = 0 ∧ w.fds.IsOpen 0 .listening ∧
      ¬AllOrNothing w := by
  refine ⟨_, rfl, rfl, rfl, rfl, ⟨Int.le_refl 0, rfl, List.not_mem_nil⟩, fun hall => ?_⟩
  exact absurd (hall _ rfl).listenFd (by decide : (0 : ℤ) ≠ -1)

end DthttpdLinuxSocket
