import DtmcLinux.Dthttpd.SlotsCorrect
import DtmcLinux.Dthttpd.Start

set_option autoImplicit false

/-! # Stopping the whole HTTP server

`dthttpd_linux_socket_loop`, `_stop` and `_join`, called one after another by one thread, while the
accept loop and the client threads run beside it. Join waits for the accept tasker and then, without
the lock, for the tasker of one slot after the other; it can fail or time out at each of them and be
called again. The listening socket is the subject of `Start`. -/

namespace DthttpdLinuxSocket

open DescriptorTable

/-- The accept tasker: whether `dttasker_stop` was called for it, and whether it has a thread that has
    not exited. -/
structure AcceptTasker where
  stopRequested : Bool
  alive : Bool
  deriving DecidableEq

/-- Where the thread is that calls the functions of the server. -/
inductive MainPc where
  | idle
  /-- in stop, before `dtlock_acquire` -/
  | stopping
  /-- in join, in `dttasker_join` of the accept tasker -/
  | joiningAccept
  /-- in join, about to look at the slot `k` -/
  | joiningSlot (k : ℕ)
  deriving DecidableEq

/-- The server with all its threads. `polled` says that the accept loop has not been told to stop by
    `dttasker_poll` and is in `accept`, `joined` that the last call was a join, which has returned without
    an error and without a timeout. `acceptedAtStop` is the number of connections that were accepted when
    stop first told the accept tasker. -/
structure Daemon where
  clients : State
  stopRequested : Bool
  isStarted : Bool
  acceptTasker : Option AcceptTasker
  polled : Bool
  main : MainPc
  joined : Bool
  acceptedAtStop : ℕ

/-- A configured server that has not been started. -/
def Daemon.configured (defaultMaxConcurrentConnections maxConcurrentConnections : ℤ) : Daemon where
  clients :=
    { State.configured defaultMaxConcurrentConnections maxConcurrentConnections with
      acceptPc := .stopped }
  stopRequested := false
  isStarted := false
  acceptTasker := none
  polled := false
  main := .idle
  joined := false
  acceptedAtStop := 0

/-- The `errno` of `accept`. -/
inductive AcceptErrno where
  | eintr
  /-- `EBADF` or `EINVAL` -/
  | notListening
  | other
  deriving DecidableEq

inductive DaemonEvent where
  /-- with the errors of `_open_listen_socket`, `dttasker_create`, and of `dttasker_start` before there is
      a thread -/
  | loop (opens create start : Option Dterr)
  | stop
  /-- stop tells the clients' taskers, under the lock -/
  | stopClients
  | join
  /-- the next step of join, with what `dttasker_join` does if it is called -/
  | joinStep (result : TaskerJoin)
  /-- the accept loop calls `dttasker_poll` -/
  | poll
  | accepts
  | acceptFails (errno : AcceptErrno)
  /-- the thread of the accept tasker exits -/
  | acceptExits
  /-- a step of the accept loop with a connection, or of a client thread -/
  | clients (e : Event)

namespace Daemon

variable (s : Daemon)

/-- The accept tasker has been told to stop. -/
def told : Bool := s.acceptTasker.any (·.stopRequested)

/-! ## The calls -/

/-- `dthttpd_linux_socket_loop`; the wait of `dttasker_start` for the accept thread does not fail. -/
def loop (opens create start : Option Dterr) : Daemon :=
  let s := { s with joined := false }
  if s.isStarted then s
  else
    match opens with
    | some _ => s
    | none =>
      let s := { s with stopRequested := false }
      match create with
      | some _ => { s with acceptTasker := none }
      | none =>
        match start with
        | some _ => { s with acceptTasker := some { stopRequested := false, alive := false } }
        | none =>
          { s with
            acceptTasker := some { stopRequested := false, alive := true }
            isStarted := true
            polled := false
            clients := { s.clients with acceptPc := .top } }

/-- `dthttpd_linux_socket_stop` up to `dtlock_acquire`. -/
def stop : Daemon :=
  { s with
    stopRequested := true
    acceptTasker := s.acceptTasker.map fun t => { t with stopRequested := true }
    main := .stopping
    joined := false
    acceptedAtStop := if s.told then s.acceptedAtStop else s.clients.accepted }

/-- `dthttpd_linux_socket_join` begins. -/
def join : Daemon :=
  { s with
    main := if s.acceptTasker.isSome then .joiningAccept else .joiningSlot 0
    joined := false }

/-- The accept tasker in join. -/
def joinAccept : TaskerJoin → Option Daemon
  | .joined =>
    if s.acceptTasker.any (·.alive) then none
    else some { s with acceptTasker := none, main := .joiningSlot 0 }
  | _ => some { s with main := .idle }

/-- The tasker `i` of the slot `k` in join. -/
def joinSlot (k i : ℕ) (slot : Slot) : TaskerJoin → Option Daemon
  | .joined =>
    match s.clients.join i with
    | (_, true) => none
    | (clients, false) =>
      some { s with
        clients := ((clients.closeIfOpen .dispatcher slot.clientFd).dispose i).setSlot k
          { slot with isJoined := true, clientFd := closedVar slot.clientFd, taskerHandle := none }
        main := .joiningSlot (k + 1) }
  | _ => some { s with main := .idle }

/-- One step of join. -/
def joinStep (result : TaskerJoin) : Option Daemon :=
  match s.main with
  | .joiningAccept => s.joinAccept result
  | .joiningSlot k =>
    match s.clients.slots[k]? with
    | none =>
      some { s with
        isStarted := false
        clients := { s.clients with activeClientCount := 0 }
        main := .idle
        joined := true }
    | some slot =>
      match slot.taskerHandle with
      | none => some { s with main := .joiningSlot (k + 1) }
      | some i => s.joinSlot k i slot result
  | _ => none

/-! ## The accept loop -/

/-- Whether the accept loop ends after a failed `accept`. -/
def acceptEnds : AcceptErrno → Bool
  | .eintr => false
  | .notListening => true
  | .other => s.stopRequested

/-- `accept` returns. -/
def acceptReturns (result : AcceptResult) : Option Daemon :=
  if s.polled then
    (DthttpdLinuxSocket.step s.clients (.accept result)).map fun clients =>
      { s with clients := clients, polled := false }
  else none

/-- The accept loop calls `dttasker_poll`. -/
def poll : Option Daemon :=
  if s.polled then none
  else if s.told then
    (DthttpdLinuxSocket.step s.clients (.accept .stop)).map fun clients =>
      { s with clients := clients }
  else if s.clients.acceptPc = .top then some { s with polled := true }
  else none

/-! ## Runs -/

def step (s : Daemon) : DaemonEvent → Option Daemon
  | .loop opens create start => if s.main = .idle then some (s.loop opens create start) else none
  | .stop => if s.main = .idle then some s.stop else none
  | .stopClients =>
    if s.main = .stopping ∧ s.clients.LockFree then some { s with main := .idle } else none
  | .join => if s.main = .idle then some s.join else none
  | .joinStep result => s.joinStep result
  | .poll => s.poll
  | .accepts => s.acceptReturns .client
  | .acceptFails errno => s.acceptReturns (.failed (s.acceptEnds errno))
  | .acceptExits =>
    match s.acceptTasker with
    | some t =>
      if t.alive ∧ s.clients.acceptPc = .stopped then
        some { s with acceptTasker := some { t with alive := false } }
      else none
    | none => none
  | .clients (.accept _) => none
  | .clients e =>
    (DthttpdLinuxSocket.step s.clients e).map fun clients => { s with clients := clients }

end Daemon

/-! ## What a step of a client leaves alone -/

variable {s s' : State}

/-- A client thread takes a step: it is further on, and no handle of a slot changes. -/
structure ThreadMoves (s s' : State) (i : ℕ) (t : ClientTask) : Prop where
  acceptPc : s'.acceptPc = s.acceptPc
  accepted : s'.accepted = s.accepted
  handles : s'.slots.map (·.taskerHandle) = s.slots.map (·.taskerHandle)
  live : t.pc ≠ .exited

/-- A slot is changed, but not its handle. -/
theorem map_handle_set {slots : List Slot} {k : ℕ} {slot slot' : Slot} (hslot : slots[k]? = some slot)
    (heq : slot'.taskerHandle = slot.taskerHandle) :
    (slots.set k slot').map (·.taskerHandle) = slots.map (·.taskerHandle) := by
  rw [List.map_set, heq]
  exact set_self (by rw [List.getElem?_map, hslot]; rfl)

theorem closeIfOpen_frame (s : State) (who : Party) (fd : ℤ) :
    (s.closeIfOpen who fd).acceptPc = s.acceptPc ∧ (s.closeIfOpen who fd).accepted = s.accepted ∧
      (s.closeIfOpen who fd).slots = s.slots ∧ (s.closeIfOpen who fd).tasks = s.tasks := by
  unfold State.closeIfOpen
  split
  · exact ⟨rfl, rfl, rfl, rfl⟩
  · exact ⟨rfl, rfl, rfl, rfl⟩

theorem taskStep_moves {i : ℕ} {t : ClientTask} {slot : Slot} (hslot : s.slots[t.slot]? = some slot)
    {e : TaskEvent} (hstep : taskStep s i t slot e = some s') : ThreadMoves s s' i t := by
  cases e with
  | ready dterr =>
      simp only [taskStep, Option.ite_none_right_eq_some] at hstep
      obtain ⟨hpc, hstep⟩ := hstep
      cases dterr with
      | none =>
          obtain rfl := Option.some.inj hstep
          exact ⟨rfl, rfl, rfl, by rw [hpc]; simp⟩
      | some err =>
          obtain rfl := Option.some.inj hstep
          exact ⟨rfl, rfl, rfl, by rw [hpc]; simp⟩
  | served =>
      simp only [taskStep, Option.ite_none_right_eq_some, Option.some.injEq] at hstep
      obtain ⟨hpc, rfl⟩ := hstep
      exact ⟨rfl, rfl, rfl, by rw [hpc]; simp⟩
  | close =>
      simp only [taskStep, Option.ite_none_right_eq_some, Option.some.injEq] at hstep
      obtain ⟨hpc, rfl⟩ := hstep
      obtain ⟨hacceptPc, haccepted, hslots, -⟩ := closeIfOpen_frame s (.worker i) slot.clientFd
      refine ⟨hacceptPc, haccepted, ?_, by rw [hpc]; simp⟩
      show ((s.closeIfOpen (.worker i) slot.clientFd).slots.set t.slot _).map _ = _
      rw [hslots]
      exact map_handle_set hslot rfl
  | markFinished =>
      simp only [taskStep, Option.ite_none_right_eq_some, Option.some.injEq] at hstep
      obtain ⟨⟨hpc, -⟩, rfl⟩ := hstep
      unfold markSlotFinished
      split
      · exact ⟨rfl, rfl, map_handle_set hslot rfl, by rw [hpc]; simp⟩
      · exact ⟨rfl, rfl, rfl, by rw [hpc]; simp⟩
  | exit dterr =>
      simp only [taskStep, Option.ite_none_right_eq_some, Option.some.injEq] at hstep
      obtain ⟨hpc, rfl⟩ := hstep
      exact ⟨rfl, rfl, rfl, by rw [hpc]; simp⟩

theorem join_slots (s : State) (i : ℕ) : (s.join i).1.slots = s.slots := by
  unfold State.join
  split
  · split
    · rfl
    · rfl
  · rfl

theorem dispose_slots (s : State) (i : ℕ) : (s.dispose i).slots = s.slots := by
  unfold State.dispose
  split
  · rfl
  · rfl

/-- How far the threads are, and which of them are ready. -/
def State.progress (s : State) : List (TaskPc × Bool) := s.tasks.map fun t => (t.pc, t.ready)

/-- Nothing is accepted, and there are as many slots. -/
structure Within (s s' : State) : Prop where
  accepted : s'.accepted = s.accepted
  length : s'.slots.length = s.slots.length

theorem Within.refl (s : State) : Within s s := ⟨rfl, rfl⟩

theorem Within.trans {s₁ s₂ s₃ : State} (h : Within s₁ s₂) (h' : Within s₂ s₃) : Within s₁ s₃ :=
  ⟨h'.accepted.trans h.accepted, h'.length.trans h.length⟩

/-- Taskers may have been joined and disposed, and slots freed. -/
structure Reaped (s s' : State) : Prop where
  within : Within s s'
  acceptPc : s'.acceptPc = s.acceptPc
  progress : s'.progress = s.progress

theorem Reaped.refl (s : State) : Reaped s s := ⟨.refl s, rfl, rfl⟩

theorem Reaped.trans {s₁ s₂ s₃ : State} (h : Reaped s₁ s₂) (h' : Reaped s₂ s₃) : Reaped s₁ s₃ :=
  ⟨h.within.trans h'.within, h'.acceptPc.trans h.acceptPc, h'.progress.trans h.progress⟩

theorem Reaped.setSlot (s : State) (k : ℕ) (slot : Slot) : Reaped s (s.setSlot k slot) :=
  ⟨⟨rfl, List.length_set⟩, rfl, rfl⟩

theorem Reaped.setTask {i : ℕ} {t t' : ClientTask} (ht : s.tasks[i]? = some t) (hpc : t'.pc = t.pc)
    (hready : t'.ready = t.ready) : Reaped s (s.setTask i t') := by
  refine ⟨⟨rfl, rfl⟩, rfl, ?_⟩
  show (s.tasks.set i t').map _ = s.tasks.map _
  rw [List.map_set, hpc, hready]
  exact set_self (by rw [List.getElem?_map, ht]; rfl)

theorem Reaped.dispose (s : State) (i : ℕ) : Reaped s (s.dispose i) := by
  unfold State.dispose
  split
  · next t ht => exact .setTask ht rfl rfl
  · exact .refl s

theorem Reaped.join (s : State) (i : ℕ) : Reaped s (s.join i).1 := by
  unfold State.join
  split
  · next t ht =>
      split
      · exact .setTask ht rfl rfl
      · exact .refl s
  · exact .refl s

theorem Reaped.closeIfOpen (s : State) (who : Party) (fd : ℤ) : Reaped s (s.closeIfOpen who fd) := by
  obtain ⟨hacceptPc, haccepted, hslots, htasks⟩ := closeIfOpen_frame s who fd
  exact ⟨⟨haccepted, congrArg List.length hslots⟩, hacceptPc, congrArg (List.map _) htasks⟩

theorem tryReapFinishedSlot_reaped (s : State) (k : ℕ) (slot : Slot) (join : Option Dterr) :
    Reaped s (tryReapFinishedSlot s k slot join).1 := by
  unfold tryReapFinishedSlot
  split
  · exact .refl s
  · split
    · exact .setSlot s k _
    · next i hhandle =>
        split
        · split
          · exact .refl s
          · have hjoin := Reaped.join s i
            split
            · next hres =>
                rw [hres] at hjoin
                exact hjoin
            · next hres =>
                rw [hres] at hjoin
                exact (hjoin.trans (.dispose _ i)).trans (.setSlot _ k _)
        · exact (Reaped.dispose s i).trans (.setSlot _ k _)

theorem reapFinishedSlotsLocked_reaped (joins : ℕ → Option Dterr) (ks : List ℕ) (s : State) :
    Reaped s (reapFinishedSlotsLocked joins ks s).1 := by
  induction ks generalizing s with
  | nil => exact .refl s
  | cons k ks ih =>
      unfold reapFinishedSlotsLocked
      cases hslot : s.slots[k]? with
      | none => exact .refl s
      | some slot =>
          have hreaped := tryReapFinishedSlot_reaped s k slot (joins k)
          rcases hreap : tryReapFinishedSlot s k slot (joins k) with ⟨s', _ | err⟩
          · rw [hreap] at hreaped
            simp only [hreap]
            exact hreaped.trans (ih s')
          · rw [hreap] at hreaped
            simp only [hreap]
            exact hreaped

/-- What the critical section of the accept loop comes to: the connection is given up, or there is a new
    thread for it. -/
inductive Assigned (s : State) (fd : ℕ) (s' : State) : Prop where
  | givenUp (hpc : s'.acceptPc = .rejecting fd ∨ s'.acceptPc = .cleanup fd) (hwithin : Within s s')
      (hprogress : s'.progress = s.progress)
  | started (k : ℕ) (hpc : s'.acceptPc = .starting fd k s.tasks.length) (hwithin : Within s s')
      (hprogress : s'.progress = s.progress ++ [(.created, false)])

theorem assign_assigned (s : State) (fd : ℕ) (calls : AssignCalls) :
    Assigned s fd (assign s fd calls) := by
  have hreaped := reapFinishedSlotsLocked_reaped calls.joins (List.range s.slots.length) s
  unfold assign
  rcases hreap : reapFinishedSlotsLocked calls.joins (List.range s.slots.length) s with ⟨s₁, _ | err⟩
  · rw [hreap] at hreaped
    show Assigned s fd (if _ then _ else _)
    split
    · exact .givenUp (.inl rfl) ⟨hreaped.within.1, hreaped.within.2⟩ hreaped.progress
    · split
      · exact .givenUp (.inl rfl) ⟨hreaped.within.1, hreaped.within.2⟩ hreaped.progress
      · next k hfind =>
          have hlength : ∀ slot, (s₁.slots.set k slot).length = s.slots.length := fun slot =>
            List.length_set.trans hreaped.within.length
          unfold assignSlot
          split
          · exact .givenUp (.inr rfl) ⟨hreaped.within.accepted, hlength _⟩ hreaped.progress
          · split
            · exact .givenUp (.inr rfl) ⟨hreaped.within.accepted, hlength _⟩ hreaped.progress
            · have htasks : s₁.tasks.length = s.tasks.length := by
                have htasks := congrArg List.length hreaped.progress
                simpa only [State.progress, List.length_map] using htasks
              refine .started k (by rw [← htasks]) ⟨hreaped.within.accepted, hlength _⟩ ?_
              rw [← hreaped.progress]
              exact List.map_append
  · rw [hreap] at hreaped
    exact .givenUp (.inr rfl) ⟨hreaped.within.1, hreaped.within.2⟩ hreaped.progress

/-- What a step can do that is not a return of `accept`, when the wait of `dttasker_start` does not fail. -/
inductive ClientsMove (s : State) (event : Event) (s' : State) : Prop where
  | assigns (fd : ℕ) (hpc : s.acceptPc = .accepted fd) (hassigned : Assigned s fd s')
  | counts (fd k i : ℕ) (hpc : s.acceptPc = .starting fd k i) (hpc' : s'.acceptPc = .top)
      (hwithin : Within s s') (hprogress : s'.progress = s.progress)
  | closes (fd : ℕ) (hpc : s.acceptPc = .rejecting fd ∨ s.acceptPc = .cleanup fd)
      (hpc' : s'.acceptPc = .top) (hwithin : Within s s') (hprogress : s'.progress = s.progress)
  | thread (i : ℕ) (t : ClientTask) (slot : Slot) (e : TaskEvent) (hevent : event = .task i e)
      (ht : s.tasks[i]? = some t) (hslot : s.slots[t.slot]? = some slot)
      (hstep : taskStep s i t slot e = some s')

theorem step_clientsMove {e : Event} (haccept : ∀ result, e ≠ .accept result)
    (hwait : WaitSucceeds s e) (hstep : step s e = some s') : ClientsMove s e s' := by
  cases e with
  | accept result => exact absurd rfl (haccept result)
  | assign calls =>
      simp only [step] at hstep
      split at hstep
      · next fd hpc =>
          obtain rfl := Option.some.inj hstep
          exact .assigns fd hpc (assign_assigned s fd calls)
      · cases hstep
  | started wait =>
      obtain rfl : wait = none := hwait
      simp only [step, started] at hstep
      split at hstep
      · next fd k i hpc =>
          obtain ⟨-, hs⟩ := Option.ite_none_right_eq_some.1 hstep
          obtain rfl := Option.some.inj hs
          exact .counts fd k i hpc rfl ⟨rfl, rfl⟩ rfl
      · cases hstep
  | reject =>
      simp only [step] at hstep
      split at hstep
      · next fd hpc =>
          obtain rfl := Option.some.inj hstep
          have hclosed := Reaped.closeIfOpen s .dispatcher fd
          exact .closes fd (.inl hpc) rfl ⟨hclosed.within.1, hclosed.within.2⟩ hclosed.progress
      · cases hstep
  | cleanup =>
      simp only [step] at hstep
      split at hstep
      · next fd hpc =>
          obtain rfl := Option.some.inj hstep
          have hclosed := Reaped.closeIfOpen s .dispatcher fd
          exact .closes fd (.inr hpc) rfl ⟨hclosed.within.1, hclosed.within.2⟩ hclosed.progress
      · cases hstep
  | task i e =>
      simp only [step] at hstep
      split at hstep
      · cases hstep
      · next t ht =>
          split at hstep
          · cases hstep
          · next slot hslot => exact .thread i t slot e rfl ht hslot hstep

/-- Without the accept loop only the client threads move, and the slots keep their handles. -/
theorem ClientsMove.ofStopped {e : Event} (h : ClientsMove s e s') (hstopped : s.acceptPc = .stopped) :
    s'.acceptPc = .stopped ∧ s'.slots.map (·.taskerHandle) = s.slots.map (·.taskerHandle) ∧
      ∃ t ∈ s.tasks, t.pc ≠ .exited := by
  cases h with
  | assigns fd hpc _ => exact absurd (hpc.symm.trans hstopped) nofun
  | counts fd k i hpc => exact absurd (hpc.symm.trans hstopped) nofun
  | closes fd hpc =>
      rcases hpc with hpc | hpc
      · exact absurd (hpc.symm.trans hstopped) nofun
      · exact absurd (hpc.symm.trans hstopped) nofun
  | thread i t slot e hevent ht hslot hstep =>
      have hmoves := taskStep_moves hslot hstep
      exact ⟨hmoves.acceptPc.trans hstopped, hmoves.handles, t, List.mem_of_getElem? ht, hmoves.live⟩

theorem ClientsMove.within {e : Event} (h : ClientsMove s e s') : Within s s' := by
  cases h with
  | assigns fd hpc hassigned =>
      cases hassigned with
      | givenUp _ hwithin _ => exact hwithin
      | started k _ hwithin _ => exact hwithin
  | counts fd k i hpc hpc' hwithin => exact hwithin
  | closes fd hpc hpc' hwithin => exact hwithin
  | thread i t slot e hevent ht hslot hstep =>
      have hmoves := taskStep_moves hslot hstep
      refine ⟨hmoves.accepted, ?_⟩
      simpa only [List.length_map] using congrArg List.length hmoves.handles

/-- While the accept loop is about to poll or to accept, it is so after a step of a client thread. -/
theorem ClientsMove.ofTop {e : Event} (h : ClientsMove s e s') (htop : s.acceptPc = .top) :
    s'.acceptPc = .top := by
  cases h with
  | assigns fd hpc _ => exact absurd (hpc.symm.trans htop) nofun
  | counts fd k i hpc hpc' => exact hpc'
  | closes fd hpc hpc' => exact hpc'
  | thread i t slot e hevent ht hslot hstep => exact (taskStep_moves hslot hstep).acceptPc.trans htop

/-- What a step of join can do. -/
inductive JoinMove (s : Daemon) : TaskerJoin → Daemon → Prop where
  /-- `dttasker_join` fails or times out -/
  | givesUp {result : TaskerJoin} (hresult : result ≠ .joined) (hmain : s.main ≠ .idle) :
      JoinMove s result { s with main := .idle }
  | acceptJoined (hmain : s.main = .joiningAccept) (hexited : ¬s.acceptTasker.any (·.alive) = true) :
      JoinMove s .joined { s with acceptTasker := none, main := .joiningSlot 0 }
  | passes {result : TaskerJoin} (k : ℕ) (slot : Slot) (hmain : s.main = .joiningSlot k)
      (hslot : s.clients.slots[k]? = some slot) (hhandle : slot.taskerHandle = none) :
      JoinMove s result { s with main := .joiningSlot (k + 1) }
  | joined (k i : ℕ) (slot : Slot) (clients : State) (hmain : s.main = .joiningSlot k)
      (hslot : s.clients.slots[k]? = some slot) (hhandle : slot.taskerHandle = some i)
      (hjoin : s.clients.join i = (clients, false)) :
      JoinMove s .joined { s with
        clients := ((clients.closeIfOpen .dispatcher slot.clientFd).dispose i).setSlot k
          { slot with isJoined := true, clientFd := closedVar slot.clientFd, taskerHandle := none }
        main := .joiningSlot (k + 1) }
  | ends {result : TaskerJoin} (k : ℕ) (hmain : s.main = .joiningSlot k)
      (hnone : s.clients.slots[k]? = none) :
      JoinMove s result { s with
        isStarted := false
        clients := { s.clients with activeClientCount := 0 }
        main := .idle
        joined := true }

theorem joinStep_moves {s s' : Daemon} {result : TaskerJoin} (hstep : s.joinStep result = some s') :
    JoinMove s result s' := by
  unfold Daemon.joinStep at hstep
  split at hstep
  · next hmain =>
      have hbusy : s.main ≠ .idle := by
        rw [hmain]
        exact nofun
      cases result with
      | failed err =>
          obtain rfl := Option.some.inj hstep
          exact .givesUp nofun hbusy
      | timeout =>
          obtain rfl := Option.some.inj hstep
          exact .givesUp nofun hbusy
      | joined =>
          simp only [Daemon.joinAccept] at hstep
          split at hstep
          · cases hstep
          · next hexited =>
              obtain rfl := Option.some.inj hstep
              exact .acceptJoined hmain hexited
  · next k hmain =>
      have hbusy : s.main ≠ .idle := by
        rw [hmain]
        exact nofun
      split at hstep
      · next hnone =>
          obtain rfl := Option.some.inj hstep
          exact .ends k hmain hnone
      · next slot hslot =>
          split at hstep
          · next hhandle =>
              obtain rfl := Option.some.inj hstep
              exact .passes k slot hmain hslot hhandle
          · next i hhandle =>
              cases result with
              | failed err =>
                  obtain rfl := Option.some.inj hstep
                  exact .givesUp nofun hbusy
              | timeout =>
                  obtain rfl := Option.some.inj hstep
                  exact .givesUp nofun hbusy
              | joined =>
                  simp only [Daemon.joinSlot] at hstep
                  split at hstep
                  · cases hstep
                  · next clients hjoin =>
                      obtain rfl := Option.some.inj hstep
                      exact .joined k i slot clients hmain hslot hhandle hjoin
  · cases hstep

/-! ## Nothing is left -/

/-- No thread runs, every slot is free, and every connection is closed. -/
structure Quiet (s : Daemon) : Prop where
  acceptTasker : s.acceptTasker = none
  notStarted : s.isStarted = false
  acceptPc : s.clients.acceptPc = .stopped
  slots : ∀ slot ∈ s.clients.slots,
    slot.isActive = false ∧ slot.taskerHandle = none ∧ slot.clientFd = -1
  threads : ∀ t ∈ s.clients.tasks, Retired t
  closed : ∀ fd < s.clients.accepted, fd ∈ released s.clients.closes
  count : s.clients.activeClientCount = 0

/-- When no slot has a handle, every thread has been joined. -/
theorem Inv.retired (h : Inv s) (hfree : ∀ slot ∈ s.slots, slot.taskerHandle = none) :
    ∀ t ∈ s.tasks, Retired t := by
  intro t ht
  obtain ⟨i, hi⟩ := List.mem_iff_getElem?.1 ht
  rcases h.table.hasSlot i t hi with hret | ⟨slot, hslot, hhandle⟩
  · exact hret
  · exact absurd (hhandle.symm.trans (hfree slot (List.mem_of_getElem? hslot))) nofun

theorem Inv.free (h : Inv s) (hfree : ∀ slot ∈ s.slots, slot.taskerHandle = none) :
    ∀ slot ∈ s.slots, slot.isActive = false ∧ slot.taskerHandle = none ∧ slot.clientFd = -1 := by
  intro slot hslot
  obtain ⟨k, hk⟩ := List.mem_iff_getElem?.1 hslot
  cases h.table.slotOk k slot hk with
  | free hactive hhandle hfd => exact ⟨hactive, hhandle, hfd⟩
  | busy i t hhandle => exact absurd (hhandle.symm.trans (hfree slot hslot)) nofun

theorem Inv.count_eq_zero (h : Inv s) (hfree : ∀ slot ∈ s.slots, slot.taskerHandle = none)
    (hstopped : s.acceptPc = .stopped) : s.activeClientCount = 0 := by
  have hcount := h.count
  have hnone : s.slots.countP (·.isActive) = 0 := by
    refine List.countP_eq_zero.2 fun slot hslot => ?_
    rw [(h.free hfree slot hslot).1]
    exact Bool.false_ne_true
  rw [hstopped, hnone] at hcount
  exact (Int.add_zero _).symm.trans hcount

theorem Inv.closed (h : Inv s) (hfree : ∀ slot ∈ s.slots, slot.taskerHandle = none)
    (hstopped : s.acceptPc = .stopped) : ∀ fd < s.accepted, fd ∈ released s.closes := by
  intro fd hfd
  rcases h.handoff.covered fd hfd with hrel | hheld | ⟨o, ho, rfl⟩
  · exact hrel
  · rw [hstopped] at hheld
    cases hheld
  · obtain ⟨t, ht, rfl⟩ := List.mem_map.1 ho
    refine (h.handoff.released_iff _ ho).2 ?_
    show t.pc.beforeClose = false
    rw [(h.retired hfree t ht).exited]
    rfl

/-- Join changes one slot, and joins and disposes of its tasker. -/
theorem joinSlot_reaped {i : ℕ} (hjoin : s.join i = (s', false)) (k : ℕ) (slot slot' : Slot) :
    Reaped s (((s'.closeIfOpen .dispatcher slot.clientFd).dispose i).setSlot k slot') ∧
      (((s'.closeIfOpen .dispatcher slot.clientFd).dispose i).setSlot k slot').slots =
        s.slots.set k slot' := by
  have hreaped := Reaped.join s i
  have hslots := join_slots s i
  rw [hjoin] at hreaped hslots
  refine ⟨?_, ?_⟩
  · have hclosed := hreaped.trans (.closeIfOpen s' .dispatcher slot.clientFd)
    exact (hclosed.trans (.dispose _ i)).trans (.setSlot _ k slot')
  · show ((s'.closeIfOpen .dispatcher slot.clientFd).dispose i).slots.set k slot' = _
    rw [dispose_slots, (closeIfOpen_frame s' _ _).2.2.1]
    exact congrArg (fun slots => slots.set k slot') hslots

/-- Join joins the thread of a slot: the thread has closed its connection itself. -/
theorem joinSlot_inv (h : Inv s) {k i : ℕ} {slot : Slot} (hslot : s.slots[k]? = some slot)
    (hhandle : slot.taskerHandle = some i) (hjoin : s.join i = (s', false)) :
    Inv (((s'.closeIfOpen .dispatcher slot.clientFd).dispose i).setSlot k
      { slot with isJoined := true, clientFd := closedVar slot.clientFd, taskerHandle := none }) := by
  obtain ⟨t, ht, -, -, -, -, hfd⟩ := h.table.busy hslot hhandle
  have hexited : t.pc = .exited := by
    by_contra hlive
    simp [State.join, ht, hlive] at hjoin
  obtain rfl : s.setTask i { t with joined := true } = s' := by
    simpa [State.join, ht, hexited] using hjoin
  rw [hexited] at hfd
  replace hfd : slot.clientFd = -1 := hfd
  have hclose : (s.setTask i { t with joined := true }).closeIfOpen .dispatcher slot.clientFd =
      s.setTask i { t with joined := true } := by
    rw [hfd]
    rfl
  have hclosedVar : closedVar slot.clientFd = slot.clientFd := by
    rw [hfd]
    rfl
  rw [hclose, hclosedVar]
  exact (reap_inv h hslot hhandle ht hexited).1

/-! ## The invariant -/

/-- **The invariant** of the server with all its threads. -/
structure DaemonInv (s : Daemon) : Prop where
  slots : Inv s.clients
  accepting : s.clients.acceptPc = .stopped ∨ ∃ t, s.acceptTasker = some t ∧ t.alive = true
  started : ∀ t, s.acceptTasker = some t → t.alive = true → s.isStarted = true
  polled : s.polled = true → s.clients.acceptPc = .top
  lastOne : s.told = true → s.clients.accepted + s.polled.toNat ≤ s.acceptedAtStop + 1
  joining : ∀ k, s.main = .joiningSlot k → s.acceptTasker = none ∧
    ∀ j < k, ∀ slot, s.clients.slots[j]? = some slot → slot.taskerHandle = none
  quiet : s.joined = true → s.main = .idle ∧ Quiet s

namespace DaemonInv

variable {s s' : Daemon}

/-- Without an accept tasker there is no accept loop. -/
theorem stopped (h : DaemonInv s) (hnone : s.acceptTasker = none) :
    s.clients.acceptPc = .stopped := by
  rcases h.accepting with hstopped | ⟨t, ht, -⟩
  · exact hstopped
  · rw [hnone] at ht
    cases ht

/-- In a call, the last one is not a join that has returned. -/
theorem notJoined (h : DaemonInv s) (hmain : s.main ≠ .idle) : s.joined = false := by
  cases hjoined : s.joined with
  | false => rfl
  | true => exact absurd (h.quiet hjoined).1 hmain

/-- A call begins or ends that is not join, and the accept tasker stays as it is. -/
theorem call (h : DaemonInv s) {main : MainPc} (hmain : ∀ k, main ≠ .joiningSlot k) :
    DaemonInv { s with main := main, joined := false } where
  slots := h.slots
  accepting := h.accepting
  started := h.started
  polled := h.polled
  lastOne := h.lastOne
  joining k hk := absurd hk (hmain k)
  quiet := nofun

theorem loop (h : DaemonInv s) (hmain : s.main = .idle) (opens create start : Option Dterr) :
    DaemonInv (s.loop opens create start) := by
  have hcall : DaemonInv { s with joined := false } := by
    have hcall : DaemonInv { s with main := .idle, joined := false } := h.call fun _ => nofun
    rwa [← hmain] at hcall
  have hjoining : ∀ k, s.main ≠ .joiningSlot k := fun k => by
    rw [hmain]
    exact nofun
  show DaemonInv (if s.isStarted then _ else _)
  split
  · exact hcall
  · next hstarted =>
      -- no accept loop is left from before
      have hstopped : s.clients.acceptPc = .stopped := by
        rcases h.accepting with hstopped | ⟨t, ht, halive⟩
        · exact hstopped
        · exact absurd (h.started t ht halive) hstarted
      cases opens with
      | some err => exact hcall
      | none =>
          cases create with
          | some err =>
              exact {
                slots := h.slots
                accepting := .inl hstopped
                started := fun t ht => nomatch ht
                polled := h.polled
                lastOne := nofun
                joining := fun k hk => absurd hk (hjoining k)
                quiet := nofun }
          | none =>
              cases start with
              | some err =>
                  refine {
                    slots := h.slots
                    accepting := .inl hstopped
                    started := ?_
                    polled := h.polled
                    lastOne := nofun
                    joining := fun k hk => absurd hk (hjoining k)
                    quiet := nofun }
                  intro t ht halive
                  obtain rfl := Option.some.inj ht
                  cases halive
              | none =>
                  exact {
                    slots := h.slots.moveTo (by rw [hstopped]; rfl) (by rw [hstopped]; rfl)
                    accepting := .inr ⟨_, rfl, rfl⟩
                    started := fun _ _ _ => rfl
                    polled := nofun
                    lastOne := nofun
                    joining := fun k hk => absurd hk (hjoining k)
                    quiet := nofun }

theorem stop (h : DaemonInv s) : DaemonInv s.stop where
  slots := h.slots
  accepting := by
    rcases h.accepting with hstopped | ⟨t, ht, halive⟩
    · exact .inl hstopped
    · exact .inr ⟨{ t with stopRequested := true }, by rw [Daemon.stop, ht]; rfl, halive⟩
  started t ht halive := by
    obtain ⟨t₀, ht₀, rfl⟩ := Option.map_eq_some_iff.1 ht
    exact h.started t₀ ht₀ halive
  polled := h.polled
  lastOne _ := by
    show s.clients.accepted + s.polled.toNat ≤
      (if s.told then s.acceptedAtStop else s.clients.accepted) + 1
    split
    · next htold => exact h.lastOne htold
    · exact Nat.add_le_add_left (Bool.toNat_le s.polled) _
  joining := nofun
  quiet := nofun

theorem join (h : DaemonInv s) : DaemonInv s.join := by
  unfold Daemon.join
  cases htasker : s.acceptTasker with
  | some t =>
      have hcall : DaemonInv { s with main := .joiningAccept, joined := false } :=
        h.call fun _ => nofun
      rwa [htasker] at hcall
  | none =>
      refine {
        slots := h.slots, accepting := .inl (h.stopped htasker), started := nofun
        polled := h.polled, lastOne := fun htold => absurd htold Bool.false_ne_true
        joining := ?_, quiet := nofun }
      intro k hk
      obtain rfl : 0 = k := MainPc.joiningSlot.inj hk
      exact ⟨rfl, fun j hj => absurd hj (Nat.not_lt_zero j)⟩

/-- A join that has come to the end of the slots. -/
theorem joinEnds (h : DaemonInv s) {k : ℕ} (hmain : s.main = .joiningSlot k)
    (hnone : s.clients.slots[k]? = none) :
    DaemonInv { s with
      isStarted := false
      clients := { s.clients with activeClientCount := 0 }
      main := .idle
      joined := true } := by
  obtain ⟨htasker, hbefore⟩ := h.joining k hmain
  have hstopped := h.stopped htasker
  have hfree : ∀ slot ∈ s.clients.slots, slot.taskerHandle = none := by
    intro slot hslot
    obtain ⟨j, hj⟩ := List.mem_iff_getElem?.1 hslot
    have hlt := (List.getElem?_eq_some_iff.1 hj).1
    exact hbefore j (Nat.lt_of_lt_of_le hlt (List.getElem?_eq_none_iff.1 hnone)) slot hj
  have hcount := h.slots.count_eq_zero hfree hstopped
  have hsame : { s.clients with activeClientCount := 0 } = s.clients := by
    rw [← hcount]
  rw [hsame]
  exact {
    slots := h.slots
    accepting := .inl hstopped
    started := fun t ht => absurd (htasker.symm.trans ht) nofun
    polled := h.polled
    lastOne := h.lastOne
    joining := nofun
    quiet := fun _ => ⟨rfl, {
      acceptTasker := htasker
      notStarted := rfl
      acceptPc := hstopped
      slots := h.slots.free hfree
      threads := h.slots.retired hfree
      closed := h.slots.closed hfree hstopped
      count := hcount }⟩ }

/-- Join goes on to the next slot. -/
theorem joinNext (h : DaemonInv s) {k : ℕ} (hmain : s.main = .joiningSlot k) {clients : State}
    (hslots : Inv clients) (hpc : clients.acceptPc = s.clients.acceptPc)
    (haccepted : clients.accepted = s.clients.accepted)
    (hfree : ∀ slot, clients.slots[k]? = some slot → slot.taskerHandle = none)
    (hothers : ∀ j ≠ k, clients.slots[j]? = s.clients.slots[j]?) :
    DaemonInv { s with clients := clients, main := .joiningSlot (k + 1) } where
  slots := hslots
  accepting := by
    show clients.acceptPc = .stopped ∨ _
    rw [hpc]
    exact h.accepting
  started := h.started
  polled hpolled := hpc.trans (h.polled hpolled)
  lastOne htold := by
    show clients.accepted + _ ≤ _
    rw [haccepted]
    exact h.lastOne htold
  joining l hl := by
    obtain ⟨htasker, hbefore⟩ := h.joining k hmain
    obtain rfl : k + 1 = l := MainPc.joiningSlot.inj hl
    refine ⟨htasker, fun j hj slot hslot => ?_⟩
    by_cases hjk : j = k
    · exact hfree slot (hjk ▸ hslot)
    · rw [hothers j hjk] at hslot
      exact hbefore j (by omega) slot hslot
  quiet hjoined := by
    have hnot := h.notJoined (by rw [hmain]; exact nofun)
    exact absurd (hnot.symm.trans hjoined) nofun

theorem joinMove (h : DaemonInv s) {result : TaskerJoin} (hmove : JoinMove s result s') :
    DaemonInv s' := by
  cases hmove with
  | givesUp hresult hmain =>
      have hends : DaemonInv { s with main := .idle, joined := false } := h.call fun _ => nofun
      rwa [← h.notJoined hmain] at hends
  | acceptJoined hmain hexited =>
      have hstopped : s.clients.acceptPc = .stopped := by
        rcases h.accepting with hstopped | ⟨t, ht, halive⟩
        · exact hstopped
        · rw [ht] at hexited
          exact absurd halive hexited
      have hnot := h.notJoined (by rw [hmain]; exact nofun)
      refine {
        slots := h.slots, accepting := .inl hstopped, started := nofun, polled := h.polled
        lastOne := fun htold => absurd htold Bool.false_ne_true
        joining := ?_, quiet := fun hjoined => absurd (hnot.symm.trans hjoined) nofun }
      intro k hk
      obtain rfl : 0 = k := MainPc.joiningSlot.inj hk
      exact ⟨rfl, fun j hj => absurd hj (Nat.not_lt_zero j)⟩
  | passes k slot hmain hslot hhandle =>
      refine h.joinNext hmain h.slots rfl rfl ?_ fun _ _ => rfl
      intro slot' hslot'
      obtain rfl := Option.some.inj (hslot.symm.trans hslot')
      exact hhandle
  | joined k i slot clients hmain hslot hhandle hjoin =>
      obtain ⟨hreaped, hslots⟩ := joinSlot_reaped hjoin k slot
        { slot with isJoined := true, clientFd := closedVar slot.clientFd, taskerHandle := none }
      have hlt := (List.getElem?_eq_some_iff.1 hslot).1
      refine h.joinNext hmain (joinSlot_inv h.slots hslot hhandle hjoin) hreaped.acceptPc
        hreaped.within.accepted ?_ ?_
      · intro slot' hslot'
        rw [hslots, List.getElem?_set_self hlt] at hslot'
        rw [← Option.some.inj hslot']
      · intro j hj
        rw [hslots, List.getElem?_set_ne hj.symm]
  | ends k hmain hnone => exact h.joinEnds hmain hnone

/-- `accept` returns, and the accept loop goes on with the connection, to the next poll, or ends. -/
theorem acceptReturns (h : DaemonInv s) {result : AcceptResult}
    (hstep : s.acceptReturns result = some s') : DaemonInv s' := by
  obtain ⟨hpolled, hs⟩ := Option.ite_none_right_eq_some.1 hstep
  obtain ⟨clients, hclients, rfl⟩ := Option.map_eq_some_iff.1 hs
  have htop := h.polled hpolled
  have halive := h.accepting.resolve_left fun hstopped => nomatch htop.symm.trans hstopped
  have haccepted : clients.accepted ≤ s.clients.accepted + 1 ∧ clients.slots = s.clients.slots := by
    obtain ⟨-, hclients⟩ := Option.ite_none_right_eq_some.1 hclients
    cases result with
    | stop =>
        obtain rfl := Option.some.inj hclients
        exact ⟨Nat.le_succ _, rfl⟩
    | failed ends =>
        obtain rfl := Option.some.inj hclients
        exact ⟨Nat.le_succ _, rfl⟩
    | client =>
        obtain rfl := Option.some.inj hclients
        exact ⟨Nat.le_refl _, rfl⟩
  refine {
    slots := step_inv _ (.accept result) _ h.slots trivial hclients, accepting := .inr halive
    started := h.started, polled := nofun, lastOne := ?_, joining := ?_, quiet := ?_ }
  · intro htold
    have hlast := h.lastOne htold
    rw [hpolled] at hlast
    exact Nat.le_trans haccepted.1 hlast
  · intro k hk
    obtain ⟨t, ht, -⟩ := halive
    rw [(h.joining k hk).1] at ht
    cases ht
  · intro hjoined
    exact nomatch htop.symm.trans (h.quiet hjoined).2.acceptPc

theorem poll (h : DaemonInv s) (hstep : s.poll = some s') : DaemonInv s' := by
  unfold Daemon.poll at hstep
  split at hstep
  · cases hstep
  · next hpolled =>
      split at hstep
      · -- the accept loop sees that it is to stop
        obtain ⟨clients, hclients, rfl⟩ := Option.map_eq_some_iff.1 hstep
        have hinv := step_inv _ (.accept .stop) _ h.slots trivial hclients
        obtain ⟨htop, hs⟩ := Option.ite_none_right_eq_some.1 hclients
        obtain rfl := Option.some.inj hs
        exact {
          slots := hinv
          accepting := .inl rfl
          started := h.started
          polled := fun hp => absurd hp hpolled
          lastOne := h.lastOne
          joining := h.joining
          quiet := fun hjoined => nomatch htop.symm.trans (h.quiet hjoined).2.acceptPc }
      · next htold =>
          obtain ⟨htop, hs⟩ := Option.ite_none_right_eq_some.1 hstep
          obtain rfl := Option.some.inj hs
          exact {
            slots := h.slots
            accepting := h.accepting
            started := h.started
            polled := fun _ => htop
            lastOne := fun ht => absurd ht htold
            joining := h.joining
            quiet := fun hjoined => nomatch htop.symm.trans (h.quiet hjoined).2.acceptPc }

/-- The thread of the accept tasker exits. -/
theorem acceptExits (h : DaemonInv s) {t : AcceptTasker} (htasker : s.acceptTasker = some t)
    (hstopped : s.clients.acceptPc = .stopped) :
    DaemonInv { s with acceptTasker := some { t with alive := false } } where
  slots := h.slots
  accepting := .inl hstopped
  started u hu halive := by
    obtain rfl := Option.some.inj hu
    cases halive
  polled := h.polled
  lastOne htold := h.lastOne (by rw [Daemon.told, htasker]; exact htold)
  joining k hk := absurd (htasker.symm.trans (h.joining k hk).1) nofun
  quiet hjoined := absurd (htasker.symm.trans (h.quiet hjoined).2.acceptTasker) nofun

/-- A step of the accept loop with a connection, or of a client thread. -/
theorem clientsStep (h : DaemonInv s) {e : Event} (haccept : ∀ result, e ≠ .accept result)
    (hwait : WaitSucceeds s.clients e) {clients : State}
    (hstep : DthttpdLinuxSocket.step s.clients e = some clients) :
    DaemonInv { s with clients := clients } := by
  have hmove := step_clientsMove haccept hwait hstep
  refine {
    slots := step_inv _ e _ h.slots hwait hstep, accepting := ?_, started := h.started
    polled := fun hpolled => hmove.ofTop (h.polled hpolled), lastOne := ?_, joining := ?_
    quiet := ?_ }
  · rcases h.accepting with hstopped | halive
    · exact .inl (hmove.ofStopped hstopped).1
    · exact .inr halive
  · intro htold
    show clients.accepted + _ ≤ _
    rw [hmove.within.accepted]
    exact h.lastOne htold
  · intro k hk
    obtain ⟨htasker, hbefore⟩ := h.joining k hk
    obtain ⟨-, hhandles, -⟩ := hmove.ofStopped (h.stopped htasker)
    refine ⟨htasker, fun j hj slot' hslot' => ?_⟩
    have hmap : (s.clients.slots.map (·.taskerHandle))[j]? = some slot'.taskerHandle := by
      rw [← hhandles, List.getElem?_map]
      exact congrArg (Option.map (·.taskerHandle)) hslot'
    obtain ⟨slot, hslot, heq⟩ := Option.map_eq_some_iff.1 ((List.getElem?_map ..).symm.trans hmap)
    exact heq.symm.trans (hbefore j hj slot hslot)
  · intro hjoined
    obtain ⟨-, hquiet⟩ := h.quiet hjoined
    obtain ⟨-, -, t, ht, hlive⟩ := hmove.ofStopped hquiet.acceptPc
    exact absurd (hquiet.threads t ht).exited hlive

end DaemonInv

/-! ## Runs -/

/-- The wait of `dttasker_start` for a client thread it has created does not fail. -/
def StartWaits (s : Daemon) : DaemonEvent → Prop
  | .clients e => WaitSucceeds s.clients e
  | _ => True

theorem daemonStep_clients {s s' : Daemon} {e : Event} (hstep : s.step (.clients e) = some s') :
    (∀ result, e ≠ .accept result) ∧ ∃ clients, step s.clients e = some clients ∧
      s' = { s with clients := clients } := by
  cases e with
  | accept result => cases hstep
  | _ =>
      obtain ⟨clients, hclients, heq⟩ := Option.map_eq_some_iff.1 hstep
      exact ⟨fun _ => nofun, clients, hclients, heq.symm⟩

theorem daemonStep_inv (s : Daemon) (e : DaemonEvent) (s' : Daemon) (h : DaemonInv s)
    (hwait : StartWaits s e) (hstep : s.step e = some s') : DaemonInv s' := by
  cases e with
  | loop opens create start =>
      obtain ⟨hmain, hs⟩ := Option.ite_none_right_eq_some.1 hstep
      obtain rfl := Option.some.inj hs
      exact h.loop hmain opens create start
  | stop =>
      obtain ⟨-, hs⟩ := Option.ite_none_right_eq_some.1 hstep
      obtain rfl := Option.some.inj hs
      exact h.stop
  | stopClients =>
      obtain ⟨⟨hmain, -⟩, hs⟩ := Option.ite_none_right_eq_some.1 hstep
      obtain rfl := Option.some.inj hs
      have hcall : DaemonInv { s with main := .idle, joined := false } := h.call fun _ => nofun
      rwa [← h.notJoined (by rw [hmain]; exact nofun)] at hcall
  | join =>
      obtain ⟨-, hs⟩ := Option.ite_none_right_eq_some.1 hstep
      obtain rfl := Option.some.inj hs
      exact h.join
  | joinStep result => exact h.joinMove (joinStep_moves hstep)
  | poll => exact h.poll hstep
  | accepts => exact h.acceptReturns hstep
  | acceptFails errno => exact h.acceptReturns hstep
  | acceptExits =>
      simp only [Daemon.step] at hstep
      split at hstep
      · next t htasker =>
          obtain ⟨⟨-, hstopped⟩, hs⟩ := Option.ite_none_right_eq_some.1 hstep
          obtain rfl := Option.some.inj hs
          exact h.acceptExits htasker hstopped
      · cases hstep
  | clients e =>
      obtain ⟨haccept, clients, hclients, rfl⟩ := daemonStep_clients hstep
      exact h.clientsStep haccept hwait hclients

theorem daemon_configured_inv {default : ℤ} (hdefault : 0 < default) (limit : ℤ) :
    DaemonInv (Daemon.configured default limit) where
  slots := (configured_inv hdefault limit).moveTo rfl rfl
  accepting := .inl rfl
  started := nofun
  polled := nofun
  lastOne := nofun
  joining := nofun
  quiet := nofun

/-- What the server looks like in every state: the slots and connections are right; once stop has told the
    accept loop, it accepts at most one more connection; and a join that has returned without an error and
    without a timeout leaves nothing. -/
structure StopsCleanly (s : Daemon) : Prop where
  slots : SlotsRight s.clients
  lastOne : s.told = true → s.clients.accepted ≤ s.acceptedAtStop + 1
  joined : s.joined = true → Quiet s

theorem DaemonInv.stopsCleanly {s : Daemon} (h : DaemonInv s) : StopsCleanly s where
  slots := h.slots.slotsRight
  lastOne htold := Nat.le_trans (Nat.le_add_right _ _) (h.lastOne htold)
  joined hjoined := (h.quiet hjoined).2

/-- **The server stops cleanly**, in every run of loop, stop and join, with any errors and timeouts, the
    accept loop and the client threads, in which the waits of `dttasker_start` do not fail: it may be
    stopped and started again any number of times. -/
theorem server_stops_cleanly (default limit : ℤ) (hdefault : 0 < default) (es : List DaemonEvent)
    (hwait : Run.AllSteps Daemon.step StartWaits (Daemon.configured default limit) es) :
    Run.AllStates Daemon.step StopsCleanly (Daemon.configured default limit) es :=
  (Run.allStates_of_allSteps daemonStep_inv es _ (daemon_configured_inv hdefault limit) hwait).imp
    fun _ h => h.stopsCleanly

instance (s : Daemon) : (e : DaemonEvent) → Decidable (StartWaits s e)
  | .clients e => inferInstanceAs (Decidable (WaitSucceeds s.clients e))
  | .loop _ _ _ => .isTrue trivial
  | .stop => .isTrue trivial
  | .stopClients => .isTrue trivial
  | .join => .isTrue trivial
  | .joinStep _ => .isTrue trivial
  | .poll => .isTrue trivial
  | .accepts => .isTrue trivial
  | .acceptFails _ => .isTrue trivial
  | .acceptExits => .isTrue trivial

/-- With one slot: a client is being served when stop is called, and another one connects before the accept
    loop sees it. Join times out on the accept tasker and then on the first client, and succeeds at the
    third call. -/
def stopRun : List DaemonEvent :=
  [.loop none none none, .poll, .accepts, .clients (.assign .succeed), .clients (.task 0 (.ready none)),
    .clients (.started none), .poll, .stop, .stopClients, .accepts, .clients (.assign .succeed),
    .clients .reject, .poll, .join, .joinStep .timeout, .acceptExits, .join, .joinStep .joined,
    .joinStep .timeout, .clients (.task 0 .served), .clients (.task 0 .close),
    .clients (.task 0 .markFinished), .clients (.task 0 (.exit none)), .join, .joinStep .joined,
    .joinStep .joined]

theorem server_stops_cleanly_stopRun :
    Run.AllStates Daemon.step StopsCleanly (Daemon.configured 4 1) stopRun ∧
      (Run.exec Daemon.step (Daemon.configured 4 1) stopRun).map (fun s => (s.joined, s.clients.closes)) =
        some (true, [(.worker 0, 0), (.dispatcher, 1)]) :=
  ⟨server_stops_cleanly 4 1 (by decide) stopRun (by decide +kernel), by decide +kernel⟩

end DthttpdLinuxSocket
