import DtmcLinux.Dthttpd.Shutdown
import DtmcLinux.Foundation.FairRun
import Mathlib.Algebra.BigOperators.Group.List.Basic
import Mathlib.Data.Nat.Find

set_option autoImplicit false

/-! # Join returns

After stop, every step of the accept loop, of a client thread or of join brings the end of join nearer,
and until then there is always one that can be taken. So a join that waits for as long as it takes returns,
whatever the clients do, if the threads are not held up for ever. -/

namespace DthttpdLinuxSocket

/-! ## What is left to do -/

/-- The steps a client thread has before it. -/
def TaskPc.left : TaskPc → ℕ
  | .created => 5
  | .serving => 4
  | .closing => 3
  | .finishing => 2
  | .returning => 1
  | .exited => 0

/-- The steps the accept loop has before it once it has been told to stop, those of a thread it may still
    create included. -/
def AcceptPc.left (polled : Bool) : AcceptPc → ℕ
  | .top => if polled then 10 else 2
  | .accepted _ => 9
  | .starting _ _ _ => 3
  | .rejecting _ => 3
  | .cleanup _ => 3
  | .stopped => 1

/-- The steps join has before it. -/
def MainPc.left (slots : ℕ) : MainPc → ℕ
  | .joiningAccept => slots + 2
  | .joiningSlot k => slots + 1 - k
  | _ => 0

def MainPc.joins : MainPc → Bool
  | .joiningAccept => true
  | .joiningSlot _ => true
  | _ => false

/-- There is an accept thread. -/
def Daemon.accepting (s : Daemon) : Bool := s.acceptTasker.any (·.alive)

/-- The steps the client threads have before them. -/
def State.threadsLeft (s : State) : ℕ := (s.progress.map fun p => p.1.left).sum

/-- The steps all of them have before them. -/
def Daemon.left (s : Daemon) : ℕ :=
  s.clients.threadsLeft + (if s.accepting then s.clients.acceptPc.left s.polled else 0) +
    s.main.left s.clients.slots.length

/-- A step of the accept loop, of a client thread, or of a join whose `dttasker_join` neither fails nor
    times out; `dttasker_ready` and the wait of `dttasker_start` do not fail. -/
def Moves : DaemonEvent → Prop
  | .loop _ _ _ => False
  | .stop => False
  | .stopClients => False
  | .join => False
  | .joinStep .joined => True
  | .joinStep _ => False
  | .clients (.started wait) => wait = none
  | .clients (.task _ (.ready dterr)) => dterr = none
  | _ => True

/-- `dttasker_ready` and the wait of `dttasker_start` do not fail. -/
def Starts : DaemonEvent → Prop
  | .clients (.started wait) => wait = none
  | .clients (.task _ (.ready dterr)) => dterr = none
  | _ => True

/-- Some thread can go on. -/
def CanMove (s : Daemon) : Prop := ∃ e s', Moves e ∧ s.step e = some s'

/-- A join has not returned, and some thread can go on. -/
def JoinCanMove (s : Daemon) : Prop := s.main.joins = true ∧ CanMove s

/-- Every thread that has come to `dttasker_ready` is ready, and `dttasker_start` waits for a thread. -/
structure Prompt (s : State) : Prop where
  ready : ∀ p ∈ s.progress, p.1 ≠ .created → p.2 = true
  starting : ∀ fd k i, s.acceptPc = .starting fd k i → i < s.tasks.length

/-- In a join after stop. -/
structure Joining (s : Daemon) : Prop where
  inv : DaemonInv s
  prompt : Prompt s.clients
  joins : s.main.joins = true
  told : ∀ t, s.acceptTasker = some t → t.stopRequested = true

/-! ## The threads -/

variable {s s' : State}

/-- A thread has fewer steps before it than it had, and is ready if it was created or ready before. -/
def Advances (s s' : State) (i : ℕ) (t : ClientTask) : Prop :=
  ∃ pc ready, s'.progress = s.progress.set i (pc, ready) ∧ pc.left < t.pc.left ∧
    (t.pc = .created ∨ t.ready = true → ready = true)

theorem progress_setTask (s : State) (i : ℕ) (t : ClientTask) :
    (s.setTask i t).progress = s.progress.set i (t.pc, t.ready) := List.map_set ..

theorem taskStep_advances {i : ℕ} {t : ClientTask} {slot : Slot} {e : TaskEvent}
    (hready : ∀ dterr, e = .ready dterr → dterr = none)
    (hstep : taskStep s i t slot e = some s') : Advances s s' i t := by
  -- after the first step the thread stays as ready as it is
  have hkeep : ∀ {pc : TaskPc}, t.pc = pc → pc ≠ .created →
      (t.pc = .created ∨ t.ready = true → t.ready = true) := by
    intro pc hpc hne h
    exact h.resolve_left fun hcreated => hne (hpc.symm.trans hcreated)
  cases e with
  | ready dterr =>
      obtain rfl := hready dterr rfl
      obtain ⟨hpc, hs⟩ := Option.ite_none_right_eq_some.1 hstep
      obtain rfl := Option.some.inj hs
      exact ⟨.serving, _, progress_setTask s i _, by rw [hpc]; decide, fun _ => rfl⟩
  | served =>
      obtain ⟨hpc, hs⟩ := Option.ite_none_right_eq_some.1 hstep
      obtain rfl := Option.some.inj hs
      exact ⟨.closing, _, progress_setTask s i _, by rw [hpc]; decide, hkeep hpc nofun⟩
  | close =>
      obtain ⟨hpc, hs⟩ := Option.ite_none_right_eq_some.1 hstep
      obtain rfl := Option.some.inj hs
      refine ⟨.finishing, _, (progress_setTask _ i _).trans ?_, by rw [hpc]; decide, hkeep hpc nofun⟩
      exact congrArg (List.set · i _) (Reaped.closeIfOpen s (.worker i) slot.clientFd).progress
  | markFinished =>
      obtain ⟨⟨hpc, -⟩, hs⟩ := Option.ite_none_right_eq_some.1 hstep
      obtain rfl := Option.some.inj hs
      refine ⟨.returning, _, (progress_setTask _ i _).trans ?_, by rw [hpc]; decide, hkeep hpc nofun⟩
      refine congrArg (List.set · i _) ?_
      unfold markSlotFinished
      split
      · rfl
      · rfl
  | exit dterr =>
      obtain ⟨hpc, hs⟩ := Option.ite_none_right_eq_some.1 hstep
      obtain rfl := Option.some.inj hs
      refine ⟨.exited, _, progress_setTask s i _, by rw [hpc]; decide, fun h => ?_⟩
      show (t.ready || dterr.isSome) = true
      rw [hkeep hpc nofun h, Bool.true_or]

theorem sum_map_set_lt {α : Type*} {f : α → ℕ} {l : List α} {i : ℕ} {a b : α} (h : l[i]? = some a)
    (hlt : f b < f a) : ((l.set i b).map f).sum < (l.map f).sum := by
  induction l generalizing i with
  | nil => cases h
  | cons c l ih =>
      cases i with
      | zero =>
          obtain rfl := Option.some.inj h
          simpa using hlt
      | succ i =>
          have := ih h
          simpa using this

theorem progress_getElem? {i : ℕ} {t : ClientTask} (ht : s.tasks[i]? = some t) :
    s.progress[i]? = some (t.pc, t.ready) := by
  rw [State.progress, List.getElem?_map, ht]
  rfl

theorem Advances.sum_lt {i : ℕ} {t : ClientTask} (h : Advances s s' i t) (ht : s.tasks[i]? = some t) :
    s'.threadsLeft < s.threadsLeft := by
  obtain ⟨pc, ready, hprogress, hlt, -⟩ := h
  rw [State.threadsLeft, hprogress]
  exact sum_map_set_lt (progress_getElem? ht) hlt

/-! ## Threads become ready -/

theorem progress_length (s : State) : s.progress.length = s.tasks.length := List.length_map ..

/-- A step in which no thread advances and no thread is created. -/
theorem Prompt.same (h : Prompt s) (hprogress : s'.progress = s.progress)
    (hpc : ∀ fd k i, s'.acceptPc = .starting fd k i → s.acceptPc = .starting fd k i) : Prompt s' where
  ready := by
    rw [hprogress]
    exact h.ready
  starting fd k i hi := by
    have hlt := h.starting fd k i (hpc fd k i hi)
    rw [← progress_length, hprogress, progress_length]
    exact hlt

theorem Prompt.advance (h : Prompt s) {i : ℕ} {t : ClientTask} (ht : s.tasks[i]? = some t)
    (hadvances : Advances s s' i t) (hpc : s'.acceptPc = s.acceptPc) : Prompt s' := by
  obtain ⟨pc, ready, hprogress, -, hready⟩ := hadvances
  refine { ready := ?_, starting := ?_ }
  · intro p hp hcreated
    rw [hprogress] at hp
    rcases List.mem_or_eq_of_mem_set hp with hp | rfl
    · exact h.ready p hp hcreated
    · refine hready ?_
      by_cases hnew : t.pc = .created
      · exact .inl hnew
      · exact .inr (h.ready (t.pc, t.ready) (List.mem_of_getElem? (progress_getElem? ht)) hnew)
  · intro fd k j hj
    rw [← progress_length, hprogress, List.length_set, progress_length]
    exact h.starting fd k j (hpc ▸ hj)

theorem Starts.waitSucceeds {e : Event} (h : Starts (.clients e)) (s : State) : WaitSucceeds s e := by
  cases e with
  | started wait => exact h
  | _ => exact trivial

theorem Starts.ready {i : ℕ} {e : TaskEvent} (h : Starts (.clients (.task i e))) (dterr : Option Dterr)
    (he : e = .ready dterr) : dterr = none := by
  rw [he] at h
  exact h

theorem Starts.startWaits {e : DaemonEvent} (h : Starts e) (s : Daemon) : StartWaits s e := by
  cases e with
  | clients e => exact h.waitSucceeds s.clients
  | _ => exact trivial

/-- A step that brings join nearer starts its threads. -/
theorem Moves.starts {e : DaemonEvent} (h : Moves e) : Starts e := by
  cases e with
  | clients e =>
      cases e with
      | started wait => exact h
      | task i e =>
          cases e with
          | ready dterr => exact h
          | _ => exact trivial
      | _ => exact trivial
  | _ => exact trivial

theorem Moves.joined {result : TaskerJoin} (h : Moves (.joinStep result)) : result = .joined := by
  cases result with
  | joined => rfl
  | failed err => exact h.elim
  | timeout => exact h.elim

theorem Prompt.clientsMove (h : Prompt s) {e : Event} (hstarts : Starts (.clients e))
    (hmove : ClientsMove s e s') : Prompt s' := by
  cases hmove with
  | assigns fd hpc hassigned =>
      cases hassigned with
      | givenUp hpc' hwithin hprogress =>
          refine h.same hprogress fun fd' k i hi => ?_
          rcases hpc' with hpc' | hpc'
          · exact nomatch hpc'.symm.trans hi
          · exact nomatch hpc'.symm.trans hi
      | started k hpc' hwithin hprogress =>
          refine { ready := ?_, starting := ?_ }
          · intro p hp hcreated
            rw [hprogress] at hp
            rcases List.mem_append.1 hp with hp | hp
            · exact h.ready p hp hcreated
            · exact absurd (congrArg Prod.fst (List.mem_singleton.1 hp)) hcreated
          · intro fd' l i hi
            obtain ⟨-, -, rfl⟩ := AcceptPc.starting.inj (hpc'.symm.trans hi)
            have hlength := congrArg List.length hprogress
            rw [List.length_append, progress_length, progress_length] at hlength
            rw [hlength]
            exact Nat.lt_succ_self _
  | counts fd k i hpc hpc' hwithin hprogress =>
      exact h.same hprogress fun _ _ _ hi => nomatch hpc'.symm.trans hi
  | closes fd hpc hpc' hwithin hprogress =>
      exact h.same hprogress fun _ _ _ hi => nomatch hpc'.symm.trans hi
  | thread i t slot e hevent ht hslot hstep =>
      subst hevent
      exact h.advance ht (taskStep_advances hstarts.ready hstep) (taskStep_moves hslot hstep).acceptPc

/-- The accept loop ends, or has a connection. -/
theorem Prompt.acceptStep (h : Prompt s) {result : AcceptResult}
    (hstep : step s (.accept result) = some s') : Prompt s' := by
  obtain ⟨-, hs⟩ := Option.ite_none_right_eq_some.1 hstep
  cases result with
  | stop =>
      obtain rfl := Option.some.inj hs
      exact h.same rfl fun _ _ _ => nofun
  | failed ends =>
      obtain rfl := Option.some.inj hs
      cases ends with
      | true => exact h.same rfl fun _ _ _ => nofun
      | false => exact h.same rfl fun _ _ _ => nofun
  | client =>
      obtain rfl := Option.some.inj hs
      exact h.same rfl fun _ _ _ => nofun

theorem Prompt.loop {s : Daemon} (h : Prompt s.clients) (opens create start : Option Dterr) :
    Prompt (s.loop opens create start).clients := by
  show Prompt (Daemon.clients (if s.isStarted then _ else _))
  split
  · exact h
  · cases opens with
    | some err => exact h
    | none =>
        cases create with
        | some err => exact h
        | none =>
            cases start with
            | some err => exact h
            | none => exact h.same rfl fun _ _ _ => nofun

theorem Prompt.joinMove {s s' : Daemon} (h : Prompt s.clients) {result : TaskerJoin}
    (hmove : JoinMove s result s') : Prompt s'.clients := by
  cases hmove with
  | givesUp hresult hmain => exact h
  | acceptJoined hmain hexited => exact h
  | passes k slot hmain hslot hhandle => exact h
  | joined k i slot clients hmain hslot hhandle hjoin =>
      obtain ⟨hreaped, -⟩ := joinSlot_reaped hjoin k slot _
      exact h.same hreaped.progress fun _ _ _ hi => hreaped.acceptPc ▸ hi
  | ends k hmain hnone => exact h.same rfl fun _ _ _ hi => hi

theorem Prompt.daemonStep {s s' : Daemon} (h : Prompt s.clients) {e : DaemonEvent} (hstarts : Starts e)
    (hstep : s.step e = some s') : Prompt s'.clients := by
  cases e with
  | loop opens create start =>
      obtain ⟨-, hs⟩ := Option.ite_none_right_eq_some.1 hstep
      obtain rfl := Option.some.inj hs
      exact h.loop opens create start
  | stop =>
      obtain ⟨-, hs⟩ := Option.ite_none_right_eq_some.1 hstep
      obtain rfl := Option.some.inj hs
      exact h
  | stopClients =>
      obtain ⟨-, hs⟩ := Option.ite_none_right_eq_some.1 hstep
      obtain rfl := Option.some.inj hs
      exact h
  | join =>
      obtain ⟨-, hs⟩ := Option.ite_none_right_eq_some.1 hstep
      obtain rfl := Option.some.inj hs
      exact h
  | joinStep result => exact h.joinMove (joinStep_moves hstep)
  | poll =>
      simp only [Daemon.step, Daemon.poll] at hstep
      split at hstep
      · cases hstep
      · split at hstep
        · obtain ⟨clients, hclients, rfl⟩ := Option.map_eq_some_iff.1 hstep
          exact h.acceptStep hclients
        · obtain ⟨-, hs⟩ := Option.ite_none_right_eq_some.1 hstep
          obtain rfl := Option.some.inj hs
          exact h
  | accepts =>
      obtain ⟨-, hs⟩ := Option.ite_none_right_eq_some.1 hstep
      obtain ⟨clients, hclients, rfl⟩ := Option.map_eq_some_iff.1 hs
      exact h.acceptStep hclients
  | acceptFails errno =>
      obtain ⟨-, hs⟩ := Option.ite_none_right_eq_some.1 hstep
      obtain ⟨clients, hclients, rfl⟩ := Option.map_eq_some_iff.1 hs
      exact h.acceptStep hclients
  | acceptExits =>
      simp only [Daemon.step] at hstep
      split at hstep
      · obtain ⟨-, hs⟩ := Option.ite_none_right_eq_some.1 hstep
        obtain rfl := Option.some.inj hs
        exact h
      · cases hstep
  | clients e =>
      obtain ⟨haccept, clients, hclients, rfl⟩ := daemonStep_clients hstep
      exact h.clientsMove hstarts (step_clientsMove haccept (hstarts.waitSucceeds _) hclients)

/-! ## Every step brings the end nearer -/

/-- The client threads and the accept loop, once it does not poll. -/
theorem ClientsMove.left_lt {e : Event} (hmove : ClientsMove s e s') (hstarts : Starts (.clients e))
    {polled : Bool} (hpolled : polled = true → s.acceptPc = .top) :
    s'.threadsLeft + s'.acceptPc.left polled < s.threadsLeft + s.acceptPc.left polled := by
  -- a connection that is served or given up is behind the accept loop
  have htop : ∀ {pc : AcceptPc}, s.acceptPc = pc → pc ≠ .top → AcceptPc.left polled .top = 2 := by
    intro pc hpc hne
    cases polled with
    | false => rfl
    | true => exact absurd (hpc.symm.trans (hpolled rfl)) hne
  have hsame : s'.progress = s.progress → s'.threadsLeft = s.threadsLeft := by
    intro hprogress
    rw [State.threadsLeft, hprogress]
    rfl
  cases hmove with
  | assigns fd hpc hassigned =>
      rw [hpc]
      cases hassigned with
      | givenUp hpc' hwithin hprogress =>
          rw [hsame hprogress]
          rcases hpc' with hpc' | hpc'
          · rw [hpc']
            exact Nat.add_lt_add_left (show 3 < 9 by decide) _
          · rw [hpc']
            exact Nat.add_lt_add_left (show 3 < 9 by decide) _
      | started k hpc' hwithin hprogress =>
          have hthreads : s'.threadsLeft = s.threadsLeft + 5 := by
            rw [State.threadsLeft, hprogress, List.map_append, List.sum_append]
            rfl
          rw [hpc', hthreads]
          show s.threadsLeft + 5 + 3 < s.threadsLeft + 9
          omega
  | counts fd k i hpc hpc' hwithin hprogress =>
      rw [hsame hprogress, hpc', htop hpc nofun, hpc]
      exact Nat.lt_succ_self _
  | closes fd hpc hpc' hwithin hprogress =>
      rcases hpc with hpc | hpc
      · rw [hsame hprogress, hpc', htop hpc nofun, hpc]
        exact Nat.lt_succ_self _
      · rw [hsame hprogress, hpc', htop hpc nofun, hpc]
        exact Nat.lt_succ_self _
  | thread i t slot e hevent ht hslot hstep =>
      subst hevent
      rw [(taskStep_moves hslot hstep).acceptPc]
      exact Nat.add_lt_add_right ((taskStep_advances hstarts.ready hstep).sum_lt ht) _

/-- The accept loop after `accept`, and after it has been told to stop. -/
theorem acceptStep_left_lt {result : AcceptResult} {polled : Bool}
    (hpolled : result ≠ .stop → polled = true) (hstep : step s (.accept result) = some s') :
    s'.threadsLeft + s'.acceptPc.left false < s.threadsLeft + s.acceptPc.left polled ∧
      s'.slots = s.slots := by
  obtain ⟨htop, hs⟩ := Option.ite_none_right_eq_some.1 hstep
  rw [htop]
  cases result with
  | stop =>
      obtain rfl := Option.some.inj hs
      refine ⟨Nat.add_lt_add_left ?_ _, rfl⟩
      cases polled with
      | true => exact show 1 < 10 by decide
      | false => exact show 1 < 2 by decide
  | failed ends =>
      obtain rfl := Option.some.inj hs
      rw [hpolled nofun]
      cases ends with
      | true => exact ⟨Nat.add_lt_add_left (show 1 < 10 by decide) _, rfl⟩
      | false => exact ⟨Nat.add_lt_add_left (show 2 < 10 by decide) _, rfl⟩
  | client =>
      obtain rfl := Option.some.inj hs
      rw [hpolled nofun]
      exact ⟨Nat.add_lt_add_left (show 9 < 10 by decide) _, rfl⟩

namespace Joining

variable {s s' : Daemon}

/-- The accept loop is about to poll or to accept, so there is an accept thread, and it has been told. -/
theorem accepting_of_ne (h : Joining s) (hpc : s.clients.acceptPc ≠ .stopped) :
    s.accepting = true ∧ s.told = true := by
  obtain ⟨t, ht, halive⟩ := h.inv.accepting.resolve_left hpc
  rw [Daemon.accepting, Daemon.told, ht]
  exact ⟨halive, h.told t ht⟩

/-- Without an accept thread, the accept loop is at its end. -/
theorem stopped (h : Joining s) (hnot : s.accepting = false) : s.clients.acceptPc = .stopped := by
  by_contra hpc
  rw [(h.accepting_of_ne hpc).1] at hnot
  cases hnot

/-- The accept loop takes a step. -/
theorem acceptStep (h : Joining s) {result : AcceptResult} {clients : State}
    (hpolled : result ≠ .stop → s.polled = true)
    (hclients : step s.clients (.accept result) = some clients) :
    { s with clients := clients, polled := false }.left < s.left := by
  obtain ⟨hlt, hslots⟩ := acceptStep_left_lt hpolled hclients
  have htop := (Option.ite_none_right_eq_some.1 hclients).1
  have haccepting := (h.accepting_of_ne (by simp [htop])).1
  show clients.threadsLeft + (if s.accepting then clients.acceptPc.left false else 0) +
    s.main.left clients.slots.length < s.left
  rw [Daemon.left, haccepting, if_pos rfl, if_pos rfl, hslots]
  exact Nat.add_lt_add_right hlt _

theorem clientsStep (h : Joining s) {e : Event} {clients : State} (hstarts : Starts (.clients e))
    (hmove : ClientsMove s.clients e clients) : { s with clients := clients }.left < s.left := by
  have hlt := hmove.left_lt hstarts h.inv.polled
  show clients.threadsLeft + (if s.accepting then clients.acceptPc.left s.polled else 0) +
    s.main.left clients.slots.length < s.left
  rw [Daemon.left, hmove.within.length]
  refine Nat.add_lt_add_right ?_ _
  cases haccepting : s.accepting with
  | true => exact hlt
  | false =>
      have hstopped := h.stopped haccepting
      rw [(hmove.ofStopped hstopped).1, hstopped] at hlt
      exact Nat.lt_of_add_lt_add_right hlt

/-- Join goes on to the next slot. -/
theorem joinNext {clients : State} (hreaped : Reaped s.clients clients) {k : ℕ}
    (hmain : s.main = .joiningSlot k) (hlt : k < s.clients.slots.length) :
    { s with clients := clients, main := .joiningSlot (k + 1) }.left < s.left := by
  show clients.threadsLeft + (if s.accepting then clients.acceptPc.left s.polled else 0) +
    (clients.slots.length + 1 - (k + 1)) < s.left
  rw [Daemon.left, State.threadsLeft, State.threadsLeft, hreaped.progress, hreaped.acceptPc,
    hreaped.within.length, hmain]
  refine Nat.add_lt_add_left ?_ _
  show s.clients.slots.length + 1 - (k + 1) < s.clients.slots.length + 1 - k
  omega

/-- A step of join brings it to an end or to the next tasker. -/
theorem joinMove (h : Joining s) (hmove : JoinMove s .joined s') :
    s'.joined = true ∨ (s'.main.joins = true ∧ s'.acceptTasker = none ∧ s'.left < s.left) := by
  cases hmove with
  | givesUp hresult => exact absurd rfl hresult
  | acceptJoined hmain hexited =>
      refine .inr ⟨rfl, rfl, ?_⟩
      have hnot : s.accepting = false := Bool.eq_false_iff.2 hexited
      show s.clients.threadsLeft + 0 + (s.clients.slots.length + 1 - 0) < s.left
      rw [Daemon.left, hnot, hmain]
      exact Nat.lt_succ_self _
  | passes k slot hmain hslot hhandle =>
      have hlt := (List.getElem?_eq_some_iff.1 hslot).1
      exact .inr ⟨rfl, (h.inv.joining k hmain).1, joinNext (.refl _) hmain hlt⟩
  | joined k i slot clients hmain hslot hhandle hjoin =>
      obtain ⟨hreaped, -⟩ := joinSlot_reaped hjoin k slot _
      have hlt := (List.getElem?_eq_some_iff.1 hslot).1
      exact .inr ⟨rfl, (h.inv.joining k hmain).1, joinNext hreaped hmain hlt⟩
  | ends k hmain hnone => exact .inl rfl

/-- What goes on beside join. -/
theorem beside (h : Joining s) (hinv : DaemonInv s') (hprompt : Prompt s'.clients)
    (hmain : s'.main = s.main) (htasker : s'.acceptTasker = s.acceptTasker) : Joining s' where
  inv := hinv
  prompt := hprompt
  joins := by
    rw [hmain]
    exact h.joins
  told := by
    rw [htasker]
    exact h.told

theorem step (h : Joining s) {e : DaemonEvent} (hmoves : Moves e) (hstep : s.step e = some s') :
    s'.joined = true ∨ (Joining s' ∧ s'.left < s.left) := by
  have hinv : DaemonInv s' := daemonStep_inv s e s' h.inv (hmoves.starts.startWaits s) hstep
  have hprompt : Prompt s'.clients := h.prompt.daemonStep hmoves.starts hstep
  cases e with
  | loop opens create start => exact hmoves.elim
  | stop => exact hmoves.elim
  | stopClients => exact hmoves.elim
  | join => exact hmoves.elim
  | joinStep result =>
      obtain rfl := hmoves.joined
      rcases h.joinMove (joinStep_moves hstep) with hjoined | ⟨hjoins, htasker, hlt⟩
      · exact .inl hjoined
      · refine .inr ⟨⟨hinv, hprompt, hjoins, fun t ht => ?_⟩, hlt⟩
        rw [htasker] at ht
        cases ht
  | poll =>
      simp only [Daemon.step, Daemon.poll] at hstep
      split at hstep
      · cases hstep
      · next hpolled =>
          split at hstep
          · obtain ⟨clients, hclients, rfl⟩ := Option.map_eq_some_iff.1 hstep
            have hlt := h.acceptStep (fun hne => absurd rfl hne) hclients
            rw [← Bool.eq_false_iff.2 hpolled] at hlt
            exact .inr ⟨h.beside hinv hprompt rfl rfl, hlt⟩
          · next htold =>
              -- the accept loop has been told
              obtain ⟨htop, -⟩ := Option.ite_none_right_eq_some.1 hstep
              exact absurd (h.accepting_of_ne (by simp [htop])).2 htold
  | accepts =>
      obtain ⟨hpolled, hs⟩ := Option.ite_none_right_eq_some.1 hstep
      obtain ⟨clients, hclients, rfl⟩ := Option.map_eq_some_iff.1 hs
      exact .inr ⟨h.beside hinv hprompt rfl rfl, h.acceptStep (fun _ => hpolled) hclients⟩
  | acceptFails errno =>
      obtain ⟨hpolled, hs⟩ := Option.ite_none_right_eq_some.1 hstep
      obtain ⟨clients, hclients, rfl⟩ := Option.map_eq_some_iff.1 hs
      exact .inr ⟨h.beside hinv hprompt rfl rfl, h.acceptStep (fun _ => hpolled) hclients⟩
  | acceptExits =>
      simp only [Daemon.step] at hstep
      split at hstep
      · next t htasker =>
          obtain ⟨⟨halive, hstopped⟩, hs⟩ := Option.ite_none_right_eq_some.1 hstep
          obtain rfl := Option.some.inj hs
          refine .inr ⟨⟨hinv, hprompt, h.joins, fun u hu => ?_⟩, ?_⟩
          · obtain rfl := Option.some.inj hu
            exact h.told t htasker
          · have haccepting : s.accepting = true := by
              rw [Daemon.accepting, htasker]
              exact halive
            show s.clients.threadsLeft + 0 + _ < s.left
            rw [Daemon.left, haccepting, hstopped]
            exact Nat.add_lt_add_right (Nat.lt_succ_self _) _
      · cases hstep
  | clients e =>
      obtain ⟨haccept, clients, hclients, rfl⟩ := daemonStep_clients hstep
      have hmove := step_clientsMove haccept (hmoves.starts.waitSucceeds _) hclients
      exact .inr ⟨h.beside hinv hprompt rfl rfl, h.clientsStep hmoves.starts hmove⟩

/-! ## No thread waits for ever -/

theorem canMove_of_isSome (e : DaemonEvent) (hmoves : Moves e) (hsome : (s.step e).isSome = true) :
    CanMove s := by
  obtain ⟨s', hstep⟩ := Option.isSome_iff_exists.1 hsome
  exact ⟨e, s', hmoves, hstep⟩

/-- A client thread that has not exited can take its next step, unless it waits for the lock. -/
theorem thread (h : Joining s) {i : ℕ} {t : ClientTask} (ht : s.clients.tasks[i]? = some t)
    (hlive : t.pc ≠ .exited) (hlock : t.pc = .finishing → s.clients.LockFree) : CanMove s := by
  obtain ⟨slot, hslot⟩ : ∃ slot, s.clients.slots[t.slot]? = some slot := by
    rcases h.inv.slots.table.hasSlot i t ht with hretired | ⟨slot, hslot, -⟩
    · exact absurd hretired.exited hlive
    · exact ⟨slot, hslot⟩
  have hthread : ∀ e clients, taskStep s.clients i t slot e = some clients →
      s.step (.clients (.task i e)) = some { s with clients := clients } := by
    intro e clients hstep
    simp only [Daemon.step, DthttpdLinuxSocket.step, ht, hslot, hstep, Option.map_some]
  cases hpc : t.pc with
  | created => exact ⟨.clients (.task i (.ready none)), _, rfl, hthread _ _ (if_pos hpc)⟩
  | serving => exact ⟨.clients (.task i .served), _, trivial, hthread _ _ (if_pos hpc)⟩
  | closing => exact ⟨.clients (.task i .close), _, trivial, hthread _ _ (if_pos hpc)⟩
  | finishing =>
      exact ⟨.clients (.task i .markFinished), _, trivial, hthread _ _ (if_pos ⟨hpc, hlock hpc⟩)⟩
  | returning => exact ⟨.clients (.task i (.exit none)), _, trivial, hthread _ _ (if_pos hpc)⟩
  | exited => exact absurd hpc hlive

/-- The accept loop goes on, or waits for a thread that does. -/
theorem acceptLoop (h : Joining s) {a : AcceptTasker} (htasker : s.acceptTasker = some a)
    (halive : a.alive = true) : CanMove s := by
  have htold : s.told = true := by
    rw [Daemon.told, htasker]
    exact h.told a htasker
  cases hpc : s.clients.acceptPc with
  | top =>
      cases hpolled : s.polled with
      | true =>
          refine canMove_of_isSome .accepts trivial ?_
          simp only [Daemon.step, Daemon.acceptReturns, hpolled, DthttpdLinuxSocket.step, hpc, if_true,
            Option.map_some, Option.isSome_some]
      | false =>
          refine canMove_of_isSome .poll trivial ?_
          simp only [Daemon.step, Daemon.poll, hpolled, htold, DthttpdLinuxSocket.step, hpc, if_true,
            Bool.false_eq_true, if_false, Option.map_some, Option.isSome_some]
  | accepted fd =>
      refine canMove_of_isSome (.clients (.assign .succeed)) trivial ?_
      simp only [Daemon.step, DthttpdLinuxSocket.step, hpc, Option.map_some, Option.isSome_some]
  | starting fd k i =>
      have hlt := h.prompt.starting fd k i hpc
      have ht : s.clients.tasks[i]? = some s.clients.tasks[i] := List.getElem?_eq_getElem hlt
      by_cases hcreated : s.clients.tasks[i].pc = .created
      · refine h.thread ht ?_ ?_
        · simp [hcreated]
        · simp [hcreated]
      · have hready : s.clients.tasks[i].ready = true :=
          h.prompt.ready _ (List.mem_of_getElem? (progress_getElem? ht)) hcreated
        refine canMove_of_isSome (.clients (.started none)) rfl ?_
        simp only [Daemon.step, DthttpdLinuxSocket.step, started, hpc, ht, Option.any_some, hready,
          if_true, Option.map_some, Option.isSome_some]
  | rejecting fd =>
      refine canMove_of_isSome (.clients .reject) trivial ?_
      simp only [Daemon.step, DthttpdLinuxSocket.step, hpc, Option.map_some, Option.isSome_some]
  | cleanup fd =>
      refine canMove_of_isSome (.clients .cleanup) trivial ?_
      simp only [Daemon.step, DthttpdLinuxSocket.step, hpc, Option.map_some, Option.isSome_some]
  | stopped =>
      refine canMove_of_isSome .acceptExits trivial ?_
      simp only [Daemon.step, htasker, halive, hpc, and_self, if_true, Option.isSome_some]

/-- **No deadlock**: join goes on, or what it waits for does. -/
theorem canMove (h : Joining s) : CanMove s := by
  have hjoins := h.joins
  cases hmain : s.main with
  | idle =>
      rw [hmain] at hjoins
      cases hjoins
  | stopping =>
      rw [hmain] at hjoins
      cases hjoins
  | joiningAccept =>
      cases htasker : s.acceptTasker with
      | none =>
          refine canMove_of_isSome (.joinStep .joined) trivial ?_
          simp only [Daemon.step, Daemon.joinStep, hmain, Daemon.joinAccept, htasker, Option.any_none,
            Bool.false_eq_true, if_false, Option.isSome_some]
      | some a =>
          cases halive : a.alive with
          | true => exact h.acceptLoop htasker halive
          | false =>
              refine canMove_of_isSome (.joinStep .joined) trivial ?_
              simp only [Daemon.step, Daemon.joinStep, hmain, Daemon.joinAccept, htasker,
                Option.any_some, halive, Bool.false_eq_true, if_false, Option.isSome_some]
  | joiningSlot k =>
      have hstopped := h.inv.stopped (h.inv.joining k hmain).1
      cases hslot : s.clients.slots[k]? with
      | none =>
          refine canMove_of_isSome (.joinStep .joined) trivial ?_
          simp only [Daemon.step, Daemon.joinStep, hmain, hslot, Option.isSome_some]
      | some slot =>
          cases hhandle : slot.taskerHandle with
          | none =>
              refine canMove_of_isSome (.joinStep .joined) trivial ?_
              simp only [Daemon.step, Daemon.joinStep, hmain, hslot, hhandle, Option.isSome_some]
          | some i =>
              obtain ⟨t, ht, -⟩ := h.inv.slots.table.busy hslot hhandle
              by_cases hexited : t.pc = .exited
              · refine canMove_of_isSome (.joinStep .joined) trivial ?_
                simp only [Daemon.step, Daemon.joinStep, hmain, hslot, hhandle, Daemon.joinSlot,
                  State.join, ht, hexited, if_true, Option.isSome_some]
              · -- nobody holds the lock any more
                refine h.thread ht hexited fun _ fd l j hpc => ?_
                rw [hstopped] at hpc
                cases hpc

/-- Nothing else happens until join returns. -/
theorem moves (h : Joining s) {e : DaemonEvent} (hstarts : Starts e)
    (hpatient : ∀ result, e = .joinStep result → result = .joined) (hstep : s.step e = some s') :
    Moves e := by
  have hbusy : ∀ main : MainPc, main.joins = false → s.main ≠ main := by
    intro main hnot hmain
    rw [← hmain, h.joins] at hnot
    cases hnot
  cases e with
  | loop opens create start => exact hbusy .idle rfl (Option.ite_none_right_eq_some.1 hstep).1
  | stop => exact hbusy .idle rfl (Option.ite_none_right_eq_some.1 hstep).1
  | stopClients => exact hbusy .stopping rfl (Option.ite_none_right_eq_some.1 hstep).1.1
  | join => exact hbusy .idle rfl (Option.ite_none_right_eq_some.1 hstep).1
  | joinStep result =>
      obtain rfl := hpatient result rfl
      trivial
  | clients e =>
      cases e with
      | started wait => exact hstarts
      | task i e =>
          cases e with
          | ready dterr => exact hstarts
          | _ => trivial
      | _ => trivial
  | _ => trivial

/-! ## Runs -/

variable {run : Run.Infinite Daemon.step}

/-- What happens next in a join. -/
theorem next (hstarts : ∀ m e, run.event m = some e → Starts e)
    (hpatient : ∀ m result, run.event m = some (.joinStep result) → result = .joined) {m : ℕ}
    (h : Joining (run.state m)) {e : DaemonEvent} (hevent : run.event m = some e) :
    Moves e ∧ ((run.state (m + 1)).joined = true ∨
      (Joining (run.state (m + 1)) ∧ (run.state (m + 1)).left < (run.state m).left)) := by
  have hnext := run.next_some hevent
  have hmoves := h.moves (hstarts m e hevent) (fun result he => hpatient m result (he ▸ hevent)) hnext
  exact ⟨hmoves, h.step hmoves hnext⟩

/-- A join goes on until it returns. -/
theorem goesOn (hstarts : ∀ m e, run.event m = some e → Starts e)
    (hpatient : ∀ m result, run.event m = some (.joinStep result) → result = .joined)
    (h : Joining (run.state 0)) (m : ℕ) (hnot : ∀ l ≤ m, ¬(run.state l).joined = true) :
    Joining (run.state m) := by
  induction m with
  | zero => exact h
  | succ m ih =>
      have hjoining := ih fun l hl => hnot l (Nat.le_succ_of_le hl)
      cases hevent : run.event m with
      | none =>
          rw [run.next_none hevent]
          exact hjoining
      | some e =>
          rcases (hjoining.next hstarts hpatient hevent).2 with hjoined | ⟨hjoining', -⟩
          · exact absurd hjoined (hnot (m + 1) (Nat.le_refl _))
          · exact hjoining'

/-- If the threads are not held up for ever, a join after stop that waits for as long as it takes
    returns. -/
theorem returns (hstarts : ∀ m e, run.event m = some e → Starts e)
    (hpatient : ∀ m result, run.event m = some (.joinStep result) → result = .joined)
    (hfair : run.WeaklyFair JoinCanMove Moves) (h : Joining (run.state 0)) :
    ∃ m, (run.state m).joined = true := by
  have hleads : ∃ m, 0 ≤ m ∧ (run.state m).joined = true := by
    refine Run.Infinite.leadsTo_of_rank (P := Joining) (Q := fun s => s.joined = true) Daemon.left
      Moves ?_ ?_ 0 h
    · intro m e hjoining hevent
      rcases (hjoining.next hstarts hpatient hevent).2 with hjoined | ⟨hjoining', hlt⟩
      · exact .inl hjoined
      · exact .inr ⟨hjoining', Nat.le_of_lt hlt, fun _ => hlt⟩
    · -- the next step that is taken is one of those that bring the end nearer
      intro m hjoining
      by_contra hnever
      have hstays : ∀ l, m ≤ l → Joining (run.state l) := run.stable hjoining
        fun l hl e hevent s' hl' _ =>
          absurd ⟨l, hl, e, hevent, (hl'.next hstarts hpatient hevent).1⟩ hnever
      exact hnever (hfair m fun l hl => ⟨(hstays l hl).joins, (hstays l hl).canMove⟩)
  obtain ⟨m, -, hjoined⟩ := hleads
  exact ⟨m, hjoined⟩

end Joining

theorem prompt_configured (default limit : ℤ) : Prompt (Daemon.configured default limit).clients where
  ready _ hp := absurd hp List.not_mem_nil
  starting _ _ _ := nofun

/-- **Join returns.** In every run of the server with its calls, the accept loop and the client threads, in
    which nothing in the start of a thread fails and during a join the threads are not held up for ever: a
    join that is called when the accept tasker has been told to stop, and whose `dttasker_join`s neither
    fail nor time out, returns, and then nothing is left. -/
theorem join_returns (default limit : ℤ) (hdefault : 0 < default) (run : Run.Infinite Daemon.step)
    (hfirst : run.state 0 = .configured default limit)
    (hstarts : ∀ m e, run.event m = some e → Starts e)
    (hfair : run.WeaklyFair JoinCanMove Moves) (n : ℕ) (hjoin : run.event n = some .join)
    (htold : ∀ t, (run.state n).acceptTasker = some t → t.stopRequested = true)
    (hpatient : ∀ m, n < m → ∀ result, run.event m = some (.joinStep result) → result = .joined) :
    ∃ m, n < m ∧ (∀ l, n < l → l < m → (run.state l).main.joins = true) ∧
      (run.state m).joined = true ∧ Quiet (run.state m) := by
  have hinv : ∀ m, DaemonInv (run.state m) ∧ Prompt (run.state m).clients := by
    intro m
    refine run.stable (n := 0) (P := fun s => DaemonInv s ∧ Prompt s.clients) ?_ ?_ m (Nat.zero_le m)
    · rw [hfirst]
      exact ⟨daemon_configured_inv hdefault limit, prompt_configured default limit⟩
    · intro m _ e hevent s' hs hstep
      have he := hstarts m e hevent
      exact ⟨daemonStep_inv _ e s' hs.1 (he.startWaits _) hstep, hs.2.daemonStep he hstep⟩
  have hjoining : Joining ((run.drop (n + 1)).state 0) := by
    obtain ⟨-, hs⟩ := Option.ite_none_right_eq_some.1 (run.next_some hjoin)
    have hnext : (run.state n).join = run.state (n + 1) := Option.some.inj hs
    refine ⟨(hinv (n + 1)).1, (hinv (n + 1)).2, ?_, ?_⟩
    · show (run.state (n + 1)).main.joins = true
      rw [← hnext]
      show (if _ then _ else _ : MainPc).joins = true
      split
      · rfl
      · rfl
    · show ∀ t, (run.state (n + 1)).acceptTasker = some t → _
      rw [← hnext]
      exact htold
  have hstarts' : ∀ m e, (run.drop (n + 1)).event m = some e → Starts e := fun m => hstarts _
  have hpatient' : ∀ m result, (run.drop (n + 1)).event m = some (.joinStep result) →
      result = .joined := fun m => hpatient _ (by omega)
  have hreturns := hjoining.returns hstarts' hpatient' (hfair.drop (n + 1))
  -- the first moment at which it has returned
  let m := Nat.find hreturns
  have hjoined : (run.state (n + 1 + m)).joined = true := Nat.find_spec hreturns
  refine ⟨n + 1 + m, by omega, fun l hl hlm => ?_, hjoined, ((hinv _).1.quiet hjoined).2⟩
  have hgoesOn := hjoining.goesOn hstarts' hpatient' (l - (n + 1))
    fun k hk => Nat.find_min hreturns (show k < m by omega)
  have hjoins : (run.state (n + 1 + (l - (n + 1)))).main.joins = true := hgoesOn.joins
  rwa [Nat.add_sub_of_le hl] at hjoins

/-- A client is being served when stop and join are called, and join waits for it. -/
def patientRun : List DaemonEvent :=
  [.loop none none none, .poll, .accepts, .clients (.assign .succeed), .clients (.task 0 (.ready none)),
    .clients (.started none), .poll, .stop, .stopClients, .join, .acceptFails .notListening,
    .acceptExits, .joinStep .joined, .clients (.task 0 .served), .clients (.task 0 .close),
    .clients (.task 0 .markFinished), .clients (.task 0 (.exit none)), .joinStep .joined,
    .joinStep .joined]

theorem patientRun_runs : ∃ s, Run.exec Daemon.step (Daemon.configured 4 1) patientRun = some s ∧
    s.main = .idle :=
  Run.exists_exec_of_ends (Q := fun s : Daemon => s.main = .idle) (by decide +kernel) fun _ h => h

/-- The join at the moment 9 returns. -/
theorem join_returns_patientRun :
    ∃ s, ∃ hs : Run.exec Daemon.step (Daemon.configured 4 1) patientRun = some s, ∃ m, 9 < m ∧
      (∀ l, 9 < l → l < m → ((Run.Infinite.ofList patientRun hs).state l).main.joins = true) ∧
      ((Run.Infinite.ofList patientRun hs).state m).joined = true ∧
      Quiet ((Run.Infinite.ofList patientRun hs).state m) := by
  obtain ⟨s, hs, hidle⟩ := patientRun_runs
  refine ⟨s, hs, ?_⟩
  refine join_returns 4 1 (by decide) _ rfl ?_ ?_ 9 rfl ?_ ?_
  · intro m e hevent
    have hall : ∀ e ∈ patientRun, Starts e := by simp [patientRun, Starts]
    exact hall e (List.mem_of_getElem? hevent)
  · refine Run.Infinite.ofList_weaklyFair patientRun hs Moves fun hjoin => ?_
    -- the last join has returned
    have hjoins := hjoin.1
    rw [hidle] at hjoins
    cases hjoins
  · intro t ht
    have htasker : (Run.stateAt Daemon.step (Daemon.configured 4 1) patientRun 9).acceptTasker =
        some ⟨true, true⟩ := by decide +kernel
    obtain rfl := Option.some.inj (htasker.symm.trans ht)
    rfl
  · intro m _ result hevent
    have hmem := List.mem_of_getElem? hevent
    simpa [patientRun] using hmem

end DthttpdLinuxSocket
