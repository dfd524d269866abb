import DtmcLinux.Dtiox.OneRxTask

set_option autoImplicit false

/-! # The connections of a TCP object

`rx_fifo`, `rx_overflow_flag` and `fifo_dropped_bytes` of `dtiox_linux_tcp_t` outlive a connection:
attach, detach and the receive task's `cleanup:` leave them alone, and a read of a disconnected
object clears only the flag. The runs of the TCP backend with `dtiox_linux_tcp_read`, in which each
byte in the FIFO and the flag carry the number of the connection they come from. -/

namespace DtioxLinuxTcp

/-- `pop` takes as many bytes as there are, up to the number asked for. -/
class ExactDtringfifo (F : Type*) [Dtringfifo F] : Prop extends LawfulDtringfifo F where
  length_pop (f : F) (n : ℕ) :
    (Dtringfifo.pop f n).2.length = min n (Dtringfifo.contents f).length

instance : ExactDtringfifo ByteFifo where
  length_pop _ _ := List.length_take

/-- The TCP object with what is left out in `Tcp`, and where its data comes from. -/
structure Connections (F : Type*) where
  sys : State F
  fifoDroppedBytes : ℤ
  /-- the number of connections made so far -/
  connection : ℕ
  /-- the connection a task was started for -/
  taskConnection : ℕ → ℕ
  /-- the connections the bytes in the FIFO were received on, oldest first -/
  origins : List ℕ
  /-- the connection whose data last raised the flag -/
  overflowOrigin : ℕ

/-- A step of the backend, or a read. -/
inductive ConnectionEvent where
  | sys (e : Event)
  | read (bufLen : ℤ)

variable {F : Type*} [Dtringfifo F]

/-- `dtiox_linux_tcp_read`: the error, and the bytes stored in `buf`. -/
def read (self : Tcp F) (fifoDroppedBytes bufLen : ℤ) : Tcp F × Option Dterr × List UInt8 :=
  if !self.isConnected then
    ({ self with rxOverflowFlag := false }, some (.new .io "TCP RX disconnected"), [])
  else if self.rxOverflowFlag then
    ({ self with rxOverflowFlag := false },
      some (.new .overflow s!"TCP RX overflow (dropped {fifoDroppedBytes} bytes)"), [])
  else
    let (fifo, bytes) := Dtringfifo.pop self.rxFifo bufLen.toNat
    ({ self with rxFifo := fifo }, none, bytes)

omit [Dtringfifo F] in
/-- The bytes a step of the receive task pushes, if it pushes any. -/
def receivedBytes (self : Tcp F) : TaskEvent → Option (List UInt8)
  | .recvReturns (.bytes bs) _ => if bs.length = 0 ∨ self.rxEnabled = false then none else some bs
  | _ => none

namespace Connections

omit [Dtringfifo F] in
/-- Attach makes a connection. -/
def connects (s : Connections F) (calls : AttachCalls) : Prop :=
  s.sys.self.fd < 0 ∧ calls.connect = none

omit [Dtringfifo F] in
instance (s : Connections F) (calls : AttachCalls) : Decidable (s.connects calls) :=
  inferInstanceAs (Decidable (_ ∧ _))

/-- What a step does to the members that tell where the data comes from. `addDropped` is
    `DTCORE_HELPER_ADD32`. -/
def track (addDropped : ℤ → ℤ → ℤ) (s : Connections F) (sys : State F) : Event → Connections F
  | .attach calls =>
    if s.connects calls then
      { s with
        sys := sys
        connection := s.connection + 1
        taskConnection := Function.update s.taskConnection s.sys.tasks.length (s.connection + 1) }
    else { s with sys := sys }
  | .task i e =>
    match receivedBytes s.sys.self e with
    | none => { s with sys := sys }
    | some bs =>
      let written := (Dtringfifo.push s.sys.self.rxFifo bs).2
      { s with
        sys := sys
        fifoDroppedBytes :=
          if written < bs.length then addDropped s.fifoDroppedBytes (bs.length - written)
          else s.fifoDroppedBytes
        origins := s.origins ++ List.replicate written (s.taskConnection i)
        overflowOrigin :=
          if written < bs.length then s.taskConnection i else s.overflowOrigin }
  | .started _ | .detach => { s with sys := sys }

/-- One step. -/
def step (addDropped : ℤ → ℤ → ℤ) (s : Connections F) : ConnectionEvent → Option (Connections F)
  | .sys e => (DtioxLinuxTcp.step s.sys e).map fun sys => s.track addDropped sys e
  | .read bufLen =>
    let (self, _, bytes) := read s.sys.self s.fifoDroppedBytes bufLen
    some { s with sys := { s.sys with self := self }, origins := s.origins.drop bytes.length }

omit [Dtringfifo F] in
/-- A configured object, with its FIFO. -/
def configured (mode : Mode) (rxFifo : F) (rxSemaphore : Bool) : Connections F where
  sys := .configured mode rxFifo rxSemaphore
  fifoDroppedBytes := 0
  connection := 0
  taskConnection := fun _ => 0
  origins := []
  overflowOrigin := 0

end Connections

/-! ## The property and the conditions -/

/-- Whatever length it asks for, a read returns only bytes, and an overflow, of the connection made
    last. -/
def ReadsCurrent (s : Connections F) : Prop :=
  ∀ bufLen, ((read s.sys.self s.fifoDroppedBytes bufLen).2.1.any
      (fun dterr => dterr.errorCode = some .overflow) = true → s.overflowOrigin = s.connection) ∧
    ∀ origin ∈ s.origins.take (read s.sys.self s.fifoDroppedBytes bufLen).2.2.length,
      origin = s.connection

omit [Dtringfifo F] in
/-- A connection is made when the receive task of the one before has ended. -/
def OneByOne (s : Connections F) : ConnectionEvent → Prop
  | .sys e => AttachesAlone s.sys e
  | .read _ => True

/-- A connection is made with an empty FIFO and the flag clear. -/
def AttachesClean (s : Connections F) : ConnectionEvent → Prop
  | .sys (.attach calls) => s.sys.app = .idle → s.connects calls →
    Dtringfifo.contents s.sys.self.rxFifo = [] ∧ s.sys.self.rxOverflowFlag = false
  | _ => True

omit [Dtringfifo F] in
instance (s : Connections F) : (e : ConnectionEvent) → Decidable (OneByOne s e)
  | .sys e => inferInstanceAs (Decidable (AttachesAlone s.sys e))
  | .read _ => .isTrue trivial

instance (s : Connections F) : (e : ConnectionEvent) → Decidable (AttachesClean s e)
  | .sys (.attach calls) => inferInstanceAs (Decidable (s.sys.app = .idle → s.connects calls → _ ∧ _))
  | .sys (.started _) => .isTrue trivial
  | .sys .detach => .isTrue trivial
  | .sys (.task _ _) => .isTrue trivial
  | .read _ => .isTrue trivial

/-! ## What a step does to the FIFO and the flag -/

theorem pushReceived_rx (self : Tcp F) (bs : List UInt8) (post : Option Dterr) :
    (pushReceived self bs post).1.rxFifo = (Dtringfifo.push self.rxFifo bs).1 ∧
      (pushReceived self bs post).1.rxOverflowFlag =
        (self.rxOverflowFlag || decide ((Dtringfifo.push self.rxFifo bs).2 < bs.length)) := by
  unfold pushReceived
  dsimp only
  split
  · next hlt => exact ⟨rfl, by simp [hlt]⟩
  · next hge =>
      split
      · split <;> exact ⟨rfl, by simp [hge]⟩
      · exact ⟨rfl, by simp [hge]⟩

/-- What the receive task does to the FIFO and the flag. -/
theorem taskStep_rx {self self' : Tcp F} {fds fds' : DescriptorTable SocketKind}
    {t t' : ReaderTask TaskPc} {e : TaskEvent}
    (h : taskStep self fds t e = some (self', fds', t')) :
    match receivedBytes self e with
    | none => self'.rxFifo = self.rxFifo ∧ self'.rxOverflowFlag = self.rxOverflowFlag
    | some bs => self'.rxFifo = (Dtringfifo.push self.rxFifo bs).1 ∧
      self'.rxOverflowFlag =
        (self.rxOverflowFlag || decide ((Dtringfifo.push self.rxFifo bs).2 < bs.length)) := by
  cases taskStep_effect h with
  | @recvReturns _ result post _ _ =>
      unfold recvReturned
      cases result with
      | failed errno strerror =>
          dsimp only [receivedBytes]
          split <;> exact ⟨rfl, rfl⟩
      | bytes bs =>
          dsimp only [receivedBytes]
          by_cases hlen : bs.length = 0
          · rw [if_pos hlen, if_pos (.inl hlen)]
            exact ⟨rfl, rfl⟩
          · rw [if_neg hlen]
            cases henabled : self.rxEnabled with
            | false =>
                rw [if_pos (.inr rfl)]
                exact ⟨rfl, rfl⟩
            | true =>
                rw [if_neg (by simp [hlen]), if_neg (by simp)]
                exact pushReceived_rx self bs post
  | _ => exact ⟨rfl, rfl⟩

omit [Dtringfifo F] in
/-- What attach does to the FIFO and the flag: nothing; and when it makes a connection, the object
    is connected. -/
theorem attach_rx (s : State F) (calls : AttachCalls) :
    (attach s calls).1.self.rxFifo = s.self.rxFifo ∧
      (attach s calls).1.self.rxOverflowFlag = s.self.rxOverflowFlag ∧
      (s.self.fd < 0 → calls.connect = none → (attach s calls).1.self.isConnected = true) := by
  unfold attach
  split
  · next hfd => exact ⟨rfl, rfl, fun hneg => absurd hneg (Int.not_lt.2 hfd)⟩
  · split
    · next err hconnect => exact ⟨rfl, rfl, fun _ hnone => by simp [hconnect] at hnone⟩
    · dsimp only
      split
      · exact ⟨rfl, rfl, fun _ _ => rfl⟩
      · split <;> exact ⟨rfl, rfl, fun _ _ => rfl⟩

/-! ## The invariant -/

/-- Each byte in the FIFO has its origin; all data, and the running task, are of the connection made
    last. -/
structure Tagged (s : Connections F) : Prop where
  length : s.origins.length = (Dtringfifo.contents s.sys.self.rxFifo).length
  tasks : ∀ i t, s.sys.tasks[i]? = some t → t.Running → s.taskConnection i = s.connection
  origins : ∀ origin ∈ s.origins, origin = s.connection
  overflow : s.sys.self.rxOverflowFlag = true → s.overflowOrigin = s.connection

theorem Tagged.readsCurrent {s : Connections F} (h : Tagged s) : ReadsCurrent s := by
  intro bufLen
  refine ⟨fun hoverflow => ?_, fun origin horigin => h.origins origin (List.mem_of_mem_take horigin)⟩
  unfold read at hoverflow
  split at hoverflow
  · cases hoverflow
  · split at hoverflow
    · next hflag => exact h.overflow hflag
    · cases hoverflow

omit [Dtringfifo F] in
/-- A connection is made, and `sys` is the backend afterwards. -/
def Connections.connectsTo (s : Connections F) (sys : State F) : Connections F :=
  { s with
    sys := sys
    connection := s.connection + 1
    taskConnection := Function.update s.taskConnection s.sys.tasks.length (s.connection + 1) }

/-- A connection is made: when reads return only its data, there is no other. -/
theorem Tagged.clean_of_readsCurrent [ExactDtringfifo F] {s : Connections F} (h : Tagged s)
    {sys : State F} (hfifo : sys.self.rxFifo = s.sys.self.rxFifo)
    (hflag : sys.self.rxOverflowFlag = s.sys.self.rxOverflowFlag)
    (hconnected : sys.self.isConnected = true) (hreads : ReadsCurrent (s.connectsTo sys)) :
    Dtringfifo.contents s.sys.self.rxFifo = [] ∧ s.sys.self.rxOverflowFlag = false := by
  have hclear : s.sys.self.rxOverflowFlag = false := by
    by_contra hset
    have hset := eq_true_of_ne_false hset
    have horigin : s.overflowOrigin = s.connection + 1 := (hreads 0).1
      (by simp [Connections.connectsTo, read, hconnected, hflag, hset, Dterr.errorCode])
    have hold := h.overflow hset
    omega
  refine ⟨?_, hclear⟩
  by_contra hfull
  have hpos : 0 < s.origins.length := h.length ▸ List.length_pos_iff.2 hfull
  -- a read of one byte takes the oldest one
  have hone : (read sys.self s.fifoDroppedBytes 1).2.2.length = 1 := by
    have hlength := ExactDtringfifo.length_pop s.sys.self.rxFifo 1
    rw [← h.length] at hlength
    simp only [read, hconnected, hflag, hclear, hfifo, Bool.not_true, Bool.false_eq_true, if_false,
      Int.toNat_one, hlength]
    omega
  obtain ⟨origin, rest, hcons⟩ := List.exists_cons_of_length_pos hpos
  have hold := h.origins origin (hcons ▸ List.mem_cons_self)
  have hnew : origin = s.connection + 1 := by
    refine (hreads 1).2 origin ?_
    show origin ∈ s.origins.take (read sys.self s.fifoDroppedBytes 1).2.2.length
    rw [hone, hcons]
    exact List.mem_cons_self
  omega

/-- A step of the receive task of the connection made last. -/
theorem Tagged.task [LawfulDtringfifo F] {addDropped : ℤ → ℤ → ℤ} {s : Connections F} (h : Tagged s)
    {i : ℕ} {t t' : ReaderTask TaskPc} {e : TaskEvent} {self' : Tcp F}
    {fds' : DescriptorTable SocketKind} (ht : s.sys.tasks[i]? = some t)
    (hstep : taskStep s.sys.self s.sys.fds t e = some (self', fds', t')) :
    Tagged (s.track addDropped
      { s.sys with self := self', fds := fds', tasks := s.sys.tasks.set i t' } (.task i e)) := by
  have hrunning := (taskStep_spec hstep).1.running
  have htask := h.tasks i t ht hrunning
  have hrx := taskStep_rx hstep
  -- a task that runs after the step ran before it
  have htasks : ∀ j u, (s.sys.tasks.set i t')[j]? = some u → u.Running →
      s.taskConnection j = s.connection := by
    intro j u hu hrun
    by_cases hij : i = j
    · exact hij ▸ htask
    · rw [List.getElem?_set_ne hij] at hu
      exact h.tasks j u hu hrun
  unfold Connections.track
  dsimp only
  split
  · next hnone =>
      rw [hnone] at hrx
      exact ⟨by rw [hrx.1]; exact h.length, htasks, h.origins, fun hflag =>
        h.overflow (hrx.2.symm.trans hflag)⟩
  · next bs hbs =>
      rw [hbs] at hrx
      obtain ⟨hfifo, hflag⟩ := hrx
      refine ⟨?_, htasks, ?_, ?_⟩
      · have hle := LawfulDtringfifo.push_le s.sys.self.rxFifo bs
        dsimp only
        rw [hfifo, LawfulDtringfifo.contents_push, List.length_append, List.length_append,
          List.length_replicate, List.length_take, Nat.min_eq_left hle, h.length]
      · intro origin horigin
        rcases List.mem_append.1 horigin with horigin | horigin
        · exact h.origins origin horigin
        · exact (List.eq_of_mem_replicate horigin).trans htask
      · intro hset
        dsimp only at hset ⊢
        rw [hflag] at hset
        split
        · exact htask
        · next hge => exact h.overflow (by simpa [hge] using hset)

/-- A read takes the bytes with their origins. -/
theorem Tagged.read [LawfulDtringfifo F] {s : Connections F} (h : Tagged s) (bufLen : ℤ) :
    Tagged { s with
      sys := { s.sys with self := (DtioxLinuxTcp.read s.sys.self s.fifoDroppedBytes bufLen).1 }
      origins := s.origins.drop
        (DtioxLinuxTcp.read s.sys.self s.fifoDroppedBytes bufLen).2.2.length } := by
  have horigins : ∀ n, ∀ origin ∈ s.origins.drop n, origin = s.connection :=
    fun n origin horigin => h.origins origin (List.mem_of_mem_drop horigin)
  unfold DtioxLinuxTcp.read
  split
  · exact ⟨h.length, h.tasks, horigins 0, nofun⟩
  · split
    · exact ⟨h.length, h.tasks, horigins 0, nofun⟩
    · refine ⟨?_, h.tasks, horigins _, h.overflow⟩
      have hpop := congrArg List.length
        (LawfulDtringfifo.contents_pop s.sys.self.rxFifo bufLen.toNat)
      rw [List.length_append, ← h.length] at hpop
      dsimp only
      rw [List.length_drop]
      omega

/-- A step that leaves the FIFO, the flag, the tasks and all origins alone. -/
theorem Tagged.sys {s : Connections F} (h : Tagged s) {sys : State F}
    (hfifo : sys.self.rxFifo = s.sys.self.rxFifo)
    (hflag : sys.self.rxOverflowFlag = s.sys.self.rxOverflowFlag) (htasks : sys.tasks = s.sys.tasks) :
    Tagged { s with sys := sys } where
  length := by rw [hfifo]; exact h.length
  tasks := by rw [htasks]; exact h.tasks
  origins := h.origins
  overflow := by rw [hflag]; exact h.overflow

/-- A connection is made on an object without data of another. -/
theorem Tagged.connectsTo {s : Connections F} (hnone : ∀ t ∈ s.sys.tasks, ¬t.Running)
    {sys : State F} (hlength : s.origins.length = (Dtringfifo.contents sys.self.rxFifo).length)
    (hempty : Dtringfifo.contents sys.self.rxFifo = []) (hclear : sys.self.rxOverflowFlag = false)
    (htasks : sys.tasks = s.sys.tasks ∨ ∃ new, sys.tasks = s.sys.tasks ++ [new]) :
    Tagged (s.connectsTo sys) where
  length := hlength
  tasks i t ht hrun := by
    have ht : sys.tasks[i]? = some t := ht
    have hlast : i = s.sys.tasks.length := by
      rcases htasks with heq | ⟨new, heq⟩
      · rw [heq] at ht
        exact absurd hrun (hnone t (List.mem_of_getElem? ht))
      · rw [heq] at ht
        by_contra hne
        have hlt := (List.getElem?_eq_some_iff.1 ht).1
        rw [List.length_append, List.length_singleton] at hlt
        rw [List.getElem?_append_left (by omega)] at ht
        exact hnone t (List.mem_of_getElem? ht) hrun
    exact hlast ▸ Function.update_self _ _ _
  origins origin horigin := by
    have hnil : s.origins = [] := List.length_eq_zero_iff.1 (hlength.trans (hempty ▸ rfl))
    exact absurd (hnil ▸ horigin) List.not_mem_nil
  overflow hset := absurd (hclear.symm.trans hset) nofun

/-- An attach that makes a connection. -/
theorem Tagged.connects [ExactDtringfifo F] (addDropped : ℤ → ℤ → ℤ) {s : Connections F}
    (h : Tagged s) {calls : AttachCalls} (hconnects : s.connects calls)
    (hnone : ∀ t ∈ s.sys.tasks, ¬t.Running) :
    (ReadsCurrent (s.track addDropped (attach s.sys calls).1 (.attach calls)) ↔
      Dtringfifo.contents s.sys.self.rxFifo = [] ∧ s.sys.self.rxOverflowFlag = false) ∧
    (ReadsCurrent (s.track addDropped (attach s.sys calls).1 (.attach calls)) →
      Tagged (s.track addDropped (attach s.sys calls).1 (.attach calls))) := by
  obtain ⟨hfifo, hflag, hisConnected⟩ := attach_rx s.sys calls
  have htrack : s.track addDropped (attach s.sys calls).1 (.attach calls) =
      s.connectsTo (attach s.sys calls).1 := if_pos hconnects
  rw [htrack]
  have hclean := h.clean_of_readsCurrent hfifo hflag (hisConnected hconnects.1 hconnects.2)
  have htagged (hold : Dtringfifo.contents s.sys.self.rxFifo = [] ∧
      s.sys.self.rxOverflowFlag = false) : Tagged (s.connectsTo (attach s.sys calls).1) := by
    refine Tagged.connectsTo hnone ?_ ?_ ?_ ?_
    · rw [hfifo]
      exact h.length
    · rw [hfifo]
      exact hold.1
    · rw [hflag]
      exact hold.2
    · rcases attach_spec s.sys calls with ⟨-, htasks⟩ | ⟨-, -, htasks | htasks⟩
      · exact .inl htasks
      · exact .inl htasks
      · exact .inr ⟨_, htasks⟩
  exact ⟨⟨hclean, fun hold => (htagged hold).readsCurrent⟩, fun hreads => htagged (hclean hreads)⟩

/-- An attach that makes none. -/
theorem Tagged.notConnects {addDropped : ℤ → ℤ → ℤ} {s : Connections F} (h : Tagged s)
    {calls : AttachCalls} (hconnects : ¬s.connects calls) :
    Tagged (s.track addDropped (attach s.sys calls).1 (.attach calls)) := by
  obtain ⟨hfifo, hflag, -⟩ := attach_rx s.sys calls
  have htrack : s.track addDropped (attach s.sys calls).1 (.attach calls) =
      { s with sys := (attach s.sys calls).1 } := if_neg hconnects
  rw [htrack]
  refine h.sys hfifo hflag ?_
  rcases attach_spec s.sys calls with ⟨-, htasks⟩ | ⟨hneg, hopens, -⟩
  · exact htasks
  · exact absurd ⟨hneg, hopens⟩ hconnects

/-- **Step lemma.** After a step of a run in which connections are made one by one, reads return only
    data of the connection made last exactly if the step does not make a connection on an object
    with old data. -/
theorem step_readsCurrent [ExactDtringfifo F] {addDropped : ℤ → ℤ → ℤ} {s s' : Connections F}
    {e : ConnectionEvent} (h : Tagged s) (hone : OneByOne s e)
    (hstep : s.step addDropped e = some s') :
    (ReadsCurrent s' ↔ AttachesClean s e) ∧ (ReadsCurrent s' → Tagged s') := by
  -- all steps but those that make a connection keep the invariant
  have hkeeps : Tagged s' → AttachesClean s e →
      (ReadsCurrent s' ↔ AttachesClean s e) ∧ (ReadsCurrent s' → Tagged s') :=
    fun htagged hclean => ⟨iff_of_true htagged.readsCurrent hclean, fun _ => htagged⟩
  cases e with
  | read bufLen =>
      obtain rfl := Option.some.inj hstep
      exact hkeeps (h.read bufLen) trivial
  | sys e =>
      obtain ⟨sys, hsys, rfl⟩ := Option.map_eq_some_iff.1 hstep
      cases e with
      | started wait =>
          refine hkeeps ?_ trivial
          simp only [DtioxLinuxTcp.step, started] at hsys
          split at hsys
          · cases hsys
          · split at hsys
            · obtain rfl := Option.some.inj hsys
              exact h.sys rfl rfl rfl
            · obtain ⟨-, ⟨⟩⟩ := Option.ite_none_right_eq_some.1 hsys
              exact h.sys rfl rfl rfl
      | detach =>
          obtain ⟨-, ⟨⟩⟩ := Option.ite_none_right_eq_some.1 hsys
          exact hkeeps (h.sys rfl rfl rfl) trivial
      | task i e =>
          simp only [DtioxLinuxTcp.step] at hsys
          split at hsys
          · cases hsys
          · next t ht =>
              obtain ⟨⟨self', fds', t'⟩, htask, rfl⟩ := Option.map_eq_some_iff.1 hsys
              exact hkeeps (h.task ht htask) trivial
      | attach calls =>
          obtain ⟨hidle, ⟨⟩⟩ := Option.ite_none_right_eq_some.1 hsys
          by_cases hconnects : s.connects calls
          · obtain ⟨hiff, htagged⟩ :=
              h.connects addDropped hconnects (hone hconnects.1 hconnects.2)
            refine ⟨hiff.trans ⟨fun hclean _ _ => hclean, fun hall => hall hidle hconnects⟩, htagged⟩
          · exact hkeeps (h.notConnects hconnects) fun _ hyes => absurd hyes hconnects

/-- An attach that is not blocked comes to its connection. -/
theorem attachesClean_of_blocked {addDropped : ℤ → ℤ → ℤ} {s : Connections F} {e : ConnectionEvent}
    (h : s.step addDropped e = none) : AttachesClean s e := by
  cases e with
  | read bufLen => trivial
  | sys e =>
      cases e with
      | attach calls =>
          intro hidle
          simp [Connections.step, DtioxLinuxTcp.step, hidle] at h
      | started | detach | task => trivial

/-! ## The results -/

/-- A connection of the object: attach `i`, until the peer closes; in between it sends `bs`, and
    then `reading` comes. -/
def connectionRun (i : ℕ) (bs : List UInt8) (reading : List ConnectionEvent) :
    List ConnectionEvent :=
  [.sys (.attach ⟨none, none, none⟩), .sys (.task i (.ready none)), .sys (.started none),
    .sys (.task i .recv), .sys (.task i (.recvReturns (.bytes bs) none))] ++ reading ++
  [.sys (.task i .recv), .sys (.task i (.recvReturns (.bytes []) none)),
    .sys (.task i (.cleanup none)), .sys (.task i (.cleanup none)),
    .sys (.task i (.cleanup none)), .sys (.task i (.cleanup none))]

end DtioxLinuxTcp
