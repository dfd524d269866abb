import DtmcLinux.Dtiox.Canbus
import DtmcLinux.Modbus.MasterFlag

set_option autoImplicit false

/-! # Who owns the error of a receive task

When the receive task of a Modbus master or of the CAN object has ended with an error, the tasker
keeps the pointer to that error, and `dttasker_get_info` copies the pointer. Read puts the error
behind a new one and returns the chain, which its caller disposes; the tasker's pointer stays. Here
a caller reads as often as it wants and disposes what it was given, in any order. The log of what is
done with the error objects is sound only while one read at most gets as far as the task's error. -/

open Ownership

/-! ## The masters' read, with the objects -/

namespace ModbusMaster

/-- What `TaskInfoPtr` reads as. -/
def TaskerInfo.ofPtr (info : TaskInfoPtr) : TaskerInfo where
  running := info.running
  status := info.status
  dterr := DterrPtr.valueOf info.dterr

/-- `verify_rxtask_running`, where `getInfo` is the error of `dttasker_get_info`. -/
def verifyRxtaskRunningPtr (l : Ledger) (getInfo : Option Dterr) (info : TaskInfoPtr)
    (dterrIn : Option DterrPtr) : Ledger × Option DterrPtr :=
  let (l, dterr) :=
    match getInfo with
    | some e => l.freshOpt (some e)
    | none =>
      let status := info.status
      if info.running then (l, none)
      else
        let (l, dterr) := l.dterrNew .state info.dterr s!"rx task not running (status={status})"
        (l, some dterr)
  l.dterrAppend dterrIn dterr

variable {τ Cfg F : Type*} [Dtringfifo F] [DecidableEq τ]

/-- read: the error, and the bytes stored in `buf`. -/
def readPtr (l : Ledger) (w : World τ Cfg F) (t : τ) (bufLen : ℤ) (getInfo : Option Dterr)
    (info : TaskInfoPtr) :
    Option (Ledger × World τ Cfg F × Option DterrPtr × Option (List UInt8)) :=
  if w.self.mb = none then
    let (l, dterr) := l.freshOpt (some (.assertNotNull "self->mb"))
    some (l, w, dterr, none)
  else if bufLen < 0 then
    let (l, dterr) := l.freshOpt (some (.new .badarg "buf_len < 0"))
    some (l, w, dterr, none)
  else
    match w.lock.acquire t with
    | none => none
    | some (_, some e) =>
      let (l, dterr) := l.freshOpt (some e)
      some (l, w, dterr, none)
    | some (lock, none) =>
      let (self, dterr, out) := readFifo w.self bufLen
      let (w, dterr) := releaseLock { w with self := self, lock := lock } t dterr
      let (l, dterrIn) := l.freshOpt dterr
      let (l, dterr) := verifyRxtaskRunningPtr l getInfo info dterrIn
      some (l, w, dterr, out)

/-- What `dttasker_get_info` returns, without the objects. -/
def getInfoResult (getInfo : Option Dterr) (info : TaskInfoPtr) : Except Dterr TaskerInfo :=
  match getInfo with
  | some e => .error e
  | none => .ok (.ofPtr info)

theorem freshOpt_value (l : Ledger) (dterr : Option Dterr) :
    DterrPtr.valueOf (l.freshOpt dterr).2 = dterr := by
  cases dterr <;> rfl

theorem verifyRxtaskRunningPtr_value (l : Ledger) (getInfo : Option Dterr) (info : TaskInfoPtr)
    (dterrIn : Option DterrPtr) :
    DterrPtr.valueOf (verifyRxtaskRunningPtr l getInfo info dterrIn).2
      = verifyRxtaskRunning (getInfoResult getInfo info) (DterrPtr.valueOf dterrIn) := by
  cases getInfo with
  | some e => cases dterrIn <;> rfl
  | none =>
      cases hrunning : info.running <;> cases dterrIn <;>
        simp [verifyRxtaskRunningPtr, verifyRxtaskRunning, getInfoResult, TaskerInfo.ofPtr,
          DterrPtr.valueOf, Ledger.dterrNew, Ledger.dterrAppend, hrunning]

/-- Without the objects, this is the masters' read. -/
theorem readPtr_value (l : Ledger) (w : World τ Cfg F) (t : τ) (bufLen : ℤ)
    (getInfo : Option Dterr) (info : TaskInfoPtr) :
    (readPtr l w t bufLen getInfo info).map (fun r => (r.2.1, DterrPtr.valueOf r.2.2.1, r.2.2.2))
      = read w t bufLen (getInfoResult getInfo info) := by
  unfold readPtr read
  split
  · rfl
  · split
    · rfl
    · cases hlock : w.lock.acquire t with
      | none => rfl
      | some r =>
          obtain ⟨lock, _ | e⟩ := r
          · simp [verifyRxtaskRunningPtr_value, freshOpt_value]
          · rfl

end ModbusMaster

/-! ## A caller that reads and disposes -/

namespace RxTaskError

/-- An object whose receive task has ended: the error objects, the object, what the tasker says. -/
structure State (σ : Type*) where
  ledger : Ledger
  object : σ
  info : TaskInfoPtr

/-- The caller reads, or disposes an error that read has given it. -/
inductive Event (α : Type*) where
  | read (args : α)
  | dispose (chain : List ℕ)

variable {σ α : Type*}

/-- The receive task has ended with the error `dterr`, under a status other than `RUNNING`. -/
def State.stopped (object : σ) (status : String) (dterr : Dterr) : State σ where
  ledger := (Ledger.empty.fresh dterr).1
  object := object
  info := { running := false, status := status, dterr := some (Ledger.empty.fresh dterr).2 }

/-- One step, where `read` is the read of the object. -/
def step (read : Ledger → σ → TaskInfoPtr → α → Option (Ledger × σ × Option DterrPtr))
    (s : State σ) : Event α → Option (State σ)
  | .read args =>
    (read s.ledger s.object s.info args).map fun (l, object, dterr) =>
      { s with ledger := l.giveBack dterr, object := object }
  | .dispose chain =>
    if chain ∈ s.ledger.held then some { s with ledger := s.ledger.disposeHeld chain } else none

/-- No error object is disposed twice, and none is returned or chained after it was disposed. -/
def ErrorsOwned (s : State σ) : Prop := Sound s.ledger.log

instance ErrorsOwned.decidable (s : State σ) : Decidable (ErrorsOwned s) :=
  inferInstanceAs (Decidable (Sound _))

/-- The caller has disposed all it was given. -/
def AllDisposed (s : State σ) : Prop := ∀ chain ∈ s.ledger.held, chain = []

instance AllDisposed.decidable (s : State σ) : Decidable (AllDisposed s) :=
  inferInstanceAs (Decidable (∀ _ ∈ _, _))

/-- The reads for which `reaches` holds are those that get as far as the task's error. -/
def Event.reaching (reaches : α → Bool) : Event α → Bool
  | .read args => reaches args
  | .dispose _ => false

/-- A read that makes its own errors, with the task's error behind them if `reaches` says so. -/
def Lends (loan : List ℕ) (reaches : α → Bool) (I : σ → Prop)
    (read : Ledger → σ → α → Option (Ledger × σ × Option DterrPtr)) : Prop :=
  ∀ l object args l' object' dterr, I object → read l object args = some (l', object', dterr) →
    I object' ∧ Move loan l (reaches args) (l'.giveBack dterr)

/-- The ownership of the errors, for a read that lends the task's error. -/
theorem errorsOwned_iff
    {read : Ledger → σ → TaskInfoPtr → α → Option (Ledger × σ × Option DterrPtr)} {reaches : α → Bool}
    {I : σ → Prop} {object : σ} {status : String} {dterr : Dterr}
    (hlends : Lends (Ledger.empty.fresh dterr).2.objects reaches I
      fun l object => read l object (State.stopped object status dterr).info)
    (hI : I object) {events : List (Event α)} {s : State σ}
    (hs : Run.exec (step read) (.stopped object status dterr) events = some s) :
    (events.countP (·.reaching reaches) ≤ 1 → ErrorsOwned s) ∧
    (AllDisposed s → (ErrorsOwned s ↔ events.countP (·.reaching reaches) ≤ 1)) := by
  refine sound_iff_lent_once State.ledger
    (I := fun s => I s.object ∧ s.info = (State.stopped object status dterr).info) ?_ ⟨hI, rfl⟩
    (unlent_fresh dterr) (fresh_objects_ne_nil _ dterr) hs
  rintro s e s' ⟨hobject, hinfo⟩ h
  cases e with
  | read args =>
      obtain ⟨⟨l', object', dterr'⟩, hread, rfl⟩ := Option.map_eq_some_iff.1 h
      rw [hinfo] at hread
      obtain ⟨hI', hmove⟩ := hlends _ _ _ _ _ _ hobject hread
      exact ⟨⟨hI', hinfo⟩, hmove⟩
  | dispose chain =>
      unfold step at h
      dsimp only at h
      split at h
      · next hchain =>
          obtain rfl := Option.some.inj h
          exact ⟨⟨hobject, hinfo⟩, .dispose chain hchain⟩
      · exact absurd h (by simp)

end RxTaskError

/-! ## The masters -/

namespace ModbusMaster

open RxTaskError

variable {τ Cfg F : Type*} [Dtringfifo F]

/-- The arguments of a read, and the error of its `dttasker_get_info`. -/
structure ReadCall (τ : Type*) where
  t : τ
  bufLen : ℤ
  getInfo : Option Dterr

omit [Dtringfifo F] in
/-- A read of `w` that gets to the error of the receive task: it is attached, it has the lock, and
    `dttasker_get_info` succeeds. -/
def reachesTask (w : World τ Cfg F) (call : ReadCall τ) : Bool :=
  w.self.mb.isSome && w.lock.owner.isNone && decide (0 ≤ call.bufLen) && call.getInfo.isNone

/-- After the error of the task, if `dttasker_get_info` succeeded. -/
theorem verifyRxtaskRunningPtr_makes {l l' : Ledger} {getInfo : Option Dterr} {info : TaskInfoPtr}
    {dterrIn : Option DterrPtr} (hrunning : info.running = false)
    (h : Makes (if getInfo.isNone then DterrPtr.objectsOf info.dterr else []) l l'
      (DterrPtr.objectsOf dterrIn)) :
    ∃ new, Makes (if getInfo.isNone then DterrPtr.objectsOf info.dterr else []) l
        (verifyRxtaskRunningPtr l' getInfo info dterrIn).1 new ∧
      DterrPtr.objectsOf (verifyRxtaskRunningPtr l' getInfo info dterrIn).2
        = new ++ if getInfo.isNone then DterrPtr.objectsOf info.dterr else [] := by
  cases getInfo with
  | some e =>
      have hmade := h.trans (.fresh _ l' e)
      exact ⟨_, hmade.dterrAppend (l'.fresh e).2 (List.append_nil _).symm⟩
  | none =>
      have hmade := h.trans ((Makes.refl _ l').dterrNew .state info.dterr
        s!"rx task not running (status={info.status})" (fun _ hi => .inr hi))
      have hpart := hmade.dterrAppend (l'.dterrNew .state info.dterr
        s!"rx task not running (status={info.status})").2 rfl
      simp only [verifyRxtaskRunningPtr, hrunning]
      exact ⟨_, hpart⟩

variable [DecidableEq τ]

/-- Read, with what a caller of the object sees. -/
def readCall (l : Ledger) (w : World τ Cfg F) (info : TaskInfoPtr) (call : ReadCall τ) :
    Option (Ledger × World τ Cfg F × Option DterrPtr) :=
  (readPtr l w call.t call.bufLen call.getInfo info).map fun r => (r.1, r.2.1, r.2.2.1)

/-- An error that read makes before it asks for the task. -/
theorem fresh_move (loan : List ℕ) (l : Ledger) (dterr : Dterr) :
    Move loan l false ((l.freshOpt (some dterr)).1.giveBack (l.freshOpt (some dterr)).2) :=
  (Makes.freshOpt _ l (some dterr)).giveBack rfl _ (List.append_nil _).symm

theorem readCall_lends (w₀ : World τ Cfg F) (info : TaskInfoPtr) (hrunning : info.running = false) :
    Lends (DterrPtr.objectsOf info.dterr) (reachesTask w₀)
      (fun w => w.self.mb = w₀.self.mb ∧ w.lock.owner = w₀.lock.owner)
      fun l (w : World τ Cfg F) => readCall l w info := by
  rintro l w ⟨t, bufLen, getInfo⟩ l' w' dterr ⟨hmb, howner⟩ h
  obtain ⟨⟨l₁, w₁, dterr₁, out⟩, hread, heq⟩ := Option.map_eq_some_iff.1 h
  obtain ⟨rfl, rfl, rfl⟩ : l₁ = l' ∧ w₁ = w' ∧ dterr₁ = dterr := by simpa using heq
  unfold readPtr at hread
  split at hread
  · next hnone =>
      obtain ⟨rfl, rfl, rfl, -⟩ := by simpa using hread
      have hreach : reachesTask w₀ ⟨t, bufLen, getInfo⟩ = false := by
        simp [reachesTask, ← hmb, hnone]
      rw [hreach]
      exact ⟨⟨hmb, howner⟩, fresh_move _ l _⟩
  · next hsome =>
      split at hread
      · next hneg =>
          obtain ⟨rfl, rfl, rfl, -⟩ := by simpa using hread
          have hreach : reachesTask w₀ ⟨t, bufLen, getInfo⟩ = false := by
            have hneg : ¬0 ≤ bufLen := Int.not_le.2 hneg
            simp [reachesTask, hneg]
          rw [hreach]
          exact ⟨⟨hmb, howner⟩, fresh_move _ l _⟩
      · next hlen =>
          split at hread
          · exact absurd hread (by simp)
          · next lock e hlock =>
              obtain ⟨rfl, rfl, rfl, -⟩ := by simpa using hread
              have hheld := (Dtlock.acquire_eq_error hlock).1
              have hreach : reachesTask w₀ ⟨t, bufLen, getInfo⟩ = false := by
                simp [reachesTask, ← howner, hheld]
              rw [hreach]
              exact ⟨⟨hmb, howner⟩, fresh_move _ l _⟩
          · next lock hlock =>
              obtain ⟨hfree, rfl⟩ := Dtlock.acquire_eq_ok hlock
              obtain ⟨rfl, rfl, rfl, -⟩ := by simpa using hread
              have hreach : reachesTask w₀ ⟨t, bufLen, getInfo⟩ = getInfo.isNone := by
                have hm : w₀.self.mb.isSome = true := by
                  rw [← hmb]
                  exact Option.isSome_iff_ne_none.2 hsome
                simp [reachesTask, ← howner, hm, hfree, Int.not_lt.1 hlen]
              rw [hreach]
              refine ⟨⟨?_, ?_⟩, ?_⟩
              · simp [releaseLock, (readFifo_same w.self bufLen).2, hmb]
              · simp [releaseLock, ← howner, hfree]
              · obtain ⟨new, hmade, hobjects⟩ :=
                  verifyRxtaskRunningPtr_makes hrunning (.freshOpt _ l _)
                exact hmade.giveBack rfl _ hobjects

end ModbusMaster

/-! ## The CAN object -/

namespace DtioxLinuxCanbus

open RxTaskError

variable {F : Type*} [Dtringfifo F]

/-- The arguments of a read, and what its `dttasker_get_info` does. -/
structure ReadCall where
  bufLen : Int32
  getInfo : InfoCall

/-- Read, with what a caller of the object sees. -/
def readCall (l : Ledger) (self : Canbus F) (info : TaskInfoPtr) (call : ReadCall) :
    Option (Ledger × Canbus F × Option DterrPtr) :=
  let r := read l self call.bufLen call.getInfo info
  some (r.1, r.2.1, r.2.2.1)

/-- A read gets to the error of the receive task if `dttasker_get_info` succeeds. -/
def reachesTask (call : ReadCall) : Bool := call.getInfo.dterr.isNone

theorem readCall_lends (info : TaskInfoPtr) (hrunning : info.running = false) :
    Lends (DterrPtr.objectsOf info.dterr) reachesTask (fun _ => True)
      fun l (self : Canbus F) => readCall l self info := by
  rintro l self ⟨bufLen, getInfo⟩ l' self' dterr - h
  refine ⟨trivial, ?_⟩
  simp only [readCall, Option.some.injEq, Prod.mk.injEq] at h
  obtain ⟨rfl, -, rfl⟩ := h
  cases hget : getInfo.dterr with
  | some e =>
      have hmade := (Makes.fresh [] l e).dterrNew .fail (some (l.fresh e).2)
        s!"CAN RX task state {getInfo.unfilledStatus} error {getInfo.pointerText}"
        (fun _ hi => .inl hi)
      have hread : read l self bufLen getInfo info
          = (((l.fresh e).1.dterrNew .fail (some (l.fresh e).2)
              s!"CAN RX task state {getInfo.unfilledStatus} error {getInfo.pointerText}").1, self,
            some ((l.fresh e).1.dterrNew .fail (some (l.fresh e).2)
              s!"CAN RX task state {getInfo.unfilledStatus} error {getInfo.pointerText}").2,
            []) := by
        simp [read, hget, Ledger.freshOpt]
      rw [hread, reachesTask, hget]
      exact hmade.giveBack rfl _ (List.append_nil _).symm
  | none =>
      have hmade := (Makes.refl (DterrPtr.objectsOf info.dterr) l).dterrNew .fail info.dterr
        s!"CAN RX task state {info.status} error {getInfo.pointerText}" (fun _ hi => .inr hi)
      have hread : read l self bufLen getInfo info
          = ((l.dterrNew .fail info.dterr
              s!"CAN RX task state {info.status} error {getInfo.pointerText}").1, self,
            some (l.dterrNew .fail info.dterr
              s!"CAN RX task state {info.status} error {getInfo.pointerText}").2, []) := by
        simp [read, hget, Ledger.freshOpt, hrunning]
      rw [hread, reachesTask, hget]
      exact hmade.giveBack rfl _ rfl

end DtioxLinuxCanbus

/-! ## The results -/

namespace RxTaskError

section

variable {σ α : Type*}

/-- In the runs of a caller that reads and disposes, the errors are owned as long as at most one
    read gets to the task's error; and once the caller has disposed all it was given, only then. -/
def OwnedExactly (read : Ledger → σ → TaskInfoPtr → α → Option (Ledger × σ × Option DterrPtr))
    (reaches : α → Bool) (object : σ) : Prop :=
  ∀ (status : String) (dterr : Dterr) (events : List (Event α)) (s : State σ),
    Run.exec (step read) (.stopped object status dterr) events = some s →
    (events.countP (·.reaching reaches) ≤ 1 → ErrorsOwned s) ∧
    (AllDisposed s → (ErrorsOwned s ↔ events.countP (·.reaching reaches) ≤ 1))

end

/-- The three backends. -/
theorem errors_owned_exact {τ F : Type*} [DecidableEq τ] [Dtringfifo F]
    (tcp : ModbusMaster.World τ DtioxLinuxModbusTcpMaster.Config F)
    (rtu : ModbusMaster.World τ DtioxLinuxModbusRtuMaster.Config F)
    (can : DtioxLinuxCanbus.Canbus F) :
    OwnedExactly ModbusMaster.readCall (ModbusMaster.reachesTask tcp) tcp ∧
    OwnedExactly ModbusMaster.readCall (ModbusMaster.reachesTask rtu) rtu ∧
    OwnedExactly DtioxLinuxCanbus.readCall DtioxLinuxCanbus.reachesTask can := by
  refine ⟨?_, ?_, ?_⟩
  · intro status dterr events s hs
    exact errorsOwned_iff (ModbusMaster.readCall_lends tcp _ rfl) ⟨rfl, rfl⟩ hs
  · intro status dterr events s hs
    exact errorsOwned_iff (ModbusMaster.readCall_lends rtu _ rfl) ⟨rfl, rfl⟩ hs
  · intro status dterr events s hs
    exact errorsOwned_iff (DtioxLinuxCanbus.readCall_lends _ rfl) trivial hs

/-! ### Runs -/

/-- A connected TCP master. -/
def tcpMaster : ModbusMaster.World Bool DtioxLinuxModbusTcpMaster.Config ByteFifo :=
  let w := ModbusMaster.World.configured
    { ip := "10.0.0.2"
      port := 502
      unitId := 1
      pollIntervalMs := 10
      responseTimeoutMs := 200
      maxBlobBytes := 64
      rxRingCapacity := 256 } (⟨256, []⟩ : ByteFifo)
  { w with self := { w.self with mb := some 0, enabled := true } }

/-- A connected RTU master. -/
def rtuMaster : ModbusMaster.World Bool DtioxLinuxModbusRtuMaster.Config ByteFifo :=
  let w := ModbusMaster.World.configured
    { device := "/dev/ttyUSB0"
      slaveId := 1
      pollIntervalMs := 10
      responseTimeoutMs := 200
      byteTimeoutMs := 20
      maxBlobBytes := 64
      permitRetryPartialWrites := false
      rxRingCapacity := 256 } (⟨256, []⟩ : ByteFifo)
  { w with self := { w.self with mb := some 0, enabled := true } }

/-- An attached CAN object. -/
def canbus : DtioxLinuxCanbus.Canbus ByteFifo :=
  { sockFd := 3, rxOverflowFlag := false, rxFifo := ⟨256, []⟩, fifoDroppedBytes := 0 }

/-- A read of a master. -/
def masterRead : Event (ModbusMaster.ReadCall Bool) :=
  .read { t := true, bufLen := 8, getInfo := none }

/-- A read of the CAN object. -/
def canRead : Event DtioxLinuxCanbus.ReadCall :=
  .read { bufLen := 8
          getInfo := { dterr := none, unfilledStatus := "", pointerText := "0x5581" } }

/-- The error a receive task has ended with. -/
def rxError : Dterr := .new .io "Connection reset by peer"

/-- One read and its disposal. -/
theorem errors_owned_exact_oneRead :
    ∃ s, Run.exec (step ModbusMaster.readCall) (.stopped tcpMaster "STOPPED" rxError)
      [masterRead, .dispose [1, 0]] = some s ∧ ErrorsOwned s := by
  have howned := (errors_owned_exact tcpMaster rtuMaster canbus).1 "STOPPED" rxError
    [masterRead, .dispose [1, 0]]
  exact ⟨_, rfl, (howned _ rfl).1 (by decide)⟩

/-- The second of two reads chains an error that its caller has already disposed. -/
theorem second_read_chains_disposed :
    (∃ s, Run.exec (step ModbusMaster.readCall) (.stopped tcpMaster "STOPPED" rxError)
      [masterRead, .dispose [1, 0], masterRead, .dispose [2, 0]] = some s ∧ ¬ErrorsOwned s) ∧
    (∃ s, Run.exec (step ModbusMaster.readCall) (.stopped rtuMaster "STOPPED" rxError)
      [masterRead, .dispose [1, 0], masterRead, .dispose [2, 0]] = some s ∧ ¬ErrorsOwned s) ∧
    ∃ s, Run.exec (step DtioxLinuxCanbus.readCall) (.stopped canbus "STOPPED" rxError)
      [canRead, .dispose [1, 0], canRead, .dispose [2, 0]] = some s ∧ ¬ErrorsOwned s := by
  refine ⟨⟨_, rfl, ?_⟩, ⟨_, rfl, ?_⟩, _, rfl, ?_⟩
  · decide +kernel
  · decide +kernel
  · decide +kernel

end RxTaskError
