import DtmcLinux.Modbus.ReceiveSide

set_option autoImplicit false

/-! # When the receive sides of the two masters agree

In every run of both masters on the same events the tasks are in the same place and the members
that decide what runs next are equal. The members that rounds and reads change stay equal exactly as
long as no step meets one of the two places where the poll rounds differ. -/

namespace ModbusMaster

variable {τ Cfg Cfg' F : Type*} [DecidableEq τ]

/-- An operation that finds the lock free and always releases it. -/
theorem locked_eq_of_free {w : World τ Cfg F} (t : τ)
    {body : World τ Cfg F → World τ Cfg F × Label × Option Dterr} (hbody : Releases body)
    (hfree : w.lock.owner = none) :
    locked w t body = some
      ({ (body { w with lock := ⟨some t⟩ }).1 with lock := ⟨none⟩ },
        (body { w with lock := ⟨some t⟩ }).2.2) := by
  have hlock := hbody.lock { w with lock := ⟨some t⟩ }
  have hlabel := hbody.label { w with lock := ⟨some t⟩ }
  unfold locked
  rw [Dtlock.acquire_of_free t hfree]
  dsimp only
  rcases hrun : body { w with lock := ⟨some t⟩ } with ⟨w', label, dterr⟩
  rw [hrun] at hlock hlabel
  dsimp only at hlock hlabel
  subst hlabel
  dsimp only [releaseLock]
  rw [hlock, Dtlock.release_held, Option.or_none]

omit [DecidableEq τ] in
theorem snapshot_releases :
    Releases (fun w : World τ Cfg F => (w, .releaseLockAndCleanup, none)) where
  lock _ := rfl
  label _ := rfl

theorem loopTop_of_free {w : World τ Cfg F} (t : τ) (hfree : w.lock.owner = none) :
    loopTop w t = some ({ w with lock := ⟨none⟩ },
      if w.self.stopRequested then .returned none
      else if w.self.enabled && w.self.mb.isSome then .polling
      else .looping) := by
  unfold loopTop
  rw [locked_eq_of_free t snapshot_releases hfree]
  rfl

variable [Dtringfifo F]

/-- A read that finds the lock free. -/
theorem read_of_free {w : World τ Cfg F} (t : τ) (bufLen : ℤ) (info : Except Dterr TaskerInfo)
    (hfree : w.lock.owner = none) :
    read w t bufLen info = some (
      if w.self.mb.isSome = false then (w, some (.assertNotNull "self->mb"), none)
      else if bufLen < 0 then (w, some (.new .badarg "buf_len < 0"), none)
      else
        ({ w with self := (readFifo w.self bufLen).1, lock := ⟨none⟩ },
          verifyRxtaskRunning info (readFifo w.self bufLen).2.1,
          (readFifo w.self bufLen).2.2)) := by
  unfold read
  have hmb' : w.self.mb = none ↔ w.self.mb.isSome = false := by
    rw [Option.isSome_eq_false_iff, Option.isNone_iff_eq_none]
  by_cases hmb : w.self.mb = none
  · rw [if_pos hmb, if_pos (hmb'.1 hmb)]
  · rw [if_neg hmb, if_neg fun h => hmb (hmb'.2 h)]
    by_cases hneg : bufLen < 0
    · rw [if_pos hneg, if_pos hneg]
    · rw [if_neg hneg, if_neg hneg, Dtlock.acquire_of_free t hfree]
      dsimp only [releaseLock]
      rw [Dtlock.release_held, Option.or_none]

omit [DecidableEq τ] in
/-- A read changes the flags and the FIFO at most. -/
theorem readFifo_keeps (self : Master Cfg F) (bufLen : ℤ) :
    (readFifo self bufLen).1.cfg = self.cfg ∧ (readFifo self bufLen).1.mb = self.mb ∧
      (readFifo self bufLen).1.enabled = self.enabled ∧
      (readFifo self bufLen).1.rxSemaphore = self.rxSemaphore ∧
      (readFifo self bufLen).1.stopRequested = self.stopRequested := by
  unfold readFifo
  split
  · exact ⟨rfl, rfl, rfl, rfl, rfl⟩
  · split
    · exact ⟨rfl, rfl, rfl, rfl, rfl⟩
    · split <;> exact ⟨rfl, rfl, rfl, rfl, rfl⟩

omit [DecidableEq τ] in
/-- What a read does is decided by the flags and the FIFO. -/
theorem readFifo_congr {self : Master Cfg F} {self' : Master Cfg' F} (bufLen : ℤ)
    (hdead : self.deadSlavePending = self'.deadSlavePending)
    (hover : self.rxOverflowPending = self'.rxOverflowPending)
    (hen : self.enabled = self'.enabled) (hfifo : self.rxFifo = self'.rxFifo) :
    (readFifo self bufLen).2 = (readFifo self' bufLen).2 ∧
      (readFifo self bufLen).1.rxFifo = (readFifo self' bufLen).1.rxFifo ∧
      (readFifo self bufLen).1.rxOverflowPending = (readFifo self' bufLen).1.rxOverflowPending ∧
      (readFifo self bufLen).1.deadSlavePending = (readFifo self' bufLen).1.deadSlavePending := by
  unfold readFifo
  rw [hdead, hover, hen, hfifo]
  split
  · exact ⟨rfl, rfl, rfl, rfl⟩
  · split
    · exact ⟨rfl, rfl, rfl, rfl⟩
    · split
      · exact ⟨rfl, hfifo, hover, hdead⟩
      · exact ⟨rfl, rfl, rfl, rfl⟩

/-! ## The two ends of a round whose command succeeds -/

omit [DecidableEq τ] [Dtringfifo F] in
/-- The error of a round with a read that fails. -/
def readError (hdr data : LibResult) : Dterr :=
  let hdrText := hdr.errnoMessage
  let dataText := data.errnoMessage
  if hdr.rc ≠ 2 then .new .fail s!"modbus_read_registers poll header {hdrText}"
  else .new .fail s!"modbus_read_registers poll data {dataText}"

section

variable {dm : DtioxModbus} {maxBlob : ℤ} {cmd hdr data : LibResult}
  {hdrRegs : UInt16 × UInt16} {dataRegs : ℕ → UInt16}

omit [DecidableEq τ] in
/-- A read fails: the backends differ in whether they mark the slave dead. -/
theorem pollBody_of_readFails (hcmd : cmd.rc = 2) (h : ReadFails dm maxBlob hdr data hdrRegs)
    (deadOnReadError posts : Bool) (w : World τ Cfg F) :
    pollBody dm deadOnReadError posts maxBlob cmd hdr data hdrRegs dataRegs w =
      ({ w with self := { w.self with
          deadSlavePending := w.self.deadSlavePending || deadOnReadError } },
        .releaseLockAndCleanup, some (readError hdr data)) := by
  have hdead : (if deadOnReadError = true then
      { w with self := { w.self with deadSlavePending := true } } else w) =
      { w with self := { w.self with
        deadSlavePending := w.self.deadSlavePending || deadOnReadError } } := by
    cases deadOnReadError with
    | false => simp
    | true => simp
  unfold pollBody
  simp only [hdead, hcmd, ne_eq, not_true_eq_false, if_false]
  rcases h with hhdr | ⟨byteLen, hlen, hdata⟩
  · rw [if_pos hhdr, readError, if_pos hhdr]
  · by_cases hhdr : ¬hdr.rc = 2
    · rw [if_pos hhdr, readError, if_pos hhdr]
    · rw [if_neg hhdr, Option.mem_def.1 hlen]
      dsimp only
      rw [if_pos hdata, readError, if_neg hhdr]

omit [DecidableEq τ] in
/-- Nothing to fetch. -/
theorem pollBody_of_noData (hcmd : cmd.rc = 2) (h : ¬ReadFails dm maxBlob hdr data hdrRegs)
    (hlen : pollByteLen dm maxBlob hdrRegs.1 hdrRegs.2 = none) (deadOnReadError posts : Bool)
    (w : World τ Cfg F) :
    pollBody dm deadOnReadError posts maxBlob cmd hdr data hdrRegs dataRegs w =
      (w, .releaseLockAndCleanup, none) := by
  have hhdr : ¬hdr.rc ≠ 2 := fun hne => h (Or.inl hne)
  unfold pollBody
  dsimp only
  rw [if_neg (not_not.2 hcmd), if_neg hhdr, hlen]

omit [DecidableEq τ] in
/-- What a push changes, with the flag as a disjunction. -/
theorem pollPush_eq (self : Master Cfg F) (byteLen : UInt16) :
    pollPush dm self byteLen dataRegs =
      let pushed := Dtringfifo.push self.rxFifo (dm.unpackRegsToBytes dataRegs byteLen.toNat)
      ({ self with
          rxFifo := pushed.1
          rxOverflowPending := self.rxOverflowPending || decide (pushed.2 < byteLen.toNat) },
        pushed.2) := by
  unfold pollPush
  dsimp only
  split
  · next hshort => rw [decide_eq_true hshort, Bool.or_true]
  · next hall => rw [decide_eq_false hall, Bool.or_false]

omit [DecidableEq τ] in
/-- The payload arrives: the backends differ in whether they post. -/
theorem pollBody_of_data (hcmd : cmd.rc = 2) (h : ¬ReadFails dm maxBlob hdr data hdrRegs)
    {byteLen : UInt16} (hlen : pollByteLen dm maxBlob hdrRegs.1 hdrRegs.2 = some byteLen)
    (deadOnReadError posts : Bool) (w : World τ Cfg F) :
    pollBody dm deadOnReadError posts maxBlob cmd hdr data hdrRegs dataRegs w =
      ({ w with
          self := (pollPush dm w.self byteLen dataRegs).1
          rxPosts :=
            if posts && w.self.rxSemaphore && (pollPush dm w.self byteLen dataRegs).2 > 0 then
              w.rxPosts + 1
            else w.rxPosts },
        .releaseLockAndCleanup, none) := by
  have hhdr : ¬hdr.rc ≠ 2 := fun hne => h (Or.inl hne)
  have hdata : ¬data.rc ≠ pollNeedRegs dm byteLen := fun hne => h (Or.inr ⟨byteLen, hlen, hne⟩)
  have hsem : (pollPush dm w.self byteLen dataRegs).1.rxSemaphore = w.self.rxSemaphore := by
    unfold pollPush
    dsimp only
    split <;> rfl
  unfold pollBody
  dsimp only
  rw [if_neg (not_not.2 hcmd), if_neg hhdr, hlen]
  dsimp only
  rw [if_neg hdata, hsem]

end

/-! ## The relation -/

omit [DecidableEq τ] [Dtringfifo F] in
/-- What decides which step comes next is the same. -/
structure SameControl (a : Receiver τ DtioxLinuxModbusTcpMaster.Config F)
    (b : Receiver τ DtioxLinuxModbusRtuMaster.Config F) : Prop where
  maxBlobBytes : a.world.self.cfg.maxBlobBytes = b.world.self.cfg.maxBlobBytes
  mb : a.world.self.mb.isSome = b.world.self.mb.isSome
  enabled : a.world.self.enabled = b.world.self.enabled
  rxSemaphore : a.world.self.rxSemaphore = b.world.self.rxSemaphore
  stopRequested : a.world.self.stopRequested = b.world.self.stopRequested
  tcpFree : a.world.lock.owner = none
  rtuFree : b.world.lock.owner = none
  task : a.task = b.task

/-- What the reads have to do with is the same. -/
structure SameData (a : Receiver τ DtioxLinuxModbusTcpMaster.Config F)
    (b : Receiver τ DtioxLinuxModbusRtuMaster.Config F) : Prop where
  rxFifo : a.world.self.rxFifo = b.world.self.rxFifo
  rxOverflowPending : a.world.self.rxOverflowPending = b.world.self.rxOverflowPending
  deadSlavePending : a.world.self.deadSlavePending = b.world.self.deadSlavePending
  rxPosts : a.world.rxPosts = b.world.rxPosts
  reads : a.reads = b.reads

variable {a : Receiver τ DtioxLinuxModbusTcpMaster.Config F}
  {b : Receiver τ DtioxLinuxModbusRtuMaster.Config F}

omit [DecidableEq τ] in
theorem SameData.agree (h : SameData a b) : Agree a b :=
  ⟨congrArg _ h.rxFifo, h.rxOverflowPending, h.deadSlavePending, h.rxPosts, h.reads⟩

omit [DecidableEq τ] in
theorem Agree.sameData (h : Agree a b) (hfifo : a.world.self.rxFifo = b.world.self.rxFifo) :
    SameData a b :=
  ⟨hfifo, h.2.1, h.2.2.1, h.2.2.2.1, h.2.2.2.2⟩

/-! ## One step -/

/-- What a step has to show: the control stays the same, and data that were the same stay so
    exactly under the condition. -/
structure Outcome (condition : Prop) (a : Receiver τ DtioxLinuxModbusTcpMaster.Config F)
    (b : Receiver τ DtioxLinuxModbusRtuMaster.Config F)
    (a' : Receiver τ DtioxLinuxModbusTcpMaster.Config F)
    (b' : Receiver τ DtioxLinuxModbusRtuMaster.Config F) : Prop where
  control : SameControl a' b'
  same : SameData a b → condition → SameData a' b'
  differs : SameData a b → ¬condition → ¬Agree a' b'

open Lockstep (Moves)

theorem loopTop_moves (h : SameControl a b) (t : τ) :
    Moves (fun r r' => Outcome True a b { a with world := r.1, task := r.2 }
        { b with world := r'.1, task := r'.2 })
      (loopTop a.world t) (loopTop b.world t) := by
  rw [loopTop_of_free t h.tcpFree, loopTop_of_free t h.rtuFree]
  refine .moved ⟨{ h with tcpFree := rfl, rtuFree := rfl, task := ?_ }, fun hs _ => { hs with },
    fun _ hc => absurd trivial hc⟩
  rw [h.stopRequested, h.enabled, h.mb]

theorem pollRound_moves (dm : DtioxModbus) (h : SameControl a b) (htask : a.task = .polling)
    (t : τ) (cmd hdr data : LibResult) (hdrRegs : UInt16 × UInt16) (dataRegs : ℕ → UInt16) :
    Moves (fun r r' =>
        Outcome (StaysTogether dm (a, b) (.pollRound t cmd hdr data hdrRegs dataRegs)) a b
          { a with world := r.1, task := afterRound r.2 }
          { b with world := r'.1, task := afterRound r'.2 })
      (DtioxLinuxModbusTcpMaster.pollRound dm a.world t cmd hdr data hdrRegs dataRegs)
      (DtioxLinuxModbusRtuMaster.pollRound dm b.world t cmd hdr data hdrRegs dataRegs) := by
  unfold DtioxLinuxModbusTcpMaster.pollRound DtioxLinuxModbusRtuMaster.pollRound
  rw [locked_eq_of_free t (pollBody_releases _ _ _ _ _ _ _ _ _) h.tcpFree,
    locked_eq_of_free t (pollBody_releases _ _ _ _ _ _ _ _ _) h.rtuFree, ← h.maxBlobBytes]
  refine .moved ?_
  have hcond : StaysTogether dm (a, b) (.pollRound t cmd hdr data hdrRegs dataRegs) ↔
      (cmd.rc = 2 →
        (ReadFails dm (pollMaxBlob dm a.world.self.cfg.maxBlobBytes) hdr data hdrRegs →
          a.world.self.deadSlavePending = true) ∧
        (StoresBytes dm (pollMaxBlob dm a.world.self.cfg.maxBlobBytes) a.world.self.rxFifo hdr data
          hdrRegs dataRegs → a.world.self.rxSemaphore = false)) :=
    ⟨fun hc => hc htask, fun hc _ => hc⟩
  generalize pollMaxBlob dm a.world.self.cfg.maxBlobBytes = maxBlob at hcond ⊢
  by_cases hcmd : cmd.rc ≠ 2
  · -- both mark the slave dead
    simp only [pollBody, if_pos hcmd]
    refine ⟨{ h with tcpFree := rfl, rtuFree := rfl, task := rfl },
      fun hs _ => { hs with deadSlavePending := rfl }, fun _ hc => ?_⟩
    exact absurd (hcond.2 fun h2 => absurd h2 hcmd) hc
  rw [not_not] at hcmd
  by_cases hfails : ReadFails dm maxBlob hdr data hdrRegs
  · -- only the RTU master marks the slave dead
    rw [pollBody_of_readFails hcmd hfails, pollBody_of_readFails hcmd hfails]
    refine ⟨{ h with tcpFree := rfl, rtuFree := rfl, task := rfl }, fun hs hc => ?_,
      fun hs hc hagree => ?_⟩
    · have hdead := (hcond.1 hc hcmd).1 hfails
      refine { hs with deadSlavePending := ?_ }
      dsimp only
      rw [← hs.deadSlavePending, hdead]
      rfl
    · refine hc (hcond.2 fun _ => ⟨fun _ => ?_, fun hst => absurd hfails hst.1⟩)
      simpa using hagree.2.2.1
  · cases hlen : pollByteLen dm maxBlob hdrRegs.1 hdrRegs.2 with
    | none =>
        rw [pollBody_of_noData hcmd hfails hlen, pollBody_of_noData hcmd hfails hlen]
        refine ⟨{ h with tcpFree := rfl, rtuFree := rfl, task := rfl }, fun hs _ => { hs with },
          fun hs hc => absurd (hcond.2 fun _ => ⟨fun hf => absurd hf hfails, ?_⟩) hc⟩
        rintro ⟨-, byteLen, hmem, -⟩
        rw [hlen] at hmem
        exact absurd hmem (by simp)
    | some byteLen =>
        rw [pollBody_of_data hcmd hfails hlen, pollBody_of_data hcmd hfails hlen]
        simp only [pollPush_eq, Bool.false_and, Bool.true_and, Bool.and_eq_true, decide_eq_true_eq,
          Bool.false_eq_true, if_false]
        have hstores : StoresBytes dm maxBlob a.world.self.rxFifo hdr data hdrRegs dataRegs ↔
            0 < (Dtringfifo.push a.world.self.rxFifo
              (dm.unpackRegsToBytes dataRegs byteLen.toNat)).2 := by
          unfold StoresBytes
          rw [hlen]
          simp [hfails]
        refine ⟨{ h with tcpFree := rfl, rtuFree := rfl, task := rfl }, fun hs hc => ?_,
          fun hs hc hagree => ?_⟩
        · have hsem := (hcond.1 hc hcmd).2
          rw [hstores] at hsem
          refine { hs with rxFifo := ?_, rxOverflowPending := ?_, rxPosts := ?_ }
          · dsimp only
            rw [hs.rxFifo]
          · dsimp only
            rw [hs.rxFifo, hs.rxOverflowPending]
          · dsimp only
            rw [← hs.rxFifo, ← h.rxSemaphore, if_neg, hs.rxPosts]
            rintro ⟨hset, hpos⟩
            rw [hsem hpos] at hset
            exact absurd hset (by simp)
        · refine hc (hcond.2 fun _ => ⟨fun hf => absurd hf hfails, fun hst => ?_⟩)
          have hposts := hagree.2.2.2.1
          dsimp only at hposts
          by_contra hset
          rw [Bool.not_eq_false, h.rxSemaphore] at hset
          rw [hstores, hs.rxFifo] at hst
          rw [if_pos ⟨hset, hst⟩, hs.rxPosts] at hposts
          omega

theorem read_moves (h : SameControl a b) (stateText : Bool → String) (t : τ) (bufLen : ℤ) :
    Moves (fun r r' => Outcome True a b { a with world := r.1, reads := a.reads ++ [r.2] }
        { b with world := r'.1, reads := b.reads ++ [r'.2] })
      (read a.world t bufLen (.ok (a.task.info stateText)))
      (read b.world t bufLen (.ok (b.task.info stateText))) := by
  rw [read_of_free t bufLen _ h.tcpFree, read_of_free t bufLen _ h.rtuFree, ← h.mb, ← h.task]
  refine .moved ?_
  by_cases hmb : a.world.self.mb.isSome = false
  · rw [if_pos hmb, if_pos hmb]
    refine ⟨{ h with task := rfl }, fun hs _ => ?_, fun _ hc => absurd trivial hc⟩
    exact { hs with reads := congrArg (· ++ _) hs.reads }
  rw [if_neg hmb, if_neg hmb]
  by_cases hneg : bufLen < 0
  · rw [if_pos hneg, if_pos hneg]
    refine ⟨{ h with task := rfl }, fun hs _ => ?_, fun _ hc => absurd trivial hc⟩
    exact { hs with reads := congrArg (· ++ _) hs.reads }
  rw [if_neg hneg, if_neg hneg]
  refine ⟨?_, fun hs _ => ?_, fun _ hc => absurd trivial hc⟩
  · obtain ⟨hcfg, hmb, hen, hsem, hstop⟩ := readFifo_keeps a.world.self bufLen
    obtain ⟨hcfg', hmb', hen', hsem', hstop'⟩ := readFifo_keeps b.world.self bufLen
    refine { maxBlobBytes := ?_, mb := ?_, enabled := ?_, rxSemaphore := ?_, stopRequested := ?_,
             tcpFree := rfl, rtuFree := rfl, task := rfl }
    all_goals dsimp only
    · rw [hcfg, hcfg', h.maxBlobBytes]
    · rw [hmb, hmb', h.mb]
    · rw [hen, hen', h.enabled]
    · rw [hsem, hsem', h.rxSemaphore]
    · rw [hstop, hstop', h.stopRequested]
  · obtain ⟨hout, hfifo, hover, hdead⟩ := readFifo_congr bufLen hs.deadSlavePending
      hs.rxOverflowPending h.enabled hs.rxFifo
    refine { rxFifo := hfifo, rxOverflowPending := hover, deadSlavePending := hdead,
             rxPosts := hs.rxPosts, reads := ?_ }
    dsimp only
    rw [hs.reads, hout]

theorem enable_moves (h : SameControl a b) (t : τ) (enabled : Bool) :
    Moves (fun r r' => Outcome True a b { a with world := r.1 } { b with world := r'.1 })
      (locked a.world t (enableBody enabled)) (locked b.world t (enableBody enabled)) := by
  rw [locked_eq_of_free t (enableBody_releases _) h.tcpFree,
    locked_eq_of_free t (enableBody_releases _) h.rtuFree]
  refine .moved ⟨{ h with enabled := rfl, tcpFree := rfl, rtuFree := rfl }, fun hs _ => ?_,
    fun _ hc => absurd trivial hc⟩
  exact { hs with
    rxFifo := congrArg Dtringfifo.reset hs.rxFifo, rxOverflowPending := rfl
    deadSlavePending := rfl }

theorem setRxSemaphore_moves (h : SameControl a b) (t : τ) (rxSemaphore : Bool) :
    Moves (fun r r' => Outcome True a b { a with world := r.1 } { b with world := r'.1 })
      (locked a.world t (setRxSemaphoreBody rxSemaphore))
      (locked b.world t (setRxSemaphoreBody rxSemaphore)) := by
  rw [locked_eq_of_free t (setRxSemaphoreBody_releases _) h.tcpFree,
    locked_eq_of_free t (setRxSemaphoreBody_releases _) h.rtuFree]
  exact .moved ⟨{ h with rxSemaphore := rfl, tcpFree := rfl, rtuFree := rfl },
    fun hs _ => { hs with }, fun _ hc => absurd trivial hc⟩

/-- **Step lemma.** -/
theorem step_moves (dm : DtioxModbus) (stateText : Bool → String) (h : SameControl a b)
    (e : ReceiveEvent τ) :
    Moves (Outcome (StaysTogether dm (a, b) e) a b)
      (Receiver.step (DtioxLinuxModbusTcpMaster.publicBackend dm) stateText a e)
      (Receiver.step (DtioxLinuxModbusRtuMaster.publicBackend dm) stateText b e) := by
  cases e with
  | rxtaskLoop t =>
      unfold Receiver.step
      dsimp only
      rw [← h.task]
      split
      · exact (loopTop_moves h t).map
      · exact .blocked
  | pollRound t cmd hdr data hdrRegs dataRegs =>
      unfold Receiver.step
      dsimp only
      rw [← h.task]
      split
      · next htask => exact (pollRound_moves dm h htask t cmd hdr data hdrRegs dataRegs).map
      · exact .blocked
  | rxtaskStopped =>
      unfold Receiver.step
      dsimp only
      rw [← h.task]
      split
      · exact .moved ⟨{ h with task := rfl }, fun hs _ => { hs with },
          fun _ hc => absurd trivial hc⟩
      · exact .blocked
  | read t bufLen => exact (read_moves h stateText t bufLen).map
  | enable t enabled => exact (enable_moves h t enabled).map
  | setRxSemaphore t rxSemaphore => exact (setRxSemaphore_moves h t rxSemaphore).map

/-! ## Runs -/

/-- What holds of the pair along a run whose states agree. -/
def Coupled (s : Receivers τ F) : Prop :=
  SameControl s.1 s.2 ∧ s.1.world.self.rxFifo = s.2.world.self.rxFifo

omit [DecidableEq τ] in
theorem Coupled.sameData {s : Receivers τ F} (h : Coupled s) (ha : Agree s.1 s.2) :
    SameData s.1 s.2 := ha.sameData h.2

/-- What a step of both masters does to a pair that agrees. -/
theorem step_outcome (dm : DtioxModbus) (stateText : Bool → String) {s s' : Receivers τ F}
    {e : ReceiveEvent τ} (hi : Coupled s) (h : Receivers.step dm stateText s e = some s') :
    Outcome (StaysTogether dm s e) s.1 s.2 s'.1 s'.2 := by
  obtain ⟨ha, hb⟩ := (Lockstep.step_eq_some _ _).1 h
  have hmoves := step_moves dm stateText hi.1 e
  rw [ha, hb] at hmoves
  cases hmoves with
  | moved hout => exact hout

/-- A step neither master can take is taken under the condition. -/
theorem staysTogether_of_blocked (dm : DtioxModbus) (stateText : Bool → String)
    {s : Receivers τ F} {e : ReceiveEvent τ} (hi : Coupled s)
    (h : Receivers.step dm stateText s e = none) : StaysTogether dm s e := by
  have hnone := Lockstep.eq_none_of_step_eq_none (step_moves dm stateText hi.1 e) h
  cases e with
  | pollRound t cmd hdr data hdrRegs dataRegs =>
      -- a round is not blocked while the lock is free
      intro htask
      have hround : DtioxLinuxModbusTcpMaster.pollRound dm s.1.world t cmd hdr data hdrRegs dataRegs
          = _ := locked_eq_of_free t (pollBody_releases _ _ _ _ _ _ _ _ _) hi.1.tcpFree
      unfold Receiver.step at hnone
      dsimp only [DtioxLinuxModbusTcpMaster.publicBackend, DtioxLinuxModbusTcpMaster.backend]
        at hnone
      rw [if_pos htask, hround] at hnone
      exact absurd hnone (by simp)
  | _ => trivial

omit [Dtringfifo F] in
/-- A successful attach of a configured object. -/
theorem attach_configured {cfg : Cfg} {rxFifo : F} {t : τ} {newFailed : String} {created : Bool}
    {setup : List LibResult} {connect : LibResult} {taskerStart : Option Dterr}
    {w : World τ Cfg F}
    (h : locked (World.configured cfg rxFifo) t
      (attachBody newFailed created setup connect taskerStart) = some (w, none)) :
    ∃ contexts, w = {
      self := {
        cfg := cfg, mb := some 0, isConnected := true, enabled := true, rxSemaphore := false
        stopRequested := false, rxOverflowPending := false, deadSlavePending := false
        rxFifo := rxFifo }
      contexts := contexts, lock := ⟨none⟩, rxPosts := 0 } := by
  have hacq : (World.configured cfg rxFifo : World τ Cfg F).lock.acquire t
      = some (⟨some t⟩, none) := Dtlock.acquire_of_free t rfl
  unfold locked at h
  rw [hacq] at h
  unfold attachBody at h
  by_cases hcreated : (!created) = true
  · simp only [if_pos hcreated, releaseLock] at h
    simp at h
  simp only [if_neg hcreated] at h
  cases hsetup : setupError setup with
  | some e =>
      rw [hsetup] at h
      exact absurd h (by simp)
  | none =>
      rw [hsetup] at h
      simp only [ensureConnected, resetFlags, newContext, World.configured, Bool.false_eq_true,
        if_false] at h
      by_cases hrc : connect.rc = -1
      · rw [if_pos hrc] at h
        exact absurd h (by simp [releaseLock])
      · rw [if_neg hrc] at h
        cases taskerStart with
        | some e => exact absurd h (by simp)
        | none =>
            simp only [releaseLock, Contexts.connect, Dtlock.release_held, Option.some.injEq,
              Prod.mk.injEq] at h
            exact ⟨_, h.1.symm⟩

/-- A master whose receive task has just been started. -/
def Receiver.started (w : World τ Cfg F) : Receiver τ Cfg F where
  world := w
  task := .looping
  reads := []

omit [DecidableEq τ] [Dtringfifo F] in
/-- The defaults of the two `configure` functions agree. -/
theorem withDefaults_same (dm : DtioxModbus) (tcpDefaultPort : ℤ)
    {tcpCfg : DtioxLinuxModbusTcpMaster.Config} {rtuCfg : DtioxLinuxModbusRtuMaster.Config} :
    (tcpCfg.maxBlobBytes = rtuCfg.maxBlobBytes →
      (tcpCfg.withDefaults dm tcpDefaultPort).maxBlobBytes
        = (rtuCfg.withDefaults dm).maxBlobBytes) ∧
    (tcpCfg.rxRingCapacity = rtuCfg.rxRingCapacity →
      (tcpCfg.withDefaults dm tcpDefaultPort).rxRingCapacity
        = (rtuCfg.withDefaults dm).rxRingCapacity) := by
  unfold DtioxLinuxModbusTcpMaster.Config.withDefaults
    DtioxLinuxModbusRtuMaster.Config.withDefaults
  exact ⟨fun h => by simp only [h], fun h => by simp only [h]⟩

omit [Dtringfifo F] in
/-- Two masters with equal limits and capacities are in the same state once both are attached;
    `rxFifo` is the FIFO of a given capacity. -/
theorem attached_same (dm : DtioxModbus) (tcpDefaultPort : ℤ) (rxFifo : ℤ → F)
    {tcpCfg : DtioxLinuxModbusTcpMaster.Config} {rtuCfg : DtioxLinuxModbusRtuMaster.Config} {t : τ}
    {tcpCalls : DtioxLinuxModbusTcpMaster.AttachCalls}
    {rtuCalls : DtioxLinuxModbusRtuMaster.AttachCalls}
    {w : World τ DtioxLinuxModbusTcpMaster.Config F}
    {v : World τ DtioxLinuxModbusRtuMaster.Config F}
    (hblob : tcpCfg.maxBlobBytes = rtuCfg.maxBlobBytes)
    (hcapacity : tcpCfg.rxRingCapacity = rtuCfg.rxRingCapacity)
    (hw : DtioxLinuxModbusTcpMaster.attach
      (World.configured (tcpCfg.withDefaults dm tcpDefaultPort)
        (rxFifo (tcpCfg.withDefaults dm tcpDefaultPort).rxRingCapacity)) t tcpCalls
      = some (w, none))
    (hv : DtioxLinuxModbusRtuMaster.attach
      (World.configured (rtuCfg.withDefaults dm)
        (rxFifo (rtuCfg.withDefaults dm).rxRingCapacity)) t rtuCalls
      = some (v, none)) :
    SameControl (Receiver.started w) (.started v) ∧ SameData (Receiver.started w) (.started v) := by
  have hdefaults := @withDefaults_same dm tcpDefaultPort tcpCfg rtuCfg
  obtain ⟨tcpContexts, rfl⟩ := attach_configured hw
  obtain ⟨rtuContexts, rfl⟩ := attach_configured hv
  exact ⟨⟨hdefaults.1 hblob, rfl, rfl, rfl, rfl, rfl, rfl, rfl⟩,
    ⟨congrArg rxFifo (hdefaults.2 hcapacity), rfl, rfl, rfl, rfl⟩⟩

/-- **Exact condition.** For two masters whose receive sides are in the same state, and every
    sequence of events: the runs of one are the runs of the other, and the receive sides agree in
    every state exactly when no poll round that gets past its command fails in a read, unless the
    slave is marked dead already, or stores bytes while a semaphore is set. -/
theorem receive_sides_agree_exact (dm : DtioxModbus) (stateText : Bool → String)
    (start : Receivers τ F) (hcontrol : SameControl start.1 start.2)
    (hdata : SameData start.1 start.2) (events : List (ReceiveEvent τ)) :
    (Run.exec (Receiver.step (DtioxLinuxModbusTcpMaster.publicBackend dm) stateText) start.1
          events).isSome
        = (Run.exec (Receiver.step (DtioxLinuxModbusRtuMaster.publicBackend dm) stateText) start.2
          events).isSome ∧
      (Run.AllStates (Receivers.step dm stateText) (fun s => Agree s.1 s.2) start events
        ↔ Run.AllSteps (Receivers.step dm stateText) (StaysTogether dm) start events) := by
  refine ⟨?_, ?_⟩
  · have hmoves := Lockstep.exec_moves (R := SameControl)
      (fun a b e hab => (step_moves dm stateText hab e).imp fun _ _ hout => hout.control)
      events hcontrol
    exact hmoves.isSome_eq
  · refine Run.allStates_iff_allSteps (I := Coupled) ?_ ?_ ?_ events start
      ⟨hcontrol, hdata.rxFifo⟩ hdata.agree
    · intro s e s' hi hs h hs'
      have hout := step_outcome dm stateText hi h
      by_cases hc : StaysTogether dm s e
      · exact ⟨hout.control, (hout.same (hi.sameData hs) hc).rxFifo⟩
      · exact absurd hs' (hout.differs (hi.sameData hs) hc)
    · intro s e s' hi hs h
      have hout := step_outcome dm stateText hi h
      constructor
      · intro hs'
        by_contra hc
        exact hout.differs (hi.sameData hs) hc hs'
      · exact fun hc => (hout.same (hi.sameData hs) hc).agree
    · exact fun s e hi _ h => staysTogether_of_blocked dm stateText hi h

/-- A configuration of the TCP master, with defaults to fill in. -/
def tcpConfig : DtioxLinuxModbusTcpMaster.Config := ⟨"10.0.0.1", 0, 0, 0, 0, 0, 64⟩

/-- A configuration of the RTU master with the same limits. -/
def rtuConfig : DtioxLinuxModbusRtuMaster.Config := ⟨"/dev/ttyUSB0", 0, 0, 0, 0, 0, false, 64⟩

/-- The one context of an attached master. -/
def attachedContexts : Contexts := (Contexts.new ⟨0, fun _ => false⟩).1.connect 0 succeeds

/-- The two masters, configured and attached. -/
def attachedPair : Receivers ℕ ByteFifo :=
  (.started {
      self := ⟨tcpConfig.withDefaults .bigEndian 502, some 0, true, true, false, false, false,
        false, ⟨64, []⟩⟩
      contexts := attachedContexts, lock := ⟨none⟩, rxPosts := 0 },
    .started {
      self := ⟨rtuConfig.withDefaults .bigEndian, some 0, true, true, false, false, false, false,
        ⟨64, []⟩⟩
      contexts := attachedContexts, lock := ⟨none⟩, rxPosts := 0 })

/-- A request that transfers `rc` registers, or fails. -/
def transfers (rc : ℤ) : LibResult := ⟨rc, if rc = -1 then 110 else 0, "Connection timed out"⟩

/-- A round whose header read fails, then the end of the task and a read. -/
def headerFailsRun : List (ReceiveEvent ℕ) :=
  [.rxtaskLoop 1, .pollRound 1 (transfers 2) (transfers (-1)) (transfers 0) (0, 0) fun _ => 0,
    .rxtaskStopped, .read 0 8]

/-- Two bytes arrive while a semaphore is set. -/
def twoBytesRun (rxSemaphore : Bool) : List (ReceiveEvent ℕ) :=
  [.setRxSemaphore 0 rxSemaphore, .rxtaskLoop 1,
    .pollRound 1 (transfers 2) (transfers 2) (transfers 1) (DtioxModbus.bigEndian.statusHasData, 2)
      fun _ => 0x0102,
    .read 0 8]

/-- Without a semaphore the two bytes leave both masters alike. -/
theorem receive_sides_agree_exact_twoBytes :
    Run.AllStates (Receivers.step .bigEndian toString) (fun s => Agree s.1 s.2) attachedPair
      (twoBytesRun false) := by
  have htcp : DtioxLinuxModbusTcpMaster.attach
      (World.configured (tcpConfig.withDefaults .bigEndian 502) ⟨64, []⟩) 0
      ⟨fun _ _ => true, fun _ => succeeds, fun _ _ => succeeds, succeeds, none⟩
      = some (attachedPair.1.world, none) := rfl
  have hrtu : DtioxLinuxModbusRtuMaster.attach
      (World.configured (rtuConfig.withDefaults .bigEndian) ⟨64, []⟩) 0
      ⟨fun _ => true, fun _ => succeeds, fun _ _ => succeeds, fun _ _ => succeeds, succeeds, none⟩
      = some (attachedPair.2.world, none) := rfl
  have hblob : tcpConfig.maxBlobBytes = rtuConfig.maxBlobBytes := rfl
  obtain ⟨hcontrol, hdata⟩ := attached_same .bigEndian 502
    (fun capacity => (⟨capacity.toNat, []⟩ : ByteFifo)) hblob rfl htcp hrtu
  exact (receive_sides_agree_exact .bigEndian toString attachedPair hcontrol hdata
    (twoBytesRun false)).2.2 (by decide +kernel)

/-- The two places where the poll rounds differ. -/
theorem receive_sides_differ :
    (¬∀ events, Run.AllStates (Receivers.step .bigEndian toString) (fun s => Agree s.1 s.2)
      attachedPair events) ∧
    ¬Run.AllStates (Receivers.step .bigEndian toString) (fun s => Agree s.1 s.2) attachedPair
      headerFailsRun ∧
    ¬Run.AllStates (Receivers.step .bigEndian toString) (fun s => Agree s.1 s.2) attachedPair
      (twoBytesRun true) := by
  refine ⟨fun h => absurd (h (twoBytesRun true)) (by decide +kernel), by decide +kernel, ?_⟩
  decide +kernel

end ModbusMaster
