import DtmcLinux.Foundation.Observer
import DtmcLinux.Modbus.LockBalance
import DtmcLinux.Modbus.MailboxRegisters
import DtmcLinux.Modbus.SlaveSystem

set_option autoImplicit false

/-! # The slave and its clients

A client can write any registers, in any order and over several sessions. Whatever it writes, a
command is interpreted once: after a query that leaves `PUT_BLOB` in the M2S block the next thing the
task does is to push the bytes of that block, and it clears the command before it receives another
query. -/

namespace DtioxLinuxModbusTcpSlave

open ModbusMailbox (SameS2m clearCommand)

/-! ## Commands in the register map -/

/-- The register maps have the same M2S block. -/
structure SameM2s (dm : DtioxModbus) (tab tab' : Registers) : Prop where
  cmd : tab' dm.regM2sCmd = tab dm.regM2sCmd
  len : tab' dm.regM2sLen = tab dm.regM2sLen
  data : ∀ i < dm.maxBlobRegs.toNat, tab' (dm.regM2sData + i) = tab (dm.regM2sData + i)

/-- There is no command that is still to be interpreted. -/
structure NoCommand (dm : DtioxModbus) (tab : Registers) : Prop where
  putBlob : tab dm.regM2sCmd ≠ dm.cmdPutBlob
  giveMe : tab dm.regM2sCmd ≠ dm.cmdGiveMeAnyData

/-- The number of bytes a `PUT_BLOB` pushes. -/
def putBlobLen (dm : DtioxModbus) (cfg : Config) (tab : Registers) : ℤ :=
  min (tab dm.regM2sLen).toNat (min cfg.maxBlobBytes dm.maxBlobBytes)

/-- The bytes it pushes. -/
def putBlobBytes (dm : DtioxModbus) (cfg : Config) (tab : Registers) : List UInt8 :=
  dm.unpackRegsToBytes (tab.ptr dm.regM2sData) (putBlobLen dm cfg tab).toNat

variable {τ F : Type*}

/-- The receive side is as it was. -/
structure SameRx (a b : Slave F) : Prop where
  rxFifo : b.rxFifo = a.rxFifo
  rxOverflowPending : b.rxOverflowPending = a.rxOverflowPending

/-- What the interpretation of the registers `tab` does to the receive side: one push of the bytes of
    a `PUT_BLOB` that has some, and else nothing. -/
structure Consumed [Dtringfifo F] (dm : DtioxModbus) (tab : Registers) (a b : Slave F) : Prop where
  pushed : tab dm.regM2sCmd = dm.cmdPutBlob → 0 < putBlobLen dm a.cfg tab →
    b.rxFifo = (Dtringfifo.push a.rxFifo (putBlobBytes dm a.cfg tab)).1 ∧
    (b.rxOverflowPending = true ↔ a.rxOverflowPending = true ∨
      (Dtringfifo.push a.rxFifo (putBlobBytes dm a.cfg tab)).2 < putBlobLen dm a.cfg tab)
  empty : tab dm.regM2sCmd = dm.cmdPutBlob → putBlobLen dm a.cfg tab ≤ 0 → SameRx a b
  other : tab dm.regM2sCmd ≠ dm.cmdPutBlob → SameRx a b

theorem SameM2s.refl (dm : DtioxModbus) (tab : Registers) : SameM2s dm tab tab :=
  ⟨rfl, rfl, fun _ _ => rfl⟩

theorem SameM2s.trans {dm : DtioxModbus} {a b c : Registers} (hab : SameM2s dm a b)
    (hbc : SameM2s dm b c) : SameM2s dm a c :=
  ⟨hbc.cmd.trans hab.cmd, hbc.len.trans hab.len, fun i hi => (hbc.data i hi).trans (hab.data i hi)⟩

theorem SameM2s.noCommand {dm : DtioxModbus} {a b : Registers} (h : SameM2s dm a b)
    (ha : NoCommand dm a) : NoCommand dm b :=
  ⟨h.cmd ▸ ha.putBlob, h.cmd ▸ ha.giveMe⟩

/-- The S2M header is not in the M2S block. -/
theorem sameM2s_setHeader {dm : DtioxModbus} (hdm : dm.Lawful) (tab : Registers)
    (status len : UInt16) :
    SameM2s dm tab (setReg (setReg tab dm.regS2mStatus status) dm.regS2mLen len) := by
  have h1 := hdm.regM2sLen_eq
  have h2 := hdm.regM2sData_eq
  have h3 := hdm.regS2mLen_eq
  have h4 := hdm.regS2mData_eq
  have hkeep : ∀ r, dm.regM2sCmd ≤ r → r < dm.regM2sData + dm.maxBlobRegs.toNat →
      setReg (setReg tab dm.regS2mStatus status) dm.regS2mLen len r = tab r := by
    intro r hlo hhi
    rcases hdm.disjoint with hd | hd
    · rw [setReg_of_ne _ _ (by omega), setReg_of_ne _ _ (by omega)]
    · rw [setReg_of_ne _ _ (by omega), setReg_of_ne _ _ (by omega)]
  refine ⟨hkeep _ (Nat.le_refl _) (by omega), ?_, fun i hi => hkeep _ (by omega) (by omega)⟩
  by_cases hregs : dm.maxBlobRegs.toNat = 0
  · rcases hdm.disjoint with hd | hd
    · rw [setReg_of_ne _ _ (by omega), setReg_of_ne _ _ (by omega)]
    · rw [setReg_of_ne _ _ (by omega), setReg_of_ne _ _ (by omega)]
  · exact hkeep _ (by omega) (by omega)

/-- A cleared command is no command. -/
theorem noCommand_cleared {dm : DtioxModbus} (hdm : dm.Lawful) (tab : Registers) :
    NoCommand dm (setReg (setReg tab dm.regM2sCmd dm.cmdNone) dm.regM2sLen 0) := by
  obtain ⟨hnone, -⟩ := clearCommand hdm tab
  constructor
  · rw [hnone]
    exact hdm.putBlob_ne_none.symm
  · rw [hnone]
    exact hdm.giveMe_ne_none.symm

/-- A new mapping has no command. -/
theorem noCommand_attached {dm : DtioxModbus} (hdm : dm.Lawful) :
    NoCommand dm (attachedRegisters dm) := by
  have hcmd : attachedRegisters dm dm.regM2sCmd = 0 :=
    (sameM2s_setHeader hdm (fun _ => 0) dm.statusNoData 0).cmd
  exact ⟨hcmd ▸ hdm.putBlob_ne_zero.symm, hcmd ▸ hdm.giveMe_ne_zero.symm⟩

theorem clampLen_eq_putBlobLen (dm : DtioxModbus) (cfg : Config) (tab : Registers) :
    clampLen dm cfg (tab dm.regM2sLen).toNat = putBlobLen dm cfg tab := by
  unfold clampLen putBlobLen
  dsimp only
  split <;> split <;> omega

section

variable [Dtringfifo F]

/-- `consume_put_blob` pushes the bytes of a `PUT_BLOB`, and leaves no `PUT_BLOB`. -/
theorem consumePutBlob_consumed {dm : DtioxModbus} (hdm : dm.Lawful) {self : Slave F}
    {tab : Registers} (hmap : self.mbMap = some tab) :
    ∃ tab', (consumePutBlob dm self).mbMap = some tab' ∧ tab' dm.regM2sCmd ≠ dm.cmdPutBlob ∧
      Consumed dm tab self (consumePutBlob dm self) := by
  unfold consumePutBlob
  rw [hmap]
  dsimp only
  by_cases hcmd : tab dm.regM2sCmd = dm.cmdPutBlob
  · rw [if_neg (not_not.2 hcmd), clampLen_eq_putBlobLen]
    refine ⟨_, rfl, (noCommand_cleared hdm tab).putBlob, ⟨fun _ hpos => ?_, fun _ hle => ?_,
      fun hne => absurd hcmd hne⟩⟩
    · rw [if_pos hpos]
      refine ⟨rfl, ?_⟩
      unfold putBlobBytes
      dsimp only
      by_cases hlt : ((Dtringfifo.push self.rxFifo (dm.unpackRegsToBytes (tab.ptr dm.regM2sData)
          (putBlobLen dm self.cfg tab).toNat)).2 : ℤ) < putBlobLen dm self.cfg tab
      · exact iff_of_true (if_pos hlt) (Or.inr hlt)
      · rw [if_neg hlt]
        exact ⟨Or.inl, fun h => h.resolve_right hlt⟩
    · rw [if_neg (Int.not_lt.2 hle)]
      exact ⟨rfl, rfl⟩
  · rw [if_pos hcmd]
    exact ⟨tab, hmap, hcmd, fun h => absurd h hcmd, fun h => absurd h hcmd, fun _ => ⟨rfl, rfl⟩⟩

omit [Dtringfifo F] in
/-- The answer to a poll leaves the receive side alone, and a mapping. -/
theorem sameRx_preparePollResponse (dm : DtioxModbus) {self : Slave F} {tab : Registers}
    (hmap : self.mbMap = some tab) :
    (∃ tab', (preparePollResponse dm self).mbMap = some tab') ∧
      SameRx self (preparePollResponse dm self) := by
  unfold preparePollResponse
  rw [hmap]
  dsimp only
  split
  · exact ⟨⟨_, rfl⟩, rfl, rfl⟩
  · exact ⟨⟨_, rfl⟩, rfl, rfl⟩

theorem Consumed.of_sameRx {dm : DtioxModbus} {tab : Registers} {a b c : Slave F}
    (h : Consumed dm tab a b) (hsame : SameRx b c) : Consumed dm tab a c where
  pushed hcmd hpos := by
    rw [hsame.rxFifo, hsame.rxOverflowPending]
    exact h.pushed hcmd hpos
  empty hcmd hle :=
    ⟨hsame.rxFifo.trans (h.empty hcmd hle).rxFifo,
      hsame.rxOverflowPending.trans (h.empty hcmd hle).rxOverflowPending⟩
  other hcmd :=
    ⟨hsame.rxFifo.trans (h.other hcmd).rxFifo,
      hsame.rxOverflowPending.trans (h.other hcmd).rxOverflowPending⟩

/-- **The interpretation.** The command is executed once, and none is left. -/
theorem interpretCommand_consumed {dm : DtioxModbus} (hdm : dm.Lawful) {self : Slave F}
    {tab : Registers} (hmap : self.mbMap = some tab) :
    ∃ tab', (interpretCommand dm self).mbMap = some tab' ∧ NoCommand dm tab' ∧
      Consumed dm tab self (interpretCommand dm self) := by
  obtain ⟨tab₁, hmap₁, hput, hconsumed⟩ := consumePutBlob_consumed hdm hmap
  unfold interpretCommand
  dsimp only
  rw [hmap₁]
  dsimp only
  by_cases hgive : tab₁ dm.regM2sCmd = dm.cmdGiveMeAnyData
  · obtain ⟨⟨tab₂, hmap₂⟩, hsame⟩ := sameRx_preparePollResponse dm hmap₁
    rw [if_pos hgive, hmap₂]
    exact ⟨_, rfl, noCommand_cleared hdm tab₂,
      (hconsumed.of_sameRx hsame).of_sameRx ⟨rfl, rfl⟩⟩
  · rw [if_neg hgive]
    exact ⟨tab₁, hmap₁, ⟨hput, hgive⟩, hconsumed⟩

end

/-! ## Runs of the slave -/

/-- The registers right after the last query that was answered. -/
def askedUpdate (_ : SlaveState τ F) (e : SlaveEvent τ F) (s' : SlaveState τ F)
    (asked : Option Registers) : Option Registers :=
  match e with
  | .task (.receive rc _ _) => if rc > 0 then s'.facade.self.mbMap else asked
  | _ => asked

/-- The event is the interpretation of a command. -/
def SlaveEvent.interprets : SlaveEvent τ F → Bool
  | .task (.interpret _ _) => true
  | _ => false

/-- The event is a call of a public operation. -/
def SlaveEvent.isCall : SlaveEvent τ F → Bool
  | .task _ => false
  | _ => true

variable [DecidableEq τ]

/-- The steps of a run: the task has a thread of its own, which gets the results of the lock from the
    lock; every `modbus_reply` succeeds; and attach is not called while the task runs on a socket that
    does not listen. What the client sends is not restricted. -/
def Answered (task : τ) (s : SlaveState τ F) : SlaveEvent τ F → Prop
  | .attach t _ =>
    t ≠ task ∧ (0 < s.facade.self.listeningSocket ∨ running s.pc = false)
  | .enable t _ => t ≠ task
  | .read t _ => t ≠ task
  | .write t _ _ => t ≠ task
  | .setRxSemaphore t _ => t ≠ task
  | .task (.receive rc _ reply) => rc > 0 → reply.rc ≠ -1
  | .task (.interpret acquire release) =>
    ∃ lock, s.facade.lock.acquire task = some (lock, acquire) ∧ release = (lock.release task).2
  | _ => True

instance (task : τ) (s : SlaveState τ F) : ∀ e, Decidable (Answered task s e)
  | .attach t _ => inferInstanceAs (Decidable
      (t ≠ task ∧ (0 < s.facade.self.listeningSocket ∨ running s.pc = false)))
  | .detach => inferInstanceAs (Decidable True)
  | .enable t _ => inferInstanceAs (Decidable (t ≠ task))
  | .read t _ => inferInstanceAs (Decidable (t ≠ task))
  | .write t _ _ => inferInstanceAs (Decidable (t ≠ task))
  | .setRxSemaphore t _ => inferInstanceAs (Decidable (t ≠ task))
  | .task (.receive rc _ reply) => inferInstanceAs (Decidable (rc > 0 → reply.rc ≠ -1))
  | .task (.interpret acquire release) =>
    decidable_of_iff ((s.facade.lock.acquire task).any
        fun r => decide (r.2 = acquire ∧ release = (r.1.release task).2)) <| by
      simp only [Option.any_eq_true, decide_eq_true_eq]
      constructor
      · rintro ⟨⟨lock, _⟩, hacquire, rfl, hrelease⟩
        exact ⟨lock, hacquire, hrelease⟩
      · rintro ⟨lock, hacquire, hrelease⟩
        exact ⟨_, hacquire, rfl, hrelease⟩
  | .task (.serverSnapshot _ _) => inferInstanceAs (Decidable True)
  | .task (.accept _) => inferInstanceAs (Decidable True)
  | .task (.sessionSnapshot _ _) => inferInstanceAs (Decidable True)
  | .task (.others _) => inferInstanceAs (Decidable True)

/-- A step withstands whatever the client has written: `asked` are the registers after the last
    query. -/
structure Withstands [Dtringfifo F] (dm : DtioxModbus) (asked : Option Registers)
    (s : SlaveState τ F) (e : SlaveEvent τ F) (s' : SlaveState τ F) : Prop where
  /-- there is no command but between a query and its interpretation -/
  noCommand : s'.pc ≠ some .replied → ∀ tab, s'.facade.self.mbMap = some tab → NoCommand dm tab
  /-- every query is going to be interpreted -/
  replied : ∀ rc query reply, e = .task (.receive rc query reply) → rc > 0 →
    s'.pc = some .replied ∧ s'.facade.self.mbMap = s.facade.self.mbMap.map query.apply
  waits : e.interprets = false → s.pc = some .replied → s'.pc = some .replied
  /-- its interpretation executes the command of the query -/
  consumed : e.interprets = true → ∃ tab₀ tab, asked = some tab₀ ∧
    s.facade.self.mbMap = some tab ∧ SameM2s dm tab₀ tab ∧
    Consumed dm tab s.facade.self s'.facade.self
  /-- nothing else the task does changes the receive side -/
  untouched : ∀ e', e = .task e' → e.interprets = false → SameRx s.facade.self s'.facade.self

/-- **Invariant.** -/
structure Serving (dm : DtioxModbus) (task : τ) (s : SlaveState τ F × Option Registers) :
    Prop where
  lock : s.1.facade.lock.owner ≠ some task
  mapped : running s.1.pc = true → ∃ tab, s.1.facade.self.mbMap = some tab
  noCommand : s.1.pc ≠ some .replied → ∀ tab, s.1.facade.self.mbMap = some tab → NoCommand dm tab
  asked : s.1.pc = some .replied → ∃ tab₀ tab, s.2 = some tab₀ ∧
    s.1.facade.self.mbMap = some tab ∧ SameM2s dm tab₀ tab

/-- Both mappings are missing, or have the same M2S block. -/
inductive SameMap (dm : DtioxModbus) : Option Registers → Option Registers → Prop
  | none : SameMap dm none none
  | some {tab tab' : Registers} (h : SameM2s dm tab tab') : SameMap dm (some tab) (some tab')

omit [DecidableEq τ] in
theorem SameMap.refl (dm : DtioxModbus) : ∀ map : Option Registers, SameMap dm map map
  | .none => .none
  | .some tab => .some (.refl dm tab)

/-! ### The public operations -/

/-- An operation under the lock that keeps the M2S block. -/
theorem run_sameMap {α : Type*} {dm : DtioxModbus} {w w' : Facade τ F} {t task : τ}
    {unset out : α} {dterr : Option Dterr}
    {body : Facade τ F → Facade τ F × ModbusMaster.Label × Option Dterr × α} (ht : t ≠ task)
    (hbody : LockFrame.LeavesLock Facade.place body)
    (hmap : ∀ w, SameMap dm w.self.mbMap (body w).1.self.mbMap) (hw : w.lock.owner ≠ some task)
    (h : LockFrame.run Facade.place w t unset body = some (w', dterr, out)) :
    w'.lock.owner ≠ some task ∧ SameMap dm w.self.mbMap w'.self.mbMap := by
  refine ⟨LockFrame.run_owner ht hbody hw h, ?_⟩
  rcases run_facade h with ⟨rfl, -⟩ | ⟨-, hself, -⟩
  · exact .refl dm _
  · rw [hself]
    exact hmap { w with lock := ⟨some t⟩ }

theorem setRxSemaphore_sameMap (dm : DtioxModbus) {w w' : Facade τ F} {t task : τ}
    {rxSemaphore : Bool} {dterr : Option Dterr} {out : Unit} (ht : t ≠ task)
    (hw : w.lock.owner ≠ some task)
    (h : setRxSemaphore w t rxSemaphore = some (w', dterr, out)) :
    w'.lock.owner ≠ some task ∧ SameMap dm w.self.mbMap w'.self.mbMap :=
  run_sameMap ht (fun _ => rfl) (fun _ => .refl dm _) hw h

omit [DecidableEq τ] in
theorem writeLocked_mbMap (self : Slave F) (buf : List UInt8) (len : ℤ) :
    (writeLocked self buf len).1.mbMap = self.mbMap := by
  unfold writeLocked
  split
  · rfl
  · split <;> rfl

theorem write_sameMap (dm : DtioxModbus) {w w' : Facade τ F} {t task : τ} {buf : List UInt8}
    {len : ℤ} {dterr : Option Dterr} {out : Option ℤ} (ht : t ≠ task)
    (hw : w.lock.owner ≠ some task) (h : write w t buf len = some (w', dterr, out)) :
    w'.lock.owner ≠ some task ∧ SameMap dm w.self.mbMap w'.self.mbMap := by
  unfold write at h
  split at h
  · obtain ⟨rfl, -⟩ := Prod.mk.inj (Option.some.inj h)
    exact ⟨hw, .refl dm _⟩
  · refine run_sameMap ht (fun _ => rfl) (fun w => ?_) hw h
    dsimp only
    rw [writeLocked_mbMap]
    exact .refl dm _

section

variable [Dtringfifo F]

omit [DecidableEq τ] in
theorem readLocked_mbMap (self : Slave F) (bufLen : ℤ) :
    (readLocked self bufLen).1.mbMap = self.mbMap := by
  unfold readLocked
  split
  · rfl
  · split <;> rfl

theorem read_sameMap (dm : DtioxModbus) {w w' : Facade τ F} {t task : τ} {bufLen : ℤ}
    {dterr : Option Dterr} {out : Option (List UInt8)} (ht : t ≠ task)
    (hw : w.lock.owner ≠ some task) (h : read w t bufLen = some (w', dterr, out)) :
    w'.lock.owner ≠ some task ∧ SameMap dm w.self.mbMap w'.self.mbMap := by
  unfold read at h
  split at h
  · obtain ⟨rfl, -⟩ := Prod.mk.inj (Option.some.inj h)
    exact ⟨hw, .refl dm _⟩
  · refine run_sameMap ht (fun _ => rfl) (fun w => ?_) hw h
    dsimp only
    rw [readLocked_mbMap]
    exact .refl dm _

theorem enable_sameMap {dm : DtioxModbus} (hdm : dm.Lawful) {w w' : Facade τ F} {t task : τ}
    {enabled : Bool} {dterr : Option Dterr} {out : Unit} (ht : t ≠ task)
    (hw : w.lock.owner ≠ some task) (h : enable dm w t enabled = some (w', dterr, out)) :
    w'.lock.owner ≠ some task ∧ SameMap dm w.self.mbMap w'.self.mbMap := by
  refine run_sameMap ht (fun _ => rfl) (fun w => ?_) hw h
  unfold enableBody
  dsimp only
  cases w.self.mbMap with
  | none => exact .none
  | some tab => exact .some (sameM2s_setHeader hdm tab _ _)

end

omit [DecidableEq τ] in
/-- Without an error there is a new mapping. -/
theorem attachBody_mapping (dm : DtioxModbus) (calls : AttachCalls) (w : Facade τ F) :
    (attachBody dm calls w).2.2.1 = none →
      (attachBody dm calls w).1.self.mbMap = some (attachedRegisters dm) := by
  have heffect := attachBody_effect dm calls w
  generalize attachBody dm calls w = r at heffect ⊢
  cases heffect with
  | attached => exact fun _ => rfl
  | _ => exact nofun

/-- Attach on a socket that does not listen leaves a new mapping when it succeeds, and none else. -/
theorem attach_mapping {dm : DtioxModbus} {w w' : Facade τ F} {t task : τ} {calls : AttachCalls}
    {dterr : Option Dterr} (ht : t ≠ task) (hw : w.lock.owner ≠ some task)
    (hlistening : ¬0 < w.self.listeningSocket) (h : attach dm w t calls = some (w', dterr)) :
    w'.lock.owner ≠ some task ∧
      (dterr = none ∧ w'.self.mbMap = some (attachedRegisters dm) ∨
        dterr ≠ none ∧ w'.self.mbMap = none) := by
  have hfailed : ∀ (v : Facade τ F) (e : Dterr), (attachCleanup v (some e)).self.mbMap = none :=
    fun _ _ => rfl
  cases attach_effect h with
  | listening hlistens => exact absurd hlistens hlistening
  | running | held =>
      rw [attachCleanup_lock]
      exact ⟨hw, Or.inr ⟨Option.some_ne_none _, hfailed w _⟩⟩
  | @ran v _ _ _ hrun _ hself hdterr =>
      rw [attachCleanup_lock]
      refine ⟨LockFrame.run_owner ht (attachBody_leavesLock dm calls) hw hrun, ?_⟩
      cases dterr with
      | some e => exact Or.inr ⟨Option.some_ne_none e, hfailed v e⟩
      | none =>
          refine Or.inl ⟨rfl, ?_⟩
          show v.self.mbMap = _
          rw [hself]
          exact attachBody_mapping dm calls _ (hdterr rfl)

/-! ### The steps -/

variable [Dtringfifo F] {dm : DtioxModbus} {task : τ} {s s' : SlaveState τ F}
  {asked : Option Registers}

omit [DecidableEq τ] in
/-- A step that is not the task's, and keeps the M2S block. -/
theorem Serving.quiet (hs : Serving dm task (s, asked)) {e : SlaveEvent τ F}
    (he : e.isCall = true) (hpc : s'.pc = s.pc) (hlock : s'.facade.lock.owner ≠ some task)
    (hmap : SameMap dm s.facade.self.mbMap s'.facade.self.mbMap) :
    Withstands dm asked s e s' ∧ Serving dm task (s', askedUpdate s e s' asked) := by
  have hinterprets : e.interprets ≠ true := by
    cases e with
    | task e' => cases he
    | _ => exact nofun
  have hasked : askedUpdate s e s' asked = asked := by
    cases e with
    | task e' => cases he
    | _ => rfl
  have hno : s'.pc ≠ some .replied →
      ∀ tab, s'.facade.self.mbMap = some tab → NoCommand dm tab := by
    intro hne tab htab
    rw [hpc] at hne
    cases hmap' : s.facade.self.mbMap with
    | none =>
        rw [hmap', htab] at hmap
        cases hmap
    | some tab₀ =>
        rw [hmap', htab] at hmap
        cases hmap with
        | some hsame => exact hsame.noCommand (hs.noCommand hne tab₀ hmap')
  have hcall : ∀ e', e ≠ .task e' := by
    rintro e' rfl
    cases he
  refine ⟨⟨hno, fun _ _ _ h => absurd h (hcall _), fun _ h => hpc.trans h,
    fun h => absurd h hinterprets, fun _ h => absurd h (hcall _)⟩, hlock, fun hrun => ?_, hno,
    fun hreplied => ?_⟩
  · have hrun' : running s.pc = true := hpc ▸ hrun
    obtain ⟨tab, htab⟩ := hs.mapped hrun'
    dsimp only at htab ⊢
    rw [htab] at hmap
    cases hmap' : s'.facade.self.mbMap with
    | none =>
        rw [hmap'] at hmap
        cases hmap
    | some tab' => exact ⟨tab', rfl⟩
  · obtain ⟨tab₀, tab, h₀, htab, hsame⟩ := hs.asked (hpc.symm.trans hreplied)
    dsimp only at h₀ htab ⊢
    rw [htab] at hmap
    cases hmap' : s'.facade.self.mbMap with
    | none =>
        rw [hmap'] at hmap
        cases hmap
    | some tab' =>
        rw [hmap'] at hmap
        cases hmap with
        | some hsame' => exact ⟨tab₀, tab', hasked.trans h₀, rfl, hsame.trans hsame'⟩

omit [DecidableEq τ] in
/-- A step of the task that neither answers a query nor interprets one. -/
theorem taskStep_quiet {t t' : TaskState F} {e : TaskEvent F} (he : e.ofTask = true)
    (hquery : ∀ rc query reply, e = .receive rc query reply → ¬rc > 0)
    (hinterpret : ∀ acquire release, e ≠ .interpret acquire release) (h : t.step dm e = some t') :
    t'.self.mbMap = t.self.mbMap ∧ SameRx t.self t'.self ∧ t.pc.runs = true ∧
      t.pc ≠ .replied ∧ t'.pc ≠ .replied := by
  cases e with
  | serverSnapshot acquire release =>
      obtain ⟨hpc, ⟨⟩⟩ := Option.ite_none_right_eq_some.1 h
      unfold TaskState.serverSnapshot
      rw [hpc]
      split
      · exact ⟨rfl, ⟨rfl, rfl⟩, rfl, nofun, nofun⟩
      · split <;> exact ⟨rfl, ⟨rfl, rfl⟩, rfl, nofun, nofun⟩
  | accept sessionSocket =>
      obtain ⟨hpc, ⟨⟩⟩ := Option.ite_none_right_eq_some.1 h
      unfold TaskState.accept
      rw [hpc]
      split <;> exact ⟨rfl, ⟨rfl, rfl⟩, rfl, nofun, nofun⟩
  | sessionSnapshot acquire release =>
      obtain ⟨hpc, ⟨⟩⟩ := Option.ite_none_right_eq_some.1 h
      unfold TaskState.sessionSnapshot
      rw [hpc]
      split
      · exact ⟨rfl, ⟨rfl, rfl⟩, rfl, nofun, nofun⟩
      · dsimp only
        split <;> exact ⟨rfl, ⟨rfl, rfl⟩, rfl, nofun, nofun⟩
  | receive rc query reply =>
      obtain ⟨hpc, ⟨⟩⟩ := Option.ite_none_right_eq_some.1 h
      unfold TaskState.receive
      rw [if_neg (hquery rc query reply rfl), hpc]
      split <;> exact ⟨rfl, ⟨rfl, rfl⟩, rfl, nofun, nofun⟩
  | interpret acquire release => exact absurd rfl (hinterpret acquire release)
  | others self => cases he

omit [DecidableEq τ] in
/-- The task answers a query. -/
theorem Serving.query (hs : Serving dm task (s, asked)) {rc : ℤ} {query : Query}
    {reply : LibResult} (hrc : rc > 0) (hreply : reply.rc ≠ -1)
    (h : s.taskStep dm (.receive rc query reply) = some s') :
    Withstands dm asked s (.task (.receive rc query reply)) s' ∧
      Serving dm task (s', askedUpdate s (.task (.receive rc query reply)) s' asked) := by
  obtain ⟨pc, t', hpc, -, hstep, hfacade, hpc'⟩ := taskStep_cases h
  obtain ⟨hreceiving, ⟨⟩⟩ := Option.ite_none_right_eq_some.1 hstep
  obtain rfl : pc = .receiving := hreceiving
  rw [TaskState.receive, if_pos hrc, if_neg hreply] at hfacade hpc'
  have hmap : s'.facade.self.mbMap = s.facade.self.mbMap.map query.apply := by rw [hfacade]; rfl
  have hlock : s'.facade.lock = s.facade.lock := by rw [hfacade]
  have hrx : SameRx s.facade.self s'.facade.self := by rw [hfacade]; exact ⟨rfl, rfl⟩
  obtain ⟨tab, htab⟩ := hs.mapped (show running s.pc = true by rw [hpc]; rfl)
  dsimp only at htab
  rw [htab] at hmap
  refine ⟨⟨fun hne => absurd hpc' hne, ?_, fun _ hne => ?_, nofun, fun _ _ _ => hrx⟩, ?_,
    fun _ => ⟨_, hmap⟩, fun hne => absurd hpc' hne, fun _ => ?_⟩
  · rintro _ _ _ ⟨⟩ -
    rw [htab]
    exact ⟨hpc', hmap⟩
  · rw [hpc] at hne
    cases hne
  · rw [hlock]
    exact hs.lock
  · exact ⟨_, _, (if_pos hrc).trans hmap, hmap, .refl dm _⟩

/-- The task interprets a command. -/
theorem Serving.interpret (hdm : dm.Lawful) (hs : Serving dm task (s, asked))
    {acquire release : Option Dterr} {lock : Dtlock τ}
    (hacquire : s.facade.lock.acquire task = some (lock, acquire))
    (hrelease : release = (lock.release task).2)
    (h : s.taskStep dm (.interpret acquire release) = some s') :
    Withstands dm asked s (.task (.interpret acquire release)) s' ∧
      Serving dm task (s', askedUpdate s (.task (.interpret acquire release)) s' asked) := by
  -- the task does not hold the lock, so it gets it, and gives it back
  obtain rfl : acquire = none := by
    cases acquire with
    | none => rfl
    | some e => exact absurd (Dtlock.acquire_eq_error hacquire).1 hs.lock
  obtain ⟨-, rfl⟩ := Dtlock.acquire_eq_ok hacquire
  rw [Dtlock.release_held] at hrelease
  subst hrelease
  obtain ⟨pc, t', hpc, -, hstep, hfacade, hpc'⟩ := taskStep_cases h
  obtain ⟨hreplied, ⟨⟩⟩ := Option.ite_none_right_eq_some.1 hstep
  obtain rfl : pc = .replied := hreplied
  have hself : s'.facade.self = interpretCommand dm s.facade.self := by rw [hfacade]; rfl
  have hlock : s'.facade.lock = s.facade.lock := by rw [hfacade]
  change s'.pc = some .sessionTop at hpc'
  obtain ⟨tab₀, tab, h₀, htab, hsame⟩ := hs.asked hpc
  obtain ⟨tab', htab', hno, hconsumed⟩ := interpretCommand_consumed hdm htab
  rw [← hself] at htab' hconsumed
  have hnoCommand : ∀ tab'', s'.facade.self.mbMap = some tab'' → NoCommand dm tab'' := by
    intro tab'' htab''
    rw [htab', Option.some.injEq] at htab''
    exact htab'' ▸ hno
  have hne : s'.pc ≠ some .replied := by
    rw [hpc']
    exact nofun
  refine ⟨⟨fun _ => hnoCommand, nofun, nofun, fun _ => ⟨tab₀, tab, h₀, htab, hsame, hconsumed⟩,
    fun _ _ hfalse => nomatch hfalse⟩, ?_, fun _ => ⟨tab', htab'⟩, fun _ => hnoCommand,
    fun hreplied => absurd hreplied hne⟩
  rw [hlock]
  exact hs.lock

omit [DecidableEq τ] in
/-- The task does something else. -/
theorem Serving.taskQuiet (hs : Serving dm task (s, asked)) {e : TaskEvent F}
    (hquery : ∀ rc query reply, e = .receive rc query reply → ¬rc > 0)
    (hinterpret : ∀ acquire release, e ≠ .interpret acquire release)
    (h : s.taskStep dm e = some s') :
    Withstands dm asked s (.task e) s' ∧
      Serving dm task (s', askedUpdate s (.task e) s' asked) := by
  obtain ⟨pc, t', hpc, hown, hstep, hfacade, hpc'⟩ := taskStep_cases h
  obtain ⟨hmap, hrx, hruns, hne, hne'⟩ := taskStep_quiet hown hquery hinterpret hstep
  have hself : s'.facade.self = t'.self := by rw [hfacade]
  have hlock : s'.facade.lock = s.facade.lock := by rw [hfacade]
  change pc.runs = true at hruns
  change pc ≠ .replied at hne
  have hno : ∀ tab, s'.facade.self.mbMap = some tab → NoCommand dm tab := by
    intro tab htab
    refine hs.noCommand ?_ tab (hmap.symm.trans (hself ▸ htab))
    dsimp only
    rw [hpc]
    exact fun heq => hne (Option.some.inj heq)
  have hnot : s'.pc ≠ some .replied := by
    rw [hpc']
    exact fun heq => hne' (Option.some.inj heq)
  obtain ⟨tab, htab⟩ := hs.mapped (show running s.pc = true by rw [hpc]; exact hruns)
  refine ⟨⟨fun _ => hno, ?_, fun _ heq => ?_, fun hfalse => ?_, fun _ _ _ => hself ▸ hrx⟩, ?_,
    fun _ => ⟨tab, hself ▸ hmap.trans htab⟩, fun _ => hno, fun heq => absurd heq hnot⟩
  · rintro rc query reply ⟨⟩ hrc
    exact absurd hrc (hquery rc query reply rfl)
  · rw [hpc, Option.some.injEq] at heq
    exact absurd heq hne
  · cases e with
    | interpret acquire release => exact absurd rfl (hinterpret acquire release)
    | _ => cases hfalse
  · rw [hlock]
    exact hs.lock

/-- A call of attach. -/
theorem Serving.attach (hdm : dm.Lawful) (hs : Serving dm task (s, asked)) {t : τ}
    {calls : AttachCalls} (ht : t ≠ task)
    (hcond : 0 < s.facade.self.listeningSocket ∨ running s.pc = false)
    (h : s.attach dm t calls = some s') :
    Withstands dm asked s (.attach t calls) s' ∧
      Serving dm task (s', askedUpdate s (.attach t calls) s' asked) := by
  obtain ⟨-, hcall⟩ := Option.ite_none_left_eq_some.1 h
  obtain ⟨⟨w', dterr⟩, hattach, rfl⟩ := Option.map_eq_some_iff.1 hcall
  by_cases hlistening : 0 < s.facade.self.listeningSocket
  · -- nothing happens
    obtain ⟨rfl, rfl⟩ : s.facade = w' ∧ none = dterr := by
      unfold DtioxLinuxModbusTcpSlave.attach at hattach
      rw [if_pos hlistening] at hattach
      exact Prod.mk.inj (Option.some.inj hattach)
    refine hs.quiet rfl ?_ hs.lock (.refl dm _)
    exact if_neg fun hle => absurd hlistening (Int.not_lt.2 hle.1)
  · have hstopped : running s.pc = false := hcond.resolve_left hlistening
    obtain ⟨hlock, hmap⟩ := attach_mapping ht hs.lock hlistening hattach
    have hwas : s.pc ≠ some .replied := by
      intro hreplied
      rw [hreplied] at hstopped
      cases hstopped
    have hpc : (if s.facade.self.listeningSocket ≤ 0 ∧ dterr = none then some Pc.serverTop
        else s.pc) ≠ some .replied := by
      split
      · exact nofun
      · exact hwas
    have hno : ∀ tab, w'.self.mbMap = some tab → NoCommand dm tab := by
      intro tab htab
      rcases hmap with ⟨-, hnew⟩ | ⟨-, hnone⟩
      · rw [hnew, Option.some.injEq] at htab
        exact htab ▸ noCommand_attached hdm
      · rw [hnone] at htab
        cases htab
    refine ⟨⟨fun _ => hno, ?_, fun _ heq => absurd heq hwas, ?_, ?_⟩, hlock, fun hrun => ?_,
      fun _ => hno, fun heq => absurd heq hpc⟩
    · rintro _ _ _ ⟨⟩
    · intro hinterprets
      cases hinterprets
    · rintro _ ⟨⟩
    rcases hmap with ⟨-, hnew⟩ | ⟨hfailed, -⟩
    · exact ⟨_, hnew⟩
    · dsimp only at hrun
      rw [if_neg fun hand => hfailed hand.2, hstopped] at hrun
      cases hrun

/-- A step of the task. -/
theorem Serving.taskMoves (hdm : dm.Lawful) (hs : Serving dm task (s, asked)) {e : TaskEvent F}
    (he : Answered task s (.task e)) (h : s.taskStep dm e = some s') :
    Withstands dm asked s (.task e) s' ∧
      Serving dm task (s', askedUpdate s (.task e) s' asked) := by
  cases e with
  | receive rc query reply =>
      by_cases hrc : rc > 0
      · exact hs.query hrc (he hrc) h
      · refine hs.taskQuiet ?_ nofun h
        rintro _ _ _ ⟨⟩
        exact hrc
  | interpret acquire release =>
      obtain ⟨lock, hacquire, hrelease⟩ := he
      exact hs.interpret hdm hacquire hrelease h
  | _ => exact hs.taskQuiet nofun nofun h

/-- **Step lemma.** -/
theorem Serving.step (hdm : dm.Lawful) (hs : Serving dm task (s, asked)) {e : SlaveEvent τ F}
    (he : Answered task s e) (h : s.step dm e = some s') :
    Withstands dm asked s e s' ∧ Serving dm task (s', askedUpdate s e s' asked) := by
  cases e with
  | attach t calls => exact hs.attach hdm he.1 he.2 h
  | detach =>
      obtain rfl := Option.some.inj h
      exact hs.quiet rfl rfl hs.lock (.refl dm _)
  | enable t enabled =>
      obtain ⟨⟨w', dterr, out⟩, henable, rfl⟩ := Option.map_eq_some_iff.1 h
      obtain ⟨hlock, hmap⟩ := enable_sameMap hdm he hs.lock henable
      exact hs.quiet rfl rfl hlock hmap
  | read t bufLen =>
      obtain ⟨⟨w', dterr, out⟩, hread, rfl⟩ := Option.map_eq_some_iff.1 h
      obtain ⟨hlock, hmap⟩ := read_sameMap dm he hs.lock hread
      exact hs.quiet rfl rfl hlock hmap
  | write t buf len =>
      obtain ⟨⟨w', dterr, out⟩, hwrite, rfl⟩ := Option.map_eq_some_iff.1 h
      obtain ⟨hlock, hmap⟩ := write_sameMap dm he hs.lock hwrite
      exact hs.quiet rfl rfl hlock hmap
  | setRxSemaphore t rxSemaphore =>
      obtain ⟨⟨w', dterr, out⟩, hset, rfl⟩ := Option.map_eq_some_iff.1 h
      obtain ⟨hlock, hmap⟩ := setRxSemaphore_sameMap dm he hs.lock hset
      exact hs.quiet rfl rfl hlock hmap
  | task e => exact hs.taskMoves hdm he h

/-- The slave, with the registers of the last query. -/
def queriedStep (dm : DtioxModbus) :
    SlaveState τ F × Option Registers → SlaveEvent τ F → Option (SlaveState τ F × Option Registers) :=
  Observer.observed (SlaveState.step dm) askedUpdate

/-- A client writes a command of 2 bytes, and then its header again without the command. -/
def splitWriteRun : List (SlaveEvent ℕ ByteFifo) :=
  [.attach 0 succeedingAttach, .task (.serverSnapshot none none), .task (.accept 7),
    .task (.sessionSnapshot none none),
    .task (.receive 12 (.writeRegisters 0 [1, 2, 0x4142]) ⟨12, 0, ""⟩),
    .task (.interpret none none), .task (.sessionSnapshot none none),
    .task (.receive 12 (.writeRegisters 1 [4]) ⟨12, 0, ""⟩), .task (.interpret none none)]

end DtioxLinuxModbusTcpSlave
