import DtmcLinux.Foundation.Observer
import DtmcLinux.Foundation.QueueLedger
import DtmcLinux.Modbus.MailboxRegisters
import DtmcLinux.Modbus.SlaveSystem

set_option autoImplicit false

/-! # What the writes of the slave report

A write stores one message in `tx_bytes`, and a `GIVE_ME_ANY_DATA` moves it to the S2M registers. A
write that finds the slave disabled returns success and does not set `*out_written`, so that its
caller reads back what it left there. -/

namespace DtioxLinuxModbusTcpSlave

open ModbusMailbox (TxOk txBlob s2mBlob)

variable {τ F : Type*}

/-! ## Steps that leave the message alone -/

/-- The message in `tx_bytes` is as it was. -/
structure SameMessage (a b : Slave F) : Prop where
  cfg : b.cfg = a.cfg
  txPending : b.txPending = a.txPending
  txLen : b.txLen = a.txLen
  txBytes : b.txBytes = a.txBytes

/-- The pending bytes are as they were, and as well stored as they were. -/
structure MessageKept (M : ℤ) (a b : Slave F) : Prop where
  cfg : b.cfg = a.cfg
  txOk : TxOk M a → TxOk M b
  txBlob : txBlob b = txBlob a

theorem SameMessage.refl (self : Slave F) : SameMessage self self := ⟨rfl, rfl, rfl, rfl⟩

theorem SameMessage.kept {a b : Slave F} (h : SameMessage a b) (M : ℤ) : MessageKept M a b where
  cfg := h.cfg
  txOk hok := by
    unfold TxOk
    rw [h.txPending, h.txLen, h.txBytes]
    exact hok
  txBlob := by
    unfold txBlob
    rw [h.txPending, h.txLen, h.txBytes]

theorem txBlob_of_not_pending {self : Slave F} (h : self.txPending = false) : txBlob self = [] := by
  unfold txBlob
  rw [h]
  rfl

/-- Nothing is pending before or after. -/
theorem messageKept_of_idle {a b : Slave F} (M : ℤ) (hcfg : b.cfg = a.cfg)
    (ha : a.txPending = false) (hb : b.txPending = true → a.txPending = true) :
    MessageKept M a b := by
  have hb' : b.txPending = false := Bool.eq_false_iff.2 fun h => by
    rw [hb h] at ha
    cases ha
  refine ⟨hcfg, fun _ hpending => ?_, ?_⟩
  · rw [hb'] at hpending
    cases hpending
  · rw [txBlob_of_not_pending ha, txBlob_of_not_pending hb']

section

variable [Dtringfifo F]

theorem sameMessage_consumePutBlob (dm : DtioxModbus) (self : Slave F) :
    SameMessage self (consumePutBlob dm self) := by
  unfold consumePutBlob
  split
  · exact .refl self
  · split
    · exact .refl self
    · dsimp only
      split <;> exact ⟨rfl, rfl, rfl, rfl⟩

theorem sameMessage_interpretCommand (dm : DtioxModbus) {self : Slave F}
    (hpolls : polls dm self = false) : SameMessage self (interpretCommand dm self) := by
  have hsame := sameMessage_consumePutBlob dm self
  unfold polls at hpolls
  unfold interpretCommand
  dsimp only
  split
  · exact hsame
  · next tab htab =>
      rw [htab] at hpolls
      rw [if_neg (by simpa using hpolls)]
      exact hsame

theorem sameMessage_taskStep {dm : DtioxModbus} {s s' : TaskState F} {e : TaskEvent F}
    (he : e.ofTask = true) (hpolls : e.polls dm s.self = false)
    (h : s.step dm e = some s') : SameMessage s.self s'.self := by
  cases e with
  | serverSnapshot acquire release =>
      obtain ⟨-, ⟨⟩⟩ := Option.ite_none_right_eq_some.1 h
      unfold TaskState.serverSnapshot
      split
      · exact .refl s.self
      · split <;> exact ⟨rfl, rfl, rfl, rfl⟩
  | accept sessionSocket =>
      obtain ⟨-, ⟨⟩⟩ := Option.ite_none_right_eq_some.1 h
      unfold TaskState.accept
      split <;> exact ⟨rfl, rfl, rfl, rfl⟩
  | sessionSnapshot acquire release =>
      obtain ⟨-, ⟨⟩⟩ := Option.ite_none_right_eq_some.1 h
      unfold TaskState.sessionSnapshot
      split
      · exact .refl s.self
      · dsimp only
        split <;> exact .refl s.self
  | receive rc query reply =>
      obtain ⟨-, ⟨⟩⟩ := Option.ite_none_right_eq_some.1 h
      unfold TaskState.receive
      split
      · dsimp only
        split <;> exact ⟨rfl, rfl, rfl, rfl⟩
      · split <;> exact .refl s.self
  | interpret acquire release =>
      obtain ⟨-, ⟨⟩⟩ := Option.ite_none_right_eq_some.1 h
      unfold TaskState.interpret
      cases acquire with
      | some e => exact .refl s.self
      | none =>
          have hsame := sameMessage_interpretCommand dm hpolls
          cases release <;> exact hsame
  | others self => cases he

/-- A poll moves the pending bytes to the S2M registers. -/
theorem interpretCommand_places {dm : DtioxModbus} (hdm : dm.Lawful) {M : ℤ}
    (hM : M ≤ dm.maxBlobBytes) {self : Slave F} (hcfg : self.cfg.maxBlobBytes = M)
    (htx : TxOk M self) (hpolls : polls dm self = true) :
    ∃ tab, (interpretCommand dm self).mbMap = some tab ∧ s2mBlob dm tab = txBlob self ∧
      (interpretCommand dm self).cfg = self.cfg ∧ TxOk M (interpretCommand dm self) ∧
      txBlob (interpretCommand dm self) = [] := by
  have hsame := sameMessage_consumePutBlob dm self
  have hkept := hsame.kept M
  unfold polls at hpolls
  unfold interpretCommand
  dsimp only
  cases hmap : (consumePutBlob dm self).mbMap with
  | none =>
      rw [hmap] at hpolls
      cases hpolls
  | some tab =>
      rw [hmap] at hpolls
      dsimp only
      rw [if_pos (of_decide_eq_true hpolls)]
      obtain ⟨tab', pending, len, heq, htx', hblob, hs2m, hplaced⟩ :=
        ModbusMailbox.preparePollResponse_spec hdm hM hmap (by rw [hkept.cfg, hcfg])
          (hkept.txOk htx)
      obtain ⟨-, hclear⟩ := ModbusMailbox.clearCommand hdm tab'
      have hcfg' : (preparePollResponse dm (consumePutBlob dm self)).cfg = self.cfg := by
        rw [heq]
        exact hkept.cfg
      have hmap' : (preparePollResponse dm (consumePutBlob dm self)).mbMap = some tab' := by rw [heq]
      rw [hmap']
      refine ⟨_, rfl, ?_, hcfg', htx', hblob⟩
      rw [ModbusMailbox.s2mBlob_congr hdm hM hs2m hclear, hplaced, hkept.txBlob]

end

/-! ## The operations -/

section

variable [DecidableEq τ]

omit [DecidableEq τ] in
theorem attachBody_cfg (dm : DtioxModbus) (calls : AttachCalls) (w : Facade τ F) :
    (attachBody dm calls w).1.self.cfg = w.self.cfg := by
  have heffect := attachBody_effect dm calls w
  generalize attachBody dm calls w = r at heffect ⊢
  cases heffect with
  | _ => rfl

omit [DecidableEq τ] in
theorem attachCleanup_cfg (w : Facade τ F) (dterr : Option Dterr) :
    (attachCleanup w dterr).self.cfg = w.self.cfg := by
  unfold attachCleanup
  split <;> rfl

theorem attach_cfg {dm : DtioxModbus} {w w' : Facade τ F} {t : τ} {calls : AttachCalls}
    {dterr : Option Dterr} (h : attach dm w t calls = some (w', dterr)) :
    w'.self.cfg = w.self.cfg := by
  cases attach_effect h with
  | listening => rfl
  | running | held => exact attachCleanup_cfg w _
  | ran _ _ _ _ hself => rw [attachCleanup_cfg, hself, attachBody_cfg]

theorem read_sameMessage [Dtringfifo F] {w w' : Facade τ F} {t : τ} {bufLen : ℤ}
    {dterr : Option Dterr} {out : Option (List UInt8)}
    (h : read w t bufLen = some (w', dterr, out)) : SameMessage w.self w'.self := by
  unfold read at h
  split at h
  · obtain ⟨rfl, -⟩ := Prod.mk.inj (Option.some.inj h)
    exact .refl w.self
  · rcases run_facade h with ⟨rfl, -⟩ | ⟨-, hself, -⟩
    · exact .refl w'.self
    · rw [hself]
      unfold readLocked
      dsimp only
      split
      · exact ⟨rfl, rfl, rfl, rfl⟩
      · split <;> exact ⟨rfl, rfl, rfl, rfl⟩

/-- What a write can do: it fails and stores nothing, it is ignored because the slave is disabled, or
    it stores its message. -/
theorem write_cases {w w' : Facade τ F} {t : τ} {buf : List UInt8} {len : ℤ} {dterr : Option Dterr}
    {out : Option ℤ} (h : write w t buf len = some (w', dterr, out)) :
    (dterr ≠ none ∧ w'.self = w.self ∧
      ¬(writeCheck w.self.cfg len = none ∧ w.lock.owner = none ∧ w.self.enabled = false)) ∨
    (dterr = none ∧ out = none ∧ w'.self = w.self ∧
      writeCheck w.self.cfg len = none ∧ w.lock.owner = none ∧ w.self.enabled = false) ∨
    (dterr = none ∧ out = some len ∧ writeCheck w.self.cfg len = none ∧ w.self.enabled = true ∧
      w.self.txPending = false ∧ w'.self = { w.self with
        txBytes := buf.take len.toNat ++ w.self.txBytes.drop len.toNat
        txLen := len
        txPending := true }) := by
  unfold write at h
  split at h
  · next e hcheck =>
      obtain ⟨rfl, rfl, -⟩ : w = w' ∧ some e = dterr ∧ _ := by simpa using h
      refine Or.inl ⟨by simp, rfl, fun hand => ?_⟩
      rw [hand.1] at hcheck
      cases hcheck
  · next hcheck =>
      unfold LockFrame.run at h
      split at h
      · cases h
      · next lock e hacquire =>
          obtain ⟨rfl, rfl, -⟩ : w = w' ∧ some e = dterr ∧ _ := by simpa using h
          refine Or.inl ⟨by simp, rfl, fun hand => ?_⟩
          have hheld : w.lock.owner = some t := (Dtlock.acquire_eq_error hacquire).1
          rw [hand.2.1] at hheld
          cases hheld
      · next lock hacquire =>
          obtain ⟨hfree, rfl⟩ := Dtlock.acquire_eq_ok hacquire
          change w.lock.owner = none at hfree
          -- the thread has the lock, and gives it back
          obtain ⟨hw', hrest⟩ := Prod.mk.inj (Option.some.inj h)
          obtain ⟨hdterr, hout⟩ := Prod.mk.inj hrest
          have hself : w'.self = (writeLocked w.self buf len).1 := by rw [← hw']; rfl
          change (writeLocked w.self buf len).2.1.or
            ((⟨some t⟩ : Dtlock τ).release t).2 = dterr at hdterr
          change (writeLocked w.self buf len).2.2 = out at hout
          rw [Dtlock.release_held, Option.or_none] at hdterr
          unfold writeLocked at hself hdterr hout
          by_cases hdisabled : (!w.self.enabled) = true
          · rw [if_pos hdisabled] at hself hdterr hout
            refine Or.inr (Or.inl ⟨hdterr.symm, hout.symm, hself, hcheck, hfree, ?_⟩)
            simpa using hdisabled
          · rw [if_neg hdisabled] at hself hdterr hout
            have henabled : w.self.enabled = true := by simpa using hdisabled
            by_cases hpending : w.self.txPending = true
            · rw [if_pos hpending] at hself hdterr
              refine Or.inl ⟨by rw [← hdterr]; simp, hself, fun hand => ?_⟩
              rw [henabled] at hand
              cases hand.2.2
            · rw [if_neg hpending] at hself hdterr hout
              exact Or.inr (Or.inr ⟨hdterr.symm, hout.symm, hcheck, henabled,
                Bool.eq_false_iff.2 hpending, hself⟩)

/-- A write that waits finds the lock taken. -/
theorem write_eq_none {w : Facade τ F} {t : τ} {buf : List UInt8} {len : ℤ}
    (h : write w t buf len = none) : w.lock.owner ≠ none := by
  intro hfree
  unfold write at h
  split at h
  · cases h
  · obtain ⟨w', dterr, out, hrun, -⟩ := LockFrame.run_of_free (P := Facade.place) t none
      (fun w : Facade τ F =>
        ({ w with self := (writeLocked w.self buf len).1 }, .releaseLockAndCleanup,
          (writeLocked w.self buf len).2.1, (writeLocked w.self buf len).2.2))
      (fun _ => rfl) hfree
    rw [hrun] at h
    cases h

end

/-! ## Runs -/

/-- A step; `outWritten` is what the caller of a write has left in `*out_written`. -/
structure WriterEvent (τ F : Type*) where
  event : SlaveEvent τ F
  outWritten : ℤ

/-- The bytes the writes have reported and the polls have placed, and what the writes that returned
    success and stored nothing have reported. -/
structure WriteAccount where
  bytes : QueueLedger UInt8
  ignored : List ℤ

/-- An account nobody has written to. -/
def WriteAccount.opened : WriteAccount := ⟨.opened [], []⟩

variable [DecidableEq τ] [Dtringfifo F]

/-- A write that returns success enters the first `*out_written` bytes of its buffer; a poll takes out
    what it leaves in the S2M registers. -/
def accountUpdate (dm : DtioxModbus) (s : SlaveState τ F) (c : WriterEvent τ F)
    (s' : SlaveState τ F) (a : WriteAccount) : WriteAccount :=
  match c.event with
  | .write t buf len =>
    match write s.facade t buf len with
    | some (_, none, out) =>
      let outWritten := out.getD c.outWritten
      { bytes := a.bytes.record (buf.take outWritten.toNat) []
        ignored := if out.isSome then a.ignored else a.ignored ++ [outWritten] }
    | _ => a
  | .task e =>
    if e.polls dm s.facade.self then
      { a with bytes := a.bytes.record [] ((s'.facade.self.mbMap.map (s2mBlob dm)).getD []) }
    else
      a
  | _ => a

/-- The slave with the account of its writes. -/
def accountStep (dm : DtioxModbus) :
    SlaveState τ F × WriteAccount → WriterEvent τ F → Option (SlaveState τ F × WriteAccount) :=
  Observer.observed (fun s c => s.step dm c.event) (accountUpdate dm)

/-- The reported bytes are those placed for the master and those still pending, and a write that is
    ignored reports 0. -/
def WritesAccounted (s : SlaveState τ F × WriteAccount) : Prop :=
  s.2.bytes.Balances (txBlob s.1.facade.self) ∧ ∀ reported ∈ s.2.ignored, reported = 0

/-- The buffer of a write has the bytes of its length, and a message that is pending is not discarded
    by an enable or by an attach that listens anew. -/
def KeepsPending (s : SlaveState τ F) (c : WriterEvent τ F) : Prop :=
  match c.event with
  | .write _ buf len => len.toNat ≤ buf.length
  | .enable _ _ => s.facade.self.txPending = false
  | .attach _ _ => 0 < s.facade.self.listeningSocket ∨ s.facade.self.txPending = false
  | _ => True

/-- The condition on a step: a write that is going to be ignored finds 0 in `*out_written`. -/
def IgnoredFindsZero (s : SlaveState τ F) (c : WriterEvent τ F) : Prop :=
  match c.event with
  | .write _ _ len => writeCheck s.facade.self.cfg len = none → s.facade.lock.owner = none →
    s.facade.self.enabled = false → c.outWritten = 0
  | _ => True

instance (s : SlaveState τ F) : ∀ c, Decidable (KeepsPending s c)
  | ⟨.attach _ _, _⟩ => inferInstanceAs (Decidable (_ ∨ _))
  | ⟨.detach, _⟩ => inferInstanceAs (Decidable True)
  | ⟨.enable _ _, _⟩ => inferInstanceAs (Decidable (_ = _))
  | ⟨.read _ _, _⟩ => inferInstanceAs (Decidable True)
  | ⟨.write _ _ _, _⟩ => inferInstanceAs (Decidable (_ ≤ _))
  | ⟨.setRxSemaphore _ _, _⟩ => inferInstanceAs (Decidable True)
  | ⟨.task _, _⟩ => inferInstanceAs (Decidable True)

instance (s : SlaveState τ F) : ∀ c, Decidable (IgnoredFindsZero s c)
  | ⟨.attach _ _, _⟩ => inferInstanceAs (Decidable True)
  | ⟨.detach, _⟩ => inferInstanceAs (Decidable True)
  | ⟨.enable _ _, _⟩ => inferInstanceAs (Decidable True)
  | ⟨.read _ _, _⟩ => inferInstanceAs (Decidable True)
  | ⟨.write _ _ _, _⟩ => inferInstanceAs (Decidable (_ = _ → _ = _ → _ = _ → _ = _))
  | ⟨.setRxSemaphore _ _, _⟩ => inferInstanceAs (Decidable True)
  | ⟨.task _, _⟩ => inferInstanceAs (Decidable True)

/-- **Invariant.** The message fits in the limit of the slave, which is that of the protocol at
    most. -/
structure MessageFits (dm : DtioxModbus) (s : SlaveState τ F) : Prop where
  limit : s.facade.self.cfg.maxBlobBytes ≤ dm.maxBlobBytes
  txOk : TxOk s.facade.self.cfg.maxBlobBytes s.facade.self

variable {dm : DtioxModbus} {s s' : SlaveState τ F} {a : WriteAccount}

omit [DecidableEq τ] [Dtringfifo F] in
theorem MessageFits.kept (hs : MessageFits dm s)
    (h : MessageKept s.facade.self.cfg.maxBlobBytes s.facade.self s'.facade.self) :
    MessageFits dm s' := by
  constructor
  · rw [h.cfg]
    exact hs.limit
  · rw [h.cfg]
    exact h.txOk hs.txOk

omit [DecidableEq τ] [Dtringfifo F] in
theorem WritesAccounted.kept {M : ℤ} (ha : WritesAccounted (s, a))
    (h : MessageKept M s.facade.self s'.facade.self) : WritesAccounted (s', a) :=
  ⟨ha.1.iff_eq.2 h.txBlob, ha.2⟩

/-- A write. -/
theorem MessageFits.write (hs : MessageFits dm s) (ha : WritesAccounted (s, a)) {t : τ}
    {buf : List UInt8} {len old : ℤ} (hlen : len.toNat ≤ buf.length)
    (h : s.step dm (.write t buf len) = some s') :
    MessageFits dm s' ∧ (WritesAccounted (s', accountUpdate dm s ⟨.write t buf len, old⟩ s' a) ↔
      IgnoredFindsZero s ⟨.write t buf len, old⟩) := by
  obtain ⟨⟨w', dterr, out⟩, hwrite, rfl⟩ := Option.map_eq_some_iff.1 h
  unfold accountUpdate IgnoredFindsZero
  dsimp only
  rw [hwrite]
  rcases write_cases hwrite with ⟨hfailed, hself, hnot⟩ | ⟨rfl, rfl, hself, hcheck, hfree, hdisabled⟩ |
    ⟨rfl, rfl, hcheck, henabled, hidle, hself⟩
  · -- an error
    have hkept : MessageKept s.facade.self.cfg.maxBlobBytes s.facade.self w'.self := by
      rw [hself]
      exact (SameMessage.refl _).kept _
    refine ⟨hs.kept hkept, iff_of_true ?_ fun h1 h2 h3 => absurd ⟨h1, h2, h3⟩ hnot⟩
    obtain ⟨e, rfl⟩ := Option.ne_none_iff_exists'.1 hfailed
    exact ha.kept hkept
  · -- ignored
    have hkept : MessageKept s.facade.self.cfg.maxBlobBytes s.facade.self w'.self := by
      rw [hself]
      exact (SameMessage.refl _).kept _
    refine ⟨hs.kept hkept, ?_⟩
    dsimp only [Option.getD_none, Option.isSome_none]
    constructor
    · intro haccounted _ _ _
      exact haccounted.2 old (List.mem_append_right _ (List.mem_singleton_self old))
    · intro hzero
      obtain rfl := hzero hcheck hfree hdisabled
      refine ⟨(ha.1.record_iff _ _).2 ?_, ?_⟩
      · dsimp only
        rw [hkept.txBlob]
        exact List.append_nil _
      · intro reported hmem
        rcases List.mem_append.1 hmem with hmem | hmem
        · exact ha.2 reported hmem
        · exact List.mem_singleton.1 hmem
  · -- accepted
    have hbounds : 0 ≤ len ∧ len ≤ s.facade.self.cfg.maxBlobBytes := by
      unfold writeCheck at hcheck
      dsimp only at hcheck
      split at hcheck
      · cases hcheck
      · split at hcheck
        · cases hcheck
        · omega
    have htake : (buf.take len.toNat ++ s.facade.self.txBytes.drop len.toNat).take len.toNat
        = buf.take len.toNat := by
      rw [List.take_append_of_le_length (by rw [List.length_take]; omega), List.take_take,
        Nat.min_self]
    refine ⟨⟨?_, fun _ => ?_⟩, iff_of_true ⟨(ha.1.record_iff _ _).2 ?_, ha.2⟩ fun _ _ h3 => ?_⟩
    · dsimp only
      rw [hself]
      exact hs.limit
    · dsimp only
      rw [hself]
      refine ⟨hbounds.1, hbounds.2, ?_⟩
      dsimp only
      rw [List.length_append, List.length_take]
      omega
    · rw [txBlob_of_not_pending hidle]
      unfold txBlob
      dsimp only
      rw [hself]
      dsimp only
      rw [if_pos rfl, htake]
      rfl
    · rw [henabled] at h3
      cases h3

/-- A poll. -/
theorem MessageFits.poll (hdm : dm.Lawful) (hs : MessageFits dm s) (ha : WritesAccounted (s, a))
    {e : TaskEvent F} (old : ℤ) (hpolls : e.polls dm s.facade.self = true)
    (h : s.taskStep dm e = some s') :
    MessageFits dm s' ∧ WritesAccounted (s', accountUpdate dm s ⟨.task e, old⟩ s' a) := by
  obtain ⟨pc, t', -, -, hstep, hfacade, -⟩ := taskStep_cases h
  cases e with
  | interpret acquire release =>
      cases acquire with
      | some e => cases hpolls
      | none =>
          obtain ⟨-, ⟨⟩⟩ := Option.ite_none_right_eq_some.1 hstep
          have hself : s'.facade.self = interpretCommand dm s.facade.self := by
            rw [hfacade]
            cases release <;> rfl
          obtain ⟨tab, hmap, hplaced, hcfg, htx, hblob⟩ :=
            interpretCommand_places hdm hs.limit rfl hs.txOk hpolls
          rw [← hself] at hmap hcfg htx hblob
          unfold accountUpdate
          dsimp only
          rw [if_pos hpolls, hmap]
          refine ⟨⟨?_, ?_⟩, (ha.1.record_iff _ _).2 ?_, ha.2⟩
          · rw [hcfg]
            exact hs.limit
          · rw [hcfg]
            exact htx
          · dsimp only
            rw [hblob, Option.map_some, Option.getD_some, hplaced, List.append_nil]
  | serverSnapshot | accept | sessionSnapshot | receive | others => cases hpolls

/-- **Step lemma.** -/
theorem MessageFits.step (hdm : dm.Lawful) (hs : MessageFits dm s) (ha : WritesAccounted (s, a))
    {c : WriterEvent τ F} (hc : KeepsPending s c) (h : s.step dm c.event = some s') :
    MessageFits dm s' ∧ (WritesAccounted (s', accountUpdate dm s c s' a) ↔
      IgnoredFindsZero s c) := by
  have hquiet : MessageKept s.facade.self.cfg.maxBlobBytes s.facade.self s'.facade.self →
      MessageFits dm s' ∧ (WritesAccounted (s', a) ↔ True) :=
    fun hkept => ⟨hs.kept hkept, iff_of_true (ha.kept hkept) trivial⟩
  obtain ⟨e, old⟩ := c
  cases e with
  | attach t calls =>
      obtain ⟨-, hcall⟩ := Option.ite_none_left_eq_some.1 h
      obtain ⟨⟨w', dterr⟩, hattach, rfl⟩ := Option.map_eq_some_iff.1 hcall
      refine hquiet ?_
      rcases attach_spec hattach with ⟨-, rfl, -⟩ | ⟨hlistening, hpending, -⟩
      · exact (SameMessage.refl _).kept _
      · have hidle := Or.resolve_left hc (Int.not_lt.2 hlistening)
        exact messageKept_of_idle _ (attach_cfg hattach) hidle fun h => (hpending h).1
  | detach =>
      obtain rfl := Option.some.inj h
      have hsame : SameMessage s.facade.self (detach s.facade).self := ⟨rfl, rfl, rfl, rfl⟩
      exact hquiet (hsame.kept _)
  | enable t enabled =>
      obtain ⟨⟨w', dterr, out⟩, henable, rfl⟩ := Option.map_eq_some_iff.1 h
      refine hquiet (messageKept_of_idle _ ?_ hc fun h => ((enable_spec henable).1 h).1)
      rcases run_facade henable with ⟨rfl, -⟩ | ⟨-, hself, -⟩
      · rfl
      · exact (congrArg Slave.cfg hself).trans rfl
  | read t bufLen =>
      obtain ⟨⟨w', dterr, out⟩, hread, rfl⟩ := Option.map_eq_some_iff.1 h
      exact hquiet ((read_sameMessage hread).kept _)
  | write t buf len => exact hs.write ha hc h
  | setRxSemaphore t rxSemaphore =>
      obtain ⟨⟨w', dterr, out⟩, hset, rfl⟩ := Option.map_eq_some_iff.1 h
      refine hquiet (SameMessage.kept ?_ _)
      rcases run_facade hset with ⟨rfl, -⟩ | ⟨-, hself, -⟩
      · exact .refl _
      · dsimp only
        rw [hself]
        exact ⟨rfl, rfl, rfl, rfl⟩
  | task e =>
      cases hpolls : e.polls dm s.facade.self with
      | true =>
          obtain ⟨hfits, haccounted⟩ := hs.poll hdm ha old hpolls h
          exact ⟨hfits, iff_of_true haccounted trivial⟩
      | false =>
          obtain ⟨pc, t', -, hown, hstep, hfacade, -⟩ := taskStep_cases h
          have hsame := sameMessage_taskStep hown (s := s.task pc) hpolls hstep
          unfold accountUpdate
          dsimp only
          rw [if_neg (by rw [hpolls]; exact Bool.false_ne_true)]
          refine hquiet (SameMessage.kept ?_ _)
          rw [hfacade]
          exact hsame

/-- **Write accounting, exactly.** In a run of a configured slave in which nothing discards a pending
    message, the bytes placed in the S2M registers, followed by those pending in `tx_bytes`, are the
    first `*out_written` bytes of the writes that returned success, and those ignored report 0, in
    every state, if and only if every write that is going to be ignored finds 0 in `*out_written`. -/
theorem write_accounting_exact {dm : DtioxModbus} (hdm : dm.Lawful) (cfg : Config)
    (port responseTimeoutMs rxRingCapacity : ℤ) (rxFifo : F) (events : List (WriterEvent τ F))
    (hkeeps : Run.AllSteps (accountStep dm) (fun s c => KeepsPending s.1 c)
      (.initial (configured dm cfg port responseTimeoutMs rxRingCapacity rxFifo), .opened) events) :
    Run.AllStates (accountStep dm) WritesAccounted
        (.initial (configured dm cfg port responseTimeoutMs rxRingCapacity rxFifo), .opened) events
      ↔ Run.AllSteps (accountStep dm) (fun s c => IgnoredFindsZero s.1 c)
        (.initial (configured dm cfg port responseTimeoutMs rxRingCapacity rxFifo), .opened)
        events := by
  refine Run.allStates_iff_allSteps_of_allSteps (I := fun s => MessageFits dm s.1) ?_ ?_ ?_ events
    _ ?_ ⟨rfl, fun _ hmem => nomatch hmem⟩ hkeeps
  · rintro ⟨s, a⟩ c ⟨s', a'⟩ hs ha hc h -
    obtain ⟨hstep, rfl⟩ := (Observer.observed_eq_some _ _).1 h
    exact (hs.step hdm ha hc hstep).1
  · rintro ⟨s, a⟩ c ⟨s', a'⟩ hs ha hc h
    obtain ⟨hstep, rfl⟩ := (Observer.observed_eq_some _ _).1 h
    exact (hs.step hdm ha hc hstep).2
  · rintro ⟨s, a⟩ ⟨e, old⟩ - - h
    have hstep : s.step dm e = none := (Observer.observed_eq_none _ _).1 h
    cases e with
    | write t buf len =>
        -- a write that waits for the lock is not ignored
        intro _ hfree _
        exact absurd hfree (write_eq_none (Option.map_eq_none_iff.1 hstep))
    | _ => trivial
  · refine ⟨?_, fun hpending => nomatch hpending⟩
    change (cfg.withDefaults dm).maxBlobBytes ≤ dm.maxBlobBytes
    unfold Config.withDefaults
    dsimp only
    split <;> omega

/-- A client connects, two bytes are written, the client polls, and a write after detach is ignored. -/
def polledWriteRun : List (WriterEvent ℕ ByteFifo) :=
  [⟨.attach 0 succeedingAttach, 0⟩, ⟨.task (.serverSnapshot none none), 0⟩, ⟨.task (.accept 7), 0⟩,
    ⟨.task (.sessionSnapshot none none), 0⟩, ⟨.write 0 [1, 2] 2, 9⟩,
    ⟨.task (.receive 12 (.writeRegisters 0 [2]) ⟨12, 0, ""⟩), 0⟩, ⟨.task (.interpret none none), 0⟩,
    ⟨.detach, 0⟩, ⟨.write 0 [3] 1, 0⟩]

theorem polled_write_accounted :
    Run.AllStates (accountStep .bigEndian) WritesAccounted (configuredSlave, .opened)
      polledWriteRun :=
  (write_accounting_exact DtioxModbus.bigEndian_lawful ⟨0⟩ 502 0 1024 (⟨1024, []⟩ : ByteFifo)
    polledWriteRun (by decide +kernel)).2 (by decide +kernel)

/-- A write of two bytes to a slave that was never attached, by a caller that has 2 in
    `*out_written`. -/
def ignoredWriteRun : List (WriterEvent ℕ ByteFifo) := [⟨.write 0 [1, 2] 2, 2⟩]

/-- The bytes of an ignored write are reported as written. -/
theorem ignored_write_reported :
    Run.AllSteps (accountStep .bigEndian) (fun s c => KeepsPending s.1 c)
        (configuredSlave, .opened) ignoredWriteRun ∧
      ¬Run.AllStates (accountStep .bigEndian) WritesAccounted (configuredSlave, .opened)
        ignoredWriteRun := by
  constructor
  · exact ⟨Nat.le_refl 2, fun _ _ => trivial⟩
  · intro h
    have hlast := (h.2 _ rfl).2 2 (List.mem_singleton_self 2)
    cases hlast

end DtioxLinuxModbusTcpSlave
