import DtmcLinux.Foundation.Observer
import DtmcLinux.Foundation.QueueLedger
import DtmcLinux.Modbus.ReceiveSideCorrect
import DtmcLinux.Modbus.Truncation

set_option autoImplicit false

/-! # What a read of a master loses

`read` pops first and looks at its receive task last. When the task is not running the error is
returned over the bytes already popped, and no later read returns them. -/

namespace ModbusMaster

variable {τ Cfg F C R : Type*} [Dtringfifo F]

/-! ## One read -/

/-- The read gets as far as `dtringfifo_pop`. -/
structure Pops (w : World τ Cfg F) (bufLen : ℤ) : Prop where
  mb : w.self.mb ≠ none
  bufLen : 0 ≤ bufLen
  lock : w.lock.owner = none
  deadSlavePending : w.self.deadSlavePending = false
  rxOverflowPending : w.self.rxOverflowPending = false
  enabled : w.self.enabled = true

/-- There are bytes for it to pop. -/
def TakesBytes (w : World τ Cfg F) (bufLen : ℤ) : Prop :=
  Pops w bufLen ∧ (Dtringfifo.pop w.self.rxFifo bufLen.toNat).2 ≠ []

/-- `dttasker_get_info` tells that the receive task is running. -/
def TaskRuns (info : Except Dterr TaskerInfo) : Prop := ∃ i, info = .ok i ∧ i.running = true

/-- A read with an error, as `r`, leaves the bytes of the FIFO as they were. -/
def KeepsOnError (w : World τ Cfg F)
    (r : Option (World τ Cfg F × Option Dterr × Option (List UInt8))) : Prop :=
  ∀ w' e out, r = some (w', some e, out) →
    Dtringfifo.contents w'.self.rxFifo = Dtringfifo.contents w.self.rxFifo

theorem taskRuns_iff (info : Except Dterr TaskerInfo) :
    TaskRuns info ↔ verifyRxtaskRunning info none = none := by
  unfold TaskRuns verifyRxtaskRunning
  cases info with
  | error e => simp
  | ok i => cases hrun : i.running <;> simp [hrun]

/-- The statements of a read under the lock: it pops, or leaves the FIFO and returns no bytes. -/
theorem readFifo_cases (self : Master Cfg F) (bufLen : ℤ) :
    (self.deadSlavePending = false ∧ self.rxOverflowPending = false ∧ self.enabled = true ∧
      readFifo self bufLen = ({ self with rxFifo := (Dtringfifo.pop self.rxFifo bufLen.toNat).1 },
        none, some (Dtringfifo.pop self.rxFifo bufLen.toNat).2)) ∨
    (¬(self.deadSlavePending = false ∧ self.rxOverflowPending = false ∧ self.enabled = true) ∧
      (readFifo self bufLen).1.rxFifo = self.rxFifo ∧
      ∀ bytes, (readFifo self bufLen).2.2 = some bytes → bytes = []) := by
  unfold readFifo
  split
  · next hdead =>
      refine Or.inr ⟨fun h => ?_, rfl, fun _ hout => nomatch hout⟩
      rw [h.1] at hdead
      cases hdead
  · next hdead =>
      split
      · next hover =>
          refine Or.inr ⟨fun h => ?_, rfl, fun _ hout => nomatch hout⟩
          rw [h.2.1] at hover
          cases hover
      · next hover =>
          split
          · next hen =>
              refine Or.inr ⟨fun h => ?_, rfl, fun _ hout => (Option.some.inj hout).symm⟩
              rw [h.2.2] at hen
              cases hen
          · next hen =>
              exact Or.inl ⟨Bool.eq_false_iff.2 hdead, Bool.eq_false_iff.2 hover, by simpa using hen,
                rfl⟩

variable [DecidableEq τ]

/-- A read of a FIFO it can pop. -/
theorem read_of_pops {w : World τ Cfg F} {bufLen : ℤ} (h : Pops w bufLen) (t : τ)
    (info : Except Dterr TaskerInfo) :
    ∃ w', w'.self.rxFifo = (Dtringfifo.pop w.self.rxFifo bufLen.toNat).1 ∧
      read w t bufLen info = some (w', verifyRxtaskRunning info none,
        some (Dtringfifo.pop w.self.rxFifo bufLen.toNat).2) := by
  have hmb : ¬w.self.mb.isSome = false := by simpa using h.mb
  rcases readFifo_cases w.self bufLen with ⟨-, -, -, hread⟩ | ⟨hnot, -⟩
  · rw [read_of_free t bufLen info h.lock, if_neg hmb, if_neg (Int.not_lt.2 h.bufLen), hread]
    exact ⟨_, rfl, rfl⟩
  · exact absurd ⟨h.deadSlavePending, h.rxOverflowPending, h.enabled⟩ hnot

/-- Any other read leaves the FIFO, and returns no bytes. -/
theorem read_of_not_pops {w w' : World τ Cfg F} {t : τ} {bufLen : ℤ}
    {info : Except Dterr TaskerInfo} {dterr : Option Dterr} {out : Option (List UInt8)}
    (hnot : ¬Pops w bufLen) (h : read w t bufLen info = some (w', dterr, out)) :
    w'.self.rxFifo = w.self.rxFifo ∧ ∀ bytes, out = some bytes → bytes = [] := by
  unfold read at h
  split at h
  · obtain ⟨rfl, -, rfl⟩ : w = w' ∧ _ ∧ none = out := by simpa using h
    exact ⟨rfl, fun _ hout => nomatch hout⟩
  · next hmb =>
      split at h
      · obtain ⟨rfl, -, rfl⟩ : w = w' ∧ _ ∧ none = out := by simpa using h
        exact ⟨rfl, fun _ hout => nomatch hout⟩
      · next hlen =>
          split at h
          · cases h
          · obtain ⟨rfl, -, rfl⟩ : w = w' ∧ _ ∧ none = out := by simpa using h
            exact ⟨rfl, fun _ hout => nomatch hout⟩
          · next hacquire =>
              obtain ⟨hfree, -⟩ := Dtlock.acquire_eq_ok hacquire
              rcases readFifo_cases w.self bufLen with ⟨hdead, hover, hen, -⟩ | ⟨-, hfifo, hout⟩
              · exact absurd ⟨hmb, Int.not_lt.1 hlen, hfree, hdead, hover, hen⟩ hnot
              · obtain ⟨rfl, hrest⟩ := Prod.mk.inj (Option.some.inj h)
                obtain ⟨-, rfl⟩ := Prod.mk.inj hrest
                exact ⟨hfifo, hout⟩

variable [LawfulDtringfifo F]

omit [DecidableEq τ] in
/-- A pop that returns bytes changes the contents. -/
theorem contents_pop_ne {f : F} {n : ℕ} (h : (Dtringfifo.pop f n).2 ≠ []) :
    Dtringfifo.contents (Dtringfifo.pop f n).1 ≠ Dtringfifo.contents f := by
  intro heq
  have hlen := congrArg List.length (LawfulDtringfifo.contents_pop f n)
  rw [List.length_append, heq] at hlen
  exact h (List.length_eq_zero_iff.1 (by omega))

omit [DecidableEq τ] in
theorem contents_pop_nil {f : F} {n : ℕ} (h : (Dtringfifo.pop f n).2 = []) :
    Dtringfifo.contents (Dtringfifo.pop f n).1 = Dtringfifo.contents f := by
  rw [LawfulDtringfifo.contents_pop f n, h, List.nil_append]

/-- **One read.** -/
theorem read_keepsOnError_iff (w : World τ Cfg F) (t : τ) (bufLen : ℤ)
    (info : Except Dterr TaskerInfo) :
    KeepsOnError w (read w t bufLen info) ↔ (TakesBytes w bufLen → TaskRuns info) := by
  constructor
  · rintro hkeeps ⟨hpops, hbytes⟩
    by_contra hstopped
    rw [taskRuns_iff, ← ne_eq, Option.ne_none_iff_exists'] at hstopped
    obtain ⟨e, he⟩ := hstopped
    obtain ⟨w', hfifo, hread⟩ := read_of_pops hpops t info
    rw [he] at hread
    have hkept := hkeeps w' e _ hread
    rw [hfifo] at hkept
    exact contents_pop_ne hbytes hkept
  · intro hcond w' e out hread
    by_cases hpops : Pops w bufLen
    · obtain ⟨v, hfifo, hv⟩ := read_of_pops hpops t info
      obtain ⟨rfl, herror, -⟩ : v = w' ∧ verifyRxtaskRunning info none = some e ∧ _ = out := by
        simpa using hv.symm.trans hread
      rw [hfifo]
      refine contents_pop_nil (by_contra fun hbytes => ?_)
      have hruns := (taskRuns_iff info).1 (hcond ⟨hpops, hbytes⟩)
      rw [hruns] at herror
      cases herror
    · rw [(read_of_not_pops hpops hread).1]

/-! ## Runs -/

omit [Dtringfifo F] [LawfulDtringfifo F] in
/-- An operation under the lock finds the lock taken and changes nothing, or leaves the object as its
    body does. -/
theorem locked_self {w w' : World τ Cfg F} {t : τ} {dterr : Option Dterr}
    {body : World τ Cfg F → World τ Cfg F × Label × Option Dterr}
    (h : locked w t body = some (w', dterr)) :
    (w.lock.owner ≠ none ∧ w'.self = w.self) ∨
      (w.lock.owner = none ∧ w'.self = (body { w with lock := ⟨some t⟩ }).1.self) := by
  unfold locked at h
  split at h
  · cases h
  · next hacquire =>
      obtain ⟨hheld, -⟩ := Dtlock.acquire_eq_error hacquire
      obtain ⟨rfl, -⟩ := Prod.mk.inj (Option.some.inj h)
      exact Or.inl ⟨by simp [hheld], rfl⟩
  · next hacquire =>
      obtain ⟨hfree, rfl⟩ := Dtlock.acquire_eq_ok hacquire
      refine Or.inr ⟨hfree, ?_⟩
      split at h
      · next hbody =>
          obtain ⟨rfl, -⟩ := Prod.mk.inj (Option.some.inj h)
          rw [hbody]
      · next hbody =>
          obtain ⟨rfl, -⟩ := Prod.mk.inj (Option.some.inj h)
          rw [hbody]

omit [Dtringfifo F] [LawfulDtringfifo F] in
/-- An operation whose body keeps the FIFO keeps it. -/
theorem locked_rxFifo {w w' : World τ Cfg F} {t : τ} {dterr : Option Dterr}
    {body : World τ Cfg F → World τ Cfg F × Label × Option Dterr}
    (hbody : ∀ v, (body v).1.self.rxFifo = v.self.rxFifo)
    (h : locked w t body = some (w', dterr)) : w'.self.rxFifo = w.self.rxFifo := by
  rcases locked_self h with ⟨-, hself⟩ | ⟨-, hself⟩
  · rw [hself]
  · rw [hself, hbody]

omit [DecidableEq τ] [Dtringfifo F] [LawfulDtringfifo F] in
theorem ensureConnected_rxFifo (w : World τ Cfg F) (connect : LibResult) :
    (ensureConnected w connect).1.self.rxFifo = w.self.rxFifo := by
  obtain ⟨_, _, hw⟩ := ensureConnected_frame w connect
  rw [hw]

omit [DecidableEq τ] [Dtringfifo F] [LawfulDtringfifo F] in
theorem attachBody_rxFifo (newFailed : String) (created : Bool) (setup : List LibResult)
    (connect : LibResult) (taskerStart : Option Dterr) (w : World τ Cfg F) :
    (attachBody newFailed created setup connect taskerStart w).1.self.rxFifo = w.self.rxFifo := by
  have hconnect := ensureConnected_rxFifo (resetFlags (newContext w)) connect
  unfold attachBody
  split
  · rfl
  · split
    · rfl
    · split
      · next heq => rw [heq] at hconnect; exact hconnect
      · next heq =>
          rw [heq] at hconnect
          split <;> exact hconnect

omit [DecidableEq τ] [Dtringfifo F] [LawfulDtringfifo F] in
theorem writeLocked_rxFifo (w : World τ Cfg F) (connect : LibResult)
    (send : Cfg → Option Dterr × Option ℤ) :
    (writeLocked w connect send).1.self.rxFifo = w.self.rxFifo := by
  have hconnect := ensureConnected_rxFifo w connect
  unfold writeLocked
  split
  · rfl
  · split
    · next heq => rw [heq] at hconnect; exact hconnect
    · next heq => rw [heq] at hconnect; exact hconnect

omit [DecidableEq τ] [Dtringfifo F] [LawfulDtringfifo F] in
theorem disconnectOnError_rxFifo (w : World τ Cfg F) (dterr : Option Dterr) :
    (disconnectOnError w dterr).self.rxFifo = w.self.rxFifo := by
  unfold disconnectOnError
  split
  · unfold ensureDisconnected
    dsimp only
    rw [closeContext_self]
  · rfl

omit [Dtringfifo F] [LawfulDtringfifo F] in
theorem write_rxFifo {w w' : World τ Cfg F} {t : τ} {len : ℤ} {connect : LibResult}
    {send : Cfg → Option Dterr × Option ℤ} {dterr : Option Dterr} {out : Option ℤ}
    (h : write w t len connect send = some (w', dterr, out)) :
    w'.self.rxFifo = w.self.rxFifo := by
  unfold write at h
  split at h
  · obtain ⟨rfl, -⟩ := Prod.mk.inj (Option.some.inj h)
    rfl
  · split at h
    · obtain ⟨rfl, -⟩ := Prod.mk.inj (Option.some.inj h)
      rfl
    · split at h
      · cases h
      · obtain ⟨rfl, -⟩ := Prod.mk.inj (Option.some.inj h)
        rfl
      · next lock _ =>
          have hclosed := disconnectOnError_rxFifo
            (writeLocked { w with lock := lock } connect send).1
            (writeLocked { w with lock := lock } connect send).2.1
          rw [writeLocked_rxFifo] at hclosed
          obtain ⟨rfl, -⟩ := Prod.mk.inj (Option.some.inj h)
          exact hclosed

omit [DecidableEq τ] in
/-- A poll round appends to the FIFO at most. -/
theorem pollBody_appends (dm : DtioxModbus) (deadOnReadError posts : Bool) (maxBlob : ℤ)
    (cmd hdr data : LibResult) (hdrRegs : UInt16 × UInt16) (dataRegs : ℕ → UInt16)
    (w : World τ Cfg F) :
    Dtringfifo.contents w.self.rxFifo <+: Dtringfifo.contents
      (pollBody dm deadOnReadError posts maxBlob cmd hdr data hdrRegs dataRegs w).1.self.rxFifo := by
  unfold pollBody
  dsimp only
  split
  · exact List.prefix_rfl
  · split
    · split <;> exact List.prefix_rfl
    · split
      · exact List.prefix_rfl
      · split
        · split <;> exact List.prefix_rfl
        · rw [pollPush_eq]
          dsimp only
          rw [LawfulDtringfifo.contents_push]
          exact List.prefix_append _ _

/-- The ledger of the FIFO: a poll round puts in what it appends, a read that succeeds takes out what
    it returns, and `enable` empties the FIFO and opens the ledger anew. -/
def ledgerUpdate (b : Backend τ Cfg F C R) (w : World τ Cfg F) (e : Event τ C R)
    (w' : World τ Cfg F) (l : QueueLedger UInt8) : QueueLedger UInt8 :=
  match e with
  | .enable _ _ => if w.lock.owner = none then .opened [] else l
  | .read t bufLen info =>
    match b.read w t bufLen info with
    | some (_, none, some bytes) => l.record [] bytes
    | _ => l
  | .pollRound _ _ _ _ _ _ =>
    l.record (ModbusMailbox.Traffic.appended w.self.rxFifo w'.self.rxFifo) []
  | _ => l

/-- A master with the ledger of its FIFO. -/
def Backend.ledgerStep (b : Backend τ Cfg F C R) :
    World τ Cfg F × QueueLedger UInt8 → Event τ C R → Option (World τ Cfg F × QueueLedger UInt8) :=
  Observer.observed b.step (ledgerUpdate b)

/-- Every byte received is still in the FIFO or was returned by a read that succeeded. -/
def NothingLost (s : World τ Cfg F × QueueLedger UInt8) : Prop :=
  s.2.Balances (Dtringfifo.contents s.1.self.rxFifo)

/-- The condition on a call: a read that takes bytes finds the task running. -/
def ReadsWhileRunning (w : World τ Cfg F) : Event τ C R → Prop
  | .read _ bufLen info => TakesBytes w bufLen → TaskRuns info
  | _ => True

variable {b : Backend τ Cfg F C R}

/-- The read of a run. -/
theorem ledgerUpdate_read (hb : b.IsMaster) {w w' : World τ Cfg F} {t : τ} {bufLen : ℤ}
    {info : Except Dterr TaskerInfo} {l : QueueLedger UInt8} (hl : NothingLost (w, l))
    (h : b.step w (.read t bufLen info) = some w') :
    NothingLost (w', ledgerUpdate b w (.read t bufLen info : Event τ C R) w' l) ↔
      (TakesBytes w bufLen → TaskRuns info) := by
  unfold Backend.step at h
  dsimp only at h
  obtain ⟨⟨v, dterr, out⟩, hread, rfl⟩ := Option.map_eq_some_iff.1 h
  unfold ledgerUpdate NothingLost
  dsimp only
  rw [hread]
  rw [hb.read_eq] at hread
  by_cases hpops : Pops w bufLen
  · obtain ⟨v', hfifo, hv'⟩ := read_of_pops hpops t info
    obtain ⟨rfl, rfl, rfl⟩ : v' = v ∧ _ = dterr ∧ _ = out := by simpa using hv'.symm.trans hread
    rw [hfifo]
    by_cases hruns : TaskRuns info
    · rw [(taskRuns_iff info).1 hruns]
      refine iff_of_true ((hl.record_iff _ _).2 ?_) fun _ => hruns
      rw [List.append_nil]
      exact LawfulDtringfifo.contents_pop _ _
    · obtain ⟨e, he⟩ := Option.ne_none_iff_exists'.1 (mt (taskRuns_iff info).2 hruns)
      rw [he]
      dsimp only
      rw [hl.iff_eq]
      constructor
      · intro heq htakes
        exact absurd heq (contents_pop_ne htakes.2)
      · intro hcond
        exact contents_pop_nil (by_contra fun hbytes => hruns (hcond ⟨hpops, hbytes⟩))
  · obtain ⟨hfifo, hout⟩ := read_of_not_pops hpops hread
    rw [hfifo]
    refine iff_of_true ?_ fun htakes => absurd htakes.1 hpops
    split
    · next heq =>
        obtain ⟨-, -, rfl⟩ : _ ∧ _ ∧ out = some _ := by simpa using heq
        rw [hout _ rfl]
        exact (hl.record_iff _ _).2 (List.append_nil _)
    · exact hl

/-- **Step lemma.** A step loses nothing exactly under the condition. -/
theorem Backend.step_nothingLost (hb : b.IsMaster) {w w' : World τ Cfg F} {e : Event τ C R}
    {l : QueueLedger UInt8} (hl : NothingLost (w, l)) (h : b.step w e = some w') :
    NothingLost (w', ledgerUpdate b w e w' l) ↔ ReadsWhileRunning w e := by
  have hsame : w'.self.rxFifo = w.self.rxFifo → NothingLost (w', l) :=
    fun hfifo => hl.iff_eq.2 (congrArg _ hfifo)
  cases e with
  | attach t calls =>
      obtain ⟨_, _, _, _, _, heq⟩ := hb.attach_eq w t calls
      rw [Backend.step, heq] at h
      obtain ⟨⟨v, dterr⟩, hv, rfl⟩ := Option.map_eq_some_iff.1 h
      exact iff_of_true (hsame (locked_rxFifo (attachBody_rxFifo _ _ _ _ _) hv)) trivial
  | detach t =>
      rw [Backend.step, hb.detach_eq] at h
      obtain ⟨⟨v, dterr⟩, hv, rfl⟩ := Option.map_eq_some_iff.1 h
      refine iff_of_true (hsame (locked_rxFifo (fun v => ?_) hv)) trivial
      unfold detachBody
      dsimp only
      rw [closeContext_self]
  | enable t enabled =>
      rw [Backend.step, hb.enable_eq] at h
      obtain ⟨⟨v, dterr⟩, hv, rfl⟩ := Option.map_eq_some_iff.1 h
      refine iff_of_true ?_ trivial
      unfold ledgerUpdate
      dsimp only
      rcases locked_self hv with ⟨hheld, hself⟩ | ⟨hfree, hself⟩
      · rw [if_neg hheld]
        exact hsame (congrArg _ hself)
      · rw [if_pos hfree]
        unfold NothingLost
        dsimp only
        rw [hself]
        unfold enableBody
        dsimp only
        rw [LawfulDtringfifo.contents_reset]
        exact QueueLedger.balances_opened []
  | read t bufLen info => exact ledgerUpdate_read hb hl h
  | write t len connect results =>
      obtain ⟨send, heq⟩ := hb.write_eq w t len connect results
      rw [Backend.step, heq] at h
      obtain ⟨⟨v, dterr, out⟩, hv, rfl⟩ := Option.map_eq_some_iff.1 h
      exact iff_of_true (hsame (write_rxFifo hv)) trivial
  | pollRound t cmd hdr data hdrRegs dataRegs =>
      obtain ⟨dm, dead, posts, maxBlob, heq⟩ := hb.pollRound_eq w t cmd hdr data hdrRegs dataRegs
      rw [Backend.step, heq] at h
      obtain ⟨⟨v, dterr⟩, hv, rfl⟩ := Option.map_eq_some_iff.1 h
      refine iff_of_true ((hl.record_iff _ _).2 ?_) trivial
      have hprefixed : Dtringfifo.contents w.self.rxFifo <+: Dtringfifo.contents v.self.rxFifo := by
        rcases locked_self hv with ⟨-, hself⟩ | ⟨-, hself⟩
        · exact ⟨[], by rw [hself, List.append_nil]⟩
        · rw [hself]
          exact pollBody_appends dm dead posts maxBlob cmd hdr data hdrRegs dataRegs
            { w with lock := ⟨some t⟩ }
      obtain ⟨bytes, hbytes⟩ := hprefixed
      have happended : ModbusMailbox.Traffic.appended w.self.rxFifo v.self.rxFifo = bytes := by
        rw [ModbusMailbox.Traffic.appended, ← hbytes, List.drop_left]
      show Dtringfifo.contents w.self.rxFifo ++
          ModbusMailbox.Traffic.appended w.self.rxFifo v.self.rxFifo =
        Dtringfifo.contents v.self.rxFifo
      rw [happended, hbytes]

/-- **Exact condition, for any master.** -/
theorem Backend.nothingLost_iff (hb : b.IsMaster) (w : World τ Cfg F)
    (events : List (Event τ C R)) :
    Run.AllStates b.ledgerStep NothingLost
        (w, .opened (Dtringfifo.contents w.self.rxFifo)) events
      ↔ Run.AllSteps b.ledgerStep (fun s e => ReadsWhileRunning s.1 e)
        (w, .opened (Dtringfifo.contents w.self.rxFifo)) events := by
  refine Run.allStates_iff_allSteps (I := fun _ => True) (fun _ _ _ _ _ _ _ => trivial) ?_ ?_
    events _ trivial (QueueLedger.balances_opened _)
  · rintro ⟨w, l⟩ e ⟨w', l'⟩ - hl h
    obtain ⟨hstep, rfl⟩ := (Observer.observed_eq_some _ _).1 h
    exact Backend.step_nothingLost hb hl hstep
  · rintro ⟨w, l⟩ e - hl h
    have hstep : b.step w e = none := (Observer.observed_eq_none _ _).1 h
    cases e with
    | read t bufLen info =>
        -- a read that waits for the lock takes no bytes
        rintro ⟨hpops, -⟩
        obtain ⟨w', -, hread⟩ := read_of_pops hpops t info
        rw [Backend.step, hb.read_eq, hread] at hstep
        cases hstep
    | _ => trivial

/-! ## The two masters -/

/-- **Read loses nothing, exactly.** For the TCP and the RTU master, any state and any `buf_len`, a
    read that returns an error leaves the bytes of the FIFO as they were if and only if it takes no
    bytes or finds the receive task running; and in a run of the public operations and poll rounds
    every byte received is in the FIFO or was returned by a read that succeeded, in every state, if and
    only if each read does. -/
theorem read_loses_nothing_exact {τ F : Type*} [DecidableEq τ] [Dtringfifo F] [LawfulDtringfifo F]
    (dm : DtioxModbus) :
    (∀ (w : World τ DtioxLinuxModbusTcpMaster.Config F) (t : τ) (bufLen : ℤ)
        (info : Except Dterr TaskerInfo),
      KeepsOnError w (DtioxLinuxModbusTcpMaster.read w t bufLen info)
        ↔ (TakesBytes w bufLen → TaskRuns info)) ∧
    (∀ (w : World τ DtioxLinuxModbusRtuMaster.Config F) (t : τ) (bufLen : ℤ)
        (info : Except Dterr TaskerInfo),
      KeepsOnError w (DtioxLinuxModbusRtuMaster.read w t bufLen info)
        ↔ (TakesBytes w bufLen → TaskRuns info)) ∧
    (∀ (w : World τ DtioxLinuxModbusTcpMaster.Config F) events,
      Run.AllStates (DtioxLinuxModbusTcpMaster.backend dm).ledgerStep NothingLost
          (w, .opened (Dtringfifo.contents w.self.rxFifo)) events
        ↔ Run.AllSteps (DtioxLinuxModbusTcpMaster.backend dm).ledgerStep
          (fun s e => ReadsWhileRunning s.1 e)
          (w, .opened (Dtringfifo.contents w.self.rxFifo)) events) ∧
    (∀ (w : World τ DtioxLinuxModbusRtuMaster.Config F) events,
      Run.AllStates (DtioxLinuxModbusRtuMaster.backend dm).ledgerStep NothingLost
          (w, .opened (Dtringfifo.contents w.self.rxFifo)) events
        ↔ Run.AllSteps (DtioxLinuxModbusRtuMaster.backend dm).ledgerStep
          (fun s e => ReadsWhileRunning s.1 e)
          (w, .opened (Dtringfifo.contents w.self.rxFifo)) events) := by
  refine ⟨read_keepsOnError_iff, read_keepsOnError_iff, fun w events => ?_, fun w events => ?_⟩
  · exact Backend.nothingLost_iff (DtioxLinuxModbusTcpMaster.backend_isMaster dm) w events
  · exact Backend.nothingLost_iff (DtioxLinuxModbusRtuMaster.backend_isMaster dm) w events

/-- A master that has received two bytes. -/
def twoBytesReceived {Cfg : Type*} (cfg : Cfg) : World ℕ Cfg ByteFifo where
  self := {
    cfg := cfg
    mb := some 0
    isConnected := true
    enabled := true
    rxSemaphore := false
    stopRequested := false
    rxOverflowPending := false
    deadSlavePending := false
    rxFifo := ⟨1024, [1, 2]⟩ }
  contexts := attachedContexts
  lock := ⟨none⟩
  rxPosts := 0

/-- The receive task ended with the error of a poll round. -/
def stoppedInfo : Except Dterr TaskerInfo :=
  .ok ⟨false, "STOPPED", some (.new .fail "modbus_read_registers poll data")⟩

/-- A read of 8 bytes after the receive task has ended returns its error, and takes the two bytes. -/
theorem failed_read_takes_bytes :
    (¬∀ (w : World ℕ DtioxLinuxModbusTcpMaster.Config ByteFifo) (t : ℕ) (bufLen : ℤ)
        (info : Except Dterr TaskerInfo),
      KeepsOnError w (DtioxLinuxModbusTcpMaster.read w t bufLen info)) ∧
    ¬∀ (w : World ℕ DtioxLinuxModbusRtuMaster.Config ByteFifo) (t : ℕ) (bufLen : ℤ)
        (info : Except Dterr TaskerInfo),
      KeepsOnError w (DtioxLinuxModbusRtuMaster.read w t bufLen info) := by
  constructor
  · intro h
    have hkept := h (twoBytesReceived tcpConfig) 0 8 stoppedInfo _ _ _ rfl
    exact absurd hkept (by decide)
  · intro h
    have hkept := h (twoBytesReceived rtuConfig) 0 8 stoppedInfo _ _ _ rfl
    exact absurd hkept (by decide)

/-- A read of those bytes while the task runs. -/
theorem read_loses_nothing_while_running :
    KeepsOnError (twoBytesReceived tcpConfig)
      (DtioxLinuxModbusTcpMaster.read (twoBytesReceived tcpConfig) 0 8
        (.ok ⟨true, "RUNNING", none⟩)) :=
  ((read_loses_nothing_exact .bigEndian).1 (twoBytesReceived tcpConfig) 0 8 _).2
    fun _ => ⟨_, rfl, rfl⟩

end ModbusMaster
