import DtmcLinux.Dtiox.StreamRx
import DtmcLinux.Foundation.GapReport
import DtmcLinux.Foundation.Observer

set_option autoImplicit false

/-! # Unreported receive gaps

With one thread that reads, the bytes of the stream are numbered in the order they are received; a
byte is dropped when the FIFO has no room for it. A gap is reported when a read returns the overflow
error between the drop and the first later byte that a read returns. -/

namespace DtioxStream

open GapReport

variable {R F : Type*} [Dtringfifo F]

/-- The bytes of a run. -/
structure Ledger where
  received : List UInt8
  /-- the positions of the bytes in the FIFO -/
  queued : List ℕ
  trace : List (Obs ℕ UInt8)
  /-- how many bytes at the end of the FIFO were stored while the reader was between its test of the
      flag and its pop, and a drop was not reported -/
  late : ℕ

/-- The reader has found the flag clear. -/
def ReaderPc.isPopping : ReaderPc → Bool
  | .popping _ => true
  | _ => false

/-- A chunk of which `written` bytes were stored. -/
def Ledger.pushed (g : Ledger) (isPopping : Bool) (bs : List UInt8) (written : ℕ) : Ledger where
  received := g.received ++ bs
  queued := g.queued ++ List.range' g.received.length written
  trace := dropAll g.trace (List.range' (g.received.length + written) (bs.length - written))
  late := if isPopping = true ∧ unreported g.trace ≠ [] then g.late + written else g.late

/-- A read that returns `bs`. -/
def Ledger.returned (g : Ledger) (bs : List UInt8) : Ledger where
  received := g.received
  queued := g.queued.drop bs.length
  trace := returnAll g.trace ((g.queued.take bs.length).zip bs)
  late := 0

/-- The ledger after a step. -/
def Ledger.update (b : Backend R) (s : State Unit F) (e : Event Unit R) (s' : State Unit F)
    (g : Ledger) : Ledger :=
  match readResult b s e with
  | some (.error err) =>
    if err.errorCode = some .overflow then { g with trace := .report :: g.trace } else g
  | some (.ok bs) => g.returned bs
  | none =>
    match e, s'.rxPc with
    | .received r, .pushed _ written => g.pushed (s.readers ()).isPopping (b.payload r) written
    | .test _ _, _ => { g with late := 0 }
    | _, _ => g

/-- The backend, with the ledger. -/
def Ledger.step (b : Backend R) :
    State Unit F × Ledger → Event Unit R → Option (State Unit F × Ledger) :=
  Observer.observed (DtioxStream.step b) (Ledger.update b)

/-- The runs that are recorded are the runs of the backend. -/
theorem Ledger.exec_step (b : Backend R) (s : State Unit F × Ledger)
    (events : List (Event Unit R)) :
    (Run.exec (Ledger.step b) s events).map (·.1) = Run.exec (DtioxStream.step b) s.1 events :=
  Observer.exec_observed _ _ s events

/-- The bytes in the FIFO count as received. -/
def Ledger.initial (rxFifo : F) : Ledger where
  received := Dtringfifo.contents rxFifo
  queued := List.range (Dtringfifo.contents rxFifo).length
  trace := []
  late := 0

/-- The condition on a step: a pop takes no byte that was stored after the read tested the flag and
    while a drop was not reported. -/
def PopsNoLateByte (b : Backend R) (s : State Unit F × Ledger) (e : Event Unit R) : Prop :=
  match readResult b s.1 e with
  | some (.ok bs) => bs.length + s.2.late ≤ (Dtringfifo.contents s.1.self.rxFifo).length
  | _ => True

instance (b : Backend R) (s : State Unit F × Ledger) (e : Event Unit R) :
    Decidable (PopsNoLateByte b s e) :=
  match h : readResult b s.1 e with
  | some (.ok bs) =>
    decidable_of_iff (bs.length + s.2.late ≤ (Dtringfifo.contents s.1.self.rxFifo).length)
      (by rw [PopsNoLateByte, h])
  | some (.error _) => .isTrue (by rw [PopsNoLateByte, h]; trivial)
  | none => .isTrue (by rw [PopsNoLateByte, h]; trivial)

/-- The bytes returned are, in order, among the bytes received, and each stands where it was
    received. -/
def ReturnsReceived (s : State Unit F × Ledger) : Prop :=
  (values s.2.trace).Sublist s.2.received ∧
    ∀ j bt, .returned j bt ∈ s.2.trace → s.2.received[j]? = some bt

/-- The task is in its system call and nobody reads. -/
def State.start (self : StreamRx F) : State Unit F where
  self := self
  rxPc := .receiving
  readers := fun _ => .idle

/-! ## The ledger is right -/

/-- The ledger fits the FIFO, and what was returned is what was received. -/
structure Ledger.Right (g : Ledger) (rxFifo : F) : Prop where
  /-- the bytes returned and the bytes in the FIFO, in order, are among the bytes received -/
  sublist : (values g.trace ++ Dtringfifo.contents rxFifo).Sublist g.received
  queued : g.queued.map (g.received[·]?) = (Dtringfifo.contents rxFifo).map some
  returned : ∀ j bt, .returned j bt ∈ g.trace → g.received[j]? = some bt

omit [Dtringfifo F] in
/-- The positions of the first bytes of a chunk. -/
theorem map_getElem?_range' (xs ys : List UInt8) {n : ℕ} (h : n ≤ ys.length) :
    (List.range' xs.length n).map ((xs ++ ys)[·]?) = (ys.take n).map some := by
  induction n generalizing xs ys with
  | zero => simp
  | succ n ih =>
      cases ys with
      | nil => exact absurd h (by simp)
      | cons y ys =>
          rw [List.range'_succ, List.map_cons, List.take_succ_cons, List.map_cons]
          have hrest := ih (xs ++ [y]) ys (Nat.le_of_succ_le_succ h)
          rw [List.length_append, List.length_singleton, List.append_assoc,
            List.singleton_append] at hrest
          rw [hrest, List.getElem?_append_right (Nat.le_refl _), Nat.sub_self]
          rfl

theorem Ledger.Right.queued_lt {g : Ledger} {rxFifo : F} (h : g.Right rxFifo) :
    ∀ j ∈ g.queued, j < g.received.length := by
  intro j hj
  have hmem : g.received[j]? ∈ g.queued.map (g.received[·]?) := List.mem_map_of_mem hj
  rw [h.queued, List.mem_map] at hmem
  obtain ⟨bt, -, hbt⟩ := hmem
  exact (List.getElem?_eq_some_iff.1 hbt.symm).1

theorem Ledger.Right.length_queued {g : Ledger} {rxFifo : F} (h : g.Right rxFifo) :
    g.queued.length = (Dtringfifo.contents rxFifo).length := by
  have hlen := congrArg List.length h.queued
  rwa [List.length_map, List.length_map] at hlen

theorem Ledger.Right.pushed [LawfulDtringfifo F] {g : Ledger} {rxFifo : F} (h : g.Right rxFifo)
    (isPopping : Bool) (bs : List UInt8) :
    (g.pushed isPopping bs (Dtringfifo.push rxFifo bs).2).Right (Dtringfifo.push rxFifo bs).1 := by
  have hle := LawfulDtringfifo.push_le rxFifo bs
  have hcontents := LawfulDtringfifo.contents_push rxFifo bs
  have hold : ∀ j ∈ g.queued, (g.received ++ bs)[j]? = g.received[j]? := fun j hj =>
    List.getElem?_append_left (h.queued_lt j hj)
  refine ⟨?_, ?_, fun j bt hmem => ?_⟩
  · dsimp only [Ledger.pushed]
    rw [values_dropAll, hcontents, ← List.append_assoc]
    exact h.sublist.append (List.take_sublist _ _)
  · dsimp only [Ledger.pushed]
    rw [hcontents, List.map_append, List.map_append, map_getElem?_range' _ _ hle,
      List.map_congr_left hold, h.queued]
  · dsimp only [Ledger.pushed] at hmem ⊢
    have hmem' := mem_dropAll_returned.1 hmem
    have hj := h.returned j bt hmem'
    rw [List.getElem?_append_left (List.getElem?_eq_some_iff.1 hj).1, hj]

theorem Ledger.Right.popped [LawfulDtringfifo F] {g : Ledger} {b : Backend R} {self : StreamRx F}
    (h : g.Right self.rxFifo) (bufLen : ℤ) :
    (g.returned (popped b self bufLen).2).Right (popped b self bufLen).1.rxFifo := by
  have hcontents : Dtringfifo.contents self.rxFifo = (DtioxStream.popped b self bufLen).2
      ++ Dtringfifo.contents (DtioxStream.popped b self bufLen).1.rxFifo := by
    unfold DtioxStream.popped
    split
    · rfl
    · exact LawfulDtringfifo.contents_pop _ _
  generalize (DtioxStream.popped b self bufLen).1.rxFifo = rest at hcontents ⊢
  generalize (DtioxStream.popped b self bufLen).2 = bs at hcontents ⊢
  have hlen : (g.queued.take bs.length).length = bs.length := by
    rw [List.length_take, h.length_queued, hcontents, List.length_append]
    omega
  -- the labels of the bytes popped, and of the bytes that stay
  have hqueued := h.queued
  rw [hcontents, List.map_append, ← List.take_append_drop bs.length g.queued,
    List.map_append] at hqueued
  obtain ⟨htake, hdrop⟩ := List.append_inj hqueued (by
    rw [List.length_map, List.length_map, hlen])
  refine ⟨?_, hdrop, fun j bt hmem => ?_⟩
  · dsimp only [Ledger.returned]
    rw [values_returnAll, List.map_snd_zip (Nat.le_of_eq hlen.symm), List.append_assoc,
      ← hcontents]
    exact h.sublist
  · rcases mem_returnAll.1 hmem with ⟨⟨j', bt'⟩, hr, heq⟩ | hmem
    · obtain ⟨rfl, rfl⟩ := Obs.returned.inj heq
      have hzip : ((g.queued.take bs.length).zip bs).map (fun r => g.received[r.1]?)
          = ((g.queued.take bs.length).zip bs).map (fun r => some r.2) := by
        calc ((g.queued.take bs.length).zip bs).map (fun r => g.received[r.1]?)
            = (((g.queued.take bs.length).zip bs).map Prod.fst).map (g.received[·]?) := by
              rw [List.map_map]
              rfl
          _ = bs.map some := by
              rw [List.map_fst_zip (Nat.le_of_eq hlen), htake]
          _ = (((g.queued.take bs.length).zip bs).map Prod.snd).map some := by
              rw [List.map_snd_zip (Nat.le_of_eq hlen.symm)]
          _ = ((g.queued.take bs.length).zip bs).map (fun r => some r.2) := by
              rw [List.map_map]
              rfl
      exact List.map_inj_left.1 hzip _ hr
    · exact h.returned j bt hmem

/-! ## The drops that were not reported -/

/-- Where the drops that were not reported can be. -/
structure GapInv (s : State Unit F × Ledger) : Prop where
  right : s.2.Right s.1.self.rxFifo
  unreported_lt : ∀ u ∈ unreported s.2.trace, u < s.2.received.length
  /-- while the flag is clear, the task has still to record them -/
  inFlight : s.1.self.rxOverflowFlag = false → unreported s.2.trace ≠ [] →
    s.1.rxPc.overflowed = true
  /-- while the flag is clear, nothing in the FIFO was received after them -/
  fresh : s.1.self.rxOverflowFlag = false → ∀ u ∈ unreported s.2.trace, ∀ j ∈ s.2.queued, j < u
  /-- in a read that tested the flag, exactly the late bytes were received after one of them -/
  popping : (s.1.readers ()).isPopping = true → ∃ early lateBytes,
    s.2.queued = early ++ lateBytes ∧ lateBytes.length = s.2.late ∧
    (∀ u ∈ unreported s.2.trace, ∀ j ∈ early, j < u) ∧
    ∀ j ∈ lateBytes, ∃ u ∈ unreported s.2.trace, u < j

omit [Dtringfifo F] in
/-- The drops of a chunk. -/
theorem mem_unreported_pushed {g : Ledger} {isPopping : Bool} {bs : List UInt8} {written : ℕ}
    (hle : written ≤ bs.length) {u : ℕ} :
    u ∈ unreported (g.pushed isPopping bs written).trace ↔
      (g.received.length + written ≤ u ∧ u < g.received.length + bs.length) ∨
        u ∈ unreported g.trace := by
  dsimp only [Ledger.pushed]
  rw [mem_unreported_dropAll, List.mem_range'_1]
  have hsum : g.received.length + written + (bs.length - written)
      = g.received.length + bs.length := by omega
  rw [hsum]

/-- A chunk is pushed. -/
theorem GapInv.pushed [LawfulDtringfifo F] {s : State Unit F} {g : Ledger} (hi : GapInv (s, g))
    (hpc : s.rxPc = .receiving) (bs : List UInt8) :
    GapInv ({ s with
        self := { s.self with rxFifo := (Dtringfifo.push s.self.rxFifo bs).1 }
        rxPc := .pushed bs.length (Dtringfifo.push s.self.rxFifo bs).2 },
      g.pushed (s.readers ()).isPopping bs (Dtringfifo.push s.self.rxFifo bs).2) := by
  have hle := LawfulDtringfifo.push_le s.self.rxFifo bs
  have hright := hi.right.pushed (s.readers ()).isPopping bs
  have hqueued : ∀ j ∈ g.queued, j < g.received.length := hi.right.queued_lt
  have hlt : ∀ u ∈ unreported g.trace, u < g.received.length := hi.unreported_lt
  -- with the flag clear there was no drop to report
  have hnone : s.self.rxOverflowFlag = false → unreported g.trace = [] := by
    intro hflag
    by_contra hne
    have hover := hi.inFlight hflag hne
    rw [hpc] at hover
    exact absurd hover (by simp [RxPc.overflowed])
  generalize (Dtringfifo.push s.self.rxFifo bs).2 = written at hle hright ⊢
  refine ⟨hright, fun u hu => ?_, fun hflag hne => ?_, fun hflag u hu j hj => ?_,
    fun hpop => ?_⟩
  · dsimp only [Ledger.pushed]
    rw [List.length_append]
    rcases (mem_unreported_pushed hle).1 hu with ⟨-, hu⟩ | hu
    · exact hu
    · exact Nat.lt_of_lt_of_le (hlt u hu) (Nat.le_add_right _ _)
  · obtain ⟨u, hu⟩ := List.exists_mem_of_ne_nil _ hne
    rcases (mem_unreported_pushed hle).1 hu with ⟨hu₁, hu₂⟩ | hu
    · exact decide_eq_true (by omega)
    · rw [hnone hflag] at hu
      exact absurd hu (by simp)
  · rcases (mem_unreported_pushed hle).1 hu with ⟨hu₁, -⟩ | hu
    · dsimp only [Ledger.pushed] at hj
      rcases List.mem_append.1 hj with hj | hj
      · exact Nat.lt_of_lt_of_le (hqueued j hj) (by omega)
      · exact Nat.lt_of_lt_of_le (List.mem_range'_1.1 hj).2 hu₁
    · rw [hnone hflag] at hu
      exact absurd hu (by simp)
  · obtain ⟨early, lateBytes, hsplit, hlate, hearly, hlateBytes⟩ := hi.popping hpop
    dsimp only at hsplit hlate hearly hlateBytes hpop
    by_cases hne : unreported g.trace = []
    · -- nothing is late yet
      obtain rfl : lateBytes = [] := by
        refine List.eq_nil_iff_forall_not_mem.2 fun j hj => ?_
        obtain ⟨u, hu, -⟩ := hlateBytes j hj
        rw [hne] at hu
        exact absurd hu (by simp)
      refine ⟨_, [], (List.append_nil _).symm, ?_, fun u hu j hj => ?_,
        fun j hj => absurd hj (by simp)⟩
      · dsimp only [Ledger.pushed]
        rw [if_neg fun h => h.2 hne]
        exact hlate
      · rcases (mem_unreported_pushed hle).1 hu with ⟨hu₁, -⟩ | hu
        · rcases List.mem_append.1 hj with hj | hj
          · exact Nat.lt_of_lt_of_le (hqueued j hj) (by omega)
          · exact Nat.lt_of_lt_of_le (List.mem_range'_1.1 hj).2 hu₁
        · rw [hne] at hu
          exact absurd hu (by simp)
    · refine ⟨early, lateBytes ++ List.range' g.received.length written, ?_, ?_,
        fun u hu j hj => ?_, fun j hj => ?_⟩
      · dsimp only [Ledger.pushed]
        rw [hsplit, List.append_assoc]
      · dsimp only [Ledger.pushed]
        rw [if_pos ⟨hpop, hne⟩, List.length_append, List.length_range', hlate]
      · rcases (mem_unreported_pushed hle).1 hu with ⟨hu₁, -⟩ | hu
        · have hj' := hqueued j (hsplit ▸ List.mem_append_left _ hj)
          omega
        · exact hearly u hu j hj
      · rcases List.mem_append.1 hj with hj | hj
        · obtain ⟨u, hu, hlt'⟩ := hlateBytes j hj
          exact ⟨u, (mem_unreported_pushed hle).2 (Or.inr hu), hlt'⟩
        · obtain ⟨u, hu⟩ := List.exists_mem_of_ne_nil _ hne
          have hj' := (List.mem_range'_1.1 hj).1
          exact ⟨u, (mem_unreported_pushed hle).2 (Or.inr hu), Nat.lt_of_lt_of_le (hlt u hu) hj'⟩

omit [Dtringfifo F] in
/-- The record of what did not fit sets the flag, and nothing else a reader looks at. -/
theorem recorded_flag {ι : Type*} (b : Backend R) (s : State ι F) (len written : ℕ) :
    (recorded b s len written).self.rxFifo = s.self.rxFifo ∧
      (recorded b s len written).readers = s.readers ∧
      (recorded b s len written).self.rxOverflowFlag
        = (s.self.rxOverflowFlag || decide (written < len)) := by
  unfold recorded
  dsimp only
  split
  · next hdropped =>
      have hlt : written < len := by omega
      exact ⟨rfl, rfl, by rw [decide_eq_true hlt, Bool.or_true]⟩
  · next hdropped =>
      have hlt : ¬written < len := by omega
      exact ⟨rfl, rfl, by rw [decide_eq_false hlt, Bool.or_false]⟩

/-- A step of the task that leaves the FIFO alone, and clears no flag. -/
theorem GapInv.congr {s s' : State Unit F} {g : Ledger} (hi : GapInv (s, g))
    (hfifo : s'.self.rxFifo = s.self.rxFifo) (hreaders : s'.readers = s.readers)
    (hflag : s'.self.rxOverflowFlag = false →
      s.self.rxOverflowFlag = false ∧ s.rxPc.overflowed = false) : GapInv (s', g) := by
  refine ⟨hfifo ▸ hi.right, hi.unreported_lt, fun hf hne => ?_, fun hf => ?_, fun hpop => ?_⟩
  · have hover := hi.inFlight (hflag hf).1 hne
    rw [(hflag hf).2] at hover
    exact absurd hover (by simp)
  · exact hi.fresh (hflag hf).1
  · exact hi.popping (hreaders ▸ hpop)

/-- A reader that has returned is not about to pop. -/
theorem not_isPopping_idle (readers : Unit → ReaderPc)
    (h : (Function.update readers () .idle ()).isPopping = true) : False := by
  rw [Function.update_self] at h
  exact absurd h (by simp [ReaderPc.isPopping])

/-- A reader that goes on to pop has found the flag clear. -/
theorem flag_of_isPopping (readers : Unit → ReaderPc) {flag : Bool} {bufLen : ℤ}
    (h : (Function.update readers () (if flag then .clearing else .popping bufLen) ()).isPopping
      = true) : flag = false := by
  rw [Function.update_self] at h
  by_contra hset
  rw [if_pos (by simpa using hset)] at h
  exact absurd h (by simp [ReaderPc.isPopping])

/-- A read tests the flag. -/
theorem GapInv.test {s : State Unit F} {g : Ledger} (hi : GapInv (s, g)) (bufLen : ℤ) :
    GapInv ({ s with
        readers := Function.update s.readers ()
          (if s.self.rxOverflowFlag then .clearing else .popping bufLen) },
      { g with late := 0 }) := by
  refine ⟨⟨hi.right.sublist, hi.right.queued, hi.right.returned⟩, hi.unreported_lt, hi.inFlight,
    hi.fresh, fun hpop => ?_⟩
  exact ⟨g.queued, [], (List.append_nil _).symm, rfl, hi.fresh (flag_of_isPopping s.readers hpop),
    fun j hj => absurd hj (by simp)⟩

/-- A read clears the flag and reports. -/
theorem GapInv.clear {s : State Unit F} {g : Ledger} (hi : GapInv (s, g)) :
    GapInv ({ s with
        self := { s.self with rxOverflowFlag := false }
        readers := Function.update s.readers () .idle },
      { g with trace := .report :: g.trace }) := by
  refine ⟨⟨hi.right.sublist, hi.right.queued, fun j bt hmem => ?_⟩, fun u hu => ?_,
    fun _ hne => absurd rfl hne, fun _ u hu => ?_,
    fun hpop => (not_isPopping_idle s.readers hpop).elim⟩
  · exact hi.right.returned j bt (by simpa using hmem)
  · exact absurd hu (by simp)
  · exact absurd hu (by simp)

/-- A read pops the FIFO. -/
theorem GapInv.pop [LawfulDtringfifo F] {b : Backend R} {s : State Unit F} {g : Ledger}
    (hi : GapInv (s, g)) (bufLen : ℤ) :
    GapInv ({ s with
        self := (popped b s.self bufLen).1
        readers := Function.update s.readers () .idle },
      g.returned (popped b s.self bufLen).2) := by
  have hright := hi.right.popped (b := b) bufLen
  have hflag : (popped b s.self bufLen).1.rxOverflowFlag = s.self.rxOverflowFlag := by
    unfold popped
    split <;> rfl
  refine ⟨hright, fun u hu => ?_, fun hf hne => ?_, fun hf u hu j hj => ?_,
    fun hpop => (not_isPopping_idle s.readers hpop).elim⟩
  · dsimp only [Ledger.returned] at hu
    rw [unreported_returnAll] at hu
    exact hi.unreported_lt u hu
  · dsimp only [Ledger.returned] at hne
    rw [unreported_returnAll] at hne
    exact hi.inFlight (hflag ▸ hf) hne
  · dsimp only [Ledger.returned] at hu hj
    rw [unreported_returnAll] at hu
    exact hi.fresh (hflag ▸ hf) u hu j (List.mem_of_mem_drop hj)

omit [Dtringfifo F] in
/-- The positions that are popped are all early exactly when no late byte is reached. -/
theorem take_early_iff {dropped early lateBytes : List ℕ} {n : ℕ}
    (hearly : ∀ u ∈ dropped, ∀ j ∈ early, j < u) (hlate : ∀ j ∈ lateBytes, ∃ u ∈ dropped, u < j)
    (hn : n ≤ (early ++ lateBytes).length) :
    (∀ j ∈ (early ++ lateBytes).take n, ∀ u ∈ dropped, ¬u < j) ↔
      n + lateBytes.length ≤ (early ++ lateBytes).length := by
  rw [List.length_append] at hn ⊢
  constructor
  · intro h
    by_contra hgt
    cases lateBytes with
    | nil =>
        rw [List.length_nil] at hn hgt
        omega
    | cons j rest =>
        -- the first late byte is among them
        have hmem : j ∈ (early ++ j :: rest).take n := by
          rw [List.take_append, List.mem_append]
          refine Or.inr ?_
          obtain ⟨k, hk⟩ : ∃ k, n - early.length = k + 1 := ⟨n - early.length - 1, by omega⟩
          rw [hk, List.take_succ_cons]
          exact List.mem_cons_self
        obtain ⟨u, hu, hlt⟩ := hlate j List.mem_cons_self
        exact h j hmem u hu hlt
  · intro hle j hj u hu hlt
    have hshort : n ≤ early.length := by omega
    rw [List.take_append_of_le_length hshort] at hj
    exact absurd (hearly u hu j (List.mem_of_mem_take hj)) (Nat.lt_asymm hlt)

theorem length_popped [LawfulDtringfifo F] (b : Backend R) (self : StreamRx F) (bufLen : ℤ) :
    (popped b self bufLen).2.length ≤ (Dtringfifo.contents self.rxFifo).length := by
  unfold popped
  split
  · exact Nat.zero_le _
  · have hpop := congrArg List.length
      (LawfulDtringfifo.contents_pop self.rxFifo bufLen.toNat)
    rw [List.length_append] at hpop
    exact hpop ▸ Nat.le_add_right _ _

/-- A pop leaves every gap reported exactly when it takes no late byte. -/
theorem GapInv.gapsReported_pop [LawfulDtringfifo F] {b : Backend R} {s : State Unit F}
    {g : Ledger} (hi : GapInv (s, g)) {bufLen : ℤ} (hpc : s.readers () = .popping bufLen)
    (hg : GapsReported g.trace) :
    GapsReported (g.returned (popped b s.self bufLen).2).trace ↔
      (popped b s.self bufLen).2.length + g.late
        ≤ (Dtringfifo.contents s.self.rxFifo).length := by
  have hlen := length_popped b s.self bufLen
  generalize (popped b s.self bufLen).2 = bs at hlen ⊢
  obtain ⟨early, lateBytes, hsplit, hlate, hearly, hlateBytes⟩ := hi.popping (by
    dsimp only
    rw [hpc]
    rfl)
  have hqueued : g.queued.length = (Dtringfifo.contents s.self.rxFifo).length :=
    hi.right.length_queued
  dsimp only at hsplit hlate hearly hlateBytes
  dsimp only [Ledger.returned]
  rw [← hqueued, hsplit] at hlen ⊢
  rw [gapsReported_returnAll, ← hlate, ← take_early_iff hearly hlateBytes hlen]
  have htake : ((early ++ lateBytes).take bs.length).length = bs.length := by
    rw [List.length_take]
    omega
  constructor
  · rintro ⟨-, h⟩ j hj
    -- each position popped is returned with a value
    rw [← List.map_fst_zip (Nat.le_of_eq htake)] at hj
    obtain ⟨r, hr, rfl⟩ := List.mem_map.1 hj
    exact h r hr
  · exact fun h => ⟨hg, fun r hr => h r.1 (List.of_mem_zip hr).1⟩

/-- A chunk that is not pushed leaves the ledger alone. -/
theorem update_ignored (b : Backend R) {s : State Unit F} (hpc : s.rxPc = .receiving) (r : R)
    (g : Ledger) : Ledger.update b s (.received r) s g = g := by
  unfold Ledger.update readResult
  dsimp only
  rw [hpc]

/-- The pop returns what it took. -/
theorem readResult_pop (b : Backend R) {s : State Unit F} {bufLen : ℤ}
    (hpc : s.readers () = .popping bufLen) :
    readResult b s (.pop () : Event Unit R) = some (.ok (popped b s.self bufLen).2) := by
  unfold readResult
  dsimp only
  rw [hpc]

/-- **Step lemma.** -/
theorem GapInv.step [LawfulDtringfifo F] {b : Backend R} {s s' : State Unit F × Ledger}
    {e : Event Unit R} (hi : GapInv s) (h : Ledger.step b s e = some s') :
    GapInv s' ∧ (GapsReported s.2.trace →
      (GapsReported s'.2.trace ↔ PopsNoLateByte b s e)) := by
  obtain ⟨s, g⟩ := s
  obtain ⟨t, g'⟩ := s'
  obtain ⟨hstep, rfl⟩ := (Observer.observed_eq_some _ _).1 h
  cases step_effect hstep with
  | received r hpc =>
      rcases received_cases b s r with heq | ⟨-, heq⟩
      · rw [heq, update_ignored b hpc]
        exact ⟨hi, fun hg => iff_of_true hg trivial⟩
      · rw [heq]
        exact ⟨hi.pushed hpc _, fun hg => iff_of_true (gapsReported_dropAll.2 hg) trivial⟩
  | recorded hpc =>
      next len written =>
        obtain ⟨hfifo, hreaders, hflag⟩ := recorded_flag b s len written
        refine ⟨hi.congr hfifo hreaders fun hf => ?_, fun hg => iff_of_true hg trivial⟩
        rw [hflag, Bool.or_eq_false_iff] at hf
        rw [hpc]
        exact hf
  | posted hpc =>
      refine ⟨hi.congr rfl rfl fun hf => ⟨hf, ?_⟩, fun hg => iff_of_true hg trivial⟩
      rw [hpc]
      rfl
  | postFailed err hpc =>
      refine ⟨hi.congr rfl rfl fun hf => ⟨hf, ?_⟩, fun hg => iff_of_true hg trivial⟩
      rw [hpc]
      rfl
  | test i bufLen hpc => exact ⟨hi.test bufLen, fun hg => iff_of_true hg trivial⟩
  | clear i hpc =>
      refine ⟨hi.clear, fun hg => iff_of_true ?_ trivial⟩
      exact (gapsReported_cons (by simp)).2 hg
  | pop i hpc hfree =>
      next bufLen =>
        unfold Ledger.update PopsNoLateByte
        rw [readResult_pop b hpc]
        exact ⟨hi.pop bufLen, fun hg => hi.gapsReported_pop hpc hg⟩

/-! ## Behind a mutex -/

/-- What holds besides when the push and the flag are behind the mutex of the pop: a drop that is
    not reported leaves the FIFO full until the reader pops. -/
structure MutexGapInv [BoundedDtringfifo F] (s : State Unit F × Ledger) : Prop
    extends GapInv s where
  full : s.1.rxPc.overflowed = true →
    BoundedDtringfifo.capacity s.1.self.rxFifo ≤ (Dtringfifo.contents s.1.self.rxFifo).length
  poppingFull : (s.1.readers ()).isPopping = true → unreported s.2.trace ≠ [] →
    BoundedDtringfifo.capacity s.1.self.rxFifo ≤ (Dtringfifo.contents s.1.self.rxFifo).length
  late : (s.1.readers ()).isPopping = true → s.2.late = 0

theorem MutexGapInv.pushed [BoundedDtringfifo F] {s : State Unit F} {g : Ledger}
    (hi : MutexGapInv (s, g)) (hpc : s.rxPc = .receiving) (bs : List UInt8) :
    MutexGapInv ({ s with
        self := { s.self with rxFifo := (Dtringfifo.push s.self.rxFifo bs).1 }
        rxPc := .pushed bs.length (Dtringfifo.push s.self.rxFifo bs).2 },
      g.pushed (s.readers ()).isPopping bs (Dtringfifo.push s.self.rxFifo bs).2) := by
  have hinv := hi.toGapInv.pushed hpc bs
  have hle := LawfulDtringfifo.push_le s.self.rxFifo bs
  have hcapacity := BoundedDtringfifo.capacity_push s.self.rxFifo bs
  have hwritten := BoundedDtringfifo.push_snd s.self.rxFifo bs
  have hlength : (Dtringfifo.contents (Dtringfifo.push s.self.rxFifo bs).1).length
      = (Dtringfifo.contents s.self.rxFifo).length + (Dtringfifo.push s.self.rxFifo bs).2 := by
    rw [LawfulDtringfifo.contents_push, List.length_append, List.length_take,
      Nat.min_eq_left hle]
  refine ⟨hinv, fun hover => ?_, fun hpop hne => ?_, fun hpop => ?_⟩
  · have hlt : (Dtringfifo.push s.self.rxFifo bs).2 < bs.length := by
      simpa [RxPc.overflowed] using hover
    dsimp only
    omega
  · dsimp only
    by_cases hlt : (Dtringfifo.push s.self.rxFifo bs).2 < bs.length
    · omega
    · -- nothing was dropped now, so the FIFO was full before
      have hne' : unreported g.trace ≠ [] := by
        obtain ⟨u, hu⟩ := List.exists_mem_of_ne_nil _ hne
        rcases (mem_unreported_pushed hle).1 hu with ⟨hu₁, hu₂⟩ | hu
        · omega
        · exact List.ne_nil_of_mem hu
      have hfull := hi.poppingFull hpop hne'
      dsimp only at hfull
      omega
  · dsimp only [Ledger.pushed]
    split
    · next hlate =>
        have hfull := hi.poppingFull hpop hlate.2
        have hzero : g.late = 0 := hi.late hpop
        dsimp only at hfull
        omega
    · exact hi.late hpop

theorem MutexGapInv.congr [BoundedDtringfifo F] {s s' : State Unit F} {g : Ledger}
    (hi : MutexGapInv (s, g)) (hfifo : s'.self.rxFifo = s.self.rxFifo)
    (hreaders : s'.readers = s.readers)
    (hflag : s'.self.rxOverflowFlag = false →
      s.self.rxOverflowFlag = false ∧ s.rxPc.overflowed = false)
    (hpc : s'.rxPc.overflowed = false) : MutexGapInv (s', g) := by
  refine ⟨hi.toGapInv.congr hfifo hreaders hflag, fun hover => ?_, fun hpop => ?_, fun hpop => ?_⟩
  · dsimp only at hover
    rw [hpc] at hover
    exact absurd hover (by simp)
  · dsimp only at hpop ⊢
    rw [hfifo]
    rw [hreaders] at hpop
    exact hi.poppingFull hpop
  · dsimp only at hpop
    rw [hreaders] at hpop
    exact hi.late hpop

theorem MutexGapInv.step [BoundedDtringfifo F] {b : Backend R} (hb : b.hasMutex = true)
    {s s' : State Unit F × Ledger} {e : Event Unit R} (hi : MutexGapInv s)
    (h : Ledger.step b s e = some s') : MutexGapInv s' := by
  have hinv := (hi.toGapInv.step h).1
  obtain ⟨s, g⟩ := s
  obtain ⟨t, g'⟩ := s'
  obtain ⟨hstep, rfl⟩ := (Observer.observed_eq_some _ _).1 h
  cases step_effect hstep with
  | received r hpc =>
      rcases received_cases b s r with heq | ⟨-, heq⟩
      · rw [heq, update_ignored b hpc]
        exact hi
      · rw [heq]
        exact hi.pushed hpc _
  | recorded hpc =>
      next len written =>
        obtain ⟨hfifo, hreaders, hflag⟩ := recorded_flag b s len written
        refine hi.congr hfifo hreaders (fun hf => ?_) ?_
        · rw [hflag, Bool.or_eq_false_iff] at hf
          rw [hpc]
          exact hf
        · unfold recorded
          dsimp only
          split <;> split <;> rfl
  | posted hpc => exact hi.congr rfl rfl (fun hf => ⟨hf, by rw [hpc]; rfl⟩) rfl
  | postFailed err hpc => exact hi.congr rfl rfl (fun hf => ⟨hf, by rw [hpc]; rfl⟩) rfl
  | test i bufLen hpc =>
      refine ⟨hinv, hi.full, fun hpop hne => ?_, fun _ => rfl⟩
      -- the flag was clear, so the task has still to record the drop
      exact hi.full (hi.inFlight (flag_of_isPopping s.readers hpop) hne)
  | clear i hpc =>
      exact ⟨hinv, hi.full, fun hpop => (not_isPopping_idle s.readers hpop).elim,
        fun hpop => (not_isPopping_idle s.readers hpop).elim⟩
  | pop i hpc hfree =>
      obtain ⟨-, hfifo⟩ := popped_keeps hb hfree
      refine ⟨hinv, fun hover => ?_, fun hpop => (not_isPopping_idle s.readers hpop).elim,
        fun hpop => (not_isPopping_idle s.readers hpop).elim⟩
      dsimp only at hover ⊢
      cases hpc : s.rxPc with
      | pushed len written =>
          rw [hfifo len written hpc]
          exact hi.full hover
      | _ =>
          rw [hpc] at hover
          exact absurd hover (by simp [RxPc.overflowed])

/-! ## Runs -/

theorem gapInv_initial (self : StreamRx F) :
    GapInv (State.start self, Ledger.initial self.rxFifo) := by
  refine ⟨⟨?_, ?_, fun j bt h => absurd h (by simp [Ledger.initial])⟩,
    fun u hu => absurd hu (by simp [Ledger.initial]), fun _ hne => absurd rfl hne,
    fun _ u hu => absurd hu (by simp [Ledger.initial]),
    fun hpop => absurd hpop (by simp [State.start, ReaderPc.isPopping])⟩
  · exact List.Sublist.refl _
  · have hmap := map_getElem?_range' [] (Dtringfifo.contents self.rxFifo) (Nat.le_refl _)
    rw [List.take_length, List.length_nil, List.nil_append, ← List.range_eq_range'] at hmap
    exact hmap

/-- A backend without a mutex. -/
theorem gapsReported_iff [LawfulDtringfifo F] {b : Backend R} (hb : b.hasMutex = false)
    (self : StreamRx F) (events : List (Event Unit R)) :
    Run.AllStates (Ledger.step b) (fun s => GapsReported s.2.trace)
        (.start self, .initial self.rxFifo) events
      ↔ Run.AllSteps (Ledger.step b) (PopsNoLateByte b)
        (.start self, .initial self.rxFifo) events := by
  refine Run.allStates_iff_allSteps (I := GapInv) ?_ ?_ ?_ events _ (gapInv_initial self)
    gapsReported_nil
  · exact fun s e s' hi hs h _ => (hi.step h).1
  · exact fun s e s' hi hs h => (hi.step h).2 hs
  · -- only a pop has a condition, and without a mutex it is not blocked
    intro s e _ _ h
    have hnone := (Observer.observed_eq_none _ _).1 h
    cases e with
    | pop i =>
        unfold DtioxStream.step at hnone
        dsimp only at hnone
        unfold PopsNoLateByte readResult
        dsimp only
        split at hnone
        · next bufLen hpc =>
            rw [popBlocked, hb] at hnone
            exact absurd hnone (by simp)
        · next hpc =>
            cases hr : s.1.readers i with
            | popping bufLen => exact absurd hr (hpc bufLen)
            | _ => trivial
    | _ => trivial

theorem returnsReceived_always [LawfulDtringfifo F] (b : Backend R) (self : StreamRx F)
    (events : List (Event Unit R)) :
    Run.AllStates (Ledger.step b) ReturnsReceived (.start self, .initial self.rxFifo) events := by
  refine (Run.allStates_of_invariant (P := GapInv) (fun s e s' hi h => (hi.step h).1) events _
    (gapInv_initial self)).imp fun s hi => ?_
  exact ⟨(List.sublist_append_left _ _).trans hi.right.sublist, hi.right.returned⟩

/-- Behind a mutex no pop takes a late byte. -/
theorem MutexGapInv.popsNoLateByte [BoundedDtringfifo F] {b : Backend R}
    {s : State Unit F × Ledger} (hi : MutexGapInv s) (e : Event Unit R) :
    PopsNoLateByte b s e := by
  unfold PopsNoLateByte
  split
  · next bs hresult =>
      cases e with
      | pop i =>
          unfold readResult at hresult
          dsimp only at hresult
          split at hresult
          · next bufLen hpc =>
              obtain rfl := Except.ok.inj (Option.some.inj hresult)
              have hpop : (s.1.readers ()).isPopping = true := by
                rw [hpc]
                rfl
              rw [hi.late hpop]
              exact length_popped b s.1.self bufLen
          · exact absurd hresult (by simp)
      | _ => exact absurd hresult (by simp [readResult])
  · trivial

theorem gapsReported_always [BoundedDtringfifo F] {b : Backend R} (hb : b.hasMutex = true)
    (self : StreamRx F) (events : List (Event Unit R)) :
    Run.AllStates (Ledger.step b) (fun s => GapsReported s.2.trace)
      (.start self, .initial self.rxFifo) events := by
  have hinit : MutexGapInv (State.start self, Ledger.initial self.rxFifo) := by
    refine ⟨gapInv_initial self, fun hover => ?_, fun hpop => ?_, fun _ => rfl⟩
    · exact absurd hover (by simp [State.start, RxPc.overflowed])
    · exact absurd hpop (by simp [State.start, ReaderPc.isPopping])
  refine (Run.allStates_of_invariant
    (P := fun s : State Unit F × Ledger => MutexGapInv s ∧ GapsReported s.2.trace) ?_ events _
    ⟨hinit, gapsReported_nil⟩).imp fun s hi => hi.2
  rintro s e s' ⟨hi, hg⟩ h
  exact ⟨hi.step hb h, ((hi.toGapInv.step h).2 hg).2 (hi.popsNoLateByte e)⟩

/-- **Exact condition.** For every FIFO and its contents, every sequence of chunks and every
    interleaving of the task with one reader: what the reads return is, in order, among what was
    received; in the TCP and the TTY backend every gap is reported before anything after it is
    returned exactly when no pop takes a byte that was stored after its read tested the flag and
    while a drop was not reported; in the CAN backend every gap is. -/
theorem receive_gap_exact [BoundedDtringfifo F] (addDropped : ℤ → ℤ → ℤ) (self : StreamRx F) :
    (∀ events,
      Run.AllStates (Ledger.step (DtioxLinuxTcp.stream addDropped)) ReturnsReceived
          (.start self, .initial self.rxFifo) events ∧
        (Run.AllStates (Ledger.step (DtioxLinuxTcp.stream addDropped))
            (fun s => GapsReported s.2.trace) (.start self, .initial self.rxFifo) events
          ↔ Run.AllSteps (Ledger.step (DtioxLinuxTcp.stream addDropped))
            (PopsNoLateByte (DtioxLinuxTcp.stream addDropped))
            (.start self, .initial self.rxFifo) events)) ∧
    (∀ events,
      Run.AllStates (Ledger.step DtioxLinuxTty.stream) ReturnsReceived
          (.start self, .initial self.rxFifo) events ∧
        (Run.AllStates (Ledger.step DtioxLinuxTty.stream) (fun s => GapsReported s.2.trace)
            (.start self, .initial self.rxFifo) events
          ↔ Run.AllSteps (Ledger.step DtioxLinuxTty.stream) (PopsNoLateByte DtioxLinuxTty.stream)
            (.start self, .initial self.rxFifo) events)) ∧
    ∀ events,
      Run.AllStates (Ledger.step DtioxLinuxCanbus.stream) ReturnsReceived
          (.start self, .initial self.rxFifo) events ∧
        Run.AllStates (Ledger.step DtioxLinuxCanbus.stream) (fun s => GapsReported s.2.trace)
          (.start self, .initial self.rxFifo) events := by
  refine ⟨fun events => ?_, fun events => ?_, fun events => ?_⟩
  · exact ⟨returnsReceived_always _ self events, gapsReported_iff rfl self events⟩
  · exact ⟨returnsReceived_always _ self events, gapsReported_iff rfl self events⟩
  · exact ⟨returnsReceived_always _ self events, gapsReported_always rfl self events⟩

/-- An object that is attached, with an empty FIFO of four bytes. -/
def fourByteStream : StreamRx ByteFifo where
  rxFifo := ⟨4, []⟩
  rxOverflowFlag := false
  fifoDroppedBytes := 0
  rxEnabled := true
  rxSemaphore := false
  rxPosts := 0

/-- A byte is dropped; before the flag is set, one read pops two bytes and the next one tests the
    flag; two more bytes are stored before that read pops. -/
def lateBytesRun : List (Event Unit { bs : List UInt8 // bs.length ≤ 256 }) :=
  [.received ⟨[1, 2, 3, 4, 5], by decide⟩, .test () 2, .pop (), .test () 8, .recorded,
    .received ⟨[6, 7], by decide⟩, .pop ()]

/-- The read returns the bytes on both sides of the gap. -/
theorem gap_not_reported :
    ¬∀ events, Run.AllStates (Ledger.step DtioxLinuxTty.stream) (fun s => GapsReported s.2.trace)
      (.start fourByteStream, .initial fourByteStream.rxFifo) events := by
  intro h
  have hlast := fun t => (h lateBytesRun).last (t := t)
  have hreport := hlast _ rfl [.returned 6 7]
    [.returned 3 4, .returned 2 3, .returned 1 2, .returned 0 1] [] 4 5 6 rfl (by decide)
  exact absurd hreport (by decide)

end DtioxStream
