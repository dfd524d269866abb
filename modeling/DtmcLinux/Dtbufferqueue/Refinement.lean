import DtmcLinux.Dtbufferqueue.Sections
import DtmcLinux.Foundation.Counter32
import DtmcLinux.Foundation.RingBuffer

set_option autoImplicit false

/-! # The buffer queue refines a bounded FIFO

The ring arithmetic first: under the representation invariant, `enqueue` appends to the contents of
the ring and `dequeue` removes their first element. Each critical section then changes the queue by
one of the two, or not at all; and over whole runs the history of the queue is a history of the
abstract bounded FIFO, which holds exactly the contents of the ring. -/

namespace Dtbufferqueue

open Posix

variable {τ β : Type*}

/-! ## The ring -/

/-- The representation invariant of a queue for `cap` buffers. -/
structure Queue.WellFormed (q : Queue β) (cap : ℕ) : Prop where
  cap_lt : cap < 2 ^ 31
  maxCount_eq : q.maxCount.toUInt32.toNat = cap
  ring_length : q.ring.length = cap
  count_le : q.count.toNat ≤ cap
  head_lt : q.head.toNat < cap
  tail_eq : q.tail.toNat = (q.head.toNat + q.count.toNat) % cap

/-- The buffers in the queue, oldest first, read from `head`. -/
def Queue.contents (q : Queue β) : List (Option β) :=
  RingBuffer.contents q.ring q.maxCount.toUInt32.toNat q.head.toNat q.count.toNat

/-- A queue that is not full has room, whatever its `max_count` is. -/
theorem Queue.count_lt_maxCount {q : Queue β} (hle : q.count.toNat ≤ q.maxCount.toUInt32.toNat)
    (hfull : q.isFull = false) : q.count.toNat < q.maxCount.toUInt32.toNat := by
  refine Nat.lt_of_le_of_ne hle fun heq => ?_
  rw [Queue.isFull, UInt32.toNat_inj.1 heq, beq_self_eq_true] at hfull
  exact absurd hfull (by decide)

namespace Queue.WellFormed

variable {q : Queue β} {cap : ℕ}

theorem tail_lt (h : q.WellFormed cap) : q.tail.toNat < cap := by
  rw [h.tail_eq]
  exact Nat.mod_lt _ (Nat.lt_of_le_of_lt (Nat.zero_le _) h.head_lt)

theorem contents_eq (h : q.WellFormed cap) :
    q.contents = RingBuffer.contents q.ring cap q.head.toNat q.count.toNat := by
  rw [Queue.contents, h.maxCount_eq]

theorem length_contents (h : q.WellFormed cap) : q.contents.length ≤ cap := by
  rw [Queue.contents, RingBuffer.length_contents]
  exact h.count_le

theorem count_lt_of_not_full (h : q.WellFormed cap) (hfull : q.isFull = false) :
    q.count.toNat < cap := by
  have hle := h.count_le
  rw [← h.maxCount_eq] at hle ⊢
  exact Queue.count_lt_maxCount hle hfull

theorem cap_lt_size (h : q.WellFormed cap) : cap < 2 ^ 32 := Nat.lt_trans h.cap_lt (by decide)

/-- Advancing an index of the ring by one does not overflow. -/
theorem next_index (h : q.WellFormed cap) (i : UInt32) (hi : i.toNat < cap) :
    ((i + 1) % q.maxCount.toUInt32).toNat = (i.toNat + 1) % cap := by
  rw [UInt32.toNat_mod, h.maxCount_eq, Counter32.toNat_succ_of_lt hi h.cap_lt_size]

theorem enqueue (h : q.WellFormed cap) (hroom : q.count.toNat < cap) (b : β) :
    (q.enqueue b).WellFormed cap := by
  have hcount := Counter32.toNat_succ_of_lt hroom h.cap_lt_size
  refine ⟨h.cap_lt, h.maxCount_eq, ?_, ?_, h.head_lt, ?_⟩
  · show (q.ring.set q.tail.toNat (some b)).length = cap
    rw [List.length_set, h.ring_length]
  · show (q.count + 1).toNat ≤ cap
    rw [hcount]
    exact hroom
  · show ((q.tail + 1) % q.maxCount.toUInt32).toNat = (q.head.toNat + (q.count + 1).toNat) % cap
    rw [h.next_index q.tail h.tail_lt, hcount, h.tail_eq, Nat.mod_add_mod, Nat.add_assoc]

theorem contents_enqueue (h : q.WellFormed cap) (hroom : q.count.toNat < cap) (b : β) :
    (q.enqueue b).contents = q.contents ++ [some b] := by
  have hcount := Counter32.toNat_succ_of_lt hroom h.cap_lt_size
  rw [(h.enqueue hroom b).contents_eq, h.contents_eq]
  show RingBuffer.contents (q.ring.set q.tail.toNat (some b)) cap q.head.toNat (q.count + 1).toNat
    = _
  rw [h.tail_eq, hcount]
  exact RingBuffer.contents_set (some b) h.ring_length hroom

theorem dequeue (h : q.WellFormed cap) (hne : q.count ≠ 0) : q.dequeue.WellFormed cap := by
  have hpos : 0 < cap := Nat.lt_of_le_of_lt (Nat.zero_le _) h.head_lt
  have hcount := Counter32.toNat_pred hne
  have hle := h.count_le
  refine ⟨h.cap_lt, h.maxCount_eq, h.ring_length, ?_, ?_, ?_⟩
  · show (q.count - 1).toNat ≤ cap
    omega
  · show ((q.head + 1) % q.maxCount.toUInt32).toNat < cap
    rw [h.next_index q.head h.head_lt]
    exact Nat.mod_lt _ hpos
  · show q.tail.toNat = (((q.head + 1) % q.maxCount.toUInt32).toNat + (q.count - 1).toNat) % cap
    rw [h.next_index q.head h.head_lt, h.tail_eq, Nat.mod_add_mod]
    congr 1
    omega

theorem contents_dequeue (h : q.WellFormed cap) (hne : q.count ≠ 0) :
    q.contents = q.front :: q.dequeue.contents := by
  have hcount := Counter32.toNat_pred hne
  rw [h.contents_eq, (h.dequeue hne).contents_eq, ← hcount,
    RingBuffer.contents_succ q.ring h.head_lt]
  show q.ring[q.head.toNat]! :: _ = q.ring[q.head.toNat]! :: RingBuffer.contents q.ring cap
    ((q.head + 1) % q.maxCount.toUInt32).toNat (q.count - 1).toNat
  rw [h.next_index q.head h.head_lt]

end Queue.WellFormed

/-- A queue created with its whole ring allocated is well formed. -/
theorem created_wellFormed (maxCount : Int32) (shouldOverwrite : Bool) (hmax : 1 ≤ maxCount) :
    (created maxCount shouldOverwrite maxCount.toNatClampNeg : Queue β).WellFormed
      maxCount.toNatClampNeg := by
  have hle : (1 : ℤ) ≤ maxCount.toInt := Int32.le_iff_toInt_le.1 hmax
  have hpos : 0 < maxCount.toNatClampNeg := by
    rw [Int32.toNatClampNeg]
    omega
  have hne : maxCount ≠ 0 := by
    rintro rfl
    exact absurd hmax (by decide)
  have hnonneg : 0 ≤ maxCount := by
    refine Int32.le_iff_toInt_le.2 ?_
    show (0 : ℤ) ≤ maxCount.toInt
    omega
  refine ⟨maxCount.toNatClampNeg_lt, ?_, List.length_replicate, Nat.zero_le _, hpos, ?_⟩
  · rw [created, if_neg hne, Int32.toNat_toUInt32_of_le hnonneg]
  · exact (Nat.zero_mod _).symm

theorem created_contents (maxCount : Int32) (shouldOverwrite : Bool) (cells : ℕ) :
    (created maxCount shouldOverwrite cells : Queue β).contents = [] :=
  RingBuffer.contents_zero _ _ _

/-! ## The critical sections -/

/-- What a critical section of `dtbufferqueue_put` called with `arg` can do: wait, enqueue its
    buffer into a queue that is not full, or return an error or a timeout. -/
def PutEnd.Allowed (q : Queue β) (arg : Option β) : PutEnd β → Prop
  | .wait buffer _ wasTimeout => arg = some buffer ∧ wasTimeout ≠ some true
  | .enqueued q' buffer wasTimeout =>
    arg = some buffer ∧ q.isFull = false ∧ q' = q.enqueue buffer ∧ wasTimeout ≠ some true
  | .returned dterr wasTimeout => dterr ≠ none ∨ wasTimeout ≠ some false

/-- What a critical section of `dtbufferqueue_get` can do. -/
def GetEnd.Allowed (q : Queue β) : GetEnd β → Prop
  | .wait _ wasTimeout => wasTimeout ≠ some true
  | .dequeued q' out wasTimeout =>
    q.count ≠ 0 ∧ q' = q.dequeue ∧ out = q.front ∧ wasTimeout ≠ some true
  | .returned dterr wasTimeout => dterr ≠ none ∨ wasTimeout ≠ some false

theorem setTimeout_ne (wasTimeout : Option Bool) : setTimeout wasTimeout ≠ some false := by
  cases wasTimeout <;> simp [setTimeout]

theorem map_false_ne (wasTimeout : Option Bool) :
    wasTimeout.map (fun _ => false) ≠ some true := by
  cases wasTimeout <;> simp

theorem PutCases.allowed {DTTIMEOUT_FOREVER timeoutMillis : Int32} {q : Queue β} {arg : Option β}
    {wasTimeout : Option Bool} {lockRc : Rc} {now : Timespec} {r : PutEnd β}
    (h : PutCases DTTIMEOUT_FOREVER q timeoutMillis wasTimeout lockRc now arg r) :
    r.Allowed q arg := by
  cases h with
  | noBuffer dterr | lockFails buffer dterr => exact Or.inl (Option.some_ne_none dterr)
  | refused => exact Or.inr (setTimeout_ne _)
  | waits => exact ⟨rfl, map_false_ne _⟩
  | enqueues buffer _ hroom => exact ⟨rfl, hroom, rfl, map_false_ne _⟩

theorem PutWakeCases.allowed {q : Queue β} {buffer : β} {deadline : Option Timespec}
    {wasTimeout : Option Bool} {rc : Rc} {r : PutEnd β}
    (h : PutWakeCases q buffer deadline wasTimeout rc r) (hwt : wasTimeout ≠ some true) :
    r.Allowed q (some buffer) := by
  cases h with
  | timedOut => exact Or.inr (setTimeout_ne _)
  | waitFails dterr => exact Or.inl (Option.some_ne_none dterr)
  | waits => exact ⟨rfl, hwt⟩
  | enqueues _ hroom => exact ⟨rfl, hroom, rfl, hwt⟩

theorem GetCases.allowed {DTTIMEOUT_FOREVER timeoutMillis : Int32} {q : Queue β} {bufferPtr : Bool}
    {wasTimeout : Option Bool} {lockRc : Rc} {now : Timespec} {r : GetEnd β}
    (h : GetCases DTTIMEOUT_FOREVER q timeoutMillis wasTimeout lockRc now bufferPtr r) :
    r.Allowed q := by
  cases h with
  | noBuffer dterr | lockFails dterr => exact Or.inl (Option.some_ne_none dterr)
  | refused => exact Or.inr (setTimeout_ne _)
  | waits => exact map_false_ne _
  | dequeues _ hsome => exact ⟨hsome, rfl, rfl, map_false_ne _⟩

theorem GetWakeCases.allowed {q : Queue β} {deadline : Option Timespec} {wasTimeout : Option Bool}
    {rc : Rc} {r : GetEnd β} (h : GetWakeCases q deadline wasTimeout rc r)
    (hwt : wasTimeout ≠ some true) : r.Allowed q := by
  cases h with
  | timedOut => exact Or.inr (setTimeout_ne _)
  | waitFails dterr => exact Or.inl (Option.some_ne_none dterr)
  | waits => exact hwt
  | dequeues _ hsome => exact ⟨hsome, rfl, rfl, hwt⟩

/-! ## One step -/

/-- A waiting call has not reported a timeout. -/
def Activity.Pending : Activity β → Prop
  | .idle => True
  | .putting _ _ wasTimeout => wasTimeout ≠ some true
  | .getting _ wasTimeout => wasTimeout ≠ some true

/-- The buffers that gets have returned, in order. -/
def gotten (returns : List (Return τ β)) : List (Option β) :=
  returns.filterMap fun
    | .put _ _ _ _ => none
    | .get _ buffer _ _ => buffer

theorem gotten_append (returns : List (Return τ β)) (r : Return τ β) :
    gotten (returns ++ [r]) = gotten returns ++ gotten [r] := List.filterMap_append

/-- The invariant of the system for a queue of `cap` buffers: the ring is well formed, its
    contents are what the abstract FIFO holds after the history so far, and the buffers returned
    are the buffers popped. -/
structure Inv (cap : ℕ) (s : State τ β) : Prop where
  wf : s.queue.WellFormed cap
  replay : Fifo.Replay cap s.history s.queue.contents
  gotten_eq : gotten s.returns = Fifo.popped s.history
  pending : ∀ t, (s.activity t).Pending

/-- What a step does to the contents of the queue, and what a call returns with it. -/
inductive Effect (s s' : State τ β) : Prop where
  /-- an enqueuing put appends its buffer -/
  | enqueued (t : τ) (b : β) (wasTimeout : Option Bool) (hwt : wasTimeout ≠ some true)
      (hret : s'.returns = s.returns ++ [.put t (some b) none wasTimeout])
      (hhist : s'.history = s.history ++ [.push (some b)])
      (hcont : s'.queue.contents = s.queue.contents ++ [some b])
  /-- a dequeuing get removes the first buffer and returns it -/
  | dequeued (t : τ) (out : Option β) (wasTimeout : Option Bool) (hwt : wasTimeout ≠ some true)
      (hret : s'.returns = s.returns ++ [.get t (some out) none wasTimeout])
      (hhist : s'.history = s.history ++ [.pop out])
      (hcont : s.queue.contents = out :: s'.queue.contents)
  /-- a call goes to sleep -/
  | waits (hqueue : s'.queue = s.queue) (hhist : s'.history = s.history)
      (hret : s'.returns = s.returns)
  /-- a put returns an error or a timeout -/
  | putFailed (t : τ) (arg : Option β) (dterr : Option Dterr) (wasTimeout : Option Bool)
      (hfail : dterr ≠ none ∨ wasTimeout ≠ some false) (hqueue : s'.queue = s.queue)
      (hhist : s'.history = s.history)
      (hret : s'.returns = s.returns ++ [.put t arg dterr wasTimeout])
  /-- a get returns an error or a timeout, and stores nothing in `*buffer` -/
  | getFailed (t : τ) (dterr : Option Dterr) (wasTimeout : Option Bool)
      (hfail : dterr ≠ none ∨ wasTimeout ≠ some false) (hqueue : s'.queue = s.queue)
      (hhist : s'.history = s.history)
      (hret : s'.returns = s.returns ++ [.get t none dterr wasTimeout])

/-- The effect does not depend on the threads and condition variables of the first state. -/
theorem Effect.frame {s r s' : State τ β} (h : Effect r s') (hqueue : r.queue = s.queue)
    (hhist : r.history = s.history) (hret : r.returns = s.returns) : Effect s s' := by
  cases h with
  | enqueued t b wt hwt hr hh hc =>
      exact .enqueued t b wt hwt (hret ▸ hr) (hhist ▸ hh) (hqueue ▸ hc)
  | dequeued t out wt hwt hr hh hc =>
      exact .dequeued t out wt hwt (hret ▸ hr) (hhist ▸ hh) (hqueue ▸ hc)
  | waits hq hh hr => exact .waits (hqueue ▸ hq) (hhist ▸ hh) (hret ▸ hr)
  | putFailed t arg dterr wt hf hq hh hr =>
      exact .putFailed t arg dterr wt hf (hqueue ▸ hq) (hhist ▸ hh) (hret ▸ hr)
  | getFailed t dterr wt hf hq hh hr =>
      exact .getFailed t dterr wt hf (hqueue ▸ hq) (hhist ▸ hh) (hret ▸ hr)

variable [DecidableEq τ]

theorem pending_set {s : State τ β} (h : ∀ t, (s.activity t).Pending) (t : τ) {a : Activity β}
    (ha : a.Pending) : ∀ t', ((s.setActivity t a).activity t').Pending := by
  intro t'
  show (if t' = t then a else s.activity t').Pending
  split
  · exact ha
  · exact h t'

theorem endPut_spec {cap : ℕ} {s s' : State τ β} (hi : Inv cap s) (t : τ) (arg : Option β)
    (pick : Option τ) {r : PutEnd β} (hr : r.Allowed s.queue arg)
    (h : s.endPut t arg pick r = some s') : Inv cap s' ∧ Effect s s' := by
  cases r with
  | wait buffer deadline wasTimeout =>
      obtain rfl := Option.some.inj h
      exact ⟨⟨hi.wf, hi.replay, hi.gotten_eq, pending_set hi.pending t hr.2⟩, .waits rfl rfl rfl⟩
  | enqueued q' buffer wasTimeout =>
      obtain ⟨rfl, hfull, rfl, hwt⟩ := hr
      obtain ⟨cv, -, rfl⟩ := Option.map_eq_some_iff.1 h
      have hroom := hi.wf.count_lt_of_not_full hfull
      have hcont := hi.wf.contents_enqueue hroom buffer
      refine ⟨⟨hi.wf.enqueue hroom buffer, hi.replay.step ?_, ?_, pending_set hi.pending t trivial⟩,
        .enqueued t buffer wasTimeout hwt rfl rfl hcont⟩
      swap
      · show gotten (s.returns ++ [.put t (some buffer) none wasTimeout])
          = Fifo.popped (s.history ++ [.push (some buffer)])
        rw [gotten_append, hi.gotten_eq, Fifo.popped_append_push]
        exact List.append_nil _
      show Fifo.Step cap s.queue.contents (.push (some buffer)) (s.queue.enqueue buffer).contents
      rw [hcont]
      refine .push _ _ ?_
      rwa [Queue.contents, RingBuffer.length_contents]
  | returned dterr wasTimeout =>
      obtain rfl := Option.some.inj h
      refine ⟨⟨hi.wf, hi.replay, ?_, pending_set hi.pending t trivial⟩,
        .putFailed t arg dterr wasTimeout hr rfl rfl rfl⟩
      show gotten (s.returns ++ [.put t arg dterr wasTimeout]) = Fifo.popped s.history
      rw [gotten_append, hi.gotten_eq]
      exact List.append_nil _

theorem endGet_spec {cap : ℕ} {s s' : State τ β} (hi : Inv cap s) (t : τ) (pick : Option τ)
    {r : GetEnd β} (hr : r.Allowed s.queue) (h : s.endGet t pick r = some s') :
    Inv cap s' ∧ Effect s s' := by
  cases r with
  | wait deadline wasTimeout =>
      obtain rfl := Option.some.inj h
      exact ⟨⟨hi.wf, hi.replay, hi.gotten_eq, pending_set hi.pending t hr⟩, .waits rfl rfl rfl⟩
  | dequeued q' out wasTimeout =>
      obtain ⟨hne, rfl, rfl, hwt⟩ := hr
      obtain ⟨cv, -, rfl⟩ := Option.map_eq_some_iff.1 h
      have hcont := hi.wf.contents_dequeue hne
      refine ⟨⟨hi.wf.dequeue hne, hi.replay.step ?_, ?_, pending_set hi.pending t trivial⟩,
        .dequeued t s.queue.front wasTimeout hwt rfl rfl hcont⟩
      swap
      · show gotten (s.returns ++ [.get t (some s.queue.front) none wasTimeout])
          = Fifo.popped (s.history ++ [.pop s.queue.front])
        rw [gotten_append, hi.gotten_eq, Fifo.popped_append_pop]
        rfl
      show Fifo.Step cap s.queue.contents (.pop s.queue.front) s.queue.dequeue.contents
      rw [hcont]
      exact .pop _ _
  | returned dterr wasTimeout =>
      obtain rfl := Option.some.inj h
      refine ⟨⟨hi.wf, hi.replay, ?_, pending_set hi.pending t trivial⟩,
        .getFailed t dterr wasTimeout hr rfl rfl rfl⟩
      show gotten (s.returns ++ [.get t none dterr wasTimeout]) = Fifo.popped s.history
      rw [gotten_append, hi.gotten_eq]
      exact List.append_nil _

/-- **Step lemma.** Every critical section keeps the invariant and has one of the five effects. -/
theorem step_spec {DTTIMEOUT_FOREVER : Int32} {cap : ℕ} {s s' : State τ β} {e : Event τ β}
    (hi : Inv cap s) (h : step DTTIMEOUT_FOREVER s e = some s') : Inv cap s' ∧ Effect s s' := by
  cases step_cases h with
  | put _ hcases hend => exact endPut_spec hi _ _ _ hcases.allowed hend
  | get _ hcases hend => exact endGet_spec hi _ _ hcases.allowed hend
  | @putWake t _ _ _ _ _ _ hputting hcases hend =>
      have hpending := hi.pending t
      rw [hputting] at hpending
      have hi' : Inv cap { s with cvNotFull := s.cvNotFull.resume t } :=
        ⟨hi.wf, hi.replay, hi.gotten_eq, hi.pending⟩
      obtain ⟨hinv, heffect⟩ := endPut_spec hi' t _ _ (hcases.allowed hpending) hend
      exact ⟨hinv, heffect.frame rfl rfl rfl⟩
  | @getWake t _ _ _ _ _ hgetting hcases hend =>
      have hpending := hi.pending t
      rw [hgetting] at hpending
      have hi' : Inv cap { s with cvNotEmpty := s.cvNotEmpty.resume t } :=
        ⟨hi.wf, hi.replay, hi.gotten_eq, hi.pending⟩
      obtain ⟨hinv, heffect⟩ := endGet_spec hi' t _ (hcases.allowed hpending) hend
      exact ⟨hinv, heffect.frame rfl rfl rfl⟩

/-! ## Whole runs -/

/-- **Refinement.** A queue created for `maxCount ≥ 1` buffers with its whole ring allocated is a
    bounded FIFO, for any number of threads and any order of their critical sections. In every
    reachable state the indices describe a ring of `maxCount` cells, the history of the queue is
    one of the abstract FIFO, ending with the contents of the ring, and so the buffers returned by
    gets are, in order, a prefix of the buffers enqueued, the rest being the contents; and every
    critical section appends one buffer, removes the first one, or leaves the queue unchanged. -/
theorem refines_fifo (DTTIMEOUT_FOREVER : Int32) (maxCount : Int32) (shouldOverwrite : Bool)
    (hmax : 1 ≤ maxCount) (events : List (Event τ β)) (s : State τ β)
    (hrun : Run.exec (step DTTIMEOUT_FOREVER)
      (.initial (created maxCount shouldOverwrite maxCount.toNatClampNeg)) events = some s) :
    (s.queue.count.toNat ≤ maxCount.toNatClampNeg ∧
      s.queue.head.toNat < maxCount.toNatClampNeg ∧
      s.queue.tail.toNat < maxCount.toNatClampNeg ∧
      s.queue.tail.toNat = (s.queue.head.toNat + s.queue.count.toNat) % maxCount.toNatClampNeg) ∧
    Fifo.Replay maxCount.toNatClampNeg s.history s.queue.contents ∧
    Fifo.pushed s.history = gotten s.returns ++ s.queue.contents ∧
    ∀ e s', step DTTIMEOUT_FOREVER s e = some s' → Effect s s' := by
  have hinit : Inv maxCount.toNatClampNeg
      (State.initial (created maxCount shouldOverwrite maxCount.toNatClampNeg) : State τ β) := by
    refine ⟨created_wellFormed maxCount shouldOverwrite hmax, ?_, rfl, fun _ => trivial⟩
    show Fifo.Replay _ [] (created _ _ _ : Queue β).contents
    rw [created_contents]
    exact .empty
  have hi := Run.exec_invariant (fun _ _ _ hs h => (step_spec hs h).1) hinit hrun
  refine ⟨⟨hi.wf.count_le, hi.wf.head_lt, hi.wf.tail_lt, hi.wf.tail_eq⟩, hi.replay, ?_,
    fun e s' h => (step_spec hi h).2⟩
  rw [hi.gotten_eq]
  exact hi.replay.pushed_eq

/-- Two threads on a queue for two buffers: the ring wraps, a put sleeps while it is full, and is
    woken by the get that makes room. -/
def wrapRun : List (Event ℕ ℕ) :=
  [.put 0 (some 10) 0 (some true) 0 ⟨5, 0⟩ none,
    .put 0 (some 20) (-1) none 0 ⟨5, 0⟩ none,
    .put 0 (some 30) 1500 (some true) 0 ⟨5, 0⟩ none,
    .get 1 true 0 none 0 ⟨6, 0⟩ (some 0),
    .wake 0 0 none]

theorem refines_fifo_wrapRun :
    ∃ s : State ℕ ℕ, Run.exec (step (-1))
        (.initial (created 2 false (Int32.toNatClampNeg 2))) wrapRun = some s ∧
      s.queue.contents = [some 20, some 30] ∧
      Fifo.pushed s.history = gotten s.returns ++ s.queue.contents := by
  have hcontents : (Run.exec (step (-1)) (.initial (created 2 false (Int32.toNatClampNeg 2)))
      wrapRun).map (·.queue.contents) = some [some 20, some 30] := by decide
  obtain ⟨s, hs, hc⟩ := Option.map_eq_some_iff.1 hcontents
  exact ⟨s, hs, hc, (refines_fifo (-1) 2 false (by decide) wrapRun s hs).2.2.1⟩

end Dtbufferqueue
