import DtmcLinux.Dtbufferqueue.Refinement
import DtmcLinux.Foundation.WakeupBalance

set_option autoImplicit false

/-! # The buffer queue loses no wake-up

A getter sleeps on `cv_not_empty` and a putter on `cv_not_full`; each enqueue signals the first and
each dequeue the second. `items` and `room` below say that the two condition variables cover the
buffers in the queue and the free places, so a thread that no signal has reached is never left
asleep in front of work that nobody else is on the way to.

The threads may interleave in any way, time out, and wake without a signal. One thing is assumed of
the pthread library: the wait of a thread that a signal has reached returns `0`. It does not report
a timeout, and every other error of a wait is found before the thread goes to sleep. -/

namespace Dtbufferqueue

open Posix

variable {τ β : Type*}

/-- Asleep in `dtbufferqueue_get`. -/
def Activity.IsGetting : Activity β → Prop
  | .idle => False
  | .putting _ _ _ => False
  | .getting _ _ => True

/-- Asleep in `dtbufferqueue_put`. -/
def Activity.IsPutting : Activity β → Prop
  | .idle => False
  | .putting _ _ _ => True
  | .getting _ _ => False

theorem Activity.IsPutting.not_isGetting {a : Activity β} (h : a.IsPutting) : ¬a.IsGetting := by
  cases a with
  | idle => exact id
  | putting _ _ _ => exact id
  | getting _ _ => exact absurd h id

/-- The free places: `max_count - count`, with `max_count` as the code compares it. -/
def Queue.room (q : Queue β) : ℕ := q.maxCount.toUInt32.toNat - q.count.toNat

namespace State

/-- Thread `t` is blocked in `dtbufferqueue_get`. -/
def Getting (s : State τ β) (t : τ) : Prop := (s.activity t).IsGetting

/-- Thread `t` is blocked in `dtbufferqueue_put`. -/
def Putting (s : State τ β) (t : τ) : Prop := (s.activity t).IsPutting

end State

/-- No wake-up is lost: the signalled threads of each condition variable are blocked threads, each
    counted once, and while some blocked getter (putter) has not been signalled, the buffers (free
    places) are at most as many as the getters (putters) signalled and not yet resumed. -/
structure NoLostWakeup (s : State τ β) : Prop where
  signalled_getters : s.cvNotEmpty.signalled.Nodup ∧ ∀ t ∈ s.cvNotEmpty.signalled, s.Getting t
  signalled_putters : s.cvNotFull.signalled.Nodup ∧ ∀ t ∈ s.cvNotFull.signalled, s.Putting t
  getters : (∃ t, s.Getting t ∧ t ∉ s.cvNotEmpty.signalled) →
    s.queue.count.toNat ≤ s.cvNotEmpty.signalled.length
  putters : (∃ t, s.Putting t ∧ t ∉ s.cvNotFull.signalled) →
    s.queue.maxCount.toUInt32.toNat - s.queue.count.toNat ≤ s.cvNotFull.signalled.length

/-- The wait of a signalled thread returns `0`. -/
def SignalledReturns (s : State τ β) : Event τ β → Prop
  | .put _ _ _ _ _ _ _ => True
  | .get _ _ _ _ _ _ _ => True
  | .wake t rc _ => t ∈ s.cvNotEmpty.signalled ∨ t ∈ s.cvNotFull.signalled → rc = 0

instance SignalledReturns.decidable [DecidableEq τ] (s : State τ β) (e : Event τ β) :
    Decidable (SignalledReturns s e) :=
  match e with
  | .put _ _ _ _ _ _ _ => inferInstanceAs (Decidable True)
  | .get _ _ _ _ _ _ _ => inferInstanceAs (Decidable True)
  | .wake t rc _ =>
    inferInstanceAs
      (Decidable (t ∈ s.cvNotEmpty.signalled ∨ t ∈ s.cvNotFull.signalled → rc = 0))

/-! ## The critical sections -/

/-- How far a critical section of `dtbufferqueue_put` changes the number of buffers: it waits only
    in front of a full queue and enqueues only into one that is not. -/
def PutEnd.Balanced (q : Queue β) : PutEnd β → Prop
  | .wait _ _ _ => q.isFull = true
  | .enqueued q' buffer _ => q.isFull = false ∧ q' = q.enqueue buffer
  | .returned _ _ => True

/-- How far a critical section of `dtbufferqueue_get` changes the number of buffers. -/
def GetEnd.Balanced (q : Queue β) : GetEnd β → Prop
  | .wait _ _ => q.count = 0
  | .dequeued q' _ _ => q.count ≠ 0 ∧ q' = q.dequeue
  | .returned _ _ => True

theorem PutCases.balanced {DTTIMEOUT_FOREVER timeoutMillis : Int32} {q : Queue β}
    {arg : Option β} {wasTimeout : Option Bool} {lockRc : Rc} {now : Timespec} {r : PutEnd β}
    (h : PutCases DTTIMEOUT_FOREVER q timeoutMillis wasTimeout lockRc now arg r) :
    r.Balanced q := by
  cases h with
  | noBuffer | lockFails | refused => exact trivial
  | waits _ _ _ _ hfull => exact hfull
  | enqueues _ _ hroom => exact ⟨hroom, rfl⟩

theorem PutWakeCases.balanced {q : Queue β} {buffer : β} {deadline : Option Timespec}
    {wasTimeout : Option Bool} {rc : Rc} {r : PutEnd β}
    (h : PutWakeCases q buffer deadline wasTimeout rc r) : r.Balanced q := by
  cases h with
  | timedOut | waitFails => exact trivial
  | waits _ hfull => exact hfull
  | enqueues _ hroom => exact ⟨hroom, rfl⟩

/-- A put whose wait returned `0` looks at the queue again: it does not return empty-handed. -/
theorem PutWakeCases.ne_returned {q : Queue β} {buffer : β} {deadline : Option Timespec}
    {wasTimeout : Option Bool} {r : PutEnd β}
    (h : PutWakeCases q buffer deadline wasTimeout 0 r) (dterr : Option Dterr)
    (wt : Option Bool) : r ≠ .returned dterr wt := by
  cases h with
  | timedOut _ _ hrc => exact absurd hrc (by decide)
  | waitFails _ hrc => exact absurd rfl hrc
  | waits => exact nofun
  | enqueues => exact nofun

theorem GetCases.balanced {DTTIMEOUT_FOREVER timeoutMillis : Int32} {q : Queue β}
    {bufferPtr : Bool} {wasTimeout : Option Bool} {lockRc : Rc} {now : Timespec} {r : GetEnd β}
    (h : GetCases DTTIMEOUT_FOREVER q timeoutMillis wasTimeout lockRc now bufferPtr r) :
    r.Balanced q := by
  cases h with
  | noBuffer | lockFails | refused => exact trivial
  | waits _ _ _ hempty => exact hempty
  | dequeues _ hsome => exact ⟨hsome, rfl⟩

theorem GetWakeCases.balanced {q : Queue β} {deadline : Option Timespec}
    {wasTimeout : Option Bool} {rc : Rc} {r : GetEnd β}
    (h : GetWakeCases q deadline wasTimeout rc r) : r.Balanced q := by
  cases h with
  | timedOut | waitFails => exact trivial
  | waits _ hempty => exact hempty
  | dequeues _ hsome => exact ⟨hsome, rfl⟩

/-- A get whose wait returned `0` looks at the queue again. -/
theorem GetWakeCases.ne_returned {q : Queue β} {deadline : Option Timespec}
    {wasTimeout : Option Bool} {r : GetEnd β} (h : GetWakeCases q deadline wasTimeout 0 r)
    (dterr : Option Dterr) (wt : Option Bool) : r ≠ .returned dterr wt := by
  cases h with
  | timedOut _ _ hrc => exact absurd hrc (by decide)
  | waitFails _ hrc => exact absurd rfl hrc
  | waits => exact nofun
  | dequeues => exact nofun

/-! ## The number of buffers

Whatever `max_count` is, the count never passes it: `enqueue` runs only when the two differ. -/

namespace Queue

variable {q : Queue β}

theorem count_enqueue (hle : q.count.toNat ≤ q.maxCount.toUInt32.toNat) (hfull : q.isFull = false)
    (b : β) : (q.enqueue b).count.toNat = q.count.toNat + 1 := by
  exact Counter32.toNat_succ (UInt32.lt_iff_toNat_lt.2 (count_lt_maxCount hle hfull))

theorem count_dequeue (hne : q.count ≠ 0) : q.dequeue.count.toNat + 1 = q.count.toNat :=
  Counter32.toNat_pred hne

theorem room_enqueue (hle : q.count.toNat ≤ q.maxCount.toUInt32.toNat) (hfull : q.isFull = false)
    (b : β) : (q.enqueue b).room = q.room - 1 := by
  rw [room, count_enqueue hle hfull b]
  exact (Nat.sub_sub _ _ 1).symm

theorem room_dequeue (hle : q.count.toNat ≤ q.maxCount.toUInt32.toNat) (hne : q.count ≠ 0) :
    q.dequeue.room = q.room + 1 := by
  have hcount := count_dequeue hne
  show q.maxCount.toUInt32.toNat - q.dequeue.count.toNat = _
  rw [room]
  omega

theorem room_of_full (hfull : q.isFull = true) : q.room = 0 := by
  have heq : q.count = q.maxCount.toUInt32 := by simpa [Queue.isFull] using hfull
  rw [room, heq, Nat.sub_self]

end Queue

/-! ## One step -/

/-- The invariant: each condition variable accounts for its sleeping threads, and covers the
    buffers or the free places. -/
structure Balanced (s : State τ β) : Prop where
  getters : s.cvNotEmpty.Account fun t => (s.activity t).IsGetting
  putters : s.cvNotFull.Account fun t => (s.activity t).IsPutting
  count_le : s.queue.count.toNat ≤ s.queue.maxCount.toUInt32.toNat
  items : s.cvNotEmpty.Covers s.queue.count.toNat
  room : s.cvNotFull.Covers s.queue.room

/-- The part of the invariant that holds while thread `t` is inside a critical section: both
    condition variables account for the other threads. -/
structure Running (s : State τ β) (t : τ) : Prop where
  getters : s.cvNotEmpty.Account fun t' => t' ≠ t ∧ (s.activity t').IsGetting
  putters : s.cvNotFull.Account fun t' => t' ≠ t ∧ (s.activity t').IsPutting
  count_le : s.queue.count.toNat ≤ s.queue.maxCount.toUInt32.toNat

/-- **No lost wake-up, from the invariant.** -/
theorem Balanced.noLostWakeup {s : State τ β} (h : Balanced s) : NoLostWakeup s where
  signalled_getters := ⟨h.getters.signalled_nodup, fun _ ht => h.getters.asleep_of_signalled ht⟩
  signalled_putters := ⟨h.putters.signalled_nodup, fun _ ht => h.putters.asleep_of_signalled ht⟩
  getters := by
    rintro ⟨t, ht, hns⟩
    exact h.items (List.ne_nil_of_mem (h.getters.mem_waiting ht hns))
  putters := by
    rintro ⟨t, ht, hns⟩
    exact h.room (List.ne_nil_of_mem (h.putters.mem_waiting ht hns))

theorem balanced_initial (q : Queue β) (hcount : q.count = 0) :
    Balanced (State.initial q : State τ β) where
  getters := .init fun _ h => h
  putters := .init fun _ h => h
  count_le := by
    show q.count.toNat ≤ _
    rw [hcount]
    exact Nat.zero_le _
  items := .init _
  room := .init _

/-- An idle thread enters its first critical section. -/
theorem Balanced.running {s : State τ β} (h : Balanced s) {t : τ} (ht : s.activity t = .idle) :
    Running s t where
  getters := h.getters.outside (by rw [ht]; exact id)
  putters := h.putters.outside (by rw [ht]; exact id)
  count_le := h.count_le

variable [DecidableEq τ]

/-- A sleeping putter re-enters. -/
theorem Balanced.running_putter {s : State τ β} (h : Balanced s) {t : τ} (ht : s.Putting t) :
    Running { s with cvNotFull := s.cvNotFull.resume t } t where
  getters := h.getters.outside ht.not_isGetting
  putters := h.putters.resume t
  count_le := h.count_le

/-- A sleeping getter re-enters. -/
theorem Balanced.running_getter {s : State τ β} (h : Balanced s) {t : τ} (ht : s.Getting t) :
    Running { s with cvNotEmpty := s.cvNotEmpty.resume t } t where
  getters := h.getters.resume t
  putters := h.putters.outside fun hp => hp.not_isGetting ht
  count_le := h.count_le

/-- The end of a critical section of put. While the thread is inside, the free places but one are
    covered; all of them are when it returns without having enqueued. -/
theorem Running.endPut {s s' : State τ β} {t : τ} (hrun : Running s t) (arg : Option β)
    (pick : Option τ) {r : PutEnd β} (hr : r.Balanced s.queue)
    (hitems : s.cvNotEmpty.Covers s.queue.count.toNat)
    (hroom : s.cvNotFull.Covers (s.queue.room - 1))
    (hreturn : ∀ dterr wasTimeout, r = .returned dterr wasTimeout →
      s.cvNotFull.Covers s.queue.room)
    (h : s.endPut t arg pick r = some s') : Balanced s' := by
  cases r with
  | wait buffer deadline wasTimeout =>
      obtain rfl := Option.some.inj h
      refine ⟨hrun.getters.leave id, hrun.putters.sleep trivial, hrun.count_le, hitems, ?_⟩
      show (s.cvNotFull.wait t).Covers s.queue.room
      rw [Queue.room_of_full hr]
      exact Cond.Covers.zero _
  | enqueued q' buffer wasTimeout =>
      obtain ⟨hfull, rfl⟩ := hr
      obtain ⟨cv, hcv, rfl⟩ := Option.map_eq_some_iff.1 h
      have hcount := Queue.count_enqueue hrun.count_le hfull buffer
      have hlt := Queue.count_lt_maxCount hrun.count_le hfull
      refine ⟨(hrun.getters.signal hcv).leave id, hrun.putters.leave id, ?_, ?_, ?_⟩
      · show (s.queue.enqueue buffer).count.toNat ≤ s.queue.maxCount.toUInt32.toNat
        rw [hcount]
        exact hlt
      · show cv.Covers (s.queue.enqueue buffer).count.toNat
        rw [hcount]
        exact hitems.signal hcv
      · show s.cvNotFull.Covers (s.queue.enqueue buffer).room
        rw [Queue.room_enqueue hrun.count_le hfull]
        exact hroom
  | returned dterr wasTimeout =>
      obtain rfl := Option.some.inj h
      exact ⟨hrun.getters.leave id, hrun.putters.leave id, hrun.count_le, hitems,
        hreturn dterr wasTimeout rfl⟩

/-- The end of a critical section of get. -/
theorem Running.endGet {s s' : State τ β} {t : τ} (hrun : Running s t) (pick : Option τ)
    {r : GetEnd β} (hr : r.Balanced s.queue)
    (hitems : s.cvNotEmpty.Covers (s.queue.count.toNat - 1))
    (hroom : s.cvNotFull.Covers s.queue.room)
    (hreturn : ∀ dterr wasTimeout, r = .returned dterr wasTimeout →
      s.cvNotEmpty.Covers s.queue.count.toNat)
    (h : s.endGet t pick r = some s') : Balanced s' := by
  cases r with
  | wait deadline wasTimeout =>
      obtain rfl := Option.some.inj h
      refine ⟨hrun.getters.sleep trivial, hrun.putters.leave id, hrun.count_le, ?_, hroom⟩
      show (s.cvNotEmpty.wait t).Covers s.queue.count.toNat
      have hempty : s.queue.count = 0 := hr
      rw [hempty]
      exact Cond.Covers.zero _
  | dequeued q' out wasTimeout =>
      obtain ⟨hne, rfl⟩ := hr
      obtain ⟨cv, hcv, rfl⟩ := Option.map_eq_some_iff.1 h
      have hcount := Queue.count_dequeue hne
      have hle := hrun.count_le
      refine ⟨hrun.getters.leave id, (hrun.putters.signal hcv).leave id, ?_, ?_, ?_⟩
      · show s.queue.dequeue.count.toNat ≤ s.queue.maxCount.toUInt32.toNat
        omega
      · show s.cvNotEmpty.Covers s.queue.dequeue.count.toNat
        exact hitems.mono (by omega)
      · show cv.Covers s.queue.dequeue.room
        rw [Queue.room_dequeue hle hne]
        exact hroom.signal hcv
  | returned dterr wasTimeout =>
      obtain rfl := Option.some.inj h
      exact ⟨hrun.getters.leave id, hrun.putters.leave id, hrun.count_le,
        hreturn dterr wasTimeout rfl, hroom⟩

/-- **Step lemma.** Every critical section keeps the two balances. -/
theorem step_balanced {DTTIMEOUT_FOREVER : Int32} {s s' : State τ β} {e : Event τ β}
    (hi : Balanced s) (hsig : SignalledReturns s e)
    (h : step DTTIMEOUT_FOREVER s e = some s') : Balanced s' := by
  cases step_cases h with
  | put hidle hcases hend =>
      exact (hi.running hidle).endPut _ _ hcases.balanced hi.items
        (hi.room.mono (Nat.sub_le _ _)) (fun _ _ _ => hi.room) hend
  | get hidle hcases hend =>
      exact (hi.running hidle).endGet _ hcases.balanced
        (hi.items.mono (Nat.sub_le _ _)) hi.room (fun _ _ _ => hi.items) hend
  | @putWake t _ _ _ _ _ _ ht hcases hend =>
      have hputting : s.Putting t := by
        rw [State.Putting, ht]
        trivial
      have hrun := hi.running_putter hputting
      by_cases hmem : t ∈ s.cvNotFull.signalled
      · -- a signalled putter cannot return empty-handed
        obtain rfl := hsig (Or.inr hmem)
        exact hrun.endPut _ _ hcases.balanced hi.items
          (hi.room.resume_signalled hi.putters hmem)
          (fun dterr wt hr => absurd hr (hcases.ne_returned dterr wt)) hend
      · have hroom := hi.room.resume_waiting hmem
        exact hrun.endPut _ _ hcases.balanced hi.items
          (hroom.mono (Nat.sub_le _ _)) (fun _ _ _ => hroom) hend
  | @getWake t _ _ _ _ _ ht hcases hend =>
      have hgetting : s.Getting t := by
        rw [State.Getting, ht]
        trivial
      have hrun := hi.running_getter hgetting
      by_cases hmem : t ∈ s.cvNotEmpty.signalled
      · obtain rfl := hsig (Or.inl hmem)
        exact hrun.endGet _ hcases.balanced
          (hi.items.resume_signalled hi.getters hmem) hi.room
          (fun dterr wt hr => absurd hr (hcases.ne_returned dterr wt)) hend
      · have hitems := hi.items.resume_waiting hmem
        exact hrun.endGet _ hcases.balanced (hitems.mono (Nat.sub_le _ _))
          hi.room (fun _ _ _ => hitems) hend

/-! ## Whole runs -/

/-- **No lost wake-up.** On a queue just created, with any `max_count`, any number of threads and
    any order of their critical sections, timeouts and spurious wake-ups, in every reachable state:
    while some getter is blocked and not signalled, the buffers in the queue are at most the getters
    signalled and not yet resumed; and while some putter is blocked and not signalled, the free
    places are at most the putters signalled and not yet resumed. -/
theorem no_lost_wakeup (DTTIMEOUT_FOREVER : Int32) (maxCount : Int32) (shouldOverwrite : Bool)
    (cells : ℕ) (events : List (Event τ β))
    (hsig : Run.AllSteps (step DTTIMEOUT_FOREVER) SignalledReturns
      (State.initial (created maxCount shouldOverwrite cells) : State τ β) events) :
    Run.AllStates (step DTTIMEOUT_FOREVER) NoLostWakeup
      (State.initial (created maxCount shouldOverwrite cells) : State τ β) events := by
  have hbalanced := Run.allStates_of_allSteps (fun s e s' hs hC h => step_balanced hs hC h) events _
    (balanced_initial (τ := τ) (created maxCount shouldOverwrite cells) rfl) hsig
  exact hbalanced.imp fun _ hs => hs.noLostWakeup

/-- Two getters sleep on an empty queue. The first put wakes one of them; before it resumes, a
    third thread takes the buffer, so that it goes back to sleep; the second put wakes the other
    one, while the first wakes without a signal. -/
def bargingRun : List (Event ℕ ℕ) :=
  [.get 1 true (-1) none 0 ⟨5, 0⟩ none,
    .get 2 true 1500 (some true) 0 ⟨5, 0⟩ none,
    .put 0 (some 10) 0 (some true) 0 ⟨5, 0⟩ (some 1),
    .get 3 true 0 none 0 ⟨6, 0⟩ none,
    .wake 1 0 none,
    .put 0 (some 20) (-1) none 0 ⟨6, 0⟩ (some 2),
    .wake 1 0 none]

theorem no_lost_wakeup_bargingRun :
    (Run.exec (step (-1)) (.initial (created 1 false 1)) bargingRun).isSome = true ∧
      Run.AllStates (step (-1)) NoLostWakeup
        (State.initial (created 1 false 1) : State ℕ ℕ) bargingRun :=
  ⟨by decide, no_lost_wakeup (-1) 1 false 1 bargingRun (by decide)⟩

end Dtbufferqueue
