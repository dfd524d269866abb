import DtmcLinux.Dtbufferqueue.System

set_option autoImplicit false

/-! # The critical sections of the buffer queue

All the ways in which a critical section of `dtbufferqueue_put` or `dtbufferqueue_get` can end, each
with what has led to it. Every property of the queue is read off these. -/

namespace Dtbufferqueue

open Posix

variable {τ β : Type*}

/-! ## Put -/

/-- The ways through `dtbufferqueue_put` up to its return or its first wait. -/
inductive PutCases (DTTIMEOUT_FOREVER : Int32) (q : Queue β) (timeoutMillis : Int32)
    (wasTimeout : Option Bool) (lockRc : Rc) (now : Timespec) : Option β → PutEnd β → Prop where
  | noBuffer (dterr : Dterr) :
      PutCases DTTIMEOUT_FOREVER q timeoutMillis wasTimeout lockRc now none
        (.returned (some dterr) wasTimeout)
  | lockFails (buffer : β) (dterr : Dterr) (hlock : lockRc ≠ 0) :
      PutCases DTTIMEOUT_FOREVER q timeoutMillis wasTimeout lockRc now (some buffer)
        (.returned (some dterr) (wasTimeout.map fun _ => false))
  /-- the queue is full, and the caller does not wait -/
  | refused (buffer : β) (hlock : lockRc = 0) (hforever : timeoutMillis ≠ DTTIMEOUT_FOREVER)
      (hzero : timeoutMillis = 0) (hfull : q.isFull = true) :
      PutCases DTTIMEOUT_FOREVER q timeoutMillis wasTimeout lockRc now (some buffer)
        (.returned none (setTimeout wasTimeout))
  | waits (buffer : β) (deadline : Option Timespec) (hlock : lockRc = 0)
      (hwait : timeoutMillis = DTTIMEOUT_FOREVER ∨ timeoutMillis ≠ 0) (hfull : q.isFull = true)
      (hdeadline : ∀ d, deadline = some d → d = addMsToTimespecMonotonic now timeoutMillis) :
      PutCases DTTIMEOUT_FOREVER q timeoutMillis wasTimeout lockRc now (some buffer)
        (.wait buffer deadline (wasTimeout.map fun _ => false))
  | enqueues (buffer : β) (hlock : lockRc = 0) (hroom : q.isFull = false) :
      PutCases DTTIMEOUT_FOREVER q timeoutMillis wasTimeout lockRc now (some buffer)
        (.enqueued (q.enqueue buffer) buffer (wasTimeout.map fun _ => false))

/-- The ways through `dtbufferqueue_put` after a wait. -/
inductive PutWakeCases (q : Queue β) (buffer : β) (deadline : Option Timespec)
    (wasTimeout : Option Bool) (rc : Rc) : PutEnd β → Prop where
  | timedOut (d : Timespec) (hdeadline : deadline = some d) (hrc : rc = ETIMEDOUT) :
      PutWakeCases q buffer deadline wasTimeout rc (.returned none (setTimeout wasTimeout))
  | waitFails (dterr : Dterr) (hrc : rc ≠ 0) (htimeout : deadline = none ∨ rc ≠ ETIMEDOUT) :
      PutWakeCases q buffer deadline wasTimeout rc (.returned (some dterr) wasTimeout)
  | waits (hrc : rc = 0) (hfull : q.isFull = true) :
      PutWakeCases q buffer deadline wasTimeout rc (.wait buffer deadline wasTimeout)
  | enqueues (hrc : rc = 0) (hroom : q.isFull = false) :
      PutWakeCases q buffer deadline wasTimeout rc
        (.enqueued (q.enqueue buffer) buffer wasTimeout)

theorem setTimeout_map (wasTimeout : Option Bool) :
    setTimeout (wasTimeout.map fun _ => false) = setTimeout wasTimeout := by
  cases wasTimeout <;> rfl

theorem put_cases (DTTIMEOUT_FOREVER : Int32) (q : Queue β) (arg : Option β)
    (timeoutMillis : Int32) (wasTimeout : Option Bool) (lockRc : Rc) (now : Timespec) :
    PutCases DTTIMEOUT_FOREVER q timeoutMillis wasTimeout lockRc now arg
      (put DTTIMEOUT_FOREVER q arg timeoutMillis wasTimeout lockRc now) := by
  cases arg with
  | none => exact .noBuffer _
  | some buffer =>
      unfold put putLoop
      dsimp only
      split
      · next hlock => exact .lockFails buffer _ hlock
      · next hlock =>
          have hlock : lockRc = 0 := not_not.1 hlock
          split
          · next hforever =>
              split
              · next hfull => exact .waits buffer none hlock (.inl hforever) hfull (by simp)
              · next hfull => exact .enqueues buffer hlock (by simpa using hfull)
          · next hforever =>
              split
              · next hzero =>
                  split
                  · next hfull =>
                      rw [setTimeout_map]
                      exact .refused buffer hlock hforever hzero hfull
                  · next hfull => exact .enqueues buffer hlock (by simpa using hfull)
              · next hzero =>
                  split
                  · next hfull => exact .waits buffer _ hlock (.inr hzero) hfull (by simp)
                  · next hfull => exact .enqueues buffer hlock (by simpa using hfull)

theorem putWake_cases (q : Queue β) (buffer : β) (deadline : Option Timespec)
    (wasTimeout : Option Bool) (rc : Rc) :
    PutWakeCases q buffer deadline wasTimeout rc (putWake q buffer deadline wasTimeout rc) := by
  unfold putWake putLoop
  cases deadline with
  | none =>
      dsimp only
      split
      · next hrc => exact .waitFails _ hrc (.inl rfl)
      · next hrc =>
          split
          · next hfull => exact .waits (not_not.1 hrc) hfull
          · next hfull => exact .enqueues (not_not.1 hrc) (by simpa using hfull)
  | some d =>
      dsimp only
      split
      · next htimeout => exact .timedOut d rfl htimeout
      · next htimeout =>
          split
          · next hrc => exact .waitFails _ hrc (.inr htimeout)
          · next hrc =>
              split
              · next hfull => exact .waits (not_not.1 hrc) hfull
              · next hfull => exact .enqueues (not_not.1 hrc) (by simpa using hfull)

/-! ## Get -/

/-- The ways through `dtbufferqueue_get` up to its return or its first wait. -/
inductive GetCases (DTTIMEOUT_FOREVER : Int32) (q : Queue β) (timeoutMillis : Int32)
    (wasTimeout : Option Bool) (lockRc : Rc) (now : Timespec) : Bool → GetEnd β → Prop where
  | noBuffer (dterr : Dterr) :
      GetCases DTTIMEOUT_FOREVER q timeoutMillis wasTimeout lockRc now false
        (.returned (some dterr) wasTimeout)
  | lockFails (dterr : Dterr) (hlock : lockRc ≠ 0) :
      GetCases DTTIMEOUT_FOREVER q timeoutMillis wasTimeout lockRc now true
        (.returned (some dterr) (wasTimeout.map fun _ => false))
  /-- the queue is empty, and the caller does not wait -/
  | refused (hlock : lockRc = 0) (hforever : timeoutMillis ≠ DTTIMEOUT_FOREVER)
      (hzero : timeoutMillis = 0) (hempty : q.count = 0) :
      GetCases DTTIMEOUT_FOREVER q timeoutMillis wasTimeout lockRc now true
        (.returned none (setTimeout wasTimeout))
  | waits (deadline : Option Timespec) (hlock : lockRc = 0)
      (hwait : timeoutMillis = DTTIMEOUT_FOREVER ∨ timeoutMillis ≠ 0) (hempty : q.count = 0)
      (hdeadline : ∀ d, deadline = some d → d = addMsToTimespecMonotonic now timeoutMillis) :
      GetCases DTTIMEOUT_FOREVER q timeoutMillis wasTimeout lockRc now true
        (.wait deadline (wasTimeout.map fun _ => false))
  | dequeues (hlock : lockRc = 0) (hsome : q.count ≠ 0) :
      GetCases DTTIMEOUT_FOREVER q timeoutMillis wasTimeout lockRc now true
        (.dequeued q.dequeue q.front (wasTimeout.map fun _ => false))

/-- The ways through `dtbufferqueue_get` after a wait. -/
inductive GetWakeCases (q : Queue β) (deadline : Option Timespec) (wasTimeout : Option Bool)
    (rc : Rc) : GetEnd β → Prop where
  | timedOut (d : Timespec) (hdeadline : deadline = some d) (hrc : rc = ETIMEDOUT) :
      GetWakeCases q deadline wasTimeout rc (.returned none (setTimeout wasTimeout))
  | waitFails (dterr : Dterr) (hrc : rc ≠ 0) (htimeout : deadline = none ∨ rc ≠ ETIMEDOUT) :
      GetWakeCases q deadline wasTimeout rc (.returned (some dterr) wasTimeout)
  | waits (hrc : rc = 0) (hempty : q.count = 0) :
      GetWakeCases q deadline wasTimeout rc (.wait deadline wasTimeout)
  | dequeues (hrc : rc = 0) (hsome : q.count ≠ 0) :
      GetWakeCases q deadline wasTimeout rc (.dequeued q.dequeue q.front wasTimeout)

theorem get_cases (DTTIMEOUT_FOREVER : Int32) (q : Queue β) (bufferPtr : Bool)
    (timeoutMillis : Int32) (wasTimeout : Option Bool) (lockRc : Rc) (now : Timespec) :
    GetCases DTTIMEOUT_FOREVER q timeoutMillis wasTimeout lockRc now bufferPtr
      (get DTTIMEOUT_FOREVER q bufferPtr timeoutMillis wasTimeout lockRc now) := by
  cases bufferPtr with
  | false => exact .noBuffer _
  | true =>
      unfold get
      rw [if_neg (by decide)]
      dsimp only
      split
      · next hlock => exact .lockFails _ hlock
      · next hlock =>
          have hlock : lockRc = 0 := not_not.1 hlock
          split
          · next hpos =>
              refine .dequeues hlock fun hzero => ?_
              rw [hzero] at hpos
              exact absurd hpos (by decide)
          · next hpos =>
              have hempty : q.count = 0 := UInt32.le_zero_iff.1 (UInt32.not_lt.1 hpos)
              have hloop : ∀ deadline wt, getLoop q deadline wt = .wait deadline wt :=
                fun _ _ => if_pos hempty
              split
              · next hforever =>
                  rw [hloop]
                  exact .waits none hlock (.inl hforever) hempty (by simp)
              · next hforever =>
                  split
                  · next hzero =>
                      rw [setTimeout_map]
                      exact .refused hlock hforever hzero hempty
                  · next hzero =>
                      rw [hloop]
                      exact .waits _ hlock (.inr hzero) hempty (by simp)

theorem getWake_cases (q : Queue β) (deadline : Option Timespec) (wasTimeout : Option Bool)
    (rc : Rc) : GetWakeCases q deadline wasTimeout rc (getWake q deadline wasTimeout rc) := by
  unfold getWake getLoop
  cases deadline with
  | none =>
      dsimp only
      split
      · next hrc => exact .waitFails _ hrc (.inl rfl)
      · next hrc =>
          split
          · next hempty => exact .waits (not_not.1 hrc) hempty
          · next hsome => exact .dequeues (not_not.1 hrc) hsome
  | some d =>
      dsimp only
      split
      · next htimeout => exact .timedOut d rfl htimeout
      · next htimeout =>
          split
          · next hrc => exact .waitFails _ hrc (.inr htimeout)
          · next hrc =>
              split
              · next hempty => exact .waits (not_not.1 hrc) hempty
              · next hsome => exact .dequeues (not_not.1 hrc) hsome

/-! ## Steps -/

variable [DecidableEq τ]

/-- The steps: an idle thread calls, or a sleeping one wakes, and the critical section ends in one of
    the ways above. -/
inductive StepCases (DTTIMEOUT_FOREVER : Int32) (s s' : State τ β) : Event τ β → Prop where
  | put {t : τ} {arg : Option β} {timeoutMillis : Int32} {wasTimeout : Option Bool} {lockRc : Rc}
      {now : Timespec} {pick : Option τ} {r : PutEnd β} (hidle : s.activity t = .idle)
      (hcases : PutCases DTTIMEOUT_FOREVER s.queue timeoutMillis wasTimeout lockRc now arg r)
      (hend : s.endPut t arg pick r = some s') :
      StepCases DTTIMEOUT_FOREVER s s' (.put t arg timeoutMillis wasTimeout lockRc now pick)
  | get {t : τ} {bufferPtr : Bool} {timeoutMillis : Int32} {wasTimeout : Option Bool}
      {lockRc : Rc} {now : Timespec} {pick : Option τ} {r : GetEnd β}
      (hidle : s.activity t = .idle)
      (hcases : GetCases DTTIMEOUT_FOREVER s.queue timeoutMillis wasTimeout lockRc now bufferPtr r)
      (hend : s.endGet t pick r = some s') :
      StepCases DTTIMEOUT_FOREVER s s' (.get t bufferPtr timeoutMillis wasTimeout lockRc now pick)
  | putWake {t : τ} {rc : Rc} {pick : Option τ} {buffer : β} {deadline : Option Timespec}
      {wasTimeout : Option Bool} {r : PutEnd β}
      (hputting : s.activity t = .putting buffer deadline wasTimeout)
      (hcases : PutWakeCases s.queue buffer deadline wasTimeout rc r)
      (hend : { s with cvNotFull := s.cvNotFull.resume t }.endPut t (some buffer) pick r = some s') :
      StepCases DTTIMEOUT_FOREVER s s' (.wake t rc pick)
  | getWake {t : τ} {rc : Rc} {pick : Option τ} {deadline : Option Timespec}
      {wasTimeout : Option Bool} {r : GetEnd β}
      (hgetting : s.activity t = .getting deadline wasTimeout)
      (hcases : GetWakeCases s.queue deadline wasTimeout rc r)
      (hend : { s with cvNotEmpty := s.cvNotEmpty.resume t }.endGet t pick r = some s') :
      StepCases DTTIMEOUT_FOREVER s s' (.wake t rc pick)

theorem step_cases {DTTIMEOUT_FOREVER : Int32} {s s' : State τ β} {e : Event τ β}
    (h : step DTTIMEOUT_FOREVER s e = some s') : StepCases DTTIMEOUT_FOREVER s s' e := by
  unfold step at h
  cases e with
  | put t arg timeoutMillis wasTimeout lockRc now pick =>
      dsimp only at h
      split at h
      · next hidle => exact .put hidle (put_cases _ _ _ _ _ _ _) h
      · exact absurd h (by simp)
  | get t bufferPtr timeoutMillis wasTimeout lockRc now pick =>
      dsimp only at h
      split at h
      · next hidle => exact .get hidle (get_cases _ _ _ _ _ _ _) h
      · exact absurd h (by simp)
  | wake t rc pick =>
      dsimp only at h
      split at h
      · exact absurd h (by simp)
      · next buffer deadline wasTimeout hputting =>
          exact .putWake hputting (putWake_cases _ _ _ _ _) h
      · next deadline wasTimeout hgetting =>
          exact .getWake hgetting (getWake_cases _ _ _ _) h

end Dtbufferqueue
