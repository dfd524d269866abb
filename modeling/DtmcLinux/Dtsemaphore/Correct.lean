import DtmcLinux.Dtsemaphore.Basic
import DtmcLinux.Foundation.Counter32
import DtmcLinux.Foundation.WakeupBalance
import Mathlib.Algebra.Ring.Int.Defs

set_option autoImplicit false

/-! # The semaphore counts, and loses no wake-up

Each critical section changes the count by one of five effects; the conservation law and the cap
follow by counting returns. The wake-up argument is that of the buffer queue, with the count as the
work available on `cv`: it rests on the same assumption, that the wait of a thread a signal has
reached returns `0`, and the other results do not need it. -/

namespace Dtsemaphore

open Posix

variable {τ : Type*}

/-! ## What is claimed of a state and of a step -/

/-- The cap a semaphore is created with. -/
def cap (maxCount : Int32) : ℤ := if maxCount = 0 then 2147483647 else maxCount.toInt

/-- A post that found the count below the cap. -/
def Return.isRaise (cap : ℤ) : Return τ → Bool
  | .post _ (some found) _ => (found.toNat : ℤ) < cap
  | .post _ none _ => false
  | .wait _ _ _ => false

/-- A wait that returned success without timeout. -/
def Return.isTake : Return τ → Bool
  | .wait _ none wasTimeout => wasTimeout != some true
  | .wait _ (some _) _ => false
  | .post _ _ _ => false

/-- The count is between zero and the cap, and is what the posts and waits so far make it. -/
structure Counted (cap initialCount : ℤ) (s : State τ) : Prop where
  nonneg : (0 : ℤ) ≤ s.sem.count.toNat
  le_cap : (s.sem.count.toNat : ℤ) ≤ cap
  conserved : (s.sem.count.toNat : ℤ) =
    initialCount + s.returns.countP (·.isRaise cap) - s.returns.countP (·.isTake)

/-- What the critical sections of a wait that does not succeed do to the count: neither one that
    ends in a wait on `cv` nor one that reports a timeout or an error changes it. -/
structure LeavesCount (s s' : State τ) : Prop where
  sleeping : s'.returns = s.returns → s'.sem.count = s.sem.count
  failing : ∀ t dterr wasTimeout, s'.returns = s.returns ++ [.wait t dterr wasTimeout] →
    dterr ≠ none ∨ wasTimeout = some true → s'.sem.count = s.sem.count

/-- Asleep in `dtsemaphore_wait`. -/
def Activity.IsWaiting : Activity → Prop
  | .idle => False
  | .waiting _ _ _ => True

/-- Thread `t` is blocked in `dtsemaphore_wait`. -/
def State.Waiting (s : State τ) (t : τ) : Prop := (s.activity t).IsWaiting

/-- No wake-up is lost: the signalled threads are blocked threads, each counted once, and while
    some blocked thread has not been signalled, the count is at most the number of those signalled
    and not yet resumed. -/
structure NoLostWakeup (s : State τ) : Prop where
  signalled : s.cv.signalled.Nodup ∧ ∀ t ∈ s.cv.signalled, s.Waiting t
  waiters : (∃ t, s.Waiting t ∧ t ∉ s.cv.signalled) → s.sem.count.toNat ≤ s.cv.signalled.length

/-- The wait of a signalled thread returns `0`. -/
def SignalledReturns (s : State τ) : Event τ → Prop
  | .post _ _ _ => True
  | .wait _ _ _ _ _ => True
  | .wake t err => t ∈ s.cv.signalled → err = 0

instance SignalledReturns.decidable [DecidableEq τ] (s : State τ) (e : Event τ) :
    Decidable (SignalledReturns s e) :=
  match e with
  | .post _ _ _ => inferInstanceAs (Decidable True)
  | .wait _ _ _ _ _ => inferInstanceAs (Decidable True)
  | .wake t err => inferInstanceAs (Decidable (t ∈ s.cv.signalled → err = 0))

/-! ## The critical sections -/

/-- What a critical section of `dtsemaphore_wait` can do: wait in front of a zero count, lower a
    count that is not zero and return success, or return an error or a timeout. -/
def WaitEnd.Allowed (sem : Semaphore) : WaitEnd → Prop
  | .wait _ _ _ => sem.count = 0
  | .taken sem' wasTimeout =>
    sem.count ≠ 0 ∧ sem' = { sem with count := sem.count - 1 } ∧ wasTimeout ≠ some true
  | .returned dterr wasTimeout => dterr ≠ none ∨ wasTimeout = some true

theorem failed_allowed (sem : Semaphore) (dterr : Dterr) (wasTimeout : Option Bool) :
    (failed dterr wasTimeout).Allowed sem := Or.inl (by simp)

theorem timedOut_allowed (sem : Semaphore) (wasTimeout : Option Bool) (message : String) :
    (timedOut wasTimeout message).Allowed sem := by
  cases wasTimeout with
  | none => exact failed_allowed sem _ none
  | some b => exact Or.inr rfl

theorem take_allowed {sem : Semaphore} (wasTimeout : Option Bool) (h : sem.count ≠ 0) :
    (take sem wasTimeout).Allowed sem := by
  refine ⟨h, rfl, ?_⟩
  cases wasTimeout <;> simp

theorem waitLoop_allowed (sem : Semaphore) (timeoutMilliseconds : Int32)
    (deadline : Option Timespec) (wasTimeout : Option Bool) :
    (waitLoop sem timeoutMilliseconds deadline wasTimeout).Allowed sem := by
  unfold waitLoop
  split
  · next hzero => exact hzero
  · next hne => exact take_allowed wasTimeout hne

theorem wait_allowed (DTTIMEOUT_FOREVER DTTIMEOUT_NOWAIT : Int32) (sem : Semaphore)
    (timeoutMilliseconds : Int32) (wasTimeout : Option Bool) (lockRc : Rc) (now : Timespec) :
    (wait DTTIMEOUT_FOREVER DTTIMEOUT_NOWAIT sem timeoutMilliseconds wasTimeout lockRc
      now).Allowed sem := by
  unfold wait
  split
  · exact failed_allowed sem _ _
  · split
    · exact waitLoop_allowed sem _ _ _
    · split
      · split
        · exact timedOut_allowed sem _ _
        · next hne => exact take_allowed wasTimeout hne
      · exact waitLoop_allowed sem _ _ _

theorem waitWake_allowed (sem : Semaphore) (timeoutMilliseconds : Int32)
    (deadline : Option Timespec) (wasTimeout : Option Bool) (err : Rc) :
    (waitWake sem timeoutMilliseconds deadline wasTimeout err).Allowed sem := by
  unfold waitWake
  cases deadline with
  | none =>
      dsimp only
      split
      · exact failed_allowed sem _ _
      · exact waitLoop_allowed sem _ _ _
  | some deadline =>
      dsimp only
      split
      · exact timedOut_allowed sem _ _
      · split
        · exact failed_allowed sem _ _
        · exact waitLoop_allowed sem _ _ _

/-- A wait woken with `0` looks at the count again. -/
theorem waitWake_zero (sem : Semaphore) (timeoutMilliseconds : Int32)
    (deadline : Option Timespec) (wasTimeout : Option Bool) :
    waitWake sem timeoutMilliseconds deadline wasTimeout 0
      = waitLoop sem timeoutMilliseconds deadline wasTimeout := by
  have htimeout : (0 : Rc) ≠ ETIMEDOUT := by decide
  cases deadline with
  | none => simp [waitWake]
  | some deadline => simp [waitWake, htimeout]

theorem waitLoop_ne_returned (sem : Semaphore) (timeoutMilliseconds : Int32)
    (deadline : Option Timespec) (wasTimeout : Option Bool) (dterr : Option Dterr)
    (wt : Option Bool) :
    waitLoop sem timeoutMilliseconds deadline wasTimeout ≠ .returned dterr wt := by
  unfold waitLoop take
  split <;> simp

/-! ## The effects -/

/-- What a critical section does to the semaphore, and what a call returns with it. -/
inductive Effect (s s' : State τ) : Prop where
  /-- a post finds the count below the cap and raises it -/
  | raised (t : τ) (hlt : s.sem.count < s.sem.maxCount)
      (hsem : s'.sem = { s.sem with count := s.sem.count + 1 })
      (hret : s'.returns = s.returns ++ [.post t (some s.sem.count) none])
  /-- a post finds the count at the cap, or does not get the mutex -/
  | postFailed (t : τ) (found : Option UInt32) (dterr : Option Dterr)
      (hfound : ∀ c ∈ found, ¬c < s.sem.maxCount) (hsem : s'.sem = s.sem)
      (hret : s'.returns = s.returns ++ [.post t found dterr])
  /-- a wait goes to sleep -/
  | sleeps (hsem : s'.sem = s.sem) (hret : s'.returns = s.returns)
  /-- a wait lowers the count and returns success -/
  | taken (t : τ) (wasTimeout : Option Bool) (hwt : wasTimeout ≠ some true)
      (hne : s.sem.count ≠ 0) (hsem : s'.sem = { s.sem with count := s.sem.count - 1 })
      (hret : s'.returns = s.returns ++ [.wait t none wasTimeout])
  /-- a wait returns an error or a timeout -/
  | waitFailed (t : τ) (dterr : Option Dterr) (wasTimeout : Option Bool)
      (hfail : dterr ≠ none ∨ wasTimeout = some true) (hsem : s'.sem = s.sem)
      (hret : s'.returns = s.returns ++ [.wait t dterr wasTimeout])

theorem Effect.leavesCount {s s' : State τ} (h : Effect s s') : LeavesCount s s' := by
  cases h with
  | raised t hlt hsem hret =>
      constructor
      · intro hsame
        rw [hsame] at hret
        exact absurd hret (by simp)
      · intro t' dterr wt hret'
        rw [hret'] at hret
        exact absurd hret (by simp)
  | postFailed t found dterr hfound hsem hret =>
      exact ⟨fun _ => by rw [hsem], fun _ _ _ _ _ => by rw [hsem]⟩
  | sleeps hsem hret => exact ⟨fun _ => by rw [hsem], fun _ _ _ _ _ => by rw [hsem]⟩
  | taken t wt hwt hne hsem hret =>
      constructor
      · intro hsame
        rw [hsame] at hret
        exact absurd hret (by simp)
      · intro t' dterr wt' hret' hfail
        -- the return is the successful one, so it reports neither
        rw [hret'] at hret
        simp only [List.append_cancel_left_eq, List.cons.injEq, Return.wait.injEq, and_true] at hret
        obtain ⟨-, rfl, rfl⟩ := hret
        rcases hfail with h | h
        · exact absurd rfl h
        · exact absurd h hwt
  | waitFailed t dterr wt hfail hsem hret =>
      exact ⟨fun _ => by rw [hsem], fun _ _ _ _ _ => by rw [hsem]⟩

/-! ## The count -/

/-- The cap of the semaphore never changes, and the count is what the returns make it. -/
structure CountInv (cap initialCount : ℤ) (s : State τ) : Prop where
  maxCount_eq : (s.sem.maxCount.toNat : ℤ) = cap
  counted : Counted cap initialCount s

/-- **Step lemma.** One effect changes both sides of the conservation law alike. -/
theorem CountInv.effect {cap initialCount : ℤ} {s s' : State τ} (hi : CountInv cap initialCount s)
    (h : Effect s s') : CountInv cap initialCount s' := by
  obtain ⟨hmax, hnonneg, hle, hcons⟩ := hi
  cases h with
  | raised t hlt hsem hret =>
      have hlt' := UInt32.lt_iff_toNat_lt.1 hlt
      have hcount : s'.sem.count.toNat = s.sem.count.toNat + 1 := by
        rw [hsem]
        exact Counter32.toNat_succ hlt
      have hraise : (Return.post t (some s.sem.count) none : Return τ).isRaise cap = true := by
        simp only [Return.isRaise, decide_eq_true_eq]
        omega
      refine ⟨by rw [hsem]; exact hmax, by omega, by omega, ?_⟩
      rw [hret, List.countP_append, List.countP_append, List.countP_singleton,
        List.countP_singleton, if_pos hraise, if_neg (by simp [Return.isTake]), hcount]
      omega
  | postFailed t found dterr hfound hsem hret =>
      have hraise : ¬(Return.post t found dterr : Return τ).isRaise cap = true := by
        cases found with
        | none => simp [Return.isRaise]
        | some c =>
            have hfull := hfound c rfl
            rw [UInt32.lt_iff_toNat_lt] at hfull
            simp only [Return.isRaise, decide_eq_true_eq]
            omega
      refine ⟨by rw [hsem]; exact hmax, by omega, by rw [hsem]; exact hle, ?_⟩
      rw [hret, List.countP_append, List.countP_append, List.countP_singleton,
        List.countP_singleton, if_neg hraise, if_neg (by simp [Return.isTake]), hsem]
      exact hcons
  | sleeps hsem hret =>
      refine ⟨by rw [hsem]; exact hmax, by omega, by rw [hsem]; exact hle, ?_⟩
      rw [hret, hsem]
      exact hcons
  | taken t wt hwt hne hsem hret =>
      have hcount : s'.sem.count.toNat + 1 = s.sem.count.toNat := by
        rw [hsem]
        exact Counter32.toNat_pred hne
      have htake : (Return.wait t none wt : Return τ).isTake = true := by
        simpa [Return.isTake] using hwt
      refine ⟨by rw [hsem]; exact hmax, by omega, by omega, ?_⟩
      rw [hret, List.countP_append, List.countP_append, List.countP_singleton,
        List.countP_singleton, if_neg (by simp [Return.isRaise]), if_pos htake]
      omega
  | waitFailed t dterr wt hfail hsem hret =>
      have htake : ¬(Return.wait t dterr wt : Return τ).isTake = true := by
        cases dterr with
        | none =>
            rcases hfail with h | h
            · exact absurd rfl h
            · simp [Return.isTake, h]
        | some e => simp [Return.isTake]
      refine ⟨by rw [hsem]; exact hmax, by omega, by rw [hsem]; exact hle, ?_⟩
      rw [hret, List.countP_append, List.countP_append, List.countP_singleton,
        List.countP_singleton, if_neg (by simp [Return.isRaise]), if_neg htake, hsem]
      exact hcons

theorem created_maxCount (initialCount : Int32) {maxCount : Int32} (hcap : 0 ≤ cap maxCount) :
    ((created initialCount maxCount).maxCount.toNat : ℤ) = cap maxCount := by
  unfold created cap at *
  by_cases hzero : maxCount = 0
  · rw [if_pos hzero]
    simp only [if_pos hzero]
    rfl
  · rw [if_neg hzero] at hcap ⊢
    simp only [if_neg hzero]
    exact Counter32.toNat_toUInt32_of_nonneg hcap

theorem created_countInv {initialCount maxCount : Int32} (h0 : 0 ≤ initialCount.toInt)
    (hcap : initialCount.toInt ≤ cap maxCount) :
    CountInv (cap maxCount) initialCount.toInt
      (State.initial (created initialCount maxCount) : State τ) := by
  have hcount : ((created initialCount maxCount).count.toNat : ℤ) = initialCount.toInt :=
    Counter32.toNat_toUInt32_of_nonneg h0
  refine ⟨created_maxCount initialCount (Int.le_trans h0 hcap), Int.natCast_nonneg _, ?_, ?_⟩
  · show ((created initialCount maxCount).count.toNat : ℤ) ≤ _
    rw [hcount]
    exact hcap
  · show ((created initialCount maxCount).count.toNat : ℤ) = initialCount.toInt + (0 : ℕ) - (0 : ℕ)
    omega

/-! ## The wake-ups -/

/-- The condition variable accounts for the sleeping threads and covers the count. -/
structure Balanced (s : State τ) : Prop where
  threads : s.cv.Account fun t => (s.activity t).IsWaiting
  tokens : s.cv.Covers s.sem.count.toNat

theorem Balanced.noLostWakeup {s : State τ} (h : Balanced s) : NoLostWakeup s where
  signalled := ⟨h.threads.signalled_nodup, fun _ ht => h.threads.asleep_of_signalled ht⟩
  waiters := by
    rintro ⟨t, ht, hns⟩
    exact h.tokens (List.ne_nil_of_mem (h.threads.mem_waiting ht hns))

theorem balanced_initial (sem : Semaphore) : Balanced (State.initial sem : State τ) where
  threads := .init fun _ h => h
  tokens := .init _

/-! ## One step -/

variable [DecidableEq τ]

theorem endWait_effect (s : State τ) (t : τ) {r : WaitEnd} (hr : r.Allowed s.sem) :
    Effect s (s.endWait t r) := by
  cases r with
  | wait ms deadline wasTimeout => exact .sleeps rfl rfl
  | taken sem wasTimeout =>
      obtain ⟨hne, rfl, hwt⟩ := hr
      exact .taken t wasTimeout hwt hne rfl rfl
  | returned dterr wasTimeout => exact .waitFailed t dterr wasTimeout hr rfl rfl

/-- **Step lemma.** Every critical section has one of the five effects. -/
theorem step_effect {DTTIMEOUT_FOREVER DTTIMEOUT_NOWAIT : Int32} {s s' : State τ} {e : Event τ}
    (h : step DTTIMEOUT_FOREVER DTTIMEOUT_NOWAIT s e = some s') : Effect s s' := by
  unfold step at h
  cases e with
  | post t lockRc pick =>
      dsimp only at h
      split at h
      · unfold post at h
        split at h
        · next hlock =>
            obtain rfl := Option.some.inj h
            exact .postFailed t none _ (by simp) rfl rfl
        · next hlock =>
            split at h
            · next hlt =>
                obtain ⟨cv, -, rfl⟩ := Option.map_eq_some_iff.1 h
                exact .raised t hlt rfl rfl
            · next hfull =>
                obtain rfl := Option.some.inj h
                exact .postFailed t _ none (by simpa using hfull) rfl rfl
      · exact absurd h (by simp)
  | wait t ms wasTimeout lockRc now =>
      dsimp only at h
      split at h
      · obtain rfl := Option.some.inj h
        exact endWait_effect s t (wait_allowed _ _ _ _ _ _ _)
      · exact absurd h (by simp)
  | wake t err =>
      dsimp only at h
      split at h
      · exact absurd h (by simp)
      · next ms deadline wasTimeout ht =>
          obtain rfl := Option.some.inj h
          have hallowed := waitWake_allowed s.sem ms deadline wasTimeout err
          -- the condition variable plays no part in the effect
          cases endWait_effect { s with cv := s.cv.resume t } t hallowed with
          | raised t hlt hsem hret => exact .raised t hlt hsem hret
          | postFailed t found dterr hfound hsem hret =>
              exact .postFailed t found dterr hfound hsem hret
          | sleeps hsem hret => exact .sleeps hsem hret
          | taken t wt hwt hne hsem hret => exact .taken t wt hwt hne hsem hret
          | waitFailed t dterr wt hfail hsem hret =>
              exact .waitFailed t dterr wt hfail hsem hret

/-- The end of a critical section of a wait. While the thread is inside, the count but one is
    covered; the whole count is when it returns without having lowered it. -/
theorem endWait_balanced {s : State τ} {t : τ}
    (hrun : s.cv.Account fun t' => t' ≠ t ∧ (s.activity t').IsWaiting) {r : WaitEnd}
    (hr : r.Allowed s.sem) (htokens : s.cv.Covers (s.sem.count.toNat - 1))
    (hreturn : ∀ dterr wasTimeout, r = .returned dterr wasTimeout →
      s.cv.Covers s.sem.count.toNat) : Balanced (s.endWait t r) := by
  cases r with
  | wait ms deadline wasTimeout =>
      have hzero : s.sem.count = 0 := hr
      refine ⟨hrun.sleep trivial, ?_⟩
      show (s.cv.wait t).Covers s.sem.count.toNat
      rw [hzero]
      exact Cond.Covers.zero _
  | taken sem wasTimeout =>
      obtain ⟨hne, rfl, -⟩ := hr
      have hcount := Counter32.toNat_pred hne
      refine ⟨hrun.leave id, htokens.mono ?_⟩
      show (s.sem.count - 1).toNat ≤ s.sem.count.toNat - 1
      omega
  | returned dterr wasTimeout => exact ⟨hrun.leave id, hreturn dterr wasTimeout rfl⟩

/-- A post that raises the count signals. -/
theorem endPost_balanced {s s' : State τ} {t : τ}
    (hrun : s.cv.Account fun t' => t' ≠ t ∧ (s.activity t').IsWaiting)
    (htokens : s.cv.Covers s.sem.count.toNat) (found : Option UInt32) (pick : Option τ)
    (lockRc : Rc) (h : s.endPost t found pick (post s.sem lockRc) = some s') : Balanced s' := by
  unfold post at h
  split at h
  · obtain rfl := Option.some.inj h
    exact ⟨hrun.leave id, htokens⟩
  · split at h
    · next hlt =>
        obtain ⟨cv, hcv, rfl⟩ := Option.map_eq_some_iff.1 h
        refine ⟨(hrun.signal hcv).leave id, ?_⟩
        show cv.Covers (s.sem.count + 1).toNat
        rw [Counter32.toNat_succ hlt]
        exact htokens.signal hcv
    · obtain rfl := Option.some.inj h
      exact ⟨hrun.leave id, htokens⟩

/-- **Step lemma.** Every critical section keeps the balance. -/
theorem step_balanced {DTTIMEOUT_FOREVER DTTIMEOUT_NOWAIT : Int32} {s s' : State τ} {e : Event τ}
    (hi : Balanced s) (hsig : SignalledReturns s e)
    (h : step DTTIMEOUT_FOREVER DTTIMEOUT_NOWAIT s e = some s') : Balanced s' := by
  unfold step at h
  cases e with
  | post t lockRc pick =>
      dsimp only at h
      split at h
      · next ht =>
          have hrun := hi.threads.outside (t := t) (by rw [ht]; exact id)
          exact endPost_balanced hrun hi.tokens _ pick lockRc h
      · exact absurd h (by simp)
  | wait t ms wasTimeout lockRc now =>
      dsimp only at h
      split at h
      · next ht =>
          obtain rfl := Option.some.inj h
          have hrun := hi.threads.outside (t := t) (by rw [ht]; exact id)
          exact endWait_balanced hrun (wait_allowed _ _ _ _ _ _ _)
            (hi.tokens.mono (Nat.sub_le _ _)) (fun _ _ _ => hi.tokens)
      · exact absurd h (by simp)
  | wake t err =>
      dsimp only at h
      split at h
      · exact absurd h (by simp)
      · obtain rfl := Option.some.inj h
        have hrun := hi.threads.resume t
        by_cases hmem : t ∈ s.cv.signalled
        · -- a signalled thread looks at the count again: it cannot return empty-handed
          obtain rfl : err = 0 := hsig hmem
          rw [waitWake_zero]
          exact endWait_balanced hrun (waitLoop_allowed _ _ _ _)
            (hi.tokens.resume_signalled hi.threads hmem)
            (fun _ _ hr => absurd hr (waitLoop_ne_returned _ _ _ _ _ _))
        · have htokens := hi.tokens.resume_waiting hmem
          exact endWait_balanced hrun (waitWake_allowed _ _ _ _ _)
            (htokens.mono (Nat.sub_le _ _)) (fun _ _ _ => htokens)

/-! ## Whole runs -/

/-- **The counting semaphore.** On a semaphore created with `0 ≤ initial_count ≤ cap`, for any
    number of threads and any order of their critical sections, timeouts and spurious wake-ups, in
    every reachable state: the count is between `0` and the cap, and is the initial count, plus the
    posts that found it below the cap, minus the waits that returned success without timeout; every
    critical section of a wait that does not succeed leaves the count unchanged; and, when the waits
    of signalled threads return `0`, while some waiter is blocked and not signalled, the count is at
    most the number of waiters signalled and not yet resumed. -/
theorem counting_semaphore (DTTIMEOUT_FOREVER DTTIMEOUT_NOWAIT : Int32)
    (initialCount maxCount : Int32) (h0 : 0 ≤ initialCount.toInt)
    (hcap : initialCount.toInt ≤ cap maxCount) (events : List (Event τ)) (s : State τ)
    (hrun : Run.exec (step DTTIMEOUT_FOREVER DTTIMEOUT_NOWAIT)
      (.initial (created initialCount maxCount)) events = some s) :
    Counted (cap maxCount) initialCount.toInt s ∧
    (∀ e s', step DTTIMEOUT_FOREVER DTTIMEOUT_NOWAIT s e = some s' → LeavesCount s s') ∧
    (Run.AllSteps (step DTTIMEOUT_FOREVER DTTIMEOUT_NOWAIT) SignalledReturns
      (.initial (created initialCount maxCount)) events → NoLostWakeup s) := by
  refine ⟨?_, fun e s' h => (step_effect h).leavesCount, fun hsig => ?_⟩
  · have hinv := Run.exec_invariant (fun _ _ _ hs h => hs.effect (step_effect h))
      (created_countInv (τ := τ) h0 hcap) hrun
    exact hinv.counted
  · have hbalanced := Run.exec_invariant_of_allSteps (fun _ _ _ hs hC h => step_balanced hs hC h)
      events _ s (balanced_initial (created initialCount maxCount)) hsig hrun
    exact hbalanced.noLostWakeup

/-- A binary semaphore: two threads sleep, one post wakes the first of them, a second post finds
    the count at the cap, a third thread takes the token, the woken thread sleeps again and the
    timed wait of the other one times out. -/
def binaryRun : List (Event ℕ) :=
  [.wait 1 (-1) none 0 ⟨5, 0⟩,
    .wait 2 1500 (some true) 0 ⟨5, 0⟩,
    .post 0 0 (some 1),
    .post 0 0 none,
    .wait 3 0 (some true) 0 ⟨6, 0⟩,
    .wake 1 0,
    .wake 2 110]

theorem counting_semaphore_binaryRun :
    ∃ s : State ℕ, Run.exec (step (-1) 0) (.initial (created 0 1)) binaryRun = some s ∧
      Counted 1 0 s ∧ NoLostWakeup s := by
  have hsome : (Run.exec (step (-1) 0) (.initial (created 0 1)) binaryRun).isSome = true := by
    decide
  obtain ⟨s, hs⟩ := Option.isSome_iff_exists.1 hsome
  have hspec := counting_semaphore (-1) 0 0 1 (by decide) (by decide) binaryRun s hs
  exact ⟨s, hs, hspec.1, hspec.2.2 (by decide)⟩

end Dtsemaphore
