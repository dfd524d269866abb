import DtmcLinux.DtnetportalMosquitto.Connection
import DtmcLinux.Foundation.StepRun
import Mathlib.Data.Fintype.Basic

set_option autoImplicit false

/-! # What waiting for the connection gives

`on_connect` unlocks a mutex that it has not locked: every unlock is by the thread that holds the
mutex exactly as long as no `on_connect` gets that far. Since the flag is written outside the mutex,
it can be written after a waiter's test and before its sleep; when that does not happen, and no
deadline passes between the write and the broadcast, a waiter whose connection comes in time
returns 0. -/

namespace MosquittoConnection

open Posix DtnetportalMosquitto

variable {τ : Type*} [DecidableEq τ]

/-! ## The properties and the conditions -/

/-- The step is not `on_connect` unlocking the mutex. -/
def NotByOnConnect (s : State τ) : Event τ → Prop
  | .unlockConnect => s.library ≠ .unlocking
  | _ => True

/-- `on_connect` sets `connected` while no waiter is between its last test and its sleep or return,
    deadlines already passed apart; and no deadline of a sleeping waiter passes between the write of
    `connected` and the broadcast. -/
def Noticed (s : State τ) : Event τ → Prop
  | .connect rc => rc = 0 → ∀ t, s.expired t = false → (s.waiters t).committed = false
  | .expire t => s.waiters t = .waiting false → s.inTime t = false
  | _ => True

instance Noticed.decidable [Fintype τ] (s : State τ) (e : Event τ) : Decidable (Noticed s e) :=
  match e with
  | .connect rc => inferInstanceAs (Decidable (rc = 0 → ∀ _, _ → _))
  | .expire t => inferInstanceAs (Decidable (s.waiters t = .waiting false → _))
  | .call _ | .lock _ | .test _ | .loopTest _ | .sleep _ | .wake _ | .timeout _ | .relock _
  | .finish _ | .unlock _ | .broadcast | .unlockConnect | .disconnect => instDecidableTrue

/-- By its own steps, the waiter returns 0. -/
def ReturnsZero (s : State τ) (t : τ) : Prop :=
  ∃ events, (∀ e ∈ events, e.thread = some t) ∧ ∃ s', Run.exec step s events = some s' ∧
    s'.waiters t = .idle ∧ s'.returned = (0, true) :: s.returned

/-- The calls whose connection came in time have returned 0; those that sleep have been woken, or
    are about to be; and each of them, once woken and with the mutex free or its own, returns 0. -/
structure Connects (s : State τ) : Prop where
  returned : ∀ r ∈ s.returned, r.2 = true → r.1 = 0
  awake : ∀ t signalled, s.waiters t = .waiting signalled → s.inTime t = true →
    signalled = true ∨ s.library = .broadcasting
  returns : ∀ t, s.waiters t ≠ .idle → s.inTime t = true → s.library ≠ .broadcasting →
    s.owner = none ∨ s.owner = some t → ReturnsZero s t

/-! ## The owner of the mutex -/

/-- The waiter whose `waiters` entry a broadcast changes has not locked the mutex. -/
theorem holds_broadcast (pc : Waiter) (expired : Bool) :
    (match pc with
      | .waiting signalled => Waiter.waiting (signalled || !expired)
      | pc => pc).holds = pc.holds := by
  cases pc <;> rfl

/-- The owner of the mutex is a waiter between its lock and its unlock. -/
def OwnerHolds (s : State τ) : Prop := ∀ t, s.owner = some t → (s.waiters t).holds = true

/-- Who has locked the mutex and not unlocked it owns it. -/
def HolderOwns (s : State τ) : Prop := ∀ t, (s.waiters t).holds = true → s.owner = some t

theorem OwnerHolds.effect {s s' : State τ} {e : Event τ} (h : OwnerHolds s)
    (heff : Effect s e s') : OwnerHolds s' := by
  have hmoved : ∀ t pc, (pc.holds = (s.waiters t).holds) → ∀ t', s.owner = some t' →
      (Function.update s.waiters t pc t').holds = true := by
    intro t pc hpc
    refine (Function.forall_update_iff s.waiters fun t' pc =>
      s.owner = some t' → pc.holds = true).2 ⟨?_, ?_⟩
    · exact fun howner => hpc.trans (h t howner)
    · exact fun t' _ => h t'
  cases heff with
  | called t ht => exact hmoved t _ (by rw [ht]; rfl)
  | locked t ht howner =>
      intro t' hlocked
      obtain rfl : t = t' := Option.some.inj hlocked
      simp [State.moves, Waiter.holds]
  | found _ t he ht hconnected => exact hmoved t _ (by rcases ht with ht | ht <;> rw [ht] <;> rfl)
  | computed t ht hconnected => exact hmoved t _ (by rw [ht]; rfl)
  | committed t ht hconnected => exact hmoved t _ (by rw [ht]; rfl)
  | slept t ht => exact fun t' hnone => absurd hnone (by simp [State.moves, State.unlocks])
  | woke t signalled ht => exact hmoved t _ (by rw [ht]; rfl)
  | timedOut t ht hexpired => exact hmoved t _ (by rw [ht]; rfl)
  | relocked t tw ht howner =>
      intro t' hlocked
      obtain rfl : t = t' := Option.some.inj hlocked
      simp only [State.moves, Function.update_self]
      split <;> rfl
  | finished t rc ht => exact hmoved t _ (by rw [ht]; rfl)
  | returned t rc ht => exact fun t' hnone => absurd hnone (by simp [State.moves, State.unlocks])
  | expired t hexpired => exact h
  | connected rc hlibrary => exact h
  | broadcast hlibrary => exact fun t' howner => (holds_broadcast _ _).trans (h t' howner)
  | unlocked hlibrary => exact fun t' hnone => absurd hnone (by simp [State.unlocks])
  | disconnected hlibrary => exact h

/-- The waiter that unlocks the mutex owns it. -/
theorem HolderOwns.unlocks {s : State τ} (h : HolderOwns s) {t : τ}
    (ht : (s.waiters t).holds = true) :
    (s.unlocks (some t)).foreignUnlocks = s.foreignUnlocks := by
  simp [State.unlocks, h t ht]

omit [DecidableEq τ] in
/-- No two waiters have locked the mutex. -/
theorem HolderOwns.unique {s : State τ} (h : HolderOwns s) {t t' : τ}
    (ht : (s.waiters t).holds = true) (ht' : (s.waiters t').holds = true) : t = t' :=
  Option.some.inj ((h t ht).symm.trans (h t' ht'))

theorem HolderOwns.effect {s s' : State τ} {e : Event τ} (h : HolderOwns s)
    (hnone : s'.foreignUnlocks = 0) (heff : Effect s e s') : HolderOwns s' := by
  have hmoved : ∀ t pc, (pc.holds = (s.waiters t).holds) → ∀ t',
      (Function.update s.waiters t pc t').holds = true → s.owner = some t' := by
    intro t pc hpc
    refine (Function.forall_update_iff s.waiters fun t' pc =>
      pc.holds = true → s.owner = some t').2 ⟨?_, ?_⟩
    · exact fun hholds => h t (hpc.symm.trans hholds)
    · exact fun t' _ => h t'
  have hacquired : ∀ t pc, s.owner = none → ∀ t',
      (Function.update s.waiters t pc t').holds = true → some t = some t' := by
    intro t pc howner
    refine (Function.forall_update_iff s.waiters fun t' pc =>
      pc.holds = true → some t = some t').2 ⟨fun _ => rfl, fun t' _ hholds => ?_⟩
    rw [h t' hholds] at howner
    cases howner
  have hreleased : ∀ t pc, (s.waiters t).holds = true → pc.holds = false → ∀ t',
      (Function.update s.waiters t pc t').holds = true → none = some t' := by
    intro t pc ht hpc
    refine (Function.forall_update_iff s.waiters fun t' pc =>
      pc.holds = true → none = some t').2 ⟨?_, ?_⟩
    · intro hholds
      rw [hpc] at hholds
      cases hholds
    · exact fun t' hne hholds => absurd (h.unique hholds ht) hne
  cases heff with
  | called t ht => exact hmoved t _ (by rw [ht]; rfl)
  | locked t ht howner => exact hacquired t _ howner
  | found _ t he ht hconnected => exact hmoved t _ (by rcases ht with ht | ht <;> rw [ht] <;> rfl)
  | computed t ht hconnected => exact hmoved t _ (by rw [ht]; rfl)
  | committed t ht hconnected => exact hmoved t _ (by rw [ht]; rfl)
  | slept t ht => exact hreleased t _ (by rw [ht]; rfl) rfl
  | woke t signalled ht => exact hmoved t _ (by rw [ht]; rfl)
  | timedOut t ht hexpired => exact hmoved t _ (by rw [ht]; rfl)
  | relocked t tw ht howner => exact hacquired t _ howner
  | finished t rc ht => exact hmoved t _ (by rw [ht]; rfl)
  | returned t rc ht => exact hreleased t _ (by rw [ht]; rfl) rfl
  | expired t hexpired => exact h
  | connected rc hlibrary => exact h
  | broadcast hlibrary => exact fun t' hholds => h t' ((holds_broadcast _ _).symm.trans hholds)
  | unlocked hlibrary => simp [State.unlocks] at hnone
  | disconnected hlibrary => exact h

/-- A step unlocks a mutex that its thread does not hold exactly if it is the unlock of
    `on_connect`. -/
theorem HolderOwns.foreignUnlocks_iff {s s' : State τ} {e : Event τ} (h : HolderOwns s)
    (hnone : s.foreignUnlocks = 0) (heff : Effect s e s') :
    s'.foreignUnlocks = 0 ↔ NotByOnConnect s e := by
  cases heff with
  | slept t ht =>
      exact iff_of_true ((h.unlocks (by rw [ht]; rfl)).trans hnone) trivial
  | returned t rc ht =>
      exact iff_of_true ((h.unlocks (by rw [ht]; rfl)).trans hnone) trivial
  | unlocked hlibrary =>
      exact iff_of_false (by simp [State.unlocks]) (fun hnot => hnot hlibrary)
  | found e t he ht hconnected =>
      refine iff_of_true hnone ?_
      cases e <;> trivial
  | called | locked | computed | committed | woke | timedOut | relocked | finished | expired
  | connected | broadcast | disconnected => exact iff_of_true hnone trivial

/-! ## The waiters whose connection comes in time -/

/-- Where a waiter can be, given whether its deadline has passed and whether its connection came in
    time: it does not go to sleep, it is woken, and it is not told that it came too late. -/
def Waiter.OnTime (library : Library) (expired inTime : Bool) : Waiter → Prop
  | .idle | .locking | .testing | .looping => True
  | .calling => inTime = false
  | .waiting signalled =>
    inTime = true → signalled = true ∨ (library = .broadcasting ∧ expired = false)
  | .relocking rc | .finishing rc => rc = 0 ∨ (rc = ETIMEDOUT ∧ expired = true ∧ inTime = false)
  | .unlocking rc => rc = 0 ∨ (inTime = false ∧ (expired = true ∨ rc = ENOTCONN))

/-- Every waiter is on time, and has returned 0 if its connection came in time. -/
structure Timely (s : State τ) : Prop where
  connected : ∀ t, s.inTime t = true → s.connected = true
  onTime : ∀ t, (s.waiters t).OnTime s.library (s.expired t) (s.inTime t)
  returned : ∀ r ∈ s.returned, r.2 = true → r.1 = 0

omit [DecidableEq τ] in
theorem timely_initial : Timely (State.initial (τ := τ)) where
  connected _ h := absurd h (by simp [State.initial])
  onTime _ := trivial
  returned _ h := absurd h (by simp [State.initial])

/-- A waiter moves to a place where it is on time. -/
theorem Timely.moves {s : State τ} (h : Timely s) {t : τ} {pc : Waiter}
    (hpc : pc.OnTime s.library (s.expired t) (s.inTime t)) :
    ∀ t', (Function.update s.waiters t pc t').OnTime s.library (s.expired t') (s.inTime t') :=
  (Function.forall_update_iff s.waiters fun t' pc =>
    pc.OnTime s.library (s.expired t') (s.inTime t')).2 ⟨hpc, fun t' _ => h.onTime t'⟩

/-- The library's thread goes on in `on_connect`. -/
theorem Waiter.OnTime.library {pc : Waiter} {library : Library} {expired inTime : Bool}
    (h : pc.OnTime library expired inTime) (hlibrary : library ≠ .broadcasting)
    (library' : Library) : pc.OnTime library' expired inTime := by
  cases pc with
  | waiting signalled => exact fun hin => .inl ((h hin).resolve_right fun hb => hlibrary hb.1)
  | idle | locking | testing | looping | calling | relocking | finishing | unlocking => exact h

/-- The waiters are woken. -/
theorem Waiter.OnTime.broadcast {pc : Waiter} {library : Library} {expired inTime : Bool}
    (h : pc.OnTime library expired inTime) :
    (match pc with
      | .waiting signalled => Waiter.waiting (signalled || !expired)
      | pc => pc).OnTime .unlocking expired inTime := by
  cases pc with
  | waiting signalled =>
      intro hin
      refine .inl ?_
      rcases h hin with rfl | ⟨-, rfl⟩
      · rfl
      · exact Bool.or_true signalled
  | idle | locking | testing | looping | calling | relocking | finishing | unlocking => exact h

/-- `connected` is cleared. -/
theorem Waiter.OnTime.disconnected {pc : Waiter} {library : Library} {expired inTime : Bool}
    (h : pc.OnTime library expired inTime) (library' : Library) :
    pc.OnTime library' expired false := by
  cases pc with
  | idle | locking | testing | looping => trivial
  | calling => rfl
  | waiting signalled => exact nofun
  | relocking rc => exact h.imp_right fun hlate => ⟨hlate.1, hlate.2.1, rfl⟩
  | finishing rc => exact h.imp_right fun hlate => ⟨hlate.1, hlate.2.1, rfl⟩
  | unlocking rc => exact h.imp_right fun hlate => ⟨rfl, hlate.2⟩

/-- `connected` is set, while the waiter is not about to sleep or to return `ENOTCONN`. -/
theorem Waiter.OnTime.connected {pc : Waiter} {expired inTime : Bool}
    (h : pc.OnTime .idle expired inTime) (hC : expired = false → pc.committed = false) :
    pc.OnTime .broadcasting expired (inTime || !expired) := by
  have hlate : expired = true → inTime = false → (inTime || !expired) = false := by
    rintro rfl rfl
    rfl
  cases pc with
  | idle | locking | testing | looping => trivial
  | calling =>
      cases hexpired : expired
      · exact absurd (hC hexpired) (by simp [Waiter.committed])
      · exact hexpired ▸ hlate hexpired h
  | waiting signalled =>
      intro hin
      rcases Bool.or_eq_true_iff.1 hin with hin | hnot
      · exact .inl ((h hin).resolve_right fun hb => absurd hb.1 (by decide))
      · exact .inr ⟨rfl, by simpa using hnot⟩
  | relocking rc => exact h.imp_right fun hold => ⟨hold.1, hold.2.1, hlate hold.2.1 hold.2.2⟩
  | finishing rc => exact h.imp_right fun hold => ⟨hold.1, hold.2.1, hlate hold.2.1 hold.2.2⟩
  | unlocking rc =>
      rcases h with rfl | ⟨hin, hold⟩
      · exact .inl rfl
      · have hexpired : expired = true := by
          rcases hold with hexpired | rfl
          · exact hexpired
          · by_contra hnot
            exact absurd (hC (Bool.eq_false_of_not_eq_true hnot)) (by simp [Waiter.committed])
        exact .inr ⟨hlate hexpired hin, hold⟩

/-- The deadline of a waiter passes. -/
theorem Waiter.OnTime.expires {pc : Waiter} {library : Library} {inTime : Bool}
    (h : pc.OnTime library false inTime) (hC : pc = .waiting false → inTime = false) :
    pc.OnTime library true inTime := by
  cases pc with
  | idle | locking | testing | looping | calling => exact h
  | waiting signalled =>
      intro hin
      cases signalled
      · rw [hC rfl] at hin
        cases hin
      · exact .inl rfl
  | relocking rc => exact h.imp_right fun hlate => ⟨hlate.1, rfl, hlate.2.2⟩
  | finishing rc => exact h.imp_right fun hlate => ⟨hlate.1, rfl, hlate.2.2⟩
  | unlocking rc => exact h.imp_right fun hlate => ⟨hlate.1, .inl rfl⟩

theorem Timely.effect {s s' : State τ} {e : Event τ} (h : Timely s) (hC : Noticed s e)
    (heff : Effect s e s') : Timely s' := by
  cases heff with
  | called t ht =>
      refine ⟨fun t' => ?_, fun t' => ?_, h.returned⟩
      · by_cases heq : t' = t
        · simp [heq, State.moves]
        · simpa [heq, State.moves] using h.connected t'
      · by_cases heq : t' = t
        · simp [heq, State.moves, Waiter.OnTime]
        · simpa [heq, State.moves] using h.onTime t'
  | locked t ht howner => exact ⟨h.connected, h.moves trivial, h.returned⟩
  | found e t he ht hconnected => exact ⟨h.connected, h.moves (.inl rfl), h.returned⟩
  | computed t ht hconnected => exact ⟨h.connected, h.moves trivial, h.returned⟩
  | committed t ht hconnected =>
      have hin : s.inTime t = false :=
        Bool.eq_false_of_not_eq_true fun hin => by simp [h.connected t hin] at hconnected
      exact ⟨h.connected, h.moves hin, h.returned⟩
  | slept t ht =>
      have hin : s.inTime t = false := by
        have hplace := h.onTime t
        rwa [ht] at hplace
      refine ⟨h.connected, h.moves fun hnot => ?_, h.returned⟩
      rw [hin] at hnot
      cases hnot
  | woke t signalled ht => exact ⟨h.connected, h.moves (.inl rfl), h.returned⟩
  | timedOut t ht hexpired =>
      have hin : s.inTime t = false := by
        have hplace := h.onTime t
        rw [ht] at hplace
        refine Bool.eq_false_of_not_eq_true fun hin => ?_
        rcases hplace hin with hsignalled | ⟨-, hnot⟩
        · cases hsignalled
        · rw [hexpired] at hnot
          cases hnot
      exact ⟨h.connected, h.moves (.inr ⟨rfl, hexpired, hin⟩), h.returned⟩
  | relocked t tw ht howner =>
      refine ⟨h.connected, h.moves ?_, h.returned⟩
      have hplace := h.onTime t
      rw [ht] at hplace
      split
      · next htw => exact htw ▸ hplace
      · trivial
  | finished t rc ht =>
      refine ⟨h.connected, h.moves ?_, h.returned⟩
      have hplace := h.onTime t
      rw [ht] at hplace
      split
      · next hnot =>
          refine .inr ⟨Bool.eq_false_of_not_eq_true fun hin => ?_, .inr rfl⟩
          simp [h.connected t hin] at hnot
      · exact hplace.imp_right fun hlate => ⟨hlate.2.2, .inl hlate.2.1⟩
  | returned t rc ht =>
      refine ⟨h.connected, h.moves trivial, fun r hr hin => ?_⟩
      have hplace := h.onTime t
      rw [ht] at hplace
      rcases List.mem_cons.1 hr with rfl | hr
      · refine hplace.resolve_right fun hlate => ?_
        have hin : s.inTime t = true := hin
        rw [hlate.1] at hin
        cases hin
      · exact h.returned r hr hin
  | expired t hexpired =>
      refine ⟨h.connected, fun t' => ?_, h.returned⟩
      by_cases heq : t' = t
      · subst heq
        have hplace := h.onTime t'
        rw [hexpired] at hplace
        simpa using hplace.expires hC
      · simpa [heq] using h.onTime t'
  | connected rc hlibrary =>
      by_cases hrc : rc = 0
      · refine ⟨fun t _ => by simp [hrc], fun t => ?_, h.returned⟩
        have hplace := h.onTime t
        rw [hlibrary] at hplace
        simpa [hrc] using hplace.connected (hC hrc t)
      · refine ⟨fun t hin => by simp [hrc] at hin, fun t => ?_, h.returned⟩
        simpa [hrc] using (h.onTime t).disconnected .broadcasting
  | broadcast hlibrary =>
      refine ⟨h.connected, fun t => ?_, h.returned⟩
      exact (h.onTime t).broadcast
  | unlocked hlibrary =>
      exact ⟨h.connected, fun t => (h.onTime t).library (by simp [hlibrary]) .idle, h.returned⟩
  | disconnected hlibrary =>
      exact ⟨nofun, fun t => (h.onTime t).disconnected s.library, h.returned⟩

/-! ## How a waiter gets to its return -/

/-- A step of the waiter, and then its return. -/
theorem ReturnsZero.after {s s' : State τ} {t : τ} {e : Event τ} (h : ReturnsZero s' t)
    (he : e.thread = some t) (hstep : step s e = some s') (hreturned : s'.returned = s.returned) :
    ReturnsZero s t := by
  obtain ⟨events, hown, s'', hexec, hidle, hlast⟩ := h
  refine ⟨e :: events, ?_, s'', ?_, hidle, hreturned ▸ hlast⟩
  · rintro e' (_ | ⟨_, hmem⟩)
    · exact he
    · exact hown e' hmem
  · exact (Run.exec_cons_eq_some step s s'' e events).2 ⟨s', hstep, hexec⟩

theorem returnsZero_unlocking {s : State τ} {t : τ} (ht : s.waiters t = .unlocking 0)
    (hin : s.inTime t = true) : ReturnsZero s t := by
  have hexec : Run.exec step s [.unlock t] = some
      { (s.unlocks (some t)).moves t .idle with returned := (0, s.inTime t) :: s.returned } := by
    simp [Run.exec, step, ht]
  exact ⟨[.unlock t], by simp [Event.thread], _, hexec, by simp [State.moves], by simp [hin]⟩

theorem returnsZero_finishing {s : State τ} {t : τ} (ht : s.waiters t = .finishing 0)
    (hin : s.inTime t = true) (hconnected : s.connected = true) : ReturnsZero s t := by
  have hnext : ReturnsZero (s.moves t (.unlocking 0)) t :=
    returnsZero_unlocking (by simp [State.moves]) hin
  exact hnext.after (e := .finish t) rfl (by simp [step, ht, hconnected]) rfl

/-- A waiter about to test `connected` finds it set. -/
theorem returnsZero_testing {s : State τ} {t : τ} (ht : s.waiters t = .testing)
    (hin : s.inTime t = true) (hconnected : s.connected = true) : ReturnsZero s t := by
  have hnext : ReturnsZero (s.moves t (.finishing 0)) t :=
    returnsZero_finishing (by simp [State.moves]) hin hconnected
  exact hnext.after (e := .test t) rfl (by simp [step, ht, hconnected]) rfl

theorem returnsZero_looping {s : State τ} {t : τ} (ht : s.waiters t = .looping)
    (hin : s.inTime t = true) (hconnected : s.connected = true) : ReturnsZero s t := by
  have hnext : ReturnsZero (s.moves t (.finishing 0)) t :=
    returnsZero_finishing (by simp [State.moves]) hin hconnected
  exact hnext.after (e := .loopTest t) rfl (by simp [step, ht, hconnected]) rfl

theorem returnsZero_locking {s : State τ} {t : τ} (ht : s.waiters t = .locking)
    (howner : s.owner = none) (hin : s.inTime t = true) (hconnected : s.connected = true) :
    ReturnsZero s t := by
  have hnext : ReturnsZero { s.moves t .testing with owner := some t } t :=
    returnsZero_testing (by simp [State.moves]) hin hconnected
  exact hnext.after (e := .lock t) rfl (by simp [step, ht, howner]) rfl

theorem returnsZero_relocking {s : State τ} {t : τ} (ht : s.waiters t = .relocking 0)
    (howner : s.owner = none) (hin : s.inTime t = true) (hconnected : s.connected = true) :
    ReturnsZero s t := by
  have hnext : ReturnsZero { s.moves t .looping with owner := some t } t :=
    returnsZero_looping (by simp [State.moves]) hin hconnected
  exact hnext.after (e := .relock t) rfl (by simp [step, ht, howner, ETIMEDOUT]) rfl

theorem returnsZero_waiting {s : State τ} {t : τ} {signalled : Bool}
    (ht : s.waiters t = .waiting signalled) (howner : s.owner = none) (hin : s.inTime t = true)
    (hconnected : s.connected = true) : ReturnsZero s t := by
  have hnext : ReturnsZero (s.moves t (.relocking 0)) t :=
    returnsZero_relocking (by simp [State.moves]) howner hin hconnected
  exact hnext.after (e := .wake t) rfl (by simp [step, ht]) rfl

theorem Timely.connects {s : State τ} (h : Timely s) (howners : OwnerHolds s) : Connects s where
  returned := h.returned
  awake t signalled ht hin := by
    have hplace := h.onTime t
    rw [ht] at hplace
    exact (hplace hin).imp_right And.left
  returns t hidle hin hlibrary howner := by
    have hconnected := h.connected t hin
    have hfree : (s.waiters t).holds = false → s.owner = none := by
      intro hnot
      refine howner.resolve_right fun hown => ?_
      rw [howners t hown] at hnot
      cases hnot
    have hplace := h.onTime t
    rw [hin] at hplace
    cases ht : s.waiters t with
    | idle => exact absurd ht hidle
    | locking => exact returnsZero_locking ht (hfree (by rw [ht]; rfl)) hin hconnected
    | testing => exact returnsZero_testing ht hin hconnected
    | looping => exact returnsZero_looping ht hin hconnected
    | calling =>
        rw [ht] at hplace
        cases hplace
    | waiting signalled => exact returnsZero_waiting ht (hfree (by rw [ht]; rfl)) hin hconnected
    | relocking rc =>
        rw [ht] at hplace
        obtain rfl := hplace.resolve_right fun hlate => nomatch hlate.2.2
        exact returnsZero_relocking ht (hfree (by rw [ht]; rfl)) hin hconnected
    | finishing rc =>
        rw [ht] at hplace
        obtain rfl := hplace.resolve_right fun hlate => nomatch hlate.2.2
        exact returnsZero_finishing ht hin hconnected
    | unlocking rc =>
        rw [ht] at hplace
        obtain rfl := hplace.resolve_right fun hlate => nomatch hlate.1
        exact returnsZero_unlocking ht hin

/-! ## The results -/

/-- Every unlock of the mutex is by the thread that holds it exactly in the runs in which no
    `on_connect` gets to its unlock. -/
theorem foreignUnlocks_exact (events : List (Event τ)) :
    Run.AllStates step (fun s => s.foreignUnlocks = 0) (State.initial (τ := τ)) events ↔
      Run.AllSteps step NotByOnConnect (State.initial (τ := τ)) events := by
  refine Run.allStates_iff_allSteps (I := HolderOwns) ?_ ?_ ?_ events _ ?_ rfl
  · exact fun s e s' h _ hstep hnone => h.effect hnone (step_effect hstep)
  · exact fun s e s' h hnone hstep => h.foreignUnlocks_iff hnone (step_effect hstep)
  · intro s e _ _ hblocked
    cases e <;> first | trivial | exact fun hlibrary => by simp [step, hlibrary] at hblocked
  · exact fun t hholds => absurd hholds (by simp [State.initial, Waiter.holds])

/-- In every run in which each write of `connected` comes before a waiter's last test or after it
    has gone to sleep, and no deadline comes between the write and the broadcast, every waiter
    whose connection comes in time returns 0. -/
theorem connects_of_noticed (events : List (Event τ))
    (hrun : Run.AllSteps step Noticed (State.initial (τ := τ)) events) :
    Run.AllStates step Connects (State.initial (τ := τ)) events := by
  have htimely := Run.allStates_of_allSteps (P := fun s => Timely s ∧ OwnerHolds s)
    (fun s e s' hs hC h => ⟨hs.1.effect hC (step_effect h), hs.2.effect (step_effect h)⟩) events _
    ⟨timely_initial, fun t hnone => absurd hnone (by simp [State.initial])⟩ hrun
  exact htimely.imp fun s hs => hs.1.connects hs.2

/-- **The wait for the connection.** `conn_mutex` is only unlocked by the thread that holds it
    exactly as long as no `on_connect` unlocks it; and a connection that comes in time is returned
    when each write of the flag is noticed. -/
theorem connection_wait_exact (events : List (Event τ)) :
    (Run.AllStates step (fun s => s.foreignUnlocks = 0) (State.initial (τ := τ)) events ↔
      Run.AllSteps step NotByOnConnect (State.initial (τ := τ)) events) ∧
    (Run.AllSteps step Noticed (State.initial (τ := τ)) events →
      Run.AllStates step Connects (State.initial (τ := τ)) events) :=
  ⟨foreignUnlocks_exact events, connects_of_noticed events⟩

/-- A waiter sleeps, is woken, and returns. -/
def wokenRun : List (Event Unit) :=
  [.call (), .lock (), .test (), .loopTest (), .sleep (), .connect 0, .broadcast, .unlockConnect,
    .wake (), .relock (), .loopTest (), .finish (), .unlock ()]

theorem connection_wait_exact_wokenRun :
    Run.AllStates step Connects (State.initial (τ := Unit)) wokenRun :=
  (connection_wait_exact wokenRun).2 (by decide +kernel)

/-- `on_connect` unlocks a mutex that it does not hold, and a waiter that has found the flag clear
    sleeps through the broadcast: its wait ends at the deadline though it is connected. -/
theorem connection_missed :
    (∃ s, Run.exec step (State.initial (τ := Unit))
      [.call (), .lock (), .test (), .connect 0, .broadcast, .unlockConnect] = some s ∧
      s.owner = none ∧ s.foreignUnlocks = 1) ∧
    ∃ s, Run.exec step (State.initial (τ := Unit))
      [.call (), .lock (), .test (), .loopTest (), .connect 0, .broadcast, .unlockConnect,
        .sleep (), .expire (), .timeout (), .relock (), .finish (), .unlock ()] = some s ∧
      s.connected = true ∧ s.returned = [(ETIMEDOUT, true)] ∧ ¬Connects s := by
  constructor
  · exact Run.exists_exec_of_ends (Q := fun s => s.owner = none ∧ s.foreignUnlocks = 1)
      (by decide +kernel) fun _ hs => hs
  · refine Run.exists_exec_of_ends
      (Q := fun s => s.connected = true ∧ s.returned = [(ETIMEDOUT, true)]) (by decide +kernel) ?_
    rintro s ⟨hconnected, hreturned⟩
    refine ⟨hconnected, hreturned, fun h => ?_⟩
    have hzero : ETIMEDOUT = 0 := h.returned (ETIMEDOUT, true) (by simp [hreturned]) rfl
    exact absurd hzero (by decide)

end MosquittoConnection
