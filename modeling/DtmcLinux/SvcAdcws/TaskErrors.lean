import DtmcLinux.SvcAdcws.Basic

set_option autoImplicit false

/-! # Who disposes the error of a task

The error a task has ended with is reachable from the tasker, from the copy the info callback gets,
and, once `svc_start` has found it, from `main`. The callback disposes it and clears its own copy,
and `main` disposes what `svc_start` returns. So it is disposed once only when the process ends
before the thread of the task gets to the callback. -/

namespace SvcAdcws

open Ownership

/-! ## The property -/

/-- The error that `svc_start` has read was not disposed then, and has been disposed once. -/
def DisposedOnce (s : State) : Prop :=
  ∀ r ∈ s.reading, ∀ i ∈ r.dterr.objects,
    .disposed i ∉ r.log ∧ s.ledger.log.count (.disposed i) = 1

instance DisposedOnce.decidable (s : State) : Decidable (DisposedOnce s) :=
  inferInstanceAs (Decidable (∀ r ∈ s.reading, _))

/-! ## What a step does -/

/-- `svc_start` has not returned. -/
def MainPc.working : MainPc → Bool
  | .describing | .creating _ | .starting _ | .waiting _ | .polling _ => true
  | .returned _ | .disposed | .exited => false

/-- The tasks that `svc_start` has yet to start. -/
def MainPc.unstarted : MainPc → List Service
  | .describing | .creating _ | .starting .rx => [.rx, .tx, .zz]
  | .starting .tx | .waiting .rx => [.tx, .zz]
  | .starting .zz | .waiting .tx => [.zz]
  | .waiting .zz | .polling _ | .returned _ | .disposed | .exited => []

/-- The task whose info callback is called. -/
def Event.calledBack : Event → Option Service
  | .callback k => some k
  | .describe _ | .create _ | .start _ | .started _ | .poll _ | .dispose | .exit | .ready _ _
  | .ends _ _ | .setInfo _ | .post _ _ => none

/-- The outcomes of a step. `rp` and `posted` are the flags of the ready semaphores afterwards. -/
inductive Effect (s : State) : Event → State → Prop where
  | failed {e : Event} (he : e.calledBack = none) (dterr : Dterr)
      (hmain : s.main.working = true) : Effect s e (s.fails dterr)
  | moved {e : Event} (he : e.calledBack = none) (main : MainPc) (hmain : s.main.working = true)
      (hnew : main.working = true) (hunstarted : ∀ k ∈ main.unstarted, k ∈ s.main.unstarted) :
      Effect s e { s with main := main }
  | started {e : Event} (he : e.calledBack = none) (k : Service) (hmain : s.main = .starting k) :
      Effect s e { s.setThread k .entry with main := .waiting k }
  /-- `svc_start` finds the error of task `k` -/
  | found {e : Event} (he : e.calledBack = none) (k : Service) (p : DterrPtr)
      (hmain : s.main = .polling k) (hinfo : (s.infos k).dterr = some p) :
      Effect s e { s with
        main := .returned p
        ledger := s.ledger.giveBack (some p)
        reading := some { task := k, dterr := p, log := s.ledger.log } }
  | disposed {e : Event} (he : e.calledBack = none) (p : DterrPtr) (hmain : s.main = .returned p) :
      Effect s e { s with
        main := .disposed
        ledger := (s.ledger.touch p.objects).disposeHeld p.objects }
  | exited {e : Event} (he : e.calledBack = none) (hmain : s.main = .disposed) :
      Effect s e { s with main := .exited }
  | looping {e : Event} (he : e.calledBack = none) (k : Service) (infos : Service → Info)
      (rp posted : Service → Bool) (hthread : s.threads k = .entry)
      (hinfos : ∀ k p, (infos k).dterr = some p → (s.infos k).dterr = some p) :
      Effect s e { s.setThread k .looping with
        infos := infos
        readyPosted := rp
        posted := posted }
  | entryReturned {e : Event} (he : e.calledBack = none) (k : Service) (dterr : Dterr)
      (infos : Service → Info) (rp posted : Service → Bool)
      (hthread : s.threads k = .entry ∨ s.threads k = .looping)
      (hinfos : ∀ k p, (infos k).dterr = some p → (s.infos k).dterr = some p) :
      Effect s e { s.entryReturns k dterr with
        infos := infos
        readyPosted := rp
        posted := posted }
  | stored {e : Event} (he : e.calledBack = none) (k : Service) (p : DterrPtr)
      (status : Dttasker.Status) (hthread : s.threads k = .returned p) :
      Effect s e { s.setThread k (.calling p) with
        infos := Function.update s.infos k { status := status, dterr := some p } }
  | calledBack (k : Service) (p : DterrPtr) (hthread : s.threads k = .calling p) :
      Effect s (.callback k) { s.setThread k (.posting p) with
        ledger := (s.ledger.touch p.objects).dterrDispose p.objects }
  | threadEnded {e : Event} (he : e.calledBack = none) (k : Service) (p : DterrPtr)
      (rp posted : Service → Bool) (l : Ledger) (uses : List ℕ) (hthread : s.threads k = .posting p)
      (hnext : s.ledger.next ≤ l.next) (hlog : l.log = uses.map .used ++ s.ledger.log) :
      Effect s e { s.setThread k (.exited p) with
        readyPosted := rp
        posted := posted
        ledger := l }

/-- A call under `DTERR_C` fails, or the main thread goes on. -/
theorem calls_effect {s : State} {e : Event} (he : e.calledBack = none) {dterr : Option Dterr}
    {main : MainPc} (hmain : s.main.working = true) (hnew : main.working = true)
    (hunstarted : ∀ k ∈ main.unstarted, k ∈ s.main.unstarted) :
    Effect s e (s.calls dterr main) := by
  cases dterr with
  | some dterr => exact .failed he dterr hmain
  | none => exact .moved he main hmain hnew hunstarted

/-- `dttasker_ready` clears the error of the info. -/
theorem ready_infos {infos : Service → Info} {k : Service} {status : Dttasker.Status} :
    ∀ k' p, (Function.update infos k { status := status, dterr := none } k').dterr = some p →
      (infos k').dterr = some p := by
  intro k' p h
  by_cases hk : k' = k
  · simp [hk] at h
  · simpa [hk] using h

/-- The last step of a thread appends the error of the post, if there is one. -/
theorem freshOpt_append_log (l : Ledger) (p : DterrPtr) (dterr : Option Dterr) :
    l.next ≤ ((l.freshOpt dterr).1.dterrAppend (some p) (l.freshOpt dterr).2).1.next ∧
      ∃ uses : List ℕ, ((l.freshOpt dterr).1.dterrAppend (some p) (l.freshOpt dterr).2).1.log
        = uses.map .used ++ l.log := by
  cases dterr with
  | none => exact ⟨Nat.le_refl _, [], rfl⟩
  | some dterr => exact ⟨Nat.le_add_right _ _, _, rfl⟩

theorem step_effect {s s' : State} {e : Event} (h : step s e = some s') : Effect s e s' := by
  unfold step at h
  cases e with
  | describe dterr =>
      dsimp only at h
      split at h
      · next hmain =>
          obtain rfl := Option.some.inj h
          exact calls_effect rfl (by rw [hmain]; rfl) rfl (by simp [hmain, MainPc.unstarted])
      · exact absurd h (by simp)
  | create dterr =>
      dsimp only at h
      split at h
      · next k hmain =>
          obtain rfl := Option.some.inj h
          refine calls_effect rfl (by rw [hmain]; rfl) ?_ ?_
          · cases k <;> rfl
          · cases k <;> simp [hmain, MainPc.unstarted, Service.next]
      · exact absurd h (by simp)
  | start dterr =>
      dsimp only at h
      split at h
      · next k hmain =>
          split at h <;> obtain rfl := Option.some.inj h
          · exact .failed rfl _ (by rw [hmain]; rfl)
          · exact .started rfl k hmain
      · exact absurd h (by simp)
  | started dterr =>
      dsimp only at h
      split at h
      · next k hmain =>
          split at h
          · obtain rfl := Option.some.inj h
            refine calls_effect rfl (by rw [hmain]; rfl) ?_ ?_
            · cases k <;> rfl
            · cases k <;> simp [hmain, MainPc.unstarted, Service.next]
          · exact absurd h (by simp)
      · exact absurd h (by simp)
  | poll dterr =>
      dsimp only at h
      split at h
      · next k hmain =>
          split at h
          · obtain rfl := Option.some.inj h
            exact .failed rfl _ (by rw [hmain]; rfl)
          · split at h <;> obtain rfl := Option.some.inj h
            · next p hinfo => exact .found rfl k p hmain hinfo
            · exact .moved rfl _ (by rw [hmain]; rfl) rfl (by simp [MainPc.unstarted])
      · exact absurd h (by simp)
  | dispose =>
      dsimp only at h
      split at h
      · next p hmain =>
          obtain rfl := Option.some.inj h
          exact .disposed rfl p hmain
      · exact absurd h (by simp)
  | exit =>
      dsimp only at h
      split at h
      · next hmain =>
          obtain rfl := Option.some.inj h
          exact .exited rfl hmain
      · exact absurd h (by simp)
  | ready k dterr =>
      dsimp only at h
      split at h
      · exact absurd h (by simp)
      · next hthread _ =>
          unfold State.postReadyOnce at h
          split at h
          · next heq =>
              split at heq
              · simp at heq
              · obtain ⟨rfl, rfl⟩ := Prod.mk.inj heq
                obtain rfl := Option.some.inj h
                exact .entryReturned rfl k _ _ _ _ (.inl hthread) ready_infos
          · next heq =>
              split at heq <;> obtain ⟨rfl, -⟩ := Prod.mk.inj heq <;>
                obtain rfl := Option.some.inj h
              · exact .looping rfl k _ s.readyPosted s.posted hthread ready_infos
              · exact .looping rfl k _ _ _ hthread ready_infos
      · exact absurd h (by simp)
  | ends k dterr =>
      dsimp only at h
      split at h
      · exact absurd h (by simp)
      · next hthread _ =>
          obtain rfl := Option.some.inj h
          exact .entryReturned rfl k dterr s.infos s.readyPosted s.posted (.inl hthread)
            fun _ _ hp => hp
      · next hthread _ =>
          obtain rfl := Option.some.inj h
          exact .entryReturned rfl k dterr s.infos s.readyPosted s.posted (.inr hthread)
            fun _ _ hp => hp
      · exact absurd h (by simp)
  | setInfo k =>
      dsimp only at h
      split at h
      · exact absurd h (by simp)
      · next p hthread _ =>
          obtain rfl := Option.some.inj h
          exact .stored rfl k p _ hthread
      · exact absurd h (by simp)
  | callback k =>
      dsimp only at h
      split at h
      · exact absurd h (by simp)
      · next p hthread _ =>
          obtain rfl := Option.some.inj h
          exact .calledBack k p hthread
      · exact absurd h (by simp)
  | post k dterr =>
      dsimp only at h
      split at h
      · exact absurd h (by simp)
      · next p hthread _ =>
          obtain rfl := Option.some.inj h
          unfold State.postReadyOnce
          split
          · exact .threadEnded rfl k p s.readyPosted s.posted s.ledger [] hthread (Nat.le_refl _) rfl
          · obtain ⟨hnext, uses, hlog⟩ := freshOpt_append_log s.ledger p dterr
            exact .threadEnded rfl k p _ _ _ uses hthread hnext hlog
      · exact absurd h (by simp)

/-! ## Where the errors are -/

/-- `main` has disposed the error that `svc_start` has returned. -/
def MainPc.cleaned : MainPc → Bool
  | .disposed | .exited => true
  | .describing | .creating _ | .starting _ | .waiting _ | .polling _ | .returned _ => false

/-- `svc_start` has returned `p`, which may have been disposed since. -/
def MainPc.HasReturned (main : MainPc) (p : DterrPtr) : Prop :=
  main = .returned p ∨ main.cleaned = true

/-- `main` has disposed the error of task `k`. -/
def State.mainDisposed (s : State) (k : Service) : Bool :=
  s.main.cleaned && s.reading.any fun r => r.task = k

/-- The errors of different tasks are different objects, each disposed once by the callback, once it
    has been called, and once by `main`, if that is what `svc_start` has returned. -/
structure Tracked (s : State) : Prop where
  unstarted : ∀ k ∈ s.main.unstarted, s.threads k = .absent
  ne_nil : ∀ k p, (s.threads k).dterr = some p → p.objects ≠ []
  nodup : ∀ k p, (s.threads k).dterr = some p → p.objects.Nodup
  lt : ∀ k p, (s.threads k).dterr = some p → ∀ i ∈ p.objects, i < s.ledger.next
  apart : ∀ k k' p p', k ≠ k' → (s.threads k).dterr = some p → (s.threads k').dterr = some p' →
    List.Disjoint p.objects p'.objects
  info : ∀ k p, (s.infos k).dterr = some p → (s.threads k).dterr = some p
  disposed_lt : ∀ i, .disposed i ∈ s.ledger.log → i < s.ledger.next
  working : s.main.working = true → s.reading = none
  read : ∀ r, s.reading = some r → (s.threads r.task).dterr = some r.dterr
  returned : ∀ r, s.reading = some r → s.main.HasReturned r.dterr
  log : ∀ r, s.reading = some r → ∀ i ∈ r.dterr.objects, .disposed i ∈ r.log →
    (s.threads r.task).calledBack = true
  own_lt : ∀ p, s.main = .returned p → ∀ i ∈ p.objects, i < s.ledger.next
  own : ∀ p, s.main = .returned p → s.reading = none → ∀ k p', (s.threads k).dterr = some p' →
    List.Disjoint p.objects p'.objects
  count : ∀ k p, (s.threads k).dterr = some p → ∀ i ∈ p.objects,
    s.ledger.log.count (.disposed i)
      = (if (s.threads k).calledBack then 1 else 0) + if s.mainDisposed k then 1 else 0

theorem tracked_initial : Tracked .initial where
  unstarted _ _ := rfl
  ne_nil _ _ h := absurd h (by simp [State.initial, TaskPc.dterr])
  nodup _ _ h := absurd h (by simp [State.initial, TaskPc.dterr])
  lt _ _ h := absurd h (by simp [State.initial, TaskPc.dterr])
  apart _ _ _ _ _ h := absurd h (by simp [State.initial, TaskPc.dterr])
  info _ _ h := absurd h (by simp [State.initial])
  disposed_lt _ h := absurd h (by simp [State.initial, Ledger.empty])
  working _ := rfl
  read _ h := absurd h (by simp [State.initial])
  returned _ h := absurd h (by simp [State.initial])
  log _ h := absurd h (by simp [State.initial])
  own_lt _ h := absurd h (by simp [State.initial])
  own _ h := absurd h (by simp [State.initial])
  count _ _ h := absurd h (by simp [State.initial, TaskPc.dterr])

/-- A step that neither makes nor disposes errors of tasks, nor returns from `svc_start`. -/
theorem Tracked.frame {s s' : State} (h : Tracked s)
    (hunstarted : ∀ k ∈ s'.main.unstarted, s'.threads k = .absent)
    (hdterr : ∀ k, (s'.threads k).dterr = (s.threads k).dterr)
    (hback : ∀ k, (s'.threads k).calledBack = (s.threads k).calledBack)
    (hinfo : ∀ k p, (s'.infos k).dterr = some p → (s'.threads k).dterr = some p)
    (hnext : s.ledger.next ≤ s'.ledger.next)
    (hlog : ∃ uses : List ℕ, s'.ledger.log = uses.map .used ++ s.ledger.log)
    (hreading : s'.reading = s.reading)
    (hmain : s'.main = s.main ∨ s'.main.working = true ∧ s.main.working = true ∨
      s'.main = .exited ∧ s.main = .disposed) : Tracked s' := by
  obtain ⟨uses, hlog⟩ := hlog
  have hcleaned : s'.main.cleaned = s.main.cleaned := by
    rcases hmain with hmain | ⟨hnew, hold⟩ | ⟨hnew, hold⟩
    · rw [hmain]
    · cases hs' : s'.main <;> cases hs : s.main <;>
        simp [hs, hs', MainPc.working, MainPc.cleaned] at hnew hold ⊢
    · rw [hnew, hold]
      rfl
  have hreturned : ∀ p, s'.main = .returned p → s.main = .returned p := by
    intro p hp
    rcases hmain with hmain | ⟨hnew, -⟩ | ⟨hnew, -⟩
    · rwa [← hmain]
    · simp [hp, MainPc.working] at hnew
    · simp [hp] at hnew
  have hhas : ∀ p, s.reading ≠ none → s.main.HasReturned p → s'.main.HasReturned p := by
    intro p hne hp
    rcases hmain with hmain | ⟨-, hold⟩ | ⟨hnew, -⟩
    · rwa [hmain]
    · exact absurd (h.working hold) hne
    · exact .inr (by rw [hnew]; rfl)
  refine ⟨hunstarted, ?_, ?_, ?_, ?_, hinfo, ?_, ?_, ?_, ?_, ?_, ?_, ?_, ?_⟩
  · exact fun k p hp => h.ne_nil k p ((hdterr k).symm.trans hp)
  · exact fun k p hp => h.nodup k p ((hdterr k).symm.trans hp)
  · exact fun k p hp i hi => Nat.lt_of_lt_of_le (h.lt k p ((hdterr k).symm.trans hp) i hi) hnext
  · exact fun k k' p p' hne hp hp' =>
      h.apart k k' p p' hne ((hdterr k).symm.trans hp) ((hdterr k').symm.trans hp')
  · intro i hi
    rw [hlog] at hi
    exact Nat.lt_of_lt_of_le (h.disposed_lt i (disposed_mem_used hi)) hnext
  · intro hworking
    rw [hreading]
    rcases hmain with hmain | ⟨-, hold⟩ | ⟨hnew, -⟩
    · exact h.working (hmain ▸ hworking)
    · exact h.working hold
    · simp [hnew, MainPc.working] at hworking
  · exact fun r hr => (hdterr _).trans (h.read r (hreading ▸ hr))
  · exact fun r hr => hhas _ (by rw [← hreading, hr]; simp) (h.returned r (hreading ▸ hr))
  · exact fun r hr i hi hmem => (hback _).trans (h.log r (hreading ▸ hr) i hi hmem)
  · exact fun p hp i hi => Nat.lt_of_lt_of_le (h.own_lt p (hreturned p hp) i hi) hnext
  · exact fun p hp hnone k p' hp' =>
      h.own p (hreturned p hp) (hreading ▸ hnone) k p' ((hdterr k).symm.trans hp')
  · intro k p hp i hi
    have hmain : s'.mainDisposed k = s.mainDisposed k := by
      rw [State.mainDisposed, State.mainDisposed, hcleaned, hreading]
    rw [hlog, count_disposed_used, h.count k p ((hdterr k).symm.trans hp) i hi, hback, hmain]

@[simp] theorem State.setThread_self (s : State) (k : Service) (pc : TaskPc) :
    (s.setThread k pc).threads k = pc := by
  simp [setThread]

theorem State.setThread_of_ne (s : State) {k k' : Service} (pc : TaskPc) (h : k' ≠ k) :
    (s.setThread k pc).threads k' = s.threads k' := by
  simp [setThread, h]

/-- The thread of a task moves on; the error of its entry function is as before. -/
theorem setThread_same {α : Type*} (f : TaskPc → α) {s : State} {k : Service} (pc : TaskPc)
    (h : f pc = f (s.threads k)) (k' : Service) :
    f ((s.setThread k pc).threads k') = f (s.threads k') := by
  by_cases hk : k' = k
  · rw [hk, State.setThread_self, h]
  · rw [State.setThread_of_ne s pc hk]

/-- A thread that has been started moves on. -/
theorem Tracked.unstarted_setThread {s : State} (h : Tracked s) {k : Service} {pc : TaskPc}
    (hthread : s.threads k ≠ .absent) :
    ∀ k' ∈ s.main.unstarted, (s.setThread k pc).threads k' = .absent := by
  intro k' hk'
  have habsent := h.unstarted k' hk'
  have hne : k' ≠ k := by
    rintro rfl
    exact hthread habsent
  exact (s.setThread_of_ne pc hne).trans habsent

/-- A thread moves on without returning from its entry function or from the callback. -/
theorem Tracked.threadMoves {s : State} (h : Tracked s) {k : Service} {pc : TaskPc}
    {infos : Service → Info} (rp posted : Service → Bool) {l : Ledger} (uses : List ℕ)
    (hthread : s.threads k ≠ .absent) (hdterr : pc.dterr = (s.threads k).dterr)
    (hback : pc.calledBack = (s.threads k).calledBack)
    (hinfo : ∀ k' p, (infos k').dterr = some p → (s.threads k').dterr = some p)
    (hnext : s.ledger.next ≤ l.next) (hlog : l.log = uses.map .used ++ s.ledger.log) :
    Tracked { s.setThread k pc with
      infos := infos
      readyPosted := rp
      posted := posted
      ledger := l } := by
  have hsame := setThread_same TaskPc.dterr pc hdterr
  exact h.frame (h.unstarted_setThread hthread) hsame (setThread_same TaskPc.calledBack pc hback)
    (fun k' p hp => (hsame k').trans (hinfo k' p hp)) hnext ⟨uses, hlog⟩ rfl (.inl rfl)

/-- `svc_start` returns an error of its own. -/
theorem Tracked.failed {s : State} (h : Tracked s) (dterr : Dterr)
    (hmain : s.main.working = true) : Tracked (s.fails dterr) := by
  have hnone := h.working hmain
  have hnext : s.ledger.next ≤ (s.fails dterr).ledger.next := Nat.le_add_right _ _
  have hlog : (s.fails dterr).ledger.log
      = (s.ledger.fresh dterr).2.objects.map .used ++ s.ledger.log := rfl
  have hown : ∀ p, (s.fails dterr).main = .returned p →
      ∀ i ∈ p.objects, s.ledger.next ≤ i ∧ i < (s.fails dterr).ledger.next := by
    rintro p hp i hi
    obtain rfl : (s.ledger.fresh dterr).2 = p := by simpa [State.fails] using hp
    exact (Makes.fresh [] s.ledger dterr).new_range i hi
  refine ⟨by simp [State.fails, MainPc.unstarted], h.ne_nil, h.nodup, ?_, h.apart, h.info, ?_, ?_,
    ?_, ?_, ?_, fun p hp i hi => (hown p hp i hi).2, ?_, ?_⟩
  · exact fun k p hp i hi => Nat.lt_of_lt_of_le (h.lt k p hp i hi) hnext
  · intro i hi
    rw [hlog] at hi
    exact Nat.lt_of_lt_of_le (h.disposed_lt i (disposed_mem_used hi)) hnext
  · exact fun _ => hnone
  · exact fun r hr => h.read r hr
  · exact fun r hr => absurd (hnone.symm.trans hr) (by simp)
  · exact fun r hr => h.log r hr
  · intro p hp _ k p' hp' i hi hi'
    exact Nat.not_lt_of_le (hown p hp i hi).1 (h.lt k p' hp' i hi')
  · intro k p hp i hi
    have hold := h.count k p hp i hi
    have hmd : ∀ main, { s with main := main }.mainDisposed k = false := by
      intro main
      simp [State.mainDisposed, hnone]
    rw [show s.mainDisposed k = false from hmd s.main] at hold
    rw [hlog, count_disposed_used, hold, show (s.fails dterr).mainDisposed k = false from hmd _]
    rfl

/-- `svc_start` finds the error of a task, and returns it. -/
theorem Tracked.found {s : State} (h : Tracked s) {k : Service} {p : DterrPtr}
    (hmain : s.main = .polling k) (hinfo : (s.infos k).dterr = some p) :
    Tracked { s with
      main := .returned p
      ledger := s.ledger.giveBack (some p)
      reading := some { task := k, dterr := p, log := s.ledger.log } } := by
  have hp := h.info k p hinfo
  have hmd : ∀ k, s.mainDisposed k = false := by
    simp [State.mainDisposed, hmain, MainPc.cleaned]
  refine ⟨by simp [MainPc.unstarted], h.ne_nil, h.nodup, h.lt, h.apart, h.info, ?_,
    fun hw => absurd hw (by simp [MainPc.working]), ?_, ?_, ?_, ?_,
    fun _ _ hnone => absurd hnone (by simp), ?_⟩
  · exact fun i hi => h.disposed_lt i (disposed_mem_used hi)
  · rintro r hr
    obtain rfl := Option.some.inj hr
    exact hp
  · rintro r hr
    obtain rfl := Option.some.inj hr
    exact .inl rfl
  · rintro r hr i hi hmem
    obtain rfl := Option.some.inj hr
    have hcount := h.count k p hp i hi
    rw [hmd k] at hcount
    cases hback : (s.threads k).calledBack with
    | true => rfl
    | false =>
        rw [hback] at hcount
        exact absurd hmem (List.count_eq_zero.1 hcount)
  · rintro q hq
    obtain rfl : p = q := by simpa using hq
    exact h.lt k p hp
  · intro k' p' hp' i hi
    have hold := h.count k' p' hp' i hi
    rw [hmd k'] at hold
    show ((p.objects.map Use.used ++ s.ledger.log).count _) = _
    rw [count_disposed_used, hold]
    simp [State.mainDisposed, MainPc.cleaned]

/-- `main` disposes the error that `svc_start` has returned. -/
theorem Tracked.disposed {s : State} (h : Tracked s) {p : DterrPtr}
    (hmain : s.main = .returned p) :
    Tracked { s with
      main := .disposed
      ledger := (s.ledger.touch p.objects).disposeHeld p.objects } := by
  have hlog (i : ℕ) : (p.objects.map Use.disposed ++ (p.objects.map Use.used ++ s.ledger.log)).count
      (.disposed i) = p.objects.count i + s.ledger.log.count (.disposed i) := by
    rw [count_disposed_chain, count_disposed_used]
  refine ⟨by simp [MainPc.unstarted], h.ne_nil, h.nodup, h.lt, h.apart, h.info, ?_,
    fun hw => absurd hw (by simp [MainPc.working]), h.read, fun _ _ => .inr rfl, h.log,
    fun _ hp => absurd hp (by simp), fun _ hp => absurd hp (by simp), ?_⟩
  · intro i hi
    obtain hi | hi := disposed_mem_disposed.1 hi
    · exact h.own_lt p hmain i hi
    · exact h.disposed_lt i (disposed_mem_used hi)
  · intro k q hq i hi
    have hold := h.count k q hq i hi
    have hmd : s.mainDisposed k = false := by
      simp [State.mainDisposed, hmain, MainPc.cleaned]
    rw [hmd] at hold
    refine (hlog i).trans ?_
    rw [hold]
    cases hreading : s.reading with
    | none =>
        have hnot : i ∉ p.objects := fun hmem => h.own p hmain hreading k q hq hmem hi
        simp [State.mainDisposed, List.count_eq_zero.2 hnot]
    | some r =>
        have hr := h.read r hreading
        obtain rfl : p = r.dterr := by
          simpa [MainPc.HasReturned, hmain, MainPc.cleaned] using h.returned r hreading
        by_cases hk : r.task = k
        · obtain rfl : q = r.dterr := by
            rw [hk, hq] at hr
            exact Option.some.inj hr
          have hone : r.dterr.objects.count i = 1 := by
            rw [(h.nodup k _ hq).count, if_pos hi]
          simp [State.mainDisposed, MainPc.cleaned, hk, hone, Nat.add_comm]
        · have hnot : i ∉ r.dterr.objects := fun hmem => h.apart _ _ _ _ hk hr hq hmem hi
          simp [State.mainDisposed, hk, List.count_eq_zero.2 hnot]

/-- The entry function of a task returns an error: new objects, of which nothing is recorded. -/
theorem Tracked.entryReturned {s : State} (h : Tracked s) {k : Service} (dterr : Dterr)
    {infos : Service → Info} (rp posted : Service → Bool)
    (hthread : s.threads k = .entry ∨ s.threads k = .looping)
    (hinfos : ∀ k p, (infos k).dterr = some p → (s.infos k).dterr = some p) :
    Tracked { s.entryReturns k dterr with
      infos := infos
      readyPosted := rp
      posted := posted } := by
  have hno : (s.threads k).dterr = none := by
    rcases hthread with hthread | hthread <;> rw [hthread] <;> rfl
  have hnew := (Makes.fresh [] s.ledger dterr).new_range
  have hcases : ∀ k' p, ((s.setThread k (.returned (s.ledger.fresh dterr).2)).threads k').dterr
      = some p → (k' = k ∧ p = (s.ledger.fresh dterr).2) ∨
        (k' ≠ k ∧ (s.threads k').dterr = some p) := by
    intro k' p hp
    by_cases hk : k' = k
    · rw [hk, State.setThread_self] at hp
      exact .inl ⟨hk, (Option.some.inj hp).symm⟩
    · rw [State.setThread_of_ne _ _ hk] at hp
      exact .inr ⟨hk, hp⟩
  have hkept : ∀ k' p, (s.threads k').dterr = some p →
      ((s.setThread k (.returned (s.ledger.fresh dterr).2)).threads k').dterr = some p ∧
        ((s.setThread k (.returned (s.ledger.fresh dterr).2)).threads k').calledBack
          = (s.threads k').calledBack := by
    intro k' p hp
    have hk : k' ≠ k := by
      rintro rfl
      rw [hno] at hp
      exact absurd hp (by simp)
    rw [State.setThread_of_ne _ _ hk]
    exact ⟨hp, rfl⟩
  have hnext : s.ledger.next ≤ (s.ledger.fresh dterr).1.next := Nat.le_add_right _ _
  refine ⟨?_, ?_, ?_, ?_, ?_, ?_, ?_, h.working, ?_, h.returned, ?_, ?_, ?_, ?_⟩
  · refine h.unstarted_setThread ?_
    rcases hthread with hthread | hthread <;> simp [hthread]
  · intro k' p hp
    rcases hcases k' p hp with ⟨-, rfl⟩ | ⟨-, hp⟩
    · exact fresh_objects_ne_nil _ _
    · exact h.ne_nil k' p hp
  · intro k' p hp
    rcases hcases k' p hp with ⟨-, rfl⟩ | ⟨-, hp⟩
    · exact List.nodup_range'
    · exact h.nodup k' p hp
  · intro k' p hp i hi
    rcases hcases k' p hp with ⟨-, rfl⟩ | ⟨-, hp⟩
    · exact (hnew i hi).2
    · exact Nat.lt_of_lt_of_le (h.lt k' p hp i hi) hnext
  · intro k₁ k₂ p₁ p₂ hne hp₁ hp₂ i hi₁ hi₂
    rcases hcases k₁ p₁ hp₁ with ⟨rfl, rfl⟩ | ⟨-, hold₁⟩ <;>
      rcases hcases k₂ p₂ hp₂ with ⟨rfl, rfl⟩ | ⟨-, hold₂⟩
    · exact hne rfl
    · exact Nat.not_lt_of_le (hnew i hi₁).1 (h.lt k₂ p₂ hold₂ i hi₂)
    · exact Nat.not_lt_of_le (hnew i hi₂).1 (h.lt k₁ p₁ hold₁ i hi₁)
    · exact h.apart k₁ k₂ p₁ p₂ hne hold₁ hold₂ hi₁ hi₂
  · exact fun k' p hp => (hkept k' p (h.info k' p (hinfos k' p hp))).1
  · exact fun i hi => Nat.lt_of_lt_of_le (h.disposed_lt i hi) hnext
  · exact fun r hr => (hkept _ _ (h.read r hr)).1
  · exact fun r hr i hi hmem => (hkept _ _ (h.read r hr)).2.trans (h.log r hr i hi hmem)
  · exact fun p hp i hi => Nat.lt_of_lt_of_le (h.own_lt p hp i hi) hnext
  · intro p hp hnone k' p' hp' i hi hi'
    rcases hcases k' p' hp' with ⟨-, rfl⟩ | ⟨-, hp'⟩
    · exact Nat.not_lt_of_le (hnew i hi').1 (h.own_lt p hp i hi)
    · exact h.own p hp hnone k' p' hp' hi hi'
  · intro k' p hp i hi
    rcases hcases k' p hp with ⟨rfl, rfl⟩ | ⟨-, hp⟩
    · have hnone : s.ledger.log.count (.disposed i) = 0 :=
        List.count_eq_zero.2 fun hmem => Nat.not_lt_of_le (hnew i hi).1 (h.disposed_lt i hmem)
      have hmd : s.mainDisposed k' = false := by
        cases hreading : s.reading with
        | none => simp [State.mainDisposed, hreading]
        | some r =>
            have hne : r.task ≠ k' := by
              rintro rfl
              exact absurd (hno.symm.trans (h.read r hreading)) (by simp)
            simp [State.mainDisposed, hreading, hne]
      show s.ledger.log.count (.disposed i)
        = (if ((s.setThread k' _).threads k').calledBack then 1 else 0)
          + if s.mainDisposed k' then 1 else 0
      rw [hnone, hmd, State.setThread_self]
      rfl
    · have hback := (hkept k' p hp).2
      refine (h.count k' p hp i hi).trans ?_
      rw [← hback]
      rfl

/-- The callback disposes the error of its task. -/
theorem Tracked.calledBack {s : State} (h : Tracked s) {k : Service} {p : DterrPtr}
    (hthread : s.threads k = .calling p) :
    Tracked { s.setThread k (.posting p) with
      ledger := (s.ledger.touch p.objects).dterrDispose p.objects } := by
  have hp : (s.threads k).dterr = some p := by
    rw [hthread]
    rfl
  have hdterr := setThread_same TaskPc.dterr (s := s) (k := k) (.posting p)
    (by rw [hthread]; rfl)
  have hback : ∀ k', (s.threads k').calledBack = true →
      ((s.setThread k (.posting p)).threads k').calledBack = true := by
    intro k' hk'
    by_cases hk : k' = k
    · rw [hk, State.setThread_self]
      rfl
    · rwa [State.setThread_of_ne _ _ hk]
  refine ⟨?_, ?_, ?_, ?_, ?_, ?_, ?_, h.working, ?_, h.returned, ?_, h.own_lt, ?_, ?_⟩
  · exact h.unstarted_setThread (by simp [hthread])
  · exact fun k' q hq => h.ne_nil k' q ((hdterr k').symm.trans hq)
  · exact fun k' q hq => h.nodup k' q ((hdterr k').symm.trans hq)
  · exact fun k' q hq => h.lt k' q ((hdterr k').symm.trans hq)
  · exact fun k₁ k₂ p₁ p₂ hne hp₁ hp₂ =>
      h.apart k₁ k₂ p₁ p₂ hne ((hdterr k₁).symm.trans hp₁) ((hdterr k₂).symm.trans hp₂)
  · exact fun k' q hq => (hdterr k').trans (h.info k' q hq)
  · intro i hi
    obtain hi | hi := disposed_mem_disposed.1 hi
    · exact h.lt k p hp i hi
    · exact h.disposed_lt i (disposed_mem_used hi)
  · exact fun r hr => (hdterr _).trans (h.read r hr)
  · exact fun r hr i hi hmem => hback _ (h.log r hr i hi hmem)
  · exact fun q hq hnone k' p' hp' => h.own q hq hnone k' p' ((hdterr k').symm.trans hp')
  · intro k' q hq i hi
    have hq' := (hdterr k').symm.trans hq
    have hold := h.count k' q hq' i hi
    show (p.objects.map Use.disposed ++ (p.objects.map Use.used ++ s.ledger.log)).count _
      = (if ((s.setThread k (.posting p)).threads k').calledBack then 1 else 0)
        + if s.mainDisposed k' then 1 else 0
    rw [count_disposed_chain, count_disposed_used, hold]
    by_cases hk : k' = k
    · subst hk
      obtain rfl : p = q := Option.some.inj (hp.symm.trans hq')
      have hone : p.objects.count i = 1 := by
        rw [(h.nodup k' _ hq').count, if_pos hi]
      rw [State.setThread_self, hone, hthread]
      simp [TaskPc.calledBack]
    · have hnot : i ∉ p.objects := fun hmem => h.apart _ _ _ _ hk hq' hp hi hmem
      rw [State.setThread_of_ne _ _ hk, List.count_eq_zero.2 hnot, Nat.zero_add]

theorem Tracked.absent {s : State} (h : Tracked s) {k : Service} (hmain : s.main = .starting k) :
    s.threads k = .absent := by
  refine h.unstarted k ?_
  rw [hmain]
  cases k <;> simp [MainPc.unstarted]

/-- `dttasker_start` creates the thread of a task. -/
theorem Tracked.started {s : State} (h : Tracked s) {k : Service} (hmain : s.main = .starting k) :
    Tracked { s.setThread k .entry with main := .waiting k } := by
  have habsent := h.absent hmain
  have hdterr := setThread_same TaskPc.dterr .entry (by rw [habsent]; rfl)
  refine h.frame ?_ hdterr (setThread_same TaskPc.calledBack _ (by rw [habsent]; rfl))
    (fun k p hp => (hdterr k).trans (h.info k p hp)) (Nat.le_refl _) ⟨[], rfl⟩ rfl
    (.inr (.inl ⟨rfl, by rw [hmain]; rfl⟩))
  intro k' hk'
  have hne : k' ≠ k := by
    rintro rfl
    cases k' <;> simp [MainPc.unstarted] at hk'
  refine (s.setThread_of_ne _ hne).trans (h.unstarted k' ?_)
  rw [hmain]
  cases k <;> cases k' <;> simp [MainPc.unstarted] at hk' ⊢

/-- `dttasker_set_info` keeps the error in the tasker. -/
theorem Tracked.stored {s : State} (h : Tracked s) {k : Service} {p : DterrPtr}
    (status : Dttasker.Status) (hthread : s.threads k = .returned p) :
    Tracked { s.setThread k (.calling p) with
      infos := Function.update s.infos k { status := status, dterr := some p } } := by
  refine h.threadMoves s.readyPosted s.posted [] (by simp [hthread])
    (by rw [hthread]; rfl) (by rw [hthread]; rfl) ?_ (Nat.le_refl _) rfl
  intro k' p' hp'
  by_cases hk : k' = k
  · obtain rfl : p = p' := by simpa [hk] using hp'
    rw [hk, hthread]
    rfl
  · exact h.info k' p' (by simpa [hk] using hp')

/-- **Step lemma.** -/
theorem Tracked.effect {s s' : State} {e : Event} (h : Tracked s) (heff : Effect s e s') :
    Tracked s' := by
  cases heff with
  | failed _ dterr hmain => exact h.failed dterr hmain
  | moved _ main hmain hnew hunstarted =>
      exact h.frame (fun k hk => h.unstarted k (hunstarted k hk)) (fun _ => rfl) (fun _ => rfl)
        h.info (Nat.le_refl _) ⟨[], rfl⟩ rfl (.inr (.inl ⟨hnew, hmain⟩))
  | started _ k hmain => exact h.started hmain
  | found _ k p hmain hinfo => exact h.found hmain hinfo
  | disposed _ p hmain => exact h.disposed hmain
  | exited _ hmain =>
      exact h.frame (by simp [MainPc.unstarted]) (fun _ => rfl) (fun _ => rfl) h.info
        (Nat.le_refl _) ⟨[], rfl⟩ rfl (.inr (.inr ⟨rfl, hmain⟩))
  | looping _ k infos rp posted hthread hinfos =>
      exact h.threadMoves rp posted [] (by simp [hthread]) (by rw [hthread]; rfl)
        (by rw [hthread]; rfl) (fun k p hp => h.info k p (hinfos k p hp)) (Nat.le_refl _) rfl
  | entryReturned _ k dterr infos rp posted hthread hinfos =>
      exact h.entryReturned dterr rp posted hthread hinfos
  | stored _ k p status hthread => exact h.stored status hthread
  | calledBack k p hthread => exact h.calledBack hthread
  | threadEnded _ k p rp posted l uses hthread hnext hlog =>
      exact h.threadMoves rp posted uses (by simp [hthread]) (by rw [hthread]; rfl)
        (by rw [hthread]; rfl) h.info hnext hlog

/-! ## The callback in the run -/

/-- A task is called back when its info callback is called, and stays so. -/
theorem Tracked.calledBack_effect {s s' : State} {e : Event} (h : Tracked s) (heff : Effect s e s')
    (k : Service) :
    (s'.threads k).calledBack = true ↔
      (s.threads k).calledBack = true ∨ e.calledBack = some k := by
  have hkept (he : e.calledBack = none)
      (hback : (s'.threads k).calledBack = (s.threads k).calledBack) :
      (s'.threads k).calledBack = true ↔
        (s.threads k).calledBack = true ∨ e.calledBack = some k := by
    simp [he, hback]
  cases heff with
  | failed he | moved he | found he | disposed he | exited he => exact hkept he rfl
  | started he k' hmain =>
      refine hkept he (setThread_same TaskPc.calledBack _ ?_ k)
      rw [h.absent hmain]
      rfl
  | looping he k' infos rp posted hthread =>
      exact hkept he (setThread_same TaskPc.calledBack _ (by rw [hthread]; rfl) k)
  | entryReturned he k' dterr infos rp posted hthread =>
      refine hkept he (setThread_same TaskPc.calledBack _ ?_ k)
      rcases hthread with hthread | hthread <;> rw [hthread] <;> rfl
  | stored he k' p status hthread =>
      exact hkept he (setThread_same TaskPc.calledBack _ (by rw [hthread]; rfl) k)
  | threadEnded he k' p rp posted l uses hthread =>
      exact hkept he (setThread_same TaskPc.calledBack _ (by rw [hthread]; rfl) k)
  | calledBack k' p hthread =>
      by_cases hk : k = k'
      · subst hk
        simp [TaskPc.calledBack, Event.calledBack]
      · have hne : k' ≠ k := fun heq => hk heq.symm
        simp [State.setThread_of_ne _ _ hk, Event.calledBack, hne]

/-- **Run lemma.** A task has been called back at the end of a run when it was at its start, or when
    its info callback was called in between. -/
theorem Tracked.calledBack_exec {k : Service} {events : List Event} {s s' : State} (h : Tracked s)
    (hrun : Run.exec step s events = some s') :
    (s'.threads k).calledBack = true ↔
      (s.threads k).calledBack = true ∨ .callback k ∈ events := by
  induction events generalizing s with
  | nil =>
      obtain rfl := Option.some.inj hrun
      simp
  | cons e events ih =>
      obtain ⟨s₁, hstep, hrest⟩ := (Run.exec_cons_eq_some _ _ _ _ _).1 hrun
      have heff := step_effect hstep
      have hcall : e.calledBack = some k ↔ .callback k = e := by
        cases e <;> simp [Event.calledBack, eq_comm]
      rw [ih (h.effect heff) hrest, h.calledBack_effect heff, hcall, List.mem_cons, or_assoc]

/-! ## The results -/

/-- In every run at whose end `main` has disposed the error of a task that `svc_start` has found, it
    was live when it was read and has been disposed once if and only if the run has no call of the
    info callback of that task. -/
theorem disposed_once_exact (events : List Event) (s : State) (r : Reading)
    (hs : Run.exec step .initial events = some s) (hreading : s.reading = some r)
    (hmain : s.main.cleaned = true) :
    DisposedOnce s ↔ .callback r.task ∉ events := by
  have h : Tracked s :=
    Run.exec_invariant (fun s e s' hs h => hs.effect (step_effect h)) tracked_initial hs
  have hread := h.read r hreading
  have hmd : s.mainDisposed r.task = true := by
    simp [State.mainDisposed, hmain, hreading]
  have hback : (s.threads r.task).calledBack = true ↔ .callback r.task ∈ events := by
    simpa [State.initial, TaskPc.calledBack] using tracked_initial.calledBack_exec hs
  rw [← hback, Bool.not_eq_true]
  constructor
  · intro honce
    obtain ⟨i, hi⟩ := List.exists_mem_of_ne_nil _ (h.ne_nil _ _ hread)
    have hone := (honce r hreading i hi).2
    rw [h.count _ _ hread i hi, hmd] at hone
    cases hback : (s.threads r.task).calledBack with
    | false => rfl
    | true =>
        rw [hback] at hone
        exact absurd hone (by decide)
  · intro hback r' hr' i hi
    obtain rfl : r = r' := Option.some.inj (hreading.symm.trans hr')
    refine ⟨fun hmem => ?_, ?_⟩
    · rw [h.log r hreading i hi hmem] at hback
      exact absurd hback (by simp)
    · rw [h.count _ _ hread i hi, hmd, hback]
      rfl

/-- `svc_start` up to the polling, with all tasks in their loops. -/
def upRun : List Event :=
  [.describe none, .create none, .create none, .create none, .start none, .ready .rx none,
    .started none, .start none, .ready .tx none, .started none, .start none, .ready .zz none,
    .started none]

/-- The error of a `dtservice_recover` that fails. -/
def recoverError : Dterr := .new .io "recover"

/-- `main` has disposed the error of the rx task, the process ends, and the callback was never
    called. -/
theorem disposed_once_exact_processEnds :
    ∃ s, Run.exec step .initial (upRun ++
      [.ends .rx recoverError, .setInfo .rx, .poll none, .dispose, .exit]) = some s ∧
      DisposedOnce s := by
  have hends : (Run.exec step .initial (upRun ++
      [.ends .rx recoverError, .setInfo .rx, .poll none, .dispose, .exit])).map
      (fun s => (s.reading.map Reading.task, s.main.cleaned)) = some (some .rx, true) := by
    decide +kernel
  obtain ⟨s, hs, hfacts⟩ := Option.map_eq_some_iff.1 hends
  obtain ⟨htask, hmain⟩ : s.reading.map Reading.task = some .rx ∧ s.main.cleaned = true := by
    simpa using hfacts
  obtain ⟨r, hr, htask⟩ := Option.map_eq_some_iff.1 htask
  refine ⟨s, hs, (disposed_once_exact _ s r hs hr hmain).2 ?_⟩
  simp [htask, upRun]

/-- The callback disposes the error of the tx task before the poll that finds it, or between that
    poll and the disposal by `main`. -/
theorem error_disposed_twice :
    (∃ s, Run.exec step .initial (upRun ++
      [.ends .tx recoverError, .setInfo .tx, .callback .tx, .poll none, .poll none, .dispose,
        .exit]) = some s ∧ ¬DisposedOnce s) ∧
    ∃ s, Run.exec step .initial (upRun ++
      [.ends .tx recoverError, .setInfo .tx, .poll none, .poll none, .callback .tx, .dispose,
        .exit]) = some s ∧ ¬DisposedOnce s := by
  constructor
  · exact Run.exists_exec_of_ends (Q := fun s => ¬DisposedOnce s) (by decide +kernel) fun _ hs => hs
  · exact Run.exists_exec_of_ends (Q := fun s => ¬DisposedOnce s) (by decide +kernel) fun _ hs => hs

end SvcAdcws
