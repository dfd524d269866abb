import DtmcLinux.DtnetportalMosquitto.Steps
import Mathlib.Data.Fintype.Basic

set_option autoImplicit false

/-! # When a SUBACK is heard

A call records its message id only after `mosquitto_subscribe` has returned, and all calls record it
in the same slot. A SUBACK that comes before the record, or after another call has overwritten the
slot, is dropped; an answer that is in the slot is lost when another call records its own id. When
neither happens, a call whose SUBACK came before its deadline returns what the broker has
answered. -/

namespace DtnetportalMosquitto

open Posix

variable {τ : Type*} [DecidableEq τ]

/-! ## The property and the condition -/

/-- What subscribe returns when the broker has answered. -/
def answerError (topic : String) (ok : Bool) : Option Dterr :=
  if ok then none
  else unableToSubscribe topic
    (some (.new .io s!"subscribe(\"{topic}\"): broker refused subscription"))

/-- A call whose SUBACK came in time has returned success or the refusal error, as the broker has
    answered; and one that still waits returns at its next wakeup, whatever woke it. -/
structure SubacksHeard (s : State τ) : Prop where
  returned : ∀ r ∈ s.returned, ∀ ok, r.suback = some ok → r.dterr = answerError r.topic ok
  wakes : ∀ t topic mid ok late, s.calls t = .waiting topic mid (some ok) late → ∀ tw,
    (tw = ETIMEDOUT → late = true) → ∃ s', step s (.wake t tw) = some s' ∧ s'.calls t = .idle

/-- A SUBACK for `mid` would come in time for the call. -/
def Call.awaits (mid : ℤ) : Call → Bool
  | .idle | .counting _ | .sending _ => false
  | .sent _ m _ => m = mid
  | .waiting _ m _ late => m = mid && !late

/-- A SUBACK that comes in time for a call arrives while the message id of the call is in the slot,
    and no call records its message id between the SUBACK of another call and that call's return. -/
def Undisturbed (s : State τ) : Event τ → Prop
  | .suback mid _ => ∀ t, (s.calls t).awaits mid = true → s.self.subackMidWaiting = mid
  | .publishMid _ => ∀ t, (s.calls t).suback = none
  | _ => True

instance Undisturbed.decidable [Fintype τ] (s : State τ) (e : Event τ) :
    Decidable (Undisturbed s e) :=
  match e with
  | .suback mid _ => inferInstanceAs (Decidable (∀ t, (s.calls t).awaits mid = true → _))
  | .publishMid _ => inferInstanceAs (Decidable (∀ t, (s.calls t).suback = none))
  | .activate | .connect _ | .resubscribe _ | .disconnect | .subscribe _ _ _ | .count _ _
  | .send _ _ | .expire _ | .wake _ _ => instDecidableTrue

/-! ## The slot -/

/-- The calls in progress have different message ids; the slot holds that of a call that waits; the
    answer to a call that waits is the result in the slot. -/
structure Slot (s : State τ) : Prop where
  sent : ∀ t topic mid suback, s.calls t = .sent topic mid suback → suback = none
  awaited : ∀ t mid, (s.calls t).mid = some mid → mid ∈ s.awaited
  unique : ∀ t t' mid, (s.calls t).mid = some mid → (s.calls t').mid = some mid → t = t'
  pos : ∀ r ∈ s.subscribes, 0 < r.mid
  slot : s.self.subackMidWaiting = -1 ∨ ∃ t topic suback late,
    s.calls t = .waiting topic s.self.subackMidWaiting suback late
  result : ∀ t topic mid ok late, s.calls t = .waiting topic mid (some ok) late →
    s.self.subackResult = if ok then 0 else 1
  holder : ∀ t topic mid ok late, s.calls t = .waiting topic mid (some ok) late →
    s.self.subackMidWaiting = mid ∨ s.self.subackMidWaiting = -1
  settled : ∀ t topic mid ok late, s.calls t = .waiting topic mid (some ok) late →
    ∀ r ∈ s.subscribes, r.mid = mid → r.suback ≠ none
  returned : ∀ r ∈ s.returned, ∀ ok, r.suback = some ok → r.dterr = answerError r.topic ok

omit [DecidableEq τ] in
theorem slot_initial : Slot (State.initial (τ := τ)) where
  sent _ _ _ _ h := absurd h (by simp [State.initial])
  awaited _ _ h := absurd h (by simp [State.initial, Call.mid])
  unique _ _ _ h := absurd h (by simp [State.initial, Call.mid])
  pos _ h := absurd h (by simp [State.initial])
  slot := .inl rfl
  result _ _ _ _ _ h := absurd h (by simp [State.initial])
  holder _ _ _ _ _ h := absurd h (by simp [State.initial])
  settled _ _ _ _ _ h := absurd h (by simp [State.initial])
  returned _ h := absurd h (by simp [State.initial])

omit [DecidableEq τ] in
/-- A step that leaves the slot alone, sends for no call, and after which no call has an answer or a
    message id that it had not. -/
theorem Slot.frame {s s' : State τ} (h : Slot s)
    (hsent : ∀ t topic mid suback, s'.calls t = .sent topic mid suback →
      s.calls t = .sent topic mid suback)
    (hmids : ∀ t mid, (s'.calls t).mid = some mid → (s.calls t).mid = some mid)
    (hanswered : ∀ t topic mid ok late, s'.calls t = .waiting topic mid (some ok) late →
      ∃ late', s.calls t = .waiting topic mid (some ok) late')
    (hwaiting : ∀ t topic mid suback late, s.calls t = .waiting topic mid suback late →
      ∃ late', s'.calls t = .waiting topic mid suback late')
    (hawaited : s'.awaited = s.awaited) (hmid : s'.self.subackMidWaiting = s.self.subackMidWaiting)
    (hresult : s'.self.subackResult = s.self.subackResult)
    (hsubscribes : ∀ r ∈ s'.subscribes, r ∈ s.subscribes ∨ (0 < r.mid ∧ r.mid ∉ s.awaited))
    (hreturned : ∀ r ∈ s'.returned, r ∈ s.returned ∨ r.suback = none) : Slot s' := by
  refine ⟨?_, ?_, ?_, ?_, ?_, ?_, ?_, ?_, ?_⟩
  · exact fun t topic mid suback ht => h.sent t topic mid suback (hsent _ _ _ _ ht)
  · exact fun t mid ht => hawaited ▸ h.awaited t mid (hmids t mid ht)
  · exact fun t t' mid ht ht' => h.unique t t' mid (hmids t mid ht) (hmids t' mid ht')
  · exact fun r hr => (hsubscribes r hr).elim (h.pos r) And.left
  · rw [hmid]
    refine h.slot.imp_right ?_
    rintro ⟨t, topic, suback, late, ht⟩
    obtain ⟨late', ht'⟩ := hwaiting t topic _ suback late ht
    exact ⟨t, topic, suback, late', ht'⟩
  · intro t topic mid ok late ht
    obtain ⟨late', hold⟩ := hanswered t topic mid ok late ht
    exact hresult ▸ h.result t topic mid ok late' hold
  · intro t topic mid ok late ht
    obtain ⟨late', hold⟩ := hanswered t topic mid ok late ht
    exact hmid ▸ h.holder t topic mid ok late' hold
  · intro t topic mid ok late ht r hr hrm
    obtain ⟨late', hold⟩ := hanswered t topic mid ok late ht
    rcases hsubscribes r hr with hr | ⟨-, hnot⟩
    · exact h.settled t topic mid ok late' hold r hr hrm
    · have hmem := h.awaited t mid (by rw [hold]; rfl)
      exact absurd (hrm ▸ hmem) hnot
  · intro r hr ok hok
    rcases hreturned r hr with hr | hnone
    · exact h.returned r hr ok hok
    · exact absurd (hnone.symm.trans hok) (by simp)

omit [DecidableEq τ] in
/-- A step of the library's thread other than `on_subscribe`. -/
theorem Slot.library {s s' : State τ} (h : Slot s) (hcalls : s'.calls = s.calls)
    (hawaited : s'.awaited = s.awaited) (hmid : s'.self.subackMidWaiting = s.self.subackMidWaiting)
    (hresult : s'.self.subackResult = s.self.subackResult) (hreturned : s'.returned = s.returned)
    (hsubscribes : ∀ r ∈ s'.subscribes,
      r ∈ s.subscribes ∨ (0 < r.mid ∧ r.mid ∉ s.awaited)) : Slot s' := by
  refine h.frame ?_ ?_ ?_ ?_ hawaited hmid hresult hsubscribes fun r hr => .inl (hreturned ▸ hr)
  · exact fun t topic mid suback ht => hcalls ▸ ht
  · exact fun t mid ht => hcalls ▸ ht
  · exact fun t topic mid ok late ht => ⟨late, hcalls ▸ ht⟩
  · exact fun t topic mid suback late ht => ⟨late, hcalls ▸ ht⟩

/-- A call without a message id moves on, to where it has none. -/
theorem Slot.moved {s s' : State τ} (h : Slot s) {t : τ} {call : Call}
    (hcalls : s'.calls = Function.update s.calls t call) (hawaited : s'.awaited = s.awaited)
    (hmid : s'.self.subackMidWaiting = s.self.subackMidWaiting)
    (hresult : s'.self.subackResult = s.self.subackResult)
    (hsubscribes : s'.subscribes = s.subscribes)
    (hreturned : ∀ r ∈ s'.returned, r ∈ s.returned ∨ r.suback = none)
    (hold : (s.calls t).mid = none) (hnew : call.mid = none) : Slot s' := by
  have hkept : ∀ t', (s'.calls t').mid ≠ none → s'.calls t' = s.calls t' := by
    intro t' ht'
    rw [hcalls] at ht' ⊢
    by_cases heq : t' = t
    · simp [heq, hnew] at ht'
    · simp [heq]
  refine h.frame ?_ ?_ ?_ ?_ hawaited hmid hresult (fun r hr => .inl (hsubscribes ▸ hr)) hreturned
  · exact fun t' topic mid suback ht' => (hkept t' (by simp [ht', Call.mid])).symm.trans ht'
  · exact fun t' mid ht' => hkept t' (by simp [ht']) ▸ ht'
  · exact fun t' topic mid ok late ht' =>
      ⟨late, (hkept t' (by simp [ht', Call.mid])).symm.trans ht'⟩
  · intro t' topic mid suback late ht'
    have hne : t' ≠ t := by
      rintro rfl
      simp [ht', Call.mid] at hold
    exact ⟨late, by rw [hcalls, Function.update_of_ne hne, ht']⟩

/-- The deadline of a wait passes. -/
theorem Slot.expires {s : State τ} (h : Slot s) {t : τ} {topic : String} {mid : ℤ}
    {suback : Option Bool} {late : Bool} (ht : s.calls t = .waiting topic mid suback late) :
    Slot (s.setCall t (.waiting topic mid suback true)) := by
  have hself := s.setCall_self t (.waiting topic mid suback true)
  have hother : ∀ t', t' ≠ t →
      (s.setCall t (.waiting topic mid suback true)).calls t' = s.calls t' :=
    fun _ hne => s.setCall_of_ne _ hne
  refine h.frame ?_ ?_ ?_ ?_ rfl rfl rfl (fun r hr => .inl hr) fun r hr => .inl hr
  · intro t' topic' m suback' ht'
    have hne : t' ≠ t := by
      rintro rfl
      simp at ht'
    exact (hother t' hne).symm.trans ht'
  · intro t' m ht'
    by_cases heq : t' = t
    · rw [heq, hself] at ht'
      rw [heq, ht]
      exact ht'
    · exact hother t' heq ▸ ht'
  · intro t' topic' m ok late' ht'
    by_cases heq : t' = t
    · rw [heq, hself, Call.waiting.injEq] at ht'
      obtain ⟨rfl, rfl, rfl, -⟩ := ht'
      exact ⟨late, heq ▸ ht⟩
    · exact ⟨late', (hother t' heq).symm.trans ht'⟩
  · intro t' topic' m suback' late' ht'
    by_cases heq : t' = t
    · rw [heq, ht, Call.waiting.injEq] at ht'
      obtain ⟨rfl, rfl, rfl, -⟩ := ht'
      exact ⟨true, heq ▸ hself⟩
    · exact ⟨late', (hother t' heq).trans ht'⟩

/-- A call has sent its SUBSCRIBE. -/
theorem Slot.sends {s : State τ} (h : Slot s) {t : τ} {topic : String} {mid : ℤ}
    (ht : s.calls t = .sending topic) (hfresh : s.fresh mid = true) :
    Slot ({ s.sendSubscribe topic mid with awaited := mid :: s.awaited }.setCall t
      (.sent topic mid none)) := by
  obtain ⟨hpos, hnot, -⟩ := State.fresh_spec hfresh
  generalize hs' : ({ s.sendSubscribe topic mid with awaited := mid :: s.awaited }.setCall t
    (.sent topic mid none)) = s'
  have hself : s'.calls t = .sent topic mid none := by
    rw [← hs', State.setCall_self]
  have hother : ∀ t', t' ≠ t → s'.calls t' = s.calls t' := by
    intro t' hne
    rw [← hs', State.setCall_of_ne _ _ hne]
    rfl
  have hwaiting : ∀ t' topic' mid' suback late, s'.calls t' = .waiting topic' mid' suback late →
      s.calls t' = .waiting topic' mid' suback late := by
    intro t' topic' mid' suback late ht'
    have hne : t' ≠ t := by
      rintro rfl
      simp [hself] at ht'
    rwa [hother t' hne] at ht'
  have hslot : s'.self = s.self := by
    rw [← hs']
    rfl
  have hawaited : s'.awaited = mid :: s.awaited := by
    rw [← hs']
    rfl
  have hsubscribes : ∀ r ∈ s'.subscribes, r.mid = mid ∨ r ∈ s.subscribes := by
    rw [← hs']
    intro r hr
    rcases List.mem_cons.1 hr with rfl | hr
    · exact .inl rfl
    · exact .inr hr
  have hmids : ∀ t' m, (s'.calls t').mid = some m → t' = t ∧ m = mid ∨
      t' ≠ t ∧ (s.calls t').mid = some m := by
    intro t' m ht'
    by_cases heq : t' = t
    · rw [heq, hself] at ht'
      exact .inl ⟨heq, (Option.some.inj ht').symm⟩
    · rw [hother t' heq] at ht'
      exact .inr ⟨heq, ht'⟩
  refine ⟨?_, ?_, ?_, ?_, ?_, ?_, ?_, ?_, ?_⟩
  · intro t' topic' mid' suback ht'
    by_cases heq : t' = t
    · rw [heq, hself, Call.sent.injEq] at ht'
      exact ht'.2.2.symm
    · rw [hother t' heq] at ht'
      exact h.sent t' topic' mid' suback ht'
  · intro t' m ht'
    rw [hawaited]
    rcases hmids t' m ht' with ⟨-, rfl⟩ | ⟨-, hold⟩
    · exact List.mem_cons_self
    · exact List.mem_cons_of_mem _ (h.awaited t' m hold)
  · intro t₁ t₂ m h₁ h₂
    rcases hmids t₁ m h₁ with ⟨rfl, rfl⟩ | ⟨-, hold₁⟩ <;>
      rcases hmids t₂ m h₂ with ⟨rfl, hm⟩ | ⟨-, hold₂⟩
    · rfl
    · exact absurd (h.awaited t₂ _ hold₂) hnot
    · exact absurd (h.awaited t₁ _ hold₁) (hm ▸ hnot)
    · exact h.unique t₁ t₂ m hold₁ hold₂
  · intro r hr
    rcases hsubscribes r hr with hmid | hr
    · exact hmid ▸ hpos
    · exact h.pos r hr
  · rw [hslot]
    refine h.slot.imp_right ?_
    rintro ⟨t', topic', suback, late, ht'⟩
    have hne : t' ≠ t := by
      rintro rfl
      simp [ht] at ht'
    exact ⟨t', topic', suback, late, (hother t' hne).trans ht'⟩
  · intro t' topic' mid' ok late ht'
    exact hslot ▸ h.result t' topic' mid' ok late (hwaiting _ _ _ _ _ ht')
  · intro t' topic' mid' ok late ht'
    exact hslot ▸ h.holder t' topic' mid' ok late (hwaiting _ _ _ _ _ ht')
  · intro t' topic' mid' ok late ht' r hr hmid
    have hold := hwaiting _ _ _ _ _ ht'
    rcases hsubscribes r hr with hnew | hr
    · have hmem := h.awaited t' mid' (by rw [hold]; rfl)
      exact absurd (hmid ▸ hmem) (hnew ▸ hnot)
    · exact h.settled t' topic' mid' ok late hold r hr hmid
  · rw [← hs']
    exact h.returned

/-- A call records its message id while no call has an answer. -/
theorem Slot.publishes {s : State τ} (h : Slot s) {t : τ} {topic : String} {mid : ℤ}
    {suback : Option Bool} (ht : s.calls t = .sent topic mid suback)
    (hnone : ∀ t, (s.calls t).suback = none) :
    Slot ({ s with self := { s.self with subackMidWaiting := mid, subackResult := -1 } }.setCall t
      (.waiting topic mid suback false)) := by
  generalize hs' : ({ s with
    self := { s.self with subackMidWaiting := mid, subackResult := -1 } }.setCall t
      (.waiting topic mid suback false)) = s'
  have hself : s'.calls t = .waiting topic mid suback false := by
    rw [← hs', State.setCall_self]
  have hother : ∀ t', t' ≠ t → s'.calls t' = s.calls t' := by
    intro t' hne
    rw [← hs', State.setCall_of_ne _ _ hne]
  have hmids : ∀ t', (s'.calls t').mid = (s.calls t').mid := by
    intro t'
    by_cases heq : t' = t
    · rw [heq, hself, ht]
      rfl
    · rw [hother t' heq]
  have hnone' : ∀ t', (s'.calls t').suback = none := by
    intro t'
    by_cases heq : t' = t
    · have hsuback := hnone t
      rw [ht] at hsuback
      rw [heq, hself]
      exact hsuback
    · rw [hother t' heq]
      exact hnone t'
  have hno : ∀ t' topic' mid' ok late, s'.calls t' ≠ .waiting topic' mid' (some ok) late := by
    intro t' topic' mid' ok late ht'
    have hsuback := hnone' t'
    rw [ht'] at hsuback
    exact absurd hsuback (by simp [Call.suback])
  refine ⟨?_, ?_, ?_, ?_, .inr ⟨t, topic, suback, false, ?_⟩, ?_, ?_, ?_, ?_⟩
  · intro t' topic' mid' suback' ht'
    have hne : t' ≠ t := by
      rintro rfl
      simp [hself] at ht'
    exact h.sent t' topic' mid' suback' ((hother t' hne).symm.trans ht')
  · intro t' m ht'
    rw [← hs']
    exact h.awaited t' m ((hmids t').symm.trans ht')
  · exact fun t₁ t₂ m h₁ h₂ =>
      h.unique t₁ t₂ m ((hmids t₁).symm.trans h₁) ((hmids t₂).symm.trans h₂)
  · rw [← hs']
    exact h.pos
  · rw [hself, ← hs']
    rfl
  · exact fun t' topic' mid' ok late ht' => absurd ht' (hno t' topic' mid' ok late)
  · exact fun t' topic' mid' ok late ht' => absurd ht' (hno t' topic' mid' ok late)
  · exact fun t' topic' mid' ok late ht' => absurd ht' (hno t' topic' mid' ok late)
  · rw [← hs']
    exact h.returned

/-- The place of a waiting call before a SUBACK. -/
theorem Call.waiting_of_hear {call : Call} {mid m : ℤ} {ok : Bool} {topic : String}
    {suback : Option Bool} {late : Bool}
    (h : call.hear mid ok = .waiting topic m suback late) : ∃ old,
      call = .waiting topic m old late ∧
        suback = if m = mid ∧ late = false then some ok else old := by
  cases call with
  | waiting topic' m' old late' =>
      obtain ⟨rfl, rfl, rfl, rfl⟩ := by simpa [Call.hear] using h
      exact ⟨old, rfl, rfl⟩
  | idle | counting _ | sending _ | sent _ _ _ => simp [Call.hear] at h

/-- The place of a call that has not recorded its message id, before a SUBACK. -/
theorem Call.sent_of_hear {call : Call} {mid m : ℤ} {ok : Bool} {topic : String}
    {suback : Option Bool} (h : call.hear mid ok = .sent topic m suback) : ∃ old,
      call = .sent topic m old ∧ suback = if m = mid then some ok else old := by
  cases call with
  | sent topic' m' old =>
      obtain ⟨rfl, rfl, rfl⟩ := by simpa [Call.hear] using h
      exact ⟨old, rfl, rfl⟩
  | idle | counting _ | sending _ | waiting _ _ _ _ => simp [Call.hear] at h

omit [DecidableEq τ] in
/-- A SUBACK for a call in progress comes while the slot has its message id. -/
theorem Slot.hears {s : State τ} (h : Slot s) {mid : ℤ} {grantedQos : List ℤ}
    (hpending : ∃ r ∈ s.subscribes, r.mid = mid ∧ r.suback = none)
    (hC : ∀ t, (s.calls t).awaits mid = true → s.self.subackMidWaiting = mid) :
    Slot { s with
      self := s.self.onSubscribe mid (granted grantedQos)
      calls := fun t => (s.calls t).hear mid (granted grantedQos)
      subscribes := s.subscribes.map fun r =>
        if r.mid = mid ∧ r.suback = none then { r with suback := some (granted grantedQos) }
        else r } := by
  generalize granted grantedQos = ok
  obtain ⟨r₀, hr₀, hmid₀, hnone₀⟩ := hpending
  have hpos : 0 < mid := hmid₀ ▸ h.pos r₀ hr₀
  -- a call that has yet to record its message id has no answer coming
  have hsent : ∀ t topic m suback, s.calls t = .sent topic m suback → m ≠ mid := by
    rintro t topic m suback ht rfl
    have hslot := hC t (by simp [ht, Call.awaits])
    rcases h.slot with hslot' | ⟨t', topic', suback', late, ht'⟩
    · omega
    · have heq := h.unique t t' m (by rw [ht]; rfl) (by rw [ht', ← hslot]; rfl)
      rw [← heq, ht] at ht'
      exact absurd ht' (by simp)
  -- an answer that is in the slot is not overwritten
  have hkept : ∀ t topic m ok' late, s.calls t = .waiting topic m (some ok') late →
      s.self.subackMidWaiting ≠ mid := by
    intro t topic m ok' late ht hslot
    rcases h.holder t topic m ok' late ht with hm | hm
    · exact h.settled t topic m ok' late ht r₀ hr₀ (hmid₀.trans (hslot.symm.trans hm)) hnone₀
    · omega
  refine ⟨?_, ?_, ?_, ?_, ?_, ?_, ?_, ?_, h.returned⟩
  · intro t topic m suback ht
    obtain ⟨old, hold, rfl⟩ := Call.sent_of_hear ht
    rw [if_neg (hsent t topic m old hold)]
    exact h.sent t topic m old hold
  · exact fun t m ht => h.awaited t m (by simpa using ht)
  · exact fun t₁ t₂ m h₁ h₂ => h.unique t₁ t₂ m (by simpa using h₁) (by simpa using h₂)
  · intro r hr
    obtain ⟨r', hr', rfl⟩ := List.mem_map.1 hr
    split <;> exact h.pos r' hr'
  · simp only [Portal.onSubscribe_mid]
    refine h.slot.imp_right ?_
    rintro ⟨t, topic, suback, late, ht⟩
    refine ⟨t, topic, ((s.calls t).hear mid ok).suback, late, ?_⟩
    rw [ht]
    rfl
  · intro t topic m ok' late ht
    obtain ⟨old, hold, hok⟩ := Call.waiting_of_hear ht
    split at hok
    · next hnew =>
        have hslot := hC t (by simp [hold, hnew, Call.awaits])
        simp [Portal.onSubscribe, hslot, Option.some.inj hok]
    · rw [← hok] at hold
      simp [Portal.onSubscribe, hkept t topic m ok' late hold, h.result t topic m ok' late hold]
  · intro t topic m ok' late ht
    obtain ⟨old, hold, hok⟩ := Call.waiting_of_hear ht
    rw [Portal.onSubscribe_mid]
    split at hok
    · next hnew =>
        rw [hnew.1]
        exact .inl (hC t (by simp [hold, hnew, Call.awaits]))
    · rw [← hok] at hold
      exact h.holder t topic m ok' late hold
  · intro t topic m ok' late ht r hr hrm
    obtain ⟨old, hold, hok⟩ := Call.waiting_of_hear ht
    obtain ⟨r', hr', rfl⟩ := List.mem_map.1 hr
    split
    · simp
    · next hsettled =>
        rw [if_neg hsettled] at hrm
        split at hok
        · next hnew => exact fun hnone => hsettled ⟨hrm.trans hnew.1, hnone⟩
        · rw [← hok] at hold
          exact h.settled t topic m ok' late hold r' hr' hrm

/-- What a call that has an answer returns is the answer. -/
theorem unableToSubscribe_subackError {self : Portal} {ok : Bool} (topic : String) (rc : Rc)
    (h : self.subackResult = if ok then 0 else 1) :
    unableToSubscribe topic (subackError topic (self.subackRc rc)) = answerError topic ok := by
  cases ok <;> simp only [h, Portal.subackRc, answerError] <;> rfl

/-- The wait of a call ends. -/
theorem Slot.ends {s : State τ} (h : Slot s) {t : τ} {topic : String} {mid : ℤ}
    {suback : Option Bool} {late : Bool} (ht : s.calls t = .waiting topic mid suback late)
    (rc : Rc) : Slot (s.endWait t topic mid suback rc) := by
  generalize hs' : s.endWait t topic mid suback rc = s'
  have hself : s'.calls t = .idle := by
    rw [← hs']
    simp [State.endWait, State.returns, State.setCall]
  have hother : ∀ t', t' ≠ t → s'.calls t' = s.calls t' := by
    intro t' hne
    rw [← hs']
    simp [State.endWait, State.returns, State.setCall, hne]
  have hold : ∀ t', s'.calls t' ≠ .idle → t' ≠ t ∧ s'.calls t' = s.calls t' := by
    intro t' hidle
    have hne : t' ≠ t := by
      rintro rfl
      exact hidle hself
    exact ⟨hne, hother t' hne⟩
  have hresult : s'.self.subackResult = s.self.subackResult := by
    rw [← hs']
    rfl
  have hslot : s'.self.subackMidWaiting = -1 := by
    rw [← hs']
    rfl
  have hsubscribes : ∀ r ∈ s'.subscribes, ∃ r' ∈ s.subscribes,
      r.mid = r'.mid ∧ r.suback = r'.suback := by
    rw [← hs']
    intro r hr
    have hr : r ∈ (if s.self.subackRc rc = ETIMEDOUT then
        s.subscribes.map fun r => if r.mid = mid then { r with timedOut := true } else r
      else s.subscribes) := hr
    split at hr
    · obtain ⟨r', hr', rfl⟩ := List.mem_map.1 hr
      refine ⟨r', hr', ?_⟩
      split <;> exact ⟨rfl, rfl⟩
    · exact ⟨r, hr, rfl, rfl⟩
  refine ⟨?_, ?_, ?_, ?_, .inl hslot, ?_, fun _ _ _ _ _ _ => .inr hslot, ?_, ?_⟩
  · intro t' topic' m suback' ht'
    obtain ⟨-, hsame⟩ := hold t' (by simp [ht'])
    exact h.sent t' topic' m suback' (hsame.symm.trans ht')
  · intro t' m ht'
    have hidle : s'.calls t' ≠ .idle := by
      intro hidle
      simp [hidle, Call.mid] at ht'
    obtain ⟨hne, hsame⟩ := hold t' hidle
    have hm : (s.calls t').mid = some m := hsame ▸ ht'
    have hdiff : m ≠ mid := by
      rintro rfl
      exact hne (h.unique t' t m hm (by rw [ht]; rfl))
    rw [← hs']
    exact (List.mem_erase_of_ne hdiff).2 (h.awaited t' m hm)
  · intro t₁ t₂ m h₁ h₂
    have hmid : ∀ t', (s'.calls t').mid = some m → (s.calls t').mid = some m := by
      intro t' ht'
      have hidle : s'.calls t' ≠ .idle := by
        intro hidle
        simp [hidle, Call.mid] at ht'
      exact (hold t' hidle).2 ▸ ht'
    exact h.unique t₁ t₂ m (hmid t₁ h₁) (hmid t₂ h₂)
  · intro r hr
    obtain ⟨r', hr', hm, -⟩ := hsubscribes r hr
    exact hm ▸ h.pos r' hr'
  · intro t' topic' m ok late' ht'
    obtain ⟨-, hsame⟩ := hold t' (by simp [ht'])
    exact hresult.trans (h.result t' topic' m ok late' (hsame.symm.trans ht'))
  · intro t' topic' m ok late' ht' r hr hrm
    obtain ⟨-, hsame⟩ := hold t' (by simp [ht'])
    obtain ⟨r', hr', hm, hsuback⟩ := hsubscribes r hr
    exact hsuback ▸ h.settled t' topic' m ok late' (hsame.symm.trans ht') r' hr'
      (hm.symm.trans hrm)
  · rw [← hs']
    intro r hr ok hok
    rcases List.mem_cons.1 hr with rfl | hr
    · obtain rfl : suback = some ok := hok
      exact unableToSubscribe_subackError topic rc (h.result t topic mid ok late ht)
    · exact h.returned r hr ok hok

theorem Slot.effect {s s' : State τ} {e : Event τ} (h : Slot s) (hC : Undisturbed s e)
    (heff : Effect s e s') : Slot s' := by
  cases heff with
  | activated => exact h.library rfl rfl rfl rfl rfl fun _ hr => .inl hr
  | connected hmqt hlibrary =>
      exact h.library rfl rfl rfl rfl rfl fun _ hr => absurd hr List.not_mem_nil
  | disconnected e hlibrary he => exact h.library rfl rfl rfl rfl rfl fun _ hr => .inl hr
  | notResubscribed topic rest hlibrary =>
      exact h.library rfl rfl rfl rfl rfl fun _ hr => .inl hr
  | resubscribed topic rest mid hlibrary hfresh =>
      obtain ⟨hpos, hnot, -⟩ := State.fresh_spec hfresh
      refine h.library rfl rfl rfl rfl rfl fun r hr => ?_
      rcases List.mem_cons.1 hr with rfl | hr
      · exact .inr ⟨hpos, hnot⟩
      · exact .inl hr
  | heard mid grantedQos hlibrary hconnected hpending => exact h.hears hpending hC
  | registered t topic ht =>
      exact h.moved rfl rfl rfl rfl rfl (fun _ hr => .inl hr) (by rw [ht]; rfl) rfl
  | asks t topic ht hcount hconnected =>
      exact h.moved rfl rfl rfl rfl rfl (fun _ hr => .inl hr) (by rw [ht]; rfl) rfl
  | skips t topic ht hskip =>
      refine h.moved rfl rfl rfl rfl rfl (fun r hr => ?_) (by rw [ht]; rfl) rfl
      rcases List.mem_cons.1 hr with rfl | hr
      · exact .inr rfl
      · exact .inl hr
  | failed e t topic dterr hcount hmid =>
      refine h.moved rfl rfl rfl rfl rfl (fun r hr => ?_) hmid rfl
      rcases List.mem_cons.1 hr with rfl | hr
      · exact .inr rfl
      · exact .inl hr
  | sent t topic mid ht hfresh => exact h.sends ht hfresh
  | published t topic mid suback ht hconnected => exact h.publishes ht hC
  | publishedLate t topic mid suback ht hconnected =>
      have hpublished := h.publishes ht hC
      have hend := hpublished.ends (State.setCall_self _ _ _) 0
      rwa [State.endWait_setCall] at hend
  | expired t topic mid suback late ht => exact h.expires ht
  | slept t tw hstill => exact h
  | woke t tw topic mid suback late rc ht hrc => exact h.ends ht rc

theorem Slot.subacksHeard {s : State τ} (h : Slot s) : SubacksHeard s where
  returned := h.returned
  wakes t topic mid ok late ht tw hlate := by
    have hstill : s.self.stillWaiting = false := by
      have hresult := h.result t topic mid ok late ht
      cases ok <;> simp [Portal.stillWaiting, hresult]
    have hidle : ∀ rc, (s.endWait t topic mid (some ok) rc).calls t = .idle := by
      simp [State.endWait, State.returns, State.setCall]
    by_cases htw : tw = ETIMEDOUT
    · exact ⟨_, by simp [step, ht, htw, hlate htw], hidle ETIMEDOUT⟩
    · exact ⟨_, by simp [step, ht, htw, hstill], hidle 0⟩

/-! ## The results -/

/-- In every run in which the SUBACKs that come in time find the message id of their call in the
    slot, and no call records its own between the SUBACK of another and that one's return, every
    call whose SUBACK comes before its deadline returns what the broker has answered. -/
theorem subacks_heard_of_undisturbed (events : List (Event τ))
    (hrun : Run.AllSteps step Undisturbed (State.initial (τ := τ)) events) :
    Run.AllStates step SubacksHeard (State.initial (τ := τ)) events := by
  have hslot := Run.allStates_of_allSteps (P := Slot)
    (fun s e s' hs hC h => hs.effect hC (step_effect h)) events _ slot_initial hrun
  exact hslot.imp fun s hs => hs.subacksHeard

/-- Two calls, one after the other; the second is refused, after its deadline by the clock of the
    waiter but before it has looked. -/
def turnsRun : List (Event Bool) :=
  [.activate, .connect 0, .subscribe false "a" none, .count false none, .send false (.ok 1),
    .publishMid false, .wake false 0, .suback 1 [0], .wake false 0, .subscribe true "b" none,
    .count true none, .send true (.ok 2), .publishMid true, .suback 2 [128], .expire true,
    .wake true ETIMEDOUT]

theorem subacks_heard_of_undisturbed_turnsRun :
    Run.AllStates step SubacksHeard (State.initial (τ := Bool)) turnsRun :=
  subacks_heard_of_undisturbed turnsRun (by decide +kernel)

/-- A granted call has returned a timeout. -/
def TimedOut (s : State τ) : Prop :=
  ∃ r ∈ s.returned, r.suback = some true ∧
    r.dterr = unableToSubscribe "a" (subackError "a" ETIMEDOUT)

omit [DecidableEq τ] in
instance TimedOut.decidable (s : State τ) : Decidable (TimedOut s) :=
  inferInstanceAs (Decidable (∃ r ∈ s.returned, _))

theorem TimedOut.not_heard {s : State τ} (h : TimedOut s) : ¬SubacksHeard s := by
  obtain ⟨r, hr, hgranted, hdterr⟩ := h
  intro hheard
  have hnone : r.dterr = none := hheard.returned r hr true hgranted
  rw [hdterr] at hnone
  exact absurd hnone (by decide)

/-- The broker grants a SUBSCRIBE before its call has recorded the message id, and the call times
    out; and of two calls that wait at the same time, the one whose id was overwritten does. -/
theorem suback_dropped :
    (∃ s, Run.exec step (State.initial (τ := Unit))
      [.activate, .connect 0, .subscribe () "a" none, .count () none, .send () (.ok 1),
        .suback 1 [0], .publishMid (), .expire (), .wake () ETIMEDOUT] = some s ∧
      ¬SubacksHeard s) ∧
    ∃ s, Run.exec step (State.initial (τ := Bool))
      [.activate, .connect 0, .subscribe false "a" none, .count false none, .send false (.ok 1),
        .publishMid false, .subscribe true "b" none, .count true none, .send true (.ok 2),
        .publishMid true, .suback 1 [0], .expire false, .wake false ETIMEDOUT] = some s ∧
      ¬SubacksHeard s := by
  constructor
  · exact Run.exists_exec_of_ends (Q := TimedOut) (by decide +kernel) fun _ hs => hs.not_heard
  · exact Run.exists_exec_of_ends (Q := TimedOut) (by decide +kernel) fun _ hs => hs.not_heard

end DtnetportalMosquitto
