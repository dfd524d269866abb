import DtmcLinux.DtnetportalMosquitto.Basic

set_option autoImplicit false

/-! # What a step of the MQTT backend does -/

namespace DtnetportalMosquitto

open Posix

/-- The message id of a call that waits for its SUBACK, or is about to. -/
def Call.mid : Call → Option ℤ
  | .idle | .counting _ | .sending _ => none
  | .sent _ mid _ | .waiting _ mid _ _ => some mid

/-- The answer that came in time. -/
def Call.suback : Call → Option Bool
  | .idle | .counting _ | .sending _ => none
  | .sent _ _ suback | .waiting _ _ suback _ => suback

@[simp] theorem Call.hear_mid (mid : ℤ) (ok : Bool) (call : Call) :
    (call.hear mid ok).mid = call.mid := by
  cases call <;> rfl

/-- `on_subscribe` leaves the message id in the slot. -/
@[simp] theorem Portal.onSubscribe_mid (self : Portal) (mid : ℤ) (ok : Bool) :
    (self.onSubscribe mid ok).subackMidWaiting = self.subackMidWaiting := by
  unfold Portal.onSubscribe
  split <;> rfl

variable {τ : Type*}

/-- A message id that may be used. -/
theorem State.fresh_spec {s : State τ} {mid : ℤ} (h : s.fresh mid = true) :
    0 < mid ∧ mid ∉ s.awaited ∧ ∀ r ∈ s.subscribes, r.mid = mid → r.suback ≠ none := by
  unfold State.fresh at h
  simp only [Bool.and_eq_true, decide_eq_true_eq, Bool.not_eq_true', List.all_eq_true,
    Bool.or_eq_true] at h
  obtain ⟨⟨hpos, hnot⟩, hall⟩ := h
  refine ⟨hpos, by simpa using hnot, fun r hr hmid hnone => ?_⟩
  rcases hall r hr with hne | hsome
  · exact hne hmid
  · simp [hnone] at hsome

variable [DecidableEq τ]

namespace State

@[simp] theorem setCall_self (s : State τ) (t : τ) (call : Call) :
    (s.setCall t call).calls t = call := by
  simp [setCall]

theorem setCall_of_ne (s : State τ) {t t' : τ} (call : Call) (h : t' ≠ t) :
    (s.setCall t call).calls t' = s.calls t' := by
  simp [setCall, h]

@[simp] theorem returns_self (s : State τ) (t : τ) (topic : String) (suback : Option Bool)
    (dterr : Option Dterr) : (s.returns t topic suback dterr).calls t = .idle :=
  s.setCall_self t .idle

@[simp] theorem endWait_self (s : State τ) (t : τ) (topic : String) (mid : ℤ)
    (suback : Option Bool) (rc : Rc) : (s.endWait t topic mid suback rc).calls t = .idle := by
  simp [endWait]

/-- The end of the wait does not look at the place of its own call. -/
theorem endWait_setCall (s : State τ) (t : τ) (topic : String) (mid : ℤ) (suback : Option Bool)
    (rc : Rc) (call : Call) :
    (s.setCall t call).endWait t topic mid suback rc = s.endWait t topic mid suback rc := by
  simp only [endWait, returns, setCall, Function.update_idem]
  rfl

end State

/-- The outcomes of a step. -/
inductive Effect (s : State τ) : Event τ → State τ → Prop where
  | activated : Effect s .activate { s with self := { s.self with mqt := true } }
  | connected (hmqt : s.self.mqt = true) (hlibrary : s.resubscribing = []) :
      Effect s (.connect 0) { s with
        self := { s.self with connected := true }
        resubscribing := s.self.recipients.dedup
        subscribes := [] }
  /-- the connection is lost, or was not accepted -/
  | disconnected (e : Event τ) (hlibrary : s.resubscribing = []) (he : e ≠ .connect 0) :
      Effect s e { s with self := { s.self with connected := false } }
  | notResubscribed (topic : String) (rest : List String)
      (hlibrary : s.resubscribing = topic :: rest) :
      Effect s (.resubscribe none) { s with resubscribing := rest }
  | resubscribed (topic : String) (rest : List String) (mid : ℤ)
      (hlibrary : s.resubscribing = topic :: rest) (hfresh : s.fresh mid = true) :
      Effect s (.resubscribe (some mid))
        ({ s with resubscribing := rest }.sendSubscribe topic mid)
  | heard (mid : ℤ) (grantedQos : List ℤ) (hlibrary : s.resubscribing = [])
      (hconnected : s.self.connected = true)
      (hpending : ∃ r ∈ s.subscribes, r.mid = mid ∧ r.suback = none) :
      Effect s (.suback mid grantedQos) { s with
        self := s.self.onSubscribe mid (granted grantedQos)
        calls := fun t => (s.calls t).hear mid (granted grantedQos)
        subscribes := s.subscribes.map fun r =>
          if r.mid = mid ∧ r.suback = none then { r with suback := some (granted grantedQos) }
          else r }
  | registered (t : τ) (topic : String) (ht : s.calls t = .idle) :
      Effect s (.subscribe t topic none)
        ({ s with self := { s.self with recipients := topic :: s.self.recipients } }.setCall t
          (.counting topic))
  /-- the topic's first recipient, while connected -/
  | asks (t : τ) (topic : String) (ht : s.calls t = .counting topic)
      (hcount : s.self.recipientCount topic = 1) (hconnected : s.self.connected = true) :
      Effect s (.count t none) (s.setCall t (.sending topic))
  /-- subscribe succeeds without asking the broker -/
  | skips (t : τ) (topic : String) (ht : s.calls t = .counting topic)
      (hskip : ¬(s.self.recipientCount topic = 1 ∧ s.self.mqt = true ∧ s.self.connected = true)) :
      Effect s (.count t none) (s.returns t topic none none)
  /-- subscribe returns an error before a SUBSCRIBE was sent -/
  | failed (e : Event τ) (t : τ) (topic : String) (dterr : Dterr) (hcount : e ≠ .count t none)
      (hmid : (s.calls t).mid = none) : Effect s e (s.returns t topic none (some dterr))
  | sent (t : τ) (topic : String) (mid : ℤ) (ht : s.calls t = .sending topic)
      (hfresh : s.fresh mid = true) :
      Effect s (.send t (.ok mid))
        ({ s.sendSubscribe topic mid with awaited := mid :: s.awaited }.setCall t
          (.sent topic mid none))
  /-- the call records its message id and goes to sleep -/
  | published (t : τ) (topic : String) (mid : ℤ) (suback : Option Bool)
      (ht : s.calls t = .sent topic mid suback) (hconnected : s.self.connected = true) :
      Effect s (.publishMid t)
        ({ s with self := { s.self with subackMidWaiting := mid, subackResult := -1 } }.setCall t
          (.waiting topic mid suback false))
  /-- the call records its message id and finds that the client is not connected -/
  | publishedLate (t : τ) (topic : String) (mid : ℤ) (suback : Option Bool)
      (ht : s.calls t = .sent topic mid suback) (hconnected : s.self.connected = false) :
      Effect s (.publishMid t)
        ({ s with self := { s.self with subackMidWaiting := mid, subackResult := -1 } }.endWait t
          topic mid suback 0)
  | expired (t : τ) (topic : String) (mid : ℤ) (suback : Option Bool) (late : Bool)
      (ht : s.calls t = .waiting topic mid suback late) :
      Effect s (.expire t) (s.setCall t (.waiting topic mid suback true))
  | slept (t : τ) (tw : Rc) (hstill : s.self.stillWaiting = true) : Effect s (.wake t tw) s
  | woke (t : τ) (tw : Rc) (topic : String) (mid : ℤ) (suback : Option Bool) (late : Bool)
      (rc : Rc) (ht : s.calls t = .waiting topic mid suback late)
      (hrc : rc = ETIMEDOUT ∧ late = true ∨ rc = 0 ∧ s.self.stillWaiting = false) :
      Effect s (.wake t tw) (s.endWait t topic mid suback rc)

theorem step_effect {s s' : State τ} {e : Event τ} (h : step s e = some s') : Effect s e s' := by
  unfold step at h
  cases e with
  | activate =>
      obtain rfl := Option.some.inj h
      exact .activated
  | connect rc =>
      dsimp only at h
      split at h
      · next hlibrary =>
          split at h <;> obtain rfl := Option.some.inj h
          · next hrc =>
              rw [hrc]
              exact .connected hlibrary.1 hlibrary.2
          · next hrc => exact .disconnected _ hlibrary.2 (by simpa using hrc)
      · exact absurd h (by simp)
  | resubscribe sent =>
      dsimp only at h
      split at h
      · exact absurd h (by simp)
      · next topic rest hlibrary =>
          split at h
          · obtain rfl := Option.some.inj h
            exact .notResubscribed topic rest hlibrary
          · next mid =>
              split at h
              · next hfresh =>
                  obtain rfl := Option.some.inj h
                  exact .resubscribed topic rest mid hlibrary hfresh
              · exact absurd h (by simp)
  | disconnect =>
      dsimp only at h
      split at h
      · next hlibrary =>
          obtain rfl := Option.some.inj h
          exact .disconnected _ hlibrary (by simp)
      · exact absurd h (by simp)
  | suback mid grantedQos =>
      dsimp only at h
      split at h
      · next hguard =>
          obtain ⟨hlibrary, hconnected, hpending⟩ := hguard
          obtain rfl := Option.some.inj h
          refine .heard mid grantedQos hlibrary hconnected ?_
          simpa using hpending
      · exact absurd h (by simp)
  | subscribe t topic dterr =>
      dsimp only at h
      split at h
      · next ht =>
          split at h <;> obtain rfl := Option.some.inj h
          · exact .failed _ t topic _ (by simp) (by rw [ht]; rfl)
          · exact .registered t topic ht
      · exact absurd h (by simp)
  | count t dterr =>
      dsimp only at h
      split at h
      · next topic ht =>
          split at h
          · obtain rfl := Option.some.inj h
            exact .failed _ t topic _ (by simp) (by rw [ht]; rfl)
          · split at h <;> obtain rfl := Option.some.inj h
            · next hask => exact .asks t topic ht hask.1 hask.2.2
            · next hskip => exact .skips t topic ht hskip
      · exact absurd h (by simp)
  | send t sent =>
      dsimp only at h
      split at h
      · next topic ht =>
          split at h
          · obtain rfl := Option.some.inj h
            exact .failed _ t topic _ (by simp) (by rw [ht]; rfl)
          · next mid =>
              split at h
              · next hfresh =>
                  obtain rfl := Option.some.inj h
                  exact .sent t topic mid ht hfresh
              · exact absurd h (by simp)
      · exact absurd h (by simp)
  | publishMid t =>
      dsimp only at h
      split at h
      · next topic mid suback ht =>
          split at h <;> obtain rfl := Option.some.inj h
          · next hstill =>
              exact .published t topic mid suback ht (by simpa [Portal.stillWaiting] using hstill)
          · next hstill =>
              exact .publishedLate t topic mid suback ht
                (by simpa [Portal.stillWaiting] using hstill)
      · exact absurd h (by simp)
  | expire t =>
      dsimp only at h
      split at h
      · next topic mid suback late ht =>
          obtain rfl := Option.some.inj h
          exact .expired t topic mid suback late ht
      · exact absurd h (by simp)
  | wake t tw =>
      dsimp only at h
      split at h
      · next topic mid suback late ht =>
          split at h
          · split at h
            · next hlate =>
                obtain rfl := Option.some.inj h
                exact .woke t tw topic mid suback late _ ht (.inl ⟨rfl, hlate⟩)
            · exact absurd h (by simp)
          · split at h <;> obtain rfl := Option.some.inj h
            · next hstill => exact .slept t tw hstill
            · next hstill =>
                exact .woke t tw topic mid suback late _ ht (.inr ⟨rfl, by simpa using hstill⟩)
      · exact absurd h (by simp)

end DtnetportalMosquitto
