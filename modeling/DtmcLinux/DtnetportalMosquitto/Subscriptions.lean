import DtmcLinux.DtnetportalMosquitto.Steps

set_option autoImplicit false

/-! # When a subscription is real

Subscribe registers its recipient before it asks the broker, and leaves it registered when the
broker refuses or does not answer; only the first recipient of a topic makes it ask. So a call that
finds the topic with recipients returns success, whatever became of the SUBSCRIBE for the topic, and
whether or not `on_connect` has got to the topic after a reconnect. Here one thread calls subscribe
again and again. -/

namespace DtnetportalMosquitto

open Posix

/-! ## The property and the condition -/

/-- Whenever subscribe has returned success while connected, a SUBSCRIBE for the topic had been sent
    on the connection and was neither refused nor timed out. -/
def SubscriptionsReal (s : State Unit) : Prop :=
  ∀ r ∈ s.returned, r.dterr = none → r.connected = true → r.live = true

instance SubscriptionsReal.decidable (s : State Unit) : Decidable (SubscriptionsReal s) :=
  inferInstanceAs (Decidable (∀ r ∈ s.returned, _))

/-- The topic of a call that is about to test whether to ask the broker. -/
def Call.counted : Call → Option String
  | .counting topic => some topic
  | .idle | .sending _ | .sent _ _ _ | .waiting _ _ _ _ => none

/-- The topic of a call that waits. -/
def Call.waits : Call → Option String
  | .waiting topic _ _ _ => some topic
  | .idle | .counting _ | .sending _ | .sent _ _ _ => none

/-- A call that is made while connected, for a topic that already has a recipient, finds that a
    SUBSCRIBE for the topic was sent on the connection, neither refused nor timed out; and no
    connection is made between the grant of a call's SUBSCRIBE and the return of the call. -/
def Subscribed (s : State Unit) : Event Unit → Prop
  | .count _ none => ∀ topic ∈ (s.calls ()).counted, s.self.connected = true →
    s.self.recipientCount topic = 1 ∨ s.live topic = true
  | .connect rc => rc = 0 → (s.calls ()).waits.isSome = true → s.self.subackResult ≠ 0
  | _ => True

instance Subscribed.decidable (s : State Unit) (e : Event Unit) : Decidable (Subscribed s e) :=
  match e with
  | .count _ none => inferInstanceAs (Decidable (∀ topic ∈ (s.calls ()).counted, _ → _ ∨ _))
  | .connect rc => inferInstanceAs (Decidable (rc = 0 → _ → _))
  | .count _ (some _) | .activate | .resubscribe _ | .disconnect | .suback _ _
  | .subscribe _ _ _ | .send _ _ | .publishMid _ | .expire _ | .wake _ _ => instDecidableTrue

/-! ## What holds in every run -/

/-- The topic and the message id of a call that has sent its SUBSCRIBE. -/
def Call.expects : Call → Option (String × ℤ)
  | .idle | .counting _ | .sending _ => none
  | .sent topic mid _ | .waiting topic mid _ _ => some (topic, mid)

theorem Call.mid_eq_expects (call : Call) : call.mid = call.expects.map (·.2) := by
  cases call <;> rfl

@[simp] theorem Call.hear_expects (mid : ℤ) (ok : Bool) (call : Call) :
    (call.hear mid ok).expects = call.expects := by
  cases call <;> rfl

@[simp] theorem Call.hear_waits (mid : ℤ) (ok : Bool) (call : Call) :
    (call.hear mid ok).waits = call.waits := by
  cases call <;> rfl

/-- The client of a connected object exists, the slot holds the message id of a call that waits, if
    any, and an unanswered SUBSCRIBE with the message id of the call is that of the call. -/
structure OneCaller (s : State Unit) : Prop where
  mqt : s.self.connected = true → s.self.mqt = true
  awaited : ∀ topic mid, (s.calls ()).expects = some (topic, mid) → mid ∈ s.awaited
  pos : ∀ r ∈ s.subscribes, 0 < r.mid
  result : s.self.subackResult = -1 ∨ s.self.subackResult = 0 ∨ s.self.subackResult = 1
  slot : s.self.subackMidWaiting = -1 ∨ ∃ topic,
    (s.calls ()).waits = some topic ∧
      (s.calls ()).expects = some (topic, s.self.subackMidWaiting)
  own : ∀ topic mid, (s.calls ()).expects = some (topic, mid) →
    ∀ r ∈ s.subscribes, r.mid = mid → r.suback = none → r.topic = topic ∧ r.timedOut = false

theorem oneCaller_initial : OneCaller State.initial where
  mqt h := absurd h (by simp [State.initial, Portal.initialized])
  awaited _ _ h := absurd h (by simp [State.initial, Call.expects])
  pos _ h := absurd h (by simp [State.initial])
  result := .inl rfl
  slot := .inl rfl
  own _ _ h := absurd h (by simp [State.initial, Call.expects])

/-- A step of the library's thread other than `on_subscribe`. -/
theorem OneCaller.library {s s' : State Unit} (h : OneCaller s) (hcalls : s'.calls = s.calls)
    (hmqt : s'.self.connected = true → s'.self.mqt = true) (hawaited : s'.awaited = s.awaited)
    (hmid : s'.self.subackMidWaiting = s.self.subackMidWaiting)
    (hresult : s'.self.subackResult = s.self.subackResult)
    (hsubscribes : ∀ r ∈ s'.subscribes, r ∈ s.subscribes ∨ (0 < r.mid ∧ r.mid ∉ s.awaited)) :
    OneCaller s' := by
  refine ⟨hmqt, hcalls ▸ hawaited ▸ h.awaited, ?_, hresult ▸ h.result, ?_, ?_⟩
  · intro r hr
    exact (hsubscribes r hr).elim (h.pos r) And.left
  · rw [hcalls, hmid]
    exact h.slot
  · intro topic mid hexpects r hr hrm hnone
    rw [hcalls] at hexpects
    rcases hsubscribes r hr with hr | ⟨-, hnot⟩
    · exact h.own topic mid hexpects r hr hrm hnone
    · exact absurd (hrm ▸ h.awaited topic mid hexpects) hnot

/-- The call moves on, without a SUBSCRIBE before and after. -/
theorem OneCaller.moved {s s' : State Unit} (h : OneCaller s) {call : Call}
    (hcalls : s'.calls () = call) (hmqt : s'.self.mqt = s.self.mqt)
    (hconnected : s'.self.connected = s.self.connected)
    (hmid : s'.self.subackMidWaiting = s.self.subackMidWaiting)
    (hresult : s'.self.subackResult = s.self.subackResult)
    (hsubscribes : s'.subscribes = s.subscribes)
    (hold : (s.calls ()).expects = none) (hnew : call.expects = none) : OneCaller s' := by
  refine ⟨hmqt ▸ hconnected ▸ h.mqt, ?_, hsubscribes ▸ h.pos, hresult ▸ h.result, ?_, ?_⟩
  · intro topic mid hexpects
    rw [hcalls, hnew] at hexpects
    exact absurd hexpects (by simp)
  · rw [hmid]
    refine .inl (h.slot.resolve_right ?_)
    rintro ⟨topic, -, hexpects⟩
    rw [hold] at hexpects
    exact absurd hexpects (by simp)
  · intro topic mid hexpects
    rw [hcalls, hnew] at hexpects
    exact absurd hexpects (by simp)

/-- A call has recorded its message id, and waits. -/
theorem OneCaller.publishes {s : State Unit} (h : OneCaller s) {topic : String} {mid : ℤ}
    {suback : Option Bool} (ht : s.calls () = .sent topic mid suback) :
    OneCaller ({ s with
      self := { s.self with subackMidWaiting := mid, subackResult := -1 } }.setCall ()
        (.waiting topic mid suback false)) := by
  have hexpects : (s.calls ()).expects = some (topic, mid) := by
    rw [ht]
    rfl
  refine ⟨h.mqt, ?_, h.pos, .inl rfl, .inr ⟨topic, ?_, ?_⟩, ?_⟩
  · intro topic' mid' hnew
    rw [State.setCall_self] at hnew
    exact h.awaited topic' mid' (hexpects.trans hnew)
  · rw [State.setCall_self]
    rfl
  · rw [State.setCall_self]
    rfl
  · intro topic' mid' hnew
    rw [State.setCall_self] at hnew
    exact h.own topic' mid' (hexpects.trans hnew)

/-- The wait of the call ends. -/
theorem OneCaller.ends {s : State Unit} (h : OneCaller s) (topic : String) (mid : ℤ)
    (suback : Option Bool) (rc : Rc) : OneCaller (s.endWait () topic mid suback rc) := by
  have hidle := s.endWait_self () topic mid suback rc
  refine ⟨h.mqt, ?_, ?_, h.result, .inl rfl, ?_⟩
  · intro topic' mid' hexpects
    rw [hidle] at hexpects
    exact absurd hexpects (by simp [Call.expects])
  · intro r hr
    have hr : r ∈ (if s.self.subackRc rc = ETIMEDOUT then
        s.subscribes.map fun r => if r.mid = mid then { r with timedOut := true } else r
      else s.subscribes) := hr
    split at hr
    · obtain ⟨r', hr', rfl⟩ := List.mem_map.1 hr
      split <;> exact h.pos r' hr'
    · exact h.pos r hr
  · intro topic' mid' hexpects
    rw [hidle] at hexpects
    exact absurd hexpects (by simp [Call.expects])

/-- A call has sent its SUBSCRIBE. -/
theorem OneCaller.sends {s : State Unit} (h : OneCaller s) {topic : String} {mid : ℤ}
    (ht : s.calls () = .sending topic) (hfresh : s.fresh mid = true) :
    OneCaller ({ s.sendSubscribe topic mid with awaited := mid :: s.awaited }.setCall ()
      (.sent topic mid none)) := by
  obtain ⟨hpos, -, hsettled⟩ := State.fresh_spec hfresh
  refine ⟨h.mqt, ?_, ?_, h.result, ?_, ?_⟩
  · intro topic' mid' hexpects
    rw [State.setCall_self] at hexpects
    obtain ⟨-, rfl⟩ : topic = topic' ∧ mid = mid' := by simpa [Call.expects] using hexpects
    exact List.mem_cons_self
  · intro r hr
    rcases List.mem_cons.1 hr with rfl | hr
    · exact hpos
    · exact h.pos r hr
  · refine .inl (h.slot.resolve_right ?_)
    rintro ⟨topic', hwaits, -⟩
    simp [ht, Call.waits] at hwaits
  · intro topic' mid' hexpects r hr hrm hnone
    rw [State.setCall_self] at hexpects
    obtain ⟨rfl, rfl⟩ : topic = topic' ∧ mid = mid' := by simpa [Call.expects] using hexpects
    rcases List.mem_cons.1 hr with rfl | hr
    · exact ⟨rfl, rfl⟩
    · exact absurd hnone (hsettled r hr hrm)

/-- A SUBACK arrives. -/
theorem OneCaller.hears {s : State Unit} (h : OneCaller s) (mid : ℤ) (ok : Bool) :
    OneCaller { s with
      self := s.self.onSubscribe mid ok
      calls := fun t => (s.calls t).hear mid ok
      subscribes := s.subscribes.map fun r =>
        if r.mid = mid ∧ r.suback = none then { r with suback := some ok } else r } := by
  have hself : (s.self.onSubscribe mid ok).connected = s.self.connected ∧
      (s.self.onSubscribe mid ok).mqt = s.self.mqt := by
    unfold Portal.onSubscribe
    split <;> exact ⟨rfl, rfl⟩
  refine ⟨?_, ?_, ?_, ?_, ?_, ?_⟩
  · rw [hself.1, hself.2]
    exact h.mqt
  · exact fun topic m hexpects => h.awaited topic m (by simpa using hexpects)
  · intro r hr
    obtain ⟨r', hr', rfl⟩ := List.mem_map.1 hr
    split <;> exact h.pos r' hr'
  · unfold Portal.onSubscribe
    split
    · cases ok
      · exact .inr (.inr rfl)
      · exact .inr (.inl rfl)
    · exact h.result
  · simpa using h.slot
  · intro topic m hexpects r hr hrm hnone
    obtain ⟨r', hr', rfl⟩ := List.mem_map.1 hr
    split at hnone
    · exact absurd hnone (by simp)
    · next hkept =>
        rw [if_neg hkept] at hrm ⊢
        exact h.own topic m (by simpa using hexpects) r' hr' hrm hnone

theorem OneCaller.effect {s s' : State Unit} {e : Event Unit} (h : OneCaller s)
    (heff : Effect s e s') : OneCaller s' := by
  cases heff with
  | activated => exact h.library rfl (fun _ => rfl) rfl rfl rfl fun _ hr => .inl hr
  | connected hmqt hlibrary =>
      exact h.library rfl (fun _ => hmqt) rfl rfl rfl fun _ hr => absurd hr List.not_mem_nil
  | disconnected e hlibrary he =>
      exact h.library rfl (fun hc => absurd hc (by simp)) rfl rfl rfl fun _ hr => .inl hr
  | notResubscribed topic rest hlibrary =>
      exact h.library rfl h.mqt rfl rfl rfl fun _ hr => .inl hr
  | resubscribed topic rest mid hlibrary hfresh =>
      obtain ⟨hpos, hnot, -⟩ := State.fresh_spec hfresh
      refine h.library rfl h.mqt rfl rfl rfl fun r hr => ?_
      rcases List.mem_cons.1 hr with rfl | hr
      · exact .inr ⟨hpos, hnot⟩
      · exact .inl hr
  | heard mid grantedQos hlibrary hconnected hpending => exact h.hears mid _
  | registered t topic ht =>
      exact h.moved (State.setCall_self _ _ _) rfl rfl rfl rfl rfl (by rw [ht]; rfl) rfl
  | asks t topic ht hcount hconnected =>
      exact h.moved (State.setCall_self _ _ _) rfl rfl rfl rfl rfl (by rw [ht]; rfl) rfl
  | skips t topic ht hskip =>
      exact h.moved (State.returns_self _ _ _ _ _) rfl rfl rfl rfl rfl (by rw [ht]; rfl) rfl
  | failed e t topic dterr hcount hmid =>
      refine h.moved (State.returns_self _ _ _ _ _) rfl rfl rfl rfl rfl ?_ rfl
      rw [Call.mid_eq_expects] at hmid
      exact Option.map_eq_none_iff.1 hmid
  | sent t topic mid ht hfresh => exact h.sends ht hfresh
  | published t topic mid suback ht hconnected => exact h.publishes ht
  | publishedLate t topic mid suback ht hconnected =>
      have hend := (h.publishes ht).ends topic mid suback 0
      rwa [State.endWait_setCall] at hend
  | expired t topic mid suback late ht =>
      have hsame : (s.setCall () (.waiting topic mid suback true)).calls ()
          = .waiting topic mid suback true := State.setCall_self _ _ _
      refine ⟨h.mqt, ?_, h.pos, h.result, ?_, ?_⟩
      · intro topic' mid' hexpects
        rw [hsame] at hexpects
        exact h.awaited topic' mid' (by rw [ht]; exact hexpects)
      · rw [hsame]
        have hslot := h.slot
        rw [ht] at hslot
        exact hslot
      · intro topic' mid' hexpects
        rw [hsame] at hexpects
        exact h.own topic' mid' (by rw [ht]; exact hexpects)
  | slept t tw hstill => exact h
  | woke t tw topic mid suback late rc ht hrc => exact h.ends topic mid suback rc

/-! ## What the condition keeps -/

/-- The SUBSCRIBE of a call that has been granted and is about to return was granted on this
    connection. -/
structure Granted (s : State Unit) : Prop extends OneCaller s where
  granted : ∀ topic, (s.calls ()).waits = some topic → s.self.subackResult = 0 →
    ∃ r ∈ s.subscribes, r.topic = topic ∧ r.suback = some true ∧ r.timedOut = false
  real : SubscriptionsReal s

theorem granted_initial : Granted State.initial where
  toOneCaller := oneCaller_initial
  granted _ h := absurd h (by simp [State.initial, Call.waits])
  real _ h := absurd h (by simp [State.initial])

/-- A granted SUBSCRIBE is a live one. -/
theorem State.live_of_granted {s : State Unit} {topic : String}
    (h : ∃ r ∈ s.subscribes, r.topic = topic ∧ r.suback = some true ∧ r.timedOut = false) :
    s.live topic = true := by
  obtain ⟨r, hr, htopic, hsuback, htimedOut⟩ := h
  refine List.any_eq_true.2 ⟨r, hr, ?_⟩
  simp [htopic, Subscribe.live, hsuback, htimedOut]

/-- A wait that ends without an error has been granted. -/
theorem Portal.granted_of_success {self : Portal} {topic : String} {rc : Rc} {late : Bool}
    (hresult : self.subackResult = -1 ∨ self.subackResult = 0 ∨ self.subackResult = 1)
    (hrc : rc = ETIMEDOUT ∧ late = true ∨ rc = 0 ∧ self.stillWaiting = false)
    (h : unableToSubscribe topic (subackError topic (self.subackRc rc)) = none) :
    self.subackResult = 0 := by
  have herror : subackError topic (self.subackRc rc) = none := by
    simpa [unableToSubscribe] using h
  rcases hresult with hresult | hresult | hresult
  · -- still unanswered: the wait has timed out, or the connection is lost
    exfalso
    cases hconnected : self.connected with
    | false =>
        have hwrc : self.subackRc rc = ENOTCONN := by
          simp [Portal.subackRc, hresult, hconnected]
        rw [hwrc] at herror
        simp [subackError, ENOTCONN, ETIMEDOUT, EIO] at herror
    | true =>
        rcases hrc with ⟨rfl, -⟩ | ⟨-, hstill⟩
        · have hwrc : self.subackRc ETIMEDOUT = ETIMEDOUT := by
            simp [Portal.subackRc, hresult, hconnected]
          rw [hwrc] at herror
          simp [subackError] at herror
        · simp [Portal.stillWaiting, hresult, hconnected] at hstill
  · exact hresult
  · have hwrc : self.subackRc rc = EIO := by
      simp [Portal.subackRc, hresult]
    rw [hwrc] at herror
    exact absurd herror (by simp [subackError, EIO, ETIMEDOUT])

/-- The new entry of the record. -/
theorem real_returns {s : State Unit} {topic : String} {suback : Option Bool}
    {dterr : Option Dterr} (h : SubscriptionsReal s)
    (hnew : unableToSubscribe topic dterr = none → s.self.connected = true →
      s.live topic = true) : SubscriptionsReal (s.returns () topic suback dterr) := by
  intro r hr
  rcases List.mem_cons.1 hr with rfl | hr
  · exact hnew
  · exact h r hr

/-- A step after which no call waits with a grant in the slot. -/
theorem Granted.idle {s' : State Unit} (h : OneCaller s') (hreal : SubscriptionsReal s')
    (hnot : (s'.calls ()).waits = none ∨ s'.self.subackResult ≠ 0) : Granted s' where
  toOneCaller := h
  granted topic hwaits hzero := by
    rcases hnot with hnone | hne
    · exact absurd (hnone.symm.trans hwaits) (by simp)
    · exact absurd hzero hne
  real := hreal

/-- A step of the library's thread that keeps the SUBSCRIBEs of the connection. -/
theorem Granted.library {s s' : State Unit} (h : Granted s) (hone : OneCaller s')
    (hcalls : s'.calls = s.calls) (hresult : s'.self.subackResult = s.self.subackResult)
    (hreturned : s'.returned = s.returned)
    (hsubscribes : ∀ r ∈ s.subscribes, r ∈ s'.subscribes) : Granted s' where
  toOneCaller := hone
  granted topic hwaits hzero := by
    obtain ⟨r, hr, hlive⟩ := h.granted topic (hcalls ▸ hwaits) (hresult ▸ hzero)
    exact ⟨r, hsubscribes r hr, hlive⟩
  real := fun r hr => h.real r (hreturned ▸ hr)

/-- The SUBACK of the call, or of another SUBSCRIBE. -/
theorem Granted.hears {s : State Unit} (h : Granted s) {mid : ℤ} (ok : Bool)
    (hpending : ∃ r ∈ s.subscribes, r.mid = mid ∧ r.suback = none) :
    Granted { s with
      self := s.self.onSubscribe mid ok
      calls := fun t => (s.calls t).hear mid ok
      subscribes := s.subscribes.map fun r =>
        if r.mid = mid ∧ r.suback = none then { r with suback := some ok } else r } := by
  refine ⟨h.toOneCaller.hears mid ok, ?_, h.real⟩
  intro topic hwaits hzero
  have hwaits : (s.calls ()).waits = some topic := by simpa using hwaits
  obtain ⟨r₀, hr₀, hmid₀, hnone₀⟩ := hpending
  by_cases hslot : s.self.subackMidWaiting = mid
  · -- the answer to the call: it was granted
    have hok : ok = true := by
      have hzero : (s.self.onSubscribe mid ok).subackResult = 0 := hzero
      cases ok with
      | true => rfl
      | false => simp [Portal.onSubscribe, hslot] at hzero
    have hpos := h.pos r₀ hr₀
    rcases h.slot with hfree | ⟨topic', hwaits', hexpects⟩
    · omega
    · obtain rfl : topic = topic' := Option.some.inj (hwaits.symm.trans hwaits')
      obtain ⟨htopic, htimedOut⟩ := h.own topic _ hexpects r₀ hr₀ (hmid₀.trans hslot.symm) hnone₀
      refine ⟨{ r₀ with suback := some true }, List.mem_map.2 ⟨r₀, hr₀, ?_⟩, htopic, rfl, htimedOut⟩
      rw [if_pos ⟨hmid₀, hnone₀⟩, hok]
  · have hzero : s.self.subackResult = 0 := by
      have hzero : (s.self.onSubscribe mid ok).subackResult = 0 := hzero
      rwa [Portal.onSubscribe, if_neg hslot] at hzero
    obtain ⟨r, hr, htopic, hsuback, htimedOut⟩ := h.granted topic hwaits hzero
    refine ⟨r, List.mem_map.2 ⟨r, hr, if_neg ?_⟩, htopic, hsuback, htimedOut⟩
    rintro ⟨-, hnone⟩
    exact absurd (hsuback.symm.trans hnone) (by simp)

theorem Granted.effect {s s' : State Unit} {e : Event Unit} (h : Granted s) (hC : Subscribed s e)
    (heff : Effect s e s') : Granted s' := by
  have hone := h.toOneCaller.effect heff
  cases heff with
  | activated => exact h.library hone rfl rfl rfl fun _ hr => hr
  | connected hmqt hlibrary =>
      refine .idle hone h.real ?_
      cases hwaits : (s.calls ()).waits with
      | none => exact .inl rfl
      | some topic => exact .inr (hC rfl (by rw [hwaits]; rfl))
  | disconnected e hlibrary he => exact h.library hone rfl rfl rfl fun _ hr => hr
  | notResubscribed topic rest hlibrary => exact h.library hone rfl rfl rfl fun _ hr => hr
  | resubscribed topic rest mid hlibrary hfresh =>
      exact h.library hone rfl rfl rfl fun _ hr => List.mem_cons_of_mem _ hr
  | heard mid grantedQos hlibrary hconnected hpending => exact h.hears _ hpending
  | registered t topic ht => exact .idle hone h.real (.inl (by simp [Call.waits]))
  | asks t topic ht hcount hconnected => exact .idle hone h.real (.inl (by simp [Call.waits]))
  | skips t topic ht hskip =>
      refine .idle hone (real_returns h.real fun _ hconnected => ?_) (.inl (by simp [Call.waits]))
      have hcount : topic ∈ (s.calls ()).counted := by
        rw [ht]
        rfl
      refine (hC topic hcount hconnected).resolve_left fun hfirst => ?_
      exact hskip ⟨hfirst, h.mqt hconnected, hconnected⟩
  | failed e t topic dterr hcount hmid =>
      exact .idle hone (real_returns h.real fun hnone => absurd hnone (by simp [unableToSubscribe]))
        (.inl (by simp [Call.waits]))
  | sent t topic mid ht hfresh => exact .idle hone h.real (.inl (by simp [Call.waits]))
  | published t topic mid suback ht hconnected =>
      exact .idle hone h.real (.inr (by simp [State.setCall]))
  | publishedLate t topic mid suback ht hconnected =>
      refine .idle hone (real_returns h.real fun _ hc => ?_) (.inl (by simp [Call.waits]))
      exact absurd (hconnected.symm.trans hc) (by simp)
  | expired t topic mid suback late ht =>
      refine ⟨hone, fun topic' hwaits hzero => ?_, h.real⟩
      rw [State.setCall_self] at hwaits
      exact h.granted topic' (by rw [ht]; exact hwaits) hzero
  | slept t tw hstill => exact h
  | woke t tw topic mid suback late rc ht hrc =>
      refine .idle hone (real_returns h.real fun hnone _ => ?_) (.inl (by simp [Call.waits]))
      have hzero : s.self.subackResult = 0 := Portal.granted_of_success h.result hrc hnone
      have hwrc : s.self.subackRc rc = 0 := by simp [Portal.subackRc, hzero]
      have hlive := State.live_of_granted (h.granted topic (by rw [ht]; rfl) hzero)
      rw [hwrc, if_neg (by decide)]
      exact hlive

/-! ## What happens without it -/

/-- A call whose SUBSCRIBE has been granted returns success when it wakes. -/
theorem wake_granted {s : State Unit} {topic : String} {mid : ℤ} {suback : Option Bool}
    {late : Bool} (ht : s.calls () = .waiting topic mid suback late)
    (hzero : s.self.subackResult = 0) : ∃ t, step s (.wake () 0) = some t ∧
      t.returned = { topic := topic
                     dterr := none
                     suback := suback
                     connected := s.self.connected
                     live := s.live topic } :: s.returned := by
  have hstill : s.self.stillWaiting = false := by simp [Portal.stillWaiting, hzero]
  have hwrc : s.self.subackRc 0 = 0 := by simp [Portal.subackRc, hzero]
  refine ⟨s.endWait () topic mid suback 0, ?_, ?_⟩
  · simp [step, ht, hstill, ETIMEDOUT]
  · unfold State.endWait
    rw [hwrc]
    rfl

/-- After a step against the condition, a success that is not real has been returned, or can be. -/
theorem unreal_of_not_subscribed {s s' : State Unit} {e : Event Unit}
    (hstep : step s e = some s') (hC : ¬Subscribed s e) :
    ∃ es t, Run.exec step s' es = some t ∧ ¬SubscriptionsReal t := by
  cases e with
  | count t dterr =>
      cases dterr with
      | some dterr => exact absurd trivial hC
      | none =>
          obtain ⟨topic, hcounted, hconnected, hmore, hdead⟩ : ∃ topic ∈ (s.calls ()).counted,
              s.self.connected = true ∧ s.self.recipientCount topic ≠ 1 ∧
                s.live topic = false := by
            simpa [Subscribed] using hC
          have ht : s.calls () = .counting topic := by
            cases hcall : s.calls () <;> simp [hcall, Call.counted] at hcounted
            rw [hcounted]
          have hs' : s' = s.returns () topic none none := by
            simpa [step, ht, hmore] using hstep.symm
          refine ⟨[], s', rfl, fun hreal => ?_⟩
          have hlive := hreal _ (by rw [hs']; exact List.mem_cons_self) rfl hconnected
          exact absurd (hdead.symm.trans hlive) (by simp)
  | connect rc =>
      obtain ⟨rfl, hwaits, hzero⟩ : rc = 0 ∧ (s.calls ()).waits.isSome = true ∧
          s.self.subackResult = 0 := by
        simpa [Subscribed] using hC
      cases hcall : s.calls () with
      | waiting topic mid suback late =>
          obtain ⟨-, rfl⟩ : (s.self.mqt = true ∧ s.resubscribing = []) ∧
              s' = { s with
                self := { s.self with connected := true }
                resubscribing := s.self.recipients.dedup
                subscribes := [] } := by
            simpa [step] using hstep.symm
          -- the call wakes before the topic is subscribed again
          obtain ⟨t, ht, hreturned⟩ := wake_granted (s := { s with
            self := { s.self with connected := true }
            resubscribing := s.self.recipients.dedup
            subscribes := [] }) hcall hzero
          refine ⟨[.wake () 0], t, ?_, fun hreal => ?_⟩
          · rw [Run.exec_cons, ht]
            rfl
          · have hlive := hreal _ (by rw [hreturned]; exact List.mem_cons_self) rfl rfl
            exact absurd hlive (by simp [State.live])
      | idle | counting _ | sending _ | sent _ _ _ => simp [hcall, Call.waits] at hwaits
  | activate | resubscribe _ | disconnect | suback _ _ | subscribe _ _ _ | send _ _
  | publishMid _ | expire _ | wake _ _ => exact absurd trivial hC

/-! ## The results -/

/-- Two recipients of one topic, a reconnect, and a third recipient after the topic has been
    subscribed again. -/
def reconnectRun : List (Event Unit) :=
  [.activate, .connect 0, .subscribe () "a" none, .count () none, .send () (.ok 1),
    .publishMid (), .suback 1 [0], .wake () 0, .subscribe () "a" none, .count () none,
    .disconnect, .connect 0, .resubscribe (some 2), .suback 2 [0], .subscribe () "a" none,
    .count () none]

end DtnetportalMosquitto
