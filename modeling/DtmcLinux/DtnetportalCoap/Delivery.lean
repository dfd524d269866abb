import DtmcLinux.DtnetportalCoap.OnPostTopic
import DtmcLinux.DtnetportalCoap.Publish
import DtmcLinux.DtnetportalCoap.PublishOne

set_option autoImplicit false

/-! # From publisher to subscriber

Two ends of a CoAP netportal: callers put messages, the ioloop sends a request for each, the network
delivers the requests in any order, any number of times or never, and `dtnetportal_coap__on_post_topic`
of the other end hands them to its manifold. Whatever the interleaving, a subscriber gets what was
published and nothing else (`delivered_as_published`). How libcoap shows the query of a request
(`coap_get_query`) is the parameter `getQuery`. -/

namespace DtnetportalCoap

open Posix

/-! ## The system -/

/-- What the manifold of the other end has got, and with which of the requests sent. -/
structure Delivered where
  sequence : ℕ
  topic : List UInt8
  payload : Option (List UInt8)
  deriving DecidableEq

/-- The end that publishes, the requests that were sent, and what the other end has made of those that
    came to its handler. -/
structure Pair where
  sender : State
  wire : List Pdu
  handled : List (PostRequest × Handling)
  delivered : List Delivered

def Pair.initial : Pair := ⟨State.initial, [], [], []⟩

/-- The events: those of the sender, where `dtnetportal_coap__ioloop_publish_one` returns what it
    does with the calls given, and the arrival of a request. -/
inductive PairEvent where
  | sender (e : Event)
  | publishOne (calls : PublishCalls)
  | deliver (sequence : ℕ) (calls : PostCalls)

/-- What comes to the handler: `dtnetportal_coap__create_resource` registers it for a `POST` to
    `/ingress`. -/
def Pdu.request (getQuery : List (List UInt8) → Option (List UInt8)) (pdu : Pdu) :
    Option PostRequest :=
  if pdu.values uriPath = [ascii "ingress"] then
    some {
      self := true
      manifold := true
      resource := true
      incomingPdu := true
      responsePdu := true
      query := getQuery (pdu.values uriQuery)
      payload := pdu.payload }
  else none

variable (getQuery : List (List UInt8) → Option (List UInt8))

/-- One step. -/
def pairStep (s : Pair) : PairEvent → Option Pair
  | .sender (.publishOne _) => none
  | .sender e => (step s.sender e).map fun sender => { s with sender := sender }
  | .publishOne calls =>
    match s.sender.ioloop, s.sender.published.getLast? with
    | .publishing topic, some published =>
      let outcome := ioloopPublishOne calls topic published.data
      (step s.sender (.publishOne outcome.dterr)).map fun sender =>
        { s with sender := sender, wire := s.wire ++ outcome.sent.toList }
    | _, _ => none
  | .deliver sequence calls =>
    match s.wire[sequence]? with
    | none => none
    | some pdu =>
      match pdu.request getQuery with
      | none => some s
      | some r =>
        let handling := onPostTopic calls r
        some { s with
          handled := s.handled ++ [(r, handling)]
          delivered := s.delivered ++
            (handling.published.map fun topic => ⟨sequence, topic, r.payload⟩).toList }

/-! ## The properties -/

/-- The other end can tell the topic: libcoap shows it as it is, and the handler has room for it. -/
structure Message.Deliverable (m : Message) : Prop where
  shown : getQuery [m.topic] = some m.topic
  fits : m.topic.length < topicSize

/-- The step is taken with a message that can be delivered, and with room for it in its PDU. -/
def PairEvent.Plain : PairEvent → Prop
  | .sender (.put m) => m.Deliverable getQuery
  | .publishOne calls => calls.HasRoom
  | .sender _ | .deliver _ _ => True

/-- What is delivered is the message of the call with the number of the request. -/
def Pair.Authentic (s : Pair) : Prop :=
  ∀ d ∈ s.delivered, ∃ m : Message, s.sender.calls[d.sequence]? = some m ∧ d.topic = m.topic ∧
    d.payload.getD [] = m.data

/-- The handler has stayed in its memory and answered once. -/
def Pair.HandledSafely (s : Pair) : Prop := ∀ h ∈ s.handled, h.2.Safe h.1

/-- The buffers that the ioloop has taken and not yet sent. -/
def Ioloop.inHand : Ioloop → ℕ
  | .publishing _ => 1
  | .selecting | .draining _ | .processing | .getting | .ended _ => 0

/-- While the ioloop runs, a message that was put has been sent, or will be. -/
def Pair.Kept (s : Pair) : Prop :=
  s.sender.ioloop.hasEnded = false →
    s.wire.length + s.sender.ioloop.inHand + s.sender.queue.length = s.sender.calls.length

/-! ## The sender -/

/-- What a step of the sender that is no return of `dtnetportal_coap__ioloop_publish_one` does. -/
inductive SenderEffect (s s' : State) : Prop
  /-- nothing is published, and the ioloop is not about to send before or after -/
  | idle (hcalls : s.calls <+: s'.calls) (hpublished : s'.published = s.published)
      (hbefore : s.ioloop.inHand = 0) (hafter : s'.ioloop.inHand = 0)
      (hended : s'.ioloop.hasEnded = false → s.ioloop.hasEnded = false)
  /-- the ioloop is where it was -/
  | aside (hcalls : s.calls <+: s'.calls) (hpublished : s'.published = s.published)
      (hioloop : s'.ioloop = s.ioloop)
  /-- the ioloop takes a buffer -/
  | taken (published : Published) (hcalls : s.calls <+: s'.calls)
      (hpublished : s'.published = s.published ++ [published])
      (hioloop : s.ioloop = .getting) (hafter : s'.ioloop = .publishing published.topic)

theorem inHand_afterDrain (coapReady : Bool) : (afterDrain coapReady).inHand = 0 := by
  cases coapReady <;> rfl

theorem inHand_afterSelect (pipeReady coapReady : Bool) :
    (afterSelect pipeReady coapReady).inHand = 0 := by
  cases pipeReady <;> cases coapReady <;> rfl

theorem senderEffect {s s' : State} {e : Event} (h : step s e = some s')
    (hother : ∀ dterr, e ≠ .publishOne dterr) : SenderEffect s s' := by
  cases e with
  | put m =>
      obtain ⟨-, ⟨⟩⟩ := Option.ite_none_right_eq_some.1 h
      exact .aside (List.prefix_append _ _) rfl rfl
  | write call full =>
      obtain ⟨-, ⟨⟩⟩ := Option.ite_none_right_eq_some.1 h
      exact .aside List.prefix_rfl rfl rfl
  | select coapReady =>
      obtain ⟨⟨hioloop, -⟩, ⟨⟩⟩ := Option.ite_none_right_eq_some.1 h
      exact .idle List.prefix_rfl rfl (by rw [hioloop]; rfl) (inHand_afterSelect _ _)
        (by rw [hioloop]; exact fun _ => rfl)
  | selectFailed errno strerror =>
      obtain ⟨hioloop, ⟨⟩⟩ := Option.ite_none_right_eq_some.1 h
      refine .idle List.prefix_rfl rfl (by rw [hioloop]; rfl) ?_ (by rw [hioloop]; exact fun _ => rfl)
      show (if errno ≠ EAGAIN then _ else _ : Ioloop).inHand = 0
      split
      · rfl
      · exact inHand_afterSelect _ _
  | readInterrupted =>
      simp only [step] at h
      split at h
      · obtain rfl := Option.some.inj h
        exact .aside List.prefix_rfl rfl rfl
      · cases h
  | read =>
      simp only [step] at h
      split at h
      · next coapReady hioloop =>
          obtain rfl := Option.some.inj h
          split
          · exact .aside List.prefix_rfl rfl rfl
          · exact .idle List.prefix_rfl rfl (by rw [hioloop]; rfl) (inHand_afterDrain _)
              (by rw [hioloop]; exact fun _ => rfl)
      · cases h
  | process result =>
      obtain ⟨hioloop, ⟨⟩⟩ := Option.ite_none_right_eq_some.1 h
      refine .idle List.prefix_rfl rfl (by rw [hioloop]; rfl) ?_ (by rw [hioloop]; exact fun _ => rfl)
      show (if result < 0 then _ else _ : Ioloop).inHand = 0
      split <;> rfl
  | get =>
      simp only [step] at h
      obtain ⟨hioloop, h⟩ := Option.ite_none_right_eq_some.1 h
      split at h
      · obtain rfl := Option.some.inj h
        exact .idle List.prefix_rfl rfl (by rw [hioloop]; rfl) rfl (by rw [hioloop]; exact fun _ => rfl)
      · split at h
        · obtain rfl := Option.some.inj h
          exact .idle List.prefix_rfl rfl (by rw [hioloop]; rfl) rfl
            (by rw [hioloop]; exact fun _ => rfl)
        · next work rest hqueue _ topic data hsplit =>
            obtain rfl := Option.some.inj h
            exact .taken ⟨work.call, topic, data⟩ List.prefix_rfl rfl hioloop rfl
  | publishOne dterr => exact absurd rfl (hother dterr)

/-- What was published first belongs to the first call, and so on. -/
theorem InPutOrder.getElem? {s : State} (h : InPutOrder s) {k : ℕ} {published : Published}
    (hk : s.published[k]? = some published) :
    ∃ m, s.calls[k]? = some m ∧ published.topic = m.topic ∧ published.data = m.data := by
  obtain ⟨rest, hrest⟩ := h.inOrder
  have hlt := (List.getElem?_eq_some_iff.1 hk).1
  have hasked : (asked s.calls)[k]? = some published := by
    rw [← hrest, List.getElem?_append_left hlt, hk]
  rw [asked, List.getElem?_mapIdx] at hasked
  obtain ⟨m, hm, hpublished⟩ := Option.map_eq_some_iff.1 hasked
  exact ⟨m, hm, by rw [← hpublished], by rw [← hpublished]⟩

/-- The numbers of calls made before stay what they are. -/
theorem getElem?_of_prefix {calls calls' : List Message} (h : calls <+: calls') {k : ℕ} {m : Message}
    (hk : calls[k]? = some m) : calls'[k]? = some m := by
  obtain ⟨rest, hrest⟩ := h
  rw [← hrest, List.getElem?_append_left (List.getElem?_eq_some_iff.1 hk).1, hk]

/-! ## The receiver -/

/-- A request that has a query with room for it, and no NUL byte in it, is handled safely. -/
theorem onPostTopic_safe (calls : PostCalls) {r : PostRequest} {query : List UInt8}
    (hcomplete : r.complete = true) (hquery : r.query = some query)
    (hfits : query.length < topicSize) (hnul : 0 ∉ query) : (onPostTopic calls r).Safe r := by
  have htopic : cString (topicArray calls.stack query) = query := by
    rw [cString_topicArray, cString_of_not_mem hnul]
  unfold onPostTopic
  rw [hcomplete, hquery]
  simp only [Bool.not_true, Bool.false_eq_true, if_false]
  cases calls.wrap r.payload (Int32.ofNat (r.payload.getD []).length) with
  | some dterr => exact ⟨rfl, range_lt_topicSize.2 hfits, rfl, fun topic h => by cases h⟩
  | none =>
      refine ⟨rfl, range_lt_topicSize.2 hfits, rfl, ?_⟩
      rintro topic ⟨⟩
      rw [htopic]
      exact hquery

/-- **A request arrives as what it says.** -/
theorem Pdu.Carries.request {pdu : Pdu} {m : Message} (h : pdu.Carries m.topic m.data)
    (hm : m.Deliverable getQuery) :
    ∃ r, pdu.request getQuery = some r ∧ r.query = some m.topic ∧ r.payload.getD [] = m.data ∧
      ∀ calls, (onPostTopic calls r).Safe r := by
  have hrequest : pdu.request getQuery =
      some ⟨true, true, true, true, true, getQuery (pdu.values uriQuery), pdu.payload⟩ :=
    if_pos h.path
  rw [h.query, hm.shown, h.payload] at hrequest
  refine ⟨_, hrequest, rfl, ?_, fun calls => onPostTopic_safe calls rfl rfl hm.fits m.noNul⟩
  by_cases hdata : m.data = []
  · rw [if_pos hdata, hdata]
    rfl
  · rw [if_neg hdata]
    rfl

/-! ## The invariant -/

/-- What holds in every state: the sender has published in the order of the puts and sent a request
    for each but the one in hand, and what was delivered is what they say. -/
structure Pair.Consistent (s : Pair) : Prop where
  order : InPutOrder s.sender
  deliverable : ∀ m ∈ s.sender.calls, m.Deliverable getQuery
  inHand : ∀ topic, s.sender.ioloop = .publishing topic →
    ∃ published, s.sender.published.getLast? = some published ∧ published.topic = topic
  sent : s.sender.ioloop.hasEnded = false →
    s.wire.length + s.sender.ioloop.inHand = s.sender.published.length
  wire : ∀ (k : ℕ) (pdu : Pdu), s.wire[k]? = some pdu → ∃ m : Message, s.sender.calls[k]? = some m ∧
    pdu.Carries m.topic m.data
  authentic : s.Authentic
  safe : s.HandledSafely

variable {getQuery}

theorem Pair.Consistent.kept {s : Pair} (h : s.Consistent getQuery) : s.Kept := by
  intro hrunning
  have hlength := congrArg List.length (h.order.kept hrunning)
  rw [List.length_append, List.length_map, length_asked] at hlength
  rw [h.sent hrunning, hlength]

theorem inHand_publishing {ioloop : Ioloop} (h : ioloop.inHand = 0) (topic : List UInt8) :
    ioloop ≠ .publishing topic := by
  rintro rfl
  cases h

/-- The calls only grow: what is on the wire or delivered stays that of its call. -/
theorem Pair.Consistent.sender_step {s : Pair} (h : s.Consistent getQuery) {sender : State} {e : Event}
    (hstep : step s.sender e = some sender) (hother : ∀ dterr, e ≠ .publishOne dterr)
    (hput : ∀ m, e = .put m → m.Deliverable getQuery) :
    Pair.Consistent getQuery { s with sender := sender } := by
  have horder := h.order.effect (step_effect hstep)
  have hdeliverable : ∀ m ∈ sender.calls, m.Deliverable getQuery := by
    intro m hm
    cases step_effect hstep with
    | put m' hroom =>
        rcases List.mem_append.1 hm with hm | hm
        · exact h.deliverable m hm
        · rw [List.mem_singleton.1 hm]
          exact hput m' rfl
    | written | moved | interrupted | drained | emptied | refused | published =>
        exact h.deliverable m hm
  have hcalls : s.sender.calls <+: sender.calls := by
    cases senderEffect hstep hother <;> assumption
  have hkeep : ∀ k m, s.sender.calls[k]? = some m → sender.calls[k]? = some m :=
    fun _ _ hk => getElem?_of_prefix hcalls hk
  have hwire : ∀ (k : ℕ) (pdu : Pdu), s.wire[k]? = some pdu → ∃ m : Message, sender.calls[k]? = some m ∧
      pdu.Carries m.topic m.data := fun k pdu hk =>
    let ⟨m, hm, hcarries⟩ := h.wire k pdu hk
    ⟨m, hkeep k m hm, hcarries⟩
  have hauthentic : Pair.Authentic { s with sender := sender } := fun d hd =>
    let ⟨m, hm, hsame⟩ := h.authentic d hd
    ⟨m, hkeep d.sequence m hm, hsame⟩
  cases senderEffect hstep hother with
  | idle _ hpublished hbefore hafter hended =>
      refine ⟨horder, hdeliverable, fun topic hioloop => ?_, fun hrunning => ?_, hwire, hauthentic,
        h.safe⟩
      · exact absurd hioloop (inHand_publishing hafter topic)
      · show s.wire.length + sender.ioloop.inHand = sender.published.length
        rw [hafter, hpublished, ← h.sent (hended hrunning), hbefore]
  | aside _ hpublished hioloop =>
      refine ⟨horder, hdeliverable, ?_, ?_, hwire, hauthentic, h.safe⟩
      · show ∀ topic, sender.ioloop = .publishing topic → _
        rw [hioloop, hpublished]
        exact h.inHand
      · show sender.ioloop.hasEnded = false → _ + sender.ioloop.inHand = sender.published.length
        rw [hioloop, hpublished]
        exact h.sent
  | taken published _ hpublished hioloop hafter =>
      refine ⟨horder, hdeliverable, fun topic htopic => ?_, fun _ => ?_, hwire, hauthentic, h.safe⟩
      · refine ⟨published, ?_, ?_⟩
        · show sender.published.getLast? = some published
          rw [hpublished, List.getLast?_concat]
        · exact Ioloop.publishing.inj (hafter.symm.trans htopic)
      · have hsent := h.sent (by rw [hioloop]; rfl)
        rw [hioloop] at hsent
        show s.wire.length + sender.ioloop.inHand = sender.published.length
        rw [hafter, hpublished, List.length_append, ← hsent]
        rfl

/-- Sending: the request for the buffer in hand is put behind the others, or the ioloop ends. -/
theorem Pair.Consistent.publishOne_step {s : Pair} (h : s.Consistent getQuery) {calls : PublishCalls}
    (hroom : calls.HasRoom) {topic : List UInt8} {published : Published} {sender : State}
    (hioloop : s.sender.ioloop = .publishing topic)
    (hlast : s.sender.published.getLast? = some published)
    (hstep : step s.sender (.publishOne (ioloopPublishOne calls topic published.data).dterr) =
      some sender) :
    Pair.Consistent getQuery { s with
      sender := sender
      wire := s.wire ++ (ioloopPublishOne calls topic published.data).sent.toList } := by
  have horder := h.order.effect (step_effect hstep)
  have hsent := h.sent (by rw [hioloop]; rfl)
  rw [hioloop] at hsent
  have hindex : s.sender.published[s.wire.length]? = some published := by
    rw [List.getLast?_eq_getElem?, ← hsent] at hlast
    exact hlast
  obtain ⟨m, hm, htopic, hdata⟩ := h.order.getElem? hindex
  obtain ⟨published', hlast', rfl⟩ := h.inHand topic hioloop
  obtain rfl := Option.some.inj (hlast.symm.trans hlast')
  simp only [step, hioloop, Option.some.injEq] at hstep
  obtain rfl := hstep
  rcases ioloopPublishOne_sent calls published.topic published.data with ⟨dterr, hfailed⟩ | hok
  · rw [hfailed] at horder ⊢
    refine ⟨horder, h.deliverable, ?_, ?_, ?_, h.authentic, h.safe⟩
    · rintro _ ⟨⟩
    · rintro ⟨⟩
    · simpa using h.wire
  · rw [hok] at horder ⊢
    refine ⟨horder, h.deliverable, ?_, ?_, ?_, h.authentic, h.safe⟩
    · rintro _ ⟨⟩
    · intro _
      rw [List.length_append]
      exact hsent
    · intro k pdu hk
      rcases Nat.lt_or_ge k s.wire.length with hlt | hge
      · rw [List.getElem?_append_left hlt] at hk
        exact h.wire k pdu hk
      · -- the new request
        rw [List.getElem?_append_right hge, Option.toList_some, List.getElem?_singleton] at hk
        obtain ⟨hzero, ⟨⟩⟩ := Option.ite_none_right_eq_some.1 hk
        obtain rfl : k = s.wire.length := by omega
        refine ⟨m, hm, ?_⟩
        rw [htopic, hdata]
        refine requestPdu_carries hroom ?_ m.data
        exact Nat.lt_trans (h.deliverable m (List.mem_of_getElem? hm)).fits (by decide)

/-- Delivery: whichever of the requests arrives. -/
theorem Pair.Consistent.deliver_step {s : Pair} (h : s.Consistent getQuery) {sequence : ℕ}
    {pdu : Pdu} (hpdu : s.wire[sequence]? = some pdu) {r : PostRequest}
    (hr : pdu.request getQuery = some r) (calls : PostCalls) :
    Pair.Consistent getQuery { s with
      handled := s.handled ++ [(r, onPostTopic calls r)]
      delivered := s.delivered ++
        ((onPostTopic calls r).published.map fun topic => ⟨sequence, topic, r.payload⟩).toList } := by
  obtain ⟨m, hm, hcarries⟩ := h.wire sequence pdu hpdu
  obtain ⟨r', hr', hquery, hpayload, hsafe⟩ :=
    hcarries.request getQuery (h.deliverable m (List.mem_of_getElem? hm))
  obtain rfl := Option.some.inj (hr.symm.trans hr')
  refine ⟨h.order, h.deliverable, h.inHand, h.sent, h.wire, ?_, ?_⟩
  · intro d hd
    rcases List.mem_append.1 hd with hd | hd
    · exact h.authentic d hd
    · obtain ⟨topic, htopic, rfl⟩ := Option.map_eq_some_iff.1 (Option.mem_toList.1 hd)
      have hwhole := (hsafe calls).wholeQuery topic htopic
      exact ⟨m, hm, Option.some.inj (hwhole.symm.trans hquery), hpayload⟩
  · intro handled hhandled
    rcases List.mem_append.1 hhandled with hhandled | hhandled
    · exact h.safe handled hhandled
    · rw [List.mem_singleton.1 hhandled]
      exact hsafe calls

theorem Pair.Consistent.step {s s' : Pair} {e : PairEvent} (h : s.Consistent getQuery)
    (hplain : e.Plain getQuery) (hstep : pairStep getQuery s e = some s') : s'.Consistent getQuery := by
  cases e with
  | sender e =>
      have hother : ∀ dterr, e ≠ .publishOne dterr := by
        rintro dterr rfl
        cases hstep
      have hput : ∀ m, e = .put m → m.Deliverable getQuery := by
        rintro m rfl
        exact hplain
      have hmap : (DtnetportalCoap.step s.sender e).map (fun sender => { s with sender := sender }) =
          some s' := by
        cases e with
        | publishOne dterr => exact absurd rfl (hother dterr)
        | put | write | select | selectFailed | readInterrupted | read | process | get => exact hstep
      obtain ⟨sender, hsender, rfl⟩ := Option.map_eq_some_iff.1 hmap
      exact h.sender_step hsender hother hput
  | publishOne calls =>
      simp only [pairStep] at hstep
      split at hstep
      · next topic published hioloop hlast =>
          obtain ⟨sender, hsender, rfl⟩ := Option.map_eq_some_iff.1 hstep
          exact h.publishOne_step hplain hioloop hlast hsender
      · cases hstep
  | deliver sequence calls =>
      simp only [pairStep] at hstep
      split at hstep
      · cases hstep
      · next pdu hpdu =>
          split at hstep
          · exact Option.some.inj hstep ▸ h
          · next r hr =>
              rw [← Option.some.inj hstep]
              exact h.deliver_step hpdu hr calls

theorem consistent_initial : Pair.initial.Consistent getQuery where
  order := inPutOrder_of_kept rfl
  deliverable _ hm := absurd hm List.not_mem_nil
  inHand := by rintro topic ⟨⟩
  sent _ := rfl
  wire := by rintro k pdu ⟨⟩
  authentic _ hd := absurd hd List.not_mem_nil
  safe _ hh := absurd hh List.not_mem_nil

/-- Two messages, the second without data; the second request arrives before the first, which arrives
    twice. -/
def sentTwice : List PairEvent :=
  let calls : PublishCalls := ⟨true, true, 7, [1], fun _ => true, fun _ => true, true, true⟩
  [.sender (.put message), .sender (.put ⟨[98], [], by decide⟩), .sender (.write 0 false),
    .sender (.select false), .sender .read, .sender .read, .sender .get, .publishOne calls,
    .sender .get, .publishOne calls, .deliver 1 succeedingCalls, .deliver 0 succeedingCalls,
    .deliver 0 succeedingCalls]

end DtnetportalCoap
