import DtmcLinux.DtnetportalCoap.Basic
import DtmcLinux.Foundation.StepRun

set_option autoImplicit false

/-! # What is published can be decoded

`dtnetportal_coap__pubwork_debuf` asks for two bytes, and `dtnetportal_coap__pubwork_enbuf` makes one
byte of an empty topic without data: this message, and no other, ends the ioloop. -/

namespace DtnetportalCoap

/-- There is a byte of the topic or of the data. -/
def Message.Nonempty (m : Message) : Prop := m.topic ≠ [] ∨ m.data ≠ []

/-- **Round trip, exactly.** -/
theorem pubworkDebuf_enbuf_iff (m : Message) :
    pubworkDebuf (pubworkEnbuf m) = .ok (m.topic, m.data) ↔ m.Nonempty := by
  refine ⟨fun hok => ?_, pubworkDebuf_enbuf m⟩
  by_contra hempty
  obtain ⟨htopic, hdata⟩ : m.topic = [] ∧ m.data = [] := by
    rwa [Message.Nonempty, not_or, not_not, not_not] at hempty
  have hshort : (pubworkEnbuf m).length < 2 := by
    rw [pubworkEnbuf, htopic, hdata]
    decide
  rw [pubworkDebuf, if_pos hshort] at hok
  cases hok

/-! ## Runs -/

/-- Each queued buffer is what was made of the message of its call. -/
def QueueEncoded (s : State) : Prop :=
  ∀ work ∈ s.queue, ∃ m, s.calls[work.call]? = some m ∧ work.buffer = pubworkEnbuf m

/-- No call has been made with an empty message. -/
def CallsNonempty (s : State) : Prop := ∀ m ∈ s.calls, m.Nonempty

/-- `dtnetportal_coap__ioloop_publish_all` gets a buffer that it cannot decode, and the ioloop ends. -/
def DecodeFails (s : State) : Prop := ∃ s', step s .get = some s' ∧ s'.ioloop.hasEnded = true

/-- The ioloop is about to get the buffer of an empty message. -/
def EmptyNext (s : State) : Prop :=
  s.ioloop = .getting ∧ ∃ work rest m, s.queue = work :: rest ∧ s.calls[work.call]? = some m ∧
    ¬ m.Nonempty

theorem QueueEncoded.effect {s s' : State} {e : Event} (h : QueueEncoded s) (heff : Effect s e s') :
    QueueEncoded s' := by
  cases heff with
  | put m hroom =>
      intro work hwork
      rcases List.mem_append.1 hwork with hwork | hwork
      · obtain ⟨m', hcall, hbuffer⟩ := h work hwork
        have hlt := (List.getElem?_eq_some_iff.1 hcall).1
        exact ⟨m', (List.getElem?_append_left hlt).trans hcall, hbuffer⟩
      · rw [List.mem_singleton.1 hwork]
        exact ⟨m, List.getElem?_concat_length, rfl⟩
  | written | moved | interrupted | drained | emptied => exact fun w hw => h w hw
  | refused work rest dterr hioloop hqueue =>
      exact fun w hw => h w (hqueue ▸ List.mem_cons_of_mem _ hw)
  | published work rest hioloop hqueue =>
      exact fun w hw => h w (hqueue ▸ List.mem_cons_of_mem _ hw)

theorem CallsNonempty.effect {s s' : State} {e : Event} (h : CallsNonempty s)
    (hput : ∀ m, e = .put m → m.Nonempty) (heff : Effect s e s') : CallsNonempty s' := by
  cases heff with
  | put m hroom =>
      intro m' hm'
      rcases List.mem_append.1 hm' with hm' | hm'
      · exact h m' hm'
      · rw [List.mem_singleton.1 hm']
        exact hput m rfl
  | written | moved | interrupted | drained | emptied | refused | published =>
      exact fun m hm => h m hm

/-- **Decoding fails on the empty message only.** -/
theorem decodeFails_iff {s : State} (h : QueueEncoded s) : DecodeFails s ↔ EmptyNext s := by
  constructor
  · rintro ⟨s', hstep, hended⟩
    obtain ⟨hioloop, hstep⟩ := Option.ite_none_right_eq_some.1 hstep
    refine ⟨hioloop, ?_⟩
    split at hstep
    · obtain rfl := Option.some.inj hstep
      cases hended
    · next work rest hqueue =>
        obtain ⟨m, hcall, hbuffer⟩ := h work (hqueue ▸ List.mem_cons_self)
        refine ⟨work, rest, m, hqueue, hcall, fun hnonempty => ?_⟩
        rw [hbuffer, (pubworkDebuf_enbuf_iff m).2 hnonempty] at hstep
        obtain rfl := Option.some.inj hstep
        cases hended
  · rintro ⟨hioloop, work, rest, m, hqueue, hcall, hempty⟩
    obtain ⟨m', hcall', hbuffer⟩ := h work (hqueue ▸ List.mem_cons_self)
    obtain rfl := Option.some.inj (hcall.symm.trans hcall')
    have hrefused : ∃ dterr, pubworkDebuf work.buffer = .error dterr := by
      cases hdecoded : pubworkDebuf work.buffer with
      | error dterr => exact ⟨dterr, rfl⟩
      | ok decoded =>
          -- what is decoded at all is the message
          have hsplit : decoded = (m.topic, m.data) := by
            rw [pubworkDebuf] at hdecoded
            split at hdecoded
            · cases hdecoded
            · rw [← Except.ok.inj hdecoded, hbuffer, pubworkSplit_enbuf]
          rw [hsplit, hbuffer] at hdecoded
          exact absurd ((pubworkDebuf_enbuf_iff m).1 hdecoded) hempty
    obtain ⟨dterr, hdterr⟩ := hrefused
    refine ⟨{ s with queue := rest, ioloop := exiting dterr }, ?_, rfl⟩
    simp only [step, hioloop, hqueue, hdterr, if_true]

/-- The queue of every run is encoded. -/
theorem queueEncoded (events : List Event) :
    Run.AllStates step QueueEncoded State.initial events :=
  Run.allStates_of_invariant (fun _ _ _ h hstep => h.effect (step_effect hstep)) events _
    fun _ hwork => absurd hwork List.not_mem_nil

/-- While no empty message is published, no buffer of one comes next. -/
theorem not_decodeFails {events : List Event}
    (hputs : Run.AllSteps step (fun _ e => ∀ m, e = .put m → m.Nonempty) State.initial events) :
    Run.AllStates step (fun s => ¬ DecodeFails s) State.initial events := by
  have hinvariant := Run.allStates_of_allSteps
    (P := fun s => QueueEncoded s ∧ CallsNonempty s)
    (fun _ _ _ h hput hstep =>
      ⟨h.1.effect (step_effect hstep), h.2.effect hput (step_effect hstep)⟩) events State.initial
    ⟨fun _ hwork => absurd hwork List.not_mem_nil, fun _ hm => absurd hm List.not_mem_nil⟩ hputs
  refine hinvariant.imp fun s ⟨hencoded, hcalls⟩ hfails => ?_
  obtain ⟨-, work, rest, m, -, hcall, hempty⟩ := (decodeFails_iff hencoded).1 hfails
  exact hempty (hcalls m (List.mem_of_getElem? hcall))

/-- **Round trip of a publish record, exactly.** What is encoded is decoded if and only if topic or
    data has a byte. In a run in which all messages published have one, the ioloop never gets a buffer
    that it cannot decode; in any run, it does exactly when the buffer of an empty message is next. -/
theorem publish_record_exact (m : Message) (events : List Event) :
    (pubworkDebuf (pubworkEnbuf m) = .ok (m.topic, m.data) ↔ m.Nonempty) ∧
    (Run.AllSteps step (fun _ e => ∀ m, e = .put m → m.Nonempty) State.initial events →
      Run.AllStates step (fun s => ¬ DecodeFails s) State.initial events) ∧
    Run.AllStates step (fun s => DecodeFails s ↔ EmptyNext s) State.initial events :=
  ⟨pubworkDebuf_enbuf_iff m, not_decodeFails,
    (queueEncoded events).imp fun _ => decodeFails_iff⟩

/-- No topic, and no data. -/
def emptyMessage : Message := ⟨[], [], by decide⟩

theorem publish_record_exact_message :
    pubworkDebuf (pubworkEnbuf ⟨[97], [0, 1], by decide⟩) = .ok ([97], [0, 1]) :=
  (publish_record_exact ⟨[97], [0, 1], by decide⟩ []).1.2 (.inl (List.cons_ne_nil _ _))

/-- The call puts the empty message and wakes the ioloop. -/
def emptyPublish : List Event :=
  [.put emptyMessage, .write 0 false, .select false, .read, .read]

/-- The empty message is not decoded, and its publish ends the ioloop. -/
theorem empty_publish_ends_ioloop :
    (¬ ∀ m : Message, pubworkDebuf (pubworkEnbuf m) = .ok (m.topic, m.data)) ∧
    ¬ ∀ events : List Event,
      Run.AllStates step (fun s => ¬ DecodeFails s) State.initial events := by
  constructor
  · intro hdecoded
    exact absurd (hdecoded emptyMessage) (by decide +kernel)
  · intro hnever
    have hrun : ∃ s, Run.exec step State.initial emptyPublish = some s ∧
        ∃ s', step s .get = some s' ∧ s'.ioloop.hasEnded = true := ⟨_, rfl, _, rfl, rfl⟩
    obtain ⟨s, hs, hfails⟩ := hrun
    exact (hnever emptyPublish).last hs hfails

end DtnetportalCoap
