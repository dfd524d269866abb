import DtmcLinux.DtnetportalCoap.Basic
import DtmcLinux.Foundation.FairRun

set_option autoImplicit false

/-! # No publish is stranded

When the ioloop sleeps on an empty pipe, whoever has a buffer in the queue is about to write to the
pipe. Nothing is published twice or out of order, and nothing is lost while the ioloop runs; and in
a fair run every buffer is published. -/

namespace DtnetportalCoap

/-! ## The properties -/

/-- If the ioloop is blocked in `select` and the pipe is empty, every queued buffer belongs to a call
    that has not yet written to the pipe. -/
def Unstranded (s : State) : Prop :=
  s.ioloop = .selecting → s.pipe = 0 → ∀ work ∈ s.queue, work.call ∈ s.writing

/-- The calls of `dtnetportal_coap__ioloop_publish_one` that the messages ask for, in the order of
    the puts. -/
def asked (calls : List Message) : List Published :=
  calls.mapIdx fun call m => ⟨call, m.topic, m.data⟩

/-- What has been published is what was put first, once and in order; while the ioloop runs, the rest
    is in the queue. -/
structure InPutOrder (s : State) : Prop where
  inOrder : s.published <+: asked s.calls
  kept : s.ioloop.hasEnded = false →
    s.published ++ s.queue.map Pubwork.published = asked s.calls

/-- The ioloop can go on: it has not ended, and is not blocked in `select`. -/
def State.IoloopEnabled (s : State) : Prop :=
  s.ioloop.hasEnded = false ∧ (s.ioloop = .selecting → 0 < s.pipe)

/-- The ioloop goes on when it can, and a call that has put its buffer writes to the pipe. -/
structure Fair (run : Run.Infinite step) : Prop where
  ioloop : run.WeaklyFair State.IoloopEnabled fun e => e.ofIoloop = true
  writes : ∀ call, run.WeaklyFair (fun s => call ∈ s.writing) fun e => ∃ full, e = .write call full

/-! ## Pipe and queue -/

theorem Unstranded.effect {s s' : State} {e : Event} (h : Unstranded s) (heff : Effect s e s') :
    Unstranded s' := by
  intro hioloop hpipe work hwork
  cases heff with
  | put m hroom =>
      rcases List.mem_append.1 hwork with hwork | hwork
      · exact List.mem_cons_of_mem _ (h hioloop hpipe work hwork)
      · rw [List.mem_singleton.1 hwork]
        exact List.mem_cons_self
  | written call full hcall hfull =>
      -- after a write, whether it fails or not, the pipe is not empty
      cases full with
      | true => exact absurd (hfull rfl) (Nat.not_lt.2 (Nat.le_of_eq hpipe))
      | false => cases hpipe
  | moved e ioloop he hmoved =>
      obtain rfl : ioloop = .selecting := hioloop
      rcases hmoved with ⟨-, hended⟩ | hdistance
      · cases hended
      · cases hs : s.ioloop <;> simp [hs, Ioloop.distance] at hdistance
  | interrupted => exact h hioloop hpipe work hwork
  | drained coapReady hdraining hfull => rw [hdraining] at hioloop; cases hioloop
  | emptied hgetting hqueue => simp [hqueue] at hwork
  | refused work' rest dterr hgetting hqueue => cases hioloop
  | published work' rest hgetting hqueue => cases hioloop

/-! ## Order -/

@[simp] theorem asked_concat (calls : List Message) (m : Message) :
    asked (calls ++ [m]) = asked calls ++ [⟨calls.length, m.topic, m.data⟩] := by
  simp [asked, List.mapIdx_concat]

@[simp] theorem length_asked (calls : List Message) : (asked calls).length = calls.length :=
  List.length_mapIdx

theorem asked_getElem? {calls : List Message} {call : ℕ} {m : Message}
    (h : calls[call]? = some m) : (asked calls)[call]? = some ⟨call, m.topic, m.data⟩ := by
  rw [asked, List.getElem?_mapIdx, h]
  rfl

theorem published_enbuf (call : ℕ) (m : Message) :
    (Pubwork.mk call (pubworkEnbuf m)).published = ⟨call, m.topic, m.data⟩ := by
  rw [Pubwork.published, pubworkSplit_enbuf]

/-- While the ioloop runs, what has been published comes first. -/
theorem inPutOrder_of_kept {s : State}
    (h : s.published ++ s.queue.map Pubwork.published = asked s.calls) : InPutOrder s :=
  ⟨⟨_, h⟩, fun _ => h⟩

theorem InPutOrder.effect {s s' : State} {e : Event} (h : InPutOrder s) (heff : Effect s e s') :
    InPutOrder s' := by
  cases heff with
  | put m hroom =>
      refine ⟨?_, fun hrunning => ?_⟩
      · exact h.inOrder.trans ⟨_, (asked_concat s.calls m).symm⟩
      · simp only [List.map_append, List.map_cons, List.map_nil, published_enbuf, asked_concat]
        rw [← List.append_assoc, h.kept hrunning]
  | written call full hcall hfull => exact ⟨h.inOrder, h.kept⟩
  | moved e ioloop he hmoved =>
      refine ⟨h.inOrder, fun hrunning => h.kept ?_⟩
      rcases hmoved with ⟨hold, -⟩ | hdistance
      · exact hold
      · cases hs : s.ioloop <;> simp_all [Ioloop.distance, Ioloop.hasEnded]
  | interrupted => exact h
  | drained coapReady hdraining hfull => exact ⟨h.inOrder, h.kept⟩
  | emptied hgetting hqueue => exact inPutOrder_of_kept (h.kept (by rw [hgetting]; rfl))
  | refused work rest dterr hgetting hqueue => exact ⟨h.inOrder, nofun⟩
  | published work rest hgetting hqueue =>
      have hkept := h.kept (by rw [hgetting]; rfl)
      rw [hqueue, List.map_cons, List.append_cons] at hkept
      exact inPutOrder_of_kept hkept

/-! ## Progress -/

/-- How far the ioloop is from publishing for the call: the buffers before it, the bytes in the pipe
    and those that may still come before the next get, and the place of the ioloop. -/
def State.rank (call : ℕ) (s : State) : ℕ :=
  3 * (call - s.published.length) + s.pipe + s.writing.length + (queueSize - s.queue.length) +
    s.ioloop.distance

/-- The call has put its buffer, which has not been published. -/
structure Pending (call : ℕ) (s : State) : Prop where
  inPutOrder : InPutOrder s
  unpublished : s.published.length ≤ call
  put : call < s.calls.length

theorem Pending.queue_ne_nil {call : ℕ} {s : State} (h : Pending call s)
    (hrunning : s.ioloop.hasEnded = false) : s.queue ≠ [] := by
  intro hqueue
  have hkept := congrArg List.length (h.inPutOrder.kept hrunning)
  rw [hqueue, List.map_nil, List.append_nil, length_asked] at hkept
  exact absurd h.put (Nat.not_lt.2 (hkept ▸ h.unpublished))

theorem drainSize_pos : 0 < drainSize := by decide

/-- No step takes the ioloop away from publishing for the call, and its own bring it nearer. -/
theorem Pending.effect {call : ℕ} {s s' : State} {e : Event} (h : Pending call s)
    (hrunning : s'.ioloop.hasEnded = false) (heff : Effect s e s') :
    call < s'.published.length ∨
      (Pending call s' ∧ s'.rank call ≤ s.rank call ∧
        (e.ofIoloop = true → s'.rank call < s.rank call)) := by
  have hinPutOrder := h.inPutOrder.effect heff
  have hpublished := h.unpublished
  have hput := h.put
  cases heff with
  | put m hroom =>
      refine .inr ⟨⟨hinPutOrder, hpublished, ?_⟩, ?_, nofun⟩
      · simp only [List.length_append]
        omega
      · simp only [State.rank, List.length_append, List.length_cons, List.length_nil]
        omega
  | written call' full hcall hfull =>
      refine .inr ⟨⟨hinPutOrder, hpublished, hput⟩, ?_, nofun⟩
      have hlength := List.length_erase_of_mem hcall
      have hpos := List.length_pos_of_mem hcall
      simp only [State.rank, hlength]
      split <;> omega
  | moved e ioloop he hmoved =>
      have hdistance : ioloop.distance < s.ioloop.distance := by
        refine hmoved.resolve_left fun hended => ?_
        rw [hrunning] at hended
        cases hended.2
      have hlt : State.rank call { s with ioloop := ioloop } < s.rank call :=
        Nat.add_lt_add_left hdistance _
      exact .inr ⟨⟨hinPutOrder, hpublished, hput⟩, Nat.le_of_lt hlt, fun _ => hlt⟩
  | interrupted => exact .inr ⟨h, Nat.le_refl _, nofun⟩
  | drained coapReady hdraining hpipe =>
      have hlt : State.rank call { s with pipe := s.pipe - drainSize } < s.rank call := by
        have hpos := drainSize_pos
        simp only [State.rank]
        omega
      exact .inr ⟨⟨hinPutOrder, hpublished, hput⟩, Nat.le_of_lt hlt, fun _ => hlt⟩
  | emptied hgetting hqueue => exact absurd hqueue (h.queue_ne_nil (by rw [hgetting]; rfl))
  | refused work rest dterr hgetting hqueue => cases hrunning
  | published work rest hgetting hqueue =>
      rcases Nat.lt_or_ge call (s.published.length + 1) with hlt | hge
      · exact .inl (by simpa using hlt)
      · have hlt : State.rank call
            { s with
              queue := rest
              ioloop := .publishing work.published.topic
              published := s.published ++ [work.published] } < s.rank call := by
          simp only [State.rank, hqueue, hgetting, Ioloop.distance, List.length_append,
            List.length_cons, List.length_nil]
          omega
        exact .inr ⟨⟨hinPutOrder, by simpa using hge, hput⟩, Nat.le_of_lt hlt, fun _ => hlt⟩

/-! ## Fair runs -/

section Fair

variable {run : Run.Infinite step} (hfair : Fair run)
  (hrunning : ∀ n, (run.state n).ioloop.hasEnded = false)

/-- What an event that is not the ioloop's leaves of its place and of the pipe. -/
theorem Effect.notOfIoloop {s s' : State} {e : Event} (heff : Effect s e s')
    (he : e.ofIoloop = false) : s'.ioloop = s.ioloop ∧ s.pipe ≤ s'.pipe := by
  cases heff with
  | put m hroom => exact ⟨rfl, Nat.le_refl _⟩
  | written call full hcall hfull => cases full <;> exact ⟨rfl, by simp⟩
  | moved e ioloop he' hmoved => rw [he] at he'; cases he'
  | interrupted => exact ⟨rfl, Nat.le_refl _⟩
  | drained | emptied | refused | published => cases he

include hfair hrunning in
/-- An ioloop that can go on does so. -/
theorem ioloop_moves {n : ℕ} (hn : (run.state n).ioloop = .selecting → 0 < (run.state n).pipe) :
    ∃ m, n ≤ m ∧ ∃ e, run.event m = some e ∧ e.ofIoloop = true := by
  refine hfair.ioloop.eventually ⟨hrunning n, hn⟩ ?_
  rintro m e s' ⟨hended, hpipe⟩ hnot hevent hstep
  obtain ⟨hsame, hle⟩ := (step_effect hstep).notOfIoloop (eq_false_of_ne_true hnot)
  rw [State.IoloopEnabled, hsame]
  exact ⟨hended, fun hselecting => Nat.lt_of_lt_of_le (hpipe hselecting) hle⟩

include hfair in
/-- A call that has put its buffer writes to the pipe. -/
theorem call_writes {n call : ℕ} (hn : call ∈ (run.state n).writing) :
    ∃ m, n ≤ m ∧ 0 < (run.state (m + 1)).pipe := by
  have hwrites := (hfair.writes call).eventually hn ?_
  · obtain ⟨m, hm, -, hevent, full, rfl⟩ := hwrites
    refine ⟨m, hm, ?_⟩
    obtain ⟨⟨-, hfull⟩, hnext⟩ := Option.ite_none_right_eq_some.1 (run.next_some hevent)
    rw [← Option.some.inj hnext]
    cases full with
    | true => exact hfull rfl
    | false => exact Nat.succ_pos _
  · intro m e s' hwriting hnot hevent hstep
    cases step_effect hstep with
    | put m' hroom => exact List.mem_cons_of_mem _ hwriting
    | written call' full hcall hfull =>
        have hne : call ≠ call' := by
          rintro rfl
          exact hnot ⟨full, rfl⟩
        exact (List.mem_erase_of_ne hne).2 hwriting
    | moved | interrupted | drained | emptied | refused | published => exact hwriting

include hfair hrunning in
/-- While a buffer is queued, the ioloop goes on. -/
theorem ioloop_moves_of_pending {n call : ℕ} (hunstranded : Unstranded (run.state n))
    (hpending : Pending call (run.state n)) :
    ∃ m, n ≤ m ∧ ∃ e, run.event m = some e ∧ e.ofIoloop = true := by
  by_cases hblocked : (run.state n).ioloop = .selecting ∧ (run.state n).pipe = 0
  · -- blocked: the owner of the first buffer is about to write
    obtain ⟨work, hwork⟩ := List.exists_mem_of_ne_nil _ (hpending.queue_ne_nil (hrunning n))
    obtain ⟨m, hm, hpipe⟩ := call_writes hfair (hunstranded hblocked.1 hblocked.2 work hwork)
    obtain ⟨m', hm', hmoves⟩ := ioloop_moves hfair hrunning fun _ => hpipe
    exact ⟨m', Nat.le_trans (Nat.le_succ_of_le hm) hm', hmoves⟩
  · refine ioloop_moves hfair hrunning fun hselecting => Nat.pos_of_ne_zero fun hpipe => ?_
    exact hblocked ⟨hselecting, hpipe⟩

end Fair

/-! ## The results -/

theorem unstranded_inPutOrder_step {s s' : State} {e : Event} (h : Unstranded s ∧ InPutOrder s)
    (hstep : step s e = some s') : Unstranded s' ∧ InPutOrder s' :=
  ⟨h.1.effect (step_effect hstep), h.2.effect (step_effect hstep)⟩

theorem unstranded_inPutOrder_initial : Unstranded State.initial ∧ InPutOrder State.initial :=
  ⟨nofun, inPutOrder_of_kept rfl⟩

/-- In every state of every run, no buffer is stranded and everything is published in order. -/
theorem unstranded_inPutOrder (events : List Event) :
    Run.AllStates step (fun s => Unstranded s ∧ InPutOrder s) State.initial events :=
  Run.allStates_of_invariant (fun _ _ _ => unstranded_inPutOrder_step) events _
    unstranded_inPutOrder_initial

/-- In a fair run in which the ioloop does not end, what a call has put is published, under its
    number and as the caller gave it. -/
theorem eventually_published {run : Run.Infinite step} (hfirst : run.state 0 = State.initial)
    (hfair : Fair run) (hrunning : ∀ n, (run.state n).ioloop.hasEnded = false) {n call : ℕ}
    {m : Message} (hcall : (run.state n).calls[call]? = some m) :
    ∃ n', n ≤ n' ∧ (run.state n').published[call]? = some ⟨call, m.topic, m.data⟩ := by
  have hinvariant : ∀ n, Unstranded (run.state n) ∧ InPutOrder (run.state n) :=
    run.invariant (P := fun s => Unstranded s ∧ InPutOrder s)
      (hfirst.symm ▸ unstranded_inPutOrder_initial) fun _ _ _ => unstranded_inPutOrder_step
  have hput : ∀ n', n ≤ n' → (run.state n').calls[call]? = some m := by
    refine run.stable (P := fun s => s.calls[call]? = some m) hcall fun n' _ e _ s' h hstep => ?_
    cases step_effect hstep with
    | put m' hroom =>
        have hlt := (List.getElem?_eq_some_iff.1 h).1
        exact (List.getElem?_append_left hlt).trans h
    | written | moved | interrupted | drained | emptied | refused | published => exact h
  have hreached : ∃ n', n ≤ n' ∧ call < (run.state n').published.length := by
    rcases Nat.lt_or_ge call (run.state n).published.length with hlt | hge
    · exact ⟨n, Nat.le_refl n, hlt⟩
    · refine Run.Infinite.leadsTo_of_rank (P := Pending call)
        (Q := fun s => call < s.published.length) (State.rank call) (fun e => e.ofIoloop = true)
        ?_ ?_ n ⟨(hinvariant n).2, hge, (List.getElem?_eq_some_iff.1 hcall).1⟩
      · exact fun n' e hpending hevent =>
          hpending.effect (hrunning (n' + 1)) (step_effect (run.next_some hevent))
      · exact fun n' hpending => ioloop_moves_of_pending hfair hrunning (hinvariant n').1 hpending
  obtain ⟨n', hn', hlt⟩ := hreached
  refine ⟨n', hn', ?_⟩
  have hasked := asked_getElem? (hput n' hn')
  obtain ⟨rest, hrest⟩ := (hinvariant n').2.inOrder
  rwa [← hrest, List.getElem?_append_left hlt] at hasked

/-- **No stranded publish.** Whatever the interleaving, when the ioloop is blocked on an empty pipe
    every queued buffer belongs to a call about to write to the pipe, and what is published is what
    was put, once and in order; and while no publish fails (the ioloop has not ended), every buffer
    is published. -/
theorem no_publish_stranded :
    (∀ events : List Event,
      Run.AllStates step (fun s => Unstranded s ∧ InPutOrder s) State.initial events) ∧
    ∀ run : Run.Infinite step, run.state 0 = State.initial → Fair run →
      (∀ n, (run.state n).ioloop.hasEnded = false) →
      ∀ (n call : ℕ) (m : Message), (run.state n).calls[call]? = some m →
        ∃ n', n ≤ n' ∧ (run.state n').published[call]? = some ⟨call, m.topic, m.data⟩ :=
  ⟨unstranded_inPutOrder, fun _ hfirst hfair hrunning _ _ _ hcall =>
    eventually_published hfirst hfair hrunning hcall⟩

/-- A message with a topic of one byte and data of another. -/
def message : Message := ⟨[97], [1], by decide⟩

/-- Two calls, the second of which puts its buffer while the ioloop publishes the first. -/
def twoCalls : List Event :=
  [.put message, .write 0 false, .select false, .read, .put message, .read, .get, .publishOne none,
    .get, .publishOne none, .get, .write 1 false, .select false, .read, .read, .get]

theorem twoCalls_runs : ∃ s, Run.exec step State.initial twoCalls = some s ∧
    s.ioloop = .selecting ∧ s.pipe = 0 ∧ s.writing = [] ∧ s.calls = [message, message] :=
  ⟨_, rfl, rfl, rfl, rfl, rfl⟩

theorem no_publish_stranded_twoCalls :
    ∃ (s : State) (hs : Run.exec step State.initial twoCalls = some s) (n : ℕ),
      ((Run.Infinite.ofList twoCalls hs).state n).published[1]? = some ⟨1, [97], [1]⟩ := by
  obtain ⟨s, hs, hselecting, hpipe, hwriting, hcalls⟩ := twoCalls_runs
  have hlast := Run.Infinite.ofList_state twoCalls hs (Nat.le_refl _)
  have hfair : Fair (Run.Infinite.ofList twoCalls hs) := by
    refine ⟨Run.Infinite.ofList_weaklyFair twoCalls hs _ fun henabled => ?_, fun call =>
      Run.Infinite.ofList_weaklyFair twoCalls hs _ (by simp [hwriting])⟩
    exact absurd (henabled.2 hselecting) (by simp [hpipe])
  obtain ⟨n, -, hn⟩ := no_publish_stranded.2 (Run.Infinite.ofList twoCalls hs) rfl hfair
    (Run.Infinite.ofList_forall twoCalls hs (P := fun s => s.ioloop.hasEnded = false)
      (by decide +kernel)) twoCalls.length 1 message
    (by rw [hlast, hcalls]; rfl)
  exact ⟨s, hs, n, hn⟩

end DtnetportalCoap
