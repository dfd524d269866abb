import DtmcLinux.Dtbufferqueue.Create
import DtmcLinux.Dtbufferqueue.Wakeup
import DtmcLinux.Foundation.Observer

set_option autoImplicit false

/-! # The overwriting mode

A queue created with `should_overwrite` is to discard its oldest buffer for a new one. The member is
stored and never read: a put treats every queue alike, and a full one is refused or waited for. -/

namespace Dtbufferqueue

open Posix

variable {τ β : Type*}

/-! ## The property and the condition -/

/-- The puts and the removals of a run, oldest first: every put that gets the mutex counts when it
    is called, whatever becomes of it. -/
abbrev Asked (β : Type*) := List (Fifo.Op (Option β))

/-- The put that an event is. -/
def Event.asks : Event τ β → Asked β
  | .put _ (some buffer) _ _ lockRc _ _ => if lockRc = 0 then [.push (some buffer)] else []
  | _ => []

/-- The removals among the last operations of a history. -/
def removals (before after : Asked β) : Asked β :=
  (after.drop before.length).filter fun
    | .push _ => false
    | .pop _ => true

/-- What a step adds. -/
def askedUpdate (s : State τ β) (e : Event τ β) (s' : State τ β) (asked : Asked β) : Asked β :=
  asked ++ (e.asks ++ removals s.history s'.history)

/-- The queue with what it has been asked for. -/
def askedStep [DecidableEq τ] (DTTIMEOUT_FOREVER : Int32) :
    State τ β × Asked β → Event τ β → Option (State τ β × Asked β) :=
  Observer.observed (step DTTIMEOUT_FOREVER) askedUpdate

/-- A put that reports a timeout. -/
def Return.IsPutTimeout : Return τ β → Prop
  | .put _ _ none (some true) => True
  | _ => False

/-- The queue is an overwriting FIFO: it holds what that holds after the puts and the removals, the
    most recent of the buffers put and at most `cap` of them; every put has enqueued its buffer,
    none is blocked, and none has timed out. -/
structure Overwrites (cap : ℕ) (s : State τ β) (asked : Asked β) : Prop where
  contents_eq : s.queue.contents = Fifo.overwriting cap asked
  length_le : s.queue.contents.length ≤ cap
  most_recent : s.queue.contents <:+ Fifo.pushed asked
  done : Fifo.pushed s.history = Fifo.pushed asked
  never_blocks : ∀ t, ¬(s.activity t).IsPutting
  never_times_out : ∀ r ∈ s.returns, ¬r.IsPutTimeout

/-- The queue holds fewer than `max_count` buffers. -/
def Queue.HasRoom (q : Queue β) : Prop := (q.count.toNat : ℤ) < q.maxCount.toInt

instance (q : Queue β) : Decidable q.HasRoom := Int.decLt _ _

/-- A put that gets the mutex finds room in the queue. -/
def PutFindsRoom (s : State τ β) : Event τ β → Prop
  | .put t (some _) _ _ lockRc _ _ => s.activity t = .idle → lockRc = 0 → s.queue.HasRoom
  | _ => True

instance Activity.decidableIdle (a : Activity β) : Decidable (a = .idle) :=
  match a with
  | .idle => isTrue rfl
  | .putting _ _ _ => isFalse nofun
  | .getting _ _ => isFalse nofun

instance PutFindsRoom.decidable (s : State τ β) (e : Event τ β) : Decidable (PutFindsRoom s e) :=
  match e with
  | .put t (some _) _ _ lockRc _ _ =>
    inferInstanceAs (Decidable (s.activity t = .idle → lockRc = 0 → s.queue.HasRoom))
  | .put _ none _ _ _ _ _ => instDecidableTrue
  | .get _ _ _ _ _ _ _ => instDecidableTrue
  | .wake _ _ _ => instDecidableTrue

/-! ## The two operations on the ring -/

/-- What the operations of the code do to the contents of a queue for `cap` buffers. A queue whose
    `max_count` is negative never has room, and `isFull` compares it as an unsigned number. -/
structure Queue.Operates (q : Queue β) (cap : ℕ) : Prop where
  enqueue : q.HasRoom → ∀ b, q.contents.length < cap ∧ q.isFull = false ∧
    (q.enqueue b).contents = q.contents ++ [some b]
  overflows : ¬q.HasRoom → q.isFull = false → ∀ b, cap < (q.enqueue b).contents.length
  dequeue : q.count ≠ 0 → 0 < cap ∧ q.contents = q.front :: q.dequeue.contents

theorem Queue.WellFormed.hasRoom_iff {q : Queue β} {cap : ℕ} (h : q.WellFormed cap) :
    q.HasRoom ↔ q.isFull = false := by
  have hmax := Counter32.toNat_toUInt32 q.maxCount
  have hcap := h.cap_lt
  have heq := h.maxCount_eq
  have hle := h.count_le
  have hint : q.maxCount.toInt = cap := by
    have hlower := q.maxCount.le_toInt
    split at hmax <;> omega
  rw [Queue.HasRoom, hint, Queue.isFull, beq_eq_false_iff_ne]
  constructor
  · intro hlt hfull
    rw [hfull] at hlt
    omega
  · intro hne
    have hne' : q.count.toNat ≠ cap := fun hsame => hne (UInt32.toNat_inj.1 (hsame.trans heq.symm))
    omega

theorem Queue.WellFormed.operates {q : Queue β} {cap : ℕ} (h : q.WellFormed cap) :
    q.Operates cap where
  enqueue hroom b := by
    have hfull := h.hasRoom_iff.1 hroom
    have hcount := h.count_lt_of_not_full hfull
    refine ⟨?_, hfull, h.contents_enqueue hcount b⟩
    rwa [Queue.contents, RingBuffer.length_contents]
  overflows hroom hfull := absurd (h.hasRoom_iff.2 hfull) hroom
  dequeue hne := ⟨Nat.lt_of_le_of_lt (Nat.zero_le _) h.head_lt, h.contents_dequeue hne⟩

/-- With a negative `max_count` the first put already puts more into the queue than it is for. -/
theorem Queue.operates_of_neg {q : Queue β} (hneg : q.maxCount.toInt < 0)
    (hempty : q.contents.length ≤ 0) : q.Operates 0 := by
  rw [Queue.contents, RingBuffer.length_contents, Nat.le_zero] at hempty
  have hzero : q.count = 0 := UInt32.toNat_inj.1 hempty
  refine ⟨fun hroom => ?_, fun _ _ b => ?_, fun hne => absurd hzero hne⟩
  · rw [Queue.HasRoom] at hroom
    omega
  · rw [Queue.contents, RingBuffer.length_contents]
    show 0 < (q.count + 1).toNat
    rw [hzero]
    decide

/-! ## What a step adds to the record -/

section Record

variable {s s' : State τ β} {e : Event τ β} {asked : Asked β}

theorem removals_append (history ops : Asked β) :
    removals history (history ++ ops) = ops.filter fun
      | .push _ => false
      | .pop _ => true := by
  rw [removals, List.drop_left]

theorem askedUpdate_of_eq (h : s'.history = s.history) :
    askedUpdate s e s' asked = asked ++ e.asks := by
  have hnone : removals s.history s'.history = [] := by
    rw [h, removals, List.drop_length]
    rfl
  rw [askedUpdate, hnone, List.append_nil]

theorem askedUpdate_of_push {b : Option β} (h : s'.history = s.history ++ [.push b]) :
    askedUpdate s e s' asked = asked ++ e.asks := by
  have hnone : removals s.history s'.history = [] := by
    rw [h, removals_append]
    rfl
  rw [askedUpdate, hnone, List.append_nil]

theorem askedUpdate_of_pop {x : Option β} (h : s'.history = s.history ++ [.pop x])
    (hasks : e.asks = []) : askedUpdate s e s' asked = asked ++ [.pop x] := by
  have hone : removals s.history s'.history = [.pop x] := by
    rw [h, removals_append]
    rfl
  rw [askedUpdate, hone, hasks]
  rfl

end Record

/-! ## One step -/

section Frame

variable {cap : ℕ} {s s' : State τ β} {e : Event τ β} {asked : Asked β}

/-- A step that does nothing to the queue, and after which no more puts are blocked or timed out. -/
theorem Overwrites.frame (h : Overwrites cap s asked) (hasks : e.asks = [])
    (hqueue : s'.queue = s.queue) (hhistory : s'.history = s.history)
    (hactivity : ∀ t, (s'.activity t).IsPutting → (s.activity t).IsPutting)
    (hreturns : ∀ r ∈ s'.returns, r.IsPutTimeout → r ∈ s.returns) :
    Overwrites cap s' (askedUpdate s e s' asked) := by
  rw [askedUpdate_of_eq hhistory, hasks, List.append_nil]
  refine ⟨?_, ?_, ?_, ?_, ?_, ?_⟩
  · exact hqueue ▸ h.contents_eq
  · exact hqueue ▸ h.length_le
  · exact hqueue ▸ h.most_recent
  · exact hhistory ▸ h.done
  · exact fun t ht => h.never_blocks t (hactivity t ht)
  · exact fun r hr htimeout => h.never_times_out r (hreturns r hr htimeout) htimeout

/-- A step that does an operation of the overwriting FIFO. -/
theorem Overwrites.operation (h : Overwrites cap s asked) (hcap : 0 < cap)
    (op : Fifo.Op (Option β)) (hasked : askedUpdate s e s' asked = asked ++ [op])
    (hhistory : s'.history = s.history ++ [op])
    (hcontents : s'.queue.contents = Fifo.overwritingStep cap s.queue.contents op)
    (hactivity : ∀ t, (s'.activity t).IsPutting → (s.activity t).IsPutting)
    (hreturns : ∀ r ∈ s'.returns, r.IsPutTimeout → r ∈ s.returns) :
    Overwrites cap s' (askedUpdate s e s' asked) := by
  have hnext : s'.queue.contents = Fifo.overwriting cap (asked ++ [op]) := by
    rw [hcontents, Fifo.overwriting_append, h.contents_eq]
  rw [hasked]
  refine ⟨hnext, ?_, ?_, ?_, ?_, ?_⟩
  · rw [hnext]
    exact Fifo.length_overwriting_le hcap _
  · rw [hnext]
    exact Fifo.overwriting_suffix cap _
  · rw [hhistory, Fifo.pushed, Fifo.pushed, List.filterMap_append, List.filterMap_append]
    exact congrArg (· ++ _) h.done
  · exact fun t ht => h.never_blocks t (hactivity t ht)
  · exact fun r hr htimeout => h.never_times_out r (hreturns r hr htimeout) htimeout

/-- A put that does not enqueue its buffer is lost. -/
theorem not_overwrites_of_lost (h : Overwrites cap s asked) {b : Option β}
    (hasks : e.asks = [.push b]) (hhistory : s'.history = s.history) :
    ¬Overwrites cap s' (askedUpdate s e s' asked) := by
  intro h'
  have hdone := h'.done
  rw [askedUpdate_of_eq hhistory, hasks, Fifo.pushed_append_push, hhistory, h.done] at hdone
  have hlength := congrArg List.length hdone
  rw [List.length_append, List.length_singleton] at hlength
  omega

theorem mem_of_mem_append_return {returns : List (Return τ β)} {r : Return τ β}
    (hr : ¬r.IsPutTimeout) : ∀ r' ∈ returns ++ [r], r'.IsPutTimeout → r' ∈ returns := by
  intro r' hmem htimeout
  rcases List.mem_append.1 hmem with hmem | hmem
  · exact hmem
  · rw [List.mem_singleton.1 hmem] at htimeout
    exact absurd htimeout hr

theorem not_isPutTimeout_of_error (t : τ) (buffer : Option β) (dterr : Dterr)
    (wasTimeout : Option Bool) : ¬(Return.put t buffer (some dterr) wasTimeout).IsPutTimeout :=
  id

theorem not_isPutTimeout_of_ne (t : τ) (buffer : Option β) {wasTimeout : Option Bool}
    (h : wasTimeout ≠ some true) : ¬(Return.put t buffer none wasTimeout).IsPutTimeout := by
  cases wasTimeout with
  | none => exact id
  | some b =>
      cases b with
      | false => exact id
      | true => exact absurd rfl h

end Frame

variable [DecidableEq τ] {cap : ℕ} {s s' : State τ β} {asked : Asked β}

theorem isPutting_of_set {t : τ} {a : Activity β} (ha : ¬a.IsPutting) (t' : τ)
    (h : ((s.setActivity t a).activity t').IsPutting) : (s.activity t').IsPutting := by
  change (if t' = t then a else s.activity t').IsPutting at h
  split at h
  · exact absurd h ha
  · exact h

/-- A critical section of get that dequeues takes the oldest buffer. -/
def GetEnd.TakesFront (q : Queue β) (r : GetEnd β) : Prop :=
  ∀ q' out wasTimeout, r = .dequeued q' out wasTimeout →
    q.count ≠ 0 ∧ q' = q.dequeue ∧ out = q.front

theorem GetCases.takesFront {DTTIMEOUT_FOREVER timeoutMillis : Int32} {q : Queue β}
    {bufferPtr : Bool} {wasTimeout : Option Bool} {lockRc : Rc} {now : Timespec} {r : GetEnd β}
    (h : GetCases DTTIMEOUT_FOREVER q timeoutMillis wasTimeout lockRc now bufferPtr r) :
    r.TakesFront q := by
  rintro q' out wt rfl
  cases h with
  | dequeues _ hsome => exact ⟨hsome, rfl, rfl⟩

theorem GetWakeCases.takesFront {q : Queue β} {deadline : Option Timespec}
    {wasTimeout : Option Bool} {rc : Rc} {r : GetEnd β}
    (h : GetWakeCases q deadline wasTimeout rc r) : r.TakesFront q := by
  rintro q' out wt rfl
  cases h with
  | dequeues _ hsome => exact ⟨hsome, rfl, rfl⟩

/-- A critical section of get keeps the overwriting FIFO. -/
theorem endGet_overwrites (hq : s.queue.Operates cap) (h : Overwrites cap s asked) {t : τ}
    {pick : Option τ} {r : GetEnd β} (hr : r.TakesFront s.queue) {e : Event τ β}
    (hasks : e.asks = []) (hend : s.endGet t pick r = some s') :
    Overwrites cap s' (askedUpdate s e s' asked) := by
  cases r with
  | wait deadline wasTimeout =>
      obtain rfl := Option.some.inj hend
      exact h.frame hasks rfl rfl (isPutting_of_set id) fun _ hr _ => hr
  | dequeued q' out wasTimeout =>
      obtain ⟨hne, rfl, rfl⟩ := hr _ _ _ rfl
      obtain ⟨hcap, hcontents⟩ := hq.dequeue hne
      obtain ⟨cv, -, rfl⟩ := Option.map_eq_some_iff.1 hend
      refine h.operation hcap _ (askedUpdate_of_pop rfl hasks) rfl ?_ (isPutting_of_set id)
        (mem_of_mem_append_return id)
      show s.queue.dequeue.contents = s.queue.contents.tail
      rw [hcontents]
      rfl
  | returned dterr wasTimeout =>
      obtain rfl := Option.some.inj hend
      exact h.frame hasks rfl rfl (isPutting_of_set id) (mem_of_mem_append_return id)

/-- A critical section of a call of put keeps the overwriting FIFO exactly when the put finds
    room. -/
theorem endPut_overwrites (hq : s.queue.Operates cap) (h : Overwrites cap s asked)
    {DTTIMEOUT_FOREVER timeoutMillis : Int32} {t : τ} {arg : Option β} {wasTimeout : Option Bool}
    {lockRc : Rc} {now : Timespec} {pick : Option τ} {r : PutEnd β} (hidle : s.activity t = .idle)
    (hcases : PutCases DTTIMEOUT_FOREVER s.queue timeoutMillis wasTimeout lockRc now arg r)
    (hend : s.endPut t arg pick r = some s') :
    Overwrites cap s'
        (askedUpdate s (.put t arg timeoutMillis wasTimeout lockRc now pick) s' asked) ↔
      PutFindsRoom s (.put t arg timeoutMillis wasTimeout lockRc now pick) := by
  cases hcases with
  | noBuffer dterr =>
      obtain rfl := Option.some.inj hend
      refine iff_of_true (h.frame rfl rfl rfl (isPutting_of_set id) ?_) trivial
      exact mem_of_mem_append_return (not_isPutTimeout_of_error t none dterr wasTimeout)
  | lockFails buffer dterr hlock =>
      obtain rfl := Option.some.inj hend
      refine iff_of_true (h.frame (if_neg hlock) rfl rfl (isPutting_of_set id) ?_) ?_
      · exact mem_of_mem_append_return (not_isPutTimeout_of_error t (some buffer) dterr _)
      · exact fun _ hzero => absurd hzero hlock
  | refused buffer hlock hforever hzero hfull =>
      obtain rfl := Option.some.inj hend
      refine iff_of_false (not_overwrites_of_lost h (if_pos hlock) rfl) fun hroom => ?_
      obtain ⟨-, hnot, -⟩ := hq.enqueue (hroom hidle hlock) buffer
      exact absurd (hfull.symm.trans hnot) (by decide)
  | waits buffer deadline hlock hwait hfull =>
      obtain rfl := Option.some.inj hend
      refine iff_of_false (not_overwrites_of_lost h (if_pos hlock) rfl) fun hroom => ?_
      obtain ⟨-, hnot, -⟩ := hq.enqueue (hroom hidle hlock) buffer
      exact absurd (hfull.symm.trans hnot) (by decide)
  | enqueues buffer hlock hfull =>
      obtain ⟨cv, -, rfl⟩ := Option.map_eq_some_iff.1 hend
      by_cases hroom : s.queue.HasRoom
      · obtain ⟨hlength, -, hcontents⟩ := hq.enqueue hroom buffer
        have hcap : 0 < cap := Nat.lt_of_le_of_lt (Nat.zero_le _) hlength
        refine iff_of_true (h.operation hcap (.push (some buffer)) ?_ rfl ?_
          (isPutting_of_set id) ?_) fun _ _ => hroom
        · rw [askedUpdate_of_push (b := some buffer) rfl]
          exact congrArg (asked ++ ·) (if_pos hlock)
        · show (s.queue.enqueue buffer).contents = Fifo.overwritingStep cap s.queue.contents _
          rw [hcontents, Fifo.overwritingStep, if_pos hlength]
        · exact mem_of_mem_append_return
            (not_isPutTimeout_of_ne t (some buffer) (map_false_ne wasTimeout))
      · refine iff_of_false (fun h' => ?_) fun hfinds => hroom (hfinds hidle hlock)
        exact absurd h'.length_le (Nat.not_le.2 (hq.overflows hroom hfull buffer))

/-- **Step lemma.** A step keeps the overwriting FIFO exactly when a put that it is finds room. -/
theorem step_overwrites {DTTIMEOUT_FOREVER : Int32} {e : Event τ β} (hq : s.queue.Operates cap)
    (h : Overwrites cap s asked) (hstep : step DTTIMEOUT_FOREVER s e = some s') :
    Overwrites cap s' (askedUpdate s e s' asked) ↔ PutFindsRoom s e := by
  cases step_cases hstep with
  | put hidle hcases hend => exact endPut_overwrites hq h hidle hcases hend
  | get hidle hcases hend =>
      exact iff_of_true (endGet_overwrites hq h hcases.takesFront rfl hend) trivial
  | @putWake t _ _ _ _ _ _ hputting =>
      -- no put is asleep
      exact absurd (by rw [hputting]; exact trivial) (h.never_blocks t)
  | @getWake t _ _ _ _ _ hgetting hcases hend =>
      have h' : Overwrites cap { s with cvNotEmpty := s.cvNotEmpty.resume t } asked :=
        ⟨h.contents_eq, h.length_le, h.most_recent, h.done, h.never_blocks, h.never_times_out⟩
      have hq' : { s with cvNotEmpty := s.cvNotEmpty.resume t }.queue.Operates cap := hq
      exact iff_of_true (endGet_overwrites hq' h' hcases.takesFront rfl hend) trivial

/-- No step changes `max_count`. -/
theorem endPut_maxCount {t : τ} {arg : Option β} {pick : Option τ} {r : PutEnd β}
    (hr : r.Balanced s.queue) (hend : s.endPut t arg pick r = some s') :
    s'.queue.maxCount = s.queue.maxCount := by
  cases r with
  | wait | returned =>
      obtain rfl := Option.some.inj hend
      rfl
  | enqueued q' buffer wasTimeout =>
      obtain ⟨-, rfl⟩ := hr
      obtain ⟨cv, -, rfl⟩ := Option.map_eq_some_iff.1 hend
      rfl

theorem endGet_maxCount {t : τ} {pick : Option τ} {r : GetEnd β} (hr : r.Balanced s.queue)
    (hend : s.endGet t pick r = some s') : s'.queue.maxCount = s.queue.maxCount := by
  cases r with
  | wait | returned =>
      obtain rfl := Option.some.inj hend
      rfl
  | dequeued q' out wasTimeout =>
      obtain ⟨-, rfl⟩ := hr
      obtain ⟨cv, -, rfl⟩ := Option.map_eq_some_iff.1 hend
      rfl

theorem step_maxCount {DTTIMEOUT_FOREVER : Int32} {e : Event τ β}
    (hstep : step DTTIMEOUT_FOREVER s e = some s') : s'.queue.maxCount = s.queue.maxCount := by
  cases step_cases hstep with
  | put hidle hcases hend => exact endPut_maxCount hcases.balanced hend
  | get hidle hcases hend => exact endGet_maxCount hcases.balanced hend
  | @putWake t _ _ _ _ _ _ hputting hcases hend =>
      exact endPut_maxCount (s := { s with cvNotFull := s.cvNotFull.resume t }) hcases.balanced hend
  | @getWake t _ _ _ _ _ hgetting hcases hend =>
      exact endGet_maxCount (s := { s with cvNotEmpty := s.cvNotEmpty.resume t }) hcases.balanced
        hend

/-! ## Whole runs -/

/-- What carries the property: the invariant of the ring, or a negative `max_count`. -/
def Carries (cap : ℕ) (s : State τ β) : Prop :=
  Inv cap s ∨ cap = 0 ∧ s.queue.maxCount.toInt < 0

omit [DecidableEq τ] in
theorem Carries.operates (hc : Carries cap s) (h : Overwrites cap s asked) :
    s.queue.Operates cap := by
  rcases hc with hi | ⟨rfl, hneg⟩
  · exact hi.wf.operates
  · exact Queue.operates_of_neg hneg h.length_le

theorem Carries.step {DTTIMEOUT_FOREVER : Int32} {e : Event τ β} (hc : Carries cap s)
    (hstep : step DTTIMEOUT_FOREVER s e = some s') : Carries cap s' := by
  rcases hc with hi | ⟨hcap, hneg⟩
  · exact Or.inl (step_spec hi hstep).1
  · exact Or.inr ⟨hcap, by rwa [step_maxCount hstep]⟩

omit [DecidableEq τ] in
theorem carries_initial {maxCount : Int32} {cells : ℕ}
    (hcells : 0 ≤ maxCount.toInt → cells = (storedMaxCount maxCount).toNatClampNeg) :
    Carries (storedMaxCount maxCount).toNatClampNeg
      (State.initial (created maxCount true cells) : State τ β) := by
  by_cases hmax : 0 ≤ maxCount.toInt
  · rw [hcells hmax]
    exact Or.inl (inv_initial (created_wellFormed_of_nonneg hmax true)
      (created_contents maxCount true _))
  · have hneg : maxCount.toInt < 0 := Int.not_le.1 hmax
    have hne : maxCount ≠ 0 := by
      rintro rfl
      exact hmax (by decide)
    refine Or.inr ⟨?_, ?_⟩
    · rw [storedMaxCount, if_neg hne, Int32.toNatClampNeg]
      omega
    · show (if maxCount = 0 then 1 else maxCount : Int32).toInt < 0
      rwa [if_neg hne]

/-- **Overwriting.** A queue created with `should_overwrite = true`, and with a cell for each of its
    buffers, is an overwriting FIFO in every state of a run, for any number of threads and any order
    of their critical sections, exactly when every put that gets the mutex finds fewer than
    `max_count` buffers in the queue. -/
theorem overwrites_iff (DTTIMEOUT_FOREVER maxCount : Int32) (cells : ℕ)
    (hcells : 0 ≤ maxCount.toInt → cells = (storedMaxCount maxCount).toNatClampNeg)
    (events : List (Event τ β)) :
    Run.AllStates (askedStep DTTIMEOUT_FOREVER)
        (fun s => Overwrites (storedMaxCount maxCount).toNatClampNeg s.1 s.2)
        (State.initial (created maxCount true cells), []) events ↔
      Run.AllSteps (askedStep DTTIMEOUT_FOREVER)
        (fun s e => (askedStep DTTIMEOUT_FOREVER s e).isSome → PutFindsRoom s.1 e)
        ((State.initial (created maxCount true cells) : State τ β), []) events := by
  have hempty := created_contents (β := β) maxCount true cells
  refine Run.allStates_iff_allSteps
    (I := fun s => Carries (storedMaxCount maxCount).toNatClampNeg s.1) ?_ ?_ ?_ events _
    (carries_initial hcells) ?_
  · rintro ⟨s, asked⟩ e ⟨s', asked'⟩ hc - h -
    obtain ⟨hstep, rfl⟩ := (Observer.observed_eq_some _ _).1 h
    exact hc.step hstep
  · rintro ⟨s, asked⟩ e ⟨s', asked'⟩ hc hs h
    have hhappens : (askedStep DTTIMEOUT_FOREVER (s, asked) e).isSome := by
      rw [h]
      rfl
    obtain ⟨hstep, rfl⟩ := (Observer.observed_eq_some _ _).1 h
    rw [forall_prop_of_true hhappens]
    exact step_overwrites (hc.operates hs) hs hstep
  · rintro ⟨s, asked⟩ e - - h hhappens
    rw [h] at hhappens
    exact absurd hhappens (by simp)
  · refine ⟨hempty, ?_, ?_, rfl, fun _ => id, fun _ hr => absurd hr List.not_mem_nil⟩
    · show (created maxCount true _ : Queue β).contents.length ≤ _
      rw [hempty]
      exact Nat.zero_le _
    · exact ⟨[], hempty⟩

/-- Puts and a get on a queue for two buffers; the ring wraps, and every put finds room. -/
def roomyRun : List (Event ℕ ℕ) :=
  [.put 0 (some 10) 0 (some true) 0 ⟨5, 0⟩ none,
    .put 0 (some 20) (-1) none 0 ⟨5, 0⟩ none,
    .get 1 true 0 none 0 ⟨6, 0⟩ none,
    .put 0 (some 30) 1500 (some true) 0 ⟨7, 0⟩ none]

theorem overwrites_iff_roomyRun :
    Run.AllStates (askedStep (-1)) (fun s => Overwrites 2 s.1 s.2)
      ((State.initial (created 2 true 2) : State ℕ ℕ), []) roomyRun :=
  (overwrites_iff (-1) 2 2 (fun _ => by decide) roomyRun).2 (by decide)

/-- The third put finds the queue full. It discards nothing, and times out. -/
def fullRun : List (Event ℕ ℕ) :=
  [.put 0 (some 10) 0 (some true) 0 ⟨5, 0⟩ none,
    .put 0 (some 20) 0 (some true) 0 ⟨5, 0⟩ none,
    .put 0 (some 30) 0 (some true) 0 ⟨6, 0⟩ none]

theorem full_queue_not_overwritten :
    ¬Run.AllStates (askedStep (-1)) (fun s => Overwrites 2 s.1 s.2)
      ((State.initial (created 2 true 2) : State ℕ ℕ), []) fullRun := by
  intro hall
  have hpushed : (Run.exec (askedStep (-1)) ((State.initial (created 2 true 2) : State ℕ ℕ), [])
      fullRun).map (fun s => (Fifo.pushed s.1.history, Fifo.pushed s.2))
        = some ([some 10, some 20], [some 10, some 20, some 30]) := by
    decide
  obtain ⟨s, hexec, hends⟩ := Option.map_eq_some_iff.1 hpushed
  obtain ⟨hhistory, hasked⟩ := Prod.mk.inj hends
  have hdone := (hall.last hexec).done
  rw [hhistory, hasked] at hdone
  exact absurd hdone (by decide)

end Dtbufferqueue
