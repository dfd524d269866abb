import DtmcLinux.Dtbufferqueue.Refinement

set_option autoImplicit false

/-! # The ring that create allocates

`dtbufferqueue_create` computes the size of the ring in `size_t` and passes it on as an `int32_t`,
while put and get reduce their indices modulo `max_count`: the cut must not lose anything. -/

namespace Dtbufferqueue

open Posix

variable {τ β : Type*}

/-! ## The function -/

/-- `self->max_count` after `if (self->max_count == 0) self->max_count = 1;` -/
def storedMaxCount (maxCount : Int32) : Int32 := if maxCount = 0 then 1 else maxCount

/-- `(int32_t)(sizeof(dtbuffer_t*) * (size_t)self->max_count)`, with pointers of 8 bytes. -/
def storageSize (maxCount : Int32) : Int32 := Int32.ofInt (8 * (maxCount.toInt % 2 ^ 64) % 2 ^ 64)

/-- `dtheaper_alloc_and_zero` for the ring: an error, or the number of bytes allocated, which is the
    number asked for. -/
structure RingAllocator where
  alloc : Int32 → Except Dterr ℕ
  exact : ∀ size bytes, alloc size = .ok bytes → (bytes : ℤ) = size.toInt

/-- What the other calls of `dtbufferqueue_create` return. -/
structure CreateCalls where
  allocSelf : Option Dterr
  mutexInit : Rc
  condattrInit : Rc
  condattrSetclock : Rc
  condInitNotEmpty : Rc
  condInitNotFull : Rc

/-- The calls of pthread functions, in order, with their names in the error messages. -/
def CreateCalls.inits (calls : CreateCalls) : List (String × Rc) :=
  [("pthread_mutex_init", calls.mutexInit), ("pthread_condattr_init", calls.condattrInit),
    ("pthread_condattr_setclock", calls.condattrSetclock),
    ("pthread_cond_init(not_empty)", calls.condInitNotEmpty),
    ("pthread_cond_init(not_full)", calls.condInitNotFull)]

/-- The first call that fails ends creation with its error. -/
def firstFailure : List (String × Rc) → Option Dterr
  | [] => none
  | (name, rc) :: inits =>
    if rc ≠ 0 then some (.new .fail s!"{name}: {rc}") else firstFailure inits

/-- `dtbufferqueue_create`; `outHandle` tells whether the caller passed a place for the handle. -/
def create (heap : RingAllocator) (calls : CreateCalls) (outHandle : Bool) (maxCount : Int32)
    (shouldOverwrite : Bool) : Except Dterr (Queue β) :=
  if !outHandle then
    .error (.assertNotNull "out_handle")
  else
    match calls.allocSelf with
    | some dterr => .error dterr
    | none =>
      match heap.alloc (storageSize (storedMaxCount maxCount)) with
      | .error dterr => .error dterr
      | .ok bytes =>
        match firstFailure calls.inits with
        | some dterr => .error dterr
        | none => .ok (created maxCount shouldOverwrite (bytes / 8))

/-! ## The property and the condition -/

/-- `max_count` is not negative, and its pointers take no more bytes than an `int32_t` can tell. -/
def Fits (maxCount : Int32) : Prop := 0 ≤ maxCount.toInt ∧ 8 * maxCount.toInt ≤ 2147483647

instance (maxCount : Int32) : Decidable (Fits maxCount) := inferInstanceAs (Decidable (_ ∧ _))

/-- A call of `dtbufferqueue_create` fails, or there is no place for the handle. -/
def CreateFails (heap : RingAllocator) (calls : CreateCalls) (outHandle : Bool)
    (maxCount : Int32) : Prop :=
  outHandle = false ∨ calls.allocSelf ≠ none ∨
    (∃ dterr, heap.alloc (storageSize (storedMaxCount maxCount)) = .error dterr) ∨
    ∃ init ∈ calls.inits, init.2 ≠ 0

/-- The index that a step uses on `ring` is the index of a cell: `tail` for a step that enqueues,
    `head` for one that dequeues. -/
def IndexInRing [DecidableEq τ] (DTTIMEOUT_FOREVER : Int32) (s : State τ β) (e : Event τ β) : Prop :=
  ∀ s', step DTTIMEOUT_FOREVER s e = some s' →
    (∀ b, s'.history = s.history ++ [.push b] → s.queue.tail.toNat < s.queue.ring.length) ∧
    ∀ x, s'.history = s.history ++ [.pop x] → s.queue.head.toNat < s.queue.ring.length

/-- A `max_count` that does not fit is refused; a queue that is created has a cell for each of its
    `max_count` buffers, and in every run on it every index used is that of a cell. -/
structure StaysInRing (τ : Type*) [DecidableEq τ] (DTTIMEOUT_FOREVER maxCount : Int32)
    (result : Except Dterr (Queue β)) : Prop where
  refused : ¬Fits maxCount → ∃ dterr, result = .error dterr
  room : ∀ q, result = .ok q → q.maxCount.toUInt32.toNat ≤ q.ring.length
  inside : ∀ q, result = .ok q → ∀ events : List (Event τ β),
    Run.AllSteps (step DTTIMEOUT_FOREVER) (IndexInRing DTTIMEOUT_FOREVER) (.initial q) events

/-! ## The size -/

/-- The size of a ring that fits is computed without loss. -/
theorem storageSize_of_fits {maxCount : Int32} (h : Fits maxCount) :
    (storageSize maxCount).toInt = 8 * maxCount.toInt := by
  obtain ⟨hnonneg, hle⟩ := h
  have hsize : 8 * (maxCount.toInt % 2 ^ 64) % 2 ^ 64 = 8 * maxCount.toInt := by
    rw [Int.emod_eq_of_lt hnonneg (by omega)]
    exact Int.emod_eq_of_lt (by omega) (by omega)
  rw [storageSize, hsize]
  exact Int32.toInt_ofInt_of_le (by omega) (by omega)

/-- The `max_count` that a queue keeps fits as well. -/
theorem Fits.stored {maxCount : Int32} (h : Fits maxCount) :
    Fits (storedMaxCount maxCount) := by
  unfold storedMaxCount
  split
  · exact ⟨by decide, by decide⟩
  · exact h

/-- The cells of a ring that fits are as many as the buffers. -/
theorem cells_of_fits {heap : RingAllocator} {maxCount : Int32} (h : Fits maxCount) {bytes : ℕ}
    (halloc : heap.alloc (storageSize maxCount) = .ok bytes) :
    bytes / 8 = maxCount.toNatClampNeg := by
  have hbytes := heap.exact _ _ halloc
  rw [storageSize_of_fits h] at hbytes
  rw [Int32.toNatClampNeg]
  omega

/-- The cells of a ring that does not fit are too few. -/
theorem cells_lt_of_not_fits {heap : RingAllocator} {maxCount : Int32} (h : ¬Fits maxCount)
    {bytes : ℕ} (halloc : heap.alloc (storageSize maxCount) = .ok bytes) :
    bytes / 8 < maxCount.toUInt32.toNat := by
  have hbytes := heap.exact _ _ halloc
  have hmax := (storageSize maxCount).toInt_lt
  have hsmall : bytes / 8 < 268435456 := by omega
  by_cases hnonneg : 0 ≤ maxCount.toInt
  · have hcount := Counter32.toNat_toUInt32_of_nonneg hnonneg
    have hlarge : ¬8 * maxCount.toInt ≤ 2147483647 := fun hle => h ⟨hnonneg, hle⟩
    omega
  · have hcount := Counter32.toNat_toUInt32_of_neg (Int.not_le.1 hnonneg)
    have hmin := maxCount.le_toInt
    omega

theorem firstFailure_eq_none (inits : List (String × Rc)) :
    firstFailure inits = none ↔ ∀ init ∈ inits, init.2 = 0 := by
  induction inits with
  | nil => exact ⟨fun _ _ h => absurd h List.not_mem_nil, fun _ => rfl⟩
  | cons init inits ih =>
      obtain ⟨name, rc⟩ := init
      rw [List.forall_mem_cons, firstFailure]
      split
      · next hrc => exact ⟨nofun, fun h => absurd h.1 hrc⟩
      · next hrc => exact ih.trans ⟨fun h => ⟨not_not.1 hrc, h⟩, And.right⟩

/-- Either a call fails and so does creation, or none does, and the ring has the allocated size. -/
theorem create_cases (heap : RingAllocator) (calls : CreateCalls) (outHandle : Bool)
    (maxCount : Int32) (shouldOverwrite : Bool) :
    (CreateFails heap calls outHandle maxCount ∧
      ∃ dterr, (create heap calls outHandle maxCount shouldOverwrite : Except Dterr (Queue β))
        = .error dterr) ∨
    ¬CreateFails heap calls outHandle maxCount ∧
      ∃ bytes, heap.alloc (storageSize (storedMaxCount maxCount)) = .ok bytes ∧
        (create heap calls outHandle maxCount shouldOverwrite : Except Dterr (Queue β))
          = .ok (created maxCount shouldOverwrite (bytes / 8)) := by
  unfold create CreateFails
  cases outHandle with
  | false => exact .inl ⟨.inl rfl, _, rfl⟩
  | true =>
      rw [if_neg (by decide)]
      cases hself : calls.allocSelf with
      | some dterr => exact .inl ⟨.inr (.inl nofun), dterr, rfl⟩
      | none =>
          cases hring : heap.alloc (storageSize (storedMaxCount maxCount)) with
          | error dterr => exact .inl ⟨.inr (.inr (.inl ⟨dterr, rfl⟩)), dterr, rfl⟩
          | ok bytes =>
              cases hinits : firstFailure calls.inits with
              | some dterr =>
                  refine .inl ⟨.inr (.inr (.inr ?_)), dterr, rfl⟩
                  by_contra hnone
                  have hall : ∀ init ∈ calls.inits, init.2 = 0 :=
                    fun init hmem => not_not.1 fun hne => hnone ⟨init, hmem, hne⟩
                  rw [(firstFailure_eq_none _).2 hall] at hinits
                  cases hinits
              | none =>
                  refine .inr ⟨?_, bytes, rfl, rfl⟩
                  rintro (hout | hself | ⟨dterr, herror⟩ | ⟨init, hmem, hne⟩)
                  · cases hout
                  · exact hself rfl
                  · cases herror
                  · exact hne ((firstFailure_eq_none _).1 hinits init hmem)

/-- A queue created with a cell for each of its buffers is well formed, also with `max_count == 0`. -/
theorem created_wellFormed_of_nonneg {maxCount : Int32} (h : 0 ≤ maxCount.toInt)
    (shouldOverwrite : Bool) :
    (created maxCount shouldOverwrite (storedMaxCount maxCount).toNatClampNeg : Queue β).WellFormed
      (storedMaxCount maxCount).toNatClampNeg := by
  by_cases hzero : maxCount = 0
  · subst hzero
    exact created_wellFormed 1 shouldOverwrite (by decide)
  · rw [storedMaxCount, if_neg hzero]
    refine created_wellFormed maxCount shouldOverwrite (Int32.le_iff_toInt_le.2 ?_)
    have hne : maxCount.toInt ≠ 0 := fun h0 => hzero (Int32.toInt_inj.1 h0)
    show (1 : ℤ) ≤ maxCount.toInt
    omega

/-! ## Runs -/

variable [DecidableEq τ]

/-- On a well-formed queue every index used is that of a cell. -/
theorem indexInRing_of_inv {DTTIMEOUT_FOREVER : Int32} {cap : ℕ} {s : State τ β} (hi : Inv cap s)
    (e : Event τ β) : IndexInRing DTTIMEOUT_FOREVER s e := by
  intro s' _
  rw [hi.wf.ring_length]
  exact ⟨fun _ _ => hi.wf.tail_lt, fun _ _ => hi.wf.head_lt⟩

omit [DecidableEq τ] in
theorem inv_initial {cap : ℕ} {q : Queue β} (hq : q.WellFormed cap) (hempty : q.contents = []) :
    Inv cap (State.initial q : State τ β) := by
  refine ⟨hq, ?_, rfl, fun _ => trivial⟩
  show Fifo.Replay _ [] q.contents
  rw [hempty]
  exact .empty

/-- A queue that no thread waits on, after `n` puts. -/
structure Filled (maxCount : Int32) (cells n : ℕ) (s : State τ β) : Prop where
  maxCount_eq : s.queue.maxCount = maxCount
  length_eq : s.queue.ring.length = cells
  count_eq : s.queue.count.toNat = n
  tail_eq : s.queue.tail.toNat = n
  idle : ∀ t, s.activity t = .idle
  nobody : s.cvNotEmpty.waiting = []

/-- A put that does not wait. -/
def poll (t : τ) (b : β) : Event τ β := .put t (some b) 0 none 0 ⟨0, 0⟩ none

/-- As long as the tail does not wrap, a put writes the cell after the last one it has filled. -/
theorem Filled.poll (DTTIMEOUT_FOREVER : Int32) {maxCount : Int32} {cells n : ℕ} {s : State τ β}
    (h : Filled maxCount cells n s) (hn : n < maxCount.toUInt32.toNat) (t : τ) (b : β) :
    ∃ s', step DTTIMEOUT_FOREVER s (poll t b) = some s' ∧
      s'.history = s.history ++ [.push (some b)] ∧
      (n + 1 < maxCount.toUInt32.toNat → Filled maxCount cells (n + 1) s') := by
  have hsize := maxCount.toUInt32.toNat_lt
  have hcount : s.queue.count.toNat < maxCount.toUInt32.toNat := h.count_eq ▸ hn
  have htail : s.queue.tail.toNat < maxCount.toUInt32.toNat := h.tail_eq ▸ hn
  have hne : s.queue.count ≠ s.queue.maxCount.toUInt32 := by
    intro heq
    rw [heq, h.maxCount_eq] at hcount
    exact Nat.lt_irrefl _ hcount
  have hroom : s.queue.isFull = false := beq_eq_false_iff_ne.2 hne
  have hput : put DTTIMEOUT_FOREVER s.queue (some b) 0 none 0 ⟨0, 0⟩
      = .enqueued (s.queue.enqueue b) b none := by
    simp [put, putLoop, hroom]
  have hsignal : s.cvNotEmpty.signal none = some s.cvNotEmpty := by
    simp [Cond.signal, h.nobody]
  have hstep : step DTTIMEOUT_FOREVER s (Dtbufferqueue.poll t b) = some
      { s.leave t (.put t (some b) none none) with
        queue := s.queue.enqueue b
        cvNotEmpty := s.cvNotEmpty
        history := s.history ++ [.push (some b)] } := by
    simp only [step, Dtbufferqueue.poll, h.idle t, hput, State.endPut, hsignal, Option.map_some]
  refine ⟨_, hstep, rfl, fun hnext => ⟨h.maxCount_eq, ?_, ?_, ?_, ?_, h.nobody⟩⟩
  · exact List.length_set.trans h.length_eq
  · show (s.queue.count + 1).toNat = n + 1
    rw [Counter32.toNat_succ_of_lt hcount hsize, h.count_eq]
  · show ((s.queue.tail + 1) % s.queue.maxCount.toUInt32).toNat = n + 1
    rw [UInt32.toNat_mod, h.maxCount_eq,
      Counter32.toNat_succ_of_lt htail hsize, h.tail_eq]
    exact Nat.mod_eq_of_lt hnext
  · intro t'
    show (if t' = t then .idle else s.activity t') = .idle
    split
    · rfl
    · exact h.idle t'

/-- Puts alone use an index that is not that of a cell, when the ring has less than `max_count`. -/
theorem Filled.leaves_ring {DTTIMEOUT_FOREVER maxCount : Int32} {cells : ℕ}
    (hcells : cells < maxCount.toUInt32.toNat) (t : τ) (b : β) (m : ℕ) :
    ∀ (n : ℕ) (s : State τ β), n + m = cells → Filled maxCount cells n s →
      ¬Run.AllSteps (step DTTIMEOUT_FOREVER) (IndexInRing DTTIMEOUT_FOREVER) s
        (List.replicate (m + 1) (Dtbufferqueue.poll t b)) := by
  induction m with
  | zero =>
      intro n s hn h hall
      obtain ⟨s', hs', hhistory, -⟩ := h.poll DTTIMEOUT_FOREVER (by omega) t b
      have hindex := (hall.1 s' hs').1 _ hhistory
      rw [h.tail_eq, h.length_eq] at hindex
      omega
  | succ m ih =>
      intro n s hn h hall
      obtain ⟨s', hs', -, hnext⟩ := h.poll DTTIMEOUT_FOREVER (by omega) t b
      exact ih (n + 1) s' (by omega) (hnext (by omega)) (hall.2 s' hs')

omit [DecidableEq τ] in
theorem filled_initial (maxCount : Int32) (shouldOverwrite : Bool) (cells : ℕ) :
    Filled (storedMaxCount maxCount) cells 0
      (State.initial (created maxCount shouldOverwrite cells) : State τ β) :=
  ⟨rfl, List.length_replicate, rfl, rfl, fun _ => rfl, rfl⟩

/-- A queue created with a `max_count` that does not fit leaves its ring after enough puts. -/
theorem leaves_ring_of_not_fits (DTTIMEOUT_FOREVER : Int32) {heap : RingAllocator}
    {calls : CreateCalls} {outHandle : Bool} {maxCount : Int32} {shouldOverwrite : Bool}
    {q : Queue β} (h : ¬Fits maxCount)
    (hok : create heap calls outHandle maxCount shouldOverwrite = .ok q) (t : τ) (b : β) :
    ∃ events : List (Event τ β),
      ¬Run.AllSteps (step DTTIMEOUT_FOREVER) (IndexInRing DTTIMEOUT_FOREVER) (.initial q) events := by
  rcases create_cases (β := β) heap calls outHandle maxCount shouldOverwrite with
    ⟨-, dterr, herror⟩ | ⟨-, bytes, halloc, hcreated⟩
  · rw [hok] at herror
    cases herror
  · obtain rfl := Except.ok.inj (hok.symm.trans hcreated)
    have hstored : ¬Fits (storedMaxCount maxCount) := by
      unfold storedMaxCount
      split
      · next hzero => exact absurd (hzero ▸ ⟨by decide, by decide⟩) h
      · exact h
    have hcells := cells_lt_of_not_fits hstored halloc
    exact ⟨_, Filled.leaves_ring hcells t b _ 0 _ (Nat.zero_add _) (filled_initial _ _ _)⟩

/-- An allocator that always has memory. -/
def plentiful : RingAllocator where
  alloc size := if 0 ≤ size.toInt then .ok size.toInt.toNat else .error (.new .badarg "bad size")
  exact size bytes h := by
    split at h
    · next hsize =>
        rw [← Except.ok.inj h]
        exact Int.toNat_of_nonneg hsize
    · cases h

/-- No call fails. -/
def CreateCalls.succeed : CreateCalls where
  allocSelf := none
  mutexInit := 0
  condattrInit := 0
  condattrSetclock := 0
  condInitNotEmpty := 0
  condInitNotFull := 0

end Dtbufferqueue
