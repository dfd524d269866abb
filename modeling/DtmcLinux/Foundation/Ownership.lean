import DtmcLinux.Foundation.StepRun
import Mathlib.Data.List.Count
import Mathlib.Data.List.Lattice
import Mathlib.Data.List.Perm.Basic

set_option autoImplicit false

/-! # Objects that are disposed

A program uses objects and disposes them; a log records both, newest entry first. The log is sound
when nothing is disposed twice or used after it was disposed.

The ledger describes callees that hand out chains of objects, each chain to be disposed by the
caller that got it. A chain is made of new objects, behind which the callee may put a chain that
stays its own, the loan. The log is sound as long as the loan has been put into one chain at most,
and once every chain has been disposed it is sound only then. -/

namespace Ownership

/-! ## Logs -/

/-- What is done with an object. -/
inductive Use (ι : Type*) where
  | used (i : ι)
  | disposed (i : ι)
  deriving DecidableEq

/-- The object of a log entry. -/
def Use.object {ι : Type*} : Use ι → ι
  | .used i => i
  | .disposed i => i

section Logs

variable {ι : Type*}

/-- Nothing is disposed twice or used after it was disposed. -/
def Sound (log : List (Use ι)) : Prop :=
  log.Pairwise fun new old => old ≠ .disposed new.object

instance Sound.decidable [DecidableEq ι] (log : List (Use ι)) : Decidable (Sound log) :=
  inferInstanceAs (Decidable (log.Pairwise _))

theorem sound_nil : Sound ([] : List (Use ι)) := List.Pairwise.nil

theorem sound_cons {u : Use ι} {log : List (Use ι)} :
    Sound (u :: log) ↔ .disposed u.object ∉ log ∧ Sound log := by
  rw [Sound, List.pairwise_cons]
  constructor
  · rintro ⟨h, hlog⟩
    exact ⟨fun hmem => h _ hmem rfl, hlog⟩
  · rintro ⟨h, hlog⟩
    exact ⟨fun old hold heq => h (heq ▸ hold), hlog⟩

theorem disposed_not_mem_used (i : ι) (ids : List ι) : Use.disposed i ∉ ids.map Use.used := by
  simp

/-- Objects that have not been disposed may be used. -/
theorem Sound.used {log : List (Use ι)} (h : Sound log) {ids : List ι}
    (hids : ∀ i ∈ ids, .disposed i ∉ log) : Sound (ids.map .used ++ log) := by
  induction ids with
  | nil => exact h
  | cons i ids ih =>
      have htail := ih fun k hk => hids k (List.mem_cons_of_mem i hk)
      refine sound_cons.2 ⟨fun hmem => ?_, htail⟩
      obtain hmem | hmem := List.mem_append.1 hmem
      · exact disposed_not_mem_used i ids hmem
      · exact hids i List.mem_cons_self hmem

/-- Different objects that have not been disposed may be disposed. -/
theorem Sound.disposed {log : List (Use ι)} (h : Sound log) {ids : List ι} (hnodup : ids.Nodup)
    (hids : ∀ i ∈ ids, .disposed i ∉ log) : Sound (ids.map .disposed ++ log) := by
  induction ids with
  | nil => exact h
  | cons i ids ih =>
      obtain ⟨hi, hnodup⟩ := List.nodup_cons.1 hnodup
      have htail := ih hnodup fun k hk => hids k (List.mem_cons_of_mem i hk)
      refine sound_cons.2 ⟨fun hmem => ?_, htail⟩
      obtain hmem | hmem := List.mem_append.1 hmem
      · exact hi (by simpa [Use.object] using hmem)
      · exact hids i List.mem_cons_self hmem

/-- In a sound log each object is disposed at most once. -/
theorem Sound.count_le_one [DecidableEq ι] {log : List (Use ι)} (h : Sound log) (i : ι) :
    log.count (.disposed i) ≤ 1 := by
  induction log with
  | nil => exact Nat.zero_le 1
  | cons u log ih =>
      obtain ⟨hu, hlog⟩ := sound_cons.1 h
      by_cases heq : u = .disposed i
      · have hnone : log.count (.disposed i) = 0 := by
          rw [heq] at hu
          exact List.count_eq_zero.2 hu
        have hcount : (u :: log).count (.disposed i) = log.count (.disposed i) + 1 := by
          rw [heq, List.count_cons_self]
        omega
      · rw [List.count_cons_of_ne heq]
        exact ih hlog

end Logs

/-! ## Chains, and a loan -/

/-- The chains the callers hold, the log, and the number of the next object. -/
structure Ledger where
  next : ℕ
  held : List (List ℕ)
  log : List (Use ℕ)

/-- A step of a ledger. `lent` tells whether the loan is put behind the new objects. -/
inductive Move (loan : List ℕ) (l : Ledger) : Bool → Ledger → Prop where
  /-- a caller gets a chain, all of whose objects may have been used -/
  | give (lent : Bool) (next : ℕ) (new uses : List ℕ) (hnext : l.next ≤ next)
      (hnew : ∀ i ∈ new, l.next ≤ i ∧ i < next) (hnodup : new.Nodup)
      (huses : ∀ i ∈ uses, i ∈ new ++ if lent then loan else []) :
      Move loan l lent
        { next := next
          held := (new ++ if lent then loan else []) :: l.held
          log := uses.map .used ++ l.log }
  /-- a caller disposes a chain it holds -/
  | dispose (chain : List ℕ) (hchain : chain ∈ l.held) :
      Move loan l false
        { l with
          held := l.held.erase chain
          log := chain.map .disposed ++ l.log }

/-- No object has been made twice, and each object of the loan has gone into `lends` chains, some of
    which have been disposed. -/
structure Accounted (loan : List ℕ) (lends : ℕ) (l : Ledger) : Prop where
  loan_nodup : loan.Nodup
  loan_lt : ∀ i ∈ loan, i < l.next
  held_nodup : ∀ chain ∈ l.held, chain.Nodup
  held_lt : ∀ chain ∈ l.held, ∀ i ∈ chain, i < l.next
  disposed_lt : ∀ i, .disposed i ∈ l.log → i < l.next
  lends : ∀ i ∈ loan, l.log.count (.disposed i) + l.held.countP (i ∈ ·) = lends

/-- The log is sound, the chains held are apart from each other and from what was disposed; so is
    the loan until it is lent. -/
structure Apart (loan : List ℕ) (lends : ℕ) (l : Ledger) : Prop where
  sound : Sound l.log
  live : ∀ chain ∈ l.held, ∀ i ∈ chain, .disposed i ∉ l.log
  disjoint : l.held.Pairwise List.Disjoint
  loan : lends = 0 → ∀ i ∈ loan, .disposed i ∉ l.log ∧ ∀ chain ∈ l.held, i ∉ chain

variable {loan : List ℕ} {lends : ℕ} {l l' : Ledger} {lent : Bool}

/-- New objects are in front of a loan that they are not in. -/
theorem Accounted.chain_nodup (h : Accounted loan lends l) {new : List ℕ} (lent : Bool)
    (hnew : ∀ i ∈ new, l.next ≤ i) (hnodup : new.Nodup) :
    (new ++ if lent then loan else []).Nodup := by
  cases lent with
  | false => simpa using hnodup
  | true =>
      refine List.nodup_append.2 ⟨hnodup, h.loan_nodup, fun i hi k hk heq => ?_⟩
      have hlow := hnew i hi
      have hhigh := h.loan_lt k hk
      omega

/-- An object of a chain is new or of the loan. -/
theorem mem_chain {new loan : List ℕ} {lent : Bool} {i : ℕ}
    (h : i ∈ new ++ if lent then loan else []) : i ∈ new ∨ (lent = true ∧ i ∈ loan) := by
  cases lent with
  | false => exact .inl (by simpa using h)
  | true => simpa using h

theorem disposed_mem_used {i : ℕ} {uses : List ℕ} {log : List (Use ℕ)}
    (h : Use.disposed i ∈ uses.map Use.used ++ log) : Use.disposed i ∈ log :=
  (List.mem_append.1 h).resolve_left (disposed_not_mem_used i uses)

theorem disposed_mem_disposed {i : ℕ} {chain : List ℕ} {log : List (Use ℕ)} :
    Use.disposed i ∈ chain.map Use.disposed ++ log ↔ i ∈ chain ∨ Use.disposed i ∈ log := by
  simp

theorem count_disposed_used (i : ℕ) (uses : List ℕ) (log : List (Use ℕ)) :
    (uses.map Use.used ++ log).count (.disposed i) = log.count (.disposed i) := by
  have hnone : (uses.map Use.used).count (Use.disposed i) = 0 :=
    List.count_eq_zero.2 (disposed_not_mem_used i uses)
  rw [List.count_append, hnone, Nat.zero_add]

/-- The disposal of a chain. -/
theorem count_disposed_chain (i : ℕ) (chain : List ℕ) (log : List (Use ℕ)) :
    (chain.map Use.disposed ++ log).count (.disposed i)
      = chain.count i + log.count (.disposed i) := by
  have hchain : (chain.map Use.disposed).count (Use.disposed i) = chain.count i :=
    List.count_map_of_injective chain Use.disposed (fun _ _ => Use.disposed.inj) i
  rw [List.count_append, hchain]

/-- The chains held, with one of them in front. -/
theorem held_perm {chain : List ℕ} (h : chain ∈ l.held) :
    l.held.Perm (chain :: l.held.erase chain) := List.perm_cons_erase h

theorem Accounted.move (h : Accounted loan lends l) (hmove : Move loan l lent l') :
    Accounted loan (lends + if lent then 1 else 0) l' := by
  cases hmove with
  | give _ next new uses hnext hnew hnodup huses =>
      have hchain := h.chain_nodup lent (fun i hi => (hnew i hi).1) hnodup
      refine ⟨h.loan_nodup, fun i hi => ?_, ?_, ?_, fun i hi => ?_, fun i hi => ?_⟩
      · exact Nat.lt_of_lt_of_le (h.loan_lt i hi) hnext
      · exact List.forall_mem_cons.2 ⟨hchain, h.held_nodup⟩
      · refine List.forall_mem_cons.2 ⟨fun i hi => ?_, fun c hc i hi => ?_⟩
        · rcases mem_chain hi with hi | ⟨-, hi⟩
          · exact (hnew i hi).2
          · exact Nat.lt_of_lt_of_le (h.loan_lt i hi) hnext
        · exact Nat.lt_of_lt_of_le (h.held_lt c hc i hi) hnext
      · exact Nat.lt_of_lt_of_le (h.disposed_lt i (disposed_mem_used hi)) hnext
      · have hnot : i ∉ new := fun hmem =>
          Nat.not_lt_of_le (hnew i hmem).1 (h.loan_lt i hi)
        have hmem : (i ∈ new ++ if lent then loan else []) ↔ lent = true := by
          cases lent <;> simp [hnot, hi]
        rw [count_disposed_used, List.countP_cons, ← Nat.add_assoc, h.lends i hi]
        simp only [decide_eq_true_eq, hmem]
  | dispose chain hchain =>
      have hperm := held_perm hchain
      have hsub : ∀ c ∈ l.held.erase chain, c ∈ l.held := fun c => List.mem_of_mem_erase
      refine ⟨h.loan_nodup, h.loan_lt, fun c hc => h.held_nodup c (hsub c hc),
        fun c hc => h.held_lt c (hsub c hc), fun i hi => ?_, fun i hi => ?_⟩
      · obtain hi | hi := disposed_mem_disposed.1 hi
        · exact h.held_lt chain hchain i hi
        · exact h.disposed_lt i hi
      · have hone : chain.count i = if i ∈ chain then 1 else 0 :=
          (h.held_nodup chain hchain).count
        have hold := h.lends i hi
        rw [hperm.countP_eq, List.countP_cons] at hold
        rw [count_disposed_chain, hone]
        simp only [decide_eq_true_eq] at hold
        simp only [Bool.false_eq_true, if_false, Nat.add_zero]
        omega

/-- A step after which the loan has been lent once at most. -/
theorem Apart.move (h : Apart loan lends l) (ha : Accounted loan lends l)
    (hmove : Move loan l lent l') (hle : lends + (if lent then 1 else 0) ≤ 1) :
    Apart loan (lends + if lent then 1 else 0) l' := by
  cases hmove with
  | give _ next new uses hnext hnew hnodup huses =>
      have hfresh : ∀ i ∈ new, .disposed i ∉ l.log ∧ ∀ c ∈ l.held, i ∉ c := by
        intro i hi
        have hlow := (hnew i hi).1
        exact ⟨fun hmem => Nat.not_lt_of_le hlow (ha.disposed_lt i hmem),
          fun c hc hmem => Nat.not_lt_of_le hlow (ha.held_lt c hc i hmem)⟩
      have hchain : ∀ i ∈ new ++ (if lent then loan else []),
          .disposed i ∉ l.log ∧ ∀ c ∈ l.held, i ∉ c := by
        intro i hi
        rcases mem_chain hi with hi | ⟨hlent, hloan⟩
        · exact hfresh i hi
        · have hzero : lends = 0 := by
            rw [hlent, if_pos rfl] at hle
            omega
          exact h.loan hzero i hloan
      refine ⟨h.sound.used fun i hi => (hchain i (huses i hi)).1, ?_, ?_, ?_⟩
      · refine List.forall_mem_cons.2 ⟨fun i hi hmem => ?_, fun c hc i hi hmem => ?_⟩
        · exact (hchain i hi).1 (disposed_mem_used hmem)
        · exact h.live c hc i hi (disposed_mem_used hmem)
      · exact List.pairwise_cons.2 ⟨fun c hc i hi hmem => (hchain i hi).2 c hc hmem, h.disjoint⟩
      · intro hzero i hi
        obtain ⟨hlent, rfl⟩ : lent = false ∧ lends = 0 := by
          cases lent <;> simp at hzero ⊢
          exact hzero
        obtain ⟨hlog, hheld⟩ := h.loan rfl i hi
        refine ⟨fun hmem => hlog (disposed_mem_used hmem), List.forall_mem_cons.2 ⟨?_, hheld⟩⟩
        intro hmem
        rcases mem_chain hmem with hmem | ⟨htrue, -⟩
        · exact Nat.not_lt_of_le (hnew i hmem).1 (ha.loan_lt i hi)
        · rw [hlent] at htrue
          exact absurd htrue (by simp)
  | dispose chain hchain =>
      have hdisjoint : (chain :: l.held.erase chain).Pairwise List.Disjoint :=
        ((held_perm hchain).pairwise_iff fun hd => List.disjoint_symm hd).1
          h.disjoint
      obtain ⟨hother, hdisjoint⟩ := List.pairwise_cons.1 hdisjoint
      refine ⟨h.sound.disposed (ha.held_nodup chain hchain) (h.live chain hchain), ?_, hdisjoint,
        ?_⟩
      · intro c hc i hi hmem
        obtain hmem | hmem := disposed_mem_disposed.1 hmem
        · exact hother c hc hmem hi
        · exact h.live c (List.mem_of_mem_erase hc) i hi hmem
      · intro hzero i hi
        obtain ⟨hlog, hheld⟩ := h.loan (by simpa using hzero) i hi
        refine ⟨fun hmem => ?_, fun c hc => hheld c (List.mem_of_mem_erase hc)⟩
        obtain hmem | hmem := disposed_mem_disposed.1 hmem
        · exact hheld chain hchain hmem
        · exact hlog hmem

/-! ## Runs -/

/-- Nobody holds a chain yet, and the loan is there. -/
structure Unlent (loan : List ℕ) (l : Ledger) : Prop where
  nodup : loan.Nodup
  lt : ∀ i ∈ loan, i < l.next
  held : l.held = []
  log : l.log = []

theorem Unlent.accounted (h : Unlent loan l) : Accounted loan 0 l where
  loan_nodup := h.nodup
  loan_lt := h.lt
  held_nodup := by simp [h.held]
  held_lt := by simp [h.held]
  disposed_lt := by simp [h.log]
  lends := by simp [h.held, h.log]

theorem Unlent.apart (h : Unlent loan l) : Apart loan 0 l where
  sound := by
    rw [h.log]
    exact sound_nil
  live := by simp [h.held]
  disjoint := by simp [h.held]
  loan := by simp [h.held, h.log]

section Runs

variable {σ ε : Type*} {step : σ → ε → Option σ} {I : σ → Prop} (ledger : σ → Ledger)
  {lent : ε → Bool}

/-- A run of a system whose steps, under an invariant, are steps of the ledger. -/
theorem Accounted.exec
    (hstep : ∀ s e s', I s → step s e = some s' →
      I s' ∧ Move loan (ledger s) (lent e) (ledger s'))
    {es : List ε} {s t : σ} (hI : I s) (hs : Accounted loan lends (ledger s))
    (ht : Run.exec step s es = some t) : Accounted loan (lends + es.countP lent) (ledger t) := by
  induction es generalizing s lends with
  | nil =>
      rw [Run.exec_nil, Option.some.injEq] at ht
      exact ht ▸ hs
  | cons e es ih =>
      obtain ⟨s', hs', ht'⟩ := (Run.exec_cons_eq_some step s t e es).1 ht
      obtain ⟨hI', hmove⟩ := hstep s e s' hI hs'
      have hrest := ih hI' (hs.move hmove) ht'
      rwa [List.countP_cons, Nat.add_comm (es.countP lent), ← Nat.add_assoc]

/-- While the loan has been lent once at most, nothing is disposed twice or used afterwards. -/
theorem Apart.exec
    (hstep : ∀ s e s', I s → step s e = some s' →
      I s' ∧ Move loan (ledger s) (lent e) (ledger s'))
    {es : List ε} {s t : σ} (hI : I s) (hs : Apart loan lends (ledger s))
    (ha : Accounted loan lends (ledger s)) (hle : lends + es.countP lent ≤ 1)
    (ht : Run.exec step s es = some t) : Sound (ledger t).log := by
  induction es generalizing s lends with
  | nil =>
      rw [Run.exec_nil, Option.some.injEq] at ht
      exact ht ▸ hs.sound
  | cons e es ih =>
      obtain ⟨s', hs', ht'⟩ := (Run.exec_cons_eq_some step s t e es).1 ht
      obtain ⟨hI', hmove⟩ := hstep s e s' hI hs'
      rw [List.countP_cons, Nat.add_comm (es.countP lent), ← Nat.add_assoc] at hle
      have hnow := Nat.le_trans (Nat.le_add_right _ _) hle
      exact ih hI' (hs.move ha hmove hnow) (ha.move hmove) hle ht'

/-- Once all chains have been disposed, the log is sound only if the loan has been lent once at
    most. -/
theorem Accounted.lent_once (ha : Accounted loan lends l) (hloan : loan ≠ [])
    (hheld : ∀ chain ∈ l.held, chain = []) (hsound : Sound l.log) : lends ≤ 1 := by
  obtain ⟨i, hi⟩ := List.exists_mem_of_ne_nil loan hloan
  have hcount : l.held.countP (i ∈ ·) = 0 := by
    refine List.countP_eq_zero.2 fun chain hchain => ?_
    simp [hheld chain hchain]
  calc lends = l.log.count (.disposed i) + l.held.countP (i ∈ ·) := (ha.lends i hi).symm
    _ = l.log.count (.disposed i) := by rw [hcount, Nat.add_zero]
    _ ≤ 1 := hsound.count_le_one i

/-- **Lending rule.** In a run that starts before the loan was lent, the log is sound if the loan is
    lent once at most; and if every chain handed out has been disposed, only if. -/
theorem sound_iff_lent_once
    (hstep : ∀ s e s', I s → step s e = some s' →
      I s' ∧ Move loan (ledger s) (lent e) (ledger s'))
    {es : List ε} {s t : σ} (hI : I s) (hs : Unlent loan (ledger s)) (hloan : loan ≠ [])
    (ht : Run.exec step s es = some t) :
    (es.countP lent ≤ 1 → Sound (ledger t).log) ∧
    ((∀ chain ∈ (ledger t).held, chain = []) →
      (Sound (ledger t).log ↔ es.countP lent ≤ 1)) := by
  have honce : es.countP lent ≤ 1 → Sound (ledger t).log := fun hle =>
    hs.apart.exec ledger hstep hI hs.accounted (by simpa using hle) ht
  refine ⟨honce, fun hheld => ⟨fun hsound => ?_, honce⟩⟩
  have haccounted := hs.accounted.exec ledger hstep hI ht
  rw [Nat.zero_add] at haccounted
  exact haccounted.lent_once hloan hheld hsound

end Runs

end Ownership
