import DtmcLinux.Dtcore.Dterr
import DtmcLinux.Foundation.Ownership

set_option autoImplicit false

/-! # Error objects

`dterr_new` allocates an object that keeps the pointer to its inner error, and `dterr_dispose` frees
the object it is given together with the whole chain behind it. A pointer to a chain is what the
chain reads as together with the numbers of its objects; a ledger keeps the allocations and the uses
of the objects. -/

open Ownership

/-- A pointer to an error, with the objects of its chain, the newest first. -/
structure DterrPtr where
  value : Dterr
  objects : List ℕ
  deriving DecidableEq

/-- The number of objects of a chain. -/
def Dterr.length : Dterr → ℕ
  | .new _ _ => 1
  | .chain _ inner _ => inner.length + 1
  | .rechain inner _ => inner.length + 1
  | .assertNotNull _ => 1

theorem Dterr.length_pos (dterr : Dterr) : 0 < dterr.length := by
  cases dterr <;> simp [Dterr.length]

/-- The objects of a chain; `NULL` has none. -/
def DterrPtr.objectsOf : Option DterrPtr → List ℕ
  | none => []
  | some p => p.objects

/-- What a pointer reads as. -/
def DterrPtr.valueOf (p : Option DterrPtr) : Option Dterr := p.map DterrPtr.value

namespace Ownership.Ledger

/-- An error that the called function has made. -/
def fresh (l : Ledger) (dterr : Dterr) : Ledger × DterrPtr :=
  ({ l with next := l.next + dterr.length },
    { value := dterr, objects := List.range' l.next dterr.length })

/-- An error, or `NULL`, that the called function has made. -/
def freshOpt (l : Ledger) : Option Dterr → Ledger × Option DterrPtr
  | none => (l, none)
  | some dterr => ((l.fresh dterr).1, some (l.fresh dterr).2)

/-- The objects have been used. -/
def touch (l : Ledger) (objects : List ℕ) : Ledger :=
  { l with log := objects.map .used ++ l.log }

/-- `dterr_new(code, DTERR_LOC, inner, message)`. -/
def dterrNew (l : Ledger) (code : DterrCode) (inner : Option DterrPtr) (message : String) :
    Ledger × DterrPtr :=
  ({ l.touch (DterrPtr.objectsOf inner) with next := l.next + 1 },
    { value := .wrap code (DterrPtr.valueOf inner) message
      objects := l.next :: DterrPtr.objectsOf inner })

/-- `dterr_append(dterr, tail)`, where both may be `NULL`. -/
def dterrAppend (l : Ledger) (dterr tail : Option DterrPtr) : Ledger × Option DterrPtr :=
  match dterr, tail with
  | none, tail => (l, tail)
  | some dterr, none => (l, some dterr)
  | some dterr, some tail =>
    (l.touch (dterr.objects ++ tail.objects),
      some { value := dterr.value.append tail.value, objects := dterr.objects ++ tail.objects })

/-- The caller is given the error, or `NULL`. -/
def giveBack (l : Ledger) (dterr : Option DterrPtr) : Ledger :=
  { l.touch (DterrPtr.objectsOf dterr) with held := DterrPtr.objectsOf dterr :: l.held }

/-- `dterr_dispose` of a chain. -/
def dterrDispose (l : Ledger) (chain : List ℕ) : Ledger :=
  { l with log := chain.map .disposed ++ l.log }

/-- A caller disposes a chain that it holds. -/
def disposeHeld (l : Ledger) (chain : List ℕ) : Ledger :=
  { l.dterrDispose chain with held := l.held.erase chain }

/-- No object yet. -/
def empty : Ledger where
  next := 0
  held := []
  log := []

end Ownership.Ledger

/-- An error that some function has made and still owns. -/
theorem Ownership.unlent_fresh (dterr : Dterr) :
    Unlent (Ledger.empty.fresh dterr).2.objects (Ledger.empty.fresh dterr).1 where
  nodup := List.nodup_range'
  lt i hi := by
    have h := List.mem_range'_1.1 hi
    simpa [Ledger.fresh, Ledger.empty] using h.2
  held := rfl
  log := rfl

theorem Ownership.fresh_objects_ne_nil (l : Ledger) (dterr : Dterr) :
    (l.fresh dterr).2.objects ≠ [] := by
  have h := dterr.length_pos
  intro hnil
  have hlength : (List.range' l.next dterr.length).length = 0 := congrArg List.length hnil
  rw [List.length_range'] at hlength
  omega

/-! ## What a call does to the ledger -/

namespace Ownership

/-- A call that began at `l` has come to `l'`: it has made the objects `new`, and has used none but
    these and those of `lent`. -/
structure Makes (lent : List ℕ) (l l' : Ledger) (new : List ℕ) : Prop where
  held : l'.held = l.held
  next_le : l.next ≤ l'.next
  new_range : ∀ i ∈ new, l.next ≤ i ∧ i < l'.next
  nodup : new.Nodup
  log : ∃ uses : List ℕ, l'.log = uses.map .used ++ l.log ∧ ∀ i ∈ uses, i ∈ new ∨ i ∈ lent

variable {lent loan : List ℕ} {l l' l'' : Ledger}

theorem Makes.refl (lent : List ℕ) (l : Ledger) : Makes lent l l [] where
  held := rfl
  next_le := Nat.le_refl _
  new_range _ h := absurd h List.not_mem_nil
  nodup := List.nodup_nil
  log := ⟨[], rfl, fun _ h => absurd h List.not_mem_nil⟩

theorem Makes.trans {new new' : List ℕ} (h : Makes lent l l' new) (h' : Makes lent l' l'' new') :
    Makes lent l l'' (new ++ new') where
  held := h'.held.trans h.held
  next_le := Nat.le_trans h.next_le h'.next_le
  new_range i hi := by
    rcases List.mem_append.1 hi with hi | hi
    · exact ⟨(h.new_range i hi).1, Nat.lt_of_lt_of_le (h.new_range i hi).2 h'.next_le⟩
    · exact ⟨Nat.le_trans h.next_le (h'.new_range i hi).1, (h'.new_range i hi).2⟩
  nodup := by
    refine List.nodup_append.2 ⟨h.nodup, h'.nodup, fun i hi k hk heq => ?_⟩
    have hlt := (h.new_range i hi).2
    have hle := (h'.new_range k hk).1
    omega
  log := by
    obtain ⟨uses, hlog, huses⟩ := h.log
    obtain ⟨uses', hlog', huses'⟩ := h'.log
    refine ⟨uses' ++ uses, by rw [hlog', hlog, List.map_append, List.append_assoc], fun i hi => ?_⟩
    rcases List.mem_append.1 hi with hi | hi
    · exact (huses' i hi).imp_left (List.mem_append_right new)
    · exact (huses i hi).imp_left (List.mem_append_left new')

/-- The objects just made, and those of `lent`, may be used. -/
theorem Makes.touch {new objects : List ℕ} (h : Makes lent l l' new)
    (hobjects : ∀ i ∈ objects, i ∈ new ∨ i ∈ lent) : Makes lent l (l'.touch objects) new where
  held := h.held
  next_le := h.next_le
  new_range := h.new_range
  nodup := h.nodup
  log := by
    obtain ⟨uses, hlog, huses⟩ := h.log
    refine ⟨objects ++ uses, by simp [Ledger.touch, hlog], fun i hi => ?_⟩
    rcases List.mem_append.1 hi with hi | hi
    · exact hobjects i hi
    · exact huses i hi

theorem Makes.fresh (lent : List ℕ) (l : Ledger) (dterr : Dterr) :
    Makes lent l (l.fresh dterr).1 (l.fresh dterr).2.objects where
  held := rfl
  next_le := Nat.le_add_right _ _
  new_range i hi := List.mem_range'_1.1 hi
  nodup := List.nodup_range'
  log := ⟨[], rfl, fun _ h => absurd h List.not_mem_nil⟩

theorem Makes.freshOpt (lent : List ℕ) (l : Ledger) (dterr : Option Dterr) :
    Makes lent l (l.freshOpt dterr).1 (DterrPtr.objectsOf (l.freshOpt dterr).2) := by
  cases dterr with
  | none => exact .refl lent l
  | some dterr => exact .fresh lent l dterr

/-- A new error in front of one of the call or of the loan. -/
theorem Makes.dterrNew {new : List ℕ} (h : Makes lent l l' new) (code : DterrCode)
    (inner : Option DterrPtr) (message : String)
    (hinner : ∀ i ∈ DterrPtr.objectsOf inner, i ∈ new ∨ i ∈ lent) :
    Makes lent l (l'.dterrNew code inner message).1 (l'.next :: new) where
  held := h.held
  next_le := Nat.le_succ_of_le h.next_le
  new_range i hi := by
    rcases List.mem_cons.1 hi with rfl | hi
    · exact ⟨h.next_le, Nat.lt_succ_self _⟩
    · exact ⟨(h.new_range i hi).1, Nat.lt_succ_of_lt (h.new_range i hi).2⟩
  nodup := by
    refine List.nodup_cons.2 ⟨fun hmem => ?_, h.nodup⟩
    exact Nat.lt_irrefl _ (h.new_range _ hmem).2
  log := by
    obtain ⟨uses, hlog, huses⟩ := (h.touch hinner).log
    exact ⟨uses, hlog, fun i hi => (huses i hi).imp_left (List.mem_cons_of_mem _)⟩

/-- An error of the call in front, and behind it one that ends with the loan. -/
theorem Makes.dterrAppend {new : List ℕ} {dterr : Option DterrPtr}
    (h : Makes lent l l' (DterrPtr.objectsOf dterr ++ new)) (tail : DterrPtr)
    (htail : tail.objects = new ++ lent) :
    Makes lent l (l'.dterrAppend dterr (some tail)).1 (DterrPtr.objectsOf dterr ++ new) ∧
      DterrPtr.objectsOf (l'.dterrAppend dterr (some tail)).2
        = (DterrPtr.objectsOf dterr ++ new) ++ lent := by
  cases dterr with
  | none => exact ⟨h, htail⟩
  | some dterr =>
      refine ⟨h.touch fun i hi => ?_, ?_⟩
      · rw [htail, ← List.append_assoc] at hi
        exact List.mem_append.1 hi
      · rw [List.append_assoc, ← htail]
        rfl

/-- A call that returns what it has made, with the loan behind it or not. -/
theorem Makes.giveBack {new : List ℕ} {isLent : Bool} (h : Makes lent l l' new)
    (hlent : lent = if isLent then loan else []) (dterr : Option DterrPtr)
    (hobjects : DterrPtr.objectsOf dterr = new ++ lent) :
    Move loan l isLent (l'.giveBack dterr) := by
  obtain ⟨uses, hlog, huses⟩ := h.log
  have hall : ∀ i ∈ DterrPtr.objectsOf dterr ++ uses, i ∈ new ++ lent := by
    intro i hi
    rcases List.mem_append.1 hi with hi | hi
    · exact hobjects ▸ hi
    · exact List.mem_append.2 (huses i hi)
  subst hlent
  have hmove := Move.give (l := l) isLent l'.next new _ h.next_le h.new_range h.nodup hall
  have hend : l'.giveBack dterr =
      { next := l'.next
        held := (new ++ if isLent then loan else []) :: l.held
        log := (DterrPtr.objectsOf dterr ++ uses).map .used ++ l.log } := by
    rw [List.map_append, List.append_assoc, ← hlog, ← hobjects, ← h.held]
    rfl
  rw [hend]
  exact hmove

end Ownership
