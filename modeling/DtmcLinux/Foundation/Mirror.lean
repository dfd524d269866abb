import Mathlib.Data.Set.Insert
import Mathlib.Logic.Function.Basic

set_option autoImplicit false

/-! # Copies that are refreshed on request

Writers change the cells of a source one by one, and somebody copies them, one by one and with no lock,
when he is asked to. A history tells for every cell which values it has had since the last request. A
copy is fresh up to some stale cells when every other cell of it holds a value of the history: it may
be torn, but no cell of it is older than the request. -/

namespace Mirror

variable {ι α : Type*}

/-- For every cell the values it has had since a moment, the latest one first. -/
abbrev History (ι α : Type*) := ι → List α

/-- The history that begins now. -/
def History.start (source : ι → α) : History ι α := fun i => [source i]

/-- A cell gets a value. -/
def History.note [DecidableEq ι] (history : History ι α) (i : ι) (v : α) : History ι α :=
  Function.update history i (v :: history i)

/-- The history reaches up to now. -/
def Tracks (history : History ι α) (source : ι → α) : Prop := ∀ i, source i ∈ history i

/-- Every cell that is not stale has a value of the history. -/
def Fresh (history : History ι α) (stale : Set ι) (copy : ι → α) : Prop :=
  ∀ i, i ∉ stale → copy i ∈ history i

theorem tracks_start (source : ι → α) : Tracks (.start source) source := fun _ =>
  List.mem_singleton.2 rfl

/-- Nothing has been written: a fresh copy is the source. -/
theorem Fresh.eq_of_start {source copy : ι → α} (h : Fresh (.start source) ∅ copy) : copy = source := by
  funext i
  exact List.mem_singleton.1 (h i (Set.notMem_empty i))

theorem fresh_univ (history : History ι α) (copy : ι → α) : Fresh history Set.univ copy :=
  fun i hi => absurd (Set.mem_univ i) hi

section

variable [DecidableEq ι] {history : History ι α} {source copy : ι → α} {stale : Set ι}

theorem mem_note {i j : ι} {v w : α} (h : w ∈ history j) : w ∈ history.note i v j := by
  by_cases hij : j = i
  · subst hij
    rw [History.note, Function.update_self]
    exact List.mem_cons_of_mem _ h
  · rw [History.note, Function.update_of_ne hij]
    exact h

/-- A write of the source. -/
theorem Tracks.write (h : Tracks history source) (i : ι) (v : α) :
    Tracks (history.note i v) (Function.update source i v) := by
  intro j
  by_cases hij : j = i
  · subst hij
    rw [History.note, Function.update_self, Function.update_self]
    exact List.mem_cons_self
  · rw [Function.update_of_ne hij]
    exact mem_note (h j)

/-- A write of the source leaves a copy as fresh as it was. -/
theorem Fresh.write (h : Fresh history stale copy) (i : ι) (v : α) :
    Fresh (history.note i v) stale copy := fun j hj => mem_note (h j hj)

/-- A cell is copied: it is no longer stale. -/
theorem Fresh.copyCell (h : Fresh history stale copy) (htracks : Tracks history source) (i : ι) :
    Fresh history (stale \ {i}) (Function.update copy i (source i)) := by
  intro j hj
  by_cases hij : j = i
  · subst hij
    rw [Function.update_self]
    exact htracks j
  · rw [Function.update_of_ne hij]
    exact h j fun hstale => hj ⟨hstale, hij⟩

end

end Mirror
