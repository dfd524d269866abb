import Mathlib.Data.List.Basic
import Mathlib.Order.Basic

set_option autoImplicit false

/-! # Reported gaps

A lossy stream: elements at increasing positions are dropped or returned, and now and then the
consumer is told that something was dropped. Every gap is reported when such a report stands between
a drop and every return from a later position. Traces are kept with the newest observation first. -/

namespace GapReport

/-- What happens at the consumer's end: the element at a position is dropped, or returned with its
    value, or a loss is reported. -/
inductive Obs (ι β : Type*) where
  | dropped (i : ι)
  | returned (i : ι) (b : β)
  | report
  deriving DecidableEq

variable {ι β : Type*}

/-- The positions dropped since the last report. -/
def unreported : List (Obs ι β) → List ι
  | [] => []
  | .dropped i :: t => i :: unreported t
  | .returned _ _ :: t => unreported t
  | .report :: _ => []

@[simp] theorem unreported_nil : unreported ([] : List (Obs ι β)) = [] := rfl

@[simp] theorem unreported_dropped (i : ι) (t : List (Obs ι β)) :
    unreported (.dropped i :: t) = i :: unreported t := rfl

@[simp] theorem unreported_returned (i : ι) (b : β) (t : List (Obs ι β)) :
    unreported (.returned i b :: t) = unreported t := rfl

@[simp] theorem unreported_report (t : List (Obs ι β)) : unreported (.report :: t) = [] := rfl

/-- A position is unreported when nothing after its drop is a report. -/
theorem mem_unreported {i : ι} {t : List (Obs ι β)} :
    i ∈ unreported t ↔ ∃ after before, t = after ++ .dropped i :: before ∧ .report ∉ after := by
  induction t with
  | nil => simp
  | cons o t ih =>
      constructor
      · intro h
        cases o with
        | dropped k =>
            rcases List.mem_cons.1 h with rfl | h
            · exact ⟨[], t, rfl, by simp⟩
            · obtain ⟨after, before, rfl, hr⟩ := ih.1 h
              exact ⟨.dropped k :: after, before, rfl, by simpa using hr⟩
        | returned k b =>
            obtain ⟨after, before, rfl, hr⟩ := ih.1 h
            exact ⟨.returned k b :: after, before, rfl, by simpa using hr⟩
        | report => exact absurd h (by simp)
      · rintro ⟨after, before, heq, hr⟩
        cases after with
        | nil =>
            obtain ⟨rfl, rfl⟩ := List.cons.inj heq
            exact List.mem_cons_self
        | cons o' after =>
            obtain ⟨rfl, rfl⟩ := List.cons.inj heq
            have hin := ih.2 ⟨after, before, rfl, fun h => hr (List.mem_cons_of_mem _ h)⟩
            cases o with
            | dropped k => exact List.mem_cons_of_mem _ hin
            | returned k b => exact hin
            | report => exact absurd List.mem_cons_self hr

/-- Every gap is reported before anything after it is returned. -/
def GapsReported [LT ι] (t : List (Obs ι β)) : Prop :=
  ∀ after between before i j b, t = after ++ .returned j b :: (between ++ .dropped i :: before) →
    i < j → .report ∈ between

theorem gapsReported_nil [LT ι] : GapsReported ([] : List (Obs ι β)) := by
  intro after between before i j b h
  exact absurd h (by simp)

/-- Only a return can break it. -/
theorem gapsReported_returned [LT ι] {j : ι} {b : β} {t : List (Obs ι β)} :
    GapsReported (.returned j b :: t) ↔ GapsReported t ∧ ∀ i ∈ unreported t, ¬i < j := by
  constructor
  · intro h
    refine ⟨fun after between before i k c heq hlt => ?_, fun i hi hlt => ?_⟩
    · exact h (.returned j b :: after) between before i k c (by rw [heq]; rfl) hlt
    · obtain ⟨between, before, rfl, hr⟩ := mem_unreported.1 hi
      exact hr (h [] between before i j b rfl hlt)
  · rintro ⟨ht, hun⟩ after between before i k c heq hlt
    cases after with
    | nil =>
        obtain ⟨hret, rfl⟩ := List.cons.inj heq
        obtain ⟨rfl, rfl⟩ := Obs.returned.inj hret
        by_contra hr
        exact hun i (mem_unreported.2 ⟨between, before, rfl, hr⟩) hlt
    | cons o after =>
        obtain ⟨-, rfl⟩ := List.cons.inj heq
        exact ht after between before i k c rfl hlt

theorem GapsReported.tail [LT ι] {o : Obs ι β} {t : List (Obs ι β)} (h : GapsReported (o :: t)) :
    GapsReported t :=
  fun after between before i j b heq => h (o :: after) between before i j b (by rw [heq]; rfl)

theorem gapsReported_cons [LT ι] {o : Obs ι β} {t : List (Obs ι β)}
    (ho : ∀ j b, o ≠ .returned j b) : GapsReported (o :: t) ↔ GapsReported t := by
  refine ⟨fun h => h.tail, fun h after between before i j b heq hlt => ?_⟩
  cases after with
  | nil =>
      obtain ⟨hret, -⟩ := List.cons.inj heq
      exact absurd hret (ho j b)
  | cons o' after =>
      obtain ⟨-, rfl⟩ := List.cons.inj heq
      exact h after between before i j b rfl hlt

/-! ## Several observations at once -/

/-- The elements at `is` are dropped, in order. -/
def dropAll (t : List (Obs ι β)) (is : List ι) : List (Obs ι β) :=
  is.foldl (fun t i => .dropped i :: t) t

/-- The elements in `rs` are returned, in order. -/
def returnAll (t : List (Obs ι β)) (rs : List (ι × β)) : List (Obs ι β) :=
  rs.foldl (fun t r => .returned r.1 r.2 :: t) t

/-- The values returned, oldest first. -/
def values : List (Obs ι β) → List β
  | [] => []
  | .dropped _ :: t => values t
  | .returned _ b :: t => values t ++ [b]
  | .report :: t => values t

@[simp] theorem values_report (t : List (Obs ι β)) : values (.report :: t) = values t := rfl

theorem mem_unreported_dropAll {i : ι} {is : List ι} {t : List (Obs ι β)} :
    i ∈ unreported (dropAll t is) ↔ i ∈ is ∨ i ∈ unreported t := by
  induction is generalizing t with
  | nil => simp [dropAll]
  | cons k is ih =>
      rw [dropAll, List.foldl_cons, ← dropAll, ih, unreported_dropped, List.mem_cons, List.mem_cons]
      constructor
      · rintro (h | h | h)
        · exact Or.inl (Or.inr h)
        · exact Or.inl (Or.inl h)
        · exact Or.inr h
      · rintro ((h | h) | h)
        · exact Or.inr (Or.inl h)
        · exact Or.inl h
        · exact Or.inr (Or.inr h)

theorem mem_dropAll_returned {j : ι} {b : β} {is : List ι} {t : List (Obs ι β)} :
    .returned j b ∈ dropAll t is ↔ .returned j b ∈ t := by
  induction is generalizing t with
  | nil => rfl
  | cons k is ih =>
      rw [dropAll, List.foldl_cons, ← dropAll, ih, List.mem_cons]
      simp

theorem mem_returnAll {o : Obs ι β} {rs : List (ι × β)} {t : List (Obs ι β)} :
    o ∈ returnAll t rs ↔ (∃ r ∈ rs, o = .returned r.1 r.2) ∨ o ∈ t := by
  induction rs generalizing t with
  | nil => simp [returnAll]
  | cons r rs ih =>
      rw [returnAll, List.foldl_cons, ← returnAll, ih, List.mem_cons]
      constructor
      · rintro (⟨r', hr', rfl⟩ | h | h)
        · exact Or.inl ⟨r', List.mem_cons_of_mem _ hr', rfl⟩
        · exact Or.inl ⟨r, List.mem_cons_self, h⟩
        · exact Or.inr h
      · rintro (⟨r', hr', rfl⟩ | h)
        · rcases List.mem_cons.1 hr' with rfl | hr'
          · exact Or.inr (Or.inl rfl)
          · exact Or.inl ⟨r', hr', rfl⟩
        · exact Or.inr (Or.inr h)

theorem gapsReported_dropAll [LT ι] {is : List ι} {t : List (Obs ι β)} :
    GapsReported (dropAll t is) ↔ GapsReported t := by
  induction is generalizing t with
  | nil => rfl
  | cons k is ih =>
      rw [dropAll, List.foldl_cons, ← dropAll, ih]
      exact gapsReported_cons fun _ _ => by simp

@[simp] theorem values_dropAll {is : List ι} {t : List (Obs ι β)} :
    values (dropAll t is) = values t := by
  induction is generalizing t with
  | nil => rfl
  | cons k is ih =>
      rw [dropAll, List.foldl_cons, ← dropAll, ih]
      rfl

@[simp] theorem unreported_returnAll {rs : List (ι × β)} {t : List (Obs ι β)} :
    unreported (returnAll t rs) = unreported t := by
  induction rs generalizing t with
  | nil => rfl
  | cons r rs ih =>
      rw [returnAll, List.foldl_cons, ← returnAll, ih]
      rfl

theorem gapsReported_returnAll [LT ι] {rs : List (ι × β)} {t : List (Obs ι β)} :
    GapsReported (returnAll t rs) ↔
      GapsReported t ∧ ∀ r ∈ rs, ∀ i ∈ unreported t, ¬i < r.1 := by
  induction rs generalizing t with
  | nil => simp [returnAll]
  | cons r rs ih =>
      rw [returnAll, List.foldl_cons, ← returnAll, ih, gapsReported_returned, unreported_returned,
        List.forall_mem_cons, and_assoc]

theorem values_returnAll {rs : List (ι × β)} {t : List (Obs ι β)} :
    values (returnAll t rs) = values t ++ rs.map (·.2) := by
  induction rs generalizing t with
  | nil => simp [returnAll]
  | cons r rs ih =>
      rw [returnAll, List.foldl_cons, ← returnAll, ih, values, List.map_cons, List.append_assoc]
      rfl

end GapReport
