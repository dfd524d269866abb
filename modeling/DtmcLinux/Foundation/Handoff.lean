import Mathlib.Data.List.Basic

set_option autoImplicit false

/-! # Handing resources over

A dispatcher takes in resources one at a time, numbered in order. It releases the one it holds
itself, or hands it to a new worker, who releases it later. `Handoff` is the invariant of this
pattern: every resource is with the dispatcher, with one worker, or released, and no resource is
released twice. -/

/-- Who releases a resource: the dispatcher, or the worker with the given number. -/
inductive Party where
  | dispatcher
  | worker (i : ℕ)
  deriving DecidableEq

/-- The resources that were released. -/
def released (log : List (Party × ℕ)) : List ℕ := log.map Prod.snd

@[simp] theorem released_cons (who : Party) (r : ℕ) (log : List (Party × ℕ)) :
    released ((who, r) :: log) = r :: released log := rfl

/-- **The invariant.** `owners` gives for each worker its resource and whether the worker still has
    it, `held` the resource the dispatcher holds, `count` the number of resources taken in, and `log`
    the releases. -/
structure Handoff (owners : List (ℕ × Bool)) (held : Option ℕ) (count : ℕ)
    (log : List (Party × ℕ)) : Prop where
  owned_lt : ∀ o ∈ owners, o.1 < count
  distinct : ∀ (i j : ℕ) (a b : ℕ × Bool), owners[i]? = some a → owners[j]? = some b →
    a.1 = b.1 → i = j
  released_iff : ∀ o ∈ owners, o.1 ∈ released log ↔ o.2 = false
  heldOk : ∀ r, held = some r → r < count ∧ r ∉ released log ∧ ∀ o ∈ owners, o.1 ≠ r
  covered : ∀ r < count, r ∈ released log ∨ held = some r ∨ ∃ o ∈ owners, o.1 = r
  released_lt : ∀ r ∈ released log, r < count
  nodup : (released log).Nodup
  byDispatcher : ∀ r, (Party.dispatcher, r) ∈ log → ∀ o ∈ owners, o.1 ≠ r
  byWorker : ∀ i r, (Party.worker i, r) ∈ log → ∃ b, owners[i]? = some (r, b)

namespace Handoff

variable {owners : List (ℕ × Bool)} {held : Option ℕ} {count : ℕ} {log : List (Party × ℕ)}

theorem start : Handoff [] none 0 [] where
  owned_lt _ h := absurd h List.not_mem_nil
  distinct _ _ _ _ h := absurd h (by simp)
  released_iff _ h := absurd h List.not_mem_nil
  heldOk _ h := absurd h (by simp)
  covered r h := absurd h (Nat.not_lt_zero r)
  released_lt _ h := absurd h List.not_mem_nil
  nodup := List.nodup_nil
  byDispatcher _ h := absurd h List.not_mem_nil
  byWorker _ _ h := absurd h List.not_mem_nil

/-- A new resource is taken in. -/
theorem accept (h : Handoff owners none count log) :
    Handoff owners (some count) (count + 1) log where
  owned_lt o ho := Nat.lt_succ_of_lt (h.owned_lt o ho)
  distinct := h.distinct
  released_iff := h.released_iff
  heldOk := by
    rintro r hr
    obtain rfl := Option.some.inj hr
    refine ⟨Nat.lt_succ_self _, fun hmem => ?_, fun o ho heq => ?_⟩
    · exact absurd (h.released_lt _ hmem) (Nat.lt_irrefl _)
    · exact absurd (heq ▸ h.owned_lt o ho) (Nat.lt_irrefl _)
  covered r hr := by
    by_cases hlast : r = count
    · exact Or.inr (Or.inl (by rw [hlast]))
    · rcases h.covered r (by omega) with hrel | hheld | howned
      · exact Or.inl hrel
      · exact absurd hheld (by simp)
      · exact Or.inr (Or.inr howned)
  released_lt r hr := Nat.lt_succ_of_lt (h.released_lt r hr)
  nodup := h.nodup
  byDispatcher := h.byDispatcher
  byWorker := h.byWorker

/-- The dispatcher hands the resource it holds to a new worker. -/
theorem give {r : ℕ} (h : Handoff owners (some r) count log) :
    Handoff (owners ++ [(r, true)]) none count log := by
  obtain ⟨hlt, hunreleased, hnew⟩ := h.heldOk r rfl
  have hmem : ∀ o ∈ owners ++ [(r, true)], o ∈ owners ∨ o = (r, true) := fun o ho =>
    (List.mem_append.1 ho).imp id List.mem_singleton.1
  -- an entry of the new list is an old one or the last
  have hget : ∀ (i : ℕ) (a : ℕ × Bool), (owners ++ [(r, true)])[i]? = some a →
      owners[i]? = some a ∨ i = owners.length ∧ a = (r, true) := by
    intro i a ha
    by_cases hi : i < owners.length
    · rw [List.getElem?_append_left hi] at ha
      exact Or.inl ha
    · have hle := (List.getElem?_eq_some_iff.1 ha).1
      rw [List.length_append, List.length_singleton] at hle
      obtain rfl : i = owners.length := by omega
      rw [List.getElem?_concat_length] at ha
      exact Or.inr ⟨rfl, (Option.some.inj ha).symm⟩
  refine {
    owned_lt := ?_, distinct := ?_, released_iff := ?_, heldOk := fun _ hr => absurd hr (by simp)
    covered := ?_, released_lt := h.released_lt, nodup := h.nodup, byDispatcher := ?_
    byWorker := ?_ }
  · intro o ho
    rcases hmem o ho with ho | rfl
    · exact h.owned_lt o ho
    · exact hlt
  · intro i j a b ha hb heq
    rcases hget i a ha with ha | ⟨rfl, rfl⟩
    · rcases hget j b hb with hb | ⟨rfl, rfl⟩
      · exact h.distinct i j a b ha hb heq
      · exact absurd heq (hnew a (List.mem_of_getElem? ha))
    · rcases hget j b hb with hb | ⟨rfl, rfl⟩
      · exact absurd heq.symm (hnew b (List.mem_of_getElem? hb))
      · rfl
  · intro o ho
    rcases hmem o ho with ho | rfl
    · exact h.released_iff o ho
    · exact ⟨fun hrel => absurd hrel hunreleased, fun hfalse => absurd hfalse (by simp)⟩
  · intro r' hr'
    rcases h.covered r' hr' with hrel | hheld | ⟨o, ho, hor⟩
    · exact Or.inl hrel
    · obtain rfl := Option.some.inj hheld
      exact Or.inr (Or.inr ⟨(r, true), by simp, rfl⟩)
    · exact Or.inr (Or.inr ⟨o, List.mem_append_left _ ho, hor⟩)
  · intro r' hlog o ho
    rcases hmem o ho with ho | rfl
    · exact h.byDispatcher r' hlog o ho
    · rintro rfl
      exact hunreleased (List.mem_map_of_mem hlog)
  · intro i r' hlog
    obtain ⟨b, hb⟩ := h.byWorker i r' hlog
    exact ⟨b, by rw [List.getElem?_append_left (List.getElem?_eq_some_iff.1 hb).1, hb]⟩

/-- The dispatcher releases the resource it holds. -/
theorem releaseHeld {r : ℕ} (h : Handoff owners (some r) count log) :
    Handoff owners none count ((.dispatcher, r) :: log) := by
  obtain ⟨hlt, hunreleased, hnew⟩ := h.heldOk r rfl
  refine {
    owned_lt := h.owned_lt, distinct := h.distinct, released_iff := ?_
    heldOk := fun _ hr => absurd hr (by simp), covered := ?_, released_lt := ?_
    nodup := List.nodup_cons.2 ⟨hunreleased, h.nodup⟩, byDispatcher := ?_, byWorker := ?_ }
  · intro o ho
    rw [released_cons, List.mem_cons, ← h.released_iff o ho]
    exact ⟨fun hrel => hrel.resolve_left (hnew o ho), Or.inr⟩
  · intro r' hr'
    rw [released_cons, List.mem_cons]
    rcases h.covered r' hr' with hrel | hheld | howned
    · exact Or.inl (Or.inr hrel)
    · exact Or.inl (Or.inl (Option.some.inj hheld).symm)
    · exact Or.inr (Or.inr howned)
  · intro r' hr'
    rcases List.mem_cons.1 hr' with rfl | hr'
    · exact hlt
    · exact h.released_lt r' hr'
  · intro r' hlog o ho
    rcases List.mem_cons.1 hlog with heq | hlog
    · obtain ⟨-, rfl⟩ := Prod.mk.inj heq
      exact hnew o ho
    · exact h.byDispatcher r' hlog o ho
  · intro i r' hlog
    rcases List.mem_cons.1 hlog with heq | hlog
    · exact absurd (Prod.mk.inj heq).1 (by simp)
    · exact h.byWorker i r' hlog

/-- An entry of the list after a release has the resource of the old one at its place. -/
theorem getElem?_release {i r : ℕ} (hi : owners[i]? = some (r, true)) {j : ℕ} {a : ℕ × Bool}
    (ha : (owners.set i (r, false))[j]? = some a) :
    ∃ a₀, owners[j]? = some a₀ ∧ a₀.1 = a.1 ∧ (j ≠ i → a₀ = a) ∧ (j = i → a = (r, false)) := by
  by_cases hij : i = j
  · subst hij
    rw [List.getElem?_set_self (List.getElem?_eq_some_iff.1 hi).1] at ha
    obtain rfl := Option.some.inj ha
    exact ⟨_, hi, rfl, fun hne => absurd rfl hne, fun _ => rfl⟩
  · rw [List.getElem?_set_ne hij] at ha
    exact ⟨a, ha, rfl, fun _ => rfl, fun heq => absurd heq.symm hij⟩

/-- A release leaves the resources that are owned or were. -/
theorem mem_release {i r : ℕ} (hi : owners[i]? = some (r, true)) {o : ℕ × Bool}
    (ho : o ∈ owners.set i (r, false)) : ∃ o₀ ∈ owners, o₀.1 = o.1 := by
  obtain ⟨j, hj⟩ := List.mem_iff_getElem?.1 ho
  obtain ⟨a₀, ha₀, heq, -⟩ := getElem?_release hi hj
  exact ⟨a₀, List.mem_of_getElem? ha₀, heq⟩

/-- A worker releases its resource. -/
theorem releaseOwned {i r : ℕ} (h : Handoff owners held count log)
    (hi : owners[i]? = some (r, true)) :
    Handoff (owners.set i (r, false)) held count ((.worker i, r) :: log) := by
  have hmemi : (r, true) ∈ owners := List.mem_of_getElem? hi
  have hlt : i < owners.length := (List.getElem?_eq_some_iff.1 hi).1
  have hunreleased : r ∉ released log := fun hrel =>
    absurd ((h.released_iff _ hmemi).1 hrel) (by simp)
  refine {
    owned_lt := ?_, distinct := ?_, released_iff := ?_, heldOk := ?_, covered := ?_
    released_lt := ?_, nodup := List.nodup_cons.2 ⟨hunreleased, h.nodup⟩, byDispatcher := ?_
    byWorker := ?_ }
  · intro o ho
    obtain ⟨o₀, ho₀, heq⟩ := mem_release hi ho
    exact heq ▸ h.owned_lt o₀ ho₀
  · intro j k a b ha hb heq
    obtain ⟨a₀, ha₀, heqa, -⟩ := getElem?_release hi ha
    obtain ⟨b₀, hb₀, heqb, -⟩ := getElem?_release hi hb
    exact h.distinct j k a₀ b₀ ha₀ hb₀ (by rw [heqa, heqb, heq])
  · intro o ho
    obtain ⟨j, hj⟩ := List.mem_iff_getElem?.1 ho
    obtain ⟨a₀, ha₀, heq, hother, hself⟩ := getElem?_release hi hj
    rw [released_cons, List.mem_cons]
    by_cases hji : j = i
    · rw [hself hji]
      exact ⟨fun _ => rfl, fun _ => Or.inl rfl⟩
    · obtain rfl := hother hji
      rw [← h.released_iff a₀ (List.mem_of_getElem? ha₀)]
      refine ⟨fun hrel => hrel.resolve_left fun hr => hji ?_, Or.inr⟩
      exact h.distinct j i a₀ (r, true) ha₀ hi hr
  · intro r' hr'
    obtain ⟨hlt', hunreleased', hnew⟩ := h.heldOk r' hr'
    refine ⟨hlt', fun hrel => ?_, fun o ho => ?_⟩
    · rcases List.mem_cons.1 hrel with rfl | hrel
      · exact hnew _ hmemi rfl
      · exact hunreleased' hrel
    · obtain ⟨o₀, ho₀, heq⟩ := mem_release hi ho
      exact heq ▸ hnew o₀ ho₀
  · intro r' hr'
    rw [released_cons, List.mem_cons]
    rcases h.covered r' hr' with hrel | hheld | ⟨o, ho, hor⟩
    · exact Or.inl (Or.inr hrel)
    · exact Or.inr (Or.inl hheld)
    · obtain ⟨j, hj⟩ := List.mem_iff_getElem?.1 ho
      by_cases hij : i = j
      · subst hij
        obtain rfl := Option.some.inj (hi.symm.trans hj)
        exact Or.inl (Or.inl hor.symm)
      · refine Or.inr (Or.inr ⟨o, List.mem_iff_getElem?.2 ⟨j, ?_⟩, hor⟩)
        rw [List.getElem?_set_ne hij, hj]
  · intro r' hr'
    rcases List.mem_cons.1 hr' with rfl | hr'
    · exact h.owned_lt _ hmemi
    · exact h.released_lt r' hr'
  · intro r' hlog o ho
    rcases List.mem_cons.1 hlog with heq | hlog
    · exact absurd (Prod.mk.inj heq).1 (by simp)
    · obtain ⟨o₀, ho₀, heq⟩ := mem_release hi ho
      exact heq ▸ h.byDispatcher r' hlog o₀ ho₀
  · intro j r' hlog
    rcases List.mem_cons.1 hlog with heq | hlog
    · obtain ⟨hj, rfl⟩ := Prod.mk.inj heq
      obtain rfl : j = i := by simpa using hj
      exact ⟨false, List.getElem?_set_self hlt⟩
    · obtain ⟨b, hb⟩ := h.byWorker j r' hlog
      by_cases hij : i = j
      · subst hij
        obtain rfl : r' = r := congrArg Prod.fst (Option.some.inj (hb.symm.trans hi))
        exact ⟨false, List.getElem?_set_self hlt⟩
      · exact ⟨b, by rw [List.getElem?_set_ne hij, hb]⟩

end Handoff
