import Mathlib.Data.List.Basic

set_option autoImplicit false

/-! # Reading a stream that comes in segments

A stream arrives in non-empty segments; a reader appends what arrives to a buffer of limited size
and looks at the buffer after each read. What it can find in the end is determined by the stream
and the length of the buffer (`readSegments_some`, `readSegments_none`), and the segments can be cut
so that the buffer has any length from the first one that is enough on (`exists_cut`). -/

variable {α β : Type*}

/-- `segs` is a way to cut `stream`. -/
structure Cut (segs : List (List α)) (stream : List α) : Prop where
  ne_nil : ∀ seg ∈ segs, seg ≠ []
  flatten : segs.flatten = stream

/-- What is left when the first `n` items of the first segment have been read. -/
def unread (seg : List α) (n : ℕ) (segs : List (List α)) : List (List α) :=
  if n < seg.length then seg.drop n :: segs else segs

theorem flatten_unread (seg : List α) (n : ℕ) (segs : List (List α)) :
    (unread seg n segs).flatten = seg.drop n ++ segs.flatten := by
  unfold unread
  split
  · rfl
  · rw [List.drop_eq_nil_of_le (by omega), List.nil_append]

/-- What one read takes from the first segment: at most what the buffer has room for. -/
def received (limit : ℕ) (acc seg : List α) : List α := seg.take (limit - acc.length)

theorem length_received (limit : ℕ) (acc seg : List α) :
    (received limit acc seg).length = min (limit - acc.length) seg.length := List.length_take

/-- Read until `check` finds something in the buffer, which starts as `acc` and has room for `limit`
    items. `none` when the stream ends, or there is no room, before that. -/
def readSegments (limit : ℕ) (check : List α → Option β) (acc : List α) :
    List (List α) → Option (β × List α × List (List α))
  | [] => none
  | seg :: segs =>
    if received limit acc seg = [] then none
    else
      match check (acc ++ received limit acc seg) with
      | some b =>
        some (b, acc ++ received limit acc seg, unread seg (received limit acc seg).length segs)
      | none =>
        readSegments limit check (acc ++ received limit acc seg)
          (unread seg (received limit acc seg).length segs)
termination_by segs => segs.flatten.length
decreasing_by
  rename_i hgot
  have hpos := List.length_pos_iff.2 hgot
  have hlen := length_received limit acc seg
  rw [flatten_unread, List.flatten_cons, List.length_append, List.length_append, List.length_drop]
  omega

variable {limit : ℕ} {check : List α → Option β} {acc stream : List α} {segs : List (List α)}

/-- One read: some items of the stream move to the buffer, and the rest is still cut. -/
theorem Cut.read {seg : List α} (h : Cut (seg :: segs) stream) (limit : ℕ) (acc : List α) :
    Cut (unread seg (received limit acc seg).length segs)
        (stream.drop (received limit acc seg).length) ∧
      stream.take (received limit acc seg).length = received limit acc seg := by
  have hstream : seg ++ segs.flatten = stream := by
    rw [← h.flatten, List.flatten_cons]
  have hlen := length_received limit acc seg
  have hle : (received limit acc seg).length ≤ seg.length := by omega
  refine ⟨⟨?_, ?_⟩, ?_⟩
  · intro s hs
    unfold unread at hs
    split at hs
    · rcases List.mem_cons.1 hs with rfl | hs
      · rw [ne_eq, List.drop_eq_nil_iff]
        omega
      · exact h.ne_nil s (List.mem_cons_of_mem _ hs)
    · exact h.ne_nil s (List.mem_cons_of_mem _ hs)
  · rw [flatten_unread, ← hstream, List.drop_append_of_le_length hle]
  · rw [← hstream, List.take_append_of_le_length hle, received, List.length_take,
      ← List.take_eq_take_min]

/-- A read takes no more than there is room for, and something if there is room. -/
theorem Cut.length_read {seg : List α} (h : Cut (seg :: segs) stream) (limit : ℕ) (acc : List α) :
    (received limit acc seg).length ≤ stream.length ∧
      (received limit acc seg).length ≤ limit - acc.length ∧
      (received limit acc seg = [] → limit ≤ acc.length) := by
  have hlen := length_received limit acc seg
  have hstream := congrArg List.length h.flatten
  rw [List.flatten_cons, List.length_append] at hstream
  refine ⟨by omega, by omega, fun hnil => ?_⟩
  rw [hnil, List.length_nil] at hlen
  have hpos := List.length_pos_iff.2 (h.ne_nil seg List.mem_cons_self)
  omega

/-- **What was found was found in a prefix of the stream**, of a length within the limit; the rest is
    still there. -/
theorem readSegments_some (h : Cut segs stream) {b : β} {p : List α} {rest : List (List α)}
    (hread : readSegments limit check acc segs = some (b, p, rest)) :
    ∃ n, 0 < n ∧ n ≤ stream.length ∧ acc.length + n ≤ limit ∧ p = acc ++ stream.take n ∧
      check p = some b ∧ Cut rest (stream.drop n) := by
  induction acc, segs using readSegments.induct limit check generalizing stream with
  | case1 acc => exact absurd hread (by simp [readSegments])
  | case2 acc seg segs hgot =>
      rw [readSegments, if_pos hgot] at hread
      exact absurd hread (by simp)
  | case3 acc seg segs hgot b' hcheck =>
      rw [readSegments, if_neg hgot, hcheck] at hread
      simp only [Option.some.injEq, Prod.mk.injEq] at hread
      obtain ⟨rfl, rfl, rfl⟩ := hread
      obtain ⟨hrest, htake⟩ := h.read limit acc
      obtain ⟨hstream, hroom, -⟩ := h.length_read limit acc
      have hpos := List.length_pos_iff.2 hgot
      exact ⟨_, hpos, hstream, by omega, by rw [htake], hcheck, hrest⟩
  | case4 acc seg segs hgot hcheck ih =>
      rw [readSegments, if_neg hgot, hcheck] at hread
      obtain ⟨hrest, htake⟩ := h.read limit acc
      obtain ⟨hstream, hroom, -⟩ := h.length_read limit acc
      obtain ⟨n, hn, hle, hlimit, hp, hfound, hcut⟩ := ih hrest hread
      rw [List.length_append] at hlimit
      rw [List.length_drop] at hle
      rw [List.drop_drop] at hcut
      refine ⟨(received limit acc seg).length + n, by omega, by omega, by omega, ?_, hfound, hcut⟩
      rw [hp, List.append_assoc, List.take_add, htake]

/-- **When nothing was found**, nothing was read, or there is nothing in all that can be read. -/
theorem readSegments_none (h : Cut segs stream)
    (hread : readSegments limit check acc segs = none) :
    acc.length + stream.length ≤ acc.length ∨ limit ≤ acc.length ∨
      check (acc ++ stream.take (limit - acc.length)) = none := by
  induction acc, segs using readSegments.induct limit check generalizing stream with
  | case1 acc =>
      obtain rfl : [] = stream := h.flatten
      exact Or.inl (Nat.le_refl _)
  | case2 acc seg segs hgot => exact Or.inr (Or.inl ((h.length_read limit acc).2.2 hgot))
  | case3 acc seg segs hgot b hcheck =>
      rw [readSegments, if_neg hgot, hcheck] at hread
      exact absurd hread (by simp)
  | case4 acc seg segs hgot hcheck ih =>
      rw [readSegments, if_neg hgot, hcheck] at hread
      obtain ⟨hrest, htake⟩ := h.read limit acc
      obtain ⟨hstream, hroom, -⟩ := h.length_read limit acc
      have hsplit : acc ++ stream.take (limit - acc.length) =
          acc ++ received limit acc seg ++ (stream.drop (received limit acc seg).length).take
            (limit - (acc ++ received limit acc seg).length) := by
        rw [List.append_assoc, List.length_append]
        conv_lhs => rw [← Nat.add_sub_cancel' hroom, List.take_add, htake]
        rw [Nat.sub_add_eq]
      refine Or.inr ?_
      rw [hsplit]
      rcases ih hrest hread with hend | hfull | hnone
      · -- the stream has ended: the last check was on all of it
        have hnil : stream.drop (received limit acc seg).length = [] :=
          List.length_eq_zero_iff.1 (by omega)
        rw [hnil, List.take_nil, List.append_nil]
        exact Or.inr hcheck
      · -- there is no room left
        rw [Nat.sub_eq_zero_of_le hfull, List.take_zero, List.append_nil]
        exact Or.inr hcheck
      · exact Or.inr hnone

/-! ## Cuttings -/

/-- A part of a stream as one segment, if there is something in it. -/
def whole (part : List α) : List (List α) := if part = [] then [] else [part]

theorem cut_whole (part : List α) : Cut (whole part) part := by
  unfold whole
  split
  · rename_i hnil
    exact ⟨fun _ hseg => absurd hseg List.not_mem_nil, hnil.symm⟩
  · rename_i hne
    refine ⟨fun seg hseg => ?_, by simp⟩
    rw [List.mem_singleton.1 hseg]
    exact hne

theorem cut_singleton {part : List α} (hne : part ≠ []) : Cut [part] part := by
  have h := cut_whole part
  rwa [whole, if_neg hne] at h

theorem Cut.append {a b : List α} {segsA segsB : List (List α)} (ha : Cut segsA a)
    (hb : Cut segsB b) : Cut (segsA ++ segsB) (a ++ b) := by
  refine ⟨fun seg hseg => ?_, by rw [List.flatten_append, ha.flatten, hb.flatten]⟩
  rcases List.mem_append.1 hseg with hseg | hseg
  · exact ha.ne_nil seg hseg
  · exact hb.ne_nil seg hseg

/-- A segment that fits is read whole. -/
theorem readSegments_cons {seg : List α} (hne : seg ≠ []) (hfit : acc.length + seg.length ≤ limit) :
    readSegments limit check acc (seg :: segs) =
      match check (acc ++ seg) with
      | some b => some (b, acc ++ seg, segs)
      | none => readSegments limit check (acc ++ seg) segs := by
  have hreceived : received limit acc seg = seg := List.take_of_length_le (by omega)
  have hunread : unread seg seg.length segs = segs := if_neg (Nat.lt_irrefl _)
  rw [readSegments, hreceived, hunread, if_neg hne]

/-- **Every buffer that is enough can come about**, if a shorter one is not enough. -/
theorem exists_cut {m n : ℕ} {b : β} (hlt : m < n) (hlimit : n ≤ limit) (hn : n ≤ stream.length)
    (hbefore : m = 0 ∨ check (stream.take m) = none) (hfound : check (stream.take n) = some b) :
    ∃ segs rest, Cut segs stream ∧
      readSegments limit check [] segs = some (b, stream.take n, rest) := by
  -- the first `m` items, then up to `n`, then the others
  obtain ⟨k, rfl⟩ : ∃ k, n = m + k := ⟨n - m, by omega⟩
  have hlen : ((stream.drop m).take k).length = k := by
    rw [List.length_take, List.length_drop]
    omega
  have hne : (stream.drop m).take k ≠ [] := by
    rw [← List.length_pos_iff, hlen]
    omega
  have htake : stream.take m ++ (stream.drop m).take k = stream.take (m + k) := List.take_add.symm
  have hcut : Cut (whole (stream.take m) ++ ([(stream.drop m).take k] ++
      whole (stream.drop (m + k)))) stream := by
    have h := (cut_whole (stream.take m)).append
      ((cut_singleton hne).append (cut_whole (stream.drop (m + k))))
    rwa [← List.append_assoc (stream.take m), htake, List.take_append_drop] at h
  refine ⟨_, whole (stream.drop (m + k)), hcut, ?_⟩
  rcases Nat.eq_zero_or_pos m with rfl | hpos
  · rw [Nat.zero_add] at hfound hlimit ⊢
    rw [List.take_zero, List.drop_zero, whole, if_pos rfl, List.nil_append, List.singleton_append,
      readSegments_cons (by simpa using hne) (by rw [List.length_take]; simp; omega), List.nil_append,
      hfound]
  · have hfirst : (stream.take m).length = m := by
      rw [List.length_take]
      omega
    have hfirstne : stream.take m ≠ [] := by
      rw [← List.length_pos_iff, hfirst]
      exact hpos
    have hnone : check (stream.take m) = none := hbefore.resolve_left (by omega)
    rw [whole, if_neg hfirstne, List.singleton_append,
      readSegments_cons hfirstne (by rw [hfirst]; simp; omega), List.nil_append, hnone]
    simp only [List.singleton_append]
    rw [readSegments_cons hne (by rw [hlen, hfirst]; omega), htake, hfound]
