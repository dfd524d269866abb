import Mathlib.Algebra.Order.BigOperators.Group.List
import Mathlib.Algebra.Order.Group.Nat
import Mathlib.Algebra.Ring.Nat
import Mathlib.Data.List.Basic

set_option autoImplicit false

/-! # The first occurrence of a pattern

`findSub pat l` is the place where `pat` occurs first in `l`. A prefix of `l` shows the same
occurrence as soon as it is long enough, and none before (`findSub_take`). `pieces sep l` are the
parts of `l` that end with `sep`; what a prefix of `l` has of them are the first ones. -/

variable {α : Type*} [DecidableEq α]

def findSub (pat : List α) : List α → Option ℕ
  | [] => if pat = [] then some 0 else none
  | a :: l => if pat.isPrefixOf (a :: l) then some 0 else (findSub pat l).map (· + 1)

variable {pat sep l : List α} {i : ℕ}

theorem findSub_le (h : findSub pat l = some i) : i + pat.length ≤ l.length := by
  induction l generalizing i with
  | nil =>
      simp only [findSub, Option.ite_none_right_eq_some, Option.some.injEq] at h
      obtain ⟨rfl, rfl⟩ := h
      exact Nat.le_refl 0
  | cons a l ih =>
      rw [findSub] at h
      split at h
      · rename_i hpre
        obtain rfl := Option.some.inj h
        have hle := (List.isPrefixOf_iff_prefix.1 hpre).length_le
        omega
      · obtain ⟨j, hj, rfl⟩ := Option.map_eq_some_iff.1 h
        have hle := ih hj
        rw [List.length_cons]
        omega

/-- The pattern is there. -/
theorem prefix_of_findSub (h : findSub pat l = some i) : pat <+: l.drop i := by
  induction l generalizing i with
  | nil =>
      simp only [findSub, Option.ite_none_right_eq_some, Option.some.injEq] at h
      obtain ⟨rfl, rfl⟩ := h
      exact List.prefix_rfl
  | cons a l ih =>
      rw [findSub] at h
      split at h
      · rename_i hpre
        obtain rfl := Option.some.inj h
        exact List.isPrefixOf_iff_prefix.1 hpre
      · obtain ⟨j, hj, rfl⟩ := Option.map_eq_some_iff.1 h
        rw [List.drop_succ_cons]
        exact ih hj

/-- The first occurrence is no later than any other. -/
theorem findSub_of_prefix {k : ℕ} (h : pat <+: l.drop k) : ∃ j ≤ k, findSub pat l = some j := by
  induction k generalizing l with
  | zero =>
      refine ⟨0, Nat.le_refl 0, ?_⟩
      rw [List.drop_zero] at h
      cases l with
      | nil => rw [findSub, if_pos (List.prefix_nil.1 h)]
      | cons a l => rw [findSub, if_pos (List.isPrefixOf_iff_prefix.2 h)]
  | succ k ih =>
      cases l with
      | nil =>
          rw [List.drop_nil] at h
          exact ⟨0, Nat.zero_le _, by rw [findSub, if_pos (List.prefix_nil.1 h)]⟩
      | cons a l =>
          rw [List.drop_succ_cons] at h
          obtain ⟨j, hle, hj⟩ := ih h
          rw [findSub]
          split
          · exact ⟨0, Nat.zero_le _, rfl⟩
          · exact ⟨j + 1, by omega, by rw [hj]; rfl⟩

/-- What precedes the occurrence can be left out. -/
theorem findSub_drop {k : ℕ} (h : findSub pat l = some i) (hk : k ≤ i) :
    findSub pat (l.drop k) = some (i - k) := by
  induction k generalizing l i with
  | zero => exact h
  | succ k ih =>
      cases l with
      | nil =>
          have hle := findSub_le h
          rw [List.length_nil] at hle
          omega
      | cons a l =>
          rw [findSub] at h
          split at h
          · obtain rfl := Option.some.inj h
            omega
          · obtain ⟨j, hj, rfl⟩ := Option.map_eq_some_iff.1 h
            rw [List.drop_succ_cons, ih hj (by omega)]
            congr 1
            omega

/-- **A prefix shows the occurrence when it holds it whole.** -/
theorem findSub_take (pat l : List α) (n : ℕ) :
    findSub pat (l.take n) = (findSub pat l).filter fun i => i + pat.length ≤ n := by
  induction l generalizing n with
  | nil =>
      rw [List.take_nil, findSub]
      by_cases hpat : pat = []
      · simp [hpat, Option.filter_some]
      · simp [hpat]
  | cons a l ih =>
      cases n with
      | zero =>
          rw [List.take_zero, findSub, findSub]
          by_cases hpat : pat = []
          · simp [hpat, Option.filter_some]
          · have hlen := List.length_pos_iff.2 hpat
            rw [if_neg hpat]
            symm
            rw [Option.filter_eq_none_iff]
            intro j _
            simp only [decide_eq_true_eq]
            omega
      | succ n =>
          rw [List.take_succ_cons, findSub, findSub, ih n, ← List.take_succ_cons]
          have hpre : pat.isPrefixOf ((a :: l).take (n + 1)) = true ↔
              pat.isPrefixOf (a :: l) = true ∧ pat.length ≤ n + 1 := by
            rw [List.isPrefixOf_iff_prefix, List.isPrefixOf_iff_prefix, List.prefix_take_iff]
          by_cases hocc : pat.isPrefixOf (a :: l) = true
          · rw [if_pos hocc]
            by_cases hlen : pat.length ≤ n + 1
            · rw [if_pos (hpre.2 ⟨hocc, hlen⟩)]
              simp [hlen, Option.filter_some]
            · rw [if_neg fun h => hlen (hpre.1 h).2]
              have hnone : (findSub pat l).filter (fun i => i + pat.length ≤ n) = none := by
                rw [Option.filter_eq_none_iff]
                intro j _
                rw [decide_eq_true_eq]
                omega
              rw [hnone]
              simp [hlen, Option.filter_some]
          · rw [if_neg hocc, if_neg fun h => hocc (hpre.1 h).1]
            -- both occurrences are those in the tail
            cases findSub pat l with
            | none => rfl
            | some j =>
                have hiff : j + pat.length ≤ n ↔ j + 1 + pat.length ≤ n + 1 := by omega
                by_cases hle : j + pat.length ≤ n
                · simp [hle, hiff.1 hle, Option.filter_some]
                · have hle' : ¬ j + 1 + pat.length ≤ n + 1 := fun h => hle (hiff.2 h)
                  simp [hle, hle', Option.filter_some]

theorem findSub_take_some {n : ℕ} (h : findSub pat l = some i) (hle : i + pat.length ≤ n) :
    findSub pat (l.take n) = some i := by
  rw [findSub_take, h]
  simp [hle]

theorem findSub_of_take {n : ℕ} (h : findSub pat (l.take n) = some i) :
    findSub pat l = some i ∧ i + pat.length ≤ n := by
  rw [findSub_take, Option.filter_eq_some_iff] at h
  exact ⟨h.1, of_decide_eq_true h.2⟩

/-- The start of a pattern occurs no later than the pattern. -/
theorem findSub_append {more : List α} (h : findSub (pat ++ more) l = some i) :
    ∃ j ≤ i, findSub pat l = some j :=
  findSub_of_prefix ((List.prefix_append pat more).trans (prefix_of_findSub h))

theorem findSub_isSome_of_infix (h : pat <:+: l) : (findSub pat l).isSome = true := by
  induction l with
  | nil =>
      rw [List.infix_nil.1 h]
      rfl
  | cons a l ih =>
      rw [findSub]
      by_cases hocc : pat.isPrefixOf (a :: l) = true
      · rw [if_pos hocc]
        rfl
      · rw [if_neg hocc, Option.isSome_map]
        refine ih ((List.infix_cons_iff.1 h).resolve_left fun hpre => ?_)
        exact hocc (List.isPrefixOf_iff_prefix.2 hpre)

/-- What follows an occurrence does not matter. -/
theorem findSub_append_left (h : findSub pat l = some i) (more : List α) :
    findSub pat (l ++ more) = some i := by
  refine (findSub_of_take (n := l.length) ?_).1
  rwa [List.take_left]

/-- An occurrence does not begin in a text without the first letter of the pattern. -/
theorem findSub_append_of_not_mem {a : α} {pre : List α} (ha : a ∉ pre) (pat l : List α) :
    findSub (a :: pat) (pre ++ l) = (findSub (a :: pat) l).map (pre.length + ·) := by
  induction pre with
  | nil => simp
  | cons b pre ih =>
      rw [List.mem_cons, not_or] at ha
      have hocc : ¬ (a :: pat).isPrefixOf (b :: (pre ++ l)) = true := by
        rw [List.isPrefixOf_iff_prefix, List.cons_prefix_cons]
        exact fun h => ha.1 h.1
      rw [List.cons_append, findSub, if_neg hocc, ih ha.2, Option.map_map]
      congr 1
      funext k
      simp only [Function.comp_apply, List.length_cons]
      omega

theorem findSub_append_self (pat l : List α) (hpat : pat ≠ []) : findSub pat (pat ++ l) = some 0 := by
  cases pat with
  | nil => exact absurd rfl hpat
  | cons a pat =>
      rw [List.cons_append, findSub, if_pos]
      exact List.isPrefixOf_iff_prefix.2 (List.prefix_append (a :: pat) l)

/-- Nor does it go over a letter that is not in the pattern. -/
theorem findSub_append_cons_of_not_mem {a : α} (ha : a ∉ pat) (hl : findSub pat l = none)
    (more : List α) :
    findSub pat (l ++ a :: more) = (findSub pat more).map (l.length + 1 + ·) := by
  induction l with
  | nil =>
      have hpat : pat ≠ [] := by
        rintro rfl
        exact absurd hl (by simp [findSub])
      have hocc : ¬ pat.isPrefixOf (a :: more) = true := by
        rw [List.isPrefixOf_iff_prefix]
        rintro ⟨rest, hrest⟩
        cases pat with
        | nil => exact hpat rfl
        | cons b pat =>
            rw [List.cons_append, List.cons.injEq] at hrest
            exact ha (hrest.1 ▸ List.mem_cons_self)
      rw [List.nil_append, findSub, if_neg hocc]
      congr 1
      funext k
      exact Nat.add_comm k 1
  | cons b l ih =>
      rw [findSub] at hl
      split at hl
      · exact absurd hl (by simp)
      · rename_i hshort
        have hocc : ¬ pat.isPrefixOf (b :: (l ++ a :: more)) = true := by
          intro hwhole
          rw [List.isPrefixOf_iff_prefix] at hwhole hshort
          have hleft : b :: l <+: b :: (l ++ a :: more) := List.prefix_append (b :: l) (a :: more)
          have hlong : b :: l ++ [a] <+: b :: (l ++ a :: more) := ⟨more, by simp⟩
          rcases Nat.lt_or_ge (b :: l).length pat.length with hlt | hge
          · have hpre := List.prefix_of_prefix_length_le hlong hwhole (by rw [List.length_append]; exact hlt)
            exact ha (hpre.subset (by simp))
          · exact hshort (List.prefix_of_prefix_length_le hwhole hleft hge)
        rw [List.cons_append, findSub, if_neg hocc, ih (Option.map_eq_none_iff.1 hl), Option.map_map]
        congr 1
        funext k
        simp only [Function.comp_apply, List.length_cons]
        omega

/-! ## Pieces -/

/-- The parts of `l` that end with `sep`, without it; what follows the last `sep` is left out. -/
def pieces (sep l : List α) : List (List α) :=
  match _ : findSub sep l with
  | none => []
  | some i => if sep = [] then [] else l.take i :: pieces sep (l.drop (i + sep.length))
termination_by l.length
decreasing_by
  rename_i hfind hsep
  have hle := findSub_le hfind
  have hpos := List.length_pos_iff.2 hsep
  rw [List.length_drop]
  omega

theorem pieces_of_none (h : findSub sep l = none) : pieces sep l = [] := by
  rw [pieces]
  split
  · rfl
  · rename_i hsome
    exact absurd (h.symm.trans hsome) (by simp)

theorem pieces_nil (hsep : sep ≠ []) : pieces sep ([] : List α) = [] := pieces_of_none (if_neg hsep)

theorem pieces_of_some (hsep : sep ≠ []) (h : findSub sep l = some i) :
    pieces sep l = l.take i :: pieces sep (l.drop (i + sep.length)) := by
  rw [pieces]
  split
  · rename_i hnone
    exact absurd (hnone.symm.trans h) (by simp)
  · rename_i hsome
    obtain rfl := Option.some.inj (h.symm.trans hsome)
    rw [if_neg hsep]

/-- **Prefix stability.** The pieces of a prefix are the first pieces of the whole. -/
theorem pieces_take (hsep : sep ≠ []) (l : List α) (n : ℕ) :
    pieces sep (l.take n) <+: pieces sep l := by
  induction hlen : l.length using Nat.strongRecOn generalizing l n with
  | _ m ih =>
      cases hfind : findSub sep (l.take n) with
      | none =>
          rw [pieces_of_none hfind]
          exact List.nil_prefix
      | some i =>
          obtain ⟨hwhole, hle⟩ := findSub_of_take hfind
          have hpos := List.length_pos_iff.2 hsep
          have hlt := findSub_le hwhole
          rw [pieces_of_some hsep hfind, pieces_of_some hsep hwhole, List.take_take, List.drop_take,
            Nat.min_eq_left (by omega)]
          refine List.cons_prefix_cons.2 ⟨rfl, ih _ ?_ _ _ rfl⟩
          rw [List.length_drop]
          omega

/-- A text without the first letter of the separator is one piece. -/
theorem pieces_append {a : α} {line : List α} (ha : a ∉ line) (sep l : List α) :
    pieces (a :: sep) (line ++ (a :: sep ++ l)) = line :: pieces (a :: sep) l := by
  have hfind : findSub (a :: sep) (line ++ (a :: sep ++ l)) = some line.length := by
    rw [findSub_append_of_not_mem ha, findSub_append_self _ _ (List.cons_ne_nil _ _)]
    rfl
  rw [pieces_of_some (List.cons_ne_nil _ _) hfind, List.take_left, ← List.drop_drop, List.drop_left,
    List.drop_left]

omit [DecidableEq α] in
/-- An occurrence does not begin inside another. -/
theorem overlap_free {a : α} {s : List α} {j : ℕ} (ha : a ∉ s) (hj : a :: s <+: l.drop j)
    (hi : a :: s <+: l.drop i) (hji : j ≤ i) : j = i ∨ j + (a :: s).length ≤ i := by
  by_contra hinside
  rw [not_or] at hinside
  obtain ⟨hne, hlt⟩ := hinside
  obtain ⟨more, hmore⟩ := hj
  obtain ⟨more', hmore'⟩ := hi
  have hat : (l.drop j)[i - j]? = some a := by
    rw [List.getElem?_drop, Nat.add_sub_cancel' hji]
    have hfirst := congrArg List.head? hmore'
    rw [List.cons_append, List.head?_cons, List.head?_drop] at hfirst
    exact hfirst.symm
  rw [← hmore, List.getElem?_append_left (by omega)] at hat
  obtain ⟨k, hk⟩ := Nat.exists_eq_add_of_lt (Nat.lt_of_le_of_ne hji hne)
  rw [show i - j = k + 1 by omega, List.getElem?_cons_succ] at hat
  exact ha (List.mem_of_getElem? hat)

/-- **Two separators in a row** end a piece and then an empty one. -/
theorem pieces_of_double {a : α} {s : List α} (ha : a ∉ s)
    (h : findSub ((a :: s) ++ (a :: s)) l = some i) :
    pieces (a :: s) l = pieces (a :: s) (l.take (i + (a :: s).length)) ++
      [] :: pieces (a :: s) (l.drop (i + (a :: s).length + (a :: s).length)) := by
  have hsep : a :: s ≠ [] := List.cons_ne_nil a s
  induction hlen : l.length using Nat.strongRecOn generalizing l i with
  | _ m ih =>
      obtain ⟨j, hji, hj⟩ := findSub_append h
      have hle := findSub_le h
      rw [List.length_append] at hle
      have hjtake : findSub (a :: s) (l.take (i + (a :: s).length)) = some j :=
        findSub_take_some hj (by omega)
      rw [pieces_of_some hsep hj, pieces_of_some hsep hjtake, List.take_take,
        Nat.min_eq_left (by omega), List.cons_append, List.drop_take]
      congr 1
      by_cases hlt : j + (a :: s).length ≤ i
      · have hrest := ih (l.drop (j + (a :: s).length)).length
          (by rw [List.length_drop]; simp only [List.length_cons] at hle ⊢; omega)
          (findSub_drop h hlt) rfl
        rw [hrest, List.drop_drop]
        congr 4
        · omega
        · omega
      · have hsame : j = i :=
          (overlap_free ha (prefix_of_findSub hj)
            ((List.prefix_append _ _).trans (prefix_of_findSub h)) hji).resolve_right hlt
        subst hsame
        obtain ⟨more, hmore⟩ := prefix_of_findSub h
        have hsecond : l.drop (j + (a :: s).length) = (a :: s) ++ more := by
          rw [← List.drop_drop, ← hmore, List.append_assoc, List.drop_left]
        rw [Nat.sub_self, List.take_zero, pieces_nil hsep, List.nil_append, hsecond,
          pieces_of_some hsep (findSub_append_self _ _ hsep), List.take_zero, Nat.zero_add,
          ← List.drop_drop, hsecond]

/-- The pieces and their separators are parts of the whole. -/
theorem sum_pieces_le (sep l : List α) :
    ((pieces sep l).map fun piece => piece.length + sep.length).sum ≤ l.length := by
  induction hlen : l.length using Nat.strongRecOn generalizing l with
  | _ m ih =>
      by_cases hsep : sep = []
      · subst hsep
        rw [pieces]
        split <;> simp
      · cases hfind : findSub sep l with
        | none =>
            rw [pieces_of_none hfind]
            exact Nat.zero_le _
        | some i =>
            have hle := findSub_le hfind
            have hpos := List.length_pos_iff.2 hsep
            have hrest := ih (l.drop (i + sep.length)).length (by rw [List.length_drop]; omega) _ rfl
            rw [pieces_of_some hsep hfind, List.map_cons, List.sum_cons, List.length_take]
            rw [List.length_drop] at hrest
            omega

/-- So are some of them. -/
theorem sum_le_of_subset_pieces {some : List (List α)} (hnodup : some.Nodup)
    (hsome : some ⊆ pieces sep l) :
    (some.map fun piece => piece.length + sep.length).sum ≤ l.length := by
  obtain ⟨part, hperm, hsub⟩ := List.subperm_of_subset hnodup hsome
  have hle := (hsub.map fun piece => piece.length + sep.length).sum_le_sum fun _ _ => Nat.zero_le _
  rw [← (hperm.map fun piece => piece.length + sep.length).sum_nat]
  exact Nat.le_trans hle (sum_pieces_le sep l)
