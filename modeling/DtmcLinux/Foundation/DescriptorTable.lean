import Mathlib.Data.List.Basic
import Mathlib.Data.Int.Notation
import Mathlib.Logic.Function.Basic

set_option autoImplicit false

/-! # Descriptors and who closes them

Every descriptor the environment hands out gets a number of its own, in the order of creation, and
the table keeps the list of the `close` calls. Numbers are never reused, so "closed twice" is
visible as a repetition in that list, and a descriptor that is kept after its `close` can be told
from a new one. A C variable holds a descriptor as an integer, `-1` when it holds none. -/

/-- The descriptors created so far, each with its kind, and the calls of `close`. -/
structure DescriptorTable (κ : Type*) where
  kinds : List κ
  closed : List ℕ

namespace DescriptorTable

variable {κ : Type*}

/-- No descriptor has been created. -/
def empty : DescriptorTable κ := ⟨[], []⟩

/-- A new descriptor. -/
def create (fds : DescriptorTable κ) (kind : κ) : DescriptorTable κ × ℤ :=
  ({ fds with kinds := fds.kinds ++ [kind] }, fds.kinds.length)

/-- A descriptor changes its kind. -/
def become (fds : DescriptorTable κ) (fd : ℤ) (kind : κ) : DescriptorTable κ :=
  { fds with kinds := fds.kinds.set fd.toNat kind }

/-- `close(fd)`. -/
def close (fds : DescriptorTable κ) (fd : ℤ) : DescriptorTable κ :=
  { fds with closed := fd.toNat :: fds.closed }

/-- `if (fd >= 0) close(fd)`. -/
def closeIfOpen (fds : DescriptorTable κ) (fd : ℤ) : DescriptorTable κ :=
  if 0 ≤ fd then fds.close fd else fds

/-- What `if (fd >= 0) { close(fd); fd = -1; }` leaves in the variable. -/
def closedVar (fd : ℤ) : ℤ := if 0 ≤ fd then -1 else fd

theorem closedVar_neg (fd : ℤ) : closedVar fd < 0 := by
  unfold closedVar
  split
  · decide
  · next h => exact Int.not_le.1 h

/-- `fd` is a descriptor of the given kind that has been created and not closed. -/
structure IsOpen (fds : DescriptorTable κ) (fd : ℤ) (kind : κ) : Prop where
  nonneg : 0 ≤ fd
  created : fds.kinds[fd.toNat]? = some kind
  notClosed : fd.toNat ∉ fds.closed

/-- A variable that holds no descriptor, or an open one of the given kind. -/
def Holds (fds : DescriptorTable κ) (fd : ℤ) (kind : κ) : Prop := fd = -1 ∨ fds.IsOpen fd kind

/-- Only descriptors that were created have been closed, each of them once. -/
structure ClosedOnce (fds : DescriptorTable κ) : Prop where
  nodup : fds.closed.Nodup
  created : ∀ n ∈ fds.closed, n < fds.kinds.length

variable {fds : DescriptorTable κ} {fd fd' : ℤ} {kind kind' : κ}

theorem IsOpen.toNat_lt (h : fds.IsOpen fd kind) : fd.toNat < fds.kinds.length :=
  (List.getElem?_eq_some_iff.1 h.created).1

theorem IsOpen.kind_unique (h : fds.IsOpen fd kind) (h' : fds.IsOpen fd kind') : kind = kind' :=
  Option.some.inj (h.created.symm.trans h'.created)

/-- Descriptors of different kinds are different. -/
theorem IsOpen.ne_of_kind_ne (h : fds.IsOpen fd kind) (h' : fds.IsOpen fd' kind')
    (hkind : kind ≠ kind') : fd ≠ fd' := by
  rintro rfl
  exact hkind (h.kind_unique h')

@[simp] theorem closeIfOpen_neg_one : fds.closeIfOpen (-1) = fds := if_neg (by decide)

theorem IsOpen.closeIfOpen_eq (h : fds.IsOpen fd kind) : fds.closeIfOpen fd = fds.close fd :=
  if_pos h.nonneg

/-! ## New descriptors -/

theorem create_snd_nonneg (fds : DescriptorTable κ) (kind : κ) : 0 ≤ (fds.create kind).2 :=
  Int.natCast_nonneg _

/-- A new descriptor is open: it has not been closed before. -/
theorem isOpen_create (h : fds.ClosedOnce) :
    (fds.create kind).1.IsOpen (fds.create kind).2 kind := by
  refine ⟨create_snd_nonneg fds kind, ?_, fun hmem => ?_⟩
  · show (fds.kinds ++ [kind])[(fds.kinds.length : ℤ).toNat]? = some kind
    rw [Int.toNat_natCast, List.getElem?_concat_length]
  · exact Nat.lt_irrefl _ (h.created _ hmem)

/-- A new descriptor leaves the kinds of the others. -/
theorem created_create {n : ℕ} (h : fds.kinds[n]? = some kind) (kind' : κ) :
    (fds.create kind').1.kinds[n]? = some kind := by
  show (fds.kinds ++ [kind'])[n]? = some kind
  rw [List.getElem?_append_left (List.getElem?_eq_some_iff.1 h).1, h]

/-- A descriptor is the new one, or was there before. -/
theorem create_cases {n : ℕ} (h : (fds.create kind').1.kinds[n]? = some kind) :
    fds.kinds[n]? = some kind ∨ (n = fds.kinds.length ∧ kind' = kind) := by
  change (fds.kinds ++ [kind'])[n]? = some kind at h
  rw [List.getElem?_append] at h
  split at h
  · exact Or.inl h
  · next hlt =>
      obtain ⟨hn, hkind⟩ := List.getElem?_eq_some_iff.1 h
      rw [List.length_singleton] at hn
      refine Or.inr ⟨by omega, ?_⟩
      rw [List.getElem_singleton] at hkind
      exact hkind

theorem IsOpen.create (h : fds.IsOpen fd kind) (kind' : κ) :
    (fds.create kind').1.IsOpen fd kind := by
  exact ⟨h.nonneg, created_create h.created kind', h.notClosed⟩

theorem ClosedOnce.create (h : fds.ClosedOnce) (kind : κ) : (fds.create kind).1.ClosedOnce := by
  refine ⟨h.nodup, fun n hn => ?_⟩
  have hlt := h.created n hn
  show n < (fds.kinds ++ [kind]).length
  rw [List.length_append]
  exact Nat.lt_add_right _ hlt

/-! ## Changes of kind -/

theorem IsOpen.become_self (h : fds.IsOpen fd kind) (kind' : κ) :
    (fds.become fd kind').IsOpen fd kind' := by
  refine ⟨h.nonneg, ?_, h.notClosed⟩
  exact List.getElem?_set_self h.toNat_lt

theorem IsOpen.become (h : fds.IsOpen fd kind) (h' : fds.IsOpen fd' kind') (hne : fd ≠ fd')
    (kind'' : κ) : (fds.become fd' kind'').IsOpen fd kind := by
  refine ⟨h.nonneg, ?_, h.notClosed⟩
  have hfd := h.nonneg
  have hfd' := h'.nonneg
  show (fds.kinds.set fd'.toNat kind'')[fd.toNat]? = some kind
  rw [List.getElem?_set_ne (by omega), h.created]

theorem ClosedOnce.become (h : fds.ClosedOnce) (fd : ℤ) (kind : κ) :
    (fds.become fd kind).ClosedOnce := by
  refine ⟨h.nodup, fun n hn => ?_⟩
  show n < (fds.kinds.set fd.toNat kind).length
  rw [List.length_set]
  exact h.created n hn

/-! ## Closing -/

/-- An open descriptor can be closed. -/
theorem ClosedOnce.close (h : fds.ClosedOnce) (hopen : fds.IsOpen fd kind) :
    (fds.close fd).ClosedOnce := by
  refine ⟨List.nodup_cons.2 ⟨hopen.notClosed, h.nodup⟩, fun n hn => ?_⟩
  rcases List.mem_cons.1 hn with rfl | hn
  · exact hopen.toNat_lt
  · exact h.created n hn

/-- A variable that holds an open descriptor or none can be passed to `closeIfOpen`. -/
theorem ClosedOnce.closeIfOpen (h : fds.ClosedOnce) (hfd : fds.Holds fd kind) :
    (fds.closeIfOpen fd).ClosedOnce := by
  rcases hfd with rfl | hopen
  · rw [closeIfOpen_neg_one]
    exact h
  · rw [hopen.closeIfOpen_eq]
    exact h.close hopen

theorem IsOpen.close_of_ne (h : fds.IsOpen fd kind) (hfd' : 0 ≤ fd') (hne : fd ≠ fd') :
    (fds.close fd').IsOpen fd kind := by
  refine ⟨h.nonneg, h.created, fun hmem => ?_⟩
  have hfd := h.nonneg
  rcases List.mem_cons.1 hmem with heq | hmem
  · omega
  · exact h.notClosed hmem

theorem IsOpen.closeIfOpen_of_ne (h : fds.IsOpen fd kind) (hne : fd ≠ fd') :
    (fds.closeIfOpen fd').IsOpen fd kind := by
  unfold closeIfOpen
  split
  · next hfd' => exact h.close_of_ne hfd' hne
  · exact h

/-- Closing a descriptor of one kind leaves a variable for another kind alone. -/
theorem Holds.closeIfOpen (h : fds.Holds fd kind) (h' : fds.Holds fd' kind')
    (hkind : kind ≠ kind') : (fds.closeIfOpen fd').Holds fd kind := by
  rcases h with rfl | hopen
  · exact Or.inl rfl
  · rcases h' with rfl | hopen'
    · rw [closeIfOpen_neg_one]
      exact Or.inr hopen
    · exact Or.inr (hopen.closeIfOpen_of_ne (hopen.ne_of_kind_ne hopen' hkind))

theorem Holds.create (h : fds.Holds fd kind) (kind' : κ) : (fds.create kind').1.Holds fd kind :=
  h.imp id fun hopen => hopen.create kind'

/-- A variable for an open descriptor that is closed must not keep it. -/
theorem not_isOpen_close : ¬(fds.close fd).IsOpen fd kind := fun h =>
  h.notClosed List.mem_cons_self

/-! ## Later tables

A function that creates descriptors and closes only those it created leaves a later table: what was
open before is still open. -/

/-- `fds'` is later than `fds`, and every descriptor open in `fds` is still open. -/
structure Extends (fds fds' : DescriptorTable κ) : Prop where
  closedOnce : fds.ClosedOnce → fds'.ClosedOnce
  length_le : fds.kinds.length ≤ fds'.kinds.length
  isOpen : ∀ {fd : ℤ} {kind : κ}, fds.IsOpen fd kind → fds'.IsOpen fd kind

/-- `fd` is open in `fds'` and was created since `fds`. -/
structure IsNew (fds fds' : DescriptorTable κ) (fd : ℤ) (kind : κ) : Prop where
  isOpen : fds'.IsOpen fd kind
  created : fds.kinds.length ≤ fd.toNat

variable {fds' : DescriptorTable κ}

theorem Extends.refl (fds : DescriptorTable κ) : fds.Extends fds := ⟨id, Nat.le_refl _, id⟩

theorem Extends.holds (h : fds.Extends fds') (hfd : fds.Holds fd kind) : fds'.Holds fd kind :=
  hfd.imp id h.isOpen

theorem Extends.create (h : fds.Extends fds') (kind : κ) :
    fds.Extends (fds'.create kind).1 := by
  refine ⟨fun hclosed => (h.closedOnce hclosed).create kind, ?_, fun hopen =>
    (h.isOpen hopen).create kind⟩
  have hle := h.length_le
  show fds.kinds.length ≤ (fds'.kinds ++ [kind]).length
  rw [List.length_append]
  exact Nat.le_add_right_of_le hle

theorem Extends.isNew_create (h : fds.Extends fds') (hclosed : fds.ClosedOnce) (kind : κ) :
    fds.IsNew (fds'.create kind).1 (fds'.create kind).2 kind := by
  refine ⟨isOpen_create (h.closedOnce hclosed), ?_⟩
  show fds.kinds.length ≤ (fds'.kinds.length : ℤ).toNat
  rw [Int.toNat_natCast]
  exact h.length_le

/-- An old descriptor is not a new one. -/
theorem IsNew.ne (hnew : fds.IsNew fds' fd kind) (hopen : fds.IsOpen fd' kind') : fd' ≠ fd := by
  rintro rfl
  have hlt := hopen.toNat_lt
  have hle := hnew.created
  omega

/-- A new descriptor may be closed again. -/
theorem Extends.close (h : fds.Extends fds') (hnew : fds.IsNew fds' fd kind) :
    fds.Extends (fds'.closeIfOpen fd) := by
  rw [hnew.isOpen.closeIfOpen_eq]
  exact ⟨fun hclosed => (h.closedOnce hclosed).close hnew.isOpen, h.length_le, fun hopen =>
    (h.isOpen hopen).close_of_ne hnew.isOpen.nonneg (hnew.ne hopen)⟩

/-- A new descriptor may change its kind. -/
theorem Extends.become (h : fds.Extends fds') (hnew : fds.IsNew fds' fd kind) (kind' : κ) :
    fds.Extends (fds'.become fd kind') := by
  refine ⟨fun hclosed => (h.closedOnce hclosed).become fd kind', ?_, fun hopen =>
    (h.isOpen hopen).become hnew.isOpen (hnew.ne hopen) kind'⟩
  show fds.kinds.length ≤ (fds'.kinds.set fd.toNat kind').length
  rw [List.length_set]
  exact h.length_le

theorem IsNew.become_self (h : fds.IsNew fds' fd kind) (kind' : κ) :
    fds.IsNew (fds'.become fd kind') fd kind' :=
  ⟨h.isOpen.become_self kind', h.created⟩

theorem IsNew.trans {fds'' : DescriptorTable κ} (h : fds.IsNew fds' fd kind)
    (hext : fds'.Extends fds'') : fds.IsNew fds'' fd kind :=
  ⟨hext.isOpen h.isOpen, h.created⟩

theorem IsNew.closeIfOpen_of_ne (h : fds.IsNew fds' fd kind) (hne : fd ≠ fd') :
    fds.IsNew (fds'.closeIfOpen fd') fd kind :=
  ⟨h.isOpen.closeIfOpen_of_ne hne, h.created⟩

/-! ## What is left open

A function that fails closes what it has created. -/

/-- The descriptors with a number from `k` on are closed, except perhaps the one in `fd`. -/
def ClosedFrom (fds : DescriptorTable κ) (k : ℕ) (fd : ℤ) : Prop :=
  ∀ n, k ≤ n → n < fds.kinds.length → (n : ℤ) = fd ∨ n ∈ fds.closed

variable {k : ℕ}

/-- No descriptor has been created yet. -/
theorem closedFrom_length (fds : DescriptorTable κ) (fd : ℤ) :
    fds.ClosedFrom fds.kinds.length fd :=
  fun _ hle hlt => absurd hlt (Nat.not_lt.2 hle)

theorem ClosedFrom.create (h : fds.ClosedFrom k (-1)) (kind : κ) :
    (fds.create kind).1.ClosedFrom k (fds.create kind).2 := by
  intro n hle hlt
  change n < (fds.kinds ++ [kind]).length at hlt
  show (n : ℤ) = fds.kinds.length ∨ n ∈ fds.closed
  rw [List.length_append, List.length_singleton] at hlt
  by_cases hn : n = fds.kinds.length
  · exact Or.inl (by rw [hn])
  · rcases h n hle (by omega) with hneg | hclosed
    · omega
    · exact Or.inr hclosed

theorem ClosedFrom.become (h : fds.ClosedFrom k fd) (fd' : ℤ) (kind : κ) :
    (fds.become fd' kind).ClosedFrom k fd := by
  intro n hle hlt
  change n < (fds.kinds.set fd'.toNat kind).length at hlt
  rw [List.length_set] at hlt
  exact h n hle hlt

/-- The last open one is closed. -/
theorem ClosedFrom.closeIfOpen (h : fds.ClosedFrom k fd) :
    (fds.closeIfOpen fd).ClosedFrom k (-1) := by
  unfold DescriptorTable.closeIfOpen
  intro n hle hlt
  split at hlt
  · next hnonneg =>
      rw [if_pos hnonneg]
      rcases h n hle hlt with heq | hclosed
      · exact Or.inr (List.mem_cons.2 (Or.inl (by omega)))
      · exact Or.inr (List.mem_cons_of_mem _ hclosed)
  · next hneg =>
      rw [if_neg hneg]
      rcases h n hle hlt with heq | hclosed
      · omega
      · exact Or.inr hclosed

/-! ## One variable -/

/-- The variable holds the only descriptor that is open, or none, and none was closed twice. -/
structure Owns (fds : DescriptorTable κ) (fd : ℤ) (kind : κ) : Prop where
  holds : fds.Holds fd kind
  closedOnce : fds.ClosedOnce
  noLeak : fds.ClosedFrom 0 fd

theorem owns_empty : (DescriptorTable.empty : DescriptorTable κ).Owns (-1) kind where
  holds := Or.inl rfl
  closedOnce := ⟨List.nodup_nil, fun _ hmem => absurd hmem List.not_mem_nil⟩
  noLeak := closedFrom_length DescriptorTable.empty (-1)

theorem Owns.eq_of_neg (h : fds.Owns fd kind) (hneg : fd < 0) : fd = -1 :=
  h.holds.resolve_right fun hopen => absurd hopen.nonneg (Int.not_le.2 hneg)

/-- A variable that holds none gets a new descriptor. -/
theorem Owns.create (h : fds.Owns fd kind) (hneg : fd < 0) :
    (fds.create kind).1.Owns (fds.create kind).2 kind := by
  obtain rfl := h.eq_of_neg hneg
  exact ⟨Or.inr (isOpen_create h.closedOnce), h.closedOnce.create kind, h.noLeak.create kind⟩

theorem Owns.closeIfOpen (h : fds.Owns fd kind) :
    (fds.closeIfOpen fd).Owns (closedVar fd) kind := by
  have hvar : closedVar fd = -1 := by
    unfold closedVar
    split
    · rfl
    · next hneg => exact h.eq_of_neg (Int.not_le.1 hneg)
  rw [hvar]
  exact ⟨Or.inl rfl, h.closedOnce.closeIfOpen h.holds, h.noLeak.closeIfOpen⟩

/-- A new descriptor is closed again. -/
theorem Owns.createClose (h : fds.Owns fd kind) (hneg : fd < 0) :
    ((fds.create kind).1.close (fds.create kind).2).Owns fd kind := by
  have hnonneg := create_snd_nonneg fds kind
  have hclosed := (h.create hneg).closeIfOpen
  rw [DescriptorTable.closeIfOpen, if_pos hnonneg, closedVar, if_pos hnonneg] at hclosed
  rw [h.eq_of_neg hneg]
  exact hclosed

/-! ## Several variables

Variables of different threads that hold descriptors of one kind, none of them the same. -/

variable {α : Type*} {var var' : α → ℤ}

/-- Each variable holds an open descriptor or none, and no two of them hold the same one. -/
structure Held (fds : DescriptorTable κ) (var : α → ℤ) (kind : κ) : Prop where
  holds : ∀ a, fds.Holds (var a) kind
  distinct : ∀ a b, 0 ≤ var a → var a = var b → a = b

theorem Held.none (h : ∀ a, var a = -1) : fds.Held var kind := by
  refine ⟨fun a => Or.inl (h a), fun a _ hnonneg => ?_⟩
  rw [h a] at hnonneg
  exact absurd hnonneg (by decide)

/-- Descriptors may be handed from one variable to another, and be forgotten. -/
theorem Held.rename (h : fds.Held var kind) (f : α → α) (hf : f.Injective)
    (hvar : ∀ a, var' a = -1 ∨ var' a = var (f a)) : fds.Held var' kind := by
  constructor
  · intro a
    rcases hvar a with hnone | hsame
    · exact Or.inl hnone
    · rw [hsame]
      exact h.holds (f a)
  · intro a b hnonneg heq
    rcases hvar a with hnone | ha
    · omega
    · rcases hvar b with hnone | hb
      · omega
      · exact hf (h.distinct (f a) (f b) (by omega) (by omega))

/-- Some of the variables are cleared. -/
theorem Held.clear (h : fds.Held var kind) (hvar : ∀ a, var' a = -1 ∨ var' a = var a) :
    fds.Held var' kind :=
  h.rename id Function.injective_id hvar

/-- A later table. -/
theorem Held.later (h : fds.Held var kind) (hext : fds.Extends fds') : fds'.Held var kind :=
  ⟨fun a => hext.holds (h.holds a), h.distinct⟩

/-- A variable gets a new descriptor, or none. -/
theorem Held.put (h : fds.Held var kind) (hext : fds.Extends fds') (a : α)
    (hnew : var' a = -1 ∨ fds.IsNew fds' (var' a) kind) (hvar : ∀ b, b ≠ a → var' b = var b) :
    fds'.Held var' kind := by
  -- no other variable holds a new descriptor
  have hne : ∀ b, b ≠ a → 0 ≤ var' b → var' b ≠ var' a := by
    intro b hb hnonneg heq
    rcases hnew with hnone | hnew
    · omega
    · rw [hvar b hb] at heq hnonneg
      rcases h.holds b with hnone | hopen
      · omega
      · exact hnew.ne hopen heq
  constructor
  · intro b
    by_cases hb : b = a
    · subst hb
      exact hnew.imp id IsNew.isOpen
    · rw [hvar b hb]
      exact hext.holds (h.holds b)
  · intro b c hnonneg heq
    by_cases hb : b = a
    · by_cases hc : c = a
      · rw [hb, hc]
      · subst hb
        exact absurd heq.symm (hne c hc (by omega))
    · by_cases hc : c = a
      · subst hc
        exact absurd heq (hne b hb hnonneg)
      · rw [hvar b hb, hvar c hc] at heq
        rw [hvar b hb] at hnonneg
        exact h.distinct b c hnonneg heq

/-- The descriptor in one of the variables is closed, and the variable cleared. -/
theorem Held.close (h : fds.Held var kind) (a : α) (hcleared : var' a = -1)
    (hvar : ∀ b, b ≠ a → var' b = -1 ∨ var' b = var b) :
    (fds.closeIfOpen (var a)).Held var' kind := by
  have hkept : fds.Held var' kind := by
    refine h.clear fun b => ?_
    by_cases hb : b = a
    · exact Or.inl (hb ▸ hcleared)
    · exact hvar b hb
  refine ⟨fun b => ?_, hkept.distinct⟩
  by_cases hb : b = a
  · exact Or.inl (hb ▸ hcleared)
  · rcases hvar b hb with hnone | hsame
    · exact Or.inl hnone
    · rw [hsame]
      refine (h.holds b).imp id fun hopen => hopen.closeIfOpen_of_ne fun heq => ?_
      exact hb (h.distinct b a hopen.nonneg heq)

/-- A descriptor of another kind is closed. -/
theorem Held.closeIfOpen (h : fds.Held var kind) (h' : fds.Holds fd' kind') (hkind : kind ≠ kind') :
    (fds.closeIfOpen fd').Held var kind :=
  ⟨fun a => (h.holds a).closeIfOpen h' hkind, h.distinct⟩

end DescriptorTable
