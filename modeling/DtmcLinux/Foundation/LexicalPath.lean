import DtmcLinux.Foundation.FirstOccurrence
import Mathlib.Data.List.Infix

set_option autoImplicit false

/-! # Paths, resolved by their text

A path is a text with slashes. `resolve` walks through its components, without looking at any file
system: a name goes down, `..` goes up, an empty component and `.` stay. A path that goes on from a
root without a component `..` never leaves it (`under_append`). -/

namespace LexicalPath

/-- What stands between the slashes. -/
def components (path : List UInt8) : List (List UInt8) := path.splitOn 47

/-- The component `..`. -/
def up : List UInt8 := [46, 46]

/-- Where a walk is: in the file system or in the current directory, with the names it has gone down
    and, before them, the `..` that lead out of the current directory. -/
structure Location where
  absolute : Bool
  names : List (List UInt8)
  deriving DecidableEq

/-- One component. -/
def Location.walk (loc : Location) (component : List UInt8) : Location :=
  if component = [] ∨ component = [46] then loc
  else if component = up then
    match loc.names.getLast? with
    | none => if loc.absolute then loc else { loc with names := [up] }
    | some last =>
      { loc with names := if last = up then loc.names ++ [up] else loc.names.dropLast }
  else { loc with names := loc.names ++ [component] }

/-- Where the path leads. -/
def resolve (path : List UInt8) : Location :=
  (components path).foldl Location.walk ⟨path.head? = some 47, []⟩

/-- `loc` is at `root` or below it. -/
def Under (root loc : Location) : Prop :=
  loc.absolute = root.absolute ∧ ∃ below, loc.names = root.names ++ below ∧ up ∉ below

theorem Under.refl (loc : Location) : Under loc loc := ⟨rfl, [], by simp, by simp⟩

theorem Under.trans {a b c : Location} (hab : Under a b) (hbc : Under b c) : Under a c := by
  obtain ⟨habs, below, hnames, hup⟩ := hab
  obtain ⟨habs', below', hnames', hup'⟩ := hbc
  refine ⟨habs'.trans habs, below ++ below', ?_, ?_⟩
  · rw [hnames', hnames, List.append_assoc]
  · rw [List.mem_append, not_or]
    exact ⟨hup, hup'⟩

/-- A component other than `..` goes down or stays. -/
theorem under_walk (loc : Location) {component : List UInt8} (h : component ≠ up) :
    Under loc (loc.walk component) := by
  rw [Location.walk]
  by_cases hstays : component = [] ∨ component = [46]
  · rw [if_pos hstays]
    exact Under.refl loc
  · rw [if_neg hstays, if_neg h]
    exact ⟨rfl, [component], rfl, by rw [List.mem_singleton]; exact Ne.symm h⟩

theorem under_foldl_walk (loc : Location) {path : List (List UInt8)} (h : up ∉ path) :
    Under loc (path.foldl Location.walk loc) := by
  induction path generalizing loc with
  | nil => exact Under.refl loc
  | cons component path ih =>
      rw [List.mem_cons, not_or] at h
      exact (under_walk loc (Ne.symm h.1)).trans (ih (loc.walk component) h.2)

/-- The components of a path that goes on behind a slash are walked from where the root is. -/
theorem resolve_append {root : List UInt8} (hroot : root ≠ []) (rest : List UInt8) :
    resolve (root ++ 47 :: rest) = (components rest).foldl Location.walk (resolve root) := by
  have hhead : (root ++ 47 :: rest).head? = root.head? := by
    cases root with
    | nil => exact absurd rfl hroot
    | cons b root => rfl
  rw [resolve, resolve, hhead, components, List.splitOn_append_cons_self, List.foldl_append]
  rfl

/-- A component is a part of the path. -/
theorem infix_of_mem_splitOn {α : Type*} [DecidableEq α] (sep : α) (path : List α) :
    ∀ part ∈ path.splitOn sep, part <:+: path := by
  -- the first part is the beginning of the path
  have hboth : (∀ first ∈ (path.splitOn sep).head?, first <+: path) ∧
      ∀ part ∈ path.splitOn sep, part <:+: path := by
    induction path with
    | nil => simp [List.splitOn_nil]
    | cons b path ih =>
        obtain ⟨hfirst, hall⟩ := ih
        rw [List.splitOn_cons_eq_if_modifyHead]
        split
        · refine ⟨by simp, fun part hpart => ?_⟩
          rcases List.mem_cons.1 hpart with rfl | hpart
          · exact List.nil_infix
          · exact (hall part hpart).trans (List.suffix_cons b path).isInfix
        · cases hparts : path.splitOn sep with
          | nil => exact absurd hparts (List.splitOn_ne_nil sep path)
          | cons first parts =>
              rw [hparts] at hfirst hall
              have hpre : b :: first <+: b :: path :=
                List.cons_prefix_cons.2 ⟨rfl, hfirst first rfl⟩
              rw [List.modifyHead_cons]
              refine ⟨fun part hpart => Option.some.inj hpart ▸ hpre, fun part hpart => ?_⟩
              rcases List.mem_cons.1 hpart with rfl | hpart
              · exact hpre.isInfix
              · exact (hall part (List.mem_cons_of_mem _ hpart)).trans
                  (List.suffix_cons b path).isInfix
  exact hboth.2

/-- **Never out of the root.** A path that goes on from a root, with a slash first and no `..`
    anywhere in its text, stays under the root after each of its bytes. -/
theorem under_append {root path : List UInt8} (hroot : root ≠ []) (hslash : path.head? = some 47)
    (hup : findSub up path = none) {part : List UInt8} (hpart : part <+: path) :
    Under (resolve root) (resolve (root ++ part)) := by
  cases part with
  | nil =>
      rw [List.append_nil]
      exact Under.refl _
  | cons b rest =>
      obtain ⟨more, rfl⟩ := hpart
      obtain rfl : b = 47 := Option.some.inj hslash
      rw [resolve_append hroot]
      refine under_foldl_walk _ fun hmem => ?_
      have hinfix : up <:+: 47 :: rest ++ more :=
        ((infix_of_mem_splitOn 47 rest up hmem).trans (List.suffix_cons 47 rest).isInfix).trans
          (List.prefix_append _ more).isInfix
      have hfound := findSub_isSome_of_infix hinfix
      rw [hup] at hfound
      cases hfound

end LexicalPath
