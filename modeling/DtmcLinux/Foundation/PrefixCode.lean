import Mathlib.Data.List.Basic

set_option autoImplicit false

/-! # Self-delimiting formats

A prefix code writes each value as a non-empty byte string that its decoder recognises whatever
follows it. A stream of such values, one after the other, is then read back value by value:
`decodeAll_encodeAll` is the round trip for whole streams. -/

/-- A self-delimiting format for the values that satisfy `Wf`. -/
structure PrefixCode (α : Type*) where
  Wf : α → Prop
  encode : α → List UInt8
  /-- the first value of a byte string, and the bytes after it -/
  decode : List UInt8 → Option (α × List UInt8)
  encode_ne_nil : ∀ a, encode a ≠ []
  decode_encode : ∀ a rest, Wf a → decode (encode a ++ rest) = some (a, rest)

namespace PrefixCode

variable {α : Type*} (code : PrefixCode α)

/-- The values one after the other. -/
def encodeAll (as : List α) : List UInt8 := as.flatMap code.encode

/-- Read at most `fuel` values; the input must end with the last one. -/
def decodeFuel : ℕ → List UInt8 → Option (List α)
  | _, [] => some []
  | 0, _ :: _ => none
  | fuel + 1, b :: bytes =>
    match code.decode (b :: bytes) with
    | none => none
    | some (a, rest) => (decodeFuel fuel rest).map (a :: ·)

/-- Read a stream of values. A value takes at least one byte. -/
def decodeAll (bytes : List UInt8) : Option (List α) := code.decodeFuel bytes.length bytes

@[simp] theorem encodeAll_nil : code.encodeAll [] = [] := rfl

@[simp] theorem encodeAll_cons (a : α) (as : List α) :
    code.encodeAll (a :: as) = code.encode a ++ code.encodeAll as := rfl

/-- Enough fuel for the number of values is enough. -/
theorem decodeFuel_encodeAll {as : List α} (hwf : ∀ a ∈ as, code.Wf a) {fuel : ℕ}
    (hfuel : as.length ≤ fuel) : code.decodeFuel fuel (code.encodeAll as) = some as := by
  induction as generalizing fuel with
  | nil => cases fuel <;> rfl
  | cons a as ih =>
      obtain ⟨fuel, rfl⟩ : ∃ m, fuel = m + 1 := ⟨fuel - 1, by simp at hfuel; omega⟩
      have hdecode := code.decode_encode a (code.encodeAll as) (hwf a List.mem_cons_self)
      have hrest := ih (fun b hb => hwf b (List.mem_cons_of_mem a hb)) (Nat.le_of_succ_le_succ hfuel)
      obtain ⟨b, bytes, hbytes⟩ : ∃ b bytes, code.encodeAll (a :: as) = b :: bytes :=
        List.exists_cons_of_ne_nil (by simp [code.encode_ne_nil a])
      rw [encodeAll_cons] at hbytes
      rw [encodeAll_cons, hbytes, decodeFuel, ← hbytes, hdecode]
      show (code.decodeFuel fuel (code.encodeAll as)).map (a :: ·) = some (a :: as)
      rw [hrest, Option.map_some]

theorem length_le_encodeAll (as : List α) : as.length ≤ (code.encodeAll as).length := by
  induction as with
  | nil => exact Nat.zero_le _
  | cons a as ih =>
      have hpos := List.length_pos_iff.2 (code.encode_ne_nil a)
      rw [encodeAll_cons, List.length_append, List.length_cons]
      omega

/-- **Round trip.** A stream of values is read back as these values. -/
theorem decodeAll_encodeAll {as : List α} (hwf : ∀ a ∈ as, code.Wf a) :
    code.decodeAll (code.encodeAll as) = some as :=
  code.decodeFuel_encodeAll hwf (code.length_le_encodeAll as)

end PrefixCode
