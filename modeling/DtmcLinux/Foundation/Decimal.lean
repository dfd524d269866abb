import Mathlib.Algebra.Ring.Nat
import Mathlib.Data.Int.Notation
import Mathlib.Data.List.Basic

set_option autoImplicit false

/-! # Decimal numerals

Numbers as strings of ASCII digits. `numeral` and `signed` are what `%d` prints; `value` and
`readSigned` read it back. -/

namespace Decimal

def isDigit (b : UInt8) : Bool := 48 ≤ b && b ≤ 57

/-- The number a string of digits denotes. -/
def value (digits : List UInt8) : ℕ := digits.foldl (fun n b => 10 * n + (b.toNat - 48)) 0

/-- The digits of a number, without leading zeros. -/
def numeral (n : ℕ) : List UInt8 := (Nat.toDigits 10 n).map fun c => c.toNat.toUInt8

/-- A number with its sign, if it is negative. -/
def signed : ℤ → List UInt8
  | .ofNat n => numeral n
  | .negSucc n => 45 :: numeral (n + 1)

/-- A nonempty string of digits. -/
def read (text : List UInt8) : Option ℕ :=
  if text ≠ [] ∧ text.all isDigit then some (value text) else none

/-- A nonempty string of digits, with a minus sign or without. -/
def readSigned : List UInt8 → Option ℤ
  | 45 :: text => (read text).map fun n => -(n : ℤ)
  | text => (read text).map fun n => (n : ℤ)

/-! ## Reading what was printed -/

theorem toNat_of_isDigit {c : Char} (h : c.isDigit = true) :
    c.toNat.toUInt8.toNat = c.toNat ∧ isDigit c.toNat.toUInt8 = true := by
  have hrange : 48 ≤ c.toNat ∧ c.toNat ≤ 57 := by
    simp only [Char.isDigit, Bool.and_eq_true, decide_eq_true_eq, ge_iff_le, UInt32.le_iff_toNat_le]
      at h
    exact h
  have hnat : c.toNat.toUInt8.toNat = c.toNat := by
    show (UInt8.ofNat c.toNat).toNat = _
    rw [UInt8.toNat_ofNat']
    omega
  refine ⟨hnat, ?_⟩
  rw [isDigit, Bool.and_eq_true, decide_eq_true_eq, decide_eq_true_eq, UInt8.le_iff_toNat_le,
    UInt8.le_iff_toNat_le, hnat]
  exact hrange

theorem isDigit_of_mem_numeral {n : ℕ} {b : UInt8} (h : b ∈ numeral n) : isDigit b = true := by
  obtain ⟨c, hc, rfl⟩ := List.mem_map.1 h
  exact (toNat_of_isDigit (Nat.isDigit_of_mem_toDigits (by decide) (Nat.le_refl _) hc)).2

theorem numeral_ne_nil (n : ℕ) : numeral n ≠ [] := by
  rw [numeral, ne_eq, List.map_eq_nil_iff]
  exact Nat.toDigits_ne_nil

theorem length_numeral_le {n k : ℕ} (hk : 0 < k) (h : n < 10 ^ k) : (numeral n).length ≤ k := by
  rw [numeral, List.length_map]
  exact (Nat.length_toDigits_le_iff (by decide) hk).2 h

/-- **A numeral denotes its number.** -/
theorem value_numeral (n : ℕ) : value (numeral n) = n := by
  have hfold : ∀ (cs : List Char) (init : ℕ), (∀ c ∈ cs, c.isDigit = true) →
      (cs.map fun c => c.toNat.toUInt8).foldl (fun n b => 10 * n + (b.toNat - 48)) init =
        Nat.ofDigitChars 10 cs init := by
    intro cs
    induction cs with
    | nil =>
        intro init _
        rw [Nat.ofDigitChars_nil, List.map_nil, List.foldl_nil]
    | cons c cs ih =>
        intro init hcs
        have hc := toNat_of_isDigit (hcs c List.mem_cons_self)
        rw [List.map_cons, List.foldl_cons, Nat.ofDigitChars_cons,
          ih _ fun c' hc' => hcs c' (List.mem_cons_of_mem _ hc'), hc.1]
        rfl
  have hdigits : ∀ c ∈ Nat.toDigits 10 n, c.isDigit = true :=
    fun c hc => Nat.isDigit_of_mem_toDigits (by decide) (Nat.le_refl _) hc
  rw [value, numeral, hfold _ _ hdigits, Nat.ofDigitChars_ten_toDigits]

theorem read_numeral (n : ℕ) : read (numeral n) = some n := by
  have hdigits : (numeral n).all isDigit = true :=
    List.all_eq_true.2 fun b hb => isDigit_of_mem_numeral hb
  rw [read, if_pos ⟨numeral_ne_nil n, hdigits⟩, value_numeral]

/-- A string of digits has no minus sign to take for one. -/
theorem readSigned_of_isDigit {text : List UInt8} (h : ∀ b ∈ text, isDigit b = true) :
    readSigned text = (read text).map fun n => (n : ℤ) := by
  unfold readSigned
  split
  · have hminus := h 45 List.mem_cons_self
    exact absurd hminus (by decide)
  · rfl

/-- **A printed number is read back.** -/
theorem readSigned_signed (n : ℤ) : readSigned (signed n) = some n := by
  cases n with
  | ofNat n =>
      rw [signed, readSigned_of_isDigit fun b hb => isDigit_of_mem_numeral hb, read_numeral]
      rfl
  | negSucc n =>
      rw [signed, readSigned, read_numeral]
      rfl

/-- A printed number is digits, and a minus sign. -/
theorem mem_signed {n : ℤ} {b : UInt8} (h : b ∈ signed n) : b = 45 ∨ isDigit b = true := by
  cases n with
  | ofNat n => exact Or.inr (isDigit_of_mem_numeral h)
  | negSucc n =>
      rcases List.mem_cons.1 h with rfl | h
      · exact Or.inl rfl
      · exact Or.inr (isDigit_of_mem_numeral h)

theorem length_signed_le {n : ℤ} {k : ℕ} (hk : 0 < k) (h : n.natAbs < 10 ^ k) :
    (signed n).length ≤ k + 1 := by
  cases n with
  | ofNat n => exact Nat.le_succ_of_le (length_numeral_le hk h)
  | negSucc n => exact Nat.succ_le_succ (length_numeral_le hk h)

end Decimal
