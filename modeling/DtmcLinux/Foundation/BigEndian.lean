import Mathlib.Data.Nat.Bitwise
import Mathlib.Tactic.Ring
import Mathlib.Tactic.IntervalCases

set_option autoImplicit false

/-! # Big-endian byte strings

Network byte order, stated with arithmetic on `ℕ`: `beBytes k x` is the `k`-byte big-endian form of
`x` and `beValue` reads it back. Code that packs a word with shifts and masks is related to these
two functions once, here, and the proofs about formats never mention a shift again. -/

namespace BigEndian

/-- The `k` low-order bytes of `x`, most significant first. -/
def beBytes : ℕ → ℕ → List UInt8
  | 0, _ => []
  | k + 1, x => UInt8.ofNat (x / 256 ^ k) :: beBytes k x

/-- The number a byte string denotes, most significant byte first. -/
def beValue (bs : List UInt8) : ℕ :=
  bs.foldl (fun acc b => 256 * acc + b.toNat) 0

@[simp] theorem length_beBytes (k x : ℕ) : (beBytes k x).length = k := by
  induction k with
  | zero => rfl
  | succ k ih => simp [beBytes, ih]

theorem foldl_beBytes (k x acc : ℕ) :
    (beBytes k x).foldl (fun acc b => 256 * acc + b.toNat) acc
      = 256 ^ k * acc + x % 256 ^ k := by
  induction k generalizing acc with
  | zero => simp [beBytes, Nat.mod_one]
  | succ k ih =>
      have hsplit : x % 256 ^ (k + 1) = 256 ^ k * (x / 256 ^ k % 256) + x % 256 ^ k := by
        rw [pow_succ, Nat.mod_mul, add_comm]
      rw [beBytes, List.foldl_cons, ih, hsplit, UInt8.toNat_ofNat']
      ring

/-- **Round trip.** A number that fits in `k` bytes is read back from its big-endian form. -/
theorem beValue_beBytes (k x : ℕ) (h : x < 256 ^ k) : beValue (beBytes k x) = x := by
  rw [beValue, foldl_beBytes, Nat.mod_eq_of_lt h, mul_zero, zero_add]

theorem foldl_beValue (bs : List UInt8) (acc : ℕ) :
    bs.foldl (fun acc b => 256 * acc + b.toNat) acc = 256 ^ bs.length * acc + beValue bs := by
  induction bs generalizing acc with
  | nil => simp [beValue]
  | cons b bs ih =>
      rw [beValue, List.foldl_cons, List.foldl_cons, ih, ih (256 * 0 + b.toNat), List.length_cons]
      ring

/-- The first byte is the most significant digit. -/
theorem beValue_cons (b : UInt8) (bs : List UInt8) :
    beValue (b :: bs) = 256 ^ bs.length * b.toNat + beValue bs := by
  have hstep : 256 * 0 + b.toNat = b.toNat := by rw [mul_zero, zero_add]
  rw [beValue, List.foldl_cons, foldl_beValue, hstep]

theorem beValue_lt (bs : List UInt8) : beValue bs < 256 ^ bs.length := by
  induction bs with
  | nil => exact Nat.one_pos
  | cons b bs ih =>
      rw [beValue_cons, List.length_cons, pow_succ]
      have hb : 256 ^ bs.length * b.toNat ≤ 256 ^ bs.length * 255 :=
        Nat.mul_le_mul_left _ (Nat.le_of_lt_succ b.toNat_lt)
      omega

/-- What lies above the `k` low-order bytes does not matter. -/
theorem beBytes_mul_add (k m x : ℕ) : beBytes k (256 ^ k * m + x) = beBytes k x := by
  induction k generalizing m with
  | zero => rfl
  | succ k ih =>
      have hshift : 256 ^ (k + 1) * m + x = 256 ^ k * (256 * m) + x := by ring
      have hpos : 0 < 256 ^ k := by positivity
      rw [beBytes, beBytes, hshift, ih, Nat.mul_add_div hpos]
      congr 1
      apply UInt8.toNat_inj.mp
      rw [UInt8.toNat_ofNat', UInt8.toNat_ofNat']
      omega

/-- **Round trip.** A byte string is the big-endian form of the number it denotes. -/
theorem beBytes_beValue (bs : List UInt8) : beBytes bs.length (beValue bs) = bs := by
  induction bs with
  | nil => rfl
  | cons b bs ih =>
      have hpos : 0 < 256 ^ bs.length := by positivity
      rw [beValue_cons, List.length_cons, beBytes, beBytes_mul_add, ih, Nat.mul_add_div hpos,
        Nat.div_eq_of_lt (beValue_lt bs), Nat.add_zero, UInt8.ofNat_toNat]

/-! ## Shift-and-mask forms -/

theorem ofNat_div_eq_shift64 (x s : UInt64) (k : ℕ) (hs : s.toNat = 8 * k) (hk : k < 8) :
    ((x >>> s) &&& 0xFF).toUInt8 = UInt8.ofNat (x.toNat / 256 ^ k) := by
  apply UInt8.toNat_inj.mp
  have hshift : s.toNat % 64 = 8 * k := by omega
  have hmask : ∀ n : ℕ, n &&& 255 = n % 2 ^ 8 := fun n => Nat.and_two_pow_sub_one_eq_mod n 8
  have hpow : (2 : ℕ) ^ (8 * k) = 256 ^ k := by rw [pow_mul]; norm_num
  simp only [UInt64.toNat_toUInt8, UInt64.toNat_and, UInt64.toNat_shiftRight, hshift,
    UInt64.reduceToNat, hmask, Nat.shiftRight_eq_div_pow, hpow, UInt8.toNat_ofNat',
    Nat.mod_mod]

theorem ofNat_div_eq_shift32 (x s : UInt32) (k : ℕ) (hs : s.toNat = 8 * k) (hk : k < 4) :
    ((x >>> s) &&& 0xFF).toUInt8 = UInt8.ofNat (x.toNat / 256 ^ k) := by
  apply UInt8.toNat_inj.mp
  have hshift : s.toNat % 32 = 8 * k := by omega
  have hmask : ∀ n : ℕ, n &&& 255 = n % 2 ^ 8 := fun n => Nat.and_two_pow_sub_one_eq_mod n 8
  have hpow : (2 : ℕ) ^ (8 * k) = 256 ^ k := by rw [pow_mul]; norm_num
  simp only [UInt32.toNat_toUInt8, UInt32.toNat_and, UInt32.toNat_shiftRight, hshift,
    UInt32.reduceToNat, hmask, Nat.shiftRight_eq_div_pow, hpow, UInt8.toNat_ofNat',
    Nat.mod_mod]

/-- Assembling a 32-bit word from four bytes with shifts is reading it big-endian. -/
theorem toNat_or_shift32 (b0 b1 b2 b3 : UInt8) :
    ((b0.toUInt32 <<< 24) ||| (b1.toUInt32 <<< 16) ||| (b2.toUInt32 <<< 8) ||| b3.toUInt32).toNat
      = beValue [b0, b1, b2, b3] := by
  have h0 := b0.toNat_lt
  have h1 := b1.toNat_lt
  have h2 := b2.toNat_lt
  have h3 := b3.toNat_lt
  have hs : ∀ (b : UInt8) (s : ℕ), s ≤ 24 → (b.toNat <<< s) % 2 ^ 32 = b.toNat <<< s := by
    intro b s hs
    have hb := b.toNat_lt
    rw [Nat.shiftLeft_eq]
    apply Nat.mod_eq_of_lt
    calc b.toNat * 2 ^ s < 2 ^ 8 * 2 ^ s := Nat.mul_lt_mul_of_pos_right hb (by positivity)
      _ ≤ 2 ^ 8 * 2 ^ 24 := Nat.mul_le_mul_left _ (Nat.pow_le_pow_right (by norm_num) hs)
      _ = 2 ^ 32 := by norm_num
  simp only [UInt32.toNat_or, UInt32.toNat_shiftLeft, UInt8.toNat_toUInt32, UInt32.reduceToNat,
    Nat.reduceMod, hs b0 24 (by omega), hs b1 16 (by omega), hs b2 8 (by omega)]
  have e1 : b0.toNat <<< 24 ||| b1.toNat <<< 16 = (b0.toNat <<< 8 + b1.toNat) <<< 16 := by
    rw [Nat.shiftLeft_add_eq_or_of_lt h1, Nat.shiftLeft_or_distrib, ← Nat.shiftLeft_add]
  have e2 : (b0.toNat <<< 8 + b1.toNat) <<< 16 ||| b2.toNat <<< 8
      = ((b0.toNat <<< 8 + b1.toNat) <<< 8 + b2.toNat) <<< 8 := by
    rw [Nat.shiftLeft_add_eq_or_of_lt h2, Nat.shiftLeft_or_distrib, ← Nat.shiftLeft_add]
  rw [e1, e2, ← Nat.shiftLeft_add_eq_or_of_lt h3]
  simp only [Nat.shiftLeft_eq, beValue, List.foldl_cons, List.foldl_nil]
  ring

end BigEndian
