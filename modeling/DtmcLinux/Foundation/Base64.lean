import DtmcLinux.Foundation.BigEndian
import DtmcLinux.Posix.CString

set_option autoImplicit false

/-! # Base64

Three bytes are four letters of six bits each; one or two bytes at the end are filled up with zero
bits and padded with `=`. `decode` reads the text back, and accepts no other text for the same bytes
than `encode` gives. Code that cuts a word into letters with shifts and masks is related to the
definition once, in `symbol_shift`. -/

namespace Base64

open Posix BigEndian

def alphabet : List UInt8 :=
  ascii "ABCDEFGHIJKLMNOPQRSTUVWXYZabcdefghijklmnopqrstuvwxyz0123456789+/"

/-- The letter for the six low-order bits. -/
def symbol (n : ℕ) : UInt8 := alphabet.getD (n % 64) 0

/-- The four letters of a number of 24 bits. -/
def quad (v : ℕ) : List UInt8 := [symbol (v / 64 ^ 3), symbol (v / 64 ^ 2), symbol (v / 64), symbol v]

def encode : List UInt8 → List UInt8
  | a :: b :: c :: rest => quad (beValue [a, b, c]) ++ encode rest
  | [a, b] => (quad (beValue [a, b, 0])).take 3 ++ [61]
  | [a] => (quad (beValue [a, 0, 0])).take 2 ++ [61, 61]
  | [] => []

theorem length_alphabet : alphabet.length = 64 := by decide

theorem symbol_mem (n : ℕ) : symbol n ∈ alphabet := by
  have hlt : n % 64 < alphabet.length := by
    rw [length_alphabet]
    exact Nat.mod_lt n (by decide)
  rw [symbol, List.getD_eq_getElem _ _ hlt]
  exact List.getElem_mem hlt

theorem quad_mem {v : ℕ} {b : UInt8} (h : b ∈ quad v) : b ∈ alphabet := by
  simp only [quad, List.mem_cons, List.not_mem_nil, or_false] at h
  rcases h with rfl | rfl | rfl | rfl <;> exact symbol_mem _

/-- The text has letters and padding only. -/
theorem mem_encode {bytes : List UInt8} {b : UInt8} (h : b ∈ encode bytes) :
    b = 61 ∨ b ∈ alphabet := by
  induction bytes using encode.induct with
  | case1 x y z rest ih =>
      rw [encode, List.mem_append] at h
      rcases h with h | h
      · exact Or.inr (quad_mem h)
      · exact ih h
  | case2 x y =>
      rw [encode, List.mem_append, List.mem_singleton] at h
      rcases h with h | h
      · exact Or.inr (quad_mem (List.mem_of_mem_take h))
      · exact Or.inl h
  | case3 x =>
      rw [encode, List.mem_append] at h
      rcases h with h | h
      · exact Or.inr (quad_mem (List.mem_of_mem_take h))
      · exact Or.inl (by simpa using h)
  | case4 => cases h

theorem length_encode (bytes : List UInt8) : (encode bytes).length = 4 * ((bytes.length + 2) / 3) := by
  induction bytes using encode.induct with
  | case1 x y z rest ih =>
      rw [encode, List.length_append, ih]
      simp only [quad, List.length_cons, List.length_nil]
      omega
  | case2 x y =>
      rw [encode]
      simp [quad]
  | case3 x =>
      rw [encode]
      simp [quad]
  | case4 => rfl

/-- Two bytes at the end need one padding character, and there is no other. -/
theorem encode_of_mod_two {bytes : List UInt8} (h : bytes.length % 3 = 2) :
    ∃ letters : List UInt8, encode bytes = letters ++ [61] ∧ ∀ c ∈ letters, c ∈ alphabet := by
  induction bytes using encode.induct with
  | case1 x y z rest ih =>
      rw [List.length_cons, List.length_cons, List.length_cons] at h
      obtain ⟨letters, htext, hletters⟩ := ih (by omega)
      refine ⟨quad (beValue [x, y, z]) ++ letters, ?_, fun c hc => ?_⟩
      · rw [encode, htext, List.append_assoc]
      · rcases List.mem_append.1 hc with hc | hc
        · exact quad_mem hc
        · exact hletters c hc
  | case2 x y => exact ⟨_, rfl, fun c hc => quad_mem (List.mem_of_mem_take hc)⟩
  | case3 x => cases h
  | case4 => cases h

/-! ## Decoding -/

/-- The number of a letter; other characters have none. -/
def value (c : UInt8) : Option ℕ := if c ∈ alphabet then some (alphabet.idxOf c) else none

/-- The number that some letters stand for, six bits each. -/
def number (cs : List UInt8) : Option ℕ :=
  cs.foldlM (fun acc c => (value c).map fun n => 64 * acc + n) 0

/-- The `k` bytes in front of the low-order bits, which must be zero. -/
def unpad (k modulus v : ℕ) : Option (List UInt8) :=
  if v % modulus = 0 then some (beBytes k (v / modulus)) else none

/-- The bytes of a text: groups of four letters, of which the last may end with padding. -/
def decode : List UInt8 → Option (List UInt8)
  | [] => some []
  | a :: b :: c :: d :: rest =>
    if d = 61 then
      if rest ≠ [] then none
      else if c = 61 then (number [a, b]).bind (unpad 1 16)
      else (number [a, b, c]).bind (unpad 2 4)
    else (number [a, b, c, d]).bind fun v => (decode rest).map fun bytes => beBytes 3 v ++ bytes
  | _ => none

theorem symbol_ne_pad (n : ℕ) : symbol n ≠ 61 := fun h =>
  absurd (h ▸ symbol_mem n) (by decide)

theorem value_symbol (n : ℕ) : value (symbol n) = some (n % 64) := by
  have hlt : n % 64 < alphabet.length := by
    rw [length_alphabet]
    exact Nat.mod_lt n (by decide)
  have hnodup : alphabet.Nodup := by decide
  rw [value, if_pos (symbol_mem n), symbol, List.getD_eq_getElem _ _ hlt, hnodup.idxOf_getElem]

theorem number_symbols (ns : List ℕ) :
    number (ns.map symbol) = some (ns.foldl (fun acc n => 64 * acc + n % 64) 0) := by
  have key : ∀ acc, (ns.map symbol).foldlM (fun acc c => (value c).map fun n => 64 * acc + n) acc =
      some (ns.foldl (fun acc n => 64 * acc + n % 64) acc) := by
    induction ns with
    | nil => exact fun _ => rfl
    | cons n ns ih =>
        intro acc
        rw [List.map_cons, List.foldlM_cons, value_symbol, List.foldl_cons]
        exact ih _
  exact key 0

/-- The letters of a number of 24 bits stand for that number, and the first of them for its leading
    bits. -/
theorem number_quad {v : ℕ} (h : v < 64 ^ 4) :
    number (quad v) = some v ∧ number ((quad v).take 3) = some (v / 64) ∧
      number ((quad v).take 2) = some (v / 64 ^ 2) := by
  refine ⟨?_, ?_, ?_⟩
  · refine (number_symbols [v / 64 ^ 3, v / 64 ^ 2, v / 64, v]).trans (congrArg some ?_)
    simp only [List.foldl_cons, List.foldl_nil]
    omega
  · refine (number_symbols [v / 64 ^ 3, v / 64 ^ 2, v / 64]).trans (congrArg some ?_)
    simp only [List.foldl_cons, List.foldl_nil]
    omega
  · refine (number_symbols [v / 64 ^ 3, v / 64 ^ 2]).trans (congrArg some ?_)
    simp only [List.foldl_cons, List.foldl_nil]
    omega

/-- Three bytes are a number of 24 bits. -/
theorem beValue_three_lt (a b c : UInt8) : beValue [a, b, c] < 64 ^ 4 := by
  refine lt_of_lt_of_eq (beValue_lt [a, b, c]) ?_
  show 256 ^ 3 = 64 ^ 4
  norm_num

/-- **Round trip.** -/
theorem decode_encode (bytes : List UInt8) : decode (encode bytes) = some bytes := by
  induction bytes using encode.induct with
  | case1 x y z rest ih =>
      have hquad := (number_quad (beValue_three_lt x y z)).1
      rw [quad] at hquad
      rw [encode, quad, List.cons_append, List.cons_append, List.cons_append, List.cons_append,
        List.nil_append, decode, if_neg (symbol_ne_pad _), hquad, ih]
      exact congrArg (fun three => some (three ++ rest)) (beBytes_beValue [x, y, z])
  | case2 x y =>
      have hquad := (number_quad (beValue_three_lt x y 0)).2.1
      have hvalue : beValue [x, y, 0] = 256 * beValue [x, y] := rfl
      have hzero : beValue [x, y, 0] / 64 % 4 = 0 := by omega
      have hrest : beValue [x, y, 0] / 64 / 4 = beValue [x, y] := by omega
      rw [quad, List.take_succ_cons, List.take_succ_cons, List.take_succ_cons, List.take_zero] at hquad
      rw [encode, quad, List.take_succ_cons, List.take_succ_cons, List.take_succ_cons, List.take_zero,
        List.cons_append, List.cons_append, List.cons_append, List.nil_append, decode, if_pos rfl,
        if_neg (not_not_intro rfl), if_neg (symbol_ne_pad _), hquad, Option.bind_some, unpad,
        if_pos hzero, hrest]
      exact congrArg some (beBytes_beValue [x, y])
  | case3 x =>
      have hquad := (number_quad (beValue_three_lt x 0 0)).2.2
      have hvalue : beValue [x, 0, 0] = 256 * (256 * beValue [x]) := rfl
      have hzero : beValue [x, 0, 0] / 64 ^ 2 % 16 = 0 := by omega
      have hrest : beValue [x, 0, 0] / 64 ^ 2 / 16 = beValue [x] := by omega
      rw [quad, List.take_succ_cons, List.take_succ_cons, List.take_zero] at hquad
      rw [encode, quad, List.take_succ_cons, List.take_succ_cons, List.take_zero, List.cons_append,
        List.cons_append, List.nil_append, decode, if_pos rfl, if_neg (not_not_intro rfl), if_pos rfl,
        hquad, Option.bind_some, unpad, if_pos hzero, hrest]
      exact congrArg some (beBytes_beValue [x])
  | case4 => rfl

/-- Different bytes have different texts. -/
theorem encode_injective : Function.Injective encode := by
  intro bytes bytes' h
  have hdecode := decode_encode bytes
  rw [h, decode_encode] at hdecode
  exact (Option.some.inj hdecode).symm

/-! ## Shift-and-mask forms -/

/-- The letter that a shift and a mask select. -/
theorem symbol_shift (v s : UInt32) (k : ℕ) (hs : s.toNat = 6 * k) (hk : k < 5) :
    alphabet.getD ((v >>> s) &&& 0x3F).toNat 0 = symbol (v.toNat / 64 ^ k) := by
  have hshift : s.toNat % 32 = 6 * k := by omega
  have hmask : ∀ n : ℕ, n &&& 63 = n % 2 ^ 6 := fun n => Nat.and_two_pow_sub_one_eq_mod n 6
  have hpow : (2 : ℕ) ^ (6 * k) = 64 ^ k := by rw [pow_mul]; norm_num
  simp only [symbol, UInt32.toNat_and, UInt32.toNat_shiftRight, hshift, UInt32.reduceToNat, hmask,
    Nat.shiftRight_eq_div_pow, hpow, Nat.reducePow]

theorem toUInt32_zero : (0 : UInt8).toUInt32 = 0 := rfl

/-- Assembling three bytes with shifts is reading them big-endian. -/
theorem toNat_or_shift24 (a b c : UInt8) :
    ((a.toUInt32 <<< 16) ||| (b.toUInt32 <<< 8) ||| c.toUInt32).toNat = beValue [a, b, c] := by
  have hzero : beValue [a, b, c] = beValue [0, a, b, c] := rfl
  rw [hzero, ← toNat_or_shift32, toUInt32_zero, UInt32.zero_shiftLeft, UInt32.zero_or]

end Base64
