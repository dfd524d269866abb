import DtmcLinux.Foundation.Decimal
import DtmcLinux.Foundation.FirstOccurrence
import Mathlib.Algebra.Ring.Int.Defs
import Mathlib.Algebra.Ring.Nat
import Mathlib.Data.List.TakeWhile

set_option autoImplicit false

/-! # C strings

The functions of the C library on texts of bytes, in the C locale. A buffer holds the text before
its first NUL byte; a buffer that is a list without one is followed by one in memory. -/

namespace Posix

/-- The text a buffer holds. -/
def cString (bytes : List UInt8) : List UInt8 := bytes.takeWhile (· ≠ 0)

theorem cString_take (bytes : List UInt8) (n : ℕ) :
    cString (bytes.take n) = (cString bytes).take n := List.take_takeWhile.symm

/-- A text without a NUL byte is in the buffer whole. -/
theorem cString_append {text : List UInt8} (h : 0 ∉ text) (rest : List UInt8) :
    cString (text ++ rest) = text ++ cString rest :=
  List.takeWhile_append_of_pos fun _ hb => decide_eq_true fun hzero => h (hzero ▸ hb)

theorem cString_of_not_mem {text : List UInt8} (h : 0 ∉ text) : cString text = text := by
  have hnil : cString [] = [] := rfl
  have htext := cString_append h []
  rwa [hnil, List.append_nil] at htext

theorem cString_eq_self_iff {text : List UInt8} : cString text = text ↔ 0 ∉ text := by
  refine ⟨fun htext hzero => ?_, cString_of_not_mem⟩
  have hall := List.takeWhile_eq_self_iff.1 htext 0 hzero
  simp at hall

/-- What is behind the first NUL byte does not matter. -/
theorem cString_append_zero (text rest : List UInt8) : cString (text ++ 0 :: rest) = cString text := by
  unfold cString
  induction text with
  | nil => rfl
  | cons b text ih => rw [List.cons_append, List.takeWhile_cons, List.takeWhile_cons, ih]

/-- The bytes of a literal. -/
def ascii (literal : String) : List UInt8 := literal.toList.map fun c => c.toNat.toUInt8

theorem ascii_crlf : ascii "\r\n" = 13 :: [10] := by decide

/-- `strstr`, as an index. -/
def strstr (haystack needle : List UInt8) : Option ℕ := findSub needle (cString haystack)

/-- White space: a blank, or one of `\t`, `\n`, `\v`, `\f`, `\r`. -/
def isspace (b : UInt8) : Bool := b == 32 || (9 ≤ b && b ≤ 13)

def isdigit (b : UInt8) : Bool := 48 ≤ b && b ≤ 57

def tolower (b : UInt8) : UInt8 := if 65 ≤ b && b ≤ 90 then b + 32 else b

/-- `strcasecmp(a, b) == 0` -/
def strcaseeq (a b : List UInt8) : Bool := a.map tolower == b.map tolower

/-- The conversion `%<width>s` of `sscanf`: it skips white space and takes at most `width` bytes that
    are none, at least one. The rest of the text is for the next conversion. -/
def scanString (width : ℕ) (text : List UInt8) : Option (List UInt8 × List UInt8) :=
  let text := text.dropWhile isspace
  let token := (text.takeWhile fun b => !isspace b).take width
  if token = [] then none else some (token, text.drop token.length)

/-- A text without white space. -/
structure IsToken (token : List UInt8) : Prop where
  ne_nil : token ≠ []
  no_space : ∀ b ∈ token, isspace b = false

/-- What follows a token: nothing, or white space. -/
def EndsToken (rest : List UInt8) : Prop := ∀ b, rest.head? = some b → isspace b = true

/-- **A token is scanned up to the width.** The rest of it is for the next conversion. -/
theorem scanString_token {width : ℕ} (hwidth : 0 < width) {token rest : List UInt8}
    (htoken : IsToken token) (hrest : EndsToken rest) :
    scanString width (token ++ rest) = some (token.take width, token.drop width ++ rest) := by
  have hskip : (token ++ rest).dropWhile isspace = token ++ rest := by
    cases token with
    | nil => exact absurd rfl htoken.ne_nil
    | cons b token =>
        rw [List.cons_append, List.dropWhile_cons_of_neg]
        rw [htoken.no_space b List.mem_cons_self]
        exact Bool.false_ne_true
  have htake : (token ++ rest).takeWhile (fun b => !isspace b) = token := by
    rw [List.takeWhile_append_of_pos fun b hb => by rw [htoken.no_space b hb]; rfl]
    cases rest with
    | nil => rw [List.takeWhile_nil, List.append_nil]
    | cons b rest =>
        rw [List.takeWhile_cons_of_neg, List.append_nil]
        rw [hrest b rfl]
        exact Bool.false_ne_true
  have hne : token.take width ≠ [] := by
    rw [ne_eq, List.take_eq_nil_iff, not_or]
    exact ⟨Nat.pos_iff_ne_zero.1 hwidth, htoken.ne_nil⟩
  rw [scanString, hskip, htake, if_neg hne, List.length_take]
  congr 2
  rcases Nat.le_total width token.length with hle | hle
  · rw [Nat.min_eq_left hle, List.drop_append_of_le_length hle]
  · rw [Nat.min_eq_right hle, List.drop_left, List.drop_of_length_le hle, List.nil_append]

/-- White space before a token is skipped. -/
theorem scanString_cons {width : ℕ} {b : UInt8} (hb : isspace b = true) (text : List UInt8) :
    scanString width (b :: text) = scanString width text := by
  rw [scanString, scanString, List.dropWhile_cons_of_pos hb]

/-- `strtol(text, NULL, 10)`, with a `long` of 64 bits. -/
def strtol (text : List UInt8) : ℤ :=
  let text := text.dropWhile isspace
  let (negative, digits) :=
    match text with
    | 45 :: rest => (true, rest)
    | 43 :: rest => (false, rest)
    | _ => (false, text)
  let magnitude : ℤ := (digits.takeWhile isdigit).foldl (fun m b => 10 * m + (b.toNat - 48)) 0
  if negative then max (-magnitude) (-2 ^ 63) else min magnitude (2 ^ 63 - 1)

/-- What `*end` is after `strtol(text, &end, 10)`: the text itself when there is no number. -/
def strtolEnd (text : List UInt8) : List UInt8 :=
  let number :=
    match text.dropWhile isspace with
    | 45 :: rest => rest
    | 43 :: rest => rest
    | rest => rest
  if number.head?.any isdigit then number.dropWhile isdigit else text

/-- `atoi`, which is `(int)strtol(text, NULL, 10)`. -/
def atoi (text : List UInt8) : ℤ := (strtol text).bmod (2 ^ 32)

/-- A text that begins with no digit. -/
def NoDigit (rest : List UInt8) : Prop := ∀ b, rest.head? = some b → isdigit b = false

theorem foldl_digits {digits : List UInt8} (h : ∀ b ∈ digits, isdigit b = true) (m : ℕ) :
    digits.foldl (fun (m : ℤ) b => 10 * m + (b.toNat - 48)) m =
      (digits.foldl (fun n b => 10 * n + (b.toNat - 48)) m : ℕ) := by
  induction digits generalizing m with
  | nil => rfl
  | cons b digits ih =>
      have hb := h b List.mem_cons_self
      rw [isdigit, Bool.and_eq_true, decide_eq_true_eq, UInt8.le_iff_toNat_le] at hb
      have hle : 48 ≤ b.toNat := hb.1
      have hstep : (10 * (m : ℤ) + (b.toNat - 48)) = ((10 * m + (b.toNat - 48) : ℕ) : ℤ) := by omega
      rw [List.foldl_cons, List.foldl_cons, hstep, ih fun b hb => h b (List.mem_cons_of_mem _ hb)]

/-- **Digits are read**, up to the largest `long`. -/
theorem strtol_digits {digits rest : List UInt8} (hne : digits ≠ [])
    (h : ∀ b ∈ digits, isdigit b = true) (hrest : NoDigit rest) :
    strtol (digits ++ rest) = min (Decimal.value digits : ℤ) (2 ^ 63 - 1) := by
  have htake : (digits ++ rest).takeWhile isdigit = digits := by
    rw [List.takeWhile_append_of_pos h]
    cases rest with
    | nil => rw [List.takeWhile_nil, List.append_nil]
    | cons b rest =>
        rw [List.takeWhile_cons_of_neg, List.append_nil]
        rw [hrest b rfl]
        exact Bool.false_ne_true
  have hfold := foldl_digits h 0
  cases digits with
  | nil => exact absurd rfl hne
  | cons b digits =>
      have hb := h b List.mem_cons_self
      have hspace : isspace b = false := by
        rw [isdigit, Bool.and_eq_true, decide_eq_true_eq, decide_eq_true_eq,
          UInt8.le_iff_toNat_le, UInt8.le_iff_toNat_le] at hb
        rw [isspace, Bool.or_eq_false_iff, Bool.and_eq_false_iff, beq_eq_false_iff_ne]
        constructor
        · rintro rfl
          exact absurd hb.1 (by decide)
        · right
          rw [decide_eq_false_iff_not, UInt8.le_iff_toNat_le]
          have h48 : (48 : UInt8).toNat = 48 := rfl
          have h13 : (13 : UInt8).toNat = 13 := rfl
          omega
      have hskip : ((b :: digits) ++ rest).dropWhile isspace = (b :: digits) ++ rest := by
        rw [List.cons_append, List.dropWhile_cons_of_neg]
        rw [hspace]
        exact Bool.false_ne_true
      unfold strtol
      rw [hskip]
      dsimp only
      split
      · rename_i hsign
        obtain ⟨rfl, -⟩ := List.cons.inj hsign
        exact absurd hb (by decide)
      · rename_i hsign
        obtain ⟨rfl, -⟩ := List.cons.inj hsign
        exact absurd hb (by decide)
      · rw [htake]
        simp only [Bool.false_eq_true, if_false]
        rw [Decimal.value, ← hfold]
        rfl

theorem isspace_of_isdigit {b : UInt8} (hb : isdigit b = true) : isspace b = false := by
  rw [isdigit, Bool.and_eq_true, decide_eq_true_eq, decide_eq_true_eq, UInt8.le_iff_toNat_le,
    UInt8.le_iff_toNat_le] at hb
  rw [isspace, Bool.or_eq_false_iff, Bool.and_eq_false_iff, beq_eq_false_iff_ne]
  constructor
  · rintro rfl
    exact absurd hb.1 (by decide)
  · right
    rw [decide_eq_false_iff_not, UInt8.le_iff_toNat_le]
    have h48 : (48 : UInt8).toNat = 48 := rfl
    have h13 : (13 : UInt8).toNat = 13 := rfl
    omega

/-- Digits are read to their end. -/
theorem strtolEnd_digits {digits : List UInt8} (hne : digits ≠ [])
    (h : ∀ b ∈ digits, isdigit b = true) : strtolEnd digits = [] := by
  have hend : digits.dropWhile isdigit = [] := List.dropWhile_eq_nil_iff.2 h
  cases digits with
  | nil => exact absurd rfl hne
  | cons b digits =>
      have hb := h b List.mem_cons_self
      have hskip : (b :: digits).dropWhile isspace = b :: digits := by
        rw [List.dropWhile_cons_of_neg]
        rw [isspace_of_isdigit hb]
        exact Bool.false_ne_true
      unfold strtolEnd
      rw [hskip]
      dsimp only
      split
      · next hsign =>
          obtain ⟨rfl, -⟩ := List.cons.inj hsign
          exact absurd hb (by decide)
      · next hsign =>
          obtain ⟨rfl, -⟩ := List.cons.inj hsign
          exact absurd hb (by decide)
      · rw [List.head?_cons, Option.any_some, hb, if_pos rfl]
        exact hend

/-- Numbers that an `int` holds are read as they are. -/
theorem atoi_digits {digits rest : List UInt8} (hne : digits ≠ [])
    (h : ∀ b ∈ digits, isdigit b = true) (hrest : NoDigit rest)
    (hsmall : Decimal.value digits < 2 ^ 31) : atoi (digits ++ rest) = Decimal.value digits := by
  rw [atoi, strtol_digits hne h hrest, Int.min_eq_left (by omega)]
  exact Int.bmod_eq_of_le (by omega) (by omega)

/-- What `atoi` returns is an `int`. -/
theorem atoi_lt (text : List UInt8) : atoi text < 2 ^ 31 := by
  have hlt := Int.bmod_lt (x := strtol text) (m := 2 ^ 32) (by decide)
  rw [atoi]
  omega

example : atoi (ascii " +12x") = 12 := by decide +kernel

end Posix
