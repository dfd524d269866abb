import DtmcLinux.Dtcore.Dterr
import DtmcLinux.Posix.Getopt

set_option autoImplicit false

/-! # What the command line parsers share

`parse_int_strict`, `fail_badarg` and `fail_range`, of which each parser has its own copy. -/

namespace Apps

open Posix

/-- `parse_int_strict`, with a `long` of 64 bits. -/
def parseIntStrict (s : Arg) : Option ℤ :=
  if s = [] then none
  else if strtolEnd s = s ∨ strtolEnd s ≠ [] then none
  else if strtol s < -2147483648 ∨ strtol s > 2147483647 then none
  else some (strtol s)

/-- `fail_badarg` -/
def failBadarg (message : String) : Dterr := .new .badarg (inBuffer 512 message)

/-- `fail_range` -/
def failRange (message : String) : Dterr := .new .range (inBuffer 512 message)

/-- **Numerals are parsed.** -/
theorem parseIntStrict_numeral {n : ℕ} (h : n < 2 ^ 31) :
    parseIntStrict (Decimal.numeral n) = some (n : ℤ) := by
  have hdigits : ∀ b ∈ Decimal.numeral n, isdigit b = true := fun b hb =>
    Decimal.isDigit_of_mem_numeral hb
  have hne := Decimal.numeral_ne_nil n
  have hvalue : strtol (Decimal.numeral n) = n := by
    have hread : strtol (Decimal.numeral n ++ []) = _ :=
      strtol_digits hne hdigits fun b hb => (by cases hb)
    rw [List.append_nil, Decimal.value_numeral] at hread
    rw [hread]
    omega
  have hend := strtolEnd_digits hne hdigits
  rw [parseIntStrict, if_neg hne, hend, if_neg, hvalue, if_neg]
  · omega
  · rintro (hnil | hnil)
    · exact hne hnil.symm
    · exact hnil rfl

end Apps
