import DtmcLinux.Posix.CString
import DtmcLinux.Posix.Socket

set_option autoImplicit false

/-! # Receiving up to a pattern

A loop of `recv` calls that looks for a pattern in the text it has received, and gives up when the
buffer is full. Whether it finds the pattern, and where, does not depend on the segments the stream
comes in; where the buffer ends does. -/

namespace Posix

/-- Look for the pattern, and give up when there are `capacity` bytes. -/
def findOrFull {β : Type} (pat : List UInt8) (capacity : ℕ) (found : ℕ → β) (full : Dterr)
    (bytes : List UInt8) : Option (Except Dterr β) :=
  match strstr bytes pat with
  | some i => some (.ok (found i))
  | none => if bytes.length ≥ capacity then some (.error full) else none

variable {β : Type} {pat stream : List UInt8} {capacity : ℕ} {found : ℕ → β} {full : Dterr}
  {errors : RecvErrors} {segs : List (List UInt8)}

/-- Within the capacity, a prefix of the stream shows the pattern when it holds it whole. -/
theorem strstr_take {n : ℕ} (hn : n ≤ capacity) :
    strstr (stream.take n) pat =
      (strstr (stream.take capacity) pat).filter fun i => i + pat.length ≤ n := by
  have htake : stream.take n = (stream.take capacity).take n := by
    rw [List.take_take, Nat.min_eq_left hn]
  rw [htake, strstr, cString_take, findSub_take]
  rfl

theorem strstr_le {i : ℕ} (hfind : strstr (stream.take capacity) pat = some i) :
    i + pat.length ≤ capacity ∧ i + pat.length ≤ stream.length := by
  have hle := findSub_le hfind
  have htake : (cString (stream.take capacity)).length ≤ min capacity stream.length := by
    rw [← List.length_take]
    exact (List.takeWhile_prefix _).length_le
  omega

/-- **No pattern within the capacity**: the buffer is full, or the peer closes. -/
theorem recvLoop_findOrFull_none (hcut : Cut segs stream)
    (hfind : strstr (stream.take capacity) pat = none) :
    recvLoop capacity (findOrFull pat capacity found full) errors [] (segs.map .segment) =
      .error (if 0 < capacity ∧ capacity ≤ stream.length then full else errors.closed) := by
  have hnone : ∀ n ≤ capacity, strstr (stream.take n) pat = none := by
    intro n hn
    rw [strstr_take hn, hfind]
    rfl
  rw [recvLoop_segments]
  cases hread : readSegments capacity (findOrFull pat capacity found full) [] segs with
  | none =>
      show Except.error _ = Except.error _
      have hroom : ¬ (0 < capacity ∧ capacity ≤ stream.length) := by
        rintro ⟨hpos, hle⟩
        rcases readSegments_none hcut hread with hend | hroom | hcheck
        · rw [List.length_nil] at hend
          omega
        · rw [List.length_nil] at hroom
          omega
        · rw [List.length_nil, Nat.sub_zero, List.nil_append, findOrFull, hnone _ (Nat.le_refl _),
            if_pos (by rw [List.length_take]; omega)] at hcheck
          exact absurd hcheck (by simp)
      rw [if_neg hroom]
  | some result =>
      obtain ⟨outcome, bytes, rest⟩ := result
      obtain ⟨n, hpos, hle, hlimit, hbytes, hcheck, -⟩ := readSegments_some hcut hread
      rw [List.nil_append] at hbytes
      rw [List.length_nil, Nat.zero_add] at hlimit
      subst hbytes
      rw [findOrFull, hnone n hlimit] at hcheck
      simp only [Option.ite_none_right_eq_some, Option.some.injEq] at hcheck
      obtain ⟨hfull, rfl⟩ := hcheck
      rw [List.length_take] at hfull
      show Except.error _ = Except.error _
      rw [if_pos ⟨by omega, by omega⟩]

/-- **A pattern within the capacity** is found; the buffer is a prefix of the stream that holds it
    whole. -/
theorem recvLoop_findOrFull_some (hpat : pat ≠ []) (hcut : Cut segs stream) {i : ℕ}
    (hfind : strstr (stream.take capacity) pat = some i) :
    ∃ n rest, i + pat.length ≤ n ∧ n ≤ capacity ∧ n ≤ stream.length ∧ Cut rest (stream.drop n) ∧
      recvLoop capacity (findOrFull pat capacity found full) errors [] (segs.map .segment) =
        .ok (found i, stream.take n, rest.map .segment) := by
  obtain ⟨hcapacity, hlength⟩ := strstr_le hfind
  have hpatLength := List.length_pos_iff.2 hpat
  rw [recvLoop_segments]
  cases hread : readSegments capacity (findOrFull pat capacity found full) [] segs with
  | none =>
      exfalso
      rcases readSegments_none hcut hread with hclosed | hroom | hcheck
      · rw [List.length_nil] at hclosed
        omega
      · rw [List.length_nil] at hroom
        omega
      · rw [List.length_nil, Nat.sub_zero, List.nil_append, findOrFull, hfind] at hcheck
        exact absurd hcheck (by simp)
  | some result =>
      obtain ⟨outcome, bytes, rest⟩ := result
      obtain ⟨n, hpos, hle, hlimit, hbytes, hcheck, hrest⟩ := readSegments_some hcut hread
      rw [List.nil_append] at hbytes
      rw [List.length_nil, Nat.zero_add] at hlimit
      subst hbytes
      rw [findOrFull, strstr_take hlimit, hfind, Option.filter_some] at hcheck
      by_cases hn : i + pat.length ≤ n
      · rw [if_pos (decide_eq_true hn)] at hcheck
        obtain rfl := Option.some.inj hcheck
        exact ⟨n, rest, hn, hlimit, hle, hrest, rfl⟩
      · -- the buffer is full, and yet does not hold all of the pattern
        rw [if_neg (by simpa using hn)] at hcheck
        simp only [Option.ite_none_right_eq_some, List.length_take] at hcheck
        omega

/-! ## Receiving what arrives -/

variable {events : List RecvEvent}

/-- Without a pattern, reception fails for one reason or another. -/
theorem recvLoop_arrived_none (hfind : strstr ((arrived events).take capacity) pat = none) :
    ∃ dterr, recvLoop capacity (findOrFull pat capacity found full) errors [] events =
      .error dterr := by
  have halike := recvLoop_arrivals capacity (findOrFull pat capacity found full) errors [] events
  rw [recvLoop_findOrFull_none (cut_arrivals events) hfind] at halike
  cases hloop : recvLoop capacity (findOrFull pat capacity found full) errors [] events with
  | error dterr => exact ⟨dterr, rfl⟩
  | ok received =>
      rw [hloop] at halike
      cases halike

/-- With one, interruptions and what happens behind it do not matter. -/
theorem recvLoop_arrived_some (hpat : pat ≠ []) {i : ℕ}
    (hfind : strstr ((arrived events).take capacity) pat = some i) :
    ∃ n rest, i + pat.length ≤ n ∧ recvLoop capacity (findOrFull pat capacity found full) errors []
      events = .ok (found i, (arrived events).take n, rest) := by
  have halike := recvLoop_arrivals capacity (findOrFull pat capacity found full) errors [] events
  obtain ⟨n, segs, hn, -, -, -, hread⟩ : ∃ n segs, i + pat.length ≤ n ∧ n ≤ capacity ∧
      n ≤ (arrived events).length ∧ Cut segs ((arrived events).drop n) ∧
      recvLoop capacity (findOrFull pat capacity found full) errors []
        ((arrivals events).map .segment) =
          .ok (found i, (arrived events).take n, segs.map .segment) :=
    recvLoop_findOrFull_some hpat (cut_arrivals events) hfind
  rw [hread] at halike
  cases hloop : recvLoop capacity (findOrFull pat capacity found full) errors [] events with
  | error dterr =>
      rw [hloop] at halike
      cases halike
  | ok received =>
      obtain ⟨b, bytes, rest⟩ := received
      rw [hloop] at halike
      obtain ⟨rfl, rfl, -⟩ := halike
      exact ⟨n, rest, hn, rfl⟩

end Posix
