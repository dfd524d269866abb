import DtmcLinux.Foundation.Loop
import Mathlib.Tactic.Ring

set_option autoImplicit false

/-! # Iterated block functions

The Merkle–Damgård pattern: a message whose length is a multiple of the block length `B` is cut
into blocks, and a compression function folds them into a chaining value. `iterate` is the one-shot
definition on the whole message; `Streaming` is the invariant of an implementation that receives
the message piece by piece and keeps the incomplete last block aside. -/

namespace BlockHash

variable {S α : Type*} (B : ℕ) (compress : S → List α → S)

/-- Block number `i` of a message. -/
def blockAt (m : List α) (i : ℕ) : List α := (m.drop (B * i)).take B

/-- Fold the compression function over the blocks of a message. -/
def iterate (h0 : S) (m : List α) : S :=
  forRange 0 (m.length / B) (fun i h => compress h (blockAt B m i)) h0

theorem iterate_nil (h0 : S) : iterate B compress h0 [] = h0 := by
  rw [iterate, List.length_nil, Nat.zero_div, forRange.empty]

variable {B}

theorem blockAt_append_left {m tail : List α} {n i : ℕ} (hm : m.length = B * n) (hi : i < n) :
    blockAt B (m ++ tail) i = blockAt B m i := by
  have hlen : B * i + B ≤ m.length := by
    rw [hm, ← Nat.mul_succ]
    exact Nat.mul_le_mul_left B hi
  unfold blockAt
  rw [List.drop_append_of_le_length (by omega), List.take_append_of_le_length]
  rw [List.length_drop]
  omega

theorem blockAt_append_self {m b : List α} {n : ℕ} (hm : m.length = B * n) (hb : b.length = B) :
    blockAt B (m ++ b) n = b := by
  unfold blockAt
  rw [← hm, List.drop_left, List.take_of_length_le (le_of_eq hb)]

variable {compress}

/-- Appending one complete block to a block-aligned message compresses that block last. -/
theorem iterate_append_block (hB : 0 < B) (h0 : S) {m b : List α} (hm : B ∣ m.length)
    (hb : b.length = B) :
    iterate B compress h0 (m ++ b) = compress (iterate B compress h0 m) b := by
  obtain ⟨n, hn⟩ := hm
  have hlen : (m ++ b).length / B = 0 + (n + 1) := by
    rw [List.length_append, hn, hb, ← Nat.mul_succ, Nat.mul_div_cancel_left _ hB, zero_add]
  have hlen' : m.length / B = 0 + n := by
    rw [hn, Nat.mul_div_cancel_left _ hB, zero_add]
  unfold iterate
  rw [hlen, hlen', forRange.succ, zero_add, blockAt_append_self hn hb]
  congr 1
  refine forRange.related Eq (Nat.zero_le _) rfl ?_
  rintro i h _ _ hi rfl
  rw [blockAt_append_left hn hi]

variable (B compress)

/-- The state of a streaming implementation that has received the message `m`: the chaining value
    covers a block-aligned part of it and `pending`, shorter than a block, is the rest. -/
def Streaming (h0 : S) (m : List α) (h : S) (pending : List α) : Prop :=
  ∃ done, m = done ++ pending ∧ B ∣ done.length ∧ pending.length < B ∧
    h = iterate B compress h0 done

variable {B compress} {h0 h : S} {m pending : List α}

theorem Streaming.start (hB : 0 < B) : Streaming B compress h0 [] h0 [] :=
  ⟨[], rfl, ⟨0, rfl⟩, hB, (iterate_nil B compress h0).symm⟩

/-- Receiving bytes that do not complete the block only extends the pending part. -/
theorem Streaming.extend (hs : Streaming B compress h0 m h pending) (bs : List α)
    (hlt : (pending ++ bs).length < B) : Streaming B compress h0 (m ++ bs) h (pending ++ bs) := by
  obtain ⟨done, hm, hdone, _, hh⟩ := hs
  exact ⟨done, by rw [hm, List.append_assoc], hdone, hlt, hh⟩

/-- Receiving bytes that complete the block compresses it and empties the pending part. -/
theorem Streaming.complete (hB : 0 < B) (hs : Streaming B compress h0 m h pending) (bs : List α)
    (hfull : (pending ++ bs).length = B) :
    Streaming B compress h0 (m ++ bs) (compress h (pending ++ bs)) [] := by
  obtain ⟨done, hm, hdone, _, hh⟩ := hs
  refine ⟨done ++ (pending ++ bs), ?_, ?_, hB, ?_⟩
  · rw [hm, List.append_nil, List.append_assoc]
  · rw [List.length_append, hfull]
    exact Nat.dvd_add hdone (Nat.dvd_refl B)
  · rw [iterate_append_block hB h0 hdone hfull, hh]

theorem Streaming.pending_length (hs : Streaming B compress h0 m h pending) :
    pending.length = m.length % B := by
  obtain ⟨done, hm, ⟨n, hn⟩, hlt, _⟩ := hs
  rw [hm, List.length_append, hn, Nat.mul_add_mod, Nat.mod_eq_of_lt hlt]

/-- Once the received message is block-aligned, the chaining value is the one-shot result. -/
theorem Streaming.finished (hs : Streaming B compress h0 m h pending) (hm : B ∣ m.length) :
    h = iterate B compress h0 m := by
  have hp : pending = [] := by
    rw [← List.length_eq_zero_iff, hs.pending_length]
    exact Nat.mod_eq_zero_of_dvd hm
  obtain ⟨done, hdone, _, _, hh⟩ := hs
  rw [hh, hdone, hp, List.append_nil]

end BlockHash
