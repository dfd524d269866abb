import Mathlib.Data.List.Basic
import Mathlib.Data.Nat.ModEq

set_option autoImplicit false

/-! # Circular buffers

A ring of `cap` cells with a read position `head` and a number `count` of occupied cells. The
occupied cells are `head, head + 1, …` modulo `cap`, and `contents` lists what they hold, oldest
first. Writing the cell after the last occupied one appends to `contents`; advancing `head` removes
its first element. -/

namespace RingBuffer

variable {α : Type*} [Inhabited α]

/-- The cell that is `i` places after `head`. -/
def cellAt (ring : List α) (cap head i : ℕ) : α := ring[(head + i) % cap]!

/-- The occupied cells, oldest first. -/
def contents (ring : List α) (cap head count : ℕ) : List α :=
  (List.range count).map (cellAt ring cap head)

@[simp] theorem length_contents (ring : List α) (cap head count : ℕ) :
    (contents ring cap head count).length = count := by
  rw [contents, List.length_map, List.length_range]

theorem contents_zero (ring : List α) (cap head : ℕ) : contents ring cap head 0 = [] := rfl

/-- Less than one revolution apart, different offsets from `head` are different cells. -/
theorem add_mod_ne {cap head i j : ℕ} (hij : i < j) (hj : j < cap) :
    (head + i) % cap ≠ (head + j) % cap := by
  intro h
  have hmod : i ≡ j [MOD cap] := Nat.ModEq.add_left_cancel' head h
  have heq := Nat.ModEq.eq_of_lt_of_lt hmod (Nat.lt_trans hij hj) hj
  omega

/-- Writing the cell after the last occupied one appends to the contents. -/
theorem contents_set {ring : List α} {cap head count : ℕ} (x : α) (hlen : ring.length = cap)
    (hroom : count < cap) :
    contents (ring.set ((head + count) % cap) x) cap head (count + 1)
      = contents ring cap head count ++ [x] := by
  have hcap : 0 < cap := Nat.lt_of_le_of_lt (Nat.zero_le count) hroom
  have hbound : ∀ n, n % cap < ring.length := by
    intro n
    rw [hlen]
    exact Nat.mod_lt n hcap
  unfold contents
  rw [List.range_succ, List.map_append, List.map_singleton]
  congr 1
  · apply List.map_congr_left
    intro i hi
    have hne : (head + i) % cap ≠ (head + count) % cap := add_mod_ne (List.mem_range.1 hi) hroom
    have hi' := hbound (head + i)
    simp only [cellAt]
    have hi'' : (head + i) % cap < (ring.set ((head + count) % cap) x).length := by
      rw [List.length_set]
      exact hi'
    rw [getElem!_pos (ring.set ((head + count) % cap) x) _ hi'', getElem!_pos ring _ hi',
      List.getElem_set_ne hne.symm]
  · have hc : (head + count) % cap < (ring.set ((head + count) % cap) x).length := by
      rw [List.length_set]
      exact hbound (head + count)
    simp only [cellAt]
    rw [getElem!_pos (ring.set ((head + count) % cap) x) _ hc, List.getElem_set_self]

/-- The first element is the one in the head cell; the rest is what remains after advancing the
    read position. -/
theorem contents_succ (ring : List α) {cap head count : ℕ} (hhead : head < cap) :
    contents ring cap head (count + 1)
      = ring[head]! :: contents ring cap ((head + 1) % cap) count := by
  unfold contents
  rw [List.range_succ_eq_map, List.map_cons, List.map_map]
  congr 1
  · rw [cellAt, Nat.add_zero, Nat.mod_eq_of_lt hhead]
  · apply List.map_congr_left
    intro i _
    show cellAt ring cap head (i + 1) = cellAt ring cap ((head + 1) % cap) i
    rw [cellAt, cellAt, Nat.mod_add_mod, Nat.add_assoc, Nat.add_comm 1 i]

end RingBuffer
