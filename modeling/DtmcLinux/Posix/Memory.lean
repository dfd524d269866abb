import Mathlib.Data.List.Basic

set_option autoImplicit false

/-! # Blocks of memory

A block is the list of its bytes; `NULL` is the empty one. -/

namespace Posix

/-- `realloc`: the outcome is `none` when it fails, and the contents of the bytes that are new
    otherwise. -/
def realloc (block : List UInt8) (size : ℕ) (outcome : Option (ℕ → UInt8)) : Option (List UInt8) :=
  outcome.map fun fresh =>
    block.take size ++ (List.range (size - block.length)).map fresh

/-- `memcpy` into a block, at an offset: `none` when it would leave the block. -/
def memcpy (block : List UInt8) (offset : ℕ) (bytes : List UInt8) : Option (List UInt8) :=
  if offset + bytes.length ≤ block.length then
    some (block.take offset ++ bytes ++ block.drop (offset + bytes.length))
  else none

section
variable {block block' bytes : List UInt8} {size offset : ℕ} {outcome : Option (ℕ → UInt8)}

/-- A block that grows has the new size, and keeps what it held. -/
theorem realloc_spec (h : realloc block size outcome = some block') (hsize : block.length ≤ size) :
    block'.length = size ∧ block'.take block.length = block := by
  obtain ⟨fresh, -, rfl⟩ := Option.map_eq_some_iff.1 h
  rw [List.take_of_length_le hsize]
  refine ⟨?_, List.take_left⟩
  rw [List.length_append, List.length_map, List.length_range, Nat.add_sub_cancel' hsize]

/-- A copy that stays in the block keeps its length, and extends what was stored before it. -/
theorem memcpy_spec (hfits : offset + bytes.length ≤ block.length) :
    ∃ block', memcpy block offset bytes = some block' ∧ block'.length = block.length ∧
      block'.take (offset + bytes.length) = block.take offset ++ bytes := by
  refine ⟨_, if_pos hfits, ?_, ?_⟩
  · simp only [List.length_append, List.length_take, List.length_drop]
    omega
  · have hlen : (block.take offset ++ bytes).length = offset + bytes.length := by
      rw [List.length_append, List.length_take]
      omega
    rw [← hlen]
    exact List.take_left

end

end Posix
