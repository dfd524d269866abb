import Mathlib.Data.List.Basic

set_option autoImplicit false

/-! # The byte FIFO

`dtringfifo.h` comes from `dtcore`, which is not part of the library: the FIFO is a parameter, with
the properties the backends rely on. -/

/-- The operations of `dtringfifo.h` the backends use: `push` returns how many bytes it stored,
    `pop` takes at most the given number. -/
class Dtringfifo (F : Type*) where
  push : F → List UInt8 → F × ℕ
  pop : F → ℕ → F × List UInt8
  reset : F → F
  /-- the bytes stored, oldest first -/
  contents : F → List UInt8

/-- The FIFO is a FIFO: `push` appends the bytes it reports as stored, `pop` removes a prefix. -/
class LawfulDtringfifo (F : Type*) [Dtringfifo F] : Prop where
  push_le (f : F) (bs : List UInt8) : (Dtringfifo.push f bs).2 ≤ bs.length
  contents_push (f : F) (bs : List UInt8) :
    Dtringfifo.contents (Dtringfifo.push f bs).1
      = Dtringfifo.contents f ++ bs.take (Dtringfifo.push f bs).2
  contents_pop (f : F) (n : ℕ) :
    Dtringfifo.contents f = (Dtringfifo.pop f n).2 ++ Dtringfifo.contents (Dtringfifo.pop f n).1
  contents_reset (f : F) : Dtringfifo.contents (Dtringfifo.reset f) = []

/-- The FIFO is bounded: `push` stores the longest prefix that fits. -/
class BoundedDtringfifo (F : Type*) [Dtringfifo F] extends LawfulDtringfifo F where
  capacity : F → ℕ
  push_snd (f : F) (bs : List UInt8) : (Dtringfifo.push f bs).2
    = min bs.length (capacity f - (Dtringfifo.contents f).length)
  capacity_push (f : F) (bs : List UInt8) : capacity (Dtringfifo.push f bs).1 = capacity f
  capacity_pop (f : F) (n : ℕ) : capacity (Dtringfifo.pop f n).1 = capacity f

/-- A FIFO that keeps its bytes in a list. -/
structure ByteFifo where
  capacity : ℕ
  bytes : List UInt8

instance : Dtringfifo ByteFifo where
  push f bs :=
    let n := min bs.length (f.capacity - f.bytes.length)
    ({ f with bytes := f.bytes ++ bs.take n }, n)
  pop f n := ({ f with bytes := f.bytes.drop n }, f.bytes.take n)
  reset f := { f with bytes := [] }
  contents f := f.bytes

instance : LawfulDtringfifo ByteFifo where
  push_le _ _ := Nat.min_le_left _ _
  contents_push _ _ := rfl
  contents_pop f n := (List.take_append_drop n f.bytes).symm
  contents_reset _ := rfl

instance : BoundedDtringfifo ByteFifo where
  capacity f := f.capacity
  push_snd _ _ := rfl
  capacity_push _ _ := rfl
  capacity_pop _ _ := rfl
