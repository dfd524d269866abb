import DtmcLinux.Foundation.BigEndian
import DtmcLinux.Foundation.BlockHash

set_option autoImplicit false

/-! # SHA-1 as FIPS 180-4 defines it

The reference the implementation is compared with: functions and constants of §4.1.1 and §4.2.1,
padding and parsing of §5.1.1 and §5.2.1, the initial hash value of §5.3.1 and the hash
computation of §6.1.2. Messages are byte strings. -/

namespace Fips180

/-- The five 32-bit words of a chaining value, and of the working variables `a, b, c, d, e`. -/
structure Words where
  a : UInt32
  b : UInt32
  c : UInt32
  d : UInt32
  e : UInt32
  deriving DecidableEq, Repr

/-- `ROTLⁿ(x)`: circular left shift of a word. -/
def rotl (n : ℕ) (x : UInt32) : UInt32 := UInt32.ofBitVec (x.toBitVec.rotateLeft n)

def ch (x y z : UInt32) : UInt32 := (x &&& y) ^^^ (~~~x &&& z)

def parity (x y z : UInt32) : UInt32 := x ^^^ y ^^^ z

def maj (x y z : UInt32) : UInt32 := (x &&& y) ^^^ (x &&& z) ^^^ (y &&& z)

/-- The logical function `f_t`. -/
def f (t : ℕ) (x y z : UInt32) : UInt32 :=
  if t < 20 then ch x y z
  else if t < 40 then parity x y z
  else if t < 60 then maj x y z
  else parity x y z

/-- The constant `K_t`. -/
def K (t : ℕ) : UInt32 :=
  if t < 20 then 0x5a827999
  else if t < 40 then 0x6ed9eba1
  else if t < 60 then 0x8f1bbcdc
  else 0xca62c1d6

/-- Word `t` of a 64-byte block. -/
def M (block : List UInt8) (t : ℕ) : UInt32 :=
  UInt32.ofNat (BigEndian.beValue ((block.drop (4 * t)).take 4))

/-- The message schedule `W_t`. -/
def W (block : List UInt8) (t : ℕ) : UInt32 :=
  if _h : t < 16 then M block t
  else rotl 1 (W block (t - 3) ^^^ W block (t - 8) ^^^ W block (t - 14) ^^^ W block (t - 16))
termination_by t

/-- One round of the hash computation. -/
def round (block : List UInt8) (t : ℕ) (v : Words) : Words :=
  { a := rotl 5 v.a + f t v.b v.c v.d + v.e + K t + W block t
    b := v.a
    c := rotl 30 v.b
    d := v.c
    e := v.d }

/-- Process one block: eighty rounds, added to the chaining value. -/
def compress (h : Words) (block : List UInt8) : Words :=
  let v := forRange 0 80 (round block) h
  { a := v.a + h.a, b := v.b + h.b, c := v.c + h.c, d := v.d + h.d, e := v.e + h.e }

/-- The initial hash value. -/
def initial : Words :=
  { a := 0x67452301, b := 0xefcdab89, c := 0x98badcfe, d := 0x10325476, e := 0xc3d2e1f0 }

/-- The number of zero bytes after the `0x80` byte: the least `z` with `len + 1 + z ≡ 56 (mod 64)`
    (see `padZeros_spec`). -/
def padZeros (len : ℕ) : ℕ := (119 - len % 64) % 64

theorem padZeros_spec (len : ℕ) :
    (len + 1 + padZeros len) % 64 = 56 ∧ ∀ z, (len + 1 + z) % 64 = 56 → padZeros len ≤ z := by
  unfold padZeros
  constructor
  · omega
  · intro z hz
    omega

/-- The padded message: `0x80`, the zero bytes, and the bit length as a 64-bit word. -/
def pad (m : List UInt8) : List UInt8 :=
  m ++ 0x80 :: (List.replicate (padZeros m.length) 0 ++ BigEndian.beBytes 8 (8 * m.length))

theorem pad_length_dvd (m : List UInt8) : 64 ∣ (pad m).length := by
  have hz := (padZeros_spec m.length).1
  have hlen : (pad m).length = m.length + 1 + padZeros m.length + 8 := by
    simp only [pad, List.length_append, List.length_cons, List.length_replicate,
      BigEndian.length_beBytes]
    omega
  omega

/-- The digest as a byte string: the five words, most significant byte first. -/
def Words.toBytes (h : Words) : List UInt8 :=
  BigEndian.beBytes 4 h.a.toNat ++ BigEndian.beBytes 4 h.b.toNat ++
    BigEndian.beBytes 4 h.c.toNat ++ BigEndian.beBytes 4 h.d.toNat ++
    BigEndian.beBytes 4 h.e.toNat

/-- The SHA-1 digest of a message (defined by the standard below `2⁶⁴` bits). -/
def sha1 (m : List UInt8) : List UInt8 :=
  (BlockHash.iterate 64 compress initial (pad m)).toBytes

end Fips180
