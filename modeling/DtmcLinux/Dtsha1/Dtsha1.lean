import DtmcLinux.Foundation.Loop
import Mathlib.Data.List.Basic
import Mathlib.Data.Vector.Basic

set_option autoImplicit false

/-! # The streaming SHA-1 of `dtsha1.c`

The context keeps the five state words, the byte count and a 64-byte buffer of which the first
`bufferLen` bytes are valid. Memory regions that the source reads through a pointer are byte lists
here (`block + t * 4` is `block.drop (t * 4)`). Callers of the public functions pass a context and
data that are not `NULL`, so the source's early returns for `NULL` do not appear. -/

namespace Dtsha1

/-- `_dtsha1_rotl32`. -/
def rotl32 (x n : UInt32) : UInt32 := (x <<< n) ||| (x >>> (32 - n))

/-- `_dtsha1_load_be32`. -/
def loadBe32 (p : List UInt8) : UInt32 :=
  ((p.getD 0 0).toUInt32 <<< 24) ||| ((p.getD 1 0).toUInt32 <<< 16) |||
    ((p.getD 2 0).toUInt32 <<< 8) ||| (p.getD 3 0).toUInt32

/-- `_dtsha1_store_be64`: the eight bytes it writes. -/
def storeBe64 (x : UInt64) : List UInt8 :=
  [((x >>> 56) &&& 0xFF).toUInt8, ((x >>> 48) &&& 0xFF).toUInt8,
   ((x >>> 40) &&& 0xFF).toUInt8, ((x >>> 32) &&& 0xFF).toUInt8,
   ((x >>> 24) &&& 0xFF).toUInt8, ((x >>> 16) &&& 0xFF).toUInt8,
   ((x >>> 8) &&& 0xFF).toUInt8, (x &&& 0xFF).toUInt8]

/-- `_dtsha1_store_be32`: the four bytes it writes. -/
def storeBe32 (x : UInt32) : List UInt8 :=
  [((x >>> 24) &&& 0xFF).toUInt8, ((x >>> 16) &&& 0xFF).toUInt8,
   ((x >>> 8) &&& 0xFF).toUInt8, (x &&& 0xFF).toUInt8]

/-- The 64-byte buffer of the context. -/
abbrev Buffer := Vector UInt8 64

/-- `memcpy(buffer + off, src, strlen src)`. -/
def Buffer.memcpy (buffer : Buffer) (off : ℕ) (src : List UInt8) : Buffer :=
  Vector.ofFn fun i : Fin 64 =>
    if off ≤ i.val then src.getD (i.val - off) buffer[i] else buffer[i]

/-- `dtsha1_ctx_t`. Between two calls the buffer is never full: `dtsha1_update` processes a block as
    soon as it is complete. -/
structure Ctx where
  state : Vector UInt32 5
  totalLenBytes : UInt64
  buffer : Buffer
  bufferLen : ℕ
  bufferLen_lt : bufferLen < 64

/-! ## `_dtsha1_process_block` -/

/-- The working variables of `_dtsha1_process_block`. -/
structure Vars where
  a : UInt32
  b : UInt32
  c : UInt32
  d : UInt32
  e : UInt32

/-- `w[t] = _dtsha1_load_be32(block + (t * 4))`. -/
def loadWord (block : List UInt8) (t : ℕ) (w : Vector UInt32 80) : Vector UInt32 80 :=
  w.setIfInBounds t (loadBe32 (block.drop (t * 4)))

/-- `w[t] = _dtsha1_rotl32(w[t - 3] ^ w[t - 8] ^ w[t - 14] ^ w[t - 16], 1)`. -/
def expandWord (t : ℕ) (w : Vector UInt32 80) : Vector UInt32 80 :=
  w.setIfInBounds t (rotl32 (w[t - 3]! ^^^ w[t - 8]! ^^^ w[t - 14]! ^^^ w[t - 16]!) 1)

/-- The array `w[80]` after the two schedule loops. -/
def schedule (block : List UInt8) : Vector UInt32 80 :=
  forRange 16 80 expandWord (forRange 0 16 (loadWord block) (Vector.replicate 80 0))

/-- One pass of the loop over the eighty rounds. -/
def roundStep (w : Vector UInt32 80) (t : ℕ) (v : Vars) : Vars :=
  let fk : UInt32 × UInt32 :=
    if t < 20 then ((v.b &&& v.c) ||| (~~~v.b &&& v.d), 0x5A827999)
    else if t < 40 then (v.b ^^^ v.c ^^^ v.d, 0x6ED9EBA1)
    else if t < 60 then ((v.b &&& v.c) ||| (v.b &&& v.d) ||| (v.c &&& v.d), 0x8F1BBCDC)
    else (v.b ^^^ v.c ^^^ v.d, 0xCA62C1D6)
  let temp := rotl32 v.a 5 + fk.1 + v.e + fk.2 + w[t]!
  { a := temp, b := v.a, c := rotl32 v.b 30, d := v.c, e := v.d }

/-- `_dtsha1_process_block`, on the state words. -/
def processBlock (state : Vector UInt32 5) (block : List UInt8) : Vector UInt32 5 :=
  let w := schedule block
  let v := forRange 0 80 (roundStep w)
    { a := state[0], b := state[1], c := state[2], d := state[3], e := state[4] }
  #v[state[0] + v.a, state[1] + v.b, state[2] + v.c, state[3] + v.d, state[4] + v.e]

/-! ## The public functions -/

/-- `dtsha1_init`. The buffer keeps whatever bytes it held. -/
def init (ctx : Ctx) : Ctx :=
  { state := #v[0x67452301, 0xEFCDAB89, 0x98BADCFE, 0x10325476, 0xC3D2E1F0]
    totalLenBytes := 0
    buffer := ctx.buffer
    bufferLen := 0
    bufferLen_lt := by decide }

/-- Copy bytes behind the buffered ones; the block stays incomplete. -/
def Ctx.copyPartial (ctx : Ctx) (bs : List UInt8) (h : ctx.bufferLen + bs.length < 64) : Ctx :=
  { ctx with
    buffer := ctx.buffer.memcpy ctx.bufferLen bs
    bufferLen := ctx.bufferLen + bs.length
    bufferLen_lt := h }

/-- Copy bytes behind the buffered ones; they complete the block, which is processed at once. -/
def Ctx.copyFull (ctx : Ctx) (bs : List UInt8) : Ctx :=
  let buffer := ctx.buffer.memcpy ctx.bufferLen bs
  { ctx with
    state := processBlock ctx.state buffer.toList
    buffer := buffer
    bufferLen := 0
    bufferLen_lt := by decide }

@[simp] theorem Ctx.copyPartial_state (ctx : Ctx) (bs : List UInt8)
    (h : ctx.bufferLen + bs.length < 64) : (ctx.copyPartial bs h).state = ctx.state := by
  simp only [copyPartial]

@[simp] theorem Ctx.copyPartial_totalLenBytes (ctx : Ctx) (bs : List UInt8)
    (h : ctx.bufferLen + bs.length < 64) :
    (ctx.copyPartial bs h).totalLenBytes = ctx.totalLenBytes := by
  simp only [copyPartial]

@[simp] theorem Ctx.copyFull_totalLenBytes (ctx : Ctx) (bs : List UInt8) :
    (ctx.copyFull bs).totalLenBytes = ctx.totalLenBytes := by
  simp only [copyFull]

/-- The `while (len > 0)` loop of `dtsha1_update`. It ends because every pass copies at least one
    byte: the buffer has room between two passes. -/
def updateLoop (ctx : Ctx) (p : List UInt8) : Ctx :=
  if p.length = 0 then ctx
  else
    let toCopy := min (64 - ctx.bufferLen) p.length
    if hfull : ctx.bufferLen + (p.take toCopy).length < 64 then
      updateLoop (ctx.copyPartial (p.take toCopy) hfull) (p.drop toCopy)
    else
      updateLoop (ctx.copyFull (p.take toCopy)) (p.drop toCopy)
termination_by p.length
decreasing_by
  all_goals
    have := ctx.bufferLen_lt
    simp only [List.length_drop]
    omega

/-- `dtsha1_update`. -/
def update (ctx : Ctx) (data : List UInt8) : Ctx :=
  updateLoop { ctx with totalLenBytes := ctx.totalLenBytes + UInt64.ofNat data.length } data

@[simp] theorem updateLoop_nil (ctx : Ctx) : updateLoop ctx [] = ctx := by
  rw [updateLoop]
  rfl

/-- Data that does not complete the block: one pass of the loop, no block is processed. -/
theorem updateLoop_of_lt (ctx : Ctx) (p : List UInt8) (h : ctx.bufferLen + p.length < 64)
    (hp : p ≠ []) : updateLoop ctx p = ctx.copyPartial p h := by
  have hcopy : min (64 - ctx.bufferLen) p.length = p.length := by omega
  rw [updateLoop, if_neg (by simpa using hp)]
  simp only [hcopy, List.take_length, List.drop_length, h, ↓reduceDIte, updateLoop_nil]

/-- Data that completes the block: the first pass processes it, the others take the rest. -/
theorem updateLoop_of_ge (ctx : Ctx) (p : List UInt8) (h : 64 ≤ ctx.bufferLen + p.length) :
    updateLoop ctx p
      = updateLoop (ctx.copyFull (p.take (64 - ctx.bufferLen))) (p.drop (64 - ctx.bufferLen)) := by
  have hlt := ctx.bufferLen_lt
  have hcopy : min (64 - ctx.bufferLen) p.length = 64 - ctx.bufferLen := by omega
  have hfull : ¬ ctx.bufferLen + (p.take (64 - ctx.bufferLen)).length < 64 := by
    rw [List.length_take]
    omega
  rw [updateLoop, if_neg (by omega)]
  simp only [hcopy, hfull, ↓reduceDIte]

/-- One more byte moves `bufferLen` one place further, modulo the block length. -/
theorem update_byte_bufferLen (ctx : Ctx) (x : UInt8) :
    (update ctx [x]).bufferLen = (ctx.bufferLen + 1) % 64 := by
  have hlt := ctx.bufferLen_lt
  unfold update
  by_cases h : ctx.bufferLen + 1 < 64
  · rw [updateLoop_of_lt _ _ h (by simp)]
    exact (Nat.mod_eq_of_lt h).symm
  · have hlen : ctx.bufferLen = 63 := by omega
    rw [updateLoop_of_ge _ _ (Nat.le_of_not_lt h)]
    simp [hlen, Ctx.copyFull]

/-- The `while (ctx->buffer_len != 56)` loop of `dtsha1_final`. It ends because every pass moves
    `bufferLen` one place further, modulo the block length. -/
def padLoop (ctx : Ctx) : Ctx :=
  if ctx.bufferLen = 56 then ctx
  else padLoop (update ctx [0x00])
termination_by (120 - ctx.bufferLen) % 64
decreasing_by
  have := ctx.bufferLen_lt
  rw [update_byte_bufferLen]
  omega

/-- `dtsha1_final`: the twenty bytes written to `out_digest`. -/
def final (ctx : Ctx) : List UInt8 :=
  let totalBits := ctx.totalLenBytes * 8
  let lenBlock := storeBe64 totalBits
  let ctx := update ctx [0x80]
  let ctx := padLoop ctx
  let ctx := update ctx lenBlock
  storeBe32 ctx.state[0] ++ storeBe32 ctx.state[1] ++ storeBe32 ctx.state[2] ++
    storeBe32 ctx.state[3] ++ storeBe32 ctx.state[4]

/-- `dtsha1_compute`; `ctx` is the uninitialised local. -/
def compute (ctx : Ctx) (data : List UInt8) : List UInt8 :=
  final (update (init ctx) data)

end Dtsha1
