import DtmcLinux.Dtsha1.Dtsha1
import DtmcLinux.Dtsha1.Fips180

set_option autoImplicit false

/-! # The streaming SHA-1 computes the FIPS 180-4 digest

The block function is compared with the standard first (word operations, schedule, rounds); then
`dtsha1_update` is shown to keep the streaming invariant of `BlockHash` for the message received so
far, whatever the sizes of the pieces; and `dtsha1_final` feeds it exactly the padding of the
standard. -/

namespace Dtsha1

/-! ## Word operations -/

theorem rotl32_eq_rotl (x : UInt32) (n : ℕ) (h0 : 0 < n) (h : n < 32) :
    rotl32 x (UInt32.ofNat n) = Fips180.rotl n x := by
  apply UInt32.toBitVec_inj.mp
  have hn : (UInt32.ofNat n).toNat = n := by
    rw [UInt32.toNat_ofNat']
    omega
  have hsub : (32 - UInt32.ofNat n).toNat = 32 - n := by
    rw [UInt32.toNat_sub, hn]
    simp only [UInt32.reduceToNat]
    omega
  apply BitVec.eq_of_toNat_eq
  have hl : (x <<< UInt32.ofNat n).toNat = (x.toBitVec <<< n).toNat := by
    rw [UInt32.toNat_shiftLeft, hn, Nat.mod_eq_of_lt h, BitVec.toNat_shiftLeft]
    rfl
  have hr : (x >>> (32 - UInt32.ofNat n)).toNat = (x.toBitVec >>> (32 - n)).toNat := by
    rw [UInt32.toNat_shiftRight, hsub, Nat.mod_eq_of_lt (by omega), BitVec.toNat_ushiftRight]
    rfl
  change (rotl32 x (UInt32.ofNat n)).toNat = _
  rw [rotl32, UInt32.toNat_or, hl, hr, ← BitVec.toNat_or]
  congr 1
  rw [Fips180.rotl, BitVec.rotateLeft_def, Nat.mod_eq_of_lt h]

/-- `Ch` written with `|` instead of `⊕`. -/
theorem or_eq_ch (x y z : UInt32) : (x &&& y) ||| (~~~x &&& z) = Fips180.ch x y z := by
  apply UInt32.toBitVec_inj.mp
  ext i hi
  simp only [Fips180.ch, UInt32.toBitVec_or, UInt32.toBitVec_xor, UInt32.toBitVec_and,
    UInt32.toBitVec_not, BitVec.getElem_or, BitVec.getElem_xor, BitVec.getElem_and,
    BitVec.getElem_not]
  generalize x.toBitVec[i] = bx
  generalize y.toBitVec[i] = bY
  generalize z.toBitVec[i] = bz
  revert bx bY bz
  decide

/-- `Maj` written with `|` instead of `⊕`. -/
theorem or_eq_maj (x y z : UInt32) :
    (x &&& y) ||| (x &&& z) ||| (y &&& z) = Fips180.maj x y z := by
  apply UInt32.toBitVec_inj.mp
  ext i hi
  simp only [Fips180.maj, UInt32.toBitVec_or, UInt32.toBitVec_xor, UInt32.toBitVec_and,
    BitVec.getElem_or, BitVec.getElem_xor, BitVec.getElem_and]
  generalize x.toBitVec[i] = bx
  generalize y.toBitVec[i] = bY
  generalize z.toBitVec[i] = bz
  revert bx bY bz
  decide

theorem storeBe64_eq (x : UInt64) : storeBe64 x = BigEndian.beBytes 8 x.toNat := by
  have h0 : (x &&& 0xFF).toUInt8 = UInt8.ofNat (x.toNat / 256 ^ 0) := by
    rw [← BigEndian.ofNat_div_eq_shift64 x 0 0 rfl (by decide), UInt64.shiftRight_zero]
  simp only [storeBe64, BigEndian.beBytes,
    BigEndian.ofNat_div_eq_shift64 x 56 7 rfl (by decide),
    BigEndian.ofNat_div_eq_shift64 x 48 6 rfl (by decide),
    BigEndian.ofNat_div_eq_shift64 x 40 5 rfl (by decide),
    BigEndian.ofNat_div_eq_shift64 x 32 4 rfl (by decide),
    BigEndian.ofNat_div_eq_shift64 x 24 3 rfl (by decide),
    BigEndian.ofNat_div_eq_shift64 x 16 2 rfl (by decide),
    BigEndian.ofNat_div_eq_shift64 x 8 1 rfl (by decide), h0]

theorem storeBe32_eq (x : UInt32) : storeBe32 x = BigEndian.beBytes 4 x.toNat := by
  have h0 : (x &&& 0xFF).toUInt8 = UInt8.ofNat (x.toNat / 256 ^ 0) := by
    rw [← BigEndian.ofNat_div_eq_shift32 x 0 0 rfl (by decide), UInt32.shiftRight_zero]
  simp only [storeBe32, BigEndian.beBytes,
    BigEndian.ofNat_div_eq_shift32 x 24 3 rfl (by decide),
    BigEndian.ofNat_div_eq_shift32 x 16 2 rfl (by decide),
    BigEndian.ofNat_div_eq_shift32 x 8 1 rfl (by decide), h0]

/-- Loading word `t` of a complete block reads it big-endian. -/
theorem loadBe32_eq_M (block : List UInt8) (t : ℕ) (hlen : block.length = 64) (ht : t < 16) :
    loadBe32 (block.drop (t * 4)) = Fips180.M block t := by
  have htake : (block.drop (4 * t)).take 4
      = [(block.drop (t * 4)).getD 0 0, (block.drop (t * 4)).getD 1 0,
         (block.drop (t * 4)).getD 2 0, (block.drop (t * 4)).getD 3 0] := by
    rw [mul_comm 4 t]
    have hlong : 4 ≤ (block.drop (t * 4)).length := by
      rw [List.length_drop]
      omega
    match block.drop (t * 4), hlong with
    | b0 :: b1 :: b2 :: b3 :: rest, _ => rfl
  rw [Fips180.M, htake, ← BigEndian.toNat_or_shift32, UInt32.ofNat_toNat]
  rfl

/-! ## The block function -/

theorem W_of_lt (block : List UInt8) (t : ℕ) (ht : t < 16) :
    Fips180.W block t = Fips180.M block t := by
  rw [Fips180.W, dif_pos ht]

theorem W_of_ge (block : List UInt8) (t : ℕ) (ht : 16 ≤ t) :
    Fips180.W block t = Fips180.rotl 1 (Fips180.W block (t - 3) ^^^ Fips180.W block (t - 8) ^^^
      Fips180.W block (t - 14) ^^^ Fips180.W block (t - 16)) := by
  rw [Fips180.W, dif_neg (Nat.not_lt.2 ht)]

theorem getElem!_setIfInBounds (w : Vector UInt32 80) (t i : ℕ) (x : UInt32) (hi : i < 80) :
    (w.setIfInBounds t x)[i]! = if t = i then x else w[i]! := by
  rw [getElem!_pos _ i hi, getElem!_pos _ i hi, Vector.getElem_setIfInBounds]

/-- The two schedule loops fill `w` with the message schedule of the standard. -/
theorem schedule_getElem (block : List UInt8) (hlen : block.length = 64) (t : ℕ) (ht : t < 80) :
    (schedule block)[t]! = Fips180.W block t := by
  have hload : ∀ i < 16, (forRange 0 16 (loadWord block) (Vector.replicate 80 0))[i]!
      = Fips180.W block i := by
    refine forRange.invariant (fun n (w : Vector UInt32 80) => ∀ i < n, w[i]! = Fips180.W block i)
      (by decide) (fun i hi => absurd hi (Nat.not_lt_zero i)) ?_
    intro n w _ hn hw i hi
    rw [loadWord, getElem!_setIfInBounds w n i _ (by omega)]
    split
    · next h => rw [← h, loadBe32_eq_M block n hlen hn, W_of_lt block n hn]
    · next h => exact hw i (by omega)
  refine forRange.invariant (fun n (w : Vector UInt32 80) => ∀ i < n, w[i]! = Fips180.W block i)
    (by decide) hload ?_ t ht
  intro n w hn16 hn hw i hi
  rw [expandWord, getElem!_setIfInBounds w n i _ (by omega)]
  split
  · next h =>
      rw [← h, W_of_ge block n hn16, hw (n - 3) (by omega), hw (n - 8) (by omega),
        hw (n - 14) (by omega), hw (n - 16) (by omega)]
      exact rotl32_eq_rotl _ 1 (by decide) (by decide)
  · next h => exact hw i (by omega)

/-- The working variables as the standard's words. -/
def Vars.toWords (v : Vars) : Fips180.Words :=
  { a := v.a, b := v.b, c := v.c, d := v.d, e := v.e }

/-- The state array as the standard's chaining value. -/
def stateWords (s : Vector UInt32 5) : Fips180.Words :=
  { a := s.get 0, b := s.get 1, c := s.get 2, d := s.get 3, e := s.get 4 }

/-- One pass of the round loop is one round of the standard. -/
theorem roundStep_toWords (block : List UInt8) (hlen : block.length = 64) (t : ℕ) (ht : t < 80)
    (v : Vars) :
    (roundStep (schedule block) t v).toWords = Fips180.round block t v.toWords := by
  have h5 : rotl32 v.a 5 = Fips180.rotl 5 v.a := rotl32_eq_rotl v.a 5 (by decide) (by decide)
  have h30 : rotl32 v.b 30 = Fips180.rotl 30 v.b := rotl32_eq_rotl v.b 30 (by decide) (by decide)
  simp only [roundStep, Vars.toWords, Fips180.round, schedule_getElem block hlen t ht, h5, h30,
    or_eq_ch, or_eq_maj, Fips180.Words.mk.injEq, and_true]
  unfold Fips180.f Fips180.K Fips180.parity
  split_ifs <;> rfl

/-- `_dtsha1_process_block` is the hash computation of the standard for one block. -/
theorem processBlock_eq_compress (s : Vector UInt32 5) (block : List UInt8)
    (hlen : block.length = 64) :
    stateWords (processBlock s block) = Fips180.compress (stateWords s) block := by
  have hrounds : (forRange 0 80 (roundStep (schedule block))
      { a := s[0], b := s[1], c := s[2], d := s[3], e := s[4] }).toWords
      = forRange 0 80 (Fips180.round block) (stateWords s) := by
    refine forRange.related (fun (v : Vars) (h : Fips180.Words) => v.toWords = h) (Nat.zero_le _)
      rfl ?_
    intro t v h _ ht hv
    rw [roundStep_toWords block hlen t ht v, hv]
  have hcomm : ∀ v : Vars, stateWords
      #v[s[0] + v.a, s[1] + v.b, s[2] + v.c, s[3] + v.d, s[4] + v.e]
      = { a := v.a + s[0], b := v.b + s[1], c := v.c + s[2], d := v.d + s[3], e := v.e + s[4] } := by
    intro v
    simp only [stateWords, Fips180.Words.mk.injEq]
    exact ⟨UInt32.add_comm _ _, UInt32.add_comm _ _, UInt32.add_comm _ _, UInt32.add_comm _ _,
      UInt32.add_comm _ _⟩
  rw [processBlock, Fips180.compress, hcomm, ← hrounds]
  rfl

/-! ## The buffer -/

theorem memcpy_take (buffer : Buffer) (off : ℕ) (src : List UInt8) (h : off + src.length ≤ 64) :
    (buffer.memcpy off src).toList.take (off + src.length) = buffer.toList.take off ++ src := by
  apply List.ext_getElem
  · simp only [List.length_take, Vector.length_toList, List.length_append]
    omega
  · intro i h1 h2
    simp only [List.length_take, Vector.length_toList] at h1
    have hi : i < 64 := by omega
    rw [List.getElem_take, Vector.getElem_toList]
    by_cases hlt : i < off
    · rw [List.getElem_append_left (by simp only [List.length_take, Vector.length_toList]; omega),
        List.getElem_take, Vector.getElem_toList]
      simp [Buffer.memcpy, Nat.not_le.2 hlt]
    · have hoff : (buffer.toList.take off).length = off := by
        simp only [List.length_take, Vector.length_toList]
        omega
      rw [List.getElem_append_right (by omega)]
      have hsrc : i - off < src.length := by omega
      simp [Buffer.memcpy, Nat.le_of_not_lt hlt, hoff, hsrc]

/-- The valid bytes of the buffer. -/
def Ctx.pending (ctx : Ctx) : List UInt8 := ctx.buffer.toList.take ctx.bufferLen

theorem Ctx.length_pending (ctx : Ctx) : ctx.pending.length = ctx.bufferLen := by
  have := ctx.bufferLen_lt
  simp only [Ctx.pending, List.length_take, Vector.length_toList]
  omega

theorem Ctx.pending_copyPartial (ctx : Ctx) (bs : List UInt8) (h : ctx.bufferLen + bs.length < 64) :
    (ctx.copyPartial bs h).pending = ctx.pending ++ bs := by
  unfold Ctx.pending Ctx.copyPartial
  exact memcpy_take ctx.buffer ctx.bufferLen bs (Nat.le_of_lt h)

theorem Ctx.pending_copyFull (ctx : Ctx) (bs : List UInt8) : (ctx.copyFull bs).pending = [] := by
  unfold Ctx.pending Ctx.copyFull
  exact List.take_zero

/-- A completed block is processed as the pending bytes followed by the new ones. -/
theorem Ctx.stateWords_copyFull (ctx : Ctx) (bs : List UInt8)
    (h : ctx.bufferLen + bs.length = 64) :
    stateWords (ctx.copyFull bs).state
      = Fips180.compress (stateWords ctx.state) (ctx.pending ++ bs) := by
  have hfull : (ctx.buffer.memcpy ctx.bufferLen bs).toList = ctx.pending ++ bs := by
    rw [Ctx.pending, ← memcpy_take ctx.buffer ctx.bufferLen bs (Nat.le_of_eq h),
      List.take_of_length_le]
    rw [Vector.length_toList, h]
  rw [← hfull]
  exact processBlock_eq_compress ctx.state _ Vector.length_toList

/-! ## The streaming invariant -/

/-- The context has received exactly the message `m`: its state words and valid buffer bytes are
    those of a streaming computation over `m`, and it has counted its bytes. -/
structure Received (ctx : Ctx) (m : List UInt8) : Prop where
  streaming : BlockHash.Streaming 64 Fips180.compress Fips180.initial m (stateWords ctx.state)
    ctx.pending
  counted : ctx.totalLenBytes = UInt64.ofNat m.length

theorem received_init (ctx : Ctx) : Received (init ctx) [] :=
  ⟨BlockHash.Streaming.start (by decide), rfl⟩

/-- The copying loop keeps the streaming invariant for any piece of data. The induction is on the
    length of the piece: a pass that completes the block leaves a shorter rest. -/
theorem updateLoop_streaming (n : ℕ) :
    ∀ (ctx : Ctx) (m p : List UInt8), p.length ≤ n →
      BlockHash.Streaming 64 Fips180.compress Fips180.initial m (stateWords ctx.state)
        ctx.pending →
      BlockHash.Streaming 64 Fips180.compress Fips180.initial (m ++ p)
        (stateWords (updateLoop ctx p).state) (updateLoop ctx p).pending := by
  induction n with
  | zero =>
      intro ctx m p hp hs
      obtain rfl := List.length_eq_zero_iff.1 (Nat.le_zero.1 hp)
      simpa using hs
  | succ n ih =>
      intro ctx m p hp hs
      have hlt := ctx.bufferLen_lt
      have hpend := ctx.length_pending
      by_cases hnil : p = []
      · subst hnil
        simpa using hs
      · by_cases h : ctx.bufferLen + p.length < 64
        · rw [updateLoop_of_lt ctx p h hnil]
          rw [ctx.pending_copyPartial p h, ctx.copyPartial_state p h]
          exact hs.extend p (by rw [List.length_append, hpend]; exact h)
        · rw [updateLoop_of_ge ctx p (Nat.le_of_not_lt h)]
          generalize hpiece : p.take (64 - ctx.bufferLen) = piece
          have hpl : ctx.bufferLen + piece.length = 64 := by
            rw [← hpiece, List.length_take]
            omega
          have hblock : (ctx.pending ++ piece).length = 64 := by
            rw [List.length_append, hpend, hpl]
          have hs' := hs.complete (by decide) piece hblock
          rw [← ctx.stateWords_copyFull piece hpl, ← ctx.pending_copyFull piece] at hs'
          have hrest : (p.drop (64 - ctx.bufferLen)).length ≤ n := by
            rw [List.length_drop]
            omega
          have := ih (ctx.copyFull piece) (m ++ piece) (p.drop (64 - ctx.bufferLen)) hrest hs'
          rwa [List.append_assoc, ← hpiece, List.take_append_drop, hpiece] at this

theorem updateLoop_totalLenBytes (n : ℕ) :
    ∀ (ctx : Ctx) (p : List UInt8), p.length ≤ n →
      (updateLoop ctx p).totalLenBytes = ctx.totalLenBytes := by
  induction n with
  | zero =>
      intro ctx p hp
      obtain rfl := List.length_eq_zero_iff.1 (Nat.le_zero.1 hp)
      rw [updateLoop_nil]
  | succ n ih =>
      intro ctx p hp
      have hlt := ctx.bufferLen_lt
      by_cases hnil : p = []
      · rw [hnil, updateLoop_nil]
      · by_cases h : ctx.bufferLen + p.length < 64
        · rw [updateLoop_of_lt ctx p h hnil, ctx.copyPartial_totalLenBytes p h]
        · rw [updateLoop_of_ge ctx p (Nat.le_of_not_lt h), ih, Ctx.copyFull_totalLenBytes]
          · rw [List.length_drop]
            omega

/-- **`dtsha1_update`.** A context that has received `m` has received `m ++ data` afterwards. -/
theorem Received.update {ctx : Ctx} {m : List UInt8} (h : Received ctx m) (data : List UInt8) :
    Received (update ctx data) (m ++ data) := by
  refine ⟨?_, ?_⟩
  · exact updateLoop_streaming data.length _ m data le_rfl h.streaming
  · rw [Dtsha1.update, updateLoop_totalLenBytes data.length _ data le_rfl, h.counted,
      List.length_append, UInt64.ofNat_add]

theorem Received.bufferLen {ctx : Ctx} {m : List UInt8} (h : Received ctx m) :
    ctx.bufferLen = m.length % 64 := by
  rw [← ctx.length_pending, h.streaming.pending_length]

/-- The padding loop appends zero bytes up to length 56 modulo 64. -/
theorem Received.padLoop (n : ℕ) :
    ∀ {ctx : Ctx} {m : List UInt8}, Received ctx m → (120 - ctx.bufferLen) % 64 = n →
      Received (padLoop ctx) (m ++ List.replicate n 0) := by
  induction n with
  | zero =>
      intro ctx m h hn
      have hlt := ctx.bufferLen_lt
      have h56 : ctx.bufferLen = 56 := by omega
      rw [Dtsha1.padLoop, if_pos h56]
      simpa using h
  | succ n ih =>
      intro ctx m h hn
      have hlt := ctx.bufferLen_lt
      have h56 : ctx.bufferLen ≠ 56 := by omega
      rw [Dtsha1.padLoop, if_neg h56, List.replicate_succ, List.append_cons]
      refine ih (h.update [0x00]) ?_
      rw [update_byte_bufferLen]
      omega

/-- **`dtsha1_final`.** A context that has received fewer than `2⁶¹` bytes yields their digest. -/
theorem Received.final {ctx : Ctx} {m : List UInt8} (h : Received ctx m)
    (hm : m.length < 2 ^ 61) : final ctx = Fips180.sha1 m := by
  have hbits : (ctx.totalLenBytes * 8).toNat = 8 * m.length := by
    rw [h.counted, UInt64.toNat_mul, UInt64.toNat_ofNat']
    simp only [UInt64.reduceToNat]
    omega
  have hlen : storeBe64 (ctx.totalLenBytes * 8) = BigEndian.beBytes 8 (8 * m.length) := by
    rw [storeBe64_eq, hbits]
  have hpad : (120 - (Dtsha1.update ctx [0x80]).bufferLen) % 64 = Fips180.padZeros m.length := by
    have hlt := Nat.mod_lt m.length (by decide : 0 < 64)
    rw [update_byte_bufferLen, h.bufferLen, Fips180.padZeros]
    omega
  have hall := (((h.update [0x80]).padLoop _ hpad).update
    (BigEndian.beBytes 8 (8 * m.length))).streaming
  have heq : m ++ [0x80] ++ List.replicate (Fips180.padZeros m.length) 0
      ++ BigEndian.beBytes 8 (8 * m.length) = Fips180.pad m := by
    simp [Fips180.pad]
  rw [heq] at hall
  have hdone := hall.finished (Fips180.pad_length_dvd m)
  rw [Fips180.sha1, ← hdone, Dtsha1.final]
  simp only [hlen, storeBe32_eq]
  rfl

/-- Feeding a list of chunks, one `dtsha1_update` each. -/
def updateAll (ctx : Ctx) (chunks : List (List UInt8)) : Ctx := chunks.foldl update ctx

theorem Received.updateAll {ctx : Ctx} {m : List UInt8} (h : Received ctx m)
    (chunks : List (List UInt8)) : Received (updateAll ctx chunks) (m ++ chunks.flatten) := by
  induction chunks generalizing ctx m with
  | nil => simpa [Dtsha1.updateAll] using h
  | cons chunk chunks ih =>
      have := ih (h.update chunk)
      rwa [List.append_assoc, ← List.flatten_cons] at this

/-- **SHA-1 correctness.** For every message shorter than `2⁶¹` bytes and every way of cutting it
    into chunks, initialising a context, feeding the chunks and finalising yields the FIPS 180-4
    digest of the message, whatever the context held before; so does the one-shot function. -/
theorem sha1_chunks_eq_fips (m : List UInt8) (hm : m.length < 2 ^ 61) :
    (∀ (ctx : Ctx) (chunks : List (List UInt8)), chunks.flatten = m →
      final (updateAll (init ctx) chunks) = Fips180.sha1 m) ∧
    (∀ ctx : Ctx, compute ctx m = Fips180.sha1 m) := by
  refine ⟨fun ctx chunks hchunks => ?_, fun ctx => ?_⟩
  · have h := (received_init ctx).updateAll chunks
    rw [List.nil_append, hchunks] at h
    exact h.final hm
  · exact ((received_init ctx).update m).final hm

/-- The bytes of `"abc"`, cut after the first one and with an empty chunk. -/
theorem sha1_chunks_eq_fips_abc :
    final (updateAll (init ⟨#v[0, 0, 0, 0, 0], 7, Vector.replicate 64 0xAA, 3, by decide⟩)
      [[0x61], [], [0x62, 0x63]]) = Fips180.sha1 [0x61, 0x62, 0x63] :=
  (sha1_chunks_eq_fips [0x61, 0x62, 0x63] (by decide)).1 _ _ rfl

end Dtsha1
