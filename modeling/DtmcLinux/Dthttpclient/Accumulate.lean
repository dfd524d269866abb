import DtmcLinux.Foundation.CheckedArith
import DtmcLinux.Posix.Memory

set_option autoImplicit false

/-! # The accumulator of the HTTP client

`dthttpclient_linux_accumulate` and `dthttpclient_linux_write_body`: libcurl hands over the body of a
response chunk by chunk, and the accumulator keeps it in a block that doubles. Every computation in
`int32_t` or `size_t` is checked, and so are the copy and the end of the loop: a run that returns has
done none of it wrong. -/

namespace DthttpclientLinux

open CheckedArith Posix

/-- What the code must not do. -/
inductive Fault
  | int32Overflow
  | sizeOverflow
  | outOfBlock
  | endlessLoop
  deriving DecidableEq

/-- The machine: `SIZE_MAX`, which an `int32_t` never exceeds. -/
structure Target where
  sizeMax : ℕ
  int32_le : int32Max ≤ sizeMax

/-- A result, or a conversion, in `size_t`. -/
def Target.size (target : Target) (x : ℤ) : Except Fault ℕ :=
  (inRange .sizeOverflow 0 target.sizeMax x).map Int.toNat

/-- `dthttpclient_accumulator_t` -/
structure Accumulator where
  bytes : List UInt8
  length : ℤ
  capacity : ℤ
  failed : Bool

/-- `acc = { 0 }` -/
def Accumulator.empty : Accumulator :=
  { bytes := [], length := 0, capacity := 0, failed := false }

/-- The bytes the accumulator holds. -/
def Accumulator.stored (acc : Accumulator) : List UInt8 := acc.bytes.take acc.length.toNat

/-- The bytes from a pointer on. -/
def readBytes (contents : ℕ → UInt8) (n : ℕ) : List UInt8 := (List.range n).map contents

/-- One call of the callback: what libcurl hands over, and the outcome of `realloc`. -/
structure Call where
  contents : Option (ℕ → UInt8)
  size : ℕ
  nmemb : ℕ
  outcome : Option (ℕ → UInt8)

/-- The bytes of the chunk. -/
def Call.chunk (call : Call) : List UInt8 :=
  match call.contents with
  | none => []
  | some contents => readBytes contents (call.size * call.nmemb)

/-- The capacity loop, with so many rounds at most. -/
def growCapacity (required : ℤ) : ℕ → ℤ → Except Fault ℤ
  | 0, _ => .error .endlessLoop
  | fuel + 1, newCapacity =>
    if newCapacity < required then
      if newCapacity > int32Max / 2 then .ok required
      else (int32 .int32Overflow (newCapacity * 2)).bind (growCapacity required fuel)
    else .ok newCapacity

/-- The capacity the loop starts with. -/
def Accumulator.startCapacity (acc : Accumulator) : ℤ :=
  if acc.capacity = 0 then 4096 else acc.capacity

/-- The block and the capacity before the copy; `none` when `realloc` fails. -/
def makeRoom (target : Target) (fuel : ℕ) (acc : Accumulator) (required : ℤ)
    (outcome : Option (ℕ → UInt8)) : Except Fault (Option Accumulator) :=
  if required > acc.capacity then
    (growCapacity required fuel acc.startCapacity).bind fun newCapacity =>
      (target.size newCapacity).bind fun size =>
        match realloc acc.bytes size outcome with
        | none => .ok none
        | some newBytes => .ok (some { acc with bytes := newBytes, capacity := newCapacity })
  else .ok (some acc)

/-- `dthttpclient_linux_accumulate`; `none` is the result `false`. -/
def accumulate (target : Target) (fuel : ℕ) (acc : Accumulator) (bytes : Option (ℕ → UInt8))
    (length : ℤ) (outcome : Option (ℕ → UInt8)) : Except Fault (Option Accumulator) :=
  match bytes with
  | none => .ok none
  | some contents =>
    if length < 0 then .ok none
    else if length = 0 then .ok (some acc)
    else
      (int32 .int32Overflow (int32Max - length)).bind fun room =>
        if acc.length > room then .ok none
        else
          (int32 .int32Overflow (acc.length + length)).bind fun required =>
            (makeRoom target fuel acc required outcome).bind fun
              | none => .ok none
              | some acc =>
                (target.size length).bind fun size =>
                  match memcpy acc.bytes acc.length.toNat (readBytes contents size) with
                  | none => .error .outOfBlock
                  | some block => .ok (some { acc with bytes := block, length := required })

/-- `dthttpclient_linux_write_body`, and what it returns. -/
def writeBody (target : Target) (fuel : ℕ) (acc : Accumulator) (call : Call) :
    Except Fault (Accumulator × ℕ) :=
  if call.size ≠ 0 ∧ call.nmemb > target.sizeMax / call.size then
    .ok ({ acc with failed := true }, 0)
  else
    (target.size (call.size * call.nmemb)).bind fun byteCount =>
      if byteCount > int32Max then .ok ({ acc with failed := true }, 0)
      else
        (accumulate target fuel acc call.contents byteCount call.outcome).bind fun
          | none => .ok ({ acc with failed := true }, 0)
          | some acc => .ok (acc, byteCount)

/-- One call after the other, and what each of them returns. -/
def writeBodies (target : Target) (fuel : ℕ) :
    Accumulator → List Call → Except Fault (Accumulator × List ℕ)
  | acc, [] => .ok (acc, [])
  | acc, call :: calls =>
    (writeBody target fuel acc call).bind fun (acc, n) =>
      (writeBodies target fuel acc calls).bind fun (acc, ns) => .ok (acc, n :: ns)

/-- The chunks whose call returned their size, one after the other. -/
def acceptedBytes : List Call → List ℕ → List UInt8
  | call :: calls, n :: ns =>
    if n = call.size * call.nmemb then call.chunk ++ acceptedBytes calls ns
    else acceptedBytes calls ns
  | _, _ => []

/-- **Invariant.** The length is within the capacity, which is the size of the block. -/
structure Accumulator.WellFormed (acc : Accumulator) : Prop where
  length_nonneg : 0 ≤ acc.length
  length_le : acc.length ≤ acc.capacity
  capacity_le : acc.capacity ≤ int32Max
  block : (acc.bytes.length : ℤ) = acc.capacity

theorem Accumulator.empty_wellFormed : Accumulator.empty.WellFormed :=
  ⟨le_refl _, le_refl _, by decide, rfl⟩

theorem Target.size_of_nonneg (target : Target) {x : ℤ} (h0 : 0 ≤ x) (hmax : x ≤ target.sizeMax) :
    target.size x = .ok x.toNat := by
  rw [Target.size, inRange_of_mem h0 hmax]
  rfl

@[simp] theorem length_readBytes (contents : ℕ → UInt8) (n : ℕ) :
    (readBytes contents n).length = n := by
  rw [readBytes, List.length_map, List.length_range]

/-! ## The capacity loop -/

/-- Enough rounds for the capacity to pass `INT32_MAX / 2` end the loop at a capacity that holds what
    is required. -/
theorem growCapacity_spec {required : ℤ} (hrequired : required ≤ int32Max) (fuel : ℕ) :
    ∀ {newCapacity : ℤ}, 0 < newCapacity → newCapacity ≤ int32Max →
      int32Max < newCapacity * 2 ^ fuel →
      ∃ c, growCapacity required fuel newCapacity = .ok c ∧ required ≤ c ∧ newCapacity ≤ c ∧
        c ≤ int32Max := by
  induction fuel with
  | zero =>
      intro newCapacity _ hle hfuel
      rw [pow_zero, mul_one] at hfuel
      exact absurd hle (not_le.2 hfuel)
  | succ fuel ih =>
      intro newCapacity hpos hle hfuel
      unfold growCapacity
      by_cases hlt : newCapacity < required
      · rw [if_pos hlt]
        by_cases hhalf : newCapacity > int32Max / 2
        · rw [if_pos hhalf]
          exact ⟨required, rfl, le_refl _, le_of_lt hlt, hrequired⟩
        · have hdouble : newCapacity * 2 ≤ int32Max := by
            unfold int32Max at hhalf ⊢
            omega
          rw [if_neg hhalf, int32_of_nonneg (by omega) hdouble]
          have hfuel' : int32Max < newCapacity * 2 * 2 ^ fuel := by
            rw [mul_assoc, ← pow_succ']
            exact hfuel
          obtain ⟨c, hc, hreq, hge, hcmax⟩ := ih (by omega) hdouble hfuel'
          exact ⟨c, hc, hreq, by omega, hcmax⟩
      · rw [if_neg hlt]
        exact ⟨newCapacity, rfl, not_lt.1 hlt, le_refl _, hle⟩

/-- Thirty-one rounds are enough from any capacity. -/
theorem int32Max_lt_mul_pow {fuel : ℕ} (hfuel : 31 ≤ fuel) {c : ℤ} (hc : 0 < c) :
    int32Max < c * 2 ^ fuel := by
  have hpow : (2 : ℤ) ^ 31 ≤ 2 ^ fuel := pow_le_pow_right₀ (by decide) hfuel
  calc int32Max < 2 ^ 31 := by decide
    _ ≤ 2 ^ fuel := hpow
    _ ≤ c * 2 ^ fuel := le_mul_of_one_le_left (pow_nonneg (by decide) fuel) (by omega)

/-- The loop starts with a positive capacity, no less than the accumulator's. -/
theorem startCapacity_spec {acc : Accumulator} (hacc : acc.WellFormed) :
    0 < acc.startCapacity ∧ acc.startCapacity ≤ int32Max ∧ acc.capacity ≤ acc.startCapacity := by
  have hcap : 0 ≤ acc.capacity := le_trans hacc.length_nonneg hacc.length_le
  unfold Accumulator.startCapacity
  by_cases hzero : acc.capacity = 0
  · rw [if_pos hzero, hzero]
    decide
  · rw [if_neg hzero]
    exact ⟨lt_of_le_of_ne hcap (Ne.symm hzero), hacc.capacity_le, le_refl _⟩

/-- The capacity loop of an accumulator ends, and holds what is required. -/
theorem growCapacity_wellFormed {fuel : ℕ} (hfuel : 31 ≤ fuel) {acc : Accumulator}
    (hacc : acc.WellFormed) {required : ℤ} (hrequired : required ≤ int32Max) :
    ∃ c, growCapacity required fuel acc.startCapacity = .ok c ∧ required ≤ c ∧
      acc.capacity ≤ c ∧ c ≤ int32Max := by
  obtain ⟨hpos, hmax, hge⟩ := startCapacity_spec hacc
  obtain ⟨c, hc, hreq, hstart, hcmax⟩ :=
    growCapacity_spec hrequired fuel hpos hmax (int32Max_lt_mul_pow hfuel hpos)
  exact ⟨c, hc, hreq, le_trans hge hstart, hcmax⟩

/-! ## The calls -/

section
variable (target : Target) {fuel : ℕ} {acc : Accumulator}

/-- Making room keeps what is stored; it fails only when `realloc` does. -/
theorem makeRoom_spec (hfuel : 31 ≤ fuel) (hacc : acc.WellFormed) {required : ℤ}
    (hrequired : required ≤ int32Max) (outcome : Option (ℕ → UInt8)) :
    makeRoom target fuel acc required outcome = .ok none ∨
      ∃ acc', makeRoom target fuel acc required outcome = .ok (some acc') ∧ acc'.WellFormed ∧
        required ≤ acc'.capacity ∧ acc'.length = acc.length ∧ acc'.failed = acc.failed ∧
        acc'.stored = acc.stored := by
  unfold makeRoom
  by_cases hgrow : required > acc.capacity
  · obtain ⟨c, hc, hreq, hge, hmax⟩ := growCapacity_wellFormed hfuel hacc hrequired
    have hlen0 := hacc.length_nonneg
    have hlen := hacc.length_le
    have hblockLen := hacc.block
    have hsize : target.size c = .ok c.toNat :=
      target.size_of_nonneg (by omega) (le_trans hmax target.int32_le)
    rw [if_pos hgrow, hc]
    dsimp only [Except.bind]
    rw [hsize]
    cases hblock : realloc acc.bytes c.toNat outcome with
    | none => exact Or.inl (by simp only [hblock])
    | some block =>
        obtain ⟨hnew, htake⟩ := realloc_spec hblock (by omega)
        have hcap : (block.length : ℤ) = c := by omega
        refine Or.inr ⟨{ acc with bytes := block, capacity := c }, by simp only [hblock],
          ⟨hlen0, le_trans hlen hge, hmax, hcap⟩, hreq, rfl, rfl, ?_⟩
        show block.take acc.length.toNat = acc.bytes.take acc.length.toNat
        rw [← htake, List.take_take, min_eq_left (by omega)]
  · rw [if_neg hgrow]
    exact Or.inr ⟨acc, rfl, hacc, not_lt.1 hgrow, rfl, rfl, rfl⟩

/-- `dthttpclient_linux_accumulate` ends without a fault. Either it refuses the bytes, or the bytes
    are there and stand behind those stored before. -/
theorem accumulate_spec (hfuel : 31 ≤ fuel) (hacc : acc.WellFormed) (bytes : Option (ℕ → UInt8))
    {length : ℤ} (h0 : 0 ≤ length) (hmax : length ≤ int32Max) (outcome : Option (ℕ → UInt8)) :
    (accumulate target fuel acc bytes length outcome = .ok none ∧ (bytes = none ∨ length ≠ 0)) ∨
      ∃ acc' contents, accumulate target fuel acc bytes length outcome = .ok (some acc') ∧
        bytes = some contents ∧ acc'.WellFormed ∧
        acc'.stored = acc.stored ++ readBytes contents length.toNat := by
  unfold accumulate
  cases bytes with
  | none => exact Or.inl ⟨rfl, Or.inl rfl⟩
  | some contents =>
      dsimp only
      rw [if_neg (not_lt.2 h0)]
      by_cases hzero : length = 0
      · rw [if_pos hzero]
        refine Or.inr ⟨acc, contents, rfl, rfl, hacc, ?_⟩
        rw [hzero]
        exact (List.append_nil _).symm
      · have hlen0 := hacc.length_nonneg
        rw [if_neg hzero, int32_of_nonneg (by omega) (by omega)]
        dsimp only [Except.bind]
        by_cases hroom : acc.length > int32Max - length
        · exact Or.inl ⟨if_pos hroom, Or.inr hzero⟩
        · rw [if_neg hroom, int32_of_nonneg (by omega) (by omega)]
          dsimp only
          have hrequired : acc.length + length ≤ int32Max := by omega
          rcases makeRoom_spec target hfuel hacc hrequired outcome with
            hnone | ⟨acc', hsome, hwf, hreq, hlen, -, hstored⟩
          · rw [hnone]
            exact Or.inl ⟨rfl, Or.inr hzero⟩
          · have hsize : target.size length = .ok length.toNat :=
              target.size_of_nonneg h0 (le_trans hmax target.int32_le)
            have hbytes := length_readBytes contents length.toNat
            have hblockLen := hwf.block
            have hfits : acc'.length.toNat + (readBytes contents length.toNat).length ≤
                acc'.bytes.length := by omega
            obtain ⟨block, hblock, hsame, htake⟩ := memcpy_spec hfits
            have hsum : (acc.length + length).toNat =
                acc'.length.toNat + (readBytes contents length.toNat).length := by omega
            rw [hsome]
            dsimp only
            rw [hsize]
            dsimp only
            rw [hblock]
            refine Or.inr ⟨{ acc' with bytes := block, length := acc.length + length }, contents,
              rfl, rfl, ⟨add_nonneg hlen0 h0, hreq, hwf.capacity_le, ?_⟩, ?_⟩
            · show (block.length : ℤ) = acc'.capacity
              rw [hsame]
              exact hblockLen
            · show block.take (acc.length + length).toNat = _
              rw [hsum, htake, ← hstored]
              rfl

/-- What one call may do: it returns the size of the chunk and stores it, or refuses the chunk and
    changes `failed` only. -/
structure CallKept (acc : Accumulator) (call : Call) (acc' : Accumulator) (n : ℕ) : Prop where
  accepted : n = call.size * call.nmemb → acc'.stored = acc.stored ++ call.chunk
  refused : n ≠ call.size * call.nmemb ∨ call.contents = none →
    n = 0 ∧ acc' = { acc with failed := true }

/-- A chunk that is refused is missing, or is not empty. -/
theorem refused_kept {call : Call} (h : call.contents = none ∨ call.size * call.nmemb ≠ 0) :
    CallKept acc call { acc with failed := true } 0 := by
  refine ⟨fun hfull => ?_, fun _ => ⟨rfl, rfl⟩⟩
  rcases h with hnull | hne
  · rw [Call.chunk, hnull]
    exact (List.append_nil _).symm
  · exact absurd hfull.symm hne

/-- `dthttpclient_linux_write_body` ends without a fault. -/
theorem writeBody_spec (hfuel : 31 ≤ fuel) (hacc : acc.WellFormed) (call : Call) :
    ∃ acc' n, writeBody target fuel acc call = .ok (acc', n) ∧ acc'.WellFormed ∧
      CallKept acc call acc' n := by
  have hfailed : ({ acc with failed := true } : Accumulator).WellFormed :=
    ⟨hacc.length_nonneg, hacc.length_le, hacc.capacity_le, hacc.block⟩
  unfold writeBody
  by_cases hover : call.size ≠ 0 ∧ call.nmemb > target.sizeMax / call.size
  · rw [if_pos hover]
    refine ⟨_, _, rfl, hfailed, refused_kept (Or.inr (Nat.mul_ne_zero hover.1 ?_))⟩
    exact Nat.pos_iff_ne_zero.1 (Nat.zero_lt_of_lt hover.2)
  · have hmul : call.size * call.nmemb ≤ target.sizeMax := by
      rcases Nat.eq_zero_or_pos call.size with hzero | hpos
      · rw [hzero, Nat.zero_mul]
        exact Nat.zero_le _
      · rw [Nat.mul_comm]
        exact (Nat.le_div_iff_mul_le hpos).1
          (not_lt.1 fun hgt => hover ⟨Nat.pos_iff_ne_zero.1 hpos, hgt⟩)
    have hsize : target.size (call.size * call.nmemb) = .ok (call.size * call.nmemb) := by
      rw [← Nat.cast_mul]
      exact target.size_of_nonneg (Int.natCast_nonneg _) (Int.ofNat_le.2 hmul)
    rw [if_neg hover, hsize]
    dsimp only [Except.bind]
    by_cases hbig : ((call.size * call.nmemb : ℕ) : ℤ) > int32Max
    · rw [if_pos hbig]
      refine ⟨_, _, rfl, hfailed, refused_kept (Or.inr ?_)⟩
      intro hzero
      rw [hzero] at hbig
      exact absurd hbig (by decide)
    · rw [if_neg hbig]
      rcases accumulate_spec target hfuel hacc call.contents (Int.natCast_nonneg _) (not_lt.1 hbig)
        call.outcome with ⟨hnone, hwhy⟩ | ⟨acc', contents, hsome, hcontents, hwf, hstored⟩
      · rw [hnone]
        refine ⟨_, _, rfl, hfailed, refused_kept (hwhy.imp_right fun hne hzero => hne ?_)⟩
        rw [hzero]
        rfl
      · rw [hsome]
        refine ⟨_, _, rfl, hwf, fun _ => ?_, fun hwrong => ?_⟩
        · rw [hstored, Call.chunk, hcontents]
          rfl
        · rw [hcontents] at hwrong
          exact absurd hwrong (by simp only [ne_eq, not_true, reduceCtorEq, or_self,
            not_false_eq_true])

/-- A sequence of calls ends without a fault; what is stored is what was stored before it and the
    chunks accepted. -/
theorem writeBodies_spec (hfuel : 31 ≤ fuel) (calls : List Call) :
    ∀ {acc : Accumulator}, acc.WellFormed →
      ∃ acc' ns, writeBodies target fuel acc calls = .ok (acc', ns) ∧ acc'.WellFormed ∧
        acc'.stored = acc.stored ++ acceptedBytes calls ns := by
  induction calls with
  | nil =>
      intro acc hacc
      exact ⟨acc, [], rfl, hacc, (List.append_nil _).symm⟩
  | cons call calls ih =>
      intro acc hacc
      obtain ⟨acc₁, n, hcall, hacc₁, hkept⟩ := writeBody_spec target hfuel hacc call
      obtain ⟨acc', ns, hrest, hwf, hstored⟩ := ih hacc₁
      refine ⟨acc', n :: ns, ?_, hwf, ?_⟩
      · rw [writeBodies, hcall]
        dsimp only [Except.bind]
        rw [hrest]
      · rw [hstored, acceptedBytes]
        by_cases hfull : n = call.size * call.nmemb
        · rw [if_pos hfull, hkept.accepted hfull, List.append_assoc]
        · have hsame : acc₁.stored = acc.stored := by
            rw [(hkept.refused (Or.inl hfull)).2]
            rfl
          rw [if_neg hfull, hsame]

end

/-- **The accumulator.** After every sequence of calls from an empty accumulator, none of which ends
    in a fault: the length is within the capacity, the bytes stored are the accepted chunks, the
    capacity loop ends with room for any length required of it, and one more call either stores its
    chunk or leaves all but `failed` as it is. -/
theorem accumulator_keeps_chunks (target : Target) (fuel : ℕ) (hfuel : 31 ≤ fuel)
    (calls : List Call) :
    ∃ acc ns, writeBodies target fuel .empty calls = .ok (acc, ns) ∧
      0 ≤ acc.length ∧ acc.length ≤ acc.capacity ∧ acc.stored = acceptedBytes calls ns ∧
      (∀ required ≤ int32Max, ∃ c, growCapacity required fuel acc.startCapacity = .ok c ∧
        required ≤ c) ∧
      ∀ call, ∃ acc' n, writeBody target fuel acc call = .ok (acc', n) ∧
        CallKept acc call acc' n := by
  obtain ⟨acc, ns, hrun, hwf, hstored⟩ :=
    writeBodies_spec target hfuel calls Accumulator.empty_wellFormed
  refine ⟨acc, ns, hrun, hwf.length_nonneg, hwf.length_le, hstored, ?_, ?_⟩
  · intro required hrequired
    obtain ⟨c, hc, hreq, -, -⟩ := growCapacity_wellFormed hfuel hwf hrequired
    exact ⟨c, hc, hreq⟩
  · intro call
    obtain ⟨acc', n, hcall, -, hkept⟩ := writeBody_spec target hfuel hwf call
    exact ⟨acc', n, hcall, hkept⟩

/-- A 64-bit machine. -/
def target64 : Target := ⟨18446744073709551615, by decide⟩

/-- A chunk of two bytes, one of 2³² bytes, and an empty one. -/
def threeCalls : List Call :=
  [⟨some UInt8.ofNat, 1, 2, some fun _ => 0⟩, ⟨some UInt8.ofNat, 65536, 65536, none⟩,
    ⟨none, 0, 1, none⟩]

/-- The two bytes are stored, the second chunk is refused. -/
theorem accumulator_keeps_two_bytes :
    ∃ acc ns, writeBodies target64 31 .empty threeCalls = .ok (acc, ns) ∧
      acc.stored = acceptedBytes threeCalls ns := by
  obtain ⟨acc, ns, hrun, -, -, hstored, -⟩ :=
    accumulator_keeps_chunks target64 31 (le_refl 31) threeCalls
  exact ⟨acc, ns, hrun, hstored⟩

end DthttpclientLinux
