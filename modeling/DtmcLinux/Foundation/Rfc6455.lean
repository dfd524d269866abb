import DtmcLinux.Foundation.BigEndian
import DtmcLinux.Foundation.PrefixCode

set_option autoImplicit false

/-! # WebSocket frames

The base framing protocol of RFC 6455, section 5.2, for the frames a server sends: they are not
masked, and the payload length is written in the shortest of its three forms. `serverFrames` is the
grammar as a prefix code. -/

namespace Rfc6455

open BigEndian

/-- A frame without a mask. -/
structure Frame where
  fin : Bool
  rsv : ℕ
  opcode : ℕ
  payload : List UInt8
  deriving DecidableEq

/-- The fields fit into their bits. -/
structure Frame.Wf (f : Frame) : Prop where
  rsv_lt : f.rsv < 8
  opcode_lt : f.opcode < 16
  payload_lt : f.payload.length < 2 ^ 63

/-- An unfragmented binary message. -/
def binary (payload : List UInt8) : Frame := { fin := true, rsv := 0, opcode := 2, payload }

theorem wf_binary {payload : List UInt8} (h : payload.length < 2 ^ 63) : (binary payload).Wf :=
  ⟨Nat.succ_pos 7, show 2 < 16 by decide, h⟩

/-! ## Writing -/

/-- The length field: the 7 bits after the mask bit, and the extended length. -/
def encodeLength (n : ℕ) : List UInt8 :=
  if n ≤ 125 then [UInt8.ofNat n]
  else if n ≤ 0xFFFF then 126 :: beBytes 2 n
  else 127 :: beBytes 8 n

/-- A frame: first byte, length field, payload. -/
def encode (f : Frame) : List UInt8 :=
  UInt8.ofNat ((if f.fin then 128 else 0) + 16 * f.rsv + f.opcode)
    :: (encodeLength f.payload.length ++ f.payload)

/-! ## Reading -/

/-- The length field of a frame without a mask; forms longer than necessary are refused. -/
def decodeLength : List UInt8 → Option (ℕ × List UInt8)
  | [] => none
  | b :: rest =>
    if b.toNat ≤ 125 then some (b.toNat, rest)
    else if b = 126 then
      let n := beValue (rest.take 2)
      if 2 ≤ rest.length ∧ 125 < n then some (n, rest.drop 2) else none
    else if b = 127 then
      let n := beValue (rest.take 8)
      if 8 ≤ rest.length ∧ 0xFFFF < n ∧ n < 2 ^ 63 then some (n, rest.drop 8) else none
    else none

/-- A frame without a mask. -/
def decode : List UInt8 → Option (Frame × List UInt8)
  | [] => none
  | b :: rest =>
    match decodeLength rest with
    | none => none
    | some (n, rest) =>
      if n ≤ rest.length then
        some (⟨decide (128 ≤ b.toNat), b.toNat / 16 % 8, b.toNat % 16, rest.take n⟩, rest.drop n)
      else none

/-! ## Round trip -/

theorem decodeLength_encodeLength {n : ℕ} (h : n < 2 ^ 63) (rest : List UInt8) :
    decodeLength (encodeLength n ++ rest) = some (n, rest) := by
  by_cases hshort : n ≤ 125
  · have hnat : (UInt8.ofNat n).toNat = n := by
      rw [UInt8.toNat_ofNat']
      omega
    rw [encodeLength, if_pos hshort, List.singleton_append, decodeLength, hnat, if_pos hshort]
  · by_cases hmid : n ≤ 0xFFFF
    · have hvalue : beValue (beBytes 2 n) = n := beValue_beBytes 2 n (by omega)
      have htake : (beBytes 2 n ++ rest).take 2 = beBytes 2 n :=
        List.take_left' (length_beBytes 2 n)
      have hdrop : (beBytes 2 n ++ rest).drop 2 = rest := List.drop_left' (length_beBytes 2 n)
      rw [encodeLength, if_neg hshort, if_pos hmid, List.cons_append, decodeLength,
        if_neg (by decide), if_pos rfl, htake, hvalue, hdrop, if_pos]
      rw [List.length_append, length_beBytes]
      omega
    · have hvalue : beValue (beBytes 8 n) = n := beValue_beBytes 8 n (by omega)
      have htake : (beBytes 8 n ++ rest).take 8 = beBytes 8 n :=
        List.take_left' (length_beBytes 8 n)
      have hdrop : (beBytes 8 n ++ rest).drop 8 = rest := List.drop_left' (length_beBytes 8 n)
      rw [encodeLength, if_neg hshort, if_neg hmid, List.cons_append, decodeLength,
        if_neg (by decide), if_neg (by decide), if_pos rfl, htake, hvalue, hdrop, if_pos]
      rw [List.length_append, length_beBytes]
      omega

theorem decode_encode (f : Frame) (rest : List UInt8) (h : f.Wf) :
    decode (encode f ++ rest) = some (f, rest) := by
  obtain ⟨hrsv, hop, hlen⟩ := h
  have hfirst : (UInt8.ofNat ((if f.fin then 128 else 0) + 16 * f.rsv + f.opcode)).toNat
      = (if f.fin then 128 else 0) + 16 * f.rsv + f.opcode := by
    rw [UInt8.toNat_ofNat']
    split <;> omega
  have hlength := decodeLength_encodeLength hlen (f.payload ++ rest)
  have hroom : f.payload.length ≤ (f.payload ++ rest).length := by
    rw [List.length_append]
    omega
  have hfin : decide (128 ≤ (if f.fin then 128 else 0) + 16 * f.rsv + f.opcode) = f.fin := by
    cases f.fin with
    | true => simp only [if_true, decide_eq_true_eq]; omega
    | false => simp only [Bool.false_eq_true, if_false, decide_eq_false_iff_not]; omega
  have hrsv' : ((if f.fin then 128 else 0) + 16 * f.rsv + f.opcode) / 16 % 8 = f.rsv := by
    split <;> omega
  have hop' : ((if f.fin then 128 else 0) + 16 * f.rsv + f.opcode) % 16 = f.opcode := by
    split <;> omega
  rw [encode, List.cons_append, List.append_assoc, decode, hlength]
  show (if f.payload.length ≤ (f.payload ++ rest).length then _ else none) = _
  rw [if_pos hroom, hfirst, hfin, hrsv', hop', List.take_left, List.drop_left]

/-- The frames a server may send, as a prefix code. -/
def serverFrames : PrefixCode Frame where
  Wf := Frame.Wf
  encode := encode
  decode := decode
  encode_ne_nil _ := List.cons_ne_nil _ _
  decode_encode := decode_encode

end Rfc6455
