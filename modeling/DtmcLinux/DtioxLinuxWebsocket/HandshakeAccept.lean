import DtmcLinux.Dtsha1.Correct
import DtmcLinux.DtioxLinuxWebsocket.Handshake
import DtmcLinux.Foundation.Base64

set_option autoImplicit false

/-! # The response of the handshake

What `_base64_encode_20bytes` writes is the base64 text of the twenty bytes, and the response is a
message with four lines, of which the last has the accept value. -/

namespace DtioxLinuxWebsocket

open Posix

/-! ## Base64 -/

/-- The four letters that one word gives. -/
theorem tblAt_eq_quad (v : UInt32) :
    [tblAt (v >>> 18), tblAt (v >>> 12), tblAt (v >>> 6), tblAt v] = Base64.quad v.toNat := by
  have h3 := Base64.symbol_shift v 18 3 rfl (by decide)
  have h2 := Base64.symbol_shift v 12 2 rfl (by decide)
  have h1 := Base64.symbol_shift v 6 1 rfl (by decide)
  have h0 := Base64.symbol_shift v 0 0 rfl (by decide)
  rw [UInt32.shiftRight_zero, pow_zero, Nat.div_one] at h0
  rw [pow_one] at h1
  rw [Base64.quad, ← h3, ← h2, ← h1, ← h0]
  rfl

/-- The next three bytes of an array. -/
theorem drop_eq_three {input : List UInt8} {k : ℕ} (h : k + 2 < input.length) :
    input.drop k = input.getD k 0 :: input.getD (k + 1) 0 :: input.getD (k + 2) 0 ::
      input.drop (k + 3) := by
  rw [List.drop_eq_getElem_cons (by omega), List.drop_eq_getElem_cons (by omega),
    List.drop_eq_getElem_cons (by omega), List.getD_eq_getElem _ _ (by omega),
    List.getD_eq_getElem _ _ (by omega), List.getD_eq_getElem _ _ (by omega)]

/-- After pass `k` the text is that of the first `3 * k` bytes. -/
theorem encodeThree_encode {input out : List UInt8} {k : ℕ} (hk : 3 * k + 2 < input.length) :
    encodeThree input k out ++ Base64.encode (input.drop (3 * (k + 1))) =
      out ++ Base64.encode (input.drop (3 * k)) := by
  rw [drop_eq_three hk, Base64.encode, ← Base64.toNat_or_shift24, ← tblAt_eq_quad,
    ← List.append_assoc]
  rfl

/-- **`_base64_encode_20bytes`.** -/
theorem base64Encode20bytes_eq {input : List UInt8} (hlen : input.length = 20) :
    base64Encode20bytes input = Base64.encode input := by
  have hlast : input.drop 18 = [input.getD 18 0, input.getD 19 0] := by
    rw [List.drop_eq_getElem_cons (by omega), List.drop_eq_getElem_cons (by omega),
      List.drop_of_length_le (by omega), List.getD_eq_getElem _ _ (by omega),
      List.getD_eq_getElem _ _ (by omega)]
  have hloop : forRange 0 6 (encodeThree input) [] ++ Base64.encode (input.drop 18) =
      Base64.encode input := by
    refine forRange.invariant
      (fun k out => out ++ Base64.encode (input.drop (3 * k)) = Base64.encode input)
      (Nat.zero_le 6) rfl ?_
    intro k out _ hk hout
    rw [encodeThree_encode (by omega)]
    exact hout
  have hword : ((input.getD 18 0).toUInt32 <<< 16 ||| (input.getD 19 0).toUInt32 <<< 8).toNat =
      BigEndian.beValue [input.getD 18 0, input.getD 19 0, 0] := by
    rw [← Base64.toNat_or_shift24, Base64.toUInt32_zero, UInt32.or_zero]
  rw [hlast, Base64.encode, ← hword, ← tblAt_eq_quad] at hloop
  exact hloop

/-! ## The digest -/

theorem length_sha1 (m : List UInt8) : (Fips180.sha1 m).length = 20 := by
  simp [Fips180.sha1, Fips180.Words.toBytes]

/-- The digest of a short text, whatever the context held. -/
theorem compute_eq_sha1 (ctx : Dtsha1.Ctx) {m : List UInt8} (hm : m.length < 512) :
    Dtsha1.compute ctx m = Fips180.sha1 m :=
  ((Dtsha1.received_init ctx).update m).final (Nat.lt_trans hm (by norm_num))

/-- The value that answers a key. -/
def acceptValue (key : List UInt8) : List UInt8 := Base64.encode (Fips180.sha1 (key ++ wsGuid))

theorem length_acceptValue (key : List UInt8) : (acceptValue key).length = 28 := by
  rw [acceptValue, Base64.length_encode, length_sha1]

theorem cr_notMem_acceptValue (key : List UInt8) : 13 ∉ acceptValue key := by
  intro h
  rcases Base64.mem_encode h with h | h
  · exact absurd h (by decide)
  · exact absurd h (by decide)

/-! ## The response -/

/-- The fields of the response. -/
def responseFields (acceptB64 : List UInt8) : List (List UInt8) :=
  [ascii "Upgrade: websocket", ascii "Connection: Upgrade",
    ascii "Sec-WebSocket-Accept: " ++ acceptB64]

theorem length_response (acceptB64 : List UInt8) : (response acceptB64).length ≤ 511 := by
  rw [response, List.length_take]
  exact Nat.min_le_left _ _

/-- **The response is one head.** -/
theorem splitHead_response (key : List UInt8) :
    Http.splitHead (response (acceptValue key)) =
      some (Http.statusLine 101 (ascii "Switching Protocols") :: responseFields (acceptValue key),
        []) := by
  have hlen := length_acceptValue key
  have hcr := cr_notMem_acceptValue key
  generalize acceptValue key = accept at hlen hcr
  have htext : response accept =
      (Http.statusLine 101 (ascii "Switching Protocols") :: responseFields accept).flatMap
        (· ++ Http.crlf) ++ (Http.crlf ++ []) := by
    have hstatus : ascii "HTTP/1.1 101 Switching Protocols\r\n" =
        Http.statusLine 101 (ascii "Switching Protocols") ++ Http.crlf := by decide +kernel
    have hupgrade : ascii "Upgrade: websocket\r\n" = ascii "Upgrade: websocket" ++ Http.crlf := by
      decide
    have hconnection : ascii "Connection: Upgrade\r\n" =
        ascii "Connection: Upgrade" ++ Http.crlf := by decide
    have hcrlf : ascii "\r\n" = Http.crlf := ascii_crlf
    have hfits : (ascii "HTTP/1.1 101 Switching Protocols\r\n" ++ ascii "Upgrade: websocket\r\n" ++
        ascii "Connection: Upgrade\r\n" ++ ascii "Sec-WebSocket-Accept: " ++ accept ++
        ascii "\r\n" ++ ascii "\r\n").length ≤ 511 := by
      simp only [List.length_append, hlen]
      decide
    rw [response, List.take_of_length_le hfits, hstatus, hupgrade, hconnection, hcrlf]
    simp only [responseFields, List.flatMap_cons, List.flatMap_nil, List.append_assoc,
      List.append_nil]
  rw [htext]
  refine Http.splitHead_lines (List.cons_ne_nil _ _) ?_ []
  intro line hline
  simp only [responseFields, List.mem_cons, List.not_mem_nil, or_false] at hline
  rcases hline with rfl | rfl | rfl | rfl
  · decide +kernel
  · decide
  · decide
  · refine ⟨?_, ?_⟩
    · rw [ne_eq, List.append_eq_nil_iff, not_and]
      exact fun h => absurd h (by decide)
    · rw [List.mem_append, not_or]
      exact ⟨by decide, hcr⟩

/-- The value in the response. -/
theorem field?_responseFields (accept : List UInt8) :
    Http.field? "Sec-WebSocket-Accept" (responseFields accept) = some accept := by
  have hfield : Http.isField "Sec-WebSocket-Accept" (ascii "Sec-WebSocket-Accept: " ++ accept) =
      true := by
    rw [Http.isField_append (by decide)]
    decide
  have hvalue : Http.fieldValue "Sec-WebSocket-Accept" (ascii "Sec-WebSocket-Accept: " ++ accept) =
      accept := by
    rw [Http.fieldValue_append (by decide)]
    rfl
  rw [Http.field?, responseFields, List.find?_cons_of_neg (by decide),
    List.find?_cons_of_neg (by decide), List.find?_cons_of_pos hfield, Option.map_some, hvalue]

end DtioxLinuxWebsocket
