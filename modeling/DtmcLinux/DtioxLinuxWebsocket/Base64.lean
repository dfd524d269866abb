import DtmcLinux.DtioxLinuxWebsocket.HandshakeAccept

set_option autoImplicit false

/-! # The base64 text of a digest

`_base64_encode_20bytes` of `dtiox_linux_websocket.c` writes into an array of 29 characters through
an index `j`. Every write is checked against the array here; what is written is the text that
`base64Encode20bytes` gives, and the NUL behind it. -/

namespace DtioxLinuxWebsocket

/-- The array `out` and the index `j`. -/
structure OutArray where
  out : List UInt8
  j : ℕ

/-- `out[j++] = c`; `none` is a write behind the array. -/
def OutArray.put (a : OutArray) (c : UInt8) : Option OutArray :=
  if a.j < a.out.length then some { out := a.out.set a.j c, j := a.j + 1 } else none

/-- Some characters, one after the other. -/
def OutArray.putAll (a : OutArray) (cs : List UInt8) : Option OutArray := cs.foldlM put a

/-- A pass of the loop, that with `i = 3 * k`. -/
def writeThree (input : List UInt8) (k : ℕ) (a : Option OutArray) : Option OutArray :=
  let v := ((input.getD (3 * k) 0).toUInt32 <<< 16) ||| ((input.getD (3 * k + 1) 0).toUInt32 <<< 8) |||
    (input.getD (3 * k + 2) 0).toUInt32
  a.bind fun a => a.putAll [tblAt (v >>> 18), tblAt (v >>> 12), tblAt (v >>> 6), tblAt v]

/-- `_base64_encode_20bytes`: the array afterwards. -/
def writeBase64Encode20bytes (input out : List UInt8) : Option (List UInt8) := do
  let a ← forRange 0 6 (writeThree input) (some { out := out, j := 0 })
  let v := ((input.getD 18 0).toUInt32 <<< 16) ||| ((input.getD 19 0).toUInt32 <<< 8)
  let a ← a.putAll [tblAt (v >>> 18), tblAt (v >>> 12), tblAt (v >>> 6), 61]
  let a ← a.put 0
  return a.out

/-! ## What is written -/

/-- The array `out` with a text at its start, and the index behind the text. -/
def written (out text : List UInt8) : OutArray :=
  { out := text ++ out.drop text.length, j := text.length }

theorem put_written {out text : List UInt8} (hroom : text.length < out.length) (c : UInt8) :
    (written out text).put c = some (written out (text ++ [c])) := by
  have hlt : text.length < (text ++ out.drop text.length).length := by
    rw [List.length_append, List.length_drop]
    omega
  have hset : (text ++ out.drop text.length).set text.length c =
      (text ++ [c]) ++ out.drop (text ++ [c]).length := by
    rw [List.set_append_right _ _ (Nat.le_refl _), Nat.sub_self, List.drop_eq_getElem_cons hroom,
      List.set_cons_zero, List.length_append, List.length_singleton, List.append_assoc]
    rfl
  rw [OutArray.put, written, if_pos hlt, hset, written, List.length_append, List.length_singleton]

theorem putAll_written {out : List UInt8} (cs : List UInt8) {text : List UInt8}
    (hroom : text.length + cs.length ≤ out.length) :
    (written out text).putAll cs = some (written out (text ++ cs)) := by
  induction cs generalizing text with
  | nil => rw [OutArray.putAll, List.foldlM_nil, List.append_nil]; rfl
  | cons c cs ih =>
      rw [List.length_cons] at hroom
      have hput : (written out text).put c = some (written out (text ++ [c])) :=
        put_written (by omega) c
      have hroom' : (text ++ [c]).length + cs.length ≤ out.length := by
        rw [List.length_append, List.length_singleton]
        omega
      have hrest := ih hroom'
      rw [OutArray.putAll, List.foldlM_cons, hput]
      rw [OutArray.putAll, List.append_assoc, List.singleton_append] at hrest
      exact hrest

theorem length_encodeThree (input : List UInt8) (k : ℕ) (out : List UInt8) :
    (encodeThree input k out).length = out.length + 4 := by
  unfold encodeThree
  exact List.length_append

/-- The loop writes the text it makes. -/
theorem writeThree_loop (input : List UInt8) {out : List UInt8} (hout : out.length = 29) :
    forRange 0 6 (writeThree input) (some { out := out, j := 0 }) =
        some (written out (forRange 0 6 (encodeThree input) [])) ∧
      (forRange 0 6 (encodeThree input) []).length = 24 := by
  refine forRange.invariant
    (fun k a => a = some (written out (forRange 0 k (encodeThree input) [])) ∧
      (forRange 0 k (encodeThree input) []).length = 4 * k) (Nat.zero_le 6) ?_ ?_
  · rw [forRange.empty]
    exact ⟨rfl, rfl⟩
  · rintro k a - hk ⟨rfl, hlength⟩
    have hstep : forRange 0 (0 + (k + 1)) (encodeThree input) [] =
        encodeThree input (0 + k) (forRange 0 (0 + k) (encodeThree input) []) :=
      forRange.succ 0 k []
    have hsucc : forRange 0 (k + 1) (encodeThree input) [] =
        encodeThree input k (forRange 0 k (encodeThree input) []) := by
      simpa only [Nat.zero_add] using hstep
    rw [hsucc, length_encodeThree, hlength]
    refine ⟨?_, by ring⟩
    exact putAll_written _ (by
      rw [hlength, hout]
      simp only [List.length_cons, List.length_nil]
      omega)

/-- The array is the text and a NUL; nothing is written behind it. -/
theorem writeBase64Encode20bytes_eq (input : List UInt8) {out : List UInt8}
    (hout : out.length = 29) :
    writeBase64Encode20bytes input out = some (base64Encode20bytes input ++ [0]) := by
  obtain ⟨hloop, hlength⟩ := writeThree_loop input hout
  have htext : (base64Encode20bytes input).length = 28 := by
    unfold base64Encode20bytes
    rw [List.length_append, hlength]
    rfl
  have htail : ∀ last : List UInt8, last.length = 4 →
      (written out (forRange 0 6 (encodeThree input) [])).putAll last =
        some (written out (forRange 0 6 (encodeThree input) [] ++ last)) := by
    intro last hlast
    exact putAll_written last (by omega)
  have hnul : (written out (base64Encode20bytes input)).put 0 =
      some (written out (base64Encode20bytes input ++ [0])) := put_written (by omega) 0
  have hfull : (written out (base64Encode20bytes input ++ [0])).out =
      base64Encode20bytes input ++ [0] := by
    have hlen : (base64Encode20bytes input ++ [0]).length = 29 := by
      rw [List.length_append, htext, List.length_singleton]
    rw [written, List.drop_of_length_le (by omega), List.append_nil]
  have hword := htail
    (let v := ((input.getD 18 0).toUInt32 <<< 16) ||| ((input.getD 19 0).toUInt32 <<< 8)
     [tblAt (v >>> 18), tblAt (v >>> 12), tblAt (v >>> 6), 61]) rfl
  rw [writeBase64Encode20bytes, hloop, ← hfull]
  simp only [Option.bind_eq_bind, Option.bind_some, Option.pure_def] at hword ⊢
  rw [hword]
  exact congrArg (fun a => a.bind fun a => some a.out) hnul

/-! ## Reading it back -/

/-- The text is 27 letters and one padding character. -/
theorem base64Encode20bytes_letters {input : List UInt8} (hin : input.length = 20) :
    ∃ letters : List UInt8, base64Encode20bytes input = letters ++ [61] ∧ letters.length = 27 ∧
      ∀ c ∈ letters, c ∈ Base64.alphabet := by
  have hmod : input.length % 3 = 2 := by omega
  obtain ⟨letters, htext, hletters⟩ := Base64.encode_of_mod_two hmod
  have hlength := Base64.length_encode input
  rw [htext, hin, List.length_append, List.length_singleton] at hlength
  exact ⟨letters, (base64Encode20bytes_eq hin).trans htext, by omega, hletters⟩

/-- **The base64 text of a digest.** For any twenty bytes, and whatever the array of 29 characters
    held, exactly 28 characters and a NUL are written into it; only the last character is padding;
    the text decodes to the bytes, and no other twenty bytes have the same text. -/
theorem digest_text_decodes {input out : List UInt8} (hin : input.length = 20)
    (hout : out.length = 29) :
    ∃ letters : List UInt8,
      writeBase64Encode20bytes input out = some (letters ++ [61, 0]) ∧ letters.length = 27 ∧
        (∀ c ∈ letters, c ≠ 61 ∧ c ≠ 0) ∧ Base64.decode (letters ++ [61]) = some input ∧
        ∀ input' out' : List UInt8, input'.length = 20 → out'.length = 29 →
          writeBase64Encode20bytes input' out' = writeBase64Encode20bytes input out →
            input' = input := by
  obtain ⟨letters, htext, hlength, hletters⟩ := base64Encode20bytes_letters hin
  refine ⟨letters, ?_, hlength, fun c hc => ?_, ?_, fun input' out' hin' hout' heq => ?_⟩
  · rw [writeBase64Encode20bytes_eq input hout, htext, List.append_assoc]
    rfl
  · have hmem := hletters c hc
    exact ⟨fun h => absurd (h ▸ hmem) (by decide), fun h => absurd (h ▸ hmem) (by decide)⟩
  · rw [← htext, base64Encode20bytes_eq hin, Base64.decode_encode]
  · rw [writeBase64Encode20bytes_eq input hout, writeBase64Encode20bytes_eq input' hout',
      base64Encode20bytes_eq hin, base64Encode20bytes_eq hin'] at heq
    exact Base64.encode_injective (List.append_cancel_right (Option.some.inj heq))

/-- The digest of the empty text. -/
theorem digest_text_decodes_sha1 :
    ∃ letters : List UInt8,
      writeBase64Encode20bytes (Fips180.sha1 []) (.replicate 29 0) = some (letters ++ [61, 0]) ∧
        letters.length = 27 := by
  obtain ⟨letters, hwritten, hlength, -⟩ :=
    digest_text_decodes (length_sha1 []) (List.length_replicate (n := 29) (a := (0 : UInt8)))
  exact ⟨letters, hwritten, hlength⟩

end DtioxLinuxWebsocket
