import DtmcLinux.Foundation.Http
import DtmcLinux.Foundation.Rfc6455

set_option autoImplicit false

/-! # A WebSocket client

The client of RFC 6455, section 4.1: it checks the head of the server's response, and then reads
frames. -/

namespace Rfc6455

/-- The response opens the connection, for a client that expects this accept value. -/
def opens (accept : List UInt8) : List (List UInt8) → Bool
  | [] => false
  | statusLine :: fields =>
    (Http.parseStatusLine statusLine).any (·.1 == 101) &&
      (Http.field? "Upgrade" fields).any (Http.hasElement (Posix.ascii "websocket")) &&
      (Http.field? "Connection" fields).any (Http.hasElement (Posix.ascii "Upgrade")) &&
      Http.field? "Sec-WebSocket-Accept" fields == some accept

/-- The frames a client reads from all the bytes of a connection. -/
def clientReads (accept bytes : List UInt8) : Option (List Frame) :=
  match Http.splitHead bytes with
  | none => none
  | some (lines, rest) => if opens accept lines then serverFrames.decodeAll rest else none

/-- What follows a head is left alone. -/
theorem splitHead_append {head : List UInt8} {lines : List (List UInt8)}
    (h : Http.splitHead head = some (lines, [])) (rest : List UInt8) :
    Http.splitHead (head ++ rest) = some (lines, rest) := by
  obtain ⟨i, hfind, heq⟩ := Option.map_eq_some_iff.1 h
  obtain ⟨hlines, hnil⟩ := Prod.mk.inj heq
  have hlength : head.length = i + 4 := by
    have hle : i + 4 ≤ head.length := findSub_le hfind
    have hge := List.drop_eq_nil_iff.1 hnil
    omega
  rw [Http.splitHead, findSub_append_left hfind, Option.map_some,
    List.take_append_of_le_length (by omega), hlines, ← hlength, List.drop_left]

/-- **A client reads what is written behind the head.** -/
theorem clientReads_append {accept head : List UInt8} {lines : List (List UInt8)}
    (hhead : Http.splitHead head = some (lines, [])) (hopens : opens accept lines = true)
    {frames : List Frame} (hwf : ∀ f ∈ frames, f.Wf) :
    clientReads accept (head ++ serverFrames.encodeAll frames) = some frames := by
  rw [clientReads, splitHead_append hhead]
  dsimp only
  rw [if_pos hopens]
  exact serverFrames.decodeAll_encodeAll hwf

end Rfc6455
