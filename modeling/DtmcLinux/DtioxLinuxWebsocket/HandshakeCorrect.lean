import DtmcLinux.DtioxLinuxWebsocket.HandshakeText
import DtmcLinux.Posix.Receive

set_option autoImplicit false

/-! # Which requests the handshake accepts, and with what

`handshake_segmentation`: how the stream is cut does not matter. `handshake_accepts_exact`: a request
is accepted if and only if its lines are acceptable. `accept_value_exact`: the accept value is that of
the key, unless the key has more than 255 bytes, of which the array `sec_key_trimmed` takes the first
255. -/

namespace DtioxLinuxWebsocket

open Posix

/-! ## Receiving -/

def blankLine : List UInt8 := Http.crlf ++ Http.crlf

/-- The error of a buffer that is full. -/
def tooLarge : Dterr := .new .io "HTTP upgrade request too large"

theorem checkUpgrade_eq :
    checkUpgrade 8192 = findOrFull blankLine 8191 (fun _ => ()) tooLarge := by
  funext bytes
  rw [checkUpgrade, findOrFull, Http.ascii_blankLine, ← blankLine]
  cases strstr bytes blankLine with
  | some i => rfl
  | none =>
      have hfull : bytes.length + 1 ≥ 8192 ↔ bytes.length ≥ 8191 := by omega
      simp only [hfull]
      rfl

/-- What the client's request is answered with: a response that is sent, or an error. -/
def reply (results : List SendResult) : Except Dterr (List UInt8) → SendOutcome
  | .error err => ⟨[], results, some (some err)⟩
  | .ok response => sendAll response results

theorem doWebsocketHandshake_eq (timeoutMs : ℤ) (ctx : Dtsha1.Ctx) (events : List UpgradeEvent)
    (results : List SendResult) :
    doWebsocketHandshake timeoutMs ctx events results =
      reply results ((recvLoop 8191 (findOrFull blankLine 8191 (fun _ => ()) tooLarge) upgradeErrors []
        (events.map (UpgradeEvent.toRecv timeoutMs))).bind
          fun r => handshakeResponse ctx (cString r.2.1)) := by
  rw [doWebsocketHandshake, recvHttpUpgradeRequest, if_neg (by decide), checkUpgrade_eq]
  generalize recvLoop 8191 (findOrFull blankLine 8191 (fun _ => ()) tooLarge) upgradeErrors []
    (events.map (UpgradeEvent.toRecv timeoutMs)) = received
  cases received with
  | error err => rfl
  | ok r =>
      show (match handshakeResponse ctx (cString r.2.1) with
        | .error err => ⟨[], results, some (some err)⟩
        | .ok response => sendAll response results : SendOutcome) =
          reply results (handshakeResponse ctx (cString r.2.1))
      cases handshakeResponse ctx (cString r.2.1) with
      | error err => rfl
      | ok response => rfl

/-- What arrives on the socket. -/
def streamOf (timeoutMs : ℤ) (events : List UpgradeEvent) : List UInt8 :=
  arrived (events.map (UpgradeEvent.toRecv timeoutMs))

variable {timeoutMs : ℤ} {events : List UpgradeEvent} {stream : List UInt8} {i : ℕ}

/-- Without a blank line in the buffer the handshake fails. -/
theorem handshake_none (h : strstr ((streamOf timeoutMs events).take 8191) blankLine = none)
    (ctx : Dtsha1.Ctx) (results : List SendResult) :
    ∃ dterr, doWebsocketHandshake timeoutMs ctx events results =
      ⟨[], results, some (some dterr)⟩ := by
  obtain ⟨dterr, hread⟩ : ∃ dterr, recvLoop 8191 (findOrFull blankLine 8191 (fun _ => ()) tooLarge)
      upgradeErrors [] (events.map (UpgradeEvent.toRecv timeoutMs)) = .error dterr :=
    recvLoop_arrived_none h
  refine ⟨dterr, ?_⟩
  rw [doWebsocketHandshake_eq, hread]
  rfl

/-- With one, the text before the end of what has been received is answered. -/
theorem handshake_some (h : strstr ((streamOf timeoutMs events).take 8191) blankLine = some i)
    (ctx : Dtsha1.Ctx) (results : List SendResult) :
    ∃ n, i + 4 ≤ n ∧ doWebsocketHandshake timeoutMs ctx events results =
      reply results (handshakeResponse ctx ((cString (streamOf timeoutMs events)).take n)) := by
  obtain ⟨n, rest, hn, hread⟩ : ∃ n rest, i + 4 ≤ n ∧
      recvLoop 8191 (findOrFull blankLine 8191 (fun _ => ()) tooLarge) upgradeErrors []
        (events.map (UpgradeEvent.toRecv timeoutMs)) =
          .ok ((), (streamOf timeoutMs events).take n, rest) :=
    recvLoop_arrived_some (by decide) h
  refine ⟨n, hn, ?_⟩
  rw [doWebsocketHandshake_eq, hread, ← cString_take]
  rfl

/-- The blank line in the text. -/
theorem findSub_text (h : strstr (stream.take 8191) blankLine = some i) :
    findSub (Http.crlf ++ Http.crlf) (cString stream) = some i ∧ i + 4 ≤ 8191 := by
  rw [strstr, cString_take] at h
  exact findSub_of_take h

/-- Some context of the digest. -/
def uninitialised : Dtsha1.Ctx := ⟨#v[1, 2, 3, 4, 5], 6, Vector.replicate 64 7, 8, by decide⟩

/-! ## Segmentation -/

theorem toRecv_segments (timeoutMs : ℤ) (segs : List (List UInt8)) :
    (segs.map UpgradeEvent.segment).map (UpgradeEvent.toRecv timeoutMs) = segs.map .segment := by
  rw [List.map_map]
  rfl

theorem streamOf_segments {segs : List (List UInt8)} (hcut : Cut segs stream) :
    streamOf timeoutMs (segs.map .segment) = stream := by
  rw [streamOf, toRecv_segments, arrived_segments hcut]

/-- The error when the stream has no blank line. -/
theorem handshake_segments_none {segs : List (List UInt8)} (hcut : Cut segs stream)
    (h : strstr (stream.take 8191) blankLine = none) (ctx : Dtsha1.Ctx) (results : List SendResult) :
    doWebsocketHandshake timeoutMs ctx (segs.map .segment) results =
      reply results (.error (if 0 < 8191 ∧ 8191 ≤ stream.length then tooLarge
        else upgradeErrors.closed)) := by
  rw [doWebsocketHandshake_eq, toRecv_segments, recvLoop_findOrFull_none hcut h]
  rfl

/-- **The handshake does not depend on segmentation.** However a stream is cut, the error is the same
    or the same response is sent, whatever the timeout and the uninitialised context of the digest. -/
theorem handshake_segmentation {stream : List UInt8} {segs segs' : List (List UInt8)}
    (hcut : Cut segs stream) (hcut' : Cut segs' stream) (timeoutMs : ℤ) (ctx ctx' : Dtsha1.Ctx)
    (results : List SendResult) :
    doWebsocketHandshake timeoutMs ctx (segs.map .segment) results =
      doWebsocketHandshake timeoutMs ctx' (segs'.map .segment) results := by
  cases hfind : strstr (stream.take 8191) blankLine with
  | none => rw [handshake_segments_none hcut hfind, handshake_segments_none hcut' hfind]
  | some i =>
      have h := hfind
      have h' := hfind
      rw [← streamOf_segments hcut] at h
      rw [← streamOf_segments hcut'] at h'
      obtain ⟨n, hn, hanswer⟩ := handshake_some h ctx results
      obtain ⟨n', hn', hanswer'⟩ := handshake_some h' ctx' results
      rw [hanswer, hanswer', streamOf_segments hcut, streamOf_segments hcut',
        handshakeResponse_take ctx ctx' (findSub_text hfind).1 hn hn']

/-- A request that is cut inside its blank line, and one that comes with bytes behind it. -/
theorem handshake_segmentation_blank_line :
    doWebsocketHandshake 5000 uninitialised
        ([ascii "GET / HTTP/1.1\r\n\r", ascii "\nmore"].map .segment) [] =
      doWebsocketHandshake 5000 uninitialised
        ([ascii "GET / HTTP/1.1\r\n\r\nmore"].map .segment) [] :=
  handshake_segmentation
    (⟨by decide, by decide⟩ : Cut [ascii "GET / HTTP/1.1\r\n\r", ascii "\nmore"]
      (ascii "GET / HTTP/1.1\r\n\r\nmore"))
    (cut_singleton (by decide)) 5000 uninitialised uninitialised []

/-! ## Requests -/

/-- A request that ends with its blank line, and has no NUL byte. -/
structure UpgradeRequest where
  bytes : List UInt8
  lines : List (List UInt8)
  head : Http.splitHead bytes = some (lines, [])
  no_nul : 0 ∉ bytes
  fits : bytes.length ≤ 8191

/-- The request that is written as its lines. -/
def UpgradeRequest.ofLines (lines : List (List UInt8)) (hne : lines ≠ [])
    (hlines : ∀ line ∈ lines, line ≠ [] ∧ 13 ∉ line)
    (hnul : 0 ∉ lines.flatMap (· ++ Http.crlf) ++ Http.crlf)
    (hfits : (lines.flatMap (· ++ Http.crlf) ++ Http.crlf).length ≤ 8191) : UpgradeRequest where
  bytes := lines.flatMap (· ++ Http.crlf) ++ Http.crlf
  lines := lines
  head := by
    have hhead := Http.splitHead_lines hne hlines []
    rwa [List.append_nil] at hhead
  no_nul := hnul
  fits := hfits

/-- What an upgrade request has to have. -/
abbrev UpgradeRequest.IsAcceptable (r : UpgradeRequest) : Prop := Acceptable r.bytes r.lines

/-- The key of a request, without the blanks around it. -/
def UpgradeRequest.key? (r : UpgradeRequest) : Option (List UInt8) :=
  (Http.field? "Sec-WebSocket-Key" r.lines).map Http.trim

/-- Where the request is in the stream. -/
structure FoundAt (r : UpgradeRequest) (stream : List UInt8) (i : ℕ) : Prop where
  blank : strstr (stream.take 8191) blankLine = some i
  bytes : r.bytes = (cString stream).take (i + 4)
  lines : r.lines = pieces Http.crlf ((cString stream).take (i + 2))

/-- A request is found at the beginning of a stream, -/
theorem UpgradeRequest.foundAt (r : UpgradeRequest) (hpre : r.bytes <+: stream) :
    ∃ i, FoundAt r stream i := by
  obtain ⟨i, hfind, hhead⟩ := Option.map_eq_some_iff.1 r.head
  obtain ⟨hlines, hrest⟩ := Prod.mk.inj hhead
  obtain ⟨rest, rfl⟩ := hpre
  have hlength : r.bytes.length = i + 4 := by
    have hle : i + 4 ≤ r.bytes.length := findSub_le hfind
    have hge := List.drop_eq_nil_iff.1 hrest
    omega
  have htext : cString (r.bytes ++ rest) = r.bytes ++ cString rest := cString_append r.no_nul rest
  have hblank : findSub blankLine (cString (r.bytes ++ rest)) = some i := by
    rw [htext]
    exact findSub_append_left hfind _
  have hfits := r.fits
  refine ⟨i, ?_, ?_, ?_⟩
  · rw [strstr, cString_take]
    rw [hlength] at hfits
    exact findSub_take_some hblank hfits
  · rw [htext, ← hlength, List.take_left]
  · rw [htext, List.take_append_of_le_length (by omega), hlines]

/-- and what is found is a request. -/
theorem exists_request (h : strstr (stream.take 8191) blankLine = some i) :
    ∃ r : UpgradeRequest, r.bytes <+: stream ∧ FoundAt r stream i := by
  obtain ⟨hfind, hfits⟩ := findSub_text h
  have htext : (cString stream).take (i + 4) <+: stream :=
    (List.take_prefix _ _).trans (List.takeWhile_prefix _)
  refine ⟨⟨(cString stream).take (i + 4), pieces Http.crlf ((cString stream).take (i + 2)), ?_, ?_,
    ?_⟩, htext, h, rfl, rfl⟩
  · have hle : i + 4 ≤ (cString stream).length := findSub_le hfind
    have htake : findSub (Http.crlf ++ Http.crlf) ((cString stream).take (i + 4)) = some i :=
      findSub_take_some hfind (Nat.le_refl _)
    rw [Http.splitHead, htake, Option.map_some, List.take_take,
      Nat.min_eq_left (by omega), List.drop_eq_nil_of_le (by rw [List.length_take]; omega)]
  · intro hmem
    exact absurd (List.mem_takeWhile_imp (List.mem_of_mem_take hmem)) (by decide)
  · rw [List.length_take]
    omega

/-! ## The outcome -/

def Accepted (o : SendOutcome) : Prop :=
  o.ret = some none ∧ ∃ fields, Http.splitHead o.bytes =
    some (Http.statusLine 101 (ascii "Switching Protocols") :: fields, [])

/-- An error is returned and nothing is sent. -/
def Failed (o : SendOutcome) : Prop := o.bytes = [] ∧ ∃ dterr, o.ret = some (some dterr)

/-- **What becomes of a request.** -/
theorem handshake_cases (r : UpgradeRequest) (hpre : r.bytes <+: streamOf timeoutMs events)
    (ctx : Dtsha1.Ctx) (results : List SendResult) :
    (∃ value, r.IsAcceptable ∧ Http.field? "Sec-WebSocket-Key" r.lines = some value ∧
      doWebsocketHandshake timeoutMs ctx events results =
        sendAll (response (acceptValue (hashedKey value))) results) ∨
    (¬ r.IsAcceptable ∧ ∃ dterr, doWebsocketHandshake timeoutMs ctx events results =
      ⟨[], results, some (some dterr)⟩) := by
  obtain ⟨i, hblank, hbytes, hlines⟩ := r.foundAt hpre
  obtain ⟨n, hn, hanswer⟩ := handshake_some hblank ctx results
  have hfind := (findSub_text hblank).1
  generalize cString (streamOf timeoutMs events) = text at hanswer hfind hbytes hlines
  have hpieces : pieces Http.crlf ((text.take n).take (i + 2)) = r.lines := by
    rw [List.take_take, Nat.min_eq_left (by omega), hlines]
  have hiff : Acceptable (text.take n) r.lines ↔ r.IsAcceptable := by
    have hsame : ascii "GET " <+: text.take n ↔ ascii "GET " <+: r.bytes := by
      rw [hbytes, get_take_iff (by omega), get_take_iff (by omega)]
    exact ⟨fun h => ⟨hsame.1 h.get, h.upgrade, h.connection, h.key⟩,
      fun h => ⟨hsame.2 h.get, h.upgrade, h.connection, h.key⟩⟩
  have hcases := handshakeResponse_cases ctx (findSub_take_some hfind hn)
  rw [hpieces, hiff] at hcases
  rw [hanswer]
  rcases hcases with ⟨value, hacc, hvalue, hok⟩ | ⟨hnot, dterr, herror⟩
  · exact Or.inl ⟨value, hacc, hvalue, by rw [hok, reply]⟩
  · exact Or.inr ⟨hnot, dterr, by rw [herror, reply]⟩

/-- A response that is sent makes the outcome a success. -/
theorem accepted_sendAll {results : List SendResult} (hsends : SendsSucceed results 512)
    (key : List UInt8) : Accepted (sendAll (response (acceptValue key)) results) := by
  have hlength := length_response (acceptValue key)
  obtain ⟨rest, hsent, -⟩ : ∃ rest, sendAll (response (acceptValue key)) results =
      ⟨response (acceptValue key), rest, some none⟩ ∧ SendsSucceed rest 0 :=
    sendLoop_succeeds _ results (hsends.mono (by omega))
  rw [hsent]
  exact ⟨rfl, _, splitHead_response key⟩

/-- **The handshake accepts exactly the requests that are acceptable.** The others are answered with
    an error, and nothing is sent. -/
theorem handshake_accepts_exact (r : UpgradeRequest) (timeoutMs : ℤ) (ctx : Dtsha1.Ctx)
    (events : List UpgradeEvent) (results : List SendResult)
    (hpre : r.bytes <+: streamOf timeoutMs events) (hsends : SendsSucceed results 512) :
    (Accepted (doWebsocketHandshake timeoutMs ctx events results) ↔ r.IsAcceptable) ∧
      (¬ r.IsAcceptable → Failed (doWebsocketHandshake timeoutMs ctx events results)) := by
  rcases handshake_cases r hpre ctx results with ⟨value, hacc, -, hsent⟩ | ⟨hnot, dterr, hfailed⟩
  · rw [hsent]
    exact ⟨iff_of_true (accepted_sendAll hsends _) hacc, fun hnot => absurd hacc hnot⟩
  · rw [hfailed]
    exact ⟨iff_of_false (fun h => nomatch h.1) hnot, fun _ => ⟨rfl, dterr, rfl⟩⟩

/-- A request as a browser sends it, with the given key. -/
def browserLines (key : List UInt8) : List (List UInt8) :=
  [ascii "GET /adc HTTP/1.1", ascii "Host: 192.168.1.20:8080", ascii "upgrade: websocket",
    ascii "Connection: keep-alive, Upgrade", ascii "Sec-WebSocket-Key: " ++ key]

def browserRequest : UpgradeRequest :=
  .ofLines (browserLines (ascii "dGhlIHNhbXBsZSBub25jZQ==")) (List.cons_ne_nil _ _) (by decide +kernel)
    (by decide +kernel) (by decide +kernel)

/-- It may come in two segments, with an interruption between them. -/
theorem handshake_accepts_exact_browser :
    (Accepted (doWebsocketHandshake 5000 uninitialised
        [.segment (browserRequest.bytes.take 70), .eintr, .segment (browserRequest.bytes.drop 70)]
        (.replicate 512 (.accepts 1))) ↔ browserRequest.IsAcceptable) ∧
      (¬ browserRequest.IsAcceptable → Failed (doWebsocketHandshake 5000 uninitialised
        [.segment (browserRequest.bytes.take 70), .eintr, .segment (browserRequest.bytes.drop 70)]
        (.replicate 512 (.accepts 1)))) :=
  handshake_accepts_exact browserRequest 5000 uninitialised _ _ (by decide +kernel)
    (sendsSucceed_replicate 512)

/-! ## The accept value -/

/-- The key is hashed whole when it fits. -/
theorem hashedKey_eq {value : List UInt8} (h : (Http.trim value).length ≤ 255) :
    hashedKey value = Http.trim value := Http.rdropWhile_take h

/-- For every run on the stream: the accept value of a handshake that succeeds is that of the whole
    key, and if the key is too long, the handshake fails. -/
def AcceptRight (stream : List UInt8) : Prop :=
  ∀ (timeoutMs : ℤ) (ctx : Dtsha1.Ctx) (events : List UpgradeEvent) (results : List SendResult),
    streamOf timeoutMs events = stream →
    ((doWebsocketHandshake timeoutMs ctx events results).ret = some none →
      ∃ (r : UpgradeRequest) (key : List UInt8) (fields : List (List UInt8)),
        r.bytes <+: stream ∧ r.key? = some key ∧
        Http.splitHead (doWebsocketHandshake timeoutMs ctx events results).bytes =
          some (Http.statusLine 101 (ascii "Switching Protocols") :: fields, []) ∧
        Http.field? "Sec-WebSocket-Accept" fields = some (acceptValue key)) ∧
    (∀ (r : UpgradeRequest) (key : List UInt8), r.bytes <+: stream → r.key? = some key →
      255 < key.length → Failed (doWebsocketHandshake timeoutMs ctx events results))

/-- A request that is acceptable but for a key that is too long is accepted. -/
theorem not_acceptRight {r : UpgradeRequest} {key : List UInt8} (hpre : r.bytes <+: stream)
    (hacc : r.IsAcceptable) (hkey : r.key? = some key) (hlong : 255 < key.length) :
    ¬ AcceptRight stream := by
  intro h
  have hne : stream ≠ [] := by
    rintro rfl
    have hget := hacc.get.trans hpre
    exact absurd (List.prefix_nil.1 hget) (by decide)
  have hstream : streamOf 0 ([stream].map .segment) = stream := streamOf_segments (cut_singleton hne)
  have hfailed := (h 0 uninitialised _
    (.replicate 512 (.accepts 1)) hstream).2 r key hpre hkey hlong
  rw [← hstream] at hpre
  rcases handshake_cases r hpre _ _ with ⟨value, -, -, hsent⟩ | ⟨hnot, -⟩
  · rw [hsent] at hfailed
    obtain ⟨-, dterr, herror⟩ := hfailed
    have hsome := (accepted_sendAll (sendsSucceed_replicate 512) (hashedKey value)).1
    rw [hsome] at herror
    cases herror
  · exact hnot hacc

/-- **The accept value, exactly.** It is that of the whole key, and a key that is too long makes the
    handshake fail, if and only if no acceptable request has a key of more than 255 bytes. -/
theorem accept_value_exact (stream : List UInt8) :
    AcceptRight stream ↔
      ∀ (r : UpgradeRequest) (key : List UInt8), r.bytes <+: stream → r.IsAcceptable →
        r.key? = some key → key.length ≤ 255 := by
  constructor
  · intro h r key hpre hacc hkey
    by_contra hlong
    exact not_acceptRight hpre hacc hkey (Nat.lt_of_not_le hlong) h
  · rintro h timeoutMs ctx events results rfl
    constructor
    · intro hret
      cases hfind : strstr ((streamOf timeoutMs events).take 8191) blankLine with
      | none =>
          obtain ⟨dterr, hfailed⟩ := handshake_none hfind ctx results
          rw [hfailed] at hret
          cases hret
      | some i =>
          obtain ⟨r, hpre, -⟩ := exists_request hfind
          rcases handshake_cases r hpre ctx results with ⟨value, hacc, hvalue, hsent⟩ | ⟨-, dterr, hfailed⟩
          · have hkey : r.key? = some (Http.trim value) := by
              rw [UpgradeRequest.key?, hvalue, Option.map_some]
            rw [hsent] at hret ⊢
            have hbytes := (sendLoop_spec _ results).2 hret
            refine ⟨r, Http.trim value, _, hpre, hkey, ?_, field?_responseFields _⟩
            rw [← hashedKey_eq (h r _ hpre hacc hkey), ← splitHead_response]
            exact congrArg Http.splitHead hbytes
          · rw [hfailed] at hret
            cases hret
    · intro r key hpre hkey hlong
      rcases handshake_cases r hpre ctx results with ⟨value, hacc, -, -⟩ | ⟨-, dterr, hfailed⟩
      · exact absurd (h r key hpre hacc hkey) (Nat.not_le_of_lt hlong)
      · rw [hfailed]
        exact ⟨rfl, dterr, rfl⟩

/-- A key of 256 letters. -/
def longKeyRequest : UpgradeRequest :=
  .ofLines (browserLines (.replicate 256 65)) (List.cons_ne_nil _ _) (by decide +kernel)
    (by decide +kernel) (by decide +kernel)

/-- The handshake succeeds with it, although the key does not fit. -/
theorem long_key_accepted : ¬ ∀ stream : List UInt8, AcceptRight stream := by
  intro h
  have hacc : longKeyRequest.IsAcceptable :=
    ⟨by decide +kernel, ⟨ascii "websocket", by decide +kernel, by decide +kernel⟩,
      ⟨ascii "keep-alive, Upgrade", by decide +kernel, by decide +kernel⟩,
      ⟨.replicate 256 65, by decide +kernel⟩⟩
  have hkey : longKeyRequest.key? = some (.replicate 256 65) := by decide +kernel
  have hlong : 255 < (List.replicate 256 (65 : UInt8)).length := by
    rw [List.length_replicate]
    decide
  exact not_acceptRight List.prefix_rfl hacc hkey hlong (h longKeyRequest.bytes)

end DtioxLinuxWebsocket
