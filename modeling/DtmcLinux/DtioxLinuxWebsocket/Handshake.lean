import DtmcLinux.Dtsha1.Dtsha1
import DtmcLinux.DtioxLinuxWebsocket.Basic
import DtmcLinux.Foundation.Http

set_option autoImplicit false

/-! # The WebSocket handshake

`_do_websocket_handshake` of `dtiox_linux_websocket.c`: it receives the client's request up to the
blank line, looks for four things in it, and answers with the digest of the key the client sent. A
pointer into the request is the text from there on. -/

namespace DtioxLinuxWebsocket

open Posix

/-! ## The request -/

/-- What happens while the request is received. -/
inductive UpgradeEvent where
  /-- bytes arrive -/
  | segment (bytes : List UInt8)
  /-- `select` or `recv` fails with `EINTR` -/
  | eintr
  /-- `timeout_ms` go by -/
  | timeout
  /-- `select` fails with another error -/
  | selectFailed (strerror : String)
  /-- `recv` fails with another error -/
  | recvFailed (strerror : String)

/-- What the `recv` loop sees of it. Without a timeout there is no `select`. -/
def UpgradeEvent.toRecv (timeoutMs : ℤ) : UpgradeEvent → RecvEvent
  | .segment bytes => .segment bytes
  | .eintr => .eintr
  | .timeout => if timeoutMs > 0 then .eagain "" else .eintr
  | .selectFailed strerror =>
    if timeoutMs > 0 then .error s!"select failed: {strerror}" else .eintr
  | .recvFailed strerror => .error s!"recv failed during websocket handshake: {strerror}"

def upgradeErrors : RecvErrors where
  closed := .new .io "peer closed during websocket handshake"
  timeout _ := .new .timeout "timed out waiting for websocket upgrade request"
  failed message := .new .io message

/-- What ends the loop: the blank line, or the end of the buffer. -/
def checkUpgrade (outRequestSize : ℕ) (bytes : List UInt8) : Option (Except Dterr Unit) :=
  match strstr bytes (ascii "\r\n\r\n") with
  | some _ => some (.ok ())
  | none =>
    if bytes.length + 1 ≥ outRequestSize then
      some (.error (.new .io "HTTP upgrade request too large"))
    else none

/-- `_recv_http_upgrade_request`: what is in the buffer. -/
def recvHttpUpgradeRequest (timeoutMs : ℤ) (outRequestSize : ℕ) (events : List UpgradeEvent) :
    Except Dterr (List UInt8) :=
  if outRequestSize < 8 then .error (.new .badarg "bad request buffer")
  else
    (recvLoop (outRequestSize - 1) (checkUpgrade outRequestSize) upgradeErrors []
      (events.map (UpgradeEvent.toRecv timeoutMs))).map fun r => r.2.1

/-! ## The header values -/

/-- `!*p || (p[0] == '\r' && p[1] == '\n')` -/
def atLineEnd : List UInt8 → Bool
  | [] => true
  | b :: p => b == 13 && p.head? == some 10

/-- The text up to there. -/
def lineOf : List UInt8 → List UInt8
  | [] => []
  | b :: p => if atLineEnd (b :: p) then [] else b :: lineOf p

/-- `_find_header_value`, at the text `p`. -/
def findHeaderValue (headerName : String) (p : List UInt8) : Option (List UInt8) :=
  if p = [] then none
  else
    match _ : findSub (ascii "\r\n") p with
    | none =>
      if p.length > headerName.length && strcaseeq (p.take headerName.length) (ascii headerName) &&
          p[headerName.length]? == some 58 then
        some ((p.drop (headerName.length + 1)).dropWhile Http.isBlank)
      else none
    | some lineEnd =>
      if lineEnd = 0 then none
      else if lineEnd > headerName.length &&
          strcaseeq (p.take headerName.length) (ascii headerName) &&
          p[headerName.length]? == some 58 then
        some ((p.drop (headerName.length + 1)).dropWhile Http.isBlank)
      else findHeaderValue headerName (p.drop (lineEnd + 2))
termination_by p.length
decreasing_by
  rename_i hfind _ _
  have hle := findSub_le hfind
  have hlen : (ascii "\r\n").length = 2 := by decide
  rw [List.length_drop]
  omega

/-- `if (*p == ',') p++` -/
def skipComma : List UInt8 → List UInt8
  | 44 :: p => p
  | p => p

/-- `*p == ' ' || *p == '\t' || *p == ','` -/
def isSkipped (b : UInt8) : Bool := Http.isBlank b || b == 44

/-- Where an element of a list begins. -/
def elementStart (p : List UInt8) : List UInt8 := p.dropWhile isSkipped

/-- The element there, with the blanks behind it. -/
def elementAt (start : List UInt8) : List UInt8 := (lineOf start).takeWhile (· ≠ 44)

/-- A pass of the loop makes the text shorter. -/
theorem length_afterElement_lt {p : List UInt8} (h : ¬ atLineEnd p = true) :
    (skipComma ((elementStart p).drop (elementAt (elementStart p)).length)).length < p.length := by
  have hskip : ∀ q : List UInt8, (skipComma q).length ≤ q.length := by
    intro q
    unfold skipComma
    split
    · exact Nat.le_succ _
    · exact Nat.le_refl _
  cases p with
  | nil => exact absurd rfl h
  | cons b p =>
      refine Nat.lt_of_le_of_lt (hskip _) ?_
      rw [List.length_drop, List.length_cons]
      cases hb : isSkipped b with
      | true =>
          have hle : (elementStart (b :: p)).length ≤ p.length := by
            rw [elementStart, List.dropWhile_cons_of_pos hb]
            exact (List.dropWhile_suffix _).length_le
          omega
      | false =>
          -- the element has at least this byte
          have hstart : elementStart (b :: p) = b :: p := List.dropWhile_cons_of_neg (by simp [hb])
          have hcomma : b ≠ 44 := by
            rintro rfl
            exact absurd hb (by decide)
          rw [hstart, elementAt, lineOf, if_neg h, List.takeWhile_cons_of_pos (by simp [hcomma]),
            List.length_cons, List.length_cons]
          omega

/-- The loop of `_header_value_contains_token`, at the text `p`. -/
def containsTokenLoop (token : List UInt8) (p : List UInt8) : Bool :=
  if atLineEnd p then false
  else if strcaseeq ((elementAt (elementStart p)).rdropWhile Http.isBlank) token then true
  else
    containsTokenLoop token
      (skipComma ((elementStart p).drop (elementAt (elementStart p)).length))
termination_by p.length
decreasing_by exact length_afterElement_lt ‹_›

/-- `_header_value_contains_token`; `none` is `NULL`. -/
def headerValueContainsToken (lineValue : Option (List UInt8)) (token : String) : Bool :=
  match lineValue with
  | none => false
  | some lineValue => containsTokenLoop (ascii token) lineValue

/-! ## The accept value -/

/-- `WS_GUID` -/
def wsGuid : List UInt8 := ascii "258EAFA5-E914-47DA-95CA-C5AB0DC85B11"

/-- `sec_key_trimmed`, an array of 256 bytes: the line, as far as there is room, and then without the
    blanks behind it. -/
def secKeyTrimmed (secKey : List UInt8) : List UInt8 :=
  ((lineOf secKey).take 255).rdropWhile Http.isBlank

def tbl : List UInt8 := ascii "ABCDEFGHIJKLMNOPQRSTUVWXYZabcdefghijklmnopqrstuvwxyz0123456789+/"

/-- `tbl[v & 0x3F]` -/
def tblAt (v : UInt32) : UInt8 := tbl.getD (v &&& 0x3F).toNat 0

/-- A pass of the loop of `_base64_encode_20bytes`, that with `i = 3 * k`. -/
def encodeThree (input : List UInt8) (k : ℕ) (out : List UInt8) : List UInt8 :=
  let v := ((input.getD (3 * k) 0).toUInt32 <<< 16) ||| ((input.getD (3 * k + 1) 0).toUInt32 <<< 8) |||
    (input.getD (3 * k + 2) 0).toUInt32
  out ++ [tblAt (v >>> 18), tblAt (v >>> 12), tblAt (v >>> 6), tblAt v]

/-- `_base64_encode_20bytes`: the text in `out`. -/
def base64Encode20bytes (input : List UInt8) : List UInt8 :=
  let out := forRange 0 6 (encodeThree input) []
  let v := ((input.getD 18 0).toUInt32 <<< 16) ||| ((input.getD 19 0).toUInt32 <<< 8)
  out ++ [tblAt (v >>> 18), tblAt (v >>> 12), tblAt (v >>> 6), 61]

/-- `response`, an array of 512 bytes. -/
def response (acceptB64 : List UInt8) : List UInt8 :=
  (ascii "HTTP/1.1 101 Switching Protocols\r\n" ++ ascii "Upgrade: websocket\r\n" ++
    ascii "Connection: Upgrade\r\n" ++ ascii "Sec-WebSocket-Accept: " ++ acceptB64 ++
    ascii "\r\n" ++ ascii "\r\n").take 511

/-! ## The handshake -/

/-- The part of `_do_websocket_handshake` between receiving and sending: the response to the request.
    `ctx` is the uninitialised local of `dtsha1_compute`. -/
def handshakeResponse (ctx : Dtsha1.Ctx) (request : List UInt8) : Except Dterr (List UInt8) :=
  if !(ascii "GET ").isPrefixOf request then
    .error (.new .io "websocket handshake failed: request was not GET")
  else
    let upgrade := findHeaderValue "Upgrade" request
    let connection := findHeaderValue "Connection" request
    let secKey := findHeaderValue "Sec-WebSocket-Key" request
    if !headerValueContainsToken upgrade "websocket" then
      .error (.new .io "websocket handshake failed: missing/invalid Upgrade header")
    else if !headerValueContainsToken connection "Upgrade" then
      .error (.new .io "websocket handshake failed: missing/invalid Connection header")
    else
      match secKey with
      | none => .error (.new .io "websocket handshake failed: missing Sec-WebSocket-Key")
      | some secKey =>
        let sha1Input := secKeyTrimmed secKey ++ wsGuid
        if sha1Input.length ≥ 512 then
          .error (.new .io "websocket handshake failed: Sec-WebSocket-Key too long")
        else .ok (response (base64Encode20bytes (Dtsha1.compute ctx sha1Input)))

/-- `_do_websocket_handshake` -/
def doWebsocketHandshake (timeoutMs : ℤ) (ctx : Dtsha1.Ctx) (events : List UpgradeEvent)
    (results : List SendResult) : SendOutcome :=
  match recvHttpUpgradeRequest timeoutMs 8192 events with
  | .error err => ⟨[], results, some (some err)⟩
  | .ok request =>
    match handshakeResponse ctx (cString request) with
    | .error err => ⟨[], results, some (some err)⟩
    | .ok response => sendAll response results

end DtioxLinuxWebsocket
