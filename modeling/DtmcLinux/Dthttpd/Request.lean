import DtmcLinux.Posix.CString
import DtmcLinux.Posix.Socket

set_option autoImplicit false

/-! # Reading an HTTP request

`_read_http_request` of `dthttpd_linux_socket.c`: it receives until the blank line after the headers
is in the buffer, parses the request line, looks for `Content-Length` and receives the rest of the
body of a `POST`. The buffer may hold bytes of the body already when the headers are complete. -/

namespace DthttpdLinuxSocket

open Posix

/-- `DTHTTPD_MAX_HEADER_BYTES` and `DTHTTPD_MAX_REQUEST_BYTES`. -/
structure Limits where
  maxHeaderBytes : ℕ
  maxRequestBytes : ℤ

/-- Whether the two `malloc` calls succeed: of the buffer and of the body. -/
structure Allocations where
  bytes : Bool
  body : Bool

/-- What the caller gets: `*out_body` is `none` where it is `NULL`. -/
structure Request where
  method : List UInt8
  path : List UInt8
  body : Option (List UInt8)
  bodySize : ℤ
  deriving DecidableEq

/-! ## The header lookup -/

/-- A line that is longer than `name` and the colon, and begins with them. -/
def isHeaderLine (name : String) (bytes : List UInt8) : Bool :=
  bytes.length > name.length + 1 && strcaseeq (bytes.take name.length) (ascii name) &&
    bytes[name.length]? == some 58

/-- The value of a header line, after blanks and tabs. -/
def headerValue (name : String) (line : List UInt8) : List UInt8 :=
  (line.drop (name.length + 1)).dropWhile fun b => b == 32 || b == 9

/-- The loop of `_find_header_value`, at the text `p`. The last line of the text, which has no CR LF,
    is not looked at; nor does an empty line end the loop. -/
def findHeaderLoop (name : String) (outValueCapacity : ℤ) (p : List UInt8) :
    Except Dterr (Option (List UInt8)) :=
  match _ : findSub (ascii "\r\n") p with
  | none => .ok none
  | some lineEnd =>
    if isHeaderLine name (p.take lineEnd) then
      let value := headerValue name (p.take lineEnd)
      if value.length ≥ outValueCapacity then
        .error (.new .overflow ("header value too long for " ++ name))
      else .ok (some value)
    else findHeaderLoop name outValueCapacity (p.drop (lineEnd + 2))
termination_by p.length
decreasing_by
  rename_i hfind _
  have hle := findSub_le hfind
  have hlen : (ascii "\r\n").length = 2 := by decide
  rw [List.length_drop]
  omega

/-- `_find_header_value`; `none` when the header was not found. -/
def findHeaderValue (headers : List UInt8) (name : String) (outValueCapacity : ℤ) :
    Except Dterr (Option (List UInt8)) :=
  if outValueCapacity ≤ 0 then .error (.new .badarg "out_value_capacity must be > 0")
  else findHeaderLoop name outValueCapacity (cString headers)

/-! ## The request line -/

/-- `_normalize_request_target`: the target up to a query or a fragment. -/
def normalizeRequestTarget (rawTarget : List UInt8) (outPathCapacity : ℤ) :
    Except Dterr (List UInt8) :=
  if outPathCapacity ≤ 0 then .error (.new .badarg "out_path_capacity must be > 0")
  else
    let path := rawTarget.takeWhile fun b => b != 63 && b != 35
    if path.length ≤ 0 ∨ path.length ≥ outPathCapacity then
      .error (.new .overflow "request path too long")
    else .ok path

/-- `sscanf(request_line, "%31s %1023s %63s", ..)`, when all three conversions succeed. -/
def sscanfRequestLine (requestLine : List UInt8) : Option (List UInt8 × List UInt8 × List UInt8) := do
  let (method, rest) ← scanString 31 requestLine
  let (target, rest) ← scanString 1023 rest
  let (version, _) ← scanString 63 rest
  return (method, target, version)

/-- The method and the path of the request, from the first line in the buffer. -/
def parseRequestLine (bytes : List UInt8) (outMethodCapacity outPathCapacity : ℤ) :
    Except Dterr (List UInt8 × List UInt8) :=
  match strstr bytes (ascii "\r\n") with
  | none => .error (.new .badarg "bad HTTP request")
  | some lineEnd =>
    if lineEnd ≤ 0 ∨ lineEnd ≥ 2048 then .error (.new .badarg "request line too large")
    else
      match sscanfRequestLine (bytes.take lineEnd) with
      | none => .error (.new .badarg "unable to parse request line")
      | some (method, target, _) =>
        if method.length ≥ outMethodCapacity then
          .error (.new .overflow "method buffer too small")
        else (normalizeRequestTarget target outPathCapacity).map fun path => (method, path)

/-! ## The two loops -/

def headerErrors (clientFd : ℤ) : RecvErrors where
  closed := .new .io "peer closed while reading request"
  timeout strerror :=
    .new .timeout s!"timeout while reading request headers on socket {clientFd}: {strerror}"
  failed strerror := .new .io s!"recv failed on socket {clientFd}: {strerror}"

def bodyErrors : RecvErrors where
  closed := .new .io "peer closed while reading request body"
  timeout _ := .new .timeout "timeout while reading request body"
  failed strerror := .new .io s!"recv body failed: {strerror}"

/-- What the first loop looks for: the blank line, or the end of the buffer. -/
def checkHeaders (capacity : ℕ) (bytes : List UInt8) : Option (Except Dterr ℕ) :=
  match strstr bytes (ascii "\r\n\r\n") with
  | some headersEnd => some (.ok headersEnd)
  | none =>
    if bytes.length ≥ capacity then some (.error (.new .overflow "HTTP headers too large")) else none

/-- What ends the second loop. -/
def checkBody (contentLength : ℕ) (body : List UInt8) : Option (Except Dterr Unit) :=
  if body.length < contentLength then none else some (.ok ())

/-- The body: what is in the buffer, and what the second loop receives. -/
def readBody (alloc : Bool) (buffered : List UInt8) (contentLength : ℕ) (events : List RecvEvent) :
    Except Dterr (List UInt8) :=
  if !alloc then .error (.new .nomem "malloc failed for request body")
  else
    let body := buffered.take contentLength
    if body.length < contentLength then
      (recvLoop contentLength (checkBody contentLength) bodyErrors body events).map fun r => r.2.1
    else .ok body

/-- The part for a `POST`, with a function that reads a body of the given size. -/
def readPost (limits : Limits) (method path : List UInt8) (contentLengthStr : Option (List UInt8))
    (readBody : ℕ → Except Dterr (List UInt8)) : Except Dterr Request :=
  match contentLengthStr with
  | none => .error (.new .badarg "POST missing Content-Length")
  | some str =>
    let contentLength := atoi str
    if contentLength < 0 ∨ contentLength > limits.maxRequestBytes then
      .error (.new .range "invalid Content-Length")
    else if contentLength > 0 then
      (readBody contentLength.toNat).map fun body =>
        { method := method, path := path, body := some body, bodySize := contentLength }
    else .ok { method := method, path := path, body := none, bodySize := 0 }

/-- The part after the header lookup. -/
def finishRequest (limits : Limits) (method path : List UInt8)
    (contentLengthStr : Except Dterr (Option (List UInt8)))
    (readBody : ℕ → Except Dterr (List UInt8)) : Except Dterr Request :=
  match contentLengthStr with
  | .error err => .error err
  | .ok contentLengthStr =>
    if strcaseeq method (ascii "POST") then readPost limits method path contentLengthStr readBody
    else .ok { method := method, path := path, body := none, bodySize := 0 }

/-- `_read_http_request`. -/
def readHttpRequest (limits : Limits) (alloc : Allocations) (clientFd outMethodCapacity
    outPathCapacity : ℤ) (events : List RecvEvent) : Except Dterr Request :=
  if outMethodCapacity ≤ 0 ∨ outPathCapacity ≤ 0 then
    .error (.new .badarg "invalid output buffer capacity")
  else if !alloc.bytes then .error (.new .nomem "malloc failed")
  else
    match recvLoop limits.maxHeaderBytes (checkHeaders limits.maxHeaderBytes) (headerErrors clientFd)
        [] events with
    | .error err => .error err
    | .ok (headersEnd, bytes, events) =>
      match parseRequestLine bytes outMethodCapacity outPathCapacity with
      | .error err => .error err
      | .ok (method, path) =>
        finishRequest limits method path (findHeaderValue bytes "Content-Length" 64) fun n =>
          readBody alloc.body (bytes.drop (headersEnd + 4)) n events

end DthttpdLinuxSocket
