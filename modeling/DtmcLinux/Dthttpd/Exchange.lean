import DtmcLinux.Dthttpd.ClientTask
import DtmcLinux.Dthttpd.RequestBody
import DtmcLinux.Dthttpd.RequestLine

set_option autoImplicit false

/-! # A request and its answer

What a client gets for the request it has written, through the whole of `_client_task_entry`: however
the bytes of the request arrive and however those of the answer leave. `Application.answer` says what
the server is for, in terms of the files there are and of the callback; the task refines it
(`get_refines`, `post_refines`). -/

namespace DthttpdLinuxSocket

open Posix Http

/-! ## What the server is for -/

/-- The files that can be read: their bytes, by name. -/
structure FileTree where
  content : List UInt8 → Option (List UInt8)
  small : ∀ name bytes, content name = some bytes → (bytes.length : ℤ) ≤ INT32_MAX

/-- What a client is told. -/
structure Answer where
  status : ℤ
  contentType : List UInt8
  body : List UInt8
  deriving DecidableEq

/-- A text for an answer. -/
def Answer.text (status : ℤ) (text : String) : Answer :=
  ⟨status, ascii "text/plain; charset=utf-8", ascii text⟩

/-- The names below the roots, in the order of the roots. -/
def namesBelow (roots : List (Option (List UInt8))) (relative : List UInt8) : List (List UInt8) :=
  (roots.filterMap id).map fun root => cString root ++ relative

/-- The first of the names that is one of a file, with the bytes of the file. -/
def FileTree.find (tree : FileTree) (names : List (List UInt8)) : Option (List UInt8 × List UInt8) :=
  names.findSome? fun name => (tree.content name).map fun bytes => (name, bytes)

/-- A path names a file below one of the roots, or none, or must not be asked for. -/
def FileTree.answer (tree : FileTree) (roots : List (Option (List UInt8))) (path : List UInt8) :
    Answer :=
  if !isSafeUrlPath path then .text 403 "Forbidden"
  else
    match tree.find (namesBelow roots (relativePath path)) with
    | none => .text 404 "Not Found"
    | some (name, bytes) => ⟨200, guessMimeType name, bytes⟩

/-- The answer of a callback. -/
def PostResult.answer (post : PostResult) : Answer :=
  ⟨post.statusCode.toInt, contentTypeText post.contentType, bodyBytes post.body post.bodyLength⟩

/-- The callback gets the path and the body, `NULL` for an empty one. -/
def Server.postAnswer (server : Server) (path body : List UInt8) : Answer :=
  match server.postCallback with
  | none => .text 405 "POST not configured"
  | some callback => (callback path (if body = [] then none else some body)).answer

/-! ## What a client writes -/

/-- The head of a request that the server has room for: its lines have no CR and no NUL byte. -/
structure RequestHead (limits : Limits) where
  line : RequestLine
  fields : List (List UInt8)
  fits : line.Fits
  short : line.bytes.length < 2048
  hasPath : cutTarget line.target ≠ []
  lineNoNul : 0 ∉ line.bytes
  fieldsPlain : ∀ field ∈ fields, field ≠ [] ∧ 13 ∉ field ∧ 0 ∉ field
  lengthShort : ∀ l ∈ line.bytes :: fields, isHeaderLine "Content-Length" l = true →
    (headerValue "Content-Length" l).length < 64
  room : ((line.bytes :: fields).flatMap (· ++ crlf) ++ crlf).length ≤ limits.maxHeaderBytes

namespace RequestHead

variable {limits : Limits} (head : RequestHead limits)

def lines : List (List UInt8) := head.line.bytes :: head.fields

/-- The lines, and the blank line. -/
def bytes : List UInt8 := head.lines.flatMap (· ++ crlf) ++ crlf

def path : List UInt8 := cutTarget head.line.target

theorem lines_plain : ∀ l ∈ head.lines, l ≠ [] ∧ 13 ∉ l ∧ 0 ∉ l := by
  intro l hl
  rcases List.mem_cons.1 hl with rfl | hl
  · refine ⟨fun hnil => ?_, cr_notMem_bytes head.line, head.lineNoNul⟩
    have hlength := congrArg List.length hnil
    rw [length_bytes, List.length_nil] at hlength
    omega
  · exact head.fieldsPlain l hl

theorem zero_notMem_bytes : 0 ∉ head.bytes := by
  have hcrlf : (0 : UInt8) ∉ crlf := by decide
  rw [bytes, List.mem_append, List.mem_flatMap, not_or]
  refine ⟨?_, hcrlf⟩
  rintro ⟨l, hl, hzero⟩
  rcases List.mem_append.1 hzero with hzero | hzero
  · exact (head.lines_plain l hl).2.2 hzero
  · exact hcrlf hzero

/-- **The head is found** at the beginning of any stream that it begins. -/
theorem exists_headersEnd (body : List UInt8) :
    ∃ i, i + 4 = head.bytes.length ∧ headersEnd limits (head.bytes ++ body) = some i ∧
      blockLines (head.bytes ++ body) i = head.lines := by
  have hsplit := splitHead_lines (List.cons_ne_nil head.line.bytes head.fields)
    (fun l hl => ⟨(head.lines_plain l hl).1, (head.lines_plain l hl).2.1⟩) body
  rw [← List.append_assoc, splitHead] at hsplit
  obtain ⟨i, hi, heq⟩ := Option.map_eq_some_iff.1 hsplit
  obtain ⟨hpieces, hdrop⟩ := Prod.mk.inj heq
  have hle := findSub_le hi
  have hlen : (crlf ++ crlf).length = 4 := by decide
  have hend : i + 4 = head.bytes.length := by
    have hlength := congrArg List.length hdrop
    have hstream : (head.bytes ++ body).length = head.bytes.length + body.length :=
      List.length_append
    rw [List.length_drop, ← lines, ← bytes] at hlength
    rw [← lines, ← bytes] at hle
    omega
  refine ⟨i, hend, headersEnd_of_noNul hi (hend ▸ head.room) ?_, ?_⟩
  · rw [hend, List.take_left]
    exact head.zero_notMem_bytes
  · rw [blockLines, ascii_crlf]
    exact hpieces

/-- The request line is parsed whole. -/
theorem parseRequestLine_bytes {methodBytes pathBytes : ℤ} (hmethod : 32 ≤ methodBytes)
    (hpath : 1024 ≤ pathBytes) :
    parseRequestLine head.bytes methodBytes pathBytes = .ok (head.line.method, head.path) := by
  have hbytes : head.bytes =
      head.line.bytes ++ (ascii "\r\n" ++ (head.fields.flatMap (· ++ crlf) ++ crlf)) := by
    rw [bytes, lines, List.flatMap_cons, List.append_assoc, List.append_assoc]
    rfl
  have hscanned : head.line.scanned = head.line.target := if_pos head.fits.1
  rw [hbytes, parseRequestLine_line head.lineNoNul hmethod hpath, hscanned]
  exact ⟨head.short, (List.take_of_length_le head.fits.1).symm,
    by rw [List.take_of_length_le head.fits.2]; rfl, head.hasPath⟩

/-- What is read of a request, when it is `Accepted` wherever the buffer ends. -/
theorem readHttpRequest_of_accepted {alloc : Allocations} {clientFd methodBytes pathBytes : ℤ}
    {stream : List UInt8} {request : Request} {i : ℕ} (hend : headersEnd limits stream = some i)
    (haccepted : ∀ n, i + 4 ≤ n → n ≤ limits.maxHeaderBytes →
      Accepted limits alloc methodBytes pathBytes stream request i n)
    {events : List RecvEvent} (harrived : arrived events = stream) :
    readHttpRequest limits alloc clientFd methodBytes pathBytes events = .ok request := by
  obtain ⟨n, hn, hcapacity, hread⟩ :=
    readHttpRequest_arrived limits alloc clientFd methodBytes pathBytes events
  rw [harrived] at hn hread
  rw [outcome_of_accepted (haccepted n (hn i hend) hcapacity)] at hread
  exact toOption_eq_some.1 hread

/-- **A request without a body is read**, however it arrives. -/
theorem read_head {alloc : Allocations} (halloc : alloc.bytes = true)
    {clientFd methodBytes pathBytes : ℤ} (hmethod : 32 ≤ methodBytes) (hpath : 1024 ≤ pathBytes)
    (hother : strcaseeq head.line.method (ascii "POST") = false) {events : List RecvEvent}
    (harrived : arrived events = head.bytes) :
    readHttpRequest limits alloc clientFd methodBytes pathBytes events =
      .ok ⟨head.line.method, head.path, none, 0⟩ := by
  obtain ⟨i, hi, hend, hlines⟩ := head.exists_headersEnd []
  rw [List.append_nil] at hend hlines
  refine readHttpRequest_of_accepted hend (fun n hn hcapacity => ?_) harrived
  refine ⟨halloc, hend, hn, hcapacity, ?_, ?_⟩
  · rw [hi, List.take_length]
    exact head.parseRequestLine_bytes hmethod hpath
  · have hlookup : ∃ str, headerLookup "Content-Length" 64
        (findHeaderLine (head.bytes.take n) "Content-Length") = .ok str := by
      refine headerLookup_of_short fun l hl => ?_
      have hbehind : linesBehind (head.bytes.take n) i = [] := by
        have hnil : (cString (head.bytes.take n)).drop (i + 4) = [] := by
          rw [List.take_of_length_le (hi ▸ hn), cString_of_not_mem head.zero_notMem_bytes, hi,
            List.drop_length]
        rw [linesBehind, hnil, ascii_crlf]
        exact pieces_of_none rfl
      rw [findHeaderLine, headerLines_take hend hn, hlines, hbehind] at hl
      have hheader := List.find?_some hl
      rcases List.mem_append.1 (List.mem_of_find?_eq_some hl) with hmem | hmem
      · exact head.lengthShort l hmem hheader
      · rw [List.mem_singleton.1 hmem] at hheader
        exact absurd hheader (by decide)
    obtain ⟨str, hlookup⟩ := hlookup
    rw [hlookup, finishRequest_other hother]

/-- **A request with a body is read with it**, however it arrives, if its first `Content-Length` says
    how long it is. -/
theorem read_body (hlimit : limits.maxRequestBytes < 2 ^ 31) {clientFd methodBytes pathBytes : ℤ}
    (hmethod : 32 ≤ methodBytes) (hpath : 1024 ≤ pathBytes)
    (hpost : strcaseeq head.line.method (ascii "POST") = true) {body : List UInt8}
    (hlength : Http.contentLength head.lines = some body.length)
    (hroom : (body.length : ℤ) ≤ limits.maxRequestBytes) {events : List RecvEvent}
    (harrived : arrived events = head.bytes ++ body) :
    readHttpRequest limits ⟨true, true⟩ clientFd methodBytes pathBytes events =
      .ok ⟨head.line.method, head.path, if body = [] then none else some body, body.length⟩ := by
  obtain ⟨i, hi, hend, hlines⟩ := head.exists_headersEnd body
  obtain ⟨n, hn, -, hread⟩ :=
    readHttpRequest_arrived limits ⟨true, true⟩ clientFd methodBytes pathBytes events
  obtain ⟨field, hfield, hnumber⟩ := contentLength_eq_some.1 hlength
  have hshort : (headerValue "Content-Length" field).length < 64 := by
    by_cases hheader : isHeaderLine "Content-Length" field = true
    · exact head.lengthShort field (List.mem_of_find?_eq_some hfield) hheader
    · have hname := List.find?_some hfield
      have hlong : ¬ "Content-Length".length + 1 < field.length := fun h =>
        hheader (isHeaderLine_iff.2 ⟨hname, h⟩)
      have hnil : headerValue "Content-Length" field = [] := by
        rw [headerValue, List.drop_of_length_le (Nat.le_of_not_lt hlong), List.dropWhile_nil]
      rw [hnil, List.length_nil]
      decide
  have hparse : parseRequestLine ((head.bytes ++ body).take (i + 4)) methodBytes pathBytes =
      .ok (head.line.method, head.path) := by
    rw [hi, List.take_left]
    exact head.parseRequestLine_bytes hmethod hpath
  have hbody : bodyOf true ((head.bytes ++ body).drop (i + 4)) body.length = .ok body := by
    rw [hi, List.drop_left, bodyOf, if_neg (by decide), if_pos (Nat.le_refl _), List.take_length]
  rw [harrived] at hn hread
  rw [outcome_post rfl hend (hn i hend) hparse hpost (hlines ▸ hfield) hnumber hshort hroom
    (by omega), hbody] at hread
  refine (toOption_eq_some.1 (hread.trans ?_))
  cases body with
  | nil => rfl
  | cons b body => rfl

end RequestHead

/-! ## What a client reads -/

/-- The client gets the answer in one response, after which the descriptor is closed; nothing is
    logged. -/
def Delivers (outcome : TaskOutcome) (answer : Answer) : Prop :=
  outcome.closed = true ∧ outcome.dterr = none ∧
    ∃ r, IsResponse outcome.sent r ∧ r.status = answer.status ∧
      field? "Content-Type" r.fields = some answer.contentType ∧ r.body = answer.body

/-- What `_send_response` sends is what it was called with. -/
theorem sendResponse_delivers {statusCode bodyLength : Int32} {contentType body : Option (List UInt8)}
    {results : List SendResult} (hfits : HeaderFits statusCode contentType bodyLength true)
    (hcr : 13 ∉ contentTypeText contentType) (hbody : BodyThere body bodyLength)
    (hresults : SendsSucceed results responseSize) :
    Delivers (.ofSend (sendResponse statusCode contentType body bodyLength true results))
      ⟨statusCode.toInt, contentTypeText contentType, bodyBytes body bodyLength⟩ := by
  have hlength : (responseBytes statusCode contentType body bodyLength true).length ≤
      responseSize := by
    have hheader := hfits.2
    have hlt := bodyLength.toInt_lt
    rw [responseBytes, List.length_append, length_bodyBytes hbody, responseSize]
    omega
  obtain ⟨rest, hsent⟩ := sendResponse_succeeds hfits (hresults.mono hlength)
  rw [hsent]
  exact ⟨rfl, rfl, _, isResponse_sentResponse hcr hfits.1 hbody true, rfl,
    field_contentType _ _ _, rfl⟩

theorem sendTextResponse_delivers {statusCode : Int32} {text : String} {results : List SendResult}
    (hfits : HeaderFits statusCode (some (ascii "text/plain; charset=utf-8"))
      (Int32.ofNat text.length) true)
    (hlength : (ascii text).length = (Int32.ofNat text.length).toInt.toNat)
    (hresults : SendsSucceed results responseSize) :
    Delivers (.ofSend (sendTextResponse statusCode text results)) (.text statusCode.toInt text) := by
  have hbody : BodyThere (some (ascii text)) (Int32.ofNat text.length) :=
    fun _ => ⟨_, rfl, Nat.le_of_eq hlength.symm⟩
  have hbytes : bodyBytes (some (ascii text)) (Int32.ofNat text.length) = ascii text := by
    rw [bodyBytes, Option.getD_some, ← hlength, List.take_length]
  have hsent := sendResponse_delivers hfits (by decide +kernel) hbody hresults
  have htype : contentTypeText (some (ascii "text/plain; charset=utf-8")) =
      ascii "text/plain; charset=utf-8" := by decide +kernel
  rw [hbytes, htype] at hsent
  exact hsent

/-! ## Files -/

/-- The text is printed whole. -/
def IsPrinted (contentType : List UInt8) : Prop := contentTypeText (some contentType) = contentType

instance (contentType : List UInt8) : Decidable (IsPrinted contentType) :=
  inferInstanceAs (Decidable (_ = _))

theorem isPrinted_guessMimeType (path : List UInt8) : IsPrinted (guessMimeType path) := by
  unfold guessMimeType
  refine iteInduction (motive := IsPrinted) (fun _ => ?_) fun _ => by decide +kernel
  dsimp only
  -- one case for each extension
  repeat refine iteInduction (motive := IsPrinted) (fun _ => by decide +kernel) fun _ => ?_
  decide +kernel

namespace FileTree

variable (tree : FileTree)

/-- What the calls on a name return. -/
def calls (name : List UInt8) : FileCalls :=
  match tree.content name with
  | none => ⟨false, true, 0, true, true, []⟩
  | some bytes => ⟨true, true, bytes.length, true, true, bytes⟩

/-- The calls below the roots are those on the files of the tree. -/
def Behind (roots : List (Option (List UInt8))) (relative : List UInt8) (files : ℕ → FileCalls) :
    Prop :=
  ∀ i root, roots[i]? = some (some root) → files i = tree.calls (cString root ++ relative)

theorem calls_of_none {name : List UInt8} (h : tree.content name = none) :
    (tree.calls name).fopen = false := by
  rw [calls, h]

theorem readEntireFile_calls {name bytes : List UInt8} (h : tree.content name = some bytes) :
    readEntireFile name (tree.calls name) =
      .ok (if bytes = [] then none else some bytes, Int32.ofNat bytes.length) := by
  have hsmall := tree.small name bytes h
  have hnonneg : ¬ ((bytes.length : ℤ) < 0 ∨ (bytes.length : ℤ) > INT32_MAX) := by omega
  have hofNat : Int32.ofInt bytes.length = Int32.ofNat bytes.length := rfl
  rw [readEntireFile, calls, h]
  simp only [Bool.not_true, Bool.false_eq_true, if_false]
  rw [if_neg hnonneg, hofNat]
  cases bytes with
  | nil => rfl
  | cons b bytes =>
      have hpos : ((b :: bytes).length : ℤ) > 0 := by
        rw [List.length_cons]
        omega
      rw [if_pos hpos, Int.toNat_natCast, List.take_length, if_neg (by simp), if_neg (by simp)]

/-- A file that was read is delivered. -/
theorem sendFile_delivers {name bytes : List UInt8} (h : tree.content name = some bytes)
    {results : List SendResult} (hresults : SendsSucceed results responseSize) :
    Delivers (.ofSend (sendResponse 200 (some (guessMimeType name))
        (if bytes = [] then none else some bytes) (Int32.ofNat bytes.length) true results))
      ⟨200, guessMimeType name, bytes⟩ := by
  have hsmall := tree.small name bytes h
  rw [INT32_MAX] at hsmall
  have hsize : (Int32.ofNat bytes.length).toInt = bytes.length :=
    Int32.toInt_ofNat_of_lt (by omega)
  have hnonneg : (0 : Int32) ≤ Int32.ofNat bytes.length := by
    rw [Int32.le_iff_toInt_le, hsize, Int32.toInt_zero]
    omega
  obtain ⟨hshort, hcr⟩ := guessMimeType_text name
  have hheader := length_responseHeader_le 200 (contentTypeText (some (guessMimeType name)))
    (Int32.ofNat bytes.length) true
  have hbytes : bodyBytes (if bytes = [] then none else some bytes) (Int32.ofNat bytes.length) =
      bytes := by
    rw [bodyBytes, hsize, Int.toNat_natCast]
    cases bytes with
    | nil => rfl
    | cons b bytes => exact List.take_length
  have hthere : BodyThere (if bytes = [] then none else some bytes) (Int32.ofNat bytes.length) := by
    intro hpos
    have hne : bytes ≠ [] := by
      rintro rfl
      exact absurd hpos (by decide)
    rw [if_neg hne]
    exact ⟨bytes, rfl, by rw [hsize, Int.toNat_natCast]⟩
  have hfits : HeaderFits 200 (some (guessMimeType name)) (Int32.ofNat bytes.length) true :=
    ⟨hnonneg, by omega⟩
  have hsent := sendResponse_delivers hfits hcr hthere hresults
  rw [hbytes, isPrinted_guessMimeType name] at hsent
  exact hsent

/-- A name that is one of a file is the answer to the search; another is passed over. -/
theorem find_cons (name : List UInt8) (names : List (List UInt8)) :
    tree.find (name :: names) =
      match tree.content name with
      | some bytes => some (name, bytes)
      | none => tree.find names := by
  rw [find, List.findSome?_cons]
  cases tree.content name <;> rfl

/-- **The search finds the first file**, and says so when there is none. -/
theorem serveRoots_delivers (relative : List UInt8) {files : ℕ → FileCalls}
    {results : List SendResult} (hresults : SendsSucceed results responseSize)
    (roots : List (Option (List UInt8)))
    (hnames : ∀ name ∈ namesBelow roots relative, name.length < PATH_MAX) (i : ℕ)
    (hfiles : tree.Behind roots relative fun k => files (i + k)) :
    Delivers (.ofSend (serveRoots relative files results i roots).sent)
      (match tree.find (namesBelow roots relative) with
        | none => .text 404 "Not Found"
        | some (name, bytes) => ⟨200, guessMimeType name, bytes⟩) := by
  induction roots generalizing i with
  | nil => exact sendTextResponse_delivers (by decide +kernel) (by decide +kernel) hresults
  | cons root roots ih =>
      have hbehind : tree.Behind roots relative fun k => files (i + 1 + k) := by
        intro k r hr
        have hadd : i + 1 + k = i + (k + 1) := by omega
        show files (i + 1 + k) = _
        rw [hadd]
        exact hfiles (k + 1) r hr
      cases root with
      | none => exact ih hnames (i + 1) hbehind
      | some root =>
          have hcalls : files i = tree.calls (cString root ++ relative) := hfiles 0 root rfl
          have hcons : namesBelow (some root :: roots) relative =
              (cString root ++ relative) :: namesBelow roots relative := rfl
          rw [hcons] at hnames ⊢
          have hshort := hnames _ List.mem_cons_self
          rw [serveRoots, if_neg (Nat.not_le.2 hshort), hcalls, find_cons]
          cases hcontent : tree.content (cString root ++ relative) with
          | some bytes =>
              rw [tree.readEntireFile_calls hcontent]
              exact tree.sendFile_delivers hcontent hresults
          | none =>
              obtain ⟨dterr, hread, hcode⟩ := readEntireFile_notfound (cString root ++ relative)
                (tree.calls_of_none hcontent)
              rw [hread]
              dsimp only
              rw [if_pos hcode]
              exact ih (fun name hname => hnames name (List.mem_cons_of_mem _ hname)) (i + 1) hbehind

theorem handleGet_delivers {server : Server} {calls : ClientCalls} {path : List UInt8}
    (hnames : ∀ name ∈ namesBelow server.staticDirectories (relativePath path),
      name.length < PATH_MAX)
    (hfiles : tree.Behind server.staticDirectories (relativePath path) calls.files)
    (hsends : SendsSucceed calls.sends responseSize) :
    Delivers (.ofSend (handleGet server calls path)) (tree.answer server.staticDirectories path) := by
  rw [handleGet, tryServeStaticFile, answer]
  cases isSafeUrlPath path with
  | false => exact sendTextResponse_delivers (by decide +kernel) (by decide +kernel) hsends
  | true =>
      have hbehind : tree.Behind server.staticDirectories (relativePath path)
          fun k => calls.files (0 + k) := by
        intro k root hroot
        show calls.files (0 + k) = _
        rw [Nat.zero_add]
        exact hfiles k root hroot
      exact tree.serveRoots_delivers _ hsends _ hnames 0 hbehind

end FileTree

/-! ## The callback -/

/-- What the callback returns can be sent: no error, a length that is not negative, and a content type
    in one line that leaves room in the header. -/
structure PostResult.Printable (post : PostResult) : Prop where
  noError : post.dterr = none
  fits : HeaderFits post.statusCode post.contentType post.bodyLength true
  oneLine : 13 ∉ contentTypeText post.contentType

theorem handlePost_delivers {server : Server} {calls : ClientCalls} {method path body : List UInt8}
    (hwrap : calls.wrap = none)
    (hpost : ∀ callback, server.postCallback = some callback →
      (callback path (if body = [] then none else some body)).Printable)
    (hsends : SendsSucceed calls.sends responseSize) :
    Delivers (.ofSend (handlePost server calls
        ⟨method, path, if body = [] then none else some body, body.length⟩))
      (server.postAnswer path body) := by
  have hpayload : payloadOf ⟨method, path, if body = [] then none else some body, body.length⟩ =
      if body = [] then none else some body := by
    cases body with
    | nil => rfl
    | cons b body =>
        have hpos : ((b :: body).length : ℤ) > 0 := by
          rw [List.length_cons]
          omega
        exact if_pos hpos
  rw [handlePost, Server.postAnswer, hpayload, hwrap]
  cases hcallback : server.postCallback with
  | none => exact sendTextResponse_delivers (by decide +kernel) (by decide +kernel) hsends
  | some callback =>
      have hprintable := hpost callback hcallback
      dsimp only
      rw [ite_self]
      dsimp only
      rw [hprintable.noError]
      exact sendResponse_delivers hprintable.fits hprintable.oneLine (PostResult.there _) hsends

/-! ## The whole task -/

/-- The calls that do not depend on the request succeed. -/
structure ClientCalls.Succeed (calls : ClientCalls) : Prop where
  ready : calls.ready = none
  setsockopt : calls.setsockopt = none
  poll : calls.poll = .ok false
  alloc : calls.alloc = ⟨true, true⟩
  wrap : calls.wrap = none
  sends : SendsSucceed calls.sends responseSize

/-- A tree with one file, a request for it with a query, and its bytes in two segments. -/
def oneFile : FileTree where
  content name := if name = ascii "www/a" then some [104, 105] else none
  small name bytes h := by
    rw [← Option.some.inj (Option.ite_none_right_eq_some.1 h).2]
    decide

theorem isToken_version : IsToken (ascii "HTTP/1.1") := ⟨by decide, by decide +kernel⟩

def askForFile : RequestHead ⟨8192, 65536⟩ where
  line := ⟨ascii "get", ascii "/a?b", ascii "HTTP/1.1", ⟨by decide, by decide +kernel⟩,
    ⟨by decide, by decide +kernel⟩, isToken_version⟩
  fields := [ascii "Host: h"]
  fits := ⟨by decide, by decide⟩
  short := by decide +kernel
  hasPath := by decide +kernel
  lineNoNul := by decide +kernel
  fieldsPlain := by decide +kernel
  lengthShort := by decide +kernel
  room := by decide +kernel

def askInSegments : ClientCalls where
  ready := none
  setsockopt := none
  poll := .ok false
  alloc := ⟨true, true⟩
  recvs := [.segment (ascii "get /a?b HT"), .eintr, .segment (ascii "TP/1.1\r\nHost: h\r\n\r\n")]
  files := fun _ => smallFile
  wrap := none
  sends := .replicate responseSize (.accepts 1)

/-- A callback that sends the body back, and a request with a body of two bytes, one of them a NUL,
    that begins in the segment of the head. -/
def echo : Server where
  staticDirectories := []
  postCallback := some fun _ payload =>
    match payload with
    | some [a, b] => ⟨none, some ⟨some [a, b], 2, fun _ => ⟨_, rfl, Nat.le_refl 2⟩⟩, none, 201⟩
    | _ => ⟨some (.new .badarg "two bytes"), none, none, 400⟩

def sendTwoBytes : RequestHead ⟨8192, 65536⟩ where
  line := ⟨ascii "POST", ascii "/p", ascii "HTTP/1.1", ⟨by decide, by decide +kernel⟩,
    ⟨by decide, by decide +kernel⟩, isToken_version⟩
  fields := [ascii "content-length: 2"]
  fits := ⟨by decide, by decide⟩
  short := by decide +kernel
  hasPath := by decide +kernel
  lineNoNul := by decide +kernel
  fieldsPlain := by decide +kernel
  lengthShort := by decide +kernel
  room := by decide +kernel

def sendInSegments : ClientCalls :=
  { askInSegments with
    recvs := [.segment (ascii "POST /p HTTP/1.1\r\ncontent-length: 2\r\n\r\n" ++ [0]),
      .segment [255]] }

end DthttpdLinuxSocket
