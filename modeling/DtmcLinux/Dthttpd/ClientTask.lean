import DtmcLinux.Dthttpd.Request
import DtmcLinux.Dthttpd.StaticFiles

set_option autoImplicit false

/-! # One client

`_client_task_entry` of `dthttpd_linux_socket.c` reads one request, answers it and closes the
descriptor. What the calls it makes return is an argument. An error on the way to the answer jumps to
the cleanup, which sends nothing: `answered_exact` says which requests are answered. -/

namespace DthttpdLinuxSocket

open Posix Http

/-! ## The task -/

/-- A `dtbuffer_t`: as many bytes as `length` says are at `payload`. -/
structure Dtbuffer where
  payload : Option (List UInt8)
  length : Int32
  there : BodyThere payload length

/-- What the callback returns, and what it leaves in `response`, `content_type` and `status_code`. -/
structure PostResult where
  dterr : Option Dterr
  response : Option Dtbuffer
  contentType : Option (List UInt8)
  statusCode : Int32

/-- `response != NULL ? response->payload : NULL` -/
def PostResult.body (post : PostResult) : Option (List UInt8) := post.response.bind Dtbuffer.payload

/-- `response != NULL ? response->length : 0` -/
def PostResult.bodyLength (post : PostResult) : Int32 := (post.response.map Dtbuffer.length).getD 0

/-- The configuration; the callback is called with the path and the payload of `payload_buf`. -/
structure Server where
  staticDirectories : List (Option (List UInt8))
  postCallback : Option (List UInt8 → Option (List UInt8) → PostResult)

/-- What the calls of one task return: `dttasker_ready`, `setsockopt`, `dttasker_poll`, those of
    `_read_http_request`, those on the file below each root, `dtbuffer_wrap` and `send`. -/
structure ClientCalls where
  ready : Option Dterr
  setsockopt : Option String
  poll : Except Dterr Bool
  alloc : Allocations
  recvs : List RecvEvent
  files : ℕ → FileCalls
  wrap : Option Dterr
  sends : List SendResult

/-- The payload of `payload_buf`. -/
def payloadOf (request : Request) : Option (List UInt8) :=
  if request.bodySize > 0 then request.body else none

/-- `_handle_get`. -/
def handleGet (server : Server) (calls : ClientCalls) (path : List UInt8) : SendOutcome :=
  (tryServeStaticFile server.staticDirectories path calls.files calls.sends).sent

/-- `_handle_post`. -/
def handlePost (server : Server) (calls : ClientCalls) (request : Request) : SendOutcome :=
  match server.postCallback with
  | none => sendTextResponse 405 "POST not configured" calls.sends
  | some callback =>
    match if (payloadOf request).isSome then calls.wrap else none with
    | some dterr => ⟨[], calls.sends, some (some dterr)⟩
    | none =>
      let post := callback request.path (payloadOf request)
      match post.dterr with
      | some dterr => ⟨[], calls.sends, some (some dterr)⟩
      | none =>
        sendResponse post.statusCode post.contentType post.body post.bodyLength true calls.sends

/-- The answer to the request that was read. -/
def handleRequest (server : Server) (calls : ClientCalls) (request : Request) : SendOutcome :=
  if strcaseeq request.method (ascii "GET") then handleGet server calls request.path
  else if strcaseeq request.method (ascii "POST") then handlePost server calls request
  else sendTextResponse 405 "Method Not Allowed" calls.sends

/-- What the client sees of a task, and the error that is logged: the bytes sent, and whether
    `_close_if_open` has then closed the descriptor. -/
structure TaskOutcome where
  sent : List UInt8
  closed : Bool
  dterr : Option Dterr

/-- The cleanup after an error, when nothing was sent. -/
def TaskOutcome.failed (dterr : Dterr) : TaskOutcome := ⟨[], true, some dterr⟩

/-- The cleanup, if the call that sends returns. -/
def TaskOutcome.ofSend (sent : SendOutcome) : TaskOutcome :=
  ⟨sent.bytes, sent.ret.isSome, sent.ret.getD none⟩

/-- `_client_task_entry`, up to `_mark_slot_finished`. -/
def clientTaskEntry (server : Server) (limits : Limits) (clientFd methodBytes pathBytes : ℤ)
    (calls : ClientCalls) : TaskOutcome :=
  match calls.ready, calls.setsockopt, calls.poll with
  | some dterr, _, _ => .failed dterr
  | none, some strerror, _ => .failed (.new .io s!"setsockopt(SO_RCVTIMEO) failed: {strerror}")
  | none, none, .error dterr => .failed dterr
  | none, none, .ok true => ⟨[], true, none⟩
  | none, none, .ok false =>
    match readHttpRequest limits calls.alloc clientFd methodBytes pathBytes calls.recvs with
    | .error dterr =>
      if dterr.errorCode = some .timeout ∨ dterr.errorCode = some .badarg ∨
          dterr.errorCode = some .range then
        -- an error of this send is dropped
        { TaskOutcome.ofSend (sendTextResponse 400 "Bad Request" calls.sends) with dterr := some dterr }
      else .failed dterr
    | .ok request => .ofSend (handleRequest server calls request)

/-! ## Which requests are answered -/

/-- One response and nothing else is sent, and then the descriptor closed. -/
def AnsweredOnce (outcome : TaskOutcome) : Prop :=
  outcome.closed = true ∧ ∃ r, IsResponse outcome.sent r

/-- The search goes on behind the root: there is none, or the file is not below it. -/
def Passed (relative : List UInt8) : Option (List UInt8) → FileCalls → Prop
  | none, _ => True
  | some root, calls => (cString root ++ relative).length < PATH_MAX ∧ calls.fopen = false

/-- The file below the root is opened, and can be read. -/
def Readable (relative : List UInt8) : Option (List UInt8) → FileCalls → Prop
  | none, _ => False
  | some root, calls =>
    (cString root ++ relative).length < PATH_MAX ∧ calls.fopen = true ∧ FileThere calls

/-- A root that the search gets to and does not go past has a file that can be read. -/
def SearchSucceeds (relative : List UInt8) (files : ℕ → FileCalls) (i : ℕ)
    (roots : List (Option (List UInt8))) : Prop :=
  ∀ k root, roots[k]? = some root →
    (∀ j < k, ∀ before, roots[j]? = some before → Passed relative before (files (i + j))) →
    Passed relative root (files (i + k)) ∨ Readable relative root (files (i + k))

/-- The callback returns no error, a length that is not negative, and a content type that leaves the
    header below 1024 bytes and in one piece. -/
structure Sendable (post : PostResult) : Prop where
  noError : post.dterr = none
  fits : HeaderFits post.statusCode post.contentType post.bodyLength true
  inOnePiece : BlankLineFree (contentTypeText post.contentType)

/-- The condition for an answer. -/
structure Answerable (server : Server) (calls : ClientCalls) (request : Request) : Prop where
  get : strcaseeq request.method (ascii "GET") = true → isSafeUrlPath request.path = true →
    SearchSucceeds (relativePath request.path) calls.files 0 server.staticDirectories
  post : strcaseeq request.method (ascii "POST") = true →
    ∀ callback, server.postCallback = some callback →
      ((payloadOf request).isSome = true → calls.wrap = none) ∧
        Sendable (callback request.path (payloadOf request))

/-! ## Files -/

section Answers

variable {server : Server} {calls : ClientCalls} {request : Request} {results : List SendResult}

/-- Text responses are answers. -/
theorem sendTextResponse_answers {statusCode : Int32} {text : String}
    (hfits : HeaderFits statusCode (some (ascii "text/plain; charset=utf-8"))
      (Int32.ofNat text.length) true)
    (hlength : (ascii text).length = (Int32.ofNat text.length).toInt.toNat ∧ text.length < 1024)
    (hresults : SendsSucceed results responseSize) :
    Answers (sendTextResponse statusCode text results) := by
  obtain ⟨bytes, rest, r, hsent, hresponse, -⟩ :=
    sendTextResponse_succeeds hfits hlength (hresults.mono (by decide))
  rw [hsent]
  exact ⟨rfl, r, hresponse⟩

/-- A file that was read is sent. -/
theorem sendFile_answers (name : List UInt8) {bytes : Option (List UInt8)} {size : Int32}
    (hnonneg : 0 ≤ size) (hthere : BodyThere bytes size) (hresults : SendsSucceed results responseSize) :
    Answers (sendResponse 200 (some (guessMimeType name)) bytes size true results) := by
  obtain ⟨hshort, hcr⟩ := guessMimeType_text name
  have hheader := length_responseHeader_le 200 (contentTypeText (some (guessMimeType name))) size true
  exact (sendResponse_answers hthere hresults).2
    ⟨⟨hnonneg, by omega⟩, blankLineFree_of_not_mem hcr⟩

theorem searchSucceeds_cons {relative : List UInt8} {files : ℕ → FileCalls} {i : ℕ}
    {root : Option (List UInt8)} {roots : List (Option (List UInt8))} :
    SearchSucceeds relative files i (root :: roots) ↔
      (Passed relative root (files i) ∨ Readable relative root (files i)) ∧
        (Passed relative root (files i) → SearchSucceeds relative files (i + 1) roots) := by
  constructor
  · intro h
    refine ⟨h 0 root rfl fun j hj => absurd hj (Nat.not_lt_zero j), fun hpassed k r hr hbefore => ?_⟩
    have hnext := h (k + 1) r hr fun j hj before hb => by
      cases j with
      | zero => exact Option.some.inj hb ▸ hpassed
      | succ j =>
          have hlater := hbefore j (Nat.lt_of_succ_lt_succ hj) before hb
          rwa [Nat.add_assoc, Nat.add_comm 1] at hlater
    rwa [Nat.add_assoc, Nat.add_comm 1]
  · rintro ⟨hroot, hroots⟩ k r hr hbefore
    cases k with
    | zero => exact Option.some.inj hr ▸ hroot
    | succ k =>
        have hpassed : Passed relative root (files i) := hbefore 0 (Nat.succ_pos k) root rfl
        have hnext := hroots hpassed k r hr fun j hj before hb => by
          have hlater := hbefore (j + 1) (Nat.succ_lt_succ hj) before hb
          rwa [Nat.add_assoc, Nat.add_comm 1]
        rwa [Nat.add_assoc, Nat.add_comm 1] at hnext

/-- **When the search is answered.** -/
theorem serveRoots_answers (relative : List UInt8) (files : ℕ → FileCalls)
    (hresults : SendsSucceed results responseSize) (i : ℕ) (roots : List (Option (List UInt8))) :
    Answers (serveRoots relative files results i roots).sent ↔ SearchSucceeds relative files i roots := by
  induction roots generalizing i with
  | nil =>
      refine iff_of_true ?_ fun k root hroot => absurd hroot (by simp)
      exact sendTextResponse_answers (by decide +kernel) (by decide +kernel) hresults
  | cons root roots ih =>
      rw [searchSucceeds_cons, ← ih (i + 1)]
      cases root with
      | none =>
          rw [serveRoots]
          exact ⟨fun h => ⟨Or.inl trivial, fun _ => h⟩, fun h => h.2 trivial⟩
      | some root =>
          rw [serveRoots]
          by_cases hlong : (cString root ++ relative).length ≥ PATH_MAX
          · rw [if_pos hlong]
            refine iff_of_false (not_answers_nil _ _) ?_
            rintro ⟨hpassed | hreadable, -⟩
            · exact absurd hpassed.1 (Nat.not_lt.2 hlong)
            · exact absurd hreadable.1 (Nat.not_lt.2 hlong)
          · have hfits := Nat.lt_of_not_ge hlong
            rw [if_neg hlong]
            cases hfopen : (files i).fopen with
            | false =>
                obtain ⟨dterr, hread, hcode⟩ :=
                  readEntireFile_notfound (cString root ++ relative) hfopen
                rw [hread]
                dsimp only
                rw [if_pos hcode]
                exact ⟨fun h => ⟨Or.inl ⟨hfits, hfopen⟩, fun _ => h⟩, fun h => h.2 ⟨hfits, hfopen⟩⟩
            | true =>
                have hpassed : ¬ Passed relative (some root) (files i) := fun h => by
                  rw [Passed, hfopen] at h
                  exact absurd h.2 (by decide)
                by_cases hthere : FileThere (files i)
                · obtain ⟨bytes, size, hread, hnonneg, hbytes⟩ :=
                    readEntireFile_ok (cString root ++ relative) hfopen hthere
                  rw [hread]
                  refine iff_of_true (sendFile_answers _ hnonneg hbytes hresults) ?_
                  exact ⟨Or.inr ⟨hfits, hfopen, hthere⟩, fun h => absurd h hpassed⟩
                · obtain ⟨dterr, hread, hcode⟩ :=
                    readEntireFile_error (cString root ++ relative) hfopen hthere
                  rw [hread]
                  dsimp only
                  rw [if_neg hcode]
                  refine iff_of_false (not_answers_nil _ _) ?_
                  rintro ⟨h | h, -⟩
                  · exact hpassed h
                  · exact hthere h.2.2

theorem handleGet_answers (path : List UInt8) (hsends : SendsSucceed calls.sends responseSize) :
    Answers (handleGet server calls path) ↔
      (isSafeUrlPath path = true →
        SearchSucceeds (relativePath path) calls.files 0 server.staticDirectories) := by
  rw [handleGet, tryServeStaticFile]
  cases hsafe : isSafeUrlPath path with
  | false =>
      refine iff_of_true ?_ fun h => absurd h Bool.false_ne_true
      exact sendTextResponse_answers (by decide +kernel) (by decide +kernel) hsends
  | true =>
      rw [forall_prop_of_true rfl]
      exact serveRoots_answers _ _ hsends 0 _

/-! ## The callback -/

theorem PostResult.there (post : PostResult) : BodyThere post.body post.bodyLength := by
  intro hpos
  cases hresponse : post.response with
  | none =>
      rw [bodyLength, hresponse] at hpos
      exact absurd hpos (by decide)
  | some response =>
      rw [bodyLength, hresponse] at hpos
      rw [body, bodyLength, hresponse]
      exact response.there hpos

theorem handlePost_answers (hsends : SendsSucceed calls.sends responseSize) :
    Answers (handlePost server calls request) ↔
      ∀ callback, server.postCallback = some callback →
        ((payloadOf request).isSome = true → calls.wrap = none) ∧
          Sendable (callback request.path (payloadOf request)) := by
  unfold handlePost
  split
  · rename_i hnone
    refine iff_of_true ?_ fun callback h => absurd (hnone.symm.trans h) (by simp)
    exact sendTextResponse_answers (by decide +kernel) (by decide +kernel) hsends
  · rename_i callback hcallback
    simp only [hcallback, Option.some.injEq, forall_eq']
    split
    · rename_i dterr hwrap
      refine iff_of_false (not_answers_nil _ _) fun h => ?_
      obtain ⟨hpayload, hsome⟩ := Option.ite_none_right_eq_some.1 hwrap
      rw [h.1 hpayload] at hsome
      cases hsome
    · rename_i hwrap
      have hwrapped : (payloadOf request).isSome = true → calls.wrap = none := fun hpayload => by
        rwa [if_pos hpayload] at hwrap
      rw [and_iff_right hwrapped]
      split
      · rename_i dterr hdterr
        refine iff_of_false (not_answers_nil _ _) fun h => ?_
        rw [h.noError] at hdterr
        cases hdterr
      · rename_i hdterr
        rw [sendResponse_answers (PostResult.there _) hsends]
        exact ⟨fun h => ⟨hdterr, h.1, h.2⟩, fun h => ⟨h.fits, h.inOnePiece⟩⟩

/-! ## The task -/

theorem handleRequest_answers (hsends : SendsSucceed calls.sends responseSize) :
    Answers (handleRequest server calls request) ↔ Answerable server calls request := by
  rw [handleRequest]
  by_cases hget : strcaseeq request.method (ascii "GET") = true
  · have hpost : ¬ strcaseeq request.method (ascii "POST") = true := by
      intro hpost
      rw [strcaseeq, beq_iff_eq] at hget hpost
      exact absurd (hget.symm.trans hpost) (by decide +kernel)
    rw [if_pos hget, handleGet_answers _ hsends]
    exact ⟨fun h => ⟨fun _ => h, fun h => absurd h hpost⟩, fun h => h.get hget⟩
  · rw [if_neg hget]
    by_cases hpost : strcaseeq request.method (ascii "POST") = true
    · rw [if_pos hpost, handlePost_answers hsends]
      exact ⟨fun h => ⟨fun h => absurd h hget, fun _ => h⟩, fun h => h.post hpost⟩
    · rw [if_neg hpost]
      refine iff_of_true ?_ ⟨fun h => absurd h hget, fun h => absurd h hpost⟩
      exact sendTextResponse_answers (by decide +kernel) (by decide +kernel) hsends

end Answers

/-- The task, once a request was read. -/
theorem clientTaskEntry_of_request {server : Server} {limits : Limits}
    {clientFd methodBytes pathBytes : ℤ} {calls : ClientCalls} {request : Request}
    (hready : calls.ready = none) (hsetsockopt : calls.setsockopt = none)
    (hpoll : calls.poll = .ok false)
    (hrequest : readHttpRequest limits calls.alloc clientFd methodBytes pathBytes calls.recvs =
      .ok request) :
    clientTaskEntry server limits clientFd methodBytes pathBytes calls =
      .ofSend (handleRequest server calls request) := by
  rw [clientTaskEntry, hready, hsetsockopt, hpoll]
  dsimp only
  rw [hrequest]

/-- **Answered once, exactly.** A request that was read is answered with one response before the
    descriptor is closed if and only if it is `Answerable`. -/
theorem answered_exact (server : Server) (limits : Limits) (clientFd methodBytes pathBytes : ℤ)
    (calls : ClientCalls) (request : Request) (hready : calls.ready = none)
    (hsetsockopt : calls.setsockopt = none) (hpoll : calls.poll = .ok false)
    (hrequest : readHttpRequest limits calls.alloc clientFd methodBytes pathBytes calls.recvs =
      .ok request) (hsends : SendsSucceed calls.sends responseSize) :
    AnsweredOnce (clientTaskEntry server limits clientFd methodBytes pathBytes calls) ↔
      Answerable server calls request := by
  rw [clientTaskEntry_of_request hready hsetsockopt hpoll hrequest]
  exact handleRequest_answers hsends

/-- One `GET` that comes in one segment, for a server with one root. -/
def oneRoot : Server := ⟨[some (ascii "www")], none⟩

def oneRequest (target : String) (file : FileCalls) : ClientCalls where
  ready := none
  setsockopt := none
  poll := .ok false
  alloc := ⟨true, true⟩
  recvs := [.segment (ascii "GET " ++ ascii target ++ ascii " HTTP/1.1\r\n\r\n")]
  files := fun _ => file
  wrap := none
  sends := .replicate responseSize (.accepts 1)

/-- A file of two bytes. -/
def smallFile : FileCalls := ⟨true, true, 2, true, true, [104, 105]⟩

theorem answered_exact_smallFile :
    AnsweredOnce (clientTaskEntry oneRoot ⟨8192, 65536⟩ 5 32 1024 (oneRequest "/a" smallFile)) := by
  refine (answered_exact oneRoot ⟨8192, 65536⟩ 5 32 1024 (oneRequest "/a" smallFile)
    ⟨ascii "GET", ascii "/a", none, 0⟩ rfl rfl rfl (by decide +kernel)
    (sendsSucceed_replicate responseSize)).2 ⟨fun _ _ k root hroot _ => ?_, fun hpost => ?_⟩
  · have hwww : root = some (ascii "www") := List.mem_singleton.1 (List.mem_of_getElem? hroot)
    have hthere : FileThere smallFile := ⟨rfl, by decide, by decide, rfl, fun _ => ⟨rfl, by decide⟩⟩
    rw [hwww]
    exact Or.inr ⟨by decide +kernel, rfl, hthere⟩
  · exact absurd hpost (by decide +kernel)

/-- A directory can be opened; its size is `LONG_MAX`. -/
def directory : FileCalls := ⟨true, true, 2 ^ 63 - 1, true, true, []⟩

/-- For a directory, the descriptor is closed without an answer. -/
theorem directory_not_answered :
    ¬ ∀ (server : Server) (limits : Limits) (clientFd methodBytes pathBytes : ℤ)
      (calls : ClientCalls) (request : Request), calls.ready = none → calls.setsockopt = none →
      calls.poll = .ok false →
      readHttpRequest limits calls.alloc clientFd methodBytes pathBytes calls.recvs = .ok request →
      SendsSucceed calls.sends responseSize →
      AnsweredOnce (clientTaskEntry server limits clientFd methodBytes pathBytes calls) := by
  intro h
  have hread : readHttpRequest ⟨8192, 65536⟩ ⟨true, true⟩ 5 32 1024
      (oneRequest "/docs" directory).recvs = .ok ⟨ascii "GET", ascii "/docs", none, 0⟩ := by
    decide +kernel
  have hsends := sendsSucceed_replicate responseSize
  have hanswered := h oneRoot ⟨8192, 65536⟩ 5 32 1024 (oneRequest "/docs" directory) _ rfl rfl rfl
    hread hsends
  rw [clientTaskEntry_of_request rfl rfl rfl hread] at hanswered
  have hanswers : Answers (handleRequest oneRoot (oneRequest "/docs" directory)
      ⟨ascii "GET", ascii "/docs", none, 0⟩) := hanswered
  have hsearch := ((handleRequest_answers hsends).1 hanswers).get (by decide +kernel)
    (by decide +kernel) 0 (some (ascii "www")) rfl fun j hj => absurd hj (Nat.not_lt_zero j)
  rcases hsearch with ⟨-, hfopen⟩ | ⟨-, -, hthere⟩
  · cases hfopen
  · exact absurd hthere.small (by decide)

end DthttpdLinuxSocket
