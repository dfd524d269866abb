import DtmcLinux.Dtcore.Dterr
import DtmcLinux.Dthttpclient.Accumulate
import DtmcLinux.Posix.CString

set_option autoImplicit false

/-! # A request of the HTTP client

`dthttpclient_linux_perform`: the arguments are checked, `*out_response` is set to zero, the URL is
built, libcurl is called, and the response is filled in. All failures meet in one cleanup, which
disposes the body it finds in `*out_response`; those of the first checks come before that structure
is set to zero, and find what the caller left there. Which bodies the call creates, and which it
disposes, is recorded. -/

namespace DthttpclientLinux

open CheckedArith Posix

/-- `dtbuffer_t`, with the identity of the object. -/
structure Dtbuffer where
  id : ℕ
  payload : List UInt8
  deriving DecidableEq

/-- `dthttpclient_response_t` -/
structure Response where
  statusCode : Int32
  contentType : List UInt8
  body : Option Dtbuffer
  deriving DecidableEq

/-- The arguments; `self` says whether `self->curl` is set. -/
structure PerformArgs where
  self : Option Bool
  method : Option (List UInt8)
  url : Option (List UInt8)
  queryParams : Bool
  payload : Option (List UInt8)
  contentType : Option (List UInt8)
  timeoutMilliseconds : Int32

/-- What libcurl is told about the request; `postFields` is `none` for GET. -/
structure CurlRequest where
  url : List UInt8
  timeoutMs : Int
  postFields : Option (List UInt8)
  header : Option (List UInt8)
  deriving DecidableEq

/-- What `curl_easy_perform` does: the chunks it hands over, its result, and what
    `curl_easy_getinfo` tells afterwards. -/
structure CurlRun where
  chunks : List Call
  result : ℕ
  statusCode : Int
  contentType : Option (List UInt8)

/-- What `dtbuffer_create` does; a failure may leave an object behind its pointer. -/
inductive BufferCreate
  | created (id : ℕ)
  | failed (dterr : Dterr) (left : Option Dtbuffer)

/-- The constants and calls from outside. -/
structure Host where
  target : Target
  fuel : ℕ
  maxContentTypeBytes : ℕ
  timeoutNowait : Int32
  timeoutForever : Int32
  urlencode : Except Dterr (Option (List UInt8))
  strdup : Bool
  malloc : Bool
  slistAppend : Bool
  curlPerform : CurlRequest → CurlRun
  strerror : ℕ → String
  bufferCreate : ℤ → BufferCreate

/-- A call under way: `dterr` and `*out_response`, the bodies created, and what libcurl was told. -/
structure Progress where
  dterr : Option Dterr
  outResponse : Option Response
  created : List ℕ
  request : Option CurlRequest

/-- A call that has returned. -/
structure Outcome where
  dterr : Option Dterr
  outResponse : Option Response
  created : List ℕ
  disposed : List ℕ
  request : Option CurlRequest
  deriving DecidableEq

/-- The checks in front of everything else. -/
def PerformArgs.check (host : Host) (args : PerformArgs) (outResponse : Option Response) :
    Option Dterr :=
  match args.self with
  | none => some (.assertNotNull "self")
  | some curl =>
    if !curl then some (.assertNotNull "self->curl")
    else if args.method = none then some (.assertNotNull "method")
    else if args.url = none then some (.assertNotNull "url")
    else if outResponse = none then some (.assertNotNull "out_response")
    else if args.timeoutMilliseconds = host.timeoutNowait then
      some (.new .badarg "DTTIMEOUT_NOWAIT is not supported by blocking dthttpclient_linux")
    else none

/-- `dthttpclient_linux_build_url` -/
def buildUrl (host : Host) (url : List UInt8) (queryParams : Bool) : Except Dterr (List UInt8) :=
  (if queryParams then host.urlencode else .ok none).bind fun encoded =>
    match encoded with
    | none | some [] =>
      if host.strdup then .ok url else .error (.new .nomem "strdup failed building HTTP URL")
    | some encoded =>
      let separator := if 63 ∈ url then ascii "&" else ascii "?"
      let sizeMax := host.target.sizeMax
      if url.length > sizeMax - separator.length ∨
          url.length + separator.length > sizeMax - encoded.length ∨
          url.length + separator.length + encoded.length > sizeMax - 1 then
        .error (.new .overflow "HTTP URL length overflow")
      else if host.malloc then .ok (url ++ separator ++ encoded)
      else .error (.new .nomem "malloc failed building HTTP URL")

/-- The header of a POST request. -/
def postHeader (host : Host) (contentType : Option (List UInt8)) :
    Except Dterr (Option (List UInt8)) :=
  match contentType with
  | none | some [] => .ok none
  | some contentType =>
    let header := ascii "Content-Type: " ++ contentType
    if header.length ≥ host.maxContentTypeBytes + 16 then
      .error (.new .overflow "Content-Type header too long")
    else if host.slistAppend then .ok (some header)
    else .error (.new .nomem "curl_slist_append failed")

/-- What libcurl is told. -/
def curlRequest (host : Host) (args : PerformArgs) (method url : List UInt8) :
    Except Dterr CurlRequest :=
  let timeoutMs : Int :=
    if args.timeoutMilliseconds = host.timeoutForever then 0 else args.timeoutMilliseconds.toInt
  (buildUrl host url args.queryParams).bind fun finalUrl =>
    if method = ascii "POST" then
      (postHeader host args.contentType).bind fun header =>
        .ok ⟨finalUrl, timeoutMs, some (args.payload.getD []), header⟩
    else .ok ⟨finalUrl, timeoutMs, none, none⟩

/-- `dthttpclient_linux_fill_response_info`, for a response set to zero. -/
def fillResponseInfo (host : Host) (run : CurlRun) (r : Response) : Response :=
  let r := { r with statusCode := Int32.ofInt run.statusCode }
  match run.contentType with
  | none => r
  | some contentType =>
    let text := (cString contentType).take (host.maxContentTypeBytes - 1)
    { r with contentType := text ++ List.replicate (host.maxContentTypeBytes - text.length) 0 }

/-- `dthttpclient_linux_make_response_body`: the error, the response, and the bodies created. -/
def makeResponseBody (host : Host) (acc : Accumulator) (r : Response) :
    Option Dterr × Response × List ℕ :=
  match host.bufferCreate acc.length with
  | .failed dterr left => (some dterr, { r with body := left }, (left.map (·.id)).toList)
  | .created id => (none, { r with body := some ⟨id, acc.stored⟩ }, [id])

/-- `curl_easy_perform`, and what follows it. -/
def receive (host : Host) (request : CurlRequest) (r : Response) : Except Fault Progress :=
  let run := host.curlPerform request
  (writeBodies host.target host.fuel .empty run.chunks).bind fun (acc, _) =>
    if run.result ≠ 0 then
      let code := if run.result = 28 then DterrCode.timeout else .io
      .ok ⟨some (.new code s!"curl_easy_perform failed: {host.strerror run.result}"), some r, [],
        some request⟩
    else if acc.failed then
      .ok ⟨some (.new .nomem "failed accumulating HTTP response body"), some r, [], some request⟩
    else
      let (dterr, r, created) := makeResponseBody host acc (fillResponseInfo host run r)
      .ok ⟨dterr, some r, created, some request⟩

/-- `memset(out_response, 0, sizeof(*out_response))` -/
def zeroResponse (host : Host) : Response :=
  { statusCode := 0, contentType := List.replicate host.maxContentTypeBytes 0, body := none }

/-- `dthttpclient_linux_perform`, up to its cleanup. -/
def performBody (host : Host) (args : PerformArgs) (outResponse : Option Response) :
    Except Fault Progress :=
  match args.check host outResponse with
  | some dterr => .ok ⟨some dterr, outResponse, [], none⟩
  | none =>
    match curlRequest host args (args.method.getD []) (args.url.getD []) with
    | .error dterr => .ok ⟨some dterr, some (zeroResponse host), [], none⟩
    | .ok request => receive host request (zeroResponse host)

/-- `cleanup:` -/
def cleanup (p : Progress) : Outcome :=
  match p.dterr, p.outResponse with
  | some dterr, some r =>
    { dterr := some dterr
      outResponse := some
        { statusCode := 0, contentType := r.contentType.set 0 0, body := none }
      created := p.created
      disposed := (r.body.map (·.id)).toList
      request := p.request }
  | dterr, outResponse => ⟨dterr, outResponse, p.created, [], p.request⟩

/-- `dthttpclient_linux_perform` -/
def perform (host : Host) (args : PerformArgs) (outResponse : Option Response) :
    Except Fault Outcome :=
  (performBody host args outResponse).map cleanup

/-- What a call leaves behind: it disposes bodies of its own only, and nothing is left in the
    response of a call that failed. -/
structure Outcome.Clean (o : Outcome) : Prop where
  disposesOwn : ∀ id ∈ o.disposed, id ∈ o.created
  failureEmpty : o.dterr ≠ none → ∀ r, o.outResponse = some r →
    r.body = none ∧ r.statusCode = 0 ∧ cString r.contentType = []

/-- The arguments are there, and the call is to wait. -/
structure PerformArgs.Valid (host : Host) (args : PerformArgs) : Prop where
  self : args.self = some true
  method : args.method ≠ none
  url : args.url ≠ none
  waits : args.timeoutMilliseconds ≠ host.timeoutNowait

/-- The caller's response has no body, or the arguments are valid. -/
def OwnsNoBody (host : Host) (args : PerformArgs) (outResponse : Option Response) : Prop :=
  outResponse.bind (·.body) = none ∨ args.Valid host

/-- Valid arguments with a response get past the checks. -/
theorem check_eq_none_iff {host : Host} {args : PerformArgs} {outResponse : Option Response} :
    args.check host outResponse = none ↔ args.Valid host ∧ outResponse ≠ none := by
  constructor
  · intro h
    unfold PerformArgs.check at h
    split at h
    · exact absurd h (Option.some_ne_none _)
    · next curl hself =>
        split_ifs at h with hcurl hmethod hurl hout hwaits
        rw [Bool.not_eq_true', Bool.not_eq_false] at hcurl
        exact ⟨⟨hcurl ▸ hself, hmethod, hurl, hwaits⟩, hout⟩
  · rintro ⟨h, hout⟩
    unfold PerformArgs.check
    rw [h.self]
    simp only [Bool.not_true, Bool.false_eq_true, if_false, if_neg h.method, if_neg h.url,
      if_neg hout, if_neg h.waits]

/-- The first byte of the content type ends it. -/
theorem cString_set_zero (bytes : List UInt8) : cString (bytes.set 0 0) = [] := by
  cases bytes <;> rfl

/-- **Cleanup.** It is clean exactly when the body found after a failure was created in the call. -/
theorem cleanup_clean (p : Progress) :
    (cleanup p).Clean ↔
      (p.dterr ≠ none → ∀ b, p.outResponse.bind (·.body) = some b → b.id ∈ p.created) := by
  obtain ⟨dterr, outResponse, created, request⟩ := p
  cases dterr with
  | none => exact iff_of_true ⟨nofun, fun h => absurd rfl h⟩ fun h => absurd rfl h
  | some dterr =>
      cases outResponse with
      | none => exact iff_of_true ⟨nofun, nofun⟩ nofun
      | some r =>
          constructor
          · intro h _ b hb
            refine h.disposesOwn b.id ?_
            show b.id ∈ (r.body.map (·.id)).toList
            rw [show r.body = some b from hb]
            exact List.mem_singleton_self _
          · intro h
            refine ⟨fun id hid => ?_, ?_⟩
            · obtain ⟨b, hb, rfl⟩ := Option.map_eq_some_iff.1 (Option.mem_toList.1 hid)
              exact h (Option.some_ne_none _) b hb
            · rintro - r' ⟨⟩
              exact ⟨rfl, rfl, cString_set_zero _⟩

/-- What is in the response after `curl_easy_perform` was created in the call. -/
theorem receive_created {host : Host} (hfuel : 31 ≤ host.fuel) (request : CurlRequest)
    {r : Response} (hr : r.body = none) :
    ∃ p, receive host request r = .ok p ∧
      ∀ b, p.outResponse.bind (·.body) = some b → b.id ∈ p.created := by
  obtain ⟨acc, ns, hrun, -⟩ := writeBodies_spec host.target hfuel
    (host.curlPerform request).chunks Accumulator.empty_wellFormed
  have hnone : ∀ b, (some r).bind (·.body) = some b → b.id ∈ ([] : List ℕ) := by
    intro b hb
    rw [Option.bind_some, hr] at hb
    exact absurd hb (Option.some_ne_none b).symm
  unfold receive
  dsimp only
  rw [hrun]
  dsimp only [Except.bind]
  by_cases hresult : (host.curlPerform request).result ≠ 0
  · rw [if_pos hresult]
    exact ⟨_, rfl, hnone⟩
  · rw [if_neg hresult]
    cases hfailed : acc.failed with
    | true => exact ⟨_, rfl, hnone⟩
    | false =>
        refine ⟨_, rfl, ?_⟩
        unfold makeResponseBody
        cases host.bufferCreate acc.length with
        | created id =>
            rintro b ⟨⟩
            exact List.mem_singleton_self id
        | failed dterr left =>
            intro b hb
            rw [show left = some b from hb]
            exact List.mem_singleton_self b.id

/-- **Exact condition.** For all arguments, every entry value of `*out_response` and all results of
    the calls: the call disposes only bodies it created, and leaves nothing in the response of a
    failure, exactly when the response had no body before or the arguments are valid. -/
theorem perform_clean_exact (host : Host) (hfuel : 31 ≤ host.fuel) (args : PerformArgs)
    (outResponse : Option Response) :
    ∃ o, perform host args outResponse = .ok o ∧ (o.Clean ↔ OwnsNoBody host args outResponse) := by
  unfold perform performBody OwnsNoBody
  cases hcheck : args.check host outResponse with
  | some dterr =>
      refine ⟨_, rfl, (cleanup_clean _).trans ?_⟩
      constructor
      · intro h
        left
        rw [Option.eq_none_iff_forall_ne_some]
        intro b hb
        exact absurd (h (Option.some_ne_none dterr) b hb) List.not_mem_nil
      · intro hcond _ b hb
        have hout : outResponse ≠ none := fun h => by simp [h] at hb
        rcases hcond with hnone | hvalid
        · rw [hnone] at hb
          exact absurd hb.symm (Option.some_ne_none b)
        · rw [check_eq_none_iff.2 ⟨hvalid, hout⟩] at hcheck
          exact absurd hcheck.symm (Option.some_ne_none dterr)
  | none =>
      have hvalid := (check_eq_none_iff.1 hcheck).1
      cases curlRequest host args (args.method.getD []) (args.url.getD []) with
      | error dterr =>
          refine ⟨_, rfl, iff_of_true ((cleanup_clean _).2 ?_) (Or.inr hvalid)⟩
          intro _ b hb
          exact absurd hb.symm (Option.some_ne_none b)
      | ok request =>
          obtain ⟨p, hp, hcreated⟩ := receive_created hfuel request (r := zeroResponse host) rfl
          dsimp only
          rw [hp]
          exact ⟨_, rfl, iff_of_true ((cleanup_clean p).2 fun _ => hcreated) (Or.inr hvalid)⟩

/-- A host on which everything succeeds, and the server answers 200 with no bytes. -/
def idleHost : Host where
  target := target64
  fuel := 31
  maxContentTypeBytes := 128
  timeoutNowait := 0
  timeoutForever := -1
  urlencode := .ok none
  strdup := true
  malloc := true
  slistAppend := true
  curlPerform := fun _ => ⟨[], 0, 200, none⟩
  strerror := fun _ => ""
  bufferCreate := fun _ => .created 2

/-- A GET request that is not to wait. -/
def nowaitGet : PerformArgs := ⟨some true, some (ascii "GET"), some (ascii "http://a/"), false, none,
  none, 0⟩

/-- A response whose body, object 1, the caller still owns. -/
def ownedResponse : Response := ⟨200, [0], some ⟨1, [65]⟩⟩

/-- The caller's body is disposed. -/
theorem foreign_body_disposed :
    ¬(∀ (host : Host) (args : PerformArgs) (outResponse : Option Response), 31 ≤ host.fuel →
      ∃ o, perform host args outResponse = .ok o ∧ o.Clean) ∧
    ∃ o, perform idleHost nowaitGet (some ownedResponse) = .ok o ∧ o.disposed = [1] ∧
      o.created = [] := by
  refine ⟨fun h => ?_, _, rfl, rfl, rfl⟩
  obtain ⟨o, ho, hclean⟩ := h idleHost nowaitGet (some ownedResponse) (le_refl 31)
  cases ho
  exact absurd (hclean.disposesOwn 1 (List.mem_singleton_self 1)) List.not_mem_nil

/-- With nothing left in the response the same call is clean. -/
theorem perform_clean_empty_response :
    ∃ o, perform idleHost nowaitGet (some (zeroResponse idleHost)) = .ok o ∧ o.Clean := by
  obtain ⟨o, ho, hiff⟩ :=
    perform_clean_exact idleHost (le_refl 31) nowaitGet (some (zeroResponse idleHost))
  exact ⟨o, ho, hiff.2 (Or.inl rfl)⟩

end DthttpclientLinux
