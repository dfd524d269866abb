import DtmcLinux.Dthttpd.RequestSegments
import DtmcLinux.Foundation.Http
import Mathlib.Data.List.TakeWhile

set_option autoImplicit false

/-! # A request that is accepted

Interruptions do not matter to `_read_http_request`, nor does the reason why nothing more arrives:
whether it accepts a request, and which, is in the bytes that arrive (`readHttpRequest_arrived`). The
lines of a buffer are those of the header block, the blank line, and what follows. -/

namespace DthttpdLinuxSocket

open Posix

variable {limits : Limits} {alloc : Allocations} {clientFd outMethodCapacity outPathCapacity : ℤ}
  {stream : List UInt8}

/-! ## What arrives -/

theorem toOption_map {α β : Type} (f : α → β) (x : Except Dterr α) :
    (x.map f).toOption = x.toOption.map f := by
  cases x <;> rfl

/-- Two receptions alike: what is made of the bytes in the buffer is the same. -/
theorem toOption_bytes_of_alike {β : Type} {x y : Except Dterr (β × List UInt8 × List RecvEvent)}
    (h : Alike x y) : (x.map fun r => r.2.1).toOption = (y.map fun r => r.2.1).toOption := by
  rcases x with err | ⟨b, bytes, events⟩ <;> rcases y with err' | ⟨b', bytes', events'⟩
  · rfl
  · cases h
  · cases h
  · obtain ⟨-, rfl, -⟩ := h
    rfl

/-- The body depends on what arrives only. -/
theorem readBody_arrivals (alloc : Bool) (buffered : List UInt8) (contentLength : ℕ)
    (events : List RecvEvent) :
    (readBody alloc buffered contentLength events).toOption =
      (readBody alloc buffered contentLength ((arrivals events).map .segment)).toOption := by
  unfold readBody
  split
  · rfl
  · dsimp only
    split
    · exact toOption_bytes_of_alike (recvLoop_arrivals _ _ _ _ _)
    · rfl

theorem finishRequest_congr (limits : Limits) (method path : List UInt8)
    (contentLengthStr : Except Dterr (Option (List UInt8)))
    {readBody readBody' : ℕ → Except Dterr (List UInt8)}
    (h : ∀ n, (readBody n).toOption = (readBody' n).toOption) :
    (finishRequest limits method path contentLengthStr readBody).toOption =
      (finishRequest limits method path contentLengthStr readBody').toOption := by
  unfold finishRequest
  split
  · rfl
  · split
    · unfold readPost
      split
      · rfl
      · dsimp only
        split
        · rfl
        · split
          · rw [toOption_map, toOption_map, h]
          · rfl
    · rfl

theorem readHttpRequest_arrivals (events : List RecvEvent) :
    (readHttpRequest limits alloc clientFd outMethodCapacity outPathCapacity events).toOption =
      (readHttpRequest limits alloc clientFd outMethodCapacity outPathCapacity
        ((arrivals events).map .segment)).toOption := by
  have hloop := recvLoop_arrivals limits.maxHeaderBytes (checkHeaders limits.maxHeaderBytes)
    (headerErrors clientFd) [] events
  unfold readHttpRequest
  split
  · rfl
  · split
    · rfl
    · revert hloop
      generalize recvLoop limits.maxHeaderBytes (checkHeaders limits.maxHeaderBytes)
        (headerErrors clientFd) [] events = x
      generalize recvLoop limits.maxHeaderBytes (checkHeaders limits.maxHeaderBytes)
        (headerErrors clientFd) [] ((arrivals events).map .segment) = y
      intro hloop
      rcases x with err | ⟨i, bytes, rest⟩ <;> rcases y with err' | ⟨i', bytes', rest'⟩
      · rfl
      · cases hloop
      · cases hloop
      · obtain ⟨rfl, rfl, hrest⟩ := hloop
        dsimp only
        split
        · rfl
        · refine finishRequest_congr limits _ _ _ fun n => ?_
          rw [readBody_arrivals, hrest, ← readBody_arrivals]

/-- **Only what arrives matters.** The request accepted is that of `outcome`, for the bytes that
    arrive and some end of the buffer. -/
theorem readHttpRequest_arrived (limits : Limits) (alloc : Allocations)
    (clientFd outMethodCapacity outPathCapacity : ℤ)
    (events : List RecvEvent) :
    ∃ n, (∀ i, headersEnd limits (arrived events) = some i → i + 4 ≤ n) ∧
      n ≤ limits.maxHeaderBytes ∧
      (readHttpRequest limits alloc clientFd outMethodCapacity outPathCapacity events).toOption =
        (outcome limits alloc clientFd outMethodCapacity outPathCapacity (arrived events) n).toOption := by
  obtain ⟨n, hn, hcapacity, hread⟩ := readHttpRequest_cut limits alloc clientFd
    outMethodCapacity outPathCapacity (cut_arrivals events)
  exact ⟨n, hn, hcapacity, by rw [readHttpRequest_arrivals, hread]⟩

/-! ## What is accepted -/

theorem toOption_eq_some {α : Type} {x : Except Dterr α} {a : α} :
    x.toOption = some a ↔ x = .ok a := by
  cases x with
  | error err => exact ⟨nofun, nofun⟩
  | ok b => exact ⟨fun h => congrArg Except.ok (Option.some.inj h), fun h => by rw [h]; rfl⟩

theorem finishRequest_post {method path : List UInt8} {str : Option (List UInt8)}
    {readBody : ℕ → Except Dterr (List UInt8)} (hpost : strcaseeq method (ascii "POST") = true) :
    finishRequest limits method path (.ok str) readBody =
      readPost limits method path str readBody := if_pos hpost

theorem finishRequest_other {method path : List UInt8} {str : Option (List UInt8)}
    {readBody : ℕ → Except Dterr (List UInt8)} (hother : strcaseeq method (ascii "POST") = false) :
    finishRequest limits method path (.ok str) readBody =
      .ok { method := method, path := path, body := none, bodySize := 0 } :=
  if_neg (by rw [hother]; exact Bool.false_ne_true)

/-- The request that is finished has the method and the path of the request line. -/
theorem finishRequest_ok {method path : List UInt8}
    {contentLengthStr : Except Dterr (Option (List UInt8))}
    {readBody : ℕ → Except Dterr (List UInt8)} {request : Request}
    (h : finishRequest limits method path contentLengthStr readBody = .ok request) :
    request.method = method ∧ request.path = path := by
  unfold finishRequest at h
  split at h
  · cases h
  · split at h
    · unfold readPost at h
      split at h
      · cases h
      · dsimp only at h
        split at h
        · cases h
        · split at h
          · obtain ⟨body, -, rfl⟩ := Option.map_eq_some_iff.1
              ((toOption_map _ _).symm.trans (toOption_eq_some.2 h))
            exact ⟨rfl, rfl⟩
          · obtain rfl := Except.ok.inj h
            exact ⟨rfl, rfl⟩
    · obtain rfl := Except.ok.inj h
      exact ⟨rfl, rfl⟩

/-- What there is to a request that is accepted: the blank line at `i`, the end of the buffer at `n`,
    the request line, and what is made of `Content-Length` and the body. -/
structure Accepted (limits : Limits) (alloc : Allocations) (outMethodCapacity outPathCapacity : ℤ)
    (stream : List UInt8) (request : Request) (i n : ℕ) : Prop where
  allocated : alloc.bytes = true
  blockEnd : headersEnd limits stream = some i
  blank : i + 4 ≤ n
  capacity : n ≤ limits.maxHeaderBytes
  requestLine : parseRequestLine (stream.take (i + 4)) outMethodCapacity outPathCapacity =
    .ok (request.method, request.path)
  finished : finishRequest limits request.method request.path
    (headerLookup "Content-Length" 64 (findHeaderLine (stream.take n) "Content-Length"))
    (bodyOf alloc.body (stream.drop (i + 4))) = .ok request

theorem readHttpRequest_ok {events : List RecvEvent} {request : Request}
    (h : readHttpRequest limits alloc clientFd outMethodCapacity outPathCapacity events =
      .ok request) :
    ∃ i n, Accepted limits alloc outMethodCapacity outPathCapacity (arrived events) request i n := by
  obtain ⟨n, hn, hcapacity, hread⟩ := readHttpRequest_arrived limits alloc clientFd
    outMethodCapacity outPathCapacity events
  rw [h] at hread
  have houtcome := toOption_eq_some.1 hread.symm
  unfold outcome at houtcome
  split at houtcome
  · cases houtcome
  · split at houtcome
    · cases houtcome
    · rename_i halloc
      split at houtcome
      · cases houtcome
      · rename_i i hend
        split at houtcome
        · cases houtcome
        · rename_i method path hparse
          obtain ⟨rfl, rfl⟩ := finishRequest_ok houtcome
          exact ⟨i, n, by simpa using halloc, hend, hn i hend, hcapacity, hparse, houtcome⟩

/-- A body is there as long as it is. -/
theorem length_le_of_bodyOf {alloc : Bool} {bytes body : List UInt8} {contentLength : ℕ}
    (h : bodyOf alloc bytes contentLength = .ok body) : contentLength ≤ bytes.length := by
  unfold bodyOf at h
  split at h
  · cases h
  · split at h
    · assumption
    · cases h

/-- What there is to a `POST` that is accepted: the line with its length. -/
theorem Accepted.post {request : Request} {i n : ℕ}
    (h : Accepted limits alloc outMethodCapacity outPathCapacity stream request i n)
    (hpost : strcaseeq request.method (ascii "POST") = true) :
    ∃ line, findHeaderLine (stream.take n) "Content-Length" = some line ∧
      (headerValue "Content-Length" line).length < 64 ∧
      0 ≤ atoi (headerValue "Content-Length" line) ∧
      atoi (headerValue "Content-Length" line) ≤ limits.maxRequestBytes ∧
      i + 4 + (atoi (headerValue "Content-Length" line)).toNat ≤ stream.length ∧
      request.bodySize = atoi (headerValue "Content-Length" line) := by
  have hfinished := h.finished
  cases hfound : findHeaderLine (stream.take n) "Content-Length" with
  | none =>
      rw [hfound, headerLookup, finishRequest_post hpost] at hfinished
      cases hfinished
  | some line =>
      refine ⟨line, rfl, ?_⟩
      rw [hfound, headerLookup] at hfinished
      by_cases hlong : (headerValue "Content-Length" line).length ≥ (64 : ℤ)
      · rw [if_pos hlong] at hfinished
        cases hfinished
      · rw [if_neg hlong, finishRequest_post hpost, readPost] at hfinished
        split at hfinished
        · cases hfinished
        · rename_i hrange
          refine ⟨by omega, by omega, by omega, ?_⟩
          have hblock := (headersEnd_le h.blockEnd).2
          split at hfinished
          · obtain ⟨body, hbody, hrequest⟩ := Option.map_eq_some_iff.1
              ((toOption_map _ _).symm.trans (toOption_eq_some.2 hfinished))
            have hlength := length_le_of_bodyOf (toOption_eq_some.1 hbody)
            rw [List.length_drop] at hlength
            rw [← hrequest]
            exact ⟨by omega, rfl⟩
          · rw [← Except.ok.inj hfinished]
            show _ ∧ (0 : ℤ) = _
            omega

/-- And that is all there is to it. -/
theorem outcome_of_accepted {request : Request} {i n : ℕ}
    (h : Accepted limits alloc outMethodCapacity outPathCapacity stream request i n) :
    outcome limits alloc clientFd outMethodCapacity outPathCapacity stream n = .ok request := by
  rw [outcome, if_neg (parseRequestLine_capacity h.requestLine), if_neg (by simp [h.allocated]),
    h.blockEnd]
  dsimp only
  rw [h.requestLine]
  exact h.finished

/-! ## The lines of the buffer -/

/-- The lines of the header block, without the blank line. -/
def blockLines (stream : List UInt8) (i : ℕ) : List (List UInt8) :=
  pieces (ascii "\r\n") (stream.take (i + 2))

/-- There is no NUL byte up to the blank line. -/
theorem cString_take_of_headersEnd {i m : ℕ} (hend : headersEnd limits stream = some i)
    (hm : m ≤ i + 4) : (cString stream).take m = stream.take m := by
  have hlen : (ascii "\r\n\r\n").length = 4 := by decide
  rw [headersEnd, strstr, cString_take] at hend
  have hle := findSub_le (findSub_of_take hend).1
  have hpre : cString stream <+: stream := List.takeWhile_prefix _
  obtain ⟨more, hmore⟩ := hpre
  conv_rhs => rw [← hmore]
  rw [List.take_append_of_le_length (by omega)]

theorem zero_notMem_of_headersEnd {i : ℕ} (hend : headersEnd limits stream = some i) :
    0 ∉ stream.take (i + 4) := by
  rw [← cString_take_of_headersEnd hend (Nat.le_refl _)]
  intro hzero
  have hne := List.mem_takeWhile_imp (List.mem_of_mem_take hzero)
  exact absurd hne (by decide)

/-- The lines behind the blank line. -/
def linesBehind (bytes : List UInt8) (i : ℕ) : List (List UInt8) :=
  pieces (ascii "\r\n") ((cString bytes).drop (i + 4))

/-- **The lines of the buffer** are those of the header block, an empty one, and those behind it. -/
theorem headerLines_take {i n : ℕ} (hend : headersEnd limits stream = some i) (hn : i + 4 ≤ n) :
    headerLines (stream.take n) = blockLines stream i ++ [] :: linesBehind (stream.take n) i := by
  have hfind : findSub ((13 :: [10]) ++ (13 :: [10])) ((cString stream).take n) = some i := by
    rw [headersEnd, strstr, cString_take, Http.ascii_blankLine] at hend
    exact findSub_take_some (findSub_of_take hend).1 hn
  have hblock : (cString stream).take (i + 2) = stream.take (i + 2) :=
    cString_take_of_headersEnd hend (by omega)
  rw [headerLines, cString_take, ascii_crlf, pieces_of_double (by decide) hfind, List.take_take,
    Nat.min_eq_left (by simp only [List.length_cons, List.length_nil]; omega), blockLines,
    linesBehind, ascii_crlf, cString_take]
  simp only [List.length_cons, List.length_nil, Nat.zero_add, Nat.reduceAdd, hblock, Nat.add_assoc]

/-- A header block that is written out, with nothing behind it. -/
theorem headersEnd_lines {lines : List (List UInt8)} (hne : lines ≠ [])
    (hlines : ∀ line ∈ lines, line ≠ [] ∧ 13 ∉ line ∧ 0 ∉ line)
    (hstream : stream = lines.flatMap (· ++ ascii "\r\n") ++ ascii "\r\n")
    (hfits : stream.length ≤ limits.maxHeaderBytes) :
    ∃ i, headersEnd limits stream = some i ∧ i + 4 = stream.length ∧
      ∀ n, i + 4 ≤ n → headerLines (stream.take n) = lines ++ [[]] := by
  have hsep : ascii "\r\n" = Http.crlf := ascii_crlf
  have hzero : 0 ∉ stream := by
    intro hb
    rw [hstream, hsep, List.mem_append, List.mem_flatMap] at hb
    rcases hb with ⟨line, hline, hb⟩ | hb
    · rcases List.mem_append.1 hb with hb | hb
      · exact (hlines line hline).2.2 hb
      · exact absurd hb (by decide)
    · exact absurd hb (by decide)
  have hstring : cString stream = stream := cString_of_not_mem hzero
  have hsplit := Http.splitHead_lines hne
    (fun line hline => ⟨(hlines line hline).1, (hlines line hline).2.1⟩) []
  rw [List.append_nil, ← hsep, ← hstream, Http.splitHead] at hsplit
  obtain ⟨i, hi, heq⟩ := Option.map_eq_some_iff.1 hsplit
  obtain ⟨hpieces, hdrop⟩ := Prod.mk.inj heq
  have hle := findSub_le hi
  have hlen : (Http.crlf ++ Http.crlf).length = 4 := by decide
  rw [List.drop_eq_nil_iff] at hdrop
  have hend : headersEnd limits stream = some i := by
    rw [headersEnd, strstr, List.take_of_length_le hfits, hstring, Http.ascii_blankLine]
    exact hi
  refine ⟨i, hend, by omega, fun n hn => ?_⟩
  have hbehind : linesBehind (stream.take n) i = [] := by
    have hnil : (cString (stream.take n)).drop (i + 4) = [] := by
      rw [cString_take, hstring, List.drop_eq_nil_iff, List.length_take]
      omega
    rw [linesBehind, hnil, hsep]
    exact pieces_of_none rfl
  rw [headerLines_take hend hn, hbehind, blockLines, hsep, hpieces]

end DthttpdLinuxSocket
