import DtmcLinux.Dthttpd.RequestAccepted

set_option autoImplicit false

/-! # Content-Length and the body

A `POST` with a number in its first `Content-Length` line gets the body that long, however it arrives
(`post_body_exact`). `atoi` and the lookup let other requests through, too:
`content_length_strict_exact` says which streams show none of them. -/

namespace DthttpdLinuxSocket

open Posix

variable {limits : Limits} {alloc : Allocations} {clientFd methodBytes pathBytes : ℤ}
  {stream : List UInt8}

/-! ## The line -/

/-- A line that the lookup stops at is a field with something behind the colon. -/
theorem isHeaderLine_iff {name : String} {line : List UInt8} :
    isHeaderLine name line = true ↔
      Http.isField name line = true ∧ name.length + 1 < line.length := by
  rw [isHeaderLine, Http.isField, Bool.and_eq_true, Bool.and_eq_true, Bool.and_eq_true,
    decide_eq_true_eq]
  exact ⟨fun h => ⟨⟨h.1.2, h.2⟩, h.1.1⟩, fun h => ⟨⟨h.2, h.1.1⟩, h.1.2⟩⟩

/-- What the code takes for the value is the value without the blanks before it. -/
theorem headerValue_eq (name : String) (line : List UInt8) :
    headerValue name line = (Http.fieldValue name line).dropWhile Http.isBlank := by
  have hblank : (fun b : UInt8 => b == 32 || b == 9) = Http.isBlank := rfl
  rw [headerValue, hblank, Http.fieldValue]
  split
  · rename_i text hdrop
    rw [hdrop, List.dropWhile_cons_of_pos (by decide)]
  · rfl

/-- A value in digits is the digits and blanks behind them. -/
theorem exists_digits {value : List UInt8} {n : ℕ} (h : Decimal.read (Http.trim value) = some n) :
    ∃ digits blanks, value.dropWhile Http.isBlank = digits ++ blanks ∧ digits ≠ [] ∧
      (∀ b ∈ digits, isdigit b = true) ∧ NoDigit blanks ∧ Decimal.value digits = n := by
  rw [Decimal.read] at h
  obtain ⟨⟨hne, hall⟩, hvalue⟩ := Option.ite_none_right_eq_some.1 h
  refine ⟨_, _, List.rdropWhile_append_rtakeWhile.symm, hne,
    List.all_eq_true.1 hall, ?_, Option.some.inj hvalue⟩
  intro b hb
  have hblank := List.mem_rtakeWhile_imp (List.mem_of_mem_head? hb)
  rw [Http.isBlank, Bool.or_eq_true, beq_iff_eq, beq_iff_eq] at hblank
  rcases hblank with rfl | rfl <;> decide

theorem atoi_headerValue {line : List UInt8} {n : ℕ}
    (h : Decimal.read (Http.trim (Http.fieldValue "Content-Length" line)) = some n)
    (hsmall : n < 2 ^ 31) : atoi (headerValue "Content-Length" line) = n := by
  obtain ⟨digits, blanks, heq, hne, hdigits, hblanks, rfl⟩ := exists_digits h
  rw [headerValue_eq, heq, atoi_digits hne hdigits hblanks hsmall]

/-- The first line of the header block with the name is the first that the lookup stops at, when it
    has a number. -/
theorem findHeaderLine_of_field {i m n : ℕ} {line : List UInt8}
    (hend : headersEnd limits stream = some i) (hm : i + 4 ≤ m)
    (hfield : (blockLines stream i).find? (Http.isField "Content-Length") = some line)
    (hnumber : Decimal.read (Http.trim (Http.fieldValue "Content-Length" line)) = some n) :
    findHeaderLine (stream.take m) "Content-Length" = some line := by
  have hlong : "Content-Length".length + 1 < line.length := by
    obtain ⟨digits, blanks, heq, hne, -⟩ := exists_digits hnumber
    rw [← headerValue_eq] at heq
    have hvalue : 0 < (headerValue "Content-Length" line).length := by
      rw [heq, List.length_append]
      have hpos := List.length_pos_iff.2 hne
      omega
    have hle : (headerValue "Content-Length" line).length ≤
        (line.drop ("Content-Length".length + 1)).length := (List.dropWhile_suffix _).length_le
    rw [List.length_drop] at hle
    omega
  obtain ⟨hline, before, behind, hblock, hbefore⟩ := List.find?_eq_some_iff_append.1 hfield
  have hfirst : (blockLines stream i).find? (isHeaderLine "Content-Length") = some line := by
    refine List.find?_eq_some_iff_append.2 ⟨isHeaderLine_iff.2 ⟨hline, hlong⟩, before, behind, hblock,
      fun l hl => ?_⟩
    have hother := hbefore l hl
    rw [Bool.not_eq_true'] at hother ⊢
    rw [Bool.eq_false_iff] at hother ⊢
    exact fun hheader => hother (isHeaderLine_iff.1 hheader).1
  rw [findHeaderLine, headerLines_take hend hm, List.find?_append, hfirst]
  rfl

/-! ## The blank line -/

theorem findSub_of_headersEnd {i : ℕ} (hend : headersEnd limits stream = some i) :
    findSub (Http.crlf ++ Http.crlf) stream = some i := by
  rw [headersEnd, strstr, cString_take, Http.ascii_blankLine] at hend
  have hpre : cString stream <+: stream := List.takeWhile_prefix _
  obtain ⟨more, hmore⟩ := hpre
  rw [← hmore]
  exact findSub_append_left (findSub_of_take hend).1 _

/-- A header block without a NUL byte, within the capacity of the buffer. -/
theorem headersEnd_of_noNul {i : ℕ} (hblank : findSub (Http.crlf ++ Http.crlf) stream = some i)
    (hwithin : i + 4 ≤ limits.maxHeaderBytes) (hnul : 0 ∉ stream.take (i + 4)) :
    headersEnd limits stream = some i := by
  have hlen : (Http.crlf ++ Http.crlf).length = 4 := by decide
  have hstring : (cString stream).take (i + 4) = stream.take (i + 4) := by
    rw [← cString_take]
    exact cString_of_not_mem hnul
  have hfound : findSub (Http.crlf ++ Http.crlf) ((cString stream).take (i + 4)) = some i := by
    rw [hstring]
    exact findSub_take_some hblank (by omega)
  rw [headersEnd, strstr, cString_take, Http.ascii_blankLine]
  exact findSub_take_some (findSub_of_take hfound).1 (by omega)

/-! ## The body -/

/-- A `POST` with a number: the body that long, if it is there. -/
theorem outcome_post {i m n : ℕ} {line method path : List UInt8}
    (halloc : alloc.bytes = true) (hend : headersEnd limits stream = some i) (hm : i + 4 ≤ m)
    (hparse : parseRequestLine (stream.take (i + 4)) methodBytes pathBytes = .ok (method, path))
    (hpost : strcaseeq method (ascii "POST") = true)
    (hfield : (blockLines stream i).find? (Http.isField "Content-Length") = some line)
    (hnumber : Decimal.read (Http.trim (Http.fieldValue "Content-Length" line)) = some n)
    (hshort : (headerValue "Content-Length" line).length < 64)
    (hn : (n : ℤ) ≤ limits.maxRequestBytes) (hsmall : n < 2 ^ 31) :
    outcome limits alloc clientFd methodBytes pathBytes stream m =
      if n = 0 then .ok { method := method, path := path, body := none, bodySize := 0 }
      else (bodyOf alloc.body (stream.drop (i + 4)) n).map fun body =>
        { method := method, path := path, body := some body, bodySize := n } := by
  have hatoi := atoi_headerValue hnumber hsmall
  rw [outcome, if_neg (parseRequestLine_capacity hparse), if_neg (by simp [halloc]), hend]
  dsimp only
  rw [hparse, findHeaderLine_of_field hend hm hfield hnumber, headerLookup, if_neg (by omega)]
  dsimp only
  rw [finishRequest_post hpost, readPost, hatoi, if_neg (by omega), Int.toNat_natCast]
  by_cases hzero : n = 0
  · rw [if_pos hzero, if_neg (by omega)]
  · rw [if_neg hzero, if_pos (by omega)]

/-- The bytes that have arrived show the header block of the stream when they hold it whole. -/
theorem headersEnd_of_prefix {bytes : List UInt8} (hpre : bytes <+: stream) {i : ℕ}
    (hend : headersEnd limits stream = some i) :
    headersEnd limits bytes = if i + 4 ≤ bytes.length then some i else none := by
  have htake : bytes = stream.take bytes.length := List.prefix_iff_eq_take.1 hpre
  have hfind := findSub_of_headersEnd hend
  have hlen : (Http.crlf ++ Http.crlf).length = 4 := by decide
  split
  · rename_i hle
    have hblock : bytes.take (i + 4) = stream.take (i + 4) := by
      rw [htake, List.take_take, Nat.min_eq_left hle]
    refine headersEnd_of_noNul ?_ (headersEnd_le hend).1 ?_
    · rw [htake]
      exact findSub_take_some hfind (by omega)
    · rw [hblock]
      exact zero_notMem_of_headersEnd hend
  · rename_i hshort
    cases hfound : headersEnd limits bytes with
    | none => rfl
    | some j =>
        obtain ⟨more, hmore⟩ := hpre
        have hsame := findSub_append_left (findSub_of_headersEnd hfound) more
        rw [hmore, hfind] at hsame
        obtain rfl := Option.some.inj hsame
        exact absurd (headersEnd_le hfound).2 hshort

/-- **The body of a `POST`.** However the bytes arrive: with the whole body, the request is accepted
    with its bytes; without, it is not. -/
theorem post_body_exact (limits : Limits) (hlimit : limits.maxRequestBytes < 2 ^ 31)
    (clientFd methodBytes pathBytes : ℤ) (stream method path value : List UInt8) (i n : ℕ)
    (hblank : findSub (Http.crlf ++ Http.crlf) stream = some i)
    (hwithin : i + 4 ≤ limits.maxHeaderBytes) (hnul : 0 ∉ stream.take (i + 4))
    (hparse : parseRequestLine (stream.take (i + 4)) methodBytes pathBytes = .ok (method, path))
    (hpost : strcaseeq method (ascii "POST") = true)
    (hvalue : Http.field? "Content-Length" (blockLines stream i) = some value)
    (hnumber : Decimal.read (Http.trim value) = some n)
    (hshort : (value.dropWhile Http.isBlank).length ≤ 63)
    (hn : (n : ℤ) ≤ limits.maxRequestBytes) (events : List RecvEvent)
    (harrived : arrived events <+: stream) :
    (i + 4 + n ≤ (arrived events).length →
      readHttpRequest limits ⟨true, true⟩ clientFd methodBytes pathBytes events =
        .ok { method := method, path := path
              body := if n = 0 then none else some ((stream.drop (i + 4)).take n)
              bodySize := n }) ∧
    ((arrived events).length < i + 4 + n →
      ∃ dterr, readHttpRequest limits ⟨true, true⟩ clientFd methodBytes pathBytes events =
        .error dterr) := by
  have hend := headersEnd_of_noNul hblank hwithin hnul
  obtain ⟨m, hm, -, hread⟩ := readHttpRequest_arrived limits ⟨true, true⟩ clientFd methodBytes
    pathBytes events
  have hshown := headersEnd_of_prefix harrived hend
  by_cases hheaders : i + 4 ≤ (arrived events).length
  · -- the header block has arrived, and is that of the stream
    rw [if_pos hheaders] at hshown
    have htake : arrived events = stream.take (arrived events).length :=
      List.prefix_iff_eq_take.1 harrived
    have hblock : ∀ k ≤ i + 4, (arrived events).take k = stream.take k := by
      intro k hk
      rw [htake, List.take_take, Nat.min_eq_left (by omega)]
    obtain ⟨line, hfield, rfl⟩ := Option.map_eq_some_iff.1 hvalue
    rw [blockLines, ← hblock (i + 2) (by omega), ← blockLines] at hfield
    rw [← hblock (i + 4) (Nat.le_refl _)] at hparse
    rw [← headerValue_eq] at hshort
    rw [outcome_post rfl hshown (hm i hshown) hparse hpost hfield hnumber (by omega) hn (by omega)]
      at hread
    by_cases hzero : n = 0
    · rw [if_pos hzero] at hread
      refine ⟨fun _ => ?_, fun hlt => by omega⟩
      rw [if_pos hzero, hzero]
      exact toOption_eq_some.1 hread
    · rw [if_neg hzero, bodyOf, List.length_drop] at hread
      constructor
      · intro hlength
        have hbody : ((arrived events).drop (i + 4)).take n = (stream.drop (i + 4)).take n := by
          rw [htake, List.drop_take, List.take_take, Nat.min_eq_left (by omega)]
        rw [if_neg (by decide), if_pos (by omega), hbody] at hread
        rw [if_neg hzero]
        exact toOption_eq_some.1 hread
      · intro hlength
        rw [if_neg (by decide), if_neg (by omega)] at hread
        cases hresult : readHttpRequest limits ⟨true, true⟩ clientFd methodBytes pathBytes events with
        | error dterr => exact ⟨dterr, rfl⟩
        | ok request =>
            rw [hresult] at hread
            cases hread
  · rw [if_neg hheaders] at hshown
    refine ⟨fun hlength => by omega, fun _ => ?_⟩
    cases hresult : readHttpRequest limits ⟨true, true⟩ clientFd methodBytes pathBytes events with
    | error dterr => exact ⟨dterr, rfl⟩
    | ok request =>
        obtain ⟨j, k, haccepted⟩ := readHttpRequest_ok hresult
        have hblockEnd := haccepted.blockEnd
        rw [hshown] at hblockEnd
        cases hblockEnd

/-- A body of two bytes, one of them a NUL, with an interruption and one byte too many. -/
def postEvents : List RecvEvent :=
  [.segment (ascii "POST / HTTP/1.1\r\nContent-Le"), .eintr,
    .segment (ascii "ngth: 2 \r\n\r\n" ++ [0]), .segment [65, 66], .eagain "timeout"]

theorem blockLines_postEvents : blockLines (arrived postEvents) 35 =
    [ascii "POST / HTTP/1.1", ascii "Content-Length: 2 "] := by
  have hblock : (arrived postEvents).take 37 = ascii "POST / HTTP/1.1" ++ (13 :: [10] ++
      (ascii "Content-Length: 2 " ++ (13 :: [10] ++ []))) := by decide +kernel
  rw [blockLines, hblock, ascii_crlf, pieces_append (by decide), pieces_append (by decide),
    pieces_of_none rfl]

theorem post_body_exact_postEvents :
    readHttpRequest ⟨8192, 65536⟩ ⟨true, true⟩ 5 32 1024 postEvents =
      .ok ⟨ascii "POST", ascii "/", some [0, 65], 2⟩ :=
  ((post_body_exact ⟨8192, 65536⟩ (by decide) 5 32 1024 (arrived postEvents) (ascii "POST")
    (ascii "/") (ascii "2 ") 35 2 (by decide +kernel) (by decide) (by decide +kernel)
    (by decide +kernel) (by decide +kernel) (by rw [blockLines_postEvents]; decide +kernel)
    (by decide +kernel) (by decide +kernel) (by decide) postEvents List.prefix_rfl).1
      (by decide +kernel)).trans (congrArg Except.ok (by decide +kernel))

/-! ## Other values -/

/-- What is accepted for the bytes that arrive has, in the first line of its header block with the
    name, a number that is not too large and is the size of the body. -/
def StrictLength (limits : Limits) (stream : List UInt8) : Prop :=
  ∀ (alloc : Allocations) (clientFd methodBytes pathBytes : ℤ) (events : List RecvEvent)
    (request : Request), arrived events = stream →
    readHttpRequest limits alloc clientFd methodBytes pathBytes events = .ok request →
    strcaseeq request.method (ascii "POST") = true →
    ∃ i n, findSub (Http.crlf ++ Http.crlf) stream = some i ∧
      Http.contentLength (blockLines stream i) = some n ∧ (n : ℤ) ≤ limits.maxRequestBytes ∧
      request.bodySize = n

/-- The line found first, in all that the buffer can hold, and what `atoi` makes of its value lead to
    no error: the value is short enough, the number is in its range, and the body is there. -/
structure Passes (limits : Limits) (stream : List UInt8) (i : ℕ) (line : List UInt8) : Prop where
  found : findHeaderLine (stream.take limits.maxHeaderBytes) "Content-Length" = some line
  short : (headerValue "Content-Length" line).length < 64
  nonneg : 0 ≤ atoi (headerValue "Content-Length" line)
  small : atoi (headerValue "Content-Length" line) ≤ limits.maxRequestBytes
  body : i + 4 + (atoi (headerValue "Content-Length" line)).toNat ≤ stream.length

/-- In a `POST` that passes, the first line of the header block with the name has digits for its
    value, of a number below `2 ^ 31`. -/
def PlainLength (limits : Limits) (stream : List UInt8) : Prop :=
  ∀ (i : ℕ) (methodBytes pathBytes : ℤ) (method path line : List UInt8),
    headersEnd limits stream = some i →
    parseRequestLine (stream.take (i + 4)) methodBytes pathBytes = .ok (method, path) →
    strcaseeq method (ascii "POST") = true → Passes limits stream i line →
    ∃ n, Http.contentLength (blockLines stream i) = some n ∧ n < 2 ^ 31

theorem contentLength_eq_some {lines : List (List UInt8)} {n : ℕ} :
    Http.contentLength lines = some n ↔
      ∃ line, lines.find? (Http.isField "Content-Length") = some line ∧
        Decimal.read (Http.trim (Http.fieldValue "Content-Length" line)) = some n := by
  rw [Http.contentLength, Http.field?, Option.bind_map, Option.bind_eq_some_iff]
  rfl

/-- The number in the header block is the one that `atoi` reads. -/
theorem atoi_of_contentLength {i n : ℕ} {line : List UInt8} (hend : headersEnd limits stream = some i)
    (hfound : findHeaderLine (stream.take limits.maxHeaderBytes) "Content-Length" = some line)
    (hn : Http.contentLength (blockLines stream i) = some n) (hsmall : n < 2 ^ 31) :
    atoi (headerValue "Content-Length" line) = n := by
  obtain ⟨first, hfield, hnumber⟩ := contentLength_eq_some.1 hn
  have hsame := findHeaderLine_of_field hend (headersEnd_le hend).1 hfield hnumber
  rw [hfound] at hsame
  rw [Option.some.inj hsame]
  exact atoi_headerValue hnumber hsmall

/-- A `POST` that is accepted passes. -/
theorem Accepted.passes {request : Request} {i n : ℕ}
    (h : Accepted limits alloc methodBytes pathBytes stream request i n)
    (hpost : strcaseeq request.method (ascii "POST") = true) :
    ∃ line, Passes limits stream i line ∧
      request.bodySize = atoi (headerValue "Content-Length" line) := by
  obtain ⟨line, hfound, hshort, hnonneg, hsmall, hbody, hsize⟩ := h.post hpost
  exact ⟨line, ⟨findHeaderLine_take h.capacity hfound, hshort, hnonneg, hsmall, hbody⟩, hsize⟩

/-- What passes is accepted, when the buffer holds as much of it as it can. -/
theorem accepted_of_passes {i n : ℕ} {method path line : List UInt8}
    (hend : headersEnd limits stream = some i) (hn : i + 4 ≤ n) (hcapacity : n ≤ limits.maxHeaderBytes)
    (hbuffer : stream.take n = stream.take limits.maxHeaderBytes)
    (hparse : parseRequestLine (stream.take (i + 4)) methodBytes pathBytes = .ok (method, path))
    (hpost : strcaseeq method (ascii "POST") = true) (h : Passes limits stream i line) :
    ∃ request, Accepted limits ⟨true, true⟩ methodBytes pathBytes stream request i n ∧
      request.method = method ∧ request.bodySize = atoi (headerValue "Content-Length" line) := by
  have hfound := h.found
  have hshort := h.short
  have hnonneg := h.nonneg
  have hsmall := h.small
  have hbody := h.body
  generalize hsize : atoi (headerValue "Content-Length" line) = size at hnonneg hsmall hbody
  have hlookup : headerLookup "Content-Length" 64 (findHeaderLine (stream.take n) "Content-Length") =
      .ok (some (headerValue "Content-Length" line)) := by
    rw [hbuffer, hfound, headerLookup, if_neg (by omega)]
  have hbytes : bodyOf true (stream.drop (i + 4)) size.toNat =
      .ok ((stream.drop (i + 4)).take size.toNat) := by
    rw [bodyOf, if_neg (by decide), if_pos (by rw [List.length_drop]; omega)]
  have hfinish : ∀ request : Request,
      readPost limits method path (some (headerValue "Content-Length" line))
        (bodyOf true (stream.drop (i + 4))) = .ok request →
      request.method = method → request.path = path →
      Accepted limits ⟨true, true⟩ methodBytes pathBytes stream request i n := by
    rintro request hrequest rfl rfl
    exact ⟨rfl, hend, hn, hcapacity, hparse, by rw [hlookup, finishRequest_post hpost, hrequest]⟩
  by_cases hpos : size > 0
  · refine ⟨_, hfinish ⟨method, path, some ((stream.drop (i + 4)).take size.toNat), size⟩ ?_ rfl rfl,
      rfl, rfl⟩
    rw [readPost, hsize, if_neg (by omega), if_pos hpos, hbytes]
    rfl
  · refine ⟨_, hfinish ⟨method, path, none, 0⟩ ?_ rfl rfl, rfl, ?_⟩
    · rw [readPost, hsize, if_neg (by omega), if_neg hpos]
    · show (0 : ℤ) = size
      omega

/-- **Content-Length, exactly.** Only numbers are accepted, and for what they are, if and only if the
    stream has a plain number wherever it passes. -/
theorem content_length_strict_exact (limits : Limits) (stream : List UInt8) :
    StrictLength limits stream ↔ PlainLength limits stream := by
  constructor
  · intro h i methodBytes pathBytes method path line hend hparse hpost hpasses
    obtain ⟨hcapacity, hlength⟩ := headersEnd_le hend
    -- everything arrives at once
    obtain ⟨segs, hcut, hread⟩ := exists_cut_outcome ⟨true, true⟩ 0 methodBytes pathBytes hend
      (n := min limits.maxHeaderBytes stream.length) (by omega) (by omega) (by omega)
    obtain ⟨request, haccepted, rfl, hsize⟩ := accepted_of_passes hend (by omega) (by omega)
      List.take_eq_take_min.symm hparse hpost hpasses
    rw [outcome_of_accepted haccepted] at hread
    obtain ⟨j, n, hblank, hn, -, hequal⟩ :=
      h _ _ _ _ _ request (arrived_segments hcut) hread hpost
    obtain rfl := Option.some.inj ((findSub_of_headersEnd hend).symm.trans hblank)
    refine ⟨n, hn, ?_⟩
    have hlt := atoi_lt (headerValue "Content-Length" line)
    omega
  · intro h alloc clientFd methodBytes pathBytes events request harrived hread hpost
    obtain ⟨i, m, haccepted⟩ := readHttpRequest_ok hread
    rw [harrived] at haccepted
    obtain ⟨line, hpasses, hsize⟩ := haccepted.passes hpost
    obtain ⟨n, hn, hsmall⟩ := h i _ _ _ _ line haccepted.blockEnd haccepted.requestLine hpost hpasses
    have hatoi := atoi_of_contentLength haccepted.blockEnd hpasses.found hn hsmall
    have hlimit := hpasses.small
    exact ⟨i, n, findSub_of_headersEnd haccepted.blockEnd, hn, by omega, by omega⟩

/-- A `POST` whose number is followed by letters. -/
def trailingLetters : List UInt8 := ascii "POST / HTTP/1.1\r\nContent-Length: 2ab\r\n\r\nhi"

/-- Its body is read with the number before the letters. -/
theorem trailing_letters_accepted : ¬ ∀ stream, StrictLength ⟨8192, 65536⟩ stream := by
  intro h
  have hread : readHttpRequest ⟨8192, 65536⟩ ⟨true, true⟩ 5 32 1024 [.segment trailingLetters] =
      .ok ⟨ascii "POST", ascii "/", some (ascii "hi"), 2⟩ := by decide +kernel
  obtain ⟨i, n, hblank, hn, -⟩ := h trailingLetters ⟨true, true⟩ 5 32 1024 [.segment trailingLetters]
    _ (by decide +kernel) hread (by decide +kernel)
  have hi : findSub (Http.crlf ++ Http.crlf) trailingLetters = some 36 := by decide +kernel
  obtain rfl := Option.some.inj (hi.symm.trans hblank)
  have hlines : blockLines trailingLetters 36 =
      [ascii "POST / HTTP/1.1", ascii "Content-Length: 2ab"] := by
    have hblock : trailingLetters.take 38 = ascii "POST / HTTP/1.1" ++ (13 :: [10] ++
        (ascii "Content-Length: 2ab" ++ (13 :: [10] ++ []))) := by decide +kernel
    rw [blockLines, hblock, ascii_crlf, pieces_append (by decide), pieces_append (by decide),
      pieces_of_none rfl]
  rw [hlines] at hn
  have hnone : Http.contentLength [ascii "POST / HTTP/1.1", ascii "Content-Length: 2ab"] = none := by
    decide +kernel
  rw [hnone] at hn
  cases hn

end DthttpdLinuxSocket
