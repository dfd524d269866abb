import DtmcLinux.Dthttpd.Request
import DtmcLinux.Posix.Receive

set_option autoImplicit false

/-! # A request that arrives in segments

Where the segments of the stream end decides how many bytes of the body are in the buffer when the
blank line is found. The two loops and the request line do not depend on it; the header lookup does,
since it goes on behind the blank line. -/

namespace DthttpdLinuxSocket

open Posix

/-! ## The header lookup -/

/-- The lines of the text in a buffer that are there up to their CR LF. -/
def headerLines (bytes : List UInt8) : List (List UInt8) := pieces (ascii "\r\n") (cString bytes)

/-- The first line in the buffer with the header `name`. -/
def findHeaderLine (bytes : List UInt8) (name : String) : Option (List UInt8) :=
  (headerLines bytes).find? (isHeaderLine name)

theorem crlf_ne_nil : ascii "\r\n" ≠ [] := by decide

/-- What the lookup makes of the line. -/
def headerLookup (name : String) (outValueCapacity : ℤ) :
    Option (List UInt8) → Except Dterr (Option (List UInt8))
  | none => .ok none
  | some line =>
    if (headerValue name line).length ≥ outValueCapacity then
      .error (.new .overflow ("header value too long for " ++ name))
    else .ok (some (headerValue name line))

/-- One round of the lookup. -/
theorem findHeaderLoop_some {name : String} {outValueCapacity : ℤ} {p : List UInt8} {lineEnd : ℕ}
    (hfind : findSub (ascii "\r\n") p = some lineEnd) :
    findHeaderLoop name outValueCapacity p =
      if isHeaderLine name (p.take lineEnd) then
        headerLookup name outValueCapacity (some (p.take lineEnd))
      else findHeaderLoop name outValueCapacity (p.drop (lineEnd + 2)) := by
  rw [findHeaderLoop]
  split
  · rename_i hnone
    exact absurd (hnone.symm.trans hfind) (by simp)
  · rename_i hsome
    obtain rfl := Option.some.inj (hfind.symm.trans hsome)
    rfl

theorem findHeaderLoop_eq (name : String) (outValueCapacity : ℤ) (p : List UInt8) :
    findHeaderLoop name outValueCapacity p =
      headerLookup name outValueCapacity ((pieces (ascii "\r\n") p).find? (isHeaderLine name)) := by
  induction hlen : p.length using Nat.strongRecOn generalizing p with
  | _ m ih =>
      cases hfind : findSub (ascii "\r\n") p with
      | none =>
          rw [pieces_of_none hfind, findHeaderLoop]
          split
          · rfl
          · rename_i hsome
            exact absurd (hfind.symm.trans hsome) (by simp)
      | some lineEnd =>
          rw [findHeaderLoop_some hfind, pieces_of_some crlf_ne_nil hfind]
          by_cases hline : isHeaderLine name (p.take lineEnd) = true
          · rw [if_pos hline, List.find?_cons_of_pos hline]
          · have hle := findSub_le hfind
            have hcrlf : (ascii "\r\n").length = 2 := by decide
            rw [if_neg hline, List.find?_cons_of_neg hline, hcrlf]
            refine ih _ ?_ _ rfl
            rw [List.length_drop]
            omega

/-- **The lookup is a search among the lines.** -/
theorem findHeaderValue_eq (bytes : List UInt8) (name : String) {outValueCapacity : ℤ}
    (hcapacity : 0 < outValueCapacity) :
    findHeaderValue bytes name outValueCapacity =
      headerLookup name outValueCapacity (findHeaderLine bytes name) := by
  rw [findHeaderValue, if_neg (by omega), findHeaderLoop_eq]
  rfl

/-- A line that is found in a buffer is found when the buffer holds more. -/
theorem findHeaderLine_take {stream line : List UInt8} {name : String} {m n : ℕ} (hle : m ≤ n)
    (h : findHeaderLine (stream.take m) name = some line) :
    findHeaderLine (stream.take n) name = some line := by
  have hpre : headerLines (stream.take m) <+: headerLines (stream.take n) := by
    have htake : (cString stream).take m = ((cString stream).take n).take m := by
      rw [List.take_take, Nat.min_eq_left hle]
    rw [headerLines, headerLines, cString_take, cString_take, htake]
    exact pieces_take crlf_ne_nil _ m
  obtain ⟨more, hmore⟩ := hpre
  rw [findHeaderLine] at h ⊢
  rw [← hmore, List.find?_append, h]
  rfl

/-- A line that a larger buffer does not show is not in the smaller one. -/
theorem findHeaderLine_take_none {stream : List UInt8} {name : String} {m n : ℕ} (hle : m ≤ n)
    (h : findHeaderLine (stream.take n) name = none) :
    findHeaderLine (stream.take m) name = none := by
  cases hfound : findHeaderLine (stream.take m) name with
  | none => rfl
  | some line => exact absurd (h.symm.trans (findHeaderLine_take hle hfound)) (by simp)

/-! ## The loops -/

/-- Where the headers end, if the blank line is within the capacity of the buffer. -/
def headersEnd (limits : Limits) (stream : List UInt8) : Option ℕ :=
  strstr (stream.take limits.maxHeaderBytes) (ascii "\r\n\r\n")

variable {limits : Limits} {alloc : Allocations} {clientFd outMethodCapacity outPathCapacity : ℤ}
  {stream : List UInt8} {segs : List (List UInt8)}

/-- Within the capacity, a prefix of the stream shows the blank line when it holds it whole. -/
theorem strstr_take {n : ℕ} (hn : n ≤ limits.maxHeaderBytes) :
    strstr (stream.take n) (ascii "\r\n\r\n") =
      (headersEnd limits stream).filter fun i => i + 4 ≤ n := Posix.strstr_take hn

theorem headersEnd_le {i : ℕ} (hend : headersEnd limits stream = some i) :
    i + 4 ≤ limits.maxHeaderBytes ∧ i + 4 ≤ stream.length := strstr_le hend

/-- What the first loop looks for is the blank line. -/
theorem checkHeaders_eq (capacity : ℕ) :
    checkHeaders capacity = findOrFull (ascii "\r\n\r\n") capacity id
      (.new .overflow "HTTP headers too large") := rfl

/-- What the first loop returns when it finds no blank line. -/
def headersError (limits : Limits) (clientFd : ℤ) (stream : List UInt8) : Dterr :=
  if 0 < limits.maxHeaderBytes ∧ limits.maxHeaderBytes ≤ stream.length then
    .new .overflow "HTTP headers too large"
  else (headerErrors clientFd).closed

/-- **The first loop**, when there is no blank line within the capacity. -/
theorem readHeaders_none (hcut : Cut segs stream) (hend : headersEnd limits stream = none) :
    recvLoop limits.maxHeaderBytes (checkHeaders limits.maxHeaderBytes) (headerErrors clientFd) []
      (segs.map .segment) = .error (headersError limits clientFd stream) := by
  rw [checkHeaders_eq]
  exact recvLoop_findOrFull_none hcut hend

/-- **The first loop**, when the blank line is within the capacity: the buffer is a prefix of the
    stream with all of the headers. -/
theorem readHeaders_some (hcut : Cut segs stream) {i : ℕ} (hend : headersEnd limits stream = some i) :
    ∃ n rest, i + 4 ≤ n ∧ n ≤ limits.maxHeaderBytes ∧ n ≤ stream.length ∧
      Cut rest (stream.drop n) ∧
      recvLoop limits.maxHeaderBytes (checkHeaders limits.maxHeaderBytes) (headerErrors clientFd) []
        (segs.map .segment) = .ok (i, stream.take n, rest.map .segment) := by
  rw [checkHeaders_eq]
  exact recvLoop_findOrFull_some (by decide) hcut hend

/-- **The second loop**: the body comes from the buffer and the rest of the stream, wherever the
    buffer ends. -/
def bodyOf (alloc : Bool) (stream : List UInt8) (contentLength : ℕ) : Except Dterr (List UInt8) :=
  if !alloc then .error (.new .nomem "malloc failed for request body")
  else if contentLength ≤ stream.length then .ok (stream.take contentLength)
  else .error bodyErrors.closed

theorem readBody_segments {m : ℕ} (hcut : Cut segs (stream.drop m)) (hm : m ≤ stream.length)
    (alloc : Bool) (contentLength : ℕ) :
    readBody alloc (stream.take m) contentLength (segs.map .segment) =
      bodyOf alloc stream contentLength := by
  unfold readBody bodyOf
  split
  · rfl
  · have hbuffered : ((stream.take m).take contentLength).length = min contentLength m := by
      rw [List.length_take, List.length_take, Nat.min_eq_left hm]
    dsimp only
    rw [hbuffered]
    by_cases hlt : m < contentLength
    · rw [if_pos (by omega), recvLoop_segments]
      rw [List.take_of_length_le (by rw [List.length_take]; omega)]
      have hlen : (stream.take m).length = m := by
        rw [List.length_take, Nat.min_eq_left hm]
      cases hread : readSegments contentLength (checkBody contentLength) (stream.take m) segs with
      | none =>
          have hshort : ¬ contentLength ≤ stream.length := by
            intro hle
            rcases readSegments_none hcut hread with hclosed | hroom | hcheck
            · rw [List.length_drop] at hclosed
              omega
            · omega
            · simp only [checkBody, List.length_append, List.length_take, List.length_drop] at hcheck
              rw [if_neg (by omega)] at hcheck
              exact absurd hcheck (by simp)
          rw [if_neg hshort]
          rfl
      | some result =>
          obtain ⟨found, body, rest⟩ := result
          obtain ⟨n, hpos, hle, hlimit, rfl, hcheck, -⟩ := readSegments_some hcut hread
          rw [List.length_drop] at hle
          rw [← List.take_add] at hcheck ⊢
          rw [checkBody, List.length_take] at hcheck
          simp only [Option.ite_none_left_eq_some, Option.some.injEq] at hcheck
          obtain ⟨hdone, rfl⟩ := hcheck
          obtain rfl : contentLength = m + n := by omega
          rw [if_pos (by omega)]
          rfl
    · rw [if_neg (by omega), if_pos (by omega), List.take_take, Nat.min_eq_left (by omega)]

/-! ## The request line -/

/-- The request line is the same in every buffer with all of the headers. -/
theorem parseRequestLine_take {i n : ℕ} (hend : headersEnd limits stream = some i) (hn : i + 4 ≤ n) :
    parseRequestLine (stream.take n) outMethodCapacity outPathCapacity =
      parseRequestLine (stream.take (i + 4)) outMethodCapacity outPathCapacity := by
  have hcrlf : ascii "\r\n\r\n" = ascii "\r\n" ++ ascii "\r\n" := by decide
  have hlen : (ascii "\r\n").length = 2 := by decide
  rw [headersEnd, strstr, cString_take] at hend
  have hwhole := (findSub_of_take hend).1
  rw [hcrlf] at hwhole
  obtain ⟨lineEnd, hle, hline⟩ := findSub_append hwhole
  have hstrstr : ∀ m, i + 4 ≤ m → strstr (stream.take m) (ascii "\r\n") = some lineEnd := by
    intro m hm
    rw [strstr, cString_take]
    exact findSub_take_some hline (by omega)
  have htake : (stream.take n).take lineEnd = (stream.take (i + 4)).take lineEnd := by
    rw [List.take_take, List.take_take, Nat.min_eq_left (by omega), Nat.min_eq_left (by omega)]
  rw [parseRequestLine, parseRequestLine, hstrstr n hn, hstrstr (i + 4) (Nat.le_refl _)]
  dsimp only
  rw [htake]

/-- A request line is only accepted for buffers of positive capacity. -/
theorem parseRequestLine_capacity {bytes method path : List UInt8}
    (h : parseRequestLine bytes outMethodCapacity outPathCapacity = .ok (method, path)) :
    ¬ (outMethodCapacity ≤ 0 ∨ outPathCapacity ≤ 0) := by
  unfold parseRequestLine at h
  split at h
  · exact absurd h (by simp)
  · split at h
    · exact absurd h (by simp)
    · split at h
      · exact absurd h (by simp)
      · split at h
        · exact absurd h (by simp)
        · rename_i hmethod
          rintro (hcapacity | hcapacity)
          · omega
          · rw [normalizeRequestTarget, if_pos hcapacity] at h
            exact absurd h (by simp [Except.map])

/-! ## The request -/

/-- The outcome when the buffer ends after the first `n` bytes of the stream. -/
def outcome (limits : Limits) (alloc : Allocations) (clientFd outMethodCapacity outPathCapacity : ℤ)
    (stream : List UInt8) (n : ℕ) : Except Dterr Request :=
  if outMethodCapacity ≤ 0 ∨ outPathCapacity ≤ 0 then
    .error (.new .badarg "invalid output buffer capacity")
  else if !alloc.bytes then .error (.new .nomem "malloc failed")
  else
    match headersEnd limits stream with
    | none => .error (headersError limits clientFd stream)
    | some i =>
      match parseRequestLine (stream.take (i + 4)) outMethodCapacity outPathCapacity with
      | .error err => .error err
      | .ok (method, path) =>
        finishRequest limits method path
          (headerLookup "Content-Length" 64 (findHeaderLine (stream.take n) "Content-Length"))
          (bodyOf alloc.body (stream.drop (i + 4)))

/-- The call after its first loop has returned. -/
theorem readHttpRequest_of_headers {i n : ℕ} {rest : List (List UInt8)}
    (hend : headersEnd limits stream = some i) (hn : i + 4 ≤ n) (hle : n ≤ stream.length)
    (hrest : Cut rest (stream.drop n))
    (hloop : recvLoop limits.maxHeaderBytes (checkHeaders limits.maxHeaderBytes)
      (headerErrors clientFd) [] (segs.map .segment) = .ok (i, stream.take n, rest.map .segment)) :
    readHttpRequest limits alloc clientFd outMethodCapacity outPathCapacity (segs.map .segment) =
      outcome limits alloc clientFd outMethodCapacity outPathCapacity stream n := by
  have hbody : (fun contentLength =>
      readBody alloc.body ((stream.take n).drop (i + 4)) contentLength (rest.map .segment)) =
        bodyOf alloc.body (stream.drop (i + 4)) := by
    funext contentLength
    have hcut : Cut rest ((stream.drop (i + 4)).drop (n - (i + 4))) := by
      rw [List.drop_drop]
      rwa [Nat.add_sub_cancel' hn]
    rw [List.drop_take]
    exact readBody_segments hcut (by rw [List.length_drop]; omega) alloc.body contentLength
  rw [readHttpRequest, outcome, hloop, hend]
  dsimp only
  rw [parseRequestLine_take hend hn, findHeaderValue_eq _ _ (by decide)]
  rcases parseRequestLine (stream.take (i + 4)) outMethodCapacity outPathCapacity with
    err | ⟨method, path⟩
  · rfl
  · dsimp only
    rw [hbody]

/-- **A request in segments.** Its outcome is determined by the stream and the end of the buffer. -/
theorem readHttpRequest_cut (limits : Limits) (alloc : Allocations)
    (clientFd outMethodCapacity outPathCapacity : ℤ) (hcut : Cut segs stream) :
    ∃ n, (∀ i, headersEnd limits stream = some i → i + 4 ≤ n) ∧ n ≤ limits.maxHeaderBytes ∧
      readHttpRequest limits alloc clientFd outMethodCapacity outPathCapacity (segs.map .segment) =
        outcome limits alloc clientFd outMethodCapacity outPathCapacity stream n := by
  cases hend : headersEnd limits stream with
  | none =>
      refine ⟨0, fun i hi => absurd hi (by simp), Nat.zero_le _, ?_⟩
      rw [readHttpRequest, outcome, readHeaders_none hcut hend, hend]
  | some i =>
      obtain ⟨n, rest, hn, hcapacity, hle, hrest, hloop⟩ := readHeaders_some hcut hend
      refine ⟨n, fun j hj => ?_, hcapacity, readHttpRequest_of_headers hend hn hle hrest hloop⟩
      obtain rfl := Option.some.inj hj
      exact hn

/-- The buffer can end anywhere behind the headers. -/
theorem exists_cut_outcome (alloc : Allocations)
    (clientFd outMethodCapacity outPathCapacity : ℤ) {i n : ℕ} (hend : headersEnd limits stream = some i) (hn : i + 4 ≤ n)
    (hcapacity : n ≤ limits.maxHeaderBytes) (hle : n ≤ stream.length) :
    ∃ segs, Cut segs stream ∧
      readHttpRequest limits alloc clientFd outMethodCapacity outPathCapacity (segs.map .segment) =
        outcome limits alloc clientFd outMethodCapacity outPathCapacity stream n := by
  -- the last byte of the headers comes with those of the body
  have hbefore : checkHeaders limits.maxHeaderBytes (stream.take (i + 3)) = none := by
    have hshort : i + 3 ≤ limits.maxHeaderBytes := by omega
    rw [checkHeaders, strstr_take hshort, hend, Option.filter_some_neg (by simp)]
    dsimp only
    rw [if_neg (by rw [List.length_take]; omega)]
  have hfound : checkHeaders limits.maxHeaderBytes (stream.take n) = some (.ok i) := by
    rw [checkHeaders, strstr_take hcapacity, hend, Option.filter_some_pos (by simpa using hn)]
  obtain ⟨segs, rest, hcut, hread⟩ :=
    exists_cut (by omega : i + 3 < n) hcapacity hle (Or.inr hbefore) hfound
  refine ⟨segs, hcut, ?_⟩
  obtain ⟨m, -, hm, -, hbytes, -, hrest⟩ := readSegments_some hcut hread
  have hlength := congrArg List.length hbytes
  rw [List.nil_append, List.length_take, List.length_take, Nat.min_eq_left hm,
    Nat.min_eq_left hle] at hlength
  subst hlength
  exact readHttpRequest_of_headers hend hn hle hrest (by rw [recvLoop_segments, hread])

/-! ## When the segments do not matter -/

/-- The header lookup cannot find a line behind the blank line that would make a difference. In a
    request that gets as far as the lookup, either there is a line in the headers, or there is none
    in all that the buffer can hold, or the method is not `POST` and the value is short enough. -/
def LookupBlind (limits : Limits) (alloc : Allocations) (outMethodCapacity outPathCapacity : ℤ)
    (stream : List UInt8) : Prop :=
  ∀ i method path, alloc.bytes = true → headersEnd limits stream = some i →
    parseRequestLine (stream.take (i + 4)) outMethodCapacity outPathCapacity = .ok (method, path) →
    (∃ line ∈ headerLines (stream.take (i + 4)), isHeaderLine "Content-Length" line = true) ∨
    (∀ line ∈ headerLines (stream.take limits.maxHeaderBytes),
      ¬ isHeaderLine "Content-Length" line = true) ∨
    (strcaseeq method (ascii "POST") = false ∧
      ∀ line, findHeaderLine (stream.take limits.maxHeaderBytes) "Content-Length" = some line →
        (headerValue "Content-Length" line).length < 64)

/-- What the caller looks at: the code of the error, or the request. -/
def reply (result : Except Dterr Request) : Except (Option DterrCode) Request :=
  result.mapError Dterr.errorCode

theorem headerLookup_of_short {found : Option (List UInt8)}
    (hshort : ∀ line, found = some line → (headerValue "Content-Length" line).length < 64) :
    ∃ str, headerLookup "Content-Length" 64 found = .ok str := by
  cases found with
  | none => exact ⟨none, rfl⟩
  | some line =>
      have hlt := hshort line rfl
      exact ⟨some (headerValue "Content-Length" line), if_neg (by omega)⟩

/-- The request is finished alike, whatever the buffer holds. -/
theorem finishRequest_of_lookupBlind (hblind : LookupBlind limits alloc outMethodCapacity
    outPathCapacity stream) {i n : ℕ} {method path : List UInt8} (halloc : alloc.bytes = true)
    (hend : headersEnd limits stream = some i) (hn : i + 4 ≤ n) (hcapacity : n ≤ limits.maxHeaderBytes)
    (hparse : parseRequestLine (stream.take (i + 4)) outMethodCapacity outPathCapacity =
      .ok (method, path)) (readBody : ℕ → Except Dterr (List UInt8)) :
    finishRequest limits method path
        (headerLookup "Content-Length" 64 (findHeaderLine (stream.take n) "Content-Length")) readBody =
      finishRequest limits method path (headerLookup "Content-Length" 64
        (findHeaderLine (stream.take limits.maxHeaderBytes) "Content-Length")) readBody := by
  rcases hblind i method path halloc hend hparse with ⟨line, hmem, hline⟩ | hnone | ⟨hmethod, hshort⟩
  · -- the line in the headers is found first
    obtain ⟨found, hfound⟩ := Option.isSome_iff_exists.1
      (List.find?_isSome.2 ⟨line, hmem, hline⟩ :
        (findHeaderLine (stream.take (i + 4)) "Content-Length").isSome)
    rw [findHeaderLine_take hn hfound, findHeaderLine_take (Nat.le_trans hn hcapacity) hfound]
  · have hwindow : findHeaderLine (stream.take limits.maxHeaderBytes) "Content-Length" = none :=
      List.find?_eq_none.2 hnone
    have hbuffer := findHeaderLine_take_none hcapacity hwindow
    rw [hbuffer, hwindow]
  · -- the method is not `POST`: the value is not looked at
    have hother : ∀ str, finishRequest limits method path (.ok str) readBody =
        .ok { method := method, path := path, body := none, bodySize := 0 } := by
      intro str
      rw [finishRequest, hmethod]
      rfl
    obtain ⟨str, hwindow⟩ := headerLookup_of_short hshort
    obtain ⟨str', hbuffer⟩ := headerLookup_of_short fun line hline =>
      hshort line (findHeaderLine_take hcapacity hline)
    rw [hwindow, hbuffer, hother, hother]

/-- A `POST` with a line is not rejected as one without. -/
theorem reply_finishRequest_post {method path line stream : List UInt8} {alloc : Bool}
    (hmethod : strcaseeq method (ascii "POST") = true) :
    reply (finishRequest limits method path (headerLookup "Content-Length" 64 (some line))
      (bodyOf alloc stream)) ≠ .error (some .badarg) := by
  by_cases hlong : (headerValue "Content-Length" line).length ≥ (64 : ℤ)
  · have hlookup : headerLookup "Content-Length" 64 (some line) =
        .error (.new .overflow ("header value too long for " ++ "Content-Length")) := if_pos hlong
    rw [hlookup]
    simp [finishRequest, reply, Except.mapError, Dterr.errorCode]
  · have hlookup : headerLookup "Content-Length" 64 (some line) =
        .ok (some (headerValue "Content-Length" line)) := if_neg hlong
    rw [hlookup]
    have hpost : ∀ str, finishRequest limits method path (.ok str) (bodyOf alloc stream) =
        readPost limits method path str (bodyOf alloc stream) := fun str => if_pos hmethod
    rw [hpost, readPost]
    split
    · simp [reply, Except.mapError, Dterr.errorCode]
    · split
      · unfold bodyOf
        split
        · simp [reply, Except.mapError, Except.map, Dterr.errorCode]
        · split
          · simp [reply, Except.mapError, Except.map]
          · simp [reply, Except.mapError, Except.map, Dterr.errorCode, bodyErrors]
      · simp [reply, Except.mapError]

/-- The reply is the same for all ways to cut the stream into segments. -/
def SegmentationInvariant (limits : Limits) (alloc : Allocations)
    (clientFd outMethodCapacity outPathCapacity : ℤ) (stream : List UInt8) : Prop :=
  ∀ segs₁ segs₂, Cut segs₁ stream → Cut segs₂ stream →
    reply (readHttpRequest limits alloc clientFd outMethodCapacity outPathCapacity
        (segs₁.map .segment)) =
      reply (readHttpRequest limits alloc clientFd outMethodCapacity outPathCapacity
        (segs₂.map .segment))

/-- Then it is the same wherever the buffer ends: right behind the headers, or as late as it can. -/
theorem SegmentationInvariant.finishRequest_eq
    (h : SegmentationInvariant limits alloc clientFd outMethodCapacity outPathCapacity stream) {i : ℕ}
    {method path : List UInt8} (halloc : alloc.bytes = true)
    (hend : headersEnd limits stream = some i)
    (hparse : parseRequestLine (stream.take (i + 4)) outMethodCapacity outPathCapacity =
      .ok (method, path)) :
    reply (finishRequest limits method path
        (headerLookup "Content-Length" 64 (findHeaderLine (stream.take (i + 4)) "Content-Length"))
        (bodyOf alloc.body (stream.drop (i + 4)))) =
      reply (finishRequest limits method path (headerLookup "Content-Length" 64
          (findHeaderLine (stream.take limits.maxHeaderBytes) "Content-Length"))
        (bodyOf alloc.body (stream.drop (i + 4)))) := by
  obtain ⟨hcapacity, hlength⟩ := headersEnd_le hend
  have houtcome : ∀ n, outcome limits alloc clientFd outMethodCapacity outPathCapacity stream n =
      finishRequest limits method path
        (headerLookup "Content-Length" 64 (findHeaderLine (stream.take n) "Content-Length"))
        (bodyOf alloc.body (stream.drop (i + 4))) := by
    intro n
    rw [outcome, if_neg (parseRequestLine_capacity hparse), if_neg (by simp [halloc]), hend]
    dsimp only
    rw [hparse]
  have hreach : ∀ n, i + 4 ≤ n → n ≤ limits.maxHeaderBytes → n ≤ stream.length →
      ∃ segs, Cut segs stream ∧
        readHttpRequest limits alloc clientFd outMethodCapacity outPathCapacity (segs.map .segment) =
          outcome limits alloc clientFd outMethodCapacity outPathCapacity stream n :=
    fun n hn hcapacity hle => exists_cut_outcome _ _ _ _ hend hn hcapacity hle
  obtain ⟨segs₁, hcut₁, hread₁⟩ := hreach (i + 4) (Nat.le_refl _) hcapacity hlength
  obtain ⟨segs₂, hcut₂, hread₂⟩ := hreach (min limits.maxHeaderBytes stream.length) (by omega)
    (by omega) (by omega)
  have hsame := h segs₁ segs₂ hcut₁ hcut₂
  rw [hread₁, hread₂, houtcome, houtcome, ← List.take_eq_take_min] at hsame
  exact hsame

/-- **Segmentation, exactly.** The reply to a request is the same for all ways to cut its stream into
    segments if and only if the header lookup is blind to the body. -/
theorem segmentation_exact (limits : Limits) (alloc : Allocations)
    (clientFd outMethodCapacity outPathCapacity : ℤ) (stream : List UInt8) :
    SegmentationInvariant limits alloc clientFd outMethodCapacity outPathCapacity stream ↔
      LookupBlind limits alloc outMethodCapacity outPathCapacity stream := by
  constructor
  · intro h i method path halloc hend hparse
    have hsame := h.finishRequest_eq halloc hend hparse
    cases hhead : findHeaderLine (stream.take (i + 4)) "Content-Length" with
    | some line => exact Or.inl ⟨line, List.mem_of_find?_eq_some hhead, List.find?_some hhead⟩
    | none =>
        cases hwindow : findHeaderLine (stream.take limits.maxHeaderBytes) "Content-Length" with
        | none => exact Or.inr (Or.inl (List.find?_eq_none.1 hwindow))
        | some line =>
            rw [hhead, hwindow] at hsame
            refine Or.inr (Or.inr ?_)
            by_cases hmethod : strcaseeq method (ascii "POST") = true
            · -- with the headers alone, `Content-Length` is missing
              have hmissing : finishRequest limits method path (headerLookup "Content-Length" 64 none)
                  (bodyOf alloc.body (stream.drop (i + 4))) =
                    .error (.new .badarg "POST missing Content-Length") := if_pos hmethod
              rw [hmissing] at hsame
              exact absurd hsame.symm (reply_finishRequest_post hmethod)
            · refine ⟨Bool.not_eq_true _ ▸ hmethod, fun l hl => ?_⟩
              obtain rfl := Option.some.inj hl
              have hother : finishRequest limits method path (headerLookup "Content-Length" 64 none)
                  (bodyOf alloc.body (stream.drop (i + 4))) =
                    .ok { method := method, path := path, body := none, bodySize := 0 } :=
                if_neg hmethod
              by_cases hshort : (headerValue "Content-Length" line).length < 64
              · exact hshort
              · have hlookup : headerLookup "Content-Length" 64 (some line) =
                    .error (.new .overflow ("header value too long for " ++ "Content-Length")) :=
                  if_pos (by omega)
                rw [hother, hlookup] at hsame
                exact absurd hsame (by simp [reply, finishRequest, Except.mapError])
  · intro hblind segs₁ segs₂ hcut₁ hcut₂
    have hwindow : ∀ segs, Cut segs stream →
        readHttpRequest limits alloc clientFd outMethodCapacity outPathCapacity (segs.map .segment) =
          outcome limits alloc clientFd outMethodCapacity outPathCapacity stream
            limits.maxHeaderBytes := by
      intro segs hcut
      obtain ⟨n, hn, hcapacity, hread⟩ := readHttpRequest_cut _ _ _ _ _ hcut
      rw [hread, outcome, outcome]
      split
      · rfl
      · split
        · rfl
        · rename_i halloc
          split
          · rfl
          · rename_i i hend
            split
            · rfl
            · rename_i method path hparse
              exact finishRequest_of_lookupBlind hblind (by simpa using halloc) hend (hn i hend)
                hcapacity hparse _
    rw [hwindow segs₁ hcut₁, hwindow segs₂ hcut₂]

/-- A `POST` without `Content-Length`, and a body that looks like a header. -/
def headersThenBody : List (List UInt8) :=
  [ascii "POST / HTTP/1.1\r\nHost: a\r\n\r\n", ascii "Content-Length: 3\r\n"]

/-- In one segment, the request is accepted; with a segment for the body, it is not. -/
theorem body_read_as_header :
    ¬ ∀ stream, SegmentationInvariant ⟨8192, 65536⟩ ⟨true, true⟩ 5 32 1024 stream := by
  intro h
  have hone : Cut [headersThenBody.flatten] headersThenBody.flatten :=
    cut_singleton (by decide +kernel)
  have htwo : Cut headersThenBody headersThenBody.flatten := ⟨by decide +kernel, rfl⟩
  exact absurd (h _ _ _ hone htwo) (by decide +kernel)

end DthttpdLinuxSocket
