import DtmcLinux.Dthttpd.RequestAccepted
import DtmcLinux.Dthttpd.StaticFiles

set_option autoImplicit false

/-! # The request line

`sscanf(request_line, "%31s %1023s %63s", ..)` cuts a method after 31 bytes and a target after 1023,
and takes the rest for the next token. A line that fits is parsed whole; `request_line_exact` says
which of the others are accepted all the same. -/

namespace DthttpdLinuxSocket

open Posix

/-- Three tokens. -/
structure RequestLine where
  method : List UInt8
  target : List UInt8
  version : List UInt8
  method_token : IsToken method
  target_token : IsToken target
  version_token : IsToken version

/-- `METHOD SP TARGET SP VERSION` -/
def RequestLine.bytes (line : RequestLine) : List UInt8 :=
  line.method ++ 32 :: (line.target ++ 32 :: line.version)

/-- The method and the target fit into what is scanned of them. -/
def RequestLine.Fits (line : RequestLine) : Prop :=
  line.method.length ≤ 31 ∧ line.target.length ≤ 1023

/-- What is scanned as the target: the rest of a method that does not fit. -/
def RequestLine.scanned (line : RequestLine) : List UInt8 :=
  if line.method.length ≤ 31 then line.target else line.method.drop 31

/-! ## Scanning -/

theorem endsToken_cons_blank (rest : List UInt8) : EndsToken (32 :: rest) := by
  intro b hb
  rw [List.head?_cons, Option.some.injEq] at hb
  rw [← hb]
  decide

theorem isToken_drop {token : List UInt8} (htoken : IsToken token) {n : ℕ} (h : n < token.length) :
    IsToken (token.drop n) where
  ne_nil := by
    rw [ne_eq, List.drop_eq_nil_iff]
    omega
  no_space := fun b hb => htoken.no_space b (List.mem_of_mem_drop hb)

/-- The rest of a text with a token in it gives another one. -/
theorem exists_scanString {width : ℕ} (hwidth : 0 < width) {token rest : List UInt8}
    (htoken : IsToken token) (hrest : EndsToken rest) :
    ∃ scanned left, scanString width (token ++ rest) = some (scanned, left) :=
  ⟨_, _, scanString_token hwidth htoken hrest⟩

/-- What is left of a target, a blank and the version hold a third token. -/
theorem exists_scanString_left {token version : List UInt8} (htoken : IsToken token)
    (hversion : IsToken version) (n : ℕ) :
    ∃ scanned left, scanString 63 (token.drop n ++ 32 :: version) = some (scanned, left) := by
  rcases Nat.lt_or_ge n token.length with hlt | hge
  · exact exists_scanString (by decide) (isToken_drop htoken hlt) (endsToken_cons_blank _)
  · rw [List.drop_of_length_le hge, List.nil_append, scanString_cons (by decide)]
    rw [← List.append_nil version]
    exact exists_scanString (by decide) hversion nofun

/-- **What `sscanf` makes of the line.** -/
theorem sscanf_line (line : RequestLine) : ∃ version,
    sscanfRequestLine line.bytes =
      some (line.method.take 31, line.scanned.take 1023, version) := by
  have hmethod := scanString_token (by decide : 0 < 31) line.method_token
    (endsToken_cons_blank (line.target ++ 32 :: line.version))
  by_cases hfits : line.method.length ≤ 31
  · have htarget := scanString_token (by decide : 0 < 1023) line.target_token
      (endsToken_cons_blank line.version)
    obtain ⟨version, left, hversion⟩ :=
      exists_scanString_left line.target_token line.version_token 1023
    refine ⟨version, ?_⟩
    rw [List.drop_of_length_le hfits, List.nil_append] at hmethod
    rw [sscanfRequestLine, RequestLine.bytes, hmethod, RequestLine.scanned, if_pos hfits]
    simp only [bind, Option.bind, pure]
    rw [scanString_cons (by decide), htarget]
    dsimp only
    rw [hversion]
  · have hlong := Nat.lt_of_not_le hfits
    have hrest := isToken_drop line.method_token hlong
    have htarget := scanString_token (by decide : 0 < 1023) hrest
      (endsToken_cons_blank (line.target ++ 32 :: line.version))
    have hversion : ∃ version left, scanString 63 ((line.method.drop 31).drop 1023 ++
        32 :: (line.target ++ 32 :: line.version)) = some (version, left) := by
      rcases Nat.lt_or_ge 1023 (line.method.drop 31).length with hlt | hge
      · exact exists_scanString (by decide) (isToken_drop hrest hlt) (endsToken_cons_blank _)
      · rw [List.drop_of_length_le hge, List.nil_append, scanString_cons (by decide)]
        exact exists_scanString (by decide) line.target_token (endsToken_cons_blank _)
    obtain ⟨version, left, hversion⟩ := hversion
    refine ⟨version, ?_⟩
    rw [sscanfRequestLine, RequestLine.bytes, hmethod, RequestLine.scanned, if_neg hfits]
    simp only [bind, Option.bind, pure]
    rw [htarget]
    dsimp only
    rw [hversion]

/-! ## The line in the buffer -/

theorem length_bytes (line : RequestLine) :
    line.bytes.length = line.method.length + line.target.length + line.version.length + 2 := by
  simp only [RequestLine.bytes, List.length_append, List.length_cons]
  omega

/-- There is no white space in it but the two blanks. -/
theorem cr_notMem_bytes (line : RequestLine) : 13 ∉ line.bytes := by
  have htoken : ∀ {token : List UInt8}, IsToken token → 13 ∉ token := by
    intro token h hcr
    exact absurd (h.no_space 13 hcr) (by decide)
  simp only [RequestLine.bytes, List.mem_append, List.mem_cons, not_or]
  exact ⟨htoken line.method_token, by decide, htoken line.target_token, by decide,
    htoken line.version_token⟩

/-- The cut of a part is empty when the cut of the whole is. -/
theorem cutTarget_take_eq_nil {target : List UInt8} (h : target ≠ []) {n : ℕ} (hn : 0 < n) :
    cutTarget (target.take n) = [] ↔ cutTarget target = [] := by
  cases target with
  | nil => exact absurd rfl h
  | cons b target =>
      obtain ⟨n, rfl⟩ := Nat.exists_eq_add_of_lt hn
      rw [Nat.zero_add, List.take_succ_cons, cutTarget, cutTarget]
      cases hb : (b != 63 && b != 35) with
      | true =>
          simp only [List.takeWhile_cons, hb]
          exact iff_of_false (List.cons_ne_nil _ _) (List.cons_ne_nil _ _)
      | false => simp only [List.takeWhile_cons, hb, Bool.false_eq_true, if_false]

theorem scanned_ne_nil (line : RequestLine) : line.scanned ≠ [] := by
  unfold RequestLine.scanned
  split
  · exact line.target_token.ne_nil
  · rename_i hlong
    rw [ne_eq, List.drop_eq_nil_iff]
    exact hlong

/-- The path of a target of at most 1023 bytes. -/
theorem normalizeRequestTarget_iff {rawTarget path : List UInt8} {outPathCapacity : ℤ}
    (hlength : rawTarget.length < outPathCapacity) :
    normalizeRequestTarget rawTarget outPathCapacity = .ok path ↔
      path = cutTarget rawTarget ∧ cutTarget rawTarget ≠ [] := by
  have hle : (cutTarget rawTarget).length ≤ rawTarget.length := (List.takeWhile_prefix _).length_le
  have hpos : ¬ outPathCapacity ≤ 0 := by omega
  unfold normalizeRequestTarget
  rw [if_neg hpos]
  show (if (cutTarget rawTarget).length ≤ 0 ∨ ((cutTarget rawTarget).length : ℤ) ≥ outPathCapacity then
    _ else Except.ok (cutTarget rawTarget)) = _ ↔ _
  rw [← List.length_pos_iff]
  split
  · rename_i hbad
    exact iff_of_false (fun h => by cases h) fun h => by omega
  · rename_i hgood
    rw [Except.ok.injEq]
    exact ⟨fun h => ⟨h.symm, by omega⟩, fun h => h.1.symm⟩

/-- **What is made of the line** when it is the first in the buffer. -/
theorem parseRequestLine_line {line : RequestLine} {rest : List UInt8} {methodBytes pathBytes : ℤ}
    (hzero : 0 ∉ line.bytes) (hmethod : 32 ≤ methodBytes) (hpath : 1024 ≤ pathBytes)
    (method path : List UInt8) :
    parseRequestLine (line.bytes ++ (ascii "\r\n" ++ rest)) methodBytes pathBytes =
        .ok (method, path) ↔
      line.bytes.length < 2048 ∧ method = line.method.take 31 ∧
        path = cutTarget (line.scanned.take 1023) ∧ cutTarget line.scanned ≠ [] := by
  have hstring : cString (line.bytes ++ (ascii "\r\n" ++ rest)) =
      line.bytes ++ (ascii "\r\n" ++ cString rest) := by
    rw [cString_append hzero, cString_append (by decide)]
  have hfind : strstr (line.bytes ++ (ascii "\r\n" ++ rest)) (ascii "\r\n") =
      some line.bytes.length := by
    rw [strstr, hstring, ascii_crlf, findSub_append_of_not_mem (cr_notMem_bytes line),
      findSub_append_self _ _ (by decide)]
    rfl
  have hscanned : ((line.scanned.take 1023).length : ℤ) < pathBytes := by
    rw [List.length_take]
    omega
  obtain ⟨version, hsscanf⟩ := sscanf_line line
  have hpositive : 0 < line.bytes.length := by
    rw [length_bytes]
    omega
  rw [parseRequestLine, hfind]
  dsimp only
  rw [List.take_left, hsscanf]
  dsimp only
  split
  · rename_i hlong
    exact iff_of_false (fun h => by cases h) fun h => by omega
  · rename_i hlong
    have hshort : line.bytes.length < 2048 := by omega
    have htake : ¬ ((line.method.take 31).length : ℤ) ≥ methodBytes := by
      rw [List.length_take]
      omega
    rw [if_neg htake, and_iff_right hshort, ne_eq,
      ← cutTarget_take_eq_nil (scanned_ne_nil line) (by decide : 0 < 1023), ← ne_eq,
      ← normalizeRequestTarget_iff hscanned]
    cases normalizeRequestTarget (line.scanned.take 1023) pathBytes with
    | error err => exact iff_of_false (fun h => by cases h) fun h => by cases h.2
    | ok found =>
        simp only [Except.map, Except.ok.injEq, Prod.mk.injEq]
        exact ⟨fun h => ⟨h.1.symm, h.2⟩, fun h => ⟨h.1.symm, h.2⟩⟩

/-- The line does not reach behind the blank line. -/
theorem length_le_of_headersEnd {line : RequestLine} {stream : List UInt8} {limits : Limits} {i : ℕ}
    (hpre : line.bytes ++ ascii "\r\n" <+: stream) (hend : headersEnd limits stream = some i) :
    line.bytes.length ≤ i := by
  by_contra hlt
  have hcr : (cString stream)[i]? = some 13 := by
    rw [headersEnd, strstr, cString_take] at hend
    obtain ⟨more, hmore⟩ := prefix_of_findSub (findSub_of_take hend).1
    rw [← List.head?_drop, ← hmore]
    rfl
  have hstring : cString stream <+: stream := List.takeWhile_prefix _
  have hat : stream[i]? = some 13 := by
    obtain ⟨more, hmore⟩ := hstring
    have hi := (List.getElem?_eq_some_iff.1 hcr).1
    rw [← hmore, List.getElem?_append_left hi, hcr]
  obtain ⟨more, hmore⟩ := hpre
  rw [← hmore, List.append_assoc, List.getElem?_append_left (Nat.lt_of_not_le hlt)] at hat
  exact cr_notMem_bytes line (List.mem_of_getElem? hat)

/-- A buffer that holds the header block begins with the line. -/
theorem take_eq_line {line : RequestLine} {stream : List UInt8} {limits : Limits} {i n : ℕ}
    (hpre : line.bytes ++ ascii "\r\n" <+: stream) (hend : headersEnd limits stream = some i)
    (hn : i + 4 ≤ n) :
    ∃ rest, stream.take n = line.bytes ++ (ascii "\r\n" ++ rest) := by
  have hle := length_le_of_headersEnd hpre hend
  have hlen : (ascii "\r\n").length = 2 := by decide
  have htake : line.bytes ++ ascii "\r\n" <+: stream.take n := by
    rw [List.prefix_take_iff, List.length_append, hlen]
    exact ⟨hpre, by omega⟩
  obtain ⟨rest, hrest⟩ := htake
  exact ⟨rest, by rw [← hrest, List.append_assoc]⟩

/-! ## Which lines are accepted -/

/-- The lines with which no request is accepted, although they could be scanned: too long for
    `request_line` or for the buffer, with a NUL byte, without a path, or a line that the lookup takes
    for a `Content-Length` that is too long; and for a `POST`, when there is no room for its
    `Content-Length` or none is small enough. -/
def Refused (limits : Limits) (line : RequestLine) : Prop :=
  2048 ≤ line.bytes.length ∨ limits.maxHeaderBytes < line.bytes.length + 4 ∨ 0 ∈ line.bytes ∨
    cutTarget line.scanned = [] ∨
    (isHeaderLine "Content-Length" line.bytes = true ∧
      64 ≤ (headerValue "Content-Length" line.bytes).length) ∨
    (strcaseeq line.method (ascii "POST") = true ∧
      (limits.maxHeaderBytes < line.bytes.length + 22 ∨ limits.maxRequestBytes < 0))

/-- A method is `POST` when what is scanned of it is. -/
theorem strcaseeq_take_post (method : List UInt8) :
    strcaseeq (method.take 31) (ascii "POST") = strcaseeq method (ascii "POST") := by
  rcases Nat.le_total method.length 31 with hle | hle
  · rw [List.take_of_length_le hle]
  · have hlength : ∀ bytes : List UInt8, bytes.length ≠ 4 → strcaseeq bytes (ascii "POST") = false := by
      intro bytes hne
      rw [strcaseeq, beq_eq_false_iff_ne]
      intro heq
      have hlen := congrArg List.length heq
      rw [List.length_map, List.length_map] at hlen
      exact hne hlen
    rw [hlength _ (by rw [List.length_take]; omega), hlength _ (by omega)]

/-- The line of a `POST` is no `Content-Length`. -/
theorem not_isHeaderLine_of_post {line : RequestLine}
    (hpost : strcaseeq line.method (ascii "POST") = true) :
    ¬ isHeaderLine "Content-Length" line.bytes = true := by
  intro hheader
  rw [isHeaderLine, Bool.and_eq_true, Bool.and_eq_true] at hheader
  have hname := hheader.1.2
  rw [strcaseeq, beq_iff_eq] at hname hpost
  cases hmethod : line.method with
  | nil => exact absurd hmethod line.method_token.ne_nil
  | cons b method =>
      rw [hmethod] at hpost
      rw [RequestLine.bytes, hmethod] at hname
      have hp := (List.cons.inj hpost).1
      have hc := (List.cons.inj hname).1
      exact absurd (hp.symm.trans hc) (by decide)

/-- The first line in the buffer is the request line. -/
theorem headerLines_line {line : RequestLine} {bytes rest : List UInt8} (hzero : 0 ∉ line.bytes)
    (hbytes : bytes = line.bytes ++ (ascii "\r\n" ++ rest)) :
    ∃ behind, headerLines bytes = line.bytes :: behind := by
  have hstring : cString bytes = line.bytes ++ (13 :: [10] ++ cString rest) := by
    rw [hbytes, cString_append hzero, ascii_crlf, cString_append (by decide)]
  exact ⟨_, by rw [headerLines, hstring, ascii_crlf, pieces_append (cr_notMem_bytes line)]⟩

/-- A `POST` needs room for the shortest `Content-Length` line. -/
theorem post_needs_room {line : RequestLine} {stream field rest : List UInt8} {limits : Limits}
    {i n : ℕ} (hzero : 0 ∉ line.bytes) (hpost : strcaseeq line.method (ascii "POST") = true)
    (hend : headersEnd limits stream = some i) (hn : i + 4 ≤ n)
    (hbytes : stream.take n = line.bytes ++ (ascii "\r\n" ++ rest))
    (hfield : findHeaderLine (stream.take n) "Content-Length" = some field) :
    line.bytes.length + 22 ≤ n := by
  have hlen : (ascii "\r\n").length = 2 := by decide
  have hheader : isHeaderLine "Content-Length" field = true := List.find?_some hfield
  have hfieldLength : 16 ≤ field.length := by
    rw [isHeaderLine, Bool.and_eq_true, Bool.and_eq_true, decide_eq_true_eq] at hheader
    exact hheader.1.1
  obtain ⟨behind, hfirst⟩ := headerLines_line hzero hbytes
  have hline : line.bytes ≠ [] := fun hnil => by
    have hlength := congrArg List.length hnil
    rw [length_bytes, List.length_nil] at hlength
    omega
  -- the request line, the field and the blank line are three of the lines
  have hnodup : [line.bytes, field, []].Nodup := by
    have hne : line.bytes ≠ field := fun heq => not_isHeaderLine_of_post hpost (heq ▸ hheader)
    have hfieldNe : field ≠ [] := fun hnil => by
      rw [hnil, List.length_nil] at hfieldLength
      omega
    simp [hne, hline, hfieldNe]
  have hthree : [line.bytes, field, []] ⊆ headerLines (stream.take n) := by
    intro piece hpiece
    rcases List.mem_cons.1 hpiece with rfl | hpiece
    · rw [hfirst]
      exact List.mem_cons_self
    · rcases List.mem_cons.1 hpiece with rfl | hpiece
      · exact List.mem_of_find?_eq_some hfield
      · rw [List.mem_singleton.1 hpiece, headerLines_take hend hn]
        exact List.mem_append_right _ List.mem_cons_self
  have hsum := sum_le_of_subset_pieces hnodup hthree
  have hshort : (cString (stream.take n)).length ≤ n :=
    Nat.le_trans (List.takeWhile_prefix _).length_le (by rw [List.length_take]; omega)
  simp only [List.map_cons, List.map_nil, List.sum_cons, List.sum_nil, List.length_nil, hlen] at hsum
  omega

/-- What an accepted request says of its line. -/
theorem Accepted.line {line : RequestLine} {limits : Limits} {alloc : Allocations}
    {methodBytes pathBytes : ℤ} {stream : List UInt8} {request : Request} {i n : ℕ}
    (h : Accepted limits alloc methodBytes pathBytes stream request i n)
    (hpre : line.bytes ++ ascii "\r\n" <+: stream) (hmethod : 32 ≤ methodBytes)
    (hpath : 1024 ≤ pathBytes) :
    ¬ Refused limits line ∧ request.method = line.method.take 31 ∧
      request.path = cutTarget (line.scanned.take 1023) := by
  have hle := length_le_of_headersEnd hpre h.blockEnd
  have hblank := h.blank
  have hcapacity := h.capacity
  obtain ⟨rest, hbytes⟩ := take_eq_line hpre h.blockEnd (Nat.le_refl _)
  obtain ⟨rest', hbuffer⟩ := take_eq_line hpre h.blockEnd h.blank
  have hzero : 0 ∉ line.bytes := by
    have hnone := zero_notMem_of_headersEnd h.blockEnd
    rw [hbytes, List.mem_append, not_or] at hnone
    exact hnone.1
  have hparse := h.requestLine
  rw [hbytes] at hparse
  obtain ⟨hshort, hm, hp, hne⟩ := (parseRequestLine_line hzero hmethod hpath _ _).1 hparse
  refine ⟨?_, hm, hp⟩
  rintro (hlong | hlong | hnul | hempty | ⟨hheader, hlong⟩ | ⟨hpost, hroom⟩)
  · omega
  · omega
  · exact hzero hnul
  · exact hne hempty
  · obtain ⟨behind, hfirst⟩ := headerLines_line hzero hbuffer
    have hfield : findHeaderLine (stream.take n) "Content-Length" = some line.bytes := by
      rw [findHeaderLine, hfirst, List.find?_cons_of_pos hheader]
    have hfinished := h.finished
    rw [hfield, headerLookup, if_pos (by omega)] at hfinished
    cases hfinished
  · have hrequest : strcaseeq request.method (ascii "POST") = true := by
      rw [hm, strcaseeq_take_post]
      exact hpost
    obtain ⟨field, hfield, -, hnonneg, hmax, -, -⟩ := h.post hrequest
    have hneeds := post_needs_room hzero hpost h.blockEnd h.blank hbuffer hfield
    omega

/-- The lines of a request with the line and no more than it needs. -/
def shortestLines (line : RequestLine) : List (List UInt8) :=
  if strcaseeq line.method (ascii "POST") then [line.bytes, ascii "Content-Length:0"]
  else [line.bytes]

/-- **A line that is not refused is accepted**: there is a request with it. -/
theorem exists_accepted {limits : Limits} {line : RequestLine} (h : ¬ Refused limits line)
    {methodBytes pathBytes : ℤ} (hmethod : 32 ≤ methodBytes) (hpath : 1024 ≤ pathBytes) :
    ∃ stream request i, line.bytes ++ ascii "\r\n" <+: stream ∧
      headersEnd limits stream = some i ∧
      ∀ n, i + 4 ≤ n → n ≤ limits.maxHeaderBytes →
        Accepted limits ⟨true, true⟩ methodBytes pathBytes stream request i n := by
  simp only [Refused, not_or, not_and, Nat.not_le, Nat.not_lt, Int.not_lt] at h
  obtain ⟨hshort, hroom, hzero, hne, hvalue, hpostRoom⟩ := h
  have hline : line.bytes ≠ [] := fun hnil => by
    have hlength := congrArg List.length hnil
    rw [length_bytes, List.length_nil] at hlength
    omega
  have hlen : (ascii "\r\n").length = 2 := by decide
  generalize hstream : (shortestLines line).flatMap (· ++ ascii "\r\n") ++ ascii "\r\n" = stream
  have hlines : shortestLines line ≠ [] ∧
      (∀ l ∈ shortestLines line, l ≠ [] ∧ 13 ∉ l ∧ 0 ∉ l) ∧
      line.bytes ++ ascii "\r\n" <+: stream ∧ stream.length ≤ limits.maxHeaderBytes := by
    have hfirst : line.bytes ≠ [] ∧ 13 ∉ line.bytes ∧ 0 ∉ line.bytes :=
      ⟨hline, cr_notMem_bytes line, hzero⟩
    rw [← hstream, shortestLines]
    split
    · rename_i hpost
      have hfield : (ascii "Content-Length:0").length = 16 := by decide
      have hpostRoom := (hpostRoom hpost).1
      refine ⟨List.cons_ne_nil _ _, ?_, ?_, ?_⟩
      · intro l hl
        rcases List.mem_cons.1 hl with rfl | hl
        · exact hfirst
        · rw [List.mem_singleton.1 hl]
          decide
      · rw [List.flatMap_cons, List.append_assoc]
        exact List.prefix_append _ _
      · simp only [List.flatMap_cons, List.flatMap_nil, List.length_append, List.length_nil, hlen,
          hfield]
        omega
    · refine ⟨List.cons_ne_nil _ _, ?_, ?_, ?_⟩
      · intro l hl
        rw [List.mem_singleton.1 hl]
        exact hfirst
      · rw [List.flatMap_cons, List.append_assoc]
        exact List.prefix_append _ _
      · simp only [List.flatMap_cons, List.flatMap_nil, List.length_append, List.length_nil, hlen]
        omega
  obtain ⟨hsome, hall, hpre, hfits⟩ := hlines
  obtain ⟨i, hend, hlength, hheaders⟩ := headersEnd_lines hsome hall hstream.symm hfits
  refine ⟨stream, ⟨line.method.take 31, cutTarget (line.scanned.take 1023), none, 0⟩, i, hpre, hend,
    fun n hn hcapacity => ⟨rfl, hend, hn, hcapacity, ?_, ?_⟩⟩
  · obtain ⟨rest, hbytes⟩ := take_eq_line hpre hend (Nat.le_refl _)
    rw [hbytes]
    exact (parseRequestLine_line hzero hmethod hpath _ _).2 ⟨hshort, rfl, rfl, hne⟩
  · cases hpost : strcaseeq line.method (ascii "POST") with
    | true =>
        have hmax := (hpostRoom hpost).2
        have hfield : findHeaderLine (stream.take n) "Content-Length" =
            some (ascii "Content-Length:0") := by
          rw [findHeaderLine, hheaders n hn, shortestLines, if_pos hpost, List.cons_append,
            List.find?_cons_of_neg (not_isHeaderLine_of_post hpost)]
          decide +kernel
        have hlookup : headerLookup "Content-Length" 64 (some (ascii "Content-Length:0")) =
            .ok (some (ascii "0")) := by decide +kernel
        have hatoi : atoi (ascii "0") = 0 := by decide +kernel
        rw [hfield, hlookup, finishRequest_post (by rw [strcaseeq_take_post]; exact hpost), readPost]
        dsimp only
        rw [hatoi, if_neg (by omega), if_neg (by decide)]
    | false =>
        have hfield : findHeaderLine (stream.take n) "Content-Length" =
            [line.bytes, []].find? (isHeaderLine "Content-Length") := by
          rw [findHeaderLine, hheaders n hn, shortestLines, hpost]
          rfl
        have hlookup : ∃ str, headerLookup "Content-Length" 64
            (findHeaderLine (stream.take n) "Content-Length") = .ok str := by
          refine headerLookup_of_short fun l hl => ?_
          rw [hfield] at hl
          have hheader := List.find?_some hl
          rcases List.mem_cons.1 (List.mem_of_find?_eq_some hl) with rfl | hl
          · exact hvalue hheader
          · rw [List.mem_singleton.1 hl] at hheader
            exact absurd hheader (by decide)
        obtain ⟨str, hlookup⟩ := hlookup
        rw [hlookup, finishRequest_other (by rw [strcaseeq_take_post]; exact hpost)]

/-! ## The result -/

/-- Whatever the rest of the request is and however it arrives: if it is accepted, its method is the
    method and its path the target up to a query or a fragment, and if the line does not fit, it is
    not accepted. -/
def ParsedWhole (limits : Limits) (line : RequestLine) : Prop :=
  ∀ (alloc : Allocations) (clientFd methodBytes pathBytes : ℤ) (events : List RecvEvent),
    32 ≤ methodBytes → 1024 ≤ pathBytes → line.bytes ++ ascii "\r\n" <+: arrived events →
    (∀ request, readHttpRequest limits alloc clientFd methodBytes pathBytes events = .ok request →
      request.method = line.method ∧ request.path = cutTarget line.target) ∧
    (¬ line.Fits → ∃ dterr,
      readHttpRequest limits alloc clientFd methodBytes pathBytes events = .error dterr)

/-- **The request line, exactly.** It is parsed whole or not at all if and only if it fits, or is
    refused for another reason. -/
theorem request_line_exact (limits : Limits) (line : RequestLine) :
    ParsedWhole limits line ↔ line.Fits ∨ Refused limits line := by
  constructor
  · intro h
    by_contra hnot
    rw [not_or] at hnot
    obtain ⟨hfits, hrefused⟩ := hnot
    obtain ⟨stream, request, i, hpre, hend, haccepted⟩ :=
      exists_accepted hrefused (by decide : (32 : ℤ) ≤ 32) (by decide : (1024 : ℤ) ≤ 1024)
    have hne : stream ≠ [] := by
      rintro rfl
      have hnil := List.prefix_nil.1 hpre
      rw [List.append_eq_nil_iff] at hnil
      exact absurd hnil.2 (by decide)
    have hcut : Cut [stream] stream := cut_singleton hne
    obtain ⟨n, hn, hcapacity, hread⟩ := readHttpRequest_cut limits ⟨true, true⟩ 0 32 1024 hcut
    rw [outcome_of_accepted (haccepted n (hn i hend) hcapacity)] at hread
    obtain ⟨dterr, herror⟩ := (h ⟨true, true⟩ 0 32 1024 ([stream].map .segment) (by decide) (by decide)
      (by rw [arrived_segments hcut]; exact hpre)).2 hfits
    rw [hread] at herror
    cases herror
  · intro h alloc clientFd methodBytes pathBytes events hmethod hpath hpre
    constructor
    · intro request hok
      obtain ⟨i, n, haccepted⟩ := readHttpRequest_ok hok
      obtain ⟨hrefused, hm, hp⟩ := haccepted.line hpre hmethod hpath
      obtain ⟨hmethodFits, htargetFits⟩ := h.resolve_right hrefused
      rw [hm, hp, RequestLine.scanned, if_pos hmethodFits, List.take_of_length_le hmethodFits,
        List.take_of_length_le htargetFits]
      exact ⟨rfl, rfl⟩
    · intro hfits
      have hrefused := h.resolve_left hfits
      cases hread : readHttpRequest limits alloc clientFd methodBytes pathBytes events with
      | error dterr => exact ⟨dterr, rfl⟩
      | ok request =>
          obtain ⟨i, n, haccepted⟩ := readHttpRequest_ok hread
          exact absurd hrefused (haccepted.line hpre hmethod hpath).1

/-- A method of 32 letters. -/
def longMethod : RequestLine where
  method := .replicate 32 71
  target := ascii "/"
  version := ascii "HTTP/1.1"
  method_token := ⟨by decide, by decide +kernel⟩
  target_token := ⟨by decide, by decide +kernel⟩
  version_token := ⟨by decide, by decide +kernel⟩

/-- It is accepted with a method of 31 letters, and its last letter for the path. -/
theorem long_method_split : ¬ ∀ line : RequestLine, ParsedWhole ⟨8192, 65536⟩ line := by
  intro h
  have hread : readHttpRequest ⟨8192, 65536⟩ ⟨true, true⟩ 5 32 1024
      [.segment (longMethod.bytes ++ ascii "\r\n\r\n")] =
        .ok ⟨.replicate 31 71, [71], none, 0⟩ := by decide +kernel
  have hmethod := ((h longMethod ⟨true, true⟩ 5 32 1024 _ (by decide) (by decide)
    (by decide +kernel)).1 _ hread).1
  exact absurd hmethod (by decide)

end DthttpdLinuxSocket
