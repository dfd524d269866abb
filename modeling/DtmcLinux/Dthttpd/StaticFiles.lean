import DtmcLinux.Dthttpd.Request
import DtmcLinux.Dthttpd.Response
import DtmcLinux.Foundation.LexicalPath

set_option autoImplicit false

/-! # Serving static files

`_try_serve_static_file` of `dthttpd_linux_socket.c` puts the request path behind one root after the
other, until it finds a file that exists. What the calls on the files return is an argument; the
names of the files it tries to open are in the result. None of them leads out of its root
(`static_paths_confined`). -/

namespace DthttpdLinuxSocket

open Posix Http LexicalPath

/-- `PATH_MAX` -/
def PATH_MAX : ℕ := 4096

/-- `INT32_MAX` -/
def INT32_MAX : ℤ := 2147483647

/-- The bytes of a C string as the text of a message. -/
def textOf (bytes : List UInt8) : String := .ofList (bytes.map fun b => .ofNat b.toNat)

/-! ## Paths and types -/

/-- `_is_safe_url_path`, for a path that is not `NULL`. -/
def isSafeUrlPath (path : List UInt8) : Bool :=
  (cString path).head? == some 47 && (strstr path (ascii "..")).isNone && !(cString path).contains 92

/-- `_guess_mime_type`. -/
def guessMimeType (path : List UInt8) : List UInt8 :=
  if 46 ∈ path then
    let ext := path.rtakeWhile (· ≠ 46)
    let is := fun name => strcaseeq ext (ascii name)
    if is "html" || is "htm" then ascii "text/html; charset=utf-8"
    else if is "css" then ascii "text/css; charset=utf-8"
    else if is "js" then ascii "application/javascript; charset=utf-8"
    else if is "json" then ascii "application/json; charset=utf-8"
    else if is "txt" then ascii "text/plain; charset=utf-8"
    else if is "svg" then ascii "image/svg+xml"
    else if is "png" then ascii "image/png"
    else if is "jpg" || is "jpeg" then ascii "image/jpeg"
    else if is "gif" then ascii "image/gif"
    else if is "ico" then ascii "image/x-icon"
    else ascii "application/octet-stream"
  else ascii "application/octet-stream"

/-! ## Files -/

/-- What the calls on a file return: whether `fopen`, the two `fseek` and `malloc` succeed, the
    position `ftell` gives, and the bytes that `fread` finds. -/
structure FileCalls where
  fopen : Bool
  fseekEnd : Bool
  ftell : ℤ
  fseekSet : Bool
  malloc : Bool
  fread : List UInt8

/-- `_read_entire_file`: the bytes, `NULL` for an empty file, and the size. -/
def readEntireFile (fullPath : List UInt8) (calls : FileCalls) :
    Except Dterr (Option (List UInt8) × Int32) :=
  if !calls.fopen then .error (.new .notfound s!"file not found: {textOf fullPath}")
  else if !calls.fseekEnd then .error (.new .io s!"fseek end failed for {textOf fullPath}")
  else if calls.ftell < 0 ∨ calls.ftell > INT32_MAX then
    .error (.new .range s!"invalid file size for {textOf fullPath}")
  else if !calls.fseekSet then .error (.new .io s!"fseek set failed for {textOf fullPath}")
  else if calls.ftell > 0 then
    let bytes := calls.fread.take calls.ftell.toNat
    if !calls.malloc then .error (.new .nomem "malloc failed for file bytes")
    else if bytes.length ≠ calls.ftell then
      .error (.new .io s!"fread failed for {textOf fullPath}")
    else .ok (some bytes, Int32.ofInt calls.ftell)
  else .ok (none, Int32.ofInt calls.ftell)

/-- What `_try_serve_static_file` does: the names it passes to `_read_entire_file`, what it sends
    and returns, and `*was_served`. -/
structure Served where
  opened : List (List UInt8)
  sent : SendOutcome
  wasServed : Bool

/-- An answer, after which the file counts as served if it could be sent. -/
def Served.answer (sent : SendOutcome) : Served :=
  { opened := [], sent := sent, wasServed := sent.ret = some none }

/-- An error. -/
def Served.error (dterr : Dterr) (results : List SendResult) : Served :=
  { opened := [], sent := ⟨[], results, some (some dterr)⟩, wasServed := false }

/-- A file was tried before. -/
def Served.after (name : List UInt8) (served : Served) : Served :=
  { served with opened := name :: served.opened }

/-- The loop over the roots, from the index `i` on; `files i` are the calls for the root `i`. -/
def serveRoots (relative : List UInt8) (files : ℕ → FileCalls) (results : List SendResult) :
    ℕ → List (Option (List UInt8)) → Served
  | _, [] => .answer (sendTextResponse 404 "Not Found" results)
  | i, none :: roots => serveRoots relative files results (i + 1) roots
  | i, some root :: roots =>
    let candidate := cString root ++ relative
    if candidate.length ≥ PATH_MAX then
      .error (.new .overflow "static path too long") results
    else
      match readEntireFile candidate (files i) with
      | .ok (bytes, size) =>
        (Served.answer (sendResponse 200 (some (guessMimeType candidate)) bytes size true
          results)).after candidate
      | .error dterr =>
        if dterr.errorCode = some .notfound then
          (serveRoots relative files results (i + 1) roots).after candidate
        else (Served.error dterr results).after candidate

/-- The path behind the root. -/
def relativePath (requestPath : List UInt8) : List UInt8 :=
  if cString requestPath = ascii "/" then ascii "/index.html" else cString requestPath

/-- `_try_serve_static_file`. -/
def tryServeStaticFile (staticDirectories : List (Option (List UInt8))) (requestPath : List UInt8)
    (files : ℕ → FileCalls) (results : List SendResult) : Served :=
  if !isSafeUrlPath requestPath then .answer (sendTextResponse 403 "Forbidden" results)
  else serveRoots (relativePath requestPath) files results 0 staticDirectories

/-! ## Reading a file -/

/-- The file that was opened can be read: it can be measured, it is not too large, and its bytes are
    there. -/
structure FileThere (calls : FileCalls) : Prop where
  fseekEnd : calls.fseekEnd = true
  nonneg : 0 ≤ calls.ftell
  small : calls.ftell ≤ INT32_MAX
  fseekSet : calls.fseekSet = true
  bytes : 0 < calls.ftell → calls.malloc = true ∧ calls.ftell ≤ calls.fread.length

/-- A file that cannot be opened is not found; no other error says so. -/
theorem readEntireFile_notfound (fullPath : List UInt8) {calls : FileCalls}
    (hfopen : calls.fopen = false) :
    ∃ dterr, readEntireFile fullPath calls = .error dterr ∧ dterr.errorCode = some .notfound := by
  rw [readEntireFile, hfopen]
  exact ⟨_, rfl, rfl⟩

theorem readEntireFile_ok (fullPath : List UInt8) {calls : FileCalls} (hfopen : calls.fopen = true)
    (h : FileThere calls) :
    ∃ bytes size, readEntireFile fullPath calls = .ok (bytes, size) ∧ 0 ≤ size ∧
      BodyThere bytes size := by
  have hnonneg := h.nonneg
  have hsmall := h.small
  rw [INT32_MAX] at hsmall
  have hsize : (Int32.ofInt calls.ftell).toInt = calls.ftell :=
    Int32.toInt_ofInt_of_le (by omega) (by omega)
  have hle : 0 ≤ Int32.ofInt calls.ftell := by
    rw [Int32.le_iff_toInt_le, hsize, Int32.toInt_zero]
    exact hnonneg
  rw [readEntireFile, hfopen, h.fseekEnd, h.fseekSet]
  simp only [Bool.not_true, Bool.false_eq_true, if_false]
  rw [if_neg (by rw [INT32_MAX]; omega)]
  by_cases hpos : calls.ftell > 0
  · obtain ⟨hmalloc, hbytes⟩ := h.bytes hpos
    have hlength : (calls.fread.take calls.ftell.toNat).length = calls.ftell.toNat := by
      rw [List.length_take]
      omega
    rw [if_pos hpos, hmalloc]
    simp only [Bool.not_true, Bool.false_eq_true, if_false]
    rw [if_neg (by rw [hlength]; omega)]
    refine ⟨_, _, rfl, hle, fun _ => ⟨_, rfl, ?_⟩⟩
    rw [hsize, hlength]
  · rw [if_neg hpos]
    refine ⟨_, _, rfl, hle, fun hlt => ?_⟩
    rw [Int32.lt_iff_toInt_lt, hsize, Int32.toInt_zero] at hlt
    exact absurd hlt hpos

theorem readEntireFile_error (fullPath : List UInt8) {calls : FileCalls} (hfopen : calls.fopen = true)
    (h : ¬ FileThere calls) :
    ∃ dterr, readEntireFile fullPath calls = .error dterr ∧ dterr.errorCode ≠ some .notfound := by
  unfold readEntireFile
  rw [hfopen]
  simp only [Bool.not_true, Bool.false_eq_true, if_false]
  split
  · exact ⟨_, rfl, by simp [Dterr.errorCode]⟩
  · rename_i hfseekEnd
    split
    · exact ⟨_, rfl, by simp [Dterr.errorCode]⟩
    · rename_i hrange
      split
      · exact ⟨_, rfl, by simp [Dterr.errorCode]⟩
      · rename_i hfseekSet
        have hthere : (0 < calls.ftell → calls.malloc = true ∧ calls.ftell ≤ calls.fread.length) →
            FileThere calls := fun hbytes =>
          ⟨by simpa using hfseekEnd, by omega, by omega, by simpa using hfseekSet, hbytes⟩
        split
        · rename_i hpos
          split
          · exact ⟨_, rfl, by simp [Dterr.errorCode]⟩
          · rename_i hmalloc
            split
            · exact ⟨_, rfl, by simp [Dterr.errorCode]⟩
            · rename_i hlength
              refine absurd (hthere fun _ => ⟨by simpa using hmalloc, ?_⟩) h
              rw [List.length_take] at hlength
              omega
        · rename_i hpos
          exact absurd (hthere fun hlt => absurd hlt hpos) h

/-- Short, and without a carriage return. -/
def IsShortType (contentType : List UInt8) : Prop :=
  (contentTypeText (some contentType)).length ≤ 40 ∧ 13 ∉ contentTypeText (some contentType)

instance (contentType : List UInt8) : Decidable (IsShortType contentType) :=
  inferInstanceAs (Decidable (_ ∧ _))

theorem guessMimeType_text (path : List UInt8) : IsShortType (guessMimeType path) := by
  unfold guessMimeType
  refine iteInduction (motive := IsShortType) (fun _ => ?_) fun _ => by decide +kernel
  dsimp only
  -- one case for each extension
  repeat refine iteInduction (motive := IsShortType) (fun _ => by decide +kernel) fun _ => ?_
  decide +kernel

/-! ## Answers that are texts -/

/-- A text response is sent whole when the sends succeed. -/
theorem sendTextResponse_succeeds {statusCode : Int32} {text : String} {results : List SendResult}
    (hfits : HeaderFits statusCode (some (ascii "text/plain; charset=utf-8"))
      (Int32.ofNat text.length) true)
    (hlength : (ascii text).length = (Int32.ofNat text.length).toInt.toNat ∧ text.length < 1024)
    (hresults : SendsSucceed results 2048) :
    ∃ bytes rest r, sendTextResponse statusCode text results = ⟨bytes, rest, some none⟩ ∧
      IsResponse bytes r ∧ r.status = statusCode.toInt := by
  have hbody : BodyThere (some (ascii text)) (Int32.ofNat text.length) :=
    fun _ => ⟨_, rfl, Nat.le_of_eq hlength.1.symm⟩
  have hascii : (ascii text).length = text.length := by rw [ascii, List.length_map]; rfl
  have hbytes : (responseBytes statusCode (some (ascii "text/plain; charset=utf-8"))
      (some (ascii text)) (Int32.ofNat text.length) true).length ≤ 2048 := by
    have hheader := hfits.2
    rw [responseBytes, List.length_append, length_bodyBytes hbody]
    omega
  obtain ⟨rest, hsent⟩ := sendResponse_succeeds hfits (hresults.mono hbytes)
  exact ⟨_, rest, _, hsent, isResponse_sentResponse (by decide +kernel) hfits.1 hbody true, rfl⟩

/-- What is answered to a path that is not safe. -/
theorem forbidden_answered {results : List SendResult} (hresults : SendsSucceed results 2048) :
    ∃ bytes rest r, sendTextResponse 403 "Forbidden" results = ⟨bytes, rest, some none⟩ ∧
      IsResponse bytes r ∧ r.status = 403 :=
  sendTextResponse_succeeds (by decide +kernel) (by decide +kernel) hresults

/-! ## Paths stay below their root -/

/-- What `_normalize_request_target` leaves of a target. -/
def cutTarget (rawTarget : List UInt8) : List UInt8 :=
  rawTarget.takeWhile fun b => b != 63 && b != 35

theorem normalizeRequestTarget_eq {rawTarget path : List UInt8} {outPathCapacity : ℤ}
    (h : normalizeRequestTarget rawTarget outPathCapacity = .ok path) : path = cutTarget rawTarget := by
  unfold normalizeRequestTarget at h
  split at h
  · cases h
  · dsimp only at h
    split at h
    · cases h
    · exact (Except.ok.inj h).symm

/-- A path that passes the check begins with a slash and has no `..`; so has what is put behind the
    roots. -/
theorem relativePath_safe {path : List UInt8} (h : isSafeUrlPath path = true) :
    (relativePath path).head? = some 47 ∧ findSub up (relativePath path) = none := by
  rw [isSafeUrlPath, Bool.and_eq_true, Bool.and_eq_true, beq_iff_eq, Option.isNone_iff_eq_none] at h
  obtain ⟨⟨hslash, hup⟩, -⟩ := h
  unfold relativePath
  split
  · decide
  · exact ⟨hslash, hup⟩

/-- What the loop opens, for every root that is not empty. -/
theorem serveRoots_opened {relative : List UInt8} (hslash : relative.head? = some 47)
    (hup : findSub up relative = none) (files : ℕ → FileCalls) (results : List SendResult) (i : ℕ)
    {roots : List (Option (List UInt8))}
    (hroots : ∀ root, some root ∈ roots → cString root ≠ []) :
    ∀ name ∈ (serveRoots relative files results i roots).opened,
      ∃ root, some root ∈ roots ∧ name = cString root ++ relative ∧
        ∀ part, part <+: relative → Under (resolve (cString root)) (resolve (cString root ++ part)) := by
  induction roots generalizing i with
  | nil =>
      intro name hname
      exact absurd hname List.not_mem_nil
  | cons root roots ih =>
      have htail := ih (i + 1) fun root hroot => hroots root (List.mem_cons_of_mem _ hroot)
      have hlater : ∀ name ∈ (serveRoots relative files results (i + 1) roots).opened,
          ∃ r, some r ∈ root :: roots ∧ name = cString r ++ relative ∧
            ∀ part, part <+: relative → Under (resolve (cString r)) (resolve (cString r ++ part)) := by
        intro name hname
        obtain ⟨r, hr, hr'⟩ := htail name hname
        exact ⟨r, List.mem_cons_of_mem _ hr, hr'⟩
      cases root with
      | none => exact hlater
      | some root =>
          have hhere : ∃ r, some r ∈ some root :: roots ∧ cString root ++ relative =
              cString r ++ relative ∧
                ∀ part, part <+: relative → Under (resolve (cString r)) (resolve (cString r ++ part)) :=
            ⟨root, List.mem_cons_self, rfl, fun part hpart =>
              under_append (hroots root List.mem_cons_self) hslash hup hpart⟩
          intro name hname
          rw [serveRoots] at hname
          split at hname
          · exact absurd hname List.not_mem_nil
          · split at hname
            · obtain rfl := List.mem_singleton.1 hname
              exact hhere
            · split at hname
              · rcases List.mem_cons.1 hname with rfl | hname
                · exact hhere
                · exact hlater name hname
              · obtain rfl := List.mem_singleton.1 hname
                exact hhere

/-- **No path traversal.** Every file name that is opened is one of the roots followed by the path of
    the target, or by `/index.html` for `/`, and does not leave the root after any of its bytes; a
    path with `..` or a backslash, or that does not begin with a slash, opens no file and is answered
    with status 403. -/
theorem static_paths_confined (staticDirectories : List (Option (List UInt8)))
    (hroots : ∀ root, some root ∈ staticDirectories → cString root ≠ [])
    {rawTarget path : List UInt8} {outPathCapacity : ℤ}
    (hpath : normalizeRequestTarget rawTarget outPathCapacity = .ok path)
    (files : ℕ → FileCalls) (results : List SendResult) :
    path = cutTarget rawTarget ∧
    (∀ name ∈ (tryServeStaticFile staticDirectories path files results).opened,
      ∃ root, some root ∈ staticDirectories ∧
        name = cString root ++ (if cString path = ascii "/" then ascii "/index.html"
          else cString path) ∧
        ∀ part, cString root ++ part <+: name →
          Under (resolve (cString root)) (resolve (cString root ++ part))) ∧
    ((ascii ".." <:+: cString path ∨ 92 ∈ cString path ∨ (cString path).head? ≠ some 47) →
      (tryServeStaticFile staticDirectories path files results).opened = [] ∧
      (tryServeStaticFile staticDirectories path files results).sent.bytes <+:
        (sendTextResponse 403 "Forbidden" [.accepts 2048, .accepts 2048]).bytes ∧
      (SendsSucceed results 2048 →
        (tryServeStaticFile staticDirectories path files results).wasServed = true ∧
        ∃ r, IsResponse (tryServeStaticFile staticDirectories path files results).sent.bytes r ∧
          r.status = 403)) := by
  refine ⟨normalizeRequestTarget_eq hpath, ?_, ?_⟩
  · intro name hname
    unfold tryServeStaticFile at hname
    split at hname
    · exact absurd hname List.not_mem_nil
    · rename_i hsafe
      have hsafe : isSafeUrlPath path = true := by simpa using hsafe
      obtain ⟨hslash, hup⟩ := relativePath_safe hsafe
      obtain ⟨root, hmem, rfl, hunder⟩ :=
        serveRoots_opened hslash hup files results 0 hroots name hname
      exact ⟨root, hmem, rfl, fun part hpart =>
        hunder part ((List.prefix_append_right_inj _).1 hpart)⟩
  · intro hbad
    have hunsafe : isSafeUrlPath path = false := by
      rw [isSafeUrlPath, Bool.and_eq_false_iff, Bool.and_eq_false_iff]
      rcases hbad with hup | hbackslash | hslash
      · have hfound : (strstr path (ascii "..")).isSome = true := findSub_isSome_of_infix hup
        exact Or.inl (Or.inr (by simpa using hfound))
      · exact Or.inr (by simpa using hbackslash)
      · exact Or.inl (Or.inl (by simpa using hslash))
    have hserved : tryServeStaticFile staticDirectories path files results =
        .answer (sendTextResponse 403 "Forbidden" results) := by
      rw [tryServeStaticFile, hunsafe]
      rfl
    rw [hserved]
    refine ⟨rfl, ?_, fun hresults => ?_⟩
    · have hwhole : (sendTextResponse 403 "Forbidden" [.accepts 2048, .accepts 2048]).bytes =
          responseBytes 403 (some (ascii "text/plain; charset=utf-8")) (some (ascii "Forbidden"))
            9 true := by decide +kernel
      rw [hwhole]
      exact (sendResponse_spec (by decide +kernel)).1
    · obtain ⟨bytes, rest, r, hsent, hresponse, hstatus⟩ := forbidden_answered hresults
      rw [hsent]
      exact ⟨by simp [Served.answer], r, hresponse, hstatus⟩

/-- Two roots, the first without the file. -/
def noFile : FileCalls := ⟨false, true, 0, true, true, []⟩

theorem static_paths_confined_secondRoot :
    ∃ root, some root ∈ [some (ascii "www"), some (ascii "/srv/../pub")] ∧
      ascii "/srv/../pub/a/./b.html" = cString root ++ ascii "/a/./b.html" ∧
      ∀ part, cString root ++ part <+: ascii "/srv/../pub/a/./b.html" →
        Under (resolve (cString root)) (resolve (cString root ++ part)) :=
  (@static_paths_confined [some (ascii "www"), some (ascii "/srv/../pub")]
    (fun root hroot => by
      simp only [List.mem_cons, List.not_mem_nil, or_false, Option.some.injEq] at hroot
      rcases hroot with rfl | rfl <;> decide +kernel)
    (ascii "/a/./b.html?x=..") (ascii "/a/./b.html") 1024 (by decide +kernel)
    (fun _ => noFile) []).2.1 (ascii "/srv/../pub/a/./b.html") (by decide +kernel)

end DthttpdLinuxSocket
