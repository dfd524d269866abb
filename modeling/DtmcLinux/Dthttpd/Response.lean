import DtmcLinux.Foundation.Http
import DtmcLinux.Posix.Socket

set_option autoImplicit false

/-! # Sending an HTTP response

`_send_response` of `dthttpd_linux_socket.c` prints the header into a buffer of 1024 bytes and sends
it, and after it the body. What it sends is the response it was called with
(`response_round_trip`), unless the content type ends the header. -/

namespace DthttpdLinuxSocket

open Posix Http

/-- `_reason_phrase_for_status`. -/
def reasonPhraseForStatus (statusCode : Int32) : List UInt8 :=
  match statusCode.toInt with
  | 200 => ascii "OK"
  | 400 => ascii "Bad Request"
  | 403 => ascii "Forbidden"
  | 404 => ascii "Not Found"
  | 405 => ascii "Method Not Allowed"
  | 411 => ascii "Length Required"
  | 413 => ascii "Payload Too Large"
  | 500 => ascii "Internal Server Error"
  | 503 => ascii "Service Unavailable"
  | _ => ascii "Unknown"

/-- `_send_all`; its callers pass a buffer. -/
def sendAll : List UInt8 → List SendResult → SendOutcome :=
  sendLoop (.new .io "send returned 0") fun strerror => .new .io s!"send failed: {strerror}"

/-- What `snprintf` prints for the header. -/
def responseHeader (statusCode : Int32) (contentType : List UInt8) (bodyLength : Int32)
    (closeConnection : Bool) : List UInt8 :=
  ascii "HTTP/1.1 " ++ Decimal.signed statusCode.toInt ++ ascii " " ++
      reasonPhraseForStatus statusCode ++ ascii "\r\n" ++
    ascii "Content-Length: " ++ Decimal.signed bodyLength.toInt ++ ascii "\r\n" ++
    ascii "Content-Type: " ++ contentType ++ ascii "\r\n" ++
    ascii "Connection: " ++ ascii (if closeConnection then "close" else "keep-alive") ++
      ascii "\r\n" ++
    ascii "\r\n"

/-- `content_type ? content_type : "application/octet-stream"`, as it is printed. -/
def contentTypeText (contentType : Option (List UInt8)) : List UInt8 :=
  match contentType with
  | some text => cString text
  | none => ascii "application/octet-stream"

/-- The bytes of the body; `body` is the memory from the pointer on, or `none` for `NULL`. -/
def bodyBytes (body : Option (List UInt8)) (bodyLength : Int32) : List UInt8 :=
  (body.getD []).take bodyLength.toInt.toNat

/-- `_send_response`. -/
def sendResponse (statusCode : Int32) (contentType body : Option (List UInt8)) (bodyLength : Int32)
    (closeConnection : Bool) (results : List SendResult) : SendOutcome :=
  if bodyLength < 0 then ⟨[], results, some (some (.new .range "negative body_length"))⟩
  else
    let header := responseHeader statusCode (contentTypeText contentType) bodyLength closeConnection
    if header.length ≥ 1024 then
      ⟨[], results, some (some (.new .overflow "HTTP header buffer too small"))⟩
    else
      (sendAll header results).andThen fun results =>
        if body.isSome ∧ bodyLength > 0 then sendAll (bodyBytes body bodyLength) results
        else ⟨[], results, some none⟩

/-- `_send_text_response`, with a text that is not `NULL`. -/
def sendTextResponse (statusCode : Int32) (text : String) (results : List SendResult) : SendOutcome :=
  sendResponse statusCode (some (ascii "text/plain; charset=utf-8")) (some (ascii text))
    (Int32.ofNat text.length) true results

/-! ## What is sent -/

variable {statusCode bodyLength : Int32} {contentType body : Option (List UInt8)}
  {closeConnection : Bool} {results : List SendResult}

/-- The whole response. -/
def responseBytes (statusCode : Int32) (contentType body : Option (List UInt8)) (bodyLength : Int32)
    (closeConnection : Bool) : List UInt8 :=
  responseHeader statusCode (contentTypeText contentType) bodyLength closeConnection ++
    bodyBytes body bodyLength

/-- The response can be sent: the length is one, and the header fits into its buffer. -/
def HeaderFits (statusCode : Int32) (contentType : Option (List UInt8)) (bodyLength : Int32)
    (closeConnection : Bool) : Prop :=
  0 ≤ bodyLength ∧
    (responseHeader statusCode (contentTypeText contentType) bodyLength closeConnection).length < 1024

instance : Decidable (HeaderFits statusCode contentType bodyLength closeConnection) :=
  inferInstanceAs (Decidable (_ ∧ _))

theorem not_lt_zero_of_le {n : Int32} (h : 0 ≤ n) : ¬ n < 0 := Int32.not_lt.2 h

/-- There is a body to send, or it is empty. -/
theorem bodyBytes_of_not (h : ¬ (body.isSome ∧ bodyLength > 0)) : bodyBytes body bodyLength = [] := by
  cases body with
  | none => exact List.take_nil
  | some mem =>
      have hlength : bodyLength ≤ 0 := Int32.not_lt.1 fun hpos => h ⟨rfl, hpos⟩
      have hzero : bodyLength.toInt.toNat = 0 := by
        have hle := Int32.le_iff_toInt_le.1 hlength
        rw [Int32.toInt_zero] at hle
        omega
      rw [bodyBytes, hzero, List.take_zero]

/-- A response that cannot be sent: an error, and nothing is sent. -/
theorem sendResponse_of_not_fits (h : ¬ HeaderFits statusCode contentType bodyLength closeConnection)
    (body : Option (List UInt8)) (results : List SendResult) :
    ∃ dterr, sendResponse statusCode contentType body bodyLength closeConnection results =
      ⟨[], results, some (some dterr)⟩ := by
  unfold sendResponse
  by_cases hneg : bodyLength < 0
  · rw [if_pos hneg]
    exact ⟨_, rfl⟩
  · have hlong : ¬ (responseHeader statusCode (contentTypeText contentType) bodyLength
        closeConnection).length < 1024 := fun hlt => h ⟨Int32.not_lt.1 hneg, hlt⟩
    rw [if_neg hneg]
    dsimp only
    rw [if_pos (Nat.le_of_not_lt hlong)]
    exact ⟨_, rfl⟩

theorem sendResponse_of_fits (h : HeaderFits statusCode contentType bodyLength closeConnection) :
    sendResponse statusCode contentType body bodyLength closeConnection results =
      (sendAll (responseHeader statusCode (contentTypeText contentType) bodyLength closeConnection)
        results).andThen fun results =>
          if body.isSome ∧ bodyLength > 0 then sendAll (bodyBytes body bodyLength) results
          else ⟨[], results, some none⟩ := by
  rw [sendResponse, if_neg (not_lt_zero_of_le h.1)]
  dsimp only
  rw [if_neg (Nat.not_le.2 h.2)]

/-- **Spec of `_send_response`.** A prefix of the response is sent, and all of it on success. -/
theorem sendResponse_spec (h : HeaderFits statusCode contentType bodyLength closeConnection) :
    (sendResponse statusCode contentType body bodyLength closeConnection results).bytes <+:
        responseBytes statusCode contentType body bodyLength closeConnection ∧
      ((sendResponse statusCode contentType body bodyLength closeConnection results).ret = some none →
        (sendResponse statusCode contentType body bodyLength closeConnection results).bytes =
          responseBytes statusCode contentType body bodyLength closeConnection) := by
  rw [sendResponse_of_fits h, responseBytes]
  refine SendOutcome.andThen_spec (sendLoop_spec _ _) fun rest => ?_
  split
  · exact sendLoop_spec _ _
  · rename_i hbody
    rw [bodyBytes_of_not hbody]
    exact ⟨List.prefix_rfl, fun _ => rfl⟩

theorem sendAll_succeeds {buf : List UInt8} {n : ℕ} (h : SendsSucceed results (buf.length + n)) :
    ∃ rest, sendAll buf results = ⟨buf, rest, some none⟩ ∧ SendsSucceed rest n :=
  sendLoop_succeeds buf results h

/-- Sends that succeed send the whole response. -/
theorem sendResponse_succeeds (h : HeaderFits statusCode contentType bodyLength closeConnection)
    (hresults : SendsSucceed results
      (responseBytes statusCode contentType body bodyLength closeConnection).length) :
    ∃ rest, sendResponse statusCode contentType body bodyLength closeConnection results =
      ⟨responseBytes statusCode contentType body bodyLength closeConnection, rest, some none⟩ := by
  rw [responseBytes, List.length_append] at hresults
  obtain ⟨rest, hheader, hrest⟩ := sendAll_succeeds hresults
  rw [sendResponse_of_fits h, hheader, SendOutcome.andThen]
  dsimp only
  by_cases hbody : body.isSome ∧ bodyLength > 0
  · obtain ⟨rest', hsent, -⟩ := sendAll_succeeds (n := 0) hrest
    rw [if_pos hbody, hsent]
    exact ⟨rest', rfl⟩
  · rw [if_neg hbody, responseBytes, bodyBytes_of_not hbody]
    exact ⟨rest, rfl⟩

/-! ## The response is read back -/

def contentTypeLine (contentType : List UInt8) : List UInt8 := ascii "Content-Type: " ++ contentType

def connectionLine (closeConnection : Bool) : List UInt8 :=
  ascii "Connection: " ++ ascii (if closeConnection then "close" else "keep-alive")

/-- The header as lines. -/
theorem responseHeader_eq (statusCode : Int32) (contentType : List UInt8) (bodyLength : Int32)
    (closeConnection : Bool) :
    responseHeader statusCode contentType bodyLength closeConnection =
      statusLine statusCode.toInt (reasonPhraseForStatus statusCode) ++ (crlf ++
        (contentLengthLine bodyLength.toInt ++ (crlf ++
          (contentTypeLine contentType ++ (crlf ++ (connectionLine closeConnection ++
            (crlf ++ crlf))))))) := by
  have hcrlf : ascii "\r\n" = crlf := ascii_crlf
  have hblank : ascii " " = [32] := by decide
  rw [responseHeader, statusLine, contentLengthLine, contentTypeLine, connectionLine, hcrlf, hblank]
  simp only [List.append_assoc, List.cons_append, List.nil_append]

theorem cr_notMem_reasonPhrase (statusCode : Int32) : 13 ∉ reasonPhraseForStatus statusCode := by
  unfold reasonPhraseForStatus
  split <;> decide

theorem cr_notMem_signed (n : ℤ) : 13 ∉ Decimal.signed n := by
  intro h
  rcases Decimal.mem_signed h with h | h
  · exact absurd h (by decide)
  · exact absurd h (by decide)

theorem cr_notMem_statusLine (statusCode : Int32) :
    13 ∉ statusLine statusCode.toInt (reasonPhraseForStatus statusCode) := by
  have hversion : (13 : UInt8) ∉ ascii "HTTP/1.1 " := by decide
  simp only [statusLine, List.mem_append, List.mem_cons, not_or]
  exact ⟨hversion, cr_notMem_signed _, by decide, cr_notMem_reasonPhrase _⟩

theorem cr_notMem_contentLengthLine (n : ℤ) : 13 ∉ contentLengthLine n := by
  have hname : (13 : UInt8) ∉ ascii "Content-Length: " := by decide
  rw [contentLengthLine, List.mem_append, not_or]
  exact ⟨hname, cr_notMem_signed n⟩

theorem cr_notMem_connectionLine (closeConnection : Bool) : 13 ∉ connectionLine closeConnection := by
  cases closeConnection <;> decide

/-- The lines that the content type does not touch. -/
theorem splitHead_responseHeader (statusCode : Int32) (contentType : List UInt8) (bodyLength : Int32)
    (closeConnection : Bool) (rest : List UInt8) :
    splitHead (responseHeader statusCode contentType bodyLength closeConnection ++ rest) =
      (splitHead (contentTypeLine contentType ++ (crlf ++ (connectionLine closeConnection ++
        (crlf ++ (crlf ++ rest)))))).map fun head =>
          (statusLine statusCode.toInt (reasonPhraseForStatus statusCode) ::
            contentLengthLine bodyLength.toInt :: head.1, head.2) := by
  have hlength : ∃ tail, contentLengthLine bodyLength.toInt = 67 :: tail := ⟨_, rfl⟩
  have htype : ∃ tail, contentTypeLine contentType = 67 :: tail := ⟨_, rfl⟩
  obtain ⟨tail, htail⟩ := hlength
  obtain ⟨tail', htail'⟩ := htype
  have hcr := cr_notMem_contentLengthLine bodyLength.toInt
  rw [responseHeader_eq]
  simp only [List.append_assoc]
  rw [htail, List.cons_append, splitHead_cons (cr_notMem_statusLine statusCode) (by decide) _,
    ← List.cons_append, ← htail, htail', List.cons_append, splitHead_cons hcr (by decide) _,
    Option.map_map]
  rfl

/-- A content type without a carriage return leaves the lines as they are. -/
theorem splitHead_of_not_mem {contentType : List UInt8} (hcr : 13 ∉ contentType)
    (closeConnection : Bool) (rest : List UInt8) :
    splitHead (contentTypeLine contentType ++ (crlf ++ (connectionLine closeConnection ++
        (crlf ++ (crlf ++ rest))))) =
      some ([contentTypeLine contentType, connectionLine closeConnection], rest) := by
  have hline : 13 ∉ contentTypeLine contentType := by
    have hname : (13 : UInt8) ∉ ascii "Content-Type: " := by decide
    rw [contentTypeLine, List.mem_append, not_or]
    exact ⟨hname, hcr⟩
  have hconnection : ∃ tail, connectionLine closeConnection = 67 :: tail := ⟨_, rfl⟩
  obtain ⟨tail, htail⟩ := hconnection
  have hlast := splitHead_last (cr_notMem_connectionLine closeConnection) rest
  rw [htail] at hlast ⊢
  rw [List.cons_append, splitHead_cons hline (by decide) _, ← List.cons_append, hlast]
  rfl

/-- The value of the content type, among the fields of the header. -/
theorem field_contentType (n : ℤ) (contentType : List UInt8) (closeConnection : Bool) :
    field? "Content-Type"
      [contentLengthLine n, contentTypeLine contentType, connectionLine closeConnection] =
        some contentType := by
  have hlength : ¬ isField "Content-Type" (contentLengthLine n) = true := by
    rw [contentLengthLine, isField_append (by decide)]
    decide
  have htype : isField "Content-Type" (contentTypeLine contentType) = true := by
    rw [contentTypeLine, isField_append (by decide)]
    decide
  rw [field?, List.find?_cons_of_neg hlength, List.find?_cons_of_pos htype, Option.map_some,
    contentTypeLine, fieldValue_append (by decide)]
  rfl

/-- There is as much of the body as its length says. -/
def BodyThere (body : Option (List UInt8)) (bodyLength : Int32) : Prop :=
  0 < bodyLength → ∃ mem, body = some mem ∧ bodyLength.toInt.toNat ≤ mem.length

theorem length_bodyBytes (h : BodyThere body bodyLength) :
    (bodyBytes body bodyLength).length = bodyLength.toInt.toNat := by
  by_cases hpos : 0 < bodyLength
  · obtain ⟨mem, rfl, hle⟩ := h hpos
    rw [bodyBytes, Option.getD_some, List.length_take, Nat.min_eq_left hle]
  · have hle := Int32.le_iff_toInt_le.1 (Int32.not_lt.1 hpos)
    rw [Int32.toInt_zero] at hle
    rw [bodyBytes, List.length_take]
    omega

/-- The response that is sent when the content type does not end the header. -/
def sentResponse (statusCode : Int32) (contentType body : Option (List UInt8)) (bodyLength : Int32)
    (closeConnection : Bool) : Response where
  status := statusCode.toInt
  reason := reasonPhraseForStatus statusCode
  fields := [contentLengthLine bodyLength.toInt, contentTypeLine (contentTypeText contentType),
    connectionLine closeConnection]
  body := bodyBytes body bodyLength

theorem toInt_eq_length_bodyBytes (hnonneg : 0 ≤ bodyLength) (hbody : BodyThere body bodyLength) :
    bodyLength.toInt = ((bodyBytes body bodyLength).length : ℤ) := by
  have hlength := length_bodyBytes hbody
  have hle := Int32.le_iff_toInt_le.1 hnonneg
  rw [Int32.toInt_zero] at hle
  omega

theorem isResponse_sentResponse (hcr : 13 ∉ contentTypeText contentType) (hnonneg : 0 ≤ bodyLength)
    (hbody : BodyThere body bodyLength) (closeConnection : Bool) :
    IsResponse (responseBytes statusCode contentType body bodyLength closeConnection)
      (sentResponse statusCode contentType body bodyLength closeConnection) := by
  have hn := toInt_eq_length_bodyBytes hnonneg hbody
  have hhead := splitHead_responseHeader statusCode (contentTypeText contentType) bodyLength
    closeConnection (bodyBytes body bodyLength)
  rw [splitHead_of_not_mem hcr, Option.map_some, hn] at hhead
  rw [IsResponse, responseBytes, parseResponse_of_splitHead hhead, if_pos (Nat.le_refl _),
    List.take_length, List.drop_length, sentResponse, hn]

/-- The content type does not end the header: there is no blank line in it, or made of its end and
    the end of its line. -/
def BlankLineFree (contentType : List UInt8) : Prop :=
  findSub (crlf ++ crlf) (contentType ++ crlf) = none

instance (contentType : List UInt8) : Decidable (BlankLineFree contentType) :=
  inferInstanceAs (Decidable (_ = _))

/-- What a blank line in the line of the content type is found as. -/
theorem findSub_contentTypeLine (contentType : List UInt8) :
    findSub (crlf ++ crlf) (contentTypeLine contentType ++ crlf) =
      (findSub (crlf ++ crlf) (contentType ++ crlf)).map (14 + ·) := by
  have hname : (13 : UInt8) ∉ ascii "Content-Type: " := by decide
  rw [contentTypeLine, List.append_assoc]
  exact findSub_append_of_not_mem hname [10, 13, 10] _

/-- A content type without a blank line: the header ends after the last line. -/
theorem splitHead_of_blankLineFree {contentType : List UInt8} (h : BlankLineFree contentType)
    (closeConnection : Bool) (rest : List UInt8) :
    ∃ lines, splitHead (contentTypeLine contentType ++ (crlf ++ (connectionLine closeConnection ++
      (crlf ++ (crlf ++ rest))))) = some (lines, rest) := by
  have hconnection : ∃ tail, connectionLine closeConnection = 67 :: tail := ⟨_, rfl⟩
  obtain ⟨tail, htail⟩ := hconnection
  have hcr : 13 ∉ tail := by
    have hnone := cr_notMem_connectionLine closeConnection
    rw [htail, List.mem_cons, not_or] at hnone
    exact hnone.2
  have hnone : findSub (crlf ++ crlf) (contentTypeLine contentType ++ crlf) = none := by
    rw [findSub_contentTypeLine, h]
    rfl
  have hlast : findSub (crlf ++ crlf) (tail ++ (crlf ++ (crlf ++ rest))) = some tail.length := by
    have hfirst := findSub_append_of_not_mem hcr [10, 13, 10] (crlf ++ crlf ++ rest)
    rw [show (13 :: [10, 13, 10] : List UInt8) = crlf ++ crlf from rfl,
      findSub_append_self _ _ (by decide)] at hfirst
    rw [← List.append_assoc crlf]
    exact hfirst
  have hfind := findSub_append_cons_of_not_mem (a := (67 : UInt8)) (by decide) hnone
    (tail ++ (crlf ++ (crlf ++ rest)))
  rw [hlast, Option.map_some] at hfind
  have hfound : findSub (crlf ++ crlf) (contentTypeLine contentType ++ (crlf ++ (67 :: tail ++
      (crlf ++ (crlf ++ rest))))) =
        some ((contentTypeLine contentType ++ crlf).length + 1 + tail.length) := by
    rw [← List.append_assoc, List.cons_append]
    exact hfind
  have hdrop : (contentTypeLine contentType ++ (crlf ++ (67 :: tail ++ (crlf ++ (crlf ++ rest))))).drop
      ((contentTypeLine contentType ++ crlf).length + 1 + tail.length + 4) = rest := by
    have hbytes : contentTypeLine contentType ++ (crlf ++ (67 :: tail ++ (crlf ++ (crlf ++ rest)))) =
        (contentTypeLine contentType ++ crlf ++ 67 :: (tail ++ (crlf ++ crlf))) ++ rest := by
      simp only [List.append_assoc, List.cons_append]
    rw [hbytes]
    apply List.drop_left'
    simp only [List.length_append, List.length_cons, crlf, List.length_nil]
    omega
  rw [htail, splitHead, hfound, Option.map_some, hdrop]
  exact ⟨_, rfl⟩

/-- A content type with a blank line: the header ends in it. -/
theorem splitHead_of_not_blankLineFree {contentType : List UInt8} (h : ¬ BlankLineFree contentType)
    (closeConnection : Bool) (rest : List UInt8) :
    ∃ lines left, splitHead (contentTypeLine contentType ++ (crlf ++ (connectionLine closeConnection ++
      (crlf ++ (crlf ++ rest))))) = some (lines, left) ∧ rest.length < left.length := by
  obtain ⟨k, hk⟩ := Option.ne_none_iff_exists'.1 h
  have hline : findSub (crlf ++ crlf) (contentTypeLine contentType ++ crlf) = some (14 + k) := by
    rw [findSub_contentTypeLine, hk]
    rfl
  have hle := findSub_le hk
  have hfound := findSub_append_left hline
    (connectionLine closeConnection ++ (crlf ++ (crlf ++ rest)))
  rw [List.append_assoc] at hfound
  have hname : (ascii "Content-Type: ").length = 14 := by decide
  refine ⟨_, _, by rw [splitHead, hfound, Option.map_some], ?_⟩
  simp only [contentTypeLine, List.length_drop, List.length_append, crlf, List.length_cons,
    List.length_nil, hname] at hle ⊢
  omega

/-- **One response.** What is sent is one response unless the content type ends the header. -/
theorem isResponse_iff (statusCode : Int32) (closeConnection : Bool) (hnonneg : 0 ≤ bodyLength)
    (hbody : BodyThere body bodyLength) :
    (∃ r, IsResponse (responseBytes statusCode contentType body bodyLength closeConnection) r) ↔
      BlankLineFree (contentTypeText contentType) := by
  have hn := toInt_eq_length_bodyBytes hnonneg hbody
  have hhead := splitHead_responseHeader statusCode (contentTypeText contentType) bodyLength
    closeConnection (bodyBytes body bodyLength)
  rw [hn] at hhead
  constructor
  · rintro ⟨r, hr⟩
    by_contra hblank
    obtain ⟨lines, left, hsplit, hlong⟩ := splitHead_of_not_blankLineFree hblank closeConnection
      (bodyBytes body bodyLength)
    rw [hsplit, Option.map_some] at hhead
    rw [IsResponse, responseBytes, parseResponse_of_splitHead hhead, if_pos (Nat.le_of_lt hlong)] at hr
    have hleft := congrArg List.length (congrArg Prod.snd (Option.some.inj hr))
    simp only [List.length_drop, List.length_nil] at hleft
    omega
  · intro hfree
    obtain ⟨lines, hsplit⟩ := splitHead_of_blankLineFree hfree closeConnection
      (bodyBytes body bodyLength)
    rw [hsplit, Option.map_some] at hhead
    refine ⟨⟨statusCode.toInt, reasonPhraseForStatus statusCode,
      contentLengthLine (bodyBytes body bodyLength).length :: lines, bodyBytes body bodyLength⟩, ?_⟩
    rw [IsResponse, responseBytes, parseResponse_of_splitHead hhead, if_pos (Nat.le_refl _),
      List.take_length, List.drop_length]

/-- The call has returned, and has sent one response and nothing else. -/
def Answers (sent : SendOutcome) : Prop := sent.ret.isSome = true ∧ ∃ r, IsResponse sent.bytes r

/-- Sending nothing is no answer. -/
theorem not_answers_nil (results : List SendResult) (ret : Option (Option Dterr)) :
    ¬ Answers ⟨[], results, ret⟩ := by
  rintro ⟨-, r, hr⟩
  cases hr

/-- More than any response takes. -/
def responseSize : ℕ := 2 ^ 31 + 1024

/-- **When `_send_response` answers.** -/
theorem sendResponse_answers (hbody : BodyThere body bodyLength)
    (hresults : SendsSucceed results responseSize) :
    Answers (sendResponse statusCode contentType body bodyLength closeConnection results) ↔
      HeaderFits statusCode contentType bodyLength closeConnection ∧
        BlankLineFree (contentTypeText contentType) := by
  by_cases hfits : HeaderFits statusCode contentType bodyLength closeConnection
  · have hlength : (responseBytes statusCode contentType body bodyLength closeConnection).length ≤
        responseSize := by
      have hheader := hfits.2
      have hlt := bodyLength.toInt_lt
      rw [responseBytes, List.length_append, length_bodyBytes hbody, responseSize]
      omega
    obtain ⟨rest, hsent⟩ := sendResponse_succeeds hfits (hresults.mono hlength)
    rw [hsent, and_iff_right hfits, ← isResponse_iff statusCode closeConnection hfits.1 hbody]
    exact and_iff_right rfl
  · obtain ⟨dterr, herror⟩ := sendResponse_of_not_fits hfits body results
    rw [herror]
    exact iff_of_false (not_answers_nil _ _) fun h => hfits h.1

/-- A content type without a carriage return has no blank line. -/
theorem blankLineFree_of_not_mem {contentType : List UInt8} (hcr : 13 ∉ contentType) :
    BlankLineFree contentType := by
  have hfirst := findSub_append_of_not_mem hcr [10, 13, 10] crlf
  rw [BlankLineFree]
  exact hfirst

/-- The header without its content type. -/
theorem length_responseHeader_le (statusCode : Int32) (contentType : List UInt8) (bodyLength : Int32)
    (closeConnection : Bool) :
    (responseHeader statusCode contentType bodyLength closeConnection).length ≤
      contentType.length + 120 := by
  have hdigits : ∀ n : Int32, (Decimal.signed n.toInt).length ≤ 11 := by
    intro n
    have hlt := n.toInt_lt
    have hle := n.le_toInt
    exact Decimal.length_signed_le (by decide) (by omega)
  have hstatus := hdigits statusCode
  have hbody := hdigits bodyLength
  have hreason : (reasonPhraseForStatus statusCode).length ≤ 21 := by
    unfold reasonPhraseForStatus
    split <;> decide
  have hconnection : (ascii (if closeConnection then "close" else "keep-alive")).length ≤ 10 := by
    cases closeConnection <;> decide
  have hascii : (ascii "HTTP/1.1 ").length = 9 ∧ (ascii " ").length = 1 ∧ (ascii "\r\n").length = 2 ∧
      (ascii "Content-Length: ").length = 16 ∧ (ascii "Content-Type: ").length = 14 ∧
      (ascii "Connection: ").length = 12 := by decide
  obtain ⟨hversion, hblank, hcrlf, hlength, htype, hname⟩ := hascii
  simp only [responseHeader, List.length_append, hversion, hblank, hcrlf, hlength, htype, hname]
  omega

/-- **Round trip.** When `_send_response` succeeds, what was sent is one response with the status
    code, the content type and the body it was given; when the header does not fit into 1024 bytes,
    nothing is sent and an error returned. -/
theorem response_round_trip (statusCode bodyLength : Int32) (contentType body : Option (List UInt8))
    (closeConnection : Bool) (results : List SendResult)
    (hcontentType : ∀ text, contentType = some text → 13 ∉ cString text ∧ 10 ∉ cString text)
    (hbody : BodyThere body bodyLength) :
    ((sendResponse statusCode contentType body bodyLength closeConnection results).ret = some none →
      ∃ r, IsResponse
          (sendResponse statusCode contentType body bodyLength closeConnection results).bytes r ∧
        r.status = statusCode.toInt ∧
        field? "Content-Type" r.fields = some (contentTypeText contentType) ∧
        r.body = bodyBytes body bodyLength ∧ r.body.length = bodyLength.toInt) ∧
    (1024 ≤ (responseHeader statusCode (contentTypeText contentType) bodyLength
        closeConnection).length →
      ∃ dterr, sendResponse statusCode contentType body bodyLength closeConnection results =
        ⟨[], results, some (some dterr)⟩) := by
  constructor
  · intro hret
    by_cases hfits : HeaderFits statusCode contentType bodyLength closeConnection
    · have hcr : 13 ∉ contentTypeText contentType := by
        cases contentType with
        | none =>
            rw [contentTypeText]
            decide
        | some text => exact (hcontentType text rfl).1
      refine ⟨sentResponse statusCode contentType body bodyLength closeConnection, ?_, rfl,
        field_contentType _ _ _, rfl, (toInt_eq_length_bodyBytes hfits.1 hbody).symm⟩
      rw [(sendResponse_spec hfits).2 hret]
      exact isResponse_sentResponse hcr hfits.1 hbody closeConnection
    · obtain ⟨dterr, herror⟩ := sendResponse_of_not_fits hfits body results
      rw [herror] at hret
      exact absurd hret (by simp)
  · intro hlong
    exact sendResponse_of_not_fits (fun hfits => absurd hfits.2 (Nat.not_lt.2 hlong)) body results

/-- The header in two parts, with an interruption, and the body byte by byte. -/
def partialSends : List SendResult := [.accepts 30, .eintr, .accepts 1000, .accepts 1, .accepts 1]

theorem response_round_trip_partialSends :
    ∃ r, IsResponse (sendResponse 200 (some (ascii "text/html")) (some [13, 10]) 2 true
        partialSends).bytes r ∧ r.status = 200 ∧
      field? "Content-Type" r.fields = some (ascii "text/html") ∧ r.body = [13, 10] ∧
      (r.body.length : ℤ) = 2 :=
  (response_round_trip 200 2 (some (ascii "text/html")) (some [13, 10]) true partialSends
    (fun _ h => Option.some.inj h ▸ by decide +kernel)
    (fun _ => ⟨_, rfl, by decide⟩)).1 (by decide +kernel)

end DthttpdLinuxSocket
