import DtmcLinux.Foundation.Decimal
import DtmcLinux.Posix.CString
import Mathlib.Data.List.DropRight

set_option autoImplicit false

/-! # HTTP/1.1 messages

A message is a start line, header lines, a blank line and a body. `splitHead` finds the lines and
what follows the blank line; `parseResponse` is a response with as many bytes of body as its first
`Content-Length` says. -/

namespace Http

open Posix

def crlf : List UInt8 := [13, 10]

/-- A blank or a tab. -/
def isBlank (b : UInt8) : Bool := b == 32 || b == 9

/-- Without the blanks around it. -/
def trim (text : List UInt8) : List UInt8 := (text.dropWhile isBlank).rdropWhile isBlank

/-! ## Lines -/

/-- The lines before the first blank line, and what follows it. -/
def splitHead (bytes : List UInt8) : Option (List (List UInt8) × List UInt8) :=
  (findSub (crlf ++ crlf) bytes).map fun i => (pieces crlf (bytes.take (i + 2)), bytes.drop (i + 4))

/-- The line is the field `name`: the name in upper or lower case, and a colon. -/
def isField (name : String) (text : List UInt8) : Bool :=
  strcaseeq (text.take name.length) (ascii name) && text[name.length]? == some 58

/-- What the line has after the colon and one blank. -/
def fieldValue (name : String) (line : List UInt8) : List UInt8 :=
  match line.drop (name.length + 1) with
  | 32 :: text => text
  | text => text

/-- The value of the first line that is the field `name`. -/
def field? (name : String) (lines : List (List UInt8)) : Option (List UInt8) :=
  (lines.find? (isField name)).map (fieldValue name)

/-- The elements of a value that is a list. -/
def elements (value : List UInt8) : List (List UInt8) := (value.splitOn 44).map trim

/-- The list has the element, in upper or lower case. -/
def hasElement (token value : List UInt8) : Bool := (elements value).any fun e => strcaseeq e token

/-! ## Responses -/

structure Response where
  status : ℤ
  reason : List UInt8
  fields : List (List UInt8)
  body : List UInt8
  deriving DecidableEq

/-- The number and the phrase of a status line. -/
def parseStatusLine (line : List UInt8) : Option (ℤ × List UInt8) :=
  if (ascii "HTTP/1.1 ").isPrefixOf line then
    let code := (line.drop 9).takeWhile (· ≠ 32)
    (Decimal.readSigned code).map fun status => (status, line.drop (9 + code.length + 1))
  else none

/-- The number in the first `Content-Length`. -/
def contentLength (lines : List (List UInt8)) : Option ℕ :=
  (field? "Content-Length" lines).bind fun value => Decimal.read (trim value)

/-- The response at the beginning of the bytes, and what follows it. -/
def parseResponse (bytes : List UInt8) : Option (Response × List UInt8) :=
  match splitHead bytes with
  | none => none
  | some ([], _) => none
  | some (statusLine :: fields, rest) =>
    match parseStatusLine statusLine, contentLength fields with
    | some (status, reason), some n =>
      if n ≤ rest.length then some (⟨status, reason, fields, rest.take n⟩, rest.drop n) else none
    | _, _ => none

/-- The bytes are one response, and nothing else. -/
def IsResponse (bytes : List UInt8) (r : Response) : Prop := parseResponse bytes = some (r, [])

/-! ## Finding the lines -/

variable {line rest : List UInt8}

theorem crlf_ne_nil : crlf ≠ [] := by decide

theorem ascii_blankLine : ascii "\r\n\r\n" = crlf ++ crlf := by decide

/-- A line that is not the last one is put before the others. -/
theorem splitHead_cons {b : UInt8} (hline : 13 ∉ line) (hb : b ≠ 13) (rest : List UInt8) :
    splitHead (line ++ (crlf ++ b :: rest)) =
      (splitHead (b :: rest)).map fun head => (line :: head.1, head.2) := by
  have hfind : findSub (crlf ++ crlf) (line ++ (crlf ++ b :: rest)) =
      (findSub (crlf ++ crlf) (b :: rest)).map (line.length + 2 + ·) := by
    have hskip : findSub (crlf ++ crlf) (crlf ++ b :: rest) =
        (findSub (crlf ++ crlf) (b :: rest)).map (2 + ·) := by
      have hcr : ¬ (crlf ++ crlf).isPrefixOf (13 :: 10 :: b :: rest) = true := by
        simp only [crlf, List.cons_append, List.nil_append, List.isPrefixOf_iff_prefix,
          List.cons_prefix_cons, true_and]
        exact fun h => hb h.1.symm
      have hlf : ¬ (crlf ++ crlf).isPrefixOf (10 :: b :: rest) = true := by
        simp [crlf, List.isPrefixOf_iff_prefix, List.cons_prefix_cons]
      show findSub (crlf ++ crlf) (13 :: 10 :: b :: rest) = _
      rw [findSub, if_neg hcr, findSub, if_neg hlf, Option.map_map]
      congr 1
      funext k
      simp only [Function.comp_apply]
      omega
    have hfirst := findSub_append_of_not_mem (a := (13 : UInt8)) hline [10, 13, 10]
      (crlf ++ b :: rest)
    rw [show (13 :: [10, 13, 10] : List UInt8) = crlf ++ crlf from rfl, hskip, Option.map_map]
      at hfirst
    rw [hfirst]
    congr 1
    funext k
    simp only [Function.comp_apply]
    omega
  rw [splitHead, splitHead, hfind, Option.map_map, Option.map_map]
  congr 1
  funext k
  have hlen : (line ++ crlf).length = line.length + 2 := by rw [List.length_append]; rfl
  have htake : (line ++ (crlf ++ b :: rest)).take (line.length + 2 + k + 2) =
      line ++ (crlf ++ (b :: rest).take (k + 2)) := by
    rw [← List.append_assoc, ← List.append_assoc, Nat.add_assoc, ← hlen, List.take_length_add_append]
  have hdrop : (line ++ (crlf ++ b :: rest)).drop (line.length + 2 + k + 4) =
      (b :: rest).drop (k + 4) := by
    rw [← List.append_assoc, Nat.add_assoc, ← hlen, List.drop_length_add_append]
  simp only [Function.comp_apply, htake, hdrop]
  rw [crlf, pieces_append hline]

/-- The last line. -/
theorem splitHead_last (hline : 13 ∉ line) (rest : List UInt8) :
    splitHead (line ++ (crlf ++ (crlf ++ rest))) = some ([line], rest) := by
  have hfind : findSub (crlf ++ crlf) (line ++ (crlf ++ (crlf ++ rest))) = some line.length := by
    have hfirst := findSub_append_of_not_mem (a := (13 : UInt8)) hline [10, 13, 10]
      (crlf ++ (crlf ++ rest))
    rw [show (13 :: [10, 13, 10] : List UInt8) = crlf ++ crlf from rfl, ← List.append_assoc crlf,
      findSub_append_self _ _ (by decide)] at hfirst
    rw [← List.append_assoc crlf]
    exact hfirst
  have htake : (line ++ (crlf ++ (crlf ++ rest))).take (line.length + 2) = line ++ (crlf ++ []) := by
    rw [List.take_length_add_append]
    rfl
  have hdrop : (line ++ (crlf ++ (crlf ++ rest))).drop (line.length + 4) = rest := by
    rw [List.drop_length_add_append]
    rfl
  rw [splitHead, hfind, Option.map_some, htake, hdrop, crlf, pieces_append hline,
    pieces_of_none rfl]

/-- **Lines that are written are found**, and so is what follows the blank line. -/
theorem splitHead_lines {lines : List (List UInt8)} (hne : lines ≠ [])
    (hlines : ∀ line ∈ lines, line ≠ [] ∧ 13 ∉ line) (rest : List UInt8) :
    splitHead (lines.flatMap (· ++ crlf) ++ (crlf ++ rest)) = some (lines, rest) := by
  induction lines with
  | nil => exact absurd rfl hne
  | cons line lines ih =>
      have hline := (hlines line List.mem_cons_self).2
      cases lines with
      | nil =>
          rw [List.flatMap_cons, List.flatMap_nil, List.append_nil, List.append_assoc]
          exact splitHead_last hline rest
      | cons next lines =>
          obtain ⟨hnext, hcr⟩ := hlines next (List.mem_cons_of_mem _ List.mem_cons_self)
          have htail := ih (List.cons_ne_nil _ _) fun l hl => hlines l (List.mem_cons_of_mem _ hl)
          cases next with
          | nil => exact absurd rfl hnext
          | cons b next =>
              rw [List.mem_cons, not_or] at hcr
              have hcons := splitHead_cons hline (Ne.symm hcr.1)
                (next ++ crlf ++ (lines.flatMap (· ++ crlf) ++ (crlf ++ rest)))
              simp only [List.flatMap_cons, List.append_assoc, List.cons_append] at htail hcons ⊢
              rw [hcons, htail]
              rfl

/-! ## Fields -/

/-- Whether a line is a field is seen at its beginning, -/
theorem isField_append {name : String} {line : List UInt8} (h : name.length < line.length)
    (rest : List UInt8) : isField name (line ++ rest) = isField name line := by
  rw [isField, isField, List.take_append_of_le_length (Nat.le_of_lt h), List.getElem?_append_left h]

/-- and its value goes on to the end. -/
theorem fieldValue_append {name : String} {line : List UInt8} (h : name.length + 1 < line.length)
    (rest : List UInt8) : fieldValue name (line ++ rest) = fieldValue name line ++ rest := by
  have hdrop : (line ++ rest).drop (name.length + 1) = line.drop (name.length + 1) ++ rest :=
    List.drop_append_of_le_length (Nat.le_of_lt h)
  have hne : line.drop (name.length + 1) ≠ [] := by
    rw [ne_eq, List.drop_eq_nil_iff]
    omega
  rw [fieldValue, fieldValue, hdrop]
  cases hline : line.drop (name.length + 1) with
  | nil => exact absurd hline hne
  | cons b text =>
      rw [List.cons_append]
      split
      · rename_i hcons
        obtain ⟨rfl, rfl⟩ := List.cons.inj hcons
        rfl
      · rename_i hother
        split
        · rename_i hcons
          obtain ⟨rfl, rfl⟩ := List.cons.inj hcons
          exact absurd rfl (hother _)
        · rfl

/-- Blanks behind a text are left out. -/
theorem rdropWhile_append_blanks (text : List UInt8) {blanks : List UInt8}
    (h : ∀ b ∈ blanks, isBlank b = true) :
    (text ++ blanks).rdropWhile isBlank = text.rdropWhile isBlank := by
  induction blanks using List.reverseRecOn with
  | nil => rw [List.append_nil]
  | append_singleton blanks b ih =>
      rw [← List.append_assoc, List.rdropWhile_concat_pos]
      · exact ih fun b hb => h b (List.mem_append_left _ hb)
      · exact h b (List.mem_append_right _ (List.mem_singleton_self b))

/-- A buffer that has room for the text has it, without the blanks. -/
theorem rdropWhile_take {text : List UInt8} {n : ℕ} (h : (text.rdropWhile isBlank).length ≤ n) :
    (text.take n).rdropWhile isBlank = text.rdropWhile isBlank := by
  have hsplit : text.rdropWhile isBlank ++ text.rtakeWhile isBlank = text :=
    List.rdropWhile_append_rtakeWhile
  have htake : text.take n = text.rdropWhile isBlank ++
      (text.rtakeWhile isBlank).take (n - (text.rdropWhile isBlank).length) := by
    conv_lhs => rw [← hsplit, List.take_append, List.take_of_length_le h]
  rw [htake, rdropWhile_append_blanks, List.rdropWhile_idempotent]
  intro b hb
  exact List.mem_rtakeWhile_imp (List.mem_of_mem_take hb)

/-- Digits have no blanks around them. -/
theorem trim_of_isDigit {text : List UInt8} (h : ∀ b ∈ text, Decimal.isDigit b = true) :
    trim text = text := by
  have hblank : ∀ b ∈ text, isBlank b = false := by
    intro b hb
    have hdigit := h b hb
    rw [Decimal.isDigit, Bool.and_eq_true, decide_eq_true_eq] at hdigit
    rw [isBlank, Bool.or_eq_false_iff, beq_eq_false_iff_ne, beq_eq_false_iff_ne]
    constructor
    · rintro rfl
      exact absurd hdigit.1 (by decide)
    · rintro rfl
      exact absurd hdigit.1 (by decide)
  have hfirst : text.dropWhile isBlank = text := by
    cases text with
    | nil => rfl
    | cons b text => rw [List.dropWhile_cons_of_neg (by simp [hblank b List.mem_cons_self])]
  rw [trim, hfirst, List.rdropWhile_eq_self_iff]
  intro hne
  rw [hblank _ (List.getLast_mem hne)]
  exact Bool.false_ne_true

/-- The blank that `fieldValue` leaves out is one of those before the value. -/
theorem dropWhile_fieldValue (name : String) (line : List UInt8) :
    (fieldValue name line).dropWhile isBlank = (line.drop (name.length + 1)).dropWhile isBlank := by
  rw [fieldValue]
  split
  · rename_i hdrop
    rw [hdrop, List.dropWhile_cons_of_pos (by decide)]
  · rfl

/-! ## Lists -/

theorem trim_cons {b : UInt8} (hb : isBlank b = true) (text : List UInt8) :
    trim (b :: text) = trim text := by
  rw [trim, trim, List.dropWhile_cons_of_pos hb]

/-- A blank before a list is part of none of its elements, -/
theorem elements_cons_blank {b : UInt8} (hb : isBlank b = true) (value : List UInt8) :
    elements (b :: value) = elements value := by
  have hcomma : ¬ (b == 44) = true := by
    rw [beq_iff_eq]
    rintro rfl
    exact absurd hb (by decide)
  rw [elements, elements, List.splitOn_cons_eq_if_modifyHead, if_neg hcomma]
  cases hsplit : value.splitOn 44 with
  | nil => exact absurd hsplit (List.splitOn_ne_nil _ _)
  | cons first rest => rw [List.modifyHead_cons, List.map_cons, List.map_cons, trim_cons hb]

/-- and a comma there adds an empty one. -/
theorem elements_cons_comma (value : List UInt8) : elements (44 :: value) = [] :: elements value := by
  rw [elements, elements, List.splitOn_cons_eq_if_modifyHead, if_pos (by decide), List.map_cons]
  rfl

/-- The first element ends with the first comma. -/
theorem elements_append {element : List UInt8} (h : 44 ∉ element) (value : List UInt8) :
    elements (element ++ 44 :: value) = trim element :: elements value := by
  rw [elements, elements, List.splitOn_append_cons_self_of_not_mem h, List.map_cons]

theorem elements_of_not_mem {element : List UInt8} (h : 44 ∉ element) :
    elements element = [trim element] := by
  rw [elements, List.splitOn_eq_singleton h, List.map_cons, List.map_nil]

/-- No element is found that is empty. -/
theorem strcaseeq_nil {token : List UInt8} (htoken : token ≠ []) : strcaseeq [] token = false := by
  rw [strcaseeq, beq_eq_false_iff_ne]
  intro heq
  exact htoken (List.map_eq_nil_iff.1 heq.symm)

theorem hasElement_nil {token : List UInt8} (htoken : token ≠ []) : hasElement token [] = false := by
  rw [hasElement, elements_of_not_mem List.not_mem_nil, List.any_cons, List.any_nil, Bool.or_false]
  exact strcaseeq_nil htoken

/-- Blanks and commas before a list have no elements in them. -/
theorem hasElement_dropWhile {token : List UInt8} (htoken : token ≠ []) {skipped : UInt8 → Bool}
    (hskipped : ∀ b, skipped b = true → isBlank b = true ∨ b = 44) (value : List UInt8) :
    hasElement token (value.dropWhile skipped) = hasElement token value := by
  induction value with
  | nil => rfl
  | cons b value ih =>
      cases hb : skipped b with
      | false => rw [List.dropWhile_cons_of_neg (by simp [hb])]
      | true =>
          rw [List.dropWhile_cons_of_pos hb, ih, hasElement, hasElement]
          rcases hskipped b hb with hblank | rfl
          · rw [elements_cons_blank hblank]
          · rw [elements_cons_comma, List.any_cons, strcaseeq_nil htoken, Bool.false_or]

/-! ## Responses that are written -/

/-- The status line with the number and the phrase. -/
def statusLine (status : ℤ) (reason : List UInt8) : List UInt8 :=
  ascii "HTTP/1.1 " ++ (Decimal.signed status ++ 32 :: reason)

theorem parseStatusLine_statusLine (status : ℤ) (reason : List UInt8) :
    parseStatusLine (statusLine status reason) = some (status, reason) := by
  have hlen : (ascii "HTTP/1.1 ").length = 9 := by decide
  have hcode : (Decimal.signed status ++ 32 :: reason).takeWhile (· ≠ 32) = Decimal.signed status := by
    rw [List.takeWhile_append_of_pos, List.takeWhile_cons_of_neg (by decide), List.append_nil]
    intro b hb
    rw [decide_eq_true_eq]
    rintro rfl
    rcases Decimal.mem_signed hb with hb | hb
    · exact absurd hb (by decide)
    · exact absurd hb (by decide)
  have hdrop : (statusLine status reason).drop 9 = Decimal.signed status ++ 32 :: reason := by
    rw [statusLine, ← hlen, List.drop_left]
  have hreason : (statusLine status reason).drop (9 + (Decimal.signed status).length + 1) = reason := by
    rw [Nat.add_assoc, ← List.drop_drop, hdrop, ← List.drop_drop, List.drop_left]
    rfl
  have hprefix : (ascii "HTTP/1.1 ").isPrefixOf (statusLine status reason) = true :=
    List.isPrefixOf_iff_prefix.2 (List.prefix_append _ _)
  rw [parseStatusLine, if_pos hprefix]
  dsimp only
  rw [hdrop, hcode, hreason, Decimal.readSigned_signed]
  rfl

/-- The field that says how long the body is. -/
def contentLengthLine (n : ℤ) : List UInt8 := ascii "Content-Length: " ++ Decimal.signed n

theorem contentLength_cons (n : ℕ) (fields : List (List UInt8)) :
    contentLength (contentLengthLine n :: fields) = some n := by
  have hfield : isField "Content-Length" (contentLengthLine n) = true := by
    rw [contentLengthLine, isField_append (by decide)]
    decide
  have hvalue : fieldValue "Content-Length" (contentLengthLine n) = Decimal.numeral n := by
    rw [contentLengthLine, fieldValue_append (by decide)]
    rfl
  rw [contentLength, field?, List.find?_cons_of_pos hfield, Option.map_some, Option.bind_some, hvalue,
    trim_of_isDigit fun b hb => Decimal.isDigit_of_mem_numeral hb, Decimal.read_numeral]

theorem parseResponse_of_splitHead {bytes : List UInt8} {status : ℤ} {reason : List UInt8} {n : ℕ}
    {fields : List (List UInt8)} {rest : List UInt8}
    (h : splitHead bytes = some (statusLine status reason :: contentLengthLine n :: fields, rest)) :
    parseResponse bytes =
      if n ≤ rest.length then
        some (⟨status, reason, contentLengthLine n :: fields, rest.take n⟩, rest.drop n)
      else none := by
  rw [parseResponse, h]
  dsimp only
  rw [parseStatusLine_statusLine, contentLength_cons]

end Http
