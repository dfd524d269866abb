import DtmcLinux.DtioxLinuxWebsocket.HandshakeAccept

set_option autoImplicit false

/-! # What the handshake reads in a request

The lookups of the handshake read the lines before the blank line, and nothing behind it: `field?`
and `hasElement` say what they find. So the lines say what a request is answered with. -/

namespace DtioxLinuxWebsocket

open Posix

variable {p : List UInt8} {name : String}

/-! ## The line at a pointer -/

theorem atLineEnd_cons (b : UInt8) (p : List UInt8) :
    atLineEnd (b :: p) = Http.crlf.isPrefixOf (b :: p) := by
  rw [atLineEnd, Http.crlf, List.isPrefixOf]
  cases p with
  | nil => simp
  | cons c p => simp [List.isPrefixOf, Bool.beq_comm]

theorem lineOf_cons {b : UInt8} (hb : b ≠ 13) (p : List UInt8) : lineOf (b :: p) = b :: lineOf p := by
  rw [lineOf, if_neg]
  rw [atLineEnd, Bool.and_eq_true, beq_iff_eq]
  exact fun h => hb h.1

/-- The line goes to the first CR LF. -/
theorem lineOf_of_some {i : ℕ} (h : findSub Http.crlf p = some i) : lineOf p = p.take i := by
  induction p generalizing i with
  | nil => exact absurd h (by simp [findSub, Http.crlf])
  | cons b p ih =>
      rw [findSub] at h
      rw [lineOf, atLineEnd_cons]
      split at h
      · rename_i hend
        obtain rfl := Option.some.inj h
        rw [if_pos hend, List.take_zero]
      · rename_i hend
        obtain ⟨j, hj, rfl⟩ := Option.map_eq_some_iff.1 h
        rw [if_neg hend, ih hj, List.take_succ_cons]

theorem lineOf_drop {k : ℕ} (h : k ≤ (lineOf p).length) :
    lineOf (p.drop k) = (lineOf p).drop k := by
  induction k generalizing p with
  | zero => rfl
  | succ k ih =>
      cases p with
      | nil => exact absurd h (Nat.not_succ_le_zero k)
      | cons b p =>
          rw [lineOf] at h ⊢
          split at h
          · exact absurd h (Nat.not_succ_le_zero k)
          · rename_i hend
            rw [if_neg hend, List.drop_succ_cons, List.drop_succ_cons]
            exact ih (Nat.le_of_succ_le_succ h)

/-- Skipping bytes that are no CR stays in the line. -/
theorem lineOf_dropWhile {skipped : UInt8 → Bool} (hcr : skipped 13 = false) (p : List UInt8) :
    lineOf (p.dropWhile skipped) = (lineOf p).dropWhile skipped := by
  induction p with
  | nil => rfl
  | cons b p ih =>
      cases hb : skipped b with
      | true =>
          have hne : b ≠ 13 := by
            rintro rfl
            exact Bool.false_ne_true (hcr.symm.trans hb)
          rw [List.dropWhile_cons_of_pos hb, ih, lineOf_cons hne, List.dropWhile_cons_of_pos hb]
      | false =>
          have hneg : ¬ skipped b = true := by simp [hb]
          rw [List.dropWhile_cons_of_neg hneg, lineOf]
          split
          · rfl
          · rw [List.dropWhile_cons_of_neg hneg]

/-! ## The header lookup -/

/-- What a line has to be for the lookup. -/
theorem isField_take {j : ℕ} : Http.isField name (p.take j) =
    (decide (j > name.length) && strcaseeq (p.take name.length) (ascii name) &&
      p[name.length]? == some 58) := by
  rw [Http.isField]
  rcases Nat.lt_or_ge name.length j with hlt | hge
  · rw [List.take_take, Nat.min_eq_left (Nat.le_of_lt hlt), List.getElem?_take_of_lt hlt,
      decide_eq_true hlt, Bool.true_and]
  · have hnone : (p.take j)[name.length]? = none := by
      rw [List.getElem?_eq_none_iff, List.length_take]
      omega
    rw [hnone, decide_eq_false (Nat.not_lt_of_le hge), Bool.false_and, Bool.false_and]
    exact Bool.and_false _

/-- The lookup stops at an empty line, -/
theorem findHeaderValue_of_crlf (h : Http.crlf <+: p) : findHeaderValue name p = none := by
  obtain ⟨rest, rfl⟩ := h
  have hfind : findSub (ascii "\r\n") (Http.crlf ++ rest) = some 0 := by
    rw [ascii_crlf]
    exact findSub_append_self _ _ Http.crlf_ne_nil
  rw [findHeaderValue, if_neg (by simp [Http.crlf])]
  split
  · rename_i hnone
    exact absurd (hfind.symm.trans hnone) (by simp)
  · rename_i i hsome
    obtain rfl := Option.some.inj (hfind.symm.trans hsome)
    rw [if_pos rfl]

/-- and any other line is the field or is skipped. -/
theorem findHeaderValue_of_some {j : ℕ} (hj : findSub Http.crlf p = some j) (hpos : j ≠ 0) :
    findHeaderValue name p =
      if Http.isField name (p.take j) then
        some ((p.drop (name.length + 1)).dropWhile Http.isBlank)
      else findHeaderValue name (p.drop (j + 2)) := by
  have hne : p ≠ [] := by
    rintro rfl
    exact absurd hj (by simp [findSub, Http.crlf])
  rw [findHeaderValue, if_neg hne, isField_take]
  split
  · rename_i hnone
    rw [ascii_crlf] at hnone
    exact absurd (hj.symm.trans hnone) (by simp)
  · rename_i i hsome
    rw [ascii_crlf] at hsome
    obtain rfl := Option.some.inj (hj.symm.trans hsome)
    rw [if_neg hpos]

/-- The line at the value of a field. -/
theorem lineOf_value {j : ℕ} (hj : findSub Http.crlf p = some j)
    (hfield : Http.isField name (p.take j) = true) :
    lineOf ((p.drop (name.length + 1)).dropWhile Http.isBlank) =
      (Http.fieldValue name (p.take j)).dropWhile Http.isBlank := by
  have hline := lineOf_of_some hj
  have hlength : name.length + 1 ≤ (lineOf p).length := by
    have hle := findSub_le hj
    rw [isField_take, Bool.and_eq_true, Bool.and_eq_true, decide_eq_true_eq] at hfield
    have hlt : name.length < j := hfield.1.1
    rw [hline, List.length_take]
    omega
  rw [lineOf_dropWhile (by decide), lineOf_drop hlength, hline, Http.dropWhile_fieldValue]

/-- **`_find_header_value` finds the first line that is the field**, before the blank line. The
    induction is on the text: an occurrence of CR LF ends a line, and where two follow each other the
    lookup stops. -/
theorem findHeaderValue_lines {i : ℕ} (h : findSub (Http.crlf ++ Http.crlf) p = some i)
    (hline : ¬ Http.crlf <+: p) :
    (findHeaderValue name p).map lineOf =
      (Http.field? name (pieces Http.crlf (p.take (i + 2)))).map
        fun value => value.dropWhile Http.isBlank := by
  induction hlen : p.length using Nat.strongRecOn generalizing p i with
  | _ n ih =>
      obtain ⟨j, hji, hj⟩ := findSub_append h
      have hle := findSub_le h
      have hcrlf : (Http.crlf ++ Http.crlf).length = 4 := rfl
      have hpos : j ≠ 0 := by
        rintro rfl
        exact hline (prefix_of_findSub hj)
      have htake : findSub Http.crlf (p.take (i + 2)) = some j :=
        findSub_take_some hj (Nat.add_le_add_right hji 2)
      have hpieces : pieces Http.crlf (p.take (i + 2)) =
          p.take j :: pieces Http.crlf ((p.drop (j + 2)).take (i - j)) := by
        rw [pieces_of_some Http.crlf_ne_nil htake, List.take_take, Nat.min_eq_left (by omega),
          List.drop_take]
        congr 3
        show i + 2 - (j + 2) = i - j
        omega
      rw [findHeaderValue_of_some hj hpos, hpieces, Http.field?]
      cases hfield : Http.isField name (p.take j) with
      | true =>
          rw [if_pos rfl, List.find?_cons_of_pos hfield, Option.map_some, Option.map_some,
            Option.map_some, lineOf_value hj hfield]
      | false =>
          rw [if_neg Bool.false_ne_true, List.find?_cons_of_neg (by simp [hfield]), ← Http.field?]
          have hblank : Http.crlf <+: p.drop (i + 2) := by
            obtain ⟨rest, hrest⟩ := prefix_of_findSub h
            rw [← List.drop_drop, ← hrest, List.append_assoc]
            exact List.prefix_append _ _
          rcases overlap_free (by decide) (prefix_of_findSub hj)
            ((List.prefix_append _ _).trans (prefix_of_findSub h)) hji with rfl | hlt
          · -- the blank line is next
            rw [findHeaderValue_of_crlf hblank, Nat.sub_self, List.take_zero,
              pieces_nil Http.crlf_ne_nil]
            rfl
          · have hlt : j + 2 ≤ i := hlt
            have hrest := findSub_drop h hlt
            have hnext : ¬ Http.crlf <+: p.drop (j + 2) := by
              rintro ⟨rest, hrest⟩
              have hdouble : Http.crlf ++ Http.crlf <+: p.drop j := by
                obtain ⟨more, hmore⟩ := prefix_of_findSub hj
                refine ⟨rest, ?_⟩
                rw [← hmore, List.append_assoc, hrest, ← List.drop_drop, ← hmore]
                rfl
              obtain ⟨k, hk, hfirst⟩ := findSub_of_prefix hdouble
              obtain rfl := Option.some.inj (h.symm.trans hfirst)
              omega
            rw [ih _ (by rw [List.length_drop]; omega) hrest hnext rfl]
            congr 4
            omega

/-! ## The lists -/

theorem lineOf_skipComma (p : List UInt8) : lineOf (skipComma p) = skipComma (lineOf p) := by
  have hskip : ∀ {b : UInt8} (q : List UInt8), b ≠ 44 → skipComma (b :: q) = b :: q := by
    intro b q hb
    unfold skipComma
    split
    · rename_i hcons
      exact absurd (List.cons.inj hcons).1 hb
    · rfl
  cases p with
  | nil => rfl
  | cons b p =>
      by_cases hb : b = 44
      · subst hb
        rw [lineOf_cons (by decide)]
        rfl
      · rw [hskip p hb, lineOf]
        split
        · rfl
        · rw [hskip _ hb]

/-- A list has an element when its first one is that or the others have it. -/
theorem hasElement_split {token : List UInt8} (htoken : token ≠ []) (value : List UInt8) :
    Http.hasElement token value =
      (strcaseeq (Http.trim (value.takeWhile (· ≠ 44))) token ||
        Http.hasElement token (skipComma (value.dropWhile (· ≠ 44)))) := by
  have hfirst : 44 ∉ value.takeWhile (· ≠ 44) := fun hmem =>
    absurd (List.mem_takeWhile_imp hmem) (by decide)
  have hvalue := List.takeWhile_append_dropWhile (p := (· ≠ 44)) (l := value)
  cases hrest : value.dropWhile (· ≠ 44) with
  | nil =>
      rw [hrest, List.append_nil] at hvalue
      rw [hvalue] at hfirst ⊢
      have hnone : Http.hasElement token (skipComma []) = false := Http.hasElement_nil htoken
      rw [hnone, Http.hasElement, Http.elements_of_not_mem hfirst, List.any_cons, List.any_nil]
  | cons b rest =>
      have hhead := List.head?_dropWhile_not (· ≠ 44) value
      rw [hrest] at hhead
      obtain rfl : b = 44 := by simpa using hhead
      rw [hrest] at hvalue
      conv_lhs => rw [← hvalue, Http.hasElement, Http.elements_append hfirst, List.any_cons]
      rfl

/-- An element begins with no blank. -/
theorem trim_element (line : List UInt8) :
    Http.trim ((line.dropWhile isSkipped).takeWhile (· ≠ 44)) =
      ((line.dropWhile isSkipped).takeWhile (· ≠ 44)).rdropWhile Http.isBlank := by
  have hhead := List.head?_dropWhile_not isSkipped line
  rw [Http.trim]
  congr 1
  cases hstart : line.dropWhile isSkipped with
  | nil => rfl
  | cons b rest =>
      rw [hstart] at hhead
      have hb : isSkipped b = false := hhead
      rw [isSkipped, Bool.or_eq_false_iff, beq_eq_false_iff_ne] at hb
      rw [List.takeWhile_cons_of_pos (by simpa using hb.2),
        List.dropWhile_cons_of_neg (by simp [hb.1])]

/-- A pass of the loop looks at the first element and leaves the others. -/
theorem hasElement_pass {token : List UInt8} (htoken : token ≠ []) (p : List UInt8) :
    Http.hasElement token (lineOf p) =
      (strcaseeq ((elementAt (elementStart p)).rdropWhile Http.isBlank) token ||
        Http.hasElement token
          (lineOf (skipComma ((elementStart p).drop (elementAt (elementStart p)).length)))) := by
  have hskipped : ∀ b, isSkipped b = true → Http.isBlank b = true ∨ b = 44 := by
    intro b hb
    rwa [isSkipped, Bool.or_eq_true, beq_iff_eq] at hb
  have hstart : lineOf (elementStart p) = (lineOf p).dropWhile isSkipped :=
    lineOf_dropWhile (by decide) p
  have helement : elementAt (elementStart p) =
      ((lineOf p).dropWhile isSkipped).takeWhile (· ≠ 44) := by rw [elementAt, hstart]
  have hrest : lineOf ((elementStart p).drop (elementAt (elementStart p)).length) =
      ((lineOf p).dropWhile isSkipped).dropWhile (· ≠ 44) := by
    rw [helement, lineOf_drop, hstart]
    · generalize (lineOf p).dropWhile isSkipped = line
      calc line.drop (line.takeWhile (· ≠ 44)).length
          = (line.takeWhile (· ≠ 44) ++ line.dropWhile (· ≠ 44)).drop
              (line.takeWhile (· ≠ 44)).length := by rw [List.takeWhile_append_dropWhile]
        _ = line.dropWhile (· ≠ 44) := List.drop_left
    · rw [hstart]
      exact (List.takeWhile_prefix _).length_le
  rw [lineOf_skipComma, hrest, helement, ← trim_element, ← hasElement_split htoken,
    Http.hasElement_dropWhile htoken hskipped]

/-- **`_header_value_contains_token` finds the elements of the line**, and no others. The induction
    is on the passes of the loop. -/
theorem containsTokenLoop_eq {token : List UInt8} (htoken : token ≠ []) (p : List UInt8) :
    containsTokenLoop token p = Http.hasElement token (lineOf p) := by
  induction p using containsTokenLoop.induct token with
  | case1 p hend =>
      have hline : lineOf p = [] := by
        cases p with
        | nil => rfl
        | cons b p => rw [lineOf, if_pos hend]
      rw [containsTokenLoop, if_pos hend, hline, Http.hasElement_nil htoken]
  | case2 p hend hfound =>
      rw [containsTokenLoop, if_neg hend, if_pos hfound, hasElement_pass htoken, hfound, Bool.true_or]
  | case3 p hend hother ih =>
      rw [containsTokenLoop, if_neg hend, if_neg hother, hasElement_pass htoken, ih,
        Bool.eq_false_of_not_eq_true hother, Bool.false_or]

theorem headerValueContainsToken_eq {token : String} (htoken : ascii token ≠ [])
    (lineValue : Option (List UInt8)) :
    headerValueContainsToken lineValue token =
      (lineValue.map lineOf).any (Http.hasElement (ascii token)) := by
  cases lineValue with
  | none => rfl
  | some lineValue => exact containsTokenLoop_eq htoken lineValue

/-! ## The answer -/

/-- `Upgrade: a, b` has the elements `a` and `b`. -/
def FieldHasElement (lines : List (List UInt8)) (name token : String) : Prop :=
  ∃ value, Http.field? name lines = some value ∧ Http.hasElement (ascii token) value = true

/-- What a request has to have, given its lines. -/
structure Acceptable (request : List UInt8) (lines : List (List UInt8)) : Prop where
  get : ascii "GET " <+: request
  upgrade : FieldHasElement lines "Upgrade" "websocket"
  connection : FieldHasElement lines "Connection" "Upgrade"
  key : ∃ value, Http.field? "Sec-WebSocket-Key" lines = some value

/-- The key that is hashed, from what follows the colon. -/
def hashedKey (value : List UInt8) : List UInt8 :=
  ((value.dropWhile Http.isBlank).take 255).rdropWhile Http.isBlank

theorem length_sha1Input {key : List UInt8} (h : key.length ≤ 255) : (key ++ wsGuid).length < 512 := by
  have hguid : wsGuid.length = 36 := by decide
  rw [List.length_append]
  omega

/-- The answer to a key is a response, as the check of its length never fails. -/
theorem answer_key (ctx : Dtsha1.Ctx) (secKey : List UInt8) :
    (if (secKeyTrimmed secKey ++ wsGuid).length ≥ 512 then
      Except.error (Dterr.new .io "websocket handshake failed: Sec-WebSocket-Key too long")
    else .ok (response (base64Encode20bytes (Dtsha1.compute ctx (secKeyTrimmed secKey ++ wsGuid))))) =
      .ok (response (acceptValue (secKeyTrimmed secKey))) := by
  have hkey : (secKeyTrimmed secKey).length ≤ 255 :=
    Nat.le_trans (List.rdropWhile_prefix _ _).length_le
      (by rw [List.length_take]; exact Nat.min_le_left _ _)
  have hshort := length_sha1Input hkey
  rw [if_neg (Nat.not_le_of_lt hshort), compute_eq_sha1 ctx hshort,
    base64Encode20bytes_eq (length_sha1 _)]
  rfl

theorem not_crlf_of_get (hget : ascii "GET " <+: p) : ¬ Http.crlf <+: p := by
  rintro ⟨rest, rfl⟩
  obtain ⟨more, hmore⟩ := hget
  have hhead : some (71 : UInt8) = some 13 := congrArg List.head? hmore
  exact absurd hhead (by decide)

theorem get_take_iff {n : ℕ} (hn : 4 ≤ n) : ascii "GET " <+: p.take n ↔ ascii "GET " <+: p := by
  have hlen : (ascii "GET ").length = 4 := by decide
  rw [List.prefix_take_iff, hlen]
  exact and_iff_left hn

variable {i : ℕ}

/-- The check of a list, on the lines. -/
theorem containsToken_iff (name : String) {token : String} (htoken : ascii token ≠ [])
    (h : findSub (Http.crlf ++ Http.crlf) p = some i) (hline : ¬ Http.crlf <+: p) :
    headerValueContainsToken (findHeaderValue name p) token = true ↔
      FieldHasElement (pieces Http.crlf (p.take (i + 2))) name token := by
  rw [headerValueContainsToken_eq htoken, findHeaderValue_lines h hline, FieldHasElement]
  cases Http.field? name (pieces Http.crlf (p.take (i + 2))) with
  | none => exact iff_of_false Bool.false_ne_true (by rintro ⟨value, hvalue, -⟩; cases hvalue)
  | some value =>
      rw [Option.map_some, Option.any_some, Http.hasElement_dropWhile htoken fun b hb => Or.inl hb]
      constructor
      · intro hvalue
        exact ⟨value, rfl, hvalue⟩
      · rintro ⟨value', hsome, hvalue⟩
        rwa [Option.some.inj hsome]

/-- **What a request is answered with**: the response to its key, or an error. -/
theorem handshakeResponse_cases (ctx : Dtsha1.Ctx)
    (h : findSub (Http.crlf ++ Http.crlf) p = some i) :
    (∃ value, Acceptable p (pieces Http.crlf (p.take (i + 2))) ∧
      Http.field? "Sec-WebSocket-Key" (pieces Http.crlf (p.take (i + 2))) = some value ∧
      handshakeResponse ctx p = .ok (response (acceptValue (hashedKey value)))) ∨
    (¬ Acceptable p (pieces Http.crlf (p.take (i + 2))) ∧
      ∃ dterr, handshakeResponse ctx p = .error dterr) := by
  unfold handshakeResponse
  by_cases hget : ascii "GET " <+: p
  · have hline := not_crlf_of_get hget
    have hpre : (ascii "GET ").isPrefixOf p = true := List.isPrefixOf_iff_prefix.2 hget
    have hupgrade : headerValueContainsToken (findHeaderValue "Upgrade" p) "websocket" = true ↔ _ :=
      containsToken_iff "Upgrade" (by decide) h hline
    have hconnection :
        headerValueContainsToken (findHeaderValue "Connection" p) "Upgrade" = true ↔ _ :=
      containsToken_iff "Connection" (by decide) h hline
    have hkey : (findHeaderValue "Sec-WebSocket-Key" p).map lineOf = _ :=
      findHeaderValue_lines h hline
    rw [hpre, Bool.not_true, if_neg Bool.false_ne_true]
    dsimp only
    cases hu : headerValueContainsToken (findHeaderValue "Upgrade" p) "websocket" with
    | false =>
        rw [hu] at hupgrade
        exact Or.inr ⟨fun hacc => Bool.false_ne_true (hupgrade.2 hacc.upgrade), _, rfl⟩
    | true =>
        cases hc : headerValueContainsToken (findHeaderValue "Connection" p) "Upgrade" with
        | false =>
            rw [hc] at hconnection
            exact Or.inr ⟨fun hacc => Bool.false_ne_true (hconnection.2 hacc.connection), _, rfl⟩
        | true =>
            rw [Bool.not_true, if_neg Bool.false_ne_true]
            cases hs : findHeaderValue "Sec-WebSocket-Key" p with
            | none =>
                rw [hs, Option.map_none] at hkey
                have hnone := Option.map_eq_none_iff.1 hkey.symm
                refine Or.inr ⟨fun hacc => ?_, _, rfl⟩
                obtain ⟨value, hvalue⟩ := hacc.key
                rw [hnone] at hvalue
                cases hvalue
            | some secKey =>
                rw [hs, Option.map_some] at hkey
                obtain ⟨value, hvalue, hsame⟩ := Option.map_eq_some_iff.1 hkey.symm
                refine Or.inl ⟨value, ⟨hget, hupgrade.1 hu, hconnection.1 hc, value, hvalue⟩, hvalue, ?_⟩
                dsimp only
                rw [answer_key, hashedKey, hsame]
                rfl
  · have hpre : (ascii "GET ").isPrefixOf p = false := by
      rw [Bool.eq_false_iff, ne_eq, List.isPrefixOf_iff_prefix]
      exact hget
    rw [hpre]
    exact Or.inr ⟨fun hacc => hget hacc.get, _, rfl⟩

/-- The answer is made of the first four bytes and of the values the lookups find, up to the ends of
    their lines. -/
theorem handshakeResponse_congr (ctx ctx' : Dtsha1.Ctx) {p' : List UInt8}
    (hget : ascii "GET " <+: p ↔ ascii "GET " <+: p')
    (hvalue : ascii "GET " <+: p →
      ∀ name, (findHeaderValue name p).map lineOf = (findHeaderValue name p').map lineOf) :
    handshakeResponse ctx p = handshakeResponse ctx' p' := by
  have hpre : (ascii "GET ").isPrefixOf p = (ascii "GET ").isPrefixOf p' := by
    rw [Bool.eq_iff_iff, List.isPrefixOf_iff_prefix, List.isPrefixOf_iff_prefix]
    exact hget
  unfold handshakeResponse
  rw [← hpre]
  cases hp : (ascii "GET ").isPrefixOf p with
  | false => rw [Bool.not_false, if_pos rfl, if_pos rfl]
  | true =>
      have hvalue := hvalue (List.isPrefixOf_iff_prefix.1 hp)
      have hcontains : ∀ name token : String, ascii token ≠ [] →
          headerValueContainsToken (findHeaderValue name p) token =
            headerValueContainsToken (findHeaderValue name p') token := by
        intro name token htoken
        rw [headerValueContainsToken_eq htoken, headerValueContainsToken_eq htoken, hvalue]
      have hkey := hvalue "Sec-WebSocket-Key"
      dsimp only
      rw [hcontains "Upgrade" "websocket" (by decide), hcontains "Connection" "Upgrade" (by decide)]
      cases hs : findHeaderValue "Sec-WebSocket-Key" p with
      | none =>
          rw [hs, Option.map_none] at hkey
          rw [Option.map_eq_none_iff.1 hkey.symm]
      | some secKey =>
          rw [hs, Option.map_some] at hkey
          obtain ⟨secKey', hs', hsame⟩ := Option.map_eq_some_iff.1 hkey.symm
          have htrimmed : secKeyTrimmed secKey = secKeyTrimmed secKey' := by
            rw [secKeyTrimmed, secKeyTrimmed, hsame]
          rw [hs']
          dsimp only
          rw [answer_key, answer_key, htrimmed]

/-- **Nothing behind the blank line is read.** -/
theorem handshakeResponse_take (ctx ctx' : Dtsha1.Ctx)
    (h : findSub (Http.crlf ++ Http.crlf) p = some i) {n n' : ℕ} (hn : i + 4 ≤ n)
    (hn' : i + 4 ≤ n') : handshakeResponse ctx (p.take n) = handshakeResponse ctx' (p.take n') := by
  have hget : ∀ m, i + 4 ≤ m → (ascii "GET " <+: p.take m ↔ ascii "GET " <+: p) := fun m hm =>
    get_take_iff (Nat.le_trans (Nat.le_add_left 4 i) hm)
  have hvalue : ∀ m, i + 4 ≤ m → ascii "GET " <+: p → ∀ name,
      (findHeaderValue name (p.take m)).map lineOf =
        (Http.field? name (pieces Http.crlf (p.take (i + 2)))).map
          fun value => value.dropWhile Http.isBlank := by
    intro m hm hp name
    rw [findHeaderValue_lines (findSub_take_some h hm) (not_crlf_of_get ((hget m hm).2 hp)),
      List.take_take, Nat.min_eq_left (by omega)]
  refine handshakeResponse_congr ctx ctx' ((hget n hn).trans (hget n' hn').symm) fun hp name => ?_
  have hp := (hget n hn).1 hp
  rw [hvalue n hn hp, hvalue n' hn' hp]

end DtioxLinuxWebsocket
