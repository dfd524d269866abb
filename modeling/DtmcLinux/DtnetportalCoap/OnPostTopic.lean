import DtmcLinux.Dtcore.Dterr
import DtmcLinux.Posix.CString

set_option autoImplicit false

/-! # The handler of incoming topics

`dtnetportal_coap__on_post_topic` of `dtnetportal_coap__callbacks.c`: the query of a POST request is
the topic, its payload is handed to the manifold. The query is copied into `topic[256]` without a
look at the pointer or at the length, and the manifold gets a C string. What the handler does to
memory is recorded; after a write behind the array the code promises nothing, and the model goes on
as if there were room. -/

namespace DtnetportalCoap

open Posix

/-- What a request brings: whether the pointers are set, its query, and its payload. -/
structure PostRequest where
  self : Bool
  manifold : Bool
  resource : Bool
  incomingPdu : Bool
  responsePdu : Bool
  query : Option (List UInt8)
  payload : Option (List UInt8)

/-- The results of `dtbuffer_wrap` and `dtmanifold_publish`, and what `topic` holds before. -/
structure PostCalls where
  wrap : Option (List UInt8) → Int32 → Option Dterr
  publish : List UInt8 → Option (List UInt8) → Option Dterr
  stack : List UInt8

/-- What the handler has done: whether it has read a query that is `NULL`, the indices of `topic` it
    has written, the response codes it has set, and the topic `dtmanifold_publish` has got. -/
structure Handling where
  readsNullQuery : Bool
  topicIndices : List ℕ
  responseCodes : List ℕ
  published : Option (List UInt8)
  deriving DecidableEq

/-- `sizeof(topic)` -/
def topicSize : ℕ := 256

/-- `topic` after `memcpy` and the NUL byte. -/
def topicArray (stack query : List UInt8) : List UInt8 :=
  query ++ 0 :: stack.drop (query.length + 1)

/-- The first check of the handler. -/
def PostRequest.complete (r : PostRequest) : Bool :=
  !(!r.self || !r.manifold || !r.resource || !r.incomingPdu || !r.responsePdu)

/-- `dtnetportal_coap__on_post_topic` -/
def onPostTopic (calls : PostCalls) (r : PostRequest) : Handling :=
  if !r.complete then
    { readsNullQuery := false, topicIndices := [], responseCodes := [500], published := none }
  else
    match r.query with
    -- `query->s` and `query->length` are evaluated all the same
    | none =>
      { readsNullQuery := true, topicIndices := [], responseCodes := [], published := none }
    | some query =>
      let indices := List.range query.length ++ [query.length]
      let topic := cString (topicArray calls.stack query)
      let len := (r.payload.getD []).length
      match calls.wrap r.payload (Int32.ofNat len) with
      | some _ =>
        { readsNullQuery := false, topicIndices := indices, responseCodes := [500]
          published := none }
      | none =>
        let code := if (calls.publish topic r.payload).isSome then 500 else 204
        { readsNullQuery := false, topicIndices := indices, responseCodes := [code]
          published := some topic }

/-- The handler stays in its memory, answers once, and publishes under the whole query. -/
structure Handling.Safe (r : PostRequest) (h : Handling) : Prop where
  queryPresent : h.readsNullQuery = false
  inTopic : ∀ i ∈ h.topicIndices, i < topicSize
  answersOnce : h.responseCodes.length = 1
  wholeQuery : ∀ topic, h.published = some topic → r.query = some topic

/-- A request that gets past the first check has a query, which leaves room for the NUL byte, and has
    no NUL byte of its own unless its payload cannot be wrapped. -/
def PostRequest.Fits (calls : PostCalls) (r : PostRequest) : Prop :=
  r.complete = true → ∃ query, r.query = some query ∧ query.length < topicSize ∧
    (calls.wrap r.payload (Int32.ofNat (r.payload.getD []).length) = none → 0 ∉ query)

/-- The C string in `topic` is the query up to its first NUL byte. -/
theorem cString_topicArray (stack query : List UInt8) :
    cString (topicArray stack query) = cString query :=
  cString_append_zero query _

/-- The indices written are those of the query and the one behind it. -/
theorem range_lt_topicSize {n : ℕ} :
    (∀ i ∈ List.range n ++ [n], i < topicSize) ↔ n < topicSize := by
  constructor
  · intro h
    exact h n (List.mem_append_right _ (List.mem_singleton_self n))
  · intro hn i hi
    rcases List.mem_append.1 hi with hi | hi
    · exact Nat.lt_trans (List.mem_range.1 hi) hn
    · exact List.mem_singleton.1 hi ▸ hn

/-- **Exact condition.** For every request, with every result of the calls: the handler stays in its
    memory, answers once and publishes under the whole query exactly when the request is refused by
    the first check, or has a query of less than 256 bytes without a NUL byte. -/
theorem on_post_topic_exact (calls : PostCalls) (r : PostRequest) :
    (onPostTopic calls r).Safe r ↔ r.Fits calls := by
  unfold onPostTopic PostRequest.Fits
  cases hcomplete : r.complete with
  | false => exact iff_of_true ⟨rfl, nofun, rfl, nofun⟩ nofun
  | true =>
      simp only [Bool.not_true, Bool.false_eq_true, if_false, forall_const]
      cases hquery : r.query with
      | none => exact iff_of_false (fun h => Bool.noConfusion h.queryPresent) nofun
      | some query =>
          simp only [Option.some.injEq, exists_eq_left']
          cases hwrap : calls.wrap r.payload (Int32.ofNat (r.payload.getD []).length) with
          | some dterr =>
              constructor
              · exact fun h => ⟨range_lt_topicSize.1 h.inTopic, nofun⟩
              · exact fun h => ⟨rfl, range_lt_topicSize.2 h.1, rfl, nofun⟩
          | none =>
              simp only [forall_const, cString_topicArray]
              constructor
              · intro h
                have hwhole := h.wholeQuery _ rfl
                rw [hquery, Option.some.injEq] at hwhole
                exact ⟨range_lt_topicSize.1 h.inTopic, cString_eq_self_iff.1 hwhole.symm⟩
              · intro h
                refine ⟨rfl, range_lt_topicSize.2 h.1, rfl, ?_⟩
                rintro topic ⟨⟩
                rw [hquery, cString_eq_self_iff.2 h.2]

/-- Calls that succeed. -/
def succeedingCalls : PostCalls := ⟨fun _ _ => none, fun _ _ => none, List.replicate topicSize 0⟩

/-- A POST request with a payload of one byte, and the query given. -/
def postRequest (query : Option (List UInt8)) : PostRequest :=
  ⟨true, true, true, true, true, query, some [55]⟩

/-- A request without a query, one whose query has 256 bytes, and one whose query has a NUL byte. -/
theorem unchecked_query_copied :
    ¬(∀ (calls : PostCalls) (r : PostRequest), (onPostTopic calls r).Safe r) ∧
    (onPostTopic succeedingCalls (postRequest none)).readsNullQuery = true ∧
    256 ∈ (onPostTopic succeedingCalls (postRequest (some (List.replicate 256 65)))).topicIndices ∧
    (onPostTopic succeedingCalls (postRequest (some [65, 0, 66]))).published = some [65] := by
  have hnull : (onPostTopic succeedingCalls (postRequest none)).readsNullQuery = true := rfl
  refine ⟨fun h => ?_, hnull, by decide +kernel, rfl⟩
  have hpresent := (h succeedingCalls (postRequest none)).queryPresent
  exact Bool.noConfusion (hnull.symm.trans hpresent)

end DtnetportalCoap
