import DtmcLinux.Dtcore.Dterr
import DtmcLinux.DtnetportalCoap.Basic
import Mathlib.Algebra.Ring.Nat
import Mathlib.Data.List.Sort

set_option autoImplicit false

/-! # One request

`dtnetportal_coap__ioloop_publish_one` of `dtnetportal_coap__ioloop.c` builds a confirmable `POST` for
`/ingress` whose query is the topic, and hands it to libcoap. What libcoap returns is an argument. The
results of `coap_add_optlist_pdu` and of `coap_add_data` are not looked at: an option or a payload for
which the PDU has no room is left out of a request that is sent all the same. -/

namespace DtnetportalCoap

open Posix

/-- An option of a request. -/
structure CoapOption where
  number : ℕ
  value : List UInt8
  deriving DecidableEq

/-- `COAP_OPTION_URI_PATH`, `COAP_OPTION_CONTENT_FORMAT` and `COAP_OPTION_URI_QUERY` -/
def uriPath : ℕ := 11
def contentFormat : ℕ := 12
def uriQuery : ℕ := 15

/-- `COAP_MEDIATYPE_APPLICATION_OCTET_STREAM`, as `coap_encode_var_safe` encodes it. -/
def octetStream : List UInt8 := [42]

/-- A confirmable `POST`. -/
structure Pdu where
  mid : ℕ
  token : List UInt8
  options : List CoapOption
  payload : Option (List UInt8)
  deriving DecidableEq

/-- The values of the options with the number, in their order. -/
def Pdu.values (pdu : Pdu) (number : ℕ) : List (List UInt8) :=
  (pdu.options.filter fun o => o.number = number).map CoapOption.value

/-- What the calls return: whether context, session and URI are there, `coap_pdu_init`,
    `coap_new_message_id`, `coap_session_new_token`, `coap_new_optlist` for an option, whether the PDU
    has room for an option and for the payload, and whether `coap_send` gives a message id. -/
structure PublishCalls where
  ready : Bool
  pduInit : Bool
  mid : ℕ
  token : List UInt8
  newOptlist : CoapOption → Bool
  optionRoom : CoapOption → Bool
  dataRoom : Bool
  send : Bool

/-- The options, in the order in which they are made, and what is said when one is not. The length of
    the topic is cut to 16 bits. -/
def requestOptions (topic data : List UInt8) : List (CoapOption × String) :=
  [(⟨uriPath, ascii "ingress"⟩, "unable to add URI-Path option")] ++
    (if data = [] then []
      else [(⟨contentFormat, octetStream⟩, "unable to add Content-Format option")]) ++
    [(⟨uriQuery, topic.take (topic.length % 2 ^ 16)⟩, "unable to add URI-Query option")]

/-- `coap_add_optlist_pdu`: in the order of their numbers, those for which there is room. -/
def addOptlistPdu (room : CoapOption → Bool) (options : List CoapOption) : List CoapOption :=
  (options.insertionSort fun a b => a.number ≤ b.number).filter room

/-- The request that is handed to `coap_send`. -/
def requestPdu (calls : PublishCalls) (topic data : List UInt8) : Pdu where
  mid := calls.mid
  token := calls.token
  options := addOptlistPdu calls.optionRoom ((requestOptions topic data).map Prod.fst)
  payload := if data ≠ [] ∧ calls.dataRoom = true then some data else none

/-- The error, if there is one, and what has been sent. -/
structure PublishOutcome where
  dterr : Option Dterr
  sent : Option Pdu

/-- The cleanup after an error. -/
def PublishOutcome.failed (topic : List UInt8) (message : String) : PublishOutcome :=
  ⟨some (.rechain (.new .fail message) s!"unable to publish on /ingress?{textOf topic}"), none⟩

/-- `dtnetportal_coap__ioloop_publish_one`, whose `data` points into a buffer. -/
def ioloopPublishOne (calls : PublishCalls) (topic data : List UInt8) : PublishOutcome :=
  if !calls.ready then ⟨some (.new .fail "invalid args"), none⟩
  else if !calls.pduInit then .failed topic "coap_pdu_init failed"
  else
    match (requestOptions topic data).find? fun o => !calls.newOptlist o.1 with
    | some o => .failed topic o.2
    | none =>
      if !calls.send then .failed topic "coap_send failed"
      else ⟨none, some (requestPdu calls topic data)⟩

/-! ## What a request says -/

/-- The request asks `/ingress` to take the data under the topic. -/
structure Pdu.Carries (pdu : Pdu) (topic data : List UInt8) : Prop where
  path : pdu.values uriPath = [ascii "ingress"]
  query : pdu.values uriQuery = [topic]
  payload : pdu.payload = if data = [] then none else some data

/-- There is room for everything in the PDU. -/
structure PublishCalls.HasRoom (calls : PublishCalls) : Prop where
  options : ∀ o, calls.optionRoom o = true
  data : calls.dataRoom = true

/-- The options are made in the order of their numbers. -/
theorem requestOptions_sorted (topic data : List UInt8) :
    ((requestOptions topic data).map Prod.fst).Pairwise fun a b => a.number ≤ b.number := by
  unfold requestOptions
  split <;> simp [uriPath, contentFormat, uriQuery]

theorem addOptlistPdu_requestOptions {room : CoapOption → Bool} (hroom : ∀ o, room o = true)
    (topic data : List UInt8) :
    addOptlistPdu room ((requestOptions topic data).map Prod.fst) =
      (requestOptions topic data).map Prod.fst := by
  rw [addOptlistPdu, List.filter_eq_self.2 fun o _ => hroom o]
  exact List.Pairwise.insertionSort_eq (requestOptions_sorted topic data)

/-- **The request says what it is given**, when there is room for it. -/
theorem requestPdu_carries {calls : PublishCalls} (hroom : calls.HasRoom) {topic : List UInt8}
    (hshort : topic.length < 2 ^ 16) (data : List UInt8) :
    (requestPdu calls topic data).Carries topic data := by
  have hoptions : (requestPdu calls topic data).options = (requestOptions topic data).map Prod.fst :=
    addOptlistPdu_requestOptions hroom.options topic data
  have htopic : topic.take (topic.length % 2 ^ 16) = topic := by
    rw [Nat.mod_eq_of_lt hshort, List.take_length]
  refine ⟨?_, ?_, ?_⟩
  · rw [Pdu.values, hoptions, requestOptions]
    split <;> simp [uriPath, contentFormat, uriQuery]
  · rw [Pdu.values, hoptions, requestOptions, htopic]
    split <;> simp [uriPath, contentFormat, uriQuery]
  · show (if data ≠ [] ∧ calls.dataRoom = true then some data else none) = _
    rw [hroom.data]
    by_cases hdata : data = []
    · rw [if_neg fun h => h.1 hdata, if_pos hdata]
    · rw [if_pos ⟨hdata, rfl⟩, if_neg hdata]

/-- A request is sent if and only if no error is returned. -/
theorem ioloopPublishOne_sent (calls : PublishCalls) (topic data : List UInt8) :
    (∃ dterr, ioloopPublishOne calls topic data = ⟨some dterr, none⟩) ∨
      ioloopPublishOne calls topic data = ⟨none, some (requestPdu calls topic data)⟩ := by
  unfold ioloopPublishOne
  split
  · exact .inl ⟨_, rfl⟩
  · split
    · exact .inl ⟨_, rfl⟩
    · split
      · exact .inl ⟨_, rfl⟩
      · split
        · exact .inl ⟨_, rfl⟩
        · exact .inr rfl

end DtnetportalCoap
