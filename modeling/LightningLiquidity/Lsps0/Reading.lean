import LightningLiquidity.Lsps0.RoundTrip

/-!
# What reading a text depends on

Whether a text is an answer, and under which id, is seen without the map of requests sent
(`LSPSMessage.answeredId`). Only an answer is read with the map, of which only the method
of its id matters (`fromStrWithIdMap_answer`), and only its id is taken off the map.
-/

namespace LightningLiquidity

namespace LSPSMessage

variable {serde : Serde} {payload : String} {requestId : RequestId} {method : LSPSMethod}
  {m : LSPSMessage}

/-- What is read as a response answers a request of the method it is read with. -/
theorem getResponseIdAndMethod_response {ms : MessageMembers}
    (h : (protocol serde).response ms requestId method = some m) :
    m.getResponseIdAndMethod = some (requestId, method) := by
  rw [JsonRpc.Protocol.response] at h
  split at h
  · next error result herror =>
    obtain rfl := Option.some.inj h
    cases method <;> rfl
  · next result herror hresult =>
    cases method with
    | lsps0ListProtocols | lsps2GetInfo | lsps2Buy =>
      obtain ⟨response, -, rfl⟩ := Option.map_eq_some_iff.1 h
      rfl
  · cases h

/-- What is read as a request is no response. -/
theorem getResponseIdAndMethod_readRequest {params : Json}
    (h : readRequest serde requestId method params = some m) : m.getResponseIdAndMethod = none := by
  cases method with
  | lsps0ListProtocols =>
    obtain rfl := Option.some.inj h
    rfl
  | lsps2GetInfo | lsps2Buy =>
    obtain ⟨request, -, rfl⟩ := Option.map_eq_some_iff.1 h
    rfl

/-- The members of the JSON-RPC object a text starts with. -/
def members (serde : Serde) (payload : String) : Option MessageMembers :=
  (serde.parseJson payload).bind fun v => (protocol serde).readValue v.1

/-- The id answered by a text. -/
def answeredId (serde : Serde) (payload : String) : Option RequestId :=
  (members serde payload).bind JsonRpc.Members.answeredId

/-- The answer a text is, to a request of the given id and method. -/
def answer (serde : Serde) (payload : String) (requestId : RequestId) (method : LSPSMethod) :
    Option LSPSMessage :=
  (members serde payload).bind fun members => (protocol serde).response members requestId method

/-- A text without members cannot be read. -/
theorem fromStrWithIdMap_of_members_eq_none (h : members serde payload = none)
    (map : PartialMap RequestId LSPSMethod) :
    fromStrWithIdMap serde payload map = (none, map) := by
  cases hparse : serde.parseJson payload with
  | none => rw [fromStrWithIdMap, hparse]
  | some parsed =>
    rw [members, hparse, Option.bind_some] at h
    exact (fromStrWithIdMap_eq_decode hparse map).trans (JsonRpc.decode_of_readValue_eq_none h)

theorem fromStrWithIdMap_of_members_eq_some {ms : MessageMembers}
    (h : members serde payload = some ms) (map : PartialMap RequestId LSPSMethod) :
    fromStrWithIdMap serde payload map = (protocol serde).message ms map := by
  obtain ⟨⟨v, rest⟩, hparse, hread⟩ := Option.bind_eq_some_iff.1 h
  exact (fromStrWithIdMap_eq_decode hparse map).trans (JsonRpc.decode_of_readValue hread)

/-- An answer is read with the method of its id, which is taken off the map. -/
theorem fromStrWithIdMap_answer (h : answeredId serde payload = some requestId)
    (map : PartialMap RequestId LSPSMethod) :
    fromStrWithIdMap serde payload map =
      ((map requestId).bind (answer serde payload requestId), map.remove requestId) := by
  obtain ⟨ms, hms, hid⟩ := Option.bind_eq_some_iff.1 h
  have hanswer : answer serde payload requestId = (protocol serde).response ms requestId := by
    funext method
    rw [answer, hms, Option.bind_some]
  rw [fromStrWithIdMap_of_members_eq_some hms, JsonRpc.message_answer hid, hanswer]

/-- What is no answer is read without the map, and not as a response. -/
theorem fromStrWithIdMap_other (h : answeredId serde payload = none) :
    ∃ m, (∀ map, fromStrWithIdMap serde payload map = (m, map)) ∧
      ∀ m', m = some m' → m'.getResponseIdAndMethod = none := by
  cases hms : members serde payload with
  | none => exact ⟨none, fromStrWithIdMap_of_members_eq_none hms, nofun⟩
  | some ms =>
    rw [answeredId, hms, Option.bind_some] at h
    obtain ⟨m, hm, hother⟩ := JsonRpc.message_other (protocol serde) h
    refine ⟨m, fun map => (fromStrWithIdMap_of_members_eq_some hms map).trans (hm map), ?_⟩
    rintro m' rfl
    rcases hother with hnone | ⟨error, hunknown⟩ | ⟨id, method, params, hrequest⟩
    · cases hnone
    · obtain ⟨-, hinvalid⟩ := Option.ite_none_right_eq_some.1 hunknown.symm
      obtain rfl := Option.some.inj hinvalid
      rfl
    · exact getResponseIdAndMethod_readRequest hrequest.symm

/-- A text is read the same with maps that agree on the id it answers. -/
theorem fst_fromStrWithIdMap_congr {map map' : PartialMap RequestId LSPSMethod}
    (h : ∀ requestId, answeredId serde payload = some requestId → map requestId = map' requestId) :
    (fromStrWithIdMap serde payload map).1 = (fromStrWithIdMap serde payload map').1 := by
  cases hid : answeredId serde payload with
  | none =>
    obtain ⟨m, hm, -⟩ := fromStrWithIdMap_other hid
    rw [hm, hm]
  | some requestId => rw [fromStrWithIdMap_answer hid, fromStrWithIdMap_answer hid, h _ hid]

/-- Reading a text takes off the id it answers. -/
theorem snd_fromStrWithIdMap (serde : Serde) (payload : String)
    (map : PartialMap RequestId LSPSMethod) :
    (fromStrWithIdMap serde payload map).2 =
      (answeredId serde payload).elim map map.remove := by
  cases hid : answeredId serde payload with
  | none =>
    obtain ⟨m, hm, -⟩ := fromStrWithIdMap_other hid
    rw [hm, Option.elim_none]
  | some requestId => rw [fromStrWithIdMap_answer hid, Option.elim_some]

/-- What is read as a response answers the request of its id, of the method in the map. -/
theorem response_fromStrWithIdMap {map : PartialMap RequestId LSPSMethod}
    (h : (fromStrWithIdMap serde payload map).1 = some m)
    (hm : m.getResponseIdAndMethod = some (requestId, method)) :
    answeredId serde payload = some requestId ∧ map requestId = some method ∧
      answer serde payload requestId method = some m := by
  cases hid : answeredId serde payload with
  | none =>
    obtain ⟨_, hread, hno⟩ := fromStrWithIdMap_other hid
    rw [hread] at h
    cases (hno m h).symm.trans hm
  | some id =>
    rw [fromStrWithIdMap_answer hid] at h
    obtain ⟨method', hmethod', hanswer⟩ := Option.bind_eq_some_iff.1 h
    obtain ⟨ms, -, hresponse⟩ := Option.bind_eq_some_iff.1 hanswer
    obtain ⟨rfl, rfl⟩ := Prod.mk.inj (Option.some.inj
      ((getResponseIdAndMethod_response hresponse).symm.trans hm))
    exact ⟨rfl, hmethod', hanswer⟩

end LSPSMessage

end LightningLiquidity
