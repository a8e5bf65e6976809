import LightningLiquidity.Lsps0.Ser

/-!
# Messages are read back

A message that is written and read again is the same message
(`fromStrWithIdMap_serialize`): of any of the requests and responses, if the ids of
responses lead to the methods they answer. Reading a response takes its id off the
map; reading anything else leaves the map as it is.

This only relies on the texts of the JSON value and of the date-times of the message
being read back (`Serde.RoundTrips`).
-/

namespace LightningLiquidity

namespace LSPSMessage

/-- The id of a response, and the method it answers. -/
def getResponseIdAndMethod : LSPSMessage → Option (RequestId × LSPSMethod)
  | lsps0 (.response requestId _) => some (requestId, .lsps0ListProtocols)
  | lsps2 (.response requestId (.getInfo _)) => some (requestId, .lsps2GetInfo)
  | lsps2 (.response requestId (.getInfoError _)) => some (requestId, .lsps2GetInfo)
  | lsps2 (.response requestId (.buy _)) => some (requestId, .lsps2Buy)
  | lsps2 (.response requestId (.buyError _)) => some (requestId, .lsps2Buy)
  | _ => none

/-- The date-times of a message. -/
def dates : LSPSMessage → List DateTime
  | lsps2 (.request _ (.buy params)) => [params.openingFeeParams.validUntil]
  | lsps2 (.response _ (.getInfo result)) =>
    result.openingFeeParamsMenu.map OpeningFeeParams.validUntil
  | _ => []

/-- The map after reading a message: without the id of a response. -/
def mapAfter (m : LSPSMessage) (map : PartialMap RequestId LSPSMethod) :
    PartialMap RequestId LSPSMethod :=
  match m.getResponseIdAndMethod with
  | some (requestId, _) => map.remove requestId
  | none => map

/-- The map leads from the id of a response to the method it answers. -/
def AnsweredBy (m : LSPSMessage) (map : PartialMap RequestId LSPSMethod) : Prop :=
  ∀ requestId method, m.getResponseIdAndMethod = some (requestId, method) →
    map requestId = some method

/-- An error without a request says that a message could not be parsed. -/
def ValidError : LSPSMessage → Prop
  | invalid error => error.code = jsonrpcInvalidMessageErrorCode
  | _ => True

end LSPSMessage

/-- The message is written as a text from which it, and its date-times, are read back. -/
structure Serde.RoundTrips (serde : Serde) (m : LSPSMessage) : Prop where
  json : serde.ReadsBackJson (m.serialize serde)
  dates : ∀ t ∈ m.dates, serde.ReadsBack t

/-! ## Members -/

theorem readResponseError_writeResponseError (error : ResponseError) :
    readResponseError (writeResponseError error) = some error := by
  have hcount (key : String) : Json.countMembers key (writeResponseError error) ≤ 1 :=
    Json.countMembers_ofMembers (by simp) key
  rw [readResponseError, if_pos ⟨Json.isRecord_ofMembers .., fun key _ => hcount key⟩,
    writeResponseError]
  simp [Json.required_ofMembers, Json.optional_ofMembers]

theorem readListProtocolsResponse_writeListProtocolsResponse (result : ListProtocolsResponse) :
    readListProtocolsResponse (writeListProtocolsResponse result) = some result := by
  have hprotocols := Json.asList_array (l := result.protocols) fun p _ => Json.asUInt16_ofNat p
  rw [readListProtocolsResponse, writeListProtocolsResponse, if_pos (Json.isRecord_ofMembers ..)]
  simp [Json.required_ofMembers, hprotocols]

theorem LSPSMethod.read_display (method : LSPSMethod) :
    LSPSMethod.read (.ofString method.display) = some method := by
  cases method <;> decide +kernel

namespace LSPSMessage

variable {serde : Serde} {map : PartialMap RequestId LSPSMethod} {m : LSPSMessage}
  {requestId : RequestId} {method : LSPSMethod}

/-- A text is read by its value. -/
theorem fromStrWithIdMap_eq_decode {text rest : String} {v : Json}
    (hparse : serde.parseJson text = some (v, rest)) (map : PartialMap RequestId LSPSMethod) :
    fromStrWithIdMap serde text map = (protocol serde).decode v map := by
  rw [fromStrWithIdMap, hparse]
  cases v <;> rfl

/-! ## Messages -/

theorem decode_request {params : Json} (hm : m.getResponseIdAndMethod = none)
    (h : readRequest serde requestId method params = some m) :
    (protocol serde).decode (writeRequest requestId method params) map =
      (some m, m.mapAfter map) := by
  rw [mapAfter, hm]
  exact JsonRpc.decode_writeRequest rfl method.read_display h

/-- A result is read by the method its id leads to. -/
theorem decode_result {result : Json} (hmap : m.AnsweredBy map)
    (hm : m.getResponseIdAndMethod = some (requestId, method))
    (h : readResult serde requestId method result = some m) :
    (protocol serde).decode (writeResult requestId result) map = (some m, m.mapAfter map) := by
  rw [mapAfter, hm]
  exact JsonRpc.decode_writeResult rfl (hmap _ _ hm) h

theorem decode_error {error : ResponseError} (hmap : m.AnsweredBy map)
    (hm : m.getResponseIdAndMethod = some (requestId, method))
    (h : ofError requestId method error = m) :
    (protocol serde).decode (writeError requestId error) map = (some m, m.mapAfter map) := by
  rw [mapAfter, hm, ← h]
  exact JsonRpc.decode_writeError rfl (hmap _ _ hm) (readResponseError_writeResponseError error)

/-- The JSON value of a message is read as the message. -/
theorem decode_serialize (m : LSPSMessage) (hdates : ∀ t ∈ m.dates, serde.ReadsBack t)
    (hvalid : m.ValidError) (hmap : m.AnsweredBy map) :
    (protocol serde).decode (m.serialize serde) map = (some m, m.mapAfter map) := by
  rcases m with error | ⟨⟨requestId, request⟩ | ⟨requestId, response⟩⟩ |
    ⟨⟨requestId, request⟩ | ⟨requestId, response⟩⟩
  · have hm : (protocol serde).unknown error = some (.invalid error) := if_pos hvalid
    exact hm ▸ JsonRpc.decode_writeError_null (readResponseError_writeResponseError error)
  · obtain ⟨⟨⟩⟩ := request
    exact decode_request rfl rfl
  · rcases response with result | error
    · refine decode_result hmap rfl ?_
      simp only [readResult, readListProtocolsResponse_writeListProtocolsResponse, Option.map_some]
    · exact decode_error hmap rfl rfl
  · rcases request with params | params
    · refine decode_request rfl ?_
      simp only [readRequest, LSPSMethod.ofLSPS2Request, readGetInfoRequest_writeGetInfoRequest,
        Option.map_some]
    · have hparams := readBuyRequest_writeBuyRequest (hdates _ List.mem_cons_self)
      refine decode_request rfl ?_
      simp only [readRequest, LSPSMethod.ofLSPS2Request, hparams, Option.map_some]
  · rcases response with result | error | result | error
    · have hresult : readGetInfoResponse serde (writeGetInfoResponse serde result) = some result :=
        readGetInfoResponse_writeGetInfoResponse fun _ hparams =>
          hdates _ (List.mem_map_of_mem hparams)
      refine decode_result hmap rfl ?_
      simp only [readResult, hresult, Option.map_some]
    · exact decode_error hmap rfl rfl
    · refine decode_result hmap rfl ?_
      simp only [readResult, readBuyResponse_writeBuyResponse, Option.map_some]
    · exact decode_error hmap rfl rfl

/-- **Messages are read back.** A message is written as a text that is read as the
    message, if the id of a response leads to the method it answers; the map loses this
    id, and is else unchanged. -/
theorem fromStrWithIdMap_serialize (serde : Serde) (m : LSPSMessage)
    (map : PartialMap RequestId LSPSMethod) (hserde : serde.RoundTrips m) (hvalid : m.ValidError)
    (hmap : m.AnsweredBy map) :
    ∃ text, serde.writeJson (m.serialize serde) = some text ∧
      fromStrWithIdMap serde text map = (some m, m.mapAfter map) := by
  obtain ⟨text, hwrite, hparse⟩ := hserde.json
  refine ⟨text, hwrite, (fromStrWithIdMap_eq_decode hparse map).trans ?_⟩
  exact m.decode_serialize hserde.dates hvalid hmap

end LSPSMessage

/-- An answer to a `get_info` request, with one offer. -/
def sampleMenu : LSPSMessage :=
  .lsps2 (.response ⟨"1"⟩ (.getInfo ⟨[⟨10, 100000, ⟨2000000000, 0⟩, 144, 128, 1, 1000, "00ff"⟩]⟩))

/-- The text of the answer. -/
def sampleMenuText : String :=
  "\x7b\"jsonrpc\":\"2.0\",\"id\":\"1\",\"result\":\x7b\"opening_fee_params_menu\":[" ++
  "\x7b\"min_fee_msat\":\"10\",\"proportional\":100000," ++
  "\"valid_until\":\"2033-05-18T03:33:20Z\",\"min_lifetime\":144," ++
  "\"max_client_to_self_delay\":128,\"min_payment_size_msat\":\"1\"," ++
  "\"max_payment_size_msat\":\"1000\",\"promise\":\"00ff\"\x7d]\x7d\x7d"

/-- The text of the date-time of the offer. -/
def sampleMenuDates : Serde where
  parseJson _ := none
  writeJson _ := none
  parseDateTime text := if text = "2033-05-18T03:33:20Z" then some ⟨2000000000, 0⟩ else none
  writeDateTime _ := "2033-05-18T03:33:20Z"

/-- The text of the answer, and of the date-time in it. -/
def sampleMenuSerde : Serde :=
  { sampleMenuDates with
    parseJson := fun text =>
      if text = sampleMenuText then some (sampleMenu.serialize sampleMenuDates, "") else none
    writeJson := fun _ => some sampleMenuText }

/-- The answer is read back by who has asked. -/
theorem LSPSMessage.fromStrWithIdMap_serialize_menu :
    ∃ text, sampleMenuSerde.writeJson (sampleMenu.serialize sampleMenuSerde) = some text ∧
      fromStrWithIdMap sampleMenuSerde text (PartialMap.empty.insert ⟨"1"⟩ .lsps2GetInfo) =
        (some sampleMenu, sampleMenu.mapAfter (PartialMap.empty.insert ⟨"1"⟩ .lsps2GetInfo)) := by
  have hparse : sampleMenuSerde.parseJson sampleMenuText =
      some (sampleMenu.serialize sampleMenuDates, "") := by
    simp [sampleMenuSerde]
  refine fromStrWithIdMap_serialize sampleMenuSerde sampleMenu _ ⟨⟨_, rfl, hparse⟩, ?_⟩ trivial ?_
  · intro t ht
    obtain rfl := List.mem_singleton.1 ht
    simp [Serde.ReadsBack, sampleMenuSerde, sampleMenuDates]
  · rintro requestId method ⟨⟩
    exact PartialMap.insert_self ..

end LightningLiquidity
