import LightningLiquidity.Lib.JsonRpc
import LightningLiquidity.Lsps0.RoundTrip
import LightningLiquidity.Lsps1.Ser

/-!
# Messages of the build with LSPS1

The methods (`LSPSMethod`) and the messages (`LSPSMessage`) of all protocols, if LSPS1 is built
along with the others, and how they are written and read: as a JSON-RPC protocol
(`LSPSMessage.protocol`).

A message that is written and read again is the same message (`fromStrWithIdMap_serialize_all`),
if the texts of the JSON value and of the date-times, addresses and invoices in it are read back
(`Serde.RoundTrips`).
-/

namespace LightningLiquidity.Lsps1

/-- The methods of requests. -/
inductive LSPSMethod
  | lsps0ListProtocols
  | lsps1GetInfo
  | lsps1GetOrder
  | lsps1CreateOrder
  | lsps2GetInfo
  | lsps2Buy
  deriving DecidableEq, Repr

namespace LSPSMethod

/-- The method of a name. -/
def fromStr (s : String) : Option LSPSMethod :=
  if s = lsps0ListprotocolsMethodName then some lsps0ListProtocols
  else if s = lsps1GetInfoMethodName then some lsps1GetInfo
  else if s = lsps1CreateOrderMethodName then some lsps1CreateOrder
  else if s = lsps1GetOrderMethodName then some lsps1GetOrder
  else if s = lsps2GetInfoMethodName then some lsps2GetInfo
  else if s = lsps2BuyMethodName then some lsps2Buy
  else none

/-- The name of a method. -/
def display : LSPSMethod → String
  | lsps0ListProtocols => lsps0ListprotocolsMethodName
  | lsps1GetInfo => lsps1GetInfoMethodName
  | lsps1CreateOrder => lsps1CreateOrderMethodName
  | lsps1GetOrder => lsps1GetOrderMethodName
  | lsps2GetInfo => lsps2GetInfoMethodName
  | lsps2Buy => lsps2BuyMethodName

/-- The method of an LSPS0 request. -/
def ofLSPS0Request : LSPS0Request → LSPSMethod
  | .listProtocols _ => lsps0ListProtocols

/-- The method of an LSPS1 request. -/
def ofLSPS1Request : LSPS1Request → LSPSMethod
  | .getInfo _ => lsps1GetInfo
  | .createOrder _ => lsps1CreateOrder
  | .getOrder _ => lsps1GetOrder

/-- The method of an LSPS2 request. -/
def ofLSPS2Request : LSPS2Request → LSPSMethod
  | .getInfo _ => lsps2GetInfo
  | .buy _ => lsps2Buy

/-- Reads a method name, as a slice of the text. -/
def read (v : Json) : Option LSPSMethod := v.asBorrowed.bind fromStr

end LSPSMethod

/-- The messages of all protocols. -/
inductive LSPSMessage
  | invalid (error : ResponseError)
  | lsps0 (message : LSPS0Message)
  | lsps1 (message : LSPS1Message)
  | lsps2 (message : LSPS2Message)
  deriving DecidableEq, Repr

namespace LSPSMessage

/-- The request id and the method of a request. -/
def getRequestIdAndMethod : LSPSMessage → Option (RequestId × LSPSMethod)
  | lsps0 (.request requestId request) => some (requestId, .ofLSPS0Request request)
  | lsps1 (.request requestId request) => some (requestId, .ofLSPS1Request request)
  | lsps2 (.request requestId request) => some (requestId, .ofLSPS2Request request)
  | _ => none

/-! ## Writing -/

/-- A request with its parameters. -/
def writeRequest (requestId : RequestId) (method : LSPSMethod) (params : Json) : Json :=
  JsonRpc.writeRequest (.ofString requestId.id) (.ofString method.display) params

/-- A response with its result. -/
def writeResult (requestId : RequestId) (result : Json) : Json :=
  JsonRpc.writeResult (.ofString requestId.id) result

/-- A response with an error. -/
def writeError (requestId : RequestId) (error : ResponseError) : Json :=
  JsonRpc.writeError (.ofString requestId.id) (writeResponseError error)

/-- The JSON value of a message. -/
def serialize (serde : Serde) : LSPSMessage → Json
  | lsps0 (.request requestId request) =>
    let method := LSPSMethod.ofLSPS0Request request
    match request with
    | .listProtocols _ => writeRequest requestId method (.ofMembers [])
  | lsps0 (.response requestId response) =>
    match response with
    | .listProtocols result => writeResult requestId (writeListProtocolsResponse result)
    | .listProtocolsError error => writeError requestId error
  | lsps1 (.request requestId request) =>
    let method := LSPSMethod.ofLSPS1Request request
    match request with
    | .getInfo params => writeRequest requestId method (writeGetInfoRequest params)
    | .createOrder params => writeRequest requestId method (writeCreateOrderRequest serde params)
    | .getOrder params => writeRequest requestId method (writeGetOrderRequest params)
  | lsps1 (.response requestId response) =>
    match response with
    | .getInfo result => writeResult requestId (writeGetInfoResponse result)
    | .getInfoError error => writeError requestId error
    | .createOrder result => writeResult requestId (writeCreateOrderResponse serde result)
    | .createOrderError error => writeError requestId error
    | .getOrder result => writeResult requestId (writeCreateOrderResponse serde result)
    | .getOrderError error => writeError requestId error
  | lsps2 (.request requestId request) =>
    let method := LSPSMethod.ofLSPS2Request request
    match request with
    | .getInfo params =>
      writeRequest requestId method (LightningLiquidity.writeGetInfoRequest params)
    | .buy params => writeRequest requestId method (writeBuyRequest serde.toSerde params)
  | lsps2 (.response requestId response) =>
    match response with
    | .getInfo result =>
      writeResult requestId (LightningLiquidity.writeGetInfoResponse serde.toSerde result)
    | .getInfoError error => writeError requestId error
    | .buy result => writeResult requestId (writeBuyResponse result)
    | .buyError error => writeError requestId error
  | invalid error => JsonRpc.writeError .null (writeResponseError error)

/-! ## Reading -/

/-- The request of a method. -/
def readRequest (serde : Serde) (id : RequestId) (method : LSPSMethod) (params : Json) :
    Option LSPSMessage :=
  match method with
  | .lsps0ListProtocols => some (.lsps0 (.request id (.listProtocols {})))
  | .lsps1GetInfo => (readGetInfoRequest params).map fun request =>
      .lsps1 (.request id (.getInfo request))
  | .lsps1CreateOrder => (readCreateOrderRequest serde params).map fun request =>
      .lsps1 (.request id (.createOrder request))
  | .lsps1GetOrder => (readGetOrderRequest params).map fun request =>
      .lsps1 (.request id (.getOrder request))
  | .lsps2GetInfo => (LightningLiquidity.readGetInfoRequest params).map fun request =>
      .lsps2 (.request id (.getInfo request))
  | .lsps2Buy => (readBuyRequest serde.toSerde params).map fun request =>
      .lsps2 (.request id (.buy request))

/-- The response to a request of a method, with its result. -/
def readResult (serde : Serde) (id : RequestId) (method : LSPSMethod) (result : Json) :
    Option LSPSMessage :=
  match method with
  | .lsps0ListProtocols => (readListProtocolsResponse result).map fun response =>
      .lsps0 (.response id (.listProtocols response))
  | .lsps1GetInfo => (readGetInfoResponse result).map fun response =>
      .lsps1 (.response id (.getInfo response))
  | .lsps1CreateOrder => (readCreateOrderResponse serde result).map fun response =>
      .lsps1 (.response id (.createOrder response))
  | .lsps1GetOrder => (readCreateOrderResponse serde result).map fun response =>
      .lsps1 (.response id (.getOrder response))
  | .lsps2GetInfo =>
    (LightningLiquidity.readGetInfoResponse serde.toSerde result).map fun response =>
      .lsps2 (.response id (.getInfo response))
  | .lsps2Buy => (readBuyResponse result).map fun response =>
      .lsps2 (.response id (.buy response))

/-- The response to a request of a method, with an error. -/
def ofError (id : RequestId) (method : LSPSMethod) (error : ResponseError) : LSPSMessage :=
  match method with
  | .lsps0ListProtocols => .lsps0 (.response id (.listProtocolsError error))
  | .lsps1GetInfo => .lsps1 (.response id (.getInfoError error))
  | .lsps1CreateOrder => .lsps1 (.response id (.createOrderError error))
  | .lsps1GetOrder => .lsps1 (.response id (.getOrderError error))
  | .lsps2GetInfo => .lsps2 (.response id (.getInfoError error))
  | .lsps2Buy => .lsps2 (.response id (.buyError error))

/-- The messages of the build as those of a JSON-RPC protocol. -/
def protocol (serde : Serde) : JsonRpc.Protocol RequestId LSPSMethod ResponseError LSPSMessage where
  readId v := v.asString.map RequestId.mk
  readMethod := LSPSMethod.read
  readError := readResponseError
  request := readRequest serde
  result := readResult serde
  error := ofError
  unknown error :=
    if error.code = jsonrpcInvalidMessageErrorCode then some (.invalid error) else none

/-- The message a text starts with. What follows is not looked at. -/
def fromStrWithIdMap (serde : Serde) (jsonStr : String)
    (requestIdToMethodMap : PartialMap RequestId LSPSMethod) :
    Option LSPSMessage × PartialMap RequestId LSPSMethod :=
  match serde.parseJson jsonStr with
  | some (v, _) => (protocol serde).decode v requestIdToMethodMap
  | none => (none, requestIdToMethodMap)

/-! ## Messages are read back -/

/-- The id of a response, and the method it answers. -/
def getResponseIdAndMethod : LSPSMessage → Option (RequestId × LSPSMethod)
  | lsps0 (.response requestId _) => some (requestId, .lsps0ListProtocols)
  | lsps1 (.response requestId (.getInfo _)) => some (requestId, .lsps1GetInfo)
  | lsps1 (.response requestId (.getInfoError _)) => some (requestId, .lsps1GetInfo)
  | lsps1 (.response requestId (.createOrder _)) => some (requestId, .lsps1CreateOrder)
  | lsps1 (.response requestId (.createOrderError _)) => some (requestId, .lsps1CreateOrder)
  | lsps1 (.response requestId (.getOrder _)) => some (requestId, .lsps1GetOrder)
  | lsps1 (.response requestId (.getOrderError _)) => some (requestId, .lsps1GetOrder)
  | lsps2 (.response requestId (.getInfo _)) => some (requestId, .lsps2GetInfo)
  | lsps2 (.response requestId (.getInfoError _)) => some (requestId, .lsps2GetInfo)
  | lsps2 (.response requestId (.buy _)) => some (requestId, .lsps2Buy)
  | lsps2 (.response requestId (.buyError _)) => some (requestId, .lsps2Buy)
  | _ => none

/-- The map after reading a message: without the id of a response. -/
def mapAfter (m : LSPSMessage) (map : PartialMap RequestId LSPSMethod) :
    PartialMap RequestId LSPSMethod :=
  match m.getResponseIdAndMethod with
  | some (requestId, _) => map.remove requestId
  | none => map

/-- The map leads from the id of a response to the method it answers. -/
def AnsweredBy (m : LSPSMessage) (map : PartialMap RequestId LSPSMethod) : Prop :=
  ∀ requestId method, m.getResponseIdAndMethod = some (requestId, method) →
    map requestId = some method

/-- An error without a request says that a message could not be parsed. -/
def ValidError : LSPSMessage → Prop
  | invalid error => error.code = jsonrpcInvalidMessageErrorCode
  | _ => True

/-- The texts in a message are read back: its date-times, addresses and invoices. -/
def TextsReadBack (serde : Serde) : LSPSMessage → Prop
  | lsps1 (.request _ (.createOrder params)) =>
    ∀ a ∈ params.order.refundOnchainAddress, serde.ReadsBackAddress a
  | lsps1 (.response _ (.createOrder result)) => serde.ReadsBackOrder result
  | lsps1 (.response _ (.getOrder result)) => serde.ReadsBackOrder result
  | lsps2 message => ∀ t ∈ (LightningLiquidity.LSPSMessage.lsps2 message).dates,
      serde.toSerde.ReadsBack t
  | _ => True

end LSPSMessage

/-- The message is written as a text from which it, and the texts in it, are read back. -/
structure Serde.RoundTrips (serde : Serde) (m : LSPSMessage) : Prop where
  json : serde.toSerde.ReadsBackJson (m.serialize serde)
  texts : m.TextsReadBack serde

theorem LSPSMethod.read_display (method : LSPSMethod) :
    LSPSMethod.read (.ofString method.display) = some method := by
  cases method <;> decide +kernel

namespace LSPSMessage

variable {serde : Serde} {map : PartialMap RequestId LSPSMethod} {m : LSPSMessage}
  {requestId : RequestId} {method : LSPSMethod}

theorem decode_request {params : Json} (hm : m.getResponseIdAndMethod = none)
    (h : readRequest serde requestId method params = some m) :
    (protocol serde).decode (writeRequest requestId method params) map =
      (some m, m.mapAfter map) := by
  rw [mapAfter, hm]
  exact JsonRpc.decode_writeRequest rfl method.read_display h

/-- A result is read by the method its id leads to. -/
theorem decode_result {result : Json} (hmap : m.AnsweredBy map)
    (hm : m.getResponseIdAndMethod = some (requestId, method))
    (h : readResult serde requestId method result = some m) :
    (protocol serde).decode (writeResult requestId result) map = (some m, m.mapAfter map) := by
  rw [mapAfter, hm]
  exact JsonRpc.decode_writeResult rfl (hmap _ _ hm) h

theorem decode_error {error : ResponseError} (hmap : m.AnsweredBy map)
    (hm : m.getResponseIdAndMethod = some (requestId, method))
    (h : ofError requestId method error = m) :
    (protocol serde).decode (writeError requestId error) map = (some m, m.mapAfter map) := by
  rw [mapAfter, hm, ← h]
  exact JsonRpc.decode_writeError rfl (hmap _ _ hm) (readResponseError_writeResponseError error)

/-- The JSON value of a message is read as the message. -/
theorem decode_serialize (m : LSPSMessage) (htexts : m.TextsReadBack serde) (hvalid : m.ValidError)
    (hmap : m.AnsweredBy map) :
    (protocol serde).decode (m.serialize serde) map = (some m, m.mapAfter map) := by
  cases m with
  -- An invalid message has no id: it is what is read of an error without a method.
  | invalid error =>
    have hm : (protocol serde).unknown error = some (.invalid error) := if_pos hvalid
    exact hm ▸ JsonRpc.decode_writeError_null (readResponseError_writeResponseError error)
  | lsps0 message =>
    rcases message with ⟨requestId, ⟨⟨⟩⟩⟩ | ⟨requestId, result | error⟩
    · exact decode_request rfl rfl
    · refine decode_result hmap rfl ?_
      simp only [readResult, readListProtocolsResponse_writeListProtocolsResponse, Option.map_some]
    · exact decode_error hmap rfl rfl
  -- A request is known by its method, a response by the entry of the map for its id; what
  -- remains is that the parameters, or the result, are read back.
  | lsps1 message =>
    rcases message with ⟨requestId, ⟨⟨⟩⟩ | params | params⟩ |
      ⟨requestId, result | error | result | error | result | error⟩
    · exact decode_request rfl rfl
    · refine decode_request rfl ?_
      simp only [readRequest, LSPSMethod.ofLSPS1Request,
        readCreateOrderRequest_writeCreateOrderRequest htexts, Option.map_some]
    · refine decode_request rfl ?_
      simp only [readRequest, LSPSMethod.ofLSPS1Request, readGetOrderRequest_writeGetOrderRequest,
        Option.map_some]
    · refine decode_result hmap rfl ?_
      simp only [readResult, readGetInfoResponse_writeGetInfoResponse, Option.map_some]
    · exact decode_error hmap rfl rfl
    · refine decode_result hmap rfl ?_
      simp only [readResult, readCreateOrderResponse_writeCreateOrderResponse htexts,
        Option.map_some]
    · exact decode_error hmap rfl rfl
    · refine decode_result hmap rfl ?_
      simp only [readResult, readCreateOrderResponse_writeCreateOrderResponse htexts,
        Option.map_some]
    · exact decode_error hmap rfl rfl
  | lsps2 message =>
    rcases message with ⟨requestId, params | params⟩ | ⟨requestId, result | error | result | error⟩
    · refine decode_request rfl ?_
      simp only [readRequest, LSPSMethod.ofLSPS2Request,
        LightningLiquidity.readGetInfoRequest_writeGetInfoRequest, Option.map_some]
    · have hparams := readBuyRequest_writeBuyRequest (htexts _ List.mem_cons_self)
      refine decode_request rfl ?_
      simp only [readRequest, LSPSMethod.ofLSPS2Request, hparams, Option.map_some]
    · have hresult : LightningLiquidity.readGetInfoResponse serde.toSerde
          (LightningLiquidity.writeGetInfoResponse serde.toSerde result) = some result :=
        LightningLiquidity.readGetInfoResponse_writeGetInfoResponse fun _ hparams =>
          htexts _ (List.mem_map_of_mem hparams)
      refine decode_result hmap rfl ?_
      simp only [readResult, hresult, Option.map_some]
    · exact decode_error hmap rfl rfl
    · refine decode_result hmap rfl ?_
      simp only [readResult, readBuyResponse_writeBuyResponse, Option.map_some]
    · exact decode_error hmap rfl rfl

/-- **Messages of all protocols are read back.** A message is written as a text that is read
    as the message, if the id of a response leads to the method it answers; the map loses this
    id, and is else unchanged. -/
theorem fromStrWithIdMap_serialize_all (serde : Serde) (m : LSPSMessage)
    (map : PartialMap RequestId LSPSMethod) (hserde : serde.RoundTrips m) (hvalid : m.ValidError)
    (hmap : m.AnsweredBy map) :
    ∃ text, serde.writeJson (m.serialize serde) = some text ∧
      fromStrWithIdMap serde text map = (some m, m.mapAfter map) := by
  obtain ⟨text, hwrite, hparse⟩ := hserde.json
  refine ⟨text, hwrite, ?_⟩
  rw [fromStrWithIdMap, hparse]
  exact m.decode_serialize hserde.texts hvalid hmap

/-- A request for the order of the examples, with an address for refunds. -/
def sampleOrderRequest : LSPSMessage :=
  .lsps1 (.request ⟨"1"⟩ (.createOrder
    ⟨{ sampleOrder with
        refundOnchainAddress := some ⟨"bc1qw508d6qejxtdg4y5r3zarvary0c5xw7kv8f3t4"⟩ }⟩))

/-- The text of the request. -/
def sampleOrderRequestText : String :=
  "\x7b\"jsonrpc\":\"2.0\",\"id\":\"1\",\"method\":\"lsps1.create_order\"," ++
  "\"params\":\x7b\"order\":\x7b\"lsp_balance_sat\":\"500000\",\"client_balance_sat\":\"0\"," ++
  "\"confirms_within_blocks\":6,\"channel_expiry_blocks\":144,\"token\":\"\"," ++
  "\"refund_onchain_address\":\"bc1qw508d6qejxtdg4y5r3zarvary0c5xw7kv8f3t4\"," ++
  "\"announce_channel\":true\x7d\x7d\x7d"

/-- The answer to the request. -/
def sampleOrderResponse : LSPSMessage :=
  .lsps1 (.response ⟨"1"⟩ (.createOrder (sampleResponse 5000)))

/-- The text of the answer. -/
def sampleOrderResponseText : String :=
  "\x7b\"jsonrpc\":\"2.0\",\"id\":\"1\",\"result\":\x7b\"order_id\":\"o\"," ++
  "\"order\":\x7b\"lsp_balance_sat\":\"500000\",\"client_balance_sat\":\"0\"," ++
  "\"confirms_within_blocks\":6,\"channel_expiry_blocks\":144,\"token\":\"\"," ++
  "\"refund_onchain_address\":null,\"announce_channel\":true\x7d," ++
  "\"created_at\":\"1970-01-01T00:00:00Z\",\"expires_at\":\"1970-01-01T01:00:00Z\"," ++
  "\"order_state\":\"Created\",\"payment\":\x7b\"state\":\"ExpectPayment\"," ++
  "\"fee_total_sat\":\"5000\",\"order_total_sat\":\"5000\",\"bolt11_invoice\":\"ln\"," ++
  "\"onchain_address\":\"bc\",\"min_onchain_payment_confirmations\":null," ++
  "\"min_fee_for_0conf\":0,\"onchain_payment\":\x7b\"outpoint\":\"\",\"sat\":\"0\"," ++
  "\"confirmed\":false\x7d\x7d,\"channel\":null\x7d\x7d"

/-- The texts in the request and in the answer. -/
def sampleOrderTexts : Serde where
  parseJson _ := none
  writeJson _ := none
  parseDateTime text :=
    if text = "1970-01-01T00:00:00Z" then some ⟨0, 0⟩
    else if text = "1970-01-01T01:00:00Z" then some ⟨3600, 0⟩
    else none
  writeDateTime t :=
    if t = ⟨0, 0⟩ then "1970-01-01T00:00:00Z" else "1970-01-01T01:00:00Z"
  parseAddress text :=
    if text ∈ ["bc1qw508d6qejxtdg4y5r3zarvary0c5xw7kv8f3t4", "bc"] then some ⟨text⟩ else none
  writeAddress address := address.text
  parseInvoice text := if text = "ln" then some ⟨text⟩ else none
  writeInvoice invoice := invoice.text

/-- The texts of the request and of the answer, and those in them. -/
def sampleOrderSerde : Serde :=
  { sampleOrderTexts with
    parseJson := fun text =>
      if text = sampleOrderRequestText then
        some (sampleOrderRequest.serialize sampleOrderTexts, "")
      else if text = sampleOrderResponseText then
        some (sampleOrderResponse.serialize sampleOrderTexts, "")
      else none
    writeJson := fun json => some <|
      if json.countMembers "method" = 1 then sampleOrderRequestText else sampleOrderResponseText }

/-- The request is read back by a service, and the answer by the client that has made it, which
    takes its id off the map. -/
theorem fromStrWithIdMap_serialize_order :
    let asked := PartialMap.empty.insert (⟨"1"⟩ : RequestId) LSPSMethod.lsps1CreateOrder
    (∃ text, sampleOrderSerde.writeJson (sampleOrderRequest.serialize sampleOrderSerde) = some text ∧
      fromStrWithIdMap sampleOrderSerde text PartialMap.empty =
        (some sampleOrderRequest, PartialMap.empty)) ∧
    ∃ text, sampleOrderSerde.writeJson (sampleOrderResponse.serialize sampleOrderSerde) = some text ∧
      fromStrWithIdMap sampleOrderSerde text asked =
        (some sampleOrderResponse, asked.remove ⟨"1"⟩) := by
  have hne : sampleOrderResponseText ≠ sampleOrderRequestText := by decide +kernel
  have hrequest : sampleOrderSerde.parseJson sampleOrderRequestText =
      some (sampleOrderRequest.serialize sampleOrderTexts, "") := by
    simp [sampleOrderSerde]
  have hresponse : sampleOrderSerde.parseJson sampleOrderResponseText =
      some (sampleOrderResponse.serialize sampleOrderTexts, "") := by
    simp [sampleOrderSerde, hne]
  intro asked
  constructor
  · refine fromStrWithIdMap_serialize_all sampleOrderSerde sampleOrderRequest _
      ⟨⟨_, rfl, hrequest⟩, ?_⟩ trivial ?_
    · intro a ha
      obtain rfl := Option.some.inj ha
      simp [Serde.ReadsBackAddress, sampleOrderSerde, sampleOrderTexts]
    · rintro requestId method ⟨⟩
  · refine fromStrWithIdMap_serialize_all sampleOrderSerde sampleOrderResponse _
      ⟨⟨_, rfl, hresponse⟩, ?_⟩ trivial ?_
    · exact ⟨by rintro _ ⟨⟩, rfl, rfl, rfl, rfl⟩
    · rintro requestId method ⟨⟩
      exact PartialMap.insert_self ..

end LSPSMessage

end LightningLiquidity.Lsps1
