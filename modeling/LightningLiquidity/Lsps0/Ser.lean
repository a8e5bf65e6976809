import LightningLiquidity.Lib.JsonRpc
import LightningLiquidity.Lsps2.Ser

/-!
# Messages in JSON-RPC

The messages of all protocols (`LSPSMessage`), and how they are written as and
read from JSON-RPC 2.0 objects, as the messages of a protocol of these
(`LSPSMessage.protocol`).

A response does not say which method it is a response to. It is read with the
help of a map from the ids of requests sent to their methods; the id is taken off
the map, whether or not the response can then be read.

The errors of reading are not told apart: they are all dropped by the caller.
-/

namespace LightningLiquidity

/-- `JSONRPC_INVALID_MESSAGE_ERROR_CODE`. -/
def jsonrpcInvalidMessageErrorCode : Int32 := -32700

/-- `JSONRPC_INVALID_MESSAGE_ERROR_MESSAGE`. -/
def jsonrpcInvalidMessageErrorMessage : String := "parse error"

/-- The methods of requests. -/
inductive LSPSMethod
  | lsps0ListProtocols
  | lsps2GetInfo
  | lsps2Buy
  deriving DecidableEq, Repr

namespace LSPSMethod

/-- The method of a name. -/
def fromStr (s : String) : Option LSPSMethod :=
  if s = lsps0ListprotocolsMethodName then some lsps0ListProtocols
  else if s = lsps2GetInfoMethodName then some lsps2GetInfo
  else if s = lsps2BuyMethodName then some lsps2Buy
  else none

/-- The name of a method. -/
def display : LSPSMethod → String
  | lsps0ListProtocols => lsps0ListprotocolsMethodName
  | lsps2GetInfo => lsps2GetInfoMethodName
  | lsps2Buy => lsps2BuyMethodName

/-- The method of an LSPS0 request. -/
def ofLSPS0Request : LSPS0Request → LSPSMethod
  | .listProtocols _ => lsps0ListProtocols

/-- The method of an LSPS2 request. -/
def ofLSPS2Request : LSPS2Request → LSPSMethod
  | .getInfo _ => lsps2GetInfo
  | .buy _ => lsps2Buy

/-- Reads a method name, as a slice of the text. -/
def read (v : Json) : Option LSPSMethod := v.asBorrowed.bind fromStr

end LSPSMethod

/-- The messages of all protocols. -/
inductive LSPSMessage
  | invalid (error : ResponseError)
  | lsps0 (message : LSPS0Message)
  | lsps2 (message : LSPS2Message)
  deriving DecidableEq, Repr

/-- The request id and the method of a request. -/
def LSPSMessage.getRequestIdAndMethod : LSPSMessage → Option (RequestId × LSPSMethod)
  | lsps0 (.request requestId request) => some (requestId, .ofLSPS0Request request)
  | lsps2 (.request requestId request) => some (requestId, .ofLSPS2Request request)
  | _ => none

/-! ## Writing -/

def writeResponseError (error : ResponseError) : Json :=
  .ofMembers
    [("code", .int error.code.toInt),
     ("message", .ofString error.message),
     ("data", .ofOption .ofString error.data)]

def writeListProtocolsResponse (result : ListProtocolsResponse) : Json :=
  .ofMembers [("protocols", .array (result.protocols.map fun p => .ofNat p.toNat))]

namespace LSPSMessage

/-- A request with its parameters. -/
def writeRequest (requestId : RequestId) (method : LSPSMethod) (params : Json) : Json :=
  JsonRpc.writeRequest (.ofString requestId.id) (.ofString method.display) params

/-- A response with its result. -/
def writeResult (requestId : RequestId) (result : Json) : Json :=
  JsonRpc.writeResult (.ofString requestId.id) result

/-- A response with an error. -/
def writeError (requestId : RequestId) (error : ResponseError) : Json :=
  JsonRpc.writeError (.ofString requestId.id) (writeResponseError error)

/-- The JSON value of a message. -/
def serialize (serde : Serde) : LSPSMessage → Json
  | lsps0 (.request requestId request) =>
    let method := LSPSMethod.ofLSPS0Request request
    match request with
    | .listProtocols _ => writeRequest requestId method (.ofMembers [])
  | lsps0 (.response requestId response) =>
    match response with
    | .listProtocols result => writeResult requestId (writeListProtocolsResponse result)
    | .listProtocolsError error => writeError requestId error
  | lsps2 (.request requestId request) =>
    let method := LSPSMethod.ofLSPS2Request request
    match request with
    | .getInfo params => writeRequest requestId method (writeGetInfoRequest params)
    | .buy params => writeRequest requestId method (writeBuyRequest serde params)
  | lsps2 (.response requestId response) =>
    match response with
    | .getInfo result => writeResult requestId (writeGetInfoResponse serde result)
    | .getInfoError error => writeError requestId error
    | .buy result => writeResult requestId (writeBuyResponse result)
    | .buyError error => writeError requestId error
  | invalid error => JsonRpc.writeError .null (writeResponseError error)

end LSPSMessage

/-! ## Reading -/

/-- Reads the error of a response, directly from the text: of each of its fields an
    object has at most one member. -/
def readResponseError (v : Json) : Option ResponseError :=
  if v.isRecord 3 ∧ ∀ key ∈ ["code", "message", "data"], v.countMembers key ≤ 1 then do
    let code ← v.required 0 "code" Json.asInt32
    let message ← v.required 1 "message" Json.asString
    let data ← v.optional 2 "data" Json.asString
    return { code, message, data }
  else none

/-- Reads the result of a `list_protocols` request. -/
def readListProtocolsResponse (v : Json) : Option ListProtocolsResponse :=
  if v.isRecord 1 then do
    let protocols ← v.required 0 "protocols" (Json.asList Json.asUInt16)
    return { protocols }
  else none

/-- The members of a JSON-RPC object, as read so far. -/
abbrev MessageMembers := JsonRpc.Members RequestId LSPSMethod ResponseError

namespace LSPSMessage

/-- The request of a method. -/
def readRequest (serde : Serde) (id : RequestId) (method : LSPSMethod) (params : Json) :
    Option LSPSMessage :=
  match method with
  | .lsps0ListProtocols => some (.lsps0 (.request id (.listProtocols {})))
  | .lsps2GetInfo => (readGetInfoRequest params).map fun request =>
      .lsps2 (.request id (.getInfo request))
  | .lsps2Buy => (readBuyRequest serde params).map fun request =>
      .lsps2 (.request id (.buy request))

/-- The response to a request of a method, with its result. -/
def readResult (serde : Serde) (id : RequestId) (method : LSPSMethod) (result : Json) :
    Option LSPSMessage :=
  match method with
  | .lsps0ListProtocols => (readListProtocolsResponse result).map fun response =>
      .lsps0 (.response id (.listProtocols response))
  | .lsps2GetInfo => (readGetInfoResponse serde result).map fun response =>
      .lsps2 (.response id (.getInfo response))
  | .lsps2Buy => (readBuyResponse result).map fun response =>
      .lsps2 (.response id (.buy response))

/-- The response to a request of a method, with an error. -/
def ofError (id : RequestId) (method : LSPSMethod) (error : ResponseError) : LSPSMessage :=
  match method with
  | .lsps0ListProtocols => .lsps0 (.response id (.listProtocolsError error))
  | .lsps2GetInfo => .lsps2 (.response id (.getInfoError error))
  | .lsps2Buy => .lsps2 (.response id (.buyError error))

/-- The messages as those of a JSON-RPC protocol. -/
def protocol (serde : Serde) : JsonRpc.Protocol RequestId LSPSMethod ResponseError LSPSMessage where
  readId v := v.asString.map RequestId.mk
  readMethod := LSPSMethod.read
  readError := readResponseError
  request := readRequest serde
  result := readResult serde
  error := ofError
  unknown error :=
    if error.code = jsonrpcInvalidMessageErrorCode then some (.invalid error) else none

end LSPSMessage

/-- The message of a JSON-RPC object, given by its members. -/
def visitMap (serde : Serde) (requestIdToMethodMap : PartialMap RequestId LSPSMethod)
    (members : List (JsonString × Json)) : Option LSPSMessage × PartialMap RequestId LSPSMethod :=
  (LSPSMessage.protocol serde).decode (.object members) requestIdToMethodMap

/-- The message a text starts with. What follows is not looked at. -/
def LSPSMessage.fromStrWithIdMap (serde : Serde) (jsonStr : String)
    (requestIdToMethodMap : PartialMap RequestId LSPSMethod) :
    Option LSPSMessage × PartialMap RequestId LSPSMethod :=
  match serde.parseJson jsonStr with
  | some (.object members, _) => visitMap serde requestIdToMethodMap members
  | _ => (none, requestIdToMethodMap)

end LightningLiquidity
