import LightningLiquidity.Basic

/-!
# LSPS0 messages

The parts of JSON-RPC messages all protocols share (`RequestId`,
`ResponseError`), and the requests and responses of LSPS0.
-/

namespace LightningLiquidity

/-- The `id` of a JSON-RPC request. -/
structure RequestId where
  id : String
  deriving DecidableEq, Repr

/-- The error returned in response to a JSON-RPC request. -/
structure ResponseError where
  code : Int32
  message : String
  data : Option String
  deriving DecidableEq, Repr

/-- The method name of a `list_protocols` request. -/
def lsps0ListprotocolsMethodName : String := "lsps0.list_protocols"

/-- A `list_protocols` request. -/
structure ListProtocolsRequest where
  deriving DecidableEq, Repr

/-- A response to a `list_protocols` request. -/
structure ListProtocolsResponse where
  protocols : List UInt16
  deriving DecidableEq, Repr

/-- The requests of LSPS0. -/
inductive LSPS0Request
  | listProtocols (params : ListProtocolsRequest)
  deriving DecidableEq, Repr

/-- The responses of LSPS0. -/
inductive LSPS0Response
  | listProtocols (result : ListProtocolsResponse)
  | listProtocolsError (error : ResponseError)
  deriving DecidableEq, Repr

/-- The messages of LSPS0. -/
inductive LSPS0Message
  | request (requestId : RequestId) (request : LSPS0Request)
  | response (requestId : RequestId) (response : LSPS0Response)
  deriving DecidableEq, Repr

end LightningLiquidity
