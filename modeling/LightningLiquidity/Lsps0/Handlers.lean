import LightningLiquidity.Basic
import LightningLiquidity.Lsps0.Msgs
import LightningLiquidity.Utils

/-!
# LSPS0 handlers

The client of LSPS0, which only sends and receives, and its service, which
answers with the protocols it supports. Messages that are not for a handler are
an error.
-/

namespace LightningLiquidity

/-- A request id made of the first 16 of some random bytes. -/
def generateRequestId (bytes : List UInt8) : RequestId := ⟨hexStr (bytes.take 16)⟩

/-- The events of the client of LSPS0. -/
inductive LSPS0ClientEvent
  | listProtocolsResponse (counterpartyNodeId : PublicKey) (protocols : List UInt16)
  deriving DecidableEq

/-- The errors of handling an LSPS0 message. -/
inductive LSPS0Error
  /-- `ListProtocols error received`, with the error. -/
  | listProtocolsErrorReceived (error : ResponseError)
  /-- `Client handler received LSPS0 request message from node` -/
  | receivedRequest (counterpartyNodeId : PublicKey)
  /-- `Service handler received LSPS0 response message from node` -/
  | receivedResponse (counterpartyNodeId : PublicKey)
  deriving DecidableEq

/-- What handling an LSPS0 message does. -/
structure LSPS0Output where
  result : Outcome LSPS0Error
  messages : List (PublicKey × LSPS0Message) := []
  events : List LSPS0ClientEvent := []
  deriving DecidableEq

namespace LSPS0ClientHandler

/-- The message asking for the protocols of a peer. -/
def listProtocols (requestId : RequestId) (counterpartyNodeId : PublicKey) :
    PublicKey × LSPS0Message := (counterpartyNodeId, .request requestId (.listProtocols {}))

/-- A peer answers. -/
def handleResponse (response : LSPS0Response) (counterpartyNodeId : PublicKey) : LSPS0Output :=
  match response with
  | .listProtocols { protocols } =>
    { result := .ok, events := [.listProtocolsResponse counterpartyNodeId protocols] }
  | .listProtocolsError error => { result := .err (.listProtocolsErrorReceived error) }

/-- A peer sends a message. -/
def handleMessage (message : LSPS0Message) (counterpartyNodeId : PublicKey) : LSPS0Output :=
  match message with
  | .response _ response => handleResponse response counterpartyNodeId
  | .request .. => { result := .err (.receivedRequest counterpartyNodeId) }

end LSPS0ClientHandler

/-- The service of LSPS0, with the protocols it supports. -/
structure LSPS0ServiceHandler where
  protocols : List UInt16
  deriving DecidableEq

namespace LSPS0ServiceHandler

/-- A peer asks for the protocols. -/
def handleRequest (self : LSPS0ServiceHandler) (requestId : RequestId) (request : LSPS0Request)
    (counterpartyNodeId : PublicKey) : LSPS0Output :=
  match request with
  | .listProtocols _ =>
    { result := .ok
      messages := [(counterpartyNodeId,
        .response requestId (.listProtocols { protocols := self.protocols }))] }

/-- A peer sends a message. -/
def handleMessage (self : LSPS0ServiceHandler) (message : LSPS0Message)
    (counterpartyNodeId : PublicKey) : LSPS0Output :=
  match message with
  | .request requestId request => self.handleRequest requestId request counterpartyNodeId
  | .response .. => { result := .err (.receivedResponse counterpartyNodeId) }

end LSPS0ServiceHandler

end LightningLiquidity
