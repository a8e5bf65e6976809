import LightningLiquidity.Lib.PartialMap
import LightningLiquidity.Lsps2.Msgs

/-!
# The LSPS2 client

The handler of the client (`LSPS2ClientHandler`) sends requests to peers, keeps
which are not answered yet, and passes the answers on as events. As in the
service, a call gives the new handler and what it does besides
(`LSPS2ClientOutput`), and a request is taken off before its answer is looked at.
-/

namespace LightningLiquidity

/-- A channel to be bought. -/
structure InboundJITChannel where
  paymentSizeMsat : Option UInt64
  deriving DecidableEq

/-- The events of the client. -/
inductive LSPS2ClientEvent
  | openingParametersReady (requestId : RequestId) (counterpartyNodeId : PublicKey)
      (openingFeeParamsMenu : List OpeningFeeParams)
  | invoiceParametersReady (requestId : RequestId) (counterpartyNodeId : PublicKey)
      (interceptScid : Scid) (cltvExpiryDelta : UInt32) (paymentSizeMsat : Option UInt64)
  deriving DecidableEq

/-- The errors of the client. All but the last are a `LightningError`. -/
inductive LSPS2ClientError
  /-- `Received get_info response for an unknown request` -/
  | unknownGetInfoResponse (requestId : RequestId)
  /-- `Received get_info response from unknown peer` -/
  | getInfoResponseFromUnknownPeer (counterpartyNodeId : PublicKey)
  /-- `Received get_info error for an unknown request` -/
  | unknownGetInfoError (requestId : RequestId)
  /-- `Received error response for a get_info request from an unknown counterparty` -/
  | getInfoErrorFromUnknownPeer (counterpartyNodeId : PublicKey)
  /-- `Received buy response for an unknown request` -/
  | unknownBuyResponse (requestId : RequestId)
  /-- `Received buy response with an invalid intercept scid` -/
  | invalidInterceptScid (interceptScid : InterceptScid)
  /-- `Received buy response from unknown peer` -/
  | buyResponseFromUnknownPeer (counterpartyNodeId : PublicKey)
  /-- `Received buy error for an unknown request` -/
  | unknownBuyError (requestId : RequestId)
  /-- `Received error response for a buy request from an unknown counterparty` -/
  | buyErrorFromUnknownPeer (counterpartyNodeId : PublicKey)
  /-- `Client handler received LSPS2 request message from node` -/
  | receivedRequest (counterpartyNodeId : PublicKey)
  /-- `Failed due to duplicate request_id. This should never happen!` -/
  | duplicateRequestId
  deriving DecidableEq

/-- What a call does besides changing the handler. -/
structure LSPS2ClientOutput where
  result : Outcome LSPS2ClientError
  messages : List (PublicKey × LSPS2Message) := []
  events : List LSPS2ClientEvent := []
  deriving DecidableEq

namespace LSPS2ClientHandler

/-- The state of a peer: the requests it has not answered yet. -/
structure PeerState where
  pendingGetInfoRequests : PartialMap RequestId Unit
  pendingBuyRequests : PartialMap RequestId InboundJITChannel

/-- The state of a peer not asked before. -/
def PeerState.new : PeerState where
  pendingGetInfoRequests := .empty
  pendingBuyRequests := .empty

end LSPS2ClientHandler

/-- The handler of the client. -/
structure LSPS2ClientHandler where
  perPeerState : PartialMap PublicKey LSPS2ClientHandler.PeerState

namespace LSPS2ClientHandler

/-- A new handler. -/
def new : LSPS2ClientHandler where
  perPeerState := .empty

/-- The handler with the state of a peer replaced. -/
def setPeer (self : LSPS2ClientHandler) (p : PublicKey) (peerState : PeerState) :
    LSPS2ClientHandler :=
  { self with perPeerState := self.perPeerState.insert p peerState }

/-- Asks a peer for opening fee parameters. -/
def requestOpeningParams (self : LSPS2ClientHandler) (requestId : RequestId)
    (counterpartyNodeId : PublicKey) (token : Option String) :
    LSPS2ClientHandler × LSPS2ClientOutput :=
  let peerState := (self.perPeerState counterpartyNodeId).getD .new
  let peerState := { peerState with
    pendingGetInfoRequests := peerState.pendingGetInfoRequests.insert requestId () }
  (self.setPeer counterpartyNodeId peerState,
    { result := .ok, messages := [(counterpartyNodeId, .request requestId (.getInfo { token }))] })

/-- Asks a peer to buy a channel. The request is kept in place of another of its id,
    which makes the call fail. -/
def selectOpeningParams (self : LSPS2ClientHandler) (requestId : RequestId)
    (counterpartyNodeId : PublicKey) (paymentSizeMsat : Option UInt64)
    (openingFeeParams : OpeningFeeParams) : LSPS2ClientHandler × LSPS2ClientOutput :=
  let peerState := (self.perPeerState counterpartyNodeId).getD .new
  let previous := peerState.pendingBuyRequests requestId
  let peerState := { peerState with
    pendingBuyRequests := peerState.pendingBuyRequests.insert requestId { paymentSizeMsat } }
  let self := self.setPeer counterpartyNodeId peerState
  if previous.isSome then
    (self, { result := .err .duplicateRequestId })
  else
    (self, { result := .ok
             messages := [(counterpartyNodeId,
               .request requestId (.buy { openingFeeParams, paymentSizeMsat }))] })

/-- Takes a `get_info` request off, if it is pending. -/
def takeGetInfoRequest (self : LSPS2ClientHandler) (counterpartyNodeId : PublicKey)
    (peerState : PeerState) (requestId : RequestId) : LSPS2ClientHandler :=
  self.setPeer counterpartyNodeId { peerState with
    pendingGetInfoRequests := peerState.pendingGetInfoRequests.remove requestId }

/-- Takes a `buy` request off, if it is pending. -/
def takeBuyRequest (self : LSPS2ClientHandler) (counterpartyNodeId : PublicKey)
    (peerState : PeerState) (requestId : RequestId) : LSPS2ClientHandler :=
  self.setPeer counterpartyNodeId { peerState with
    pendingBuyRequests := peerState.pendingBuyRequests.remove requestId }

/-- A peer answers a `get_info` request. -/
def handleGetInfoResponse (self : LSPS2ClientHandler) (requestId : RequestId)
    (counterpartyNodeId : PublicKey) (result : GetInfoResponse) :
    LSPS2ClientHandler × LSPS2ClientOutput :=
  match self.perPeerState counterpartyNodeId with
  | some peerState =>
    let self := self.takeGetInfoRequest counterpartyNodeId peerState requestId
    match peerState.pendingGetInfoRequests requestId with
    | none => (self, { result := .err (.unknownGetInfoResponse requestId) })
    | some () =>
      (self, { result := .ok
               events := [.openingParametersReady requestId counterpartyNodeId
                 result.openingFeeParamsMenu] })
  | none => (self, { result := .err (.getInfoResponseFromUnknownPeer counterpartyNodeId) })

/-- A peer refuses a `get_info` request. -/
def handleGetInfoError (self : LSPS2ClientHandler) (requestId : RequestId)
    (counterpartyNodeId : PublicKey) : LSPS2ClientHandler × LSPS2ClientOutput :=
  match self.perPeerState counterpartyNodeId with
  | some peerState =>
    let self := self.takeGetInfoRequest counterpartyNodeId peerState requestId
    match peerState.pendingGetInfoRequests requestId with
    | none => (self, { result := .err (.unknownGetInfoError requestId) })
    | some () => (self, { result := .ok })
  | none => (self, { result := .err (.getInfoErrorFromUnknownPeer counterpartyNodeId) })

/-- A peer answers a `buy` request. -/
def handleBuyResponse (self : LSPS2ClientHandler) (requestId : RequestId)
    (counterpartyNodeId : PublicKey) (result : BuyResponse) :
    LSPS2ClientHandler × LSPS2ClientOutput :=
  match self.perPeerState counterpartyNodeId with
  | some peerState =>
    let self := self.takeBuyRequest counterpartyNodeId peerState requestId
    match peerState.pendingBuyRequests requestId with
    | none => (self, { result := .err (.unknownBuyResponse requestId) })
    | some jitChannel =>
      match result.interceptScid.toScid with
      | some interceptScid =>
        (self, { result := .ok
                 events := [.invoiceParametersReady requestId counterpartyNodeId interceptScid
                   result.lspCltvExpiryDelta jitChannel.paymentSizeMsat] })
      | none => (self, { result := .err (.invalidInterceptScid result.interceptScid) })
  | none => (self, { result := .err (.buyResponseFromUnknownPeer counterpartyNodeId) })

/-- A peer refuses a `buy` request. -/
def handleBuyError (self : LSPS2ClientHandler) (requestId : RequestId)
    (counterpartyNodeId : PublicKey) : LSPS2ClientHandler × LSPS2ClientOutput :=
  match self.perPeerState counterpartyNodeId with
  | some peerState =>
    let self := self.takeBuyRequest counterpartyNodeId peerState requestId
    match peerState.pendingBuyRequests requestId with
    | none => (self, { result := .err (.unknownBuyError requestId) })
    | some _ => (self, { result := .ok })
  | none => (self, { result := .err (.buyErrorFromUnknownPeer counterpartyNodeId) })

/-- A peer sends a message. A request is an error. -/
def handleMessage (self : LSPS2ClientHandler) (message : LSPS2Message)
    (counterpartyNodeId : PublicKey) : LSPS2ClientHandler × LSPS2ClientOutput :=
  match message with
  | .response requestId (.getInfo result) =>
    self.handleGetInfoResponse requestId counterpartyNodeId result
  | .response requestId (.getInfoError _) => self.handleGetInfoError requestId counterpartyNodeId
  | .response requestId (.buy result) => self.handleBuyResponse requestId counterpartyNodeId result
  | .response requestId (.buyError _) => self.handleBuyError requestId counterpartyNodeId
  | .request .. => (self, { result := .err (.receivedRequest counterpartyNodeId) })

end LSPS2ClientHandler

end LightningLiquidity
