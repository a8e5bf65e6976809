import LightningLiquidity.Lib.Machine
import LightningLiquidity.Lib.PartialMap
import LightningLiquidity.Lsps1.Msgs

/-!
# The LSPS1 service

The handler of the service (`LSPS1ServiceHandler`) gives the options it supports, and accepts
orders that match them. The LSP answers an order by how to pay for it (`sendPaymentDetails`), which
stores a channel under the id of the order, and tells how an order stands (`updateOrderStatus`).

Requests that the LSP is to answer are kept until then. All calls together are the machine
`LSPS1ServiceHandler.machine`.
-/

namespace LightningLiquidity.Lsps1

/-- The configuration of the service. -/
structure LSPS1ServiceConfig where
  optionsSupported : Option OptionsSupported
  website : Option String

/-! ## Channels -/

/-- The states of a channel that was ordered. -/
inductive OutboundRequestState
  | orderCreated (orderId : OrderId)
  | waitingPayment (orderId : OrderId)
  | ready
  deriving DecidableEq

namespace OutboundRequestState

/-- The client asks how the order stands. The error is the state. -/
def awaitingPayment : OutboundRequestState → Except OutboundRequestState OutboundRequestState
  | orderCreated orderId => .ok (waitingPayment orderId)
  | state => .error state

end OutboundRequestState

/-- What an order is about. -/
structure OutboundLSPS1Config where
  order : OrderParams
  createdAt : DateTime
  expiresAt : DateTime
  payment : OrderPayment
  deriving DecidableEq

/-- A channel that was ordered. -/
structure OutboundCRChannel where
  state : OutboundRequestState
  config : OutboundLSPS1Config
  deriving DecidableEq

namespace OutboundCRChannel

/-- A new channel. -/
def new (order : OrderParams) (createdAt expiresAt : DateTime) (orderId : OrderId)
    (payment : OrderPayment) : OutboundCRChannel where
  state := .orderCreated orderId
  config := { order, createdAt, expiresAt, payment }

/-- The client asks how the order stands. -/
def awaitingPayment (self : OutboundCRChannel) : Except OutboundRequestState OutboundCRChannel :=
  self.state.awaitingPayment.map fun state => { self with state }

end OutboundCRChannel

/-! ## Calls and their outputs -/

/-- The errors of the service. Those of the calls of the LSP are an `APIMisuseError`, the others a
    `LightningError`. -/
inductive LSPS1ServiceError
  /-- `Client order does not match any supported options`, with the order. -/
  | orderMismatch (order : OrderParams)
  /-- `No pending buy request for request_id` -/
  | noPendingRequest (requestId : RequestId)
  /-- `No state for the counterparty exists` -/
  | noCounterpartyState (counterpartyNodeId : PublicKey)
  /-- `Received get order request for unknown order id` -/
  | unknownOrder (orderId : OrderId)
  /-- `TODO. JIT Channel was in state`, with the state. -/
  | notAwaitingPayment (state : OutboundRequestState)
  /-- `Received error response for a create order request from an unknown counterparty` -/
  | unknownCounterparty (counterpartyNodeId : PublicKey)
  /-- `Channel with order_id .. not found` -/
  | channelNotFound (orderId : OrderId)
  /-- `No existing state with counterparty` -/
  | noExistingState (counterpartyNodeId : PublicKey)
  /-- `Service handler received LSPS1 response message from node` -/
  | receivedResponse (counterpartyNodeId : PublicKey)
  deriving DecidableEq

/-- The events of the service. -/
inductive LSPS1ServiceEvent
  | requestForPaymentDetails (requestId : RequestId) (counterpartyNodeId : PublicKey)
      (order : OrderParams)
  | checkPaymentConfirmation (requestId : RequestId) (counterpartyNodeId : PublicKey)
      (orderId : OrderId)
  | refund (requestId : RequestId) (counterpartyNodeId : PublicKey) (orderId : OrderId)
  deriving DecidableEq

/-- What a call does besides changing the handler. -/
structure LSPS1ServiceOutput where
  result : Outcome LSPS1ServiceError
  messages : List (PublicKey × LSPS1Message) := []
  events : List LSPS1ServiceEvent := []
  deriving DecidableEq

namespace LSPS1ServiceOutput

/-- The call ends in an error. -/
abbrev error (e : LSPS1ServiceError) : LSPS1ServiceOutput := { result := .err e }

/-- The call answers a request. -/
abbrev respond (p : PublicKey) (requestId : RequestId) (response : LSPS1Response) :
    LSPS1ServiceOutput := { result := .ok, messages := [(p, .response requestId response)] }

end LSPS1ServiceOutput

/-! ## The handler -/

namespace LSPS1ServiceHandler

/-- The state of a peer: the channels it ordered, and its requests not answered yet. -/
structure PeerState where
  outboundChannelsByOrderId : PartialMap OrderId OutboundCRChannel
  pendingRequests : PartialMap RequestId LSPS1Request

namespace PeerState

/-- The state of a peer that has not ordered anything. -/
def default : PeerState where
  outboundChannelsByOrderId := .empty
  pendingRequests := .empty

/-- Stores a channel. -/
def insertOutboundChannel (self : PeerState) (orderId : OrderId) (channel : OutboundCRChannel) :
    PeerState :=
  { self with outboundChannelsByOrderId := self.outboundChannelsByOrderId.insert orderId channel }

/-- Removes a channel. -/
def removeOutboundChannel (self : PeerState) (orderId : OrderId) : PeerState :=
  { self with outboundChannelsByOrderId := self.outboundChannelsByOrderId.remove orderId }

/-- Keeps a request. -/
def insertPendingRequest (self : PeerState) (requestId : RequestId) (request : LSPS1Request) :
    PeerState :=
  { self with pendingRequests := self.pendingRequests.insert requestId request }

/-- Takes a request off. -/
def removePendingRequest (self : PeerState) (requestId : RequestId) : PeerState :=
  { self with pendingRequests := self.pendingRequests.remove requestId }

end PeerState

end LSPS1ServiceHandler

/-- The handler of the service. -/
structure LSPS1ServiceHandler where
  perPeerState : PartialMap PublicKey LSPS1ServiceHandler.PeerState
  config : LSPS1ServiceConfig

namespace LSPS1ServiceHandler

/-- A new handler. -/
def new (config : LSPS1ServiceConfig) : LSPS1ServiceHandler where
  perPeerState := .empty
  config := config

/-- The handler with the state of a peer replaced. -/
def setPeer (self : LSPS1ServiceHandler) (p : PublicKey) (peerState : PeerState) :
    LSPS1ServiceHandler :=
  { self with perPeerState := self.perPeerState.insert p peerState }

/-! ### Requests of peers -/

/-- A peer asks for the options supported. Panics if there is no website, or no options. -/
def handleGetInfoRequest (self : LSPS1ServiceHandler) (requestId : RequestId)
    (counterpartyNodeId : PublicKey) : LSPS1ServiceHandler × LSPS1ServiceOutput :=
  match self.config.website, self.config.optionsSupported with
  | some website, some options =>
    (self, .respond counterpartyNodeId requestId (.getInfo { website, options }))
  | _, _ => (self, { result := .panic })

/-- The error response to an order that does not match the options. -/
def orderMismatch (options : OptionsSupported) : ResponseError where
  code := orderMismatchErrorCode
  message := "Order does not match options supported by LSP server"
  data := some ("Supported options are " ++ options.debug)

/-- A peer places an order. Panics if there are no options. -/
def handleCreateOrderRequest (self : LSPS1ServiceHandler) (requestId : RequestId)
    (counterpartyNodeId : PublicKey) (params : CreateOrderRequest) :
    LSPS1ServiceHandler × LSPS1ServiceOutput :=
  match self.config.optionsSupported with
  | none => (self, { result := .panic })
  | some options =>
    if isValid params.order options then
      let peerState := (self.perPeerState counterpartyNodeId).getD .default
      (self.setPeer counterpartyNodeId
          (peerState.insertPendingRequest requestId (.createOrder params)),
        { result := .ok
          events := [.requestForPaymentDetails requestId counterpartyNodeId params.order] })
    else
      (self, { result := .err (.orderMismatch params.order)
               messages := [(counterpartyNodeId,
                 .response requestId (.createOrderError (orderMismatch options)))] })

/-- A peer asks how an order stands. An order that is not in its first state is removed. -/
def handleGetOrderRequest (self : LSPS1ServiceHandler) (requestId : RequestId)
    (counterpartyNodeId : PublicKey) (params : GetOrderRequest) :
    LSPS1ServiceHandler × LSPS1ServiceOutput :=
  match self.perPeerState counterpartyNodeId with
  | some peerState =>
    match peerState.outboundChannelsByOrderId params.orderId with
    | some outboundChannel =>
      match outboundChannel.awaitingPayment with
      | .ok outboundChannel =>
        let peerState := peerState.insertOutboundChannel params.orderId outboundChannel
        (self.setPeer counterpartyNodeId
            (peerState.insertPendingRequest requestId (.getOrder params)),
          { result := .ok
            events := [.checkPaymentConfirmation requestId counterpartyNodeId params.orderId] })
      | .error state =>
        (self.setPeer counterpartyNodeId (peerState.removeOutboundChannel params.orderId),
          { result := .err (.notAwaitingPayment state)
            events := [.refund requestId counterpartyNodeId params.orderId] })
    | none => (self, .error (.unknownOrder params.orderId))
  | none => (self, .error (.unknownCounterparty counterpartyNodeId))

/-- A peer sends a message. A response fails an assertion. -/
def handleMessage (debug : Bool) (self : LSPS1ServiceHandler) (message : LSPS1Message)
    (counterpartyNodeId : PublicKey) : LSPS1ServiceHandler × LSPS1ServiceOutput :=
  match message with
  | .request requestId (.getInfo _) => self.handleGetInfoRequest requestId counterpartyNodeId
  | .request requestId (.createOrder params) =>
    self.handleCreateOrderRequest requestId counterpartyNodeId params
  | .request requestId (.getOrder params) =>
    self.handleGetOrderRequest requestId counterpartyNodeId params
  | .response .. =>
    if debug then
      (self, { result := .panic })
    else
      (self, .error (.receivedResponse counterpartyNodeId))

/-! ### Calls of the LSP -/

/-- The LSP says how to pay for an order, which gets the id generated. -/
def sendPaymentDetails (self : LSPS1ServiceHandler) (requestId : RequestId)
    (counterpartyNodeId : PublicKey) (orderId : OrderId) (payment : OrderPayment)
    (createdAt expiresAt : DateTime) : LSPS1ServiceHandler × LSPS1ServiceOutput :=
  match self.perPeerState counterpartyNodeId with
  | some peerState =>
    let request := peerState.pendingRequests requestId
    let peerState := peerState.removePendingRequest requestId
    match request with
    | some (.createOrder params) =>
      let channel := .new params.order createdAt expiresAt orderId payment
      (self.setPeer counterpartyNodeId (peerState.insertOutboundChannel orderId channel),
        .respond counterpartyNodeId requestId (.createOrder
          { order := params.order, orderId, orderState := .created, createdAt, expiresAt, payment
            channel := none }))
    | _ => (self.setPeer counterpartyNodeId peerState, .error (.noPendingRequest requestId))
  | none => (self, .error (.noCounterpartyState counterpartyNodeId))

/-- The LSP tells how an order stands. -/
def updateOrderStatus (self : LSPS1ServiceHandler) (requestId : RequestId)
    (counterpartyNodeId : PublicKey) (orderId : OrderId) (orderState : OrderState)
    (channel : Option ChannelInfo) : LSPS1ServiceHandler × LSPS1ServiceOutput :=
  match self.perPeerState counterpartyNodeId with
  | some peerState =>
    match peerState.outboundChannelsByOrderId orderId with
    | some outboundChannel =>
      let config := outboundChannel.config
      (self, .respond counterpartyNodeId requestId (.getOrder
        { orderId, order := config.order, orderState, createdAt := config.createdAt
          expiresAt := config.expiresAt, payment := config.payment, channel }))
    | none => (self, .error (.channelNotFound orderId))
  | none => (self, .error (.noExistingState counterpartyNodeId))

end LSPS1ServiceHandler

/-! ## The handler as a machine -/

/-- A call to the handler of the service, with the id generated for an order. -/
inductive ServiceCall
  | sendPaymentDetails (requestId : RequestId) (counterpartyNodeId : PublicKey) (orderId : OrderId)
      (payment : OrderPayment) (createdAt expiresAt : DateTime)
  | updateOrderStatus (requestId : RequestId) (counterpartyNodeId : PublicKey) (orderId : OrderId)
      (orderState : OrderState) (channel : Option ChannelInfo)
  | handleMessage (message : LSPS1Message) (counterpartyNodeId : PublicKey)
  deriving DecidableEq

namespace LSPS1ServiceHandler

/-- A call to the handler. -/
def step (debug : Bool) (self : LSPS1ServiceHandler) :
    ServiceCall → LSPS1ServiceHandler × LSPS1ServiceOutput
  | .sendPaymentDetails requestId p orderId payment createdAt expiresAt =>
    self.sendPaymentDetails requestId p orderId payment createdAt expiresAt
  | .updateOrderStatus requestId p orderId orderState channel =>
    self.updateOrderStatus requestId p orderId orderState channel
  | .handleMessage message p => self.handleMessage debug message p

/-- The calls to a handler. -/
def machine (debug : Bool) : Machine LSPS1ServiceHandler ServiceCall LSPS1ServiceOutput :=
  ⟨step debug⟩

end LSPS1ServiceHandler

end LightningLiquidity.Lsps1
