import LightningLiquidity.Lib.Machine
import LightningLiquidity.Lib.PartialMap
import LightningLiquidity.Lsps1.Msgs

/-!
# The LSPS1 client

The handler of the client (`LSPS1ClientHandler`) asks a peer for the options it supports, places
an order for a channel, and asks how the order stands. A channel goes through the states of
`InboundRequestState`; it is removed when an operation is not expected in its state.

A request is taken off before its answer is looked at, as in the other protocols. All calls
together are the machine `LSPS1ClientHandler.machine`. What overflows or fails an assertion
panics in a debug build, and wraps around or is an error in others.
-/

namespace LightningLiquidity.Lsps1

/-- The configuration of the client. -/
structure LSPS1ClientConfig where
  maxChannelFeesMsat : Option UInt64

/-! ## Channels -/

/-- The states of a channel to be ordered. -/
inductive InboundRequestState
  | infoRequested
  | optionsSupport (optionsSupported : OptionsSupported)
  | orderRequested (order : OrderParams)
  | pendingPayment (orderId : OrderId)
  | awaitingConfirmation (userChannelId : UserChannelId) (orderId : OrderId)
  deriving DecidableEq

/-- Why a state refuses an operation. -/
inductive ChannelStateError
  /-- `Received unexpected get_info response.`, with the state. -/
  | unexpectedGetInfoResponse (state : InboundRequestState)
  /-- `The order created does not match options supported by LSP.` -/
  | orderMismatch (optionsSupported : OptionsSupported) (order : OrderParams)
  /-- `Received create order request for wrong channel.`, with the state. -/
  | wrongChannel (state : InboundRequestState)
  /-- `Received order is different from created order.` -/
  | orderDiffers (created received : OrderParams)
  /-- `Received unexpected create order response.`, with the state. -/
  | unexpectedCreateOrderResponse (state : InboundRequestState)
  /-- `Received unexpected response.`, with the state. -/
  | unexpectedResponse (state : InboundRequestState)
  deriving DecidableEq

namespace InboundRequestState

/-- The options supported are received. -/
def infoReceived (self : InboundRequestState) (options : OptionsSupported) :
    Except ChannelStateError InboundRequestState :=
  match self with
  | infoRequested => .ok (optionsSupport options)
  | state => .error (.unexpectedGetInfoResponse state)

/-- An order is placed. -/
def orderRequestedOp (self : InboundRequestState) (order : OrderParams) :
    Except ChannelStateError InboundRequestState :=
  match self with
  | optionsSupport optionsSupported =>
    if isValid order optionsSupported then
      .ok (orderRequested order)
    else
      .error (.orderMismatch optionsSupported order)
  | state => .error (.wrongChannel state)

/-- The order is confirmed. -/
def orderReceived (self : InboundRequestState) (responseOrder : OrderParams) (orderId : OrderId) :
    Except ChannelStateError InboundRequestState :=
  match self with
  | orderRequested order =>
    if responseOrder = order then
      .ok (pendingPayment orderId)
    else
      .error (.orderDiffers order responseOrder)
  | state => .error (.unexpectedCreateOrderResponse state)

/-- The order is said to be paid for. -/
def payForChannel (self : InboundRequestState) (userChannelId : UserChannelId) :
    Except ChannelStateError InboundRequestState :=
  match self with
  | pendingPayment orderId => .ok (awaitingConfirmation userChannelId orderId)
  | state => .error (.unexpectedResponse state)

end InboundRequestState

/-- A channel to be ordered. -/
structure InboundCRChannel where
  userChannelId : UserChannelId
  state : InboundRequestState
  deriving DecidableEq

namespace InboundCRChannel

/-- A new channel. -/
def new (userChannelId : UserChannelId) : InboundCRChannel where
  userChannelId := userChannelId
  state := .infoRequested

/-- The channel with the state an operation gives. -/
def update (self : InboundCRChannel) (r : Except ChannelStateError InboundRequestState) :
    Except ChannelStateError InboundCRChannel :=
  r.map fun state => { self with state }

@[simp] theorem update_ok (self : InboundCRChannel) (state : InboundRequestState) :
    self.update (.ok state) = .ok { self with state } := rfl

end InboundCRChannel

/-! ## Calls and their outputs -/

/-- The responses of a peer, as errors name them. -/
inductive ResponseKind
  | getInfo
  | getInfoError
  | createOrder
  | createOrderError
  | getOrder
  | getOrderError
  deriving DecidableEq

/-- The errors of the client. The first two are an `APIMisuseError`, the others a
    `LightningError`. -/
inductive LSPS1ClientError
  /-- `Channel with user_channel_id .. not found` -/
  | channelNotFound (userChannelId : UserChannelId)
  /-- `No existing state with counterparty` -/
  | noExistingState (counterpartyNodeId : PublicKey)
  /-- `Received .. for an unknown request` -/
  | unknownRequest (kind : ResponseKind) (requestId : RequestId)
  /-- `Received .. for an unknown channel` -/
  | unknownChannel (kind : ResponseKind) (userChannelId : UserChannelId)
  /-- `Received .. from unknown peer`, or `from an unknown counterparty` -/
  | unknownPeer (kind : ResponseKind) (counterpartyNodeId : PublicKey)
  /-- The state of the channel refuses the operation. -/
  | refused (e : ChannelStateError)
  /-- `Fees are too high`, with the fees. -/
  | feesTooHigh (totalFees : UInt64)
  /-- `Client handler received LSPS1 request message` -/
  | receivedRequest (counterpartyNodeId : PublicKey)
  deriving DecidableEq

/-- The events of the client. -/
inductive LSPS1ClientEvent
  | getInfoResponse (userChannelId : UserChannelId) (counterpartyNodeId : PublicKey)
      (website : String) (optionsSupported : OptionsSupported)
  | displayOrder (userChannelId : UserChannelId) (counterpartyNodeId : PublicKey)
      (order : OrderParams) (payment : OrderPayment) (channel : Option ChannelInfo)
  deriving DecidableEq

/-- What a call does besides changing the handler. -/
structure LSPS1ClientOutput where
  result : Outcome LSPS1ClientError
  messages : List (PublicKey × LSPS1Message) := []
  events : List LSPS1ClientEvent := []
  deriving DecidableEq

/-! ## The handler -/

namespace LSPS1ClientHandler

/-- The state of a peer: the channels ordered from it, and the channels of the requests it has
    not answered yet. -/
structure PeerState where
  inboundChannelsById : PartialMap UserChannelId InboundCRChannel
  requestToCid : PartialMap RequestId UserChannelId

namespace PeerState

/-- The state of a peer not asked before. -/
def default : PeerState where
  inboundChannelsById := .empty
  requestToCid := .empty

/-- Stores a channel. -/
def insertInboundChannel (self : PeerState) (userChannelId : UserChannelId)
    (channel : InboundCRChannel) : PeerState :=
  { self with inboundChannelsById := self.inboundChannelsById.insert userChannelId channel }

/-- Keeps the channel of a request. -/
def insertRequest (self : PeerState) (requestId : RequestId) (userChannelId : UserChannelId) :
    PeerState :=
  { self with requestToCid := self.requestToCid.insert requestId userChannelId }

/-- Removes a channel. -/
def removeInboundChannel (self : PeerState) (userChannelId : UserChannelId) : PeerState :=
  { self with inboundChannelsById := self.inboundChannelsById.remove userChannelId }

/-- Takes a request off. -/
def removeRequest (self : PeerState) (requestId : RequestId) : PeerState :=
  { self with requestToCid := self.requestToCid.remove requestId }

end PeerState

end LSPS1ClientHandler

/-- The handler of the client. -/
structure LSPS1ClientHandler where
  perPeerState : PartialMap PublicKey LSPS1ClientHandler.PeerState
  config : LSPS1ClientConfig

namespace LSPS1ClientHandler

/-- A new handler. -/
def new (config : LSPS1ClientConfig) : LSPS1ClientHandler where
  perPeerState := .empty
  config := config

/-- The handler with the state of a peer replaced. -/
def setPeer (self : LSPS1ClientHandler) (p : PublicKey) (peerState : PeerState) :
    LSPS1ClientHandler :=
  { self with perPeerState := self.perPeerState.insert p peerState }

/-- Asks a peer for the options it supports, for a new channel. -/
def sendGetInfoRequest (self : LSPS1ClientHandler) (requestId : RequestId)
    (counterpartyNodeId : PublicKey) (userChannelId : UserChannelId) :
    LSPS1ClientHandler × LSPS1ClientOutput :=
  let peerState := (self.perPeerState counterpartyNodeId).getD .default
  let peerState := peerState.insertInboundChannel userChannelId (.new userChannelId)
  let peerState := peerState.insertRequest requestId userChannelId
  (self.setPeer counterpartyNodeId peerState,
    { result := .ok, messages := [(counterpartyNodeId, .request requestId (.getInfo {}))] })

/-- Places an order. -/
def placeOrder (self : LSPS1ClientHandler) (requestId : RequestId) (userChannelId : UserChannelId)
    (counterpartyNodeId : PublicKey) (order : OrderParams) :
    LSPS1ClientHandler × LSPS1ClientOutput :=
  match self.perPeerState counterpartyNodeId with
  | some peerState =>
    match peerState.inboundChannelsById userChannelId with
    | some inboundChannel =>
      match inboundChannel.update (inboundChannel.state.orderRequestedOp order) with
      | .ok inboundChannel =>
        let peerState := peerState.insertInboundChannel userChannelId inboundChannel
        (self.setPeer counterpartyNodeId (peerState.insertRequest requestId userChannelId),
          { result := .ok
            messages := [(counterpartyNodeId, .request requestId (.createOrder { order }))] })
      | .error e =>
        (self.setPeer counterpartyNodeId (peerState.removeInboundChannel userChannelId),
          { result := .err (.refused e) })
    | none => (self, { result := .err (.channelNotFound userChannelId) })
  | none => (self, { result := .err (.noExistingState counterpartyNodeId) })

/-- Asks how an order stands. -/
def checkOrderStatus (self : LSPS1ClientHandler) (requestId : RequestId)
    (counterpartyNodeId : PublicKey) (orderId : OrderId) (userChannelId : UserChannelId) :
    LSPS1ClientHandler × LSPS1ClientOutput :=
  match self.perPeerState counterpartyNodeId with
  | some peerState =>
    match peerState.inboundChannelsById userChannelId with
    | some inboundChannel =>
      match inboundChannel.update (inboundChannel.state.payForChannel userChannelId) with
      | .ok inboundChannel =>
        let peerState := peerState.insertInboundChannel userChannelId inboundChannel
        (self.setPeer counterpartyNodeId (peerState.insertRequest requestId userChannelId),
          { result := .ok
            messages := [(counterpartyNodeId, .request requestId (.getOrder { orderId }))] })
      | .error e =>
        (self.setPeer counterpartyNodeId (peerState.removeInboundChannel userChannelId),
          { result := .err (.refused e) })
    | none => (self, { result := .err (.channelNotFound userChannelId) })
  | none => (self, { result := .err (.noExistingState counterpartyNodeId) })

/-! ### Responses of peers -/

/-- The handling of a response starts with taking its request off, and finding its channel. What
    follows is given the state of the peer, and the channel with its user channel id. -/
def withRequest (self : LSPS1ClientHandler) (kind : ResponseKind) (requestId : RequestId)
    (counterpartyNodeId : PublicKey)
    (f : PeerState → UserChannelId → InboundCRChannel → LSPS1ClientHandler × LSPS1ClientOutput) :
    LSPS1ClientHandler × LSPS1ClientOutput :=
  match self.perPeerState counterpartyNodeId with
  | some peerState =>
    match peerState.requestToCid requestId with
    | some userChannelId =>
      let peerState := peerState.removeRequest requestId
      match peerState.inboundChannelsById userChannelId with
      | some inboundChannel => f peerState userChannelId inboundChannel
      | none =>
        (self.setPeer counterpartyNodeId peerState,
          { result := .err (.unknownChannel kind userChannelId) })
    | none => (self, { result := .err (.unknownRequest kind requestId) })
  | none => (self, { result := .err (.unknownPeer kind counterpartyNodeId) })

/-- A peer gives the options it supports. -/
def handleGetInfoResponse (self : LSPS1ClientHandler) (requestId : RequestId)
    (counterpartyNodeId : PublicKey) (result : GetInfoResponse) :
    LSPS1ClientHandler × LSPS1ClientOutput :=
  self.withRequest .getInfo requestId counterpartyNodeId
    fun peerState userChannelId inboundChannel =>
      match inboundChannel.update (inboundChannel.state.infoReceived result.options) with
      | .ok inboundChannel =>
        (self.setPeer counterpartyNodeId (peerState.insertInboundChannel userChannelId inboundChannel),
          { result := .ok
            events := [.getInfoResponse userChannelId counterpartyNodeId result.website
              result.options] })
      | .error e =>
        (self.setPeer counterpartyNodeId (peerState.removeInboundChannel userChannelId),
          { result := .err (.refused e) })

/-- A peer answers with what is not looked at. -/
def acknowledge (self : LSPS1ClientHandler) (kind : ResponseKind) (requestId : RequestId)
    (counterpartyNodeId : PublicKey) : LSPS1ClientHandler × LSPS1ClientOutput :=
  self.withRequest kind requestId counterpartyNodeId fun peerState _ _ =>
    (self.setPeer counterpartyNodeId peerState, { result := .ok })

/-- A peer refuses a `get_info` request. -/
def handleGetInfoError (self : LSPS1ClientHandler) (requestId : RequestId)
    (counterpartyNodeId : PublicKey) : LSPS1ClientHandler × LSPS1ClientOutput :=
  self.acknowledge .getInfoError requestId counterpartyNodeId

/-- A peer confirms an order, and asks for its payment. The fees are compared with the limit in
    different units, and the sum may overflow. -/
def handleCreateOrderResponse (debug : Bool) (self : LSPS1ClientHandler) (requestId : RequestId)
    (counterpartyNodeId : PublicKey) (response : CreateOrderResponse) :
    LSPS1ClientHandler × LSPS1ClientOutput :=
  self.withRequest .createOrder requestId counterpartyNodeId
    fun peerState userChannelId inboundChannel =>
      match inboundChannel.update
          (inboundChannel.state.orderReceived response.order response.orderId) with
      | .ok inboundChannel =>
        let self' := self.setPeer counterpartyNodeId
          (peerState.insertInboundChannel userChannelId inboundChannel)
        let totalFees := response.payment.feeTotalSat + response.order.clientBalanceSat
        if debug ∧ 2 ^ 64 ≤
            response.payment.feeTotalSat.toNat + response.order.clientBalanceSat.toNat then
          (self', { result := .panic })
        else
          let maxChannelFeesMsat := self.config.maxChannelFeesMsat.getD (UInt64.ofNat (2 ^ 64 - 1))
          if totalFees = response.payment.orderTotalSat ∧ totalFees < maxChannelFeesMsat then
            (self', { result := .ok
                      events := [.displayOrder userChannelId counterpartyNodeId response.order
                        response.payment response.channel] })
          else
            (self.setPeer counterpartyNodeId (peerState.removeInboundChannel userChannelId),
              { result := .err (.feesTooHigh totalFees) })
      | .error e =>
        (self.setPeer counterpartyNodeId (peerState.removeInboundChannel userChannelId),
          { result := .err (.refused e) })

/-- A peer refuses a `create_order` request. -/
def handleCreateOrderError (self : LSPS1ClientHandler) (requestId : RequestId)
    (counterpartyNodeId : PublicKey) : LSPS1ClientHandler × LSPS1ClientOutput :=
  self.acknowledge .createOrderError requestId counterpartyNodeId

/-- A peer says how an order stands. -/
def handleGetOrderResponse (self : LSPS1ClientHandler) (requestId : RequestId)
    (counterpartyNodeId : PublicKey) : LSPS1ClientHandler × LSPS1ClientOutput :=
  self.acknowledge .getOrder requestId counterpartyNodeId

/-- A peer refuses a `get_order` request. -/
def handleGetOrderError (self : LSPS1ClientHandler) (requestId : RequestId)
    (counterpartyNodeId : PublicKey) : LSPS1ClientHandler × LSPS1ClientOutput :=
  self.acknowledge .getOrderError requestId counterpartyNodeId

/-- A peer sends a message. A request fails an assertion. -/
def handleMessage (debug : Bool) (self : LSPS1ClientHandler) (message : LSPS1Message)
    (counterpartyNodeId : PublicKey) : LSPS1ClientHandler × LSPS1ClientOutput :=
  match message with
  | .response requestId (.getInfo result) =>
    self.handleGetInfoResponse requestId counterpartyNodeId result
  | .response requestId (.getInfoError _) => self.handleGetInfoError requestId counterpartyNodeId
  | .response requestId (.createOrder result) =>
    self.handleCreateOrderResponse debug requestId counterpartyNodeId result
  | .response requestId (.createOrderError _) =>
    self.handleCreateOrderError requestId counterpartyNodeId
  | .response requestId (.getOrder _) => self.handleGetOrderResponse requestId counterpartyNodeId
  | .response requestId (.getOrderError _) => self.handleGetOrderError requestId counterpartyNodeId
  | .request .. =>
    if debug then
      (self, { result := .panic })
    else
      (self, { result := .err (.receivedRequest counterpartyNodeId) })

end LSPS1ClientHandler

/-! ## The handler as a machine -/

/-- A call to the handler of the client, with the id generated for a request. -/
inductive ClientCall
  | sendGetInfoRequest (requestId : RequestId) (counterpartyNodeId : PublicKey)
      (userChannelId : UserChannelId)
  | placeOrder (requestId : RequestId) (userChannelId : UserChannelId)
      (counterpartyNodeId : PublicKey) (order : OrderParams)
  | checkOrderStatus (requestId : RequestId) (counterpartyNodeId : PublicKey) (orderId : OrderId)
      (userChannelId : UserChannelId)
  | handleMessage (message : LSPS1Message) (counterpartyNodeId : PublicKey)
  deriving DecidableEq

namespace LSPS1ClientHandler

/-- A call to the handler. -/
def step (debug : Bool) (self : LSPS1ClientHandler) :
    ClientCall → LSPS1ClientHandler × LSPS1ClientOutput
  | .sendGetInfoRequest requestId p userChannelId => self.sendGetInfoRequest requestId p userChannelId
  | .placeOrder requestId userChannelId p order => self.placeOrder requestId userChannelId p order
  | .checkOrderStatus requestId p orderId userChannelId =>
    self.checkOrderStatus requestId p orderId userChannelId
  | .handleMessage message p => self.handleMessage debug message p

/-- The calls to a handler. -/
def machine (debug : Bool) : Machine LSPS1ClientHandler ClientCall LSPS1ClientOutput := ⟨step debug⟩

end LSPS1ClientHandler

end LightningLiquidity.Lsps1
