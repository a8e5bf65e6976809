import LightningLiquidity.Lib.PartialMap
import LightningLiquidity.Lsps2.Amounts
import LightningLiquidity.Lsps2.Channel

/-!
# The LSPS2 service

The handler of the service (`LSPS2ServiceHandler`) answers the requests of
peers, and runs the JIT channels sold to them. Channels are stored per peer
under the short channel id given out, and found through four maps: by the
channel's user channel id and its channel id in the state of the peer, and the
peers of short channel ids and channel ids.

A call gives the new handler and an `Output`: how it ends, the messages and
events it enqueues, and the calls it makes to the channel manager of the node,
which answers them as said by an argument (`ChannelManager`). A call that ends in
an error, or a panic, may have changed the handler before.

Debug assertions are left out, as in a release build: what follows them is done.

All calls together are the machine `LSPS2ServiceHandler.machine`. A panic leaves the lock of
a peer poisoned, and later calls panic at it: this is not modelled. So what is promised of calls
is promised up to the first that does not return (`LSPS2ServiceHandler.Returns`).
-/

namespace LightningLiquidity

/-! ## Calls and their outputs -/

/-- A call to the channel manager. -/
inductive CMCall
  | forwardInterceptedHtlc (interceptId : InterceptId) (nextHopChannelId : ChannelId)
      (nextNodeId : PublicKey) (amtToForwardMsat : UInt64)
  | failInterceptedHtlc (interceptId : InterceptId)
  deriving DecidableEq, Repr

/-- The errors of the calls made by the node. All but that of the channel manager
    are an `APIMisuseError`. -/
inductive APIError
  /-- The error of the channel manager. -/
  | channelManager (code : ℕ)
  /-- `No state for the counterparty exists` -/
  | noCounterpartyStateExists (counterpartyNodeId : PublicKey)
  /-- `No pending get_info request for request_id` -/
  | noPendingGetInfoRequest (requestId : RequestId)
  /-- `No pending buy request for request_id` -/
  | noPendingBuyRequest (requestId : RequestId)
  /-- `No counterparty found for scid` -/
  | noCounterpartyForScid (interceptScid : Scid)
  /-- The channel refuses an HTLC. -/
  | htlcRefused (e : ChannelStateError)
  /-- `Unable to fail HTLC` -/
  | unableToFailHtlc (e : ChannelStateError)
  /-- `Forwarded payment was not applicable for JIT channel` -/
  | forwardedPaymentNotApplicable (e : ChannelStateError)
  /-- `No state for for channel id` -/
  | noStateForChannelId (channelId : ChannelId)
  /-- `No counterparty state for` -/
  | noCounterpartyState (counterpartyNodeId : PublicKey)
  /-- `Failed to transition to channel ready` -/
  | failedToTransition (e : ChannelStateError)
  /-- `Could not find a channel with user_channel_id` -/
  | noChannelWithUserChannelId (userChannelId : UserChannelId)
  /-- `Could not find a channel with that user_channel_id` -/
  | noUserChannelId (userChannelId : UserChannelId)
  deriving DecidableEq

/-- The error of handling a message of a peer, ignored and logged. -/
structure LightningError where
  err : String
  deriving DecidableEq, Repr

/-- The error of a call to a handler. -/
inductive HandlerError
  | api (e : APIError)
  | lightning (e : LightningError)
  /-- `Service handler received LSPS2 response message from node` -/
  | receivedResponse (counterpartyNodeId : PublicKey)
  deriving DecidableEq

/-- The answers of the channel manager: to the `n`-th call made to it. -/
abbrev ChannelManager := ℕ → CMCall → Except APIError Unit

/-- The events of the service. -/
inductive LSPS2ServiceEvent
  | getInfo (requestId : RequestId) (counterpartyNodeId : PublicKey) (token : Option String)
  | buyRequest (requestId : RequestId) (counterpartyNodeId : PublicKey)
      (openingFeeParams : OpeningFeeParams) (paymentSizeMsat : Option UInt64)
  | openChannel (theirNetworkKey : PublicKey) (amtToForwardMsat openingFeeMsat : UInt64)
      (userChannelId : UserChannelId) (interceptScid : Scid)
  deriving DecidableEq

/-- What a call does besides changing the handler. -/
structure Output where
  result : Outcome HandlerError
  messages : List (PublicKey × LSPS2Message) := []
  events : List LSPS2ServiceEvent := []
  cmCalls : List CMCall := []
  deriving DecidableEq

namespace Output

/-- The call ends in an error of the API. -/
abbrev apiError (e : APIError) : Output := { result := .err (.api e) }

/-- The call answers a request. -/
abbrev respond (p : PublicKey) (requestId : RequestId) (response : LSPS2Response) : Output :=
  { result := .ok, messages := [(p, .response requestId response)] }

end Output

/-- Calls the channel manager, until it gives an error. Gives the calls made and
    how this ends. -/
def ChannelManager.callAll (cm : ChannelManager) : ℕ → List CMCall → List CMCall × Outcome HandlerError
  | _, [] => ([], .ok)
  | n, call :: calls =>
    match cm n call with
    | .error e => ([call], .err (.api e))
    | .ok () => (cm.callAll (n + 1) calls).map (call :: ·) id

/-- The calls that forward HTLCs with the given amounts over a channel. -/
def forwardCalls (counterpartyNodeId : PublicKey) (channelId : ChannelId)
    (amounts : List (InterceptId × UInt64)) : List CMCall :=
  amounts.map fun (interceptId, amountToForwardMsat) =>
    .forwardInterceptedHtlc interceptId channelId counterpartyNodeId amountToForwardMsat

/-- Forwards HTLCs with the given amounts over a channel. -/
def ChannelManager.forwardAll (cm : ChannelManager) (counterpartyNodeId : PublicKey)
    (channelId : ChannelId) (amounts : List (InterceptId × UInt64)) : Output :=
  let (cmCalls, result) := cm.callAll 0 (forwardCalls counterpartyNodeId channelId amounts)
  { result, cmCalls }

/-- Forwards the HTLCs of a payment while skimming the fee. -/
def ChannelManager.forwardPayment (cm : ChannelManager) (counterpartyNodeId : PublicKey)
    (channelId : ChannelId) (payment : FeePayment) : Output :=
  match calculateAmountToForwardPerHtlc payment.htlcs payment.openingFeeMsat with
  | none => { result := .panic }
  | some amounts => cm.forwardAll counterpartyNodeId channelId amounts

/-! ## The handler -/

/-- The state of a peer. -/
structure PeerState where
  outboundChannelsByInterceptScid : PartialMap Scid OutboundJITChannel
  interceptScidByUserChannelId : PartialMap UserChannelId Scid
  interceptScidByChannelId : PartialMap ChannelId Scid
  pendingRequests : PartialMap RequestId LSPS2Request

namespace PeerState

/-- The state of a peer not seen before. -/
def new : PeerState where
  outboundChannelsByInterceptScid := .empty
  interceptScidByUserChannelId := .empty
  interceptScidByChannelId := .empty
  pendingRequests := .empty

/-- Stores a channel. -/
def insertOutboundChannel (self : PeerState) (interceptScid : Scid) (channel : OutboundJITChannel) :
    PeerState :=
  { self with outboundChannelsByInterceptScid :=
      self.outboundChannelsByInterceptScid.insert interceptScid channel }

/-- Keeps a request until it is answered. -/
def insertRequest (self : PeerState) (requestId : RequestId) (request : LSPS2Request) : PeerState :=
  { self with pendingRequests := self.pendingRequests.insert requestId request }

end PeerState

/-- The handler of the service, with the secret it makes promises under. -/
structure LSPS2ServiceHandler where
  perPeerState : PartialMap PublicKey PeerState
  peerByInterceptScid : PartialMap Scid PublicKey
  peerByChannelId : PartialMap ChannelId PublicKey
  promiseSecret : List UInt8

/-- Where an HTLC failed. -/
inductive HTLCDestination
  | nextHopChannel (nodeId : Option PublicKey) (channelId : ChannelId)
  | other
  deriving DecidableEq

namespace LSPS2ServiceHandler

/-- A new handler. -/
def new (promiseSecret : List UInt8) : LSPS2ServiceHandler where
  perPeerState := .empty
  peerByInterceptScid := .empty
  peerByChannelId := .empty
  promiseSecret := promiseSecret

/-- The handler with the state of a peer replaced. -/
def setPeer (self : LSPS2ServiceHandler) (p : PublicKey) (peerState : PeerState) :
    LSPS2ServiceHandler :=
  { self with perPeerState := self.perPeerState.insert p peerState }

/-! ### Answers to requests -/

/-- Answers a `get_info` request. The request is taken off before it is looked at. -/
def respondGetInfo (self : LSPS2ServiceHandler) (counterpartyNodeId : PublicKey)
    (requestId : RequestId) (response : LSPS2Response) : LSPS2ServiceHandler × Output :=
  match self.perPeerState counterpartyNodeId with
  | some peerState =>
    let request := peerState.pendingRequests requestId
    let peerState :=
      { peerState with pendingRequests := peerState.pendingRequests.remove requestId }
    let self := self.setPeer counterpartyNodeId peerState
    match request with
    | some (.getInfo _) => (self, .respond counterpartyNodeId requestId response)
    | _ => (self, .apiError (.noPendingGetInfoRequest requestId))
  | none => (self, .apiError (.noCounterpartyStateExists counterpartyNodeId))

/-- The token of a `get_info` request is invalid. -/
def invalidTokenProvided (self : LSPS2ServiceHandler) (counterpartyNodeId : PublicKey)
    (requestId : RequestId) : LSPS2ServiceHandler × Output :=
  self.respondGetInfo counterpartyNodeId requestId <| .getInfoError
    { code := unrecognizedOrStaleTokenErrorCode
      message := "an unrecognized or stale token was provided"
      data := none }

/-- Opening fee parameters are offered in answer to a `get_info` request. -/
def openingFeeParamsGenerated (env : Externals) (self : LSPS2ServiceHandler)
    (counterpartyNodeId : PublicKey) (requestId : RequestId)
    (openingFeeParamsMenu : List RawOpeningFeeParams) : LSPS2ServiceHandler × Output :=
  self.respondGetInfo counterpartyNodeId requestId <| .getInfo
    { openingFeeParamsMenu :=
        openingFeeParamsMenu.map fun param => param.intoOpeningFeeParams env self.promiseSecret }

/-- A short channel id is given out in answer to a `buy` request, and the channel
    stored under it. The request is taken off before it is looked at. -/
def invoiceParametersGenerated (self : LSPS2ServiceHandler) (counterpartyNodeId : PublicKey)
    (requestId : RequestId) (interceptScid : Scid) (cltvExpiryDelta : UInt32)
    (clientTrustsLsp : Bool) (userChannelId : UserChannelId) : LSPS2ServiceHandler × Output :=
  match self.perPeerState counterpartyNodeId with
  | some peerState =>
    let request := peerState.pendingRequests requestId
    let peerState :=
      { peerState with pendingRequests := peerState.pendingRequests.remove requestId }
    match request with
    | some (.buy buyRequest) =>
      let self := { self with
        peerByInterceptScid := self.peerByInterceptScid.insert interceptScid counterpartyNodeId }
      let outboundJitChannel :=
        OutboundJITChannel.new buyRequest.paymentSizeMsat buyRequest.openingFeeParams userChannelId
      let peerState := { peerState with
        interceptScidByUserChannelId :=
          peerState.interceptScidByUserChannelId.insert userChannelId interceptScid }
      let peerState := peerState.insertOutboundChannel interceptScid outboundJitChannel
      (self.setPeer counterpartyNodeId peerState, .respond counterpartyNodeId requestId <| .buy
        { interceptScid := .ofScid interceptScid
          lspCltvExpiryDelta := cltvExpiryDelta
          clientTrustsLsp })
    | _ => (self.setPeer counterpartyNodeId peerState, .apiError (.noPendingBuyRequest requestId))
  | none => (self, .apiError (.noCounterpartyStateExists counterpartyNodeId))

/-! ### Events of the node -/

/-- An HTLC is intercepted. -/
def htlcIntercepted (self : LSPS2ServiceHandler) (cm : ChannelManager) (interceptScid : Scid)
    (interceptId : InterceptId) (expectedOutboundAmountMsat : UInt64) (paymentHash : PaymentHash) :
    LSPS2ServiceHandler × Output :=
  match self.peerByInterceptScid interceptScid with
  | some counterpartyNodeId =>
    match self.perPeerState counterpartyNodeId with
    | some peerState =>
      match peerState.outboundChannelsByInterceptScid interceptScid with
      | some jitChannel =>
        let (jitChannel, r) :=
          jitChannel.htlcIntercepted { interceptId, expectedOutboundAmountMsat, paymentHash }
        let peerState := peerState.insertOutboundChannel interceptScid jitChannel
        let self' := self.setPeer counterpartyNodeId peerState
        match r with
        | .ok (some (.openChannel openChannelParams)) =>
          (self', { result := .ok
                    events := [.openChannel counterpartyNodeId openChannelParams.amtToForwardMsat
                      openChannelParams.openingFeeMsat jitChannel.userChannelId interceptScid] })
        | .ok (some (.forwardHTLC channelId)) =>
          (self', cm.forwardAll counterpartyNodeId channelId
            [(interceptId, expectedOutboundAmountMsat)])
        | .ok (some (.forwardPayment channelId payment)) =>
          (self', cm.forwardPayment counterpartyNodeId channelId payment)
        | .ok none => (self', { result := .ok })
        | .error e =>
          match cm.callAll 0 [.failInterceptedHtlc interceptId] with
          | (cmCalls, .ok) =>
            -- The channel is removed, but not the peer of its short channel id.
            let peerState := { peerState with outboundChannelsByInterceptScid :=
              peerState.outboundChannelsByInterceptScid.remove interceptScid }
            (self.setPeer counterpartyNodeId peerState,
              { result := .err (.api (.htlcRefused e)), cmCalls })
          | (cmCalls, result) => (self', { result, cmCalls })
      | none => (self, { result := .ok })
    | none => (self, .apiError (.noCounterpartyForScid interceptScid))
  | none => (self, { result := .ok })

/-- An HTLC failed to be handled. -/
def htlcHandlingFailed (self : LSPS2ServiceHandler) (cm : ChannelManager)
    (failedNextDestination : HTLCDestination) : LSPS2ServiceHandler × Output :=
  match failedNextDestination with
  | .nextHopChannel _ channelId =>
    match self.peerByChannelId channelId with
    | some counterpartyNodeId =>
      match self.perPeerState counterpartyNodeId with
      | some peerState =>
        match peerState.interceptScidByChannelId channelId with
        | some interceptScid =>
          match peerState.outboundChannelsByInterceptScid interceptScid with
          | some jitChannel =>
            let (jitChannel, r) := jitChannel.htlcHandlingFailed
            let self := self.setPeer counterpartyNodeId
              (peerState.insertOutboundChannel interceptScid jitChannel)
            match r with
            | .ok (some { channelId, payment }) =>
              (self, cm.forwardPayment counterpartyNodeId channelId payment)
            | .ok none => (self, { result := .ok })
            | .error e => (self, .apiError (.unableToFailHtlc e))
          | none => (self, { result := .ok })
        | none => (self, { result := .ok })
      | none => (self, { result := .ok })
    | none => (self, { result := .ok })
  | .other => (self, { result := .ok })

/-- A payment was forwarded. -/
def paymentForwarded (self : LSPS2ServiceHandler) (cm : ChannelManager)
    (nextChannelId : ChannelId) : LSPS2ServiceHandler × Output :=
  match self.peerByChannelId nextChannelId with
  | some counterpartyNodeId =>
    match self.perPeerState counterpartyNodeId with
    | some peerState =>
      match peerState.interceptScidByChannelId nextChannelId with
      | some interceptScid =>
        match peerState.outboundChannelsByInterceptScid interceptScid with
        | some jitChannel =>
          let (jitChannel, r) := jitChannel.paymentForwarded
          let self := self.setPeer counterpartyNodeId
            (peerState.insertOutboundChannel interceptScid jitChannel)
          match r with
          | .ok (some { channelId, htlcs }) =>
            (self, cm.forwardAll counterpartyNodeId channelId <|
              htlcs.map fun htlc => (htlc.interceptId, htlc.expectedOutboundAmountMsat))
          | .ok none => (self, { result := .ok })
          | .error e => (self, .apiError (.forwardedPaymentNotApplicable e))
        | none => (self, { result := .ok })
      | none => (self, .apiError (.noStateForChannelId nextChannelId))
    | none => (self, .apiError (.noCounterpartyState counterpartyNodeId))
  | none => (self, { result := .ok })

/-- A channel is ready. The maps of its channel id are set before the channel is
    looked up. -/
def channelReady (self : LSPS2ServiceHandler) (cm : ChannelManager) (userChannelId : UserChannelId)
    (channelId : ChannelId) (counterpartyNodeId : PublicKey) : LSPS2ServiceHandler × Output :=
  let self :=
    { self with peerByChannelId := self.peerByChannelId.insert channelId counterpartyNodeId }
  match self.perPeerState counterpartyNodeId with
  | some peerState =>
    match peerState.interceptScidByUserChannelId userChannelId with
    | some interceptScid =>
      let peerState := { peerState with
        interceptScidByChannelId :=
          peerState.interceptScidByChannelId.insert channelId interceptScid }
      match peerState.outboundChannelsByInterceptScid interceptScid with
      | some jitChannel =>
        let (jitChannel, r) := jitChannel.channelReady channelId
        let self := self.setPeer counterpartyNodeId
          (peerState.insertOutboundChannel interceptScid jitChannel)
        match r with
        | .ok { channelId, payment } =>
          (self, cm.forwardPayment counterpartyNodeId channelId payment)
        | .error e => (self, .apiError (.failedToTransition e))
      | none =>
        (self.setPeer counterpartyNodeId peerState,
          .apiError (.noChannelWithUserChannelId userChannelId))
    | none => (self, .apiError (.noUserChannelId userChannelId))
  | none => (self, .apiError (.noCounterpartyState counterpartyNodeId))

/-! ### Requests of peers -/

/-- Keeps a request of a peer until it is answered. -/
def keepRequest (self : LSPS2ServiceHandler) (counterpartyNodeId : PublicKey)
    (requestId : RequestId) (request : LSPS2Request) : LSPS2ServiceHandler :=
  let peerState := (self.perPeerState counterpartyNodeId).getD .new
  self.setPeer counterpartyNodeId (peerState.insertRequest requestId request)

/-- A peer asks for opening fee parameters. -/
def handleGetInfoRequest (self : LSPS2ServiceHandler) (requestId : RequestId)
    (counterpartyNodeId : PublicKey) (params : GetInfoRequest) : LSPS2ServiceHandler × Output :=
  (self.keepRequest counterpartyNodeId requestId (.getInfo params),
    { result := .ok, events := [.getInfo requestId counterpartyNodeId params.token] })

/-- A `buy` request is refused, with an error message to the peer and one to be
    logged. -/
def refuseBuy (counterpartyNodeId : PublicKey) (requestId : RequestId) (code : Int32)
    (message err : String) : Output where
  result := .err (.lightning ⟨err⟩)
  messages := [(counterpartyNodeId, .response requestId (.buyError { code, message, data := none }))]

/-- The checks on the payment size of a `buy` request: the error code and message
    if one fails. -/
def checkPaymentSize (params : OpeningFeeParams) (paymentSizeMsat : UInt64) :
    Option (Int32 × String) :=
  if paymentSizeMsat < params.minPaymentSizeMsat then
    some (paymentSizeTooSmallErrorCode,
      "payment size is below our minimum supported payment size")
  else if paymentSizeMsat > params.maxPaymentSizeMsat then
    some (paymentSizeTooLargeErrorCode,
      "payment size is above our maximum supported payment size")
  else
    match computeOpeningFee paymentSizeMsat params.minFeeMsat params.proportional.toUInt64 with
    | some openingFee =>
      if openingFee ≥ paymentSizeMsat then
        some (paymentSizeTooSmallErrorCode, "payment size is too small to cover the opening fee")
      else
        none
    | none => some (paymentSizeTooLargeErrorCode, "overflow error when calculating opening_fee")

/-- A peer asks to buy a channel, at the given time. -/
def handleBuyRequest (env : Externals) (now : UInt64) (self : LSPS2ServiceHandler)
    (requestId : RequestId) (counterpartyNodeId : PublicKey) (params : BuyRequest) :
    LSPS2ServiceHandler × Output :=
  match params.paymentSizeMsat.bind (checkPaymentSize params.openingFeeParams) with
  | some (code, message) => (self, refuseBuy counterpartyNodeId requestId code message message)
  | none =>
    match isValidOpeningFeeParams env now params.openingFeeParams self.promiseSecret with
    | none => (self, { result := .panic })
    | some false =>
      (self, refuseBuy counterpartyNodeId requestId invalidOpeningFeeParamsErrorCode
        "valid_until is already past OR the promise did not match the provided parameters"
        "invalid opening fee parameters were supplied by client")
    | some true =>
      (self.keepRequest counterpartyNodeId requestId (.buy params),
        { result := .ok
          events := [.buyRequest requestId counterpartyNodeId params.openingFeeParams
            params.paymentSizeMsat] })

/-- A peer sends a message. A response is an error. -/
def handleMessage (env : Externals) (now : UInt64) (self : LSPS2ServiceHandler)
    (message : LSPS2Message) (counterpartyNodeId : PublicKey) : LSPS2ServiceHandler × Output :=
  match message with
  | .request requestId (.getInfo params) =>
    self.handleGetInfoRequest requestId counterpartyNodeId params
  | .request requestId (.buy params) =>
    self.handleBuyRequest env now requestId counterpartyNodeId params
  | .response .. => (self, { result := .err (.receivedResponse counterpartyNodeId) })

end LSPS2ServiceHandler

/-! ## The handler as a machine -/

/-- A call to the handler. -/
inductive ServiceCall
  | invalidTokenProvided (counterpartyNodeId : PublicKey) (requestId : RequestId)
  | openingFeeParamsGenerated (counterpartyNodeId : PublicKey) (requestId : RequestId)
      (openingFeeParamsMenu : List RawOpeningFeeParams)
  | invoiceParametersGenerated (counterpartyNodeId : PublicKey) (requestId : RequestId)
      (interceptScid : Scid) (cltvExpiryDelta : UInt32) (clientTrustsLsp : Bool)
      (userChannelId : UserChannelId)
  | htlcIntercepted (interceptScid : Scid) (interceptId : InterceptId)
      (expectedOutboundAmountMsat : UInt64) (paymentHash : PaymentHash)
  | htlcHandlingFailed (failedNextDestination : HTLCDestination)
  | paymentForwarded (nextChannelId : ChannelId)
  | channelReady (userChannelId : UserChannelId) (channelId : ChannelId)
      (counterpartyNodeId : PublicKey)
  | handleMessage (message : LSPS2Message) (counterpartyNodeId : PublicKey)
  deriving DecidableEq

/-- A call to the handler, with the answers of the channel manager and the time it
    is made at. -/
structure ServiceInput where
  call : ServiceCall
  cm : ChannelManager
  now : UInt64

namespace LSPS2ServiceHandler

/-- A call to the handler. -/
def step (env : Externals) (self : LSPS2ServiceHandler) (i : ServiceInput) :
    LSPS2ServiceHandler × Output :=
  match i.call with
  | .invalidTokenProvided p requestId => self.invalidTokenProvided p requestId
  | .openingFeeParamsGenerated p requestId menu => self.openingFeeParamsGenerated env p requestId menu
  | .invoiceParametersGenerated p requestId scid cltvExpiryDelta clientTrustsLsp userChannelId =>
    self.invoiceParametersGenerated p requestId scid cltvExpiryDelta clientTrustsLsp userChannelId
  | .htlcIntercepted scid interceptId amount paymentHash =>
    self.htlcIntercepted i.cm scid interceptId amount paymentHash
  | .htlcHandlingFailed destination => self.htlcHandlingFailed i.cm destination
  | .paymentForwarded channelId => self.paymentForwarded i.cm channelId
  | .channelReady userChannelId channelId p => self.channelReady i.cm userChannelId channelId p
  | .handleMessage message p => self.handleMessage env i.now message p

/-- The calls to a handler. -/
def machine (env : Externals) : Machine LSPS2ServiceHandler ServiceInput Output := ⟨step env⟩

/-- A call returns: it does not panic. -/
def Returns (out : Output) : Prop := out.result ≠ .panic

instance : DecidablePred Returns := fun out => inferInstanceAs (Decidable (out.result ≠ .panic))

end LSPS2ServiceHandler

end LightningLiquidity
