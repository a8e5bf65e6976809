import LightningLiquidity.Lsps1.Service

/-!
# What calls to the service do

The service keeps the channels ordered (`orders`, under pairs of a peer and an order id), and the
requests not answered yet (`pending`, under pairs of a peer and a request id). What a call does to
them, and gives, is said once, by `LSPS1ServiceHandler.Effect`.
-/

namespace LightningLiquidity.Lsps1.LSPS1ServiceHandler

open OutboundRequestState

/-- The channels ordered. -/
def orders (s : LSPS1ServiceHandler) : PartialMap (PublicKey × OrderId) OutboundCRChannel :=
  .flatten PeerState.outboundChannelsByOrderId s.perPeerState

/-- The requests not answered yet. -/
def pending (s : LSPS1ServiceHandler) : PartialMap (PublicKey × RequestId) LSPS1Request :=
  .flatten PeerState.pendingRequests s.perPeerState

/-- What a call can do to orders and pending requests, and give. -/
inductive Effect (s : LSPS1ServiceHandler) : ServiceCall →
    PartialMap (PublicKey × OrderId) OutboundCRChannel →
    PartialMap (PublicKey × RequestId) LSPS1Request → LSPS1ServiceOutput → Prop
  | info {requestId : RequestId} {p : PublicKey} {params : GetInfoRequest}
      {response : GetInfoResponse} :
      Effect s (.handleMessage (.request requestId (.getInfo params)) p) s.orders s.pending
        (.respond p requestId (.getInfo response))
  /-- The service is not configured. -/
  | unset {requestId : RequestId} {p : PublicKey} {request : LSPS1Request}
      (hrequest : ∀ params, request ≠ .getOrder params) :
      Effect s (.handleMessage (.request requestId request) p) s.orders s.pending
        { result := .panic }
  | accept {requestId : RequestId} {p : PublicKey} {params : CreateOrderRequest}
      {options : OptionsSupported} (hoptions : s.config.optionsSupported = some options)
      (hvalid : isValid params.order options = true) :
      Effect s (.handleMessage (.request requestId (.createOrder params)) p) s.orders
        (s.pending.insert (p, requestId) (.createOrder params))
        { result := .ok, events := [.requestForPaymentDetails requestId p params.order] }
  | mismatch {requestId : RequestId} {p : PublicKey} {params : CreateOrderRequest}
      {options : OptionsSupported} (hoptions : s.config.optionsSupported = some options)
      (hvalid : isValid params.order options = false) :
      Effect s (.handleMessage (.request requestId (.createOrder params)) p) s.orders s.pending
        { result := .err (.orderMismatch params.order)
          messages := [(p, .response requestId (.createOrderError (orderMismatch options)))] }
  | check {requestId : RequestId} {p : PublicKey} {params : GetOrderRequest} {orderId : OrderId}
      {ch : OutboundCRChannel} (hch : s.orders (p, params.orderId) = some ch)
      (hst : ch.state = orderCreated orderId) :
      Effect s (.handleMessage (.request requestId (.getOrder params)) p)
        (s.orders.insert (p, params.orderId) { ch with state := waitingPayment orderId })
        (s.pending.insert (p, requestId) (.getOrder params))
        { result := .ok, events := [.checkPaymentConfirmation requestId p params.orderId] }
  /-- The order was asked for before. -/
  | refund {requestId : RequestId} {p : PublicKey} {params : GetOrderRequest}
      {ch : OutboundCRChannel} (hch : s.orders (p, params.orderId) = some ch)
      (hst : ∀ orderId, ch.state ≠ orderCreated orderId) :
      Effect s (.handleMessage (.request requestId (.getOrder params)) p)
        (s.orders.remove (p, params.orderId)) s.pending
        { result := .err (.notAwaitingPayment ch.state)
          events := [.refund requestId p params.orderId] }
  | noOrder {requestId : RequestId} {p : PublicKey} {params : GetOrderRequest}
      {e : LSPS1ServiceError} (hch : s.orders (p, params.orderId) = none) :
      Effect s (.handleMessage (.request requestId (.getOrder params)) p) s.orders s.pending (.error e)
  | response {requestId : RequestId} {p : PublicKey} {response : LSPS1Response}
      {result : Outcome LSPS1ServiceError} :
      Effect s (.handleMessage (.response requestId response) p) s.orders s.pending { result }
  | details {requestId : RequestId} {p : PublicKey} {orderId : OrderId} {payment : OrderPayment}
      {createdAt expiresAt : DateTime} {params : CreateOrderRequest}
      (hreq : s.pending (p, requestId) = some (.createOrder params)) :
      Effect s (.sendPaymentDetails requestId p orderId payment createdAt expiresAt)
        (s.orders.insert (p, orderId) (.new params.order createdAt expiresAt orderId payment))
        (s.pending.remove (p, requestId))
        (.respond p requestId (.createOrder
          { order := params.order, orderId, orderState := .created, createdAt, expiresAt, payment
            channel := none }))
  /-- The request pending, if any, is not for an order. It is taken off all the same. -/
  | noDetails {requestId : RequestId} {p : PublicKey} {orderId : OrderId} {payment : OrderPayment}
      {createdAt expiresAt : DateTime} {e : LSPS1ServiceError}
      (hreq : ∀ params, s.pending (p, requestId) ≠ some (.createOrder params)) :
      Effect s (.sendPaymentDetails requestId p orderId payment createdAt expiresAt) s.orders
        (s.pending.remove (p, requestId)) (.error e)
  | update {requestId : RequestId} {p : PublicKey} {orderId : OrderId} {orderState : OrderState}
      {channel : Option ChannelInfo} {ch : OutboundCRChannel}
      (hch : s.orders (p, orderId) = some ch) :
      Effect s (.updateOrderStatus requestId p orderId orderState channel) s.orders s.pending
        (.respond p requestId (.getOrder
          { orderId, order := ch.config.order, orderState, createdAt := ch.config.createdAt
            expiresAt := ch.config.expiresAt, payment := ch.config.payment, channel }))
  | noUpdate {requestId : RequestId} {p : PublicKey} {orderId : OrderId} {orderState : OrderState}
      {channel : Option ChannelInfo} {e : LSPS1ServiceError} (hch : s.orders (p, orderId) = none) :
      Effect s (.updateOrderStatus requestId p orderId orderState channel) s.orders s.pending
        (.error e)

variable {s : LSPS1ServiceHandler} {p : PublicKey} {ps : PeerState} {requestId : RequestId}
  {orderId : OrderId} {ch : OutboundCRChannel}

/-! ## The state of a peer -/

/-- The state of a peer, that of a new one if it has not ordered anything. -/
def peer (s : LSPS1ServiceHandler) (p : PublicKey) : PeerState := (s.perPeerState p).getD .default

theorem peer_eq (hps : s.perPeerState p = some ps) : s.peer p = ps := by
  rw [peer, hps, Option.getD_some]

theorem orders_apply (s : LSPS1ServiceHandler) (p : PublicKey) (orderId : OrderId) :
    s.orders (p, orderId) = (s.peer p).outboundChannelsByOrderId orderId :=
  PartialMap.flatten_getD rfl ..

theorem pending_apply (s : LSPS1ServiceHandler) (p : PublicKey) (requestId : RequestId) :
    s.pending (p, requestId) = (s.peer p).pendingRequests requestId := PartialMap.flatten_getD rfl ..

theorem orders_eq_none (hps : s.perPeerState p = none) (orderId : OrderId) :
    s.orders (p, orderId) = none := by
  rw [orders, PartialMap.flatten, hps, Option.bind_none]

theorem pending_eq_none (hps : s.perPeerState p = none) (requestId : RequestId) :
    s.pending (p, requestId) = none := by
  rw [pending, PartialMap.flatten, hps, Option.bind_none]

theorem orders_setPeer (h : ps.outboundChannelsByOrderId = (s.peer p).outboundChannelsByOrderId) :
    (s.setPeer p ps).orders = s.orders := PartialMap.flatten_insert (s.orders_apply p) h

theorem orders_insert
    (h : ps.outboundChannelsByOrderId = (s.peer p).outboundChannelsByOrderId.insert orderId ch) :
    (s.setPeer p ps).orders = s.orders.insert (p, orderId) ch :=
  PartialMap.flatten_insert_insert (s.orders_apply p) h

theorem orders_remove
    (h : ps.outboundChannelsByOrderId = (s.peer p).outboundChannelsByOrderId.remove orderId) :
    (s.setPeer p ps).orders = s.orders.remove (p, orderId) :=
  PartialMap.flatten_insert_remove (s.orders_apply p) h

theorem pending_setPeer (h : ps.pendingRequests = (s.peer p).pendingRequests) :
    (s.setPeer p ps).pending = s.pending := PartialMap.flatten_insert (s.pending_apply p) h

theorem pending_insert {request : LSPS1Request}
    (h : ps.pendingRequests = (s.peer p).pendingRequests.insert requestId request) :
    (s.setPeer p ps).pending = s.pending.insert (p, requestId) request :=
  PartialMap.flatten_insert_insert (s.pending_apply p) h

theorem pending_remove
    (h : ps.pendingRequests = (s.peer p).pendingRequests.remove requestId) :
    (s.setPeer p ps).pending = s.pending.remove (p, requestId) :=
  PartialMap.flatten_insert_remove (s.pending_apply p) h

/-- What a call gives, and leaves of orders and pending requests. -/
def EffectOf (s : LSPS1ServiceHandler) (call : ServiceCall)
    (r : LSPS1ServiceHandler × LSPS1ServiceOutput) : Prop :=
  s.Effect call r.1.orders r.1.pending r.2

theorem EffectOf.of_setPeer {call : ServiceCall} {out : LSPS1ServiceOutput}
    {orders' : PartialMap (PublicKey × OrderId) OutboundCRChannel}
    {pending' : PartialMap (PublicKey × RequestId) LSPS1Request}
    (horders : (s.setPeer p ps).orders = orders') (hpending : (s.setPeer p ps).pending = pending')
    (h : s.Effect call orders' pending' out) : s.EffectOf call (s.setPeer p ps, out) := by
  subst horders hpending
  exact h

/-! ## Requests of peers -/

theorem awaitingPayment_cases (ch : OutboundCRChannel) :
    (∃ orderId, ch.state = orderCreated orderId ∧
        ch.awaitingPayment = .ok { ch with state := waitingPayment orderId }) ∨
      ((∀ orderId, ch.state ≠ orderCreated orderId) ∧ ch.awaitingPayment = .error ch.state) := by
  rw [OutboundCRChannel.awaitingPayment]
  cases ch.state with
  | orderCreated orderId => exact .inl ⟨orderId, rfl, rfl⟩
  | waitingPayment | ready => exact .inr ⟨by simp, rfl⟩

theorem effect_handleGetInfoRequest (s : LSPS1ServiceHandler) (requestId : RequestId)
    (p : PublicKey) (params : GetInfoRequest) :
    s.EffectOf (.handleMessage (.request requestId (.getInfo params)) p)
      (s.handleGetInfoRequest requestId p) := by
  rw [handleGetInfoRequest]
  split
  · exact .info
  · exact .unset (by simp)

theorem effect_handleCreateOrderRequest (s : LSPS1ServiceHandler) (requestId : RequestId)
    (p : PublicKey) (params : CreateOrderRequest) :
    s.EffectOf (.handleMessage (.request requestId (.createOrder params)) p)
      (s.handleCreateOrderRequest requestId p params) := by
  simp only [handleCreateOrderRequest]
  split
  · exact .unset (by simp)
  · next options hoptions =>
    split
    · next hvalid =>
      exact .of_setPeer (orders_setPeer rfl) (pending_insert rfl) (.accept hoptions hvalid)
    · next hvalid => exact .mismatch hoptions (Bool.eq_false_iff.2 hvalid)

theorem effect_handleGetOrderRequest (s : LSPS1ServiceHandler) (requestId : RequestId)
    (p : PublicKey) (params : GetOrderRequest) :
    s.EffectOf (.handleMessage (.request requestId (.getOrder params)) p)
      (s.handleGetOrderRequest requestId p params) := by
  simp only [handleGetOrderRequest]
  split
  · next ps hps =>
    obtain rfl := peer_eq hps
    have happly := s.orders_apply p params.orderId
    split
    · next ch hch =>
      rw [hch] at happly
      obtain ⟨orderId, hst, hop⟩ | ⟨hst, hop⟩ := awaitingPayment_cases ch
      · rw [hop]
        exact .of_setPeer (orders_insert rfl) (pending_insert rfl) (.check happly hst)
      · rw [hop]
        exact .of_setPeer (orders_remove rfl) (pending_setPeer rfl) (.refund happly hst)
    · next hch => exact .noOrder (happly.trans hch)
  · next hps => exact .noOrder (orders_eq_none hps _)

/-! ## Calls of the LSP -/

theorem effect_sendPaymentDetails (s : LSPS1ServiceHandler) (requestId : RequestId) (p : PublicKey)
    (orderId : OrderId) (payment : OrderPayment) (createdAt expiresAt : DateTime) :
    s.EffectOf (.sendPaymentDetails requestId p orderId payment createdAt expiresAt)
      (s.sendPaymentDetails requestId p orderId payment createdAt expiresAt) := by
  simp only [sendPaymentDetails]
  split
  · next ps hps =>
    obtain rfl := peer_eq hps
    have happly := s.pending_apply p requestId
    split
    · next params hreq =>
      exact .of_setPeer (orders_insert rfl) (pending_remove rfl) (.details (happly.trans hreq))
    · next hreq =>
      refine .of_setPeer (orders_setPeer rfl) (pending_remove rfl) (.noDetails fun params h => ?_)
      exact hreq params (happly.symm.trans h)
  · next hps =>
    have hnone := pending_eq_none hps requestId
    have h : s.Effect (.sendPaymentDetails requestId p orderId payment createdAt expiresAt) s.orders
        (s.pending.remove (p, requestId)) (.error (.noCounterpartyState p)) :=
      .noDetails (by simp [hnone])
    rwa [PartialMap.remove_eq_self_iff.2 hnone] at h

theorem effect_updateOrderStatus (s : LSPS1ServiceHandler) (requestId : RequestId) (p : PublicKey)
    (orderId : OrderId) (orderState : OrderState) (channel : Option ChannelInfo) :
    s.EffectOf (.updateOrderStatus requestId p orderId orderState channel)
      (s.updateOrderStatus requestId p orderId orderState channel) := by
  simp only [updateOrderStatus]
  split
  · next ps hps =>
    obtain rfl := peer_eq hps
    have happly := s.orders_apply p orderId
    split
    · next ch hch => exact .update (happly.trans hch)
    · next hch => exact .noUpdate (happly.trans hch)
  · next hps => exact .noUpdate (orders_eq_none hps _)

/-- What a call does. -/
theorem effect_step (debug : Bool) (s : LSPS1ServiceHandler) (call : ServiceCall) :
    s.EffectOf call (s.step debug call) := by
  cases call with
  | sendPaymentDetails => exact effect_sendPaymentDetails ..
  | updateOrderStatus => exact effect_updateOrderStatus ..
  | handleMessage message p =>
    cases message with
    | request requestId request =>
      cases request with
      | getInfo => exact effect_handleGetInfoRequest ..
      | createOrder => exact effect_handleCreateOrderRequest ..
      | getOrder => exact effect_handleGetOrderRequest ..
    | response requestId response =>
      simp only [step, handleMessage]
      split <;> exact .response

end LightningLiquidity.Lsps1.LSPS1ServiceHandler
