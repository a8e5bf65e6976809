import LightningLiquidity.Lsps1.Client

/-!
# What calls to the client do

The client keeps the channels ordered (`channels`, under pairs of a peer and a user channel id),
and the channels of the requests not answered yet (`requests`, under pairs of a peer and a request
id). What a call does to them, and gives, is said once, by `LSPS1ClientHandler.Effect`.
-/

namespace LightningLiquidity.Lsps1.LSPS1ClientHandler

open InboundRequestState

/-- The channels ordered. -/
def channels (s : LSPS1ClientHandler) : PartialMap (PublicKey × UserChannelId) InboundCRChannel :=
  .flatten PeerState.inboundChannelsById s.perPeerState

/-- The channels of the requests not answered yet. -/
def requests (s : LSPS1ClientHandler) : PartialMap (PublicKey × RequestId) UserChannelId :=
  .flatten PeerState.requestToCid s.perPeerState

/-- The sum of what an order costs, as it is computed. -/
def totalFees (response : CreateOrderResponse) : UInt64 :=
  response.payment.feeTotalSat + response.order.clientBalanceSat

/-- The sum of what an order costs. -/
def exactFees (response : CreateOrderResponse) : ℕ :=
  response.payment.feeTotalSat.toNat + response.order.clientBalanceSat.toNat

/-- The limit an order is compared with. -/
def maxFees (s : LSPS1ClientHandler) : UInt64 :=
  s.config.maxChannelFeesMsat.getD (UInt64.ofNat (2 ^ 64 - 1))

/-- What a call can do to channels and requests, and give. -/
inductive Effect (debug : Bool) (s : LSPS1ClientHandler) : ClientCall →
    PartialMap (PublicKey × UserChannelId) InboundCRChannel →
    PartialMap (PublicKey × RequestId) UserChannelId → LSPS1ClientOutput → Prop
  | askInfo {requestId : RequestId} {p : PublicKey} {u : UserChannelId} :
      Effect debug s (.sendGetInfoRequest requestId p u) (s.channels.insert (p, u) (.new u))
        (s.requests.insert (p, requestId) u)
        { result := .ok, messages := [(p, .request requestId (.getInfo {}))] }
  | order {requestId : RequestId} {p : PublicKey} {u : UserChannelId} {order : OrderParams}
      {ch : InboundCRChannel} {options : OptionsSupported} (hch : s.channels (p, u) = some ch)
      (hst : ch.state = optionsSupport options) (hvalid : isValid order options = true) :
      Effect debug s (.placeOrder requestId u p order)
        (s.channels.insert (p, u) { ch with state := orderRequested order })
        (s.requests.insert (p, requestId) u)
        { result := .ok, messages := [(p, .request requestId (.createOrder { order }))] }
  | poll {requestId : RequestId} {p : PublicKey} {u : UserChannelId} {orderId orderId' : OrderId}
      {ch : InboundCRChannel} (hch : s.channels (p, u) = some ch)
      (hst : ch.state = pendingPayment orderId') :
      Effect debug s (.checkOrderStatus requestId p orderId u)
        (s.channels.insert (p, u) { ch with state := awaitingConfirmation u orderId' })
        (s.requests.insert (p, requestId) u)
        { result := .ok, messages := [(p, .request requestId (.getOrder { orderId }))] }
  /-- An order does not match the options, or is not expected. -/
  | refuseOrder {requestId : RequestId} {p : PublicKey} {u : UserChannelId} {order : OrderParams}
      {ch : InboundCRChannel} {e : ChannelStateError} (hch : s.channels (p, u) = some ch)
      (hst : ∀ options, ch.state = optionsSupport options → isValid order options = false) :
      Effect debug s (.placeOrder requestId u p order) (s.channels.remove (p, u)) s.requests
        { result := .err (.refused e) }
  /-- The order is not there, or has been asked for already. -/
  | refusePoll {requestId : RequestId} {p : PublicKey} {u : UserChannelId} {orderId : OrderId}
      {ch : InboundCRChannel} {e : ChannelStateError} (hch : s.channels (p, u) = some ch)
      (hst : ∀ orderId, ch.state ≠ pendingPayment orderId) :
      Effect debug s (.checkOrderStatus requestId p orderId u) (s.channels.remove (p, u)) s.requests
        { result := .err (.refused e) }
  | noChannelToOrder {requestId : RequestId} {p : PublicKey} {u : UserChannelId}
      {order : OrderParams} {e : LSPS1ClientError} (hch : s.channels (p, u) = none) :
      Effect debug s (.placeOrder requestId u p order) s.channels s.requests { result := .err e }
  | noChannelToPoll {requestId : RequestId} {p : PublicKey} {u : UserChannelId} {orderId : OrderId}
      {e : LSPS1ClientError} (hch : s.channels (p, u) = none) :
      Effect debug s (.checkOrderStatus requestId p orderId u) s.channels s.requests
        { result := .err e }
  | info {requestId : RequestId} {p : PublicKey} {u : UserChannelId} {result : GetInfoResponse}
      {ch : InboundCRChannel} (hreq : s.requests (p, requestId) = some u)
      (hch : s.channels (p, u) = some ch) (hst : ch.state = infoRequested) :
      Effect debug s (.handleMessage (.response requestId (.getInfo result)) p)
        (s.channels.insert (p, u) { ch with state := optionsSupport result.options })
        (s.requests.remove (p, requestId))
        { result := .ok, events := [.getInfoResponse u p result.website result.options] }
  | display {requestId : RequestId} {p : PublicKey} {u : UserChannelId}
      {result : CreateOrderResponse} {ch : InboundCRChannel}
      (hreq : s.requests (p, requestId) = some u) (hch : s.channels (p, u) = some ch)
      (hst : ch.state = orderRequested result.order)
      (hfits : ¬(debug = true ∧ 2 ^ 64 ≤ exactFees result))
      (htotal : totalFees result = result.payment.orderTotalSat)
      (hlt : totalFees result < s.maxFees) :
      Effect debug s (.handleMessage (.response requestId (.createOrder result)) p)
        (s.channels.insert (p, u) { ch with state := pendingPayment result.orderId })
        (s.requests.remove (p, requestId))
        { result := .ok
          events := [.displayOrder u p result.order result.payment result.channel] }
  /-- The sum of the fees panics. -/
  | overflow {requestId : RequestId} {p : PublicKey} {u : UserChannelId}
      {result : CreateOrderResponse} {ch : InboundCRChannel}
      (hreq : s.requests (p, requestId) = some u) (hch : s.channels (p, u) = some ch)
      (hst : ch.state = orderRequested result.order) (hdebug : debug = true)
      (hover : 2 ^ 64 ≤ exactFees result) :
      Effect debug s (.handleMessage (.response requestId (.createOrder result)) p)
        (s.channels.insert (p, u) { ch with state := pendingPayment result.orderId })
        (s.requests.remove (p, requestId)) { result := .panic }
  | tooHigh {requestId : RequestId} {p : PublicKey} {u : UserChannelId}
      {result : CreateOrderResponse} {ch : InboundCRChannel}
      (hreq : s.requests (p, requestId) = some u) (hch : s.channels (p, u) = some ch)
      (hst : ch.state = orderRequested result.order)
      (hfits : ¬(debug = true ∧ 2 ^ 64 ≤ exactFees result))
      (htotal : ¬(totalFees result = result.payment.orderTotalSat ∧ totalFees result < s.maxFees)) :
      Effect debug s (.handleMessage (.response requestId (.createOrder result)) p)
        (s.channels.remove (p, u)) (s.requests.remove (p, requestId))
        { result := .err (.feesTooHigh (totalFees result)) }
  /-- The state of the channel does not expect the options, or the order. -/
  | reject {requestId : RequestId} {p : PublicKey} {u : UserChannelId} {response : LSPS1Response}
      {ch : InboundCRChannel} {e : ChannelStateError} (hreq : s.requests (p, requestId) = some u)
      (hch : s.channels (p, u) = some ch)
      (hst : (∃ result, response = .getInfo result ∧ ch.state ≠ infoRequested) ∨
        ∃ result, response = .createOrder result ∧ ch.state ≠ orderRequested result.order) :
      Effect debug s (.handleMessage (.response requestId response) p) (s.channels.remove (p, u))
        (s.requests.remove (p, requestId)) { result := .err (.refused e) }
  /-- The response is not looked at. -/
  | acknowledge {requestId : RequestId} {p : PublicKey} {u : UserChannelId}
      {response : LSPS1Response} {ch : InboundCRChannel}
      (hreq : s.requests (p, requestId) = some u) (hch : s.channels (p, u) = some ch)
      (hinfo : ∀ result, response ≠ .getInfo result)
      (horder : ∀ result, response ≠ .createOrder result) :
      Effect debug s (.handleMessage (.response requestId response) p) s.channels
        (s.requests.remove (p, requestId)) { result := .ok }
  | unknownChannel {requestId : RequestId} {p : PublicKey} {u : UserChannelId}
      {response : LSPS1Response} {e : LSPS1ClientError} (hreq : s.requests (p, requestId) = some u)
      (hch : s.channels (p, u) = none) :
      Effect debug s (.handleMessage (.response requestId response) p) s.channels
        (s.requests.remove (p, requestId)) { result := .err e }
  /-- A response to nothing that was asked. -/
  | unknown {requestId : RequestId} {p : PublicKey} {response : LSPS1Response}
      {e : LSPS1ClientError} (hreq : s.requests (p, requestId) = none) :
      Effect debug s (.handleMessage (.response requestId response) p) s.channels s.requests
        { result := .err e }
  | request {requestId : RequestId} {p : PublicKey} {request : LSPS1Request}
      {result : Outcome LSPS1ClientError} :
      Effect debug s (.handleMessage (.request requestId request) p) s.channels s.requests { result }

variable {debug : Bool} {s : LSPS1ClientHandler} {p : PublicKey} {ps ps' : PeerState}
  {requestId : RequestId} {u : UserChannelId} {ch : InboundCRChannel}

/-! ## The state of a peer -/

/-- The state of a peer, that of a new one if it was not asked before. -/
def peer (s : LSPS1ClientHandler) (p : PublicKey) : PeerState := (s.perPeerState p).getD .default

theorem peer_eq (hps : s.perPeerState p = some ps) : s.peer p = ps := by
  rw [peer, hps, Option.getD_some]

theorem channels_apply (s : LSPS1ClientHandler) (p : PublicKey) (u : UserChannelId) :
    s.channels (p, u) = (s.peer p).inboundChannelsById u := PartialMap.flatten_getD rfl ..

theorem requests_apply (s : LSPS1ClientHandler) (p : PublicKey) (requestId : RequestId) :
    s.requests (p, requestId) = (s.peer p).requestToCid requestId := PartialMap.flatten_getD rfl ..

theorem channels_setPeer (h : ps.inboundChannelsById = (s.peer p).inboundChannelsById) :
    (s.setPeer p ps).channels = s.channels := PartialMap.flatten_insert (s.channels_apply p) h

theorem channels_insert (h : ps.inboundChannelsById = (s.peer p).inboundChannelsById.insert u ch) :
    (s.setPeer p ps).channels = s.channels.insert (p, u) ch :=
  PartialMap.flatten_insert_insert (s.channels_apply p) h

theorem channels_remove (h : ps.inboundChannelsById = (s.peer p).inboundChannelsById.remove u) :
    (s.setPeer p ps).channels = s.channels.remove (p, u) :=
  PartialMap.flatten_insert_remove (s.channels_apply p) h

theorem requests_setPeer (h : ps.requestToCid = (s.peer p).requestToCid) :
    (s.setPeer p ps).requests = s.requests := PartialMap.flatten_insert (s.requests_apply p) h

theorem requests_insert (h : ps.requestToCid = (s.peer p).requestToCid.insert requestId u) :
    (s.setPeer p ps).requests = s.requests.insert (p, requestId) u :=
  PartialMap.flatten_insert_insert (s.requests_apply p) h

theorem requests_remove (h : ps.requestToCid = (s.peer p).requestToCid.remove requestId) :
    (s.setPeer p ps).requests = s.requests.remove (p, requestId) :=
  PartialMap.flatten_insert_remove (s.requests_apply p) h

/-- What a call gives, and leaves of channels and requests. -/
def EffectOf (debug : Bool) (s : LSPS1ClientHandler) (call : ClientCall)
    (r : LSPS1ClientHandler × LSPS1ClientOutput) : Prop :=
  s.Effect debug call r.1.channels r.1.requests r.2

theorem EffectOf.of_setPeer {call : ClientCall} {out : LSPS1ClientOutput}
    {channels' : PartialMap (PublicKey × UserChannelId) InboundCRChannel}
    {requests' : PartialMap (PublicKey × RequestId) UserChannelId}
    (hch : (s.setPeer p ps).channels = channels') (hreq : (s.setPeer p ps).requests = requests')
    (h : s.Effect debug call channels' requests' out) :
    s.EffectOf debug call (s.setPeer p ps, out) := by
  subst hch hreq
  exact h

/-! ## The states of a channel -/

theorem infoReceived_cases (st : InboundRequestState) (options : OptionsSupported) :
    (st = infoRequested ∧ st.infoReceived options = .ok (optionsSupport options)) ∨
      (st ≠ infoRequested ∧ ∃ e, st.infoReceived options = .error e) := by
  cases st with
  | infoRequested => exact .inl ⟨rfl, rfl⟩
  | optionsSupport | orderRequested | pendingPayment | awaitingConfirmation =>
    exact .inr ⟨by simp, _, rfl⟩

theorem orderRequestedOp_cases (st : InboundRequestState) (order : OrderParams) :
    (∃ options, st = optionsSupport options ∧ isValid order options = true ∧
        st.orderRequestedOp order = .ok (orderRequested order)) ∨
      ((∀ options, st = optionsSupport options → isValid order options = false) ∧
        ∃ e, st.orderRequestedOp order = .error e) := by
  cases st with
  | optionsSupport options =>
    cases hvalid : isValid order options with
    | true => exact .inl ⟨options, rfl, hvalid, if_pos hvalid⟩
    | false =>
      refine .inr ⟨fun options' h => ?_, _, if_neg (by simp [hvalid])⟩
      obtain rfl := optionsSupport.inj h
      exact hvalid
  | infoRequested | orderRequested | pendingPayment | awaitingConfirmation =>
    exact .inr ⟨by simp, _, rfl⟩

theorem orderReceived_cases (st : InboundRequestState) (order : OrderParams) (orderId : OrderId) :
    (st = orderRequested order ∧ st.orderReceived order orderId = .ok (pendingPayment orderId)) ∨
      (st ≠ orderRequested order ∧ ∃ e, st.orderReceived order orderId = .error e) := by
  cases st with
  | orderRequested created =>
    by_cases h : order = created
    · exact .inl ⟨congrArg _ h.symm, if_pos h⟩
    · exact .inr ⟨fun hst => h (orderRequested.inj hst).symm, _, if_neg h⟩
  | infoRequested | optionsSupport | pendingPayment | awaitingConfirmation =>
    exact .inr ⟨by simp, _, rfl⟩

theorem payForChannel_cases (st : InboundRequestState) (u : UserChannelId) :
    (∃ orderId, st = pendingPayment orderId ∧
        st.payForChannel u = .ok (awaitingConfirmation u orderId)) ∨
      ((∀ orderId, st ≠ pendingPayment orderId) ∧ ∃ e, st.payForChannel u = .error e) := by
  cases st with
  | pendingPayment orderId => exact .inl ⟨orderId, rfl, rfl⟩
  | infoRequested | optionsSupport | orderRequested | awaitingConfirmation =>
    exact .inr ⟨by simp, _, rfl⟩

/-! ## Calls of the user -/

theorem effect_sendGetInfoRequest (debug : Bool) (s : LSPS1ClientHandler) (requestId : RequestId)
    (p : PublicKey) (u : UserChannelId) :
    s.EffectOf debug (.sendGetInfoRequest requestId p u) (s.sendGetInfoRequest requestId p u) :=
  .of_setPeer (channels_insert rfl) (requests_insert rfl) .askInfo

theorem effect_placeOrder (debug : Bool) (s : LSPS1ClientHandler) (requestId : RequestId)
    (u : UserChannelId) (p : PublicKey) (order : OrderParams) :
    s.EffectOf debug (.placeOrder requestId u p order) (s.placeOrder requestId u p order) := by
  simp only [placeOrder]
  split
  · next ps hps =>
    obtain rfl := peer_eq hps
    have happly := s.channels_apply p u
    split
    · next ch hch =>
      rw [hch] at happly
      obtain ⟨options, hst, hvalid, hop⟩ | ⟨hst, e, hop⟩ := orderRequestedOp_cases ch.state order
      · rw [hop]
        exact .of_setPeer (channels_insert rfl) (requests_insert rfl) (.order happly hst hvalid)
      · rw [hop]
        exact .of_setPeer (channels_remove rfl) (requests_setPeer rfl) (.refuseOrder happly hst)
    · next hch => exact .noChannelToOrder (happly.trans hch)
  · next hps =>
    refine .noChannelToOrder ?_
    rw [channels_apply, peer, hps]
    rfl

theorem effect_checkOrderStatus (debug : Bool) (s : LSPS1ClientHandler) (requestId : RequestId)
    (p : PublicKey) (orderId : OrderId) (u : UserChannelId) :
    s.EffectOf debug (.checkOrderStatus requestId p orderId u)
      (s.checkOrderStatus requestId p orderId u) := by
  simp only [checkOrderStatus]
  split
  · next ps hps =>
    obtain rfl := peer_eq hps
    have happly := s.channels_apply p u
    split
    · next ch hch =>
      rw [hch] at happly
      obtain ⟨orderId', hst, hop⟩ | ⟨hst, e, hop⟩ := payForChannel_cases ch.state u
      · rw [hop]
        exact .of_setPeer (channels_insert rfl) (requests_insert rfl) (.poll happly hst)
      · rw [hop]
        exact .of_setPeer (channels_remove rfl) (requests_setPeer rfl) (.refusePoll happly hst)
    · next hch => exact .noChannelToPoll (happly.trans hch)
  · next hps =>
    refine .noChannelToPoll ?_
    rw [channels_apply, peer, hps]
    rfl

/-! ## Responses of peers -/

/-- The handling of a response, given what it does once its request and channel are found. -/
theorem effect_withRequest {kind : ResponseKind} {response : LSPS1Response}
    {f : PeerState → UserChannelId → InboundCRChannel → LSPS1ClientHandler × LSPS1ClientOutput}
    (hf : ∀ u ch, s.requests (p, requestId) = some u → s.channels (p, u) = some ch →
      s.EffectOf debug (.handleMessage (.response requestId response) p)
        (f ((s.peer p).removeRequest requestId) u ch)) :
    s.EffectOf debug (.handleMessage (.response requestId response) p)
      (s.withRequest kind requestId p f) := by
  simp only [withRequest]
  split
  · next ps hps =>
    obtain rfl := peer_eq hps
    split
    · next u hu =>
      have hreq := (s.requests_apply p requestId).trans hu
      split
      · next ch hch => exact hf u ch hreq ((s.channels_apply p u).trans hch)
      · next hch =>
        exact .of_setPeer (channels_setPeer rfl) (requests_remove rfl)
          (.unknownChannel hreq ((s.channels_apply p u).trans hch))
    · next hu => exact .unknown ((s.requests_apply p requestId).trans hu)
  · next hps =>
    refine .unknown ?_
    rw [requests_apply, peer, hps]
    rfl

theorem effect_handleGetInfoResponse (debug : Bool) (s : LSPS1ClientHandler)
    (requestId : RequestId) (p : PublicKey) (result : GetInfoResponse) :
    s.EffectOf debug (.handleMessage (.response requestId (.getInfo result)) p)
      (s.handleGetInfoResponse requestId p result) := by
  refine effect_withRequest fun u ch hreq hch => ?_
  obtain ⟨hst, hop⟩ | ⟨hst, e, hop⟩ := infoReceived_cases ch.state result.options
  · rw [hop]
    exact .of_setPeer (channels_insert rfl) (requests_remove rfl) (.info hreq hch hst)
  · rw [hop]
    exact .of_setPeer (channels_remove rfl) (requests_remove rfl)
      (.reject hreq hch (.inl ⟨result, rfl, hst⟩))

theorem effect_acknowledge (debug : Bool) (s : LSPS1ClientHandler) (kind : ResponseKind)
    (requestId : RequestId) (p : PublicKey) {response : LSPS1Response}
    (hinfo : ∀ result, response ≠ .getInfo result)
    (horder : ∀ result, response ≠ .createOrder result) :
    s.EffectOf debug (.handleMessage (.response requestId response) p)
      (s.acknowledge kind requestId p) :=
  effect_withRequest fun _ _ hreq hch =>
    .of_setPeer (channels_setPeer rfl) (requests_remove rfl) (.acknowledge hreq hch hinfo horder)

theorem effect_handleCreateOrderResponse (debug : Bool) (s : LSPS1ClientHandler)
    (requestId : RequestId) (p : PublicKey) (result : CreateOrderResponse) :
    s.EffectOf debug (.handleMessage (.response requestId (.createOrder result)) p)
      (s.handleCreateOrderResponse debug requestId p result) := by
  refine effect_withRequest fun u ch hreq hch => ?_
  obtain ⟨hst, hop⟩ | ⟨hst, e, hop⟩ := orderReceived_cases ch.state result.order result.orderId
  · rw [hop]
    simp only [InboundCRChannel.update_ok]
    split
    · next h =>
      exact .of_setPeer (channels_insert rfl) (requests_remove rfl)
        (.overflow hreq hch hst h.1 h.2)
    · next hfits =>
      split
      · next h =>
        exact .of_setPeer (channels_insert rfl) (requests_remove rfl)
          (.display hreq hch hst hfits h.1 h.2)
      · next h =>
        exact .of_setPeer (channels_remove rfl) (requests_remove rfl)
          (.tooHigh hreq hch hst hfits h)
  · rw [hop]
    exact .of_setPeer (channels_remove rfl) (requests_remove rfl)
      (.reject hreq hch (.inr ⟨result, rfl, hst⟩))

/-- What a call does. -/
theorem effect_step (debug : Bool) (s : LSPS1ClientHandler) (call : ClientCall) :
    s.EffectOf debug call (s.step debug call) := by
  cases call with
  | sendGetInfoRequest => exact effect_sendGetInfoRequest ..
  | placeOrder => exact effect_placeOrder ..
  | checkOrderStatus => exact effect_checkOrderStatus ..
  | handleMessage message p =>
    cases message with
    | request requestId request =>
      simp only [step, handleMessage]
      split <;> exact .request
    | response requestId response =>
      cases response with
      | getInfo result => exact effect_handleGetInfoResponse ..
      | createOrder result => exact effect_handleCreateOrderResponse ..
      | getInfoError | createOrderError | getOrder | getOrderError =>
        refine effect_acknowledge debug s _ requestId p (fun _ h => ?_) (fun _ h => ?_) <;> cases h

/-- The configuration stays. -/
theorem config_step (debug : Bool) (s : LSPS1ClientHandler) (call : ClientCall) :
    (s.step debug call).1.config = s.config := by
  cases call with
  | sendGetInfoRequest => rfl
  | placeOrder | checkOrderStatus =>
    simp only [step, placeOrder, checkOrderStatus]
    repeat' split
    all_goals rfl
  | handleMessage message p =>
    simp only [step, handleMessage, handleGetInfoResponse, handleGetInfoError,
      handleCreateOrderResponse, handleCreateOrderError, handleGetOrderResponse,
      handleGetOrderError, acknowledge, withRequest]
    repeat' split
    all_goals rfl

theorem config_exec (debug : Bool) (s : LSPS1ClientHandler) (calls : List ClientCall) :
    ((machine debug).exec s calls).config = s.config :=
  ((machine debug).along_true s calls).invariant (P := fun s' => s'.config = s.config)
    (fun s' call h _ => (config_step debug s' call).trans h) rfl

end LightningLiquidity.Lsps1.LSPS1ClientHandler
