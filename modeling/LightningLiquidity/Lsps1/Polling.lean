import LightningLiquidity.Lsps1.Client.Effects
import LightningLiquidity.Lsps1.Service.Effects

/-!
# Polling an order

A client and a service after an order was created and shown: the client asks how it stands (a
*poll*), the LSP tells the status, and messages are delivered in order, both ways
(`Polling.machine`).

A poll moves the order on, at the client when it is sent and at the service when it arrives, and is
expected in one state only: a second poll is refused, and loses the order. All goes well in a run
iff the order is polled at most once (`polling_iff`).
-/

namespace LightningLiquidity.Lsps1

/-- An order, with the nodes of the client and the service. -/
structure PolledOrder where
  clientNode : PublicKey
  serviceNode : PublicKey
  userChannelId : UserChannelId
  orderId : OrderId

/-- A client and a service, with the messages under way to each. -/
structure Polling where
  client : LSPS1ClientHandler
  service : LSPS1ServiceHandler
  toService : List LSPS1Message
  toClient : List LSPS1Message

/-- What happens to a client and a service: a poll of the order, a status told by the LSP, or the
    delivery of the next message. -/
inductive PollingInput
  | checkOrderStatus (requestId : RequestId)
  | updateOrderStatus (requestId : RequestId) (counterpartyNodeId : PublicKey) (orderId : OrderId)
      (orderState : OrderState) (channel : Option ChannelInfo)
  | deliverRequest
  | deliverResponse
  deriving DecidableEq

/-- The input is a poll. -/
def PollingInput.isPoll : PollingInput → Bool
  | checkOrderStatus _ => true
  | updateOrderStatus .. | deliverRequest | deliverResponse => false

/-- What the client or the service does. -/
inductive PollingOutput
  | client (out : LSPS1ClientOutput)
  | service (out : LSPS1ServiceOutput)
  | none
  deriving DecidableEq

/-- The messages to a node. -/
def messagesTo (p : PublicKey) (messages : List (PublicKey × LSPS1Message)) : List LSPS1Message :=
  (messages.filter fun m => m.1 = p).map Prod.snd

namespace Polling

/-- One thing that happens to a client and a service. -/
def step (debug : Bool) (order : PolledOrder) (self : Polling) :
    PollingInput → Polling × PollingOutput
  | .checkOrderStatus requestId =>
    let (client, out) := self.client.checkOrderStatus requestId order.serviceNode order.orderId
      order.userChannelId
    ({ self with
        client, toService := self.toService ++ messagesTo order.serviceNode out.messages },
      .client out)
  | .updateOrderStatus requestId counterpartyNodeId orderId orderState channel =>
    let (service, out) := self.service.updateOrderStatus requestId counterpartyNodeId orderId
      orderState channel
    ({ self with service, toClient := self.toClient ++ messagesTo order.clientNode out.messages },
      .service out)
  | .deliverRequest =>
    match self.toService with
    | [] => (self, .none)
    | m :: rest =>
      let (service, out) := self.service.handleMessage debug m order.clientNode
      ({ self with
          service, toService := rest
          toClient := self.toClient ++ messagesTo order.clientNode out.messages }, .service out)
  | .deliverResponse =>
    match self.toClient with
    | [] => (self, .none)
    | m :: rest =>
      let (client, out) := self.client.handleMessage debug m order.serviceNode
      ({ self with
          client, toClient := rest
          toService := self.toService ++ messagesTo order.serviceNode out.messages }, .client out)

/-- A client and a service of an order. -/
def machine (debug : Bool) (order : PolledOrder) : Machine Polling PollingInput PollingOutput :=
  ⟨step debug order⟩

/-- All goes well at a step: a poll sends a request, a request makes the service check the payment,
    nothing is refunded, and the order stays stored on both sides. -/
structure Good (debug : Bool) (order : PolledOrder) (s : Polling) (i : PollingInput) : Prop where
  polled : ∀ requestId, i = .checkOrderStatus requestId →
    (s.step debug order i).2 = .client
      { result := .ok
        messages := [(order.serviceNode, .request requestId (.getOrder ⟨order.orderId⟩))] }
  checked : ∀ requestId params rest, i = .deliverRequest →
    s.toService = .request requestId (.getOrder params) :: rest →
    (s.step debug order i).2 = .service
      { result := .ok
        events := [.checkPaymentConfirmation requestId order.clientNode order.orderId] }
  noRefund : ∀ out, (s.step debug order i).2 = .service out → ∀ requestId p orderId,
    .refund requestId p orderId ∉ out.events
  clientKeeps :
    (s.step debug order i).1.client.channels (order.serviceNode, order.userChannelId) ≠ none
  serviceKeeps : (s.step debug order i).1.service.orders (order.clientNode, order.orderId) ≠ none

end Polling

/-! ## What polls and statuses do -/

/-- The message tells the status of an order. -/
def LSPS1Message.IsStatus (m : LSPS1Message) : Prop :=
  ∃ requestId result, m = .response requestId (.getOrder result)

section Client

open LSPS1ClientHandler InboundRequestState

variable {debug : Bool} {s : LSPS1ClientHandler} {p : PublicKey} {u : UserChannelId}
  {requestId : RequestId} {orderId orderId' : OrderId} {ch : InboundCRChannel}
  {channels' : PartialMap (PublicKey × UserChannelId) InboundCRChannel}
  {requests' : PartialMap (PublicKey × RequestId) UserChannelId} {out : LSPS1ClientOutput}

/-- The first poll sends a request. -/
theorem LSPS1ClientHandler.Effect.of_poll
    (h : s.Effect debug (.checkOrderStatus requestId p orderId u) channels' requests' out)
    (hch : s.channels (p, u) = some ch) (hst : ch.state = pendingPayment orderId') :
    channels' (p, u) = some { ch with state := awaitingConfirmation u orderId' } ∧
      out = { result := .ok, messages := [(p, .request requestId (.getOrder { orderId }))] } := by
  -- The channel awaits the payment, so that it is neither missing nor in another state.
  cases h with
  | poll hch' hst' =>
    obtain rfl := Option.some.inj (hch.symm.trans hch')
    obtain rfl := pendingPayment.inj (hst.symm.trans hst')
    exact ⟨PartialMap.insert_self .., rfl⟩
  | refusePoll hch' hst' =>
    obtain rfl := Option.some.inj (hch.symm.trans hch')
    exact absurd hst (hst' orderId')
  | noChannelToPoll hch' => cases hch.symm.trans hch'

/-- A poll of a channel that is waiting for an answer is refused. -/
theorem LSPS1ClientHandler.Effect.of_poll_again {u' : UserChannelId}
    (h : s.Effect debug (.checkOrderStatus requestId p orderId u) channels' requests' out)
    (hch : s.channels (p, u) = some ch) (hst : ch.state = awaitingConfirmation u' orderId') :
    out.result ≠ .ok := by
  cases h with
  | poll hch' hst' =>
    obtain rfl := Option.some.inj (hch.symm.trans hch')
    cases hst.symm.trans hst'
  | refusePoll | noChannelToPoll => simp

/-- A status leaves the channels. -/
theorem LSPS1ClientHandler.Effect.of_status {result : CreateOrderResponse}
    (h : s.Effect debug (.handleMessage (.response requestId (.getOrder result)) p) channels'
      requests' out) : channels' = s.channels ∧ out.messages = [] := by
  cases h with
  | acknowledge | unknownChannel | unknown => exact ⟨rfl, rfl⟩
  -- Only options and created orders are rejected, for the state of the channel.
  | reject _ _ hst => rcases hst with ⟨_, ⟨⟩, -⟩ | ⟨_, ⟨⟩, -⟩

/-- An order that is shown is stored, and its payment awaited. -/
theorem LSPS1ClientHandler.Effect.of_display {result : CreateOrderResponse} {order : OrderParams}
    {payment : OrderPayment} {channel : Option ChannelInfo}
    (h : s.Effect debug (.handleMessage (.response requestId (.createOrder result)) p) channels'
      requests' out) (he : .displayOrder u p order payment channel ∈ out.events) :
    ∃ ch, channels' (p, u) = some ch ∧ ch.state = pendingPayment result.orderId := by
  cases h with
  | display =>
    cases List.mem_singleton.1 he
    exact ⟨_, PartialMap.insert_self .., rfl⟩
  | overflow | tooHigh | reject | acknowledge | unknownChannel | unknown => cases he

end Client

section Service

open LSPS1ServiceHandler OutboundRequestState

variable {s : LSPS1ServiceHandler} {p : PublicKey} {requestId : RequestId} {orderId : OrderId}
  {ch : OutboundCRChannel} {orders' : PartialMap (PublicKey × OrderId) OutboundCRChannel}
  {pending' : PartialMap (PublicKey × RequestId) LSPS1Request} {out : LSPS1ServiceOutput}

/-- The first request makes the service check the payment. -/
theorem LSPS1ServiceHandler.Effect.of_getOrder {params : GetOrderRequest}
    (h : s.Effect (.handleMessage (.request requestId (.getOrder params)) p) orders' pending' out)
    (hch : s.orders (p, params.orderId) = some ch) (hst : ch.state = orderCreated orderId) :
    orders' (p, params.orderId) = some { ch with state := waitingPayment orderId } ∧
      out = { result := .ok
              events := [.checkPaymentConfirmation requestId p params.orderId] } := by
  cases h with
  | check hch' hst' =>
    obtain rfl := Option.some.inj (hch.symm.trans hch')
    obtain rfl := orderCreated.inj (hst.symm.trans hst')
    exact ⟨PartialMap.insert_self .., rfl⟩
  | refund hch' hst' =>
    obtain rfl := Option.some.inj (hch.symm.trans hch')
    exact absurd hst (hst' orderId)
  | noOrder hch' => cases hch.symm.trans hch'
  | unset hrequest => exact absurd rfl (hrequest params)

/-- Telling the status leaves the orders. -/
theorem LSPS1ServiceHandler.Effect.of_update {orderState : OrderState} {channel : Option ChannelInfo}
    (h : s.Effect (.updateOrderStatus requestId p orderId orderState channel) orders' pending' out) :
    orders' = s.orders ∧ out.events = [] ∧ ∀ m ∈ out.messages, m.2.IsStatus := by
  cases h with
  | update =>
    refine ⟨rfl, rfl, fun m hm => ?_⟩
    cases List.mem_singleton.1 hm
    exact ⟨_, _, rfl⟩
  | noUpdate => exact ⟨rfl, rfl, fun m hm => absurd hm List.not_mem_nil⟩

/-- An order whose creation is answered is stored. -/
theorem LSPS1ServiceHandler.Effect.of_details {orderId : OrderId} {payment : OrderPayment}
    {createdAt expiresAt : DateTime} {result : CreateOrderResponse}
    (h : s.Effect (.sendPaymentDetails requestId p orderId payment createdAt expiresAt) orders'
      pending' out) (hm : (p, .response requestId (.createOrder result)) ∈ out.messages) :
    result.orderId = orderId ∧
      ∃ ch, orders' (p, orderId) = some ch ∧ ch.state = orderCreated orderId := by
  cases h with
  | details =>
    cases List.mem_singleton.1 hm
    exact ⟨rfl, _, PartialMap.insert_self .., rfl⟩
  | noDetails => cases hm

end Service

/-! ## Runs -/

namespace Polling

open InboundRequestState OutboundRequestState

/-- How the order stands, with the number of polls that are still expected. -/
inductive Phase (order : PolledOrder) (s : Polling) : ℕ → Prop
  | fresh {ch : InboundCRChannel} {orderId : OrderId} {ch' : OutboundCRChannel} {orderId' : OrderId}
      (hch : s.client.channels (order.serviceNode, order.userChannelId) = some ch)
      (hst : ch.state = pendingPayment orderId)
      (hch' : s.service.orders (order.clientNode, order.orderId) = some ch')
      (hst' : ch'.state = orderCreated orderId') (hnone : s.toService = []) : Phase order s 1
  | asked {ch : InboundCRChannel} {u : UserChannelId} {orderId : OrderId} {ch' : OutboundCRChannel}
      {orderId' : OrderId} {requestId : RequestId}
      (hch : s.client.channels (order.serviceNode, order.userChannelId) = some ch)
      (hst : ch.state = awaitingConfirmation u orderId)
      (hch' : s.service.orders (order.clientNode, order.orderId) = some ch')
      (hst' : ch'.state = orderCreated orderId')
      (hrequest : s.toService = [.request requestId (.getOrder ⟨order.orderId⟩)]) : Phase order s 0
  | confirmed {ch : InboundCRChannel} {u : UserChannelId} {orderId : OrderId}
      {ch' : OutboundCRChannel}
      (hch : s.client.channels (order.serviceNode, order.userChannelId) = some ch)
      (hst : ch.state = awaitingConfirmation u orderId)
      (hch' : s.service.orders (order.clientNode, order.orderId) = some ch')
      (hnone : s.toService = []) : Phase order s 0

/-- How the order stands, with nothing but statuses under way to the client. -/
structure Stands (order : PolledOrder) (s : Polling) (n : ℕ) : Prop where
  phase : Phase order s n
  statuses : ∀ m ∈ s.toClient, m.IsStatus

variable {debug : Bool} {order : PolledOrder} {s s' : Polling} {n : ℕ} {i : PollingInput}

theorem Phase.clientKeeps (h : Phase order s n) :
    s.client.channels (order.serviceNode, order.userChannelId) ≠ none := by
  cases h with
  | fresh hch | asked hch | confirmed hch => exact Option.ne_none_iff_exists'.2 ⟨_, hch⟩

theorem Phase.serviceKeeps (h : Phase order s n) :
    s.service.orders (order.clientNode, order.orderId) ≠ none := by
  cases h with
  | fresh _ _ hch' | asked _ _ hch' | confirmed _ _ hch' =>
    exact Option.ne_none_iff_exists'.2 ⟨_, hch'⟩

/-- What leaves channels, orders and requests leaves the phase. -/
theorem Phase.congr (h : Phase order s n) (hch : s'.client.channels = s.client.channels)
    (horders : s'.service.orders = s.service.orders) (hto : s'.toService = s.toService) :
    Phase order s' n := by
  cases h with
  | fresh h₁ h₂ h₃ h₄ h₅ =>
    exact .fresh (hch ▸ h₁) h₂ (horders ▸ h₃) h₄ (hto ▸ h₅)
  | asked h₁ h₂ h₃ h₄ h₅ =>
    exact .asked (hch ▸ h₁) h₂ (horders ▸ h₃) h₄ (hto ▸ h₅)
  | confirmed h₁ h₂ h₃ h₄ =>
    exact .confirmed (hch ▸ h₁) h₂ (horders ▸ h₃) (hto ▸ h₄)

/-- The first poll goes well. -/
theorem Stands.poll (h : Stands order s 1) (debug : Bool) (requestId : RequestId) :
    Good debug order s (.checkOrderStatus requestId) ∧
      Stands order (s.step debug order (.checkOrderStatus requestId)).1 0 := by
  obtain ⟨hphase, hstatuses⟩ := h
  -- A poll is still expected only while the order is fresh: nothing is under way to the service.
  obtain ⟨hch, hst, hch', hst', hnone⟩ := hphase
  obtain ⟨hch, hout⟩ := (LSPS1ClientHandler.effect_checkOrderStatus debug s.client requestId
    order.serviceNode order.orderId order.userChannelId).of_poll hch hst
  have hrequest : (s.step debug order (.checkOrderStatus requestId)).1.toService =
      [.request requestId (.getOrder ⟨order.orderId⟩)] := by
    simp [step, hout, hnone, messagesTo]
  have hphase : Phase order (s.step debug order (.checkOrderStatus requestId)).1 0 :=
    .asked hch rfl hch' hst' hrequest
  refine ⟨⟨?_, ?_, ?_, hphase.clientKeeps, hphase.serviceKeeps⟩, hphase, hstatuses⟩
  · rintro _ ⟨⟩
    exact congrArg PollingOutput.client hout
  · rintro _ _ _ ⟨⟩
  · rintro _ ⟨⟩

/-- A poll that is not expected goes wrong. -/
theorem Stands.not_good (h : Stands order s 0) (debug : Bool) (requestId : RequestId) :
    ¬Good debug order s (.checkOrderStatus requestId) := by
  intro hgood
  have hout := PollingOutput.client.inj (hgood.polled requestId rfl)
  have heffect := LSPS1ClientHandler.effect_checkOrderStatus debug s.client requestId
    order.serviceNode order.orderId order.userChannelId
  have hok := congrArg LSPS1ClientOutput.result hout
  -- The poll before left the channel waiting for a confirmation, whether it has arrived or not.
  cases h.phase with
  | asked hch hst | confirmed hch hst => exact heffect.of_poll_again hch hst hok

/-- A step that is no poll, and keeps the order, goes well if it does not refund. -/
theorem Stands.good (h : Stands order (s.step debug order i).1 n) (hpoll : i.isPoll = false)
    (hchecked : ∀ requestId params rest, i = .deliverRequest →
      s.toService = .request requestId (.getOrder params) :: rest →
      (s.step debug order i).2 = .service
        { result := .ok
          events := [.checkPaymentConfirmation requestId order.clientNode order.orderId] })
    (hrefund : ∀ out, (s.step debug order i).2 = .service out → ∀ requestId p orderId,
      .refund requestId p orderId ∉ out.events) :
    Good debug order s i ∧ Stands order (s.step debug order i).1 n := by
  refine ⟨⟨?_, hchecked, hrefund, h.phase.clientKeeps, h.phase.serviceKeeps⟩, h⟩
  rintro requestId rfl
  cases hpoll

theorem Stands.updateOrderStatus (h : Stands order s n) (debug : Bool) (requestId : RequestId)
    (p : PublicKey) (orderId : OrderId) (orderState : OrderState) (channel : Option ChannelInfo) :
    Good debug order s (.updateOrderStatus requestId p orderId orderState channel) ∧
      Stands order
        (s.step debug order (.updateOrderStatus requestId p orderId orderState channel)).1 n := by
  obtain ⟨horders, hevents, hmessages⟩ := (LSPS1ServiceHandler.effect_updateOrderStatus s.service
    requestId p orderId orderState channel).of_update
  refine Stands.good ⟨h.phase.congr rfl horders rfl, fun m hm => ?_⟩ rfl ?_ ?_
  · -- What is under way to the client is what was, or the status told now.
    rcases List.mem_append.1 hm with hm | hm
    · exact h.statuses m hm
    · obtain ⟨m', hm', rfl⟩ := List.mem_map.1 hm
      exact hmessages m' (List.mem_filter.1 hm').1
  · rintro _ _ _ ⟨⟩
  · intro out hout _ _ _ he
    have hout : (s.service.updateOrderStatus requestId p orderId orderState channel).2 = out :=
      PollingOutput.service.inj hout
    rw [← hout, hevents] at he
    cases he

/-- A delivery with no message under way goes well. -/
theorem Stands.nothing (h : Stands order s n) (hpoll : i.isPoll = false)
    (hstep : s.step debug order i = (s, .none)) (hto : i = .deliverRequest → s.toService = []) :
    Good debug order s i ∧ Stands order (s.step debug order i).1 n := by
  refine Stands.good (by rwa [hstep]) hpoll ?_ ?_
  · rintro _ _ _ rfl hrequest
    cases (hto rfl).symm.trans hrequest
  · intro out hout
    rw [hstep] at hout
    cases hout

theorem step_deliverRequest_nil (h : s.toService = []) :
    s.step debug order .deliverRequest = (s, .none) := by
  simp only [step, h]

theorem step_deliverRequest_cons {m : LSPS1Message} {rest : List LSPS1Message}
    {service : LSPS1ServiceHandler} {out : LSPS1ServiceOutput} (h : s.toService = m :: rest)
    (hservice : s.service.handleMessage debug m order.clientNode = (service, out)) :
    s.step debug order .deliverRequest =
      ({ s with
          service, toService := rest
          toClient := s.toClient ++ messagesTo order.clientNode out.messages }, .service out) := by
  simp only [step, h, hservice]

theorem step_deliverResponse_nil (h : s.toClient = []) :
    s.step debug order .deliverResponse = (s, .none) := by
  simp only [step, h]

theorem step_deliverResponse_cons {m : LSPS1Message} {rest : List LSPS1Message}
    {client : LSPS1ClientHandler} {out : LSPS1ClientOutput} (h : s.toClient = m :: rest)
    (hclient : s.client.handleMessage debug m order.serviceNode = (client, out)) :
    s.step debug order .deliverResponse =
      ({ s with
          client, toClient := rest
          toService := s.toService ++ messagesTo order.serviceNode out.messages }, .client out) := by
  simp only [step, h, hclient]

theorem Stands.deliverRequest (h : Stands order s n) (debug : Bool) :
    Good debug order s .deliverRequest ∧ Stands order (s.step debug order .deliverRequest).1 n := by
  cases h.phase with
  -- Without a request under way nothing is delivered.
  | fresh _ _ _ _ hnone | confirmed _ _ _ hnone =>
    exact h.nothing rfl (step_deliverRequest_nil hnone) fun _ => hnone
  -- The request finds the order as it was created: the service moves it on, and asks the user
  -- about the payment.
  | @asked _ _ _ _ _ requestId hch hst hch' hst' hrequest =>
    have heffect := LSPS1ServiceHandler.effect_step debug s.service
      (.handleMessage (.request requestId (.getOrder ⟨order.orderId⟩)) order.clientNode)
    rcases hservice : s.service.handleMessage debug (.request requestId (.getOrder ⟨order.orderId⟩))
      order.clientNode with ⟨service, out⟩
    rw [LSPS1ServiceHandler.step, hservice] at heffect
    obtain ⟨horders, rfl⟩ := heffect.of_getOrder hch' hst'
    have hstep := step_deliverRequest_cons hrequest hservice
    rw [messagesTo, List.filter_nil, List.map_nil, List.append_nil] at hstep
    refine Stands.good ?_ rfl ?_ ?_
    · rw [hstep]
      exact ⟨.confirmed hch hst horders rfl, h.statuses⟩
    · rintro _ _ _ - hto
      cases hrequest.symm.trans hto
      rw [hstep]
    · intro out hservice _ _ _ he
      rw [hstep] at hservice
      cases hservice
      cases List.mem_singleton.1 he

theorem Stands.deliverResponse (h : Stands order s n) (debug : Bool) :
    Good debug order s .deliverResponse ∧
      Stands order (s.step debug order .deliverResponse).1 n := by
  cases hto : s.toClient with
  | nil => exact h.nothing rfl (step_deliverResponse_nil hto) (by rintro ⟨⟩)
  | cons m rest =>
    have hmem : ∀ m' ∈ m :: rest, m'.IsStatus := hto ▸ h.statuses
    -- Only statuses are under way to the client, and they leave its channels.
    obtain ⟨requestId, result, rfl⟩ := hmem m List.mem_cons_self
    have heffect := LSPS1ClientHandler.effect_step debug s.client
      (.handleMessage (.response requestId (.getOrder result)) order.serviceNode)
    rcases hclient : s.client.handleMessage debug (.response requestId (.getOrder result))
      order.serviceNode with ⟨client, out⟩
    rw [LSPS1ClientHandler.step, hclient] at heffect
    obtain ⟨hch, hmessages⟩ := heffect.of_status
    have hstep := step_deliverResponse_cons hto hclient
    rw [hmessages, messagesTo, List.filter_nil, List.map_nil, List.append_nil] at hstep
    refine Stands.good ?_ rfl (by rintro _ _ _ ⟨⟩) fun out hout => ?_
    · rw [hstep]
      exact ⟨h.phase.congr hch rfl rfl, fun m' hm' => hmem m' (List.mem_cons_of_mem _ hm')⟩
    · rw [hstep] at hout
      cases hout

/-- What is no poll goes well. -/
theorem Stands.step (h : Stands order s n) (debug : Bool) (hpoll : i.isPoll = false) :
    Good debug order s i ∧ Stands order (s.step debug order i).1 n := by
  cases i with
  | checkOrderStatus => cases hpoll
  | updateOrderStatus => exact h.updateOrderStatus ..
  | deliverRequest => exact h.deliverRequest debug
  | deliverResponse => exact h.deliverResponse debug

/-- All goes well in a run iff no more polls are made than are expected. -/
theorem Stands.along_good_iff (h : Stands order s n) (is : List PollingInput) :
    (machine debug order).Along (Good debug order) s is ↔ is.countP PollingInput.isPoll ≤ n := by
  -- The number of polls still expected is what the induction carries from step to step.
  induction is generalizing s n with
  | nil => simp
  | cons i is ih =>
    rw [Machine.along_cons]
    cases hpoll : i.isPoll with
    | false =>
      obtain ⟨hgood, hnext⟩ := h.step debug hpoll
      rw [and_iff_right hgood, List.countP_cons_of_neg (Bool.eq_false_iff.1 hpoll)]
      exact ih hnext
    | true =>
      rw [List.countP_cons_of_pos hpoll]
      cases i with
      | updateOrderStatus | deliverRequest | deliverResponse => cases hpoll
      | checkOrderStatus requestId =>
        cases h.phase with
        | fresh =>
          obtain ⟨hgood, hnext⟩ := h.poll debug requestId
          rw [and_iff_right hgood, Nat.succ_le_succ_iff]
          exact ih hnext
        -- No poll is expected, so that neither side holds.
        | asked | confirmed =>
          exact iff_of_false (fun hgood => h.not_good debug requestId hgood.1)
            (Nat.not_succ_le_zero _)

/-- An order is created by the service, and the client has handled the response. -/
def created (debug : Bool) (client : LSPS1ClientHandler) (service : LSPS1ServiceHandler)
    (order : PolledOrder) (requestId : RequestId) (payment : OrderPayment)
    (createdAt expiresAt : DateTime) (result : CreateOrderResponse) : Polling where
  client := (client.handleMessage debug (.response requestId (.createOrder result))
    order.serviceNode).1
  service := (service.sendPaymentDetails requestId order.clientNode order.orderId payment createdAt
    expiresAt).1
  toService := []
  toClient := []

/-- **Polling an order.** Once an order is created and shown to the client, all goes well in a run
    of polls, statuses and deliveries iff the order is polled at most once. -/
theorem polling_iff (debug : Bool) (client : LSPS1ClientHandler) (service : LSPS1ServiceHandler)
    (order : PolledOrder) (requestId : RequestId) (payment : OrderPayment)
    (createdAt expiresAt : DateTime) (result : CreateOrderResponse)
    (hcreated : (order.clientNode, .response requestId (.createOrder result)) ∈
      (service.sendPaymentDetails requestId order.clientNode order.orderId payment createdAt
        expiresAt).2.messages)
    (hshown : ∃ params payment channel,
      .displayOrder order.userChannelId order.serviceNode params payment channel ∈
        (client.handleMessage debug (.response requestId (.createOrder result))
          order.serviceNode).2.events) (is : List PollingInput) :
    (machine debug order).Along (Good debug order)
        (created debug client service order requestId payment createdAt expiresAt result) is ↔
      is.countP PollingInput.isPoll ≤ 1 := by
  obtain ⟨-, ch', hch', hst'⟩ := (LSPS1ServiceHandler.effect_sendPaymentDetails service requestId
    order.clientNode order.orderId payment createdAt expiresAt).of_details hcreated
  obtain ⟨params, payment', channel, he⟩ := hshown
  obtain ⟨ch, hch, hst⟩ := (LSPS1ClientHandler.effect_step debug client
    (.handleMessage (.response requestId (.createOrder result)) order.serviceNode)).of_display he
  have hphase : Phase order
      (created debug client service order requestId payment createdAt expiresAt result) 1 :=
    .fresh hch hst hch' hst' rfl
  exact Stands.along_good_iff ⟨hphase, fun m hm => absurd hm List.not_mem_nil⟩ is

/-- The client of the examples, which has placed an order. -/
def sampleClient : LSPS1ClientHandler :=
  (LSPS1ClientHandler.machine false).exec (.new ⟨none⟩)
    [.sendGetInfoRequest ⟨"1"⟩ ⟨2⟩ 0,
      .handleMessage (.response ⟨"1"⟩ (.getInfo ⟨"lsp", sampleOptions⟩)) ⟨2⟩,
      .placeOrder ⟨"2"⟩ 0 ⟨2⟩ sampleOrder]

/-- The service of the examples, which has received the order. -/
def sampleService : LSPS1ServiceHandler :=
  (LSPS1ServiceHandler.machine false).exec (.new ⟨some sampleOptions, none⟩)
    [.handleMessage (.request ⟨"2"⟩ (.createOrder ⟨sampleOrder⟩)) ⟨1⟩]

/-- A poll goes well. -/
theorem polling_once :
    (machine false ⟨⟨1⟩, ⟨2⟩, 0, ⟨"o"⟩⟩).Along (Good false ⟨⟨1⟩, ⟨2⟩, 0, ⟨"o"⟩⟩)
      (created false sampleClient sampleService ⟨⟨1⟩, ⟨2⟩, 0, ⟨"o"⟩⟩ ⟨"2"⟩
        (sampleResponse 1000).payment ⟨0, 0⟩ ⟨3600, 0⟩ (sampleResponse 1000))
      [.checkOrderStatus ⟨"3"⟩, .deliverRequest,
        .updateOrderStatus ⟨"3"⟩ ⟨1⟩ ⟨"o"⟩ .created none, .deliverResponse] :=
  (polling_iff false sampleClient sampleService ⟨⟨1⟩, ⟨2⟩, 0, ⟨"o"⟩⟩ ⟨"2"⟩
    (sampleResponse 1000).payment ⟨0, 0⟩ ⟨3600, 0⟩ (sampleResponse 1000) (by decide)
    ⟨sampleOrder, (sampleResponse 1000).payment, none, by decide⟩ _).2 (by decide)

/-- A second poll fails, and loses the order. -/
theorem not_polling :
    ¬∀ (debug : Bool) (client : LSPS1ClientHandler) (service : LSPS1ServiceHandler)
      (order : PolledOrder) (requestId : RequestId) (payment : OrderPayment)
      (createdAt expiresAt : DateTime) (result : CreateOrderResponse),
      (order.clientNode, .response requestId (.createOrder result)) ∈
        (service.sendPaymentDetails requestId order.clientNode order.orderId payment createdAt
          expiresAt).2.messages →
      (∃ params payment channel,
        .displayOrder order.userChannelId order.serviceNode params payment channel ∈
          (client.handleMessage debug (.response requestId (.createOrder result))
            order.serviceNode).2.events) →
      ∀ is, (machine debug order).Along (Good debug order)
        (created debug client service order requestId payment createdAt expiresAt result) is := by
  intro h
  have hrun := h false sampleClient sampleService ⟨⟨1⟩, ⟨2⟩, 0, ⟨"o"⟩⟩ ⟨"2"⟩
    (sampleResponse 1000).payment ⟨0, 0⟩ ⟨3600, 0⟩ (sampleResponse 1000) (by decide)
    ⟨sampleOrder, (sampleResponse 1000).payment, none, by decide⟩
    [.checkOrderStatus ⟨"3"⟩, .deliverRequest, .updateOrderStatus ⟨"3"⟩ ⟨1⟩ ⟨"o"⟩ .created none,
      .deliverResponse, .checkOrderStatus ⟨"4"⟩]
  exact absurd (hrun.2.2.2.2.1.polled ⟨"4"⟩ rfl) (by decide)

end Polling

end LightningLiquidity.Lsps1
