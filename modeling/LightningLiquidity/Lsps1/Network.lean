import LightningLiquidity.Lsps1.Client.Effects
import LightningLiquidity.Lsps1.Service.Effects

/-!
# A network of nodes

Any number of nodes, each with a client and a service of LSPS1 (`Network.machine`). A node can be
given any message another one has sent it (`Network.Delivers`): messages may be lost, overtake
each other and arrive again, but none is made up.

What the users and handlers did before is read off the trace (`NetworkTrace`): the orders placed
and asked for by users of clients, those they were requested for and quoted by users of services.
-/

namespace LightningLiquidity.Lsps1

/-- A message from a node to another. -/
structure Envelope where
  sender : PublicKey
  receiver : PublicKey
  message : LSPS1Message
  deriving DecidableEq

/-- The clients and services of all nodes, and the messages sent so far. -/
structure Network where
  client : PublicKey → LSPS1ClientHandler
  service : PublicKey → LSPS1ServiceHandler
  sent : List Envelope

/-- A call to a handler of a node. -/
inductive NodeCall
  | client (call : ClientCall)
  | service (call : ServiceCall)
  deriving DecidableEq

/-- A call to a handler, and the node it is made at. -/
structure NetworkInput where
  node : PublicKey
  call : NodeCall
  deriving DecidableEq

/-- What a handler does. -/
inductive NetworkOutput
  | client (out : LSPS1ClientOutput)
  | service (out : LSPS1ServiceOutput)
  deriving DecidableEq

namespace NetworkOutput

/-- The events for the user of the client. -/
def clientEvents : NetworkOutput → List LSPS1ClientEvent
  | client out => out.events
  | service _ => []

/-- The events for the user of the service. -/
def serviceEvents : NetworkOutput → List LSPS1ServiceEvent
  | client _ => []
  | service out => out.events

end NetworkOutput

namespace NetworkInput

/-- The message a node is given. -/
def received? : NetworkInput → Option Envelope
  | ⟨p, .client (.handleMessage message q)⟩ => some ⟨q, p, message⟩
  | ⟨p, .service (.handleMessage message q)⟩ => some ⟨q, p, message⟩
  | _ => none

/-- The id a node generates: of a request or of an order. -/
def generated? : NetworkInput → Option (PublicKey × (RequestId ⊕ OrderId))
  | ⟨p, .client (.sendGetInfoRequest requestId _ _)⟩ => some (p, .inl requestId)
  | ⟨p, .client (.placeOrder requestId _ _ _)⟩ => some (p, .inl requestId)
  | ⟨p, .client (.checkOrderStatus requestId _ _ _)⟩ => some (p, .inl requestId)
  | ⟨p, .service (.sendPaymentDetails _ _ orderId _ _ _)⟩ => some (p, .inr orderId)
  | _ => none

/-- Two calls do not generate the same id at the same node. -/
def Apart (i j : NetworkInput) : Prop := ∀ g, i.generated? = some g → j.generated? ≠ some g

instance : DecidableRel Apart := fun i j =>
  inferInstanceAs (Decidable (∀ g ∈ i.generated?, j.generated? ≠ some g))

end NetworkInput

namespace Network

/-- The messages of a node. -/
def envelopes (p : PublicKey) (messages : List (PublicKey × LSPS1Message)) : List Envelope :=
  messages.map fun (q, message) => ⟨p, q, message⟩

theorem mem_envelopes {p : PublicKey} {messages : List (PublicKey × LSPS1Message)} {e : Envelope} :
    e ∈ envelopes p messages ↔ e.sender = p ∧ (e.receiver, e.message) ∈ messages := by
  rw [envelopes, List.mem_map]
  constructor
  · rintro ⟨⟨q, message⟩, hmem, rfl⟩
    exact ⟨rfl, hmem⟩
  · rintro ⟨rfl, hmem⟩
    exact ⟨_, hmem, rfl⟩

/-- New nodes. -/
def new (clients : PublicKey → LSPS1ClientConfig) (services : PublicKey → LSPS1ServiceConfig) :
    Network where
  client p := .new (clients p)
  service p := .new (services p)
  sent := []

/-- A call to a handler of a node. -/
def step (debug : Bool) (self : Network) (i : NetworkInput) : Network × NetworkOutput :=
  match i.call with
  | .client call =>
    let (client, out) := (self.client i.node).step debug call
    ({ self with
        client := Function.update self.client i.node client
        sent := self.sent ++ envelopes i.node out.messages }, .client out)
  | .service call =>
    let (service, out) := (self.service i.node).step debug call
    ({ self with
        service := Function.update self.service i.node service
        sent := self.sent ++ envelopes i.node out.messages }, .service out)

/-- The calls to the handlers of all nodes. -/
def machine (debug : Bool) : Machine Network NetworkInput NetworkOutput := ⟨step debug⟩

/-- A message given to a node was sent to it. -/
def Delivers (s : Network) (i : NetworkInput) : Prop := ∀ e ∈ i.received?, e ∈ s.sent

end Network

/-! ## What the trace records -/

/-- The calls made to the nodes, with their outputs. -/
abbrev NetworkTrace := List (NetworkInput × NetworkOutput)

namespace NetworkTrace

variable (tr : NetworkTrace)

/-- The user of a client made a request for a channel of a peer. -/
def Asked (p q : PublicKey) (u : UserChannelId) (requestId : RequestId) : Prop :=
  ∃ call out, (⟨p, .client call⟩, out) ∈ tr ∧
    (call = .sendGetInfoRequest requestId q u ∨ (∃ x, call = .placeOrder requestId u q x) ∨
      ∃ orderId, call = .checkOrderStatus requestId q orderId u)

/-- The user of a client placed an order. -/
def Placed (p q : PublicKey) (u : UserChannelId) (requestId : RequestId) (x : OrderParams) : Prop :=
  ∃ out, (⟨p, .client (.placeOrder requestId u q x)⟩, .client out) ∈ tr ∧ out.result = .ok

/-- The user of a client asked how an order stands. -/
def Polled (p q : PublicKey) (u : UserChannelId) (requestId : RequestId) (orderId : OrderId) :
    Prop :=
  ∃ out, (⟨p, .client (.checkOrderStatus requestId q orderId u)⟩, .client out) ∈ tr ∧
    out.result = .ok

/-- The user of a service was asked how an order is to be paid for. -/
def Requested (q p : PublicKey) (requestId : RequestId) (x : OrderParams) : Prop :=
  ∃ call out, (⟨q, .service call⟩, .service out) ∈ tr ∧
    .requestForPaymentDetails requestId p x ∈ out.events

/-- The user of a service said how an order is to be paid for, and this was answered. -/
def Quoted (q p : PublicKey) (requestId : RequestId) (result : CreateOrderResponse) : Prop :=
  (⟨q, .service (.sendPaymentDetails requestId p result.orderId result.payment result.createdAt
      result.expiresAt)⟩, .service (.respond p requestId (.createOrder result))) ∈ tr

/-- The user of a service was told to refund an order. -/
def Refunded (q p : PublicKey) (orderId : OrderId) : Prop :=
  ∃ call out requestId, (⟨q, .service call⟩, .service out) ∈ tr ∧
    .refund requestId p orderId ∈ out.events

variable {tr} {tr' : NetworkTrace} {p q : PublicKey} {u : UserChannelId} {requestId : RequestId}
  {x : OrderParams} {orderId : OrderId}

theorem Asked.mono (h : tr.Asked p q u requestId) (htr : tr ⊆ tr') : Asked tr' p q u requestId := by
  obtain ⟨call, out, hmem, hcall⟩ := h
  exact ⟨call, out, htr hmem, hcall⟩

theorem Placed.mono (h : tr.Placed p q u requestId x) (htr : tr ⊆ tr') :
    Placed tr' p q u requestId x := h.imp fun _ h => ⟨htr h.1, h.2⟩

theorem Polled.mono (h : tr.Polled p q u requestId orderId) (htr : tr ⊆ tr') :
    Polled tr' p q u requestId orderId := h.imp fun _ h => ⟨htr h.1, h.2⟩

theorem Requested.mono (h : tr.Requested q p requestId x) (htr : tr ⊆ tr') :
    Requested tr' q p requestId x := by
  obtain ⟨call, out, hmem, hevent⟩ := h
  exact ⟨call, out, htr hmem, hevent⟩

theorem Refunded.mono (h : tr.Refunded q p orderId) (htr : tr ⊆ tr') : Refunded tr' q p orderId := by
  obtain ⟨call, out, r, hmem, hevent⟩ := h
  exact ⟨call, out, r, htr hmem, hevent⟩

end NetworkTrace

/-! ## What handlers send and tell -/

namespace LSPS1ClientHandler

variable {debug : Bool} {s : LSPS1ClientHandler} {call : ClientCall} {p : PublicKey}
  {u : UserChannelId} {requestId : RequestId}
  {channels' : PartialMap (PublicKey × UserChannelId) InboundCRChannel}
  {requests' : PartialMap (PublicKey × RequestId) UserChannelId} {out : LSPS1ClientOutput}

/-- A request kept after a call was kept before, or is made by it. -/
theorem Effect.requests_eq_some (h : s.Effect debug call channels' requests' out)
    (hreq : requests' (p, requestId) = some u) :
    s.requests (p, requestId) = some u ∨ call = .sendGetInfoRequest requestId p u ∨
      (∃ x, call = .placeOrder requestId u p x) ∨
      ∃ orderId, call = .checkOrderStatus requestId p orderId u := by
  cases h with
  | askInfo | order | poll =>
    rcases PartialMap.insert_eq_some.1 hreq with ⟨heq, rfl⟩ | ⟨-, h⟩
    · obtain ⟨rfl, rfl⟩ := Prod.mk.inj heq
      simp
    · exact .inl h
  | info | display | overflow | tooHigh | reject | acknowledge | unknownChannel =>
    exact .inl (PartialMap.remove_eq_some.1 hreq).2
  | refuseOrder | refusePoll | noChannelToOrder | noChannelToPoll | unknown | request =>
    exact .inl hreq

/-- A message the client sends is a request of its user. -/
theorem Effect.of_mem_messages (h : s.Effect debug call channels' requests' out)
    {message : LSPS1Message} (hmem : (p, message) ∈ out.messages) :
    (∃ r params, message = .request r (.getInfo params)) ∨
      (∃ r x u, message = .request r (.createOrder ⟨x⟩) ∧ call = .placeOrder r u p x ∧
        out.result = .ok) ∨
      ∃ r orderId u, message = .request r (.getOrder ⟨orderId⟩) ∧
        call = .checkOrderStatus r p orderId u ∧ out.result = .ok := by
  cases h with
  | askInfo =>
    obtain ⟨rfl, rfl⟩ := Prod.mk.inj (List.mem_singleton.1 hmem)
    exact .inl ⟨_, _, rfl⟩
  | order =>
    obtain ⟨rfl, rfl⟩ := Prod.mk.inj (List.mem_singleton.1 hmem)
    exact .inr (.inl ⟨_, _, _, rfl, rfl, rfl⟩)
  | poll =>
    obtain ⟨rfl, rfl⟩ := Prod.mk.inj (List.mem_singleton.1 hmem)
    exact .inr (.inr ⟨_, _, _, rfl, rfl, rfl⟩)
  | _ => cases hmem

/-- Options are told as they were received. -/
theorem Effect.of_getInfoResponse (h : s.Effect debug call channels' requests' out)
    {website : String} {options : OptionsSupported}
    (hmem : .getInfoResponse u p website options ∈ out.events) :
    ∃ r, call = .handleMessage (.response r (.getInfo ⟨website, options⟩)) p := by
  cases h with
  | info =>
    obtain ⟨rfl, rfl, rfl, rfl⟩ := LSPS1ClientEvent.getInfoResponse.inj (List.mem_singleton.1 hmem)
    exact ⟨_, rfl⟩
  | display => cases List.mem_singleton.1 hmem
  | _ => cases hmem

/-- An order is shown as it was received, for the channel of the request that is answered. -/
theorem Effect.of_displayOrder (h : s.Effect debug call channels' requests' out) {x : OrderParams}
    {payment : OrderPayment} {channel : Option ChannelInfo}
    (hmem : .displayOrder u p x payment channel ∈ out.events) :
    ∃ r result, call = .handleMessage (.response r (.createOrder result)) p ∧
      s.requests (p, r) = some u ∧ result.order = x ∧ result.payment = payment ∧
      result.channel = channel := by
  cases h with
  | display hreq =>
    obtain ⟨rfl, rfl, rfl, rfl, rfl⟩ := LSPS1ClientEvent.displayOrder.inj (List.mem_singleton.1 hmem)
    exact ⟨_, _, rfl, hreq, rfl, rfl, rfl⟩
  | info => cases List.mem_singleton.1 hmem
  | _ => cases hmem

end LSPS1ClientHandler

namespace LSPS1ServiceHandler

variable {s : LSPS1ServiceHandler} {call : ServiceCall} {p : PublicKey} {requestId : RequestId}
  {orderId : OrderId} {orders' : PartialMap (PublicKey × OrderId) OutboundCRChannel}
  {pending' : PartialMap (PublicKey × RequestId) LSPS1Request} {out : LSPS1ServiceOutput}

/-- The configuration stays. -/
theorem config_step (debug : Bool) (s : LSPS1ServiceHandler) (call : ServiceCall) :
    (s.step debug call).1.config = s.config := by
  cases call with
  | sendPaymentDetails | updateOrderStatus =>
    simp only [step, sendPaymentDetails, updateOrderStatus]
    repeat' split
    all_goals rfl
  | handleMessage message p =>
    simp only [step, handleMessage, handleGetInfoRequest, handleCreateOrderRequest,
      handleGetOrderRequest]
    repeat' split
    all_goals rfl

/-- What an order is about, as it is stored. -/
def configOf (result : CreateOrderResponse) : OutboundLSPS1Config where
  order := result.order
  createdAt := result.createdAt
  expiresAt := result.expiresAt
  payment := result.payment

/-- The options a service gives are those it is configured with. -/
theorem offered_of_mem_messages {debug : Bool} {result : GetInfoResponse}
    (hmem : (p, .response requestId (.getInfo result)) ∈ (s.step debug call).2.messages) :
    s.config.website = some result.website ∧ s.config.optionsSupported = some result.options := by
  have heffect := effect_step debug s call
  generalize hr : s.step debug call = r at hmem heffect
  obtain ⟨s', out⟩ := r
  have hcall : ∃ r params, call = .handleMessage (.request r (.getInfo params)) p := by
    simp only [EffectOf] at heffect
    generalize s'.orders = orders' at heffect
    generalize s'.pending = pending' at heffect
    cases heffect with
    | info =>
      obtain ⟨rfl, -⟩ := Prod.mk.inj (List.mem_singleton.1 hmem)
      exact ⟨_, _, rfl⟩
    | mismatch | details | update => cases List.mem_singleton.1 hmem
    | _ => cases hmem
  obtain ⟨r, params, rfl⟩ := hcall
  simp only [step, handleMessage, handleGetInfoRequest] at hr
  split at hr
  · next website options hwebsite hoptions =>
    obtain ⟨-, rfl⟩ := Prod.mk.inj hr
    obtain ⟨-, h⟩ := Prod.mk.inj (List.mem_singleton.1 hmem)
    obtain ⟨-, h⟩ := LSPS1Message.response.inj h
    obtain rfl := LSPS1Response.getInfo.inj h
    exact ⟨hwebsite, hoptions⟩
  · obtain ⟨-, rfl⟩ := Prod.mk.inj hr
    cases hmem

/-- A service sends no requests. -/
theorem Effect.not_request (h : s.Effect call orders' pending' out) {r : LSPS1Request} :
    (p, .request requestId r) ∉ out.messages := by
  intro hmem
  cases h with
  | info | mismatch | details | update => cases List.mem_singleton.1 hmem
  | _ => cases hmem

/-- An order is confirmed in answer to a request for it, as its user says. -/
theorem Effect.of_createOrder (h : s.Effect call orders' pending' out) {result : CreateOrderResponse}
    (hmem : (p, .response requestId (.createOrder result)) ∈ out.messages) :
    s.pending (p, requestId) = some (.createOrder ⟨result.order⟩) ∧ result.channel = none ∧
      call = .sendPaymentDetails requestId p result.orderId result.payment result.createdAt
        result.expiresAt ∧ out = .respond p requestId (.createOrder result) := by
  cases h with
  | details hreq =>
    obtain ⟨rfl, hmessage⟩ := Prod.mk.inj (List.mem_singleton.1 hmem)
    obtain ⟨rfl, hresponse⟩ := LSPS1Message.response.inj hmessage
    obtain rfl := LSPS1Response.createOrder.inj hresponse
    exact ⟨hreq, rfl, rfl, rfl⟩
  | info | mismatch | update => cases List.mem_singleton.1 hmem
  | _ => cases hmem

/-- An order that is confirmed is stored. -/
theorem Effect.orders_of_createOrder (h : s.Effect call orders' pending' out)
    {result : CreateOrderResponse}
    (hmem : (p, .response requestId (.createOrder result)) ∈ out.messages) :
    ∃ ch, orders' (p, result.orderId) = some ch ∧ ch.config = configOf result := by
  cases h with
  | details =>
    obtain ⟨rfl, hmessage⟩ := Prod.mk.inj (List.mem_singleton.1 hmem)
    obtain ⟨rfl, hresponse⟩ := LSPS1Message.response.inj hmessage
    obtain rfl := LSPS1Response.createOrder.inj hresponse
    exact ⟨_, PartialMap.insert_self .., rfl⟩
  | info | mismatch | update => cases List.mem_singleton.1 hmem
  | _ => cases hmem

/-- A user is asked for an order that was received, and that matches the options. -/
theorem Effect.of_requestForPaymentDetails (h : s.Effect call orders' pending' out)
    {x : OrderParams} (hmem : .requestForPaymentDetails requestId p x ∈ out.events) :
    call = .handleMessage (.request requestId (.createOrder ⟨x⟩)) p ∧
      ∃ o, s.config.optionsSupported = some o ∧ isValid x o = true := by
  cases h with
  | accept hoptions hvalid =>
    obtain ⟨rfl, rfl, rfl⟩ :=
      LSPS1ServiceEvent.requestForPaymentDetails.inj (List.mem_singleton.1 hmem)
    exact ⟨rfl, _, hoptions, hvalid⟩
  | check | refund => cases List.mem_singleton.1 hmem
  | _ => cases hmem

/-- A user is asked to check, or to refund, an order that is stored and was asked for. -/
theorem Effect.of_check (h : s.Effect call orders' pending' out)
    (hmem : .checkPaymentConfirmation requestId p orderId ∈ out.events ∨
      .refund requestId p orderId ∈ out.events) :
    call = .handleMessage (.request requestId (.getOrder ⟨orderId⟩)) p ∧
      ∃ ch, s.orders (p, orderId) = some ch := by
  cases h with
  | check hch =>
    rcases hmem with hmem | hmem
    · obtain ⟨rfl, rfl, rfl⟩ :=
        LSPS1ServiceEvent.checkPaymentConfirmation.inj (List.mem_singleton.1 hmem)
      exact ⟨rfl, _, hch⟩
    · cases List.mem_singleton.1 hmem
  | refund hch =>
    rcases hmem with hmem | hmem
    · cases List.mem_singleton.1 hmem
    · obtain ⟨rfl, rfl, rfl⟩ := LSPS1ServiceEvent.refund.inj (List.mem_singleton.1 hmem)
      exact ⟨rfl, _, hch⟩
  | accept => rcases hmem with hmem | hmem <;> cases List.mem_singleton.1 hmem
  | _ => rcases hmem with hmem | hmem <;> cases hmem

/-- An order request pending after a call was pending before, or its user is asked for it. -/
theorem Effect.pending_eq_some (h : s.Effect call orders' pending' out) {params : CreateOrderRequest}
    (hreq : pending' (p, requestId) = some (.createOrder params)) :
    s.pending (p, requestId) = some (.createOrder params) ∨
      .requestForPaymentDetails requestId p params.order ∈ out.events := by
  cases h with
  | accept =>
    rcases PartialMap.insert_eq_some.1 hreq with ⟨heq, h⟩ | ⟨-, h⟩
    · obtain ⟨rfl, rfl⟩ := Prod.mk.inj heq
      obtain rfl := LSPS1Request.createOrder.inj h
      exact .inr (List.mem_singleton_self _)
    · exact .inl h
  | check =>
    rcases PartialMap.insert_eq_some.1 hreq with ⟨-, h⟩ | ⟨-, h⟩
    · cases h
    · exact .inl h
  | details | noDetails => exact .inl (PartialMap.remove_eq_some.1 hreq).2
  | _ => exact .inl hreq

/-- An order stored after a call was stored before, about the same, or is confirmed by it. -/
theorem Effect.orders_eq_some (h : s.Effect call orders' pending' out) {ch : OutboundCRChannel}
    (hch : orders' (p, orderId) = some ch) :
    (∃ ch', s.orders (p, orderId) = some ch' ∧ ch'.config = ch.config) ∨
      ∃ r result, (p, .response r (.createOrder result)) ∈ out.messages ∧
        result.orderId = orderId ∧ ch.config = configOf result := by
  cases h with
  | check hch' =>
    rcases PartialMap.insert_eq_some.1 hch with ⟨heq, rfl⟩ | ⟨-, h⟩
    · obtain ⟨rfl, rfl⟩ := Prod.mk.inj heq
      exact .inl ⟨_, hch', rfl⟩
    · exact .inl ⟨ch, h, rfl⟩
  | details =>
    rcases PartialMap.insert_eq_some.1 hch with ⟨heq, rfl⟩ | ⟨-, h⟩
    · obtain ⟨rfl, rfl⟩ := Prod.mk.inj heq
      exact .inr ⟨_, _, List.mem_singleton_self _, rfl, rfl⟩
    · exact .inl ⟨ch, h, rfl⟩
  | refund => exact .inl ⟨ch, (PartialMap.remove_eq_some.1 hch).2, rfl⟩
  | _ => exact .inl ⟨ch, hch, rfl⟩

/-- An order stored before a call stays, about the same, if it is not to be refunded and none is
    given its id. -/
theorem Effect.orders_kept (h : s.Effect call orders' pending' out) {ch : OutboundCRChannel}
    (hch : s.orders (p, orderId) = some ch)
    (hfresh : ∀ r p' payment createdAt expiresAt,
      call ≠ .sendPaymentDetails r p' orderId payment createdAt expiresAt) :
    (∃ ch', orders' (p, orderId) = some ch' ∧ ch'.config = ch.config) ∨
      ∃ r, .refund r p orderId ∈ out.events := by
  cases h with
  | @check _ p' params _ _ hch' =>
    left
    by_cases hk : (p, orderId) = (p', params.orderId)
    · rw [hk, hch'] at hch
      obtain rfl := Option.some.inj hch
      exact ⟨_, PartialMap.insert_eq_some.2 (.inl ⟨hk, rfl⟩), rfl⟩
    · exact ⟨ch, PartialMap.insert_eq_some.2 (.inr ⟨hk, hch⟩), rfl⟩
  | @refund _ p' params =>
    by_cases hk : (p, orderId) = (p', params.orderId)
    · obtain ⟨rfl, rfl⟩ := Prod.mk.inj hk
      exact .inr ⟨_, List.mem_singleton_self _⟩
    · exact .inl ⟨ch, PartialMap.remove_eq_some.2 ⟨hk, hch⟩, rfl⟩
  | @details _ p' orderId' =>
    have hk : (p, orderId) ≠ (p', orderId') := by
      intro hk
      obtain ⟨-, rfl⟩ := Prod.mk.inj hk
      exact hfresh _ _ _ _ _ rfl
    exact .inl ⟨ch, PartialMap.insert_eq_some.2 (.inr ⟨hk, hch⟩), rfl⟩
  | _ => exact .inl ⟨ch, hch, rfl⟩

end LSPS1ServiceHandler

end LightningLiquidity.Lsps1
