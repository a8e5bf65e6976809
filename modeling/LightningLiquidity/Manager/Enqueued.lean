import LightningLiquidity.Lsps2.Service.Expiry
import LightningLiquidity.Manager.Effects

/-!
# What calls enqueue

The messages and events a call to the manager enqueues, and what it enters into the
tables of the client and the service, are those the call was made for, or the message
handled says:

* `produces_step`: a call of the user enqueues a request the user makes, or the answer the
  user gives to a request that is kept;
* `reports_handleLspsMessage`: a message makes the manager report what it says, and nothing else.
-/

namespace LightningLiquidity

/-- A request of the client to buy a channel is entered by the call that selects its offer. -/
theorem LSPS2ClientHandler.buyRequests_of_step (s : LSPS2ClientHandler) (call : ClientCall)
    {k : PublicKey × RequestId} {ch : InboundJITChannel}
    (hk : (s.step call).1.buyRequests k = some ch) :
    s.buyRequests k = some ch ∨
      ∃ params, call = .selectOpeningParams k.2 k.1 ch.paymentSizeMsat params := by
  have heffect := s.effect_step call
  generalize (s.step call).1.getInfoRequests = get, (s.step call).1.buyRequests = buy,
    (s.step call).2 = out at heffect hk
  cases heffect with
  -- An id in use is refused only after its entry has been replaced.
  | askBuy | askAgain =>
    rcases PartialMap.insert_eq_some.1 hk with ⟨rfl, rfl⟩ | ⟨-, hk⟩
    · exact .inr ⟨_, rfl⟩
    · exact .inl hk
  | buy | buyInvalid | buyError => exact .inl (PartialMap.remove_eq_some.1 hk).2
  | _ => exact .inl hk

namespace LiquidityManager

/-! ## The tables of the handlers -/

/-- The `buy` requests of the client not answered yet. -/
def buyRequests (s : LiquidityManager) : PartialMap (PublicKey × RequestId) InboundJITChannel :=
  s.lsps2ClientHandler.elim .empty LSPS2ClientHandler.buyRequests

/-- The channels sold by the service. -/
def channels (s : LiquidityManager) : PartialMap (PublicKey × Scid) OutboundJITChannel :=
  s.lsps2ServiceHandler.elim .empty LSPS2ServiceHandler.channels

variable {s s' : LiquidityManager}

theorem buyRequests_eq {handler : LSPS2ClientHandler} (h : s.lsps2ClientHandler = some handler) :
    s.buyRequests = handler.buyRequests := by
  rw [buyRequests, h, Option.elim_some]

theorem channels_eq {handler : LSPS2ServiceHandler} (h : s.lsps2ServiceHandler = some handler) :
    s.channels = handler.channels := by
  rw [channels, h, Option.elim_some]

/-! ## Calls of the user -/

/-- A call, with the manager it is made to. -/
abbrev Made := LiquidityManager × ManagerInput

/-- The call of the user that makes a request to a peer. -/
def callOf (p : PublicKey) : LSPS2Request → ManagerCall
  | .getInfo params => .requestOpeningParams p params.token
  | .buy req => .selectOpeningParams p req.paymentSizeMsat req.openingFeeParams

/-- A call makes a request to a peer, under an id. -/
def Made.Asks (c : Made) (p : PublicKey) (requestId : RequestId) (request : LSPS2Request) : Prop :=
  requestId = generateRequestId c.2.entropy ∧ c.2.call = callOf p request

/-- A call answers a request of a peer that is kept, by offers. -/
def Made.Offers (env : Externals) (c : Made) (p : PublicKey) (requestId : RequestId)
    (params : GetInfoRequest) (menu : List OpeningFeeParams) : Prop :=
  c.1.serviceRequests (p, requestId) = some (.getInfo params) ∧
    ∃ handler raw call, c.1.lsps2ServiceHandler = some handler ∧ c.2.call = .service call ∧
      call.call = .openingFeeParamsGenerated p requestId raw ∧
      menu = raw.map fun param => param.intoOpeningFeeParams env handler.promiseSecret

/-- A call answers a request of a peer that is kept, by the short channel id of a channel. -/
def Made.Sells (c : Made) (p : PublicKey) (requestId : RequestId) (req : BuyRequest)
    (result : BuyResponse) (userChannelId : UserChannelId) (scid : Scid) : Prop :=
  c.1.serviceRequests (p, requestId) = some (.buy req) ∧
    result.interceptScid = .ofScid scid ∧
    ∃ call, c.2.call = .service call ∧
      call.call = .invoiceParametersGenerated p requestId scid result.lspCltvExpiryDelta
        result.clientTrustsLsp userChannelId

/-- What a call of the user enqueues. -/
inductive Produces (env : Externals) (c : Made) : PublicKey → LSPSMessage → Prop
  | listProtocols {p : PublicKey} {requestId : RequestId}
      (hid : requestId = generateRequestId c.2.entropy) (h : c.2.call = .listProtocols p) :
      Produces env c p (.lsps0 (.request requestId (.listProtocols {})))
  | request {p : PublicKey} {requestId : RequestId} {request : LSPS2Request}
      (h : c.Asks p requestId request) : Produces env c p (.lsps2 (.request requestId request))
  | menu {p : PublicKey} {requestId : RequestId} {params : GetInfoRequest}
      {menu : List OpeningFeeParams} (h : c.Offers env p requestId params menu) :
      Produces env c p (.lsps2 (.response requestId (.getInfo ⟨menu⟩)))
  | invoice {p : PublicKey} {requestId : RequestId} {req : BuyRequest} {result : BuyResponse}
      {userChannelId : UserChannelId} {scid : Scid}
      (h : c.Sells p requestId req result userChannelId scid) :
      Produces env c p (.lsps2 (.response requestId (.buy result)))
  | invalidToken {p : PublicKey} {requestId : RequestId} {error : ResponseError} :
      Produces env c p (.lsps2 (.response requestId (.getInfoError error)))

/-- What the service announces while it has sold some channels: to open one of them, for the fee
    of its parameters. -/
inductive Announces (channels : PartialMap (PublicKey × Scid) OutboundJITChannel) : Event → Prop
  | openChannel {p : PublicKey} {scid : Scid} {ch : OutboundJITChannel}
      {expected amount fee : UInt64} (hch : channels (p, scid) = some ch)
      (hsize : ∀ size, ch.paymentSizeMsat = some size → expected = size)
      (hfee : ch.openingFeeParams.openingFee expected = some fee)
      (hamount : fee.toNat + amount.toNat = expected.toNat) :
      Announces channels (.lsps2Service (.openChannel p amount fee ch.userChannelId scid))

variable {env : Externals} {serde : Serde} {i : ManagerInput}

/-- Another request, or one to another peer, is made by another call. -/
theorem callOf_inj {p q : PublicKey} {request request' : LSPS2Request}
    (h : callOf p request = callOf q request') : p = q ∧ request = request' := by
  rcases request with ⟨⟨token⟩⟩ | ⟨⟨params, size⟩⟩
  · rcases request' with ⟨⟨token'⟩⟩ | ⟨⟨params', size'⟩⟩
    · obtain ⟨rfl, rfl⟩ := ManagerCall.requestOpeningParams.inj h
      exact ⟨rfl, rfl⟩
    · cases h
  · rcases request' with ⟨⟨token'⟩⟩ | ⟨⟨params', size'⟩⟩
    · cases h
    · obtain ⟨rfl, rfl, rfl⟩ := ManagerCall.selectOpeningParams.inj h
      exact ⟨rfl, rfl⟩

theorem Made.Asks.request? {c : Made} {p : PublicKey} {requestId : RequestId}
    {request : LSPS2Request} (h : c.Asks p requestId request) :
    c.2.request? = some (p, requestId, .ofLSPS2Request request) := by
  obtain ⟨rfl, hcall⟩ := h
  rw [ManagerInput.request?, hcall]
  cases request <;> rfl

/-- A request of LSPS0 is made by a call for it. -/
theorem ManagerInput.call_of_request? {p : PublicKey} {requestId : RequestId}
    (h : i.request? = some (p, requestId, .lsps0ListProtocols)) : i.call = .listProtocols p := by
  rw [request?] at h
  split at h
  · next hcall =>
    obtain ⟨rfl, -⟩ := Prod.mk.inj (Option.some.inj h)
    exact hcall
  · cases h
  · cases h
  · cases h

/-- What a call to the service sends. -/
theorem produces_service {handler : LSPS2ServiceHandler} (h : s.lsps2ServiceHandler = some handler)
    {call : UserCall} (hcall : i.call = .service call) {e : PublicKey × LSPS2Message}
    (he : e ∈ (handler.step env ⟨call.call, i.cm, i.now⟩).2.messages) :
    Produces env (s, i) e.1 (.lsps2 e.2) := by
  have hreplies := handler.replies_step env ⟨call.call, i.cm, i.now⟩
  have hself : s.serviceRequests = handler.requests := serviceRequests_eq h
  generalize (handler.step env ⟨call.call, i.cm, i.now⟩).2.messages = messages at he hreplies
  generalize heq : (ServiceInput.mk call.call i.cm i.now).call = sc at hreplies
  -- A reply but the refusal of a request answers a kept one, as the call says.
  cases hreplies with
  | none => cases he
  | invalidToken hrequest =>
    obtain rfl := List.mem_singleton.1 he
    exact .invalidToken
  | menu hrequest =>
    obtain rfl := List.mem_singleton.1 he
    exact .menu ⟨(congrFun hself _).trans hrequest, handler, _, call, h, hcall, heq, rfl⟩
  | invoice hrequest =>
    obtain rfl := List.mem_singleton.1 he
    exact .invoice ⟨(congrFun hself _).trans hrequest, rfl, call, hcall, heq⟩
  | refuse => exact absurd heq (call.ne_handleMessage _ _)

/-- What a call of the user enqueues is what it was made for. -/
theorem produces_step (hpublic : i.call.IsPublic) {e : PublicKey × LSPSMessage}
    (he : e ∈ (s.step env serde i).1.pendingMessages) :
    e ∈ s.pendingMessages ∨ Produces env (s, i) e.1 e.2 := by
  obtain ⟨call, cm, now, entropy⟩ := i
  cases call with
  -- The first two are calls of the node, not of the user.
  | handleCustomMessage | getAndClearPendingMsg => exact hpublic.elim
  | nextEvent | getAndClearPendingEvents => exact .inl he
  | listProtocols p =>
    refine (List.mem_append.1 he).imp_right fun he => ?_
    obtain rfl := List.mem_singleton.1 he
    exact .listProtocols rfl rfl
  -- The methods of the handlers exist only where the handlers are configured.
  | requestOpeningParams p token =>
    simp only [step] at he
    split at he
    · refine (List.mem_append.1 he).imp_right fun he => ?_
      obtain rfl := List.mem_singleton.1 he
      exact .request ⟨rfl, rfl⟩
    · exact .inl he
  | selectOpeningParams p size params =>
    simp only [step] at he
    split at he
    · next handler _ =>
      refine (List.mem_append.1 he).imp_right fun he => ?_
      rcases handler.messages_selectOpeningParams (generateRequestId entropy) p size params with
        hmessages | hmessages
      · rw [hmessages] at he
        cases he
      · rw [hmessages] at he
        obtain rfl := List.mem_singleton.1 he
        exact .request ⟨rfl, rfl⟩
    · exact .inl he
  | service call =>
    simp only [step] at he
    split at he
    · next handler hhandler =>
      refine (List.mem_append.1 he).imp_right fun he => ?_
      obtain ⟨e', he', rfl⟩ := List.mem_map.1 he
      exact produces_service hhandler rfl he'
    · exact .inl he

/-- The channel announced is one for which an HTLC is intercepted. -/
theorem announces_of_openChannel {channels : PartialMap (PublicKey × Scid) OutboundJITChannel}
    {p : PublicKey} {scid : Scid} {ch ch' : OutboundJITChannel} {htlc : InterceptedHTLC}
    {o : OpenChannelParams} (hch : channels (p, scid) = some ch)
    (hr : ch.htlcIntercepted htlc = (ch', .ok (some (.openChannel o)))) :
    Announces channels (.lsps2Service
      (.openChannel p o.amtToForwardMsat o.openingFeeMsat ch'.userChannelId scid)) := by
  have hstep := ch.transition_step (.htlcIntercepted htlc)
  have hid := ch.step_userChannelId (.htlcIntercepted htlc)
  rw [OutboundJITChannel.step, hr] at hstep hid
  replace hid : ch'.userChannelId = ch.userChannelId := hid
  replace hstep : OutboundJITChannelState.Transition ch.openingFeeParams ch.paymentSizeMsat ch.state
    (.htlcIntercepted htlc) ch'.state (.ok (some (.intercepted (.openChannel o)))) := hstep
  rw [hid]
  generalize ch.state = st, ch'.state = st' at hstep
  cases hstep with
  | openChannel hsize hfee hlt hle =>
    refine .openChannel hch (fun size hsome => ?_) hfee ?_
    · rcases hsize with hsize | ⟨hsize, -⟩
      · exact Option.some.inj (hsize.symm.trans hsome)
      · cases hsize.symm.trans hsome
    · have hlt' := UInt64.lt_iff_toNat_lt.1 hlt
      simp only [UInt64.toNat_saturatingSub]
      omega

/-- A call to the service announces channels to be opened, and nothing else. -/
theorem announces_service {handler : LSPS2ServiceHandler} {j : ServiceInput}
    (hj : ∀ message p, j.call ≠ .handleMessage message p) {ev : LSPS2ServiceEvent}
    (hev : ev ∈ (handler.step env j).2.events) :
    Announces handler.channels (.lsps2Service ev) := by
  obtain ⟨call, cm, now⟩ := j
  cases call with
  | htlcIntercepted scid id amount hash =>
    simp only [LSPS2ServiceHandler.step, LSPS2ServiceHandler.htlcIntercepted] at hev
    split at hev
    · split at hev
      · next ps hps =>
        split at hev
        · next ch hch =>
          -- Of all an HTLC makes a channel do, only opening it is announced.
          rcases hr : ch.htlcIntercepted ⟨id, amount, hash⟩ with
            ⟨ch', e | _ | (o | c | ⟨c, payment⟩)⟩
          all_goals simp only [hr] at hev
          · split at hev <;> cases hev
          · cases hev
          · obtain rfl := List.mem_singleton.1 hev
            exact announces_of_openChannel
              ((LSPS2ServiceHandler.channels_apply hps scid).trans hch) hr
          · cases hev
          · rw [ChannelManager.events_forwardPayment] at hev
            cases hev
        · cases hev
      · cases hev
    · cases hev
  | handleMessage message p => exact absurd rfl (hj message p)
  | _ =>
    simp only [LSPS2ServiceHandler.step, LSPS2ServiceHandler.invalidTokenProvided,
      LSPS2ServiceHandler.openingFeeParamsGenerated, LSPS2ServiceHandler.respondGetInfo,
      LSPS2ServiceHandler.invoiceParametersGenerated, LSPS2ServiceHandler.htlcHandlingFailed,
      LSPS2ServiceHandler.paymentForwarded, LSPS2ServiceHandler.channelReady] at hev
    repeat' split at hev
    all_goals first | cases hev | (rw [ChannelManager.events_forwardPayment] at hev; cases hev)

/-- What a call of the user announces. -/
theorem announces_step (hpublic : i.call.IsPublic) {ev : Event}
    (hev : ev ∈ (s.step env serde i).1.pendingEvents) :
    ev ∈ s.pendingEvents ∨ Announces s.channels ev := by
  obtain ⟨call, cm, now, entropy⟩ := i
  cases call with
  | handleCustomMessage | getAndClearPendingMsg => exact hpublic.elim
  | nextEvent => exact .inl (List.mem_of_mem_tail hev)
  | getAndClearPendingEvents => cases hev
  | listProtocols p => exact .inl ((List.append_nil s.pendingEvents) ▸ hev)
  | requestOpeningParams p token =>
    simp only [step] at hev
    split at hev
    · exact .inl ((List.append_nil s.pendingEvents) ▸ hev)
    · exact .inl hev
  | selectOpeningParams p size params =>
    simp only [step, LSPS2ClientHandler.selectOpeningParams] at hev
    split at hev
    · refine .inl ((List.mem_append.1 hev).resolve_right fun hev => ?_)
      split at hev <;> cases hev
    · exact .inl hev
  | service call =>
    simp only [step] at hev
    split at hev
    · next handler hhandler =>
      refine (List.mem_append.1 hev).imp_right fun hev => ?_
      obtain ⟨ev', hev', rfl⟩ := List.mem_map.1 hev
      rw [channels_eq hhandler]
      exact announces_service call.ne_handleMessage hev'
    · exact .inl hev

/-- A request of the client to buy a channel is entered by the call that makes it. -/
theorem buyRequests_step (hpublic : i.call.IsPublic) {k : PublicKey × RequestId}
    {ch : InboundJITChannel} (hk : (s.step env serde i).1.buyRequests k = some ch) :
    s.buyRequests k = some ch ∨
      ∃ params, Made.Asks (s, i) k.1 k.2 (.buy ⟨params, ch.paymentSizeMsat⟩) := by
  obtain ⟨call, cm, now, entropy⟩ := i
  cases call with
  | handleCustomMessage | getAndClearPendingMsg => exact hpublic.elim
  | nextEvent | getAndClearPendingEvents | listProtocols => exact .inl hk
  | requestOpeningParams p token =>
    simp only [step] at hk
    split at hk
    · next handler hhandler =>
      rw [buyRequests_eq hhandler]
      have hcall := handler.buyRequests_of_step
        (.requestOpeningParams (generateRequestId entropy) p token) hk
      rcases hcall with hk | ⟨params, ⟨⟩⟩
      exact .inl hk
    · exact .inl hk
  | selectOpeningParams p size params =>
    simp only [step] at hk
    split at hk
    · next handler hhandler =>
      rw [buyRequests_eq hhandler]
      have hcall := handler.buyRequests_of_step
        (.selectOpeningParams (generateRequestId entropy) p size params) hk
      rcases hcall with hk | ⟨params', hcall⟩
      · exact .inl hk
      · obtain ⟨hid, rfl, rfl, rfl⟩ := ClientCall.selectOpeningParams.inj hcall
        exact .inr ⟨params, hid.symm, rfl⟩
    · exact .inl hk
  | service call =>
    simp only [step] at hk
    split at hk
    · exact .inl hk
    · exact .inl hk

/-- A channel is created by the call that sells it. -/
theorem exists_sells_of_created {handler : LSPS2ServiceHandler}
    (h : s.lsps2ServiceHandler = some handler) {call : UserCall} (hcall : i.call = .service call)
    {k : PublicKey × Scid} {ch : OutboundJITChannel}
    (hcreated : handler.created call.call = some (k, ch)) :
    ∃ requestId result, Made.Sells (s, i) k.1 requestId ⟨ch.openingFeeParams, ch.paymentSizeMsat⟩
      result ch.userChannelId k.2 := by
  have hself : s.serviceRequests = handler.requests := serviceRequests_eq h
  generalize hsc : call.call = sc at hcreated
  cases sc with
  | invoiceParametersGenerated p requestId scid cltvExpiryDelta clientTrustsLsp userChannelId =>
    simp only [LSPS2ServiceHandler.created] at hcreated
    split at hcreated
    · next req hreq =>
      obtain ⟨rfl, rfl⟩ := Prod.mk.inj (Option.some.inj hcreated)
      exact ⟨requestId, ⟨.ofScid scid, cltvExpiryDelta, clientTrustsLsp⟩,
        (congrFun hself _).trans hreq, rfl, call, hcall, hsc⟩
    · cases hcreated
  | _ => cases hcreated

/-- A channel is stored by the call that sells it, and only its state changes from then on. -/
theorem channels_step (hpublic : i.call.IsPublic) {k : PublicKey × Scid}
    {ch : OutboundJITChannel} (hk : (s.step env serde i).1.channels k = some ch) :
    (∃ ch₀, s.channels k = some ch₀ ∧ ch = { ch₀ with state := ch.state }) ∨
      ∃ requestId result, Made.Sells (s, i) k.1 requestId ⟨ch.openingFeeParams, ch.paymentSizeMsat⟩
        result ch.userChannelId k.2 := by
  obtain ⟨call, cm, now, entropy⟩ := i
  cases call with
  | handleCustomMessage | getAndClearPendingMsg => exact hpublic.elim
  | nextEvent | getAndClearPendingEvents | listProtocols => exact .inl ⟨ch, hk, rfl⟩
  | requestOpeningParams | selectOpeningParams =>
    simp only [step] at hk
    split at hk
    · exact .inl ⟨ch, hk, rfl⟩
    · exact .inl ⟨ch, hk, rfl⟩
  | service call =>
    simp only [step] at hk
    split at hk
    · next handler hhandler =>
      have hrequests : s.serviceRequests = handler.requests := serviceRequests_eq hhandler
      replace hk : (handler.step env ⟨call.call, cm, now⟩).1.channels k = some ch := hk
      rw [channels_eq hhandler]
      -- Only the sale of a channel stores one: operations on channels change their states.
      cases handler.channelsStep_step env ⟨call.call, cm, now⟩ with
      | keep h => exact .inl ⟨ch, h ▸ hk, rfl⟩
      | create h _ hcreated =>
        rw [h] at hk
        rcases PartialMap.insert_eq_some.1 hk with ⟨rfl, rfl⟩ | ⟨-, hk⟩
        · exact .inr (exists_sells_of_created hhandler rfl hcreated)
        · exact .inl ⟨ch, hk, rfl⟩
      | @operate k' op ch' h hch' =>
        rw [h] at hk
        rcases PartialMap.insert_eq_some.1 hk with ⟨rfl, rfl⟩ | ⟨-, hk⟩
        · exact .inl ⟨ch', hch', ch'.step_fst op⟩
        · exact .inl ⟨ch, hk, rfl⟩
      | remove h =>
        rw [h] at hk
        exact .inl ⟨ch, (PartialMap.remove_eq_some.1 hk).2, rfl⟩
    · exact .inl ⟨ch, hk, rfl⟩

/-! ## Messages of peers -/

/-- What a message of a peer makes the manager report. -/
inductive Reports (s : LiquidityManager) (p : PublicKey) : LSPSMessage → Event → Prop
  | protocols {requestId : RequestId} {result : ListProtocolsResponse} :
      Reports s p (.lsps0 (.response requestId (.listProtocols result)))
        (.lsps0Client (.listProtocolsResponse p result.protocols))
  | getInfo {requestId : RequestId} {params : GetInfoRequest} :
      Reports s p (.lsps2 (.request requestId (.getInfo params)))
        (.lsps2Service (.getInfo requestId p params.token))
  | buyRequest {requestId : RequestId} {req : BuyRequest} :
      Reports s p (.lsps2 (.request requestId (.buy req)))
        (.lsps2Service (.buyRequest requestId p req.openingFeeParams req.paymentSizeMsat))
  | menu {requestId : RequestId} {result : GetInfoResponse} :
      Reports s p (.lsps2 (.response requestId (.getInfo result)))
        (.lsps2Client (.openingParametersReady requestId p result.openingFeeParamsMenu))
  | invoice {requestId : RequestId} {result : BuyResponse} {scid : Scid} {ch : InboundJITChannel}
      (h : s.buyRequests (p, requestId) = some ch)
      (hscid : result.interceptScid.toScid = some scid) :
      Reports s p (.lsps2 (.response requestId (.buy result)))
        (.lsps2Client (.invoiceParametersReady requestId p scid result.lspCltvExpiryDelta
          ch.paymentSizeMsat))

variable {now : UInt64} {p : PublicKey} {m : LSPSMessage}

/-- What a message makes the manager report is what it says. -/
theorem reports_handleLspsMessage {ev : Event}
    (hev : ev ∈ (s.handleLspsMessage env now m p).1.pendingEvents) :
    ev ∈ s.pendingEvents ∨ s.Reports p m ev := by
  rcases m with error | ⟨⟨requestId, request⟩ | ⟨requestId, result | error⟩⟩ |
    ⟨⟨requestId, request⟩ | ⟨requestId, response⟩⟩
  · exact .inl hev
  · obtain ⟨⟨⟩⟩ := request
    simp only [handleLspsMessage] at hev
    split at hev
    · exact .inl ((List.append_nil s.pendingEvents) ▸ hev)
    · exact .inl hev
  · refine (List.mem_append.1 hev).imp_right fun hev => ?_
    obtain rfl := List.mem_singleton.1 hev
    exact .protocols
  · exact .inl ((List.append_nil s.pendingEvents) ▸ hev)
  · simp only [handleLspsMessage] at hev
    split at hev
    · refine (List.mem_append.1 hev).imp_right fun hev => ?_
      obtain ⟨ev', hev', rfl⟩ := List.mem_map.1 hev
      -- A `buy` request is reported only if it passes all the checks.
      rcases request with params | req
      · obtain rfl := List.mem_singleton.1 hev'
        exact .getInfo
      · simp only [LSPS2ServiceHandler.handleMessage, LSPS2ServiceHandler.handleBuyRequest] at hev'
        repeat' split at hev'
        all_goals first | (obtain rfl := List.mem_singleton.1 hev'; exact .buyRequest) | cases hev'
    · exact .inl hev
  · simp only [handleLspsMessage] at hev
    split at hev
    · next handler hhandler =>
      refine (List.mem_append.1 hev).imp_right fun hev => ?_
      obtain ⟨ev', hev', rfl⟩ := List.mem_map.1 hev
      have heffect := handler.effect_step (.handleMessage (.response requestId response) p)
      replace hev' :
        ev' ∈ (handler.step (.handleMessage (.response requestId response) p)).2.events := hev'
      generalize (handler.step (.handleMessage (.response requestId response) p)).2 = out
        at heffect hev'
      generalize (handler.step (.handleMessage (.response requestId response) p)).1 = handler'
        at heffect
      generalize handler'.getInfoRequests = get, handler'.buyRequests = buy at heffect
      -- A response is reported only if its request is pending, and then with what was kept of it.
      cases heffect with
      | getInfo hrequest =>
        obtain rfl := List.mem_singleton.1 hev'
        exact .menu
      | buy hrequest hscid =>
        obtain rfl := List.mem_singleton.1 hev'
        exact .invoice ((congrFun (buyRequests_eq hhandler) _).trans hrequest) hscid
      | _ => cases hev'
    · exact .inl hev

/-- A message makes the manager answer a request, or refuse it. -/
theorem mem_pendingMessages_of_request {e : PublicKey × LSPSMessage}
    (he : e ∈ (s.handleLspsMessage env now m p).1.pendingMessages) :
    e ∈ s.pendingMessages ∨ ∃ requestId,
      (∃ result, e.2 = .lsps0 (.response requestId (.listProtocols result))) ∨
        ∃ error, e.2 = .lsps2 (.response requestId (.buyError error)) := by
  rcases m with error | ⟨⟨requestId, request⟩ | ⟨requestId, response⟩⟩ |
    ⟨⟨requestId, request⟩ | ⟨requestId, response⟩⟩
  · exact .inl he
  · obtain ⟨⟨⟩⟩ := request
    simp only [handleLspsMessage] at he
    split at he
    · refine (List.mem_append.1 he).imp_right fun he => ?_
      obtain rfl := List.mem_singleton.1 he
      exact ⟨requestId, .inl ⟨_, rfl⟩⟩
    · exact .inl he
  · refine .inl ((List.mem_append.1 he).resolve_right fun he => ?_)
    cases response <;> cases he
  · simp only [handleLspsMessage] at he
    split at he
    · next handler _ =>
      refine (List.mem_append.1 he).imp_right fun he => ?_
      obtain ⟨e', he', rfl⟩ := List.mem_map.1 he
      let j : ServiceInput := ⟨.handleMessage (.request requestId request) p, fun _ _ => .ok (), now⟩
      have hreplies : handler.Replies env j.call (handler.step env j).2.messages :=
        handler.replies_step env j
      replace he' : e' ∈ (handler.step env j).2.messages := he'
      generalize (handler.step env j).2.messages = messages at hreplies he'
      -- A request to the service is kept for the user to answer, or refused at once.
      cases hreplies with
      | none => cases he'
      | refuse =>
        obtain rfl := List.mem_singleton.1 he'
        exact ⟨requestId, .inr ⟨_, rfl⟩⟩
    · exact .inl he
  · simp only [handleLspsMessage] at he
    split at he
    · next handler _ =>
      refine .inl ((List.mem_append.1 he).resolve_right fun he => ?_)
      rw [handler.messages_handleMessage] at he
      cases he
    · exact .inl he

/-- A request that is kept is the one that is received. -/
theorem serviceRequests_handleLspsMessage {k : PublicKey × RequestId} {request : LSPS2Request}
    (hk : (s.handleLspsMessage env now m p).1.serviceRequests k = some request) :
    s.serviceRequests k = some request ∨ k.1 = p ∧ m = .lsps2 (.request k.2 request) := by
  rcases m with error | ⟨⟨requestId, request'⟩ | ⟨requestId, response⟩⟩ |
    ⟨⟨requestId, request'⟩ | ⟨requestId, response⟩⟩
  · exact .inl hk
  · obtain ⟨⟨⟩⟩ := request'
    simp only [handleLspsMessage] at hk
    split at hk
    · exact .inl hk
    · exact .inl hk
  · exact .inl hk
  · simp only [handleLspsMessage] at hk
    split at hk
    · next handler hhandler =>
      let j : ServiceInput :=
        ⟨.handleMessage (.request requestId request') p, fun _ _ => .ok (), now⟩
      have hrequests : handler.RequestsStep env j (handler.step env j).1.requests :=
        handler.requestsStep_step env j
      replace hk : (handler.step env j).1.requests k = some request := hk
      rw [serviceRequests_eq hhandler]
      -- The service keeps its requests as they are, takes one off, or keeps the one it received.
      rcases hrequests with h | h | ⟨h, hcall, -⟩
      · exact .inl (h ▸ hk)
      · rw [h] at hk
        exact .inl (PartialMap.remove_eq_some.1 hk).2
      · cases hcall
        rw [h] at hk
        rcases PartialMap.insert_eq_some.1 hk with ⟨rfl, rfl⟩ | ⟨-, hk⟩
        · exact .inr ⟨rfl, rfl⟩
        · exact .inl hk
    · exact .inl hk
  · simp only [handleLspsMessage] at hk
    split at hk
    · exact .inl hk
    · exact .inl hk

/-- Messages add nothing to the requests of the client, and leave the channels sold as they are. -/
theorem buyRequests_handleLspsMessage {k : PublicKey × RequestId} {ch : InboundJITChannel}
    (hk : (s.handleLspsMessage env now m p).1.buyRequests k = some ch) :
    s.buyRequests k = some ch := by
  rcases m with error | ⟨⟨requestId, request⟩ | ⟨requestId, response⟩⟩ |
    ⟨⟨requestId, request⟩ | ⟨requestId, response⟩⟩
  · exact hk
  · obtain ⟨⟨⟩⟩ := request
    simp only [handleLspsMessage] at hk
    split at hk
    · exact hk
    · exact hk
  · exact hk
  · simp only [handleLspsMessage] at hk
    split at hk
    · exact hk
    · exact hk
  · -- A response can only take a request off: none is entered but by the user's own call.
    simp only [handleLspsMessage] at hk
    split at hk
    · next handler hhandler =>
      rw [buyRequests_eq hhandler]
      have hcall := handler.buyRequests_of_step (.handleMessage (.response requestId response) p) hk
      rcases hcall with hk | ⟨params, ⟨⟩⟩
      exact hk
    · exact hk

theorem channels_handleLspsMessage (s : LiquidityManager) (env : Externals) (now : UInt64)
    (m : LSPSMessage) (p : PublicKey) :
    (s.handleLspsMessage env now m p).1.channels = s.channels := by
  rcases m with error | ⟨⟨requestId, request⟩ | ⟨requestId, response⟩⟩ |
    ⟨⟨requestId, request⟩ | ⟨requestId, response⟩⟩
  · rfl
  · obtain ⟨⟨⟩⟩ := request
    simp only [handleLspsMessage]
    split <;> rfl
  · rfl
  · simp only [handleLspsMessage]
    split
    · next handler hhandler =>
      rw [channels_eq hhandler]
      exact handler.channels_handleMessage now _ p
    · rfl
  · simp only [handleLspsMessage]
    split <;> rfl

/-! ## The service of a manager -/

/-- A message leaves the service as it is, or is handed to it. -/
theorem service_handleLspsMessage (env : Externals) (s : LiquidityManager) (now : UInt64)
    (m : LSPSMessage) (p : PublicKey) :
    (s.handleLspsMessage env now m p).1.lsps2ServiceHandler = s.lsps2ServiceHandler ∨
      ∃ handler j, s.lsps2ServiceHandler = some handler ∧
        (s.handleLspsMessage env now m p).1.lsps2ServiceHandler = some (handler.step env j).1 := by
  rcases m with error | ⟨⟨requestId, request⟩ | ⟨requestId, response⟩⟩ |
    ⟨⟨requestId, request⟩ | ⟨requestId, response⟩⟩
  · exact .inl rfl
  · simp only [handleLspsMessage]
    split <;> exact .inl rfl
  · exact .inl rfl
  · simp only [handleLspsMessage]
    split
    · next handler hhandler =>
      exact .inr ⟨handler, ⟨.handleMessage (.request requestId request) p, fun _ _ => .ok (), now⟩,
        hhandler, rfl⟩
    · exact .inl rfl
  · simp only [handleLspsMessage]
    split <;> exact .inl rfl

/-- A call leaves the service as it is, or is one to it. -/
theorem service_step (env : Externals) (serde : Serde) (s : LiquidityManager) (i : ManagerInput) :
    (s.step env serde i).1.lsps2ServiceHandler = s.lsps2ServiceHandler ∨
      ∃ handler j, s.lsps2ServiceHandler = some handler ∧
        (s.step env serde i).1.lsps2ServiceHandler = some (handler.step env j).1 := by
  obtain ⟨call, cm, now, entropy⟩ := i
  cases call with
  | handleCustomMessage payload p =>
    simp only [step, handleCustomMessage]
    split
    · exact .inl rfl
    · -- What is not read bans the peer, what is read is handled.
      rcases LSPSMessage.fromStrWithIdMap serde payload s.requestIdToMethodMap with ⟨_ | m, map⟩
      · exact .inl rfl
      · exact service_handleLspsMessage env { s with requestIdToMethodMap := map } now m p
  | getAndClearPendingMsg | nextEvent | getAndClearPendingEvents | listProtocols => exact .inl rfl
  | requestOpeningParams | selectOpeningParams =>
    simp only [step]
    split <;> exact .inl rfl
  | service call =>
    simp only [step]
    split
    · next handler hhandler => exact .inr ⟨handler, ⟨call.call, cm, now⟩, hhandler, rfl⟩
    · exact .inl rfl

/-- A text that is read is handled as the message. -/
theorem handleCustomMessage_of_read (env : Externals) (now : UInt64) {text : String}
    (hignored : s.ignoredPeers p = none)
    (hread : (LSPSMessage.fromStrWithIdMap serde text s.requestIdToMethodMap).1 = some m) :
    s.handleCustomMessage env serde now text p =
      ({ s with requestIdToMethodMap :=
          (LSPSMessage.fromStrWithIdMap serde text s.requestIdToMethodMap).2 } :
        LiquidityManager).handleLspsMessage env now m p := by
  rw [handleCustomMessage, hignored]
  generalize LSPSMessage.fromStrWithIdMap serde text s.requestIdToMethodMap = read at hread ⊢
  obtain ⟨_, map⟩ := read
  obtain rfl := hread
  rfl

end LiquidityManager

end LightningLiquidity
