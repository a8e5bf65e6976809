import LightningLiquidity.Lsps0.RoundTrip
import LightningLiquidity.Lsps2.Client.Effects
import LightningLiquidity.Lsps2.Service.Replies
import LightningLiquidity.Manager

/-!
# What calls do to the manager

The manager keeps the requests it has sent in two places, the map of their methods and
the client (`LiquidityManager.Expects`), and the requests it has to answer in the service
(`LiquidityManager.serviceRequests`).

* `publicStep_step`: a call of the user enqueues a request, or a response to a request that
  is kept, or nothing.
* `requestStep_handleLspsMessage`: a request is answered, kept or dropped.
* `responseStep_handleLspsMessage`: a response that is expected is accepted.
* `handleCustomMessage_serialize`: the text of a message is handled as the message.
-/

namespace LightningLiquidity

/-! ## Messages -/

/-- The method a response answers. -/
def LSPS2Response.method : LSPS2Response → LSPSMethod
  | getInfo _ | getInfoError _ => .lsps2GetInfo
  | buy _ | buyError _ => .lsps2Buy

namespace LSPSMessage

/-- The id of a request. -/
def requestId? (m : LSPSMessage) : Option RequestId := m.getRequestIdAndMethod.map Prod.fst

/-- The id of a response. -/
def responseId? (m : LSPSMessage) : Option RequestId := m.getResponseIdAndMethod.map Prod.fst

@[simp] theorem getResponseIdAndMethod_lsps2 (requestId : RequestId) (response : LSPS2Response) :
    (lsps2 (.response requestId response)).getResponseIdAndMethod =
      some (requestId, response.method) := by
  cases response <;> rfl

/-- A message that a manager sends: a request or a response, of a short channel id that can
    be read, and an expiry not before the epoch. -/
def Proper : LSPSMessage → Prop
  | invalid _ => False
  | lsps2 (.request _ (.buy params)) => 0 ≤ params.openingFeeParams.validUntil.timestamp
  | lsps2 (.response _ (.buy result)) => result.interceptScid.toScid.isSome
  | _ => True

theorem Proper.validError {m : LSPSMessage} (h : m.Proper) : m.ValidError := by
  cases m with
  | invalid error => exact h.elim
  | lsps0 message => trivial
  | lsps2 message => trivial

/-- A message is a request or a response. -/
theorem Proper.request_or_response {m : LSPSMessage} (h : m.Proper) :
    (∃ requestId method, m.getRequestIdAndMethod = some (requestId, method) ∧
      m.getResponseIdAndMethod = none) ∨
    ∃ requestId method, m.getResponseIdAndMethod = some (requestId, method) ∧
      m.getRequestIdAndMethod = none := by
  rcases m with error | ⟨⟨requestId, request⟩ | ⟨requestId, response⟩⟩ |
    ⟨⟨requestId, request⟩ | ⟨requestId, response⟩⟩
  · exact h.elim
  · exact .inl ⟨_, _, rfl, rfl⟩
  · exact .inr ⟨_, _, rfl, rfl⟩
  · exact .inl ⟨_, _, rfl, rfl⟩
  · exact .inr ⟨_, _, getResponseIdAndMethod_lsps2 .., rfl⟩

end LSPSMessage

/-! ## The client -/

namespace LSPS2ClientHandler

/-- A request of a method is pending. -/
def Awaits (s : LSPS2ClientHandler) (p : PublicKey) (requestId : RequestId) : LSPSMethod → Prop
  | .lsps0ListProtocols => False
  | .lsps2GetInfo => (s.getInfoRequests (p, requestId)).isSome
  | .lsps2Buy => (s.buyRequests (p, requestId)).isSome

variable {s : LSPS2ClientHandler} {p : PublicKey} {requestId : RequestId} {method : LSPSMethod}

/-- A request stays pending until a response under its id is handled. -/
theorem Awaits.step (h : s.Awaits p requestId method) {call : ClientCall}
    (hne : ∀ requestId' response p',
      call = .handleMessage (.response requestId' response) p' → requestId' ≠ requestId) :
    (s.step call).1.Awaits p requestId method := by
  have heffect := s.effect_step call
  have hkey {p' : PublicKey} {requestId' : RequestId} (h : requestId' ≠ requestId) :
      (p, requestId) ≠ (p', requestId') := fun heq => h (Prod.mk.inj heq).2.symm
  have hinsert {β : Type} {m : PartialMap (PublicKey × RequestId) β} {k : PublicKey × RequestId}
      {b : β} (h : (m (p, requestId)).isSome) : (m.insert k b (p, requestId)).isSome := by
    by_cases hk : (p, requestId) = k
    · rw [hk, PartialMap.insert_self]
      rfl
    · rwa [PartialMap.insert_of_ne _ _ hk]
  rw [Awaits.eq_def] at h ⊢
  cases method with
  | lsps0ListProtocols => exact h
  | lsps2GetInfo =>
    dsimp only at h ⊢
    generalize (s.step call).1.getInfoRequests = get, (s.step call).1.buyRequests = buy,
      (s.step call).2 = out at heffect ⊢
    cases heffect with
    | askGetInfo => exact hinsert h
    | getInfo | getInfoError => rwa [PartialMap.remove_of_ne _ (hkey (hne _ _ _ rfl))]
    | _ => exact h
  | lsps2Buy =>
    dsimp only at h ⊢
    generalize (s.step call).1.getInfoRequests = get, (s.step call).1.buyRequests = buy,
      (s.step call).2 = out at heffect ⊢
    cases heffect with
    | askBuy | askAgain => exact hinsert h
    | buy | buyInvalid | buyError => rwa [PartialMap.remove_of_ne _ (hkey (hne _ _ _ rfl))]
    | _ => exact h

/-- A request that is sent is pending. -/
theorem awaits_requestOpeningParams (s : LSPS2ClientHandler) (requestId : RequestId) (p : PublicKey)
    (token : Option String) :
    (s.requestOpeningParams requestId p token).1.Awaits p requestId .lsps2GetInfo := by
  have heffect := s.effect_requestOpeningParams requestId p token
  rw [Awaits]
  generalize (s.requestOpeningParams requestId p token).1.getInfoRequests = get,
    (s.requestOpeningParams requestId p token).1.buyRequests = buy,
    (s.requestOpeningParams requestId p token).2 = out at heffect ⊢
  cases heffect
  rw [PartialMap.insert_self]
  rfl

theorem awaits_selectOpeningParams (s : LSPS2ClientHandler) (requestId : RequestId) (p : PublicKey)
    (size : Option UInt64) (params : OpeningFeeParams) :
    (s.selectOpeningParams requestId p size params).1.Awaits p requestId .lsps2Buy := by
  have heffect := s.effect_selectOpeningParams requestId p size params
  rw [Awaits]
  generalize (s.selectOpeningParams requestId p size params).1.getInfoRequests = get,
    (s.selectOpeningParams requestId p size params).1.buyRequests = buy,
    (s.selectOpeningParams requestId p size params).2 = out at heffect ⊢
  cases heffect with
  | askBuy | askAgain =>
    rw [PartialMap.insert_self]
    rfl

/-- A request to buy is sent, unless its id is that of another. -/
theorem messages_selectOpeningParams (s : LSPS2ClientHandler) (requestId : RequestId)
    (p : PublicKey) (size : Option UInt64) (params : OpeningFeeParams) :
    (s.selectOpeningParams requestId p size params).2.messages = [] ∨
      (s.selectOpeningParams requestId p size params).2.messages =
        [(p, .request requestId (.buy ⟨params, size⟩))] := by
  simp only [selectOpeningParams]
  split
  · exact .inl rfl
  · exact .inr rfl

/-- A response that is awaited is accepted. -/
theorem Awaits.result_eq_ok {response : LSPS2Response} (h : s.Awaits p requestId response.method)
    (hscid : ∀ result, response = .buy result → result.interceptScid.toScid.isSome) :
    (s.handleMessage (.response requestId response) p).2.result = .ok := by
  have heffect := s.effect_step (.handleMessage (.response requestId response) p)
  have hexpects : s.Expects p requestId response := by
    cases response <;> exact h
  show (s.step (.handleMessage (.response requestId response) p)).2.result = .ok
  generalize (s.step (.handleMessage (.response requestId response) p)).1.getInfoRequests = get,
    (s.step (.handleMessage (.response requestId response) p)).1.buyRequests = buy,
    (s.step (.handleMessage (.response requestId response) p)).2 = out at heffect ⊢
  cases heffect with
  | getInfo | getInfoError | buy | buyError => rfl
  | buyInvalid hpending hnone =>
    have hsome := hscid _ rfl
    rw [hnone] at hsome
    cases hsome
  | unknown hunknown => exact absurd hexpects hunknown

end LSPS2ClientHandler

/-! ## The manager -/

namespace LiquidityManager

/-- The request a call sends: to whom, under which id, and of which method. -/
def ManagerInput.request? (i : ManagerInput) : Option (PublicKey × RequestId × LSPSMethod) :=
  match i.call with
  | .listProtocols p => some (p, generateRequestId i.entropy, .lsps0ListProtocols)
  | .requestOpeningParams p _ => some (p, generateRequestId i.entropy, .lsps2GetInfo)
  | .selectOpeningParams p _ _ => some (p, generateRequestId i.entropy, .lsps2Buy)
  | _ => none

/-- The parameters a call selects do not expire before the epoch. -/
def ManagerInput.SelectsAfterEpoch (i : ManagerInput) : Prop :=
  ∀ p size params, i.call = .selectOpeningParams p size params → 0 ≤ params.validUntil.timestamp

/-- A call of the user: any but those the messages of peers are brought with. -/
def ManagerCall.IsPublic : ManagerCall → Prop
  | .handleCustomMessage .. | .getAndClearPendingMsg => False
  | _ => True

/-- The requests of peers that are not answered yet. -/
def serviceRequests (s : LiquidityManager) : PartialMap (PublicKey × RequestId) LSPS2Request :=
  s.lsps2ServiceHandler.elim .empty LSPS2ServiceHandler.requests

/-- A response to a request of a method is expected of a peer. The client of LSPS0 takes
    any. -/
def Expects (s : LiquidityManager) (p : PublicKey) (requestId : RequestId) (method : LSPSMethod) :
    Prop :=
  method = .lsps0ListProtocols ∨
    ∃ handler, s.lsps2ClientHandler = some handler ∧ handler.Awaits p requestId method

/-- What a call neither of the user nor of a request of a peer changes. -/
structure Keeps (s s' : LiquidityManager) : Prop where
  ignoredPeers : s'.ignoredPeers = s.ignoredPeers
  requestIdToMethodMap : s'.requestIdToMethodMap = s.requestIdToMethodMap
  expects : ∀ p requestId method, s.Expects p requestId method → s'.Expects p requestId method

/-- What a call of the user can do. -/
inductive PublicStep (s s' : LiquidityManager) (i : ManagerInput) : Prop
  | quiet (hpending : s'.pendingMessages = s.pendingMessages)
      (hrequests : ∀ k request, s'.serviceRequests k = some request →
        s.serviceRequests k = some request)
  | ask {p : PublicKey} {m : LSPSMessage} {requestId : RequestId} {method : LSPSMethod}
      (hasked : i.request? = some (p, requestId, method))
      (hm : m.getRequestIdAndMethod = some (requestId, method)) (hproper : m.Proper)
      (hpending : s'.pendingMessages = s.pendingMessages ++ [(p, m)])
      (hrequests : s'.serviceRequests = s.serviceRequests)
      (hexpects : s'.Expects p requestId method)
  | answer {p : PublicKey} {m : LSPSMessage} {requestId : RequestId} {request : LSPS2Request}
      (hrequest : s.serviceRequests (p, requestId) = some request)
      (hm : m.getResponseIdAndMethod = some (requestId, .ofLSPS2Request request))
      (hproper : m.Proper) (hpending : s'.pendingMessages = s.pendingMessages ++ [(p, m)])
      (hrequests : s'.serviceRequests = s.serviceRequests.remove (p, requestId))

/-- What a request of a peer can do. -/
inductive RequestStep (p : PublicKey) (requestId : RequestId) (method : LSPSMethod)
    (s s' : LiquidityManager) : Prop
  | drop (hpending : s'.pendingMessages = s.pendingMessages)
      (hrequests : s'.serviceRequests = s.serviceRequests)
  | keep {request : LSPS2Request} (hmethod : .ofLSPS2Request request = method)
      (hpending : s'.pendingMessages = s.pendingMessages)
      (hrequests : s'.serviceRequests = s.serviceRequests.insert (p, requestId) request)
  | answer {m : LSPSMessage} (hm : m.getResponseIdAndMethod = some (requestId, method))
      (hproper : m.Proper) (hpending : s'.pendingMessages = s.pendingMessages ++ [(p, m)])
      (hrequests : s'.serviceRequests = s.serviceRequests)

/-- What a response of a peer can do. -/
structure ResponseStep (requestId : RequestId) (s s' : LiquidityManager) : Prop where
  pendingMessages : s'.pendingMessages = s.pendingMessages
  serviceRequests : s'.serviceRequests = s.serviceRequests
  ignoredPeers : s'.ignoredPeers = s.ignoredPeers
  requestIdToMethodMap : s'.requestIdToMethodMap = s.requestIdToMethodMap
  expects : ∀ p' requestId' method', requestId' ≠ requestId → s.Expects p' requestId' method' →
    s'.Expects p' requestId' method'

variable {env : Externals} {serde : Serde} {s s' : LiquidityManager} {p : PublicKey}
  {requestId : RequestId} {method : LSPSMethod}

theorem Expects.of_client_eq (h : s.Expects p requestId method)
    (heq : s'.lsps2ClientHandler = s.lsps2ClientHandler) : s'.Expects p requestId method := by
  rwa [Expects, heq]

theorem Expects.finishLsps2Client {handler : LSPS2ClientHandler} (h : s.Expects p requestId method)
    (hhandler : s.lsps2ClientHandler = some handler) (call : ClientCall)
    (hne : ∀ requestId' response p',
      call = .handleMessage (.response requestId' response) p' → requestId' ≠ requestId) :
    (s.finishLsps2Client (handler.step call)).1.Expects p requestId method := by
  rcases h with h | ⟨handler', hhandler', h⟩
  · exact .inl h
  · obtain rfl := Option.some.inj (hhandler.symm.trans hhandler')
    exact .inr ⟨_, rfl, h.step hne⟩

/-- A call that leaves the client as it is. -/
theorem Keeps.of_client_eq (hignored : s'.ignoredPeers = s.ignoredPeers)
    (hmap : s'.requestIdToMethodMap = s.requestIdToMethodMap)
    (hclient : s'.lsps2ClientHandler = s.lsps2ClientHandler) : Keeps s s' :=
  ⟨hignored, hmap, fun _ _ _ h => h.of_client_eq hclient⟩

theorem serviceRequests_eq {handler : LSPS2ServiceHandler}
    (h : s.lsps2ServiceHandler = some handler) : s.serviceRequests = handler.requests := by
  rw [serviceRequests, h, Option.elim_some]

/-- A call of the user to the service. -/
theorem publicStep_service {handler : LSPS2ServiceHandler}
    (h : s.lsps2ServiceHandler = some handler) {i : ManagerInput} {j : ServiceInput}
    (hj : ∀ message p, j.call ≠ .handleMessage message p) :
    PublicStep s (s.finishLsps2Service (handler.step env j)).1 i := by
  have hreplies := handler.replies_step env j
  have hrequests : (s.finishLsps2Service (handler.step env j)).1.serviceRequests =
      (handler.step env j).1.requests := rfl
  have hpending : (s.finishLsps2Service (handler.step env j)).1.pendingMessages =
      s.pendingMessages ++ (handler.step env j).2.messages.map fun (p, m) => (p, .lsps2 m) := rfl
  obtain ⟨call, cm, now⟩ := j
  generalize hmessages : (handler.step env ⟨call, cm, now⟩).2.messages = messages at hreplies hpending
  -- Whatever is replied, the request is taken off first.
  cases hreplies with
  | none =>
    refine .quiet (hpending.trans (List.append_nil _)) fun k request hk => ?_
    rw [serviceRequests_eq h]
    rw [hrequests] at hk
    rcases handler.requestsStep_step env ⟨call, cm, now⟩ with heq | heq | ⟨-, hcall, -⟩
    · rwa [heq] at hk
    · rw [heq] at hk
      exact (PartialMap.remove_eq_some.1 hk).2
    · exact absurd hcall (hj _ _)
  | invalidToken hrequest =>
    refine .answer ((congrFun (serviceRequests_eq h) _).trans hrequest) rfl ?_ hpending ?_
    · trivial
    · rw [hrequests, serviceRequests_eq h]
      exact LSPS2ServiceHandler.requests_respondGetInfo ..
  | menu hrequest =>
    refine .answer ((congrFun (serviceRequests_eq h) _).trans hrequest) rfl ?_ hpending ?_
    · trivial
    · rw [hrequests, serviceRequests_eq h]
      exact LSPS2ServiceHandler.requests_respondGetInfo ..
  | invoice hrequest =>
    refine .answer ((congrFun (serviceRequests_eq h) _).trans hrequest) rfl ?_ hpending ?_
    · -- The short channel id is written in the format that is read back.
      rw [LSPSMessage.Proper, InterceptScid.toScid_ofScid]
      rfl
    · rw [hrequests, serviceRequests_eq h]
      exact LSPS2ServiceHandler.requests_invoiceParametersGenerated ..
  | refuse => exact absurd rfl (hj _ _)

/-- What a call of the user does. -/
theorem publicStep_step (env : Externals) (serde : Serde) (s : LiquidityManager) {i : ManagerInput}
    (hpublic : i.call.IsPublic) (hdates : i.SelectsAfterEpoch) :
    Keeps s (s.step env serde i).1 ∧ PublicStep s (s.step env serde i).1 i := by
  obtain ⟨call, cm, now, entropy⟩ := i
  cases call with
  | handleCustomMessage | getAndClearPendingMsg => exact hpublic.elim
  | nextEvent | getAndClearPendingEvents =>
    exact ⟨.of_client_eq rfl rfl rfl, .quiet rfl fun _ _ h => h⟩
  | listProtocols p =>
    refine ⟨.of_client_eq rfl rfl rfl, .ask rfl rfl ?_ rfl rfl (.inl rfl)⟩
    trivial
  -- A request is enqueued together with the entry that lets its answer be expected.
  | requestOpeningParams p token =>
    simp only [step]
    split
    · next handler hhandler =>
      refine ⟨⟨rfl, rfl, fun _ _ _ h => h.finishLsps2Client hhandler
        (.requestOpeningParams (generateRequestId entropy) p token) ?_⟩, ?_⟩
      · rintro _ _ _ ⟨⟩
      · refine .ask rfl rfl ?_ rfl rfl (.inr ⟨_, rfl, handler.awaits_requestOpeningParams ..⟩)
        trivial
    · exact ⟨.of_client_eq rfl rfl rfl, .quiet rfl fun _ _ h => h⟩
  | selectOpeningParams p size params =>
    simp only [step]
    split
    · next handler hhandler =>
      refine ⟨⟨rfl, rfl, fun _ _ _ h => h.finishLsps2Client hhandler
        (.selectOpeningParams (generateRequestId entropy) p size params) ?_⟩, ?_⟩
      · rintro _ _ _ ⟨⟩
      · have hpending : (s.finishLsps2Client (handler.selectOpeningParams (generateRequestId entropy) p
            size params)).1.pendingMessages = s.pendingMessages ++ (handler.selectOpeningParams
              (generateRequestId entropy) p size params).2.messages.map fun (p, m) => (p, .lsps2 m) :=
          rfl
        -- Selecting an offer sends nothing if the id is in use.
        rcases handler.messages_selectOpeningParams (generateRequestId entropy) p size params with
          hmessages | hmessages
        · rw [hmessages] at hpending
          exact .quiet (hpending.trans (List.append_nil _)) fun _ _ h => h
        · rw [hmessages] at hpending
          refine .ask rfl rfl ?_ hpending rfl (.inr ⟨_, rfl, handler.awaits_selectOpeningParams ..⟩)
          exact hdates p size params rfl
    · exact ⟨.of_client_eq rfl rfl rfl, .quiet rfl fun _ _ h => h⟩
  | service call =>
    simp only [step]
    split
    · next handler hhandler =>
      exact ⟨.of_client_eq rfl rfl rfl, publicStep_service hhandler call.ne_handleMessage⟩
    · exact ⟨.of_client_eq rfl rfl rfl, .quiet rfl fun _ _ h => h⟩

/-- A request to buy a channel is refused, or dropped, or kept. -/
theorem requestStep_buy {handler : LSPS2ServiceHandler} (h : s.lsps2ServiceHandler = some handler)
    (env : Externals) (now : UInt64) (requestId : RequestId) (p : PublicKey) (req : BuyRequest) :
    RequestStep p requestId .lsps2Buy s
      (s.finishLsps2Service (handler.handleBuyRequest env now requestId p req)).1 := by
  have hself : s.serviceRequests = handler.requests := serviceRequests_eq h
  rw [LSPS2ServiceHandler.handleBuyRequest]
  split
  · refine .answer rfl ?_ rfl hself.symm
    trivial
  · split
    · exact .drop (List.append_nil _) hself.symm
    · refine .answer rfl ?_ rfl hself.symm
      trivial
    · have hmethod : LSPSMethod.ofLSPS2Request (.buy req) = .lsps2Buy := rfl
      refine .keep hmethod (List.append_nil _) ?_
      rw [hself]
      exact LSPS2ServiceHandler.requests_keepRequest ..

/-- What a request of a peer does. -/
theorem requestStep_handleLspsMessage (env : Externals) (now : UInt64) (s : LiquidityManager)
    {m : LSPSMessage} (p : PublicKey) (hm : m.getRequestIdAndMethod = some (requestId, method)) :
    Keeps s (s.handleLspsMessage env now m p).1 ∧
      RequestStep p requestId method s (s.handleLspsMessage env now m p).1 := by
  rcases m with error | ⟨⟨id, request⟩ | ⟨id, response⟩⟩ | ⟨⟨id, request⟩ | ⟨id, response⟩⟩
  · cases hm
  · obtain ⟨rfl, rfl⟩ := Prod.mk.inj (Option.some.inj hm)
    obtain ⟨⟨⟩⟩ := request
    simp only [handleLspsMessage]
    split
    · refine ⟨.of_client_eq rfl rfl rfl, .answer rfl ?_ rfl rfl⟩
      trivial
    · exact ⟨.of_client_eq rfl rfl rfl, .drop rfl rfl⟩
  · cases hm
  · obtain ⟨rfl, rfl⟩ := Prod.mk.inj (Option.some.inj hm)
    simp only [handleLspsMessage]
    split
    · next handler hhandler =>
      refine ⟨.of_client_eq rfl rfl rfl, ?_⟩
      rcases request with params | req
      · have hmethod : LSPSMethod.ofLSPS2Request (.getInfo params) = .lsps2GetInfo := rfl
        refine .keep hmethod (List.append_nil _) ?_
        rw [serviceRequests_eq hhandler]
        exact LSPS2ServiceHandler.requests_keepRequest ..
      · exact requestStep_buy hhandler env now id p req
    · exact ⟨.of_client_eq rfl rfl rfl, .drop rfl rfl⟩
  · cases hm

/-- What a response of a peer does, if it is expected: it is accepted, but for an error of
    LSPS0, which is reported. -/
theorem responseStep_handleLspsMessage (env : Externals) (now : UInt64) {m : LSPSMessage}
    (hm : m.getResponseIdAndMethod = some (requestId, method)) (hproper : m.Proper)
    (hexpects : s.Expects p requestId method) :
    ResponseStep requestId s (s.handleLspsMessage env now m p).1 ∧
      ((s.handleLspsMessage env now m p).2 = .ok ∨
        ∃ error, m = .lsps0 (.response requestId (.listProtocolsError error)) ∧
          (s.handleLspsMessage env now m p).2 = .err (.lsps0 (.listProtocolsErrorReceived error))) := by
  rcases m with error | ⟨⟨id, request⟩ | ⟨id, response⟩⟩ | ⟨⟨id, request⟩ | ⟨id, response⟩⟩
  · cases hm
  · cases hm
  · obtain ⟨rfl, rfl⟩ := Prod.mk.inj (Option.some.inj hm)
    rcases response with result | error
    · exact ⟨⟨List.append_nil _, rfl, rfl, rfl, fun _ _ _ _ h => h⟩, .inl rfl⟩
    · exact ⟨⟨List.append_nil _, rfl, rfl, rfl, fun _ _ _ _ h => h⟩, .inr ⟨error, rfl, rfl⟩⟩
  · cases hm
  · rw [LSPSMessage.getResponseIdAndMethod_lsps2] at hm
    obtain ⟨rfl, rfl⟩ := Prod.mk.inj (Option.some.inj hm)
    obtain hmethod | ⟨handler, hhandler, hawaits⟩ := hexpects
    · cases response <;> cases hmethod
    · simp only [handleLspsMessage, hhandler]
      refine ⟨⟨?_, rfl, rfl, rfl, fun p' requestId' method' hne h => ?_⟩, .inl ?_⟩
      · show s.pendingMessages ++ (handler.handleMessage _ p).2.messages.map _ = _
        rw [handler.messages_handleMessage]
        exact List.append_nil _
      · refine h.finishLsps2Client hhandler (.handleMessage (.response id response) p) ?_
        rintro _ _ _ ⟨⟩
        exact hne.symm
      · show (handler.handleMessage (.response id response) p).2.result.mapError _ = .ok
        rw [hawaits.result_eq_ok]
        · rfl
        · rintro result rfl
          exact hproper

/-- The text of a message is read as the message, and handled as it, if responses are to
    requests of their methods. -/
theorem handleCustomMessage_serialize (env : Externals) (now : UInt64) {m : LSPSMessage}
    (hignored : s.ignoredPeers p = none) (hserde : serde.RoundTrips m) (hproper : m.Proper)
    (hmap : m.AnsweredBy s.requestIdToMethodMap) {text : String}
    (htext : serde.writeJson (m.serialize serde) = some text) :
    (LSPSMessage.fromStrWithIdMap serde text s.requestIdToMethodMap).1 = some m ∧
      s.handleCustomMessage env serde now text p =
        ({ s with requestIdToMethodMap := m.mapAfter s.requestIdToMethodMap } :
          LiquidityManager).handleLspsMessage env now m p := by
  obtain ⟨text', htext', hparse⟩ := hserde.json
  obtain rfl := Option.some.inj (htext.symm.trans htext')
  have hfrom : LSPSMessage.fromStrWithIdMap serde text s.requestIdToMethodMap =
      (some m, m.mapAfter s.requestIdToMethodMap) :=
    (LSPSMessage.fromStrWithIdMap_eq_decode hparse _).trans
      (m.decode_serialize hserde.dates hproper.validError hmap)
  refine ⟨congrArg Prod.fst hfrom, ?_⟩
  rw [handleCustomMessage, hignored, hfrom]
  rfl

/-- The methods of the requests fetched. -/
def fetchedMethods (s : LiquidityManager) : List (RequestId × LSPSMethod) :=
  s.pendingMessages.filterMap fun e => e.2.getRequestIdAndMethod

theorem requestIdToMethodMap_getAndClearPendingMsg (serde : Serde) (s : LiquidityManager) :
    (s.getAndClearPendingMsg serde).1.requestIdToMethodMap =
      s.fetchedMethods.foldl (fun map e => map.insert e.1 e.2) s.requestIdToMethodMap := rfl

end LiquidityManager

end LightningLiquidity
