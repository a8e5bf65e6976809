import LightningLiquidity.Lsps2.Service.Answers
import LightningLiquidity.Manager.Honoured

/-!
# No request is lost

Of two managers, every request the user of one makes to the other is in exactly one place,
or its answer has been delivered, or it is lost, for one of two reasons
(`requests_conserved`): it was delivered to a manager without the service it is for
(`LiquidityManager.Unserved`), or the user of this service has answered it by a call for
requests of the other kind, which takes it off but is refused (`LiquidityManager.spoiled?`).
A panic would be a third one: what is kept behind a lock it poisons is out of reach. So this is
promised of runs whose calls all return.

Where requests are is counted as in the accounts of requests, but for the requests to one
peer (`places`). What a step adds to these counts it takes off elsewhere.
-/

namespace LightningLiquidity

open LSPSMessage LiquidityManager

/-! ## Answers of the service -/

/-- What a call of the user of the service does to the requests: it takes off the one it is for,
    if there is one, and answers it if it is of the right kind. -/
inductive LSPS2ServiceHandler.AnswersStep (s s' : LSPS2ServiceHandler) (call : ServiceCall) :
    List (PublicKey × LSPS2Message) → Prop
  | quiet (hcall : call.answers? = none) (h : s'.requests = s.requests) : AnswersStep s s' call []
  | answer {k : PublicKey × RequestId} {kind : RequestKind} {request : LSPS2Request}
      {response : LSPS2Response} (hcall : call.answers? = some (k, kind))
      (hrequest : s.requests k = some request) (hkind : request.kind = kind)
      (h : s'.requests = s.requests.remove k) :
      AnswersStep s s' call [(k.1, .response k.2 response)]
  | spoil {k : PublicKey × RequestId} {kind : RequestKind}
      (hcall : call.answers? = some (k, kind))
      (hrequest : ∀ request, s.requests k = some request → request.kind ≠ kind)
      (h : s'.requests = s.requests.remove k) : AnswersStep s s' call []

namespace LSPS2ServiceHandler

/-- Answering a `get_info` request. -/
theorem answersStep_respondGetInfo (s : LSPS2ServiceHandler) {call : ServiceCall} {p : PublicKey}
    {requestId : RequestId} (hcall : call.answers? = some ((p, requestId), .getInfo))
    (response : LSPS2Response) :
    s.AnswersStep (s.respondGetInfo p requestId response).1 call
      (s.respondGetInfo p requestId response).2.messages := by
  have hrequests := s.requests_respondGetInfo p requestId response
  generalize (s.respondGetInfo p requestId response).1 = s' at hrequests ⊢
  simp only [respondGetInfo]
  split
  · next ps hps =>
    have hself := s.requests_apply hps requestId
    split
    · next params h => exact .answer hcall (hself.trans h) rfl hrequests
    · next hno =>
      refine .spoil hcall (fun request hrequest hkind => ?_) hrequests
      cases request with
      | getInfo params => exact hno params (hself.symm.trans hrequest)
      | buy => cases hkind
  · next hps =>
    refine .spoil hcall (fun request hrequest => ?_) hrequests
    rw [s.requests_eq_none hps requestId] at hrequest
    cases hrequest

/-- A call that answers no request sends nothing. -/
theorem messages_of_answers?_eq_none (env : Externals) (s : LSPS2ServiceHandler) {i : ServiceInput}
    (hcall : i.call.answers? = none) (hi : ∀ message p, i.call ≠ .handleMessage message p) :
    (s.step env i).2.messages = [] := by
  have hreplies := s.replies_step env i
  generalize i.call = call, (s.step env i).2.messages = messages at hcall hi hreplies
  cases hreplies with
  | none => rfl
  | invalidToken | menu | invoice => cases hcall
  | refuse => exact absurd rfl (hi _ _)

/-- What a call of the user of the service does to the requests. -/
theorem answersStep_step (env : Externals) (s : LSPS2ServiceHandler) {i : ServiceInput}
    (hi : ∀ message p, i.call ≠ .handleMessage message p) :
    s.AnswersStep (s.step env i).1 i.call (s.step env i).2.messages := by
  obtain ⟨call, cm, now⟩ := i
  cases call with
  | invalidTokenProvided | openingFeeParamsGenerated => exact s.answersStep_respondGetInfo rfl _
  | invoiceParametersGenerated p requestId scid delta trusts userChannelId =>
    have hrequests := s.requests_invoiceParametersGenerated p requestId scid delta trusts
      userChannelId
    show s.AnswersStep (s.invoiceParametersGenerated p requestId scid delta trusts userChannelId).1 _
      (s.invoiceParametersGenerated p requestId scid delta trusts userChannelId).2.messages
    generalize (s.invoiceParametersGenerated p requestId scid delta trusts userChannelId).1 = s'
      at hrequests ⊢
    -- The request is removed before its kind is looked at: a `get_info` request is spoiled.
    simp only [invoiceParametersGenerated]
    split
    · next ps hps =>
      have hself := s.requests_apply hps requestId
      split
      · next req h => exact .answer rfl (hself.trans h) rfl hrequests
      · next hno =>
        refine .spoil rfl (fun request hrequest hkind => ?_) hrequests
        cases request with
        | getInfo => cases hkind
        | buy req => exact hno req (hself.symm.trans hrequest)
    · next hps =>
      refine .spoil rfl (fun request hrequest => ?_) hrequests
      rw [s.requests_eq_none hps requestId] at hrequest
      cases hrequest
  -- The calls about payments and channels leave the requests alone.
  | htlcIntercepted | htlcHandlingFailed | paymentForwarded | channelReady =>
    rw [messages_of_answers?_eq_none env s rfl hi]
    refine .quiet rfl ?_
    first
      | exact s.requests_htlcIntercepted ..
      | exact s.requests_htlcHandlingFailed ..
      | exact s.requests_paymentForwarded ..
      | exact s.requests_channelReady ..
  | handleMessage message p => exact absurd rfl (hi message p)

end LSPS2ServiceHandler

/-! ## Requests made and spoiled -/

/-- Selecting an offer sends a request iff it succeeds. -/
theorem LSPS2ClientHandler.sends_selectOpeningParams (s : LSPS2ClientHandler)
    (requestId : RequestId) (p : PublicKey) (size : Option UInt64) (params : OpeningFeeParams) :
    ((s.selectOpeningParams requestId p size params).2.result = .ok ∧
      (s.selectOpeningParams requestId p size params).2.messages =
        [(p, .request requestId (.buy ⟨params, size⟩))]) ∨
    ((s.selectOpeningParams requestId p size params).2.result ≠ .ok ∧
      (s.selectOpeningParams requestId p size params).2.messages = []) := by
  simp only [selectOpeningParams]
  split
  · exact .inr ⟨by simp, rfl⟩
  · exact .inl ⟨rfl, rfl⟩

namespace LiquidityManager

/-- The request a call makes, if the handler it is made to is configured and takes it. -/
def made? (s : LiquidityManager) (i : ManagerInput) : Option (PublicKey × RequestId) :=
  match i.call with
  | .listProtocols p => some (p, generateRequestId i.entropy)
  | .requestOpeningParams p _ =>
    s.lsps2ClientHandler.map fun _ => (p, generateRequestId i.entropy)
  | .selectOpeningParams p size params => s.lsps2ClientHandler.bind fun handler =>
    if (handler.selectOpeningParams (generateRequestId i.entropy) p size params).2.result = .ok then
      some (p, generateRequestId i.entropy) else none
  | _ => none

/-- The request a call takes off without an answer, as it is not of the kind the call answers. -/
def spoiled? (s : LiquidityManager) (i : ManagerInput) : Option (PublicKey × RequestId) :=
  match i.call with
  | .service call => call.call.answers?.bind fun e => (s.serviceRequests e.1).bind fun request =>
    if request.kind = e.2 then none else some e.1
  | _ => none

/-- A request for a service that is not configured. -/
def Unserved (s : LiquidityManager) : LSPSMessage → Prop
  | .lsps0 (.request ..) => s.lsps0ServiceHandler = none
  | .lsps2 (.request ..) => s.lsps2ServiceHandler = none
  | _ => False

instance (s : LiquidityManager) : ∀ m, Decidable (s.Unserved m)
  | .lsps0 (.request ..) => inferInstanceAs (Decidable (_ = none))
  | .lsps2 (.request ..) => inferInstanceAs (Decidable (_ = none))
  | .invalid _ | .lsps0 (.response ..) | .lsps2 (.response ..) => .isFalse id

/-- What a call of the user does to the requests made to peers, and to those of peers. -/
inductive CallStep (s s' : LiquidityManager) (i : ManagerInput) : Prop
  | quiet (hmade : s.made? i = none) (hspoiled : s.spoiled? i = none)
      (hpending : s'.pendingMessages = s.pendingMessages)
      (hrequests : s'.serviceRequests = s.serviceRequests)
  | make {p : PublicKey} {requestId : RequestId} {method : LSPSMethod} {m : LSPSMessage}
      (hmade : s.made? i = some (p, requestId)) (hspoiled : s.spoiled? i = none)
      (hm : m.getRequestIdAndMethod = some (requestId, method))
      (hpending : s'.pendingMessages = s.pendingMessages ++ [(p, m)])
      (hrequests : s'.serviceRequests = s.serviceRequests)
  | answer {p : PublicKey} {requestId : RequestId} {method : LSPSMethod} {m : LSPSMessage}
      (hmade : s.made? i = none) (hspoiled : s.spoiled? i = none)
      (hkept : (s.serviceRequests (p, requestId)).isSome)
      (hm : m.getResponseIdAndMethod = some (requestId, method))
      (hpending : s'.pendingMessages = s.pendingMessages ++ [(p, m)])
      (hrequests : s'.serviceRequests = s.serviceRequests.remove (p, requestId))
  | spoil {p : PublicKey} {requestId : RequestId} (hmade : s.made? i = none)
      (hspoiled : s.spoiled? i = some (p, requestId))
      (hkept : (s.serviceRequests (p, requestId)).isSome)
      (hpending : s'.pendingMessages = s.pendingMessages)
      (hrequests : s'.serviceRequests = s.serviceRequests.remove (p, requestId))

variable {env : Externals} {serde : Serde} {s s' : LiquidityManager} {i : ManagerInput}

/-- A call of the user to the service. -/
theorem callStep_service {handler : LSPS2ServiceHandler} (h : s.lsps2ServiceHandler = some handler)
    {call : UserCall} (hcall : i.call = .service call) :
    CallStep s (s.finishLsps2Service (handler.step env ⟨call.call, i.cm, i.now⟩)).1 i := by
  have hself : s.serviceRequests = handler.requests := serviceRequests_eq h
  have hmade : s.made? i = none := by rw [made?, hcall]
  have hstep := handler.answersStep_step env (i := ⟨call.call, i.cm, i.now⟩) call.ne_handleMessage
  generalize hr : handler.step env ⟨call.call, i.cm, i.now⟩ = r at hstep ⊢
  have hrequests : (s.finishLsps2Service r).1.serviceRequests = r.1.requests := rfl
  have hpending : (s.finishLsps2Service r).1.pendingMessages =
      s.pendingMessages ++ r.2.messages.map fun e => (e.1, .lsps2 e.2) := rfl
  generalize r.2.messages = messages at hstep hpending
  cases hstep with
  | quiet hanswers hkeeps =>
    refine .quiet hmade ?_ (hpending.trans (List.append_nil _))
      (hrequests.trans (hkeeps.trans hself.symm))
    rw [spoiled?, hcall]
    simp only [hanswers, Option.bind_none]
  -- The call is for a kept request of the kind it answers: the answer is queued.
  | @answer k kind request response hanswers hrequest hkind hremoves =>
    rw [← hself] at hrequest hremoves
    obtain ⟨p, requestId⟩ := k
    refine .answer hmade ?_ (Option.isSome_of_eq_some hrequest)
      (LSPSMessage.getResponseIdAndMethod_lsps2 ..) hpending (hrequests.trans hremoves)
    rw [spoiled?, hcall]
    simp only [hanswers, hrequest, hkind, Option.bind_some, if_true]
  -- The call is for a request of the other kind, which is spoiled, or for none at all.
  | @spoil k kind hanswers hother hremoves =>
    rw [← hself] at hremoves
    replace hpending := hpending.trans (List.append_nil _)
    obtain ⟨p, requestId⟩ := k
    cases hrequest : s.serviceRequests (p, requestId) with
    | none =>
      rw [PartialMap.remove_eq_self_iff.2 hrequest] at hremoves
      refine .quiet hmade ?_ hpending (hrequests.trans hremoves)
      rw [spoiled?, hcall]
      simp only [hanswers, hrequest, Option.bind_some, Option.bind_none]
    | some request =>
      have hne := hother request (hself ▸ hrequest)
      refine .spoil hmade ?_ (Option.isSome_of_eq_some hrequest) hpending (hrequests.trans hremoves)
      rw [spoiled?, hcall]
      simp only [hanswers, hrequest, Option.bind_some, if_neg hne]

/-- A call that selects an offer. -/
theorem callStep_selectOpeningParams {handler : LSPS2ClientHandler}
    (h : s.lsps2ClientHandler = some handler) {p : PublicKey} {size : Option UInt64}
    {params : OpeningFeeParams} (hcall : i.call = .selectOpeningParams p size params) :
    CallStep s (s.finishLsps2Client
      (handler.selectOpeningParams (generateRequestId i.entropy) p size params)).1 i := by
  have hsends := handler.sends_selectOpeningParams (generateRequestId i.entropy) p size params
  have hspoiled : s.spoiled? i = none := by rw [spoiled?, hcall]
  have hmade : s.made? i = if (handler.selectOpeningParams (generateRequestId i.entropy) p size
      params).2.result = .ok then some (p, generateRequestId i.entropy) else none := by
    simp only [made?, hcall, h, Option.bind_some]
  generalize handler.selectOpeningParams (generateRequestId i.entropy) p size params = r
    at hsends hmade ⊢
  have hpending : (s.finishLsps2Client r).1.pendingMessages =
      s.pendingMessages ++ r.2.messages.map fun e => (e.1, .lsps2 e.2) := rfl
  -- The handler refuses an id that is in use: then nothing is asked.
  rcases hsends with ⟨hresult, hmessages⟩ | ⟨hresult, hmessages⟩
  · rw [hmessages] at hpending
    rw [if_pos hresult] at hmade
    exact .make hmade hspoiled rfl hpending rfl
  · rw [hmessages] at hpending
    rw [if_neg hresult] at hmade
    exact .quiet hmade hspoiled (hpending.trans (List.append_nil _)) rfl

/-- What a call of the user does. -/
theorem callStep_step (env : Externals) (serde : Serde) (s : LiquidityManager)
    (hpublic : i.call.IsPublic) : CallStep s (s.step env serde i).1 i := by
  cases hcall : i.call with
  | handleCustomMessage | getAndClearPendingMsg =>
    rw [hcall] at hpublic
    exact hpublic.elim
  -- Taking events touches neither the messages queued nor the requests kept.
  | nextEvent | getAndClearPendingEvents =>
    simp only [step, hcall]
    exact .quiet (by rw [made?, hcall]) (by rw [spoiled?, hcall]) rfl rfl
  | listProtocols p =>
    have hmade : s.made? i = some (p, generateRequestId i.entropy) := by rw [made?, hcall]
    simp only [step, hcall]
    exact .make hmade (by rw [spoiled?, hcall]) rfl rfl rfl
  -- The methods of the handlers exist only where the handlers are configured.
  | requestOpeningParams p token =>
    have hmade : s.made? i =
        s.lsps2ClientHandler.map fun _ => (p, generateRequestId i.entropy) := by rw [made?, hcall]
    cases hhandler : s.lsps2ClientHandler with
    | none =>
      rw [hhandler] at hmade
      simp only [step, hcall, hhandler]
      exact .quiet hmade (by rw [spoiled?, hcall]) rfl rfl
    | some handler =>
      rw [hhandler] at hmade
      simp only [step, hcall, hhandler]
      exact .make hmade (by rw [spoiled?, hcall]) rfl rfl rfl
  | selectOpeningParams p size params =>
    cases hhandler : s.lsps2ClientHandler with
    | none =>
      simp only [step, hcall, hhandler]
      refine .quiet ?_ (by rw [spoiled?, hcall]) rfl rfl
      simp only [made?, hcall, hhandler, Option.bind_none]
    | some handler =>
      simp only [step, hcall, hhandler]
      exact callStep_selectOpeningParams hhandler hcall
  | service call =>
    cases hhandler : s.lsps2ServiceHandler with
    | none =>
      have hempty : s.serviceRequests = .empty := by
        rw [serviceRequests, hhandler]
        rfl
      simp only [step, hcall, hhandler]
      refine .quiet (by rw [made?, hcall]) ?_ rfl rfl
      simp only [spoiled?, hcall, hempty]
      cases call.call.answers? <;> rfl
    | some handler =>
      simp only [step, hcall, hhandler]
      exact callStep_service hhandler hcall

/-- What a request of a peer does: it is kept, or answered, unless it is for a service that is not
    configured. -/
inductive ServedStep (p : PublicKey) (requestId : RequestId) (m : LSPSMessage)
    (s s' : LiquidityManager) : Prop
  | unserved (h : s.Unserved m) (hpending : s'.pendingMessages = s.pendingMessages)
      (hrequests : s'.serviceRequests = s.serviceRequests)
  | keep {request : LSPS2Request} (h : ¬s.Unserved m)
      (hpending : s'.pendingMessages = s.pendingMessages)
      (hrequests : s'.serviceRequests = s.serviceRequests.insert (p, requestId) request)
  | answer {m' : LSPSMessage} {method : LSPSMethod} (h : ¬s.Unserved m)
      (hm : m'.getResponseIdAndMethod = some (requestId, method))
      (hpending : s'.pendingMessages = s.pendingMessages ++ [(p, m')])
      (hrequests : s'.serviceRequests = s.serviceRequests)

/-- What a request of a peer does, if it does not expire before the epoch. -/
theorem servedStep_handleLspsMessage (env : Externals) (now : UInt64) (s : LiquidityManager)
    {m : LSPSMessage} {requestId : RequestId} {method : LSPSMethod} (p : PublicKey)
    (hm : m.getRequestIdAndMethod = some (requestId, method)) (hproper : m.Proper) :
    ServedStep p requestId m s (s.handleLspsMessage env now m p).1 := by
  rcases m with error | ⟨⟨id, request⟩ | ⟨id, response⟩⟩ | ⟨⟨id, request⟩ | ⟨id, response⟩⟩
  · cases hm
  · -- `list_protocols` is answered at once.
    obtain ⟨rfl, rfl⟩ := Prod.mk.inj (Option.some.inj hm)
    obtain ⟨⟨⟩⟩ := request
    simp only [handleLspsMessage]
    split
    · next handler hhandler =>
      refine .answer (fun h => ?_) rfl rfl rfl
      cases hhandler.symm.trans h
    · next hnone => exact .unserved hnone rfl rfl
  · cases hm
  · obtain ⟨rfl, rfl⟩ := Prod.mk.inj (Option.some.inj hm)
    cases hhandler : s.lsps2ServiceHandler with
    | none =>
      simp only [handleLspsMessage, hhandler]
      exact .unserved hhandler rfl rfl
    | some handler =>
      have hserved : ¬s.Unserved (.lsps2 (.request id request)) := by
        intro h
        cases hhandler.symm.trans h
      -- A `get_info` request is kept, a `buy` request only if it is acceptable.
      rcases request with params | req
      · simp only [handleLspsMessage, hhandler]
        have hrequests := handler.requests_keepRequest p id (.getInfo params)
        rw [← serviceRequests_eq hhandler] at hrequests
        exact .keep hserved (List.append_nil _) hrequests
      · obtain ⟨htakes, hrefuses⟩ := handleLspsMessage_buy hhandler env now id p hproper
        by_cases hacceptable : req.Acceptable env handler.promiseSecret now
        · exact .keep hserved (htakes hacceptable).messages (htakes hacceptable).requests
        · obtain ⟨error, -, hpending⟩ := (hrefuses hacceptable).messages
          exact .answer hserved rfl hpending (hrefuses hacceptable).requests
  · cases hm

/-- What responses are read with does not matter. -/
theorem ServedStep.of_map {p : PublicKey} {requestId : RequestId} {m : LSPSMessage}
    {map : PartialMap RequestId LSPSMethod}
    (h : ServedStep p requestId m { s with requestIdToMethodMap := map } s') :
    ServedStep p requestId m s s' := by
  cases h with
  | unserved h hpending hrequests => exact .unserved h hpending hrequests
  | keep h hpending hrequests => exact .keep h hpending hrequests
  | answer h hm hpending hrequests => exact .answer h hm hpending hrequests

theorem not_unserved_of_response {m : LSPSMessage} {requestId : RequestId} {method : LSPSMethod}
    (hm : m.getResponseIdAndMethod = some (requestId, method)) : ¬s.Unserved m := by
  rcases m with error | ⟨⟨id, request⟩ | ⟨id, response⟩⟩ | ⟨⟨id, request⟩ | ⟨id, response⟩⟩
  · exact id
  · cases hm
  · exact fun h => h
  · cases hm
  · exact fun h => h

theorem queuedFor_eq {s s' : LiquidityManager} (h : s'.pendingMessages = s.pendingMessages)
    (p : PublicKey) : s'.queuedFor p = s.queuedFor p := by
  rw [queuedFor, queuedFor, h]

end LiquidityManager

/-! ## Places -/

/-- The id, if it is one for the peer. -/
def idsFor (p : PublicKey) : Option (PublicKey × RequestId) → List RequestId
  | some (q, requestId) => if q = p then [requestId] else []
  | none => []

theorem count_idsFor_some (p q : PublicKey) (requestId id : RequestId) :
    (idsFor q (some (p, requestId))).count id = if p = q ∧ requestId = id then 1 else 0 := by
  by_cases hp : p = q
  · simp [idsFor, hp, List.count_singleton]
  · simp [idsFor, hp]

/-- The number of requests of `A` to `B` under an id that are queued, under way or kept, and of
    responses to them that are queued or under way. -/
def places (A B : LiquidityManager) (p q : PublicKey) (out back : List LSPSMessage)
    (requestId : RequestId) : ℕ :=
  countRequests requestId (A.queuedFor q) + openTally B p out back requestId

variable {A A' B B' : LiquidityManager} {p q : PublicKey} {out back : List LSPSMessage}
  {m : LSPSMessage} {requestId : RequestId} {method : LSPSMethod} {i : ManagerInput}

theorem openTally_congr (hqueued : B'.queuedFor p = B.queuedFor p)
    (hrequests : B'.serviceRequests = B.serviceRequests) (id : RequestId) :
    openTally B' p out back id = openTally B p out back id := by
  rw [openTally, openTally, hqueued, hrequests]

/-- A call of the user queues the requests it makes. -/
theorem countRequests_queuedFor_callStep (h : CallStep A A' i) (q : PublicKey) (id : RequestId) :
    countRequests id (A'.queuedFor q) =
      countRequests id (A.queuedFor q) + (idsFor q (A.made? i)).count id := by
  cases h with
  | quiet hmade hspoiled hpending | spoil hmade hspoiled hkept hpending =>
    rw [queuedFor_eq hpending, hmade]
    rfl
  | @make p requestId method m hmade hspoiled hm hpending =>
    rw [queuedFor_concat hpending, countRequests_append, hmade, count_idsFor_some]
    by_cases hp : p = q
    · simp [hp, countRequests_cons, requestId?_eq hm]
    · simp [hp]
  | @answer p requestId method m hmade hspoiled hkept hm hpending =>
    rw [queuedFor_concat hpending, countRequests_append, hmade]
    by_cases hp : p = q
    · simp [hp, countRequests_cons, requestId?_of_response hm, idsFor]
    · simp [hp, idsFor]

/-- A request that is taken off was kept. -/
theorem isSome_remove (m : PartialMap (PublicKey × RequestId) LSPS2Request)
    (hkept : (m (q, requestId)).isSome) (p : PublicKey) (id : RequestId) :
    (if (m.remove (q, requestId) (p, id)).isSome then 1 else 0) +
      (if q = p ∧ requestId = id then 1 else 0) = if (m (p, id)).isSome then 1 else 0 := by
  by_cases hk : q = p ∧ requestId = id
  · obtain ⟨rfl, rfl⟩ := hk
    simp [hkept]
  · have hne : (p, id) ≠ (q, requestId) := fun heq =>
      hk ⟨(Prod.mk.inj heq).1.symm, (Prod.mk.inj heq).2.symm⟩
    rw [PartialMap.remove_of_ne _ hne, if_neg hk, Nat.add_zero]

/-- A call of the user moves on the requests of a peer, or spoils them. -/
theorem openTally_callStep (h : CallStep B B' i) (p : PublicKey) (out back : List LSPSMessage)
    (id : RequestId) : openTally B' p out back id + (idsFor p (B.spoiled? i)).count id =
      openTally B p out back id := by
  cases h with
  | quiet hmade hspoiled hpending hrequests =>
    rw [openTally_congr (queuedFor_eq hpending p) hrequests, hspoiled]
    rfl
  | @make q requestId method m hmade hspoiled hm hpending hrequests =>
    have hresponses : countResponses id (B'.queuedFor p) = countResponses id (B.queuedFor p) := by
      rw [queuedFor_concat hpending, countResponses_append]
      by_cases hq : q = p
      · simp [hq, countResponses_cons, responseId?_of_request hm]
      · simp [hq]
    rw [openTally, openTally, hresponses, hrequests, hspoiled]
    rfl
  -- A kept request becomes a queued response to it.
  | @answer q requestId method m hmade hspoiled hkept hm hpending hrequests =>
    have hresponses : countResponses id (B'.queuedFor p) = countResponses id (B.queuedFor p) +
        if q = p ∧ requestId = id then 1 else 0 := by
      rw [queuedFor_concat hpending, countResponses_append]
      by_cases hq : q = p
      · simp [hq, countResponses_cons, responseId?_eq hm]
      · simp [hq]
    have hremoved := isSome_remove B.serviceRequests hkept p id
    rw [openTally, openTally, hresponses, hrequests, hspoiled]
    simp only [idsFor, List.count_nil]
    omega
  -- A kept request is taken off, and nothing is queued for it.
  | @spoil q requestId hmade hspoiled hkept hpending hrequests =>
    have hremoved := isSome_remove B.serviceRequests hkept p id
    rw [openTally, openTally, queuedFor_eq hpending, hrequests, hspoiled, count_idsFor_some]
    omega

/-- A request that is delivered moves on, or is lost. -/
theorem openTally_servedStep (h : ServedStep p requestId m B B')
    (hm : m.getRequestIdAndMethod = some (requestId, method))
    (hfresh : B.serviceRequests (p, requestId) = none) (out back : List LSPSMessage)
    (id : RequestId) :
    openTally B' p out back id +
        (if B.Unserved m then m.requestId?.toList else []).count id =
      openTally B p (m :: out) back id := by
  have hid := requestId?_eq hm
  cases h with
  -- Nothing is done with the request: it leaves the wire for good.
  | unserved hunserved hpending hrequests =>
    rw [openTally_congr (queuedFor_eq hpending p) hrequests, if_pos hunserved, openTally, openTally,
      countRequests_cons, hid, Option.toList_some, List.count_singleton]
    simp only [Option.some.injEq, beq_iff_eq]
    omega
  | @keep request hserved hpending hrequests =>
    rw [if_neg hserved, openTally, openTally, queuedFor_eq hpending, hrequests, countRequests_cons,
      hid, List.count_nil]
    -- No request of the peer was kept under the id, so that one more is now.
    by_cases heq : requestId = id
    · subst heq
      simp only [PartialMap.insert_self, hfresh, Option.isSome_some, Option.isSome_none, if_true,
        Bool.false_eq_true, if_false]
      omega
    · have hne : (p, id) ≠ (p, requestId) := fun h => heq (Prod.mk.inj h).2.symm
      rw [PartialMap.insert_of_ne _ _ hne]
      simp only [Option.some.injEq, heq, if_false]
      omega
  | @answer m' method' hserved hm' hpending hrequests =>
    rw [if_neg hserved, openTally, openTally, queuedFor_concat hpending, if_pos rfl, hrequests,
      countResponses_append, countResponses_cons, countResponses_nil, responseId?_eq hm',
      countRequests_cons, hid, List.count_nil]
    omega

/-- Handling a message of the other manager queues no request. -/
theorem countRequests_queuedFor_handled {asked : List (PublicKey × RequestId × LSPSMethod)}
    {r : LiquidityManager × Outcome ManagerError} (h : Link.Handled asked q m A r) (q' : PublicKey)
    (id : RequestId) : countRequests id (r.1.queuedFor q') = countRequests id (A.queuedFor q') := by
  cases h with
  | response hm hasked hstep =>
    have hpending : r.1.pendingMessages = A.pendingMessages := hstep.pendingMessages
    rw [queuedFor_eq hpending]
  | request hm hkeeps hstep =>
    cases hstep with
    | drop hpending | keep hmethod hpending => rw [queuedFor_eq hpending]
    | answer hm' hproper hpending =>
      rw [queuedFor_concat hpending, countRequests_append]
      split
      · rw [countRequests_cons, requestId?_of_response hm']
        rfl
      · rfl

/-! ## Two managers -/

/-- The requests of a manager to the other one that a step makes. -/
def LinkInput.makes (node : Bool → PublicKey) (b : Bool) (s : Link) : LinkInput → List RequestId
  | call b' i _ => if b' = b then idsFor (node !b) ((s.manager b).made? i) else []
  | fetch _ | deliver .. => []

/-- The requests of a manager whose answers a step delivers. -/
def LinkInput.completes (b : Bool) (s : Link) : LinkInput → List RequestId
  | deliver b' _ =>
    if b' = b then (s.inFlight b).head?.elim [] fun c => c.message.responseId?.toList else []
  | call .. | fetch _ => []

/-- The requests of a manager that a step loses. -/
def LinkInput.loses (node : Bool → PublicKey) (b : Bool) (s : Link) : LinkInput → List RequestId
  | call b' i _ => if b' = !b then idsFor (node b) ((s.manager !b).spoiled? i) else []
  | fetch _ => []
  | deliver b' _ => if b' = !b then (s.inFlight !b).head?.elim [] fun c =>
      if (s.manager !b).Unserved c.message then c.message.requestId?.toList else []
    else []

namespace Link

/-- The number of places a request of a manager to the other one is in. -/
def placesOf (node : Bool → PublicKey) (s : Link) (b : Bool) (requestId : RequestId) : ℕ :=
  places (s.manager b) (s.manager !b) (node b) (node !b) ((s.inFlight !b).map Parcel.message)
    ((s.inFlight b).map Parcel.message) requestId

/-- What a step makes of the requests of a manager: those in some place, or done with after it, were
    in one before, or are made by it. -/
def Balances (node : Bool → PublicKey) (s : Link) (i : LinkInput) (s' : Link) : Prop :=
  ∀ b id, (i.completes b s).count id + (i.loses node b s).count id + placesOf node s' b id =
    (i.makes node b s).count id + placesOf node s b id

variable {env : Externals} {serde : Serde} {node : Bool → PublicKey} {s : Link} {b : Bool}
  {asked : Bool → List (PublicKey × RequestId × LSPSMethod)}

theorem balances_call (env : Externals) (serde : Serde) (node : Bool → PublicKey) (s : Link)
    (b : Bool) (i : ManagerInput) (hpublic : i.call.IsPublic) :
    Balances node s (.call b i hpublic) (s.step env serde node (.call b i hpublic)).1 := by
  have hnot : (!b) ≠ b := Bool.not_ne_self b
  have hstep := callStep_step env serde (s.manager b) hpublic
  obtain ⟨hself, hother, hback, hout⟩ := replaces_call env serde node s b i hpublic
  generalize (s.step env serde node (.call b i hpublic)).1 = s' at hself hother hback hout ⊢
  refine (Bool.forall_bool' b).2 ⟨fun id => ?_, fun id => ?_⟩
  · -- The requests of the manager the call is made to: the call makes one.
    have hcount := countRequests_queuedFor_callStep hstep (node !b) id
    simp only [LinkInput.completes, LinkInput.loses, LinkInput.makes, if_pos, if_neg hnot.symm,
      List.count_nil, placesOf, places, hself, hother, hback, hout]
    omega
  · -- Those of the other one: the call answers or spoils one.
    have htally := openTally_callStep hstep (node !b) ((s.inFlight b).map Parcel.message)
      ((s.inFlight !b).map Parcel.message) id
    simp only [LinkInput.completes, LinkInput.loses, LinkInput.makes, Bool.not_not, if_pos,
      if_neg hnot.symm, List.count_nil, placesOf, places, hself, hother, hback, hout]
    omega

/-- All that is queued for a peer is fetched, if it can be written. -/
theorem map_message_parcels {A : LiquidityManager}
    (hserde : ∀ e ∈ A.pendingMessages, serde.RoundTrips e.2) (p : PublicKey) :
    (A.parcels serde p).map Parcel.message = A.queuedFor p := by
  have hfilter : ∀ e ∈ A.pendingMessages.filter fun e => e.1 = p, serde.RoundTrips e.2 :=
    fun e he => hserde e (List.mem_filter.1 he).1
  rw [parcels, queuedFor]
  generalize A.pendingMessages.filter (fun e => e.1 = p) = l at hfilter ⊢
  induction l with
  | nil => rfl
  | cons e l ih =>
    obtain ⟨text, htext, -⟩ := (hfilter e List.mem_cons_self).json
    rw [List.filterMap_cons, htext]
    exact congrArg (e.2 :: ·) (ih fun e' he' => hfilter e' (List.mem_cons_of_mem _ he'))

theorem balances_fetch (env : Externals) (node : Bool → PublicKey)
    (hserde : ∀ e ∈ (s.manager b).pendingMessages, serde.RoundTrips e.2) :
    Balances node s (.fetch b) (s.step env serde node (.fetch b)).1 := by
  obtain ⟨hself, hother, hback, htoOther⟩ := replaces_fetch env serde node s b
  generalize (s.step env serde node (.fetch b)).1 = s' at hself hother hback htoOther ⊢
  have hout : (s'.inFlight (!b)).map Parcel.message =
      (s.inFlight (!b)).map Parcel.message ++ (s.manager b).queuedFor (node !b) := by
    rw [htoOther, List.map_append, map_message_parcels hserde]
  have hempty (q : PublicKey) : (s'.manager b).queuedFor q = [] := by
    rw [hself]
    rfl
  have hrequests : (s'.manager b).serviceRequests = (s.manager b).serviceRequests := by
    rw [hself]
    rfl
  refine (Bool.forall_bool' b).2 ⟨fun id => ?_, fun id => ?_⟩
  · -- Its requests: those queued are under way now.
    show 0 + 0 + placesOf node s' b id = 0 + placesOf node s b id
    simp only [placesOf, places, openTally, hother, hout, hback, hempty, countRequests_append,
      countRequests_nil]
    omega
  · -- The requests of the other manager: the responses to them that were queued are under way.
    show 0 + 0 + placesOf node s' (!b) id = 0 + placesOf node s (!b) id
    simp only [placesOf, places, openTally, Bool.not_not, hother, hout, hback, hempty, hrequests,
      countResponses_append, countResponses_nil]
    omega

theorem balances_deliver (h : s.Orderly serde node asked) (env : Externals) (now : UInt64) :
    Balances node s (.deliver b now) (s.step env serde node (.deliver b now)).1 := by
  have hnot : (!b) ≠ b := Bool.not_ne_self b
  cases hc : s.inFlight b with
  -- With nothing under way, nothing happens.
  | nil =>
    rw [step_deliver_nil hc]
    refine (Bool.forall_bool' b).2 ⟨fun id => ?_, fun id => ?_⟩
    · simp [LinkInput.completes, LinkInput.loses, LinkInput.makes, hc, hnot.symm]
    · simp [LinkInput.completes, LinkInput.loses, LinkInput.makes, hc, hnot.symm]
  -- The first message under way is read by the manager it was sent to, and handled.
  | cons c rest =>
    obtain ⟨hread, -, hhandled⟩ := h.handled hc env now
    have hignored : (s.manager b).ignoredPeers (node !b) = none := by
      rw [h.ignoredPeers]
      rfl
    have hproper := (h.written b c (hc ▸ List.mem_cons_self)).proper
    have hresult := handleCustomMessage_of_read env now hignored hread
    obtain ⟨hself, hother, hout, hback⟩ := replaces_deliver hc env serde node now
    generalize (s.step env serde node (.deliver b now)).1 = s',
      (s.manager b).handleCustomMessage env serde now c.text (node !b) = r
      at hhandled hresult hself hother hout hback ⊢
    refine (Bool.forall_bool' b).2 ⟨fun id => ?_, fun id => ?_⟩
    · -- The other manager's requests: the answer to one is delivered, or one is answered.
      have hcount := countRequests_queuedFor_handled hhandled (node !b) id
      show List.count id (if b = b then (s.inFlight b).head?.elim [] _ else []) +
        List.count id (if b = !b then _ else []) + placesOf node s' b id = 0 + placesOf node s b id
      rw [if_pos rfl, if_neg hnot.symm, List.count_nil, hc]
      simp only [placesOf, places, openTally, hself, hother, hout, hback, hc, hcount, List.map_cons,
        countResponses_cons, List.head?_cons, Option.elim_some]
      rcases c.message.responseId? with _ | requestId
      · simp
      · simp [List.count_singleton]
        omega
    · -- The requests of the manager's peer: the one delivered is kept, answered or lost.
      show List.count id (if b = !b then _ else []) + List.count id (if b = !(!b) then
          (s.inFlight !(!b)).head?.elim [] _ else []) + placesOf node s' (!b) id =
        0 + placesOf node s (!b) id
      rw [Bool.not_not, if_neg hnot.symm, if_pos rfl, List.count_nil, hc]
      simp only [placesOf, places, Bool.not_not, hself, hother, hout, hback, hc, List.map_cons,
        List.head?_cons, Option.elim_some]
      cases hhandled with
      | @request requestId method hm =>
        have hserved : ServedStep (node !b) requestId c.message (s.manager b) r.1 :=
          .of_map (hresult ▸ servedStep_handleLspsMessage env now _ (node !b) hm hproper)
        have hfresh : (s.manager b).serviceRequests (node !b, requestId) = none := by
          have honce := (h.accounted !b).once requestId
          rw [Bool.not_not, hc, List.map_cons, tally, openTally, countRequests_cons,
            requestId?_eq hm, if_pos rfl] at honce
          cases hkept : (s.manager b).serviceRequests (node !b, requestId) with
          | none => rfl
          | some request =>
            rw [hkept, if_pos (Option.isSome_some)] at honce
            omega
        have htally := openTally_servedStep hserved hm hfresh (rest.map Parcel.message)
          ((s.inFlight !b).map Parcel.message) id
        omega
      | response hm hasked hstep =>
        have hpending : r.1.pendingMessages = (s.manager b).pendingMessages := hstep.pendingMessages
        have hrequests : r.1.serviceRequests = (s.manager b).serviceRequests := hstep.serviceRequests
        rw [if_neg (not_unserved_of_response hm),
          openTally_congr (queuedFor_eq hpending _) hrequests, openTally, openTally,
          countRequests_cons, requestId?_of_response hm]
        simp

/-! ## Runs -/

variable {is : List LinkInput} {serviceConfig : Bool → Option LiquidityServiceConfig}
  {clientConfig : Bool → Option LiquidityClientConfig}

/-- The steps of a run balance. -/
theorem along_balances (hids : ∀ b, ((requests b is).map fun e => e.2.1).Nodup)
    (hfair : (machine env serde node).Along (Fair serde) (new serviceConfig clientConfig) is) :
    (machine env serde node).Along (fun s i => Balances node s i (s.step env serde node i).1)
      (new serviceConfig clientConfig) is := by
  rw [Machine.along_iff_forall]
  -- What is delivered after `pre` is a message of the other manager, as the run is orderly.
  rintro pre i post rfl
  obtain ⟨hbefore, hi, -⟩ := Machine.along_append.1 hfair
  cases i with
  | call b i hpublic => exact balances_call env serde node _ b i hpublic
  | fetch b => exact balances_fetch env node hi
  | deliver b now =>
    have horderly := orderly_exec (fun b => nodup_requests_of_append (hids b)) hbefore
    exact balances_deliver horderly env now

/-- A request that is made is one the call is for. -/
theorem made?_sublist (s : LiquidityManager) (i : ManagerInput) (q : PublicKey) :
    (idsFor q (s.made? i)).Sublist (i.request?.toList.map fun e => e.2.1) := by
  have hmade : ∀ p requestId, s.made? i = some (p, requestId) →
      ∃ method, i.request? = some (p, requestId, method) := by
    intro p requestId h
    rw [made?] at h
    split at h
    · next hcall =>
      obtain ⟨rfl, rfl⟩ := Prod.mk.inj (Option.some.inj h)
      exact ⟨_, by rw [ManagerInput.request?, hcall]⟩
    · next hcall =>
      obtain ⟨handler, -, heq⟩ := Option.map_eq_some_iff.1 h
      obtain ⟨rfl, rfl⟩ := Prod.mk.inj heq
      exact ⟨_, by rw [ManagerInput.request?, hcall]⟩
    · next hcall =>
      obtain ⟨handler, -, h⟩ := Option.bind_eq_some_iff.1 h
      split at h
      · obtain ⟨rfl, rfl⟩ := Prod.mk.inj (Option.some.inj h)
        exact ⟨_, by rw [ManagerInput.request?, hcall]⟩
      · cases h
    · cases h
  rcases hcase : s.made? i with _ | ⟨p, requestId⟩
  · exact List.nil_sublist _
  · obtain ⟨method, hrequest⟩ := hmade p requestId hcase
    rw [idsFor, hrequest]
    split
    · exact List.Sublist.refl _
    · exact List.nil_sublist _

/-- The requests made are among those the calls are for. -/
theorem gather_makes_sublist (env : Externals) (serde : Serde) (node : Bool → PublicKey) (s : Link)
    (is : List LinkInput) (b : Bool) :
    ((machine env serde node).gather (LinkInput.makes node b) s is).Sublist
      ((requests b is).map fun e => e.2.1) := by
  induction is generalizing s with
  | nil => exact .slnil
  | cons i is ih =>
    have hcons : requests b (i :: is) = (i.request? b).toList ++ requests b is := by
      rw [requests, List.filterMap_cons]
      cases i.request? b <;> rfl
    rw [Machine.gather_cons, hcons, List.map_append]
    refine List.Sublist.append ?_ (ih _)
    cases i with
    | call b' i hpublic =>
      simp only [LinkInput.makes, LinkInput.request?]
      split
      · exact made?_sublist ..
      · exact List.nil_sublist _
    | fetch | deliver => exact List.nil_sublist _

/-- **No request is lost.** In every run of two managers in which the ids of requests are distinct,
    no offer is selected that expires before the epoch, and the texts of messages are read back,
    if all its calls return: the requests a manager makes to the other one have ids of their own,
    and each is in one place, or its answer has been delivered, once, or it is lost, once: it was
    delivered to a manager without the service it is for, or taken off by a call for requests of
    the other kind. -/
theorem requests_conserved (env : Externals) (serde : Serde) (node : Bool → PublicKey)
    (serviceConfig : Bool → Option LiquidityServiceConfig)
    (clientConfig : Bool → Option LiquidityClientConfig) (is : List LinkInput)
    (hids : ∀ b, ((requests b is).map fun e => e.2.1).Nodup)
    (hfair : (machine env serde node).Along (Fair serde) (new serviceConfig clientConfig) is) :
    (machine env serde node).Outputs Returns (new serviceConfig clientConfig) is →
    let along (f : Link → LinkInput → List RequestId) :=
      (machine env serde node).gather f (new serviceConfig clientConfig) is
    let s := (machine env serde node).exec (new serviceConfig clientConfig) is
    ∀ b, (along (LinkInput.makes node b)).Nodup ∧ ∀ requestId,
      (along (LinkInput.makes node b)).count requestId = placesOf node s b requestId +
        (along (LinkInput.completes b)).count requestId +
        (along (LinkInput.loses node b)).count requestId := by
  rintro - along s b
  refine ⟨(hids b).sublist (gather_makes_sublist env serde node _ is b), fun requestId => ?_⟩
  -- The balances of the steps add up to one of the run, which begins with nothing anywhere.
  have hbalances : (machine env serde node).Along (fun s i =>
      (i.completes b s ++ i.loses node b s).count requestId +
        placesOf node (s.step env serde node i).1 b requestId =
          (i.makes node b s).count requestId + placesOf node s b requestId)
      (new serviceConfig clientConfig) is := by
    refine (along_balances hids hfair).mono fun s i h => ?_
    rw [List.count_append]
    exact h b requestId
  have hsum := hbalances.count_gather_add_eq (fun s => placesOf node s b requestId)
  rw [Machine.count_gather_add] at hsum
  have hnew : placesOf node (new serviceConfig clientConfig) b requestId = 0 := by
    have hnone : (LiquidityManager.new (serviceConfig !b) (clientConfig !b)).serviceRequests
        (node b, requestId) = none := by
      rw [serviceRequests_new]
      rfl
    show 0 + (0 + (if ((LiquidityManager.new (serviceConfig !b) (clientConfig !b)).serviceRequests
      (node b, requestId)).isSome then 1 else 0) + 0 + 0) = 0
    rw [hnone]
    rfl
  show ((machine env serde node).gather _ _ is).count requestId =
    placesOf node ((machine env serde node).exec _ is) b requestId +
    ((machine env serde node).gather _ _ is).count requestId +
      ((machine env serde node).gather _ _ is).count requestId
  omega

/-- The request of the client that selects an offer is not lost. -/
theorem requests_conserved_selected :
    let node (b : Bool) : PublicKey := if b then ⟨1⟩ else ⟨0⟩
    let requestId : RequestId := ⟨"01010101010101010101010101010101"⟩
    let along (f : Link → LinkInput → List RequestId) :=
      (machine sampleExternals sampleOfferSerde node).gather f sampleLink sampleOfferRun
    placesOf node (sampleOfferAfter 9) false requestId +
      (along (LinkInput.completes false)).count requestId +
      (along (LinkInput.loses node false)).count requestId = 1 := by
  intro node requestId along
  have hids : ∀ b, ((requests b sampleOfferRun).map fun e => e.2.1).Nodup := by decide
  have hreturns : (machine sampleExternals sampleOfferSerde node).Outputs Returns sampleLink
      sampleOfferRun := by decide +kernel
  have hmade : (along (LinkInput.makes node false)).count requestId = 1 := by decide +kernel
  exact ((requests_conserved sampleExternals sampleOfferSerde node _ _ sampleOfferRun hids
    fair_sampleOfferRun hreturns false).2 requestId).symm.trans hmade

end Link

end LightningLiquidity
