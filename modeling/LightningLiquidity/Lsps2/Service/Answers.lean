import LightningLiquidity.Lsps2.Service.Effects

/-!
# Answers to requests

An answer of the service takes the request it names off the pending ones before
it looks at its kind. A call for the wrong kind of request is thus refused, but
loses the request (`not_answers_unchanged`); any other refused answer changes
nothing (`answers_unchanged_iff`).
-/

namespace LightningLiquidity

/-- What a request asks for. -/
inductive RequestKind
  | getInfo
  | buy
  deriving DecidableEq

/-- What a request asks for. -/
def LSPS2Request.kind : LSPS2Request → RequestKind
  | getInfo _ => .getInfo
  | buy _ => .buy

/-- The request a call answers, and the kind it has to be of. -/
def ServiceCall.answers? : ServiceCall → Option ((PublicKey × RequestId) × RequestKind)
  | invalidTokenProvided p requestId | openingFeeParamsGenerated p requestId _ =>
    some ((p, requestId), .getInfo)
  | invoiceParametersGenerated p requestId _ _ _ _ => some ((p, requestId), .buy)
  | _ => none

namespace LSPS2ServiceHandler

variable {env : Externals} {s : LSPS2ServiceHandler} {i : ServiceInput} {p : PublicKey}
  {requestId : RequestId}

/-- Taking off a request that is not there changes nothing. -/
theorem setPeer_remove_eq_self {ps : PeerState} (hps : s.perPeerState p = some ps)
    (hreq : ps.pendingRequests requestId = none) :
    s.setPeer p { ps with pendingRequests := ps.pendingRequests.remove requestId } = s := by
  rw [PartialMap.remove_eq_self_iff.2 hreq, setPeer, PartialMap.insert_eq_self_iff.2 hps]

/-- How an answer ends: it answers a request of its kind, there is none and nothing
    changes, or there is one of the other kind. -/
inductive AnswerStep (s : LSPS2ServiceHandler) (key : PublicKey × RequestId) (kind : RequestKind)
    (r : LSPS2ServiceHandler × Output) : Prop
  | answered {request : LSPS2Request} (hreq : s.requests key = some request)
      (hkind : request.kind = kind) (hresult : r.2.result = .ok)
  | notPending {e : HandlerError} (hreq : s.requests key = none) (hstate : r.1 = s)
      (hmessages : r.2.messages = []) (hresult : r.2.result = .err e)
  | otherKind {request : LSPS2Request} {e : HandlerError} (hreq : s.requests key = some request)
      (hkind : request.kind ≠ kind) (hresult : r.2.result = .err e)

theorem answerStep_respondGetInfo (s : LSPS2ServiceHandler) (p : PublicKey)
    (requestId : RequestId) (response : LSPS2Response) :
    AnswerStep s (p, requestId) .getInfo (s.respondGetInfo p requestId response) := by
  simp only [respondGetInfo]
  split
  · next ps hps =>
    have happly := requests_apply hps requestId
    rcases hreq : ps.pendingRequests requestId with _ | params | params
    · exact .notPending (happly.trans hreq) (setPeer_remove_eq_self hps hreq) rfl rfl
    · exact .answered (happly.trans hreq) rfl rfl
    · exact .otherKind (happly.trans hreq) RequestKind.noConfusion rfl
  · next hps => exact .notPending (requests_eq_none hps requestId) rfl rfl rfl

theorem answerStep_invoiceParametersGenerated (s : LSPS2ServiceHandler) (p : PublicKey)
    (requestId : RequestId) (scid : Scid) (cltvExpiryDelta : UInt32) (clientTrustsLsp : Bool)
    (userChannelId : UserChannelId) :
    AnswerStep s (p, requestId) .buy (s.invoiceParametersGenerated p requestId scid cltvExpiryDelta
      clientTrustsLsp userChannelId) := by
  simp only [invoiceParametersGenerated]
  split
  · next ps hps =>
    have happly := requests_apply hps requestId
    rcases hreq : ps.pendingRequests requestId with _ | params | params
    · exact .notPending (happly.trans hreq) (setPeer_remove_eq_self hps hreq) rfl rfl
    · exact .otherKind (happly.trans hreq) RequestKind.noConfusion rfl
    · exact .answered (happly.trans hreq) rfl rfl
  · next hps => exact .notPending (requests_eq_none hps requestId) rfl rfl rfl

variable {key : PublicKey × RequestId} {kind : RequestKind}

theorem answerStep_step (env : Externals) (s : LSPS2ServiceHandler)
    (h : i.call.answers? = some (key, kind)) : AnswerStep s key kind (s.step env i) := by
  obtain ⟨call, cm, now⟩ := i
  cases call with
  | invalidTokenProvided | openingFeeParamsGenerated =>
    obtain ⟨rfl, rfl⟩ := Prod.mk.inj (Option.some.inj h)
    exact answerStep_respondGetInfo ..
  | invoiceParametersGenerated =>
    obtain ⟨rfl, rfl⟩ := Prod.mk.inj (Option.some.inj h)
    exact answerStep_invoiceParametersGenerated ..
  | _ => cases h

/-- An answer takes off the request it names. -/
theorem requests_answer (h : i.call.answers? = some (key, kind)) :
    (s.step env i).1.requests = s.requests.remove key := by
  obtain ⟨call, cm, now⟩ := i
  cases call with
  | invalidTokenProvided | openingFeeParamsGenerated =>
    obtain ⟨rfl, rfl⟩ := Prod.mk.inj (Option.some.inj h)
    exact requests_respondGetInfo ..
  | invoiceParametersGenerated =>
    obtain ⟨rfl, rfl⟩ := Prod.mk.inj (Option.some.inj h)
    exact requests_invoiceParametersGenerated ..
  | _ => cases h

/-- An answer names no pending request of the other kind. -/
def AnswersKind (s : LSPS2ServiceHandler) (i : ServiceInput) : Prop :=
  ∀ key kind, i.call.answers? = some (key, kind) →
    ∀ request, s.requests key = some request → request.kind = kind

/-- An answer that ends in an error changes nothing iff no request of the other kind
    is pending under its peer and request id. -/
theorem answer_unchanged_iff (env : Externals) (s : LSPS2ServiceHandler) (i : ServiceInput) :
    (i.call.answers?.isSome → Unchanged env s i) ↔ s.AnswersKind i := by
  rcases h : i.call.answers? with _ | ⟨key, kind⟩
  · simp [AnswersKind, h]
  have hkind : s.AnswersKind i ↔ ∀ request, s.requests key = some request → request.kind = kind := by
    simp [AnswersKind, h]
  rw [hkind, forall_prop_of_true (Option.isSome_some ..)]
  cases answerStep_step env s h with
  | answered hreq hkind hresult =>
    refine iff_of_true (fun ⟨e, he⟩ => ?_) fun request hreq' => ?_
    · cases hresult.symm.trans he
    · rwa [← Option.some.inj (hreq.symm.trans hreq')]
  | notPending hreq hstate hmessages =>
    refine iff_of_true (unchanged_of_eq hstate hmessages) fun request hreq' => ?_
    cases hreq.symm.trans hreq'
  | otherKind hreq hkind hresult =>
    refine iff_of_false (fun hun => ?_) fun hall => hkind (hall _ hreq)
    -- The request was pending before, and is taken off without an answer.
    have hkept := congrArg requests (hun ⟨_, hresult⟩).1
    rw [requests_answer h, PartialMap.remove_eq_self_iff, hreq] at hkept
    cases hkept

/-- **Rejected answers.** In a run of the service, all answers that end in an error
    change nothing iff no answer names a pending request of the other kind. -/
theorem answers_unchanged_iff (env : Externals) (secret : List UInt8) (is : List ServiceInput) :
    (machine env).Along (fun s i => i.call.answers?.isSome → Unchanged env s i) (.new secret) is ↔
      (machine env).Along AnswersKind (.new secret) is :=
  Machine.along_congr (answer_unchanged_iff env)

/-- An answer to a `buy` request loses the `get_info` request it names. -/
theorem not_answers_unchanged :
    ¬∀ (env : Externals) (secret : List UInt8) (is : List ServiceInput) (i : ServiceInput),
      i.call.answers?.isSome → Unchanged env ((machine env).exec (.new secret) is) i := by
  intro h
  have hstate := (h sampleExternals [] [sampleGetInfo] sampleInvoice rfl
    ⟨.api (.noPendingBuyRequest ⟨"1"⟩), by decide⟩).1
  exact absurd (congrFun (congrArg requests hstate) (⟨0⟩, ⟨"1"⟩)) (by decide)

end LSPS2ServiceHandler

end LightningLiquidity
