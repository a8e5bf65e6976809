import LightningLiquidity.Lsps2.Service.Effects

/-!
# What the service sends, and to whom

A call to the service sends at most one message: the answer to a request that is kept, of
the kind the call is for, or the refusal of a `buy` request that is received
(`LSPS2ServiceHandler.Replies`). It goes to the peer the call is for
(`ServiceCall.peer?`), which is also named by the events of the call.
-/

namespace LightningLiquidity

/-- The peer a call to the service is for. -/
def ServiceCall.peer? (s : LSPS2ServiceHandler) : ServiceCall → Option PublicKey
  | invalidTokenProvided p .. | openingFeeParamsGenerated p .. | invoiceParametersGenerated p .. =>
    some p
  | htlcIntercepted scid .. => s.peerByInterceptScid scid
  | htlcHandlingFailed (.nextHopChannel _ c) | paymentForwarded c => s.peerByChannelId c
  | htlcHandlingFailed .other => none
  | channelReady _ _ p | handleMessage _ p => some p

/-- The peer named by an event. -/
def LSPS2ServiceEvent.peer : LSPS2ServiceEvent → PublicKey
  | getInfo _ p _ | buyRequest _ p .. | openChannel p .. => p

namespace LSPS2ServiceHandler

/-- The messages a call sends, given the requests kept. -/
inductive Replies (env : Externals) (s : LSPS2ServiceHandler) :
    ServiceCall → List (PublicKey × LSPS2Message) → Prop
  | none {call : ServiceCall} : Replies env s call []
  | invalidToken {p : PublicKey} {requestId : RequestId} {params : GetInfoRequest}
      {error : ResponseError} (h : s.requests (p, requestId) = some (.getInfo params)) :
      Replies env s (.invalidTokenProvided p requestId)
        [(p, .response requestId (.getInfoError error))]
  | menu {p : PublicKey} {requestId : RequestId} {params : GetInfoRequest}
      {menu : List RawOpeningFeeParams} (h : s.requests (p, requestId) = some (.getInfo params)) :
      Replies env s (.openingFeeParamsGenerated p requestId menu)
        [(p, .response requestId (.getInfo
          ⟨menu.map fun param => param.intoOpeningFeeParams env s.promiseSecret⟩))]
  | invoice {p : PublicKey} {requestId : RequestId} {req : BuyRequest} {scid : Scid}
      {cltvExpiryDelta : UInt32} {clientTrustsLsp : Bool} {userChannelId : UserChannelId}
      (h : s.requests (p, requestId) = some (.buy req)) :
      Replies env s
        (.invoiceParametersGenerated p requestId scid cltvExpiryDelta clientTrustsLsp userChannelId)
        [(p, .response requestId (.buy ⟨.ofScid scid, cltvExpiryDelta, clientTrustsLsp⟩))]
  /-- A `buy` request is refused. -/
  | refuse {p : PublicKey} {requestId : RequestId} {req : BuyRequest} {error : ResponseError} :
      Replies env s (.handleMessage (.request requestId (.buy req)) p)
        [(p, .response requestId (.buyError error))]

variable {s : LSPS2ServiceHandler}

/-- What answering a `get_info` request sends. -/
theorem messages_respondGetInfo (s : LSPS2ServiceHandler) (p : PublicKey) (requestId : RequestId)
    (response : LSPS2Response) :
    (s.respondGetInfo p requestId response).2.messages = [] ∨
      (∃ params, s.requests (p, requestId) = some (.getInfo params)) ∧
        (s.respondGetInfo p requestId response).2.messages = [(p, .response requestId response)] := by
  simp only [respondGetInfo]
  split
  · next ps hps =>
    split
    · next params h => exact .inr ⟨⟨params, (requests_apply hps requestId).trans h⟩, rfl⟩
    · exact .inl rfl
  · exact .inl rfl

/-- What a call sends. -/
theorem replies_step (env : Externals) (s : LSPS2ServiceHandler) (i : ServiceInput) :
    s.Replies env i.call (s.step env i).2.messages := by
  obtain ⟨call, cm, now⟩ := i
  cases call with
  | invalidTokenProvided p requestId =>
    show s.Replies env _ (s.respondGetInfo p requestId _).2.messages
    rcases s.messages_respondGetInfo p requestId _ with h | ⟨⟨params, hparams⟩, h⟩
    · exact h ▸ .none
    · exact h ▸ .invalidToken hparams
  | openingFeeParamsGenerated p requestId menu =>
    show s.Replies env _ (s.respondGetInfo p requestId _).2.messages
    rcases s.messages_respondGetInfo p requestId _ with h | ⟨⟨params, hparams⟩, h⟩
    · exact h ▸ .none
    · exact h ▸ .menu hparams
  | invoiceParametersGenerated p requestId =>
    simp only [step, invoiceParametersGenerated]
    split
    · next ps hps =>
      split
      · next req h => exact .invoice ((requests_apply hps requestId).trans h)
      · exact .none
    · exact .none
  | handleMessage message p =>
    obtain ⟨requestId, params | params⟩ | _ := message
    · exact .none
    · simp only [step, handleMessage, handleBuyRequest]
      repeat' split
      all_goals first | exact .none | exact .refuse
    · exact .none
  | htlcIntercepted | htlcHandlingFailed | paymentForwarded | channelReady =>
    simp only [step, htlcIntercepted, htlcHandlingFailed, paymentForwarded, channelReady]
    repeat' split
    all_goals first | exact .none | (rw [ChannelManager.messages_forwardPayment]; exact .none)

/-- A call sends responses, to the peer it is for. -/
theorem exists_response_step (s : LSPS2ServiceHandler) (env : Externals) {i : ServiceInput}
    {m : PublicKey × LSPS2Message}
    (h : m ∈ (s.step env i).2.messages) :
    i.call.peer? s = some m.1 ∧ ∃ requestId response, m.2 = .response requestId response := by
  have hreplies := s.replies_step env i
  generalize i.call = call, (s.step env i).2.messages = messages at h hreplies
  cases hreplies with
  | none => cases h
  | invalidToken | menu | invoice | refuse =>
    obtain rfl := List.mem_singleton.1 h
    exact ⟨rfl, _, _, rfl⟩

/-- The events of a call name the peer it is for. -/
theorem peer_events_step (s : LSPS2ServiceHandler) (env : Externals) {i : ServiceInput}
    {ev : LSPS2ServiceEvent}
    (h : ev ∈ (s.step env i).2.events) : i.call.peer? s = some ev.peer := by
  obtain ⟨call, cm, now⟩ := i
  cases call with
  | htlcIntercepted scid id amount hash =>
    simp only [step, htlcIntercepted] at h
    split at h
    · next p hp =>
      repeat' split at h
      all_goals first
        | exact absurd h List.not_mem_nil
        | (rw [ChannelManager.events_forwardPayment] at h; exact absurd h List.not_mem_nil)
        | (obtain rfl := List.mem_singleton.1 h; exact hp)
    · exact absurd h List.not_mem_nil
  | handleMessage message p =>
    simp only [step, handleMessage, handleGetInfoRequest, handleBuyRequest] at h
    repeat' split at h
    all_goals first | exact absurd h List.not_mem_nil | (obtain rfl := List.mem_singleton.1 h; rfl)
  | _ =>
    simp only [step, invalidTokenProvided, openingFeeParamsGenerated, respondGetInfo,
      invoiceParametersGenerated, htlcHandlingFailed, paymentForwarded, channelReady] at h
    repeat' split at h
    all_goals first
      | exact absurd h List.not_mem_nil
      | (rw [ChannelManager.events_forwardPayment] at h; exact absurd h List.not_mem_nil)

end LSPS2ServiceHandler

end LightningLiquidity
