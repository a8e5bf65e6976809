import LightningLiquidity.Lib.Machine
import LightningLiquidity.Lsps2.Client

/-!
# What calls to the client do

The calls to the client, of the user and of peers, are the machine
`LSPS2ClientHandler.machine`. What they do to the requests not answered yet, under
pairs of a peer and an id (`getInfoRequests`, `buyRequests`), and what they give, is
said once, by `LSPS2ClientHandler.Effect`.
-/

namespace LightningLiquidity

/-- A call to the handler of the client, with the id generated for a request. -/
inductive ClientCall
  | requestOpeningParams (requestId : RequestId) (counterpartyNodeId : PublicKey)
      (token : Option String)
  | selectOpeningParams (requestId : RequestId) (counterpartyNodeId : PublicKey)
      (paymentSizeMsat : Option UInt64) (openingFeeParams : OpeningFeeParams)
  | handleMessage (message : LSPS2Message) (counterpartyNodeId : PublicKey)
  deriving DecidableEq

namespace LSPS2ClientHandler

/-- A call to the handler. -/
def step (self : LSPS2ClientHandler) : ClientCall → LSPS2ClientHandler × LSPS2ClientOutput
  | .requestOpeningParams requestId p token => self.requestOpeningParams requestId p token
  | .selectOpeningParams requestId p paymentSizeMsat openingFeeParams =>
    self.selectOpeningParams requestId p paymentSizeMsat openingFeeParams
  | .handleMessage message p => self.handleMessage message p

/-- The calls to a handler. -/
def machine : Machine LSPS2ClientHandler ClientCall LSPS2ClientOutput := ⟨step⟩

/-- The `get_info` requests not answered yet. -/
def getInfoRequests (s : LSPS2ClientHandler) : PartialMap (PublicKey × RequestId) Unit :=
  .flatten PeerState.pendingGetInfoRequests s.perPeerState

/-- The `buy` requests not answered yet. -/
def buyRequests (s : LSPS2ClientHandler) : PartialMap (PublicKey × RequestId) InboundJITChannel :=
  .flatten PeerState.pendingBuyRequests s.perPeerState

/-- What a response takes off is pending. -/
def Expects (s : LSPS2ClientHandler) (p : PublicKey) (requestId : RequestId) :
    LSPS2Response → Prop
  | .getInfo _ | .getInfoError _ => (s.getInfoRequests (p, requestId)).isSome
  | .buy _ | .buyError _ => (s.buyRequests (p, requestId)).isSome

/-- What a call can do to the requests, and give. -/
inductive Effect (s : LSPS2ClientHandler) : ClientCall →
    PartialMap (PublicKey × RequestId) Unit → PartialMap (PublicKey × RequestId) InboundJITChannel →
    LSPS2ClientOutput → Prop
  | askGetInfo {requestId : RequestId} {p : PublicKey} {token : Option String} :
      Effect s (.requestOpeningParams requestId p token)
        (s.getInfoRequests.insert (p, requestId) ()) s.buyRequests
        { result := .ok, messages := [(p, .request requestId (.getInfo { token }))] }
  | askBuy {requestId : RequestId} {p : PublicKey} {size : Option UInt64} {params : OpeningFeeParams}
      (h : s.buyRequests (p, requestId) = none) :
      Effect s (.selectOpeningParams requestId p size params) s.getInfoRequests
        (s.buyRequests.insert (p, requestId) ⟨size⟩)
        { result := .ok, messages := [(p, .request requestId (.buy ⟨params, size⟩))] }
  /-- The id is that of another request. -/
  | askAgain {requestId : RequestId} {p : PublicKey} {size : Option UInt64}
      {params : OpeningFeeParams} (h : (s.buyRequests (p, requestId)).isSome) :
      Effect s (.selectOpeningParams requestId p size params) s.getInfoRequests
        (s.buyRequests.insert (p, requestId) ⟨size⟩) { result := .err .duplicateRequestId }
  | getInfo {requestId : RequestId} {p : PublicKey} {result : GetInfoResponse}
      (h : s.getInfoRequests (p, requestId) = some ()) :
      Effect s (.handleMessage (.response requestId (.getInfo result)) p)
        (s.getInfoRequests.remove (p, requestId)) s.buyRequests
        { result := .ok
          events := [.openingParametersReady requestId p result.openingFeeParamsMenu] }
  | getInfoError {requestId : RequestId} {p : PublicKey} {error : ResponseError}
      (h : s.getInfoRequests (p, requestId) = some ()) :
      Effect s (.handleMessage (.response requestId (.getInfoError error)) p)
        (s.getInfoRequests.remove (p, requestId)) s.buyRequests { result := .ok }
  | buy {requestId : RequestId} {p : PublicKey} {result : BuyResponse} {ch : InboundJITChannel}
      {scid : Scid} (h : s.buyRequests (p, requestId) = some ch)
      (hscid : result.interceptScid.toScid = some scid) :
      Effect s (.handleMessage (.response requestId (.buy result)) p) s.getInfoRequests
        (s.buyRequests.remove (p, requestId))
        { result := .ok
          events := [.invoiceParametersReady requestId p scid result.lspCltvExpiryDelta
            ch.paymentSizeMsat] }
  /-- The short channel id cannot be read. -/
  | buyInvalid {requestId : RequestId} {p : PublicKey} {result : BuyResponse}
      {ch : InboundJITChannel} (h : s.buyRequests (p, requestId) = some ch)
      (hscid : result.interceptScid.toScid = none) :
      Effect s (.handleMessage (.response requestId (.buy result)) p) s.getInfoRequests
        (s.buyRequests.remove (p, requestId))
        { result := .err (.invalidInterceptScid result.interceptScid) }
  | buyError {requestId : RequestId} {p : PublicKey} {error : ResponseError}
      {ch : InboundJITChannel} (h : s.buyRequests (p, requestId) = some ch) :
      Effect s (.handleMessage (.response requestId (.buyError error)) p) s.getInfoRequests
        (s.buyRequests.remove (p, requestId)) { result := .ok }
  /-- A response to nothing that was asked. -/
  | unknown {requestId : RequestId} {p : PublicKey} {response : LSPS2Response}
      {e : LSPS2ClientError} (h : ¬s.Expects p requestId response) :
      Effect s (.handleMessage (.response requestId response) p) s.getInfoRequests s.buyRequests
        { result := .err e }
  | request {requestId : RequestId} {p : PublicKey} {request : LSPS2Request} :
      Effect s (.handleMessage (.request requestId request) p) s.getInfoRequests s.buyRequests
        { result := .err (.receivedRequest p) }

variable {s : LSPS2ClientHandler} {p : PublicKey} {ps : PeerState} {requestId : RequestId}

/-- The state of a peer, that of a new one if it was not asked before. -/
def peer (s : LSPS2ClientHandler) (p : PublicKey) : PeerState := (s.perPeerState p).getD .new

theorem peer_eq (hps : s.perPeerState p = some ps) : s.peer p = ps := by
  rw [peer, hps, Option.getD_some]

theorem getInfoRequests_apply (s : LSPS2ClientHandler) (p : PublicKey) (requestId : RequestId) :
    s.getInfoRequests (p, requestId) = (s.peer p).pendingGetInfoRequests requestId := by
  rw [getInfoRequests, PartialMap.flatten, peer]
  cases s.perPeerState p <;> rfl

theorem buyRequests_apply (s : LSPS2ClientHandler) (p : PublicKey) (requestId : RequestId) :
    s.buyRequests (p, requestId) = (s.peer p).pendingBuyRequests requestId := by
  rw [buyRequests, PartialMap.flatten, peer]
  cases s.perPeerState p <;> rfl

/-- Replacing the `get_info` requests of a peer leaves its `buy` requests. -/
theorem buyRequests_setPeer (h : ps.pendingBuyRequests = (s.peer p).pendingBuyRequests) :
    (s.setPeer p ps).buyRequests = s.buyRequests :=
  PartialMap.flatten_insert (s.buyRequests_apply p) h

theorem getInfoRequests_setPeer
    (h : ps.pendingGetInfoRequests = (s.peer p).pendingGetInfoRequests) :
    (s.setPeer p ps).getInfoRequests = s.getInfoRequests :=
  PartialMap.flatten_insert (s.getInfoRequests_apply p) h

/-- Taking a `get_info` request off. -/
theorem requests_takeGetInfoRequest (hps : s.perPeerState p = some ps) (requestId : RequestId) :
    s.getInfoRequests (p, requestId) = ps.pendingGetInfoRequests requestId ∧
      (s.takeGetInfoRequest p ps requestId).getInfoRequests =
        s.getInfoRequests.remove (p, requestId) ∧
      (s.takeGetInfoRequest p ps requestId).buyRequests = s.buyRequests := by
  obtain rfl := peer_eq hps
  exact ⟨s.getInfoRequests_apply p requestId,
    PartialMap.flatten_insert_remove (s.getInfoRequests_apply p) rfl, buyRequests_setPeer rfl⟩

/-- Taking a `buy` request off. -/
theorem requests_takeBuyRequest (hps : s.perPeerState p = some ps) (requestId : RequestId) :
    s.buyRequests (p, requestId) = ps.pendingBuyRequests requestId ∧
      (s.takeBuyRequest p ps requestId).getInfoRequests = s.getInfoRequests ∧
      (s.takeBuyRequest p ps requestId).buyRequests = s.buyRequests.remove (p, requestId) := by
  obtain rfl := peer_eq hps
  exact ⟨s.buyRequests_apply p requestId, getInfoRequests_setPeer rfl,
    PartialMap.flatten_insert_remove (s.buyRequests_apply p) rfl⟩

theorem effect_requestOpeningParams (s : LSPS2ClientHandler) (requestId : RequestId)
    (p : PublicKey) (token : Option String) :
    s.Effect (.requestOpeningParams requestId p token)
      (s.requestOpeningParams requestId p token).1.getInfoRequests
      (s.requestOpeningParams requestId p token).1.buyRequests
      (s.requestOpeningParams requestId p token).2 := by
  have hget : (s.requestOpeningParams requestId p token).1.getInfoRequests =
      s.getInfoRequests.insert (p, requestId) () :=
    PartialMap.flatten_insert_insert (s.getInfoRequests_apply p) rfl
  have hbuy : (s.requestOpeningParams requestId p token).1.buyRequests = s.buyRequests :=
    buyRequests_setPeer rfl
  rw [hget, hbuy]
  exact .askGetInfo

theorem effect_selectOpeningParams (s : LSPS2ClientHandler) (requestId : RequestId)
    (p : PublicKey) (size : Option UInt64) (params : OpeningFeeParams) :
    s.Effect (.selectOpeningParams requestId p size params)
      (s.selectOpeningParams requestId p size params).1.getInfoRequests
      (s.selectOpeningParams requestId p size params).1.buyRequests
      (s.selectOpeningParams requestId p size params).2 := by
  let ps : PeerState := { s.peer p with
    pendingBuyRequests := (s.peer p).pendingBuyRequests.insert requestId ⟨size⟩ }
  have hfst : (s.selectOpeningParams requestId p size params).1 = s.setPeer p ps := by
    simp only [selectOpeningParams]
    split <;> rfl
  have hget : (s.setPeer p ps).getInfoRequests = s.getInfoRequests := getInfoRequests_setPeer rfl
  have hbuy : (s.setPeer p ps).buyRequests = s.buyRequests.insert (p, requestId) ⟨size⟩ :=
    PartialMap.flatten_insert_insert (s.buyRequests_apply p) rfl
  rw [hfst, hget, hbuy]
  simp only [selectOpeningParams]
  rw [← peer, ← buyRequests_apply]
  split
  · next h => exact .askAgain h
  · next h => exact .askBuy (Option.not_isSome_iff_eq_none.1 h)

/-- Nothing is pending of a peer not asked before. -/
theorem not_expects_of_none (hps : s.perPeerState p = none) (response : LSPS2Response) :
    ¬s.Expects p requestId response := by
  cases response <;>
    simp [Expects, getInfoRequests_apply, buyRequests_apply, peer, hps, PeerState.new]

theorem effect_handleGetInfoResponse (s : LSPS2ClientHandler) (requestId : RequestId)
    (p : PublicKey) (result : GetInfoResponse) :
    s.Effect (.handleMessage (.response requestId (.getInfo result)) p)
      (s.handleGetInfoResponse requestId p result).1.getInfoRequests
      (s.handleGetInfoResponse requestId p result).1.buyRequests
      (s.handleGetInfoResponse requestId p result).2 := by
  simp only [handleGetInfoResponse]
  split
  · next ps hps =>
    obtain ⟨hpending, hget, hbuy⟩ := requests_takeGetInfoRequest hps requestId
    split
    · next h =>
      rw [hget, hbuy, PartialMap.remove_eq_self_iff.2 (hpending.trans h)]
      exact .unknown (by simp [Expects, hpending, h])
    · next h =>
      rw [hget, hbuy]
      exact .getInfo (hpending.trans h)
  · next hps => exact .unknown (not_expects_of_none hps _)

theorem effect_handleGetInfoError (s : LSPS2ClientHandler) (requestId : RequestId)
    (p : PublicKey) (error : ResponseError) :
    s.Effect (.handleMessage (.response requestId (.getInfoError error)) p)
      (s.handleGetInfoError requestId p).1.getInfoRequests
      (s.handleGetInfoError requestId p).1.buyRequests (s.handleGetInfoError requestId p).2 := by
  simp only [handleGetInfoError]
  split
  · next ps hps =>
    obtain ⟨hpending, hget, hbuy⟩ := requests_takeGetInfoRequest hps requestId
    split
    · next h =>
      rw [hget, hbuy, PartialMap.remove_eq_self_iff.2 (hpending.trans h)]
      exact .unknown (by simp [Expects, hpending, h])
    · next h =>
      rw [hget, hbuy]
      exact .getInfoError (hpending.trans h)
  · next hps => exact .unknown (not_expects_of_none hps _)

theorem effect_handleBuyResponse (s : LSPS2ClientHandler) (requestId : RequestId)
    (p : PublicKey) (result : BuyResponse) :
    s.Effect (.handleMessage (.response requestId (.buy result)) p)
      (s.handleBuyResponse requestId p result).1.getInfoRequests
      (s.handleBuyResponse requestId p result).1.buyRequests
      (s.handleBuyResponse requestId p result).2 := by
  simp only [handleBuyResponse]
  split
  · next ps hps =>
    obtain ⟨hpending, hget, hbuy⟩ := requests_takeBuyRequest hps requestId
    split
    · next h =>
      rw [hget, hbuy, PartialMap.remove_eq_self_iff.2 (hpending.trans h)]
      exact .unknown (by simp [Expects, hpending, h])
    · next ch h =>
      split
      · next scid hscid =>
        rw [hget, hbuy]
        exact .buy (hpending.trans h) hscid
      · next hscid =>
        rw [hget, hbuy]
        exact .buyInvalid (hpending.trans h) hscid
  · next hps => exact .unknown (not_expects_of_none hps _)

theorem effect_handleBuyError (s : LSPS2ClientHandler) (requestId : RequestId)
    (p : PublicKey) (error : ResponseError) :
    s.Effect (.handleMessage (.response requestId (.buyError error)) p)
      (s.handleBuyError requestId p).1.getInfoRequests
      (s.handleBuyError requestId p).1.buyRequests (s.handleBuyError requestId p).2 := by
  simp only [handleBuyError]
  split
  · next ps hps =>
    obtain ⟨hpending, hget, hbuy⟩ := requests_takeBuyRequest hps requestId
    split
    · next h =>
      rw [hget, hbuy, PartialMap.remove_eq_self_iff.2 (hpending.trans h)]
      exact .unknown (by simp [Expects, hpending, h])
    · next ch h =>
      rw [hget, hbuy]
      exact .buyError (hpending.trans h)
  · next hps => exact .unknown (not_expects_of_none hps _)

/-- What a call does to the requests, and gives. -/
theorem effect_step (s : LSPS2ClientHandler) (call : ClientCall) :
    s.Effect call (s.step call).1.getInfoRequests (s.step call).1.buyRequests (s.step call).2 := by
  rcases call with _ | _ | ⟨⟨requestId, request⟩ | ⟨requestId, result | error | result | error⟩, p⟩
  · exact effect_requestOpeningParams ..
  · exact effect_selectOpeningParams ..
  · exact .request
  · exact effect_handleGetInfoResponse ..
  · exact effect_handleGetInfoError ..
  · exact effect_handleBuyResponse ..
  · exact effect_handleBuyError ..

/-- Messages are not answered. -/
theorem messages_handleMessage (s : LSPS2ClientHandler) (message : LSPS2Message) (p : PublicKey) :
    (s.handleMessage message p).2.messages = [] := by
  have heffect := s.effect_step (.handleMessage message p)
  generalize (s.step (.handleMessage message p)).1.getInfoRequests = get,
    (s.step (.handleMessage message p)).1.buyRequests = buy,
    hout : (s.step (.handleMessage message p)).2 = out at heffect
  have hout : (s.handleMessage message p).2 = out := hout
  rw [hout]
  cases heffect <;> rfl

end LSPS2ClientHandler

end LightningLiquidity
