import LightningLiquidity.Lsps2.Client.Effects
import LightningLiquidity.Lsps2.Service.Replies
import LightningLiquidity.Lsps2.Service.Stranded

/-!
# The LSPS2 handlers without a peer

What the handlers keep of all peers but one (`LSPS2ClientHandler.without`,
`LSPS2ServiceHandler.without`). A call for this one peer does not change it; a call for
another peer does the same to it as to the handler itself, and gives the same.

Which peer a call to the service is for is found in its maps: of the short channel ids, some
are those of the one peer, and lead to no other (`LSPS2ServiceHandler.RoutesSeparately`).
-/

namespace LightningLiquidity

variable {q : PublicKey}

/-! ## The client -/

namespace LSPS2ClientHandler

/-- The handler without a peer. -/
noncomputable def without (s : LSPS2ClientHandler) (q : PublicKey) : LSPS2ClientHandler :=
  ⟨s.perPeerState.off {q}⟩

variable {s : LSPS2ClientHandler} {p : PublicKey}

@[simp] theorem without_without (s : LSPS2ClientHandler) (q : PublicKey) :
    (s.without q).without q = s.without q := congrArg mk (PartialMap.off_off ..)

theorem perPeerState_without (h : p ≠ q) : (s.without q).perPeerState p = s.perPeerState p :=
  PartialMap.off_apply h

theorem setPeer_without (h : p ≠ q) (ps : PeerState) :
    (s.setPeer p ps).without q = (s.without q).setPeer p ps :=
  congrArg mk (PartialMap.off_insert (S := {q}) h ps)

theorem setPeer_without_self (ps : PeerState) : (s.setPeer q ps).without q = s.without q :=
  congrArg mk (PartialMap.off_insert_of_mem (S := {q}) rfl ps)

end LSPS2ClientHandler

/-- The peer a call to the client is for. -/
def ClientCall.peer : ClientCall → PublicKey
  | requestOpeningParams _ p _ | selectOpeningParams _ p _ _ | handleMessage _ p => p

/-- The peer named by an event. -/
def LSPS2ClientEvent.peer : LSPS2ClientEvent → PublicKey
  | openingParametersReady _ p _ | invoiceParametersReady _ p .. => p

namespace LSPS2ClientHandler

variable {s : LSPS2ClientHandler}

/-- A call for another peer does the same without the peer. -/
theorem step_without {call : ClientCall} (h : call.peer ≠ q) :
    (s.without q).step call = ((s.step call).1.without q, (s.step call).2) := by
  cases call with
  | requestOpeningParams requestId p token =>
    have h : p ≠ q := h
    simp only [step, requestOpeningParams, perPeerState_without h, setPeer_without h]
  | selectOpeningParams requestId p size params =>
    have h : p ≠ q := h
    simp only [step, selectOpeningParams, perPeerState_without h]
    split <;> rw [setPeer_without h]
  | handleMessage message p =>
    -- A request is refused at once; a response takes its request off and reports it.
    rcases message with ⟨requestId, request⟩ | ⟨requestId, result | error | result | error⟩
    · rfl
    all_goals
      have h : p ≠ q := h
      simp only [step, handleMessage, handleGetInfoResponse, handleGetInfoError, handleBuyResponse,
        handleBuyError, takeGetInfoRequest, takeBuyRequest, perPeerState_without h]
      rcases s.perPeerState p with _ | ps
      · rfl
      simp only [← setPeer_without h]
      repeat' split
      all_goals rfl

/-- A call for the peer changes nothing without it. -/
theorem without_step {call : ClientCall} (h : call.peer = q) :
    (s.step call).1.without q = s.without q := by
  subst h
  cases call with
  | requestOpeningParams requestId p token => exact setPeer_without_self _
  | selectOpeningParams requestId p size params =>
    simp only [step, selectOpeningParams]
    split <;> exact setPeer_without_self _
  | handleMessage message p =>
    rcases message with ⟨requestId, request⟩ | ⟨requestId, result | error | result | error⟩
    · rfl
    all_goals
      simp only [step, handleMessage, handleGetInfoResponse, handleGetInfoError, handleBuyResponse,
        handleBuyError, takeGetInfoRequest, takeBuyRequest]
      repeat' split
      all_goals first | exact setPeer_without_self _ | rfl

/-- The messages of a call are sent to the peer it is for, and its events name this peer. -/
theorem peer_step (s : LSPS2ClientHandler) (call : ClientCall) :
    (∀ m ∈ (s.step call).2.messages, m.1 = call.peer) ∧
      ∀ ev ∈ (s.step call).2.events, ev.peer = call.peer := by
  have heffect := s.effect_step call
  generalize (s.step call).1.getInfoRequests = get, (s.step call).1.buyRequests = buy,
    (s.step call).2 = out at heffect
  cases heffect <;> simp [ClientCall.peer, LSPS2ClientEvent.peer]

end LSPS2ClientHandler

/-! ## The service -/

/-- A call gives out short channel ids of a set to the peer, and others to others. -/
def ServiceCall.SeparatesScids (q : PublicKey) (scids : Set Scid) : ServiceCall → Prop
  | invoiceParametersGenerated p _ scid .. => scid ∈ scids ↔ p = q
  | _ => True

/-- A call is for the peer, or for none: which short channel ids and channel ids are those of
    the peer is given. -/
def ServiceCall.Concerns (q : PublicKey) (scids : Set Scid)
    (peerByChannelId : PartialMap ChannelId PublicKey) : ServiceCall → Prop
  | invalidTokenProvided p .. | openingFeeParamsGenerated p .. | invoiceParametersGenerated p .. =>
    p = q
  | htlcIntercepted scid .. => scid ∈ scids
  | htlcHandlingFailed (.nextHopChannel _ c) | paymentForwarded c => peerByChannelId c = some q
  | htlcHandlingFailed .other => False
  | channelReady _ _ p | handleMessage _ p => p = q

/-- The peers of channel ids, after a call. -/
def ServiceCall.register (peerByChannelId : PartialMap ChannelId PublicKey) :
    ServiceCall → PartialMap ChannelId PublicKey
  | channelReady _ c p => peerByChannelId.insert c p
  | _ => peerByChannelId

namespace LSPS2ServiceHandler

variable {scids : Set Scid} {s : LSPS2ServiceHandler} {p : PublicKey}

/-- The handler without a peer and its short channel ids. -/
noncomputable def without (s : LSPS2ServiceHandler) (q : PublicKey) (scids : Set Scid) :
    LSPS2ServiceHandler :=
  { s with
    perPeerState := s.perPeerState.off {q}
    peerByInterceptScid := s.peerByInterceptScid.off scids }

@[simp] theorem without_without (s : LSPS2ServiceHandler) (q : PublicKey) (scids : Set Scid) :
    (s.without q scids).without q scids = s.without q scids := by
  simp only [without, PartialMap.off_off]

theorem perPeerState_without (h : p ≠ q) :
    (s.without q scids).perPeerState p = s.perPeerState p := PartialMap.off_apply h

theorem promiseSecret_without : (s.without q scids).promiseSecret = s.promiseSecret := rfl

theorem setPeer_without (h : p ≠ q) (ps : PeerState) :
    (s.setPeer p ps).without q scids = (s.without q scids).setPeer p ps :=
  congrArg (fun m => { s.without q scids with perPeerState := m })
    (PartialMap.off_insert (S := {q}) h ps)

theorem setPeer_without_self (ps : PeerState) :
    (s.setPeer q ps).without q scids = s.without q scids :=
  congrArg (fun m => { s.without q scids with perPeerState := m })
    (PartialMap.off_insert_of_mem (S := {q}) rfl ps)

theorem respondGetInfo_without (h : p ≠ q) (requestId : RequestId) (response : LSPS2Response) :
    (s.without q scids).respondGetInfo p requestId response =
      ((s.respondGetInfo p requestId response).1.without q scids,
        (s.respondGetInfo p requestId response).2) := by
  simp only [respondGetInfo, perPeerState_without h]
  split
  · split <;> rw [setPeer_without h]
  · rfl

theorem invoiceParametersGenerated_without (h : p ≠ q) {scid : Scid} (hscid : scid ∉ scids)
    (requestId : RequestId) (cltvExpiryDelta : UInt32) (clientTrustsLsp : Bool)
    (userChannelId : UserChannelId) :
    (s.without q scids).invoiceParametersGenerated p requestId scid cltvExpiryDelta clientTrustsLsp
        userChannelId =
      ((s.invoiceParametersGenerated p requestId scid cltvExpiryDelta clientTrustsLsp
          userChannelId).1.without q scids,
        (s.invoiceParametersGenerated p requestId scid cltvExpiryDelta clientTrustsLsp
          userChannelId).2) := by
  simp only [invoiceParametersGenerated, perPeerState_without h]
  split
  · split
    · -- The channel is sold to another peer, so that its short channel id is none of the set.
      rw [setPeer_without h]
      simp only [without, PartialMap.off_insert hscid]
    · rw [setPeer_without h]
  · rfl

theorem keepRequest_without (h : p ≠ q) (requestId : RequestId) (request : LSPS2Request) :
    (s.without q scids).keepRequest p requestId request =
      (s.keepRequest p requestId request).without q scids := by
  simp only [keepRequest, perPeerState_without h, setPeer_without h]

theorem handleMessage_without (env : Externals) (now : UInt64) (h : p ≠ q)
    (message : LSPS2Message) :
    (s.without q scids).handleMessage env now message p =
      ((s.handleMessage env now message p).1.without q scids,
        (s.handleMessage env now message p).2) := by
  obtain ⟨requestId, params | params⟩ | _ := message
  · exact congrArg (·, _) (keepRequest_without h requestId _)
  · simp only [handleMessage, handleBuyRequest, keepRequest_without h, promiseSecret_without]
    repeat' split
    all_goals rfl
  · rfl

theorem htlcIntercepted_without {scid : Scid} (hscid : scid ∉ scids)
    (h : s.peerByInterceptScid scid ≠ some q) (cm : ChannelManager) (interceptId : InterceptId)
    (amount : UInt64) (paymentHash : PaymentHash) :
    (s.without q scids).htlcIntercepted cm scid interceptId amount paymentHash =
      ((s.htlcIntercepted cm scid interceptId amount paymentHash).1.without q scids,
        (s.htlcIntercepted cm scid interceptId amount paymentHash).2) := by
  have hpeer : (s.without q scids).peerByInterceptScid scid = s.peerByInterceptScid scid :=
    PartialMap.off_apply hscid
  -- The short channel id still leads where it did, and not to the peer.
  simp only [htlcIntercepted, hpeer]
  cases hp : s.peerByInterceptScid scid with
  | none => rfl
  | some p =>
    have h : p ≠ q := fun heq => h (heq ▸ hp)
    simp only [perPeerState_without h]
    repeat' split
    all_goals first | rfl | rw [setPeer_without h]

theorem htlcHandlingFailed_without {c : ChannelId} (h : s.peerByChannelId c ≠ some q)
    (cm : ChannelManager) (node : Option PublicKey) :
    (s.without q scids).htlcHandlingFailed cm (.nextHopChannel node c) =
      ((s.htlcHandlingFailed cm (.nextHopChannel node c)).1.without q scids,
        (s.htlcHandlingFailed cm (.nextHopChannel node c)).2) := by
  have hpeer : (s.without q scids).peerByChannelId c = s.peerByChannelId c := rfl
  simp only [htlcHandlingFailed, hpeer]
  cases hp : s.peerByChannelId c with
  | none => rfl
  | some p =>
    have h : p ≠ q := fun heq => h (heq ▸ hp)
    simp only [perPeerState_without h]
    repeat' split
    all_goals first | rfl | rw [setPeer_without h]

theorem paymentForwarded_without {c : ChannelId} (h : s.peerByChannelId c ≠ some q)
    (cm : ChannelManager) :
    (s.without q scids).paymentForwarded cm c =
      ((s.paymentForwarded cm c).1.without q scids, (s.paymentForwarded cm c).2) := by
  have hpeer : (s.without q scids).peerByChannelId c = s.peerByChannelId c := rfl
  simp only [paymentForwarded, hpeer]
  cases hp : s.peerByChannelId c with
  | none => rfl
  | some p =>
    have h : p ≠ q := fun heq => h (heq ▸ hp)
    simp only [perPeerState_without h]
    repeat' split
    all_goals first | rfl | rw [setPeer_without h]

theorem channelReady_without (h : p ≠ q) (cm : ChannelManager) (userChannelId : UserChannelId)
    (c : ChannelId) :
    (s.without q scids).channelReady cm userChannelId c p =
      ((s.channelReady cm userChannelId c p).1.without q scids,
        (s.channelReady cm userChannelId c p).2) := by
  simp only [channelReady, perPeerState_without h]
  repeat' split
  all_goals first | rfl | (rw [setPeer_without h]; rfl)

/-- Short channel ids of a set lead to the peer, and others to others. -/
def RoutesSeparately (q : PublicKey) (scids : Set Scid) (s : LSPS2ServiceHandler) : Prop :=
  ∀ scid p, s.peerByInterceptScid scid = some p → (scid ∈ scids ↔ p = q)

/-- A call that does not concern the peer does the same without it. -/
theorem step_without (env : Externals) {i : ServiceInput} (hscids : i.call.SeparatesScids q scids)
    (hroutes : s.RoutesSeparately q scids) (h : ¬i.call.Concerns q scids s.peerByChannelId) :
    (s.without q scids).step env i = ((s.step env i).1.without q scids, (s.step env i).2) := by
  obtain ⟨call, cm, now⟩ := i
  cases call with
  | invalidTokenProvided | openingFeeParamsGenerated => exact respondGetInfo_without h ..
  | invoiceParametersGenerated p =>
    exact invoiceParametersGenerated_without h (fun hscid => h (hscids.1 hscid)) ..
  -- Which peer a payment is for is found in the maps.
  | htlcIntercepted =>
    exact htlcIntercepted_without h (fun hq => h ((hroutes _ _ hq).2 rfl)) ..
  | htlcHandlingFailed destination =>
    obtain ⟨node, c⟩ | _ := destination
    · exact htlcHandlingFailed_without h cm node
    · rfl
  | paymentForwarded => exact paymentForwarded_without h cm
  | channelReady => exact channelReady_without h ..
  | handleMessage => exact handleMessage_without _ _ h _

/-- A call that concerns the peer is for no other. -/
theorem eq_of_concerns {call : ServiceCall} (hroutes : s.RoutesSeparately q scids)
    (h : call.Concerns q scids s.peerByChannelId) (hp : call.peer? s = some p) : p = q := by
  cases call with
  -- Short channel ids are separate, and channel ids are looked up as the call is.
  | htlcIntercepted => exact (hroutes _ _ hp).1 h
  | htlcHandlingFailed destination =>
    obtain ⟨node, c⟩ | _ := destination
    · exact Option.some.inj (hp.symm.trans h)
    · cases hp
  | paymentForwarded => exact Option.some.inj (hp.symm.trans h)
  | _ => exact (Option.some.inj hp).symm.trans h

/-- A call that concerns the peer only changes, without it, the peers of channel ids: by
    that of a channel that gets ready. -/
theorem without_step (env : Externals) {i : ServiceInput} (hscids : i.call.SeparatesScids q scids)
    (hroutes : s.RoutesSeparately q scids) (h : i.call.Concerns q scids s.peerByChannelId) :
    (s.step env i).1.without q scids =
      { s.without q scids with peerByChannelId := i.call.register s.peerByChannelId } := by
  obtain ⟨call, cm, now⟩ := i
  cases call with
  | invalidTokenProvided p | openingFeeParamsGenerated p =>
    obtain rfl : p = q := h
    simp only [step, invalidTokenProvided, openingFeeParamsGenerated, respondGetInfo]
    repeat' split
    all_goals first | rfl | exact setPeer_without_self _
  -- A channel sold to the peer has one of its short channel ids, which is left out, too.
  | invoiceParametersGenerated p requestId scid =>
    obtain rfl : p = q := h
    have hscid : scid ∈ scids := hscids.2 rfl
    simp only [step, invoiceParametersGenerated]
    split
    · split
      · rw [setPeer_without_self]
        simp only [without, PartialMap.off_insert_of_mem hscid]
        rfl
      · exact setPeer_without_self _
    · rfl
  | htlcIntercepted scid =>
    simp only [step, htlcIntercepted]
    split
    · next p hp =>
      obtain rfl := (hroutes scid p hp).1 h
      repeat' split
      all_goals first | rfl | exact setPeer_without_self _
    · rfl
  | htlcHandlingFailed destination =>
    obtain ⟨node, c⟩ | _ := destination
    · have h : s.peerByChannelId c = some q := h
      simp only [step, htlcHandlingFailed, h]
      repeat' split
      all_goals first | rfl | exact setPeer_without_self _
    · rfl
  | paymentForwarded c =>
    have h : s.peerByChannelId c = some q := h
    simp only [step, paymentForwarded, h]
    repeat' split
    all_goals first | rfl | exact setPeer_without_self _
  -- The peers of channel ids are all kept, so that this entry is seen.
  | channelReady userChannelId c p =>
    obtain rfl : p = q := h
    simp only [step, channelReady]
    repeat' split
    all_goals first | rfl | exact setPeer_without_self _
  | handleMessage message p =>
    obtain rfl : p = q := h
    exact handleMessage_frame (f := fun s => s.without p scids)
      (fun _ _ => setPeer_without_self _) ..

/-- The routes stay separate. -/
theorem RoutesSeparately.step (h : s.RoutesSeparately q scids) (env : Externals) {i : ServiceInput}
    (hscids : i.call.SeparatesScids q scids) : (s.step env i).1.RoutesSeparately q scids := by
  intro scid p hp
  rw [peerByInterceptScid_step] at hp
  -- A new route is made by the call that sells a channel under it.
  rcases PartialMap.eq_some_of_elim_insert hp with hp | ⟨e, hcreated, rfl, rfl⟩
  · exact h scid p hp
  · generalize i.call = call at hscids hcreated
    cases call with
    | invoiceParametersGenerated =>
      simp only [created] at hcreated
      split at hcreated
      · obtain rfl := Option.some.inj hcreated
        exact hscids
      · cases hcreated
    | _ => cases hcreated

end LSPS2ServiceHandler

end LightningLiquidity
