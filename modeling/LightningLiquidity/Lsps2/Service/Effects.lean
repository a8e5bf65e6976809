import LightningLiquidity.Lsps2.Channel.Trace
import LightningLiquidity.Lsps2.Service

/-!
# What a call to the service does

The handler keeps two things for its peers: the channels sold to them (`channels`,
under a peer and a short channel id), and the requests they have made
(`requests`, under a peer and a request id). What a call can do to them is said
once, by `ChannelsStep` and `RequestsStep`.

A call operates on at most one channel (`target`), found through the maps of the
handler, or stores a new one (`created`).
-/

namespace LightningLiquidity

/-! ## Calls in the examples -/

/-- The functions of other crates, with one promise for all parameters. -/
def sampleExternals : Externals where
  hmacSha256 _ _ := []
  toRfc3339 _ := []

/-- The call made at the epoch, to a channel manager that accepts everything. -/
def ServiceCall.sampleInput (call : ServiceCall) : ServiceInput where
  call := call
  cm _ _ := .ok ()
  now := 0

/-- A peer asks for opening fee parameters. -/
def sampleGetInfo : ServiceInput :=
  (ServiceCall.handleMessage (.request ⟨"1"⟩ (.getInfo ⟨none⟩)) ⟨0⟩).sampleInput

/-- A peer asks to buy a channel for a payment of the given size. -/
def sampleBuy (size : Option UInt64) : ServiceInput :=
  (ServiceCall.handleMessage (.request ⟨"1"⟩ (.buy ⟨sampleParams, size⟩)) ⟨0⟩).sampleInput

/-- The answer to a request to buy a channel. -/
def sampleInvoice : ServiceInput :=
  (ServiceCall.invoiceParametersGenerated ⟨0⟩ ⟨"1"⟩ 42 144 false 0).sampleInput

/-! ## Forwarding -/

/-- Forwarding a payment sends nothing to peers, and has no events. -/
theorem ChannelManager.messages_forwardPayment (cm : ChannelManager) (p : PublicKey)
    (c : ChannelId) (payment : FeePayment) : (cm.forwardPayment p c payment).messages = [] := by
  rw [forwardPayment]
  split <;> rfl

theorem ChannelManager.events_forwardPayment (cm : ChannelManager) (p : PublicKey)
    (c : ChannelId) (payment : FeePayment) : (cm.forwardPayment p c payment).events = [] := by
  rw [forwardPayment]
  split <;> rfl

/-! ## Requests and channels -/

/-- A `buy` request passes the checks made on it. -/
structure BuyRequest.Accepted (env : Externals) (promiseSecret : List UInt8) (now : UInt64)
    (req : BuyRequest) : Prop where
  size : ∀ sz, req.paymentSizeMsat = some sz → AcceptableSize req.openingFeeParams sz
  valid : isValidOpeningFeeParams env now req.openingFeeParams promiseSecret = some true

/-- A request is kept: one to buy only if it passes the checks. -/
def LSPS2Request.Accepted (env : Externals) (promiseSecret : List UInt8) (now : UInt64) :
    LSPS2Request → Prop
  | .getInfo _ => True
  | .buy req => req.Accepted env promiseSecret now

namespace LSPS2ServiceHandler

/-- The channels sold. -/
def channels (s : LSPS2ServiceHandler) : PartialMap (PublicKey × Scid) OutboundJITChannel :=
  .flatten PeerState.outboundChannelsByInterceptScid s.perPeerState

/-- The requests not answered yet. -/
def requests (s : LSPS2ServiceHandler) : PartialMap (PublicKey × RequestId) LSPS2Request :=
  .flatten PeerState.pendingRequests s.perPeerState

/-- The channel a call operates on, and the operation. -/
def target (s : LSPS2ServiceHandler) : ServiceCall → Option ((PublicKey × Scid) × ChannelOp)
  | .htlcIntercepted scid interceptId expectedOutboundAmountMsat paymentHash => do
    let p ← s.peerByInterceptScid scid
    let _ ← s.channels (p, scid)
    some ((p, scid), .htlcIntercepted { interceptId, expectedOutboundAmountMsat, paymentHash })
  | .htlcHandlingFailed (.nextHopChannel _ c) => do
    let p ← s.peerByChannelId c
    let scid ← (← s.perPeerState p).interceptScidByChannelId c
    let _ ← s.channels (p, scid)
    some ((p, scid), .htlcHandlingFailed)
  | .paymentForwarded c => do
    let p ← s.peerByChannelId c
    let scid ← (← s.perPeerState p).interceptScidByChannelId c
    let _ ← s.channels (p, scid)
    some ((p, scid), .paymentForwarded)
  | .channelReady userChannelId c p => do
    let scid ← (← s.perPeerState p).interceptScidByUserChannelId userChannelId
    let _ ← s.channels (p, scid)
    some ((p, scid), .channelReady c)
  | _ => none

/-- The channel a call stores, in answer to a `buy` request. -/
def created (s : LSPS2ServiceHandler) : ServiceCall → Option ((PublicKey × Scid) × OutboundJITChannel)
  | .invoiceParametersGenerated p requestId scid _ _ userChannelId =>
    match s.requests (p, requestId) with
    | some (.buy req) =>
      some ((p, scid), .new req.paymentSizeMsat req.openingFeeParams userChannelId)
    | _ => none
  | _ => none

/-- How a call finds the channel it operates on. -/
inductive Targets (s : LSPS2ServiceHandler) : ServiceCall → PublicKey × Scid → ChannelOp → Prop
  | htlcIntercepted {p : PublicKey} {scid : Scid} {interceptId : InterceptId}
      {expectedOutboundAmountMsat : UInt64} {paymentHash : PaymentHash}
      (hp : s.peerByInterceptScid scid = some p) :
      Targets s (.htlcIntercepted scid interceptId expectedOutboundAmountMsat paymentHash) (p, scid)
        (.htlcIntercepted { interceptId, expectedOutboundAmountMsat, paymentHash })
  | htlcHandlingFailed {node : Option PublicKey} {c : ChannelId} {p : PublicKey} {ps : PeerState}
      {scid : Scid} (hp : s.peerByChannelId c = some p) (hps : s.perPeerState p = some ps)
      (hscid : ps.interceptScidByChannelId c = some scid) :
      Targets s (.htlcHandlingFailed (.nextHopChannel node c)) (p, scid) .htlcHandlingFailed
  | paymentForwarded {c : ChannelId} {p : PublicKey} {ps : PeerState} {scid : Scid}
      (hp : s.peerByChannelId c = some p) (hps : s.perPeerState p = some ps)
      (hscid : ps.interceptScidByChannelId c = some scid) :
      Targets s (.paymentForwarded c) (p, scid) .paymentForwarded
  | channelReady {u : UserChannelId} {c : ChannelId} {p : PublicKey} {ps : PeerState} {scid : Scid}
      (hps : s.perPeerState p = some ps) (hscid : ps.interceptScidByUserChannelId u = some scid) :
      Targets s (.channelReady u c p) (p, scid) (.channelReady c)

theorem Targets.of_target {s : LSPS2ServiceHandler} {call : ServiceCall} {k : PublicKey × Scid}
    {op : ChannelOp} (h : s.target call = some (k, op)) : s.Targets call k op := by
  cases call with
  | htlcIntercepted scid =>
    simp only [target, Option.bind_eq_bind, Option.bind_eq_some_iff] at h
    obtain ⟨p, hp, ch, -, heq⟩ := h
    obtain ⟨rfl, rfl⟩ := Prod.mk.inj (Option.some.inj heq)
    exact .htlcIntercepted hp
  | htlcHandlingFailed destination =>
    cases destination with
    | nextHopChannel node c =>
      simp only [target, Option.bind_eq_bind, Option.bind_eq_some_iff] at h
      obtain ⟨p, hp, ps, hps, scid, hscid, ch, -, heq⟩ := h
      obtain ⟨rfl, rfl⟩ := Prod.mk.inj (Option.some.inj heq)
      exact .htlcHandlingFailed hp hps hscid
    | other => cases h
  | paymentForwarded c =>
    simp only [target, Option.bind_eq_bind, Option.bind_eq_some_iff] at h
    obtain ⟨p, hp, ps, hps, scid, hscid, ch, -, heq⟩ := h
    obtain ⟨rfl, rfl⟩ := Prod.mk.inj (Option.some.inj heq)
    exact .paymentForwarded hp hps hscid
  | channelReady u c p =>
    simp only [target, Option.bind_eq_bind, Option.bind_eq_some_iff] at h
    obtain ⟨ps, hps, scid, hscid, ch, -, heq⟩ := h
    obtain ⟨rfl, rfl⟩ := Prod.mk.inj (Option.some.inj heq)
    exact .channelReady hps hscid
  | _ => cases h

/-- What a call can do to the channels sold. -/
inductive ChannelsStep (s : LSPS2ServiceHandler) (call : ServiceCall)
    (channels' : PartialMap (PublicKey × Scid) OutboundJITChannel) : Prop
  | keep (h : channels' = s.channels) (htarget : s.target call = none)
      (hcreated : s.created call = none)
  | create {k : PublicKey × Scid} {ch : OutboundJITChannel} (h : channels' = s.channels.insert k ch)
      (htarget : s.target call = none) (hcreated : s.created call = some (k, ch))
  | operate {k : PublicKey × Scid} {op : ChannelOp} {ch : OutboundJITChannel}
      (h : channels' = s.channels.insert k (ch.step op).1) (hch : s.channels k = some ch)
      (htarget : s.target call = some (k, op)) (hcreated : s.created call = none)
  /-- The channel refuses an HTLC, and is removed. -/
  | remove {k : PublicKey × Scid} {op : ChannelOp} {ch : OutboundJITChannel}
      (h : channels' = s.channels.remove k) (hch : s.channels k = some ch)
      (htarget : s.target call = some (k, op)) (hcreated : s.created call = none)
      (hrefuses : ¬AcceptsHtlc ch op)

/-- What a call can do to the requests. -/
inductive RequestsStep (env : Externals) (s : LSPS2ServiceHandler) (i : ServiceInput)
    (requests' : PartialMap (PublicKey × RequestId) LSPS2Request) : Prop
  | keep (h : requests' = s.requests)
  | answer {k : PublicKey × RequestId} (h : requests' = s.requests.remove k)
  | receive {p : PublicKey} {requestId : RequestId} {request : LSPS2Request}
      (h : requests' = s.requests.insert (p, requestId) request)
      (hcall : i.call = .handleMessage (.request requestId request) p)
      (haccepted : request.Accepted env s.promiseSecret i.now)

/-- A call that ends in an error changes nothing and sends nothing, so that all
    goes on as if it had not been made. -/
def Unchanged (env : Externals) (s : LSPS2ServiceHandler) (i : ServiceInput) : Prop :=
  (∃ e, (s.step env i).2.result = .err e) →
    (s.step env i).1 = s ∧ (s.step env i).2.messages = [] ∧
      ∀ js, (machine env).trace (s.step env i).1 js = (machine env).trace s js

theorem unchanged_of_eq {env : Externals} {s : LSPS2ServiceHandler} {i : ServiceInput}
    (hstate : (s.step env i).1 = s) (hmessages : (s.step env i).2.messages = []) :
    Unchanged env s i := fun _ => ⟨hstate, hmessages, fun _ => by rw [hstate]⟩

/-! ## The channels -/

variable {env : Externals} {s : LSPS2ServiceHandler} {p : PublicKey} {ps : PeerState}

theorem channels_apply (hps : s.perPeerState p = some ps) (scid : Scid) :
    s.channels (p, scid) = ps.outboundChannelsByInterceptScid scid :=
  PartialMap.flatten_apply hps scid

theorem requests_apply (hps : s.perPeerState p = some ps) (requestId : RequestId) :
    s.requests (p, requestId) = ps.pendingRequests requestId :=
  PartialMap.flatten_apply hps requestId

theorem channels_eq_none (hps : s.perPeerState p = none) (scid : Scid) :
    s.channels (p, scid) = none := by
  rw [channels, PartialMap.flatten, hps, Option.bind_none]

theorem requests_eq_none (hps : s.perPeerState p = none) (requestId : RequestId) :
    s.requests (p, requestId) = none := by
  rw [requests, PartialMap.flatten, hps, Option.bind_none]

/-- Replacing the state of a peer changes nothing if its channels are the same. -/
theorem channels_setPeer_self {ps' : PeerState}
    (hps : ∀ scid, s.channels (p, scid) = ps.outboundChannelsByInterceptScid scid)
    (h : ps'.outboundChannelsByInterceptScid = ps.outboundChannelsByInterceptScid) :
    (s.setPeer p ps').channels = s.channels := PartialMap.flatten_insert hps h

/-- Replacing the state of a peer stores a channel if that is what happens to it. -/
theorem channels_setPeer_insert {ps' : PeerState}
    (hps : ∀ scid, s.channels (p, scid) = ps.outboundChannelsByInterceptScid scid) {scid : Scid}
    {ch : OutboundJITChannel}
    (h : ps'.outboundChannelsByInterceptScid = ps.outboundChannelsByInterceptScid.insert scid ch) :
    (s.setPeer p ps').channels = s.channels.insert (p, scid) ch :=
  PartialMap.flatten_insert_insert hps h

/-- Replacing the state of a peer removes a channel if that is what happens to it. -/
theorem channels_setPeer_remove {ps' : PeerState}
    (hps : ∀ scid, s.channels (p, scid) = ps.outboundChannelsByInterceptScid scid) {scid : Scid}
    (h : ps'.outboundChannelsByInterceptScid = ps.outboundChannelsByInterceptScid.remove scid) :
    (s.setPeer p ps').channels = s.channels.remove (p, scid) :=
  PartialMap.flatten_insert_remove hps h

/-- Answering a `get_info` request does nothing to the channels. -/
theorem channels_respondGetInfo (s : LSPS2ServiceHandler) (p : PublicKey) (requestId : RequestId)
    (response : LSPS2Response) : (s.respondGetInfo p requestId response).1.channels = s.channels := by
  simp only [respondGetInfo]
  split
  · next ps hps =>
    split <;> exact PartialMap.flatten_insert (channels_apply hps) rfl
  · rfl

/-- Keeping a request does nothing to the channels. -/
theorem channels_keepRequest (s : LSPS2ServiceHandler) (p : PublicKey) (requestId : RequestId)
    (request : LSPS2Request) : (s.keepRequest p requestId request).channels = s.channels := by
  rw [keepRequest]
  cases hps : s.perPeerState p with
  | none => exact PartialMap.flatten_insert (a := PeerState.new) (channels_eq_none hps) rfl
  | some ps => exact PartialMap.flatten_insert (channels_apply hps) rfl

/-- Messages of peers do nothing to the channels. -/
theorem channels_handleMessage (s : LSPS2ServiceHandler) (now : UInt64) (message : LSPS2Message)
    (p : PublicKey) : (s.handleMessage env now message p).1.channels = s.channels := by
  obtain ⟨requestId, params | params⟩ | _ := message
  · exact channels_keepRequest ..
  · simp only [handleMessage, handleBuyRequest]
    split
    · rfl
    · split
      · rfl
      · rfl
      · exact channels_keepRequest ..
  · rfl

theorem channelsStep_invoiceParametersGenerated (s : LSPS2ServiceHandler) (p : PublicKey)
    (requestId : RequestId) (scid : Scid) (cltvExpiryDelta : UInt32) (clientTrustsLsp : Bool)
    (userChannelId : UserChannelId) :
    s.ChannelsStep
      (.invoiceParametersGenerated p requestId scid cltvExpiryDelta clientTrustsLsp userChannelId)
      (s.invoiceParametersGenerated p requestId scid cltvExpiryDelta clientTrustsLsp
        userChannelId).1.channels := by
  simp only [invoiceParametersGenerated]
  split
  · next ps hps =>
    split
    · next req hreq =>
      refine .create (channels_setPeer_insert (channels_apply hps) rfl) rfl ?_
      simp only [created, requests_apply hps, hreq]
    · next hreq =>
      refine .keep (channels_setPeer_self (channels_apply hps) rfl) rfl ?_
      rw [created, requests_apply hps]
      split
      · next h => exact absurd h (hreq _)
      · rfl
  · next hps =>
    refine .keep rfl rfl ?_
    simp only [created, requests_eq_none hps]

/-- Storing a channel after an operation on it. -/
theorem channels_setPeer_step (ch : OutboundJITChannel) (op : ChannelOp) (scid : Scid)
    {ch' : OutboundJITChannel} (hstep : (ch.step op).1 = ch') {ps' : PeerState}
    (hps : s.perPeerState p = some ps)
    (hps' : ps'.outboundChannelsByInterceptScid = ps.outboundChannelsByInterceptScid) :
    (s.setPeer p (ps'.insertOutboundChannel scid ch')).channels =
      s.channels.insert (p, scid) (ch.step op).1 := by
  rw [hstep]
  refine channels_setPeer_insert (channels_apply hps) ?_
  rw [PeerState.insertOutboundChannel, hps']

theorem channelsStep_htlcIntercepted (s : LSPS2ServiceHandler) (cm : ChannelManager) (scid : Scid)
    (interceptId : InterceptId) (amount : UInt64) (paymentHash : PaymentHash) :
    s.ChannelsStep (.htlcIntercepted scid interceptId amount paymentHash)
      (s.htlcIntercepted cm scid interceptId amount paymentHash).1.channels := by
  simp only [htlcIntercepted]
  split
  · next p hp =>
    split
    · next ps hps =>
      have hch := channels_apply hps scid
      split
      · next ch hch' =>
        rw [hch'] at hch
        let op : ChannelOp := .htlcIntercepted ⟨interceptId, amount, paymentHash⟩
        have htarget : s.target (.htlcIntercepted scid interceptId amount paymentHash) =
            some ((p, scid), op) := by simp [target, hp, hch, op]
        rcases hstep : ch.htlcIntercepted ⟨interceptId, amount, paymentHash⟩ with ⟨ch', r⟩
        have hfst : (ch.step op).1 = ch' := congrArg Prod.fst hstep
        have hset := channels_setPeer_step ch op scid hfst hps rfl
        rcases r with e | _ | (params | c | ⟨c, payment⟩)
        · -- A channel that refuses the HTLC is removed once the HTLC has been failed; in all
          -- other cases it is stored as the operation has left it.
          rcases hcm : cm.callAll 0 [.failInterceptedHtlc interceptId] with ⟨calls, _ | _ | _⟩
          · refine .remove (channels_setPeer_remove (channels_apply hps) ?_) hch htarget rfl ?_
            · exact PartialMap.remove_insert ..
            · rw [AcceptsHtlc, OutboundJITChannel.step, hstep]
              exact fun h => Bool.noConfusion (h rfl)
          · exact .operate hset hch htarget rfl
          · exact .operate hset hch htarget rfl
        all_goals exact .operate hset hch htarget rfl
      · next hch' => exact .keep rfl (by simp [target, hp, hch, hch']) rfl
    · next hps => exact .keep rfl (by simp [target, hp, channels_eq_none hps]) rfl
  · next hp => exact .keep rfl (by simp [target, hp]) rfl

theorem channelsStep_htlcHandlingFailed (s : LSPS2ServiceHandler) (cm : ChannelManager)
    (destination : HTLCDestination) :
    s.ChannelsStep (.htlcHandlingFailed destination)
      (s.htlcHandlingFailed cm destination).1.channels := by
  obtain ⟨node, c⟩ | _ := destination
  · simp only [htlcHandlingFailed]
    split
    · next p hp =>
      split
      · next ps hps =>
        split
        · next scid hscid =>
          have hch := channels_apply hps scid
          split
          · next ch hch' =>
            rw [hch'] at hch
            have htarget : s.target (.htlcHandlingFailed (.nextHopChannel node c)) =
                some ((p, scid), .htlcHandlingFailed) := by simp [target, hp, hps, hscid, hch]
            rcases hstep : ch.htlcHandlingFailed with ⟨ch', r⟩
            have hfst : (ch.step .htlcHandlingFailed).1 = ch' := congrArg Prod.fst hstep
            have hset := channels_setPeer_step ch .htlcHandlingFailed scid hfst hps rfl
            rcases r with e | _ | action <;> exact .operate hset hch htarget rfl
          · next hch' => exact .keep rfl (by simp [target, hp, hps, hscid, hch, hch']) rfl
        · next hscid => exact .keep rfl (by simp [target, hp, hps, hscid]) rfl
      · next hps => exact .keep rfl (by simp [target, hp, hps]) rfl
    · next hp => exact .keep rfl (by simp [target, hp]) rfl
  · exact .keep rfl rfl rfl

theorem channelsStep_paymentForwarded (s : LSPS2ServiceHandler) (cm : ChannelManager)
    (c : ChannelId) :
    s.ChannelsStep (.paymentForwarded c) (s.paymentForwarded cm c).1.channels := by
  simp only [paymentForwarded]
  split
  · next p hp =>
    split
    · next ps hps =>
      split
      · next scid hscid =>
        have hch := channels_apply hps scid
        split
        · next ch hch' =>
          rw [hch'] at hch
          have htarget : s.target (.paymentForwarded c) = some ((p, scid), .paymentForwarded) := by
            simp [target, hp, hps, hscid, hch]
          rcases hstep : ch.paymentForwarded with ⟨ch', r⟩
          have hfst : (ch.step .paymentForwarded).1 = ch' := congrArg Prod.fst hstep
          have hset := channels_setPeer_step ch .paymentForwarded scid hfst hps rfl
          rcases r with e | _ | action <;> exact .operate hset hch htarget rfl
        · next hch' => exact .keep rfl (by simp [target, hp, hps, hscid, hch, hch']) rfl
      · next hscid => exact .keep rfl (by simp [target, hp, hps, hscid]) rfl
    · next hps => exact .keep rfl (by simp [target, hp, hps]) rfl
  · next hp => exact .keep rfl (by simp [target, hp]) rfl

theorem channelsStep_channelReady (s : LSPS2ServiceHandler) (cm : ChannelManager)
    (userChannelId : UserChannelId) (c : ChannelId) (p : PublicKey) :
    s.ChannelsStep (.channelReady userChannelId c p)
      (s.channelReady cm userChannelId c p).1.channels := by
  simp only [channelReady]
  split
  · next ps hps =>
    split
    · next scid hscid =>
      have hch := channels_apply hps scid
      split
      · next ch hch' =>
        rw [hch'] at hch
        have htarget : s.target (.channelReady userChannelId c p) =
            some ((p, scid), .channelReady c) := by simp [target, hps, hscid, hch]
        rcases hstep : ch.channelReady c with ⟨ch', r⟩
        have hfst : (ch.step (.channelReady c)).1 = ch' := congrArg Prod.fst hstep
        rcases r with e | action
        all_goals exact .operate (channels_setPeer_step ch _ scid hfst hps rfl) hch htarget rfl
      · next hch' =>
        refine .keep (channels_setPeer_self (channels_apply hps) rfl) ?_ rfl
        simp [target, hps, hscid, hch, hch']
    · next hscid => exact .keep rfl (by simp [target, hps, hscid]) rfl
  · next hps => exact .keep rfl (by simp [target, hps]) rfl

/-- What a call does to the channels sold. -/
theorem channelsStep_step (env : Externals) (s : LSPS2ServiceHandler) (i : ServiceInput) :
    s.ChannelsStep i.call (s.step env i).1.channels := by
  obtain ⟨call, cm, now⟩ := i
  cases call with
  | invalidTokenProvided | openingFeeParamsGenerated =>
    exact .keep (channels_respondGetInfo ..) rfl rfl
  | invoiceParametersGenerated => exact channelsStep_invoiceParametersGenerated ..
  | htlcIntercepted => exact channelsStep_htlcIntercepted ..
  | htlcHandlingFailed => exact channelsStep_htlcHandlingFailed ..
  | paymentForwarded => exact channelsStep_paymentForwarded ..
  | channelReady => exact channelsStep_channelReady ..
  | handleMessage => exact .keep (channels_handleMessage ..) rfl rfl

/-- What holds of every channel created, and is preserved by every operation on a
    channel, still holds of all channels sold. -/
theorem ChannelsStep.forall {call : ServiceCall}
    {channels' : PartialMap (PublicKey × Scid) OutboundJITChannel}
    (h : s.ChannelsStep call channels') {P : OutboundJITChannel → Prop}
    (hcreated : ∀ k ch, s.created call = some (k, ch) → P ch)
    (hstep : ∀ ch op, P ch → P (ch.step op).1) (hs : ∀ k ch, s.channels k = some ch → P ch) :
    ∀ k ch, channels' k = some ch → P ch := by
  cases h with
  | keep h => exact h ▸ hs
  | create h _ hc => exact h ▸ PartialMap.forall_insert hs (hcreated _ _ hc)
  | operate h hch => exact h ▸ PartialMap.forall_insert hs (hstep _ _ (hs _ _ hch))
  | remove h => exact h ▸ PartialMap.forall_remove hs

/-! ## The requests -/

/-- Replacing the state of a peer changes nothing if its requests are the same. -/
theorem requests_setPeer_self {ps' : PeerState} (h : ps'.pendingRequests = ps.pendingRequests)
    (hps : s.perPeerState p = some ps) : (s.setPeer p ps').requests = s.requests :=
  PartialMap.flatten_insert (requests_apply hps) h

/-- Replacing the state of a peer takes off a request if that is what happens to it. -/
theorem requests_setPeer_remove {ps' : PeerState}
    (hps : ∀ requestId, s.requests (p, requestId) = ps.pendingRequests requestId)
    {requestId : RequestId} (h : ps'.pendingRequests = ps.pendingRequests.remove requestId) :
    (s.setPeer p ps').requests = s.requests.remove (p, requestId) :=
  PartialMap.flatten_insert_remove hps h

/-- Answering a `get_info` request takes it off, whether or not it is one. -/
theorem requests_respondGetInfo (s : LSPS2ServiceHandler) (p : PublicKey) (requestId : RequestId)
    (response : LSPS2Response) :
    (s.respondGetInfo p requestId response).1.requests = s.requests.remove (p, requestId) := by
  simp only [respondGetInfo]
  split
  · next ps hps => split <;> exact requests_setPeer_remove (requests_apply hps) rfl
  · next hps => exact (PartialMap.remove_eq_self_iff.2 (requests_eq_none hps requestId)).symm

/-- Answering a `buy` request takes it off, whether or not it is one. -/
theorem requests_invoiceParametersGenerated (s : LSPS2ServiceHandler) (p : PublicKey)
    (requestId : RequestId) (scid : Scid) (cltvExpiryDelta : UInt32) (clientTrustsLsp : Bool)
    (userChannelId : UserChannelId) :
    (s.invoiceParametersGenerated p requestId scid cltvExpiryDelta clientTrustsLsp
      userChannelId).1.requests = s.requests.remove (p, requestId) := by
  simp only [invoiceParametersGenerated]
  split
  · next ps hps => split <;> exact requests_setPeer_remove (requests_apply hps) rfl
  · next hps => exact (PartialMap.remove_eq_self_iff.2 (requests_eq_none hps requestId)).symm

/-- Keeping a request adds it. -/
theorem requests_keepRequest (s : LSPS2ServiceHandler) (p : PublicKey) (requestId : RequestId)
    (request : LSPS2Request) :
    (s.keepRequest p requestId request).requests = s.requests.insert (p, requestId) request := by
  rw [keepRequest]
  cases hps : s.perPeerState p with
  | none =>
    exact PartialMap.flatten_insert_insert (a := PeerState.new) (requests_eq_none hps) rfl
  | some ps => exact PartialMap.flatten_insert_insert (requests_apply hps) rfl

/-- Events of the node do nothing to the requests. -/
theorem requests_htlcIntercepted (s : LSPS2ServiceHandler) (cm : ChannelManager) (scid : Scid)
    (interceptId : InterceptId) (amount : UInt64) (paymentHash : PaymentHash) :
    (s.htlcIntercepted cm scid interceptId amount paymentHash).1.requests = s.requests := by
  simp only [htlcIntercepted]
  repeat' split
  all_goals first | rfl | (refine requests_setPeer_self ?_ ‹s.perPeerState _ = some _›; rfl)

theorem requests_htlcHandlingFailed (s : LSPS2ServiceHandler) (cm : ChannelManager)
    (destination : HTLCDestination) :
    (s.htlcHandlingFailed cm destination).1.requests = s.requests := by
  simp only [htlcHandlingFailed]
  repeat' split
  all_goals first | rfl | (refine requests_setPeer_self ?_ ‹s.perPeerState _ = some _›; rfl)

theorem requests_paymentForwarded (s : LSPS2ServiceHandler) (cm : ChannelManager) (c : ChannelId) :
    (s.paymentForwarded cm c).1.requests = s.requests := by
  simp only [paymentForwarded]
  repeat' split
  all_goals first | rfl | (refine requests_setPeer_self ?_ ‹s.perPeerState _ = some _›; rfl)

theorem requests_channelReady (s : LSPS2ServiceHandler) (cm : ChannelManager)
    (userChannelId : UserChannelId) (c : ChannelId) (p : PublicKey) :
    (s.channelReady cm userChannelId c p).1.requests = s.requests := by
  simp only [channelReady]
  repeat' split
  all_goals first | rfl | (refine requests_setPeer_self ?_ ‹s.perPeerState _ = some _›; rfl)

/-- No error is found with a payment size iff it is acceptable. -/
theorem checkPaymentSize_eq_none {params : OpeningFeeParams} {sz : UInt64} :
    checkPaymentSize params sz = none ↔ AcceptableSize params sz := by
  rw [checkPaymentSize]
  split
  · next h => simp only [reduceCtorEq, false_iff]; exact fun hacc => UInt64.not_lt.2 hacc.min_le h
  split
  · next h => simp only [reduceCtorEq, false_iff]; exact fun hacc => UInt64.not_lt.2 hacc.le_max h
  -- Within the limits, only the fee counts.
  next hmin hmax =>
  split
  · next fee hfee =>
    split
    · next hle =>
      simp only [reduceCtorEq, false_iff]
      rintro ⟨-, -, fee', hfee', hlt⟩
      obtain rfl := Option.some.inj (hfee.symm.trans hfee')
      exact UInt64.not_lt.2 hle hlt
    · next hlt =>
      exact iff_of_true rfl ⟨UInt64.not_lt.1 hmin, UInt64.not_lt.1 hmax, fee, hfee,
        UInt64.not_le.1 hlt⟩
  · next hfee =>
    simp only [reduceCtorEq, false_iff]
    rintro ⟨-, -, fee', hfee', -⟩
    cases hfee.symm.trans hfee'

/-- A `buy` request passes the checks, and is kept; or it ends in an error or a
    panic that changes nothing. -/
theorem handleBuyRequest_cases (env : Externals) (now : UInt64) (s : LSPS2ServiceHandler)
    (requestId : RequestId) (p : PublicKey) (req : BuyRequest) :
    (req.Accepted env s.promiseSecret now ∧
      (s.handleBuyRequest env now requestId p req).1 = s.keepRequest p requestId (.buy req) ∧
      (s.handleBuyRequest env now requestId p req).2.result = .ok) ∨
    (¬req.Accepted env s.promiseSecret now ∧
      (s.handleBuyRequest env now requestId p req).1 = s ∧
      (s.handleBuyRequest env now requestId p req).2.result ≠ .ok) := by
  rw [handleBuyRequest]
  split
  · next hsize =>
    obtain ⟨sz, hsz, hcheck⟩ := Option.bind_eq_some_iff.1 hsize
    refine .inr ⟨fun hacc => ?_, rfl, nofun⟩
    rw [checkPaymentSize_eq_none.2 (hacc.size sz hsz)] at hcheck
    cases hcheck
  · next hsize =>
    split
    -- The expiry is before the epoch, or the offer is not valid, or it is.
    · next hvalid => exact .inr ⟨fun hacc => (nomatch hvalid.symm.trans hacc.valid), rfl, nofun⟩
    · next hvalid => exact .inr ⟨fun hacc => (nomatch hvalid.symm.trans hacc.valid), rfl, nofun⟩
    · next hvalid =>
      refine .inl ⟨⟨fun sz hsz => ?_, hvalid⟩, rfl, rfl⟩
      rw [hsz, Option.bind_some] at hsize
      exact checkPaymentSize_eq_none.1 hsize

/-- What keeping a request leaves as it is, a message does. -/
theorem handleMessage_frame {α : Type*} {f : LSPS2ServiceHandler → α} {s : LSPS2ServiceHandler}
    {p : PublicKey} (hkeep : ∀ requestId request, f (s.keepRequest p requestId request) = f s)
    (env : Externals) (now : UInt64) (message : LSPS2Message) :
    f (s.handleMessage env now message p).1 = f s := by
  obtain ⟨requestId, params | params⟩ | _ := message
  · exact hkeep requestId (.getInfo params)
  · rcases handleBuyRequest_cases env now s requestId p params with ⟨-, h, -⟩ | ⟨-, h, -⟩
    · exact (congrArg f h).trans (hkeep requestId (.buy params))
    · exact congrArg f h
  · rfl

/-- What a call does to the requests. -/
theorem requestsStep_step (env : Externals) (s : LSPS2ServiceHandler) (i : ServiceInput) :
    s.RequestsStep env i (s.step env i).1.requests := by
  obtain ⟨call, cm, now⟩ := i
  cases call with
  | invalidTokenProvided | openingFeeParamsGenerated => exact .answer (requests_respondGetInfo ..)
  | invoiceParametersGenerated => exact .answer (requests_invoiceParametersGenerated ..)
  | htlcIntercepted => exact .keep (requests_htlcIntercepted ..)
  | htlcHandlingFailed => exact .keep (requests_htlcHandlingFailed ..)
  | paymentForwarded => exact .keep (requests_paymentForwarded ..)
  | channelReady => exact .keep (requests_channelReady ..)
  | handleMessage message p =>
    obtain ⟨requestId, params | params⟩ | _ := message
    · exact .receive (requests_keepRequest ..) rfl trivial
    · rcases handleBuyRequest_cases env now s requestId p params with ⟨hacc, h, -⟩ | ⟨-, h, -⟩
      · exact .receive (congrArg requests h |>.trans (requests_keepRequest ..)) rfl hacc
      · exact .keep (congrArg requests h)
    · exact .keep rfl

end LSPS2ServiceHandler

end LightningLiquidity
