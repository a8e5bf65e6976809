import LightningLiquidity.Lsps2.Service.Stranded

/-!
# The indices of the service

Channels are found through four maps (`peerByInterceptScid`, `userIndex`, `channelIndex` and
`peerByChannelId`). Calls only ever set entries of them: those of a channel when it is sold, and
those of a channel id when it is reported to be ready.

As long as no short channel id and no user channel id is given to two channels, and no channel id
is reported for two, no entry is replaced, and every channel stored is found under all its ids
(`channels_indexed`).
-/

namespace LightningLiquidity

open OutboundJITChannelState

/-- The id of the channel that was opened. -/
def OutboundJITChannelState.channelId? : OutboundJITChannelState → Option ChannelId
  | pendingInitialPayment _ | pendingChannelOpen .. => none
  | pendingPaymentForward _ _ c | pendingPayment _ _ c | paymentForwarded c => some c

/-- A channel gets its channel id by being ready, and keeps it. -/
theorem OutboundJITChannelState.Transition.channelId {params : OpeningFeeParams}
    {size : Option UInt64} {st st' : OutboundJITChannelState} {op : ChannelOp} {r : ChannelResult}
    (h : Transition params size st op st' r) {c : ChannelId} (hc : st'.channelId? = some c) :
    st.channelId? = some c ∨ op = .channelReady c := by
  cases h with
  | ready => exact .inr (congrArg ChannelOp.channelReady (Option.some.inj hc))
  | reject | hold | openChannel | holdOpen | notReady => cases hc
  | _ => exact .inl hc

/-- A call reports a channel to be ready: its user channel id, channel id and peer. -/
def ServiceCall.ready? : ServiceCall → Option (UserChannelId × ChannelId × PublicKey)
  | channelReady userChannelId c p => some (userChannelId, c, p)
  | _ => none

namespace LSPS2ServiceHandler

/-- The short channel ids of the channels of peers, by their user channel ids. -/
def userIndex (s : LSPS2ServiceHandler) : PartialMap (PublicKey × UserChannelId) Scid :=
  .flatten PeerState.interceptScidByUserChannelId s.perPeerState

/-- The short channel ids of the channels of peers, by their channel ids. -/
def channelIndex (s : LSPS2ServiceHandler) : PartialMap (PublicKey × ChannelId) Scid :=
  .flatten PeerState.interceptScidByChannelId s.perPeerState

/-- The channel id a call enters into the index of a peer, with the short channel id. -/
def registers (s : LSPS2ServiceHandler) (call : ServiceCall) :
    Option ((PublicKey × ChannelId) × Scid) :=
  call.ready?.bind fun e => (s.userIndex (e.2.2, e.1)).map fun scid => ((e.2.2, e.2.1), scid)

variable {env : Externals} {s : LSPS2ServiceHandler} {i : ServiceInput} {p : PublicKey}
  {ps ps' : PeerState}

theorem userIndex_apply (hps : s.perPeerState p = some ps) (userChannelId : UserChannelId) :
    s.userIndex (p, userChannelId) = ps.interceptScidByUserChannelId userChannelId :=
  PartialMap.flatten_apply hps userChannelId

theorem userIndex_eq_none (hps : s.perPeerState p = none) (userChannelId : UserChannelId) :
    s.userIndex (p, userChannelId) = none := by
  rw [userIndex, PartialMap.flatten, hps, Option.bind_none]

theorem channelIndex_apply (hps : s.perPeerState p = some ps) (c : ChannelId) :
    s.channelIndex (p, c) = ps.interceptScidByChannelId c :=
  PartialMap.flatten_apply hps c

/-- Replacing the state of a peer changes nothing if its index is the same. -/
theorem userIndex_setPeer_self (hps : s.perPeerState p = some ps)
    (h : ps'.interceptScidByUserChannelId = ps.interceptScidByUserChannelId) :
    (s.setPeer p ps').userIndex = s.userIndex :=
  PartialMap.flatten_insert (userIndex_apply hps) h

theorem channelIndex_setPeer_self (hps : s.perPeerState p = some ps)
    (h : ps'.interceptScidByChannelId = ps.interceptScidByChannelId) :
    (s.setPeer p ps').channelIndex = s.channelIndex :=
  PartialMap.flatten_insert (channelIndex_apply hps) h

/-- Keeping a request does nothing to the indices. -/
theorem userIndex_keepRequest (s : LSPS2ServiceHandler) (p : PublicKey) (requestId : RequestId)
    (request : LSPS2Request) : (s.keepRequest p requestId request).userIndex = s.userIndex := by
  rw [keepRequest]
  cases hps : s.perPeerState p with
  | none => exact PartialMap.flatten_insert (a := PeerState.new) (userIndex_eq_none hps) rfl
  | some ps => exact userIndex_setPeer_self hps rfl

theorem channelIndex_keepRequest (s : LSPS2ServiceHandler) (p : PublicKey) (requestId : RequestId)
    (request : LSPS2Request) :
    (s.keepRequest p requestId request).channelIndex = s.channelIndex := by
  rw [keepRequest]
  cases hps : s.perPeerState p with
  | none =>
    refine PartialMap.flatten_insert (a := PeerState.new) (fun c => ?_) rfl
    rw [PartialMap.flatten, hps, Option.bind_none]
    rfl
  | some ps => exact channelIndex_setPeer_self hps rfl

/-- A call that sells a channel enters its user channel id; no other changes the index. -/
theorem userIndex_step (env : Externals) (s : LSPS2ServiceHandler) (i : ServiceInput) :
    (s.step env i).1.userIndex = (s.created i.call).elim s.userIndex fun e =>
      s.userIndex.insert (e.1.1, e.2.userChannelId) e.1.2 := by
  obtain ⟨call, cm, now⟩ := i
  cases call with
  | handleMessage message p => exact handleMessage_frame (userIndex_keepRequest s p) ..
  | invoiceParametersGenerated p requestId scid _ _ userChannelId =>
    simp only [step, invoiceParametersGenerated]
    split
    · next ps hps =>
      rw [created, requests_apply hps]
      -- Only a `buy` request sells a channel; one of the other kind is just taken off.
      rcases ps.pendingRequests requestId with _ | params | req
      · exact userIndex_setPeer_self hps rfl
      · exact userIndex_setPeer_self hps rfl
      · exact PartialMap.flatten_insert_insert (userIndex_apply hps) rfl
    · next hps => rw [created, requests_eq_none hps]; rfl
  -- The other calls at most replace the state of a peer, with the index as it was.
  | _ =>
    simp only [step, invalidTokenProvided, openingFeeParamsGenerated, respondGetInfo, created,
      htlcIntercepted, htlcHandlingFailed, paymentForwarded, channelReady, Option.elim_none]
    repeat' split
    all_goals first | rfl | (refine userIndex_setPeer_self ‹s.perPeerState _ = some _› ?_; rfl)

/-- A call that reports a channel to be ready enters its channel id, if there is a short channel
    id for it; no other changes the index. -/
theorem channelIndex_step (env : Externals) (s : LSPS2ServiceHandler) (i : ServiceInput) :
    (s.step env i).1.channelIndex = (s.registers i.call).elim s.channelIndex fun e =>
      s.channelIndex.insert e.1 e.2 := by
  obtain ⟨call, cm, now⟩ := i
  cases call with
  | handleMessage message p => exact handleMessage_frame (channelIndex_keepRequest s p) ..
  | channelReady userChannelId c p =>
    simp only [step, channelReady, registers, ServiceCall.ready?, Option.bind_some]
    split
    · next ps hps =>
      rw [userIndex_apply hps]
      split
      · next scid hscid =>
        rw [hscid, Option.map_some, Option.elim_some]
        -- The entry is made before the channel is looked up, so that it stays if that fails.
        repeat' split
        all_goals exact PartialMap.flatten_insert_insert (channelIndex_apply hps) rfl
      · next hscid => rw [hscid]; rfl
    · next hps => rw [userIndex_eq_none hps]; rfl
  | _ =>
    simp only [step, invalidTokenProvided, openingFeeParamsGenerated, respondGetInfo, registers,
      invoiceParametersGenerated, htlcIntercepted, htlcHandlingFailed, paymentForwarded,
      ServiceCall.ready?, Option.bind_none, Option.elim_none]
    repeat' split
    all_goals first | rfl | (refine channelIndex_setPeer_self ‹s.perPeerState _ = some _› ?_; rfl)

/-- A call that reports a channel to be ready enters its peer; no other changes the map. -/
theorem peerByChannelId_step (env : Externals) (s : LSPS2ServiceHandler) (i : ServiceInput) :
    (s.step env i).1.peerByChannelId = i.call.ready?.elim s.peerByChannelId fun e =>
      s.peerByChannelId.insert e.2.1 e.2.2 := by
  obtain ⟨call, cm, now⟩ := i
  cases call with
  | handleMessage => exact handleMessage_frame (fun _ _ => rfl) ..
  | _ =>
    simp only [step, invalidTokenProvided, openingFeeParamsGenerated, respondGetInfo,
      invoiceParametersGenerated, htlcIntercepted, htlcHandlingFailed, paymentForwarded,
      channelReady, ServiceCall.ready?]
    repeat' split
    all_goals rfl

/-! ## Histories -/

/-- The channels sold in a run. -/
def sold (env : Externals) (s : LSPS2ServiceHandler) (is : List ServiceInput) :
    List ((PublicKey × Scid) × OutboundJITChannel) :=
  (machine env).gather (fun s i => (s.created i.call).toList) s is

/-- The channels reported to be ready in a run. -/
def reported (is : List ServiceInput) : List (UserChannelId × ChannelId × PublicKey) :=
  is.filterMap fun i => i.call.ready?

/-- What the environment takes care of: short channel ids and user channel ids are used for one
    channel only, and a channel id is only reported for one user channel id and peer. -/
structure FreshIds (sales : List ((PublicKey × Scid) × OutboundJITChannel))
    (reports : List (UserChannelId × ChannelId × PublicKey)) : Prop where
  scid : (sales.map fun e => e.1.2).Nodup
  userChannelId : (sales.map fun e => e.2.userChannelId).Nodup
  channelId : ∀ e ∈ reports, ∀ e' ∈ reports, e.2.1 = e'.2.1 → e = e'

/-- A channel stored for a peer under a short channel id is found under all its ids. -/
structure Indexed (s : LSPS2ServiceHandler) (p : PublicKey) (scid : Scid)
    (ch : OutboundJITChannel) : Prop where
  peerByScid : s.peerByInterceptScid scid = some p
  user : s.userIndex (p, ch.userChannelId) = some scid
  channel : ∀ c, ch.state.channelId? = some c → s.channelIndex (p, c) = some scid
  peerByChannel : ∀ c, ch.state.channelId? = some c → s.peerByChannelId c = some p

/-- The channels are indexed, and what is in the indices has been put there by the calls so far. -/
structure Consistent (s : LSPS2ServiceHandler) (sales : List ((PublicKey × Scid) × OutboundJITChannel))
    (reports : List (UserChannelId × ChannelId × PublicKey)) : Prop where
  indexed : ∀ p scid ch, s.channels (p, scid) = some ch → s.Indexed p scid ch
  scidSold : ∀ scid p, s.peerByInterceptScid scid = some p → scid ∈ sales.map fun e => e.1.2
  userSold : ∀ k scid, s.userIndex k = some scid → k.2 ∈ sales.map fun e => e.2.userChannelId
  channelReported : ∀ k scid, s.channelIndex k = some scid →
    ∃ u, (u, k.2, k.1) ∈ reports ∧ s.userIndex (k.1, u) = some scid
  peerReported : ∀ c p, s.peerByChannelId c = some p → ∃ u, (u, c, p) ∈ reports

theorem Consistent.new (secret : List UInt8) : (new secret).Consistent [] [] where
  indexed _ _ _ h := nomatch h
  scidSold _ _ h := nomatch h
  userSold _ _ h := nomatch h
  channelReported _ _ h := nomatch h
  peerReported _ _ h := nomatch h

/-- The ids of a call are fresh, given the calls so far. -/
structure FreshCall (s : LSPS2ServiceHandler) (i : ServiceInput)
    (sales : List ((PublicKey × Scid) × OutboundJITChannel))
    (reports : List (UserChannelId × ChannelId × PublicKey)) : Prop where
  scid : ∀ e, s.created i.call = some e → e.1.2 ∉ sales.map fun e => e.1.2
  userChannelId : ∀ e, s.created i.call = some e →
    e.2.userChannelId ∉ sales.map fun e => e.2.userChannelId
  channelId : ∀ e, i.call.ready? = some e → ∀ e' ∈ reports, e.2.1 = e'.2.1 → e = e'

variable {sales : List ((PublicKey × Scid) × OutboundJITChannel)}
  {reports : List (UserChannelId × ChannelId × PublicKey)}

/-! ## The indices only grow -/

theorem Consistent.peerByInterceptScid_step (h : s.Consistent sales reports)
    (hfresh : s.FreshCall i sales reports) {scid : Scid} (hp : s.peerByInterceptScid scid = some p) :
    (s.step env i).1.peerByInterceptScid scid = some p := by
  rw [LSPS2ServiceHandler.peerByInterceptScid_step]
  refine PartialMap.elim_insert_of_eq_some (fun e he w hw => ?_) hp
  exact absurd (h.scidSold _ _ hw) (hfresh.scid e he)

theorem Consistent.userIndex_step (h : s.Consistent sales reports)
    (hfresh : s.FreshCall i sales reports) {k : PublicKey × UserChannelId} {scid : Scid}
    (hk : s.userIndex k = some scid) : (s.step env i).1.userIndex k = some scid := by
  rw [LSPS2ServiceHandler.userIndex_step]
  refine PartialMap.elim_insert_of_eq_some (fun e he w hw => ?_) hk
  exact absurd (h.userSold _ _ hw) (hfresh.userChannelId e he)

/-- What a call registers: the short channel id of the user channel id it reports. -/
theorem registers_eq_some {call : ServiceCall} {k : PublicKey × ChannelId} {scid : Scid} :
    s.registers call = some (k, scid) ↔
      ∃ u, call.ready? = some (u, k.2, k.1) ∧ s.userIndex (k.1, u) = some scid := by
  rw [registers, Option.bind_eq_some_iff]
  constructor
  · rintro ⟨⟨u, c, p⟩, he, hreg⟩
    obtain ⟨scid', hscid, heq⟩ := Option.map_eq_some_iff.1 hreg
    obtain ⟨rfl, rfl⟩ := Prod.mk.inj heq
    exact ⟨u, he, hscid⟩
  · rintro ⟨u, he, hscid⟩
    exact ⟨_, he, Option.map_eq_some_iff.2 ⟨scid, hscid, rfl⟩⟩

/-- A channel id is registered with one short channel id only: a call that reports it again is
    for the same user channel id. -/
theorem Consistent.channelIndex_step (h : s.Consistent sales reports)
    (hfresh : s.FreshCall i sales reports) {k : PublicKey × ChannelId} {scid : Scid}
    (hk : s.channelIndex k = some scid) : (s.step env i).1.channelIndex k = some scid := by
  rw [LSPS2ServiceHandler.channelIndex_step]
  refine PartialMap.elim_insert_of_eq_some (fun e hreg w hw => ?_) hk
  -- Both reports are for one user channel id, which leads to one short channel id.
  obtain ⟨u, hu, hscid'⟩ := registers_eq_some.1 hreg
  obtain ⟨u', hmem, hw'⟩ := h.channelReported _ _ hw
  obtain ⟨rfl, -⟩ := Prod.mk.inj (hfresh.channelId _ hu _ hmem rfl)
  exact Option.some.inj (hw'.symm.trans hscid')

theorem Consistent.peerByChannelId_step (h : s.Consistent sales reports)
    (hfresh : s.FreshCall i sales reports) {c : ChannelId} (hc : s.peerByChannelId c = some p) :
    (s.step env i).1.peerByChannelId c = some p := by
  rw [LSPS2ServiceHandler.peerByChannelId_step]
  refine PartialMap.elim_insert_of_eq_some (fun e hready w hw => ?_) hc
  obtain ⟨u', hmem⟩ := h.peerReported _ _ hw
  exact (Prod.mk.inj (Prod.mk.inj (hfresh.channelId _ hready _ hmem rfl)).2).2.symm

/-- A channel that is indexed stays so, whatever else becomes of it, as long as it gets no new
    channel id. -/
theorem Indexed.step (h : s.Consistent sales reports) (hfresh : s.FreshCall i sales reports)
    {scid : Scid} {ch ch' : OutboundJITChannel} (hch : s.Indexed p scid ch)
    (huser : ch'.userChannelId = ch.userChannelId)
    (hnew : ∀ c, ch'.state.channelId? = some c → ch.state.channelId? = some c ∨
      s.registers i.call = some ((p, c), scid)) :
    (s.step env i).1.Indexed p scid ch' where
  peerByScid := h.peerByInterceptScid_step hfresh hch.peerByScid
  user := huser ▸ h.userIndex_step hfresh hch.user
  channel c hc := by
    -- An old entry for the channel id is not replaced, a new one is made by this call.
    rcases hnew c hc with hold | hreg
    · exact h.channelIndex_step hfresh (hch.channel c hold)
    · rw [LSPS2ServiceHandler.channelIndex_step, hreg]
      exact PartialMap.insert_self ..
  peerByChannel c hc := by
    rcases hnew c hc with hold | hreg
    · exact h.peerByChannelId_step hfresh (hch.peerByChannel c hold)
    · obtain ⟨u, hu, -⟩ := registers_eq_some.1 hreg
      rw [LSPS2ServiceHandler.peerByChannelId_step, hu]
      exact PartialMap.insert_self ..

/-- A channel gets a new channel id by a call that registers it. -/
theorem registers_of_target {call : ServiceCall} {scid : Scid} {c : ChannelId}
    (h : s.target call = some ((p, scid), .channelReady c)) :
    s.registers call = some ((p, c), scid) := by
  cases Targets.of_target h with
  | @channelReady u _ _ _ _ hps hscid =>
    exact registers_eq_some.2 ⟨u, rfl, (userIndex_apply hps u).trans hscid⟩

/-- A channel that is sold is entered under its short channel id and its user channel id, and has
    no channel id yet. -/
theorem Indexed.of_created {scid : Scid} {ch : OutboundJITChannel}
    (h : s.created i.call = some ((p, scid), ch)) : (s.step env i).1.Indexed p scid ch := by
  obtain ⟨requestId, req, u, -, rfl⟩ := exists_of_created h
  refine ⟨?_, ?_, ?_, ?_⟩
  · rw [LSPS2ServiceHandler.peerByInterceptScid_step, h]
    exact PartialMap.insert_self ..
  · rw [LSPS2ServiceHandler.userIndex_step, h]
    exact PartialMap.insert_self ..
  all_goals
    intro c hc
    cases hc

/-- The channels stay indexed. -/
theorem Consistent.indexed_step (h : s.Consistent sales reports)
    (hfresh : s.FreshCall i sales reports) {scid : Scid} {ch : OutboundJITChannel}
    (hch : (s.step env i).1.channels (p, scid) = some ch) :
    (s.step env i).1.Indexed p scid ch := by
  have hkeep (hold : s.channels (p, scid) = some ch) : (s.step env i).1.Indexed p scid ch :=
    (h.indexed p scid ch hold).step h hfresh rfl fun c hc => .inl hc
  -- A channel stored after the call was stored before it, is sold by it, or is operated on.
  cases channelsStep_step env s i with
  | keep heq => exact hkeep (heq ▸ hch)
  | remove heq =>
    rw [heq] at hch
    exact hkeep (PartialMap.remove_eq_some.1 hch).2
  | create heq _ hcreated =>
    rw [heq] at hch
    rcases PartialMap.insert_eq_some.1 hch with ⟨rfl, rfl⟩ | ⟨-, hold⟩
    · exact .of_created hcreated
    · exact hkeep hold
  | @operate k op ch' heq hch' htarget =>
    rw [heq] at hch
    rcases PartialMap.insert_eq_some.1 hch with ⟨rfl, rfl⟩ | ⟨-, hold⟩
    · -- The channel keeps its ids, but for the channel id it may get by being ready.
      refine (h.indexed p scid ch' hch').step h hfresh (ch'.step_userChannelId op) fun c hc => ?_
      refine ((ch'.transition_step op).channelId hc).imp_right ?_
      rintro rfl
      exact registers_of_target htarget
    · exact hkeep hold

/-- Calls with fresh ids keep the indices consistent. -/
theorem Consistent.step (h : s.Consistent sales reports) (hfresh : s.FreshCall i sales reports) :
    (s.step env i).1.Consistent (sales ++ (s.created i.call).toList)
      (reports ++ i.call.ready?.toList) where
  indexed p scid ch hch := h.indexed_step hfresh hch
  scidSold scid p hp := by
    rw [LSPS2ServiceHandler.peerByInterceptScid_step] at hp
    rw [List.map_append]
    rcases PartialMap.eq_some_of_elim_insert hp with hp | ⟨e, he, rfl, -⟩
    · exact List.mem_append_left _ (h.scidSold scid p hp)
    · exact List.mem_append_right _ (List.mem_map_of_mem (Option.mem_toList.2 he))
  userSold k scid hk := by
    rw [LSPS2ServiceHandler.userIndex_step] at hk
    rw [List.map_append]
    rcases PartialMap.eq_some_of_elim_insert hk with hk | ⟨e, he, rfl, -⟩
    · exact List.mem_append_left _ (h.userSold k scid hk)
    · exact List.mem_append_right _ (List.mem_map.2 ⟨e, Option.mem_toList.2 he, rfl⟩)
  channelReported k scid hk := by
    rw [LSPS2ServiceHandler.channelIndex_step] at hk
    rcases PartialMap.eq_some_of_elim_insert hk with hk | ⟨e, hreg, rfl, rfl⟩
    · -- An old entry: the user channel id it was made for still leads to the same channel.
      obtain ⟨u, hmem, hu⟩ := h.channelReported k scid hk
      exact ⟨u, List.mem_append_left _ hmem, h.userIndex_step hfresh hu⟩
    · obtain ⟨u, hready, hu⟩ := registers_eq_some.1 hreg
      refine ⟨u, List.mem_append_right _ ?_, h.userIndex_step hfresh hu⟩
      exact Option.mem_toList.2 hready
  peerReported c p hc := by
    rw [LSPS2ServiceHandler.peerByChannelId_step] at hc
    rcases PartialMap.eq_some_of_elim_insert hc with hc | ⟨⟨u, c', p'⟩, hready, rfl, rfl⟩
    · obtain ⟨u, hmem⟩ := h.peerReported c p hc
      exact ⟨u, List.mem_append_left _ hmem⟩
    · exact ⟨u, List.mem_append_right _ (Option.mem_toList.2 hready)⟩

/-- The ids of the first of the calls to come are fresh. -/
theorem FreshIds.freshCall {is : List ServiceInput}
    (h : FreshIds (sales ++ sold env s (i :: is)) (reports ++ reported (i :: is))) :
    s.FreshCall i sales reports where
  scid e he hmem := by
    have hnodup := h.scid
    rw [List.map_append, List.nodup_append] at hnodup
    refine hnodup.2.2 _ hmem _ (List.mem_map_of_mem (a := e) ?_) rfl
    exact List.mem_append_left _ (Option.mem_toList.2 he)
  userChannelId e he hmem := by
    have hnodup := h.userChannelId
    rw [List.map_append, List.nodup_append] at hnodup
    refine hnodup.2.2 _ hmem _ (List.mem_map_of_mem (a := e) ?_) rfl
    exact List.mem_append_left _ (Option.mem_toList.2 he)
  channelId e he e' he' := by
    refine h.channelId e (List.mem_append_right _ ?_) e' (List.mem_append_left _ he')
    exact List.mem_filterMap.2 ⟨i, List.mem_cons_self, he⟩

theorem reported_cons (i : ServiceInput) (is : List ServiceInput) :
    LSPS2ServiceHandler.reported (i :: is) =
      i.call.ready?.toList ++ LSPS2ServiceHandler.reported is := by
  rw [LSPS2ServiceHandler.reported, List.filterMap_cons]
  cases i.call.ready? <;> rfl

/-- The indices are consistent in every run with fresh ids. -/
theorem Consistent.exec {is : List ServiceInput} (h : s.Consistent sales reports)
    (hfresh : FreshIds (sales ++ sold env s is) (reports ++ reported is)) :
    ((machine env).exec s is).Consistent (sales ++ sold env s is) (reports ++ reported is) := by
  induction is generalizing s sales reports with
  | nil =>
    rw [sold, Machine.gather_nil, reported, List.filterMap_nil, List.append_nil, List.append_nil]
    exact h
  | cons i is ih =>
    have hstep : (s.step env i).1.Consistent _ _ := h.step hfresh.freshCall
    rw [reported_cons, sold, Machine.gather_cons, ← List.append_assoc, ← List.append_assoc]
      at hfresh ⊢
    exact ih hstep hfresh

/-! ## Routing -/

/-- The calls for a channel reach it, and no other. -/
structure Routed (env : Externals) (s : LSPS2ServiceHandler) (p : PublicKey) (scid : Scid)
    (ch : OutboundJITChannel) : Prop where
  htlc : ∀ interceptId amount hash, s.target (.htlcIntercepted scid interceptId amount hash) =
    some ((p, scid), .htlcIntercepted ⟨interceptId, amount, hash⟩)
  ready : ∀ c, s.target (.channelReady ch.userChannelId c p) = some ((p, scid), .channelReady c)
  failed : ∀ node c, ch.state.channelId? = some c →
    s.target (.htlcHandlingFailed (.nextHopChannel node c)) = some ((p, scid), .htlcHandlingFailed)
  forwarded : ∀ c, ch.state.channelId? = some c →
    s.target (.paymentForwarded c) = some ((p, scid), .paymentForwarded)
  /-- A call that reaches the channel does to it what its operation does, unless it is removed
      for refusing an HTLC. -/
  operates : ∀ i op, s.target i.call = some ((p, scid), op) →
    (s.step env i).1.channels (p, scid) = some (ch.step op).1 ∨
      ¬AcceptsHtlc ch op ∧ (s.step env i).1.channels (p, scid) = none
  others : ∀ i op, s.target i.call = some ((p, scid), op) → ∀ k, k ≠ (p, scid) →
    (s.step env i).1.channels k = s.channels k

/-- A channel that is indexed gets the calls for it. -/
theorem Indexed.routed {scid : Scid} {ch : OutboundJITChannel} (h : s.Indexed p scid ch)
    (hch : s.channels (p, scid) = some ch) : s.Routed env p scid ch := by
  obtain ⟨ps, hps, -⟩ := Option.bind_eq_some_iff.1 hch
  have huser := (userIndex_apply hps _).symm.trans h.user
  have hchannel (c : ChannelId) (hc : ch.state.channelId? = some c) :=
    (channelIndex_apply hps c).symm.trans (h.channel c hc)
  refine ⟨fun _ _ _ => ?_, fun _ => ?_, fun _ c hc => ?_, fun c hc => ?_, fun i op hop => ?_,
    fun i op hop k hk => ?_⟩
  -- Each kind of call looks the peer up first, and then the short channel id.
  · simp [target, h.peerByScid, hch]
  · simp [target, hps, huser, hch]
  · simp [target, h.peerByChannel c hc, hps, hchannel c hc, hch]
  · simp [target, h.peerByChannel c hc, hps, hchannel c hc, hch]
  -- The call has a target, so that it operates on this channel or removes it.
  · cases channelsStep_step env s i with
    | keep _ htarget | create _ htarget => cases hop.symm.trans htarget
    | operate heq hch' htarget =>
      obtain ⟨rfl, rfl⟩ := Prod.mk.inj (Option.some.inj (hop.symm.trans htarget))
      obtain rfl := Option.some.inj (hch.symm.trans hch')
      exact .inl (heq ▸ PartialMap.insert_self ..)
    | remove heq hch' htarget _ hrefuses =>
      obtain ⟨rfl, rfl⟩ := Prod.mk.inj (Option.some.inj (hop.symm.trans htarget))
      obtain rfl := Option.some.inj (hch.symm.trans hch')
      exact .inr ⟨hrefuses, heq ▸ PartialMap.remove_self ..⟩
  · cases channelsStep_step env s i with
    | keep _ htarget | create _ htarget => cases hop.symm.trans htarget
    | operate heq _ htarget =>
      obtain ⟨rfl, rfl⟩ := Prod.mk.inj (Option.some.inj (hop.symm.trans htarget))
      rw [heq, PartialMap.insert_of_ne _ _ hk]
    | remove heq _ htarget =>
      obtain ⟨rfl, rfl⟩ := Prod.mk.inj (Option.some.inj (hop.symm.trans htarget))
      rw [heq, PartialMap.remove_of_ne _ hk]

/-- **Channels stay reachable.** In every run in which short channel ids and user channel ids are
    given to one channel only, and each channel id is reported for one user channel id and peer,
    every channel stored is found under all its ids, and gets the calls for it. -/
theorem channels_indexed (env : Externals) (secret : List UInt8) (is : List ServiceInput)
    (hfresh : FreshIds (sold env (.new secret) is) (reported is)) :
    ∀ p scid ch, ((machine env).exec (.new secret) is).channels (p, scid) = some ch →
      ((machine env).exec (.new secret) is).Indexed p scid ch ∧
        ((machine env).exec (.new secret) is).Routed env p scid ch := by
  intro p scid ch hch
  have hcons : ((machine env).exec (new secret) is).Consistent _ _ := (Consistent.new secret).exec hfresh
  have h := hcons.indexed p scid ch hch
  exact ⟨h, h.routed hch⟩

/-- A channel that is sold and ready is found under all its ids. -/
theorem channels_indexed_ready :
    ((machine sampleExternals).exec (.new []) [sampleBuy (some 500), sampleInvoice,
      (ServiceCall.htlcIntercepted 42 ⟨0⟩ 500 ⟨0⟩).sampleInput,
      (ServiceCall.channelReady 0 ⟨7⟩ ⟨0⟩).sampleInput]).target (.paymentForwarded ⟨7⟩) =
        some ((⟨0⟩, 42), .paymentForwarded) := by
  refine (channels_indexed sampleExternals [] _ ⟨by decide, by decide, by decide⟩ ⟨0⟩ 42 _ rfl).2
    |>.forwarded _ rfl

end LSPS2ServiceHandler

end LightningLiquidity
