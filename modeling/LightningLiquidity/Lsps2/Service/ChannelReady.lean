import LightningLiquidity.Lsps2.Channel.Conservation
import LightningLiquidity.Lsps2.Channel.InFlight
import LightningLiquidity.Lsps2.Service.Effects

/-!
# When a channel is ready

The service enters a channel id into its maps before it knows whether there is a
JIT channel waiting for it, and moves the channel on before the HTLCs of the
payment are forwarded. A call that fails may thus leave changes behind
(`not_channelReady_unchanged`); it does not iff the ids are in the maps already
or, if there is such a channel, all its HTLCs can be forwarded
(`channelReady_unchanged_iff`).
-/

namespace LightningLiquidity

open OutboundJITChannelState

/-! ## The calls to the channel manager -/

/-- The channel manager accepts all the given calls. -/
def ChannelManager.Accepts (cm : ChannelManager) (n : ℕ) : List CMCall → Prop
  | [] => True
  | call :: calls => cm n call = .ok () ∧ cm.Accepts (n + 1) calls

namespace ChannelManager

variable {cm : ChannelManager} {p : PublicKey} {c : ChannelId}

/-- Calls end in an error iff the channel manager does not accept all of them. -/
theorem exists_err_callAll (n : ℕ) (calls : List CMCall) :
    (∃ e, (cm.callAll n calls).2 = .err e) ↔ ¬cm.Accepts n calls := by
  induction calls generalizing n with
  | nil => simp [callAll, Accepts]
  | cons call calls ih =>
    rw [callAll, Accepts]
    rcases h : cm n call with e | _
    · simp
    · simpa using ih (n + 1)

/-- Forwarding a payment ends in an error iff the channel manager does not accept to
    forward all its HTLCs. -/
theorem exists_err_forwardPayment (payment : FeePayment) :
    (∃ e, (cm.forwardPayment p c payment).result = .err e) ↔
      ∃ amounts, calculateAmountToForwardPerHtlc payment.htlcs payment.openingFeeMsat =
        some amounts ∧ ¬cm.Accepts 0 (forwardCalls p c amounts) := by
  rw [forwardPayment]
  cases calculateAmountToForwardPerHtlc payment.htlcs payment.openingFeeMsat with
  | none => simp
  | some amounts => simpa [forwardAll] using exists_err_callAll 0 (forwardCalls p c amounts)

end ChannelManager

/-! ## The channel that is ready -/

/-- A channel gets ready, taking out the payment to forward; or it fails to, and is
    as it was. -/
theorem OutboundJITChannel.channelReady_cases (ch : OutboundJITChannel) (c : ChannelId) :
    (¬ch.state.Charges (.channelReady c) ∧ ∃ e, ch.channelReady c = (ch, .error e)) ∨
      ∃ q q' fee hash htlcs, ch.state = pendingChannelOpen q fee ∧
        q.popGreaterThanMsat fee = (q', some (hash, htlcs)) ∧
        ch.channelReady c = ({ ch with state := pendingPaymentForward q' fee c },
          .ok ⟨c, htlcs, fee⟩) := by
  obtain ⟨st, id, params, size⟩ := ch
  cases st with
  | pendingChannelOpen q fee =>
    rcases hpop : q.popGreaterThanMsat fee with ⟨q', _ | ⟨hash, htlcs⟩⟩
    · obtain ⟨rfl, -⟩ := PaymentQueue.popGreaterThanMsat_none hpop
      refine .inl ⟨PaymentQueue.not_covers_of_pop hpop, .noForwardablePayment, ?_⟩
      simp only [channelReady, OutboundJITChannelState.channelReady, hpop, update]
    · refine .inr ⟨q, q', fee, hash, htlcs, rfl, hpop, ?_⟩
      simp only [channelReady, OutboundJITChannelState.channelReady, hpop, update]
  | _ => exact .inl ⟨not_false, _, rfl⟩

namespace LSPS2ServiceHandler

/-- The channel found by its user channel id. -/
def readyChannel (s : LSPS2ServiceHandler) (userChannelId : UserChannelId) (p : PublicKey) :
    Option OutboundJITChannel := do
  let peerState ← s.perPeerState p
  let scid ← peerState.interceptScidByUserChannelId userChannelId
  peerState.outboundChannelsByInterceptScid scid

/-- The channel id is in the maps already: of the peer and, if there is one for the
    user channel id, of its short channel id. -/
structure Registered (s : LSPS2ServiceHandler) (userChannelId : UserChannelId) (c : ChannelId)
    (p : PublicKey) : Prop where
  peer : s.peerByChannelId c = some p
  scid : ∀ peerState scid, s.perPeerState p = some peerState →
    peerState.interceptScidByUserChannelId userChannelId = some scid →
    peerState.interceptScidByChannelId c = some scid

/-- If no channel with a payment to forward is found, the channel id is in the maps
    already; and if one is, the channel manager accepts to forward its HTLCs. -/
structure ReadyAccepted (s : LSPS2ServiceHandler) (cm : ChannelManager)
    (userChannelId : UserChannelId) (c : ChannelId) (p : PublicKey) : Prop where
  registered : (∀ ch, s.readyChannel userChannelId p = some ch →
    ¬ch.state.Charges (.channelReady c)) → s.Registered userChannelId c p
  accepts : ∀ ch q q' fee hash htlcs amounts, s.readyChannel userChannelId p = some ch →
    ch.state = pendingChannelOpen q fee → q.popGreaterThanMsat fee = (q', some (hash, htlcs)) →
    calculateAmountToForwardPerHtlc htlcs fee = some amounts →
    cm.Accepts 0 (forwardCalls p c amounts)

variable {s : LSPS2ServiceHandler} {cm : ChannelManager} {userChannelId : UserChannelId}
  {c : ChannelId} {p : PublicKey}

/-- Entering the channel id into the maps changes nothing iff it is in them. -/
theorem register_eq_self_iff {ps : PeerState} {scid : Scid} (hps : s.perPeerState p = some ps)
    (hscid : ps.interceptScidByUserChannelId userChannelId = some scid) :
    ({ s with peerByChannelId := s.peerByChannelId.insert c p }.setPeer p
      { ps with interceptScidByChannelId := ps.interceptScidByChannelId.insert c scid } = s) ↔
      s.Registered userChannelId c p := by
  constructor
  · intro h
    refine ⟨PartialMap.insert_eq_self_iff.1 (congrArg peerByChannelId h), ?_⟩
    intro ps' scid' hps' hscid'
    obtain rfl := Option.some.inj (hps.symm.trans hps')
    obtain rfl := Option.some.inj (hscid.symm.trans hscid')
    have hpeer := PartialMap.insert_eq_self_iff.1 (congrArg perPeerState h)
    have hps' := congrArg PeerState.interceptScidByChannelId (Option.some.inj (hps.symm.trans hpeer))
    exact PartialMap.insert_eq_self_iff.1 hps'.symm
  · rintro ⟨hpeer, hreg⟩
    rw [PartialMap.insert_eq_self_iff.2 hpeer,
      PartialMap.insert_eq_self_iff.2 (hreg ps scid hps hscid), setPeer,
      PartialMap.insert_eq_self_iff.2 hps]

/-- If there is no channel that gets ready, the call fails; it changes nothing iff
    the channel id is in the maps already. -/
theorem channelReady_of_not_charges (cm : ChannelManager)
    (h : ∀ ch, s.readyChannel userChannelId p = some ch → ¬ch.state.Charges (.channelReady c)) :
    (∃ e, (s.channelReady cm userChannelId c p).2 = .apiError e) ∧
      ((s.channelReady cm userChannelId c p).1 = s ↔ s.Registered userChannelId c p) := by
  simp only [channelReady]
  split
  · next ps hps =>
    split
    · next scid hscid =>
      split
      · next ch hch =>
        have hready : s.readyChannel userChannelId p = some ch := by
          simp [readyChannel, hps, hscid, hch]
        rcases ch.channelReady_cases c with ⟨-, e, hstep⟩ | ⟨q, q', fee, hash, htlcs, hst, hpop, -⟩
        · rw [hstep]
          refine ⟨⟨_, rfl⟩, ?_⟩
          -- The channel is stored as it was.
          have hsame : ps.outboundChannelsByInterceptScid.insert scid ch =
              ps.outboundChannelsByInterceptScid := PartialMap.insert_eq_self_iff.2 hch
          simpa only [PeerState.insertOutboundChannel, hsame] using register_eq_self_iff hps hscid
        · refine absurd ?_ (h ch hready)
          rw [hst]
          exact (PaymentQueue.covers_of_pop hpop).1
      · exact ⟨⟨_, rfl⟩, register_eq_self_iff hps hscid⟩
    · next hscid =>
      -- Without a short channel id, only the map of peers is written to.
      refine ⟨⟨_, rfl⟩, fun heq => ⟨?_, fun ps' scid hps' hscid' => ?_⟩, fun hreg => ?_⟩
      · exact PartialMap.insert_eq_self_iff.1 (congrArg peerByChannelId heq)
      · obtain rfl := Option.some.inj (hps.symm.trans hps')
        cases hscid.symm.trans hscid'
      · simp only [PartialMap.insert_eq_self_iff.2 hreg.peer]
  · next hps =>
    refine ⟨⟨_, rfl⟩, fun heq => ⟨?_, fun ps' scid hps' => ?_⟩, fun hreg => ?_⟩
    · exact PartialMap.insert_eq_self_iff.1 (congrArg peerByChannelId heq)
    · cases hps.symm.trans hps'
    · simp only [PartialMap.insert_eq_self_iff.2 hreg.peer]

/-- If there is a channel that gets ready, it moves on, and the HTLCs of its payment
    are forwarded. -/
theorem channelReady_of_pop (cm : ChannelManager) {ch : OutboundJITChannel} {q q' : PaymentQueue}
    {fee : UInt64} {hash : PaymentHash} {htlcs : List InterceptedHTLC}
    (hready : s.readyChannel userChannelId p = some ch) (hst : ch.state = pendingChannelOpen q fee)
    (hpop : q.popGreaterThanMsat fee = (q', some (hash, htlcs))) :
    (s.channelReady cm userChannelId c p).1 ≠ s ∧
      (s.channelReady cm userChannelId c p).2 = cm.forwardPayment p c ⟨htlcs, fee⟩ := by
  obtain ⟨ps, hps, hrest⟩ := Option.bind_eq_some_iff.1 hready
  obtain ⟨scid, hscid, hch⟩ := Option.bind_eq_some_iff.1 hrest
  have hstep : ch.channelReady c =
      ({ ch with state := pendingPaymentForward q' fee c }, .ok ⟨c, htlcs, fee⟩) := by
    rcases ch.channelReady_cases c with ⟨hc, -⟩ | ⟨q₁, q₁', fee₁, hash₁, htlcs₁, hst₁, hpop₁, hstep⟩
    · refine absurd ?_ hc
      rw [hst]
      exact (PaymentQueue.covers_of_pop hpop).1
    · obtain ⟨rfl, rfl⟩ := pendingChannelOpen.inj (hst.symm.trans hst₁)
      obtain ⟨rfl, h⟩ := Prod.mk.inj (hpop.symm.trans hpop₁)
      obtain ⟨-, rfl⟩ := Prod.mk.inj (Option.some.inj h)
      exact hstep
  simp only [channelReady, hps, hscid, hch, hstep]
  refine ⟨fun heq => ?_, trivial⟩
  -- Unchanged, the channel would still be waiting to be opened.
  have hpeer := PartialMap.insert_eq_self_iff.1 (congrArg perPeerState heq)
  have hps' := congrArg PeerState.outboundChannelsByInterceptScid
    (Option.some.inj (hps.symm.trans hpeer))
  have hch' := PartialMap.insert_eq_self_iff.1 hps'.symm
  have hst' := congrArg OutboundJITChannel.state (Option.some.inj (hch.symm.trans hch'))
  cases hst.symm.trans hst'

/-- If there is no channel that gets ready, only the ids have to be in the maps. -/
theorem readyAccepted_iff_of_not_charges (cm : ChannelManager)
    (h : ∀ ch, s.readyChannel userChannelId p = some ch → ¬ch.state.Charges (.channelReady c)) :
    s.ReadyAccepted cm userChannelId c p ↔ s.Registered userChannelId c p := by
  refine ⟨fun hacc => hacc.registered h, fun hreg => ⟨fun _ => hreg, ?_⟩⟩
  intro ch q q' fee hash htlcs amounts hready hst hpop
  refine absurd ?_ (h ch hready)
  rw [hst]
  exact (PaymentQueue.covers_of_pop hpop).1

/-- If there is a channel that gets ready, only its HTLCs have to be forwarded. -/
theorem readyAccepted_iff_of_pop (cm : ChannelManager) {ch : OutboundJITChannel}
    {q q' : PaymentQueue} {fee : UInt64} {hash : PaymentHash} {htlcs : List InterceptedHTLC}
    (hready : s.readyChannel userChannelId p = some ch) (hst : ch.state = pendingChannelOpen q fee)
    (hpop : q.popGreaterThanMsat fee = (q', some (hash, htlcs))) :
    s.ReadyAccepted cm userChannelId c p ↔
      ∀ amounts, calculateAmountToForwardPerHtlc htlcs fee = some amounts →
        cm.Accepts 0 (forwardCalls p c amounts) := by
  constructor
  · exact fun hacc amounts => hacc.accepts ch q q' fee hash htlcs amounts hready hst hpop
  intro hacc
  refine ⟨fun hnot => absurd ?_ (hnot ch hready), ?_⟩
  · rw [hst]
    exact (PaymentQueue.covers_of_pop hpop).1
  · intro ch₁ q₁ q₁' fee₁ hash₁ htlcs₁ amounts hready₁ hst₁ hpop₁
    obtain rfl := Option.some.inj (hready.symm.trans hready₁)
    obtain ⟨rfl, rfl⟩ := pendingChannelOpen.inj (hst.symm.trans hst₁)
    obtain ⟨rfl, hpayment⟩ := Prod.mk.inj (hpop.symm.trans hpop₁)
    obtain ⟨-, rfl⟩ := Prod.mk.inj (Option.some.inj hpayment)
    exact hacc amounts

/-- A call that says a channel is ready changes nothing if it fails, iff it is
    accepted. -/
theorem channelReady_unchanged (env : Externals) (s : LSPS2ServiceHandler) {i : ServiceInput}
    (hcall : i.call = .channelReady userChannelId c p) :
    Unchanged env s i ↔ s.ReadyAccepted i.cm userChannelId c p := by
  have hstep : s.step env i = s.channelReady i.cm userChannelId c p := by rw [step, hcall]
  by_cases h : ∀ ch, s.readyChannel userChannelId p = some ch → ¬ch.state.Charges (.channelReady c)
  · -- No channel gets ready: the call fails whatever the channel manager does.
    obtain ⟨⟨e, he⟩, hiff⟩ := channelReady_of_not_charges i.cm h
    rw [readyAccepted_iff_of_not_charges i.cm h]
    rw [← hstep] at he hiff
    constructor
    · exact fun hun => hiff.1 (hun ⟨_, congrArg Output.result he⟩).1
    · exact fun hreg => unchanged_of_eq (hiff.2 hreg) (by rw [he])
  · -- A channel gets ready, which changes it: the call must not fail.
    simp only [not_forall, not_not] at h
    obtain ⟨ch, hready, hc⟩ := h
    rcases ch.channelReady_cases c with ⟨hc', -⟩ | ⟨q, q', fee, hash, htlcs, hst, hpop, -⟩
    · exact absurd hc hc'
    obtain ⟨hne, hout⟩ := channelReady_of_pop i.cm hready hst hpop
    have herr := @ChannelManager.exists_err_forwardPayment i.cm p c ⟨htlcs, fee⟩
    rw [readyAccepted_iff_of_pop i.cm hready hst hpop]
    rw [← hstep] at hne hout
    constructor
    · intro hun amounts hamounts
      by_contra hacc
      obtain ⟨e, he⟩ := herr.2 ⟨amounts, hamounts, hacc⟩
      exact hne (hun ⟨e, by rw [hout, he]⟩).1
    · rintro hacc ⟨e, he⟩
      rw [hout] at he
      obtain ⟨amounts, hamounts, hnot⟩ := herr.1 ⟨e, he⟩
      exact absurd (hacc amounts hamounts) hnot

/-- **Channels getting ready.** In a run of the service, all calls that say a channel
    is ready change nothing if they fail, iff they are all accepted: if there is no
    channel with a payment to forward, the channel id is in the maps already, and
    if there is one, the channel manager accepts to forward its HTLCs. -/
theorem channelReady_unchanged_iff (env : Externals) (secret : List UInt8)
    (is : List ServiceInput) :
    (machine env).Along (fun s i => ∀ userChannelId c p,
        i.call = .channelReady userChannelId c p → Unchanged env s i) (.new secret) is ↔
      (machine env).Along (fun s i => ∀ userChannelId c p,
        i.call = .channelReady userChannelId c p → s.ReadyAccepted i.cm userChannelId c p)
        (.new secret) is :=
  Machine.along_congr fun s _ => forall₃_congr fun _ _ _ => imp_congr_right fun hcall =>
    channelReady_unchanged env s hcall

/-- A channel that is no JIT channel leaves its id behind in a map. -/
theorem not_channelReady_unchanged :
    ¬∀ (env : Externals) (secret : List UInt8) (is : List ServiceInput) (i : ServiceInput)
      (userChannelId : UserChannelId) (c : ChannelId) (p : PublicKey),
      i.call = .channelReady userChannelId c p →
        Unchanged env ((machine env).exec (.new secret) is) i := by
  intro h
  have hstate := (h sampleExternals [] [] (ServiceCall.channelReady 0 ⟨7⟩ ⟨0⟩).sampleInput 0 ⟨7⟩
    ⟨0⟩ rfl ⟨.api (.noCounterpartyState ⟨0⟩), by decide⟩).1
  exact absurd (congrFun (congrArg peerByChannelId hstate) ⟨7⟩) (by decide)

end LSPS2ServiceHandler

end LightningLiquidity
