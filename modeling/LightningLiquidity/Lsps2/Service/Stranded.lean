import LightningLiquidity.Lsps2.Channel.Waiting
import LightningLiquidity.Lsps2.Service.ChannelReady
import LightningLiquidity.Lsps2.Service.Runs

/-!
# Stranded HTLCs

An HTLC intercepted on a short channel id given out should be held by the channel,
forwarded, or failed (`Safe`). That is so iff the channel is still stored
(`htlcIntercepted_safe_iff`): it is removed with the first HTLC it refuses, but
the short channel id still leads to its peer, and the HTLCs that follow are
neither forwarded nor failed (`not_htlcIntercepted_safe`).

The one other exception is an HTLC of no amount for a channel without a fee, at
which the split of the fee panics. A panic ends the run: it leaves the lock of the peer
poisoned, at which all later HTLCs for the peer panic.
-/

namespace LightningLiquidity

open OutboundJITChannelState PaymentQueue

/-! ## What becomes of an HTLC -/

/-- What becomes of an HTLC given to a channel: it is refused, held, forwarded, or
    forwarded in a payment, which can be split unless there is nothing to pay. -/
inductive Interception (ch : OutboundJITChannel) (htlc : InterceptedHTLC) :
    OutboundJITChannel × Except ChannelStateError (Option HTLCInterceptedAction) → Prop
  | refused {ch' : OutboundJITChannel} {e : ChannelStateError} (hpay : ¬ch.state.NothingToPay htlc) :
      Interception ch htlc (ch', .error e)
  | held {ch' : OutboundJITChannel} {a : Option HTLCInterceptedAction}
      (hpay : ¬ch.state.NothingToPay htlc) (hmem : htlc ∈ ch'.held)
      (ha : a = none ∨ ∃ o, a = some (.openChannel o)) : Interception ch htlc (ch', .ok a)
  | forwarded {ch' : OutboundJITChannel} {c : ChannelId} (hpay : ¬ch.state.NothingToPay htlc) :
      Interception ch htlc (ch', .ok (some (.forwardHTLC c)))
  | split {ch' : OutboundJITChannel} {c : ChannelId} {payment : FeePayment}
      {amounts : List (InterceptId × UInt64)} (hpay : ¬ch.state.NothingToPay htlc)
      (hamounts : calculateAmountToForwardPerHtlc payment.htlcs payment.openingFeeMsat =
        some amounts) (hmem : htlc.interceptId ∈ amounts.map Prod.fst) :
      Interception ch htlc (ch', .ok (some (.forwardPayment c payment)))
  | panics {ch' : OutboundJITChannel} {c : ChannelId} {payment : FeePayment}
      (hpay : ch.state.NothingToPay htlc) (hheld : ch'.held = [])
      (hamounts : calculateAmountToForwardPerHtlc payment.htlcs payment.openingFeeMsat = none) :
      Interception ch htlc (ch', .ok (some (.forwardPayment c payment)))

/-- What becomes of an HTLC that completes a payment. -/
theorem interception_forwardPayment {q q' : PaymentQueue} {fee : UInt64} {c : ChannelId}
    {htlc : InterceptedHTLC} {payment : PaymentHash × List InterceptedHTLC}
    {ch ch' : OutboundJITChannel} (hst : ch.state = pendingPayment q fee c)
    (hst' : ch'.state = pendingPaymentForward q' fee c)
    (hq : ∀ p ∈ q.payments, totalMsat p.2 < fee)
    (hpop : (q.push htlc).popGreaterThanMsat fee = (q', some payment)) :
    Interception ch htlc (ch', .ok (some (.forwardPayment c ⟨payment.2, fee⟩))) := by
  have hpayment := eq_of_pop_push hq hpop
  obtain ⟨l, r, -, -, hle, -⟩ := popGreaterThanMsat_some hpop
  -- Without a fee nothing was held before, and the HTLC is the whole payment.
  have hsingle (hfee : fee = 0) : payment.2 = [htlc] ∧ q.htlcs = [] := by
    subst hfee
    have hnil := payments_eq_nil hq
    rw [hpayment, htlcsOf, PaymentQueue.htlcs, hnil]
    exact ⟨rfl, rfl⟩
  rcases hamounts : calculateAmountToForwardPerHtlc payment.2 fee with _ | amounts
  · obtain ⟨htotal, hfee, -⟩ := calculateAmountToForwardPerHtlc_eq_none.1 hamounts
    obtain ⟨hp, hnil⟩ := hsingle hfee
    rw [hp, totalMsat_singleton] at htotal
    refine .panics ⟨htotal, q, c, hfee ▸ hst⟩ ?_ hamounts
    have hperm := (htlcs_of_pop hpop).trans (q.htlcs_push htlc)
    have hlen := hperm.length_eq
    rw [hp, hnil, List.length_append] at hlen
    rw [OutboundJITChannel.held, hst']
    exact List.eq_nil_of_length_eq_zero (Nat.add_right_cancel (m := 1) hlen)
  · refine .split ?_ hamounts ?_
    · rintro ⟨hamount, q₁, c₁, hst₁⟩
      obtain ⟨-, hfee, -⟩ := pendingPayment.inj (hst.symm.trans hst₁)
      obtain ⟨hp, -⟩ := hsingle hfee
      have hnone : calculateAmountToForwardPerHtlc payment.2 fee = none := by
        refine calculateAmountToForwardPerHtlc_eq_none.2 ⟨?_, hfee, ?_⟩ <;> rw [hp]
        · rw [totalMsat_singleton, hamount]
        · exact List.cons_ne_nil _ _
      cases hamounts.symm.trans hnone
    · rw [map_fst_calculateAmountToForwardPerHtlc hamounts hle, hpayment]
      exact List.mem_map_of_mem (List.mem_append_right _ (List.mem_singleton_self htlc))

/-- What becomes of an HTLC given to a channel in which no payment held covers the
    fee. -/
theorem OutboundJITChannel.interception {ch : OutboundJITChannel} (hwaits : ch.state.Waits)
    (htlc : InterceptedHTLC) : Interception ch htlc (ch.htlcIntercepted htlc) := by
  have hstep := transition_step ch (.htlcIntercepted htlc)
  rcases hr : ch.htlcIntercepted htlc with ⟨ch', r⟩
  rw [step, hr] at hstep
  obtain ⟨st, id, params, size⟩ := ch
  obtain ⟨st', id', params', size'⟩ := ch'
  rcases r with e | _ | (o | c | ⟨c, payment⟩)
  · cases hstep with
    | reject => exact .refused (by rintro ⟨-, _, _, ⟨⟩⟩)
    | refuse h => cases st <;> cases h
  · cases hstep with
    | hold | holdOpen | holdForward =>
      exact .held (by rintro ⟨-, _, _, ⟨⟩⟩) (mem_htlcs_push ..) (.inl rfl)
    | @holdPayment q fee c _ hpop =>
      -- Without a fee, any HTLC pays it and is taken out at once.
      refine .held ?_ (mem_htlcs_push ..) (.inl rfl)
      rintro ⟨-, _, _, hst⟩
      obtain ⟨-, rfl, -⟩ := pendingPayment.inj hst
      exact UInt64.not_lt_zero ((popGreaterThanMsat_none hpop).2 _ (mem_push_iff.2 (.inl rfl)))
    | idle h => obtain ⟨_, _, _, -, h⟩ | ⟨_, -, h | h⟩ := h <;> cases h
  · cases hstep with
    | openChannel => exact .held (by rintro ⟨-, _, _, ⟨⟩⟩) (mem_htlcs_push ..) (.inr ⟨_, rfl⟩)
  · cases hstep with
    | forwardHTLC => exact .forwarded (by rintro ⟨-, _, _, ⟨⟩⟩)
  · cases hstep with
    | forwardPayment hpop => exact interception_forwardPayment rfl rfl hwaits hpop

/-! ## The service -/

/-- The channel manager accepts whatever it is asked to do. -/
def ChannelManager.AcceptsAll (cm : ChannelManager) : Prop := ∀ n call, cm n call = .ok ()

/-- A channel manager that accepts everything is asked to do everything. -/
theorem ChannelManager.AcceptsAll.callAll {cm : ChannelManager} (hcm : cm.AcceptsAll) (n : ℕ)
    (calls : List CMCall) : cm.callAll n calls = (calls, .ok) := by
  induction calls generalizing n with
  | nil => rfl
  | cons call calls ih => rw [ChannelManager.callAll, hcm n call, ih]; rfl

namespace LSPS2ServiceHandler

/-- A short channel id has been given out. -/
def HandedOut (s : LSPS2ServiceHandler) (scid : Scid) : Prop := (s.peerByInterceptScid scid).isSome

/-- The channel that gets the HTLCs of a short channel id. -/
def routed (s : LSPS2ServiceHandler) (scid : Scid) : Option OutboundJITChannel :=
  (s.peerByInterceptScid scid).bind fun p => s.channels (p, scid)

/-- After a call, an HTLC is held by the channel of the short channel id, or the call
    has forwarded or failed it. -/
def Safe (scid : Scid) (id : InterceptId) (r : LSPS2ServiceHandler × Output) : Prop :=
  (∃ ch, r.1.routed scid = some ch ∧ id ∈ ch.held.map InterceptedHTLC.interceptId) ∨
  (∃ c p amount, .forwardInterceptedHtlc id c p amount ∈ r.2.cmCalls) ∨
  .failInterceptedHtlc id ∈ r.2.cmCalls

/-- The channel of a short channel id is stored, and there is something to pay. -/
def Receives (s : LSPS2ServiceHandler) (scid : Scid) (htlc : InterceptedHTLC) : Prop :=
  ∃ ch, s.routed scid = some ch ∧ ¬ch.state.NothingToPay htlc

variable {s : LSPS2ServiceHandler} {cm : ChannelManager} {scid : Scid} {id : InterceptId}
  {amount : UInt64} {hash : PaymentHash}

theorem routed_apply {p : PublicKey} {ps : PeerState} (hp : s.peerByInterceptScid scid = some p)
    (hps : s.perPeerState p = some ps) :
    s.routed scid = ps.outboundChannelsByInterceptScid scid := by
  rw [routed, hp, Option.bind_some, channels_apply hps]

/-- A channel stored in the state of the peer is the one that gets the HTLCs. -/
theorem routed_setPeer {p : PublicKey} (hp : s.peerByInterceptScid scid = some p) (ps : PeerState)
    (ch : OutboundJITChannel) :
    (s.setPeer p (ps.insertOutboundChannel scid ch)).routed scid = some ch := by
  have hch := channels_apply (s := s.setPeer p (ps.insertOutboundChannel scid ch))
    (PartialMap.insert_self s.perPeerState p _) scid
  rw [routed, setPeer, hp, Option.bind_some]
  exact hch.trans (PartialMap.insert_self ..)

/-- An HTLC of a short channel id without a channel is not looked at. -/
theorem not_safe_of_routed (h : s.routed scid = none) :
    ¬Safe scid id (s.htlcIntercepted cm scid id amount hash) := by
  have hunsafe (result : Outcome HandlerError) : ¬Safe scid id (s, { result }) := by
    rintro (⟨ch, hch, -⟩ | ⟨c, p, amount, hmem⟩ | hmem)
    · cases h.symm.trans hch
    · exact List.not_mem_nil hmem
    · exact List.not_mem_nil hmem
  simp only [htlcIntercepted]
  split
  · next p hp =>
    split
    · next ps hps =>
      split
      · next ch hch => cases (hch.symm.trans (routed_apply hp hps).symm).trans h
      · exact hunsafe _
    · exact hunsafe _
  · exact hunsafe _

/-- An HTLC given to a channel is safe iff there is something to pay. -/
theorem safe_of_routed (hcm : cm.AcceptsAll) {ch : OutboundJITChannel}
    (h : s.routed scid = some ch) (hwaits : ch.state.Waits) :
    Safe scid id (s.htlcIntercepted cm scid id amount hash) ↔
      ¬ch.state.NothingToPay ⟨id, amount, hash⟩ := by
  obtain ⟨p, hp, hrest⟩ := Option.bind_eq_some_iff.1 h
  obtain ⟨ps, hps, hch⟩ := Option.bind_eq_some_iff.1 hrest
  have hrouted := routed_setPeer hp ps
  simp only [htlcIntercepted, hp, hps, hch]
  rcases hr : ch.htlcIntercepted ⟨id, amount, hash⟩ with ⟨ch', r⟩
  have hstep := ch.interception hwaits ⟨id, amount, hash⟩
  rw [hr] at hstep
  cases hstep with
  | refused hpay =>
    refine iff_of_true (.inr (.inr ?_)) hpay
    rw [hcm.callAll]
    exact List.mem_singleton_self _
  | held hpay hmem ha =>
    have hid := List.mem_map_of_mem (f := InterceptedHTLC.interceptId) hmem
    obtain rfl | ⟨o, rfl⟩ := ha
    all_goals exact iff_of_true (.inl ⟨ch', hrouted ch', hid⟩) hpay
  | @forwarded _ c hpay =>
    refine iff_of_true (.inr (.inl ⟨c, p, amount, ?_⟩)) hpay
    simp [ChannelManager.forwardAll, forwardCalls, hcm.callAll]
  | @split _ c payment amounts hpay hamounts hmem =>
    obtain ⟨⟨_, amt⟩, hmem', rfl⟩ := List.mem_map.1 hmem
    refine iff_of_true (.inr (.inl ⟨c, p, amt, ?_⟩)) hpay
    simp only [ChannelManager.forwardPayment, hamounts, ChannelManager.forwardAll, forwardCalls,
      hcm.callAll]
    exact List.mem_map_of_mem hmem'
  | panics hpay hheld hamounts =>
    -- The payment is out of the queue when its split panics.
    refine iff_of_false ?_ (not_not_intro hpay)
    simp only [ChannelManager.forwardPayment, hamounts]
    rintro (⟨ch₁, hch₁, hmem⟩ | ⟨c, p, amount, hmem⟩ | hmem)
    · obtain rfl := Option.some.inj ((hrouted ch').symm.trans hch₁)
      rw [hheld] at hmem
      exact List.not_mem_nil hmem
    · exact List.not_mem_nil hmem
    · exact List.not_mem_nil hmem

/-- In every run, no payment held by a channel that awaits one covers its fee. -/
theorem waits_exec (env : Externals) (secret : List UInt8) (is : List ServiceInput) :
    ∀ k ch, ((machine env).exec (.new secret) is).channels k = some ch → ch.state.Waits := by
  refine ((machine env).along_true _ is).invariant
    (P := fun s => ∀ k ch, s.channels k = some ch → ch.state.Waits) (fun s i hs _ => ?_) ?_
  · refine (channelsStep_step env s i).forall (fun k ch hc => ?_) (fun ch op hch => ?_) hs
    · obtain ⟨_, _, _, -, rfl⟩ := exists_of_created hc
      trivial
    · exact (ch.transition_step op).waits hch
  · exact fun _ _ h => nomatch h

/-- A call gives out the short channel id of the channel it creates, and no other. -/
theorem peerByInterceptScid_step (env : Externals) (s : LSPS2ServiceHandler) (i : ServiceInput) :
    (s.step env i).1.peerByInterceptScid = (s.created i.call).elim s.peerByInterceptScid fun e =>
      s.peerByInterceptScid.insert e.1.2 e.1.1 := by
  obtain ⟨call, cm, now⟩ := i
  cases call with
  | handleMessage => exact handleMessage_frame (fun _ _ => rfl) ..
  | invoiceParametersGenerated p requestId scid =>
    simp only [step, invoiceParametersGenerated]
    split
    · next ps hps =>
      rw [created, requests_apply hps]
      rcases ps.pendingRequests requestId with _ | params | req <;> rfl
    · next hps => rw [created, requests_eq_none hps]; rfl
  | _ =>
    simp only [step, invalidTokenProvided, openingFeeParamsGenerated, respondGetInfo, created,
      htlcIntercepted, htlcHandlingFailed, paymentForwarded, channelReady]
    repeat' split
    all_goals rfl

/-- A short channel id is given out iff a channel has been created under it. -/
theorem handedOut_exec_iff (env : Externals) (secret : List UInt8) (is : List ServiceInput)
    (scid : Scid) :
    ((machine env).exec (.new secret) is).HandedOut scid ↔ ∃ pre i post, is = pre ++ i :: post ∧
      ∃ p ch, ((machine env).exec (.new secret) pre).created i.call = some ((p, scid), ch) := by
  have hnew : ¬(new secret).HandedOut scid := Bool.false_ne_true
  have hrun := (machine env).exec_iff_exists (P := fun s => s.HandedOut scid)
    (Q := fun s i => ∃ p ch, s.created i.call = some ((p, scid), ch)) (fun s i => ?_) (new secret) is
  · rwa [or_iff_right hnew] at hrun
  rw [HandedOut, HandedOut, machine, peerByInterceptScid_step]
  rcases s.created i.call with _ | ⟨⟨p, scid'⟩, ch⟩
  · simp
  · by_cases h : scid = scid'
    · subst h
      simp
    · simp [PartialMap.insert_of_ne _ p h, Ne.symm h]

/-- **HTLCs of short channel ids given out.** In a run of the service whose channel
    managers do all they are asked to, up to the first call that panics, every HTLC
    intercepted on a short channel id given out is held, forwarded or failed, iff for each
    the channel is stored and there is something to pay. -/
theorem htlcIntercepted_safe_iff (env : Externals) (secret : List UInt8) (is : List ServiceInput)
    (hcm : ∀ i ∈ is, i.cm.AcceptsAll) :
    (machine env).AlongWhile Returns (fun s i => ∀ scid id amount hash,
        i.call = .htlcIntercepted scid id amount hash → s.HandedOut scid →
          Safe scid id (s.step env i)) (.new secret) is ↔
      (machine env).AlongWhile Returns (fun s i => ∀ scid id amount hash,
        i.call = .htlcIntercepted scid id amount hash → s.HandedOut scid →
          s.Receives scid ⟨id, amount, hash⟩) (.new secret) is := by
  rw [Machine.alongWhile_iff_forall, Machine.alongWhile_iff_forall]
  refine forall₄_congr fun pre i post his => imp_congr_right fun _ =>
    forall₄_congr fun scid id amount hash =>
      imp_congr_right fun hcall => imp_congr_right fun _ => ?_
  have hwaits := waits_exec env secret pre
  generalize (machine env).exec (.new secret) pre = s at hwaits ⊢
  have hstep : s.step env i = s.htlcIntercepted i.cm scid id amount hash := by rw [step, hcall]
  rw [hstep, Receives]
  -- The short channel id leads to a channel, or else to nothing that looks at the HTLC.
  rcases hrouted : s.routed scid with _ | ch
  · exact iff_of_false (not_safe_of_routed hrouted) (by rintro ⟨_, ⟨⟩, _⟩)
  · obtain ⟨p, -, hch⟩ := Option.bind_eq_some_iff.1 hrouted
    have hi : i ∈ is := his ▸ List.mem_append_cons_self
    rw [safe_of_routed (hcm i hi) hrouted (hwaits _ ch hch)]
    simp

/-- The first HTLC of a payment of the size bought is safe. -/
theorem htlcIntercepted_safe_mpp :
    (machine sampleExternals).AlongWhile Returns (fun s i => ∀ scid id amount hash,
        i.call = .htlcIntercepted scid id amount hash → s.HandedOut scid →
          Safe scid id (s.step sampleExternals i)) (.new [])
      [sampleBuy (some 500), sampleInvoice,
        (ServiceCall.htlcIntercepted 42 ⟨0⟩ 200 ⟨0⟩).sampleInput] := by
  refine (htlcIntercepted_safe_iff sampleExternals [] _ fun i hi n call => ?_).2
    ⟨nofun, fun _ => ⟨nofun, fun _ => ⟨fun scid id amount hash hcall _ => ?_, fun _ => trivial⟩⟩⟩
  · simp only [List.mem_cons, List.not_mem_nil, or_false] at hi
    obtain rfl | rfl | rfl := hi <;> rfl
  · cases hcall
    exact ⟨_, rfl, fun h => nomatch h.2⟩

/-- Once an HTLC is refused, the next one is stranded: of the payments on an invoice
    of any amount, the first is too large. -/
theorem not_htlcIntercepted_safe :
    ¬∀ (env : Externals) (secret : List UInt8) (is : List ServiceInput),
      (∀ i ∈ is, i.cm.AcceptsAll) →
      (machine env).Along (fun s i => ∀ k ch, s.created i.call = some (k, ch) → ¬s.HandedOut k.2)
        (.new secret) is →
      (machine env).AlongWhile Returns (fun s i => ∀ scid id amount hash,
        i.call = .htlcIntercepted scid id amount hash → s.HandedOut scid →
          Safe scid id (s.step env i)) (.new secret) is := by
  intro h
  let htlc (id : ℕ) (amount : UInt64) : ServiceInput :=
    (ServiceCall.htlcIntercepted 42 ⟨id⟩ amount ⟨id⟩).sampleInput
  let is := [sampleBuy none, sampleInvoice, htlc 0 5000, htlc 1 500]
  have hsafe := h sampleExternals [] is (fun i hi n call => ?_) ⟨nofun, ?_, nofun, nofun, trivial⟩
  · have hreturns : (machine sampleExternals).Outputs Returns (.new []) (is.take 3) := by decide
    rw [Machine.alongWhile_iff_forall] at hsafe
    obtain ⟨ch, hch, -⟩ | ⟨c, p, amount, hmem⟩ | hmem :=
      hsafe (is.take 3) (htlc 1 500) [] rfl hreturns 42 ⟨1⟩ 500 ⟨1⟩ rfl rfl
    · cases hch
    · exact List.not_mem_nil hmem
    · exact List.not_mem_nil hmem
  · simp only [is, List.mem_cons, List.not_mem_nil, or_false] at hi
    obtain rfl | rfl | rfl | rfl := hi <;> rfl
  · exact fun _ _ _ => Bool.false_ne_true

end LSPS2ServiceHandler

end LightningLiquidity
