import LightningLiquidity.Lsps2.Channel.Initial
import LightningLiquidity.Lsps2.Service.Stranded

/-!
# Expired offers

Whether an offer has expired is checked when a channel is bought, but not when its
payment arrives: an HTLC intercepted after the expiry still opens the channel, or is
held for it.

* `openChannel_mem_events`: a channel is opened only for an HTLC given to a channel
  awaiting its initial payment;
* `respectsExpiry_iff`: in every run, up to the first call that panics, HTLCs of expired offers
  are failed, and open no channel, iff each of them is refused for another reason
  (`OutboundJITChannel.Unacceptable`).
-/

namespace LightningLiquidity

open OutboundJITChannelState OutboundJITChannel PaymentQueue

/-! ## Channels -/

/-- The offer a channel was bought under has expired at the given time. -/
def OutboundJITChannel.Expired (ch : OutboundJITChannel) (now : UInt64) : Prop :=
  ch.openingFeeParams.validUntil.timestamp < now.toNat

instance (ch : OutboundJITChannel) (now : UInt64) : Decidable (ch.Expired now) :=
  inferInstanceAs (Decidable (_ < _))

variable {ch : OutboundJITChannel} {q : PaymentQueue} {htlc : InterceptedHTLC}

/-! ## The service -/

namespace LSPS2ServiceHandler

variable {env : Externals} {s : LSPS2ServiceHandler} {cm : ChannelManager} {scid : Scid}
  {id : InterceptId} {amount : UInt64} {hash : PaymentHash}

/-- An HTLC given to a channel is failed, without any event, if the channel refuses it. -/
theorem htlcIntercepted_of_refused (hrouted : s.routed scid = some ch)
    (hrefused : (ch.htlcIntercepted ⟨id, amount, hash⟩).2.isOk ≠ true) :
    (s.htlcIntercepted cm scid id amount hash).2.events = [] ∧
      .failInterceptedHtlc id ∈ (s.htlcIntercepted cm scid id amount hash).2.cmCalls := by
  obtain ⟨p, hp, hrest⟩ := Option.bind_eq_some_iff.1 hrouted
  obtain ⟨ps, hps, hch⟩ := Option.bind_eq_some_iff.1 hrest
  simp only [htlcIntercepted, hp, hps, hch]
  rcases hr : ch.htlcIntercepted ⟨id, amount, hash⟩ with ⟨ch', e | a⟩
  · -- The HTLC is failed, whatever the channel manager makes of it.
    simp only [ChannelManager.callAll]
    rcases cm 0 (.failInterceptedHtlc id) with e' | ⟨⟩
    all_goals exact ⟨rfl, List.mem_singleton_self _⟩
  · rw [hr] at hrefused
    exact absurd rfl hrefused

/-- Nothing is failed for an HTLC that a channel awaiting its initial payment takes. -/
theorem htlcIntercepted_of_taken (cm : ChannelManager) (hrouted : s.routed scid = some ch)
    (hst : ch.state = pendingInitialPayment q)
    (htaken : (ch.htlcIntercepted ⟨id, amount, hash⟩).2.isOk = true) :
    (s.htlcIntercepted cm scid id amount hash).2.cmCalls = [] := by
  obtain ⟨p, hp, hrest⟩ := Option.bind_eq_some_iff.1 hrouted
  obtain ⟨ps, hps, hch⟩ := Option.bind_eq_some_iff.1 hrest
  simp only [htlcIntercepted, hp, hps, hch]
  rcases hr : ch.htlcIntercepted ⟨id, amount, hash⟩ with ⟨ch', e | a⟩
  · rw [hr] at htaken
    cases htaken
  · obtain rfl | ⟨o, rfl⟩ := action_of_initial hst hr
    all_goals rfl

/-- A channel is opened only for an HTLC given to a channel that awaits its initial
    payment. -/
theorem openChannel_mem_events {i : ServiceInput} {p : PublicKey} {amt fee : UInt64}
    {userChannelId : UserChannelId}
    (h : .openChannel p amt fee userChannelId scid ∈ (s.step env i).2.events) :
    ∃ id amount hash ch q, i.call = .htlcIntercepted scid id amount hash ∧
      s.channels (p, scid) = some ch ∧ s.routed scid = some ch ∧
      ch.state = pendingInitialPayment q := by
  obtain ⟨call, cm, now⟩ := i
  cases call with
  | htlcIntercepted scid' id amount hash =>
    simp only [LSPS2ServiceHandler.step, htlcIntercepted] at h
    split at h
    · next p' hp =>
      split at h
      · next ps hps =>
        split at h
        · next ch hch =>
          rcases hr : ch.htlcIntercepted ⟨id, amount, hash⟩ with ⟨ch', e | _ | (o | c | ⟨c, payment⟩)⟩
          all_goals simp only [hr] at h
          · split at h <;> cases h
          · cases h
          · -- The one action that announces a channel to be opened.
            obtain ⟨q, hq⟩ := exists_of_openChannel hr
            obtain ⟨rfl, -, -, -, rfl⟩ := LSPS2ServiceEvent.openChannel.inj (List.mem_singleton.1 h)
            exact ⟨id, amount, hash, ch, q, rfl, (channels_apply hps scid).trans hch,
              (routed_apply hp hps).trans hch, hq⟩
          · cases h
          · rw [ChannelManager.events_forwardPayment] at h
            cases h
        · cases h
      · cases h
    · cases h
  -- Requests are announced by other events.
  | handleMessage message p' =>
    simp only [LSPS2ServiceHandler.step, handleMessage, handleGetInfoRequest, handleBuyRequest] at h
    repeat' split at h
    all_goals simp [refuseBuy] at h
  | _ =>
    simp only [LSPS2ServiceHandler.step, invalidTokenProvided, openingFeeParamsGenerated,
      respondGetInfo, invoiceParametersGenerated, htlcHandlingFailed, paymentForwarded,
      channelReady] at h
    repeat' split at h
    all_goals first | cases h | (rw [ChannelManager.events_forwardPayment] at h; cases h)

/-! ## Expiry -/

/-- An HTLC given to a channel that awaits its initial payment, after its offer has
    expired, is failed and opens no channel; and no channel is opened but before. -/
structure RespectsExpiry (env : Externals) (s : LSPS2ServiceHandler) (i : ServiceInput) : Prop where
  fails : ∀ scid id amount hash ch q, i.call = .htlcIntercepted scid id amount hash →
    s.routed scid = some ch → ch.state = pendingInitialPayment q → ch.Expired i.now →
      (∀ p amt fee userChannelId scid',
        .openChannel p amt fee userChannelId scid' ∉ (s.step env i).2.events) ∧
      .failInterceptedHtlc id ∈ (s.step env i).2.cmCalls
  opens : ∀ p amt fee userChannelId scid,
    .openChannel p amt fee userChannelId scid ∈ (s.step env i).2.events →
      ∃ ch, s.channels (p, scid) = some ch ∧ ¬ch.Expired i.now

/-- An HTLC given to a channel that awaits its initial payment comes before the offer
    expires, or is not acceptable. -/
def InTime (s : LSPS2ServiceHandler) (i : ServiceInput) : Prop :=
  ∀ scid id amount hash ch q, i.call = .htlcIntercepted scid id amount hash →
    s.routed scid = some ch → ch.state = pendingInitialPayment q → ch.Expired i.now →
      ch.Unacceptable ⟨id, amount, hash⟩

/-- The channel a short channel id leads to was bought for an acceptable payment size. -/
theorem Sound.acceptable (h : s.Sound env) (hrouted : s.routed scid = some ch) : ch.Acceptable := by
  obtain ⟨p, -, hch⟩ := Option.bind_eq_some_iff.1 hrouted
  exact (h.channels _ ch hch).acceptable

theorem respectsExpiry_step_iff (hs : s.Sound env) (i : ServiceInput) :
    RespectsExpiry env s i ↔ s.InTime i := by
  constructor
  · intro h scid id amount hash ch q hcall hrouted hst hexpired
    by_contra hacc
    obtain ⟨-, hfail⟩ := h.fails scid id amount hash ch q hcall hrouted hst hexpired
    rw [LSPS2ServiceHandler.step, hcall] at hfail
    have hnil := htlcIntercepted_of_taken i.cm hrouted hst
      ((isOk_htlcIntercepted_iff hst (hs.acceptable hrouted)).2 hacc)
    exact List.not_mem_nil (hnil ▸ hfail)
  · intro h
    have hfails : ∀ scid id amount hash ch q, i.call = .htlcIntercepted scid id amount hash →
        s.routed scid = some ch → ch.state = pendingInitialPayment q → ch.Expired i.now →
          (s.step env i).2.events = [] ∧ .failInterceptedHtlc id ∈ (s.step env i).2.cmCalls := by
      intro scid id amount hash ch q hcall hrouted hst hexpired
      rw [LSPS2ServiceHandler.step, hcall]
      refine htlcIntercepted_of_refused hrouted fun hok => ?_
      exact (isOk_htlcIntercepted_iff hst (hs.acceptable hrouted)).1 hok
        (h scid id amount hash ch q hcall hrouted hst hexpired)
    refine ⟨?_, fun p amt fee userChannelId scid hmem => ?_⟩
    · intro scid id amount hash ch q hcall hrouted hst hexpired
      obtain ⟨hevents, hfail⟩ := hfails scid id amount hash ch q hcall hrouted hst hexpired
      exact ⟨fun _ _ _ _ _ hmem => List.not_mem_nil (hevents ▸ hmem), hfail⟩
    · obtain ⟨id, amount, hash, ch, q, hcall, hch, hrouted, hst⟩ := openChannel_mem_events hmem
      refine ⟨ch, hch, fun hexpired => ?_⟩
      obtain ⟨hevents, -⟩ := hfails scid id amount hash ch q hcall hrouted hst hexpired
      exact List.not_mem_nil (hevents ▸ hmem)

/-- **Expired offers.** In every run, up to the first call that panics, HTLCs of channels that
    await their initial payment are failed once the offer has expired, and open no channel, iff
    each such HTLC is not acceptable anyway. -/
theorem respectsExpiry_iff (env : Externals) (secret : List UInt8) (is : List ServiceInput) :
    (machine env).AlongWhile Returns (RespectsExpiry env) (.new secret) is ↔
      (machine env).AlongWhile Returns InTime (.new secret) is := by
  rw [Machine.alongWhile_iff_forall, Machine.alongWhile_iff_forall]
  exact forall₄_congr fun pre i _ _ => imp_congr_right fun _ =>
    respectsExpiry_step_iff (Sound.exec secret pre) i

/-- A channel bought before the offer expires, and paid for a second after. -/
theorem not_respectsExpiry :
    ¬∀ (env : Externals) (secret : List UInt8) (is : List ServiceInput),
      (machine env).AlongWhile Returns (RespectsExpiry env) (.new secret) is := by
  intro h
  let htlc : ServiceInput :=
    { (ServiceCall.htlcIntercepted 42 ⟨0⟩ 500 ⟨0⟩).sampleInput with now := 2000000001 }
  have hreturns : (machine sampleExternals).Outputs Returns (.new [])
      [sampleBuy (some 500), sampleInvoice] := by decide
  have hlast := Machine.alongWhile_iff_forall.1
    (h sampleExternals [] [sampleBuy (some 500), sampleInvoice, htlc]) _ htlc [] rfl hreturns
  obtain ⟨ch, hch, hexpired⟩ := hlast.opens ⟨0⟩ 450 50 0 42 List.mem_cons_self
  obtain rfl := Option.some.inj hch
  exact hexpired (by decide)

end LSPS2ServiceHandler

end LightningLiquidity
