import LightningLiquidity.Lsps2.Channel.Coupling

/-!
# The initial payment

What a channel does with an HTLC while it awaits its initial payment: it refuses the HTLC
if it has no fixed payment size and the HTLC is not acceptable
(`isOk_htlcIntercepted_iff`); else it holds it, and may ask to be opened
(`action_of_initial`). It only does so in this state (`exists_of_openChannel`).
-/

namespace LightningLiquidity

open OutboundJITChannelState OutboundJITChannel PaymentQueue

/-- Without a fixed payment size, an HTLC is not the first of its payment, or its amount is
    not acceptable. -/
def OutboundJITChannel.Unacceptable (ch : OutboundJITChannel) (htlc : InterceptedHTLC) : Prop :=
  ch.paymentSizeMsat = none ∧
    (ch.state.queue.htlcsOf htlc.paymentHash ≠ [] ∨
      ¬AcceptableSize ch.openingFeeParams htlc.expectedOutboundAmountMsat)

variable {ch : OutboundJITChannel} {q : PaymentQueue} {htlc : InterceptedHTLC}

/-- Without a fixed payment size, a channel awaiting its initial payment takes the first
    HTLC of a payment, of an acceptable amount. -/
theorem isOk_htlcIntercepted_none (q : PaymentQueue) (id : UserChannelId) (params : OpeningFeeParams)
    (htlc : InterceptedHTLC) :
    (OutboundJITChannel.htlcIntercepted ⟨pendingInitialPayment q, id, params, none⟩ htlc).2.isOk =
        true ↔
      q.htlcsOf htlc.paymentHash = [] ∧ AcceptableSize params htlc.expectedOutboundAmountMsat := by
  simp only [OutboundJITChannel.htlcIntercepted, OutboundJITChannelState.htlcIntercepted, addHtlc_eq]
  by_cases hnum : q.htlcsOf htlc.paymentHash = []
  · simp only [hnum, List.length_nil, List.nil_append, totalMsat_singleton, true_and]
    by_cases hlim : htlc.expectedOutboundAmountMsat < params.minPaymentSizeMsat ∨
        htlc.expectedOutboundAmountMsat > params.maxPaymentSizeMsat
    · have hnot : ¬AcceptableSize params htlc.expectedOutboundAmountMsat := fun h =>
        hlim.elim (UInt64.not_lt.2 h.min_le) (UInt64.not_lt.2 h.le_max)
      simp [hlim, update, hnot, Except.isOk, Except.toBool]
    have hmin := UInt64.not_lt.1 fun h => hlim (.inl h)
    have hmax := UInt64.not_lt.1 fun h => hlim (.inr h)
    -- Within the limits, the opening fee decides.
    have hacc : AcceptableSize params htlc.expectedOutboundAmountMsat ↔
        ∃ fee, params.openingFee htlc.expectedOutboundAmountMsat = some fee ∧
          fee < htlc.expectedOutboundAmountMsat := ⟨fun h => h.fee_lt, fun h => ⟨hmin, hmax, h⟩⟩
    rw [hacc]
    cases hfee : params.openingFee htlc.expectedOutboundAmountMsat with
    | none => simp [hlim, hfee, update, Except.isOk, Except.toBool]
    | some fee =>
      by_cases hlt : fee < htlc.expectedOutboundAmountMsat
      · simp [hlim, hfee, update, UInt64.saturatingSub_pos.2 hlt, hlt, Except.isOk, Except.toBool]
      · have := mt UInt64.saturatingSub_pos.1 hlt
        simp [hlim, hfee, update, this, hlt, Except.isOk, Except.toBool]
  · simp [hnum, update, Except.isOk, Except.toBool]

theorem isOk_step_htlcIntercepted (ch : OutboundJITChannel) (htlc : InterceptedHTLC) :
    (ch.step (.htlcIntercepted htlc)).2.isOk = (ch.htlcIntercepted htlc).2.isOk := by
  rw [step]
  rcases ch.htlcIntercepted htlc with ⟨ch', e | a⟩ <;> rfl

/-- A channel awaiting its initial payment, of an acceptable size if it is fixed, refuses
    the HTLCs that are not acceptable. -/
theorem isOk_htlcIntercepted_iff (hst : ch.state = pendingInitialPayment q) (hacc : ch.Acceptable) :
    (ch.htlcIntercepted htlc).2.isOk = true ↔ ¬ch.Unacceptable htlc := by
  obtain ⟨st, id, params, _ | sz⟩ := ch
  · obtain rfl : st = pendingInitialPayment q := hst
    rw [isOk_htlcIntercepted_none, Unacceptable, OutboundJITChannelState.queue]
    simp
  · refine iff_of_true ?_ (by rintro ⟨⟨⟩, _⟩)
    rw [← isOk_step_htlcIntercepted]
    exact hacc.acceptsHtlc rfl (.htlcIntercepted htlc) rfl

/-- What a channel that awaits its initial payment asks for, is to open it. -/
theorem action_of_initial (hst : ch.state = pendingInitialPayment q) {ch' : OutboundJITChannel}
    {a : Option HTLCInterceptedAction} (h : ch.htlcIntercepted htlc = (ch', .ok a)) :
    a = none ∨ ∃ o, a = some (.openChannel o) := by
  have hstep := transition_step ch (.htlcIntercepted htlc)
  rw [step, h, hst] at hstep
  obtain ⟨st', id', params', size'⟩ := ch'
  rcases a with _ | (o | c | ⟨c, payment⟩)
  · exact .inl rfl
  · exact .inr ⟨o, rfl⟩
  · cases hstep
  · cases hstep

/-- A channel is only to be opened while its initial payment is awaited. -/
theorem exists_of_openChannel {o : OpenChannelParams} {ch' : OutboundJITChannel}
    (h : ch.htlcIntercepted htlc = (ch', .ok (some (.openChannel o)))) :
    ∃ q, ch.state = pendingInitialPayment q := by
  have hstep := transition_step ch (.htlcIntercepted htlc)
  rw [step, h] at hstep
  obtain ⟨st, id, params, size⟩ := ch
  obtain ⟨st', id', params', size'⟩ := ch'
  cases hstep with
  | openChannel => exact ⟨_, rfl⟩

end LightningLiquidity
