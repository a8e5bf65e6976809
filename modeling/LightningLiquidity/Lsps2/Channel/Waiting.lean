import LightningLiquidity.Lsps2.Channel.Trace

/-!
# Channels that wait for a payment

Once the payment that opened a channel has failed, the channel waits for another one that covers
the fee. None that is held does (`OutboundJITChannelState.Waits`), so that the payment taken out
for an HTLC is the one it completes; without a fee, nothing is held at all.
-/

namespace LightningLiquidity

open OutboundJITChannelState PaymentQueue

/-- While a payment is awaited, no payment held covers the fee. -/
def OutboundJITChannelState.Waits : OutboundJITChannelState → Prop
  | pendingPayment q fee _ => ∀ p ∈ q.payments, totalMsat p.2 < fee
  | _ => True

theorem OutboundJITChannelState.Transition.waits {params : OpeningFeeParams}
    {size : Option UInt64} {st st' : OutboundJITChannelState} {op : ChannelOp} {r : ChannelResult}
    (h : Transition params size st op st' r) (hst : st.Waits) : st'.Waits := by
  cases h with
  | wait hpop | holdPayment hpop => exact (popGreaterThanMsat_none hpop).2
  | idle | refuse => exact hst
  | _ => trivial

/-- An HTLC of no amount, for a channel that awaits a payment but no fee. -/
def OutboundJITChannelState.NothingToPay (st : OutboundJITChannelState) (htlc : InterceptedHTLC) :
    Prop :=
  htlc.expectedOutboundAmountMsat = 0 ∧ ∃ q c, st = pendingPayment q 0 c

/-- The payment taken out for an HTLC, where none covered the fee before, is that of
    the HTLC. -/
theorem PaymentQueue.eq_of_pop_push {q q' : PaymentQueue} {htlc : InterceptedHTLC} {fee : UInt64}
    {payment : PaymentHash × List InterceptedHTLC} (hq : ∀ p ∈ q.payments, totalMsat p.2 < fee)
    (hpop : (q.push htlc).popGreaterThanMsat fee = (q', some payment)) :
    payment = (htlc.paymentHash, q.htlcsOf htlc.paymentHash ++ [htlc]) := by
  obtain ⟨l, r, hpush, -, hle, -⟩ := popGreaterThanMsat_some hpop
  have hmem : payment ∈ (q.push htlc).payments := hpush ▸ List.mem_append_cons_self
  rcases mem_push_iff.1 hmem with h | ⟨h, -⟩
  · exact h
  · exact absurd (hq payment h) (UInt64.not_lt.2 hle)

/-- An HTLC is held after it is added. -/
theorem PaymentQueue.mem_htlcs_push (q : PaymentQueue) (htlc : InterceptedHTLC) :
    htlc ∈ (q.push htlc).htlcs := (q.htlcs_push htlc).mem_iff.2 List.mem_cons_self

/-- Without a fee, no payment is held while one is awaited. -/
theorem PaymentQueue.payments_eq_nil {q : PaymentQueue}
    (hq : ∀ p ∈ q.payments, totalMsat p.2 < 0) : q.payments = [] :=
  List.eq_nil_iff_forall_not_mem.2 fun p hp => UInt64.not_lt_zero (hq p hp)

end LightningLiquidity
