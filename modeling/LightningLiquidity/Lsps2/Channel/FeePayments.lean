import LightningLiquidity.Lsps2.Channel.Coupling
import LightningLiquidity.Lsps2.Channel.Lifecycle

/-!
# The payments the fee is skimmed from

The opening fee is skimmed from a payment taken out of the queue for covering it
(`Transition.feePayment`), whether or not that payment is complete. The fee is
the one announced when the channel was opened (`feePayment_fee_eq`), which
together with the amount announced to be forwarded makes up the payment size
(`opens_eq`).
-/

namespace LightningLiquidity

open OutboundJITChannelState PaymentQueue

/-- The queue an operation finds in a state: with the HTLC it gives, if any. -/
def OutboundJITChannelState.queueWith (st : OutboundJITChannelState) (op : ChannelOp) :
    PaymentQueue :=
  match op.htlc? with
  | some htlc => st.queue.push htlc
  | none => st.queue

theorem OutboundJITChannelState.noOverflow_queueWith {st : OutboundJITChannelState} {op : ChannelOp}
    (hq : st.queue.NoOverflow) (hfits : ∀ htlc ∈ op.htlc?, st.queue.Fits htlc) :
    (st.queueWith op).NoOverflow := by
  rw [queueWith]
  split
  · next htlc h => exact hq.push (hfits htlc h)
  · exact hq

/-- A payment the fee is skimmed from is taken out of the queue for covering it. -/
theorem OutboundJITChannelState.Transition.feePayment {params : OpeningFeeParams}
    {size : Option UInt64} {st st' : OutboundJITChannelState} {op : ChannelOp} {r : ChannelResult}
    (h : Transition params size st op st' r) {p : FeePayment}
    (hp : ChannelEvent.feePayment? (op, r) = some p) :
    ∃ hash, (st.queueWith op).popGreaterThanMsat p.openingFeeMsat =
      (st'.queue, some (hash, p.htlcs)) := by
  cases h with
  | ready hpop | next hpop | forwardPayment hpop =>
    obtain rfl := Option.some.inj hp
    exact ⟨_, hpop⟩
  | _ => cases hp

variable {params : OpeningFeeParams} {size : Option UInt64} {id : UserChannelId}
  {ops : List ChannelOp}

open OutboundJITChannel

/-- What is announced at the opening of a channel is its payment size, split into
    the opening fee and the amount to forward. -/
theorem opens_eq {e : ChannelEvent} {o : OpenChannelParams} {sz : UInt64}
    (he : e ∈ machine.trace (new (some sz) params id) ops) (ho : e.opens? = some o) :
    o.openingFeeMsat.toNat + o.amtToForwardMsat.toNat = sz.toNat := by
  obtain ⟨pre, post, htr⟩ := List.append_of_mem he
  obtain ⟨g, g', hpast, hstep⟩ := exists_step htr
  obtain ⟨expected, hexp, -, hsum⟩ := (hstep.follows hpast).openingFee o ho
  rw [ChannelEvent.expectedSize, Option.some_or] at hexp
  rwa [← Option.some.inj hexp] at hsum

/-- The fee skimmed is that announced at the opening. -/
theorem feePayment_fee_eq {e : ChannelEvent} {o : OpenChannelParams}
    (he : e ∈ machine.trace (new size params id) ops) (ho : e.opens? = some o) {op : ChannelOp}
    {p : FeePayment}
    (hp : ChannelEvent.feePayment? (op, ((machine.exec (new size params id) ops).step op).2) =
      some p) : p.openingFeeMsat = o.openingFeeMsat := by
  obtain ⟨g, hg, hpast⟩ := exists_past size params id ops
  obtain ⟨g', hstep, -⟩ := stage_step _ op hg
  have hfee := (hstep.of_feePayment hp).1
  rw [(hpast.fee_iff _).2 ⟨e, he, o, ho, rfl⟩] at hfee
  exact (Option.some.inj hfee).symm

end LightningLiquidity
