import LightningLiquidity.Lsps2.Amounts
import LightningLiquidity.Lsps2.Channel.FeePayments
import LightningLiquidity.Lsps2.Channel.Waiting

/-!
# Splitting the payments the fee is skimmed from

A payment the fee is skimmed from should cover the fee and be of some amount, so that the fee can
be split over its HTLCs (`FeePayment.Splits`). The queue gives a payment of *at least* the fee. The
fee of a channel may be zero, and then the first payment of the queue is taken out, which may
consist of HTLCs of no amount: the split then divides by zero (`not_feePayments_split`). It is the
one exception (`feePayments_split_iff`).
-/

namespace LightningLiquidity

open OutboundJITChannelState PaymentQueue

/-- A payment can be split, giving its fee. -/
structure FeePayment.Splits (p : FeePayment) : Prop where
  ne_nil : p.htlcs ≠ []
  pos : 0 < exactMsat p.htlcs
  fee_le : p.openingFeeMsat.toNat ≤ exactMsat p.htlcs
  paymentHash : ∃ hash, ∀ htlc ∈ p.htlcs, htlc.paymentHash = hash
  /-- The HTLCs are not dropped for being less than the fee. -/
  not_gt : ¬p.openingFeeMsat > totalMsat p.htlcs
  ne_none : calculateAmountToForwardPerHtlc p.htlcs p.openingFeeMsat ≠ none

/-- An operation takes a payment of no amount out of the queue, for a channel without a fee. -/
def OutboundJITChannelState.TakesNothing (st : OutboundJITChannelState) : ChannelOp → Prop
  | .htlcIntercepted htlc => st.NothingToPay htlc
  | .channelReady _ => ∃ q payment, st = pendingChannelOpen q 0 ∧
      q.payments.head? = some payment ∧ exactMsat payment.2 = 0
  | .htlcHandlingFailed => ∃ q c payment, st = pendingPaymentForward q 0 c ∧
      q.payments.head? = some payment ∧ exactMsat payment.2 = 0
  | .paymentForwarded => False

namespace PaymentQueue

variable {q q' : PaymentQueue} {fee : UInt64} {payment : PaymentHash × List InterceptedHTLC}

/-- Without a fee, the first payment is taken out, if there is one. -/
theorem head?_of_pop {o : Option (PaymentHash × List InterceptedHTLC)}
    (hpop : q.popGreaterThanMsat 0 = (q', o)) : q.payments.head? = o := by
  cases o with
  | none =>
    rw [payments_eq_nil (popGreaterThanMsat_none hpop).2]
    rfl
  | some payment =>
    obtain ⟨l, r, hq, -, -, hl⟩ := popGreaterThanMsat_some hpop
    have hnil : l = [] := List.eq_nil_iff_forall_not_mem.2 fun p hp => UInt64.not_lt_zero (hl p hp)
    rw [hq, hnil]
    rfl

/-- A payment taken out can be split unless it is of no amount, which it is only without a fee. -/
theorem splits_of_pop (hq : q.NoOverflow) (hpop : q.popGreaterThanMsat fee = (q', some payment)) :
    (⟨payment.2, fee⟩ : FeePayment).Splits ↔ ¬(fee = 0 ∧ exactMsat payment.2 = 0) := by
  obtain ⟨l, r, hpayments, -, hle, -⟩ := popGreaterThanMsat_some hpop
  have hmem : payment ∈ q.payments := hpayments ▸ List.mem_append_cons_self
  have htotal := toNat_totalMsat_of_lt (hq payment hmem)
  constructor
  · rintro hsplits ⟨-, hzero⟩
    exact hsplits.pos.ne' hzero
  · intro hne
    have hle' := hq.le_of_pop hpop
    -- A payment of no amount covers no fee but zero.
    have hpos : 0 < exactMsat payment.2 := by
      refine Nat.pos_of_ne_zero fun hzero => hne ⟨UInt64.toNat_inj.1 ?_, hzero⟩
      exact Nat.le_zero.1 (hzero ▸ hle')
    refine ⟨q.grouping.ne_nil payment hmem, hpos, hle', ?_, UInt64.not_lt.2 hle, fun hnone => ?_⟩
    · exact ⟨payment.1, q.grouping.key_eq payment hmem⟩
    · obtain ⟨hsum, -, -⟩ := calculateAmountToForwardPerHtlc_eq_none.1 hnone
      rw [hsum] at htotal
      exact hpos.ne htotal

end PaymentQueue

section TakesNothing

variable {st : OutboundJITChannelState} {op : ChannelOp} {q q' : PaymentQueue} {fee : UInt64}
  {c : ChannelId} {o : Option (PaymentHash × List InterceptedHTLC)}

/-- A channel that gets ready takes out what its queue gives for the fee. -/
theorem takesNothing_channelReady (hpop : q.popGreaterThanMsat fee = (q', o)) :
    (pendingChannelOpen q fee).TakesNothing (.channelReady c) ↔
      fee = 0 ∧ ∃ payment, o = some payment ∧ exactMsat payment.2 = 0 := by
  constructor
  · rintro ⟨_, payment, hst, hhead, hzero⟩
    obtain ⟨rfl, rfl⟩ := pendingChannelOpen.inj hst
    exact ⟨rfl, payment, (head?_of_pop hpop).symm.trans hhead, hzero⟩
  · rintro ⟨rfl, payment, rfl, hzero⟩
    exact ⟨q, payment, rfl, head?_of_pop hpop, hzero⟩

/-- So does one that takes the next payment, as the last could not be forwarded. -/
theorem takesNothing_htlcHandlingFailed (hpop : q.popGreaterThanMsat fee = (q', o)) :
    (pendingPaymentForward q fee c).TakesNothing .htlcHandlingFailed ↔
      fee = 0 ∧ ∃ payment, o = some payment ∧ exactMsat payment.2 = 0 := by
  constructor
  · rintro ⟨_, _, payment, hst, hhead, hzero⟩
    obtain ⟨rfl, rfl, -⟩ := pendingPaymentForward.inj hst
    exact ⟨rfl, payment, (head?_of_pop hpop).symm.trans hhead, hzero⟩
  · rintro ⟨rfl, payment, rfl, hzero⟩
    exact ⟨q, c, payment, rfl, head?_of_pop hpop, hzero⟩

/-- A channel that awaits a payment takes out the HTLC that comes: without a fee it holds no
    other. -/
theorem takesNothing_htlcIntercepted {htlc : InterceptedHTLC}
    (hwaits : (pendingPayment q fee c).Waits) (hpop : (q.push htlc).popGreaterThanMsat fee = (q', o)) :
    (pendingPayment q fee c).TakesNothing (.htlcIntercepted htlc) ↔
      fee = 0 ∧ ∃ payment, o = some payment ∧ exactMsat payment.2 = 0 := by
  have hamount (payment : PaymentHash × List InterceptedHTLC) (hfee : fee = 0)
      (ho : o = some payment) :
      htlc.expectedOutboundAmountMsat = 0 ↔ exactMsat payment.2 = 0 := by
    subst hfee ho
    rw [eq_of_pop_push hwaits hpop, htlcsOf, payments_eq_nil hwaits, ← UInt64.toNat_inj]
    exact (congrArg (· = 0) (exactMsat_singleton htlc)).symm.to_iff
  constructor
  · rintro ⟨hzero, _, _, hst⟩
    obtain ⟨-, rfl, -⟩ := pendingPayment.inj hst
    -- The payment of the HTLC is held, so one is taken out.
    have hmem : _ ∈ (q.push htlc).payments := mem_push_iff.2 (.inl rfl)
    obtain ⟨payment, ho⟩ : ∃ payment, o = some payment := by
      rw [← head?_of_pop hpop]
      exact ⟨_, List.head?_eq_some_head (List.ne_nil_of_mem hmem)⟩
    exact ⟨rfl, payment, ho, (hamount payment rfl ho).1 hzero⟩
  · rintro ⟨rfl, payment, ho, hzero⟩
    exact ⟨(hamount payment rfl ho).2 hzero, q, c, rfl⟩

/-- An operation that is refused takes nothing. -/
theorem OutboundJITChannelState.Refuses.not_takesNothing (h : st.Refuses op) :
    ¬st.TakesNothing op := by
  intro htakes
  cases op with
  | htlcIntercepted => cases h.htlc?_eq_none
  | channelReady =>
    obtain ⟨_, _, rfl, -⟩ := htakes
    exact h
  | htlcHandlingFailed =>
    obtain ⟨_, _, _, rfl, -⟩ := htakes
    exact h
  | paymentForwarded => exact htakes

end TakesNothing

/-- An operation takes no payment out of the queue, or one that is of no amount, without a fee,
    exactly if it is said to. -/
theorem OutboundJITChannelState.Transition.takes {params : OpeningFeeParams}
    {size : Option UInt64} {st st' : OutboundJITChannelState} {op : ChannelOp} {r : ChannelResult}
    (h : Transition params size st op st' r) (hwaits : st.Waits) :
    (ChannelEvent.feePayment? (op, r) = none ∧ ¬st.TakesNothing op) ∨
      ∃ q' fee payment, ChannelEvent.feePayment? (op, r) = some ⟨payment.2, fee⟩ ∧
        (st.queueWith op).popGreaterThanMsat fee = (q', some payment) ∧
        (st.TakesNothing op ↔ fee = 0 ∧ exactMsat payment.2 = 0) := by
  cases h with
  -- First the operations that pop a payment, then those that find none to pop.
  | @ready q q' fee c payment hpop =>
    refine .inr ⟨q', fee, payment, rfl, hpop, ?_⟩
    simp [takesNothing_channelReady hpop]
  | @next q q' fee c payment hpop =>
    refine .inr ⟨q', fee, payment, rfl, hpop, ?_⟩
    simp [takesNothing_htlcHandlingFailed hpop]
  | @forwardPayment q q' fee c htlc payment hpop =>
    refine .inr ⟨q', fee, payment, rfl, hpop, ?_⟩
    simp [takesNothing_htlcIntercepted hwaits hpop]
  | notReady hpop =>
    refine .inl ⟨rfl, ?_⟩
    simp [takesNothing_channelReady hpop]
  | wait hpop =>
    refine .inl ⟨rfl, ?_⟩
    simp [takesNothing_htlcHandlingFailed hpop]
  | holdPayment hpop =>
    refine .inl ⟨rfl, ?_⟩
    simp [takesNothing_htlcIntercepted hwaits hpop]
  -- In the other states the queue is not popped at all.
  | reject | hold | openChannel | holdOpen | holdForward | forwardHTLC =>
    refine .inl ⟨rfl, ?_⟩
    rintro ⟨-, _, _, hst⟩
    cases hst
  | paid => exact .inl ⟨rfl, not_false⟩
  | idle h =>
    refine .inl ⟨rfl, ?_⟩
    obtain ⟨q, fee, c, rfl, rfl⟩ | ⟨c, rfl, rfl | rfl⟩ := h
    · rintro ⟨_, _, _, hst, -⟩
      cases hst
    · rintro ⟨_, _, _, hst, -⟩
      cases hst
    · exact not_false
  | refuse h => exact .inl ⟨rfl, h.not_takesNothing⟩

/-- The payment an operation takes out can be split, unless it is one of no amount. -/
theorem OutboundJITChannelState.Transition.splits_iff {params : OpeningFeeParams}
    {size : Option UInt64} {st st' : OutboundJITChannelState} {op : ChannelOp} {r : ChannelResult}
    (h : Transition params size st op st' r) (hq : st.queue.NoOverflow) (hwaits : st.Waits)
    (hfits : ∀ htlc ∈ op.htlc?, st.queue.Fits htlc) :
    (∀ p, ChannelEvent.feePayment? (op, r) = some p → p.Splits) ↔ ¬st.TakesNothing op := by
  rcases h.takes hwaits with ⟨hnone, hno⟩ | ⟨q', fee, payment, hp, hpop, htakes⟩
  · refine iff_of_true (fun p hp => ?_) hno
    cases hnone.symm.trans hp
  · rw [htakes, ← splits_of_pop (noOverflow_queueWith hq hfits) hpop, hp]
    simp

namespace OutboundJITChannel

variable {params : OpeningFeeParams} {size : Option UInt64} {id : UserChannelId}

/-- In every run, no payment held by a channel that awaits one covers its fee. -/
theorem waits_exec (ops : List ChannelOp) :
    (machine.exec (new size params id) ops).state.Waits :=
  (machine.along_true (new size params id) ops).invariant
    (P := fun ch : OutboundJITChannel => ch.state.Waits)
    (fun ch op hch _ => (transition_step ch op).waits hch) trivial

/-- **Payments the fee is skimmed from.** In every run of a JIT channel without overflow, all
    payments the fee is skimmed from can be split iff no operation takes a payment of no amount
    out of the queue, for a channel without a fee. -/
theorem feePayments_split_iff (params : OpeningFeeParams) (size : Option UInt64)
    (id : UserChannelId) (ops : List ChannelOp)
    (hfits : machine.Along FitsHtlc (new size params id) ops) :
    machine.Along (fun ch op => ∀ p, ChannelEvent.feePayment? (op, (ch.step op).2) = some p →
        p.Splits) (new size params id) ops ↔
      machine.Along (fun ch op => ¬ch.state.TakesNothing op) (new size params id) ops := by
  rw [Machine.along_iff_forall, Machine.along_iff_forall]
  refine forall₄_congr fun pre op post hops => ?_
  subst hops
  obtain ⟨hpre, hop, -⟩ := Machine.along_append.1 hfits
  exact (transition_step _ op).splits_iff (noOverflow_exec hpre) (waits_exec pre) hop

/-- The parameters of the examples, without a fee. -/
def freeParams : OpeningFeeParams := { sampleParams with minFeeMsat := 0, proportional := 0 }

/-- Without a fee, a payment of some amount can be split. -/
theorem feePayments_split_free :
    machine.Along (fun ch op => ∀ p, ChannelEvent.feePayment? (op, (ch.step op).2) = some p →
        p.Splits) (new (some 500) freeParams 0)
      [.htlcIntercepted ⟨⟨0⟩, 500, ⟨0⟩⟩, .channelReady ⟨7⟩] := by
  refine (feePayments_split_iff freeParams (some 500) 0 _ (by decide)).2 ⟨?_, ?_, trivial⟩
  · rintro ⟨-, _, _, ⟨⟩⟩
  · rintro ⟨q, payment, hst, hhead, hzero⟩
    obtain ⟨rfl, -⟩ := pendingChannelOpen.inj hst
    obtain rfl := Option.some.inj hhead
    exact absurd hzero (by decide)

/-- Without a fee, an HTLC of no amount that comes first is forwarded as the payment: the split
    divides by zero. -/
theorem not_feePayments_split :
    ¬∀ (params : OpeningFeeParams) (size : Option UInt64) (id : UserChannelId)
        (ops : List ChannelOp), machine.Along FitsHtlc (new size params id) ops →
      machine.Along (fun ch op => ∀ p, ChannelEvent.feePayment? (op, (ch.step op).2) = some p →
        p.Splits) (new size params id) ops := by
  intro h
  have hrun := h freeParams (some 500) 0 [.htlcIntercepted ⟨⟨0⟩, 0, ⟨0⟩⟩,
    .htlcIntercepted ⟨⟨1⟩, 500, ⟨1⟩⟩, .channelReady ⟨7⟩] (by decide)
  have hsplits := hrun.2.2.1 ⟨[⟨⟨0⟩, 0, ⟨0⟩⟩], 0⟩ (by decide)
  exact hsplits.ne_none (by decide)

end OutboundJITChannel

end LightningLiquidity
