import LightningLiquidity.Lsps2.Channel.FeePayments
import LightningLiquidity.Lsps2.Channel.Initial

/-!
# Payments of a single HTLC

Without a fixed payment size, a payer must pay with a single HTLC. A channel enforces this
only while it awaits its initial payment: later, an HTLC is added to the payment with its
hash in every state (`rejects_iff`), and is forwarded with it
(`not_singlePart_along`).

* `singlePart_along`: payments the fee is skimmed from are single HTLCs, in runs in which no
  HTLC is given to a payment queued after the channel was opened, and the channel is not
  opened with a payment queued that covers the fee by several HTLCs, all but the first
  refused.
-/

namespace LightningLiquidity

open OutboundJITChannelState OutboundJITChannel PaymentQueue

/-! ## Queues -/

/-- The payments queued that cover an amount are single HTLCs. -/
def PaymentQueue.Single (q : PaymentQueue) (amountMsat : UInt64) : Prop :=
  ∀ p ∈ q.payments, amountMsat ≤ totalMsat p.2 → p.2.length = 1

namespace PaymentQueue

variable {q q' : PaymentQueue} {amount : UInt64} {htlc : InterceptedHTLC}
  {payment : PaymentHash × List InterceptedHTLC}

/-- The first HTLC of a payment is a single one. -/
theorem Single.push (h : q.Single amount) (hnew : q.htlcsOf htlc.paymentHash = []) :
    (q.push htlc).Single amount := by
  intro p hp hle
  rcases mem_push_iff.1 hp with rfl | ⟨hp, -⟩
  · simp [hnew]
  · exact h p hp hle

/-- A payment taken out for covering the amount is a single HTLC. -/
theorem Single.pop (h : q.Single amount) (hpop : q.popGreaterThanMsat amount = (q', some payment)) :
    payment.2.length = 1 ∧ q'.Single amount := by
  obtain ⟨l, r, hq, hq', hle, -⟩ := popGreaterThanMsat_some hpop
  have hmem : payment ∈ q.payments := hq ▸ List.mem_append_cons_self
  refine ⟨h payment hmem hle, fun p hp => h p ?_⟩
  rw [hq', List.mem_append] at hp
  rw [hq]
  exact List.mem_append.2 (hp.imp_right (List.mem_cons_of_mem _))

end PaymentQueue

/-! ## Channels without a fixed payment size -/

/-- The payments queued that cover the opening fee are single HTLCs, once there is a fee. -/
def OutboundJITChannelState.Single : OutboundJITChannelState → Prop
  | pendingInitialPayment _ => True
  | pendingChannelOpen q fee | pendingPaymentForward q fee _ | pendingPayment q fee _ => q.Single fee
  | paymentForwarded _ => True

/-- An HTLC of a payment queued is rejected. -/
def Rejects (ch : OutboundJITChannel) (op : ChannelOp) : Prop :=
  ∀ htlc, op.htlc? = some htlc → ch.state.queue.htlcsOf htlc.paymentHash ≠ [] →
    (ch.step op).2.isOk = false

/-- An HTLC of a payment queued is rejected, and a payment the fee is skimmed from is a
    single HTLC. -/
structure SinglePart (ch : OutboundJITChannel) (op : ChannelOp) : Prop where
  rejects : Rejects ch op
  single : ∀ p, ChannelEvent.feePayment? (op, (ch.step op).2) = some p → p.htlcs.length = 1

/-- Once the channel is to be opened, HTLCs given to it are not of a payment queued. -/
def FirstParts (ch : OutboundJITChannel) (op : ChannelOp) : Prop :=
  ∀ htlc, op.htlc? = some htlc → (∀ q, ch.state ≠ pendingInitialPayment q) →
    ch.state.queue.htlcsOf htlc.paymentHash = []

/-- When an HTLC opens the channel, the payments queued that cover the opening fee are
    single HTLCs. -/
def OpensSingle (ch : OutboundJITChannel) (op : ChannelOp) : Prop :=
  ∀ htlc q fee, op.htlc? = some htlc → ch.state = pendingInitialPayment q →
    ¬ch.Unacceptable htlc →
    ch.openingFeeParams.openingFee htlc.expectedOutboundAmountMsat = some fee → q.Single fee

variable {ch : OutboundJITChannel} {op : ChannelOp}

/-- A payment the fee is skimmed from is a single HTLC, and so are those that cover the fee
    and are left. -/
theorem single_step (hsize : ch.paymentSizeMsat = none) (hst : ch.state.Single)
    (hfirst : FirstParts ch op) (hopens : OpensSingle ch op) :
    (ch.step op).1.state.Single ∧
      ∀ p, ChannelEvent.feePayment? (op, (ch.step op).2) = some p → p.htlcs.length = 1 := by
  have hstep := transition_step ch op
  have htaken (htlc : InterceptedHTLC) (q : PaymentQueue) (hop : op = .htlcIntercepted htlc)
      (hinit : ch.state = pendingInitialPayment q) (hok : (ch.step op).2.isOk = true) :
      ¬ch.Unacceptable htlc := by
    rw [hop, isOk_step_htlcIntercepted] at hok
    exact (isOk_htlcIntercepted_iff hinit fun sz hsz => nomatch hsize.symm.trans hsz).1 hok
  generalize hst₀ : ch.state = st at hstep hst
  generalize (ch.step op).1.state = st', (ch.step op).2 = r at hstep htaken ⊢
  -- Every push is of a new payment hash, so that no payment is added to.
  cases hstep with
  | reject | hold => exact ⟨trivial, fun p hp => nomatch hp⟩
  | @openChannel q htlc expected fee hexp hfee =>
    rw [hsize] at hexp
    obtain ⟨⟨⟩⟩ | ⟨-, hnew, rfl⟩ := hexp
    have hsingle : q.Single fee := hopens htlc q fee rfl hst₀ (htaken htlc q rfl hst₀ rfl) hfee
    exact ⟨hsingle.push hnew, fun p hp => nomatch hp⟩
  | @holdOpen q fee htlc | @holdForward q fee c htlc | @holdPayment q fee c htlc =>
    have hnew := hfirst htlc rfl (by simp [hst₀])
    rw [hst₀] at hnew
    exact ⟨Single.push hst hnew, fun p hp => nomatch hp⟩
  | ready hpop | next hpop =>
    obtain ⟨hone, hleft⟩ := Single.pop hst hpop
    refine ⟨hleft, fun p hp => ?_⟩
    obtain rfl := Option.some.inj hp
    exact hone
  | @forwardPayment q q' fee c htlc payment hpop =>
    have hnew := hfirst htlc rfl (by simp [hst₀])
    rw [hst₀] at hnew
    obtain ⟨hone, hleft⟩ := Single.pop (Single.push hst hnew) hpop
    refine ⟨hleft, fun p hp => ?_⟩
    obtain rfl := Option.some.inj hp
    exact hone
  | notReady | wait => exact ⟨hst, fun p hp => nomatch hp⟩
  | paid | forwardHTLC => exact ⟨trivial, fun p hp => nomatch hp⟩
  | idle => exact ⟨hst, fun p hp => nomatch hp⟩
  | refuse => exact ⟨hst, fun p hp => nomatch hp⟩

/-- Once the channel is to be opened, no HTLC is rejected. -/
theorem acceptsHtlc_of_ne_initial (h : ∀ q, ch.state ≠ pendingInitialPayment q)
    (op : ChannelOp) : AcceptsHtlc ch op := by
  intro hop
  have hstep := transition_step ch op
  generalize ch.state = st, (ch.step op).1.state = st', (ch.step op).2 = r at hstep h
  cases hstep with
  | reject => exact absurd rfl (h _)
  | notReady => cases hop
  | refuse href => rw [href.htlc?_eq_none] at hop; cases hop
  | _ => rfl

/-- HTLCs of payments queued are rejected iff none is given once the channel is to be
    opened. -/
theorem rejects_iff (hsize : ch.paymentSizeMsat = none) : Rejects ch op ↔ FirstParts ch op := by
  constructor
  · intro h htlc hop hinit
    by_contra hqueued
    have hok := acceptsHtlc_of_ne_initial hinit op (Option.isSome_of_eq_some hop)
    rw [h htlc hop hqueued] at hok
    cases hok
  · intro h htlc hop hqueued
    by_cases hinit : ∃ q, ch.state = pendingInitialPayment q
    · obtain ⟨q, hq⟩ := hinit
      cases op with
      | htlcIntercepted htlc' =>
        obtain rfl := Option.some.inj hop
        rw [isOk_step_htlcIntercepted, ← Bool.not_eq_true,
          isOk_htlcIntercepted_iff hq fun sz hsz => nomatch hsize.symm.trans hsz]
        exact not_not_intro ⟨hsize, .inl hqueued⟩
      | channelReady | htlcHandlingFailed | paymentForwarded => cases hop
    · exact absurd (h htlc hop fun q hq => hinit ⟨q, hq⟩) hqueued

/-- **Payments are single HTLCs.** In every run of a channel without a fixed payment size, in
    which no HTLC is given to a payment queued once the channel is to be opened, and the
    channel is not opened with a payment queued that covers the opening fee by several
    HTLCs: every HTLC of a payment queued is rejected, and every payment the fee is skimmed
    from is a single HTLC. -/
theorem singlePart_along (params : OpeningFeeParams) (id : UserChannelId) (ops : List ChannelOp)
    (hrun : machine.Along (fun ch op => FirstParts ch op ∧ OpensSingle ch op)
      (new none params id) ops) :
    machine.Along SinglePart (new none params id) ops := by
  rw [Machine.along_iff_forall]
  intro pre op post hops
  rw [hops, Machine.along_append] at hrun
  obtain ⟨hpre, ⟨hfirst, hopens⟩, -⟩ := hrun
  -- The invariant: there is no payment size, and what covers the fee is single.
  have hinv : (machine.exec (new none params id) pre).paymentSizeMsat = none ∧
      (machine.exec (new none params id) pre).state.Single := by
    refine hpre.invariant (P := fun ch => ch.paymentSizeMsat = none ∧ ch.state.Single)
      (fun ch op hch hop => ⟨?_, (single_step hch.1 hch.2 hop.1 hop.2).1⟩) ⟨rfl, trivial⟩
    rw [machine, step_paymentSizeMsat, hch.1]
  exact ⟨(rejects_iff hinv.1).2 hfirst, (single_step hinv.1 hinv.2 hfirst hopens).2⟩

/-- A payment of a single HTLC, forwarded when the channel is ready. -/
theorem singlePart_along_one : machine.Along SinglePart (new none sampleParams 0)
    [.htlcIntercepted ⟨⟨0⟩, 500, ⟨0⟩⟩, .channelReady ⟨7⟩] := by
  refine singlePart_along sampleParams 0 _ ⟨⟨?_, ?_⟩, ⟨?_, ?_⟩, trivial⟩
  · exact fun _ _ hinit => absurd rfl (hinit .new)
  · rintro _ _ _ - ⟨⟩ - -
    exact fun p hp => absurd hp List.not_mem_nil
  · exact fun _ hop => nomatch hop
  · exact fun _ _ _ hop => nomatch hop

/-- The second part of a payment arrives while the channel is being opened: it is not
    rejected, and both are forwarded as one payment. -/
theorem not_singlePart_along :
    ¬∀ (params : OpeningFeeParams) (id : UserChannelId) (ops : List ChannelOp),
      machine.Along SinglePart (new none params id) ops := by
  intro h
  obtain ⟨-, -, hready, -⟩ := h sampleParams 0
    [.htlcIntercepted ⟨⟨0⟩, 500, ⟨0⟩⟩, .htlcIntercepted ⟨⟨1⟩, 300, ⟨0⟩⟩, .channelReady ⟨7⟩]
  have hsingle := hready.single ⟨[⟨⟨0⟩, 500, ⟨0⟩⟩, ⟨⟨1⟩, 300, ⟨0⟩⟩], 50⟩ (by decide)
  exact absurd hsingle (by decide)

end LightningLiquidity
