import LightningLiquidity.Lsps2.Channel.Trace

/-!
# State and queue of a JIT channel stay coupled

What the payments queued in a state amount to (`Coupled`): before the channel is
opened they are all incomplete, while it is being opened one of them exceeds the
opening fee, and while a payment is awaited none covers the fee.

This holds in every run in which the sums of the payments do not overflow
(`NoOverflow`) and no HTLC is refused: `coupled_exec`.
-/

namespace LightningLiquidity

open OutboundJITChannelState PaymentQueue

/-! ## Queues without overflow -/

/-- The sums of all payments fit 64 bits. -/
def PaymentQueue.NoOverflow (q : PaymentQueue) : Prop := ∀ p ∈ q.payments, exactMsat p.2 < 2 ^ 64

namespace PaymentQueue

variable {q q' : PaymentQueue} {htlc : InterceptedHTLC} {amount : UInt64}
  {payment : PaymentHash × List InterceptedHTLC}

theorem NoOverflow.push (h : q.NoOverflow) (hfits : q.Fits htlc) : (q.push htlc).NoOverflow := by
  intro p hp
  rcases mem_push_iff.1 hp with rfl | ⟨hp, -⟩
  · exact hfits
  · exact h p hp

theorem NoOverflow.pop (h : q.NoOverflow) (hpop : q.popGreaterThanMsat amount = (q', some payment)) :
    q'.NoOverflow := by
  obtain ⟨l, r, hq, hq', -⟩ := popGreaterThanMsat_some hpop
  refine fun p hp => h p ?_
  rw [hq] at *
  rw [hq', List.mem_append] at hp
  exact List.mem_append.2 (hp.imp_right (List.mem_cons_of_mem _))

/-- The payment taken out covers the amount asked for. -/
theorem NoOverflow.le_of_pop (h : q.NoOverflow)
    (hpop : q.popGreaterThanMsat amount = (q', some payment)) :
    amount.toNat ≤ exactMsat payment.2 := by
  obtain ⟨l, r, hq, -, hle, -⟩ := popGreaterThanMsat_some hpop
  rw [← toNat_totalMsat_of_lt (h payment (hq ▸ List.mem_append_cons_self))]
  exact UInt64.le_iff_toNat_le.1 hle

/-- If no payment is taken out, none covers the amount asked for. -/
theorem NoOverflow.lt_of_pop (h : q.NoOverflow) (hpop : q.popGreaterThanMsat amount = (q', none)) :
    ∀ p ∈ q.payments, exactMsat p.2 < amount.toNat := by
  intro p hp
  rw [← toNat_totalMsat_of_lt (h p hp)]
  exact UInt64.lt_iff_toNat_lt.1 ((popGreaterThanMsat_none hpop).2 p hp)

/-- A payment only grows by an HTLC added. -/
theorem exists_push_le (hp : payment ∈ q.payments) :
    ∃ p ∈ (q.push htlc).payments, exactMsat payment.2 ≤ exactMsat p.2 := by
  by_cases hhash : payment.1 = htlc.paymentHash
  · refine ⟨_, mem_push_iff.2 (.inl rfl), ?_⟩
    have hlookup : q.htlcsOf htlc.paymentHash = payment.2 := by
      rw [htlcsOf, ← hhash, q.grouping.lookup?_of_mem hp, Option.getD_some]
    rw [hlookup, exactMsat_append]
    exact Nat.le_add_right ..
  · exact ⟨payment, mem_push_iff.2 (.inr ⟨hp, hhash⟩), le_rfl⟩

end PaymentQueue

/-- The sum of a payment that takes an HTLC is exact. -/
theorem PaymentQueue.Fits.toNat_totalMsat {q : PaymentQueue} {htlc : InterceptedHTLC}
    (h : q.Fits htlc) :
    (totalMsat (q.htlcsOf htlc.paymentHash ++ [htlc])).toNat =
      exactMsat (q.htlcsOf htlc.paymentHash ++ [htlc]) :=
  toNat_totalMsat_of_lt h

/-! ## The coupling -/

/-- What the payments queued in a state amount to, for a channel with the given
    payment size. -/
def OutboundJITChannelState.Coupled (size : Option UInt64) : OutboundJITChannelState → Prop
  | pendingInitialPayment q =>
    (∀ sz, size = some sz → ∀ p ∈ q.payments, exactMsat p.2 < sz.toNat) ∧
      (size = none → q.payments = [])
  | pendingChannelOpen q fee => ∃ p ∈ q.payments, fee.toNat < exactMsat p.2
  | pendingPaymentForward .. => True
  | pendingPayment q fee _ => ∀ p ∈ q.payments, exactMsat p.2 < fee.toNat
  | st@(paymentForwarded _) => st.queue.htlcs = []

/-- The payment of an HTLC given to the channel does not overflow. -/
def FitsHtlc (ch : OutboundJITChannel) (op : ChannelOp) : Prop :=
  ∀ htlc ∈ op.htlc?, ch.state.queue.Fits htlc

instance (ch : OutboundJITChannel) (op : ChannelOp) : Decidable (FitsHtlc ch op) :=
  match h : op.htlc? with
  | none => .isTrue fun _ hhtlc => by cases h ▸ hhtlc
  | some htlc => decidable_of_iff (ch.state.queue.Fits htlc) (by simp [FitsHtlc, h])

variable {params : OpeningFeeParams} {size : Option UInt64} {st st' : OutboundJITChannelState}
  {op : ChannelOp} {r : ChannelResult}

/-- Without overflow at the HTLC given, a transition makes no sum overflow. -/
theorem OutboundJITChannelState.Transition.noOverflow (h : Transition params size st op st' r)
    (hq : st.queue.NoOverflow) (hfits : ∀ htlc ∈ op.htlc?, st.queue.Fits htlc) :
    st'.queue.NoOverflow := by
  cases h with
  | reject | hold | openChannel | holdOpen | holdForward | holdPayment =>
    exact hq.push (hfits _ rfl)
  | ready hpop | next hpop => exact hq.pop hpop
  | forwardPayment hpop => exact (hq.push (hfits _ rfl)).pop hpop
  | paid => exact fun p hp => absurd hp List.not_mem_nil
  | notReady | wait | forwardHTLC | idle | refuse => exact hq

/-- A transition that refuses no HTLC keeps state and queue coupled. -/
theorem OutboundJITChannelState.Transition.coupled (h : Transition params size st op st' r)
    (hsize : ∀ sz, size = some sz → AcceptableSize params sz) (hst : st.Coupled size)
    (hok : op.htlc?.isSome = true → r.isOk = true) (hq : st.queue.NoOverflow)
    (hfits : ∀ htlc ∈ op.htlc?, st.queue.Fits htlc) : st'.Coupled size := by
  cases h with
  | reject => cases hok rfl
  | @hold q htlc sz fee hsz hfee hlt =>
    subst hsz
    refine ⟨fun _ h p hp => ?_, nofun⟩
    obtain rfl := Option.some.inj h
    rcases mem_push_iff.1 hp with rfl | ⟨hp, -⟩
    · -- The size is acceptable, so it exceeds the fee: the payment is incomplete.
      obtain ⟨fee', hfee', hlt'⟩ := (hsize sz rfl).fee_lt
      obtain rfl := Option.some.inj (hfee.symm.trans hfee')
      have hinc := UInt64.not_le.1 fun hle => hlt ⟨hle, hlt'⟩
      rwa [UInt64.lt_iff_toNat_lt, Fits.toNat_totalMsat (q := q) (hfits _ rfl)] at hinc
    · exact hst.1 sz rfl p hp
  | @openChannel q _ _ _ _ _ hlt hle =>
    -- The payment of the HTLC has the size expected, which exceeds the fee.
    refine ⟨_, mem_push_iff.2 (.inl rfl), ?_⟩
    have hcov := UInt64.lt_of_lt_of_le hlt hle
    rwa [UInt64.lt_iff_toNat_lt, Fits.toNat_totalMsat (q := q) (hfits _ rfl)] at hcov
  | holdOpen =>
    obtain ⟨p, hp, hlt⟩ := hst
    -- Payments only grow, so the one that exceeds the fee still does.
    obtain ⟨p', hp', hle⟩ := exists_push_le hp
    exact ⟨p', hp', hlt.trans_le hle⟩
  | ready | holdForward | next | forwardPayment => trivial
  | wait hpop => exact hq.lt_of_pop hpop
  | holdPayment hpop => exact (hq.push (hfits _ rfl)).lt_of_pop hpop
  | paid => rfl
  | notReady | forwardHTLC | idle | refuse => exact hst

/-! ## Coupled channels -/

/-- The payment size of the channel is acceptable under its parameters, as it is
    for one that was bought. -/
def OutboundJITChannel.Acceptable (ch : OutboundJITChannel) : Prop :=
  ∀ sz, ch.paymentSizeMsat = some sz → AcceptableSize ch.openingFeeParams sz

/-- A channel with an acceptable payment size whose state and queue are coupled. -/
structure OutboundJITChannel.Coupled (ch : OutboundJITChannel) : Prop where
  acceptable : ch.Acceptable
  noOverflow : ch.state.queue.NoOverflow
  coupled : ch.state.Coupled ch.paymentSizeMsat

namespace OutboundJITChannel

theorem Coupled.new {id : UserChannelId}
    (hsize : ∀ sz, size = some sz → AcceptableSize params sz) :
    (OutboundJITChannel.new size params id).Coupled where
  acceptable := hsize
  noOverflow _ hp := absurd hp List.not_mem_nil
  coupled := ⟨fun _ _ _ hp => absurd hp List.not_mem_nil, fun _ => rfl⟩

variable {ch : OutboundJITChannel}

theorem Acceptable.step (h : ch.Acceptable) (op : ChannelOp) : (ch.step op).1.Acceptable := by
  intro sz hsz
  rw [step_paymentSizeMsat] at hsz
  rw [step_openingFeeParams]
  exact h sz hsz

theorem Acceptable.exec (h : ch.Acceptable) (ops : List ChannelOp) :
    (machine.exec ch ops).Acceptable := by
  intro sz hsz
  rw [exec_paymentSizeMsat] at hsz
  rw [exec_openingFeeParams]
  exact h sz hsz

/-- With a fixed and acceptable payment size no HTLC is refused. -/
theorem Acceptable.acceptsHtlc (h : ch.Acceptable) (hsize : ch.paymentSizeMsat.isSome)
    (op : ChannelOp) : AcceptsHtlc ch op := by
  intro hop
  have hstep := transition_step ch op
  generalize ch.state = st, (ch.step op).1.state = st', (ch.step op).2 = r at hstep
  cases hstep with
  | reject hrej =>
    obtain ⟨sz, hsz⟩ := Option.isSome_iff_exists.1 hsize
    exact absurd (h sz hsz) (hrej sz hsz)
  | notReady => cases hop
  | refuse href => rw [href.htlc?_eq_none] at hop; cases hop
  | _ => rfl

theorem Acceptable.along_acceptsHtlc (h : ch.Acceptable) (hsize : ch.paymentSizeMsat.isSome)
    (ops : List ChannelOp) : machine.Along AcceptsHtlc ch ops :=
  Machine.along_iff_forall.2 fun pre op _ _ =>
    (h.exec pre).acceptsHtlc (by rwa [exec_paymentSizeMsat]) op

/-- An operation that refuses no HTLC keeps the channel coupled. -/
theorem Coupled.step {op : ChannelOp} (h : ch.Coupled) (hok : AcceptsHtlc ch op)
    (hfits : FitsHtlc ch op) : (ch.step op).1.Coupled where
  acceptable := h.acceptable.step op
  noOverflow := (transition_step ch op).noOverflow h.noOverflow hfits
  coupled := by
    rw [step_paymentSizeMsat]
    exact (transition_step ch op).coupled h.acceptable h.coupled hok h.noOverflow hfits

/-- No sum overflows in a run of a new channel without overflow at the HTLCs given. -/
theorem noOverflow_exec {id : UserChannelId} {ops : List ChannelOp}
    (hrun : machine.Along FitsHtlc (.new size params id) ops) :
    (machine.exec (.new size params id) ops).state.queue.NoOverflow :=
  hrun.invariant (P := fun ch : OutboundJITChannel => ch.state.queue.NoOverflow)
    (fun ch op hq hfits => (transition_step ch op).noOverflow hq hfits)
    fun _ hp => absurd hp List.not_mem_nil

/-- A run that refuses no HTLC keeps the channel coupled. -/
theorem Coupled.exec {ops : List ChannelOp} (h : ch.Coupled)
    (hrun : machine.Along (fun ch op => AcceptsHtlc ch op ∧ FitsHtlc ch op) ch ops) :
    (machine.exec ch ops).Coupled :=
  hrun.invariant (fun _ _ hc hq => hc.step hq.1 hq.2) h

/-- A coupled channel being opened gets ready. -/
theorem Coupled.isOk_channelReady (h : ch.Coupled) {q : PaymentQueue} {fee : UInt64}
    (hst : ch.state = pendingChannelOpen q fee) (c : ChannelId) :
    (ch.channelReady c).2.isOk = true := by
  obtain ⟨-, hq, hc⟩ := h
  obtain ⟨st, id, params, size⟩ := ch
  obtain rfl : st = pendingChannelOpen q fee := hst
  obtain ⟨p, hp, hlt⟩ := hc
  rcases hpop : q.popGreaterThanMsat fee with ⟨q', _ | payment⟩
  · -- Had none been taken out, no payment would exceed the fee.
    exact absurd (hq.lt_of_pop hpop p hp) hlt.not_gt
  · simp [channelReady, OutboundJITChannelState.channelReady, hpop, update, Except.isOk,
      Except.toBool]

end OutboundJITChannel

end LightningLiquidity
