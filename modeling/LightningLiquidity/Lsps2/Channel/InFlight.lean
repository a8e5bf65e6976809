import LightningLiquidity.Lsps2.Channel.Trace

/-!
# HTLCs in flight

A payment forwarded while skimming the fee is in flight until each of its HTLCs
has failed or was fulfilled. `flights` is a JIT channel in the surroundings that
resolve them so: a failed HTLC is one failure reported to the channel, a
fulfilled one is one payment reported to be forwarded, in any order.

The channel keeps no record of the HTLCs in flight: it forwards the next payment
at the first failure. Two payments are then in flight at once if other HTLCs of
the first one still are (`not_oneInFlight`). `oneInFlight_iff` says when
this does not happen: a payment must be forwarded only when nothing else is in
flight (`Quiet`).
-/

namespace LightningLiquidity

open OutboundJITChannelState PaymentQueue

/-! ## When the fee is charged -/

/-- A payment of at least the given amount is queued. -/
def PaymentQueue.Covers (q : PaymentQueue) (amount : UInt64) : Prop :=
  ∃ p ∈ q.payments, amount ≤ totalMsat p.2

instance (q : PaymentQueue) (amount : UInt64) : Decidable (q.Covers amount) :=
  inferInstanceAs (Decidable (∃ p ∈ q.payments, amount ≤ totalMsat p.2))

/-- A payment taken out covers the amount, and is not empty. -/
theorem PaymentQueue.covers_of_pop {q q' : PaymentQueue} {amount : UInt64}
    {payment : PaymentHash × List InterceptedHTLC}
    (h : q.popGreaterThanMsat amount = (q', some payment)) : q.Covers amount ∧ payment.2 ≠ [] := by
  obtain ⟨l, r, hq, -, hle, -⟩ := popGreaterThanMsat_some h
  have hmem : payment ∈ q.payments := hq ▸ List.mem_append_cons_self
  exact ⟨⟨payment, hmem, hle⟩, q.grouping.ne_nil payment hmem⟩

theorem PaymentQueue.not_covers_of_pop {q q' : PaymentQueue} {amount : UInt64}
    (h : q.popGreaterThanMsat amount = (q', none)) : ¬q.Covers amount := fun ⟨p, hp, hle⟩ =>
  UInt64.not_lt.2 hle ((popGreaterThanMsat_none h).2 p hp)

/-- In the given state, the operation has a payment forwarded while skimming the
    fee: one that covers it is queued. -/
def OutboundJITChannelState.Charges : OutboundJITChannelState → ChannelOp → Prop
  | pendingChannelOpen q fee, .channelReady _ => q.Covers fee
  | pendingPaymentForward q fee _, .htlcHandlingFailed => q.Covers fee
  | pendingPayment q fee _, .htlcIntercepted htlc => (q.push htlc).Covers fee
  | _, _ => False

/-- The fee is charged from the payments said by `Charges`, which are not empty. -/
theorem OutboundJITChannelState.Transition.charges {params : OpeningFeeParams}
    {size : Option UInt64} {st st' : OutboundJITChannelState} {op : ChannelOp} {r : ChannelResult}
    (h : Transition params size st op st' r) :
    (ChannelEvent.feePayment? (op, r) = none ∧ ¬st.Charges op) ∨
      ∃ p, ChannelEvent.feePayment? (op, r) = some p ∧ p.htlcs ≠ [] ∧ st.Charges op := by
  cases h with
  | reject | hold | openChannel | holdOpen | holdForward | paid | forwardHTLC =>
    exact .inl ⟨rfl, id⟩
  | notReady hpop | wait hpop | holdPayment hpop => exact .inl ⟨rfl, not_covers_of_pop hpop⟩
  | ready hpop | next hpop | forwardPayment hpop =>
    obtain ⟨hcov, hne⟩ := covers_of_pop hpop
    exact .inr ⟨_, rfl, hne, hcov⟩
  | idle h =>
    obtain ⟨q, fee, c, rfl, rfl⟩ | ⟨c, rfl, rfl | rfl⟩ := h
    all_goals exact .inl ⟨rfl, id⟩
  | refuse h =>
    refine .inl ⟨rfl, fun hc => ?_⟩
    cases op <;> cases st <;> first | exact h | exact hc

/-! ## Channels with HTLCs in flight -/

/-- A payment that paid the fee was forwarded. -/
def OutboundJITChannelState.Paid : OutboundJITChannelState → Prop
  | paymentForwarded _ => True
  | _ => False

instance : DecidablePred OutboundJITChannelState.Paid
  | paymentForwarded _ => .isTrue trivial
  | pendingInitialPayment _ | pendingChannelOpen .. | pendingPaymentForward ..
  | pendingPayment .. => .isFalse id

/-- A JIT channel, and the HTLCs in flight that were forwarded while skimming a
    fee, each with the number of the payment it was forwarded in. -/
structure FlightState where
  channel : OutboundJITChannel
  inFlight : List (ℕ × InterceptedHTLC)
  emitted : ℕ

/-- What happens to a channel: an HTLC in flight fails, which is reported as a
    failure, or is fulfilled, which is reported as a forwarded payment. -/
inductive FlightOp
  | htlcIntercepted (htlc : InterceptedHTLC)
  | channelReady (channelId : ChannelId)
  | failed (htlc : ℕ × InterceptedHTLC)
  | fulfilled (htlc : ℕ × InterceptedHTLC)

/-- The operation on the channel. -/
def FlightOp.channelOp : FlightOp → ChannelOp
  | htlcIntercepted htlc => .htlcIntercepted htlc
  | channelReady c => .channelReady c
  | failed _ => .htlcHandlingFailed
  | fulfilled _ => .paymentForwarded

/-- The HTLC resolved. -/
def FlightOp.resolved? : FlightOp → Option (ℕ × InterceptedHTLC)
  | htlcIntercepted _ | channelReady _ => none
  | failed x | fulfilled x => some x

namespace FlightState

/-- A new channel, with nothing in flight. -/
def new (size : Option UInt64) (params : OpeningFeeParams) (id : UserChannelId) : FlightState where
  channel := .new size params id
  inFlight := []
  emitted := 0

/-- What stays in flight when an HTLC is resolved. -/
def remaining (s : FlightState) (op : FlightOp) : List (ℕ × InterceptedHTLC) :=
  s.inFlight.diff op.resolved?.toList

/-- One step: the HTLC resolved is no longer in flight, and those of a payment
    forwarded are. -/
def step (s : FlightState) (op : FlightOp) : FlightState × ChannelResult :=
  let (channel, r) := s.channel.step op.channelOp
  match ChannelEvent.feePayment? (op.channelOp, r) with
  | none => ({ s with channel, inFlight := s.remaining op }, r)
  | some payment =>
    ({ channel
       inFlight := s.remaining op ++ payment.htlcs.map fun htlc => (s.emitted, htlc)
       emitted := s.emitted + 1 }, r)

/-- All HTLCs in flight were forwarded in one payment. -/
def OneInFlight (s : FlightState) : Prop := ∀ x ∈ s.inFlight, ∀ y ∈ s.inFlight, x.1 = y.1

instance (s : FlightState) : Decidable s.OneInFlight :=
  inferInstanceAs (Decidable (∀ x ∈ s.inFlight, ∀ y ∈ s.inFlight, x.1 = y.1))

/-- HTLCs are resolved that are in flight; and no payment was yet reported to be
    forwarded that paid the fee. -/
def Resolves (s : FlightState) (op : FlightOp) : Prop :=
  op.resolved?.toList ⊆ s.inFlight ∧ ¬s.channel.state.Paid

instance (s : FlightState) (op : FlightOp) : Decidable (s.Resolves op) :=
  inferInstanceAs (Decidable (_ ∧ _))

/-- If the fee is charged, nothing else is in flight. -/
def Quiet (s : FlightState) (op : FlightOp) : Prop :=
  s.channel.state.Charges op.channelOp → s.remaining op = []

end FlightState

/-- A JIT channel with its HTLCs in flight. -/
def flights : Machine FlightState FlightOp ChannelResult := ⟨FlightState.step⟩

namespace FlightState

variable {s : FlightState} {op : FlightOp}

/-- What a step does to the HTLCs in flight. -/
theorem step_cases (s : FlightState) (op : FlightOp) :
    (¬s.channel.state.Charges op.channelOp ∧ (s.step op).1.inFlight = s.remaining op ∧
      (s.step op).1.emitted = s.emitted) ∨
    (s.channel.state.Charges op.channelOp ∧ ∃ payment : FeePayment, payment.htlcs ≠ [] ∧
      (s.step op).1.inFlight =
        s.remaining op ++ payment.htlcs.map (fun htlc => (s.emitted, htlc)) ∧
      (s.step op).1.emitted = s.emitted + 1) := by
  rcases (OutboundJITChannel.transition_step s.channel op.channelOp).charges with
    ⟨hfee, hc⟩ | ⟨payment, hfee, hne, hc⟩
  · exact .inl ⟨hc, by simp only [step, hfee], by simp only [step, hfee]⟩
  · exact .inr ⟨hc, payment, hne, by simp only [step, hfee], by simp only [step, hfee]⟩

theorem remaining_subset (s : FlightState) (op : FlightOp) : s.remaining op ⊆ s.inFlight :=
  List.diff_subset ..

/-- The HTLCs in flight have the numbers of payments forwarded before. -/
def Numbered (s : FlightState) : Prop := ∀ x ∈ s.inFlight, x.1 < s.emitted

theorem Numbered.step (h : s.Numbered) (op : FlightOp) : (s.step op).1.Numbered := by
  intro x hx
  rcases s.step_cases op with ⟨-, hin, hem⟩ | ⟨-, payment, -, hin, hem⟩
  · rw [hin] at hx
    rw [hem]
    exact h x (s.remaining_subset op hx)
  · rw [hin, List.mem_append] at hx
    rw [hem]
    rcases hx with hx | hx
    · exact (h x (s.remaining_subset op hx)).trans (Nat.lt_succ_self _)
    · obtain ⟨htlc, -, rfl⟩ := List.mem_map.1 hx
      exact Nat.lt_succ_self _

/-- A quiet step keeps the HTLCs in flight to one payment. -/
theorem OneInFlight.step (h : s.OneInFlight) (hquiet : s.Quiet op) :
    (s.step op).1.OneInFlight := by
  intro x hx y hy
  rcases s.step_cases op with ⟨-, hin, -⟩ | ⟨hc, payment, -, hin, -⟩
  · rw [hin] at hx hy
    exact h x (s.remaining_subset op hx) y (s.remaining_subset op hy)
  · -- Only the payment just forwarded is in flight.
    rw [hin, hquiet hc, List.nil_append] at hx hy
    obtain ⟨-, -, rfl⟩ := List.mem_map.1 hx
    obtain ⟨-, -, rfl⟩ := List.mem_map.1 hy
    rfl

/-- A step that is not quiet puts a second payment in flight. -/
theorem OneInFlight.quiet (h : (s.step op).1.OneInFlight) (hnum : s.Numbered) : s.Quiet op := by
  intro hc
  rcases s.step_cases op with ⟨hc', -⟩ | ⟨-, payment, hne, hin, -⟩
  · exact absurd hc hc'
  · refine List.eq_nil_iff_forall_not_mem.2 fun x hx => ?_
    obtain ⟨htlc, htlcs, hhtlcs⟩ := List.exists_cons_of_ne_nil hne
    -- What remains in flight has an older number than the payment forwarded.
    have heq : x.1 = s.emitted := by
      refine h x ?_ (s.emitted, htlc) ?_ <;> rw [hin]
      · exact List.mem_append_left _ hx
      · exact List.mem_append_right _ (List.mem_map_of_mem (hhtlcs ▸ List.mem_cons_self))
    exact (hnum x (s.remaining_subset op hx)).ne heq

end FlightState

/-! ## Runs -/

open FlightState

/-- **One payment in flight.** In a run, all HTLCs in flight are of one payment in
    every state iff whenever the fee is charged, nothing else is in flight. -/
theorem oneInFlight_iff (size : Option UInt64) (params : OpeningFeeParams) (id : UserChannelId)
    (ops : List FlightOp) :
    (∀ pre, pre <+: ops → (flights.exec (.new size params id) pre).OneInFlight) ↔
      flights.Along Quiet (.new size params id) ops := by
  constructor
  · intro h
    -- A step that charges with something still in flight leaves two payments in flight.
    refine Machine.along_iff_forall.2 fun pre op post hops => ?_
    have hone := h (pre ++ [op]) ⟨post, by simp [hops]⟩
    rw [Machine.exec_append] at hone
    refine OneInFlight.quiet hone ?_
    refine (Machine.along_true _ pre).invariant (P := Numbered) (fun s op h _ => h.step op) ?_
    exact fun x hx => absurd hx List.not_mem_nil
  · rintro h pre ⟨post, rfl⟩
    refine (Machine.along_append.1 h).1.invariant (P := OneInFlight) (fun s op => OneInFlight.step) ?_
    exact fun x hx => absurd hx List.not_mem_nil

/-- The first of two HTLCs of a payment fails, and the next payment is forwarded
    while the second one is still in flight. -/
theorem not_oneInFlight :
    ¬∀ (size : Option UInt64) (params : OpeningFeeParams) (id : UserChannelId)
      (ops : List FlightOp), flights.Along Resolves (.new size params id) ops →
        (flights.exec (.new size params id) ops).OneInFlight := by
  intro h
  exact absurd (h (some 500) sampleParams 0 [.htlcIntercepted ⟨⟨0⟩, 200, ⟨0⟩⟩,
    .htlcIntercepted ⟨⟨1⟩, 300, ⟨0⟩⟩, .htlcIntercepted ⟨⟨2⟩, 600, ⟨1⟩⟩, .channelReady ⟨7⟩,
    .failed (0, ⟨⟨0⟩, 200, ⟨0⟩⟩)] (by decide)) (by decide)

end LightningLiquidity
