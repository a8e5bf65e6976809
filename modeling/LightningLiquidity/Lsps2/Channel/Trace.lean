import LightningLiquidity.Lsps2.Channel

/-!
# Traces of JIT channels

The words in which the properties of a JIT channel speak about its runs: an
entry of a trace (`ChannelEvent`) is an operation on the channel with its
result, and it may

* give the channel an HTLC (`ChannelOp.htlc?`), which it accepts
  (`ChannelEvent.accepted`) if it does not refuse it;
* ask to open the channel (`ChannelEvent.opens?`), to forward a payment while
  skimming the fee (`ChannelEvent.feePayment?`), or to forward HTLCs without
  skimming anything (`ChannelEvent.forwardsUnskimmed`);
* be the one that makes the channel ready (`ChannelEvent.ready?`), or reports a
  payment that paid the fee (`ChannelEvent.pays`).
-/

namespace LightningLiquidity

/-- The queue of a state. -/
def OutboundJITChannelState.queue : OutboundJITChannelState → PaymentQueue
  | pendingInitialPayment q | pendingChannelOpen q _ | pendingPaymentForward q _ _
  | pendingPayment q _ _ => q
  | paymentForwarded _ => .new

/-- The HTLCs a channel holds. -/
def OutboundJITChannel.held (ch : OutboundJITChannel) : List InterceptedHTLC := ch.state.queue.htlcs

/-- The HTLC an operation gives the channel. -/
def ChannelOp.htlc? : ChannelOp → Option InterceptedHTLC
  | .htlcIntercepted htlc => some htlc
  | _ => none

/-- No state refuses an interception for not expecting it. -/
theorem OutboundJITChannelState.Refuses.htlc?_eq_none {st : OutboundJITChannelState}
    {op : ChannelOp} (h : st.Refuses op) : op.htlc? = none := by
  cases op with
  | htlcIntercepted => cases st <;> cases h
  | channelReady | htlcHandlingFailed | paymentForwarded => rfl

/-- The channel ids an action forwards HTLCs over. -/
def ChannelAction.channelId? : ChannelAction → Option ChannelId
  | .intercepted (.openChannel _) => none
  | .intercepted (.forwardHTLC c) => some c
  | .intercepted (.forwardPayment c _) => some c
  | .forwardPayment a => some a.channelId
  | .forwardHTLCs a => some a.channelId

/-- The payment an action forwards while skimming the fee. -/
def ChannelAction.feePayment? : ChannelAction → Option FeePayment
  | .intercepted (.forwardPayment _ p) => some p
  | .forwardPayment a => some a.payment
  | _ => none

/-- An operation on a channel and its result. -/
abbrev ChannelEvent := ChannelOp × ChannelResult

/-- An operation is accepted, if it is an interception. -/
def AcceptsHtlc (ch : OutboundJITChannel) (op : ChannelOp) : Prop :=
  op.htlc?.isSome = true → (ch.step op).2.isOk = true

instance (ch : OutboundJITChannel) (op : ChannelOp) : Decidable (AcceptsHtlc ch op) :=
  inferInstanceAs (Decidable (_ → _))

namespace ChannelEvent

/-- The action asked for, if any. -/
def action? (e : ChannelEvent) : Option ChannelAction :=
  match e.2 with
  | .ok a => a
  | .error _ => none

/-- The HTLC accepted. -/
def accepted (e : ChannelEvent) : Option InterceptedHTLC := if e.2.isOk then e.1.htlc? else none

/-- The HTLCs carried by the action asked for: those of a payment, those held so
    far, or the one just intercepted. -/
def carried (e : ChannelEvent) : List InterceptedHTLC :=
  match e.action? with
  | some (.intercepted (.forwardHTLC _)) => e.1.htlc?.toList
  | some (.intercepted (.forwardPayment _ p)) => p.htlcs
  | some (.forwardPayment a) => a.payment.htlcs
  | some (.forwardHTLCs a) => a.htlcs
  | some (.intercepted (.openChannel _)) | none => []

/-- The channel to open. -/
def opens? (e : ChannelEvent) : Option OpenChannelParams :=
  match e.action? with
  | some (.intercepted (.openChannel p)) => some p
  | _ => none

/-- The payment to forward while skimming the fee. -/
def feePayment? (e : ChannelEvent) : Option FeePayment := e.action?.bind ChannelAction.feePayment?

/-- The channel HTLCs are to be forwarded over. -/
def forwards? (e : ChannelEvent) : Option ChannelId := e.action?.bind ChannelAction.channelId?

/-- HTLCs are to be forwarded without skimming a fee. -/
def forwardsUnskimmed (e : ChannelEvent) : Prop := e.forwards?.isSome ∧ e.feePayment? = none

/-- The channel id a channel gets ready with. -/
def ready? (e : ChannelEvent) : Option ChannelId :=
  match e.1 with
  | .channelReady c => if e.2.isOk then some c else none
  | _ => none

/-- A payment paid the fee, or was forwarded after that. -/
def pays (e : ChannelEvent) : Prop := e.1 = .paymentForwarded ∧ e.2.isOk = true

instance (e : ChannelEvent) : Decidable e.pays := inferInstanceAs (Decidable (_ ∧ _))

end ChannelEvent

/-- The opening fee parameters of the examples: a fee of 10% or at least 10 msat,
    for payments of up to 1000 msat. -/
def sampleParams : OpeningFeeParams where
  minFeeMsat := 10
  proportional := 100000
  validUntil := ⟨2000000000, 0⟩
  minLifetime := 144
  maxClientToSelfDelay := 128
  minPaymentSizeMsat := 1
  maxPaymentSizeMsat := 1000
  promise := ""

end LightningLiquidity
