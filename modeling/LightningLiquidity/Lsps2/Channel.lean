import LightningLiquidity.Lib.Machine
import LightningLiquidity.Lsps2.PaymentQueue
import LightningLiquidity.Lsps2.Utils

/-!
# JIT channels on the side of the service

A requested JIT channel goes through five states (`OutboundJITChannelState`),
driven by four operations: an HTLC is intercepted, the channel is ready, an HTLC
failed, and a payment was forwarded. HTLCs are held in the payment queue of the
state until a payment can pay the opening fee; the actions given back say what
to open and what to forward.

The payment queue is shared between a state and the states made from it, and
changed in place. An operation on a state thus gives, besides its result, the
state it leaves behind, with the queue as it then is: this is what the channel
still holds after an error.

All operations on a channel together are the machine `OutboundJITChannel.machine`.
What one of them can do is said once, by `OutboundJITChannelState.Transition`,
from which all invariants are derived.
-/

namespace LightningLiquidity

open UInt64

/-- The initial payment size and the opening fee, as given in the `OpenChannel`
    event. -/
structure OpenChannelParams where
  openingFeeMsat : UInt64
  amtToForwardMsat : UInt64
  deriving DecidableEq, Repr

/-- A payment to be forwarded while skimming the opening fee. -/
structure FeePayment where
  htlcs : List InterceptedHTLC
  openingFeeMsat : UInt64
  deriving DecidableEq, Repr

/-- What may need to be done when an HTLC is intercepted. -/
inductive HTLCInterceptedAction
  | openChannel (params : OpenChannelParams)
  | forwardHTLC (channelId : ChannelId)
  | forwardPayment (channelId : ChannelId) (payment : FeePayment)
  deriving DecidableEq, Repr

/-- The forwarding of a payment while skimming the opening fee. -/
structure ForwardPaymentAction where
  channelId : ChannelId
  payment : FeePayment
  deriving DecidableEq, Repr

/-- The forwarding of HTLCs held so far, without skimming any further fees. -/
structure ForwardHTLCsAction where
  channelId : ChannelId
  htlcs : List InterceptedHTLC
  deriving DecidableEq, Repr

/-- The states of a requested JIT channel. -/
inductive OutboundJITChannelState
  /-- Awaiting an initial payment of sufficient size to open the channel. -/
  | pendingInitialPayment (paymentQueue : PaymentQueue)
  /-- The channel is being opened. -/
  | pendingChannelOpen (paymentQueue : PaymentQueue) (openingFeeMsat : UInt64)
  /-- The channel is open, and a payment was forwarded while skimming the fee. -/
  | pendingPaymentForward (paymentQueue : PaymentQueue) (openingFeeMsat : UInt64)
      (channelId : ChannelId)
  /-- The channel is open, no payment is being forwarded, and the fee still needs
      to be paid. -/
  | pendingPayment (paymentQueue : PaymentQueue) (openingFeeMsat : UInt64) (channelId : ChannelId)
  /-- The channel is open, and a payment that paid the fee was forwarded. -/
  | paymentForwarded (channelId : ChannelId)
  deriving DecidableEq

/-- Why a state refuses an operation. -/
inductive ChannelStateError
  /-- `Paying via multiple HTLCs is disallowed in "no-MPP+var-invoice" mode.` -/
  | multipleHtlcs
  /-- `Payment size violates our limits`, with the size and the limits. -/
  | paymentSizeViolatesLimits (expectedPaymentSizeMsat minPaymentSizeMsat maxPaymentSizeMsat : UInt64)
  /-- `Could not compute valid opening fee`, with what it is computed from. -/
  | noValidOpeningFee (minFeeMsat : UInt64) (proportional : UInt32) (expectedPaymentSizeMsat : UInt64)
  /-- `Intercepted HTLC is too small to pay opening fee` -/
  | htlcTooSmall
  /-- `No forwardable payment available when moving to channel ready.` -/
  | noForwardablePayment
  /-- `Channel ready received when JIT Channel was in state`, with the state. -/
  | channelReadyInState (state : OutboundJITChannelState)
  /-- `HTLC handling failed when JIT Channel was in state`, with the state. -/
  | htlcHandlingFailedInState (state : OutboundJITChannelState)
  /-- `Payment forwarded when JIT Channel was in state`, with the state. -/
  | paymentForwardedInState (state : OutboundJITChannelState)
  deriving DecidableEq

namespace OutboundJITChannelState

/-- The state of a newly requested channel. -/
def new : OutboundJITChannelState := pendingInitialPayment PaymentQueue.new

/-- An HTLC is intercepted. -/
def htlcIntercepted (self : OutboundJITChannelState) (openingFeeParams : OpeningFeeParams)
    (paymentSizeMsat : Option UInt64) (htlc : InterceptedHTLC) :
    OutboundJITChannelState ×
      Except ChannelStateError (OutboundJITChannelState × Option HTLCInterceptedAction) :=
  match self with
  | pendingInitialPayment paymentQueue =>
    let (paymentQueue, totalExpectedOutboundAmountMsat, numHtlcs) := paymentQueue.addHtlc htlc
    -- The HTLC stays in the queue, also when it is refused from here on.
    let self := pendingInitialPayment paymentQueue
    if paymentSizeMsat = none ∧ numHtlcs ≠ 1 then
      (self, .error .multipleHtlcs)
    else
      let (expectedPaymentSizeMsat, mppMode) := match paymentSizeMsat with
        | some paymentSizeMsat => (paymentSizeMsat, true)
        | none => (totalExpectedOutboundAmountMsat, false)
      if expectedPaymentSizeMsat < openingFeeParams.minPaymentSizeMsat ∨
          expectedPaymentSizeMsat > openingFeeParams.maxPaymentSizeMsat then
        (self, .error (.paymentSizeViolatesLimits expectedPaymentSizeMsat
          openingFeeParams.minPaymentSizeMsat openingFeeParams.maxPaymentSizeMsat))
      else match computeOpeningFee expectedPaymentSizeMsat openingFeeParams.minFeeMsat
          openingFeeParams.proportional.toUInt64 with
        | none => (self, .error (.noValidOpeningFee openingFeeParams.minFeeMsat
            openingFeeParams.proportional expectedPaymentSizeMsat))
        | some openingFeeMsat =>
          let amtToForwardMsat := saturatingSub expectedPaymentSizeMsat openingFeeMsat
          if totalExpectedOutboundAmountMsat ≥ expectedPaymentSizeMsat ∧ amtToForwardMsat > 0 then
            (self, .ok (pendingChannelOpen paymentQueue openingFeeMsat,
              some (.openChannel { openingFeeMsat, amtToForwardMsat })))
          else if mppMode then
            (self, .ok (pendingInitialPayment paymentQueue, none))
          else
            (self, .error .htlcTooSmall)
  | pendingChannelOpen paymentQueue openingFeeMsat =>
    let (paymentQueue, _) := paymentQueue.addHtlc htlc
    (pendingChannelOpen paymentQueue openingFeeMsat,
      .ok (pendingChannelOpen paymentQueue openingFeeMsat, none))
  | pendingPaymentForward paymentQueue openingFeeMsat channelId =>
    let (paymentQueue, _) := paymentQueue.addHtlc htlc
    (pendingPaymentForward paymentQueue openingFeeMsat channelId,
      .ok (pendingPaymentForward paymentQueue openingFeeMsat channelId, none))
  | pendingPayment paymentQueue openingFeeMsat channelId =>
    let (paymentQueue, _) := paymentQueue.addHtlc htlc
    match paymentQueue.popGreaterThanMsat openingFeeMsat with
    | (paymentQueue, some (_, htlcs)) =>
      (pendingPayment paymentQueue openingFeeMsat channelId,
        .ok (pendingPaymentForward paymentQueue openingFeeMsat channelId,
          some (.forwardPayment channelId { htlcs, openingFeeMsat })))
    | (paymentQueue, none) =>
      (pendingPayment paymentQueue openingFeeMsat channelId,
        .ok (pendingPayment paymentQueue openingFeeMsat channelId, none))
  | paymentForwarded channelId =>
    (paymentForwarded channelId,
      .ok (paymentForwarded channelId, some (.forwardHTLC channelId)))

/-- The channel is ready. -/
def channelReady (self : OutboundJITChannelState) (channelId : ChannelId) :
    OutboundJITChannelState ×
      Except ChannelStateError (OutboundJITChannelState × ForwardPaymentAction) :=
  match self with
  | pendingChannelOpen paymentQueue openingFeeMsat =>
    match paymentQueue.popGreaterThanMsat openingFeeMsat with
    | (paymentQueue, some (_, htlcs)) =>
      (pendingChannelOpen paymentQueue openingFeeMsat,
        .ok (pendingPaymentForward paymentQueue openingFeeMsat channelId,
          { channelId, payment := { htlcs, openingFeeMsat } }))
    | (paymentQueue, none) =>
      (pendingChannelOpen paymentQueue openingFeeMsat, .error .noForwardablePayment)
  | state => (state, .error (.channelReadyInState state))

/-- An HTLC failed to be handled. -/
def htlcHandlingFailed (self : OutboundJITChannelState) :
    OutboundJITChannelState ×
      Except ChannelStateError (OutboundJITChannelState × Option ForwardPaymentAction) :=
  match self with
  | pendingPaymentForward paymentQueue openingFeeMsat channelId =>
    match paymentQueue.popGreaterThanMsat openingFeeMsat with
    | (paymentQueue, some (_, htlcs)) =>
      (pendingPaymentForward paymentQueue openingFeeMsat channelId,
        .ok (pendingPaymentForward paymentQueue openingFeeMsat channelId,
          some { channelId, payment := { htlcs, openingFeeMsat } }))
    | (paymentQueue, none) =>
      (pendingPaymentForward paymentQueue openingFeeMsat channelId,
        .ok (pendingPayment paymentQueue openingFeeMsat channelId, none))
  | pendingPayment paymentQueue openingFeeMsat channelId =>
    (pendingPayment paymentQueue openingFeeMsat channelId,
      .ok (pendingPayment paymentQueue openingFeeMsat channelId, none))
  | paymentForwarded channelId =>
    (paymentForwarded channelId, .ok (paymentForwarded channelId, none))
  | state => (state, .error (.htlcHandlingFailedInState state))

/-- A payment was forwarded. The cleared queue is dropped with the old state. -/
def paymentForwardedOp (self : OutboundJITChannelState) :
    OutboundJITChannelState ×
      Except ChannelStateError (OutboundJITChannelState × Option ForwardHTLCsAction) :=
  match self with
  | pendingPaymentForward paymentQueue openingFeeMsat channelId =>
    let (paymentQueue, htlcs) := paymentQueue.clear
    (pendingPaymentForward paymentQueue openingFeeMsat channelId,
      .ok (paymentForwarded channelId, some { channelId, htlcs }))
  | paymentForwarded channelId =>
    (paymentForwarded channelId, .ok (paymentForwarded channelId, none))
  | state => (state, .error (.paymentForwardedInState state))

end OutboundJITChannelState

/-- A requested JIT channel. -/
structure OutboundJITChannel where
  state : OutboundJITChannelState
  userChannelId : UserChannelId
  openingFeeParams : OpeningFeeParams
  paymentSizeMsat : Option UInt64
  deriving DecidableEq

namespace OutboundJITChannel

/-- A newly requested channel. -/
def new (paymentSizeMsat : Option UInt64) (openingFeeParams : OpeningFeeParams)
    (userChannelId : UserChannelId) : OutboundJITChannel where
  userChannelId := userChannelId
  state := .new
  openingFeeParams := openingFeeParams
  paymentSizeMsat := paymentSizeMsat

/-- The channel after an operation on its state: in the new state, or in the
    state the operation left behind when it refused. -/
def update {α : Type*} (self : OutboundJITChannel)
    (r : OutboundJITChannelState × Except ChannelStateError (OutboundJITChannelState × α)) :
    OutboundJITChannel × Except ChannelStateError α :=
  match r with
  | (_, .ok (newState, action)) => ({ self with state := newState }, .ok action)
  | (state, .error e) => ({ self with state }, .error e)

/-- An HTLC is intercepted. -/
def htlcIntercepted (self : OutboundJITChannel) (htlc : InterceptedHTLC) :
    OutboundJITChannel × Except ChannelStateError (Option HTLCInterceptedAction) :=
  self.update (self.state.htlcIntercepted self.openingFeeParams self.paymentSizeMsat htlc)

/-- An HTLC failed to be handled. -/
def htlcHandlingFailed (self : OutboundJITChannel) :
    OutboundJITChannel × Except ChannelStateError (Option ForwardPaymentAction) :=
  self.update self.state.htlcHandlingFailed

/-- The channel is ready. -/
def channelReady (self : OutboundJITChannel) (channelId : ChannelId) :
    OutboundJITChannel × Except ChannelStateError ForwardPaymentAction :=
  self.update (self.state.channelReady channelId)

/-- A payment was forwarded. -/
def paymentForwarded (self : OutboundJITChannel) :
    OutboundJITChannel × Except ChannelStateError (Option ForwardHTLCsAction) :=
  self.update self.state.paymentForwardedOp

end OutboundJITChannel

/-! ## Channels as machines -/

/-- An operation on a JIT channel. -/
inductive ChannelOp
  | htlcIntercepted (htlc : InterceptedHTLC)
  | channelReady (channelId : ChannelId)
  | htlcHandlingFailed
  | paymentForwarded
  deriving DecidableEq, Repr

/-- What an operation on a JIT channel asks to be done. -/
inductive ChannelAction
  | intercepted (action : HTLCInterceptedAction)
  | forwardPayment (action : ForwardPaymentAction)
  | forwardHTLCs (action : ForwardHTLCsAction)
  deriving DecidableEq, Repr

/-- How an operation on a JIT channel ends. -/
abbrev ChannelResult := Except ChannelStateError (Option ChannelAction)

namespace OutboundJITChannel

/-- An operation on the channel. -/
def step (self : OutboundJITChannel) : ChannelOp → OutboundJITChannel × ChannelResult
  | .htlcIntercepted htlc => (self.htlcIntercepted htlc).map id fun r =>
      r.map (Option.map .intercepted)
  | .channelReady channelId => (self.channelReady channelId).map id fun r =>
      r.map fun a => some (.forwardPayment a)
  | .htlcHandlingFailed => self.htlcHandlingFailed.map id fun r =>
      r.map (Option.map .forwardPayment)
  | .paymentForwarded => self.paymentForwarded.map id fun r => r.map (Option.map .forwardHTLCs)

/-- The operations on a JIT channel. -/
def machine : Machine OutboundJITChannel ChannelOp ChannelResult := ⟨step⟩

end OutboundJITChannel

/-! ## What an operation can do -/

/-- The operation is none the state expects, and no interception. -/
def OutboundJITChannelState.Refuses : OutboundJITChannelState → ChannelOp → Prop
  | .pendingChannelOpen .., .channelReady _ => False
  | _, .channelReady _ => True
  | .pendingInitialPayment _, .htlcHandlingFailed | .pendingChannelOpen .., .htlcHandlingFailed => True
  | .pendingInitialPayment _, .paymentForwarded | .pendingChannelOpen .., .paymentForwarded
  | .pendingPayment .., .paymentForwarded => True
  | _, _ => False

open OutboundJITChannelState PaymentQueue in
/-- The transitions of a state, for a channel with the given parameters and
    payment size: the operation, the next state and the result. -/
inductive OutboundJITChannelState.Transition (params : OpeningFeeParams) (size : Option UInt64) :
    OutboundJITChannelState → ChannelOp → OutboundJITChannelState → ChannelResult → Prop
  /-- An HTLC is refused: never for an acceptable payment size. -/
  | reject {q : PaymentQueue} {htlc : InterceptedHTLC} {e : ChannelStateError}
      (hsize : ∀ sz, size = some sz → ¬AcceptableSize params sz) :
      Transition params size (pendingInitialPayment q) (.htlcIntercepted htlc)
        (pendingInitialPayment (q.push htlc)) (.error e)
  /-- An HTLC is held, its payment being incomplete (or no more than the fee). -/
  | hold {q : PaymentQueue} {htlc : InterceptedHTLC} {sz fee : UInt64} (hsize : size = some sz)
      (hfee : params.openingFee sz = some fee)
      (hlt : ¬(sz ≤ totalMsat (q.htlcsOf htlc.paymentHash ++ [htlc]) ∧ fee < sz)) :
      Transition params size (pendingInitialPayment q) (.htlcIntercepted htlc)
        (pendingInitialPayment (q.push htlc)) (.ok none)
  /-- An HTLC completes its payment, and a channel is to be opened for it. -/
  | openChannel {q : PaymentQueue} {htlc : InterceptedHTLC} {expected fee : UInt64}
      (hsize : size = some expected ∨
        (size = none ∧ q.htlcsOf htlc.paymentHash = [] ∧ expected = htlc.expectedOutboundAmountMsat))
      (hfee : params.openingFee expected = some fee) (hlt : fee < expected)
      (hle : expected ≤ totalMsat (q.htlcsOf htlc.paymentHash ++ [htlc])) :
      Transition params size (pendingInitialPayment q) (.htlcIntercepted htlc)
        (pendingChannelOpen (q.push htlc) fee)
        (.ok (some (.intercepted (.openChannel ⟨fee, saturatingSub expected fee⟩))))
  | holdOpen {q : PaymentQueue} {fee : UInt64} {htlc : InterceptedHTLC} :
      Transition params size (pendingChannelOpen q fee) (.htlcIntercepted htlc)
        (pendingChannelOpen (q.push htlc) fee) (.ok none)
  | ready {q q' : PaymentQueue} {fee : UInt64} {c : ChannelId}
      {payment : PaymentHash × List InterceptedHTLC}
      (hpop : q.popGreaterThanMsat fee = (q', some payment)) :
      Transition params size (pendingChannelOpen q fee) (.channelReady c)
        (pendingPaymentForward q' fee c) (.ok (some (.forwardPayment ⟨c, payment.2, fee⟩)))
  | notReady {q : PaymentQueue} {fee : UInt64} {c : ChannelId}
      (hpop : q.popGreaterThanMsat fee = (q, none)) :
      Transition params size (pendingChannelOpen q fee) (.channelReady c)
        (pendingChannelOpen q fee) (.error .noForwardablePayment)
  | holdForward {q : PaymentQueue} {fee : UInt64} {c : ChannelId} {htlc : InterceptedHTLC} :
      Transition params size (pendingPaymentForward q fee c) (.htlcIntercepted htlc)
        (pendingPaymentForward (q.push htlc) fee c) (.ok none)
  /-- An HTLC failed, and the next payment is forwarded. -/
  | next {q q' : PaymentQueue} {fee : UInt64} {c : ChannelId}
      {payment : PaymentHash × List InterceptedHTLC}
      (hpop : q.popGreaterThanMsat fee = (q', some payment)) :
      Transition params size (pendingPaymentForward q fee c) .htlcHandlingFailed
        (pendingPaymentForward q' fee c) (.ok (some (.forwardPayment ⟨c, payment.2, fee⟩)))
  /-- An HTLC failed, and no held payment can pay the fee. -/
  | wait {q : PaymentQueue} {fee : UInt64} {c : ChannelId}
      (hpop : q.popGreaterThanMsat fee = (q, none)) :
      Transition params size (pendingPaymentForward q fee c) .htlcHandlingFailed
        (pendingPayment q fee c) (.ok none)
  | paid {q : PaymentQueue} {fee : UInt64} {c : ChannelId} :
      Transition params size (pendingPaymentForward q fee c) .paymentForwarded
        (paymentForwarded c) (.ok (some (.forwardHTLCs ⟨c, q.htlcs⟩)))
  | forwardPayment {q q' : PaymentQueue} {fee : UInt64} {c : ChannelId} {htlc : InterceptedHTLC}
      {payment : PaymentHash × List InterceptedHTLC}
      (hpop : (q.push htlc).popGreaterThanMsat fee = (q', some payment)) :
      Transition params size (pendingPayment q fee c) (.htlcIntercepted htlc)
        (pendingPaymentForward q' fee c)
        (.ok (some (.intercepted (.forwardPayment c ⟨payment.2, fee⟩))))
  | holdPayment {q : PaymentQueue} {fee : UInt64} {c : ChannelId} {htlc : InterceptedHTLC}
      (hpop : (q.push htlc).popGreaterThanMsat fee = (q.push htlc, none)) :
      Transition params size (pendingPayment q fee c) (.htlcIntercepted htlc)
        (pendingPayment (q.push htlc) fee c) (.ok none)
  | forwardHTLC {c : ChannelId} {htlc : InterceptedHTLC} :
      Transition params size (paymentForwarded c) (.htlcIntercepted htlc)
        (paymentForwarded c) (.ok (some (.intercepted (.forwardHTLC c))))
  /-- Nothing is to be done. -/
  | idle {st : OutboundJITChannelState} {op : ChannelOp}
      (h : (∃ q fee c, st = pendingPayment q fee c ∧ op = .htlcHandlingFailed) ∨
        ∃ c, st = paymentForwarded c ∧ (op = .htlcHandlingFailed ∨ op = .paymentForwarded)) :
      Transition params size st op st (.ok none)
  | refuse {st : OutboundJITChannelState} {op : ChannelOp} {e : ChannelStateError}
      (h : st.Refuses op) : Transition params size st op st (.error e)

namespace OutboundJITChannel

open OutboundJITChannelState PaymentQueue

/-- An operation only changes the state of the channel. -/
theorem step_fst (ch : OutboundJITChannel) (op : ChannelOp) :
    (ch.step op).1 = { ch with state := (ch.step op).1.state } := by
  cases op <;>
    simp only [step, htlcIntercepted, channelReady, htlcHandlingFailed, paymentForwarded, update,
      Prod.map] <;> split <;> rfl

@[simp] theorem step_openingFeeParams (ch : OutboundJITChannel) (op : ChannelOp) :
    (ch.step op).1.openingFeeParams = ch.openingFeeParams := by rw [step_fst]

@[simp] theorem step_paymentSizeMsat (ch : OutboundJITChannel) (op : ChannelOp) :
    (ch.step op).1.paymentSizeMsat = ch.paymentSizeMsat := by rw [step_fst]

@[simp] theorem step_userChannelId (ch : OutboundJITChannel) (op : ChannelOp) :
    (ch.step op).1.userChannelId = ch.userChannelId := by rw [step_fst]

@[simp] theorem exec_openingFeeParams (ch : OutboundJITChannel) (ops : List ChannelOp) :
    (machine.exec ch ops).openingFeeParams = ch.openingFeeParams := by
  induction ops generalizing ch with
  | nil => rfl
  | cons op ops ih => rw [Machine.exec_cons, ih, machine, step_openingFeeParams]

@[simp] theorem exec_paymentSizeMsat (ch : OutboundJITChannel) (ops : List ChannelOp) :
    (machine.exec ch ops).paymentSizeMsat = ch.paymentSizeMsat := by
  induction ops generalizing ch with
  | nil => rfl
  | cons op ops ih => rw [Machine.exec_cons, ih, machine, step_paymentSizeMsat]

/-- Intercepting an HTLC in the initial state holds it, opens a channel for it,
    or refuses it. -/
theorem transition_initial (params : OpeningFeeParams) (size : Option UInt64) (q : PaymentQueue)
    (htlc : InterceptedHTLC) (id : UserChannelId) :
    Transition params size (pendingInitialPayment q) (.htlcIntercepted htlc)
      (step ⟨pendingInitialPayment q, id, params, size⟩ (.htlcIntercepted htlc)).1.state
      (step ⟨pendingInitialPayment q, id, params, size⟩ (.htlcIntercepted htlc)).2 := by
  simp only [step, htlcIntercepted, OutboundJITChannelState.htlcIntercepted, addHtlc_eq]
  cases size with
  | none =>
    -- Without a fixed size, that of the HTLC is expected, which has to be the only one.
    by_cases hnum : q.htlcsOf htlc.paymentHash = []
    · simp only [hnum, List.length_nil, List.nil_append, totalMsat_singleton]
      by_cases hlim : htlc.expectedOutboundAmountMsat < params.minPaymentSizeMsat ∨
          htlc.expectedOutboundAmountMsat > params.maxPaymentSizeMsat
      · simpa [hlim, update] using .reject (by simp)
      cases hfee : params.openingFee htlc.expectedOutboundAmountMsat with
      | none => simpa [hlim, hfee, update] using .reject (by simp)
      | some fee =>
        by_cases hlt : fee < htlc.expectedOutboundAmountMsat
        · have := saturatingSub_pos.2 hlt
          simpa [hlim, hfee, update, this] using
            .openChannel (.inr ⟨rfl, hnum, rfl⟩) hfee hlt (by simp [hnum])
        · have := mt saturatingSub_pos.1 hlt
          simpa [hlim, hfee, update, this] using .reject (by simp)
    · have hlen : (q.htlcsOf htlc.paymentHash).length + 1 ≠ 1 := by simpa using hnum
      simpa only [hlen, update, ne_eq, not_false_eq_true, and_self, if_true] using
        .reject (by simp)
  | some sz =>
    -- A fixed size that is refused at all is refused for every HTLC.
    by_cases hlim : sz < params.minPaymentSizeMsat ∨ sz > params.maxPaymentSizeMsat
    · simpa [hlim, update] using .reject fun sz' h hok =>
        hlim.elim (UInt64.not_lt.2 (Option.some.inj h ▸ hok.min_le))
          (UInt64.not_lt.2 (Option.some.inj h ▸ hok.le_max))
    cases hfee : params.openingFee sz with
    | none =>
      simpa [hlim, hfee, update] using .reject fun sz' h hok => by
        obtain ⟨fee, hfee', -⟩ := hok.fee_lt
        rw [← Option.some.inj h, hfee] at hfee'
        cases hfee'
    | some fee =>
      by_cases hopen : sz ≤ totalMsat (q.htlcsOf htlc.paymentHash ++ [htlc]) ∧ fee < sz
      · have := saturatingSub_pos.2 hopen.2
        simpa [hlim, hfee, update, this, hopen.1] using
          .openChannel (.inl rfl) hfee hopen.2 hopen.1
      · have : ¬(sz ≤ totalMsat (q.htlcsOf htlc.paymentHash ++ [htlc]) ∧
            0 < saturatingSub sz fee) := by rwa [saturatingSub_pos]
        simpa [hlim, hfee, update, this] using .hold rfl hfee hopen

/-- Every operation is a transition of the state. -/
theorem transition_step (ch : OutboundJITChannel) (op : ChannelOp) :
    Transition ch.openingFeeParams ch.paymentSizeMsat ch.state op
      (ch.step op).1.state (ch.step op).2 := by
  obtain ⟨st, id, params, size⟩ := ch
  cases op with
  | htlcIntercepted htlc =>
    cases st with
    | pendingInitialPayment q => exact transition_initial params size q htlc id
    | pendingChannelOpen q fee =>
      simpa [step, htlcIntercepted, OutboundJITChannelState.htlcIntercepted, addHtlc_eq, update]
        using .holdOpen
    | pendingPaymentForward q fee c =>
      simpa [step, htlcIntercepted, OutboundJITChannelState.htlcIntercepted, addHtlc_eq, update]
        using .holdForward
    | pendingPayment q fee c =>
      simp only [step, htlcIntercepted, OutboundJITChannelState.htlcIntercepted, addHtlc_eq]
      split
      · next hpop => exact .forwardPayment hpop
      · next hpop =>
        -- Nothing was taken out, so the queue is the one the HTLC was added to.
        obtain ⟨rfl, -⟩ := popGreaterThanMsat_none hpop
        exact .holdPayment hpop
    | paymentForwarded c => exact .forwardHTLC
  | channelReady c =>
    cases st with
    | pendingChannelOpen q fee =>
      simp only [step, channelReady, OutboundJITChannelState.channelReady]
      split
      · next hpop => exact .ready hpop
      · next hpop =>
        obtain ⟨rfl, -⟩ := popGreaterThanMsat_none hpop
        exact .notReady hpop
    | pendingInitialPayment | pendingPaymentForward | pendingPayment | paymentForwarded =>
      exact .refuse trivial
  | htlcHandlingFailed =>
    cases st with
    | pendingPaymentForward q fee c =>
      simp only [step, htlcHandlingFailed, OutboundJITChannelState.htlcHandlingFailed]
      split
      · next hpop => exact .next hpop
      · next hpop =>
        obtain ⟨rfl, -⟩ := popGreaterThanMsat_none hpop
        exact .wait hpop
    | pendingPayment q fee c => exact .idle (.inl ⟨q, fee, c, rfl, rfl⟩)
    | paymentForwarded c => exact .idle (.inr ⟨c, rfl, .inl rfl⟩)
    | pendingInitialPayment | pendingChannelOpen => exact .refuse trivial
  | paymentForwarded =>
    cases st with
    | pendingPaymentForward q fee c => exact .paid
    | paymentForwarded c => exact .idle (.inr ⟨c, rfl, .inr rfl⟩)
    | pendingInitialPayment | pendingChannelOpen | pendingPayment => exact .refuse trivial

end OutboundJITChannel

end LightningLiquidity
