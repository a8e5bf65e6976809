import LightningLiquidity.Lsps2.Channel.Trace

/-!
# The life cycle of a JIT channel

A JIT channel goes through four stages (`Stage`): it is requested, it is being
opened, the opening fee is being charged, and the fee has been charged. What may
happen in each is said by `Stage.Step`, of which the operations on a channel are
a refinement (`Transition.stage`).

What has happened up to a stage (`Past`) is kept by every step, and gives what
a next event may be (`LifeCycle`): there is one opening and one channel id, all
payments are charged the one fee until it is paid, and none after that
(`lifeCycle`).
-/

namespace LightningLiquidity

open OutboundJITChannelState UInt64

/-! ## Stages -/

/-- The stages in the life of a JIT channel. -/
inductive Stage
  | requested
  | opening (fee : UInt64)
  | charging (fee : UInt64) (channelId : ChannelId)
  | charged (fee : UInt64) (channelId : ChannelId)

namespace Stage

/-- The opening fee, once it is known. -/
def fee? : Stage → Option UInt64
  | requested => none
  | opening fee | charging fee _ | charged fee _ => some fee

/-- The channel id, once the channel is ready. -/
def channelId? : Stage → Option ChannelId
  | requested | opening _ => none
  | charging _ c | charged _ c => some c

/-- The fee has been charged. -/
def Charged : Stage → Prop
  | requested | opening _ | charging .. => False
  | charged .. => True

end Stage

/-- The size of the payment a channel is opened for: the size asked for, or else
    the amount of the HTLC intercepted. -/
def ChannelEvent.expectedSize (size : Option UInt64) (e : ChannelEvent) : Option UInt64 :=
  size.or (e.1.htlc?.map InterceptedHTLC.expectedOutboundAmountMsat)

/-- The steps from stage to stage, for a channel with the given parameters and
    payment size. -/
inductive Stage.Step (params : OpeningFeeParams) (size : Option UInt64) :
    Stage → ChannelEvent → Stage → Prop
  /-- Nothing is asked for. -/
  | silent {g : Stage} {e : ChannelEvent} (haction : e.action? = none) (hready : e.ready? = none)
      (hpays : e.pays → g.Charged) : Step params size g e g
  | opens {htlc : InterceptedHTLC} {expected fee amt : UInt64}
      (hsize : size.or (some htlc.expectedOutboundAmountMsat) = some expected)
      (hfee : params.openingFee expected = some fee) (hamt : fee.toNat + amt.toNat = expected.toNat) :
      Step params size requested
        (.htlcIntercepted htlc, .ok (some (.intercepted (.openChannel ⟨fee, amt⟩)))) (opening fee)
  | ready {fee : UInt64} {c : ChannelId} {htlcs : List InterceptedHTLC} :
      Step params size (opening fee) (.channelReady c, .ok (some (.forwardPayment ⟨c, htlcs, fee⟩)))
        (charging fee c)
  | next {fee : UInt64} {c : ChannelId} {htlcs : List InterceptedHTLC} :
      Step params size (charging fee c)
        (.htlcHandlingFailed, .ok (some (.forwardPayment ⟨c, htlcs, fee⟩))) (charging fee c)
  | forwardPayment {fee : UInt64} {c : ChannelId} {htlc : InterceptedHTLC}
      {htlcs : List InterceptedHTLC} :
      Step params size (charging fee c)
        (.htlcIntercepted htlc, .ok (some (.intercepted (.forwardPayment c ⟨htlcs, fee⟩))))
        (charging fee c)
  | pay {fee : UInt64} {c : ChannelId} {htlcs : List InterceptedHTLC} :
      Step params size (charging fee c)
        (.paymentForwarded, .ok (some (.forwardHTLCs ⟨c, htlcs⟩))) (charged fee c)
  | forwardHTLC {fee : UInt64} {c : ChannelId} {htlc : InterceptedHTLC} :
      Step params size (charged fee c)
        (.htlcIntercepted htlc, .ok (some (.intercepted (.forwardHTLC c)))) (charged fee c)

/-- The stage a state is at. The fee is no longer known once it is charged. -/
def OutboundJITChannelState.AtStage : OutboundJITChannelState → Stage → Prop
  | pendingInitialPayment _, g => g = .requested
  | pendingChannelOpen _ fee, g => g = .opening fee
  | pendingPaymentForward _ fee c, g | pendingPayment _ fee c, g => g = .charging fee c
  | paymentForwarded c, g => ∃ fee, g = .charged fee c

/-- The transitions of a state refine the steps from stage to stage. -/
theorem OutboundJITChannelState.Transition.stage {params : OpeningFeeParams}
    {size : Option UInt64} {st st' : OutboundJITChannelState} {op : ChannelOp} {r : ChannelResult}
    (h : Transition params size st op st' r) {g : Stage} (hg : st.AtStage g) :
    ∃ g', g.Step params size (op, r) g' ∧ st'.AtStage g' := by
  cases h with
  | reject | hold | holdOpen | holdForward | notReady | wait | holdPayment =>
    obtain rfl := hg
    exact ⟨_, .silent rfl rfl fun h => (nomatch h.1), rfl⟩
  | openChannel hsize hfee hlt =>
    obtain rfl := hg
    refine ⟨_, .opens ?_ hfee ?_, rfl⟩
    · obtain rfl | ⟨rfl, -, rfl⟩ := hsize <;> rfl
    · -- The size exceeds the fee, so nothing is cut off at zero.
      rw [toNat_saturatingSub, Nat.add_sub_cancel' (UInt64.lt_iff_toNat_lt.1 hlt).le]
  | ready =>
    obtain rfl := hg
    exact ⟨_, .ready, rfl⟩
  | next =>
    obtain rfl := hg
    exact ⟨_, .next, rfl⟩
  | paid =>
    obtain rfl := hg
    exact ⟨_, .pay, _, rfl⟩
  | forwardPayment =>
    obtain rfl := hg
    exact ⟨_, .forwardPayment, rfl⟩
  | forwardHTLC =>
    obtain ⟨fee, rfl⟩ := hg
    exact ⟨_, .forwardHTLC, fee, rfl⟩
  | idle h =>
    obtain ⟨q, fee, c, rfl, rfl⟩ | ⟨c, rfl, h⟩ := h
    · exact ⟨_, .silent rfl rfl fun h => (nomatch h.1), hg⟩
    · obtain ⟨fee, rfl⟩ := hg
      refine ⟨_, .silent rfl ?_ fun _ => trivial, fee, rfl⟩
      rcases h with rfl | rfl <;> rfl
  | refuse =>
    refine ⟨g, .silent rfl ?_ fun h => Bool.noConfusion h.2, hg⟩
    cases op <;> rfl

/-! ## The past of a stage -/

/-- What has happened up to a stage. -/
structure Past (g : Stage) (tr : List ChannelEvent) : Prop where
  fee_iff : ∀ fee, g.fee? = some fee ↔ ∃ e ∈ tr, ∃ o, e.opens? = some o ∧ o.openingFeeMsat = fee
  ready_iff : ∀ c, g.channelId? = some c ↔ ∃ e ∈ tr, e.ready? = some c
  charged_iff : g.Charged ↔ ∃ e ∈ tr, e.pays
  channelId_eq : ∀ e ∈ tr, ∀ c, e.forwards? = some c → g.channelId? = some c

theorem Past.nil : Past .requested [] where
  fee_iff := by simp [Stage.fee?]
  ready_iff := by simp [Stage.channelId?]
  charged_iff := by simp [Stage.Charged]
  channelId_eq := by simp

variable {params : OpeningFeeParams} {size : Option UInt64} {g g' : Stage} {e : ChannelEvent}
  {pre : List ChannelEvent}

/-- An event is added to the past if the next stage takes over what it does. -/
theorem Past.concat (hpre : Past g pre)
    (hfee : ∀ fee, g'.fee? = some fee ↔
      g.fee? = some fee ∨ ∃ o, e.opens? = some o ∧ o.openingFeeMsat = fee)
    (hready : ∀ c, g'.channelId? = some c ↔ g.channelId? = some c ∨ e.ready? = some c)
    (hcharged : g'.Charged ↔ g.Charged ∨ e.pays)
    (hchannel : ∀ c, e.forwards? = some c → g'.channelId? = some c) : Past g' (pre ++ [e]) where
  fee_iff fee := by rw [hfee, hpre.fee_iff]; simp [or_and_right, exists_or]
  ready_iff c := by rw [hready, hpre.ready_iff]; simp [or_and_right, exists_or]
  charged_iff := by rw [hcharged, hpre.charged_iff]; simp [or_and_right, exists_or]
  channelId_eq e' he' c hc := by
    rcases List.mem_append.1 he' with he' | he'
    · exact (hready c).2 (.inl (hpre.channelId_eq e' he' c hc))
    · exact hchannel c (List.mem_singleton.1 he' ▸ hc)

/-- A step adds its event to the past. -/
theorem Stage.Step.past (h : g.Step params size e g') (hpre : Past g pre) :
    Past g' (pre ++ [e]) := by
  cases h with
  | silent haction hready hpays =>
    -- Nothing new happens: at most, a payment is reported once more.
    refine hpre.concat (fun fee => ?_) (fun c => ?_) ?_ fun c hc => ?_
    · simp [ChannelEvent.opens?, haction]
    · simp [hready]
    · exact (or_iff_left_of_imp hpays).symm
    · simp [ChannelEvent.forwards?, haction] at hc
  | opens | ready | next | forwardPayment | pay | forwardHTLC =>
    refine hpre.concat (fun fee => ?_) (fun c => ?_) ?_ fun c hc => ?_
    all_goals simp_all [Stage.fee?, Stage.channelId?, Stage.Charged, ChannelEvent.opens?,
      ChannelEvent.ready?, ChannelEvent.pays, ChannelEvent.forwards?, ChannelEvent.action?,
      ChannelAction.channelId?, Except.isOk, Except.toBool]

/-- What an event may be, after those in `pre`. -/
structure LifeCycle (params : OpeningFeeParams) (size : Option UInt64) (pre : List ChannelEvent)
    (e : ChannelEvent) : Prop where
  /-- A channel is opened once, and before anything is forwarded. -/
  opens_once : e.opens?.isSome → ∀ e' ∈ pre, e'.opens? = none ∧ e'.forwards? = none
  opens_before_forwards : e.forwards?.isSome → ∃ e' ∈ pre, e'.opens?.isSome
  /-- The fee is that of the expected payment size, and leaves the rest of it to be
      forwarded. -/
  openingFee : ∀ o, e.opens? = some o → ∃ expected, e.expectedSize size = some expected ∧
    params.openingFee expected = some o.openingFeeMsat ∧
    o.openingFeeMsat.toNat + o.amtToForwardMsat.toNat = expected.toNat
  /-- A channel gets ready once, after it is opened. -/
  ready_once : e.ready?.isSome → (∀ e' ∈ pre, e'.ready? = none) ∧ ∃ e' ∈ pre, e'.opens?.isSome
  /-- What is asked for when the channel is ready, and later, carries the channel
      id it got ready with. -/
  channelId_eq : ∀ e' ∈ pre ++ [e], ∀ c, e'.ready? = some c →
    ∀ a, e.action? = some a → a.channelId? = some c
  /-- Nothing is forwarded before the channel is ready. -/
  ready_of_forwards : e.forwards?.isSome → ∃ e' ∈ pre ++ [e], e'.ready?.isSome
  /-- The fee skimmed is that of the opening. -/
  fee_eq : ∀ p, e.feePayment? = some p →
    ∃ e' ∈ pre, ∃ o, e'.opens? = some o ∧ p.openingFeeMsat = o.openingFeeMsat
  /-- The fee is skimmed until it is paid, and not after that. -/
  pays_of_forwardsUnskimmed : e.forwardsUnskimmed → ∃ e' ∈ pre ++ [e], e'.pays
  not_pays_of_feePayment : e.feePayment?.isSome → ∀ e' ∈ pre, ¬e'.pays

/-- Before the opening, nothing is opened or forwarded. -/
theorem Past.requested (hpre : Past .requested pre) :
    ∀ e' ∈ pre, e'.opens? = none ∧ e'.forwards? = none := by
  intro e' he'
  constructor
  · refine Option.eq_none_iff_forall_ne_some.2 fun o ho => ?_
    cases (hpre.fee_iff o.openingFeeMsat).2 ⟨e', he', o, ho, rfl⟩
  · exact Option.eq_none_iff_forall_ne_some.2 fun c hc => nomatch hpre.channelId_eq e' he' c hc

/-- Once the fee is known, a channel has been opened for it. -/
theorem Past.exists_opens (hpre : Past g pre) {fee : UInt64} (hfee : g.fee? = some fee) :
    ∃ e' ∈ pre, ∃ o, e'.opens? = some o ∧ fee = o.openingFeeMsat := by
  obtain ⟨e', he', o, ho, rfl⟩ := (hpre.fee_iff fee).1 hfee
  exact ⟨e', he', o, ho, rfl⟩

/-- Until the channel id is known, the channel is not ready. -/
theorem Past.not_ready (hpre : Past g pre) (hg : g.channelId? = none) :
    ∀ e' ∈ pre, e'.ready? = none := fun e' he' =>
  Option.eq_none_iff_forall_ne_some.2 fun c hc => by
    cases hg.symm.trans ((hpre.ready_iff c).2 ⟨e', he', hc⟩)

/-- A step that asks to forward comes after the opening. -/
theorem Stage.Step.fee_of_forwards (h : g.Step params size e g') (he : e.forwards?.isSome) :
    ∃ fee, g.fee? = some fee := by
  cases h with
  | silent haction => simp [ChannelEvent.forwards?, haction] at he
  | opens => cases he
  | ready | next | forwardPayment | pay | forwardHTLC => exact ⟨_, rfl⟩

/-- A step that skims the fee skims that of its stage, in which it is not charged. -/
theorem Stage.Step.of_feePayment (h : g.Step params size e g') {p : FeePayment}
    (hp : e.feePayment? = some p) : g.fee? = some p.openingFeeMsat ∧ ¬g.Charged := by
  cases h with
  | silent haction => simp [ChannelEvent.feePayment?, haction] at hp
  | opens | pay | forwardHTLC => cases hp
  | ready | next | forwardPayment =>
    obtain rfl := Option.some.inj hp
    exact ⟨rfl, not_false⟩

/-- A step is as the life cycle has it after the past. -/
theorem Stage.Step.follows (h : g.Step params size e g') (hpre : Past g pre) :
    LifeCycle params size pre e where
  opens_once he := by
    cases h with
    | silent haction => simp [ChannelEvent.opens?, haction] at he
    | opens => exact hpre.requested
    | ready | next | forwardPayment | pay | forwardHTLC => cases he
  opens_before_forwards he := by
    obtain ⟨fee, hfee⟩ := h.fee_of_forwards he
    obtain ⟨e', he', o, ho, -⟩ := hpre.exists_opens hfee
    exact ⟨e', he', Option.isSome_of_eq_some ho⟩
  openingFee o ho := by
    cases h with
    | silent haction => simp [ChannelEvent.opens?, haction] at ho
    | opens hsize hfee hamt =>
      obtain rfl := Option.some.inj ho
      exact ⟨_, hsize, hfee, hamt⟩
    | ready | next | forwardPayment | pay | forwardHTLC => cases ho
  ready_once he := by
    cases h with
    | silent _ hready => simp [hready] at he
    | ready =>
      obtain ⟨e', he', o, ho, -⟩ := hpre.exists_opens rfl
      exact ⟨hpre.not_ready rfl, e', he', Option.isSome_of_eq_some ho⟩
    | opens | next | forwardPayment | pay | forwardHTLC => cases he
  channelId_eq e' he' c hc a ha := by
    -- The stage after the step knows the id, also if the step is what gets the channel ready.
    have hg' := ((h.past hpre).ready_iff c).2 ⟨e', he', hc⟩
    cases h with
    | silent haction => simp [haction] at ha
    | opens => cases hg'
    | ready | next | forwardPayment | pay | forwardHTLC =>
      obtain rfl := Option.some.inj ha
      exact hg'
  ready_of_forwards he := by
    obtain ⟨c, hc⟩ := Option.isSome_iff_exists.1 he
    have hg' := (h.past hpre).channelId_eq e (by simp) c hc
    obtain ⟨e', he', hr⟩ := ((h.past hpre).ready_iff c).1 hg'
    exact ⟨e', he', Option.isSome_of_eq_some hr⟩
  fee_eq p hp := hpre.exists_opens (h.of_feePayment hp).1
  pays_of_forwardsUnskimmed he := by
    refine (h.past hpre).charged_iff.1 ?_
    cases h with
    | silent haction => simp [ChannelEvent.forwardsUnskimmed, ChannelEvent.forwards?, haction] at he
    | opens => cases he.1
    | ready | next | forwardPayment => cases he.2
    | pay | forwardHTLC => trivial
  not_pays_of_feePayment he e' he' hpays := by
    obtain ⟨p, hp⟩ := Option.isSome_iff_exists.1 he
    exact (h.of_feePayment hp).2 (hpre.charged_iff.2 ⟨e', he', hpays⟩)

/-! ## Runs -/

open OutboundJITChannel

/-- An operation steps from stage to stage. -/
theorem OutboundJITChannel.stage_step (ch : OutboundJITChannel) (op : ChannelOp) {g : Stage}
    (hg : ch.state.AtStage g) :
    ∃ g', g.Step ch.openingFeeParams ch.paymentSizeMsat (op, (ch.step op).2) g' ∧
      (ch.step op).1.state.AtStage g' :=
  (transition_step ch op).stage hg

/-- A run of a new channel leads to a stage whose past is the trace. -/
theorem exists_past (size : Option UInt64) (params : OpeningFeeParams) (id : UserChannelId)
    (ops : List ChannelOp) :
    ∃ g, (machine.exec (new size params id) ops).state.AtStage g ∧
      Past g (machine.trace (new size params id) ops) := by
  refine (Machine.along_true _ ops).invariant_trace (P := fun tr (ch : OutboundJITChannel) =>
    ∃ g, ch.state.AtStage g ∧ Past g tr) (fun tr ch op ih _ => ?_) ⟨_, rfl, Past.nil⟩
  obtain ⟨g, hg, hpast⟩ := ih
  obtain ⟨g', hstep, hg'⟩ := ch.stage_step op hg
  exact ⟨g', hg', hstep.past hpast⟩

/-- An event of a trace is a step, from a stage whose past is what comes before. -/
theorem exists_step {size : Option UInt64} {params : OpeningFeeParams} {id : UserChannelId}
    {ops : List ChannelOp} {pre post : List ChannelEvent} {e : ChannelEvent}
    (htr : machine.trace (new size params id) ops = pre ++ e :: post) :
    ∃ g g', Past g pre ∧ g.Step params size e g' := by
  obtain ⟨ops₁, ops₂, -, rfl, he⟩ := Machine.trace_eq_append_cons htr
  obtain ⟨g, hg, hpast⟩ := exists_past size params id ops₁
  obtain ⟨g', hstep, -⟩ := stage_step _ e.1 hg
  rw [exec_openingFeeParams, exec_paymentSizeMsat] at hstep
  have heq : (e.1, e.2) = e := rfl
  refine ⟨g, g', hpast, ?_⟩
  rwa [← heq, ← he]

/-- **The life cycle of a JIT channel.** Whatever the operations on a new channel
    are, and also when they fail, each event of its trace is as the life cycle has
    it after those before. -/
theorem lifeCycle (size : Option UInt64) (params : OpeningFeeParams) (id : UserChannelId)
    (ops : List ChannelOp) (pre post : List ChannelEvent) (e : ChannelEvent)
    (htr : machine.trace (new size params id) ops = pre ++ e :: post) :
    LifeCycle params size pre e := by
  obtain ⟨g, g', hpast, hstep⟩ := exists_step htr
  exact hstep.follows hpast

/-- A payment is forwarded in the place of one that failed, at the same fee. -/
theorem lifeCycle_next :
    LifeCycle sampleParams (some 500)
      [(.htlcIntercepted ⟨⟨0⟩, 500, ⟨0⟩⟩, .ok (some (.intercepted (.openChannel ⟨50, 450⟩)))),
        (.htlcIntercepted ⟨⟨1⟩, 600, ⟨1⟩⟩, .ok none),
        (.channelReady ⟨7⟩, .ok (some (.forwardPayment ⟨⟨7⟩, [⟨⟨0⟩, 500, ⟨0⟩⟩], 50⟩)))]
      (.htlcHandlingFailed, .ok (some (.forwardPayment ⟨⟨7⟩, [⟨⟨1⟩, 600, ⟨1⟩⟩], 50⟩))) :=
  lifeCycle (some 500) sampleParams 0
    [.htlcIntercepted ⟨⟨0⟩, 500, ⟨0⟩⟩, .htlcIntercepted ⟨⟨1⟩, 600, ⟨1⟩⟩, .channelReady ⟨7⟩,
      .htlcHandlingFailed, .paymentForwarded] _ _ _ rfl

end LightningLiquidity
