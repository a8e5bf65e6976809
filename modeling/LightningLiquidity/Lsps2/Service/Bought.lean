import LightningLiquidity.Lsps2.Channel.FeePayments
import LightningLiquidity.Lsps2.Channel.Opening
import LightningLiquidity.Lsps2.Service.Runs

/-!
# Channels that were bought

What holds of the channels whose `buy` request the service accepted.

* `feePayment_oldest`: the fee is skimmed from the oldest queued payment that
  covers it, which need not be complete (`not_complete_feePayment`);
* `coupled_run`: state and queue stay coupled, so the channel gets ready;
* `bought_channel`: the checks made on the request and on the HTLCs agree.
-/

namespace LightningLiquidity

open OutboundJITChannelState OutboundJITChannel PaymentQueue LSPS2ServiceHandler

/-- The fee is skimmed from the oldest queued payment that covers it. If all that
    cover it are complete, so is this one, and it leaves the amount announced to
    be forwarded. -/
theorem feePayment_oldest (sz : UInt64) (params : OpeningFeeParams) (id : UserChannelId)
    (ops : List ChannelOp) (op : ChannelOp) (p : FeePayment)
    (hfits : machine.Along FitsHtlc (new (some sz) params id) (ops ++ [op]))
    (hp : ChannelEvent.feePayment? (op, ((machine.exec (new (some sz) params id) ops).step op).2) =
      some p) :
    let queued := ((machine.exec (new (some sz) params id) ops).state.queueWith op).payments
    (∃ l r hash, queued = l ++ (hash, p.htlcs) :: r ∧
        p.openingFeeMsat.toNat ≤ exactMsat p.htlcs ∧
        ∀ p' ∈ l, exactMsat p'.2 < p.openingFeeMsat.toNat) ∧
      ((∀ p' ∈ queued, p.openingFeeMsat.toNat ≤ exactMsat p'.2 → sz.toNat ≤ exactMsat p'.2) →
        sz.toNat ≤ exactMsat p.htlcs ∧
        ∀ e ∈ machine.trace (new (some sz) params id) ops, ∀ o, ChannelEvent.opens? e = some o →
          o.amtToForwardMsat.toNat ≤ exactMsat p.htlcs - p.openingFeeMsat.toNat) := by
  intro queued
  obtain ⟨hrun, hop, -⟩ := Machine.along_append.1 hfits
  have hno := noOverflow_queueWith (noOverflow_exec hrun) hop
  obtain ⟨hash, hpop⟩ := (transition_step _ op).feePayment hp
  have hle := hno.le_of_pop hpop
  obtain ⟨l, r, hq, -, -, hl⟩ := popGreaterThanMsat_some hpop
  replace hq : queued = l ++ (hash, p.htlcs) :: r := hq
  have hmem : (hash, p.htlcs) ∈ queued := hq ▸ List.mem_append_cons_self
  refine ⟨⟨l, r, hash, hq, hle, fun p' hp' => ?_⟩, fun hcomplete => ?_⟩
  · have hp'q : p' ∈ queued := hq ▸ List.mem_append_left _ hp'
    rw [← toNat_totalMsat_of_lt (hno p' hp'q)]
    exact UInt64.lt_iff_toNat_lt.1 (hl p' hp')
  · have hsz : sz.toNat ≤ exactMsat p.htlcs := hcomplete _ hmem hle
    refine ⟨hsz, fun e he o ho => ?_⟩
    have hsum := opens_eq he ho
    rw [← feePayment_fee_eq he ho hp] at hsum
    omega

/-- A complete payment the fee is skimmed from, with nothing else queued. -/
theorem feePayment_oldest_complete :
    (500 : UInt64).toNat ≤ exactMsat [⟨⟨0⟩, 500, ⟨0⟩⟩] :=
  ((feePayment_oldest 500 sampleParams 0 [.htlcIntercepted ⟨⟨0⟩, 500, ⟨0⟩⟩] (.channelReady ⟨7⟩)
    ⟨[⟨⟨0⟩, 500, ⟨0⟩⟩], 50⟩ (by decide) (by decide)).2 (by decide)).1

/-- A payment the fee is skimmed from need not be complete: one that covers the fee
    is queued before the one the channel is opened for. -/
theorem not_complete_feePayment :
    ¬∀ (env : Externals) (now : UInt64) (s : LSPS2ServiceHandler) (requestId : RequestId)
      (p : PublicKey) (req : BuyRequest) (sz : UInt64) (id : UserChannelId) (ops : List ChannelOp)
      (op : ChannelOp) (payment : FeePayment),
      (s.handleBuyRequest env now requestId p req).2.result = .ok →
      req.paymentSizeMsat = some sz →
      machine.Along FitsHtlc (.new req.paymentSizeMsat req.openingFeeParams id) (ops ++ [op]) →
      ChannelEvent.feePayment? (op, ((machine.exec (.new req.paymentSizeMsat req.openingFeeParams id)
        ops).step op).2) = some payment →
      sz.toNat ≤ exactMsat payment.htlcs := by
  intro h
  refine absurd (h sampleExternals 0 (.new []) ⟨"1"⟩ ⟨0⟩ ⟨sampleParams, some 500⟩ 500 0
    [.htlcIntercepted ⟨⟨0⟩, 60, ⟨0⟩⟩, .htlcIntercepted ⟨⟨1⟩, 500, ⟨1⟩⟩] (.channelReady ⟨7⟩)
    ⟨[⟨⟨0⟩, 60, ⟨0⟩⟩], 50⟩ ?_ rfl ?_ ?_) ?_
  all_goals decide

/-- A `buy` request accepted is for an acceptable payment size. -/
theorem acceptable_of_handleBuyRequest {env : Externals} {now : UInt64} {s : LSPS2ServiceHandler}
    {requestId : RequestId} {p : PublicKey} {req : BuyRequest}
    (h : (s.handleBuyRequest env now requestId p req).2.result = .ok) :
    ∀ sz, req.paymentSizeMsat = some sz → AcceptableSize req.openingFeeParams sz := by
  rcases handleBuyRequest_cases env now s requestId p req with ⟨hacc, -⟩ | ⟨-, -, hne⟩
  · exact hacc.size
  · exact absurd h hne

/-- **State and queue stay coupled.** In a run of a channel bought, without overflow
    and up to the first HTLC refused, what the queued payments amount to is coupled
    to the state; and a channel being opened gets ready. -/
theorem coupled_run (env : Externals) (now : UInt64) (s : LSPS2ServiceHandler)
    (requestId : RequestId) (p : PublicKey) (req : BuyRequest) (id : UserChannelId)
    (ops : List ChannelOp) (hbuy : (s.handleBuyRequest env now requestId p req).2.result = .ok)
    (hrun : machine.Along (fun ch op => AcceptsHtlc ch op ∧ FitsHtlc ch op)
      (.new req.paymentSizeMsat req.openingFeeParams id) ops) :
    let ch := machine.exec (.new req.paymentSizeMsat req.openingFeeParams id) ops
    ch.state.Coupled req.paymentSizeMsat ∧
      ∀ q fee c, ch.state = pendingChannelOpen q fee → (ch.channelReady c).2.isOk = true := by
  intro ch
  have hch : ch.Coupled :=
    (OutboundJITChannel.Coupled.new (acceptable_of_handleBuyRequest hbuy)).exec hrun
  refine ⟨?_, fun q fee c hst => hch.isOk_channelReady hst c⟩
  have hsize : ch.paymentSizeMsat = req.paymentSizeMsat := exec_paymentSizeMsat ..
  exact hsize ▸ hch.coupled

/-- A channel bought for a payment of fixed size, while it is being opened. -/
theorem coupled_run_opening :
    let ch := machine.exec (.new (some 500) sampleParams 0)
      [.htlcIntercepted ⟨⟨0⟩, 60, ⟨0⟩⟩, .htlcIntercepted ⟨⟨1⟩, 500, ⟨1⟩⟩]
    ch.state.Coupled (some 500) ∧
      ∀ q fee c, ch.state = pendingChannelOpen q fee → (ch.channelReady c).2.isOk = true :=
  coupled_run sampleExternals 0 (.new []) ⟨"1"⟩ ⟨0⟩ ⟨sampleParams, some 500⟩ 0
    [.htlcIntercepted ⟨⟨0⟩, 60, ⟨0⟩⟩, .htlcIntercepted ⟨⟨1⟩, 500, ⟨1⟩⟩] (by decide) (by decide)

/-! ## The run of a channel bought -/

/-- Right after it is created, a channel is stored. -/
theorem LSPS2ServiceHandler.channels_of_created {env : Externals} {s : LSPS2ServiceHandler}
    {i : ServiceInput} {k : PublicKey × Scid} {ch : OutboundJITChannel}
    (h : s.created i.call = some (k, ch)) : (s.step env i).1.channels k = some ch := by
  cases channelsStep_step env s i with
  | create heq _ hcreated =>
    obtain ⟨rfl, rfl⟩ := Prod.mk.inj (Option.some.inj (h.symm.trans hcreated))
    rw [heq, PartialMap.insert_self]
  | keep _ _ hcreated | operate _ _ _ hcreated | remove _ _ _ hcreated =>
    cases h.symm.trans hcreated

/-- **Checks on requests and on HTLCs agree.** Take a run of the service that creates
    a channel with a fixed payment size, goes on without replacing it, and makes
    the operations `ops` on it. The channel is then still stored, and what its own
    run made of it; its parameters carry the promise of the service; it refuses no
    HTLC; and if it was not opened yet, an HTLC opens it iff with it, the HTLCs
    given with its payment hash amount to at least the payment size. -/
theorem bought_channel (env : Externals) (secret : List UInt8) (is₁ is₂ : List ServiceInput)
    (i : ServiceInput) (k : PublicKey × Scid) (ch : OutboundJITChannel) (sz : UInt64)
    (hcreated : ((machine env).exec (.new secret) is₁).created i.call = some (k, ch))
    (hsize : ch.paymentSizeMsat = some sz)
    (hkeep : (machine env).Along (Keeps k) ((machine env).exec (.new secret) (is₁ ++ [i])) is₂) :
    let ops := opsOn env k ((machine env).exec (.new secret) (is₁ ++ [i])) is₂
    let ch' := OutboundJITChannel.machine.exec ch ops
    ((machine env).exec (.new secret) (is₁ ++ i :: is₂)).channels k = some ch' ∧
      PromiseVerified env secret ch'.openingFeeParams ∧
      (∀ htlc, (ch'.htlcIntercepted htlc).2.isOk = true) ∧
      ∀ htlc, OutboundJITChannel.machine.Along FitsHtlc ch (ops ++ [.htlcIntercepted htlc]) →
        (∀ e ∈ OutboundJITChannel.machine.trace ch ops, ChannelEvent.opens? e = none) →
        let e : ChannelEvent := (.htlcIntercepted htlc, (ch'.step (.htlcIntercepted htlc)).2)
        (e.opens?.isSome ↔ sz.toNat ≤ exactMsat
            ((ops.filterMap ChannelOp.htlc?).filter (·.paymentHash = htlc.paymentHash) ++ [htlc])) ∧
          ∀ o, e.opens? = some o →
            o.openingFeeMsat.toNat + o.amtToForwardMsat.toNat = sz.toNat ∧
              0 < o.amtToForwardMsat.toNat := by
  intro ops ch'
  have hsound : ((machine env).exec (.new secret) is₁).Sound env := Sound.exec secret is₁
  -- The request was checked when it came in, and a sound service keeps acceptable ones only.
  obtain ⟨requestId, ⟨params, size⟩, id, hreq, rfl⟩ := exists_of_created hcreated
  obtain rfl : size = some sz := hsize
  have hoffered := hsound.requests _ _ hreq
  rw [promiseSecret_exec] at hoffered
  have hacc : (OutboundJITChannel.new (some sz) params id).Acceptable :=
    hoffered.acceptable
  have hch : ((machine env).exec (.new secret) (is₁ ++ [i])).channels k =
      some (.new (some sz) params id) := by
    rw [Machine.exec_append]
    exact channels_of_created hcreated
  have hch' := channels_exec hch hkeep hacc rfl
  rw [← Machine.exec_append, List.append_assoc, List.singleton_append] at hch'
  have hsize' : ch'.paymentSizeMsat = some sz := exec_paymentSizeMsat ..
  refine ⟨hch', ?_, fun htlc => ?_, fun htlc hfits hno => ?_⟩
  · rw [exec_openingFeeParams]
    exact hoffered.promise
  · -- No HTLC is refused, as the channel is acceptable and has a payment size.
    have hok : ((ch'.htlcIntercepted htlc).2.map (Option.map ChannelAction.intercepted)).isOk =
        true :=
      (hacc.exec ops).acceptsHtlc (Option.isSome_of_eq_some hsize') (.htlcIntercepted htlc) rfl
    cases h : (ch'.htlcIntercepted htlc).2 with
    | error e => rw [h] at hok; cases hok
    | ok a => rfl
  · exact opens_iff (hoffered.acceptable sz rfl) hfits hno

/-- A channel bought that holds the first HTLC of a payment. -/
theorem bought_channel_mpp :
    ((machine sampleExternals).exec (.new []) [sampleBuy (some 500), sampleInvoice,
      (ServiceCall.htlcIntercepted 42 ⟨0⟩ 200 ⟨0⟩).sampleInput]).channels (⟨0⟩, 42) =
        some (OutboundJITChannel.machine.exec (.new (some 500) sampleParams 0)
          [.htlcIntercepted ⟨⟨0⟩, 200, ⟨0⟩⟩]) :=
  (bought_channel sampleExternals [] [sampleBuy (some 500)]
    [(ServiceCall.htlcIntercepted 42 ⟨0⟩ 200 ⟨0⟩).sampleInput] sampleInvoice (⟨0⟩, 42)
    (.new (some 500) sampleParams 0) 500 (by decide) rfl ⟨nofun, trivial⟩).1

end LightningLiquidity
