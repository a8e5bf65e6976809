import LightningLiquidity.Lsps2.Service.Accounted
import LightningLiquidity.Manager.Honoured

/-!
# The fee charged is the one selected

What the manager of a service forwards to the other one are HTLCs its user has handed it, as
intercepted on the short channel id that was sold. Of these HTLCs it takes no more than the
opening fee of the offer the user of the other one has selected, for the payment size that
user named if it named one (`charged_as_selected`).

The fee a channel is opened for is that of the parameters it is sold with (`Stage.Priced`); that
these were selected is what two managers agree on (`Agree`). The HTLCs a channel holds go back to
the calls that handed them over (`intercepted_of_holds`).
-/

namespace LightningLiquidity

open OutboundJITChannelState LiquidityManager

/-! ## The fee of a channel -/

/-- The fee, once it is known, is that of a payment: of the size asked for, if there is one. -/
def Stage.Priced (params : OpeningFeeParams) (size : Option UInt64) (g : Stage) : Prop :=
  ∀ fee, g.fee? = some fee → ∃ expected, (∀ sz, size = some sz → expected = sz) ∧
    params.openingFee expected = some fee

/-- The stages of a priced channel are priced. -/
theorem Stage.Step.priced {params : OpeningFeeParams} {size : Option UInt64} {g g' : Stage}
    {e : ChannelEvent} (h : g.Step params size e g') (hg : g.Priced params size) :
    g'.Priced params size := by
  cases h with
  | silent | ready | next | forwardPayment | pay | forwardHTLC => exact hg
  | @opens htlc expected fee amt hsize hfee hamt =>
    rintro _ ⟨⟩
    refine ⟨expected, ?_, hfee⟩
    rintro sz rfl
    exact (Option.some.inj hsize).symm

/-- A channel is at a stage that is priced as it was sold. -/
def OutboundJITChannel.Priced (ch : OutboundJITChannel) : Prop :=
  ∃ g, ch.state.AtStage g ∧ g.Priced ch.openingFeeParams ch.paymentSizeMsat

theorem OutboundJITChannel.Priced.new (size : Option UInt64) (params : OpeningFeeParams)
    (id : UserChannelId) : (OutboundJITChannel.new size params id).Priced :=
  ⟨.requested, rfl, by rintro _ ⟨⟩⟩

theorem OutboundJITChannel.Priced.step {ch : OutboundJITChannel} (h : ch.Priced) (op : ChannelOp) :
    (ch.step op).1.Priced := by
  obtain ⟨g, hat, hg⟩ := h
  obtain ⟨g', hstep, hat'⟩ := ch.stage_step op hat
  refine ⟨g', hat', ?_⟩
  rw [step_openingFeeParams, step_paymentSizeMsat]
  exact hstep.priced hg

namespace LSPS2ServiceHandler

variable {env : Externals} {s : LSPS2ServiceHandler}

/-- The channels of a service are priced, whatever it is called for. -/
theorem priced_of_reaches {secret : List UInt8}
    (h : (machine env).Reaches (fun _ => True) (.new secret) s) :
    ∀ k ch, s.channels k = some ch → ch.Priced := by
  refine h.invariant (P := fun s => ∀ k ch, s.channels k = some ch → ch.Priced)
    (fun s i hs _ => ?_) (by rintro _ _ ⟨⟩)
  show ∀ k ch, (s.step env i).1.channels k = some ch → ch.Priced
  cases channelsStep_step env s i with
  | keep hchannels => rwa [hchannels]
  | remove hchannels =>
    rw [hchannels]
    exact PartialMap.forall_remove hs
  | create hchannels _ hcreated =>
    obtain ⟨_, _, _, -, rfl⟩ := exists_of_created hcreated
    rw [hchannels]
    exact PartialMap.forall_insert hs (.new ..)
  | operate hchannels hch =>
    rw [hchannels]
    exact PartialMap.forall_insert hs ((hs _ _ hch).step _)

/-- What a service asks of the channel manager at a call, for a channel it has sold. -/
inductive Charges (s : LSPS2ServiceHandler) (i : ServiceInput) : List CMCall → Prop
  | nothing : Charges s i []
  /-- The HTLC just intercepted is failed. -/
  | fails {scid : Scid} {htlc : InterceptedHTLC} (h : i.call.Intercepts scid htlc) :
      Charges s i [.failInterceptedHtlc htlc.interceptId]
  /-- HTLCs of the channel are forwarded, for no more than its fee. -/
  | forwards {k : PublicKey × Scid} {ch : OutboundJITChannel} {expected fee : UInt64} {c : ChannelId}
      {parts : Parts} (hch : s.channels k = some ch)
      (hsize : ∀ size, ch.paymentSizeMsat = some size → expected = size)
      (hfee : ch.openingFeeParams.openingFee expected = some fee)
      (hhtlcs : ∀ e ∈ parts, e.1 ∈ ch.held ∨ i.call.Intercepts k.2 e.1)
      (hamounts : ∀ e ∈ parts, e.2 ≤ e.1.expectedOutboundAmountMsat)
      (hdeducted : parts.deducted ≤ fee.toNat) : Charges s i (parts.calls k.1 c)

/-- Nothing is taken of amounts forwarded in full. -/
theorem deducted_eq_zero {parts : Parts} (h : ∀ e ∈ parts, e.2 = e.1.expectedOutboundAmountMsat) :
    parts.deducted = 0 := by
  refine List.sum_eq_zero fun n hn => ?_
  obtain ⟨e, he, rfl⟩ := List.mem_map.1 hn
  rw [h e he, Nat.sub_self]

theorem Charges.step (hpriced : ∀ k ch, s.channels k = some ch → ch.Priced) (i : ServiceInput) :
    s.Charges i (s.step env i).2.cmCalls := by
  rcases htarget : s.target i.call with _ | ⟨k, op⟩
  · rw [cmCalls_of_target_none env htarget]
    exact .nothing
  obtain ⟨ch, hch, -⟩ := exists_of_target env htarget
  obtain ⟨g, hat, hg⟩ := hpriced k ch hch
  obtain ⟨g', hstep, -⟩ := ch.stage_step op hat
  rcases exists_parts_of_target env htarget hch hstep with
    hnone | ⟨htlc, hop, hfails⟩ | ⟨c, parts, -, hcalls, hmem, hparts⟩
  · exact hnone ▸ .nothing
  · exact hfails ▸ .fails (intercepts_of_target htarget hop)
  have hhtlcs : ∀ e ∈ parts, e.1 ∈ ch.held ∨ i.call.Intercepts k.2 e.1 := fun e he =>
    (mem_held_or_given (.inr (hmem e he))).imp_right (intercepts_of_target htarget)
  rcases hparts with ⟨fee, hfee, hle, hdeducted⟩ | ⟨hcharged, hfull⟩
  · obtain ⟨expected, hsize, hopening⟩ := hg fee hfee
    exact hcalls ▸ .forwards hch hsize hopening hhtlcs hle hdeducted
  · -- The fee was known when it was charged.
    obtain ⟨fee, hfee⟩ : ∃ fee, g'.fee? = some fee := by
      cases g' with
      | charged fee => exact ⟨fee, rfl⟩
      | requested | opening | charging => exact hcharged.elim
    obtain ⟨expected, hsize, hopening⟩ := hstep.priced hg fee hfee
    exact hcalls ▸ .forwards hch hsize hopening hhtlcs
      (fun e he => hfull e he ▸ UInt64.le_refl _)
      ((deducted_eq_zero hfull).trans_le (Nat.zero_le _))

end LSPS2ServiceHandler

/-! ## The service of a manager -/

namespace LiquidityManager

variable {env : Externals} {serde : Serde} {s : LiquidityManager}

/-- The service of a manager is where calls to a new one lead. -/
def ServiceReached (env : Externals) (s : LiquidityManager) : Prop :=
  ∀ handler, s.lsps2ServiceHandler = some handler →
    ∃ secret, (LSPS2ServiceHandler.machine env).Reaches (fun _ => True) (.new secret) handler

theorem ServiceReached.new (env : Externals) (serviceConfig : Option LiquidityServiceConfig)
    (clientConfig : Option LiquidityClientConfig) :
    (new serviceConfig clientConfig).ServiceReached env := by
  rcases serviceConfig with _ | ⟨_ | config⟩ <;> rintro handler ⟨⟩
  exact ⟨config.promiseSecret, .refl⟩

theorem ServiceReached.step (h : s.ServiceReached env) (i : ManagerInput) :
    (s.step env serde i).1.ServiceReached env := by
  intro handler hhandler
  rcases service_step env serde s i with heq | ⟨handler', j, hhandler', heq⟩
  · exact h handler (heq.symm.trans hhandler)
  · obtain rfl := Option.some.inj (heq.symm.trans hhandler)
    obtain ⟨secret, hreaches⟩ := h handler' hhandler'
    exact ⟨secret, hreaches.step trivial⟩

/-- What a call asks of the channel manager, the service does: it is a call to the service. -/
theorem cmCalls_step (env : Externals) (serde : Serde) (s : LiquidityManager) (i : ManagerInput) :
    (s.step env serde i).2.cmCalls = [] ∨ ∃ handler call, s.lsps2ServiceHandler = some handler ∧
      i.call = .service call ∧
      (s.step env serde i).2.cmCalls = (handler.step env ⟨call.call, i.cm, i.now⟩).2.cmCalls := by
  obtain ⟨call, cm, now, entropy⟩ := i
  cases call with
  | handleCustomMessage | getAndClearPendingMsg | nextEvent | getAndClearPendingEvents
  | listProtocols => exact .inl rfl
  | requestOpeningParams | selectOpeningParams =>
    simp only [LiquidityManager.step]
    split <;> exact .inl rfl
  | service call =>
    simp only [LiquidityManager.step]
    split
    · next handler hhandler => exact .inr ⟨handler, call, hhandler, rfl, rfl⟩
    · exact .inl rfl

/-- A channel of the manager holds an HTLC. -/
def Holds (s : LiquidityManager) (k : PublicKey × Scid) (htlc : InterceptedHTLC) : Prop :=
  ∃ ch, s.channels k = some ch ∧ htlc ∈ ch.held

/-- A call hands the manager an HTLC, as intercepted on a short channel id. -/
def Made.Intercepts (c : Made) (scid : Scid) (htlc : InterceptedHTLC) : Prop :=
  ∃ call, c.2.call = .service call ∧ call.call.Intercepts scid htlc

/-- What is held after a call was held before, or the call has handed it over. -/
theorem holds_step {i : ManagerInput} {k : PublicKey × Scid} {htlc : InterceptedHTLC}
    (h : (s.step env serde i).1.Holds k htlc) :
    s.Holds k htlc ∨ Made.Intercepts (s, i) k.2 htlc := by
  obtain ⟨ch, hch, hheld⟩ := h
  obtain ⟨call, cm, now, entropy⟩ := i
  cases call with
  | handleCustomMessage payload p =>
    simp only [LiquidityManager.step, handleCustomMessage] at hch
    split at hch
    · exact .inl ⟨ch, hch, hheld⟩
    · generalize LSPSMessage.fromStrWithIdMap serde payload s.requestIdToMethodMap = read at hch
      rcases read with ⟨_ | m, map⟩
      · exact .inl ⟨ch, hch, hheld⟩
      · -- Messages change no channel.
        replace hch : (({ s with requestIdToMethodMap := map } :
          LiquidityManager).handleLspsMessage env now m p).1.channels k = some ch := hch
        rw [channels_handleLspsMessage] at hch
        exact .inl ⟨ch, hch, hheld⟩
  | getAndClearPendingMsg | nextEvent | getAndClearPendingEvents | listProtocols =>
    exact .inl ⟨ch, hch, hheld⟩
  | requestOpeningParams | selectOpeningParams =>
    simp only [LiquidityManager.step] at hch
    split at hch <;> exact .inl ⟨ch, hch, hheld⟩
  | service call =>
    simp only [LiquidityManager.step] at hch
    split at hch
    · next handler hhandler =>
      rcases handler.held_step env ⟨call.call, cm, now⟩ k ch hch htlc hheld with
        ⟨ch₀, hch₀, hheld₀⟩ | hcall
      · exact .inl ⟨ch₀, channels_eq hhandler ▸ hch₀, hheld₀⟩
      · exact .inr ⟨call, rfl, hcall⟩
    · exact .inl ⟨ch, hch, hheld⟩

end LiquidityManager

/-! ## Two managers -/

namespace Link

/-- Some call of the user has handed over an HTLC, as intercepted on a short channel id. -/
def Intercepted (past : List Made) (scid : Scid) (htlc : InterceptedHTLC) : Prop :=
  ∃ c ∈ past, c.Intercepts scid htlc

/-- What the manager of a key `p` asks of its channel manager at a call: HTLCs intercepted on the
    short channel id sold, by this call or one before, are forwarded to the other manager, for
    no more than the fee of an offer its user selected. -/
inductive Charges (past past' : List Made) (c : Made) (p q : PublicKey) : List CMCall → Prop
  | nothing : Charges past past' c p q []
  | fails {scid : Scid} {htlc : InterceptedHTLC} (h : c.Intercepts scid htlc) :
      Charges past past' c p q [.failInterceptedHtlc htlc.interceptId]
  | forwards {requestId : RequestId} {req : BuyRequest} {result : BuyResponse}
      {userChannelId : UserChannelId} {scid : Scid} {expected fee : UInt64} {channelId : ChannelId}
      {parts : Parts} (hsold : Sold past past' p q requestId req result userChannelId scid)
      (hsize : ∀ size, req.paymentSizeMsat = some size → expected = size)
      (hfee : req.openingFeeParams.openingFee expected = some fee)
      (hhtlcs : ∀ e ∈ parts, Intercepted (past ++ [c]) scid e.1)
      (hamounts : ∀ e ∈ parts, e.2 ≤ e.1.expectedOutboundAmountMsat)
      (hdeducted : parts.deducted ≤ fee.toNat) : Charges past past' c p q (parts.calls q channelId)

/-- The HTLCs a channel holds in the end of a run were handed over by calls of the user. -/
theorem intercepted_of_holds {env : Externals} {serde : Serde} {node : Bool → PublicKey}
    {serviceConfig : Bool → Option LiquidityServiceConfig}
    {clientConfig : Bool → Option LiquidityClientConfig} {is : List LinkInput} {b : Bool}
    {k : PublicKey × Scid} {htlc : InterceptedHTLC}
    (h : (((machine env serde node).exec (new serviceConfig clientConfig) is).manager b).Holds
      k htlc) :
    Intercepted (userCalls env serde node (new serviceConfig clientConfig) is b) k.2 htlc := by
  have hstep (s : Link) (i : LinkInput)
      (h : ((s.step env serde node i).1.manager b).Holds k htlc) :
      (s.manager b).Holds k htlc ∨ ∃ c ∈ i.made b s, c.Intercepts k.2 htlc := by
    rcases manager_step env serde node s i b with hkeep | ⟨j, hj, hmade⟩
    · exact .inl (hkeep ▸ h)
    · rw [hj] at h
      rcases holds_step h with h | ⟨call, hcall, hintercepts⟩
      · exact .inl h
      · exact .inr ⟨_, hmade call hcall, call, hcall, hintercepts⟩
  rcases Machine.exists_of_exec (m := machine env serde node)
    (P := fun s => (s.manager b).Holds k htlc) hstep h with
    ⟨ch, hch, -⟩ | ⟨pre, i, post, rfl, c, hc, hintercepts⟩
  · replace hch : (LiquidityManager.new (serviceConfig b) (clientConfig b)).channels k = some ch :=
      hch
    generalize serviceConfig b = config at hch
    rcases config with _ | ⟨_ | config⟩ <;> cases hch
  · refine ⟨c, ?_, hintercepts⟩
    rw [userCalls, Machine.gather_append, Machine.gather_cons]
    exact List.mem_append_right _ (List.mem_append_left _ hc)

/-- **Nobody is overcharged.** In every run of two managers in which the ids of requests are
    distinct, no offer is selected that expires before the epoch, and the texts of messages are
    read back: what a next call to one of them forwards goes to the other one, for an offer its
    user selected, and are HTLCs intercepted on the short channel id this was sold under. Of them
    it takes no more than the opening fee of the offer, for the payment size named if there is
    one. -/
theorem charged_as_selected (env : Externals) (serde : Serde) (node : Bool → PublicKey)
    (serviceConfig : Bool → Option LiquidityServiceConfig)
    (clientConfig : Bool → Option LiquidityClientConfig) (is : List LinkInput)
    (hids : ∀ b, ((requests b is).map fun e => e.2.1).Nodup)
    (hfair : (machine env serde node).Along (Fair serde) (new serviceConfig clientConfig) is) :
    let past := userCalls env serde node (new serviceConfig clientConfig) is
    let s := (machine env serde node).exec (new serviceConfig clientConfig) is
    ∀ b i, Charges (past b) (past !b) (s.manager b, i) (node b) (node !b)
      ((s.manager b).step env serde i).2.cmCalls := by
  intro past s b i
  have hagree : Agree env node past s := agree_exec hids hfair
  rcases cmCalls_step env serde (s.manager b) i with hnone | ⟨handler, call, hhandler, hcall, hcalls⟩
  · rw [hnone]
    exact .nothing
  have hreached : (s.manager b).ServiceReached env :=
    forall_manager_exec (P := fun _ A => A.ServiceReached env) (fun _ _ i h => h.step i) is
      (fun b => .new env (serviceConfig b) (clientConfig b)) b
  obtain ⟨secret, hreaches⟩ := hreached handler hhandler
  have hcharges : handler.Charges ⟨call.call, i.cm, i.now⟩
      (handler.step env ⟨call.call, i.cm, i.now⟩).2.cmCalls :=
    .step (LSPS2ServiceHandler.priced_of_reaches hreaches) _
  rw [hcalls]
  generalize (handler.step env ⟨call.call, i.cm, i.now⟩).2.cmCalls = calls at hcharges
  cases hcharges with
  | nothing => exact .nothing
  | fails hintercepts => exact .fails ⟨call, hcall, hintercepts⟩
  | @forwards k ch expected fee channelId parts hch hsize hfee hhtlcs hamounts hdeducted =>
    -- The channel was sold as the other user selected it.
    rw [← channels_eq hhandler] at hch
    obtain ⟨hpeer, requestId, result, hsold⟩ := (hagree b).sales k ch hch
    -- Its HTLCs were handed over before, or are now.
    have hintercepted : ∀ e ∈ parts, Intercepted (past b ++ [(s.manager b, i)]) k.2 e.1 := by
      intro e he
      rcases hhtlcs e he with hheld | hintercepts
      · obtain ⟨c, hc, hintercepts⟩ := intercepted_of_holds ⟨ch, hch, hheld⟩
        exact ⟨c, List.mem_append_left _ hc, hintercepts⟩
      · exact ⟨_, List.mem_append_right _ (List.mem_singleton_self _), call, hcall, hintercepts⟩
    rw [hpeer]
    exact .forwards hsold hsize hfee hintercepted hamounts hdeducted

/-- The offer selected is sold, and a payment for it is intercepted. -/
def sampleSaleRun : List LinkInput :=
  sampleOfferRun ++
    [sampleUserCall true (.service
      ⟨.invoiceParametersGenerated ⟨0⟩ ⟨"01010101010101010101010101010101"⟩ 42 144 false 0,
        by simp⟩) trivial,
      sampleUserCall true (.service ⟨.htlcIntercepted 42 ⟨0⟩ 500 ⟨0⟩, by simp⟩) trivial]

/-- The run is fair. -/
theorem fair_sampleSaleRun :
    (machine sampleExternals sampleOfferSerde fun b => if b then ⟨1⟩ else ⟨0⟩).Along
      (Fair sampleOfferSerde) sampleLink sampleSaleRun :=
  Machine.along_append.2 ⟨fair_sampleOfferRun, by rintro _ _ _ ⟨⟩, by rintro _ _ _ ⟨⟩, trivial⟩

/-- The channel for the offer selected is reported ready. -/
def sampleReady : ManagerInput where
  call := .service ⟨.channelReady 0 ⟨7⟩ ⟨0⟩, by simp⟩
  cm := fun _ _ => .ok ()
  now := 0
  entropy := []

set_option maxRecDepth 2000 in
/-- When the channel is ready, the payment is forwarded for the fee selected. -/
theorem charged_as_selected_sale :
    let past := userCalls sampleExternals sampleOfferSerde (fun b => if b then ⟨1⟩ else ⟨0⟩)
      sampleLink sampleSaleRun
    let s := (machine sampleExternals sampleOfferSerde fun b => if b then ⟨1⟩ else ⟨0⟩).exec
      sampleLink sampleSaleRun
    Charges (past true) (past false) (s.manager true, sampleReady) ⟨1⟩ ⟨0⟩
      [.forwardInterceptedHtlc ⟨0⟩ ⟨7⟩ ⟨0⟩ 450] := by
  intro past s
  have hids : ∀ b, ((requests b sampleSaleRun).map fun e => e.2.1).Nodup := by decide
  have hcalls : ((s.manager true).step sampleExternals sampleOfferSerde sampleReady).2.cmCalls =
      [.forwardInterceptedHtlc ⟨0⟩ ⟨7⟩ ⟨0⟩ 450] := by decide +kernel
  have hcharges : Charges (past true) (past false) (s.manager true, sampleReady) ⟨1⟩ ⟨0⟩
      ((s.manager true).step sampleExternals sampleOfferSerde sampleReady).2.cmCalls :=
    charged_as_selected sampleExternals sampleOfferSerde _ _ _ sampleSaleRun hids
      fair_sampleSaleRun true sampleReady
  rwa [hcalls] at hcharges

end Link

end LightningLiquidity
