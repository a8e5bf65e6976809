import LightningLiquidity.Lsps2.Channel.FeePayments
import LightningLiquidity.Lsps2.Service.ChannelReady

/-!
# HTLCs that are forwarded

What an operation on a channel asks to be forwarded is out of its queue
(`Transition.not_mem_htlcs`) before the calls to the channel manager that forward it are made, one
after the other. The first call that fails ends this, so that the HTLCs
behind it are lost: neither held nor forwarded (`not_losesNone`).

* `output_step`: the calls made for an operation on a channel;
* `losesNone_iff`: no HTLC is lost in a run iff at most the last of those calls fails.
-/

namespace LightningLiquidity

open OutboundJITChannelState PaymentQueue

/-! ## Calls in a row -/

namespace ChannelManager

variable {cm : ChannelManager}

/-- The calls made are the first ones. -/
theorem callAll_prefix (n : ℕ) (calls : List CMCall) : (cm.callAll n calls).1 <+: calls := by
  induction calls generalizing n with
  | nil => exact List.prefix_refl []
  | cons call calls ih =>
    rw [callAll]
    rcases cm n call with e | ⟨⟩
    · exact ⟨calls, rfl⟩
    · exact List.cons_prefix_cons.2 ⟨rfl, ih (n + 1)⟩

/-- All calls are made iff none but the last fails. -/
theorem callAll_eq_iff (n : ℕ) (calls : List CMCall) :
    (cm.callAll n calls).1 = calls ↔ cm.Accepts n calls.dropLast := by
  induction calls generalizing n with
  | nil => exact iff_of_true rfl trivial
  | cons call calls ih =>
    rw [callAll]
    rcases calls with _ | ⟨next, calls⟩
    · refine iff_of_true ?_ trivial
      rcases cm n call with e | ⟨⟩ <;> rfl
    · rw [List.dropLast_cons_of_ne_nil (List.cons_ne_nil _ _), Accepts, ← ih (n + 1)]
      rcases hcall : cm n call with e | ⟨⟩
      · simp
      · simp

theorem callAll_ne_panic (n : ℕ) (calls : List CMCall) : (cm.callAll n calls).2 ≠ .panic := by
  induction calls generalizing n with
  | nil => exact Outcome.ok_ne_panic
  | cons call calls ih =>
    rw [callAll]
    rcases cm n call with e | ⟨⟩
    · exact Outcome.err_ne_panic _
    · exact ih (n + 1)

/-- The calls made, and how this ends; without calls to make, there is a panic. -/
def run (cm : ChannelManager) : Option (List CMCall) → List CMCall × Outcome HandlerError
  | none => ([], .panic)
  | some calls => cm.callAll 0 calls

theorem run_forwardPayment (cm : ChannelManager) (p : PublicKey) (c : ChannelId)
    (payment : FeePayment) :
    ((cm.forwardPayment p c payment).cmCalls, (cm.forwardPayment p c payment).result) =
      cm.run ((calculateAmountToForwardPerHtlc payment.htlcs payment.openingFeeMsat).map
        (forwardCalls p c)) := by
  rw [forwardPayment]
  cases calculateAmountToForwardPerHtlc payment.htlcs payment.openingFeeMsat with
  | none => rfl
  | some amounts => rfl

end ChannelManager

/-- The HTLC a call forwards. -/
def CMCall.forwarded? : CMCall → Option InterceptId
  | .forwardInterceptedHtlc interceptId .. => some interceptId
  | .failInterceptedHtlc _ => none

@[simp] theorem map_forwarded?_forwardCalls (p : PublicKey) (c : ChannelId)
    (amounts : List (InterceptId × UInt64)) :
    (forwardCalls p c amounts).map CMCall.forwarded? = (amounts.map Prod.fst).map some := by
  rw [forwardCalls, List.map_map, List.map_map]
  rfl

/-! ## What an operation asks to be forwarded -/

/-- The calls that forward what an operation on a channel to a peer asks for; `none` if the fee
    cannot be split. -/
def ChannelEvent.forwardCalls? (p : PublicKey) (e : ChannelEvent) : Option (List CMCall) :=
  match e.action? with
  | some (.intercepted (.forwardHTLC c)) =>
    some (forwardCalls p c (e.1.htlc?.toList.map fun htlc =>
      (htlc.interceptId, htlc.expectedOutboundAmountMsat)))
  | some (.intercepted (.forwardPayment c payment)) =>
    (calculateAmountToForwardPerHtlc payment.htlcs payment.openingFeeMsat).map (forwardCalls p c)
  | some (.forwardPayment { channelId, payment }) =>
    (calculateAmountToForwardPerHtlc payment.htlcs payment.openingFeeMsat).map
      (forwardCalls p channelId)
  | some (.forwardHTLCs { channelId, htlcs }) =>
    some (forwardCalls p channelId (htlcs.map fun htlc =>
      (htlc.interceptId, htlc.expectedOutboundAmountMsat)))
  | some (.intercepted (.openChannel _)) | none => some []

/-- The HTLCs of a payment taken out of a queue are not left in it. -/
theorem PaymentQueue.not_mem_htlcs_of_pop {q q' : PaymentQueue} {amount : UInt64}
    {payment : PaymentHash × List InterceptedHTLC}
    (h : q.popGreaterThanMsat amount = (q', some payment)) :
    ∀ htlc ∈ payment.2, htlc ∉ q'.htlcs := by
  obtain ⟨l, r, hq, hq', -⟩ := popGreaterThanMsat_some h
  intro htlc hmem
  rw [PaymentQueue.htlcs, hq']
  exact (hq ▸ q.grouping).not_mem_values hmem

/-- The HTLCs carried by an action are not held any more. -/
theorem OutboundJITChannelState.Transition.not_mem_htlcs {params : OpeningFeeParams}
    {size : Option UInt64} {st st' : OutboundJITChannelState} {op : ChannelOp} {r : ChannelResult}
    (h : Transition params size st op st' r) :
    ∀ htlc ∈ ChannelEvent.carried (op, r), htlc ∉ st'.queue.htlcs := by
  intro htlc hmem
  cases h with
  | ready hpop | next hpop | forwardPayment hpop => exact not_mem_htlcs_of_pop hpop htlc hmem
  | paid | forwardHTLC => exact List.not_mem_nil
  | _ => exact absurd hmem List.not_mem_nil

/-- The calls made for what an operation asks for forward the HTLCs it carries, in order. -/
theorem OutboundJITChannelState.Transition.map_forwarded? {params : OpeningFeeParams}
    {size : Option UInt64} {st st' : OutboundJITChannelState} {op : ChannelOp} {r : ChannelResult}
    {p : PublicKey} {calls : List CMCall} (h : Transition params size st op st' r)
    (hcalls : ChannelEvent.forwardCalls? p (op, r) = some calls) :
    calls.map CMCall.forwarded? =
      (ChannelEvent.carried (op, r)).map fun htlc => some htlc.interceptId := by
  -- The fee is skimmed from a payment that covers it, so that the split gives all HTLCs.
  have hsplit (c : ChannelId) (payment : FeePayment)
      (hpayment : ChannelEvent.feePayment? (op, r) = some payment)
      (hcalls : (calculateAmountToForwardPerHtlc payment.htlcs payment.openingFeeMsat).map
        (forwardCalls p c) = some calls) :
      calls.map CMCall.forwarded? = payment.htlcs.map fun htlc => some htlc.interceptId := by
    obtain ⟨hash, hpop⟩ := h.feePayment hpayment
    obtain ⟨l, r, -, -, hle, -⟩ := popGreaterThanMsat_some hpop
    obtain ⟨amounts, hamounts, rfl⟩ := Option.map_eq_some_iff.1 hcalls
    rw [map_forwarded?_forwardCalls, map_fst_calculateAmountToForwardPerHtlc hamounts hle,
      List.map_map]
    rfl
  rcases ha : ChannelEvent.action? (op, r) with
    _ | ((o | c | ⟨c, payment⟩) | ⟨c, payment⟩ | ⟨c, htlcs⟩)
  all_goals
    simp only [ChannelEvent.forwardCalls?, ChannelEvent.feePayment?, ha, Option.some.injEq,
      Option.bind_some, ChannelAction.feePayment?] at hcalls hsplit
    simp only [ChannelEvent.carried, ha]
  · rw [← hcalls]
    rfl
  · rw [← hcalls]
    rfl
  · rw [← hcalls, map_forwarded?_forwardCalls, List.map_map, List.map_map]
    rfl
  · exact hsplit c payment rfl hcalls
  · exact hsplit c payment rfl hcalls
  · rw [← hcalls, map_forwarded?_forwardCalls, List.map_map, List.map_map]
    rfl

/-! ## The service -/

namespace LSPS2ServiceHandler

variable {env : Externals} {s : LSPS2ServiceHandler} {i : ServiceInput} {p : PublicKey}
  {scid : Scid} {op : ChannelOp} {ch : OutboundJITChannel}

/-- The calls made for an operation that a channel does not refuse, and how they end. -/
theorem output_step (env : Externals) (htarget : s.target i.call = some ((p, scid), op))
    (hch : s.channels (p, scid) = some ch) (hok : (ch.step op).2.isOk = true) :
    ((s.step env i).2.cmCalls, (s.step env i).2.result) =
      i.cm.run (ChannelEvent.forwardCalls? p (op, (ch.step op).2)) := by
  obtain ⟨ps, hps, hch⟩ := Option.bind_eq_some_iff.1 hch
  obtain ⟨call, cm, now⟩ := i
  -- Each call runs the operation of its channel, and then does what its action asks for.
  cases Targets.of_target htarget with
  | @htlcIntercepted _ _ interceptId amount hash hp =>
    rcases hr : ch.htlcIntercepted ⟨interceptId, amount, hash⟩ with
      ⟨ch', e | _ | (o | c | ⟨c, payment⟩)⟩
    all_goals
      simp only [OutboundJITChannel.step, hr, LSPS2ServiceHandler.step, htlcIntercepted, hp, hps,
        hch] at hok ⊢
    · cases hok
    · rfl
    · rfl
    · rfl
    · exact cm.run_forwardPayment p c payment
  | htlcHandlingFailed hp hps' hscid =>
    obtain rfl := Option.some.inj (hps.symm.trans hps')
    rcases hr : ch.htlcHandlingFailed with ⟨ch', e | _ | ⟨c, payment⟩⟩
    all_goals
      simp only [OutboundJITChannel.step, hr, LSPS2ServiceHandler.step, htlcHandlingFailed, hp,
        hps, hscid, hch] at hok ⊢
    · cases hok
    · rfl
    · exact cm.run_forwardPayment p c payment
  | paymentForwarded hp hps' hscid =>
    obtain rfl := Option.some.inj (hps.symm.trans hps')
    rcases hr : ch.paymentForwarded with ⟨ch', e | _ | ⟨c, htlcs⟩⟩
    all_goals
      simp only [OutboundJITChannel.step, hr, LSPS2ServiceHandler.step, paymentForwarded, hp,
        hps, hscid, hch] at hok ⊢
    · cases hok
    · rfl
    · rfl
  | @channelReady _ c _ _ _ hps' hscid =>
    obtain rfl := Option.some.inj (hps.symm.trans hps')
    rcases hr : ch.channelReady c with ⟨ch', e | ⟨c', payment⟩⟩
    all_goals
      simp only [OutboundJITChannel.step, hr, LSPS2ServiceHandler.step, channelReady, hps, hscid,
        hch] at hok ⊢
    · cases hok
    · exact cm.run_forwardPayment p c' payment

/-- A call that returns has passed on every HTLC its operation on a channel asks to be forwarded,
    in the forward call of that HTLC, or the channel holds it. -/
def LosesNone (env : Externals) (s : LSPS2ServiceHandler) (i : ServiceInput) : Prop :=
  ∀ k op ch, s.target i.call = some (k, op) → s.channels k = some ch →
    (s.step env i).2.result ≠ .panic →
    ∀ (n : ℕ) (htlc : InterceptedHTLC),
      (ChannelEvent.carried (op, (ch.step op).2))[n]? = some htlc →
      (s.step env i).2.cmCalls[n]?.bind CMCall.forwarded? = some htlc.interceptId ∨
        ∃ ch', (s.step env i).1.channels k = some ch' ∧ htlc ∈ ch'.held

/-- No forward call fails before the last one of what an operation on a channel asks for. -/
def OnlyLastFails (s : LSPS2ServiceHandler) (i : ServiceInput) : Prop :=
  ∀ k op ch, s.target i.call = some (k, op) → s.channels k = some ch →
    ∀ calls, ChannelEvent.forwardCalls? k.1 (op, (ch.step op).2) = some calls →
      i.cm.Accepts 0 calls.dropLast

/-- The channel after an operation it does not refuse. -/
theorem channels_of_isOk (env : Externals) {k : PublicKey × Scid}
    (htarget : s.target i.call = some (k, op)) (hch : s.channels k = some ch)
    (hok : (ch.step op).2.isOk = true) :
    (s.step env i).1.channels k = some (ch.step op).1 := by
  have hrest := channelsStep_step env s i
  cases hrest with
  | keep _ hno => cases hno.symm.trans htarget
  | create _ hno => cases hno.symm.trans htarget
  | operate h hch' htarget' =>
    obtain ⟨rfl, rfl⟩ := Prod.mk.inj (Option.some.inj (htarget.symm.trans htarget'))
    obtain rfl := Option.some.inj (hch.symm.trans hch')
    rw [h, PartialMap.insert_self]
  | remove _ hch' htarget' _ hrefuses =>
    obtain ⟨rfl, rfl⟩ := Prod.mk.inj (Option.some.inj (htarget.symm.trans htarget'))
    obtain rfl := Option.some.inj (hch.symm.trans hch')
    exact absurd (fun _ => hok) hrefuses

/-- All calls to forward HTLCs are made iff each HTLC is passed on in its call. -/
theorem ChannelManager.callAll_eq_iff_forall (cm : ChannelManager) {calls : List CMCall}
    {htlcs : List InterceptedHTLC}
    (hcalls : calls.map CMCall.forwarded? = htlcs.map fun htlc => some htlc.interceptId) :
    (cm.callAll 0 calls).1 = calls ↔ ∀ (n : ℕ) (htlc : InterceptedHTLC), htlcs[n]? = some htlc →
      (cm.callAll 0 calls).1[n]?.bind CMCall.forwarded? = some htlc.interceptId := by
  constructor
  · intro hall n htlc hget
    have hn := congrArg (fun l => l[n]?) hcalls
    simp only [List.getElem?_map, hget, Option.map_some, Option.map_eq_some_iff] at hn
    obtain ⟨call, hcall, hid⟩ := hn
    rw [hall, hcall, Option.bind_some, hid]
  · intro hpassed
    refine (cm.callAll_prefix 0 calls).eq_of_length_le ?_
    by_contra hlt
    -- The HTLC of the first call not made is not passed on.
    have hlen : calls.length = htlcs.length := by simpa using congrArg List.length hcalls
    have hn : (cm.callAll 0 calls).1.length < htlcs.length := by omega
    have hno := hpassed _ _ (List.getElem?_eq_getElem hn)
    rw [List.getElem?_eq_none (le_refl _)] at hno
    cases hno

/-- A call loses no HTLC iff no forward call but the last fails. -/
theorem losesNone_step_iff (env : Externals) (s : LSPS2ServiceHandler) (i : ServiceInput) :
    LosesNone env s i ↔ s.OnlyLastFails i := by
  refine forall₅_congr fun k op ch htarget hch => ?_
  have htrans := ch.transition_step op
  by_cases hok : (ch.step op).2.isOk = true
  · have hout := output_step env htarget hch hok
    have hchannel := channels_of_isOk env htarget hch hok
    cases hcalls : ChannelEvent.forwardCalls? k.1 (op, (ch.step op).2) with
    | none =>
      rw [hcalls] at hout
      exact iff_of_true (fun hno => absurd (Prod.mk.inj hout).2 hno) nofun
    | some calls =>
      rw [hcalls] at hout
      obtain ⟨hcm, hresult⟩ := Prod.mk.inj hout
      rw [hcm, hresult]
      have hall := ChannelManager.callAll_eq_iff_forall i.cm (htrans.map_forwarded? hcalls)
      rw [ChannelManager.callAll_eq_iff] at hall
      constructor
      · rintro h _ ⟨⟩
        refine hall.2 fun n htlc hget => ?_
        rcases h (i.cm.callAll_ne_panic 0 calls) n htlc hget with hpassed | ⟨ch', hch', hheld⟩
        · exact hpassed
        · -- What is to be forwarded is out of the queue.
          obtain rfl := Option.some.inj (hchannel.symm.trans hch')
          exact absurd hheld (htrans.not_mem_htlcs htlc (List.mem_of_getElem? hget))
      · intro h _ n htlc hget
        exact .inl (hall.1 (h calls rfl) n htlc hget)
  · -- A refused operation asks for nothing.
    obtain ⟨e, he⟩ : ∃ e, (ch.step op).2 = .error e := by
      rcases h : (ch.step op).2 with e | a
      · exact ⟨e, rfl⟩
      · exact absurd (h ▸ rfl) hok
    rw [he]
    refine iff_of_true (fun _ n htlc hget => ?_) fun calls hcalls => ?_
    · cases hget
    · obtain rfl := Option.some.inj hcalls
      trivial

/-- **No HTLC is lost in a run iff no forward call fails before the last one** of those for the
    same operation on a channel. -/
theorem losesNone_iff (env : Externals) (secret : List UInt8) (is : List ServiceInput) :
    (machine env).Along (LosesNone env) (.new secret) is ↔
      (machine env).Along OnlyLastFails (.new secret) is :=
  Machine.along_congr (losesNone_step_iff env)

/-- The first of two HTLCs of a payment cannot be forwarded, and the second one is lost. -/
theorem not_losesNone :
    ¬∀ (env : Externals) (secret : List UInt8) (is : List ServiceInput),
      (machine env).Along (LosesNone env) (.new secret) is := by
  intro h
  let htlc (id : ℕ) (amount : UInt64) : ServiceInput :=
    (ServiceCall.htlcIntercepted 42 ⟨id⟩ amount ⟨0⟩).sampleInput
  let ready : ServiceInput :=
    { (ServiceCall.channelReady 0 ⟨7⟩ ⟨0⟩).sampleInput with
      cm := fun n _ => if n = 0 then .error (.channelManager 0) else .ok () }
  obtain ⟨-, -, -, -, hlast, -⟩ :=
    h sampleExternals [] [sampleBuy (some 500), sampleInvoice, htlc 0 200, htlc 1 300, ready]
  rcases hlast _ _ _ rfl rfl (by decide) 1 ⟨⟨1⟩, 300, ⟨0⟩⟩ (by decide) with hpassed | ⟨ch, hch, hheld⟩
  · exact absurd hpassed (by decide)
  · obtain rfl := Option.some.inj hch
    exact absurd hheld (by decide)

end LSPS2ServiceHandler

end LightningLiquidity
