import LightningLiquidity.Lsps2.Channel.Lifecycle
import LightningLiquidity.Lsps2.Service.Indices
import LightningLiquidity.Lsps2.Service.Ledger

/-!
# All that is forwarded is accounted for

Whatever the service asks of the channel manager follows from what it was told before
(`Accounted`): it fails the HTLC just intercepted, or forwards HTLCs intercepted on one
short channel id, to the peer this was given out to and over a channel reported ready
for it. Of the amounts it takes no more than the opening fee announced for that short
channel id; and it takes nothing of HTLCs it forwards after a payment over the
channel was reported to be forwarded, and only of those.

That this is so of every run (`cmCalls_accounted`) comes from what is recorded in the
trace of the channels and indices (`Recorded`), by the stages channels go through.
-/

namespace LightningLiquidity

open OutboundJITChannelState PaymentQueue UInt64

/-! ## The amounts forwarded -/

/-- HTLCs with the amounts they are forwarded with. -/
abbrev Parts := List (InterceptedHTLC × UInt64)

namespace Parts

/-- What is taken of the amounts. -/
def deducted (parts : Parts) : ℕ :=
  (parts.map fun e => e.1.expectedOutboundAmountMsat.toNat - e.2.toNat).sum

/-- The calls that forward the HTLCs over a channel. -/
def calls (parts : Parts) (p : PublicKey) (c : ChannelId) : List CMCall :=
  parts.map fun e => .forwardInterceptedHtlc e.1.interceptId c p e.2

/-- The HTLCs with the amounts expected. -/
def full (htlcs : List InterceptedHTLC) : Parts :=
  htlcs.map fun htlc => (htlc, htlc.expectedOutboundAmountMsat)

@[simp] theorem deducted_cons (htlc : InterceptedHTLC) (amount : UInt64) (parts : Parts) :
    deducted ((htlc, amount) :: parts) =
      (htlc.expectedOutboundAmountMsat.toNat - amount.toNat) + deducted parts := rfl

theorem deducted_le_of_prefix {parts parts' : Parts} (h : parts <+: parts') :
    deducted parts ≤ deducted parts' := by
  obtain ⟨rest, rfl⟩ := h
  rw [deducted, deducted, List.map_append, List.sum_append]
  exact Nat.le_add_right ..

theorem calls_full (htlcs : List InterceptedHTLC) (p : PublicKey) (c : ChannelId) :
    (full htlcs).calls p c = forwardCalls p c (htlcs.map fun htlc =>
      (htlc.interceptId, htlc.expectedOutboundAmountMsat)) := by
  rw [calls, full, forwardCalls, List.map_map, List.map_map]
  rfl

end Parts

/-- The split of a fee takes no more than the fee left. -/
theorem exists_parts_forwardAmounts (fee total remaining : UInt64) (htlcs : List InterceptedHTLC) :
    ∃ parts : Parts, parts.map Prod.fst = htlcs ∧
      forwardAmounts fee total remaining htlcs = parts.map (fun e => (e.1.interceptId, e.2)) ∧
      (∀ e ∈ parts, e.2 ≤ e.1.expectedOutboundAmountMsat) ∧ parts.deducted ≤ remaining.toNat := by
  induction htlcs generalizing remaining with
  | nil => exact ⟨[], rfl, rfl, fun _ h => absurd h List.not_mem_nil, Nat.zero_le _⟩
  | cons htlc htlcs ih =>
    rw [forwardAmounts]
    generalize htaken : min (min remaining (UInt64.ofNat (fee.toNat *
      htlc.expectedOutboundAmountMsat.toNat / total.toNat))) htlc.expectedOutboundAmountMsat = taken
    have hle : taken ≤ remaining := by
      rw [← htaken, UInt64.le_iff_toNat_le, UInt64.toNat_min, UInt64.toNat_min]
      exact (Nat.min_le_left ..).trans (Nat.min_le_left ..)
    have hrest : (remaining - taken).toNat = remaining.toNat - taken.toNat :=
      UInt64.toNat_sub_of_le remaining taken hle
    obtain ⟨parts, hfst, hparts, hamounts, hdeducted⟩ := ih (remaining - taken)
    have hsum : (taken + (remaining - taken)).toNat = remaining.toNat := by
      rw [UInt64.add_comm, UInt64.sub_add_cancel]
    refine ⟨(htlc, saturatingSub htlc.expectedOutboundAmountMsat
        (if htlcs = [] then taken + (remaining - taken) else taken)) :: parts, ?_, ?_, ?_, ?_⟩
    · rw [List.map_cons, hfst]
    · rw [List.map_cons, hparts]
    · refine List.forall_mem_cons.2 ⟨?_, hamounts⟩
      rw [UInt64.le_iff_toNat_le, toNat_saturatingSub]
      exact Nat.sub_le ..
    · rw [Parts.deducted_cons, toNat_saturatingSub]
      rw [UInt64.le_iff_toNat_le] at hle
      split
      · next hlast =>
        -- The last HTLC gives what is left, and no other one follows.
        obtain rfl := List.map_eq_nil_iff.1 (hfst.trans hlast)
        simp only [Parts.deducted, List.map_nil, List.sum_nil]
        omega
      · omega

/-- The calls that forward a payment take no more than its fee. -/
theorem exists_parts_forwardPayment {p : PublicKey} {c : ChannelId} {payment : FeePayment}
    {calls : List CMCall}
    (h : (calculateAmountToForwardPerHtlc payment.htlcs payment.openingFeeMsat).map
      (forwardCalls p c) = some calls) :
    ∃ parts : Parts, calls = parts.calls p c ∧ (∀ e ∈ parts, e.1 ∈ payment.htlcs) ∧
      (∀ e ∈ parts, e.2 ≤ e.1.expectedOutboundAmountMsat) ∧
      parts.deducted ≤ payment.openingFeeMsat.toNat := by
  obtain ⟨amounts, hamounts, rfl⟩ := Option.map_eq_some_iff.1 h
  rw [calculateAmountToForwardPerHtlc] at hamounts
  split at hamounts
  · obtain rfl := Option.some.inj hamounts
    exact ⟨[], rfl, fun _ he => absurd he List.not_mem_nil, fun _ he => absurd he List.not_mem_nil,
      Nat.zero_le _⟩
  · split at hamounts
    · cases hamounts
    · obtain rfl := Option.some.inj hamounts
      obtain ⟨parts, hfst, hparts, hle, hdeducted⟩ := exists_parts_forwardAmounts
        payment.openingFeeMsat (totalMsat payment.htlcs) payment.openingFeeMsat payment.htlcs
      refine ⟨parts, ?_, fun e he => hfst ▸ List.mem_map_of_mem he, hle, hdeducted⟩
      rw [hparts, forwardCalls, List.map_map]
      rfl

/-- What an operation on a channel asks to be forwarded takes no more than the fee of the channel,
    or nothing if that has been charged. -/
theorem Stage.Step.exists_parts {params : OpeningFeeParams} {size : Option UInt64} {g g' : Stage}
    {op : ChannelOp} {r : ChannelResult} {p : PublicKey} {calls : List CMCall}
    (h : Step params size g (op, r) g')
    (hcalls : ChannelEvent.forwardCalls? p (op, r) = some calls) :
    calls = [] ∨ ∃ c, ∃ parts : Parts, g'.channelId? = some c ∧ calls = parts.calls p c ∧
      (∀ e ∈ parts, e.1 ∈ ChannelEvent.carried (op, r)) ∧
      ((∃ fee, g.fee? = some fee ∧ (∀ e ∈ parts, e.2 ≤ e.1.expectedOutboundAmountMsat) ∧
          parts.deducted ≤ fee.toNat) ∨
        g'.Charged ∧ ∀ e ∈ parts, e.2 = e.1.expectedOutboundAmountMsat) := by
  have hfull (htlcs : List InterceptedHTLC) : (∀ e ∈ Parts.full htlcs, e.1 ∈ htlcs) ∧
      ∀ e ∈ Parts.full htlcs, e.2 = e.1.expectedOutboundAmountMsat := by
    constructor <;> rintro _ he <;> obtain ⟨htlc, hmem, rfl⟩ := List.mem_map.1 he
    · exact hmem
    · rfl
  cases h with
  | silent haction =>
    rw [ChannelEvent.forwardCalls?, haction] at hcalls
    exact .inl (Option.some.inj hcalls).symm
  | opens => exact .inl (Option.some.inj hcalls).symm
  | ready | next | forwardPayment =>
    obtain ⟨parts, rfl, hmem, hle, hdeducted⟩ := exists_parts_forwardPayment hcalls
    exact .inr ⟨_, parts, rfl, rfl, hmem, .inl ⟨_, rfl, hle, hdeducted⟩⟩
  | @pay _ c htlcs =>
    obtain rfl := Option.some.inj hcalls
    exact .inr ⟨c, .full htlcs, rfl, (Parts.calls_full ..).symm, (hfull htlcs).1,
      .inr ⟨trivial, (hfull htlcs).2⟩⟩
  | @forwardHTLC _ c htlc =>
    obtain rfl := Option.some.inj hcalls
    exact .inr ⟨c, .full [htlc], rfl, (Parts.calls_full ..).symm, (hfull [htlc]).1,
      .inr ⟨trivial, (hfull [htlc]).2⟩⟩

/-! ## What the trace of the service records -/

/-- A call intercepts an HTLC on a short channel id. -/
def ServiceCall.Intercepts (call : ServiceCall) (scid : Scid) (htlc : InterceptedHTLC) : Prop :=
  call = .htlcIntercepted scid htlc.interceptId htlc.expectedOutboundAmountMsat htlc.paymentHash

/-- The calls made to the service, with their outputs. -/
abbrev ServiceTrace := List (ServiceInput × Output)

namespace ServiceTrace

variable (tr : ServiceTrace)

/-- An HTLC was intercepted on a short channel id. -/
def Intercepted (scid : Scid) (htlc : InterceptedHTLC) : Prop :=
  ∃ e ∈ tr, e.1.call =
    .htlcIntercepted scid htlc.interceptId htlc.expectedOutboundAmountMsat htlc.paymentHash

/-- A short channel id was given out to a peer, for a channel of a user channel id. -/
def GivenOut (k : PublicKey × Scid) (userChannelId : UserChannelId) : Prop :=
  ∃ e ∈ tr, e.2.result = .ok ∧ ∃ requestId cltvExpiryDelta clientTrustsLsp,
    e.1.call = .invoiceParametersGenerated k.1 requestId k.2 cltvExpiryDelta clientTrustsLsp
      userChannelId

/-- The user was asked to open a channel, for a fee. -/
def Announced (k : PublicKey × Scid) (fee : UInt64) : Prop :=
  ∃ e ∈ tr, ∃ amount userChannelId, .openChannel k.1 amount fee userChannelId k.2 ∈ e.2.events

/-- A channel was reported ready, under a user channel id for which the short channel id was
    given out. -/
def ReportedReady (k : PublicKey × Scid) (c : ChannelId) : Prop :=
  ∃ userChannelId, tr.GivenOut k userChannelId ∧
    ∃ e ∈ tr, e.1.call = .channelReady userChannelId c k.1

/-- A payment was reported to be forwarded over a channel reported ready. -/
def ReportedPaid (k : PublicKey × Scid) : Prop :=
  ∃ c, tr.ReportedReady k c ∧ ∃ e ∈ tr, e.1.call = .paymentForwarded c

variable {tr} {tr' : ServiceTrace} {k : PublicKey × Scid}

theorem Intercepted.mono {scid : Scid} {htlc : InterceptedHTLC} (h : tr.Intercepted scid htlc)
    (htr : tr ⊆ tr') : Intercepted tr' scid htlc := h.imp fun _ he => ⟨htr he.1, he.2⟩

theorem GivenOut.mono {id : UserChannelId} (h : tr.GivenOut k id) (htr : tr ⊆ tr') :
    GivenOut tr' k id := h.imp fun _ he => ⟨htr he.1, he.2⟩

theorem Announced.mono {fee : UInt64} (h : tr.Announced k fee) (htr : tr ⊆ tr') :
    Announced tr' k fee := h.imp fun _ he => ⟨htr he.1, he.2⟩

theorem ReportedReady.mono {c : ChannelId} (h : tr.ReportedReady k c) (htr : tr ⊆ tr') :
    ReportedReady tr' k c := by
  obtain ⟨id, hgiven, e, he, hcall⟩ := h
  exact ⟨id, hgiven.mono htr, e, htr he, hcall⟩

theorem ReportedPaid.mono (h : tr.ReportedPaid k) (htr : tr ⊆ tr') : ReportedPaid tr' k := by
  obtain ⟨c, hready, e, he, hcall⟩ := h
  exact ⟨c, hready.mono htr, e, htr he, hcall⟩

end ServiceTrace

/-- What has led a channel to a stage is in the trace. -/
structure Stage.Recorded (tr : ServiceTrace) (k : PublicKey × Scid) (g : Stage) : Prop where
  fee : ∀ fee, g.fee? = some fee → tr.Announced k fee
  channelId : ∀ c, g.channelId? = some c → tr.ReportedReady k c
  charged : g.Charged → tr.ReportedPaid k

theorem Stage.Recorded.mono {tr tr' : ServiceTrace} {k : PublicKey × Scid} {g : Stage}
    (h : g.Recorded tr k) (htr : tr ⊆ tr') : g.Recorded tr' k where
  fee fee hfee := (h.fee fee hfee).mono htr
  channelId c hc := (h.channelId c hc).mono htr
  charged hcharged := (h.charged hcharged).mono htr

namespace LSPS2ServiceHandler

/-- What the service knows of its channels is in the trace. -/
structure Recorded (tr : ServiceTrace) (s : LSPS2ServiceHandler) : Prop where
  userIndex : ∀ e scid, s.userIndex e = some scid → tr.GivenOut (e.1, scid) e.2
  channelIndex : ∀ e scid, s.channelIndex e = some scid → tr.ReportedReady (e.1, scid) e.2
  held : ∀ k ch, s.channels k = some ch → ∀ htlc ∈ ch.held, tr.Intercepted k.2 htlc
  stage : ∀ k ch, s.channels k = some ch → ∃ g, ch.state.AtStage g ∧ g.Recorded tr k

variable {env : Externals} {s : LSPS2ServiceHandler} {i : ServiceInput} {k : PublicKey × Scid}
  {op : ChannelOp} {ch : OutboundJITChannel} {tr : ServiceTrace}

/-- A channel is created by a call that gives out its short channel id. -/
theorem givenOut_of_created (env : Externals) (h : s.created i.call = some (k, ch)) :
    ServiceTrace.GivenOut [(i, (s.step env i).2)] k ch.userChannelId := by
  obtain ⟨call, cm, now⟩ := i
  cases call with
  | invoiceParametersGenerated p requestId scid delta trusts userChannelId =>
    simp only [created] at h
    split at h
    · next req hreq =>
      obtain ⟨rfl, rfl⟩ := Prod.mk.inj (Option.some.inj h)
      refine ⟨_, List.mem_singleton_self _, ?_, requestId, delta, trusts, rfl⟩
      obtain ⟨ps, hps, hreq⟩ := Option.bind_eq_some_iff.1 hreq
      simp only [step, invoiceParametersGenerated, hps, hreq]
    · cases h
  | _ => cases h

/-- The user is told of a channel to open. -/
theorem announced_of_opens (env : Externals) {htlc : InterceptedHTLC} {o : OpenChannelParams}
    (htarget : s.target i.call = some (k, .htlcIntercepted htlc)) (hch : s.channels k = some ch)
    (ho : (ch.step (.htlcIntercepted htlc)).2 = .ok (some (.intercepted (.openChannel o)))) :
    ServiceTrace.Announced [(i, (s.step env i).2)] k o.openingFeeMsat := by
  refine ⟨_, List.mem_singleton_self _, o.amtToForwardMsat, ?_⟩
  obtain ⟨ps, hps, hch⟩ := Option.bind_eq_some_iff.1 hch
  obtain ⟨call, cm, now⟩ := i
  cases Targets.of_target htarget with
  | @htlcIntercepted p scid interceptId amount hash hp =>
    rcases hr : ch.htlcIntercepted ⟨interceptId, amount, hash⟩ with ⟨ch', e | _ | a⟩
    · rw [OutboundJITChannel.step, hr] at ho
      cases ho
    · rw [OutboundJITChannel.step, hr] at ho
      cases ho
    · rw [OutboundJITChannel.step, hr] at ho
      cases ho
      refine ⟨ch'.userChannelId, ?_⟩
      simp only [LSPS2ServiceHandler.step, htlcIntercepted, hp, hps, hch, hr]
      exact List.mem_singleton_self _

/-- A channel is reported ready by the call that makes it so. -/
theorem Recorded.reportedReady_of_target (h : s.Recorded tr) (o : Output) {c : ChannelId}
    (htarget : s.target i.call = some (k, .channelReady c)) :
    ServiceTrace.ReportedReady (tr ++ [(i, o)]) k c := by
  obtain ⟨call, cm, now⟩ := i
  cases Targets.of_target htarget with
  | @channelReady u _ p ps scid hps hscid =>
    have hgiven := h.userIndex (p, u) scid ((userIndex_apply hps u).trans hscid)
    exact ⟨u, hgiven.mono (List.subset_append_left ..), _,
      List.mem_append_right _ (List.mem_singleton_self _), rfl⟩

/-- A payment is reported to be forwarded by the call that makes it so. -/
theorem Recorded.reportedPaid_of_target (h : s.Recorded tr) (o : Output)
    (htarget : s.target i.call = some (k, .paymentForwarded)) :
    ServiceTrace.ReportedPaid (tr ++ [(i, o)]) k := by
  obtain ⟨call, cm, now⟩ := i
  cases Targets.of_target htarget with
  | @paymentForwarded c p ps scid _ hps hscid =>
    have hready := h.channelIndex (p, c) scid ((channelIndex_apply hps c).trans hscid)
    exact ⟨c, hready.mono (List.subset_append_left ..), _,
      List.mem_append_right _ (List.mem_singleton_self _), rfl⟩

/-- The HTLC an operation gives its channel is intercepted by the call. -/
theorem intercepts_of_target {htlc : InterceptedHTLC} (htarget : s.target i.call = some (k, op))
    (hop : op.htlc? = some htlc) : i.call.Intercepts k.2 htlc := by
  generalize i.call = call at htarget ⊢
  cases Targets.of_target htarget with
  | htlcIntercepted =>
    obtain rfl := Option.some.inj hop
    rfl
  | _ => cases hop

/-- What a channel holds or hands out after an operation, it held or was given. -/
theorem mem_held_or_given {htlc : InterceptedHTLC}
    (h : htlc ∈ (ch.step op).1.held ∨ htlc ∈ ChannelEvent.carried (op, (ch.step op).2)) :
    htlc ∈ ch.held ∨ op.htlc? = some htlc := by
  rw [← Option.mem_toList, ← List.mem_append]
  rcases hr : (ch.step op).2 with e | a
  · rw [hr] at h
    exact (OutboundJITChannel.held_of_error hr).mem_iff.1 (h.resolve_right List.not_mem_nil)
  · have hok : (ch.step op).2.isOk = true := hr ▸ rfl
    have hconserves := (ch.transition_step op).conserves fun _ => hok
    rw [ChannelEvent.accepted, if_pos hok] at hconserves
    exact hconserves.mem_iff.1 (List.mem_append.2 h)

/-- What a channel holds after a call, it held before or the call has intercepted. -/
theorem held_step (env : Externals) (i : ServiceInput) :
    ∀ k ch, (s.step env i).1.channels k = some ch → ∀ htlc ∈ ch.held,
      (∃ ch₀, s.channels k = some ch₀ ∧ htlc ∈ ch₀.held) ∨ i.call.Intercepts k.2 htlc := by
  have hs : ∀ k ch, s.channels k = some ch → ∀ htlc ∈ ch.held,
      (∃ ch₀, s.channels k = some ch₀ ∧ htlc ∈ ch₀.held) ∨ i.call.Intercepts k.2 htlc :=
    fun k ch hch htlc hheld => .inl ⟨ch, hch, hheld⟩
  cases channelsStep_step env s i with
  | keep hchannels => rwa [hchannels]
  | remove hchannels =>
    rw [hchannels]
    exact PartialMap.forall_remove hs
  | create hchannels _ hcreated =>
    obtain ⟨_, _, _, -, rfl⟩ := exists_of_created hcreated
    rw [hchannels]
    exact PartialMap.forall_insert hs fun htlc hheld => absurd hheld List.not_mem_nil
  | operate hchannels hch htarget =>
    rw [hchannels]
    refine PartialMap.forall_insert hs fun htlc hheld => ?_
    rcases mem_held_or_given (.inl hheld) with hheld | hgiven
    · exact .inl ⟨_, hch, hheld⟩
    · exact .inr (intercepts_of_target htarget hgiven)

/-- An operation on a channel takes it to a stage recorded after the call. -/
theorem Recorded.stage_step (h : s.Recorded tr) (env : Externals)
    (htarget : s.target i.call = some (k, op)) (hch : s.channels k = some ch) {g g' : Stage}
    (hg : g.Recorded tr k)
    (hstep : g.Step ch.openingFeeParams ch.paymentSizeMsat (op, (ch.step op).2) g') :
    g'.Recorded (tr ++ [(i, (s.step env i).2)]) k := by
  have hmono := hg.mono (List.subset_append_left tr [(i, (s.step env i).2)])
  generalize hr : (ch.step op).2 = r at hstep
  cases hstep with
  | silent | next | forwardPayment | forwardHTLC => exact hmono
  | opens =>
    constructor
    · rintro _ ⟨⟩
      exact (announced_of_opens env htarget hch hr).mono (List.subset_append_right ..)
    · rintro _ ⟨⟩
    · rintro ⟨⟩
  | ready =>
    constructor
    · exact hmono.fee
    · rintro _ ⟨⟩
      exact h.reportedReady_of_target _ htarget
    · rintro ⟨⟩
  | pay =>
    constructor
    · exact hmono.fee
    · exact hmono.channelId
    · exact fun _ => h.reportedPaid_of_target _ htarget

/-- A call records what it makes the service know. -/
theorem Recorded.step (h : s.Recorded tr) (env : Externals) (i : ServiceInput) :
    (s.step env i).1.Recorded (tr ++ [(i, (s.step env i).2)]) := by
  have hleft := List.subset_append_left tr [(i, (s.step env i).2)]
  have hright := List.subset_append_right tr [(i, (s.step env i).2)]
  constructor
  case userIndex =>
    intro e scid he
    rw [userIndex_step] at he
    rcases PartialMap.eq_some_of_elim_insert he with he | ⟨⟨k, ch⟩, hcreated, rfl, rfl⟩
    · exact (h.userIndex e scid he).mono hleft
    · exact (givenOut_of_created env hcreated).mono hright
  case channelIndex =>
    intro e scid he
    rw [channelIndex_step] at he
    rcases PartialMap.eq_some_of_elim_insert he with he | ⟨⟨_, _⟩, hregisters, rfl, rfl⟩
    · exact (h.channelIndex e scid he).mono hleft
    · -- The channel id is reported by this call, for a user channel id given out before it.
      obtain ⟨⟨u, c, p⟩, hready, hregisters⟩ := Option.bind_eq_some_iff.1 hregisters
      obtain ⟨scid, hscid, heq⟩ := Option.map_eq_some_iff.1 hregisters
      obtain ⟨rfl, rfl⟩ := Prod.mk.inj heq
      refine ⟨u, (h.userIndex _ _ hscid).mono hleft, _, hright (List.mem_singleton_self _), ?_⟩
      obtain ⟨call, cm, now⟩ := i
      cases call with
      | channelReady =>
        cases hready
        rfl
      | _ => cases hready
  case held =>
    intro k ch hch htlc hheld
    rcases held_step env i k ch hch htlc hheld with ⟨ch₀, hch₀, hheld₀⟩ | hcall
    · exact (h.held k ch₀ hch₀ htlc hheld₀).mono hleft
    · exact ⟨_, hright (List.mem_singleton_self _), hcall⟩
  case stage =>
    have hs : ∀ k ch, s.channels k = some ch → ∃ g, ch.state.AtStage g ∧
        g.Recorded (tr ++ [(i, (s.step env i).2)]) k := by
      intro k ch hch
      obtain ⟨g, hat, hg⟩ := h.stage k ch hch
      exact ⟨g, hat, hg.mono hleft⟩
    -- A new channel starts at the first stage, and an operation moves one on as recorded.
    cases channelsStep_step env s i with
    | keep hchannels => rwa [hchannels]
    | remove hchannels =>
      rw [hchannels]
      exact PartialMap.forall_remove hs
    | create hchannels _ hcreated =>
      obtain ⟨_, _, _, -, rfl⟩ := exists_of_created hcreated
      rw [hchannels]
      exact PartialMap.forall_insert hs ⟨.requested, rfl, by rintro _ ⟨⟩, by rintro _ ⟨⟩,
        by rintro ⟨⟩⟩
    | @operate k op ch hchannels hch htarget =>
      rw [hchannels]
      obtain ⟨g, hat, hg⟩ := h.stage k ch hch
      obtain ⟨g', hstep, hat'⟩ := (ch.transition_step op).stage hat
      exact PartialMap.forall_insert hs ⟨g', hat', h.stage_step env htarget hch hg hstep⟩

/-- What the service knows in the end of a run is in its trace. -/
theorem Recorded.trace (env : Externals) (secret : List UInt8) (is : List ServiceInput) :
    ((machine env).exec (.new secret) is).Recorded ((machine env).trace (.new secret) is) :=
  ((machine env).along_true _ is).invariant_trace (P := fun tr s => s.Recorded tr)
    (fun _ _ i h _ => h.step env i) (by constructor <;> rintro _ _ ⟨⟩)

/-! ## The calls made to the channel manager -/

/-- What the last call made to the service asks of the channel manager follows from it and the
    calls before. -/
inductive Accounted (past : ServiceTrace) (e : ServiceInput × Output) : List CMCall → Prop
  | nothing : Accounted past e []
  /-- The HTLC just intercepted is failed. -/
  | fails {scid : Scid} {htlc : InterceptedHTLC}
      (h : ServiceTrace.Intercepted [e] scid htlc) :
      Accounted past e [.failInterceptedHtlc htlc.interceptId]
  /-- The fee is taken of the HTLCs of a payment. -/
  | skims {k : PublicKey × Scid} {c : ChannelId} {fee : UInt64} {parts : Parts}
      (hready : ServiceTrace.ReportedReady (past ++ [e]) k c) (hfee : past.Announced k fee)
      (hhtlcs : ∀ e' ∈ parts, ServiceTrace.Intercepted (past ++ [e]) k.2 e'.1)
      (hamounts : ∀ e' ∈ parts, e'.2 ≤ e'.1.expectedOutboundAmountMsat)
      (hdeducted : parts.deducted ≤ fee.toNat) : Accounted past e (parts.calls k.1 c)
  /-- HTLCs are forwarded in full, once the fee has been paid. -/
  | passes {k : PublicKey × Scid} {c : ChannelId} {parts : Parts}
      (hready : ServiceTrace.ReportedReady (past ++ [e]) k c)
      (hpaid : ServiceTrace.ReportedPaid (past ++ [e]) k)
      (hhtlcs : ∀ e' ∈ parts, ServiceTrace.Intercepted (past ++ [e]) k.2 e'.1)
      (hamounts : ∀ e' ∈ parts, e'.2 = e'.1.expectedOutboundAmountMsat) :
      Accounted past e (parts.calls k.1 c)

/-- What a call asks of the channel manager when the channel it operates on takes a step: to fail
    the HTLC intercepted, or to forward the HTLCs handed out, for no more than the fee. -/
theorem exists_parts_of_target (env : Externals) (htarget : s.target i.call = some (k, op))
    (hch : s.channels k = some ch) {g g' : Stage}
    (hstep : g.Step ch.openingFeeParams ch.paymentSizeMsat (op, (ch.step op).2) g') :
    (s.step env i).2.cmCalls = [] ∨
      (∃ htlc, op.htlc? = some htlc ∧
        (s.step env i).2.cmCalls = [.failInterceptedHtlc htlc.interceptId]) ∨
      ∃ c, ∃ parts : Parts, g'.channelId? = some c ∧ (s.step env i).2.cmCalls = parts.calls k.1 c ∧
        (∀ e ∈ parts, e.1 ∈ ChannelEvent.carried (op, (ch.step op).2)) ∧
        ((∃ fee, g.fee? = some fee ∧ (∀ e ∈ parts, e.2 ≤ e.1.expectedOutboundAmountMsat) ∧
            parts.deducted ≤ fee.toNat) ∨
          g'.Charged ∧ ∀ e ∈ parts, e.2 = e.1.expectedOutboundAmountMsat) := by
  rcases hr : (ch.step op).2 with e | a
  · rw [cmCalls_of_error env htarget hch hr]
    cases op.htlc? with
    | none => exact .inl rfl
    | some htlc => exact .inr (.inl ⟨htlc, rfl, rfl⟩)
  rw [hr] at hstep
  have hout := congrArg Prod.fst (output_step env htarget hch (hr ▸ rfl))
  rw [hr] at hout
  rcases hcalls : ChannelEvent.forwardCalls? k.1 (op, .ok a) with _ | all
  · rw [hcalls] at hout
    exact .inl hout
  rw [hcalls] at hout
  have hmade : (s.step env i).2.cmCalls <+: all := by
    rw [show (s.step env i).2.cmCalls = (i.cm.callAll 0 all).1 from hout]
    exact i.cm.callAll_prefix 0 all
  rcases hstep.exists_parts hcalls with rfl | ⟨c, parts, hc, rfl, hmem, hparts⟩
  · exact .inl (List.prefix_nil.1 hmade)
  -- The calls made are those for the first of the HTLCs.
  have htake : (s.step env i).2.cmCalls =
      Parts.calls (parts.take (s.step env i).2.cmCalls.length) k.1 c := by
    rw [Parts.calls, List.map_take]
    exact List.prefix_iff_eq_take.1 hmade
  have hsub := List.take_subset (s.step env i).2.cmCalls.length parts
  refine .inr (.inr ⟨c, _, hc, htake, fun e he => hmem e (hsub he), ?_⟩)
  refine hparts.imp (fun ⟨fee, hfee, hle, hdeducted⟩ => ?_) fun ⟨hcharged, hfull⟩ => ?_
  · exact ⟨fee, hfee, fun e he => hle e (hsub he),
      (Parts.deducted_le_of_prefix (List.take_prefix ..)).trans hdeducted⟩
  · exact ⟨hcharged, fun e he => hfull e (hsub he)⟩

/-- What a call asks of the channel manager is accounted for. -/
theorem Recorded.accounted (h : s.Recorded tr) (env : Externals) (i : ServiceInput) :
    Accounted tr (i, (s.step env i).2) (s.step env i).2.cmCalls := by
  rcases htarget : s.target i.call with _ | ⟨k, op⟩
  · rw [cmCalls_of_target_none env htarget]
    exact .nothing
  obtain ⟨ch, hch, -⟩ := exists_of_target env htarget
  obtain ⟨g, hat, hg⟩ := h.stage k ch hch
  obtain ⟨g', hstep, -⟩ := (ch.transition_step op).stage hat
  have hg' := h.stage_step env htarget hch hg hstep
  rcases exists_parts_of_target env htarget hch hstep with
    hnone | ⟨htlc, hop, hfails⟩ | ⟨c, parts, hc, hcalls, hmem, hparts⟩
  · exact hnone ▸ .nothing
  · exact hfails ▸ .fails ⟨_, List.mem_singleton_self _, intercepts_of_target htarget hop⟩
  have hhtlcs : ∀ e ∈ parts,
      ServiceTrace.Intercepted (tr ++ [(i, (s.step env i).2)]) k.2 e.1 := by
    intro e he
    rcases mem_held_or_given (.inr (hmem e he)) with hheld | hgiven
    · exact (h.held k ch hch e.1 hheld).mono (List.subset_append_left ..)
    · exact ⟨_, List.mem_append_right _ (List.mem_singleton_self _),
        intercepts_of_target htarget hgiven⟩
  rcases hparts with ⟨fee, hfee, hle, hdeducted⟩ | ⟨hcharged, hfull⟩
  · exact hcalls ▸ .skims (hg'.channelId c hc) (hg.fee fee hfee) hhtlcs hle hdeducted
  · exact hcalls ▸ .passes (hg'.channelId c hc) (hg'.charged hcharged) hhtlcs hfull

/-- **All that is forwarded is accounted for.** In every run of the service, what each call asks of
    the channel manager follows from it and the calls before. -/
theorem cmCalls_accounted (env : Externals) (secret : List UInt8) (is : List ServiceInput) :
    ∀ past e post, (machine env).trace (.new secret) is = past ++ e :: post →
      Accounted past e e.2.cmCalls := by
  intro past e post htrace
  obtain ⟨is₁, is₂, -, rfl, hout⟩ := Machine.trace_eq_append_cons htrace
  have haccounted := (Recorded.trace env secret is₁).accounted env e.1
  rwa [show (((machine env).exec (.new secret) is₁).step env e.1).2 = e.2 from hout]
    at haccounted

/-- A payment of two HTLCs pays the fee announced for its channel. -/
theorem cmCalls_accounted_mpp :
    let htlc (id : ℕ) (amount : UInt64) : ServiceInput :=
      (ServiceCall.htlcIntercepted 42 ⟨id⟩ amount ⟨0⟩).sampleInput
    let ready : ServiceInput := (ServiceCall.channelReady 0 ⟨7⟩ ⟨0⟩).sampleInput
    let is := [sampleBuy (some 500), sampleInvoice, htlc 0 200, htlc 1 300]
    let s := (machine sampleExternals).exec (.new []) is
    Accounted ((machine sampleExternals).trace (.new []) is)
      (ready, (s.step sampleExternals ready).2)
      [.forwardInterceptedHtlc ⟨0⟩ ⟨7⟩ ⟨0⟩ 180, .forwardInterceptedHtlc ⟨1⟩ ⟨7⟩ ⟨0⟩ 270] := by
  intro htlc ready is s
  have hcalls : (s.step sampleExternals ready).2.cmCalls =
      [.forwardInterceptedHtlc ⟨0⟩ ⟨7⟩ ⟨0⟩ 180, .forwardInterceptedHtlc ⟨1⟩ ⟨7⟩ ⟨0⟩ 270] := by
    decide
  exact hcalls ▸ cmCalls_accounted sampleExternals [] (is ++ [ready]) _
    (ready, (s.step sampleExternals ready).2) [] rfl

end LSPS2ServiceHandler

end LightningLiquidity
