import LightningLiquidity.Lib.Ledger
import LightningLiquidity.Lsps2.Channel.Conservation
import LightningLiquidity.Lsps2.Service.Forwarding
import LightningLiquidity.Lsps2.Service.Runs

/-!
# Each HTLC is settled once

The service settles an HTLC by asking the channel manager to forward it, or to fail it
without an error of the latter. It does so at most once for each HTLC intercepted, which until
then is held by one channel at most (`settled_once`): no HTLC is forwarded twice, forwarded
after it was failed, or held by a channel after it has been settled.

This is what a `Ledger` says, of the channels as stores of the HTLCs they hold.

* `cmCalls_of_target_none`, `cmCalls_of_error`: together with `output_step`, all a call
  asks of the channel manager.
-/

namespace LightningLiquidity

open OutboundJITChannelState PaymentQueue

open scoped List

/-- The ids of the HTLCs a channel holds. -/
def OutboundJITChannel.heldIds (ch : OutboundJITChannel) : List InterceptId :=
  ch.held.map InterceptedHTLC.interceptId

/-- The HTLC a call settles if it is answered so. -/
def CMCall.settled? (answer : Except APIError Unit) : CMCall → Option InterceptId
  | forwardInterceptedHtlc interceptId .. => some interceptId
  | failInterceptedHtlc interceptId => if answer.isOk then some interceptId else none

/-- The HTLC given to the service. -/
def ServiceCall.intercepted? : ServiceCall → Option InterceptId
  | htlcIntercepted _ interceptId .. => some interceptId
  | _ => none

/-- An HTLC that is refused is held nonetheless, as long as the channel is. -/
theorem OutboundJITChannel.held_of_error {ch : OutboundJITChannel} {op : ChannelOp}
    {e : ChannelStateError} (h : (ch.step op).2 = .error e) :
    (ch.step op).1.held ~ ch.held ++ op.htlc?.toList := by
  have hstep := ch.transition_step op
  rw [h] at hstep
  simp only [held]
  generalize (ch.step op).1.state = st' at hstep ⊢
  generalize ch.state = st at hstep ⊢
  cases hstep with
  | reject => exact htlcs_of_push ..
  | notReady => exact (List.append_nil _).symm ▸ .refl _
  | refuse hrefuses =>
    rw [hrefuses.htlc?_eq_none]
    exact (List.append_nil _).symm ▸ .refl _

namespace LSPS2ServiceHandler

variable {env : Externals} {s : LSPS2ServiceHandler} {i : ServiceInput} {k : PublicKey × Scid}
  {op : ChannelOp} {ch : OutboundJITChannel}

/-! ## What is asked of the channel manager -/

/-- A call that operates on no channel asks nothing of the channel manager. -/
theorem cmCalls_of_target_none (env : Externals) (h : s.target i.call = none) :
    (s.step env i).2.cmCalls = [] := by
  obtain ⟨call, cm, now⟩ := i
  cases call with
  -- A call that finds a channel on its way through the maps has it as its target.
  | htlcIntercepted scid =>
    simp only [step, htlcIntercepted]
    split
    · next p hp =>
      split
      · next ps hps =>
        split
        · next ch hch => simp [target, hp, channels_apply hps, hch] at h
        · rfl
      · rfl
    · rfl
  | htlcHandlingFailed destination =>
    obtain ⟨node, c⟩ | _ := destination
    · simp only [step, htlcHandlingFailed]
      split
      · next p hp =>
        split
        · next ps hps =>
          split
          · next scid hscid =>
            split
            · next ch hch => simp [target, hp, hps, hscid, channels_apply hps, hch] at h
            · rfl
          · rfl
        · rfl
      · rfl
    · rfl
  | paymentForwarded c =>
    simp only [step, paymentForwarded]
    split
    · next p hp =>
      split
      · next ps hps =>
        split
        · next scid hscid =>
          split
          · next ch hch => simp [target, hp, hps, hscid, channels_apply hps, hch] at h
          · rfl
        · rfl
      · rfl
    · rfl
  | channelReady userChannelId c p =>
    simp only [step, channelReady]
    split
    · next ps hps =>
      split
      · next scid hscid =>
        split
        · next ch hch => simp [target, hps, hscid, channels_apply hps, hch] at h
        · rfl
      · rfl
    · rfl
  -- Messages and the answers to requests are no business of the channel manager.
  | handleMessage message p =>
    simp only [step, handleMessage, handleGetInfoRequest, handleBuyRequest, refuseBuy]
    repeat' split
    all_goals rfl
  | _ =>
    simp only [step, invalidTokenProvided, openingFeeParamsGenerated, respondGetInfo,
      invoiceParametersGenerated]
    repeat' split
    all_goals rfl

/-- An HTLC that the channel refuses is failed, and the channel removed with it unless that is an
    error. -/
theorem htlcIntercepted_of_error (env : Externals) {htlc : InterceptedHTLC} {e : ChannelStateError}
    (htarget : s.target i.call = some (k, .htlcIntercepted htlc)) (hch : s.channels k = some ch)
    (he : (ch.step (.htlcIntercepted htlc)).2 = .error e) :
    (s.step env i).2.cmCalls = [.failInterceptedHtlc htlc.interceptId] ∧
      (i.cm 0 (.failInterceptedHtlc htlc.interceptId) = .ok () →
        (s.step env i).1.channels = s.channels.remove k) := by
  obtain ⟨ps, hps, hch⟩ := Option.bind_eq_some_iff.1 hch
  obtain ⟨call, cm, now⟩ := i
  cases Targets.of_target htarget with
  | @htlcIntercepted p scid interceptId amount hash hp =>
    rcases hr : ch.htlcIntercepted ⟨interceptId, amount, hash⟩ with ⟨ch', e' | a⟩
    · simp only [LSPS2ServiceHandler.step, htlcIntercepted, hp, hps, hch, hr, ChannelManager.callAll]
      rcases cm 0 (.failInterceptedHtlc interceptId) with e'' | ⟨⟩
      · exact ⟨rfl, by rintro ⟨⟩⟩
      · exact ⟨rfl, fun _ =>
          channels_setPeer_remove (channels_apply hps) (PartialMap.remove_insert ..)⟩
    · rw [OutboundJITChannel.step, hr] at he
      cases he

/-- What is asked of the channel manager for an operation that the channel refuses. -/
theorem cmCalls_of_error (env : Externals) {e : ChannelStateError}
    (htarget : s.target i.call = some (k, op)) (hch : s.channels k = some ch)
    (he : (ch.step op).2 = .error e) :
    (s.step env i).2.cmCalls =
      op.htlc?.toList.map fun htlc => .failInterceptedHtlc htlc.interceptId := by
  have hch' := hch
  obtain ⟨ps, hps, hch⟩ := Option.bind_eq_some_iff.1 hch
  obtain ⟨call, cm, now⟩ := i
  cases Targets.of_target htarget with
  | htlcIntercepted => exact (htlcIntercepted_of_error env htarget hch' he).1
  | htlcHandlingFailed hp hps' hscid =>
    obtain rfl := Option.some.inj (hps.symm.trans hps')
    rcases hr : ch.htlcHandlingFailed with ⟨ch₁, e' | a⟩
    · simp only [LSPS2ServiceHandler.step, htlcHandlingFailed, hp, hps, hscid, hch, hr]
      rfl
    · rw [OutboundJITChannel.step, hr] at he
      cases he
  | paymentForwarded hp hps' hscid =>
    obtain rfl := Option.some.inj (hps.symm.trans hps')
    rcases hr : ch.paymentForwarded with ⟨ch₁, e' | a⟩
    · simp only [LSPS2ServiceHandler.step, paymentForwarded, hp, hps, hscid, hch, hr]
      rfl
    · rw [OutboundJITChannel.step, hr] at he
      cases he
  | @channelReady _ c _ _ _ hps' hscid =>
    obtain rfl := Option.some.inj (hps.symm.trans hps')
    rcases hr : ch.channelReady c with ⟨ch₁, e' | a⟩
    · simp only [LSPS2ServiceHandler.step, channelReady, hps, hscid, hch, hr]
      rfl
    · rw [OutboundJITChannel.step, hr] at he
      cases he

/-- The HTLC an operation gives to its channel is the one given to the service. -/
theorem Targets.intercepted?_eq {call : ServiceCall} (h : s.Targets call k op) :
    call.intercepted?.toList = op.htlc?.toList.map InterceptedHTLC.interceptId := by
  cases h <;> rfl

/-! ## The ledger -/

/-- The HTLCs a call settles. -/
def settled (env : Externals) (s : LSPS2ServiceHandler) (i : ServiceInput) : List InterceptId :=
  (s.step env i).2.cmCalls.zipIdx.filterMap fun e => e.1.settled? (i.cm e.2 e.1)

/-- The calls made to forward HTLCs settle those, whatever the answers. -/
theorem filterMap_settled?_calls (cm : ChannelManager) {calls all : List CMCall}
    {htlcs : List InterceptedHTLC} (hmade : calls <+: all)
    (hall : all.map CMCall.forwarded? = htlcs.map fun htlc => some htlc.interceptId) (n : ℕ) :
    (calls.zipIdx n).filterMap (fun e => e.1.settled? (cm e.2 e.1)) <+:
      htlcs.map InterceptedHTLC.interceptId := by
  induction calls generalizing all htlcs n with
  | nil => exact List.nil_prefix
  | cons call calls ih =>
    obtain ⟨rest, rfl⟩ := hmade
    rcases htlcs with _ | ⟨htlc, htlcs⟩
    · cases hall
    · obtain ⟨hcall, hcalls⟩ := List.cons.inj hall
      cases call with
      | failInterceptedHtlc => cases hcall
      | forwardInterceptedHtlc =>
        obtain rfl := Option.some.inj hcall
        exact List.cons_prefix_cons.2 ⟨rfl, ih (List.prefix_append ..) hcalls (n + 1)⟩

/-- The channel a call operates on, which is then stored as the operation leaves it, or removed for
    refusing an HTLC. -/
theorem exists_of_target (env : Externals) (htarget : s.target i.call = some (k, op)) :
    ∃ ch, s.channels k = some ch ∧ ((s.step env i).1.channels = s.channels.insert k (ch.step op).1 ∨
      (s.step env i).1.channels = s.channels.remove k ∧ (ch.step op).2.isOk ≠ true) := by
  cases channelsStep_step env s i with
  | keep _ hno | create _ hno => cases hno.symm.trans htarget
  | operate h hch htarget' =>
    obtain ⟨rfl, rfl⟩ := Prod.mk.inj (Option.some.inj (htarget.symm.trans htarget'))
    exact ⟨_, hch, .inl h⟩
  | remove h hch htarget' _ hrefuses =>
    obtain ⟨rfl, rfl⟩ := Prod.mk.inj (Option.some.inj (htarget.symm.trans htarget'))
    exact ⟨_, hch, .inr ⟨h, fun hok => hrefuses fun _ => hok⟩⟩

/-- An operation that the channel does not refuse settles only HTLCs it had or is given, which it
    does not hold any more. -/
theorem subperm_of_isOk (env : Externals) (htarget : s.target i.call = some (k, op))
    (hch : s.channels k = some ch) (hok : (ch.step op).2.isOk = true) :
    ((ch.step op).1.heldIds ++ settled env s i).Subperm
      (ch.heldIds ++ op.htlc?.toList.map InterceptedHTLC.interceptId) := by
  have htrans := ch.transition_step op
  have hconserves := (htrans.conserves fun _ => hok).map InterceptedHTLC.interceptId
  rw [ChannelEvent.accepted, if_pos hok, List.map_append, List.map_append] at hconserves
  refine .trans (List.Sublist.subperm (List.Sublist.append_left ?_ _)) hconserves.subperm
  have hout := congrArg Prod.fst (output_step env htarget hch hok)
  rw [settled]
  rcases hcalls : ChannelEvent.forwardCalls? k.1 (op, (ch.step op).2) with _ | all
  · -- The fee cannot be split, and no call is made.
    rw [hcalls] at hout
    rw [show (s.step env i).2.cmCalls = [] from hout]
    exact List.nil_sublist _
  · rw [hcalls] at hout
    refine (filterMap_settled?_calls i.cm ?_ (htrans.map_forwarded? hcalls) 0).sublist
    rw [show (s.step env i).2.cmCalls = (i.cm.callAll 0 all).1 from hout]
    exact i.cm.callAll_prefix 0 all

/-- A refused operation settles nothing, or the HTLC it gives, with which the channel is removed. -/
theorem settled_of_error (env : Externals) {e : ChannelStateError}
    (htarget : s.target i.call = some (k, op)) (hch : s.channels k = some ch)
    (he : (ch.step op).2 = .error e) :
    settled env s i = [] ∨ settled env s i = op.htlc?.toList.map InterceptedHTLC.interceptId ∧
      (s.step env i).1.channels = s.channels.remove k := by
  rw [settled, cmCalls_of_error env htarget hch he]
  cases op with
  | htlcIntercepted htlc =>
    have hremove := (htlcIntercepted_of_error env htarget hch he).2
    rcases hcm : i.cm 0 (.failInterceptedHtlc htlc.interceptId) with e' | ⟨⟩
    · left
      simp [ChannelOp.htlc?, CMCall.settled?, hcm, Except.isOk, Except.toBool]
    · right
      exact ⟨by simp [ChannelOp.htlc?, CMCall.settled?, hcm, Except.isOk, Except.toBool],
        hremove hcm⟩
  | channelReady | htlcHandlingFailed | paymentForwarded => exact .inl rfl

/-- A call keeps the ledger, if the HTLC it gives to the service is a new one. -/
theorem ledger_step (env : Externals) {given taken : List InterceptId}
    (h : Ledger OutboundJITChannel.heldIds s.channels given taken)
    (hfresh : i.call.intercepted?.toList.Disjoint taken) :
    Ledger OutboundJITChannel.heldIds (s.step env i).1.channels (given ++ settled env s i)
      (taken ++ i.call.intercepted?.toList) := by
  rcases htarget : s.target i.call with _ | ⟨k, op⟩
  · rw [settled, cmCalls_of_target_none env htarget, List.zipIdx_nil, List.filterMap_nil,
      List.append_nil]
    refine Ledger.mono ?_ (List.subset_append_left ..)
    cases channelsStep_step env s i with
    | keep hchannels => exact hchannels ▸ h
    | create hchannels _ hcreated =>
      -- A new channel holds nothing.
      obtain ⟨_, _, _, -, rfl⟩ := exists_of_created hcreated
      rw [hchannels]
      exact h.insert List.nodup_nil (List.disjoint_nil_left _)
        (fun _ _ _ _ => List.disjoint_nil_left _) (List.nil_subset _)
    | operate _ _ htarget' | remove _ _ htarget' => cases htarget.symm.trans htarget'
  obtain ⟨ch, hch, hchannels⟩ := exists_of_target env htarget
  rw [(Targets.of_target htarget).intercepted?_eq] at hfresh ⊢
  have hnodup : (op.htlc?.toList.map InterceptedHTLC.interceptId).Nodup := by
    cases op.htlc? with
    | none => exact List.nodup_nil
    | some htlc => exact List.nodup_singleton _
  rcases hr : (ch.step op).2 with e | a
  · rcases settled_of_error env htarget hch hr with hnone | ⟨hfailed, hremoved⟩
    · -- What is not settled is held by the channel, if that is kept.
      have hheld := (OutboundJITChannel.held_of_error hr).map InterceptedHTLC.interceptId
      have hsub : ((ch.step op).1.heldIds ++ []).Subperm
          (ch.heldIds ++ op.htlc?.toList.map InterceptedHTLC.interceptId) := by
        rw [List.append_nil]
        exact (List.map_append ▸ hheld).subperm
      have hstored := h.transfer hch hnodup hfresh hsub
      rw [hnone]
      rcases hchannels with hchannels | ⟨hchannels, -⟩
      · rwa [hchannels]
      · rw [hchannels, ← PartialMap.remove_insert]
        exact hstored.remove k
    · rw [hfailed, hremoved, ← PartialMap.remove_insert s.channels k ch]
      exact (h.transfer hch hnodup hfresh (.refl _)).remove k
  · have hok : (ch.step op).2.isOk = true := hr ▸ rfl
    rcases hchannels with hchannels | ⟨-, hno⟩
    · rw [hchannels]
      exact h.transfer hch hnodup hfresh (subperm_of_isOk env htarget hch hok)
    · exact absurd hok hno

/-- **HTLCs are settled once.** In every run of the service to which HTLCs of distinct ids are
    given, each is settled at most once, and is held by one channel at most, and by none once it
    is settled; and no HTLC is held or settled that was not given. -/
theorem settled_once (env : Externals) (secret : List UInt8) (is : List ServiceInput)
    (hids : (is.filterMap fun i => i.call.intercepted?).Nodup) :
    Ledger OutboundJITChannel.heldIds ((machine env).exec (.new secret) is).channels
      ((machine env).gather (settled env) (.new secret) is)
      (is.filterMap fun i => i.call.intercepted?) := by
  induction is using List.reverseRecOn with
  | nil => exact Ledger.empty
  | append_singleton is i ih =>
    rw [List.filterMap_append] at hids ⊢
    have hsingle : [i].filterMap (fun i => i.call.intercepted?) = i.call.intercepted?.toList := by
      cases h : i.call.intercepted? <;> simp [h]
    rw [hsingle] at hids ⊢
    obtain ⟨hinit, -, hdisjoint⟩ := List.nodup_append'.1 hids
    rw [Machine.gather_append, Machine.exec_append, Machine.gather_cons, Machine.gather_nil,
      List.append_nil]
    exact ledger_step env (ih hinit) hdisjoint.symm

/-- A payment of two HTLCs opens a channel, over which another HTLC is forwarded after it. -/
theorem settled_once_mpp :
    let htlc (id : ℕ) (amount : UInt64) (hash : ℕ) : ServiceInput :=
      (ServiceCall.htlcIntercepted 42 ⟨id⟩ amount ⟨hash⟩).sampleInput
    let is := [sampleBuy (some 500), sampleInvoice, htlc 0 200 0, htlc 1 300 0, htlc 2 400 1,
      (ServiceCall.channelReady 0 ⟨7⟩ ⟨0⟩).sampleInput,
      (ServiceCall.paymentForwarded ⟨7⟩).sampleInput]
    Ledger OutboundJITChannel.heldIds ((machine sampleExternals).exec (.new []) is).channels
      [⟨0⟩, ⟨1⟩, ⟨2⟩] [⟨0⟩, ⟨1⟩, ⟨2⟩] := by
  intro htlc is
  have hsettled : (machine sampleExternals).gather (settled sampleExternals) (.new []) is =
      [⟨0⟩, ⟨1⟩, ⟨2⟩] := by decide
  exact hsettled ▸ settled_once sampleExternals [] is (by decide)

end LSPS2ServiceHandler

end LightningLiquidity
