import LightningLiquidity.Lsps2.Channel.Conservation
import LightningLiquidity.Lsps2.Channel.Coupling
import LightningLiquidity.Lsps2.Channel.Lifecycle

/-!
# When a JIT channel is opened

A channel with an acceptable payment size is opened by the first HTLC with which
the HTLCs of one payment hash amount to at least that size (`opens_iff`).
-/

namespace LightningLiquidity

open OutboundJITChannelState OutboundJITChannel PaymentQueue

variable {params : OpeningFeeParams} {size : Option UInt64} {sz : UInt64} {id : UserChannelId}
  {ops : List ChannelOp} {htlc : InterceptedHTLC}

/-- Without a channel being opened, a channel stays in its initial state. -/
theorem exists_pendingInitialPayment
    (h : ∀ e ∈ machine.trace (new size params id) ops, ChannelEvent.opens? e = none) :
    (∃ q, (machine.exec (new size params id) ops).state = pendingInitialPayment q) ∧
      ∀ e ∈ machine.trace (new size params id) ops, ChannelEvent.forwards? e = none := by
  obtain ⟨g, hg, hpast⟩ := exists_past size params id ops
  -- Every later stage knows the fee, and that only from an opening.
  have hfee : g.fee? = none := by
    refine Option.eq_none_iff_forall_ne_some.2 fun fee hfee => ?_
    obtain ⟨e, he, o, ho, -⟩ := hpast.exists_opens hfee
    cases (h e he).symm.trans ho
  cases g with
  | requested =>
    refine ⟨?_, fun e he => (hpast.requested e he).2⟩
    generalize (machine.exec (new size params id) ops).state = st at hg
    cases st with
    | pendingInitialPayment q => exact ⟨q, rfl⟩
    | paymentForwarded => obtain ⟨fee, hg⟩ := hg; cases hg
    | _ => cases hg
  | _ => cases hfee

/-- In a run that refuses no HTLC, all HTLCs given are accepted. -/
theorem filterMap_accepted {ch : OutboundJITChannel} (h : machine.Along AcceptsHtlc ch ops) :
    (machine.trace ch ops).filterMap ChannelEvent.accepted = ops.filterMap ChannelOp.htlc? := by
  induction ops generalizing ch with
  | nil => rfl
  | cons op ops ih =>
    rw [Machine.trace_cons, List.filterMap_cons, List.filterMap_cons, ih h.2]
    cases hop : op.htlc? with
    | none => simp [ChannelEvent.accepted, hop]
    | some htlc =>
      have hok : (machine.step ch op).2.isOk = true := h.1 (Option.isSome_of_eq_some hop)
      simp [ChannelEvent.accepted, hop, hok]

/-- An action that forwards nothing carries no HTLC. -/
theorem ChannelEvent.carried_eq_nil {e : ChannelEvent} (h : e.forwards? = none) :
    e.carried = [] := by
  rw [forwards?] at h
  rw [carried]
  split <;> simp_all [ChannelAction.channelId?]

/-- Before a channel is opened, it holds the HTLCs it was given. -/
theorem held_of_not_opens (haccepts : machine.Along AcceptsHtlc (new size params id) ops)
    (h : ∀ e ∈ machine.trace (new size params id) ops, ChannelEvent.opens? e = none) :
    (machine.exec (new size params id) ops).held.Perm (ops.filterMap ChannelOp.htlc?) := by
  have hperm := held_append_carried haccepts
  have hcarried : (machine.trace (new size params id) ops).flatMap ChannelEvent.carried = [] :=
    List.flatMap_eq_nil_iff.2 fun e he =>
      ChannelEvent.carried_eq_nil ((exists_pendingInitialPayment h).2 e he)
  rwa [hcarried, List.append_nil, filterMap_accepted haccepts] at hperm

/-- In its initial state, a channel is opened iff the payment of the HTLC given is
    complete with it; the fee and the amount to forward are then its size. -/
theorem OutboundJITChannelState.Transition.opens_iff {q : PaymentQueue}
    {st' : OutboundJITChannelState} {r : ChannelResult}
    (h : Transition params (some sz) (pendingInitialPayment q) (.htlcIntercepted htlc) st' r)
    (hacc : AcceptableSize params sz) (hfits : q.Fits htlc) :
    ((ChannelEvent.opens? (.htlcIntercepted htlc, r)).isSome ↔
        sz.toNat ≤ exactMsat (q.htlcsOf htlc.paymentHash ++ [htlc])) ∧
      ∀ o, ChannelEvent.opens? (.htlcIntercepted htlc, r) = some o →
        o.openingFeeMsat.toNat + o.amtToForwardMsat.toNat = sz.toNat ∧
          0 < o.amtToForwardMsat.toNat := by
  rw [← hfits.toNat_totalMsat, ← UInt64.le_iff_toNat_le]
  cases h with
  | reject hrej => exact absurd hacc (hrej sz rfl)
  | hold hsize hfee hlt =>
    obtain rfl := Option.some.inj hsize
    obtain ⟨fee, hfee', hfeelt⟩ := hacc.fee_lt
    obtain rfl := Option.some.inj (hfee.symm.trans hfee')
    -- An acceptable size exceeds the fee, so the HTLC is held for want of the size.
    exact ⟨iff_of_false Bool.false_ne_true fun hle => hlt ⟨hle, hfeelt⟩, nofun⟩
  | openChannel hsize hfee hlt hle =>
    obtain rfl : sz = _ := by simpa using hsize
    refine ⟨iff_of_true rfl hle, fun o ho => ?_⟩
    obtain rfl := Option.some.inj ho
    have hlt' := UInt64.lt_iff_toNat_lt.1 hlt
    simp only [UInt64.toNat_saturatingSub]
    omega
  | idle h => obtain ⟨_, _, _, h, -⟩ | ⟨_, h, -⟩ := h <;> cases h
  | refuse h => cases h

/-- **When a channel is opened.** As long as no channel has been opened, the next
    HTLC opens one iff with it, the HTLCs given with its payment hash amount to at
    least the payment size. -/
theorem opens_iff (hacc : AcceptableSize params sz)
    (hfits : machine.Along FitsHtlc (new (some sz) params id) (ops ++ [.htlcIntercepted htlc]))
    (h : ∀ e ∈ machine.trace (new (some sz) params id) ops, ChannelEvent.opens? e = none) :
    let e : ChannelEvent := (.htlcIntercepted htlc,
      ((machine.exec (new (some sz) params id) ops).step (.htlcIntercepted htlc)).2)
    (e.opens?.isSome ↔ sz.toNat ≤ exactMsat
        ((ops.filterMap ChannelOp.htlc?).filter (·.paymentHash = htlc.paymentHash) ++ [htlc])) ∧
      ∀ o, e.opens? = some o →
        o.openingFeeMsat.toNat + o.amtToForwardMsat.toNat = sz.toNat ∧
          0 < o.amtToForwardMsat.toNat := by
  intro e
  obtain ⟨⟨q, hq⟩, -⟩ := exists_pendingInitialPayment h
  have hnew : (new (some sz) params id).Acceptable := fun _ h => Option.some.inj h ▸ hacc
  have haccepts := hnew.along_acceptsHtlc rfl ops
  -- The HTLCs queued under the payment hash are those given with it.
  have hheld := held_of_not_opens haccepts h
  rw [OutboundJITChannel.held, hq] at hheld
  have hgiven := (hheld.filter fun given => given.paymentHash = htlc.paymentHash).append_right [htlc]
  rw [OutboundJITChannelState.queue, filter_htlcs] at hgiven
  rw [← exactMsat_perm hgiven]
  have hop := (Machine.along_append.1 hfits).2.1 htlc rfl
  have hstep := transition_step (machine.exec (new (some sz) params id) ops) (.htlcIntercepted htlc)
  rw [exec_openingFeeParams, exec_paymentSizeMsat, hq] at hstep
  rw [hq] at hop
  exact hstep.opens_iff hacc hop

end LightningLiquidity
