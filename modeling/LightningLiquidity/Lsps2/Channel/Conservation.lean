import LightningLiquidity.Lsps2.Channel.Trace

/-!
# HTLCs are conserved by a JIT channel

The HTLCs a channel has accepted are those it still holds and those carried by
the actions it asked for, each once: none is lost, and none is forwarded twice
(`htlc_conservation`). What an operation refuses, other than an HTLC, changes
nothing (`step_of_error`).
-/

namespace LightningLiquidity

open OutboundJITChannelState PaymentQueue

open scoped List

/-- The HTLCs left after adding one. -/
theorem PaymentQueue.htlcs_of_push (q : PaymentQueue) (htlc : InterceptedHTLC) :
    (q.push htlc).htlcs ~ q.htlcs ++ [htlc] :=
  (q.htlcs_push htlc).trans (List.perm_append_singleton htlc q.htlcs).symm

/-- The HTLCs of a payment taken out of a queue, and those left, are those there
    were. -/
theorem PaymentQueue.htlcs_of_pop {q q' : PaymentQueue} {amount : UInt64}
    {payment : PaymentHash × List InterceptedHTLC}
    (h : q.popGreaterThanMsat amount = (q', some payment)) :
    q'.htlcs ++ payment.2 ~ q.htlcs := by
  obtain ⟨l, r, hq, hq', -⟩ := popGreaterThanMsat_some h
  simp only [PaymentQueue.htlcs, hq, hq', Groups.values_append, Groups.values_cons,
    List.append_assoc]
  exact List.perm_append_comm.append_left _

/-- A transition conserves HTLCs, unless it refuses one. -/
theorem OutboundJITChannelState.Transition.conserves {params : OpeningFeeParams}
    {size : Option UInt64} {st st' : OutboundJITChannelState} {op : ChannelOp} {r : ChannelResult}
    (h : Transition params size st op st' r) (hok : op.htlc?.isSome = true → r.isOk = true) :
    st'.queue.htlcs ++ ChannelEvent.carried (op, r) ~
      st.queue.htlcs ++ (ChannelEvent.accepted (op, r)).toList := by
  cases h with
  | reject => cases hok rfl
  | hold | openChannel | holdOpen | holdForward | holdPayment =>
    exact (List.append_nil _).symm ▸ htlcs_of_push ..
  | ready hpop | next hpop => exact (List.append_nil _).symm ▸ htlcs_of_pop hpop
  | paid => exact (List.append_nil _).symm ▸ .refl _
  | forwardPayment hpop => exact (htlcs_of_pop hpop).trans (htlcs_of_push ..)
  | forwardHTLC => exact .refl _
  | notReady | wait => exact .refl _
  | idle h =>
    obtain ⟨q, fee, c, rfl, rfl⟩ | ⟨c, rfl, rfl | rfl⟩ := h
    all_goals exact .refl _
  | refuse => exact .refl _

variable {ch : OutboundJITChannel} {ops : List ChannelOp}

open OutboundJITChannel

/-- In a run that refuses no HTLC, those held in the end and those carried by the
    actions are those held at first and those accepted. -/
theorem held_append_carried (h : machine.Along AcceptsHtlc ch ops) :
    (machine.exec ch ops).held ++ (machine.trace ch ops).flatMap ChannelEvent.carried ~
      ch.held ++ (machine.trace ch ops).filterMap ChannelEvent.accepted := by
  refine h.invariant_trace (P := fun tr ch' => ch'.held ++ tr.flatMap ChannelEvent.carried ~
    ch.held ++ tr.filterMap ChannelEvent.accepted) (fun tr s op ih hs => ?_) (by simp)
  -- The last action's HTLCs move next to those held, where the step lemma takes
  -- them, and what the step accepted moves to the end.
  have hcomm (l m n : List InterceptedHTLC) : l ++ (m ++ n) ~ l ++ n ++ m := by
    simpa only [List.append_assoc] using List.perm_append_comm.append_left l
  have hstep := (transition_step s op).conserves hs
  have hacc : [(op, (s.step op).2)].filterMap ChannelEvent.accepted =
      (ChannelEvent.accepted (op, (s.step op).2)).toList := by
    cases h : ChannelEvent.accepted (op, (s.step op).2) <;> simp [h]
  rw [List.flatMap_append, List.flatMap_singleton, List.filterMap_append]
  calc (s.step op).1.held ++ (tr.flatMap ChannelEvent.carried ++ _)
    _ ~ (s.step op).1.held ++ ChannelEvent.carried (op, (s.step op).2) ++
        tr.flatMap ChannelEvent.carried := hcomm ..
    _ ~ s.held ++ (ChannelEvent.accepted (op, (s.step op).2)).toList ++
        tr.flatMap ChannelEvent.carried := hstep.append_right _
    _ ~ s.held ++ tr.flatMap ChannelEvent.carried ++
        (ChannelEvent.accepted (op, (s.step op).2)).toList := by
      simpa only [List.append_assoc] using hcomm ..
    _ ~ ch.held ++ (tr.filterMap ChannelEvent.accepted ++
        [(op, (s.step op).2)].filterMap ChannelEvent.accepted) := by
      rw [hacc, ← List.append_assoc]
      exact ih.append_right _

/-- An operation that fails, other than an interception, leaves the channel and
    its queue as they were. -/
theorem step_of_error {op : ChannelOp} {e : ChannelStateError} (hop : op.htlc? = none)
    (h : (ch.step op).2 = .error e) : (ch.step op).1 = ch := by
  have hstep := transition_step ch op
  rw [h] at hstep
  -- Only a refused HTLC stays in the queue of a state that refuses.
  have hst : (ch.step op).1.state = ch.state := by
    generalize (ch.step op).1.state = st' at hstep
    generalize ch.state = st at hstep
    cases hstep with
    | reject => cases hop
    | notReady | refuse => rfl
  rw [step_fst, hst]

/-- The HTLCs accepted are among those given, in order. -/
theorem accepted_sublist (ch : OutboundJITChannel) (ops : List ChannelOp) :
    ((machine.trace ch ops).filterMap ChannelEvent.accepted).Sublist
      (ops.filterMap ChannelOp.htlc?) := by
  induction ops generalizing ch with
  | nil => exact .slnil
  | cons op ops ih =>
    rw [Machine.trace_cons, List.filterMap_cons, List.filterMap_cons]
    cases hop : op.htlc? with
    | none => simpa [ChannelEvent.accepted, hop] using ih _
    | some htlc =>
      by_cases hok : (machine.step ch op).2.isOk = true
      · simpa [ChannelEvent.accepted, hop, hok] using ih _
      · simpa [ChannelEvent.accepted, hop, hok] using (ih _).cons htlc

/-- **Conservation of HTLCs.** In every run of a new channel that refuses no
    HTLC, given HTLCs with distinct ids: the HTLCs accepted are those still held
    together with those carried by the actions, each once; and an operation that
    then fails, other than an interception, changes neither state nor queue. -/
theorem htlc_conservation (size : Option UInt64) (params : OpeningFeeParams) (id : UserChannelId)
    (ops : List ChannelOp) (hrun : machine.Along AcceptsHtlc (new size params id) ops)
    (hids : ((ops.filterMap ChannelOp.htlc?).map InterceptedHTLC.interceptId).Nodup) :
    let ch := machine.exec (new size params id) ops
    let tr := machine.trace (new size params id) ops
    tr.filterMap ChannelEvent.accepted ~ ch.held ++ tr.flatMap ChannelEvent.carried ∧
      ((ch.held ++ tr.flatMap ChannelEvent.carried).map InterceptedHTLC.interceptId).Nodup ∧
      ∀ op e, op.htlc? = none → (ch.step op).2 = .error e → (ch.step op).1 = ch := by
  intro ch tr
  have hperm : ch.held ++ tr.flatMap ChannelEvent.carried ~ tr.filterMap ChannelEvent.accepted :=
    held_append_carried hrun
  refine ⟨hperm.symm, ?_, fun op e hop herr => step_of_error hop herr⟩
  rw [(hperm.map _).nodup_iff]
  exact hids.sublist ((accepted_sublist ..).map _)

/-- A channel opened for a payment of two HTLCs, with another HTLC held that is
    forwarded in the end. -/
theorem htlc_conservation_mpp :
    let ch := new (some 500) sampleParams 0
    let ops : List ChannelOp := [.htlcIntercepted ⟨⟨0⟩, 200, ⟨0⟩⟩, .htlcIntercepted ⟨⟨1⟩, 300, ⟨0⟩⟩,
      .htlcIntercepted ⟨⟨2⟩, 400, ⟨1⟩⟩, .channelReady ⟨7⟩, .paymentForwarded]
    (machine.trace ch ops).filterMap ChannelEvent.accepted ~ (machine.exec ch ops).held ++
      (machine.trace ch ops).flatMap ChannelEvent.carried :=
  (htlc_conservation (some 500) sampleParams 0 _ (by decide) (by decide)).1

end LightningLiquidity
