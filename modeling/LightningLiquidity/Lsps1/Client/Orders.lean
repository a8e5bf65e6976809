import LightningLiquidity.Lsps1.Limits

/-!
# Orders shown to the user

The client shows an order to the user (`Displays`) when the peer confirms the one placed
(`Places`). A channel is in the state of an order placed only since that was placed, and in that
of options received only since those were received; any other call for it that does something
ends either state.

* `Effect.of_places`, `Effect.of_displays`, `Effect.of_announces`: the state a call leaves the
  channel it is about in;
* `displays_placed`: an order shown is the last one placed, and the only one the call shows; it
  matches the options last received when it was placed, and it is shown for the first time.
-/

namespace LightningLiquidity.Lsps1.LSPS1ClientHandler

open InboundRequestState

/-- A call places an order for a channel. -/
def Places (debug : Bool) (s : LSPS1ClientHandler) (call : ClientCall) (p : PublicKey)
    (u : UserChannelId) (x : OrderParams) : Prop :=
  ∃ requestId, call = .placeOrder requestId u p x ∧ (s.step debug call).2.result = .ok

/-- A call shows an order for a channel to the user. -/
def Displays (debug : Bool) (s : LSPS1ClientHandler) (call : ClientCall) (p : PublicKey)
    (u : UserChannelId) (x : OrderParams) : Prop :=
  ∃ payment channel, .displayOrder u p x payment channel ∈ (s.step debug call).2.events

/-- The client awaits the confirmation of an order placed. -/
def HoldsOrder (s : LSPS1ClientHandler) (p : PublicKey) (u : UserChannelId) (x : OrderParams) :
    Prop :=
  ∃ ch, s.channels (p, u) = some ch ∧ ch.state = orderRequested x

/-- A call neither places nor shows an order for a channel, and gives no options for it. -/
structure Passes (debug : Bool) (p : PublicKey) (u : UserChannelId) (s : LSPS1ClientHandler)
    (call : ClientCall) : Prop where
  places : ∀ x, ¬Places debug s call p u x
  displays : ∀ x, ¬Displays debug s call p u x
  announces : ∀ o, ¬s.Announces call p u o

variable {debug : Bool} {s : LSPS1ClientHandler} {p : PublicKey} {u : UserChannelId}
  {o : OptionsSupported} {x : OrderParams} {call : ClientCall}
  {channels' : PartialMap (PublicKey × UserChannelId) InboundCRChannel}
  {requests' : PartialMap (PublicKey × RequestId) UserChannelId} {out : LSPS1ClientOutput}
  {ch : InboundCRChannel}

/-! ## Steps -/

/-- A channel for which options are received has these, if it is still there. -/
theorem Effect.of_announces (h : s.Effect debug call channels' requests' out)
    (hannounces : s.Announces call p u o) (hch : channels' (p, u) = some ch) :
    ch.state = optionsSupport o := by
  obtain ⟨requestId, website, rfl, hreq⟩ := hannounces
  cases h with
  | info hreq' =>
    obtain rfl := Option.some.inj (hreq.symm.trans hreq')
    rw [PartialMap.insert_self] at hch
    obtain rfl := Option.some.inj hch
    rfl
  | reject hreq' =>
    obtain rfl := Option.some.inj (hreq.symm.trans hreq')
    exact absurd rfl (PartialMap.remove_eq_some.1 hch).1
  | acknowledge _ _ hinfo => exact absurd rfl (hinfo _)
  | unknownChannel hreq' hnone =>
    obtain rfl := Option.some.inj (hreq.symm.trans hreq')
    cases hnone.symm.trans hch
  | unknown hnone => cases hnone.symm.trans hreq

/-- An order placed matches the options the client had, and awaits its confirmation. -/
theorem Effect.of_places {requestId : RequestId}
    (h : s.Effect debug (.placeOrder requestId u p x) channels' requests' out)
    (hok : out.result = .ok) :
    (∃ o, s.HoldsOptions p u o ∧ isValid x o = true) ∧
      ∀ ch, channels' (p, u) = some ch → ch.state = orderRequested x := by
  cases h with
  | @order _ _ _ _ _ options hch hst hvalid =>
    refine ⟨⟨options, ⟨_, hch, hst⟩, hvalid⟩, fun ch' hch' => ?_⟩
    rw [PartialMap.insert_self] at hch'
    obtain rfl := Option.some.inj hch'
    rfl
  | refuseOrder | noChannelToOrder => cases hok

/-- An order shown is the one placed, and the only one; its channel does not await its confirmation
    any more. -/
theorem Effect.of_displays (h : s.Effect debug call channels' requests' out)
    {payment : OrderPayment} {channel : Option ChannelInfo}
    (hmem : .displayOrder u p x payment channel ∈ out.events) :
    s.HoldsOrder p u x ∧ out.events = [.displayOrder u p x payment channel] ∧
      ∀ ch, channels' (p, u) = some ch → ∃ orderId, ch.state = pendingPayment orderId := by
  cases h with
  | display hreq hch hst =>
    obtain ⟨rfl, rfl, rfl, rfl, rfl⟩ :=
      LSPS1ClientEvent.displayOrder.inj (List.mem_singleton.1 hmem)
    refine ⟨⟨_, hch, hst⟩, rfl, fun ch hch' => ?_⟩
    rw [PartialMap.insert_self] at hch'
    obtain rfl := Option.some.inj hch'
    exact ⟨_, rfl⟩
  | info => cases List.mem_singleton.1 hmem
  | _ => cases hmem

/-- An order the client awaits the confirmation of after a call it did before, or the call places
    it. -/
theorem Effect.holdsOrder (h : s.Effect debug call channels' requests' out)
    (hch : channels' (p, u) = some ch) (hst : ch.state = orderRequested x) :
    s.HoldsOrder p u x ∨ ∃ requestId, call = .placeOrder requestId u p x ∧ out.result = .ok := by
  -- A channel that a call stores in another state is not the one with the order.
  have hkeep {k : PublicKey × UserChannelId} {ch' : InboundCRChannel}
      (hne : ch'.state ≠ orderRequested x) (h : s.channels.insert k ch' (p, u) = some ch) :
      s.HoldsOrder p u x := by
    rcases PartialMap.insert_eq_some.1 h with ⟨-, rfl⟩ | ⟨-, h⟩
    · exact absurd hst hne
    · exact ⟨ch, h, hst⟩
  cases h with
  | askInfo | info | poll | display | overflow =>
    exact .inl (hkeep InboundRequestState.noConfusion hch)
  | refuseOrder | refusePoll | tooHigh | reject =>
    exact .inl ⟨ch, (PartialMap.remove_eq_some.1 hch).2, hst⟩
  | noChannelToOrder | noChannelToPoll | acknowledge | unknownChannel | unknown | request =>
    exact .inl ⟨ch, hch, hst⟩
  | @order requestId =>
    rcases PartialMap.insert_eq_some.1 hch with ⟨heq, rfl⟩ | ⟨-, h⟩
    · obtain ⟨rfl, rfl⟩ := Prod.mk.inj heq
      obtain rfl := orderRequested.inj hst
      exact .inr ⟨requestId, rfl, rfl⟩
    · exact .inl ⟨ch, h, hst⟩

/-- The client awaits the confirmation of an order since that was placed. -/
theorem holdsOrder_step (h : HoldsOrder (s.step debug call).1 p u x) :
    Places debug s call p u x ∨ (s.HoldsOrder p u x ∧ Passes debug p u s call) := by
  obtain ⟨ch, hch, hst⟩ := h
  have heffect := effect_step debug s call
  rcases heffect.holdsOrder hch hst with hbefore | hplaced
  · by_cases hplaces : Places debug s call p u x
    · exact .inl hplaces
    · refine .inr ⟨hbefore, fun y hy => ?_, fun y ⟨payment, channel, hmem⟩ => ?_, fun o ho => ?_⟩
      · obtain ⟨requestId, rfl, hok⟩ := hy
        obtain rfl := orderRequested.inj (((heffect.of_places hok).2 ch hch).symm.trans hst)
        exact hplaces ⟨requestId, rfl, hok⟩
      · obtain ⟨orderId, hpending⟩ := (heffect.of_displays hmem).2.2 ch hch
        cases hpending.symm.trans hst
      · cases (heffect.of_announces ho hch).symm.trans hst
  · exact .inl hplaced

/-- The client has options since they were received. -/
theorem holdsOptions_step (debug : Bool) (h : HoldsOptions (s.step debug call).1 p u o) :
    s.Announces call p u o ∨ (s.HoldsOptions p u o ∧ ∀ o', ¬s.Announces call p u o') := by
  obtain ⟨ch, hch, hst⟩ := h
  have heffect := effect_step debug s call
  by_cases hannounces : ∃ o', s.Announces call p u o'
  · obtain ⟨o', ho'⟩ := hannounces
    obtain rfl := optionsSupport.inj ((heffect.of_announces ho' hch).symm.trans hst)
    exact .inl ho'
  · exact (heffect.holdsOptions hch hst).symm.imp_right fun hbefore =>
      ⟨hbefore, not_exists.1 hannounces⟩

/-! ## Runs -/

/-- **The client shows the order that was placed.** An order shown for a channel of a peer is the
    one given to the last call that placed one for it, and the only one shown by the call. The
    order matches the options last received for the channel before that; and since then, no order
    was shown for the channel, and no options received. -/
theorem displays_placed (debug : Bool) (config : LSPS1ClientConfig) (calls : List ClientCall)
    (call : ClientCall) (p : PublicKey) (u : UserChannelId) (x : OrderParams)
    (h : Displays debug ((machine debug).exec (new config) calls) call p u x) :
    (∃ payment channel, (((machine debug).exec (new config) calls).step debug call).2.events =
        [.displayOrder u p x payment channel]) ∧
    ∃ before place after o, calls = before ++ place :: after ∧
      Places debug ((machine debug).exec (new config) before) place p u x ∧ isValid x o = true ∧
      (machine debug).Since (fun s call => s.Announces call p u o)
        (fun s call => ∀ o', ¬s.Announces call p u o') (new config) before ∧
      (machine debug).Along (Passes debug p u)
        (((machine debug).exec (new config) before).step debug place).1 after := by
  obtain ⟨payment, channel, hmem⟩ := h
  obtain ⟨hholds, honly, -⟩ := (effect_step debug _ call).of_displays hmem
  refine ⟨⟨payment, channel, honly⟩, ?_⟩
  have hplaced := Machine.since_of_exec (P := fun s => HoldsOrder s p u x)
    (fun s call => holdsOrder_step) hholds
  obtain ⟨⟨ch, hch, -⟩, -⟩ | ⟨before, place, after, rfl, hplaces, hpasses⟩ := hplaced
  · cases hch
  · obtain ⟨requestId, rfl, hok⟩ := id hplaces
    obtain ⟨⟨o, hoptions, hvalid⟩, -⟩ := (effect_step debug _ _).of_places hok
    refine ⟨before, _, after, o, rfl, hplaces, hvalid, ?_, hpasses⟩
    have hreceived := Machine.since_of_exec (P := fun s => HoldsOptions s p u o)
      (fun s call => holdsOptions_step debug) hoptions
    refine hreceived.resolve_left ?_
    rintro ⟨⟨ch, hch, -⟩, -⟩
    cases hch

/-- The order of the examples is shown once it is confirmed. -/
theorem displays_placed_sample :
    ∃ before place after o, [.sendGetInfoRequest ⟨"1"⟩ ⟨1⟩ 0,
        .handleMessage (.response ⟨"1"⟩ (.getInfo ⟨"lsp", sampleOptions⟩)) ⟨1⟩,
        .placeOrder ⟨"2"⟩ 0 ⟨1⟩ sampleOrder] = before ++ place :: after ∧
      Places true ((machine true).exec (new ⟨none⟩) before) place ⟨1⟩ 0 sampleOrder ∧
      isValid sampleOrder o = true := by
  obtain ⟨-, before, place, after, o, hcalls, hplaces, hvalid, -⟩ := displays_placed true ⟨none⟩
    [.sendGetInfoRequest ⟨"1"⟩ ⟨1⟩ 0,
      .handleMessage (.response ⟨"1"⟩ (.getInfo ⟨"lsp", sampleOptions⟩)) ⟨1⟩,
      .placeOrder ⟨"2"⟩ 0 ⟨1⟩ sampleOrder]
    (.handleMessage (.response ⟨"2"⟩ (.createOrder (sampleResponse 5000))) ⟨1⟩) ⟨1⟩ 0 sampleOrder
    ⟨(sampleResponse 5000).payment, none, by decide⟩
  exact ⟨before, place, after, o, hcalls, hplaces, hvalid⟩

end LightningLiquidity.Lsps1.LSPS1ClientHandler
