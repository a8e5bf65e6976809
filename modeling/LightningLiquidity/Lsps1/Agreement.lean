import LightningLiquidity.Lsps1.Network
import Mathlib.Data.List.Pairwise

/-!
# Orders are agreed on

In a network of any number of nodes, in which messages may be lost, overtake each other and arrive
again, what a handler tells its user is what the users of the other nodes did, if the ids generated
by a node are distinct (`Network.agreed_of_apart`):

* the options told are those the service is configured with;
* an order the client shows was placed by its user, requested of the user of the service, whose
  options it matches, and is to be paid for as that user said; the service stores it under the same
  terms, or its user was told to refund it;
* orders a service is asked for, to check or to refund were placed and asked for by the user of
  the client.

Everything sent and stored follows from what the trace records (`Network.Agrees`).
-/

namespace LightningLiquidity.Lsps1

open LSPS1ServiceHandler (configOf)

namespace Network

/-- What is sent and stored follows from the trace. -/
structure Agrees (services : PublicKey → LSPS1ServiceConfig) (tr : NetworkTrace) (s : Network) :
    Prop where
  config : ∀ q, (s.service q).config = services q
  offered : ∀ q p requestId result, ⟨q, p, .response requestId (.getInfo result)⟩ ∈ s.sent →
    (services q).website = some result.website ∧
      (services q).optionsSupported = some result.options
  placed : ∀ p q requestId x, ⟨p, q, .request requestId (.createOrder ⟨x⟩)⟩ ∈ s.sent →
    ∃ u, tr.Placed p q u requestId x
  polled : ∀ p q requestId orderId, ⟨p, q, .request requestId (.getOrder ⟨orderId⟩)⟩ ∈ s.sent →
    ∃ u, tr.Polled p q u requestId orderId
  quoted : ∀ q p requestId result, ⟨q, p, .response requestId (.createOrder result)⟩ ∈ s.sent →
    tr.Quoted q p requestId result
  asked : ∀ p q requestId u, (s.client p).requests (q, requestId) = some u →
    tr.Asked p q u requestId
  pending : ∀ q p requestId params,
    (s.service q).pending (p, requestId) = some (.createOrder params) →
    tr.Requested q p requestId params.order
  stored : ∀ q p orderId ch, (s.service q).orders (p, orderId) = some ch →
    ∃ requestId result, tr.Quoted q p requestId result ∧ result.orderId = orderId ∧
      ch.config = configOf result
  requested : ∀ q p requestId x, tr.Requested q p requestId x →
    (∃ u, tr.Placed p q u requestId x) ∧
      ∃ o, (services q).optionsSupported = some o ∧ isValid x o = true
  answers : ∀ q p requestId result, tr.Quoted q p requestId result →
    tr.Requested q p requestId result.order ∧ result.channel = none
  kept : ∀ q p requestId result, tr.Quoted q p requestId result →
    (∃ ch, (s.service q).orders (p, result.orderId) = some ch ∧ ch.config = configOf result) ∨
      tr.Refunded q p result.orderId

variable {debug : Bool} {clients : PublicKey → LSPS1ClientConfig}
  {services : PublicKey → LSPS1ServiceConfig} {tr : NetworkTrace} {s : Network} {i : NetworkInput}

theorem agrees_new : Agrees services [] (new clients services) where
  config _ := rfl
  offered _ _ _ _ h := absurd h List.not_mem_nil
  placed _ _ _ _ h := absurd h List.not_mem_nil
  polled _ _ _ _ h := absurd h List.not_mem_nil
  quoted _ _ _ _ h := absurd h List.not_mem_nil
  asked _ _ _ _ := by rintro ⟨⟩
  pending _ _ _ _ := by rintro ⟨⟩
  stored _ _ _ _ := by rintro ⟨⟩
  requested _ _ _ _ := by
    rintro ⟨_, _, h, _⟩
    cases h
  answers _ _ _ _ h := absurd h List.not_mem_nil
  kept _ _ _ _ h := absurd h List.not_mem_nil

/-! ## Steps -/

/-- A call to a client keeps the agreement. -/
theorem Agrees.step_client (h : Agrees services tr s) (p : PublicKey) (call : ClientCall) :
    Agrees services (tr ++ [(⟨p, .client call⟩, (s.step debug ⟨p, .client call⟩).2)])
      (s.step debug ⟨p, .client call⟩).1 := by
  have heffect := LSPS1ClientHandler.effect_step debug (s.client p) call
  generalize hr : (s.client p).step debug call = r at heffect
  obtain ⟨client, out⟩ := r
  have hstep : s.step debug ⟨p, .client call⟩ = ({ s with
      client := Function.update s.client p client
      sent := s.sent ++ envelopes p out.messages }, .client out) := by
    simp only [step, hr]
  rw [hstep]
  have htr : tr ⊆ tr ++ [(⟨p, .client call⟩, .client out)] := List.subset_append_left ..
  have hlast : (⟨p, .client call⟩, .client out) ∈ tr ++ [(⟨p, .client call⟩, .client out)] :=
    List.mem_append_right _ (List.mem_singleton_self _)
  -- A service has not done anything.
  have hold {q : PublicKey} {call' : ServiceCall} {out' : LSPS1ServiceOutput}
      (hmem : (⟨q, .service call'⟩, .service out') ∈ tr ++ [(⟨p, .client call⟩, .client out)]) :
      (⟨q, .service call'⟩, .service out') ∈ tr :=
    (List.mem_append.1 hmem).resolve_right fun hmem => by cases List.mem_singleton.1 hmem
  have hsent {q q' : PublicKey} {message : LSPS1Message}
      (hmem : ⟨q, q', message⟩ ∈ s.sent ++ envelopes p out.messages) :
      ⟨q, q', message⟩ ∈ s.sent ∨ q = p ∧ (q', message) ∈ out.messages :=
    (List.mem_append.1 hmem).imp_right mem_envelopes.1
  have hrequested {q p' : PublicKey} {r : RequestId} {x : OrderParams}
      (hmem : NetworkTrace.Requested (tr ++ [(⟨p, .client call⟩, .client out)]) q p' r x) :
      tr.Requested q p' r x := by
    obtain ⟨call', out', hmem, hevent⟩ := hmem
    exact ⟨call', out', hold hmem, hevent⟩
  exact {
    config := h.config
    offered := fun q p' r result hmem => by
      rcases hsent hmem with hbefore | ⟨rfl, hnew⟩
      · exact h.offered q p' r result hbefore
      · obtain ⟨_, _, h⟩ | ⟨_, _, _, h, _⟩ | ⟨_, _, _, h, _⟩ := heffect.of_mem_messages hnew <;>
          cases h
    placed := fun q p' r x hmem => by
      rcases hsent hmem with hbefore | ⟨rfl, hnew⟩
      · exact (h.placed q p' r x hbefore).imp fun _ h => h.mono htr
      · obtain ⟨_, _, h⟩ | ⟨_, _, u, h, rfl, hok⟩ | ⟨_, _, _, h, _⟩ :=
          heffect.of_mem_messages hnew <;> cases h
        exact ⟨u, out, hlast, hok⟩
    polled := fun q p' r orderId hmem => by
      rcases hsent hmem with hbefore | ⟨rfl, hnew⟩
      · exact (h.polled q p' r orderId hbefore).imp fun _ h => h.mono htr
      · obtain ⟨_, _, h⟩ | ⟨_, _, _, h, _⟩ | ⟨_, _, u, h, rfl, hok⟩ :=
          heffect.of_mem_messages hnew <;> cases h
        exact ⟨u, out, hlast, hok⟩
    quoted := fun q p' r result hmem => by
      rcases hsent hmem with hbefore | ⟨rfl, hnew⟩
      · exact htr (h.quoted q p' r result hbefore)
      · obtain ⟨_, _, h⟩ | ⟨_, _, _, h, _⟩ | ⟨_, _, _, h, _⟩ := heffect.of_mem_messages hnew <;>
          cases h
    asked := fun q p' r u hreq => by
      by_cases hq : q = p
      · subst hq
        simp only [Function.update_self] at hreq
        rcases heffect.requests_eq_some hreq with hreq | hcall
        · exact (h.asked q p' r u hreq).mono htr
        · exact ⟨call, .client out, hlast, hcall⟩
      · simp only [Function.update_of_ne hq] at hreq
        exact (h.asked q p' r u hreq).mono htr
    pending := fun q p' r params hreq => (h.pending q p' r params hreq).mono htr
    stored := fun q p' orderId ch hch => by
      obtain ⟨r, result, hquoted, horder⟩ := h.stored q p' orderId ch hch
      exact ⟨r, result, htr hquoted, horder⟩
    requested := fun q p' r x hmem =>
      (h.requested q p' r x (hrequested hmem)).imp_left fun h => h.imp fun _ h => h.mono htr
    answers := fun q p' r result hmem =>
      (h.answers q p' r result (hold hmem)).imp_left fun h => h.mono htr
    kept := fun q p' r result hmem =>
      (h.kept q p' r result (hold hmem)).imp_right fun h => h.mono htr }

/-- A call to a service keeps the agreement, if the message it is given was sent, and it does not
    give an order an id given before. -/
theorem Agrees.step_service (h : Agrees services tr s) {p : PublicKey} {call : ServiceCall}
    (hdelivers : s.Delivers ⟨p, .service call⟩)
    (hfresh : ∀ e ∈ tr, e.1.Apart ⟨p, .service call⟩) :
    Agrees services (tr ++ [(⟨p, .service call⟩, (s.step debug ⟨p, .service call⟩).2)])
      (s.step debug ⟨p, .service call⟩).1 := by
  have heffect := LSPS1ServiceHandler.effect_step debug (s.service p) call
  have hconfig := LSPS1ServiceHandler.config_step debug (s.service p) call
  have hoffered (p' : PublicKey) (r : RequestId) (result : GetInfoResponse)
      (hmem : (p', .response r (.getInfo result)) ∈ ((s.service p).step debug call).2.messages) :
      (s.service p).config.website = some result.website ∧
        (s.service p).config.optionsSupported = some result.options :=
    LSPS1ServiceHandler.offered_of_mem_messages hmem
  generalize hr : (s.service p).step debug call = r at heffect hconfig hoffered
  obtain ⟨service, out⟩ := r
  have hstep : s.step debug ⟨p, .service call⟩ = ({ s with
      service := Function.update s.service p service
      sent := s.sent ++ envelopes p out.messages }, .service out) := by
    simp only [step, hr]
  rw [hstep]
  have htr : tr ⊆ tr ++ [(⟨p, .service call⟩, .service out)] := List.subset_append_left ..
  have hlast : (⟨p, .service call⟩, .service out) ∈ tr ++ [(⟨p, .service call⟩, .service out)] :=
    List.mem_append_right _ (List.mem_singleton_self _)
  have hsent {q q' : PublicKey} {message : LSPS1Message}
      (hmem : ⟨q, q', message⟩ ∈ s.sent ++ envelopes p out.messages) :
      ⟨q, q', message⟩ ∈ s.sent ∨ q = p ∧ (q', message) ∈ out.messages :=
    (List.mem_append.1 hmem).imp_right mem_envelopes.1
  have hcases {q : PublicKey} {call' : ServiceCall} {out' : LSPS1ServiceOutput}
      (hmem : (⟨q, .service call'⟩, .service out') ∈ tr ++ [(⟨p, .service call⟩, .service out)]) :
      (⟨q, .service call'⟩, .service out') ∈ tr ∨ q = p ∧ call' = call ∧ out' = out := by
    refine (List.mem_append.1 hmem).imp_right fun hmem => ?_
    cases List.mem_singleton.1 hmem
    exact ⟨rfl, rfl, rfl⟩
  have hquoted {p' : PublicKey} {r : RequestId} {result : CreateOrderResponse}
      (hmem : (p', .response r (.createOrder result)) ∈ out.messages) :
      NetworkTrace.Quoted (tr ++ [(⟨p, .service call⟩, .service out)]) p p' r result := by
    obtain ⟨-, -, rfl, rfl⟩ := heffect.of_createOrder hmem
    exact hlast
  exact {
    config := fun q => by
      by_cases hq : q = p
      · subst hq
        simp only [Function.update_self]
        exact hconfig.trans (h.config q)
      · simp only [Function.update_of_ne hq]
        exact h.config q
    offered := fun q p' r result hmem => by
      rcases hsent hmem with hbefore | ⟨rfl, hnew⟩
      · exact h.offered q p' r result hbefore
      · exact h.config q ▸ hoffered p' r result hnew
    placed := fun q p' r x hmem => by
      rcases hsent hmem with hbefore | ⟨rfl, hnew⟩
      · exact (h.placed q p' r x hbefore).imp fun _ h => h.mono htr
      · exact absurd hnew heffect.not_request
    polled := fun q p' r orderId hmem => by
      rcases hsent hmem with hbefore | ⟨rfl, hnew⟩
      · exact (h.polled q p' r orderId hbefore).imp fun _ h => h.mono htr
      · exact absurd hnew heffect.not_request
    quoted := fun q p' r result hmem => by
      rcases hsent hmem with hbefore | ⟨rfl, hnew⟩
      · exact htr (h.quoted q p' r result hbefore)
      · exact hquoted hnew
    asked := fun q p' r u hreq => (h.asked q p' r u hreq).mono htr
    pending := fun q p' r params hreq => by
      by_cases hq : q = p
      · subst hq
        simp only [Function.update_self] at hreq
        rcases heffect.pending_eq_some hreq with hreq | hevent
        · exact (h.pending q p' r params hreq).mono htr
        · exact ⟨call, out, hlast, hevent⟩
      · simp only [Function.update_of_ne hq] at hreq
        exact (h.pending q p' r params hreq).mono htr
    stored := fun q p' orderId ch hch => by
      have hbefore {ch' : OutboundCRChannel} (hch' : (s.service q).orders (p', orderId) = some ch')
          (heq : ch'.config = ch.config) : ∃ r result,
          NetworkTrace.Quoted (tr ++ [(⟨p, .service call⟩, .service out)]) q p' r result ∧
            result.orderId = orderId ∧ ch.config = configOf result := by
        obtain ⟨r, result, hq, horder, hconfig⟩ := h.stored q p' orderId ch' hch'
        exact ⟨r, result, htr hq, horder, heq ▸ hconfig⟩
      by_cases hq : q = p
      · subst hq
        simp only [Function.update_self] at hch
        rcases heffect.orders_eq_some hch with ⟨ch', hch', heq⟩ | ⟨r, result, hmem, horder⟩
        · exact hbefore hch' heq
        · exact ⟨r, result, hquoted hmem, horder⟩
      · simp only [Function.update_of_ne hq] at hch
        exact hbefore hch rfl
    requested := fun q p' r x hmem => by
      obtain ⟨call', out', hmem, hevent⟩ := hmem
      rcases hcases hmem with hbefore | ⟨rfl, rfl, rfl⟩
      · exact (h.requested q p' r x ⟨call', out', hbefore, hevent⟩).imp_left fun h =>
          h.imp fun _ h => h.mono htr
      · -- The order was received, and so it was sent.
        obtain ⟨rfl, hoptions⟩ := heffect.of_requestForPaymentDetails hevent
        have hplaced := h.placed p' q r x (hdelivers _ rfl)
        exact ⟨hplaced.imp fun _ h => h.mono htr, h.config q ▸ hoptions⟩
    answers := fun q p' r result hmem => by
      rcases hcases hmem with hbefore | ⟨rfl, rfl, rfl⟩
      · exact (h.answers q p' r result hbefore).imp_left fun h => h.mono htr
      · obtain ⟨hreq, hchannel, -, -⟩ := heffect.of_createOrder (List.mem_singleton_self _)
        exact ⟨(h.pending q p' r _ hreq).mono htr, hchannel⟩
    kept := fun q p' r result hmem => by
      rcases hcases hmem with hbefore | ⟨rfl, rfl, rfl⟩
      · rcases h.kept q p' r result hbefore with ⟨ch, hch, heq⟩ | hrefunded
        · by_cases hq : q = p
          · subst hq
            simp only [Function.update_self]
            have hid : ∀ r' p'' payment createdAt expiresAt, call ≠
                .sendPaymentDetails r' p'' result.orderId payment createdAt expiresAt := by
              rintro r' p'' payment createdAt expiresAt rfl
              exact hfresh _ hbefore _ rfl rfl
            rcases heffect.orders_kept hch hid with ⟨ch', hch', heq'⟩ | ⟨r', hevent⟩
            · exact .inl ⟨ch', hch', heq'.trans heq⟩
            · exact .inr ⟨call, out, r', hlast, hevent⟩
          · simp only [Function.update_of_ne hq]
            exact .inl ⟨ch, hch, heq⟩
        · exact .inr (hrefunded.mono htr)
      · simp only [Function.update_self]
        exact .inl (heffect.orders_of_createOrder (List.mem_singleton_self _)) }

/-! ## Runs -/

/-- What a handler tells its user agrees with what was done before. -/
structure Agreed (services : PublicKey → LSPS1ServiceConfig) (tr : NetworkTrace) (s : Network)
    (p : PublicKey) (out : NetworkOutput) : Prop where
  offered : ∀ u q website options, .getInfoResponse u q website options ∈ out.clientEvents →
    (services q).website = some website ∧ (services q).optionsSupported = some options
  displayed : ∀ u q x payment channel, .displayOrder u q x payment channel ∈ out.clientEvents →
    channel = none ∧ ∃ requestId result,
      result.order = x ∧ result.payment = payment ∧ tr.Placed p q u requestId x ∧
      (∃ o, (services q).optionsSupported = some o ∧ isValid x o = true) ∧
      tr.Requested q p requestId x ∧ tr.Quoted q p requestId result ∧
      ((∃ ch, (s.service q).orders (p, result.orderId) = some ch ∧ ch.config = configOf result) ∨
        tr.Refunded q p result.orderId)
  requested : ∀ requestId q x, .requestForPaymentDetails requestId q x ∈ out.serviceEvents →
    ∃ u, tr.Placed q p u requestId x
  checked : ∀ requestId q orderId,
    .checkPaymentConfirmation requestId q orderId ∈ out.serviceEvents ∨
      .refund requestId q orderId ∈ out.serviceEvents →
    (∃ u, tr.Polled q p u requestId orderId) ∧
      ∃ r result, tr.Quoted p q r result ∧ result.orderId = orderId

/-- Two requests of the same id at a client are for the same channel. -/
theorem eq_of_asked {p q q' : PublicKey} {u u' : UserChannelId} {requestId : RequestId}
    {x : OrderParams} (happart : (tr.map Prod.fst).Pairwise NetworkInput.Apart)
    (hasked : tr.Asked p q u requestId) (hplaced : tr.Placed p q' u' requestId x) : u = u' := by
  obtain ⟨call, out, hmem, hcall⟩ := hasked
  obtain ⟨out', hmem', -⟩ := hplaced
  have hsymm : Std.Symm NetworkInput.Apart := ⟨fun i j h g hj hi => h g hi hj⟩
  have hgenerated : NetworkInput.generated? ⟨p, .client call⟩ = some (p, .inl requestId) := by
    rcases hcall with rfl | ⟨y, rfl⟩ | ⟨orderId, rfl⟩ <;> rfl
  have heq : (⟨p, .client call⟩ : NetworkInput) = ⟨p, .client (.placeOrder requestId u' q' x)⟩ := by
    by_contra hne
    exact happart.forall (List.mem_map_of_mem hmem) (List.mem_map_of_mem hmem') hne _ hgenerated rfl
  obtain rfl := NodeCall.client.inj (NetworkInput.mk.inj heq).2
  rcases hcall with hcall | ⟨y, hcall⟩ | ⟨orderId, hcall⟩ <;> cases hcall
  rfl

theorem Agrees.agreed (h : Agrees services tr s)
    (happart : (tr.map Prod.fst).Pairwise NetworkInput.Apart) (hdelivers : s.Delivers i) :
    Agreed services tr s i.node (s.step debug i).2 := by
  obtain ⟨p, call | call⟩ := i
  · have heffect := LSPS1ClientHandler.effect_step debug (s.client p) call
    constructor
    · intro u q website options hmem
      obtain ⟨r, rfl⟩ := heffect.of_getInfoResponse hmem
      exact h.offered q p r _ (hdelivers _ rfl)
    · intro u q x payment channel hmem
      obtain ⟨r, result, rfl, hreq, rfl, rfl, rfl⟩ := heffect.of_displayOrder hmem
      have hquoted := h.quoted q p r result (hdelivers _ rfl)
      obtain ⟨hrequested, hchannel⟩ := h.answers q p r result hquoted
      obtain ⟨⟨u', hplaced⟩, hoptions⟩ := h.requested q p r _ hrequested
      obtain rfl := eq_of_asked happart (h.asked p q r u hreq) hplaced
      exact ⟨hchannel, r, result, rfl, rfl, hplaced, hoptions, hrequested, hquoted,
        h.kept q p r result hquoted⟩
    · exact fun _ _ _ hmem => absurd hmem List.not_mem_nil
    · rintro _ _ _ (hmem | hmem) <;> exact absurd hmem List.not_mem_nil
  · have heffect := LSPS1ServiceHandler.effect_step debug (s.service p) call
    constructor
    · exact fun _ _ _ _ hmem => absurd hmem List.not_mem_nil
    · exact fun _ _ _ _ _ hmem => absurd hmem List.not_mem_nil
    · intro r q x hmem
      obtain ⟨rfl, -⟩ := heffect.of_requestForPaymentDetails hmem
      exact h.placed q p r x (hdelivers _ rfl)
    · intro r q orderId hmem
      obtain ⟨rfl, ch, hch⟩ := heffect.of_check hmem
      obtain ⟨r', result, hquoted, horder, -⟩ := h.stored p q orderId ch hch
      exact ⟨h.polled q p r orderId (hdelivers _ rfl), r', result, hquoted, horder⟩

/-- **Orders are agreed on.** Whatever a handler tells its user in a network of nodes agrees with
    what the users of the other nodes did before, if messages that arrive were sent, and the ids
    generated by a node are distinct. -/
theorem agreed_of_apart (debug : Bool) (clients : PublicKey → LSPS1ClientConfig)
    (services : PublicKey → LSPS1ServiceConfig) (is : List NetworkInput) (i : NetworkInput)
    (hdelivers : (machine debug).Along Delivers (new clients services) (is ++ [i]))
    (happart : (is ++ [i]).Pairwise NetworkInput.Apart) :
    Agreed services ((machine debug).trace (new clients services) is)
      ((machine debug).exec (new clients services) is) i.node
      (((machine debug).exec (new clients services) is).step debug i).2 := by
  rw [Machine.along_append] at hdelivers
  have hpairwise := (List.pairwise_append.1 happart).1
  have hagrees : ((((machine debug).trace (new clients services) is).map Prod.fst).Pairwise
      NetworkInput.Apart → Agrees services ((machine debug).trace (new clients services) is)
        ((machine debug).exec (new clients services) is)) := by
    refine hdelivers.1.invariant_trace (P := fun tr s =>
      (tr.map Prod.fst).Pairwise NetworkInput.Apart → Agrees services tr s) ?_ fun _ => agrees_new
    rintro tr s ⟨p, call | call⟩ h hdelivers happart
    all_goals
      rw [List.map_append, List.pairwise_append] at happart
    · exact (h happart.1).step_client p call
    · refine (h happart.1).step_service hdelivers fun e he => ?_
      exact happart.2.2 _ (List.mem_map_of_mem he) _ (List.mem_singleton_self _)
  rw [Machine.map_fst_trace] at hagrees
  refine (hagrees hpairwise).agreed ?_ hdelivers.2.1
  rwa [Machine.map_fst_trace]

/-- The order of the examples: a client asks for options, and places the order; the user of the
    service says how to pay for it. -/
def sampleOrderInputs : List NetworkInput :=
  [⟨⟨1⟩, .client (.sendGetInfoRequest ⟨"1"⟩ ⟨2⟩ 0)⟩,
   ⟨⟨2⟩, .service (.handleMessage (.request ⟨"1"⟩ (.getInfo {})) ⟨1⟩)⟩,
   ⟨⟨1⟩, .client (.handleMessage (.response ⟨"1"⟩ (.getInfo ⟨"lsp", sampleOptions⟩)) ⟨2⟩)⟩,
   ⟨⟨1⟩, .client (.placeOrder ⟨"2"⟩ 0 ⟨2⟩ sampleOrder)⟩,
   ⟨⟨2⟩, .service (.handleMessage (.request ⟨"2"⟩ (.createOrder ⟨sampleOrder⟩)) ⟨1⟩)⟩,
   ⟨⟨2⟩, .service (.sendPaymentDetails ⟨"2"⟩ ⟨1⟩ ⟨"o"⟩ (sampleResponse 5000).payment ⟨0, 0⟩
      ⟨3600, 0⟩)⟩]

/-- The order of the examples is agreed on when it is shown. -/
theorem agreed_of_apart_sample :
    Agreed (fun _ => ⟨some sampleOptions, some "lsp"⟩)
      ((machine true).trace (new (fun _ => ⟨none⟩) fun _ => ⟨some sampleOptions, some "lsp"⟩)
        sampleOrderInputs)
      ((machine true).exec (new (fun _ => ⟨none⟩) fun _ => ⟨some sampleOptions, some "lsp"⟩)
        sampleOrderInputs) ⟨1⟩
      (.client
        { result := .ok
          events := [.displayOrder 0 ⟨2⟩ sampleOrder (sampleResponse 5000).payment none] }) := by
  refine agreed_of_apart true (fun _ => ⟨none⟩) (fun _ => ⟨some sampleOptions, some "lsp"⟩)
    sampleOrderInputs
    ⟨⟨1⟩, .client (.handleMessage (.response ⟨"2"⟩ (.createOrder (sampleResponse 5000))) ⟨2⟩)⟩
    ?_ (by decide)
  refine ⟨?_, ?_, ?_, ?_, ?_, ?_, ?_, trivial⟩
  all_goals
    intro e he
    cases he
  all_goals decide

end Network

end LightningLiquidity.Lsps1
