import LightningLiquidity.Lsps2.Client.Effects

/-!
# Answers to the client

Whatever peers send, the client passes on each answer once, and only to its own request
(`client_answers`): if the ids generated for requests are distinct, an event names a peer
and an id for which a request of the right kind was sent, no two events name the same, and
none names those of a request a peer has refused.

The invariant is `Asked`: requests pending were sent, and neither answered nor refused so
far.
-/

namespace LightningLiquidity

/-- A call to the client, and what it gave. -/
abbrev ClientEntry := ClientCall × LSPS2ClientOutput

/-- The id generated for a request. -/
def ClientCall.generated? : ClientCall → Option RequestId
  | requestOpeningParams requestId .. | selectOpeningParams requestId .. => some requestId
  | handleMessage .. => none

/-- The call that sends a request to a peer, under an id. -/
def LSPS2Request.clientCall (k : PublicKey × RequestId) : LSPS2Request → ClientCall
  | .getInfo params => .requestOpeningParams k.2 k.1 params.token
  | .buy params => .selectOpeningParams k.2 k.1 params.paymentSizeMsat params.openingFeeParams

/-- The peer and the id named by an event. -/
def LSPS2ClientEvent.key : LSPS2ClientEvent → PublicKey × RequestId
  | openingParametersReady requestId p _ => (p, requestId)
  | invoiceParametersReady requestId p .. => (p, requestId)

/-- The event is an answer to a request: of its kind, and with its payment size. -/
def LSPS2ClientEvent.Answers : LSPS2ClientEvent → LSPS2Request → Prop
  | openingParametersReady .., .getInfo _ => True
  | invoiceParametersReady _ _ _ _ paymentSizeMsat, .buy params =>
    params.paymentSizeMsat = paymentSizeMsat
  | _, _ => False

namespace ClientEntry

/-- The call sends a request, to a peer and under an id. -/
def Asks (e : ClientEntry) (k : PublicKey × RequestId) (request : LSPS2Request) : Prop :=
  e.1 = request.clientCall k ∧ e.2.messages = [(k.1, .request k.2 request)]

/-- The request whose refusal is accepted. -/
def refuses? (e : ClientEntry) : Option (PublicKey × RequestId) :=
  match e.1 with
  | .handleMessage (.response requestId (.getInfoError _)) p
  | .handleMessage (.response requestId (.buyError _)) p =>
    if e.2.result = .ok then some (p, requestId) else none
  | _ => none

/-- The requests answered or refused. -/
def closes (e : ClientEntry) : List (PublicKey × RequestId) :=
  e.2.events.map LSPS2ClientEvent.key ++ e.refuses?.toList

end ClientEntry

/-- The ids generated in a run. -/
def generatedIds (tr : List ClientEntry) : List RequestId :=
  (tr.map Prod.fst).filterMap ClientCall.generated?

/-- The requests answered or refused in a run. -/
def closed (tr : List ClientEntry) : List (PublicKey × RequestId) := tr.flatMap ClientEntry.closes

@[simp] theorem generatedIds_append (tr tr' : List ClientEntry) :
    generatedIds (tr ++ tr') = generatedIds tr ++ generatedIds tr' := by
  simp [generatedIds]

@[simp] theorem closed_append_singleton (tr : List ClientEntry) (e : ClientEntry) :
    closed (tr ++ [e]) = closed tr ++ e.closes := by
  simp [closed]

/-- A request that was sent has an id that was generated. -/
theorem ClientEntry.Asks.mem_generatedIds {tr : List ClientEntry} {e : ClientEntry}
    {k : PublicKey × RequestId} {request : LSPS2Request} (h : e.Asks k request) (he : e ∈ tr) :
    k.2 ∈ generatedIds tr := by
  refine List.mem_filterMap.2 ⟨e.1, List.mem_map_of_mem he, ?_⟩
  rw [h.1]
  cases request <;> rfl

/-- Events are among what is closed. -/
theorem events_sublist_closed (tr : List ClientEntry) :
    (tr.flatMap fun e => e.2.events.map LSPS2ClientEvent.key).Sublist (closed tr) := by
  induction tr with
  | nil => exact .slnil
  | cons e tr ih => exact (List.sublist_append_left _ _).append ih

namespace LSPS2ClientHandler

/-- A request is pending. -/
def Pending (s : LSPS2ClientHandler) (k : PublicKey × RequestId) : Prop :=
  (s.getInfoRequests k).isSome ∨ (s.buyRequests k).isSome

/-- The requests pending were sent, under ids of their own, and are neither answered nor
    refused; and no request was answered or refused twice. -/
structure Asked (tr : List ClientEntry) (s : LSPS2ClientHandler) : Prop where
  getInfo : ∀ k, s.getInfoRequests k = some () → ∃ e ∈ tr, ∃ params, e.Asks k (.getInfo params)
  buy : ∀ k ch, s.buyRequests k = some ch →
    ∃ e ∈ tr, ∃ req, e.Asks k (.buy req) ∧ req.paymentSizeMsat = ch.paymentSizeMsat
  disjoint : ∀ k, (s.getInfoRequests k).isSome → s.buyRequests k = none
  pending : ∀ k, s.Pending k → k ∉ closed tr
  nodup : (closed tr).Nodup
  generated : ∀ k ∈ closed tr, k.2 ∈ generatedIds tr

variable {tr : List ClientEntry} {s s' : LSPS2ClientHandler} {e : ClientEntry}
  {k : PublicKey × RequestId}

theorem Asked.new : Asked [] new where
  getInfo _ h := nomatch h
  buy _ _ h := nomatch h
  disjoint _ h := nomatch h
  pending _ _ := List.not_mem_nil
  nodup := List.nodup_nil
  generated _ h := absurd h List.not_mem_nil

/-- The id of a request pending was generated. -/
theorem Asked.mem_generatedIds (h : Asked tr s) (hk : s.Pending k) : k.2 ∈ generatedIds tr := by
  rcases hk with hk | hk
  · obtain ⟨⟨⟩, hk⟩ := Option.isSome_iff_exists.1 hk
    obtain ⟨e, he, params, hasks⟩ := h.getInfo k hk
    exact hasks.mem_generatedIds he
  · obtain ⟨ch, hk⟩ := Option.isSome_iff_exists.1 hk
    obtain ⟨e, he, req, hasks, -⟩ := h.buy k ch hk
    exact hasks.mem_generatedIds he

/-- Nothing is pending or closed under an id not generated before. -/
theorem Asked.fresh (h : Asked tr s) (hk : k.2 ∉ generatedIds tr) :
    s.getInfoRequests k = none ∧ s.buyRequests k = none ∧ k ∉ closed tr := by
  have hpending : ¬s.Pending k := fun hp => hk (h.mem_generatedIds hp)
  rw [Pending, not_or, Option.not_isSome_iff_eq_none, Option.not_isSome_iff_eq_none] at hpending
  exact ⟨hpending.1, hpending.2, fun hc => hk (h.generated k hc)⟩

/-- A call that adds no requests, and closes only such as are pending before but not after. -/
theorem Asked.close (h : Asked tr s)
    (hget : ∀ k, s'.getInfoRequests k = some () → s.getInfoRequests k = some ())
    (hbuy : ∀ k ch, s'.buyRequests k = some ch → s.buyRequests k = some ch)
    (hnodup : e.closes.Nodup) (hcloses : ∀ k ∈ e.closes, s.Pending k ∧ ¬s'.Pending k) :
    Asked (tr ++ [e]) s' where
  getInfo k hk := by
    obtain ⟨e', he', hasks⟩ := h.getInfo k (hget k hk)
    exact ⟨e', List.mem_append_left _ he', hasks⟩
  buy k ch hk := by
    obtain ⟨e', he', hasks⟩ := h.buy k ch (hbuy k ch hk)
    exact ⟨e', List.mem_append_left _ he', hasks⟩
  disjoint k hk := by
    obtain ⟨⟨⟩, hk⟩ := Option.isSome_iff_exists.1 hk
    have hnone := h.disjoint k (Option.isSome_of_eq_some (hget k hk))
    refine Option.eq_none_iff_forall_ne_some.2 fun ch hch => ?_
    cases hnone.symm.trans (hbuy k ch hch)
  pending k hk := by
    -- What is still pending was so before, and is not closed by this call.
    have hbefore : s.Pending k := by
      refine hk.imp (fun hk => ?_) fun hk => ?_
      · obtain ⟨⟨⟩, hk⟩ := Option.isSome_iff_exists.1 hk
        exact Option.isSome_of_eq_some (hget k hk)
      · obtain ⟨ch, hk⟩ := Option.isSome_iff_exists.1 hk
        exact Option.isSome_of_eq_some (hbuy k ch hk)
    rw [closed_append_singleton, List.mem_append, not_or]
    exact ⟨h.pending k hbefore, fun hc => (hcloses k hc).2 hk⟩
  nodup := by
    rw [closed_append_singleton]
    refine h.nodup.append hnodup fun k hk hc => ?_
    exact h.pending k (hcloses k hc).1 hk
  generated k hk := by
    rw [closed_append_singleton, List.mem_append] at hk
    rw [generatedIds_append]
    refine List.mem_append_left _ ?_
    rcases hk with hk | hc
    · exact h.generated k hk
    · exact h.mem_generatedIds (hcloses k hc).1

/-- A call that sends a request under a new id. -/
theorem Asked.ask (h : Asked tr s) (request : LSPS2Request) (hk : k.2 ∉ generatedIds tr)
    (hasks : e.Asks k request) (he : e.closes = [])
    (hget : ∀ k', s'.getInfoRequests k' = some () →
      s.getInfoRequests k' = some () ∨ k' = k ∧ ∃ params, request = .getInfo params)
    (hbuy : ∀ k' ch, s'.buyRequests k' = some ch → s.buyRequests k' = some ch ∨
      k' = k ∧ ∃ req, request = .buy req ∧ req.paymentSizeMsat = ch.paymentSizeMsat) :
    Asked (tr ++ [e]) s' := by
  obtain ⟨hnoget, hnobuy, hnotclosed⟩ := h.fresh hk
  have hlast : e ∈ tr ++ [e] := List.mem_append_right _ (List.mem_singleton_self e)
  have hclosed : closed (tr ++ [e]) = closed tr := by
    rw [closed_append_singleton, he, List.append_nil]
  -- The id is new, so that nothing pending or closed is under it.
  constructor
  case getInfo =>
    intro k' hk'
    rcases hget k' hk' with hk' | ⟨rfl, params, rfl⟩
    · obtain ⟨e', he', hasks'⟩ := h.getInfo k' hk'
      exact ⟨e', List.mem_append_left _ he', hasks'⟩
    · exact ⟨e, hlast, params, hasks⟩
  case buy =>
    intro k' ch hk'
    rcases hbuy k' ch hk' with hk' | ⟨rfl, req, rfl, hsize⟩
    · obtain ⟨e', he', hasks'⟩ := h.buy k' ch hk'
      exact ⟨e', List.mem_append_left _ he', hasks'⟩
    · exact ⟨e, hlast, req, hasks, hsize⟩
  case disjoint =>
    intro k' hk'
    obtain ⟨⟨⟩, hk'⟩ := Option.isSome_iff_exists.1 hk'
    refine Option.eq_none_iff_forall_ne_some.2 fun ch hch => ?_
    -- At most one request is pending under an id: the new one, or one from before.
    rcases hget k' hk' with hk' | ⟨rfl, params, rfl⟩
    · rcases hbuy k' ch hch with hch | ⟨rfl, -⟩
      · cases (h.disjoint k' (Option.isSome_of_eq_some hk')).symm.trans hch
      · cases hnoget.symm.trans hk'
    · rcases hbuy k' ch hch with hch | ⟨-, req, ⟨⟩, -⟩
      cases hnobuy.symm.trans hch
  case pending =>
    rw [hclosed]
    rintro k' (hk' | hk')
    · obtain ⟨⟨⟩, hk'⟩ := Option.isSome_iff_exists.1 hk'
      rcases hget k' hk' with hk' | ⟨rfl, -⟩
      · exact h.pending k' (.inl (Option.isSome_of_eq_some hk'))
      · exact hnotclosed
    · obtain ⟨ch, hk'⟩ := Option.isSome_iff_exists.1 hk'
      rcases hbuy k' ch hk' with hk' | ⟨rfl, -⟩
      · exact h.pending k' (.inr (Option.isSome_of_eq_some hk'))
      · exact hnotclosed
  case nodup => exact hclosed ▸ h.nodup
  case generated =>
    intro k' hk'
    rw [generatedIds_append]
    exact List.mem_append_left _ (h.generated k' (hclosed ▸ hk'))

/-- A call that takes off a `get_info` request, and closes it or nothing. -/
theorem Asked.closeGetInfo (h : Asked tr s) (hk : s.getInfoRequests k = some ())
    (hget : s'.getInfoRequests = s.getInfoRequests.remove k)
    (hbuy : s'.buyRequests = s.buyRequests) (he : e.closes.Sublist [k]) : Asked (tr ++ [e]) s' := by
  refine h.close (fun k' hk' => ?_) (fun k' ch hk' => hbuy ▸ hk') (he.nodup (List.nodup_singleton k))
    fun k' hc => ?_
  · rw [hget] at hk'
    exact (PartialMap.remove_eq_some.1 hk').2
  · obtain rfl := List.mem_singleton.1 (he.subset hc)
    refine ⟨.inl (Option.isSome_of_eq_some hk), ?_⟩
    rw [Pending, hget, hbuy, h.disjoint k' (Option.isSome_of_eq_some hk)]
    simp

/-- A call that takes off a `buy` request, and closes it or nothing. -/
theorem Asked.closeBuy (h : Asked tr s) {ch : InboundJITChannel} (hk : s.buyRequests k = some ch)
    (hget : s'.getInfoRequests = s.getInfoRequests)
    (hbuy : s'.buyRequests = s.buyRequests.remove k) (he : e.closes.Sublist [k]) :
    Asked (tr ++ [e]) s' := by
  refine h.close (fun k' hk' => hget ▸ hk') (fun k' ch' hk' => ?_) (he.nodup (List.nodup_singleton k))
    fun k' hc => ?_
  · rw [hbuy] at hk'
    exact (PartialMap.remove_eq_some.1 hk').2
  · obtain rfl := List.mem_singleton.1 (he.subset hc)
    have hnoget : ¬(s.getInfoRequests k').isSome := fun hget => by
      cases (h.disjoint k' hget).symm.trans hk
    refine ⟨.inr (Option.isSome_of_eq_some hk), ?_⟩
    rw [Pending, hget, hbuy]
    simpa using hnoget

/-- A call keeps requests asked for, if the id it generates is new. -/
theorem Asked.step (h : Asked tr s) (call : ClientCall)
    (hfresh : ∀ requestId, call.generated? = some requestId → requestId ∉ generatedIds tr) :
    Asked (tr ++ [(call, (s.step call).2)]) (s.step call).1 := by
  have heffect := s.effect_step call
  generalize (s.step call).1 = s', (s.step call).2 = out at heffect ⊢
  generalize hget : s'.getInfoRequests = get, hbuy : s'.buyRequests = buy at heffect
  cases heffect with
  | @askGetInfo requestId p token =>
    refine h.ask (k := (p, requestId)) (.getInfo ⟨token⟩) (hfresh _ rfl) ⟨rfl, rfl⟩ rfl
      (fun k hk => ?_) fun k ch hk => .inl (hbuy ▸ hk)
    rw [hget, PartialMap.insert_eq_some] at hk
    exact hk.symm.imp (fun hk => hk.2) fun hk => ⟨hk.1, _, rfl⟩
  | @askBuy requestId p size params =>
    refine h.ask (k := (p, requestId)) (.buy ⟨params, size⟩) (hfresh _ rfl) ⟨rfl, rfl⟩ rfl
      (fun k hk => .inl (hget ▸ hk)) fun k ch hk => ?_
    rw [hbuy, PartialMap.insert_eq_some] at hk
    exact hk.symm.imp (fun hk => hk.2) fun hk =>
      ⟨hk.1, _, rfl, congrArg InboundJITChannel.paymentSizeMsat hk.2⟩
  | @askAgain requestId p _ _ hdup =>
    -- A new id is not that of a request pending.
    have hnone := (h.fresh (k := (p, requestId)) (hfresh _ rfl)).2.1
    rw [hnone] at hdup
    cases hdup
  | getInfo hk | getInfoError hk => exact h.closeGetInfo hk hget hbuy (List.Sublist.refl _)
  | buy hk | buyError hk => exact h.closeBuy hk hget hbuy (List.Sublist.refl _)
  | buyInvalid hk => exact h.closeBuy hk hget hbuy (List.nil_sublist _)
  | @unknown requestId p response e hk =>
    refine h.close (fun k hk => hget ▸ hk) (fun k ch hk => hbuy ▸ hk) ?_ ?_ <;> cases response
    all_goals simp [ClientEntry.closes, ClientEntry.refuses?]
  | request =>
    refine h.close (fun k hk => hget ▸ hk) (fun k ch hk => hbuy ▸ hk) ?_ ?_
    all_goals simp [ClientEntry.closes, ClientEntry.refuses?]

/-- An event answers a request that was sent. -/
theorem Asked.answers (h : Asked tr s) (call : ClientCall) :
    ∀ ev ∈ (s.step call).2.events,
      ∃ e ∈ tr, ∃ request, e.Asks ev.key request ∧ ev.Answers request := by
  have heffect := s.effect_step call
  intro ev hev
  generalize (s.step call).1.getInfoRequests = get, (s.step call).1.buyRequests = buy,
    (s.step call).2 = out at heffect hev
  cases heffect with
  | getInfo hk =>
    obtain rfl := List.mem_singleton.1 hev
    obtain ⟨e, he, params, hasks⟩ := h.getInfo _ hk
    exact ⟨e, he, .getInfo params, hasks, trivial⟩
  | buy hk =>
    obtain rfl := List.mem_singleton.1 hev
    obtain ⟨e, he, req, hasks, hsize⟩ := h.buy _ _ hk
    exact ⟨e, he, .buy req, hasks, hsize⟩
  | _ => cases hev

/-- Requests pending in a run were asked for in it. -/
theorem asked_exec {is : List ClientCall} (hids : (is.filterMap ClientCall.generated?).Nodup) :
    Asked (machine.trace .new is) (machine.exec .new is) := by
  refine (machine.along_true .new is).invariant_trace
    (P := fun tr s => (generatedIds tr).Nodup → Asked tr s) (fun tr s call h _ hnodup => ?_)
    (fun _ => .new) ?_
  · rw [generatedIds_append, List.nodup_append] at hnodup
    refine (h hnodup.1).step call fun requestId hcall hmem => ?_
    exact hnodup.2.2 _ hmem requestId (by simp [generatedIds, hcall]) rfl
  · rwa [generatedIds, Machine.map_fst_trace]

end LSPS2ClientHandler

open LSPS2ClientHandler

/-- **Answers to the client.** If the ids generated are distinct, then in every run each
    event answers a request that was sent before, to the peer it names and under the id it
    names; no two events name the same; and none names those of a request after its refusal
    was accepted. -/
theorem client_answers (is : List ClientCall)
    (hids : (is.filterMap ClientCall.generated?).Nodup) :
    let tr := LSPS2ClientHandler.machine.trace .new is
    (∀ pre e post, tr = pre ++ e :: post → ∀ ev ∈ e.2.events,
      ∃ e' ∈ pre, ∃ request, ClientEntry.Asks e' ev.key request ∧ ev.Answers request) ∧
    (tr.flatMap fun e => e.2.events.map LSPS2ClientEvent.key).Nodup ∧
    ∀ pre e post, tr = pre ++ e :: post → ∀ k, ClientEntry.refuses? e = some k →
      ∀ e' ∈ post, ∀ ev ∈ e'.2.events, ev.key ≠ k := by
  intro tr
  have hasked : Asked tr _ := asked_exec hids
  refine ⟨fun pre e post htr => ?_, ?_, ?_⟩
  · obtain ⟨is₁, is₂, rfl, rfl, hout⟩ := Machine.trace_eq_append_cons htr
    rw [List.filterMap_append] at hids
    rw [← hout]
    exact (asked_exec hids.of_append_left).answers e.1
  · exact hasked.nodup.sublist (events_sublist_closed tr)
  · intro pre e post htr k hk e' he' ev hev hkey
    have hnodup := hasked.nodup
    rw [htr, closed, List.flatMap_append, List.flatMap_cons] at hnodup
    have hrefused : k ∈ ClientEntry.closes e :=
      List.mem_append_right _ (Option.mem_toList.2 hk)
    have hafter : k ∈ post.flatMap ClientEntry.closes :=
      List.mem_flatMap.2 ⟨e', he', List.mem_append_left _ (hkey ▸ List.mem_map_of_mem hev)⟩
    exact (List.nodup_append.1 (List.nodup_append.1 hnodup).2.1).2.2 k hrefused k hafter rfl

/-- A menu is asked for and answered; a channel is asked for, and refused. -/
theorem client_answers_two :
    let tr := LSPS2ClientHandler.machine.trace .new
      [.requestOpeningParams ⟨"1"⟩ ⟨0⟩ none,
        .handleMessage (.response ⟨"1"⟩ (.getInfo ⟨[]⟩)) ⟨0⟩,
        .selectOpeningParams ⟨"2"⟩ ⟨0⟩ none ⟨10, 0, ⟨0, 0⟩, 0, 0, 0, 0, ""⟩,
        .handleMessage (.response ⟨"2"⟩ (.buyError ⟨2, "", none⟩)) ⟨0⟩]
    (∀ pre e post, tr = pre ++ e :: post → ∀ ev ∈ e.2.events,
      ∃ e' ∈ pre, ∃ request, ClientEntry.Asks e' ev.key request ∧ ev.Answers request) ∧
    (tr.flatMap fun e => e.2.events.map LSPS2ClientEvent.key).Nodup ∧
    ∀ pre e post, tr = pre ++ e :: post → ∀ k, ClientEntry.refuses? e = some k →
      ∀ e' ∈ post, ∀ ev ∈ e'.2.events, ev.key ≠ k :=
  client_answers _ (by decide)

end LightningLiquidity
