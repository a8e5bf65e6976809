import LightningLiquidity.Manager.Enqueued
import LightningLiquidity.Manager.Honest
import Mathlib.Data.List.Pairwise

/-!
# Two managers agree

What the user of one of two managers is told of the other one, the user of this one has
done (`agreed_of_distinct`): offers shown were made in answer to the request, a channel
sold was selected under the terms it is sold under, and both sides know the same short
channel id, fee parameters and payment size of it. This needs what two managers need to
understand each other.

The invariant is `Agreed`: it follows the requests and answers through the queues, and
the texts under way, back to the calls they were made by.
-/

namespace LightningLiquidity

open LiquidityManager

/-- The call of the user of a manager, with the manager it is made to. -/
def LinkInput.made (b : Bool) (s : Link) : LinkInput → List Made
  | call b' i _ => if b' = b then [(s.manager b, i)] else []
  | _ => []

namespace Link

/-! ## What users have done -/

/-- Some call of the user made a request to a peer, under an id. -/
def Asked (past : List Made) (p : PublicKey) (requestId : RequestId) (request : LSPS2Request) :
    Prop := ∃ c ∈ past, c.Asks p requestId request

/-- Offers were made to a buyer, in answer to a request for them made to the seller. -/
def Offered (env : Externals) (sales purchases : List Made) (seller buyer : PublicKey)
    (requestId : RequestId) (menu : List OpeningFeeParams) : Prop :=
  ∃ params, (∃ c ∈ sales, c.Offers env buyer requestId params menu) ∧
    Asked purchases seller requestId (.getInfo params)

/-- A channel was sold to a buyer, in answer to a request to buy it made to the seller. -/
def Sold (sales purchases : List Made) (seller buyer : PublicKey) (requestId : RequestId)
    (req : BuyRequest) (result : BuyResponse) (userChannelId : UserChannelId) (scid : Scid) : Prop :=
  (∃ c ∈ sales, c.Sells buyer requestId req result userChannelId scid) ∧
    Asked purchases seller requestId (.buy req)

/-- What the manager of a key `p` sends to that of `q` comes from calls of both users. -/
inductive Sent (env : Externals) (past past' : List Made) (p q : PublicKey) : LSPSMessage → Prop
  | listProtocols {requestId : RequestId} {request : LSPS0Request} :
      Sent env past past' p q (.lsps0 (.request requestId request))
  | request {requestId : RequestId} {request : LSPS2Request} (h : Asked past q requestId request) :
      Sent env past past' p q (.lsps2 (.request requestId request))
  | protocols {requestId : RequestId} {response : LSPS0Response} :
      Sent env past past' p q (.lsps0 (.response requestId response))
  | menu {requestId : RequestId} {menu : List OpeningFeeParams}
      (h : Offered env past past' p q requestId menu) :
      Sent env past past' p q (.lsps2 (.response requestId (.getInfo ⟨menu⟩)))
  | invoice {requestId : RequestId} {req : BuyRequest} {result : BuyResponse}
      {userChannelId : UserChannelId} {scid : Scid}
      (h : Sold past past' p q requestId req result userChannelId scid) :
      Sent env past past' p q (.lsps2 (.response requestId (.buy result)))
  | invalidToken {requestId : RequestId} {error : ResponseError} :
      Sent env past past' p q (.lsps2 (.response requestId (.getInfoError error)))
  | refuse {requestId : RequestId} {error : ResponseError} :
      Sent env past past' p q (.lsps2 (.response requestId (.buyError error)))

/-- What an event tells the user of the manager of a key `p` agrees with what the user of that
    of `q` has done. -/
def Agrees (env : Externals) (past past' : List Made) (p q : PublicKey) : Event → Prop
  | .lsps0Client (.listProtocolsResponse peer _) =>
    peer = q ∧ ∃ c ∈ past, c.2.call = .listProtocols q
  | .lsps2Client (.openingParametersReady requestId peer menu) =>
    peer = q ∧ Offered env past' past q p requestId menu
  | .lsps2Client (.invoiceParametersReady requestId peer scid cltvExpiryDelta size) =>
    peer = q ∧ ∃ params result userChannelId, result.lspCltvExpiryDelta = cltvExpiryDelta ∧
      Sold past' past q p requestId ⟨params, size⟩ result userChannelId scid
  | .lsps2Service (.getInfo requestId peer token) =>
    peer = q ∧ Asked past' p requestId (.getInfo ⟨token⟩)
  | .lsps2Service (.buyRequest requestId peer params size) =>
    peer = q ∧ Asked past' p requestId (.buy ⟨params, size⟩)
  | .lsps2Service (.openChannel peer amount fee userChannelId scid) =>
    peer = q ∧ ∃ requestId req result expected,
      Sold past past' p q requestId req result userChannelId scid ∧
        (∀ size, req.paymentSizeMsat = some size → expected = size) ∧
        req.openingFeeParams.openingFee expected = some fee ∧
        fee.toNat + amount.toNat = expected.toNat

/-- What the manager `A` of a key `p` keeps and sends agrees with what its user, and that of the
    manager of `q`, have done. -/
structure Agreed (env : Externals) (past past' : List Made) (p q : PublicKey) (A : LiquidityManager)
    (out : List LSPSMessage) : Prop where
  queued : ∀ e ∈ A.pendingMessages, e.1 = q → Sent env past past' p q e.2
  out : ∀ m ∈ out, Sent env past past' p q m
  requests : ∀ k request, A.serviceRequests k = some request → k.1 = q ∧ Asked past' p k.2 request
  purchases : ∀ k ch, A.buyRequests k = some ch →
    ∃ params, Asked past k.1 k.2 (.buy ⟨params, ch.paymentSizeMsat⟩)
  sales : ∀ k ch, A.channels k = some ch → k.1 = q ∧ ∃ requestId result,
    Sold past past' p q requestId ⟨ch.openingFeeParams, ch.paymentSizeMsat⟩ result ch.userChannelId
      k.2
  events : ∀ ev ∈ A.pendingEvents, Agrees env past past' p q ev

variable {env : Externals} {serde : Serde} {past past₂ past' past₂' : List Made} {p q : PublicKey}
  {requestId : RequestId} {A : LiquidityManager} {out : List LSPSMessage}

/-! ## More calls -/

theorem Asked.mono {request : LSPS2Request} (h : Asked past p requestId request)
    (hpast : past ⊆ past₂) : Asked past₂ p requestId request := by
  obtain ⟨c, hc, hasks⟩ := h
  exact ⟨c, hpast hc, hasks⟩

theorem Offered.mono {menu : List OpeningFeeParams} (h : Offered env past past' p q requestId menu)
    (hpast : past ⊆ past₂) (hpast' : past' ⊆ past₂') :
    Offered env past₂ past₂' p q requestId menu := by
  obtain ⟨params, ⟨c, hc, hoffers⟩, hasked⟩ := h
  exact ⟨params, ⟨c, hpast hc, hoffers⟩, hasked.mono hpast'⟩

theorem Sold.mono {req : BuyRequest} {result : BuyResponse} {id : UserChannelId} {scid : Scid}
    (h : Sold past past' p q requestId req result id scid) (hpast : past ⊆ past₂)
    (hpast' : past' ⊆ past₂') : Sold past₂ past₂' p q requestId req result id scid := by
  obtain ⟨⟨c, hc, hsells⟩, hasked⟩ := h
  exact ⟨⟨c, hpast hc, hsells⟩, hasked.mono hpast'⟩

theorem Sent.mono {m : LSPSMessage} (h : Sent env past past' p q m) (hpast : past ⊆ past₂)
    (hpast' : past' ⊆ past₂') : Sent env past₂ past₂' p q m := by
  cases h with
  | listProtocols => exact .listProtocols
  | request h => exact .request (h.mono hpast)
  | protocols => exact .protocols
  | menu h => exact .menu (h.mono hpast hpast')
  | invoice h => exact .invoice (h.mono hpast hpast')
  | invalidToken => exact .invalidToken
  | refuse => exact .refuse

theorem Agrees.mono {ev : Event} (h : Agrees env past past' p q ev) (hpast : past ⊆ past₂)
    (hpast' : past' ⊆ past₂') : Agrees env past₂ past₂' p q ev := by
  cases ev with
  | lsps0Client ev =>
    obtain ⟨hpeer, c, hc, hcall⟩ := h
    exact ⟨hpeer, c, hpast hc, hcall⟩
  | lsps2Client ev =>
    cases ev with
    | openingParametersReady =>
      obtain ⟨hpeer, hoffered⟩ := h
      exact ⟨hpeer, hoffered.mono hpast' hpast⟩
    | invoiceParametersReady =>
      obtain ⟨hpeer, params, result, id, hdelta, hsold⟩ := h
      exact ⟨hpeer, params, result, id, hdelta, hsold.mono hpast' hpast⟩
  | lsps2Service ev =>
    cases ev with
    | getInfo | buyRequest => exact ⟨h.1, h.2.mono hpast'⟩
    | openChannel =>
      obtain ⟨hpeer, requestId, req, result, expected, hsold, hfee⟩ := h
      exact ⟨hpeer, requestId, req, result, expected, hsold.mono hpast hpast', hfee⟩

theorem Agreed.mono (h : Agreed env past past' p q A out) (hpast : past ⊆ past₂)
    (hpast' : past' ⊆ past₂') : Agreed env past₂ past₂' p q A out where
  queued e he hq := (h.queued e he hq).mono hpast hpast'
  out m hm := (h.out m hm).mono hpast hpast'
  requests k request hk := (h.requests k request hk).imp_right fun hasked => hasked.mono hpast'
  purchases k ch hk := (h.purchases k ch hk).imp fun params hasked => hasked.mono hpast
  sales k ch hk := by
    obtain ⟨hpeer, requestId, result, hsold⟩ := h.sales k ch hk
    exact ⟨hpeer, requestId, result, hsold.mono hpast hpast'⟩
  events ev hev := (h.events ev hev).mono hpast hpast'

theorem Agreed.new (serviceConfig : Option LiquidityServiceConfig)
    (clientConfig : Option LiquidityClientConfig) :
    Agreed env [] [] p q (.new serviceConfig clientConfig) [] where
  queued _ he := absurd he List.not_mem_nil
  out _ hm := absurd hm List.not_mem_nil
  requests k request hk := by
    rw [serviceRequests_new] at hk
    cases hk
  purchases k ch hk := by
    rcases clientConfig with _ | ⟨_ | config⟩ <;> cases hk
  sales k ch hk := by
    rcases serviceConfig with _ | ⟨_ | config⟩ <;> cases hk
  events _ hev := absurd hev List.not_mem_nil

/-! ## Calls of the user -/

/-- A call of the user only takes off requests of peers. -/
theorem serviceRequests_of_publicStep {A' : LiquidityManager} {i : ManagerInput}
    (h : PublicStep A A' i) {k : PublicKey × RequestId} {request : LSPS2Request}
    (hk : A'.serviceRequests k = some request) : A.serviceRequests k = some request := by
  cases h with
  | quiet _ hrequests => exact hrequests k request hk
  | ask _ _ _ _ hrequests => exact hrequests ▸ hk
  | answer _ _ _ _ hrequests =>
    rw [hrequests] at hk
    exact (PartialMap.remove_eq_some.1 hk).2

/-- What a call enqueues for the other manager comes from it, and the requests it answers. -/
theorem Agreed.sent (h : Agreed env past past' p q A out) {i : ManagerInput} {m : LSPSMessage}
    (hm : Produces env (A, i) q m) : Sent env (past ++ [(A, i)]) past' p q m := by
  have hlast : (A, i) ∈ past ++ [(A, i)] := List.mem_append_right _ (List.mem_singleton_self _)
  cases hm with
  | listProtocols => exact .listProtocols
  | request hasks => exact .request ⟨_, hlast, hasks⟩
  | menu hoffers => exact .menu ⟨_, ⟨_, hlast, hoffers⟩, (h.requests _ _ hoffers.1).2⟩
  | invoice hsells => exact .invoice ⟨⟨_, hlast, hsells⟩, (h.requests _ _ hsells.1).2⟩
  | invalidToken => exact .invalidToken

/-- A call of the user. -/
theorem Agreed.call (h : Agreed env past past' p q A out) (serde : Serde) {i : ManagerInput}
    (hpublic : i.call.IsPublic) (hdates : i.SelectsAfterEpoch) :
    Agreed env (past ++ [(A, i)]) past' p q (A.step env serde i).1 out := by
  have hlast : (A, i) ∈ past ++ [(A, i)] := List.mem_append_right _ (List.mem_singleton_self _)
  have hpublicStep := (publicStep_step env serde A hpublic hdates).2
  have hmono := h.mono (List.subset_append_left past [(A, i)]) (List.Subset.refl past')
  constructor
  case queued =>
    intro e he hq
    rcases produces_step hpublic he with he | hproduces
    · exact hmono.queued e he hq
    · exact h.sent (hq ▸ hproduces)
  case out => exact hmono.out
  case requests =>
    intro k request hk
    exact hmono.requests k request (serviceRequests_of_publicStep hpublicStep hk)
  case purchases =>
    intro k ch hk
    rcases buyRequests_step hpublic hk with hk | ⟨params, hasks⟩
    · exact hmono.purchases k ch hk
    · exact ⟨params, _, hlast, hasks⟩
  case sales =>
    intro k ch hk
    -- A channel sold now answers a request that is kept, and so was made by the peer.
    rcases channels_step hpublic hk with ⟨ch₀, hk, hch⟩ | ⟨requestId, result, hsells⟩
    · rw [hch]
      exact hmono.sales k ch₀ hk
    · obtain ⟨hpeer, hasked⟩ := h.requests _ _ hsells.1
      exact ⟨hpeer, requestId, result, ⟨_, hlast, hpeer ▸ hsells⟩, hasked⟩
  case events =>
    intro ev hev
    rcases announces_step hpublic hev with hev | hannounces
    · exact hmono.events ev hev
    · cases hannounces with
      | openChannel hch hsize hfee hamount =>
        obtain ⟨hpeer, requestId, result, hsold⟩ := hmono.sales _ _ hch
        exact ⟨hpeer, requestId, _, result, _, hsold, hsize, hfee, hamount⟩

/-! ## Messages -/

/-- Of the entries a list is filtered by, each has a key of its own. -/
theorem eq_of_nodup_map_filterMap {α β γ : Type*} {f : α → Option β} {g : β → γ} {l : List α}
    (h : ((l.filterMap f).map g).Nodup) {a a' : α} (ha : a ∈ l) (ha' : a' ∈ l) {b b' : β}
    (hb : f a = some b) (hb' : f a' = some b') (hkey : g b = g b') : a = a' := by
  rw [List.map_filterMap, List.Nodup, List.pairwise_filterMap] at h
  by_contra hne
  have hsymm : Std.Symm fun a a' =>
      ∀ c, (f a).map g = some c → ∀ c', (f a').map g = some c' → c ≠ c' :=
    ⟨fun _ _ h c hc c' hc' heq => h c' hc' c hc heq.symm⟩
  exact h.forall ha ha' hne (g b) (by rw [hb]; rfl) (g b') (by rw [hb']; rfl) hkey

/-- A user whose requests have ids of their own made one request under an id. -/
theorem Asked.unique {request request' : LSPS2Request}
    (hids : ((past.filterMap fun c => c.2.request?).map fun e => e.2.1).Nodup)
    (h : Asked past p requestId request) (h' : Asked past q requestId request') :
    p = q ∧ request = request' := by
  obtain ⟨c, hc, hasks⟩ := h
  obtain ⟨c', hc', hasks'⟩ := h'
  obtain rfl := eq_of_nodup_map_filterMap hids hc hc' hasks.request? hasks'.request? rfl
  exact callOf_inj (hasks.2.symm.trans hasks'.2)

/-- A message of the other manager. -/
theorem Agreed.handle (h : Agreed env past past' p q A out) {m : LSPSMessage} {now : UInt64}
    (hsent : Sent env past' past q p m)
    (hids : ((past.filterMap fun c => c.2.request?).map fun e => e.2.1).Nodup)
    (hasked : ∀ requestId method, m.getResponseIdAndMethod = some (requestId, method) →
      (q, requestId, method) ∈ past.filterMap fun c => c.2.request?) :
    Agreed env past past' p q (A.handleLspsMessage env now m q).1 out where
  queued e he hq := by
    rcases mem_pendingMessages_of_request he with he | ⟨requestId, ⟨result, hm⟩ | ⟨error, hm⟩⟩
    · exact h.queued e he hq
    · exact hm ▸ .protocols
    · exact hm ▸ .refuse
  out := h.out
  requests k request hk := by
    rcases serviceRequests_handleLspsMessage hk with hk | ⟨hpeer, rfl⟩
    · exact h.requests k request hk
    · cases hsent with
      | request hasked => exact ⟨hpeer, hasked⟩
  purchases k ch hk := h.purchases k ch (buyRequests_handleLspsMessage hk)
  sales k ch hk := h.sales k ch (channels_handleLspsMessage A env now m q ▸ hk)
  events ev hev := by
    rcases reports_handleLspsMessage hev with hev | hreports
    · exact h.events ev hev
    · cases hreports with
      | protocols =>
        obtain ⟨c, hc, hrequest⟩ := List.mem_filterMap.1 (hasked _ _ rfl)
        exact ⟨rfl, c, hc, ManagerInput.call_of_request? hrequest⟩
      | getInfo | buyRequest =>
        cases hsent with
        | request hasked => exact ⟨rfl, hasked⟩
      | menu =>
        cases hsent with
        | menu hoffered => exact ⟨rfl, hoffered⟩
      | invoice hpending hscid =>
        cases hsent with
        | invoice hsold =>
          obtain ⟨params, hpurchase⟩ := h.purchases _ _ hpending
          -- The size is that of the only request under the id.
          obtain ⟨-, hreq⟩ := hpurchase.unique hids hsold.2
          obtain rfl := LSPS2Request.buy.inj hreq
          obtain ⟨c, hc, hrequest, hresult, hcall⟩ := hsold.1
          rw [hresult, InterceptScid.toScid_ofScid] at hscid
          obtain rfl := Option.some.inj hscid
          exact ⟨rfl, params, _, _, rfl, hsold⟩

/-- What is fetched was queued. -/
theorem Agreed.fetch (h : Agreed env past past' p q A out) (serde : Serde) :
    Agreed env past past' p q (A.getAndClearPendingMsg serde).1
      (out ++ (A.parcels serde q).map Parcel.message) where
  queued e he := absurd he List.not_mem_nil
  out m hm := by
    rcases List.mem_append.1 hm with hm | hm
    · exact h.out m hm
    · obtain ⟨c, hc, rfl⟩ := List.mem_map.1 hm
      obtain ⟨e, he, hparcel⟩ := List.mem_filterMap.1 hc
      obtain ⟨text, -, rfl⟩ := Option.map_eq_some_iff.1 hparcel
      obtain ⟨he, hq⟩ := List.mem_filter.1 he
      exact h.queued e he (of_decide_eq_true hq)
  requests := h.requests
  purchases := h.purchases
  sales := h.sales
  events := h.events

/-! ## Runs -/

/-- A manager stays as it is, or takes a step of its own. If that is a call to its service, it is one
    of its user. -/
theorem manager_step (env : Externals) (serde : Serde) (node : Bool → PublicKey) (s : Link)
    (i : LinkInput) (b : Bool) :
    (s.step env serde node i).1.manager b = s.manager b ∨
      ∃ j, (s.step env serde node i).1.manager b = ((s.manager b).step env serde j).1 ∧
        ∀ call, j.call = .service call → (s.manager b, j) ∈ i.made b s := by
  -- Only the manager called, or delivered to, or fetched from, is replaced.
  cases i with
  | call b' i isPublic =>
    by_cases hb : b = b'
    · subst hb
      exact .inr ⟨i, Function.update_self .., fun _ _ => by simp [LinkInput.made]⟩
    · exact .inl (Function.update_of_ne hb ..)
  | fetch b' =>
    by_cases hb : b = b'
    · subst hb
      exact .inr ⟨⟨.getAndClearPendingMsg, fun _ _ => .ok (), 0, []⟩, Function.update_self ..,
        by rintro _ ⟨⟩⟩
    · exact .inl (Function.update_of_ne hb ..)
  | deliver b' now =>
    cases hc : s.inFlight b' with
    | nil => exact .inl (by rw [step_deliver_nil hc])
    | cons c rest =>
      rw [step_deliver hc]
      by_cases hb : b = b'
      · subst hb
        exact .inr ⟨⟨.handleCustomMessage c.text (node !b), fun _ _ => .ok (), now, []⟩,
          Function.update_self .., by rintro _ ⟨⟩⟩
      · exact .inl (Function.update_of_ne hb ..)

/-- What calls to a manager keep, two managers keep. -/
theorem forall_manager_exec {node : Bool → PublicKey} {s : Link} {P : Bool → LiquidityManager → Prop}
    (hstep : ∀ b A i, P b A → P b (A.step env serde i).1) (is : List LinkInput)
    (hs : ∀ b, P b (s.manager b)) : ∀ b, P b (((machine env serde node).exec s is).manager b) := by
  refine ((machine env serde node).along_true s is).invariant
    (P := fun s => ∀ b, P b (s.manager b)) (fun s i hs _ b => ?_) hs
  show P b ((s.step env serde node i).1.manager b)
  rcases manager_step env serde node s i b with h | ⟨j, h, -⟩
  · exact h ▸ hs b
  · exact h ▸ hstep b _ j (hs b)

/-- The calls of the user of a manager in a run. -/
def userCalls (env : Externals) (serde : Serde) (node : Bool → PublicKey) (s : Link)
    (is : List LinkInput) (b : Bool) : List Made :=
  (machine env serde node).gather (fun s i => i.made b s) s is

variable {node : Bool → PublicKey} {s : Link} {is : List LinkInput} {b : Bool}

/-- The requests of a user are those made by its calls. -/
theorem filterMap_userCalls (env : Externals) (serde : Serde) (node : Bool → PublicKey) (s : Link)
    (is : List LinkInput) (b : Bool) :
    (userCalls env serde node s is b).filterMap (fun c => c.2.request?) = requests b is := by
  induction is generalizing s with
  | nil => rfl
  | cons i is ih =>
    have hcons : requests b (i :: is) = (i.request? b).toList ++ requests b is := by
      rw [requests, List.filterMap_cons]
      cases i.request? b <;> rfl
    rw [hcons, userCalls, Machine.gather_cons, List.filterMap_append]
    congr 1
    · cases i with
      | call b' i isPublic =>
        by_cases hb : b' = b
        · simp only [LinkInput.made, LinkInput.request?, hb, if_true, List.filterMap_cons]
          cases i.request? <;> rfl
        · simp only [LinkInput.made, LinkInput.request?, hb, if_false]
          rfl
      | fetch | deliver => rfl
    · exact ih _

theorem userCalls_append_singleton (env : Externals) (serde : Serde) (node : Bool → PublicKey)
    (s : Link) (is : List LinkInput) (i : LinkInput) (b : Bool) :
    userCalls env serde node s (is ++ [i]) b = userCalls env serde node s is b ++
      i.made b ((machine env serde node).exec s is) := by
  rw [userCalls, Machine.gather_append, Machine.gather_cons, Machine.gather_nil, List.append_nil]
  rfl

/-- Two managers agree with what both users have done. -/
def Agree (env : Externals) (node : Bool → PublicKey) (past : Bool → List Made) (s : Link) : Prop :=
  ∀ b, Agreed env (past b) (past !b) (node b) (node !b) (s.manager b)
    ((s.inFlight !b).map Parcel.message)

variable {past : Bool → List Made}

theorem Agree.call (h : Agree env node past s) (serde : Serde) {i : ManagerInput}
    (hpublic : i.call.IsPublic) (hdates : i.SelectsAfterEpoch) :
    Agree env node (fun b' => past b' ++ (LinkInput.call b i hpublic).made b' s)
      (s.step env serde node (.call b i hpublic)).1 := by
  have hmade : (LinkInput.call b i hpublic).made b s = [(s.manager b, i)] := if_pos rfl
  have hnone : (LinkInput.call b i hpublic).made (!b) s = [] := if_neg (Bool.self_ne_not b)
  obtain ⟨hself, hother, hback, hout⟩ := replaces_call env serde node s b i hpublic
  generalize (s.step env serde node (.call b i hpublic)).1 = s' at hself hother hback hout ⊢
  refine (Bool.forall_bool' b).2 ⟨?_, ?_⟩
  · simp only [hmade, hnone, List.append_nil]
    rw [hself, hout]
    exact (h b).call serde hpublic hdates
  · have hagreed := h (!b)
    rw [Bool.not_not] at hagreed ⊢
    simp only [hmade, hnone, List.append_nil]
    rw [hother, hback]
    exact hagreed.mono (List.Subset.refl _) (List.subset_append_left _ _)

theorem Agree.fetch (h : Agree env node past s) (serde : Serde) :
    Agree env node past (s.step env serde node (.fetch b)).1 := by
  obtain ⟨hself, hother, hback, hout⟩ := replaces_fetch env serde node s b
  generalize (s.step env serde node (.fetch b)).1 = s' at hself hother hback hout ⊢
  refine (Bool.forall_bool' b).2 ⟨?_, ?_⟩
  · rw [hself, hout, List.map_append]
    exact (h b).fetch serde
  · have hagreed := h (!b)
    rw [Bool.not_not] at hagreed ⊢
    rw [hother, hback]
    exact hagreed

/-- A text delivered is handled as a message the other manager sent. -/
theorem Agree.deliver (h : Agree env node past s)
    (horderly : s.Orderly serde node fun b => (past b).filterMap fun c => c.2.request?)
    (hids : ∀ b, (((past b).filterMap fun c => c.2.request?).map fun e => e.2.1).Nodup)
    (now : UInt64) : Agree env node past (s.step env serde node (.deliver b now)).1 := by
  cases hc : s.inFlight b with
  | nil =>
    rw [step_deliver_nil hc]
    exact h
  | cons c rest =>
    have hunderstood := horderly.understood hc env now
    have hignored : (s.manager b).ignoredPeers (node !b) = none := by
      rw [horderly.ignoredPeers]
      rfl
    -- The text is read as a message the other manager sent, which it has a reason for.
    have hagreed := h (!b)
    rw [Bool.not_not, hc, List.map_cons] at hagreed
    obtain ⟨hself, hother, hout, hback⟩ := replaces_deliver hc env serde node now
    rw [handleCustomMessage_of_read env now hignored hunderstood.read] at hself
    generalize (LSPSMessage.fromStrWithIdMap serde c.text (s.manager b).requestIdToMethodMap).2 = map
      at hself
    generalize (s.step env serde node (.deliver b now)).1 = s' at hself hother hout hback ⊢
    let A : LiquidityManager := { s.manager b with requestIdToMethodMap := map }
    have hA : Agreed env (past b) (past !b) (node b) (node !b) A
        ((s.inFlight !b).map Parcel.message) := ⟨(h b).queued, (h b).out, (h b).requests,
      (h b).purchases, (h b).sales, (h b).events⟩
    refine (Bool.forall_bool' b).2 ⟨?_, ?_⟩
    · rw [hself, hback]
      exact hA.handle (hagreed.out _ List.mem_cons_self) (hids b) fun requestId method hm =>
        (hunderstood.response requestId method hm).1
    · rw [Bool.not_not, hother, hout]
      exact ⟨hagreed.queued, fun m hm => hagreed.out m (List.mem_cons_of_mem _ hm),
        hagreed.requests, hagreed.purchases, hagreed.sales, hagreed.events⟩

variable {serviceConfig : Bool → Option LiquidityServiceConfig}
  {clientConfig : Bool → Option LiquidityClientConfig}

/-- Two managers agree after every run. -/
theorem agree_exec (hids : ∀ b, ((requests b is).map fun e => e.2.1).Nodup)
    (hfair : (machine env serde node).Along (Fair serde) (new serviceConfig clientConfig) is) :
    Agree env node (userCalls env serde node (new serviceConfig clientConfig) is)
      ((machine env serde node).exec (new serviceConfig clientConfig) is) := by
  induction is using List.reverseRecOn with
  | nil => exact fun b => .new _ _
  | append_singleton is i ih =>
    obtain ⟨hbefore, hi, -⟩ := Machine.along_append.1 hfair
    have hbeforeIds (b : Bool) := nodup_requests_of_append (hids b)
    have h := ih hbeforeIds hbefore
    have horderly := orderly_exec hbeforeIds hbefore
    rw [Machine.exec_append, Machine.exec_cons, Machine.exec_nil]
    have hpast : userCalls env serde node (new serviceConfig clientConfig) (is ++ [i]) = fun b =>
        userCalls env serde node (new serviceConfig clientConfig) is b ++
          i.made b ((machine env serde node).exec (new serviceConfig clientConfig) is) :=
      funext fun b => userCalls_append_singleton ..
    rw [hpast]
    cases i with
    | call b i isPublic => exact h.call serde isPublic hi
    | fetch b =>
      simp only [LinkInput.made, List.append_nil]
      exact h.fetch serde
    | deliver b now =>
      simp only [LinkInput.made, List.append_nil]
      refine h.deliver ?_ ?_ now
      · simpa only [filterMap_userCalls] using horderly
      · simpa only [filterMap_userCalls] using hbeforeIds

/-- **Managers agree.** In every run of two managers in which the ids of requests are distinct,
    no offer is selected that expires before the epoch, and the texts of messages are read
    back: what an event tells the user of one manager agrees with what the user of the other
    has done, and every channel sold is one that the other user selected, with the fee
    parameters and payment size it is sold with. -/
theorem agreed_of_distinct (env : Externals) (serde : Serde) (node : Bool → PublicKey)
    (serviceConfig : Bool → Option LiquidityServiceConfig)
    (clientConfig : Bool → Option LiquidityClientConfig) (is : List LinkInput)
    (hids : ∀ b, ((requests b is).map fun e => e.2.1).Nodup)
    (hfair : (machine env serde node).Along (Fair serde) (new serviceConfig clientConfig) is) :
    let past := userCalls env serde node (new serviceConfig clientConfig) is
    let s := (machine env serde node).exec (new serviceConfig clientConfig) is
    ∀ b, (∀ ev ∈ (s.manager b).pendingEvents, Agrees env (past b) (past !b) (node b) (node !b) ev) ∧
      ∀ k ch, (s.manager b).channels k = some ch → k.1 = node !b ∧ ∃ requestId result,
        Sold (past b) (past !b) (node b) (node !b) requestId
          ⟨ch.openingFeeParams, ch.paymentSizeMsat⟩ result ch.userChannelId k.2 := by
  intro past s b
  have h : Agree env node past s := agree_exec hids hfair
  exact ⟨(h b).events, (h b).sales⟩

set_option maxRecDepth 2000 in
/-- The offer the client is told of is that of the service, and the offer the service is told to
    be bought is the one the client selected. -/
theorem agreed_offers :
    let past := userCalls sampleExternals sampleOfferSerde (fun b => if b then ⟨1⟩ else ⟨0⟩)
      sampleLink sampleOfferRun
    Offered sampleExternals (past true) (past false) ⟨1⟩ ⟨0⟩ ⟨"00000000000000000000000000000000"⟩
        [sampleParams] ∧
      Asked (past false) ⟨1⟩ ⟨"01010101010101010101010101010101"⟩
        (.buy ⟨sampleParams, some 500⟩) := by
  have hids : ∀ b, ((requests b sampleOfferRun).map fun e => e.2.1).Nodup := by decide
  have hagreed := agreed_of_distinct sampleExternals sampleOfferSerde _ _ _ sampleOfferRun hids
    fair_sampleOfferRun
  constructor
  · exact ((hagreed false).1 (.lsps2Client (.openingParametersReady
      ⟨"00000000000000000000000000000000"⟩ ⟨1⟩ [sampleParams])) (by decide +kernel)).2
  · exact ((hagreed true).1 (.lsps2Service (.buyRequest ⟨"01010101010101010101010101010101"⟩ ⟨0⟩
      sampleParams (some 500))) (by decide +kernel)).2

end Link

end LightningLiquidity
