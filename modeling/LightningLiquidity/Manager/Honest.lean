import LightningLiquidity.Lsps2.Promise
import LightningLiquidity.Manager.Accounts
import LightningLiquidity.Manager.Panics

/-!
# Two managers understand each other

Two managers never ignore each other, and every text one sends is read by the other as the
message it was written from (`understood_of_distinct`): a response as one to the request
made under its id, which is accepted, or reported if it is an error of LSPS0. This needs
ids of requests that are distinct, no offers selected that expire before the epoch, and texts
that are read back.

The invariant is `Orderly`: the requests of both are accounted for, none is ignored, and what
is queued and under way is as managers send it.
-/

namespace LightningLiquidity

open LiquidityManager

/-- The text is that of the message, which is read back, and as managers send it. -/
structure Parcel.Written (serde : Serde) (c : Parcel) : Prop where
  text : serde.writeJson (c.message.serialize serde) = some c.text
  roundTrips : serde.RoundTrips c.message
  proper : c.message.Proper

/-- The request the user of a manager makes. -/
def LinkInput.request? (b : Bool) : LinkInput → Option (PublicKey × RequestId × LSPSMethod)
  | call b' i _ => if b' = b then i.request? else none
  | _ => none

namespace Link

/-- The requests the user of a manager makes. -/
def requests (b : Bool) (is : List LinkInput) : List (PublicKey × RequestId × LSPSMethod) :=
  is.filterMap (LinkInput.request? b)

/-- What is fetched is read back, and offers selected do not expire before the epoch. -/
def Fair (serde : Serde) (s : Link) : LinkInput → Prop
  | .call _ i _ => i.SelectsAfterEpoch
  | .fetch b => ∀ e ∈ (s.manager b).pendingMessages, serde.RoundTrips e.2
  | .deliver _ _ => True

/-- The requests of both managers are accounted for, none is ignored, and what is queued and
    under way is as managers send it. -/
structure Orderly (serde : Serde) (node : Bool → PublicKey)
    (asked : Bool → List (PublicKey × RequestId × LSPSMethod)) (s : Link) : Prop where
  accounted : ∀ b, Accounted (asked b) (s.manager b) (s.manager !b) (node b) (node !b)
    ((s.inFlight !b).map Parcel.message) ((s.inFlight b).map Parcel.message)
  ignoredPeers : ∀ b, (s.manager b).ignoredPeers = .empty
  proper : ∀ b, ∀ e ∈ (s.manager b).pendingMessages, e.2.Proper
  written : ∀ b, ∀ c ∈ s.inFlight b, c.Written serde

variable {env : Externals} {serde : Serde} {node : Bool → PublicKey}
  {asked : Bool → List (PublicKey × RequestId × LSPSMethod)} {s : Link} {b : Bool}

theorem serviceRequests_new (serviceConfig : Option LiquidityServiceConfig)
    (clientConfig : Option LiquidityClientConfig) :
    (LiquidityManager.new serviceConfig clientConfig).serviceRequests = .empty := by
  rcases serviceConfig with _ | ⟨_ | config⟩ <;> rfl

theorem Orderly.new (serviceConfig : Bool → Option LiquidityServiceConfig)
    (clientConfig : Bool → Option LiquidityClientConfig) :
    Orderly serde node (fun _ => []) (new serviceConfig clientConfig) where
  accounted b := by
    have hnone (k : PublicKey × RequestId) :
        (LiquidityManager.new (serviceConfig !b) (clientConfig !b)).serviceRequests k = none := by
      rw [serviceRequests_new]
      rfl
    have hzero (id : RequestId) : tally (.new (serviceConfig b) (clientConfig b))
        (.new (serviceConfig !b) (clientConfig !b)) (node b) [] [] id = 0 := by
      rw [tally, openTally, hnone]
      rfl
    refine ⟨fun id => (hzero id).trans_le (Nat.zero_le _), fun id hpos => ?_,
      fun e he => absurd he List.not_mem_nil, fun id method ho => ?_⟩
    · exact absurd (hzero id) hpos.ne'
    · exact absurd (hzero id) (ho.openTally_pos.trans_le (Nat.le_add_left _ _)).ne'
  ignoredPeers _ := rfl
  proper _ _ he := absurd he List.not_mem_nil
  written _ _ hc := absurd hc List.not_mem_nil

/-- A call of a user. -/
theorem Orderly.call (h : s.Orderly serde node asked) {i : ManagerInput} (hpublic : i.call.IsPublic)
    (hdates : i.SelectsAfterEpoch)
    (hnodup : ((asked b ++ i.request?.toList).map fun e => e.2.1).Nodup) :
    (s.setManager b ((s.manager b).step env serde i).1).Orderly serde node
      (Function.update asked b (asked b ++ i.request?.toList)) := by
  obtain ⟨hkeeps, hstep⟩ := publicStep_step env serde (s.manager b) hpublic hdates
  generalize ((s.manager b).step env serde i).1 = A at hkeeps hstep ⊢
  have hnot : (!b) ≠ b := Bool.not_ne_self b
  have hself : (s.setManager b A).manager b = A := Function.update_self ..
  have hother : (s.setManager b A).manager (!b) = s.manager (!b) := Function.update_of_ne hnot ..
  refine ⟨(Bool.forall_bool' b).2 ⟨?_, ?_⟩, (Bool.forall_bool' b).2 ⟨?_, ?_⟩,
    (Bool.forall_bool' b).2 ⟨fun e he => ?_, ?_⟩, h.written⟩
  · rw [hself, hother, Function.update_self]
    exact (h.accounted b).publicStep_left hkeeps hstep hnodup
  · rw [Bool.not_not, hself, hother, Function.update_of_ne hnot]
    have haccounted := h.accounted (!b)
    rw [Bool.not_not] at haccounted
    exact haccounted.publicStep_right hstep
  · rw [hself, hkeeps.ignoredPeers, h.ignoredPeers]
  · rw [hother, h.ignoredPeers]
  · rw [hself] at he
    cases hstep with
    | quiet hpending => exact h.proper b e (hpending ▸ he)
    | ask _ _ hproper hpending | answer _ _ hproper hpending =>
      rw [hpending] at he
      rcases List.mem_append.1 he with he | he
      · exact h.proper b e he
      · obtain rfl := List.mem_singleton.1 he
        exact hproper
  · rw [hother]
    exact h.proper (!b)

/-- A fetch from a manager. -/
theorem Orderly.fetch (h : s.Orderly serde node asked) (env : Externals)
    (hserde : ∀ e ∈ (s.manager b).pendingMessages, serde.RoundTrips e.2)
    (hnodup : ((asked b).map fun e => e.2.1).Nodup) :
    (s.step env serde node (.fetch b)).1.Orderly serde node asked := by
  obtain ⟨hself, hother, hback, hout⟩ := replaces_fetch env serde node s b
  generalize (s.step env serde node (.fetch b)).1 = s' at hself hother hback hout ⊢
  -- What was queued for the other manager is under way to it, the rest of the queue goes elsewhere.
  refine ⟨(Bool.forall_bool' b).2 ⟨?_, ?_⟩, (Bool.forall_bool' b).2 ⟨?_, ?_⟩,
    (Bool.forall_bool' b).2 ⟨fun e he => ?_, ?_⟩, (Bool.forall_bool' b).2 ⟨?_, fun c hc => ?_⟩⟩
  · rw [hself, hother, hout, hback, List.map_append]
    exact (h.accounted b).fetch_left hnodup serde
  · have haccounted := h.accounted (!b)
    rw [Bool.not_not] at haccounted ⊢
    rw [hself, hother, hout, hback, List.map_append]
    exact haccounted.fetch_right serde
  · rw [hself]
    exact h.ignoredPeers b
  · rw [hother, h.ignoredPeers]
  · rw [hself] at he
    exact absurd he List.not_mem_nil
  · rw [hother]
    exact h.proper (!b)
  · rw [hback]
    exact h.written b
  · rw [hout] at hc
    rcases List.mem_append.1 hc with hc | hc
    · exact h.written (!b) c hc
    · obtain ⟨e, he, hparcel⟩ := List.mem_filterMap.1 hc
      obtain ⟨text, htext, rfl⟩ := Option.map_eq_some_iff.1 hparcel
      have hmem := (List.mem_filter.1 he).1
      exact ⟨htext, hserde e hmem, h.proper b e hmem⟩

/-- A text is read as the message it was written from, and handled: a response as one to the
    request made under its id, which is accepted, or reported if it is an error of LSPS0. -/
structure Understood (env : Externals) (serde : Serde) (node : Bool → PublicKey)
    (asked : List (PublicKey × RequestId × LSPSMethod)) (s : Link) (b : Bool) (now : UInt64)
    (c : Parcel) : Prop where
  read : (LSPSMessage.fromStrWithIdMap serde c.text (s.manager b).requestIdToMethodMap).1 =
    some c.message
  returns : (s.step env serde node (.deliver b now)).2 ≠ .panic
  response : ∀ requestId method,
    c.message.getResponseIdAndMethod = some (requestId, method) →
      (node !b, requestId, method) ∈ asked ∧
        ((s.step env serde node (.deliver b now)).2 = .ok ∨
          ∃ error, c.message = .lsps0 (.response requestId (.listProtocolsError error)) ∧
            (s.step env serde node (.deliver b now)).2 =
              .err (.lsps0 (.listProtocolsErrorReceived error)))

/-- What handling a message of the other manager does, given the requests made to it. -/
inductive Handled (asked : List (PublicKey × RequestId × LSPSMethod)) (q : PublicKey)
    (m : LSPSMessage) (s : LiquidityManager) (r : LiquidityManager × Outcome ManagerError) : Prop
  | request {requestId : RequestId} {method : LSPSMethod}
      (hm : m.getRequestIdAndMethod = some (requestId, method)) (hkeeps : Keeps s r.1)
      (hstep : RequestStep q requestId method s r.1)
  | response {requestId : RequestId} {method : LSPSMethod}
      (hm : m.getResponseIdAndMethod = some (requestId, method))
      (hasked : (q, requestId, method) ∈ asked)
      (hstep : ResponseStep requestId
        { s with requestIdToMethodMap := s.requestIdToMethodMap.remove requestId } r.1)
      (hresult : r.2 = .ok ∨ ∃ error, m = .lsps0 (.response requestId (.listProtocolsError error)) ∧
        r.2 = .err (.lsps0 (.listProtocolsErrorReceived error)))

/-- What is queued then is as managers send it. -/
theorem Handled.proper {asked : List (PublicKey × RequestId × LSPSMethod)} {q : PublicKey}
    {m : LSPSMessage} {s : LiquidityManager} {r : LiquidityManager × Outcome ManagerError}
    (h : Handled asked q m s r) (hproper : ∀ e ∈ s.pendingMessages, e.2.Proper) :
    ∀ e ∈ r.1.pendingMessages, e.2.Proper := by
  cases h with
  | request hm hkeeps hstep =>
    cases hstep with
    | drop hpending hrequests | keep hmethod hpending hrequests => rwa [hpending]
    | answer hm' hanswer hpending hrequests =>
      intro e he
      rw [hpending] at he
      rcases List.mem_append.1 he with he | he
      · exact hproper e he
      · obtain rfl := List.mem_singleton.1 he
        exact hanswer
  | response hm hasked hstep hresult =>
    rw [hstep.pendingMessages]
    exact hproper

/-- The next text under way is read as its message, and handled without a panic. -/
theorem Orderly.handled (h : s.Orderly serde node asked) {c : Parcel} {rest : List Parcel}
    (hc : s.inFlight b = c :: rest) (env : Externals) (now : UInt64) :
    (LSPSMessage.fromStrWithIdMap serde c.text (s.manager b).requestIdToMethodMap).1 =
        some c.message ∧
      ((s.manager b).handleCustomMessage env serde now c.text (node !b)).2 ≠ .panic ∧
      Handled (asked b) (node !b) c.message (s.manager b)
        ((s.manager b).handleCustomMessage env serde now c.text (node !b)) := by
  have hwritten := h.written b c (hc ▸ List.mem_cons_self)
  have hignored : (s.manager b).ignoredPeers (node !b) = none := by
    rw [h.ignoredPeers]
    rfl
  -- A response under way answers a request that is still open, so that its method is known.
  have hopen : ∀ requestId method, c.message.getResponseIdAndMethod = some (requestId, method) →
      (node !b, requestId, method) ∈ asked b ∧
        (s.manager b).requestIdToMethodMap requestId = some method ∧
          (s.manager b).Expects (node !b) requestId method := by
    intro requestId method hm
    refine (h.accounted b).expected requestId method (.returning (m := c.message) ?_ hm)
    rw [hc]
    exact List.mem_cons_self
  obtain ⟨hread, hhandle⟩ := handleCustomMessage_serialize env now hignored hwritten.roundTrips
    hwritten.proper (fun requestId method hm => (hopen requestId method hm).2.1) hwritten.text
  refine ⟨hread, ?_, ?_⟩
  · rw [hhandle, ne_eq, handleLspsMessage_eq_panic]
    -- The only message that panics is a `buy` request with an expiry before the epoch.
    rintro ⟨-, requestId, req, hmessage, hexpires⟩
    have hproper := hwritten.proper
    rw [hmessage] at hproper
    exact absurd hexpires.expiry (not_lt.2 hproper)
  · rw [hhandle, LSPSMessage.mapAfter]
    rcases hwritten.proper.request_or_response with
      ⟨requestId, method, hrequest, hresponse⟩ | ⟨requestId, method, hresponse, -⟩
    · obtain ⟨hkeeps, hstep⟩ :=
        requestStep_handleLspsMessage env now (s.manager b) (node !b) hrequest
      rw [hresponse]
      exact .request hrequest hkeeps hstep
    · obtain ⟨hasked, -, hexpects⟩ := hopen requestId method hresponse
      obtain ⟨hstep, hresult⟩ := responseStep_handleLspsMessage
        (s := { s.manager b with requestIdToMethodMap :=
          (s.manager b).requestIdToMethodMap.remove requestId })
        env now hresponse hwritten.proper hexpects
      rw [hresponse]
      exact .response hresponse hasked hstep hresult

theorem Orderly.understood (h : s.Orderly serde node asked) {c : Parcel} {rest : List Parcel}
    (hc : s.inFlight b = c :: rest) (env : Externals) (now : UInt64) :
    Understood env serde node (asked b) s b now c := by
  obtain ⟨hread, hreturns, hhandled⟩ := h.handled hc env now
  refine ⟨hread, ?_, fun requestId method hm => ?_⟩
  · rw [step_deliver hc]
    exact hreturns
  · rw [step_deliver hc]
    cases hhandled with
    | request hrequest =>
      have hnone := LSPSMessage.responseId?_of_request hrequest
      rw [LSPSMessage.responseId?, hm] at hnone
      cases hnone
    | response hresponse hasked hstep hresult =>
      obtain ⟨rfl, rfl⟩ := Prod.mk.inj (Option.some.inj (hm.symm.trans hresponse))
      exact ⟨hasked, hresult⟩

/-- A delivery to a manager. -/
theorem Orderly.deliver (h : s.Orderly serde node asked) (env : Externals) (now : UInt64) :
    (s.step env serde node (.deliver b now)).1.Orderly serde node asked := by
  cases hc : s.inFlight b with
  | nil =>
    rw [step_deliver_nil hc]
    exact h
  -- The manager that gets the text changes as its message says, and the other one not at all.
  | cons c rest =>
    obtain ⟨-, -, hhandled⟩ := h.handled hc env now
    obtain ⟨hself, hother, hout, hback⟩ := replaces_deliver hc env serde node now
    generalize (s.step env serde node (.deliver b now)).1 = s',
      (s.manager b).handleCustomMessage env serde now c.text (node !b) = r
      at hhandled hself hother hout hback ⊢
    refine ⟨(Bool.forall_bool' b).2 ⟨?_, ?_⟩, (Bool.forall_bool' b).2 ⟨?_, ?_⟩,
      (Bool.forall_bool' b).2 ⟨?_, ?_⟩, (Bool.forall_bool' b).2 ⟨fun d hd => ?_, ?_⟩⟩
    · -- Its own requests: a response to one has arrived.
      have haccounted := h.accounted b
      rw [hc, List.map_cons] at haccounted
      rw [hself, hother, hout, hback]
      cases hhandled with
      | request hm hkeeps hstep => exact haccounted.request_left hkeeps hstep
      | response hm hasked hstep hresult => exact haccounted.response_left hm hstep
    · -- The requests of the other one: one of them has arrived.
      have haccounted := h.accounted (!b)
      rw [Bool.not_not, hc, List.map_cons] at haccounted
      rw [Bool.not_not, hself, hother, hout, hback]
      cases hhandled with
      | request hm hkeeps hstep => exact haccounted.request_right hm hstep
      | response hm hasked hstep hresult =>
        exact haccounted.drop_right hstep.pendingMessages hstep.serviceRequests
    · rw [hself]
      cases hhandled with
      | request hm hkeeps hstep => exact hkeeps.ignoredPeers.trans (h.ignoredPeers b)
      | response hm hasked hstep hresult => exact hstep.ignoredPeers.trans (h.ignoredPeers b)
    · rw [hother, h.ignoredPeers]
    · rw [hself]
      exact hhandled.proper (h.proper b)
    · rw [hother]
      exact h.proper (!b)
    · rw [hout] at hd
      exact h.written b d (hc ▸ List.mem_cons_of_mem c hd)
    · rw [hback]
      exact h.written (!b)

/-! ## Runs -/

theorem requests_append (b : Bool) (is js : List LinkInput) :
    requests b (is ++ js) = requests b is ++ requests b js := List.filterMap_append

/-- Ids that are distinct in the end were distinct before. -/
theorem nodup_requests_of_append {is js : List LinkInput}
    (h : ((requests b (is ++ js)).map fun e => e.2.1).Nodup) :
    ((requests b is).map fun e => e.2.1).Nodup := by
  rw [requests_append, List.map_append] at h
  exact h.of_append_left

theorem requests_call (b b' : Bool) {i : ManagerInput} (isPublic : i.call.IsPublic) :
    requests b' [.call b i isPublic] = if b = b' then i.request?.toList else [] := by
  rw [requests, List.filterMap_cons, LinkInput.request?, List.filterMap_nil]
  by_cases hb : b = b'
  · rw [if_pos hb, if_pos hb]
    cases i.request? <;> rfl
  · rw [if_neg hb, if_neg hb]

variable {is : List LinkInput} {serviceConfig : Bool → Option LiquidityServiceConfig}
  {clientConfig : Bool → Option LiquidityClientConfig}

/-- Two managers are in order after every run. -/
theorem orderly_exec (hids : ∀ b, ((requests b is).map fun e => e.2.1).Nodup)
    (hfair : (machine env serde node).Along (Fair serde) (new serviceConfig clientConfig) is) :
    ((machine env serde node).exec (new serviceConfig clientConfig) is).Orderly serde node
      fun b => requests b is := by
  induction is using List.reverseRecOn with
  | nil => exact .new ..
  | append_singleton is i ih =>
    obtain ⟨hbefore, hi, -⟩ := Machine.along_append.1 hfair
    have hbeforeIds (b : Bool) := nodup_requests_of_append (hids b)
    have h := ih hbeforeIds hbefore
    rw [Machine.exec_append, Machine.exec_cons, Machine.exec_nil]
    cases i with
    | call b i isPublic =>
      have hasked : (fun b' => requests b' (is ++ [.call b i isPublic])) =
          Function.update (fun b' => requests b' is) b (requests b is ++ i.request?.toList) := by
        rw [Function.eq_update_iff]
        refine ⟨?_, fun b' hb' => ?_⟩
        · rw [requests_append, requests_call, if_pos rfl]
        · rw [requests_append, requests_call, if_neg hb'.symm, List.append_nil]
      have hnodup := congrFun hasked b ▸ hids b
      rw [Function.update_self] at hnodup
      rw [hasked]
      exact h.call isPublic hi hnodup
    | fetch b =>
      have hasked : (fun b' => requests b' (is ++ [.fetch b])) = fun b' => requests b' is :=
        funext fun b' => (requests_append ..).trans (List.append_nil _)
      rw [hasked]
      exact h.fetch env hi (hbeforeIds b)
    | deliver b now =>
      have hasked : (fun b' => requests b' (is ++ [.deliver b now])) = fun b' => requests b' is :=
        funext fun b' => (requests_append ..).trans (List.append_nil _)
      rw [hasked]
      exact h.deliver env now

/-- **Managers understand each other.** In every run of two managers in which the ids of
    requests are distinct, no offer is selected that expires before the epoch, and the texts
    of messages are read back, neither manager ever ignores the other, and every text delivered
    is understood. -/
theorem understood_of_distinct (env : Externals) (serde : Serde) (node : Bool → PublicKey)
    (serviceConfig : Bool → Option LiquidityServiceConfig)
    (clientConfig : Bool → Option LiquidityClientConfig) (is : List LinkInput)
    (hids : ∀ b, ((requests b is).map fun e => e.2.1).Nodup)
    (hfair : (machine env serde node).Along (Fair serde) (new serviceConfig clientConfig) is) :
    let reached (pre : List LinkInput) :=
      (machine env serde node).exec (new serviceConfig clientConfig) pre
    (∀ pre post, is = pre ++ post → ∀ b, ((reached pre).manager b).ignoredPeers (node !b) = none) ∧
      ∀ pre b now post, is = pre ++ .deliver b now :: post →
        ∀ c rest, (reached pre).inFlight b = c :: rest →
          Understood env serde node (requests b pre) (reached pre) b now c := by
  intro reached
  have horderly (pre post : List LinkInput) (his : is = pre ++ post) :
      (reached pre).Orderly serde node fun b => requests b pre := by
    subst his
    exact orderly_exec (fun b => nodup_requests_of_append (hids b)) (Machine.along_append.1 hfair).1
  constructor
  · intro pre post his b
    rw [(horderly pre post his).ignoredPeers]
    rfl
  · intro pre b now post his c rest hc
    exact (horderly pre _ his).understood hc env now

/-! ## A client and a service -/

/-- A request for offers, of an id made of zero bytes. -/
def sampleGetInfoMessage : LSPSMessage :=
  .lsps2 (.request ⟨"00000000000000000000000000000000"⟩ (.getInfo ⟨none⟩))

/-- The answer to a request for offers: there is one. -/
def sampleOffer : LSPSMessage :=
  .lsps2 (.response ⟨"00000000000000000000000000000000"⟩ (.getInfo ⟨[sampleParams]⟩))

/-- A request to buy a channel under the offer, of an id made of bytes 1. -/
def sampleBuyMessage : LSPSMessage :=
  .lsps2 (.request ⟨"01010101010101010101010101010101"⟩ (.buy ⟨sampleParams, some 500⟩))

/-- The text of the request for offers. -/
def sampleGetInfoText : String :=
  "\x7b\"jsonrpc\":\"2.0\",\"id\":\"00000000000000000000000000000000\"," ++
  "\"method\":\"lsps2.get_info\",\"params\":\x7b\"token\":null\x7d\x7d"

/-- The text of the offer. -/
def sampleParamsText : String :=
  "\x7b\"min_fee_msat\":\"10\",\"proportional\":100000," ++
  "\"valid_until\":\"2033-05-18T03:33:20Z\",\"min_lifetime\":144," ++
  "\"max_client_to_self_delay\":128,\"min_payment_size_msat\":\"1\"," ++
  "\"max_payment_size_msat\":\"1000\",\"promise\":\"\"\x7d"

/-- The text of the answer. -/
def sampleOfferText : String :=
  "\x7b\"jsonrpc\":\"2.0\",\"id\":\"00000000000000000000000000000000\"," ++
  "\"result\":\x7b\"opening_fee_params_menu\":[" ++ sampleParamsText ++ "]\x7d\x7d"

/-- The text of the request to buy a channel. -/
def sampleBuyText : String :=
  "\x7b\"jsonrpc\":\"2.0\",\"id\":\"01010101010101010101010101010101\"," ++
  "\"method\":\"lsps2.buy\",\"params\":\x7b\"opening_fee_params\":" ++ sampleParamsText ++
  ",\"payment_size_msat\":\"500\"\x7d\x7d"

/-- The texts of the requests and the answer. -/
def sampleOfferSerde : Serde where
  parseJson text :=
    if text = sampleGetInfoText then some (sampleGetInfoMessage.serialize sampleMenuDates, "")
    else if text = sampleOfferText then some (sampleOffer.serialize sampleMenuDates, "")
    else if text = sampleBuyText then some (sampleBuyMessage.serialize sampleMenuDates, "")
    else none
  writeJson json :=
    match (json.member 0 "method").bind Json.asString with
    | some method => if method = "lsps2.buy" then some sampleBuyText else some sampleGetInfoText
    | none => some sampleOfferText
  parseDateTime := sampleMenuDates.parseDateTime
  writeDateTime := sampleMenuDates.writeDateTime

/-- A call of a user, drawing zero bytes. -/
def sampleUserCall (b : Bool) (call : ManagerCall) (isPublic : call.IsPublic) : LinkInput :=
  .call b { call, cm := fun _ _ => .ok (), now := 0, entropy := List.replicate 16 0 } isPublic

/-- A client asks a service for its offers, and selects the one there is. -/
def sampleOfferRun : List LinkInput :=
  [sampleUserCall false (.requestOpeningParams ⟨1⟩ none) trivial, .fetch false, .deliver true 0,
    sampleUserCall true (.service
      ⟨.openingFeeParamsGenerated ⟨0⟩ ⟨"00000000000000000000000000000000"⟩ [sampleParams.raw],
        by simp⟩) trivial,
    .fetch true, .deliver false 0,
    .call false { call := .selectOpeningParams ⟨1⟩ (some 500) sampleParams, cm := fun _ _ => .ok ()
                  now := 0, entropy := List.replicate 16 1 } trivial,
    .fetch false, .deliver true 0]

/-- The client, and the service. -/
def sampleLink : Link :=
  .new (fun b => if b then sampleService else none) fun b => if b then none else some ⟨some ⟨⟩⟩

/-- The managers after the first inputs of the run. -/
def sampleOfferAfter (n : ℕ) : Link :=
  (machine sampleExternals sampleOfferSerde fun b => if b then ⟨1⟩ else ⟨0⟩).exec sampleLink
    (sampleOfferRun.take n)

theorem pendingMessages_sampleOfferAfter :
    ((sampleOfferAfter 1).manager false).pendingMessages = [(⟨1⟩, sampleGetInfoMessage)] ∧
      ((sampleOfferAfter 4).manager true).pendingMessages = [(⟨0⟩, sampleOffer)] ∧
      ((sampleOfferAfter 7).manager false).pendingMessages = [(⟨1⟩, sampleBuyMessage)] := by
  decide +kernel

theorem roundTrips_sampleOfferSerde :
    sampleOfferSerde.RoundTrips sampleGetInfoMessage ∧ sampleOfferSerde.RoundTrips sampleOffer ∧
      sampleOfferSerde.RoundTrips sampleBuyMessage := by
  have hdates : sampleOfferSerde.ReadsBack ⟨2000000000, 0⟩ := rfl
  have hoffer : sampleOfferText ≠ sampleGetInfoText := by decide +kernel
  have hbuy : sampleBuyText ≠ sampleGetInfoText ∧ sampleBuyText ≠ sampleOfferText := by
    decide +kernel
  have hreadRequest : sampleOfferSerde.parseJson sampleGetInfoText =
      some (sampleGetInfoMessage.serialize sampleMenuDates, "") := by simp [sampleOfferSerde]
  have hreadOffer : sampleOfferSerde.parseJson sampleOfferText =
      some (sampleOffer.serialize sampleMenuDates, "") := by simp [sampleOfferSerde, hoffer]
  have hreadBuy : sampleOfferSerde.parseJson sampleBuyText =
      some (sampleBuyMessage.serialize sampleMenuDates, "") := by simp [sampleOfferSerde, hbuy]
  exact ⟨⟨⟨sampleGetInfoText, by decide +kernel, hreadRequest⟩,
      fun t ht => absurd ht List.not_mem_nil⟩,
    ⟨⟨sampleOfferText, by decide +kernel, hreadOffer⟩,
      fun t ht => List.mem_singleton.1 ht ▸ hdates⟩,
    ⟨⟨sampleBuyText, by decide +kernel, hreadBuy⟩, fun t ht => List.mem_singleton.1 ht ▸ hdates⟩⟩

set_option maxRecDepth 2000 in
/-- The run is fair. -/
theorem fair_sampleOfferRun :
    (machine sampleExternals sampleOfferSerde fun b => if b then ⟨1⟩ else ⟨0⟩).Along
      (Fair sampleOfferSerde) sampleLink sampleOfferRun := by
  obtain ⟨hrequest, hoffer, hbuy⟩ := pendingMessages_sampleOfferAfter
  obtain ⟨hreadRequest, hreadOffer, hreadBuy⟩ := roundTrips_sampleOfferSerde
  refine ⟨by rintro _ _ _ ⟨⟩, fun e he => ?_, trivial, by rintro _ _ _ ⟨⟩, fun e he => ?_, trivial,
    by rintro _ _ _ ⟨⟩; decide, fun e he => ?_, trivial, trivial⟩
  · obtain rfl := List.mem_singleton.1 (hrequest ▸ he)
    exact hreadRequest
  · obtain rfl := List.mem_singleton.1 (hoffer ▸ he)
    exact hreadOffer
  · obtain rfl := List.mem_singleton.1 (hbuy ▸ he)
    exact hreadBuy

/-- The offer is understood. -/
theorem understood_offers :
    Understood sampleExternals sampleOfferSerde (fun b => if b then ⟨1⟩ else ⟨0⟩)
      [(⟨1⟩, ⟨"00000000000000000000000000000000"⟩, .lsps2GetInfo)] (sampleOfferAfter 5) false 0
      ⟨sampleOffer, sampleOfferText⟩ := by
  have hids : ∀ b, ((requests b sampleOfferRun).map fun e => e.2.1).Nodup := by decide
  have hinFlight : (sampleOfferAfter 5).inFlight false = [⟨sampleOffer, sampleOfferText⟩] := by
    decide +kernel
  exact (understood_of_distinct sampleExternals sampleOfferSerde _ _ _ sampleOfferRun hids
    fair_sampleOfferRun).2 (sampleOfferRun.take 5) false 0 _ rfl _ [] hinFlight

end Link

end LightningLiquidity
