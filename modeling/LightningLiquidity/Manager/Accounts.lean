import LightningLiquidity.Manager.Link

/-!
# Accounts of requests

The requests a manager `A` sends to another one, `B`, under the public keys `q` of `B` and
`p` of `A`: each is first queued by `A`, then under way to `B`, kept by the service of
`B` or answered at once, its response queued by `B`, and under way back (`Open`). An id is
at no time in more than one of these places (`tally`), and where a response can come
from a request, `A` expects it (`Accounted`).

This lasts through all that `A` does (`Accounted.publicStep_left`, `Accounted.fetch_left`,
`Accounted.request_left`, `Accounted.response_left`) and all that `B` does (the same, with
`right`).
-/

namespace LightningLiquidity

/-! ## Counting messages -/

namespace LSPSMessage

/-- The number of requests under an id. -/
def countRequests (requestId : RequestId) (ms : List LSPSMessage) : ℕ :=
  ms.countP fun m => m.requestId? = some requestId

/-- The number of responses under an id. -/
def countResponses (requestId : RequestId) (ms : List LSPSMessage) : ℕ :=
  ms.countP fun m => m.responseId? = some requestId

variable {requestId requestId' : RequestId} {method : LSPSMethod} {m : LSPSMessage}
  {ms ms' : List LSPSMessage}

@[simp] theorem countRequests_nil : countRequests requestId [] = 0 := rfl

@[simp] theorem countResponses_nil : countResponses requestId [] = 0 := rfl

@[simp] theorem countRequests_append :
    countRequests requestId (ms ++ ms') = countRequests requestId ms + countRequests requestId ms' :=
  List.countP_append

@[simp] theorem countResponses_append : countResponses requestId (ms ++ ms') =
    countResponses requestId ms + countResponses requestId ms' := List.countP_append

theorem countRequests_cons : countRequests requestId (m :: ms) =
    countRequests requestId ms + if m.requestId? = some requestId then 1 else 0 := by
  simp [countRequests, List.countP_cons]

theorem countResponses_cons : countResponses requestId (m :: ms) =
    countResponses requestId ms + if m.responseId? = some requestId then 1 else 0 := by
  simp [countResponses, List.countP_cons]

theorem requestId?_eq (h : m.getRequestIdAndMethod = some (requestId, method)) :
    m.requestId? = some requestId := by
  rw [requestId?, h, Option.map_some]

theorem responseId?_eq (h : m.getResponseIdAndMethod = some (requestId, method)) :
    m.responseId? = some requestId := by
  rw [responseId?, h, Option.map_some]

theorem countRequests_pos (hm : m ∈ ms) (h : m.getRequestIdAndMethod = some (requestId, method)) :
    0 < countRequests requestId ms :=
  List.countP_pos_iff.2 ⟨m, hm, by simpa using requestId?_eq h⟩

theorem countResponses_pos (hm : m ∈ ms)
    (h : m.getResponseIdAndMethod = some (requestId, method)) : 0 < countResponses requestId ms :=
  List.countP_pos_iff.2 ⟨m, hm, by simpa using responseId?_eq h⟩

/-- A message is not both a request and a response. -/
theorem responseId?_of_request (h : m.getRequestIdAndMethod = some (requestId, method)) :
    m.responseId? = none := by
  rcases m with error | ⟨⟨id, request⟩ | ⟨id, response⟩⟩ | ⟨⟨id, request⟩ | ⟨id, response⟩⟩
  all_goals first | rfl | cases h

theorem requestId?_of_response (h : m.getResponseIdAndMethod = some (requestId, method)) :
    m.requestId? = none := by
  rcases m with error | ⟨⟨id, request⟩ | ⟨id, response⟩⟩ | ⟨⟨id, request⟩ | ⟨id, response⟩⟩
  all_goals first | rfl | cases h

end LSPSMessage

open LSPSMessage

/-! ## Places of requests -/

/-- The messages queued for all peers. -/
def LiquidityManager.queued (s : LiquidityManager) : List LSPSMessage :=
  s.pendingMessages.map Prod.snd

/-- The messages queued for a peer. -/
def LiquidityManager.queuedFor (s : LiquidityManager) (p : PublicKey) : List LSPSMessage :=
  (s.pendingMessages.filter fun e => e.1 = p).map Prod.snd

/-- A request that was fetched, and whose response was not delivered so far. -/
inductive Open (B : LiquidityManager) (p : PublicKey) (out back : List LSPSMessage)
    (requestId : RequestId) (method : LSPSMethod) : Prop
  | travelling {m : LSPSMessage} (h : m ∈ out)
      (hm : m.getRequestIdAndMethod = some (requestId, method))
  | kept {request : LSPS2Request} (h : B.serviceRequests (p, requestId) = some request)
      (hm : .ofLSPS2Request request = method)
  | answered {m : LSPSMessage} (h : m ∈ B.queuedFor p)
      (hm : m.getResponseIdAndMethod = some (requestId, method))
  | returning {m : LSPSMessage} (h : m ∈ back)
      (hm : m.getResponseIdAndMethod = some (requestId, method))

/-- The number of requests that were fetched under an id, and of responses to them. -/
def openTally (B : LiquidityManager) (p : PublicKey) (out back : List LSPSMessage)
    (requestId : RequestId) : ℕ :=
  countRequests requestId out + (if (B.serviceRequests (p, requestId)).isSome then 1 else 0) +
    countResponses requestId (B.queuedFor p) + countResponses requestId back

/-- The number of requests and responses under an id. -/
def tally (A B : LiquidityManager) (p : PublicKey) (out back : List LSPSMessage)
    (requestId : RequestId) : ℕ :=
  countRequests requestId A.queued + openTally B p out back requestId

/-- The requests of `A` to `B` are accounted for, given all requests made by the user
    of `A`. -/
structure Accounted (asked : List (PublicKey × RequestId × LSPSMethod)) (A B : LiquidityManager)
    (p q : PublicKey) (out back : List LSPSMessage) : Prop where
  once : ∀ requestId, tally A B p out back requestId ≤ 1
  drawn : ∀ requestId, 0 < tally A B p out back requestId → requestId ∈ asked.map fun e => e.2.1
  queued : ∀ e ∈ A.pendingMessages, ∀ requestId method,
    e.2.getRequestIdAndMethod = some (requestId, method) →
      (e.1, requestId, method) ∈ asked ∧ A.Expects e.1 requestId method
  expected : ∀ requestId method, Open B p out back requestId method →
    (q, requestId, method) ∈ asked ∧ A.requestIdToMethodMap requestId = some method ∧
      A.Expects q requestId method

variable {asked : List (PublicKey × RequestId × LSPSMethod)} {A A' B B' : LiquidityManager}
  {p q r : PublicKey} {out out' back back' : List LSPSMessage} {requestId : RequestId}
  {method : LSPSMethod} {m : LSPSMessage}

/-- A request that is open is counted. -/
theorem Open.openTally_pos (h : Open B p out back requestId method) :
    0 < openTally B p out back requestId := by
  rw [openTally]
  cases h with
  | travelling h hm =>
    have hpos := countRequests_pos h hm
    omega
  | kept h hm =>
    have hpos : (B.serviceRequests (p, requestId)).isSome := by rw [h]; rfl
    rw [if_pos hpos]
    omega
  | answered h hm =>
    have hpos := countResponses_pos h hm
    omega
  | returning h hm =>
    have hpos := countResponses_pos h hm
    omega

theorem Open.cons_left (h : Open B p out back requestId method) :
    Open B p (m :: out) back requestId method := by
  cases h with
  | travelling h hm => exact .travelling (List.mem_cons_of_mem _ h) hm
  | kept h hm => exact .kept h hm
  | answered h hm => exact .answered h hm
  | returning h hm => exact .returning h hm

theorem Open.cons_right (h : Open B p out back requestId method) :
    Open B p out (m :: back) requestId method := by
  cases h with
  | travelling h hm => exact .travelling h hm
  | kept h hm => exact .kept h hm
  | answered h hm => exact .answered h hm
  | returning h hm => exact .returning (List.mem_cons_of_mem _ h) hm

/-- A request that is open is not queued as well. -/
theorem Accounted.countRequests_queued (h : Accounted asked A B p q out back)
    (hopen : Open B p out back requestId method) : countRequests requestId A.queued = 0 := by
  have hpos := hopen.openTally_pos
  have honce := h.once requestId
  rw [tally] at honce
  omega

/-- What takes requests and responses away, or moves them on, keeps the accounts. -/
theorem Accounted.mono (h : Accounted asked A B p q out back)
    (htally : ∀ requestId, tally A' B' p out' back' requestId ≤ tally A B p out back requestId)
    (hqueued : ∀ e ∈ A'.pendingMessages, e.2.getRequestIdAndMethod ≠ none → e ∈ A.pendingMessages)
    (hopen : ∀ requestId method, Open B' p out' back' requestId method →
      Open B p out back requestId method)
    (hmap : A'.requestIdToMethodMap = A.requestIdToMethodMap)
    (hexpects : ∀ p requestId method, A.Expects p requestId method → A'.Expects p requestId method) :
    Accounted asked A' B' p q out' back' where
  once requestId := (htally requestId).trans (h.once requestId)
  drawn requestId hpos := h.drawn requestId (hpos.trans_le (htally requestId))
  queued e he requestId method hm := by
    obtain ⟨hasked, hexp⟩ := h.queued e (hqueued e he (by rw [hm]; simp)) requestId method hm
    exact ⟨hasked, hexpects _ _ _ hexp⟩
  expected requestId method ho := by
    obtain ⟨hasked, hmethod, hexp⟩ := h.expected requestId method (hopen _ _ ho)
    exact ⟨hasked, hmap ▸ hmethod, hexpects _ _ _ hexp⟩

theorem Accounted.asked_mono (h : Accounted asked A B p q out back)
    {asked' : List (PublicKey × RequestId × LSPSMethod)} (hsub : asked ⊆ asked') :
    Accounted asked' A B p q out back where
  once := h.once
  drawn requestId hpos := List.map_subset _ hsub (h.drawn requestId hpos)
  queued e he requestId method hm := (h.queued e he requestId method hm).imp (hsub ·) id
  expected requestId method ho := (h.expected requestId method ho).imp (hsub ·) id

namespace LiquidityManager

variable {s s' : LiquidityManager}

theorem queued_concat (h : s'.pendingMessages = s.pendingMessages ++ [(r, m)]) :
    s'.queued = s.queued ++ [m] := by
  rw [queued, h, List.map_append]
  rfl

theorem queuedFor_concat (h : s'.pendingMessages = s.pendingMessages ++ [(r, m)]) (p : PublicKey) :
    s'.queuedFor p = s.queuedFor p ++ if r = p then [m] else [] := by
  rw [queuedFor, queuedFor, h, List.filter_append, List.map_append]
  by_cases hr : r = p <;> simp [hr]

/-- The parcels for a peer are among the messages queued for it. -/
theorem map_message_parcels_sublist (serde : Serde) (s : LiquidityManager) (p : PublicKey) :
    ((s.parcels serde p).map Parcel.message).Sublist (s.queuedFor p) := by
  rw [parcels, queuedFor]
  induction s.pendingMessages.filter fun e => e.1 = p with
  | nil => exact .slnil
  | cons e l ih =>
    rw [List.filterMap_cons, List.map_cons]
    cases serde.writeJson (e.2.serialize serde) with
    | none => exact ih.cons _
    | some text => exact ih.cons_cons _

theorem queuedFor_sublist (s : LiquidityManager) (p : PublicKey) :
    (s.queuedFor p).Sublist s.queued := List.filter_sublist.map Prod.snd

end LiquidityManager

/-! ## What the one who asks does -/

open LiquidityManager

/-- A request of an id that was not drawn so far is queued. -/
theorem Accounted.ask (h : Accounted asked A B p q out back)
    (hm : m.getRequestIdAndMethod = some (requestId, method))
    (hfresh : requestId ∉ asked.map fun e => e.2.1)
    (hpending : A'.pendingMessages = A.pendingMessages ++ [(r, m)]) (hkeeps : Keeps A A')
    (hexpects : A'.Expects r requestId method) :
    Accounted (asked ++ [(r, requestId, method)]) A' B p q out back := by
  -- The id was not drawn so far, so that nothing is counted under it yet.
  have hzero : tally A B p out back requestId = 0 :=
    Nat.eq_zero_of_not_pos fun hpos => hfresh (h.drawn requestId hpos)
  have htally : ∀ id, tally A' B p out back id =
      tally A B p out back id + if requestId = id then 1 else 0 := by
    intro id
    simp only [tally, queued_concat hpending, countRequests_append, countRequests_cons,
      countRequests_nil, requestId?_eq hm, Option.some.injEq]
    omega
  refine ⟨fun id => ?_, fun id hpos => ?_, fun e he id method' hm' => ?_, fun id method' ho => ?_⟩
  · rw [htally]
    split
    · next hid => rw [← hid, hzero]
    · exact h.once id
  · rw [List.map_append, List.mem_append]
    rw [htally] at hpos
    split at hpos
    · next hid => exact .inr (hid ▸ List.mem_singleton.2 rfl)
    · exact .inl (h.drawn id hpos)
  · rw [hpending] at he
    rcases List.mem_append.1 he with he | he
    · obtain ⟨hasked, hexp⟩ := h.queued e he id method' hm'
      exact ⟨List.mem_append_left _ hasked, hkeeps.expects _ _ _ hexp⟩
    · obtain rfl := List.mem_singleton.1 he
      obtain ⟨rfl, rfl⟩ := Prod.mk.inj (Option.some.inj (hm.symm.trans hm'))
      exact ⟨List.mem_append_right _ (List.mem_singleton.2 rfl), hexpects⟩
  · obtain ⟨hasked, hmethod, hexp⟩ := h.expected id method' ho
    exact ⟨List.mem_append_left _ hasked, hkeeps.requestIdToMethodMap ▸ hmethod,
      hkeeps.expects _ _ _ hexp⟩

/-- A response is queued by the one who asks, or nothing. -/
theorem Accounted.of_response_left (h : Accounted asked A B p q out back)
    (hm : m.getRequestIdAndMethod = none)
    (hpending : A'.pendingMessages = A.pendingMessages ++ [(r, m)]) (hkeeps : Keeps A A') :
    Accounted asked A' B p q out back := by
  refine h.mono (fun id => ?_) (fun e he hreq => ?_) (fun _ _ ho => ho)
    hkeeps.requestIdToMethodMap hkeeps.expects
  · have hnone : m.requestId? = none := by rw [requestId?, hm, Option.map_none]
    simp [tally, queued_concat hpending, countRequests_cons, hnone]
  · rw [hpending] at he
    rcases List.mem_append.1 he with he | he
    · exact he
    · obtain rfl := List.mem_singleton.1 he
      exact absurd hm hreq

/-- The one who asks does nothing that matters. -/
theorem Accounted.of_keeps_left (h : Accounted asked A B p q out back)
    (hpending : A'.pendingMessages = A.pendingMessages) (hkeeps : Keeps A A') :
    Accounted asked A' B p q out back := by
  refine h.mono (fun id => ?_) (fun e he _ => hpending ▸ he) (fun _ _ ho => ho)
    hkeeps.requestIdToMethodMap hkeeps.expects
  rw [tally, tally, LiquidityManager.queued, LiquidityManager.queued, hpending]

theorem Accounted.publicStep_left (h : Accounted asked A B p q out back) {i : ManagerInput}
    (hkeeps : Keeps A A') (hstep : PublicStep A A' i)
    (hnodup : ((asked ++ i.request?.toList).map fun e => e.2.1).Nodup) :
    Accounted (asked ++ i.request?.toList) A' B p q out back := by
  cases hstep with
  | quiet hpending => exact (h.of_keeps_left hpending hkeeps).asked_mono (List.subset_append_left _ _)
  | ask hasked hm hproper hpending hrequests hexpects =>
    rw [hasked, Option.toList_some] at hnodup ⊢
    refine h.ask hm ?_ hpending hkeeps hexpects
    rw [List.map_append] at hnodup
    exact fun hmem => (List.nodup_append.1 hnodup).2.2 _ hmem _ (List.mem_singleton.2 rfl) rfl
  | answer hrequest hm hproper hpending =>
    have hnone : _ = none := Option.map_eq_none_iff.1 (requestId?_of_response hm)
    exact (h.of_response_left hnone hpending hkeeps).asked_mono (List.subset_append_left _ _)

/-- A request of `B` is answered by `A`, or kept. -/
theorem Accounted.request_left (h : Accounted asked A B p q out (m :: back))
    (hkeeps : Keeps A A') (hstep : RequestStep q requestId method A A') :
    Accounted asked A' B p q out back := by
  have hback : Accounted asked A B p q out back := by
    refine h.mono (fun id => ?_) (fun e he _ => he) (fun id method' ho => ?_) rfl fun _ _ _ he => he
    · simp only [tally, openTally, countResponses_cons]
      omega
    · exact ho.cons_right
  cases hstep with
  | drop hpending | keep _ hpending => exact hback.of_keeps_left hpending hkeeps
  | answer hm' hproper hpending =>
    exact hback.of_response_left (Option.map_eq_none_iff.1 (requestId?_of_response hm')) hpending hkeeps

/-- A response of `B` is accepted by `A`. -/
theorem Accounted.response_left (h : Accounted asked A B p q out (m :: back))
    (hm : m.getResponseIdAndMethod = some (requestId, method))
    (hstep : ResponseStep requestId
      { A with requestIdToMethodMap := A.requestIdToMethodMap.remove requestId } A') :
    Accounted asked A' B p q out back := by
  have hpending : A'.pendingMessages = A.pendingMessages := hstep.pendingMessages
  have hqueued : A'.queued = A.queued := by
    rw [LiquidityManager.queued, LiquidityManager.queued, hpending]
  have htally : ∀ id, tally A B p out (m :: back) id =
      tally A' B p out back id + if requestId = id then 1 else 0 := by
    intro id
    simp only [tally, openTally, countResponses_cons, responseId?_eq hm, Option.some.injEq, hqueued]
    omega
  -- Nothing else is under the id of the response.
  have hne : ∀ id, 0 < tally A' B p out back id → id ≠ requestId := by
    rintro id hpos rfl
    have honce := h.once id
    rw [htally, if_pos rfl] at honce
    omega
  refine ⟨fun id => ?_, fun id hpos => h.drawn id ?_, fun e he id method' hm' => ?_,
    fun id method' ho => ?_⟩
  · have honce := h.once id
    rw [htally] at honce
    omega
  · rw [htally]
    omega
  · have hpos : 0 < countRequests id A'.queued := countRequests_pos (List.mem_map_of_mem he) hm'
    rw [hpending] at he
    obtain ⟨hasked, hexp⟩ := h.queued e he id method' hm'
    exact ⟨hasked, hstep.expects _ _ _ (hne id (hpos.trans_le (Nat.le_add_right _ _))) hexp⟩
  · obtain ⟨hasked, hmethod, hexp⟩ := h.expected id method' ho.cons_right
    have hid := hne id (ho.openTally_pos.trans_le (Nat.le_add_left _ _))
    refine ⟨hasked, ?_, hstep.expects _ _ _ hid hexp⟩
    rw [hstep.requestIdToMethodMap]
    exact (PartialMap.remove_of_ne _ hid).trans hmethod

/-- The requests of `A` are fetched. -/
theorem Accounted.fetch_left (h : Accounted asked A B p q out back)
    (hnodup : (asked.map fun e => e.2.1).Nodup) (serde : Serde) :
    Accounted asked (A.getAndClearPendingMsg serde).1 B p q
      (out ++ (A.parcels serde q).map Parcel.message) back := by
  have hparcels := map_message_parcels_sublist serde A q
  have htally : ∀ id, tally (A.getAndClearPendingMsg serde).1 B p
      (out ++ (A.parcels serde q).map Parcel.message) back id ≤ tally A B p out back id := by
    intro id
    have hle : countRequests id ((A.parcels serde q).map Parcel.message) ≤ countRequests id A.queued :=
      (hparcels.trans (A.queuedFor_sublist q)).countP_le
    have hzero : countRequests id (A.getAndClearPendingMsg serde).1.queued = 0 := rfl
    rw [tally, tally, openTally, openTally, countRequests_append, hzero]
    omega
  have hfetched : ∀ e ∈ A.fetchedMethods, ∃ p m, (p, m) ∈ A.pendingMessages ∧
      m.getRequestIdAndMethod = some e := by
    intro e he
    obtain ⟨⟨p, m⟩, hmem, hm⟩ := List.mem_filterMap.1 he
    exact ⟨p, m, hmem, hm⟩
  have hold : ∀ id method, Open B p out back id method → (q, id, method) ∈ asked ∧
      (A.getAndClearPendingMsg serde).1.requestIdToMethodMap id = some method ∧
        A.Expects q id method := by
    intro id method ho
    obtain ⟨hasked, hmethod, hexp⟩ := h.expected id method ho
    refine ⟨hasked, ?_, hexp⟩
    rw [requestIdToMethodMap_getAndClearPendingMsg, PartialMap.foldl_insert_of_forall_ne, hmethod]
    rintro ⟨id', method'⟩ he rfl
    obtain ⟨r, m, hmem, hm⟩ := hfetched _ he
    have hpos : 0 < countRequests id' A.queued := countRequests_pos (List.mem_map_of_mem hmem) hm
    exact hpos.ne' (h.countRequests_queued ho)
  refine ⟨fun id => (htally id).trans (h.once id),
    fun id hpos => h.drawn id (hpos.trans_le (htally id)),
    fun e he => absurd he List.not_mem_nil, fun id method ho => ?_⟩
  cases ho with
  | travelling hmem hm =>
    rcases List.mem_append.1 hmem with hmem | hmem
    · exact hold id method (.travelling hmem hm)
    · -- A request fetched now: its method is set, and no other one under its id.
      obtain ⟨⟨r, m⟩, hfilter, rfl⟩ := List.mem_map.1 (hparcels.subset hmem)
      obtain ⟨hqueued, hr⟩ := List.mem_filter.1 hfilter
      obtain rfl : r = q := of_decide_eq_true hr
      obtain ⟨hasked, hexp⟩ := h.queued _ hqueued id method hm
      refine ⟨hasked, ?_, hexp⟩
      rw [requestIdToMethodMap_getAndClearPendingMsg]
      refine PartialMap.foldl_insert_of_mem (List.mem_filterMap.2 ⟨_, hqueued, hm⟩) ?_ _
      intro method' he
      obtain ⟨r', m', hqueued', hm'⟩ := hfetched _ he
      have heq := List.inj_on_of_nodup_map hnodup (h.queued _ hqueued' id method' hm').1 hasked rfl
      exact congrArg (fun e => e.2.2) heq
  | kept h hm => exact hold id method (.kept h hm)
  | answered h hm => exact hold id method (.answered h hm)
  | returning h hm => exact hold id method (.returning h hm)

/-! ## What the one who is asked does -/

/-- What `B` does to the requests that are open. -/
theorem Accounted.mono_right (h : Accounted asked A B p q out back)
    (htally : ∀ requestId,
      openTally B' p out' back' requestId ≤ openTally B p out back requestId)
    (hopen : ∀ requestId method, Open B' p out' back' requestId method →
      Open B p out back requestId method) : Accounted asked A B' p q out' back' :=
  h.mono (fun id => Nat.add_le_add_left (htally id) _) (fun _ he _ => he) hopen rfl
    fun _ _ _ hexp => hexp

/-- `B` does nothing that matters: it may lose requests, and queue what is no response. -/
theorem Accounted.of_le_right (h : Accounted asked A B p q out back)
    (hrequests : ∀ k request, B'.serviceRequests k = some request → B.serviceRequests k = some request)
    (hresponses : ∀ id, countResponses id (B'.queuedFor p) = countResponses id (B.queuedFor p))
    (hqueued : ∀ m ∈ B'.queuedFor p, m.getResponseIdAndMethod ≠ none → m ∈ B.queuedFor p) :
    Accounted asked A B' p q out back := by
  refine h.mono_right (fun id => ?_) fun id method ho => ?_
  · have hle : (if (B'.serviceRequests (p, id)).isSome then 1 else 0) ≤
        if (B.serviceRequests (p, id)).isSome then 1 else 0 := by
      cases hB' : B'.serviceRequests (p, id) with
      | none => exact Nat.zero_le _
      | some request => rw [hrequests _ _ hB']
    rw [openTally, openTally, hresponses]
    omega
  · cases ho with
    | travelling h hm => exact .travelling h hm
    | kept h hm => exact .kept (hrequests _ _ h) hm
    | answered h hm => exact .answered (hqueued _ h (by rw [hm]; simp)) hm
    | returning h hm => exact .returning h hm

/-- A request kept by `B` is answered: the response is queued in its place. -/
theorem Accounted.answer_right (h : Accounted asked A B p q out back) {request : LSPS2Request}
    (hrequest : B.serviceRequests (p, requestId) = some request)
    (hm : m.getResponseIdAndMethod = some (requestId, .ofLSPS2Request request))
    (hqueued : B'.queuedFor p = B.queuedFor p ++ [m])
    (hrequests : B'.serviceRequests = B.serviceRequests.remove (p, requestId)) :
    Accounted asked A B' p q out back := by
  refine h.mono_right (fun id => ?_) fun id method' ho => ?_
  · rw [openTally, openTally, hqueued, countResponses_append, countResponses_cons,
      responseId?_eq hm, hrequests]
    by_cases hid : requestId = id
    · subst hid
      simp only [PartialMap.remove_self, hrequest, Option.isSome_none, Option.isSome_some,
        if_true, Bool.false_eq_true, if_false, countResponses_nil]
      omega
    · have hne : (p, id) ≠ (p, requestId) := fun heq => hid (Prod.mk.inj heq).2.symm
      simp [hid, PartialMap.remove_of_ne _ hne]
  · cases ho with
    | travelling h hm => exact .travelling h hm
    | kept h hm =>
      rw [hrequests] at h
      exact .kept (PartialMap.remove_eq_some.1 h).2 hm
    | answered h hm' =>
      rw [hqueued] at h
      rcases List.mem_append.1 h with h | h
      · exact .answered h hm'
      · obtain rfl := List.mem_singleton.1 h
        obtain ⟨rfl, rfl⟩ := Prod.mk.inj (Option.some.inj (hm.symm.trans hm'))
        exact .kept hrequest rfl
    | returning h hm => exact .returning h hm

theorem Accounted.publicStep_right (h : Accounted asked A B p q out back) {i : ManagerInput}
    (hstep : PublicStep B B' i) : Accounted asked A B' p q out back := by
  cases hstep with
  | quiet hpending hrequests =>
    have hqueued : B'.queuedFor p = B.queuedFor p := by rw [queuedFor, queuedFor, hpending]
    exact h.of_le_right hrequests (fun id => by rw [hqueued]) fun m hm _ => hqueued ▸ hm
  | @ask r m id method hasked hm hproper hpending hrequests =>
    have hqueued := queuedFor_concat hpending p
    refine h.of_le_right (fun k request hk => hrequests ▸ hk) (fun id => ?_) fun m' hm' hresponse => ?_
    · rw [hqueued, countResponses_append]
      split
      · rw [countResponses_cons, responseId?_of_request hm]
        rfl
      · rfl
    · rw [hqueued] at hm'
      rcases List.mem_append.1 hm' with hm' | hm'
      · exact hm'
      · split at hm'
        · obtain rfl := List.mem_singleton.1 hm'
          exact absurd (Option.map_eq_none_iff.1 (responseId?_of_request hm)) hresponse
        · cases hm'
  | @answer r m id request hrequest hm hproper hpending hrequests =>
    have hqueued := queuedFor_concat hpending p
    by_cases hr : r = p
    · subst hr
      rw [if_pos rfl] at hqueued
      exact h.answer_right hrequest hm hqueued hrequests
    · rw [if_neg hr, List.append_nil] at hqueued
      refine h.of_le_right (fun k request' hk => ?_) (fun id => by rw [hqueued])
        fun m hm _ => hqueued ▸ hm
      rw [hrequests] at hk
      exact (PartialMap.remove_eq_some.1 hk).2

/-- The responses of `B` are fetched. -/
theorem Accounted.fetch_right (h : Accounted asked A B p q out back) (serde : Serde) :
    Accounted asked A (B.getAndClearPendingMsg serde).1 p q out
      (back ++ (B.parcels serde p).map Parcel.message) := by
  have hparcels := map_message_parcels_sublist serde B p
  refine h.mono_right (fun id => ?_) fun id method ho => ?_
  · have hle : countResponses id ((B.parcels serde p).map Parcel.message) ≤
        countResponses id (B.queuedFor p) := hparcels.countP_le
    have hzero : countResponses id ((B.getAndClearPendingMsg serde).1.queuedFor p) = 0 := rfl
    have hrequests : (B.getAndClearPendingMsg serde).1.serviceRequests = B.serviceRequests := rfl
    rw [openTally, openTally, countResponses_append, hzero, hrequests]
    omega
  · cases ho with
    | travelling h hm => exact .travelling h hm
    | kept h hm => exact .kept h hm
    | answered h hm => cases h
    | returning h hm =>
      rcases List.mem_append.1 h with h | h
      · exact .returning h hm
      · exact .answered (hparcels.subset h) hm

/-- A message of `A` is handled by `B`, which does nothing that matters. -/
theorem Accounted.drop_right (h : Accounted asked A B p q (m :: out) back)
    (hpending : B'.pendingMessages = B.pendingMessages)
    (hrequests : B'.serviceRequests = B.serviceRequests) : Accounted asked A B' p q out back := by
  have hqueued : B'.queuedFor p = B.queuedFor p := by rw [queuedFor, queuedFor, hpending]
  have hout : Accounted asked A B p q out back := by
    refine h.mono_right (fun id => ?_) fun id method ho => ho.cons_left
    simp only [openTally, countRequests_cons]
    omega
  exact hout.of_le_right (fun k request hk => hrequests ▸ hk) (fun id => by rw [hqueued])
    fun m hm _ => hqueued ▸ hm

/-- A request of `A` is answered by `B`, or kept, or dropped. -/
theorem Accounted.request_right (h : Accounted asked A B p q (m :: out) back)
    (hm : m.getRequestIdAndMethod = some (requestId, method))
    (hstep : RequestStep p requestId method B B') : Accounted asked A B' p q out back := by
  cases hstep with
  | drop hpending hrequests => exact h.drop_right hpending hrequests
  -- The request moves from the wire to the requests kept.
  | @keep request hmethod hpending hrequests =>
    have hqueued : B'.queuedFor p = B.queuedFor p := by rw [queuedFor, queuedFor, hpending]
    refine h.mono_right (fun id => ?_) fun id method' ho => ?_
    · simp only [openTally, countRequests_cons, requestId?_eq hm, Option.some.injEq, hqueued, hrequests]
      by_cases hid : requestId = id
      · subst hid
        simp only [PartialMap.insert_self, Option.isSome_some, if_true]
        omega
      · have hne : (p, id) ≠ (p, requestId) := fun heq => hid (Prod.mk.inj heq).2.symm
        rw [PartialMap.insert_of_ne _ _ hne]
        omega
    · cases ho with
      | travelling h hm => exact .travelling (List.mem_cons_of_mem _ h) hm
      | @kept request' h hm' =>
        rw [hrequests] at h
        by_cases hid : id = requestId
        · subst hid
          rw [PartialMap.insert_self] at h
          obtain rfl := Option.some.inj h
          exact .travelling List.mem_cons_self (by rw [hm, ← hm', hmethod])
        · rw [PartialMap.insert_of_ne _ _ fun heq => hid (Prod.mk.inj heq).2] at h
          exact .kept h hm'
      | answered h hm => exact .answered (hqueued ▸ h) hm
      | returning h hm => exact .returning h hm
  -- The request leaves the wire, and a response to it is queued.
  | @answer m' hm' hproper hpending hrequests =>
    have hqueued : B'.queuedFor p = B.queuedFor p ++ [m'] :=
      (queuedFor_concat hpending p).trans (by rw [if_pos rfl])
    refine h.mono_right (fun id => ?_) fun id method' ho => ?_
    · simp only [openTally, countRequests_cons, requestId?_eq hm, hqueued, hrequests,
        countResponses_append, countResponses_cons, countResponses_nil, responseId?_eq hm']
      omega
    · cases ho with
      | travelling h hm => exact .travelling (List.mem_cons_of_mem _ h) hm
      | kept h hm => exact .kept (hrequests ▸ h) hm
      | answered h hm'' =>
        rw [hqueued] at h
        rcases List.mem_append.1 h with h | h
        · exact .answered h hm''
        · obtain rfl := List.mem_singleton.1 h
          exact .travelling List.mem_cons_self (hm.trans (hm'.symm.trans hm''))
      | returning h hm => exact .returning h hm

end LightningLiquidity
