import LightningLiquidity.Lsps2.Service.Effects
import LightningLiquidity.Manager.Requests

/-!
# Who is asked for protocols, and who answers

The client of LSPS0 does not keep which peers it has asked: an answer to a `list_protocols`
request is only recognised by its id, in the map that all peers share. The event of the
answer names the peer that sent it. So any peer that knows the id of such a request can
answer it in place of the peer asked (`not_attributed`).

Events name the peer asked if no peer does so, and, if requests have ids of their own, only
then (`attributed_along`).
-/

namespace LightningLiquidity

namespace LiquidityManager

/-- The events a call enqueues. -/
def enqueuedEvents (env : Externals) (serde : Serde) (s : LiquidityManager) (i : ManagerInput) :
    List Event :=
  (s.step env serde i).1.pendingEvents.drop s.pendingEvents.length

section Events

variable {env : Externals} {serde : Serde} {s : LiquidityManager} {ev : LSPS0ClientEvent}

/-- Messages make the client of LSPS0 report protocols, and nothing else. -/
theorem lsps0Client_mem_handleLspsMessage {now : UInt64} {msg : LSPSMessage} {p : PublicKey} :
    .lsps0Client ev ∈ (s.handleLspsMessage env now msg p).1.pendingEvents.drop
      s.pendingEvents.length ↔
      ∃ requestId result, msg = .lsps0 (.response requestId (.listProtocols result)) ∧
        ev = .listProtocolsResponse p result.protocols := by
  rcases msg with error | ⟨⟨requestId, request⟩ | ⟨requestId, result | error⟩⟩ |
    ⟨⟨requestId, request⟩ | ⟨requestId, response⟩⟩
  · simp [handleLspsMessage]
  · obtain ⟨⟨⟩⟩ := request
    simp only [handleLspsMessage]
    split <;> simp [finishLsps0, enqueue, LSPS0ServiceHandler.handleMessage,
      LSPS0ServiceHandler.handleRequest]
  · simp [handleLspsMessage, finishLsps0, enqueue, LSPS0ClientHandler.handleMessage,
      LSPS0ClientHandler.handleResponse]
  · simp [handleLspsMessage, finishLsps0, enqueue, LSPS0ClientHandler.handleMessage,
      LSPS0ClientHandler.handleResponse]
  · simp only [handleLspsMessage]
    split <;> simp [finishLsps2Service, enqueue]
  · simp only [handleLspsMessage]
    split <;> simp [finishLsps2Client, enqueue]

/-- An event of the client of LSPS0 reports the protocols of a message that is read as the
    answer to a `list_protocols` request. -/
theorem lsps0Client_mem_enqueuedEvents {i : ManagerInput} :
    .lsps0Client ev ∈ s.enqueuedEvents env serde i ↔
      ∃ payload p requestId result, i.call = .handleCustomMessage payload p ∧
        s.ignoredPeers p = none ∧
        (LSPSMessage.fromStrWithIdMap serde payload s.requestIdToMethodMap).1 =
          some (.lsps0 (.response requestId (.listProtocols result))) ∧
        ev = .listProtocolsResponse p result.protocols := by
  obtain ⟨call, cm, now, entropy⟩ := i
  cases call with
  | handleCustomMessage payload p =>
    simp only [enqueuedEvents, step, handleCustomMessage]
    split
    · next h =>
      refine iff_of_false (by simp) ?_
      rintro ⟨_, _, _, _, ⟨⟩, hnone, -⟩
      rw [hnone] at h
      cases h
    · next h =>
      -- The text of a peer that is not ignored: the event is that of the message read.
      rw [Option.not_isSome_iff_eq_none] at h
      rcases hread : LSPSMessage.fromStrWithIdMap serde payload s.requestIdToMethodMap with
        ⟨_ | message, map⟩
      · refine iff_of_false (by simp [enqueue]) ?_
        rintro ⟨_, _, _, _, ⟨⟩, -, hsome, -⟩
        rw [hread] at hsome
        cases hsome
      · rw [lsps0Client_mem_handleLspsMessage (s := { s with requestIdToMethodMap := map })]
        constructor
        · rintro ⟨requestId, result, rfl, rfl⟩
          exact ⟨payload, p, requestId, result, rfl, h, by rw [hread], rfl⟩
        · rintro ⟨_, _, requestId, result, ⟨⟩, -, hmessage, rfl⟩
          rw [hread] at hmessage
          exact ⟨requestId, result, Option.some.inj hmessage, rfl⟩
  -- No call of the user reports protocols.
  | getAndClearPendingMsg | nextEvent | getAndClearPendingEvents | listProtocols =>
    refine iff_of_false ?_ (by rintro ⟨_, _, _, _, ⟨⟩, _⟩)
    simp [enqueuedEvents, step, getAndClearPendingMsg, enqueue, List.drop_eq_nil_of_le]
  | requestOpeningParams | selectOpeningParams | service =>
    refine iff_of_false ?_ (by rintro ⟨_, _, _, _, ⟨⟩, _⟩)
    simp only [enqueuedEvents, step]
    split <;> simp [finishLsps2Client, finishLsps2Service, enqueue]

end Events

/-! ## Answers of the peers asked -/

/-- The request for the protocols of a peer. -/
def listProtocolsRequest (requestId : RequestId) : LSPSMessage :=
  .lsps0 (.request requestId (.listProtocols {}))

/-- The text lists protocols, in answer to the request of the given id. -/
def ListsProtocols (serde : Serde) (payload : String) (requestId : RequestId) : Prop :=
  LSPSMessage.answeredId serde payload = some requestId ∧
    ∃ result, LSPSMessage.answer serde payload requestId .lsps0ListProtocols =
      some (.lsps0 (.response requestId (.listProtocols result)))

/-- An event with the protocols of a peer is enqueued in answer to a `list_protocols` request
    that was sent to the peer, and has not been answered since. -/
def Attributed (env : Externals) (serde : Serde) (s : List Exchange × LiquidityManager)
    (i : ManagerInput) : Prop :=
  ∀ p protocols, .lsps0Client (.listProtocolsResponse p protocols) ∈ s.2.enqueuedEvents env serde i →
    ∃ payload requestId text l₁ l₂, i.call = .handleCustomMessage payload p ∧
      LSPSMessage.answeredId serde payload = some requestId ∧
      s.1 = l₁ ++ .fetched p (listProtocolsRequest requestId) (some text) :: l₂ ∧
      ∀ p', .answered p' requestId ∉ l₂

/-- If a peer that is not ignored lists protocols under the id of a request that was fetched,
    and is not answered yet, this request was sent to this peer. -/
def AnswersOwn (serde : Serde) (s : List Exchange × LiquidityManager) (i : ManagerInput) : Prop :=
  ∀ payload p requestId, i.call = .handleCustomMessage payload p → s.2.ignoredPeers p = none →
    ListsProtocols serde payload requestId →
      ∀ p' text, Exchange.latest s.1 requestId =
        some (.fetched p' (listProtocolsRequest requestId) text) → p' = p ∧ text.isSome

/-- An id is that of one request only. -/
def OneRequest (l : List Exchange) : Prop :=
  ∀ e ∈ l, ∀ e' ∈ l, e.method?.isSome → e'.method?.isSome → e.requestId? = e'.requestId? → e = e'

/-- A request with the method of `list_protocols` is one. -/
theorem exists_listProtocolsRequest {e : Exchange} {requestId : RequestId}
    (hid : e.requestId? = some requestId) (hmethod : e.method? = some .lsps0ListProtocols) :
    ∃ p text, e = .fetched p (listProtocolsRequest requestId) text := by
  rcases e with ⟨p, message, text⟩ | _
  · rcases message with _ | ⟨⟨id, ⟨⟨⟩⟩⟩ | _⟩ | ⟨⟨id, _ | _⟩ | _⟩
    all_goals cases hmethod
    obtain rfl := Option.some.inj hid
    exact ⟨p, text, rfl⟩
  · cases hmethod

variable {env : Externals} {serde : Serde} {s : List Exchange × LiquidityManager}
  {i : ManagerInput}

theorem AnswersOwn.attributed (h : AnswersOwn serde s i)
    (hmap : FollowsLog s) : Attributed env serde s i := by
  intro p protocols hev
  obtain ⟨payload, p', requestId, result, hcall, hignored, hread, ⟨⟩⟩ :=
    lsps0Client_mem_enqueuedEvents.1 hev
  obtain ⟨hid, hmethod, hanswer⟩ := LSPSMessage.response_fromStrWithIdMap hread rfl
  obtain ⟨e, hlatest, hmethod⟩ := Option.bind_eq_some_iff.1 ((hmap requestId).symm.trans hmethod)
  obtain ⟨hide, l₁, l₂, hlog, hl₂⟩ := Exchange.exists_of_latest_eq_some hlatest
  -- The latest exchange under the id is a request for protocols, to the peer that answers.
  obtain ⟨p', text, rfl⟩ := exists_listProtocolsRequest hide hmethod
  obtain ⟨rfl, htext⟩ := h payload p requestId hcall hignored ⟨hid, result, hanswer⟩ p' text hlatest
  obtain ⟨text, rfl⟩ := Option.isSome_iff_exists.1 htext
  exact ⟨payload, requestId, text, l₁, l₂, hcall, hid, hlog, fun p' hp' => hl₂ _ hp' rfl⟩

theorem Attributed.answersOwn (h : Attributed env serde s i) (hone : OneRequest s.1)
    (hmap : FollowsLog s) : AnswersOwn serde s i := by
  rintro payload p requestId hcall hignored ⟨hid, result, hanswer⟩ p' text hlatest
  have hmethod : s.2.requestIdToMethodMap requestId = some .lsps0ListProtocols := by
    rw [hmap, hlatest]
    rfl
  have hread : (LSPSMessage.fromStrWithIdMap serde payload s.2.requestIdToMethodMap).1 =
      some (.lsps0 (.response requestId (.listProtocols result))) := by
    rw [LSPSMessage.fromStrWithIdMap_answer hid, hmethod]
    exact hanswer
  obtain ⟨payload', requestId', text', l₁, l₂, hcall', hid', hlog, -⟩ :=
    h p result.protocols (lsps0Client_mem_enqueuedEvents.2
      ⟨payload, p, requestId, result, hcall, hignored, hread, rfl⟩)
  obtain ⟨rfl, -⟩ := ManagerCall.handleCustomMessage.inj (hcall.symm.trans hcall')
  obtain rfl := Option.some.inj (hid.symm.trans hid')
  -- The request the event answers is the latest one under the id: there is only one.
  obtain ⟨-, l₁', l₂', hlog', -⟩ := Exchange.exists_of_latest_eq_some hlatest
  have hmem : .fetched p (listProtocolsRequest requestId) (some text') ∈ s.1 :=
    hlog ▸ List.mem_append_right _ List.mem_cons_self
  have hmem' : .fetched p' (listProtocolsRequest requestId) text ∈ s.1 :=
    hlog' ▸ List.mem_append_right _ List.mem_cons_self
  have heq := hone _ hmem _ hmem' rfl rfl rfl
  obtain ⟨rfl, -, rfl⟩ := Exchange.fetched.inj heq
  exact ⟨rfl, rfl⟩

/-- **Protocols are those of the peer asked.** In every run in which no peer lists protocols
    under the id of a request that is not answered yet and was sent to another peer, an event
    with the protocols of a peer only answers a `list_protocols` request that was sent to it,
    and has not been answered before. If an id is that of one request only, this holds in no
    other run. -/
theorem attributed_along (env : Externals) (serde : Serde)
    (serviceConfig : Option LiquidityServiceConfig) (clientConfig : Option LiquidityClientConfig)
    (is : List ManagerInput) :
    let m := logged env serde
    let s₀ := ([], LiquidityManager.new serviceConfig clientConfig)
    (m.Along (AnswersOwn serde) s₀ is → m.Along (Attributed env serde) s₀ is) ∧
      (m.Along (fun s _ => OneRequest s.1) s₀ is → m.Along (Attributed env serde) s₀ is →
        m.Along (AnswersOwn serde) s₀ is) := by
  intro m s₀
  simp only [Machine.along_iff_forall]
  constructor
  · intro h pre i post hi
    exact (h pre i post hi).attributed (followsLog_exec env serde serviceConfig clientConfig pre)
  · intro hone h pre i post hi
    exact (h pre i post hi).answersOwn (hone pre i post hi)
      (followsLog_exec env serde serviceConfig clientConfig pre)

/-! ## A request answered in place of the peer asked -/

/-- An id made of zero bytes. -/
def sampleRequestId : RequestId := ⟨"00000000000000000000000000000000"⟩

/-- The answer to a request of this id. -/
def sampleProtocols : LSPSMessage := .lsps0 (.response sampleRequestId (.listProtocols ⟨[2]⟩))

/-- The text of the request. -/
def sampleProtocolsRequestText : String :=
  "\x7b\"jsonrpc\":\"2.0\",\"id\":\"00000000000000000000000000000000\"," ++
  "\"method\":\"lsps0.list_protocols\",\"params\":\x7b\x7d\x7d"

/-- The text of the answer. -/
def sampleProtocolsText : String :=
  "\x7b\"jsonrpc\":\"2.0\",\"id\":\"00000000000000000000000000000000\"," ++
  "\"result\":\x7b\"protocols\":[2]\x7d\x7d"

/-- The texts of the request and its answer. -/
def sampleProtocolsSerde : Serde :=
  { sampleMenuDates with
    parseJson := fun text =>
      if text = sampleProtocolsText then some (sampleProtocols.serialize sampleMenuDates, "") else none
    -- Nothing but the request is written.
    writeJson := fun _ => some sampleProtocolsRequestText }

/-- A call drawing zero bytes. -/
def sampleCall (call : ManagerCall) : ManagerInput :=
  { call, cm := fun _ _ => .ok (), now := 0, entropy := List.replicate 16 0 }

/-- A peer is asked for its protocols, and a peer answers. -/
def sampleProtocolsRun (p : PublicKey) : List ManagerInput :=
  [.listProtocols ⟨1⟩, .getAndClearPendingMsg, .handleCustomMessage sampleProtocolsText p].map
    sampleCall

/-- The manager once the peer is asked, with the request sent. -/
def sampleAsked : List Exchange × LiquidityManager :=
  (logged sampleExternals sampleProtocolsSerde).exec ([], .new none none)
    ((sampleProtocolsRun ⟨1⟩).take 2)

theorem fst_sampleAsked :
    sampleAsked.1 =
      [.fetched ⟨1⟩ (listProtocolsRequest sampleRequestId) (some sampleProtocolsRequestText)] := by
  decide +kernel

/-- The peer asked answers. -/
theorem attributed_along_asked :
    (logged sampleExternals sampleProtocolsSerde).Along
      (Attributed sampleExternals sampleProtocolsSerde) ([], .new none none)
      (sampleProtocolsRun ⟨1⟩) := by
  refine (attributed_along sampleExternals sampleProtocolsSerde none none _).1
    ⟨nofun, nofun, ?_, trivial⟩
  rintro payload p requestId hcall - - p' text hlatest
  obtain ⟨-, rfl⟩ := ManagerCall.handleCustomMessage.inj hcall
  obtain ⟨-, l₁, l₂, hlog, -⟩ := Exchange.exists_of_latest_eq_some hlatest
  have hmem : .fetched p' (listProtocolsRequest requestId) text ∈ sampleAsked.1 :=
    hlog ▸ List.mem_append_right _ List.mem_cons_self
  rw [fst_sampleAsked, List.mem_singleton] at hmem
  obtain ⟨rfl, -, rfl⟩ := Exchange.fetched.inj hmem
  exact ⟨rfl, rfl⟩

/-- Another peer than the one asked answers, and is named by the event. -/
theorem not_attributed :
    ¬∀ (env : Externals) (serde : Serde) (serviceConfig : Option LiquidityServiceConfig)
      (clientConfig : Option LiquidityClientConfig) (is : List ManagerInput),
      (logged env serde).Along (Attributed env serde) ([], .new serviceConfig clientConfig) is := by
  intro h
  obtain ⟨-, -, hattributed, -⟩ := h sampleExternals sampleProtocolsSerde none none
    (sampleProtocolsRun ⟨2⟩)
  have hev : .lsps0Client (.listProtocolsResponse ⟨2⟩ [2]) ∈
      sampleAsked.2.enqueuedEvents sampleExternals sampleProtocolsSerde
        (sampleCall (.handleCustomMessage sampleProtocolsText ⟨2⟩)) := by decide +kernel
  obtain ⟨_, requestId, text, l₁, l₂, -, -, hlog, -⟩ := hattributed ⟨2⟩ [2] hev
  have hmem : .fetched ⟨2⟩ (listProtocolsRequest requestId) (some text) ∈ sampleAsked.1 :=
    hlog ▸ List.mem_append_right _ List.mem_cons_self
  rw [fst_sampleAsked, List.mem_singleton] at hmem
  cases hmem

end LiquidityManager

end LightningLiquidity
