import LightningLiquidity.Lib.TwoRuns
import LightningLiquidity.Lsps2.Without
import LightningLiquidity.Manager.Attribution
import LightningLiquidity.Manager.Panics

/-!
# Peers do not interfere

What the manager keeps of all peers but one (`LiquidityManager.without`), and what peers
but this one see of a call (`seenBy`), do not depend on the messages this one sends: its
messages inserted anywhere into a run change neither (`isolated_of_separate`), if the ids
of its requests are not those of other peers, and it only answers those, which others do
not answer.

Else they may: an answer takes its id off the map of requests, that all peers share, even
if it is not the answer of the peer asked. The answer of the peer asked can then not be read,
and the peer is ignored (`not_isolated`).
-/

namespace LightningLiquidity

/-! ## What peers see -/

/-- The peer named by an event. -/
def LSPS0ClientEvent.peer : LSPS0ClientEvent → PublicKey
  | listProtocolsResponse p _ => p

/-- The peer named by an event. -/
def Event.peer : Event → PublicKey
  | lsps0Client ev => ev.peer
  | lsps2Client ev => ev.peer
  | lsps2Service ev => ev.peer

/-- What is seen of a call: how handling the message of a peer ends, an event is enqueued, or
    a message to a peer. -/
inductive Seen
  | outcome (p : PublicKey) (result : Outcome ManagerError)
  | event (ev : Event)
  | message (p : PublicKey) (message : LSPSMessage)
  deriving DecidableEq

/-- The peer that sees it. -/
def Seen.peer : Seen → PublicKey
  | outcome p _ => p
  | event ev => ev.peer
  | message p _ => p

namespace LiquidityManager

/-- The peer a call sends a request to, under an id made of random bytes. -/
def ManagerInput.asks? (i : ManagerInput) : Option PublicKey :=
  match i.call with
  | .listProtocols p | .requestOpeningParams p _ | .selectOpeningParams p _ _ => some p
  | _ => none

/-- The messages a call enqueues. -/
def enqueuedMessages (env : Externals) (serde : Serde) (s : LiquidityManager) (i : ManagerInput) :
    List (PublicKey × LSPSMessage) :=
  (s.step env serde i).1.pendingMessages.drop s.pendingMessages.length

/-- What is seen of a call. -/
def seen (env : Externals) (serde : Serde) (s : LiquidityManager) (i : ManagerInput) : List Seen :=
  (match i.call with
    | .handleCustomMessage _ p => [.outcome p (s.step env serde i).2.result]
    | _ => []) ++
  (s.enqueuedEvents env serde i).map .event ++
  (s.enqueuedMessages env serde i).map fun (p, message) => .message p message

/-- What a peer sees of a call. -/
def seenBy (env : Externals) (serde : Serde) (s : LiquidityManager) (p : PublicKey)
    (i : ManagerInput) : List Seen :=
  (s.seen env serde i).filter fun e => e.peer = p

/-! ## The manager without a peer -/

variable {env : Externals} {serde : Serde} {now : UInt64} {q p : PublicKey} {ids : Set RequestId}
  {scids : Set Scid} {s s' : LiquidityManager}

/-- The manager without a peer, the ids of its requests, its short channel ids, and events. -/
noncomputable def without (s : LiquidityManager) (q : PublicKey) (ids : Set RequestId)
    (scids : Set Scid) : LiquidityManager :=
  { s with
    pendingMessages := s.pendingMessages.filter fun m => m.1 ≠ q
    pendingEvents := []
    requestIdToMethodMap := s.requestIdToMethodMap.off ids
    ignoredPeers := s.ignoredPeers.off {q}
    lsps2ServiceHandler := s.lsps2ServiceHandler.map fun handler => handler.without q scids
    lsps2ClientHandler := s.lsps2ClientHandler.map fun handler => handler.without q }

@[simp] theorem without_without (s : LiquidityManager) (q : PublicKey) (ids : Set RequestId)
    (scids : Set Scid) : (s.without q ids scids).without q ids scids = s.without q ids scids := by
  simp [without, Function.comp_def]

/-- Messages and events are added to the queues. -/
def Enqueues (s s' : LiquidityManager) (messages : List (PublicKey × LSPSMessage))
    (events : List Event) : Prop :=
  s'.pendingMessages = s.pendingMessages ++ messages ∧ s'.pendingEvents = s.pendingEvents ++ events

theorem Enqueues.refl (s : LiquidityManager) : Enqueues s s [] [] :=
  ⟨(List.append_nil _).symm, (List.append_nil _).symm⟩

/-- Without the peer, the same is done: to the states the second is the same, and the same
    is added to the queues. -/
structure SameWithout (q : PublicKey) (ids : Set RequestId) (scids : Set Scid)
    (s s' : LiquidityManager) (r r' : LiquidityManager × Outcome ManagerError) : Prop where
  without : r.1.without q ids scids = r'.1.without q ids scids
  result : r.2 = r'.2
  enqueues : ∃ messages events, Enqueues s r.1 messages events ∧ Enqueues s' r'.1 messages events

/-- Only messages to the peer and events naming it are added to the queues. -/
def EnqueuesFor (q : PublicKey) (s s' : LiquidityManager) : Prop :=
  ∃ messages events, Enqueues s s' messages events ∧ (∀ m ∈ messages, m.1 = q) ∧
    ∀ ev ∈ events, ev.peer = q

/-- Nothing is done but to the peer. -/
structure OnlyFor (q : PublicKey) (ids : Set RequestId) (scids : Set Scid)
    (s s' : LiquidityManager) : Prop where
  without : s'.without q ids scids = s.without q ids scids
  enqueues : EnqueuesFor q s s'

theorem OnlyFor.refl (s : LiquidityManager) : OnlyFor q ids scids s s :=
  ⟨rfl, [], [], .refl _, nofun, nofun⟩

/-- The ids of the requests queued, and the short channel ids given out, are separate. -/
structure Owns (q : PublicKey) (ids : Set RequestId) (scids : Set Scid) (s : LiquidityManager) :
    Prop where
  requests : ∀ m ∈ s.pendingMessages, ∀ requestId method,
    m.2.getRequestIdAndMethod = some (requestId, method) → (requestId ∈ ids ↔ m.1 = q)
  routes : ∀ handler, s.lsps2ServiceHandler = some handler → handler.RoutesSeparately q scids

theorem enqueue_without (s : LiquidityManager) (messages : List (PublicKey × LSPSMessage))
    (events : List Event) :
    (s.enqueue messages events).without q ids scids =
      ((s.without q ids scids).enqueue messages events).without q ids scids := by
  simp [enqueue, without, Function.comp_def, List.filter_append]

/-- Messages to the peer do not show without it. -/
theorem enqueue_without_of_forall {messages : List (PublicKey × LSPSMessage)}
    (h : ∀ m ∈ messages, m.1 = q) (events : List Event) :
    (s.enqueue messages events).without q ids scids = s.without q ids scids := by
  have hnil : messages.filter (fun m => m.1 ≠ q) = [] := by
    simpa [List.filter_eq_nil_iff] using h
  simp only [enqueue, without, List.filter_append, hnil, List.append_nil]

/-- Messages and events of the LSPS0 handlers. -/
theorem sameWithout_finishLsps0 (s : LiquidityManager) (out : LSPS0Output) :
    SameWithout q ids scids s (s.without q ids scids) (s.finishLsps0 out)
      ((s.without q ids scids).finishLsps0 out) where
  without := enqueue_without ..
  result := rfl
  enqueues := ⟨_, _, ⟨rfl, rfl⟩, ⟨rfl, rfl⟩⟩

theorem onlyFor_finishLsps0 {out : LSPS0Output} (hmessages : ∀ m ∈ out.messages, m.1 = q)
    (hevents : ∀ ev ∈ out.events, ev.peer = q) :
    OnlyFor q ids scids s (s.finishLsps0 out).1 where
  without := enqueue_without_of_forall (List.forall_mem_map.2 hmessages) _
  enqueues :=
    ⟨_, _, ⟨rfl, rfl⟩, List.forall_mem_map.2 hmessages, List.forall_mem_map.2 hevents⟩

/-- A call of another peer to the client. -/
theorem sameWithout_finishLsps2Client {handler : LSPS2ClientHandler}
    (call : ClientCall) (h : call.peer ≠ q) :
    SameWithout q ids scids s (s.without q ids scids) (s.finishLsps2Client (handler.step call))
      ((s.without q ids scids).finishLsps2Client ((handler.without q).step call)) := by
  rw [LSPS2ClientHandler.step_without h]
  refine ⟨?_, rfl, _, _, ⟨rfl, rfl⟩, ⟨rfl, rfl⟩⟩
  simp [finishLsps2Client, enqueue, without, Function.comp_def, List.filter_append]

/-- A call of the peer to the client. -/
theorem onlyFor_finishLsps2Client {handler : LSPS2ClientHandler}
    (hs : s.lsps2ClientHandler = some handler) (call : ClientCall) (h : call.peer = q) :
    OnlyFor q ids scids s (s.finishLsps2Client (handler.step call)).1 := by
  obtain ⟨hmessages, hevents⟩ := handler.peer_step call
  rw [h] at hmessages hevents
  refine ⟨?_, _, _, ⟨rfl, rfl⟩, List.forall_mem_map.2 hmessages, List.forall_mem_map.2 hevents⟩
  rw [finishLsps2Client, enqueue_without_of_forall (List.forall_mem_map.2 hmessages)]
  simp only [without, hs, Option.map_some, LSPS2ClientHandler.without_step h]

/-- A call of another peer, or none, to the service. -/
theorem sameWithout_finishLsps2Service {handler : LSPS2ServiceHandler} {i : ServiceInput}
    (h : (handler.without q scids).step env i =
      ((handler.step env i).1.without q scids, (handler.step env i).2)) :
    SameWithout q ids scids s (s.without q ids scids) (s.finishLsps2Service (handler.step env i))
      ((s.without q ids scids).finishLsps2Service ((handler.without q scids).step env i)) := by
  rw [h]
  refine ⟨?_, rfl, _, _, ⟨rfl, rfl⟩, ⟨rfl, rfl⟩⟩
  simp [finishLsps2Service, enqueue, without, Function.comp_def, List.filter_append]

/-- A call that concerns the peer to the service. -/
theorem finishLsps2Service_of_concerns (env : Externals) (s : LiquidityManager)
    (ids : Set RequestId) {handler : LSPS2ServiceHandler}
    (hroutes : handler.RoutesSeparately q scids) {i : ServiceInput}
    (hscids : i.call.SeparatesScids q scids) (h : i.call.Concerns q scids handler.peerByChannelId) :
    (s.finishLsps2Service (handler.step env i)).1.without q ids scids =
        { s.without q ids scids with
          lsps2ServiceHandler := some { handler.without q scids with
            peerByChannelId := i.call.register handler.peerByChannelId } } ∧
      EnqueuesFor q s (s.finishLsps2Service (handler.step env i)).1 := by
  have hmessages : ∀ m ∈ (handler.step env i).2.messages, m.1 = q := fun m hm =>
    handler.eq_of_concerns hroutes h (handler.exists_response_step env hm).1
  have hevents : ∀ ev ∈ (handler.step env i).2.events, ev.peer = q := fun ev hev =>
    handler.eq_of_concerns hroutes h (handler.peer_events_step env hev)
  refine ⟨?_, _, _, ⟨rfl, rfl⟩, List.forall_mem_map.2 hmessages, List.forall_mem_map.2 hevents⟩
  rw [finishLsps2Service, enqueue_without_of_forall (List.forall_mem_map.2 hmessages)]
  simp only [without, Option.map_some, handler.without_step env hscids hroutes h]

/-! ## Messages of peers -/

/-- A message of another peer. -/
theorem sameWithout_handleLspsMessage (env : Externals) (now : UInt64) (ids : Set RequestId)
    (scids : Set Scid) (s : LiquidityManager) (h : p ≠ q) (msg : LSPSMessage) :
    SameWithout q ids scids s (s.without q ids scids) (s.handleLspsMessage env now msg p)
      ((s.without q ids scids).handleLspsMessage env now msg p) := by
  have hself (e : ManagerError) : SameWithout q ids scids s (s.without q ids scids)
      (s, .err e) (s.without q ids scids, .err e) :=
    ⟨(without_without ..).symm, rfl, [], [], .refl _, .refl _⟩
  rcases msg with error | ⟨⟨requestId, request⟩ | ⟨requestId, response⟩⟩ |
    ⟨⟨requestId, request⟩ | ⟨requestId, response⟩⟩
  · exact hself _
  · have hhandler : (s.without q ids scids).lsps0ServiceHandler = s.lsps0ServiceHandler := rfl
    simp only [handleLspsMessage, hhandler]
    split
    · exact sameWithout_finishLsps0 ..
    · exact hself _
  · exact sameWithout_finishLsps0 ..
  · have hhandler : (s.without q ids scids).lsps2ServiceHandler =
      s.lsps2ServiceHandler.map fun handler => handler.without q scids := rfl
    simp only [handleLspsMessage, hhandler]
    cases s.lsps2ServiceHandler with
    | none => exact hself _
    | some handler =>
      exact sameWithout_finishLsps2Service
        (i := ⟨.handleMessage (.request requestId request) p, fun _ _ => .ok (), now⟩)
        (LSPS2ServiceHandler.handleMessage_without env now h _)
  · have hhandler : (s.without q ids scids).lsps2ClientHandler =
      s.lsps2ClientHandler.map fun handler => handler.without q := rfl
    simp only [handleLspsMessage, hhandler]
    cases s.lsps2ClientHandler with
    | none => exact hself _
    | some handler =>
      exact sameWithout_finishLsps2Client (.handleMessage (.response requestId response) p) h

/-- A message of the peer. -/
theorem Owns.onlyFor_handleLspsMessage (hs : Owns q ids scids s) (env : Externals) (now : UInt64)
    (msg : LSPSMessage) : OnlyFor q ids scids s (s.handleLspsMessage env now msg q).1 := by
  rcases msg with error | ⟨⟨requestId, request⟩ | ⟨requestId, response⟩⟩ |
    ⟨⟨requestId, request⟩ | ⟨requestId, response⟩⟩
  · exact .refl s
  · obtain ⟨⟨⟩⟩ := request
    simp only [handleLspsMessage]
    split
    · refine onlyFor_finishLsps0 ?_ ?_ <;>
        simp [LSPS0ServiceHandler.handleMessage, LSPS0ServiceHandler.handleRequest]
    · exact .refl s
  · refine onlyFor_finishLsps0 ?_ ?_ <;> cases response <;>
      simp [LSPS0ClientHandler.handleMessage, LSPS0ClientHandler.handleResponse,
        LSPS0ClientEvent.peer]
  · simp only [handleLspsMessage]
    split
    · next handler hhandler =>
      obtain ⟨hwithout, henqueues⟩ := finishLsps2Service_of_concerns env s ids
        (i := ⟨.handleMessage (.request requestId request) q, fun _ _ => .ok (), now⟩)
        (hs.routes handler hhandler) trivial rfl
      refine ⟨hwithout.trans ?_, henqueues⟩
      simp only [without, hhandler]
      rfl
    · exact .refl s
  · simp only [handleLspsMessage]
    split
    · next handler hhandler =>
      exact onlyFor_finishLsps2Client hhandler (.handleMessage (.response requestId response) q) rfl
    · exact .refl s

/-- A message of another peer, that does not answer a request to the peer. -/
theorem sameWithout_handleCustomMessage (h : p ≠ q) {payload : String}
    (hanswers : ∀ requestId, s.ignoredPeers p = none →
      LSPSMessage.answeredId serde payload = some requestId →
      (s.requestIdToMethodMap requestId).isSome → requestId ∉ ids) :
    SameWithout q ids scids s (s.without q ids scids)
      (s.handleCustomMessage env serde now payload p)
      ((s.without q ids scids).handleCustomMessage env serde now payload p) := by
  have hignored : (s.without q ids scids).ignoredPeers p = s.ignoredPeers p :=
    PartialMap.off_apply h
  rw [handleCustomMessage, handleCustomMessage, hignored]
  split
  · exact ⟨(without_without ..).symm, rfl, [], [], .refl _, .refl _⟩
  · next hnone =>
    rw [Option.not_isSome_iff_eq_none] at hnone
    -- The message is read the same: an id of the peer it answers is not on the map.
    have hfst : (LSPSMessage.fromStrWithIdMap serde payload (s.requestIdToMethodMap.off ids)).1 =
        (LSPSMessage.fromStrWithIdMap serde payload s.requestIdToMethodMap).1 := by
      refine LSPSMessage.fst_fromStrWithIdMap_congr fun requestId hid => ?_
      by_cases hmem : requestId ∈ ids
      · rw [PartialMap.off_apply_of_mem hmem]
        refine (Option.not_isSome_iff_eq_none.1 fun hsome => ?_).symm
        exact hanswers requestId hnone hid hsome hmem
      · exact PartialMap.off_apply hmem
    have hsnd : (LSPSMessage.fromStrWithIdMap serde payload (s.requestIdToMethodMap.off ids)).2 =
        (LSPSMessage.fromStrWithIdMap serde payload s.requestIdToMethodMap).2.off ids := by
      rw [LSPSMessage.snd_fromStrWithIdMap, LSPSMessage.snd_fromStrWithIdMap]
      cases LSPSMessage.answeredId serde payload with
      | none => rfl
      | some requestId => exact (PartialMap.off_remove requestId).symm
    have hread : LSPSMessage.fromStrWithIdMap serde payload
        (s.without q ids scids).requestIdToMethodMap =
          ((LSPSMessage.fromStrWithIdMap serde payload s.requestIdToMethodMap).1,
            (LSPSMessage.fromStrWithIdMap serde payload s.requestIdToMethodMap).2.off ids) :=
      Prod.ext hfst hsnd
    rw [hread]
    generalize LSPSMessage.fromStrWithIdMap serde payload s.requestIdToMethodMap = read
    obtain ⟨_ | message, map⟩ := read
    · refine ⟨?_, rfl, _, [], ⟨rfl, rfl⟩, ⟨rfl, rfl⟩⟩
      simp [enqueue, without, Function.comp_def, List.filter_append,
        PartialMap.off_insert (show p ∉ ({q} : Set PublicKey) from h)]
    · obtain ⟨hwithout, hresult, henqueues⟩ := sameWithout_handleLspsMessage env now ids scids
        { s with requestIdToMethodMap := map } h message
      exact ⟨hwithout, hresult, henqueues⟩

/-- A message of the peer, that does not answer a request to another peer. -/
theorem Owns.onlyFor_handleCustomMessage (hs : Owns q ids scids s) {payload : String}
    (hanswers : ∀ requestId, s.ignoredPeers q = none →
      LSPSMessage.answeredId serde payload = some requestId →
      (s.requestIdToMethodMap requestId).isSome → requestId ∈ ids) :
    OnlyFor q ids scids s (s.handleCustomMessage env serde now payload q).1 := by
  rw [handleCustomMessage]
  split
  · exact .refl s
  · next hnone =>
    rw [Option.not_isSome_iff_eq_none] at hnone
    have hsnd : (LSPSMessage.fromStrWithIdMap serde payload s.requestIdToMethodMap).2.off ids =
        s.requestIdToMethodMap.off ids := by
      rw [LSPSMessage.snd_fromStrWithIdMap]
      cases hid : LSPSMessage.answeredId serde payload with
      | none => rfl
      | some requestId =>
        rw [Option.elim_some]
        by_cases hmem : requestId ∈ ids
        · exact PartialMap.off_remove_of_mem hmem
        · rw [PartialMap.remove_eq_self_iff.2]
          refine Option.not_isSome_iff_eq_none.1 fun hsome => ?_
          exact hmem (hanswers requestId hnone hid hsome)
    generalize LSPSMessage.fromStrWithIdMap serde payload s.requestIdToMethodMap = read at hsnd
    obtain ⟨_ | message, map⟩ := read
    · refine ⟨?_, _, [], ⟨rfl, rfl⟩, by simp, fun _ h => absurd h List.not_mem_nil⟩
      simp only [enqueue, without, hsnd, List.filter_append,
        PartialMap.off_insert_of_mem (Set.mem_singleton q)]
      simp
    · have hs' : Owns q ids scids { s with requestIdToMethodMap := map } := ⟨hs.requests, hs.routes⟩
      obtain ⟨hwithout, henqueues⟩ := hs'.onlyFor_handleLspsMessage env now message
      refine ⟨hwithout.trans ?_, henqueues⟩
      simp only [without, hsnd]

/-! ## Calls -/

/-- Nothing a message makes the manager send is a request. -/
theorem mem_pendingMessages_handleLspsMessage {msg : LSPSMessage} {m : PublicKey × LSPSMessage}
    (h : m ∈ (s.handleLspsMessage env now msg p).1.pendingMessages) :
    m ∈ s.pendingMessages ∨ m.2.getRequestIdAndMethod = none := by
  rcases msg with error | ⟨⟨requestId, request⟩ | ⟨requestId, response⟩⟩ |
    ⟨⟨requestId, request⟩ | ⟨requestId, response⟩⟩
  · exact .inl h
  · obtain ⟨⟨⟩⟩ := request
    simp only [handleLspsMessage] at h
    split at h
    · refine (List.mem_append.1 h).imp id fun h => ?_
      obtain rfl := List.mem_singleton.1 h
      rfl
    · exact .inl h
  · refine (List.mem_append.1 h).imp id fun h => ?_
    cases response <;> exact absurd h List.not_mem_nil
  · simp only [handleLspsMessage] at h
    split at h
    · next handler _ =>
      refine (List.mem_append.1 h).imp id fun h => ?_
      obtain ⟨m', hm', rfl⟩ := List.mem_map.1 h
      obtain ⟨-, requestId', response, hresponse⟩ := handler.exists_response_step env
        (i := ⟨.handleMessage (.request requestId request) p, fun _ _ => .ok (), now⟩) hm'
      simp only [hresponse]
      rfl
    · exact .inl h
  · simp only [handleLspsMessage] at h
    split at h
    · next handler _ =>
      refine (List.mem_append.1 h).imp id fun h => ?_
      rw [handler.messages_handleMessage] at h
      exact absurd h List.not_mem_nil
    · exact .inl h

/-- The requests a call enqueues are to the peer it asks, under the id it draws. -/
theorem mem_pendingMessages_step {i : ManagerInput} {m : PublicKey × LSPSMessage}
    (h : m ∈ (s.step env serde i).1.pendingMessages) :
    m ∈ s.pendingMessages ∨ ∀ requestId method,
      m.2.getRequestIdAndMethod = some (requestId, method) →
        i.asks? = some m.1 ∧ requestId = generateRequestId i.entropy := by
  have hnone (h : m.2.getRequestIdAndMethod = none) : ∀ requestId method,
      m.2.getRequestIdAndMethod = some (requestId, method) →
        i.asks? = some m.1 ∧ requestId = generateRequestId i.entropy :=
    fun _ _ hsome => nomatch h.symm.trans hsome
  obtain ⟨call, cm, now, entropy⟩ := i
  cases call with
  | handleCustomMessage payload p =>
    simp only [step, handleCustomMessage] at h
    split at h
    · exact .inl h
    · -- What is read is at most answered, and what is not, with an error.
      rcases hread : LSPSMessage.fromStrWithIdMap serde payload s.requestIdToMethodMap with
        ⟨_ | message, map⟩
      · rw [hread] at h
        refine (List.mem_append.1 h).imp id fun h => hnone ?_
        obtain rfl := List.mem_singleton.1 h
        rfl
      · rw [hread] at h
        exact (mem_pendingMessages_handleLspsMessage h).imp id hnone
  | getAndClearPendingMsg => exact absurd h List.not_mem_nil
  | nextEvent | getAndClearPendingEvents => exact .inl h
  | listProtocols p =>
    refine (List.mem_append.1 h).imp id fun h => ?_
    obtain rfl := List.mem_singleton.1 h
    rintro _ _ ⟨⟩
    exact ⟨rfl, rfl⟩
  | requestOpeningParams p token =>
    simp only [step] at h
    split at h
    · refine (List.mem_append.1 h).imp id fun h => ?_
      obtain rfl := List.mem_singleton.1 h
      rintro _ _ ⟨⟩
      exact ⟨rfl, rfl⟩
    · exact .inl h
  | selectOpeningParams p size params =>
    simp only [step, LSPS2ClientHandler.selectOpeningParams] at h
    split at h
    · refine (List.mem_append.1 h).imp id fun h => ?_
      split at h
      · -- The offer is not asked for, as the id is in use.
        exact absurd h List.not_mem_nil
      · obtain rfl := List.mem_singleton.1 h
        rintro _ _ ⟨⟩
        exact ⟨rfl, rfl⟩
    · exact .inl h
  | service call =>
    simp only [step] at h
    split at h
    · refine (List.mem_append.1 h).imp id fun h => hnone ?_
      obtain ⟨m', hm', rfl⟩ := List.mem_map.1 h
      obtain ⟨-, requestId', response, hresponse⟩ := LSPS2ServiceHandler.exists_response_step _ env hm'
      simp only [hresponse]
      rfl
    · exact .inl h

/-- The ids of requests to the peer are drawn from a set, and others for others. -/
def ManagerInput.SeparatesIds (q : PublicKey) (ids : Set RequestId) (i : ManagerInput) : Prop :=
  ∀ p, i.asks? = some p → (generateRequestId i.entropy ∈ ids ↔ p = q)

/-- The short channel ids given out to the peer are in a set, and others for others. -/
def ManagerInput.SeparatesScids (q : PublicKey) (scids : Set Scid) (i : ManagerInput) : Prop :=
  ∀ call, i.call = .service call → call.call.SeparatesScids q scids

/-- A peer that is not ignored takes an id off the map of requests by an answer only if the
    request was sent to it, as far as the one peer is concerned. -/
def AnswersSeparately (serde : Serde) (q : PublicKey) (ids : Set RequestId) (s : LiquidityManager)
    (i : ManagerInput) : Prop :=
  ∀ payload p requestId, i.call = .handleCustomMessage payload p → s.ignoredPeers p = none →
    LSPSMessage.answeredId serde payload = some requestId →
      (s.requestIdToMethodMap requestId).isSome → (requestId ∈ ids ↔ p = q)

theorem routes_handleLspsMessage (hs : Owns q ids scids s) (msg : LSPSMessage)
    {handler : LSPS2ServiceHandler}
    (h : (s.handleLspsMessage env now msg p).1.lsps2ServiceHandler = some handler) :
    handler.RoutesSeparately q scids := by
  rcases msg with error | ⟨⟨requestId, request⟩ | ⟨requestId, response⟩⟩ |
    ⟨⟨requestId, request⟩ | ⟨requestId, response⟩⟩
  · exact hs.routes _ h
  · simp only [handleLspsMessage] at h
    split at h <;> exact hs.routes _ h
  · exact hs.routes _ h
  · simp only [handleLspsMessage] at h
    split at h
    · next handler' hhandler' =>
      obtain rfl := Option.some.inj h
      exact (hs.routes _ hhandler').step env
        (i := ⟨.handleMessage (.request requestId request) p, fun _ _ => .ok (), now⟩) trivial
    · exact hs.routes _ h
  · simp only [handleLspsMessage] at h
    split at h <;> exact hs.routes _ h

theorem routes_step (hs : Owns q ids scids s) {i : ManagerInput} (hscids : i.SeparatesScids q scids)
    {handler : LSPS2ServiceHandler}
    (h : (s.step env serde i).1.lsps2ServiceHandler = some handler) :
    handler.RoutesSeparately q scids := by
  obtain ⟨call, cm, now, entropy⟩ := i
  cases call with
  | handleCustomMessage payload p =>
    simp only [step, handleCustomMessage] at h
    split at h
    · exact hs.routes _ h
    · rcases hread : LSPSMessage.fromStrWithIdMap serde payload s.requestIdToMethodMap with
        ⟨_ | message, map⟩
      · rw [hread] at h
        exact hs.routes _ h
      · rw [hread] at h
        exact routes_handleLspsMessage (s := { s with requestIdToMethodMap := map })
          ⟨hs.requests, hs.routes⟩ message h
  | getAndClearPendingMsg | nextEvent | getAndClearPendingEvents | listProtocols =>
    exact hs.routes _ h
  | requestOpeningParams | selectOpeningParams =>
    simp only [step] at h
    split at h <;> exact hs.routes _ h
  | service call =>
    simp only [step] at h
    split at h
    · next handler' hhandler' =>
      obtain rfl := Option.some.inj h
      exact (hs.routes _ hhandler').step env (hscids call rfl)
    · exact hs.routes _ h

/-- Requests and short channel ids stay separate. -/
theorem Owns.step (hs : Owns q ids scids s) {i : ManagerInput} (hids : i.SeparatesIds q ids)
    (hscids : i.SeparatesScids q scids) : Owns q ids scids (s.step env serde i).1 where
  requests m hm requestId method hmethod := by
    rcases mem_pendingMessages_step hm with hm | hnew
    · exact hs.requests m hm requestId method hmethod
    · obtain ⟨hasks, rfl⟩ := hnew requestId method hmethod
      exact hids _ hasks
  routes _ h := routes_step hs hscids h

/-! ## Two states -/

variable {t : LiquidityManager} {i : ManagerInput}

/-- What is added to the queues is enqueued. -/
theorem seen_eq {messages : List (PublicKey × LSPSMessage)} {events : List Event}
    (h : Enqueues s (s.step env serde i).1 messages events) :
    s.seen env serde i =
      (match i.call with
        | .handleCustomMessage _ p => [Seen.outcome p (s.step env serde i).2.result]
        | _ => []) ++ events.map .event ++ messages.map fun (p, message) => .message p message := by
  rw [seen, enqueuedEvents, enqueuedMessages, h.1, h.2, List.drop_left, List.drop_left]

/-- A peer does not see what is done for another. -/
theorem seenBy_eq_nil (h : EnqueuesFor q s (s.step env serde i).1) (hp : p ≠ q)
    (hcall : ∀ payload, i.call ≠ .handleCustomMessage payload p) :
    s.seenBy env serde p i = [] := by
  obtain ⟨messages, events, henqueues, hmessages, hevents⟩ := h
  rw [seenBy, seen_eq henqueues, List.filter_eq_nil_iff]
  intro e he
  rw [List.mem_append, List.mem_append] at he
  rcases he with (he | he) | he
  · split at he
    · next payload p' hcall' =>
      obtain rfl := List.mem_singleton.1 he
      intro heq
      obtain rfl : p' = p := of_decide_eq_true heq
      exact hcall payload hcall'
    · exact absurd he List.not_mem_nil
  · obtain ⟨ev, hev, rfl⟩ := List.mem_map.1 he
    simpa [Seen.peer, hevents ev hev] using Ne.symm hp
  · obtain ⟨m, hm, rfl⟩ := List.mem_map.1 he
    simpa [Seen.peer, hmessages m hm] using Ne.symm hp

/-- What is seen of two calls that end the same and add the same to the queues. -/
theorem seenBy_congr {messages : List (PublicKey × LSPSMessage)} {events : List Event}
    (hs : Enqueues s (s.step env serde i).1 messages events)
    (ht : Enqueues t (t.step env serde i).1 messages events)
    (hresult : (s.step env serde i).2.result = (t.step env serde i).2.result) :
    s.seenBy env serde p i = t.seenBy env serde p i := by
  rw [seenBy, seenBy, seen_eq hs, seen_eq ht, hresult]

/-- A call that does the same without the peer keeps two states the same without it, and other
    peers see the same of the call. -/
theorem same_of_sameWithout (hst : s.without q ids scids = t.without q ids scids)
    (hs : SameWithout q ids scids s (s.without q ids scids)
      ((s.step env serde i).1, (s.step env serde i).2.result)
      (((s.without q ids scids).step env serde i).1,
        ((s.without q ids scids).step env serde i).2.result))
    (ht : SameWithout q ids scids t (t.without q ids scids)
      ((t.step env serde i).1, (t.step env serde i).2.result)
      (((t.without q ids scids).step env serde i).1,
        ((t.without q ids scids).step env serde i).2.result)) :
    (s.step env serde i).1.without q ids scids = (t.step env serde i).1.without q ids scids ∧
      s.seenBy env serde p i = t.seenBy env serde p i := by
  rw [← hst] at ht
  obtain ⟨messages, events, henqueues, hmessages, hevents⟩ := hs.enqueues
  obtain ⟨messages', events', henqueues', hmessages', hevents'⟩ := ht.enqueues
  obtain rfl := List.append_cancel_left (hmessages.symm.trans hmessages')
  obtain rfl := List.append_cancel_left (hevents.symm.trans hevents')
  exact ⟨hs.without.trans ht.without.symm,
    seenBy_congr henqueues henqueues' (hs.result.trans ht.result.symm)⟩

/-- A call that only concerns the peer keeps two states the same without it, and other peers see
    nothing of the call. -/
theorem same_of_onlyFor (hst : s.without q ids scids = t.without q ids scids)
    (hs : OnlyFor q ids scids s (s.step env serde i).1)
    (ht : OnlyFor q ids scids t (t.step env serde i).1) (hp : p ≠ q)
    (hcall : ∀ payload, i.call ≠ .handleCustomMessage payload p) :
    (s.step env serde i).1.without q ids scids = (t.step env serde i).1.without q ids scids ∧
      s.seenBy env serde p i = t.seenBy env serde p i := by
  rw [seenBy_eq_nil hs.enqueues hp hcall, seenBy_eq_nil ht.enqueues hp hcall]
  exact ⟨hs.without.trans (hst.trans ht.without.symm), rfl⟩

/-- The two states have the same handlers, without the peer. -/
theorem handlers_eq (h : s.without q ids scids = t.without q ids scids) :
    s.lsps2ClientHandler.map (fun handler => handler.without q) =
        t.lsps2ClientHandler.map (fun handler => handler.without q) ∧
      s.lsps2ServiceHandler.map (fun handler => handler.without q scids) =
        t.lsps2ServiceHandler.map (fun handler => handler.without q scids) :=
  ⟨congrArg lsps2ClientHandler h, congrArg lsps2ServiceHandler h⟩

/-- A message of the peer. -/
theorem Owns.onlyFor_step (hs : Owns q ids scids s) (env : Externals) {payload : String}
    (hcall : i.call = .handleCustomMessage payload q) (hanswers : AnswersSeparately serde q ids s i) :
    OnlyFor q ids scids s (s.step env serde i).1 := by
  obtain ⟨call, cm, now, entropy⟩ := i
  obtain rfl : call = _ := hcall
  exact hs.onlyFor_handleCustomMessage fun requestId hnone hid hsome =>
    (hanswers payload q requestId rfl hnone hid hsome).2 rfl

/-- The requests to the peer only set methods of its ids. -/
theorem off_foldl_insert {messages : List (PublicKey × LSPSMessage)}
    (h : ∀ m ∈ messages, ∀ requestId method,
      m.2.getRequestIdAndMethod = some (requestId, method) → (requestId ∈ ids ↔ m.1 = q))
    (map : PartialMap RequestId LSPSMethod) :
    ((messages.filterMap fun m => m.2.getRequestIdAndMethod).foldl
        (fun map e => PartialMap.insert map e.1 e.2) map).off ids =
      (((messages.filter fun m => m.1 ≠ q).filterMap fun m => m.2.getRequestIdAndMethod).foldl
        (fun map e => PartialMap.insert map e.1 e.2) (map.off ids)).off ids := by
  induction messages generalizing map with
  | nil => exact (PartialMap.off_off map ids).symm
  | cons m messages ih =>
    replace ih := ih fun m' hm' => h m' (List.mem_cons_of_mem m hm')
    replace h := h m List.mem_cons_self
    by_cases hm : m.1 = q
    · rw [List.filter_cons_of_neg (by simpa using hm)]
      rcases hmsg : m.2.getRequestIdAndMethod with _ | ⟨requestId, method⟩
      · simp only [List.filterMap_cons, hmsg]
        exact ih map
      · have hmem : requestId ∈ ids := (h requestId method hmsg).2 hm
        simp only [List.filterMap_cons, hmsg, List.foldl_cons]
        rw [ih, PartialMap.off_insert_of_mem hmem]
    · rw [List.filter_cons_of_pos (by simpa using hm)]
      rcases hmsg : m.2.getRequestIdAndMethod with _ | ⟨requestId, method⟩
      · simp only [List.filterMap_cons, hmsg]
        exact ih map
      · have hmem : requestId ∉ ids := fun hmem => hm ((h requestId method hmsg).1 hmem)
        simp only [List.filterMap_cons, hmsg, List.foldl_cons]
        rw [ih, PartialMap.off_insert hmem]

/-- The messages fetched leave, without the peer, the methods of the requests to others. -/
theorem Owns.without_getAndClearPendingMsg (hs : Owns q ids scids s) :
    (s.getAndClearPendingMsg serde).1.without q ids scids =
      ((s.without q ids scids).getAndClearPendingMsg serde).1.without q ids scids := by
  have hmap : (s.getAndClearPendingMsg serde).1.requestIdToMethodMap.off ids =
      ((s.without q ids scids).getAndClearPendingMsg serde).1.requestIdToMethodMap.off ids :=
    off_foldl_insert hs.requests s.requestIdToMethodMap
  rw [without, hmap]
  simp [getAndClearPendingMsg, without, Function.comp_def]

theorem SameWithout.refl (s : LiquidityManager) (result : Outcome ManagerError) :
    SameWithout q ids scids s (s.without q ids scids) (s, result)
      (s.without q ids scids, result) :=
  ⟨(without_without ..).symm, rfl, [], [], .refl _, .refl _⟩

/-- A call to the client keeps two states the same without the peer, and other peers see the
    same of it. -/
theorem same_client (call : ClientCall)
    (hstep : ∀ s : LiquidityManager, ((s.step env serde i).1, (s.step env serde i).2.result) =
      s.lsps2ClientHandler.elim (s, .ok) fun handler => s.finishLsps2Client (handler.step call))
    (hcall : ∀ payload, i.call ≠ .handleCustomMessage payload p) (hp : p ≠ q)
    (hst : s.without q ids scids = t.without q ids scids) :
    (s.step env serde i).1.without q ids scids = (t.step env serde i).1.without q ids scids ∧
      s.seenBy env serde p i = t.seenBy env serde p i := by
  by_cases hq : call.peer = q
  · have honly (s : LiquidityManager) : OnlyFor q ids scids s (s.step env serde i).1 := by
      rw [congrArg Prod.fst (hstep s)]
      cases hs : s.lsps2ClientHandler with
      | none => exact .refl s
      | some handler => exact onlyFor_finishLsps2Client hs call hq
    exact same_of_onlyFor hst (honly s) (honly t) hp hcall
  · have hsame (s : LiquidityManager) : SameWithout q ids scids s (s.without q ids scids)
        ((s.step env serde i).1, (s.step env serde i).2.result)
        (((s.without q ids scids).step env serde i).1,
          ((s.without q ids scids).step env serde i).2.result) := by
      rw [hstep, hstep]
      have hhandler : (s.without q ids scids).lsps2ClientHandler =
        s.lsps2ClientHandler.map fun handler => handler.without q := rfl
      rw [hhandler]
      cases s.lsps2ClientHandler with
      | none => exact .refl s _
      | some handler => exact sameWithout_finishLsps2Client call hq
    exact same_of_sameWithout hst (hsame s) (hsame t)

/-- What handlers that are the same without the peer know of channel ids. -/
theorem peerByChannelId_eq {handler handler' : LSPS2ServiceHandler}
    (h : handler.without q scids = handler'.without q scids) :
    handler.peerByChannelId = handler'.peerByChannelId := by
  have hpeers := congrArg LSPS2ServiceHandler.peerByChannelId h
  exact hpeers

/-- A call to the service that does not concern the peer does the same without it. -/
theorem sameWithout_service {j : ServiceInput}
    (hstep : ∀ s : LiquidityManager, ((s.step env serde i).1, (s.step env serde i).2.result) =
      s.lsps2ServiceHandler.elim (s, .ok) fun handler => s.finishLsps2Service (handler.step env j))
    (hscids : j.call.SeparatesScids q scids) (hs : Owns q ids scids s)
    (hother : ∀ handler, s.lsps2ServiceHandler = some handler →
      ¬j.call.Concerns q scids handler.peerByChannelId) :
    SameWithout q ids scids s (s.without q ids scids)
      ((s.step env serde i).1, (s.step env serde i).2.result)
      (((s.without q ids scids).step env serde i).1,
        ((s.without q ids scids).step env serde i).2.result) := by
  rw [hstep, hstep]
  have hhandler : (s.without q ids scids).lsps2ServiceHandler =
    s.lsps2ServiceHandler.map fun handler => handler.without q scids := rfl
  rw [hhandler]
  cases hshandler : s.lsps2ServiceHandler with
  | none => exact .refl s _
  | some handler =>
    exact sameWithout_finishLsps2Service
      (handler.step_without env hscids (hs.routes handler hshandler) (hother handler hshandler))

/-- A call to the service keeps two states the same without the peer, and other peers see the
    same of it. -/
theorem same_service {j : ServiceInput}
    (hstep : ∀ s : LiquidityManager, ((s.step env serde i).1, (s.step env serde i).2.result) =
      s.lsps2ServiceHandler.elim (s, .ok) fun handler => s.finishLsps2Service (handler.step env j))
    (hcall : ∀ payload, i.call ≠ .handleCustomMessage payload p) (hp : p ≠ q)
    (hscids : j.call.SeparatesScids q scids) (hs : Owns q ids scids s) (ht : Owns q ids scids t)
    (hst : s.without q ids scids = t.without q ids scids) :
    (s.step env serde i).1.without q ids scids = (t.step env serde i).1.without q ids scids ∧
      s.seenBy env serde p i = t.seenBy env serde p i := by
  have hservice := (handlers_eq hst).2
  by_cases hq : ∃ handler, s.lsps2ServiceHandler = some handler ∧
      j.call.Concerns q scids handler.peerByChannelId
  · -- The call concerns the peer: only the peers of channel ids are changed, and alike.
    obtain ⟨handler, hshandler, hconcerns⟩ := hq
    rw [hshandler, Option.map_some, eq_comm, Option.map_eq_some_iff] at hservice
    obtain ⟨handler', hthandler, hhandler⟩ := hservice
    have hpeers := peerByChannelId_eq hhandler
    obtain ⟨hswithout, hsqueues⟩ := finishLsps2Service_of_concerns env s ids
      (hs.routes handler hshandler) hscids hconcerns
    obtain ⟨htwithout, htqueues⟩ := finishLsps2Service_of_concerns env t ids
      (ht.routes handler' hthandler) hscids (hpeers.symm ▸ hconcerns)
    have hsfst : (s.step env serde i).1 = (s.finishLsps2Service (handler.step env j)).1 := by
      rw [congrArg Prod.fst (hstep s), hshandler, Option.elim_some]
    have htfst : (t.step env serde i).1 = (t.finishLsps2Service (handler'.step env j)).1 := by
      rw [congrArg Prod.fst (hstep t), hthandler, Option.elim_some]
    rw [seenBy_eq_nil (hsfst.symm ▸ hsqueues) hp hcall, seenBy_eq_nil (htfst.symm ▸ htqueues) hp hcall,
      hsfst, htfst, hswithout, htwithout, hst, hhandler, hpeers]
    exact ⟨rfl, rfl⟩
  · -- It concerns the peer in neither state.
    have hsother : ∀ handler, s.lsps2ServiceHandler = some handler →
        ¬j.call.Concerns q scids handler.peerByChannelId :=
      fun handler hhandler hconcerns => hq ⟨handler, hhandler, hconcerns⟩
    have htother : ∀ handler, t.lsps2ServiceHandler = some handler →
        ¬j.call.Concerns q scids handler.peerByChannelId := by
      intro handler' hthandler hconcerns
      rw [hthandler, Option.map_some, Option.map_eq_some_iff] at hservice
      obtain ⟨handler, hshandler, hhandler⟩ := hservice
      exact hq ⟨handler, hshandler, (peerByChannelId_eq hhandler).symm ▸ hconcerns⟩
    exact same_of_sameWithout hst (sameWithout_service hstep hscids hs hsother)
      (sameWithout_service hstep hscids ht htother)

/-- Every call keeps two states the same without the peer, and other peers see the same. -/
theorem same_step (hs : Owns q ids scids s) (ht : Owns q ids scids t)
    (hst : s.without q ids scids = t.without q ids scids) (hp : p ≠ q)
    (hscids : i.SeparatesScids q scids) (hsanswers : AnswersSeparately serde q ids s i)
    (htanswers : AnswersSeparately serde q ids t i) :
    (s.step env serde i).1.without q ids scids = (t.step env serde i).1.without q ids scids ∧
      s.seenBy env serde p i = t.seenBy env serde p i := by
  obtain ⟨call, cm, now, entropy⟩ := i
  cases call with
  | handleCustomMessage payload p' =>
    -- A text of the peer is seen by no other; a text of another is read the same in both states,
    -- as it answers none of the ids of the peer.
    by_cases hp' : p' = q
    · subst hp'
      exact same_of_onlyFor hst (hs.onlyFor_step env rfl hsanswers)
        (ht.onlyFor_step env rfl htanswers) hp
        fun payload' h => hp (ManagerCall.handleCustomMessage.inj h).2.symm
    · exact same_of_sameWithout hst
        (sameWithout_handleCustomMessage hp' fun requestId hnone hid hsome hmem =>
          hp' ((hsanswers payload p' requestId rfl hnone hid hsome).1 hmem))
        (sameWithout_handleCustomMessage hp' fun requestId hnone hid hsome hmem =>
          hp' ((htanswers payload p' requestId rfl hnone hid hsome).1 hmem))
  | getAndClearPendingMsg =>
    refine ⟨?_, ?_⟩
    · show (s.getAndClearPendingMsg serde).1.without q ids scids = _
      rw [hs.without_getAndClearPendingMsg, hst, ← ht.without_getAndClearPendingMsg]
      rfl
    · simp [seenBy, seen, enqueuedEvents, enqueuedMessages, step, getAndClearPendingMsg]
  -- Taking from the queues adds nothing that a peer could see.
  | nextEvent | getAndClearPendingEvents =>
    refine ⟨hst, ?_⟩
    simp [seenBy, seen, enqueuedEvents, enqueuedMessages, step, List.drop_eq_nil_of_le]
  | listProtocols p' =>
    refine ⟨?_, seenBy_congr ⟨rfl, rfl⟩ ⟨rfl, rfl⟩ rfl⟩
    simp only [step]
    rw [enqueue_without s, hst, ← enqueue_without]
  | requestOpeningParams p' token =>
    refine same_client (.requestOpeningParams (generateRequestId entropy) p' token)
      (fun s => ?_) (by simp) hp hst
    simp only [step]
    cases s.lsps2ClientHandler <;> rfl
  | selectOpeningParams p' size params =>
    refine same_client (.selectOpeningParams (generateRequestId entropy) p' size params)
      (fun s => ?_) (by simp) hp hst
    simp only [step]
    cases s.lsps2ClientHandler <;> rfl
  | service call =>
    refine same_service (j := ⟨call.call, cm, now⟩) (fun s => ?_) (by simp) hp (hscids call rfl)
      hs ht hst
    simp only [step]
    cases s.lsps2ServiceHandler <;> rfl

/-! ## Runs -/

/-- A message of a peer. -/
def ManagerInput.IsMessageOf (q : PublicKey) (i : ManagerInput) : Prop :=
  ∃ payload, i.call = .handleCustomMessage payload q

/-- In the second run, a peer is treated as in the first: it sees the same, is ignored exactly if
    it is there, and the states kept of it are the same. -/
structure SameFor (env : Externals) (serde : Serde) (p : PublicKey) (s₀ : LiquidityManager)
    (is js : List ManagerInput) : Prop where
  seen : (machine env serde).gather (fun s i => s.seenBy env serde p i) s₀ is =
    (machine env serde).gather (fun s i => s.seenBy env serde p i) s₀ js
  ignored : ((machine env serde).exec s₀ is).ignoredPeers p =
    ((machine env serde).exec s₀ js).ignoredPeers p
  client : ((machine env serde).exec s₀ is).lsps2ClientHandler.map (fun h => h.perPeerState p) =
    ((machine env serde).exec s₀ js).lsps2ClientHandler.map fun h => h.perPeerState p
  service : ((machine env serde).exec s₀ is).lsps2ServiceHandler.map (fun h => h.perPeerState p) =
    ((machine env serde).exec s₀ js).lsps2ServiceHandler.map fun h => h.perPeerState p

/-- What concerns the one peer is separate from the others at a step, which returns: the ids of
    requests to it, and who answers them. -/
structure Separate (env : Externals) (serde : Serde) (q : PublicKey) (ids : Set RequestId)
    (s : LiquidityManager) (i : ManagerInput) : Prop where
  requests : i.SeparatesIds q ids
  answers : AnswersSeparately serde q ids s i
  returns : Returns (s.step env serde i).2

/-- Of other peers, all is kept. -/
theorem ignoredPeers_without (hp : p ≠ q) (s : LiquidityManager) :
    (s.without q ids scids).ignoredPeers p = s.ignoredPeers p := PartialMap.off_apply hp

theorem client_without (hp : p ≠ q) (s : LiquidityManager) :
    (s.without q ids scids).lsps2ClientHandler.map (fun h => h.perPeerState p) =
      s.lsps2ClientHandler.map fun h => h.perPeerState p := by
  rw [without]
  cases s.lsps2ClientHandler with
  | none => rfl
  | some handler => exact congrArg some (LSPS2ClientHandler.perPeerState_without hp)

theorem service_without (hp : p ≠ q) (s : LiquidityManager) :
    (s.without q ids scids).lsps2ServiceHandler.map (fun h => h.perPeerState p) =
      s.lsps2ServiceHandler.map fun h => h.perPeerState p := by
  rw [without]
  cases s.lsps2ServiceHandler with
  | none => rfl
  | some handler => exact congrArg some (LSPS2ServiceHandler.perPeerState_without hp)

theorem Owns.new (serviceConfig : Option LiquidityServiceConfig)
    (clientConfig : Option LiquidityClientConfig) :
    Owns q ids scids (.new serviceConfig clientConfig) where
  requests _ h := absurd h List.not_mem_nil
  routes handler h scid p hp := by
    simp only [LiquidityManager.new, Option.bind_eq_some_iff, Option.map_eq_some_iff] at h
    obtain ⟨_, _, _, _, rfl⟩ := h
    cases hp

/-- Two states are the same without the peer. -/
structure AgreeOff (q : PublicKey) (ids : Set RequestId) (scids : Set Scid)
    (s t : LiquidityManager) : Prop where
  without : s.without q ids scids = t.without q ids scids
  left : Owns q ids scids s
  right : Owns q ids scids t

/-- What others see does not depend on the messages of the peer. -/
theorem AgreeOff.sameFor (h : AgreeOff q ids scids s t) (hp : p ≠ q) :
    s.ignoredPeers p = t.ignoredPeers p ∧
      s.lsps2ClientHandler.map (fun h => h.perPeerState p) =
        t.lsps2ClientHandler.map (fun h => h.perPeerState p) ∧
      s.lsps2ServiceHandler.map (fun h => h.perPeerState p) =
        t.lsps2ServiceHandler.map fun h => h.perPeerState p := by
  refine ⟨?_, ?_, ?_⟩
  · rw [← ignoredPeers_without hp, h.without, ignoredPeers_without hp]
  · rw [← client_without hp, h.without, client_without hp]
  · rw [← service_without hp, h.without, service_without hp]

/-- **Peers do not interfere.** Messages of a peer inserted anywhere into a run change nothing for
    another peer, if the short channel ids given out to the peer are given out to no other; in
    every two runs without a panic of which the ids of the requests to the peer are those of no
    other, and in which it answers no requests pending of others, nor others those of the peer. -/
theorem isolated_of_separate (env : Externals) (serde : Serde)
    (serviceConfig : Option LiquidityServiceConfig) (clientConfig : Option LiquidityClientConfig)
    (p q : PublicKey) (hp : p ≠ q) (ids : Set RequestId) (scids : Set Scid)
    (is js : List ManagerInput) (hjs : Inserts (ManagerInput.IsMessageOf q) is js)
    (hscids : ∀ i ∈ js, i.SeparatesScids q scids)
    (his : (machine env serde).Along (Separate env serde q ids) (.new serviceConfig clientConfig) is)
    (hjs' : (machine env serde).Along (Separate env serde q ids) (.new serviceConfig clientConfig)
      js) :
    SameFor env serde p (.new serviceConfig clientConfig) is js := by
  let allowed (s : LiquidityManager) (i : ManagerInput) : Prop :=
    Separate env serde q ids s i ∧ i.SeparatesScids q scids
  have hboth : ∀ s t i, AgreeOff q ids scids s t → allowed s i → allowed t i →
      AgreeOff q ids scids (s.step env serde i).1 (t.step env serde i).1 ∧
        s.seenBy env serde p i = t.seenBy env serde p i := by
    rintro s t i ⟨hst, hs, ht⟩ ⟨⟨hids, hsanswers, -⟩, hscids⟩ ⟨⟨-, htanswers, -⟩, -⟩
    obtain ⟨hwithout, hseen⟩ := same_step hs ht hst hp hscids hsanswers htanswers
    exact ⟨⟨hwithout, hs.step hids hscids, ht.step hids hscids⟩, hseen⟩
  have hinsert : ∀ s t i, AgreeOff q ids scids s t → i.IsMessageOf q → allowed t i →
      AgreeOff q ids scids s (t.step env serde i).1 ∧ t.seenBy env serde p i = [] := by
    rintro s t i ⟨hst, hs, ht⟩ ⟨payload, hcall⟩ ⟨⟨hids, htanswers, -⟩, hscids⟩
    have honly := ht.onlyFor_step env hcall htanswers
    refine ⟨⟨hst.trans honly.without.symm, hs, ht.step hids hscids⟩, ?_⟩
    refine seenBy_eq_nil honly.enqueues hp fun payload' hcall' => ?_
    exact hp (ManagerCall.handleCustomMessage.inj (hcall'.symm.trans hcall)).2
  have hnew : AgreeOff q ids scids (.new serviceConfig clientConfig)
      (.new serviceConfig clientConfig) :=
    ⟨rfl, .new .., .new ..⟩
  have his := his.and_forall fun i hi => hscids i (hjs.subset hi)
  obtain ⟨hagree, hseen⟩ := hjs.unwind (m := machine env serde) hboth hinsert hnew his
    (hjs'.and_forall hscids)
  obtain ⟨hignored, hclient, hservice⟩ := hagree.sameFor hp
  exact ⟨hseen, hignored, hclient, hservice⟩

/-! ## An answer in place of the peer asked -/

/-- A peer is asked for its protocols and answers, after other messages. -/
def sampleIsolationRun (inserted : List ManagerCall) : List ManagerInput :=
  sampleCall (.listProtocols ⟨1⟩) :: sampleCall .getAndClearPendingMsg ::
    (inserted.map sampleCall ++ [sampleCall (.handleCustomMessage sampleProtocolsText ⟨1⟩)])

/-- A message another peer sends before the answer. -/
theorem inserts_sampleIsolationRun (payload : String) :
    Inserts (ManagerInput.IsMessageOf ⟨2⟩) (sampleIsolationRun [])
      (sampleIsolationRun [.handleCustomMessage payload ⟨2⟩]) :=
  .both _ <| .both _ <| .insert ⟨payload, rfl⟩ <| .both _ .nil

/-- A call for the peer asked is separate from the other. -/
theorem separate_sampleCall (s : LiquidityManager) {call : ManagerCall}
    (hasks : ∀ p, (sampleCall call).asks? = some p → p = ⟨1⟩)
    (hcall : ∀ payload p, call = .handleCustomMessage payload p → p = ⟨1⟩ ∨
      LSPSMessage.answeredId sampleProtocolsSerde payload = none) :
    (sampleCall call).SeparatesIds ⟨2⟩ ∅ ∧
      AnswersSeparately sampleProtocolsSerde ⟨2⟩ ∅ s (sampleCall call) := by
  refine ⟨fun p hp => ?_, fun payload p requestId hp _ hid _ => ?_⟩
  · obtain rfl := hasks p hp
    exact iff_of_false (Set.notMem_empty _) nofun
  · rcases hcall payload p hp with rfl | hnone
    · exact iff_of_false (Set.notMem_empty _) nofun
    · cases hnone.symm.trans hid

/-- With nothing inserted, or an unreadable message of another peer, the run is separate. -/
theorem along_separate_sampleIsolationRun {inserted : List ManagerCall}
    (h : ∀ call ∈ inserted, call = .handleCustomMessage "" ⟨2⟩)
    (hreturns : (machine sampleExternals sampleProtocolsSerde).Outputs Returns (.new none none)
      (sampleIsolationRun inserted)) :
    (machine sampleExternals sampleProtocolsSerde).Along
      (Separate sampleExternals sampleProtocolsSerde ⟨2⟩ ∅) (.new none none)
      (sampleIsolationRun inserted) := by
  have hseparate : ∀ s, ∀ i ∈ sampleIsolationRun inserted,
      i.SeparatesIds ⟨2⟩ ∅ ∧ AnswersSeparately sampleProtocolsSerde ⟨2⟩ ∅ s i := by
    intro s i hi
    simp only [sampleIsolationRun, List.mem_cons, List.mem_append, List.mem_map,
      List.not_mem_nil, or_false] at hi
    obtain rfl | rfl | ⟨call, hcall, rfl⟩ | rfl := hi
    · exact separate_sampleCall s (by rintro _ ⟨⟩; rfl) nofun
    · exact separate_sampleCall s nofun nofun
    · obtain rfl := h call hcall
      refine separate_sampleCall s nofun ?_
      rintro _ _ ⟨⟩
      exact .inr (by decide +kernel)
    · exact separate_sampleCall s nofun (by rintro _ _ ⟨⟩; exact .inl rfl)
  refine (hreturns.and_forall fun i hi => hi).mono fun s i ⟨hreturns, hi⟩ => ?_
  exact ⟨(hseparate s i hi).1, (hseparate s i hi).2, hreturns⟩

/-- An unreadable message of another peer changes nothing for the peer that answers. -/
theorem isolated_unreadable :
    SameFor sampleExternals sampleProtocolsSerde ⟨1⟩ (.new none none) (sampleIsolationRun [])
      (sampleIsolationRun [.handleCustomMessage "" ⟨2⟩]) := by
  refine isolated_of_separate sampleExternals sampleProtocolsSerde none none ⟨1⟩ ⟨2⟩ (by decide) ∅ ∅
    _ _ (inserts_sampleIsolationRun "") (fun i hi call hcall => ?_)
    (along_separate_sampleIsolationRun (by simp) (by decide +kernel))
    (along_separate_sampleIsolationRun (by simp) (by decide +kernel))
  rcases hi with _ | ⟨_, _ | ⟨_, _ | ⟨_, _ | ⟨_, ⟨⟩⟩⟩⟩⟩ <;> cases hcall

/-- An answer of another peer than the one asked makes the peer asked ignored, in a run without
    any channels in which no call panics. -/
theorem not_isolated :
    ¬∀ (env : Externals) (serde : Serde) (serviceConfig : Option LiquidityServiceConfig)
      (clientConfig : Option LiquidityClientConfig) (p q : PublicKey), p ≠ q →
      ∀ is js : List ManagerInput, Inserts (ManagerInput.IsMessageOf q) is js →
        (∀ i ∈ js, ∀ call, i.call ≠ .service call) →
        (machine env serde).Outputs Returns (.new serviceConfig clientConfig) is →
        (machine env serde).Outputs Returns (.new serviceConfig clientConfig) js →
          SameFor env serde p (.new serviceConfig clientConfig) is js := by
  intro h
  have hsame := h sampleExternals sampleProtocolsSerde none none ⟨1⟩ ⟨2⟩ (by decide) _ _
    (inserts_sampleIsolationRun sampleProtocolsText) (fun i hi call hcall => ?_)
    (by decide +kernel) (by decide +kernel)
  · have hignored := hsame.ignored
    revert hignored
    decide +kernel
  · rcases hi with _ | ⟨_, _ | ⟨_, _ | ⟨_, _ | ⟨_, ⟨⟩⟩⟩⟩⟩ <;> cases hcall

end LiquidityManager

end LightningLiquidity
