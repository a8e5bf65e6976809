import LightningLiquidity.Lib.LockParts
import LightningLiquidity.Lsps2.Client.Effects
import LightningLiquidity.Lsps2.Service.Locks
import LightningLiquidity.Lsps2.Service.Replies
import LightningLiquidity.Manager.Chain

/-!
# The locks of the manager

A call to the manager acquires locks of its own, of the handler it is for, and of
the queues of messages and events (`ManagerLock`). A message is enqueued once the
locks of the handler are released, and the callback of the queue is then called
while it is locked to read; some events are enqueued under the locks of the handler
they come from. What a call acquires depends on what it finds (`lockOps`); any
number of threads make calls, interleaved in any way (`lockMachine`).

* `guards_step`: what a call changes is behind a lock that it acquires to write.
-/

namespace LightningLiquidity

/-- The locks of the client of LSPS2. -/
inductive ClientLock
  | perPeerState
  | peerState (p : PublicKey)
  deriving DecidableEq

/-- The locks of the manager. -/
inductive ManagerLock
  | service (l : ServiceLock)
  | client (l : ClientLock)
  | ignoredPeers
  | requestIdToMethodMap
  | bestBlock
  /-- The `queue` of the message queue. -/
  | messages
  | processMsgsCallback
  /-- The `queue` of the event queue. -/
  | events
  | waker
  deriving DecidableEq

/-- The locks of the service. -/
def servicePart : ManagerLock ≃. ServiceLock where
  toFun
    | .service l => some l
    | _ => none
  invFun l := some (.service l)
  inv a l := by cases a <;> simp [eq_comm]

/-- The locks of the client. -/
def clientPart : ManagerLock ≃. ClientLock where
  toFun
    | .client l => some l
    | _ => none
  invFun l := some (.client l)
  inv a l := by cases a <;> simp [eq_comm]

@[simp] theorem servicePart_service (l : ServiceLock) : servicePart (.service l) = some l := rfl

@[simp] theorem clientPart_client (l : ClientLock) : clientPart (.client l) = some l := rfl

/-! ## The queues -/

/-- What is fetched from the queues, as it is found. -/
inductive Fetch
  | getAndClearPendingMsg (anyRequest : Bool)
  | nextEvent
  | getAndClearPendingEvents
  /-- `EventFuture::poll` -/
  | poll (isEmpty : Bool)
  /-- The queue is found empty a number of times before. -/
  | waitNextEvent (waits : ℕ) (shouldNotify : Bool)

namespace Fetch

/-- The acquisitions and releases of a fetch. -/
def lockOps : Fetch → List (LockOp ManagerLock)
  | getAndClearPendingMsg anyRequest =>
    LockOp.nested [(.messages, .write)] ++
      if anyRequest then LockOp.nested [(.requestIdToMethodMap, .write)] else []
  | nextEvent | getAndClearPendingEvents => LockOp.nested [(.events, .write)]
  -- The queue is still locked when the waker is registered.
  | poll isEmpty => LockOp.nested <|
    (.events, .write) :: if isEmpty then [(.waker, .write)] else []
  | waitNextEvent waits shouldNotify =>
    (List.range (waits + 1)).flatMap (fun _ => LockOp.nested [(.events, .write)]) ++
      if shouldNotify then LockOp.nested [(.waker, .write)] else []

end Fetch

/-- The acquisitions and releases of `MessageQueue::enqueue`, by what the callback fetches if
    there is one. -/
def enqueueMessageOps (callback : Option (List Fetch)) : List (LockOp ManagerLock) :=
  LockOp.nested [(.messages, .write)] ++
    LockOp.around [(.processMsgsCallback, .read)] ((callback.getD []).flatMap Fetch.lockOps)

/-- The acquisitions and releases of `EventQueue::enqueue`. -/
def enqueueEventOps : List (LockOp ManagerLock) :=
  LockOp.nested [(.events, .write)] ++ LockOp.nested [(.waker, .write)]

/-- Those of enqueueing messages. -/
def messagesOps {α : Type} (callback : Option (List Fetch)) (messages : List α) :
    List (LockOp ManagerLock) :=
  messages.flatMap fun _ => enqueueMessageOps callback

/-- Those of enqueueing events. -/
def eventsOps {α : Type} (events : List α) : List (LockOp ManagerLock) :=
  events.flatMap fun _ => enqueueEventOps

/-! ## The handlers -/

/-- The locks acquired by the client to get at the state of a peer. -/
def LSPS2ClientHandler.peerLocks (self : LSPS2ClientHandler) (p : PublicKey) :
    List (ClientLock × LockMode) :=
  (.perPeerState, .read) :: ((self.perPeerState p).elim [] fun _ => [(.peerState p, .write)])

/-- The locks acquired by the client to keep a request. -/
def LSPS2ClientHandler.keepRequestLocks (p : PublicKey) : List (ClientLock × LockMode) :=
  [(.perPeerState, .write), (.peerState p, .write)]

/-- The locks of the client, as locks of the manager. -/
def clientLocks (ls : List (ClientLock × LockMode)) : List (ManagerLock × LockMode) :=
  ls.map fun l => (.client l.1, l.2)

/-- The locks of the service, as locks of the manager. -/
def serviceLocks (ls : List (ServiceLock × LockMode)) : List (ManagerLock × LockMode) :=
  ls.map fun l => (.service l.1, l.2)

/-- What a response acquires and releases in the client, where events are enqueued under its
    locks. -/
def LSPS2ClientHandler.responseOps (self : LSPS2ClientHandler) (message : LSPS2Message)
    (p : PublicKey) : List (LockOp ManagerLock) :=
  LockOp.around (clientLocks (self.peerLocks p)) (eventsOps (self.handleMessage message p).2.events)

/-- What a request of the user acquires and releases in the client, by the message it gives. -/
def LSPS2ClientHandler.requestOps (callback : Option (List Fetch)) (p : PublicKey)
    (out : LSPS2ClientOutput) : List (LockOp ManagerLock) :=
  LockOp.nested (clientLocks (keepRequestLocks p)) ++ messagesOps callback out.messages

/-- What a call acquires and releases in the service. In `htlc_intercepted` and
    `handle_get_info_request`, events are enqueued under its locks. -/
def LSPS2ServiceHandler.callOps (env : Externals) (callback : Option (List Fetch))
    (self : LSPS2ServiceHandler) (i : ServiceInput) : List (LockOp ManagerLock) :=
  let out := (self.step env i).2
  match i.call with
  | .htlcIntercepted scid _ _ _ =>
    LockOp.around (serviceLocks <|
      (.peerByInterceptScid, .read) :: self.foundPeerLocks (self.peerByInterceptScid scid))
      (eventsOps out.events)
  | .handleMessage (.request _ (.getInfo _)) p =>
    LockOp.around (serviceLocks (keepRequestLocks p)) (eventsOps out.events)
  | _ => (self.lockOps env i).map (LockOp.map .service) ++ eventsOps out.events ++
    messagesOps callback out.messages

/-! ## The manager -/

namespace LiquidityManager

/-- What a message acquires and releases in the handler it is for. -/
def handleLspsMessageOps (env : Externals) (callback : Option (List Fetch)) (cm : ChannelManager)
    (now : UInt64) (self : LiquidityManager) (msg : LSPSMessage) (p : PublicKey) :
    List (LockOp ManagerLock) :=
  match msg with
  | .invalid _ => []
  | .lsps0 (.response requestId response) =>
    eventsOps (LSPS0ClientHandler.handleMessage (.response requestId response) p).events
  | .lsps0 (.request requestId request) =>
    self.lsps0ServiceHandler.elim [] fun handler =>
      messagesOps callback (handler.handleMessage (.request requestId request) p).messages
  | .lsps2 (.response requestId response) =>
    self.lsps2ClientHandler.elim [] fun handler =>
      handler.responseOps (.response requestId response) p
  | .lsps2 (.request requestId request) =>
    self.lsps2ServiceHandler.elim [] fun handler =>
      handler.callOps env callback { call := .handleMessage (.request requestId request) p, cm, now }

/-- What the text of a peer acquires and releases, once it is not ignored. -/
def readOps (env : Externals) (serde : Serde) (callback : Option (List Fetch)) (cm : ChannelManager)
    (now : UInt64) (self : LiquidityManager) (payload : String) (p : PublicKey) :
    List (LockOp ManagerLock) :=
  LockOp.nested [(.requestIdToMethodMap, .write)] ++
    match (LSPSMessage.fromStrWithIdMap serde payload self.requestIdToMethodMap).1 with
    | none => enqueueMessageOps callback ++ LockOp.nested [(.ignoredPeers, .write)]
    | some message => self.handleLspsMessageOps env callback cm now message p

/-- The acquisitions and releases of a call, if it finds the given manager and callback. -/
def lockOps (env : Externals) (serde : Serde) (callback : Option (List Fetch))
    (self : LiquidityManager) (i : ManagerInput) : List (LockOp ManagerLock) :=
  match i.call with
  | .handleCustomMessage payload p =>
    LockOp.nested [(.ignoredPeers, .read)] ++
      if (self.ignoredPeers p).isSome then []
      else self.readOps env serde callback i.cm i.now payload p
  | .getAndClearPendingMsg =>
    (Fetch.getAndClearPendingMsg <| self.pendingMessages.any fun e =>
      e.2.getRequestIdAndMethod.isSome).lockOps
  | .nextEvent => Fetch.nextEvent.lockOps
  | .getAndClearPendingEvents => Fetch.getAndClearPendingEvents.lockOps
  | .listProtocols _ => enqueueMessageOps callback
  | .requestOpeningParams p token =>
    self.lsps2ClientHandler.elim [] fun handler => LSPS2ClientHandler.requestOps callback p
      (handler.requestOpeningParams (generateRequestId i.entropy) p token).2
  | .selectOpeningParams p size params =>
    self.lsps2ClientHandler.elim [] fun handler => LSPS2ClientHandler.requestOps callback p
      (handler.selectOpeningParams (generateRequestId i.entropy) p size params).2
  | .service call =>
    self.lsps2ServiceHandler.elim [] fun handler =>
      handler.callOps env callback { call := call.call, cm := i.cm, now := i.now }

end LiquidityManager

/-- What a thread does: a call, with the manager and the callback it finds, or one to the queues
    or the chain. -/
inductive ManagerProgram
  | call (self : LiquidityManager) (callback : Option (List Fetch))
      (i : LiquidityManager.ManagerInput)
  | fetch (f : Fetch)
  | setProcessMsgsCallback
  | filteredBlockConnected (self : ChainManager)
  | blockDisconnected (self : ChainManager)

/-- The acquisitions and releases of a program. -/
def ManagerProgram.lockOps (env : Externals) (serde : Serde) :
    ManagerProgram → List (LockOp ManagerLock)
  | call self callback i => self.lockOps env serde callback i
  | fetch f => f.lockOps
  | setProcessMsgsCallback => LockOp.nested [(.processMsgsCallback, .write)]
  | filteredBlockConnected self =>
    self.bestBlock.elim [] fun _ => LockOp.nested [(.bestBlock, .read)]
  | blockDisconnected self => self.bestBlock.elim [] fun _ => LockOp.nested [(.bestBlock, .write)]

/-! ## Locks of the queues -/

/-- A lock of the queues, or of the map of methods, which is entered when messages are fetched. -/
def ManagerLock.OfQueues (l : ManagerLock) : Prop :=
  l ∈ [messages, processMsgsCallback, requestIdToMethodMap, events, waker]

theorem ManagerLock.OfQueues.servicePart_eq_none {l : ManagerLock} (h : l.OfQueues) :
    servicePart l = none := by
  cases l with
  | service l => exact absurd h (by simp [OfQueues])
  | _ => rfl

theorem ManagerLock.OfQueues.clientPart_eq_none {l : ManagerLock} (h : l.OfQueues) :
    clientPart l = none := by
  cases l with
  | client l => exact absurd h (by simp [OfQueues])
  | _ => rfl

theorem Fetch.ofQueues_lockOps (f : Fetch) : ∀ op ∈ f.lockOps, op.lock.OfQueues := by
  have hnested : ∀ ls : List (ManagerLock × LockMode), (∀ l ∈ ls, l.1.OfQueues) →
      ∀ op ∈ LockOp.nested ls, op.lock.OfQueues := fun ls => LockOp.forall_mem_nested
  intro op hop
  cases f with
  | getAndClearPendingMsg anyRequest =>
    rcases List.mem_append.1 hop with hop | hop
    · exact hnested _ (by simp [ManagerLock.OfQueues]) op hop
    · cases anyRequest with
      | false => exact absurd hop List.not_mem_nil
      | true => exact hnested _ (by simp [ManagerLock.OfQueues]) op hop
  | nextEvent => exact hnested _ (by simp [ManagerLock.OfQueues]) op hop
  | getAndClearPendingEvents => exact hnested _ (by simp [ManagerLock.OfQueues]) op hop
  | poll isEmpty =>
    exact hnested _ (by cases isEmpty <;> simp [ManagerLock.OfQueues]) op hop
  | waitNextEvent waits shouldNotify =>
    rcases List.mem_append.1 hop with hop | hop
    · obtain ⟨k, -, hop⟩ := List.mem_flatMap.1 hop
      exact hnested _ (by simp [ManagerLock.OfQueues]) op hop
    · cases shouldNotify with
      | false => exact absurd hop List.not_mem_nil
      | true => exact hnested _ (by simp [ManagerLock.OfQueues]) op hop

theorem ofQueues_messagesOps {α : Type} (callback : Option (List Fetch)) (messages : List α) :
    ∀ op ∈ messagesOps callback messages, op.lock.OfQueues := by
  intro op hop
  obtain ⟨message, -, hop⟩ := List.mem_flatMap.1 hop
  rcases List.mem_append.1 hop with hop | hop
  · exact LockOp.forall_mem_nested (by simp [ManagerLock.OfQueues]) op hop
  · refine LockOp.forall_mem_around (by simp [ManagerLock.OfQueues]) (fun op hop => ?_) op hop
    obtain ⟨f, -, hop⟩ := List.mem_flatMap.1 hop
    exact f.ofQueues_lockOps op hop

theorem ofQueues_eventsOps {α : Type} (events : List α) :
    ∀ op ∈ eventsOps events, op.lock.OfQueues := by
  intro op hop
  obtain ⟨event, -, hop⟩ := List.mem_flatMap.1 hop
  rcases List.mem_append.1 hop with hop | hop
  · exact LockOp.forall_mem_nested (by simp [ManagerLock.OfQueues]) op hop
  · exact LockOp.forall_mem_nested (by simp [ManagerLock.OfQueues]) op hop

theorem acquire_messages_mem {α : Type} (callback : Option (List Fetch)) {messages : List α}
    (h : messages ≠ []) : .acquire .messages .write ∈ messagesOps callback messages := by
  obtain ⟨message, hmem⟩ := List.exists_mem_of_ne_nil messages h
  exact List.mem_flatMap.2 ⟨message, hmem, List.mem_append_left _ (by simp)⟩

theorem acquire_events_mem {α : Type} {events : List α} (h : events ≠ []) :
    .acquire .events .write ∈ eventsOps events := by
  obtain ⟨event, hmem⟩ := List.exists_mem_of_ne_nil events h
  exact List.mem_flatMap.2 ⟨event, hmem, List.mem_append_left _ (by simp)⟩

/-- What a call does to the locks of the service. -/
theorem LSPS2ServiceHandler.filterMap_callOps (env : Externals) (callback : Option (List Fetch))
    (self : LSPS2ServiceHandler) (i : ServiceInput) :
    (self.callOps env callback i).filterMap (LockOp.part? servicePart) = self.lockOps env i := by
  generalize hout : (self.step env i).2 = out
  have hmessages := LockOp.filterMap_part?_eq_nil (π := servicePart)
    fun op hop => (ofQueues_messagesOps callback out.messages op hop).servicePart_eq_none
  have hevents := LockOp.filterMap_part?_eq_nil (π := servicePart)
    fun op hop => (ofQueues_eventsOps out.events op hop).servicePart_eq_none
  have hmap := LockOp.filterMap_part?_map (π := servicePart) servicePart_service
  -- Events enqueued under the locks of the service are left out of them.
  have haround : ∀ ls, (LockOp.around (serviceLocks ls) (eventsOps out.events)).filterMap
      (LockOp.part? servicePart) = LockOp.nested ls := by
    intro ls
    have hls := hmap (LockOp.nested ls)
    rw [LockOp.nested_eq_around, LockOp.map_around, List.map_nil] at hls
    simp only [LockOp.around, List.filterMap_append, List.filterMap_nil, serviceLocks,
      hevents] at hls ⊢
    rw [hls, LockOp.nested, List.append_nil]
  have hother : ((self.lockOps env i).map (LockOp.map ManagerLock.service) ++
      eventsOps out.events ++ messagesOps callback out.messages).filterMap
      (LockOp.part? servicePart) = self.lockOps env i := by
    rw [List.filterMap_append, List.filterMap_append, hmap, hevents, hmessages, List.append_nil,
      List.append_nil]
  subst hout
  obtain ⟨call, cm, now⟩ := i
  cases call with
  | htlcIntercepted scid id amount hash => exact haround _
  | handleMessage message p =>
    rcases message with ⟨requestId, params | params⟩ | ⟨requestId, response⟩
    · exact haround _
    · exact hother
    · exact hother
  | _ => exact hother

/-! ## What the locks guard -/

/-- What a call to the client changes is behind a lock that it acquires to write. -/
structure LSPS2ClientHandler.Guards (ops : List (LockOp ClientLock)) (s s' : LSPS2ClientHandler) :
    Prop where
  peers : ∀ p, s.perPeerState p = none → s'.perPeerState p ≠ none →
    .acquire .perPeerState .write ∈ ops
  peer : ∀ p, s'.perPeerState p ≠ s.perPeerState p → .acquire (.peerState p) .write ∈ ops

namespace LSPS2ClientHandler

theorem guards_self {ops : List (LockOp ClientLock)} {s : LSPS2ClientHandler} : Guards ops s s :=
  ⟨fun _ h h' => absurd h h', fun _ h => absurd rfl h⟩

theorem guards_setPeer {ops : List (LockOp ClientLock)} {s : LSPS2ClientHandler} {p : PublicKey}
    {ps : PeerState} (h : .acquire (.peerState p) .write ∈ ops)
    (hnew : s.perPeerState p = none → .acquire .perPeerState .write ∈ ops) :
    Guards ops s (s.setPeer p ps) where
  peers q hq hq' := by
    by_cases hqp : q = p
    · exact hnew (hqp ▸ hq)
    · exact absurd ((PartialMap.insert_of_ne _ _ hqp).trans hq) hq'
  peer q hq := by
    by_cases hqp : q = p
    · exact hqp ▸ h
    · exact absurd (PartialMap.insert_of_ne _ _ hqp) hq

/-- The state of a peer that is found is changed. -/
theorem guards_setPeer_of_eq {s : LSPS2ClientHandler} {p : PublicKey} {ps ps' : PeerState}
    (hps : s.perPeerState p = some ps) :
    Guards (LockOp.nested (s.peerLocks p)) s (s.setPeer p ps') :=
  guards_setPeer (by simp [peerLocks, hps]) fun hnone => absurd (hps.symm.trans hnone) (by simp)

theorem guards_handleMessage (s : LSPS2ClientHandler) (message : LSPS2Message) (p : PublicKey) :
    Guards (LockOp.nested (s.peerLocks p)) s (s.handleMessage message p).1 := by
  rcases message with ⟨requestId, request⟩ | ⟨requestId, result | error | result | error⟩
  · exact guards_self
  all_goals
    simp only [handleMessage, handleGetInfoResponse, handleGetInfoError, handleBuyResponse,
      handleBuyError]
    split
    · next ps hps =>
      repeat' split
      all_goals exact guards_setPeer_of_eq hps
    · exact guards_self

/-- A request is kept for a peer. -/
theorem guards_keepRequest (s : LSPS2ClientHandler) (p : PublicKey) (ps : PeerState) :
    Guards (LockOp.nested (keepRequestLocks p)) s (s.setPeer p ps) :=
  guards_setPeer (by simp [keepRequestLocks]) fun _ => by simp [keepRequestLocks]

end LSPS2ClientHandler

theorem LSPS2ServiceHandler.Guards.mono {ops ops' : List (LockOp ServiceLock)}
    {s s' : LSPS2ServiceHandler} (h : Guards ops s s') (hsub : ops ⊆ ops') : Guards ops' s s' :=
  ⟨fun hne => hsub (h.scids hne), fun hne => hsub (h.channelIds hne),
    fun p hp hp' => hsub (h.peers p hp hp'), fun p hne => hsub (h.peer p hne)⟩

theorem LSPS2ClientHandler.Guards.mono {ops ops' : List (LockOp ClientLock)}
    {s s' : LSPS2ClientHandler} (h : Guards ops s s') (hsub : ops ⊆ ops') : Guards ops' s s' :=
  ⟨fun p hp hp' => hsub (h.peers p hp hp'), fun p hne => hsub (h.peer p hne)⟩

namespace LiquidityManager

/-- What a call changes is behind a lock that it acquires to write. -/
structure Guards (ops : List (LockOp ManagerLock)) (s s' : LiquidityManager) : Prop where
  messages : s'.pendingMessages ≠ s.pendingMessages → .acquire .messages .write ∈ ops
  events : s'.pendingEvents ≠ s.pendingEvents → .acquire .events .write ∈ ops
  methods : s'.requestIdToMethodMap ≠ s.requestIdToMethodMap →
    .acquire .requestIdToMethodMap .write ∈ ops
  ignored : s'.ignoredPeers ≠ s.ignoredPeers → .acquire .ignoredPeers .write ∈ ops
  service : ∀ h ∈ s.lsps2ServiceHandler, ∀ h' ∈ s'.lsps2ServiceHandler,
    LSPS2ServiceHandler.Guards (ops.filterMap (LockOp.part? servicePart)) h h'
  client : ∀ h ∈ s.lsps2ClientHandler, ∀ h' ∈ s'.lsps2ClientHandler,
    LSPS2ClientHandler.Guards (ops.filterMap (LockOp.part? clientPart)) h h'

section Guards

variable {ops ops' : List (LockOp ManagerLock)} {s s' : LiquidityManager}

theorem guards_self : Guards ops s s where
  messages h := absurd rfl h
  events h := absurd rfl h
  methods h := absurd rfl h
  ignored h := absurd rfl h
  service _ hh _ hh' := Option.mem_unique hh hh' ▸ LSPS2ServiceHandler.guards_self
  client _ hh _ hh' := Option.mem_unique hh hh' ▸ LSPS2ClientHandler.guards_self

theorem Guards.mono (h : Guards ops s s') (hsub : ops ⊆ ops') : Guards ops' s s' where
  messages hne := hsub (h.messages hne)
  events hne := hsub (h.events hne)
  methods hne := hsub (h.methods hne)
  ignored hne := hsub (h.ignored hne)
  service a ha a' ha' := (h.service a ha a' ha').mono (List.filterMap_subset _ hsub)
  client a ha a' ha' := (h.client a ha a' ha').mono (List.filterMap_subset _ hsub)

theorem Guards.of_methods {m : PartialMap RequestId LSPSMethod}
    (h : Guards ops { s with requestIdToMethodMap := m } s')
    (hop : .acquire .requestIdToMethodMap .write ∈ ops) : Guards ops s s' :=
  ⟨h.messages, h.events, fun _ => hop, h.ignored, h.service, h.client⟩

/-- What is enqueued is behind the locks of the queues. -/
theorem Guards.enqueue {messages : List (PublicKey × LSPSMessage)} {events : List Event}
    (h : Guards ops s s') (hmessages : messages ≠ [] → .acquire .messages .write ∈ ops)
    (hevents : events ≠ [] → .acquire .events .write ∈ ops) :
    Guards ops s (s'.enqueue messages events) where
  messages hne := by
    by_cases hnil : messages = []
    · refine h.messages fun heq => hne ?_
      rw [hnil]
      exact (List.append_nil _).trans heq
    · exact hmessages hnil
  events hne := by
    by_cases hnil : events = []
    · refine h.events fun heq => hne ?_
      rw [hnil]
      exact (List.append_nil _).trans heq
    · exact hevents hnil
  methods := h.methods
  ignored := h.ignored
  service := h.service
  client := h.client

theorem Guards.ignore {ignoredPeers : PartialMap PublicKey Unit} (h : Guards ops s s')
    (hop : .acquire .ignoredPeers .write ∈ ops) : Guards ops s { s' with ignoredPeers } :=
  ⟨h.messages, h.events, h.methods, fun _ => hop, h.service, h.client⟩

theorem guards_finishLsps0 {out : LSPS0Output}
    (hmessages : out.messages ≠ [] → .acquire .messages .write ∈ ops)
    (hevents : out.events ≠ [] → .acquire .events .write ∈ ops) :
    Guards ops s (s.finishLsps0 out).1 :=
  guards_self.enqueue (fun hne => hmessages (by simpa using hne))
    fun hne => hevents (by simpa using hne)

theorem guards_finishLsps2Client {handler : LSPS2ClientHandler}
    {r : LSPS2ClientHandler × LSPS2ClientOutput} (hs : s.lsps2ClientHandler = some handler)
    (hclient : LSPS2ClientHandler.Guards (ops.filterMap (LockOp.part? clientPart)) handler r.1)
    (hmessages : r.2.messages ≠ [] → .acquire .messages .write ∈ ops)
    (hevents : r.2.events ≠ [] → .acquire .events .write ∈ ops) :
    Guards ops s (s.finishLsps2Client r).1 := by
  have hset : Guards ops s { s with lsps2ClientHandler := some r.1 } := by
    refine { (guards_self : Guards ops s s) with client := ?_ }
    rintro h hh h' ⟨⟩
    obtain rfl : handler = h := Option.some.inj (hs.symm.trans hh)
    exact hclient
  exact hset.enqueue (fun hne => hmessages (by simpa using hne))
    fun hne => hevents (by simpa using hne)

theorem guards_finishLsps2Service {handler : LSPS2ServiceHandler}
    {r : LSPS2ServiceHandler × Output} (hs : s.lsps2ServiceHandler = some handler)
    (hservice : LSPS2ServiceHandler.Guards (ops.filterMap (LockOp.part? servicePart)) handler r.1)
    (hmessages : r.2.messages ≠ [] → .acquire .messages .write ∈ ops)
    (hevents : r.2.events ≠ [] → .acquire .events .write ∈ ops) :
    Guards ops s (s.finishLsps2Service r).1 := by
  have hset : Guards ops s { s with lsps2ServiceHandler := some r.1 } := by
    refine { (guards_self : Guards ops s s) with service := ?_ }
    rintro h hh h' ⟨⟩
    obtain rfl : handler = h := Option.some.inj (hs.symm.trans hh)
    exact hservice
  exact hset.enqueue (fun hne => hmessages (by simpa using hne))
    fun hne => hevents (by simpa using hne)

end Guards

/-- A call to the service. -/
theorem guards_callOps {env : Externals} (callback : Option (List Fetch)) {s : LiquidityManager}
    {handler : LSPS2ServiceHandler} (hs : s.lsps2ServiceHandler = some handler) (i : ServiceInput) :
    Guards (handler.callOps env callback i) s (s.finishLsps2Service (handler.step env i)).1 := by
  have hreplies := LSPS2ServiceHandler.replies_step env handler i
  refine guards_finishLsps2Service hs ?_ ?_ ?_
  · rw [LSPS2ServiceHandler.filterMap_callOps]
    exact LSPS2ServiceHandler.guards_step env handler i
  · intro hne
    have hother := acquire_messages_mem callback hne
    obtain ⟨call, cm, now⟩ := i
    cases call with
    | htlcIntercepted scid id amount hash =>
      generalize (handler.step env _).2.messages = messages at hreplies hne
      cases hreplies with
      | none => exact absurd rfl hne
    | handleMessage message p =>
      rcases message with ⟨requestId, params | params⟩ | ⟨requestId, response⟩
      · exact absurd rfl hne
      · exact List.mem_append_right _ hother
      · exact List.mem_append_right _ hother
    | _ => exact List.mem_append_right _ hother
  · intro hne
    have hother := acquire_events_mem hne
    obtain ⟨call, cm, now⟩ := i
    cases call with
    | htlcIntercepted scid id amount hash => exact LockOp.acquire_mem_around.2 (.inr hother)
    | handleMessage message p =>
      rcases message with ⟨requestId, params | params⟩ | ⟨requestId, response⟩
      · exact LockOp.acquire_mem_around.2 (.inr hother)
      · exact List.mem_append_left _ (List.mem_append_right _ hother)
      · exact List.mem_append_left _ (List.mem_append_right _ hother)
    | _ => exact List.mem_append_left _ (List.mem_append_right _ hother)

/-- The locks of the client are those of its sections. -/
theorem filterMap_clientPart {ls : List (ClientLock × LockMode)} {body : List (LockOp ManagerLock)}
    (hbody : ∀ op ∈ body, op.lock.OfQueues) :
    (LockOp.around (clientLocks ls) body).filterMap (LockOp.part? clientPart) =
      LockOp.nested ls := by
  have hnil := LockOp.filterMap_part?_eq_nil (π := clientPart)
    fun op hop => (hbody op hop).clientPart_eq_none
  have hls := LockOp.filterMap_part?_map (π := clientPart) clientPart_client (LockOp.nested ls)
  rw [LockOp.nested_eq_around, LockOp.map_around, List.map_nil] at hls
  simp only [LockOp.around, List.filterMap_append, List.filterMap_nil, clientLocks, hnil] at hls ⊢
  rw [hls, LockOp.nested, List.append_nil]

/-- A response to the client. -/
theorem guards_responseOps {s : LiquidityManager} {handler : LSPS2ClientHandler}
    (hs : s.lsps2ClientHandler = some handler) (message : LSPS2Message) (p : PublicKey) :
    Guards (handler.responseOps message p) s
      (s.finishLsps2Client (handler.handleMessage message p)).1 := by
  refine guards_finishLsps2Client hs ?_ (fun hne => ?_) fun hne => ?_
  · rw [LSPS2ClientHandler.responseOps, filterMap_clientPart (ofQueues_eventsOps _)]
    exact handler.guards_handleMessage message p
  · exact absurd (handler.messages_handleMessage message p) hne
  · exact LockOp.acquire_mem_around.2 (.inr (acquire_events_mem hne))

/-- A request of the user to the client. -/
theorem guards_requestOps {callback : Option (List Fetch)} {s : LiquidityManager}
    {handler : LSPS2ClientHandler} (hs : s.lsps2ClientHandler = some handler) {p : PublicKey}
    {ps : LSPS2ClientHandler.PeerState} {out : LSPS2ClientOutput} (hevents : out.events = []) :
    Guards (LSPS2ClientHandler.requestOps callback p out) s
      (s.finishLsps2Client (handler.setPeer p ps, out)).1 := by
  refine guards_finishLsps2Client hs ?_ (fun hne => ?_) fun hne => absurd hevents hne
  · have hnone := LockOp.filterMap_part?_eq_nil (π := clientPart)
      fun op hop => (ofQueues_messagesOps callback out.messages op hop).clientPart_eq_none
    rw [LSPS2ClientHandler.requestOps, List.filterMap_append, hnone, List.append_nil,
      LockOp.nested_eq_around, filterMap_clientPart (by simp)]
    exact handler.guards_keepRequest p ps
  · exact List.mem_append_right _ (acquire_messages_mem callback hne)

theorem guards_handleLspsMessage (env : Externals) (callback : Option (List Fetch))
    (cm : ChannelManager) (now : UInt64) (s : LiquidityManager) (msg : LSPSMessage) (p : PublicKey) :
    Guards (s.handleLspsMessageOps env callback cm now msg p) s
      (s.handleLspsMessage env now msg p).1 := by
  rcases msg with error | (⟨requestId, request⟩ | ⟨requestId, response⟩) |
    (⟨requestId, request⟩ | ⟨requestId, response⟩)
  · exact guards_self
  · rw [handleLspsMessage, handleLspsMessageOps]
    cases hhandler : s.lsps0ServiceHandler with
    | none => exact guards_self
    | some handler =>
      exact guards_finishLsps0 (acquire_messages_mem callback) fun hne => absurd rfl hne
  · cases response with
    | listProtocols result => exact guards_finishLsps0 (fun hne => absurd rfl hne) acquire_events_mem
    | listProtocolsError error =>
      exact guards_finishLsps0 (fun hne => absurd rfl hne) fun hne => absurd rfl hne
  · rw [handleLspsMessage, handleLspsMessageOps]
    cases hhandler : s.lsps2ServiceHandler with
    | none => exact guards_self
    | some handler => exact guards_callOps callback hhandler _
  · rw [handleLspsMessage, handleLspsMessageOps]
    cases hhandler : s.lsps2ClientHandler with
    | none => exact guards_self
    | some handler => exact guards_responseOps hhandler _ p

/-- The text of a peer that is not ignored. -/
theorem guards_read (env : Externals) (serde : Serde) (callback : Option (List Fetch))
    (cm : ChannelManager) (now : UInt64) (s : LiquidityManager) (payload : String) (p : PublicKey)
    (hp : (s.ignoredPeers p).isSome = false) :
    Guards (s.readOps env serde callback cm now payload p) s
      (s.handleCustomMessage env serde now payload p).1 := by
  rw [handleCustomMessage, hp, readOps]
  refine .of_methods
    (m := (LSPSMessage.fromStrWithIdMap serde payload s.requestIdToMethodMap).2) ?_
    (List.mem_append_left _ (by simp))
  rcases LSPSMessage.fromStrWithIdMap serde payload s.requestIdToMethodMap with ⟨_ | msg, map⟩
  · -- The peer is told, and ignored from now on.
    refine .ignore (.enqueue guards_self (fun _ => ?_) fun hne => absurd rfl hne) ?_
    · exact List.mem_append_right _ (List.mem_append_left _ (List.mem_append_left _ (by simp)))
    · exact List.mem_append_right _ (List.mem_append_right _ (by simp))
  · exact (guards_handleLspsMessage env callback cm now _ msg p).mono (List.subset_append_right ..)

theorem guards_handleCustomMessage (env : Externals) (serde : Serde) (callback : Option (List Fetch))
    (cm : ChannelManager) (now : UInt64) (s : LiquidityManager) (payload : String) (p : PublicKey) :
    Guards (LockOp.nested [(.ignoredPeers, .read)] ++ if (s.ignoredPeers p).isSome then []
        else s.readOps env serde callback cm now payload p) s
      (s.handleCustomMessage env serde now payload p).1 := by
  by_cases hp : (s.ignoredPeers p).isSome
  · rw [handleCustomMessage, hp]
    exact guards_self
  · rw [if_neg hp]
    exact (guards_read env serde callback cm now s payload p (by simpa using hp)).mono
      (List.subset_append_right ..)

theorem guards_getAndClearPendingMsg (serde : Serde) (s : LiquidityManager) :
    Guards (Fetch.getAndClearPendingMsg <| s.pendingMessages.any fun e =>
      e.2.getRequestIdAndMethod.isSome).lockOps s (s.getAndClearPendingMsg serde).1 := by
  refine { guards_self (s := s) with
    messages := fun _ => by simp [Fetch.lockOps], methods := fun hne => ?_ }
  cases hany : s.pendingMessages.any fun e => e.2.getRequestIdAndMethod.isSome with
  | true => simp [Fetch.lockOps]
  | false =>
    -- Without a request, nothing is entered into the map.
    refine absurd ?_ hne
    have hnone : s.pendingMessages.filterMap (fun e => e.2.getRequestIdAndMethod) = [] := by
      refine List.filterMap_eq_nil_iff.2 fun e he => ?_
      simpa using List.any_eq_false.1 hany e he
    simp only [getAndClearPendingMsg, hnone, List.foldl_nil]

/-- What a call changes is behind a lock that it acquires to write. -/
theorem guards_step (env : Externals) (serde : Serde) (callback : Option (List Fetch))
    (s : LiquidityManager) (i : ManagerInput) :
    Guards (s.lockOps env serde callback i) s (s.step env serde i).1 := by
  obtain ⟨call, cm, now, entropy⟩ := i
  cases call with
  | handleCustomMessage payload p => exact guards_handleCustomMessage ..
  | getAndClearPendingMsg => exact guards_getAndClearPendingMsg serde s
  | nextEvent =>
    exact { guards_self (s := s) with events := fun _ => by simp [lockOps, Fetch.lockOps] }
  | getAndClearPendingEvents =>
    exact { guards_self (s := s) with events := fun _ => by simp [lockOps, Fetch.lockOps] }
  | listProtocols p =>
    exact guards_self.enqueue (fun _ => List.mem_append_left _ (by simp)) fun hne => absurd rfl hne
  | requestOpeningParams p token =>
    rw [step, lockOps]
    cases hhandler : s.lsps2ClientHandler with
    | none => exact guards_self
    | some handler => exact guards_requestOps hhandler rfl
  | selectOpeningParams p size params =>
    rw [step, lockOps]
    cases hhandler : s.lsps2ClientHandler with
    | none => exact guards_self
    | some handler =>
      simp only [Option.elim_some, LSPS2ClientHandler.selectOpeningParams]
      split
      · exact guards_requestOps hhandler rfl
      · exact guards_requestOps hhandler rfl
  | service call =>
    rw [step, lockOps]
    cases hhandler : s.lsps2ServiceHandler with
    | none => exact guards_self
    | some handler => exact guards_callOps callback hhandler _

end LiquidityManager

end LightningLiquidity
