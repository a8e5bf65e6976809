import LightningLiquidity.Lsps2.Service.Deadlock
import LightningLiquidity.Manager.Locks
import LightningLiquidity.Manager.Panics

/-!
# Deadlocks of the manager

But for those of the service, the locks of the manager are acquired in the order of
`ManagerLock.rank`, and none of the service while one of them is held (`Takes`). So
the only deadlocks of threads that make any calls, to the manager, its handlers and
its queues, are those of the service.

* `exists_crosses_of_deadlocked`: among threads that are deadlocked, one is on its way
  from the map of short channel ids to the state of a peer, and another one back.
* `ofQueues_of_callback`: the callback of the message queue is called when no lock is
  held but that of the callback, and those it acquires itself.
-/

namespace LightningLiquidity

/-- The order in which the locks of the manager are acquired, but for those of the service. -/
def ManagerLock.rank : ManagerLock → ℕ
  | service _ => 0
  | client .perPeerState => 0
  | client (.peerState _) => 1
  | ignoredPeers => 0
  | bestBlock => 0
  | processMsgsCallback => 1
  | messages => 2
  | requestIdToMethodMap => 2
  | events => 2
  | waker => 3

/-- What is acquired while locks are held: locks of the service, if all are of the service, and
    others in order. The callback of the message queue is called while no lock is held. -/
def Takes (held : List (ManagerLock × LockMode)) (l : ManagerLock) (_ : LockMode) : Prop :=
  Outranks servicePart ManagerLock.rank held l ∧ (l = .processMsgsCallback → held = [])

/-- The locks held that are not of the service are of smaller rank. -/
def Below (n : ℕ) (held : List (ManagerLock × LockMode)) : Prop :=
  ∀ e ∈ held, servicePart e.1 = none → e.1.rank < n

section Sections

variable {held : List (ManagerLock × LockMode)}

theorem below_nil (n : ℕ) : Below n [] := fun _ he => absurd he List.not_mem_nil

theorem Below.cons {n n' : ℕ} {l : ManagerLock} {m : LockMode} (h : Below n held) (hn : n ≤ n')
    (hl : l.rank < n') : Below n' ((l, m) :: held) := by
  intro e he hnone
  rcases List.mem_cons.1 he with rfl | he
  · exact hl
  · exact (h e he hnone).trans_le hn

/-- A section of a lock that is not of the service. -/
theorem keeps_around {l : ManagerLock} {m : LockMode} {ls : List (ManagerLock × LockMode)}
    {body : List (LockOp ManagerLock)} (hl : servicePart l = none) (hheld : Below l.rank held)
    (hcallback : l = .processMsgsCallback → held = [])
    (h : KeepsHeld Takes ((l, m) :: held) (LockOp.around ls body)) :
    KeepsHeld Takes held (LockOp.around ((l, m) :: ls) body) := by
  refine .around_cons ⟨fun e he hnone => ⟨hl, hheld e he hnone⟩, hcallback⟩ ?_ h
  rintro e he rfl
  exact absurd (hheld e he hl) (lt_irrefl _)

theorem keeps_nested (l : ManagerLock) (m : LockMode) (hl : servicePart l = none)
    (hheld : Below l.rank held) (hcallback : l = .processMsgsCallback → held = []) :
    KeepsHeld Takes held (LockOp.nested [(l, m)]) := by
  rw [LockOp.nested_eq_around]
  refine keeps_around hl hheld hcallback ?_
  rw [LockOp.around_nil]
  exact keepsHeld_nil

theorem keeps_eventsOps {α : Type} (events : List α) (h : Below 2 held) :
    KeepsHeld Takes held (eventsOps events) :=
  .flatMap fun _ _ => (keeps_nested .events _ rfl h (by simp)).append
    (keeps_nested .waker _ rfl (fun e he hnone => (h e he hnone).trans (by decide)) (by simp))

theorem Fetch.keeps_lockOps (f : Fetch) (h : Below 2 held) : KeepsHeld Takes held f.lockOps := by
  have hwaker : Below 3 held := fun e he hnone => (h e he hnone).trans (by decide)
  cases f with
  | getAndClearPendingMsg anyRequest =>
    refine (keeps_nested .messages _ rfl h (by simp)).append ?_
    cases anyRequest with
    | false => exact keepsHeld_nil
    | true => exact keeps_nested .requestIdToMethodMap _ rfl h (by simp)
  | nextEvent => exact keeps_nested .events _ rfl h (by simp)
  | getAndClearPendingEvents => exact keeps_nested .events _ rfl h (by simp)
  | poll isEmpty =>
    cases isEmpty with
    | false => exact keeps_nested .events _ rfl h (by simp)
    | true =>
      show KeepsHeld Takes held (LockOp.nested [(.events, .write), (.waker, .write)])
      rw [LockOp.nested_eq_around]
      refine keeps_around rfl h (by simp) ?_
      rw [← LockOp.nested_eq_around]
      exact keeps_nested .waker _ rfl (h.cons (by decide) (by decide)) (by simp)
  | waitNextEvent waits shouldNotify =>
    refine .append (.flatMap fun _ _ => keeps_nested .events _ rfl h (by simp)) ?_
    cases shouldNotify with
    | false => exact keepsHeld_nil
    | true => exact keeps_nested .waker _ rfl hwaker (by simp)

theorem keeps_enqueueMessageOps (callback : Option (List Fetch)) :
    KeepsHeld Takes [] (enqueueMessageOps callback) := by
  refine (keeps_nested .messages _ rfl (below_nil _) (by simp)).append ?_
  refine keeps_around rfl (below_nil _) (fun _ => rfl) ?_
  rw [LockOp.around_nil]
  exact .flatMap fun f _ => f.keeps_lockOps ((below_nil 1).cons (by decide) (by decide))

theorem keeps_messagesOps {α : Type} (callback : Option (List Fetch)) (messages : List α) :
    KeepsHeld Takes [] (messagesOps callback messages) :=
  .flatMap fun _ _ => keeps_enqueueMessageOps callback

/-- Sections of the client, in which events may be enqueued. -/
theorem LSPS2ClientHandler.keeps_responseOps (self : LSPS2ClientHandler) (message : LSPS2Message)
    (p : PublicKey) : KeepsHeld Takes [] (self.responseOps message p) := by
  rw [responseOps, peerLocks]
  refine keeps_around rfl (below_nil _) (by simp) ?_
  have hmap : Below 1 [((.client .perPeerState, .read) : ManagerLock × LockMode)] :=
    (below_nil 1).cons le_rfl (by decide)
  cases self.perPeerState p with
  | none =>
    show KeepsHeld Takes _ (LockOp.around [] _)
    rw [LockOp.around_nil]
    exact keeps_eventsOps _ fun e he hnone => (hmap e he hnone).trans (by decide)
  | some peerState =>
    refine keeps_around rfl hmap (by simp) ?_
    show KeepsHeld Takes _ (LockOp.around [] _)
    rw [LockOp.around_nil]
    exact keeps_eventsOps _ (hmap.cons (by decide) (by decide : 1 < 2))

theorem LSPS2ClientHandler.keeps_requestOps (callback : Option (List Fetch)) (p : PublicKey)
    (out : LSPS2ClientOutput) : KeepsHeld Takes [] (requestOps callback p out) := by
  refine .append ?_ (keeps_messagesOps callback out.messages)
  rw [LockOp.nested_eq_around, keepRequestLocks]
  refine keeps_around rfl (below_nil _) (by simp) ?_
  show KeepsHeld Takes _ (LockOp.around [(.client (.peerState p), .write)] [])
  rw [← LockOp.nested_eq_around]
  exact keeps_nested (.client (.peerState p)) _ rfl ((below_nil 1).cons le_rfl Nat.one_pos) (by simp)

end Sections

/-! ## Sections of the service -/

/-- All locks held are of the service. -/
def OfService (held : List (ManagerLock × LockMode)) : Prop := ∀ e ∈ held, ∃ l, e.1 = .service l

theorem OfService.below {held : List (ManagerLock × LockMode)} (h : OfService held) (n : ℕ) :
    Below n held := by
  intro e he hnone
  obtain ⟨l, hl⟩ := h e he
  rw [hl] at hnone
  exact absurd hnone (by simp)

/-- Sections of locks of the service, no two of one lock, in which only others are acquired. -/
theorem keeps_serviceLocks {ls : List (ServiceLock × LockMode)} {body : List (LockOp ManagerLock)}
    (hbody : ∀ held, OfService held → KeepsHeld Takes held body) (hls : (ls.map Prod.fst).Nodup)
    {held : List (ManagerLock × LockMode)} (hheld : OfService held)
    (hnew : ∀ e ∈ held, ∀ l ∈ ls, e.1 ≠ .service l.1) :
    KeepsHeld Takes held (LockOp.around (serviceLocks ls) body) := by
  induction ls generalizing held with
  | nil =>
    show KeepsHeld Takes held (LockOp.around [] body)
    rw [LockOp.around_nil]
    exact hbody held hheld
  | cons l ls ih =>
    obtain ⟨hl, hls⟩ := List.nodup_cons.1 hls
    refine .around_cons ⟨fun e he hnone => ?_, by simp⟩
      (fun e he => hnew e he l List.mem_cons_self) (ih hls ?_ ?_)
    · obtain ⟨k, hk⟩ := hheld e he
      rw [hk] at hnone
      exact absurd hnone (by simp)
    · intro e he
      rcases List.mem_cons.1 he with rfl | he
      · exact ⟨l.1, rfl⟩
      · exact hheld e he
    · intro e he k hk
      rcases List.mem_cons.1 he with rfl | he
      · intro heq
        have hlk : l.1 = k.1 := ManagerLock.service.inj heq
        exact hl (hlk ▸ List.mem_map_of_mem hk)
      · exact hnew e he k (List.mem_cons_of_mem _ hk)

namespace LSPS2ServiceHandler

theorem nodup_peerLocks (self : LSPS2ServiceHandler) (p : PublicKey) :
    ((self.peerLocks p).map Prod.fst).Nodup := by
  rw [peerLocks]
  cases self.perPeerState p <;> simp

/-- The locks of the sections of a call are acquired once each. -/
theorem nodup_foundPeerLocks (self : LSPS2ServiceHandler) {l : ServiceLock} (hl : l.rank < 2)
    (p? : Option PublicKey) : (((l, .read) :: self.foundPeerLocks p?).map Prod.fst).Nodup := by
  cases p? with
  | none => simp [foundPeerLocks]
  | some p =>
    refine List.nodup_cons.2 ⟨fun hmem => ?_, self.nodup_peerLocks p⟩
    obtain ⟨e, he, rfl⟩ := List.mem_map.1 hmem
    rcases List.mem_cons.1 he with rfl | he
    · exact absurd hl (by decide)
    · cases hps : self.perPeerState p with
      | none =>
        rw [hps] at he
        exact absurd he List.not_mem_nil
      | some peerState =>
        rw [hps] at he
        obtain rfl := List.mem_singleton.1 he
        exact absurd hl (by simp [ServiceLock.rank])

theorem keeps_map_nested {ls : List (ServiceLock × LockMode)} (hls : (ls.map Prod.fst).Nodup) :
    KeepsHeld Takes [] ((LockOp.nested ls).map (LockOp.map ManagerLock.service)) := by
  rw [LockOp.map_nested, LockOp.nested_eq_around]
  exact keeps_serviceLocks (fun held _ => keepsHeld_nil) hls (fun e he => absurd he List.not_mem_nil)
    fun e he => absurd he List.not_mem_nil

theorem keeps_lockOps (env : Externals) (self : LSPS2ServiceHandler) (i : ServiceInput) :
    KeepsHeld Takes [] ((self.lockOps env i).map (LockOp.map ManagerLock.service)) := by
  obtain ⟨call, cm, now⟩ := i
  cases call with
  | invalidTokenProvided p requestId => exact keeps_map_nested (self.nodup_peerLocks p)
  | openingFeeParamsGenerated p requestId menu => exact keeps_map_nested (self.nodup_peerLocks p)
  | invoiceParametersGenerated p requestId scid delta trusts user =>
    refine keeps_map_nested ?_
    -- Only a sale takes the map of short channel ids, too.
    rw [invoiceLocks]
    split
    · rw [peerLocks]
      cases self.perPeerState p <;> simp
    · exact self.nodup_peerLocks p
  | htlcIntercepted scid id amount hash =>
    exact keeps_map_nested (self.nodup_foundPeerLocks (by decide) _)
  | htlcHandlingFailed destination =>
    cases destination with
    | nextHopChannel nodeId channelId =>
      exact keeps_map_nested (self.nodup_foundPeerLocks (by decide) _)
    | other => exact keepsHeld_nil
  | paymentForwarded channelId =>
    exact keeps_map_nested (self.nodup_foundPeerLocks (by decide) _)
  | channelReady user channelId p =>
    -- The map of channel ids is released before the peer is locked.
    show KeepsHeld Takes [] ((LockOp.nested _ ++ LockOp.nested _).map _)
    rw [List.map_append]
    exact (keeps_map_nested (by simp)).append (keeps_map_nested (self.nodup_peerLocks p))
  | handleMessage message p =>
    rcases message with ⟨requestId, params | params⟩ | ⟨requestId, response⟩
    · exact keeps_map_nested (by simp [keepRequestLocks])
    · refine keeps_map_nested ?_
      rw [buyLocks]
      split <;> simp [keepRequestLocks]
    · exact keepsHeld_nil

theorem keeps_callOps (env : Externals) (callback : Option (List Fetch))
    (self : LSPS2ServiceHandler) (i : ServiceInput) :
    KeepsHeld Takes [] (self.callOps env callback i) := by
  have haround : ∀ {ls : List (ServiceLock × LockMode)}, (ls.map Prod.fst).Nodup →
      KeepsHeld Takes [] (LockOp.around (serviceLocks ls) (eventsOps (self.step env i).2.events)) :=
    fun hls => keeps_serviceLocks (fun held hheld => keeps_eventsOps _ (hheld.below 2)) hls
      (fun e he => absurd he List.not_mem_nil) fun e he => absurd he List.not_mem_nil
  have hother := ((keeps_lockOps env self i).append
    (keeps_eventsOps (self.step env i).2.events (below_nil 2))).append
    (keeps_messagesOps callback (self.step env i).2.messages)
  obtain ⟨call, cm, now⟩ := i
  cases call with
  | htlcIntercepted scid id amount hash =>
    exact haround (self.nodup_foundPeerLocks (by decide) _)
  | handleMessage message p =>
    rcases message with ⟨requestId, params | params⟩ | ⟨requestId, response⟩
    · exact haround (by simp [keepRequestLocks])
    · exact hother
    · exact hother
  | _ => exact hother

end LSPS2ServiceHandler

/-! ## Programs -/

/-- What operations do to the locks of the service is what a call to it does. -/
def InService (ops : List (LockOp ManagerLock)) : Prop :=
  LockAlways InCall [] (ops.filterMap (LockOp.part? servicePart))

theorem inService_of_none {ops : List (LockOp ManagerLock)}
    (h : ∀ op ∈ ops, servicePart op.lock = none) : InService ops := by
  rw [InService, LockOp.filterMap_part?_eq_nil h]
  rfl

theorem InService.append {ops ops' : List (LockOp ManagerLock)}
    (h : ∀ op ∈ ops, servicePart op.lock = none) (h' : InService ops') :
    InService (ops ++ ops') := by
  rwa [InService, List.filterMap_append, LockOp.filterMap_part?_eq_nil h]

theorem inService_callOps (env : Externals) (callback : Option (List Fetch))
    (handler : LSPS2ServiceHandler) (i : ServiceInput) :
    InService (handler.callOps env callback i) := by
  rw [InService, LSPS2ServiceHandler.filterMap_callOps]
  exact handler.inCall_lockOps env i

theorem servicePart_messagesOps {α : Type} (callback : Option (List Fetch)) (messages : List α) :
    ∀ op ∈ messagesOps callback messages, servicePart op.lock = none :=
  fun op hop => (ofQueues_messagesOps callback messages op hop).servicePart_eq_none

theorem servicePart_eventsOps {α : Type} (events : List α) :
    ∀ op ∈ eventsOps events, servicePart op.lock = none :=
  fun op hop => (ofQueues_eventsOps events op hop).servicePart_eq_none

theorem servicePart_nested {l : ManagerLock} {m : LockMode} (hl : servicePart l = none) :
    ∀ op ∈ LockOp.nested [(l, m)], servicePart op.lock = none :=
  LockOp.forall_mem_nested (P := fun l => servicePart l = none) (by simpa using hl)

/-- Sections of the client acquire no locks of the service. -/
theorem servicePart_clientLocks (ls : List (ClientLock × LockMode)) :
    ∀ l ∈ clientLocks ls, servicePart l.1 = none := by
  intro l hl
  obtain ⟨k, -, rfl⟩ := List.mem_map.1 hl
  rfl

namespace LiquidityManager

variable (env : Externals) (serde : Serde) (callback : Option (List Fetch)) (s : LiquidityManager)

/-- What a message does to the locks, of the manager and of the service. -/
theorem keeps_handleLspsMessageOps (cm : ChannelManager) (now : UInt64) (msg : LSPSMessage)
    (p : PublicKey) : KeepsHeld Takes [] (s.handleLspsMessageOps env callback cm now msg p) ∧
      InService (s.handleLspsMessageOps env callback cm now msg p) := by
  rcases msg with error | (⟨requestId, request⟩ | ⟨requestId, response⟩) |
    (⟨requestId, request⟩ | ⟨requestId, response⟩)
  · exact ⟨keepsHeld_nil, rfl⟩
  · rw [handleLspsMessageOps]
    cases s.lsps0ServiceHandler with
    | none => exact ⟨keepsHeld_nil, rfl⟩
    | some handler =>
      exact ⟨keeps_messagesOps .., inService_of_none (servicePart_messagesOps callback _)⟩
  · exact ⟨keeps_eventsOps _ (below_nil 2), inService_of_none (servicePart_eventsOps _)⟩
  · rw [handleLspsMessageOps]
    cases s.lsps2ServiceHandler with
    | none => exact ⟨keepsHeld_nil, rfl⟩
    | some handler => exact ⟨handler.keeps_callOps .., inService_callOps ..⟩
  · rw [handleLspsMessageOps]
    cases s.lsps2ClientHandler with
    | none => exact ⟨keepsHeld_nil, rfl⟩
    | some handler =>
      refine ⟨handler.keeps_responseOps _ p, inService_of_none ?_⟩
      exact LockOp.forall_mem_around (P := fun l => servicePart l = none) (servicePart_clientLocks _)
        (servicePart_eventsOps _)

theorem keeps_readOps (cm : ChannelManager) (now : UInt64) (payload : String) (p : PublicKey) :
    KeepsHeld Takes [] (s.readOps env serde callback cm now payload p) ∧
      InService (s.readOps env serde callback cm now payload p) := by
  have hmap := keeps_nested .requestIdToMethodMap .write rfl (below_nil _) (by simp)
  have hnone : ∀ op ∈ LockOp.nested [(ManagerLock.requestIdToMethodMap, LockMode.write)],
      servicePart op.lock = none := servicePart_nested rfl
  rw [readOps]
  cases (LSPSMessage.fromStrWithIdMap serde payload s.requestIdToMethodMap).1 with
  | none =>
    refine ⟨hmap.append ((keeps_enqueueMessageOps callback).append ?_), .append hnone ?_⟩
    · exact keeps_nested .ignoredPeers .write rfl (below_nil _) (by simp)
    · refine .append ?_ (inService_of_none (servicePart_nested rfl))
      have hmessage := servicePart_messagesOps callback [()]
      rwa [messagesOps, List.flatMap_singleton] at hmessage
  | some message =>
    obtain ⟨hkeeps, hservice⟩ := s.keeps_handleLspsMessageOps env callback cm now message p
    exact ⟨hmap.append hkeeps, hservice.append hnone⟩

theorem keeps_lockOps (i : ManagerInput) : KeepsHeld Takes [] (s.lockOps env serde callback i) ∧
    InService (s.lockOps env serde callback i) := by
  have hmessage : KeepsHeld Takes [] (enqueueMessageOps callback) ∧
      InService (enqueueMessageOps callback) := by
    refine ⟨keeps_enqueueMessageOps callback, inService_of_none ?_⟩
    have hnone := servicePart_messagesOps callback [()]
    rwa [messagesOps, List.flatMap_singleton] at hnone
  have hfetch : ∀ f : Fetch, KeepsHeld Takes [] f.lockOps ∧ InService f.lockOps := fun f =>
    ⟨f.keeps_lockOps (below_nil 2),
      inService_of_none fun op hop => (f.ofQueues_lockOps op hop).servicePart_eq_none⟩
  have hrequest : ∀ p out, KeepsHeld Takes [] (LSPS2ClientHandler.requestOps callback p out) ∧
      InService (LSPS2ClientHandler.requestOps callback p out) := by
    refine fun p out => ⟨LSPS2ClientHandler.keeps_requestOps callback p out, .append ?_ ?_⟩
    · exact LockOp.forall_mem_nested (P := fun l => servicePart l = none) (servicePart_clientLocks _)
    · exact inService_of_none (servicePart_messagesOps callback out.messages)
  obtain ⟨call, cm, now, entropy⟩ := i
  cases call with
  | handleCustomMessage payload p =>
    have hignored := keeps_nested .ignoredPeers .read rfl (below_nil _) (by simp)
    simp only [lockOps]
    split
    · exact ⟨hignored.append keepsHeld_nil, .append (servicePart_nested rfl) rfl⟩
    · obtain ⟨hkeeps, hservice⟩ := s.keeps_readOps env serde callback cm now payload p
      exact ⟨hignored.append hkeeps, hservice.append (servicePart_nested rfl)⟩
  | getAndClearPendingMsg => exact hfetch (.getAndClearPendingMsg _)
  | nextEvent => exact hfetch .nextEvent
  | getAndClearPendingEvents => exact hfetch .getAndClearPendingEvents
  | listProtocols p => exact hmessage
  | requestOpeningParams p token =>
    rw [lockOps]
    cases s.lsps2ClientHandler with
    | none => exact ⟨keepsHeld_nil, rfl⟩
    | some handler => exact hrequest p _
  | selectOpeningParams p size params =>
    rw [lockOps]
    cases s.lsps2ClientHandler with
    | none => exact ⟨keepsHeld_nil, rfl⟩
    | some handler => exact hrequest p _
  | service call =>
    rw [lockOps]
    cases s.lsps2ServiceHandler with
    | none => exact ⟨keepsHeld_nil, rfl⟩
    | some handler => exact ⟨handler.keeps_callOps .., inService_callOps ..⟩

end LiquidityManager

/-- What a program does to the locks, of the manager and of the service. -/
theorem ManagerProgram.keeps_lockOps (env : Externals) (serde : Serde) (prog : ManagerProgram) :
    KeepsHeld Takes [] (prog.lockOps env serde) ∧ InService (prog.lockOps env serde) := by
  cases prog with
  | call s callback i => exact s.keeps_lockOps env serde callback i
  | fetch f =>
    exact ⟨f.keeps_lockOps (below_nil 2),
      inService_of_none fun op hop => (f.ofQueues_lockOps op hop).servicePart_eq_none⟩
  | setProcessMsgsCallback =>
    exact ⟨keeps_nested .processMsgsCallback _ rfl (below_nil _) fun _ => rfl,
      inService_of_none (servicePart_nested rfl)⟩
  | filteredBlockConnected s =>
    rw [lockOps]
    cases s.bestBlock with
    | none => exact ⟨keepsHeld_nil, rfl⟩
    | some block =>
      exact ⟨keeps_nested .bestBlock _ rfl (below_nil _) (by simp),
        inService_of_none (servicePart_nested rfl)⟩
  | blockDisconnected s =>
    rw [lockOps]
    cases s.bestBlock with
    | none => exact ⟨keepsHeld_nil, rfl⟩
    | some block =>
      exact ⟨keeps_nested .bestBlock _ rfl (below_nil _) (by simp),
        inService_of_none (servicePart_nested rfl)⟩

/-! ## Runs -/

/-- Threads that run programs of the manager. -/
def programMachine (env : Externals) (serde : Serde) (τ : Type*) [DecidableEq τ] [Fintype τ] :
    Machine (τ → LockThread ManagerLock) (LockInput τ ManagerProgram) Unit :=
  lockMachine fun prog => prog.lockOps env serde

/-- While the callback is called, only locks of the queues are held. -/
def CallbackAlone (held : List (ManagerLock × LockMode)) : Prop :=
  (∃ m, (.processMsgsCallback, m) ∈ held) → ∀ e ∈ held, e.1.OfQueues

/-- What is acquired while the callback is called is of the queues. -/
theorem CallbackAlone.cons {held : List (ManagerLock × LockMode)} {l : ManagerLock} {m : LockMode}
    (h : CallbackAlone held) (hl : Takes held l m) : CallbackAlone ((l, m) :: held) := by
  rintro ⟨m', hmem⟩ e he
  rcases List.mem_cons.1 hmem with heq | hcallback
  · obtain ⟨rfl, rfl⟩ := Prod.mk.inj heq
    rw [hl.2 rfl, List.mem_singleton] at he
    subst he
    simp [ManagerLock.OfQueues]
  · rcases List.mem_cons.1 he with rfl | he
    · obtain ⟨hnone, hlt⟩ := hl.1 _ hcallback rfl
      -- Only locks of the queues outrank the callback.
      have hlt : 1 < l.rank := hlt
      cases l with
      | service l => exact absurd hnone (by simp)
      | client l => cases l <;> simp [ManagerLock.rank] at hlt
      | ignoredPeers => simp [ManagerLock.rank] at hlt
      | bestBlock => simp [ManagerLock.rank] at hlt
      | _ => simp [ManagerLock.OfQueues]
    · exact h ⟨m', hcallback⟩ e he

theorem CallbackAlone.release {held : List (ManagerLock × LockMode)} (l : ManagerLock)
    (h : CallbackAlone held) : CallbackAlone ((LockOp.release l).apply held) := by
  rintro ⟨m, hmem⟩ e he
  exact h ⟨m, (List.mem_filter.1 hmem).1⟩ e (List.mem_filter.1 he).1

section Runs

variable {env : Externals} {serde : Serde} {τ : Type*} [DecidableEq τ] [Fintype τ]

/-- What holds of the threads of every run. -/
theorem always_exec_programs (env : Externals) (serde : Serde)
    (is : List (LockInput τ ManagerProgram)) (t : τ) :
    LockAlways (fun held todo => (CallbackAlone held ∧ (todo = [] → held = []) ∧
        ∀ l m todo', todo = .acquire l m :: todo' → Takes held l m) ∧
      InCall (heldPart servicePart held) (todo.filterMap (LockOp.part? servicePart)))
      ((programMachine env serde τ).exec idleThreads is t).held
      ((programMachine env serde τ).exec idleThreads is t).todo := by
  refine always_exec (fun prog : ManagerProgram => ?_)
    ?_ (fun held hheld => hheld.1.2.1 rfl) is t
  · obtain ⟨hkeeps, hservice⟩ := prog.keeps_lockOps env serde
    refine LockAlways.and (always_of_keepsHeld (fun held l m h hl => h.cons hl)
      (fun held l h => h.release l) (fun h => ?_) hkeeps) (.of_part hservice)
    exact absurd h.choose_spec List.not_mem_nil
  · refine ⟨⟨fun h => absurd h.choose_spec List.not_mem_nil, fun _ => rfl, ?_⟩, rfl⟩
    exact fun l m todo' hcons => absurd hcons (by simp)

/-- The callback of the message queue is called when no lock is held but that of the callback,
    and those it acquires itself. -/
theorem ofQueues_of_callback (is : List (LockInput τ ManagerProgram)) (t : τ) {m : LockMode}
    (h : (.processMsgsCallback, m) ∈ ((programMachine env serde τ).exec idleThreads is t).held) :
    ∀ e ∈ ((programMachine env serde τ).exec idleThreads is t).held, e.1.OfQueues :=
  (always_exec_programs env serde is t).now.1.1 ⟨m, h⟩

/-- Of threads that are deadlocked, whatever calls they make to the manager, its handlers and its
    queues, one is on its way from the map of short channel ids to the state of a peer, and another
    one from that state to the map. -/
theorem crosses_of_deadlocked {writersFirst : Prop} {is : List (LockInput τ ManagerProgram)}
    {S : Set τ} (h : Deadlocked writersFirst ((programMachine env serde τ).exec idleThreads is) S) :
    ∃ t t', t' ≠ t ∧ Crosses writersFirst
      (((programMachine env serde τ).exec idleThreads is t).part servicePart)
      (((programMachine env serde τ).exec idleThreads is t').part servicePart) := by
  have halways := fun t => (always_exec_programs env serde is t).now
  refine LSPS2ServiceHandler.exists_crosses_of_deadlocked (fun t => (halways t).2)
    (exclusive_exec is).part (h.part ManagerLock.rank (n := 4) (fun l => ?_) ?_)
  · rcases l with l | (_ | p) | _ | _ | _ | _ | _ | _ | _ <;> simp [ManagerLock.rank]
  · exact fun t l m todo htodo => ((halways t).1.2.2 l m todo htodo).1

end Runs

/-- A manager whose service has sold a channel to a peer, which asks for another one. -/
def sampleSoldManager : LiquidityManager :=
  { LiquidityManager.new none none with
    lsps2ServiceHandler := some LSPS2ServiceHandler.sampleSold }

/-- The short channel id sold is intercepted, and another one is given out. -/
def sampleServiceCall : Bool → LiquidityManager.UserCall
  | false => ⟨.htlcIntercepted 42 ⟨0⟩ 200 ⟨0⟩, by simp⟩
  | true => ⟨.invoiceParametersGenerated ⟨0⟩ ⟨"1"⟩ 43 144 false 1, by simp⟩

/-- A thread calls the manager, whose callback fetches the messages. -/
def sampleProgram (t : Bool) : LockInput Bool ManagerProgram :=
  .start t (.call sampleSoldManager (some [.getAndClearPendingMsg false])
    { call := .service (sampleServiceCall t), cm := fun _ _ => .ok (), now := 0, entropy := [] })

/-- Two threads, each of which comes to hold what the other one needs. -/
def samplePrograms : List (LockInput Bool ManagerProgram) :=
  [sampleProgram false, sampleProgram true, .go false, .go true, .go true, .go false]

/-- The two calls are deadlocked, and cross. -/
theorem crosses_of_deadlocked_sample :
    ∃ t t', t' ≠ t ∧ Crosses False
      (((programMachine sampleExternals LiquidityManager.sampleSerde Bool).exec idleThreads
        samplePrograms t).part servicePart)
      (((programMachine sampleExternals LiquidityManager.sampleSerde Bool).exec idleThreads
        samplePrograms t').part servicePart) :=
  crosses_of_deadlocked (S := {false, true}) <|
    deadlocked_pair (t := false) (u := true) (by decide) rfl
      ⟨(.service (.peerState ⟨0⟩), .write), by decide, rfl⟩ rfl
      ⟨(.service .peerByInterceptScid, .read), by decide, rfl⟩

end LightningLiquidity
