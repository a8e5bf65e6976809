import LightningLiquidity.Lib.Locks
import LightningLiquidity.Lsps2.Service

/-!
# The locks of the service

The maps of the service (`LSPS2ServiceHandler`) are behind reader/writer locks,
and the state of a peer behind a mutex of its own (`ServiceLock`). A call
acquires the locks of what it looks up, one inside the other, and keeps them
until it is done (`lockOps`); how far it gets depends on what it finds. Any
number of threads make calls, interleaved in any way (`callMachine`).

* `guards_step`: what a call changes is behind a lock that it acquires to write.
-/

namespace LightningLiquidity

/-- The locks of the service. -/
inductive ServiceLock
  | peerByInterceptScid
  | peerByChannelId
  | perPeerState
  | peerState (p : PublicKey)
  deriving DecidableEq

namespace LSPS2ServiceHandler

/-! ## The operations of calls -/

/-- The locks acquired to get at the state of a peer: that of the map, and that of the
    state if there is one. -/
def peerLocks (self : LSPS2ServiceHandler) (p : PublicKey) :
    List (ServiceLock × LockMode) :=
  (.perPeerState, .read) :: ((self.perPeerState p).elim [] fun _ => [(.peerState p, .write)])

/-- The locks acquired to get at the state of a peer found in a map. -/
def foundPeerLocks (self : LSPS2ServiceHandler) (p? : Option PublicKey) :
    List (ServiceLock × LockMode) :=
  p?.elim [] self.peerLocks

/-- The locks acquired to keep a request of a peer, whose state is made if there is none. -/
def keepRequestLocks (p : PublicKey) : List (ServiceLock × LockMode) :=
  [(.perPeerState, .write), (.peerState p, .write)]

/-- The locks acquired by `invoice_parameters_generated`: in the state of the peer, that of
    the map of short channel ids, if the request is to buy. -/
def invoiceLocks (self : LSPS2ServiceHandler) (p : PublicKey) (requestId : RequestId) :
    List (ServiceLock × LockMode) :=
  match (self.perPeerState p).bind fun peerState => peerState.pendingRequests requestId with
  | some (.buy _) => self.peerLocks p ++ [(.peerByInterceptScid, .write)]
  | _ => self.peerLocks p

/-- The locks acquired by `handle_buy_request`: none, if the request is refused. -/
def buyLocks (env : Externals) (now : UInt64) (self : LSPS2ServiceHandler) (p : PublicKey)
    (params : BuyRequest) : List (ServiceLock × LockMode) :=
  match params.paymentSizeMsat.bind (checkPaymentSize params.openingFeeParams),
      isValidOpeningFeeParams env now params.openingFeeParams self.promiseSecret with
  | none, some true => keepRequestLocks p
  | _, _ => []

/-- The acquisitions and releases of a call, if it finds the given handler. -/
def lockOps (env : Externals) (self : LSPS2ServiceHandler) (i : ServiceInput) :
    List (LockOp ServiceLock) :=
  match i.call with
  | .invalidTokenProvided p _ => LockOp.nested (self.peerLocks p)
  | .openingFeeParamsGenerated p _ _ => LockOp.nested (self.peerLocks p)
  | .invoiceParametersGenerated p requestId _ _ _ _ => LockOp.nested (self.invoiceLocks p requestId)
  | .htlcIntercepted scid _ _ _ =>
    LockOp.nested ((.peerByInterceptScid, .read) :: self.foundPeerLocks (self.peerByInterceptScid scid))
  | .htlcHandlingFailed (.nextHopChannel _ channelId) =>
    LockOp.nested ((.peerByChannelId, .read) :: self.foundPeerLocks (self.peerByChannelId channelId))
  | .htlcHandlingFailed .other => []
  | .paymentForwarded channelId =>
    LockOp.nested ((.peerByChannelId, .read) :: self.foundPeerLocks (self.peerByChannelId channelId))
  -- The lock of the map is released before the state of the peer is looked up.
  | .channelReady _ _ p =>
    LockOp.nested [(.peerByChannelId, .write)] ++ LockOp.nested (self.peerLocks p)
  | .handleMessage (.request _ (.getInfo _)) p => LockOp.nested (keepRequestLocks p)
  | .handleMessage (.request _ (.buy params)) p => LockOp.nested (buyLocks env i.now self p params)
  | .handleMessage (.response ..) _ => []

/-- What a call changes is behind a lock that it acquires to write. -/
structure Guards (ops : List (LockOp ServiceLock)) (s s' : LSPS2ServiceHandler) : Prop where
  scids : s'.peerByInterceptScid ≠ s.peerByInterceptScid → .acquire .peerByInterceptScid .write ∈ ops
  channelIds : s'.peerByChannelId ≠ s.peerByChannelId → .acquire .peerByChannelId .write ∈ ops
  peers : ∀ p, s.perPeerState p = none → s'.perPeerState p ≠ none → .acquire .perPeerState .write ∈ ops
  peer : ∀ p, s'.perPeerState p ≠ s.perPeerState p → .acquire (.peerState p) .write ∈ ops

section Guards

variable {ops : List (LockOp ServiceLock)} {s : LSPS2ServiceHandler}

theorem guards_self : Guards ops s s :=
  ⟨fun h => absurd rfl h, fun h => absurd rfl h, fun _ h h' => absurd h h', fun _ h => absurd rfl h⟩

theorem guards_setPeer {p : PublicKey} {ps : PeerState} (h : .acquire (.peerState p) .write ∈ ops)
    (hnew : s.perPeerState p = none → .acquire .perPeerState .write ∈ ops) :
    Guards ops s (s.setPeer p ps) where
  scids h := absurd rfl h
  channelIds h := absurd rfl h
  peers q hq hq' := by
    by_cases hqp : q = p
    · exact hnew (hqp ▸ hq)
    · exact absurd ((PartialMap.insert_of_ne _ _ hqp).trans hq) hq'
  peer q hq := by
    by_cases hqp : q = p
    · exact hqp ▸ h
    · exact absurd (PartialMap.insert_of_ne _ _ hqp) hq

/-- The state of a peer is changed. -/
theorem guards_setPeer_of_eq {p : PublicKey} {ps ps' : PeerState} (hps : s.perPeerState p = some ps)
    (h : .acquire (.peerState p) .write ∈ ops) : Guards ops s (s.setPeer p ps') :=
  guards_setPeer h fun hnone => absurd (hps.symm.trans hnone) (by simp)

theorem Guards.of_scids {m : PartialMap Scid PublicKey} {s' : LSPS2ServiceHandler}
    (h : Guards ops { s with peerByInterceptScid := m } s')
    (hop : .acquire .peerByInterceptScid .write ∈ ops) : Guards ops s s' :=
  ⟨fun _ => hop, h.channelIds, h.peers, h.peer⟩

theorem Guards.of_channelIds {m : PartialMap ChannelId PublicKey} {s' : LSPS2ServiceHandler}
    (h : Guards ops { s with peerByChannelId := m } s')
    (hop : .acquire .peerByChannelId .write ∈ ops) : Guards ops s s' :=
  ⟨h.scids, fun _ => hop, h.peers, h.peer⟩

/-- The state of a peer that is found is locked to write. -/
theorem mem_peerLocks {p : PublicKey} {ps : PeerState} (hps : s.perPeerState p = some ps) :
    (.peerState p, .write) ∈ s.peerLocks p := by
  rw [peerLocks, hps]
  exact List.mem_cons_of_mem _ List.mem_cons_self

theorem acquire_foundPeerLocks {l : ServiceLock × LockMode} {p : PublicKey} {ps : PeerState}
    (hps : s.perPeerState p = some ps) :
    .acquire (.peerState p) .write ∈ LockOp.nested (l :: s.foundPeerLocks (some p)) :=
  LockOp.acquire_mem_nested.2 (List.mem_cons_of_mem _ (mem_peerLocks hps))

end Guards

section Calls

variable (s : LSPS2ServiceHandler) (cm : ChannelManager) (p : PublicKey) (requestId : RequestId)

theorem guards_respondGetInfo (response : LSPS2Response) :
    Guards (LockOp.nested (s.peerLocks p)) s (s.respondGetInfo p requestId response).1 := by
  simp only [respondGetInfo]
  split
  · next ps hps =>
    split
    all_goals exact guards_setPeer_of_eq hps (LockOp.acquire_mem_nested.2 (mem_peerLocks hps))
  · exact guards_self

theorem guards_invoiceParametersGenerated (scid : Scid) (delta : UInt32) (trusts : Bool)
    (user : UserChannelId) : Guards (LockOp.nested (s.invoiceLocks p requestId)) s
      (s.invoiceParametersGenerated p requestId scid delta trusts user).1 := by
  rw [invoiceParametersGenerated, invoiceLocks]
  cases hps : s.perPeerState p with
  | none => exact guards_self
  | some ps =>
    have hop := LockOp.acquire_mem_nested.2 (mem_peerLocks hps)
    have hop' := LockOp.acquire_mem_nested.2
      (List.mem_append_left [(ServiceLock.peerByInterceptScid, .write)] (mem_peerLocks hps))
    simp only [Option.bind_some]
    rcases ps.pendingRequests requestId with _ | _ | req
    · exact guards_setPeer_of_eq hps hop
    · exact guards_setPeer_of_eq hps hop
    · refine .of_scids (m := s.peerByInterceptScid.insert scid p) ?_ (by simp)
      exact guards_setPeer_of_eq (s := { s with peerByInterceptScid := _ }) hps hop'

theorem guards_htlcIntercepted (scid : Scid) (id : InterceptId) (amount : UInt64)
    (hash : PaymentHash) : Guards
      (LockOp.nested ((.peerByInterceptScid, .read) :: s.foundPeerLocks (s.peerByInterceptScid scid)))
      s (s.htlcIntercepted cm scid id amount hash).1 := by
  rw [htlcIntercepted]
  cases hscid : s.peerByInterceptScid scid with
  | none => exact guards_self
  | some p =>
    cases hps : s.perPeerState p with
    | none => simpa only [hps] using guards_self
    | some ps =>
      simp only [hps]
      repeat' split
      all_goals first
        | exact guards_self
        | exact guards_setPeer_of_eq hps (acquire_foundPeerLocks hps)

theorem guards_htlcHandlingFailed (nodeId : Option PublicKey) (channelId : ChannelId) : Guards
    (LockOp.nested ((.peerByChannelId, .read) :: s.foundPeerLocks (s.peerByChannelId channelId)))
    s (s.htlcHandlingFailed cm (.nextHopChannel nodeId channelId)).1 := by
  rw [htlcHandlingFailed]
  cases hchannel : s.peerByChannelId channelId with
  | none => exact guards_self
  | some p =>
    cases hps : s.perPeerState p with
    | none => simpa only [hps] using guards_self
    | some ps =>
      simp only [hps]
      repeat' split
      all_goals first
        | exact guards_self
        | exact guards_setPeer_of_eq hps (acquire_foundPeerLocks hps)

theorem guards_paymentForwarded (channelId : ChannelId) : Guards
    (LockOp.nested ((.peerByChannelId, .read) :: s.foundPeerLocks (s.peerByChannelId channelId)))
    s (s.paymentForwarded cm channelId).1 := by
  rw [paymentForwarded]
  cases hchannel : s.peerByChannelId channelId with
  | none => exact guards_self
  | some p =>
    cases hps : s.perPeerState p with
    | none => simpa only [hps] using guards_self
    | some ps =>
      simp only [hps]
      repeat' split
      all_goals first
        | exact guards_self
        | exact guards_setPeer_of_eq hps (acquire_foundPeerLocks hps)

theorem guards_channelReady (user : UserChannelId) (channelId : ChannelId) : Guards
    (LockOp.nested [(.peerByChannelId, .write)] ++ LockOp.nested (s.peerLocks p)) s
    (s.channelReady cm user channelId p).1 := by
  rw [channelReady]
  refine .of_channelIds (m := s.peerByChannelId.insert channelId p) ?_
    (List.mem_append_left _ (LockOp.acquire_mem_nested.2 List.mem_cons_self))
  cases hps : s.perPeerState p with
  | none => exact guards_self
  | some ps =>
    have hop := List.mem_append_right (LockOp.nested [(ServiceLock.peerByChannelId, .write)])
      (LockOp.acquire_mem_nested.2 (mem_peerLocks hps))
    dsimp only
    repeat' split
    all_goals first
      | exact guards_self
      | exact guards_setPeer_of_eq (s := { s with peerByChannelId := _ }) hps hop

theorem guards_keepRequest (request : LSPS2Request) :
    Guards (LockOp.nested (keepRequestLocks p)) s (s.keepRequest p requestId request) :=
  guards_setPeer (by simp [keepRequestLocks]) fun _ => by simp [keepRequestLocks]

theorem guards_handleBuyRequest (env : Externals) (now : UInt64) (params : BuyRequest) :
    Guards (LockOp.nested (buyLocks env now s p params)) s
      (s.handleBuyRequest env now requestId p params).1 := by
  rw [handleBuyRequest, buyLocks]
  cases params.paymentSizeMsat.bind (checkPaymentSize params.openingFeeParams) with
  | some refusal => exact guards_self
  | none =>
    rcases isValidOpeningFeeParams env now params.openingFeeParams s.promiseSecret with _ | _ | _
    · exact guards_self
    · exact guards_self
    · exact guards_keepRequest ..

end Calls

/-- What a call changes is behind a lock that it acquires to write. -/
theorem guards_step (env : Externals) (s : LSPS2ServiceHandler) (i : ServiceInput) :
    Guards (lockOps env s i) s (s.step env i).1 := by
  obtain ⟨call, cm, now⟩ := i
  cases call with
  | invalidTokenProvided | openingFeeParamsGenerated => exact guards_respondGetInfo ..
  | invoiceParametersGenerated => exact guards_invoiceParametersGenerated ..
  | htlcIntercepted => exact guards_htlcIntercepted ..
  | htlcHandlingFailed destination =>
    cases destination with
    | nextHopChannel nodeId channelId => exact guards_htlcHandlingFailed s cm nodeId channelId
    | other => exact guards_self
  | paymentForwarded => exact guards_paymentForwarded ..
  | channelReady => exact guards_channelReady ..
  | handleMessage message p =>
    rcases message with ⟨requestId, params | params⟩ | ⟨requestId, response⟩
    · exact guards_keepRequest ..
    · exact guards_handleBuyRequest ..
    · exact guards_self

/-- Threads that make calls, each with the handler it finds. -/
def callMachine (env : Externals) (τ : Type*) [DecidableEq τ] [Fintype τ] :
    Machine (τ → LockThread ServiceLock) (LockInput τ (LSPS2ServiceHandler × ServiceInput)) Unit :=
  lockMachine fun prog => lockOps env prog.1 prog.2

end LSPS2ServiceHandler

end LightningLiquidity
