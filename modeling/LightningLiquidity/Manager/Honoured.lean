import LightningLiquidity.Lsps2.Service.BuyRequests
import LightningLiquidity.Manager.Agreement

/-!
# Offers are honoured

The secret under which a service makes its promises never changes. So the offers made to
the user of one of two managers are known to the other one again when they are selected:
a request to buy a channel under one of them is taken when it arrives, if the offer has
not expired then and a payment size named can be paid under it, and else refused with the
error code of the condition it fails (`offers_honoured`). This is so as long as no call
panics: a panic may leave the state of the peer behind a poisoned lock.
-/

namespace LightningLiquidity

/-! ## The secret -/

namespace LiquidityManager

/-- The secret of the service. -/
def promiseSecret? (s : LiquidityManager) : Option (List UInt8) :=
  s.lsps2ServiceHandler.map LSPS2ServiceHandler.promiseSecret

variable {s : LiquidityManager}

theorem promiseSecret?_eq {handler : LSPS2ServiceHandler}
    (h : s.lsps2ServiceHandler = some handler) : s.promiseSecret? = some handler.promiseSecret := by
  rw [promiseSecret?, h, Option.map_some]

/-- No call changes the secret. -/
theorem promiseSecret?_step (env : Externals) (serde : Serde) (s : LiquidityManager)
    (i : ManagerInput) : (s.step env serde i).1.promiseSecret? = s.promiseSecret? := by
  rcases service_step env serde s i with h | ⟨handler, j, hhandler, h⟩
  · rw [promiseSecret?, promiseSecret?, h]
  · rw [promiseSecret?_eq h, promiseSecret?_eq hhandler, handler.promiseSecret_step]

/-- A request to buy a channel is kept, and the user told of it. -/
structure TakesBuy (p : PublicKey) (requestId : RequestId) (req : BuyRequest)
    (s s' : LiquidityManager) : Prop where
  requests : s'.serviceRequests = s.serviceRequests.insert (p, requestId) (.buy req)
  events : s'.pendingEvents = s.pendingEvents ++
    [.lsps2Service (.buyRequest requestId p req.openingFeeParams req.paymentSizeMsat)]
  messages : s'.pendingMessages = s.pendingMessages

/-- A request to buy a channel is answered by an error, of a code. -/
structure RefusesBuy (p : PublicKey) (requestId : RequestId) (code : Int32)
    (s s' : LiquidityManager) : Prop where
  requests : s'.serviceRequests = s.serviceRequests
  events : s'.pendingEvents = s.pendingEvents
  messages : ∃ error : ResponseError, error.code = code ∧ s'.pendingMessages =
    s.pendingMessages ++ [(p, .lsps2 (.response requestId (.buyError error)))]

/-- A request to buy a channel is taken iff it is acceptable. -/
theorem handleLspsMessage_buy {handler : LSPS2ServiceHandler}
    (h : s.lsps2ServiceHandler = some handler) (env : Externals) (now : UInt64)
    (requestId : RequestId) (p : PublicKey) {req : BuyRequest}
    (hepoch : 0 ≤ req.openingFeeParams.validUntil.timestamp) :
    (req.Acceptable env handler.promiseSecret now → TakesBuy p requestId req s
      (s.handleLspsMessage env now (.lsps2 (.request requestId (.buy req))) p).1) ∧
    (¬req.Acceptable env handler.promiseSecret now → RefusesBuy p requestId req.errorCode s
      (s.handleLspsMessage env now (.lsps2 (.request requestId (.buy req))) p).1) := by
  have hself : s.serviceRequests = handler.requests := serviceRequests_eq h
  have hstep : s.handleLspsMessage env now (.lsps2 (.request requestId (.buy req))) p =
      s.finishLsps2Service (handler.handleBuyRequest env now requestId p req) := by
    rw [handleLspsMessage, h]
    rfl
  rw [hstep]
  rcases handler.handleBuyRequest_decides env now requestId p req hepoch with
    ⟨hacc, hkept⟩ | ⟨hno, hstate, hrefused⟩
  · refine ⟨fun _ => ?_, fun hno => absurd hacc hno⟩
    rw [hkept]
    refine ⟨?_, rfl, List.append_nil _⟩
    rw [hself]
    exact LSPS2ServiceHandler.requests_keepRequest ..
  · refine ⟨fun hacc => absurd hacc hno, fun _ => ?_⟩
    generalize handler.handleBuyRequest env now requestId p req = r at hstate hrefused
    obtain ⟨handler', out⟩ := r
    obtain rfl : handler' = handler := hstate
    obtain ⟨error, hcode, hmessages⟩ := hrefused.messages
    refine ⟨hself.symm, ?_, error, hcode, ?_⟩
    · have hevents : out.events = [] := hrefused.events
      simp only [finishLsps2Service, enqueue, hevents, List.map_nil, List.append_nil]
    · replace hmessages : out.messages = _ := hmessages
      simp only [finishLsps2Service, enqueue, hmessages, List.map_cons, List.map_nil]

end LiquidityManager

open LiquidityManager

/-! ## Two managers -/

namespace Link

variable {env : Externals} {serde : Serde} {node : Bool → PublicKey} {s : Link} {b : Bool}

theorem promiseSecret?_exec (env : Externals) (serde : Serde) (node : Bool → PublicKey) (s : Link)
    (is : List LinkInput) (b : Bool) :
    (((machine env serde node).exec s is).manager b).promiseSecret? =
      (s.manager b).promiseSecret? := by
  refine forall_manager_exec (P := fun b A => A.promiseSecret? = (s.manager b).promiseSecret?)
    (fun b A i h => ?_) is (fun _ => rfl) b
  rw [promiseSecret?_step, h]

/-- The calls of a user were made to managers with the secret of the first one. -/
theorem promiseSecret?_of_mem_userCalls {is : List LinkInput} {c : Made}
    (h : c ∈ userCalls env serde node s is b) :
    c.1.promiseSecret? = (s.manager b).promiseSecret? := by
  obtain ⟨pre, i, post, -, hmade⟩ := Machine.exists_of_mem_gather h
  cases i with
  | call b' i isPublic =>
    rw [LinkInput.made] at hmade
    split at hmade
    · obtain rfl := List.mem_singleton.1 hmade
      exact promiseSecret?_exec env serde node s pre b
    · cases hmade
  | fetch | deliver => cases hmade

/-- An offer made carries the promise of the service, which is still there. -/
theorem exists_promiseVerified {past : List Made} {secret : Option (List UInt8)}
    (hpast : ∀ c ∈ past, c.1.promiseSecret? = secret) {purchases : List Made} {p q : PublicKey}
    {requestId : RequestId} {menu : List OpeningFeeParams} {params : OpeningFeeParams}
    (h : Offered env past purchases p q requestId menu) (hparams : params ∈ menu) :
    ∃ promiseSecret, secret = some promiseSecret ∧ PromiseVerified env promiseSecret params := by
  obtain ⟨getInfo, ⟨c, hc, hrequest, handler, raw, call, hhandler, hcall, hcall', rfl⟩, -⟩ := h
  refine ⟨handler.promiseSecret, ?_, ?_⟩
  · rw [← hpast c hc, promiseSecret?_eq hhandler]
  · obtain ⟨param, -, rfl⟩ := List.mem_map.1 hparams
    exact promiseVerified_iff.2 rfl

/-- **Offers are honoured.** In every run of two managers in which the ids of requests are
    distinct, no offer is selected that expires before the epoch, and the texts of messages are
    read back: a request to buy a channel that is delivered when no call has panicked before,
    for an offer made by the manager it is delivered to, is taken if the offer has not expired
    and a payment size named can be paid under it, and refused with its error code otherwise. -/
theorem offers_honoured (env : Externals) (serde : Serde) (node : Bool → PublicKey)
    (serviceConfig : Bool → Option LiquidityServiceConfig)
    (clientConfig : Bool → Option LiquidityClientConfig) (is : List LinkInput)
    (hids : ∀ b, ((requests b is).map fun e => e.2.1).Nodup)
    (hfair : (machine env serde node).Along (Fair serde) (new serviceConfig clientConfig) is) :
    ∀ pre b now post, is = pre ++ .deliver b now :: post →
      (machine env serde node).Outputs Returns (new serviceConfig clientConfig) pre →
      let past := userCalls env serde node (new serviceConfig clientConfig) pre
      let s := (machine env serde node).exec (new serviceConfig clientConfig) pre
      let A := s.manager b
      let A' := (s.step env serde node (.deliver b now)).1.manager b
      ∀ c rest, s.inFlight b = c :: rest →
        ∀ requestId req, c.message = .lsps2 (.request requestId (.buy req)) →
        ∀ offerId menu, Offered env (past b) (past !b) (node b) (node !b) offerId menu →
          req.openingFeeParams ∈ menu →
          let honours := (now.toNat : ℤ) ≤ req.openingFeeParams.validUntil.timestamp ∧
            ∀ size, req.paymentSizeMsat = some size → req.openingFeeParams.Payable size
          (honours → TakesBuy (node !b) requestId req A A') ∧
            (¬honours → RefusesBuy (node !b) requestId req.errorCode A A') := by
  rintro pre b now post rfl - past s A A' c rest hc requestId req hm offerId menu hoffered hparams
    honours
  have horderly : s.Orderly serde node fun b => requests b pre :=
    orderly_exec (fun b => nodup_requests_of_append (hids b)) (Machine.along_append.1 hfair).1
  -- The offer was made under the secret that requests are checked with.
  obtain ⟨secret, hsecret, hpromise⟩ := exists_promiseVerified
    (fun c => promiseSecret?_of_mem_userCalls) hoffered hparams
  rw [← promiseSecret?_exec env serde node _ pre b] at hsecret
  obtain ⟨handler, hhandler, rfl⟩ := Option.map_eq_some_iff.1 hsecret
  have hacc : req.Acceptable env handler.promiseSecret now ↔ honours :=
    ⟨fun h => ⟨h.unexpired, h.size⟩, fun h => ⟨hpromise, h.1, h.2⟩⟩
  have hunderstood := horderly.understood hc env now
  have hepoch := (horderly.written b c (hc ▸ List.mem_cons_self)).proper
  rw [hm] at hepoch
  have hignored : A.ignoredPeers (node !b) = none := by
    rw [horderly.ignoredPeers]
    rfl
  have hA' : A' = (A.handleCustomMessage env serde now c.text (node !b)).1 := by
    show (s.step env serde node (.deliver b now)).1.manager b = _
    rw [step_deliver hc]
    exact Function.update_self ..
  rw [handleCustomMessage_of_read env now hignored hunderstood.read, hm] at hA'
  generalize (LSPSMessage.fromStrWithIdMap serde c.text A.requestIdToMethodMap).2 = map at hA'
  obtain ⟨htakes, hrefuses⟩ := handleLspsMessage_buy (s := { A with requestIdToMethodMap := map })
    hhandler env now requestId (node !b) hepoch
  rw [← hA', hacc] at htakes hrefuses
  exact ⟨fun h => ⟨(htakes h).requests, (htakes h).events, (htakes h).messages⟩,
    fun h => ⟨(hrefuses h).requests, (hrefuses h).events, (hrefuses h).messages⟩⟩

/-! ## An offer that is selected -/

/-- The offer is one the client was told of. -/
theorem offered_sampleOfferRun :
    let past := userCalls sampleExternals sampleOfferSerde (fun b => if b then ⟨1⟩ else ⟨0⟩)
      sampleLink (sampleOfferRun.take 8)
    Offered sampleExternals (past true) (past false) ⟨1⟩ ⟨0⟩ ⟨"00000000000000000000000000000000"⟩
      [sampleParams] := by
  have hids : ∀ b, ((requests b (sampleOfferRun.take 8)).map fun e => e.2.1).Nodup := by decide
  have hagree : Agree sampleExternals (fun b => if b then ⟨1⟩ else ⟨0⟩) _ (sampleOfferAfter 8) :=
    agree_exec hids (Machine.along_append.1 fair_sampleOfferRun).1
  have hready : .lsps2Client (.openingParametersReady ⟨"00000000000000000000000000000000"⟩ ⟨1⟩
      [sampleParams]) ∈ ((sampleOfferAfter 8).manager false).pendingEvents := by decide +kernel
  exact ((hagree false).events _ hready).2

set_option maxRecDepth 2000 in
/-- The offer selected is taken. -/
theorem offers_honoured_selected :
    TakesBuy ⟨0⟩ ⟨"01010101010101010101010101010101"⟩ ⟨sampleParams, some 500⟩
      ((sampleOfferAfter 8).manager true) ((sampleOfferAfter 9).manager true) := by
  have hids : ∀ b, ((requests b sampleOfferRun).map fun e => e.2.1).Nodup := by decide
  have hinFlight : (sampleOfferAfter 8).inFlight true = [⟨sampleBuyMessage, sampleBuyText⟩] := by
    decide +kernel
  have hreturns : (machine sampleExternals sampleOfferSerde fun b => if b then ⟨1⟩ else ⟨0⟩).Outputs
      Returns sampleLink (sampleOfferRun.take 8) := by decide +kernel
  refine (offers_honoured sampleExternals sampleOfferSerde (fun b => if b then ⟨1⟩ else ⟨0⟩) _ _
    sampleOfferRun hids fair_sampleOfferRun (sampleOfferRun.take 8) true 0 [] rfl hreturns _ []
    hinFlight _ _ rfl _ _ offered_sampleOfferRun (List.mem_singleton_self _)).1 ⟨by decide, ?_⟩
  rintro _ ⟨⟩
  exact ⟨by decide, by decide, by decide, by decide⟩

end Link

end LightningLiquidity
