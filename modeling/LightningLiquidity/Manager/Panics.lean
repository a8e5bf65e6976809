import LightningLiquidity.Lsps0.Reading
import LightningLiquidity.Lsps2.Service.Effects
import LightningLiquidity.Manager

/-!
# Panics

Of all messages of peers, only requests to buy a channel can make the manager
panic: those whose parameters expire before the Unix epoch, if the service gets to
see whether they have expired (`handleCustomMessage_ne_panic_iff`). It does so before
it checks their promise, so any peer can send one (`not_handleCustomMessage_ne_panic`).

A run of the manager is one of calls that return: a panic may leave locks behind
that make later calls panic too.
-/

namespace LightningLiquidity

/-! ## The handlers -/

theorem LSPS0ClientHandler.handleMessage_response_ne_panic (requestId : RequestId)
    (response : LSPS0Response) (p : PublicKey) :
    (handleMessage (.response requestId response) p).result ≠ .panic := by
  cases response <;> exact nofun

theorem LSPS0ServiceHandler.handleMessage_request_ne_panic (self : LSPS0ServiceHandler)
    (requestId : RequestId) (request : LSPS0Request) (p : PublicKey) :
    (self.handleMessage (.request requestId request) p).result ≠ .panic := by
  cases request
  exact nofun

theorem LSPS2ClientHandler.handleMessage_response_ne_panic (self : LSPS2ClientHandler)
    (requestId : RequestId) (response : LSPS2Response) (p : PublicKey) :
    (self.handleMessage (.response requestId response) p).2.result ≠ .panic := by
  rcases response with result | error | result | error
  all_goals
    simp only [handleMessage, handleGetInfoResponse, handleGetInfoError, handleBuyResponse,
      handleBuyError]
    repeat' split
    all_goals exact nofun

/-- A request to buy a channel of an acceptable payment size, if of a fixed one, whose
    parameters expire before the Unix epoch. -/
structure BuyRequest.ExpiresBeforeEpoch (req : BuyRequest) : Prop where
  size : ∀ sz, req.paymentSizeMsat = some sz → AcceptableSize req.openingFeeParams sz
  expiry : req.openingFeeParams.validUntil.timestamp < 0

/-- A `buy` request panics exactly on an expiry before the epoch, if its payment size is
    acceptable. -/
theorem LSPS2ServiceHandler.handleBuyRequest_eq_panic (env : Externals) (now : UInt64)
    (s : LSPS2ServiceHandler) (requestId : RequestId) (p : PublicKey) (req : BuyRequest) :
    (s.handleBuyRequest env now requestId p req).2.result = .panic ↔ req.ExpiresBeforeEpoch := by
  rw [handleBuyRequest]
  split
  · next hsize =>
    obtain ⟨sz, hsz, hcheck⟩ := Option.bind_eq_some_iff.1 hsize
    -- A refused size ends the call before the expiry is looked at.
    refine iff_of_false (Outcome.err_ne_panic _) fun h => ?_
    rw [checkPaymentSize_eq_none.2 (h.size sz hsz)] at hcheck
    cases hcheck
  · next hsize =>
    have hacc : ∀ sz, req.paymentSizeMsat = some sz → AcceptableSize req.openingFeeParams sz := by
      intro sz hsz
      rw [hsz, Option.bind_some] at hsize
      exact checkPaymentSize_eq_none.1 hsize
    have hiff : isValidOpeningFeeParams env now req.openingFeeParams s.promiseSecret = none ↔ _ :=
      isValidOpeningFeeParams_eq_none
    split
    · next hvalid => exact iff_of_true rfl ⟨hacc, hiff.1 hvalid⟩
    · next hvalid =>
      refine iff_of_false (Outcome.err_ne_panic _) fun h => ?_
      cases hvalid.symm.trans (hiff.2 h.expiry)
    · next hvalid =>
      refine iff_of_false Outcome.ok_ne_panic fun h => ?_
      cases hvalid.symm.trans (hiff.2 h.expiry)

/-! ## Reading messages -/

variable {serde : Serde} {requestId : RequestId} {request : LSPS2Request}

/-- A request is read without looking at the requests sent. -/
theorem LSPSMessage.fromStrWithIdMap_request {payload : String}
    {map : PartialMap RequestId LSPSMethod}
    (h : (fromStrWithIdMap serde payload map).1 = some (.lsps2 (.request requestId request)))
    (map' : PartialMap RequestId LSPSMethod) :
    fromStrWithIdMap serde payload map' = (some (.lsps2 (.request requestId request)), map') := by
  cases hid : answeredId serde payload with
  | none =>
    obtain ⟨m, hm, -⟩ := fromStrWithIdMap_other hid
    rw [hm] at h ⊢
    rw [← h]
  | some id =>
    -- An answer is read as a response.
    rw [fromStrWithIdMap_answer hid] at h
    obtain ⟨method, -, hanswer⟩ := Option.bind_eq_some_iff.1 h
    obtain ⟨ms, -, hresponse⟩ := Option.bind_eq_some_iff.1 hanswer
    cases getResponseIdAndMethod_response hresponse

/-- The text is a `buy` request of an acceptable payment size, if of a fixed one, whose
    parameters expire before the Unix epoch. -/
def BuysBeforeEpoch (serde : Serde) (payload : String) : Prop :=
  ∃ requestId req, (LSPSMessage.fromStrWithIdMap serde payload .empty).1 =
    some (.lsps2 (.request requestId (.buy req))) ∧ req.ExpiresBeforeEpoch

/-! ## The manager -/

/-- A service of LSPS2 is configured. -/
def LiquidityServiceConfig.ServesLsps2 (serviceConfig : Option LiquidityServiceConfig) : Prop :=
  ∃ config, serviceConfig = some config ∧ config.lsps2ServiceConfig.isSome

namespace LiquidityManager

variable {env : Externals} {serviceConfig : Option LiquidityServiceConfig}
  {clientConfig : Option LiquidityClientConfig} {s : LiquidityManager}

/-- A call returns. -/
def Returns (out : ManagerOutput) : Prop := out.result ≠ .panic

instance : DecidablePred Returns := fun out => inferInstanceAs (Decidable (out.result ≠ .panic))

theorem isSome_lsps2ServiceHandler_handleLspsMessage (env : Externals) (now : UInt64)
    (s : LiquidityManager) (msg : LSPSMessage) (p : PublicKey) :
    (s.handleLspsMessage env now msg p).1.lsps2ServiceHandler.isSome =
      s.lsps2ServiceHandler.isSome := by
  rcases msg with _ | ⟨_ | _⟩ | ⟨_ | _⟩
  all_goals
    simp only [handleLspsMessage]
    repeat' split
    all_goals first | rfl | (next h => rw [h]; rfl)

theorem isSome_lsps2ServiceHandler_step (env : Externals) (serde : Serde) (s : LiquidityManager)
    (i : ManagerInput) :
    (s.step env serde i).1.lsps2ServiceHandler.isSome = s.lsps2ServiceHandler.isSome := by
  obtain ⟨call, cm, now, entropy⟩ := i
  cases call with
  | handleCustomMessage payload p =>
    simp only [step, handleCustomMessage]
    split
    · rfl
    split
    · rfl
    · exact isSome_lsps2ServiceHandler_handleLspsMessage ..
  | getAndClearPendingMsg | nextEvent | getAndClearPendingEvents | listProtocols => rfl
  | requestOpeningParams | selectOpeningParams =>
    simp only [step]
    split <;> rfl
  | service call =>
    simp only [step]
    split
    · next h => rw [h]; rfl
    · rfl

/-- No handler is added or removed. -/
theorem isSome_lsps2ServiceHandler
    (h : (machine env serde).Reaches Returns (.new serviceConfig clientConfig) s) :
    s.lsps2ServiceHandler.isSome ↔ LiquidityServiceConfig.ServesLsps2 serviceConfig := by
  have hnew : (new serviceConfig clientConfig).lsps2ServiceHandler.isSome ↔
      LiquidityServiceConfig.ServesLsps2 serviceConfig := by
    rcases serviceConfig with _ | ⟨_ | config⟩ <;> simp [new, LiquidityServiceConfig.ServesLsps2]
  refine h.invariant (P := fun s => s.lsps2ServiceHandler.isSome ↔ _) (fun s i hs _ => ?_) hnew
  rwa [machine, isSome_lsps2ServiceHandler_step]

/-- A message makes its handler panic exactly if it is a request to buy a channel that
    expires before the epoch. -/
theorem handleLspsMessage_eq_panic (env : Externals) (now : UInt64) (s : LiquidityManager)
    (msg : LSPSMessage) (p : PublicKey) :
    (s.handleLspsMessage env now msg p).2 = .panic ↔ s.lsps2ServiceHandler.isSome ∧
      ∃ requestId req, msg = .lsps2 (.request requestId (.buy req)) ∧ req.ExpiresBeforeEpoch := by
  -- Only requests to the service may panic: clients only get responses, services requests.
  rcases msg with error | ⟨⟨requestId, request⟩ | ⟨requestId, response⟩⟩ |
    ⟨⟨requestId, request⟩ | ⟨requestId, response⟩⟩
  · exact iff_of_false (Outcome.err_ne_panic _) (by rintro ⟨_, _, _, ⟨⟩, _⟩)
  · refine iff_of_false ?_ (by rintro ⟨_, _, _, ⟨⟩, _⟩)
    simp only [handleLspsMessage]
    split
    · next handler _ =>
      rw [finishLsps0, Outcome.mapError_eq_panic]
      exact handler.handleMessage_request_ne_panic requestId request p
    · exact Outcome.err_ne_panic _
  · refine iff_of_false ?_ (by rintro ⟨_, _, _, ⟨⟩, _⟩)
    rw [handleLspsMessage, finishLsps0, Outcome.mapError_eq_panic]
    exact LSPS0ClientHandler.handleMessage_response_ne_panic requestId response p
  · simp only [handleLspsMessage]
    split
    · next handler hhandler =>
      rw [finishLsps2Service, Outcome.mapError_eq_panic, hhandler]
      rcases request with params | req
      · exact iff_of_false Outcome.ok_ne_panic (by rintro ⟨_, _, _, ⟨⟩, _⟩)
      · rw [LSPS2ServiceHandler.handleMessage, LSPS2ServiceHandler.handleBuyRequest_eq_panic]
        simp
    · next hhandler => simp [hhandler]
  · refine iff_of_false ?_ (by rintro ⟨_, _, _, ⟨⟩, _⟩)
    simp only [handleLspsMessage]
    split
    · next handler _ =>
      rw [finishLsps2Client, Outcome.mapError_eq_panic]
      exact handler.handleMessage_response_ne_panic requestId response p
    · exact Outcome.err_ne_panic _

/-- **Panics on messages.** In every state of a manager, a message makes it panic exactly
    if its sender is not ignored, the LSPS2 service is configured, and the message is a
    request to buy a channel that expires before the Unix epoch. -/
theorem handleCustomMessage_ne_panic_iff
    (h : (machine env serde).Reaches Returns (.new serviceConfig clientConfig) s) (now : UInt64)
    (payload : String) (p : PublicKey) :
    (s.handleCustomMessage env serde now payload p).2 ≠ .panic ↔
      ¬(s.ignoredPeers p = none ∧ LiquidityServiceConfig.ServesLsps2 serviceConfig ∧
        BuysBeforeEpoch serde payload) := by
  rw [not_iff_not, ← isSome_lsps2ServiceHandler h, handleCustomMessage]
  split
  · next hignored =>
    refine iff_of_false (Outcome.err_ne_panic _) fun h => ?_
    rw [h.1] at hignored
    cases hignored
  next hignored =>
  rw [Option.not_isSome_iff_eq_none] at hignored
  rcases hread : LSPSMessage.fromStrWithIdMap serde payload s.requestIdToMethodMap with
    ⟨_ | message, map⟩
  · -- What cannot be read with the map of the manager is no request with any map.
    refine iff_of_false (Outcome.err_ne_panic _) ?_
    rintro ⟨_, _, requestId, req, hreq, _⟩
    rw [LSPSMessage.fromStrWithIdMap_request hreq] at hread
    cases hread
  · simp only [handleLspsMessage_eq_panic, hignored, true_and]
    refine and_congr_right fun _ => ?_
    constructor
    · rintro ⟨requestId, req, rfl, hexpires⟩
      have hreq := LSPSMessage.fromStrWithIdMap_request (congrArg Prod.fst hread) .empty
      exact ⟨requestId, req, congrArg Prod.fst hreq, hexpires⟩
    · rintro ⟨requestId, req, hreq, hexpires⟩
      have hmessage := (LSPSMessage.fromStrWithIdMap_request hreq s.requestIdToMethodMap).symm.trans
        hread
      exact ⟨requestId, req, (Option.some.inj (congrArg Prod.fst hmessage)).symm, hexpires⟩

/-! ## A request that expires before the epoch -/

/-- A request to buy a channel without a fixed payment size, of the given expiry. -/
def sampleBuyMessage (validUntil : DateTime) : LSPSMessage :=
  .lsps2 (.request ⟨"1"⟩ (.buy ⟨{ sampleParams with validUntil }, none⟩))

/-- The text of the request. -/
def sampleBuyText (validUntil : String) : String :=
  "\x7b\"jsonrpc\":\"2.0\",\"id\":\"1\",\"method\":\"lsps2.buy\",\"params\":" ++
  "\x7b\"opening_fee_params\":\x7b\"min_fee_msat\":\"10\",\"proportional\":100000," ++
  "\"valid_until\":\"" ++ validUntil ++ "\",\"min_lifetime\":144," ++
  "\"max_client_to_self_delay\":128,\"min_payment_size_msat\":\"1\"," ++
  "\"max_payment_size_msat\":\"1000\",\"promise\":\"\"\x7d\x7d\x7d"

/-- Two date-times, a second before the epoch and in the future, and their texts. -/
def sampleDates : List (DateTime × String) :=
  [(⟨-1, 0⟩, "1969-12-31T23:59:59Z"), (⟨2000000000, 0⟩, "2033-05-18T03:33:20Z")]

/-- The texts of the two date-times. -/
def sampleDateTexts : Serde where
  parseJson _ := none
  writeJson _ := none
  parseDateTime text := (sampleDates.find? fun d => d.2 = text).map Prod.fst
  writeDateTime t := ((sampleDates.find? fun d => d.1 = t).map Prod.snd).getD ""

/-- The texts of the two date-times, and of the requests that expire then. -/
def sampleSerde : Serde :=
  { sampleDateTexts with
    parseJson := fun text => (sampleDates.find? fun d => sampleBuyText d.2 = text).map fun d =>
      ((sampleBuyMessage d.1).serialize sampleDateTexts, "") }

/-- A service of LSPS2. -/
def sampleService : Option LiquidityServiceConfig := some ⟨some ⟨[]⟩⟩

/-- A request that expires in the future does not panic. -/
theorem handleCustomMessage_ne_panic_future :
    ((new sampleService none).handleCustomMessage sampleExternals sampleSerde 0
      (sampleBuyText "2033-05-18T03:33:20Z") ⟨0⟩).2 ≠ .panic := by
  have hnew : (machine sampleExternals sampleSerde).Reaches Returns (new sampleService none)
    (new sampleService none) := .refl
  refine (handleCustomMessage_ne_panic_iff hnew 0 _ ⟨0⟩).2
    fun ⟨_, _, requestId, req, hreq, hexpires⟩ => ?_
  have hread : (LSPSMessage.fromStrWithIdMap sampleSerde (sampleBuyText "2033-05-18T03:33:20Z")
      .empty).1 = some (sampleBuyMessage ⟨2000000000, 0⟩) := by decide +kernel
  cases hread.symm.trans hreq
  exact absurd hexpires.expiry (by decide)

/-- A request that expires a second before the epoch makes a new manager panic. -/
theorem not_handleCustomMessage_ne_panic :
    ¬∀ (env : Externals) (serde : Serde) (serviceConfig : Option LiquidityServiceConfig)
      (clientConfig : Option LiquidityClientConfig) (s : LiquidityManager),
      (machine env serde).Reaches Returns (.new serviceConfig clientConfig) s →
        ∀ (now : UInt64) (payload : String) (p : PublicKey),
          (s.handleCustomMessage env serde now payload p).2 ≠ .panic := by
  intro h
  exact h sampleExternals sampleSerde sampleService none _ .refl 0
    (sampleBuyText "1969-12-31T23:59:59Z") ⟨0⟩ (by decide +kernel)

end LiquidityManager

end LightningLiquidity
