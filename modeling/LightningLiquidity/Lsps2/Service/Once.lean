import LightningLiquidity.Lsps2.Service.Answers
import LightningLiquidity.Lsps2.Service.Replies

/-!
# Requests are answered once

A request received is kept until it is answered, or refused at once. What a call does to
the requests kept and what it sends go together (`LSPS2ServiceHandler.Exchange`): an answer
takes off the request it is for. No request is thus answered twice, whatever the peers and
the node do (`requests_answered_once`), and a channel is only sold to a request that was kept.
-/

namespace LightningLiquidity

/-- What a response answers. -/
def LSPS2Response.kind : LSPS2Response → RequestKind
  | getInfo _ | getInfoError _ => .getInfo
  | buy _ | buyError _ => .buy

/-- The request a message makes, or answers. -/
abbrev RequestKey := (PublicKey × RequestId) × RequestKind

/-- The request received with a call. -/
def ServiceCall.asks : ServiceCall → List RequestKey
  | handleMessage (.request requestId request) p => [((p, requestId), request.kind)]
  | _ => []

/-- The requests answered by messages. -/
def answered (messages : List (PublicKey × LSPS2Message)) : List RequestKey :=
  messages.filterMap fun m => match m.2 with
    | .response requestId response => some ((m.1, requestId), response.kind)
    | .request .. => none

namespace LSPS2ServiceHandler

variable {env : Externals} {s : LSPS2ServiceHandler} {i : ServiceInput}

/-- The requests received in a run. -/
def received (env : Externals) (s : LSPS2ServiceHandler) (is : List ServiceInput) :
    List RequestKey :=
  (machine env).gather (fun _ i => i.call.asks) s is

/-- The requests answered in a run. -/
def responses (env : Externals) (s : LSPS2ServiceHandler) (is : List ServiceInput) :
    List RequestKey :=
  (machine env).gather (fun s i => answered (s.step env i).2.messages) s is

/-- What a call receives, sends, and does to the requests kept. -/
inductive Exchange (s : LSPS2ServiceHandler) : List RequestKey → List (PublicKey × LSPS2Message) →
    PartialMap (PublicKey × RequestId) LSPS2Request → Prop
  /-- Nothing is sent. A request that is read at all may be lost. -/
  | quiet {asks : List RequestKey} : Exchange s asks [] s.requests
  | drop {key : PublicKey × RequestId} : Exchange s [] [] (s.requests.remove key)
  | answer {p : PublicKey} {requestId : RequestId} {request : LSPS2Request} {response : LSPS2Response}
      (hreq : s.requests (p, requestId) = some request) (hkind : request.kind = response.kind) :
      Exchange s [] [(p, .response requestId response)] (s.requests.remove (p, requestId))
  | receive {p : PublicKey} {requestId : RequestId} {request : LSPS2Request} :
      Exchange s [((p, requestId), request.kind)] [] (s.requests.insert (p, requestId) request)
  | refuse {p : PublicKey} {requestId : RequestId} {error : ResponseError} :
      Exchange s [((p, requestId), .buy)] [(p, .response requestId (.buyError error))] s.requests

/-- An answer sends nothing, or the answer to a request of its kind. -/
theorem Replies.of_answers {call : ServiceCall} {messages : List (PublicKey × LSPS2Message)}
    {key : PublicKey × RequestId} {kind : RequestKind} (h : s.Replies env call messages)
    (hcall : call.answers? = some (key, kind)) :
    messages = [] ∨ ∃ request response, s.requests key = some request ∧
      request.kind = LSPS2Response.kind response ∧ messages = [(key.1, .response key.2 response)] := by
  cases h with
  | none => exact .inl rfl
  | refuse => cases hcall
  | invalidToken h | menu h | invoice h =>
    obtain ⟨rfl, rfl⟩ := Prod.mk.inj (Option.some.inj hcall)
    exact .inr ⟨_, _, h, rfl, rfl⟩

/-- A call that neither answers a request nor brings one sends nothing. -/
theorem Replies.of_event {call : ServiceCall} {messages : List (PublicKey × LSPS2Message)}
    (h : s.Replies env call messages) (hcall : call.answers? = Option.none) (hasks : call.asks = []) :
    messages = [] := by
  cases h with
  | none => rfl
  | refuse => cases hasks
  | invalidToken | menu | invoice => cases hcall

theorem exchange_of_answers {key : PublicKey × RequestId} {kind : RequestKind}
    (h : i.call.answers? = some (key, kind)) (hasks : i.call.asks = []) :
    s.Exchange i.call.asks (s.step env i).2.messages (s.step env i).1.requests := by
  rw [requests_answer h, hasks]
  rcases (s.replies_step env i).of_answers h with hm | ⟨request, response, hreq, hkind, hm⟩
  · rw [hm]
    exact .drop
  · rw [hm]
    exact .answer hreq hkind

theorem exchange_of_event (hcall : i.call.answers? = none) (hasks : i.call.asks = [])
    (hreq : (s.step env i).1.requests = s.requests) :
    s.Exchange i.call.asks (s.step env i).2.messages (s.step env i).1.requests := by
  have hnil := (s.replies_step env i).of_event hcall hasks
  rw [hreq, hnil]
  exact .quiet

/-- What receiving a `buy` request does. -/
theorem exchange_handleBuyRequest (env : Externals) (now : UInt64) (s : LSPS2ServiceHandler)
    (requestId : RequestId) (p : PublicKey) (req : BuyRequest) :
    s.Exchange [((p, requestId), .buy)] (s.handleBuyRequest env now requestId p req).2.messages
      (s.handleBuyRequest env now requestId p req).1.requests := by
  rw [handleBuyRequest]
  split
  · exact .refuse
  · split
    · exact .quiet
    · exact .refuse
    · rw [requests_keepRequest]
      exact @Exchange.receive s p requestId (.buy req)

/-- What a call receives, sends, and does to the requests kept. -/
theorem exchange_step (env : Externals) (s : LSPS2ServiceHandler) (i : ServiceInput) :
    s.Exchange i.call.asks (s.step env i).2.messages (s.step env i).1.requests := by
  obtain ⟨call, cm, now⟩ := i
  cases call with
  | invalidTokenProvided | openingFeeParamsGenerated | invoiceParametersGenerated =>
    exact exchange_of_answers rfl rfl
  | htlcIntercepted => exact exchange_of_event rfl rfl (requests_htlcIntercepted ..)
  | htlcHandlingFailed => exact exchange_of_event rfl rfl (requests_htlcHandlingFailed ..)
  | paymentForwarded => exact exchange_of_event rfl rfl (requests_paymentForwarded ..)
  | channelReady => exact exchange_of_event rfl rfl (requests_channelReady ..)
  | handleMessage message p =>
    obtain ⟨requestId, params | req⟩ | _ := message
    · show s.Exchange _ [] (s.keepRequest p requestId (.getInfo params)).requests
      rw [requests_keepRequest]
      exact @Exchange.receive s p requestId (.getInfo params)
    · exact exchange_handleBuyRequest ..
    · exact .quiet

/-! ## Counting requests and responses -/

/-- Whether a request of the kind is kept. -/
def waiting (s : LSPS2ServiceHandler) (b : RequestKey) : ℕ :=
  if (s.requests b.1).map LSPS2Request.kind = some b.2 then 1 else 0

/-- No call answers more than the requests it brings, or that are kept. -/
theorem count_answered_step (env : Externals) (s : LSPS2ServiceHandler) (i : ServiceInput)
    (b : RequestKey) :
    (answered (s.step env i).2.messages).count b + (s.step env i).1.waiting b ≤
      i.call.asks.count b + s.waiting b := by
  obtain ⟨key, kind⟩ := b
  have hex := s.exchange_step env i
  simp only [waiting]
  generalize i.call.asks = asks, (s.step env i).2.messages = messages,
    (s.step env i).1.requests = requests' at hex ⊢
  cases hex with
  | quiet => simp [answered]
  | @drop key' =>
    by_cases hk : key = key'
    · simp [answered, hk]
    · simp [answered, PartialMap.remove_of_ne _ hk]
  | @answer p requestId request response hreq hkind =>
    by_cases hk : key = (p, requestId)
    · subst hk
      by_cases hkind' : kind = response.kind
      · simp [answered, hreq, hkind, hkind']
      · simp [answered, Ne.symm hkind']
    · simp [answered, PartialMap.remove_of_ne _ hk, Ne.symm hk]
  | @receive p requestId request =>
    by_cases hk : key = (p, requestId)
    · subst hk
      by_cases hkind : request.kind = kind
      · simp [answered, hkind]
      · simp [answered, hkind]
    · simp [answered, PartialMap.insert_of_ne _ _ hk]
  | refuse => simp [answered, LSPS2Response.kind]

/-- In every run, a request is answered at most as often as it was received. -/
theorem count_responses_le (env : Externals) (secret : List UInt8) (is : List ServiceInput)
    (b : RequestKey) :
    (responses env (.new secret) is).count b ≤ (received env (.new secret) is).count b := by
  have h := Machine.Along.count_gather_add_le (fun s => s.waiting b)
    (fun s i _ => s.count_answered_step env i b) ((machine env).along_true (new secret) is)
  have hnew : (new secret).waiting b = 0 := rfl
  rw [hnew] at h
  exact (Nat.le_add_right ..).trans h

/-- A request received in a run is in one of its calls. -/
theorem exists_of_mem_received {is : List ServiceInput} {key : PublicKey × RequestId}
    {kind : RequestKind} (h : (key, kind) ∈ received env s is) :
    ∃ j ∈ is, ∃ request, j.call = .handleMessage (.request key.2 request) key.1 ∧
      request.kind = kind := by
  induction is generalizing s with
  | nil => cases h
  | cons i is ih =>
    rcases List.mem_append.1 h with h | h
    · refine ⟨i, List.mem_cons_self, ?_⟩
      obtain ⟨call, cm, now⟩ := i
      cases call with
      | handleMessage message p =>
        cases message with
        | request requestId request =>
          obtain ⟨rfl, rfl⟩ := Prod.mk.inj (List.mem_singleton.1 h)
          exact ⟨request, rfl, rfl⟩
        | response => cases h
      | _ => cases h
    · obtain ⟨j, hj, hrest⟩ := ih h
      exact ⟨j, List.mem_cons_of_mem _ hj, hrest⟩

/-! ## Requests kept, and channels sold to them -/

/-- A request that is kept was received, in a call that succeeded. -/
theorem exists_of_requests {secret : List UInt8} {is : List ServiceInput}
    {key : PublicKey × RequestId} {request : LSPS2Request}
    (h : ((machine env).exec (.new secret) is).requests key = some request) :
    ∃ pre j post, is = pre ++ j :: post ∧
      j.call = .handleMessage (.request key.2 request) key.1 ∧
      (((machine env).exec (.new secret) pre).step env j).2.result = .ok := by
  have hrun := Machine.exists_of_exec (m := machine env) (P := fun s => s.requests key = some request)
    (Q := fun s j => j.call = .handleMessage (.request key.2 request) key.1 ∧
      (s.step env j).2.result = .ok) (fun s j hs => ?_) h
  · rcases hrun with hnew | hrun
    · cases hnew
    · exact hrun
  cases requestsStep_step env s j with
  | keep heq => exact .inl (heq ▸ hs)
  | answer heq =>
    rw [machine, heq] at hs
    exact .inl (PartialMap.remove_eq_some.1 hs).2
  | @receive p requestId request' heq hcall hacc =>
    rw [machine, heq] at hs
    rcases PartialMap.insert_eq_some.1 hs with ⟨rfl, rfl⟩ | ⟨-, hs⟩
    · refine .inr ⟨hcall, ?_⟩
      -- A request that is accepted ends in no error.
      cases request' with
      | getInfo params => rw [step, hcall]; rfl
      | buy req =>
        rw [step, hcall]
        rcases handleBuyRequest_cases env j.now s requestId p req with ⟨-, -, hok⟩ | ⟨hno, -⟩
        · exact hok
        · exact absurd hacc hno
    · exact .inl hs

/-- A short channel id is only given out, and a channel stored under it, in answer to a
    request to buy one. -/
theorem created_of_ok {p : PublicKey} {requestId : RequestId} {scid : Scid}
    {cltvExpiryDelta : UInt32} {clientTrustsLsp : Bool} {userChannelId : UserChannelId}
    (h : (s.invoiceParametersGenerated p requestId scid cltvExpiryDelta clientTrustsLsp
      userChannelId).2.result = .ok) :
    ∃ req, s.requests (p, requestId) = some (.buy req) ∧
      (s.invoiceParametersGenerated p requestId scid cltvExpiryDelta clientTrustsLsp
        userChannelId).1.channels (p, scid) =
          some (.new req.paymentSizeMsat req.openingFeeParams userChannelId) := by
  have hans := answerStep_invoiceParametersGenerated s p requestId scid cltvExpiryDelta
    clientTrustsLsp userChannelId
  have hch := channelsStep_invoiceParametersGenerated s p requestId scid cltvExpiryDelta
    clientTrustsLsp userChannelId
  cases hans with
  | notPending _ _ _ herr | otherKind _ _ herr => cases h.symm.trans herr
  | @answered request hreq hkind =>
    cases request with
    | getInfo => cases hkind
    | buy req =>
      have hcreated : s.created (.invoiceParametersGenerated p requestId scid cltvExpiryDelta
          clientTrustsLsp userChannelId) =
            some ((p, scid), .new req.paymentSizeMsat req.openingFeeParams userChannelId) := by
        simp only [created, hreq]
      refine ⟨req, hreq, ?_⟩
      cases hch with
      | keep _ _ hnone | operate _ _ _ hnone | remove _ _ _ hnone => cases hcreated.symm.trans hnone
      | create heq _ hc =>
        obtain ⟨rfl, rfl⟩ := Prod.mk.inj (Option.some.inj (hcreated.symm.trans hc))
        rw [heq, PartialMap.insert_self]

/-- **Requests are answered once.** In every run of the service, no more responses are sent
    under a request id than requests were received under it; each response answers a
    request of its kind from its peer; and each short channel id given out is for a request
    to buy a channel that was found valid, and has a channel stored for what it asks. -/
theorem requests_answered_once (env : Externals) (secret : List UInt8) (is : List ServiceInput) :
    (∀ key, ((responses env (.new secret) is).map Prod.fst).count key ≤
      ((received env (.new secret) is).map Prod.fst).count key) ∧
    (∀ b, (responses env (.new secret) is).count b ≤ (received env (.new secret) is).count b) ∧
    (∀ pre i post p requestId response, is = pre ++ i :: post →
      (p, .response requestId response) ∈
        (((machine env).exec (.new secret) pre).step env i).2.messages →
      ∃ j ∈ pre ++ [i], ∃ request, j.call = .handleMessage (.request requestId request) p ∧
        request.kind = response.kind) ∧
    (∀ pre i post p requestId scid cltvExpiryDelta clientTrustsLsp userChannelId,
      is = pre ++ i :: post →
      i.call = .invoiceParametersGenerated p requestId scid cltvExpiryDelta clientTrustsLsp
        userChannelId →
      (((machine env).exec (.new secret) pre).step env i).2.result = .ok →
      ∃ req pre₁ j pre₂, pre = pre₁ ++ j :: pre₂ ∧
        j.call = .handleMessage (.request requestId (.buy req)) p ∧
        (((machine env).exec (.new secret) pre₁).step env j).2.result = .ok ∧
        (((machine env).exec (.new secret) pre).step env i).1.channels (p, scid) =
          some (.new req.paymentSizeMsat req.openingFeeParams userChannelId)) := by
  refine ⟨Machine.count_map_le (count_responses_le env secret is) _, count_responses_le env secret is,
    ?_, ?_⟩
  · rintro pre i post p requestId response - hm
    -- The run up to the response has received a request like it, by the count.
    have hmem : ((p, requestId), response.kind) ∈ responses env (.new secret) (pre ++ [i]) := by
      rw [responses, Machine.gather_append, Machine.gather_cons]
      refine List.mem_append_right _ (List.mem_append_left _ ?_)
      exact List.mem_filterMap.2 ⟨_, hm, rfl⟩
    have hcount := count_responses_le env secret (pre ++ [i]) ((p, requestId), response.kind)
    have hrec := List.count_pos_iff.1 ((List.count_pos_iff.2 hmem).trans_le hcount)
    exact exists_of_mem_received hrec
  · rintro pre i post p requestId scid cltvExpiryDelta clientTrustsLsp userChannelId - hcall hok
    rw [step, hcall] at hok ⊢
    obtain ⟨req, hreq, hch⟩ := created_of_ok hok
    obtain ⟨pre₁, j, pre₂, rfl, hj, hjok⟩ := exists_of_requests hreq
    exact ⟨req, pre₁, j, pre₂, rfl, hj, hjok, hch⟩

end LSPS2ServiceHandler

end LightningLiquidity
