import LightningLiquidity.Lsps1.Service.Effects

/-!
# Answers of the LSPS1 service

Requests for the options are answered at once, those for orders are refused at once or kept until
they are answered. The status of an order, however, is sent whenever the LSP tells it, without a
look at the requests kept.

No request is thus answered twice iff the LSP does not tell the status of an order stored more
often than it was asked (`answeredOnce_iff`).
-/

namespace LightningLiquidity.Lsps1

/-- What a request asks for. -/
inductive RequestKind
  | getInfo
  | createOrder
  | getOrder
  deriving DecidableEq

/-- What a request asks for. -/
def LSPS1Request.kind : LSPS1Request → RequestKind
  | getInfo _ => .getInfo
  | createOrder _ => .createOrder
  | getOrder _ => .getOrder

/-- What a response answers. -/
def LSPS1Response.kind : LSPS1Response → RequestKind
  | getInfo _ | getInfoError _ => .getInfo
  | createOrder _ | createOrderError _ => .createOrder
  | getOrder _ | getOrderError _ => .getOrder

/-- The request a message makes, or answers. -/
abbrev RequestKey := (PublicKey × RequestId) × RequestKind

/-- The request received with a call. -/
def ServiceCall.asks : ServiceCall → List RequestKey
  | handleMessage (.request requestId request) p => [((p, requestId), request.kind)]
  | _ => []

/-- The request a message answers. -/
def answers? (m : PublicKey × LSPS1Message) : Option RequestKey :=
  match m.2 with
  | .response requestId response => some ((m.1, requestId), response.kind)
  | .request .. => none

/-- The requests a call answers. -/
def LSPS1ServiceOutput.answers (out : LSPS1ServiceOutput) : List RequestKey :=
  out.messages.filterMap answers?

namespace LSPS1ServiceHandler

variable {debug : Bool} {s : LSPS1ServiceHandler} {call : ServiceCall} {calls : List ServiceCall}
  {key : PublicKey × RequestId} {orders' : PartialMap (PublicKey × OrderId) OutboundCRChannel}
  {pending' : PartialMap (PublicKey × RequestId) LSPS1Request} {out : LSPS1ServiceOutput}

/-- The request named by a call that tells the status of an order stored. -/
def reports (s : LSPS1ServiceHandler) : ServiceCall → List (PublicKey × RequestId)
  | .updateOrderStatus requestId p orderId _ _ =>
    if (s.orders (p, orderId)).isSome then [(p, requestId)] else []
  | _ => []

/-- The requests received in a run. -/
def received (debug : Bool) (s : LSPS1ServiceHandler) (calls : List ServiceCall) :
    List RequestKey :=
  (machine debug).gather (fun _ call => call.asks) s calls

/-- The requests answered in a run. -/
def responses (debug : Bool) (s : LSPS1ServiceHandler) (calls : List ServiceCall) :
    List RequestKey :=
  (machine debug).gather (fun s call => (s.step debug call).2.answers) s calls

/-- The requests named in a run by calls that tell the status of an order stored. -/
def reported (debug : Bool) (s : LSPS1ServiceHandler) (calls : List ServiceCall) :
    List (PublicKey × RequestId) :=
  (machine debug).gather reports s calls

/-- No more responses are sent under a request id than requests were received under it, and the
    status of an order only while a request for it is not answered. -/
structure AnsweredOnce (debug : Bool) (s : LSPS1ServiceHandler) (calls : List ServiceCall) :
    Prop where
  once : ∀ key, ((responses debug s calls).map Prod.fst).count key ≤
    ((received debug s calls).map Prod.fst).count key
  unanswered : ∀ pre call post p requestId response, calls = pre ++ call :: post →
    (p, .response requestId (.getOrder response)) ∈
      (((machine debug).exec s pre).step debug call).2.messages →
    (responses debug s pre).count ((p, requestId), .getOrder) <
      (received debug s pre).count ((p, requestId), .getOrder)

/-- A call that tells the status of an order stored names a request for it that was received more
    often than it was named before. -/
def ReportsAsked (debug : Bool) (s : LSPS1ServiceHandler) (calls : List ServiceCall) : Prop :=
  ∀ pre call post key, calls = pre ++ call :: post →
    key ∈ ((machine debug).exec s pre).reports call →
    (reported debug s pre).count key < (received debug s pre).count (key, .getOrder)

/-! ## The status of an order -/

/-- The status of an order is sent by the calls that tell it. -/
theorem Effect.count_getOrder (h : s.Effect call orders' pending' out) :
    out.answers.count (key, .getOrder) = (s.reports call).count key := by
  cases h with
  | @update requestId p orderId orderState channel ch hch =>
    rw [reports, hch, Option.isSome_some, if_pos rfl, List.count_singleton]
    exact (List.count_singleton ..).trans (by simp [LSPS1Response.kind])
  | noUpdate hch => simp [reports, hch, LSPS1ServiceOutput.answers]
  | _ => simp [reports, LSPS1ServiceOutput.answers, answers?, LSPS1Response.kind]

theorem Effect.exists_getOrder (h : s.Effect call orders' pending' out)
    (hkey : key ∈ s.reports call) :
    ∃ response, (key.1, .response key.2 (.getOrder response)) ∈ out.messages := by
  cases h with
  | update hch =>
    rw [reports, hch, Option.isSome_some, if_pos rfl, List.mem_singleton] at hkey
    subst hkey
    exact ⟨_, List.mem_singleton_self _⟩
  | noUpdate hch => simp [reports, hch] at hkey
  | _ => cases hkey

theorem count_responses_getOrder (debug : Bool) (s : LSPS1ServiceHandler) (calls : List ServiceCall)
    (key : PublicKey × RequestId) :
    (responses debug s calls).count (key, .getOrder) = (reported debug s calls).count key := by
  induction calls generalizing s with
  | nil => rfl
  | cons call calls ih =>
    rw [responses, reported, Machine.gather_cons, Machine.gather_cons, List.count_append,
      List.count_append, (effect_step debug s call).count_getOrder]
    exact congrArg _ (ih _)

theorem count_reports_le (s : LSPS1ServiceHandler) (call : ServiceCall)
    (key : PublicKey × RequestId) : (s.reports call).count key ≤ 1 := by
  refine List.count_le_length.trans ?_
  cases call with
  | updateOrderStatus =>
    rw [reports]
    split
    · exact le_refl 1
    · exact Nat.zero_le 1
  | sendPaymentDetails | handleMessage => exact Nat.zero_le 1

/-- If each status told was asked for, no more are told than were asked for. -/
theorem ReportsAsked.count_le (h : ReportsAsked debug s calls) (key : PublicKey × RequestId) :
    (reported debug s calls).count key ≤ (received debug s calls).count (key, .getOrder) := by
  induction calls using List.reverseRecOn with
  | nil => exact le_refl 0
  | append_singleton pre call ih =>
    have hpre : ReportsAsked debug s pre := by
      rintro pre' call' post key rfl
      exact h pre' call' (post ++ [call]) key (by simp)
    have hle := ih hpre
    have hone := count_reports_le ((machine debug).exec s pre) call key
    rw [reported, received, Machine.gather_append, Machine.gather_append, List.count_append,
      List.count_append, Machine.gather_cons, Machine.gather_nil, List.append_nil]
    by_cases hkey : key ∈ ((machine debug).exec s pre).reports call
    · have hlt := h pre call [] key rfl hkey
      rw [reported, received] at hlt
      omega
    · rw [List.count_eq_zero_of_not_mem hkey]
      rw [reported, received] at hle
      omega

/-! ## Other answers -/

/-- Options are answered for at once. -/
theorem Effect.count_getInfo (h : s.Effect call orders' pending' out) :
    out.answers.count (key, .getInfo) ≤ call.asks.count (key, .getInfo) := by
  cases h with
  | info => exact le_refl _
  | _ => simp [LSPS1ServiceOutput.answers, answers?, LSPS1Response.kind]

/-- The requests for an order under a key that are kept. -/
def awaiting (pending : PartialMap (PublicKey × RequestId) LSPS1Request)
    (key : PublicKey × RequestId) : ℕ :=
  match pending key with
  | some (.createOrder _) => 1
  | _ => 0

theorem awaiting_insert_of_ne {pending : PartialMap (PublicKey × RequestId) LSPS1Request}
    {key' : PublicKey × RequestId} (h : key ≠ key') (request : LSPS1Request) :
    awaiting (pending.insert key' request) key = awaiting pending key := by
  rw [awaiting, PartialMap.insert_of_ne _ _ h, awaiting]

theorem awaiting_remove_of_ne {pending : PartialMap (PublicKey × RequestId) LSPS1Request}
    {key' : PublicKey × RequestId} (h : key ≠ key') :
    awaiting (pending.remove key') key = awaiting pending key := by
  rw [awaiting, PartialMap.remove_of_ne _ h, awaiting]

/-- A request for an order is refused at once, or kept until it is answered. -/
theorem Effect.count_createOrder (h : s.Effect call orders' pending' out) :
    out.answers.count (key, .createOrder) + awaiting pending' key ≤
      call.asks.count (key, .createOrder) + awaiting s.pending key := by
  cases h with
  | @accept requestId p =>
    by_cases hkey : key = (p, requestId)
    · subst hkey
      simp [awaiting, ServiceCall.asks, LSPS1Request.kind, LSPS1ServiceOutput.answers]
    · rw [awaiting_insert_of_ne hkey]
      exact Nat.add_le_add_right (Nat.zero_le _) _
  | mismatch => exact le_refl _
  | @check requestId p =>
    by_cases hkey : key = (p, requestId)
    · subst hkey
      simp [awaiting, LSPS1ServiceOutput.answers]
    · rw [awaiting_insert_of_ne hkey]
      exact Nat.add_le_add_right (Nat.zero_le _) _
  | @details requestId p _ _ _ _ params hreq =>
    by_cases hkey : key = (p, requestId)
    · subst hkey
      simp [awaiting, hreq, ServiceCall.asks, LSPS1ServiceOutput.answers, answers?,
        LSPS1Response.kind]
    · rw [awaiting_remove_of_ne hkey]
      simp [ServiceCall.asks, LSPS1ServiceOutput.answers, answers?, Ne.symm hkey]
  | @noDetails requestId p =>
    by_cases hkey : key = (p, requestId)
    · subst hkey
      simp [awaiting, LSPS1ServiceOutput.answers]
    · rw [awaiting_remove_of_ne hkey]
      exact Nat.add_le_add_right (Nat.zero_le _) _
  | _ => simp [ServiceCall.asks, LSPS1ServiceOutput.answers, answers?, LSPS1Response.kind]

/-- If each status told was asked for, no more requests of a kind are answered than received. -/
theorem ReportsAsked.count_responses_le {config : LSPS1ServiceConfig}
    (h : ReportsAsked debug (new config) calls) (b : RequestKey) :
    (responses debug (new config) calls).count b ≤ (received debug (new config) calls).count b := by
  obtain ⟨key, kind⟩ := b
  have hall := (machine debug).along_true (new config) calls
  cases kind with
  | getInfo =>
    exact hall.count_gather_add_le (fun _ => 0)
      fun s call _ => (effect_step debug s call).count_getInfo
  | createOrder =>
    have hle := hall.count_gather_add_le (fun s => awaiting s.pending key)
      fun s call _ => (effect_step debug s call).count_createOrder
    exact (Nat.le_add_right _ _).trans hle
  | getOrder =>
    rw [count_responses_getOrder]
    exact h.count_le key

/-- **Answers.** In every run of the service, no request is answered twice, and the status of an
    order only sent while a request for it is not answered, iff the LSP tells the status of
    orders stored only as often as it was asked before. -/
theorem answeredOnce_iff (debug : Bool) (config : LSPS1ServiceConfig) (calls : List ServiceCall) :
    AnsweredOnce debug (new config) calls ↔ ReportsAsked debug (new config) calls := by
  constructor
  · rintro ⟨-, h⟩ pre call post key hcalls hkey
    obtain ⟨response, hm⟩ := (effect_step debug _ call).exists_getOrder hkey
    rw [← count_responses_getOrder]
    exact h pre call post key.1 key.2 response hcalls hm
  · intro h
    refine ⟨Machine.count_map_le h.count_responses_le _, ?_⟩
    intro pre call post p requestId response hcalls hm
    rw [count_responses_getOrder]
    refine h pre call post (p, requestId) hcalls (List.count_pos_iff.1 ?_)
    rw [← (effect_step debug _ call).count_getOrder, List.count_pos_iff]
    exact List.mem_filterMap.2 ⟨_, hm, rfl⟩

/-- The calls of the examples: an order is placed, paid for and asked for once. -/
def sampleCalls : List ServiceCall :=
  [.handleMessage (.request ⟨"1"⟩ (.createOrder ⟨sampleOrder⟩)) ⟨1⟩,
    .sendPaymentDetails ⟨"1"⟩ ⟨1⟩ ⟨"o"⟩ (sampleResponse 1000).payment ⟨0, 0⟩ ⟨3600, 0⟩,
    .handleMessage (.request ⟨"2"⟩ (.getOrder ⟨⟨"o"⟩⟩)) ⟨1⟩]

/-- A status told again is sent as a second response to the request. -/
theorem not_answeredOnce :
    ¬∀ (debug : Bool) (config : LSPS1ServiceConfig) (calls : List ServiceCall),
      AnsweredOnce debug (new config) calls := by
  intro h
  have honce := (h false ⟨some sampleOptions, none⟩ (sampleCalls ++
    [.updateOrderStatus ⟨"2"⟩ ⟨1⟩ ⟨"o"⟩ .created none,
      .updateOrderStatus ⟨"2"⟩ ⟨1⟩ ⟨"o"⟩ .completed none])).once (⟨1⟩, ⟨"2"⟩)
  exact absurd honce (by decide)

end LSPS1ServiceHandler

end LightningLiquidity.Lsps1
