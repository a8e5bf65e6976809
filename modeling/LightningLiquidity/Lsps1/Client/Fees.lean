import LightningLiquidity.Lsps1.Client.Effects

/-!
# The fees of an order

The client has a limit for the fees of a channel, in millisatoshi. A response to an order is
checked in satoshi (`ChecksFees`): what is compared with the limit is the sum of the fee and of
the balance of the client, and the sum may overflow.

The limit is respected in a run iff no response checked overflows, or has a fee above the limit
while the sum, taken for millisatoshi, is below it (`feesCapped_iff`).
-/

namespace LightningLiquidity.Lsps1

/-- An order shown to the user has a fee of at most `m`, and costs what it is made of. -/
def LSPS1ClientEvent.Capped (m : UInt64) : LSPS1ClientEvent → Prop
  | displayOrder _ _ order payment _ =>
    payment.feeTotalSat.toNat * 1000 ≤ m.toNat ∧
      payment.orderTotalSat.toNat = payment.feeTotalSat.toNat + order.clientBalanceSat.toNat
  | getInfoResponse .. => True

namespace LSPS1ClientHandler

/-- The fees of a response are checked: it answers a request for a channel that awaits the order. -/
def ChecksFees (s : LSPS1ClientHandler) (p : PublicKey) (requestId : RequestId)
    (result : CreateOrderResponse) : Prop :=
  ∃ u ch, s.requests (p, requestId) = some u ∧ s.channels (p, u) = some ch ∧
    ch.state = .orderRequested result.order

/-- A call respects the limit `m`: orders shown do, no sum checked overflows, and no response
    panics. -/
structure FeesCapped (s : LSPS1ClientHandler) (m : UInt64) (call : ClientCall)
    (out : LSPS1ClientOutput) : Prop where
  events : ∀ e ∈ out.events, e.Capped m
  fits : ∀ p requestId result, call = .handleMessage (.response requestId (.createOrder result)) p →
    s.ChecksFees p requestId result → exactFees result < 2 ^ 64
  noPanic : ∀ p requestId response, call = .handleMessage (.response requestId response) p →
    out.result ≠ .panic

/-- A response to an order that is checked has a sum that does not overflow, and none that, as
    millisatoshi, is below the limit `m` that the fee exceeds. -/
def FairFees (s : LSPS1ClientHandler) (m : UInt64) (call : ClientCall) : Prop :=
  ∀ p requestId result, call = .handleMessage (.response requestId (.createOrder result)) p →
    s.ChecksFees p requestId result →
    exactFees result < 2 ^ 64 ∧
      ¬(result.payment.orderTotalSat.toNat = exactFees result ∧ exactFees result < m.toNat ∧
        m.toNat < result.payment.feeTotalSat.toNat * 1000)

variable {debug : Bool} {s : LSPS1ClientHandler} {m : UInt64} {call : ClientCall}
  {channels' : PartialMap (PublicKey × UserChannelId) InboundCRChannel}
  {requests' : PartialMap (PublicKey × RequestId) UserChannelId} {out : LSPS1ClientOutput}
  {p : PublicKey} {requestId : RequestId} {result : CreateOrderResponse}

theorem toNat_totalFees (h : exactFees result < 2 ^ 64) :
    (totalFees result).toNat = exactFees result := by
  rw [totalFees, UInt64.toNat_add]
  exact Nat.mod_eq_of_lt h

theorem totalFees_eq_iff (h : exactFees result < 2 ^ 64) :
    totalFees result = result.payment.orderTotalSat ↔
      result.payment.orderTotalSat.toNat = exactFees result := by
  rw [← UInt64.toNat_inj, toNat_totalFees h, eq_comm]

theorem totalFees_lt_iff (h : exactFees result < 2 ^ 64) :
    totalFees result < m ↔ exactFees result < m.toNat := by
  rw [UInt64.lt_iff_toNat_lt, toNat_totalFees h]

/-- An order is shown only for a response that is checked, and passes. -/
theorem Effect.checks_of_display (h : s.Effect debug call channels' requests' out)
    {u : UserChannelId} {order : OrderParams} {payment : OrderPayment} {channel : Option ChannelInfo}
    (he : .displayOrder u p order payment channel ∈ out.events) :
    ∃ requestId result, call = .handleMessage (.response requestId (.createOrder result)) p ∧
      s.ChecksFees p requestId result ∧ result.order = order ∧ result.payment = payment ∧
      totalFees result = payment.orderTotalSat ∧ totalFees result < s.maxFees := by
  cases h with
  | display hreq hch hst hfits htotal hlt =>
    cases List.mem_singleton.1 he
    exact ⟨_, _, rfl, ⟨_, _, hreq, hch, hst⟩, rfl, rfl, htotal, hlt⟩
  | info => cases List.mem_singleton.1 he
  | _ => cases he

/-- A response panics only if it is checked, and its sum overflows. -/
theorem Effect.overflow_of_panic {response : LSPS1Response}
    (h : s.Effect debug (.handleMessage (.response requestId response) p) channels' requests' out)
    (hout : out.result = .panic) :
    ∃ result, response = .createOrder result ∧ s.ChecksFees p requestId result ∧
      2 ^ 64 ≤ exactFees result := by
  cases h with
  | overflow hreq hch hst _ hover => exact ⟨_, rfl, ⟨_, _, hreq, hch, hst⟩, hover⟩
  | _ => cases hout

/-- A response that is checked, and passes, is shown. -/
theorem Effect.display_of_checks
    (h : s.Effect debug (.handleMessage (.response requestId (.createOrder result)) p) channels'
      requests' out)
    (hchecks : s.ChecksFees p requestId result) (hfits : exactFees result < 2 ^ 64)
    (htotal : totalFees result = result.payment.orderTotalSat)
    (hlt : totalFees result < s.maxFees) :
    ∃ u, .displayOrder u p result.order result.payment result.channel ∈ out.events := by
  obtain ⟨u, ch, hreq, hch, hst⟩ := hchecks
  cases h with
  | display => exact ⟨_, List.mem_singleton_self _⟩
  | overflow _ _ _ _ hover => exact absurd hover (Nat.not_le.2 hfits)
  | tooHigh _ _ _ _ h => exact absurd ⟨htotal, hlt⟩ h
  | reject hreq' hch' hst' =>
    obtain rfl := Option.some.inj (hreq.symm.trans hreq')
    obtain rfl := Option.some.inj (hch.symm.trans hch')
    rcases hst' with ⟨_, ⟨⟩, -⟩ | ⟨_, ⟨⟩, hne⟩
    exact absurd hst hne
  | acknowledge _ _ _ horder => exact absurd rfl (horder result)
  | unknownChannel hreq' hch' =>
    obtain rfl := Option.some.inj (hreq.symm.trans hreq')
    cases hch.symm.trans hch'
  | unknown hreq' => cases hreq.symm.trans hreq'

/-- A call respects the limit iff the response, if it is one that is checked, is fair. -/
theorem Effect.capped_iff (h : s.Effect debug call channels' requests' out)
    (hm : s.maxFees = m) : s.FeesCapped m call out ↔ s.FairFees m call := by
  constructor
  · rintro ⟨hevents, hfits, -⟩ p requestId result rfl hchecks
    have hsum := hfits p requestId result rfl hchecks
    refine ⟨hsum, fun ⟨htotal, hlt, hfee⟩ => ?_⟩
    obtain ⟨u, he⟩ := h.display_of_checks hchecks hsum ((totalFees_eq_iff hsum).2 htotal)
      (hm ▸ (totalFees_lt_iff hsum).2 hlt)
    exact Nat.not_le.2 hfee (hevents _ he).1
  · intro hfair
    refine ⟨fun e he => ?_, fun p requestId result hcall hchecks => ?_, ?_⟩
    · cases e with
      | getInfoResponse => trivial
      | displayOrder =>
        obtain ⟨requestId, result, rfl, hchecks, rfl, rfl, htotal, hlt⟩ := h.checks_of_display he
        obtain ⟨hsum, hno⟩ := hfair _ _ _ rfl hchecks
        replace htotal := (totalFees_eq_iff hsum).1 htotal
        replace hlt := (totalFees_lt_iff hsum).1 (hm ▸ hlt)
        exact ⟨Nat.not_lt.1 fun hfee => hno ⟨htotal, hlt, hfee⟩, htotal⟩
    · exact (hfair p requestId result hcall hchecks).1
    · rintro p requestId response rfl hpanic
      obtain ⟨result, rfl, hchecks, hover⟩ := h.overflow_of_panic hpanic
      exact Nat.not_lt.2 hover (hfair p requestId result rfl hchecks).1

/-- **The limit of the fees.** In every run of a client with a limit, every call respects it iff
    no response that is checked has a sum that overflows, or a fee above the limit with a sum
    that, as millisatoshi, is below it. -/
theorem feesCapped_iff (debug : Bool) (m : UInt64) (calls : List ClientCall) :
    (machine debug).Along (fun s call => s.FeesCapped m call (s.step debug call).2) (new ⟨some m⟩)
        calls ↔
      (machine debug).Along (fun s call => s.FairFees m call) (new ⟨some m⟩) calls := by
  rw [Machine.along_iff_forall, Machine.along_iff_forall]
  refine forall₄_congr fun pre call post _ => (effect_step debug _ call).capped_iff ?_
  rw [maxFees, config_exec]
  rfl

/-- The order of the examples is placed, and confirmed for a fee. -/
def sampleCalls (fee : UInt64) : List ClientCall :=
  [.sendGetInfoRequest ⟨"1"⟩ ⟨1⟩ 0,
    .handleMessage (.response ⟨"1"⟩ (.getInfo ⟨"lsp", sampleOptions⟩)) ⟨1⟩,
    .placeOrder ⟨"2"⟩ 0 ⟨1⟩ sampleOrder,
    .handleMessage (.response ⟨"2"⟩ (.createOrder (sampleResponse fee))) ⟨1⟩]

/-- With a limit of 10000 msat, the user is shown an order with a fee of 5000 sat. -/
theorem not_feesCapped :
    ¬∀ (debug : Bool) (m : UInt64) (calls : List ClientCall),
      (machine debug).Along (fun s call => s.FeesCapped m call (s.step debug call).2)
        (new ⟨some m⟩) calls := by
  intro h
  have hcapped := (h false 10000 (sampleCalls 5000)).2.2.2.1
  have hevent := hcapped.events (.displayOrder 0 ⟨1⟩ sampleOrder (sampleResponse 5000).payment none)
    (by decide)
  exact absurd hevent.1 (by decide)

end LSPS1ClientHandler

end LightningLiquidity.Lsps1
