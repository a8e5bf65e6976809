import LightningLiquidity.Lsps1.Client.Effects
import LightningLiquidity.Lsps1.Service.Effects

/-!
# The limits of an order

The client and the service compare an order with the options announced by the same function,
`isValid`. It looks at the balances and at the expiry, but not at the size of the channel, for
which the options have limits, too (`OrderParams.Sized`).

* An order sent or accepted matches the options the channel, or the service, has
  (`placeOrder_iff`, `handleCreateOrderRequest_iff`); those of the channel are what its peer
  announced for it (`holdsOptions_exec`).
* Orders respect all limits iff those that match are of the right size (`limits_respected_iff`).
-/

namespace LightningLiquidity.Lsps1

/-! ## Limits -/

namespace OrderParams

/-- The size of the channel. -/
def channelSize (x : OrderParams) : ℕ := x.lspBalanceSat.toNat + x.clientBalanceSat.toNat

/-- The size of the channel lies within its limits. -/
def Sized (x : OrderParams) (o : OptionsSupported) : Prop :=
  o.minChannelBalanceSat.toNat ≤ x.channelSize ∧ x.channelSize ≤ o.maxChannelBalanceSat.toNat

/-- The order respects every limit. -/
structure Within (x : OrderParams) (o : OptionsSupported) : Prop where
  client : o.minInitialClientBalanceSat ≤ x.clientBalanceSat ∧
    x.clientBalanceSat ≤ o.maxInitialClientBalanceSat
  lsp : o.minInitialLspBalanceSat ≤ x.lspBalanceSat ∧ x.lspBalanceSat ≤ o.maxInitialLspBalanceSat
  expiry : 1 ≤ x.channelExpiryBlocks ∧ x.channelExpiryBlocks ≤ o.maxChannelExpiryBlocks
  size : x.Sized o

end OrderParams

theorem isValid_iff {x : OrderParams} {o : OptionsSupported} :
    isValid x o = true ↔
      (o.minInitialClientBalanceSat ≤ x.clientBalanceSat ∧
          x.clientBalanceSat ≤ o.maxInitialClientBalanceSat) ∧
        (o.minInitialLspBalanceSat ≤ x.lspBalanceSat ∧
          x.lspBalanceSat ≤ o.maxInitialLspBalanceSat) ∧
        1 ≤ x.channelExpiryBlocks ∧ x.channelExpiryBlocks ≤ o.maxChannelExpiryBlocks := by
  rw [isValid, Bool.and_eq_true, Bool.and_eq_true, checkRange_eq_true, checkRange_eq_true,
    checkRange_eq_true, and_assoc]
  simp only [UInt64.le_iff_toNat_le, UInt32.le_iff_toNat_le, UInt32.toNat_toUInt64]
  exact Iff.rfl

/-- An order that matches the options respects every limit iff it is of the right size. -/
theorem within_iff_of_isValid {x : OrderParams} {o : OptionsSupported} (h : isValid x o = true) :
    x.Within o ↔ x.Sized o := by
  obtain ⟨hclient, hlsp, hexpiry⟩ := isValid_iff.1 h
  exact ⟨OrderParams.Within.size, fun hsize => ⟨hclient, hlsp, hexpiry, hsize⟩⟩

/-! ## Orders of the client -/

namespace LSPS1ClientHandler

open InboundRequestState

/-- The client has the options of a peer for a channel. -/
def HoldsOptions (s : LSPS1ClientHandler) (p : PublicKey) (u : UserChannelId)
    (o : OptionsSupported) : Prop :=
  ∃ ch, s.channels (p, u) = some ch ∧ ch.state = optionsSupport o

/-- A call gives the client the options of a peer, asked for a channel. -/
def Announces (s : LSPS1ClientHandler) (call : ClientCall) (p : PublicKey) (u : UserChannelId)
    (o : OptionsSupported) : Prop :=
  ∃ requestId website, call = .handleMessage (.response requestId (.getInfo ⟨website, o⟩)) p ∧
    s.requests (p, requestId) = some u

variable {debug : Bool} {s : LSPS1ClientHandler} {p : PublicKey} {u : UserChannelId}
  {o : OptionsSupported} {x : OrderParams}

/-- Options the client has after a call it had before, or they are what the call is about. -/
theorem Effect.holdsOptions {call : ClientCall}
    {channels' : PartialMap (PublicKey × UserChannelId) InboundCRChannel}
    {requests' : PartialMap (PublicKey × RequestId) UserChannelId} {out : LSPS1ClientOutput}
    (h : s.Effect debug call channels' requests' out) {ch : InboundCRChannel}
    (hch : channels' (p, u) = some ch) (hst : ch.state = optionsSupport o) :
    s.HoldsOptions p u o ∨ s.Announces call p u o := by
  -- A channel that a call stores in another state is not the one with the options.
  have hkeep {k : PublicKey × UserChannelId} {ch' : InboundCRChannel}
      (hne : ch'.state ≠ optionsSupport o) (h : s.channels.insert k ch' (p, u) = some ch) :
      s.HoldsOptions p u o := by
    rcases PartialMap.insert_eq_some.1 h with ⟨-, rfl⟩ | ⟨-, h⟩
    · exact absurd hst hne
    · exact ⟨ch, h, hst⟩
  cases h with
  | askInfo | order | poll | display | overflow =>
    exact .inl (hkeep InboundRequestState.noConfusion hch)
  | refuseOrder | refusePoll | tooHigh | reject =>
    exact .inl ⟨ch, (PartialMap.remove_eq_some.1 hch).2, hst⟩
  | noChannelToOrder | noChannelToPoll | acknowledge | unknownChannel | unknown | request =>
    exact .inl ⟨ch, hch, hst⟩
  | @info requestId _ _ result _ hreq =>
    rcases PartialMap.insert_eq_some.1 hch with ⟨heq, rfl⟩ | ⟨-, h⟩
    · obtain ⟨rfl, rfl⟩ := Prod.mk.inj heq
      obtain rfl := optionsSupport.inj hst
      exact .inr ⟨requestId, result.website, rfl, hreq⟩
    · exact .inl ⟨ch, h, hst⟩

/-- Options the client has were announced by the peer, for the channel. -/
theorem holdsOptions_exec {config : LSPS1ClientConfig} {calls : List ClientCall}
    (h : HoldsOptions ((machine debug).exec (new config) calls) p u o) :
    ∃ pre call post, calls = pre ++ call :: post ∧
      Announces ((machine debug).exec (new config) pre) call p u o := by
  refine (Machine.exists_of_exec (P := fun s => HoldsOptions s p u o)
    (fun s call ⟨_, hch, hst⟩ => (effect_step debug s call).holdsOptions hch hst) h).resolve_left ?_
  rintro ⟨ch, hch, -⟩
  cases hch

theorem Effect.sends_iff {requestId : RequestId}
    {channels' : PartialMap (PublicKey × UserChannelId) InboundCRChannel}
    {requests' : PartialMap (PublicKey × RequestId) UserChannelId} {out : LSPS1ClientOutput}
    (h : s.Effect debug (.placeOrder requestId u p x) channels' requests' out)
    (hoptions : s.HoldsOptions p u o) :
    (p, .request requestId (.createOrder { order := x })) ∈ out.messages ↔ isValid x o = true := by
  obtain ⟨ch, hch, hst⟩ := hoptions
  cases h with
  | order hch' hst' hvalid =>
    obtain rfl := Option.some.inj (hch.symm.trans hch')
    obtain rfl := optionsSupport.inj (hst.symm.trans hst')
    exact iff_of_true (List.mem_singleton_self _) hvalid
  | refuseOrder hch' hinvalid =>
    obtain rfl := Option.some.inj (hch.symm.trans hch')
    exact iff_of_false List.not_mem_nil (Bool.eq_false_iff.1 (hinvalid o hst))
  | noChannelToOrder hch' => cases hch.symm.trans hch'

/-- An order is sent iff it matches the options of the channel. -/
theorem placeOrder_iff (h : s.HoldsOptions p u o) (requestId : RequestId) :
    (p, .request requestId (.createOrder { order := x })) ∈
        (s.placeOrder requestId u p x).2.messages ↔ isValid x o = true :=
  (effect_placeOrder false s requestId u p x).sends_iff h

/-- A client can have any options, for any channel of any peer. -/
theorem exists_holdsOptions (debug : Bool) (p : PublicKey) (u : UserChannelId)
    (o : OptionsSupported) :
    HoldsOptions ((machine debug).exec (new ⟨none⟩) [.sendGetInfoRequest ⟨"1"⟩ p u,
      .handleMessage (.response ⟨"1"⟩ (.getInfo ⟨"", o⟩)) p]) p u o := by
  refine ⟨{ userChannelId := u, state := optionsSupport o }, ?_, rfl⟩
  simp [channels_apply, peer, machine, step, new, sendGetInfoRequest, handleMessage,
    handleGetInfoResponse, withRequest, setPeer, PeerState.insertInboundChannel,
    PeerState.insertRequest, PeerState.removeRequest, infoReceived, InboundCRChannel.new]

end LSPS1ClientHandler

/-! ## Orders accepted by the service -/

/-- An order is accepted iff it matches the options of the service. -/
theorem LSPS1ServiceHandler.handleCreateOrderRequest_iff {s : LSPS1ServiceHandler}
    {o : OptionsSupported} (h : s.config.optionsSupported = some o) (requestId : RequestId)
    (p : PublicKey) (x : OrderParams) :
    (s.handleCreateOrderRequest requestId p { order := x }).2.result = .ok ↔ isValid x o = true := by
  rw [handleCreateOrderRequest, h]
  cases hvalid : isValid x o <;> simp [hvalid]

/-! ## Limits are respected -/

/-- The client sends an order only if it respects the limits announced for the channel. -/
def SendsWithin (o : OptionsSupported) (x : OrderParams) : Prop :=
  ∀ debug config calls requestId p u,
    let s := (LSPS1ClientHandler.machine debug).exec (.new config) calls
    s.HoldsOptions p u o →
    (p, .request requestId (.createOrder { order := x })) ∈
      (s.placeOrder requestId u p x).2.messages → x.Within o

/-- A service accepts an order only if it respects its limits. -/
def AcceptsWithin (o : OptionsSupported) (x : OrderParams) : Prop :=
  ∀ (s : LSPS1ServiceHandler) requestId p, s.config.optionsSupported = some o →
    (s.handleCreateOrderRequest requestId p { order := x }).2.result = .ok → x.Within o

theorem sendsWithin_iff {o : OptionsSupported} {x : OrderParams} :
    SendsWithin o x ↔ (isValid x o = true → x.Sized o) := by
  constructor
  · intro h hvalid
    have hoptions := LSPS1ClientHandler.exists_holdsOptions false ⟨0⟩ 0 o
    exact (h false ⟨none⟩ _ ⟨"2"⟩ ⟨0⟩ 0 hoptions
      ((LSPS1ClientHandler.placeOrder_iff hoptions _).2 hvalid)).size
  · intro h debug config calls requestId p u s hoptions hsent
    have hvalid := (LSPS1ClientHandler.placeOrder_iff hoptions requestId).1 hsent
    exact (within_iff_of_isValid hvalid).2 (h hvalid)

theorem acceptsWithin_iff {o : OptionsSupported} {x : OrderParams} :
    AcceptsWithin o x ↔ (isValid x o = true → x.Sized o) := by
  constructor
  · intro h hvalid
    exact (h (.new ⟨some o, none⟩) ⟨"1"⟩ ⟨0⟩ rfl
      ((LSPS1ServiceHandler.handleCreateOrderRequest_iff rfl _ _ x).2 hvalid)).size
  · intro h s requestId p hoptions haccepted
    have hvalid := (LSPS1ServiceHandler.handleCreateOrderRequest_iff hoptions _ _ x).1 haccepted
    exact (within_iff_of_isValid hvalid).2 (h hvalid)

/-- **The limits of an order.** Orders sent by a client or accepted by a service respect every
    limit iff those that match the options have a channel of the right size. -/
theorem limits_respected_iff (o : OptionsSupported) (x : OrderParams) :
    (SendsWithin o x ∧ AcceptsWithin o x) ↔ (isValid x o = true → x.Sized o) := by
  rw [sendsWithin_iff, acceptsWithin_iff, and_self]

/-- A channel without any balance is ordered, and accepted, although the smallest one offered has
    100000 sat. -/
theorem not_limits_respected :
    ¬∀ (o : OptionsSupported) (x : OrderParams), SendsWithin o x ∧ AcceptsWithin o x := by
  intro h
  have hwithin := (h sampleOptions { sampleOrder with lspBalanceSat := 0 }).2
    (.new ⟨some sampleOptions, none⟩) ⟨"1"⟩ ⟨0⟩ rfl (by decide)
  exact absurd hwithin.size.1 (by decide)

end LightningLiquidity.Lsps1
