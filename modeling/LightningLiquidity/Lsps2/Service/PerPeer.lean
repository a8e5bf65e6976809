import LightningLiquidity.Lib.Components
import LightningLiquidity.Lsps2.Service.Indices
import LightningLiquidity.Lsps2.Service.Runs

/-!
# The service, peer by peer

Where each short channel id is given out to one peer only, and each channel id is
reported for one peer only (`Owners`), every call to the service is for one peer, or
none (`ServiceCall.peerBy`): it reads and changes what the service keeps of this peer
(`LSPS2ServiceHandler.only`), and nothing else. So the service is made of services of
one peer each (`componentwise`).

* `alone_exec`: the calls for a peer do and give the same as if there were no other
  peers.
* `interleaved_exec`: calls for different peers may be made in any order.

Both are about runs whose calls return: a lock of one peer that a panic leaves poisoned may
be found by a call for another.
-/

namespace LightningLiquidity

/-- The peers that short channel ids and channel ids belong to. -/
structure Owners where
  scid : Scid → PublicKey
  channel : ChannelId → PublicKey

namespace ServiceCall

/-- The peer a call is for. -/
def peerBy (o : Owners) : ServiceCall → Option PublicKey
  | invalidTokenProvided p .. | openingFeeParamsGenerated p .. | invoiceParametersGenerated p .. =>
    some p
  | htlcIntercepted scid .. => some (o.scid scid)
  | htlcHandlingFailed (.nextHopChannel _ c) | paymentForwarded c => some (o.channel c)
  | htlcHandlingFailed .other => none
  | channelReady _ _ p | handleMessage _ p => some p

/-- A call gives out short channel ids, and reports channel ids, to the peers they belong to. -/
def Owned (o : Owners) : ServiceCall → Prop
  | invoiceParametersGenerated p _ scid .. => o.scid scid = p
  | channelReady _ c p => o.channel c = p
  | _ => True

end ServiceCall

namespace LSPS2ServiceHandler

variable {o : Owners} {s : LSPS2ServiceHandler} {p q : PublicKey}

/-- Short channel ids and channel ids lead to the peers they belong to. -/
structure OwnedBy (o : Owners) (s : LSPS2ServiceHandler) : Prop where
  scids : ∀ scid p, s.peerByInterceptScid scid = some p → o.scid scid = p
  channels : ∀ c p, s.peerByChannelId c = some p → o.channel c = p

/-- What the service keeps of one peer. -/
noncomputable def only (o : Owners) (p : PublicKey) (s : LSPS2ServiceHandler) :
    LSPS2ServiceHandler :=
  { s with
    perPeerState := s.perPeerState.off {q | q ≠ p}
    peerByInterceptScid := s.peerByInterceptScid.off {scid | o.scid scid ≠ p}
    peerByChannelId := s.peerByChannelId.off {c | o.channel c ≠ p} }

theorem perPeerState_only : (s.only o p).perPeerState p = s.perPeerState p :=
  PartialMap.off_apply (by simp)

theorem peerByInterceptScid_only {scid : Scid} (h : o.scid scid = p) :
    (s.only o p).peerByInterceptScid scid = s.peerByInterceptScid scid :=
  PartialMap.off_apply (by simpa using h)

theorem peerByChannelId_only {c : ChannelId} (h : o.channel c = p) :
    (s.only o p).peerByChannelId c = s.peerByChannelId c :=
  PartialMap.off_apply (by simpa using h)

/-- A service is what it keeps of each peer. -/
theorem eq_of_only {t : LSPS2ServiceHandler} (hsecret : s.promiseSecret = t.promiseSecret)
    (h : ∀ p, s.only o p = t.only o p) : s = t := by
  have hpeers : s.perPeerState = t.perPeerState := by
    funext p
    rw [← perPeerState_only (o := o), h p, perPeerState_only]
  -- An entry is read off what is kept of the peer the short channel id belongs to.
  have hscids : s.peerByInterceptScid = t.peerByInterceptScid := by
    funext scid
    rw [← peerByInterceptScid_only (o := o) rfl, h (o.scid scid), peerByInterceptScid_only rfl]
  have hchannels : s.peerByChannelId = t.peerByChannelId := by
    funext c
    rw [← peerByChannelId_only (o := o) rfl, h (o.channel c), peerByChannelId_only rfl]
  cases s
  cases t
  subst hsecret hpeers hscids hchannels
  rfl

/-! ## Calls for the peer -/

theorem promiseSecret_only : (s.only o p).promiseSecret = s.promiseSecret := rfl

theorem setPeer_only (ps : PeerState) : (s.setPeer p ps).only o p = (s.only o p).setPeer p ps :=
  congrArg (fun m => { s.only o p with perPeerState := m }) (PartialMap.off_insert (by simp) ps)

/-- A channel id of the peer is reported. -/
theorem register_only {c : ChannelId} (h : o.channel c = p) :
    { s.only o p with peerByChannelId := (s.only o p).peerByChannelId.insert c p } =
      ({ s with peerByChannelId := s.peerByChannelId.insert c p }).only o p :=
  congrArg (fun m => { s.only o p with peerByChannelId := m })
    (PartialMap.off_insert (by simpa using h) p).symm

/-- A short channel id is given out to the peer. -/
theorem giveOut_only {scid : Scid} (h : o.scid scid = p) :
    { s.only o p with peerByInterceptScid := (s.only o p).peerByInterceptScid.insert scid p } =
      ({ s with peerByInterceptScid := s.peerByInterceptScid.insert scid p }).only o p :=
  congrArg (fun m => { s.only o p with peerByInterceptScid := m })
    (PartialMap.off_insert (by simpa using h) p).symm

theorem keepRequest_only (requestId : RequestId) (request : LSPS2Request) :
    (s.only o p).keepRequest p requestId request = (s.keepRequest p requestId request).only o p := by
  simp only [keepRequest, perPeerState_only, setPeer_only]

theorem handleMessage_only (env : Externals) (now : UInt64) (message : LSPS2Message) :
    (s.only o p).handleMessage env now message p =
      ((s.handleMessage env now message p).1.only o p, (s.handleMessage env now message p).2) := by
  obtain ⟨requestId, params | params⟩ | _ := message
  · exact congrArg (·, _) (keepRequest_only requestId _)
  · -- Of the service, the checks of a `buy` request read the promise secret only.
    simp only [handleMessage, handleBuyRequest, keepRequest_only, promiseSecret_only]
    repeat' split
    all_goals rfl
  · rfl

/-- A call for a peer does the same to what is kept of it, and gives the same. -/
theorem step_only (env : Externals) {i : ServiceInput} (hs : s.OwnedBy o) (hi : i.call.Owned o)
    (h : i.call.peerBy o = some p) :
    (s.only o p).step env i = ((s.step env i).1.only o p, (s.step env i).2) := by
  obtain ⟨call, cm, now⟩ := i
  cases call with
  -- The peer is named by the call, here and where a channel is sold, or gets ready.
  | invalidTokenProvided q requestId | openingFeeParamsGenerated q requestId menu =>
    obtain rfl := Option.some.inj h
    simp only [step, invalidTokenProvided, openingFeeParamsGenerated, respondGetInfo,
      perPeerState_only, promiseSecret_only]
    repeat' split
    all_goals first | rfl | rw [setPeer_only]
  | invoiceParametersGenerated q requestId scid =>
    obtain rfl := Option.some.inj h
    have hscid : o.scid scid = q := hi
    simp only [step, invoiceParametersGenerated, perPeerState_only, giveOut_only hscid]
    repeat' split
    all_goals first | rfl | rw [setPeer_only]
  | htlcIntercepted scid =>
    have hscid : o.scid scid = p := Option.some.inj h
    simp only [step, htlcIntercepted, peerByInterceptScid_only hscid]
    -- The peer is looked up, and is the one the short channel id belongs to.
    cases hq : s.peerByInterceptScid scid with
    | none => rfl
    | some q =>
      obtain rfl : p = q := hscid.symm.trans (hs.scids scid q hq)
      simp only [perPeerState_only]
      repeat' split
      all_goals first | rfl | rw [setPeer_only]
  | htlcHandlingFailed destination =>
    obtain ⟨node, c⟩ | _ := destination
    · have hc : o.channel c = p := Option.some.inj h
      simp only [step, htlcHandlingFailed, peerByChannelId_only hc]
      cases hq : s.peerByChannelId c with
      | none => rfl
      | some q =>
        obtain rfl : p = q := hc.symm.trans (hs.channels c q hq)
        simp only [perPeerState_only]
        repeat' split
        all_goals first | rfl | rw [setPeer_only]
    · cases h
  | paymentForwarded c =>
    have hc : o.channel c = p := Option.some.inj h
    simp only [step, paymentForwarded, peerByChannelId_only hc]
    cases hq : s.peerByChannelId c with
    | none => rfl
    | some q =>
      obtain rfl : p = q := hc.symm.trans (hs.channels c q hq)
      simp only [perPeerState_only]
      repeat' split
      all_goals first | rfl | rw [setPeer_only]
  | channelReady userChannelId c q =>
    obtain rfl := Option.some.inj h
    have hc : o.channel c = q := hi
    simp only [step, channelReady, register_only hc, perPeerState_only]
    repeat' split
    all_goals first | rfl | rw [setPeer_only]
  | handleMessage message q =>
    obtain rfl := Option.some.inj h
    exact handleMessage_only ..

/-! ## Calls for others -/

theorem setPeer_only_of_ne (h : q ≠ p) (ps : PeerState) :
    (s.setPeer q ps).only o p = s.only o p :=
  congrArg (fun m => { s.only o p with perPeerState := m }) (PartialMap.off_insert_of_mem h ps)

/-- A call that is not for the peer leaves what is kept of it. -/
theorem only_step (env : Externals) {i : ServiceInput} (hs : s.OwnedBy o) (hi : i.call.Owned o)
    (h : i.call.peerBy o ≠ some p) : (s.step env i).1.only o p = s.only o p := by
  obtain ⟨call, cm, now⟩ := i
  cases call with
  | invalidTokenProvided q requestId | openingFeeParamsGenerated q requestId menu =>
    have hq : q ≠ p := fun heq => h (congrArg some heq)
    simp only [step, invalidTokenProvided, openingFeeParamsGenerated, respondGetInfo]
    repeat' split
    all_goals first | rfl | exact setPeer_only_of_ne hq _
  | invoiceParametersGenerated q requestId scid =>
    have hq : q ≠ p := fun heq => h (congrArg some heq)
    have hscid : o.scid scid ≠ p := fun heq => hq (Eq.trans (Eq.symm hi) heq)
    -- The short channel id that is given out belongs to the other peer, too.
    have hgive : ({ s with peerByInterceptScid := s.peerByInterceptScid.insert scid q }).only o p =
        s.only o p :=
      congrArg (fun m => { s.only o p with peerByInterceptScid := m })
        (PartialMap.off_insert_of_mem hscid q)
    simp only [step, invoiceParametersGenerated]
    repeat' split
    all_goals first
      | rfl
      | exact setPeer_only_of_ne hq _
      | exact (setPeer_only_of_ne hq _).trans hgive
  | htlcIntercepted scid =>
    have hscid : o.scid scid ≠ p := fun heq => h (congrArg some heq)
    simp only [step, htlcIntercepted]
    cases hq : s.peerByInterceptScid scid with
    | none => rfl
    | some q =>
      have hq : q ≠ p := hs.scids scid q hq ▸ hscid
      dsimp only
      repeat' split
      all_goals first | rfl | exact setPeer_only_of_ne hq _
  | htlcHandlingFailed destination =>
    obtain ⟨node, c⟩ | _ := destination
    · have hc : o.channel c ≠ p := fun heq => h (congrArg some heq)
      simp only [step, htlcHandlingFailed]
      cases hq : s.peerByChannelId c with
      | none => rfl
      | some q =>
        have hq : q ≠ p := hs.channels c q hq ▸ hc
        dsimp only
        repeat' split
        all_goals first | rfl | exact setPeer_only_of_ne hq _
    · rfl
  | paymentForwarded c =>
    have hc : o.channel c ≠ p := fun heq => h (congrArg some heq)
    simp only [step, paymentForwarded]
    cases hq : s.peerByChannelId c with
    | none => rfl
    | some q =>
      have hq : q ≠ p := hs.channels c q hq ▸ hc
      dsimp only
      repeat' split
      all_goals first | rfl | exact setPeer_only_of_ne hq _
  | channelReady userChannelId c q =>
    have hq : q ≠ p := fun heq => h (congrArg some heq)
    have hc : o.channel c ≠ p := fun heq => hq (Eq.trans (Eq.symm hi) heq)
    -- The channel id is registered whatever becomes of the call, for the other peer.
    have hregister : ({ s with peerByChannelId := s.peerByChannelId.insert c q }).only o p =
        s.only o p :=
      congrArg (fun m => { s.only o p with peerByChannelId := m })
        (PartialMap.off_insert_of_mem hc q)
    simp only [step, channelReady]
    repeat' split
    all_goals first
      | exact hregister
      | exact (setPeer_only_of_ne hq _).trans hregister
  | handleMessage message q =>
    have hq : q ≠ p := fun heq => h (congrArg some heq)
    -- A message at most replaces the state of its sender.
    exact handleMessage_frame (f := only o p) (fun _ _ => setPeer_only_of_ne hq _) ..

/-! ## Runs -/

/-- What is given out and reported stays with its owners. -/
theorem OwnedBy.step (hs : s.OwnedBy o) (env : Externals) {i : ServiceInput}
    (hi : i.call.Owned o) : (s.step env i).1.OwnedBy o where
  scids scid p hp := by
    rw [peerByInterceptScid_step] at hp
    rcases PartialMap.eq_some_of_elim_insert hp with hp | ⟨e, hcreated, rfl, rfl⟩
    · exact hs.scids scid p hp
    · generalize i.call = call at hi hcreated
      cases call with
      | invoiceParametersGenerated =>
        simp only [created] at hcreated
        split at hcreated
        · obtain rfl := Option.some.inj hcreated
          exact hi
        · cases hcreated
      | _ => cases hcreated
  channels c p hp := by
    rw [peerByChannelId_step] at hp
    rcases PartialMap.eq_some_of_elim_insert hp with hp | ⟨e, hready, rfl, rfl⟩
    · exact hs.channels c p hp
    · generalize i.call = call at hi hready
      cases call with
      | channelReady =>
        obtain rfl := Option.some.inj hready
        exact hi
      | _ => cases hready

/-- The service is made of services of one peer each. -/
theorem componentwise (env : Externals) (o : Owners) :
    (machine env).Componentwise (fun i : ServiceInput => i.call.peerBy o) (only o) (OwnedBy o)
      fun i => i.call.Owned o where
  inv hs hi := hs.step env hi
  here := by
    intro p s t i hs ht hi hp hst
    -- Both services step as what they keep of the peer does, which is the same.
    have hs := step_only env hs hi hp
    have ht := step_only env ht hi hp
    rw [hst] at hs
    obtain ⟨hfst, hsnd⟩ := Prod.mk.inj (hs.symm.trans ht)
    exact ⟨hfst, hsnd⟩
  elsewhere hs hi hp := only_step env hs hi hp

theorem ownedBy_new (o : Owners) (secret : List UInt8) : (new secret).OwnedBy o :=
  ⟨fun _ _ h => absurd h (by simp [new]), fun _ _ h => absurd h (by simp [new])⟩

/-- The calls for a peer do and give the same as if they were the only ones: if all calls return,
    they do so alone, too. -/
theorem alone_exec (env : Externals) (secret : List UInt8) (o : Owners) {is : List ServiceInput}
    (his : ∀ i ∈ is, i.call.Owned o) (hreturns : (machine env).Outputs Returns (.new secret) is)
    (p : PublicKey) :
    (machine env).Outputs Returns (.new secret) (is.filter fun i => i.call.peerBy o = some p) ∧
      ((machine env).exec (.new secret) is).only o p = ((machine env).exec (.new secret)
        (is.filter fun i => i.call.peerBy o = some p)).only o p ∧
      ((machine env).trace (.new secret) is).filter (fun e => e.1.call.peerBy o = some p) =
        (machine env).trace (.new secret) (is.filter fun i => i.call.peerBy o = some p) := by
  obtain ⟨hexec, htrace⟩ :=
    (componentwise env o).alone p (ownedBy_new o secret) (ownedBy_new o secret) his rfl
  refine ⟨Machine.outputs_iff_trace.2 fun e he => ?_, hexec, htrace⟩
  rw [← htrace] at he
  exact Machine.outputs_iff_trace.1 hreturns e (List.mem_filter.1 he).1

/-- A call for no peer returns. -/
theorem returns_of_peerBy_eq_none (env : Externals) (s : LSPS2ServiceHandler) {i : ServiceInput}
    (h : i.call.peerBy o = none) : Returns (s.step env i).2 := by
  obtain ⟨call, cm, now⟩ := i
  cases call with
  | htlcHandlingFailed destination =>
    cases destination with
    | nextHopChannel => cases h
    | other => exact Outcome.ok_ne_panic
  | _ => cases h

/-- Calls for different peers may be made in any order: if they return in one order, they return
    in the other, the service ends the same, and each peer's calls give the same. -/
theorem interleaved_exec (env : Externals) (secret : List UInt8) (o : Owners)
    {is js : List ServiceInput} (his : ∀ i ∈ is, i.call.Owned o) (hjs : ∀ i ∈ js, i.call.Owned o)
    (h : ∀ p, is.filter (fun i => i.call.peerBy o = some p) =
      js.filter fun i => i.call.peerBy o = some p)
    (hreturns : (machine env).Outputs Returns (.new secret) is) :
    (machine env).Outputs Returns (.new secret) js ∧
      (machine env).exec (.new secret) is = (machine env).exec (.new secret) js ∧
      ∀ p, ((machine env).trace (.new secret) is).filter (fun e => e.1.call.peerBy o = some p) =
        ((machine env).trace (.new secret) js).filter fun e => e.1.call.peerBy o = some p := by
  have hparts := (componentwise env o).interleaving (ownedBy_new o secret) his hjs h
  refine ⟨Machine.outputs_iff_trace.2 fun e he => ?_,
    eq_of_only (o := o) ?_ fun p => (hparts p).1, fun p => (hparts p).2⟩
  · cases hp : e.1.call.peerBy o with
    | none =>
      -- Only a failed HTLC whose next hop is no channel is for no peer, and it is ignored.
      obtain ⟨pre, post, htrace⟩ := List.append_of_mem he
      obtain ⟨is₁, is₂, -, -, hout⟩ := Machine.trace_eq_append_cons htrace
      rw [← hout]
      exact returns_of_peerBy_eq_none env _ hp
    | some p =>
      -- The call gives what it gives in the first run.
      have hmem : e ∈ ((machine env).trace (.new secret) is).filter
          fun e => e.1.call.peerBy o = some p := by
        rw [(hparts p).2]
        exact List.mem_filter.2 ⟨he, decide_eq_true hp⟩
      exact Machine.outputs_iff_trace.1 hreturns e (List.mem_filter.1 hmem).1
  · rw [promiseSecret_exec, promiseSecret_exec]

/-- All short channel ids and channel ids belong to one peer. -/
def sampleOwners : Owners := ⟨fun _ => ⟨0⟩, fun _ => ⟨0⟩⟩

/-- A peer asks for opening fee parameters, and is refused. -/
def sampleRefused : List ServiceInput :=
  [(ServiceCall.handleMessage (.request ⟨"1"⟩ (.getInfo ⟨none⟩)) ⟨1⟩).sampleInput,
    (ServiceCall.invalidTokenProvided ⟨1⟩ ⟨"1"⟩).sampleInput]

/-- Another one buys a channel. -/
def sampleBought : List ServiceInput :=
  [sampleBuy none, sampleInvoice, (ServiceCall.htlcIntercepted 42 ⟨0⟩ 200 ⟨0⟩).sampleInput]

/-- The calls of one peer may come before those of the other. -/
theorem interleaved_exec_two :
    (machine sampleExternals).Outputs Returns (.new []) (sampleBought ++ sampleRefused) ∧
      (machine sampleExternals).exec (.new []) (sampleRefused ++ sampleBought) =
        (machine sampleExternals).exec (.new []) (sampleBought ++ sampleRefused) ∧
      ∀ p, ((machine sampleExternals).trace (.new []) (sampleRefused ++ sampleBought)).filter
          (fun e => e.1.call.peerBy sampleOwners = some p) =
        ((machine sampleExternals).trace (.new []) (sampleBought ++ sampleRefused)).filter
          fun e => e.1.call.peerBy sampleOwners = some p := by
  have howned : ∀ i ∈ sampleRefused ++ sampleBought, i.call.Owned sampleOwners := by
    simp [sampleRefused, sampleBought, sampleBuy, sampleInvoice, ServiceCall.sampleInput,
      ServiceCall.Owned, sampleOwners]
  refine interleaved_exec sampleExternals [] sampleOwners howned (fun i hi => howned i ?_)
    (fun p => ?_) (by decide)
  · exact List.mem_append.2 (List.mem_append.1 hi).symm
  · rw [List.filter_append, List.filter_append]
    by_cases hp : p = ⟨0⟩
    · have hnil : sampleRefused.filter (fun i => i.call.peerBy sampleOwners = some p) = [] := by
        subst hp
        rfl
      rw [hnil, List.nil_append, List.append_nil]
    · have hne : (⟨0⟩ : PublicKey) ≠ p := Ne.symm hp
      have hnil : sampleBought.filter (fun i => i.call.peerBy sampleOwners = some p) = [] := by
        simp [sampleBought, sampleBuy, sampleInvoice, ServiceCall.sampleInput, ServiceCall.peerBy,
          sampleOwners, hne]
      rw [hnil, List.nil_append, List.append_nil]

end LSPS2ServiceHandler

end LightningLiquidity
