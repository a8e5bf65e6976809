import LightningLiquidity.Lsps2.Channel.Coupling
import LightningLiquidity.Lsps2.Service.Effects

/-!
# Runs of the service

What holds of the requests and channels of the service in every run: they were
offered by the service, and found acceptable (`Sound`).

A run of the service contains, for each channel sold, the run of that channel
(`opsOn`): a channel with a fixed payment size stays what its own run made of it,
whatever else the service does (`channels_exec`).
-/

namespace LightningLiquidity

namespace LSPS2ServiceHandler

variable {env : Externals} {s : LSPS2ServiceHandler}

theorem promiseSecret_step (env : Externals) (s : LSPS2ServiceHandler) (i : ServiceInput) :
    (s.step env i).1.promiseSecret = s.promiseSecret := by
  obtain ⟨call, cm, now⟩ := i
  cases call with
  | handleMessage => exact handleMessage_frame (fun _ _ => rfl) ..
  | _ =>
    simp only [step, invalidTokenProvided, openingFeeParamsGenerated, respondGetInfo,
      invoiceParametersGenerated, htlcIntercepted, htlcHandlingFailed, paymentForwarded,
      channelReady]
    repeat' split
    all_goals rfl

theorem promiseSecret_exec (env : Externals) (s : LSPS2ServiceHandler) (is : List ServiceInput) :
    ((machine env).exec s is).promiseSecret = s.promiseSecret :=
  ((machine env).along_true s is).invariant (P := fun s' => s'.promiseSecret = s.promiseSecret)
    (fun s' i h _ => (promiseSecret_step env s' i).trans h) rfl

/-! ## Requests and channels are sound -/

/-- Opening fee parameters were offered by the service, and the payment size, if
    it is fixed, is acceptable under them. -/
structure Offered (env : Externals) (promiseSecret : List UInt8) (params : OpeningFeeParams)
    (size : Option UInt64) : Prop where
  promise : PromiseVerified env promiseSecret params
  acceptable : ∀ sz, size = some sz → AcceptableSize params sz

/-- All requests to buy a channel, and all channels sold, are for what was offered
    by the service. -/
structure Sound (env : Externals) (s : LSPS2ServiceHandler) : Prop where
  requests : ∀ k req, s.requests k = some (.buy req) →
    Offered env s.promiseSecret req.openingFeeParams req.paymentSizeMsat
  channels : ∀ k ch, s.channels k = some ch →
    Offered env s.promiseSecret ch.openingFeeParams ch.paymentSizeMsat

/-- A channel is created in answer to a request to buy it. -/
theorem exists_of_created {call : ServiceCall} {k : PublicKey × Scid} {ch : OutboundJITChannel}
    (h : s.created call = some (k, ch)) :
    ∃ requestId req userChannelId, s.requests (k.1, requestId) = some (.buy req) ∧
      ch = .new req.paymentSizeMsat req.openingFeeParams userChannelId := by
  cases call with
  | invoiceParametersGenerated p requestId scid _ _ userChannelId =>
    simp only [created] at h
    split at h
    · next req hreq =>
      obtain ⟨rfl, rfl⟩ := Prod.mk.inj (Option.some.inj h)
      exact ⟨requestId, req, userChannelId, hreq, rfl⟩
    · cases h
  | _ => cases h

theorem Sound.new (secret : List UInt8) : Sound env (new secret) where
  requests _ _ h := nomatch h
  channels _ _ h := nomatch h

/-- A request that passes the checks is for what was offered. -/
theorem BuyRequest.Accepted.offered {secret : List UInt8} {now : UInt64} {req : BuyRequest}
    (h : req.Accepted env secret now) :
    Offered env secret req.openingFeeParams req.paymentSizeMsat where
  promise := (isValidOpeningFeeParams_eq_true.1 h.valid).2
  acceptable := h.size

/-- A call keeps requests and channels sound. -/
theorem Sound.step (h : s.Sound env) (i : ServiceInput) : (s.step env i).1.Sound env where
  requests k req hreq := by
    rw [promiseSecret_step]
    -- The property of `buy` requests, said of all, is one that maps of requests keep.
    let P (request : LSPS2Request) : Prop := ∀ req, request = .buy req →
      Offered env s.promiseSecret req.openingFeeParams req.paymentSizeMsat
    have hs : ∀ k request, s.requests k = some request → P request :=
      fun k request hk req hreq => h.requests k req (hreq ▸ hk)
    suffices ∀ k request, (s.step env i).1.requests k = some request → P request from
      this k _ hreq req rfl
    cases requestsStep_step env s i with
    | keep heq => exact heq ▸ hs
    | answer heq => exact heq ▸ PartialMap.forall_remove hs
    | receive heq _ hacc =>
      refine heq ▸ PartialMap.forall_insert hs fun req hreq => ?_
      subst hreq
      exact BuyRequest.Accepted.offered hacc
  channels := by
    rw [promiseSecret_step]
    refine (channelsStep_step env s i).forall (fun k ch hc => ?_) (fun ch op hch => ?_) h.channels
    · obtain ⟨requestId, req, userChannelId, hreq, rfl⟩ := exists_of_created hc
      exact h.requests _ _ hreq
    · rwa [OutboundJITChannel.step_openingFeeParams, OutboundJITChannel.step_paymentSizeMsat]

/-- Requests and channels are sound in every run of a new handler. -/
theorem Sound.exec (secret : List UInt8) (is : List ServiceInput) :
    ((machine env).exec (.new secret) is).Sound env :=
  ((machine env).along_true _ is).invariant (fun _ i h _ => h.step i) (.new secret)

/-! ## The run of a channel -/

/-- The operation a call makes on the channel under `k`. -/
def opOn (s : LSPS2ServiceHandler) (k : PublicKey × Scid) (call : ServiceCall) : Option ChannelOp :=
  (s.target call).bind fun target => if target.1 = k then some target.2 else none

/-- The operations made on the channel under `k` in a run of the service. -/
def opsOn (env : Externals) (k : PublicKey × Scid) :
    LSPS2ServiceHandler → List ServiceInput → List ChannelOp
  | _, [] => []
  | s, i :: is => (s.opOn k i.call).toList ++ opsOn env k (s.step env i).1 is

/-- A call does not store a new channel under `k`. -/
def Keeps (k : PublicKey × Scid) (s : LSPS2ServiceHandler) (i : ServiceInput) : Prop :=
  ∀ ch, s.created i.call ≠ some (k, ch)

variable {k : PublicKey × Scid} {ch : OutboundJITChannel}

/-- A call makes of a channel what its operation on it does, if the channel refuses
    no HTLC and is not replaced. -/
theorem channels_step (env : Externals) (hch : s.channels k = some ch) {i : ServiceInput}
    (hkeep : s.Keeps k i) (haccepts : ∀ op, AcceptsHtlc ch op) :
    (s.step env i).1.channels k =
      some (OutboundJITChannel.machine.exec ch (s.opOn k i.call).toList) := by
  rw [opOn]
  cases channelsStep_step env s i with
  | keep h htarget => rw [h, htarget, hch]; rfl
  | @create k' ch' h htarget hcreated =>
    have hk : k ≠ k' := fun hk => hkeep ch' (hk ▸ hcreated)
    rw [h, htarget, PartialMap.insert_of_ne _ _ hk, hch]
    rfl
  | @operate k' op ch' h hch' htarget =>
    rw [h, htarget, Option.bind_some]
    by_cases hk : k' = k
    · subst hk
      obtain rfl := Option.some.inj (hch.symm.trans hch')
      rw [PartialMap.insert_self, if_pos rfl]
      rfl
    · rw [PartialMap.insert_of_ne _ _ (Ne.symm hk), if_neg hk, hch]
      rfl
  | @remove k' op ch' h hch' htarget _ hrefuses =>
    -- A channel is removed only for refusing an HTLC.
    rw [h, htarget, Option.bind_some]
    by_cases hk : k' = k
    · subst hk
      obtain rfl := Option.some.inj (hch.symm.trans hch')
      exact absurd (haccepts op) hrefuses
    · rw [PartialMap.remove_of_ne _ (Ne.symm hk), if_neg hk, hch]
      rfl

/-- In a run that does not replace it, a channel with a fixed and acceptable
    payment size becomes what its own run makes of it. -/
theorem channels_exec {is : List ServiceInput} (hch : s.channels k = some ch)
    (hkeep : (machine env).Along (Keeps k) s is) (hacc : ch.Acceptable)
    (hsize : ch.paymentSizeMsat.isSome) :
    ((machine env).exec s is).channels k =
      some (OutboundJITChannel.machine.exec ch (opsOn env k s is)) := by
  induction is generalizing s ch with
  | nil => exact hch
  | cons i is ih =>
    have hstep := channels_step env hch hkeep.1 (hacc.acceptsHtlc hsize)
    rw [opsOn, Machine.exec_append]
    refine ih hstep hkeep.2 ?_ ?_
    · exact hacc.exec _
    · rwa [OutboundJITChannel.exec_paymentSizeMsat]

end LSPS2ServiceHandler

end LightningLiquidity
