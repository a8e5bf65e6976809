import LightningLiquidity.Lsps2.Service.Effects
import Mathlib.Algebra.Order.Floor.Div

/-!
# Which `buy` requests are accepted

What decides about a `buy` request, in exact arithmetic: the payment size
(`OpeningFeeParams.sizeCode?`), then the promise and the expiry.

* `handleBuyRequest_accepts_iff`: the requests accepted, and the error code the others are
  answered with;
* `sizeErrors_monotone`: the payment sizes of an offer split into those too small, those
  accepted, and those too large.
-/

namespace LightningLiquidity

open UInt64

namespace OpeningFeeParams

/-- The opening fee for a payment size, in exact arithmetic. -/
def exactFee (params : OpeningFeeParams) (size : UInt64) : ℕ :=
  max params.minFeeMsat.toNat ((size.toNat * params.proportional.toNat) ⌈/⌉ 1000000)

/-- The opening fee for a payment size is computed without overflow. -/
def FeeFits (params : OpeningFeeParams) (size : UInt64) : Prop :=
  size.toNat * params.proportional.toNat + 999999 < 2 ^ 64

/-- A payment size is within the limits, and more than its opening fee, which can be computed. -/
structure Payable (params : OpeningFeeParams) (size : UInt64) : Prop where
  min_le : params.minPaymentSizeMsat ≤ size
  le_max : size ≤ params.maxPaymentSizeMsat
  fits : params.FeeFits size
  fee_lt : params.exactFee size < size.toNat

instance (params : OpeningFeeParams) (size : UInt64) : Decidable (params.FeeFits size) :=
  inferInstanceAs (Decidable (_ < _))

/-- The error code for a payment size: that of the first condition it fails. -/
def sizeCode? (params : OpeningFeeParams) (size : UInt64) : Option Int32 :=
  if size < params.minPaymentSizeMsat then
    some paymentSizeTooSmallErrorCode
  else if params.maxPaymentSizeMsat < size then
    some paymentSizeTooLargeErrorCode
  else if ¬params.FeeFits size then
    some paymentSizeTooLargeErrorCode
  else if size.toNat ≤ params.exactFee size then
    some paymentSizeTooSmallErrorCode
  else
    none

variable {params : OpeningFeeParams} {size : UInt64}

theorem sizeCode?_eq_none : params.sizeCode? size = none ↔ params.Payable size := by
  rw [sizeCode?]
  constructor
  · intro h
    split at h
    · cases h
    split at h
    · cases h
    split at h
    · cases h
    split at h
    · cases h
    next hmin hmax hfits hfee =>
    exact ⟨UInt64.not_lt.1 hmin, UInt64.not_lt.1 hmax, Classical.not_not.1 hfits,
      Nat.not_le.1 hfee⟩
  · rintro ⟨hmin, hmax, hfits, hfee⟩
    rw [if_neg (UInt64.not_lt.2 hmin), if_neg (UInt64.not_lt.2 hmax),
      if_neg (Classical.not_not.2 hfits), if_neg (Nat.not_le.2 hfee)]

/-- The fee computed is the exact one, if that can be computed. -/
theorem openingFee_eq_some {fee : UInt64} :
    params.openingFee size = some fee ↔
      params.FeeFits size ∧ fee.toNat = params.exactFee size := by
  rw [computeOpeningFee_eq_some, UInt32.toNat_toUInt64, exactFee, Nat.max_comm, FeeFits,
    Nat.ceilDiv_eq_add_pred_div, Nat.add_sub_assoc (by decide : 1 ≤ 1000000)]

theorem openingFee_eq_none : params.openingFee size = none ↔ ¬params.FeeFits size := by
  rw [computeOpeningFee_eq_none, UInt32.toNat_toUInt64, FeeFits, Nat.not_lt]

end OpeningFeeParams

/-- A call ends in an error, and its only other effect is an error message with the code to a peer
    that wants to buy. -/
structure Output.RefusesBuy (out : Output) (p : PublicKey) (requestId : RequestId) (code : Int32) :
    Prop where
  result : ∃ e, out.result = .err e
  events : out.events = []
  cmCalls : out.cmCalls = []
  messages : ∃ error : ResponseError, error.code = code ∧
    out.messages = [(p, .response requestId (.buyError error))]

namespace BuyRequest

/-- What a `buy` request must fulfil at a time. -/
structure Acceptable (env : Externals) (promiseSecret : List UInt8) (now : UInt64)
    (req : BuyRequest) : Prop where
  promise : PromiseVerified env promiseSecret req.openingFeeParams
  unexpired : (now.toNat : ℤ) ≤ req.openingFeeParams.validUntil.timestamp
  size : ∀ size, req.paymentSizeMsat = some size → req.openingFeeParams.Payable size

/-- The error code for a `buy` request: that for its payment size, if there is one. -/
def errorCode (req : BuyRequest) : Int32 :=
  (req.paymentSizeMsat.bind req.openingFeeParams.sizeCode?).getD invalidOpeningFeeParamsErrorCode

end BuyRequest

namespace LSPS2ServiceHandler

variable {env : Externals} {now : UInt64} {s : LSPS2ServiceHandler} {requestId : RequestId}
  {p : PublicKey} {req : BuyRequest}

/-- The checks find the error code of a payment size. -/
theorem map_checkPaymentSize (params : OpeningFeeParams) (size : UInt64) :
    (checkPaymentSize params size).map Prod.fst = params.sizeCode? size := by
  rw [checkPaymentSize, OpeningFeeParams.sizeCode?]
  split
  · rfl
  split
  · rfl
  split
  · next fee hfee =>
    obtain ⟨hfits, heq⟩ := OpeningFeeParams.openingFee_eq_some.1 hfee
    rw [if_neg (Classical.not_not.2 hfits), ← heq]
    simp only [ge_iff_le, UInt64.le_iff_toNat_le]
    split <;> rfl
  · next hfee =>
    rw [if_pos (OpeningFeeParams.openingFee_eq_none.1 hfee)]
    rfl

/-- A `buy` request for a payment size with an error code is refused with that. -/
theorem handleBuyRequest_of_sizeCode (env : Externals) (now : UInt64) (s : LSPS2ServiceHandler)
    (requestId : RequestId) (p : PublicKey) {code : Int32}
    (h : req.paymentSizeMsat.bind req.openingFeeParams.sizeCode? = some code) :
    (s.handleBuyRequest env now requestId p req).1 = s ∧
      (s.handleBuyRequest env now requestId p req).2.RefusesBuy p requestId code := by
  obtain ⟨size, hsize, hcode⟩ := Option.bind_eq_some_iff.1 h
  rw [← map_checkPaymentSize, Option.map_eq_some_iff] at hcode
  obtain ⟨⟨_, message⟩, hcheck, rfl⟩ := hcode
  simp only [handleBuyRequest, hsize, Option.bind_some, hcheck]
  exact ⟨trivial, ⟨_, rfl⟩, rfl, rfl, _, rfl, rfl⟩

/-- Without an error code for the payment size, the check of the parameters decides. -/
theorem handleBuyRequest_of_valid (requestId : RequestId) (p : PublicKey) {valid : Bool}
    (hsize : req.paymentSizeMsat.bind req.openingFeeParams.sizeCode? = none)
    (hvalid : isValidOpeningFeeParams env now req.openingFeeParams s.promiseSecret = some valid) :
    if valid then
      s.handleBuyRequest env now requestId p req = (s.keepRequest p requestId (.buy req),
        { result := .ok
          events := [.buyRequest requestId p req.openingFeeParams req.paymentSizeMsat] })
    else
      (s.handleBuyRequest env now requestId p req).1 = s ∧
        (s.handleBuyRequest env now requestId p req).2.RefusesBuy p requestId
          invalidOpeningFeeParamsErrorCode := by
  have hcheck : req.paymentSizeMsat.bind (checkPaymentSize req.openingFeeParams) = none := by
    rw [Option.bind_eq_none_iff] at hsize ⊢
    intro size h
    have hcode := hsize size h
    rwa [← map_checkPaymentSize, Option.map_eq_none_iff] at hcode
  cases valid with
  | true => simp only [handleBuyRequest, hcheck, hvalid, if_true]
  | false =>
    simp only [handleBuyRequest, hcheck, hvalid, Bool.false_eq_true, if_false]
    exact ⟨trivial, ⟨_, rfl⟩, rfl, rfl, _, rfl, rfl⟩

/-- The check of the parameters does not panic on an expiry at or after the epoch. -/
theorem exists_isValidOpeningFeeParams (env : Externals) (now : UInt64) (secret : List UInt8)
    {params : OpeningFeeParams} (hepoch : 0 ≤ params.validUntil.timestamp) :
    ∃ valid, isValidOpeningFeeParams env now params secret = some valid := by
  refine Option.ne_none_iff_exists'.1 fun hnone => ?_
  rw [isValidOpeningFeeParams_eq_none] at hnone
  omega

/-- The check of the parameters, for an expiry at or after the epoch. -/
theorem acceptable_iff {valid : Bool}
    (hsize : req.paymentSizeMsat.bind req.openingFeeParams.sizeCode? = none)
    (hvalid : isValidOpeningFeeParams env now req.openingFeeParams s.promiseSecret = some valid) :
    req.Acceptable env s.promiseSecret now ↔ valid = true := by
  have hiff : isValidOpeningFeeParams env now req.openingFeeParams s.promiseSecret = some true ↔ _ :=
    isValidOpeningFeeParams_eq_true
  rw [hvalid, Option.some_inj] at hiff
  rw [hiff]
  constructor
  · intro h
    exact ⟨h.unexpired, h.promise⟩
  · rintro ⟨hunexpired, hpromise⟩
    refine ⟨hpromise, hunexpired, fun size h => ?_⟩
    rw [h, Option.bind_some] at hsize
    exact OpeningFeeParams.sizeCode?_eq_none.1 hsize

/-- A request is accepted, or refused with its error code. -/
theorem handleBuyRequest_decides (env : Externals) (now : UInt64) (s : LSPS2ServiceHandler)
    (requestId : RequestId) (p : PublicKey) (req : BuyRequest)
    (hepoch : 0 ≤ req.openingFeeParams.validUntil.timestamp) :
    (req.Acceptable env s.promiseSecret now ∧
      s.handleBuyRequest env now requestId p req = (s.keepRequest p requestId (.buy req),
        { result := .ok
          events := [.buyRequest requestId p req.openingFeeParams req.paymentSizeMsat] })) ∨
    (¬req.Acceptable env s.promiseSecret now ∧
      (s.handleBuyRequest env now requestId p req).1 = s ∧
        (s.handleBuyRequest env now requestId p req).2.RefusesBuy p requestId req.errorCode) := by
  obtain ⟨valid, hvalid⟩ := exists_isValidOpeningFeeParams env now s.promiseSecret hepoch
  cases hcode : req.paymentSizeMsat.bind req.openingFeeParams.sizeCode? with
  | some code =>
    have hrefused := handleBuyRequest_of_sizeCode env now s requestId p hcode
    rw [BuyRequest.errorCode, hcode, Option.getD_some]
    refine .inr ⟨fun hacc => ?_, hrefused⟩
    obtain ⟨size, hsize, hsizeCode⟩ := Option.bind_eq_some_iff.1 hcode
    rw [OpeningFeeParams.sizeCode?_eq_none.2 (hacc.size size hsize)] at hsizeCode
    cases hsizeCode
  | none =>
    have hparams := handleBuyRequest_of_valid requestId p hcode hvalid
    rw [BuyRequest.errorCode, hcode, Option.getD_none, acceptable_iff hcode hvalid]
    cases valid with
    | true => exact .inl ⟨rfl, hparams⟩
    | false => exact .inr ⟨Bool.false_ne_true, hparams⟩

/-- **A `buy` request is accepted iff it is acceptable**, and is then kept, with one event. Any
    other request is refused with the error code of the first condition it fails, and changes
    nothing. -/
theorem handleBuyRequest_accepts_iff (env : Externals) (now : UInt64) (s : LSPS2ServiceHandler)
    (requestId : RequestId) (p : PublicKey) (req : BuyRequest)
    (hepoch : 0 ≤ req.openingFeeParams.validUntil.timestamp) :
    let r := s.handleBuyRequest env now requestId p req
    (r.2.result = .ok ∧ r.1.requests = s.requests.insert (p, requestId) (.buy req) ∧
        r.2.events = [.buyRequest requestId p req.openingFeeParams req.paymentSizeMsat] ↔
      req.Acceptable env s.promiseSecret now) ∧
    (¬req.Acceptable env s.promiseSecret now →
      r.1 = s ∧ r.2.RefusesBuy p requestId req.errorCode) := by
  intro r
  rcases handleBuyRequest_decides env now s requestId p req hepoch with
    ⟨hacc, hkept⟩ | ⟨hno, hstate, hrefused⟩
  · have hr : r = _ := hkept
    refine ⟨iff_of_true ?_ hacc, fun hno => absurd hacc hno⟩
    rw [hr]
    exact ⟨rfl, requests_keepRequest .., rfl⟩
  · refine ⟨iff_of_false (fun hok => ?_) hno, fun _ => ⟨hstate, hrefused⟩⟩
    obtain ⟨e, he⟩ := hrefused.result
    cases he.symm.trans hok.1

/-- A request for a payment of fixed size, to a new handler. -/
theorem handleBuyRequest_accepts_iff_new :
    let r := (LSPS2ServiceHandler.new []).handleBuyRequest sampleExternals 0 ⟨"1"⟩ ⟨0⟩
      ⟨sampleParams, some 500⟩
    (r.2.result = .ok ∧ r.1.requests = (LSPS2ServiceHandler.new []).requests.insert (⟨0⟩, ⟨"1"⟩)
        (.buy ⟨sampleParams, some 500⟩) ∧
        r.2.events = [.buyRequest ⟨"1"⟩ ⟨0⟩ sampleParams (some 500)] ↔
      BuyRequest.Acceptable sampleExternals [] 0 ⟨sampleParams, some 500⟩) ∧
    (¬BuyRequest.Acceptable sampleExternals [] 0 ⟨sampleParams, some 500⟩ →
      r.1 = .new [] ∧ r.2.RefusesBuy ⟨0⟩ ⟨"1"⟩ (BuyRequest.errorCode ⟨sampleParams, some 500⟩)) :=
  handleBuyRequest_accepts_iff sampleExternals 0 (.new []) ⟨"1"⟩ ⟨0⟩ ⟨sampleParams, some 500⟩
    (by decide)

end LSPS2ServiceHandler

/-! ## Payment sizes in order -/

namespace OpeningFeeParams

variable {params : OpeningFeeParams} {small large size : UInt64}

theorem sizeCode?_eq_tooLarge : params.sizeCode? size = some paymentSizeTooLargeErrorCode ↔
    params.minPaymentSizeMsat ≤ size ∧
      (params.maxPaymentSizeMsat < size ∨ ¬params.FeeFits size) := by
  rw [sizeCode?]
  split
  · next h => exact iff_of_false (by decide) fun hlarge => UInt64.not_lt.2 hlarge.1 h
  next hmin =>
  split
  · next h => exact iff_of_true rfl ⟨UInt64.not_lt.1 hmin, .inl h⟩
  next hmax =>
  split
  · next h => exact iff_of_true rfl ⟨UInt64.not_lt.1 hmin, .inr h⟩
  next hfits =>
  refine iff_of_false ?_ fun hlarge => hlarge.2.elim hmax hfits
  split <;> decide

theorem sizeCode?_eq_tooSmall : params.sizeCode? size = some paymentSizeTooSmallErrorCode ↔
    size < params.minPaymentSizeMsat ∨
      (size ≤ params.maxPaymentSizeMsat ∧ params.FeeFits size ∧
        size.toNat ≤ params.exactFee size) := by
  rw [sizeCode?]
  split
  · next h => exact iff_of_true rfl (.inl h)
  next hmin =>
  rw [or_iff_right hmin]
  split
  · next h => exact iff_of_false (by decide) fun hsmall => UInt64.not_lt.2 hsmall.1 h
  next hmax =>
  split
  · next h => exact iff_of_false (by decide) fun hsmall => h hsmall.2.1
  next hfits =>
  split
  · next h => exact iff_of_true rfl ⟨UInt64.not_lt.1 hmax, Classical.not_not.1 hfits, h⟩
  · next h => exact iff_of_false (by decide) fun hsmall => h hsmall.2.2

/-- A fee that fits for a payment size does for smaller ones. -/
theorem FeeFits.mono (h : params.FeeFits large) (hlt : small < large) : params.FeeFits small := by
  have hle := Nat.mul_le_mul_right params.proportional.toNat (UInt64.lt_iff_toNat_lt.1 hlt).le
  rw [FeeFits] at h ⊢
  omega

/-- A payment size not above its part, rounded up, is above those of smaller sizes: the part is at
    least the whole, or lacks less than one unit. -/
theorem le_ceilDiv_of_lt {s t part whole : ℕ} (hwhole : 0 < whole) (hlt : s < t)
    (h : t ≤ (t * part) ⌈/⌉ whole) : s ≤ (s * part) ⌈/⌉ whole := by
  by_contra hs
  have hceil : (s * part) ⌈/⌉ whole ≤ s - 1 := by omega
  rw [ceilDiv_le_iff_le_mul hwhole] at hceil
  have hpos : 1 ≤ s := by omega
  have hpart : part < whole := by
    by_contra hge
    have hmul := Nat.mul_le_mul_left s (Nat.not_lt.1 hge)
    rw [Nat.mul_sub, Nat.mul_one, Nat.mul_comm whole s] at hceil
    have := Nat.le_mul_of_pos_left whole hpos
    omega
  have hlarge : t * part ≤ whole * (t - 1) := by
    calc t * part
      _ = s * part + (t - s) * part := by rw [← Nat.add_mul, Nat.add_sub_cancel' hlt.le]
      _ ≤ whole * (s - 1) + (t - s) * whole :=
        Nat.add_le_add hceil (Nat.mul_le_mul_left _ hpart.le)
      _ = whole * (t - 1) := by
        rw [Nat.mul_comm (t - s), ← Nat.mul_add]
        congr 1
        omega
  have hle := (ceilDiv_le_iff_le_mul hwhole).2 hlarge
  omega

/-- A payment size that does not exceed its fee is one of an initial range. -/
theorem le_exactFee_of_lt (hlt : small < large) (h : large.toNat ≤ params.exactFee large) :
    small.toNat ≤ params.exactFee small := by
  have hlt' := UInt64.lt_iff_toNat_lt.1 hlt
  rw [exactFee, le_max_iff] at h ⊢
  rcases h with hmin | hpart
  · exact .inl (hlt'.le.trans hmin)
  · exact .inr (le_ceilDiv_of_lt (by decide) hlt' hpart)

theorem sizeCode?_tooLarge_mono (hlt : small < large)
    (h : params.sizeCode? small = some paymentSizeTooLargeErrorCode) :
    params.sizeCode? large = some paymentSizeTooLargeErrorCode := by
  rw [sizeCode?_eq_tooLarge] at h ⊢
  obtain ⟨hmin, hmax | hfits⟩ := h
  · exact ⟨UInt64.le_trans hmin (UInt64.le_of_lt hlt), .inl (UInt64.lt_trans hmax hlt)⟩
  · exact ⟨UInt64.le_trans hmin (UInt64.le_of_lt hlt), .inr fun h => hfits (h.mono hlt)⟩

theorem sizeCode?_tooSmall_mono (hlt : small < large)
    (h : params.sizeCode? large = some paymentSizeTooSmallErrorCode) :
    params.sizeCode? small = some paymentSizeTooSmallErrorCode := by
  rw [sizeCode?_eq_tooSmall] at h ⊢
  rcases h with hmin | ⟨hmax, hfits, hfee⟩
  · exact .inl (UInt64.lt_trans hlt hmin)
  · exact .inr ⟨UInt64.le_trans (UInt64.le_of_lt hlt) hmax, hfits.mono hlt,
      le_exactFee_of_lt hlt hfee⟩

/-- A payment size has one of two error codes, or none. -/
theorem sizeCode?_cases (params : OpeningFeeParams) (size : UInt64) :
    params.sizeCode? size = none ∨ params.sizeCode? size = some paymentSizeTooSmallErrorCode ∨
      params.sizeCode? size = some paymentSizeTooLargeErrorCode := by
  rw [sizeCode?]
  repeat' split
  · exact .inr (.inl rfl)
  · exact .inr (.inr rfl)
  · exact .inr (.inr rfl)
  · exact .inr (.inl rfl)
  · exact .inl rfl

end OpeningFeeParams

/-- A `buy` request for a payment of fixed size, received by a handler when the parameters are
    valid. -/
structure SizedBuy (params : OpeningFeeParams) where
  env : Externals
  now : UInt64
  handler : LSPS2ServiceHandler
  requestId : RequestId
  p : PublicKey
  size : UInt64
  valid : isValidOpeningFeeParams env now params handler.promiseSecret = some true

namespace SizedBuy

variable {params : OpeningFeeParams}

/-- What the request leads to. -/
def output (r : SizedBuy params) : Output :=
  (r.handler.handleBuyRequest r.env r.now r.requestId r.p ⟨params, some r.size⟩).2

/-- The request is refused with an error code. -/
def RefusedWith (r : SizedBuy params) (code : Int32) : Prop :=
  r.output.RefusesBuy r.p r.requestId code

theorem refusedWith (r : SizedBuy params) {code : Int32} (h : params.sizeCode? r.size = some code) :
    r.RefusedWith code := by
  have hcode : (⟨params, some r.size⟩ : BuyRequest).paymentSizeMsat.bind params.sizeCode? =
      some code := h
  exact (LSPS2ServiceHandler.handleBuyRequest_of_sizeCode _ _ _ _ _ hcode).2

theorem result_eq_ok_iff (r : SizedBuy params) :
    r.output.result = .ok ↔ params.sizeCode? r.size = none := by
  constructor
  · intro hok
    rw [Option.eq_none_iff_forall_ne_some]
    intro code hcode
    obtain ⟨e, he⟩ := (r.refusedWith hcode).result
    cases he.symm.trans hok
  · intro h
    have hcode : (⟨params, some r.size⟩ : BuyRequest).paymentSizeMsat.bind params.sizeCode? =
        none := h
    have hkept : r.handler.handleBuyRequest r.env r.now r.requestId r.p ⟨params, some r.size⟩ = _ :=
      LSPS2ServiceHandler.handleBuyRequest_of_valid _ _ hcode r.valid
    rw [output, hkept]

/-- With valid parameters, only the payment size decides how a request is refused. -/
theorem refusedWith_iff (r : SizedBuy params) (code : Int32) :
    r.RefusedWith code ↔ params.sizeCode? r.size = some code := by
  refine ⟨fun h => ?_, r.refusedWith⟩
  cases hcode : params.sizeCode? r.size with
  | none =>
    obtain ⟨e, he⟩ := h.result
    cases he.symm.trans (r.result_eq_ok_iff.2 hcode)
  | some code' =>
    obtain ⟨error, rfl, hmessages⟩ := h.messages
    obtain ⟨error', rfl, hmessages'⟩ := (r.refusedWith hcode).messages
    rw [hmessages'] at hmessages
    simp only [List.cons.injEq, Prod.mk.injEq, LSPS2Message.response.injEq,
      LSPS2Response.buyError.injEq, true_and, and_true] at hmessages
    rw [hmessages]

end SizedBuy

/-- A property that passes to smaller integers is that of an initial range of them. -/
theorem exists_forall_iff_lt {P : UInt64 → Prop} (h : ∀ s t, s < t → P t → P s) :
    ∃ n : ℕ, ∀ s, P s ↔ s.toNat < n := by
  classical
  by_cases hall : ∀ s, P s
  · exact ⟨2 ^ 64, fun s => iff_of_true (hall s) s.toNat_lt⟩
  · obtain ⟨s, hs⟩ := not_forall.1 hall
    have hex : ∃ n, ∃ s : UInt64, s.toNat = n ∧ ¬P s := ⟨_, s, rfl, hs⟩
    refine ⟨Nat.find hex, fun t => ⟨fun ht => ?_, fun ht => ?_⟩⟩
    · obtain ⟨first, hfirst, hno⟩ := Nat.find_spec hex
      rw [← hfirst]
      by_contra hle
      rcases Nat.eq_or_lt_of_le (Nat.not_lt.1 hle) with heq | hlt
      · exact hno (UInt64.toNat_inj.1 heq ▸ ht)
      · exact hno (h first t (UInt64.lt_iff_toNat_lt.2 hlt) ht)
    · by_contra hno
      exact Nat.find_min hex ht ⟨t, rfl, hno⟩

/-- **Size errors are monotone.** With an offer, whoever makes a request where and when, what is
    too large for it stays so for larger payments, and what is too small for smaller ones: payment
    sizes are too small up to a bound, too large from another one on, and accepted in between. -/
theorem sizeErrors_monotone (params : OpeningFeeParams) :
    (∀ small large : SizedBuy params, small.size < large.size →
      (small.RefusedWith paymentSizeTooLargeErrorCode →
        large.RefusedWith paymentSizeTooLargeErrorCode) ∧
      (large.RefusedWith paymentSizeTooSmallErrorCode →
        small.RefusedWith paymentSizeTooSmallErrorCode)) ∧
    ∃ lo hi : ℕ, lo ≤ hi ∧ ∀ r : SizedBuy params,
      (r.RefusedWith paymentSizeTooSmallErrorCode ↔ r.size.toNat < lo) ∧
      (r.output.result = .ok ↔ lo ≤ r.size.toNat ∧ r.size.toNat < hi) ∧
      (r.RefusedWith paymentSizeTooLargeErrorCode ↔ hi ≤ r.size.toNat) := by
  simp only [SizedBuy.refusedWith_iff, SizedBuy.result_eq_ok_iff]
  constructor
  · intro small large hlt
    exact ⟨OpeningFeeParams.sizeCode?_tooLarge_mono hlt,
      OpeningFeeParams.sizeCode?_tooSmall_mono hlt⟩
  · -- What is too small is so up to a bound, and what is not too large up to another one.
    obtain ⟨lo, hlo⟩ := exists_forall_iff_lt
      (P := fun size => params.sizeCode? size = some paymentSizeTooSmallErrorCode)
      fun s t => OpeningFeeParams.sizeCode?_tooSmall_mono
    obtain ⟨hi, hhi⟩ := exists_forall_iff_lt
      (P := fun size => params.sizeCode? size ≠ some paymentSizeTooLargeErrorCode)
      fun s t hlt hno h => hno (OpeningFeeParams.sizeCode?_tooLarge_mono hlt h)
    refine ⟨lo, max lo hi, le_max_left .., fun r => ?_⟩
    have hsmall := hlo r.size
    have hlarge := hhi r.size
    have hne : paymentSizeTooSmallErrorCode ≠ paymentSizeTooLargeErrorCode := by decide
    rcases params.sizeCode?_cases r.size with hcode | hcode | hcode
    · simp only [hcode, reduceCtorEq, ne_eq, not_false_eq_true, true_iff, false_iff]
        at hsmall hlarge ⊢
      omega
    · simp only [hcode, Option.some_inj, hne, reduceCtorEq, ne_eq, not_false_eq_true, true_iff,
        false_iff] at hsmall hlarge ⊢
      omega
    · simp only [hcode, Option.some_inj, hne.symm, reduceCtorEq, ne_eq, not_true_eq_false,
        true_iff, false_iff] at hsmall hlarge ⊢
      omega

/-- A request of a given payment size. -/
def sampleSizedBuy (size : UInt64) : SizedBuy sampleParams where
  env := sampleExternals
  now := 0
  handler := .new []
  requestId := ⟨"1"⟩
  p := ⟨0⟩
  size := size
  valid := by decide

/-- A payment of 500 msat is accepted and one of 5000 msat too large, and so is any other one from
    a size between them on. -/
theorem sizeErrors_monotone_two :
    (sampleSizedBuy 5001).RefusedWith paymentSizeTooLargeErrorCode ∧
      ∃ hi, 500 < hi ∧ hi ≤ 5000 ∧ ∀ r : SizedBuy sampleParams,
        r.RefusedWith paymentSizeTooLargeErrorCode ↔ hi ≤ r.size.toNat := by
  have htaken : (sampleSizedBuy 500).output.result = .ok :=
    (sampleSizedBuy 500).result_eq_ok_iff.2 (by decide)
  have hrefused : (sampleSizedBuy 5000).RefusedWith paymentSizeTooLargeErrorCode :=
    (sampleSizedBuy 5000).refusedWith (by decide)
  obtain ⟨hmono, lo, hi, -, hranges⟩ := sizeErrors_monotone sampleParams
  have hlarger : (sampleSizedBuy 5001).RefusedWith paymentSizeTooLargeErrorCode :=
    (hmono (sampleSizedBuy 5000) (sampleSizedBuy 5001) (by decide)).1 hrefused
  exact ⟨hlarger, hi, ((hranges (sampleSizedBuy 500)).2.1.1 htaken).2,
    (hranges (sampleSizedBuy 5000)).2.2.1 hrefused, fun r => (hranges r).2.2⟩

end LightningLiquidity
