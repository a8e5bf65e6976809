import LightningLiquidity.Lib.CheckedArith
import LightningLiquidity.Lsps2.Msgs

/-!
# Opening fees and promises

The two checks the service makes on opening fee parameters: the opening fee they
give for a payment size (`computeOpeningFee`), and whether it gave them out and
they have not expired (`isValidOpeningFeeParams`).

A `buy` request is checked for both (`AcceptableSize`, `PromiseVerified`).

* `computeOpeningFee_eq_some`, `computeOpeningFee_eq_none`: the opening fee in
  exact arithmetic, and when it overflows;
* `isValidOpeningFeeParams_eq_true`, `isValidOpeningFeeParams_eq_none`: what
  valid parameters carry, and when the check panics.
-/

namespace LightningLiquidity

open UInt64

/-- Whether the parameters carry the promise of the service and have not expired
    at the given time, in seconds since the Unix epoch. An expiry before the
    epoch does not fit the unsigned seconds it is compared in: `none`, a panic
    ("expiration to be ahead of unix epoch"). -/
def isValidOpeningFeeParams (env : Externals) (now : UInt64) (feeParams : OpeningFeeParams)
    (promiseSecret : List UInt8) : Option Bool :=
  if feeParams.validUntil.timestamp < 0 then
    none
  else if (now.toNat : ℤ) > feeParams.validUntil.timestamp then
    some false
  else
    let promiseBytes := env.hmacSha256 promiseSecret <|
      toBeBytes64 feeParams.minFeeMsat ++
      toBeBytes32 feeParams.proportional ++
      env.toRfc3339 feeParams.validUntil ++
      toBeBytes32 feeParams.minLifetime ++
      toBeBytes32 feeParams.maxClientToSelfDelay ++
      toBeBytes64 feeParams.minPaymentSizeMsat ++
      toBeBytes64 feeParams.maxPaymentSizeMsat
    let promise := hexStr promiseBytes
    some (promise = feeParams.promise)

/-- The opening fee for a payment size: its proportional part rounded up to the
    next msat, but at least the minimum. `none` if that overflows. -/
def computeOpeningFee (paymentSizeMsat openingFeeMinFeeMsat openingFeeProportional : UInt64) :
    Option UInt64 :=
  (checkedMul paymentSizeMsat openingFeeProportional).bind fun f =>
    (checkedAdd f 999999).bind fun f =>
      (checkedDiv f 1000000).map fun f => max f openingFeeMinFeeMsat

/-- The opening fee in exact arithmetic. It exists iff rounding up does not
    overflow, which is decided before the minimum applies. -/
theorem computeOpeningFee_eq_some {size minFee proportional fee : UInt64} :
    computeOpeningFee size minFee proportional = some fee ↔
      size.toNat * proportional.toNat + 999999 < 2 ^ 64 ∧
        fee.toNat = max ((size.toNat * proportional.toNat + 999999) / 1000000) minFee.toNat := by
  have hmax (g : UInt64) :
      (max (g / 1000000) minFee).toNat = max (g.toNat / 1000000) minFee.toNat := by
    rw [toNat_max, UInt64.toNat_div]
    rfl
  simp only [computeOpeningFee, Option.bind_eq_some_iff, Option.map_eq_some_iff,
    checkedMul_eq_some, checkedAdd_eq_some,
    checkedDiv_of_ne_zero (show (1000000 : UInt64) ≠ 0 by decide), Option.some_inj]
  constructor
  · rintro ⟨f, hf, g, hg, _, rfl, rfl⟩
    rw [hmax, ← hf, ← show g.toNat = f.toNat + 999999 from hg]
    exact ⟨g.toNat_lt, rfl⟩
  · rintro ⟨hlt, hfee⟩
    have hf := UInt64.toNat_ofNat_of_lt' (Nat.lt_of_le_of_lt (Nat.le_add_right _ 999999) hlt)
    have hg := UInt64.toNat_ofNat_of_lt' hlt
    refine ⟨_, hf, _, hg.trans (congrArg (· + 999999) hf.symm), _, rfl, ?_⟩
    rw [← UInt64.toNat_inj, hmax, hg, hfee]

/-- The opening fee overflows exactly if its rounded proportional part does. -/
theorem computeOpeningFee_eq_none {size minFee proportional : UInt64} :
    computeOpeningFee size minFee proportional = none ↔
      2 ^ 64 ≤ size.toNat * proportional.toNat + 999999 := by
  rw [← Nat.not_lt, Option.eq_none_iff_forall_ne_some, ← not_iff_not, not_forall_not,
    Classical.not_not]
  simp only [computeOpeningFee_eq_some, exists_and_left]
  refine and_iff_left_of_imp fun hlt => ?_
  have hle : max ((size.toNat * proportional.toNat + 999999) / 1000000) minFee.toNat < 2 ^ 64 :=
    Nat.max_lt.2 ⟨Nat.lt_of_le_of_lt (Nat.div_le_self _ _) hlt, minFee.toNat_lt⟩
  exact ⟨_, UInt64.toNat_ofNat_of_lt' hle⟩

/-- The opening fee under the given parameters. -/
abbrev OpeningFeeParams.openingFee (params : OpeningFeeParams) (paymentSizeMsat : UInt64) :
    Option UInt64 :=
  computeOpeningFee paymentSizeMsat params.minFeeMsat params.proportional.toUInt64

/-- The payment size is within the limits of the parameters, and exceeds the
    opening fee they give for it. -/
structure AcceptableSize (params : OpeningFeeParams) (size : UInt64) : Prop where
  min_le : params.minPaymentSizeMsat ≤ size
  le_max : size ≤ params.maxPaymentSizeMsat
  fee_lt : ∃ fee, params.openingFee size = some fee ∧ fee < size

/-- The parameters carry the promise made for them under the secret. -/
def PromiseVerified (env : Externals) (promiseSecret : List UInt8) (params : OpeningFeeParams) :
    Prop :=
  (RawOpeningFeeParams.intoOpeningFeeParams env
    { minFeeMsat := params.minFeeMsat
      proportional := params.proportional
      validUntil := params.validUntil
      minLifetime := params.minLifetime
      maxClientToSelfDelay := params.maxClientToSelfDelay
      minPaymentSizeMsat := params.minPaymentSizeMsat
      maxPaymentSizeMsat := params.maxPaymentSizeMsat } promiseSecret) = params

/-- Parameters found valid have not expired, and carry the promise made for them. -/
theorem isValidOpeningFeeParams_eq_true {env : Externals} {now : UInt64}
    {params : OpeningFeeParams} {secret : List UInt8} :
    isValidOpeningFeeParams env now params secret = some true ↔
      (now.toNat : ℤ) ≤ params.validUntil.timestamp ∧ PromiseVerified env secret params := by
  have hnow : (0 : ℤ) ≤ now.toNat := Int.natCast_nonneg _
  rw [isValidOpeningFeeParams]
  split
  · next h => simp only [reduceCtorEq, false_iff]; omega
  split
  · next h => simp only [Option.some.injEq, Bool.false_eq_true, false_iff]; omega
  · next h =>
    have hle : (now.toNat : ℤ) ≤ params.validUntil.timestamp := by omega
    simp only [hle, true_and, PromiseVerified, RawOpeningFeeParams.intoOpeningFeeParams,
      Option.some.injEq, decide_eq_true_eq]
    constructor
    · intro hp
      cases params
      simp_all
    · intro hp
      exact congrArg OpeningFeeParams.promise hp

/-- The validity check panics exactly on an expiry before the epoch. -/
theorem isValidOpeningFeeParams_eq_none {env : Externals} {now : UInt64}
    {params : OpeningFeeParams} {secret : List UInt8} :
    isValidOpeningFeeParams env now params secret = none ↔ params.validUntil.timestamp < 0 := by
  by_cases h : params.validUntil.timestamp < 0
  · simp [isValidOpeningFeeParams, h]
  · rw [isValidOpeningFeeParams, if_neg h]
    split <;> simp only [reduceCtorEq, h]

end LightningLiquidity
