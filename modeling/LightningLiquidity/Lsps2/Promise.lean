import LightningLiquidity.Lsps2.Ser
import LightningLiquidity.Lsps2.Utils

/-!
# Promises

The promise of opening fee parameters is the HMAC of one string of bytes, of all
seven fields (`promisePreimage`), which is the same where promises are made and where
they are checked.

* `promise_complete_unforgeable`: parameters given out are found valid until they expire,
  also after they have been sent as JSON; and if no other key and bytes have their HMAC,
  parameters with their promise are only valid under the secret they were given out
  under, and with the fields they were given out with.
-/

namespace LightningLiquidity

/-- The parameters without the promise. -/
def OpeningFeeParams.raw (params : OpeningFeeParams) : RawOpeningFeeParams where
  minFeeMsat := params.minFeeMsat
  proportional := params.proportional
  validUntil := params.validUntil
  minLifetime := params.minLifetime
  maxClientToSelfDelay := params.maxClientToSelfDelay
  minPaymentSizeMsat := params.minPaymentSizeMsat
  maxPaymentSizeMsat := params.maxPaymentSizeMsat

/-- The bytes of which a promise is the HMAC. -/
def RawOpeningFeeParams.promisePreimage (env : Externals) (raw : RawOpeningFeeParams) :
    List UInt8 :=
  toBeBytes64 raw.minFeeMsat ++ toBeBytes32 raw.proportional ++ env.toRfc3339 raw.validUntil ++
    toBeBytes32 raw.minLifetime ++ toBeBytes32 raw.maxClientToSelfDelay ++
    toBeBytes64 raw.minPaymentSizeMsat ++ toBeBytes64 raw.maxPaymentSizeMsat

namespace Externals

/-- No other date-time has the text of `t`. -/
def DateInjectiveAt (env : Externals) (t : DateTime) : Prop :=
  ∀ t', env.toRfc3339 t' = env.toRfc3339 t → t' = t

/-- No other key of 32 bytes, and no other message, has the HMAC of `m` under `k`. -/
def HmacInjectiveAt (env : Externals) (k m : List UInt8) : Prop :=
  ∀ k' m', k'.length = 32 → env.hmacSha256 k' m' = env.hmacSha256 k m → k' = k ∧ m' = m

end Externals

variable {env : Externals} {raw raw' : RawOpeningFeeParams} {secret secret' : List UInt8}

@[simp] theorem raw_intoOpeningFeeParams (env : Externals) (raw : RawOpeningFeeParams)
    (secret : List UInt8) : (raw.intoOpeningFeeParams env secret).raw = raw := rfl

/-- The promise made, by its preimage. -/
theorem promise_intoOpeningFeeParams (env : Externals) (raw : RawOpeningFeeParams)
    (secret : List UInt8) : (raw.intoOpeningFeeParams env secret).promise =
      hexStr (env.hmacSha256 secret (raw.promisePreimage env)) := rfl

/-- The promise checked, by the same preimage. -/
theorem promiseVerified_iff {params : OpeningFeeParams} : PromiseVerified env secret params ↔
    params.promise = hexStr (env.hmacSha256 secret (params.raw.promisePreimage env)) := by
  constructor
  · intro h
    rw [← promise_intoOpeningFeeParams, OpeningFeeParams.raw, h]
  · intro h
    rw [PromiseVerified, RawOpeningFeeParams.intoOpeningFeeParams]
    cases params
    exact congrArg _ h.symm

/-- The preimage determines all fields: those around the date-time have fixed lengths. -/
theorem promisePreimage_inj (hdate : env.DateInjectiveAt raw.validUntil)
    (h : raw'.promisePreimage env = raw.promisePreimage env) : raw' = raw := by
  obtain ⟨minFee, prop, date, life, delay, min, max⟩ := raw
  obtain ⟨minFee', prop', date', life', delay', min', max'⟩ := raw'
  simp only [RawOpeningFeeParams.promisePreimage] at h
  obtain ⟨h, hmax⟩ := List.append_inj' h (by simp)
  obtain ⟨h, hmin⟩ := List.append_inj' h (by simp)
  obtain ⟨h, hdelay⟩ := List.append_inj' h (by simp)
  obtain ⟨h, hlife⟩ := List.append_inj' h (by simp)
  obtain ⟨h, htext⟩ := List.append_inj h (by simp)
  obtain ⟨hfee, hprop⟩ := List.append_inj h (by simp)
  rw [toBeBytes64_injective hfee, toBeBytes32_injective hprop, hdate _ htext,
    toBeBytes32_injective hlife, toBeBytes32_injective hdelay, toBeBytes64_injective hmin,
    toBeBytes64_injective hmax]

/-- Parameters given out are valid until they expire. -/
theorem isValidOpeningFeeParams_intoOpeningFeeParams {now : UInt64}
    (hnow : (now.toNat : ℤ) ≤ raw.validUntil.timestamp) :
    isValidOpeningFeeParams env now (raw.intoOpeningFeeParams env secret) secret = some true :=
  isValidOpeningFeeParams_eq_true.2 ⟨hnow, promiseVerified_iff.2 rfl⟩

/-- A promise that is valid is one for the same fields, under the same secret. -/
theorem eq_of_isValidOpeningFeeParams {now : UInt64} {params : OpeningFeeParams}
    (hdate : env.DateInjectiveAt raw.validUntil)
    (hhmac : env.HmacInjectiveAt secret (raw.promisePreimage env)) (hlen : secret'.length = 32)
    (hpromise : params.promise = (raw.intoOpeningFeeParams env secret).promise)
    (hvalid : isValidOpeningFeeParams env now params secret' = some true) :
    secret' = secret ∧ params.raw = raw := by
  have hverified := promiseVerified_iff.1 (isValidOpeningFeeParams_eq_true.1 hvalid).2
  have heq := hexStr_injective (hverified.symm.trans hpromise)
  obtain ⟨hsecret, hpreimage⟩ := hhmac _ _ hlen heq
  exact ⟨hsecret, promisePreimage_inj hdate hpreimage⟩

/-- **Promises are complete and unforgeable.** Parameters given out, written as JSON and
    read again, are valid until they expire. The bytes a promise is the HMAC of determine
    the parameters, and parameters with their promise are valid under no other secret, and
    with no other fields. -/
theorem promise_complete_unforgeable (env : Externals) (serde : Serde) (raw : RawOpeningFeeParams)
    (secret : List UInt8) :
    (∀ now : UInt64, (now.toNat : ℤ) ≤ raw.validUntil.timestamp → serde.ReadsBack raw.validUntil →
      serde.ReadsBackJson (writeOpeningFeeParams serde (raw.intoOpeningFeeParams env secret)) →
      ∃ text v params,
        serde.writeJson (writeOpeningFeeParams serde (raw.intoOpeningFeeParams env secret)) =
          some text ∧
        serde.parseJson text = some (v, "") ∧ readOpeningFeeParams serde v = some params ∧
        isValidOpeningFeeParams env now params secret = some true) ∧
    (env.DateInjectiveAt raw.validUntil →
      (∀ raw' : RawOpeningFeeParams,
        raw'.promisePreimage env = raw.promisePreimage env → raw' = raw) ∧
      (env.HmacInjectiveAt secret (raw.promisePreimage env) →
        ∀ (now : UInt64) (params : OpeningFeeParams) (secret' : List UInt8),
          secret'.length = 32 →
          params.promise = (raw.intoOpeningFeeParams env secret).promise →
          isValidOpeningFeeParams env now params secret' = some true →
          secret' = secret ∧ params.raw = raw)) := by
  constructor
  · rintro now hnow hdate ⟨text, hwrite, hparse⟩
    exact ⟨text, _, _, hwrite, hparse, readOpeningFeeParams_writeOpeningFeeParams hdate,
      isValidOpeningFeeParams_intoOpeningFeeParams hnow⟩
  · intro hdate
    refine ⟨fun raw' h => promisePreimage_inj hdate h, ?_⟩
    intro hhmac now params secret' hlen hpromise hvalid
    exact eq_of_isValidOpeningFeeParams hdate hhmac hlen hpromise hvalid

/-! ## An offer -/

/-- An offer that expires on 2033-05-18. -/
def sampleOffer : RawOpeningFeeParams where
  minFeeMsat := 100
  proportional := 21
  validUntil := ⟨2000000000, 0⟩
  minLifetime := 144
  maxClientToSelfDelay := 128
  minPaymentSizeMsat := 1
  maxPaymentSizeMsat := 100000000

/-- The secret the offer is made under. -/
def sampleSecret : List UInt8 := List.replicate 32 1

/-- The HMAC of the offer under the secret. -/
def sampleHmac : List UInt8 :=
  [5, 209, 187, 134, 17, 90, 21, 226, 73, 203, 25, 33, 70, 247, 241, 103,
    223, 21, 165, 65, 246, 203, 71, 33, 64, 197, 178, 184, 41, 66, 16, 40]

/-- The text of the date-time of the offer. -/
def sampleOfferDate : Externals where
  hmacSha256 _ _ := []
  toRfc3339 t := if t = sampleOffer.validUntil then "2033-05-18T03:33:20+00:00".toUTF8.toList else []

/-- The HMAC and the date-time of the offer. -/
def sampleOfferExternals : Externals :=
  { sampleOfferDate with
    hmacSha256 := fun k m =>
      if k = sampleSecret ∧ m = sampleOffer.promisePreimage sampleOfferDate then sampleHmac else [] }

/-- The text of the offer, as JSON. -/
def sampleOfferText : String :=
  "\x7b\"min_fee_msat\":\"100\",\"proportional\":21," ++
  "\"valid_until\":\"2033-05-18T03:33:20Z\",\"min_lifetime\":144," ++
  "\"max_client_to_self_delay\":128,\"min_payment_size_msat\":\"1\"," ++
  "\"max_payment_size_msat\":\"100000000\",\"promise\":" ++
  "\"05d1bb86115a15e249cb192146f7f167df15a541f6cb472140c5b2b829421028\"\x7d"

/-- The text of the date-time of the offer, in JSON. -/
def sampleOfferDates : Serde where
  parseJson _ := none
  writeJson _ := none
  parseDateTime text :=
    if text = "2033-05-18T03:33:20Z" then some sampleOffer.validUntil else none
  writeDateTime _ := "2033-05-18T03:33:20Z"

/-- The texts of the offer, and of the date-time in it. -/
def sampleOfferSerde : Serde :=
  let v := writeOpeningFeeParams sampleOfferDates
    (sampleOffer.intoOpeningFeeParams sampleOfferExternals sampleSecret)
  { sampleOfferDates with
    parseJson := fun text => if text = sampleOfferText then some (v, "") else none
    writeJson := fun _ => some sampleOfferText }

theorem hmacInjectiveAt_sampleOffer : sampleOfferExternals.HmacInjectiveAt sampleSecret
    (sampleOffer.promisePreimage sampleOfferExternals) := by
  intro k m _ h
  have hpreimage : sampleOffer.promisePreimage sampleOfferExternals =
    sampleOffer.promisePreimage sampleOfferDate := rfl
  rw [hpreimage] at h ⊢
  simp only [sampleOfferExternals, and_self, if_true] at h
  split at h
  · assumption
  · cases h

/-- The offer is valid a second before it expires, and no other secret or fields have its
    promise. -/
theorem promise_complete_unforgeable_offer :
    (∃ text v params,
      sampleOfferSerde.writeJson (writeOpeningFeeParams sampleOfferSerde
        (sampleOffer.intoOpeningFeeParams sampleOfferExternals sampleSecret)) = some text ∧
      sampleOfferSerde.parseJson text = some (v, "") ∧
      readOpeningFeeParams sampleOfferSerde v = some params ∧
      isValidOpeningFeeParams sampleOfferExternals 1999999999 params sampleSecret = some true) ∧
    sampleSecret = sampleSecret ∧
      (sampleOffer.intoOpeningFeeParams sampleOfferExternals sampleSecret).raw = sampleOffer := by
  have hpromise := promise_complete_unforgeable sampleOfferExternals sampleOfferSerde sampleOffer
    sampleSecret
  constructor
  · refine hpromise.1 1999999999 (by decide) ?_ ⟨sampleOfferText, rfl, ?_⟩
    · simp [Serde.ReadsBack, sampleOfferSerde, sampleOfferDates]
    · simp only [sampleOfferSerde, if_true]
      rfl
  · refine (hpromise.2 fun t h => ?_).2 hmacInjectiveAt_sampleOffer 1999999999 _ sampleSecret
      (by decide) rfl (by decide +kernel)
    simp only [sampleOfferExternals, sampleOfferDate, if_true] at h
    split at h
    · assumption
    · exact absurd (congrArg List.length h) (by decide +kernel)

end LightningLiquidity
