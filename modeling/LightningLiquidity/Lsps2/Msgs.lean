import LightningLiquidity.Lsps0.Msgs
import LightningLiquidity.Utils

/-!
# LSPS2 messages

The requests and responses of LSPS2, with the opening fee parameters they carry
and the promise by which the service recognises parameters it gave out.
-/

namespace LightningLiquidity

/-- The method name of a `get_info` request. -/
def lsps2GetInfoMethodName : String := "lsps2.get_info"

/-- The method name of a `buy` request. -/
def lsps2BuyMethodName : String := "lsps2.buy"

/-- `LSPS2_GET_INFO_REQUEST_UNRECOGNIZED_OR_STALE_TOKEN_ERROR_CODE`. -/
def unrecognizedOrStaleTokenErrorCode : Int32 := 2

/-- `LSPS2_BUY_REQUEST_INVALID_OPENING_FEE_PARAMS_ERROR_CODE`. -/
def invalidOpeningFeeParamsErrorCode : Int32 := 2

/-- `LSPS2_BUY_REQUEST_PAYMENT_SIZE_TOO_SMALL_ERROR_CODE`. -/
def paymentSizeTooSmallErrorCode : Int32 := 3

/-- `LSPS2_BUY_REQUEST_PAYMENT_SIZE_TOO_LARGE_ERROR_CODE`. -/
def paymentSizeTooLargeErrorCode : Int32 := 4

/-- A request to learn the channel fees and parameters of a service. -/
structure GetInfoRequest where
  token : Option String
  deriving DecidableEq, Repr

/-- Fees and parameters for a JIT channel, with the promise that the service
    gave them out. -/
structure OpeningFeeParams where
  minFeeMsat : UInt64
  proportional : UInt32
  validUntil : DateTime
  minLifetime : UInt32
  maxClientToSelfDelay : UInt32
  minPaymentSizeMsat : UInt64
  maxPaymentSizeMsat : UInt64
  promise : String
  deriving DecidableEq, Repr

/-- Fees and parameters for a JIT channel, without the promise. -/
structure RawOpeningFeeParams where
  minFeeMsat : UInt64
  proportional : UInt32
  validUntil : DateTime
  minLifetime : UInt32
  maxClientToSelfDelay : UInt32
  minPaymentSizeMsat : UInt64
  maxPaymentSizeMsat : UInt64
  deriving DecidableEq, Repr

/-- The parameters with their promise: the HMAC of all of them under the secret
    of the service. -/
def RawOpeningFeeParams.intoOpeningFeeParams (env : Externals) (raw : RawOpeningFeeParams)
    (promiseSecret : List UInt8) : OpeningFeeParams :=
  let promiseBytes := env.hmacSha256 promiseSecret <|
    toBeBytes64 raw.minFeeMsat ++
    toBeBytes32 raw.proportional ++
    env.toRfc3339 raw.validUntil ++
    toBeBytes32 raw.minLifetime ++
    toBeBytes32 raw.maxClientToSelfDelay ++
    toBeBytes64 raw.minPaymentSizeMsat ++
    toBeBytes64 raw.maxPaymentSizeMsat
  { minFeeMsat := raw.minFeeMsat
    proportional := raw.proportional
    validUntil := raw.validUntil
    minLifetime := raw.minLifetime
    maxClientToSelfDelay := raw.maxClientToSelfDelay
    minPaymentSizeMsat := raw.minPaymentSizeMsat
    maxPaymentSizeMsat := raw.maxPaymentSizeMsat
    promise := hexStr promiseBytes }

/-- A response to a `get_info` request. -/
structure GetInfoResponse where
  openingFeeParamsMenu : List OpeningFeeParams
  deriving DecidableEq, Repr

/-- A request to buy a JIT channel. -/
structure BuyRequest where
  openingFeeParams : OpeningFeeParams
  paymentSizeMsat : Option UInt64
  deriving DecidableEq, Repr

/-- A short channel id in its human readable format. -/
structure InterceptScid where
  scid : String
  deriving DecidableEq, Repr

/-- A short channel id written in its human readable format. -/
def InterceptScid.ofScid (scid : Scid) : InterceptScid :=
  ⟨toString (blockFromScid scid).toNat ++ "x" ++ toString (txIndexFromScid scid).toNat ++ "x" ++
    toString (voutFromScid scid).toNat⟩

/-- The 64-bit integer of a human readable short channel id. -/
def InterceptScid.toScid (s : InterceptScid) : Option Scid := scidFromHumanReadableString s.scid

theorem toList_ofScid (scid : Scid) : (InterceptScid.ofScid scid).scid.toList =
    Nat.toDigits 10 (blockFromScid scid).toNat ++ 'x' ::
      (Nat.toDigits 10 (txIndexFromScid scid).toNat ++ 'x' ::
        Nat.toDigits 10 (voutFromScid scid).toNat) := by
  have hdigits (n : ℕ) : (toString n).toList = Nat.toDigits 10 n := Nat.toList_repr
  simp only [InterceptScid.ofScid, String.toList_append, hdigits, List.append_assoc]
  rfl

/-- A short channel id that is written is read back. -/
theorem InterceptScid.toScid_ofScid (scid : Scid) : (ofScid scid).toScid = some scid := by
  have hx (n : ℕ) : 'x' ∉ Nat.toDigits 10 n := by
    intro h
    exact absurd (Nat.isDigit_of_mem_toDigits (by decide) (by decide) h) (by decide)
  have hparse (n : ℕ) (x : UInt64) (h : x.toNat = n) : parseU64 (Nat.toDigits 10 n) = some x := by
    rw [← h, parseU64_toDigits]
  have hblock := hparse _ (blockFromScid scid).toUInt64 (UInt32.toNat_toUInt64 _)
  have htx := hparse _ (txIndexFromScid scid).toUInt64 (UInt32.toNat_toUInt64 _)
  have hvout := hparse _ (voutFromScid scid).toUInt64 (UInt16.toNat_toUInt64 _)
  rw [toScid, scidFromHumanReadableString, toList_ofScid,
    List.splitOn_append_cons_self_of_not_mem (hx _), List.splitOn_append_cons_self_of_not_mem (hx _),
    List.splitOn_eq_singleton (hx _)]
  simp only [hblock, htx, hvout, Option.bind_eq_bind, Option.bind_some]
  exact congrArg some (scid_eq_parts scid)

/-- A response to a `buy` request. -/
structure BuyResponse where
  interceptScid : InterceptScid
  lspCltvExpiryDelta : UInt32
  clientTrustsLsp : Bool
  deriving DecidableEq, Repr

/-- The requests of LSPS2. -/
inductive LSPS2Request
  | getInfo (params : GetInfoRequest)
  | buy (params : BuyRequest)
  deriving DecidableEq, Repr

/-- The responses of LSPS2. -/
inductive LSPS2Response
  | getInfo (result : GetInfoResponse)
  | getInfoError (error : ResponseError)
  | buy (result : BuyResponse)
  | buyError (error : ResponseError)
  deriving DecidableEq, Repr

/-- The messages of LSPS2. -/
inductive LSPS2Message
  | request (requestId : RequestId) (request : LSPS2Request)
  | response (requestId : RequestId) (response : LSPS2Response)
  deriving DecidableEq, Repr

end LightningLiquidity
