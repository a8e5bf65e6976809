import LightningLiquidity.Lib.Json
import LightningLiquidity.Lsps2.Msgs

/-!
# LSPS2 messages in JSON

How the parameters and results of LSPS2 are written and read. Amounts are
written as decimal strings, date-times as texts.

The texts of JSON values and date-times are those of the functions the code uses
from other crates (`Serde`).
-/

namespace LightningLiquidity

/-- The functions of `serde_json` and `chrono` the code reads and writes texts with. -/
structure Serde where
  /-- The value a text starts with, and what follows it. -/
  parseJson : String → Option (Json × String)
  /-- The text of a value. -/
  writeJson : Json → Option String
  /-- The date-time of a text. -/
  parseDateTime : String → Option DateTime
  /-- The text of a date-time. -/
  writeDateTime : DateTime → String

/-! ## Amounts and date-times -/

/-- Reads an amount from a string. -/
def readStringAmount (v : Json) : Option UInt64 := v.asString.bind fun s => parseU64 s.toList

/-- Writes an amount as a string. -/
def writeStringAmount (x : UInt64) : Json := .ofString (toString x.toNat)

/-- Reads a date-time from a string. -/
def readDateTime (serde : Serde) (v : Json) : Option DateTime := v.asString.bind serde.parseDateTime

/-- Writes a date-time as a string. -/
def writeDateTime (serde : Serde) (t : DateTime) : Json := .ofString (serde.writeDateTime t)

/-! ## Requests and responses -/

/-- Reads the parameters of a `get_info` request. -/
def readGetInfoRequest (v : Json) : Option GetInfoRequest :=
  if v.isRecord 1 then do
    let token ← v.optional 0 "token" Json.asString
    return { token }
  else none

def writeGetInfoRequest (params : GetInfoRequest) : Json :=
  .ofMembers [("token", .ofOption .ofString params.token)]

/-- Reads opening fee parameters. -/
def readOpeningFeeParams (serde : Serde) (v : Json) : Option OpeningFeeParams :=
  if v.isRecord 8 then do
    let minFeeMsat ← v.required 0 "min_fee_msat" readStringAmount
    let proportional ← v.required 1 "proportional" Json.asUInt32
    let validUntil ← v.required 2 "valid_until" (readDateTime serde)
    let minLifetime ← v.required 3 "min_lifetime" Json.asUInt32
    let maxClientToSelfDelay ← v.required 4 "max_client_to_self_delay" Json.asUInt32
    let minPaymentSizeMsat ← v.required 5 "min_payment_size_msat" readStringAmount
    let maxPaymentSizeMsat ← v.required 6 "max_payment_size_msat" readStringAmount
    let promise ← v.required 7 "promise" Json.asString
    return { minFeeMsat, proportional, validUntil, minLifetime, maxClientToSelfDelay,
             minPaymentSizeMsat, maxPaymentSizeMsat, promise }
  else none

def writeOpeningFeeParams (serde : Serde) (params : OpeningFeeParams) : Json :=
  .ofMembers
    [("min_fee_msat", writeStringAmount params.minFeeMsat),
     ("proportional", .ofNat params.proportional.toNat),
     ("valid_until", writeDateTime serde params.validUntil),
     ("min_lifetime", .ofNat params.minLifetime.toNat),
     ("max_client_to_self_delay", .ofNat params.maxClientToSelfDelay.toNat),
     ("min_payment_size_msat", writeStringAmount params.minPaymentSizeMsat),
     ("max_payment_size_msat", writeStringAmount params.maxPaymentSizeMsat),
     ("promise", .ofString params.promise)]

/-- Reads the result of a `get_info` request. -/
def readGetInfoResponse (serde : Serde) (v : Json) : Option GetInfoResponse :=
  if v.isRecord 1 then do
    let openingFeeParamsMenu ←
      v.required 0 "opening_fee_params_menu" (Json.asList (readOpeningFeeParams serde))
    return { openingFeeParamsMenu }
  else none

def writeGetInfoResponse (serde : Serde) (result : GetInfoResponse) : Json :=
  .ofMembers [("opening_fee_params_menu",
    .array (result.openingFeeParamsMenu.map (writeOpeningFeeParams serde)))]

/-- Reads the parameters of a `buy` request. The payment size may be left out. -/
def readBuyRequest (serde : Serde) (v : Json) : Option BuyRequest :=
  if v.isRecord 2 then do
    let openingFeeParams ← v.required 0 "opening_fee_params" (readOpeningFeeParams serde)
    let paymentSizeMsat ← v.defaulted 1 "payment_size_msat" (Json.asOption readStringAmount) none
    return { openingFeeParams, paymentSizeMsat }
  else none

def writeBuyRequest (serde : Serde) (params : BuyRequest) : Json :=
  .ofMembers <|
    ("opening_fee_params", writeOpeningFeeParams serde params.openingFeeParams) ::
      (params.paymentSizeMsat.map fun size => ("payment_size_msat", writeStringAmount size)).toList

/-- Reads the result of a `buy` request. Who trusts whom may be left out. -/
def readBuyResponse (v : Json) : Option BuyResponse :=
  if v.isRecord 3 then do
    let interceptScid ← v.required 0 "intercept_scid" Json.asString
    let lspCltvExpiryDelta ← v.required 1 "lsp_cltv_expiry_delta" Json.asUInt32
    let clientTrustsLsp ← v.defaulted 2 "client_trusts_lsp" Json.asBool false
    return { interceptScid := ⟨interceptScid⟩, lspCltvExpiryDelta, clientTrustsLsp }
  else none

def writeBuyResponse (result : BuyResponse) : Json :=
  .ofMembers
    [("intercept_scid", .ofString result.interceptScid.scid),
     ("lsp_cltv_expiry_delta", .ofNat result.lspCltvExpiryDelta.toNat),
     ("client_trusts_lsp", .bool result.clientTrustsLsp)]

/-! ## What is written is read back -/

/-- A JSON value is written as a text that is read back. -/
def Serde.ReadsBackJson (serde : Serde) (v : Json) : Prop :=
  ∃ text, serde.writeJson v = some text ∧ serde.parseJson text = some (v, "")

/-- The text of a date-time is read back. -/
def Serde.ReadsBack (serde : Serde) (t : DateTime) : Prop :=
  serde.parseDateTime (serde.writeDateTime t) = some t

@[simp] theorem readStringAmount_writeStringAmount (x : UInt64) :
    readStringAmount (writeStringAmount x) = some x := by
  have hdigits : (toString x.toNat).toList = Nat.toDigits 10 x.toNat := Nat.toList_repr
  rw [readStringAmount, writeStringAmount, Json.asString_ofString, Option.bind_some, hdigits,
    parseU64_toDigits]

theorem readDateTime_writeDateTime {serde : Serde} {t : DateTime} (h : serde.ReadsBack t) :
    readDateTime serde (writeDateTime serde t) = some t := by
  rw [readDateTime, writeDateTime, Json.asString_ofString, Option.bind_some, h]

theorem readGetInfoRequest_writeGetInfoRequest (params : GetInfoRequest) :
    readGetInfoRequest (writeGetInfoRequest params) = some params := by
  rw [readGetInfoRequest, writeGetInfoRequest, if_pos (Json.isRecord_ofMembers ..)]
  simp [Json.optional_ofMembers]

theorem readOpeningFeeParams_writeOpeningFeeParams {serde : Serde} {params : OpeningFeeParams}
    (h : serde.ReadsBack params.validUntil) :
    readOpeningFeeParams serde (writeOpeningFeeParams serde params) = some params := by
  rw [readOpeningFeeParams, writeOpeningFeeParams, if_pos (Json.isRecord_ofMembers ..)]
  simp [Json.required_ofMembers, readDateTime_writeDateTime h]

theorem readGetInfoResponse_writeGetInfoResponse {serde : Serde} {result : GetInfoResponse}
    (h : ∀ params ∈ result.openingFeeParamsMenu, serde.ReadsBack params.validUntil) :
    readGetInfoResponse serde (writeGetInfoResponse serde result) = some result := by
  have hmenu := Json.asList_array fun params hmem =>
    readOpeningFeeParams_writeOpeningFeeParams (h params hmem)
  rw [readGetInfoResponse, writeGetInfoResponse, if_pos (Json.isRecord_ofMembers ..)]
  simp [Json.required_ofMembers, hmenu]

theorem asOption_writeStringAmount (x : UInt64) :
    (writeStringAmount x).asOption readStringAmount = some (some x) := by
  rw [← Option.map_some, ← readStringAmount_writeStringAmount x]
  rfl

theorem readBuyRequest_writeBuyRequest {serde : Serde} {params : BuyRequest}
    (h : serde.ReadsBack params.openingFeeParams.validUntil) :
    readBuyRequest serde (writeBuyRequest serde params) = some params := by
  have hparams := readOpeningFeeParams_writeOpeningFeeParams h
  rw [readBuyRequest, writeBuyRequest, if_pos (Json.isRecord_ofMembers ..)]
  obtain ⟨openingFeeParams, _ | size⟩ := params
  -- A payment size that is absent is left out, and is absent by default.
  · simp [Json.required_ofMembers, Json.defaulted_ofMembers_of_not_mem, hparams]
  · simp [Json.required_ofMembers, Json.defaulted_ofMembers, hparams, asOption_writeStringAmount]

theorem readBuyResponse_writeBuyResponse (result : BuyResponse) :
    readBuyResponse (writeBuyResponse result) = some result := by
  rw [readBuyResponse, writeBuyResponse, if_pos (Json.isRecord_ofMembers ..)]
  simp [Json.required_ofMembers, Json.defaulted_ofMembers, Json.asBool]

end LightningLiquidity
