import LightningLiquidity.Lsps1.Msgs
import LightningLiquidity.Lsps2.Ser

/-!
# LSPS1 messages in JSON

How the parameters and results of LSPS1 are written and read. Amounts are written as decimal
strings, smaller numbers as numbers; date-times, addresses and invoices as texts.

A field that may be absent is written as `null` if it is, and may be left out of an object it is
read from. Only the least on-chain payment has to be there, being read by a function of its own.
-/

namespace LightningLiquidity.Lsps1

/-- `LSPS1_GET_INFO_METHOD_NAME`. -/
def lsps1GetInfoMethodName : String := "lsps1.get_info"

/-- `LSPS1_CREATE_ORDER_METHOD_NAME`. -/
def lsps1CreateOrderMethodName : String := "lsps1.create_order"

/-- `LSPS1_GET_ORDER_METHOD_NAME`. -/
def lsps1GetOrderMethodName : String := "lsps1.get_order"

/-- The functions the code reads and writes texts with, also those of `bitcoin` and
    `lightning_invoice`. -/
structure Serde extends LightningLiquidity.Serde where
  /-- The address of a text. -/
  parseAddress : String → Option Address
  /-- The text of an address. -/
  writeAddress : Address → String
  /-- The invoice of a text. -/
  parseInvoice : String → Option Bolt11Invoice
  /-- The text of an invoice. -/
  writeInvoice : Bolt11Invoice → String

/-! ## Texts and states -/

/-- Reads an address from a string. -/
def readAddress (serde : Serde) (v : Json) : Option Address := v.asString.bind serde.parseAddress

/-- Writes an address as a string. -/
def writeAddress (serde : Serde) (a : Address) : Json := .ofString (serde.writeAddress a)

/-- Reads an invoice from a string. -/
def readInvoice (serde : Serde) (v : Json) : Option Bolt11Invoice :=
  v.asString.bind serde.parseInvoice

/-- Writes an invoice as a string. -/
def writeInvoice (serde : Serde) (i : Bolt11Invoice) : Json := .ofString (serde.writeInvoice i)

/-- Reads the id of an order. -/
def readOrderId (v : Json) : Option OrderId := v.asString.map OrderId.mk

/-- The state of an order of a name. -/
def OrderState.ofName : String → Option OrderState
  | "Created" => some created
  | "Completed" => some completed
  | "Failed" => some failed
  | _ => none

/-- The name of the state of an order. -/
def OrderState.name : OrderState → String
  | created => "Created"
  | completed => "Completed"
  | failed => "Failed"

/-- The state of a payment of a name. -/
def PaymentState.ofName : String → Option PaymentState
  | "ExpectPayment" => some expectPayment
  | "Hold" => some hold
  | "Paid" => some paid
  | "Refunded" => some refunded
  | _ => none

/-- The name of the state of a payment. -/
def PaymentState.name : PaymentState → String
  | expectPayment => "ExpectPayment"
  | hold => "Hold"
  | paid => "Paid"
  | refunded => "Refunded"

@[simp] theorem OrderState.ofName_name (state : OrderState) : ofName state.name = some state := by
  cases state <;> rfl

@[simp] theorem PaymentState.ofName_name (state : PaymentState) :
    ofName state.name = some state := by
  cases state <;> rfl

/-! ## Requests and responses -/

/-- Reads the parameters of a `get_info` request. They have no fields. -/
def readGetInfoRequest (v : Json) : Option GetInfoRequest := if v.isRecord 0 then some {} else none

def writeGetInfoRequest (_ : GetInfoRequest) : Json := .ofMembers []

/-- Reads the options of a service. -/
def readOptionsSupported (v : Json) : Option OptionsSupported :=
  if v.isRecord 11 then do
    let minChannelConfirmations ← v.required 0 "min_channel_confirmations" Json.asUInt8
    let minOnchainPaymentConfirmations ←
      v.optional 1 "min_onchain_payment_confirmations" Json.asUInt8
    let supportsZeroChannelReserve ← v.required 2 "supports_zero_channel_reserve" Json.asBool
    let minOnchainPaymentSizeSat ←
      v.required 3 "min_onchain_payment_size_sat" (Json.asOption readStringAmount)
    let maxChannelExpiryBlocks ← v.required 4 "max_channel_expiry_blocks" Json.asUInt32
    let minInitialClientBalanceSat ← v.required 5 "min_initial_client_balance_sat" readStringAmount
    let maxInitialClientBalanceSat ← v.required 6 "max_initial_client_balance_sat" readStringAmount
    let minInitialLspBalanceSat ← v.required 7 "min_initial_lsp_balance_sat" readStringAmount
    let maxInitialLspBalanceSat ← v.required 8 "max_initial_lsp_balance_sat" readStringAmount
    let minChannelBalanceSat ← v.required 9 "min_channel_balance_sat" readStringAmount
    let maxChannelBalanceSat ← v.required 10 "max_channel_balance_sat" readStringAmount
    return { minChannelConfirmations, minOnchainPaymentConfirmations, supportsZeroChannelReserve,
             minOnchainPaymentSizeSat, maxChannelExpiryBlocks, minInitialClientBalanceSat,
             maxInitialClientBalanceSat, minInitialLspBalanceSat, maxInitialLspBalanceSat,
             minChannelBalanceSat, maxChannelBalanceSat }
  else none

def writeOptionsSupported (options : OptionsSupported) : Json :=
  .ofMembers
    [("min_channel_confirmations", .ofNat options.minChannelConfirmations.toNat),
     ("min_onchain_payment_confirmations",
      .ofOption (fun n => .ofNat n.toNat) options.minOnchainPaymentConfirmations),
     ("supports_zero_channel_reserve", .bool options.supportsZeroChannelReserve),
     ("min_onchain_payment_size_sat", .ofOption writeStringAmount options.minOnchainPaymentSizeSat),
     ("max_channel_expiry_blocks", .ofNat options.maxChannelExpiryBlocks.toNat),
     ("min_initial_client_balance_sat", writeStringAmount options.minInitialClientBalanceSat),
     ("max_initial_client_balance_sat", writeStringAmount options.maxInitialClientBalanceSat),
     ("min_initial_lsp_balance_sat", writeStringAmount options.minInitialLspBalanceSat),
     ("max_initial_lsp_balance_sat", writeStringAmount options.maxInitialLspBalanceSat),
     ("min_channel_balance_sat", writeStringAmount options.minChannelBalanceSat),
     ("max_channel_balance_sat", writeStringAmount options.maxChannelBalanceSat)]

/-- Reads the result of a `get_info` request. -/
def readGetInfoResponse (v : Json) : Option GetInfoResponse :=
  if v.isRecord 2 then do
    let website ← v.required 0 "website" Json.asString
    let options ← v.required 1 "options" readOptionsSupported
    return { website, options }
  else none

def writeGetInfoResponse (result : GetInfoResponse) : Json :=
  .ofMembers
    [("website", .ofString result.website), ("options", writeOptionsSupported result.options)]

/-- Reads the parameters of an order. -/
def readOrderParams (serde : Serde) (v : Json) : Option OrderParams :=
  if v.isRecord 7 then do
    let lspBalanceSat ← v.required 0 "lsp_balance_sat" readStringAmount
    let clientBalanceSat ← v.required 1 "client_balance_sat" readStringAmount
    let confirmsWithinBlocks ← v.required 2 "confirms_within_blocks" Json.asUInt32
    let channelExpiryBlocks ← v.required 3 "channel_expiry_blocks" Json.asUInt32
    let token ← v.required 4 "token" Json.asString
    let refundOnchainAddress ← v.optional 5 "refund_onchain_address" (readAddress serde)
    let announceChannel ← v.required 6 "announce_channel" Json.asBool
    return { lspBalanceSat, clientBalanceSat, confirmsWithinBlocks, channelExpiryBlocks, token,
             refundOnchainAddress, announceChannel }
  else none

def writeOrderParams (serde : Serde) (order : OrderParams) : Json :=
  .ofMembers
    [("lsp_balance_sat", writeStringAmount order.lspBalanceSat),
     ("client_balance_sat", writeStringAmount order.clientBalanceSat),
     ("confirms_within_blocks", .ofNat order.confirmsWithinBlocks.toNat),
     ("channel_expiry_blocks", .ofNat order.channelExpiryBlocks.toNat),
     ("token", .ofString order.token),
     ("refund_onchain_address", .ofOption (writeAddress serde) order.refundOnchainAddress),
     ("announce_channel", .bool order.announceChannel)]

/-- Reads the parameters of a `create_order` request. -/
def readCreateOrderRequest (serde : Serde) (v : Json) : Option CreateOrderRequest :=
  if v.isRecord 1 then do
    let order ← v.required 0 "order" (readOrderParams serde)
    return { order }
  else none

def writeCreateOrderRequest (serde : Serde) (params : CreateOrderRequest) : Json :=
  .ofMembers [("order", writeOrderParams serde params.order)]

/-- Reads an on-chain payment. -/
def readOnchainPayment (v : Json) : Option OnchainPayment :=
  if v.isRecord 3 then do
    let outpoint ← v.required 0 "outpoint" Json.asString
    let sat ← v.required 1 "sat" readStringAmount
    let confirmed ← v.required 2 "confirmed" Json.asBool
    return { outpoint, sat, confirmed }
  else none

def writeOnchainPayment (payment : OnchainPayment) : Json :=
  .ofMembers
    [("outpoint", .ofString payment.outpoint),
     ("sat", writeStringAmount payment.sat),
     ("confirmed", .bool payment.confirmed)]

/-- Reads how to pay for an order. -/
def readOrderPayment (serde : Serde) (v : Json) : Option OrderPayment :=
  if v.isRecord 8 then do
    let state ← v.required 0 "state" (Json.asVariant PaymentState.ofName)
    let feeTotalSat ← v.required 1 "fee_total_sat" readStringAmount
    let orderTotalSat ← v.required 2 "order_total_sat" readStringAmount
    let bolt11Invoice ← v.required 3 "bolt11_invoice" (readInvoice serde)
    let onchainAddress ← v.required 4 "onchain_address" (readAddress serde)
    let minOnchainPaymentConfirmations ←
      v.optional 5 "min_onchain_payment_confirmations" Json.asUInt8
    let minFeeFor0conf ← v.required 6 "min_fee_for_0conf" Json.asUInt8
    let onchainPayment ← v.required 7 "onchain_payment" readOnchainPayment
    return { state, feeTotalSat, orderTotalSat, bolt11Invoice, onchainAddress,
             minOnchainPaymentConfirmations, minFeeFor0conf, onchainPayment }
  else none

def writeOrderPayment (serde : Serde) (payment : OrderPayment) : Json :=
  .ofMembers
    [("state", .ofString payment.state.name),
     ("fee_total_sat", writeStringAmount payment.feeTotalSat),
     ("order_total_sat", writeStringAmount payment.orderTotalSat),
     ("bolt11_invoice", writeInvoice serde payment.bolt11Invoice),
     ("onchain_address", writeAddress serde payment.onchainAddress),
     ("min_onchain_payment_confirmations",
      .ofOption (fun n => .ofNat n.toNat) payment.minOnchainPaymentConfirmations),
     ("min_fee_for_0conf", .ofNat payment.minFeeFor0conf.toNat),
     ("onchain_payment", writeOnchainPayment payment.onchainPayment)]

/-- Reads the state of an ordered channel. -/
def readChannelInfo (v : Json) : Option ChannelInfo :=
  if v.isRecord 3 then do
    let fundedAt ← v.required 0 "funded_at" Json.asString
    let fundingOutpoint ← v.required 1 "funding_outpoint" Json.asString
    let expiresAt ← v.required 2 "expires_at" Json.asString
    return { fundedAt, fundingOutpoint, expiresAt }
  else none

def writeChannelInfo (channel : ChannelInfo) : Json :=
  .ofMembers
    [("funded_at", .ofString channel.fundedAt),
     ("funding_outpoint", .ofString channel.fundingOutpoint),
     ("expires_at", .ofString channel.expiresAt)]

/-- Reads the result of a `create_order` or `get_order` request. -/
def readCreateOrderResponse (serde : Serde) (v : Json) : Option CreateOrderResponse :=
  if v.isRecord 7 then do
    let orderId ← v.required 0 "order_id" readOrderId
    let order ← v.required 1 "order" (readOrderParams serde)
    let createdAt ← v.required 2 "created_at" (readDateTime serde.toSerde)
    let expiresAt ← v.required 3 "expires_at" (readDateTime serde.toSerde)
    let orderState ← v.required 4 "order_state" (Json.asVariant OrderState.ofName)
    let payment ← v.required 5 "payment" (readOrderPayment serde)
    let channel ← v.optional 6 "channel" readChannelInfo
    return { orderId, order, createdAt, expiresAt, orderState, payment, channel }
  else none

def writeCreateOrderResponse (serde : Serde) (result : CreateOrderResponse) : Json :=
  .ofMembers
    [("order_id", .ofString result.orderId.id),
     ("order", writeOrderParams serde result.order),
     ("created_at", writeDateTime serde.toSerde result.createdAt),
     ("expires_at", writeDateTime serde.toSerde result.expiresAt),
     ("order_state", .ofString result.orderState.name),
     ("payment", writeOrderPayment serde result.payment),
     ("channel", .ofOption writeChannelInfo result.channel)]

/-- Reads the parameters of a `get_order` request. -/
def readGetOrderRequest (v : Json) : Option GetOrderRequest :=
  if v.isRecord 1 then do
    let orderId ← v.required 0 "order_id" readOrderId
    return { orderId }
  else none

def writeGetOrderRequest (params : GetOrderRequest) : Json :=
  .ofMembers [("order_id", .ofString params.orderId.id)]

/-! ## What is written is read back -/

/-- The text of an address is read back. -/
def Serde.ReadsBackAddress (serde : Serde) (a : Address) : Prop :=
  serde.parseAddress (serde.writeAddress a) = some a

/-- The text of an invoice is read back. -/
def Serde.ReadsBackInvoice (serde : Serde) (i : Bolt11Invoice) : Prop :=
  serde.parseInvoice (serde.writeInvoice i) = some i

variable {serde : Serde}

theorem readAddress_writeAddress {a : Address} (h : serde.ReadsBackAddress a) :
    readAddress serde (writeAddress serde a) = some a := by
  rw [readAddress, writeAddress, Json.asString_ofString, Option.bind_some, h]

theorem readInvoice_writeInvoice {i : Bolt11Invoice} (h : serde.ReadsBackInvoice i) :
    readInvoice serde (writeInvoice serde i) = some i := by
  rw [readInvoice, writeInvoice, Json.asString_ofString, Option.bind_some, h]

@[simp] theorem readOrderId_ofString (orderId : OrderId) :
    readOrderId (.ofString orderId.id) = some orderId := rfl

@[simp] theorem asOption_writeUInt8 (o : Option UInt8) :
    (Json.ofOption (fun n => .ofNat n.toNat) o).asOption Json.asUInt8 = some o :=
  Json.asOption_ofOption (fun n _ => Json.asUInt8_ofNat n) rfl

@[simp] theorem asOption_writeStringAmount_ofOption (o : Option UInt64) :
    (Json.ofOption writeStringAmount o).asOption readStringAmount = some o :=
  Json.asOption_ofOption (fun x _ => readStringAmount_writeStringAmount x) rfl

@[simp] theorem readOptionsSupported_writeOptionsSupported (options : OptionsSupported) :
    readOptionsSupported (writeOptionsSupported options) = some options := by
  rw [readOptionsSupported, writeOptionsSupported, if_pos (Json.isRecord_ofMembers ..)]
  simp [Json.required_ofMembers, Json.optional_ofMembers, Json.asBool]

theorem readGetInfoResponse_writeGetInfoResponse (result : GetInfoResponse) :
    readGetInfoResponse (writeGetInfoResponse result) = some result := by
  rw [readGetInfoResponse, writeGetInfoResponse, if_pos (Json.isRecord_ofMembers ..)]
  simp [Json.required_ofMembers]

theorem readOrderParams_writeOrderParams {order : OrderParams}
    (h : ∀ a ∈ order.refundOnchainAddress, serde.ReadsBackAddress a) :
    readOrderParams serde (writeOrderParams serde order) = some order := by
  have haddress := Json.asOption_ofOption (fun a ha => readAddress_writeAddress (h a ha)) rfl
  rw [readOrderParams, writeOrderParams, if_pos (Json.isRecord_ofMembers ..)]
  simp [Json.required_ofMembers, Json.optional_ofMembers, Json.asBool, haddress]

theorem readCreateOrderRequest_writeCreateOrderRequest {params : CreateOrderRequest}
    (h : ∀ a ∈ params.order.refundOnchainAddress, serde.ReadsBackAddress a) :
    readCreateOrderRequest serde (writeCreateOrderRequest serde params) = some params := by
  rw [readCreateOrderRequest, writeCreateOrderRequest, if_pos (Json.isRecord_ofMembers ..)]
  simp [Json.required_ofMembers, readOrderParams_writeOrderParams h]

@[simp] theorem readOnchainPayment_writeOnchainPayment (payment : OnchainPayment) :
    readOnchainPayment (writeOnchainPayment payment) = some payment := by
  rw [readOnchainPayment, writeOnchainPayment, if_pos (Json.isRecord_ofMembers ..)]
  simp [Json.required_ofMembers, Json.asBool]

theorem readOrderPayment_writeOrderPayment {payment : OrderPayment}
    (hinvoice : serde.ReadsBackInvoice payment.bolt11Invoice)
    (haddress : serde.ReadsBackAddress payment.onchainAddress) :
    readOrderPayment serde (writeOrderPayment serde payment) = some payment := by
  rw [readOrderPayment, writeOrderPayment, if_pos (Json.isRecord_ofMembers ..)]
  simp [Json.required_ofMembers, Json.optional_ofMembers, readInvoice_writeInvoice hinvoice,
    readAddress_writeAddress haddress]

theorem readChannelInfo_writeChannelInfo (channel : ChannelInfo) :
    readChannelInfo (writeChannelInfo channel) = some channel := by
  rw [readChannelInfo, writeChannelInfo, if_pos (Json.isRecord_ofMembers ..)]
  simp [Json.required_ofMembers]

/-- The texts of an order are read back: those of its date-times, addresses and invoice. -/
structure Serde.ReadsBackOrder (serde : Serde) (result : CreateOrderResponse) : Prop where
  refund : ∀ a ∈ result.order.refundOnchainAddress, serde.ReadsBackAddress a
  createdAt : serde.toSerde.ReadsBack result.createdAt
  expiresAt : serde.toSerde.ReadsBack result.expiresAt
  invoice : serde.ReadsBackInvoice result.payment.bolt11Invoice
  address : serde.ReadsBackAddress result.payment.onchainAddress

theorem readCreateOrderResponse_writeCreateOrderResponse {result : CreateOrderResponse}
    (h : serde.ReadsBackOrder result) :
    readCreateOrderResponse serde (writeCreateOrderResponse serde result) = some result := by
  have horder := readOrderParams_writeOrderParams h.refund
  have hpayment := readOrderPayment_writeOrderPayment h.invoice h.address
  have hchannel : (Json.ofOption writeChannelInfo result.channel).asOption readChannelInfo =
      some result.channel :=
    Json.asOption_ofOption (fun c _ => readChannelInfo_writeChannelInfo c) rfl
  rw [readCreateOrderResponse, writeCreateOrderResponse, if_pos (Json.isRecord_ofMembers ..)]
  simp [Json.required_ofMembers, Json.optional_ofMembers, horder, hpayment, hchannel,
    readDateTime_writeDateTime h.createdAt, readDateTime_writeDateTime h.expiresAt]

theorem readGetOrderRequest_writeGetOrderRequest (params : GetOrderRequest) :
    readGetOrderRequest (writeGetOrderRequest params) = some params := by
  rw [readGetOrderRequest, writeGetOrderRequest, if_pos (Json.isRecord_ofMembers ..)]
  simp [Json.required_ofMembers]

end LightningLiquidity.Lsps1
