import LightningLiquidity.Lsps0.Msgs

/-!
# LSPS1 messages

The requests and responses of LSPS1, by which a client orders a channel: the options a service
supports, the parameters of an order, and how to pay for it. Invoices and addresses are only
passed on.

All of LSPS1 is built only if asked for. Its names are those of other protocols, too, and live
in a namespace of their own.
-/

namespace LightningLiquidity.Lsps1

/-- `LSPS1_CREATE_ORDER_REQUEST_ORDER_MISMATCH_ERROR_CODE`. -/
def orderMismatchErrorCode : Int32 := 1000

/-- An on-chain address. -/
structure Address where
  text : String
  deriving DecidableEq, Repr

/-- A BOLT11 invoice. -/
structure Bolt11Invoice where
  text : String
  deriving DecidableEq, Repr

/-- The identifier of an order. -/
structure OrderId where
  id : String
  deriving DecidableEq, Repr

/-- A request to learn the options a service supports. -/
structure GetInfoRequest where
  deriving DecidableEq, Repr

/-- The options a service supports. -/
structure OptionsSupported where
  minChannelConfirmations : UInt8
  minOnchainPaymentConfirmations : Option UInt8
  supportsZeroChannelReserve : Bool
  minOnchainPaymentSizeSat : Option UInt64
  maxChannelExpiryBlocks : UInt32
  minInitialClientBalanceSat : UInt64
  maxInitialClientBalanceSat : UInt64
  minInitialLspBalanceSat : UInt64
  maxInitialLspBalanceSat : UInt64
  minChannelBalanceSat : UInt64
  maxChannelBalanceSat : UInt64
  deriving DecidableEq, Repr

/-- A value as `Debug` writes an option of it. -/
def debugOption (value : Option ℕ) : String :=
  match value with
  | some n => "Some(" ++ toString n ++ ")"
  | none => "None"

/-- The options as `Debug` writes them. -/
def OptionsSupported.debug (o : OptionsSupported) : String :=
  "OptionsSupported \x7b min_channel_confirmations: " ++ toString o.minChannelConfirmations.toNat ++
  ", min_onchain_payment_confirmations: " ++
    debugOption (o.minOnchainPaymentConfirmations.map UInt8.toNat) ++
  ", supports_zero_channel_reserve: " ++ toString o.supportsZeroChannelReserve ++
  ", min_onchain_payment_size_sat: " ++ debugOption (o.minOnchainPaymentSizeSat.map UInt64.toNat) ++
  ", max_channel_expiry_blocks: " ++ toString o.maxChannelExpiryBlocks.toNat ++
  ", min_initial_client_balance_sat: " ++ toString o.minInitialClientBalanceSat.toNat ++
  ", max_initial_client_balance_sat: " ++ toString o.maxInitialClientBalanceSat.toNat ++
  ", min_initial_lsp_balance_sat: " ++ toString o.minInitialLspBalanceSat.toNat ++
  ", max_initial_lsp_balance_sat: " ++ toString o.maxInitialLspBalanceSat.toNat ++
  ", min_channel_balance_sat: " ++ toString o.minChannelBalanceSat.toNat ++
  ", max_channel_balance_sat: " ++ toString o.maxChannelBalanceSat.toNat ++ " \x7d"

/-- A response to a `get_info` request. -/
structure GetInfoResponse where
  website : String
  options : OptionsSupported
  deriving DecidableEq, Repr

/-- The parameters of an order. -/
structure OrderParams where
  lspBalanceSat : UInt64
  clientBalanceSat : UInt64
  confirmsWithinBlocks : UInt32
  channelExpiryBlocks : UInt32
  token : String
  refundOnchainAddress : Option Address
  announceChannel : Bool
  deriving DecidableEq, Repr

/-- A request to create an order. -/
structure CreateOrderRequest where
  order : OrderParams
  deriving DecidableEq, Repr

/-- The state of an order. -/
inductive OrderState
  | created
  | completed
  | failed
  deriving DecidableEq, Repr

/-- The state of a payment. -/
inductive PaymentState
  | expectPayment
  | hold
  | paid
  | refunded
  deriving DecidableEq, Repr

/-- An on-chain payment that was detected. -/
structure OnchainPayment where
  outpoint : String
  sat : UInt64
  confirmed : Bool
  deriving DecidableEq, Repr

/-- How to pay for an order. -/
structure OrderPayment where
  state : PaymentState
  feeTotalSat : UInt64
  orderTotalSat : UInt64
  bolt11Invoice : Bolt11Invoice
  onchainAddress : Address
  minOnchainPaymentConfirmations : Option UInt8
  minFeeFor0conf : UInt8
  onchainPayment : OnchainPayment
  deriving DecidableEq, Repr

/-- The state of an ordered channel. -/
structure ChannelInfo where
  fundedAt : String
  fundingOutpoint : String
  expiresAt : String
  deriving DecidableEq, Repr

/-- A response to a `create_order` or `get_order` request. -/
structure CreateOrderResponse where
  orderId : OrderId
  order : OrderParams
  createdAt : DateTime
  expiresAt : DateTime
  orderState : OrderState
  payment : OrderPayment
  channel : Option ChannelInfo
  deriving DecidableEq, Repr

/-- A request to learn how an order stands. -/
structure GetOrderRequest where
  orderId : OrderId
  deriving DecidableEq, Repr

/-- The requests of LSPS1. -/
inductive LSPS1Request
  | getInfo (params : GetInfoRequest)
  | createOrder (params : CreateOrderRequest)
  | getOrder (params : GetOrderRequest)
  deriving DecidableEq, Repr

/-- The responses of LSPS1. -/
inductive LSPS1Response
  | getInfo (result : GetInfoResponse)
  | getInfoError (error : ResponseError)
  | createOrder (result : CreateOrderResponse)
  | createOrderError (error : ResponseError)
  | getOrder (result : CreateOrderResponse)
  | getOrderError (error : ResponseError)
  deriving DecidableEq, Repr

/-- The messages of LSPS1. -/
inductive LSPS1Message
  | request (requestId : RequestId) (request : LSPS1Request)
  | response (requestId : RequestId) (response : LSPS1Response)
  deriving DecidableEq, Repr

/-! ## Limits -/

/-- A value lies in a range. -/
def checkRange (min max value : UInt64) : Bool := decide (value ≥ min) && decide (value ≤ max)

/-- An order matches the options supported. -/
def isValid (order : OrderParams) (options : OptionsSupported) : Bool :=
  checkRange options.minInitialClientBalanceSat options.maxInitialClientBalanceSat
    order.clientBalanceSat &&
  checkRange options.minInitialLspBalanceSat options.maxInitialLspBalanceSat order.lspBalanceSat &&
  checkRange 1 options.maxChannelExpiryBlocks.toUInt64 order.channelExpiryBlocks.toUInt64

theorem checkRange_eq_true {min max value : UInt64} :
    checkRange min max value = true ↔ min ≤ value ∧ value ≤ max := by
  simp [checkRange]

/-! ## Examples -/

/-- The options of the examples. -/
def sampleOptions : OptionsSupported where
  minChannelConfirmations := 0
  minOnchainPaymentConfirmations := none
  supportsZeroChannelReserve := false
  minOnchainPaymentSizeSat := none
  maxChannelExpiryBlocks := 2016
  minInitialClientBalanceSat := 0
  maxInitialClientBalanceSat := 1000000
  minInitialLspBalanceSat := 0
  maxInitialLspBalanceSat := 1000000
  minChannelBalanceSat := 100000
  maxChannelBalanceSat := 1000000

/-- The order of the examples. -/
def sampleOrder : OrderParams where
  lspBalanceSat := 500000
  clientBalanceSat := 0
  confirmsWithinBlocks := 6
  channelExpiryBlocks := 144
  token := ""
  refundOnchainAddress := none
  announceChannel := true

/-- The confirmation of the order of the examples, for a fee. -/
def sampleResponse (fee : UInt64) : CreateOrderResponse where
  orderId := ⟨"o"⟩
  order := sampleOrder
  createdAt := ⟨0, 0⟩
  expiresAt := ⟨3600, 0⟩
  orderState := .created
  payment :=
    { state := .expectPayment
      feeTotalSat := fee
      orderTotalSat := fee
      bolt11Invoice := ⟨"ln"⟩
      onchainAddress := ⟨"bc"⟩
      minOnchainPaymentConfirmations := none
      minFeeFor0conf := 0
      onchainPayment := ⟨"", 0, false⟩ }
  channel := none

end LightningLiquidity.Lsps1
