import LightningLiquidity.Lsps0.Handlers
import LightningLiquidity.Lsps0.Ser
import LightningLiquidity.Lsps2.Client
import LightningLiquidity.Lsps2.Service

/-!
# The liquidity manager

The manager reads the messages of peers and hands them to the handler they are
for (`handleCustomMessage`); a peer that sends something unreadable is ignored
from then on. The messages and events of the handlers are queued until they are
fetched. When messages are fetched to be sent, the methods of the requests among
them are entered into the map responses are read with.

All calls together, of peers and of the user, are the machine
`LiquidityManager.machine`. A panic leaves locks poisoned, which is not modelled: what a
call does is promised as long as all calls before it return.
-/

namespace LightningLiquidity

/-! ## Configurations -/

/-- The configuration of the LSPS2 service. -/
structure LSPS2ServiceConfig where
  promiseSecret : List UInt8

/-- The configuration of the LSPS2 client. -/
structure LSPS2ClientConfig where

/-- The services to be run. -/
structure LiquidityServiceConfig where
  lsps2ServiceConfig : Option LSPS2ServiceConfig

/-- The clients to be run, besides that of LSPS0. -/
structure LiquidityClientConfig where
  lsps2ClientConfig : Option LSPS2ClientConfig

/-! ## The manager -/

/-- The events of all handlers. -/
inductive Event
  | lsps0Client (event : LSPS0ClientEvent)
  | lsps2Client (event : LSPS2ClientEvent)
  | lsps2Service (event : LSPS2ServiceEvent)
  deriving DecidableEq

/-- The errors of calls to the manager and its handlers. -/
inductive ManagerError
  /-- `Ignoring message from peer` -/
  | ignoringMessage (senderNodeId : PublicKey)
  /-- `Failed to deserialize invalid LSPS message. Ignoring peer from now on.` -/
  | failedToDeserialize (senderNodeId : PublicKey)
  /-- `did not understand a message we previously sent`, by the peer. -/
  | didNotUnderstand (senderNodeId : PublicKey)
  /-- `Received LSPS0 request message without LSPS0 service handler configured.` -/
  | noLsps0ServiceHandler (senderNodeId : PublicKey)
  /-- `Received LSPS2 response message without LSPS2 client handler configured.` -/
  | noLsps2ClientHandler (senderNodeId : PublicKey)
  /-- `Received LSPS2 request message without LSPS2 service handler configured.` -/
  | noLsps2ServiceHandler (senderNodeId : PublicKey)
  | lsps0 (e : LSPS0Error)
  | lsps2Client (e : LSPS2ClientError)
  | lsps2Service (e : HandlerError)
  deriving DecidableEq

/-- The outcome with its error replaced. -/
def Outcome.mapError {ε ε' : Type} (f : ε → ε') : Outcome ε → Outcome ε'
  | ok => ok
  | err e => err (f e)
  | panic => panic

@[simp] theorem Outcome.mapError_eq_panic {ε ε' : Type} (f : ε → ε') (o : Outcome ε) :
    o.mapError f = panic ↔ o = panic := by
  cases o <;> simp [mapError]

/-- The liquidity manager. -/
structure LiquidityManager where
  pendingMessages : List (PublicKey × LSPSMessage)
  pendingEvents : List Event
  requestIdToMethodMap : PartialMap RequestId LSPSMethod
  ignoredPeers : PartialMap PublicKey Unit
  lsps0ServiceHandler : Option LSPS0ServiceHandler
  lsps2ServiceHandler : Option LSPS2ServiceHandler
  lsps2ClientHandler : Option LSPS2ClientHandler

namespace LiquidityManager

/-- A new manager. -/
def new (serviceConfig : Option LiquidityServiceConfig)
    (clientConfig : Option LiquidityClientConfig) : LiquidityManager where
  pendingMessages := []
  pendingEvents := []
  requestIdToMethodMap := .empty
  ignoredPeers := .empty
  lsps0ServiceHandler := serviceConfig.map fun _ => { protocols := [] }
  lsps2ServiceHandler := serviceConfig.bind fun config =>
    config.lsps2ServiceConfig.map fun config => .new config.promiseSecret
  lsps2ClientHandler := clientConfig.bind fun config => config.lsps2ClientConfig.map fun _ => .new

/-- The manager with messages and events queued. -/
def enqueue (self : LiquidityManager) (messages : List (PublicKey × LSPSMessage))
    (events : List Event) : LiquidityManager :=
  { self with
    pendingMessages := self.pendingMessages ++ messages
    pendingEvents := self.pendingEvents ++ events }

/-- What an LSPS0 handler does, done by the manager. -/
def finishLsps0 (self : LiquidityManager) (out : LSPS0Output) :
    LiquidityManager × Outcome ManagerError :=
  (self.enqueue (out.messages.map fun (p, message) => (p, .lsps0 message))
    (out.events.map .lsps0Client), out.result.mapError .lsps0)

/-- What the LSPS2 client does, done by the manager. -/
def finishLsps2Client (self : LiquidityManager) (r : LSPS2ClientHandler × LSPS2ClientOutput) :
    LiquidityManager × Outcome ManagerError :=
  ({ self with lsps2ClientHandler := some r.1 }.enqueue
    (r.2.messages.map fun (p, message) => (p, .lsps2 message)) (r.2.events.map .lsps2Client),
    r.2.result.mapError .lsps2Client)

/-- What the LSPS2 service does, done by the manager. -/
def finishLsps2Service (self : LiquidityManager) (r : LSPS2ServiceHandler × Output) :
    LiquidityManager × Outcome ManagerError :=
  ({ self with lsps2ServiceHandler := some r.1 }.enqueue
    (r.2.messages.map fun (p, message) => (p, .lsps2 message)) (r.2.events.map .lsps2Service),
    r.2.result.mapError .lsps2Service)

/-! ## Messages -/

/-- A message goes to the handler it is for: responses to clients, requests to
    services. -/
def handleLspsMessage (env : Externals) (now : UInt64) (self : LiquidityManager)
    (msg : LSPSMessage) (senderNodeId : PublicKey) : LiquidityManager × Outcome ManagerError :=
  match msg with
  | .invalid _ => (self, .err (.didNotUnderstand senderNodeId))
  | .lsps0 (.response requestId response) =>
    self.finishLsps0 (LSPS0ClientHandler.handleMessage (.response requestId response) senderNodeId)
  | .lsps0 (.request requestId request) =>
    match self.lsps0ServiceHandler with
    | some handler =>
      self.finishLsps0 (handler.handleMessage (.request requestId request) senderNodeId)
    | none => (self, .err (.noLsps0ServiceHandler senderNodeId))
  | .lsps2 (.response requestId response) =>
    match self.lsps2ClientHandler with
    | some handler =>
      self.finishLsps2Client (handler.handleMessage (.response requestId response) senderNodeId)
    | none => (self, .err (.noLsps2ClientHandler senderNodeId))
  | .lsps2 (.request requestId request) =>
    match self.lsps2ServiceHandler with
    | some handler =>
      self.finishLsps2Service (handler.handleMessage env now (.request requestId request) senderNodeId)
    | none => (self, .err (.noLsps2ServiceHandler senderNodeId))

/-- A peer sends a message, of the given text. -/
def handleCustomMessage (env : Externals) (serde : Serde) (now : UInt64) (self : LiquidityManager)
    (payload : String) (senderNodeId : PublicKey) : LiquidityManager × Outcome ManagerError :=
  if (self.ignoredPeers senderNodeId).isSome then
    (self, .err (.ignoringMessage senderNodeId))
  else
    let (message, requestIdToMethodMap) :=
      LSPSMessage.fromStrWithIdMap serde payload self.requestIdToMethodMap
    let self := { self with requestIdToMethodMap }
    match message with
    | none =>
      let error := { code := jsonrpcInvalidMessageErrorCode
                     message := jsonrpcInvalidMessageErrorMessage
                     data := none }
      let self := self.enqueue [(senderNodeId, .invalid error)] []
      ({ self with ignoredPeers := self.ignoredPeers.insert senderNodeId () },
        .err (.failedToDeserialize senderNodeId))
    | some message => self.handleLspsMessage env now message senderNodeId

/-- The queued messages are fetched, as texts. The methods of all requests among them
    are kept until they are answered. -/
def getAndClearPendingMsg (serde : Serde) (self : LiquidityManager) :
    LiquidityManager × List (PublicKey × String) :=
  let requestIdsAndMethods := self.pendingMessages.filterMap fun (_, msg) =>
    msg.getRequestIdAndMethod
  let requestIdToMethodMap := requestIdsAndMethods.foldl
    (fun map (requestId, method) => map.insert requestId method) self.requestIdToMethodMap
  ({ self with pendingMessages := [], requestIdToMethodMap },
    self.pendingMessages.filterMap fun (publicKey, msg) =>
      (serde.writeJson (msg.serialize serde)).map fun payload => (publicKey, payload))

/-! ## The manager as a machine -/

/-- A call the user makes to the handler of the service: any but to hand it a message. -/
structure UserCall where
  call : ServiceCall
  ne_handleMessage : ∀ message p, call ≠ .handleMessage message p

/-- A call to the manager, or to a handler of it. -/
inductive ManagerCall
  | handleCustomMessage (payload : String) (senderNodeId : PublicKey)
  | getAndClearPendingMsg
  | nextEvent
  | getAndClearPendingEvents
  | listProtocols (counterpartyNodeId : PublicKey)
  | requestOpeningParams (counterpartyNodeId : PublicKey) (token : Option String)
  | selectOpeningParams (counterpartyNodeId : PublicKey) (paymentSizeMsat : Option UInt64)
      (openingFeeParams : OpeningFeeParams)
  | service (call : UserCall)

/-- A call to the manager, with the answers of the channel manager, the time it is
    made at, and the random bytes it draws. -/
structure ManagerInput where
  call : ManagerCall
  cm : ChannelManager
  now : UInt64
  entropy : List UInt8

/-- How a call to the manager ends, and what it returns: messages to send, events,
    and the calls made to the channel manager. -/
structure ManagerOutput where
  result : Outcome ManagerError
  sent : List (PublicKey × String) := []
  events : List Event := []
  cmCalls : List CMCall := []

/-- A call to the manager. One to a handler that is not configured cannot be made. -/
def step (env : Externals) (serde : Serde) (self : LiquidityManager) (i : ManagerInput) :
    LiquidityManager × ManagerOutput :=
  match i.call with
  | .handleCustomMessage payload senderNodeId =>
    let (self, result) := self.handleCustomMessage env serde i.now payload senderNodeId
    (self, { result })
  | .getAndClearPendingMsg =>
    let (self, sent) := self.getAndClearPendingMsg serde
    (self, { result := .ok, sent })
  | .nextEvent =>
    ({ self with pendingEvents := self.pendingEvents.tail },
      { result := .ok, events := self.pendingEvents.head?.toList })
  | .getAndClearPendingEvents =>
    ({ self with pendingEvents := [] }, { result := .ok, events := self.pendingEvents })
  | .listProtocols counterpartyNodeId =>
    let (p, message) := LSPS0ClientHandler.listProtocols (generateRequestId i.entropy)
      counterpartyNodeId
    (self.enqueue [(p, .lsps0 message)] [], { result := .ok })
  | .requestOpeningParams counterpartyNodeId token =>
    match self.lsps2ClientHandler with
    | some handler =>
      let (self, result) := self.finishLsps2Client <|
        handler.requestOpeningParams (generateRequestId i.entropy) counterpartyNodeId token
      (self, { result })
    | none => (self, { result := .ok })
  | .selectOpeningParams counterpartyNodeId paymentSizeMsat openingFeeParams =>
    match self.lsps2ClientHandler with
    | some handler =>
      let (self, result) := self.finishLsps2Client <|
        handler.selectOpeningParams (generateRequestId i.entropy) counterpartyNodeId paymentSizeMsat
          openingFeeParams
      (self, { result })
    | none => (self, { result := .ok })
  | .service call =>
    match self.lsps2ServiceHandler with
    | some handler =>
      let r := handler.step env { call := call.call, cm := i.cm, now := i.now }
      let (self, result) := self.finishLsps2Service r
      (self, { result, cmCalls := r.2.cmCalls })
    | none => (self, { result := .ok })

/-- The calls to a manager. -/
def machine (env : Externals) (serde : Serde) : Machine LiquidityManager ManagerInput ManagerOutput :=
  ⟨step env serde⟩

end LiquidityManager

end LightningLiquidity
