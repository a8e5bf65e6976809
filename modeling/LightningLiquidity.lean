import LightningLiquidity.Basic
import LightningLiquidity.Lib.CheckedArith
import LightningLiquidity.Lib.Groups
import LightningLiquidity.Lib.Machine
import LightningLiquidity.Lib.PartialMap
import LightningLiquidity.Lsps2.Amounts
import LightningLiquidity.Lib.Shares
import LightningLiquidity.Lsps2.FeeSplit
import LightningLiquidity.Lsps2.PaymentQueue
import LightningLiquidity.Lib.GroupsOf
import LightningLiquidity.Lsps2.ArrivalQueue
import LightningLiquidity.Lsps2.Utils
import LightningLiquidity.Lsps2.Promise
import LightningLiquidity.Lsps2.Channel.Trace
import LightningLiquidity.Lsps2.Channel.Conservation
import LightningLiquidity.Lsps2.Channel.Coupling
import LightningLiquidity.Lsps2.Channel.FeePayments
import LightningLiquidity.Lsps2.Channel.Initial
import LightningLiquidity.Lsps2.Channel.SinglePart
import LightningLiquidity.Lsps2.Channel.Waiting
import LightningLiquidity.Lsps2.Channel.Splits
import LightningLiquidity.Lsps2.Channel.InFlight
import LightningLiquidity.Lsps2.Channel.Lifecycle
import LightningLiquidity.Lsps2.Service
import LightningLiquidity.Lsps2.Service.Effects
import LightningLiquidity.Lsps2.Service.Runs
import LightningLiquidity.Lsps2.Channel.Opening
import LightningLiquidity.Lsps2.Service.Bought
import LightningLiquidity.Lsps2.Service.Answers
import LightningLiquidity.Lsps2.Service.BuyRequests
import LightningLiquidity.Lsps2.Service.ChannelReady
import LightningLiquidity.Lsps2.Service.Forwarding
import LightningLiquidity.Lsps2.Service.Stranded
import LightningLiquidity.Lsps2.Service.Expiry
import LightningLiquidity.Lsps2.Service.Once
import LightningLiquidity.Lsps2.Service.Indices
import LightningLiquidity.Lib.Components
import LightningLiquidity.Lsps2.Service.PerPeer
import LightningLiquidity.Lib.Ledger
import LightningLiquidity.Lsps2.Service.Ledger
import LightningLiquidity.Lsps2.Service.Accounted
import LightningLiquidity.Lib.Locks
import LightningLiquidity.Lsps2.Service.Locks
import LightningLiquidity.Lsps2.Service.Deadlock
import LightningLiquidity.Events
import LightningLiquidity.Events.Blocking
import LightningLiquidity.Lib.Json
import LightningLiquidity.Lsps0.Ser
import LightningLiquidity.Lsps0.RoundTrip
import LightningLiquidity.Lsps0.Reading
import LightningLiquidity.Lsps0.Accepts
import LightningLiquidity.Lib.Spelling
import LightningLiquidity.Lsps0.Spelling
import LightningLiquidity.Lsps0.Handlers
import LightningLiquidity.Lsps2.Client
import LightningLiquidity.Lsps2.Scids
import LightningLiquidity.Lsps2.Client.Effects
import LightningLiquidity.Lsps2.Client.Answers
import LightningLiquidity.Lsps1.Msgs
import LightningLiquidity.Lsps1.Client
import LightningLiquidity.Lsps1.Client.Effects
import LightningLiquidity.Lsps1.Client.Fees
import LightningLiquidity.Lsps1.Service
import LightningLiquidity.Lsps1.Service.Effects
import LightningLiquidity.Lsps1.Service.Once
import LightningLiquidity.Lsps1.Limits
import LightningLiquidity.Lsps1.Client.Orders
import LightningLiquidity.Lsps1.Polling
import LightningLiquidity.Manager
import LightningLiquidity.Manager.Panics
import LightningLiquidity.Manager.Chain
import LightningLiquidity.Manager.Attribution
import LightningLiquidity.Manager.Isolation
import LightningLiquidity.Manager.Honest
import LightningLiquidity.Manager.Enqueued
import LightningLiquidity.Manager.Agreement
import LightningLiquidity.Manager.Honoured
import LightningLiquidity.Manager.Charged
import LightningLiquidity.Manager.Deadlock
import LightningLiquidity.Manager.Whereabouts
import LightningLiquidity.Lsps1.Builds
import LightningLiquidity.Lsps1.Agreement
