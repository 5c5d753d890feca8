import StockMarket.Deployment.CancelTruth
import StockMarket.Deployment.Cluster
import StockMarket.Deployment.Discovery
import StockMarket.Deployment.DiscoveryLaws
import StockMarket.Deployment.EventAcks
import StockMarket.Deployment.GatewayMetrics
import StockMarket.Deployment.MetricsLaws
import StockMarket.Deployment.Proxy
import StockMarket.Deployment.ProxyAccounts
import StockMarket.Deployment.ProxyRuns
import StockMarket.Deployment.ProxyThreads
import StockMarket.Deployment.RawRequests
import StockMarket.Deployment.Restarts
import StockMarket.Deployment.ShardPartition
import StockMarket.Deployment.ShortCodes
import StockMarket.Deployment.SingleMatcher
import StockMarket.Deployment.SymbolAgreement
import StockMarket.Deployment.Universe
import StockMarket.Deployment.Wire
import StockMarket.Deployment.WireAnswers
import StockMarket.Deployment.WireLaws
import StockMarket.Deployment.WireRequests
import StockMarket.Deployment.WireRuns
import StockMarket.Deployment.WireViews
import StockMarket.Events.Inbox
import StockMarket.Events.InboxLaws
import StockMarket.Events.MarketEvents
import StockMarket.Events.PendingQuery
import StockMarket.Library.Buckets
import StockMarket.Library.Consume
import StockMarket.Library.Contract
import StockMarket.Library.Decimal
import StockMarket.Library.Dict
import StockMarket.Library.Json
import StockMarket.Library.JsonText
import StockMarket.Library.Locks
import StockMarket.Library.Machine
import StockMarket.Library.Outcome
import StockMarket.Library.Program
import StockMarket.Library.Sorted
import StockMarket.Library.Utf8
import StockMarket.Matcher.Desk
import StockMarket.Matcher.GaugeLaws
import StockMarket.Matcher.GaugeMoves
import StockMarket.Matcher.Gauges
import StockMarket.Matcher.Locking
import StockMarket.Matcher.NextOpen
import StockMarket.Matcher.OrderIdMap
import StockMarket.Matcher.SessionIsolation
import StockMarket.Orderbook.Callbacks
import StockMarket.Orderbook.Compaction
import StockMarket.Orderbook.EagerExpiry
import StockMarket.Orderbook.NoTrace
import StockMarket.Orderbook.Priority
import StockMarket.Orderbook.ReadPaths
import StockMarket.Orderbook.ReferenceLaws
import StockMarket.Orderbook.Uncrossed
import StockMarket.Participants.EventReactive
import StockMarket.Participants.Events
import StockMarket.Participants.PlanShape
import StockMarket.Participants.PlanSpacing
import StockMarket.Participants.PlanTimes
import StockMarket.Participants.Planner
import StockMarket.Participants.PlannerLaws
import StockMarket.Participants.PlannerRuns
import StockMarket.Participants.PoolIndependence
import StockMarket.Participants.ReactionOrders
import StockMarket.Participants.TraderLaws
import StockMarket.Participants.Traders
import StockMarket.Participants.Types
import StockMarket.Profiles.Deletion
import StockMarket.Profiles.Store
import StockMarket.Profiles.StoreLaws
import StockMarket.ReferenceData.ImportLaws
import StockMarket.ReferenceData.Krx
import StockMarket.ReferenceData.Service
import StockMarket.Runner.Client
import StockMarket.Runner.Completion
import StockMarket.Runner.Coordinator
import StockMarket.Runner.CoordinatorCalls
import StockMarket.Runner.CoordinatorLaws
import StockMarket.Runner.DueEvents
import StockMarket.Runner.EventErrors
import StockMarket.Runner.EventPolls
import StockMarket.Runner.Fleet
import StockMarket.Runner.FleetRuns
import StockMarket.Runner.Housekeeping
import StockMarket.Runner.HttpRunner
import StockMarket.Runner.HttpSlots
import StockMarket.Runner.IntentFlow
import StockMarket.Runner.OrderClosing
import StockMarket.Runner.Profiles
import StockMarket.Runner.ReactionFlow
import StockMarket.Runner.RoundRobin
import StockMarket.Runner.RunUntilStopped
import StockMarket.Runner.SessionLoop
import StockMarket.Runner.SubmitReports
import StockMarket.Runner.TickClock
import StockMarket.Runner.WaitingTime
