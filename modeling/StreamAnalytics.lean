import StreamAnalytics.Shared.ShardLeases
import StreamAnalytics.Aggregation.EmissionOrder
import StreamAnalytics.Aggregation.OpenWindows
import StreamAnalytics.Aggregation.Rejections
import StreamAnalytics.Adapters.ReplayOrder
import StreamAnalytics.Runtime.Recovery
import StreamAnalytics.Delivery.RouterOrder
import StreamAnalytics.Marketdata.Idempotency
import StreamAnalytics.Marketdata.ReconnectDelays
import StreamAnalytics.Marketdata.TickerBuckets
import StreamAnalytics.Marketdata.WsQueue
import StreamAnalytics.Delivery.EventChain
import StreamAnalytics.Delivery.SharedMetadata
import StreamAnalytics.Delivery.SnapshotNumbers
import StreamAnalytics.Delivery.SnapshotSharing
import StreamAnalytics.Delivery.QuietStreams
import StreamAnalytics.Adapters.InMemoryBus
import StreamAnalytics.Adapters.BatchWriter
import StreamAnalytics.Aggregation.WindowLifecycle
import StreamAnalytics.Aggregation.RollupWindows
import StreamAnalytics.Aggregation.BookMap
import StreamAnalytics.Aggregation.CandleRetry
import StreamAnalytics.Aggregation.CatchUp
import StreamAnalytics.Evidence.LelInput
import StreamAnalytics.Workspace.SaveWorkspace
import StreamAnalytics.Aggregation.CrossVenueBooks
import StreamAnalytics.Aggregation.CumulativeDelta
import StreamAnalytics.Delivery.RateLimiter
import StreamAnalytics.Marketdata.StreamHistory
import StreamAnalytics.Aggregation.CandleCalls
import StreamAnalytics.Aggregation.TapePrices
import StreamAnalytics.Aggregation.FuseDepthSpec
import StreamAnalytics.Shared.ThresholdEngine
import StreamAnalytics.Aggregation.GroupedBook
import StreamAnalytics.Adapters.Quarantine
import StreamAnalytics.Insights.BinSize
import StreamAnalytics.Insights.SessionProfiles
import StreamAnalytics.Insights.ValueArea
