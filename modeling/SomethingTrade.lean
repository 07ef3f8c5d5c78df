import SomethingTrade.Dict
import SomethingTrade.Bisect
import SomethingTrade.SortedIndex
import SomethingTrade.StableSort
import SomethingTrade.Machine
import SomethingTrade.Decimal
import SomethingTrade.Loops
import SomethingTrade.Json
import SomethingTrade.OrderbookState
import SomethingTrade.OrderbookOutcome
import SomethingTrade.OrderbookIndex
import SomethingTrade.OrderbookLedger
import SomethingTrade.OrderbookRecovery
import SomethingTrade.OrderbookQuality
import SomethingTrade.CleanSample
import SomethingTrade.LabeledInput
import SomethingTrade.LabeledRows
import SomethingTrade.MarketEvents
import SomethingTrade.MarketState
import SomethingTrade.OrderbookPhase41
import SomethingTrade.Phase41Accounting
import SomethingTrade.Phase41Samples
import SomethingTrade.BatchWriter
import SomethingTrade.PolymarketOrderbook
import SomethingTrade.PolymarketMessages
import SomethingTrade.PolymarketCompleteness
import SomethingTrade.PolymarketReconnect
import SomethingTrade.PolymarketLadders
import SomethingTrade.MarketWindows
import SomethingTrade.MarketUniverse
import SomethingTrade.GapObservation
import SomethingTrade.GapDetector
import SomethingTrade.GapAccounting
import SomethingTrade.DeadMarkets
import SomethingTrade.ControlledCapture
import SomethingTrade.AutoCollection
import SomethingTrade.EdgeRobustness
import SomethingTrade.ResearchSamples
import SomethingTrade.ReferenceEvents
import SomethingTrade.TimeProtocols
import SomethingTrade.MetricSeries
import SomethingTrade.LabelMetrics
import SomethingTrade.StreamingLabels
import SomethingTrade.StreamingAgreement
import SomethingTrade.GapWalks
import SomethingTrade.GapRecords
import SomethingTrade.GapEndings
import SomethingTrade.MidRepricing
import SomethingTrade.RejectTaxonomy
import SomethingTrade.PolymarketVerdicts
import SomethingTrade.OrderbookReplay
import SomethingTrade.QueuePurge
import SomethingTrade.SnapshotRefusal
import SomethingTrade.Batch
import SomethingTrade.PolymarketClient
import SomethingTrade.PolymarketBatches
import SomethingTrade.MarketSubscriptions
import SomethingTrade.TickSizes
import SomethingTrade.TickSizeRefresh
import SomethingTrade.SubscriptionStream
import SomethingTrade.RollingReturns
import SomethingTrade.LabelSearches
import SomethingTrade.LabeledQuality
import SomethingTrade.RuntimeSelectors
import SomethingTrade.DirectionMapping
import SomethingTrade.RollingSlugs
import SomethingTrade.OrderbookReadiness
import SomethingTrade.SymbolFrame
import SomethingTrade.SymbolCleanup
import SomethingTrade.PolymarketReadiness
import SomethingTrade.Cooldown
import SomethingTrade.GapCooldown
import SomethingTrade.BookFeatures
import SomethingTrade.JsonLines
import SomethingTrade.CleanSampleFiles
import SomethingTrade.BooktickerQuotes
import SomethingTrade.ReferenceFiles
import SomethingTrade.TimestampAudit
import SomethingTrade.TimestampUnits
import SomethingTrade.ClockOffset
import SomethingTrade.ProtocolLeakage
import SomethingTrade.HybridValidity
import SomethingTrade.ProtocolSelection
import SomethingTrade.LeakFindings
import SomethingTrade.LeakAgreement
import SomethingTrade.SourceMetrics
import SomethingTrade.BooktickerLabels
import SomethingTrade.LabelChoices
import SomethingTrade.ReportEvaluation
import SomethingTrade.ProtocolReports
import SomethingTrade.LagReports
import SomethingTrade.ReferenceReports
import SomethingTrade.Reevaluation
import SomethingTrade.ReferenceReevaluation
import SomethingTrade.RankSum
import SomethingTrade.AucScore
import SomethingTrade.ModelDirection
import SomethingTrade.Chunks
import SomethingTrade.PredictionBuckets
import SomethingTrade.TradeWindows
import SomethingTrade.SplitIntegrity
import SomethingTrade.Interpolation
import SomethingTrade.BucketEdges
import SomethingTrade.Backtracking
import SomethingTrade.ShaManifest
import SomethingTrade.TradableWindow
import SomethingTrade.DetectionRates
import SomethingTrade.RejectQuality
import SomethingTrade.EmpiricalBuckets
import SomethingTrade.StaleFeed
import SomethingTrade.DatasetReport
import SomethingTrade.DatasetReadiness
import SomethingTrade.ReadinessLevels
import SomethingTrade.StallAlarms
import SomethingTrade.Calendar
import SomethingTrade.TextScan
import SomethingTrade.KernelLog
import SomethingTrade.HotPathProfile
import SomethingTrade.HotPathReports
import SomethingTrade.HotPathBuild
import SomethingTrade.HotPathReevaluation
import SomethingTrade.HotPathVerdict
import SomethingTrade.Replica
import SomethingTrade.SymbolRuns
import SomethingTrade.ExchangeBook
import SomethingTrade.Conveyor
import SomethingTrade.OrderbookCapture
import SomethingTrade.CaptureRuns
import SomethingTrade.Phase41Report
import SomethingTrade.Phase41Certificate
import SomethingTrade.EventLogger
import SomethingTrade.GapMonitor
import SomethingTrade.GapMonitorRuns
import SomethingTrade.GapAdmissions
import SomethingTrade.CoverageReport
import SomethingTrade.CoverageRecapture
import SomethingTrade.CoverageVerdicts
import SomethingTrade.CoverageRuntime
